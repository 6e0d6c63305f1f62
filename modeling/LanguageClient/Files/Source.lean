import LanguageClient.Fault
import LanguageClient.Files.Tree
import LanguageClient.Text.Lines

/-! # Reading files

Files are read through a source, which gives the bytes at a path or says why it cannot. To
ask whether there is a file is to look for it, and a path that is too long to be looked for is
refused. Nothing is looked for at a path that no file can have.
-/

namespace LanguageClient

/-- What there is to read at a path. -/
abbrev FileSource := Text → Except FileFault (List UInt8)

/-- Why a text file cannot be read. -/
inductive TextFault where
  | file (fault : FileFault)
  | encoding (fault : Text.Utf8Fault)
  deriving Repr, DecidableEq

/-- The words for a text file that cannot be read. -/
def TextFault.messageFor (path : Text) : TextFault → Text
  | .file fault => fault.messageFor path
  | .encoding fault => fault.message

namespace FileSource

/-- Whether a path leads anywhere, to a file or not. -/
def exists? (source : FileSource) (path : Text) : Except Fault Bool :=
  if !Path.isUsable path then .ok false
  else match source path with
  | .error .nameTooLong => .error (.file .nameTooLong path)
  | .error .notFound => .ok false
  | .error .notAFolder => .ok false
  | .error .badDescriptor => .ok false
  | .error .denied => .ok true
  | .error .isAFolder => .ok true
  | .ok _ => .ok true

def isFile (source : FileSource) (path : Text) : Except Fault Bool :=
  match source path with
  | .error .isAFolder => .ok false
  | _ => source.exists? path

/-- The characters of a text file, every line end read as a line feed. -/
def readText (source : FileSource) (path : Text) : Except TextFault (List Char) :=
  match source path with
  | .error fault => .error (.file fault)
  | .ok bytes =>
    match Text.decodeUtf8 bytes with
    | .error fault => .error (.encoding fault)
    | .ok text => .ok (Text.unifyNewlines text)

end FileSource

end LanguageClient
