import LanguageClient.Text.Quoted

/-! # File faults

Why the system refuses to open or run a file, in its numbers and words.
-/

namespace LanguageClient

/-- Why a file cannot be used. -/
inductive FileFault where
  | notFound
  | badDescriptor
  | denied
  | notAFolder
  | isAFolder
  | nameTooLong
  deriving Repr, DecidableEq

namespace FileFault

def code : FileFault → Int
  | .notFound => 2
  | .badDescriptor => 9
  | .denied => 13
  | .notAFolder => 20
  | .isAFolder => 21
  | .nameTooLong => 36

def text : FileFault → Text
  | .notFound => "No such file or directory"
  | .badDescriptor => "Bad file descriptor"
  | .denied => "Permission denied"
  | .notAFolder => "Not a directory"
  | .isAFolder => "Is a directory"
  | .nameTooLong => "File name too long"

def numbered (code : Int) (text : Text) : Text :=
  "[Errno " ++ toString code ++ "] " ++ text

def message (fault : FileFault) : Text :=
  numbered fault.code fault.text

/-- A fault as it is reported of a file. -/
def messageFor (fault : FileFault) (path : Text) : Text :=
  fault.message ++ ": " ++ Text.quoted path

end FileFault

end LanguageClient
