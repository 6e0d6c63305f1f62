import LanguageClient.Json.Reader
import LanguageClient.Settings.Defaults
import LanguageClient.Settings.Locations
import LanguageClient.Settings.Merge

/-! # Loading settings

A settings file is an object laid over defaults. One that cannot be used is left alone: the
defaults take its place, and the reason is kept. Only a path that cannot be looked for, and a
file that is nested too deep, end the loading.
-/

namespace LanguageClient.Settings

/-- Why a settings file is of no use. -/
inductive StoreFault where
  | unreadable (path : Text) (fault : TextFault)
  | malformed (path : Text) (fault : Json.ReadFault)
  | notAnObject (path kind : Text)
  deriving Repr, DecidableEq

/-- The words for a file that cannot be read. -/
def unreadableMessage (path reason : Text) : Text :=
  "Could not read settings file '" ++ path ++ "': " ++ reason

def StoreFault.message : StoreFault → Text
  | .unreadable path fault => unreadableMessage path (fault.messageFor path)
  | .malformed path fault => unreadableMessage path fault.message
  | .notAnObject path kind =>
    "Settings root in '" ++ path ++ "' must be a JSON object, found " ++ kind ++ "."

variable [Limits]

/-- The entries of a settings file, none with the reason if it is of no use. -/
def readFile (source : FileSource) (path : Text) :
    Except Fault (Json.Entries × Option StoreFault) :=
  match source.readText path with
  | .error fault => .ok ([], some (.unreadable path fault))
  | .ok text =>
    match Json.read text with
    | .error (.nestedTooDeep container) => .error (.nestedTooDeep container.name)
    | .error fault => .ok ([], some (.malformed path fault))
    | .ok (.obj entries) => .ok (entries, none)
    | .ok other => .ok ([], some (.notAnObject path other.kind))

/-- The entries of the file at a path, none if there is no file. -/
def readIfThere (source : FileSource) (path : Option Text) :
    Except Fault (Json.Entries × Option StoreFault) :=
  match path.map Path.tidy with
  | none => .ok ([], none)
  | some path =>
    match source.exists? path with
    | .error fault => .error fault
    | .ok false => .ok ([], none)
    | .ok true => readFile source path

/-- Settings as they were loaded, with the reason why the file was of no use, if it was. -/
structure Loaded (κ : Type) where
  data : Table κ Json
  fault : Option StoreFault

/-- Load settings from a file, if there is one, over defaults. -/
def load (source : FileSource) (path : Option Text) (defaults : Json.Entries)
    (replaced : List Text) : Except Fault (Loaded Text) :=
  match readIfThere source path with
  | .error fault => .error fault
  | .ok (entries, fault) => do
    let settings ← copied entries
    let data ← layOver settings defaults replaced
    pure ⟨data, fault⟩

/-- The settings of an editor: the first file found, over the default settings. Languages
    that a file sets take the place of all default languages. -/
def loadEditor (source : FileSource) (places : List Text) : Except Fault Json.Entries := do
  let place ← firstExisting? source places
  let loaded ← load source place defaults ["languages"]
  pure loaded.data

end LanguageClient.Settings
