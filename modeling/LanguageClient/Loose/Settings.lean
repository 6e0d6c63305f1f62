import LanguageClient.Loose.Document
import LanguageClient.Settings.Store
import LanguageClient.Settings.Tables

/-! # Settings from loose values

Laying settings over defaults, and loading them, where a host hands over whatever it has. The
values are read in the order in which they are needed, and the first one that is of no use
ends the call.
-/

namespace LanguageClient.Loose

/-- The items of a list, which an object has in its names and a text in its characters. -/
def itemsOf : Json → Except Fault (List Json)
  | .arr items => .ok items
  | .obj entries => .ok ((Table.keys entries).map Json.str)
  | .str text => .ok (text.toList.map (fun c => .str (Text.singleton c)))
  | other => .error (.withoutItems other.kind)

/-- Check that all of some names can be kept. -/
def checkNames (names : List Json) : Except Fault Unit :=
  match names.findSome? refusal? with
  | none => .ok ()
  | some fault => .error fault

variable [Limits]

/-- Settings laid over defaults. -/
def mergeSettings (data defaults replaced : Json) : Except Fault (Table Json Json) := do
  let names ← itemsOf replaced
  checkNames names
  let settings ← Settings.copied (← Settings.tableOf data)
  match defaults with
  | .obj defaults => Settings.layOver settings (Settings.ofEntries defaults) names
  | other => .error (.withoutPart other.kind "items")

def pathOf : Json → Except Fault Text
  | .str path => .ok path
  | other => .error (.notAPath other.kind)

def pathsOf (places : Json) : Except Fault (List Text) := do
  let places ← itemsOf places
  places.mapM pathOf

/-- The variables of an environment. Where none is handed over, there are none. -/
def variablesIn : Json → Except Fault Json.Entries
  | .null => .ok []
  | .obj entries => .ok entries
  | other => .error (.withoutPart other.kind "get")

/-- What the places of settings depend on, given the home folder where no variable names
    one. -/
def whereaboutsOf (folder environment : Json) (homeFolder : Text) :
    Except Fault Settings.Whereabouts := do
  let folder ← pathOf folder
  let known ← variablesIn environment
  let configHome := ((Json.obj known).field "XDG_CONFIG_HOME").asTextOrEmpty
  let home := ((Json.obj known).field "HOME").asTextOrEmpty
  pure { folder, configHome, home, homeFolder }

/-- The path of a settings file, which may be missing. -/
def settingsPath? : Json → Except Fault (Option Text)
  | .null => .ok none
  | value => (pathOf value).map some

/-- Load settings from a file, if there is one, over defaults. -/
def loadSettings (source : FileSource) (path defaults replaced : Json) :
    Except Fault (Settings.Loaded Json) := do
  let path ← settingsPath? path
  let defaults ← Settings.copied (← Settings.tableOf defaults)
  let names ← itemsOf replaced
  let (entries, fault) ← Settings.readIfThere source path
  checkNames names
  let settings ← Settings.copied (Settings.ofEntries entries)
  let data ← Settings.layOver settings defaults names
  pure ⟨data, fault⟩

end LanguageClient.Loose
