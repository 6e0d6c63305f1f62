import LanguageClient.Files.Source
import LanguageClient.Path
import LanguageClient.Text.Blank

/-! # Where settings are kept

The places that are searched for a settings file, the most specific first.
-/

namespace LanguageClient.Settings

def fileName : Text := "editor.json"

/-- The name of the folder that settings files stand in. -/
def folderName : Text := "texteditor"

/-- What the places depend on: the working folder, the values of the two variables, and the
    home folder where the variable for it is blank. -/
structure Whereabouts where
  folder : Text
  configHome : Text := ""
  home : Text := ""
  homeFolder : Text
  deriving Repr, DecidableEq

def candidates (whereabouts : Whereabouts) : List Text :=
  let configHome := Text.strip whereabouts.configHome
  let home := Text.strip whereabouts.home
  let own := folderName ++ "/" ++ fileName
  [Path.join whereabouts.folder fileName] ++
    (if configHome.isEmpty then [] else [Path.join configHome own]) ++
    [Path.join (if home.isEmpty then whereabouts.homeFolder else home) (".config/" ++ own)]

/-- The first place with a file. Places behind it are not looked at. -/
def firstExisting? (source : FileSource) : List Text → Except Fault (Option Text)
  | [] => .ok none
  | place :: rest =>
    match source.isFile place with
    | .error fault => .error fault
    | .ok true => .ok (some place)
    | .ok false => firstExisting? source rest

end LanguageClient.Settings
