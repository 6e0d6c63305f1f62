import LanguageClient.Json.Display
import LanguageClient.Path
import LanguageClient.Text.Lowercase

/-! # Languages and their servers

Which language a file belongs to and which command starts the server of that language. A
language is known by the suffixes of its files, without regard to letter case, and the first
language with a suffix has it.
-/

namespace LanguageClient

/-- A language as the settings describe it. -/
structure Language where
  name : Text
  suffixes : List Text
  /-- The command that starts its server; empty when it has none. -/
  command : Text := ""
  deriving Repr, DecidableEq

namespace Language

/-- Whether there is a server for the language. -/
def hasServer (language : Language) : Bool :=
  !language.command.isEmpty

/-- The common form of a suffix: no blanks around it, lower case, a dot in front. A blank
    suffix is none. -/
def normalSuffix (suffix : Text) : Text :=
  let text := Text.lowercase (Text.strip suffix)
  if text.isEmpty || text.startsWith "." then text else "." ++ text

/-- The suffixes in a list of any values. -/
def suffixesOf (values : List Json) : List Text :=
  (values.map (fun value => normalSuffix value.asTextOrEmpty)).filter
    (fun suffix => !suffix.isEmpty)

/-- The language that an entry of the settings describes. An entry that is no object, or has
    no list of suffixes with something in it, describes none. -/
def describedBy? (entry : Text × Json) : Option Language :=
  match (entry.2.field "extensions").items? with
  | none => none
  | some values =>
    let suffixes := suffixesOf values
    if suffixes.isEmpty then none
    else some {
      name := entry.1
      suffixes
      command := Text.strip (entry.2.field "lsp").textOrEmpty }

end Language

abbrev Languages := List Language

namespace Languages

def ofSettings (settings : Json) : Languages :=
  (settings.field "languages").entries.filterMap Language.describedBy?

/-- The first language with a suffix. -/
def forSuffix? (languages : Languages) (suffix : Text) : Option Language :=
  let wanted := Language.normalSuffix suffix
  if wanted.isEmpty then none
  else languages.find? (fun language => language.suffixes.contains wanted)

def forPath? (languages : Languages) (path : Text) : Option Language :=
  forSuffix? languages (Path.suffix path)

/-- The command that starts the server for a file. -/
def commandFor? (languages : Languages) (path : Text) : Option Text :=
  match forPath? languages path with
  | some language => if language.hasServer then some language.command else none
  | none => none

/-- Whether there is a server for a file. -/
def hasServer (languages : Languages) (path : Text) : Bool :=
  (commandFor? languages path).isSome

end Languages

end LanguageClient
