import LanguageClient.Fault
import LanguageClient.Json.Equality

/-! # Tables out of loose values

Settings may be handed over as an object or as a list of names and values. An item is looked
at only after the items in front of it, so the first one that is of no use is the one that is
refused. The names in a list need be no text; they are told apart as values.
-/

namespace LanguageClient.Settings

/-- The name and value of one item in a list of settings: an array or text of two parts, or
    an object of two entries, whose names are then name and value. -/
def pairOf (index : Nat) : Json → Except Fault (Json × Json)
  | .arr [name, value] =>
    match name with
    | .arr _ | .obj _ => .error (.unusableName name.kind)
    | _ => .ok (name, value)
  | .arr items => .error (.pairOfWrongLength index items.length)
  | .str text =>
    match text.toList with
    | [name, value] => .ok (.str (Text.singleton name), .str (Text.singleton value))
    | chars => .error (.pairOfWrongLength index chars.length)
  | .obj [(name, _), (value, _)] => .ok (.str name, .str value)
  | .obj entries => .error (.pairOfWrongLength index entries.length)
  | _ => .error (.notAPair index)

/-- Add the items of a list of settings to a table. -/
def addPairs (index : Nat) (table : Table Json Json) :
    List Json → Except Fault (Table Json Json)
  | [] => .ok table
  | item :: rest =>
    match pairOf index item with
    | .error fault => .error fault
    | .ok (name, value) => addPairs (index + 1) (Table.put table name value) rest

/-- The entries of an object as a table of values. -/
def ofEntries (entries : Json.Entries) : Table Json Json :=
  entries.map (fun entry => (.str entry.1, entry.2))

/-- The entries of a table whose names are text. -/
def named (table : Table Json Json) : Json.Entries :=
  table.filterMap (fun entry => entry.1.text?.map (·, entry.2))

/-- A table out of a value: an object is one, and a list of pairs makes one. Text is a list
    of its characters, which are no pairs. -/
def tableOf : Json → Except Fault (Table Json Json)
  | .obj entries => .ok (ofEntries entries)
  | .arr items => addPairs 0 [] items
  | .str text => if text.isEmpty then .ok [] else .error (.pairOfWrongLength 0 1)
  | other => .error (.withoutItems other.kind)

/-- The settings in a value, of which those are used that have a text for a name. What counts as
    nothing holds none. -/
def entriesIn (value : Json) : Except Fault Json.Entries :=
  if value.isTruthy then (tableOf value).map named else .ok []

end LanguageClient.Settings
