import LanguageClient.Decimal.Numeral
import LanguageClient.Json.Basic
import LanguageClient.Text.Quoted

/-! # Showing values

How a value is shown to a person in a log or an error text, and the text that a loosely
typed value stands for where text is needed.
-/

namespace LanguageClient.Json

mutual

/-- A value as it is shown, text between quotes. -/
def shown : Json → Text
  | .null => "None"
  | .bool true => "True"
  | .bool false => "False"
  | .int value => toString value
  | .float value => Binary64.displayStyle.text value
  | .str text => Text.quoted text
  | .arr items => "[" ++ shownItems items ++ "]"
  | .obj entries => "\x7b" ++ shownEntries entries ++ "\x7d"

def shownItems : List Json → Text
  | [] => ""
  | [item] => shown item
  | item :: rest => shown item ++ ", " ++ shownItems rest

def shownEntries : List (Text × Json) → Text
  | [] => ""
  | [(name, value)] => Text.quoted name ++ ": " ++ shown value
  | (name, value) :: rest =>
    Text.quoted name ++ ": " ++ shown value ++ ", " ++ shownEntries rest

end

/-- The text that a value stands for: that of a string, and what is shown of others. -/
def asText : Json → Text
  | .str text => text
  | value => value.shown

/-- The text that a value stands for where what counts as nothing is left empty. -/
def asTextOrEmpty (value : Json) : Text :=
  if value.isTruthy then value.asText else ""

end LanguageClient.Json
