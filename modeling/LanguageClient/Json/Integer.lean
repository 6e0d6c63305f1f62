import LanguageClient.Json.Basic
import LanguageClient.Text.Integer

/-! # Integers out of loose values

Settings and messages may give an integer as a truth value, as a number with a fraction or
as text.
-/

namespace LanguageClient.Json

/-- The integer that a value stands for: truth values count 1 and 0, a fraction is cut off
    toward zero, and text is read. -/
def toInteger : Json → Except Fault Int
  | .bool value => .ok (if value then 1 else 0)
  | .int value => .ok value
  | .str text => Text.readInteger text
  | .float .nan => .error .undefinedInteger
  | .float value =>
    match value.truncate? with
    | some whole => .ok whole
    | none => .error .infiniteInteger
  | value => .error (.notAnInteger value.kind)

/-- The integer that a number is equal to. Truth values are numbers as well, text is none. -/
def wholeNumber? : Json → Option Int
  | .bool value => some (if value then 1 else 0)
  | .int value => some value
  | .float value => value.toInt?
  | _ => none

/-- The integer that a value stands for, or `fallback` if it stands for none. An infinite
    number is refused. -/
def toIntegerOr (fallback : Int) (value : Json) : Except Fault Int :=
  match value.toInteger with
  | .ok whole => .ok whole
  | .error .infiniteInteger => .error .infiniteInteger
  | .error _ => .ok fallback

end LanguageClient.Json
