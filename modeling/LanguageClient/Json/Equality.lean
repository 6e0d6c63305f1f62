import LanguageClient.Json.Integer

/-! # Equal values

When two values count as the same: numbers by what they amount to, truth values being the
numbers 1 and 0, and objects whatever the order of their entries. What is no number at all is
the same as itself, yet it is equal to nothing.
-/

namespace LanguageClient.Json

/-- Whether two values that hold no others are the same. -/
def sameScalar (value other : Json) : Bool :=
  match value.wholeNumber?, other.wholeNumber? with
  | some number, some otherNumber => number == otherNumber
  | none, none =>
    match value, other with
    | .null, .null => true
    | .float number, .float otherNumber => number == otherNumber
    | .str text, .str otherText => text == otherText
    | _, _ => false
  | _, _ => false

mutual

def same : Json → Json → Bool
  | .arr items, .arr others => sameItems items others
  | .obj entries, .obj others =>
    entries.length == others.length && sameEntries entries others
  | value, other => sameScalar value other

/-- Whether two lists have the same items in the same order. -/
def sameItems : List Json → List Json → Bool
  | [], [] => true
  | item :: rest, other :: others => same item other && sameItems rest others
  | _, _ => false

/-- Whether all of some entries are among others. -/
def sameEntries : List (Text × Json) → Entries → Bool
  | [], _ => true
  | (name, value) :: rest, others =>
    match Table.get? others name with
    | none => false
    | some other => same value other && sameEntries rest others

end

instance : BEq Json := ⟨same⟩

/-- Whether a value is a number that is none. -/
def isNan : Json → Bool
  | .float .nan => true
  | _ => false

def equals (value other : Json) : Bool :=
  value == other && !value.isNan

end LanguageClient.Json
