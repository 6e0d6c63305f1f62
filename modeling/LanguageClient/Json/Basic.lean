import LanguageClient.Decimal.Binary64
import LanguageClient.Table
import LanguageClient.Text.Basic

/-! # JSON values

The values that messages and settings are made of. Integers are unbounded and stand apart
from numbers with a fraction or an exponent. An object keeps its entries in the order of
first arrival; a name that is written again takes the new value at its old place.
-/

namespace LanguageClient

/-- A JSON value. -/
inductive Json where
  | null
  | bool (value : Bool)
  | int (value : Int)
  | float (value : Binary64)
  | str (text : Text)
  | arr (items : List Json)
  | obj (entries : List (Text × Json))
  deriving Repr, Inhabited

namespace Json

/-- The entries of an object, in order of first arrival. -/
abbrev Entries := Table Text Json

/-- The entries of an object; other values have none. -/
def entries : Json → Entries
  | .obj entries => entries
  | _ => []

/-- The value under a name of an object, if there is one. -/
def get? (value : Json) (name : Text) : Option Json :=
  value.entries.get? name

/-- The value under a name of an object, null when it is missing. -/
def field (value : Json) (name : Text) : Json :=
  (value.get? name).getD .null

def text? : Json → Option Text
  | .str text => some text
  | _ => none

/-- The text of a string; other values count as empty. -/
def textOrEmpty (value : Json) : Text :=
  value.text?.getD ""

def items? : Json → Option (List Json)
  | .arr items => some items
  | _ => none

def isObj : Json → Bool
  | .obj _ => true
  | _ => false

/-- Whether the value counts as something: everything but null, false, zero and what is
    empty. -/
def isTruthy : Json → Bool
  | .null => false
  | .bool value => value
  | .int value => value != 0
  | .float value => !value.isZero
  | .str text => !text.isEmpty
  | .arr items => !items.isEmpty
  | .obj entries => !entries.isEmpty

mutual

/-- How many containers are open at once in the writing of a value, at most. -/
def height : Json → Nat
  | .arr items => heightOfItems items + 1
  | .obj entries => heightOfEntries entries + 1
  | _ => 0

def heightOfItems : List Json → Nat
  | [] => 0
  | item :: rest => max (height item) (heightOfItems rest)

/-- The height of the highest value in some entries. -/
def heightOfEntries : List (Text × Json) → Nat
  | [] => 0
  | (_, value) :: rest => max (height value) (heightOfEntries rest)

end

/-- The name of the kind of a value, as error texts spell it. -/
def kind : Json → Text
  | .null => "NoneType"
  | .bool _ => "bool"
  | .int _ => "int"
  | .float _ => "float"
  | .str _ => "str"
  | .arr _ => "list"
  | .obj _ => "dict"

end Json

end LanguageClient
