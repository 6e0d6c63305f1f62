import LanguageClient.Fault
import LanguageClient.Json.Token

/-! # Reading JSON

Builds a value out of tokens. The reader walks once over the tokens with a stack of the
arrays and objects that are still open, so its recursion is on the tokens alone. The first
fault ends the reading; its place is counted in characters. Values may be nested as deep as there
is room for.
-/

namespace LanguageClient.Json

/-- What can hold other values. -/
inductive Container where
  | array
  | object
  deriving Repr, DecidableEq

/-- The name of a container in the words for a fault. -/
def Container.name : Container → Text
  | .array => "array"
  | .object => "object"

/-- Why and where a text is no JSON. -/
inductive ReadFault where
  /-- `offset` counts from 0, `line` and `column` from 1. -/
  | malformed (cause : Cause) (line column offset : Nat)
  /-- An integer with more digits than are read. -/
  | tooManyDigits (count : Nat)
  /-- Containers nested beyond the limit. -/
  | nestedTooDeep (container : Container)
  deriving Repr, DecidableEq

def ReadFault.message : ReadFault → Text
  | .malformed cause line column offset =>
    cause.message ++ ": line " ++ toString line ++ " column " ++ toString column ++
      " (char " ++ toString offset ++ ")"
  | .tooManyDigits count => (Fault.tooManyDigits count).message
  | .nestedTooDeep container => (Fault.nestedTooDeep container.name).message

/-- A fault before its place is counted: the text from the fault on. -/
inductive Refusal where
  | at (cause : Cause) (place : List Char)
  | tooManyDigits (count : Nat)
  | nestedTooDeep (container : Container)

/-- What the reader waits for. -/
inductive Awaiting where
  | value
  /-- The first item of an array, or its end. -/
  | firstItem
  /-- The first name of an object, or its end. -/
  | firstName
  | name (before : Entries)
  | colon (before : Entries) (name : Text)
  /-- What may follow a value that is complete. -/
  | afterValue (value : Json)

/-- An array or object that is still open. Items stand last first. -/
inductive Enclosing where
  | items (before : List Json)
  | entries (before : Entries) (name : Text)

/-- What a token begins where a value is awaited. -/
inductive Start where
  | whole (value : Json)
  | container (container : Container)
  | refused (refusal : Refusal)

def integerOf (negative : Bool) (digits : List Nat) : Int :=
  if negative then -(Text.digitsValue digits : Int) else Text.digitsValue digits

/-- What a token begins where a value is awaited. -/
def Placed.start (placed : Placed) : Start :=
  match placed.token with
  | .leftBrace => .container .object
  | .leftBracket => .container .array
  | .constant value => .whole value
  | .string text => .whole (.str text)
  | .integer negative digits =>
    if digits.length > maxIntegerDigits then .refused (.tooManyDigits digits.length)
    else .whole (.int (integerOf negative digits))
  | .brokenString cause place => .refused (.at cause place)
  | _ => .refused (.at .expectingValue placed.place)

def Container.awaits : Container → Awaiting
  | .array => .firstItem
  | .object => .firstName

variable [Limits]

/-- What a token begins inside of `around`: a value, with what is awaited behind it, or a
    refusal. -/
def Placed.opening (placed : Placed) (around : List Enclosing) : Except Refusal Awaiting :=
  match placed.start with
  | .whole value => .ok (.afterValue value)
  | .container container =>
    if around.length < Limits.reading then .ok container.awaits
    else .error (.nestedTooDeep container)
  | .refused refusal => .error refusal

/-- The name that a token gives, where a name is awaited. -/
def Placed.name (placed : Placed) : Except Refusal Text :=
  match placed.token with
  | .string text => .ok text
  | .brokenString cause place => .error (.at cause place)
  | _ => .error (.at .expectingName placed.place)

/-- Reads on: what is awaited, what is open around it (innermost first), and the tokens to
    come. -/
def build : Awaiting → List Enclosing → List Placed → Except Refusal Json
  | _, _, [] => .error (.at .expectingValue [])
  | .value, around, placed :: rest =>
    match placed.opening around with
    | .ok awaiting => build awaiting around rest
    | .error refusal => .error refusal
  | .firstItem, around, placed :: rest =>
    match placed.token with
    | .rightBracket => build (.afterValue (.arr [])) around rest
    | _ =>
      match placed.opening (.items [] :: around) with
      | .ok awaiting => build awaiting (.items [] :: around) rest
      | .error refusal => .error refusal
  | .firstName, around, placed :: rest =>
    match placed.token with
    | .rightBrace => build (.afterValue (.obj [])) around rest
    | _ =>
      match placed.name with
      | .ok name => build (.colon [] name) around rest
      | .error refusal => .error refusal
  | .name before, around, placed :: rest =>
    match placed.name with
    | .ok name => build (.colon before name) around rest
    | .error refusal => .error refusal
  | .colon before name, around, placed :: rest =>
    match placed.token with
    | .colon => build .value (.entries before name :: around) rest
    | _ => .error (.at .expectingColon placed.place)
  | .afterValue value, [], placed :: _ =>
    match placed.token with
    | .finish => .ok value
    | _ => .error (.at .extraData placed.place)
  | .afterValue value, .items before :: around, placed :: rest =>
    match placed.token with
    | .comma => build .value (.items (value :: before) :: around) rest
    | .rightBracket => build (.afterValue (.arr (value :: before).reverse)) around rest
    | _ => .error (.at .expectingComma placed.place)
  | .afterValue value, .entries before name :: around, placed :: rest =>
    match placed.token with
    | .comma => build (.name (before.put name value)) around rest
    | .rightBrace => build (.afterValue (.obj (before.put name value))) around rest
    | _ => .error (.at .expectingComma placed.place)

theorem build_value (around : List Enclosing) (placed : Placed) (rest : List Placed) :
    build .value around (placed :: rest) =
      match placed.opening around with
      | .ok awaiting => build awaiting around rest
      | .error refusal => .error refusal := by
  rw [build]

/-- The place of the text `place` at the end of `text`, in lines and columns. -/
def locate (text place : List Char) : Nat × Nat × Nat :=
  let offset := text.length - place.length
  let before := text.take offset
  (before.count '\n' + 1, (before.reverse.takeWhile (· != '\n')).length + 1, offset)

def read (text : List Char) : Except ReadFault Json :=
  match text with
  | '\uFEFF' :: _ => .error (.malformed .byteOrderMark 1 1 0)
  | _ =>
    match build .value [] (tokens text) with
    | .ok value => .ok value
    | .error (.tooManyDigits count) => .error (.tooManyDigits count)
    | .error (.nestedTooDeep container) => .error (.nestedTooDeep container)
    | .error (.at cause place) =>
      let (line, column, offset) := locate text place
      .error (.malformed cause line column offset)

end LanguageClient.Json
