import LanguageClient.Json.Basic
import LanguageClient.Text.Lines
import LanguageClient.Text.Word

/-! # Completions

The proposals in a completion result, and the word to the left of the cursor that they go
on from.
-/

namespace LanguageClient

/-- One proposal. -/
structure CompletionItem where
  label : Text
  detail : Text := ""
  documentation : Text := ""
  deriving Repr, DecidableEq

/-- The proposals for one place. -/
structure CompletionList where
  items : List CompletionItem := []
  /-- Whether there would be more proposals if more were typed. -/
  isIncomplete : Bool := false
  /-- The word to the left of the cursor. -/
  typed : Text := ""
  /-- Whether some proposal goes on from that word. -/
  typedMatches : Bool := true
  deriving Repr, DecidableEq

namespace CompletionItem

/-- The first line of the documentation that is not blank, without blanks at its ends. -/
def summary (item : CompletionItem) : Text :=
  (((Text.proseLines item.documentation).map Text.strip).find?
    (fun line => !line.isEmpty)).getD ""

/-- The text of documentation, which is a string or a tagged string. -/
def documentationText : Json → Text
  | .str text => text
  | documentation => (documentation.field "value").textOrEmpty

/-- The proposal in an item; an item without a label makes none. -/
def ofJson? (item : Json) : Option CompletionItem :=
  match (item.field "label").text? with
  | none => none
  | some label =>
    if label.isEmpty then none
    else some {
      label
      detail := (item.field "detail").textOrEmpty
      documentation := documentationText (item.field "documentation") }

end CompletionItem

namespace Completion

/-- The items of a result and whether they are all. -/
def itemsOf : Json → Json × Bool
  | .arr items => (.arr items, false)
  | .obj entries =>
    let result := Json.obj entries
    (result.field "items",
      match result.field "isIncomplete" with
      | .bool value => value
      | _ => false)
  | _ => (.null, false)

/-- The proposals of a result, and whether there would be more. -/
def proposals (result : Json) : List CompletionItem × Bool :=
  let (items, isIncomplete) := itemsOf result
  ((items.items?.getD []).filterMap CompletionItem.ofJson?, isIncomplete)

/-- The word characters at the end of some characters. -/
def wordBefore (chars : List CodePoint) : List CodePoint :=
  (chars.reverse.takeWhile Text.isWordChar).reverse

/-- The word that ends to the left of a column. Outside the text there is none. -/
def typedAt (text : Text) (line col : Int) : Text :=
  if line < 0 then ""
  else match (Text.splitChars '\n' text.toList)[line.toNat]? with
    | none => ""
    | some chars =>
      if col ≤ 0 ∨ chars.length < col then ""
      else Text.ofList (wordBefore (chars.take col.toNat))

/-- Whether some proposal begins with what was typed. -/
def matchesTyped (items : List CompletionItem) (typed : Text) : Bool :=
  typed.isEmpty || items.any (fun item => item.label.startsWith typed)

/-- The proposals of a result for a place in a text. -/
def listOf (result : Json) (typed : Text) : CompletionList :=
  let (items, isIncomplete) := proposals result
  { items, isIncomplete, typed, typedMatches := matchesTyped items typed }

end Completion

end LanguageClient
