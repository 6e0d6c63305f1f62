import LanguageClient.Completion
import LanguageClient.Json.Display
import LanguageClient.Json.Integer
import LanguageClient.SemanticTokens

/-! # Completions and tokens from loose values

The word to the left of a place, and what goes on from it, where neither the place nor the
word need be of the right kind; and semantic tokens where the legend is not known to be a list of
names. A legend of no use is found out by the first token that looks into it.
-/

namespace LanguageClient.Loose

/-- The number of a line among `count` lines; `none` outside of them. A number with a
    fraction may lie outside, but it numbers no line. -/
def lineAmong (count : Nat) : Json → Except Fault (Option Nat)
  | .float .nan => .error (.notAnIndex "float")
  | .float (.infinite _) => .ok none
  | .float (.finite negative significand exponent) =>
    if negative && significand != 0 then .ok none
    else match (Binary64.finite negative significand exponent).truncate? with
      | some whole => if whole < count then .error (.notAnIndex "float") else .ok none
      | none => .ok none
  | value =>
    match value.wholeNumber? with
    | some line => .ok (if 0 ≤ line ∧ line < count then some line.toNat else none)
    | none => .error (.notComparable value.kind)

/-- The word that ends to the left of a place. The column is read only in a line that there
    is. -/
def typedAt (text line col : Json) : Except Fault Text := do
  let text := text.asTextOrEmpty
  match ← lineAmong (Text.lines text).length line with
  | none => pure ""
  | some line =>
    let col ← col.toInteger
    pure (Completion.typedAt text line col)

/-- Whether some proposal begins with what was typed. Nothing typed fits always, and what is
    no text is refused once there is a proposal to compare it with. -/
def matchesTyped (items : List CompletionItem) (typed : Json) : Except Fault Bool :=
  if !typed.isTruthy then .ok true
  else match typed with
    | .str text => .ok (Completion.matchesTyped items text)
    | other => if items.isEmpty then .ok false else .error (.notABeginning other.kind)

/-- The first line of documentation that is not blank. -/
def summary : Json → Except Fault Text
  | .str documentation => .ok (CompletionItem.summary { label := "", documentation })
  | other => .error (.withoutPart other.kind "splitlines")

/-! ## Tokens -/

/-- The names in a legend, as far as some places in it are asked for. -/
def legendNames (legend : Json) (places : List Int) : Except Fault (List Text) :=
  match legend with
  | .arr names => .ok (names.map Json.asTextOrEmpty)
  | .str text => .ok (text.toList.map Text.singleton)
  | .obj entries =>
    match places.find? (fun place => 0 ≤ place && place.toNat < entries.length) with
    | some place => .error (.missingEntry place)
    | none => .ok []
  | other =>
    if places.any (fun (place : Int) => 0 ≤ place) then .error (.withoutLength other.kind)
    else .ok []

def decodeTokens (data legend : Json) : Except Fault (List SemanticToken) := do
  let names ← legendNames legend (SemanticToken.indices (SemanticToken.rowOf data))
  pure (SemanticToken.decode data names)

end LanguageClient.Loose
