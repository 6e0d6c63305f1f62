import LanguageClient.Diagnostics
import LanguageClient.Proofs.Json.Integer

/-! # What odd remarks come to

Every object in an array of remarks makes one remark, whatever its parts are: a part that is
missing or of the wrong kind gets its default. Only a number beyond all bounds, where a whole
number is asked for, refuses the array with all that is in it.
-/

namespace LanguageClient

/-- The severity that a number names. -/
def Severity.ofNumber : Int → Severity
  | 1 => .error
  | 2 => .warning
  | 3 => .info
  | _ => .hint

namespace Diagnostic

/-! ## Positions -/

/-- The value that gives a coordinate: zero where there is none. -/
def given (position : Json) (name : Text) : Json :=
  (position.get? name).getD (.int 0)

/-- The line and column that a position means: both its coordinates, not below zero, or zero
    twice if one of them stands for no integer. -/
def place (position : Json) : Int × Int :=
  match (given position "line").toInteger, (given position "character").toInteger with
  | .ok line, .ok col => (max 0 line, max 0 col)
  | _, _ => (0, 0)

/-- Whether a position is beyond all bounds. The column of a line that stands for no integer is
    not looked at. -/
def isFar (position : Json) : Bool :=
  (given position "line").isInfinite ||
    ((given position "line").toInteger.isOk && (given position "character").isInfinite)

theorem place_nonneg (position : Json) : 0 ≤ (place position).1 ∧ 0 ≤ (place position).2 := by
  unfold place
  split
  · exact ⟨Int.le_max_left 0 _, Int.le_max_left 0 _⟩
  · exact ⟨Int.le_refl 0, Int.le_refl 0⟩

theorem coordinate_eq (position : Json) (name : Text) :
    coordinate position name =
      if (given position name).isInfinite then .error .infiniteInteger
      else .ok ((given position name).toInteger.toOption.map (max 0)) := by
  have reading := (given position name).reading
  unfold coordinate
  rw [← given]
  generalize (given position name).toInteger = read,
    (given position name).isInfinite = isInfinite at reading ⊢
  cases reading with
  | whole number => rfl
  | infinite => rfl
  | none other =>
      split
      · next same => cases same
      · next same => exact absurd (Except.error.inj same) other
      · rfl

theorem given_of_not_isObj {position : Json} (isNoObject : position.isObj = false)
    (name : Text) : given position name = .int 0 := by
  cases position with
  | obj => cases isNoObject
  | _ => rfl

/-- A position beyond all bounds is refused, and no other is. -/
theorem position_eq (value : Json) :
    position value = if isFar value then .error .infiniteInteger else .ok (place value) := by
  unfold position isFar place
  cases isObject : value.isObj with
  | false =>
      simp only [given_of_not_isObj isObject]
      rfl
  | true =>
      rw [coordinate_eq, coordinate_eq]
      cases farLine : (given value "line").isInfinite with
      | true => rfl
      | false =>
          cases (given value "line").toInteger with
          | error => rfl
          | ok line =>
              cases farCol : (given value "character").isInfinite with
              | true => rfl
              | false =>
                  cases (given value "character").toInteger with
                  | error => rfl
                  | ok col => rfl

/-! ## Remarks -/

theorem severityOf_eq (value : Json) :
    severityOf value =
      if value.isInfinite then .error .infiniteInteger
      else .ok (.ofNumber (value.wholeOr 1)) := by
  have named (number : Int) :
      (match number with
        | 1 => pure .error
        | 2 => pure .warning
        | 3 => pure .info
        | _ => pure .hint : Except Fault Severity) = .ok (.ofNumber number) := by
    unfold Severity.ofNumber
    split <;> rfl
  cases value with
  | null => rfl
  | _ =>
      simp only [severityOf, Json.toIntegerOr_eq]
      split
      · rfl
      · rw [← named]
        rfl

/-- The remark that an object makes. -/
def remark (item : Json) : Diagnostic :=
  { line := (place ((item.field "range").field "start")).1
    col := (place ((item.field "range").field "start")).2
    endLine := (place ((item.field "range").field "end")).1
    endCol := (place ((item.field "range").field "end")).2
    severity := .ofNumber ((item.field "severity").wholeOr 1)
    message := (item.field "message").textOrEmpty
    source := (item.field "source").textOrEmpty }

/-- Whether an object gives a position or a severity beyond all bounds. -/
def isEndless (item : Json) : Bool :=
  isFar ((item.field "range").field "start") || isFar ((item.field "range").field "end") ||
    (item.field "severity").isInfinite

/-- No position of the remark is below zero. -/
def IsPlaced (diagnostic : Diagnostic) : Prop :=
  0 ≤ diagnostic.line ∧ 0 ≤ diagnostic.col ∧ 0 ≤ diagnostic.endLine ∧ 0 ≤ diagnostic.endCol

theorem isPlaced_remark (item : Json) : (remark item).IsPlaced :=
  have start := place_nonneg ((item.field "range").field "start")
  have finish := place_nonneg ((item.field "range").field "end")
  ⟨start.1, start.2, finish.1, finish.2⟩

theorem ofJson_eq (item : Json) :
    ofJson item = if isEndless item then .error .infiniteInteger else .ok (remark item) := by
  rw [ofJson, isEndless]
  dsimp only
  rw [position_eq, position_eq, severityOf_eq]
  cases isFar ((item.field "range").field "start") with
  | true => rfl
  | false =>
      cases isFar ((item.field "range").field "end") with
      | true => rfl
      | false =>
          cases (item.field "severity").isInfinite with
          | true => rfl
          | false => rfl

/-- The objects in an array, in order; other values have none. -/
def objectsIn (value : Json) : List Json :=
  (value.items?.getD []).filter Json.isObj

theorem listOf_eq (items : List Json) :
    listOf items =
      if (items.filter Json.isObj).any isEndless then .error .infiniteInteger
      else .ok ((items.filter Json.isObj).map remark) := by
  induction items with
  | nil => rfl
  | cons item rest ih =>
      unfold listOf
      cases isObject : item.isObj with
      | false =>
          rw [List.filter_cons_of_neg (by simp [isObject]), ← ih]
          rfl
      | true =>
          rw [List.filter_cons_of_pos isObject, List.any_cons, List.map_cons, ofJson_eq, ih]
          cases isEndless item with
          | true => rfl
          | false =>
              cases (rest.filter Json.isObj).any isEndless with
              | true => rfl
              | false => rfl

/-- Every object in an array makes one remark, in order, unless one of them is endless: then
    none is made. -/
theorem ofArray_eq (value : Json) :
    ofArray value =
      if (objectsIn value).any isEndless then .error .infiniteInteger
      else .ok ((objectsIn value).map remark) := by
  cases value with
  | arr items => exact listOf_eq items
  | _ => rfl

/-- An odd remark takes the one behind it with it. -/
theorem ofArray_endless :
    ofArray (.arr [
      .obj [("range", .obj [("start", .obj [("line", .float (.infinite false))])])],
      .obj [("message", .str "m")]]) = .error .infiniteInteger := rfl

end Diagnostic

end LanguageClient
