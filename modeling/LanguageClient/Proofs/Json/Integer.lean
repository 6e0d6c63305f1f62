import LanguageClient.Json.Integer

/-! # Which values stand for integers

Text and most other values that stand for no integer are told from those that do, so that a
fallback can take their place. Only an infinite number is refused for good.
-/

namespace LanguageClient

/-- No text writes an infinite number. -/
theorem Text.readInteger_ne_infinite (text : Text) :
    Text.readInteger text ≠ .error .infiniteInteger := by
  intro refused
  unfold Text.readInteger at refused
  dsimp only at refused
  split at refused
  · cases refused
  · split at refused
    · cases refused
    · split at refused
      · cases refused
      · cases refused

namespace Json

/-- Whether a value is a number beyond all bounds. -/
def isInfinite : Json → Bool
  | .float (.infinite _) => true
  | _ => false

theorem toInteger_eq_infinite_iff {value : Json} :
    value.toInteger = .error .infiniteInteger ↔ value.isInfinite = true := by
  have finite {other : Json} (isFinite : other.isInfinite = false)
      (accepted : other.toInteger ≠ .error .infiniteInteger) :
      other.toInteger = .error .infiniteInteger ↔ other.isInfinite = true :=
    ⟨fun refused => absurd refused accepted, fun yes => by rw [isFinite] at yes; cases yes⟩
  cases value with
  | str text => exact finite rfl (Text.readInteger_ne_infinite text)
  | float number =>
      cases number with
      | infinite negative => exact ⟨fun _ => rfl, fun _ => rfl⟩
      | nan => exact finite rfl (fun refused => by cases refused)
      | finite => exact finite rfl (fun refused => by cases refused)
  | null => exact finite rfl (fun refused => by cases refused)
  | bool => exact finite rfl (fun refused => by cases refused)
  | int => exact finite rfl (fun refused => by cases refused)
  | arr => exact finite rfl (fun refused => by cases refused)
  | obj => exact finite rfl (fun refused => by cases refused)

/-- What reading an integer off a value comes to, with whether the value is infinite. -/
inductive Reading : Except Fault Int → Bool → Prop where
  | whole (number : Int) : Reading (.ok number) false
  | infinite : Reading (.error .infiniteInteger) true
  | none {fault : Fault} (other : fault ≠ .infiniteInteger) : Reading (.error fault) false

theorem reading (value : Json) : Reading value.toInteger value.isInfinite := by
  have refused := @toInteger_eq_infinite_iff value
  cases isInfinite : value.isInfinite with
  | true =>
      rw [refused.mpr isInfinite]
      exact .infinite
  | false =>
      cases read : value.toInteger with
      | ok number => exact .whole number
      | error fault =>
          apply Reading.none
          rintro rfl
          rw [refused.mp read] at isInfinite
          cases isInfinite

/-- The integer that a value stands for, or the fallback if it stands for none. -/
def wholeOr (fallback : Int) (value : Json) : Int :=
  match value.toInteger with
  | .ok whole => whole
  | .error _ => fallback

/-- The fallback is given for all that stands for no integer, but for infinite numbers. -/
theorem toIntegerOr_eq (fallback : Int) (value : Json) :
    value.toIntegerOr fallback =
      if value.isInfinite then .error .infiniteInteger else .ok (value.wholeOr fallback) := by
  have reading := value.reading
  unfold toIntegerOr wholeOr
  generalize value.toInteger = read, value.isInfinite = isInfinite at reading ⊢
  cases reading with
  | whole number => rfl
  | infinite => rfl
  | none other =>
      split
      · next same => cases same
      · next same => exact absurd (Except.error.inj same) other
      · rfl

end Json

end LanguageClient
