import LanguageClient.Text.Blank
import LanguageClient.Text.Lowercase
import Mathlib.Tactic.IntervalCases

/-! # Letters of ASCII in either case

Texts that differ in nothing but the case of letters of ASCII are the same once they are stripped
and in lower case. What becomes of a letter beyond ASCII may depend on the letters around it, but
not on their case.
-/

namespace LanguageClient.Text

/-- The capital letters of ASCII. -/
def capitals : List Char :=
  "ABCDEFGHIJKLMNOPQRSTUVWXYZ".toList

theorem mem_capitals {c : Char} (above : 65 ≤ c.toNat) (below : c.toNat ≤ 90) : c ∈ capitals := by
  rw [← Char.ofNat_toNat c]
  generalize c.toNat = code at above below
  interval_cases code <;> decide

/-- The small letter of a capital letter of ASCII; what is no such letter stays. -/
def small : CodePoint → CodePoint
  | .scalar c => .scalar c.toLower
  | half => half

/-- What cannot tell the capital letters from the small ones, cannot tell any code point from its
    small letter. -/
theorem same_small {α : Type} [DecidableEq α] (view : CodePoint → α)
    (letters : capitals.all (fun c => view (small c) = view c) = true) (point : CodePoint) :
    view (small point) = view point := by
  cases point with
  | surrogate offset => rfl
  | scalar c =>
      by_cases isCapital : c ∈ capitals
      · exact of_decide_eq_true (List.all_eq_true.mp letters c isCapital)
      · have kept : c.toLower = c := dif_neg fun ⟨above, below⟩ => isCapital
          (mem_capitals (UInt32.le_iff_toNat_le.mp above) (UInt32.le_iff_toNat_le.mp below))
        rw [small, kept]

variable {text other passed : List CodePoint}

@[simp] theorem isBlank_small (c : CodePoint) : isBlank (small c) = isBlank c :=
  same_small isBlank (by decide) c

@[simp] theorem lowerChar_small (c : CodePoint) : lowerChar (small c) = lowerChar c :=
  same_small lowerChar (by decide +kernel) c

@[simp] theorem ignorable_small (c : CodePoint) :
    caseIgnorableRanges.contains (small c).toNat = caseIgnorableRanges.contains c.toNat :=
  same_small (fun c => caseIgnorableRanges.contains c.toNat) (by decide +kernel) c

@[simp] theorem cased_small (c : CodePoint) :
    casedRanges.contains (small c).toNat = casedRanges.contains c.toNat :=
  same_small (fun c => casedRanges.contains c.toNat) (by decide +kernel) c

/-- Of the letters whose lower case is no single character by itself none is one of ASCII. -/
@[simp] theorem small_eq_sigma (c : CodePoint) : small c = 'Σ' ↔ c = 'Σ' := by
  simpa using same_small (fun c => decide (c = 'Σ')) (by decide) c

@[simp] theorem small_eq_dotted (c : CodePoint) : small c = 'İ' ↔ c = 'İ' := by
  simpa using same_small (fun c => decide (c = 'İ')) (by decide) c

@[simp] theorem meetsCased_map_small (text : List CodePoint) :
    meetsCased (text.map small) = meetsCased text := by
  induction text with
  | nil => rfl
  | cons c text ih => simp [meetsCased, ih]

theorem lowerFrom_map_small (passed text : List CodePoint) :
    lowerFrom (passed.map small) (text.map small) = lowerFrom passed text := by
  induction text generalizing passed with
  | nil => rfl
  | cons c text ih =>
      have behind := ih (c :: passed)
      rw [List.map_cons] at behind
      simp [lowerFrom, behind]

theorem stripChars_map_small (text : List CodePoint) :
    stripChars (text.map small) = (stripChars text).map small := by
  have kept : isBlank ∘ small = isBlank := funext isBlank_small
  simp only [stripChars, dropBlanks, List.dropWhile_map, kept, ← List.map_reverse]

/-- The same text but for the case of letters of ASCII. -/
def CaseAlike (text other : Text) : Prop :=
  text.toList.map small = other.toList.map small

instance (text other : Text) : Decidable (CaseAlike text other) :=
  inferInstanceAs (Decidable (_ = _))

theorem CaseAlike.lowercase_strip {text other : Text} (alike : CaseAlike text other) :
    lowercase (strip text) = lowercase (strip other) := by
  have lowered (text : Text) :
      lowerFrom [] (stripChars text.toList) =
        lowerFrom [] (stripChars (text.toList.map small)) := by
    rw [stripChars_map_small]
    exact (lowerFrom_map_small [] _).symm
  simp only [lowercase, strip, Text.toList_ofList]
  rw [lowered text, lowered other, alike]

/-- Nothing but the empty text is empty in lower case. -/
theorem lowerFrom_eq_nil_iff : lowerFrom passed text = [] ↔ text = [] := by
  cases text with
  | nil => simp [lowerFrom]
  | cons c text =>
      have some : lowerFrom passed (c :: text) ≠ [] := by
        rw [lowerFrom]
        split
        · simp
        · split <;> simp
      simp [some]

theorem lowercase_eq_empty_iff {text : Text} : lowercase text = "" ↔ text = "" := by
  rw [lowercase, Text.ofList_eq_empty_iff, lowerFrom_eq_nil_iff, Text.toList_eq_nil_iff]

end LanguageClient.Text
