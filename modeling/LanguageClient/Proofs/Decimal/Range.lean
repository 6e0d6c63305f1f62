import LanguageClient.Decimal.Arithmetic
import Mathlib.Algebra.Order.Ring.Nat
import Mathlib.Data.Nat.Log

/-! # Integers beyond the range

An integer is rounded to the nearest value of the format. The greatest value stands half a unit
of its last place below the first integer that has none: halfway between it and the power of two
behind it, and there the even neighbour, which is that power of two, would be the nearest.
-/

namespace LanguageClient.Binary64

/-- Half a unit of the last place of the greatest values. -/
def lastHalf : Nat := 2 ^ 970

/-- The least positive integer that is beyond the range. -/
def beyond : Nat := (2 ^ 54 - 1) * lastHalf

theorem lastHalf_pos : 0 < lastHalf :=
  pow_pos Nat.two_pos 970

theorem le_beyond : 2 ^ 54 - 1 ≤ beyond :=
  Nat.le_mul_of_pos_right (2 ^ 54 - 1) lastHalf_pos

theorem beyond_pos : 0 < beyond :=
  Nat.lt_of_lt_of_le (by decide) le_beyond

theorem two_pow_add_970 (places : Nat) : 2 ^ (places + 970) = 2 ^ places * lastHalf := by
  unfold lastHalf
  exact pow_add 2 places 970

theorem two_pow_le {exponent places : Nat} (low : exponent ≤ places + 970) :
    2 ^ exponent ≤ 2 ^ places * lastHalf :=
  (Nat.pow_le_pow_right Nat.two_pos low).trans_eq (two_pow_add_970 places)

theorem le_two_pow {exponent places : Nat} (high : places + 970 ≤ exponent) :
    2 ^ places * lastHalf ≤ 2 ^ exponent :=
  (two_pow_add_970 places).symm.trans_le (Nat.pow_le_pow_right Nat.two_pos high)

variable {num : Nat}

/-- The exponent of an integer is that of its highest binary digit, 52 places lower. -/
theorem exponentFor_one (positive : num ≠ 0) : exponentFor num 1 = (num.log2 : Int) - 52 := by
  have atLeast : 2 ^ num.log2 ≤ num := Nat.log2_self_le positive
  have guess : ((num.log2 : Int) - Nat.log2 1 - 52) = (num.log2 : Int) - 52 := by
    rw [show Nat.log2 1 = 0 from rfl]
    omega
  have notBelow : ¬ (inUnits num 1 ((num.log2 : Int) - 52)).1 <
      (inUnits num 1 ((num.log2 : Int) - 52)).2 * Nat.pow 2 52 := by
    unfold inUnits
    rw [Nat.not_lt]
    split
    · next whole =>
      calc 1 * Nat.pow 2 ((num.log2 : Int) - 52).toNat * Nat.pow 2 52
          = 2 ^ (((num.log2 : Int) - 52).toNat + 52) := by rw [Nat.one_mul]; exact (pow_add ..).symm
        _ = 2 ^ num.log2 := by congr 1; omega
        _ ≤ num := atLeast
    · next fraction =>
      calc 1 * Nat.pow 2 52
          = 2 ^ (num.log2 + (-((num.log2 : Int) - 52)).toNat) := by
            rw [Nat.one_mul]
            exact congrArg (Nat.pow 2) (by omega)
        _ = 2 ^ num.log2 * 2 ^ (-((num.log2 : Int) - 52)).toNat := pow_add ..
        _ ≤ num * Nat.pow 2 (-((num.log2 : Int) - 52)).toNat := Nat.mul_le_mul_right _ atLeast
  unfold exponentFor
  rw [guess]
  dsimp only
  rw [if_neg notBelow]
  exact max_eq_right (by unfold minExponent; omega)

/-- Where a quotient stays below an even number, it is rounded up to that number from half a unit
    below it on. -/
theorem roundDiv_eq_top {half top : Nat} (positive : 0 < half) (even : top % 2 = 0)
    (below : num < 2 * half * top) :
    roundDiv num (2 * half) = top ↔ (2 * top - 1) * half ≤ num := by
  have whole := Nat.div_add_mod num (2 * half)
  have rest := Nat.mod_lt num (show 2 * half > 0 by omega)
  have quotient : num / (2 * half) < top := Nat.div_lt_of_lt_mul below
  unfold roundDiv
  dsimp only
  generalize num / (2 * half) = q at whole quotient
  generalize num % (2 * half) = r at whole rest
  by_cases last : top = q + 1
  · subst last
    have bound : (2 * (q + 1) - 1) * half = 2 * half * q + half := by
      rw [show 2 * (q + 1) - 1 = 2 * q + 1 by omega, Nat.add_mul, Nat.one_mul,
        Nat.mul_right_comm]
    rw [bound]
    split <;> omega
  · have short : 2 * half * (q + 1) ≤ (2 * top - 1) * half := by
      calc 2 * half * (q + 1) = (2 * (q + 1)) * half := Nat.mul_right_comm ..
        _ ≤ (2 * top - 1) * half := Nat.mul_le_mul_right half (by omega)
    rw [Nat.mul_add, Nat.mul_one] at short
    split <;> omega

/-- The value with a significand that was rounded, which may have carried it to the next power
    of two. -/
def ofRounded (negative : Bool) (rounded : Nat) (exponent : Int) : Binary64 :=
  let (significand, exponent) :=
    if rounded = significandBound then (Nat.pow 2 52, exponent + 1) else (rounded, exponent)
  if exponent > maxExponent then .infinite negative
  else .finite negative significand exponent

theorem ofRounded_eq_infinite_iff {negative sign : Bool} {rounded : Nat} {exponent : Int} :
    ofRounded negative rounded exponent = .infinite sign ↔
      negative = sign ∧ (maxExponent < exponent ∨
        (exponent = maxExponent ∧ rounded = significandBound)) := by
  unfold ofRounded
  by_cases carried : rounded = significandBound
  · rw [if_pos carried, and_iff_left carried, ← le_iff_lt_or_eq']
    dsimp only
    split
    · next outside => simp [Int.lt_add_one_iff.mp outside]
    · next inside => simpa [Int.lt_add_one_iff] using fun _ => inside
  · rw [if_neg carried]
    dsimp only
    split
    · next outside => simp [outside]
    · next inside => simp [carried, inside]

-- The exponent is a variable, so that no multiple of a large power is looked into.
theorem ofRatio_eq {den : Nat} (positive : num ≠ 0) (negative : Bool) {exponent : Int}
    (isExponent : exponentFor num den = exponent) :
    ofRatio negative num den = ofRounded negative
      (roundDiv (inUnits num den exponent).1 (inUnits num den exponent).2) exponent := by
  rw [ofRatio, if_neg positive, isExponent]
  rfl

theorem inUnits_natCast (exponent : Nat) : inUnits num 1 exponent = (num, 2 ^ exponent) := by
  unfold inUnits
  rw [if_pos (Int.natCast_nonneg exponent), Int.toNat_natCast, Nat.one_mul]
  rfl

/-- In units of the last place of the greatest values. -/
theorem inUnits_maxExponent : inUnits num 1 maxExponent = (num, 2 * lastHalf) := by
  have exponent : maxExponent = (1 + 970 : Nat) := rfl
  rw [exponent, inUnits_natCast, two_pow_add_970, pow_one]

/-- Rounding leaves the range exactly from `beyond` on. -/
theorem ofRatio_one_eq_infinite_iff {negative sign : Bool} :
    ofRatio negative num 1 = .infinite sign ↔ negative = sign ∧ beyond ≤ num := by
  by_cases zero : num = 0
  · have positive := beyond_pos
    rw [zero, ofRatio, if_pos rfl]
    exact iff_of_false nofun (fun both => Nat.not_le.mpr positive both.2)
  rw [ofRatio_eq zero negative (exponentFor_one zero), ofRounded_eq_infinite_iff]
  refine and_congr_right fun _ => ?_
  have atLeast : 2 ^ num.log2 ≤ num := Nat.log2_self_le zero
  have below : num < 2 ^ (num.log2 + 1) := Nat.lt_log2_self
  have greatest : maxExponent = 971 := rfl
  unfold beyond
  rcases Nat.lt_trichotomy num.log2 (53 + 970) with small | same | large
  · refine iff_of_false (by omega) (Nat.not_le.mpr ?_)
    calc num < 2 ^ (num.log2 + 1) := below
      _ ≤ 2 ^ 53 * lastHalf := two_pow_le small
      _ ≤ (2 ^ 54 - 1) * lastHalf := Nat.mul_le_mul_right lastHalf (by decide)
  · have exponent : (num.log2 : Int) - 52 = maxExponent := by omega
    have top : num < 2 * lastHalf * 2 ^ 53 := by
      calc num < 2 ^ (num.log2 + 1) := below
        _ ≤ 2 ^ 54 * lastHalf := two_pow_le (by omega)
        _ = 2 * lastHalf * 2 ^ 53 := by rw [Nat.mul_right_comm, ← pow_succ']
    have isBound : significandBound = 2 ^ 53 := rfl
    have double : 2 * 2 ^ 53 = 2 ^ 54 := rfl
    rw [exponent, inUnits_maxExponent, isBound, roundDiv_eq_top lastHalf_pos (by decide) top,
      double]
    simp
  · refine iff_of_true (by omega) ?_
    calc (2 ^ 54 - 1) * lastHalf ≤ 2 ^ 54 * lastHalf := Nat.mul_le_mul_right lastHalf (by decide)
      _ ≤ 2 ^ num.log2 := le_two_pow large
      _ ≤ num := atLeast

theorem ofInt?_eq_none_iff {value : Int} : ofInt? value = none ↔ beyond ≤ value.natAbs := by
  have infinite : ofRatio (value < 0) value.natAbs 1 = .infinite (value < 0) ↔
      beyond ≤ value.natAbs := by
    rw [ofRatio_one_eq_infinite_iff, and_iff_right rfl]
  rw [← infinite]
  unfold ofInt?
  split
  · next sign outside =>
    rw [ofRatio_one_eq_infinite_iff] at outside ⊢
    simp [outside.2]
  · next inside =>
    simpa using fun outside => inside _ outside

end LanguageClient.Binary64
