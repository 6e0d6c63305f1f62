import LanguageClient.Decimal.Binary64

/-! # Sums and comparisons of binary64 numbers

A sum is the value nearest to the exact one. An integer takes part in a sum only as the value
nearest to it, and one beyond the range takes no part; it is compared as it is.
-/

namespace LanguageClient.Binary64

/-- The value nearest to an integer, unless that is beyond the range. -/
def ofInt? (value : Int) : Option Binary64 :=
  match ofRatio (value < 0) value.natAbs 1 with
  | .infinite _ => none
  | nearest => some nearest

def signed (negative : Bool) (size : Nat) : Int :=
  if negative then -(size : Int) else size

/-- The value nearest to `count * 2 ^ exponent`, a zero of the given sign if that is zero. -/
def ofScaled (negativeZero : Bool) (count exponent : Int) : Binary64 :=
  if count = 0 then .finite negativeZero 0 minExponent
  else
    let (num, den) := inUnits count.natAbs 1 (-exponent)
    ofRatio (count < 0) num den

def negated : Binary64 → Binary64
  | .nan => .nan
  | .infinite negative => .infinite !negative
  | .finite negative significand exponent => .finite (!negative) significand exponent

/-- The value nearest to the sum of two values. Opposite infinities have none. -/
def plus : Binary64 → Binary64 → Binary64
  | .nan, _ => .nan
  | _, .nan => .nan
  | .infinite negative, .infinite other => if negative = other then .infinite other else .nan
  | .infinite negative, .finite .. => .infinite negative
  | .finite .., .infinite negative => .infinite negative
  | .finite negative significand exponent, .finite otherNegative other otherExponent =>
    let least := min exponent otherExponent
    let size := significand * Nat.pow 2 (exponent - least).toNat
    let otherSize := other * Nat.pow 2 (otherExponent - least).toNat
    ofScaled (negative && otherNegative) (signed negative size + signed otherNegative otherSize)
      least

/-- The value nearest to the difference of two values. -/
def minus (value other : Binary64) : Binary64 :=
  value.plus other.negated

/-- How a value compares with an integer; what is no number compares with none. -/
def compareInt? (value : Binary64) (other : Int) : Option Ordering :=
  match value with
  | .nan => none
  | .infinite negative => some (if negative then .lt else .gt)
  | .finite negative significand exponent =>
    let (num, den) := inUnits significand 1 (-exponent)
    some (compare (signed negative num) (other * den))

end LanguageClient.Binary64
