/-! # Binary64 numbers

The values of the 64-bit binary floating-point format: a number whose text has a fraction or
an exponent is held as the nearest of them. Everything is exact integer arithmetic, so the
rules of rounding are visible to proofs.

A finite value is held in its one canonical form, with the largest significand that the
format allows; zero has the least exponent.
-/

namespace LanguageClient

/-- A binary64 value; a finite one stands for `significand * 2 ^ exponent` with its sign. -/
inductive Binary64 where
  | nan
  | infinite (negative : Bool)
  | finite (negative : Bool) (significand : Nat) (exponent : Int)
  deriving Repr, DecidableEq, Inhabited

namespace Binary64

/-- The least exponent, that of zero and of the smallest numbers. -/
def minExponent : Int := -1074

def maxExponent : Int := 971

/-- Significands stay below this bound. -/
def significandBound : Nat := Nat.pow 2 53

/-- The quotient rounded to the nearest integer, a half going to the even neighbour. -/
def roundDiv (num den : Nat) : Nat :=
  let quotient := num / den
  let twice := 2 * (num % den)
  if twice > den ∨ (twice = den ∧ quotient % 2 = 1) then quotient + 1 else quotient

/-- The numerator and denominator of `num / den` counted in units of `2 ^ exponent`. -/
def inUnits (num den : Nat) (exponent : Int) : Nat × Nat :=
  if 0 ≤ exponent then (num, den * Nat.pow 2 exponent.toNat)
  else (num * Nat.pow 2 (-exponent).toNat, den)

/-- The exponent at which the significand of a positive ratio has 53 binary digits, or the
    least exponent if that is greater. -/
def exponentFor (num den : Nat) : Int :=
  let guess := (num.log2 : Int) - den.log2 - 52
  let (n, d) := inUnits num den guess
  max minExponent (if n < d * Nat.pow 2 52 then guess - 1 else guess)

/-- The value nearest to the ratio `num / den`, an exact half going to the even
    significand. -/
def ofRatio (negative : Bool) (num den : Nat) : Binary64 :=
  if num = 0 then .finite negative 0 minExponent
  else
    let exponent := exponentFor num den
    let (n, d) := inUnits num den exponent
    let rounded := roundDiv n d
    let (significand, exponent) :=
      if rounded = significandBound then (Nat.pow 2 52, exponent + 1) else (rounded, exponent)
    if exponent > maxExponent then .infinite negative
    else .finite negative significand exponent

/-- The value nearest to `digits * 10 ^ exponent`. Numbers far beyond either end of the
    range are settled by their size alone. -/
def ofDecimal (negative : Bool) (digits : Nat) (exponent : Int) : Binary64 :=
  let magnitude := ((Nat.toDigits 10 digits).length : Int) + exponent
  if digits = 0 ∨ magnitude < -330 then .finite negative 0 minExponent
  else if magnitude > 310 then .infinite negative
  else if 0 ≤ exponent then ofRatio negative (digits * Nat.pow 10 exponent.toNat) 1
  else ofRatio negative digits (Nat.pow 10 (-exponent).toNat)

/-- The value nearest to the quotient of a value and a positive integer. -/
def dividedBy (value : Binary64) (den : Nat) : Binary64 :=
  match value with
  | .finite negative significand exponent =>
    let (num, unit) := inUnits significand 1 (-exponent)
    ofRatio negative num (unit * den)
  | other => other

/-- The integer part of a finite value, the fraction cut off toward zero. -/
def truncate? : Binary64 → Option Int
  | .nan => none
  | .infinite _ => none
  | .finite negative significand exponent =>
    let size : Nat :=
      if 0 ≤ exponent then significand * Nat.pow 2 exponent.toNat
      else significand / Nat.pow 2 (-exponent).toNat
    some (if negative then -(size : Int) else size)

/-- The integer that a value is equal to, if there is one. -/
def toInt? : Binary64 → Option Int
  | .nan => none
  | .infinite _ => none
  | .finite negative significand exponent =>
    let (num, den) := inUnits significand 1 (-exponent)
    if num % den = 0 then
      let size : Nat := num / den
      some (if negative then -(size : Int) else size)
    else none

def isZero : Binary64 → Bool
  | .finite _ significand _ => significand == 0
  | _ => false

end Binary64

end LanguageClient
