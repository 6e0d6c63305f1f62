import LanguageClient.Decimal.Binary64

/-! # Shortest decimals

The decimal with the fewest digits that reads back as a given binary64 value; of several,
the one nearest to the value. For each number of digits only the two neighbours of the value
on that decimal grid need a look: if any point of a grid reads back, so does one of them.
-/

namespace LanguageClient.Binary64

/-- The digits and the place of the decimal point of `0.digits * 10 ^ point`. -/
structure Decimal where
  digits : List Char
  point : Int
  deriving Repr, DecidableEq

/-- A positive finite value with the decimals that read back as it, all counted in a
    quarter of the last place of the significand. -/
structure Neighbourhood where
  low : Nat
  centre : Nat
  high : Nat
  /-- Whether the two ends read back as the value too. -/
  closed : Bool
  /-- The unit is `2 ^ unit`. -/
  unit : Int

/-- The decimals that read back as `significand * 2 ^ exponent`. Below a power of two the
    next value is only half as far away. -/
def neighbourhood (significand : Nat) (exponent : Int) : Neighbourhood :=
  let atPower := significand == Nat.pow 2 52 && minExponent < exponent
  { low := 4 * significand - (if atPower then 1 else 2)
    centre := 4 * significand
    high := 4 * significand + 2
    closed := significand % 2 == 0
    unit := exponent - 2 }

/-- The factors `(a, b)` that compare a point `d` of the grid `10 ^ place` with a count `x` of
    units: `d * 10 ^ place ≤ x * 2 ^ unit` exactly when `d * a ≤ x * b`. -/
def scales (unit place : Int) : Nat × Nat :=
  (Nat.pow 10 place.toNat * Nat.pow 2 (-unit).toNat,
    Nat.pow 2 unit.toNat * Nat.pow 10 (-place).toNat)

/-- Whether the point `d` of the grid reads back as the value. -/
def Neighbourhood.admits (n : Neighbourhood) (a b d : Nat) : Bool :=
  if n.closed then n.low * b ≤ d * a && d * a ≤ n.high * b
  else n.low * b < d * a && d * a < n.high * b

/-- The neighbour of the value on the grid `10 ^ place` that reads back, the nearer one if
    both do, the even one if they are equally near. -/
def Neighbourhood.nearestOn? (n : Neighbourhood) (place : Int) : Option Nat :=
  let (a, b) := scales n.unit place
  let below := n.centre * b / a
  let above := below + 1
  match n.admits a b below, n.admits a b above with
  | true, false => some below
  | false, true => some above
  | false, false => none
  | true, true =>
    let excess := n.centre * b - below * a
    let missing := above * a - n.centre * b
    if excess < missing ∨ (excess = missing ∧ below % 2 = 0) then some below else some above

/-- The power of ten of the leading digit of `num / den`. -/
def leadingPlace (num den : Nat) : Int :=
  if den ≤ num then ((Nat.toDigits 10 (num / den)).length : Int) - 1
  else -((Nat.toDigits 10 ((den + num - 1) / num - 1)).length : Int)

/-- The first grid, from `digits` digits on, that has a point that reads back. At seventeen
    digits there always is one. -/
def searchGrids (n : Neighbourhood) (leading : Int) : Nat → Nat → Nat × Int
  | 0, _ => (0, 0)
  | tries + 1, digits =>
    let place := leading - digits + 1
    match n.nearestOn? place with
    | some d => (d, place)
    | none => searchGrids n leading tries (digits + 1)

/-- The shortest decimal that reads back as a positive finite value. -/
def shortest (significand : Nat) (exponent : Int) : Decimal :=
  let n := neighbourhood significand exponent
  let (num, den) :=
    if 0 ≤ exponent then (significand * Nat.pow 2 exponent.toNat, 1)
    else (significand, Nat.pow 2 (-exponent).toNat)
  let (d, place) := searchGrids n (leadingPlace num den) 17 1
  let written := Nat.toDigits 10 d
  { digits := (written.reverse.dropWhile (· == '0')).reverse
    point := written.length + place }

end LanguageClient.Binary64
