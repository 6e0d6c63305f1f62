import LanguageClient.Decimal.Shortest

/-! # Numerals

The written form of a binary64 value: its shortest decimal, set positionally near one and
with an exponent elsewhere. A style fixes where positional writing ends and how the values
without digits are spelt.
-/

namespace LanguageClient.Binary64

/-- How values are spelt out. -/
structure NumeralStyle where
  /-- The least power of ten of a leading digit that is written positionally. -/
  positionalFrom : Int := -4
  /-- From this power of ten on the leading digit is written with an exponent. -/
  positionalBelow : Int := 16
  /-- Exponents have at least this many digits. -/
  exponentWidth : Nat := 2
  notANumber : String
  infinity : String

/-- The style of a value shown in a text. -/
def displayStyle : NumeralStyle := { notANumber := "nan", infinity := "inf" }

/-- The style of a value written in a message. -/
def messageStyle : NumeralStyle := { notANumber := "NaN", infinity := "Infinity" }

/-- The exponent of a numeral: its sign always, and leading zeros up to the least width. -/
def NumeralStyle.exponentText (style : NumeralStyle) (power : Int) : List Char :=
  let digits := Nat.toDigits 10 power.natAbs
  'e' :: (if power < 0 then '-' else '+') ::
    (List.replicate (style.exponentWidth - digits.length) '0' ++ digits)

/-- A positive decimal written out; a whole number keeps one zero behind its point. -/
def NumeralStyle.decimalText (style : NumeralStyle) (decimal : Decimal) : List Char :=
  let power := decimal.point - 1
  if style.positionalFrom ≤ power ∧ power < style.positionalBelow then
    if decimal.point ≤ 0 then
      '0' :: '.' :: (List.replicate (-decimal.point).toNat '0' ++ decimal.digits)
    else
      let size := decimal.point.toNat
      let whole := decimal.digits.take size
      let fraction := decimal.digits.drop size
      whole ++ List.replicate (size - whole.length) '0' ++ '.' ::
        (if fraction.isEmpty then ['0'] else fraction)
  else
    match decimal.digits with
    | [] => style.exponentText power
    | first :: others =>
      first :: ((if others.isEmpty then [] else '.' :: others) ++ style.exponentText power)

def NumeralStyle.text (style : NumeralStyle) : Binary64 → String
  | .nan => style.notANumber
  | .infinite negative => (if negative then "-" else "") ++ style.infinity
  | .finite negative significand exponent =>
    (if negative then "-" else "") ++
      (if significand = 0 then "0.0"
       else String.ofList (style.decimalText (shortest significand exponent)))

end LanguageClient.Binary64
