import LanguageClient.Fault
import LanguageClient.Text.Blank
import LanguageClient.Text.Quoted

/-! # Integers written in text

An integer may be written with the digits of any script, with a sign, with blanks at either
end and with single underscores between digits. Every script writes its ten digits at ten code
points in a row, so a digit is known from the place of its script's zero.
-/

namespace LanguageClient.Text

/-- The code points of the digit zero in each script of Unicode 14. -/
def digitZeros : List Nat :=
  [0x30, 0x660, 0x6f0, 0x7c0, 0x966, 0x9e6, 0xa66, 0xae6, 0xb66, 0xbe6, 0xc66, 0xce6, 0xd66,
   0xde6, 0xe50, 0xed0, 0xf20, 0x1040, 0x1090, 0x17e0, 0x1810, 0x1946, 0x19d0, 0x1a80,
   0x1a90, 0x1b50, 0x1bb0, 0x1c40, 0x1c50, 0xa620, 0xa8d0, 0xa900, 0xa9d0, 0xa9f0, 0xaa50,
   0xabf0, 0xff10, 0x104a0, 0x10d30, 0x11066, 0x110f0, 0x11136, 0x111d0, 0x112f0, 0x11450,
   0x114d0, 0x11650, 0x116c0, 0x11730, 0x118e0, 0x11950, 0x11c50, 0x11d50, 0x11da0, 0x16a60,
   0x16ac0, 0x16b50, 0x1d7ce, 0x1d7d8, 0x1d7e2, 0x1d7ec, 0x1d7f6, 0x1e140, 0x1e2f0, 0x1e950,
   0x1fbf0]

/-- The digit that a character writes, in any script. -/
def digitValue? (c : CodePoint) : Option Nat :=
  (digitZeros.find? (fun first => first ≤ c.toNat && c.toNat < first + 10)).map (c.toNat - ·)

def asciiDigit? (c : Char) : Option Nat :=
  if '0' ≤ c ∧ c ≤ '9' then some (c.toNat - '0'.toNat) else none

/-- The value of a run of digits, read from the left. -/
def digitsValue (digits : List Nat) : Nat :=
  digits.foldl (fun value digit => value * 10 + digit) 0

/-- A blank that may stand beside an integer: any but the four ASCII separators. -/
def isIntegerBlank (c : CodePoint) : Bool :=
  isBlank c && !(28 ≤ c.toNat && c.toNat ≤ 31)

/-- Whether each underscore stands alone between two digits. -/
def wellSeparated : List CodePoint → Bool
  | [] => true
  | ['_'] => false
  | '_' :: '_' :: _ => false
  | _ :: rest => wellSeparated rest

/-- The sign in front and what follows it. -/
def takeSign : List CodePoint → Bool × List CodePoint
  | '-' :: rest => (true, rest)
  | '+' :: rest => (false, rest)
  | rest => (false, rest)

/-- At most this many characters of a malformed integer are shown. -/
def shownLimit : Nat := 200

/-- The refusal of a text that is no integer. -/
def malformed (text : Text) : Fault :=
  .malformedInteger (ofList ((quoted text).toList.take shownLimit))

/-- The integer that a text writes. Too many digits are refused before anything behind them
    is looked at. -/
def readInteger (text : Text) : Except Fault Int :=
  let (negative, rest) := takeSign (text.toList.dropWhile isIntegerBlank)
  let isPart := fun c => (digitValue? c).isSome || c == '_'
  let written := rest.takeWhile isPart
  let behind := rest.dropWhile isPart
  let digits := written.filterMap digitValue?
  if written.isEmpty || written.head? == some '_' || !wellSeparated written then
    .error (malformed text)
  else if digits.length > maxIntegerDigits then .error (.tooManyDigits digits.length)
  else if !behind.all isIntegerBlank then .error (malformed text)
  else
    let value := digitsValue digits
    .ok (if negative then -(value : Int) else value)

end LanguageClient.Text
