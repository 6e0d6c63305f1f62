import LanguageClient.Fault
import LanguageClient.Text.Integer

/-! # Frame headers

A header announces the length of the body behind it. The announcement is looked for anywhere
in the header, in any letter case, and the last one counts, so that noise in front of it
does no harm.
-/

namespace LanguageClient.Frame

/-- The four bytes that end a header: two line ends. -/
def headerEnd : List UInt8 := [13, 10, 13, 10]

/-- The bytes of `content-length`, the name of the announcement in lower case. -/
def lengthName : List UInt8 :=
  [99, 111, 110, 116, 101, 110, 116, 45, 108, 101, 110, 103, 116, 104]

/-- A letter of ASCII in lower case; other bytes stay. -/
def lowerByte (byte : UInt8) : UInt8 :=
  if 65 ≤ byte ∧ byte ≤ 90 then byte + 32 else byte

/-- The bytes behind a name that stands in front of them in any letter case. -/
def dropName? : List UInt8 → List UInt8 → Option (List UInt8)
  | [], bytes => some bytes
  | _ :: _, [] => none
  | n :: name, b :: bytes => if n = lowerByte b then dropName? name bytes else none

def dropGap (bytes : List UInt8) : List UInt8 :=
  bytes.dropWhile (fun byte => byte == 32 || byte == 9)

def digitOf? (byte : UInt8) : Option Nat :=
  if 48 ≤ byte ∧ byte ≤ 57 then some (byte.toNat - 48) else none

def leadingDigits : List UInt8 → List Nat
  | [] => []
  | byte :: rest =>
    match digitOf? byte with
    | some digit => digit :: leadingDigits rest
    | none => []

/-- A whole number with its sign, before its length is looked at. -/
structure Announced where
  negative : Bool
  digits : List Nat
  deriving Repr, DecidableEq

def announcedNumber? (bytes : List UInt8) : Option Announced :=
  let (negative, rest) :=
    match bytes with
    | 45 :: rest => (true, rest)
    | _ => (false, bytes)
  let digits := leadingDigits rest
  if digits.isEmpty then none else some ⟨negative, digits⟩

/-- The announcement in front of some bytes: the name, a colon with spaces and tabs around
    it, and a number. -/
def announcementAt? (bytes : List UInt8) : Option Announced :=
  match dropName? lengthName bytes with
  | none => none
  | some rest =>
    match dropGap rest with
    | 58 :: behind => announcedNumber? (dropGap behind)
    | _ => none

def lastAnnouncement? : List UInt8 → Option Announced
  | [] => none
  | byte :: rest =>
    match lastAnnouncement? rest with
    | some announced => some announced
    | none => announcementAt? (byte :: rest)

/-- The length of the body that a header announces. A header that announces none, or one
    below zero, is of no use; a length with too many digits is a fault. -/
def contentLength (header : List UInt8) : Except Fault (Option Nat) :=
  match lastAnnouncement? header with
  | none => .ok none
  | some announced =>
    if announced.digits.length > maxIntegerDigits then
      .error (.tooManyDigits announced.digits.length)
    else
      let value := Text.digitsValue announced.digits
      .ok (if announced.negative && value != 0 then none else some value)

end LanguageClient.Frame
