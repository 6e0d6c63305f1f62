import LanguageClient.Text.Basic

/-! # UTF-8

Text as bytes. Writing gives every character its one encoding. Reading is strict and, on bytes
that are no text, says where the first fault lies and of what kind it is; bytes that are only
to be looked at are shown with a mark in place of each fault.
-/

namespace LanguageClient.Text

/-- Why bytes are no text. -/
inductive Utf8Reason where
  /-- A byte that begins no character. -/
  | badStart
  /-- A byte that does not go on with the character begun. -/
  | badContinuation
  /-- The bytes end inside a character. -/
  | cutShort
  deriving Repr, DecidableEq

/-- The first fault in some bytes: where it starts, how many bytes it takes in, and the byte
    it starts with. -/
structure Utf8Fault where
  reason : Utf8Reason
  start : Nat
  length : Nat
  byte : UInt8
  deriving Repr, DecidableEq

def byteDigits (byte : UInt8) : Text :=
  let digits := Nat.toDigits 16 byte.toNat
  ofChars (List.replicate (2 - digits.length) '0' ++ digits)

def Utf8Reason.message : Utf8Reason → Text
  | .badStart => "invalid start byte"
  | .badContinuation => "invalid continuation byte"
  | .cutShort => "unexpected end of data"

def Utf8Fault.message (fault : Utf8Fault) : Text :=
  "'utf-8' codec can't decode " ++
    (if fault.length = 1 then
      "byte 0x" ++ byteDigits fault.byte ++ " in position " ++ toString fault.start
    else
      "bytes in position " ++ toString fault.start ++ "-" ++
        toString (fault.start + fault.length - 1)) ++
    ": " ++ fault.reason.message

def encodeChar (c : Char) : List UInt8 :=
  let code := c.toNat
  if code < 0x80 then [UInt8.ofNat code]
  else if code < 0x800 then
    [UInt8.ofNat (0xC0 + code / 0x40), UInt8.ofNat (0x80 + code % 0x40)]
  else if code < 0x10000 then
    [UInt8.ofNat (0xE0 + code / 0x1000), UInt8.ofNat (0x80 + code / 0x40 % 0x40),
      UInt8.ofNat (0x80 + code % 0x40)]
  else
    [UInt8.ofNat (0xF0 + code / 0x40000), UInt8.ofNat (0x80 + code / 0x1000 % 0x40),
      UInt8.ofNat (0x80 + code / 0x40 % 0x40), UInt8.ofNat (0x80 + code % 0x40)]

def encodeChars (text : List Char) : List UInt8 :=
  text.flatMap encodeChar

def encodeUtf8 (text : String) : List UInt8 :=
  encodeChars text.toList

/-- What a first byte announces: how many bytes follow, the bits of the code point that it
    holds, and the range of the second byte. The range leaves out the overlong forms, the
    surrogates and what lies beyond the last code point. -/
structure LeadByte where
  following : Nat
  bits : Nat
  secondLow : Nat
  secondHigh : Nat

def leadByte? (byte : UInt8) : Option LeadByte :=
  let b := byte.toNat
  if b < 0x80 then some ⟨0, b, 0x80, 0xBF⟩
  else if b < 0xC2 then none
  else if b < 0xE0 then some ⟨1, b - 0xC0, 0x80, 0xBF⟩
  else if b < 0xF0 then
    some ⟨2, b - 0xE0, if b = 0xE0 then 0xA0 else 0x80, if b = 0xED then 0x9F else 0xBF⟩
  else if b < 0xF5 then
    some ⟨3, b - 0xF0, if b = 0xF0 then 0x90 else 0x80, if b = 0xF4 then 0x8F else 0xBF⟩
  else none

/-- Reads the bytes that follow a first byte, given how many are to come, the code point so
    far, the range of the next byte, and how many bytes the character has taken. -/
def takeFollowing : Nat → Nat → Nat → Nat → Nat → List UInt8 →
    Except (Utf8Reason × Nat) (Nat × List UInt8)
  | 0, code, _, _, _, rest => .ok (code, rest)
  | _ + 1, _, _, _, taken, [] => .error (.cutShort, taken)
  | more + 1, code, low, high, taken, byte :: rest =>
    if low ≤ byte.toNat ∧ byte.toNat ≤ high then
      takeFollowing more (code * 0x40 + (byte.toNat - 0x80)) 0x80 0xBF (taken + 1) rest
    else .error (.badContinuation, taken)

/-- One character and the bytes behind it, or the reason and the length of the fault. -/
def takeChar (byte : UInt8) (rest : List UInt8) :
    Except (Utf8Reason × Nat) (Char × List UInt8) :=
  match leadByte? byte with
  | none => .error (.badStart, 1)
  | some lead =>
    match takeFollowing lead.following lead.bits lead.secondLow lead.secondHigh 1 rest with
    | .ok (code, behind) => .ok (Char.ofNat code, behind)
    | .error fault => .error fault

/-- What follows a first byte gets no longer by being read. -/
theorem length_takeFollowing {more code low high taken : Nat} {bytes : List UInt8} {n : Nat}
    {rest : List UInt8} (h : takeFollowing more code low high taken bytes = .ok (n, rest)) :
    rest.length ≤ bytes.length := by
  induction more generalizing code low high taken bytes with
  | zero => simp only [takeFollowing, Except.ok.injEq, Prod.mk.injEq] at h; simp [h.2]
  | succ more ih =>
    cases bytes with
    | nil => simp [takeFollowing] at h
    | cons byte bytes =>
      unfold takeFollowing at h
      split at h
      · exact Nat.le_succ_of_le (ih h)
      · simp at h

/-- A character takes at least the byte that it begins with. -/
theorem length_takeChar {byte : UInt8} {bytes : List UInt8} {c : Char} {rest : List UInt8}
    (h : takeChar byte bytes = .ok (c, rest)) : rest.length ≤ bytes.length := by
  unfold takeChar at h
  split at h
  · simp at h
  · split at h
    · next heq =>
      simp only [Except.ok.injEq, Prod.mk.injEq] at h
      exact h.2 ▸ length_takeFollowing heq
    · simp at h

/-- A fault before its place is counted: its reason, how many bytes it takes in, and the
    bytes from it on. -/
abbrev Utf8Refusal := Utf8Reason × Nat × List UInt8

/-- The characters of some bytes up to the first fault. -/
def decodeChars : List UInt8 → Except Utf8Refusal (List Char)
  | [] => .ok []
  | byte :: bytes =>
    match _h : takeChar byte bytes with
    | .error (reason, length) => .error (reason, length, byte :: bytes)
    | .ok (c, rest) =>
      match decodeChars rest with
      | .ok text => .ok (c :: text)
      | .error refusal => .error refusal
termination_by bytes => bytes.length
decreasing_by
  have := length_takeChar _h
  simp only [List.length_cons]
  omega

def decodeUtf8 (bytes : List UInt8) : Except Utf8Fault (List Char) :=
  match decodeChars bytes with
  | .ok text => .ok text
  | .error (reason, length, place) =>
    .error ⟨reason, bytes.length - place.length, length, place.headD 0⟩

/-- What stands in place of a fault. -/
def faultMark : Char := '\uFFFD'

/-- The characters of some bytes, with a mark in place of each fault. -/
def showBytes : List UInt8 → List Char
  | [] => []
  | byte :: bytes =>
    match _h : takeChar byte bytes with
    | .error (_, length) => faultMark :: showBytes (bytes.drop (length - 1))
    | .ok (c, rest) => c :: showBytes rest
termination_by bytes => bytes.length
decreasing_by
  · simp only [List.length_drop, List.length_cons]
    omega
  · have := length_takeChar _h
    simp only [List.length_cons]
    omega

end LanguageClient.Text
