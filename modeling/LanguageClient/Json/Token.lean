import LanguageClient.Decimal.Binary64
import LanguageClient.Json.Basic
import LanguageClient.Text.Integer

/-! # Tokens of JSON text

Text cut into its marks, words, numbers and strings. Cutting never fails: what begins no
token, and a string that goes wrong, become tokens that say so, because whether they are
faults depends on what was awaited at that place. Every token keeps the text from its start
on, from which the place of a fault is counted.
-/

namespace LanguageClient.Json

/-- Why text is no JSON. -/
inductive Cause where
  | expectingValue
  | expectingName
  | expectingColon
  | expectingComma
  | extraData
  | unterminatedString
  | badEscape
  | badUnicodeEscape
  | controlCharacter
  | byteOrderMark
  deriving Repr, DecidableEq

def Cause.message : Cause → Text
  | .expectingValue => "Expecting value"
  | .expectingName => "Expecting property name enclosed in double quotes"
  | .expectingColon => "Expecting ':' delimiter"
  | .expectingComma => "Expecting ',' delimiter"
  | .extraData => "Extra data"
  | .unterminatedString => "Unterminated string starting at"
  | .badEscape => "Invalid \\escape"
  | .badUnicodeEscape => "Invalid \\uXXXX escape"
  | .controlCharacter => "Invalid control character at"
  | .byteOrderMark => "Unexpected UTF-8 BOM (decode using utf-8-sig)"

/-- A lexical unit. -/
inductive Token where
  | leftBrace
  | rightBrace
  | leftBracket
  | rightBracket
  | comma
  | colon
  /-- A word that names a value, or a number with a fraction or an exponent. -/
  | constant (value : Json)
  | integer (negative : Bool) (digits : List Nat)
  | string (text : Text)
  /-- Something that begins like a string; `place` is the text from the fault on. -/
  | brokenString (cause : Cause) (place : List Char)
  /-- A character that begins no token. -/
  | stray
  | finish

/-- A token with the text from its start on. -/
structure Placed where
  token : Token
  place : List Char

def isSpace (c : Char) : Bool :=
  c == ' ' || c == '\t' || c == '\n' || c == '\r'

/-! ## Strings -/

def hexValue? (c : Char) : Option Nat :=
  if '0' ≤ c ∧ c ≤ '9' then some (c.toNat - '0'.toNat)
  else if 'a' ≤ c ∧ c ≤ 'f' then some (c.toNat - 'a'.toNat + 10)
  else if 'A' ≤ c ∧ c ≤ 'F' then some (c.toNat - 'A'.toNat + 10)
  else none

/-- Four hexadecimal digits, behind which the text must go on. -/
def takeFour? : List Char → Option (Nat × List Char)
  | a :: b :: c :: d :: next :: rest => do
    let a ← hexValue? a
    let b ← hexValue? b
    let c ← hexValue? c
    let d ← hexValue? d
    some (((a * 16 + b) * 16 + c) * 16 + d, next :: rest)
  | _ => none

/-- The code point of a pair of halves. -/
def joinPair (high low : Nat) : Nat :=
  0x10000 + (high - 0xD800) * 0x400 + (low - 0xDC00)

/-- The code point behind `\u`, or the text from the fault on. The first half of a pair takes
    the second half behind it along. -/
def takeUnicode (text : List Char) : Except (List Char) (CodePoint × List Char) :=
  match takeFour? text with
  | none => .error ('u' :: text)
  | some (code, rest) =>
    if 0xD800 ≤ code ∧ code ≤ 0xDBFF then
      match rest with
      | '\\' :: 'u' :: more =>
        match takeFour? more with
        | none => .error ('u' :: more)
        | some (low, behind) =>
          if 0xDC00 ≤ low ∧ low ≤ 0xDFFF then .ok (.ofNat (joinPair code low), behind)
          else .ok (.ofNat code, rest)
      | _ => .ok (.ofNat code, rest)
    else .ok (.ofNat code, rest)

/-- The character that a letter behind a backslash stands for. -/
def simpleEscape? : Char → Option Char
  | '"' => some '"'
  | '\\' => some '\\'
  | '/' => some '/'
  | 'b' => some '\x08'
  | 'f' => some '\x0c'
  | 'n' => some '\n'
  | 'r' => some '\r'
  | 't' => some '\t'
  | _ => none

/-- The code point that an escape stands for, given what follows the backslash; a fault comes
    with the text from it on. Text that ends inside the escape is `none`. -/
def takeEscape : List Char → Option (Except (Cause × List Char) (CodePoint × List Char))
  | [] => none
  | c :: rest =>
    if c = 'u' then
      match takeUnicode rest with
      | .ok taken => some (.ok taken)
      | .error place => some (.error (.badUnicodeEscape, place))
    else
      match simpleEscape? c with
      | some escaped => some (.ok (escaped, rest))
      | none => some (.error (.badEscape, '\\' :: c :: rest))

/-- Four digits and the character behind them leave a shorter text. -/
theorem length_takeFour? {text rest : List Char} {code : Nat}
    (h : takeFour? text = some (code, rest)) : rest.length < text.length := by
  unfold takeFour? at h
  split at h
  · simp only [Option.bind_eq_bind, Option.bind_eq_some_iff, Option.some.injEq,
      Prod.mk.injEq] at h
    obtain ⟨_, _, _, _, _, _, _, _, _, hr⟩ := h
    subst hr
    simp only [List.length_cons]
    omega
  · simp at h

/-- A character behind `\u` leaves a shorter text. -/
theorem length_takeUnicode {text rest : List Char} {c : CodePoint}
    (h : takeUnicode text = .ok (c, rest)) : rest.length < text.length := by
  unfold takeUnicode at h
  split at h
  · simp at h
  · next first =>
    have hf := length_takeFour? first
    split at h
    · split at h
      · split at h
        · simp at h
        · next second =>
          have hs := length_takeFour? second
          simp only [List.length_cons] at hf
          split at h
          · simp only [Except.ok.injEq, Prod.mk.injEq] at h
            rw [← h.2]
            omega
          · simp only [Except.ok.injEq, Prod.mk.injEq] at h
            rw [← h.2]
            simp only [List.length_cons]
            omega
      · simp only [Except.ok.injEq, Prod.mk.injEq] at h
        rw [← h.2]
        exact hf
    · simp only [Except.ok.injEq, Prod.mk.injEq] at h
      rw [← h.2]
      exact hf

theorem length_takeEscape {text rest : List Char} {c : CodePoint}
    (h : takeEscape text = some (.ok (c, rest))) : rest.length < text.length := by
  unfold takeEscape at h
  split at h
  · simp at h
  · split at h
    · split at h
      · next taken =>
        simp only [Option.some.injEq, Except.ok.injEq] at h
        subst h
        exact Nat.lt_succ_of_lt (length_takeUnicode taken)
      · simp at h
    · split at h
      · simp only [Option.some.injEq, Except.ok.injEq, Prod.mk.injEq] at h
        simp [h.2]
      · simp at h

/-- The code points of a string up to its closing quote, and the text behind it. `start` is
    the text from the opening quote on, and what is already read comes last first. -/
def takeString (start : List Char) (read : List CodePoint) (text : List Char) :
    Except (Cause × List Char) (List CodePoint × List Char) :=
  match text with
  | [] => .error (.unterminatedString, start)
  | c :: rest =>
    if c = '"' then .ok (read.reverse, rest)
    else if c = '\\' then
      match _h : takeEscape rest with
      | none => .error (.unterminatedString, start)
      | some (.error fault) => .error fault
      | some (.ok (escaped, behind)) => takeString start (escaped :: read) behind
    else if c.toNat < 0x20 then .error (.controlCharacter, c :: rest)
    else takeString start (c :: read) rest
termination_by text.length
decreasing_by
  · have := length_takeEscape _h
    simp only [List.length_cons]
    omega
  · simp

/-- A string leaves a text that is no longer. -/
theorem length_takeString {start text rest : List Char} {read points : List CodePoint}
    (h : takeString start read text = .ok (points, rest)) : rest.length ≤ text.length := by
  fun_induction takeString start read text with
  | case1 => simp at h
  | case2 =>
    simp only [Except.ok.injEq, Prod.mk.injEq] at h
    simp [h.2]
  | case3 => simp at h
  | case4 => simp at h
  | case5 =>
    rename_i escape _ ih
    have := length_takeEscape escape
    have := ih h
    simp only [List.length_cons]
    omega
  | case6 => simp at h
  | case7 =>
    rename_i ih
    exact Nat.le_succ_of_le (ih h)

/-! ## Numbers -/

/-- The digits in front of a text, and the rest. -/
def takeDigits : List Char → List Nat × List Char
  | [] => ([], [])
  | c :: rest =>
    match Text.asciiDigit? c with
    | some digit => (digit :: (takeDigits rest).1, (takeDigits rest).2)
    | none => ([], c :: rest)

/-- The digits of a whole number: zero stands alone. -/
def takeWhole? : List Char → Option (List Nat × List Char)
  | [] => none
  | c :: rest =>
    if c = '0' then some ([0], rest)
    else if (Text.asciiDigit? c).isSome then some (takeDigits (c :: rest)) else none

/-- The digits of a fraction: a point with a digit behind it. -/
def takeFraction? : List Char → Option (List Nat × List Char)
  | '.' :: rest =>
    if (takeDigits rest).1.isEmpty then none else some (takeDigits rest)
  | _ => none

def takeExponentSign : List Char → Bool × List Char
  | '-' :: rest => (true, rest)
  | '+' :: rest => (false, rest)
  | rest => (false, rest)

/-- The exponent: the letter, a sign if there is one, and at least one digit. -/
def takeExponent? : List Char → Option (Int × List Char)
  | c :: rest =>
    if c = 'e' ∨ c = 'E' then
      let signed := takeExponentSign rest
      let taken := takeDigits signed.2
      if taken.1.isEmpty then none
      else
        let size : Int := Text.digitsValue taken.1
        some (if signed.1 then -size else size, taken.2)
    else none
  | [] => none

/-- The number without its sign in front of a text. -/
def takeNumber? (negative : Bool) (text : List Char) : Option (Token × List Char) :=
  match takeWhole? text with
  | none => none
  | some (whole, rest) =>
    let fraction := (takeFraction? rest).getD ([], rest)
    let exponent := (takeExponent? fraction.2).getD (0, fraction.2)
    if (takeFraction? rest).isSome || (takeExponent? fraction.2).isSome then
      let digits := Text.digitsValue (whole ++ fraction.1)
      let value := Binary64.ofDecimal negative digits (exponent.1 - (fraction.1.length : Int))
      some (.constant (.float value), exponent.2)
    else some (.integer negative whole, exponent.2)

def takeSigned? : List Char → Option (Token × List Char)
  | '-' :: rest => takeNumber? true rest
  | text => takeNumber? false text

/-! ## Tokens -/

def words : List (List Char × Json) :=
  [(['n', 'u', 'l', 'l'], .null),
   (['t', 'r', 'u', 'e'], .bool true),
   (['f', 'a', 'l', 's', 'e'], .bool false),
   (['N', 'a', 'N'], .float .nan),
   (['I', 'n', 'f', 'i', 'n', 'i', 't', 'y'], .float (.infinite false)),
   (['-', 'I', 'n', 'f', 'i', 'n', 'i', 't', 'y'], .float (.infinite true))]

/-- The text behind a word in front of it. -/
def dropWord? : List Char → List Char → Option (List Char)
  | [], text => some text
  | _ :: _, [] => none
  | w :: word, c :: text => if w = c then dropWord? word text else none

/-- The first of some words that stands in front of a text. -/
def takeWord? (text : List Char) : List (List Char × Json) → Option (Token × List Char)
  | [] => none
  | (word, value) :: others =>
    match dropWord? word text with
    | some rest => some (.constant value, rest)
    | none => takeWord? text others

/-- A word or a number in front of a text. -/
def takeAtom (text : List Char) : Token × List Char :=
  match takeWord? text words with
  | some taken => taken
  | none =>
    match takeSigned? text with
    | some taken => taken
    | none => (.stray, [])

/-- The token that begins with a character, and the text behind it. Behind a token that
    begins nothing there is nothing more to cut. -/
def takeToken (c : Char) (rest : List Char) : Token × List Char :=
  if c = '{' then (.leftBrace, rest)
  else if c = '}' then (.rightBrace, rest)
  else if c = '[' then (.leftBracket, rest)
  else if c = ']' then (.rightBracket, rest)
  else if c = ',' then (.comma, rest)
  else if c = ':' then (.colon, rest)
  else if c = '"' then
    match takeString (c :: rest) [] rest with
    | .ok (text, behind) => (.string (Text.ofList text), behind)
    | .error (cause, place) => (.brokenString cause place, [])
  else takeAtom (c :: rest)

/-- Digits leave a text that is no longer. -/
theorem length_takeDigits (text : List Char) : (takeDigits text).2.length ≤ text.length := by
  induction text with
  | nil => simp [takeDigits]
  | cons c rest ih =>
    unfold takeDigits
    split
    · exact Nat.le_succ_of_le ih
    · simp

theorem length_takeWhole? {text rest : List Char} {digits : List Nat}
    (h : takeWhole? text = some (digits, rest)) : rest.length < text.length := by
  unfold takeWhole? at h
  split at h
  · simp at h
  · next c tail =>
    split at h
    · simp only [Option.some.injEq, Prod.mk.injEq] at h
      simp [h.2]
    · split at h
      · next hd =>
        obtain ⟨d, hd⟩ := Option.isSome_iff_exists.mp hd
        simp only [takeDigits, hd, Option.some.injEq, Prod.mk.injEq] at h
        rw [← h.2]
        exact Nat.lt_succ_of_le (length_takeDigits tail)
      · simp at h

/-- A fraction leaves a text that is no longer. -/
theorem length_takeFraction? {text rest : List Char} {digits : List Nat}
    (h : takeFraction? text = some (digits, rest)) : rest.length ≤ text.length := by
  unfold takeFraction? at h
  split at h
  · next tail =>
    split at h
    · simp at h
    · simp only [Option.some.injEq] at h
      have := length_takeDigits tail
      rw [h] at this
      exact Nat.le_succ_of_le this
  · simp at h

/-- A sign leaves a text that is no longer. -/
theorem length_takeExponentSign (text : List Char) :
    (takeExponentSign text).2.length ≤ text.length := by
  unfold takeExponentSign
  split <;> simp

/-- An exponent leaves a text that is no longer. -/
theorem length_takeExponent? {text rest : List Char} {exponent : Int}
    (h : takeExponent? text = some (exponent, rest)) : rest.length ≤ text.length := by
  unfold takeExponent? at h
  split at h
  · next c tail =>
    split at h
    · dsimp only at h
      split at h
      · simp at h
      · simp only [Option.some.injEq, Prod.mk.injEq] at h
        rw [← h.2]
        exact Nat.le_succ_of_le (Nat.le_trans (length_takeDigits _)
          (length_takeExponentSign tail))
    · simp at h
  · simp at h

theorem length_takeNumber? {negative : Bool} {text rest : List Char} {token : Token}
    (h : takeNumber? negative text = some (token, rest)) : rest.length < text.length := by
  unfold takeNumber? at h
  split at h
  · simp at h
  · next whole tail hw =>
    have hwhole := length_takeWhole? hw
    have hfraction : ((takeFraction? tail).getD ([], tail)).2.length ≤ tail.length := by
      cases hf : takeFraction? tail with
      | none => simp
      | some taken =>
        obtain ⟨digits, behind⟩ := taken
        simpa using length_takeFraction? hf
    have hexponent : ∀ t : List Char, ((takeExponent? t).getD (0, t)).2.length ≤ t.length := by
      intro t
      cases he : takeExponent? t with
      | none => simp
      | some taken =>
        obtain ⟨exponent, behind⟩ := taken
        simpa using length_takeExponent? he
    have hall := hexponent ((takeFraction? tail).getD ([], tail)).2
    dsimp only at h
    split at h <;> simp only [Option.some.injEq, Prod.mk.injEq] at h <;> rw [← h.2] <;> omega

/-- A number with its sign leaves a shorter text. -/
theorem length_takeSigned? {text rest : List Char} {token : Token}
    (h : takeSigned? text = some (token, rest)) : rest.length < text.length := by
  unfold takeSigned? at h
  split at h
  · exact Nat.lt_succ_of_lt (length_takeNumber? h)
  · exact length_takeNumber? h

/-- What is behind a word is shorter by the word. -/
theorem length_dropWord? {word text rest : List Char} (h : dropWord? word text = some rest) :
    rest.length + word.length = text.length := by
  induction word generalizing text with
  | nil =>
    simp only [dropWord?, Option.some.injEq] at h
    simp [h]
  | cons w word ih =>
    cases text with
    | nil => simp [dropWord?] at h
    | cons c text =>
      unfold dropWord? at h
      split at h
      · have := ih h
        simp only [List.length_cons]
        omega
      · simp at h

/-- A word leaves a shorter text if none of the words is empty. -/
theorem length_takeWord? {text rest : List Char} {token : Token}
    {candidates : List (List Char × Json)} (nonempty : ∀ entry ∈ candidates, entry.1 ≠ [])
    (h : takeWord? text candidates = some (token, rest)) : rest.length < text.length := by
  induction candidates with
  | nil => simp [takeWord?] at h
  | cons entry others ih =>
    unfold takeWord? at h
    split at h
    · next hd =>
      simp only [Option.some.injEq, Prod.mk.injEq] at h
      have hlen := length_dropWord? hd
      have hpos := List.length_pos_iff.mpr (nonempty entry (by simp))
      rw [← h.2]
      omega
    · exact ih (fun e he => nonempty e (List.mem_cons_of_mem entry he)) h

/-- A word or a number leaves a shorter text. -/
theorem length_takeAtom (c : Char) (rest : List Char) :
    (takeAtom (c :: rest)).2.length ≤ rest.length := by
  unfold takeAtom
  split
  · next taken h =>
    obtain ⟨token, behind⟩ := taken
    exact Nat.le_of_lt_succ (length_takeWord? (by simp [words]) h)
  · split
    · next taken h =>
      obtain ⟨token, behind⟩ := taken
      exact Nat.le_of_lt_succ (length_takeSigned? h)
    · simp

/-- A token takes at least the character that it begins with. -/
theorem length_takeToken (c : Char) (rest : List Char) :
    (takeToken c rest).2.length ≤ rest.length := by
  unfold takeToken
  repeat' split
  all_goals first
    | exact Nat.le_refl _
    | exact length_takeAtom c rest
    | exact Nat.zero_le _
    | exact length_takeString (by assumption)

/-- White space in front can be dropped, which makes a text no longer. -/
theorem length_dropSpace (text : List Char) :
    (text.dropWhile isSpace).length ≤ text.length :=
  (List.dropWhile_sublist isSpace).length_le

/-- The tokens of a text; the last one marks its end. -/
def tokens (text : List Char) : List Placed :=
  match _h : text.dropWhile isSpace with
  | [] => [⟨.finish, []⟩]
  | c :: rest => ⟨(takeToken c rest).1, c :: rest⟩ :: tokens (takeToken c rest).2
termination_by text.length
decreasing_by
  have hd := length_dropSpace text
  have ht := length_takeToken c rest
  rw [_h] at hd
  simp only [List.length_cons] at hd
  omega

end LanguageClient.Json
