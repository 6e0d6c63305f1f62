import LanguageClient.Json.Printer
import LanguageClient.Json.Token
import LanguageClient.Proofs.Text.Digit

/-! # Tokens of what is printed

A string, an integer or a word that was printed is cut off again as one token, whatever comes
behind it, as long as an integer is not followed by something that would go on with it.
-/

namespace LanguageClient.Json

/-! ## Strings -/

private theorem hexValue?_hexDigit :
    ∀ digit < 16, hexValue? (Text.hexDigit digit) = some digit := by decide

private theorem takeString_escape {start text behind : List Char} {read : List CodePoint}
    {c : CodePoint}
    (escape : takeEscape text = some (.ok (c, behind))) :
    takeString start read ('\\' :: text) = takeString start (c :: read) behind := by
  rw [takeString]
  split
  · next quote => exact absurd quote (by decide)
  · split
    · split
      · next h => simp [escape] at h
      · next h => simp [escape] at h
      · next h =>
        rw [escape] at h
        simp only [Option.some.injEq, Except.ok.injEq, Prod.mk.injEq] at h
        obtain ⟨rfl, rfl⟩ := h
        rfl
    · next notBackslash => exact absurd rfl notBackslash

private theorem takeFour?_control {code : Nat} (control : code < 0x20) (next : Char)
    (rest : List Char) :
    takeFour? (Text.hexDigits 4 code ++ next :: rest) = some (code, next :: rest) := by
  have first := hexValue?_hexDigit (code / 16 / 16 / 16 % 16) (by omega)
  have second := hexValue?_hexDigit (code / 16 / 16 % 16) (by omega)
  have third := hexValue?_hexDigit (code / 16 % 16) (by omega)
  have fourth := hexValue?_hexDigit (code % 16) (by omega)
  simp only [Text.hexDigits, List.nil_append, List.cons_append, takeFour?, first, second, third,
    fourth, Option.bind_eq_bind, Option.bind_some, Option.some.injEq, Prod.mk.injEq, and_true]
  omega

private theorem takeEscape_control {c next : Char} (control : c.toNat < 0x20)
    (rest : List Char) :
    takeEscape ('u' :: Text.hexDigits 4 c.toNat ++ next :: rest) =
      some (.ok (.scalar c, next :: rest)) := by
  have taken : takeUnicode (Text.hexDigits 4 c.toNat ++ next :: rest) =
      .ok (.scalar c, next :: rest) := by
    rw [takeUnicode, takeFour?_control control]
    simp only [show ¬ (0xD800 ≤ c.toNat ∧ c.toNat ≤ 0xDBFF) by omega, ↓reduceIte,
      CodePoint.ofNat_char]
  rw [List.cons_append, takeEscape, if_pos rfl, taken]

/-- A character is written with a letter, with four digits, or as it is. -/
private theorem escapeChar_cases (c : Char) :
    (∃ letter, letter ≠ 'u' ∧ simpleEscape? letter = some c ∧ escapeChar c = ['\\', letter]) ∨
    (c.toNat < 0x20 ∧ escapeChar c = '\\' :: 'u' :: Text.hexDigits 4 c.toNat) ∨
    (c ≠ '"' ∧ c ≠ '\\' ∧ ¬ c.toNat < 0x20 ∧ escapeChar c = [c]) := by
  by_cases quote : c = '"'
  · subst quote
    exact .inl ⟨'"', by decide, rfl, rfl⟩
  by_cases backslash : c = '\\'
  · subst backslash
    exact .inl ⟨'\\', by decide, rfl, rfl⟩
  by_cases newline : c = '\n'
  · subst newline
    exact .inl ⟨'n', by decide, rfl, rfl⟩
  by_cases carriage : c = '\r'
  · subst carriage
    exact .inl ⟨'r', by decide, rfl, rfl⟩
  by_cases tab : c = '\t'
  · subst tab
    exact .inl ⟨'t', by decide, rfl, rfl⟩
  by_cases backspace : c = '\x08'
  · subst backspace
    exact .inl ⟨'b', by decide, rfl, rfl⟩
  by_cases formFeed : c = '\x0c'
  · subst formFeed
    exact .inl ⟨'f', by decide, rfl, rfl⟩
  rw [escapeChar, if_neg quote, if_neg backslash, if_neg newline, if_neg carriage, if_neg tab,
    if_neg backspace, if_neg formFeed]
  by_cases control : c.toNat < 0x20
  · exact .inr (.inl ⟨control, if_pos control⟩)
  · exact .inr (.inr ⟨quote, backslash, control, if_neg control⟩)

/-- The four digits of a control need something behind them, which the closing quote is. -/
private theorem takeString_escapeChar (start : List Char) (read : List CodePoint) (c next : Char)
    (rest : List Char) :
    takeString start read (escapeChar c ++ next :: rest) =
      takeString start (.scalar c :: read) (next :: rest) := by
  rcases escapeChar_cases c with ⟨letter, notU, simple, written⟩ | ⟨control, written⟩ |
    ⟨notQuote, notBackslash, notControl, written⟩
  · rw [written]
    apply takeString_escape
    show takeEscape (letter :: next :: rest) = _
    rw [takeEscape, if_neg notU, simple]
  · rw [written]
    exact takeString_escape (takeEscape_control control rest)
  · rw [written, List.singleton_append, takeString, if_neg notQuote, if_neg notBackslash,
      if_neg notControl]

private theorem takeString_escaped (start : List Char) (read : List CodePoint)
    (text rest : List Char) :
    takeString start read (text.flatMap escapeChar ++ '"' :: rest) =
      .ok (read.reverse ++ text.map .scalar, rest) := by
  induction text generalizing read with
  | nil =>
      rw [List.flatMap_nil, List.nil_append, takeString, if_pos rfl, List.map_nil,
        List.append_nil]
  | cons c text ih =>
      rw [List.flatMap_cons, List.append_assoc]
      obtain ⟨next, more, behind⟩ := List.exists_cons_of_ne_nil
        (show text.flatMap escapeChar ++ '"' :: rest ≠ [] by simp)
      rw [behind, takeString_escapeChar, ← behind, ih, List.reverse_cons, List.append_assoc]
      rfl

/-- What stands behind the opening quote of a string that was printed. -/
def quotedTail (text : String) : List Char :=
  text.toList.flatMap escapeChar ++ ['"']

theorem chars_escape (text : List Char) :
    CodePoint.chars ((text.map .scalar).flatMap escape) = text.flatMap escapeChar := by
  induction text with
  | nil => rfl
  | cons c text ih =>
      rw [List.map_cons, List.flatMap_cons, CodePoint.chars_append, escape,
        CodePoint.chars_map_scalar, ih, List.flatMap_cons]

theorem chars_printString (text : String) :
    CodePoint.chars (printString text) = '"' :: quotedTail text := by
  rw [printString, Text.toList_plain, List.cons_append, CodePoint.chars_scalar,
    CodePoint.chars_append, chars_escape]
  rfl

theorem takeToken_printString (text : String) (rest : List Char) :
    takeToken '"' (quotedTail text ++ rest) = (.string text, rest) := by
  have taken := takeString_escaped ('"' :: (quotedTail text ++ rest)) [] text.toList rest
  rw [quotedTail, List.append_assoc] at *
  simp only [takeToken, Char.reduceEq, ↓reduceIte]
  rw [List.singleton_append] at *
  rw [taken]
  simp [Text.ofList_map_scalar]

/-! ## Numbers -/

/-- Text that does not go on with a number in front of it. -/
def EndsNumber (rest : List Char) : Prop :=
  ∀ c ∈ rest.head?, c.isDigit = false ∧ c ≠ '.' ∧ c ≠ 'e' ∧ c ≠ 'E'

theorem EndsNumber.nil : EndsNumber [] := by
  intro c member
  simp at member

theorem EndsNumber.cons {c : Char} {rest : List Char}
    (h : c.isDigit = false ∧ c ≠ '.' ∧ c ≠ 'e' ∧ c ≠ 'E') : EndsNumber (c :: rest) := by
  intro d member
  obtain rfl : c = d := by simpa using member
  exact h

private theorem takeDigits_of_ends {rest : List Char} (ends : EndsNumber rest) :
    takeDigits rest = ([], rest) := by
  cases rest with
  | nil => rfl
  | cons c rest =>
      obtain ⟨notDigit, _⟩ := ends c rfl
      have none : Text.asciiDigit? c = none := by
        apply if_neg
        intro digit
        have : c.isDigit = true := by
          simp only [Char.isDigit, Bool.and_eq_true, decide_eq_true_eq]
          exact digit
        rw [notDigit] at this
        exact absurd this (by decide)
      rw [takeDigits, none]

private theorem takeDigits_append {digits rest : List Char}
    (all : ∀ c ∈ digits, c.isDigit = true) (ends : EndsNumber rest) :
    takeDigits (digits ++ rest) = (digits.map (fun c => c.toNat - '0'.toNat), rest) := by
  induction digits with
  | nil => exact takeDigits_of_ends ends
  | cons c digits ih =>
      have digit := Text.asciiDigit?_of_isDigit (all c (List.mem_cons_self ..))
      rw [List.cons_append, takeDigits, digit,
        ih (fun d member => all d (List.mem_cons_of_mem c member))]
      rfl

private theorem takeFraction?_of_ends {rest : List Char} (ends : EndsNumber rest) :
    takeFraction? rest = none := by
  unfold takeFraction?
  split
  · exact absurd rfl (ends '.' rfl).2.1
  · rfl

private theorem takeExponent?_of_ends {rest : List Char} (ends : EndsNumber rest) :
    takeExponent? rest = none := by
  unfold takeExponent?
  split
  · next c tail =>
    obtain ⟨_, _, notSmall, notLarge⟩ := ends c rfl
    rw [if_neg (by simp [notSmall, notLarge])]
  · rfl

private theorem takeWhole?_toDigits (n : Nat) {rest : List Char} (ends : EndsNumber rest) :
    takeWhole? (Nat.toDigits 10 n ++ rest) = some (Text.decimalDigits n, rest) := by
  obtain ⟨c, more, digits, digit⟩ := Text.toDigits_eq_cons n
  have all : ∀ d ∈ c :: more, d.isDigit = true :=
    fun d member => Text.isDigit_of_mem_toDigits (digits ▸ member)
  rw [digits, List.cons_append, takeWhole?]
  by_cases zero : c = '0'
  · subst zero
    -- A number that begins with a zero is zero, for all others begin with another digit.
    rcases Nat.eq_zero_or_pos n with rfl | positive
    · obtain rfl : [] = more := by simpa [Nat.toDigits_zero] using digits
      rfl
    · exact absurd (by rw [digits]; rfl) (Text.head?_toDigits positive)
  · rw [if_neg zero, Text.asciiDigit?_of_isDigit digit, Option.isSome_some, if_pos rfl,
      ← List.cons_append, takeDigits_append all ends, Text.decimalDigits, digits]

private theorem takeNumber?_toDigits (negative : Bool) (n : Nat) {rest : List Char}
    (ends : EndsNumber rest) :
    takeNumber? negative (Nat.toDigits 10 n ++ rest) =
      some (.integer negative (Text.decimalDigits n), rest) := by
  rw [takeNumber?, takeWhole?_toDigits n ends]
  simp only [takeFraction?_of_ends ends, takeExponent?_of_ends ends, Option.getD_none,
    Option.isSome_none, Bool.or_self, Bool.false_eq_true, ↓reduceIte]

private theorem takeWord?_digit {c : Char} (digit : c.isDigit = true) (rest : List Char) :
    takeWord? (c :: rest) words = none := by
  have other : ∀ d : Char, d.isDigit = false → d ≠ c :=
    fun d notDigit => (Text.ne_of_isDigit digit notDigit).symm
  simp only [words, takeWord?, dropWord?, other 'n' (by decide), other 't' (by decide),
    other 'f' (by decide), other 'N' (by decide), other 'I' (by decide), other '-' (by decide),
    ↓reduceIte]

private theorem takeWord?_minus {c : Char} (digit : c.isDigit = true) (rest : List Char) :
    takeWord? ('-' :: c :: rest) words = none := by
  have other : 'I' ≠ c := (Text.ne_of_isDigit digit (by decide)).symm
  simp only [words, takeWord?, dropWord?, other, Char.reduceEq, ↓reduceIte]

private theorem takeAtom_toDigits (n : Nat) {rest : List Char} (ends : EndsNumber rest) :
    takeAtom (Nat.toDigits 10 n ++ rest) = (.integer false (Text.decimalDigits n), rest) := by
  have number := takeNumber?_toDigits false n ends
  obtain ⟨c, more, digits, digit⟩ := Text.toDigits_eq_cons n
  rw [digits, List.cons_append] at number ⊢
  have signed : takeSigned? (c :: (more ++ rest)) = takeNumber? false (c :: (more ++ rest)) := by
    unfold takeSigned?
    split
    · next same => exact absurd (List.cons.inj same).1 (Text.ne_of_isDigit digit (by decide))
    · rfl
  rw [takeAtom, takeWord?_digit digit, signed, number]

private theorem takeAtom_minus (n : Nat) {rest : List Char} (ends : EndsNumber rest) :
    takeAtom ('-' :: (Nat.toDigits 10 n ++ rest)) =
      (.integer true (Text.decimalDigits n), rest) := by
  have number := takeNumber?_toDigits true n ends
  obtain ⟨c, more, digits, digit⟩ := Text.toDigits_eq_cons n
  rw [digits, List.cons_append] at number ⊢
  rw [takeAtom, takeWord?_minus digit, takeSigned?, number]

/-! ## First tokens -/

theorem tokens_cons {c : Char} (rest : List Char) (visible : isSpace c = false) :
    tokens (c :: rest) =
      ⟨(takeToken c rest).1, c :: rest⟩ :: tokens (takeToken c rest).2 := by
  have kept : (c :: rest).dropWhile isSpace = c :: rest := by
    rw [List.dropWhile_cons, visible]
    rfl
  rw [tokens]
  split
  · next h => simp [kept] at h
  · next h =>
    rw [kept] at h
    obtain ⟨rfl, rfl⟩ := List.cons.inj h
    rfl

/-- A text from which a token is cut off, with the text behind it. -/
def BeginsWith (text : List Char) (token : Token) (rest : List Char) : Prop :=
  tokens text = ⟨token, text⟩ :: tokens rest

private theorem beginsWith_of_takeToken {c : Char} {tail rest : List Char} {token : Token}
    (visible : isSpace c = false) (taken : takeToken c tail = (token, rest)) :
    BeginsWith (c :: tail) token rest := by
  rw [BeginsWith, tokens_cons tail visible, taken]

section Marks

variable (rest : List Char)

theorem begins_leftBrace : BeginsWith ('\x7b' :: rest) .leftBrace rest :=
  beginsWith_of_takeToken rfl rfl

theorem begins_rightBrace : BeginsWith ('\x7d' :: rest) .rightBrace rest :=
  beginsWith_of_takeToken rfl rfl

theorem begins_leftBracket : BeginsWith ('[' :: rest) .leftBracket rest :=
  beginsWith_of_takeToken rfl rfl

theorem begins_rightBracket : BeginsWith (']' :: rest) .rightBracket rest :=
  beginsWith_of_takeToken rfl rfl

theorem begins_comma : BeginsWith (',' :: rest) .comma rest :=
  beginsWith_of_takeToken rfl rfl

theorem begins_colon : BeginsWith (':' :: rest) .colon rest :=
  beginsWith_of_takeToken rfl rfl

theorem begins_null : BeginsWith (CodePoint.chars (print .null) ++ rest) (.constant .null) rest :=
  beginsWith_of_takeToken rfl rfl

theorem begins_bool (value : Bool) :
    BeginsWith (CodePoint.chars (print (.bool value)) ++ rest) (.constant (.bool value)) rest := by
  cases value <;> exact beginsWith_of_takeToken rfl rfl

theorem begins_string (text : String) :
    BeginsWith (CodePoint.chars (printString text) ++ rest) (.string text) rest := by
  rw [chars_printString]
  exact beginsWith_of_takeToken rfl (takeToken_printString text rest)

end Marks

private theorem takeToken_atom {c : Char} (atom : c.isDigit = true ∨ c = '-')
    (rest : List Char) : takeToken c rest = takeAtom (c :: rest) := by
  have other : ∀ d : Char, d.isDigit = false → d ≠ '-' → c ≠ d := by
    rintro d notDigit notMinus
    rcases atom with digit | rfl
    · exact Text.ne_of_isDigit digit notDigit
    · exact notMinus.symm
  simp only [takeToken, other '\x7b' (by decide) (by decide), other '\x7d' (by decide) (by decide),
    other '[' (by decide) (by decide), other ']' (by decide) (by decide),
    other ',' (by decide) (by decide), other ':' (by decide) (by decide),
    other '"' (by decide) (by decide), ↓reduceIte]

private theorem isSpace_atom {c : Char} (atom : c.isDigit = true ∨ c = '-') :
    isSpace c = false := by
  rcases atom with digit | rfl
  · have other : ∀ d : Char, d.isDigit = false → (c == d) = false :=
      fun d notDigit => beq_eq_false_iff_ne.mpr (Text.ne_of_isDigit digit notDigit)
    simp only [isSpace, other ' ' (by decide), other '\t' (by decide), other '\n' (by decide),
      other '\r' (by decide), Bool.or_self]
  · rfl

private theorem begins_atom {c : Char} {tail rest : List Char} {token : Token}
    (atom : c.isDigit = true ∨ c = '-') (taken : takeAtom (c :: tail) = (token, rest)) :
    BeginsWith (c :: tail) token rest :=
  beginsWith_of_takeToken (isSpace_atom atom) (by rw [takeToken_atom atom, taken])

private theorem chars_spell (text : String) : CodePoint.chars (spell text) = text.toList :=
  CodePoint.chars_map_scalar text.toList

private theorem chars_int_natCast (n : Nat) :
    CodePoint.chars (print (.int n)) = Nat.toDigits 10 n :=
  (chars_spell _).trans Nat.toList_repr

private theorem chars_int_negSucc (n : Nat) :
    CodePoint.chars (print (.int (.negSucc n))) = '-' :: Nat.toDigits 10 (n + 1) := by
  refine (chars_spell _).trans ?_
  show ("-" ++ (n + 1).repr).toList = _
  rw [String.toList_append, Nat.toList_repr]
  rfl

theorem begins_int (value : Int) {rest : List Char} (ends : EndsNumber rest) :
    BeginsWith (CodePoint.chars (print (.int value)) ++ rest)
      (.integer (value < 0) (Text.decimalDigits value.natAbs)) rest := by
  cases value with
  | ofNat n =>
      have taken := takeAtom_toDigits n ends
      obtain ⟨c, more, digits, digit⟩ := Text.toDigits_eq_cons n
      rw [digits] at taken
      have positive : decide ((n : Int) < 0) = false := by simp
      rw [Int.ofNat_eq_natCast, chars_int_natCast, digits, positive]
      exact begins_atom (.inl digit) taken
  | negSucc n =>
      have negative : decide (Int.negSucc n < 0) = true := decide_eq_true (Int.negSucc_lt_zero n)
      rw [chars_int_negSucc, negative]
      exact begins_atom (.inr rfl) (takeAtom_minus (n + 1) ends)

end LanguageClient.Json
