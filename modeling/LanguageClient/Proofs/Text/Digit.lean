import LanguageClient.Text.Integer

/-! # Numbers as their digits

A number that is written in decimal is read back from its digits: they are digits all, the
first is a zero only where it stands alone, and their value is the number.
-/

namespace LanguageClient.Text

def decimalDigits (n : Nat) : List Nat :=
  (Nat.toDigits 10 n).map (fun c => c.toNat - '0'.toNat)

@[simp]
theorem length_decimalDigits (n : Nat) : (decimalDigits n).length = (Nat.toDigits 10 n).length :=
  List.length_map _

private theorem foldl_digits (text : List Char) (value : Nat) :
    (text.map (fun c => c.toNat - '0'.toNat)).foldl (fun value digit => value * 10 + digit) value =
      Nat.ofDigitChars 10 text value := by
  induction text generalizing value with
  | nil => rfl
  | cons c text ih => rw [List.map_cons, List.foldl_cons, ih, Nat.ofDigitChars_cons, Nat.mul_comm]

theorem digitsValue_decimalDigits (n : Nat) : digitsValue (decimalDigits n) = n := by
  rw [digitsValue, decimalDigits, foldl_digits, Nat.ofDigitChars_ten_toDigits]

theorem isDigit_of_mem_toDigits {n : Nat} {c : Char} (member : c ∈ Nat.toDigits 10 n) :
    c.isDigit = true :=
  Nat.isDigit_of_mem_toDigits (by decide) (by decide) member

theorem toDigits_eq_cons (n : Nat) :
    ∃ c rest, Nat.toDigits 10 n = c :: rest ∧ c.isDigit = true := by
  obtain ⟨c, rest, digits⟩ := List.exists_cons_of_ne_nil (@Nat.toDigits_ne_nil n 10)
  exact ⟨c, rest, digits, isDigit_of_mem_toDigits (by rw [digits]; exact List.mem_cons_self ..)⟩

theorem ne_of_isDigit {c d : Char} (digit : c.isDigit = true) (other : d.isDigit = false) :
    c ≠ d := by
  rintro rfl
  rw [digit] at other
  exact absurd other (by decide)

theorem head?_toDigits {n : Nat} (positive : 0 < n) : (Nat.toDigits 10 n).head? ≠ some '0' := by
  induction n using Nat.strongRecOn with
  | _ n ih =>
      by_cases small : n < 10
      · rw [Nat.toDigits_of_lt_base small]
        intro zero
        have value : n.digitChar.toNat = '0'.toNat :=
          congrArg Char.toNat (Option.some.inj zero)
        rw [Nat.toNat_digitChar_of_lt_ten small] at value
        exact absurd value (by simp; omega)
      · have front := ih (n / 10) (by omega) (by omega)
        rw [Nat.toDigits_of_base_le (by decide) (by omega)]
        obtain ⟨c, rest, digits, _⟩ := toDigits_eq_cons (n / 10)
        rw [digits] at front ⊢
        exact front

theorem asciiDigit?_of_isDigit {c : Char} (digit : c.isDigit = true) :
    asciiDigit? c = some (c.toNat - '0'.toNat) := by
  simp only [Char.isDigit, Bool.and_eq_true, decide_eq_true_eq] at digit
  exact if_pos digit

end LanguageClient.Text
