import LanguageClient.Fault
import LanguageClient.Text.Utf8

/-! # Text through bytes

The bytes of a text read back as the text. Each of the four lengths of a character has a lead
byte that announces it, and the bytes behind hold the rest of the code point, six bits each.
-/

namespace LanguageClient.Text

private theorem toNat_byte {value : Nat} (small : value < 256) :
    (UInt8.ofNat value).toNat = value :=
  UInt8.toNat_ofNat_of_lt small

/-- A byte behind the first one that holds six bits of the code point. -/
private theorem takeFollowing_six {more code low high taken bits : Nat} (small : bits < 0x40)
    (above : low ≤ 0x80 + bits) (below : 0x80 + bits ≤ high) (rest : List UInt8) :
    takeFollowing (more + 1) code low high taken (UInt8.ofNat (0x80 + bits) :: rest) =
      takeFollowing more (code * 0x40 + bits) 0x80 0xBF (taken + 1) rest := by
  rw [takeFollowing, toNat_byte (by omega), if_pos ⟨above, below⟩, Nat.add_sub_cancel_left]

private theorem takeChar_of_lead {first following bits low high : Nat} {c : Char}
    {bytes rest : List UInt8}
    (announced : leadByte? (UInt8.ofNat first) = some ⟨following, bits, low, high⟩)
    (followed : takeFollowing following bits low high 1 bytes = .ok (c.toNat, rest)) :
    takeChar (UInt8.ofNat first) bytes = .ok (c, rest) := by
  simp only [takeChar, announced, followed, Char.ofNat_toNat]

section Lengths

variable {c : Char} (rest : List UInt8)

private theorem takeChar_one (below : c.toNat < 0x80) :
    takeChar (UInt8.ofNat c.toNat) rest = .ok (c, rest) := by
  have value := @toNat_byte c.toNat (by omega)
  have announced : leadByte? (UInt8.ofNat c.toNat) = some ⟨0, c.toNat, 0x80, 0xBF⟩ := by
    simp only [leadByte?, value, below, ↓reduceIte]
  exact takeChar_of_lead announced rfl

private theorem takeChar_two (above : 0x80 ≤ c.toNat) (below : c.toNat < 0x800) :
    takeChar (UInt8.ofNat (0xC0 + c.toNat / 0x40))
      (UInt8.ofNat (0x80 + c.toNat % 0x40) :: rest) = .ok (c, rest) := by
  have value := @toNat_byte (0xC0 + c.toNat / 0x40) (by omega)
  have announced : leadByte? (UInt8.ofNat (0xC0 + c.toNat / 0x40)) =
      some ⟨1, c.toNat / 0x40, 0x80, 0xBF⟩ := by
    simp only [leadByte?, value]
    rw [if_neg (by omega), if_neg (by omega), if_pos (by omega), Nat.add_sub_cancel_left]
  apply takeChar_of_lead announced
  rw [takeFollowing_six (by omega) (by omega) (by omega),
    show c.toNat / 0x40 * 0x40 + c.toNat % 0x40 = c.toNat by omega]
  rfl

/-- The range of the second byte leaves out overlong forms and surrogates. -/
private theorem takeChar_three (above : 0x800 ≤ c.toNat) (below : c.toNat < 0x10000)
    (scalar : c.toNat < 0xD800 ∨ 0xDFFF < c.toNat) :
    takeChar (UInt8.ofNat (0xE0 + c.toNat / 0x1000))
      (UInt8.ofNat (0x80 + c.toNat / 0x40 % 0x40) ::
        UInt8.ofNat (0x80 + c.toNat % 0x40) :: rest) = .ok (c, rest) := by
  have value := @toNat_byte (0xE0 + c.toNat / 0x1000) (by omega)
  have announced : leadByte? (UInt8.ofNat (0xE0 + c.toNat / 0x1000)) =
      some ⟨2, c.toNat / 0x1000, if 0xE0 + c.toNat / 0x1000 = 0xE0 then 0xA0 else 0x80,
        if 0xE0 + c.toNat / 0x1000 = 0xED then 0x9F else 0xBF⟩ := by
    simp only [leadByte?, value]
    rw [if_neg (by omega), if_neg (by omega), if_neg (by omega), if_pos (by omega),
      Nat.add_sub_cancel_left]
  apply takeChar_of_lead announced
  rw [takeFollowing_six (by omega) (by split <;> omega) (by split <;> omega),
    takeFollowing_six (by omega) (by omega) (by omega),
    show (c.toNat / 0x1000 * 0x40 + c.toNat / 0x40 % 0x40) * 0x40 + c.toNat % 0x40 = c.toNat by
      omega]
  rfl

private theorem takeChar_four (above : 0x10000 ≤ c.toNat) (below : c.toNat < 0x110000) :
    takeChar (UInt8.ofNat (0xF0 + c.toNat / 0x40000))
      (UInt8.ofNat (0x80 + c.toNat / 0x1000 % 0x40) ::
        UInt8.ofNat (0x80 + c.toNat / 0x40 % 0x40) ::
          UInt8.ofNat (0x80 + c.toNat % 0x40) :: rest) = .ok (c, rest) := by
  have value := @toNat_byte (0xF0 + c.toNat / 0x40000) (by omega)
  have announced : leadByte? (UInt8.ofNat (0xF0 + c.toNat / 0x40000)) =
      some ⟨3, c.toNat / 0x40000, if 0xF0 + c.toNat / 0x40000 = 0xF0 then 0x90 else 0x80,
        if 0xF0 + c.toNat / 0x40000 = 0xF4 then 0x8F else 0xBF⟩ := by
    simp only [leadByte?, value]
    rw [if_neg (by omega), if_neg (by omega), if_neg (by omega), if_neg (by omega),
      if_pos (by omega), Nat.add_sub_cancel_left]
  apply takeChar_of_lead announced
  rw [takeFollowing_six (by omega) (by split <;> omega) (by split <;> omega),
    takeFollowing_six (by omega) (by omega) (by omega),
    takeFollowing_six (by omega) (by omega) (by omega),
    show ((c.toNat / 0x40000 * 0x40 + c.toNat / 0x1000 % 0x40) * 0x40 +
      c.toNat / 0x40 % 0x40) * 0x40 + c.toNat % 0x40 = c.toNat by omega]
  rfl

end Lengths

theorem takeChar_encodeChar (c : Char) (rest : List UInt8) :
    ∃ byte behind, encodeChar c = byte :: behind ∧
      takeChar byte (behind ++ rest) = .ok (c, rest) := by
  have scalar : c.toNat < 0xD800 ∨ 0xDFFF < c.toNat ∧ c.toNat < 0x110000 := c.valid
  unfold encodeChar
  by_cases one : c.toNat < 0x80
  · exact ⟨_, _, if_pos one, takeChar_one rest one⟩
  rw [if_neg one]
  by_cases two : c.toNat < 0x800
  · exact ⟨_, _, if_pos two, takeChar_two rest (by omega) two⟩
  rw [if_neg two]
  by_cases three : c.toNat < 0x10000
  · exact ⟨_, _, if_pos three, takeChar_three rest (by omega) three (by omega)⟩
  · exact ⟨_, _, if_neg three, takeChar_four rest (by omega) (by omega)⟩

theorem decodeChars_encodeChars (text : List Char) : decodeChars (encodeChars text) = .ok text := by
  induction text with
  | nil =>
      rw [encodeChars, List.flatMap_nil, decodeChars]
  | cons c text ih =>
      obtain ⟨byte, behind, encoded, taken⟩ := takeChar_encodeChar c (encodeChars text)
      have cut : encodeChars (c :: text) = byte :: (behind ++ encodeChars text) := by
        rw [encodeChars, List.flatMap_cons, encoded]
        rfl
      rw [cut, decodeChars]
      split
      · next h => simp [taken] at h
      · next h =>
        rw [taken] at h
        simp only [Except.ok.injEq, Prod.mk.injEq] at h
        obtain ⟨rfl, rfl⟩ := h
        rw [ih]

/-- Text that was written is read back as it was. -/
theorem decodeUtf8_encodeChars (text : List Char) : decodeUtf8 (encodeChars text) = .ok text := by
  rw [decodeUtf8, decodeChars_encodeChars]

/-- Nothing is in the way of making bytes of text whose lonely halves all stand for bytes. -/
theorem unencodable?_eq_none {escapes : Fin 0x800 → Bool} {points : List CodePoint}
    (escaped : ∀ half, CodePoint.surrogate half ∈ points → escapes half = true) (place : Nat) :
    unencodable? escapes place points = none := by
  induction points generalizing place with
  | nil => rfl
  | cons point rest ih =>
      have later := ih fun half member => escaped half (List.mem_cons_of_mem _ member)
      cases point with
      | scalar c => exact later (place + 1)
      | surrogate half =>
          rw [unencodable?, if_pos (escaped half List.mem_cons_self)]
          exact later (place + 1)

/-- Half of a pair by itself, which is a text but no string. -/
def unpaired : Text :=
  .broken [.surrogate 0] rfl

end LanguageClient.Text
