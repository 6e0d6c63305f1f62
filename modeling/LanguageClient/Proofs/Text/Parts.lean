import LanguageClient.Text.Lines
import Mathlib.Data.List.Basic

/-! # Text in parts

Text is cut at every place where a mark stands. The mark is in none of the parts, they have no
character that the text does not have, and parts that were joined with the mark come back.
-/

namespace LanguageClient.Text

variable {mark : CodePoint}

theorem not_mem_of_splitChars {text part : List CodePoint} (member : part ∈ splitChars mark text) :
    mark ∉ part := by
  induction text generalizing part with
  | nil =>
      rw [splitChars, List.mem_singleton] at member
      rw [member]
      exact List.not_mem_nil
  | cons c rest ih =>
      unfold splitChars at member
      split at member
      · rcases List.mem_cons.mp member with rfl | member
        · exact List.not_mem_nil
        · exact ih member
      · next other =>
        split at member
        · rw [List.mem_singleton] at member
          rw [member, List.mem_singleton]
          exact Ne.symm other
        · next first more parts =>
          rcases List.mem_cons.mp member with rfl | member
          · rw [List.mem_cons, not_or]
            exact ⟨Ne.symm other, ih (parts ▸ List.mem_cons_self)⟩
          · exact ih (parts ▸ List.mem_cons_of_mem _ member)

theorem mem_of_mem_splitChars {text part : List CodePoint} (member : part ∈ splitChars mark text)
    {c : CodePoint} (inside : c ∈ part) : c ∈ text := by
  induction text generalizing part with
  | nil =>
      rw [splitChars, List.mem_singleton] at member
      rwa [member] at inside
  | cons first rest ih =>
      unfold splitChars at member
      split at member
      · rcases List.mem_cons.mp member with rfl | member
        · cases inside
        · exact List.mem_cons_of_mem _ (ih member inside)
      · split at member
        · rw [List.mem_singleton] at member
          rw [member, List.mem_singleton] at inside
          exact inside ▸ List.mem_cons_self
        · next _ begun more parts =>
          rcases List.mem_cons.mp member with rfl | member
          · rcases List.mem_cons.mp inside with rfl | inside
            · exact List.mem_cons_self
            · exact List.mem_cons_of_mem _ (ih (parts ▸ List.mem_cons_self) inside)
          · exact List.mem_cons_of_mem _ (ih (parts ▸ List.mem_cons_of_mem _ member) inside)

theorem mem_of_mem_intercalate {parts : List (List CodePoint)} {c : CodePoint}
    (member : c ∈ [mark].intercalate parts) : c = mark ∨ ∃ part ∈ parts, c ∈ part := by
  induction parts with
  | nil => cases member
  | cons part rest ih =>
      cases rest with
      | nil =>
          rw [List.intercalate_singleton] at member
          exact .inr ⟨part, List.mem_cons_self, member⟩
      | cons next rest =>
          rw [List.intercalate_cons_cons, List.mem_append, List.mem_append,
            List.mem_singleton] at member
          rcases member with (inside | isMark) | later
          · exact .inr ⟨part, List.mem_cons_self, inside⟩
          · exact .inl isMark
          · rcases ih later with isMark | ⟨other, member, inside⟩
            · exact .inl isMark
            · exact .inr ⟨other, List.mem_cons_of_mem _ member, inside⟩

theorem splitChars_of_not_mem {text : List CodePoint} (clean : mark ∉ text) :
    splitChars mark text = [text] := by
  induction text with
  | nil => rfl
  | cons c rest ih =>
      rw [List.mem_cons, not_or] at clean
      rw [splitChars, if_neg (Ne.symm clean.1), ih clean.2]

theorem splitChars_append {text : List CodePoint} (clean : mark ∉ text) (rest : List CodePoint) :
    splitChars mark (text ++ mark :: rest) = text :: splitChars mark rest := by
  induction text with
  | nil => rw [List.nil_append, splitChars, if_pos rfl]
  | cons c text ih =>
      rw [List.mem_cons, not_or] at clean
      rw [List.cons_append, splitChars, if_neg (Ne.symm clean.1), ih clean.2]

/-- Parts that were joined come back, where the mark is in none of them. -/
theorem splitChars_intercalate {parts : List (List CodePoint)} (some : parts ≠ [])
    (clean : ∀ part ∈ parts, mark ∉ part) : splitChars mark ([mark].intercalate parts) = parts := by
  induction parts with
  | nil => exact absurd rfl some
  | cons part rest ih =>
      obtain ⟨first, later⟩ := List.forall_mem_cons.mp clean
      cases rest with
      | nil => rw [List.intercalate_singleton, splitChars_of_not_mem first]
      | cons next rest =>
          rw [List.intercalate_cons_cons, List.append_assoc, List.singleton_append,
            splitChars_append first, ih (List.cons_ne_nil next rest) later]

end LanguageClient.Text
