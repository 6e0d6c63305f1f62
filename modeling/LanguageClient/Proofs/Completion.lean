import LanguageClient.Completion
import LanguageClient.Proofs.Text.Parts
import Mathlib.Data.List.DropRight

/-! # The word to the left of a place

What is proposed at a place goes on from the word that ends there: the longest run of word
characters that ends exactly at the column. It is cut off neither at its beginning nor at its
end, and at a place that lies outside the text there is none.
-/

namespace LanguageClient

namespace Text

/-- Some lines are those of a text: there is a line feed between every two of them and nowhere
    else. -/
structure AreLines (text : Text) (lines : List (List CodePoint)) : Prop where
  some : lines ≠ []
  clean : ∀ line ∈ lines, CodePoint.scalar '\n' ∉ line
  joined : [CodePoint.scalar '\n'].intercalate lines = text.toList

/-- A text has no other lines than those. -/
theorem AreLines.eq_splitChars {text : Text} {lines : List (List CodePoint)}
    (areLines : AreLines text lines) : splitChars '\n' text.toList = lines := by
  rw [← areLines.joined]
  exact splitChars_intercalate areLines.some areLines.clean

end Text

namespace Completion

open Text

/-- The characters to the left of a place: of a line that there is, at least one and at most all
    of them. -/
inductive LeftOf (lines : List (List CodePoint)) (line col : Int) : List CodePoint → Prop where
  | place {chars : List CodePoint} (notAbove : 0 ≤ line) (isLine : lines[line.toNat]? = some chars)
      (behind : 0 < col) (notBeyond : col ≤ chars.length) :
      LeftOf lines line col (chars.take col.toNat)

/-- A word ends where some characters end, and it is the longest one that does. -/
structure IsLastWord (word before : List CodePoint) : Prop where
  ends : word <:+ before
  isWord : ∀ c ∈ word, isWordChar c = true
  longest : ∀ other, other <:+ before → (∀ c ∈ other, isWordChar c = true) → other <:+ word
  /-- What stands in front of it is no part of a word. -/
  stops : ∀ front c, before = front ++ c :: word → isWordChar c = false

theorem wordBefore_eq (before : List CodePoint) :
    wordBefore before = before.rtakeWhile isWordChar :=
  rfl

theorem suffix_wordBefore {before other : List CodePoint} (ends : other <:+ before)
    (isWord : ∀ c ∈ other, isWordChar c = true) : other <:+ wordBefore before := by
  obtain ⟨front, rfl⟩ := ends
  have isWord' : ∀ c ∈ other.reverse, isWordChar c = true :=
    fun c member => isWord c (List.mem_reverse.mp member)
  rw [wordBefore, List.reverse_append, List.takeWhile_append_of_pos isWord', List.reverse_append,
    List.reverse_reverse]
  exact List.suffix_append ..

theorem isLastWord_wordBefore (before : List CodePoint) :
    IsLastWord (wordBefore before) before where
  ends := wordBefore_eq before ▸ List.rtakeWhile_suffix isWordChar before
  isWord _ member := List.mem_rtakeWhile_imp (wordBefore_eq before ▸ member)
  longest _ := suffix_wordBefore
  stops front c whole := by
    cases part : isWordChar c with
    | false => rfl
    | true =>
        have longer : c :: wordBefore before <:+ wordBefore before := by
          refine suffix_wordBefore ⟨front, whole.symm⟩ ?_
          intro other member
          rcases List.mem_cons.mp member with rfl | member
          · exact part
          · exact List.mem_rtakeWhile_imp (wordBefore_eq before ▸ member)
        have tooLong := longer.length_le
        rw [List.length_cons] at tooLong
        omega

theorem typedAt_of_leftOf {text : Text} {lines : List (List CodePoint)} {line col : Int}
    {before : List CodePoint} (areLines : AreLines text lines)
    (leftOf : LeftOf lines line col before) :
    typedAt text line col = Text.ofList (wordBefore before) := by
  obtain ⟨notAbove, isLine, behind, notBeyond⟩ := leftOf
  unfold typedAt
  rw [if_neg (by omega), areLines.eq_splitChars, isLine]
  exact if_neg (by omega)

theorem typedAt_of_outside {text : Text} {lines : List (List CodePoint)} {line col : Int}
    (areLines : AreLines text lines) (outside : ∀ before, ¬LeftOf lines line col before) :
    typedAt text line col = "" := by
  unfold typedAt
  rw [areLines.eq_splitChars]
  split
  · rfl
  · next notAbove =>
    cases isLine : lines[line.toNat]? with
    | none => rfl
    | some chars =>
        refine if_pos ?_
        by_contra within
        exact outside _ (.place (by omega) isLine (by omega) (by omega))

/-- At a place in a text the word to its left is the longest that ends there, and at any other
    there is none. -/
theorem typedAt_isLastWord {text : Text} {lines : List (List CodePoint)}
    (areLines : AreLines text lines) (line col : Int) :
    (∀ before, LeftOf lines line col before →
      IsLastWord (typedAt text line col).toList before) ∧
    ((∀ before, ¬LeftOf lines line col before) → typedAt text line col = "") := by
  constructor
  · intro before leftOf
    rw [typedAt_of_leftOf areLines leftOf, Text.toList_ofList]
    exact isLastWord_wordBefore before
  · exact typedAt_of_outside areLines

/-- Inside a word the column cuts it off, and in an empty line there is none. -/
theorem typedAt_insideWord :
    typedAt "x\n(grüß_gott\n" 1 5 = "grüß" ∧ typedAt "x\n(grüß_gott\n" 2 0 = "" := by
  have areLines : AreLines "x\n(grüß_gott\n"
      [("x" : Text).toList, ("(grüß_gott" : Text).toList, []] :=
    ⟨by simp, by decide, by decide⟩
  constructor
  · have leftOf : LeftOf [("x" : Text).toList, ("(grüß_gott" : Text).toList, []] 1 5
        ("(grüß" : Text).toList :=
      @LeftOf.place _ 1 5 ("(grüß_gott" : Text).toList (by decide) rfl (by decide) (by decide)
    have word := (typedAt_isLastWord areLines 1 5).1 _ leftOf
    have letters : ("grüß" : Text).toList.all isWordChar = true := by decide
    have atLeast := word.longest ("grüß" : Text).toList (by decide) (List.all_eq_true.mp letters)
    rcases List.suffix_cons_iff.mp word.ends with all | atMost
    · have bracket := word.isWord (.scalar '(') (all ▸ List.mem_cons_self)
      exact absurd bracket (by decide)
    · exact Text.toList_inj.mp (atMost.eq_of_length_le atLeast.length_le)
  · refine (typedAt_isLastWord areLines 2 0).2 ?_
    rintro _ ⟨_, _, behind, _⟩
    exact absurd behind (by decide)

end Completion

end LanguageClient
