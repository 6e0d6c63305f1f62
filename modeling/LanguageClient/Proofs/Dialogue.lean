import Mathlib.Data.List.Induction

/-! # Histories

Calls are made one after another, and each gives a reply. What has been asked and answered is a
history, and many states are known by it alone: something has begun at some entry, and no entry
behind that one has ended it.
-/

namespace LanguageClient

variable {σ ι ο α : Type}

/-- What some calls came to: each with its reply, in order, and the state that they leave. -/
structure Dialogue (σ ι ο : Type) where
  entries : List (ι × ο)
  state : σ

namespace Dialogue

variable {answer : σ → ι → ο × σ} {start : σ}

/-- One call more. -/
def next (answer : σ → ι → ο × σ) (dialogue : Dialogue σ ι ο) (call : ι) : Dialogue σ ι ο :=
  ⟨dialogue.entries ++ [(call, (answer dialogue.state call).1)], (answer dialogue.state call).2⟩

/-- The calls in order, each answered in the state that those before it leave. -/
def of (answer : σ → ι → ο × σ) (start : σ) (calls : List ι) : Dialogue σ ι ο :=
  calls.foldl (next answer) ⟨[], start⟩

/-- What holds at the start and is kept by each call holds behind any calls. -/
theorem induction {motive : List (ι × ο) → σ → Prop} (fresh : motive [] start)
    (step : ∀ {entries : List (ι × ο)} {state : σ} (call : ι), motive entries state →
      motive (entries ++ [(call, (answer state call).1)]) (answer state call).2)
    (calls : List ι) :
    motive (of answer start calls).entries (of answer start calls).state := by
  induction calls using List.reverseRecOn with
  | nil => exact fresh
  | append_singleton calls call ih =>
      simp only [of, List.foldl_append, List.foldl_cons, List.foldl_nil]
      exact step call ih

end Dialogue

theorem filterMap_snoc {β : Type} (read : α → Option β) (entries : List α) (last : α) :
    (entries ++ [last]).filterMap read = entries.filterMap read ++ (read last).toList := by
  rw [List.filterMap_append, List.filterMap_cons]
  cases read last <;> rfl

/-- What stands anywhere in a list with one more at its end is that last one, or stands in front
    of it. -/
theorem eq_or_of_snoc_eq {entries front later : List α} {last first : α}
    (split : entries ++ [last] = front ++ first :: later) :
    (front = entries ∧ first = last ∧ later = []) ∨
      ∃ rest, later = rest ++ [last] ∧ entries = front ++ first :: rest := by
  rcases List.eq_nil_or_concat later with rfl | ⟨rest, final, rfl⟩
  · obtain ⟨rfl, same⟩ := List.append_inj' split rfl
    exact .inl ⟨rfl, (List.singleton_inj.mp same).symm, rfl⟩
  · rw [List.concat_eq_append, ← List.cons_append, ← List.append_assoc] at split
    obtain ⟨rfl, same⟩ := List.append_inj' split rfl
    exact .inr ⟨rest, by rw [List.concat_eq_append, same], rfl⟩

/-- Something has begun at an entry and has not ended behind it. Whether an entry begins or ends
    it may depend on the entries in front. -/
def Since (begins ends : List α → α → Prop) (entries : List α) : Prop :=
  ∃ front first later, entries = front ++ first :: later ∧ begins front first ∧
    ∀ between entry behind, later = between ++ entry :: behind →
      ¬ends (front ++ first :: between) entry

namespace Since

variable {begins ends : List α → α → Prop} {entries : List α} {last : α}

theorem not_nil : ¬Since begins ends [] := by
  rintro ⟨front, first, later, split, _⟩
  simp at split

/-- The last entry begins it, or it has begun before and the last entry does not end it. -/
theorem snoc_iff : Since begins ends (entries ++ [last]) ↔
    begins entries last ∨ (¬ends entries last ∧ Since begins ends entries) := by
  constructor
  · rintro ⟨front, first, later, split, begun, lasting⟩
    obtain ⟨rfl, rfl, rfl⟩ | ⟨rest, rfl, rfl⟩ := eq_or_of_snoc_eq split
    · exact .inl begun
    · refine .inr ⟨lasting rest last [] rfl, front, first, rest, rfl, begun, ?_⟩
      intro between entry behind part
      exact lasting between entry (behind ++ [last]) (by simp [part])
  · rintro (begun | ⟨kept, front, first, rest, rfl, begun, lasting⟩)
    · exact ⟨entries, last, [], rfl, begun, by simp⟩
    · refine ⟨front, first, rest ++ [last], by simp, begun, ?_⟩
      intro between entry behind part
      obtain ⟨rfl, rfl, rfl⟩ | ⟨behind, rfl, same⟩ := eq_or_of_snoc_eq part
      · exact kept
      · exact lasting between entry behind same

end Since

end LanguageClient
