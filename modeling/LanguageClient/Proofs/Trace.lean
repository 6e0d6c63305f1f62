import Mathlib.Data.List.Induction

/-! # Traces

What is seen of something that goes on in steps, and where it has come to by then. A trace can
be cut anywhere: what was seen at first is a trace by itself, and what was seen from then on is
one that starts where the first has come to.
-/

namespace LanguageClient

variable {σ α : Type}

/-- By steps that show as the list, one comes from the start to a state. -/
inductive Trace (step : σ → α → σ → Prop) (start : σ) : List α → σ → Prop where
  | nil : Trace step start [] start
  | snoc {seen : List α} {state next : σ} {shown : α} (before : Trace step start seen state)
      (last : step state shown next) : Trace step start (seen ++ [shown]) next

namespace Trace

variable {step : σ → α → σ → Prop} {start state : σ} {seen later : List α} {shown : α}

theorem of_snoc (trace : Trace step start (seen ++ [shown]) state) :
    ∃ previous, Trace step start seen previous ∧ step previous shown state := by
  generalize whole : seen ++ [shown] = all at trace
  cases trace with
  | nil => simp at whole
  | snoc before last =>
      obtain ⟨rfl, same⟩ := List.append_inj' whole rfl
      obtain rfl := List.singleton_inj.mp same
      exact ⟨_, before, last⟩

theorem of_append (trace : Trace step start (seen ++ later) state) :
    ∃ middle, Trace step start seen middle ∧ Trace step middle later state := by
  induction later using List.reverseRecOn generalizing state with
  | nil => exact ⟨state, List.append_nil seen ▸ trace, .nil⟩
  | append_singleton later shown ih =>
      rw [← List.append_assoc] at trace
      obtain ⟨previous, before, last⟩ := trace.of_snoc
      obtain ⟨middle, first, second⟩ := ih before
      exact ⟨middle, first, second.snoc last⟩

/-- Whatever shows in a trace is a step from where the trace had come to by then. -/
theorem of_split (trace : Trace step start (seen ++ shown :: later) state) :
    ∃ previous next, Trace step start seen previous ∧ step previous shown next ∧
      Trace step next later state := by
  rw [List.append_cons] at trace
  obtain ⟨next, reached, rest⟩ := trace.of_append
  obtain ⟨previous, before, last⟩ := reached.of_snoc
  exact ⟨previous, next, before, last, rest⟩

theorem of_cons (trace : Trace step start (shown :: later) state) :
    ∃ next, step start shown next ∧ Trace step next later state := by
  obtain ⟨previous, next, before, first, rest⟩ := @of_split _ _ _ _ _ [] _ _ trace
  generalize whole : ([] : List α) = none at before
  cases before with
  | nil => exact ⟨next, first, rest⟩
  | snoc before last => simp at whole

end Trace

end LanguageClient
