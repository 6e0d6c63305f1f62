import LanguageClient.Proofs.Document.Mirror
import LanguageClient.Proofs.Table
import Mathlib.Data.List.Induction

/-! # What a server can take

A server that could take all messages knew, for each one that changes, closes or asks about a
document, that the document was open. So it had been told of its opening; and once it knows a
document it goes on to know it until it is told of its closing.
-/

namespace LanguageClient

/-- The document that has to be open for this to be said. -/
def Telling.subject? : Telling → Option Text
  | .changes uri _ _ => some uri
  | .closes uri => some uri
  | .asks uri => some uri
  | _ => none

/-- Among the messages a document is opened. -/
def OpenedIn (messages : List Json) (uri : Text) : Prop :=
  ∃ message ∈ messages, ∃ copy, Telling.ofMessage? message = some (.opens uri copy)

namespace Mirror

variable {mirror next last : Mirror} {telling : Telling} {message : Json}
  {messages earlier later : List Json} {uri : Text}

/-- A server that is told of a change knows the document, and has another copy of it then. -/
theorem changed_of_tell? {version : Int} {text : Text}
    (told : mirror.tell? (.changes uri version text) = some next) :
    mirror.has uri = true ∧ ∃ copy, next = mirror.put uri copy := by
  cases known : Table.get? mirror uri with
  | none => simp [tell?, known] at told
  | some copy =>
      simp only [tell?, known] at told
      obtain ⟨_, same⟩ := Option.ite_none_right_eq_some.mp told
      exact ⟨Option.isSome_of_eq_some known, _, (Option.some.inj same).symm⟩

theorem has_of_subject (told : mirror.tell? telling = some next)
    (subject : telling.subject? = some uri) : mirror.has uri = true := by
  cases telling with
  | opens other copy => exact absurd subject nofun
  | nothing => exact absurd subject nofun
  | changes other version text =>
      obtain rfl := Option.some.inj subject
      exact (changed_of_tell? told).1
  | closes other =>
      obtain rfl := Option.some.inj subject
      exact (Option.ite_none_right_eq_some.mp told).1
  | asks other =>
      obtain rfl := Option.some.inj subject
      exact (Option.ite_none_right_eq_some.mp told).1

/-- What a server knows it knew before, unless it was told of it now. -/
theorem has_of_tell? (told : mirror.tell? telling = some next) (known : next.has uri = true) :
    mirror.has uri = true ∨ ∃ copy, telling = .opens uri copy := by
  cases telling with
  | nothing =>
      obtain rfl := Option.some.inj told
      exact .inl known
  | opens other copy =>
      obtain ⟨_, same⟩ := Option.ite_none_left_eq_some.mp told
      obtain rfl := Option.some.inj same
      rcases (Table.has_put copy).mp known with rfl | earlier
      · exact .inr ⟨copy, rfl⟩
      · exact .inl earlier
  | changes other version text =>
      obtain ⟨had, copy, rfl⟩ := changed_of_tell? told
      rcases (Table.has_put copy).mp known with rfl | earlier
      · exact .inl had
      · exact .inl earlier
  | closes other =>
      obtain ⟨_, same⟩ := Option.ite_none_right_eq_some.mp told
      obtain rfl := Option.some.inj same
      exact .inl (Table.has_remove.mp known).2
  | asks other =>
      obtain ⟨_, same⟩ := Option.ite_none_right_eq_some.mp told
      obtain rfl := Option.some.inj same
      exact .inl known

/-- What a server knows it goes on to know, unless it is told of the closing. -/
theorem has_tell? (told : mirror.tell? telling = some next) (known : mirror.has uri = true)
    (unclosed : telling ≠ .closes uri) : next.has uri = true := by
  cases telling with
  | nothing =>
      obtain rfl := Option.some.inj told
      exact known
  | opens other copy =>
      obtain ⟨_, same⟩ := Option.ite_none_left_eq_some.mp told
      obtain rfl := Option.some.inj same
      exact (Table.has_put copy).mpr (.inr known)
  | changes other version text =>
      obtain ⟨_, copy, rfl⟩ := changed_of_tell? told
      exact (Table.has_put copy).mpr (.inr known)
  | closes other =>
      have different : uri ≠ other := fun same => unclosed (same ▸ rfl)
      obtain ⟨_, same⟩ := Option.ite_none_right_eq_some.mp told
      obtain rfl := Option.some.inj same
      exact Table.has_remove.mpr ⟨different, known⟩
  | asks other =>
      obtain ⟨_, same⟩ := Option.ite_none_right_eq_some.mp told
      obtain rfl := Option.some.inj same
      exact known

/-! ## Message by message -/

/-- A message that was taken in its turn was taken by what the server had come to by then. -/
theorem replay?_split (replayed : replay? (earlier ++ message :: later) = some last) :
    ∃ mirror telling next, replay? earlier = some mirror ∧
      Telling.ofMessage? message = some telling ∧ mirror.tell? telling = some next ∧
      later.foldlM take? next = some last := by
  rw [replay?, List.foldlM_append] at replayed
  obtain ⟨mirror, reached, rest⟩ := Option.bind_eq_some_iff.mp replayed
  rw [List.foldlM_cons] at rest
  obtain ⟨next, taken, behind⟩ := Option.bind_eq_some_iff.mp rest
  obtain ⟨telling, read, told⟩ := Option.bind_eq_some_iff.mp taken
  exact ⟨mirror, telling, next, reached, read, told, behind⟩

theorem openedIn_of_has (replayed : replay? messages = some mirror)
    (known : mirror.has uri = true) : OpenedIn messages uri := by
  induction messages using List.reverseRecOn generalizing mirror with
  | nil =>
      obtain rfl := Option.some.inj replayed
      exact absurd known Bool.false_ne_true
  | append_singleton earlier message ih =>
      obtain ⟨before, telling, next, reached, read, told, behind⟩ := replay?_split replayed
      obtain rfl := Option.some.inj behind
      rcases has_of_tell? told known with had | ⟨copy, rfl⟩
      · obtain ⟨opening, member, opens⟩ := ih reached had
        exact ⟨opening, List.mem_append_left _ member, opens⟩
      · exact ⟨message, List.mem_append_right _ (List.mem_singleton.mpr rfl), copy, read⟩

/-- Only of a document that was opened before can be said that it is changed or closed, and only
    about such a one can be asked. -/
theorem openedIn_of_subject (replayed : replay? (earlier ++ message :: later) = some last)
    (read : Telling.ofMessage? message = some telling)
    (subject : telling.subject? = some uri) : OpenedIn earlier uri := by
  obtain ⟨mirror, other, next, reached, isOther, told, _⟩ := replay?_split replayed
  obtain rfl := Option.some.inj (read.symm.trans isOther)
  exact openedIn_of_has reached (has_of_subject told subject)

theorem has_foldlM (taken : messages.foldlM take? mirror = some last)
    (known : mirror.has uri = true)
    (unclosed : ∀ message ∈ messages, Telling.ofMessage? message ≠ some (.closes uri)) :
    last.has uri = true := by
  induction messages generalizing mirror with
  | nil =>
      obtain rfl := Option.some.inj taken
      exact known
  | cons message rest ih =>
      rw [List.foldlM_cons] at taken
      obtain ⟨next, first, behind⟩ := Option.bind_eq_some_iff.mp taken
      obtain ⟨telling, read, told⟩ := Option.bind_eq_some_iff.mp first
      have kept : next.has uri = true := by
        apply has_tell? told known
        rintro rfl
        exact unclosed message List.mem_cons_self read
      exact ih behind kept fun other member => unclosed other (List.mem_cons_of_mem _ member)

/-- A document that was asked about is known from then on, unless its closing is told. -/
theorem has_of_asked (replayed : replay? (earlier ++ message :: later) = some last)
    (asks : Telling.ofMessage? message = some (.asks uri))
    (unclosed : ∀ other ∈ later, Telling.ofMessage? other ≠ some (.closes uri)) :
    last.has uri = true := by
  obtain ⟨mirror, telling, next, _, read, told, behind⟩ := replay?_split replayed
  obtain rfl := Option.some.inj (asks.symm.trans read)
  have known := has_of_subject told rfl
  exact has_foldlM behind (has_tell? told known nofun) unclosed

end Mirror

end LanguageClient
