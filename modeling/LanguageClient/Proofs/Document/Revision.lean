import LanguageClient.Proofs.Document.Openness
import LanguageClient.Proofs.Table

/-! # What becomes of documents that are known

Unless a document is opened, all documents stay as they are, or one is changed or closed, or all
are forgotten. None of that brings a path to a URI that did not have it. A store has every URI
once, so that what a server means by a URI is a document that is open under its own.
-/

namespace LanguageClient.DocumentStore

variable {store after : DocumentStore} {uri path : Text}

variable [Places]

/-- What may become of a store where no document is opened. -/
inductive Revises (store : DocumentStore) : DocumentStore → Prop where
  | kept : Revises store store
  | changed {path text : Text} {document : Document} {params : Json} {after : DocumentStore}
      (changed : store.change path text = (some (document, params), after)) :
      Revises store after
  | closed {path : Text} {params : Json} {after : DocumentStore}
      (closed : store.close path = (some params, after)) : Revises store after
  | forgotten : Revises store {}

theorem revises_of_eq (same : after = store) : store.Revises after :=
  same ▸ .kept

/-- Paths stay where they are, as long as the document is open. -/
theorem Revises.pathAt?_eq (revises : store.Revises after) (keyed : store.Keyed)
    (found : after.pathAt? uri = some path) : store.pathAt? uri = some path := by
  cases revises with
  | kept => exact found
  | changed changed =>
      rw [pathAt?_change keyed changed] at found
      exact found
  | closed closed =>
      rw [pathAt?_close keyed closed] at found
      split at found
      · exact absurd found nofun
      · exact found
  | forgotten => exact absurd found nofun

/-! ## Every URI once -/

/-- No URI has two documents. -/
def Once (store : DocumentStore) : Prop :=
  (Table.keys store.documents).Nodup

omit [Places] in
theorem once_empty : Once {} :=
  List.nodup_nil

omit [Places] in
theorem Once.set (once : store.Once) (document : Document) : (store.set document).Once :=
  Table.nodup_put once document.uri document

theorem Revises.once (revises : store.Revises after) (once : store.Once) : after.Once := by
  cases revises with
  | kept => exact once
  | changed changed =>
      obtain ⟨_, _, _, _, rfl⟩ := change_eq_some changed
      exact once.set _
  | closed closed =>
      obtain ⟨_, _, _, rfl⟩ := close_eq_some closed
      exact once.set _
  | forgotten => exact once_empty

theorem Once.openDocument (once : store.Once) {text languageId : Text} {params : Json}
    (opened : store.openDocument path text languageId = (some params, after)) : after.Once := by
  obtain ⟨document, _, _, _, _, _, rfl⟩ := openDocument_eq_some opened
  exact once.set document

/-- The document that a server means by a URI is open. It has this URI, or it is at the path
    that the URI names. -/
theorem findByUri?_eq_some (keyed : store.Keyed) (once : store.Once) {document : Document}
    (found : store.findByUri? uri = some document) :
    store.openAt? document.uri = some document ∧
      (document.uri = uri ∨ normalPath document.uri = normalPath uri) := by
  have opens {key : Text} (known : Table.get? store.documents key = some document)
      (isOpen : document.isOpen = true) : store.openAt? document.uri = some document := by
    rw [keyed key document known, openAt?, known, Option.filter_some, if_pos isOpen]
  unfold findByUri? at found
  split at found
  · next known =>
    split at found
    · next isOpen =>
      obtain rfl := Option.some.inj found
      exact ⟨opens known isOpen, .inl (keyed uri _ known)⟩
    · exact absurd found.symm (Option.some_ne_none document)
  · obtain ⟨⟨key, other⟩, first, rfl⟩ := Option.map_eq_some_iff.mp found
    have fits := List.find?_some first
    simp only [Bool.and_eq_true, beq_iff_eq] at fits
    have known := Table.get?_of_mem once (List.mem_of_find?_eq_some first)
    exact ⟨opens known fits.1, .inr fits.2⟩

end LanguageClient.DocumentStore
