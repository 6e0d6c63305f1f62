import LanguageClient.Proofs.Document.Mirror

/-! # Which documents are open

Behind its opening the document at a path is open, with the text that was given. A change leaves
it open with another text, and behind its closing it is open no more.
-/

namespace LanguageClient

variable [Places]

/-- A document as the server is told of it when it is opened under a path. -/
def Document.opened (path text languageId : Text) : Document where
  uri := Uri.ofPath path
  path := path
  languageId := DocumentStore.languageName languageId
  text := text

@[simp] theorem Document.uri_opened (path text languageId : Text) :
    (Document.opened path text languageId).uri = Uri.ofPath path := by
  simp only [Document.opened]

namespace DocumentStore

variable {store other after : DocumentStore} {path : Text}

/-- What is open in one store is open in the other. -/
def Within (store other : DocumentStore) : Prop :=
  ∀ uri, (store.openAt? uri).isSome = true → (other.openAt? uri).isSome = true

omit [Places] in
theorem Within.refl (store : DocumentStore) : store.Within store :=
  fun _ isOpen => isOpen

omit [Places] in
theorem within_of_eq (same : store = other) : store.Within other :=
  same ▸ .refl store

omit [Places] in
theorem within_empty (store : DocumentStore) : ({} : DocumentStore).Within store :=
  nofun

theorem isOpen_eq (store : DocumentStore) (path : Text) :
    store.isOpen path = (store.openAt? (Uri.ofPath path)).isSome := rfl

theorem get?_of_change (keyed : store.Keyed) {text : Text} {document : Document} {params : Json}
    (changed : store.change path text = (some (document, params), after)) :
    after.get? path = some document ∧ document.text = text := by
  obtain ⟨known, found, isChanged, _, rfl⟩ := change_eq_some changed
  have own : known.uri = Uri.ofPath path := keyed.uri_eq found
  have isUri : document.uri = Uri.ofPath path := by rw [isChanged, ← own]
  have isOpen : document.isOpen = true := by
    rw [isChanged]
    exact (openAt?_eq_some found).2
  refine ⟨?_, by rw [isChanged]⟩
  rw [get?, ← isUri, openAt?_set_self, Option.filter_some, if_pos isOpen]

theorem isOpen_of_change (keyed : store.Keyed) {text : Text} {document : Document}
    {params : Json} (changed : store.change path text = (some (document, params), after)) :
    after.isOpen path = true :=
  Option.isSome_of_eq_some (get?_of_change keyed changed).1

theorem change_of_isOpen (isOpen : store.isOpen path = true) (text : Text) :
    ∃ document params after, store.change path text = (some (document, params), after) := by
  obtain ⟨document, found⟩ := Option.isSome_iff_exists.mp isOpen
  unfold change
  rw [found]
  exact ⟨_, _, _, rfl⟩

theorem isOpen_of_close (keyed : store.Keyed) {params : Json}
    (closed : store.close path = (some params, after)) : after.isOpen path = false := by
  obtain ⟨document, found, _, rfl⟩ := close_eq_some closed
  have uri : document.uri = Uri.ofPath path := keyed.uri_eq found
  have gone := openAt?_set_self store { document with isOpen := false }
  rw [isOpen_eq, ← uri, gone]
  rfl

/-- What the server is told of an opening is the document that is kept. -/
theorem openDocument_eq {text languageId : Text} {params : Json}
    (opened : store.openDocument path text languageId = (some params, after)) :
    store.isOpen path = false ∧ params = openParams (.opened path text languageId) ∧
      after = { store.set (.opened path text languageId) with names := path :: store.names } := by
  simp only [openDocument] at opened
  split at opened
  · simp at opened
  · next absent =>
    simp only [Bool.or_eq_true, not_or, Bool.not_eq_true] at absent
    obtain ⟨isParams, isAfter⟩ := Prod.mk.inj opened
    refine ⟨absent.2, ?_⟩
    unfold Document.opened
    -- With the URI spelled out, comparing the records would compute on the path.
    generalize Uri.ofPath path = uri at isParams isAfter ⊢
    generalize languageName languageId = language at isParams isAfter ⊢
    exact ⟨(Option.some.inj isParams).symm, isAfter.symm⟩

theorem get?_of_openDocument {text languageId : Text} {params : Json}
    (opened : store.openDocument path text languageId = (some params, after)) :
    after.get? path = some (.opened path text languageId) := by
  obtain ⟨_, _, rfl⟩ := openDocument_eq opened
  have isOpen : (Document.opened path text languageId).isOpen = true := rfl
  have isUri := Document.uri_opened path text languageId
  generalize Document.opened path text languageId = document at isOpen isUri ⊢
  have found := openAt?_set_self store document
  rw [Option.filter_some, if_pos isOpen] at found
  rw [get?, ← isUri]
  exact found

theorem isOpen_of_openDocument {text languageId : Text} {params : Json}
    (opened : store.openDocument path text languageId = (some params, after)) :
    after.isOpen path = true :=
  Option.isSome_of_eq_some (get?_of_openDocument opened)

theorem openDocument_of_isOpen (isOpen : store.isOpen path = true) (text languageId : Text) :
    store.openDocument path text languageId = (none, store) := by
  simp only [openDocument, isOpen, Bool.or_true, ↓reduceIte]

theorem openDocument_of_closed (named : Uri.ofPath path ≠ "") (closed : store.isOpen path = false)
    (text languageId : Text) :
    ∃ params after, store.openDocument path text languageId = (some params, after) := by
  have unblank : (Uri.ofPath path).isEmpty = false :=
    Text.isEmpty_eq_false_iff.mpr named
  simp only [openDocument, unblank, closed, Bool.or_self, Bool.false_eq_true, ↓reduceIte]
  exact ⟨_, _, rfl⟩

theorem close_of_isOpen (isOpen : store.isOpen path = true) :
    ∃ params after, store.close path = (some params, after) := by
  obtain ⟨document, found⟩ := Option.isSome_iff_exists.mp isOpen
  exact ⟨_, _, close_of_known found⟩

/-! ## The paths of open documents -/

/-- The path of the document that is open under a URI. -/
def pathAt? (store : DocumentStore) (uri : Text) : Option Text :=
  (store.openAt? uri).map (·.path)

/-- A document is open that was opened under a path. -/
def Holds (store : DocumentStore) (path : Text) : Prop :=
  ∃ uri, store.pathAt? uri = some path

omit [Places] in
theorem isSome_pathAt? (store : DocumentStore) (uri : Text) :
    (store.pathAt? uri).isSome = (store.openAt? uri).isSome :=
  Option.isSome_map

omit [Places] in
theorem pathAt?_set (store : DocumentStore) (document : Document) (uri : Text) :
    (store.set document).pathAt? uri =
      if uri = document.uri then (if document.isOpen then some document.path else none)
      else store.pathAt? uri := by
  unfold pathAt?
  split
  · next same =>
    rw [same, openAt?_set_self, Option.filter_some]
    cases document.isOpen with
    | true => rfl
    | false => rfl
  · next other => rw [openAt?_set_of_ne store other]

theorem pathAt?_openDocument {text languageId : Text} {params : Json}
    (opened : store.openDocument path text languageId = (some params, after)) (uri : Text) :
    after.pathAt? uri = if uri = Uri.ofPath path then some path else store.pathAt? uri := by
  obtain ⟨document, isUri, isPath, isOpen, _, _, rfl⟩ := openDocument_eq_some opened
  have known := store.pathAt?_set document uri
  rw [isUri, isPath, if_pos isOpen] at known
  exact known

/-- A change leaves the paths of all documents as they are. -/
theorem pathAt?_change (keyed : store.Keyed) {text : Text} {document : Document}
    {params : Json} (changed : store.change path text = (some (document, params), after))
    (uri : Text) : after.pathAt? uri = store.pathAt? uri := by
  obtain ⟨known, found, isChanged, _, rfl⟩ := change_eq_some changed
  have own : known.uri = Uri.ofPath path := keyed.uri_eq found
  have before : store.pathAt? (Uri.ofPath path) = some known.path :=
    congrArg (Option.map Document.path) found
  rw [pathAt?_set, isChanged]
  dsimp only
  rw [own, if_pos (openAt?_eq_some found).2]
  split
  · next same => rw [same, before]
  · rfl

theorem pathAt?_close (keyed : store.Keyed) {params : Json}
    (closed : store.close path = (some params, after)) (uri : Text) :
    after.pathAt? uri = if uri = Uri.ofPath path then none else store.pathAt? uri := by
  obtain ⟨document, found, _, rfl⟩ := close_eq_some closed
  have own : document.uri = Uri.ofPath path := keyed.uri_eq found
  rw [pathAt?_set]
  dsimp only
  rw [own, if_neg Bool.false_ne_true]

end DocumentStore

end LanguageClient
