import LanguageClient.Document.Store
import LanguageClient.Message.Envelope

/-! # Documents as a server sees them

A server that is told of documents keeps its own copies: a document is opened once, changed
only while it is open and to the next version, and closed only while it is open. The messages
that a store of documents gives to be sent lead such a server from a copy of the store to a
copy of what the store has become.
-/

namespace LanguageClient

/-- A document as a server has been told of it. -/
structure Copy where
  languageId : Text
  version : Int
  text : Text
  deriving DecidableEq

def Copy.ofDocument (document : Document) : Copy :=
  ⟨document.languageId, document.version, document.text⟩

/-- The copies that a server keeps, by their URIs. -/
abbrev Mirror := Table Text Copy

/-- What a message says of a document. -/
inductive Telling where
  | opens (uri : Text) (copy : Copy)
  | changes (uri : Text) (version : Int) (text : Text)
  | closes (uri : Text)
  | asks (uri : Text)
  | nothing

namespace Telling

def uri? (params : Json) : Option Text :=
  ((params.field "textDocument").field "uri").text?

def version? (params : Json) : Option Int :=
  match (params.field "textDocument").field "version" with
  | .int version => some version
  | _ => none

/-- The text in a list of changes that has the whole text as its only one. -/
def wholeText? (params : Json) : Option Text :=
  match params.field "contentChanges" with
  | .arr [change] => (change.field "text").text?
  | _ => none

def copy? (params : Json) : Option Copy := do
  let document := params.field "textDocument"
  let languageId ← (document.field "languageId").text?
  let version ← version? params
  let text ← (document.field "text").text?
  pure ⟨languageId, version, text⟩

/-- The methods of the requests that are about a document. -/
def questions : List Text :=
  ["textDocument/semanticTokens/full", "textDocument/hover", "textDocument/completion"]

/-- What a message says of a document, unless it lacks what its method needs. -/
def ofMessage? (message : Json) : Option Telling := do
  let method := (message.field "method").textOrEmpty
  let params := message.field "params"
  if method = "textDocument/didOpen" then
    let uri ← uri? params
    let copy ← copy? params
    pure (.opens uri copy)
  else if method = "textDocument/didChange" then
    let uri ← uri? params
    let version ← version? params
    let text ← wholeText? params
    pure (.changes uri version text)
  else if method = "textDocument/didClose" then
    let uri ← uri? params
    pure (.closes uri)
  else if questions.contains method then
    let uri ← uri? params
    pure (.asks uri)
  else pure .nothing

end Telling

namespace Mirror

/-- What a server makes of what it is told, unless it is told what cannot be. -/
def tell? (mirror : Mirror) : Telling → Option Mirror
  | .opens uri copy => if mirror.has uri then none else some (mirror.put uri copy)
  | .changes uri version text =>
    match mirror.get? uri with
    | none => none
    | some copy =>
      if version = copy.version + 1 then some (mirror.put uri { copy with version, text })
      else none
  | .closes uri => if mirror.has uri then some (mirror.remove uri) else none
  | .asks uri => if mirror.has uri then some mirror else none
  | .nothing => some mirror

def take? (mirror : Mirror) (message : Json) : Option Mirror :=
  (Telling.ofMessage? message).bind (tell? mirror)

/-- What a server that starts without documents makes of messages, in order. -/
def replay? (messages : List Json) : Option Mirror :=
  messages.foldlM take? []

/-- A server has the copies of the documents that are open, and no others. -/
def Reflects (mirror : Mirror) (store : DocumentStore) : Prop :=
  ∀ uri, mirror.get? uri = (store.openAt? uri).map Copy.ofDocument

end Mirror

/-! ## Stores -/

namespace DocumentStore

/-- Every document is kept under its own URI. -/
def Keyed (store : DocumentStore) : Prop :=
  ∀ uri document, Table.get? store.documents uri = some document → document.uri = uri

theorem keyed_empty : Keyed {} := nofun

theorem Keyed.set {store : DocumentStore} (keyed : store.Keyed) (document : Document) :
    (store.set document).Keyed := by
  intro uri other found
  by_cases same : uri = document.uri
  · subst same
    rw [DocumentStore.set, Table.get?_put_self] at found
    rw [← Option.some.inj found]
  · rw [DocumentStore.set, Table.get?_put_of_ne same] at found
    exact keyed uri other found

theorem openAt?_eq_some {store : DocumentStore} {uri : Text} {document : Document}
    (found : store.openAt? uri = some document) :
    Table.get? store.documents uri = some document ∧ document.isOpen = true :=
  Option.filter_eq_some_iff.mp found

theorem Keyed.uri_eq {store : DocumentStore} (keyed : store.Keyed) {uri : Text}
    {document : Document} (found : store.openAt? uri = some document) : document.uri = uri :=
  keyed uri document (openAt?_eq_some found).1

theorem openAt?_set_self (store : DocumentStore) (document : Document) :
    (store.set document).openAt? document.uri = (some document).filter (·.isOpen) := by
  rw [openAt?, set, Table.get?_put_self]

theorem openAt?_set_of_ne (store : DocumentStore) {document : Document} {uri : Text}
    (other : uri ≠ document.uri) : (store.set document).openAt? uri = store.openAt? uri := by
  rw [openAt?, set, Table.get?_put_of_ne other, openAt?]

def openParams (document : Document) : Json :=
  .obj [("textDocument", .obj [
    ("uri", .str document.uri),
    ("languageId", .str document.languageId),
    ("version", .int document.version),
    ("text", .str document.text)])]

def changeParams (document : Document) : Json :=
  .obj [
    ("textDocument", .obj [("uri", .str document.uri), ("version", .int document.version)]),
    ("contentChanges", .arr [.obj [("text", .str document.text)]])]

def closeParams (document : Document) : Json :=
  .obj [("textDocument", .obj [("uri", .str document.uri)])]

variable [Places]

theorem openDocument_eq_some {store after : DocumentStore} {path text languageId : Text}
    {params : Json}
    (opened : store.openDocument path text languageId = (some params, after)) :
    ∃ document : Document, document.uri = Uri.ofPath path ∧ document.path = path ∧
      document.isOpen = true ∧ store.openAt? document.uri = none ∧ params = openParams document ∧
      after = { store.set document with names := path :: store.names } := by
  simp only [openDocument] at opened
  split at opened
  · simp at opened
  · next absent =>
    simp only [Bool.or_eq_true, not_or, Bool.not_eq_true] at absent
    obtain ⟨isParams, isAfter⟩ := Prod.mk.inj opened
    have unknown : store.openAt? (Uri.ofPath path) = none :=
      Option.isNone_iff_eq_none.mp (Option.isSome_eq_false_iff.mp absent.2)
    -- With the URI spelled out, comparing the records would compute on the path.
    generalize Uri.ofPath path = uri at isParams isAfter unknown ⊢
    generalize languageName languageId = language at isParams isAfter
    exact ⟨{ uri, path, languageId := language, text }, rfl, rfl, rfl, unknown,
      (Option.some.inj isParams).symm, isAfter.symm⟩

theorem change_eq_some {store after : DocumentStore} {path text : Text}
    {changed : Document} {params : Json}
    (isChange : store.change path text = (some (changed, params), after)) :
    ∃ document, store.get? path = some document ∧
      changed = { document with version := document.version + 1, text } ∧
      params = changeParams changed ∧ after = store.set changed := by
  unfold change at isChange
  split at isChange
  · simp at isChange
  · next document found =>
    obtain ⟨both, isAfter⟩ := Prod.mk.inj isChange
    obtain ⟨isChanged, isParams⟩ := Prod.mk.inj (Option.some.inj both)
    subst isChanged
    exact ⟨document, found, rfl, isParams.symm, isAfter.symm⟩

theorem close_of_known {store : DocumentStore} {path : Text} {document : Document}
    (known : store.get? path = some document) :
    store.close path =
      (some (closeParams document), store.set { document with isOpen := false }) := by
  unfold close
  rw [known]
  rfl

theorem close_eq_some {store after : DocumentStore} {path : Text} {params : Json}
    (isClose : store.close path = (some params, after)) :
    ∃ document, store.get? path = some document ∧ params = closeParams document ∧
      after = store.set { document with isOpen := false } := by
  unfold close at isClose
  split at isClose
  · simp at isClose
  · next document found =>
    obtain ⟨isParams, isAfter⟩ := Prod.mk.inj isClose
    exact ⟨document, found, (Option.some.inj isParams).symm, isAfter.symm⟩

end DocumentStore

/-! ## Steps that both sides take -/

namespace Mirror

theorem replay?_snoc {messages : List Json} {message : Json} {mirror next : Mirror}
    (replayed : replay? messages = some mirror) (taken : mirror.take? message = some next) :
    replay? (messages ++ [message]) = some next := by
  rw [replay?] at replayed ⊢
  rw [List.foldlM_append, replayed]
  simpa using taken

variable {mirror : Mirror} {store : DocumentStore}

theorem reflects_empty : Reflects [] {} := fun _ => rfl

theorem Reflects.has (reflects : Reflects mirror store) (uri : Text) :
    mirror.has uri = (store.openAt? uri).isSome := by
  rw [Table.has, reflects uri, Option.isSome_map]

theorem Reflects.put (reflects : Reflects mirror store) {document : Document}
    (isOpen : document.isOpen = true) :
    Reflects (mirror.put document.uri (.ofDocument document)) (store.set document) := by
  intro uri
  by_cases same : uri = document.uri
  · subst same
    rw [Table.get?_put_self, DocumentStore.openAt?_set_self, Option.filter_some, if_pos isOpen]
    rfl
  · rw [Table.get?_put_of_ne same, DocumentStore.openAt?_set_of_ne store same]
    exact reflects uri

theorem Reflects.remove (reflects : Reflects mirror store) (document : Document)
    (closed : document.isOpen = false) :
    Reflects (mirror.remove document.uri) (store.set document) := by
  intro uri
  by_cases same : uri = document.uri
  · subst same
    rw [Table.get?_remove_self, DocumentStore.openAt?_set_self, Option.filter_some, closed]
    rfl
  · rw [Table.get?_remove_of_ne same, DocumentStore.openAt?_set_of_ne store same]
    exact reflects uri

/-- A message takes a server that has copies of one store to copies of another. -/
structure Advances (before : DocumentStore) (message : Json) (after : DocumentStore) : Prop where
  keyed : after.Keyed
  taken : ∀ {mirror : Mirror}, Reflects mirror before →
    ∃ next, mirror.take? message = some next ∧ Reflects next after

theorem advances_of_nothing (keyed : store.Keyed) {message : Json}
    (neutral : Telling.ofMessage? message = some .nothing) : Advances store message store where
  keyed := keyed
  taken {mirror} reflects := ⟨mirror, by rw [take?, neutral]; rfl, reflects⟩

theorem advances_of_asks (keyed : store.Keyed) {message : Json} {document : Document}
    {uri : Text} (found : store.openAt? uri = some document)
    (asks : Telling.ofMessage? message = some (.asks document.uri)) :
    Advances store message store where
  keyed := keyed
  taken {mirror} reflects := by
    have known : mirror.has document.uri = true := by
      rw [reflects.has, keyed.uri_eq found, found]
      rfl
    refine ⟨mirror, ?_, reflects⟩
    rw [take?, asks, Option.bind_some, tell?, if_pos known]

variable [Places]

theorem advances_of_openDocument (keyed : store.Keyed) {after : DocumentStore}
    {path text languageId : Text} {params : Json}
    (opened : store.openDocument path text languageId = (some params, after)) :
    Advances store (Message.notification "textDocument/didOpen" params) after := by
  obtain ⟨document, _, _, isOpen, absent, rfl, rfl⟩ := DocumentStore.openDocument_eq_some opened
  refine ⟨keyed.set document, ?_⟩
  intro mirror reflects
  have unknown : mirror.has document.uri = false := by
    rw [reflects.has, absent]
    rfl
  refine ⟨mirror.put document.uri (.ofDocument document), ?_, reflects.put isOpen⟩
  have telling : Telling.ofMessage? (Message.notification "textDocument/didOpen"
      (DocumentStore.openParams document)) =
    some (.opens document.uri (.ofDocument document)) := rfl
  rw [take?, telling, Option.bind_some, tell?, unknown]
  rfl

theorem advances_of_change (keyed : store.Keyed) {after : DocumentStore} {path text : Text}
    {changed : Document} {params : Json}
    (isChange : store.change path text = (some (changed, params), after)) :
    Advances store (Message.notification "textDocument/didChange" params) after := by
  obtain ⟨document, found, isChanged, rfl, rfl⟩ := DocumentStore.change_eq_some isChange
  have isOpen : changed.isOpen = true := by
    rw [isChanged]
    exact (DocumentStore.openAt?_eq_some found).2
  refine ⟨keyed.set changed, ?_⟩
  intro mirror reflects
  have known : mirror.get? changed.uri = some (.ofDocument document) := by
    rw [isChanged, reflects, keyed.uri_eq found]
    exact congrArg (Option.map Copy.ofDocument) found
  refine ⟨mirror.put changed.uri (.ofDocument changed), ?_, reflects.put isOpen⟩
  have telling : Telling.ofMessage? (Message.notification "textDocument/didChange"
      (DocumentStore.changeParams changed)) =
    some (.changes changed.uri changed.version changed.text) := rfl
  have next : changed.version = (Copy.ofDocument document).version + 1 := by
    rw [isChanged]
    rfl
  rw [take?, telling, Option.bind_some, tell?, known]
  simp only [if_pos next]
  rw [isChanged]
  rfl

theorem advances_of_close (keyed : store.Keyed) {after : DocumentStore} {path : Text}
    {params : Json} (isClose : store.close path = (some params, after)) :
    Advances store (Message.notification "textDocument/didClose" params) after := by
  obtain ⟨document, found, rfl, rfl⟩ := DocumentStore.close_eq_some isClose
  refine ⟨keyed.set _, ?_⟩
  intro mirror reflects
  have known : mirror.has document.uri = true := by
    rw [reflects.has, keyed.uri_eq found, ← DocumentStore.get?, found]
    rfl
  have gone := reflects.remove { document with isOpen := false } rfl
  refine ⟨mirror.remove document.uri, ?_, gone⟩
  have telling : Telling.ofMessage? (Message.notification "textDocument/didClose"
      (DocumentStore.closeParams document)) = some (.closes document.uri) := rfl
  rw [take?, telling, Option.bind_some, tell?, if_pos known]

end Mirror

end LanguageClient
