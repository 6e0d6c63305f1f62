import LanguageClient.Proofs.Dialogue
import LanguageClient.Proofs.Document.Revision
import Mathlib.Data.List.Induction

/-! # Documents by what a server calls them

A server may spell the URI of a document in its own way. A document that is open under the URI
is the one that is meant; for a URI that no document was opened under, one at the same path is
meant. A URI under which a document was opened and closed again means none, also where another
document is open at its path.
-/

namespace LanguageClient.DocumentStore

/-! ## What a look-up comes to -/

def openDocuments (store : DocumentStore) : List Document :=
  (store.documents.map Prod.snd).filter (·.isOpen)

section

variable [Places]

/-- A URI means no open document: the one under it is closed, or there is none under it, and
    none at its path that is open. -/
def Misses (store : DocumentStore) (uri : Text) : Prop :=
  (∃ document, Table.get? store.documents uri = some document ∧ document.isOpen = false) ∨
    (Table.get? store.documents uri = none ∧
      ∀ document ∈ store.openDocuments, normalPath document.uri ≠ normalPath uri)

variable {store : DocumentStore} {uri : Text}

omit [Places] in
theorem mem_openDocuments {document : Document} :
    document ∈ store.openDocuments ↔
      (∃ key, (key, document) ∈ store.documents) ∧ document.isOpen = true := by
  rw [openDocuments, List.mem_filter, List.mem_map]
  constructor
  · rintro ⟨⟨⟨key, _⟩, member, rfl⟩, isOpen⟩
    exact ⟨⟨key, member⟩, isOpen⟩
  · rintro ⟨⟨key, member⟩, isOpen⟩
    exact ⟨⟨(key, document), member, rfl⟩, isOpen⟩

theorem findByUri?_eq_none_iff : store.findByUri? uri = none ↔ store.Misses uri := by
  unfold findByUri? Misses
  cases known : Table.get? store.documents uri with
  | some document =>
      cases isOpen : document.isOpen with
      | true => simp [isOpen]
      | false => simp [isOpen]
  | none =>
      rw [Option.map_eq_none_iff, List.find?_eq_none]
      constructor
      · intro unlike
        refine .inr ⟨rfl, fun document member same => ?_⟩
        obtain ⟨⟨key, member⟩, isOpen⟩ := mem_openDocuments.mp member
        exact unlike (key, document) member (by simp [isOpen, same])
      · rintro (⟨_, found, _⟩ | ⟨_, unlike⟩)
        · exact absurd found.symm (Option.some_ne_none _)
        · rintro ⟨key, document⟩ member fits
          simp only [Bool.and_eq_true, beq_iff_eq] at fits
          exact unlike document (mem_openDocuments.mpr ⟨⟨key, member⟩, fits.1⟩) fits.2

omit [Places] in
theorem openAt?_of_mem (keyed : store.Keyed) (once : store.Once) {document : Document}
    (member : document ∈ store.openDocuments) : store.openAt? document.uri = some document := by
  obtain ⟨⟨key, member⟩, isOpen⟩ := mem_openDocuments.mp member
  have known := Table.get?_of_mem once member
  rw [keyed key document known, openAt?, known, Option.filter_some, if_pos isOpen]

omit [Places] in
theorem mem_of_openAt? {document : Document} (found : store.openAt? uri = some document) :
    document ∈ store.openDocuments :=
  have ⟨known, isOpen⟩ := openAt?_eq_some found
  mem_openDocuments.mpr ⟨⟨uri, Table.mem_of_get? known⟩, isOpen⟩

/-- A document that is open under a URI is the one that is meant by it. -/
theorem findByUri?_of_openAt? {document : Document} (found : store.openAt? uri = some document) :
    store.findByUri? uri = some document := by
  obtain ⟨known, isOpen⟩ := openAt?_eq_some found
  unfold findByUri?
  rw [known]
  exact if_pos isOpen

/-! ## Edits -/

/-- What a host may do to its documents. -/
inductive Edit where
  | opens (path text languageId : Text)
  | changes (path text : Text)
  | closes (path : Text)
  | clears
  deriving DecidableEq

def edit (store : DocumentStore) : Edit → DocumentStore
  | .opens path text languageId => (store.openDocument path text languageId).2
  | .changes path text => (store.change path text).2
  | .closes path => (store.close path).2
  | .clears => {}

/-- The documents behind some edits, of which there are none in front. -/
def afterEdits (edits : List Edit) : DocumentStore :=
  edits.foldl edit {}

/-- An edit opens a document under a URI, unless one is open there. -/
def Edit.Opens (edit : Edit) (uri : Text) : Prop :=
  ∃ path text languageId, edit = .opens path text languageId ∧ Uri.ofPath path = uri ∧ uri ≠ ""

/-- A document was opened under a URI, and the documents were not cleared since. -/
def Used (edits : List Edit) (uri : Text) : Prop :=
  ∃ before opening later, edits = before ++ opening :: later ∧ opening.Opens uri ∧
    .clears ∉ later

theorem afterEdits_snoc (edits : List Edit) (last : Edit) :
    afterEdits (edits ++ [last]) = (afterEdits edits).edit last :=
  List.foldl_concat ..

theorem used_snoc (edits : List Edit) (last : Edit) :
    Used (edits ++ [last]) uri ↔ last.Opens uri ∨ (last ≠ .clears ∧ Used edits uri) := by
  constructor
  · rintro ⟨before, opening, later, split, opens, kept⟩
    obtain ⟨rfl, rfl, rfl⟩ | ⟨rest, rfl, rfl⟩ := eq_or_of_snoc_eq split
    · exact .inl opens
    · rw [List.mem_append, List.mem_singleton, not_or] at kept
      exact .inr ⟨Ne.symm kept.2, before, opening, rest, rfl, opens, kept.1⟩
  · rintro (opens | ⟨keeps, before, opening, later, rfl, opens, kept⟩)
    · exact ⟨edits, last, [], rfl, opens, List.not_mem_nil⟩
    · refine ⟨before, opening, later ++ [last], by simp, opens, ?_⟩
      rw [List.mem_append, List.mem_singleton, not_or]
      exact ⟨kept, Ne.symm keeps⟩

theorem openDocument_of_blank {path : Text} (blank : Uri.ofPath path = "")
    (text languageId : Text) : store.openDocument path text languageId = (none, store) := by
  unfold openDocument
  rw [blank]
  rfl

theorem change_of_closed {path : Text} (closed : store.isOpen path = false) (text : Text) :
    store.change path text = (none, store) := by
  unfold change
  rw [Option.isNone_iff_eq_none.mp (Option.isSome_eq_false_iff.mp closed)]

theorem close_of_closed {path : Text} (closed : store.isOpen path = false) :
    store.close path = (none, store) := by
  unfold close
  rw [Option.isNone_iff_eq_none.mp (Option.isSome_eq_false_iff.mp closed)]

/-- What an edit comes to: a document is opened where none is open, or put in the place of one
    that is known; or all stay, or all are forgotten. -/
inductive Edited (store : DocumentStore) : Edit → DocumentStore → Prop where
  | opened {path text languageId : Text} {document : Document} {names : List Text}
      (isUri : document.uri = Uri.ofPath path) (named : document.uri ≠ "") :
      Edited store (.opens path text languageId) { store.set document with names }
  | revised {last : Edit} {document : Document} (known : store.documents.has document.uri = true)
      (unopened : ∀ uri, ¬last.Opens uri) (keeps : last ≠ .clears) :
      Edited store last (store.set document)
  | kept {last : Edit} (known : ∀ uri, last.Opens uri → store.documents.has uri = true)
      (keeps : last ≠ .clears) : Edited store last store
  | cleared : Edited store .clears {}

theorem has_of_isOpen {path : Text} (isOpen : store.isOpen path = true) :
    store.documents.has (Uri.ofPath path) = true := by
  obtain ⟨document, found⟩ := Option.isSome_iff_exists.mp isOpen
  exact Option.isSome_of_eq_some (openAt?_eq_some found).1

theorem edited (keyed : store.Keyed) (last : Edit) : Edited store last (store.edit last) := by
  cases last with
  | opens path text languageId =>
      rw [edit]
      by_cases blank : Uri.ofPath path = ""
      · rw [openDocument_of_blank blank]
        refine .kept ?_ nofun
        rintro uri ⟨_, _, _, same, rfl, named⟩
        cases same
        exact absurd blank named
      · cases isOpen : store.isOpen path with
        | true =>
            rw [openDocument_of_isOpen isOpen]
            refine .kept ?_ nofun
            rintro uri ⟨_, _, _, same, rfl, _⟩
            cases same
            exact has_of_isOpen isOpen
        | false =>
            obtain ⟨params, after, opened⟩ := openDocument_of_closed blank isOpen text languageId
            rw [opened]
            obtain ⟨document, isUri, _, _, _, _, rfl⟩ := openDocument_eq_some opened
            exact .opened isUri (isUri ▸ blank)
  | changes path text =>
      rw [edit]
      cases isOpen : store.isOpen path with
      | false =>
          rw [change_of_closed isOpen]
          exact .kept nofun nofun
      | true =>
          obtain ⟨changed, params, after, isChange⟩ := change_of_isOpen isOpen text
          obtain ⟨document, found, isChanged, _, rfl⟩ := change_eq_some isChange
          rw [isChange]
          refine .revised ?_ nofun nofun
          rw [isChanged, keyed.uri_eq found]
          exact has_of_isOpen isOpen
  | closes path =>
      rw [edit]
      cases isOpen : store.isOpen path with
      | false =>
          rw [close_of_closed isOpen]
          exact .kept nofun nofun
      | true =>
          obtain ⟨params, after, isClose⟩ := close_of_isOpen isOpen
          obtain ⟨document, found, _, rfl⟩ := close_eq_some isClose
          rw [isClose]
          refine .revised ?_ nofun nofun
          rw [keyed.uri_eq found]
          exact has_of_isOpen isOpen
  | clears => exact .cleared

theorem Edited.keyed {last : Edit} {after : DocumentStore} (edited : Edited store last after)
    (keyed : store.Keyed) : after.Keyed := by
  cases edited with
  | opened => exact keyed.set _
  | revised => exact keyed.set _
  | kept => exact keyed
  | cleared => exact keyed_empty

theorem Edited.once {last : Edit} {after : DocumentStore} (edited : Edited store last after)
    (once : store.Once) : after.Once := by
  cases edited with
  | opened => exact once.set _
  | revised => exact once.set _
  | kept => exact once
  | cleared => exact once_empty

/-- A URI is known behind an edit that opens a document under it. Any other edit, but for one
    that clears, leaves known what was known. -/
theorem Edited.has_iff {last : Edit} {after : DocumentStore} (edited : Edited store last after) :
    after.documents.has uri = true ↔
      last.Opens uri ∨ (last ≠ .clears ∧ store.documents.has uri = true) := by
  cases edited with
  | @opened path text languageId document names isUri named =>
      have opens : (Edit.opens path text languageId).Opens uri ↔ uri = document.uri := by
        constructor
        · rintro ⟨_, _, _, same, isPath, _⟩
          cases same
          exact isPath.symm.trans isUri.symm
        · rintro rfl
          exact ⟨path, text, languageId, rfl, isUri.symm, named⟩
      rw [set, Table.has_put, opens]
      exact or_congr_right (and_iff_right (fun same => by cases same)).symm
  | @revised _ document known unopened keeps =>
      rw [set, Table.has_put, or_iff_right (unopened uri), and_iff_right keeps]
      exact or_iff_right_of_imp fun same => same ▸ known
  | kept known keeps =>
      rw [and_iff_right keeps]
      exact (or_iff_right_of_imp (known uri)).symm
  | cleared =>
      refine ⟨(fun known => by cases known), ?_⟩
      rintro (⟨_, _, _, same, _⟩ | ⟨keeps, _⟩)
      · cases same
      · exact absurd rfl keeps

theorem afterEdits_sound (edits : List Edit) :
    (afterEdits edits).Keyed ∧ (afterEdits edits).Once := by
  induction edits using List.reverseRecOn with
  | nil => exact ⟨keyed_empty, once_empty⟩
  | append_singleton edits last ih =>
      obtain ⟨keyed, once⟩ := ih
      rw [afterEdits_snoc]
      have edited := edited keyed last
      exact ⟨edited.keyed keyed, edited.once once⟩

/-- What is known is what was opened since all was cleared. -/
theorem has_afterEdits (edits : List Edit) :
    (afterEdits edits).documents.has uri = true ↔ Used edits uri := by
  induction edits using List.reverseRecOn with
  | nil =>
      refine ⟨nofun, ?_⟩
      rintro ⟨before, opening, later, split, _⟩
      exact absurd split (by simp)
  | append_singleton edits last ih =>
      have edited := edited (afterEdits_sound edits).1 last
      rw [afterEdits_snoc, edited.has_iff, used_snoc, ih]

/-! ## Look-ups -/

theorem findByUri?_isSome_iff (keyed : store.Keyed) (once : store.Once) :
    (store.findByUri? uri).isSome = true ↔
      (∃ document ∈ store.openDocuments, document.uri = uri) ∨
      (¬store.documents.has uri = true ∧
        ∃ document ∈ store.openDocuments, normalPath document.uri = normalPath uri) := by
  rw [Option.isSome_iff_ne_none, Ne, findByUri?_eq_none_iff]
  constructor
  · intro meant
    by_cases known : store.documents.has uri = true
    · obtain ⟨document, found⟩ := Option.isSome_iff_exists.mp known
      cases isOpen : document.isOpen with
      | true =>
          have found' : store.openAt? uri = some document := by
            rw [openAt?, found, Option.filter_some, if_pos isOpen]
          exact .inl ⟨document, mem_of_openAt? found', keyed uri document found⟩
      | false => exact absurd (.inl ⟨document, found, isOpen⟩) meant
    · refine .inr ⟨known, ?_⟩
      by_contra none
      refine meant (.inr ⟨Option.not_isSome_iff_eq_none.mp known, ?_⟩)
      exact fun document member same => none ⟨document, member, same⟩
  · rintro (⟨document, member, rfl⟩ | ⟨unknown, document, member, same⟩) misses
    · have found := findByUri?_of_openAt? (openAt?_of_mem keyed once member)
      rw [findByUri?_eq_none_iff.mpr misses] at found
      cases found
    · rcases misses with ⟨closed, found, _⟩ | ⟨_, unlike⟩
      · exact unknown (Option.isSome_of_eq_some found)
      · exact unlike document member same

/-- The document that a server means by a URI is open, and has this URI or is at its path; if one
    that is open has the URI, it is that one. There is one unless no open document has the URI, and
    either one was opened under it, or none that is open is at its path. -/
theorem findByUri?_afterEdits (edits : List Edit) (uri : Text) :
    (∀ document, (afterEdits edits).findByUri? uri = some document →
      document ∈ (afterEdits edits).openDocuments ∧
        (document.uri = uri ∨ normalPath document.uri = normalPath uri)) ∧
    (∀ document ∈ (afterEdits edits).openDocuments, document.uri = uri →
      (afterEdits edits).findByUri? uri = some document) ∧
    (((afterEdits edits).findByUri? uri).isSome = true ↔
      (∃ document ∈ (afterEdits edits).openDocuments, document.uri = uri) ∨
      (¬Used edits uri ∧
        ∃ document ∈ (afterEdits edits).openDocuments,
          normalPath document.uri = normalPath uri)) := by
  obtain ⟨keyed, once⟩ := afterEdits_sound edits
  rw [← has_afterEdits]
  generalize afterEdits edits = store at keyed once
  refine ⟨?_, ?_, ?_⟩
  · intro document found
    obtain ⟨isOpen, fits⟩ := findByUri?_eq_some keyed once found
    exact ⟨mem_of_openAt? isOpen, fits⟩
  · rintro document member rfl
    exact findByUri?_of_openAt? (openAt?_of_mem keyed once member)
  · exact findByUri?_isSome_iff keyed once

end

open scoped Places.Bare

/-- A document is opened under two spellings of its path, and closed under the first. -/
def respelled : List Edit :=
  [.opens "a.c" "" "c", .opens "./a.c" "" "c", .closes "a.c"]

theorem findByUri?_respelled :
    ((afterEdits respelled).findByUri? "file://b/../a.c").isSome = true := by
  refine (findByUri?_afterEdits respelled "file://b/../a.c").2.2.mpr (.inr ⟨?_, ?_⟩)
  · rw [← has_afterEdits]
    decide +kernel
  · decide +kernel

/-- The spelling that was closed is no longer taken for the other one. -/
theorem findByUri?_closed_spelling :
    (afterEdits respelled).findByUri? "file://a.c" = none ∧
      ∃ document ∈ (afterEdits respelled).openDocuments,
        normalPath document.uri = normalPath "file://a.c" := by
  decide +kernel

end LanguageClient.DocumentStore
