import LanguageClient.Document.Name
import LanguageClient.Json.Basic
import LanguageClient.Path
import LanguageClient.Table
import LanguageClient.Uri

/-! # Open documents

The documents that the server knows of, as it was told of them: each opening and change
carries the whole text, and the versions of a document count up from 1. A document that was
closed is remembered by its URI, but it is no longer open; the paths that documents were
opened under are remembered as well.
-/

namespace LanguageClient

/-- A document as the server was told of it. -/
structure Document where
  uri : Text
  path : Text
  languageId : Text
  version : Int := 1
  isOpen : Bool := true
  text : Text
  deriving Repr, DecidableEq

/-- The documents by their URIs. -/
structure DocumentStore where
  documents : Table Text Document := []
  /-- The paths that documents were opened under, latest first; there may be repetitions. -/
  names : List Text := []
  deriving Repr, DecidableEq

namespace DocumentStore

variable [Places]

def size (store : DocumentStore) : Nat :=
  (store.documents.filter (fun entry => entry.2.isOpen)).length

/-- The document under a URI if it is open. -/
def openAt? (store : DocumentStore) (uri : Text) : Option Document :=
  (Table.get? store.documents uri).filter (·.isOpen)

/-- The path that a name means. What counts as nothing means none, unless a document was once
    opened under the text of it. -/
def pathOf {π : Type} [BEq π] [DocumentName π] (store : DocumentStore) (name : π) : Text :=
  if DocumentName.isBlank name && !store.names.contains (DocumentName.text name) then ""
  else DocumentName.text name

omit [Places] in
@[simp] theorem pathOf_path (store : DocumentStore) (path : Text) :
    store.pathOf path = path := rfl

/-- The open document at a path. -/
def get? (store : DocumentStore) (path : Text) : Option Document :=
  store.openAt? (Uri.ofPath path)

/-- Whether the document at a path is open. -/
def isOpen (store : DocumentStore) (path : Text) : Bool :=
  (store.get? path).isSome

/-- The language that a server is told of; a blank one counts as plain text. -/
def languageName (languageId : Text) : Text :=
  let text := Text.strip languageId
  if text.isEmpty then "plaintext" else text

/-- Put a document in place of the one under its URI. -/
def set (store : DocumentStore) (document : Document) : DocumentStore :=
  { store with documents := Table.put store.documents document.uri document }

/-- Open a document. The parameters to send are `none` when the path is blank or the document
    is open already. -/
def openDocument (store : DocumentStore) (path text languageId : Text) :
    Option Json × DocumentStore :=
  let uri := Uri.ofPath path
  if uri.isEmpty || store.isOpen path then (none, store)
  else
    let document := { uri, path, languageId := languageName languageId, text }
    (some (.obj [("textDocument", .obj [
        ("uri", .str uri),
        ("languageId", .str document.languageId),
        ("version", .int document.version),
        ("text", .str text)])]),
      { store.set document with names := path :: store.names })

def change (store : DocumentStore) (path text : Text) :
    Option (Document × Json) × DocumentStore :=
  match store.get? path with
  | none => (none, store)
  | some document =>
    let changed := { document with version := document.version + 1, text }
    (some (changed, .obj [
        ("textDocument", .obj [
          ("uri", .str changed.uri), ("version", .int changed.version)]),
        ("contentChanges", .arr [.obj [("text", .str text)]])]),
      store.set changed)

def close (store : DocumentStore) (path : Text) : Option Json × DocumentStore :=
  match store.get? path with
  | none => (none, store)
  | some document =>
    (some (.obj [("textDocument", .obj [("uri", .str document.uri)])]),
      store.set { document with isOpen := false })

/-- The normal form of the path that a URI names. -/
def normalPath (uri : Text) : Text :=
  Path.normalize (Uri.toPath uri)

/-- The open document that a server means by a URI. A URI that was never used may be another
    spelling of one that was: then the first open document at the same path is meant. -/
def findByUri? (store : DocumentStore) (uri : Text) : Option Document :=
  match Table.get? store.documents uri with
  | some document => if document.isOpen then some document else none
  | none =>
    (store.documents.find? (fun entry =>
      entry.2.isOpen && normalPath entry.2.uri == normalPath uri)).map Prod.snd

end DocumentStore

end LanguageClient
