import LanguageClient.Diagnostics
import LanguageClient.Document.Store

/-! # Notices from the server

What a server says without being asked. Only published diagnostics are taken, and only for
documents that are open.
-/

namespace LanguageClient

variable [Places]

def publishDiagnostics : Text := "textDocument/publishDiagnostics"

/-- What a notice is for: nothing that is taken, diagnostics that are dropped, or diagnostics
    of the document at a path. -/
inductive Notice where
  | ignored
  | dropped
  | diagnostics (path : Text) (items : List Diagnostic)
  deriving Repr, DecidableEq

/-- The open document that published diagnostics are about. -/
def DocumentStore.subject? (store : DocumentStore) (params : Json) : Option Document :=
  match (params.field "uri").text? with
  | none => none
  | some uri => if uri.isEmpty then none else store.findByUri? uri

def DocumentStore.notice (store : DocumentStore) (message : Json) : Except Fault Notice :=
  if (message.field "method").text? = some publishDiagnostics then
    let params := message.field "params"
    match store.subject? params with
    | none => .ok .dropped
    | some document => do
      let items ← Diagnostic.ofArray (params.field "diagnostics")
      pure (.diagnostics document.path items)
  else .ok .ignored

/-- Whether a notice was one that is taken. -/
def Notice.isTaken : Notice → Bool
  | .ignored => false
  | _ => true

end LanguageClient
