import LanguageClient.Document.Notices
import LanguageClient.Json.Display
import LanguageClient.Json.Equality

/-! # Documents and loose values

A document may be named by any value, and then the text of it is the path. Names of one text
stay apart: the number 12 is not the text of it. A notice may be any value as well; one that is no
object cannot even be looked at.
-/

namespace LanguageClient.Loose

/-- Why a value cannot be a name in a table, if it cannot. -/
def refusal? : Json → Option Fault
  | .arr items => some (.unusableName (Json.arr items).kind)
  | .obj entries => some (.unusableName (Json.obj entries).kind)
  | _ => none

instance : DocumentName Json where
  text := Json.asText
  ofPath := .str
  isBlank name := !name.isTruthy
  agrees := Json.equals
  refusal? := refusal?
  text_ofPath _ := rfl
  refusal?_ofPath _ := rfl

def notice [Places] (store : DocumentStore) (message : Json) : Except Fault Notice :=
  if message.isObj then store.notice message else .error (.withoutPart message.kind "get")

end LanguageClient.Loose
