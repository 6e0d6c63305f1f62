import LanguageClient.Document.Notices
import LanguageClient.Hover
import LanguageClient.Session.Basic

/-! # Messages from the server

A message with an identifier and no method is a response; one with both is a request, which
is refused; one with a method alone is a notice. Everything else is passed over.
-/

namespace LanguageClient.Session

variable {π : Type} [BEq π] [DocumentName π] [Host]

def takeHandshake (session : Session π) (result error : Json) : Session π :=
  if result.isObj then
    { session with handshake := session.handshake.accept result }.emit .ready
  else
    let text := Message.errorText error
    session.emit (.status
      ("LSP initialize failed: " ++ (if text.isEmpty then ("no result" : Text) else text)))

/-- The server has sent the tokens of a document, which is passed on if it is still open. -/
def takeSemanticTokens (session : Session π) (uri : Text) (result : Json) : Session π :=
  match result.get? "data" with
  | none => session
  | some data =>
    match session.documents.findByUri? uri with
    | none => session
    | some document =>
      session.emit (.semanticTokens document.path
        (SemanticToken.decode data session.capabilities.tokenLegend))

/-- The text to show for a hover response. -/
def hoverText? (result error : Json) : Option Text :=
  match result with
  | .null =>
    let text := Message.errorText error
    if text.isEmpty then none else some ("Hover error: " ++ text)
  | .obj _ => Hover.textOf? (result.field "contents")
  | _ => none

/-- The server has answered a hover, which counts only for the place asked about last. -/
def takeHover (session : Session π) (name : π) (line col : Int) (result error : Json) :
    Session π :=
  match session.hover.accept name line col with
  | (false, _) => session
  | (true, hover) =>
    let text := hoverText? result error
    { session with hover := hover.display text.isSome }.emit (.hover name line col text)

/-- The proposals of a completion response. After an error there are none. -/
def completionsOf (session : Session π) (name : π) (line col : Int) (result error : Json) :
    CompletionList :=
  match result, error with
  | .null, .null => ofResult
  | .null, _ => {}
  | _, _ => ofResult
where
  ofResult : CompletionList :=
    Completion.listOf result
      (match session.documents.get? (session.documents.pathOf name) with
      | some document => Completion.typedAt document.text line col
      | none => "")

/-- The server has answered a completion, which counts only for the place asked about
    last. -/
def takeCompletion (session : Session π) (name : π) (line col : Int) (result error : Json) :
    Session π :=
  match session.completion.accept name line col with
  | (false, _) => session
  | (true, completion) =>
    let session := { session with completion }
    session.emit (.completion name line col
      (session.completionsOf name line col result error))

/-- Take a response to one of the requests that wait. -/
def takeResponse (session : Session π) (message : Json) : Session π :=
  match session.requests.resolve (message.field "id") with
  | (none, _) => session
  | (some context, requests) =>
    let session := { session with requests }
    let result := message.field "result"
    let error := message.field "error"
    match context with
    | .handshake => session.takeHandshake result error
    | .shutdown => session
    | .semanticTokens uri => session.takeSemanticTokens uri result
    | .hover name line col => session.takeHover name line col result error
    | .completion name line col => session.takeCompletion name line col result error

def takeNotice (session : Session π) (message : Json) : Except Fault (Session π) :=
  match session.documents.notice message with
  | .ok (.diagnostics path items) => .ok (session.emit (.diagnostics path items))
  | .ok _ => .ok session
  | .error fault => .error fault

/-- Take a message. A fault in a notice leaves the session as it was. -/
def takeMessage (session : Session π) (message : Json) : Except Fault Unit × Session π :=
  match message.get? "id", message.get? "method" with
  | some _, none => (.ok (), session.takeResponse message)
  | id, _ =>
    let method := (message.field "method").textOrEmpty
    if method.isEmpty then (.ok (), session)
    else match id with
      | some id =>
        let (sent, session) := session.send (Message.refusal id method)
        (sent.map fun _ => (), session)
      | none =>
        match session.takeNotice message with
        | .ok session => (.ok (), session)
        | .error fault => (.error fault, session)

end LanguageClient.Session
