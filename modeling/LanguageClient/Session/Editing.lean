import LanguageClient.Session.Basic

/-! # Documents and requests

What the host tells a session about its documents and asks it about them. Only documents
that are open on a running server are asked about. A clock that shows no usable time, a name that
cannot be kept, and a message that is withheld end a call where they are met.
-/

namespace LanguageClient.Session

variable {π : Type} [BEq π] [DocumentName π] [Host]

/-- The document that a name means, if a server runs and knows it. -/
def document? (session : Session π) (name : π) : Option Document :=
  if session.isRunning then session.documents.get? (session.documents.pathOf name) else none

def documentParams (document : Document) : Json :=
  .obj [("uri", .str document.uri)]

def positionParams (line col : Int) : Json :=
  .obj [("line", .int line), ("character", .int col)]

/-- Ask for the semantic tokens of a document. Gives the number of the request, 0 if there
    is none. -/
def requestSemanticTokens (session : Session π) (name : π) : Except Fault Nat × Session π :=
  match session.document? name with
  | none => (.ok 0, session)
  | some document =>
    session.request "textDocument/semanticTokens/full"
      (.obj [("textDocument", documentParams document)]) (.semanticTokens document.uri)

/-- Tell a server that has not been told that this client is ready. -/
def confirmHandshake (session : Session π) : Except Fault Unit × Session π :=
  let (first, handshake) := session.handshake.documentOpened
  let session := { session with handshake }
  if first then
    let (sent, session) := session.notify "initialized" (.obj [])
    (sent.map fun _ => (), session)
  else (.ok (), session)

/-- Open a document and ask for its tokens. Says whether the server was told of it. -/
def didOpen (session : Session π) (name : π) (text languageId : Text) :
    Except Fault Bool × Session π :=
  if !session.isRunning then (.ok false, session)
  else match session.documents.openDocument (DocumentName.pathToOpen name) text languageId with
    | (none, _) => (.ok false, session)
    | (some params, documents) =>
      match { session with documents }.notify "textDocument/didOpen" params with
      | (.ok true, session) =>
        match session.confirmHandshake with
        | (.error fault, session) => (.error fault, session)
        | (.ok _, session) =>
          let (number, session) := session.requestSemanticTokens name
          (number.map fun _ => true, session)
      | unsent => unsent

/-- Note that a document was changed, so that its tokens are asked for again. -/
def noteChange (session : Session π) (name : π) : Except Fault (Session π) := do
  let now ← session.now.milliseconds
  let refresh ← session.refresh.tryMark name now
  pure { session with refresh }

/-- Give a document a new text. Gives its version, 0 if the server was not told. -/
def didChange (session : Session π) (name : π) (text : Text) : Except Fault Int × Session π :=
  if !session.isRunning then (.ok 0, session)
  else match session.documents.change (session.documents.pathOf name) text with
    | (none, _) => (.ok 0, session)
    | (some (document, params), documents) =>
      match { session with documents }.notify "textDocument/didChange" params with
      | (.error fault, session) => (.error fault, session)
      | (.ok false, session) => (.ok 0, session)
      | (.ok true, session) =>
        match session.noteChange name with
        | .error fault => (.error fault, session)
        | .ok session => (.ok document.version, session)

def clearHover (session : Session π) : Session π :=
  let (cleared, hover) := session.hover.clear
  let session := { session with hover }
  if cleared then session.emit .hoverCleared else session

/-- Take off the hover if the pointer is on a document. -/
def clearHoverOn (session : Session π) (name : π) : Session π :=
  match session.hover.target with
  | none => session
  | some target =>
    if DocumentName.agrees target.name name then session.clearHover else session

/-- Close a document. Says whether the server was told. -/
def didClose (session : Session π) (name : π) : Except Fault Bool × Session π :=
  if !session.isRunning then (.ok false, session)
  else match session.documents.close (session.documents.pathOf name) with
    | (none, _) => (.ok false, session)
    | (some params, documents) =>
      let session := { session with documents }
      match session.refresh.tryDiscard name with
      | .error fault => (.error fault, session)
      | .ok refresh =>
        ({ session with refresh }.clearHoverOn name).notify "textDocument/didClose" params

def scheduleHover (session : Session π) (target : HoverTarget π) :
    Except Fault Unit × Session π :=
  let (cleared, hover) := session.hover.setTarget target session.now.milliseconds
  let session := { session with hover }
  match cleared with
  | .ok true => (.ok (), session.emit .hoverCleared)
  | .ok false => (.ok (), session)
  | .error fault => (.error fault, session)

/-- Ask for the hover at a place. Gives the number of the request, 0 if there is none. -/
def requestHover (session : Session π) (name : π) (line col : Int) :
    Except Fault Nat × Session π :=
  match session.document? name with
  | none => (.ok 0, session)
  | some document =>
    match session.now.milliseconds with
    | .error fault => (.error fault, session)
    | .ok now =>
      { session with hover := session.hover.start name line col now }.request
        "textDocument/hover"
        (.obj [("textDocument", documentParams document),
          ("position", positionParams line col)])
        (.hover name line col)

/-- Why completion is asked for: how it came about, and the character that brought it
    about. -/
def triggerParams (trigger : Text) (triggerKind : Int) : Json :=
  .obj (("triggerKind", .int (if triggerKind > 0 then triggerKind else 1)) ::
    if trigger.isEmpty then [] else [("triggerCharacter", .str trigger)])

/-- Let the completion at a place be the latest one asked for. -/
def startCompletion (session : Session π) (name : π) (line col : Int) :
    Except Fault (Session π) := do
  let now ← session.now.milliseconds
  pure { session with completion := session.completion.start name line col now }

/-- Ask for the completions at a place, if the server offers any. Gives the number of the
    request, 0 if there is none. -/
def requestCompletion (session : Session π) (name : π) (line col : Int) (trigger : Text)
    (triggerKind : Int) : Except Fault Nat × Session π :=
  match session.document? name with
  | none => (.ok 0, session)
  | some document =>
    if !session.capabilities.completion then (.ok 0, session)
    else match session.startCompletion name line col with
      | .error fault => (.error fault, session)
      | .ok session =>
        session.request "textDocument/completion"
          (.obj [("textDocument", documentParams document),
            ("position", positionParams line col),
            ("context", triggerParams trigger triggerKind)])
          (.completion name line col)

end LanguageClient.Session
