import LanguageClient.Loose.Schedule
import LanguageClient.Workspace

/-! # Sessions driven by loose values

Requests at places that need not be numbers. A place is read only when there is a document to
ask about, and a refused one leaves the session as far as the call had come.
-/

namespace LanguageClient.Loose

variable {π : Type} [BEq π] [DocumentName π] [Host]

def requestHover (session : Session π) (name : π) (line col : Json) :
    Except Fault Nat × Session π :=
  if (session.document? name).isNone then (.ok 0, session)
  else match position line col with
    | .error fault => (.error fault, session)
    | .ok (line, col) => session.requestHover name line col

/-- Ask for the completions at a place. The reason is read last, when the request counts
    already as the latest one. -/
def requestCompletion (session : Session π) (name : π) (line col trigger reason : Json) :
    Except Fault Nat × Session π :=
  if (session.document? name).isNone || !session.capabilities.completion then (.ok 0, session)
  else match position line col with
    | .error fault => (.error fault, session)
    | .ok (line, col) =>
      match reason.toInteger with
      | .ok reason => session.requestCompletion name line col trigger.asTextOrEmpty reason
      | .error fault =>
        match session.startCompletion name line col with
        | .error earlier => (.error earlier, session)
        | .ok session => (.error fault, session)

/-- The place of the pointer in a document and on the screen. -/
def hoverTarget (name : π) (line col screenX screenY : Json) :
    Except Fault (HoverTarget π) := do
  let (line, col) ← position line col
  let (screenX, screenY) ← position screenX screenY
  pure { name, line, col, screenX, screenY }

def scheduleHover (session : Session π) (name : π) (line col screenX screenY : Json) :
    Except Fault Unit × Session π :=
  match hoverTarget name line col screenX screenY with
  | .error fault => (.error fault, session)
  | .ok target => session.scheduleHover target

/-- Note where the pointer is, if an editor shows the file. -/
def scheduleHoverIn (workspace : Workspace π) (path : Text)
    (line col screenX screenY : Json) : Except Fault Unit × Workspace π :=
  if !workspace.isShown path then (.ok (), workspace)
  else match hoverTarget (DocumentName.ofPath path) line col screenX screenY with
    | .error fault => (.error fault, workspace)
    | .ok target => workspace.scheduleHover path target

/-- Ask for completions, if an editor shows the file. A character that brought it about
    counts as the reason. -/
def requestCompletionIn (workspace : Workspace π) (path : Text) (line col trigger : Json) :
    Except Fault Nat × Workspace π :=
  if !workspace.isShown path then (.ok 0, workspace)
  else
    let (result, session) := requestCompletion workspace.session (DocumentName.ofPath path)
      line col trigger (.int (if trigger.isTruthy then 2 else 1))
    (result, { workspace with session })

end LanguageClient.Loose
