import LanguageClient.Session.Lifecycle
import LanguageClient.Session.Loop
import LanguageClient.Settings.Languages

/-! # Workspaces

Which editors show which files, with one server running for them. A file whose language has
another server stops the one that runs; the documents that were open there are let go. Files come
under the paths that the host has made of their names.
-/

namespace LanguageClient

/-- The files shown by editors, and the session with their server. -/
structure Workspace (π : Type) where
  session : Session π
  languages : Languages := []
  /-- The folder that its servers are started for. -/
  root : Text
  /-- The file that each editor shows. -/
  editors : Table Text Text := []
  /-- How many editors show each file. -/
  counts : Table Text Nat := []
  /-- The command that the latest server was started with. -/
  active : Text := ""

namespace Workspace

variable {π : Type} [BEq π] [DocumentName π] [Host]

open DocumentName (ofPath)

def activeCommand (workspace : Workspace π) : Text :=
  if workspace.session.isRunning then workspace.active else ""

/-- Whether there is a server for a file. -/
def supportsFile (workspace : Workspace π) (path : Text) : Bool :=
  Languages.hasServer workspace.languages path

def pathFor? (workspace : Workspace π) (editor : Text) : Option Text :=
  Table.get? workspace.editors (Text.strip editor)

def countOf (workspace : Workspace π) (path : Text) : Nat :=
  (Table.get? workspace.counts path).getD 0

def isShown (workspace : Workspace π) (path : Text) : Bool :=
  Table.has workspace.counts path

/-- Tell the host that files have no diagnostics any more. -/
def clearDiagnosticsOf (session : Session π) : List Text → Session π
  | [] => session
  | path :: rest => clearDiagnosticsOf (session.emit (.diagnostics path [])) rest

/-- Tell the host that no file has diagnostics any more. -/
def clearAllDiagnostics (workspace : Workspace π) : Workspace π :=
  { workspace with
    session := clearDiagnosticsOf workspace.session (Table.keys workspace.counts) }

/-- Let all files go, and with them the editors that show them. -/
def forgetFiles (workspace : Workspace π) : Workspace π :=
  let workspace := workspace.clearAllDiagnostics
  { workspace with
    counts := []
    editors := workspace.editors.filter (fun entry => !workspace.isShown entry.2) }

/-- Stop the server that runs, and let the files go that were open there. -/
def leaveServer (workspace : Workspace π) : Except Fault Unit × Workspace π :=
  if workspace.session.isRunning then
    let workspace := workspace.forgetFiles
    let (stopped, session) := workspace.session.stop
    (stopped, { workspace with session })
  else (.ok (), workspace)

/-- Start the server of a command. Says whether it runs. -/
def startServer (workspace : Workspace π) (command : Text) : Except Fault Bool × Workspace π :=
  match workspace.session.start command workspace.root with
  | (.error fault, session) => (.error fault, { workspace with session })
  | (.ok started, session) =>
    (.ok started, { workspace with session, active := if started then command else "" })

/-- See to it that the server of a command runs. Says whether it does. -/
def ensureServer (workspace : Workspace π) (command : Text) : Except Fault Bool × Workspace π :=
  if workspace.session.isRunning && command == workspace.active then (.ok true, workspace)
  else match workspace.leaveServer with
    | (.error fault, workspace) => (.error fault, workspace)
    | (.ok _, workspace) => workspace.startServer command

/-- An editor no longer shows its file. The last one to show it closes it. -/
def detach (workspace : Workspace π) (editor : Text) : Except Fault Unit × Workspace π :=
  let key := Text.strip editor
  match Table.get? workspace.editors key with
  | none => (.ok (), workspace)
  | some path =>
    let workspace := { workspace with editors := Table.remove workspace.editors key }
    let count := workspace.countOf path - 1
    if count > 0 then
      (.ok (), { workspace with counts := Table.put workspace.counts path count })
    else
      let workspace := { workspace with counts := Table.remove workspace.counts path }
      match workspace.session.didClose (ofPath path) with
      | (.error fault, session) => (.error fault, { workspace with session })
      | (.ok _, session) =>
        (.ok (), { workspace with session := session.emit (.diagnostics path []) })

/-- Give the text of a file to the session. -/
def change (workspace : Workspace π) (path text : Text) :
    Except Fault Int × Workspace π :=
  let (version, session) := workspace.session.didChange (ofPath path) text
  (version, { workspace with session })

/-- Show a file of a language whose server runs: open it, or give it the new text if it is
    open for another editor. Says whether the server was told, in so far as it had to open
    the file. -/
def place (workspace : Workspace π) (key path text : Text) (language : Language) :
    Except Fault Bool × Workspace π :=
  let count := workspace.countOf path
  let workspace := { workspace with
    editors := Table.put workspace.editors key path
    counts := Table.put workspace.counts path (count + 1) }
  if count > 0 && workspace.session.documents.isOpen path then
    let (version, workspace) := workspace.change path text
    (version.map fun _ => true, workspace)
  else
    let (opened, session) := workspace.session.didOpen (ofPath path) text language.name
    (opened, { workspace with session })

/-- Show a file that no editor of this name shows yet. -/
def showNew (workspace : Workspace π) (key path text : Text) :
    Except Fault Bool × Workspace π :=
  match Languages.forPath? workspace.languages path with
  | none => (.ok false, workspace)
  | some language =>
    if !language.hasServer then (.ok false, workspace)
    else match workspace.ensureServer language.command with
      | (.ok true, workspace) => workspace.place key path text language
      | unserved => unserved

/-- An editor shows a file. Says whether the file is known to a server. -/
def attach (workspace : Workspace π) (editor path text : Text) :
    Except Fault Bool × Workspace π :=
  let key := Text.strip editor
  if key.isEmpty then (.ok false, workspace)
  else match Table.get? workspace.editors key with
    | none => workspace.showNew key path text
    | some shown =>
      if shown = path then (.ok (workspace.session.documents.isOpen path), workspace)
      else match workspace.detach key with
        | (.error fault, workspace) => (.error fault, workspace)
        | (.ok _, workspace) => workspace.showNew key path text

/-- The text of a file was changed. Gives the version, 0 if no server was told. -/
def documentChanged (workspace : Workspace π) (path text : Text) :
    Except Fault Int × Workspace π :=
  if !workspace.isShown path then (.ok 0, workspace) else workspace.change path text

/-- Note where the pointer is, if an editor shows the file. -/
def scheduleHover (workspace : Workspace π) (path : Text) (target : HoverTarget π) :
    Except Fault Unit × Workspace π :=
  if !workspace.isShown path then (.ok (), workspace)
  else
    let (result, session) := workspace.session.scheduleHover target
    (result, { workspace with session })

def clearHover (workspace : Workspace π) : Workspace π :=
  { workspace with session := workspace.session.clearHover }

/-- Ask for completions, if an editor shows the file. A character that brought it about
    counts as the reason. -/
def requestCompletion (workspace : Workspace π) (path : Text) (line col : Int)
    (trigger : Text) : Except Fault Nat × Workspace π :=
  if !workspace.isShown path then (.ok 0, workspace)
  else
    let kind := if trigger.isEmpty then 1 else 2
    let (number, session) :=
      workspace.session.requestCompletion (ofPath path) line col trigger kind
    (number, { workspace with session })

def shutdown (workspace : Workspace π) : Except Fault Unit × Workspace π :=
  let workspace := workspace.clearAllDiagnostics
  let (stopped, session) := workspace.session.stop
  (stopped, { workspace with editors := [], counts := [], active := "", session })

end Workspace

end LanguageClient
