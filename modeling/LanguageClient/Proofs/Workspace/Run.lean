import LanguageClient.Proofs.Session.Openness
import LanguageClient.Proofs.Text.Blank
import LanguageClient.Workspace

/-! # Runs of a workspace

A run is any sequence of calls of a workspace, with anything in between that leaves the
documents of its session alone: the time passes, the server is listened to, and the outside may
do what it likes. No other call reaches the session, so that only the workspace starts and stops
servers and opens, changes and closes documents. To the session every call is a chain of turns.
-/

namespace LanguageClient

/-- What happens to a session without regard to the documents of its host. -/
def Session.Action.isAmbient {π : Type} : Session.Action π → Bool
  | .tick => true
  | .processAvailable => true
  | .updateSettings _ => true
  | .setLogTraffic _ => true
  | .setClock _ => true
  | .setLauncher _ => true
  | .prepareWrites .. => true
  | .takeWritesAs .. => true
  | .arrive _ => true
  | .hangUp => true
  | .failRead => true
  | .interruptRead => true
  | _ => false

namespace Workspace

theorem isAmbient_hangUp : (Session.Action.hangUp : Session.Action Text).isAmbient = true := rfl

theorem isAmbient_processAvailable :
    (Session.Action.processAvailable : Session.Action Text).isAmbient = true := rfl

/-- What the host does with a workspace, and what happens around it. -/
inductive Action where
  | attach (editor path text : Text)
  | detach (editor : Text)
  | documentChanged (path text : Text)
  | scheduleHover (path : Text) (target : HoverTarget Text)
  | clearHover
  | requestCompletion (path : Text) (line col : Int) (trigger : Text)
  | clearAllDiagnostics
  | shutdown
  | around (action : Session.Action Text) (ambient : action.isAmbient = true)

variable [Host]

/-- The workspace behind an action, whatever the call gives back. -/
def perform (workspace : Workspace Text) : Action → Workspace Text
  | .attach editor path text => (workspace.attach editor path text).2
  | .detach editor => (workspace.detach editor).2
  | .documentChanged path text => (workspace.documentChanged path text).2
  | .scheduleHover path target => (workspace.scheduleHover path target).2
  | .clearHover => workspace.clearHover
  | .requestCompletion path line col trigger =>
    (workspace.requestCompletion path line col trigger).2
  | .clearAllDiagnostics => workspace.clearAllDiagnostics
  | .shutdown => workspace.shutdown.2
  | .around action _ => { workspace with session := workspace.session.perform action }

/-- The workspaces that runs lead to. -/
inductive Reachable : Workspace Text → Prop where
  | fresh (processId : Int) (folder root : Text) (languages : Languages) :
      Reachable { session := { processId, folder }, languages, root }
  | perform {workspace : Workspace Text} (before : Reachable workspace) (action : Action) :
      Reachable (workspace.perform action)

/-! ## Starts -/

/-- The workspace whose files were let go, with a stop of its server that may not be gone through
    with. -/
def letGo (workspace : Workspace Text) : Workspace Text :=
  { workspace.forgetFiles with session := workspace.forgetFiles.session.stop.2 }

/-- The stop that letting files go ends in. -/
theorem letGo_stopping (workspace : Workspace Text) :
    Session.Stopping workspace.clearAllDiagnostics.session
      (workspace.clearAllDiagnostics.session.stop.1, workspace.letGo.session) :=
  Session.stopping _

theorem leaveServer_of_running {workspace : Workspace Text}
    (running : workspace.session.isRunning = true) :
    workspace.leaveServer =
      (workspace.clearAllDiagnostics.session.stop.1, workspace.letGo) := by
  unfold leaveServer
  rw [if_pos running]
  rfl

theorem startServer_fst (workspace : Workspace Text) (command : Text) :
    (workspace.startServer command).1 =
      (workspace.session.start command workspace.root).1 := by
  unfold startServer
  generalize workspace.session.start command workspace.root = result
  obtain ⟨started, _⟩ := result
  cases started <;> rfl

theorem startServer_session (workspace : Workspace Text) (command : Text) :
    (workspace.startServer command).2.session =
      (workspace.session.start command workspace.root).2 := by
  unfold startServer
  generalize workspace.session.start command workspace.root = result
  obtain ⟨started, _⟩ := result
  cases started <;> rfl

/-- A start shows and hides nothing. -/
theorem startServer_kept (workspace : Workspace Text) (command : Text) :
    (workspace.startServer command).2.editors = workspace.editors ∧
      (workspace.startServer command).2.counts = workspace.counts ∧
      (workspace.startServer command).2.languages = workspace.languages := by
  unfold startServer
  generalize workspace.session.start command workspace.root = result
  obtain ⟨started, _⟩ := result
  cases started <;> exact ⟨rfl, rfl, rfl⟩

/-- What it takes for the server of a command to run: nothing if it runs, a start if none
    runs, and to let another one go before, which may keep running all the same if it cannot be told
    to stop. -/
inductive Ensuring (workspace : Workspace Text) (command : Text) :
    Except Fault Bool × Workspace Text → Prop where
  | kept (running : workspace.session.isRunning = true) (same : command = workspace.active) :
      Ensuring workspace command (.ok true, workspace)
  | launched (idle : workspace.session.isRunning = false) :
      Ensuring workspace command (workspace.startServer command)
  | unleft {fault : Fault} (running : workspace.session.isRunning = true)
      (other : command ≠ workspace.active)
      (unstopped : workspace.clearAllDiagnostics.session.stop.1 = .error fault) :
      Ensuring workspace command (.error fault, workspace.letGo)
  | switched (running : workspace.session.isRunning = true)
      (other : command ≠ workspace.active)
      (stopped : workspace.clearAllDiagnostics.session.stop.1 = .ok ()) :
      Ensuring workspace command (workspace.letGo.startServer command)

theorem ensuring (workspace : Workspace Text) (command : Text) :
    Ensuring workspace command (workspace.ensureServer command) := by
  unfold ensureServer
  cases running : workspace.session.isRunning with
  | false =>
      have stays : workspace.leaveServer = (.ok (), workspace) := by
        rw [leaveServer, if_neg (Bool.eq_false_iff.mp running)]
      rw [stays]
      exact .launched running
  | true =>
      by_cases same : command = workspace.active
      · rw [if_pos (by simpa using same)]
        exact .kept running same
      · rw [if_neg (by simpa using same), leaveServer_of_running running]
        cases stopped : workspace.clearAllDiagnostics.session.stop.1 with
        | error fault => exact .unleft running same stopped
        | ok _ => exact .switched running same stopped

/-! ## Hiding and showing files -/

/-- The workspace of which an editor no longer shows a file, which it was the last to show. -/
def closing (workspace : Workspace Text) (editor path : Text) (session : Session Text) :
    Workspace Text :=
  { workspace with
    editors := Table.remove workspace.editors (Text.strip editor)
    counts := Table.remove workspace.counts path
    session }

/-- What it comes to that an editor no longer shows its file: nothing if it shows none, and only
    the last editor of a file closes it. The diagnostics of the file are taken back unless the
    closing faults. -/
inductive Detaching (workspace : Workspace Text) (editor : Text) :
    Except Fault Unit × Workspace Text → Prop where
  | unknown (absent : workspace.pathFor? editor = none) :
      Detaching workspace editor (.ok (), workspace)
  | hidden {path : Text} (found : workspace.pathFor? editor = some path)
      (others : workspace.countOf path - 1 > 0) :
      Detaching workspace editor (.ok (), { workspace with
        editors := Table.remove workspace.editors (Text.strip editor)
        counts := Table.put workspace.counts path (workspace.countOf path - 1) })
  | unclosed {path : Text} {fault : Fault} (found : workspace.pathFor? editor = some path)
      (last : ¬ workspace.countOf path - 1 > 0)
      (withheld : (workspace.session.didClose path).1 = .error fault) :
      Detaching workspace editor
        (.error fault, workspace.closing editor path (workspace.session.didClose path).2)
  | closed {path : Text} (found : workspace.pathFor? editor = some path)
      (last : ¬ workspace.countOf path - 1 > 0) :
      Detaching workspace editor
        (.ok (), workspace.closing editor path
          ((workspace.session.didClose path).2.emit (.diagnostics path [])))

theorem detaching (workspace : Workspace Text) (editor : Text) :
    Detaching workspace editor (workspace.detach editor) := by
  simp only [detach]
  split
  · next absent => exact .unknown absent
  · next path found =>
    split
    · next others => exact .hidden found others
    · next last =>
      have closes : DocumentName.ofPath (π := Text) path = path := DocumentName.ofPath_path path
      rw [closes]
      generalize closing : workspace.session.didClose path = result
      obtain ⟨closed, session⟩ := result
      cases closed with
      | error fault =>
          have unclosed := @Detaching.unclosed _ workspace editor path fault found last
            (congrArg Prod.fst closing)
          rw [closing] at unclosed
          exact unclosed
      | ok _ =>
          have closed := @Detaching.closed _ workspace editor path found last
          rw [closing] at closed
          exact closed

theorem Detaching.absent {workspace : Workspace Text} {editor : Text}
    {outcome : Except Fault Unit × Workspace Text}
    (detaching : Detaching workspace editor outcome) :
    outcome.2.pathFor? editor = none := by
  cases detaching with
  | unknown absent => exact absent
  | hidden found others => exact Table.get?_remove_self _ _
  | unclosed found last withheld => exact Table.get?_remove_self _ _
  | closed found last => exact Table.get?_remove_self _ _

theorem detach_strip (workspace : Workspace Text) (editor : Text) :
    workspace.detach (Text.strip editor) = workspace.detach editor := by
  unfold detach
  rw [Text.strip_strip]

theorem detach_of_unknown {workspace : Workspace Text} {editor : Text}
    (unknown : workspace.pathFor? editor = none) :
    workspace.detach editor = (.ok (), workspace) := by
  have absent : Table.get? workspace.editors (Text.strip editor) = none := unknown
  simp only [detach, absent]

/-- What it comes to that an editor shows a file: nothing if it has no name or shows the file
    already; else another file that it shows goes first, where that can fault. -/
inductive Attaching (workspace : Workspace Text) (editor path text : Text) :
    Except Fault Bool × Workspace Text → Prop where
  | nameless (blank : Text.strip editor = "") :
      Attaching workspace editor path text (.ok false, workspace)
  | again (known : workspace.pathFor? editor = some path) :
      Attaching workspace editor path text
        (.ok (workspace.session.documents.isOpen path), workspace)
  | unhidden {fault : Fault} (other : workspace.pathFor? editor ≠ some path)
      (stuck : (workspace.detach editor).1 = .error fault) :
      Attaching workspace editor path text (.error fault, (workspace.detach editor).2)
  | anew (other : workspace.pathFor? editor ≠ some path)
      (hidden : (workspace.detach editor).1 = .ok ()) :
      Attaching workspace editor path text
        ((workspace.detach editor).2.showNew (Text.strip editor) path text)

theorem attaching (workspace : Workspace Text) (editor path text : Text) :
    Attaching workspace editor path text (workspace.attach editor path text) := by
  simp only [attach]
  split
  · next blank => exact .nameless (Text.isEmpty_iff.mp blank)
  · split
    · next unknown =>
      have missing : workspace.pathFor? editor = none := unknown
      have other : workspace.pathFor? editor ≠ some path := by
        rw [missing]
        exact nofun
      have anew := @Attaching.anew _ workspace editor path text other
      rw [detach_of_unknown missing] at anew
      exact anew rfl
    · next shown found =>
      have known : workspace.pathFor? editor = some shown := found
      split
      · next same =>
        rw [same] at known
        exact .again known
      · next different =>
        have other : workspace.pathFor? editor ≠ some path := by
          rw [known]
          exact fun same => different (Option.some.inj same)
        rw [detach_strip]
        generalize hides : workspace.detach editor = result
        obtain ⟨hidden, next⟩ := result
        cases hidden with
        | error fault =>
            have unhidden := @Attaching.unhidden _ workspace editor path text fault other
              (congrArg Prod.fst hides)
            rw [hides] at unhidden
            exact unhidden
        | ok _ =>
            have anew := @Attaching.anew _ workspace editor path text other
              (congrArg Prod.fst hides)
            rw [hides] at anew
            exact anew

/-- What it comes to that an editor is to show a file that it does not show: nothing if the file
    has no server, and else what it takes for the server to run, behind which the file is shown
    if it does. -/
inductive Showing (workspace : Workspace Text) (key path text : Text) :
    Except Fault Bool × Workspace Text → Prop where
  | unserved : Showing workspace key path text (.ok false, workspace)
  | refused {command : Text} {served : Except Fault Bool} {hosting : Workspace Text}
      (ensuring : Ensuring workspace command (served, hosting)) (unserved : served ≠ .ok true) :
      Showing workspace key path text (served, hosting)
  | placed {language : Language} {hosting : Workspace Text}
      (spoken : Languages.forPath? workspace.languages path = some language)
      (served : language.hasServer = true)
      (ensuring : Ensuring workspace language.command (.ok true, hosting)) :
      Showing workspace key path text (hosting.place key path text language)

theorem showing (workspace : Workspace Text) (key path text : Text) :
    Showing workspace key path text (workspace.showNew key path text) := by
  unfold showNew
  split
  · exact .unserved
  · next language spoken =>
    split
    · exact .unserved
    · next served =>
      have ensured := ensuring workspace language.command
      split
      · next ready => exact .placed spoken (by simpa using served) (ready ▸ ensured)
      · next failed =>
        exact .refused ensured fun ready => failed _ (Prod.ext ready rfl)

/-! ## Calls -/

/-- What becomes of the session where a call is handed on to it: nothing if it is about a file
    that no editor shows. -/
inductive Relaying (workspace : Workspace Text) : Session Text → Prop where
  | withheld : Relaying workspace workspace.session
  | didChange {path : Text} (shown : workspace.isShown path = true) (text : Text) :
      Relaying workspace (workspace.session.didChange path text).2
  | scheduleHover (target : HoverTarget Text) :
      Relaying workspace (workspace.session.scheduleHover target).2
  | clearHover : Relaying workspace workspace.session.clearHover
  | requestCompletion (path : Text) (line col : Int) (trigger : Text) (triggerKind : Int) :
      Relaying workspace
        (workspace.session.requestCompletion path line col trigger triggerKind).2

/-- What the calls of a workspace come to. -/
inductive Performing (workspace : Workspace Text) : Action → Workspace Text → Prop where
  | attach (editor path text : Text) :
      Performing workspace (.attach editor path text) (workspace.attach editor path text).2
  | detach (editor : Text) :
      Performing workspace (.detach editor) (workspace.detach editor).2
  | relayed {action : Action} {session : Session Text} (relaying : Relaying workspace session) :
      Performing workspace action { workspace with session }
  | clearAllDiagnostics :
      Performing workspace .clearAllDiagnostics workspace.clearAllDiagnostics
  | shutdown : Performing workspace .shutdown workspace.shutdown.2
  | around (action : Session.Action Text) (ambient : action.isAmbient = true) :
      Performing workspace (.around action ambient)
        { workspace with session := workspace.session.perform action }

theorem performing (workspace : Workspace Text) (action : Action) :
    Performing workspace action (workspace.perform action) := by
  cases action with
  | attach editor path text => exact .attach editor path text
  | detach editor => exact .detach editor
  | documentChanged path text =>
      simp only [perform, documentChanged]
      split
      · exact .relayed .withheld
      · next shown => exact .relayed (.didChange (by simpa using shown) text)
  | scheduleHover path target =>
      simp only [perform, scheduleHover]
      split
      · exact .relayed .withheld
      · exact .relayed (.scheduleHover target)
  | clearHover => exact .relayed .clearHover
  | requestCompletion path line col trigger =>
      simp only [perform, requestCompletion]
      split
      · exact .relayed .withheld
      · exact .relayed (.requestCompletion path line col trigger _)
  | clearAllDiagnostics => exact .clearAllDiagnostics
  | shutdown => exact .shutdown
  | around action ambient => exact .around action ambient

/-! ## What calls are to the session -/

open Session (Plains Hearings Turns deeds_of_plains turns_of_hearings hearings_of_plains)

theorem turns_of_plains {before after : Session Text} (plains : Plains before after) :
    Turns before after :=
  turns_of_hearings (hearings_of_plains plains)

theorem hearings_of_ambient (session : Session Text) {action : Session.Action Text}
    (ambient : action.isAmbient = true) : Hearings session (session.perform action) := by
  cases action with
  | processAvailable => exact session.processAvailable_hearings
  | didOpen name text languageId => exact absurd ambient nofun
  | _ => exact hearings_of_plains (session.perform_plains nofun nofun)

theorem clearDiagnosticsOf_plains (session : Session Text) (paths : List Text) :
    Plains session (clearDiagnosticsOf session paths) := by
  induction paths generalizing session with
  | nil => exact .refl
  | cons path rest ih => exact .head (.publish session path []) (ih _)

theorem letGo_plains (workspace : Workspace Text) :
    Plains workspace.session workspace.letGo.session :=
  (clearDiagnosticsOf_plains workspace.session _).tail (.stop _)

theorem startServer_plains (workspace : Workspace Text) (command : Text) :
    Plains workspace.session (workspace.startServer command).2.session := by
  rw [startServer_session]
  exact .single (.start workspace.session command workspace.root)

theorem Ensuring.plains {workspace : Workspace Text} {command : Text}
    {outcome : Except Fault Bool × Workspace Text} (ensuring : Ensuring workspace command outcome) :
    Plains workspace.session outcome.2.session := by
  cases ensuring with
  | kept running same => exact .refl
  | launched idle => exact startServer_plains workspace command
  | unleft running other unstopped => exact letGo_plains workspace
  | switched running other stopped =>
      exact (letGo_plains workspace).trans (startServer_plains workspace.letGo command)

theorem Detaching.plains {workspace : Workspace Text} {editor : Text}
    {outcome : Except Fault Unit × Workspace Text}
    (detaching : Detaching workspace editor outcome) :
    Plains workspace.session outcome.2.session := by
  cases detaching with
  | unknown absent => exact .refl
  | hidden found others => exact .refl
  | @unclosed path fault found last withheld => exact .single (.didClose workspace.session path)
  | @closed path found last =>
      exact (Relation.ReflTransGen.single (.didClose workspace.session path)).tail
        (.publish _ path [])

theorem Relaying.plains {workspace : Workspace Text} {session : Session Text}
    (relaying : Relaying workspace session) : Plains workspace.session session := by
  cases relaying with
  | withheld => exact .refl
  | @didChange path shown text => exact workspace.session.didChange_plains path text
  | scheduleHover target => exact .single (.scheduleHover workspace.session target)
  | clearHover => exact .single (.clearHover workspace.session)
  | requestCompletion path line col trigger triggerKind =>
      exact .single (.requestCompletion workspace.session path line col trigger triggerKind)

theorem place_turns (workspace : Workspace Text) (key path text : Text)
    (language : Language) :
    Turns workspace.session (workspace.place key path text language).2.session := by
  simp only [place]
  split
  · exact turns_of_plains (workspace.session.didChange_plains path text)
  · exact .single (.didOpen workspace.session path text language.name)

theorem showNew_turns (workspace : Workspace Text) (key path text : Text) :
    Turns workspace.session (workspace.showNew key path text).2.session := by
  have outcome := showing workspace key path text
  generalize workspace.showNew key path text = result at outcome ⊢
  cases outcome with
  | unserved => exact .refl
  | refused ensuring unserved => exact turns_of_plains ensuring.plains
  | placed spoken served ensuring =>
      exact (turns_of_plains ensuring.plains).trans (place_turns _ key path text _)

theorem attach_turns (workspace : Workspace Text) (editor path text : Text) :
    Turns workspace.session (workspace.attach editor path text).2.session := by
  have outcome := attaching workspace editor path text
  generalize workspace.attach editor path text = result at outcome ⊢
  cases outcome with
  | nameless blank => exact .refl
  | again known => exact .refl
  | unhidden other stuck => exact turns_of_plains (detaching workspace editor).plains
  | anew other hidden =>
      exact (turns_of_plains (detaching workspace editor).plains).trans
        (showNew_turns (workspace.detach editor).2 (Text.strip editor) path text)

/-- To the session every call is a chain of turns. -/
theorem perform_turns (workspace : Workspace Text) (action : Action) :
    Turns workspace.session (workspace.perform action).session := by
  have outcome := performing workspace action
  generalize workspace.perform action = next at outcome ⊢
  cases outcome with
  | attach editor path text => exact attach_turns workspace editor path text
  | detach editor => exact turns_of_plains (detaching workspace editor).plains
  | relayed relaying => exact turns_of_plains relaying.plains
  | clearAllDiagnostics => exact turns_of_plains (clearDiagnosticsOf_plains workspace.session _)
  | shutdown => exact turns_of_plains (letGo_plains workspace)
  | around action ambient => exact workspace.session.perform_turns action

/-- What holds of a session before the first call and is kept by every move holds of the session
    of every workspace. -/
theorem Reachable.sessionInduction {motive : Session Text → Prop}
    (fresh : ∀ (processId : Int) (folder : Text), motive { processId, folder })
    (move : ∀ {before after : Session Text}, Session.Move before after →
      motive before → motive after)
    {workspace : Workspace Text} (reachable : Reachable workspace) :
    motive workspace.session := by
  induction reachable with
  | fresh processId folder root languages => exact fresh processId folder
  | perform _ action kept =>
      exact Session.keep_of_chain @move (Session.moves_of_turns (perform_turns _ action)) kept

end Workspace

end LanguageClient
