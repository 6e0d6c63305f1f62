import LanguageClient.Proofs.Session.Calls
import LanguageClient.Session.Lifecycle
import Mathlib.Logic.Relation

/-! # Runs of a session

A run is any sequence of calls of the host, with anything that the outside may do in between:
the clock shows another time, programs can be started or not, a server writes, hangs up or
takes writes in another way. A call that faults leaves the session as it is then, and the run
goes on from there.

Every call is a chain of moves that contain no loop. What holds of a session before its first
call and is kept by every move holds after every run. Where nothing may come between two moves
the chain is one of turns: the opening of a document is a single turn with all that belongs to
it, and every other move is a turn by itself. Only one call opens documents, and only the one
that takes what the server has written takes responses.
-/

namespace LanguageClient.Session

variable {π : Type}

/-- What is read from the server next, behind all that waits already. -/
def deliver (session : Session π) (outcome : ReadOutcome) : Session π :=
  session.changePeer fun peer => { peer with incoming := peer.incoming ++ [outcome] }

/-- From now on the server takes what is written to it in this way. -/
def takeWritesAs (session : Session π) (writes : List WriteOutcome) (flushes : List Bool) :
    Session π :=
  session.changePeer fun peer => { peer with writes, flushes }

/-- The next server takes what is written to it in this way. -/
def prepareWrites (session : Session π) (writes : List WriteOutcome) (flushes : List Bool) :
    Session π :=
  { session with nextPeer := { writes, flushes } }

def settings (session : Session π) : SessionSettings where
  hoverDelay := session.hover.delay
  hoverTimeout := session.hover.timeout
  tokenDelay := session.refresh.delay
  shutdownTimeout := session.shutdownTimeout
  logTraffic := session.logTraffic

/-- What the host does with a session, and what the outside does around it. -/
inductive Action (π : Type) where
  | start (command root : Text)
  | stop
  | didOpen (name : π) (text languageId : Text)
  | didChange (name : π) (text : Text)
  | didClose (name : π)
  | requestSemanticTokens (name : π)
  | requestHover (name : π) (line col : Int)
  | requestCompletion (name : π) (line col : Int) (trigger : Text) (triggerKind : Int)
  | scheduleHover (target : HoverTarget π)
  | clearHover
  | tick
  | processAvailable
  | updateSettings (settings : Json)
  | setLogTraffic (enabled : Bool)
  | setClock (now : Moment)
  | setLauncher (launcher : Launcher)
  | prepareWrites (writes : List WriteOutcome) (flushes : List Bool)
  | takeWritesAs (writes : List WriteOutcome) (flushes : List Bool)
  | arrive (bytes : List UInt8)
  | hangUp
  | failRead
  | interruptRead

variable [BEq π] [DocumentName π] [Host]

/-- The session behind an action, whatever the call gives back. -/
def perform (session : Session π) : Action π → Session π
  | .start command root => (session.start command root).2
  | .stop => session.stop.2
  | .didOpen name text languageId => (session.didOpen name text languageId).2
  | .didChange name text => (session.didChange name text).2
  | .didClose name => (session.didClose name).2
  | .requestSemanticTokens name => (session.requestSemanticTokens name).2
  | .requestHover name line col => (session.requestHover name line col).2
  | .requestCompletion name line col trigger triggerKind =>
    (session.requestCompletion name line col trigger triggerKind).2
  | .scheduleHover target => (session.scheduleHover target).2
  | .clearHover => session.clearHover
  | .tick => session.tick.2
  | .processAvailable => session.processAvailable.2
  | .updateSettings settings => (session.updateSettings settings).2
  | .setLogTraffic enabled => { session with logTraffic := enabled }
  | .setClock now => { session with now }
  | .setLauncher launcher => { session with launcher }
  | .prepareWrites writes flushes => session.prepareWrites writes flushes
  | .takeWritesAs writes flushes => session.takeWritesAs writes flushes
  | .arrive bytes => session.arrive bytes
  | .hangUp => session.hangUp
  | .failRead => session.deliver .fails
  | .interruptRead => session.deliver .interrupted

/-- The sessions that runs lead to. -/
inductive Reachable : Session π → Prop where
  | fresh (processId : Int) (folder : Text) : Reachable { processId, folder }
  | perform {session : Session π} (before : Reachable session) (action : Action π) :
      Reachable (session.perform action)

/-! ## Moves -/

def receive (session : Session π) (connection : Connection) : Session π :=
  let received := connection.transport.poll connection.peer.incoming
  { session with connection := some { connection with
    transport := received.transport
    peer := { connection.peer with incoming := received.rest } } }

/-- One thing that a session does or that happens to it and that stands by itself. -/
inductive Plain : Session π → Session π → Prop where
  | surround (session : Session π) (now : Moment) (launcher : Launcher)
      (settings : SessionSettings) :
      Plain session ({ session with now, launcher }.configure settings)
  | prepareWrites (session : Session π) (writes : List WriteOutcome) (flushes : List Bool) :
      Plain session (session.prepareWrites writes flushes)
  | takeWritesAs (session : Session π) (writes : List WriteOutcome) (flushes : List Bool) :
      Plain session (session.takeWritesAs writes flushes)
  | deliver (session : Session π) {outcome : ReadOutcome} (given : outcome ≠ .wouldBlock) :
      Plain session (session.deliver outcome)
  | start (session : Session π) (command root : Text) :
      Plain session (session.start command root).2
  | stop (session : Session π) : Plain session session.stop.2
  | change {session : Session π} {path text : Text} {document : Document} {params : Json}
      {documents : DocumentStore} (running : session.isRunning = true)
      (changed : session.documents.change path text = (some (document, params), documents)) :
      Plain session ({ session with documents }.notify "textDocument/didChange" params).2
  | noteChange {session next : Session π} {name : π}
      (noted : session.noteChange name = .ok next) : Plain session next
  | didClose (session : Session π) (name : π) : Plain session (session.didClose name).2
  | requestSemanticTokens (session : Session π) (name : π) :
      Plain session (session.requestSemanticTokens name).2
  | requestHover (session : Session π) (name : π) (line col : Int) :
      Plain session (session.requestHover name line col).2
  | requestCompletion (session : Session π) (name : π) (line col : Int) (trigger : Text)
      (triggerKind : Int) :
      Plain session (session.requestCompletion name line col trigger triggerKind).2
  | scheduleHover (session : Session π) (target : HoverTarget π) :
      Plain session (session.scheduleHover target).2
  | clearHover (session : Session π) : Plain session session.clearHover
  | dueTokens {session : Session π} {now : Moment} {names : List π} {refresh : TokenRefresh π}
      (due : session.refresh.due now = .ok (names, refresh)) :
      Plain session { session with refresh }
  | dueHover {session : Session π} {now : Moment} {target : HoverTarget π}
      {hover : HoverSchedule π (HoverTarget π)}
      (due : session.hover.due now = .ok (some target, hover)) :
      Plain session { session with hover }
  | expireHover {session next : Session π} {now : Moment}
      (expired : session.expireHover now = .ok next) : Plain session next
  | receive {session : Session π} {connection : Connection}
      (running : session.connection = some connection) :
      Plain session (session.receive connection)
  | logMessage (session : Session π) (direction : Direction) (message : Json) :
      Plain session (session.logMessage direction message)
  | refuse (session : Session π) (id : Json) (method : Text) :
      Plain session (session.send (Message.refusal id method)).2
  | publish (session : Session π) (path : Text) (items : List Diagnostic) :
      Plain session (session.emit (.diagnostics path items))
  | serverExited {session : Session π} (running : session.isRunning = true) :
      Plain session (session.disable "language server exited")

/-- One thing that a session does or that happens to it. -/
inductive Move : Session π → Session π → Prop where
  | plain {before after : Session π} (plain : Plain before after) : Move before after
  | openDocument {session : Session π} {path text languageId : Text} {params : Json}
      {documents : DocumentStore} (running : session.isRunning = true)
      (opened : session.documents.openDocument path text languageId = (some params, documents)) :
      Move session ({ session with documents }.notify "textDocument/didOpen" params).2
  | confirmHandshake (session : Session π) : Move session session.confirmHandshake.2
  | takeResponse (session : Session π) (message : Json) :
      Move session (session.takeResponse message)

abbrev Moves : Session π → Session π → Prop := Relation.ReflTransGen Move

abbrev Plains : Session π → Session π → Prop := Relation.ReflTransGen Plain

/-- A plain move, or a response that is taken. -/
inductive Hearing : Session π → Session π → Prop where
  | plain {before after : Session π} (plain : Plain before after) : Hearing before after
  | takeResponse (session : Session π) (message : Json) :
      Hearing session (session.takeResponse message)

abbrev Hearings : Session π → Session π → Prop := Relation.ReflTransGen Hearing

/-- A plain move, or the opening of a document with all that belongs to it. -/
inductive Deed : Session π → Session π → Prop where
  | plain {before after : Session π} (plain : Plain before after) : Deed before after
  | didOpen (session : Session π) (name : π) (text languageId : Text) :
      Deed session (session.didOpen name text languageId).2

abbrev Deeds : Session π → Session π → Prop := Relation.ReflTransGen Deed

inductive Turn : Session π → Session π → Prop where
  | hearing {before after : Session π} (hearing : Hearing before after) : Turn before after
  | didOpen (session : Session π) (name : π) (text languageId : Text) :
      Turn session (session.didOpen name text languageId).2

abbrev Turns : Session π → Session π → Prop := Relation.ReflTransGen Turn

theorem hearings_of_plains {before after : Session π} (plains : Plains before after) :
    Hearings before after :=
  Relation.ReflTransGen.mono (fun _ _ => .plain) _ _ plains

theorem deeds_of_plains {before after : Session π} (plains : Plains before after) :
    Deeds before after :=
  Relation.ReflTransGen.mono (fun _ _ => .plain) _ _ plains

theorem turns_of_hearings {before after : Session π} (hearings : Hearings before after) :
    Turns before after :=
  Relation.ReflTransGen.mono (fun _ _ => .hearing) _ _ hearings

theorem turns_of_deeds {before after : Session π} (deeds : Deeds before after) :
    Turns before after := by
  apply Relation.ReflTransGen.mono _ _ _ deeds
  intro before after deed
  cases deed with
  | plain plain => exact .hearing (.plain plain)
  | didOpen name text languageId => exact .didOpen before name text languageId

omit [BEq π] [DocumentName π] [Host] in
theorem eq_none_of_isRunning {session : Session π} (idle : session.isRunning = false) :
    session.connection = none :=
  Option.isNone_iff_eq_none.mp (by rw [← Option.not_isSome, Bool.not_eq_true']; exact idle)

theorem didOpen_moves (session : Session π) (name : π) (text languageId : Text) :
    Moves session (session.didOpen name text languageId).2 := by
  have outcome := opening session name text languageId
  generalize session.didOpen name text languageId = result at outcome ⊢
  cases outcome with
  | unsaid silent => exact .refl
  | unsent running opened failed unsent =>
      have told := Move.openDocument running opened
      rw [notify, failed] at told
      exact .single told
  | unconfirmed running opened sent withheld =>
      have told := Move.openDocument running opened
      rw [notify, sent] at told
      exact (Relation.ReflTransGen.single told).tail (.confirmHandshake _)
  | told running opened sent confirmed =>
      have told := Move.openDocument running opened
      rw [notify, sent] at told
      exact ((Relation.ReflTransGen.single told).tail (.confirmHandshake _)).tail
        (.plain (.requestSemanticTokens _ name))

theorem didChange_plains (session : Session π) (name : π) (text : Text) :
    Plains session (session.didChange name text).2 := by
  have told {document : Document} {params : Json} {documents : DocumentStore}
      {sent : Except Fault Bool} {next : Session π} (running : session.isRunning = true)
      (changed : session.documents.change (session.documents.pathOf name) text =
        (some (document, params), documents))
      (outcome : { session with documents }.send
        (Message.notification "textDocument/didChange" params) = (sent, next)) :
      Plains session next := by
    have told := Plain.change running changed
    rw [notify, outcome] at told
    exact .single told
  have outcome := changing session name text
  generalize session.didChange name text = result at outcome ⊢
  cases outcome with
  | unsaid silent => exact .refl
  | unsent running changed failed unsent => exact told running changed failed
  | unnoted running changed sent refused => exact told running changed sent
  | told running changed sent noted => exact (told running changed sent).tail (.noteChange noted)

theorem refreshDue_plains (session : Session π) (now : Moment) :
    Plains session (session.refreshDue now).2 :=
  refreshDue_keeps (motive := Plains session) .refl now (fun due => .single (.dueTokens due))
    fun name chain => chain.tail (.requestSemanticTokens _ name)

theorem askDueHover_plains (session : Session π) (now : Moment) :
    Plains session (session.askDueHover now).2 :=
  askDueHover_keeps (motive := Plains session) .refl now (fun due => .single (.dueHover due))
    fun name line col chain => chain.tail (.requestHover _ name line col)

theorem tick_plains (session : Session π) : Plains session session.tick.2 :=
  tick_keeps (motive := Plains session) .refl (fun now _ => refreshDue_plains session now)
    (fun now chain => chain.trans (askDueHover_plains _ now))
    fun chain expired => chain.tail (.expireHover expired)

theorem takeNotice_plains {session next : Session π} {message : Json}
    (taken : session.takeNotice message = .ok next) : Plains session next := by
  unfold takeNotice at taken
  split at taken
  · next path items noticed =>
    obtain rfl := Except.ok.inj taken
    exact .single (.publish session path items)
  · obtain rfl := Except.ok.inj taken
    exact .refl
  · simp at taken

theorem takeMessage_hearings (session : Session π) (message : Json) :
    Hearings session (session.takeMessage message).2 := by
  unfold takeMessage
  split
  · exact .single (.takeResponse session message)
  · dsimp only
    split
    · exact .refl
    · split
      · exact .single (.plain (.refuse session _ _))
      · split
        · next taken => exact hearings_of_plains (takeNotice_plains taken)
        · exact .refl

theorem takeMessages_hearings (server taken : Nat) (session : Session π) (messages : List Json) :
    Hearings session (takeMessages server taken session messages).2 :=
  takeMessages_keeps (motive := Hearings session) .refl
    (fun message chain => chain.tail (.plain (.logMessage _ .incoming message)))
    (fun message _ chain => chain.trans (takeMessage_hearings _ message)) server taken messages

theorem processAvailable_of_none {session : Session π} (nobody : session.connection = none) :
    session.processAvailable = (.ok 0, session) := by
  unfold processAvailable
  rw [nobody]

theorem processAvailable_of_connection {session : Session π} {connection : Connection}
    (running : session.connection = some connection) :
    session.processAvailable =
      match (connection.transport.poll connection.peer.incoming).messages with
      | .error fault => (.error fault, session.receive connection)
      | .ok messages =>
        match takeMessages connection.server 0 (session.receive connection) messages with
        | (.error fault, session) => (.error fault, session)
        | (.ok taken, session) =>
          if session.isConnectedTo connection.server &&
              (connection.transport.poll connection.peer.incoming).transport.closed then
            (.ok taken, session.disable "language server exited")
          else (.ok taken, session) := by
  unfold processAvailable
  rw [running]
  rfl

/-- A call that takes what a server has written ends with the server where its output ended. -/
theorem processAvailable_keeps {session : Session π} {motive : Session π → Prop}
    (holds : motive session)
    (received : ∀ {connection : Connection}, session.connection = some connection →
      motive (session.receive connection))
    (logged : ∀ {session : Session π} (message : Json), motive session →
      motive (session.logMessage .incoming message))
    (handled : ∀ {session : Session π} (message : Json), session.isRunning = true →
      motive session → motive (session.takeMessage message).2)
    (exited : ∀ {connection : Connection} {last : Session π},
      session.connection = some connection →
      (connection.transport.poll connection.peer.incoming).transport.closed = true →
      last.isRunning = true → motive last → motive (last.disable "language server exited")) :
    motive session.processAvailable.2 := by
  cases running : session.connection with
  | none =>
      rw [processAvailable_of_none running]
      exact holds
  | some connection =>
      rw [processAvailable_of_connection running]
      split
      · exact received running
      · next messages _ =>
        have taken := takeMessages_keeps (received running) logged handled connection.server 0
          messages
        split
        · next faulted =>
          rw [faulted] at taken
          exact taken
        · next done =>
          rw [done] at taken
          split
          · next ended =>
            obtain ⟨connected, closed⟩ := Bool.and_eq_true_iff.mp ended
            exact exited running closed (isRunning_of_isConnectedTo connected) taken
          · exact taken

theorem processAvailable_hearings (session : Session π) :
    Hearings session session.processAvailable.2 :=
  processAvailable_keeps (motive := Hearings session) .refl
    (fun running => .single (.plain (.receive running)))
    (fun message chain => chain.tail (.plain (.logMessage _ .incoming message)))
    (fun message _ chain => chain.trans (takeMessage_hearings _ message))
    fun _ _ running chain => chain.tail (.plain (.serverExited running))

theorem updateSettings_plains (session : Session π) (settings : Json) :
    Plains session (session.updateSettings settings).2 := by
  unfold updateSettings
  split
  · next settings _ =>
    exact .single (.surround session session.now session.launcher settings)
  · exact .refl

/-- Every action but two is a chain of plain moves. -/
theorem perform_plains (session : Session π) {action : Action π}
    (unopened : ∀ name text languageId, action ≠ .didOpen name text languageId)
    (other : action ≠ .processAvailable) : Plains session (session.perform action) := by
  cases action with
  | start command root => exact .single (.start session command root)
  | stop => exact .single (.stop session)
  | didOpen name text languageId => exact absurd rfl (unopened name text languageId)
  | didChange name text => exact didChange_plains session name text
  | didClose name => exact .single (.didClose session name)
  | requestSemanticTokens name => exact .single (.requestSemanticTokens session name)
  | requestHover name line col => exact .single (.requestHover session name line col)
  | requestCompletion name line col trigger triggerKind =>
      exact .single (.requestCompletion session name line col trigger triggerKind)
  | scheduleHover target => exact .single (.scheduleHover session target)
  | clearHover => exact .single (.clearHover session)
  | tick => exact tick_plains session
  | processAvailable => exact absurd rfl other
  | updateSettings settings => exact updateSettings_plains session settings
  | setLogTraffic enabled =>
      exact .single (.surround session session.now session.launcher
        { session.settings with logTraffic := enabled })
  | setClock now =>
      exact .single (.surround session now session.launcher session.settings)
  | setLauncher launcher =>
      exact .single (.surround session session.now launcher session.settings)
  | prepareWrites writes flushes =>
      exact .single (.prepareWrites session writes flushes)
  | takeWritesAs writes flushes =>
      exact .single (.takeWritesAs session writes flushes)
  | arrive bytes =>
      cases bytes with
      | nil => exact .refl
      | cons byte rest => exact .single (.deliver session nofun)
  | hangUp => exact .single (.deliver session nofun)
  | failRead => exact .single (.deliver session nofun)
  | interruptRead => exact .single (.deliver session nofun)

/-- Every action but one is a chain of deeds. -/
theorem perform_deeds (session : Session π) {action : Action π}
    (other : action ≠ .processAvailable) : Deeds session (session.perform action) := by
  cases action with
  | didOpen name text languageId => exact .single (.didOpen session name text languageId)
  | _ => exact deeds_of_plains (perform_plains session nofun other)

/-- Every action is a chain of turns. -/
theorem perform_turns (session : Session π) (action : Action π) :
    Turns session (session.perform action) := by
  by_cases same : action = .processAvailable
  · rw [same]
    exact turns_of_hearings (processAvailable_hearings session)
  · exact turns_of_deeds (perform_deeds session same)

theorem Turn.moves {before after : Session π} (turn : Turn before after) :
    Moves before after := by
  cases turn with
  | didOpen name text languageId => exact didOpen_moves before name text languageId
  | hearing hearing =>
      cases hearing with
      | plain plain => exact .single (.plain plain)
      | takeResponse message => exact .single (.takeResponse before message)

theorem moves_of_turns {before after : Session π} (turns : Turns before after) :
    Moves before after := by
  induction turns with
  | refl => exact .refl
  | tail _ turn ih => exact ih.trans turn.moves

omit [BEq π] [DocumentName π] [Host] in
/-- What every step of a chain keeps, the chain keeps. -/
theorem keep_of_chain {step : Session π → Session π → Prop} {motive : Session π → Prop}
    (kept : ∀ {before after : Session π}, step before after → motive before → motive after)
    {before after : Session π} (chain : Relation.ReflTransGen step before after)
    (holds : motive before) : motive after := by
  induction chain with
  | refl => exact holds
  | tail _ last kept' => exact kept last kept'

/-- What holds before the first call and is kept by every turn holds after every run. -/
theorem Reachable.turnInduction {motive : Session π → Prop}
    (fresh : ∀ (processId : Int) (folder : Text), motive { processId, folder })
    (turn : ∀ {before after : Session π}, Turn before after → motive before → motive after)
    {session : Session π} (reachable : Reachable session) : motive session := by
  induction reachable with
  | fresh processId folder => exact fresh processId folder
  | perform _ action kept => exact keep_of_chain @turn (perform_turns _ action) kept

/-- What holds before the first call and is kept by every move holds after every run. -/
theorem Reachable.induction {motive : Session π → Prop}
    (fresh : ∀ (processId : Int) (folder : Text), motive { processId, folder })
    (move : ∀ {before after : Session π}, Move before after → motive before → motive after)
    {session : Session π} (reachable : Reachable session) : motive session := by
  apply Reachable.turnInduction fresh _ reachable
  intro before after turn holds
  exact keep_of_chain @move turn.moves holds

end LanguageClient.Session
