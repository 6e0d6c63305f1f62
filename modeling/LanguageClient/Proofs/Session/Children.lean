import LanguageClient.Proofs.Server.Process
import LanguageClient.Proofs.Session.Servers

/-! # The children of a session

The server of a session is a child that was taken on and was not stopped yet. Whatever makes the
session let it go, its child is seen to its end: a session has no timeouts but such as can be
counted, so that nothing breaks off a stop. So no server that was started is left behind, whether
the host stopped it, it took no more messages or it closed its end.
-/

namespace LanguageClient

variable {π : Type}

/-! ## Partings -/

/-- A server was let go: how long its child was given, and what was done about it. -/
structure Parting where
  server : Nat
  timeout : Timeout
  made : List MadeCall

/-- Some child that could be talked to was seen to its end. -/
def Parting.SeesToChild (parting : Parting) : Prop :=
  ∃ child gone : Child, child.IsUsable ∧
    SeenToEnd child gone (max 0 parting.timeout) parting.made

def JournalEntry.parting? : JournalEntry π → Option Parting
  | .stoppedServer server timeout made => some ⟨server, timeout, made⟩
  | _ => none

theorem blind_parting : Blind (JournalEntry.parting? (π := π)) := by
  intro entry calm
  cases entry with
  | stoppedServer server timeout made => exact absurd calm Bool.false_ne_true
  | _ => rfl

/-- A server that can be talked to and has not been stopped. -/
structure ServerProcess.IsAttended (process : ServerProcess) : Prop where
  running : process.stopped = false
  usable : process.child.IsUsable

theorem Timeout.inRange (timeout : Timeout) : (timeout : Int) < Binary64.beyond := by
  have counted := timeout.counted
  have least := Binary64.le_beyond
  omega

namespace ServerProcess

/-- A server that is stopped within a time that can be counted is seen to its end. -/
theorem IsAttended.seen {process : ServerProcess} (attended : process.IsAttended)
    (timeout : Timeout) :
    (process.stop timeout).result = .ok () ∧
      SeenToEnd process.child (process.stop timeout).process.child (max 0 timeout)
        (process.stop timeout).made :=
  (stopsOnce attended.running (.ok timeout) []).inRange timeout timeout.inRange rfl

theorem attended_of_start {run : List Text → Spawned} {command : Text} {process : ServerProcess}
    (started : (start run command).result = .ok process) : process.IsAttended := by
  have adopted {argv : List Text} {program : Text} {child : Child}
      (taken : (adopt argv program child).result = .ok process) : process.IsAttended := by
    unfold adopt at taken
    split at taken
    · cases taken
    · next piped =>
      simp only [Bool.or_eq_true, Bool.not_eq_true', not_or, Bool.not_eq_false] at piped
      split at taken
      · next descriptor =>
        obtain rfl := Except.ok.inj taken
        exact ⟨rfl, ⟨piped.1, piped.2⟩, descriptor⟩
      · cases taken
      · cases taken
  unfold start at started
  split at started
  · cases started
  · dsimp only at started
    split at started
    · cases started
    · exact adopted started

end ServerProcess

namespace Session

variable {session before after : Session π}

def partings (session : Session π) : List Parting :=
  session.view JournalEntry.parting?

/-- The server that runs. -/
def process? (session : Session π) : Option ServerProcess :=
  session.connection.map Connection.process

/-- The server that runs is attended to, and for those that were let go their children were seen
    to. -/
structure Tended (session : Session π) : Prop where
  running : ∀ process, session.process? = some process → process.IsAttended
  gone : ∀ parting ∈ session.partings, parting.SeesToChild

theorem Tended.same (tended : before.Tended) (process : after.process? = before.process?)
    (partings : after.partings = before.partings) : after.Tended := by
  constructor
  · rw [process]
    exact tended.running
  · rw [partings]
    exact tended.gone

theorem Tended.calm (tended : before.Tended) (calm : Calm before after) : after.Tended :=
  tended.same (congrArg (Option.map Connection.process) calm.connection)
    (calm.view blind_parting)

theorem Tended.record (tended : session.Tended) {entry : JournalEntry π}
    (other : entry.parting? = none) : (session.record entry).Tended := by
  refine tended.same rfl ?_
  rw [partings, view_record, other, Option.toList_none, List.append_nil]
  rfl

theorem process?_of_connection {connection : Connection}
    (running : session.connection = some connection) :
    session.process? = some connection.process :=
  congrArg (Option.map Connection.process) running

/-! ## Letting a server go -/

theorem Tended.disconnect (tended : session.Tended) (timeout : Timeout) :
    (session.disconnect timeout).Tended := by
  unfold Session.disconnect
  split
  · exact tended
  · next connection running =>
    have attended := tended.running connection.process (process?_of_connection running)
    constructor
    case running => exact fun process none => absurd none (Option.some_ne_none process).symm
    case gone =>
      intro parting member
      rw [partings, view_record] at member
      cases List.mem_append.mp member with
      | inl earlier => exact tended.gone parting earlier
      | inr last =>
          rw [← Option.some.inj (Option.mem_toList.mp last)]
          exact ⟨_, _, attended.usable, (attended.seen timeout).2⟩

theorem Tended.reset (tended : session.Tended) : session.reset.Tended :=
  tended.same rfl rfl

theorem Tended.disable (tended : session.Tended) (reason : Text) :
    (session.disable reason).Tended :=
  (((tended.disconnect .now).reset).record rfl).record rfl

variable [Host]

/-! ## What is said -/

theorem Tended.said (tended : session.Tended) (server : Nat) (message : Json)
    (taken : Except Fault (List UInt8)) : (session.said server message taken).Tended :=
  (tended.calm (calm_logMessage session .outgoing message)).record rfl

theorem Tended.send (tended : session.Tended) (message : Json) :
    (session.send message).2.Tended := by
  have held {connection held : Connection} (running : session.connection = some connection)
      (taken : Except Fault (List UInt8)) (same : held.process = connection.process) :
      ((session.said connection.server message taken).hold held).Tended := by
    refine (tended.said connection.server message taken).same ?_ rfl
    have still := (connection_said session connection.server message taken).trans running
    rw [process?_of_connection still, ← same]
    rfl
  have outcome := sending session message
  generalize session.send message = result at outcome ⊢
  cases outcome with
  | idle nobody => exact tended
  | whole rest flushes running framed => exact held running _ rfl
  | part rest flushes running isPart => exact (held running _ rfl).disable _
  | withheld fault running => exact held running _ rfl

theorem Tended.request (tended : session.Tended) (method : Text) (params : Json)
    (context : RequestContext π) : (session.request method params context).2.Tended := by
  have noted : (session.noting context).Tended := tended.same rfl rfl
  rw [request_snd]
  exact noted.send _

theorem Begins.tended [BEq π] [DocumentName π] {prepared : Session π} {method : Text}
    {params : Json} {context : RequestContext π}
    (begins : Begins before prepared method params context) (tended : before.Tended) :
    prepared.Tended := by
  cases begins with
  | semanticTokens found => exact tended
  | hover found line col now => exact tended.same rfl rfl
  | completion found line col now trigger triggerKind => exact tended.same rfl rfl

theorem Speech.tended [BEq π] [DocumentName π] (speech : Speech before after)
    (tended : before.Tended) : after.Tended := by
  cases speech with
  | nothing calm => exact tended.calm calm
  | @telling documents prepared message tells calm =>
      have noted : { before with documents }.Tended := tended.same rfl rfl
      exact (noted.calm calm).send message
  | asking begins => exact (begins.tended tended).request _ _ _

omit [Host] in
theorem Responding.tended [BEq π] [DocumentName π] {id : Json}
    (responding : Responding before id after) (tended : before.Tended) : after.Tended := by
  have noted {handshake : Handshake} {requests : PendingRequests (RequestContext π)}
      {hover : HoverSchedule π (HoverTarget π)} {completion : CompletionTracker π} :
      { before with handshake, requests, hover, completion }.Tended := tended.same rfl rfl
  cases responding with
  | unknown unresolved => exact tended
  | calm resolved stale calm => exact noted.calm calm
  | ready resolved => exact noted.record rfl
  | hover resolved accepted => exact noted.record rfl
  | completion resolved accepted => exact noted.record rfl

/-! ## Starts and stops -/

theorem Starting.tended {command : Text} {outcome : Except Fault Bool × Session π}
    (starting : Starting session command outcome) (tended : session.Tended) :
    outcome.2.Tended := by
  have asked : (session.reset.record (.asked command)).Tended := tended.reset.record rfl
  cases starting with
  | running running => exact tended
  | failed nobody refused => exact asked.record rfl
  | brokenOff nobody broken => exact asked
  | @started process params nobody launched =>
      have taken : (session.hosting command process).partings =
          (session.reset.record (.asked command)).partings :=
        (view_record _ _ _).trans (List.append_nil _)
      have hosting : (session.hosting command process).Tended := by
        constructor
        · intro other isOther
          obtain rfl := Option.some.inj isOther
          exact ServerProcess.attended_of_start launched
        · rw [taken]
          exact asked.gone
      dsimp only
      rw [greeting]
      exact hosting.request _ _ _

theorem Goodbye.tended {ending : Session π} {server : Nat}
    (parting : Goodbye session server ending) (tended : session.Tended) : ending.Tended := by
  have left : session.leaving.Tended := tended.same rfl rfl
  cases parting with
  | unsent isPart => exact left.said _ _ _
  | sent framed isPart => exact (left.said _ _ _).said _ _ _

theorem Stopping.tended {outcome : Except Fault Unit × Session π}
    (stopping : Stopping session outcome) (tended : session.Tended) : outcome.2.Tended := by
  apply stopping.keeps tended
  · intro _
    exact tended.request _ _ _
  · intro asking tended
    exact tended.send _
  · intro connection ending running parting
    exact (((parting.tended tended).disconnect _).reset).record rfl

/-! ## Every move, every run -/

omit [Host] in
theorem Tended.changePeer (tended : session.Tended) (change : Peer → Peer) :
    (session.changePeer change).Tended := by
  unfold Session.changePeer
  refine tended.same ?_ rfl
  unfold process?
  rw [Option.map_map]
  rfl

theorem Plain.tended {before after : Session Text} (plain : Plain before after)
    (tended : before.Tended) : after.Tended := by
  cases plain.effect with
  | speech speech => exact speech.tended tended
  | surround now launcher settings => exact tended.same rfl rfl
  | prepareWrites writes flushes => exact tended.same rfl rfl
  | takeWritesAs writes flushes => exact tended.changePeer _
  | deliver given => exact tended.changePeer _
  | receive running => exact tended.same (process?_of_connection running).symm rfl
  | start starting => exact starting.tended tended
  | stop stopping => exact stopping.tended tended
  | serverExited running => exact tended.disable _

theorem Move.tended {before after : Session Text} (move : Move before after)
    (tended : before.Tended) : after.Tended := by
  cases move with
  | plain plain => exact plain.tended tended
  | @openDocument path text languageId params documents running opened =>
      have noted : { before with documents }.Tended := tended.same rfl rfl
      exact noted.send _
  | confirmHandshake =>
      have noted (handshake : Handshake) : { before with handshake }.Tended :=
        tended.same rfl rfl
      simp only [Session.confirmHandshake]
      split
      · exact (noted _).send _
      · exact noted _
  | takeResponse message => exact (responding before message).tended tended

theorem Reachable.tended {session : Session Text} (reachable : Reachable session) :
    session.Tended := by
  apply Reachable.induction _ _ reachable
  · intro processId folder
    constructor
    case running => exact fun process none => absurd none (Option.some_ne_none process).symm
    case gone => exact fun parting member => absurd member List.not_mem_nil
  · intro before after move tended
    exact move.tended tended

omit [Host] in
theorem exists_parting {server : Nat} (stopCalled : .stopCalled server ∈ session.stages) :
    ∃ parting ∈ session.partings, parting.server = server := by
  obtain ⟨entry, member, shown⟩ := List.mem_filterMap.mp stopCalled
  cases entry with
  | stoppedServer other timeout made =>
      obtain rfl := Stage.stopCalled.inj (Option.some.inj shown)
      exact ⟨⟨other, timeout, made⟩, List.mem_filterMap.mpr ⟨_, member, rfl⟩, rfl⟩
  | event event => cases event <;> cases shown
  | _ => cases shown

/-- Of every server that was started and is not the one that runs, the child was seen to its
    end. -/
theorem seesToChild_of_started {session : Session Text} (reachable : Reachable session)
    {server : Nat} (started : server < session.servers)
    (gone : session.talk.server ≠ some server) :
    ∃ parting ∈ session.partings, parting.server = server ∧ parting.SeesToChild := by
  have stopCalled : .stopCalled server ∈ session.stages := by
    rw [← List.count_pos_iff]
    cases reachable.hosts with
    | idle history nobody greeted =>
        have departed : server < (Phase.idle session.servers).departed := started
        rw [history.count_stopCalled, if_pos departed]
        exact Nat.one_pos
    | @running connection answered history running count greets =>
        rw [talk_of_connection running] at gone
        have other : connection.server ≠ server := fun same => gone (congrArg some same)
        have departed : server < (Phase.running connection.server answered).departed := by
          show server < connection.server
          omega
        rw [history.count_stopCalled, if_pos departed]
        exact Nat.one_pos
  obtain ⟨parting, member, same⟩ := exists_parting stopCalled
  exact ⟨parting, member, same, reachable.tended.gone parting member⟩

end Session

end LanguageClient
