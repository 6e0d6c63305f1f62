import LanguageClient.Proofs.Session.Conversation
import LanguageClient.Proofs.Text.Utf8
import Mathlib.Data.List.Basic

/-! # Sessions in step with their servers

What a server makes of all that was written to it is what the session believes of it: it has
the copies of the open documents. A write that fails leaves it behind, but then it is given up
within the same call, and with it all documents. Between the change of a document and the
message that tells of it the two are out of step, so the invariant speaks of the store that
the server knows and not of the one that the session has.

A message that is withheld leaves the server behind as well, and it is not given up. So what is in
step with the session is what it meant to tell, which the server was told in full only if nothing
was withheld from it.
-/

namespace LanguageClient

namespace Writing

/-- The bytes that the pipe took. -/
def bytes (writing : Writing) : List UInt8 :=
  writing.taken.toOption.getD []

/-- Whether the message was not so much as handed to the pipe, since it has no frame or could not be
    shown to the host. -/
def isWithheld (writing : Writing) : Bool :=
  !writing.taken.isOk

/-- Whether the whole frame was taken. -/
def isWhole [Limits] (writing : Writing) : Bool :=
  writing.taken.isOk && writing.taken = Frame.encode writing.message

end Writing

/-- No message was withheld. -/
def Candid (writings : List Writing) : Prop :=
  ∀ writing ∈ writings, writing.isWithheld = false

instance (writings : List Writing) : Decidable (Candid writings) :=
  inferInstanceAs (Decidable (∀ writing ∈ writings, writing.isWithheld = false))

theorem candid_append {writings : List Writing} {writing : Writing} :
    Candid (writings ++ [writing]) ↔ Candid writings ∧ writing.isWithheld = false := by
  simp only [Candid, List.mem_append, List.mem_singleton, or_imp, forall_and, forall_eq]

/-- The messages of which the whole frame was taken. -/
def framesIn [Limits] (writings : List Writing) : List Json :=
  (writings.filter Writing.isWhole).map (·.message)

namespace Session

variable {π : Type}

/-- What was to be written to one server, in order. -/
def writingsTo (session : Session π) (server : Nat) : List Writing :=
  session.writings.filter (·.server == server)

/-- The messages that were to be written to one server, in order. -/
def messagesTo (session : Session π) (server : Nat) : List Json :=
  (session.writingsTo server).map (·.message)

/-- The messages that were written to one server with their whole frames, in order. -/
def framesTo [Limits] (session : Session π) (server : Nat) : List Json :=
  framesIn (session.writingsTo server)

/-- The bytes that the pipe to one server took, in order. -/
def bytesTo (session : Session π) (server : Nat) : List UInt8 :=
  (session.writingsTo server).flatMap (·.bytes)

/-- Nothing was withheld from one server. -/
def CandidTo (session : Session π) (server : Nat) : Prop :=
  Candid (session.writingsTo server)

instance (session : Session π) (server : Nat) : Decidable (session.CandidTo server) :=
  inferInstanceAs (Decidable (Candid (session.writingsTo server)))

end Session

section

variable [Limits]

theorem Writing.isWhole_of_framed {server : Nat} {message : Json} {frame : List UInt8}
    (framed : Frame.encode message = .ok frame) :
    (Writing.mk server message (.ok frame)).isWhole = true := by
  rw [isWhole, framed, decide_eq_true rfl]
  rfl

theorem Writing.bytes_of_isWhole {writing : Writing} (whole : writing.isWhole = true) :
    writing.bytes = Transport.frameOf writing.message := by
  have same := of_decide_eq_true (Bool.and_eq_true_iff.mp whole).2
  rw [bytes, same, Transport.frameOf]

/-- Where all frames were taken whole, what was taken is all of them. -/
theorem framesIn_of_whole {writings : List Writing}
    (whole : ∀ writing ∈ writings, writing.isWhole = true) :
    framesIn writings = writings.map (·.message) := by
  rw [framesIn, List.filter_eq_self.mpr whole]

theorem bytes_of_whole {writings : List Writing}
    (whole : ∀ writing ∈ writings, writing.isWhole = true) :
    writings.flatMap (·.bytes) = (framesIn writings).flatMap Transport.frameOf := by
  rw [framesIn_of_whole whole, List.flatMap_map]
  exact List.flatMap_congr fun writing member => Writing.bytes_of_isWhole (whole writing member)

end

/-- The part of a session that its conversations with servers show in. -/
structure Talk where
  /-- The server that runs. -/
  server : Option Nat
  servers : Nat
  writings : List Writing

namespace Talk

def add (talk : Talk) (writing : Writing) : Talk :=
  { talk with writings := talk.writings ++ [writing] }

theorem writings_add_self (talk : Talk) (writing : Writing) :
    (talk.add writing).writings.filter (·.server == writing.server) =
      talk.writings.filter (·.server == writing.server) ++ [writing] := by
  rw [add, List.filter_append, List.filter_singleton, beq_self_eq_true, cond_true]

theorem writings_add_of_ne (talk : Talk) {writing : Writing} {server : Nat}
    (other : writing.server ≠ server) :
    (talk.add writing).writings.filter (·.server == server) =
      talk.writings.filter (·.server == server) := by
  rw [add, List.filter_append, List.filter_singleton, beq_false_of_ne other, cond_false,
    List.append_nil]

/-- Every server that was written to has been started. -/
def Numbered (talk : Talk) : Prop :=
  ∀ writing ∈ talk.writings, writing.server < talk.servers

theorem Numbered.add {talk : Talk} (numbered : talk.Numbered) {writing : Writing}
    (started : writing.server < talk.servers) : (talk.add writing).Numbered := by
  intro other member
  cases List.mem_append.mp member with
  | inl earlier => exact numbered other earlier
  | inr last =>
      rw [List.mem_singleton.mp last]
      exact started

/-- What was written came through whole, unless it was withheld, and all of it would leave a server
    with copies of the documents. -/
structure Told [Limits] (writings : List Writing) (documents : DocumentStore) : Prop where
  settled : ∀ writing ∈ writings, writing.isWhole = true ∨ writing.isWithheld = true
  copied : ∃ mirror, Mirror.replay? (writings.map (·.message)) = some mirror ∧
    Mirror.Reflects mirror documents

/-- The server that runs, if there is one, was to know these documents. -/
structure Knows [Limits] (talk : Talk) (documents : DocumentStore) : Prop where
  keyed : documents.Keyed
  numbered : talk.Numbered
  started : ∀ server, talk.server = some server → server < talk.servers
  told : ∀ server, talk.server = some server →
    Told (talk.writings.filter (·.server == server)) documents

variable [Limits] {talk : Talk} {documents after : DocumentStore}

theorem told_nil : Told [] {} :=
  ⟨nofun, [], rfl, Mirror.reflects_empty⟩

/-- What was not withheld came through whole. -/
theorem Told.whole {writings : List Writing} (told : Told writings documents)
    (candid : Candid writings) (writing : Writing) (member : writing ∈ writings) :
    writing.isWhole = true := by
  rcases told.settled writing member with whole | withheld
  · exact whole
  · rw [candid writing member] at withheld
    exact absurd withheld Bool.false_ne_true

theorem Told.append {writings : List Writing} (told : Told writings documents)
    {writing : Writing} (settles : writing.isWhole = true ∨ writing.isWithheld = true)
    (advances : Mirror.Advances documents writing.message after) :
    Told (writings ++ [writing]) after := by
  obtain ⟨mirror, replayed, reflects⟩ := told.copied
  obtain ⟨next, taken, reflectsNext⟩ := advances.taken reflects
  refine ⟨?_, next, ?_, reflectsNext⟩
  · intro other member
    cases List.mem_append.mp member with
    | inl earlier => exact told.settled other earlier
    | inr last =>
        rw [List.mem_singleton.mp last]
        exact settles
  · rw [List.map_append]
    exact Mirror.replay?_snoc replayed taken

theorem Knows.settle (knows : talk.Knows documents) {writing : Writing}
    (running : talk.server = some writing.server)
    (settles : writing.isWhole = true ∨ writing.isWithheld = true)
    (advances : Mirror.Advances documents writing.message after) :
    (talk.add writing).Knows after := by
  refine ⟨advances.keyed, knows.numbered.add (knows.started _ running), knows.started, ?_⟩
  intro other isOther
  obtain rfl : writing.server = other := Option.some.inj (running.symm.trans isOther)
  rw [writings_add_self talk writing]
  exact (knows.told _ running).append settles advances

theorem Knows.write (knows : talk.Knows documents) {server : Nat}
    (running : talk.server = some server) {message : Json} {frame : List UInt8}
    (framed : Frame.encode message = .ok frame)
    (advances : Mirror.Advances documents message after) :
    (talk.add ⟨server, message, .ok frame⟩).Knows after :=
  knows.settle running (.inl (Writing.isWhole_of_framed framed)) advances

theorem Knows.withhold (knows : talk.Knows documents) {server : Nat}
    (running : talk.server = some server) {message : Json} (fault : Fault)
    (advances : Mirror.Advances documents message after) :
    (talk.add ⟨server, message, .error fault⟩).Knows after :=
  knows.settle running (.inr rfl) advances

/-- Without a server there is nobody who could know anything else. -/
theorem knows_of_idle (idle : talk.server = none) (keyed : documents.Keyed)
    (numbered : talk.Numbered) : talk.Knows documents := by
  have nobody {server : Nat} : talk.server ≠ some server := by
    rw [idle]
    exact nofun
  exact ⟨keyed, numbered, fun _ running => absurd running nobody,
    fun _ running => absurd running nobody⟩

omit [Limits] in
/-- To a new server nothing was written. -/
theorem Numbered.unwritten (numbered : talk.Numbered) :
    talk.writings.filter (·.server == talk.servers) = [] := by
  apply List.filter_eq_nil_iff.mpr
  intro writing member same
  exact absurd (beq_iff_eq.mp same) (Nat.ne_of_lt (numbered writing member))

/-- A new server knows no documents. -/
theorem knows_of_new (numbered : talk.Numbered) :
    Knows ⟨some talk.servers, talk.servers + 1, talk.writings⟩ {} := by
  refine ⟨DocumentStore.keyed_empty, ?_, ?_, ?_⟩
  · intro writing member
    exact Nat.lt_succ_of_lt (numbered writing member)
  · intro server running
    obtain rfl := Option.some.inj running
    exact Nat.lt_succ_self _
  · intro server running
    obtain rfl := Option.some.inj running
    exact numbered.unwritten ▸ told_nil

end Talk

namespace Session

variable {π : Type}

def talk (session : Session π) : Talk where
  server := session.connection.map (·.server)
  servers := session.servers
  writings := session.writings

/-- A session is in step with what it has to tell its server, if it runs one. -/
def InStep [Limits] (session : Session π) : Prop :=
  session.talk.Knows session.documents

theorem Quiet.talk {before after : Session π} (quiet : Quiet before after) :
    after.talk = before.talk := by
  rw [Session.talk, quiet.connection, quiet.servers, quiet.writings, Session.talk]

theorem InStep.sameTalk [Limits] {before after : Session π} (inStep : before.InStep)
    (talk : after.talk = before.talk) (documents : after.documents = before.documents) :
    after.InStep := by
  rw [InStep, talk, documents]
  exact inStep

theorem InStep.quiet [Limits] {before after : Session π} (inStep : before.InStep)
    (quiet : Quiet before after) : after.InStep :=
  inStep.sameTalk quiet.talk quiet.documents

theorem talk_changePeer (session : Session π) (change : Peer → Peer) :
    (session.changePeer change).talk = session.talk := by
  unfold changePeer talk
  cases session.connection with
  | none => rfl
  | some connection => rfl

theorem talk_of_connection {session : Session π} {connection : Connection}
    (running : session.connection = some connection) :
    session.talk.server = some connection.server := by
  rw [talk, running]
  rfl

theorem isRunning_of_talk {session : Session π} {server : Nat}
    (current : session.talk.server = some server) : session.isRunning = true := by
  have known : (session.connection.map (·.server)).isSome = true :=
    Option.isSome_of_eq_some current
  rw [Option.isSome_map] at known
  exact known

theorem documents_hold (session : Session π) (connection : Connection) :
    (session.hold connection).documents = session.documents := rfl

theorem talk_hold {session : Session π} {connection : Connection}
    (running : session.talk.server = some connection.server) :
    (session.hold connection).talk = session.talk := by
  show Talk.mk (some connection.server) session.servers session.writings = session.talk
  rw [← running]
  rfl

section

variable [Host]

theorem talk_receive {session : Session π} {connection : Connection}
    (running : session.connection = some connection) :
    (session.receive connection).talk = session.talk := by
  have server := talk_of_connection running
  unfold receive
  exact talk_hold server

theorem talk_said (session : Session π) (server : Nat) (message : Json)
    (taken : Except Fault (List UInt8)) :
    (session.said server message taken).talk = session.talk.add ⟨server, message, taken⟩ := by
  have quiet := (calm_logMessage session .outgoing message).quiet
  have writings : (session.said server message taken).writings =
      (session.logMessage .outgoing message).talk.writings ++ [⟨server, message, taken⟩] :=
    writings_record _ _
  rw [talk, writings, Talk.add, ← quiet.talk]
  rfl

theorem documents_said (session : Session π) (server : Nat) (message : Json)
    (taken : Except Fault (List UInt8)) :
    (session.said server message taken).documents = session.documents :=
  (calm_logMessage session .outgoing message).documents

/-- What was said shows, and what became of the connection does not. -/
theorem talk_held {session : Session π} {connection : Connection}
    (running : session.connection = some connection) (message : Json)
    (taken : Except Fault (List UInt8)) (sent : Bool) (rest : List WriteOutcome)
    (flushes : List Bool) :
    ((session.said connection.server message taken).hold (connection.told sent rest flushes)).talk =
      session.talk.add ⟨connection.server, message, taken⟩ := by
  rw [talk_hold, talk_said]
  show (session.said _ _ _).talk.server = some connection.server
  rw [talk_said]
  exact talk_of_connection running

theorem talk_withheld {session : Session π} {connection : Connection}
    (running : session.connection = some connection) (message : Json) (fault : Fault) :
    ((session.said connection.server message (.error fault)).hold connection).talk =
      session.talk.add ⟨connection.server, message, .error fault⟩ := by
  rw [talk_hold, talk_said]
  rw [talk_said]
  exact talk_of_connection running

end

/-! ## Ends -/

theorem talk_disconnect (session : Session π) (timeout : Timeout) :
    (session.disconnect timeout).talk = { session.talk with server := none } := by
  unfold disconnect
  cases running : session.connection with
  | none =>
      rw [talk, running]
      rfl
  | some connection =>
      have unwritten : (JournalEntry.stoppedServer (π := π) connection.server timeout
        (connection.process.stop timeout).made).writing? = none := rfl
      have quiet : Quiet { session with connection := none }
          ({ session with connection := none }.record (.stoppedServer connection.server timeout
            (connection.process.stop timeout).made)) :=
        Quiet.record ⟨rfl, rfl, rfl, rfl⟩ unwritten
      rw [quiet.talk]
      rfl

theorem talk_disable (session : Session π) (reason : Text) :
    (session.disable reason).talk = { session.talk with server := none } := by
  have quiet : Quiet (session.disconnect .now).reset (session.disable reason) :=
    ((Quiet.refl _).emit _).emit _
  rw [quiet.talk]
  exact talk_disconnect session .now

/-- Behind a stop that was gone through with nobody is talked to. -/
theorem talk_stopped (ending : Session π) (timeout : Timeout) :
    (((ending.disconnect timeout).reset).emit .stopped).talk =
      { ending.talk with server := none } := by
  have quiet : Quiet (ending.disconnect timeout).reset
      (((ending.disconnect timeout).reset).emit .stopped) := (Quiet.refl _).emit .stopped
  rw [quiet.talk]
  exact talk_disconnect ending timeout

variable [Host]

/-- A session that has given up its server knows no documents. -/
theorem inStep_of_disconnected {session ended : Session π}
    (talk : ended.talk = { session.talk with server := none }) (documents : ended.documents = {})
    (numbered : session.talk.Numbered) : ended.InStep := by
  rw [InStep, talk, documents]
  exact Talk.knows_of_idle rfl DocumentStore.keyed_empty numbered

theorem disable_inStep {session : Session π} (numbered : session.talk.Numbered)
    (reason : Text) : (session.disable reason).InStep :=
  inStep_of_disconnected (talk_disable session reason) rfl numbered

/-! ## What is said -/

/-- A message that takes the documents which the server knows to those of the session leaves
    the two in step, even if it does not come through. -/
theorem send_inStep {session : Session π} {known : DocumentStore} {message : Json}
    (knows : session.talk.Knows known)
    (advances : Mirror.Advances known message session.documents) :
    (session.send message).2.InStep := by
  have outcome := sending session message
  generalize session.send message = result at outcome ⊢
  cases outcome with
  | idle nobody =>
      exact Talk.knows_of_idle (by rw [talk, nobody]; rfl) advances.keyed knows.numbered
  | whole rest flushes running framed =>
      rw [InStep, talk_held running, documents_hold, documents_said]
      exact knows.write (talk_of_connection running) framed advances
  | part rest flushes running isPart =>
      apply disable_inStep
      rw [talk_held running]
      exact knows.numbered.add (knows.started _ (talk_of_connection running))
  | withheld fault running =>
      rw [InStep, talk_withheld running, documents_hold, documents_said]
      exact knows.withhold (talk_of_connection running) fault advances

theorem Utters.inStep {before after : Session π} (utters : Utters before after)
    (inStep : before.InStep) : after.InStep := by
  cases utters with
  | nothing quiet => exact inStep.quiet quiet
  | message quiet advances =>
      apply send_inStep
      · rw [quiet.talk]
        exact inStep
      · rw [quiet.documents]
        exact advances inStep.keyed

/-! ## Starts and stops -/

omit [Host] in
theorem talk_hosting (session : Session π) (command : Text) (process : ServerProcess) :
    (session.hosting command process).talk =
      ⟨some session.servers, session.servers + 1, session.writings⟩ := by
  have asked : Quiet session.reset (session.reset.record (.asked command)) :=
    (Quiet.refl session.reset).record rfl
  have told : (session.hosting command process).writings = session.writings := by
    rw [hosting, emit, writings_record]
    exact (List.append_nil _).trans asked.writings
  rw [talk, told]
  rfl

theorem hosting_inStep {session : Session π} (inStep : session.InStep)
    (command : Text) (process : ServerProcess) : (session.hosting command process).InStep := by
  rw [InStep, talk_hosting]
  exact Talk.knows_of_new inStep.numbered

/-- A session that was asked to start a server and has none knows no documents. -/
theorem inStep_of_unstarted {session after : Session π} (inStep : session.InStep)
    (nobody : session.connection = none) (quiet : Quiet session.reset after) : after.InStep := by
  have idle : session.reset.talk.server = none := by
    rw [talk, reset, nobody]
    rfl
  rw [InStep, quiet.talk, quiet.documents]
  exact Talk.knows_of_idle idle DocumentStore.keyed_empty inStep.numbered

theorem Starting.inStep {session : Session π} {command : Text}
    {outcome : Except Fault Bool × Session π}
    (starting : Starting session command outcome) (inStep : session.InStep) :
    outcome.2.InStep := by
  have asked : Quiet session.reset (session.reset.record (.asked command)) :=
    (Quiet.refl session.reset).record rfl
  cases starting with
  | running running => exact inStep
  | failed nobody refused => exact inStep_of_unstarted inStep nobody (asked.emit _)
  | brokenOff nobody broken => exact inStep_of_unstarted inStep nobody asked
  | @started process params nobody launched =>
      exact (greeting_utters session command process params).inStep
        (hosting_inStep inStep command process)

theorem Goodbye.numbered {session ending : Session π} {server : Nat}
    (parting : Goodbye session server ending) (numbered : session.talk.Numbered)
    (started : server < session.servers) : ending.talk.Numbered := by
  cases parting with
  | unsent isPart =>
      rw [talk_said]
      exact numbered.add started
  | sent framed isPart =>
      rw [talk_said, talk_said]
      exact (numbered.add started).add started

theorem Stopping.inStep {session : Session π} {outcome : Except Fault Unit × Session π}
    (stopping : Stopping session outcome) (inStep : session.InStep) : outcome.2.InStep := by
  apply stopping.keeps inStep
  · intro _
    exact (shutdown_utters session).inStep inStep
  · intro asking inStep
    exact (exit_utters asking).inStep inStep
  · intro connection ending running parting
    have started := inStep.started connection.server (talk_of_connection running)
    exact inStep_of_disconnected (talk_stopped ending _) rfl
      (parting.numbered inStep.numbered started)

/-! ## Every move, every run -/

theorem Plain.inStep {before after : Session Text} (plain : Plain before after)
    (inStep : before.InStep) : after.InStep := by
  cases plain.effect with
  | speech speech => exact speech.utters.inStep inStep
  | surround now launcher settings => exact inStep.quiet ⟨rfl, rfl, rfl, rfl⟩
  | prepareWrites writes flushes => exact inStep.quiet ⟨rfl, rfl, rfl, rfl⟩
  | takeWritesAs writes flushes => exact inStep.sameTalk (talk_changePeer before _) rfl
  | deliver given => exact inStep.sameTalk (talk_changePeer before _) rfl
  | receive running => exact inStep.sameTalk (talk_receive running) rfl
  | start starting => exact starting.inStep inStep
  | stop stopping => exact stopping.inStep inStep
  | serverExited running => exact disable_inStep inStep.numbered _

theorem Move.inStep {before after : Session Text} (move : Move before after)
    (inStep : before.InStep) : after.InStep := by
  cases move with
  | plain plain => exact plain.inStep inStep
  | openDocument running opened =>
      have utters : Utters before _ := .message (.refl _) fun keyed =>
        Mirror.advances_of_openDocument keyed opened
      exact utters.inStep inStep
  | confirmHandshake => exact (confirmHandshake_utters before).inStep inStep
  | takeResponse message => exact inStep.quiet (responding before message).quiet

theorem Reachable.inStep {session : Session Text} (reachable : Reachable session) :
    session.InStep := by
  apply Reachable.induction _ _ reachable
  · intro processId folder
    exact Talk.knows_of_idle rfl DocumentStore.keyed_empty nofun
  · intro before after move inStep
    exact move.inStep inStep

/-- Of a server from which nothing was withheld, all that was to be written came through whole. -/
theorem InStep.frames {session : Session π} (inStep : session.InStep) {server : Nat}
    (current : session.talk.server = some server) (candid : session.CandidTo server) :
    session.framesTo server = session.messagesTo server :=
  framesIn_of_whole ((inStep.told server current).whole candid)

/-- Wherever a run has come to, if a server runs from which nothing was withheld then it was sent
    whole frames only, of messages that a server which keeps copies of documents can take, each in
    its turn: no document is opened twice, and none is changed, closed or asked about that is not
    open, nor changed but to its next version. They leave it with copies of exactly the documents
    that the session has open. -/
theorem replay_framesTo {session : Session Text} {connection : Connection}
    (reachable : Reachable session) (running : session.connection = some connection)
    (candid : session.CandidTo connection.server) :
    session.bytesTo connection.server =
        (session.framesTo connection.server).flatMap Transport.frameOf ∧
      ∃ mirror, Mirror.replay? (session.framesTo connection.server) = some mirror ∧
        ∀ uri, Table.get? mirror uri = (session.documents.openAt? uri).map Copy.ofDocument := by
  have current := talk_of_connection running
  have told := reachable.inStep.told connection.server current
  refine ⟨bytes_of_whole (told.whole candid), ?_⟩
  rw [reachable.inStep.frames current candid]
  exact told.copied

end Session

open scoped Host.Bare

namespace Session

def changedOnce : Session Text :=
  (perform (perform (perform { processId := 1, folder := "/home" } (.start "server" "proj"))
    (.didOpen "a.py" "x" "python")) (.didChange "a.py" "y"))

theorem replay_changedOnce :
    ∃ connection mirror, changedOnce.connection = some connection ∧
      changedOnce.CandidTo connection.server ∧
      Mirror.replay? (changedOnce.framesTo connection.server) = some mirror ∧
      Table.get? mirror "file://a.py" = some ⟨"python", 2, "y"⟩ := by
  have state : changedOnce.connection.map (·.server) = some 0 ∧ changedOnce.CandidTo 0 ∧
      (changedOnce.documents.openAt? "file://a.py").map Copy.ofDocument =
        some ⟨"python", 2, "y"⟩ := by decide +kernel
  obtain ⟨isFirst, candid, known⟩ := state
  obtain ⟨connection, running, first⟩ := Option.map_eq_some_iff.mp isFirst
  rw [← first] at candid
  have reachable : Reachable changedOnce :=
    (((Reachable.fresh 1 "/home").perform _).perform _).perform _
  obtain ⟨_, mirror, replayed, reflects⟩ := replay_framesTo reachable running candid
  exact ⟨connection, mirror, running, candid, replayed, (reflects _).trans known⟩

/-- A document is opened with a text that is no string and then changed: the opening is withheld
    and the change is not. -/
def openedUnsaid : Session Text :=
  (perform (perform (perform { processId := 1, folder := "/home" } (.start "server" "proj"))
    (.didOpen "a.py" Text.unpaired "python")) (.didChange "a.py" "y"))

/-- A server from which the opening of a document was withheld is told of its change. -/
theorem unopened_openedUnsaid :
    Reachable openedUnsaid ∧ openedUnsaid.isRunning = true ∧
      Mirror.replay? (openedUnsaid.framesTo 0) = none := by
  refine ⟨(((Reachable.fresh 1 "/home").perform _).perform _).perform _, ?_, ?_⟩
  · decide +kernel
  · decide +kernel

end Session

end LanguageClient
