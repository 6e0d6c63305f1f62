import LanguageClient.Proofs.Session.Inbox

/-! # Connections that can be read from

A session keeps its connection, or gives it up, but for what it wrote and read. So there is
always a descriptor to read from, and whatever waits on it is read to its end. Nothing is in the
way of telling the host of what was read.
-/

namespace LanguageClient.Session

variable {π : Type}

/-! ## What is kept of a connection -/

/-- What holds of the connection, if there is one. -/
def Connected (session : Session π) (holds : Connection → Prop) : Prop :=
  ∀ connection, session.connection = some connection → holds connection

theorem connected_of_none {session : Session π} (nobody : session.connection = none)
    (holds : Connection → Prop) : session.Connected holds := by
  intro connection running
  rw [nobody] at running
  exact absurd running nofun

variable [Host]

theorem Utters.connected {before after : Session π} (utters : Utters before after)
    {holds : Connection → Prop}
    (told : ∀ connection sent rest flushes, holds connection →
      holds (connection.told sent rest flushes))
    (connected : before.Connected holds) : after.Connected holds := by
  cases utters with
  | nothing quiet =>
      intro connection running
      exact connected connection (quiet.connection ▸ running)
  | @message documents prepared message quiet advances =>
      have outcome := sending prepared message
      generalize prepared.send message = result at outcome ⊢
      cases outcome with
      | idle nobody => exact connected_of_none nobody holds
      | whole rest flushes running framed =>
          intro connection isConnection
          obtain rfl := Option.some.inj isConnection
          exact told _ true rest flushes (connected _ (quiet.connection ▸ running))
      | part rest flushes running isPart => exact connected_of_none (disable_connection _ _) holds
      | withheld fault running =>
          intro connection isConnection
          obtain rfl := Option.some.inj isConnection
          exact connected _ (quiet.connection ▸ running)

omit [Host] in
theorem connected_changePeer {session : Session π} {holds : Connection → Prop}
    (change : Peer → Peer)
    (kept : ∀ connection, holds connection →
      holds { connection with peer := change connection.peer })
    (connected : session.Connected holds) : (session.changePeer change).Connected holds := by
  intro connection isConnection
  unfold changePeer at isConnection
  obtain ⟨earlier, running, rfl⟩ := Option.map_eq_some_iff.mp isConnection
  exact kept earlier (connected earlier running)

theorem takeMessages_connected [BEq π] [DocumentName π] {holds : Connection → Prop}
    (told : ∀ connection sent rest flushes, holds connection →
      holds (connection.told sent rest flushes))
    (server taken : Nat) {session : Session π} (connected : session.Connected holds)
    (messages : List Json) :
    (takeMessages server taken session messages).2.Connected holds := by
  apply takeMessages_keeps (motive := (Connected · holds)) connected
  · intro session message connected
    exact (Utters.nothing (calm_logMessage session .incoming message).quiet).connected told
      connected
  · intro session message _ connected
    exact (takeMessage_utters session message).connected told connected

/-! ## Where a read can stop -/

/-- There is a descriptor to read from, and nothing that waits says that there is no more for
    now: that is said by nothing being there. -/
structure Readable (connection : Connection) : Prop where
  descriptor : 0 ≤ connection.transport.descriptor
  given : .wouldBlock ∉ connection.peer.incoming

omit [Host] in
theorem Readable.told {connection : Connection} (sent : Bool) (rest : List WriteOutcome)
      (flushes : List Bool)
    (readable : Readable connection) : Readable (connection.told sent rest flushes) :=
  ⟨readable.descriptor, readable.given⟩

omit [Host] in
theorem Inbox.mem_of_mem_poll [Limits] {inbox : Inbox} {outcome : ReadOutcome}
    (member : outcome ∈ inbox.poll.2.incoming) : outcome ∈ inbox.incoming := by
  cases before : inbox.closed with
  | true => rwa [Inbox.poll_of_closed before] at member
  | false =>
      rw [Inbox.poll_of_open before] at member
      exact mem_of_mem_readAll_rest member

omit [Host] in
/-- Reading comes to the same for a connection as for its inbox. -/
theorem poll_eq [Limits] {connection : Connection} (valid : 0 ≤ connection.transport.descriptor) :
    connection.transport.poll connection.peer.incoming =
      ⟨(connection.reading connection.inbox.poll.2).transport, connection.inbox.poll.1,
        connection.inbox.poll.2.incoming⟩ := by
  cases closed : connection.transport.closed with
  | true =>
      rw [Transport.poll_of_closed closed, Inbox.poll_of_closed closed]
      rfl
  | false =>
      rw [Transport.poll_of_open valid closed, Inbox.poll_of_open closed]
      rfl

theorem receive_eq {session : Session π} {connection : Connection}
    (valid : 0 ≤ connection.transport.descriptor) :
    session.receive connection = session.hold (connection.reading connection.inbox.poll.2) := by
  unfold receive
  rw [poll_eq valid]
  rfl

/-- A host that wants to be told of messages is told of every one that was taken in. -/
theorem logMessage_of_poll {transport : Transport} {outcomes : List ReadOutcome}
    {messages : List Json} (polled : (transport.poll outcomes).messages = .ok messages)
    {message : Json} (member : message ∈ messages) {session : Session π}
    (wants : session.logTraffic = true) :
    session.logMessage .incoming message = session.emit (.traffic .incoming message.shown) := by
  unfold logMessage
  rw [wants, Transport.unshowable?_of_poll polled message member]
  rfl

theorem Utters.readable {before after : Session π} (utters : Utters before after)
    (readable : before.Connected Readable) : after.Connected Readable :=
  utters.connected (fun _ sent rest flushes kept => kept.told sent rest flushes) readable

theorem Starting.readable {session : Session π} {command : Text}
    {outcome : Except Fault Bool × Session π}
    (starting : Starting session command outcome) (readable : session.Connected Readable) :
    outcome.2.Connected Readable := by
  cases starting with
  | running running => exact readable
  | failed nobody refused => exact connected_of_none nobody Readable
  | brokenOff nobody broken => exact connected_of_none nobody Readable
  | @started process params nobody launched =>
      have welcome : (session.hosting command process).Connected Readable := by
        intro connection isConnection
        obtain rfl := Option.some.inj isConnection
        exact ⟨Int.le_refl 0, nofun⟩
      exact (greeting_utters session command process params).readable welcome

theorem Stopping.readable {session : Session π} {outcome : Except Fault Unit × Session π}
    (stopping : Stopping session outcome) (readable : session.Connected Readable) :
    outcome.2.Connected Readable := by
  apply stopping.keeps (motive := (Connected · Readable)) readable
  · intro _
    exact (shutdown_utters session).readable readable
  · intro asking readable
    exact (exit_utters asking).readable readable
  · intro connection ending running parting
    exact connected_of_none (stopped_connection _ _) Readable

theorem Plain.readable {before after : Session Text} (plain : Plain before after)
    (readable : before.Connected Readable) : after.Connected Readable := by
  cases plain.effect with
  | speech speech => exact speech.utters.readable readable
  | surround now launcher settings => exact readable
  | prepareWrites writes flushes => exact readable
  | takeWritesAs writes flushes =>
      exact connected_changePeer _ (fun _ kept => ⟨kept.descriptor, kept.given⟩) readable
  | deliver given =>
      apply connected_changePeer _ _ readable
      intro connection kept
      refine ⟨kept.descriptor, ?_⟩
      intro member
      cases List.mem_append.mp member with
      | inl earlier => exact kept.given earlier
      | inr last => exact given (List.mem_singleton.mp last).symm
  | @receive connection running =>
      have kept := readable connection running
      rw [receive_eq kept.descriptor]
      intro other isOther
      obtain rfl := Option.some.inj isOther
      exact ⟨kept.descriptor, fun member => kept.given (Inbox.mem_of_mem_poll member)⟩
  | start starting => exact starting.readable readable
  | stop stopping => exact stopping.readable readable
  | serverExited running => exact connected_of_none (disable_connection _ _) Readable

theorem Move.readable {before after : Session Text} (move : Move before after)
    (readable : before.Connected Readable) : after.Connected Readable := by
  cases move with
  | plain plain => exact plain.readable readable
  | openDocument running opened =>
      have utters : Utters before _ := .message (.refl _) fun keyed =>
        Mirror.advances_of_openDocument keyed opened
      exact utters.readable readable
  | confirmHandshake => exact (confirmHandshake_utters before).readable readable
  | takeResponse message =>
      exact (Utters.nothing (responding before message).quiet).readable readable

theorem Reachable.readable {session : Session Text} (reachable : Reachable session) :
    session.Connected Readable := by
  apply Reachable.induction _ _ reachable
  · intro processId folder
    exact connected_of_none rfl Readable
  · intro before after move readable
    exact move.readable readable

end LanguageClient.Session
