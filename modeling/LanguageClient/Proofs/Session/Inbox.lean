import LanguageClient.Proofs.Session.Conversation

/-! # The side that is read from

Taking messages looks at nothing that has to do with where they come from: neither at what
still waits in the pipe, nor at what the parser holds, nor at whether the server has closed
its end. So taking the first messages of a batch comes to the same whether or not those behind
them have been read.
-/

namespace LanguageClient

/-- The side of a connection that is read from. -/
structure Inbox where
  parser : FrameParser
  closed : Bool
  incoming : List ReadOutcome

namespace Connection

def inbox (connection : Connection) : Inbox :=
  ⟨connection.transport.parser, connection.transport.closed, connection.peer.incoming⟩

def reading (connection : Connection) (inbox : Inbox) : Connection :=
  { connection with
    transport := { connection.transport with parser := inbox.parser, closed := inbox.closed }
    peer := { connection.peer with incoming := inbox.incoming } }

end Connection

namespace Inbox

/-- What comes later waits behind what is there. -/
def deliver (inbox : Inbox) (outcomes : List ReadOutcome) : Inbox :=
  { inbox with incoming := inbox.incoming ++ outcomes }

theorem deliver_append (inbox : Inbox) (first second : List ReadOutcome) :
    inbox.deliver (first ++ second) = (inbox.deliver first).deliver second :=
  congrArg (Inbox.mk inbox.parser inbox.closed) (List.append_assoc _ _ _).symm

theorem not_mem_deliver_output {inbox : Inbox} (given : .wouldBlock ∉ inbox.incoming)
    (piece : List UInt8) : .wouldBlock ∉ (inbox.deliver (output piece false)).incoming := by
  intro member
  cases List.mem_append.mp member with
  | inl earlier => exact given earlier
  | inr last =>
      unfold output at last
      split at last
      · simp at last
      · simp at last

variable [Limits]

/-- What reading comes to: the messages completed, and the inbox behind. -/
def poll (inbox : Inbox) : Except Fault (List Json) × Inbox :=
  if inbox.closed then (.ok [], inbox)
  else
    let arrived := readAll inbox.incoming
    let fed := arrived.feedTo inbox.parser
    (fed.result, ⟨fed.parser, arrived.ended, arrived.rest⟩)

variable {inbox next : Inbox} {messages : List Json}

theorem poll_of_open (isOpen : inbox.closed = false) :
    inbox.poll =
      (((readAll inbox.incoming).feedTo inbox.parser).result,
        ⟨((readAll inbox.incoming).feedTo inbox.parser).parser,
          (readAll inbox.incoming).ended, (readAll inbox.incoming).rest⟩) := by
  rw [poll, isOpen]
  rfl

theorem poll_deliver (isOpen : inbox.closed = false) (later : List ReadOutcome) :
    (inbox.deliver later).poll =
      (((readAll (inbox.incoming ++ later)).feedTo inbox.parser).result,
        ⟨((readAll (inbox.incoming ++ later)).feedTo inbox.parser).parser,
          (readAll (inbox.incoming ++ later)).ended,
          (readAll (inbox.incoming ++ later)).rest⟩) :=
  poll_of_open isOpen

theorem poll_of_closed (closed : inbox.closed = true) : inbox.poll = (.ok [], inbox) := by
  rw [poll, closed]
  rfl

/-- Once the end was met, nothing that comes later is read. -/
theorem poll_deliver_of_closed (polled : inbox.poll = (.ok messages, next))
    (closed : next.closed = true) (later : List ReadOutcome) :
    (inbox.deliver later).poll = (.ok messages, next.deliver later) := by
  cases before : inbox.closed with
  | true =>
      have still : (inbox.deliver later).closed = true := before
      rw [poll_of_closed before] at polled
      obtain ⟨none, same⟩ := Prod.mk.inj polled
      rw [poll_of_closed still, none, same]
  | false =>
      rw [poll_of_open before] at polled
      obtain ⟨fed, rfl⟩ := Prod.mk.inj polled
      rw [poll_deliver before, readAll_append_of_ended closed, ← fed]
      rfl

/-- Otherwise what comes later is read behind the rest. -/
theorem poll_deliver_of_open (given : .wouldBlock ∉ inbox.incoming)
    (polled : inbox.poll = (.ok messages, next)) (isOpen : next.closed = false)
    (later : List ReadOutcome) :
    (inbox.deliver later).poll =
      ((next.deliver later).poll.1.map (messages ++ ·), (next.deliver later).poll.2) := by
  cases before : inbox.closed with
  | true =>
      rw [poll_of_closed before] at polled
      obtain ⟨_, rfl⟩ := Prod.mk.inj polled
      rw [before] at isOpen
      simp at isOpen
  | false =>
      rw [poll_of_open before] at polled
      obtain ⟨fed, rfl⟩ := Prod.mk.inj polled
      have whole : (readAll inbox.incoming).feedTo inbox.parser =
          ⟨.ok messages, ((readAll inbox.incoming).feedTo inbox.parser).parser⟩ :=
        FrameParser.Fed.ext fed rfl
      obtain ⟨none, read⟩ := readAll_append_of_open given isOpen later
      rw [poll_deliver before, poll_deliver isOpen]
      simp only [read, none, List.nil_append, feedTo_append whole]
      rfl

theorem poll_deliver_of_error {cause : Fault} (given : .wouldBlock ∉ inbox.incoming)
    (polled : inbox.poll = (.error cause, next)) (later : List ReadOutcome) :
    (inbox.deliver later).poll.1 = .error cause := by
  cases before : inbox.closed with
  | true =>
      rw [poll_of_closed before] at polled
      simp at polled
  | false =>
      rw [poll_of_open before] at polled
      obtain ⟨fed, rfl⟩ := Prod.mk.inj polled
      rw [poll_deliver before]
      cases ended : (readAll inbox.incoming).ended with
      | true =>
          rw [readAll_append_of_ended ended]
          exact fed
      | false =>
          rw [(readAll_append_of_open given ended later).2]
          exact feedTo_append_of_error fed _ _ _ _

/-- Nothing tells the one inbox from the other, or nothing is read from either any more. -/
def Alike (one other : Inbox) : Prop :=
  one = other ∨ one.closed = true ∧ other.closed = true

omit [Limits] in
theorem Alike.closed {one other : Inbox} (alike : one.Alike other) :
    one.closed = other.closed := by
  cases alike with
  | inl same => rw [same]
  | inr closed => rw [closed.1, closed.2]

theorem poll_output_append {inbox : Inbox} (given : .wouldBlock ∉ inbox.incoming)
    (piece more : List UInt8) (closes : Bool) :
    let whole := (inbox.deliver (output (piece ++ more) closes)).poll
    let parts := (inbox.deliver (output piece false ++ output more closes)).poll
    whole.1 = parts.1 ∧ whole.2.Alike parts.2 := by
  cases before : inbox.closed with
  | true =>
      have still (later : List ReadOutcome) : (inbox.deliver later).closed = true := before
      simp only [poll_of_closed (still _)]
      exact ⟨trivial, .inr ⟨before, before⟩⟩
  | false =>
      simp only [poll_deliver before]
      cases ended : (readAll inbox.incoming).ended with
      | true =>
          simp only [readAll_append_of_ended ended]
          exact ⟨rfl, .inr ⟨ended, ended⟩⟩
      | false =>
          simp only [(readAll_append_of_open given ended _).2, readAll_output_append]
          exact ⟨trivial, .inl rfl⟩

end Inbox

namespace Session

variable {π : Type}

/-- The session with another inbox, if it is connected. -/
def reading (session : Session π) (inbox : Inbox) : Session π :=
  { session with connection := session.connection.map (·.reading inbox) }

theorem reading_of_none {session : Session π} (nobody : session.connection = none)
    (inbox : Inbox) : session.reading inbox = session := by
  unfold reading
  rw [nobody, Option.map_none, ← nobody]

theorem reading_of_some {session : Session π} {connection : Connection}
    (running : session.connection = some connection) (inbox : Inbox) :
    session.reading inbox = session.hold (connection.reading inbox) := by
  unfold reading
  rw [running]
  rfl

theorem connection_reading {session : Session π} {connection : Connection}
    (running : session.connection = some connection) (inbox : Inbox) :
    (session.reading inbox).connection = some (connection.reading inbox) := by
  rw [reading_of_some running]
  rfl

theorem reading_reading (session : Session π) (first second : Inbox) :
    (session.reading first).reading second = session.reading second := by
  cases running : session.connection with
  | none =>
      rw [reading_of_none running]
  | some connection =>
      rw [reading_of_some running, reading_of_some running]
      rfl

theorem isConnectedTo_reading (session : Session π) (inbox : Inbox) (server : Nat) :
    (session.reading inbox).isConnectedTo server = session.isConnectedTo server := by
  cases running : session.connection with
  | none => rw [reading_of_none running]
  | some connection =>
      rw [reading_of_some running, isConnectedTo, isConnectedTo, running]
      rfl

variable [Host]

theorem logMessage_reading (session : Session π) (inbox : Inbox) (direction : Direction)
    (message : Json) :
    (session.reading inbox).logMessage direction message =
      (session.logMessage direction message).reading inbox := by
  have same : (session.reading inbox).logTraffic = session.logTraffic := rfl
  unfold logMessage
  rw [same]
  split
  · rfl
  · rfl

omit [Host] in
theorem disable_reading (session : Session π) (inbox : Inbox) (reason : Text) :
    (session.reading inbox).disable reason = session.disable reason := by
  cases running : session.connection with
  | none => rw [reading_of_none running]
  | some connection =>
      rw [reading_of_some running]
      unfold disable disconnect
      rw [running]
      rfl

omit [Host] in
/-- A message is sent in the same way whatever there is to be read. -/
theorem send_transport_reading [Limits] (connection : Connection) (inbox : Inbox)
    (message : Json) :
    let sent := connection.transport.send message connection.peer.writes connection.peer.flushFails
    (connection.reading inbox).transport.send message (connection.reading inbox).peer.writes
        (connection.reading inbox).peer.flushFails =
      { sent with
        transport := { sent.transport with parser := inbox.parser, closed := inbox.closed } } := by
  obtain ⟨server, process, ⟨descriptor, parser, usable, closed⟩, peer⟩ := connection
  cases usable with
  | false => rfl
  | true =>
      simp only [Connection.reading, Transport.send, Bool.not_true, Bool.false_eq_true, ↓reduceIte]
      cases Frame.encode message with
      | error fault => rfl
      | ok frame => rfl

theorem write_reading (session : Session π) (connection : Connection) (inbox : Inbox)
    (message : Json) :
    (session.reading inbox).write (connection.reading inbox) message =
      ((session.write connection message).1,
        (session.write connection message).2.1.reading inbox,
        (session.write connection message).2.2.reading inbox) := by
  have same : (session.reading inbox).unloggable? message = session.unloggable? message := rfl
  unfold write
  rw [same]
  split
  · rfl
  · rw [send_transport_reading, logMessage_reading]
    rfl

theorem send_reading (session : Session π) (inbox : Inbox) (message : Json) :
    (session.reading inbox).send message =
      ((session.send message).1, (session.send message).2.reading inbox) := by
  cases running : session.connection with
  | none =>
      have silent : session.send message = (.ok false, session) := by
        unfold send
        rw [running]
      rw [reading_of_none running, silent, reading_of_none running]
  | some connection =>
      unfold send
      rw [connection_reading running, running]
      simp only [write_reading]
      generalize session.write connection message = outcome
      obtain ⟨sent, connection, next⟩ := outcome
      have given : ((next.hold connection).reading inbox).disable
            "write to language server failed" =
          ((next.hold connection).disable "write to language server failed").reading inbox := by
        rw [disable_reading, reading_of_none (disable_connection _ _)]
      match sent with
      | .error fault => rfl
      | .ok true => rfl
      | .ok false => exact congrArg (Prod.mk (.ok false : Except Fault Bool)) given

theorem takeNotice_reading (session : Session π) (inbox : Inbox) (message : Json) :
    (session.reading inbox).takeNotice message =
      (session.takeNotice message).map (·.reading inbox) := by
  have same : (session.reading inbox).documents = session.documents := rfl
  unfold takeNotice
  rw [same]
  split
  · rfl
  · rfl
  · rfl

variable [BEq π] [DocumentName π]

theorem takeResponse_reading (session : Session π) (inbox : Inbox) (message : Json) :
    (session.reading inbox).takeResponse message =
      (session.takeResponse message).reading inbox := by
  have same : (session.reading inbox).requests = session.requests := rfl
  simp only [takeResponse]
  rw [same]
  split
  · rfl
  · next context requests _ =>
    cases context with
    | handshake =>
        simp only [takeHandshake]
        split
        · rfl
        · rfl
    | shutdown => rfl
    | semanticTokens uri =>
        simp only [takeSemanticTokens, reading]
        split
        · rfl
        · split
          · rfl
          · rfl
    | hover name line col =>
        simp only [takeHover, reading]
        split
        · rfl
        · rfl
    | completion name line col =>
        simp only [takeCompletion, reading]
        split
        · rfl
        · rfl

theorem takeMessage_reading (session : Session π) (inbox : Inbox) (message : Json) :
    (session.reading inbox).takeMessage message =
      ((session.takeMessage message).1, (session.takeMessage message).2.reading inbox) := by
  unfold takeMessage
  split
  · rw [takeResponse_reading]
  · simp only
    split
    · rfl
    · split
      · rw [send_reading]
      · rw [takeNotice_reading]
        cases session.takeNotice message with
        | error fault => rfl
        | ok next => rfl

theorem takeMessages_reading (server taken : Nat) (session : Session π) (inbox : Inbox)
    (messages : List Json) :
    takeMessages server taken (session.reading inbox) messages =
      ((takeMessages server taken session messages).1,
        (takeMessages server taken session messages).2.reading inbox) := by
  induction messages generalizing taken session with
  | nil => rfl
  | cons message rest ih =>
      unfold takeMessages
      rw [isConnectedTo_reading]
      split
      · simp only [logMessage_reading, takeMessage_reading]
        generalize (session.logMessage .incoming message).takeMessage message = outcome
        obtain ⟨result, next⟩ := outcome
        cases result with
        | error fault => rfl
        | ok _ => exact ih (taken + 1) next
      · rfl

/-- Messages in two batches are taken as the messages in one. -/
theorem takeMessages_append (server taken : Nat) (session : Session π)
    (first second : List Json) :
    takeMessages server taken session (first ++ second) =
      match takeMessages server taken session first with
      | (.error fault, next) => (.error fault, next)
      | (.ok count, next) => takeMessages server count next second := by
  induction first generalizing taken session with
  | nil => rfl
  | cons message rest ih =>
      rw [List.cons_append, takeMessages, takeMessages]
      cases connected : session.isConnectedTo server with
      | false =>
          cases second with
          | nil => rfl
          | cons other others =>
              simp [takeMessages, connected]
      | true =>
          simp only [↓reduceIte]
          generalize (session.logMessage .incoming message).takeMessage message = outcome
          obtain ⟨result, next⟩ := outcome
          cases result with
          | error fault => rfl
          | ok _ => exact ih (taken + 1) next

/-- How many were taken before only adds to the count. -/
theorem takeMessages_add (server before taken : Nat) (session : Session π)
    (messages : List Json) :
    takeMessages server (before + taken) session messages =
      ((takeMessages server taken session messages).1.map (before + ·),
        (takeMessages server taken session messages).2) := by
  induction messages generalizing taken session with
  | nil => rfl
  | cons message rest ih =>
      unfold takeMessages
      split
      · simp only
        generalize (session.logMessage .incoming message).takeMessage message = outcome
        obtain ⟨result, next⟩ := outcome
        cases result with
        | error fault => rfl
        | ok _ => exact ih (taken + 1) next
      · rfl

end Session

end LanguageClient
