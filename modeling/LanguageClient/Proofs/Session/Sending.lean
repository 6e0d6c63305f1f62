import LanguageClient.Proofs.Transport
import LanguageClient.Session.Lifecycle

/-! # What sending comes to

A session that runs no server sends nothing. One that runs a server hands it the whole frame
and goes on, or hands it a part and gives it up; or it withholds the message, which has no frame or
cannot be shown to the host, and goes on as well. Nothing else can happen.
-/

namespace LanguageClient

/-- The connection behind a message that was handed to it. -/
def Connection.told (connection : Connection) (sent : Bool) (rest : List WriteOutcome)
    (flushes : List Bool) : Connection :=
  { connection with
    transport := { connection.transport with usable := sent }
    peer := { connection.peer with writes := rest, flushes } }

namespace Session

variable {π : Type}

/-- The session with what has become of its connection. -/
def hold (session : Session π) (connection : Connection) : Session π :=
  { session with connection := some connection }

theorem disconnect_connection (session : Session π) (timeout : Timeout) :
    (session.disconnect timeout).connection = none := by
  unfold disconnect
  split
  · next nobody => exact nobody
  · rfl

theorem disable_connection (session : Session π) (reason : Text) :
    (session.disable reason).connection = none :=
  disconnect_connection session .now

theorem stopped_connection (ending : Session π) (timeout : Timeout) :
    (((ending.disconnect timeout).reset).emit .stopped).connection = none :=
  disconnect_connection ending timeout

/-- A stop lets the connection go as it was before the goodbyes. -/
theorem disconnect_hold {ending : Session π} {connection held : Connection}
    (running : ending.connection = some connection) (server : held.server = connection.server)
    (process : held.process = connection.process) (timeout : Timeout) :
    (ending.hold held).disconnect timeout = ending.disconnect timeout := by
  unfold disconnect hold
  simp only [running, server, process]

/-- The session that has noted a request, which waits for its response. -/
def noting (session : Session π) (context : RequestContext π) : Session π :=
  { session with requests := (session.requests.register context).2 }

/-- What waits once a request was noted is that one or waited before. -/
theorem eq_of_noting {session : Session π} {context noted : RequestContext π} {number : Nat}
    (waits : Table.get? (session.noting context).requests.waiting number = some noted) :
    (number = session.requests.next ∧ noted = context) ∨
      Table.get? session.requests.waiting number = some noted := by
  by_cases isNext : number = session.requests.next
  · rw [isNext] at waits
    exact .inl ⟨isNext, Option.some.inj (waits.symm.trans (Table.get?_put_self _ _ _))⟩
  · exact .inr ((Table.get?_put_of_ne isNext _ _).symm.trans waits)

/-- The session that has noted its request to shut down. -/
def leaving (session : Session π) : Session π :=
  session.noting .shutdown

def shutdownRequest (session : Session π) : Json :=
  Message.request session.requests.next "shutdown" .null

def exitOrder : Json :=
  Message.notification "exit" .null

variable [Host]

/-- The session behind a message of which the pipe to a server took some bytes, or which was
    withheld. -/
def said (session : Session π) (server : Nat) (message : Json)
    (taken : Except Fault (List UInt8)) : Session π :=
  (session.logMessage .outgoing message).record (.wrote server message taken)

theorem logMessage_of_unloggable {session : Session π} {message : Json} {fault : Fault}
    (unloggable : session.unloggable? message = some fault) (direction : Direction) :
    session.logMessage direction message = session := by
  unfold unloggable? at unloggable
  split at unloggable
  · rw [logMessage, if_neg (by simp [unloggable])]
  · cases unloggable

/-- What writing a message to a connection comes to: whether all of it was taken, and what there is
    behind. -/
inductive Writes (session : Session π) (connection : Connection) (message : Json) :
    Except Fault Bool × Connection × Session π → Prop where
  | whole {frame : List UInt8} (rest : List WriteOutcome) (flushes : List Bool)
      (framed : Frame.encode message = .ok frame) :
      Writes session connection message
        (.ok true, connection.told true rest flushes,
          session.said connection.server message (.ok frame))
  | part {taken : List UInt8} (rest : List WriteOutcome) (flushes : List Bool)
      (isPart : Transport.IsPart message taken) :
      Writes session connection message
        (.ok false, connection.told false rest flushes,
          session.said connection.server message (.ok taken))
  | withheld (fault : Fault) :
      Writes session connection message
        (.error fault, connection, session.said connection.server message (.error fault))

theorem writes (session : Session π) (connection : Connection) (message : Json) :
    Writes session connection message (session.write connection message) := by
  unfold write
  split
  · next fault unloggable =>
    have unlogged := logMessage_of_unloggable unloggable .outgoing
    have withheld := @Writes.withheld _ _ session connection message fault
    rw [said, unlogged] at withheld
    exact withheld
  · obtain ⟨behind, isWhole, isPart, stays⟩ := connection.transport.send_spec message
      connection.peer.writes connection.peer.flushFails
    dsimp only
    unfold Peer.behind Transport.Sent.outcome
    generalize connection.transport.send message _ _ = result at behind isWhole isPart stays ⊢
    cases outcome : result.sent with
    | error fault =>
        obtain ⟨_, same, rest, unflushed⟩ := stays fault outcome
        rw [same, rest, unflushed]
        exact .withheld fault
    | ok sent =>
        have told := behind sent outcome
        cases sent with
        | true =>
            rw [told]
            exact .whole result.rest _ (isWhole outcome)
        | false =>
            rw [told]
            exact .part result.rest _ (isPart outcome)

/-- What sending a message comes to: whether it was sent, and the session behind. -/
inductive Sending (session : Session π) (message : Json) :
    Except Fault Bool × Session π → Prop where
  | idle (nobody : session.connection = none) : Sending session message (.ok false, session)
  | whole {connection : Connection} {frame : List UInt8} (rest : List WriteOutcome)
      (flushes : List Bool) (running : session.connection = some connection)
      (framed : Frame.encode message = .ok frame) :
      Sending session message
        (.ok true, (session.said connection.server message (.ok frame)).hold
          (connection.told true rest flushes))
  | part {connection : Connection} {taken : List UInt8} (rest : List WriteOutcome)
      (flushes : List Bool) (running : session.connection = some connection)
      (isPart : Transport.IsPart message taken) :
      Sending session message
        (.ok false, ((session.said connection.server message (.ok taken)).hold
          (connection.told false rest flushes)).disable "write to language server failed")
  | withheld {connection : Connection} (fault : Fault)
      (running : session.connection = some connection) :
      Sending session message
        (.error fault,
          (session.said connection.server message (.error fault)).hold connection)

theorem sending (session : Session π) (message : Json) :
    Sending session message (session.send message) := by
  unfold send
  cases running : session.connection with
  | none => exact .idle running
  | some connection =>
      have written := writes session connection message
      dsimp only
      generalize session.write connection message = result at written ⊢
      cases written with
      | whole rest flushes framed => exact .whole rest flushes running framed
      | part rest flushes isPart => exact .part rest flushes running isPart
      | withheld fault => exact .withheld fault running

theorem request_fst (session : Session π) (method : Text) (params : Json)
    (context : RequestContext π) :
    (session.request method params context).1 =
      ((session.noting context).send
        (Message.request session.requests.next method params)).1.map fun sent =>
          if sent then session.requests.next else 0 := rfl

theorem request_snd (session : Session π) (method : Text) (params : Json)
    (context : RequestContext π) :
    (session.request method params context).2 =
      ((session.noting context).send
        (Message.request session.requests.next method params)).2 := rfl

theorem logMessage_hold (session : Session π) (held : Connection) (direction : Direction)
    (message : Json) : (session.hold held).logMessage direction message =
      (session.logMessage direction message).hold held := by
  have same : (session.hold held).logTraffic = session.logTraffic := rfl
  unfold logMessage
  rw [same]
  split <;> rfl

/-- What writing comes to does not hang on what has become of the connection before. -/
theorem write_hold (session : Session π) (held connection : Connection) (message : Json) :
    (session.hold held).write connection message =
      ((session.write connection message).1, (session.write connection message).2.1,
        (session.write connection message).2.2.hold held) := by
  have unloggable : (session.hold held).unloggable? message = session.unloggable? message := rfl
  unfold write
  rw [unloggable]
  split
  · rfl
  · simp only [logMessage_hold]
    rfl

theorem send_of_connection {session : Session π} {connection : Connection}
    (running : session.connection = some connection) (message : Json) :
    session.send message =
      match session.write connection message with
      | (.ok false, connection, session) =>
        (.ok false, (session.hold connection).disable "write to language server failed")
      | (sent, connection, session) => (sent, session.hold connection) := by
  unfold send
  rw [running]
  dsimp only
  generalize session.write connection message = result
  obtain ⟨sent, _, _⟩ := result
  cases sent with
  | error fault => rfl
  | ok sent => cases sent <;> rfl

/-- What a session says that goes through with stopping: the order to exit follows only a request
    that was sent. -/
inductive Goodbye (session : Session π) (server : Nat) : Session π → Prop where
  | unsent {taken : List UInt8} (isPart : Transport.IsPart session.shutdownRequest taken) :
      Goodbye session server (session.leaving.said server session.shutdownRequest (.ok taken))
  | sent {frame taken : List UInt8} (framed : Frame.encode session.shutdownRequest = .ok frame)
      (isPart : Transport.IsPart exitOrder taken) :
      Goodbye session server
        ((session.leaving.said server session.shutdownRequest (.ok frame)).said server exitOrder
          (.ok taken))

/-- What a stop comes to. One of which a message is withheld has come to nothing but the messages
    that were to be sent. -/
inductive Stopping (session : Session π) : Except Fault Unit × Session π → Prop where
  | idle (nobody : session.connection = none) : Stopping session (.ok (), session)
  | unasked {fault : Fault} (running : session.isRunning = true)
      (withheld : (session.request "shutdown" .null .shutdown).1 = .error fault) :
      Stopping session (.error fault, (session.request "shutdown" .null .shutdown).2)
  | unordered {number : Nat} {fault : Fault} (running : session.isRunning = true)
      (asked : (session.request "shutdown" .null .shutdown).1 = .ok number)
      (withheld : ((session.request "shutdown" .null .shutdown).2.send exitOrder).1 =
        .error fault) :
      Stopping session
        (.error fault, ((session.request "shutdown" .null .shutdown).2.send exitOrder).2)
  | stopped {connection : Connection} {ending : Session π}
      (running : session.connection = some connection)
      (parting : Goodbye session connection.server ending) :
      Stopping session
        (.ok (), ((ending.disconnect ending.shutdownTimeout).reset).emit .stopped)

theorem connection_logMessage (session : Session π) (direction : Direction) (message : Json) :
    (session.logMessage direction message).connection = session.connection := by
  unfold logMessage
  split <;> rfl

theorem connection_said (session : Session π) (server : Nat) (message : Json)
    (taken : Except Fault (List UInt8)) :
    (session.said server message taken).connection = session.connection :=
  connection_logMessage session .outgoing message

theorem sayGoodbye_eq (session : Session π) (connection : Connection) :
    session.sayGoodbye connection =
      match session.leaving.write connection session.shutdownRequest with
      | (.error fault, connection, session) => (.error fault, connection, session)
      | (.ok false, connection, session) => (.ok (), connection, session)
      | (.ok true, connection, session) =>
        ((session.write connection exitOrder).1.map fun _ => (),
          (session.write connection exitOrder).2) :=
  rfl

theorem stopping (session : Session π) : Stopping session session.stop := by
  unfold stop
  cases running : session.connection with
  | none => exact .idle running
  | some connection =>
      have isRunning : session.isRunning = true := Option.isSome_of_eq_some running
      have stops {ending : Session π} {held : Connection} (connected : ending.connection =
            some connection) (server : held.server = connection.server)
          (process : held.process = connection.process)
          (parting : Goodbye session connection.server ending) :
          Stopping session
            (.ok (), (((ending.hold held).disconnect ending.shutdownTimeout).reset).emit
              .stopped) := by
        rw [disconnect_hold connected server process]
        exact .stopped running parting
      have requested (message : Json) := @send_of_connection _ _ session.leaving _ running message
      have asked := writes session.leaving connection session.shutdownRequest
      dsimp only
      rw [sayGoodbye_eq]
      have request : session.request "shutdown" .null .shutdown =
          ((session.leaving.send session.shutdownRequest).1.map fun sent =>
              if sent then session.requests.next else 0,
            (session.leaving.send session.shutdownRequest).2) := rfl
      rw [requested] at request
      generalize session.leaving.write connection session.shutdownRequest = result
        at asked request ⊢
      have connected (taken : Except Fault (List UInt8)) :=
        (connection_said session.leaving connection.server session.shutdownRequest taken).trans
          running
      cases asked with
      | withheld fault =>
          have unasked := @Stopping.unasked _ _ session fault isRunning (by rw [request]; rfl)
          rw [request] at unasked
          exact unasked
      | part rest flushes isPart => exact stops (connected _) rfl rfl (.unsent isPart)
      | @whole frame rest flushes framed =>
          have ordered := writes (session.leaving.said connection.server session.shutdownRequest
            (.ok frame)) (connection.told true rest flushes) exitOrder
          have order := @send_of_connection _ _ ((session.leaving.said connection.server
            session.shutdownRequest (.ok frame)).hold (connection.told true rest flushes)) _ rfl
            exitOrder
          rw [write_hold] at order
          dsimp only at request order ⊢
          generalize Session.write _ (connection.told true rest flushes) exitOrder = result
            at ordered order ⊢
          cases ordered with
          | withheld fault =>
              have unordered := @Stopping.unordered _ _ session session.requests.next fault
                isRunning (by rw [request]; rfl) (by rw [request]; exact congrArg Prod.fst order)
              rw [request, order] at unordered
              exact unordered
          | part rest flushes isPart =>
              exact stops ((connection_said _ _ _ _).trans (connected _)) rfl rfl
                (.sent framed isPart)
          | whole rest flushes whole =>
              exact stops ((connection_said _ _ _ _).trans (connected _)) rfl rfl
                (.sent framed (.inr ⟨_, whole, List.prefix_refl _⟩))

/-- What the messages of a stop keep, and the end of the server, the stop keeps. -/
theorem Stopping.keeps {session : Session π} {outcome : Except Fault Unit × Session π}
    {motive : Session π → Prop} (stopping : Stopping session outcome) (holds : motive session)
    (asked : session.isRunning = true → motive (session.request "shutdown" .null .shutdown).2)
    (ordered : ∀ {asking : Session π}, motive asking → motive (asking.send exitOrder).2)
    (stopped : ∀ {connection : Connection} {ending : Session π},
      session.connection = some connection → Goodbye session connection.server ending →
      motive (((ending.disconnect ending.shutdownTimeout).reset).emit .stopped)) :
    motive outcome.2 := by
  cases stopping with
  | idle nobody => exact holds
  | unasked running withheld => exact asked running
  | unordered running asks withheld => exact ordered (asked running)
  | stopped running parting => exact stopped running parting

end Session

end LanguageClient
