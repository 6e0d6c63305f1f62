import LanguageClient.Proofs.Diagnostics
import LanguageClient.Proofs.Document.Lookup
import LanguageClient.Proofs.Session.Sending
import LanguageClient.Proofs.Text.Utf8
import LanguageClient.Session.Loop

/-! # How messages are sorted

A message from the server is a response, a request, a notice or none of these. A request is
refused, and that changes nothing but what was written. Most of what is odd is passed over; only
diagnostics that give a number beyond all bounds end the batch that they arrive in, and requests
that cannot be refused, since the refusal repeats what they said.
-/

namespace LanguageClient

theorem Json.text?_field_iff {value : Json} {name text : Text} :
    (value.field name).text? = some text ↔ value.get? name = some (.str text) := by
  unfold Json.field
  cases value.get? name with
  | none => simp [Json.text?]
  | some part => cases part <;> simp [Json.text?]

namespace Message

/-- The method of the message is a text, and not an empty one. -/
def Calls (message : Json) (method : Text) : Prop :=
  message.get? "method" = some (.str method) ∧ method ≠ ""

variable {message : Json}

theorem Calls.textOrEmpty {method : Text} (calls : Calls message method) :
    (message.field "method").textOrEmpty = method := by
  rw [Json.textOrEmpty, Json.text?_field_iff.mpr calls.1]
  rfl

theorem textOrEmpty_of_nameless (nameless : ∀ method, ¬Calls message method) :
    (message.field "method").textOrEmpty = "" := by
  unfold Json.textOrEmpty
  cases named : (message.field "method").text? with
  | none => rfl
  | some method =>
      exact by_contra fun unblank => nameless method ⟨Json.text?_field_iff.mp named, unblank⟩

/-- What a message is, by its identifier and its method. -/
inductive Kind (message : Json) : Prop where
  | response {id : Json} (isId : message.get? "id" = some id)
      (unnamed : message.get? "method" = none)
  | request {id : Json} {method : Text} (isId : message.get? "id" = some id)
      (calls : Calls message method)
  | notice {method : Text} (unasked : message.get? "id" = none)
      (calls : Calls message method)
  | nameless (noResponse : message.get? "id" = none ∨ message.get? "method" ≠ none)
      (nameless : ∀ method, ¬Calls message method)

theorem kind (message : Json) : Kind message := by
  by_cases named : ∃ method, Calls message method
  · obtain ⟨method, calls⟩ := named
    cases isId : message.get? "id" with
    | none => exact .notice isId calls
    | some id => exact .request isId calls
  · have nameless := not_exists.mp named
    cases isId : message.get? "id" with
    | none => exact .nameless (.inl isId) nameless
    | some id =>
        cases isMethod : message.get? "method" with
        | none => exact .response isId isMethod
        | some method => exact .nameless (.inr (by simp [isMethod])) nameless

end Message

/-! ## What is sent -/

/-- The pipe to a server takes the whole frame of a message. -/
def Connection.Takes [Limits] (connection : Connection) (message : Json) : Prop :=
  (connection.transport.send message connection.peer.writes connection.peer.flushFails).sent =
    .ok true

/-- The connection behind a message that was sent: the pipe has been called, and that is all. -/
def Connection.behind [Limits] (connection : Connection) (message : Json) : Connection :=
  { connection with
    peer := connection.peer.behind
      (connection.transport.send message connection.peer.writes connection.peer.flushFails) }

theorem DocumentStore.subject?_of_misses [Places] {store : DocumentStore} {params : Json}
    (misses : ∀ uri, params.get? "uri" = some (.str uri) → uri ≠ "" → store.Misses uri) :
    store.subject? params = none := by
  unfold subject?
  cases named : (params.field "uri").text? with
  | none => rfl
  | some uri =>
      dsimp only
      split
      · rfl
      · next unblank =>
        rw [Text.isEmpty_iff] at unblank
        exact findByUri?_eq_none_iff.mpr (misses uri (Json.text?_field_iff.mp named) unblank)

namespace Session

open Message (Calls)

variable {π : Type} {session : Session π} {message : Json} [Host]

theorem send_of_takes {connection : Connection} (running : session.connection = some connection)
    (loggable : session.unloggable? message = none) (takes : connection.Takes message) :
    session.send message =
      (.ok true, (session.said connection.server message (Frame.encode message)).hold
        (connection.behind message)) := by
  obtain ⟨behind, isWhole, _, _⟩ := connection.transport.send_spec message
    connection.peer.writes connection.peer.flushFails
  unfold Connection.Takes at takes
  have usable : connection.transport.usable = true := by
    by_contra unusable
    rw [Transport.send, Bool.eq_false_iff.mpr unusable] at takes
    exact absurd (Except.ok.inj takes) Bool.false_ne_true
  have same : { connection.transport with usable := true } = connection.transport := by
    rw [← usable]
  have transport := (behind true takes).trans same
  unfold send write Connection.behind
  rw [running]
  simp only [loggable]
  unfold Transport.Sent.outcome
  rw [takes, transport, isWhole takes]
  rfl

/-- Why a message is withheld: it cannot be shown to the host, or it has no frame. -/
def withheld? (session : Session π) (message : Json) : Option Fault :=
  (session.unloggable? message).or
    (match Frame.encode message with
      | .error fault => some fault
      | .ok _ => none)

theorem send_of_withheld {connection : Connection} {fault : Fault}
    (running : session.connection = some connection)
    (usable : connection.transport.usable = true)
    (withheld : session.withheld? message = some fault) :
    session.send message =
      (.error fault, (session.said connection.server message (.error fault)).hold connection) := by
  unfold withheld? at withheld
  unfold send write
  rw [running]
  cases unloggable : session.unloggable? message with
  | some other =>
      simp only [unloggable, Option.some_or, Option.some.injEq] at withheld
      subst withheld
      rw [said, logMessage_of_unloggable unloggable]
      rfl
  | none =>
      simp only [unloggable, Option.none_or] at withheld
      split at withheld
      · next frameless =>
        obtain rfl := Option.some.inj withheld
        simp only [Transport.send_of_frameless usable frameless]
        rfl
      · cases withheld

theorem documents_logMessage (session : Session π) (direction : Direction) (message : Json) :
    (session.logMessage direction message).documents = session.documents := by
  unfold logMessage
  split
  · rfl
  · rfl

variable [BEq π] [DocumentName π]

/-! ## What taking a message comes to -/

theorem takeMessage_of_response {id : Json} (isId : message.get? "id" = some id)
    (unnamed : message.get? "method" = none) (session : Session π) :
    session.takeMessage message = (.ok (), session.takeResponse message) := by
  unfold takeMessage
  rw [isId, unnamed]

theorem takeMessage_of_request {id : Json} {method : Text} (isId : message.get? "id" = some id)
    (calls : Calls message method) (session : Session π) :
    session.takeMessage message =
      ((session.send (Message.refusal id method)).1.map fun _ => (),
        (session.send (Message.refusal id method)).2) := by
  unfold takeMessage
  rw [isId, calls.1]
  dsimp only
  rw [calls.textOrEmpty, if_neg fun blank => calls.2 (Text.isEmpty_iff.mp blank)]

theorem takeMessage_of_notice {method : Text} (unasked : message.get? "id" = none)
    (calls : Calls message method) (session : Session π) :
    session.takeMessage message =
      match session.takeNotice message with
      | .ok next => (.ok (), next)
      | .error fault => (.error fault, session) := by
  unfold takeMessage
  rw [unasked]
  dsimp only
  have named : ¬ method.isEmpty = true := fun blank => calls.2 (Text.isEmpty_iff.mp blank)
  rw [calls.textOrEmpty]
  cases session.takeNotice message with
  | ok next => exact if_neg named
  | error fault => exact if_neg named

theorem takeMessage_of_nameless
    (noResponse : message.get? "id" = none ∨ message.get? "method" ≠ none)
    (nameless : ∀ method, ¬Calls message method) (session : Session π) :
    session.takeMessage message = (.ok (), session) := by
  have blank : (message.field "method").textOrEmpty.isEmpty = true := by
    rw [Message.textOrEmpty_of_nameless nameless]
    rfl
  unfold takeMessage
  split
  · next isId unnamed =>
    rcases noResponse with unasked | named
    · exact absurd (isId.symm.trans unasked) (Option.some_ne_none _)
    · exact absurd unnamed named
  · dsimp only
    rw [if_pos blank]

omit [BEq π] [DocumentName π] in
theorem takeNotice_of_foreign {method : Text} (calls : Calls message method)
    (foreign : method ≠ publishDiagnostics) (session : Session π) :
    session.takeNotice message = .ok session := by
  have other : (message.field "method").text? ≠ some publishDiagnostics := fun same =>
    foreign (Option.some.inj ((Json.text?_field_iff.mpr calls.1).symm.trans same))
  rw [takeNotice, DocumentStore.notice, if_neg other]

omit [BEq π] [DocumentName π] in
/-- Diagnostics are told to the host if they are about a document, and refused if one of them
    is endless. -/
theorem takeNotice_of_publication (calls : Calls message publishDiagnostics)
    (session : Session π) :
    session.takeNotice message =
      match session.documents.subject? (message.field "params") with
      | none => .ok session
      | some document =>
        let objects := Diagnostic.objectsIn ((message.field "params").field "diagnostics")
        if objects.any Diagnostic.isEndless then .error .infiniteInteger
        else .ok (session.emit (.diagnostics document.path (objects.map Diagnostic.remark))) := by
  rw [takeNotice, DocumentStore.notice, if_pos (Json.text?_field_iff.mpr calls.1)]
  dsimp only
  cases session.documents.subject? (message.field "params") with
  | none => rfl
  | some document =>
      dsimp only
      rw [Diagnostic.ofArray_eq]
      generalize Diagnostic.objectsIn ((message.field "params").field "diagnostics") = objects
      cases objects.any Diagnostic.isEndless with
      | true => rfl
      | false => rfl

/-! ## What is passed over -/

/-- A message that changes nothing: a response that no request waits for, what has no method that
    is a text, a notice that is not taken, and diagnostics that are about no open document. -/
inductive PassedOver (session : Session π) (message : Json) : Prop where
  | unawaited {id : Json} (isId : message.get? "id" = some id)
      (unnamed : message.get? "method" = none)
      (unawaited : ∀ number : Nat, id = .int number →
        Table.get? session.requests.waiting number = none)
  | nameless (noResponse : message.get? "id" = none ∨ message.get? "method" ≠ none)
      (nameless : ∀ method, ¬Calls message method)
  | foreign {method : Text} (unasked : message.get? "id" = none)
      (calls : Calls message method) (foreign : method ≠ publishDiagnostics)
  | astray (unasked : message.get? "id" = none) (calls : Calls message publishDiagnostics)
      (astray : ∀ uri, (message.field "params").get? "uri" = some (.str uri) → uri ≠ "" →
        session.documents.Misses uri)

theorem takeResponse_of_unawaited {id : Json} (isId : message.get? "id" = some id)
    (unawaited : ∀ number : Nat, id = .int number →
      Table.get? session.requests.waiting number = none) :
    session.takeResponse message = session := by
  have field : message.field "id" = id := by
    rw [Json.field, isId]
    rfl
  have unresolved : session.requests.resolve id = (none, session.requests) := by
    unfold PendingRequests.resolve PendingRequests.numberOf?
    split
    · rfl
    · next number isNumber =>
      split at isNumber
      · obtain rfl := Option.some.inj isNumber
        rw [unawaited _ rfl]
      · cases isNumber
  unfold takeResponse
  rw [field, unresolved]

theorem takeMessage_of_passedOver (passed : session.PassedOver message) :
    session.takeMessage message = (.ok (), session) := by
  cases passed with
  | unawaited isId unnamed unawaited =>
      rw [takeMessage_of_response isId unnamed, takeResponse_of_unawaited isId unawaited]
  | nameless noResponse nameless => exact takeMessage_of_nameless noResponse nameless session
  | foreign unasked calls foreign =>
      rw [takeMessage_of_notice unasked calls, takeNotice_of_foreign calls foreign]
  | astray unasked calls astray =>
      rw [takeMessage_of_notice unasked calls, takeNotice_of_publication calls,
        DocumentStore.subject?_of_misses astray]

/-- A request is answered by one frame, the refusal with its identifier; but for that frame, which
    the host may want to know of, and the calls of the pipe that it took, nothing changes. A refusal
    that is withheld leaves the request unanswered, and ends the call. A message that is passed over
    changes nothing at all. -/
theorem refused_or_passedOver {connection : Connection}
    (running : session.connection = some connection) (message : Json) :
    (∀ id method, message.get? "id" = some id → Calls message method →
      (session.unloggable? (Message.refusal id method) = none →
        connection.Takes (Message.refusal id method) →
        session.takeMessage message =
          (.ok (), (session.said connection.server (Message.refusal id method)
            (Frame.encode (Message.refusal id method))).hold
              (connection.behind (Message.refusal id method)))) ∧
      (∀ fault, connection.transport.usable = true →
        session.withheld? (Message.refusal id method) = some fault →
        session.takeMessage message =
          (.error fault, (session.said connection.server (Message.refusal id method)
            (.error fault)).hold connection))) ∧
    (session.PassedOver message → session.takeMessage message = (.ok (), session)) := by
  refine ⟨?_, takeMessage_of_passedOver⟩
  intro id method isId calls
  rw [takeMessage_of_request isId calls]
  constructor
  · intro loggable takes
    rw [send_of_takes running loggable takes]
    rfl
  · intro fault usable withheld
    rw [send_of_withheld running usable withheld]
    rfl

/-- A server that runs, and owes the response to the handshake. -/
def awaited : Connection where
  server := 0
  process := { commandLine := "server", child := {} }
  transport := { descriptor := 5 }

def awaiting : Session Text where
  folder := "/home"
  connection := some awaited
  requests := { next := 2, waiting := [(1, .handshake)] }

/-- A response whose identifier is the number of the handshake as a text. -/
def misnumbered : Json := .obj [("id", .str "1"), ("result", .obj [])]

def inquisitive : Json := .obj [("id", .str "1"), ("method", .str "workspace/configuration")]

/-- A request with a method that is no string. -/
def unspeakable : Json := .obj [("id", .int 1), ("method", .str Text.unpaired)]

end Session

end LanguageClient

open scoped LanguageClient.Host.Bare

namespace LanguageClient.Session

theorem takeMessage_awaiting :
    awaiting.takeMessage inquisitive =
      (.ok (), (awaiting.said 0 (Message.refusal (.str "1") "workspace/configuration")
        (Frame.encode (Message.refusal (.str "1") "workspace/configuration"))).hold
          (awaited.behind (Message.refusal (.str "1") "workspace/configuration"))) ∧
    awaiting.takeMessage misnumbered = (.ok (), awaiting) := by
  have running : awaiting.connection = some awaited := rfl
  have answered := (refused_or_passedOver running inquisitive).1 (.str "1")
    "workspace/configuration" rfl ⟨rfl, by decide⟩
  refine ⟨answered.1 rfl ?_, ?_⟩
  · unfold Connection.Takes
    decide +kernel
  · exact (refused_or_passedOver running misnumbered).2 (.unawaited rfl rfl nofun)

/-- A request is left unanswered by a server that would take every write. -/
theorem unanswered_unspeakable :
    awaited.peer = {} ∧ Message.Calls unspeakable Text.unpaired ∧
      (awaiting.takeMessage unspeakable).1 = .error (.unencodable 0 80 1) ∧
      (awaiting.takeMessage unspeakable).2.connection = awaiting.connection := by
  refine ⟨rfl, ⟨rfl, by decide⟩, ?_, ?_⟩
  · decide +kernel
  · decide +kernel

end LanguageClient.Session

namespace LanguageClient.Session

open Message (Calls)

variable {π : Type} {session : Session π} {message : Json} [BEq π] [DocumentName π] [Host]

/-! ## Messages that end a batch -/

/-- A message publishes diagnostics about a document, and one of them is endless. -/
structure FailsOn (session : Session π) (message : Json) : Prop where
  unasked : message.get? "id" = none
  calls : Calls message publishDiagnostics
  subject : session.documents.subject? (message.field "params") ≠ none
  endless : (Diagnostic.objectsIn ((message.field "params").field "diagnostics")).any
    Diagnostic.isEndless = true

theorem takeMessage_of_failsOn (fails : session.FailsOn message) :
    session.takeMessage message = (.error .infiniteInteger, session) := by
  obtain ⟨document, subject⟩ := Option.ne_none_iff_exists'.mp fails.subject
  rw [takeMessage_of_notice fails.unasked fails.calls, takeNotice_of_publication fails.calls,
    subject]
  simp only [fails.endless, ↓reduceIte]

/-- A message asks for something, and the refusal is withheld. -/
structure Unanswered (session : Session π) (message : Json) (id : Json) (method : Text)
    (fault : Fault) : Prop where
  isId : message.get? "id" = some id
  calls : Calls message method
  withheld : (session.send (Message.refusal id method)).1 = .error fault

theorem takeMessage_of_unanswered {id : Json} {method : Text} {fault : Fault}
    (unanswered : session.Unanswered message id method fault) :
    session.takeMessage message =
      (.error fault, (session.send (Message.refusal id method)).2) := by
  rw [takeMessage_of_request unanswered.isId unanswered.calls, unanswered.withheld]
  rfl

/-- Every other message is taken. -/
theorem takeMessage_of_fine (finite : ¬session.FailsOn message)
    (answered : ∀ id method fault, ¬session.Unanswered message id method fault) :
    (session.takeMessage message).1 = .ok () := by
  cases Message.kind message with
  | response isId unnamed => rw [takeMessage_of_response isId unnamed session]
  | @request id method isId calls =>
      rw [takeMessage_of_request isId calls session]
      cases sent : (session.send (Message.refusal id method)).1 with
      | error fault => exact absurd ⟨isId, calls, sent⟩ (answered id method fault)
      | ok _ => rfl
  | nameless noResponse nameless => rw [takeMessage_of_nameless noResponse nameless session]
  | @notice method unasked calls =>
      rw [takeMessage_of_notice unasked calls]
      by_cases isOurs : method = publishDiagnostics
      · subst isOurs
        rw [takeNotice_of_publication calls]
        cases subject : session.documents.subject? (message.field "params") with
        | none => rfl
        | some document =>
            have bounded : ¬(Diagnostic.objectsIn
                ((message.field "params").field "diagnostics")).any Diagnostic.isEndless = true :=
              fun endless => finite ⟨unasked, calls, by simp [subject], endless⟩
            simp only [bounded, Bool.false_eq_true, ↓reduceIte]
      · rw [takeNotice_of_foreign calls isOurs session]

omit [BEq π] [DocumentName π] in
theorem failsOn_logMessage {direction : Direction} {other : Json} :
    (session.logMessage direction other).FailsOn message ↔ session.FailsOn message := by
  constructor
  · rintro ⟨unasked, calls, subject, endless⟩
    rw [documents_logMessage] at subject
    exact ⟨unasked, calls, subject, endless⟩
  · rintro ⟨unasked, calls, subject, endless⟩
    rw [← documents_logMessage session direction other] at subject
    exact ⟨unasked, calls, subject, endless⟩

/-- What a batch comes to at a message that ends it: it publishes endless diagnostics, or it asks
    for something and the refusal is withheld. -/
inductive Ends (reached : Session π) (message : Json) : Except Fault Nat × Session π → Prop where
  | endless (fails : reached.FailsOn message) :
      Ends reached message (.error .infiniteInteger, reached.logMessage .incoming message)
  | unanswered {id : Json} {method : Text} {fault : Fault}
      (unanswered : (reached.logMessage .incoming message).Unanswered message id method fault) :
      Ends reached message
        (.error fault,
          ((reached.logMessage .incoming message).send (Message.refusal id method)).2)

/-- A batch goes through, or it ends at a message, behind which none is taken. -/
theorem takeMessages_ok_or_ends (server taken : Nat) (session : Session π)
    (messages : List Json) :
    (∃ count, (takeMessages server taken session messages).1 = .ok count) ∨
    ∃ before message later reached, messages = before ++ message :: later ∧
      takeMessages server taken session before = (.ok (taken + before.length), reached) ∧
      Ends reached message (takeMessages server taken session messages) := by
  induction messages generalizing taken session with
  | nil => exact .inl ⟨taken, rfl⟩
  | cons message rest ih =>
      by_cases connected : session.isConnectedTo server = true
      · have ends {fault : Fault} {next : Session π}
            (faulted : (session.logMessage .incoming message).takeMessage message =
              (.error fault, next)) :
            takeMessages server taken session (message :: rest) = (.error fault, next) := by
          rw [takeMessages, if_pos connected]
          simp only [faulted]
        by_cases fails : (session.logMessage .incoming message).FailsOn message
        · refine .inr ⟨[], message, rest, session, rfl, rfl, ?_⟩
          rw [ends (takeMessage_of_failsOn fails)]
          exact .endless (failsOn_logMessage.mp fails)
        · by_cases unanswered : ∃ id method fault,
              (session.logMessage .incoming message).Unanswered message id method fault
          · obtain ⟨id, method, fault, unanswered⟩ := unanswered
            refine .inr ⟨[], message, rest, session, rfl, rfl, ?_⟩
            rw [ends (takeMessage_of_unanswered unanswered)]
            exact .unanswered unanswered
          · have done := takeMessage_of_fine fails fun id method fault left =>
              unanswered ⟨id, method, fault, left⟩
            have onward (others : List Json) :
                takeMessages server taken session (message :: others) =
                  takeMessages server (taken + 1)
                    ((session.logMessage .incoming message).takeMessage message).2 others := by
              have taken : (session.logMessage .incoming message).takeMessage message =
                  (.ok (), ((session.logMessage .incoming message).takeMessage message).2) :=
                Prod.ext done rfl
              rw [takeMessages, if_pos connected]
              dsimp only
              rw [taken]
            rw [onward]
            rcases ih (taken + 1) _ with
              through | ⟨before, last, later, reached, rfl, counted, ends⟩
            · exact .inl through
            · refine .inr ⟨message :: before, last, later, reached, rfl, ?_, ends⟩
              rw [onward, counted, List.length_cons, Nat.add_right_comm, Nat.add_assoc]
      · rw [takeMessages, if_neg connected]
        exact .inl ⟨taken, rfl⟩

/-- Every object in an array of diagnostics makes a remark, in order and at a position that is not
    below zero, unless one of them is endless. A batch of messages goes through unless one of them
    publishes such diagnostics about a document, or asks for something and cannot be refused; with
    it the messages behind it are lost. -/
theorem remarked_or_endless (value : Json) (server taken : Nat) (session : Session π)
    (messages : List Json) :
    (Diagnostic.ofArray value =
      if (Diagnostic.objectsIn value).any Diagnostic.isEndless then .error .infiniteInteger
      else .ok ((Diagnostic.objectsIn value).map Diagnostic.remark)) ∧
    (∀ item, (Diagnostic.remark item).IsPlaced) ∧
    ((∃ count, (takeMessages server taken session messages).1 = .ok count) ∨
      ∃ before message later reached, messages = before ++ message :: later ∧
        takeMessages server taken session before = (.ok (taken + before.length), reached) ∧
        Ends reached message (takeMessages server taken session messages)) :=
  ⟨Diagnostic.ofArray_eq value, Diagnostic.isPlaced_remark,
    takeMessages_ok_or_ends server taken session messages⟩

end LanguageClient.Session
