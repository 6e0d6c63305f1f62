import LanguageClient.Proofs.Session.Idle
import LanguageClient.Proofs.Session.Launches
import LanguageClient.Proofs.Session.Registry
import LanguageClient.Proofs.Session.Revision

/-! # What success means

A call that gives back that it succeeded has written all that it had to, each message whole, to
a server that still runs. There is one exception: the opening of a document gives back whether
the document was sent, though it has two more things to say. If one of these does not come
through, the server is given up, and with it the document that was just opened.
-/

namespace LanguageClient

/-- The writing of a whole message. -/
def Writing.whole [Limits] (server : Nat) (message : Json) : Writing :=
  ⟨server, message, Frame.encode message⟩

namespace Session

variable {session before middle after next : Session Text} {server : Nat}
  {earlier later : List Json} {message : Json} [Host]

/-- Messages were written whole, behind all that had been written before, and the server that
    they went to runs. -/
structure Conveys (server : Nat) (before : Session Text) (messages : List Json)
    (after : Session Text) : Prop where
  running : after.talk.server = some server
  framed : ∀ message ∈ messages, (Frame.encode message).isOk = true
  written : after.writings = before.writings ++ messages.map (.whole server)

/-- Messages were written whole, and then one that did not come through. The server that they
    went to was given up, and with it all documents. -/
structure CutShort (server : Nat) (before : Session Text) (messages : List Json)
    (message : Json) (after : Session Text) : Prop where
  idle : after.isRunning = false
  documents : after.documents = {}
  framed : ∀ message ∈ messages, (Frame.encode message).isOk = true
  written : ∃ taken, Transport.IsPart message taken ∧ after.writings =
    before.writings ++ messages.map (.whole server) ++ [⟨server, message, .ok taken⟩]

theorem conveys_nothing (running : session.talk.server = some server) :
    Conveys server session [] session where
  running := running
  framed := nofun
  written := (List.append_nil _).symm

theorem Conveys.trans (first : Conveys server before earlier middle)
    (second : Conveys server middle later after) :
    Conveys server before (earlier ++ later) after where
  running := second.running
  framed := List.forall_mem_append.mpr ⟨first.framed, second.framed⟩
  written := by rw [second.written, first.written, List.map_append, List.append_assoc]

/-- The same was conveyed between sessions that differ in nothing that a server sees. -/
theorem Conveys.along (conveys : Conveys server middle earlier next)
    (starts : before.writings = middle.writings) (ends : after.talk = next.talk) :
    Conveys server before earlier after where
  running := (congrArg Talk.server ends).trans conveys.running
  framed := conveys.framed
  written := by
    rw [starts, ← conveys.written]
    exact congrArg Talk.writings ends

theorem CutShort.along (broke : CutShort server middle earlier message after)
    (starts : before.writings = middle.writings) :
    CutShort server before earlier message after where
  idle := broke.idle
  documents := broke.documents
  framed := broke.framed
  written := by
    rw [starts]
    exact broke.written

theorem Conveys.cutShort (first : Conveys server before earlier middle)
    (second : CutShort server middle later message after) :
    CutShort server before (earlier ++ later) message after where
  idle := second.idle
  documents := second.documents
  framed := List.forall_mem_append.mpr ⟨first.framed, second.framed⟩
  written := by
    obtain ⟨taken, isPart, written⟩ := second.written
    refine ⟨taken, isPart, ?_⟩
    rw [written, first.written, List.map_append, ← List.append_assoc]

/-! ## One message -/

/-- What a call goes by that has more to say is as it was: the documents, the number of the next
    request, and whether the server knows that this client is ready. -/
structure Alike (before after : Session Text) : Prop where
  documents : after.documents = before.documents
  requests : after.requests = before.requests
  confirmed : after.handshake.confirmed = before.handshake.confirmed

theorem conveys_of_send (sent : (session.send message).1 = .ok true) :
    ∃ server, session.talk.server = some server ∧
      Conveys server session [message] (session.send message).2 ∧
      Alike session (session.send message).2 := by
  have logged := calm_logMessage session .outgoing message
  have outcome := sending session message
  generalize session.send message = result at outcome sent ⊢
  cases outcome with
  | idle nobody => exact absurd sent nofun
  | part rest flushes connected isPart => exact absurd sent nofun
  | withheld fault connected => exact absurd sent nofun
  | @whole connection frame rest flushes connected framed =>
      have current := talk_of_connection connected
      have held := talk_held connected message (.ok frame) true rest flushes
      refine ⟨connection.server, current, ⟨?_, ?_, ?_⟩, ?_⟩
      · exact (congrArg Talk.server held).trans current
      · intro other member
        rw [List.mem_singleton.mp member, framed]
        rfl
      · rw [List.map_singleton, Writing.whole, framed]
        exact congrArg Talk.writings held
      · exact ⟨logged.documents, logged.requests, logged.confirmed⟩

theorem cutShort_of_send (running : session.talk.server = some server)
    (unsent : (session.send message).1 = .ok false) :
    CutShort server session [] message (session.send message).2 := by
  have outcome := sending session message
  generalize session.send message = result at outcome unsent ⊢
  cases outcome with
  | idle nobody =>
      unfold talk at running
      rw [nobody] at running
      exact absurd running.symm (Option.some_ne_none server)
  | whole rest flushes connected framed => cases unsent
  | withheld fault connected => cases unsent
  | @part connection taken rest flushes connected isPart =>
      obtain rfl : server = connection.server :=
        Option.some.inj (running.symm.trans (talk_of_connection connected))
      have held := congrArg Talk.writings
        (talk_held connected message (.ok taken) false rest flushes)
      have ended := congrArg Talk.writings (talk_disable ((session.said connection.server message
        (.ok taken)).hold (connection.told false rest flushes)) "write to language server failed")
      refine ⟨?_, rfl, nofun, taken, isPart, ?_⟩
      · rw [isRunning, disable_connection]
        rfl
      · rw [List.map_nil, List.append_nil]
        exact ended.trans held

/-- What a message that was not withheld comes to. -/
theorem send_conveys_or_cutShort (running : session.talk.server = some server) {sent : Bool}
    (outcome : (session.send message).1 = .ok sent) :
    Conveys server session [message] (session.send message).2 ∧
        Alike session (session.send message).2 ∨
      CutShort server session [] message (session.send message).2 := by
  cases sent with
  | true =>
      obtain ⟨other, current, conveys, alike⟩ := conveys_of_send outcome
      obtain rfl : server = other := Option.some.inj (running.symm.trans current)
      exact .inl ⟨conveys, alike⟩
  | false => exact .inr (cutShort_of_send running outcome)

theorem send_of_request {method : Text} {params : Json} {context : RequestContext Text}
    {number : Nat} (asked : (session.request method params context).1 = .ok number) :
    ∃ sent, ((session.noting context).send
        (Message.request session.requests.next method params)).1 = .ok sent ∧
      number = if sent then session.requests.next else 0 := by
  rw [request_fst] at asked
  obtain ⟨sent, outcome, isNumber⟩ := ok_of_map asked
  exact ⟨sent, outcome, isNumber.symm⟩

theorem conveys_of_request {method : Text} {params : Json} {context : RequestContext Text}
    {number : Nat} (asked : (session.request method params context).1 = .ok number)
    (positive : 0 < number) :
    ∃ server, Conveys server session [Message.request session.requests.next method params]
      (session.request method params context).2 := by
  obtain ⟨sent, outcome, isNumber⟩ := send_of_request asked
  cases sent with
  | false => exact absurd isNumber (Nat.ne_of_gt positive)
  | true =>
      obtain ⟨server, _, conveys, _⟩ := conveys_of_send outcome
      exact ⟨server, conveys.along rfl rfl⟩

/-! ## What calls have to say -/

def readyNotice : Json :=
  Message.notification "initialized" (.obj [])

/-- That this client is ready, if the server does not know it. -/
def readiness (session : Session Text) : List Json :=
  if session.handshake.confirmed then [] else [readyNotice]

/-- What a call has to say where it does not refuse, message by message. -/
inductive Owes (session : Session Text) : Action Text → List Json → Prop where
  | running (running : session.isRunning = true) (command root : Text) :
      Owes session (.start command root) []
  | start (idle : session.isRunning = false) (command root : Text) :
      Owes session (.start command root) [Message.request 1 "initialize"
        (handshakeParams session.processId (Uri.ofPath (session.rootFolder root)))]
  | didOpen {path : Text} (closed : session.documents.isOpen path = false)
      (text languageId : Text) :
      Owes session (.didOpen path text languageId)
        (Message.notification "textDocument/didOpen"
            (DocumentStore.openParams (.opened path text languageId)) ::
          session.readiness ++ [tokensRequest session.requests.next (Uri.ofPath path)])
  | didChange {path : Text} {document : Document}
      (known : session.document? path = some document) (text : Text) :
      Owes session (.didChange path text) [Message.notification "textDocument/didChange"
        (DocumentStore.changeParams { document with version := document.version + 1, text })]
  | didClose {path : Text} {document : Document}
      (known : session.document? path = some document) :
      Owes session (.didClose path)
        [Message.notification "textDocument/didClose" (DocumentStore.closeParams document)]
  | requestSemanticTokens {path : Text} {document : Document}
      (known : session.document? path = some document) :
      Owes session (.requestSemanticTokens path)
        [tokensRequest session.requests.next document.uri]
  | requestHover {path : Text} {document : Document}
      (known : session.document? path = some document) (line col : Int) :
      Owes session (.requestHover path line col)
        [Message.request session.requests.next "textDocument/hover"
          (.obj [("textDocument", documentParams document),
            ("position", positionParams line col)])]
  | requestCompletion {path : Text} {document : Document}
      (known : session.document? path = some document) (line col : Int) (trigger : Text)
      (triggerKind : Int) :
      Owes session (.requestCompletion path line col trigger triggerKind)
        [Message.request session.requests.next "textDocument/completion"
          (.obj [("textDocument", documentParams document),
            ("position", positionParams line col),
            ("context", triggerParams trigger triggerKind)])]

/-- The call gives back that it succeeded, or the version or number that says so. -/
def Succeeds (session : Session Text) : Action Text → Prop
  | .start command root => (session.start command root).1 = .ok true
  | .didOpen path text languageId => (session.didOpen path text languageId).1 = .ok true
  | .didChange path text =>
    ∃ version, (session.didChange path text).1 = .ok version ∧ 0 < version
  | .didClose path => (session.didClose path).1 = .ok true
  | .requestSemanticTokens path =>
    ∃ number, (session.requestSemanticTokens path).1 = .ok number ∧ 0 < number
  | .requestHover path line col =>
    ∃ number, (session.requestHover path line col).1 = .ok number ∧ 0 < number
  | .requestCompletion path line col trigger triggerKind =>
    ∃ number, (session.requestCompletion path line col trigger triggerKind).1 = .ok number ∧
      0 < number
  | _ => False

/-- All that the call had to say was written, and a document that it was to open is open. -/
structure Kept (session : Session Text) (action : Action Text) (messages : List Json) :
    Prop where
  conveyed : ∃ server, Conveys server session messages (session.perform action)
  isOpen : ∀ path text languageId, action = .didOpen path text languageId →
    (session.perform action).documents.isOpen path = true

/-- The call opened a document, of which the server was told, but something that it had to say
    behind that did not come through. -/
structure Broken (session : Session Text) (action : Action Text) (messages : List Json) :
    Prop where
  opening : ∃ path text languageId, action = .didOpen path text languageId
  broke : ∃ server first told message untold, messages = first :: told ++ message :: untold ∧
    CutShort server session (first :: told) message (session.perform action)

/-! ## The opening of a document -/

theorem confirmHandshake_conveys_or_cutShort (running : session.talk.server = some server)
    (confirms : session.confirmHandshake.1 = .ok ()) :
    Conveys server session session.readiness session.confirmHandshake.2 ∧
        session.confirmHandshake.2.documents = session.documents ∧
        session.confirmHandshake.2.requests = session.requests ∨
      session.readiness = [readyNotice] ∧
        CutShort server session [] readyNotice session.confirmHandshake.2 := by
  let noted := { session with handshake := session.handshake.documentOpened.2 }
  cases confirmed : session.handshake.confirmed with
  | true =>
      have same : session.confirmHandshake.2 = noted := by
        unfold confirmHandshake
        simp only [Handshake.documentOpened, confirmed, Bool.not_true, Bool.false_eq_true,
          ↓reduceIte, noted]
      rw [readiness, confirmed, if_pos rfl, same]
      exact .inl ⟨⟨running, nofun, (List.append_nil _).symm⟩, rfl, rfl⟩
  | false =>
      have same : session.confirmHandshake =
          ((noted.send readyNotice).1.map fun _ => (), (noted.send readyNotice).2) := by
        unfold confirmHandshake
        simp only [Handshake.documentOpened, confirmed, Bool.not_false, ↓reduceIte, noted]
        rfl
      have current : noted.talk.server = some server := running
      rw [same] at confirms
      obtain ⟨sent, outcome, _⟩ := ok_of_map confirms
      rw [readiness, confirmed, if_neg Bool.false_ne_true, same]
      rcases send_conveys_or_cutShort current outcome with ⟨conveys, alike⟩ | broke
      · exact .inl ⟨conveys.along rfl rfl, alike.documents, alike.requests⟩
      · exact .inr ⟨rfl, broke.along rfl⟩

theorem requestSemanticTokens_conveys_or_cutShort {path : Text} {document : Document}
    {number : Nat} (running : session.talk.server = some server)
    (known : session.document? path = some document)
    (asked : (session.requestSemanticTokens path).1 = .ok number) :
    Conveys server session [tokensRequest session.requests.next document.uri]
        (session.requestSemanticTokens path).2 ∧
        (session.requestSemanticTokens path).2.documents = session.documents ∨
      CutShort server session [] (tokensRequest session.requests.next document.uri)
        (session.requestSemanticTokens path).2 := by
  simp only [requestSemanticTokens, known] at asked
  obtain ⟨sent, outcome, _⟩ := send_of_request asked
  simp only [requestSemanticTokens, known, request_snd]
  rcases @send_conveys_or_cutShort (session.noting (.semanticTokens document.uri)) server
    _ _ running _ outcome with ⟨conveys, alike⟩ | broke
  · exact .inl ⟨conveys.along rfl rfl, alike.documents⟩
  · exact .inr (broke.along rfl)

/-- Behind the message that opened a document, there are two more. -/
theorem conveys_or_cutShort_behind {opening : Json} {path : Text} {document : Document}
    {number : Nat} (first : Conveys server session [opening] next)
    (known : next.documents.get? path = some document)
    (confirms : next.confirmHandshake.1 = .ok ())
    (asks : (next.confirmHandshake.2.requestSemanticTokens path).1 = .ok number) :
    Conveys server session
        (opening :: next.readiness ++ [tokensRequest next.requests.next document.uri])
        (next.confirmHandshake.2.requestSemanticTokens path).2 ∧
        (next.confirmHandshake.2.requestSemanticTokens path).2.documents = next.documents ∨
      ∃ told message untold,
        opening :: next.readiness ++ [tokensRequest next.requests.next document.uri] =
          opening :: told ++ message :: untold ∧
        CutShort server session (opening :: told) message
          (next.confirmHandshake.2.requestSemanticTokens path).2 := by
  rcases confirmHandshake_conveys_or_cutShort first.running confirms with
    ⟨second, documents, requests⟩ | ⟨unready, broke⟩
  · have running : next.confirmHandshake.2.isRunning = true := isRunning_of_talk second.running
    have found : next.confirmHandshake.2.document? path = some document := by
      rw [document?, if_pos running, documents]
      exact known
    have asked := requestSemanticTokens_conveys_or_cutShort second.running found asks
    rw [requests, documents] at asked
    rcases asked with ⟨third, kept⟩ | broke
    · exact .inl ⟨(first.trans second).trans third, kept⟩
    · have both := (first.trans second).cutShort broke
      rw [List.append_nil] at both
      exact .inr ⟨next.readiness, _, [], rfl, both⟩
  -- The documents went with the server, so the tokens are not even asked for.
  · rw [requestSemanticTokens, document?_of_idle broke.idle]
    exact .inr ⟨[], readyNotice, _, by rw [unready]; rfl, first.cutShort broke⟩

theorem kept_or_broken_of_didOpen {path text languageId : Text}
    (succeeds : (session.didOpen path text languageId).1 = .ok true) :
    ∃ messages, session.Owes (.didOpen path text languageId) messages ∧
      (session.Kept (.didOpen path text languageId) messages ∨
        session.Broken (.didOpen path text languageId) messages) := by
  have outcome := opening session path text languageId
  have isPerform : session.perform (.didOpen path text languageId) =
    (session.didOpen path text languageId).2 := rfl
  generalize session.didOpen path text languageId = result at outcome succeeds isPerform
  cases outcome with
  | unsaid silent => exact absurd succeeds nofun
  | unsent running opened failed unsent => exact absurd succeeds unsent
  | unconfirmed running opened sent withheld => exact absurd succeeds nofun
  | @told params documents next running opened sent confirmed =>
      obtain ⟨number, asks, _⟩ := ok_of_map succeeds
      have opened : session.documents.openDocument path text languageId =
        (some params, documents) := opened
      have owes (closed : session.documents.isOpen path = false) :=
        Owes.didOpen closed text languageId
      have known := DocumentStore.get?_of_openDocument opened
      obtain ⟨closed, isParams, _⟩ := DocumentStore.openDocument_eq opened
      rw [← Document.uri_opened path text languageId, ← isParams] at owes
      generalize Document.opened path text languageId = document at known owes
      obtain ⟨server, _, conveys, alike⟩ := conveys_of_send (congrArg Prod.fst sent)
      rw [sent] at conveys alike
      have first : Conveys server session [Message.notification "textDocument/didOpen" params]
          next := conveys.along rfl rfl
      have found : next.documents.get? path = some document := by
        rw [alike.documents]
        exact known
      -- What is owed was said of the session before; what is behind goes by the next one.
      have ready : next.readiness = session.readiness := by
        rw [readiness, alike.confirmed, readiness]
      have behind := conveys_or_cutShort_behind first found confirmed asks
      rw [ready, alike.requests] at behind
      refine ⟨_, owes closed, ?_⟩
      rcases behind with ⟨all, kept⟩ | ⟨told, message, untold, split, broke⟩
      · refine .inl ⟨⟨server, ?_⟩, ?_⟩
        · rw [isPerform]
          exact all
        · rintro _ _ _ ⟨⟩
          rw [isPerform, DocumentStore.isOpen, kept, found]
          rfl
      · refine .inr ⟨⟨path, text, languageId, rfl⟩, server, _, told, message, untold, split, ?_⟩
        rw [isPerform]
        exact broke

/-- An opening that is given back as a failure, though there was something to open, was broken
    off at its first message. -/
theorem cutShort_of_didOpen {path text languageId : Text} (named : Uri.ofPath path ≠ "")
    (closed : session.documents.isOpen path = false) (running : session.isRunning = true)
    (failed : (session.didOpen path text languageId).1 = .ok false) :
    ∃ server, CutShort server session [] (Message.notification "textDocument/didOpen"
        (DocumentStore.openParams (.opened path text languageId)))
      (session.didOpen path text languageId).2 := by
  have outcome := opening session path text languageId
  generalize session.didOpen path text languageId = result at outcome failed ⊢
  cases outcome with
  | told running opened sent confirmed =>
      obtain ⟨_, _, isFalse⟩ := ok_of_map failed
      exact absurd isFalse nofun
  | unconfirmed running opened sent withheld => exact absurd failed nofun
  | unsaid silent =>
      obtain ⟨params, documents, opened⟩ :=
        DocumentStore.openDocument_of_closed named closed text languageId
      rcases silent with idle | nothing
      · exact absurd running (Bool.eq_false_iff.mp idle)
      · exact absurd ((congrArg Prod.fst opened).symm.trans nothing) nofun
  | @unsent params documents sent next running opened unsent _ =>
      obtain ⟨connection, connected⟩ := Option.isSome_iff_exists.mp running
      have current := talk_of_connection connected
      have isParams := (DocumentStore.openDocument_eq opened).2.1
      have broke := @cutShort_of_send { session with documents } connection.server
        (Message.notification "textDocument/didOpen" params) _ current
        ((congrArg Prod.fst unsent).trans failed)
      rw [unsent, isParams] at broke
      exact ⟨connection.server, broke.along rfl⟩

/-! ## Every call -/

/-- Whether a call opens a document. -/
def Action.isOpening : Action Text → Bool
  | .didOpen .. => true
  | _ => false

/-- All that a call other than an opening has to say was written. -/
theorem Owes.kept {action : Action Text} {messages : List Json}
    (owes : session.Owes action messages) (other : action.isOpening = false)
    (conveys : ∃ server, Conveys server session messages (session.perform action)) :
    ∃ messages, session.Owes action messages ∧
      (session.Kept action messages ∨ session.Broken action messages) := by
  refine ⟨messages, owes, .inl ⟨conveys, ?_⟩⟩
  intro path text languageId same
  rw [same] at other
  exact absurd other.symm Bool.false_ne_true

theorem start_of_idle (idle : session.isRunning = false) (command root : Text) :
    session.start command root =
      match session.launch command with
      | .error (.refused fault _) => (.ok false, session.unserved command fault)
      | .error (.brokenOff fault _) => (.error fault, session.reset.record (.asked command))
      | .ok process =>
        let greeted := session.greeting command process
          (handshakeParams session.processId (Uri.ofPath (session.rootFolder root)))
        (greeted.1.map fun number => number > 0, greeted.2) := by
  have launches : (session.reset.record (.asked command)).launch command =
    session.launch command := rfl
  simp only [start, if_neg (Bool.eq_false_iff.mp idle), launches]
  cases session.launch command with
  | ok process => rfl
  | error failure =>
      cases failure with
      | refused fault child => rfl
      | brokenOff fault child => rfl

theorem conveys_of_greeting {command : Text} {process : ServerProcess} {params : Json}
    {number : Nat} (asked : (session.greeting command process params).1 = .ok number)
    (positive : 0 < number) :
    ∃ server, Conveys server session [Message.request 1 "initialize" params]
      (session.greeting command process params).2 := by
  obtain ⟨server, conveys⟩ := conveys_of_request asked positive
  have hosts := congrArg Talk.writings (talk_hosting session command process)
  exact ⟨server, conveys.along hosts.symm rfl⟩

theorem conveys_of_start {command root : Text} (idle : session.isRunning = false)
    (succeeds : (session.start command root).1 = .ok true) :
    ∃ server, Conveys server session [Message.request 1 "initialize"
        (handshakeParams session.processId (Uri.ofPath (session.rootFolder root)))]
      (session.start command root).2 := by
  rw [start_of_idle idle] at succeeds ⊢
  generalize handshakeParams session.processId (Uri.ofPath (session.rootFolder root)) = params
    at succeeds ⊢
  split at succeeds
  · exact absurd succeeds nofun
  · exact absurd succeeds nofun
  · obtain ⟨number, asked, positive⟩ := ok_of_map succeeds
    exact conveys_of_greeting asked (of_decide_eq_true positive)

theorem conveys_of_didChange {path text : Text} {version : Int}
    (succeeds : (session.didChange path text).1 = .ok version) (positive : 0 < version) :
    ∃ document, session.document? path = some document ∧
      ∃ server, Conveys server session [Message.notification "textDocument/didChange"
          (DocumentStore.changeParams { document with version := document.version + 1, text })]
        (session.didChange path text).2 := by
  have outcome := changing session path text
  generalize session.didChange path text = result at outcome succeeds ⊢
  cases outcome with
  | unsaid silent =>
      cases succeeds
      omega
  | unsent running changed failed unsent =>
      obtain ⟨_, _, isVersion⟩ := ok_of_map succeeds
      omega
  | unnoted running changed sent refused => exact absurd succeeds nofun
  | @told changed params documents next last running isChange sent noted =>
      obtain ⟨document, found, isChanged, isParams, _⟩ := DocumentStore.change_eq_some isChange
      obtain ⟨server, _, conveys, _⟩ := conveys_of_send (congrArg Prod.fst sent)
      rw [sent] at conveys
      have quiet := (calm_noteChange noted).quiet.talk
      refine ⟨document, ?_, server, ?_⟩
      · rw [document?, if_pos running]
        exact found
      · rw [← isChanged, ← isParams]
        exact conveys.along rfl quiet

theorem conveys_of_didClose {path : Text} (succeeds : (session.didClose path).1 = .ok true) :
    ∃ document, session.document? path = some document ∧
      ∃ server, Conveys server session
        [Message.notification "textDocument/didClose" (DocumentStore.closeParams document)]
        (session.didClose path).2 := by
  cases known : session.document? path with
  | none =>
      rw [didClose_of_unknown known] at succeeds
      exact absurd succeeds nofun
  | some document =>
      obtain ⟨refresh, same⟩ := didClose_eq_send known
      rw [same] at succeeds ⊢
      obtain ⟨server, _, conveys, _⟩ := conveys_of_send succeeds
      have quiet := (calm_clearHoverOn { session with
        documents := session.documents.set { document with isOpen := false }
        refresh } path).quiet.talk
      exact ⟨document, rfl, server, conveys.along (congrArg Talk.writings quiet).symm rfl⟩

theorem Begins.conveys {prepared : Session Text} {method : Text} {params : Json}
    {context : RequestContext Text} {number : Nat}
    (begins : Begins session prepared method params context)
    (asked : (prepared.request method params context).1 = .ok number) (positive : 0 < number) :
    ∃ server, Conveys server session [Message.request session.requests.next method params]
      (prepared.request method params context).2 := by
  obtain ⟨server, conveys⟩ := conveys_of_request asked positive
  have same : prepared.requests = session.requests := by
    cases begins with
    | semanticTokens found => rfl
    | hover found line col now => rfl
    | completion found line col now trigger triggerKind => rfl
  rw [same] at conveys
  exact ⟨server, conveys.along begins.quiet.writings.symm rfl⟩

theorem conveys_of_requestSemanticTokens {path : Text} {number : Nat}
    (succeeds : (session.requestSemanticTokens path).1 = .ok number) (positive : 0 < number) :
    ∃ document, session.document? path = some document ∧
      ∃ server, Conveys server session [tokensRequest session.requests.next document.uri]
        (session.requestSemanticTokens path).2 := by
  unfold requestSemanticTokens at succeeds ⊢
  split at succeeds
  · cases succeeds
    omega
  · next document known =>
    exact ⟨document, known, (Begins.semanticTokens known).conveys succeeds positive⟩

theorem conveys_of_requestHover {path : Text} {line col : Int} {number : Nat}
    (succeeds : (session.requestHover path line col).1 = .ok number) (positive : 0 < number) :
    ∃ document, session.document? path = some document ∧
      ∃ server, Conveys server session [Message.request session.requests.next
          "textDocument/hover" (.obj [("textDocument", documentParams document),
            ("position", positionParams line col)])]
        (session.requestHover path line col).2 := by
  unfold requestHover at succeeds ⊢
  split at succeeds
  · cases succeeds
    omega
  · next document known =>
    split at succeeds
    · exact absurd succeeds nofun
    · next now read =>
      exact ⟨document, known, (Begins.hover known line col now).conveys succeeds positive⟩

theorem conveys_of_requestCompletion {path trigger : Text} {line col triggerKind : Int}
    {number : Nat}
    (succeeds : (session.requestCompletion path line col trigger triggerKind).1 = .ok number)
    (positive : 0 < number) :
    ∃ document, session.document? path = some document ∧
      ∃ server, Conveys server session [Message.request session.requests.next
          "textDocument/completion" (.obj [("textDocument", documentParams document),
            ("position", positionParams line col),
            ("context", triggerParams trigger triggerKind)])]
        (session.requestCompletion path line col trigger triggerKind).2 := by
  unfold requestCompletion at succeeds ⊢
  split at succeeds
  · cases succeeds
    omega
  · next document known =>
    split at succeeds
    · cases succeeds
      omega
    · next offered =>
      split at succeeds
      · exact absurd succeeds nofun
      · next begun =>
        obtain ⟨now, rfl⟩ := startCompletion_eq_ok begun
        rw [if_neg offered]
        exact ⟨document, known,
          (Begins.completion known line col now trigger triggerKind).conveys succeeds positive⟩

/-- A call that gives back that it succeeded has written whole all that it had to say, to a
    server that still runs. Only the opening of a document may have been broken off behind its
    first message, which it gives back as a success as well. -/
theorem kept_or_broken_of_succeeds {action : Action Text} (succeeds : session.Succeeds action) :
    ∃ messages, session.Owes action messages ∧
      (session.Kept action messages ∨ session.Broken action messages) := by
  cases action with
  | didOpen path text languageId => exact kept_or_broken_of_didOpen succeeds
  | start command root =>
      cases running : session.isRunning with
      | true =>
          have same : session.perform (.start command root) = session := by
            simp only [perform, start, running, ↓reduceIte]
          obtain ⟨connection, connected⟩ := Option.isSome_iff_exists.mp running
          refine (Owes.running running command root).kept rfl ⟨connection.server, ?_⟩
          rw [same]
          exact conveys_nothing (talk_of_connection connected)
      | false =>
          have conveys := conveys_of_start running succeeds
          exact (Owes.start running command root).kept rfl conveys
  | didChange path text =>
      obtain ⟨version, isVersion, positive⟩ := succeeds
      obtain ⟨document, known, conveys⟩ := conveys_of_didChange isVersion positive
      exact (Owes.didChange known text).kept rfl conveys
  | didClose path =>
      obtain ⟨document, known, conveys⟩ := conveys_of_didClose succeeds
      exact (Owes.didClose known).kept rfl conveys
  | requestSemanticTokens path =>
      obtain ⟨number, isNumber, positive⟩ := succeeds
      obtain ⟨document, known, conveys⟩ := conveys_of_requestSemanticTokens isNumber positive
      exact (Owes.requestSemanticTokens known).kept rfl conveys
  | requestHover path line col =>
      obtain ⟨number, isNumber, positive⟩ := succeeds
      obtain ⟨document, known, conveys⟩ := conveys_of_requestHover isNumber positive
      exact (Owes.requestHover known line col).kept rfl conveys
  | requestCompletion path line col trigger triggerKind =>
      obtain ⟨number, isNumber, positive⟩ := succeeds
      obtain ⟨document, known, conveys⟩ := conveys_of_requestCompletion isNumber positive
      exact (Owes.requestCompletion known line col trigger triggerKind).kept rfl conveys
  | _ => exact absurd succeeds id

end Session

end LanguageClient

open scoped LanguageClient.Host.Bare

namespace LanguageClient.Session

/-! ## An opening that is cut short -/

/-- A server runs that will take one more message. -/
def tiring : Session Text :=
  (perform { processId := 1, folder := "/home" } (.start "server" "proj")).perform
    (.takeWritesAs [.takesAll, .fails] [])

theorem reachable_tiring : Reachable tiring :=
  ((Reachable.fresh 1 "/home").perform _).perform _

theorem state_tiring :
    (tiring.didOpen "a.py" "x" "python").1 = .ok true ∧
      (tiring.perform (.didOpen "a.py" "x" "python")).isRunning = false ∧
      (tiring.perform (.didOpen "a.py" "x" "python")).documents.isOpen "a.py" = false := by
  decide +kernel

theorem broken_tiring :
    ∃ messages, tiring.Owes (.didOpen "a.py" "x" "python") messages ∧
      tiring.Broken (.didOpen "a.py" "x" "python") messages := by
  obtain ⟨succeeds, idle, closed⟩ := state_tiring
  obtain ⟨messages, owes, kept | broken⟩ :=
    @kept_or_broken_of_succeeds tiring _ (.didOpen "a.py" "x" "python") succeeds
  · exact absurd (kept.isOpen "a.py" "x" "python" rfl) (Bool.eq_false_iff.mp closed)
  · exact ⟨messages, owes, broken⟩

/-- It takes the document, but it does not take the next message: the opening is a success, and
    no server runs and no document is open. -/
theorem succeeds_tiring :
    Reachable tiring ∧ tiring.Succeeds (.didOpen "a.py" "x" "python") ∧
      (tiring.perform (.didOpen "a.py" "x" "python")).isRunning = false ∧
      (tiring.perform (.didOpen "a.py" "x" "python")).documents.isOpen "a.py" = false := by
  obtain ⟨succeeds, idle, closed⟩ := state_tiring
  exact ⟨reachable_tiring, succeeds, idle, closed⟩

end LanguageClient.Session
