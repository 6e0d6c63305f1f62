import LanguageClient.Proofs.Document.Mirror
import LanguageClient.Proofs.Session.Journal

/-! # What a move says

Most moves say nothing to the server, and leave alone all that the conversation with it shows
in. Of the others all but a start and a stop say one thing: a request or a notification that
asks or tells of the documents as the session has them by then, or the refusal of a request.
-/

namespace LanguageClient

/-- A message that was to be written to a server, and what the pipe took of its frame, unless the
    message was withheld. -/
structure Writing where
  server : Nat
  message : Json
  taken : Except Fault (List UInt8)

/-- What was written by an entry of the journal. -/
def JournalEntry.writing? {π : Type} : JournalEntry π → Option Writing
  | .wrote server message taken => some ⟨server, message, taken⟩
  | _ => none

namespace Session

theorem method_request (number : Int) (method : Text) (params : Json) :
    ((Message.request number method params).field "method").textOrEmpty = method := by
  cases params <;> rfl

theorem method_notification (method : Text) (params : Json) :
    ((Message.notification method params).field "method").textOrEmpty = method := by
  cases params <;> rfl

end Session

theorem blind_writing {π : Type} : Blind (JournalEntry.writing? (π := π)) := by
  intro entry calm
  cases entry with
  | wrote server message taken => exact absurd calm Bool.false_ne_true
  | _ => rfl

namespace Session

variable {π : Type}

def writings (session : Session π) : List Writing :=
  session.journal.reverse.filterMap JournalEntry.writing?

theorem writings_record (session : Session π) (entry : JournalEntry π) :
    (session.record entry).writings = session.writings ++ entry.writing?.toList :=
  view_record _ session entry

/-! ## Moves that say nothing -/

/-- Nothing is written, and servers and documents stay as they are. -/
structure Quiet (before after : Session π) : Prop where
  connection : after.connection = before.connection
  servers : after.servers = before.servers
  documents : after.documents = before.documents
  writings : after.writings = before.writings

theorem Quiet.refl (session : Session π) : Quiet session session :=
  ⟨rfl, rfl, rfl, rfl⟩

theorem Quiet.record {before after : Session π} (quiet : Quiet before after)
    {entry : JournalEntry π} (unwritten : entry.writing? = none) :
    Quiet before (after.record entry) := by
  refine ⟨quiet.connection, quiet.servers, quiet.documents, ?_⟩
  rw [writings_record, unwritten, Option.toList_none, List.append_nil, quiet.writings]

theorem Quiet.emit {before after : Session π} (quiet : Quiet before after) (event : Event π) :
    Quiet before (after.emit event) :=
  quiet.record rfl

theorem Calm.quiet {before after : Session π} (calm : Calm before after) : Quiet before after :=
  ⟨calm.connection, calm.servers, calm.documents, calm.view blind_writing⟩

/-! ## Responses -/

variable [BEq π] [DocumentName π] [Host]

/-- Whether a response to a request about this would be passed on. -/
def accepts (session : Session π) : RequestContext π → Bool
  | .hover name line col => (session.hover.accept name line col).1
  | .completion name line col => (session.completion.accept name line col).1
  | _ => false

/-- What a response with an identifier comes to. -/
inductive Responding (session : Session π) (id : Json) : Session π → Prop where
  | unknown (unresolved : (session.requests.resolve id).1 = none) :
      Responding session id session
  | calm {context : RequestContext π} {requests : PendingRequests (RequestContext π)}
      {after : Session π} (resolved : session.requests.resolve id = (some context, requests))
      (stale : session.accepts context = false) (calm : Calm { session with requests } after) :
      Responding session id after
  | ready {requests : PendingRequests (RequestContext π)} {result : Json}
      (resolved : session.requests.resolve id = (some .handshake, requests)) :
      Responding session id
        ({ session with requests, handshake := session.handshake.accept result }.emit .ready)
  | hover {name : π} {line col : Int} {requests : PendingRequests (RequestContext π)}
      {hover : HoverSchedule π (HoverTarget π)} {text : Option Text}
      (resolved : session.requests.resolve id = (some (.hover name line col), requests))
      (accepted : session.hover.accept name line col = (true, hover)) :
      Responding session id
        ({ session with requests, hover := hover.display text.isSome }.emit
          (.hover name line col text))
  | completion {name : π} {line col : Int} {requests : PendingRequests (RequestContext π)}
      {completion : CompletionTracker π} {list : CompletionList}
      (resolved : session.requests.resolve id = (some (.completion name line col), requests))
      (accepted : session.completion.accept name line col = (true, completion)) :
      Responding session id
        ({ session with requests, completion }.emit (.completion name line col list))

theorem responding (session : Session π) (message : Json) :
    Responding session (message.field "id") (session.takeResponse message) := by
  simp only [takeResponse]
  split
  · next requests unresolved => exact .unknown (congrArg Prod.fst unresolved)
  · next context requests resolved =>
    have same : Calm { session with requests } { session with requests } := .refl _
    cases context with
    | handshake =>
        simp only [takeHandshake]
        split
        · exact .ready resolved
        · exact .calm resolved rfl (same.emit rfl)
    | shutdown => exact .calm resolved rfl same
    | semanticTokens uri =>
        simp only [takeSemanticTokens]
        split
        · exact .calm resolved rfl same
        · split
          · exact .calm resolved rfl same
          · exact .calm resolved rfl (same.emit rfl)
    | hover name line col =>
        simp only [takeHover]
        split
        · next stale => exact .calm resolved (congrArg Prod.fst stale) same
        · next accepted => exact .hover resolved accepted
    | completion name line col =>
        simp only [takeCompletion]
        split
        · next stale => exact .calm resolved (congrArg Prod.fst stale) same
        · next accepted => exact .completion resolved accepted

omit [Host] in
theorem Responding.quiet {before after : Session π} {id : Json}
    (responding : Responding before id after) : Quiet before after := by
  cases responding with
  | unknown => exact .refl before
  | calm resolved stale calm =>
      exact ⟨calm.connection, calm.servers, calm.documents, calm.view blind_writing⟩
  | ready resolved =>
      apply Quiet.emit
      exact ⟨rfl, rfl, rfl, rfl⟩
  | hover resolved accepted =>
      apply Quiet.emit
      exact ⟨rfl, rfl, rfl, rfl⟩
  | completion resolved accepted =>
      apply Quiet.emit
      exact ⟨rfl, rfl, rfl, rfl⟩

/-! ## Moves that say one thing -/

/-- What a session tells its server of documents or answers it, and the documents as they are
    by then. -/
inductive Tells (documents : DocumentStore) : DocumentStore → Json → Prop where
  | change {path text : Text} {document : Document} {params : Json} {after : DocumentStore}
      (changed : documents.change path text = (some (document, params), after)) :
      Tells documents after (Message.notification "textDocument/didChange" params)
  | close {path : Text} {params : Json} {after : DocumentStore}
      (closed : documents.close path = (some params, after)) :
      Tells documents after (Message.notification "textDocument/didClose" params)
  | refusal (id : Json) (method : Text) :
      Tells documents documents (Message.refusal id method)

/-- What a session asks its server about a document, and the session that has noted it. -/
inductive Begins (before : Session π) :
    Session π → Text → Json → RequestContext π → Prop where
  | semanticTokens {name : π} {document : Document}
      (found : before.document? name = some document) :
      Begins before before "textDocument/semanticTokens/full"
        (.obj [("textDocument", documentParams document)]) (.semanticTokens document.uri)
  | hover {name : π} {document : Document} (found : before.document? name = some document)
      (line col now : Int) :
      Begins before { before with hover := before.hover.start name line col now }
        "textDocument/hover"
        (.obj [("textDocument", documentParams document),
          ("position", positionParams line col)])
        (.hover name line col)
  | completion {name : π} {document : Document}
      (found : before.document? name = some document) (line col now : Int) (trigger : Text)
      (triggerKind : Int) :
      Begins before { before with completion := before.completion.start name line col now }
        "textDocument/completion"
        (.obj [("textDocument", documentParams document),
          ("position", positionParams line col),
          ("context", triggerParams trigger triggerKind)])
        (.completion name line col)

/-- At most one thing is said, a request or what is told. -/
inductive Speech (before : Session π) : Session π → Prop where
  | nothing {after : Session π} (calm : Calm before after) : Speech before after
  | telling {documents : DocumentStore} {prepared : Session π} {message : Json}
      (tells : Tells before.documents documents message)
      (calm : Calm { before with documents } prepared) :
      Speech before (prepared.send message).2
  | asking {prepared : Session π} {method : Text} {params : Json}
      {context : RequestContext π} (begins : Begins before prepared method params context) :
      Speech before (prepared.request method params context).2

theorem requestSemanticTokens_speech (session : Session π) (name : π) :
    Speech session (session.requestSemanticTokens name).2 := by
  unfold requestSemanticTokens
  split
  · exact .nothing (.refl session)
  · next document found => exact .asking (.semanticTokens found)

theorem requestHover_speech (session : Session π) (name : π) (line col : Int) :
    Speech session (session.requestHover name line col).2 := by
  unfold requestHover
  split
  · exact .nothing (.refl session)
  · next document found =>
    split
    · exact .nothing (.refl session)
    · next now _ => exact .asking (.hover found line col now)

theorem requestCompletion_speech (session : Session π) (name : π) (line col : Int)
    (trigger : Text) (triggerKind : Int) :
    Speech session (session.requestCompletion name line col trigger triggerKind).2 := by
  unfold requestCompletion
  split
  · exact .nothing (.refl session)
  · next document found =>
    split
    · exact .nothing (.refl session)
    · split
      · exact .nothing (.refl session)
      · next next begun =>
        obtain ⟨now, rfl⟩ := startCompletion_eq_ok begun
        exact .asking (.completion found line col now trigger triggerKind)

theorem isRunning_of_document? {session : Session π} {name : π} {document : Document}
    (found : session.document? name = some document) : session.isRunning = true := by
  unfold document? at found
  split at found
  · assumption
  · exact absurd found nofun

theorem didClose_of_unknown {session : Session Text} {path : Text}
    (unknown : session.document? path = none) : session.didClose path = (.ok false, session) := by
  unfold didClose
  cases running : session.isRunning with
  | false => rfl
  | true =>
      have missing : session.documents.get? (session.documents.pathOf path) = none := by
        rw [document?, if_pos running] at unknown
        exact unknown
      simp only [Bool.not_true, Bool.false_eq_true, ↓reduceIte, DocumentStore.close, missing]

theorem get?_of_document? {session : Session Text} {path : Text} {document : Document}
    (known : session.document? path = some document) :
    session.documents.get? (session.documents.pathOf path) = some document := by
  rw [document?, if_pos (isRunning_of_document? known)] at known
  exact known

/-- Behind the closing of a document that is known the server is told; a hover that the pointer
    is on the document for has been taken off by then. -/
theorem didClose_eq_send {session : Session Text} {path : Text} {document : Document}
    (known : session.document? path = some document) :
    ∃ refresh, session.didClose path =
      ({ session with
          documents := session.documents.set { document with isOpen := false }
          refresh }.clearHoverOn path).send
        (Message.notification "textDocument/didClose" (DocumentStore.closeParams document)) := by
  have running := isRunning_of_document? known
  have closed := DocumentStore.close_of_known (get?_of_document? known)
  unfold didClose
  simp only [running, Bool.not_true, Bool.false_eq_true, ↓reduceIte, closed]
  split
  · next fault refused =>
    -- A path can always be kept in a table.
    simp only [TokenRefresh.tryDiscard, DocumentName.check, DocumentName.refusal?_path,
      Except.map] at refused
    split at refused <;> simp at refused
  · next refresh _ => exact ⟨refresh, rfl⟩

theorem didClose_eq {session : Session Text} {path : Text} {document : Document}
    (known : session.document? path = some document) :
    ∃ refresh, (session.didClose path).2 =
      (({ session with
          documents := session.documents.set { document with isOpen := false }
          refresh }.clearHoverOn path).send
        (Message.notification "textDocument/didClose" (DocumentStore.closeParams document))).2 := by
  obtain ⟨refresh, same⟩ := didClose_eq_send known
  exact ⟨refresh, congrArg Prod.snd same⟩

/-- A document that is known is closed, and the server is told. -/
theorem didClose_of_known {session : Session Text} {path : Text} {document : Document}
    (known : session.document? path = some document) :
    ∃ params documents prepared, session.documents.close path = (some params, documents) ∧
      Calm { session with documents } prepared ∧ (session.didClose path).2 =
        (prepared.send (Message.notification "textDocument/didClose" params)).2 := by
  obtain ⟨refresh, same⟩ := didClose_eq known
  have cleared := calm_clearHoverOn { session with
    documents := session.documents.set { document with isOpen := false }, refresh } path
  exact ⟨_, _, _, DocumentStore.close_of_known (get?_of_document? known), { cleared with }, same⟩

theorem didClose_speech (session : Session Text) (path : Text) :
    Speech session (session.didClose path).2 := by
  cases known : session.document? path with
  | none =>
      rw [didClose_of_unknown known]
      exact .nothing (.refl session)
  | some document =>
      obtain ⟨params, documents, prepared, closed, calm, same⟩ := didClose_of_known known
      rw [same]
      exact .telling (.close closed) calm

/-! ## What that is to the documents -/

/-- At most one thing is said, and nothing but what is said and what is noted of documents
    shows in the conversation. A server that knew the documents before knows those that are
    noted once it has been told. -/
inductive Utters (before : Session π) : Session π → Prop where
  | nothing {after : Session π} (quiet : Quiet before after) : Utters before after
  | message {documents : DocumentStore} {prepared : Session π} {message : Json}
      (quiet : Quiet { before with documents } prepared)
      (advances : before.documents.Keyed →
        Mirror.Advances before.documents message documents) :
      Utters before (prepared.send message).2

omit [BEq π] [DocumentName π] in
theorem Utters.neutral {before prepared : Session π} (quiet : Quiet before prepared)
    {message : Json} (neutral : Telling.ofMessage? message = some .nothing) :
    Utters before (prepared.send message).2 :=
  .message quiet fun keyed => Mirror.advances_of_nothing keyed neutral

omit [BEq π] [DocumentName π] in
theorem Utters.request {before prepared : Session π} (quiet : Quiet before prepared)
    {method : Text} {params : Json} {context : RequestContext π}
    (advances : ∀ number : Nat, before.documents.Keyed → Mirror.Advances before.documents
      (Message.request number method params) before.documents) :
    Utters before (prepared.request method params context).2 := by
  have registered : Quiet before
      { prepared with requests := (prepared.requests.register context).2 } :=
    ⟨quiet.connection, quiet.servers, quiet.documents, quiet.writings⟩
  exact .message registered (advances prepared.requests.next)

theorem openAt?_of_document? {session : Session π} {name : π} {document : Document}
    (found : session.document? name = some document) :
    session.documents.openAt? (Uri.ofPath (session.documents.pathOf name)) = some document := by
  unfold document? at found
  split at found
  · exact found
  · simp at found

theorem Tells.advances {documents after : DocumentStore} {message : Json}
    (tells : Tells documents after message) (keyed : documents.Keyed) :
    Mirror.Advances documents message after := by
  cases tells with
  | change changed => exact Mirror.advances_of_change keyed changed
  | close closed => exact Mirror.advances_of_close keyed closed
  | refusal id method => exact Mirror.advances_of_nothing keyed rfl

theorem Begins.quiet {before prepared : Session π} {method : Text} {params : Json}
    {context : RequestContext π} (begins : Begins before prepared method params context) :
    Quiet before prepared := by
  cases begins with
  | semanticTokens found => exact .refl before
  | hover found line col now => exact ⟨rfl, rfl, rfl, rfl⟩
  | completion found line col now trigger triggerKind => exact ⟨rfl, rfl, rfl, rfl⟩

theorem Begins.utters {before prepared : Session π} {method : Text} {params : Json}
    {context : RequestContext π} (begins : Begins before prepared method params context) :
    Utters before (prepared.request method params context).2 := by
  apply Utters.request begins.quiet
  intro number keyed
  cases begins with
  | semanticTokens found =>
      exact Mirror.advances_of_asks keyed (openAt?_of_document? found) rfl
  | hover found line col now =>
      exact Mirror.advances_of_asks keyed (openAt?_of_document? found) rfl
  | completion found line col now trigger triggerKind =>
      exact Mirror.advances_of_asks keyed (openAt?_of_document? found) rfl

theorem Speech.utters {before after : Session π} (speech : Speech before after) :
    Utters before after := by
  cases speech with
  | nothing calm => exact .nothing calm.quiet
  | telling tells calm => exact .message calm.quiet tells.advances
  | asking begins => exact begins.utters

omit [BEq π] [DocumentName π] in
theorem confirmHandshake_utters (session : Session π) :
    Utters session session.confirmHandshake.2 := by
  have noted : Quiet session
      { session with handshake := session.handshake.documentOpened.2 } :=
    ⟨rfl, rfl, rfl, rfl⟩
  simp only [confirmHandshake]
  split
  · exact .neutral noted rfl
  · exact .nothing noted

theorem takeMessage_utters (session : Session π) (message : Json) :
    Utters session (session.takeMessage message).2 := by
  unfold takeMessage
  split
  · exact .nothing (responding session message).quiet
  · dsimp only
    split
    · exact .nothing (.refl session)
    · split
      · exact .neutral (.refl session) rfl
      · split
        · next taken => exact .nothing (calm_takeNotice taken).quiet
        · exact .nothing (.refl session)

omit [BEq π] [DocumentName π]

/-! ## Starts -/

/-- The session that has a new server, of which it has told the host. -/
def hosting (session : Session π) (command : Text) (process : ServerProcess) : Session π :=
  { session.reset.record (.asked command) with
    connection := some (session.freshConnection process)
    servers := session.servers + 1
    commandLine := process.commandLine }.emit .started

/-- The first request to a new server, with its number. -/
def greeting (session : Session π) (command : Text) (process : ServerProcess) (params : Json) :
    Except Fault Nat × Session π :=
  (session.hosting command process).request "initialize" params .handshake

/-- The session that was asked to start a server and could not. -/
def unserved (session : Session π) (command : Text) (fault : StartFault) : Session π :=
  (session.reset.record (.asked command)).emit (.status ("LSP start failed: " ++ fault.message))

/-- What a start comes to, and whether it succeeded. -/
inductive Starting (session : Session π) (command : Text) :
    Except Fault Bool × Session π → Prop where
  | running (running : session.isRunning = true) : Starting session command (.ok true, session)
  | failed {fault : StartFault} {child : Option Child} (nobody : session.connection = none)
      (refused : session.launch command = .error (.refused fault child)) :
      Starting session command (.ok false, session.unserved command fault)
  | brokenOff {fault : Fault} {child : Child} (nobody : session.connection = none)
      (broken : session.launch command = .error (.brokenOff fault child)) :
      Starting session command (.error fault, session.reset.record (.asked command))
  | started {process : ServerProcess} {params : Json} (nobody : session.connection = none)
      (launched : session.launch command = .ok process) :
      Starting session command
        ((session.greeting command process params).1.map fun number => number > 0,
          (session.greeting command process params).2)

theorem starting (session : Session π) (command root : Text) :
    Starting session command (session.start command root) := by
  have same : (session.reset.record (.asked command)).launch command = session.launch command :=
    rfl
  simp only [start]
  split
  · next running => exact .running running
  · next idle =>
    have nobody := eq_none_of_isRunning (Bool.eq_false_iff.mpr idle)
    split
    · next refused => exact .failed nobody (same ▸ refused)
    · next broken => exact .brokenOff nobody (same ▸ broken)
    · next launched => exact .started nobody (same ▸ launched)

omit [Host] in
theorem telling_greeting (number : Int) (params : Json) :
    Telling.ofMessage? (Message.request number "initialize" params) = some .nothing := by
  cases params <;> rfl

/-- A new server is greeted, which says nothing of documents. -/
theorem greeting_utters (session : Session π) (command : Text) (process : ServerProcess)
    (params : Json) :
    Utters (session.hosting command process) (session.greeting command process params).2 := by
  apply Utters.request (.refl _)
  intro number keyed
  exact Mirror.advances_of_nothing keyed (telling_greeting number params)

/-! ## Stops -/

omit [Host] in
theorem telling_shutdown (number : Int) :
    Telling.ofMessage? (Message.request number "shutdown" .null) = some .nothing := rfl

omit [Host] in
theorem telling_exit : Telling.ofMessage? exitOrder = some .nothing := rfl

/-- Goodbyes say nothing of documents. -/
theorem shutdown_utters (session : Session π) :
    Utters session (session.request "shutdown" .null .shutdown).2 :=
  .request (.refl session) fun number keyed =>
    Mirror.advances_of_nothing keyed (telling_shutdown number)

theorem exit_utters (session : Session π) : Utters session (session.send exitOrder).2 :=
  .neutral (.refl session) telling_exit

/-! ## Every move -/

/-- What a plain move can do to the conversation of a session with its server. -/
inductive Effect (before : Session Text) : Session Text → Prop where
  | speech {after : Session Text} (speech : Speech before after) : Effect before after
  | surround (now : Moment) (launcher : Launcher) (settings : SessionSettings) :
      Effect before ({ before with now, launcher }.configure settings)
  | prepareWrites (writes : List WriteOutcome) (flushes : List Bool) :
      Effect before (before.prepareWrites writes flushes)
  | takeWritesAs (writes : List WriteOutcome) (flushes : List Bool) :
      Effect before (before.takeWritesAs writes flushes)
  | deliver {outcome : ReadOutcome} (given : outcome ≠ .wouldBlock) :
      Effect before (before.deliver outcome)
  | receive {connection : Connection} (running : before.connection = some connection) :
      Effect before (before.receive connection)
  | start {command : Text} {outcome : Except Fault Bool × Session Text}
      (starting : Starting before command outcome) : Effect before outcome.2
  | stop {outcome : Except Fault Unit × Session Text} (stopping : Stopping before outcome) :
      Effect before outcome.2
  | serverExited (running : before.isRunning = true) :
      Effect before (before.disable "language server exited")

theorem Plain.effect {before after : Session Text} (plain : Plain before after) :
    Effect before after := by
  cases plain with
  | surround now launcher settings => exact .surround now launcher settings
  | prepareWrites writes flushes => exact .prepareWrites writes flushes
  | takeWritesAs writes flushes => exact .takeWritesAs writes flushes
  | deliver given => exact .deliver given
  | receive running => exact .receive running
  | start command root => exact .start (starting before command root)
  | stop => exact .stop (stopping before)
  | serverExited running => exact .serverExited running
  | change running changed => exact .speech (.telling (.change changed) (.refl _))
  | didClose path => exact .speech (didClose_speech before path)
  | requestSemanticTokens path => exact .speech (requestSemanticTokens_speech before path)
  | requestHover path line col => exact .speech (requestHover_speech before path line col)
  | requestCompletion path line col trigger triggerKind =>
      exact .speech (requestCompletion_speech before path line col trigger triggerKind)
  | refuse id method => exact .speech (.telling (.refusal id method) (.refl _))
  | noteChange noted => exact .speech (.nothing (calm_noteChange noted))
  | scheduleHover target => exact .speech (.nothing (calm_scheduleHover before target))
  | clearHover => exact .speech (.nothing (calm_clearHover before))
  | dueTokens due => exact .speech (.nothing (calm_refresh before _))
  | dueHover due => exact .speech (.nothing (calm_dueHover due))
  | expireHover expired => exact .speech (.nothing (calm_expireHover expired))
  | logMessage direction message =>
      exact .speech (.nothing (calm_logMessage before direction message))
  | publish path items => exact .speech (.nothing ((Calm.refl before).emit rfl))

end Session

end LanguageClient
