import LanguageClient.Proofs.Session.InStep

/-! # The servers that were started

A server is started with the command that was asked for just before. Until the next start the
server that runs goes on or is let go, and no other comes in its place. Only one call opens
documents on it.
-/

namespace LanguageClient

variable {π : Type}

/-- The commands that servers were started with, in order, out of what has happened, latest
    first. -/
def launchesIn : List (JournalEntry π) → List Text
  | .event .started :: .asked command :: journal => launchesIn journal ++ [command]
  | _ :: journal => launchesIn journal
  | [] => []

/-- Whether a server was started. -/
def JournalEntry.isStart : JournalEntry π → Bool
  | .event .started => true
  | _ => false

theorem JournalEntry.isStart_of_isCalm {entry : JournalEntry π} (calm : entry.isCalm = true) :
    entry.isStart = false := by
  cases entry with
  | event told =>
      cases told with
      | started => exact absurd calm Bool.false_ne_true
      | _ => rfl
  | _ => rfl

theorem launchesIn_cons {entry : JournalEntry π} (other : entry.isStart = false)
    (journal : List (JournalEntry π)) : launchesIn (entry :: journal) = launchesIn journal := by
  rw [launchesIn]
  rintro command rest rfl
  exact absurd other nofun

theorem launchesIn_append {entries : List (JournalEntry π)}
    (others : ∀ entry ∈ entries, entry.isStart = false) (journal : List (JournalEntry π)) :
    launchesIn (entries ++ journal) = launchesIn journal := by
  induction entries with
  | nil => rfl
  | cons entry rest ih =>
      rw [List.cons_append, launchesIn_cons (others entry List.mem_cons_self)]
      exact ih fun other member => others other (List.mem_cons_of_mem entry member)

/-- Whether a message opens a document. -/
def isOpening (message : Json) : Bool :=
  (message.field "method").textOrEmpty == "textDocument/didOpen"

theorem isOpening_notification (method : Text) (params : Json) :
    isOpening (Message.notification method params) = (method == "textDocument/didOpen") := by
  cases params <;> rfl

theorem isOpening_request (number : Int) (method : Text) (params : Json) :
    isOpening (Message.request number method params) = (method == "textDocument/didOpen") := by
  cases params <;> rfl

theorem isOpening_of_opens {message : Json} {uri : Text} {copy : Copy}
    (opens : Telling.ofMessage? message = some (.opens uri copy)) : isOpening message = true := by
  rw [isOpening, beq_iff_eq]
  by_contra other
  simp only [Telling.ofMessage?, if_neg other] at opens
  split_ifs at opens <;> simp [Option.bind_eq_some_iff] at opens

namespace Session

variable {session before middle after next : Session Text} {opens : Writing → Prop}

def launches (session : Session Text) : List Text :=
  launchesIn session.journal

theorem launches_record (session : Session Text) {entry : JournalEntry Text}
    (other : entry.isStart = false) : (session.record entry).launches = session.launches :=
  launchesIn_cons other session.journal

theorem launches_hosting (session : Session Text) (command : Text) (process : ServerProcess) :
    (session.hosting command process).launches = session.launches ++ [command] := rfl

/-- No server is started: the one that runs goes on or is let go. Of what is written only
    certain messages open documents. -/
structure CarriesOn (opens : Writing → Prop) (before after : Session Text) : Prop where
  server : ∀ server, after.talk.server = some server → before.talk.server = some server
  servers : after.servers = before.servers
  launches : after.launches = before.launches
  written : ∀ writing ∈ after.writings, writing ∈ before.writings ∨
    (isOpening writing.message = true → opens writing)

namespace CarriesOn

theorem refl (session : Session Text) : CarriesOn opens session session :=
  ⟨fun _ => id, rfl, rfl, fun _ => .inl⟩

theorem trans (first : CarriesOn opens before middle) (second : CarriesOn opens middle after) :
    CarriesOn opens before after where
  server server running := first.server server (second.server server running)
  servers := second.servers.trans first.servers
  launches := second.launches.trans first.launches
  written writing member := by
    rcases second.written writing member with earlier | new
    · exact first.written writing earlier
    · exact .inr new

/-- Nothing has happened. -/
theorem same (connection : after.connection = before.connection)
    (servers : after.servers = before.servers) (journal : after.journal = before.journal) :
    CarriesOn opens before after := by
  refine ⟨?_, servers, congrArg launchesIn journal, ?_⟩
  · rw [talk, talk, connection]
    exact fun _ => id
  · rw [writings, writings, journal]
    exact fun _ => .inl

theorem record (carriesOn : CarriesOn opens before after) {entry : JournalEntry Text}
    (other : entry.isStart = false)
    (fits : ∀ writing, entry.writing? = some writing → isOpening writing.message = true →
      opens writing) : CarriesOn opens before (after.record entry) := by
  refine { carriesOn with launches := (launches_record after other).trans carriesOn.launches,
                          written := ?_ }
  intro writing member
  rw [writings_record] at member
  rcases List.mem_append.mp member with earlier | last
  · exact carriesOn.written writing earlier
  · exact .inr (fits writing (Option.mem_toList.mp last))

theorem emit (carriesOn : CarriesOn opens before after) {event : Event Text}
    (other : (JournalEntry.event event).isStart = false) :
    CarriesOn opens before (after.emit event) :=
  carriesOn.record other nofun

end CarriesOn

variable [Host]

omit [Host] in
theorem Calm.carriesOn (calm : Calm before after) : CarriesOn opens before after where
  server server running := by
    rw [← calm.quiet.talk]
    exact running
  servers := calm.servers
  launches := by
    obtain ⟨entries, journal, all⟩ := calm.journal
    rw [Session.launches, journal]
    exact launchesIn_append
      (fun entry member => JournalEntry.isStart_of_isCalm (all entry member)) _
  written writing member := by
    rw [calm.quiet.writings] at member
    exact .inl member

/-! ## What is written -/

theorem carriesOn_said (session : Session Text) (server : Nat) (message : Json)
    (taken : Except Fault (List UInt8))
    (fits : isOpening message = true → opens ⟨server, message, taken⟩) :
    CarriesOn opens session (session.said server message taken) := by
  have logged : CarriesOn opens session (session.logMessage .outgoing message) :=
    (calm_logMessage session .outgoing message).carriesOn
  refine logged.record rfl fun writing isWriting => ?_
  rw [← Option.some.inj isWriting]
  exact fits

omit [Host] in
theorem carriesOn_disconnect (session : Session Text) (timeout : Timeout) :
    CarriesOn opens session (session.disconnect timeout) := by
  unfold disconnect
  split
  · exact .refl session
  · next connection _ =>
    have gone : CarriesOn opens session { session with connection := none } :=
      ⟨nofun, rfl, rfl, fun _ => .inl⟩
    exact gone.record rfl nofun

omit [Host] in
theorem carriesOn_disable (session : Session Text) (reason : Text) :
    CarriesOn opens session (session.disable reason) := by
  have forgotten : CarriesOn opens (session.disconnect .now) (session.disconnect .now).reset :=
    .same rfl rfl rfl
  exact (((carriesOn_disconnect session .now).trans forgotten).emit rfl).emit rfl

theorem carriesOn_send (session : Session Text) (message : Json)
    (fits : isOpening message = true → ∀ server taken, session.talk.server = some server →
      opens ⟨server, message, taken⟩) :
    CarriesOn opens session (session.send message).2 := by
  have held {connection : Connection} (running : session.connection = some connection)
      (taken : Except Fault (List UInt8)) {held : Connection}
      (same : held.server = connection.server) :
      CarriesOn opens session ((session.said connection.server message taken).hold held) := by
    have current := talk_of_connection running
    have said := carriesOn_said session connection.server message taken
      fun opening => fits opening connection.server taken current
    refine { said with server := fun server running => ?_ }
    rw [current, ← same]
    exact running
  have outcome := sending session message
  generalize session.send message = result at outcome ⊢
  cases outcome with
  | idle nobody => exact .refl session
  | whole rest flushes running framed => exact held running _ rfl
  | part rest flushes running isPart => exact (held running _ rfl).trans (carriesOn_disable _ _)
  | withheld fault running => exact held running _ rfl

theorem carriesOn_send_of_other (session : Session Text) {message : Json}
    (other : isOpening message = false) : CarriesOn opens session (session.send message).2 :=
  carriesOn_send session message fun opening =>
    absurd (other.symm.trans opening) Bool.false_ne_true

theorem carriesOn_request (session : Session Text) {method : Text} (params : Json)
    (context : RequestContext Text) (other : (method == "textDocument/didOpen") = false) :
    CarriesOn opens session (session.request method params context).2 := by
  have noted : CarriesOn opens session (session.noting context) :=
    .same rfl rfl rfl
  rw [request_snd]
  exact noted.trans (carriesOn_send_of_other _ ((isOpening_request _ method params).trans other))

theorem Tells.isOpening_eq {documents after : DocumentStore} {message : Json}
    (tells : Tells documents after message) : isOpening message = false := by
  cases tells with
  | change changed => exact isOpening_notification _ _
  | close closed => exact isOpening_notification _ _
  | refusal id method => rfl

theorem Speech.carriesOn (speech : Speech before after) : CarriesOn opens before after := by
  cases speech with
  | nothing calm => exact calm.carriesOn
  | @telling documents prepared message tells calm =>
      have noted : CarriesOn opens before { before with documents } :=
        .same rfl rfl rfl
      exact (noted.trans calm.carriesOn).trans (carriesOn_send_of_other _ tells.isOpening_eq)
  | @asking prepared method params context begins =>
      have noted : CarriesOn opens before prepared := by
        cases begins with
        | semanticTokens found => exact .refl before
        | hover found line col now => exact .same rfl rfl rfl
        | completion found line col now trigger triggerKind => exact .same rfl rfl rfl
      have other : (method == "textDocument/didOpen") = false := by
        cases begins with
        | semanticTokens found => rfl
        | hover found line col now => rfl
        | completion found line col now trigger triggerKind => rfl
      exact noted.trans (carriesOn_request _ _ _ other)

theorem Goodbye.carriesOn {ending : Session Text} {server : Nat}
    (parting : Goodbye session server ending) : CarriesOn opens session ending := by
  have asked {taken : Except Fault (List UInt8)} :
      CarriesOn opens session (session.leaving.said server session.shutdownRequest taken) := by
    have noted : CarriesOn opens session session.leaving := .same rfl rfl rfl
    refine noted.trans (carriesOn_said _ _ _ _ fun opening => ?_)
    rw [shutdownRequest, isOpening_request] at opening
    exact absurd opening (by decide)
  cases parting with
  | unsent isPart => exact asked
  | sent framed isPart => exact asked.trans (carriesOn_said _ _ _ _ nofun)

theorem Stopping.carriesOn {outcome : Except Fault Unit × Session Text}
    (stopping : Stopping session outcome) : CarriesOn opens session outcome.2 := by
  apply stopping.keeps (motive := CarriesOn opens session) (.refl session)
  · intro _
    exact carriesOn_request _ _ _ rfl
  · intro asking kept
    exact kept.trans (carriesOn_send_of_other _ rfl)
  · intro connection ending running parting
    have gone : CarriesOn opens session (ending.disconnect ending.shutdownTimeout) :=
      parting.carriesOn.trans (carriesOn_disconnect _ _)
    have forgotten : CarriesOn opens (ending.disconnect ending.shutdownTimeout)
        (ending.disconnect ending.shutdownTimeout).reset := .same rfl rfl rfl
    exact (gone.trans forgotten).emit rfl

/-! ## What calls come to -/

theorem carriesOn_didChange (session : Session Text) (path text : Text) :
    CarriesOn opens session (session.didChange path text).2 := by
  have told {document : Document} {params : Json} {documents : DocumentStore}
      {sent : Except Fault Bool} {next : Session Text}
      (changed : session.documents.change (session.documents.pathOf path) text =
        (some (document, params), documents))
      (outcome : { session with documents }.send
        (Message.notification "textDocument/didChange" params) = (sent, next)) :
      CarriesOn opens session next := by
    have speech : Speech session _ := .telling (.change changed) (.refl _)
    rw [outcome] at speech
    exact speech.carriesOn
  have outcome := changing session path text
  generalize session.didChange path text = result at outcome ⊢
  cases outcome with
  | unsaid silent => exact .refl session
  | unsent running changed failed unsent => exact told changed failed
  | unnoted running changed sent refused => exact told changed sent
  | told running changed sent noted =>
      exact (told changed sent).trans (calm_noteChange noted).carriesOn

theorem carriesOn_tick (session : Session Text) : CarriesOn opens session session.tick.2 := by
  apply tick_keeps (motive := CarriesOn opens session)
  · exact .refl session
  · intro now _
    apply refreshDue_keeps (motive := CarriesOn opens session) (.refl session)
    · intro names refresh _
      exact (calm_refresh session refresh).carriesOn
    · intro asking path kept
      exact kept.trans (requestSemanticTokens_speech asking path).carriesOn
  · intro waiting now kept
    apply askDueHover_keeps (motive := CarriesOn opens session) kept
    · intro target hover due
      exact kept.trans (calm_dueHover due).carriesOn
    · intro asking path line col kept
      exact kept.trans (requestHover_speech asking path line col).carriesOn
  · intro waiting next now kept expired
    exact kept.trans (calm_expireHover expired).carriesOn

omit [Host] in
theorem Responding.carriesOn {id : Json} (responding : Responding before id after) :
    CarriesOn opens before after := by
  have noted {handshake : Handshake} {requests : PendingRequests (RequestContext Text)}
      {hover : HoverSchedule Text (HoverTarget Text)}
      {completion : CompletionTracker Text} :
      CarriesOn opens before { before with handshake, requests, hover, completion } :=
    .same rfl rfl rfl
  cases responding with
  | unknown unresolved => exact .refl before
  | calm resolved stale calm => exact noted.trans calm.carriesOn
  | ready resolved => exact noted.emit rfl
  | hover resolved accepted => exact noted.emit rfl
  | completion resolved accepted => exact noted.emit rfl

theorem carriesOn_takeMessage (session : Session Text) (message : Json) :
    CarriesOn opens session (session.takeMessage message).2 := by
  unfold takeMessage
  split
  · exact (responding session message).carriesOn
  · dsimp only
    split
    · exact .refl session
    · split
      · exact carriesOn_send_of_other session rfl
      · split
        · next taken => exact (calm_takeNotice taken).carriesOn
        · exact .refl session

theorem carriesOn_processAvailable (session : Session Text) :
    CarriesOn opens session session.processAvailable.2 := by
  apply processAvailable_keeps (motive := CarriesOn opens session)
  · exact .refl session
  · intro connection running
    exact ⟨fun server isServer => (congrArg Talk.server (talk_receive running)).symm.trans isServer,
      rfl, rfl, fun _ => .inl⟩
  · intro later message kept
    exact kept.trans (calm_logMessage later .incoming message).carriesOn
  · intro later message _ kept
    exact kept.trans (carriesOn_takeMessage later message)
  · intro connection last _ _ _ kept
    exact kept.trans (carriesOn_disable last _)

omit [Host] in
theorem carriesOn_changePeer (session : Session Text) (change : Peer → Peer) :
    CarriesOn opens session (session.changePeer change) := by
  have talk := talk_changePeer session change
  refine ⟨?_, congrArg Talk.servers talk, ?_, ?_⟩
  · rw [talk]
    exact fun _ => id
  · unfold changePeer
    cases session.connection with
    | none => rfl
    | some connection => rfl
  · rw [show (session.changePeer change).writings = session.writings from
      congrArg Talk.writings talk]
    exact fun _ => .inl

omit [Host] in
theorem carriesOn_takeWritesAs (session : Session Text) (writes : List WriteOutcome)
    (flushes : List Bool) : CarriesOn opens session (session.takeWritesAs writes flushes) :=
  carriesOn_changePeer session _

omit [Host] in
theorem carriesOn_deliver (session : Session Text) (outcome : ReadOutcome) :
    CarriesOn opens session (session.deliver outcome) :=
  carriesOn_changePeer session _

/-- The opening of the document at a path is written to the server that runs. -/
def OpensAt (session : Session Text) (path : Text) (writing : Writing) : Prop :=
  session.talk.server = some writing.server ∧ ∃ document : Document,
    document.uri = Uri.ofPath path ∧ writing.message =
      Message.notification "textDocument/didOpen" (DocumentStore.openParams document)

theorem carriesOn_confirmHandshake (session : Session Text) :
    CarriesOn opens session session.confirmHandshake.2 := by
  have noted : CarriesOn opens session
      { session with handshake := session.handshake.documentOpened.2 } :=
    .same rfl rfl rfl
  simp only [confirmHandshake]
  split
  · exact noted.trans (carriesOn_send_of_other _ rfl)
  · exact noted

theorem carriesOn_didOpen (session : Session Text) (path text languageId : Text) :
    CarriesOn (session.OpensAt path) session (session.didOpen path text languageId).2 := by
  have told {params : Json} {documents : DocumentStore} {sent : Except Fault Bool}
      {next : Session Text}
      (opened : session.documents.openDocument path text languageId = (some params, documents))
      (outcome : { session with documents }.send
        (Message.notification "textDocument/didOpen" params) = (sent, next)) :
      CarriesOn (session.OpensAt path) session next := by
    have noted : CarriesOn (session.OpensAt path) session { session with documents } :=
      .same rfl rfl rfl
    have said : CarriesOn (session.OpensAt path) { session with documents }
        ({ session with documents }.send
          (Message.notification "textDocument/didOpen" params)).2 := by
      apply carriesOn_send
      intro _ server taken running
      obtain ⟨document, isUri, _, _, _, rfl, _⟩ := DocumentStore.openDocument_eq_some opened
      exact ⟨running, document, isUri, rfl⟩
    rw [outcome] at said
    exact noted.trans said
  have outcome := opening session path text languageId
  generalize session.didOpen path text languageId = result at outcome ⊢
  cases outcome with
  | unsaid silent => exact .refl session
  | unsent running opened failed unsent => exact told opened failed
  | unconfirmed running opened sent withheld =>
      exact (told opened sent).trans (carriesOn_confirmHandshake _)
  | told running opened sent confirmed =>
      exact ((told opened sent).trans (carriesOn_confirmHandshake _)).trans
        (requestSemanticTokens_speech _ path).carriesOn

/-! ## Starts -/

/-- Whether a message was sent is whether the server still runs, unless it was withheld. -/
theorem isRunning_of_send {message : Json} {sent : Bool}
    (outcome : (session.send message).1 = .ok sent) :
    (session.send message).2.isRunning = sent := by
  have sends := sending session message
  generalize session.send message = result at sends outcome ⊢
  cases sends with
  | idle nobody =>
      rw [← Except.ok.inj outcome, isRunning, nobody]
      rfl
  | whole rest flushes running framed => exact Except.ok.inj outcome
  | part rest flushes running isPart =>
      rw [← Except.ok.inj outcome, isRunning, disable_connection]
      rfl
  | withheld fault running => exact absurd outcome nofun

theorem isRunning_of_request (counting : 0 < session.requests.next) {method : Text} {params : Json}
    {context : RequestContext Text} {number : Nat}
    (outcome : (session.request method params context).1 = .ok number) :
    (session.request method params context).2.isRunning = decide (number > 0) := by
  rw [request_fst] at outcome
  rw [request_snd]
  cases sent : ((session.noting context).send
      (Message.request session.requests.next method params)).1 with
  | error fault => simp [sent, Except.map] at outcome
  | ok wasSent =>
      rw [isRunning_of_send sent]
      rw [sent] at outcome
      obtain rfl := Except.ok.inj outcome
      cases wasSent with
      | true => exact (decide_eq_true counting).symm
      | false => rfl

/-- A start succeeds if and only if a server runs then, unless it is broken off. -/
theorem Starting.isRunning {command : Text} {served : Bool}
    (starting : Starting session command (.ok served, after)) : after.isRunning = served := by
  generalize isOutcome : (Except.ok served, after) = outcome at starting
  cases starting with
  | running running =>
      obtain ⟨⟨⟩, rfl⟩ := Prod.mk.inj isOutcome
      exact running
  | failed nobody refused =>
      obtain ⟨⟨⟩, rfl⟩ := Prod.mk.inj isOutcome
      rw [Session.isRunning, unserved, emit, record, record]
      exact congrArg Option.isSome nobody
  | brokenOff nobody broken => cases congrArg Prod.fst isOutcome
  | @started process params nobody launched =>
      obtain ⟨isServed, rfl⟩ := Prod.mk.inj isOutcome
      have counting : 0 < (session.hosting command process).requests.next := Nat.one_pos
      rw [greeting] at isServed ⊢
      cases outcome : ((session.hosting command process).request "initialize" params
          .handshake).1 with
      | error fault => simp [outcome, Except.map] at isServed
      | ok number =>
          rw [outcome] at isServed
          rw [isRunning_of_request counting outcome]
          exact (Except.ok.inj isServed).symm

omit [Host] in
/-- To be asked for a server alone starts none. -/
theorem carriesOn_asked (session : Session Text) (command : Text) :
    CarriesOn opens session (session.reset.record (.asked command)) := by
  have forgotten : CarriesOn opens session session.reset := .same rfl rfl rfl
  exact forgotten.record rfl nofun

omit [Host] in
theorem carriesOn_unserved (session : Session Text) (command : Text) (fault : StartFault) :
    CarriesOn opens session (session.unserved command fault) :=
  (carriesOn_asked session command).emit rfl

theorem carriesOn_greeting (session : Session Text) (command : Text) (process : ServerProcess)
    (params : Json) :
    CarriesOn opens (session.hosting command process)
      (session.greeting command process params).2 :=
  carriesOn_request _ params .handshake rfl

end Session

end LanguageClient
