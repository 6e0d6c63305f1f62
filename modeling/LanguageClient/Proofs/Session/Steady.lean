import LanguageClient.Proofs.Session.Openness
import LanguageClient.Proofs.Session.Readable

/-! # Sessions with steady servers

A server is steady if it takes all that is written to it and does not close its output. Nothing
makes a session give up such a server: one that runs goes on until it is stopped, whatever it
writes, and the documents are those that were last noted, even where a message about them was
withheld.
-/

namespace LanguageClient

/-! ## Pipes that do not fail -/

/-- The far end of the pipes takes every write and every flush, and does not close its output. -/
structure Peer.Steady (peer : Peer) : Prop where
  writes : .fails ∉ peer.writes
  flushes : true ∉ peer.flushes
  incoming : ∀ outcome ∈ peer.incoming, outcome.isEnd = false

/-- The server is steady, and no failure of it was noticed before. -/
structure Connection.Steady (connection : Connection) : Prop where
  usable : connection.transport.usable = true
  isOpen : connection.transport.closed = false
  peer : connection.peer.Steady

theorem Peer.Steady.flushFails {peer : Peer} (steady : peer.Steady) :
    peer.flushFails = false := by
  have flushes := steady.flushes
  unfold Peer.flushFails
  cases coming : peer.flushes with
  | nil => rfl
  | cons first later =>
      rw [coming] at flushes
      cases first with
      | false => rfl
      | true => exact absurd List.mem_cons_self flushes

/-- A pipe that has been called is steady if it was. -/
theorem Peer.Steady.behind {peer : Peer} (steady : peer.Steady) {sent : Transport.Sent}
    (willing : .fails ∉ sent.rest) : (peer.behind sent).Steady := by
  refine ⟨willing, ?_, steady.incoming⟩
  unfold Peer.behind
  dsimp only
  split
  · exact fun member => steady.flushes (List.mem_of_mem_tail member)
  · exact steady.flushes

theorem mem_of_mem_handOver_rest {outcomes : List WriteOutcome} {bytes : List UInt8}
    {outcome : WriteOutcome} (member : outcome ∈ (handOver outcomes bytes).rest) :
    outcome ∈ outcomes := by
  fun_induction handOver outcomes bytes with
  | case1 outcomes => exact member
  | case2 => exact member
  | case3 count rest bytes _ ih => exact List.mem_cons_of_mem _ (ih member)
  | case5 rest bytes _ ih => exact List.mem_cons_of_mem _ (ih member)
  | case6 rest bytes _ ih => exact List.mem_cons_of_mem _ (ih member)
  | _ => exact List.mem_cons_of_mem _ member

theorem handOver_done {outcomes : List WriteOutcome} (willing : .fails ∉ outcomes)
    (bytes : List UInt8) : (handOver outcomes bytes).done = true := by
  fun_induction handOver outcomes bytes with
  | case3 count rest bytes _ ih => exact ih fun member => willing (List.mem_cons_of_mem _ member)
  | case5 rest bytes _ ih => exact ih fun member => willing (List.mem_cons_of_mem _ member)
  | case6 rest bytes _ ih => exact ih fun member => willing (List.mem_cons_of_mem _ member)
  | case7 => exact absurd List.mem_cons_self willing
  | _ => rfl

section

variable [Limits]

/-- A steady server takes every message that has a frame. -/
theorem Connection.Steady.sent {connection : Connection} (steady : connection.Steady)
    (message : Json) :
    (connection.transport.send message connection.peer.writes
      connection.peer.flushFails).sent ≠ .ok false := by
  unfold Transport.send
  simp only [steady.usable, Bool.not_true, Bool.false_eq_true, ↓reduceIte]
  cases Frame.encode message with
  | error fault => exact nofun
  | ok frame => simp [handOver_done steady.peer.writes frame, steady.peer.flushFails]

theorem Connection.Steady.polled {connection : Connection} (steady : connection.Steady) :
    let polled := connection.transport.poll connection.peer.incoming
    polled.transport.usable = true ∧ polled.transport.closed = false ∧
      ∀ outcome ∈ polled.rest, outcome.isEnd = false := by
  have isOpen := readAll_open steady.peer.incoming
  have rest (outcome : ReadOutcome) (member : outcome ∈ (readAll connection.peer.incoming).rest) :
      outcome.isEnd = false :=
    steady.peer.incoming outcome (mem_of_mem_readAll_rest member)
  unfold Transport.poll
  split
  · exact ⟨steady.usable, steady.isOpen, steady.peer.incoming⟩
  · dsimp only
    split
    · exact ⟨steady.usable, isOpen, rest⟩
    · exact ⟨steady.usable, isOpen, rest⟩

theorem Connection.Steady.willing {connection : Connection} (steady : connection.Steady)
    (message : Json) :
    .fails ∉ (connection.transport.send message connection.peer.writes
      connection.peer.flushFails).rest := by
  unfold Transport.send
  simp only [steady.usable, Bool.not_true, Bool.false_eq_true, ↓reduceIte]
  cases Frame.encode message with
  | error fault => exact steady.peer.writes
  | ok frame => exact fun member => steady.peer.writes (mem_of_mem_handOver_rest member)

end

namespace Session

variable {π : Type} {session before middle after : Session π} {connection : Connection}

/-- The server that runs, if there is one, is steady, and so is the next one. -/
structure Steady (session : Session π) : Prop where
  nextPeer : session.nextPeer.Steady
  connected : session.Connected Connection.Steady

/-- Steady servers stay so, the one that runs goes on, and documents are as they were. -/
structure Lasts (before after : Session π) : Prop where
  steady : after.Steady
  isRunning : after.isRunning = before.isRunning
  documents : after.documents = before.documents

theorem Steady.lasts (steady : session.Steady) : Lasts session session :=
  ⟨steady, rfl, rfl⟩

theorem Lasts.trans (first : Lasts before middle) (second : Lasts middle after) :
    Lasts before after :=
  ⟨second.steady, second.isRunning.trans first.isRunning,
    second.documents.trans first.documents⟩

theorem Steady.same (steady : before.Steady) (nextPeer : after.nextPeer = before.nextPeer)
    (connection : after.connection = before.connection) : after.Steady where
  nextPeer := nextPeer ▸ steady.nextPeer
  connected other running := steady.connected other (connection ▸ running)

/-- What leaves connections and documents alone. -/
theorem Steady.keep (steady : before.Steady) (nextPeer : after.nextPeer = before.nextPeer)
    (connection : after.connection = before.connection)
    (documents : after.documents = before.documents) : Lasts before after :=
  ⟨steady.same nextPeer connection, congrArg Option.isSome connection, documents⟩

theorem Steady.unconnected (steady : before.Steady)
    (nextPeer : after.nextPeer = before.nextPeer) (nobody : after.connection = none) :
    after.Steady :=
  ⟨nextPeer ▸ steady.nextPeer, connected_of_none nobody _⟩

theorem steady_fresh (processId : Int) (folder : Text) :
    Steady { processId, folder : Session π } :=
  ⟨⟨List.not_mem_nil, List.not_mem_nil, nofun⟩, connected_of_none rfl _⟩

theorem Steady.hold (steady : session.Steady) (holds : connection.Steady) :
    (session.hold connection).Steady where
  nextPeer := steady.nextPeer
  connected _ running := Option.some.inj running ▸ holds

theorem Calm.lasts (calm : Calm before after) (steady : before.Steady) : Lasts before after :=
  steady.keep calm.nextPeer calm.connection calm.documents

variable [Host]

/-! ## Sending -/

/-- A steady server takes the whole message unless that is withheld, and is steady behind it. -/
theorem write_of_steady (steady : connection.Steady) (session : Session π) (message : Json) :
    ∃ sent held taken, sent ≠ .ok false ∧ held.Steady ∧
      session.write connection message =
        (sent, held, session.said connection.server message taken) := by
  unfold write
  split
  · next fault unloggable =>
    refine ⟨.error fault, connection, .error fault, nofun, steady, ?_⟩
    rw [said, logMessage_of_unloggable unloggable]
  · obtain ⟨behind, _, _, stays⟩ := connection.transport.send_spec message connection.peer.writes
      connection.peer.flushFails
    have peer := steady.peer.behind (steady.willing message)
    have sent := steady.sent message
    dsimp only
    generalize connection.transport.send message _ _ = result at behind stays peer sent ⊢
    refine ⟨result.sent, _, result.outcome, sent, ?_, rfl⟩
    cases outcome : result.sent with
    | error fault =>
        have same := (stays fault outcome).2.1
        exact ⟨same ▸ steady.usable, same ▸ steady.isOpen, peer⟩
    | ok done =>
        cases done with
        | false => exact absurd outcome sent
        | true =>
            have same := behind true outcome
            exact ⟨congrArg Transport.usable same,
              (congrArg Transport.closed same).trans steady.isOpen, peer⟩

theorem send_of_steady (steady : session.Steady) (running : session.isRunning = true)
    (message : Json) :
    (session.send message).1 ≠ .ok false ∧ Lasts session (session.send message).2 := by
  obtain ⟨connection, connected⟩ := Option.isSome_iff_exists.mp running
  obtain ⟨sent, held, taken, told, stays, written⟩ :=
    write_of_steady (steady.connected connection connected) session message
  have logged := calm_logMessage session .outgoing message
  have said : (session.said connection.server message taken).Steady :=
    steady.same logged.nextPeer logged.connection
  have lasts : Lasts session ((session.said connection.server message taken).hold held) :=
    ⟨said.hold stays, running.symm, logged.documents⟩
  rw [send_of_connection connected, written]
  cases sent with
  | error fault => exact ⟨nofun, lasts⟩
  | ok done =>
      cases done with
      | true => exact ⟨nofun, lasts⟩
      | false => exact absurd rfl told

theorem lasts_send (steady : session.Steady) (message : Json) :
    Lasts session (session.send message).2 := by
  cases running : session.isRunning with
  | true => exact (send_of_steady steady running message).2
  | false =>
      unfold send
      rw [eq_none_of_isRunning running]
      exact steady.lasts

theorem lasts_request (steady : session.Steady) (method : Text) (params : Json)
    (context : RequestContext π) : Lasts session (session.request method params context).2 := by
  have noted : Lasts session (session.noting context) := steady.keep rfl rfl rfl
  exact noted.trans (lasts_send noted.steady _)

/-- A request that is not withheld gives its number. -/
theorem request_of_steady (steady : session.Steady) (running : session.isRunning = true)
    {method : Text} {params : Json} {context : RequestContext π} {number : Nat}
    (asked : (session.request method params context).1 = .ok number) :
    number = session.requests.next := by
  have noted : (session.noting context).Steady := steady.same rfl rfl
  have outcome := (send_of_steady noted running
    (Message.request session.requests.next method params)).1
  rw [request_fst] at asked
  cases sent : (Session.send (session.noting context) _).1 with
  | error fault => rw [sent] at asked; cases asked
  | ok done =>
      cases done with
      | false => exact absurd sent outcome
      | true => rw [sent] at asked; exact (Except.ok.inj asked).symm

theorem lasts_confirmHandshake (steady : session.Steady) :
    Lasts session session.confirmHandshake.2 := by
  have noted : Lasts session { session with handshake := session.handshake.documentOpened.2 } :=
    steady.keep rfl rfl rfl
  simp only [confirmHandshake]
  split
  · exact noted.trans (lasts_send noted.steady _)
  · exact noted

/-! ## Starts and stops -/

/-- A start leaves no documents behind. If it succeeds a steady server runs. -/
structure StartsAnew (started : Except Fault Bool) (after : Session π) : Prop where
  steady : after.Steady
  running : ∀ served, started = .ok served → served = after.isRunning
  documents : after.documents = {}

theorem start_of_steady (steady : session.Steady) (idle : session.isRunning = false)
    (command root : Text) :
    StartsAnew (session.start command root).1 (session.start command root).2 := by
  have outcome := starting session command root
  generalize session.start command root = result at outcome ⊢
  cases outcome with
  | running running => exact absurd running (Bool.eq_false_iff.mp idle)
  | failed nobody refused =>
      refine ⟨steady.unconnected rfl nobody, ?_, rfl⟩
      rintro _ ⟨⟩
      exact (congrArg Option.isSome nobody).symm
  | brokenOff nobody broken => exact ⟨steady.unconnected rfl nobody, nofun, rfl⟩
  | @started process params nobody launched =>
      have fresh : (session.freshConnection process).Steady :=
        ⟨rfl, rfl, steady.nextPeer.writes, steady.nextPeer.flushes, nofun⟩
      have hosting : (session.hosting command process).Steady :=
        ⟨steady.nextPeer, fun _ running => Option.some.inj running ▸ fresh⟩
      have greeted := lasts_request hosting "initialize" params .handshake
      refine ⟨greeted.steady, ?_, greeted.documents⟩
      intro served isServed
      cases asked : (session.greeting command process params).1 with
      | error fault => rw [asked] at isServed; cases isServed
      | ok number =>
          have first : (session.hosting command process).requests.next = 1 := rfl
          have isFirst := (request_of_steady hosting rfl asked).trans first
          rw [asked, isFirst] at isServed
          exact (Except.ok.inj isServed).symm.trans greeted.isRunning.symm

omit [Host] in
theorem nextPeer_disconnect (session : Session π) (timeout : Timeout) :
    (session.disconnect timeout).nextPeer = session.nextPeer := by
  unfold disconnect
  split
  · rfl
  · rfl

theorem Goodbye.nextPeer {ending : Session π} {server : Nat}
    (parting : Goodbye session server ending) : ending.nextPeer = session.nextPeer := by
  have said (session : Session π) (message : Json) (taken : Except Fault (List UInt8)) :
      (session.said server message taken).nextPeer = session.nextPeer :=
    (calm_logMessage session .outgoing message).nextPeer
  cases parting with
  | unsent isPart => exact said _ _ _
  | sent framed isPart => exact (said _ _ _).trans (said _ _ _)

theorem Steady.stop (steady : session.Steady) : session.stop.2.Steady := by
  apply (stopping session).keeps steady
  · intro _
    exact (lasts_request steady _ _ _).steady
  · intro asking steady
    exact (lasts_send steady _).steady
  · intro connection ending running parting
    have kept := (nextPeer_disconnect ending ending.shutdownTimeout).trans parting.nextPeer
    exact steady.unconnected kept (stopped_connection ending _)

/-! ## Documents and places -/

section Naming

variable [BEq π] [DocumentName π]

theorem Begins.lasts {prepared : Session π} {method : Text} {params : Json}
    {context : RequestContext π} (begins : Begins session prepared method params context)
    (steady : session.Steady) : Lasts session (prepared.request method params context).2 := by
  have begun : Lasts session prepared := by
    cases begins with
    | semanticTokens found => exact steady.lasts
    | hover found => exact steady.keep rfl rfl rfl
    | completion found => exact steady.keep rfl rfl rfl
  exact begun.trans (lasts_request begun.steady _ _ _)

theorem lasts_requestSemanticTokens (steady : session.Steady) (name : π) :
    Lasts session (session.requestSemanticTokens name).2 := by
  unfold requestSemanticTokens
  split
  · exact steady.lasts
  · next document found => exact (Begins.semanticTokens found).lasts steady

theorem lasts_requestHover (steady : session.Steady) (name : π) (line col : Int) :
    Lasts session (session.requestHover name line col).2 := by
  unfold requestHover
  split
  · exact steady.lasts
  · next document found =>
    split
    · exact steady.lasts
    · next now _ => exact (Begins.hover found line col now).lasts steady

theorem lasts_requestCompletion (steady : session.Steady) (name : π) (line col : Int)
    (trigger : Text) (triggerKind : Int) :
    Lasts session (session.requestCompletion name line col trigger triggerKind).2 := by
  unfold requestCompletion
  split
  · exact steady.lasts
  · next document found =>
    split
    · exact steady.lasts
    · split
      · exact steady.lasts
      · next begun =>
        obtain ⟨now, rfl⟩ := startCompletion_eq_ok begun
        exact (Begins.completion found line col now trigger triggerKind).lasts steady

/-- A document that is opened on a steady server is open from then on. -/
theorem lasts_didOpen (steady : session.Steady) (running : session.isRunning = true) {name : π}
    {text languageId : Text} {params : Json} {documents : DocumentStore}
    (opened : session.documents.openDocument (DocumentName.pathToOpen name) text languageId =
      (some params, documents)) :
    Lasts { session with documents } (session.didOpen name text languageId).2 := by
  have noted : ({ session with documents } : Session π).Steady := steady.same rfl rfl
  have told := lasts_send noted (Message.notification "textDocument/didOpen" params)
  have outcome := opening session name text languageId
  generalize session.didOpen name text languageId = result at outcome ⊢
  cases outcome with
  | unsaid silent =>
      rcases silent with idle | refused
      · exact absurd (idle.symm.trans running) Bool.false_ne_true
      · exact absurd (refused.symm.trans (congrArg Prod.fst opened)) nofun
  | unsent _ opens failed unsent =>
      obtain ⟨⟨⟩, rfl⟩ := Prod.mk.inj (opened.symm.trans opens)
      rw [failed] at told
      exact told
  | unconfirmed _ opens sent withheld =>
      obtain ⟨⟨⟩, rfl⟩ := Prod.mk.inj (opened.symm.trans opens)
      rw [sent] at told
      exact told.trans (lasts_confirmHandshake told.steady)
  | told _ opens sent confirmed =>
      obtain ⟨⟨⟩, rfl⟩ := Prod.mk.inj (opened.symm.trans opens)
      rw [sent] at told
      have confirmed := told.trans (lasts_confirmHandshake told.steady)
      exact confirmed.trans (lasts_requestSemanticTokens confirmed.steady name)

theorem lasts_didChange (steady : session.Steady) (running : session.isRunning = true) {name : π}
    {text : Text} {document : Document} {params : Json} {documents : DocumentStore}
    (changed : session.documents.change (session.documents.pathOf name) text =
      (some (document, params), documents)) :
    Lasts { session with documents } (session.didChange name text).2 := by
  have noted : ({ session with documents } : Session π).Steady := steady.same rfl rfl
  have told := lasts_send noted (Message.notification "textDocument/didChange" params)
  have outcome := changing session name text
  generalize session.didChange name text = result at outcome ⊢
  cases outcome with
  | unsaid silent =>
      rcases silent with idle | refused
      · exact absurd (idle.symm.trans running) Bool.false_ne_true
      · exact absurd (refused.symm.trans (congrArg Prod.fst changed)) nofun
  | unsent _ changes failed unsent =>
      obtain ⟨⟨⟩, rfl⟩ := Prod.mk.inj (changed.symm.trans changes)
      rw [failed] at told
      exact told
  | unnoted _ changes sent refused =>
      obtain ⟨⟨⟩, rfl⟩ := Prod.mk.inj (changed.symm.trans changes)
      rw [sent] at told
      exact told
  | told _ changes sent noted =>
      obtain ⟨⟨⟩, rfl⟩ := Prod.mk.inj (changed.symm.trans changes)
      rw [sent] at told
      exact told.trans ((calm_noteChange noted).lasts told.steady)

theorem lasts_didClose (steady : session.Steady) (running : session.isRunning = true)
    {name : π} {params : Json} {documents : DocumentStore}
    (closed : session.documents.close (session.documents.pathOf name) =
      (some params, documents)) :
    Lasts { session with documents } (session.didClose name).2 := by
  have noted : ({ session with documents } : Session π).Steady := steady.same rfl rfl
  unfold didClose
  simp only [running, Bool.not_true, Bool.false_eq_true, ↓reduceIte, closed]
  split
  · exact noted.lasts
  · next refresh _ =>
    have kept : Lasts ({ session with documents } : Session π)
        { session with documents, refresh } := noted.keep rfl rfl rfl
    have cleared := kept.trans ((calm_clearHoverOn _ name).lasts kept.steady)
    exact cleared.trans (lasts_send cleared.steady _)

/-! ## The turn of the loop -/

theorem lasts_refreshDue (steady : session.Steady) (now : Moment) :
    Lasts session (session.refreshDue now).2 :=
  refreshDue_keeps (motive := Lasts session) steady.lasts now
    (fun _ => (calm_refresh session _).lasts steady)
    fun name lasts => lasts.trans (lasts_requestSemanticTokens lasts.steady name)

theorem lasts_askDueHover (steady : session.Steady) (now : Moment) :
    Lasts session (session.askDueHover now).2 :=
  askDueHover_keeps (motive := Lasts session) steady.lasts now
    (fun due => (calm_dueHover due).lasts steady)
    fun name line col lasts => lasts.trans (lasts_requestHover lasts.steady name line col)

theorem lasts_tick (steady : session.Steady) : Lasts session session.tick.2 :=
  tick_keeps (motive := Lasts session) steady.lasts (fun now _ => lasts_refreshDue steady now)
    (fun now lasts => lasts.trans (lasts_askDueHover lasts.steady now))
    fun lasts expired => lasts.trans ((calm_expireHover expired).lasts lasts.steady)

omit [Host] in
theorem Responding.lasts {id : Json} (responding : Responding before id after)
    (steady : before.Steady) : Lasts before after := by
  cases responding with
  | unknown => exact steady.lasts
  | calm resolved stale calm => exact steady.keep calm.nextPeer calm.connection calm.documents
  | ready resolved => exact steady.keep rfl rfl rfl
  | hover resolved accepted => exact steady.keep rfl rfl rfl
  | completion resolved accepted => exact steady.keep rfl rfl rfl

theorem lasts_takeMessage (steady : session.Steady) (message : Json) :
    Lasts session (session.takeMessage message).2 := by
  unfold takeMessage
  split
  · exact (responding session message).lasts steady
  · dsimp only
    split
    · exact steady.lasts
    · split
      · exact lasts_send steady _
      · split
        · next taken => exact (calm_takeNotice taken).lasts steady
        · exact steady.lasts

omit [BEq π] [DocumentName π] in
/-- What was read from a steady server is not its end. -/
theorem lasts_receive (steady : session.Steady)
    (running : session.connection = some connection) :
    Lasts session (session.receive connection) ∧
      (connection.transport.poll connection.peer.incoming).transport.closed = false := by
  have holds := steady.connected connection running
  obtain ⟨usable, isOpen, endless⟩ := holds.polled
  have received : (session.receive connection).Steady :=
    steady.hold ⟨usable, isOpen, holds.peer.writes, holds.peer.flushes, endless⟩
  exact ⟨⟨received, (congrArg Option.isSome running).symm, rfl⟩, isOpen⟩

theorem lasts_processAvailable (steady : session.Steady) :
    Lasts session session.processAvailable.2 := by
  apply processAvailable_keeps (motive := Lasts session) steady.lasts
  · intro connection running
    exact (lasts_receive steady running).1
  · intro later message lasts
    exact lasts.trans ((calm_logMessage later .incoming message).lasts lasts.steady)
  · intro later message _ lasts
    exact lasts.trans (lasts_takeMessage lasts.steady message)
  · intro connection last running closed _ _
    have isOpen := (lasts_receive steady running).2
    exact absurd (isOpen.symm.trans closed) Bool.false_ne_true

/-! ## What the outside does -/

omit [BEq π] [DocumentName π] [Host] in
theorem lasts_changePeer (steady : session.Steady) (change : Peer → Peer)
    (kept : ∀ peer : Peer, peer.Steady → (change peer).Steady) :
    Lasts session (session.changePeer change) := by
  refine ⟨⟨steady.nextPeer, ?_⟩, isRunning_changePeer session change, rfl⟩
  apply connected_changePeer change _ steady.connected
  intro connection holds
  exact ⟨holds.usable, holds.isOpen, kept connection.peer holds.peer⟩

omit [BEq π] [DocumentName π] [Host] in
theorem lasts_deliver (steady : session.Steady) {outcome : ReadOutcome}
    (endless : outcome.isEnd = false) : Lasts session (session.deliver outcome) := by
  apply lasts_changePeer steady
  intro peer holds
  refine ⟨holds.writes, holds.flushes, ?_⟩
  intro other member
  cases List.mem_append.mp member with
  | inl earlier => exact holds.incoming other earlier
  | inr last =>
      rw [List.mem_singleton.mp last]
      exact endless

/-- The action lets no write fail and no server close its output. A server does that when it
    hangs up, and a read that fails is taken for the same. -/
def Action.isSteady : Action π → Bool
  | .prepareWrites writes flushes => !writes.contains .fails && !flushes.contains true
  | .takeWritesAs writes flushes => !writes.contains .fails && !flushes.contains true
  | .hangUp => false
  | .failRead => false
  | _ => true

end Naming

end Session

end LanguageClient
