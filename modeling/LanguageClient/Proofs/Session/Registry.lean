import LanguageClient.Proofs.Session.InStep

/-! # Requests that wait

A request waits under a number below the next one. One for semantic tokens was to be written to the
server that runs, whatever came of it. A number that was answered waits no more, and does not
come again as long as its server runs.
-/

namespace LanguageClient.Session

variable {session before after : Session Text} {used : Nat → Nat → Prop} [Host]

/-- The request with a number for the semantic tokens of a document. -/
def tokensRequest (number : Nat) (uri : Text) : Json :=
  Message.request number "textDocument/semanticTokens/full"
    (.obj [("textDocument", .obj [("uri", .str uri)])])

theorem messagesTo_said (session : Session Text) (server : Nat) (message : Json)
    (taken : Except Fault (List UInt8)) (other : Nat) :
    (session.said server message taken).messagesTo other =
      session.messagesTo other ++ if server = other then [message] else [] := by
  show ((session.said server message taken).talk.writings.filter (·.server == other)).map
    (·.message) = _
  rw [talk_said]
  split
  · next same =>
    subst same
    rw [Talk.writings_add_self session.talk ⟨server, message, taken⟩, List.map_append]
    rfl
  · next different =>
    rw [Talk.writings_add_of_ne _ different, List.append_nil]
    rfl

/-- What waits can be answered, and what was answered does not wait. -/
structure Registry (used : Nat → Nat → Prop) (session : Session Text) : Prop where
  counted : ∀ number context, Table.get? session.requests.waiting number = some context →
    number < session.requests.next
  asked : ∀ number uri,
    Table.get? session.requests.waiting number = some (.semanticTokens uri) →
    ∃ server, session.talk.server = some server ∧
      tokensRequest number uri ∈ session.messagesTo server
  spent : ∀ server number, used server number → server < session.servers ∧
    (session.talk.server = some server → number < session.requests.next ∧
      Table.get? session.requests.waiting number = none)

namespace Registry

omit [Host] in
theorem same (registry : before.Registry used) (requests : after.requests = before.requests)
    (server : after.talk.server = before.talk.server) (servers : after.servers = before.servers)
    (written : ∀ server, before.messagesTo server ⊆ after.messagesTo server) :
    after.Registry used := by
  refine ⟨?_, ?_, ?_⟩
  · rw [requests]
    exact registry.counted
  · intro number uri waits
    rw [requests] at waits
    obtain ⟨asked, current, member⟩ := registry.asked number uri waits
    exact ⟨asked, server.trans current, written asked member⟩
  · rw [requests, server, servers]
    exact registry.spent

omit [Host] in
theorem quiet (registry : before.Registry used) (quiet : Quiet before after)
    (requests : after.requests = before.requests) : after.Registry used := by
  refine registry.same requests (congrArg Talk.server quiet.talk) quiet.servers fun server => ?_
  rw [messagesTo, messagesTo, writingsTo, writingsTo, quiet.writings]
  exact List.Subset.refl _

omit [Host] in
theorem calm (registry : before.Registry used) (calm : Calm before after) :
    after.Registry used :=
  registry.quiet calm.quiet calm.requests

omit [Host] in
/-- A session that has forgotten its requests, and runs no server that answered any. -/
theorem of_forgotten (registry : before.Registry used)
    (forgotten : after.requests.waiting = []) (servers : before.servers ≤ after.servers)
    (other : ∀ server < before.servers, after.talk.server ≠ some server) :
    after.Registry used := by
  refine ⟨?_, ?_, ?_⟩
  · intro number context waits
    rw [forgotten] at waits
    exact absurd waits nofun
  · intro number uri waits
    rw [forgotten] at waits
    exact absurd waits nofun
  · intro server number isUsed
    have started := (registry.spent server number isUsed).1
    exact ⟨Nat.lt_of_lt_of_le started servers, fun current => absurd current (other server started)⟩

omit [Host] in
theorem disable (registry : session.Registry used) (reason : Text) :
    (session.disable reason).Registry used := by
  have servers : (session.disable reason).servers = session.servers :=
    congrArg Talk.servers (talk_disable session reason)
  refine registry.of_forgotten rfl (Nat.le_of_eq servers.symm) fun server _ => ?_
  rw [talk_disable]
  exact (Option.some_ne_none server).symm

theorem said (registry : session.Registry used) {connection : Connection}
    (running : session.connection = some connection) (message : Json)
    (taken : Except Fault (List UInt8)) {held : Connection}
    (same : held.server = connection.server) :
    ((session.said connection.server message taken).hold held).Registry used := by
  have noted := calm_logMessage session .outgoing message
  have current := (talk_of_connection running).symm
  rw [← same] at current
  refine registry.same noted.requests current noted.servers fun server => ?_
  show session.messagesTo server ⊆ (session.said connection.server message taken).messagesTo server
  rw [messagesTo_said]
  exact List.subset_append_left _ _

theorem send (registry : session.Registry used) (message : Json) :
    (session.send message).2.Registry used := by
  have outcome := sending session message
  generalize session.send message = result at outcome ⊢
  cases outcome with
  | idle nobody => exact registry
  | whole rest flushes running framed => exact registry.said running message _ rfl
  | part rest flushes running isPart => exact (registry.said running message _ rfl).disable _
  | withheld fault running => exact registry.said running message _ rfl

omit [Host] in
/-- A request that is to be written waits under the next number. -/
theorem noting {context : RequestContext Text} (registry : before.Registry used) {server : Nat}
    (current : before.talk.server = some server)
    (requests : after.requests = (before.noting context).requests)
    (same : after.talk.server = before.talk.server) (servers : after.servers = before.servers)
    (written : ∀ server, before.messagesTo server ⊆ after.messagesTo server)
    (asks : ∀ uri, context = .semanticTokens uri →
      tokensRequest before.requests.next uri ∈ after.messagesTo server) :
    after.Registry used := by
  have next : after.requests.next = before.requests.next + 1 := by
    rw [requests]
    rfl
  refine ⟨?_, ?_, ?_⟩
  · intro number noted found
    rw [requests] at found
    rw [next]
    rcases eq_of_noting found with ⟨rfl, _⟩ | waited
    · exact Nat.lt_succ_self _
    · exact Nat.lt_succ_of_lt (registry.counted number noted waited)
  · intro number uri found
    rw [requests] at found
    rcases eq_of_noting found with ⟨rfl, isContext⟩ | waited
    · exact ⟨server, same.trans current, asks uri isContext.symm⟩
    · obtain ⟨asked, isServer, member⟩ := registry.asked number uri waited
      exact ⟨asked, same.trans isServer, written asked member⟩
  · intro other number isUsed
    obtain ⟨started, silent⟩ := registry.spent other number isUsed
    rw [servers, same, next, requests]
    refine ⟨started, fun isServer => ?_⟩
    obtain ⟨counted, gone⟩ := silent isServer
    refine ⟨Nat.lt_succ_of_lt counted, ?_⟩
    exact (Table.get?_put_of_ne (Nat.ne_of_lt counted) _ _).trans gone

theorem request {context : RequestContext Text} (registry : session.Registry used)
    (running : session.isRunning = true) {method : Text} {params : Json}
    (asks : ∀ uri, context = .semanticTokens uri →
      Message.request session.requests.next method params =
        tokensRequest session.requests.next uri) :
    (session.request method params context).2.Registry used := by
  have held {connection : Connection} (runs : session.connection = some connection)
      (message : Json) (taken : Except Fault (List UInt8)) {held : Connection}
      (same : held.server = connection.server)
      (isMessage : message = Message.request session.requests.next method params) :
      (((session.noting context).said connection.server message taken).hold held).Registry
        used := by
    have noted := calm_logMessage (session.noting context) .outgoing message
    have current := (talk_of_connection runs).symm
    rw [← same] at current
    refine registry.noting (talk_of_connection runs) noted.requests current noted.servers ?_ ?_
    · intro server
      show (session.noting context).messagesTo server ⊆
        ((session.noting context).said connection.server message taken).messagesTo server
      rw [messagesTo_said]
      exact List.subset_append_left _ _
    · intro uri isContext
      show _ ∈ ((session.noting context).said connection.server message taken).messagesTo
        connection.server
      rw [messagesTo_said, if_pos rfl, isMessage, asks uri isContext]
      exact List.mem_append_right _ (List.mem_singleton.mpr rfl)
  rw [request_snd]
  generalize isMessage : Message.request session.requests.next method params = message
  have outcome := sending (session.noting context) message
  generalize (session.noting context).send message = result at outcome ⊢
  cases outcome with
  | idle nobody =>
      rw [isRunning, show session.connection = none from nobody] at running
      exact absurd running nofun
  | whole rest flushes runs framed => exact held runs message _ rfl isMessage.symm
  | part rest flushes runs isPart => exact (held runs message _ rfl isMessage.symm).disable _
  | withheld fault runs => exact held runs message _ rfl isMessage.symm

end Registry

theorem Begins.registry {prepared : Session Text} {method : Text} {params : Json}
    {context : RequestContext Text} (begins : Begins before prepared method params context)
    (registry : before.Registry used) :
    (prepared.request method params context).2.Registry used := by
  have quiet := begins.quiet
  cases begins with
  | semanticTokens found =>
      apply registry.request (isRunning_of_document? found)
      intro uri isContext
      rw [← RequestContext.semanticTokens.inj isContext]
      rfl
  | hover found line col now =>
      exact (registry.quiet quiet rfl).request (isRunning_of_document? found) fun _ => nofun
  | completion found line col now trigger triggerKind =>
      exact (registry.quiet quiet rfl).request (isRunning_of_document? found) fun _ => nofun

theorem Speech.registry (speech : Speech before after) (registry : before.Registry used) :
    after.Registry used := by
  cases speech with
  | nothing calm => exact registry.calm calm
  | asking begins => exact begins.registry registry
  | @telling documents prepared message tells calm =>
      have noted : Registry used { before with documents } :=
        registry.same rfl rfl rfl fun _ => List.Subset.refl _
      exact (noted.calm calm).send message

/-! ## Starts and stops -/

omit [Host] in
/-- A session that was asked to start a server, and has none. -/
theorem Registry.unstarted (registry : session.Registry used) (nobody : session.connection = none)
    (quiet : Quiet session.reset after) (forgotten : after.requests.waiting = []) :
    after.Registry used := by
  refine registry.of_forgotten forgotten (Nat.le_of_eq quiet.servers.symm) fun server _ => ?_
  rw [quiet.talk, talk, show session.reset.connection = none from nobody]
  exact (Option.some_ne_none server).symm

theorem Starting.registry {command : Text} {outcome : Except Fault Bool × Session Text}
    (starting : Starting session command outcome) (registry : session.Registry used) :
    outcome.2.Registry used := by
  have asked : Quiet session.reset (session.reset.record (.asked command)) :=
    (Quiet.refl session.reset).record rfl
  cases starting with
  | running running => exact registry
  | failed nobody refused => exact registry.unstarted nobody (asked.emit _) rfl
  | brokenOff nobody broken => exact registry.unstarted nobody asked rfl
  | @started process params nobody launched =>
      have welcome : (session.hosting command process).Registry used := by
        refine registry.of_forgotten rfl (Nat.le_succ _) fun server earlier isServer => ?_
        rw [talk_hosting] at isServer
        exact absurd (Option.some.inj isServer) (Nat.ne_of_gt earlier)
      exact welcome.request rfl (by simp)

theorem Goodbye.servers {ending : Session Text} {server : Nat}
    (parting : Goodbye session server ending) : ending.talk.servers = session.servers := by
  cases parting with
  | unsent isPart =>
      rw [talk_said]
      rfl
  | sent framed isPart =>
      rw [talk_said, talk_said]
      rfl

theorem Stopping.registry {outcome : Except Fault Unit × Session Text}
    (stopping : Stopping session outcome) (registry : session.Registry used) :
    outcome.2.Registry used := by
  apply stopping.keeps registry
  · intro running
    exact registry.request running nofun
  · intro asking registry
    exact registry.send _
  · intro connection ending running parting
    have talk := talk_stopped ending ending.shutdownTimeout
    refine registry.of_forgotten rfl
      (Nat.le_of_eq (parting.servers.symm.trans (congrArg Talk.servers talk).symm))
      fun server _ => ?_
    rw [talk]
    exact (Option.some_ne_none server).symm

/-! ## Every move -/

theorem Plain.registry (plain : Plain before after) (registry : before.Registry used) :
    after.Registry used := by
  have same (talk : after.talk = before.talk) (requests : after.requests = before.requests) :
      after.Registry used := by
    refine registry.same requests (congrArg Talk.server talk) (congrArg Talk.servers talk)
      fun server => ?_
    rw [messagesTo, messagesTo, writingsTo, writingsTo, show after.writings = before.writings from
      congrArg Talk.writings talk]
    exact List.Subset.refl _
  cases plain.effect with
  | speech speech => exact speech.registry registry
  | surround now launcher settings => exact same rfl rfl
  | prepareWrites writes flushes => exact same rfl rfl
  | takeWritesAs writes flushes => exact same (talk_changePeer before _) rfl
  | deliver given => exact same (talk_changePeer before _) rfl
  | receive running => exact same (talk_receive running) rfl
  | start starting => exact starting.registry registry
  | stop stopping => exact stopping.registry registry
  | serverExited running => exact registry.disable _

omit [Host] in
/-- To take out a request leaves what is said of the others. -/
theorem Registry.resolve (registry : before.Registry used) {id : Json}
    {context : RequestContext Text} {requests : PendingRequests (RequestContext Text)}
    (resolved : before.requests.resolve id = (some context, requests))
    (quiet : Quiet before after) (noted : after.requests = requests) : after.Registry used := by
  obtain ⟨taken, _, _, rfl⟩ := PendingRequests.resolve_eq_some resolved
  -- What waits behind the response waited before it.
  have waits {number : Nat} {other : RequestContext Text}
      (found : Table.get? after.requests.waiting number = some other) :
      Table.get? before.requests.waiting number = some other := by
    rw [noted] at found
    by_cases isTaken : number = taken
    · rw [isTaken] at found
      exact absurd (found.symm.trans (Table.get?_remove_self _ _)) (Option.some_ne_none other)
    · exact (Table.get?_remove_of_ne isTaken _).symm.trans found
  have next : after.requests.next = before.requests.next := by
    rw [noted]
  refine ⟨?_, ?_, ?_⟩
  · intro number other found
    rw [next]
    exact registry.counted number other (waits found)
  · intro number uri found
    obtain ⟨asked, current, member⟩ := registry.asked number uri (waits found)
    refine ⟨asked, ?_, ?_⟩
    · rw [quiet.talk]
      exact current
    · rw [messagesTo, writingsTo, quiet.writings]
      exact member
  · intro server number isUsed
    rw [quiet.servers, quiet.talk, next]
    refine And.imp_right (fun silent current => ?_) (registry.spent server number isUsed)
    refine And.imp_right (fun gone => ?_) (silent current)
    cases found : Table.get? after.requests.waiting number with
    | none => rfl
    | some other => exact absurd ((waits found).symm.trans gone) (Option.some_ne_none other)

omit [Host] in
theorem Responding.registry {id : Json} (responding : Responding before id after)
    (registry : before.Registry used) : after.Registry used := by
  have quiet := responding.quiet
  cases responding with
  | unknown => exact registry
  | calm resolved stale calm => exact registry.resolve resolved quiet calm.requests
  | ready resolved => exact registry.resolve resolved quiet rfl
  | hover resolved accepted => exact registry.resolve resolved quiet rfl
  | completion resolved accepted => exact registry.resolve resolved quiet rfl

theorem Move.registry (move : Move before after) (registry : before.Registry used) :
    after.Registry used := by
  cases move with
  | plain plain => exact plain.registry registry
  | takeResponse message => exact (responding before message).registry registry
  | @openDocument path text languageId params documents running opened =>
      have noted : Registry used { before with documents } :=
        registry.same rfl rfl rfl fun _ => List.Subset.refl _
      exact noted.send _
  | confirmHandshake =>
      have noted : Registry used { before with
          handshake := before.handshake.documentOpened.2 } :=
        registry.same rfl rfl rfl fun _ => List.Subset.refl _
      simp only [Session.confirmHandshake]
      split
      · exact noted.send _
      · exact noted

theorem registry_of_moves (moves : Moves before after) (registry : before.Registry used) :
    after.Registry used :=
  keep_of_chain (fun move => move.registry) moves registry

omit [Host] in
theorem registry_fresh (processId : Int) (folder : Text)
    (unused : ∀ server number, ¬used server number) :
    Registry used ({ processId, folder } : Session Text) :=
  ⟨nofun, nofun, fun server number isUsed => absurd isUsed (unused server number)⟩

end LanguageClient.Session
