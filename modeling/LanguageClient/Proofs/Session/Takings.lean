import LanguageClient.Proofs.Session.Answers
import LanguageClient.Proofs.Session.News
import LanguageClient.Proofs.Session.Registry

/-! # News are about open documents

What the host is told of documents it is told while messages of the server are taken, so a run
is followed here message by message. A message brings at most one piece of news. Diagnostics are
about a document that the server meant by the URI they came under, and tokens about one that was
asked about by a request to this server which nothing has answered before. Either way the
document is open, and the server knows it as the session does.
-/

namespace LanguageClient

/-- A message that was taken, with the session before it and behind it. -/
structure Taking where
  before : Session Text
  message : Json
  after : Session Text

/-- What the host was told while a message was taken. -/
def Taking.news (taking : Taking) : List News :=
  taking.after.news.drop taking.before.news.length

/-- The message is the response of the server with this number, and brought tokens. -/
def Taking.Answers [Host] (taking : Taking) (server number : Nat) : Prop :=
  taking.before.isConnectedTo server = true ∧ Session.Responds taking.message number ∧
    ∃ path tokens, .semanticTokens path tokens ∈ taking.news

namespace Session

variable [Host]

/-- The messages that are taken one after another while the server is connected. A fault ends
    it. -/
def takings (session : Session Text) (server : Nat) : List Json → List Taking
  | [] => []
  | message :: rest =>
    if session.isConnectedTo server then
      match (session.logMessage .incoming message).takeMessage message with
      | (.error _, after) => [⟨session, message, after⟩]
      | (.ok _, after) => ⟨session, message, after⟩ :: after.takings server rest
    else []

/-- The messages that are taken in an action. -/
def heard (session : Session Text) : Action Text → List Taking
  | .processAvailable =>
    match session.connection with
    | none => []
    | some connection =>
      match (connection.transport.poll connection.peer.incoming).messages with
      | .error _ => []
      | .ok messages => (session.receive connection).takings connection.server messages
  | _ => []

/-- A run with all the messages that were taken in it, in order. -/
inductive Journey : List Taking → Session Text → Prop where
  | fresh (processId : Int) (folder : Text) : Journey [] { processId, folder }
  | perform {heard : List Taking} {session : Session Text} (before : Journey heard session)
      (action : Action Text) :
      Journey (heard ++ session.heard action) (session.perform action)

variable {session before after : Session Text} {message : Json} {heard : List Taking}

/-! ## What a message brings -/

/-- A message brings no news, or published diagnostics of a document that is open, or the tokens
    of one that were asked for by a request which waits. -/
inductive Brings (session : Session Text) (message : Json) : Session Text → Prop where
  | nothing {after : Session Text} (same : after.news = session.news) :
      Brings session message after
  | diagnostics {document : Document} {uri : Text} {items : List Diagnostic}
      (unasked : message.get? "id" = none)
      (method : (message.field "method").text? = some publishDiagnostics)
      (named : ((message.field "params").field "uri").text? = some uri)
      (found : session.documents.findByUri? uri = some document) :
      Brings session message (session.emit (.diagnostics document.path items))
  | tokens {document : Document} {uri : Text} {number : Nat} {tokens : List SemanticToken}
      (responds : Responds message number)
      (waits : Table.get? session.requests.waiting number = some (.semanticTokens uri))
      (found : session.documents.findByUri? uri = some document) :
      Brings session message
        ({ session with requests := { session.requests with
            waiting := Table.remove session.requests.waiting number } }.emit
          (.semanticTokens document.path tokens))

theorem subject?_eq_some {store : DocumentStore} {params : Json} {document : Document}
    (subject : store.subject? params = some document) :
    ∃ uri, (params.field "uri").text? = some uri ∧ store.findByUri? uri = some document := by
  unfold DocumentStore.subject? at subject
  split at subject
  · exact absurd subject nofun
  · next uri named =>
    split at subject
    · exact absurd subject nofun
    · exact ⟨uri, named, subject⟩

theorem takeNotice_brings (unasked : message.get? "id" = none)
    (taken : session.takeNotice message = .ok after) : Brings session message after := by
  unfold takeNotice at taken
  split at taken
  · next path items noticed =>
    obtain rfl := Except.ok.inj taken
    unfold DocumentStore.notice at noticed
    split at noticed
    · next method =>
      dsimp only at noticed
      split at noticed
      · exact absurd noticed nofun
      · next document subject =>
        obtain ⟨uri, named, found⟩ := subject?_eq_some subject
        cases read : Diagnostic.ofArray ((message.field "params").field "diagnostics") with
        | error fault => simp [read, bind, Except.bind] at noticed
        | ok items =>
            simp only [read, bind, Except.bind, pure, Except.pure, Except.ok.injEq,
              Notice.diagnostics.injEq] at noticed
            obtain ⟨rfl, rfl⟩ := noticed
            exact .diagnostics unasked method named found
    · exact absurd noticed nofun
  · obtain rfl := Except.ok.inj taken
    exact .nothing rfl
  · exact absurd taken nofun

theorem takeResponse_brings {id : Json} (isMethod : message.get? "method" = none)
    (isId : message.get? "id" = some id) :
    Brings session message (session.takeResponse message) := by
  have field : message.field "id" = id := by
    rw [Json.field, isId]
    rfl
  simp only [takeResponse]
  split
  · exact .nothing rfl
  · next context requests resolved =>
    rw [field] at resolved
    obtain ⟨number, isNumber, waits, rfl⟩ := PendingRequests.resolve_eq_some resolved
    cases context with
    | shutdown => exact .nothing rfl
    | handshake =>
        simp only [takeHandshake]
        split
        · exact .nothing (news_emit_of_none _ rfl)
        · exact .nothing (news_emit_of_none _ rfl)
    | hover path line col =>
        simp only [takeHover]
        split
        · exact .nothing rfl
        · exact .nothing (news_emit_of_none _ rfl)
    | completion path line col =>
        simp only [takeCompletion]
        split
        · exact .nothing rfl
        · exact .nothing (news_emit_of_none _ rfl)
    | semanticTokens uri =>
        simp only [takeSemanticTokens]
        split
        · exact .nothing rfl
        · split
          · exact .nothing rfl
          · next found =>
            exact .tokens (number_of_response isMethod isId isNumber) waits found

theorem takeMessage_brings (session : Session Text) (message : Json) :
    Brings session message (session.takeMessage message).2 := by
  unfold takeMessage
  split
  · next isId isMethod => exact takeResponse_brings isMethod isId
  · dsimp only
    split
    · exact .nothing rfl
    · split
      · exact .nothing (news_send session _)
      · next isId =>
        split
        · next taken => exact takeNotice_brings isId taken
        · exact .nothing rfl

/-! ## What vouches for news -/

/-- A document is open in the session, and the server that it is connected to has the copy, if
    nothing was withheld from it. -/
structure OpenOn (session : Session Text) (server : Nat) (document : Document) : Prop where
  connected : session.isConnectedTo server = true
  isOpen : session.documents.openAt? document.uri = some document
  copied : session.CandidTo server →
    ∃ mirror, Mirror.replay? (session.framesTo server) = some mirror ∧
      Table.get? mirror document.uri = some (Copy.ofDocument document)

/-- The URI that news come under: the one in the notification of diagnostics, or the one in the
    request for tokens that was answered. The request was written, if nothing was withheld. -/
inductive ComesUnder (session : Session Text) (server : Nat) (message : Json) :
    News → Text → Prop where
  | notified {path uri : Text} {items : List Diagnostic} (unasked : message.get? "id" = none)
      (method : (message.field "method").text? = some publishDiagnostics)
      (named : ((message.field "params").field "uri").text? = some uri) :
      ComesUnder session server message (.diagnostics path items) uri
  | answered {path uri : Text} {tokens : List SemanticToken} {number : Nat}
      (responds : Responds message number)
      (asked : tokensRequest number uri ∈ session.messagesTo server)
      (written : session.CandidTo server → tokensRequest number uri ∈ session.framesTo server) :
      ComesUnder session server message (.semanticTokens path tokens) uri

/-- The news are about the path of a document that is open on the server that runs. Its URI is
    the one that they come under, or names the same path. -/
def Vouches (session : Session Text) (message : Json) (news : News) : Prop :=
  ∃ server document uri, session.OpenOn server document ∧ news.path = document.path ∧
    session.ComesUnder server message news uri ∧
    (document.uri = uri ∨ DocumentStore.normalPath document.uri = DocumentStore.normalPath uri)

theorem openOn_of_found (inStep : session.InStep) (once : session.documents.Once) {server : Nat}
    (current : session.talk.server = some server) {uri : Text} {document : Document}
    (found : session.documents.findByUri? uri = some document) :
    session.OpenOn server document ∧ (document.uri = uri ∨
      DocumentStore.normalPath document.uri = DocumentStore.normalPath uri) := by
  obtain ⟨isOpen, meant⟩ := DocumentStore.findByUri?_eq_some inStep.keyed once found
  refine ⟨⟨isConnectedTo_iff.mpr current, isOpen, fun candid => ?_⟩, meant⟩
  obtain ⟨mirror, replayed, reflects⟩ := (inStep.told server current).copied
  rw [inStep.frames current candid]
  exact ⟨mirror, replayed,
    (reflects document.uri).trans (congrArg (Option.map Copy.ofDocument) isOpen)⟩

omit [Host] in
theorem news_taking {more : List News} (grown : after.news = session.news ++ more) :
    Taking.news ⟨session, message, after⟩ = more := by
  rw [Taking.news, grown, List.drop_left]

omit [Host] in
theorem Responds.unique {number other : Nat} (responds : Responds message number)
    (again : Responds message other) : number = other := by
  have same := responds.2.symm.trans again.2
  exact Int.ofNat_inj.mp (by simpa using same)

/-- What a message brings, once it has been noted in the log. -/
theorem logged_brings
    (taken : ((session.logMessage .incoming message).takeMessage message).2 = after) :
    Brings (session.logMessage .incoming message) message after ∧
      Calm session (session.logMessage .incoming message) ∧
      (session.logMessage .incoming message).news = session.news :=
  ⟨taken ▸ takeMessage_brings _ message, calm_logMessage session .incoming message,
    news_logMessage session .incoming message⟩

/-- A response that brings tokens takes out the request that it answers. -/
theorem waits_of_answers {server number : Nat}
    (taken : ((session.logMessage .incoming message).takeMessage message).2 = after)
    (answers : Taking.Answers ⟨session, message, after⟩ server number) :
    session.talk.server = some server ∧
      (∃ uri, Table.get? session.requests.waiting number = some (.semanticTokens uri)) ∧
      after.talk = session.talk ∧
      after.requests = { session.requests with
        waiting := Table.remove session.requests.waiting number } := by
  obtain ⟨connected, responds, path, tokens, told⟩ := answers
  obtain ⟨brings, calm, logged⟩ := logged_brings taken
  generalize session.logMessage .incoming message = noted at brings calm logged
  cases brings with
  | nothing same =>
      have none : Taking.news ⟨session, message, after⟩ = [] :=
        news_taking (by rw [same, logged, List.append_nil])
      rw [none] at told
      exact absurd told nofun
  | @diagnostics document uri items unasked method named found =>
      have one := @news_taking session (noted.emit (.diagnostics document.path items)) message
        [.diagnostics document.path items] (logged ▸ news_emit noted _)
      rw [one] at told
      exact absurd (List.mem_singleton.mp told) nofun
  | @tokens document uri taken' tokens' isTaken waits found =>
      obtain rfl := isTaken.unique responds
      rw [calm.requests] at waits
      refine ⟨isConnectedTo_iff.mp connected, ⟨uri, waits⟩, ?_, ?_⟩
      · exact (Quiet.emit ⟨rfl, rfl, rfl, rfl⟩ _).talk.trans calm.quiet.talk
      · rw [← calm.requests]
        rfl

/-! ## Message by message -/

/-- What is known of a run behind the messages that were taken. -/
structure Account (heard : List Taking) (session : Session Text) : Prop where
  inStep : session.InStep
  once : session.documents.Once
  registry : session.Registry fun server number =>
    ∃ taking ∈ heard, taking.Answers server number
  news : session.news = heard.flatMap Taking.news
  vouched : ∀ taking ∈ heard, taking.news = [] ∨
    ∃ news, taking.news = [news] ∧ taking.before.Vouches taking.message news
  distinct : heard.Pairwise fun first second =>
    ∀ server number, first.Answers server number → ¬second.Answers server number

/-- Where no message is taken nothing is told. -/
theorem Account.moves (account : before.Account heard) (moves : Moves before after)
    (news : after.news = before.news) : after.Account heard where
  inStep := keep_of_chain (@Move.inStep _) moves account.inStep
  once := once_of_moves moves account.once
  registry := registry_of_moves moves account.registry
  news := news.trans account.news
  vouched := account.vouched
  distinct := account.distinct

theorem vouches_of_taken (inStep : session.InStep) (once : session.documents.Once)
    {used : Nat → Nat → Prop} (registry : session.Registry used) {server : Nat}
    (current : session.talk.server = some server)
    (taken : ((session.logMessage .incoming message).takeMessage message).2 = after) :
    after.news = session.news ∨
      ∃ news, after.news = session.news ++ [news] ∧ session.Vouches message news := by
  obtain ⟨brings, calm, logged⟩ := logged_brings taken
  generalize session.logMessage .incoming message = noted at brings calm logged
  cases brings with
  | nothing same => exact .inl (same.trans logged)
  | @diagnostics document uri items unasked method named found =>
      rw [calm.documents] at found
      obtain ⟨isOpen, meant⟩ := openOn_of_found inStep once current found
      refine .inr ⟨.diagnostics document.path items, ?_, server, document, uri, isOpen, rfl,
        .notified unasked method named, meant⟩
      rw [← logged]
      exact news_emit noted _
  | @tokens document uri number tokens responds waits found =>
      rw [calm.documents] at found
      rw [calm.requests] at waits
      obtain ⟨isOpen, meant⟩ := openOn_of_found inStep once current found
      obtain ⟨asked, isServer, member⟩ := registry.asked number uri waits
      obtain rfl := Option.some.inj (current.symm.trans isServer)
      refine .inr ⟨.semanticTokens document.path tokens, ?_, server, document, uri, isOpen, rfl,
        .answered responds member fun candid => ?_, meant⟩
      · rw [← logged]
        exact news_emit _ _
      · rw [inStep.frames current candid]
        exact member

/-- One more message is taken. -/
theorem Account.take (account : session.Account heard) {server : Nat}
    (connected : session.isConnectedTo server = true)
    (taken : ((session.logMessage .incoming message).takeMessage message).2 = after) :
    after.Account (heard ++ [⟨session, message, after⟩]) := by
  have current := isConnectedTo_iff.mp connected
  have logs : Moves session (session.logMessage .incoming message) :=
    .single (.plain (.logMessage session .incoming message))
  have hears := takeMessage_hearings (session.logMessage .incoming message) message
  rw [taken] at hears
  have moves := logs.trans (moves_of_turns (turns_of_hearings hears))
  have brought := vouches_of_taken account.inStep account.once account.registry current taken
  have kept := registry_of_moves moves account.registry
  refine ⟨keep_of_chain (@Move.inStep _) moves account.inStep, once_of_moves moves account.once,
    ⟨kept.counted, kept.asked, ?_⟩, ?_, ?_, ?_⟩
  · rintro other number ⟨taking, member, answers⟩
    rcases List.mem_append.mp member with earlier | last
    · exact kept.spent other number ⟨taking, earlier, answers⟩
    · obtain rfl := List.mem_singleton.mp last
      obtain ⟨isServer, ⟨uri, waits⟩, talk, requests⟩ := waits_of_answers taken answers
      have started := account.inStep.started other isServer
      refine ⟨Nat.lt_of_lt_of_eq started (congrArg Talk.servers talk).symm, fun _ => ?_⟩
      rw [requests]
      exact ⟨account.registry.counted number _ waits, Table.get?_remove_self _ _⟩
  · rw [List.flatMap_append, ← account.news, List.flatMap_singleton]
    rcases brought with same | ⟨news, grown, _⟩
    · rw [news_taking (same.trans (List.append_nil _).symm), same, List.append_nil]
    · rw [news_taking grown, grown]
  · intro taking member
    rcases List.mem_append.mp member with earlier | last
    · exact account.vouched taking earlier
    · obtain rfl := List.mem_singleton.mp last
      rcases brought with same | ⟨news, grown, vouches⟩
      · exact .inl (news_taking (same.trans (List.append_nil _).symm))
      · exact .inr ⟨news, news_taking grown, vouches⟩
  · -- A request that was answered before does not wait any more, while this one did.
    refine List.pairwise_append.mpr ⟨account.distinct, List.pairwise_singleton _ _, ?_⟩
    intro first member second isLast other number answers again
    obtain rfl := List.mem_singleton.mp isLast
    obtain ⟨isServer, ⟨uri, waits⟩, _⟩ := waits_of_answers taken again
    have spent := (account.registry.spent other number ⟨first, member, answers⟩).2 isServer
    exact absurd (spent.2.symm.trans waits) nofun

theorem Account.takings (account : session.Account heard) (server taken : Nat)
    (messages : List Json) :
    (takeMessages server taken session messages).2.Account
      (heard ++ session.takings server messages) := by
  induction messages generalizing heard session taken with
  | nil =>
      rw [Session.takings, List.append_nil]
      exact account
  | cons message rest ih =>
      rw [Session.takings, takeMessages]
      dsimp only
      cases connected : session.isConnectedTo server with
      | false =>
          simp only [Bool.false_eq_true, if_false, List.append_nil]
          exact account
      | true =>
          have first := @Account.take _ session _ message _ account _ connected rfl
          simp only [if_true]
          split
          · next faulted =>
            rw [faulted] at first
            simp only [faulted]
            exact first
          · next done =>
            rw [done] at first
            have next := ih first (taken + 1)
            rw [List.append_assoc] at next
            simp only [done]
            exact next

theorem Account.perform (account : session.Account heard) (action : Action Text) :
    (session.perform action).Account (heard ++ session.heard action) := by
  by_cases isTaking : action = .processAvailable
  · subst isTaking
    simp only [Session.perform, Session.heard]
    cases running : session.connection with
    | none =>
        rw [processAvailable_of_none running, List.append_nil]
        exact account
    | some connection =>
        rw [processAvailable_of_connection running]
        have received : Account heard (session.receive connection) :=
          account.moves (.single (.plain (.receive running))) rfl
        dsimp only
        cases (connection.transport.poll connection.peer.incoming).messages with
        | error fault =>
            rw [List.append_nil]
            exact received
        | ok messages =>
            have taken := received.takings connection.server 0 messages
            dsimp only
            split
            · next faulted =>
              rw [faulted] at taken
              exact taken
            · next last done =>
              rw [done] at taken
              split
              · next ended =>
                have connected := isRunning_of_isConnectedTo (Bool.and_eq_true_iff.mp ended).1
                exact taken.moves (.single (.plain (.serverExited connected)))
                  (news_disable last _)
              · exact taken
  · have none : session.heard action = [] := by
      cases action with
      | processAvailable => exact absurd rfl isTaking
      | _ => rfl
    rw [none, List.append_nil]
    exact account.moves (moves_of_turns (perform_turns session action))
      (news_perform session isTaking)

theorem Journey.account (journey : Journey heard session) : session.Account heard := by
  induction journey with
  | fresh processId folder =>
      have fresh : Reachable ({ processId, folder } : Session Text) := .fresh processId folder
      refine ⟨fresh.inStep, fresh.once, registry_fresh processId folder ?_, rfl, ?_, .nil⟩
      · rintro server number ⟨taking, member, _⟩
        exact absurd member List.not_mem_nil
      · intro taking member
        exact absurd member List.not_mem_nil
  | perform _ action account => exact account.perform action

/-- In every run all news are brought by messages of the server. A message brings at most one,
    about the path of a document that is open, and that the server which runs has, unless something
    was withheld from it: diagnostics come under its URI or another one of the same path, and
    tokens answer a request for it that was written to this server, each another one. -/
theorem news_vouched (journey : Journey heard session) :
    session.news = heard.flatMap Taking.news ∧
      (∀ taking ∈ heard, taking.news = [] ∨
        ∃ news, taking.news = [news] ∧ taking.before.Vouches taking.message news) ∧
      heard.Pairwise fun first second =>
        ∀ server number, first.Answers server number → ¬second.Answers server number :=
  ⟨journey.account.news, journey.account.vouched, journey.account.distinct⟩

end Session

end LanguageClient

open scoped LanguageClient.Host.Bare

namespace LanguageClient.Session

/-- The server publishes diagnostics under another spelling of a URI and answers the request for
    tokens. -/
def informed : Session Text :=
  ((({ processId := 1, folder := "/home" : Session Text }.perform (.start "server" "proj")).perform
    (.didOpen "a.py" "x" "python")).perform (.arrive
      (Transport.frameOf (.obj [("method", .str publishDiagnostics),
          ("params", .obj [("uri", .str "./a.py"), ("diagnostics", .arr [])])]) ++
        Transport.frameOf (.obj [("id", .int 2), ("result", .obj [("data", .arr [])])])))).perform
    .processAvailable

theorem news_vouched_informed :
    informed.news = [.diagnostics "a.py" [], .semanticTokens "a.py" []] ∧
      ∃ heard : List Taking, informed.news = heard.flatMap Taking.news ∧
        ∀ taking ∈ heard, taking.news = [] ∨
          ∃ news, taking.news = [news] ∧ taking.before.Vouches taking.message news := by
  have journey : Journey _ informed :=
    ((((Journey.fresh 1 "/home").perform _).perform _).perform _).perform _
  obtain ⟨brought, vouched, _⟩ := news_vouched journey
  exact ⟨by decide +kernel, _, brought, vouched⟩

/-- A document is opened with a text that is no string, and the server publishes diagnostics of
    it. -/
def misinformed : Session Text :=
  ((({ processId := 1, folder := "/home" : Session Text }.perform (.start "server" "proj")).perform
    (.didOpen "a.py" Text.unpaired "python")).perform (.arrive
      (Transport.frameOf (.obj [("method", .str publishDiagnostics),
          ("params", .obj [("uri", .str "file://a.py"), ("diagnostics", .arr [])])])))).perform
    .processAvailable

/-- The host is told of them, although the server was never told of the document. -/
theorem news_misinformed :
    Reachable misinformed ∧ misinformed.isRunning = true ∧
      misinformed.news = [.diagnostics "a.py" []] ∧
      Mirror.replay? (misinformed.framesTo 0) = some [] := by
  refine ⟨((((Reachable.fresh 1 "/home").perform _).perform _).perform _).perform _, ?_⟩
  decide +kernel

end LanguageClient.Session
