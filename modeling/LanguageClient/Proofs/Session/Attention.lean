import LanguageClient.Proofs.Session.Exchange
import LanguageClient.Proofs.Session.Servers

/-! # What is shown answers what was asked last

The host is shown the answer to an inquiry only if the answer is about the place that was
asked about last, and only once for each time that something was asked. What is asked twice
about one place may be answered by the first response: the two are told apart by their places
and not by their numbers.
-/

namespace LanguageClient

def InFlight.place [Places] (request : InFlight Text) : Place :=
  .ofName request.name request.line request.col

namespace Session

variable {inquiry : Inquiry} {session before after : Session Text} [Host]

/-! ## What the session attends to -/

/-- How what a session waits for is related to what it has asked last and shown since. -/
inductive Attention (inquiry : Inquiry) (session : Session Text) : Prop where
  | unasked (silent : session.inFlight inquiry = none)
      (unasked : ∀ asking, .asked asking ∈ session.exchanges inquiry →
        session.talk.server ≠ some asking.server)
  | asked {latest : Asking} {request : InFlight Text}
      (isLatest : Latest (session.exchanges inquiry) latest [])
      (current : session.talk.server = some latest.server)
      (inFlight : session.inFlight inquiry = some request) (place : latest.place = request.place)
      (counted : latest.number < session.requests.next)
      (waits : Table.get? session.requests.waiting latest.number =
        some (inquiry.context request.name request.line request.col))
  | answered {latest : Asking}
      (isLatest : Latest (session.exchanges inquiry) latest [.shown latest.place])
      (current : session.talk.server = some latest.server)
      (silent : session.inFlight inquiry = none)
  | givenUp {latest : Asking} (hover : inquiry = .hover)
      (isLatest : Latest (session.exchanges inquiry) latest [])
      (current : session.talk.server = some latest.server)
      (silent : session.inFlight inquiry = none)

/-- What waits was asked of the server that runs, and what is in flight was asked last. -/
structure Attends (inquiry : Inquiry) (session : Session Text) : Prop where
  waiting : ∀ number path line col,
    Table.get? session.requests.waiting number = some (inquiry.context path line col) →
    ∃ server, session.talk.server = some server ∧
      .asked ⟨server, number, .ofName path line col⟩ ∈ session.exchanges inquiry
  attention : session.Attention inquiry

theorem Attends.same (attends : before.Attends inquiry)
    (exchanges : after.exchanges inquiry = before.exchanges inquiry)
    (server : after.talk.server = before.talk.server)
    (requests : after.requests = before.requests)
    (inFlight : after.inFlight inquiry = before.inFlight inquiry ∨
      inquiry = .hover ∧ after.inFlight inquiry = none) : after.Attends inquiry := by
  refine ⟨?_, ?_⟩
  · intro number path line col waits
    rw [server, exchanges]
    rw [requests] at waits
    exact attends.waiting number path line col waits
  · have silent (before : before.inFlight inquiry = none) : after.inFlight inquiry = none := by
      rcases inFlight with same | ⟨_, silent⟩
      · rw [same, before]
      · exact silent
    cases attends.attention with
    | unasked wasSilent unasked => exact .unasked (silent wasSilent) (exchanges ▸ server ▸ unasked)
    | answered isLatest current wasSilent =>
        exact .answered (exchanges ▸ isLatest) (server ▸ current) (silent wasSilent)
    | givenUp hover isLatest current wasSilent =>
        exact .givenUp hover (exchanges ▸ isLatest) (server ▸ current) (silent wasSilent)
    | asked isLatest current request place counted waits =>
        rcases inFlight with same | ⟨hover, silent⟩
        · exact .asked (exchanges ▸ isLatest) (server ▸ current) (same.trans request) place
            (requests ▸ counted) (requests ▸ waits)
        · exact .givenUp hover (exchanges ▸ isLatest) (server ▸ current) silent

omit [Host] in
theorem inFlight_calm (calm : Calm before after) :
    after.inFlight inquiry = before.inFlight inquiry ∨
      inquiry = .hover ∧ after.inFlight inquiry = none := by
  cases inquiry with
  | completion => exact .inl (congrArg CompletionTracker.inFlight calm.completion)
  | hover =>
      rcases calm.hover with same | silent
      · exact .inl same
      · exact .inr ⟨rfl, silent⟩

theorem Attends.calm (attends : before.Attends inquiry) (calm : Calm before after) :
    after.Attends inquiry := by
  apply attends.same (calm.view (blind_exchange inquiry)) _ calm.requests (inFlight_calm calm)
  rw [calm.quiet.talk]

/-- A session that has forgotten its requests, and has asked the server that runs nothing. -/
theorem attends_of_forgotten (forgotten : session.requests.waiting = [])
    (silent : session.inFlight inquiry = none)
    (unasked : ∀ asking, .asked asking ∈ session.exchanges inquiry →
      session.talk.server ≠ some asking.server) : session.Attends inquiry := by
  refine ⟨?_, .unasked silent unasked⟩
  intro number path line col waits
  rw [forgotten] at waits
  exact absurd waits nofun

omit [Host] in
theorem inFlight_reset (session : Session Text) : session.reset.inFlight inquiry = none := by
  cases inquiry with
  | hover => rfl
  | completion => rfl

theorem attends_disable (session : Session Text) (reason : Text) :
    (session.disable reason).Attends inquiry := by
  apply attends_of_forgotten rfl
  · exact inFlight_reset (session.disconnect .now)
  · intro asking _
    rw [talk_disable]
    exact nofun

/-! ## What is said -/

theorem requests_held (session : Session Text) (server : Nat) (message : Json)
    (taken : Except Fault (List UInt8)) (connection : Connection) :
    ((session.said server message taken).hold connection).requests = session.requests :=
  (calm_logMessage session .outgoing message).requests

theorem inFlight_logMessage (session : Session Text) (direction : Direction) (message : Json) :
    (session.logMessage direction message).inFlight inquiry = session.inFlight inquiry := by
  unfold logMessage
  split
  · cases inquiry <;> rfl
  · rfl

theorem inFlight_held (session : Session Text) (server : Nat) (message : Json)
    (taken : Except Fault (List UInt8)) (connection : Connection) :
    ((session.said server message taken).hold connection).inFlight inquiry =
      session.inFlight inquiry := by
  rw [← inFlight_logMessage session .outgoing message]
  cases inquiry <;> rfl

theorem Attends.send {message : Json} (attends : session.Attends inquiry)
    (other : ∀ server, Asking.ofMessage? inquiry server message = none) :
    (session.send message).2.Attends inquiry := by
  have held {connection : Connection} (running : session.connection = some connection)
      (taken : Except Fault (List UInt8)) (held : Connection)
      (same : held.server = connection.server) :
      ((session.said connection.server message taken).hold held).Attends inquiry := by
    refine attends.same ?_ ?_ (requests_held _ _ _ _ _) (.inl (inFlight_held _ _ _ _ _))
    · show (session.said connection.server message _).exchanges inquiry = _
      rw [exchanges_said, other]
      exact List.append_nil _
    · rw [talk_of_connection running, ← same]
      rfl
  have outcome := sending session message
  generalize session.send message = result at outcome ⊢
  cases outcome with
  | idle nobody => exact attends
  | part rest flushes running isPart => exact attends_disable _ _
  | whole rest flushes running framed => exact held running _ _ rfl
  | withheld fault running => exact held running _ _ rfl

/-- To note a request of another kind changes nothing. -/
theorem Attends.note (attends : session.Attends inquiry) {context : RequestContext Text}
    (other : ∀ path line col, context ≠ inquiry.context path line col) :
    (session.noting context).Attends inquiry := by
  refine ⟨?_, ?_⟩
  · intro number path line col waits
    rcases eq_of_noting waits with ⟨_, same⟩ | waited
    · exact absurd same.symm (other path line col)
    · exact attends.waiting number path line col waited
  · cases attends.attention with
    | unasked silent unasked => exact .unasked silent unasked
    | answered isLatest current silent => exact .answered isLatest current silent
    | givenUp hover isLatest current silent => exact .givenUp hover isLatest current silent
    | asked isLatest current request place counted waits =>
        refine .asked isLatest current request place (Nat.lt_succ_of_lt counted) ?_
        exact (Table.get?_put_of_ne (Nat.ne_of_lt counted) _ _).trans waits

omit [Host] in
theorem context_injective {path other : Text} {line col row place : Int}
    (same : inquiry.context path line col = inquiry.context other row place) :
    path = other ∧ line = row ∧ col = place := by
  cases inquiry with
  | hover => exact RequestContext.hover.inj same
  | completion => exact RequestContext.completion.inj same

/-- What is asked of this kind is the latest from then on. -/
theorem Attends.asked {server : Nat} {request : InFlight Text} (attends : before.Attends inquiry)
    (current : after.talk.server = some server)
    (exchanges : after.exchanges inquiry = before.exchanges inquiry ++
      [.asked ⟨server, before.requests.next, request.place⟩])
    (requests : after.requests = (before.noting
      (inquiry.context request.name request.line request.col)).requests)
    (inFlight : after.inFlight inquiry = some request)
    (same : before.talk.server = some server) : after.Attends inquiry := by
  refine ⟨?_, .asked ⟨_, exchanges, nofun⟩ current inFlight rfl ?_ ?_⟩
  · intro number path line col waits
    refine ⟨server, current, ?_⟩
    rw [exchanges]
    rw [requests] at waits
    rcases eq_of_noting waits with ⟨rfl, isContext⟩ | waited
    · obtain ⟨rfl, rfl, rfl⟩ := context_injective isContext
      exact List.mem_append_right _ (List.mem_singleton.mpr rfl)
    · obtain ⟨other, isOther, member⟩ := attends.waiting number path line col waited
      obtain rfl := Option.some.inj (same.symm.trans isOther)
      exact List.mem_append_left _ member
  · rw [requests]
    exact Nat.lt_succ_self _
  · rw [requests]
    exact Table.get?_put_self _ _ _

/-- What asking comes to for a session that has noted what it asks for. -/
theorem Attends.ask {prepared : Session Text} {request : InFlight Text} {method : Text}
    {params : Json} (attends : before.Attends inquiry)
    (journal : prepared.journal = before.journal)
    (connection : prepared.connection = before.connection)
    (requests : prepared.requests = before.requests)
    (running : before.isRunning = true)
    (inFlight : prepared.inFlight inquiry = some request)
    (asks : ∀ server, Asking.ofMessage? inquiry server
      (Message.request prepared.requests.next method params) =
        some ⟨server, prepared.requests.next, request.place⟩) :
    (prepared.request method params
      (inquiry.context request.name request.line request.col)).2.Attends inquiry := by
  have shown : prepared.exchanges inquiry = before.exchanges inquiry := by
    rw [exchanges, view, journal]
    rfl
  rw [request_snd]
  generalize Message.request _ method params = message at asks ⊢
  -- A request that is withheld is waited for like one that was written.
  have asked {connected : Connection} (running : prepared.connection = some connected)
      (taken : Except Fault (List UInt8)) (held : Connection)
      (same : held.server = connected.server) :
      (((prepared.noting (inquiry.context request.name request.line request.col)).said
        connected.server message taken).hold held).Attends inquiry := by
    refine @Attends.asked _ _ _ _ connected.server request attends ?_ ?_ ?_ ?_ ?_
    · rw [← same]
      rfl
    · rw [← shown]
      refine (exchanges_said _ _ _ _).trans ?_
      rw [asks, ← requests]
      rfl
    · refine (requests_held _ _ _ _ _).trans ?_
      rw [noting, noting, requests]
    · rw [inFlight_held, ← inFlight]
      cases inquiry <;> rfl
    · exact talk_of_connection (connection.symm.trans running)
  have outcome := sending (prepared.noting
    (inquiry.context request.name request.line request.col)) message
  generalize Session.send _ message = result at outcome ⊢
  cases outcome with
  | part rest flushes held isPart => exact attends_disable _ _
  | idle nobody =>
      rw [isRunning, ← connection] at running
      rw [show prepared.connection = none from nobody] at running
      cases running
  | whole rest flushes running framed => exact asked running _ _ rfl
  | withheld fault running => exact asked running _ _ rfl

omit [Host] in
theorem asking_of_request (inquiry : Inquiry) (server number : Nat) (document : Document)
    (line col : Int) (more : Json.Entries) :
    Asking.ofMessage? inquiry server (Message.request number inquiry.method
      (.obj (("textDocument", documentParams document) ::
        ("position", positionParams line col) :: more))) =
      some ⟨server, number, ⟨document.uri, line, col⟩⟩ := by
  cases inquiry with
  | hover => rfl
  | completion => rfl

omit [Host] in
theorem asking_of_other {message : Json}
    (other : (message.field "method").textOrEmpty ≠ inquiry.method) (server : Nat) :
    Asking.ofMessage? inquiry server message = none := by
  rw [Asking.ofMessage?, if_neg other]

theorem uri_of_document? {path : Text} {document : Document} (keyed : session.documents.Keyed)
    (found : session.document? path = some document) : document.uri = Uri.ofPath path := by
  have uri := keyed.uri_eq (openAt?_of_document? found)
  rw [DocumentStore.pathOf_path] at uri
  exact uri

theorem Attends.askOther {method : Text} {params : Json} {context : RequestContext Text}
    (attends : session.Attends inquiry) (isOther : method ≠ inquiry.method)
    (other : ∀ path line col, context ≠ inquiry.context path line col) :
    (session.request method params context).2.Attends inquiry := by
  rw [request_snd]
  apply (attends.note other).send
  intro server
  apply asking_of_other
  rw [method_request]
  exact isOther

theorem Begins.attends {prepared : Session Text} {method : Text} {params : Json}
    {context : RequestContext Text} (begins : Begins before prepared method params context)
    (keyed : before.documents.Keyed) (attends : before.Attends inquiry) :
    (prepared.request method params context).2.Attends inquiry := by
  cases begins with
  | semanticTokens found =>
      cases inquiry with
      | hover => exact attends.askOther (by decide) (fun _ _ _ => nofun)
      | completion => exact attends.askOther (by decide) (fun _ _ _ => nofun)
  | @hover path document found line col now =>
      cases inquiry with
      | completion =>
          have noted : Attends .completion { before with
              hover := before.hover.start path line col now } :=
            attends.same rfl rfl rfl (.inl rfl)
          exact noted.askOther (by decide) (fun _ _ _ => nofun)
      | hover =>
          have uri := uri_of_document? keyed found
          refine @Attends.ask _ _ _ _ ⟨path, line, col, now⟩ _ _ attends rfl rfl rfl
            (isRunning_of_document? found) rfl ?_
          intro server
          rw [InFlight.place, Place.ofName, ← uri]
          exact asking_of_request .hover server _ document line col []
  | @completion path document found line col now trigger triggerKind =>
      cases inquiry with
      | hover =>
          have noted : Attends .hover { before with
              completion := before.completion.start path line col now } :=
            attends.same rfl rfl rfl (.inl rfl)
          exact noted.askOther (by decide) (fun _ _ _ => nofun)
      | completion =>
          have uri := uri_of_document? keyed found
          refine @Attends.ask _ _ _ _ ⟨path, line, col, now⟩ _ _ attends rfl rfl rfl
            (isRunning_of_document? found) rfl ?_
          intro server
          rw [InFlight.place, Place.ofName, ← uri]
          exact asking_of_request .completion server _ document line col
            [("context", triggerParams trigger triggerKind)]

theorem Tells.asksNothing {documents noted : DocumentStore} {message : Json}
    (tells : Tells documents noted message) (server : Nat) :
    Asking.ofMessage? inquiry server message = none := by
  apply asking_of_other
  cases tells with
  | change changed =>
      rw [method_notification]
      cases inquiry <;> decide
  | close closed =>
      rw [method_notification]
      cases inquiry <;> decide
  | refusal id method =>
      show "" ≠ inquiry.method
      cases inquiry <;> decide

theorem Speech.attends (speech : Speech before after) (keyed : before.documents.Keyed)
    (attends : before.Attends inquiry) : after.Attends inquiry := by
  cases speech with
  | nothing calm => exact attends.calm calm
  | asking begins => exact begins.attends keyed attends
  | @telling documents prepared message tells calm =>
      have noted : Attends inquiry { before with documents } :=
        attends.same rfl rfl rfl (.inl (by cases inquiry <;> rfl))
      exact (noted.calm calm).send tells.asksNothing

/-! ## Starts and stops -/

/-- Without a server nothing is attended to. -/
theorem attends_of_nobody (forgotten : session.requests.waiting = [])
    (silent : session.inFlight inquiry = none) (nobody : session.connection = none) :
    session.Attends inquiry := by
  apply attends_of_forgotten forgotten silent
  intro asking _
  unfold talk
  rw [nobody]
  exact nofun

theorem Starting.attends {command : Text} {outcome : Except Fault Bool × Session Text}
    (starting : Starting session command outcome) (numbered : session.talk.Numbered)
    (attends : session.Attends inquiry) : outcome.2.Attends inquiry := by
  cases starting with
  | running running => exact attends
  | failed nobody refused => exact attends_of_nobody rfl (by cases inquiry <;> rfl) nobody
  | brokenOff nobody broken => exact attends_of_nobody rfl (by cases inquiry <;> rfl) nobody
  | @started process params nobody launched =>
      have welcome : (session.hosting command process).Attends inquiry := by
        apply attends_of_forgotten rfl
        · cases inquiry <;> rfl
        · intro asking asked isServer
          rw [exchanges_hosting] at asked
          obtain ⟨writing, member, server, _⟩ := asked_written asked
          have earlier := numbered writing member
          rw [talk_hosting] at isServer
          rw [server, ← Option.some.inj isServer] at earlier
          exact Nat.lt_irrefl _ earlier
      dsimp only
      rw [greeting]
      cases inquiry with
      | hover =>
          apply welcome.askOther (by decide)
          intro path line col same
          cases same
      | completion =>
          apply welcome.askOther (by decide)
          intro path line col same
          cases same

theorem Stopping.attends {outcome : Except Fault Unit × Session Text}
    (stopping : Stopping session outcome) (attends : session.Attends inquiry) :
    outcome.2.Attends inquiry := by
  apply stopping.keeps attends
  · intro _
    apply attends.askOther (by cases inquiry <;> decide)
    cases inquiry <;> nofun
  · intro asking attends
    apply attends.send
    intro server
    apply asking_of_other
    rw [exitOrder, method_notification]
    cases inquiry <;> decide
  · intro connection ending running parting
    exact attends_of_nobody rfl (inFlight_reset _) (stopped_connection ending _)

/-! ## Responses -/

omit [Host] in
theorem place_of_isAbout {request : InFlight Text} {path : Text} {line col : Int}
    (about : request.isAbout path line col = true) :
    request.name = path ∧ request.line = line ∧ request.col = col := by
  simpa [InFlight.isAbout, and_assoc] using about

omit [Host] in
theorem accepts_of_inFlight {request : InFlight Text}
    (inFlight : session.inFlight inquiry = some request) :
    session.accepts (inquiry.context request.name request.line request.col) = true := by
  have about : request.isAbout request.name request.line request.col = true := by
    simp [InFlight.isAbout]
  cases inquiry with
  | hover =>
      have flying : session.hover.inFlight = some request := inFlight
      simp only [Inquiry.context, accepts, HoverSchedule.accept, flying, about, if_true]
  | completion =>
      have flying : session.completion.inFlight = some request := inFlight
      simp only [Inquiry.context, accepts, CompletionTracker.accept, flying, about, if_true]

/-- What a response lets be shown is about the place that was asked about last, and it answers
    a request to the same server about that place. -/
def Delivers (inquiry : Inquiry) (before : Session Text) (id : Json) (after : Session Text) :
    Prop :=
  ∃ latest number, Latest (before.exchanges inquiry) latest [] ∧
    before.talk.server = some latest.server ∧
    PendingRequests.numberOf? id = some number ∧
    .asked ⟨latest.server, number, latest.place⟩ ∈ before.exchanges inquiry ∧
    after.exchanges inquiry = before.exchanges inquiry ++ [.shown latest.place]

theorem Attends.waiting_resolve (attends : session.Attends inquiry) {id : Json}
    {context : RequestContext Text} {requests : PendingRequests (RequestContext Text)}
    (resolved : session.requests.resolve id = (some context, requests)) {number : Nat}
    {path : Text} {line col : Int}
    (waits : Table.get? requests.waiting number = some (inquiry.context path line col)) :
    ∃ server, session.talk.server = some server ∧
      .asked ⟨server, number, .ofName path line col⟩ ∈ session.exchanges inquiry := by
  obtain ⟨taken, _, _, rfl⟩ := PendingRequests.resolve_eq_some resolved
  by_cases isTaken : number = taken
  · rw [isTaken] at waits
    exact absurd ((Table.get?_remove_self _ _).symm.trans waits) nofun
  · exact attends.waiting _ _ _ _ ((Table.get?_remove_of_ne isTaken _).symm.trans waits)

/-- To take out what is not in flight changes nothing. -/
theorem Attends.resolve (attends : session.Attends inquiry) {id : Json}
    {context : RequestContext Text} {requests : PendingRequests (RequestContext Text)}
    (resolved : session.requests.resolve id = (some context, requests))
    (other : ∀ request, session.inFlight inquiry = some request →
      context ≠ inquiry.context request.name request.line request.col) :
    Attends inquiry { session with requests } := by
  have flying : Session.inFlight { session with requests } inquiry = session.inFlight inquiry := by
    cases inquiry <;> rfl
  refine ⟨fun _ _ _ _ waits => attends.waiting_resolve resolved waits, ?_⟩
  obtain ⟨taken, _, waited, rfl⟩ := PendingRequests.resolve_eq_some resolved
  cases attends.attention with
  | unasked silent unasked => exact .unasked (flying.trans silent) unasked
  | answered isLatest current silent => exact .answered isLatest current (flying.trans silent)
  | givenUp hover isLatest current silent =>
      exact .givenUp hover isLatest current (flying.trans silent)
  | @asked latest request isLatest current inFlight place counted waits =>
      have isOther : latest.number ≠ taken := by
        rintro rfl
        exact other request inFlight (Option.some.inj (waited.symm.trans waits))
      refine .asked isLatest current (flying.trans inFlight) place counted ?_
      exact (Table.get?_remove_of_ne isOther _).trans waits

/-- What was in flight and waited has been shown. -/
theorem Attends.deliver (attends : before.Attends inquiry) {id : Json} {path : Text}
    {line col : Int} {requests : PendingRequests (RequestContext Text)}
    {request : InFlight Text} {event : Event Text}
    (resolved : before.requests.resolve id = (some (inquiry.context path line col), requests))
    (inFlight : before.inFlight inquiry = some request)
    (about : request.isAbout path line col = true)
    (journal : after.journal = .event event :: before.journal)
    (placed : event.place? inquiry = some (.ofName path line col))
    (server : after.talk.server = before.talk.server) (noted : after.requests = requests)
    (silent : after.inFlight inquiry = none) :
    after.Attends inquiry ∧ Delivers inquiry before id after := by
  have exchanges := exchanges_of_answer journal placed
  obtain ⟨rfl, rfl, rfl⟩ := place_of_isAbout about
  obtain ⟨number, isNumber, waits, _⟩ := PendingRequests.resolve_eq_some resolved
  obtain ⟨asked, current, member⟩ := attends.waiting number _ _ _ waits
  cases attends.attention with
  | unasked still unasked => rw [still] at inFlight; exact absurd inFlight nofun
  | answered isLatest isCurrent still => rw [still] at inFlight; exact absurd inFlight nofun
  | givenUp hover isLatest isCurrent still => rw [still] at inFlight; exact absurd inFlight nofun
  | @asked latest other isLatest isCurrent isRequest place counted onlyWaits =>
      obtain rfl := Option.some.inj (inFlight.symm.trans isRequest)
      obtain rfl := Option.some.inj (current.symm.trans isCurrent)
      have shown : after.exchanges inquiry = before.exchanges inquiry ++ [.shown latest.place] := by
        rw [exchanges, place]
        rfl
      refine ⟨⟨?_, ?_⟩, latest, number, isLatest, isCurrent, isNumber, ?_, shown⟩
      · intro number path line col waits
        rw [noted] at waits
        obtain ⟨asked, isServer, member⟩ := attends.waiting_resolve resolved waits
        refine ⟨asked, server.trans isServer, ?_⟩
        rw [exchanges]
        exact List.mem_append_left _ member
      · obtain ⟨earlier, isEarlier, _⟩ := isLatest
        refine .answered ⟨earlier, ?_, ?_⟩ (server.trans isCurrent) silent
        · rw [shown, isEarlier, List.append_assoc]
          rfl
        · intro asking member
          exact absurd (List.mem_singleton.mp member) nofun
      · rw [place]
        exact member

omit [Host] in
theorem hover_of_accept {hover next : HoverSchedule Text (HoverTarget Text)} {path : Text}
    {line col : Int} (accepted : hover.accept path line col = (true, next)) :
    ∃ request, hover.inFlight = some request ∧ request.isAbout path line col = true ∧
      next.inFlight = none := by
  unfold HoverSchedule.accept at accepted
  split at accepted
  · exact absurd accepted (by simp)
  · next request flying =>
    split at accepted
    · next about =>
      obtain ⟨_, rfl⟩ := Prod.mk.inj accepted
      exact ⟨request, flying, about, rfl⟩
    · exact absurd accepted (by simp)

omit [Host] in
theorem completion_of_accept {completion next : CompletionTracker Text} {path : Text}
    {line col : Int} (accepted : completion.accept path line col = (true, next)) :
    ∃ request, completion.inFlight = some request ∧ request.isAbout path line col = true ∧
      next.inFlight = none := by
  unfold CompletionTracker.accept at accepted
  split at accepted
  · exact absurd accepted (by simp)
  · next request flying =>
    split at accepted
    · next about =>
      obtain ⟨_, rfl⟩ := Prod.mk.inj accepted
      exact ⟨request, flying, about, rfl⟩
    · exact absurd accepted (by simp)

/-- What says nothing of this kind leaves what is attended to. -/
theorem Attends.pass (attends : before.Attends inquiry) {id : Json}
    {context : RequestContext Text} {requests : PendingRequests (RequestContext Text)}
    {event : Event Text}
    (resolved : before.requests.resolve id = (some context, requests))
    (other : ∀ path line col, context ≠ inquiry.context path line col)
    (journal : after.journal = .event event :: before.journal)
    (placeless : event.place? inquiry = none) (server : after.talk.server = before.talk.server)
    (noted : after.requests = requests)
    (inFlight : after.inFlight inquiry = before.inFlight inquiry) :
    after.Attends inquiry ∧ after.exchanges inquiry = before.exchanges inquiry := by
  have same := exchanges_of_placeless journal placeless
  have taken := attends.resolve resolved fun _ _ => other _ _ _
  refine ⟨taken.same same server noted (.inl (inFlight.trans ?_)), same⟩
  cases inquiry <;> rfl

/-- A response shows nothing, or it delivers. -/
theorem Responding.attends {id : Json} (responding : Responding before id after)
    (attends : before.Attends inquiry) :
    after.Attends inquiry ∧
      (after.exchanges inquiry = before.exchanges inquiry ∨ Delivers inquiry before id after) := by
  cases responding with
  | unknown => exact ⟨attends, .inl rfl⟩
  | calm resolved stale calm =>
      refine ⟨(attends.resolve resolved ?_).calm calm, .inl (calm.view (blind_exchange inquiry))⟩
      rintro request inFlight rfl
      exact absurd (accepts_of_inFlight inFlight) (Bool.eq_false_iff.mp stale)
  | ready resolved =>
      refine And.imp_right .inl ?_
      cases inquiry with
      | hover => exact attends.pass resolved (fun _ _ _ => nofun) rfl rfl rfl rfl rfl
      | completion => exact attends.pass resolved (fun _ _ _ => nofun) rfl rfl rfl rfl rfl
  | hover resolved accepted =>
      obtain ⟨request, flying, about, landed⟩ := hover_of_accept accepted
      cases inquiry with
      | completion =>
          refine And.imp_right .inl ?_
          exact attends.pass resolved (fun _ _ _ => nofun) rfl rfl rfl rfl rfl
      | hover =>
          refine And.imp_right .inr ?_
          exact attends.deliver resolved flying about rfl rfl rfl rfl landed
  | completion resolved accepted =>
      obtain ⟨request, flying, about, landed⟩ := completion_of_accept accepted
      cases inquiry with
      | hover =>
          refine And.imp_right .inl ?_
          exact attends.pass resolved (fun _ _ _ => nofun) rfl rfl rfl rfl rfl
      | completion =>
          refine And.imp_right .inr ?_
          exact attends.deliver resolved flying about rfl rfl rfl rfl landed

/-- A response to what was asked last is shown, unless an answer was shown already or the hover
    was given up. -/
theorem Responding.answers {id : Json} {latest : Asking} {since : List Exchange}
    (responding : Responding before id after) (attends : before.Attends inquiry)
    (isLatest : Latest (before.exchanges inquiry) latest since)
    (current : before.talk.server = some latest.server)
    (isNumber : PendingRequests.numberOf? id = some latest.number) :
    after.exchanges inquiry = before.exchanges inquiry ++ [.shown latest.place] ∨
      since = [.shown latest.place] ∨
      inquiry = .hover ∧ since = [] ∧ before.inFlight inquiry = none := by
  cases attends.attention with
  | unasked silent unasked =>
      obtain ⟨earlier, same, _⟩ := isLatest
      have asked : .asked latest ∈ before.exchanges inquiry := by
        rw [same]
        exact List.mem_append_right _ List.mem_cons_self
      exact absurd current (unasked latest asked)
  | answered isOther isCurrent silent =>
      obtain ⟨rfl, rfl⟩ := isLatest.unique isOther
      exact .inr (.inl rfl)
  | givenUp hover isOther isCurrent silent =>
      obtain ⟨rfl, rfl⟩ := isLatest.unique isOther
      exact .inr (.inr ⟨hover, rfl, silent⟩)
  | asked isOther isCurrent inFlight place counted waits =>
      obtain ⟨rfl, rfl⟩ := isLatest.unique isOther
      have resolving := PendingRequests.resolve_of_waiting isNumber waits
      rw [place]
      left
      cases responding with
      | unknown unresolved =>
          rw [resolving] at unresolved
          exact absurd unresolved nofun
      | calm resolved stale calm =>
          obtain rfl := Option.some.inj (Prod.mk.inj (resolving.symm.trans resolved)).1
          exact absurd (accepts_of_inFlight inFlight) (Bool.eq_false_iff.mp stale)
      | ready resolved =>
          have other := Option.some.inj (Prod.mk.inj (resolving.symm.trans resolved)).1
          cases inquiry with
          | hover => exact absurd other nofun
          | completion => exact absurd other nofun
      | hover resolved accepted =>
          have isContext := Option.some.inj (Prod.mk.inj (resolving.symm.trans resolved)).1
          cases inquiry with
          | completion => exact absurd isContext nofun
          | hover =>
              obtain ⟨rfl, rfl, rfl⟩ := RequestContext.hover.inj isContext
              exact exchanges_of_answer rfl rfl
      | completion resolved accepted =>
          have isContext := Option.some.inj (Prod.mk.inj (resolving.symm.trans resolved)).1
          cases inquiry with
          | hover => exact absurd isContext nofun
          | completion =>
              obtain ⟨rfl, rfl, rfl⟩ := RequestContext.completion.inj isContext
              exact exchanges_of_answer rfl rfl

/-! ## Every move, every run -/

theorem Plain.attends (plain : Plain before after) (inStep : before.InStep)
    (attends : before.Attends inquiry) : after.Attends inquiry := by
  have same {after : Session Text}
      (exchanges : after.exchanges inquiry = before.exchanges inquiry)
      (server : after.talk.server = before.talk.server)
      (requests : after.requests = before.requests)
      (inFlight : after.inFlight inquiry = before.inFlight inquiry) : after.Attends inquiry :=
    attends.same exchanges server requests (.inl inFlight)
  cases plain.effect with
  | speech speech => exact speech.attends inStep.keyed attends
  | surround now launcher settings => exact same rfl rfl rfl (by cases inquiry <;> rfl)
  | prepareWrites writes flushes => exact same rfl rfl rfl (by cases inquiry <;> rfl)
  | takeWritesAs writes flushes =>
      exact same rfl (congrArg Talk.server (talk_changePeer before _)) rfl
        (by cases inquiry <;> rfl)
  | deliver given =>
      exact same rfl (congrArg Talk.server (talk_changePeer before _)) rfl
        (by cases inquiry <;> rfl)
  | receive running =>
      exact same rfl (congrArg Talk.server (talk_receive running)) rfl
        (by cases inquiry <;> rfl)
  | start starting => exact starting.attends inStep.numbered attends
  | stop stopping => exact stopping.attends attends
  | serverExited running => exact attends_disable before _

theorem Move.attends (move : Move before after) (inStep : before.InStep)
    (attends : before.Attends inquiry) : after.Attends inquiry := by
  have told (method : Text) (other : method ≠ inquiry.method) (params : Json) (server : Nat) :
      Asking.ofMessage? inquiry server (Message.notification method params) = none := by
    apply asking_of_other
    rw [method_notification]
    exact other
  cases move with
  | plain plain => exact plain.attends inStep attends
  | takeResponse message => exact ((responding before message).attends attends).1
  | @openDocument path text languageId params documents running opened =>
      have noted : Attends inquiry { before with documents } :=
        attends.same rfl rfl rfl (.inl (by cases inquiry <;> rfl))
      exact noted.send (told _ (by cases inquiry <;> decide) _)
  | confirmHandshake =>
      have noted (handshake : Handshake) : Attends inquiry { before with handshake } :=
        attends.same rfl rfl rfl (.inl (by cases inquiry <;> rfl))
      simp only [Session.confirmHandshake]
      split
      · exact (noted _).send (told _ (by cases inquiry <;> decide) _)
      · exact noted _

theorem Moves.attends (moves : Moves before after) (inStep : before.InStep)
    (attends : before.Attends inquiry) : after.Attends inquiry := by
  have both : after.InStep ∧ after.Attends inquiry := by
    apply keep_of_chain _ moves ⟨inStep, attends⟩
    intro before after move holds
    exact ⟨move.inStep holds.1, move.attends holds.1 holds.2⟩
  exact both.2

theorem Reachable.attends {session : Session Text} (reachable : Reachable session) :
    session.Attends inquiry := by
  have both : session.InStep ∧ session.Attends inquiry := by
    apply Reachable.induction _ _ reachable
    · intro processId folder
      refine ⟨(Reachable.fresh processId folder).inStep, ?_⟩
      exact attends_of_forgotten rfl (by cases inquiry <;> rfl) nofun
    · intro before after move holds
      exact ⟨move.inStep holds.1, move.attends holds.1 holds.2⟩
  exact both.2

end Session

end LanguageClient
