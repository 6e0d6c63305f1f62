import LanguageClient.Proofs.Document.Replay
import LanguageClient.Proofs.Session.Answers
import LanguageClient.Proofs.Session.Openness

/-! # Answers that come late

A document may be closed while a request about it waits for its response. What is shown of a
place is about a document that is open, unless the server was told after the latest request that
the document was closed: closing gives up a hover only where the pointer is on the document, and
never a completion.
-/

namespace LanguageClient.Session

variable {inquiry : Inquiry} {session before after : Session Text} [Host]

/-! ## What was closed since it was asked about -/

omit [Host] in
theorem asks_of_asking {server : Nat} {message : Json} {asking : Asking}
    (read : Asking.ofMessage? inquiry server message = some asking) :
    Telling.ofMessage? message = some (.asks asking.place.uri) := by
  unfold Asking.ofMessage? at read
  split at read
  · next isMethod =>
    split at read
    · next number place _ isPlace =>
      obtain rfl := Option.some.inj read
      have uri : Telling.uri? (message.field "params") = some place.uri := by
        unfold Place.ofParams? at isPlace
        split at isPlace
        · next isUri _ _ => rw [isUri, ← Option.some.inj isPlace]
        · exact absurd isPlace nofun
      cases inquiry with
      | hover => simp [Telling.ofMessage?, isMethod, Inquiry.method, Telling.questions, uri]
      | completion => simp [Telling.ofMessage?, isMethod, Inquiry.method, Telling.questions, uri]
    · exact absurd read nofun
  · exact absurd read nofun

/-- After something was asked, the server was told that the document was closed. -/
def ClosedSince (inquiry : Inquiry) (session : Session Text) (asking : Asking) : Prop :=
  ∃ earlier question later, session.messagesTo asking.server = earlier ++ question :: later ∧
    Asking.ofMessage? inquiry asking.server question = some asking ∧
    ∃ message ∈ later, Telling.ofMessage? message = some (.closes asking.place.uri)

/-- What the server that runs was asked about is open, unless it was closed since. -/
theorem open_or_closed (inStep : session.InStep) {asking : Asking}
    (current : session.talk.server = some asking.server)
    (asked : .asked asking ∈ session.exchanges inquiry) :
    (session.documents.openAt? asking.place.uri).isSome = true ∨
      session.ClosedSince inquiry asking := by
  obtain ⟨mirror, replayed, reflects⟩ := (inStep.told _ current).copied
  obtain ⟨writing, member, isServer, read⟩ := asked_written asked
  have written : writing.message ∈ session.messagesTo asking.server :=
    List.mem_map_of_mem (List.mem_filter.mpr ⟨member, by simp [isServer]⟩)
  obtain ⟨earlier, later, messages⟩ := List.append_of_mem written
  by_cases closed : ∃ message ∈ later,
      Telling.ofMessage? message = some (.closes asking.place.uri)
  · exact .inr ⟨earlier, writing.message, later, messages, read, closed⟩
  · have replayed : Mirror.replay? (session.messagesTo asking.server) = some mirror := replayed
    rw [messages] at replayed
    have known := Mirror.has_of_asked replayed (asks_of_asking read) fun message behind closes =>
      closed ⟨message, behind, closes⟩
    rw [reflects.has] at known
    exact .inl known

/-- What a message lets be shown was asked last, of the server that runs. The documents stay as
    they are. -/
theorem Takes.latest {message : Json} {place : Place}
    (takes : session.Takes before message after) (reachable : Reachable session)
    (shown : after.exchanges inquiry = before.exchanges inquiry ++ [.shown place]) :
    ∃ latest, Latest (before.exchanges inquiry) latest [] ∧
      before.talk.server = some latest.server ∧ latest.place = place ∧
      after.documents = before.documents := by
  have calm := calm_logMessage before .incoming message
  have attends : before.Attends inquiry := takes.attends reachable
  have logged := attends.calm calm
  have changed : after.exchanges inquiry ≠ before.exchanges inquiry := by
    rw [shown]
    simp
  obtain ⟨_, _, _, _, _, _, _, rfl⟩ := takes
  rcases responding_of_takeMessage (before.logMessage .incoming message) message with
    same | ⟨_, _, id, _, response⟩
  · rw [exchanges_logged] at same
    exact absurd same changed
  · rcases (response.attends logged).2 with same | ⟨latest, _, isLatest, current, _, _, answered⟩
    · rw [exchanges_logged] at same
      exact absurd same changed
    · rw [exchanges_logged] at isLatest answered
      rw [calm.quiet.talk] at current
      rw [shown] at answered
      have isPlace := List.singleton_inj.mp (List.append_cancel_left answered)
      exact ⟨latest, isLatest, current, (Exchange.shown.inj isPlace).symm,
        response.quiet.documents.trans calm.documents⟩

theorem Takes.inStep {message : Json} (takes : session.Takes before message after)
    (inStep : session.InStep) : before.InStep := by
  obtain ⟨connection, done, rest, running, polled, reached, connected, taken⟩ := takes
  have heard := takeMessages_hearings connection.server 0 (session.receive connection) done
  rw [reached] at heard
  have received : Plain session (session.receive connection) := .receive running
  exact inStep_of_turns (turns_of_hearings heard) (received.inStep inStep)

/-! ## What nothing waits for -/

omit [Host] in
theorem inFlight_disable (session : Session Text) (reason : Text) :
    (session.disable reason).inFlight inquiry = none :=
  inFlight_reset (session.disconnect .now)

omit [Host] in
theorem silent_calm (silent : before.inFlight inquiry = none) (calm : Calm before after) :
    after.inFlight inquiry = none := by
  rcases @inFlight_calm inquiry _ _ calm with same | ⟨_, nothing⟩
  · exact same.trans silent
  · exact nothing

theorem silent_send (silent : session.inFlight inquiry = none) (message : Json) :
    (session.send message).2.inFlight inquiry = none := by
  have outcome := sending session message
  generalize session.send message = result at outcome ⊢
  cases outcome with
  | idle nobody => exact silent
  | whole rest flushes running framed => exact (inFlight_held _ _ _ _ _).trans silent
  | part rest flushes running isPart => exact inFlight_disable _ _
  | withheld fault running => exact (inFlight_held _ _ _ _ _).trans silent

theorem silent_request (silent : session.inFlight inquiry = none) (method : Text)
    (params : Json) (context : RequestContext Text) :
    (session.request method params context).2.inFlight inquiry = none := by
  have noted : (session.noting context).inFlight inquiry = none := by
    rw [← silent]
    cases inquiry <;> rfl
  exact silent_send noted _

theorem Stopping.silent {outcome : Except Fault Unit × Session Text}
    (stopping : Stopping session outcome) (silent : session.inFlight inquiry = none) :
    outcome.2.inFlight inquiry = none := by
  apply stopping.keeps (motive := (·.inFlight inquiry = none)) silent
  · intro _
    exact silent_request silent _ _ _
  · intro asking silent
    exact silent_send silent _
  · intro connection ending running parting
    exact inFlight_reset _

theorem Starting.silent {command : Text} {outcome : Except Fault Bool × Session Text}
    (starting : Starting session command outcome) (silent : session.inFlight inquiry = none) :
    outcome.2.inFlight inquiry = none := by
  cases starting with
  | running running => exact silent
  | failed nobody refused => cases inquiry <;> rfl
  | brokenOff nobody broken => cases inquiry <;> rfl
  | @started process params nobody launched =>
      have welcome : (session.hosting command process).inFlight inquiry = none := by
        cases inquiry <;> rfl
      dsimp only
      rw [greeting]
      exact silent_request welcome "initialize" params .handshake

/-- Unless it is asked, nothing comes into flight. -/
def Silent (inquiry : Inquiry) (before after : Session Text) : Prop :=
  before.inFlight inquiry = none → after.exchanges inquiry = before.exchanges inquiry →
    after.inFlight inquiry = none

/-- What is in flight once something was asked shows among the exchanges. -/
theorem silent_ask {prepared : Session Text} {method : Text} {params : Json}
    {context : RequestContext Text} (shown : prepared.exchanges inquiry = before.exchanges inquiry)
    (running : prepared.connection.isSome = true)
    (asks : ∀ server, (Asking.ofMessage? inquiry server
      (Message.request prepared.requests.next method params)).isSome = true) :
    Silent inquiry before (prepared.request method params context).2 := by
  intro silent same
  rw [request_snd] at same ⊢
  -- The question was to go out, so that it would be one more exchange.
  have more {server : Nat} {taken : Except Fault (List UInt8)}
      (same : ((prepared.noting context).said server
        (Message.request prepared.requests.next method params) taken).exchanges inquiry =
          before.exchanges inquiry) : False := by
    obtain ⟨asking, isAsking⟩ := Option.isSome_iff_exists.mp (asks server)
    rw [exchanges_said, isAsking,
      show (prepared.noting context).exchanges inquiry = before.exchanges inquiry from shown]
      at same
    simp at same
  have outcome := sending (prepared.noting context)
    (Message.request prepared.requests.next method params)
  generalize Session.send (prepared.noting context) _ = result at outcome same ⊢
  cases outcome with
  | idle nobody =>
      rw [show prepared.connection = none from nobody] at running
      exact absurd running nofun
  | part rest flushes held isPart => exact inFlight_disable _ _
  | whole rest flushes held framed => exact (more same).elim
  | withheld fault held => exact (more same).elim

theorem Begins.silent {prepared : Session Text} {method : Text} {params : Json}
    {context : RequestContext Text} (begins : Begins before prepared method params context) :
    Silent inquiry before (prepared.request method params context).2 := by
  cases begins with
  | semanticTokens found => exact fun silent _ => silent_request silent _ _ _
  | @hover path document found line col now =>
      cases inquiry with
      | completion =>
          intro silent _
          have noted : Session.inFlight { before with
              hover := before.hover.start path line col now } .completion = none := silent
          exact silent_request noted _ _ _
      | hover =>
          refine silent_ask ?_ (isRunning_of_document? found) fun server => ?_
          · rfl
          · exact Option.isSome_of_eq_some (asking_of_request .hover server _ _ line col [])
  | @completion path document found line col now trigger triggerKind =>
      cases inquiry with
      | hover =>
          intro silent _
          have noted : Session.inFlight { before with
              completion := before.completion.start path line col now } .hover = none := silent
          exact silent_request noted _ _ _
      | completion =>
          refine silent_ask ?_ (isRunning_of_document? found) fun server => ?_
          · rfl
          · exact Option.isSome_of_eq_some (asking_of_request .completion server _ _ line col
              [("context", triggerParams trigger triggerKind)])

theorem Speech.silent (speech : Speech before after) : Silent inquiry before after := by
  cases speech with
  | nothing calm => exact fun silent _ => silent_calm silent calm
  | asking begins => exact begins.silent
  | @telling documents prepared message tells calm =>
      intro silent _
      have noted : Session.inFlight { before with documents } inquiry = none := by
        rw [← silent]
        cases inquiry <;> rfl
      exact silent_send (silent_calm noted calm) message

theorem Plain.silent (plain : Plain before after) : Silent inquiry before after := by
  intro silent same
  have kept (other : Session Text) (hover : other.hover.inFlight = before.hover.inFlight)
      (completion : other.completion = before.completion) : other.inFlight inquiry = none := by
    rw [← silent]
    cases inquiry with
    | hover => exact hover
    | completion => exact congrArg CompletionTracker.inFlight completion
  cases plain.effect with
  | speech speech => exact speech.silent silent same
  | surround now launcher settings => exact kept _ rfl rfl
  | prepareWrites writes flushes => exact kept _ rfl rfl
  | takeWritesAs writes flushes => exact kept _ rfl rfl
  | deliver given => exact kept _ rfl rfl
  | receive running => exact kept _ rfl rfl
  | start starting => exact starting.silent silent
  | stop stopping => exact stopping.silent silent
  | serverExited running => exact inFlight_disable _ _

/-- What nothing waits for is not shown. -/
theorem Responding.silent {id : Json} (responding : Responding before id after)
    (silent : before.inFlight inquiry = none) :
    after.exchanges inquiry = before.exchanges inquiry ∧ after.inFlight inquiry = none := by
  cases responding with
  | unknown => exact ⟨rfl, silent⟩
  | @calm context requests after resolved stale calm =>
      have noted : Session.inFlight { before with requests } inquiry = none := by
        rw [← silent]
        cases inquiry <;> rfl
      exact ⟨calm.view (blind_exchange inquiry), silent_calm noted calm⟩
  | ready resolved =>
      cases inquiry with
      | hover => exact ⟨exchanges_of_placeless rfl rfl, silent⟩
      | completion => exact ⟨exchanges_of_placeless rfl rfl, silent⟩
  | hover resolved accepted =>
      cases inquiry with
      | completion => exact ⟨exchanges_of_placeless rfl rfl, silent⟩
      | hover =>
          obtain ⟨request, flying, _⟩ := hover_of_accept accepted
          exact absurd (flying.symm.trans silent) nofun
  | completion resolved accepted =>
      cases inquiry with
      | hover => exact ⟨exchanges_of_placeless rfl rfl, silent⟩
      | completion =>
          obtain ⟨request, flying, _⟩ := completion_of_accept accepted
          exact absurd (flying.symm.trans silent) nofun

/-! ## Nothing is shown before something is asked -/

/-- Since the exchanges of the past nothing has been shown, unless something was asked first. -/
def AsksFirst (inquiry : Inquiry) (past : List Exchange) (session : Session Text) : Prop :=
  session.exchanges inquiry = past ∧ session.inFlight inquiry = none ∨
    ∃ asking more, session.exchanges inquiry = past ++ .asked asking :: more

variable {past : List Exchange}

theorem AsksFirst.mute (asksFirst : before.AsksFirst inquiry past)
    (mute : Mute inquiry before after) (silent : Silent inquiry before after) :
    after.AsksFirst inquiry past := by
  obtain ⟨more, grown, unshown⟩ := mute
  rcases asksFirst with ⟨rfl, nothing⟩ | ⟨asking, earlier, shown⟩
  · cases more with
    | nil =>
        have same := grown.trans (List.append_nil _)
        exact .inl ⟨same, silent nothing same⟩
    | cons first rest =>
        cases first with
        | asked asking => exact .inr ⟨asking, rest, grown⟩
        | shown place => exact absurd List.mem_cons_self (unshown place)
  · refine .inr ⟨asking, earlier ++ more, ?_⟩
    rw [grown, shown, List.append_assoc, List.cons_append]

theorem Move.asksFirst (move : Move before after) (asksFirst : before.AsksFirst inquiry past) :
    after.AsksFirst inquiry past := by
  cases move with
  | plain plain => exact asksFirst.mute plain.mute plain.silent
  | confirmHandshake =>
      refine asksFirst.mute (mute_confirmHandshake before) fun silent _ => ?_
      have noted : Session.inFlight { before with
          handshake := before.handshake.documentOpened.2 } inquiry = none := by
        rw [← silent]
        cases inquiry <;> rfl
      simp only [Session.confirmHandshake]
      split
      · exact silent_send noted _
      · exact noted
  | @openDocument path text languageId params documents running opened =>
      have noted : Mute inquiry before { before with documents } := .same rfl
      refine asksFirst.mute (noted.trans (mute_send _ _)) fun silent _ => silent_send ?_ _
      rw [← silent]
      cases inquiry <;> rfl
  | takeResponse message =>
      have response := responding before message
      rcases asksFirst with ⟨rfl, nothing⟩ | ⟨asking, more, shown⟩
      · exact .inl (response.silent nothing)
      · rcases @Responding.shows inquiry _ _ _ _ response with same | ⟨place, grown⟩
        · exact .inr ⟨asking, more, same.trans shown⟩
        · refine .inr ⟨asking, more ++ [.shown place], ?_⟩
          rw [grown, shown, List.append_assoc, List.cons_append]

/-- Whatever is done with a session from here on, and whatever happens to it. -/
abbrev Onward : Session Text → Session Text → Prop :=
  Relation.ReflTransGen fun before after => ∃ action, after = before.perform action

theorem AsksFirst.onward (onward : Onward before after)
    (asksFirst : before.AsksFirst inquiry past) : after.AsksFirst inquiry past := by
  apply keep_of_chain _ onward asksFirst
  rintro first _ ⟨action, rfl⟩ holds
  exact keep_of_chain (fun move => move.asksFirst)
    (moves_of_turns (perform_turns first action)) holds

/-- The closing of a document that the pointer is on gives up its hover. -/
theorem silent_didClose {path : Text} {target : HoverTarget Text}
    (pointed : session.hover.target = some target) (isOn : target.name = path)
    (known : (session.document? path).isSome = true) :
    (session.didClose path).2.inFlight .hover = none := by
  obtain ⟨document, found⟩ := Option.isSome_iff_exists.mp known
  obtain ⟨refresh, same⟩ := didClose_eq found
  rw [same]
  apply silent_send
  have agrees : DocumentName.agrees target.name path = true := by simp [isOn]
  unfold clearHoverOn clearHover
  simp only [pointed, agrees, if_true]
  split <;> rfl

/-! ## Open, or closed since -/

/-- What is shown of a place is about a document that is open, unless the server was told after
    the latest request that the document was closed. Where the pointer was on a document that
    was closed, no hover is shown before another one is asked for. -/
theorem shown_open_or_closed {session : Session Text} (reachable : Reachable session) :
    (∀ inquiry action earlier place later,
      (session.perform action).exchanges inquiry = earlier ++ .shown place :: later →
      (session.exchanges inquiry).length ≤ earlier.length →
      ∃ before message after, session.Takes before message after ∧
        before.exchanges inquiry = earlier ∧
        after.exchanges inquiry = earlier ++ [.shown place] ∧
        ((after.documents.openAt? place.uri).isSome = true ∨
          ∃ latest, Latest earlier latest [] ∧ latest.place = place ∧
            before.ClosedSince inquiry latest)) ∧
    (∀ path target later, session.hover.target = some target → target.name = path →
      (session.document? path).isSome = true →
      Onward (session.perform (.didClose path)) later →
      ∃ more, later.exchanges .hover =
          (session.perform (.didClose path)).exchanges .hover ++ more ∧
        ∀ place, more.head? ≠ some (.shown place)) := by
  refine ⟨?_, ?_⟩
  · intro inquiry action earlier place later shown isNew
    obtain ⟨_, before, message, after, takes, rfl, more⟩ := takes_of_shown shown isNew
    refine ⟨before, message, after, takes, rfl, more, ?_⟩
    obtain ⟨latest, isLatest, current, rfl, documents⟩ := takes.latest reachable more
    have asked : .asked latest ∈ before.exchanges inquiry := by
      obtain ⟨first, all, _⟩ := isLatest
      rw [all]
      exact List.mem_append_right _ List.mem_cons_self
    rw [documents]
    rcases open_or_closed (takes.inStep reachable.inStep) current asked with isOpen | closed
    · exact .inl isOpen
    · exact .inr ⟨latest, isLatest, rfl, closed⟩
  · intro path target later pointed isOn known onward
    have start : (session.perform (.didClose path)).AsksFirst .hover
        ((session.perform (.didClose path)).exchanges .hover) :=
      .inl ⟨rfl, silent_didClose pointed isOn known⟩
    rcases start.onward onward with ⟨same, _⟩ | ⟨asking, more, grown⟩
    · exact ⟨[], same.trans (List.append_nil _).symm, nofun⟩
    · exact ⟨_, grown, fun place => by simp⟩

end LanguageClient.Session

open scoped LanguageClient.Host.Bare

namespace LanguageClient.Session

def hosted : Session Text :=
  ({ processId := 1, folder := "/home" : Session Text }.perform (.start "server" "proj")).perform
    (.didOpen "a.py" "x" "python")

/-- The pointer is on the document that a hover is asked for in. -/
def pointedAt : Session Text :=
  (hosted.perform (.scheduleHover ⟨"a.py", 0, 0, 0, 0⟩)).perform (.requestHover "a.py" 0 0)

theorem dropped_pointedAt :
    (∃ before message after, (pointedAt.respondedTo 3).Takes before message after ∧
      ((after.documents.openAt? "file://a.py").isSome = true ∨
        ∃ latest, Latest (before.exchanges .hover) latest [] ∧
          before.ClosedSince .hover latest)) ∧
    ∃ more, (((pointedAt.perform (.didClose "a.py")).respondedTo 3).perform
        .processAvailable).exchanges .hover =
        (pointedAt.perform (.didClose "a.py")).exchanges .hover ++ more ∧
      ∀ place, more.head? ≠ some (.shown place) := by
  have reachable : Reachable pointedAt :=
    ((((Reachable.fresh 1 "/home").perform _).perform _).perform _).perform _
  have responded : Reachable (pointedAt.respondedTo 3) := reachable.perform _
  have state : pointedAt.hover.target.map (·.name) = some "a.py" ∧
      (pointedAt.document? "a.py").isSome = true ∧
      ((pointedAt.respondedTo 3).exchanges .hover).length = 1 ∧
      ((pointedAt.respondedTo 3).perform .processAvailable).exchanges .hover =
        [.asked ⟨0, 3, ⟨"file://a.py", 0, 0⟩⟩, .shown ⟨"file://a.py", 0, 0⟩] := by
    decide +kernel
  obtain ⟨pointed, known, isNew, shown⟩ := state
  constructor
  · obtain ⟨before, message, after, takes, isEarlier, _, outcome⟩ :=
      (shown_open_or_closed responded).1 .hover .processAvailable
        [.asked ⟨0, 3, ⟨"file://a.py", 0, 0⟩⟩] ⟨"file://a.py", 0, 0⟩ [] shown (le_of_eq isNew)
    refine ⟨before, message, after, takes, outcome.imp_right ?_⟩
    rintro ⟨latest, isLatest, _, closed⟩
    exact ⟨latest, isEarlier ▸ isLatest, closed⟩
  · obtain ⟨target, isTarget, isOn⟩ := Option.map_eq_some_iff.mp pointed
    exact (shown_open_or_closed reachable).2 "a.py" target _ isTarget isOn known
      ((Relation.ReflTransGen.single ⟨_, rfl⟩).tail ⟨_, rfl⟩)

/-- Completions and a hover are asked for in a document, which is then closed. The responses
    arrive behind that. -/
def answeredLate : Session Text :=
  (((((hosted.perform (.arrive (Transport.frameOf (.obj [("id", .int 1), ("result",
    .obj [("capabilities", .obj [("completionProvider", .obj [])])])])))).perform
      .processAvailable).perform (.requestCompletion "a.py" 0 0 "" 1)).perform
        (.requestHover "a.py" 0 0)).perform (.didClose "a.py")).perform
          (.arrive (Transport.frameOf (.obj [("id", .int 3), ("result", .null)]) ++
            Transport.frameOf (.obj [("id", .int 4), ("result", .null)])))

/-- Both responses are shown, although the document has been closed. -/
theorem shown_answeredLate :
    answeredLate.documents.isOpen "a.py" = false ∧
      (answeredLate.perform .processAvailable).exchanges .completion =
        answeredLate.exchanges .completion ++ [.shown ⟨"file://a.py", 0, 0⟩] ∧
      (answeredLate.perform .processAvailable).exchanges .hover =
        answeredLate.exchanges .hover ++ [.shown ⟨"file://a.py", 0, 0⟩] ∧
      (answeredLate.perform .processAvailable).documents.isOpen "a.py" = false := by
  decide +kernel

end LanguageClient.Session
