import LanguageClient.Proofs.Session.Attention
import LanguageClient.Proofs.Session.Idle

/-! # What is waited for and what is shown

Of all that a session does only a few things bear on the hover and the completion it waits for
and on the hover text that is shown: to ask about a place, to tell the host of an answer or that
the text is to be taken off, and to start and stop a server. A beat is a step that does at most
one of these things, together with its signal, which can be read off the journal.
-/

namespace LanguageClient

/-- A place in a document under the name that the host uses for the document. -/
structure Spot where
  path : Text
  line : Int
  col : Int
  deriving DecidableEq

def Spot.place [Places] (spot : Spot) : Place :=
  .ofName spot.path spot.line spot.col

def InFlight.spot (request : InFlight Text) : Spot :=
  ⟨request.name, request.line, request.col⟩

/-- A request about a place begins, or the host is told something. -/
inductive Signal where
  /-- The request is in the name of a document if the call that wrote it has one. -/
  | begun (inquiry : Inquiry) (asking : Asking) (path : Option Text)
  | told (event : Event Text)
  deriving DecidableEq

/-- The request that a message to a server begins, for a call about a document. -/
def Signal.ofMessage? (subject : Option Text) (server : Nat) (message : Json) :
    Option Signal :=
  ((Asking.ofMessage? .hover server message).map (.begun .hover · subject)).or
    ((Asking.ofMessage? .completion server message).map (.begun .completion · subject))

def JournalEntry.signal? (subject : Option Text) : JournalEntry Text → Option Signal
  | .wrote server message _ => Signal.ofMessage? subject server message
  | .event told => some (.told told)
  | _ => none

/-! ## What the host is told -/

namespace Event

/-- The spot that an event tells the answer for. -/
def answer? : Inquiry → Event Text → Option Spot
  | .hover, .hover path line col _ => some ⟨path, line, col⟩
  | .completion, .completion path line col _ => some ⟨path, line, col⟩
  | _, _ => none

/-- Whether an event tells an answer of this kind, or that there will be none to what was asked
    before it: a hover is taken off, a server comes or goes. -/
def concerns : Inquiry → Event Text → Bool
  | _, .started => true
  | _, .stopped => true
  | .hover, .hover .. => true
  | .hover, .hoverCleared => true
  | .completion, .completion .. => true
  | _, _ => false

/-- What an event lets become of the hover text that is shown: there is some, or there is none
    any more. A server that goes takes it along. -/
def popup? : Event Text → Option Bool
  | .hover _ _ _ text => some text.isSome
  | .hoverCleared => some false
  | .stopped => some false
  | _ => none

/-- Whether an event is about something else. -/
def isAside : Event Text → Bool
  | .started => false
  | .stopped => false
  | .hover .. => false
  | .hoverCleared => false
  | .completion .. => false
  | _ => true

variable {event : Event Text}

theorem answer?_of_aside (aside : event.isAside = true) (inquiry : Inquiry) :
    event.answer? inquiry = none := by
  cases event <;> cases inquiry <;> first | rfl | exact absurd aside nofun

theorem concerns_of_aside (aside : event.isAside = true) (inquiry : Inquiry) :
    event.concerns inquiry = false := by
  cases event <;> cases inquiry <;> first | rfl | exact absurd aside nofun

theorem popup?_of_aside (aside : event.isAside = true) : event.popup? = none := by
  cases event <;> first | rfl | exact absurd aside nofun

end Event

/-- Whether a request of this kind begins, or an event concerns one. -/
def Signal.concerns (inquiry : Inquiry) : Signal → Bool
  | .begun asked _ _ => asked = inquiry
  | .told event => event.concerns inquiry

namespace Session

variable {subject : Option Text} {before middle after session : Session Text} [Host]

/-- What was begun and told, in order, read for a call about a document. -/
def account (subject : Option Text) (session : Session Text) : List Signal :=
  session.view (JournalEntry.signal? subject)

/-- The document that a call asks about: the one that it names, or the one that the pointer
    is on. -/
def subject? (session : Session Text) : Action Text → Option Text
  | .requestHover path _ _ => some path
  | .requestCompletion path _ _ _ _ => some path
  | .tick => session.hover.target.map (·.name)
  | _ => none

/-! ## Beats -/

/-- Nothing is begun or told, and the same is waited for and shown. -/
structure Even (subject : Option Text) (before after : Session Text) : Prop where
  account : after.account subject = before.account subject
  inFlight : after.inFlight = before.inFlight
  displayed : after.hover.displayed = before.hover.displayed

/-- At most one thing that is begun or told, with what it does to what is waited for and
    shown. -/
inductive Beat (subject : Option Text) (before : Session Text) : Session Text → Prop where
  | even {after : Session Text} (even : Even subject before after) : Beat subject before after
  | begun {after : Session Text} {inquiry : Inquiry} {asking : Asking}
      {request : InFlight Text}
      (account : after.account subject = before.account subject ++
        [.begun inquiry asking (some request.name)])
      (place : asking.place = request.place)
      (inFlight : after.inFlight inquiry = some request)
      (others : ∀ other, other ≠ inquiry → after.inFlight other = before.inFlight other)
      (displayed : after.hover.displayed = before.hover.displayed) : Beat subject before after
  | told {after : Session Text} {event : Event Text}
      (account : after.account subject = before.account subject ++ [.told event])
      (answers : ∀ inquiry spot, event.answer? inquiry = some spot →
        ∃ request, before.inFlight inquiry = some request ∧ request.spot = spot)
      (inFlight : ∀ inquiry, after.inFlight inquiry = none ∨
        event.concerns inquiry = false ∧ after.inFlight inquiry = before.inFlight inquiry)
      (displayed : after.hover.displayed = event.popup?.getD before.hover.displayed) :
      Beat subject before after

abbrev Beats (subject : Option Text) : Session Text → Session Text → Prop :=
  Relation.ReflTransGen (Beat subject)

theorem Even.beats (even : Even subject before after) : Beats subject before after :=
  .single (.even even)

omit [Host] in
/-- What the journal, what is waited for and what is shown are the same in. -/
theorem even_of_same (journal : after.journal = before.journal)
    (hover : after.hover.inFlight = before.hover.inFlight)
    (completion : after.completion.inFlight = before.completion.inFlight)
    (displayed : after.hover.displayed = before.hover.displayed) : Even subject before after := by
  refine ⟨?_, ?_, displayed⟩
  · rw [account, view, journal]
    rfl
  · funext inquiry
    cases inquiry with
    | hover => exact hover
    | completion => exact completion

omit [Host] in
theorem account_emit (session : Session Text) (event : Event Text) :
    (session.emit event).account subject = session.account subject ++ [.told event] :=
  view_record (JournalEntry.signal? subject) session (.event event)

/-- The host is told something that is no answer. -/
theorem beat_of_unanswering {event : Event Text}
    (account : after.account subject = before.account subject ++ [.told event])
    (unanswering : ∀ inquiry, event.answer? inquiry = none)
    (inFlight : ∀ inquiry, after.inFlight inquiry = none ∨
      event.concerns inquiry = false ∧ after.inFlight inquiry = before.inFlight inquiry)
    (displayed : after.hover.displayed = event.popup?.getD before.hover.displayed) :
    Beat subject before after := by
  refine .told account ?_ inFlight displayed
  intro inquiry spot answers
  rw [unanswering inquiry] at answers
  exact absurd answers (Option.some_ne_none spot).symm

theorem beat_aside (session : Session Text) {event : Event Text}
    (aside : event.isAside = true) : Beat subject session (session.emit event) := by
  refine beat_of_unanswering (account_emit session event) (Event.answer?_of_aside aside) ?_ ?_
  · intro inquiry
    refine .inr ⟨Event.concerns_of_aside aside inquiry, ?_⟩
    cases inquiry <;> rfl
  · rw [Event.popup?_of_aside aside]
    rfl

theorem beats_logMessage (session : Session Text) (direction : Direction) (message : Json) :
    Beats subject session (session.logMessage direction message) := by
  unfold logMessage
  split
  · exact .single (beat_aside session rfl)
  · exact .refl

omit [Host] in
theorem even_disconnect (session : Session Text) (timeout : Timeout) :
    Even subject session (session.disconnect timeout) := by
  unfold disconnect
  split
  · exact even_of_same rfl rfl rfl rfl
  · next connection _ =>
    have unread : (JournalEntry.stoppedServer connection.server timeout
        (connection.process.stop timeout).made).signal? subject = none := rfl
    refine ⟨?_, rfl, rfl⟩
    rw [account, view_record, unread]
    exact List.append_nil _

/-- A conversation that ends is forgotten, and the host is told. -/
theorem beat_stopped (session : Session Text) :
    Beat subject session (session.reset.emit .stopped) := by
  refine beat_of_unanswering (account_emit session.reset .stopped) ?_ ?_ rfl
  · intro inquiry
    cases inquiry <;> rfl
  · intro inquiry
    exact .inl (inFlight_reset session)

theorem beats_disable (session : Session Text) (reason : Text) :
    Beats subject session (session.disable reason) := by
  have left : Beats subject session (session.disconnect .now) :=
    (even_disconnect session .now).beats
  have reported : Beat subject (session.disconnect .now)
      ((session.disconnect .now).emit (.status ("LSP disabled: " ++ reason))) := beat_aside _ rfl
  exact (left.tail reported).tail (beat_stopped _)

/-! ## What is said -/

omit [Host] in
theorem signal_of_other {server : Nat} {message : Json}
    (other : ∀ inquiry, Asking.ofMessage? inquiry server message = none) :
    Signal.ofMessage? subject server message = none := by
  rw [Signal.ofMessage?, other .hover, other .completion]
  rfl

theorem account_said (session : Session Text) (server : Nat) (message : Json)
    (taken : Except Fault (List UInt8)) :
    (session.said server message taken).account subject =
      (session.logMessage .outgoing message).account subject ++
        (Signal.ofMessage? subject server message).toList :=
  view_record (JournalEntry.signal? subject) _ (.wrote server message taken)

theorem beats_said {server : Nat} {message : Json}
    (other : ∀ inquiry, Asking.ofMessage? inquiry server message = none)
    (taken : Except Fault (List UInt8)) :
    Beats subject session (session.said server message taken) := by
  apply (beats_logMessage session .outgoing message).tail
  refine .even ⟨?_, rfl, rfl⟩
  rw [account_said, signal_of_other other]
  exact List.append_nil _

theorem hover_logMessage (session : Session Text) (direction : Direction) (message : Json) :
    (session.logMessage direction message).hover = session.hover := by
  unfold logMessage
  split
  · rfl
  · rfl

/-- What has been noted of a request before it is written: it is waited for, and all else is as
    it was. -/
structure Asks (inquiry : Inquiry) (request : InFlight Text) (before after : Session Text) :
    Prop where
  journal : after.journal = before.journal
  logTraffic : after.logTraffic = before.logTraffic
  inFlight : after.inFlight inquiry = some request
  others : ∀ other, other ≠ inquiry → after.inFlight other = before.inFlight other
  displayed : after.hover.displayed = before.hover.displayed

/-- What is said begins the request that was noted. -/
theorem Asks.beats_said {inquiry : Inquiry} {request : InFlight Text} {server number : Nat}
    {message : Json} (asks : Asks inquiry request before session)
    (begins : Signal.ofMessage? subject server message =
      some (.begun inquiry ⟨server, number, request.place⟩ (some request.name)))
    (taken : Except Fault (List UInt8)) :
    Beats subject before (session.said server message taken) := by
  have logged : (session.logMessage .outgoing message).account subject =
      (before.logMessage .outgoing message).account subject := by
    unfold logMessage
    rw [asks.logTraffic]
    split
    · rw [account_emit, account_emit, account, view, asks.journal]
      rfl
    · rw [account, view, asks.journal]
      rfl
  have account : (session.said server message taken).account subject =
      (before.logMessage .outgoing message).account subject ++
        [.begun inquiry ⟨server, number, request.place⟩ (some request.name)] := by
    rw [account_said, logged, begins]
    rfl
  have shown : (session.said server message taken).hover.displayed = before.hover.displayed :=
    (congrArg HoverSchedule.displayed (hover_logMessage session .outgoing message)).trans
      asks.displayed
  apply (beats_logMessage before .outgoing message).tail
  refine .begun account rfl ?_ ?_ ?_
  · exact (inFlight_logMessage session .outgoing message).trans asks.inFlight
  · intro other isOther
    rw [inFlight_logMessage before]
    exact (inFlight_logMessage session .outgoing message).trans (asks.others other isOther)
  · rw [hover_logMessage before]
    exact shown

/-- What sending comes to, whatever has been noted before. -/
theorem beats_send_of_said {message : Json}
    (idle : session.connection = none → Beats subject before session)
    (said : ∀ server taken, Beats subject before (session.said server message taken)) :
    Beats subject before (session.send message).2 := by
  have outcome := sending session message
  generalize session.send message = result at outcome ⊢
  have held (server : Nat) (taken : Except Fault (List UInt8)) (connection : Connection) :
      Beats subject before ((session.said server message taken).hold connection) :=
    (said server taken).tail (.even (even_of_same rfl rfl rfl rfl))
  cases outcome with
  | idle nobody => exact idle nobody
  | whole rest flushes running framed => exact held _ _ _
  | part rest flushes running isPart => exact (held _ _ _).trans (beats_disable _ _)
  | withheld fault running => exact held _ _ _

theorem beats_send {message : Json}
    (other : ∀ inquiry server, Asking.ofMessage? inquiry server message = none) :
    Beats subject session (session.send message).2 :=
  beats_send_of_said (fun _ => .refl) fun server => beats_said (other · server)

omit [Host] in
theorem ne_method {method : Text} (hover : method ≠ Inquiry.hover.method)
    (completion : method ≠ Inquiry.completion.method) (inquiry : Inquiry) :
    method ≠ inquiry.method := by
  cases inquiry with
  | hover => exact hover
  | completion => exact completion

/-- What telling the server comes to for a session that has noted it. -/
theorem beats_notify {prepared : Session Text} {method : Text}
    (noted : Even subject session prepared) (other : ∀ inquiry : Inquiry, method ≠ inquiry.method)
    (params : Json) : Beats subject session (prepared.notify method params).2 := by
  apply noted.beats.trans
  apply beats_send
  intro inquiry server
  apply asking_of_other
  rw [method_notification]
  exact other inquiry

theorem beats_request {method : Text} (other : ∀ inquiry : Inquiry, method ≠ inquiry.method)
    (params : Json) (context : RequestContext Text) :
    Beats subject session (session.request method params context).2 := by
  have noted : Even subject session (session.noting context) := even_of_same rfl rfl rfl rfl
  rw [request_snd]
  apply noted.beats.trans
  apply beats_send
  intro inquiry server
  apply asking_of_other
  rw [method_request]
  exact other inquiry

omit [Host] in
theorem signal_of_request (inquiry : Inquiry) (path : Text) (server number : Nat)
    (document : Document) (line col : Int) (more : Json.Entries) :
    Signal.ofMessage? (some path) server (Message.request number inquiry.method
      (.obj (("textDocument", documentParams document) ::
        ("position", positionParams line col) :: more))) =
      some (.begun inquiry ⟨server, number, ⟨document.uri, line, col⟩⟩ (some path)) := by
  cases inquiry with
  | hover => rfl
  | completion => rfl

/-- What asking about a document comes to for a session that has noted it. -/
theorem Asks.beats_request {prepared : Session Text} {inquiry : Inquiry}
    {request : InFlight Text} {document : Document}
    (asks : Asks inquiry request before prepared) (keyed : before.documents.Keyed)
    (found : before.document? request.name = some document)
    (connection : prepared.connection = before.connection) (more : Json.Entries)
    (context : RequestContext Text) :
    Beats (some request.name) before (prepared.request inquiry.method
      (.obj (("textDocument", documentParams document) ::
        ("position", positionParams request.line request.col) :: more)) context).2 := by
  have noted : Asks inquiry request before (prepared.noting context) :=
    ⟨asks.journal, asks.logTraffic, asks.inFlight, asks.others, asks.displayed⟩
  rw [request_snd]
  apply beats_send_of_said
  · intro nobody
    have running := isRunning_of_document? found
    rw [isRunning, ← connection] at running
    rw [show prepared.connection = none from nobody] at running
    exact absurd running Bool.false_ne_true
  · intro server taken
    have place : request.place = ⟨document.uri, request.line, request.col⟩ := by
      rw [InFlight.place, Place.ofName, uri_of_document? keyed found]
    have begins := signal_of_request inquiry request.name server prepared.requests.next document
      request.line request.col more
    rw [← place] at begins
    exact noted.beats_said begins taken

end Session

end LanguageClient
