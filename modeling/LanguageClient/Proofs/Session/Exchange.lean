import LanguageClient.Proofs.Session.InStep

/-! # Inquiries and what is shown of them

A hover and a completion are asked about a place, and the host is shown what the server has
answered to that. What was asked and what was shown can be read off the journal in the order
in which it happened. A request counts as asked even if it was withheld: the session waits for the
answer either way. Only a response lets something be shown.
-/

namespace LanguageClient

/-- What a server is asked about a place. -/
inductive Inquiry where
  | hover
  | completion
  deriving DecidableEq

def Inquiry.method : Inquiry → Text
  | .hover => "textDocument/hover"
  | .completion => "textDocument/completion"

/-- What a request that asks this is noted as. -/
def Inquiry.context : Inquiry → Text → Int → Int → RequestContext Text
  | .hover => .hover
  | .completion => .completion

/-- A place as a server sees it. -/
structure Place where
  uri : Text
  line : Int
  col : Int
  deriving DecidableEq

def Place.ofName [Places] (path : Text) (line col : Int) : Place :=
  ⟨Uri.ofPath path, line, col⟩

def Place.ofParams? (params : Json) : Option Place :=
  match Telling.uri? params, (params.field "position").field "line",
    (params.field "position").field "character" with
  | some uri, .int line, .int col => some ⟨uri, line, col⟩
  | _, _, _ => none

/-- A request about a place, with its number. -/
structure Asking where
  server : Nat
  number : Nat
  place : Place
  deriving DecidableEq

/-- The request about a place that a message to a server is. -/
def Asking.ofMessage? (inquiry : Inquiry) (server : Nat) (message : Json) : Option Asking :=
  if (message.field "method").textOrEmpty = inquiry.method then
    match PendingRequests.numberOf? (message.field "id"), Place.ofParams? (message.field "params")
      with
    | some number, some place => some ⟨server, number, place⟩
    | _, _ => none
  else none

/-- Something is asked about a place, or the host is shown what was answered. -/
inductive Exchange where
  | asked (asking : Asking)
  | shown (place : Place)
  deriving DecidableEq

def Event.place? [Places] : Inquiry → Event Text → Option Place
  | .hover, .hover path line col _ => some (.ofName path line col)
  | .completion, .completion path line col _ => some (.ofName path line col)
  | _, _ => none

def JournalEntry.exchange? [Places] (inquiry : Inquiry) : JournalEntry Text → Option Exchange
  | .wrote server message _ => (Asking.ofMessage? inquiry server message).map .asked
  | .event told => (told.place? inquiry).map .shown
  | _ => none

theorem blind_exchange [Places] (inquiry : Inquiry) : Blind (JournalEntry.exchange? inquiry) := by
  intro entry calm
  cases entry with
  | wrote server message taken => exact absurd calm Bool.false_ne_true
  | event told =>
      cases told with
      | hover path line col text => exact absurd calm Bool.false_ne_true
      | completion path line col list => exact absurd calm Bool.false_ne_true
      | _ => cases inquiry <;> rfl
  | _ => rfl

/-- The latest request among exchanges, and what was shown since. -/
def Latest (exchanges : List Exchange) (latest : Asking) (since : List Exchange) : Prop :=
  ∃ earlier, exchanges = earlier ++ .asked latest :: since ∧ ∀ asking, .asked asking ∉ since

theorem Latest.unique {exchanges since others : List Exchange} {latest other : Asking}
    (isLatest : Latest exchanges latest since) (isOther : Latest exchanges other others) :
    latest = other ∧ since = others := by
  obtain ⟨earlier, rfl, shown⟩ := isLatest
  obtain ⟨before, same, shownOthers⟩ := isOther
  rcases List.append_eq_append_iff.mp same with ⟨between, _, rest⟩ | ⟨between, _, rest⟩
  · cases between with
    | nil =>
        obtain ⟨isSame, rfl⟩ := List.cons_eq_cons.mp rest
        exact ⟨Exchange.asked.inj isSame, rfl⟩
    | cons first between =>
        obtain ⟨_, rfl⟩ := List.cons_eq_cons.mp rest
        exact absurd (List.mem_append_right _ List.mem_cons_self) (shown other)
  · cases between with
    | nil =>
        obtain ⟨isSame, rfl⟩ := List.cons_eq_cons.mp rest
        exact ⟨(Exchange.asked.inj isSame).symm, rfl⟩
    | cons first between =>
        obtain ⟨_, rfl⟩ := List.cons_eq_cons.mp rest
        exact absurd (List.mem_append_right _ List.mem_cons_self) (shownOthers latest)

namespace Session

/-- What was asked about places and what was shown of it. -/
def exchanges [Places] (inquiry : Inquiry) (session : Session Text) : List Exchange :=
  session.view (JournalEntry.exchange? inquiry)

/-- The request that a response of this kind has to fit. -/
def inFlight (session : Session Text) : Inquiry → Option (InFlight Text)
  | .hover => session.hover.inFlight
  | .completion => session.completion.inFlight

variable {inquiry : Inquiry} {before middle after session : Session Text}

section

variable [Places]

/-- What was asked is read off a message that was written. -/
theorem asked_written {asking : Asking} (asked : .asked asking ∈ session.exchanges inquiry) :
    ∃ writing ∈ session.writings, writing.server = asking.server ∧
      Asking.ofMessage? inquiry asking.server writing.message = some asking := by
  obtain ⟨entry, member, read⟩ := List.mem_filterMap.mp asked
  cases entry with
  | event told => simp [JournalEntry.exchange?] at read
  | asked command => exact absurd read nofun
  | stoppedServer server timeout made => exact absurd read nofun
  | wrote server message taken =>
      obtain ⟨found, isAsking, same⟩ := Option.map_eq_some_iff.mp read
      obtain rfl := Exchange.asked.inj same
      have isServer : found.server = server := by
        unfold Asking.ofMessage? at isAsking
        split at isAsking
        · split at isAsking
          · rw [← Option.some.inj isAsking]
          · exact absurd isAsking nofun
        · exact absurd isAsking nofun
      subst isServer
      exact ⟨⟨_, message, taken⟩, List.mem_filterMap.mpr ⟨_, member, rfl⟩, rfl, isAsking⟩

/-! ## What only asks -/

/-- Perhaps more is asked, but nothing is shown. -/
def Mute (inquiry : Inquiry) (before after : Session Text) : Prop :=
  ∃ more, after.exchanges inquiry = before.exchanges inquiry ++ more ∧
    ∀ place, .shown place ∉ more

theorem Mute.same (same : after.exchanges inquiry = before.exchanges inquiry) :
    Mute inquiry before after :=
  ⟨[], by rw [same, List.append_nil], nofun⟩

theorem Mute.trans (first : Mute inquiry before middle) (second : Mute inquiry middle after) :
    Mute inquiry before after := by
  obtain ⟨more, grown, silent⟩ := first
  obtain ⟨still, grownStill, silentStill⟩ := second
  refine ⟨more ++ still, by rw [grownStill, grown, List.append_assoc], ?_⟩
  intro place member
  rcases List.mem_append.mp member with early | late
  · exact silent place early
  · exact silentStill place late

theorem Mute.calm (calm : Calm before after) : Mute inquiry before after :=
  .same (calm.view (blind_exchange inquiry))

theorem exchanges_record (session : Session Text) (entry : JournalEntry Text) :
    (session.record entry).exchanges inquiry =
      session.exchanges inquiry ++ (entry.exchange? inquiry).toList :=
  view_record _ session entry

theorem exchanges_disconnect (session : Session Text) (timeout : Timeout) :
    (session.disconnect timeout).exchanges inquiry = session.exchanges inquiry := by
  unfold disconnect
  split
  · rfl
  · rw [exchanges_record]
    exact List.append_nil _

/-- What a session shows by an event, whatever else it does. -/
theorem exchanges_of_event {event : Event Text}
    (journal : after.journal = .event event :: before.journal) :
    after.exchanges inquiry =
      before.exchanges inquiry ++ ((event.place? inquiry).map Exchange.shown).toList := by
  have same : after.exchanges inquiry = (before.record (.event event)).exchanges inquiry := by
    rw [exchanges, view, journal]
    rfl
  rw [same]
  exact exchanges_record before _

theorem exchanges_of_answer {event : Event Text} {place : Place}
    (journal : after.journal = .event event :: before.journal)
    (placed : event.place? inquiry = some place) :
    after.exchanges inquiry = before.exchanges inquiry ++ [.shown place] := by
  rw [exchanges_of_event journal, placed]
  rfl

/-- An event that answers nothing shows nothing. -/
theorem exchanges_of_placeless {event : Event Text}
    (journal : after.journal = .event event :: before.journal)
    (placeless : event.place? inquiry = none) :
    after.exchanges inquiry = before.exchanges inquiry := by
  rw [exchanges_of_event journal, placeless]
  exact List.append_nil _

theorem exchanges_emit (session : Session Text) {event : Event Text}
    (placeless : event.place? inquiry = none) :
    (session.emit event).exchanges inquiry = session.exchanges inquiry :=
  exchanges_of_placeless rfl placeless

theorem placeless_status (text : Text) : Event.place? inquiry (.status text) = none := by
  cases inquiry <;> rfl

theorem placeless_stopped : Event.place? inquiry .stopped = none := by
  cases inquiry <;> rfl

theorem exchanges_disable (session : Session Text) (reason : Text) :
    (session.disable reason).exchanges inquiry = session.exchanges inquiry := by
  rw [disable, exchanges_emit _ placeless_stopped, exchanges_emit _ (placeless_status _)]
  exact exchanges_disconnect session .now

end

variable [Host]

theorem exchanges_said (session : Session Text) (server : Nat) (message : Json)
    (taken : Except Fault (List UInt8)) :
    (session.said server message taken).exchanges inquiry = session.exchanges inquiry ++
      ((Asking.ofMessage? inquiry server message).map Exchange.asked).toList :=
  view_said (blind_exchange inquiry) session server message taken

theorem mute_said (session : Session Text) (server : Nat) (message : Json)
    (taken : Except Fault (List UInt8)) :
    Mute inquiry session (session.said server message taken) := by
  refine ⟨_, exchanges_said session server message taken, ?_⟩
  intro place member
  cases asking : Asking.ofMessage? inquiry server message with
  | none => simp [asking] at member
  | some asking' => simp [asking] at member

theorem mute_send (session : Session Text) (message : Json) :
    Mute inquiry session (session.send message).2 := by
  have outcome := sending session message
  generalize session.send message = result at outcome ⊢
  cases outcome with
  | idle nobody => exact .same rfl
  | whole rest flushes running framed => exact mute_said session _ message _
  | part rest flushes running isPart =>
      exact (mute_said session _ message _).trans (.same (exchanges_disable _ _))
  | withheld fault running => exact mute_said session _ message _

theorem mute_request (session : Session Text) (method : Text) (params : Json)
    (context : RequestContext Text) :
    Mute inquiry session (session.request method params context).2 := by
  have noted : Mute inquiry session (session.noting context) := .same rfl
  exact noted.trans (mute_send (session.noting context) _)

theorem Speech.mute (speech : Speech before after) : Mute inquiry before after := by
  cases speech with
  | nothing calm => exact .calm calm
  | @telling documents prepared message tells calm =>
      have noted : Mute inquiry before { before with documents } := .same rfl
      exact (noted.trans (.calm calm)).trans (mute_send prepared message)
  | @asking prepared method params context begins =>
      have prepared : Mute inquiry before prepared := by
        cases begins with
        | semanticTokens found => exact .same rfl
        | hover found line col now => exact .same rfl
        | completion found line col now trigger triggerKind => exact .same rfl
      exact prepared.trans (mute_request _ method params context)

theorem exchanges_asked (session : Session Text) (command : Text) :
    (session.reset.record (.asked command)).exchanges inquiry = session.exchanges inquiry := by
  rw [exchanges_record]
  exact List.append_nil _

theorem exchanges_hosting (session : Session Text) (command : Text) (process : ServerProcess) :
    (session.hosting command process).exchanges inquiry = session.exchanges inquiry := by
  have started : Event.place? inquiry .started = none := by
    cases inquiry <;> rfl
  rw [hosting, exchanges_emit _ started]
  exact exchanges_asked session command

theorem exchanges_unserved (session : Session Text) (command : Text) (fault : StartFault) :
    (session.unserved command fault).exchanges inquiry = session.exchanges inquiry := by
  rw [unserved, exchanges_emit _ (placeless_status _), exchanges_asked]

theorem Starting.mute {command : Text} {outcome : Except Fault Bool × Session Text}
    (starting : Starting session command outcome) : Mute inquiry session outcome.2 := by
  cases starting with
  | running running => exact .same rfl
  | failed nobody refused => exact .same (exchanges_unserved session command _)
  | brokenOff nobody broken => exact .same (exchanges_asked session command)
  | @started process params nobody launched =>
      have welcome : Mute inquiry session (session.hosting command process) :=
        .same (exchanges_hosting session command process)
      exact welcome.trans (mute_request _ "initialize" params .handshake)

theorem Goodbye.mute {ending : Session Text} {server : Nat}
    (parting : Goodbye session server ending) : Mute inquiry session ending := by
  have left : Mute inquiry session session.leaving := .same rfl
  cases parting with
  | unsent isPart => exact left.trans (mute_said _ _ _ _)
  | sent framed isPart => exact (left.trans (mute_said _ _ _ _)).trans (mute_said _ _ _ _)

theorem Stopping.mute {outcome : Except Fault Unit × Session Text}
    (stopping : Stopping session outcome) : Mute inquiry session outcome.2 := by
  apply stopping.keeps (motive := Mute inquiry session) (.same rfl)
  · intro _
    exact mute_request session _ _ _
  · intro asking mute
    exact mute.trans (mute_send asking _)
  · intro connection ending running parting
    apply parting.mute.trans
    apply Mute.same
    rw [exchanges_emit _ placeless_stopped]
    exact exchanges_disconnect ending ending.shutdownTimeout

theorem Plain.mute (plain : Plain before after) : Mute inquiry before after := by
  cases plain.effect with
  | speech speech => exact speech.mute
  | surround now launcher settings => exact .same rfl
  | prepareWrites writes flushes => exact .same rfl
  | takeWritesAs writes flushes => exact .same rfl
  | deliver given => exact .same rfl
  | receive running => exact .same rfl
  | start starting => exact starting.mute
  | stop stopping => exact stopping.mute
  | serverExited running => exact .same (exchanges_disable before _)

theorem mute_confirmHandshake (session : Session Text) :
    Mute inquiry session session.confirmHandshake.2 := by
  have noted : Mute inquiry session
      { session with handshake := session.handshake.documentOpened.2 } := .same rfl
  simp only [confirmHandshake]
  split
  · exact noted.trans (mute_send _ _)
  · exact noted

theorem mute_didOpen (session : Session Text) (path text languageId : Text) :
    Mute inquiry session (session.didOpen path text languageId).2 := by
  have told (documents : DocumentStore) (params : Json) :
      Mute inquiry session ({ session with documents }.send
        (Message.notification "textDocument/didOpen" params)).2 := by
    have noted : Mute inquiry session { session with documents } := .same rfl
    exact noted.trans (mute_send _ _)
  have outcome := opening session path text languageId
  generalize session.didOpen path text languageId = result at outcome ⊢
  cases outcome with
  | unsaid silent => exact .same rfl
  | @unsent params documents sent next running opened failed unsent =>
      have taken := told documents params
      rw [failed] at taken
      exact taken
  | @unconfirmed params documents next fault running opened sent withheld =>
      have taken := told documents params
      rw [sent] at taken
      exact taken.trans (mute_confirmHandshake _)
  | @told params documents next running opened sent confirmed =>
      have taken := told documents params
      rw [sent] at taken
      exact (taken.trans (mute_confirmHandshake _)).trans
        (requestSemanticTokens_speech _ path).mute

theorem Deed.mute (deed : Deed before after) : Mute inquiry before after := by
  cases deed with
  | plain plain => exact plain.mute
  | didOpen path text languageId => exact mute_didOpen before path text languageId

/-- Only the taking of what a server has written can show anything. -/
theorem mute_perform (session : Session Text) {action : Action Text}
    (other : action ≠ .processAvailable) : Mute inquiry session (session.perform action) := by
  have mute {first last : Session Text} (deeds : Deeds first last) :
      Mute inquiry first last := by
    induction deeds with
    | refl => exact .same rfl
    | tail _ deed ih => exact ih.trans deed.mute
  exact mute (perform_deeds session other)

end Session

end LanguageClient
