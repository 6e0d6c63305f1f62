import LanguageClient.Proofs.Session.Run
import LanguageClient.Proofs.Session.Sending

/-! # Reading the journal

A property of a run is stated on what can be read off its journal, in the order in which it
happened. Most of what a session does is calm: it asks nothing, answers nothing and lets no
server come or go, and what it adds to the journal are events that tell of other things.
-/

namespace LanguageClient

variable {π α : Type}

/-- The event says neither that a server came, went or answered the handshake, nor what it
    answered to a request for a place. -/
def Event.isCalm : Event π → Bool
  | .started => false
  | .stopped => false
  | .ready => false
  | .hover .. => false
  | .completion .. => false
  | _ => true

def JournalEntry.isCalm : JournalEntry π → Bool
  | .event told => told.isCalm
  | _ => false

/-- A reading that passes over calm entries. -/
def Blind (read? : JournalEntry π → Option α) : Prop :=
  ∀ entry : JournalEntry π, entry.isCalm = true → read? entry = none

namespace Session

/-- What can be read off the journal, in the order in which it happened. -/
def view (read? : JournalEntry π → Option α) (session : Session π) : List α :=
  session.journal.reverse.filterMap read?

theorem view_record (read? : JournalEntry π → Option α) (session : Session π)
    (entry : JournalEntry π) :
    (session.record entry).view read? = session.view read? ++ (read? entry).toList := by
  rw [view, record, List.reverse_cons, List.filterMap_append]
  cases read : read? entry with
  | none => simp [view, read]
  | some value => simp [view, read]

theorem view_append {read? : JournalEntry π → Option α} (blind : Blind read?)
    {before after : Session π} {entries : List (JournalEntry π)}
    (journal : after.journal = entries ++ before.journal)
    (calm : ∀ entry ∈ entries, entry.isCalm = true) : after.view read? = before.view read? := by
  have nothing : entries.reverse.filterMap read? = [] := by
    apply List.filterMap_eq_nil_iff.mpr
    intro entry member
    exact blind entry (calm entry (List.mem_reverse.mp member))
  rw [view, journal, List.reverse_append, List.filterMap_append, nothing, List.append_nil, view]

/-! ## What is calm -/

/-- Nothing is asked, nothing answered, and no server comes or goes; at most a hover that was
    asked for is given up. -/
structure Calm (before after : Session π) : Prop where
  now : after.now = before.now
  launcher : after.launcher = before.launcher
  connection : after.connection = before.connection
  nextPeer : after.nextPeer = before.nextPeer
  servers : after.servers = before.servers
  requests : after.requests = before.requests
  confirmed : after.handshake.confirmed = before.handshake.confirmed
  documents : after.documents = before.documents
  hover : after.hover.inFlight = before.hover.inFlight ∨ after.hover.inFlight = none
  completion : after.completion = before.completion
  journal : ∃ entries, after.journal = entries ++ before.journal ∧
    ∀ entry ∈ entries, entry.isCalm = true

variable {before after : Session π}

theorem Calm.refl (session : Session π) : Calm session session :=
  ⟨rfl, rfl, rfl, rfl, rfl, rfl, rfl, rfl, .inl rfl, rfl, [], rfl, nofun⟩

theorem Calm.emit (calm : Calm before after) {event : Event π} (isCalm : event.isCalm = true) :
    Calm before (after.emit event) := by
  obtain ⟨entries, journal, all⟩ := calm.journal
  refine { calm with journal := ⟨.event event :: entries, congrArg _ journal, ?_⟩ }
  intro entry member
  cases List.mem_cons.mp member with
  | inl last =>
      rw [last]
      exact isCalm
  | inr earlier => exact all entry earlier

theorem Calm.view (calm : Calm before after) {read? : JournalEntry π → Option α}
    (blind : Blind read?) : after.view read? = before.view read? := by
  obtain ⟨entries, journal, all⟩ := calm.journal
  exact view_append blind journal all

theorem calm_logMessage [Host] (session : Session π) (direction : Direction) (message : Json) :
    Calm session (session.logMessage direction message) := by
  unfold logMessage
  split
  · exact (Calm.refl session).emit rfl
  · exact .refl session

/-- Of a message that is handed to a server nothing shows but the handing. -/
theorem view_said [Host] {read? : JournalEntry π → Option α} (blind : Blind read?)
    (session : Session π) (server : Nat) (message : Json)
    (taken : Except Fault (List UInt8)) :
    (session.said server message taken).view read? =
      session.view read? ++ (read? (.wrote server message taken)).toList := by
  rw [said, view_record, (calm_logMessage session .outgoing message).view blind]

theorem calm_refresh (session : Session π) (refresh : TokenRefresh π) :
    Calm session { session with refresh } :=
  ⟨rfl, rfl, rfl, rfl, rfl, rfl, rfl, rfl, .inl rfl, rfl, [], rfl, nofun⟩

theorem calm_hover (session : Session π) {hover : HoverSchedule π (HoverTarget π)}
    (flight : hover.inFlight = session.hover.inFlight ∨ hover.inFlight = none) :
    Calm session { session with hover } :=
  ⟨rfl, rfl, rfl, rfl, rfl, rfl, rfl, rfl, flight, rfl, [], rfl, nofun⟩

theorem calm_clearHover (session : Session π) : Calm session session.clearHover := by
  have cleared : Calm session { session with hover := session.hover.clear.2 } :=
    calm_hover session (.inr rfl)
  simp only [clearHover]
  split
  · exact cleared.emit rfl
  · exact cleared

theorem calm_expireHover {session next : Session π} {now : Moment}
    (expired : session.expireHover now = .ok next) : Calm session next := by
  rcases expireHover_eq_ok expired with rfl | rfl
  · exact .refl next
  · exact ((calm_hover session (.inr rfl)).emit rfl).emit rfl

theorem calm_dueHover {session : Session π} {now : Moment} {target : HoverTarget π}
    {hover : HoverSchedule π (HoverTarget π)}
    (due : session.hover.due now = .ok (some target, hover)) :
    Calm session { session with hover } := by
  obtain ⟨_, rfl⟩ := HoverSchedule.due_eq_ok due
  exact calm_hover session (.inl rfl)

theorem calm_takeNotice [Host] {session next : Session π} {message : Json}
    (taken : session.takeNotice message = .ok next) : Calm session next := by
  unfold takeNotice at taken
  split at taken
  · obtain rfl := Except.ok.inj taken
    exact (Calm.refl session).emit rfl
  · obtain rfl := Except.ok.inj taken
    exact .refl session
  · simp at taken

variable [BEq π]

theorem calm_scheduleHover (session : Session π) (target : HoverTarget π) :
    Calm session (session.scheduleHover target).2 := by
  have pointed (hover : HoverSchedule π (HoverTarget π)) :
      (hover.pointAt target).2.inFlight = hover.inFlight ∨
        (hover.pointAt target).2.inFlight = none := by
    unfold HoverSchedule.pointAt
    cases hover.isOn target with
    | true => exact .inl rfl
    | false => exact .inr rfl
  have moved : Calm session { session with
      hover := (session.hover.setTarget target session.now.milliseconds).2 } := by
    apply calm_hover session
    unfold HoverSchedule.setTarget
    cases session.now.milliseconds with
    | ok now => exact pointed session.hover
    | error fault => exact pointed session.hover
  simp only [scheduleHover]
  split
  · exact moved.emit rfl
  · exact moved
  · exact moved

variable [DocumentName π]

theorem calm_clearHoverOn (session : Session π) (name : π) :
    Calm session (session.clearHoverOn name) := by
  unfold clearHoverOn
  split
  · exact .refl session
  · split
    · exact calm_clearHover session
    · exact .refl session

theorem calm_noteChange {session next : Session π} {name : π}
    (noted : session.noteChange name = .ok next) : Calm session next := by
  obtain ⟨refresh, rfl⟩ := noteChange_eq_ok noted
  exact calm_refresh session refresh

end Session

end LanguageClient
