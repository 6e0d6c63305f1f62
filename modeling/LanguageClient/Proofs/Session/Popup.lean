import LanguageClient.Proofs.Session.Beats

/-! # The popup of a host

A host that shows hover text when it is told of some, and takes it off when it is told that there
is none, that the hover is cleared or that the server has stopped, shows text exactly when the
session takes it to be shown. Of a conversation that ends the host is told nothing but the end.
-/

namespace LanguageClient

/-- Whether text is shown behind events, for a host that goes by each of them. -/
def popupBehind (shown : Bool) (events : List (Event Text)) : Bool :=
  events.foldl (fun shown event => event.popup?.getD shown) shown

/-- The event takes hover text off: there is none, or it is cleared, or the server has stopped. -/
def Event.Dismisses (event : Event Text) : Prop :=
  (∃ path line col, event = .hover path line col none) ∨ event = .hoverCleared ∨ event = .stopped

theorem Event.dismisses_of_popup? {event : Event Text} (hides : event.popup? = some false) :
    event.Dismisses := by
  cases event with
  | hover path line col text =>
      cases text with
      | none => exact .inl ⟨path, line, col, rfl⟩
      | some text => exact absurd hides nofun
  | hoverCleared => exact .inr (.inl rfl)
  | stopped => exact .inr (.inr rfl)
  | _ => exact absurd hides nofun

/-- Text that was shown and is shown no more was taken off by one of the events. -/
theorem exists_dismisses {events : List (Event Text)} (gone : popupBehind true events = false) :
    ∃ event ∈ events, event.Dismisses := by
  induction events with
  | nil => exact absurd gone nofun
  | cons event rest ih =>
      cases becomes : event.popup? with
      | none =>
          rw [popupBehind, List.foldl_cons, becomes] at gone
          obtain ⟨later, member, dismisses⟩ := ih gone
          exact ⟨later, List.mem_cons_of_mem event member, dismisses⟩
      | some shown =>
          cases shown with
          | false => exact ⟨event, List.mem_cons_self, Event.dismisses_of_popup? becomes⟩
          | true =>
              rw [popupBehind, List.foldl_cons, becomes] at gone
              obtain ⟨later, member, dismisses⟩ := ih gone
              exact ⟨later, List.mem_cons_of_mem event member, dismisses⟩

def JournalEntry.event? : JournalEntry Text → Option (Event Text)
  | .event told => some told
  | _ => none

def Signal.event? : Signal → Option (Event Text)
  | .told event => some event
  | .begun .. => none

namespace Session

variable {subject : Option Text} {before middle after session : Session Text} [Host]

/-- What the host was told, in order. -/
def events (session : Session Text) : List (Event Text) :=
  session.view JournalEntry.event?

omit [Host] in
theorem events_eq (subject : Option Text) (session : Session Text) :
    session.events = (session.account subject).filterMap Signal.event? := by
  rw [events, account, view, view, List.filterMap_filterMap]
  congr 1
  funext entry
  cases entry with
  | wrote server message taken =>
      show none = (Signal.ofMessage? subject server message).bind Signal.event?
      unfold Signal.ofMessage?
      cases Asking.ofMessage? .hover server message with
      | some asking => rfl
      | none =>
          cases Asking.ofMessage? .completion server message with
          | some asking => rfl
          | none => rfl
  | _ => rfl

omit [Host] in
theorem events_of_account {more : List Signal}
    (account : after.account subject = before.account subject ++ more) :
    after.events = before.events ++ more.filterMap Signal.event? := by
  rw [events_eq subject, events_eq subject, account, List.filterMap_append]

/-- The host is told what takes the text that is shown before to what is shown after. -/
def Shows (before after : Session Text) : Prop :=
  ∃ told, after.events = before.events ++ told ∧
    after.hover.displayed = popupBehind before.hover.displayed told

omit [Host] in
theorem Shows.refl (session : Session Text) : Shows session session :=
  ⟨[], (List.append_nil _).symm, rfl⟩

omit [Host] in
theorem Shows.trans (first : Shows before middle) (second : Shows middle after) :
    Shows before after := by
  obtain ⟨told, grown, shown⟩ := first
  obtain ⟨more, grownMore, shownMore⟩ := second
  refine ⟨told ++ more, ?_, ?_⟩
  · rw [grownMore, grown, List.append_assoc]
  · rw [shownMore, shown, popupBehind, popupBehind, popupBehind, List.foldl_append]

theorem Beat.shows (beat : Beat subject before after) : Shows before after := by
  cases beat with
  | even even =>
      refine ⟨[], ?_, even.displayed⟩
      rw [events_eq subject, even.account, ← events_eq, List.append_nil]
  | begun account place inFlight others displayed =>
      exact ⟨[], events_of_account account, displayed⟩
  | @told event account answers inFlight displayed =>
      exact ⟨[event], events_of_account account, displayed⟩

theorem shows_of_beats (beats : Beats subject before after) : Shows before after := by
  induction beats with
  | refl => exact .refl before
  | tail _ beat ih => exact ih.trans beat.shows

/-- A run in which the pointer is moved only while the clock can be read. Else the text is taken
    off and the call faults before it tells the host. -/
inductive Timely : Session Text → Prop where
  | fresh (processId : Int) (folder : Text) : Timely { processId, folder }
  | perform {session : Session Text} (before : Timely session) {action : Action Text}
      (isTimely : session.IsTimely action) : Timely (session.perform action)

theorem Timely.reachable (timely : Timely session) : Reachable session := by
  induction timely with
  | fresh processId folder => exact .fresh processId folder
  | @perform session before action _ reached => exact reached.perform action

theorem Timely.shows (timely : Timely session) {action : Action Text}
    (isTimely : session.IsTimely action) : Shows session (session.perform action) :=
  shows_of_beats (beats_perform timely.reachable.inStep timely.reachable.settled isTimely)

/-- A host that goes by the events shows hover text exactly when the session takes it to be
    shown. A call behind which it is not shown any more has told the host that there is none, that
    the hover is cleared, or that the server has stopped. -/
theorem popup_eq_displayed (timely : Timely session) :
    popupBehind false session.events = session.hover.displayed ∧
      ∀ action, session.IsTimely action → session.hover.displayed = true →
        (session.perform action).hover.displayed = false →
        ∃ told, (session.perform action).events = session.events ++ told ∧
          ∃ event ∈ told, event.Dismisses := by
  constructor
  · induction timely with
    | fresh processId folder => rfl
    | perform before isTimely shown =>
        obtain ⟨told, grown, displayed⟩ := before.shows isTimely
        rw [grown, displayed, ← shown, popupBehind, List.foldl_append]
        rfl
  · intro action isTimely shown gone
    obtain ⟨told, grown, displayed⟩ := timely.shows isTimely
    rw [gone, shown] at displayed
    exact ⟨told, grown, exists_dismisses displayed.symm⟩

end Session

end LanguageClient

open scoped LanguageClient.Host.Bare

namespace LanguageClient.Session

/-- A hover that was answered with text. -/
def poppedUp : Session Text :=
  ((((({ processId := 1, folder := "/home" : Session Text }.perform
    (.scheduleHover ⟨"a.py", 0, 0, 0, 0⟩)).perform (.start "server" "proj")).perform
    (.didOpen "a.py" "x" "python")).perform (.requestHover "a.py" 0 0)).perform
    (.arrive (Transport.frameOf (.obj [("id", .int 3),
      ("result", .obj [("contents", .str "text")])])))).perform .processAvailable

theorem timely_poppedUp : Timely poppedUp :=
  ((((((Timely.fresh 1 "/home").perform (by exact ⟨0, rfl⟩)).perform (by trivial)).perform
    (by trivial)).perform (by trivial)).perform (by trivial)).perform (by trivial)

theorem popup_poppedUp :
    poppedUp.hover.displayed = true ∧ popupBehind false poppedUp.events = true ∧
      (poppedUp.perform .clearHover).hover.displayed = false ∧
      ∃ told, (poppedUp.perform .clearHover).events = poppedUp.events ++ told ∧
        ∃ event ∈ told, event.Dismisses := by
  have state : poppedUp.hover.displayed = true ∧
      (poppedUp.perform .clearHover).hover.displayed = false := by
    decide +kernel
  obtain ⟨shown, gone⟩ := state
  obtain ⟨popup, dismissed⟩ := popup_eq_displayed timely_poppedUp
  exact ⟨shown, popup.trans shown, gone, dismissed .clearHover trivial shown gone⟩

/-- When the host stops the server, or the server goes by itself, the text is not shown any more,
    and the host is told nothing of it but that the server has stopped. -/
theorem stopped_poppedUp :
    poppedUp.hover.displayed = true ∧
      (poppedUp.perform .stop).hover.displayed = false ∧
      (poppedUp.perform .stop).events = poppedUp.events ++ [.stopped] ∧
      ((poppedUp.perform .hangUp).perform .processAvailable).hover.displayed = false ∧
      ((poppedUp.perform .hangUp).perform .processAvailable).events =
        poppedUp.events ++ [.status "LSP disabled: language server exited", .stopped] := by
  decide +kernel

end LanguageClient.Session
