import LanguageClient.Proofs.Session.Attention

/-! # Only what was asked last is answered to the host

A session takes what its server has written message by message. Something is shown only in the
taking of a response, and then about the place that was asked about last. The response to what
was asked last is not dropped for one to something else.
-/

namespace LanguageClient

namespace Session

variable {inquiry : Inquiry} {session before after : Session Text} [Host]

/-! ## Messages one by one -/

/-- Among what its server has written, the session takes a message when it has come so far. -/
def Takes (session before : Session Text) (message : Json) (after : Session Text) : Prop :=
  ∃ connection done rest, session.connection = some connection ∧
    (connection.transport.poll connection.peer.incoming).messages =
      .ok (done ++ message :: rest) ∧
    takeMessages connection.server 0 (session.receive connection) done =
      (.ok done.length, before) ∧
    before.isConnectedTo connection.server = true ∧
    ((before.logMessage .incoming message).takeMessage message).2 = after

/-- The message is the response to the request with this number. -/
def Responds (message : Json) (number : Nat) : Prop :=
  message.get? "method" = none ∧ message.get? "id" = some (.int number)

omit [Host] in
theorem isConnectedTo_iff {server : Nat} :
    session.isConnectedTo server = true ↔ session.talk.server = some server := by
  unfold isConnectedTo talk
  cases session.connection with
  | none => simp
  | some connection => simp

theorem exchanges_send_of_other {message : Json}
    (other : ∀ server, Asking.ofMessage? inquiry server message = none) :
    (session.send message).2.exchanges inquiry = session.exchanges inquiry := by
  have said (server : Nat) (taken : Except Fault (List UInt8)) :
      (session.said server message taken).exchanges inquiry = session.exchanges inquiry := by
    rw [exchanges_said, other]
    exact List.append_nil _
  have outcome := sending session message
  generalize session.send message = result at outcome ⊢
  cases outcome with
  | idle nobody => rfl
  | whole rest flushes running framed => exact said _ _
  | part rest flushes running isPart => exact (exchanges_disable _ _).trans (said _ _)
  | withheld fault running => exact said _ _

/-- A message that is no response shows nothing. -/
theorem responding_of_takeMessage (session : Session Text) (message : Json) :
    (session.takeMessage message).2.exchanges inquiry = session.exchanges inquiry ∨
      (session.takeMessage message).1 = .ok () ∧ message.get? "method" = none ∧
        ∃ id, message.get? "id" = some id ∧
          Responding session id (session.takeMessage message).2 := by
  unfold takeMessage
  split
  · next id isId isMethod =>
    have response := responding session message
    rw [Json.field, isId] at response
    exact .inr ⟨rfl, isMethod, id, isId, response⟩
  · dsimp only
    split
    · exact .inl rfl
    · split
      · have tells (id : Json) (method : Text) : Tells {} {} (Message.refusal id method) :=
          .refusal id method
        exact .inl (exchanges_send_of_other (tells _ _).asksNothing)
      · split
        · next taken => exact .inl ((calm_takeNotice taken).view (blind_exchange inquiry))
        · exact .inl rfl

theorem Responding.shows {id : Json} (responding : Responding before id after) :
    after.exchanges inquiry = before.exchanges inquiry ∨
      ∃ place, after.exchanges inquiry = before.exchanges inquiry ++ [.shown place] := by
  cases responding with
  | unknown => exact .inl rfl
  | calm resolved stale calm => exact .inl (calm.view (blind_exchange inquiry))
  | ready resolved =>
      refine .inl (exchanges_of_placeless rfl ?_)
      cases inquiry <;> rfl
  | hover resolved accepted =>
      cases inquiry with
      | hover => exact .inr ⟨_, exchanges_of_answer rfl rfl⟩
      | completion => exact .inl (exchanges_of_placeless rfl rfl)
  | completion resolved accepted =>
      cases inquiry with
      | hover => exact .inl (exchanges_of_placeless rfl rfl)
      | completion => exact .inr ⟨_, exchanges_of_answer rfl rfl⟩

theorem exchanges_takeMessage (inquiry : Inquiry) (session : Session Text) (message : Json) :
    (session.takeMessage message).2.exchanges inquiry = session.exchanges inquiry ∨
      (session.takeMessage message).1 = .ok () ∧
        ∃ place, (session.takeMessage message).2.exchanges inquiry =
          session.exchanges inquiry ++ [.shown place] := by
  rcases responding_of_takeMessage session message with same | ⟨finite, _, id, _, response⟩
  · exact .inl same
  · exact response.shows.imp_right fun shown => ⟨finite, shown⟩

theorem exchanges_logged (session : Session Text) (message : Json) :
    (session.logMessage .incoming message).exchanges inquiry = session.exchanges inquiry :=
  (calm_logMessage session .incoming message).view (blind_exchange inquiry)

theorem takeMessages_of_taken {server taken : Nat} {message : Json} {rest : List Json}
    (connected : before.isConnectedTo server = true)
    (done : (before.logMessage .incoming message).takeMessage message = (.ok (), after)) :
    takeMessages server taken before (message :: rest) =
      takeMessages server (taken + 1) after rest := by
  rw [takeMessages, if_pos connected]
  simp only [done]

theorem exchanges_takeMessages (inquiry : Inquiry) (server taken : Nat) (session : Session Text)
    (messages : List Json) :
    session.exchanges inquiry <+:
      (takeMessages server taken session messages).2.exchanges inquiry := by
  apply takeMessages_keeps (motive := (session.exchanges inquiry <+: ·.exchanges inquiry))
    List.prefix_rfl
  · intro later message grown
    rw [exchanges_logged]
    exact grown
  · intro later message _ grown
    rcases exchanges_takeMessage inquiry later message with same | ⟨_, place, more⟩
    · rw [same]
      exact grown
    · rw [more]
      exact grown.trans (List.prefix_append _ _)

/-- Whatever is shown while messages are taken is shown in the taking of one of them. -/
theorem taking_of_shown {server taken : Nat} {messages : List Json} {earlier later : List Exchange}
    {place : Place}
    (shown : (takeMessages server taken session messages).2.exchanges inquiry =
      earlier ++ .shown place :: later)
    (isNew : (session.exchanges inquiry).length ≤ earlier.length) :
    ∃ done message rest before after, messages = done ++ message :: rest ∧
      takeMessages server taken session done = (.ok (taken + done.length), before) ∧
      before.isConnectedTo server = true ∧
      ((before.logMessage .incoming message).takeMessage message).2 = after ∧
      before.exchanges inquiry = earlier ∧
      after.exchanges inquiry = earlier ++ [.shown place] := by
  have unchanged : session.exchanges inquiry ≠ earlier ++ .shown place :: later := by
    intro same
    rw [same, List.length_append, List.length_cons] at isNew
    omega
  induction messages generalizing taken session with
  | nil => exact absurd shown unchanged
  | cons message rest ih =>
      cases connected : session.isConnectedTo server with
      | false =>
          unfold takeMessages at shown
          simp only [connected, Bool.false_eq_true, if_false] at shown
          exact absurd shown unchanged
      | true =>
          have grown := exchanges_takeMessage inquiry (session.logMessage .incoming message) message
          rw [exchanges_logged] at grown
          obtain ⟨⟨outcome, next⟩, done⟩ :
            ∃ result, (session.logMessage .incoming message).takeMessage message = result :=
            ⟨_, rfl⟩
          rw [done] at grown
          cases outcome with
          | error fault =>
              unfold takeMessages at shown
              simp only [connected, if_true, done] at shown
              rcases grown with same | ⟨finite, _⟩
              · exact absurd (same.symm.trans shown) unchanged
              · exact absurd finite nofun
          | ok _ =>
              rw [takeMessages_of_taken connected done] at shown
              by_cases still : (next.exchanges inquiry).length ≤ earlier.length
              · -- It is shown behind this message.
                have unchanged : next.exchanges inquiry ≠ earlier ++ .shown place :: later := by
                  intro same
                  rw [same, List.length_append, List.length_cons] at still
                  omega
                obtain ⟨first, other, behind, before, after, rfl, reached, more⟩ :=
                  ih shown still unchanged
                refine ⟨message :: first, other, behind, before, after, rfl, ?_, more⟩
                rw [takeMessages_of_taken connected done, reached, List.length_cons,
                  Nat.add_right_comm, Nat.add_assoc]
              · have prefixed := exchanges_takeMessages inquiry server (taken + 1)
                  next rest
                rw [shown] at prefixed
                rcases grown with same | ⟨_, other, more⟩
                · rw [same] at still
                  exact absurd isNew still
                · rw [more] at prefixed still
                  obtain ⟨behind, same⟩ := prefixed
                  rw [List.append_assoc] at same
                  rw [List.length_append, List.length_singleton] at still
                  obtain ⟨rfl, tail⟩ := List.append_inj same (by omega)
                  obtain ⟨isPlace, _⟩ := List.cons_eq_cons.mp tail
                  rw [isPlace] at more
                  exact ⟨[], message, rest, session, next, rfl, rfl, connected,
                    congrArg Prod.snd done, rfl, more⟩

theorem Mute.not_shown {earlier later : List Exchange} {place : Place}
    (mute : Mute inquiry before after)
    (shown : after.exchanges inquiry = earlier ++ .shown place :: later) :
    ¬(before.exchanges inquiry).length ≤ earlier.length := by
  intro isNew
  obtain ⟨more, grown, silent⟩ := mute
  rw [grown] at shown
  rcases List.append_eq_append_iff.mp shown with ⟨between, _, rest⟩ | ⟨between, isBefore, rest⟩
  · rw [rest] at silent
    exact silent place (List.mem_append_right _ List.mem_cons_self)
  · rw [isBefore, List.length_append] at isNew
    obtain rfl : between = [] := List.length_eq_zero_iff.mp (by omega)
    rw [List.nil_append] at rest
    rw [← rest] at silent
    exact silent place List.mem_cons_self

/-- What a call shows, it shows in the taking of a message. -/
theorem takes_of_shown {action : Action Text} {earlier later : List Exchange} {place : Place}
    (shown : (session.perform action).exchanges inquiry = earlier ++ .shown place :: later)
    (isNew : (session.exchanges inquiry).length ≤ earlier.length) :
    action = .processAvailable ∧ ∃ before message after, session.Takes before message after ∧
      before.exchanges inquiry = earlier ∧
      after.exchanges inquiry = earlier ++ [.shown place] := by
  by_cases isTaking : action = .processAvailable
  · subst isTaking
    refine ⟨rfl, ?_⟩
    have quiet {after : Session Text} (same : after.exchanges inquiry = session.exchanges inquiry)
        (told : after.exchanges inquiry = earlier ++ .shown place :: later) : False :=
      (Mute.same same).not_shown told isNew
    rw [perform] at shown
    cases running : session.connection with
    | none =>
        unfold processAvailable at shown
        rw [running] at shown
        exact (quiet rfl shown).elim
    | some connection =>
        rw [processAvailable_of_connection running] at shown
        cases polled : (connection.transport.poll connection.peer.incoming).messages with
        | error fault =>
            rw [polled] at shown
            exact (quiet rfl shown).elim
        | ok messages =>
            simp only [polled] at shown
            have told : (takeMessages connection.server 0 (session.receive connection)
                messages).2.exchanges inquiry = earlier ++ .shown place :: later := by
              rw [← shown]
              split
              · next faulted => rw [faulted]
              · next done =>
                rw [done]
                split
                · exact (exchanges_disable _ _).symm
                · rfl
            obtain ⟨done, message, rest, before, after, rfl, reached, connected, taken, isEarlier,
              more⟩ := taking_of_shown told isNew
            rw [Nat.zero_add] at reached
            exact ⟨before, message, after,
              ⟨connection, done, rest, running, polled, reached, connected, taken⟩, isEarlier, more⟩
  · exact absurd isNew ((mute_perform session isTaking).not_shown shown)

/-! ## What is shown, and what is dropped -/

/-- What is shown of a place when a message is taken is rightly shown: the place was asked
    about last, nothing has been shown since, and the message is the response to a request
    about that place to the server that runs. -/
def AnswersLatest (inquiry : Inquiry) (before : Session Text) (message : Json) (place : Place) :
    Prop :=
  ∃ latest number, Latest (before.exchanges inquiry) latest [] ∧ latest.place = place ∧
    before.isConnectedTo latest.server = true ∧ Responds message number ∧
    .asked ⟨latest.server, number, place⟩ ∈ before.exchanges inquiry

omit [Host] in
theorem number_of_response {message id : Json} {number : Nat}
    (isMethod : message.get? "method" = none)
    (isId : message.get? "id" = some id) (isNumber : PendingRequests.numberOf? id = some number) :
    Responds message number := by
  unfold PendingRequests.numberOf? at isNumber
  split at isNumber
  · obtain rfl := Option.some.inj isNumber
    exact ⟨isMethod, isId⟩
  · exact absurd isNumber nofun

theorem Takes.attends {message : Json} (takes : session.Takes before message after)
    (reachable : Reachable session) : before.Attends inquiry := by
  obtain ⟨connection, done, rest, running, polled, reached, connected, taken⟩ := takes
  have heard : Hearings (session.receive connection) before := by
    have taken := takeMessages_hearings connection.server 0 (session.receive connection) done
    rw [reached] at taken
    exact taken
  have received : Move session (session.receive connection) := .plain (.receive running)
  have moves : Moves session before := .head received (moves_of_turns (turns_of_hearings heard))
  exact moves.attends reachable.inStep reachable.attends

/-- Of an inquiry the host is shown only what answers a request about the place that was asked
    about last, on the server that runs. The response to the latest request itself is shown,
    unless another answer about the same place was shown since it was asked, or the hover was
    given up. -/
theorem answers_latest (inquiry : Inquiry) {session : Session Text}
    (reachable : Reachable session) :
    (∀ action earlier place later,
      (session.perform action).exchanges inquiry = earlier ++ .shown place :: later →
      (session.exchanges inquiry).length ≤ earlier.length →
      action = .processAvailable ∧ ∃ before message after, session.Takes before message after ∧
        before.exchanges inquiry = earlier ∧
        after.exchanges inquiry = earlier ++ [.shown place] ∧
        AnswersLatest inquiry before message place) ∧
    (∀ before message after latest since, session.Takes before message after →
      Latest (before.exchanges inquiry) latest since →
      before.isConnectedTo latest.server = true → Responds message latest.number →
      after.exchanges inquiry = before.exchanges inquiry ++ [.shown latest.place] ∨
        since = [.shown latest.place] ∨
        inquiry = .hover ∧ since = [] ∧ before.inFlight inquiry = none) := by
  -- A message is taken once it has been noted in the log, which shows nothing.
  have noted (before : Session Text) (message : Json) (attends : before.Attends inquiry) :
      (before.logMessage .incoming message).Attends inquiry ∧
        (before.logMessage .incoming message).talk = before.talk := by
    have calm := calm_logMessage before .incoming message
    exact ⟨attends.calm calm, calm.quiet.talk⟩
  refine ⟨?_, ?_⟩
  · intro action earlier place later shown isNew
    obtain ⟨isTaking, before, message, after, takes, isEarlier, more⟩ := takes_of_shown shown isNew
    refine ⟨isTaking, before, message, after, takes, isEarlier, more, ?_⟩
    obtain ⟨logged, talk⟩ := noted before message (takes.attends reachable)
    obtain ⟨_, _, _, _, _, _, _, taken⟩ := takes
    have changed : after.exchanges inquiry ≠ before.exchanges inquiry := by
      rw [more, isEarlier]
      simp
    rcases responding_of_takeMessage (before.logMessage .incoming message) message with
      same | ⟨_, isMethod, id, isId, response⟩
    · rw [taken, exchanges_logged] at same
      exact absurd same changed
    · rw [taken] at response
      rcases (response.attends logged).2 with same | delivers
      · rw [exchanges_logged] at same
        exact absurd same changed
      · obtain ⟨latest, number, isLatest, current, isNumber, asked, answered⟩ := delivers
        rw [exchanges_logged] at isLatest asked answered
        rw [talk] at current
        have isPlace : latest.place = place := by
          rw [more, isEarlier] at answered
          exact (Exchange.shown.inj (List.singleton_inj.mp
            (List.append_cancel_left answered))).symm
        rw [isPlace] at asked
        exact ⟨latest, number, isLatest, isPlace, isConnectedTo_iff.mpr current,
          number_of_response isMethod isId isNumber, asked⟩
  · intro before message after latest since takes isLatest connected responds
    obtain ⟨logged, talk⟩ := noted before message (takes.attends reachable)
    obtain ⟨_, _, _, _, _, _, _, taken⟩ := takes
    obtain ⟨isMethod, isId⟩ := responds
    have response : Responding (before.logMessage .incoming message) (.int latest.number)
        after := by
      unfold takeMessage at taken
      rw [isId, isMethod] at taken
      subst taken
      have response := responding (before.logMessage .incoming message) message
      rw [Json.field, isId] at response
      exact response
    have current := isConnectedTo_iff.mp connected
    have outcome := response.answers logged (exchanges_logged before message ▸ isLatest)
      (talk ▸ current) rfl
    rw [exchanges_logged] at outcome
    rcases outcome with shown | already | ⟨hover, nothing, silent⟩
    · exact .inl shown
    · exact .inr (.inl already)
    · rw [inFlight_logMessage] at silent
      exact .inr (.inr ⟨hover, nothing, silent⟩)

end Session

end LanguageClient

open scoped LanguageClient.Host.Bare

namespace LanguageClient.Session

/-- A hover is asked for twice at one place, and the responses arrive. -/
def askedTwice : Session Text :=
  ((({ processId := 1, folder := "/home" : Session Text }.perform
    (.start "server" "proj")).perform (.didOpen "a.py" "x" "python")).perform
    (.requestHover "a.py" 0 0)).perform (.requestHover "a.py" 0 0)

def respondedTo (session : Session Text) (number : Nat) : Session Text :=
  session.perform (.arrive (Transport.frameOf (.obj [("id", .int number), ("result", .null)])))

theorem answers_latest_askedTwice :
    ∃ before message after, (askedTwice.respondedTo 3).Takes before message after ∧
      AnswersLatest .hover before message ⟨"file://a.py", 0, 0⟩ := by
  have reachable : Reachable (askedTwice.respondedTo 3) :=
    (((((Reachable.fresh 1 "/home").perform _).perform _).perform _).perform _).perform _
  have state : ((askedTwice.respondedTo 3).perform .processAvailable).exchanges .hover =
        [.asked ⟨0, 3, ⟨"file://a.py", 0, 0⟩⟩, .asked ⟨0, 4, ⟨"file://a.py", 0, 0⟩⟩,
          .shown ⟨"file://a.py", 0, 0⟩] ∧
      ((askedTwice.respondedTo 3).exchanges .hover).length = 2 := by
    decide +kernel
  obtain ⟨_, before, message, after, takes, _, _, answers⟩ :=
    (answers_latest .hover reachable).1 .processAvailable
      [.asked ⟨0, 3, ⟨"file://a.py", 0, 0⟩⟩, .asked ⟨0, 4, ⟨"file://a.py", 0, 0⟩⟩]
      ⟨"file://a.py", 0, 0⟩ [] state.1 (le_of_eq state.2)
  exact ⟨before, message, after, takes, answers⟩

/-- Of two requests about one place the response to the first is shown, and then the response
    to the latest is dropped. -/
theorem shown_for_earlier :
    askedTwice.exchanges .hover =
        [.asked ⟨0, 3, ⟨"file://a.py", 0, 0⟩⟩, .asked ⟨0, 4, ⟨"file://a.py", 0, 0⟩⟩] ∧
      ((askedTwice.respondedTo 3).perform .processAvailable).exchanges .hover =
        [.asked ⟨0, 3, ⟨"file://a.py", 0, 0⟩⟩, .asked ⟨0, 4, ⟨"file://a.py", 0, 0⟩⟩,
          .shown ⟨"file://a.py", 0, 0⟩] ∧
      ((((askedTwice.respondedTo 3).perform .processAvailable).respondedTo 4).perform
          .processAvailable).exchanges .hover =
        [.asked ⟨0, 3, ⟨"file://a.py", 0, 0⟩⟩, .asked ⟨0, 4, ⟨"file://a.py", 0, 0⟩⟩,
          .shown ⟨"file://a.py", 0, 0⟩] := by
  decide +kernel

end LanguageClient.Session
