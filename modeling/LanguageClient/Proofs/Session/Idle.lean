import LanguageClient.Proofs.Session.Openness

/-! # Sessions without a server

A session that runs no server has forgotten the conversation with the last one. A conversation
can end in the middle of a call, at any message that is not taken; all is forgotten there, and
what the call still does finds nothing to act on and puts nothing back.
-/

namespace LanguageClient

namespace HoverSchedule

variable {π τ : Type} {hover next : HoverSchedule π τ}

/-- Nothing was asked for that could be answered, and nothing is shown. -/
structure IsStill (hover : HoverSchedule π τ) : Prop where
  inFlight : hover.inFlight = none
  displayed : hover.displayed = false

theorem isStill_clear (hover : HoverSchedule π τ) : hover.clear.2.IsStill :=
  ⟨rfl, rfl⟩

theorem IsStill.pointAt [BEq τ] (still : hover.IsStill) (target : τ) :
    (hover.pointAt target).2.IsStill := by
  unfold HoverSchedule.pointAt
  cases hover.isOn target with
  | true => exact ⟨still.inFlight, still.displayed⟩
  | false => exact ⟨rfl, rfl⟩

theorem IsStill.setTarget [BEq τ] (still : hover.IsStill) (target : τ)
    (now : Except Fault Int) : (hover.setTarget target now).2.IsStill := by
  have pointed := still.pointAt target
  cases now with
  | ok now => exact ⟨pointed.inFlight, pointed.displayed⟩
  | error fault => exact pointed

theorem IsStill.expired (still : hover.IsStill) (now : Moment) :
    hover.expired now = .ok (false, hover) := by
  unfold HoverSchedule.expired
  rw [still.inFlight]

end HoverSchedule

namespace Session

variable {π : Type} {session before after : Session π}

/-- Nothing is left of any conversation: no request waits and numbers begin anew, no document is
    open or remembered, none waits for new tokens, no answer about a place is waited for or
    shown, and nothing is known of a server. -/
structure Blank (session : Session π) : Prop where
  requests : session.requests = { next := 1, waiting := [] }
  handshake : session.handshake = {}
  documents : session.documents = { documents := [], names := [] }
  marks : session.refresh.marks = []
  hover : session.hover.IsStill
  completion : session.completion.inFlight = none

def Settled (session : Session π) : Prop :=
  session.isRunning = false → session.Blank

theorem blank_reset (session : Session π) : session.reset.Blank :=
  ⟨rfl, rfl, rfl, rfl, HoverSchedule.isStill_clear _, rfl⟩

theorem Blank.emit (blank : session.Blank) (event : Event π) : (session.emit event).Blank :=
  { blank with }

theorem blank_disable (session : Session π) (reason : Text) : (session.disable reason).Blank :=
  ((blank_reset _).emit _).emit _

theorem settled_of_running (running : session.isRunning = true) : session.Settled :=
  fun idle => absurd running (Bool.eq_false_iff.mp idle)

theorem settled_of_blank (blank : session.Blank) : session.Settled :=
  fun _ => blank

theorem Settled.keep (settled : before.Settled) (running : after.isRunning = before.isRunning)
    (blank : before.Blank → after.Blank) : after.Settled :=
  fun idle => blank (settled (running ▸ idle))

theorem Settled.quiet (settled : before.Settled) (quiet : Quiet before after)
    (blank : before.Blank → after.Blank) : after.Settled :=
  settled.keep quiet.isRunning blank

theorem isRunning_of_calm (calm : Calm before after) (running : before.isRunning = true) :
    after.isRunning = true :=
  calm.quiet.isRunning.trans running

variable [Host]

/-! ## Sending -/

/-- A server that ran is still there or was given up. -/
theorem Settled.send (settled : session.Settled) (message : Json) :
    (session.send message).2.Settled := by
  have outcome := sending session message
  generalize session.send message = result at outcome ⊢
  cases outcome with
  | idle nobody => exact settled
  | whole rest flushes connected framed => exact settled_of_running rfl
  | part rest flushes connected isPart => exact settled_of_blank (blank_disable _ _)
  | withheld fault connected => exact settled_of_running rfl

theorem settled_send (running : session.isRunning = true) (message : Json) :
    (session.send message).2.Settled :=
  (settled_of_running running).send message

theorem settled_request (running : session.isRunning = true) (method : Text) (params : Json)
    (context : RequestContext π) : (session.request method params context).2.Settled := by
  rw [request_snd]
  exact @settled_send π (session.noting context) _ running _

theorem settled_start (settled : session.Settled) (command root : Text) :
    (session.start command root).2.Settled := by
  have outcome := starting session command root
  generalize session.start command root = result at outcome ⊢
  cases outcome with
  | running running => exact settled
  | failed nobody refused => exact settled_of_blank { blank_reset session with }
  | brokenOff nobody broken => exact settled_of_blank { blank_reset session with }
  | @started process params nobody launched =>
      have hosting : (session.hosting command process).isRunning = true := rfl
      dsimp only
      rw [greeting]
      exact settled_request hosting _ _ _

theorem Settled.stop (settled : session.Settled) : session.stop.2.Settled := by
  apply (stopping session).keeps settled
  · intro running
    exact settled_request running _ _ _
  · intro asking settled
    exact settled.send _
  · intro connection ending running parting
    exact settled_of_blank ((blank_reset _).emit _)

theorem settled_confirmHandshake (running : session.isRunning = true) :
    session.confirmHandshake.2.Settled := by
  simp only [confirmHandshake]
  split
  · exact @settled_send π { session with handshake := session.handshake.documentOpened.2 } _
      running _
  · exact settled_of_running running

theorem Settled.logMessage (settled : session.Settled) (direction : Direction)
    (message : Json) : (session.logMessage direction message).Settled := by
  unfold Session.logMessage
  split
  · exact settled.keep rfl fun blank => blank.emit _
  · exact settled

/-- Only a server that is still there has taken a message. -/
theorem isRunning_of_sent {message : Json} {next : Session π}
    (sent : session.send message = (.ok true, next)) : next.isRunning = true := by
  have outcome := sending session message
  rw [sent] at outcome
  cases outcome with
  | whole rest flushes running framed => rfl

/-! ## Calls about documents and places -/

section Naming

variable [BEq π] [DocumentName π]

/-- A call that says something leaves a session that runs a server settled, however that comes
    out. Without a server it has nothing to say. -/
theorem Speech.settled (speech : Speech before after) (settled : before.Settled)
    (unchanged : before.isRunning = false → after = before) : after.Settled := by
  cases running : before.isRunning with
  | false =>
      rw [unchanged running]
      exact settled
  | true =>
      cases speech with
      | nothing calm => exact settled_of_running (isRunning_of_calm calm running)
      | telling tells calm => exact settled_send (isRunning_of_calm calm running) _
      | asking begins => exact settled_request (begins.quiet.isRunning.trans running) _ _ _

theorem document?_of_idle (idle : session.isRunning = false) (name : π) :
    session.document? name = none := by
  rw [document?, idle]
  rfl

theorem Settled.requestSemanticTokens (settled : session.Settled) (name : π) :
    (session.requestSemanticTokens name).2.Settled := by
  apply (requestSemanticTokens_speech session name).settled settled
  intro idle
  rw [Session.requestSemanticTokens, document?_of_idle idle]

theorem Settled.requestHover (settled : session.Settled) (name : π) (line col : Int) :
    (session.requestHover name line col).2.Settled := by
  apply (requestHover_speech session name line col).settled settled
  intro idle
  rw [Session.requestHover, document?_of_idle idle]

theorem Settled.requestCompletion (settled : session.Settled) (name : π) (line col : Int)
    (trigger : Text) (triggerKind : Int) :
    (session.requestCompletion name line col trigger triggerKind).2.Settled := by
  apply (requestCompletion_speech session name line col trigger triggerKind).settled settled
  intro idle
  rw [Session.requestCompletion, document?_of_idle idle]

theorem Settled.didOpen (settled : session.Settled) (name : π) (text languageId : Text) :
    (session.didOpen name text languageId).2.Settled := by
  have outcome := opening session name text languageId
  generalize session.didOpen name text languageId = result at outcome ⊢
  cases outcome with
  | unsaid silent => exact settled
  | @unsent params documents sent next running opened failed unsent =>
      have told := @settled_send π { session with documents } _ running
        (Message.notification "textDocument/didOpen" params)
      rw [failed] at told
      exact told
  | unconfirmed running opened sent withheld =>
      exact settled_confirmHandshake (isRunning_of_sent sent)
  | told running opened sent confirmed =>
      have confirmed := settled_confirmHandshake (isRunning_of_sent sent)
      exact confirmed.requestSemanticTokens name

theorem Settled.didChange (settled : session.Settled) (name : π) (text : Text) :
    (session.didChange name text).2.Settled := by
  have outcome := changing session name text
  generalize session.didChange name text = result at outcome ⊢
  cases outcome with
  | unsaid silent => exact settled
  | @unsent document params documents sent next running changed failed unsent =>
      have told := @settled_send π { session with documents } _ running
        (Message.notification "textDocument/didChange" params)
      rw [failed] at told
      exact told
  | unnoted running changed sent refused => exact settled_of_running (isRunning_of_sent sent)
  | told running changed sent noted =>
      exact settled_of_running (isRunning_of_calm (calm_noteChange noted) (isRunning_of_sent sent))

theorem Settled.didClose (settled : session.Settled) (name : π) :
    (session.didClose name).2.Settled := by
  unfold Session.didClose
  split
  · exact settled
  · next running =>
    split
    · exact settled
    · next params documents _ =>
      have on : session.isRunning = true := by simpa using running
      have noted : ({ session with documents } : Session π).isRunning = true := on
      dsimp only
      split
      · exact settled_of_running noted
      · next refresh _ =>
        have cleared := calm_clearHoverOn { session with documents, refresh } name
        exact settled_send (isRunning_of_calm cleared noted) _

omit [DocumentName π] [Host] in
theorem Settled.scheduleHover (settled : session.Settled) (target : HoverTarget π) :
    (session.scheduleHover target).2.Settled := by
  apply settled.quiet (calm_scheduleHover session target).quiet
  intro blank
  have moved : Blank { session with
      hover := (session.hover.setTarget target session.now.milliseconds).2 } :=
    { blank with hover := blank.hover.setTarget target _ }
  simp only [Session.scheduleHover]
  split
  · exact moved.emit _
  · exact moved
  · exact moved

omit [BEq π] [DocumentName π] [Host] in
theorem Settled.clearHover (settled : session.Settled) : session.clearHover.Settled := by
  apply settled.quiet (calm_clearHover session).quiet
  intro blank
  have cleared : Blank { session with hover := session.hover.clear.2 } :=
    { blank with hover := HoverSchedule.isStill_clear _ }
  simp only [Session.clearHover]
  split
  · exact cleared.emit _
  · exact cleared

/-! ## The turn of the loop -/

theorem Settled.refreshDue (settled : session.Settled) (now : Moment)
    (running : session.isRunning = true) : (session.refreshDue now).2.Settled :=
  refreshDue_keeps (motive := Settled) settled now (fun _ => settled_of_running running)
    fun name settled => settled.requestSemanticTokens name

theorem Settled.askDueHover (settled : session.Settled) (now : Moment) :
    (session.askDueHover now).2.Settled := by
  apply askDueHover_keeps (motive := Settled) settled now
  · intro target hover due
    obtain ⟨_, rfl⟩ := HoverSchedule.due_eq_ok due
    refine settled.keep rfl fun blank => ?_
    exact { blank with hover := ⟨blank.hover.inFlight, blank.hover.displayed⟩ }
  · intro session name line col asked
    exact asked.requestHover name line col

omit [BEq π] [DocumentName π] [Host] in
theorem Settled.expireHover (settled : session.Settled) {next : Session π} {now : Moment}
    (expired : session.expireHover now = .ok next) : next.Settled := by
  apply settled.quiet (calm_expireHover expired).quiet
  intro blank
  simp only [Session.expireHover, blank.hover.expired now, bind, Except.bind, pure, Except.pure,
    Except.ok.injEq] at expired
  exact expired ▸ blank

theorem Settled.tick (settled : session.Settled) : session.tick.2.Settled :=
  tick_keeps (motive := Settled) settled (fun now running => settled.refreshDue now running)
    (fun now settled => settled.askDueHover now) fun settled expired => settled.expireHover expired

theorem settled_takeMessage (running : session.isRunning = true) (message : Json) :
    (session.takeMessage message).2.Settled := by
  have outcome := takeMessage_utters session message
  generalize (session.takeMessage message).2 = after at outcome ⊢
  cases outcome with
  | nothing quiet => exact settled_of_running (quiet.isRunning.trans running)
  | message quiet advances => exact settled_send (quiet.isRunning.trans running) _

theorem Settled.processAvailable (settled : session.Settled) :
    session.processAvailable.2.Settled :=
  processAvailable_keeps (motive := Settled) settled (fun _ => settled_of_running rfl)
    (fun message settled => settled.logMessage .incoming message)
    (fun message running _ => settled_takeMessage running message)
    fun _ _ _ _ => settled_of_blank (blank_disable _ _)

/-! ## Every call, every run -/

omit [BEq π] [DocumentName π] [Host] in
theorem Settled.changePeer (settled : session.Settled) (change : Peer → Peer) :
    (session.changePeer change).Settled :=
  settled.keep (isRunning_changePeer session change) fun blank => { blank with }

omit [BEq π] [DocumentName π] [Host] in
theorem Settled.updateSettings (settled : session.Settled) (settings : Json) :
    (session.updateSettings settings).2.Settled := by
  unfold Session.updateSettings
  split
  · refine settled.keep rfl fun blank => ?_
    exact { blank with hover := ⟨blank.hover.inFlight, blank.hover.displayed⟩ }
  · exact settled

theorem Settled.perform (settled : session.Settled) (action : Action π) :
    (session.perform action).Settled := by
  cases action with
  | start command root => exact settled_start settled command root
  | stop => exact settled.stop
  | didOpen name text languageId => exact settled.didOpen name text languageId
  | didChange name text => exact settled.didChange name text
  | didClose name => exact settled.didClose name
  | requestSemanticTokens name => exact settled.requestSemanticTokens name
  | requestHover name line col => exact settled.requestHover name line col
  | requestCompletion name line col trigger triggerKind =>
      exact settled.requestCompletion name line col trigger triggerKind
  | scheduleHover target => exact settled.scheduleHover target
  | clearHover => exact settled.clearHover
  | tick => exact settled.tick
  | processAvailable => exact settled.processAvailable
  | updateSettings settings => exact settled.updateSettings settings
  | setLogTraffic enabled => exact settled.keep rfl fun blank => { blank with }
  | setClock now => exact settled.keep rfl fun blank => { blank with }
  | setLauncher launcher => exact settled.keep rfl fun blank => { blank with }
  | prepareWrites writes flushes => exact settled.keep rfl fun blank => { blank with }
  | takeWritesAs writes flushes => exact settled.changePeer _
  | arrive bytes =>
      cases bytes with
      | nil => exact settled
      | cons byte rest =>
          exact settled.changePeer fun peer =>
            { peer with incoming := peer.incoming ++ [.data (byte :: rest)] }
  | hangUp => exact settled.changePeer _
  | failRead => exact settled.changePeer _
  | interruptRead => exact settled.changePeer _

theorem Reachable.settled (reachable : Reachable session) : session.Settled := by
  induction reachable with
  | fresh processId folder =>
      exact settled_of_blank ⟨rfl, rfl, rfl, rfl, ⟨rfl, rfl⟩, rfl⟩
  | perform _ action settled => exact settled.perform action

/-- After every run a session that runs no server has forgotten the conversation with the last
    one: it offers nothing of a server and is not ready. -/
theorem blank_of_idle (reachable : Reachable session) (idle : session.isRunning = false) :
    session.Blank ∧ session.capabilities = {} ∧ session.isReady = false := by
  have blank := reachable.settled idle
  refine ⟨blank, ?_, ?_⟩
  · rw [capabilities, blank.handshake]
  · rw [isReady, idle, Bool.false_and]

end Naming

end Session

open scoped Host.Bare

namespace Session

/-- A server that ends the conversation when it is asked for a hover, behind a document that was
    opened and changed. -/
def brokenOff : Session Text :=
  ((((({ processId := 1, folder := "/home" : Session Text }.perform
    (.start "server" "proj")).perform (.didOpen "a.py" "x" "python")).perform
    (.didChange "a.py" "y")).perform (.scheduleHover ⟨"a.py", 0, 0, 0, 0⟩)).perform
    (.takeWritesAs [.fails] [])).perform (.requestHover "a.py" 0 0)

/-- Nothing is left of the document, of the tokens to be asked for or of the hover. -/
theorem blank_brokenOff :
    brokenOff.isRunning = false ∧
      brokenOff.Blank ∧ brokenOff.capabilities = {} ∧ brokenOff.isReady = false := by
  have reachable : Reachable brokenOff :=
    ((((((Reachable.fresh 1 "/home").perform _).perform _).perform _).perform _).perform
      _).perform _
  have idle : brokenOff.isRunning = false := by decide +kernel
  exact ⟨idle, blank_of_idle reachable idle⟩

end Session

end LanguageClient
