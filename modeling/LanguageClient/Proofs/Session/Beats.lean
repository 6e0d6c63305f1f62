import LanguageClient.Proofs.Session.Signals

/-! # Calls as chains of beats

Every call of a session is a chain of beats, so that all it begins and tells is what its beats
begin and tell, and what it does to what is waited for and shown is what they do.
-/

namespace LanguageClient.Session

variable {subject : Option Text} {before after session : Session Text} [Host]

/-! ## Requests -/

theorem beats_requestSemanticTokens (session : Session Text) (path : Text) :
    Beats subject session (session.requestSemanticTokens path).2 := by
  unfold requestSemanticTokens
  split
  · exact .refl
  · exact beats_request (ne_method (by decide) (by decide)) _ _

theorem beats_requestHover (keyed : session.documents.Keyed) (path : Text) (line col : Int) :
    Beats (some path) session (session.requestHover path line col).2 := by
  unfold requestHover
  split
  · exact .refl
  · next document found =>
    split
    · exact .refl
    · next now _ =>
      have asks : Asks .hover ⟨path, line, col, now⟩ session
          { session with hover := session.hover.start path line col now } := by
        refine ⟨rfl, rfl, rfl, ?_, rfl⟩
        intro other isOther
        cases other with
        | hover => exact absurd rfl isOther
        | completion => rfl
      exact asks.beats_request keyed found rfl [] _

theorem beats_requestCompletion (keyed : session.documents.Keyed) (path : Text)
    (line col : Int) (trigger : Text) (triggerKind : Int) :
    Beats (some path) session
      (session.requestCompletion path line col trigger triggerKind).2 := by
  unfold requestCompletion
  split
  · exact .refl
  · next document found =>
    split
    · exact .refl
    · split
      · exact .refl
      · next begun =>
        obtain ⟨now, rfl⟩ := startCompletion_eq_ok begun
        have asks : Asks .completion ⟨path, line, col, now⟩ session
            { session with completion := session.completion.start path line col now } := by
          refine ⟨rfl, rfl, rfl, ?_, rfl⟩
          intro other isOther
          cases other with
          | hover => rfl
          | completion => exact absurd rfl isOther
        exact asks.beats_request keyed found rfl
          [("context", triggerParams trigger triggerKind)] _

/-! ## Starts and stops -/

omit [Host] in
/-- What a session forgets when a start is asked for had been forgotten before. -/
theorem even_asked (blank : session.Blank) (command : Text) :
    Even subject session (session.reset.record (.asked command)) := by
  refine ⟨?_, ?_, blank.hover.displayed.symm⟩
  · rw [account, view_record]
    exact List.append_nil _
  · funext inquiry
    cases inquiry with
    | hover => exact blank.hover.inFlight.symm
    | completion => exact blank.completion.symm

theorem beat_hosting (session : Session Text) (command : Text) (process : ServerProcess) :
    Beat subject (session.reset.record (.asked command)) (session.hosting command process) := by
  refine beat_of_unanswering (account_emit _ .started) ?_ ?_ rfl
  · intro inquiry
    cases inquiry <;> rfl
  · intro inquiry
    refine .inl ?_
    cases inquiry <;> rfl

theorem beats_start (settled : session.Settled) (command root : Text) :
    Beats subject session (session.start command root).2 := by
  have outcome := starting session command root
  generalize session.start command root = result at outcome ⊢
  have asked (nobody : session.connection = none) :
      Beats subject session (session.reset.record (.asked command)) := by
    have idle : session.isRunning = false := by
      rw [isRunning, nobody]
      rfl
    exact (even_asked (settled idle) command).beats
  cases outcome with
  | running running => exact .refl
  | @failed fault child nobody refused =>
      have reported : Beat subject (session.reset.record (.asked command))
          (session.unserved command fault) := beat_aside _ rfl
      dsimp only
      exact (asked nobody).tail reported
  | brokenOff nobody broken => exact asked nobody
  | @started process params nobody launched =>
      have hosted := (asked nobody).tail (beat_hosting session command process)
      dsimp only
      exact hosted.trans (beats_request (ne_method (by decide) (by decide)) params .handshake)

theorem Goodbye.beats {server : Nat} {ending : Session Text}
    (parting : Goodbye session server ending) : Beats subject session ending := by
  have left : Even subject session session.leaving := even_of_same rfl rfl rfl rfl
  have asked (taken : Except Fault (List UInt8)) : Beats subject session
      (session.leaving.said server session.shutdownRequest taken) :=
    left.beats.trans (beats_said (fun inquiry => by cases inquiry <;> rfl) taken)
  cases parting with
  | unsent isPart => exact asked _
  | sent framed isPart =>
      exact (asked _).trans (beats_said (fun inquiry => by cases inquiry <;> rfl) _)

theorem beats_stop (session : Session Text) : Beats subject session session.stop.2 := by
  apply (stopping session).keeps (motive := Beats subject session) .refl
  · intro _
    exact beats_request (ne_method (by decide) (by decide)) _ _
  · intro asking asked
    exact asked.trans (beats_send fun inquiry server => by cases inquiry <;> rfl)
  · intro connection ending running parting
    exact (parting.beats.tail (.even (even_disconnect ending _))).tail (beat_stopped _)

/-! ## The hover that is shown -/

/-- A hover that is given up leaves nothing to wait for or to show, and if there was anything
    the host is told. -/
theorem beat_cleared (cleared : after.journal = .event .hoverCleared :: before.journal)
    (completion : after.completion = before.completion) (still : after.hover.IsStill) :
    Beat subject before after := by
  have account : after.account subject = before.account subject ++ [.told .hoverCleared] := by
    rw [← account_emit, Session.account, view, cleared]
    rfl
  refine beat_of_unanswering account ?_ ?_ still.displayed
  · intro inquiry
    cases inquiry <;> rfl
  · intro inquiry
    cases inquiry with
    | hover => exact .inl still.inFlight
    | completion => exact .inr ⟨rfl, congrArg CompletionTracker.inFlight completion⟩

omit [Host] in
theorem isStill_of_clear {τ : Type} {hover : HoverSchedule Text τ}
    (nothing : hover.clear.1 = false) : hover.IsStill := by
  have none : (hover.displayed || hover.inFlight.isSome) = false := nothing
  rw [Bool.or_eq_false_iff] at none
  exact ⟨Option.isNone_iff_eq_none.mp (Option.isSome_eq_false_iff.mp none.2), none.1⟩

theorem beat_clearHover (session : Session Text) : Beat subject session session.clearHover := by
  simp only [clearHover]
  split
  · exact beat_cleared rfl rfl ⟨rfl, rfl⟩
  · next nothing =>
    have still := isStill_of_clear (Bool.eq_false_iff.mpr nothing)
    exact .even (even_of_same rfl still.inFlight.symm rfl still.displayed.symm)

theorem beats_clearHoverOn (session : Session Text) (path : Text) :
    Beats subject session (session.clearHoverOn path) := by
  unfold clearHoverOn
  split
  · exact .refl
  · split
    · exact .single (beat_clearHover session)
    · exact .refl

theorem beat_scheduleHover {now : Int} (clock : session.now.milliseconds = .ok now)
    (target : HoverTarget Text) : Beat subject session (session.scheduleHover target).2 := by
  simp only [scheduleHover, HoverSchedule.setTarget, clock]
  unfold HoverSchedule.pointAt
  cases session.hover.isOn target with
  | true => exact .even (even_of_same rfl rfl rfl rfl)
  | false =>
      cases cleared : session.hover.clear.1 with
      | true =>
          simp only [Bool.false_eq_true, ↓reduceIte, cleared]
          exact beat_cleared rfl rfl ⟨rfl, rfl⟩
      | false =>
          have still := isStill_of_clear cleared
          simp only [Bool.false_eq_true, ↓reduceIte, cleared]
          exact .even (even_of_same rfl still.inFlight.symm rfl still.displayed.symm)

/-! ## Documents -/

theorem beats_confirmHandshake (session : Session Text) :
    Beats subject session session.confirmHandshake.2 := by
  have noted : Even subject session
      { session with handshake := session.handshake.documentOpened.2 } :=
    even_of_same rfl rfl rfl rfl
  simp only [confirmHandshake]
  split
  · exact beats_notify noted (ne_method (by decide) (by decide)) _
  · exact noted.beats

theorem beats_didOpen (session : Session Text) (path text languageId : Text) :
    Beats subject session (session.didOpen path text languageId).2 := by
  have told (documents : DocumentStore) (params : Json) :
      Beats subject session ({ session with documents }.notify
        "textDocument/didOpen" params).2 := by
    have noted : Even subject session { session with documents } := even_of_same rfl rfl rfl rfl
    exact beats_notify noted (ne_method (by decide) (by decide)) params
  have outcome := opening session path text languageId
  generalize session.didOpen path text languageId = result at outcome ⊢
  cases outcome with
  | unsaid silent => exact .refl
  | @unsent params documents sent next running opened failed unsent =>
      have taken := told documents params
      rw [notify, failed] at taken
      exact taken
  | @unconfirmed params documents next fault running opened sent withheld =>
      have taken := told documents params
      rw [notify, sent] at taken
      exact taken.trans (beats_confirmHandshake next)
  | @told params documents next running opened sent confirmed =>
      have taken := told documents params
      rw [notify, sent] at taken
      exact (taken.trans (beats_confirmHandshake next)).trans
        (beats_requestSemanticTokens _ path)

omit [Host] in
theorem even_noteChange {path : Text} (noted : before.noteChange path = .ok after) :
    Even subject before after := by
  obtain ⟨refresh, rfl⟩ := noteChange_eq_ok noted
  exact even_of_same rfl rfl rfl rfl

theorem beats_didChange (session : Session Text) (path text : Text) :
    Beats subject session (session.didChange path text).2 := by
  have told (documents : DocumentStore) (params : Json) :
      Beats subject session ({ session with documents }.notify
        "textDocument/didChange" params).2 := by
    have noted : Even subject session { session with documents } := even_of_same rfl rfl rfl rfl
    exact beats_notify noted (ne_method (by decide) (by decide)) params
  have outcome := changing session path text
  generalize session.didChange path text = result at outcome ⊢
  cases outcome with
  | unsaid silent => exact .refl
  | @unsent document params documents sent next running changed failed unsent =>
      have taken := told documents params
      rw [notify, failed] at taken
      exact taken
  | @unnoted document params documents next fault running changed sent refused =>
      have taken := told documents params
      rw [notify, sent] at taken
      exact taken
  | @told document params documents next last running changed sent noted =>
      have taken := told documents params
      rw [notify, sent] at taken
      exact taken.tail (.even (even_noteChange noted))

theorem beats_didClose (session : Session Text) (path : Text) :
    Beats subject session (session.didClose path).2 := by
  cases known : session.document? path with
  | none =>
      rw [didClose_of_unknown known]
  | some document =>
      obtain ⟨refresh, same⟩ := didClose_eq known
      rw [same]
      have noted : Even subject session { session with
          documents := session.documents.set { document with isOpen := false }, refresh } :=
        even_of_same rfl rfl rfl rfl
      have cleared := noted.beats.trans (beats_clearHoverOn _ path)
      exact cleared.trans (beats_notify (even_of_same rfl rfl rfl rfl)
        (ne_method (by decide) (by decide)) _)

/-! ## The turn of the loop -/

omit [Host] in
theorem target_disable (session : Session Text) (reason : Text) :
    (session.disable reason).hover.target = session.hover.target := by
  unfold disable disconnect
  split
  · rfl
  · rfl

theorem target_send (session : Session Text) (message : Json) :
    (session.send message).2.hover.target = session.hover.target := by
  have logged := congrArg HoverSchedule.target (hover_logMessage session .outgoing message)
  have outcome := sending session message
  generalize session.send message = result at outcome ⊢
  cases outcome with
  | idle nobody => rfl
  | whole rest flushes running framed => exact logged
  | part rest flushes running isPart => exact (target_disable _ _).trans logged
  | withheld fault running => exact logged

/-- A turn of the loop that has come so far has left the pointer where it was. -/
structure Turning (session next : Session Text) : Prop where
  beats : Beats (session.hover.target.map (·.name)) session next
  inStep : next.InStep
  target : next.hover.target = session.hover.target

theorem Turning.requestSemanticTokens {next : Session Text} (turning : Turning session next)
    (path : Text) : Turning session (next.requestSemanticTokens path).2 := by
  refine ⟨turning.beats.trans (beats_requestSemanticTokens next path), ?_, ?_⟩
  · exact Move.inStep (.plain (.requestSemanticTokens next path)) turning.inStep
  · rw [← turning.target]
    unfold Session.requestSemanticTokens
    split
    · rfl
    · exact target_send (next.noting _) _

theorem Turning.requestHover {next : Session Text} (turning : Turning session next)
    {target : HoverTarget Text} (pointed : session.hover.target = some target) :
    Turning session (next.requestHover target.name target.line target.col).2 := by
  refine ⟨?_, ?_, ?_⟩
  · have asked := beats_requestHover turning.inStep.keyed target.name target.line target.col
    have beats := turning.beats
    rw [pointed] at beats ⊢
    exact beats.trans asked
  · exact Move.inStep (.plain (.requestHover next _ _ _)) turning.inStep
  · rw [← turning.target]
    unfold Session.requestHover
    split
    · rfl
    · split
      · rfl
      · exact target_send _ _

theorem Turning.askDueHover {next : Session Text} (turning : Turning session next)
    (now : Moment) : Turning session (next.askDueHover now).2 := by
  unfold Session.askDueHover
  split
  · exact turning
  · exact turning
  · next target hover due =>
    obtain ⟨isTarget, rfl⟩ := HoverSchedule.due_eq_ok due
    have pointed : session.hover.target = some target := turning.target.symm.trans isTarget
    have taken : Turning session
        { next with hover := { next.hover with waiting := false } } :=
      ⟨turning.beats.tail (.even (even_of_same rfl rfl rfl rfl)), turning.inStep, turning.target⟩
    dsimp only
    split
    · exact taken.requestHover pointed
    · exact taken

theorem Turning.expireHover {next last : Session Text} {now : Moment}
    (turning : Turning session next) (expired : next.expireHover now = .ok last) :
    Turning session last := by
  have inStep : last.InStep := Move.inStep (.plain (.expireHover expired)) turning.inStep
  rcases expireHover_eq_ok expired with rfl | rfl
  · exact turning
  · have reported : Beat (session.hover.target.map (·.name)) next
        (next.emit (.status "Hover: no response")) := beat_aside _ rfl
    have cleared : Beat (session.hover.target.map (·.name))
        (next.emit (.status "Hover: no response")) (({ next with
          hover := { next.hover with inFlight := none, displayed := false } }.emit
            (.status "Hover: no response")).emit .hoverCleared) :=
      beat_cleared rfl rfl ⟨rfl, rfl⟩
    exact ⟨(turning.beats.tail reported).tail cleared, inStep, turning.target⟩

theorem beats_tick (inStep : session.InStep) :
    Beats (session.hover.target.map (·.name)) session session.tick.2 := by
  have turning : Turning session session := ⟨.refl, inStep, rfl⟩
  have turned : Turning session session.tick.2 := by
    apply tick_keeps (motive := Turning session) turning
    · intro now running
      apply refreshDue_keeps (motive := Turning session) turning now
      · intro names refresh due
        exact ⟨.single (.even (even_of_same rfl rfl rfl rfl)), inStep, rfl⟩
      · intro next path turning
        exact turning.requestSemanticTokens path
    · intro next now turning
      exact turning.askDueHover now
    · intro next last now turning expired
      exact turning.expireHover expired
  exact turned.beats

/-! ## Responses -/

theorem beat_takeHover (session : Session Text) (path : Text) (line col : Int)
    (result error : Json) :
    Beat subject session (session.takeHover path line col result error) := by
  unfold takeHover
  split
  · exact .even (even_of_same rfl rfl rfl rfl)
  · next hover accepted =>
    obtain ⟨request, flying, about, silent⟩ := hover_of_accept accepted
    obtain ⟨rfl, rfl, rfl⟩ := place_of_isAbout about
    refine .told (account_emit _ _) ?_ ?_ rfl
    · intro inquiry spot answers
      cases inquiry with
      | hover => exact ⟨request, flying, Option.some.inj answers⟩
      | completion => exact absurd answers nofun
    · intro inquiry
      cases inquiry with
      | hover => exact .inl silent
      | completion => exact .inr ⟨rfl, rfl⟩

theorem beat_takeCompletion (session : Session Text) (path : Text) (line col : Int)
    (result error : Json) :
    Beat subject session (session.takeCompletion path line col result error) := by
  unfold takeCompletion
  split
  · exact .even (even_of_same rfl rfl rfl rfl)
  · next completion accepted =>
    obtain ⟨request, flying, about, silent⟩ := completion_of_accept accepted
    obtain ⟨rfl, rfl, rfl⟩ := place_of_isAbout about
    refine .told (account_emit _ _) ?_ ?_ rfl
    · intro inquiry spot answers
      cases inquiry with
      | hover => exact absurd answers nofun
      | completion => exact ⟨request, flying, Option.some.inj answers⟩
    · intro inquiry
      cases inquiry with
      | hover => exact .inr ⟨rfl, rfl⟩
      | completion => exact .inl silent

theorem beats_takeHandshake (session : Session Text) (result error : Json) :
    Beats subject session (session.takeHandshake result error) := by
  unfold takeHandshake
  split
  · have accepted : Even subject session
        { session with handshake := session.handshake.accept result } :=
      even_of_same rfl rfl rfl rfl
    exact accepted.beats.tail (beat_aside _ rfl)
  · exact .single (beat_aside session rfl)

theorem beats_takeSemanticTokens (session : Session Text) (uri : Text) (result : Json) :
    Beats subject session (session.takeSemanticTokens uri result) := by
  unfold takeSemanticTokens
  split
  · exact .refl
  · split
    · exact .refl
    · exact .single (beat_aside session rfl)

theorem beats_takeResponse (session : Session Text) (message : Json) :
    Beats subject session (session.takeResponse message) := by
  simp only [takeResponse]
  split
  · exact .refl
  · next context requests _ =>
    have resolved : Even subject session { session with requests } :=
      even_of_same rfl rfl rfl rfl
    apply resolved.beats.trans
    cases context with
    | handshake => exact beats_takeHandshake _ _ _
    | shutdown => exact .refl
    | semanticTokens uri => exact beats_takeSemanticTokens _ uri _
    | hover path line col => exact .single (beat_takeHover _ path line col _ _)
    | completion path line col => exact .single (beat_takeCompletion _ path line col _ _)

theorem beats_takeNotice {message : Json} (taken : before.takeNotice message = .ok after) :
    Beats subject before after := by
  unfold takeNotice at taken
  split at taken
  · obtain rfl := Except.ok.inj taken
    exact .single (beat_aside _ rfl)
  · obtain rfl := Except.ok.inj taken
    exact .refl
  · exact absurd taken nofun

theorem beats_takeMessage (session : Session Text) (message : Json) :
    Beats subject session (session.takeMessage message).2 := by
  unfold takeMessage
  split
  · exact beats_takeResponse session message
  · dsimp only
    split
    · exact .refl
    · split
      · exact beats_send fun inquiry => (@Tells.refusal _ {} _ _).asksNothing
      · split
        · next taken => exact beats_takeNotice taken
        · exact .refl

theorem beats_processAvailable (session : Session Text) :
    Beats subject session session.processAvailable.2 :=
  processAvailable_keeps (motive := Beats subject session) .refl
    (fun _ => .single (.even (even_of_same rfl rfl rfl rfl)))
    (fun message beats => beats.trans (beats_logMessage _ .incoming message))
    (fun message _ beats => beats.trans (beats_takeMessage _ message))
    fun _ _ _ beats => beats.trans (beats_disable _ _)

/-! ## Every call -/

/-- If an action moves the pointer, the clock can be read. -/
def IsTimely (session : Session Text) : Action Text → Prop
  | .scheduleHover _ => ∃ now, session.now.milliseconds = .ok now
  | _ => True

/-- Every call is a chain of beats, but for one that moves the pointer while the clock cannot
    be read. -/
theorem beats_perform (inStep : session.InStep) (settled : session.Settled)
    {action : Action Text} (timely : session.IsTimely action) :
    Beats (session.subject? action) session (session.perform action) := by
  have same {after : Session Text} (journal : after.journal = session.journal)
      (hover : after.hover.inFlight = session.hover.inFlight)
      (completion : after.completion = session.completion)
      (displayed : after.hover.displayed = session.hover.displayed) :
      Beats (session.subject? action) session after :=
    (even_of_same journal hover (congrArg CompletionTracker.inFlight completion) displayed).beats
  cases action with
  | start command root => exact beats_start settled command root
  | stop => exact beats_stop session
  | didOpen path text languageId => exact beats_didOpen session path text languageId
  | didChange path text => exact beats_didChange session path text
  | didClose path => exact beats_didClose session path
  | requestSemanticTokens path => exact beats_requestSemanticTokens session path
  | requestHover path line col => exact beats_requestHover inStep.keyed path line col
  | requestCompletion path line col trigger triggerKind =>
      exact beats_requestCompletion inStep.keyed path line col trigger triggerKind
  | scheduleHover target =>
      obtain ⟨now, clock⟩ := timely
      exact .single (beat_scheduleHover clock target)
  | clearHover => exact .single (beat_clearHover session)
  | tick => exact beats_tick inStep
  | processAvailable => exact beats_processAvailable session
  | updateSettings settings =>
      show Beats _ session (session.updateSettings settings).2
      unfold updateSettings
      split
      · exact same rfl rfl rfl rfl
      · exact .refl
  | arrive bytes =>
      cases bytes with
      | nil => exact .refl
      | cons byte rest => exact same rfl rfl rfl rfl
  | _ => exact same rfl rfl rfl rfl

end LanguageClient.Session
