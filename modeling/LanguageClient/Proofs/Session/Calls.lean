import LanguageClient.Proofs.Schedule.Hover
import LanguageClient.Session.Loop

/-! # What calls are made of

The longer calls of a session do one thing after another and stop at the first that fails. What
the opening and the change of a document come to is said by cases. A call that goes through many
steps keeps what each of them keeps.
-/

namespace LanguageClient

/-- What became a value by a function was one before. -/
theorem ok_of_map {ε α β : Type} {f : α → β} {result : Except ε α} {value : β}
    (mapped : result.map f = .ok value) : ∃ given, result = .ok given ∧ f given = value := by
  cases result with
  | error fault => exact absurd mapped nofun
  | ok given => exact ⟨given, rfl, Except.ok.inj mapped⟩

namespace HoverSchedule

variable {π τ : Type} {hover next : HoverSchedule π τ} {now : Moment}

theorem due_eq_ok {target : τ} (due : hover.due now = .ok (some target, next)) :
    hover.target = some target ∧ next = { hover with waiting := false } := by
  obtain ⟨other, pointed, isDue⟩ | isDue | ⟨fault, isDue⟩ := due_cases hover now
  · rw [isDue] at due
    cases due
    exact ⟨pointed, rfl⟩
  · simp [isDue] at due
  · simp [isDue] at due

theorem expired_eq_ok (expired : hover.expired now = .ok (true, next)) :
    next = { hover with inFlight := none } := by
  obtain late | late | ⟨fault, late⟩ := expired_cases hover now
  · rw [late] at expired
    cases expired
    rfl
  · simp [late] at expired
  · simp [late] at expired

end HoverSchedule

namespace Session

variable {π : Type} [BEq π] [DocumentName π] [Host]

/-! ## The opening and the change of a document -/

/-- What the opening of a document comes to, and whether the server was told of it. Without a
    server, or for a document that cannot be opened, it is nothing. Each of the messages may be
    withheld. -/
inductive Opening (session : Session π) (name : π) (text languageId : Text) :
    Except Fault Bool × Session π → Prop where
  | unsaid (silent : session.isRunning = false ∨
        (session.documents.openDocument (DocumentName.pathToOpen name) text languageId).1 = none) :
      Opening session name text languageId (.ok false, session)
  | unsent {params : Json} {documents : DocumentStore} {sent : Except Fault Bool}
      {next : Session π} (running : session.isRunning = true)
      (opened : session.documents.openDocument (DocumentName.pathToOpen name) text languageId =
        (some params, documents))
      (failed : { session with documents }.send
        (Message.notification "textDocument/didOpen" params) = (sent, next))
      (unsent : sent ≠ .ok true) :
      Opening session name text languageId (sent, next)
  | unconfirmed {params : Json} {documents : DocumentStore} {next : Session π} {fault : Fault}
      (running : session.isRunning = true)
      (opened : session.documents.openDocument (DocumentName.pathToOpen name) text languageId =
        (some params, documents))
      (sent : { session with documents }.send
        (Message.notification "textDocument/didOpen" params) = (.ok true, next))
      (withheld : next.confirmHandshake.1 = .error fault) :
      Opening session name text languageId (.error fault, next.confirmHandshake.2)
  | told {params : Json} {documents : DocumentStore} {next : Session π}
      (running : session.isRunning = true)
      (opened : session.documents.openDocument (DocumentName.pathToOpen name) text languageId =
        (some params, documents))
      (sent : { session with documents }.send
        (Message.notification "textDocument/didOpen" params) = (.ok true, next))
      (confirmed : next.confirmHandshake.1 = .ok ()) :
      Opening session name text languageId
        ((next.confirmHandshake.2.requestSemanticTokens name).1.map fun _ => true,
          (next.confirmHandshake.2.requestSemanticTokens name).2)

theorem opening (session : Session π) (name : π) (text languageId : Text) :
    Opening session name text languageId (session.didOpen name text languageId) := by
  unfold didOpen
  cases running : session.isRunning with
  | false => exact .unsaid (.inl running)
  | true =>
      simp only [Bool.not_true, Bool.false_eq_true, ↓reduceIte]
      split
      · next refused => exact .unsaid (.inr (congrArg Prod.fst refused))
      · next opened =>
        split
        · next sent =>
          have confirming := @Opening.told _ _ _ _ _ name text languageId _ _ _ running opened sent
          split
          · next withheld =>
            have unconfirmed := @Opening.unconfirmed _ _ _ _ _ name text languageId _ _ _ _ running
              opened sent (congrArg Prod.fst withheld)
            rw [withheld] at unconfirmed
            exact unconfirmed
          · next confirmed =>
            rw [confirmed] at confirming
            exact confirming rfl
        · next failed =>
          exact .unsent running opened rfl fun told => failed _ (Prod.ext told rfl)

/-- What the change of a document comes to, and its new version, 0 if the server was not told.
    The clock may fault behind a change that was told. -/
inductive Changing (session : Session π) (name : π) (text : Text) :
    Except Fault Int × Session π → Prop where
  | unsaid (silent : session.isRunning = false ∨
        (session.documents.change (session.documents.pathOf name) text).1 = none) :
      Changing session name text (.ok 0, session)
  | unsent {document : Document} {params : Json} {documents : DocumentStore}
      {sent : Except Fault Bool} {next : Session π} (running : session.isRunning = true)
      (changed : session.documents.change (session.documents.pathOf name) text =
        (some (document, params), documents))
      (failed : { session with documents }.send
        (Message.notification "textDocument/didChange" params) = (sent, next))
      (unsent : sent ≠ .ok true) :
      Changing session name text (sent.map fun _ => 0, next)
  | unnoted {document : Document} {params : Json} {documents : DocumentStore}
      {next : Session π} {fault : Fault} (running : session.isRunning = true)
      (changed : session.documents.change (session.documents.pathOf name) text =
        (some (document, params), documents))
      (sent : { session with documents }.send
        (Message.notification "textDocument/didChange" params) = (.ok true, next))
      (refused : next.noteChange name = .error fault) :
      Changing session name text (.error fault, next)
  | told {document : Document} {params : Json} {documents : DocumentStore}
      {next last : Session π} (running : session.isRunning = true)
      (changed : session.documents.change (session.documents.pathOf name) text =
        (some (document, params), documents))
      (sent : { session with documents }.send
        (Message.notification "textDocument/didChange" params) = (.ok true, next))
      (noted : next.noteChange name = .ok last) :
      Changing session name text (.ok document.version, last)

theorem changing (session : Session π) (name : π) (text : Text) :
    Changing session name text (session.didChange name text) := by
  unfold didChange
  cases running : session.isRunning with
  | false => exact .unsaid (.inl running)
  | true =>
      simp only [Bool.not_true, Bool.false_eq_true, ↓reduceIte]
      split
      · next refused => exact .unsaid (.inr (congrArg Prod.fst refused))
      · next changed =>
        split
        · next withheld => exact .unsent running changed withheld nofun
        · next failed => exact .unsent running changed failed nofun
        · next sent =>
          split
          · next refused => exact .unnoted running changed sent refused
          · next noted => exact .told running changed sent noted

omit [BEq π] [DocumentName π] [Host] in
theorem startCompletion_eq_ok {session next : Session π} {name : π} {line col : Int}
    (begun : session.startCompletion name line col = .ok next) :
    ∃ now, next = { session with completion := session.completion.start name line col now } := by
  unfold startCompletion at begun
  cases read : session.now.milliseconds with
  | error fault => simp [read, bind, Except.bind] at begun
  | ok now =>
      simp only [read, bind, Except.bind, pure, Except.pure, Except.ok.injEq] at begun
      exact ⟨now, begun.symm⟩

omit [Host] in
theorem noteChange_eq_ok {session next : Session π} {name : π}
    (noted : session.noteChange name = .ok next) :
    ∃ refresh, next = { session with refresh } := by
  unfold noteChange at noted
  cases read : session.now.milliseconds with
  | error fault => simp [read, bind, Except.bind] at noted
  | ok now =>
      cases mark : session.refresh.tryMark name now with
      | error fault => simp [read, mark, bind, Except.bind] at noted
      | ok refresh =>
          simp only [read, mark, bind, Except.bind, pure, Except.pure, Except.ok.injEq] at noted
          exact ⟨refresh, noted.symm⟩

omit [BEq π] [DocumentName π] [Host] in
/-- A hover that was not answered in time is given up; else nothing happens. -/
theorem expireHover_eq_ok {session next : Session π} {now : Moment}
    (expired : session.expireHover now = .ok next) :
    next = session ∨ next = ({ session with
      hover := { session.hover with inFlight := none, displayed := false } }.emit
        (.status "Hover: no response")).emit .hoverCleared := by
  unfold expireHover at expired
  cases done : session.hover.expired now with
  | error fault => simp [done, bind, Except.bind] at expired
  | ok outcome =>
      obtain ⟨late, hover⟩ := outcome
      simp only [done, bind, Except.bind, pure, Except.pure] at expired
      cases late with
      | false => exact .inl (Except.ok.inj expired).symm
      | true =>
          obtain rfl := HoverSchedule.expired_eq_ok done
          exact .inr (Except.ok.inj expired).symm

/-! ## What the turn of the loop keeps -/

variable {session next : Session π} {motive : Session π → Prop}

theorem refreshTokens_keeps (holds : motive session)
    (asked : ∀ {session : Session π} (name : π), motive session →
      motive (session.requestSemanticTokens name).2)
    (names : List π) : motive (session.refreshTokens names).2 := by
  induction names generalizing session with
  | nil => exact holds
  | cons name rest ih =>
      have first := asked name holds
      rw [refreshTokens]
      split
      · next withheld =>
        rw [withheld] at first
        exact first
      · next done =>
        rw [done] at first
        exact ih first

theorem refreshDue_keeps (holds : motive session) (now : Moment)
    (taken : ∀ {names : List π} {refresh : TokenRefresh π},
      session.refresh.due now = .ok (names, refresh) → motive { session with refresh })
    (asked : ∀ {session : Session π} (name : π), motive session →
      motive (session.requestSemanticTokens name).2) : motive (session.refreshDue now).2 := by
  unfold refreshDue
  split
  · exact holds
  · next names refresh due => exact refreshTokens_keeps (taken due) asked names

theorem askDueHover_keeps (holds : motive session) (now : Moment)
    (taken : ∀ {target : HoverTarget π} {hover : HoverSchedule π (HoverTarget π)},
      session.hover.due now = .ok (some target, hover) → motive { session with hover })
    (asked : ∀ {session : Session π} (name : π) (line col : Int), motive session →
      motive (session.requestHover name line col).2) :
    motive (session.askDueHover now).2 := by
  unfold askDueHover
  split
  · exact holds
  · exact holds
  · next target hover due =>
    dsimp only
    split
    · exact asked target.name target.line target.col (taken due)
    · exact taken due

theorem tick_keeps (holds : motive session)
    (refreshed : ∀ (now : Moment), session.isRunning = true → motive (session.refreshDue now).2)
    (asked : ∀ {session : Session π} (now : Moment), motive session →
      motive (session.askDueHover now).2)
    (expired : ∀ {session next : Session π} {now : Moment}, motive session →
      session.expireHover now = .ok next → motive next) : motive session.tick.2 := by
  unfold tick
  split
  · exact holds
  · next running =>
    have first := refreshed session.now (by simpa using running)
    dsimp only
    split
    · next faulted =>
      rw [faulted] at first
      exact first
    · next done =>
      rw [done] at first
      have second := asked session.now first
      split
      · next faulted =>
        rw [faulted] at second
        exact second
      · next done =>
        rw [done] at second
        split
        · exact second
        · next expires => exact expired second expires

omit [BEq π] [DocumentName π] in
theorem isRunning_logMessage (session : Session π) (direction : Direction) (message : Json) :
    (session.logMessage direction message).isRunning = session.isRunning := by
  unfold logMessage
  split
  · rfl
  · rfl

omit [BEq π] [DocumentName π] [Host] in
theorem isRunning_of_isConnectedTo {server : Nat}
    (connected : session.isConnectedTo server = true) : session.isRunning = true := by
  unfold isConnectedTo at connected
  unfold isRunning
  cases running : session.connection with
  | none => simp [running] at connected
  | some connection => rfl

/-- Messages are taken by a session that runs a server. -/
theorem takeMessages_keeps (holds : motive session)
    (logged : ∀ {session : Session π} (message : Json), motive session →
      motive (session.logMessage .incoming message))
    (handled : ∀ {session : Session π} (message : Json), session.isRunning = true →
      motive session → motive (session.takeMessage message).2)
    (server taken : Nat) (messages : List Json) :
    motive (takeMessages server taken session messages).2 := by
  induction messages generalizing taken session with
  | nil => exact holds
  | cons message rest ih =>
      unfold takeMessages
      split
      · next connected =>
        have running := (isRunning_logMessage session .incoming message).trans
          (isRunning_of_isConnectedTo connected)
        have second := handled message running (logged message holds)
        dsimp only
        split
        · next faulted =>
          rw [faulted] at second
          exact second
        · next done =>
          rw [done] at second
          exact ih second _
      · exact holds

end Session

end LanguageClient
