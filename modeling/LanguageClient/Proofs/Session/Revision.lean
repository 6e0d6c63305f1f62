import LanguageClient.Proofs.Document.Revision
import LanguageClient.Proofs.Session.Openness

/-! # What becomes of the documents of a session

A message that does not come through costs a session all its documents. Apart from that a move
revises them, unless it opens one.
-/

namespace LanguageClient.Session

open DocumentStore (Revises revises_of_eq)

variable {π : Type} {before after : Session π} [Host]

theorem documents_send (session : Session π) (message : Json) :
    (session.send message).2.documents = session.documents ∨
      (session.send message).2.documents = {} := by
  have outcome := sending session message
  generalize session.send message = result at outcome ⊢
  cases outcome with
  | idle nobody => exact .inl rfl
  | @whole connection frame rest flushes running framed =>
      exact .inl (documents_said session connection.server message (.ok frame))
  | part rest flushes running isPart => exact .inr rfl
  | @withheld connection fault running =>
      exact .inl (documents_said session connection.server message (.error fault))

/-- What a message was made from is what the session has once it was sent, or nothing. -/
theorem revises_send {store : DocumentStore} (session : Session π) (message : Json)
    (revises : store.Revises session.documents) :
    store.Revises (session.send message).2.documents := by
  rcases documents_send session message with same | nothing
  · rw [same]
    exact revises
  · rw [nothing]
    exact .forgotten

theorem revises_request {store : DocumentStore} (session : Session π) (method : Text)
    (params : Json) (context : RequestContext π) (revises : store.Revises session.documents) :
    store.Revises (session.request method params context).2.documents := by
  rw [request_snd]
  have noted : (session.noting context).documents = session.documents := rfl
  exact revises_send _ _ (noted ▸ revises)

theorem revises_confirmHandshake (session : Session π) :
    session.documents.Revises session.confirmHandshake.2.documents := by
  simp only [confirmHandshake]
  split
  · exact revises_send { session with handshake := session.handshake.documentOpened.2 } _ .kept
  · exact .kept

theorem Starting.revises {command : Text} {outcome : Except Fault Bool × Session π}
    (starting : Starting before command outcome) :
    before.documents.Revises outcome.2.documents := by
  cases starting with
  | running running => exact .kept
  | failed nobody refused => exact .forgotten
  | brokenOff nobody broken => exact .forgotten
  | @started process params nobody launched =>
      dsimp only
      rw [greeting]
      exact revises_request (before.hosting command process) _ _ _ .forgotten

/-- A new server knows no documents. -/
theorem Starting.documents {command : Text} {outcome : Except Fault Bool × Session π}
    (starting : Starting before command outcome) (idle : before.isRunning = false) :
    outcome.2.documents = {} := by
  cases starting with
  | running running => exact absurd running (Bool.eq_false_iff.mp idle)
  | failed nobody refused => rfl
  | brokenOff nobody broken => rfl
  | @started process params nobody launched =>
      dsimp only
      rw [greeting, request_snd]
      rcases documents_send ((before.hosting command process).noting .handshake) _ with
        same | nothing
      · exact same
      · exact nothing

theorem Stopping.revises {outcome : Except Fault Unit × Session π}
    (stopping : Stopping before outcome) : before.documents.Revises outcome.2.documents := by
  apply stopping.keeps (motive := fun after => before.documents.Revises after.documents) .kept
  · intro _
    exact revises_request _ _ _ _ .kept
  · intro asking revises
    exact revises_send _ _ revises
  · intro connection ending running parting
    exact .forgotten

section Naming

variable [BEq π] [DocumentName π]

theorem Tells.revises {documents after : DocumentStore} {message : Json}
    (tells : Tells documents after message) : documents.Revises after := by
  cases tells with
  | change changed => exact .changed changed
  | close closed => exact .closed closed
  | refusal id method => exact .kept

theorem Speech.revises (speech : Speech before after) :
    before.documents.Revises after.documents := by
  cases speech with
  | nothing calm => exact revises_of_eq calm.documents
  | @telling documents prepared message tells calm =>
      have noted : prepared.documents = documents := calm.documents
      exact revises_send prepared message (noted ▸ tells.revises)
  | asking begins => exact revises_request _ _ _ _ (revises_of_eq begins.quiet.documents)

end Naming

/-! ## Every move -/

variable {first last : Session Text}

theorem Plain.revises (plain : Plain first last) : first.documents.Revises last.documents := by
  cases plain.effect with
  | speech speech => exact speech.revises
  | surround now launcher settings => exact .kept
  | prepareWrites writes flushes => exact .kept
  | takeWritesAs writes flushes => exact .kept
  | deliver given => exact .kept
  | receive running => exact .kept
  | start starting => exact starting.revises
  | stop stopping => exact stopping.revises
  | serverExited running => exact .forgotten

theorem Hearing.revises (hearing : Hearing first last) :
    first.documents.Revises last.documents := by
  cases hearing with
  | plain plain => exact plain.revises
  | takeResponse message => exact revises_of_eq (responding first message).quiet.documents

/-- As long as nothing is opened, a path that a URI has is one that it had. -/
theorem pathAt?_of_hearings (hearings : Hearings first last) (inStep : first.InStep)
    {uri path : Text} (found : last.documents.pathAt? uri = some path) :
    first.documents.pathAt? uri = some path := by
  induction hearings with
  | refl => exact found
  | tail before next ih =>
      have kept := inStep_of_turns (turns_of_hearings before) inStep
      exact ih (next.revises.pathAt?_eq kept.keyed found)

/-- A path that a URI has once a document was to be opened is the path of that one, or it had
    it before. -/
theorem pathAt?_of_didOpen {session : Session Text} (inStep : session.InStep)
    {path text languageId uri other : Text}
    (found : (session.didOpen path text languageId).2.documents.pathAt? uri = some other) :
    uri = Uri.ofPath path ∧ other = path ∨ session.documents.pathAt? uri = some other := by
  have opens {params : Json} {documents : DocumentStore}
      (opened : session.documents.openDocument path text languageId = (some params, documents))
      (known : documents.pathAt? uri = some other) :
      uri = Uri.ofPath path ∧ other = path ∨ session.documents.pathAt? uri = some other := by
    rw [DocumentStore.pathAt?_openDocument opened] at known
    split at known
    · next same => exact .inl ⟨same, (Option.some.inj known).symm⟩
    · exact .inr known
  -- A message that did not come through leaves no document that could have a path.
  have told {documents : DocumentStore} {params : Json} {sent : Except Fault Bool}
      {next : Session Text}
      (outcome : { session with documents }.send
        (Message.notification "textDocument/didOpen" params) = (sent, next))
      (known : next.documents.pathAt? uri = some other) :
      documents.pathAt? uri = some other := by
    have either := documents_send { session with documents }
      (Message.notification "textDocument/didOpen" params)
    rw [outcome] at either
    rcases either with same | nothing
    · rw [same] at known
      exact known
    · rw [nothing] at known
      exact absurd known nofun
  have sentInStep {params : Json} {documents : DocumentStore} {next : Session Text}
      (running : session.isRunning = true)
      (opened : session.documents.openDocument path text languageId = (some params, documents))
      (sent : { session with documents }.send
        (Message.notification "textDocument/didOpen" params) = (.ok true, next)) :
      next.InStep := by
    have move := Move.openDocument running opened
    rw [notify, sent] at move
    exact move.inStep inStep
  have result := opening session path text languageId
  generalize session.didOpen path text languageId = outcome at result found
  cases result with
  | unsaid silent => exact .inr found
  | unsent running opened failed unsent => exact opens opened (told failed found)
  | unconfirmed running opened sent withheld =>
      have keyed := (sentInStep running opened sent).keyed
      exact opens opened (told sent ((revises_confirmHandshake _).pathAt?_eq keyed found))
  | @told params documents next running opened sent confirmed =>
      have inStep := sentInStep running opened sent
      have confirmed := (Move.confirmHandshake next).inStep inStep
      have asked := (requestSemanticTokens_speech next.confirmHandshake.2 path).revises
      exact opens opened (told sent ((revises_confirmHandshake next).pathAt?_eq inStep.keyed
        (asked.pathAt?_eq confirmed.keyed found)))

/-! ## Every URI once -/

theorem Move.once (move : Move first last) (once : first.documents.Once) :
    last.documents.Once := by
  cases move with
  | plain plain => exact plain.revises.once once
  | @openDocument path text languageId params documents running opened =>
      have noted : documents.Once := once.openDocument opened
      exact (revises_send { first with documents } _ .kept).once noted
  | confirmHandshake => exact (revises_confirmHandshake first).once once
  | takeResponse message =>
      exact (revises_of_eq (responding first message).quiet.documents).once once

theorem once_of_moves (moves : Moves first last) (once : first.documents.Once) :
    last.documents.Once :=
  keep_of_chain (@Move.once _) moves once

theorem Reachable.once {session : Session Text} (reachable : Reachable session) :
    session.documents.Once :=
  Reachable.induction (fun _ _ => DocumentStore.once_empty) (@Move.once _) reachable

end LanguageClient.Session
