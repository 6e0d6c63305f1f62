import LanguageClient.Proofs.Document.Openness
import LanguageClient.Proofs.Session.InStep

/-! # Which documents a session has open

A session has documents open only while it runs a server, whatever it takes or is called for.
Nothing that is said to the server opens one, and a document that was closed is open no more,
whether or not the server could be told.
-/

namespace LanguageClient.Session

variable {π : Type} {before after : Session π}

/-- Without a server no documents are known. -/
def Backed (session : Session π) : Prop :=
  session.isRunning = false → session.documents = {}

theorem backed_of_running {session : Session π} (running : session.isRunning = true) :
    session.Backed :=
  fun idle => absurd running (Bool.eq_false_iff.mp idle)

theorem backed_of_empty {session : Session π} (empty : session.documents = {}) :
    session.Backed :=
  fun _ => empty

theorem Backed.isRunning [Places] {session : Session π} (backed : session.Backed) {path : Text}
    (isOpen : session.documents.isOpen path = true) : session.isRunning = true := by
  by_contra idle
  rw [backed (Bool.eq_false_iff.mpr idle)] at isOpen
  exact absurd isOpen nofun

theorem Backed.same (backed : before.Backed) (running : after.isRunning = before.isRunning)
    (documents : after.documents = before.documents) : after.Backed := by
  intro idle
  rw [documents]
  exact backed (running ▸ idle)

theorem Quiet.isRunning (quiet : Quiet before after) : after.isRunning = before.isRunning :=
  congrArg Option.isSome quiet.connection

theorem Backed.quiet (backed : before.Backed) (quiet : Quiet before after) : after.Backed :=
  backed.same quiet.isRunning quiet.documents

theorem isRunning_changePeer (session : Session π) (change : Peer → Peer) :
    (session.changePeer change).isRunning = session.isRunning := by
  unfold changePeer isRunning
  cases session.connection with
  | none => rfl
  | some connection => rfl

/-! ## What is said -/

variable [Host]

theorem within_send (session : Session π) (message : Json) :
    (session.send message).2.documents.Within session.documents := by
  have outcome := sending session message
  generalize session.send message = result at outcome ⊢
  cases outcome with
  | idle nobody => exact .refl _
  | @whole connection frame rest flushes running framed =>
      exact DocumentStore.within_of_eq
        (documents_said session connection.server message (.ok frame))
  | part rest flushes running isPart => exact DocumentStore.within_empty _
  | @withheld connection fault running =>
      exact DocumentStore.within_of_eq
        (documents_said session connection.server message (.error fault))

theorem Backed.send {session : Session π} (backed : session.Backed) (message : Json) :
    (session.send message).2.Backed := by
  have outcome := sending session message
  generalize session.send message = result at outcome ⊢
  cases outcome with
  | idle nobody => exact backed
  | whole rest flushes running framed => exact backed_of_running rfl
  | part rest flushes running isPart => exact backed_of_empty rfl
  | withheld fault running => exact backed_of_running rfl

theorem Backed.request {session : Session π} (backed : session.Backed) (method : Text)
    (params : Json) (context : RequestContext π) :
    (session.request method params context).2.Backed :=
  @Backed.send π _ (session.noting context) backed
    (Message.request session.requests.next method params)

theorem Backed.confirmHandshake {session : Session π} (backed : session.Backed) :
    session.confirmHandshake.2.Backed := by
  have noted : ({ session with handshake := session.handshake.documentOpened.2 } :
    Session π).Backed := backed
  simp only [Session.confirmHandshake]
  split
  · exact noted.send _
  · exact noted

theorem Starting.backed {command : Text} {outcome : Except Fault Bool × Session π}
    (starting : Starting before command outcome) (backed : before.Backed) :
    outcome.2.Backed := by
  cases starting with
  | running running => exact backed
  | failed nobody refused => exact backed_of_empty rfl
  | brokenOff nobody broken => exact backed_of_empty rfl
  | @started process params nobody launched =>
      have welcome : (before.hosting command process).Backed := backed_of_running rfl
      dsimp only
      rw [greeting]
      exact welcome.request _ _ _

theorem Stopping.backed {outcome : Except Fault Unit × Session π}
    (stopping : Stopping before outcome) (backed : before.Backed) : outcome.2.Backed := by
  apply stopping.keeps backed
  · intro _
    exact backed.request _ _ _
  · intro asking backed
    exact backed.send _
  · intro connection ending running parting
    exact backed_of_empty rfl

/-- A stop that is gone through with leaves no server, and no documents. -/
theorem Stopping.documents (stopping : Stopping before (.ok (), after))
    (backed : before.Backed) : after.isRunning = false ∧ after.documents = {} := by
  cases stopping with
  | idle nobody =>
      have idle := congrArg Option.isSome nobody
      exact ⟨idle, backed idle⟩
  | stopped running parting => exact ⟨congrArg Option.isSome (stopped_connection _ _), rfl⟩

section Naming

variable [BEq π] [DocumentName π]

/-- Where no documents are known, nothing is told of them. -/
theorem Tells.of_empty {after : DocumentStore} {message : Json}
    (tells : Tells {} after message) : after = {} := by
  cases tells with
  | change changed =>
      obtain ⟨document, found, _⟩ := DocumentStore.change_eq_some changed
      exact absurd found nofun
  | close closed =>
      obtain ⟨document, found, _⟩ := DocumentStore.close_eq_some closed
      exact absurd found nofun
  | refusal id method => rfl

theorem Speech.backed (speech : Speech before after) (backed : before.Backed) :
    after.Backed := by
  cases speech with
  | nothing calm => exact backed.quiet calm.quiet
  | @telling documents prepared message tells calm =>
      have ready : prepared.Backed := by
        intro idle
        have nobody : before.isRunning = false := calm.quiet.isRunning.symm.trans idle
        rw [backed nobody] at tells
        exact calm.documents.trans tells.of_empty
      exact ready.send message
  | asking begins => exact (backed.quiet begins.quiet).request _ _ _

end Naming

/-! ## Every move -/

variable {first last : Session Text}

theorem Plain.backed (plain : Plain first last) (backed : first.Backed) : last.Backed := by
  cases plain.effect with
  | speech speech => exact speech.backed backed
  | surround now launcher settings => exact backed.same rfl rfl
  | prepareWrites writes flushes => exact backed.same rfl rfl
  | takeWritesAs writes flushes => exact backed.same (isRunning_changePeer first _) rfl
  | deliver given => exact backed.same (isRunning_changePeer first _) rfl
  | receive running => exact backed_of_running rfl
  | start starting => exact starting.backed backed
  | stop stopping => exact stopping.backed backed
  | serverExited running => exact backed_of_empty rfl

theorem Move.backed (move : Move first last) (backed : first.Backed) : last.Backed := by
  cases move with
  | plain plain => exact plain.backed backed
  | @openDocument path text languageId params documents running opened =>
      have told : ({ first with documents } : Session Text).Backed := backed_of_running running
      exact told.send _
  | confirmHandshake => exact backed.confirmHandshake
  | takeResponse message => exact backed.quiet (responding first message).quiet

theorem inStep_of_turns (turns : Turns first last) (inStep : first.InStep) : last.InStep :=
  keep_of_chain (@Move.inStep _) (moves_of_turns turns) inStep

theorem backed_of_turns (turns : Turns first last) (backed : first.Backed) : last.Backed :=
  keep_of_chain (@Move.backed _) (moves_of_turns turns) backed

/-! ## Opening and closing -/

/-- A document that is open is not opened again. -/
theorem didOpen_of_isOpen {session : Session Text} {path : Text}
    (isOpen : session.documents.isOpen path = true) (text languageId : Text) :
    session.didOpen path text languageId = (.ok false, session) := by
  have known : session.documents.openDocument (DocumentName.pathToOpen path) text languageId =
    (none, session.documents) := DocumentStore.openDocument_of_isOpen isOpen text languageId
  unfold didOpen
  split
  · rfl
  · rw [known]

theorem isOpen_of_didClose {session : Session Text} (keyed : session.documents.Keyed)
    (backed : session.Backed) (path : Text) :
    (session.didClose path).2.documents.isOpen path = false := by
  cases known : session.document? path with
  | none =>
      rw [didClose_of_unknown known]
      dsimp only
      cases running : session.isRunning with
      | false =>
          rw [backed running]
          rfl
      | true =>
          rw [document?, if_pos running] at known
          exact (congrArg Option.isSome known).trans rfl
  | some document =>
      obtain ⟨params, documents, prepared, closed, calm, same⟩ := didClose_of_known known
      have gone := DocumentStore.isOpen_of_close keyed closed
      rw [← Bool.not_eq_true] at gone ⊢
      intro isOpen
      rw [same] at isOpen
      have told := within_send prepared _ (Uri.ofPath path) isOpen
      rw [calm.documents] at told
      exact gone told

end LanguageClient.Session
