import LanguageClient.Proofs.Document.Openness
import LanguageClient.Proofs.Session.InStep

/-! # Failures

The journal only grows. The host is told of a server that could not be started and of one that
was given up because it did not take a message, and a message that is withheld is kept in the
journal as well. Where nothing of the kind has happened, a session that runs a server has sent it
all that it had to send.
-/

namespace LanguageClient

/-- Whether the host is told that a start failed or that a message was not taken. -/
def isFailure (text : Text) : Bool :=
  text.startsWith "LSP start failed: " ||
    text == "LSP disabled: write to language server failed"

/-- What can go wrong, but for a start that is broken off. -/
inductive Failure where
  /-- The host was told of it. -/
  | reported (text : Text)
  | withheld (message : Json)

def JournalEntry.failure? {π : Type} : JournalEntry π → Option Failure
  | .event (.status text) => if isFailure text then some (.reported text) else none
  | .wrote _ message (.error _) => some (.withheld message)
  | _ => none

theorem isFailure_start (fault : StartFault) :
    isFailure ("LSP start failed: " ++ fault.message) = true := by
  rw [isFailure, Bool.or_eq_true, Text.startsWith_iff, Text.toList_append]
  exact .inl (List.prefix_append _ _)

namespace Session

variable {π : Type} {before middle after : Session π}

def failures (session : Session π) : List Failure :=
  session.view JournalEntry.failure?

/-- Nothing that has happened is taken back. -/
def Grows (before after : Session π) : Prop :=
  before.journal <:+ after.journal

/-- Nothing has failed. -/
def Unfailed (before after : Session π) : Prop :=
  after.failures = before.failures

/-! ## Growing -/

theorem Grows.refl (session : Session π) : Grows session session :=
  List.suffix_refl _

theorem Grows.trans (first : Grows before middle) (second : Grows middle after) :
    Grows before after :=
  List.IsSuffix.trans first second

theorem Grows.record (grows : Grows before after) (entry : JournalEntry π) :
    Grows before (after.record entry) :=
  grows.trans (List.suffix_cons entry _)

theorem Grows.emit (grows : Grows before after) (event : Event π) :
    Grows before (after.emit event) :=
  grows.record (.event event)

theorem Calm.grows (calm : Calm before after) : Grows before after := by
  obtain ⟨entries, journal, _⟩ := calm.journal
  exact ⟨entries, journal.symm⟩

theorem Grows.failures (grows : Grows before after) :
    ∃ later, after.failures = before.failures ++ later := by
  obtain ⟨entries, journal⟩ := grows
  refine ⟨entries.reverse.filterMap JournalEntry.failure?, ?_⟩
  rw [Session.failures, view, ← journal, List.reverse_append, List.filterMap_append]
  rfl

theorem Grows.length_le (grows : Grows before after) :
    before.journal.length ≤ after.journal.length :=
  List.IsSuffix.length_le grows

theorem Grows.writings (grows : Grows before after) : before.writings <+: after.writings := by
  obtain ⟨entries, journal⟩ := grows
  refine ⟨entries.reverse.filterMap JournalEntry.writing?, ?_⟩
  rw [Session.writings, Session.writings, ← journal, List.reverse_append, List.filterMap_append]

/-- Where nothing has failed as a whole nothing has in any part. -/
theorem Unfailed.parts (unfailed : Unfailed before after) (first : Grows before middle)
    (second : Grows middle after) : Unfailed before middle ∧ Unfailed middle after := by
  obtain ⟨earlier, isMiddle⟩ := first.failures
  obtain ⟨later, isAfter⟩ := second.failures
  have nothing : earlier ++ later = [] := by
    rw [Unfailed, isAfter, isMiddle, List.append_assoc] at unfailed
    exact List.append_right_eq_self.mp unfailed
  obtain ⟨noneEarlier, noneLater⟩ := List.append_eq_nil_iff.mp nothing
  rw [noneEarlier, List.append_nil] at isMiddle
  rw [noneLater, List.append_nil] at isAfter
  exact ⟨isMiddle, isAfter⟩

/-- A failure is not taken back. -/
theorem not_unfailed {entry : JournalEntry π} (failure : entry.failure? ≠ none)
    (first : Grows before middle) (second : Grows (middle.record entry) after) :
    ¬ Unfailed before after := by
  intro unfailed
  obtain ⟨failed, isFailed⟩ := Option.ne_none_iff_exists'.mp failure
  have told : Grows middle (middle.record entry) := (Grows.refl middle).record _
  obtain ⟨_, rest⟩ := unfailed.parts first (told.trans second)
  obtain ⟨same, _⟩ := rest.parts told second
  rw [Unfailed, failures, view_record, isFailed] at same
  exact absurd (List.append_right_eq_self.mp same) nofun

theorem failure_of_isFailure {text : Text} (failure : isFailure text = true) :
    JournalEntry.failure? (.event (.status text) : JournalEntry π) ≠ none := by
  rw [JournalEntry.failure?, if_pos failure]
  exact Option.some_ne_none _

theorem grows_said [Host] (session : Session π) (server : Nat) (message : Json)
    (taken : Except Fault (List UInt8)) : Grows session (session.said server message taken) :=
  (calm_logMessage session .outgoing message).grows.record _

theorem grows_disconnect (session : Session π) (timeout : Timeout) :
    Grows session (session.disconnect timeout) := by
  unfold disconnect
  split
  · exact .refl session
  · next connection _ =>
    have gone : Grows session { session with connection := none } := Grows.refl session
    exact gone.record _

theorem grows_disable (session : Session π) (reason : Text) :
    Grows session (session.disable reason) := by
  have reset : Grows session (session.disconnect .now).reset := grows_disconnect session .now
  exact (reset.emit _).emit _

variable [Host]

theorem grows_send (session : Session π) (message : Json) :
    Grows session (session.send message).2 := by
  have outcome := sending session message
  generalize session.send message = result at outcome ⊢
  cases outcome with
  | idle nobody => exact .refl session
  | whole rest flushes running framed => exact grows_said session _ message _
  | @part connection taken rest flushes running isPart =>
      have said : Grows session ((session.said connection.server message (.ok taken)).hold
          (connection.told false rest flushes)) := grows_said session _ message _
      exact said.trans (grows_disable _ _)
  | withheld fault running => exact grows_said session _ message _

theorem grows_request (session : Session π) (method : Text) (params : Json)
    (context : RequestContext π) : Grows session (session.request method params context).2 := by
  rw [request_snd]
  have noted : Grows session (session.noting context) := Grows.refl session
  exact noted.trans (grows_send _ _)

theorem Goodbye.grows {session ending : Session π} {server : Nat}
    (parting : Goodbye session server ending) : Grows session ending := by
  have leaving : Grows session session.leaving := Grows.refl session
  cases parting with
  | unsent isPart => exact leaving.trans (grows_said _ _ _ _)
  | sent framed isPart => exact (leaving.trans (grows_said _ _ _ _)).trans (grows_said _ _ _ _)

theorem Stopping.grows {session : Session π} {outcome : Except Fault Unit × Session π}
    (stopping : Stopping session outcome) : Grows session outcome.2 := by
  apply stopping.keeps (motive := Grows session) (.refl session)
  · intro _
    exact grows_request _ _ _ _
  · intro asking grows
    exact grows.trans (grows_send _ _)
  · intro connection ending running parting
    have ended : Grows session (ending.disconnect ending.shutdownTimeout).reset :=
      parting.grows.trans (grows_disconnect _ _)
    exact ended.emit .stopped

theorem grows_confirmHandshake (session : Session π) :
    Grows session session.confirmHandshake.2 := by
  have noted : Grows session
      { session with handshake := session.handshake.documentOpened.2 } := Grows.refl session
  simp only [confirmHandshake]
  split
  · exact noted.trans (grows_send _ _)
  · exact noted

omit [Host] in
theorem grows_asked (session : Session π) (command : Text) :
    Grows session (session.reset.record (.asked command)) :=
  List.suffix_cons _ session.journal

omit [Host] in
theorem grows_hosting (session : Session π) (command : Text) (process : ServerProcess) :
    Grows session (session.hosting command process) := by
  have asked : Grows session { session.reset.record (.asked command) with
      connection := some (session.freshConnection process), servers := session.servers + 1
      commandLine := process.commandLine } := grows_asked session command
  exact asked.emit .started

theorem Starting.grows {command : Text} {outcome : Except Fault Bool × Session π}
    (starting : Starting before command outcome) : Grows before outcome.2 := by
  cases starting with
  | running running => exact .refl before
  | failed nobody refused => exact (grows_asked before command).emit _
  | brokenOff nobody broken => exact grows_asked before command
  | @started process params nobody launched =>
      dsimp only
      rw [greeting]
      exact (grows_hosting before command process).trans (grows_request _ _ _ _)

section Naming

variable [BEq π] [DocumentName π]

theorem Begins.grows {prepared : Session π} {method : Text} {params : Json}
    {context : RequestContext π} (begins : Begins before prepared method params context) :
    Grows before prepared := by
  cases begins with
  | semanticTokens found => exact .refl before
  | hover found line col now => exact List.suffix_refl _
  | completion found line col now trigger triggerKind => exact List.suffix_refl _

theorem Speech.grows (speech : Speech before after) : Grows before after := by
  cases speech with
  | nothing calm => exact calm.grows
  | telling tells calm =>
      have prepared : Grows before _ := calm.grows
      exact prepared.trans (grows_send _ _)
  | asking begins => exact begins.grows.trans (grows_request _ _ _ _)

end Naming

omit [Host] in
theorem grows_changePeer (session : Session π) (change : Peer → Peer) :
    Grows session (session.changePeer change) := by
  unfold changePeer
  cases session.connection with
  | none => exact .refl session
  | some connection => exact List.suffix_refl _

theorem Plain.grows {before after : Session Text} (plain : Plain before after) :
    Grows before after := by
  cases plain.effect with
  | speech speech => exact speech.grows
  | surround now launcher settings => exact List.suffix_refl _
  | prepareWrites writes flushes => exact List.suffix_refl _
  | takeWritesAs writes flushes => exact grows_changePeer before _
  | deliver given => exact grows_changePeer before _
  | receive running => exact List.suffix_refl _
  | start starting => exact starting.grows
  | stop stopping => exact stopping.grows
  | serverExited running => exact grows_disable before _

omit [Host] in
theorem Responding.grows {before after : Session Text} {id : Json}
    (responding : Responding before id after) : Grows before after := by
  cases responding with
  | unknown unresolved => exact .refl before
  | calm resolved stale calm => exact calm.grows
  | ready resolved => exact List.suffix_cons _ _
  | hover resolved accepted => exact List.suffix_cons _ _
  | completion resolved accepted => exact List.suffix_cons _ _

theorem Move.grows {before after : Session Text} (move : Move before after) :
    Grows before after := by
  cases move with
  | plain plain => exact plain.grows
  | @openDocument path text languageId params documents running opened =>
      have noted : Grows before { before with documents } := Grows.refl before
      exact noted.trans (grows_send _ _)
  | confirmHandshake => exact grows_confirmHandshake before
  | takeResponse message => exact (responding before message).grows

theorem grows_of_moves {before after : Session Text} (moves : Moves before after) :
    Grows before after := by
  induction moves with
  | refl => exact .refl before
  | tail _ last ih => exact ih.trans last.grows

theorem grows_of_turns {before after : Session Text} (turns : Turns before after) :
    Grows before after :=
  grows_of_moves (moves_of_turns turns)

/-! ## What there is around -/

/-- The clock and the launcher are as they were. -/
structure Surrounded (before after : Session π) : Prop where
  now : after.now = before.now
  launcher : after.launcher = before.launcher

omit [Host] in
theorem Surrounded.refl (session : Session π) : Surrounded session session :=
  ⟨rfl, rfl⟩

omit [Host] in
theorem Surrounded.trans (first : Surrounded before middle) (second : Surrounded middle after) :
    Surrounded before after :=
  ⟨second.now.trans first.now, second.launcher.trans first.launcher⟩

omit [Host] in
theorem Calm.surrounded (calm : Calm before after) : Surrounded before after :=
  ⟨calm.now, calm.launcher⟩

omit [Host] in
theorem surrounded_disconnect (session : Session π) (timeout : Timeout) :
    Surrounded session (session.disconnect timeout) := by
  unfold disconnect
  split
  · exact .refl session
  · exact ⟨rfl, rfl⟩

/-- The session itself sets neither. -/
theorem surrounded_send (session : Session π) (message : Json) :
    Surrounded session (session.send message).2 := by
  have logged := (calm_logMessage session .outgoing message).surrounded
  have outcome := sending session message
  generalize session.send message = result at outcome ⊢
  cases outcome with
  | idle nobody => exact .refl session
  | whole rest flushes running framed => exact ⟨logged.now, logged.launcher⟩
  | @part connection taken rest flushes running isPart =>
      have ended := surrounded_disconnect ((session.said connection.server message
        (.ok taken)).hold (connection.told false rest flushes)) .now
      exact ⟨ended.now.trans logged.now, ended.launcher.trans logged.launcher⟩
  | withheld fault running => exact ⟨logged.now, logged.launcher⟩

theorem surrounded_request (session : Session π) (method : Text) (params : Json)
    (context : RequestContext π) :
    Surrounded session (session.request method params context).2 := by
  have noted : Surrounded session (session.noting context) := ⟨rfl, rfl⟩
  exact noted.trans (surrounded_send _ _)

theorem Goodbye.surrounded {session ending : Session π} {server : Nat}
    (parting : Goodbye session server ending) : Surrounded session ending := by
  have said (session : Session π) (message : Json) (taken : Except Fault (List UInt8)) :
      Surrounded session (session.said server message taken) := by
    have logged := (calm_logMessage session .outgoing message).surrounded
    exact ⟨logged.now, logged.launcher⟩
  have left : Surrounded session session.leaving := ⟨rfl, rfl⟩
  cases parting with
  | unsent isPart => exact left.trans (said _ _ _)
  | sent framed isPart => exact (left.trans (said _ _ _)).trans (said _ _ _)

theorem Stopping.surrounded {session : Session π} {outcome : Except Fault Unit × Session π}
    (stopping : Stopping session outcome) : Surrounded session outcome.2 := by
  apply stopping.keeps (motive := Surrounded session) (.refl session)
  · intro _
    exact surrounded_request session _ _ _
  · intro asking surrounded
    exact surrounded.trans (surrounded_send asking _)
  · intro connection ending running parting
    have ended := surrounded_disconnect ending ending.shutdownTimeout
    exact parting.surrounded.trans ⟨ended.now, ended.launcher⟩

section Naming

variable [BEq π] [DocumentName π]

theorem Begins.surrounded {prepared : Session π} {method : Text} {params : Json}
    {context : RequestContext π} (begins : Begins before prepared method params context) :
    Surrounded before prepared := by
  cases begins with
  | semanticTokens found => exact .refl before
  | hover found line col now => exact ⟨rfl, rfl⟩
  | completion found line col now trigger triggerKind => exact ⟨rfl, rfl⟩

theorem Speech.surrounded (speech : Speech before after) : Surrounded before after := by
  cases speech with
  | nothing calm => exact calm.surrounded
  | @telling documents prepared message tells calm =>
      have told : Surrounded before prepared := ⟨calm.now, calm.launcher⟩
      exact told.trans (surrounded_send prepared message)
  | asking begins => exact begins.surrounded.trans (surrounded_request _ _ _ _)

end Naming

/-! ## What went unfailed was sent -/

/-- A server still runs, and documents are as they were. -/
structure GoesOn (before after : Session π) : Prop where
  running : after.isRunning = true
  documents : after.documents = before.documents

omit [Host] in
theorem Calm.goesOn (calm : Calm before after) (running : before.isRunning = true) :
    GoesOn before after := by
  refine ⟨?_, calm.documents⟩
  rw [isRunning, calm.connection]
  exact running

theorem send_of_unfailed {session : Session π} (running : session.isRunning = true)
    {message : Json} (unfailed : Unfailed session (session.send message).2) :
    (session.send message).1 = .ok true ∧ GoesOn session (session.send message).2 := by
  have outcome := sending session message
  generalize session.send message = result at outcome unfailed ⊢
  cases outcome with
  | idle nobody => simp [isRunning, nobody] at running
  | whole rest flushes connected framed =>
      exact ⟨rfl, rfl, (calm_logMessage session .outgoing message).documents⟩
  | @part connection taken rest flushes connected isPart =>
      have said : Grows session ((session.said connection.server message (.ok taken)).hold
          (connection.told false rest flushes)) := grows_said session _ message _
      have given : Grows session (((session.said connection.server message (.ok taken)).hold
          (connection.told false rest flushes)).disconnect .now).reset :=
        said.trans (grows_disconnect _ .now)
      have reported : isFailure ("LSP disabled: " ++ "write to language server failed") = true := by
        decide
      exact absurd unfailed (not_unfailed (failure_of_isFailure reported) given
        ((Grows.refl _).emit .stopped))
  | @withheld connection fault connected =>
      have logged : Grows session (session.logMessage .outgoing message) :=
        (calm_logMessage session .outgoing message).grows
      have failure : JournalEntry.failure? (π := π)
          (.wrote connection.server message (.error fault)) ≠ none := Option.some_ne_none _
      exact absurd unfailed (not_unfailed failure logged (.refl _))

theorem request_of_unfailed {session : Session π} (running : session.isRunning = true)
    {method : Text} {params : Json} {context : RequestContext π}
    (unfailed : Unfailed session (session.request method params context).2) :
    (session.request method params context).1 = .ok session.requests.next ∧
      GoesOn session (session.request method params context).2 := by
  have outcome := @send_of_unfailed π _ (session.noting context) running _ unfailed
  rw [request_fst, outcome.1]
  exact ⟨rfl, outcome.2.running, outcome.2.documents⟩

theorem confirmHandshake_of_unfailed {session : Session π} (running : session.isRunning = true)
    (unfailed : Unfailed session session.confirmHandshake.2) :
    session.confirmHandshake.1 = .ok () ∧ GoesOn session session.confirmHandshake.2 := by
  simp only [confirmHandshake] at unfailed ⊢
  split at unfailed
  · next first =>
    rw [if_pos first]
    have noted : ({ session with handshake := session.handshake.documentOpened.2 } :
      Session π).isRunning = true := running
    obtain ⟨sent, on⟩ := send_of_unfailed noted unfailed
    exact ⟨congrArg (Except.map fun _ => ()) sent, on.running, on.documents⟩
  · next later =>
    rw [if_neg later]
    exact ⟨rfl, running, rfl⟩

/-- A stop in which nothing fails is gone through with. -/
theorem Stopping.ok_of_unfailed {outcome : Except Fault Unit × Session π}
    (stopping : Stopping before outcome) (unfailed : Unfailed before outcome.2) :
    outcome.1 = .ok () := by
  cases stopping with
  | idle nobody => rfl
  | stopped running parting => rfl
  | unasked running withheld =>
      exact absurd ((request_of_unfailed running unfailed).1.symm.trans withheld) nofun
  | unordered running asked withheld =>
      obtain ⟨first, second⟩ := unfailed.parts (grows_request _ _ _ _) (grows_send _ _)
      have on := (request_of_unfailed running first).2.running
      exact absurd ((send_of_unfailed on second).1.symm.trans withheld) nofun

/-- Running the program of a command breaks the start off. -/
def BreaksOff (session : Session π) (command : Text) : Prop :=
  ∃ fault child, session.launch command = .error (.brokenOff fault child)

omit [Host] in
theorem Surrounded.breaksOff_iff (surrounded : Surrounded before after) {command : Text} :
    after.BreaksOff command ↔ before.BreaksOff command := by
  unfold BreaksOff launch
  rw [surrounded.launcher]

/-- A start in which nothing fails leaves a server running: the one that ran already, or a new one
    that knows no documents. -/
theorem start_of_unfailed {session : Session π} {command root : Text}
    (launches : ¬ session.BreaksOff command)
    (unfailed : Unfailed session (session.start command root).2) :
    (session.start command root).1 = .ok true ∧ (session.start command root).2.isRunning = true ∧
      (session.isRunning = false → (session.start command root).2.documents = {}) := by
  have outcome := starting session command root
  generalize session.start command root = result at outcome unfailed ⊢
  cases outcome with
  | running running =>
      refine ⟨rfl, running, ?_⟩
      intro idle
      exact absurd running (Bool.eq_false_iff.mp idle)
  | @failed fault child nobody refused =>
      exact absurd unfailed (not_unfailed (failure_of_isFailure (isFailure_start fault))
        (grows_asked session command) (.refl _))
  | brokenOff nobody broken => exact absurd ⟨_, _, broken⟩ launches
  | @started process params nobody launched =>
      dsimp only at unfailed ⊢
      rw [greeting] at unfailed ⊢
      obtain ⟨_, greeted⟩ := unfailed.parts (grows_hosting session command process)
        (grows_request _ _ _ _)
      obtain ⟨number, on⟩ := request_of_unfailed rfl greeted
      have first : (session.hosting command process).requests.next = 1 := rfl
      rw [number, first]
      exact ⟨rfl, on.running, fun _ => on.documents⟩

/-- A message that was withheld shows as one. -/
theorem mem_of_withheld {message : Json} {fault : Fault}
    (withheld : (before.send message).1 = .error fault) :
    ∃ writing ∈ (before.send message).2.writings,
      writing.isWithheld = true ∧ writing.message = message := by
  have outcome := sending before message
  generalize before.send message = result at outcome withheld ⊢
  cases outcome with
  | idle nobody => cases withheld
  | whole rest flushes running framed => cases withheld
  | part rest flushes running isPart => cases withheld
  | @withheld connection fault running =>
      have written : ((before.said connection.server message (.error fault)).hold
          connection).writings =
            before.writings ++ [⟨connection.server, message, .error fault⟩] :=
        view_said blind_writing before connection.server message (.error fault)
      refine ⟨⟨connection.server, message, .error fault⟩, ?_, rfl, rfl⟩
      rw [written]
      exact List.mem_append_right _ (List.mem_singleton.mpr rfl)

section Naming

variable [BEq π] [DocumentName π]

theorem requestSemanticTokens_of_unfailed {session : Session π}
    (running : session.isRunning = true) {name : π}
    (unfailed : Unfailed session (session.requestSemanticTokens name).2) :
    (∃ number, (session.requestSemanticTokens name).1 = .ok number) ∧
      GoesOn session (session.requestSemanticTokens name).2 := by
  unfold requestSemanticTokens at unfailed ⊢
  split at unfailed
  · exact ⟨⟨0, rfl⟩, running, rfl⟩
  · obtain ⟨number, on⟩ := request_of_unfailed running unfailed
    exact ⟨⟨_, number⟩, on⟩

end Naming

theorem didOpen_of_unfailed {session : Session Text} {path : Text}
    (running : session.isRunning = true) (named : Uri.ofPath path ≠ "")
    (closed : session.documents.isOpen path = false) {text languageId : Text}
    (unfailed : Unfailed session (session.didOpen path text languageId).2) :
    (session.didOpen path text languageId).1 = .ok true ∧
      (session.didOpen path text languageId).2.isRunning = true ∧
      (session.didOpen path text languageId).2.documents.isOpen path = true := by
  obtain ⟨params, documents, opens⟩ :=
    DocumentStore.openDocument_of_closed named closed text languageId
  have isOpen := DocumentStore.isOpen_of_openDocument opens
  have told {sent : Except Fault Bool} {next : Session Text} (grows : Grows next (session.didOpen
        path text languageId).2) (outcome : { session with documents }.send
        (Message.notification "textDocument/didOpen" params) = (sent, next)) :
      sent = .ok true ∧ GoesOn { session with documents } next ∧
        Unfailed next (session.didOpen path text languageId).2 := by
    have sends := grows_send { session with documents }
      (Message.notification "textDocument/didOpen" params)
    have spoken := @send_of_unfailed _ _ { session with documents } running
      (Message.notification "textDocument/didOpen" params)
    rw [outcome] at sends spoken
    obtain ⟨first, rest⟩ := unfailed.parts sends grows
    exact ⟨(spoken first).1, (spoken first).2, rest⟩
  have outcome := opening session path text languageId
  generalize session.didOpen path text languageId = result at outcome unfailed told ⊢
  cases outcome with
  | unsaid silent =>
      rcases silent with idle | refused
      · exact absurd (idle.symm.trans running) Bool.false_ne_true
      · exact absurd (refused.symm.trans (congrArg Prod.fst opens)) nofun
  | unsent _ opened failed unsent =>
      obtain ⟨⟨⟩, rfl⟩ := Prod.mk.inj (opens.symm.trans opened)
      exact absurd (told (.refl _) failed).1 unsent
  | @unconfirmed _ _ next fault _ opened sent withheld =>
      obtain ⟨⟨⟩, rfl⟩ := Prod.mk.inj (opens.symm.trans opened)
      obtain ⟨_, on, rest⟩ := told (grows_confirmHandshake next) sent
      exact absurd ((confirmHandshake_of_unfailed on.running rest).1.symm.trans withheld) nofun
  | @told _ _ next _ opened sent confirmed =>
      obtain ⟨⟨⟩, rfl⟩ := Prod.mk.inj (opens.symm.trans opened)
      have confirms := grows_confirmHandshake next
      have asks : Grows next.confirmHandshake.2
          (next.confirmHandshake.2.requestSemanticTokens path).2 :=
        (requestSemanticTokens_speech _ path).grows
      obtain ⟨_, on, rest⟩ := told (confirms.trans asks) sent
      obtain ⟨second, third⟩ := rest.parts confirms asks
      have confirmed := (confirmHandshake_of_unfailed on.running second).2
      obtain ⟨⟨number, isNumber⟩, asked⟩ :=
        requestSemanticTokens_of_unfailed confirmed.running third
      refine ⟨congrArg (Except.map fun _ => true) isNumber, asked.running, ?_⟩
      rw [asked.documents, confirmed.documents, on.documents]
      exact isOpen

theorem didClose_of_unfailed {session : Session Text} {path : Text}
    (unfailed : Unfailed session (session.didClose path).2) :
    ∃ told, (session.didClose path).1 = .ok told := by
  cases known : session.document? path with
  | none => exact ⟨false, congrArg Prod.fst (didClose_of_unknown known)⟩
  | some document =>
      obtain ⟨refresh, same⟩ := didClose_eq_send known
      have cleared := calm_clearHoverOn { session with
        documents := session.documents.set { document with isOpen := false }, refresh } path
      have grows : Grows session _ := cleared.grows
      rw [same] at unfailed ⊢
      have rest := (unfailed.parts grows (grows_send _ _)).2
      have running := isRunning_of_document? known
      exact ⟨true, (send_of_unfailed (cleared.goesOn running).running rest).1⟩

omit [Host] in
theorem noteChange_ok {session : Session Text} {now : Int}
    (clock : session.now.milliseconds = .ok now) (path : Text) :
    ∃ next, session.noteChange path = .ok next := by
  unfold noteChange
  rw [clock]
  exact ⟨_, rfl⟩

theorem didChange_of_unfailed {session : Session Text} {path text : Text} {now : Int}
    (running : session.isRunning = true) (keyed : session.documents.Keyed)
    (clock : session.now.milliseconds = .ok now) (isOpen : session.documents.isOpen path = true)
    (unfailed : Unfailed session (session.didChange path text).2) :
    (∃ version, (session.didChange path text).1 = .ok version) ∧
      (session.didChange path text).2.isRunning = true ∧
      (session.didChange path text).2.documents.isOpen path = true := by
  obtain ⟨document, params, documents, changes⟩ := DocumentStore.change_of_isOpen isOpen text
  have stays := DocumentStore.isOpen_of_change keyed changes
  have told {sent : Except Fault Bool} {next : Session Text} (grows : Grows next (session.didChange
        path text).2) (outcome : { session with documents }.send
        (Message.notification "textDocument/didChange" params) = (sent, next)) :
      sent = .ok true ∧ GoesOn { session with documents } next ∧ next.now = session.now := by
    have sends := grows_send { session with documents }
      (Message.notification "textDocument/didChange" params)
    have spoken := @send_of_unfailed _ _ { session with documents } running
      (Message.notification "textDocument/didChange" params)
    have shows := (surrounded_send { session with documents }
      (Message.notification "textDocument/didChange" params)).now
    rw [outcome] at sends spoken shows
    have first := (unfailed.parts sends grows).1
    exact ⟨(spoken first).1, (spoken first).2, shows⟩
  have outcome := changing session path text
  generalize session.didChange path text = result at outcome unfailed told ⊢
  cases outcome with
  | unsaid silent =>
      rcases silent with idle | refused
      · exact absurd (idle.symm.trans running) Bool.false_ne_true
      · exact absurd (refused.symm.trans (congrArg Prod.fst changes)) nofun
  | unsent _ changed failed unsent =>
      obtain ⟨⟨⟩, rfl⟩ := Prod.mk.inj (changes.symm.trans changed)
      exact absurd (told (.refl _) failed).1 unsent
  | @unnoted _ _ _ next fault _ changed sent refused =>
      obtain ⟨⟨⟩, rfl⟩ := Prod.mk.inj (changes.symm.trans changed)
      have shows := (told (.refl _) sent).2.2
      obtain ⟨last, noted⟩ := noteChange_ok ((congrArg Moment.milliseconds shows).trans clock) path
      exact absurd (noted.symm.trans refused) nofun
  | @told _ _ _ next last _ changed sent noted =>
      obtain ⟨⟨⟩, rfl⟩ := Prod.mk.inj (changes.symm.trans changed)
      have calm := calm_noteChange noted
      have on := (told calm.grows sent).2.1
      refine ⟨⟨_, rfl⟩, (calm.goesOn on.running).running, ?_⟩
      rw [calm.documents, on.documents]
      exact stays

end Session

end LanguageClient
