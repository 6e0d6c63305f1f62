import LanguageClient.Proofs.Session.Success
import LanguageClient.Proofs.Workspace.Steady

/-! # Texts that are handed over

Where servers are steady, a text that a workspace takes with success is the text that the session
has of the file, and the one that the server was sent last. That holds of a file that is opened,
of one that another editor shows already, and of a change. An editor that is to show the file
that it shows already gets a success as well, but then nothing is done with the text.
-/

namespace LanguageClient

/-- What is told of the text of a document: that it has one, or that it is closed. -/
def Telling.textOf? (uri : Text) : Telling → Option (Option Text)
  | .opens other copy => if other = uri then some (some copy.text) else none
  | .changes other _ text => if other = uri then some (some text) else none
  | .closes other => if other = uri then some none else none
  | .asks _ => none
  | .nothing => none

/-- The text of a document as messages tell of it last. -/
def lastTextOf? (uri : Text) (messages : List Json) : Option Text :=
  (messages.filterMap fun message =>
    (Telling.ofMessage? message).bind (Telling.textOf? uri)).getLast?.join

theorem lastTextOf?_append {uri text : Text} {messages : List Json}
    (last : lastTextOf? uri messages = some text) (earlier : List Json) :
    lastTextOf? uri (earlier ++ messages) = some text := by
  rw [lastTextOf?, Option.join_eq_some_iff] at last ⊢
  rw [List.filterMap_append, List.getLast?_append, last]
  rfl

theorem lastTextOf?_change (document : Document) :
    lastTextOf? document.uri [Message.notification "textDocument/didChange"
      (DocumentStore.changeParams document)] = some document.text := by
  have told : Telling.textOf? document.uri
      (.changes document.uri document.version document.text) = some (some document.text) :=
    if_pos rfl
  have read : Telling.ofMessage? (Message.notification "textDocument/didChange"
      (DocumentStore.changeParams document)) =
        some (.changes document.uri document.version document.text) := rfl
  rw [lastTextOf?, List.filterMap_cons, read, Option.bind_some, told]
  rfl

/-- What is said behind the opening of a document lets its text be. -/
theorem lastTextOf?_open (document : Document) {behind : List Json}
    (silent : ∀ message ∈ behind,
      (Telling.ofMessage? message).bind (Telling.textOf? document.uri) = none) :
    lastTextOf? document.uri (Message.notification "textDocument/didOpen"
      (DocumentStore.openParams document) :: behind) = some document.text := by
  have told : Telling.textOf? document.uri (.opens document.uri (.ofDocument document)) =
      some (some document.text) := if_pos rfl
  have read : Telling.ofMessage? (Message.notification "textDocument/didOpen"
      (DocumentStore.openParams document)) =
        some (.opens document.uri (.ofDocument document)) := rfl
  rw [lastTextOf?, List.filterMap_cons, read, Option.bind_some, told,
    List.filterMap_eq_nil_iff.mpr silent]
  rfl

namespace Session

variable {session before after : Session Text} {path text : Text} [Host]

/-! ## Steady servers stay steady -/

theorem Speech.steady (speech : Speech before after) (steady : before.Steady) : after.Steady := by
  cases speech with
  | nothing calm => exact (calm.lasts steady).steady
  | @telling documents prepared message tells calm =>
      have noted : ({ before with documents } : Session Text).Steady := steady.same rfl rfl
      exact (lasts_send (calm.lasts noted).steady message).steady
  | asking begins => exact (begins.lasts steady).steady

theorem Steady.told (steady : session.Steady) {documents : DocumentStore} {message : Json}
    {sent : Except Fault Bool}
    (outcome : { session with documents }.send message = (sent, after)) : after.Steady := by
  have noted : ({ session with documents } : Session Text).Steady := steady.same rfl rfl
  have lasts := lasts_send noted message
  rw [outcome] at lasts
  exact lasts.steady

theorem Steady.didChange (steady : session.Steady) (path text : Text) :
    (session.didChange path text).2.Steady := by
  have outcome := changing session path text
  generalize session.didChange path text = result at outcome ⊢
  cases outcome with
  | unsaid silent => exact steady
  | unsent running changed failed unsent => exact steady.told failed
  | unnoted running changed sent refused => exact steady.told sent
  | told running changed sent noted =>
      exact ((calm_noteChange noted).lasts (steady.told sent)).steady

theorem Steady.didOpen (steady : session.Steady) (path text languageId : Text) :
    (session.didOpen path text languageId).2.Steady := by
  have outcome := opening session path text languageId
  generalize session.didOpen path text languageId = result at outcome ⊢
  cases outcome with
  | unsaid silent => exact steady
  | unsent running opened failed unsent => exact steady.told failed
  | unconfirmed running opened sent withheld =>
      exact (lasts_confirmHandshake (steady.told sent)).steady
  | told running opened sent confirmed =>
      have ready := (lasts_confirmHandshake (steady.told sent)).steady
      exact (lasts_requestSemanticTokens ready path).steady

/-! ## What the session has and the server was sent -/

/-- A server runs, and the document at the path is open with this text. -/
structure Tracks (session : Session Text) (path text : Text) : Prop where
  running : session.isRunning = true
  found : ∃ document, session.documents.get? path = some document ∧ document.text = text

/-- The session has this text of the document at the path, and it is the last that was sent of the
    document to the server that runs. If nothing was withheld from the server, what it was sent are
    whole frames of messages that leave it with a copy that has the text. -/
structure Handed (session : Session Text) (path text : Text) : Prop where
  tracked : session.Tracks path text
  sent : ∃ connection, session.connection = some connection ∧
    lastTextOf? (Uri.ofPath path) (session.framesTo connection.server) = some text ∧
    (session.CandidTo connection.server →
      session.bytesTo connection.server =
          (session.framesTo connection.server).flatMap Transport.frameOf ∧
        ∃ mirror copy, Mirror.replay? (session.framesTo connection.server) = some mirror ∧
          Table.get? mirror (Uri.ofPath path) = some copy ∧ copy.text = text)

theorem Conveys.frames {server : Nat} {messages : List Json}
    (conveys : Conveys server before messages after) :
    after.framesTo server = before.framesTo server ++ messages := by
  have own : (messages.map (Writing.whole server)).filter (·.server == server) =
      messages.map (Writing.whole server) := by
    apply List.filter_eq_self.mpr
    intro writing member
    obtain ⟨message, _, rfl⟩ := List.mem_map.mp member
    exact beq_self_eq_true server
  have whole : ∀ writing ∈ messages.map (Writing.whole server), writing.isWhole = true := by
    intro writing member
    obtain ⟨message, asked, rfl⟩ := List.mem_map.mp member
    have framed := conveys.framed message asked
    rw [Writing.isWhole, Writing.whole, framed, decide_eq_true rfl]
    rfl
  have all : framesIn (messages.map (Writing.whole server)) = messages := by
    rw [framesIn_of_whole whole, List.map_map]
    exact List.map_id messages
  rw [framesTo, writingsTo, conveys.written, List.filter_append, own, framesIn,
    List.filter_append, List.map_append]
  exact congrArg _ all

/-- What a call has told of a document last is what the server has of it. -/
theorem Tracks.handed {server : Nat} {messages : List Json} (tracks : after.Tracks path text)
    (inStep : after.InStep) (conveys : Conveys server before messages after)
    (last : lastTextOf? (Uri.ofPath path) messages = some text) : after.Handed path text := by
  obtain ⟨connection, connected⟩ := Option.isSome_iff_exists.mp tracks.running
  have current := talk_of_connection connected
  obtain rfl : server = connection.server := Option.some.inj (conveys.running.symm.trans current)
  refine ⟨tracks, connection, connected, ?_, fun candid => ?_⟩
  · rw [conveys.frames]
    exact lastTextOf?_append last _
  · obtain ⟨document, found, isText⟩ := tracks.found
    have told := inStep.told connection.server current
    obtain ⟨mirror, replayed, reflects⟩ := told.copied
    refine ⟨bytes_of_whole (told.whole candid), mirror, .ofDocument document, ?_, ?_, isText⟩
    · rw [inStep.frames current candid]
      exact replayed
    · rw [reflects]
      exact congrArg (Option.map Copy.ofDocument) found

theorem Tracks.of_lasts {documents : DocumentStore} {document : Document}
    (running : before.isRunning = true) (found : documents.get? path = some document)
    (isText : document.text = text) (lasts : Lasts { before with documents } after) :
    after.Tracks path text where
  running := lasts.isRunning.trans running
  found := ⟨document, by rw [lasts.documents]; exact found, isText⟩

omit [Host] in
theorem silent_behind_open {uri : Text} {number : Nat} {message : Json}
    (behind : message ∈ session.readiness ++ [tokensRequest number uri]) :
    (Telling.ofMessage? message).bind (Telling.textOf? uri) = none := by
  rcases List.mem_append.mp behind with ready | asks
  · unfold readiness at ready
    split at ready
    · exact absurd ready List.not_mem_nil
    · rw [List.mem_singleton.mp ready]
      rfl
  · rw [List.mem_singleton.mp asks]
    rfl

/-- The text of a change that gives a version, or that is about a document that is open. -/
theorem handed_of_didChange (steady : session.Steady) (inStep : session.InStep)
    (inStepBehind : (session.didChange path text).2.InStep) {version : Int}
    (succeeds : (session.didChange path text).1 = .ok version)
    (told : 0 < version ∨
      session.isRunning = true ∧ session.documents.isOpen path = true) :
    (session.didChange path text).2.Handed path text := by
  have outcome := changing session path text
  have lasts (running : session.isRunning = true) :=
    @lasts_didChange Text session _ _ _ steady running path text
  generalize session.didChange path text = result at outcome succeeds inStepBehind lasts ⊢
  cases outcome with
  | unsaid silent =>
      rcases told with positive | ⟨running, isOpen⟩
      · cases succeeds
        omega
      · obtain ⟨document, params, documents, changed⟩ :=
          DocumentStore.change_of_isOpen isOpen text
        rcases silent with idle | nothing
        · exact absurd running (Bool.eq_false_iff.mp idle)
        · exact absurd ((congrArg Prod.fst changed).symm.trans nothing) nofun
  | @unsent document params documents sent next running changed failed unsent =>
      obtain ⟨took, rfl, isVersion⟩ := ok_of_map succeeds
      have noted : ({ session with documents } : Session Text).Steady := steady.same rfl rfl
      have takes := (send_of_steady noted running
        (Message.notification "textDocument/didChange" params)).1
      rw [failed] at takes
      cases took with
      | true => exact absurd rfl unsent
      | false => exact absurd rfl takes
  | unnoted running changed sent refused => exact absurd succeeds nofun
  | @told changed params documents next last running isChange sent noted =>
      have isChange : session.documents.change path text = (some (changed, params), documents) :=
        isChange
      obtain ⟨document, was, isChanged, isParams, _⟩ := DocumentStore.change_eq_some isChange
      obtain ⟨found, isText⟩ := DocumentStore.get?_of_change inStep.keyed isChange
      obtain ⟨server, _, conveys, _⟩ := conveys_of_send (congrArg Prod.fst sent)
      rw [sent] at conveys
      have tracks : last.Tracks path text := .of_lasts running found isText (lasts running isChange)
      have conveyed : Conveys server session _ last :=
        conveys.along rfl (calm_noteChange noted).quiet.talk
      have own : document.uri = Uri.ofPath path := inStep.keyed.uri_eq was
      have isUri : changed.uri = Uri.ofPath path := by rw [isChanged, ← own]
      refine tracks.handed inStepBehind conveyed ?_
      rw [isParams, ← isUri, ← isText]
      exact lastTextOf?_change changed

theorem handed_of_didOpen (steady : session.Steady) {languageId : Text}
    (inStepBehind : (session.didOpen path text languageId).2.InStep)
    (succeeds : (session.didOpen path text languageId).1 = .ok true) :
    (session.didOpen path text languageId).2.Handed path text := by
  have tracks : (session.didOpen path text languageId).2.Tracks path text := by
    have outcome := opening session path text languageId
    have lasts (running : session.isRunning = true) :=
      @lasts_didOpen Text session _ _ _ steady running path text languageId
    generalize session.didOpen path text languageId = result at outcome succeeds lasts ⊢
    cases outcome with
    | unsaid silent => exact absurd succeeds nofun
    | unsent running opened failed unsent => exact absurd succeeds unsent
    | unconfirmed running opened sent withheld => exact absurd succeeds nofun
    | told running opened sent confirmed =>
        exact .of_lasts running (DocumentStore.get?_of_openDocument opened) rfl
          (lasts running opened)
  obtain ⟨messages, owes, kept | broken⟩ := kept_or_broken_of_didOpen succeeds
  · obtain ⟨server, conveys⟩ := kept.conveyed
    cases owes with
    | didOpen closed _ _ =>
        exact tracks.handed inStepBehind conveys
          (lastTextOf?_open (.opened path text languageId) fun _ => silent_behind_open)
  · obtain ⟨_, _, _, _, _, _, broke⟩ := broken.broke
    exact absurd tracks.running (Bool.eq_false_iff.mp broke.idle)

end Session

namespace Workspace

open Session (Handed start_of_steady steady_fresh lasts_requestCompletion handed_of_didChange
  handed_of_didOpen)

variable {workspace next : Workspace Text} {key editor path text : Text} [Host]

/-! ## Runs without trouble -/

/-- No write fails through the action and no server closes its output. -/
def Action.isUntroubled : Action → Bool
  | .around action _ => action.isSteady
  | _ => true

/-- The workspaces that runs with steady servers lead to, whatever the paths are spelled like.
    `Undisturbed` runs are those of them in which no path has blanks at its ends. -/
inductive Untroubled : Workspace Text → Prop where
  | fresh (processId : Int) (folder root : Text) (languages : Languages) :
      Untroubled { session := { processId, folder }, languages, root }
  | perform {workspace : Workspace Text} (before : Untroubled workspace) (action : Action)
      (steady : action.isUntroubled = true) : Untroubled (workspace.perform action)

theorem Untroubled.reachable (untroubled : Untroubled workspace) : Reachable workspace := by
  induction untroubled with
  | fresh processId folder root languages => exact .fresh processId folder root languages
  | perform _ action _ reachable => exact reachable.perform action

theorem steady_letGo (steady : workspace.session.Steady) : workspace.letGo.session.Steady :=
  (lasts_clearDiagnosticsOf steady _).steady.stop

theorem steady_startServer (steady : workspace.session.Steady)
    (idle : workspace.session.isRunning = false) (command : Text) :
    (workspace.startServer command).2.session.Steady := by
  rw [startServer_session]
  exact (start_of_steady steady idle command workspace.root).steady

theorem Ensuring.steady {command : Text} {outcome : Except Fault Bool × Workspace Text}
    (ensuring : Ensuring workspace command outcome) (steady : workspace.session.Steady)
    (backed : workspace.session.Backed) : outcome.2.session.Steady := by
  cases ensuring with
  | kept running same => exact steady
  | launched idle => exact steady_startServer steady idle command
  | unleft running other unstopped => exact steady_letGo steady
  | switched running other stopped =>
      exact steady_startServer (steady_letGo steady) (letGo_idle backed stopped).1 command

theorem Detaching.steady {outcome : Except Fault Unit × Workspace Text}
    (detaching : Detaching workspace editor outcome) (steady : workspace.session.Steady) :
    outcome.2.session.Steady := by
  cases detaching with
  | unknown absent => exact steady
  | hidden found others => exact steady
  | @unclosed path fault found last withheld =>
      exact (Session.didClose_speech workspace.session path).steady steady
  | @closed path found last =>
      have closed := (Session.didClose_speech workspace.session path).steady steady
      exact (lasts_publish closed path []).steady

theorem steady_place (steady : workspace.session.Steady) (key path text : Text)
    (language : Language) : (workspace.place key path text language).2.session.Steady := by
  simp only [place]
  split
  · exact steady.didChange path text
  · exact steady.didOpen path text language.name

theorem steady_attach (steady : workspace.session.Steady) (sound : workspace.Sound)
    (editor path text : Text) : (workspace.attach editor path text).2.session.Steady := by
  have hides := detaching workspace editor
  have hidden := hides.steady steady
  have outcome := attaching workspace editor path text
  generalize workspace.attach editor path text = result at outcome ⊢
  cases outcome with
  | nameless blank => exact steady
  | again known => exact steady
  | unhidden other stuck => exact hidden
  | anew other _ =>
      have backed := (hides.sound sound).backed
      have outcome := showing (workspace.detach editor).2 (Text.strip editor) path text
      generalize (workspace.detach editor).2.showNew (Text.strip editor) path text = shown
        at outcome ⊢
      cases outcome with
      | unserved => exact hidden
      | refused ensuring unserved => exact ensuring.steady hidden backed
      | placed spoken served ensuring =>
          exact steady_place (ensuring.steady hidden backed) _ path text _

theorem Relaying.steady {session : Session Text} (relaying : Relaying workspace session)
    (steady : workspace.session.Steady) : session.Steady := by
  cases relaying with
  | withheld => exact steady
  | didChange shown text => exact steady.didChange _ text
  | scheduleHover target => exact ((Session.calm_scheduleHover _ target).lasts steady).steady
  | clearHover => exact ((Session.calm_clearHover _).lasts steady).steady
  | requestCompletion path line col trigger triggerKind =>
      exact (lasts_requestCompletion steady path line col trigger triggerKind).steady

theorem Untroubled.steady (untroubled : Untroubled workspace) : workspace.session.Steady := by
  induction untroubled with
  | fresh processId folder root languages => exact steady_fresh processId folder
  | @perform workspace before action isUntroubled steady =>
      have outcome := performing workspace action
      generalize workspace.perform action = next at outcome ⊢
      cases outcome with
      | attach editor path text =>
          exact steady_attach steady before.reachable.sound editor path text
      | detach editor => exact (detaching workspace editor).steady steady
      | relayed relaying => exact relaying.steady steady
      | clearAllDiagnostics => exact (lasts_clearDiagnosticsOf steady _).steady
      | shutdown => exact steady_letGo steady
      | around action ambient => exact (lasts_ambient steady ambient isUntroubled).steady

/-! ## Every text that is taken -/

theorem handed_of_place {language : Language} (steady : workspace.session.Steady)
    (inStep : workspace.session.InStep) (running : workspace.session.isRunning = true)
    (inStepBehind : (workspace.place key path text language).2.session.InStep)
    (succeeds : (workspace.place key path text language).1 = .ok true) :
    (workspace.place key path text language).2.session.Handed path text := by
  simp only [place] at succeeds inStepBehind ⊢
  split at succeeds
  · next shared =>
    rw [if_pos shared] at inStepBehind ⊢
    obtain ⟨version, isVersion, _⟩ := ok_of_map succeeds
    have isOpen := (Bool.and_eq_true_iff.mp shared).2
    exact handed_of_didChange steady inStep inStepBehind isVersion (.inr ⟨running, isOpen⟩)
  · next alone =>
    rw [if_neg alone] at inStepBehind ⊢
    exact handed_of_didOpen steady inStepBehind succeeds

theorem handed_of_attach (untroubled : Untroubled workspace)
    (other : workspace.pathFor? editor ≠ some path)
    (succeeds : (workspace.attach editor path text).1 = .ok true) :
    (workspace.attach editor path text).2.session.Handed path text := by
  have sound := untroubled.reachable.sound
  have sounds := sound.attach editor path text
  have outcome := attaching workspace editor path text
  generalize workspace.attach editor path text = result at outcome succeeds sounds ⊢
  cases outcome with
  | nameless blank => exact absurd succeeds nofun
  | again known => exact absurd known other
  | unhidden other stuck => exact absurd succeeds nofun
  | anew other _ =>
      have hides := detaching workspace editor
      have hidden := hides.steady untroubled.steady
      have kept := hides.sound sound
      have outcome := showing (workspace.detach editor).2 (Text.strip editor) path text
      generalize (workspace.detach editor).2.showNew (Text.strip editor) path text = shown
        at outcome succeeds sounds ⊢
      cases outcome with
      | unserved => exact absurd succeeds nofun
      | refused ensuring unserved => exact absurd succeeds unserved
      | placed spoken served ensuring =>
          exact handed_of_place (ensuring.steady hidden kept.backed) (ensuring.sound kept).inStep
            (ensuring.served kept.backed rfl).1 sounds.inStep succeeds

theorem handed_of_documentChanged (untroubled : Untroubled workspace) {version : Int}
    (succeeds : (workspace.documentChanged path text).1 = .ok version) (positive : 0 < version) :
    (workspace.documentChanged path text).2.session.Handed path text := by
  have sounds := (untroubled.reachable.perform (.documentChanged path text)).sound
  simp only [perform, documentChanged] at succeeds sounds ⊢
  split at succeeds
  · cases succeeds
    omega
  · next shown =>
    rw [if_neg shown] at sounds ⊢
    exact handed_of_didChange untroubled.steady untroubled.reachable.sound.inStep sounds.inStep
      succeeds (.inl positive)

theorem attach_again (known : workspace.pathFor? editor = some path) :
    (workspace.attach editor path text).2 = workspace := by
  have outcome := attaching workspace editor path text
  generalize workspace.attach editor path text = result at outcome ⊢
  cases outcome with
  | nameless blank => rfl
  | again known => rfl
  | unhidden other _ => exact absurd known other
  | anew other _ => exact absurd known other

/-- In a run with steady servers every text that an editor hands over with success is the one
    that the session and the server have of the file then, be it opened, taken for another editor
    or changed. The exception is an editor that is to show the file that it shows already: that
    leaves all as it is, whatever the text. -/
theorem handed_of_success (untroubled : Untroubled workspace) :
    (∀ editor path text, workspace.pathFor? editor ≠ some path →
      (workspace.attach editor path text).1 = .ok true →
      (workspace.attach editor path text).2.session.Handed path text) ∧
    (∀ editor path text, workspace.pathFor? editor = some path →
      (workspace.attach editor path text).2 = workspace) ∧
    ∀ path text version, (workspace.documentChanged path text).1 = .ok version → 0 < version →
      (workspace.documentChanged path text).2.session.Handed path text :=
  ⟨fun _ _ _ => handed_of_attach untroubled, fun _ _ _ => attach_again,
    fun _ _ _ => handed_of_documentChanged untroubled⟩

end Workspace

end LanguageClient

open scoped LanguageClient.Host.Bare

namespace LanguageClient.Workspace

/-! ## A text that is handed over again -/

/-- One editor shows a file. -/
def opened : Workspace Text :=
  perform
    { session := { processId := 1, folder := "/home" }, root := "proj", languages := routes }
    (.attach "left" "a.py" "x")

theorem untroubled_opened : Untroubled opened :=
  (Untroubled.fresh 1 "/home" "proj" routes).perform (.attach "left" "a.py" "x") rfl

theorem state_opened :
    opened.pathFor? "right" ≠ some "a.py" ∧ opened.pathFor? "left" = some "a.py" ∧
      (opened.attach "right" "a.py" "y").1 = .ok true ∧
      (opened.documentChanged "a.py" "y").1 = .ok 2 ∧
      (opened.attach "left" "a.py" "y").1 = .ok true ∧
      (opened.session.documents.get? "a.py").map (·.text) = some "x" := by
  decide +kernel

/-- The text of another editor arrives, and so does the text of a change. -/
theorem handed_opened :
    (opened.attach "right" "a.py" "y").2.session.Handed "a.py" "y" ∧
      (opened.documentChanged "a.py" "y").2.session.Handed "a.py" "y" := by
  obtain ⟨other, _, shared, changed, _⟩ := state_opened
  obtain ⟨attaches, _, changes⟩ := handed_of_success untroubled_opened
  exact ⟨attaches "right" "a.py" "y" other shared, changes "a.py" "y" 2 changed (by decide)⟩

/-- The text of the editor that shows the file already does not, though that is a success. -/
theorem dropped_opened :
    Untroubled opened ∧ (opened.attach "left" "a.py" "y").1 = .ok true ∧
      ¬ (opened.attach "left" "a.py" "y").2.session.Handed "a.py" "y" := by
  obtain ⟨_, known, _, _, succeeds, isText⟩ := state_opened
  refine ⟨untroubled_opened, succeeds, ?_⟩
  rw [attach_again known]
  rintro ⟨⟨_, document, found, other⟩, _⟩
  rw [found, Option.map_some, other] at isText
  exact absurd (Option.some.inj isText) (by decide)

end LanguageClient.Workspace
