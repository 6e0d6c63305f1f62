import LanguageClient.Proofs.Session.Failures
import LanguageClient.Proofs.Workspace.Sound

/-! # Showing a file opens it

When an editor shows a file, a server is there for it or is started, and the file is opened on
it unless it is open already. A session can lose its documents without the workspace being told:
its server exits or does not take a message. The file of an editor that comes under another name
is then opened again, but an editor that shows the file already is taken at its word, and
neither a server is started nor the file opened. Nor is a file opened that the server knows
under another spelling of its path.
-/

namespace LanguageClient.Workspace

open Session (Grows Surrounded Unfailed grows_of_turns)

variable {workspace next : Workspace Text} {key editor path text : Text}
  {language : Language} [Host]

/-- The file of an editor was opened on the server that runs, or was open there. -/
structure Opens (outcome : Except Fault Bool × Workspace Text) (path : Text) : Prop where
  known : outcome.1 = .ok true
  running : outcome.2.session.isRunning = true
  isOpen : outcome.2.session.documents.isOpen path = true

/-- The editor shows the file, and the session has lost it. -/
def Lost (workspace : Workspace Text) (editor path : Text) : Prop :=
  workspace.pathFor? editor = some path ∧ workspace.session.documents.isOpen path = false

/-- The server of a command has a file open that no editor shows under this path. -/
def Masks (workspace : Workspace Text) (path command : Text) : Prop :=
  command = workspace.active ∧ workspace.isShown path = false ∧
    workspace.session.documents.isOpen path = true

/-- The server of a command has a file open that no editor shows under this path, once the
    editor has let go of the other one that it shows. -/
def Masked (workspace : Workspace Text) (editor path command : Text) : Prop :=
  workspace.pathFor? editor ≠ some path ∧ (workspace.detach editor).2.Masks path command

theorem startServer_of_unfailed {command : Text}
    (launches : ¬ workspace.session.BreaksOff command)
    (unfailed : Unfailed workspace.session (workspace.startServer command).2.session) :
    (workspace.startServer command).1 = .ok true := by
  rw [startServer_session] at unfailed
  rw [startServer_fst]
  exact (Session.start_of_unfailed launches unfailed).1

omit [Host] in
theorem surrounded_clearDiagnosticsOf (session : Session Text) (paths : List Text) :
    Surrounded session (clearDiagnosticsOf session paths) := by
  induction paths generalizing session with
  | nil => exact .refl session
  | cons path rest ih =>
      have cleared : Surrounded session (session.emit (.diagnostics path [])) := ⟨rfl, rfl⟩
      exact cleared.trans (ih _)

theorem surrounded_letGo (workspace : Workspace Text) :
    Surrounded workspace.session workspace.letGo.session :=
  (surrounded_clearDiagnosticsOf workspace.session _).trans (letGo_stopping workspace).surrounded

/-- The server that is wanted runs, if nothing has failed. It is the one that ran before, or it
    knows no documents. -/
theorem Ensuring.ready {command : Text} {outcome : Except Fault Bool × Workspace Text}
    (ensuring : Ensuring workspace command outcome) (backed : workspace.session.Backed)
    (launches : ¬ workspace.session.BreaksOff command)
    (unfailed : Unfailed workspace.session outcome.2.session) :
    outcome.1 = .ok true ∧ outcome.2.session.isRunning = true ∧
      (command = workspace.active ∧ outcome.2 = workspace ∨
        outcome.2.session.documents = {}) := by
  have started : outcome.1 = .ok true := by
    cases ensuring with
    | kept running same => rfl
    | launched idle => exact startServer_of_unfailed launches unfailed
    | unleft running other unstopped =>
        have cleared := grows_of_turns (turns_of_plains
          (clearDiagnosticsOf_plains workspace.session (Table.keys workspace.counts)))
        have stops := letGo_stopping workspace
        have stopped := stops.ok_of_unfailed (unfailed.parts cleared stops.grows).2
        exact absurd (stopped.symm.trans unstopped) nofun
    | switched running other stopped =>
        have went := grows_of_turns (turns_of_plains (letGo_plains workspace))
        have came := grows_of_turns (turns_of_plains (startServer_plains workspace.letGo command))
        have still := mt (surrounded_letGo workspace).breaksOff_iff.mp launches
        exact startServer_of_unfailed still (unfailed.parts went came).2
  exact ⟨started, ensuring.served backed started⟩

theorem ensureServer_of_running {command : Text} (running : workspace.session.isRunning = true)
    (same : command = workspace.active) :
    workspace.ensureServer command = (.ok true, workspace) := by
  unfold ensureServer
  rw [if_pos (by simp [running, same])]

omit [Host] in
theorem countOf_of_not_isShown (unshown : workspace.isShown path = false) :
    workspace.countOf path = 0 := by
  rw [countOf, Option.isNone_iff_eq_none.mp (Option.isSome_eq_false_iff.mp unshown)]
  rfl

/-! ## Files that no editor of this name shows -/

theorem place_opens (sound : workspace.Sound) (running : workspace.session.isRunning = true)
    (named : Uri.ofPath path ≠ "")
    (clock : workspace.session.documents.isOpen path = true →
      ∃ now, workspace.session.now.milliseconds = .ok now)
    (counted : workspace.session.documents.isOpen path = true → workspace.countOf path > 0)
    (unfailed : Unfailed workspace.session (workspace.place key path text language).2.session) :
    Opens (workspace.place key path text language) path := by
  simp only [place] at unfailed ⊢
  cases isOpen : workspace.session.documents.isOpen path with
  | true =>
      obtain ⟨now, clock⟩ := clock isOpen
      have changed : (decide (workspace.countOf path > 0) && true) = true := by
        simpa using counted isOpen
      simp only [isOpen, changed, ↓reduceIte] at unfailed ⊢
      obtain ⟨⟨version, isVersion⟩, running, stays⟩ :=
        Session.didChange_of_unfailed running sound.inStep.keyed clock isOpen unfailed
      refine ⟨?_, running, stays⟩
      exact congrArg (Except.map fun _ => true) isVersion
  | false =>
      simp only [isOpen, Bool.and_false, Bool.false_eq_true, ↓reduceIte] at unfailed ⊢
      obtain ⟨opened, running, isOpen⟩ :=
        Session.didOpen_of_unfailed running named isOpen unfailed
      exact ⟨opened, running, isOpen⟩

theorem showNew_of_served (key text : Text)
    (spoken : Languages.forPath? workspace.languages path = some language)
    (served : language.hasServer = true) :
    workspace.showNew key path text =
      match workspace.ensureServer language.command with
      | (.ok true, hosting) => hosting.place key path text language
      | unserved => unserved := by
  unfold showNew
  rw [spoken]
  simp only [served, Bool.not_true, Bool.false_eq_true, ↓reduceIte]
  generalize workspace.ensureServer language.command = result
  obtain ⟨_ | _ | _, _⟩ := result <;> rfl

theorem showNew_opens (sound : workspace.Sound)
    (spoken : Languages.forPath? workspace.languages path = some language)
    (served : language.hasServer = true)
    (clock : ∃ now, workspace.session.now.milliseconds = .ok now)
    (unmasked : ¬ workspace.Masks path language.command)
    (launches : ¬ workspace.session.BreaksOff language.command)
    (unfailed : Unfailed workspace.session (workspace.showNew key path text).2.session) :
    Opens (workspace.showNew key path text) path := by
  have outcome := ensuring workspace language.command
  rw [showNew_of_served key text spoken served] at unfailed ⊢
  generalize workspace.ensureServer language.command = result at outcome unfailed ⊢
  split at unfailed
  · next hosting =>
      have went := grows_of_turns (turns_of_plains outcome.plains)
      have goes := grows_of_turns (place_turns hosting key path text language)
      obtain ⟨first, second⟩ := unfailed.parts went goes
      obtain ⟨_, running, kept⟩ := outcome.ready sound.backed launches first
      -- A new server knows no documents, so that the file is open only on the old one.
      have old : hosting.session.documents.isOpen path = true →
          language.command = workspace.active ∧ hosting = workspace := by
        intro isOpen
        rcases kept with same | empty
        · exact same
        · rw [empty] at isOpen
          exact absurd isOpen nofun
      apply place_opens (outcome.sound sound) running (Uri.ofPath_ne_empty spoken) _ _ second
      · intro isOpen
        rw [(old isOpen).2]
        exact clock
      · intro isOpen
        obtain ⟨same, rfl⟩ := old isOpen
        have isShown : hosting.isShown path = true := by
          by_contra unshown
          exact unmasked ⟨same, Bool.eq_false_iff.mpr unshown, isOpen⟩
        exact sound.tally.count_pos isShown
  · next unserved =>
      have ready := (outcome.ready sound.backed launches unfailed).1
      exact (unserved result.2 (Prod.ext ready rfl)).elim

theorem Masks.not_opens (masks : workspace.Masks path language.command)
    (backed : workspace.session.Backed)
    (spoken : Languages.forPath? workspace.languages path = some language)
    (served : language.hasServer = true) : ¬ Opens (workspace.showNew key path text) path := by
  obtain ⟨same, unshown, isOpen⟩ := masks
  have kept := ensureServer_of_running (backed.isRunning isOpen) same
  have refused := Session.didOpen_of_isOpen isOpen text language.name
  have uncounted := countOf_of_not_isShown unshown
  rw [showNew_of_served key text spoken served, kept]
  intro opens
  have known := opens.known
  simp only [place, uncounted, gt_iff_lt, lt_self_iff_false, decide_false, Bool.false_and,
    Bool.false_eq_true, ↓reduceIte] at known
  rw [DocumentName.ofPath_path, refused] at known
  cases known

/-! ## Every run -/

theorem Detaching.surrounded {outcome : Except Fault Unit × Workspace Text}
    (detaching : Detaching workspace editor outcome) :
    Surrounded workspace.session outcome.2.session := by
  cases detaching with
  | unknown absent => exact .refl _
  | hidden found others => exact .refl _
  | @unclosed path fault found last withheld =>
      exact (workspace.session.didClose_speech path).surrounded
  | @closed path found last =>
      have closed := (workspace.session.didClose_speech path).surrounded
      exact ⟨closed.now, closed.launcher⟩

/-- An editor lets its file go if nothing fails. -/
theorem Detaching.ok_of_unfailed {outcome : Except Fault Unit × Workspace Text}
    (detaching : Detaching workspace editor outcome)
    (unfailed : Unfailed workspace.session outcome.2.session) : outcome.1 = .ok () := by
  cases detaching with
  | unknown absent => rfl
  | hidden found others => rfl
  | closed found last => rfl
  | unclosed found last withheld =>
      obtain ⟨told, closed⟩ := Session.didClose_of_unfailed unfailed
      exact absurd (closed.symm.trans withheld) nofun

theorem detach_languages (workspace : Workspace Text) (editor : Text) :
    (workspace.detach editor).2.languages = workspace.languages := by
  have outcome := detaching workspace editor
  generalize workspace.detach editor = next at outcome ⊢
  cases outcome with
  | unknown absent => rfl
  | hidden found others => rfl
  | unclosed found last withheld => rfl
  | closed found last => rfl

/-- An editor that is to show a file of a language with a server has it open on a running
    server, if the clock can be read, running the program of the server does not break a start off,
    and nothing has failed by then, no start and no write. There are two exceptions: an editor that
    shows the file already, where the session has lost it, and a file that is open under another
    spelling of its path. -/
theorem attach_opens_iff (reachable : Reachable workspace) (named : Text.strip editor ≠ "")
    (spoken : Languages.forPath? workspace.languages path = some language)
    (served : language.hasServer = true)
    (clock : ∃ now, workspace.session.now.milliseconds = .ok now)
    (launches : ¬ workspace.session.BreaksOff language.command)
    (unfailed : Unfailed workspace.session (workspace.attach editor path text).2.session) :
    Opens (workspace.attach editor path text) path ↔
      ¬ workspace.Lost editor path ∧ ¬ workspace.Masked editor path language.command := by
  have sound := reachable.sound
  have hides := detaching workspace editor
  have outcome := attaching workspace editor path text
  generalize workspace.attach editor path text = result at outcome unfailed ⊢
  cases outcome with
  | nameless blank => exact absurd blank named
  | again known =>
      constructor
      · intro opens
        refine ⟨?_, fun masked => masked.1 known⟩
        rintro ⟨_, closed⟩
        exact absurd (closed.symm.trans opens.isOpen) nofun
      · rintro ⟨kept, _⟩
        have isOpen : workspace.session.documents.isOpen path = true := by
          by_contra closed
          exact kept ⟨known, Bool.eq_false_iff.mpr closed⟩
        exact ⟨congrArg Except.ok isOpen, sound.backed.isRunning isOpen, isOpen⟩
  | unhidden other stuck => exact absurd ((hides.ok_of_unfailed unfailed).symm.trans stuck) nofun
  | anew other hidden =>
      have sounds := hides.sound sound
      have speaks : Languages.forPath? (workspace.detach editor).2.languages path =
          some language := by
        rw [detach_languages]
        exact spoken
      constructor
      · intro opens
        refine ⟨fun lost => other lost.1, ?_⟩
        rintro ⟨_, masks⟩
        exact masks.not_opens sounds.backed speaks served opens
      · rintro ⟨_, unmasked⟩
        have went := grows_of_turns (turns_of_plains hides.plains)
        have goes := grows_of_turns
          (showNew_turns (workspace.detach editor).2 (Text.strip editor) path text)
        have around := hides.surrounded
        have reads : ∃ now, (workspace.detach editor).2.session.now.milliseconds = .ok now := by
          rw [around.now]
          exact clock
        exact showNew_opens sounds speaks served reads (fun masks => unmasked ⟨other, masks⟩)
          (mt around.breaksOff_iff.mp launches) (unfailed.parts went goes).2

/-! ## A server that exited -/

end LanguageClient.Workspace

open scoped LanguageClient.Host.Bare

namespace LanguageClient.Workspace

open Session (Unfailed)

def python : Language :=
  { name := "python", suffixes := [".py"], command := "pylsp" }

/-- One editor shows a file, of which the server has exited. -/
def deserted : Workspace Text :=
  ((perform { session := { processId := 1, folder := "/home" }
              root := "proj"
              languages := [python] }
    (.attach "left" "a.py" "x")).perform (.around .hangUp rfl)).perform
    (.around .processAvailable rfl)

theorem reachable_deserted : Reachable deserted :=
  (((Reachable.fresh 1 "/home" "proj" [python]).perform _).perform _).perform _

theorem state_deserted :
    deserted.session.now = .whole 0 ∧ deserted.editors = ([("left", "a.py")] : Table Text Text) ∧
      deserted.isShown "a.py" = true ∧ deserted.session.documents.isOpen "a.py" = false ∧
      Languages.forPath? deserted.languages "a.py" = some python ∧
      deserted.session.failures.isEmpty = true ∧
      (deserted.attach "right" "a.py" "x").2.session.failures.isEmpty = true ∧
      deserted.session.launch python.command = .ok { child := {}, commandLine := "pylsp" } := by
  decide +kernel

/-- For another editor the file is opened again. -/
theorem opens_deserted : Opens (deserted.attach "right" "a.py" "x") "a.py" := by
  obtain ⟨clock, editors, isShown, _, spoken, before, after, launched⟩ := state_deserted
  have absent : deserted.pathFor? "right" = none := by
    rw [pathFor?, editors]
    decide
  have reads : ∃ now, deserted.session.now.milliseconds = .ok now := by
    rw [clock]
    exact ⟨0, rfl⟩
  have unfailed : Unfailed deserted.session (deserted.attach "right" "a.py" "x").2.session := by
    rw [Unfailed, List.isEmpty_iff.mp before, List.isEmpty_iff.mp after]
  have launches : ¬ deserted.session.BreaksOff python.command := by
    rintro ⟨fault, child, broken⟩
    cases launched.symm.trans broken
  apply (attach_opens_iff reachable_deserted (by decide) spoken rfl reads launches unfailed).mpr
  constructor
  · rintro ⟨known, _⟩
    cases absent.symm.trans known
  · rintro ⟨_, _, unshown, _⟩
    rw [detach_of_unknown absent] at unshown
    exact absurd isShown (Bool.eq_false_iff.mp unshown)

/-- For the editor that shows it already it is not. -/
theorem lost_deserted :
    deserted.Lost "left" "a.py" ∧ deserted.attach "left" "a.py" "x" = (.ok false, deserted) := by
  obtain ⟨_, editors, _, closed, _⟩ := state_deserted
  have known : deserted.pathFor? "left" = some "a.py" := by
    rw [pathFor?, editors]
    decide
  have outcome := attaching deserted "left" "a.py" "x"
  generalize deserted.attach "left" "a.py" "x" = result at outcome ⊢
  refine ⟨⟨known, closed⟩, ?_⟩
  cases outcome with
  | nameless blank => exact absurd blank (by decide)
  | again known => rw [closed]
  | unhidden other _ => exact absurd known other
  | anew other _ => exact absurd known other

end LanguageClient.Workspace
