import LanguageClient.Proofs.Session.Launches
import LanguageClient.Proofs.Session.Numbers
import LanguageClient.Proofs.Session.Revision
import LanguageClient.Proofs.Workspace.Run
import LanguageClient.Proofs.Workspace.Tally

/-! # What a workspace keeps

A workspace counts the editors of each file, and lets its session open files that editors show.
The session may lose documents behind its back, and a server that cannot be told to stop keeps
them, so nothing is said here of which files are open.
-/

namespace LanguageClient.Workspace

open Session (Turns Plains Hearings inStep_of_turns backed_of_turns counted_of_turns)

variable {workspace next : Workspace Text} {key path : Text} [Host]

/-- The counts are those of the editors, and the session keeps what it keeps. -/
structure Sound (workspace : Workspace Text) : Prop where
  inStep : workspace.session.InStep
  backed : workspace.session.Backed
  counted : workspace.session.Counted
  tally : Tally workspace.editors workspace.counts

/-- A call that shows and hides nothing. -/
theorem Sound.hear (sound : workspace.Sound)
    (hearings : Hearings workspace.session next.session)
    (editors : next.editors = workspace.editors) (counts : next.counts = workspace.counts) :
    next.Sound where
  inStep := inStep_of_turns (Session.turns_of_hearings hearings) sound.inStep
  backed := backed_of_turns (Session.turns_of_hearings hearings) sound.backed
  counted := counted_of_turns (Session.turns_of_hearings hearings) sound.counted
  tally := by
    rw [editors, counts]
    exact sound.tally

theorem Sound.plains (sound : workspace.Sound) (plains : Plains workspace.session next.session)
    (editors : next.editors = workspace.editors) (counts : next.counts = workspace.counts) :
    next.Sound :=
  sound.hear (Session.hearings_of_plains plains) editors counts

/-! ## Letting files go -/

theorem Sound.letGo_editors (sound : workspace.Sound) : workspace.letGo.editors = [] := by
  apply List.filter_eq_nil_iff.mpr
  intro entry member
  have found := Table.get?_of_mem sound.tally.once member
  have counted : workspace.clearAllDiagnostics.isShown entry.2 = true :=
    sound.tally.has_iff.mpr ⟨entry.1, found⟩
  rw [counted]
  exact nofun

/-- Where the stop is gone through with, no server is left, and nothing is open. -/
theorem letGo_idle (backed : workspace.session.Backed)
    (stopped : workspace.clearAllDiagnostics.session.stop.1 = .ok ()) :
    workspace.letGo.session.isRunning = false ∧ workspace.letGo.session.documents = {} := by
  have cleared := clearDiagnosticsOf_plains workspace.session (Table.keys workspace.counts)
  have kept : workspace.clearAllDiagnostics.session.Backed :=
    backed_of_turns (turns_of_plains cleared) backed
  have stopping := letGo_stopping workspace
  rw [stopped] at stopping
  exact stopping.documents kept

/-- As long as requests have numbers that can be written, the stop is gone through with. -/
theorem Sound.letGo_stopped (sound : workspace.Sound)
    (short : workspace.letGo.session.IsShort) :
    workspace.clearAllDiagnostics.session.stop.1 = .ok () := by
  have cleared := turns_of_plains
    (clearDiagnosticsOf_plains workspace.session (Table.keys workspace.counts))
  have stopping := letGo_stopping workspace
  exact stopping.finishes (counted_of_turns cleared sound.counted)
    (short.earlier stopping.grows)

theorem sound_of_nothing (sound : workspace.Sound)
    (plains : Plains workspace.session next.session) (editors : next.editors = [])
    (counts : next.counts = []) : next.Sound where
  inStep := inStep_of_turns (turns_of_plains plains) sound.inStep
  backed := backed_of_turns (turns_of_plains plains) sound.backed
  counted := counted_of_turns (turns_of_plains plains) sound.counted
  tally := by
    rw [editors, counts]
    exact .empty

theorem Sound.letGo (sound : workspace.Sound) : workspace.letGo.Sound :=
  sound_of_nothing sound (letGo_plains workspace) sound.letGo_editors rfl

theorem Sound.shutdown (sound : workspace.Sound) : workspace.shutdown.2.Sound :=
  sound_of_nothing sound (letGo_plains workspace) rfl rfl

/-! ## Servers -/

theorem Sound.startServer (sound : workspace.Sound) (command : Text) :
    (workspace.startServer command).2.Sound := by
  obtain ⟨editors, counts, _⟩ := startServer_kept workspace command
  exact sound.plains (startServer_plains workspace command) editors counts

theorem Ensuring.sound {command : Text} {outcome : Except Fault Bool × Workspace Text}
    (ensuring : Ensuring workspace command outcome) (sound : workspace.Sound) :
    outcome.2.Sound := by
  cases ensuring with
  | kept running same => exact sound
  | launched idle => exact sound.startServer command
  | unleft running other unstopped => exact sound.letGo
  | switched running other stopped => exact sound.letGo.startServer command

/-- The editors that show files are those before, or none. -/
theorem Ensuring.editors {command : Text} {outcome : Except Fault Bool × Workspace Text}
    (ensuring : Ensuring workspace command outcome) (sound : workspace.Sound) :
    outcome.2.editors = workspace.editors ∨ outcome.2.editors = [] := by
  cases ensuring with
  | kept running same => exact .inl rfl
  | launched idle => exact .inl (startServer_kept workspace command).1
  | unleft running other unstopped => exact .inr sound.letGo_editors
  | switched running other stopped =>
      exact .inr ((startServer_kept workspace.letGo command).1.trans sound.letGo_editors)

/-- A server that was started runs, and knows no documents. -/
theorem startServer_served {command : Text} (idle : workspace.session.isRunning = false)
    (started : (workspace.startServer command).1 = .ok true) :
    (workspace.startServer command).2.session.isRunning = true ∧
      (workspace.startServer command).2.session.documents = {} := by
  have starts := Session.starting workspace.session command workspace.root
  have documents := starts.documents idle
  rw [startServer_fst] at started
  rw [startServer_session]
  generalize workspace.session.start command workspace.root = result at starts started documents ⊢
  obtain ⟨served, after⟩ := result
  obtain rfl : served = .ok true := started
  exact ⟨starts.isRunning, documents⟩

/-- The server that runs is the one that ran before, or it knows no documents. -/
theorem Ensuring.served {command : Text} {outcome : Except Fault Bool × Workspace Text}
    (ensuring : Ensuring workspace command outcome) (backed : workspace.session.Backed)
    (started : outcome.1 = .ok true) :
    outcome.2.session.isRunning = true ∧
      (command = workspace.active ∧ outcome.2 = workspace ∨
        outcome.2.session.documents = {}) := by
  cases ensuring with
  | kept running same => exact ⟨running, .inl ⟨same, rfl⟩⟩
  | launched idle =>
      obtain ⟨running, nothing⟩ := startServer_served idle started
      exact ⟨running, .inr nothing⟩
  | unleft running other unstopped => cases started
  | switched running other stopped =>
      obtain ⟨running, nothing⟩ := startServer_served (letGo_idle backed stopped).1 started
      exact ⟨running, .inr nothing⟩

/-- No editor comes to show a file. -/
theorem Ensuring.absent {command : Text} {outcome : Except Fault Bool × Workspace Text}
    (ensuring : Ensuring workspace command outcome) (sound : workspace.Sound)
    (absent : Table.get? workspace.editors key = none) :
    Table.get? outcome.2.editors key = none := by
  rcases ensuring.editors sound with same | nothing
  · rw [same]
    exact absent
  · rw [nothing]
    rfl

/-! ## Hiding files -/

theorem Detaching.sound {editor : Text} {outcome : Except Fault Unit × Workspace Text}
    (detaching : Detaching workspace editor outcome) (sound : workspace.Sound) :
    outcome.2.Sound := by
  have turns := turns_of_plains detaching.plains
  refine ⟨inStep_of_turns turns sound.inStep, backed_of_turns turns sound.backed,
    counted_of_turns turns sound.counted, ?_⟩
  have closed {path : Text} (found : workspace.pathFor? editor = some path)
      (last : ¬ workspace.countOf path - 1 > 0) :
      Tally (Table.remove workspace.editors (Text.strip editor))
        (Table.remove workspace.counts path) := by
    have tally := sound.tally.remove found
    unfold countOf at last
    rw [if_neg last] at tally
    exact tally
  cases detaching with
  | unknown absent => exact sound.tally
  | @hidden path found others =>
      have tally := sound.tally.remove found
      unfold countOf at others
      rw [if_pos others] at tally
      exact tally
  | unclosed found last withheld => exact closed found last
  | closed found last => exact closed found last

/-! ## Showing files -/

/-- One more editor shows a file. -/
theorem Sound.show (sound : workspace.Sound) {session : Session Text}
    (absent : Table.get? workspace.editors key = none) (path : Text)
    (turns : Turns workspace.session session) :
    Sound { workspace with
      editors := Table.put workspace.editors key path
      counts := Table.put workspace.counts path (workspace.countOf path + 1)
      session } where
  inStep := inStep_of_turns turns sound.inStep
  backed := backed_of_turns turns sound.backed
  counted := counted_of_turns turns sound.counted
  tally := sound.tally.put (Table.not_mem_of_get?_eq_none absent) path

theorem Sound.place (sound : workspace.Sound)
    (absent : Table.get? workspace.editors key = none) (path text : Text)
    (language : Language) : (workspace.place key path text language).2.Sound := by
  simp only [Workspace.place]
  split
  · exact sound.show absent path (turns_of_plains (workspace.session.didChange_plains path text))
  · exact sound.show absent path (.single (.didOpen workspace.session path text language.name))

theorem Sound.showNew (sound : workspace.Sound)
    (absent : Table.get? workspace.editors key = none) (path text : Text) :
    (workspace.showNew key path text).2.Sound := by
  have outcome := showing workspace key path text
  generalize workspace.showNew key path text = result at outcome ⊢
  cases outcome with
  | unserved => exact sound
  | refused ensuring unserved => exact ensuring.sound sound
  | @placed language hosting spoken served ensuring =>
      exact (ensuring.sound sound).place (ensuring.absent sound absent) path text language

theorem Sound.attach (sound : workspace.Sound) (editor path text : Text) :
    (workspace.attach editor path text).2.Sound := by
  have hides := detaching workspace editor
  have outcome := attaching workspace editor path text
  generalize workspace.attach editor path text = result at outcome ⊢
  cases outcome with
  | nameless blank => exact sound
  | again known => exact sound
  | unhidden other stuck => exact hides.sound sound
  | anew other hidden => exact (hides.sound sound).showNew hides.absent path text

/-! ## Every call, every run -/

theorem Sound.perform (sound : workspace.Sound) (action : Action) :
    (workspace.perform action).Sound := by
  have outcome := performing workspace action
  generalize workspace.perform action = next at outcome ⊢
  cases outcome with
  | attach editor path text => exact sound.attach editor path text
  | detach editor => exact (detaching workspace editor).sound sound
  | relayed relaying => exact sound.plains relaying.plains rfl rfl
  | clearAllDiagnostics =>
      exact sound.plains (clearDiagnosticsOf_plains workspace.session _) rfl rfl
  | shutdown => exact sound.shutdown
  | around action ambient =>
      exact sound.hear (hearings_of_ambient workspace.session ambient) rfl rfl

theorem Reachable.sound (reachable : Reachable workspace) : workspace.Sound := by
  induction reachable with
  | fresh processId folder root languages =>
      exact ⟨Talk.knows_of_idle rfl DocumentStore.keyed_empty nofun, fun _ => rfl,
        Session.counted_of_idle rfl, .empty⟩
  | perform _ action sound => exact sound.perform action

/-! ## The editors of a file -/

def editorsOf (workspace : Workspace Text) (path : Text) : Set Text :=
  {editor | Table.get? workspace.editors editor = some path}

/-- Wherever a run has come to, whatever failed on the way, every file has the count of the
    editors that show it. Only a file that is shown is kept a count of, and all of those are. -/
theorem countOf_eq_encard (reachable : Reachable workspace) :
    (∀ path, (workspace.editorsOf path).encard = workspace.countOf path) ∧
      (∀ path count, Table.get? workspace.counts path = some count → 1 ≤ count) ∧
      ∀ editor path, Table.get? workspace.editors editor = some path →
        workspace.isShown path = true := by
  have tally := reachable.sound.tally
  refine ⟨?_, ?_, ?_⟩
  · intro path
    rw [countOf, tally.count_eq]
    exact tally.encard_eq path
  · intro path count found
    have known : Table.has workspace.counts path = true := Option.isSome_of_eq_some found
    have positive := tally.count_pos known
    rw [found] at positive
    exact positive
  · intro editor path found
    exact tally.has_iff.mpr ⟨editor, found⟩

end LanguageClient.Workspace

open scoped LanguageClient.Host.Bare

namespace LanguageClient.Workspace

/-- Two editors show a file of which the server exits. Then one of them turns to a file of which
    the server cannot be started, and a third editor to the first one. -/
def crowded : Workspace Text :=
  ((((((perform
    { session := { processId := 1, folder := "/home" }
      root := "proj"
      languages := [{ name := "python", suffixes := [".py"], command := "pylsp" },
        { name := "rust", suffixes := [".rs"], command := "rust-analyzer" }] }
    (.attach "left" "a.py" "x")).perform (.attach "right" "a.py" "y")).perform
    (.around .hangUp isAmbient_hangUp)).perform
    (.around .processAvailable isAmbient_processAvailable)).perform
    (.around (.setLauncher fun command =>
      if command = ["pylsp"] then .child {} else .refused "missing") rfl)).perform
    (.attach "right" "c.rs" "z")).perform (.attach "third" "a.py" "z")

theorem reachable_crowded : Reachable crowded :=
  (((((((Reachable.fresh 1 "/home" "proj" _).perform _).perform _).perform _).perform _).perform
    _).perform _).perform _

theorem encard_crowded :
    (crowded.editorsOf "a.py").encard = 2 ∧ (crowded.editorsOf "c.rs").encard = 0 := by
  have counts : crowded.countOf "a.py" = 2 ∧ crowded.countOf "c.rs" = 0 := by
    decide +kernel
  obtain ⟨same, _⟩ := countOf_eq_encard reachable_crowded
  rw [same, same, counts.1, counts.2]
  exact ⟨rfl, rfl⟩

end LanguageClient.Workspace
