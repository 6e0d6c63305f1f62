import LanguageClient.CommandLine.Run
import LanguageClient.Proofs.Settings.Loading

/-! # How a run of the command line ends

Where no server can be started, the command line ends with the code of a failure, or with that of
arguments that are of no use. It breaks off only where the home folder of nobody is asked for, or
where the settings file that is found ends the start.
-/

namespace LanguageClient

/-! ## Servers that cannot be started -/

/-- No server can be started: every start is refused. -/
def Launcher.Refuses (launcher : Launcher) : Prop :=
  ∀ command, ∃ fault child,
    (ServerProcess.start launcher command).result = .error (.refused fault child)

theorem Launcher.refuses_of_refused {launcher : Launcher} {reason : Text}
    (refused : ∀ argv, launcher argv = .refused reason) : launcher.Refuses := by
  intro command
  unfold ServerProcess.start
  split
  · exact ⟨_, _, rfl⟩
  · dsimp only
    rw [refused]
    exact ⟨_, _, rfl⟩

namespace Session

variable [Host] {π : Type} {session : Session π}

theorem start_of_refusing (idle : session.isRunning = false)
    (refuses : session.launcher.Refuses) (command root : Text) :
    (session.start command root).1 = .ok false := by
  obtain ⟨fault, child, refused⟩ := refuses command
  have unlaunched : (session.reset.record (.asked command)).launch command =
      .error (.refused fault child) := refused
  unfold start
  rw [if_neg (by simp [idle])]
  dsimp only
  rw [unlaunched]

end Session

namespace Workspace

variable [Host]

/-- An editor is told that its file is at no server, where none runs and none can be started. -/
theorem attach_of_refusing {workspace : Workspace Text}
    (idle : workspace.session.isRunning = false)
    (refuses : workspace.session.launcher.Refuses)
    (bare : workspace.editors = []) (editor path text : Text) :
    (workspace.attach editor path text).1 = .ok false := by
  have unserved (command : Text) : (workspace.ensureServer command).1 = .ok false := by
    have unstarted := Session.start_of_refusing idle refuses command workspace.root
    simp only [ensureServer, leaveServer, startServer, idle, Bool.false_and, Bool.false_eq_true,
      ↓reduceIte]
    split
    · next refused =>
      rw [refused] at unstarted
      exact unstarted
    · next refused =>
      rw [refused] at unstarted
      exact unstarted
  have unshown (key : Text) : (workspace.showNew key path text).1 = .ok false := by
    unfold showNew
    split
    · rfl
    · next language _ =>
      split
      · rfl
      · have unserved := unserved language.command
        split
        · next served =>
          rw [served] at unserved
          cases unserved
        · exact unserved
  unfold attach
  dsimp only
  split
  · rfl
  · rw [bare]
    exact unshown _

end Workspace

namespace CommandLine

theorem openWorkspace_eq (settings : Json) (logTraffic : Bool) (launcher : Launcher)
    (folder root : Text) :
    openWorkspace settings logTraffic launcher folder root =
      (Settings.sessionIn (settings.field "lsp")).map fun session =>
        { session := { ({ launcher, folder } : Session Text).configure session with logTraffic }
          languages := Languages.ofSettings settings
          root } := by
  unfold openWorkspace Settings.sessionIn
  cases Settings.entriesIn (settings.field "lsp") with
  | error fault => rfl
  | ok table =>
      cases SessionSettings.ofJson (.obj table) with
      | error fault => rfl
      | ok session => rfl

/-- A file argument asks for the home folder of somebody who has none. -/
def Homeless (homes : Table Text Text) (file : Text) : Prop :=
  Path.root file = "" ∧ ∃ first rest name, Path.names file = first :: rest ∧
    first.toList = .scalar '~' :: name ∧ name ≠ [] ∧ homes.get? (Text.ofList name) = none

theorem homeless_iff {homes : Table Text Text} {file first : Text} {rest : List Text}
    (relative : Path.root file = "") (names : Path.names file = first :: rest) :
    Homeless homes file ↔ ∃ name, first.toList = .scalar '~' :: name ∧ name ≠ [] ∧
      homes.get? (Text.ofList name) = none := by
  constructor
  · rintro ⟨_, other, others, name, same, homeless⟩
    obtain ⟨rfl, _⟩ := List.cons.inj (names.symm.trans same)
    exact ⟨name, homeless⟩
  · rintro ⟨name, homeless⟩
    exact ⟨relative, first, rest, name, names, homeless⟩

/-- Of the names in a path that can lead to a file, a path is made that can. -/
theorem isUsable_intercalate {path : Text} (usable : Path.isUsable path = true)
    {rest : List Text} (areNames : ∀ name ∈ rest, name ∈ Path.names path) :
    Path.isUsable (Text.intercalate "/" rest) = true := by
  have spelled : Text.intercalate "/" rest = Path.spelled "" rest := (Text.empty_append ..).symm
  rw [spelled]
  exact Path.isUsable_spelled (.inl rfl) fun name member =>
    Path.isUsable_of_mem_names usable (areNames name member)

/-- A file argument that has no NUL leads to a path that has none, unless it asks for the home
    folder of somebody who has none. -/
theorem expandHome_cases {home file : Text} {homes : Table Text Text}
    (usable : Path.isUsable file = true) (usableHome : Path.isUsable home = true)
    (usableHomes : ∀ entry ∈ homes, Path.isUsable entry.2 = true) :
    (Homeless homes file ∧ expandHome home homes file = .error .noHome) ∨
      (¬Homeless homes file ∧ ∃ path, expandHome home homes file = .ok path ∧
        Path.isUsable path = true) := by
  unfold expandHome
  split
  · next first rest root names =>
    have behind : Path.isUsable (Text.intercalate "/" rest) = true :=
      isUsable_intercalate usable fun name member => names ▸ List.mem_cons_of_mem _ member
    rw [homeless_iff root names]
    split
    · next name tilde =>
      have noNul : ¬name.contains (CodePoint.scalar '\x00') = true := by
        intro nul
        have inFirst : CodePoint.scalar '\x00' ∈ first.toList :=
          tilde ▸ List.mem_cons_of_mem _ (List.contains_iff_mem.mp nul)
        have refused := Path.isUsable_iff.mp usable _
          (Path.mem_of_mem_names (names ▸ List.mem_cons_self) inFirst)
        cases refused
      rw [if_neg noNul]
      by_cases own : name = []
      · subst own
        refine .inr ⟨?_, _, rfl, Path.isUsable_join usableHome behind⟩
        rintro ⟨name, tilde', named, _⟩
        exact named (List.cons.inj (tilde.symm.trans tilde')).2.symm
      · rw [if_neg (by simpa using own)]
        cases known : homes.get? (Text.ofList name) with
        | none => exact .inl ⟨⟨name, tilde, own, known⟩, rfl⟩
        | some folder =>
            have usableFolder := usableHomes _ (Table.mem_of_get? known)
            refine .inr ⟨?_, _, rfl, Path.isUsable_join usableFolder behind⟩
            rintro ⟨_, tilde', _, unknown⟩
            obtain ⟨_, rfl⟩ := List.cons.inj (tilde.symm.trans tilde')
            rw [known] at unknown
            cases unknown
    · next noTilde =>
      refine .inr ⟨?_, _, rfl, Path.isUsable_tidy usable⟩
      rintro ⟨name, tilde, _⟩
      exact noTilde name tilde
  · next other =>
    refine .inr ⟨?_, _, rfl, Path.isUsable_tidy usable⟩
    rintro ⟨root, first, rest, _, names, _⟩
    exact other first rest root names

namespace Surroundings

/-- The own home folder. -/
def home (surroundings : Surroundings) : Text :=
  if surroundings.whereabouts.home.isEmpty then surroundings.whereabouts.homeFolder
  else surroundings.whereabouts.home

/-- Whether the file that an argument names can be read. -/
def Reads (surroundings : Surroundings) (file : Text) : Prop :=
  ∃ path text, expandHome surroundings.home surroundings.homes file = .ok path ∧
    surroundings.source.readText path = .ok text

section

variable [Host]

/-- A run breaks off: its file is in the home folder of somebody who has none, or it can be read
    and the settings file ends the start. -/
def BreaksOff (surroundings : Surroundings) (settingsFile : List UInt8) (argv : List Text) :
    Prop :=
  ∃ arguments, Arguments.parse argv = some arguments ∧
    (Homeless surroundings.homes arguments.file ∨
      (surroundings.Reads arguments.file ∧ Settings.Breaks settingsFile))

/-- Of arguments that can be used, only the file decides whether a run breaks off. -/
theorem breaksOff_iff {surroundings : Surroundings} {settingsFile : List UInt8}
    {argv : List Text} {arguments : Arguments}
    (parsed : Arguments.parse argv = some arguments) :
    surroundings.BreaksOff settingsFile argv ↔
      Homeless surroundings.homes arguments.file ∨
        (surroundings.Reads arguments.file ∧ Settings.Breaks settingsFile) := by
  constructor
  · rintro ⟨others, other, cause⟩
    obtain rfl := Option.some.inj (parsed.symm.trans other)
    exact cause
  · exact fun cause => ⟨arguments, parsed, cause⟩

end

end Surroundings

section

variable [Host]

theorem showFile_cases {surroundings : Surroundings} {place : Text} {bytes : List UInt8}
    (refuses : ∀ path, (surroundings.launcherFor path).Refuses)
    (found : Settings.firstExisting? surroundings.source
      (Settings.candidates surroundings.whereabouts) = .ok (some place))
    (content : surroundings.source place = .ok bytes) (arguments : Arguments)
    (path text : Text) :
    (¬Settings.Breaks bytes ∧ ∃ outcome,
      showFile surroundings arguments path text = .ok outcome ∧ outcome.code = 1) ∨
    (Settings.Breaks bytes ∧ ∃ fault,
      showFile surroundings arguments path text = .error fault) := by
  unfold showFile
  dsimp only
  cases Settings.start_of_found found content with
  | unloaded breaks refused =>
      rw [refused]
      exact .inr ⟨breaks, _, rfl⟩
  | unfit breaks isLoaded refused =>
      refine .inr ⟨breaks, ?_⟩
      rw [isLoaded]
      simp only [bind, Except.bind, openWorkspace_eq, refused, Except.map]
      exact ⟨_, rfl⟩
  | @starts settings session sound isLoaded taken =>
      refine .inl ⟨sound, ?_⟩
      rw [isLoaded]
      simp only [bind, Except.bind, openWorkspace_eq, taken, Except.map]
      generalize opened : (Workspace.mk _ _ _ _ _ _ : Workspace Text) = workspace
      have unattached : (workspace.attach "cli" path text).1 = .ok false := by
        rw [← opened]
        exact Workspace.attach_of_refusing rfl (refuses path) rfl "cli" path text
      cases attached : workspace.attach "cli" path text with
      | mk result after =>
          rw [attached] at unattached
          obtain rfl : result = .ok false := unattached
          exact ⟨_, rfl, rfl⟩

/-- Where no server can be started, a run ends with the code of a failure, or with that of
    arguments that are of no use, unless it breaks off. No path and no home folder has a NUL. -/
theorem run_ends_or_breaksOff {surroundings : Surroundings} {place : Text} {bytes : List UInt8}
    (refuses : ∀ path, (surroundings.launcherFor path).Refuses)
    (found : Settings.firstExisting? surroundings.source
      (Settings.candidates surroundings.whereabouts) = .ok (some place))
    (content : surroundings.source place = .ok bytes)
    (usableHome : Path.isUsable surroundings.home = true)
    (usableHomes : ∀ entry ∈ surroundings.homes, Path.isUsable entry.2 = true)
    {argv : List Text}
    (usable : ∀ arguments, Arguments.parse argv = some arguments →
      Path.isUsable arguments.file = true) :
    (¬surroundings.BreaksOff bytes argv ∧ ∃ outcome, run surroundings argv = .ok outcome ∧
      outcome.code = if (Arguments.parse argv).isSome then 1 else 2) ∨
    (surroundings.BreaksOff bytes argv ∧ ∃ fault, run surroundings argv = .error fault) := by
  unfold run
  cases parsed : Arguments.parse argv with
  | none =>
      refine .inl ⟨?_, _, rfl, rfl⟩
      rintro ⟨arguments, other, _⟩
      rw [parsed] at other
      cases other
  | some arguments =>
      rw [Surroundings.breaksOff_iff parsed]
      unfold runWith
      dsimp only
      rw [← Surroundings.home]
      rcases expandHome_cases (usable arguments parsed) usableHome usableHomes with
        ⟨homeless, refused⟩ | ⟨housed, path, expanded, usablePath⟩
      · rw [refused]
        exact .inr ⟨.inl homeless, _, rfl⟩
      · rw [expanded]
        simp only [bind, Except.bind]
        rw [Path.obstacle?_of_isUsable usablePath]
        cases read : surroundings.source.readText path with
        | error fault =>
            refine .inl ⟨?_, _, rfl, rfl⟩
            rintro (homeless | ⟨⟨other, text, others, isRead⟩, _⟩)
            · exact housed homeless
            · cases expanded.symm.trans others
              cases read.symm.trans isRead
        | ok text =>
            dsimp only
            rcases showFile_cases refuses found content arguments path (Text.ofChars text) with
              ⟨sound, outcome, shown, code⟩ | ⟨breaks, refused⟩
            · refine .inl ⟨?_, outcome, shown, code⟩
              rintro (homeless | ⟨_, breaks⟩)
              · exact housed homeless
              · exact sound breaks
            · exact .inr ⟨.inr ⟨⟨path, text, expanded, read⟩, breaks⟩, refused⟩

end

open scoped Host.Bare

/-- A working folder with a settings file, a file beside it, and no server that can be started. -/
def settledBy (settingsFile : List UInt8) : Surroundings where
  source path :=
    if path = "a.json" then .ok []
    else if path = "/proj/editor.json" then .ok settingsFile
    else .error .notFound
  launcherFor _ _ := .refused "not found"
  whereabouts := { folder := "/proj", homeFolder := "/home" }

/-- The settings file of an object without entries. -/
def emptyObject : List UInt8 := [123, 125]

theorem run_emptyObject :
    ∃ outcome, run (settledBy emptyObject) ["a.json"] = .ok outcome ∧ outcome.code = 1 := by
  have parsed : Arguments.parse ["a.json"] = some { file := "a.json" } := by decide +kernel
  have read : Settings.written emptyObject = some (.ok (.obj [])) := by with_unfolding_all rfl
  have ends := @run_ends_or_breaksOff _ (settledBy emptyObject) "/proj/editor.json" emptyObject
    (fun _ => Launcher.refuses_of_refused fun _ => rfl) (by decide +kernel) rfl
    (by decide +kernel) nofun ["a.json"]
    (by rintro _ other; cases parsed.symm.trans other; decide +kernel)
  rw [Surroundings.breaksOff_iff parsed, Settings.breaks_iff_of_object read,
    homeless_iff rfl (by decide +kernel : Path.names "a.json" = ["a.json"])] at ends
  rcases ends with ⟨_, outcome, ended, code⟩ | ⟨⟨_, tilde, _⟩ | ⟨_, deep | unfit⟩, _⟩
  · rw [parsed] at code
    exact ⟨outcome, ended, code⟩
  · cases tilde
  · exact absurd deep (by decide)
  · exact absurd unfit (Settings.not_unfit_of_taken rfl)

/-- Settings that are a number end the start, though they are no object of settings. -/
theorem run_numberedSettings :
    run (settledBy [123, 34, 108, 115, 112, 34, 58, 53, 125]) ["a.json"] =
      .error (.withoutItems "int") := by
  decide +kernel

end CommandLine

end LanguageClient
