import LanguageClient.Proofs.Session.Failures
import LanguageClient.Proofs.Session.Steady
import LanguageClient.Proofs.Workspace.Sound

/-! # Workspaces with steady servers

A workspace and its session each keep their own account of the files. Where servers are steady
the two agree after every call: the session has open what editors show and nothing else, until
the server is stopped. With the server the workspace lets all editors go.
-/

namespace LanguageClient

/-- The documents that are open are those of the files that have a count, each of them under its
    own path. Paths are loose, so that no two of them have one URI. -/
structure Agree [Places] (documents : DocumentStore) (counts : Table Text Nat) : Prop where
  loose : ∀ path, Table.has counts path = true → Uri.IsLoose path
  same : ∀ uri path, documents.pathAt? uri = some path ↔
    Table.has counts path = true ∧ Uri.ofPath path = uri

namespace Agree

open Table (has_put has_remove)

variable {documents after : DocumentStore} {counts : Table Text Nat} {path text : Text}
  {params : Json} [Places]

theorem of_nothing (nothing : ∀ path, Table.has counts path = false) : Agree {} counts where
  loose path known := absurd known (Bool.eq_false_iff.mp (nothing path))
  same uri path := by
    rw [nothing path]
    exact ⟨nofun, fun both => absurd both.1 nofun⟩

theorem isOpen (agree : Agree documents counts) (known : Table.has counts path = true) :
    documents.isOpen path = true := by
  have found := (agree.same (Uri.ofPath path) path).mpr ⟨known, rfl⟩
  rw [DocumentStore.isOpen_eq, ← DocumentStore.isSome_pathAt?, found]
  rfl

theorem known (agree : Agree documents counts) (loose : Uri.IsLoose path)
    (isOpen : documents.isOpen path = true) : Table.has counts path = true := by
  rw [DocumentStore.isOpen_eq, ← DocumentStore.isSome_pathAt?] at isOpen
  obtain ⟨other, found⟩ := Option.isSome_iff_exists.mp isOpen
  obtain ⟨known, sameUri⟩ := (agree.same _ other).mp found
  exact Uri.ofPath_injective (agree.loose other known) loose sameUri ▸ known

/-- One more or one less editor of a file that is shown makes no difference. -/
theorem recount (agree : Agree documents counts) (known : Table.has counts path = true)
    (count : Nat) : Agree documents (Table.put counts path count) := by
  have same (other : Text) : Table.has (Table.put counts path count) other = true ↔
      Table.has counts other = true := by
    rw [has_put]
    constructor
    · rintro (rfl | earlier)
      · exact known
      · exact earlier
    · exact .inr
  constructor
  · intro other counted
    exact agree.loose other ((same other).mp counted)
  · intro uri other
    rw [same other]
    exact agree.same uri other

theorem openDocument (agree : Agree documents counts) (loose : Uri.IsLoose path)
    {languageId : Text}
    (opened : documents.openDocument path text languageId = (some params, after)) (count : Nat) :
    Agree after (Table.put counts path count) := by
  have allLoose (other : Text) (known : Table.has (Table.put counts path count) other = true) :
      Uri.IsLoose other := by
    rcases has_put count |>.mp known with rfl | earlier
    · exact loose
    · exact agree.loose other earlier
  refine ⟨allLoose, ?_⟩
  intro uri other
  rw [DocumentStore.pathAt?_openDocument opened]
  split
  · next isUri =>
    constructor
    · intro same
      obtain rfl := Option.some.inj same
      exact ⟨(has_put count).mpr (.inl rfl), isUri.symm⟩
    · rintro ⟨known, sameUri⟩
      exact congrArg some (Uri.ofPath_injective loose (allLoose other known)
        (isUri.symm.trans sameUri.symm))
  · next different =>
    rw [agree.same uri other, has_put]
    constructor
    · rintro ⟨known, sameUri⟩
      exact ⟨.inr known, sameUri⟩
    · rintro ⟨rfl | known, sameUri⟩
      · exact absurd sameUri.symm different
      · exact ⟨known, sameUri⟩

theorem change (agree : Agree documents counts) (keyed : documents.Keyed) {document : Document}
    (changed : documents.change path text = (some (document, params), after)) :
    Agree after counts := by
  refine ⟨agree.loose, ?_⟩
  intro uri other
  rw [DocumentStore.pathAt?_change keyed changed]
  exact agree.same uri other

theorem close (agree : Agree documents counts) (keyed : documents.Keyed)
    (shown : Table.has counts path = true)
    (closed : documents.close path = (some params, after)) :
    Agree after (Table.remove counts path) := by
  constructor
  · intro other known
    exact agree.loose other (has_remove.mp known).2
  · intro uri other
    rw [DocumentStore.pathAt?_close keyed closed, has_remove]
    split
    · next isUri =>
      refine ⟨nofun, ?_⟩
      rintro ⟨⟨different, known⟩, sameUri⟩
      exact absurd (Uri.ofPath_injective (agree.loose other known) (agree.loose path shown)
        (sameUri.trans isUri)) different
    · next elsewhere =>
      rw [agree.same uri other]
      constructor
      · rintro ⟨known, sameUri⟩
        refine ⟨⟨?_, known⟩, sameUri⟩
        rintro rfl
        exact elsewhere sameUri.symm
      · rintro ⟨⟨_, known⟩, sameUri⟩
        exact ⟨known, sameUri⟩

end Agree

namespace Workspace

open Session (Lasts grows_of_turns start_of_steady lasts_didOpen lasts_didChange lasts_didClose
  lasts_requestCompletion lasts_tick lasts_processAvailable lasts_changePeer lasts_deliver)

variable {workspace next : Workspace Text} {key editor path text : Text} [Host]

/-- Servers are steady. What editors show is what is open, as long as a server runs, and without
    one there are no editors. -/
structure Exact (workspace : Workspace Text) : Prop where
  steady : workspace.session.Steady
  named : ∀ editor path, Table.get? workspace.editors editor = some path →
    Text.strip editor = editor
  agree : workspace.session.isRunning = true →
    Agree workspace.session.documents workspace.counts
  nobody : workspace.session.isRunning = false → workspace.editors = []

theorem Exact.running (exact : workspace.Exact)
    (found : Table.get? workspace.editors key = some path) :
    workspace.session.isRunning = true := by
  by_contra idle
  rw [exact.nobody (Bool.eq_false_iff.mpr idle)] at found
  exact absurd found nofun

theorem Exact.shown (exact : workspace.Exact) (sound : workspace.Sound)
    (known : workspace.isShown path = true) : workspace.session.isRunning = true := by
  obtain ⟨editor, found⟩ := sound.tally.has_iff.mp known
  exact exact.running found

/-- A call that lets no server go, opens and closes nothing, and shows and hides nothing. -/
theorem Exact.keep (exact : workspace.Exact) (lasts : Lasts workspace.session next.session)
    (editors : next.editors = workspace.editors) (counts : next.counts = workspace.counts) :
    next.Exact where
  steady := lasts.steady
  named := editors ▸ exact.named
  agree running := by
    rw [lasts.documents, counts]
    exact exact.agree (lasts.isRunning ▸ running)
  nobody idle := by
    rw [editors]
    exact exact.nobody (lasts.isRunning ▸ idle)

theorem exact_of_nothing (steady : next.session.Steady) (editors : next.editors = [])
    (documents : next.session.documents = {})
    (nothing : ∀ path, Table.has next.counts path = false) : next.Exact where
  steady := steady
  named editor path found := by
    rw [editors] at found
    exact absurd found nofun
  agree _ := by
    rw [documents]
    exact .of_nothing nothing
  nobody _ := editors

/-- A call of which the server that runs was told, so that it has other documents. -/
theorem exact_of_told {documents : DocumentStore}
    (running : workspace.session.isRunning = true)
    (lasts : Lasts { workspace.session with documents } next.session)
    (agree : Agree documents next.counts)
    (named : ∀ editor path, Table.get? next.editors editor = some path →
      Text.strip editor = editor) : next.Exact where
  steady := lasts.steady
  named := named
  agree _ := by
    rw [lasts.documents]
    exact agree
  nobody idle := absurd (lasts.isRunning.trans running) (Bool.eq_false_iff.mp idle)

/-! ## Servers -/

omit [Host] in
theorem lasts_publish {session : Session Text} (steady : session.Steady) (path : Text)
    (items : List Diagnostic) : Lasts session (session.emit (.diagnostics path items)) :=
  steady.keep rfl rfl rfl

omit [Host] in
theorem lasts_clearDiagnosticsOf {session : Session Text} (steady : session.Steady)
    (paths : List Text) : Lasts session (clearDiagnosticsOf session paths) := by
  induction paths generalizing session with
  | nil => exact steady.lasts
  | cons path rest ih =>
      have cleared := lasts_publish steady path []
      exact cleared.trans (ih cleared.steady)

theorem Exact.letGo (exact : workspace.Exact) (sound : workspace.Sound)
    (stopped : workspace.clearAllDiagnostics.session.stop.1 = .ok ()) : workspace.letGo.Exact :=
  exact_of_nothing (lasts_clearDiagnosticsOf exact.steady _).steady.stop sound.letGo_editors
    (letGo_idle sound.backed stopped).2 fun _ => rfl

theorem Exact.shutdown (exact : workspace.Exact) (sound : workspace.Sound)
    (short : workspace.shutdown.2.session.IsShort) : workspace.shutdown.2.Exact :=
  exact_of_nothing (lasts_clearDiagnosticsOf exact.steady _).steady.stop rfl
    (letGo_idle sound.backed (sound.letGo_stopped short)).2 fun _ => rfl

/-- Without a server nothing is shown, so that there is nothing that a new one would have to be
    told of. -/
theorem Exact.startServer (exact : workspace.Exact) (sound : workspace.Sound)
    (idle : workspace.session.isRunning = false) (command : Text) :
    (workspace.startServer command).2.Exact := by
  have anew := start_of_steady exact.steady idle command workspace.root
  obtain ⟨editors, counts, _⟩ := startServer_kept workspace command
  rw [← startServer_session] at anew
  refine exact_of_nothing anew.steady (editors.trans (exact.nobody idle)) anew.documents ?_
  intro path
  rw [counts, ← Bool.not_eq_true]
  intro known
  exact absurd (exact.shown sound known) (Bool.eq_false_iff.mp idle)

theorem Ensuring.exact {command : Text} {outcome : Except Fault Bool × Workspace Text}
    (ensuring : Ensuring workspace command outcome) (exact : workspace.Exact)
    (sound : workspace.Sound) (short : outcome.2.session.IsShort) :
    outcome.2.Exact := by
  cases ensuring with
  | kept running same => exact exact
  | launched idle => exact exact.startServer sound idle command
  | unleft running other unstopped =>
      exact absurd ((sound.letGo_stopped short).symm.trans unstopped) nofun
  | switched running other stopped =>
      exact (exact.letGo sound stopped).startServer sound.letGo
        (letGo_idle sound.backed stopped).1 command

/-! ## Hiding files -/

theorem named_remove (exact : workspace.Exact) (name : Text) (editor path : Text)
    (found : Table.get? (Table.remove workspace.editors name) editor = some path) :
    Text.strip editor = editor := by
  by_cases same : editor = name
  · rw [same, Table.get?_remove_self] at found
    exact absurd found nofun
  · rw [Table.get?_remove_of_ne same] at found
    exact exact.named editor path found

theorem Detaching.exact {outcome : Except Fault Unit × Workspace Text}
    (detaching : Detaching workspace editor outcome) (exact : workspace.Exact)
    (sound : workspace.Sound) : outcome.2.Exact := by
  -- The session has closed the document by the time that the message about it may be withheld.
  have closes {path : Text} (found : workspace.pathFor? editor = some path) {session : Session Text}
      (lasts : ∀ {documents : DocumentStore},
        Lasts { workspace.session with documents } (workspace.session.didClose path).2 →
        Lasts { workspace.session with documents } session) :
      (workspace.closing editor path session).Exact := by
    have running := exact.running found
    have agree := exact.agree running
    have known : workspace.isShown path = true := sound.tally.has_iff.mpr ⟨_, found⟩
    obtain ⟨params, documents, closed⟩ := DocumentStore.close_of_isOpen (agree.isOpen known)
    exact exact_of_told running (lasts (lasts_didClose exact.steady running closed))
      (agree.close sound.inStep.keyed known closed) (named_remove exact _)
  cases detaching with
  | unknown absent => exact exact
  | @hidden path found others =>
      have running := exact.running found
      have known : workspace.isShown path = true := sound.tally.has_iff.mpr ⟨_, found⟩
      exact exact_of_told running exact.steady.lasts ((exact.agree running).recount known _)
        (named_remove exact _)
  | unclosed found last withheld => exact closes found fun told => told
  | closed found last =>
      exact closes found fun told => told.trans (lasts_publish told.steady _ [])

/-! ## Showing files -/

theorem named_put (exact : workspace.Exact) {name : Text} (named : Text.strip name = name)
    (path editor shown : Text)
    (found : Table.get? (Table.put workspace.editors name path) editor = some shown) :
    Text.strip editor = editor := by
  by_cases same : editor = name
  · rw [same]
    exact named
  · rw [Table.get?_put_of_ne same] at found
    exact exact.named editor shown found

theorem Exact.change (exact : workspace.Exact) (sound : workspace.Sound)
    (known : workspace.isShown path = true) (text : Text) :
    (workspace.change path text).2.Exact := by
  have running := exact.shown sound known
  have agree := exact.agree running
  obtain ⟨document, params, documents, changed⟩ :=
    DocumentStore.change_of_isOpen (agree.isOpen known) text
  exact exact_of_told running (lasts_didChange exact.steady running changed)
    (agree.change sound.inStep.keyed changed) exact.named

theorem Exact.place (exact : workspace.Exact) (sound : workspace.Sound)
    (running : workspace.session.isRunning = true) (keyed : Text.strip key = key)
    (loose : Uri.IsLoose path) (named : Uri.ofPath path ≠ "") (text : Text)
    (language : Language) : (workspace.place key path text language).2.Exact := by
  have agree := exact.agree running
  simp only [Workspace.place]
  split
  · next counted =>
    have isOpen : workspace.session.documents.isOpen path = true :=
      (Bool.and_eq_true_iff.mp counted).2
    obtain ⟨document, params, documents, changed⟩ := DocumentStore.change_of_isOpen isOpen text
    exact exact_of_told running (lasts_didChange exact.steady running changed)
      ((agree.change sound.inStep.keyed changed).recount (agree.known loose isOpen) _)
      (named_put exact keyed path)
  · next uncounted =>
    -- A file that is open has a count above zero, so that only a closed one gets here.
    have closed : workspace.session.documents.isOpen path = false := by
      rw [← Bool.not_eq_true]
      intro isOpen
      have counted : workspace.countOf path > 0 :=
        sound.tally.count_pos (agree.known loose isOpen)
      exact uncounted (by simpa [isOpen] using counted)
    obtain ⟨params, documents, opened⟩ :=
      DocumentStore.openDocument_of_closed named closed text language.name
    exact exact_of_told running (lasts_didOpen exact.steady running opened)
      (agree.openDocument loose opened _) (named_put exact keyed path)

theorem Exact.showNew (exact : workspace.Exact) (sound : workspace.Sound)
    (keyed : Text.strip key = key) (loose : Uri.IsLoose path) (text : Text)
    (short : (workspace.showNew key path text).2.session.IsShort) :
    (workspace.showNew key path text).2.Exact := by
  have outcome := showing workspace key path text
  generalize workspace.showNew key path text = result at outcome short ⊢
  cases outcome with
  | unserved => exact exact
  | refused ensuring unserved => exact ensuring.exact exact sound short
  | @placed language hosting spoken served ensuring =>
      have placing := grows_of_turns (place_turns hosting key path text language)
      have ready := ensuring.exact exact sound (short.earlier placing)
      have running := (ensuring.served sound.backed rfl).1
      exact ready.place (ensuring.sound sound) running keyed loose
        (Uri.ofPath_ne_empty spoken) text language

theorem Exact.attach (exact : workspace.Exact) (sound : workspace.Sound) (editor : Text)
    (loose : Uri.IsLoose path) (text : Text)
    (short : (workspace.attach editor path text).2.session.IsShort) :
    (workspace.attach editor path text).2.Exact := by
  have hides := detaching workspace editor
  have outcome := attaching workspace editor path text
  generalize workspace.attach editor path text = result at outcome short ⊢
  cases outcome with
  | nameless blank => exact exact
  | again known => exact exact
  | unhidden other stuck => exact hides.exact exact sound
  | anew other hidden =>
      exact (hides.exact exact sound).showNew (hides.sound sound) (Text.strip_strip editor)
        loose text short

/-! ## Every call, every run -/

/-- Everything but the starts and the ends of servers and the openings and closings of
    documents. -/
theorem lasts_ambient {session : Session Text} (steady : session.Steady)
    {action : Session.Action Text} (ambient : action.isAmbient = true)
    (isSteady : action.isSteady = true) : Lasts session (session.perform action) := by
  cases action with
  | tick => exact lasts_tick steady
  | processAvailable => exact lasts_processAvailable steady
  | updateSettings settings =>
      simp only [Session.perform, Session.updateSettings]
      split
      · exact steady.keep rfl rfl rfl
      · exact steady.lasts
  | setLogTraffic enabled => exact steady.keep rfl rfl rfl
  | setClock now => exact steady.keep rfl rfl rfl
  | setLauncher launcher => exact steady.keep rfl rfl rfl
  | prepareWrites writes flushes =>
      obtain ⟨willing, unfailing⟩ : .fails ∉ writes ∧ true ∉ flushes := by
        simpa [Session.Action.isSteady] using isSteady
      exact ⟨⟨⟨willing, unfailing, nofun⟩, steady.connected⟩, rfl, rfl⟩
  | takeWritesAs writes flushes =>
      obtain ⟨willing, unfailing⟩ : .fails ∉ writes ∧ true ∉ flushes := by
        simpa [Session.Action.isSteady] using isSteady
      exact lasts_changePeer steady (fun peer => { peer with writes, flushes })
        fun peer holds => ⟨willing, unfailing, holds.incoming⟩
  | arrive bytes =>
      cases bytes with
      | nil => exact steady.lasts
      | cons byte rest => exact lasts_deliver steady rfl
  | interruptRead => exact lasts_deliver steady rfl
  | hangUp => exact absurd isSteady Bool.false_ne_true
  | failRead => exact absurd isSteady Bool.false_ne_true
  | _ => exact absurd ambient nofun

/-- Servers are steady through the action, and the paths of the files that it shows are loose. -/
def Action.IsSteady : Action → Prop
  | .attach _ path _ => Uri.IsLoose path
  | .around action _ => action.isSteady = true
  | _ => True

/-- The workspaces that runs with steady servers lead to. -/
inductive Undisturbed : Workspace Text → Prop where
  | fresh (processId : Int) (folder root : Text) (languages : Languages) :
      Undisturbed { session := { processId, folder }, languages, root }
  | perform {workspace : Workspace Text} (before : Undisturbed workspace) (action : Action)
      (steady : action.IsSteady) : Undisturbed (workspace.perform action)

theorem Undisturbed.reachable (undisturbed : Undisturbed workspace) : Reachable workspace := by
  induction undisturbed with
  | fresh processId folder root languages => exact .fresh processId folder root languages
  | perform _ action _ reachable => exact reachable.perform action

theorem Relaying.exact {session : Session Text} (relaying : Relaying workspace session)
    (exact : workspace.Exact) (sound : workspace.Sound) :
    Exact { workspace with session } := by
  cases relaying with
  | withheld => exact exact
  | didChange shown text => exact exact.change sound shown text
  | scheduleHover target =>
      exact exact.keep ((Session.calm_scheduleHover _ target).lasts exact.steady) rfl rfl
  | clearHover => exact exact.keep ((Session.calm_clearHover _).lasts exact.steady) rfl rfl
  | requestCompletion path line col trigger triggerKind =>
      exact exact.keep (lasts_requestCompletion exact.steady path line col trigger _) rfl rfl

theorem Exact.perform (exact : workspace.Exact) (sound : workspace.Sound) {action : Action}
    (steady : action.IsSteady) (short : (workspace.perform action).session.IsShort) :
    (workspace.perform action).Exact := by
  have outcome := performing workspace action
  generalize workspace.perform action = next at outcome short ⊢
  cases outcome with
  | attach editor path text => exact exact.attach sound editor steady text short
  | detach editor => exact (detaching workspace editor).exact exact sound
  | relayed relaying => exact relaying.exact exact sound
  | clearAllDiagnostics =>
      exact exact.keep (lasts_clearDiagnosticsOf exact.steady _) rfl rfl
  | shutdown => exact exact.shutdown sound short
  | around action ambient => exact exact.keep (lasts_ambient exact.steady ambient steady) rfl rfl

theorem Undisturbed.exact (undisturbed : Undisturbed workspace)
    (short : workspace.session.IsShort) : workspace.Exact := by
  induction undisturbed with
  | fresh processId folder root languages =>
      exact exact_of_nothing (Session.steady_fresh processId folder) rfl rfl fun _ => rfl
  | perform before action steady exact =>
      have earlier := short.earlier (grows_of_turns (perform_turns _ action))
      exact (exact earlier).perform before.reachable.sound steady short

/-- After every call of a run with steady servers the open documents are those of the files that
    editors show, if a server runs. If none runs, there are no editors. Only so long is the run that
    requests do not run out of numbers. -/
theorem holds_iff_shown (undisturbed : Undisturbed workspace)
    (short : workspace.session.IsShort) :
    (workspace.session.isRunning = true → ∀ path,
      workspace.session.documents.Holds path ↔
        ∃ editor, workspace.pathFor? editor = some path) ∧
    (workspace.session.isRunning = false → workspace.editors = []) := by
  have exact := undisturbed.exact short
  have tally := undisturbed.reachable.sound.tally
  refine ⟨?_, exact.nobody⟩
  intro running path
  have agree := exact.agree running
  constructor
  · rintro ⟨uri, found⟩
    obtain ⟨editor, shows⟩ := tally.has_iff.mp ((agree.same uri path).mp found).1
    refine ⟨editor, ?_⟩
    rw [pathFor?, exact.named editor path shows]
    exact shows
  · rintro ⟨editor, shows⟩
    have known : workspace.isShown path = true := tally.has_iff.mpr ⟨_, shows⟩
    exact ⟨Uri.ofPath path, (agree.same _ path).mpr ⟨known, rfl⟩⟩

/-! ## Two editors and two servers -/

end Workspace

end LanguageClient

open scoped LanguageClient.Host.Bare

namespace LanguageClient.Workspace

def routes : Languages :=
  [{ name := "python", suffixes := [".py"], command := "pylsp" },
    { name := "rust", suffixes := [".rs"], command := "rust-analyzer" }]

/-- Two editors show one file, and one of them goes on to another. -/
def parted : Workspace Text :=
  ((perform { session := { processId := 1, folder := "/home" }
              root := "proj"
              languages := routes }
    (.attach "left" "a.py" "x")).perform (.attach "right" "a.py" "y")).perform
    (.attach "right" "b.py" "z")

/-- Then it goes on to a file of which the server cannot be started. -/
def stranded : Workspace Text :=
  (parted.perform (.around (.setLauncher fun _ => .refused "missing") rfl)).perform
    (.attach "right" "c.rs" "z")

theorem isLoose_of_bare {path : Text} (trimmed : Text.strip path = path)
    (relative : Path.isAbsolute path = false) : Uri.IsLoose path :=
  ⟨trimmed, rfl, relative⟩

theorem undisturbed_parted : Undisturbed parted :=
  (((Undisturbed.fresh 1 "/home" "proj" routes).perform (.attach "left" "a.py" "x")
    (isLoose_of_bare (by decide) rfl)).perform (.attach "right" "a.py" "y")
    (isLoose_of_bare (by decide) rfl)).perform (.attach "right" "b.py" "z")
    (isLoose_of_bare (by decide) rfl)

theorem undisturbed_stranded : Undisturbed stranded :=
  (undisturbed_parted.perform (.around (.setLauncher fun _ => .refused "missing") rfl)
    rfl).perform (.attach "right" "c.rs" "z") (isLoose_of_bare (by decide) rfl)

theorem state_parted :
    parted.session.isRunning = true ∧
      parted.editors = ([("left", "a.py"), ("right", "b.py")] : Table Text Text) ∧
      stranded.session.isRunning = false ∧ parted.session.IsShort ∧
      stranded.session.IsShort := by
  decide +kernel

/-- The first server has both files open. The editors go with it. -/
theorem holds_parted :
    parted.session.documents.Holds "a.py" ∧ parted.session.documents.Holds "b.py" ∧
      stranded.editors = [] := by
  obtain ⟨running, editors, idle, short, shortLater⟩ := state_parted
  have left : parted.pathFor? "left" = some ("a.py" : Text) := by
    rw [pathFor?, editors]
    decide
  have right : parted.pathFor? "right" = some ("b.py" : Text) := by
    rw [pathFor?, editors]
    decide
  have shown := (holds_iff_shown undisturbed_parted short).1 running
  exact ⟨(shown "a.py").mpr ⟨_, left⟩, (shown "b.py").mpr ⟨_, right⟩,
    (holds_iff_shown undisturbed_stranded shortLater).2 idle⟩

end LanguageClient.Workspace
