import LanguageClient.Proofs.Session.Failures
import LanguageClient.Proofs.Session.Takings
import LanguageClient.Proofs.Workspace.Sound

/-! # Diagnostics are retracted

The host keeps the diagnostics of a file as it was told of them last. A server can have some told
only of a file that is open, and every open document is the one of a file that an editor shows,
under its own path. A file that is shown no more has its diagnostics taken back when it is let
go, behind which nothing can be told of it; this holds for a file as well that a crash has closed
behind the back of its editors.

It does not hold where the closing is withheld from the server: then it is not even taken back from
the host.
-/

namespace LanguageClient

/-- The diagnostics of a file that news tell of. -/
def News.diagnosticsOf? (path : Text) : News → Option (List Diagnostic)
  | .diagnostics other items => if other = path then some items else none
  | .semanticTokens _ _ => none

namespace Session

variable {session before after : Session Text} {path : Text} [Host]

/-- What the host was told of the diagnostics of a file, in order. -/
def reports (session : Session Text) (path : Text) : List (List Diagnostic) :=
  session.news.filterMap (News.diagnosticsOf? path)

/-- As far as the host was told, a file has no diagnostics. -/
def Retracted (session : Session Text) (path : Text) : Prop :=
  ∀ items, (session.reports path).getLast? = some items → items = []

omit [Host] in
theorem Retracted.of_news (retracted : before.Retracted path) (news : after.news = before.news) :
    after.Retracted path := by
  rw [Retracted, reports, news]
  exact retracted

omit [Host] in
/-- News of other files take nothing back. -/
theorem Retracted.of_others (retracted : before.Retracted path) {more : List News}
    (grown : after.news = before.news ++ more) (others : ∀ news ∈ more, news.path ≠ path) :
    after.Retracted path := by
  have none : more.filterMap (News.diagnosticsOf? path) = [] := by
    apply List.filterMap_eq_nil_iff.mpr
    intro news member
    cases news with
    | semanticTokens other tokens => rfl
    | diagnostics other items => exact if_neg (others _ member)
  rw [Retracted, reports, grown, List.filterMap_append, none, List.append_nil]
  exact retracted

omit [Host] in
theorem retracted_emit (session : Session Text) (path : Text) :
    (session.emit (.diagnostics path [])).Retracted path := by
  have told : (session.emit (.diagnostics path [])).reports path =
      session.reports path ++ [[]] := by
    rw [reports, news_emit, List.filterMap_append]
    simp [Event.news?, News.diagnosticsOf?, reports]
  intro items last
  rw [told, List.getLast?_append] at last
  exact (Option.some.inj last).symm

omit [Host] in
theorem Retracted.emit (retracted : session.Retracted path) (other : Text) :
    (session.emit (.diagnostics other [])).Retracted path := by
  by_cases same : other = path
  · rw [same]
    exact retracted_emit session path
  · refine retracted.of_others (news_emit session _) fun news member => ?_
    rw [List.mem_singleton.mp member]
    exact same

/-- The host has been told of documents that were open before, and of no others. -/
def Informs (before after : Session Text) : Prop :=
  ∃ more, after.news = before.news ++ more ∧
    ∀ news ∈ more, ∃ uri, before.documents.pathAt? uri = some news.path

omit [Host] in
theorem informs_of_news (same : after.news = before.news) : Informs before after :=
  ⟨[], by rw [same, List.append_nil], nofun⟩

omit [Host] in
theorem Informs.same {middle : Session Text} (informs : Informs before middle)
    (same : after.news = middle.news) : Informs before after := by
  obtain ⟨more, grown, known⟩ := informs
  exact ⟨more, same.trans grown, known⟩

omit [Host] in
theorem Informs.told {middle : Session Text} (informs : Informs before middle) {news : News}
    (told : after.news = middle.news ++ [news])
    (known : ∃ uri, before.documents.pathAt? uri = some news.path) : Informs before after := by
  obtain ⟨more, grown, all⟩ := informs
  refine ⟨more ++ [news], by rw [told, grown, List.append_assoc], ?_⟩
  intro other member
  rcases List.mem_append.mp member with earlier | last
  · exact all other earlier
  · rw [List.mem_singleton.mp last]
    exact known

/-- What a server lets be told is about documents that are open when it is listened to. -/
theorem processAvailable_informs (inStep : session.InStep) (once : session.documents.Once) :
    Informs session session.processAvailable.2 := by
  -- While messages are taken, no document is opened, so what is open then was open before.
  have known {later : Session Text} (heard : Hearings session later) {uri : Text}
      {document : Document} (found : later.documents.findByUri? uri = some document) :
      ∃ uri, session.documents.pathAt? uri = some document.path := by
    have moves := moves_of_turns (turns_of_hearings heard)
    have keyed := (keep_of_chain (@Move.inStep _) moves inStep).keyed
    have isOpen := (DocumentStore.findByUri?_eq_some keyed (once_of_moves moves once) found).1
    exact ⟨document.uri, pathAt?_of_hearings heard inStep
      (congrArg (Option.map Document.path) isOpen)⟩
  have reached : Hearings session session.processAvailable.2 ∧
      Informs session session.processAvailable.2 := by
    apply processAvailable_keeps
      (motive := fun later => Hearings session later ∧ Informs session later)
    · exact ⟨.refl, informs_of_news rfl⟩
    · intro connection running
      exact ⟨.single (.plain (.receive running)), informs_of_news rfl⟩
    · intro later message ⟨heard, informs⟩
      exact ⟨heard.tail (.plain (.logMessage later .incoming message)),
        informs.same (news_logMessage later .incoming message)⟩
    · intro later message _ ⟨heard, informs⟩
      refine ⟨heard.trans (takeMessage_hearings later message), ?_⟩
      have brings := takeMessage_brings later message
      generalize (later.takeMessage message).2 = next at brings ⊢
      cases brings with
      | nothing same => exact informs.same same
      | diagnostics unasked method named found =>
          exact informs.told (news_emit later _) (known heard found)
      | tokens responds waits found => exact informs.told (news_emit _ _) (known heard found)
    · rintro connection last _ _ running ⟨heard, informs⟩
      exact ⟨heard.tail (.plain (.serverExited running)), informs.same (news_disable last _)⟩
  exact reached.2

theorem ambient_informs (inStep : session.InStep) (once : session.documents.Once)
    (action : Action Text) : Informs session (session.perform action) := by
  by_cases isTaking : action = .processAvailable
  · rw [isTaking]
    exact processAvailable_informs inStep once
  · exact informs_of_news (news_perform session isTaking)

omit [Host] in
theorem Informs.retracted (informs : Informs before after) (retracted : before.Retracted path)
    (closed : ∀ uri, before.documents.pathAt? uri ≠ some path) : after.Retracted path := by
  obtain ⟨more, grown, known⟩ := informs
  apply retracted.of_others grown
  rintro news member rfl
  obtain ⟨uri, found⟩ := known news member
  exact closed uri found

/-- The closing of a document at a path was withheld from a server. -/
def LeftOpen (session : Session Text) (path : Text) : Prop :=
  ∃ writing ∈ session.writings, writing.isWithheld = true ∧
    Telling.ofMessage? writing.message = some (.closes (Uri.ofPath path))

theorem LeftOpen.later (leftOpen : before.LeftOpen path) (grows : Grows before after) :
    after.LeftOpen path := by
  obtain ⟨writing, member, withheld⟩ := leftOpen
  exact ⟨writing, grows.writings.subset member, withheld⟩

theorem leftOpen_of_didClose (keyed : session.documents.Keyed) {fault : Fault}
    (withheld : (session.didClose path).1 = .error fault) :
    (session.didClose path).2.LeftOpen path := by
  cases known : session.document? path with
  | none =>
      rw [didClose_of_unknown known] at withheld
      exact absurd withheld nofun
  | some document =>
      obtain ⟨refresh, same⟩ := didClose_eq_send known
      rw [same] at withheld ⊢
      obtain ⟨writing, member, isWithheld, isMessage⟩ := mem_of_withheld withheld
      refine ⟨writing, member, isWithheld, ?_⟩
      rw [isMessage, ← uri_of_document? keyed known]
      rfl

end Session

namespace Workspace

open Session (Hearings Plains Grows grows_of_turns turns_of_hearings)
open Table (has_put has_remove)

variable {workspace next : Workspace Text} {key path : Text} [Host]

omit [Host] in
theorem retracted_clearDiagnosticsOf (session : Session Text) (paths : List Text)
    (retracted : path ∉ paths → session.Retracted path) :
    (clearDiagnosticsOf session paths).Retracted path := by
  induction paths generalizing session with
  | nil => exact retracted List.not_mem_nil
  | cons first rest ih =>
      apply ih
      intro others
      by_cases same : path = first
      · rw [same]
        exact Session.retracted_emit session first
      · exact (retracted fun member => (List.mem_cons.mp member).elim same others).emit first

/-- Editors go by their stripped names. What is open is shown, under the path that it was opened
    under, and what is not shown has no diagnostics, unless its closing was withheld. -/
structure Tidy (workspace : Workspace Text) : Prop where
  named : ∀ key path, Table.get? workspace.editors key = some path → Text.strip key = key
  placed : ∀ uri path, workspace.session.documents.pathAt? uri = some path →
    workspace.isShown path = true ∧ Uri.ofPath path = uri
  retracted : ∀ path, workspace.isShown path = false →
    workspace.session.LeftOpen path ∨ workspace.session.Retracted path

/-- A call that opens no document and lets no file go. -/
theorem Tidy.hear (tidy : workspace.Tidy) (inStep : workspace.session.InStep)
    (hearings : Hearings workspace.session next.session)
    (editors : next.editors = workspace.editors) (counts : next.counts = workspace.counts)
    (informs : Session.Informs workspace.session next.session) : next.Tidy where
  named := by
    rw [editors]
    exact tidy.named
  placed uri path found := by
    rw [isShown, counts]
    exact tidy.placed uri path (Session.pathAt?_of_hearings hearings inStep found)
  retracted path unshown := by
    rw [isShown, counts] at unshown
    rcases tidy.retracted path unshown with leftOpen | retracted
    · exact .inl (leftOpen.later (grows_of_turns (turns_of_hearings hearings)))
    · refine .inr (informs.retracted retracted fun uri found => ?_)
      exact Bool.false_ne_true (unshown.symm.trans (tidy.placed uri path found).1)

theorem Tidy.plains (tidy : workspace.Tidy) (inStep : workspace.session.InStep)
    (plains : Plains workspace.session next.session)
    (editors : next.editors = workspace.editors) (counts : next.counts = workspace.counts)
    (news : next.session.news = workspace.session.news) : next.Tidy :=
  tidy.hear inStep (Session.hearings_of_plains plains) editors counts
    (Session.informs_of_news news)

/-! ## Letting files go -/

/-- All files are let go, behind which none is open. -/
theorem Tidy.nothing (tidy : workspace.Tidy) (editors : next.editors = [])
    (documents : next.session.documents = {})
    (grows : Grows workspace.session next.session)
    (news : next.session.news = workspace.clearAllDiagnostics.session.news) : next.Tidy where
  named key path found := by
    rw [editors] at found
    exact absurd found nofun
  placed uri path found := by
    rw [documents] at found
    exact absurd found nofun
  retracted path _ := by
    cases unshown : workspace.isShown path with
    | true =>
        obtain ⟨count, found⟩ := Option.isSome_iff_exists.mp unshown
        have cleared : workspace.clearAllDiagnostics.session.Retracted path :=
          retracted_clearDiagnosticsOf _ _ fun others =>
            absurd (List.mem_map_of_mem (Table.mem_of_get? found)) others
        exact .inr (cleared.of_news news)
    | false =>
        rcases tidy.retracted path unshown with leftOpen | retracted
        · exact .inl (leftOpen.later grows)
        · have cleared : workspace.clearAllDiagnostics.session.Retracted path :=
            retracted_clearDiagnosticsOf _ _ fun _ => retracted
          exact .inr (cleared.of_news news)

theorem Tidy.clear (tidy : workspace.Tidy) (inStep : workspace.session.InStep) :
    workspace.clearAllDiagnostics.Tidy where
  named := tidy.named
  placed uri path found := by
    have hearings := Session.hearings_of_plains
      (clearDiagnosticsOf_plains workspace.session (Table.keys workspace.counts))
    exact tidy.placed uri path (Session.pathAt?_of_hearings hearings inStep found)
  retracted path unshown := by
    have plains := clearDiagnosticsOf_plains workspace.session (Table.keys workspace.counts)
    rcases tidy.retracted path unshown with leftOpen | retracted
    · exact .inl (leftOpen.later (grows_of_turns (turns_of_plains plains)))
    · exact .inr (retracted_clearDiagnosticsOf _ _ fun _ => retracted)

theorem grows_letGo (workspace : Workspace Text) :
    Grows workspace.session workspace.letGo.session :=
  grows_of_turns (turns_of_plains (letGo_plains workspace))

theorem Tidy.letGo (tidy : workspace.Tidy) (sound : workspace.Sound)
    (stopped : workspace.clearAllDiagnostics.session.stop.1 = .ok ()) : workspace.letGo.Tidy :=
  tidy.nothing sound.letGo_editors (letGo_idle sound.backed stopped).2 (grows_letGo workspace)
    (Session.news_stop _)

theorem Tidy.shutdown (tidy : workspace.Tidy) (sound : workspace.Sound)
    (short : workspace.shutdown.2.session.IsShort) : workspace.shutdown.2.Tidy :=
  tidy.nothing rfl (letGo_idle sound.backed (sound.letGo_stopped short)).2
    (grows_letGo workspace) (Session.news_stop _)

theorem Tidy.startServer (tidy : workspace.Tidy) (sound : workspace.Sound) (command : Text) :
    (workspace.startServer command).2.Tidy := by
  obtain ⟨editors, counts, _⟩ := startServer_kept workspace command
  have news := Session.news_start workspace.session command workspace.root
  rw [← startServer_session] at news
  exact tidy.plains sound.inStep (startServer_plains workspace command) editors counts news

theorem Ensuring.tidy {command : Text} {outcome : Except Fault Bool × Workspace Text}
    (ensuring : Ensuring workspace command outcome) (sound : workspace.Sound)
    (tidy : workspace.Tidy) (short : outcome.2.session.IsShort) :
    outcome.2.Tidy := by
  cases ensuring with
  | kept running same => exact tidy
  | launched idle => exact tidy.startServer sound command
  | unleft running other unstopped =>
      exact absurd ((sound.letGo_stopped short).symm.trans unstopped) nofun
  | switched running other stopped =>
      exact (tidy.letGo sound stopped).startServer sound.letGo command

/-- The last editor of a file lets it go: the document is closed, and then its diagnostics are
    taken back, if the closing was not withheld. -/
theorem Tidy.closing (tidy : workspace.Tidy) (sound : workspace.Sound) {editor path : Text}
    {session : Session Text}
    (named : ∀ key path, Table.get? (Table.remove workspace.editors (Text.strip editor)) key =
      some path → Text.strip key = key)
    (documents : session.documents = (workspace.session.didClose path).2.documents)
    (settled : session.LeftOpen path ∨ session.Retracted path)
    (kept : ∀ other, workspace.session.LeftOpen other ∨ workspace.session.Retracted other →
      session.LeftOpen other ∨ session.Retracted other) :
    (workspace.closing editor path session).Tidy := by
  have closes := Session.isOpen_of_didClose sound.inStep.keyed sound.backed path
  have plain : Session.Plain workspace.session (workspace.session.didClose path).2 :=
    .didClose workspace.session path
  refine ⟨named, fun uri other found => ?_, fun other unshown => ?_⟩
  · have isOpen : session.documents.pathAt? uri = some other := found
    rw [documents] at isOpen
    obtain ⟨shown, rfl⟩ := tidy.placed uri other
      (plain.revises.pathAt?_eq sound.inStep.keyed isOpen)
    have different : other ≠ path := by
      rintro rfl
      rw [DocumentStore.isOpen_eq, ← DocumentStore.isSome_pathAt?,
        Option.isSome_of_eq_some isOpen] at closes
      exact absurd closes nofun
    exact ⟨has_remove.mpr ⟨different, shown⟩, rfl⟩
  · by_cases same : other = path
    · rw [same]
      exact settled
    · have before : workspace.isShown other = false := by
        rw [Bool.eq_false_iff] at unshown ⊢
        exact fun shown => unshown (has_remove.mpr ⟨same, shown⟩)
      exact kept other (tidy.retracted other before)

theorem Detaching.tidy {editor : Text} {outcome : Except Fault Unit × Workspace Text}
    (detaching : Detaching workspace editor outcome) (sound : workspace.Sound)
    (tidy : workspace.Tidy) : outcome.2.Tidy := by
  have named {editor key path : Text} (found : Table.get?
      (Table.remove workspace.editors editor) key = some path) : Text.strip key = key := by
    by_cases same : key = editor
    · rw [same] at found
      exact absurd ((Table.get?_remove_self _ _).symm.trans found) nofun
    · exact tidy.named key path ((Table.get?_remove_of_ne same _).symm.trans found)
  cases detaching with
  | unknown absent => exact tidy
  | @hidden path found others =>
      refine ⟨fun _ _ => named, fun uri other isOpen => ?_, fun other unshown => ?_⟩
      · obtain ⟨shown, isUri⟩ := tidy.placed uri other isOpen
        exact ⟨(has_put _).mpr (.inr shown), isUri⟩
      · apply tidy.retracted other
        rw [Bool.eq_false_iff] at unshown ⊢
        exact fun shown => unshown ((has_put _).mpr (.inr shown))
  | @unclosed path fault found last withheld =>
      have leftOpen := Session.leftOpen_of_didClose sound.inStep.keyed withheld
      have grows := grows_of_turns (turns_of_plains
        (Relation.ReflTransGen.single (.didClose workspace.session path)))
      have news := Session.news_didClose workspace.session path
      exact tidy.closing sound (fun _ _ => named) rfl (.inl leftOpen) fun other =>
        Or.imp (·.later grows) (·.of_news news)
  | @closed path found last =>
      have grows := grows_of_turns (turns_of_plains
        ((Relation.ReflTransGen.single (.didClose workspace.session path)).tail
          (.publish _ path [])))
      have news := Session.news_didClose workspace.session path
      exact tidy.closing sound (fun _ _ => named) rfl (.inr (Session.retracted_emit _ path))
        fun other => Or.imp (·.later grows) fun retracted => (retracted.of_news news).emit path

/-! ## Showing files -/

/-- One more editor shows a file, and no document but the one of the file is opened. -/
theorem Tidy.show (tidy : workspace.Tidy) {session : Session Text}
    (named : Text.strip key = key) (path : Text)
    (opens : ∀ uri other, session.documents.pathAt? uri = some other →
      uri = Uri.ofPath path ∧ other = path ∨
        workspace.session.documents.pathAt? uri = some other)
    (grows : Grows workspace.session session) (news : session.news = workspace.session.news) :
    Tidy { workspace with
      editors := Table.put workspace.editors key path
      counts := Table.put workspace.counts path (workspace.countOf path + 1)
      session } where
  named other shown found := by
    by_cases same : other = key
    · rw [same]
      exact named
    · exact tidy.named other shown ((Table.get?_put_of_ne same _ _).symm.trans found)
  placed uri other found := by
    rcases opens uri other found with ⟨rfl, rfl⟩ | earlier
    · exact ⟨(has_put _).mpr (.inl rfl), rfl⟩
    · obtain ⟨shown, isUri⟩ := tidy.placed uri other earlier
      exact ⟨(has_put _).mpr (.inr shown), isUri⟩
  retracted other unshown := by
    refine (tidy.retracted other ?_).imp (·.later grows) (·.of_news news)
    rw [Bool.eq_false_iff] at unshown ⊢
    exact fun shown => unshown ((has_put _).mpr (.inr shown))

theorem Tidy.place (tidy : workspace.Tidy) (sound : workspace.Sound)
    (named : Text.strip key = key) (path text : Text) (language : Language) :
    (workspace.place key path text language).2.Tidy := by
  simp only [Workspace.place]
  split
  · have plains := workspace.session.didChange_plains path text
    refine tidy.show named path (fun uri other found => .inr ?_)
      (grows_of_turns (turns_of_plains plains))
      (Session.news_didChange workspace.session path text)
    exact Session.pathAt?_of_hearings (Session.hearings_of_plains plains) sound.inStep found
  · refine tidy.show named path (fun uri other found => ?_)
      (grows_of_turns (.single (.didOpen workspace.session path text language.name)))
      (Session.news_didOpen workspace.session path text language.name)
    exact Session.pathAt?_of_didOpen sound.inStep found

theorem Tidy.showNew (tidy : workspace.Tidy) (sound : workspace.Sound)
    (named : Text.strip key = key) (path text : Text)
    (short : (workspace.showNew key path text).2.session.IsShort) :
    (workspace.showNew key path text).2.Tidy := by
  have outcome := showing workspace key path text
  generalize workspace.showNew key path text = result at outcome short ⊢
  cases outcome with
  | unserved => exact tidy
  | refused ensuring unserved => exact ensuring.tidy sound tidy short
  | @placed language hosting spoken served ensuring =>
      have earlier := short.earlier (grows_of_turns (place_turns hosting key path text language))
      exact (ensuring.tidy sound tidy earlier).place (ensuring.sound sound) named path text _

theorem Tidy.attach (tidy : workspace.Tidy) (sound : workspace.Sound) (editor path text : Text)
    (short : (workspace.attach editor path text).2.session.IsShort) :
    (workspace.attach editor path text).2.Tidy := by
  have hides := detaching workspace editor
  have outcome := attaching workspace editor path text
  generalize workspace.attach editor path text = result at outcome short ⊢
  cases outcome with
  | nameless blank => exact tidy
  | again known => exact tidy
  | unhidden other stuck => exact hides.tidy sound tidy
  | anew other hidden =>
      exact (hides.tidy sound tidy).showNew (hides.sound sound) (Text.strip_strip editor) path text
        short

/-! ## Every call, every run -/

theorem Relaying.news {session : Session Text} (relaying : Relaying workspace session) :
    session.news = workspace.session.news := by
  cases relaying with
  | withheld => rfl
  | @didChange path shown text => exact Session.news_didChange workspace.session path text
  | scheduleHover target => exact Session.news_scheduleHover workspace.session target
  | clearHover => exact Session.news_clearHover workspace.session
  | requestCompletion path line col trigger triggerKind =>
      exact Session.news_requestCompletion workspace.session path line col trigger triggerKind

theorem Tidy.perform (tidy : workspace.Tidy) (sound : workspace.Sound)
    (once : workspace.session.documents.Once) (action : Action)
    (short : (workspace.perform action).session.IsShort) :
    (workspace.perform action).Tidy := by
  have inStep := sound.inStep
  have outcome := performing workspace action
  generalize workspace.perform action = next at outcome short ⊢
  cases outcome with
  | attach editor path text => exact tidy.attach sound editor path text short
  | detach editor => exact (detaching workspace editor).tidy sound tidy
  | relayed relaying => exact tidy.plains inStep relaying.plains rfl rfl relaying.news
  | clearAllDiagnostics => exact tidy.clear inStep
  | shutdown => exact tidy.shutdown sound short
  | around action ambient =>
      exact tidy.hear inStep (hearings_of_ambient workspace.session ambient) rfl rfl
        (Session.ambient_informs inStep once action)

theorem Reachable.tidy (reachable : Reachable workspace)
    (short : workspace.session.IsShort) : workspace.Tidy := by
  induction reachable with
  | fresh processId folder root languages =>
      exact ⟨nofun, nofun, fun path _ => .inr fun items told => absurd told nofun⟩
  | @perform workspace before action tidy =>
      have once := before.sessionInduction (fun _ _ => DocumentStore.once_empty)
        (@Session.Move.once _)
      have earlier := short.earlier (grows_of_turns (perform_turns workspace action))
      exact (tidy earlier).perform before.sound once action short

/-- Of a file that no editor shows, the host was told last that it has no diagnostics, if it was
    told anything, unless the closing of the file was withheld. Only so long is the run that
    requests do not run out of numbers. -/
theorem retracted_of_unattached (reachable : Reachable workspace)
    (short : workspace.session.IsShort)
    (closed : ¬ workspace.session.LeftOpen path)
    (unattached : ∀ editor, workspace.pathFor? editor ≠ some path) :
    ∀ items, (workspace.session.reports path).getLast? = some items → items = [] := by
  have tidy := reachable.tidy short
  refine (tidy.retracted path ?_).resolve_left closed
  rw [Bool.eq_false_iff]
  intro shown
  obtain ⟨editor, found⟩ := reachable.sound.tally.has_iff.mp shown
  apply unattached editor
  rw [pathFor?, tidy.named editor path found]
  exact found

end Workspace

end LanguageClient

open scoped LanguageClient.Host.Bare

namespace LanguageClient.Workspace

/-- A file is shown and has diagnostics, its server exits, and its editor shows it no more. -/
def abandoned : Workspace Text :=
  (((((perform { session := { processId := 1, folder := "/home" }
                 root := "proj"
                 languages := [{ name := "python", suffixes := [".py"], command := "pylsp" }] }
    (.attach "e" "a.py" "x")).perform (.around (.arrive (Transport.frameOf (.obj
      [("method", .str publishDiagnostics),
        ("params", .obj [("uri", .str "a.py"), ("diagnostics", .arr [.obj []])])])))
      rfl)).perform (.around .hangUp isAmbient_hangUp)).perform
    (.around .processAvailable isAmbient_processAvailable)).perform (.detach "e"))

/-- Its diagnostics, which only the server had told, are taken back. -/
theorem retracted_abandoned :
    (abandoned.session.reports "a.py").length = 2 ∧
      (abandoned.session.reports "a.py").getLast? = some [] := by
  have reachable : Reachable abandoned :=
    (((((Reachable.fresh 1 "/home" "proj" _).perform _).perform _).perform _).perform _).perform _
  have state : (abandoned.session.reports "a.py").length = 2 ∧ abandoned.editors = [] ∧
      abandoned.session.IsShort ∧
      (abandoned.session.writings.all fun writing => !writing.isWithheld) = true := by
    decide +kernel
  obtain ⟨two, nobody, short, told⟩ := state
  have unattached (editor : Text) : abandoned.pathFor? editor ≠ some "a.py" := by
    rw [pathFor?, nobody]
    exact nofun
  have candid (writing : Writing) (member : writing ∈ abandoned.session.writings) :
      writing.isWithheld = false := by
    simpa using List.all_eq_true.mp told writing member
  have closed : ¬ abandoned.session.LeftOpen "a.py" := by
    rintro ⟨writing, member, withheld, _⟩
    exact absurd (withheld.symm.trans (candid writing member)) nofun
  refine ⟨two, ?_⟩
  have reported : abandoned.session.reports "a.py" ≠ [] := by
    apply List.ne_nil_of_length_pos
    rw [two]
    decide
  have last := List.getLast?_eq_some_getLast reported
  rw [last, retracted_of_unattached reachable short closed unattached _ last]

/-- A path that is no string. -/
def nameless : Text :=
  Text.unpaired ++ ".py"

/-- How a server spells what it publishes of the file. -/
def published : String :=
  "\x7b\"method\":\"textDocument/publishDiagnostics\",\"params\":" ++
    "\x7b\"uri\":\"file://\\ud800.py\",\"diagnostics\":[\x7b\x7d]\x7d\x7d"

/-- A file with such a path is shown, its server publishes diagnostics of it, and its editor shows
    it no more. -/
def unretracted : Workspace Text :=
  ((((perform { session := { processId := 1, folder := "/home" }
                root := "proj"
                languages := [{ name := "python", suffixes := [".py"], command := "pylsp" }] }
    (.attach "e" nameless "x")).perform
    (.around (.arrive (Frame.wrap (Text.encodeChars published.toList))) rfl)).perform
    (.around .processAvailable isAmbient_processAvailable)).perform (.detach "e"))

/-- The closing is withheld, and the diagnostics stay. -/
theorem unretracted_reports :
    Reachable unretracted ∧ unretracted.editors = ([] : Table Text Text) ∧
      (unretracted.session.reports nameless).getLast?.map List.length = some 1 := by
  refine ⟨((((Reachable.fresh 1 "/home" "proj" _).perform _).perform _).perform _).perform _, ?_⟩
  decide +kernel

end LanguageClient.Workspace
