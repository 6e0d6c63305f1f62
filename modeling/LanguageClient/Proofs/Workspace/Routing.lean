import LanguageClient.Proofs.Document.Replay
import LanguageClient.Proofs.Path
import LanguageClient.Proofs.Session.Failures
import LanguageClient.Proofs.Session.Following
import LanguageClient.Proofs.Session.Launches
import LanguageClient.Proofs.Settings.Languages
import LanguageClient.Proofs.Workspace.Steady

/-! # Files go to the servers of their languages

A workspace keeps the command of the server that it started last, and a session the documents
that the server knows. Neither is asked when a server exits, so that the files of one language
may be shown while the server of another one runs. It is told nothing of them all the same: a
document is opened only on a server that was started with the command of its file, and of no
other document is anything said, unless its opening was withheld. A start whose greeting is
withheld leaves a server running that the workspace takes for the one before.
-/

namespace LanguageClient

open Session (CarriesOn grows_of_turns)

/-- Files whose paths differ in blanks at the ends have one server, if they have one at all. -/
theorem Languages.commandFor?_of_strip {languages : Languages} {path other command another : Text}
    (same : Text.strip path = Text.strip other)
    (served : commandFor? languages path = some command)
    (alike : commandFor? languages other = some another) : command = another := by
  obtain ⟨language, spoken, -, rfl⟩ := commandFor?_eq_some_iff.mp served
  obtain ⟨_, spokenOther, -, rfl⟩ := commandFor?_eq_some_iff.mp alike
  rw [forPath?_of_strip same spoken spokenOther]

section

variable [Places]

/-- The URI of a path is no other file's: only blanks at the ends make another path of it. -/
def Uri.IsDistinctive (path : Text) : Prop :=
  ∀ other, ofPath other = ofPath path → Text.strip other = Text.strip path

/-- The document that something is said of. -/
def Telling.document? : Telling → Option Text
  | .opens uri _ => some uri
  | telling => telling.subject?

/-- What is said, behind other messages, fits a server with a command: it is about a file that
    has the command, so about none that has another one if its URI is no other file's, and if it
    does not open a document then of one that was opened before or is excused. -/
structure Telling.Fits (languages : Languages) (command : Text) (earlier : List Json)
    (excused : Text → Prop) (telling : Telling) : Prop where
  served : ∀ uri, telling.document? = some uri →
    ∃ path, Uri.ofPath path = uri ∧ Languages.commandFor? languages path = some command
  only : ∀ path other, Uri.IsDistinctive path → telling.document? = some (Uri.ofPath path) →
    Languages.commandFor? languages path = some other → other = command
  follows : ∀ uri, telling.subject? = some uri → OpenedIn earlier uri ∨ excused uri

end

namespace Session

/-- No server was started without its greeting. -/
def Greeted (session : Session Text) : Prop :=
  ∀ writing ∈ session.writings, writing.isWithheld = true →
    (writing.message.field "method").textOrEmpty ≠ "initialize"

instance (session : Session Text) : Decidable session.Greeted :=
  inferInstanceAs (Decidable (∀ writing ∈ session.writings, writing.isWithheld = true →
    (writing.message.field "method").textOrEmpty ≠ "initialize"))

theorem Greeted.earlier {before after : Session Text} (greeted : after.Greeted)
    (grows : Grows before after) : before.Greeted :=
  fun writing member => greeted writing (grows.writings.subset member)

/-- The messages that were handed to the pipe to one server, in order, taken whole or in part. -/
def handedTo (session : Session Text) (server : Nat) : List Json :=
  ((session.writingsTo server).filter (fun writing => !writing.isWithheld)).map (·.message)

/-- The opening of a document was withheld from a server. -/
def OpeningWithheld (session : Session Text) (server : Nat) (uri : Text) : Prop :=
  ∃ writing ∈ session.writingsTo server, writing.isWithheld = true ∧
    ∃ copy, Telling.ofMessage? writing.message = some (.opens uri copy)

/-- What was handed to a pipe was to be written, behind what was handed to it before and what was
    withheld meanwhile. -/
theorem handedTo_split {session : Session Text} {server : Nat} {earlier later : List Json}
    {message : Json} (handed : session.handedTo server = earlier ++ message :: later) :
    ∃ before after, session.messagesTo server = before ++ message :: after ∧
      ∀ uri, OpenedIn before uri → OpenedIn earlier uri ∨ session.OpeningWithheld server uri := by
  obtain ⟨_, _, split, rfl, rest⟩ := List.map_eq_append_iff.mp handed
  obtain ⟨writing, _, rfl, rfl, rfl⟩ := List.map_eq_cons_iff.mp rest
  obtain ⟨before, behind, isAll, rfl, told⟩ := List.filter_eq_append_iff.mp split
  obtain ⟨silent, after, rfl, withheld, _, _⟩ := List.filter_eq_cons_iff.mp told
  refine ⟨(before ++ silent).map (·.message), after.map (·.message), ?_, ?_⟩
  · rw [messagesTo, isAll]
    simp only [List.map_append, List.map_cons, List.append_assoc]
  · rintro uri ⟨_, member, copy, opens⟩
    obtain ⟨opening, between, rfl⟩ := List.mem_map.mp member
    cases kept : opening.isWithheld with
    | true =>
        refine .inr ⟨opening, ?_, kept, copy, opens⟩
        rw [isAll, ← List.append_assoc]
        exact List.mem_append_left _ between
    | false =>
        rcases List.mem_append.mp between with inFront | meanwhile
        · refine .inl ⟨_, List.mem_map.mpr ⟨opening, ?_, rfl⟩, copy, opens⟩
          exact List.mem_filter.mpr ⟨inFront, by rw [kept]; rfl⟩
        · exact absurd (withheld opening meanwhile) (by rw [kept]; exact nofun)

end Session

namespace Workspace

variable {workspace next : Workspace Text} {opens : Writing → Prop} [Host]

/-- A message opens the document of a file on a server that was started with its command. -/
def Suits (languages : Languages) (launches : List Text) (writing : Writing) : Prop :=
  ∃ path command, ∃ document : Document,
    writing.message =
      Message.notification "textDocument/didOpen" (DocumentStore.openParams document) ∧
    Uri.ofPath path = document.uri ∧ Languages.commandFor? languages path = some command ∧
    launches[writing.server]? = some command

theorem Suits.grow {languages : Languages} {launches : List Text} {writing : Writing}
    (suits : Suits languages launches writing) (command : Text) :
    Suits languages (launches ++ [command]) writing := by
  obtain ⟨path, own, document, message, isUri, served, started⟩ := suits
  have known := (List.getElem?_eq_some_iff.mp started).1
  exact ⟨path, own, document, message, isUri, served,
    (List.getElem?_append_left known).trans started⟩

/-- Every opening suits its server, and the active command is the one of the server that runs. -/
structure Routed (workspace : Workspace Text) : Prop where
  counted : workspace.session.launches.length = workspace.session.servers
  active : ∀ server, workspace.session.talk.server = some server →
    workspace.session.launches[server]? = some workspace.active
  suits : ∀ writing ∈ workspace.session.writings, isOpening writing.message = true →
    Suits workspace.languages workspace.session.launches writing

/-- A call that starts no server. -/
theorem Routed.carryOn (routed : workspace.Routed)
    (carriesOn : CarriesOn opens workspace.session next.session)
    (languages : next.languages = workspace.languages)
    (active : ∀ server, next.session.talk.server = some server → next.active = workspace.active)
    (fits : ∀ writing, opens writing →
      Suits workspace.languages workspace.session.launches writing) : next.Routed where
  counted := by
    rw [carriesOn.launches, carriesOn.servers]
    exact routed.counted
  active server running := by
    rw [carriesOn.launches, active server running]
    exact routed.active server (carriesOn.server server running)
  suits writing member opening := by
    rw [carriesOn.launches, languages]
    rcases carriesOn.written writing member with earlier | new
    · exact routed.suits writing earlier opening
    · exact fits writing (new opening)

/-- A call that neither starts a server nor opens a document. -/
theorem Routed.keep (routed : workspace.Routed)
    (carriesOn : CarriesOn (fun _ => False) workspace.session next.session)
    (languages : next.languages = workspace.languages)
    (active : ∀ server, next.session.talk.server = some server →
      next.active = workspace.active) : next.Routed :=
  routed.carryOn carriesOn languages active fun _ => False.elim

/-! ## Servers -/

omit [Host] in
theorem carriesOn_clearDiagnosticsOf (session : Session Text) (paths : List Text) :
    CarriesOn opens session (clearDiagnosticsOf session paths) := by
  induction paths generalizing session with
  | nil => exact .refl session
  | cons path rest ih =>
      have emitted : CarriesOn opens session (session.emit (.diagnostics path [])) :=
        (CarriesOn.refl session).emit rfl
      exact emitted.trans (ih _)

theorem carriesOn_letGo (workspace : Workspace Text) :
    CarriesOn opens workspace.session workspace.letGo.session :=
  (carriesOn_clearDiagnosticsOf workspace.session _).trans (letGo_stopping workspace).carriesOn

theorem Routed.letGo (routed : workspace.Routed) : workspace.letGo.Routed :=
  routed.keep (carriesOn_letGo workspace) rfl fun _ _ => rfl

theorem Routed.shutdown (routed : workspace.Routed) (sound : workspace.Sound)
    (short : workspace.shutdown.2.session.IsShort) : workspace.shutdown.2.Routed := by
  refine routed.keep (carriesOn_letGo workspace) rfl fun server running => ?_
  have idle : workspace.shutdown.2.session.isRunning = false :=
    (letGo_idle sound.backed (sound.letGo_stopped short)).1
  exact absurd (Session.isRunning_of_talk running) (Bool.eq_false_iff.mp idle)

/-- A new server has the number of those before it, and the command that it was started with. -/
theorem Routed.hosting (routed : workspace.Routed) (command : Text) (process : ServerProcess) :
    Routed { workspace with
      session := workspace.session.hosting command process, active := command } where
  counted := by
    show (workspace.session.hosting command process).launches.length =
      workspace.session.servers + 1
    rw [Session.launches_hosting, List.length_append, routed.counted]
    rfl
  active server running := by
    have isNew : (workspace.session.hosting command process).talk.server = some server :=
      running
    rw [Session.talk_hosting] at isNew
    obtain rfl := Option.some.inj isNew
    show (workspace.session.hosting command process).launches[_]? = _
    rw [Session.launches_hosting, ← routed.counted]
    exact List.getElem?_concat_length
  suits writing member opening := by
    have earlier : writing ∈ (workspace.session.hosting command process).talk.writings :=
      member
    rw [Session.talk_hosting] at earlier
    show Suits workspace.languages
      (workspace.session.hosting command process).launches writing
    rw [Session.launches_hosting]
    exact (routed.suits writing earlier opening).grow command

/-- A start that breaks off leaves no server, unless its greeting was withheld. -/
theorem idle_of_brokenOff {session : Session Text} {command : Text} {fault : Fault}
    {after : Session Text} (starting : Session.Starting session command (.error fault, after))
    (greeted : after.Greeted) : after.isRunning = false := by
  generalize isOutcome : ((.error fault : Except Fault Bool), after) = outcome at starting
  cases starting with
  | running running => exact absurd (congrArg Prod.fst isOutcome) nofun
  | failed nobody refused => exact absurd (congrArg Prod.fst isOutcome) nofun
  | brokenOff nobody broken =>
      obtain rfl := congrArg Prod.snd isOutcome
      exact congrArg Option.isSome nobody
  | @started process params nobody launched =>
      obtain rfl := congrArg Prod.snd isOutcome
      have broken := congrArg Prod.fst isOutcome
      dsimp only at broken greeted
      rw [Session.greeting, Session.request_fst] at broken
      rw [Session.greeting, Session.request_snd] at greeted
      cases sent : (((session.hosting command process).noting .handshake).send
          (Message.request (session.hosting command process).requests.next "initialize"
            params)).1 with
      | ok told =>
          rw [sent] at broken
          cases broken
      | error unsaid =>
          obtain ⟨writing, member, withheld, isMessage⟩ := Session.mem_of_withheld sent
          refine absurd ?_ (greeted writing member withheld)
          rw [isMessage, Session.method_request]

theorem startServer_active {command : Text} {served : Bool}
    (started : (workspace.startServer command).1 = .ok served) :
    (workspace.startServer command).2.active = if served then command else "" := by
  unfold Workspace.startServer at started ⊢
  generalize workspace.session.start command workspace.root = result at started ⊢
  obtain ⟨outcome, session⟩ := result
  cases outcome with
  | error fault => exact absurd started nofun
  | ok known => rw [Except.ok.inj started]

/-- A server that was started, and not only greeted in vain, is the active one. -/
theorem active_of_running {command : Text}
    (greeted : (workspace.startServer command).2.session.Greeted)
    (running : (workspace.startServer command).2.session.isRunning = true) :
    (workspace.startServer command).2.active = command := by
  have outcome := Session.starting workspace.session command workspace.root
  have same : workspace.session.start command workspace.root =
      ((workspace.startServer command).1, (workspace.startServer command).2.session) := by
    rw [startServer_fst, startServer_session]
  rw [same] at outcome
  cases started : (workspace.startServer command).1 with
  | error fault =>
      rw [started] at outcome
      exact absurd running (Bool.eq_false_iff.mp (idle_of_brokenOff outcome greeted))
  | ok served =>
      rw [started] at outcome
      rw [startServer_active started, if_pos (outcome.isRunning.symm.trans running)]

theorem Routed.startServer (routed : workspace.Routed)
    (idle : workspace.session.isRunning = false) (command : Text)
    (greeted : (workspace.startServer command).2.session.Greeted) :
    (workspace.startServer command).2.Routed := by
  have outcome := Session.starting workspace.session command workspace.root
  have isSession := startServer_session workspace command
  have active := active_of_running greeted
  obtain ⟨-, -, languages⟩ := startServer_kept workspace command
  generalize (workspace.startServer command).2 = after at isSession active languages
  generalize workspace.session.start command workspace.root = result at outcome isSession
  -- A start that fails leaves the session idle, so that nothing is to be known of the command.
  have unstarted (carriesOn : CarriesOn (fun _ => False) workspace.session after.session) :
      after.Routed := by
    refine routed.keep carriesOn languages fun server running => ?_
    have before := Session.isRunning_of_talk (carriesOn.server server running)
    exact absurd before (Bool.eq_false_iff.mp idle)
  cases outcome with
  | running running => exact absurd (running.symm.trans idle).symm Bool.false_ne_true
  | @failed fault child nobody refused =>
      exact unstarted (isSession ▸ workspace.session.carriesOn_unserved command fault)
  | @brokenOff fault child nobody broken =>
      exact unstarted (isSession ▸ workspace.session.carriesOn_asked command)
  | @started process params nobody launched =>
      have carriesOn : CarriesOn (fun _ => False) (workspace.session.hosting command process)
          after.session := by
        rw [isSession]
        exact workspace.session.carriesOn_greeting command process params
      refine (routed.hosting command process).keep carriesOn languages fun server running => ?_
      exact active (Session.isRunning_of_talk running)

theorem Ensuring.routed {command : Text} {outcome : Except Fault Bool × Workspace Text}
    (ensuring : Ensuring workspace command outcome) (routed : workspace.Routed)
    (sound : workspace.Sound) (greeted : outcome.2.session.Greeted) :
    outcome.2.Routed := by
  cases ensuring with
  | kept running same => exact routed
  | launched idle => exact routed.startServer idle command greeted
  | unleft running other unstopped => exact routed.letGo
  | switched running other stopped =>
      exact routed.letGo.startServer (letGo_idle sound.backed stopped).1 command greeted

theorem Ensuring.languages {command : Text} {outcome : Except Fault Bool × Workspace Text}
    (ensuring : Ensuring workspace command outcome) :
    outcome.2.languages = workspace.languages := by
  cases ensuring with
  | kept running same => rfl
  | launched idle => exact (startServer_kept workspace command).2.2
  | unleft running other unstopped => rfl
  | switched running other stopped => exact (startServer_kept workspace.letGo command).2.2

/-- A server that is there for a command is the active one. -/
theorem Ensuring.active {command : Text} {outcome : Except Fault Bool × Workspace Text}
    (ensuring : Ensuring workspace command outcome) (ready : outcome.1 = .ok true) :
    outcome.2.active = command := by
  cases ensuring with
  | kept running same => exact same.symm
  | launched idle => exact startServer_active ready
  | unleft running other unstopped => exact absurd ready nofun
  | switched running other stopped => exact startServer_active ready

/-! ## Files -/

theorem Detaching.routed {editor : Text} {outcome : Except Fault Unit × Workspace Text}
    (detaching : Detaching workspace editor outcome) (routed : workspace.Routed) :
    outcome.2.Routed := by
  have closes (path : Text) : CarriesOn (fun _ => False) workspace.session
      (workspace.session.didClose path).2 := (workspace.session.didClose_speech path).carriesOn
  cases detaching with
  | unknown absent => exact routed
  | hidden found others => exact routed.keep (.refl _) rfl fun _ _ => rfl
  | @unclosed path fault found last withheld =>
      exact routed.keep (closes path) rfl fun _ _ => rfl
  | @closed path found last =>
      exact routed.keep ((closes path).emit rfl) rfl fun _ _ => rfl

theorem Routed.place (routed : workspace.Routed) {path : Text} {language : Language}
    (spoken : Languages.forPath? workspace.languages path = some language)
    (served : language.hasServer = true) (ready : workspace.active = language.command)
    (key text : Text) : (workspace.place key path text language).2.Routed := by
  simp only [Workspace.place]
  split
  · exact routed.keep (workspace.session.carriesOn_didChange path text) rfl fun _ _ => rfl
  · refine routed.carryOn (workspace.session.carriesOn_didOpen path text language.name) rfl
      (fun _ _ => rfl) fun writing opensAt => ?_
    obtain ⟨running, document, isUri, message⟩ := opensAt
    refine ⟨path, language.command, document, message, isUri.symm, ?_, ?_⟩
    · exact Languages.commandFor?_eq_some_iff.mpr ⟨_, spoken, served, rfl⟩
    · rw [← ready]
      exact routed.active writing.server running

theorem Routed.showNew (routed : workspace.Routed) (sound : workspace.Sound)
    (key path text : Text)
    (greeted : (workspace.showNew key path text).2.session.Greeted) :
    (workspace.showNew key path text).2.Routed := by
  have outcome := showing workspace key path text
  generalize workspace.showNew key path text = result at outcome greeted ⊢
  cases outcome with
  | unserved => exact routed
  | refused ensuring unserved => exact ensuring.routed routed sound greeted
  | @placed language hosting spoken served ensuring =>
      have ready := ensuring.routed routed sound
        (greeted.earlier (grows_of_turns (place_turns hosting key path text language)))
      rw [← ensuring.languages] at spoken
      exact ready.place spoken served (ensuring.active rfl) key text

theorem Routed.attach (routed : workspace.Routed) (sound : workspace.Sound)
    (editor path text : Text)
    (greeted : (workspace.attach editor path text).2.session.Greeted) :
    (workspace.attach editor path text).2.Routed := by
  have hides := detaching workspace editor
  have outcome := attaching workspace editor path text
  generalize workspace.attach editor path text = result at outcome greeted ⊢
  cases outcome with
  | nameless blank => exact routed
  | again known => exact routed
  | unhidden other stuck => exact hides.routed routed
  | anew other hidden =>
      exact (hides.routed routed).showNew (hides.sound sound) _ path text greeted

/-! ## Every call, every run -/

theorem carriesOn_ambient (session : Session Text) {action : Session.Action Text}
    (ambient : action.isAmbient = true) : CarriesOn opens session (session.perform action) := by
  cases action with
  | tick => exact session.carriesOn_tick
  | processAvailable => exact session.carriesOn_processAvailable
  | updateSettings settings =>
      simp only [Session.perform, Session.updateSettings]
      split
      · exact .same rfl rfl rfl
      · exact .refl session
  | setLogTraffic enabled => exact .same rfl rfl rfl
  | setClock now => exact .same rfl rfl rfl
  | setLauncher launcher => exact .same rfl rfl rfl
  | prepareWrites writes flushes => exact .same rfl rfl rfl
  | takeWritesAs writes flushes => exact session.carriesOn_takeWritesAs writes flushes
  | arrive bytes =>
      cases bytes with
      | nil => exact .refl session
      | cons byte rest => exact session.carriesOn_deliver (.data (byte :: rest))
  | hangUp => exact session.carriesOn_deliver .endOfData
  | failRead => exact session.carriesOn_deliver .fails
  | interruptRead => exact session.carriesOn_deliver .interrupted
  | _ => exact absurd ambient Bool.false_ne_true

theorem Relaying.carriesOn {session : Session Text} (relaying : Relaying workspace session) :
    CarriesOn opens workspace.session session := by
  cases relaying with
  | withheld => exact .refl _
  | @didChange path shown text => exact workspace.session.carriesOn_didChange path text
  | scheduleHover target => exact (Session.calm_scheduleHover workspace.session target).carriesOn
  | clearHover => exact (Session.calm_clearHover workspace.session).carriesOn
  | requestCompletion path line col trigger triggerKind =>
      exact (workspace.session.requestCompletion_speech path line col trigger _).carriesOn

theorem Routed.perform (routed : workspace.Routed) (sound : workspace.Sound) (action : Action)
    (short : (workspace.perform action).session.IsShort)
    (greeted : (workspace.perform action).session.Greeted) :
    (workspace.perform action).Routed := by
  have outcome := performing workspace action
  generalize workspace.perform action = next at outcome short greeted ⊢
  cases outcome with
  | attach editor path text => exact routed.attach sound editor path text greeted
  | detach editor => exact (detaching workspace editor).routed routed
  | relayed relaying => exact routed.keep relaying.carriesOn rfl fun _ _ => rfl
  | clearAllDiagnostics =>
      exact routed.keep (carriesOn_clearDiagnosticsOf workspace.session _) rfl fun _ _ => rfl
  | shutdown => exact routed.shutdown sound short
  | around action ambient => exact routed.keep (carriesOn_ambient _ ambient) rfl fun _ _ => rfl

theorem Reachable.routed (reachable : Reachable workspace)
    (short : workspace.session.IsShort) (greeted : workspace.session.Greeted) :
    workspace.Routed := by
  induction reachable with
  | fresh processId folder root languages => exact ⟨rfl, nofun, nofun⟩
  | @perform workspace before action routed =>
      have grows := grows_of_turns (perform_turns workspace action)
      exact (routed (short.earlier grows) (greeted.earlier grows)).perform before.sound action
        short greeted

theorem Reachable.followed (reachable : Reachable workspace) :
    workspace.session.InStep ∧ workspace.session.talk.Followed := by
  apply reachable.sessionInduction
    (motive := fun session => session.InStep ∧ session.talk.Followed)
  · intro processId folder
    exact ⟨Talk.knows_of_idle rfl DocumentStore.keyed_empty nofun, fun _ => ⟨[], rfl⟩⟩
  · rintro before after move ⟨inStep, followed⟩
    exact ⟨move.inStep inStep, move.followed inStep followed⟩

/-- A server that was written to was started with some command. -/
theorem Routed.started (routed : workspace.Routed) (inStep : workspace.session.InStep)
    {server : Nat} {message : Json} (member : message ∈ workspace.session.messagesTo server) :
    ∃ command, workspace.session.launches[server]? = some command := by
  obtain ⟨writing, toServer, _⟩ := List.mem_map.mp member
  obtain ⟨written, isServer⟩ := List.mem_filter.mp toServer
  obtain rfl := beq_iff_eq.mp isServer
  have known : writing.server < workspace.session.launches.length := by
    rw [routed.counted]
    exact inStep.numbered writing written
  exact ⟨_, List.getElem?_eq_getElem known⟩

theorem Routed.opened (routed : workspace.Routed) {server : Nat} {command uri : Text}
    (started : workspace.session.launches[server]? = some command)
    (opened : OpenedIn (workspace.session.messagesTo server) uri) :
    ∃ path, Uri.ofPath path = uri ∧
      Languages.commandFor? workspace.languages path = some command := by
  obtain ⟨message, member, copy, opens⟩ := opened
  obtain ⟨writing, toServer, rfl⟩ := List.mem_map.mp member
  obtain ⟨written, isServer⟩ := List.mem_filter.mp toServer
  obtain rfl := beq_iff_eq.mp isServer
  obtain ⟨path, own, document, message, isUri, served, launched⟩ :=
    routed.suits writing written (isOpening_of_opens opens)
  have told : Telling.ofMessage? (Message.notification "textDocument/didOpen"
      (DocumentStore.openParams document)) = some (.opens document.uri (.ofDocument document)) :=
    rfl
  rw [message, told] at opens
  obtain rfl := Option.some.inj (started.symm.trans launched)
  exact ⟨path, isUri.trans (Telling.opens.inj (Option.some.inj opens)).1, served⟩

theorem Routed.fits (routed : workspace.Routed) {server : Nat} {command : Text}
    {before after earlier : List Json} {message : Json} {telling : Telling}
    (started : workspace.session.launches[server]? = some command)
    (told : workspace.session.messagesTo server = before ++ message :: after)
    (read : Telling.ofMessage? message = some telling)
    (behind : ∀ uri, telling.subject? = some uri → OpenedIn before uri)
    (handed : ∀ uri, OpenedIn before uri →
      OpenedIn earlier uri ∨ workspace.session.OpeningWithheld server uri) :
    telling.Fits workspace.languages command earlier
      (workspace.session.OpeningWithheld server) := by
  have served (uri : Text) (about : telling.document? = some uri) :
      ∃ path, Uri.ofPath path = uri ∧
        Languages.commandFor? workspace.languages path = some command := by
    apply routed.opened started
    -- What does not open the document itself is behind a message that did.
    have opened (subject : telling.subject? = some uri) :
        OpenedIn (workspace.session.messagesTo server) uri := by
      obtain ⟨opening, member, opens⟩ := behind uri subject
      rw [told]
      exact ⟨opening, List.mem_append_left _ member, opens⟩
    cases telling with
    | opens other copy =>
        obtain rfl := Option.some.inj about
        refine ⟨message, ?_, copy, read⟩
        rw [told]
        exact List.mem_append_right _ List.mem_cons_self
    | changes other version text => exact opened about
    | closes other => exact opened about
    | asks other => exact opened about
    | nothing => exact opened about
  refine ⟨served, ?_, fun uri subject => handed uri (behind uri subject)⟩
  intro path other distinctive about own
  obtain ⟨shown, same, isServed⟩ := served _ about
  exact Languages.commandFor?_of_strip (distinctive shown same).symm own isServed

/-- As long as servers are greeted and requests have numbers, whatever is handed to a server fits
    the command that it was started with, in every run and for every server that there was; only
    documents whose opening was withheld may come up unopened. The active command is the one of the
    server that runs. -/
theorem fits_handedTo (reachable : Reachable workspace)
    (short : workspace.session.IsShort) (greeted : workspace.session.Greeted) :
    (∀ server earlier message later,
      workspace.session.handedTo server = earlier ++ message :: later →
      ∃ command telling, workspace.session.launches[server]? = some command ∧
        Telling.ofMessage? message = some telling ∧
        telling.Fits workspace.languages command earlier
          (workspace.session.OpeningWithheld server)) ∧
    (∀ connection, workspace.session.connection = some connection →
      workspace.session.launches[connection.server]? = some workspace.activeCommand) ∧
    (workspace.session.isRunning = false → workspace.activeCommand = "") := by
  have routed := reachable.routed short greeted
  obtain ⟨inStep, followed⟩ := reachable.followed
  refine ⟨?_, ?_, ?_⟩
  · intro server earlier message later handed
    obtain ⟨before, after, told, kept⟩ := Session.handedTo_split handed
    have member : message ∈ workspace.session.messagesTo server := by
      rw [told]
      exact List.mem_append_right _ List.mem_cons_self
    obtain ⟨command, started⟩ := routed.started inStep member
    obtain ⟨mirror, replayed⟩ := followed server
    have replayed : Mirror.replay? (before ++ message :: after) = some mirror := by
      rw [← told]
      exact replayed
    obtain ⟨_, telling, _, _, read, _, _⟩ := Mirror.replay?_split replayed
    refine ⟨command, telling, started, read, routed.fits started told read ?_ kept⟩
    intro uri subject
    exact Mirror.openedIn_of_subject replayed read subject
  · intro connection running
    have isRunning : workspace.session.isRunning = true := Option.isSome_of_eq_some running
    rw [activeCommand, if_pos isRunning]
    exact routed.active connection.server (Session.talk_of_connection running)
  · intro idle
    rw [activeCommand, idle]
    rfl

end Workspace

open scoped Host.Bare

namespace Workspace

/-- Where nothing is at any path, URIs spell paths as they are. -/
theorem isDistinctive_of_bare (path : Text) : Uri.IsDistinctive path := by
  have spelled (path : Text) : Uri.ofPath path = if (Text.strip path).isEmpty then ("" : Text)
      else Uri.fileScheme ++ Text.strip path := congrArg (ite _ _) (ite_self _)
  intro other same
  rw [spelled, spelled] at same
  exact Uri.spelled_injective same

/-- While a file is shown its server exits. Another one is started for a file of another
    language, and then the first file is changed. -/
def rerouted : Workspace Text :=
  (((((perform { session := { processId := 1, folder := "/home" }
                 root := "proj"
                 languages := routes }
    (.attach "left" "a.py" "x")).perform (.around .hangUp isAmbient_hangUp)).perform
    (.around .processAvailable isAmbient_processAvailable)).perform
    (.attach "right" "c.rs" "y")).perform (.documentChanged "a.py" "z"))

/-- The other server runs, and of the four messages that it was handed none is about the first
    file. -/
theorem fits_rerouted :
    rerouted.isShown "a.py" = true ∧ rerouted.activeCommand = "rust-analyzer" ∧
      (rerouted.session.handedTo 1).length = 4 ∧
      ∀ message ∈ rerouted.session.handedTo 1, ∀ telling,
        Telling.ofMessage? message = some telling →
          telling.document? ≠ some (Uri.ofPath "a.py") := by
  have reachable : Reachable rerouted :=
    (((((Reachable.fresh 1 "/home" "proj" routes).perform _).perform _).perform _).perform
      _).perform _
  have state : rerouted.isShown "a.py" = true ∧
      rerouted.session.launches = ["pylsp", "rust-analyzer"] ∧
      rerouted.session.connection.map (·.server) = some 1 ∧
      (rerouted.session.handedTo 1).length = 4 ∧
      Languages.commandFor? rerouted.languages "a.py" = some "pylsp" := by
    decide +kernel
  have courteous : rerouted.session.IsShort ∧ rerouted.session.Greeted := by decide +kernel
  obtain ⟨isShown, launches, server, told, own⟩ := state
  obtain ⟨fits, active, _⟩ := fits_handedTo reachable courteous.1 courteous.2
  refine ⟨isShown, ?_, told, ?_⟩
  · obtain ⟨connection, running, isServer⟩ := Option.map_eq_some_iff.mp server
    have command := active connection running
    rw [launches, isServer] at command
    exact (Option.some.inj command).symm
  · intro message member telling read about
    obtain ⟨earlier, later, split⟩ := List.append_of_mem member
    obtain ⟨command, other, started, isOther, fit⟩ := fits 1 earlier message later split
    obtain rfl := Option.some.inj (read.symm.trans isOther)
    rw [launches] at started
    have same := fit.only "a.py" "pylsp" (isDistinctive_of_bare "a.py") about own
    rw [← Option.some.inj started] at same
    exact absurd same (by decide)

/-- A file is attached with a text that is no string, and then changed. -/
def unopened : Workspace Text :=
  ((perform { session := { processId := 1, folder := "/home" }
              root := "proj"
              languages := routes }
    (.attach "left" "a.py" Text.unpaired)).perform (.documentChanged "a.py" "y"))

/-- A server from which the opening of a document was withheld is told of its change. -/
theorem changed_unopened :
    Reachable unopened ∧ ∃ earlier message, unopened.session.handedTo 0 = earlier ++ [message] ∧
      ∃ telling, Telling.ofMessage? message = some telling ∧
        telling.subject? = some "file://a.py" ∧ ¬ OpenedIn earlier "file://a.py" := by
  have reachable : Reachable unopened :=
    ((Reachable.fresh 1 "/home" "proj" routes).perform _).perform _
  have state : (unopened.session.handedTo 0).getLast?.bind (fun message =>
        (Telling.ofMessage? message).bind Telling.subject?) = some "file://a.py" ∧
      ∀ message ∈ (unopened.session.handedTo 0).dropLast, isOpening message = false := by
    decide +kernel
  obtain ⟨about, none⟩ := state
  obtain ⟨message, isLast, read⟩ := Option.bind_eq_some_iff.mp about
  obtain ⟨telling, told, subject⟩ := Option.bind_eq_some_iff.mp read
  refine ⟨reachable, _, message, (List.dropLast_append_getLast? message isLast).symm, telling,
    told, subject, ?_⟩
  rintro ⟨opening, member, copy, opens⟩
  exact absurd ((none opening member).symm.trans (isOpening_of_opens opens)) nofun

end Workspace

end LanguageClient
