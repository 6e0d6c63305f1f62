import LanguageClient.Proofs.Session.InStep
import LanguageClient.Proofs.Trace
import Mathlib.Data.List.Chain

/-! # One server at a time

Servers come and go one after another. What shows of it is told to the host, that a server was
started, is ready and has stopped, or done to the server, whose stop is called. A server that
was started is the only one until its stop was called, whatever it is that ends it.
-/

namespace LanguageClient

/-- What shows of the coming and going of servers. -/
inductive Stage where
  | started
  | ready
  | stopCalled (server : Nat)
  | stopped
  deriving DecidableEq

def Stage.isSwitch : Stage → Bool
  | .started => true
  | .stopped => true
  | _ => false

def JournalEntry.stage? {π : Type} : JournalEntry π → Option Stage
  | .event .started => some .started
  | .event .ready => some .ready
  | .event .stopped => some .stopped
  | .stoppedServer server _ _ => some (.stopCalled server)
  | _ => none

theorem blind_stage {π : Type} : Blind (JournalEntry.stage? (π := π)) := by
  intro entry calm
  cases entry with
  | event told =>
      cases told with
      | started => exact absurd calm Bool.false_ne_true
      | ready => exact absurd calm Bool.false_ne_true
      | stopped => exact absurd calm Bool.false_ne_true
      | _ => rfl
  | stoppedServer server timeout made => exact absurd calm Bool.false_ne_true
  | _ => rfl

/-! ## Orderly histories -/

/-- A server that was started and has not had its stop called. -/
def Unstopped (stages : List Stage) (server : Nat) : Prop :=
  server < stages.count .started ∧ .stopCalled server ∉ stages

/-- Servers were started and stopped one after another. Each is stopped once, which is before
    the next one is started, and is ready once at most, which is between its start and its
    end. -/
structure Orderly (stages : List Stage) : Prop where
  alternate : (stages.filter Stage.isSwitch).IsChain (· ≠ ·)
  first : (stages.filter Stage.isSwitch).head? ≠ some .stopped
  ready : ∀ before after, stages = before ++ .ready :: after → before.getLast? = some .started
  earlier : ∀ before after, stages = before ++ .started :: after →
    ∀ server < before.count .started, before.count (.stopCalled server) = 1
  once : ∀ server, stages.count (.stopCalled server) ≤ 1
  single : ∀ before after, stages = before ++ after →
    ∀ first second, Unstopped before first → Unstopped before second → first = second

/-- How far the hosting of servers has come. -/
inductive Phase where
  | idle (servers : Nat)
  | running (server : Nat) (answered : Bool)
  | leaving (server : Nat)

namespace Phase

/-- What can show next, and what it comes to. -/
inductive Next : Phase → Stage → Phase → Prop where
  | started (servers : Nat) : Next (.idle servers) .started (.running servers false)
  | ready (server : Nat) : Next (.running server false) .ready (.running server true)
  | stopCalled (server : Nat) (answered : Bool) :
      Next (.running server answered) (.stopCalled server) (.leaving server)
  | stopped (server : Nat) : Next (.leaving server) .stopped (.idle (server + 1))

/-- How many servers have been started. -/
def servers : Phase → Nat
  | .idle servers => servers
  | .running server _ => server + 1
  | .leaving server => server + 1

/-- How many servers have had their stop called. -/
def departed : Phase → Nat
  | .idle servers => servers
  | .running server _ => server
  | .leaving server => server + 1

def lastSwitch : Phase → Option Stage
  | .idle 0 => none
  | .idle (_ + 1) => some .stopped
  | .running .. => some .started
  | .leaving _ => some .started

end Phase

/-- What shows of servers, from the first one on. -/
abbrev History : List Stage → Phase → Prop := Trace Phase.Next (.idle 0)

namespace History

variable {stages : List Stage} {phase : Phase}

theorem count_started (history : History stages phase) :
    stages.count .started = phase.servers := by
  induction history with
  | nil => rfl
  | snoc before last ih =>
      rw [List.count_append, ih]
      cases last with
      | started servers => rfl
      | ready server => rfl
      | stopCalled server answered => rfl
      | stopped server => rfl

/-- The servers before have had their stop called once, the others not at all. -/
theorem count_stopCalled (history : History stages phase) (server : Nat) :
    stages.count (.stopCalled server) = if server < phase.departed then 1 else 0 := by
  induction history with
  | nil => rfl
  | snoc before last ih =>
      rw [List.count_append, ih]
      cases last with
      | started servers => rfl
      | ready other => rfl
      | stopped other => rfl
      | stopCalled other answered =>
          rw [List.count_singleton, Phase.departed, Phase.departed]
          by_cases same : other = server
          · simp [same]
          · have different : ((Stage.stopCalled other == .stopCalled server) : Bool) = false := by
              simpa using same
            rw [different]
            simp only [Bool.false_eq_true, ↓reduceIte, Nat.add_zero]
            congr 1
            simp only [Nat.lt_succ_iff_lt_or_eq, eq_iff_iff]
            omega

theorem lastSwitch_eq (history : History stages phase) :
    (stages.filter Stage.isSwitch).getLast? = phase.lastSwitch := by
  induction history with
  | nil => rfl
  | snoc before last ih =>
      rw [List.filter_append, List.getLast?_append, ih]
      cases last with
      | started servers => rfl
      | ready server => rfl
      | stopCalled server answered => rfl
      | stopped server => rfl

theorem head_switch (history : History stages phase) :
    (stages.filter Stage.isSwitch).head? = none ∨
      (stages.filter Stage.isSwitch).head? = some .started := by
  induction history with
  | nil => exact .inl rfl
  | snoc before last ih =>
      have switched := lastSwitch_eq before
      rw [List.filter_append, List.head?_append]
      rcases ih with nothing | start
      · rw [nothing]
        cases last with
        | started servers => exact .inr rfl
        | ready server => exact .inl rfl
        | stopCalled server answered => exact .inl rfl
        | stopped server =>
            rw [List.head?_eq_none_iff.mp nothing] at switched
            exact absurd switched nofun
      · rw [start]
        exact .inr rfl

/-- A start and a stop take turns. -/
theorem alternate (history : History stages phase) :
    (stages.filter Stage.isSwitch).IsChain (· ≠ ·) := by
  induction history with
  | nil => exact .nil
  | snoc before last chain =>
      have switched := lastSwitch_eq before
      rw [List.filter_append]
      apply chain.append
      · cases last with
        | started servers => exact .singleton _
        | ready server => exact .nil
        | stopCalled server answered => exact .nil
        | stopped server => exact .singleton _
      · intro previous isLast next isNext
        rw [switched] at isLast
        cases last with
        | ready server => exact absurd isNext nofun
        | stopCalled server answered => exact absurd isNext nofun
        | started servers =>
            obtain rfl := Option.some.inj isNext
            cases servers with
            | zero => exact absurd isLast nofun
            | succ servers =>
                obtain rfl := Option.some.inj isLast
                exact nofun
        | stopped server =>
            obtain rfl := Option.some.inj isNext
            obtain rfl := Option.some.inj isLast
            exact nofun

theorem eq_of_unstopped (history : History stages phase) {server : Nat}
    (unstopped : Unstopped stages server) : server = phase.departed := by
  obtain ⟨started, uncalled⟩ := unstopped
  have none := List.count_eq_zero.mpr uncalled
  rw [history.count_stopCalled, ite_eq_right_iff] at none
  rw [history.count_started] at started
  cases phase with
  | idle servers =>
      simp only [Phase.servers, Phase.departed] at started none ⊢
      omega
  | running other answered =>
      simp only [Phase.servers, Phase.departed] at started none ⊢
      omega
  | leaving other =>
      simp only [Phase.servers, Phase.departed] at started none ⊢
      omega

theorem orderly (history : History stages phase) : Orderly stages where
  alternate := history.alternate
  first := by
    rcases history.head_switch with nothing | start
    · rw [nothing]
      exact nofun
    · rw [start]
      exact nofun
  ready := by
    rintro before after rfl
    obtain ⟨previous, next, reached, last, _⟩ := Trace.of_split history
    cases last with
    | ready server =>
        cases reached with
        | snoc earlier step =>
            cases step with
            | started servers => exact List.getLast?_concat
  earlier := by
    rintro before after rfl server isEarlier
    obtain ⟨previous, next, reached, last, _⟩ := Trace.of_split history
    cases last with
    | started servers =>
        rw [count_started reached] at isEarlier
        rw [count_stopCalled reached]
        exact if_pos isEarlier
  once := by
    intro server
    rw [history.count_stopCalled]
    split
    · exact le_refl 1
    · exact Nat.zero_le 1
  single := by
    rintro before after rfl first second isFirst isSecond
    obtain ⟨previous, reached, _⟩ := Trace.of_append history
    exact (eq_of_unstopped reached isFirst).trans (eq_of_unstopped reached isSecond).symm

end History

namespace Session

variable {π : Type}

/-- What shows in the journal of the coming and going of servers. -/
def stages (session : Session π) : List Stage :=
  session.view JournalEntry.stage?

/-! ## The session keeps count -/

/-- The handshake waits for its answer under this number. -/
def Greets (session : Session π) (number : Nat) : Prop :=
  Table.get? session.requests.waiting number = some .handshake

/-- What shows of servers is what the session knows of them. -/
inductive Hosts (session : Session π) : Prop where
  | idle (history : History session.stages (.idle session.servers))
      (nobody : session.connection = none) (greeted : ∀ number, ¬session.Greets number)
  | running {connection : Connection} {answered : Bool}
      (history : History session.stages (.running connection.server answered))
      (running : session.connection = some connection)
      (count : session.servers = connection.server + 1)
      (greets : ∀ number, session.Greets number → number = 1 ∧ answered = false)

theorem Hosts.same {before after : Session π} (hosts : before.Hosts)
    (stages : after.stages = before.stages)
    (server : after.talk.server = before.talk.server)
    (servers : after.servers = before.servers)
    (greets : ∀ number, after.Greets number → before.Greets number) : after.Hosts := by
  cases hosts with
  | idle history nobody greeted =>
      apply Hosts.idle
      · rw [stages, servers]
        exact history
      · rw [talk, talk, nobody] at server
        exact Option.map_eq_none_iff.mp server
      · intro number waits
        exact greeted number (greets number waits)
  | @running connection answered history running count unanswered =>
      rw [talk_of_connection running] at server
      obtain ⟨held, running, same⟩ := Option.map_eq_some_iff.mp server
      refine @Hosts.running _ _ held answered ?_ running ?_ ?_
      · rw [stages, same]
        exact history
      · rw [servers, count, same]
      · intro number waits
        exact unanswered number (greets number waits)

theorem Hosts.calm {before after : Session π} (hosts : before.Hosts) (calm : Calm before after) :
    after.Hosts := by
  apply hosts.same (calm.view blind_stage) _ calm.servers
  · intro number waits
    rw [Greets, calm.requests] at waits
    exact waits
  · rw [talk, calm.connection, talk]

/-! ## Ends -/

theorem stages_emit (session : Session π) (event : Event π) :
    (session.emit event).stages =
      session.stages ++ (JournalEntry.stage? (.event event)).toList :=
  view_record _ session _

theorem stages_said [Host] (session : Session π) (server : Nat) (message : Json)
    (taken : Except Fault (List UInt8)) :
    (session.said server message taken).stages = session.stages :=
  (view_said blind_stage session server message taken).trans (List.append_nil _)

/-- A session whose server was stopped and that told of it is idle again. -/
theorem hosts_of_ended {session ended : Session π} {server : Nat} (hosts : session.Hosts)
    (running : session.talk.server = some server)
    (stages : ended.stages = session.stages ++ [.stopCalled server] ++ [.stopped])
    (nobody : ended.connection = none) (servers : ended.servers = session.servers)
    (forgotten : ended.requests = {}) : ended.Hosts := by
  cases hosts with
  | idle history idle greeted =>
      rw [talk, idle] at running
      cases running
  | @running connection answered history held count greets =>
      rw [talk_of_connection held] at running
      obtain rfl := Option.some.inj running
      apply Hosts.idle _ nobody
      · intro number waits
        rw [Greets, forgotten] at waits
        cases waits
      · rw [stages, servers, count]
        exact (history.snoc (.stopCalled _ _)).snoc (.stopped _)

theorem stages_disconnect {session : Session π} {connection : Connection}
    (running : session.connection = some connection) (timeout : Timeout) :
    (session.disconnect timeout).stages = session.stages ++ [.stopCalled connection.server] := by
  unfold disconnect
  rw [running]
  exact view_record _ _ _

theorem servers_disconnect (session : Session π) (timeout : Timeout) :
    (session.disconnect timeout).servers = session.servers :=
  congrArg Talk.servers (talk_disconnect session timeout)

theorem Hosts.disable {session : Session π} {connection : Connection} (hosts : session.Hosts)
    (running : session.connection = some connection) (reason : Text) :
    (session.disable reason).Hosts := by
  apply hosts_of_ended hosts (talk_of_connection running)
  · rw [Session.disable, stages_emit, stages_emit]
    have ended := stages_disconnect running .now
    show (session.disconnect .now).stages ++ [] ++ [.stopped] = _
    rw [ended, List.append_nil]
  · exact disconnect_connection session .now
  · exact servers_disconnect session .now
  · rfl

variable [Host]

/-- What is said at the end shows nothing of servers. -/
theorem Goodbye.stages {session ending : Session π} {server : Nat}
    (parting : Goodbye session server ending) :
    ending.stages = session.stages ∧ ending.connection = session.connection ∧
      ending.servers = session.servers := by
  have left : session.leaving.stages = session.stages := rfl
  have servers : ending.talk.servers = session.talk.servers := by
    cases parting with
    | unsent isPart =>
        rw [talk_said]
        rfl
    | sent framed isPart =>
        rw [talk_said, talk_said]
        rfl
  cases parting with
  | unsent isPart =>
      exact ⟨(stages_said _ _ _ _).trans left, connection_said _ _ _ _, servers⟩
  | sent framed isPart =>
      refine ⟨?_, (connection_said _ _ _ _).trans (connection_said _ _ _ _), servers⟩
      rw [stages_said, stages_said, left]

/-! ## What is said -/

theorem Hosts.send {session : Session π} (hosts : session.Hosts) (message : Json) :
    (session.send message).2.Hosts := by
  have held {connection : Connection} (running : session.connection = some connection)
      (taken : Except Fault (List UInt8)) {held : Connection}
      (same : held.server = connection.server) :
      ((session.said connection.server message taken).hold held).Hosts := by
    have calm := calm_logMessage session .outgoing message
    have current := (talk_of_connection running).symm
    rw [← same] at current
    refine hosts.same (stages_said _ _ _ _) current calm.servers ?_
    intro number waits
    rw [Greets, ← calm.requests]
    exact waits
  have outcome := sending session message
  generalize session.send message = result at outcome ⊢
  cases outcome with
  | idle nobody => exact hosts
  | whole rest flushes running framed => exact held running _ rfl
  | part rest flushes running isPart => exact (held running _ rfl).disable rfl _
  | withheld fault running => exact held running _ rfl

/-- A request that is no handshake lets no more handshakes wait. -/
theorem Hosts.request {session : Session π} (hosts : session.Hosts) {context : RequestContext π}
    (other : context ≠ .handshake) (method : Text) (params : Json) :
    (session.request method params context).2.Hosts := by
  have noted : (session.noting context).Hosts := by
    refine hosts.same rfl rfl rfl ?_
    intro number waits
    by_cases isNext : number = session.requests.next
    · rw [isNext] at waits
      exact absurd (Option.some.inj ((Table.get?_put_self _ _ _).symm.trans waits)) other
    · exact (Table.get?_put_of_ne isNext _ _).symm.trans waits
  rw [request_snd]
  exact noted.send _

theorem Begins.other [BEq π] [DocumentName π] {before prepared : Session π} {method : Text}
    {params : Json} {context : RequestContext π}
    (begins : Begins before prepared method params context) : context ≠ .handshake := by
  cases begins with
  | semanticTokens found => exact nofun
  | hover found line col now => exact nofun
  | completion found line col now trigger triggerKind => exact nofun

theorem Begins.hosts [BEq π] [DocumentName π] {before prepared : Session π} {method : Text}
    {params : Json} {context : RequestContext π}
    (begins : Begins before prepared method params context) (hosts : before.Hosts) :
    prepared.Hosts := by
  cases begins with
  | semanticTokens found => exact hosts
  | hover found line col now => exact hosts.same rfl rfl rfl fun _ waits => waits
  | completion found line col now trigger triggerKind =>
      exact hosts.same rfl rfl rfl fun _ waits => waits

theorem Speech.hosts [BEq π] [DocumentName π] {before after : Session π}
    (speech : Speech before after) (hosts : before.Hosts) : after.Hosts := by
  cases speech with
  | nothing calm => exact hosts.calm calm
  | @telling documents prepared message tells calm =>
      have noted : { before with documents }.Hosts :=
        hosts.same rfl rfl rfl fun _ waits => waits
      exact (noted.calm calm).send message
  | asking begins => exact (begins.hosts hosts).request begins.other _ _

/-! ## Responses -/

omit [Host] in
/-- A response takes out what waits under its number and leaves the rest. -/
theorem Hosts.resolve {session : Session π} (hosts : session.Hosts) {id : Json}
    {context : RequestContext π} {requests : PendingRequests (RequestContext π)}
    (resolved : session.requests.resolve id = (some context, requests)) :
    { session with requests }.Hosts := by
  obtain ⟨taken, _, _, rfl⟩ := PendingRequests.resolve_eq_some resolved
  refine hosts.same rfl rfl rfl ?_
  intro number waits
  by_cases isTaken : number = taken
  · rw [Greets, isTaken] at waits
    exact absurd ((Table.get?_remove_self _ _).symm.trans waits) nofun
  · exact (Table.get?_remove_of_ne isTaken _).symm.trans waits

omit [Host] in
theorem Responding.hosts [BEq π] [DocumentName π] {before after : Session π} {id : Json}
    (responding : Responding before id after) (hosts : before.Hosts) : after.Hosts := by
  cases responding with
  | unknown => exact hosts
  | calm resolved stale calm => exact (hosts.resolve resolved).calm calm
  | hover resolved accepted =>
      refine (hosts.resolve resolved).same ?_ rfl rfl fun _ waits => waits
      rw [stages_emit]
      exact List.append_nil _
  | completion resolved accepted =>
      refine (hosts.resolve resolved).same ?_ rfl rfl fun _ waits => waits
      rw [stages_emit]
      exact List.append_nil _
  | @ready requests result resolved =>
      obtain ⟨taken, _, waited, rfl⟩ := PendingRequests.resolve_eq_some resolved
      cases hosts with
      | idle history nobody greeted => exact absurd waited (greeted taken)
      | @running connection answered history running count greets =>
          obtain ⟨rfl, rfl⟩ := greets taken waited
          refine @Hosts.running _ _ connection true ?_ running count ?_
          · rw [stages_emit]
            exact history.snoc (.ready _)
          · -- No handshake waits any more: the one that did was taken out.
            intro number waits
            by_cases isTaken : number = 1
            · rw [Greets, isTaken] at waits
              exact absurd ((Table.get?_remove_self _ _).symm.trans waits) nofun
            · have waited := (Table.get?_remove_of_ne isTaken _).symm.trans waits
              exact absurd (greets number waited).1 isTaken

/-! ## Starts -/

omit [Host] in
theorem stages_asked (session : Session π) (command : Text) :
    (session.reset.record (.asked command)).stages = session.stages := by
  have recorded : (session.reset.record (.asked command)).stages = _ ++ [] := view_record _ _ _
  rw [recorded, List.append_nil]
  rfl

omit [Host] in
theorem Hosts.history {session : Session π} (hosts : session.Hosts)
    (nobody : session.connection = none) :
    History session.stages (.idle session.servers) := by
  cases hosts with
  | idle history _ greeted => exact history
  | running history running count greets => exact absurd (nobody.symm.trans running) nofun

theorem Starting.hosts {session : Session π} {command : Text}
    {outcome : Except Fault Bool × Session π}
    (starting : Starting session command outcome) (hosts : session.Hosts) : outcome.2.Hosts := by
  cases starting with
  | running running => exact hosts
  | @failed fault child nobody refused =>
      have told : (session.unserved command fault).stages = session.stages := by
        rw [unserved, stages_emit]
        exact (List.append_nil _).trans (stages_asked session command)
      refine Hosts.idle ?_ nobody (fun _ waits => by cases waits)
      rw [told]
      exact hosts.history nobody
  | brokenOff nobody broken =>
      refine Hosts.idle ?_ nobody (fun _ waits => by cases waits)
      rw [stages_asked]
      exact hosts.history nobody
  | @started process params nobody launched =>
      have welcome : (session.hosting command process).stages =
          session.stages ++ [.started] := by
        rw [hosting, stages_emit]
        exact congrArg (· ++ [Stage.started]) (stages_asked session command)
      have hosting : ((session.hosting command process).noting .handshake).Hosts := by
        refine @Hosts.running _ _ (session.freshConnection process) false ?_ rfl rfl ?_
        · exact welcome ▸ (hosts.history nobody).snoc (.started _)
        · -- The handshake is the first request of the conversation.
          intro number waits
          by_cases isFirst : number = 1
          · exact ⟨isFirst, rfl⟩
          · cases (Table.get?_put_of_ne isFirst [] _).symm.trans waits
      dsimp only
      rw [greeting, request_snd]
      exact hosting.send _

/-! ## Stops -/

theorem Stopping.hosts {session : Session π} {outcome : Except Fault Unit × Session π}
    (stopping : Stopping session outcome) (hosts : session.Hosts) : outcome.2.Hosts := by
  apply stopping.keeps hosts
  · intro _
    have other : (RequestContext.shutdown : RequestContext π) ≠ .handshake := nofun
    exact hosts.request other _ _
  · intro asking hosts
    exact hosts.send _
  · intro connection ending running parting
    obtain ⟨stages, still, servers⟩ := parting.stages
    apply hosts_of_ended hosts (talk_of_connection running)
    · rw [stages_emit, ← stages]
      have ended := stages_disconnect (still.trans running) ending.shutdownTimeout
      exact congrArg (· ++ [Stage.stopped]) ended
    · exact stopped_connection ending ending.shutdownTimeout
    · exact (servers_disconnect ending ending.shutdownTimeout).trans servers
    · rfl

/-! ## Every move, every run -/

theorem Plain.hosts {before after : Session Text} (plain : Plain before after)
    (hosts : before.Hosts) : after.Hosts := by
  have same {after : Session Text} (stages : after.stages = before.stages)
      (server : after.talk.server = before.talk.server) (servers : after.servers = before.servers)
      (requests : after.requests = before.requests) : after.Hosts := by
    apply hosts.same stages server servers
    intro number waits
    rw [Greets, requests] at waits
    exact waits
  cases plain.effect with
  | speech speech => exact speech.hosts hosts
  | surround now launcher settings => exact same rfl rfl rfl rfl
  | prepareWrites writes flushes => exact same rfl rfl rfl rfl
  | takeWritesAs writes flushes =>
      exact same rfl (congrArg Talk.server (talk_changePeer before _)) rfl rfl
  | deliver given => exact same rfl (congrArg Talk.server (talk_changePeer before _)) rfl rfl
  | receive running => exact same rfl (congrArg Talk.server (talk_receive running)) rfl rfl
  | start starting => exact starting.hosts hosts
  | stop stopping => exact stopping.hosts hosts
  | serverExited running =>
      obtain ⟨connection, running⟩ := Option.isSome_iff_exists.mp running
      exact hosts.disable running _

theorem Move.hosts {before after : Session Text} (move : Move before after)
    (hosts : before.Hosts) : after.Hosts := by
  cases move with
  | plain plain => exact plain.hosts hosts
  | @openDocument path text languageId params documents running opened =>
      have noted : { before with documents }.Hosts :=
        hosts.same rfl rfl rfl fun _ waits => waits
      exact noted.send _
  | confirmHandshake =>
      have noted (handshake : Handshake) : { before with handshake }.Hosts :=
        hosts.same rfl rfl rfl fun _ waits => waits
      simp only [Session.confirmHandshake]
      split
      · exact (noted _).send _
      · exact noted _
  | takeResponse message => exact (responding before message).hosts hosts

theorem Reachable.hosts {session : Session Text} (reachable : Reachable session) :
    session.Hosts := by
  apply Reachable.induction _ _ reachable
  · intro processId folder
    exact .idle .nil rfl nofun
  · intro before after move hosts
    exact move.hosts hosts

/-- Wherever a run has come to, servers came and went one after another: what the host was
    told and what was done to the servers is orderly, a server runs if the last that the host
    was told is its start and not its end, and all servers there were have been told of. -/
theorem orderly_stages {session : Session Text} (reachable : Reachable session) :
    Orderly session.stages ∧
      (session.isRunning = true ↔
        (session.stages.filter Stage.isSwitch).getLast? = some .started) ∧
      session.servers = session.stages.count .started := by
  cases reachable.hosts with
  | idle history nobody greeted =>
      refine ⟨history.orderly, ?_, history.count_started.symm⟩
      rw [isRunning, nobody, history.lastSwitch_eq]
      cases session.servers with
      | zero => exact ⟨nofun, nofun⟩
      | succ servers => exact ⟨nofun, nofun⟩
  | running history running count greets =>
      refine ⟨history.orderly, ?_, count.trans history.count_started.symm⟩
      rw [isRunning, running, history.lastSwitch_eq]
      exact ⟨fun _ => rfl, fun _ => rfl⟩

end Session

end LanguageClient

open scoped LanguageClient.Host.Bare

namespace LanguageClient.Session

/-- A server that is ready fails to take a write, and a second one runs. -/
def startedAgain : Session Text :=
  ((((({ processId := 1, folder := "/home" : Session Text }.perform
    (.start "server" "proj")).perform (.arrive (Transport.frameOf (.obj [("id", .int 1),
      ("result", .obj [])])))).perform .processAvailable).perform
    (.takeWritesAs [.fails] [])).perform (.didOpen "a.py" "x" "python")).perform
    (.start "server" "proj")

theorem orderly_startedAgain :
    startedAgain.stages =
        [.started, .ready, .stopCalled 0, .stopped, .started] ∧
      Orderly startedAgain.stages ∧ startedAgain.isRunning = true := by
  have shown : startedAgain.stages = [.started, .ready, .stopCalled 0, .stopped, .started] := by
    decide +kernel
  have reachable : Reachable startedAgain :=
    ((((((Reachable.fresh 1 "/home").perform _).perform _).perform _).perform _).perform
      _).perform _
  obtain ⟨orderly, runs, _⟩ := orderly_stages reachable
  refine ⟨shown, orderly, runs.mpr ?_⟩
  rw [shown]
  rfl

end LanguageClient.Session
