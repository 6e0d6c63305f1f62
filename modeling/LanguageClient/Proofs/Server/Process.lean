import LanguageClient.Proofs.Decimal.Range
import LanguageClient.Server.Process

/-! # No child is left behind

A child that was created for nothing has its pipes closed, is killed and waited for before the
start is given up. A server is stopped once: its pipes are closed, and its child is given time,
told to end and killed, each only after what is milder has failed, until it was waited for with
success. Whatever fails on the way, the next step is taken. One thing is not provided for: a
timeout that is no number, or beyond the range of the seconds in which the child is waited for,
is found out behind the pipes, and then the child stays.
-/

namespace LanguageClient

/-! ## What is to be shown -/

/-- A pipe is closed by a call. -/
def MadeCall.Closes (made : MadeCall) : Prop :=
  ∃ pipe, made.call = .close pipe

/-- How often a call was made. -/
def timesMade (made : List MadeCall) (call : ChildCall) : Nat :=
  (made.map MadeCall.call).count call

/-- Every pipe that there is was closed once, and no other was. -/
def ClosedOnce (child : Child) (made : List MadeCall) : Prop :=
  ∀ pipe, timesMade made (.close pipe) = if child.has pipe then 1 else 0

/-- A child was got rid of: its pipes were closed, it was killed, and in the end it was waited for
    without limit. -/
structure Discarded (child gone : Child) (made : List MadeCall) : Prop where
  closed : ClosedOnce child made
  killed : ∃ before killed, made = before ++ [⟨.kill, killed⟩, ⟨.wait none, true⟩]
  reaped : gone.reaped = true

/-- A child was seen to its end: its pipes were closed, and a wait has seen the end. It was told to
    end only after it had not ended by itself within the limit, and killed only after it could not
    be told or had not ended then either. -/
structure SeenToEnd (child gone : Child) (limit : Int) (made : List MadeCall) : Prop where
  closed : ClosedOnce child made
  ended : ∃ before limit, made = before ++ [⟨.wait limit, true⟩]
  reaped : gone.reaped = true
  told : ∀ before told after, made = before ++ ⟨.terminate, told⟩ :: after →
    ∃ earlier, before = earlier ++ [⟨.wait (some limit), false⟩]
  killed : ∀ before killed after, made = before ++ ⟨.kill, killed⟩ :: after →
    ∃ earlier, before = earlier ++ [⟨.terminate, false⟩] ∨
      before = earlier ++ [⟨.terminate, true⟩, ⟨.wait (some Child.terminateWait), false⟩]

/-- Nothing was done about a child but that its pipes were closed. -/
structure LeftBehind (child gone : Child) (made : List MadeCall) : Prop where
  closed : ClosedOnce child made
  noMore : ∀ call ∈ made, call.Closes
  same : gone = child

namespace Child

/-- There is a pipe to talk to the child, and one to listen to it. -/
structure IsPiped (child : Child) : Prop where
  input : child.hasInput = true
  output : child.hasOutput = true

/-- A child that can be talked to. -/
structure IsUsable (child : Child) : Prop extends child.IsPiped where
  descriptor : child.descriptor = .ready

/-- A pipe is missing, or the system refuses the descriptor of the output. -/
def IsRefused (child : Child) : Prop :=
  child.IsPiped → ∃ fault, child.descriptor = .refused fault

/-- The pipes are there, and the output has nothing that could be a descriptor. -/
structure IsImpossible (child : Child) (fault : Fault) : Prop extends child.IsPiped where
  descriptor : child.descriptor = .impossible fault

theorem cases_descriptor (child : Child) :
    child.IsUsable ∨ child.IsRefused ∨ ∃ fault, child.IsImpossible fault := by
  by_cases piped : child.IsPiped
  · cases descriptor : child.descriptor with
    | ready => exact .inl ⟨piped, descriptor⟩
    | refused fault => exact .inr (.inl fun _ => ⟨fault, descriptor⟩)
    | impossible fault => exact .inr (.inr ⟨fault, piped, descriptor⟩)
  · exact .inr (.inl fun isPiped => absurd isPiped piped)

end Child

namespace ServerProcess

/-- A command line names a program, and running it creates a child. -/
def Creates (run : List Text → Spawned) (command : Text) (child : Child) : Prop :=
  splitCommand command ≠ [] ∧ run (splitCommand command) = .child child

/-- Stop a server again and again. -/
def stopEach (process : ServerProcess) : List (Except Fault Int) → List Stopped
  | [] => []
  | timeout :: later =>
    let stopped := process.stopWith timeout
    stopped :: stopped.process.stopEach later

/-- A server is stopped for good by the first of several stops: it goes through with it if it is
    given a timeout in range, and breaks off behind the pipes if not. The later ones do nothing. -/
structure StopsOnce (process : ServerProcess) (child : Child) (timeout : Except Fault Int)
    (later : List (Except Fault Int)) : Prop where
  inRange : ∀ limit < (Binary64.beyond : Int), timeout = .ok limit →
    (process.stopWith timeout).result = .ok () ∧
      SeenToEnd child (process.stopWith timeout).process.child (max 0 limit)
        (process.stopWith timeout).made
  beyond : ∀ limit ≥ (Binary64.beyond : Int), timeout = .ok limit →
    (process.stopWith timeout).result = .error .beyondRange ∧
      LeftBehind child (process.stopWith timeout).process.child (process.stopWith timeout).made
  unread : ∀ fault, timeout = .error fault →
    (process.stopWith timeout).result = .error fault ∧
      LeftBehind child (process.stopWith timeout).process.child (process.stopWith timeout).made
  idle : ∀ stopped ∈ (process.stopWith timeout).process.stopEach later,
    stopped = ⟨.ok (), [], (process.stopWith timeout).process⟩

end ServerProcess

/-! ## Calls -/

theorem timesMade_append (first second : List MadeCall) (call : ChildCall) :
    timesMade (first ++ second) call = timesMade first call + timesMade second call := by
  rw [timesMade, List.map_append, List.count_append]
  rfl

theorem timesMade_close_eq_zero {made : List MadeCall} (none : ∀ call ∈ made, ¬ call.Closes)
    (pipe : ChildPipe) : timesMade made (.close pipe) = 0 := by
  refine List.count_eq_zero_of_not_mem fun found => ?_
  obtain ⟨call, isMade, closes⟩ := List.mem_map.mp found
  exact none call isMade ⟨pipe, closes⟩

section

variable {head call : MadeCall} {first rest before after : List MadeCall}

theorem ne_split (absent : call ∉ rest) : rest ≠ before ++ call :: after := by
  rintro rfl
  exact absent (List.mem_append_right before List.mem_cons_self)

theorem split_at_head (absent : call ∉ rest) (split : head :: rest = before ++ call :: after) :
    before = [] := by
  cases before with
  | nil => rfl
  | cons _ before =>
      obtain ⟨-, rfl⟩ := List.cons.inj split
      exact absurd (by simp) absent

theorem split_behind_head (other : head ≠ call) (split : head :: rest = before ++ call :: after) :
    ∃ middle, before = head :: middle ∧ rest = middle ++ call :: after := by
  cases before with
  | nil => exact absurd (List.cons.inj split).1 other
  | cons _ middle =>
      obtain ⟨rfl, behind⟩ := List.cons.inj split
      exact ⟨middle, rfl, behind⟩

/-- What is not among the first calls stands behind them. -/
theorem split_behind (absent : call ∉ first) (split : first ++ rest = before ++ call :: after) :
    ∃ middle, before = first ++ middle ∧ rest = middle ++ call :: after := by
  induction first generalizing before with
  | nil => exact ⟨before, rfl, split⟩
  | cons head first ih =>
      rw [List.mem_cons, not_or] at absent
      obtain ⟨_, rfl, behind⟩ := split_behind_head (Ne.symm absent.1) split
      obtain ⟨middle, rfl, rest⟩ := ih absent.2 behind
      exact ⟨middle, rfl, rest⟩

end

theorem Child.reaped_of_wait {child : Child} {limit : Option Int}
    (ended : (child.answer (.wait limit)).1 = true) :
    (child.answer (.wait limit)).2.reaped = true := by
  cases limit with
  | none => rfl
  | some limit =>
      cases ends : child.ends with
      | nil => simp [answer, ends]
      | cons inTime rest => simp_all [answer]

namespace Handled

variable (handled : Handled)

variable {handled} in
theorem made_attempt {call : ChildCall} {succeeded : Bool}
    (answered : (handled.child.answer call).1 = succeeded) :
    (handled.attempt call).made = handled.made ++ [⟨call, succeeded⟩] := by
  rw [← answered]
  rfl

theorem ask_eq (call : ChildCall) :
    handled.ask call = ((handled.child.answer call).1, handled.attempt call) := rfl

theorem made_killAndReap : ∃ killed, handled.killAndReap.made =
    handled.made ++ [⟨.kill, killed⟩, ⟨.wait none, true⟩] := by
  refine ⟨!handled.child.killFails, ?_⟩
  rw [List.append_cons]
  rfl

theorem reaped_killAndReap : handled.killAndReap.child.reaped = true := rfl

end Handled

/-! ## The pipes -/

namespace Child

variable (child : Child)

/-- The call that closes a pipe, if it is there. -/
def closing (pipe : ChildPipe) : List MadeCall :=
  if child.has pipe then [⟨.close pipe, (child.answer (.close pipe)).1⟩] else []

/-- The calls that close the pipes. -/
def closings : List MadeCall :=
  child.closing .input ++ child.closing .output

theorem timesMade_closing (pipe other : ChildPipe) :
    timesMade (child.closing pipe) (.close other) =
      if pipe = other ∧ child.has pipe then 1 else 0 := by
  unfold closing timesMade
  cases child.has pipe <;> simp [List.count_cons]

section

variable {child}

theorem closes_of_mem_closing {pipe : ChildPipe} {call : MadeCall}
    (isMade : call ∈ child.closing pipe) : call.Closes := by
  unfold closing at isMade
  split at isMade
  · obtain rfl := List.mem_singleton.mp isMade
    exact ⟨pipe, rfl⟩
  · exact absurd isMade List.not_mem_nil

theorem closes_of_mem_closings {call : MadeCall} (isMade : call ∈ child.closings) : call.Closes :=
  (List.mem_append.mp isMade).elim closes_of_mem_closing closes_of_mem_closing

end

/-- The pipes are closed once if nothing else that is done closes one. -/
theorem closedOnce_closings {rest : List MadeCall} (others : ∀ call ∈ rest, ¬ call.Closes) :
    ClosedOnce child (child.closings ++ rest) := by
  intro pipe
  rw [timesMade_append, timesMade_close_eq_zero others, closings, timesMade_append,
    timesMade_closing, timesMade_closing]
  cases pipe <;> simp

end Child

namespace Handled

variable (handled : Handled)

theorem closePipe_eq (pipe : ChildPipe) :
    handled.closePipe pipe = ⟨handled.child, handled.made ++ handled.child.closing pipe⟩ := by
  unfold closePipe Child.closing
  split
  · cases pipe <;> rfl
  · rw [List.append_nil]

theorem closePipes_eq :
    handled.closePipes = ⟨handled.child, handled.made ++ handled.child.closings⟩ := by
  rw [closePipes, closePipe_eq, closePipe_eq, List.append_assoc]
  rfl

end Handled

theorem leftBehind_closePipes (child : Child) :
    LeftBehind child (Handled.closePipes { child }).child (Handled.closePipes { child }).made := by
  rw [Handled.closePipes_eq, List.nil_append]
  refine ⟨?_, fun call isMade => Child.closes_of_mem_closings isMade, rfl⟩
  rw [← List.append_nil child.closings]
  exact child.closedOnce_closings (by simp)

theorem discarded_discard (child : Child) :
    Discarded child (Handled.discard { child }).child (Handled.discard { child }).made := by
  obtain ⟨killed, calls⟩ := Handled.made_killAndReap (Handled.closePipes { child })
  rw [Handled.closePipes_eq, List.nil_append] at calls
  rw [Handled.discard, Handled.closePipes_eq, List.nil_append, calls]
  exact ⟨child.closedOnce_closings (by simp [MadeCall.Closes]), ⟨_, killed, rfl⟩, rfl⟩

/-! ## The end of a child -/

/-- The calls with which a child that does not end by itself is brought to its end. -/
inductive Pressing : List MadeCall → Prop where
  | told : Pressing [⟨.terminate, true⟩, ⟨.wait (some Child.terminateWait), true⟩]
  | stubborn (killed : Bool) : Pressing
      [⟨.terminate, true⟩, ⟨.wait (some Child.terminateWait), false⟩, ⟨.kill, killed⟩,
        ⟨.wait none, true⟩]
  | untold (killed : Bool) : Pressing
      [⟨.terminate, false⟩, ⟨.kill, killed⟩, ⟨.wait none, true⟩]

/-- The calls with which a child is seen to its end. -/
inductive Ending (limit : Int) : List MadeCall → Prop where
  | inTime : Ending limit [⟨.wait (some limit), true⟩]
  | late {made : List MadeCall} (pressing : Pressing made) :
      Ending limit (⟨.wait (some limit), false⟩ :: made)

namespace Handled

theorem terminate_pressing (handled : Handled) :
    ∃ made, Pressing made ∧ handled.terminate.made = handled.made ++ made ∧
      handled.terminate.child.reaped = true := by
  unfold terminate
  rw [ask_eq]
  dsimp only
  split
  · next told =>
    rw [ask_eq]
    dsimp only
    split
    · next ended =>
      refine ⟨_, .told, ?_, Child.reaped_of_wait ended⟩
      rw [made_attempt ended, made_attempt told, List.append_assoc]
      rfl
    · next late =>
      rw [Bool.not_eq_true] at late
      obtain ⟨killed, calls⟩ := made_killAndReap
        ((handled.attempt .terminate).attempt (.wait (some Child.terminateWait)))
      refine ⟨_, .stubborn killed, ?_, reaped_killAndReap _⟩
      rw [calls, made_attempt late, made_attempt told, List.append_assoc, List.append_assoc]
      rfl
  · next untold =>
    rw [Bool.not_eq_true] at untold
    obtain ⟨killed, calls⟩ := made_killAndReap (handled.attempt .terminate)
    refine ⟨_, .untold killed, ?_, reaped_killAndReap _⟩
    rw [calls, made_attempt untold, List.append_assoc]
    rfl

theorem endWithin_ending (handled : Handled) (limit : Int) :
    ∃ made, Ending limit made ∧ (handled.endWithin limit).made = handled.made ++ made ∧
      (handled.endWithin limit).child.reaped = true := by
  unfold endWithin
  rw [ask_eq]
  dsimp only
  split
  · next ended =>
    exact ⟨_, .inTime, made_attempt ended, Child.reaped_of_wait ended⟩
  · next late =>
    obtain ⟨made, pressing, calls, reaped⟩ :=
      terminate_pressing (handled.attempt (.wait (some limit)))
    rw [Bool.not_eq_true] at late
    refine ⟨_, .late pressing, ?_, reaped⟩
    rw [calls, made_attempt late, List.append_assoc]
    rfl

end Handled

section

variable {limit : Int} {made before after : List MadeCall}

theorem Pressing.before_terminate (pressing : Pressing made) {told : Bool}
    (split : made = before ++ ⟨.terminate, told⟩ :: after) : before = [] := by
  cases pressing with
  | told => exact split_at_head (by simp) split
  | stubborn killed => exact split_at_head (by simp) split
  | untold killed => exact split_at_head (by simp) split

theorem Pressing.before_kill (pressing : Pressing made) {killed : Bool}
    (split : made = before ++ ⟨.kill, killed⟩ :: after) :
    before = [⟨.terminate, false⟩] ∨
      before = [⟨.terminate, true⟩, ⟨.wait (some Child.terminateWait), false⟩] := by
  cases pressing with
  | told => exact absurd split (ne_split (by simp))
  | stubborn _ =>
      obtain ⟨_, rfl, behind⟩ := split_behind_head (by simp) split
      obtain ⟨_, rfl, later⟩ := split_behind_head (by simp) behind
      obtain rfl := split_at_head (by simp) later
      exact .inr rfl
  | untold _ =>
      obtain ⟨_, rfl, behind⟩ := split_behind_head (by simp) split
      obtain rfl := split_at_head (by simp) behind
      exact .inl rfl

namespace Ending

theorem not_closes (ending : Ending limit made) : ∀ call ∈ made, ¬ call.Closes := by
  obtain _ | ⟨_ | _ | _⟩ := ending <;> simp [MadeCall.Closes]

theorem last (ending : Ending limit made) :
    ∃ before limit, made = before ++ [⟨.wait limit, true⟩] := by
  obtain _ | ⟨_ | _ | _⟩ := ending
  · exact ⟨[], _, rfl⟩
  · exact ⟨[_, _], _, rfl⟩
  · exact ⟨[_, _, _, _], _, rfl⟩
  · exact ⟨[_, _, _], _, rfl⟩

theorem before_terminate (ending : Ending limit made) {told : Bool}
    (split : made = before ++ ⟨.terminate, told⟩ :: after) :
    before = [⟨.wait (some limit), false⟩] := by
  cases ending with
  | inTime => exact absurd split (ne_split (by simp))
  | late pressing =>
      obtain ⟨middle, rfl, behind⟩ := split_behind_head (by simp) split
      rw [pressing.before_terminate behind]

theorem before_kill (ending : Ending limit made) {killed : Bool}
    (split : made = before ++ ⟨.kill, killed⟩ :: after) :
    ∃ earlier, before = earlier ++ [⟨.terminate, false⟩] ∨
      before = earlier ++ [⟨.terminate, true⟩, ⟨.wait (some Child.terminateWait), false⟩] := by
  cases ending with
  | inTime => exact absurd split (ne_split (by simp))
  | late pressing =>
      obtain ⟨middle, rfl, behind⟩ := split_behind_head (by simp) split
      refine ⟨[⟨.wait (some limit), false⟩], ?_⟩
      obtain rfl | rfl := pressing.before_kill behind
      · exact .inl rfl
      · exact .inr rfl

end Ending

end

theorem seenToEnd_endWithin (child : Child) (limit : Int) :
    SeenToEnd child ((Handled.closePipes { child }).endWithin limit).child limit
      ((Handled.closePipes { child }).endWithin limit).made := by
  obtain ⟨made, ending, calls, reaped⟩ := (Handled.closePipes { child }).endWithin_ending limit
  rw [Handled.closePipes_eq, List.nil_append] at calls
  dsimp only at calls
  rw [Handled.closePipes_eq, List.nil_append, calls]
  have absent {call : ChildCall} {succeeded : Bool} (other : ∀ pipe, call ≠ .close pipe) :
      ⟨call, succeeded⟩ ∉ child.closings := fun isMade =>
    (Child.closes_of_mem_closings isMade).elim other
  constructor
  case closed => exact child.closedOnce_closings ending.not_closes
  case ended =>
    obtain ⟨before, last, rfl⟩ := ending.last
    exact ⟨child.closings ++ before, last, (List.append_assoc ..).symm⟩
  case reaped => rwa [Handled.closePipes_eq] at reaped
  case told =>
    intro before told after split
    obtain ⟨middle, rfl, rest⟩ := split_behind (absent (by simp)) split
    exact ⟨child.closings, by rw [ending.before_terminate rest]⟩
  case killed =>
    intro before killed after split
    obtain ⟨middle, rfl, rest⟩ := split_behind (absent (by simp)) split
    obtain ⟨earlier, rfl | rfl⟩ := ending.before_kill rest
    · exact ⟨child.closings ++ earlier, .inl (List.append_assoc ..).symm⟩
    · exact ⟨child.closings ++ earlier, .inr (List.append_assoc ..).symm⟩

/-! ## Stopping -/

theorem Child.secondsOf?_eq_none_iff {limit : Int} :
    secondsOf? limit = none ↔ (Binary64.beyond : Int) ≤ limit := by
  have positive := Binary64.beyond_pos
  rw [secondsOf?, Option.map_eq_none_iff, Binary64.ofInt?_eq_none_iff]
  omega

namespace ServerProcess

variable {process : ServerProcess}

theorem stopWith_of_stopped (stopped : process.stopped = true) (timeout : Except Fault Int) :
    process.stopWith timeout = ⟨.ok (), [], process⟩ := by
  rw [stopWith, if_pos stopped]

theorem stopEach_of_stopped (halted : process.stopped = true) (later : List (Except Fault Int)) :
    ∀ stopped ∈ process.stopEach later, stopped = ⟨.ok (), [], process⟩ := by
  induction later with
  | nil => exact fun stopped isOne => absurd isOne List.not_mem_nil
  | cons timeout later keep =>
      rw [stopEach, stopWith_of_stopped halted]
      intro stopped isOne
      obtain rfl | isLater := List.mem_cons.mp isOne
      · rfl
      · exact keep stopped isLater

theorem stopped_stopWith (process : ServerProcess) (timeout : Except Fault Int) :
    (process.stopWith timeout).process.stopped = true := by
  unfold stopWith
  split
  · assumption
  · dsimp only
    split
    · rfl
    · split <;> rfl

variable (running : process.stopped = false)
include running

theorem stopWith_unread (fault : Fault) :
    process.stopWith (.error fault) =
      ⟨.error fault, (Handled.closePipes { child := process.child }).made,
        { process with
          child := (Handled.closePipes { child := process.child }).child, stopped := true }⟩ := by
  rw [stopWith, if_neg (by simp [running])]

theorem stopWith_beyond {limit : Int} (beyond : (Binary64.beyond : Int) ≤ limit) :
    process.stopWith (.ok limit) = process.stopWith (.error .beyondRange) := by
  rw [stopWith_unread running, stopWith, if_neg (by simp [running])]
  dsimp only
  rw [Child.secondsOf?_eq_none_iff.mpr beyond]

theorem stopWith_inRange {limit : Int} (inRange : limit < (Binary64.beyond : Int)) :
    process.stopWith (.ok limit) =
      ⟨.ok (), ((Handled.closePipes { child := process.child }).endWithin (max 0 limit)).made,
        { process with
          child := ((Handled.closePipes { child := process.child }).endWithin (max 0 limit)).child
          stopped := true }⟩ := by
  obtain ⟨seconds, given⟩ := Option.ne_none_iff_exists'.mp
    (mt Child.secondsOf?_eq_none_iff.mp (Int.not_le.mpr inRange))
  rw [stopWith, if_neg (by simp [running])]
  dsimp only
  rw [given]

theorem stopsOnce (timeout : Except Fault Int) (later : List (Except Fault Int)) :
    StopsOnce process process.child timeout later where
  inRange := by
    rintro limit inRange rfl
    rw [stopWith_inRange running inRange]
    exact ⟨rfl, seenToEnd_endWithin process.child (max 0 limit)⟩
  beyond := by
    rintro limit beyond rfl
    rw [stopWith_beyond running beyond, stopWith_unread running]
    exact ⟨rfl, leftBehind_closePipes process.child⟩
  unread := by
    rintro fault rfl
    rw [stopWith_unread running]
    exact ⟨rfl, leftBehind_closePipes process.child⟩
  idle := stopEach_of_stopped (process.stopped_stopWith timeout) later

end ServerProcess

/-! ## Starting -/

namespace ServerProcess

variable {run : List Text → Spawned} {command : Text} {child : Child}

theorem start_of_creates (created : Creates run command child) :
    ∃ program, start run command = adopt (splitCommand command) program child := by
  obtain ⟨named, ran⟩ := created
  unfold start
  split
  · next empty => exact absurd empty named
  · next program arguments words =>
    rw [words] at ran
    refine ⟨program, ?_⟩
    dsimp only
    rw [ran, words]

theorem adopt_of_piped (piped : child.IsPiped) (argv : List Text) (program : Text) :
    adopt argv program child =
      match child.descriptor with
      | .ready => ⟨.ok { child, commandLine := joinCommand argv }, some argv, []⟩
      | .refused fault => giveUp argv (.unusablePipes program fault.message) child
      | .impossible fault => ⟨.error (.brokenOff fault child), some argv, []⟩ := by
  rw [adopt, piped.input, piped.output]
  rfl

theorem adopt_refused (refused : child.IsRefused) (argv : List Text) (program : Text) :
    ∃ fault, adopt argv program child = giveUp argv fault child := by
  by_cases piped : child.IsPiped
  · obtain ⟨fault, descriptor⟩ := refused piped
    rw [adopt_of_piped piped, descriptor]
    exact ⟨_, rfl⟩
  · have missing : (!child.hasInput || !child.hasOutput) = true := by
      by_contra present
      simp only [Bool.not_eq_true, Bool.or_eq_false_iff, Bool.not_eq_false'] at present
      exact piped ⟨present.1, present.2⟩
    rw [adopt, if_pos missing]
    exact ⟨_, rfl⟩

theorem start_of_not_creates (nothing : ∀ child, ¬ Creates run command child) :
    ∃ fault, (start run command).result = .error (.refused fault none) ∧
      (start run command).made = [] := by
  unfold start
  split
  · exact ⟨_, rfl, rfl⟩
  · next program arguments words =>
    dsimp only
    split
    · exact ⟨_, rfl, rfl⟩
    · next child ran =>
      exact absurd ⟨by simp [words], by rw [words, ran]⟩ (nothing child)

/-- Starting a server either takes the child on, and then however often it is stopped, the first
    time sees the child to its end unless its timeout is of no use; or it refuses the child, if one
    was created, and gets rid of it. Only a child whose output has nothing that could be a
    descriptor ends the start with another fault, and then no call is made on it. -/
theorem start_seesToChild (run : List Text → Spawned) (command : Text) :
    (∀ child, Creates run command child →
      (child.IsUsable → ∃ process, (start run command).result = .ok process ∧
        (start run command).made = [] ∧
        ∀ timeout later, process.StopsOnce child timeout later) ∧
      (child.IsRefused → ∃ fault gone,
        (start run command).result = .error (.refused fault (some gone)) ∧
        Discarded child gone (start run command).made) ∧
      (∀ fault, child.IsImpossible fault →
        (start run command).result = .error (.brokenOff fault child) ∧
        (start run command).made = []) ∧
      (child.IsUsable ∨ child.IsRefused ∨ ∃ fault, child.IsImpossible fault)) ∧
    ((∀ child, ¬ Creates run command child) →
      ∃ fault, (start run command).result = .error (.refused fault none) ∧
        (start run command).made = []) := by
  refine ⟨fun child created => ?_, start_of_not_creates⟩
  obtain ⟨program, started⟩ := start_of_creates created
  rw [started]
  refine ⟨fun usable => ?_, fun refused => ?_, fun fault impossible => ?_,
    child.cases_descriptor⟩
  · rw [adopt_of_piped usable.toIsPiped, usable.descriptor]
    exact ⟨_, rfl, rfl, stopsOnce rfl⟩
  · obtain ⟨fault, givenUp⟩ := adopt_refused refused (splitCommand command) program
    rw [givenUp]
    exact ⟨fault, _, rfl, discarded_discard child⟩
  · rw [adopt_of_piped impossible.toIsPiped, impossible.descriptor]
    exact ⟨rfl, rfl⟩

/-- A child that ends neither by itself nor when it is told to, and on which half of the calls
    fail. -/
def stubborn : Child :=
  { closeFails := true, outputCloseFails := false, ends := [false, false], killFails := true }

/-- It is taken on and seen to its end all the same, and then left alone. -/
theorem stopsOnce_stubborn :
    Creates (fun _ => .child stubborn) "server --stdio" stubborn ∧ stubborn.IsUsable ∧
      ∃ process, (start (fun _ => .child stubborn) "server --stdio").result = .ok process ∧
        SeenToEnd stubborn (process.stop 1200).process.child 1200 (process.stop 1200).made ∧
        (process.stop 1200).process.stopEach [.ok 0] =
          [⟨.ok (), [], (process.stop 1200).process⟩] := by
  have created : Creates (fun _ => .child stubborn) "server --stdio" stubborn :=
    ⟨by decide, rfl⟩
  have usable : stubborn.IsUsable := ⟨⟨rfl, rfl⟩, rfl⟩
  have inRange : (1200 : Int) < Binary64.beyond := by
    have least := Binary64.le_beyond
    omega
  obtain ⟨process, started, -, stops⟩ := ((start_seesToChild _ _).1 stubborn created).1 usable
  obtain ⟨-, seen⟩ := (stops (.ok 1200) []).inRange 1200 inRange rfl
  have idle := (stops (.ok 1200) [.ok 0]).idle
  exact ⟨created, usable, process, started, seen,
    congrArg (fun stopped => [stopped]) (idle _ (List.mem_singleton_self _))⟩

/-- A server with a child that does all that it is told. -/
def obliging : ServerProcess :=
  { child := {}, commandLine := "server" }

/-- A child whose output has a number that no descriptor has. -/
def misnumberedOutput : Child :=
  { descriptor := .impossible .descriptorBeyondRange }

/-- Given a timeout that is just beyond the range, stopping a server breaks off behind the pipes.
    Its child is never told to end, killed or waited for, however often it is stopped again. And
    no call at all is made on a child that was started with an impossible descriptor. -/
theorem unreaped_obliging :
    (start (fun _ => .child misnumberedOutput) "server").result =
        .error (.brokenOff .descriptorBeyondRange misnumberedOutput) ∧
      (start (fun _ => .child misnumberedOutput) "server").made = [] ∧
      (start (fun _ => .child {}) "server").result = .ok obliging ∧
      (obliging.stop Binary64.beyond).result = .error .beyondRange ∧
      (obliging.stop Binary64.beyond).calls = [.close .input, .close .output] ∧
      ∀ later, ∀ stopped ∈ obliging.stopEach (.ok Binary64.beyond :: later),
        stopped.process.child.reaped = false := by
  have running : obliging.stopped = false := rfl
  have stopped : obliging.stop Binary64.beyond =
      ⟨.error .beyondRange, [⟨.close .input, true⟩, ⟨.close .output, true⟩],
        { obliging with stopped := true }⟩ :=
    (stopWith_beyond running (Int.le_refl _)).trans (stopWith_unread running .beyondRange)
  refine ⟨rfl, rfl, rfl, by rw [stopped], by rw [stopped]; rfl, fun later one isOne => ?_⟩
  rw [stopEach, ← stop, stopped] at isOne
  obtain rfl | isLater := List.mem_cons.mp isOne
  · rfl
  · rw [stopEach_of_stopped rfl later one isLater]
    rfl

end ServerProcess

end LanguageClient
