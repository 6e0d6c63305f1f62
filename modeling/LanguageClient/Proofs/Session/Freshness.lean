import LanguageClient.Proofs.Dialogue
import LanguageClient.Proofs.Session.Beats

/-! # What is shown is fresh

A run comes with all that is begun and told in it, in order. An answer that the host is told is
for the spot that was asked about last, and since that was asked nothing has come in between: no
other answer, no word that the hover is taken off, no start and no stop.
-/

namespace LanguageClient

/-- The latest signal that concerns such requests is that one about the spot has begun. -/
def AskedLast [Places] (inquiry : Inquiry) (spot : Spot) (signals : List Signal) : Prop :=
  ∃ before asking since, signals = before ++ .begun inquiry asking (some spot.path) :: since ∧
    asking.place = spot.place ∧ ∀ signal ∈ since, signal.concerns inquiry = false

namespace AskedLast

variable {inquiry : Inquiry} {spot : Spot} {signals : List Signal} [Places]

theorem concat {signal : Signal} (asked : AskedLast inquiry spot signals)
    (other : signal.concerns inquiry = false) : AskedLast inquiry spot (signals ++ [signal]) := by
  obtain ⟨before, asking, since, rfl, place, untouched⟩ := asked
  refine ⟨before, asking, since ++ [signal], by simp, place, ?_⟩
  intro later member
  cases List.mem_append.mp member with
  | inl earlier => exact untouched later earlier
  | inr last =>
      rw [List.mem_singleton.mp last]
      exact other

/-- Behind a word that concerns such requests the one that was asked last has begun. -/
theorem begun_since (asked : AskedLast inquiry spot signals) {front behind : List Signal}
    {event : Event Text} (split : signals = front ++ .told event :: behind)
    (concerns : event.concerns inquiry = true) :
    ∃ asking, .begun inquiry asking (some spot.path) ∈ behind := by
  obtain ⟨before, asking, since, rfl, _, untouched⟩ := asked
  refine ⟨asking, ?_⟩
  rcases List.append_eq_append_iff.mp split with ⟨between, _, rest⟩ | ⟨between, _, rest⟩
  · cases between with
    | nil => exact absurd (List.cons_eq_cons.mp rest).1 nofun
    | cons first between =>
        obtain ⟨_, rfl⟩ := List.cons_eq_cons.mp rest
        have member : .told event ∈ between ++ .told event :: behind :=
          List.mem_append_right _ List.mem_cons_self
        exact absurd concerns (Bool.eq_false_iff.mp (untouched _ member))
  · cases between with
    | nil => exact absurd (List.cons_eq_cons.mp rest).1 nofun
    | cons first between =>
        obtain ⟨_, rfl⟩ := List.cons_eq_cons.mp rest
        exact List.mem_append_right _ List.mem_cons_self

end AskedLast

namespace Session

variable {subject : Option Text} {inquiry : Inquiry} {signals : List Signal}
  {before after session : Session Text} [Host]

/-- What a call begins and tells. -/
def signalsOf (session : Session Text) (action : Action Text) : List Signal :=
  ((session.perform action).account (session.subject? action)).drop
    (session.account (session.subject? action)).length

/-- A run with all that was begun and told in it, in order. -/
inductive Course : List Signal → Session Text → Prop where
  | fresh (processId : Int) (folder : Text) : Course [] { processId, folder }
  | perform {signals : List Signal} {session : Session Text} (before : Course signals session)
      (action : Action Text) :
      Course (signals ++ session.signalsOf action) (session.perform action)

theorem Course.reachable (course : Course signals session) : Reachable session := by
  induction course with
  | fresh processId folder => exact .fresh processId folder
  | perform _ action reached => exact reached.perform action

theorem signalsOf_eq {action : Action Text} {more : List Signal}
    (grown : (session.perform action).account (session.subject? action) =
      session.account (session.subject? action) ++ more) : session.signalsOf action = more := by
  rw [signalsOf, grown, List.drop_left]

/-- What is waited for was asked last, and so was what has been answered. -/
structure Fresh (inquiry : Inquiry) (signals : List Signal) (session : Session Text) :
    Prop where
  waiting : ∀ request, session.inFlight inquiry = some request →
    AskedLast inquiry request.spot signals
  answered : ∀ earlier event later spot, signals = earlier ++ .told event :: later →
    event.answer? inquiry = some spot → AskedLast inquiry spot earlier

theorem Fresh.same (fresh : Fresh inquiry signals before)
    (inFlight : after.inFlight inquiry = none ∨ after.inFlight inquiry = before.inFlight inquiry) :
    Fresh inquiry signals after := by
  refine ⟨?_, fresh.answered⟩
  intro request waits
  rcases inFlight with silent | same
  · rw [silent] at waits
    exact absurd waits nofun
  · exact fresh.waiting request (same.symm.trans waits)

/-- One signal more, which is an answer only to what was asked last. -/
theorem Fresh.concat {signal : Signal} (fresh : Fresh inquiry signals before)
    (answers : ∀ event spot, signal = .told event → event.answer? inquiry = some spot →
      AskedLast inquiry spot signals)
    (waiting : ∀ request, after.inFlight inquiry = some request →
      AskedLast inquiry request.spot (signals ++ [signal])) :
    Fresh inquiry (signals ++ [signal]) after := by
  refine ⟨waiting, ?_⟩
  intro earlier event later spot split isAnswer
  obtain ⟨rfl, rfl, rfl⟩ | ⟨others, rfl, isEarlier⟩ := eq_or_of_snoc_eq split
  · exact answers event spot rfl isAnswer
  · exact fresh.answered earlier event others spot isEarlier isAnswer

theorem Fresh.beat (fresh : Fresh inquiry signals before) (beat : Beat subject before after) :
    ∃ more, after.account subject = before.account subject ++ more ∧
      Fresh inquiry (signals ++ more) after := by
  cases beat with
  | even even =>
      refine ⟨[], even.account.trans (List.append_nil _).symm, ?_⟩
      rw [List.append_nil]
      exact fresh.same (.inr (congrFun even.inFlight inquiry))
  | @begun asked asking request account place inFlight others displayed =>
      refine ⟨_, account, fresh.concat ?_ ?_⟩
      · intro event spot isTold
        exact absurd isTold nofun
      · intro waited waits
        by_cases same : asked = inquiry
        · subst same
          obtain rfl := Option.some.inj (inFlight.symm.trans waits)
          exact ⟨signals, asking, [], rfl, place, nofun⟩
        · rw [others inquiry (Ne.symm same)] at waits
          exact (fresh.waiting waited waits).concat (decide_eq_false same)
  | @told event account answers inFlight displayed =>
      refine ⟨_, account, fresh.concat ?_ ?_⟩
      · intro told spot isTold isAnswer
        obtain rfl := Signal.told.inj isTold
        obtain ⟨request, waited, rfl⟩ := answers inquiry spot isAnswer
        exact fresh.waiting request waited
      · intro request waits
        rcases inFlight inquiry with silent | ⟨other, same⟩
        · rw [silent] at waits
          exact absurd waits nofun
        · exact (fresh.waiting request (same.symm.trans waits)).concat other

theorem Fresh.beats (fresh : Fresh inquiry signals before) (beats : Beats subject before after) :
    ∃ more, after.account subject = before.account subject ++ more ∧
      Fresh inquiry (signals ++ more) after := by
  induction beats with
  | refl => exact ⟨[], (List.append_nil _).symm, (List.append_nil signals).symm ▸ fresh⟩
  | tail _ beat ih =>
      obtain ⟨some, grown, kept⟩ := ih
      obtain ⟨more, grownMore, keptMore⟩ := kept.beat beat
      refine ⟨some ++ more, ?_, ?_⟩
      · rw [grownMore, grown, List.append_assoc]
      · rw [← List.append_assoc]
        exact keptMore

/-- A pointer that is moved while the clock cannot be read moves without a word. -/
theorem Fresh.moveUntimely (fresh : Fresh inquiry signals session)
    {target : HoverTarget Text} {fault : Fault}
    (clock : session.now.milliseconds = .error fault) :
    Fresh inquiry (signals ++ session.signalsOf (.scheduleHover target))
      (session.perform (.scheduleHover target)) := by
  have moved : session.perform (.scheduleHover target) =
      { session with hover := (session.hover.pointAt target).2 } := by
    simp only [Session.perform, scheduleHover, HoverSchedule.setTarget, clock]
  have silent : session.signalsOf (.scheduleHover target) = [] := by
    apply signalsOf_eq
    rw [moved, List.append_nil]
    rfl
  rw [silent, List.append_nil, moved]
  apply fresh.same
  cases inquiry with
  | completion => exact .inr rfl
  | hover =>
      unfold HoverSchedule.pointAt
      cases session.hover.isOn target with
      | true => exact .inr rfl
      | false => exact .inl rfl

theorem Fresh.performTimely (fresh : Fresh inquiry signals session)
    (reachable : Reachable session) {action : Action Text} (timely : session.IsTimely action) :
    Fresh inquiry (signals ++ session.signalsOf action) (session.perform action) := by
  obtain ⟨more, grown, kept⟩ :=
    fresh.beats (beats_perform reachable.inStep reachable.settled timely)
  rw [signalsOf_eq grown]
  exact kept

theorem Fresh.perform (fresh : Fresh inquiry signals session) (reachable : Reachable session)
    (action : Action Text) :
    Fresh inquiry (signals ++ session.signalsOf action) (session.perform action) := by
  cases action with
  | scheduleHover target =>
      cases clock : session.now.milliseconds with
      | ok now => exact fresh.performTimely reachable ⟨now, clock⟩
      | error fault => exact fresh.moveUntimely clock
  | _ => exact fresh.performTimely reachable trivial

/-- What the host is told to be the answer for a spot is for the spot that was asked about last,
    and between any other word that concerns such requests and the answer one was begun: an
    answer before it, a start or a stop, or for a hover that it was taken off. -/
theorem fresh_of_answer (course : Course signals session) (inquiry : Inquiry)
    {earlier later : List Signal} {event : Event Text} {spot : Spot}
    (split : signals = earlier ++ .told event :: later)
    (answers : event.answer? inquiry = some spot) :
    AskedLast inquiry spot earlier ∧
      ∀ front other behind, earlier = front ++ .told other :: behind →
        other.concerns inquiry = true →
        ∃ asking, .begun inquiry asking (some spot.path) ∈ behind := by
  have fresh : Fresh inquiry signals session := by
    clear split
    induction course with
    | fresh processId folder =>
        refine ⟨?_, ?_⟩
        · intro request waits
          cases inquiry <;> exact absurd waits nofun
        · intro earlier event later spot split
          simp at split
    | perform before action kept =>
        exact kept.perform before.reachable action
  have asked := fresh.answered earlier event later spot split answers
  exact ⟨asked, fun front other behind split => asked.begun_since split⟩

end Session

end LanguageClient

open scoped LanguageClient.Host.Bare

namespace LanguageClient.Session

/-- A hover is asked for and taken off, and another is asked for beside it. The responses to both
    arrive. -/
def askedBeside : Session Text :=
  ((((((({ processId := 1, folder := "/home" : Session Text }.perform
    (.start "server" "proj")).perform (.didOpen "a.py" "x" "python")).perform
    (.requestHover "a.py" 0 0)).perform .clearHover).perform
    (.requestHover "a.py" 0 1)).perform
    (.arrive (Transport.frameOf (.obj [("id", .int 3), ("result", .null)])))).perform
    (.arrive (Transport.frameOf (.obj [("id", .int 4), ("result", .null)])))).perform
    .processAvailable

/-- All but the answer, which is to the second of them. -/
def beside : List Signal :=
  [.told .started, .begun .hover ⟨0, 3, ⟨"file://a.py", 0, 0⟩⟩ (some "a.py"), .told .hoverCleared,
    .begun .hover ⟨0, 4, ⟨"file://a.py", 0, 1⟩⟩ (some "a.py")]

theorem fresh_askedBeside :
    Course (beside ++ [.told (.hover "a.py" 0 1 none)]) askedBeside ∧
      AskedLast .hover ⟨"a.py", 0, 1⟩ beside ∧
      ∃ asking, .begun .hover asking (some "a.py") ∈ beside.drop 3 := by
  have run : Course _ askedBeside :=
    ((((((((Course.fresh 1 "/home").perform _).perform _).perform _).perform _).perform _).perform
      _).perform _).perform _
  have course : Course (beside ++ [.told (.hover "a.py" 0 1 none)]) askedBeside := by
    refine Eq.mp (congrArg (Course · askedBeside) ?_) run
    decide +kernel
  obtain ⟨asked, since⟩ := fresh_of_answer course .hover rfl rfl
  exact ⟨course, asked, since (beside.take 2) .hoverCleared (beside.drop 3) rfl rfl⟩

end LanguageClient.Session
