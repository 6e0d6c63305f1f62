import LanguageClient.Proofs.Dialogue
import LanguageClient.Schedule.Hover

/-! # Hovering by its history

Whether there is something to ask for, and whether a response still counts, is known by what was
asked of the schedule and answered. A place waits to be asked for since the pointer was last set on
it, until it is asked for or all is given up. A request waits since it was made, until it is
answered, given up, replaced, or the pointer goes to another place. The pointer is where it was set
last, also behind a `clear`.
-/

namespace LanguageClient.HoverSchedule

variable {τ : Type}

/-! ## What the operations come to -/

section Cases

variable {π : Type} (hover : HoverSchedule π τ)

theorem accept_cases [BEq π] [DocumentName π] (name : π) (line col : Int) :
    hover.accept name line col = (true, { hover with inFlight := none }) ∨
      hover.accept name line col = (false, hover) := by
  unfold HoverSchedule.accept
  split
  · exact .inr rfl
  · split
    · exact .inl rfl
    · exact .inr rfl

theorem expired_cases (now : Moment) :
    hover.expired now = .ok (true, { hover with inFlight := none }) ∨
      hover.expired now = .ok (false, hover) ∨ ∃ fault, hover.expired now = .error fault := by
  unfold HoverSchedule.expired
  split
  · exact .inr (.inl rfl)
  · next request _ =>
    cases now.since request.sentAt with
    | error fault => exact .inr (.inr ⟨fault, rfl⟩)
    | ok age => cases within : age.staysWithin hover.timeout <;> simp [Except.map, within]

theorem due_cases (now : Moment) :
    (∃ target, hover.target = some target ∧
      hover.due now = .ok (some target, { hover with waiting := false })) ∨
      hover.due now = .ok (none, hover) ∨ ∃ fault, hover.due now = .error fault := by
  unfold HoverSchedule.due
  split
  · next target pointed _ =>
    cases now.since hover.lastMove with
    | error fault => exact .inr (.inr ⟨fault, rfl⟩)
    | ok age => cases short : age.fallsShortOf hover.delay <;> simp [Except.map, short, pointed]
  · exact .inr (.inl rfl)

end Cases

/-! ## Calls and replies -/

/-- What is asked of a schedule. -/
inductive Call (τ : Type) where
  | setTarget (target : τ) (now : Int)
  | start (path : Text) (line col now : Int)
  | accept (path : Text) (line col : Int)
  | expired (now : Moment)
  | due (now : Moment)
  | clear

inductive Reply (τ : Type) where
  | nothing
  | told (outcome : Except Fault Bool)
  | target (outcome : Except Fault (Option τ))

abbrev Entry (τ : Type) := Call τ × Reply τ

/-- A call whose time is refused changes nothing. -/
def answer [BEq τ] (hover : HoverSchedule Text τ) : Call τ → Reply τ × HoverSchedule Text τ
  | .setTarget target now =>
    let (cleared, next) := hover.setTarget target (.ok now)
    (.told cleared, next)
  | .start path line col now => (.nothing, hover.start path line col now)
  | .accept path line col =>
    let (accepted, next) := hover.accept path line col
    (.told (.ok accepted), next)
  | .expired now =>
    match hover.expired now with
    | .ok (expired, next) => (.told (.ok expired), next)
    | .error fault => (.told (.error fault), hover)
  | .due now =>
    match hover.due now with
    | .ok (target, next) => (.target (.ok target), next)
    | .error fault => (.target (.error fault), hover)
  | .clear =>
    let (given, next) := hover.clear
    (.told (.ok given), next)

/-! ## What a history tells -/

def target? : Entry τ → Option τ
  | (.setTarget target _, _) => some target
  | _ => none

/-- The target that the pointer was set on last. -/
def lastTarget? (entries : List (Entry τ)) : Option τ :=
  (entries.filterMap target?).getLast?

/-- Behind such an entry what the pointer was set on before is not to be asked for. -/
def Settles : Entry τ → Prop
  | (.setTarget _ _, _) => True
  | (.clear, _) => True
  | (.due _, .target (.ok (some _))) => True
  | _ => False

/-- The pointer was set last on a target, at some time, and neither was that target asked for since
    nor all given up. -/
def Rests (entries : List (Entry τ)) (target : τ) (time : Int) : Prop :=
  Since (fun _ entry => entry.1 = .setTarget target time) (fun _ entry => Settles entry) entries

/-- Behind such an entry the request that was made before does not wait. The pointer ends it when
    it is set on another target than the one that it was set on before, if any. -/
def Ends (front : List (Entry τ)) : Entry τ → Prop
  | (.start .., _) => True
  | (.setTarget target _, _) => lastTarget? front ≠ some target
  | (.accept .., .told (.ok true)) => True
  | (.expired _, .told (.ok true)) => True
  | (.clear, _) => True
  | _ => False

/-- The latest request is about a place, and nothing has ended it since it was made. -/
def Asks (entries : List (Entry τ)) (path : Text) (line col time : Int) : Prop :=
  Since (fun _ entry => entry.1 = .start path line col time) Ends entries

variable {entries : List (Entry τ)} {entry : Entry τ} {target : τ} {path : Text}
  {line col time : Int}

theorem lastTarget?_snoc : lastTarget? (entries ++ [entry]) =
    (target? entry).or (lastTarget? entries) := by
  rw [lastTarget?, filterMap_snoc, List.getLast?_append]
  cases target? entry <;> rfl

theorem rests_snoc : Rests (entries ++ [entry]) target time ↔
    entry.1 = .setTarget target time ∨ (¬Settles entry ∧ Rests entries target time) :=
  Since.snoc_iff

theorem asks_snoc : Asks (entries ++ [entry]) path line col time ↔
    entry.1 = .start path line col time ∨ (¬Ends entries entry ∧ Asks entries path line col time) :=
  Since.snoc_iff

/-! ## What a schedule keeps of its history -/

/-- The state of a schedule by what was asked of it and answered. -/
structure Keeps (delay : Int) (entries : List (Entry τ)) (hover : HoverSchedule Text τ) :
    Prop where
  delay : hover.delay = delay
  target : hover.target = lastTarget? entries
  rests : ∀ target time, Rests entries target time ↔
    hover.waiting = true ∧ hover.target = some target ∧ hover.lastMove = time
  asks : ∀ path line col time, Asks entries path line col time ↔
    hover.inFlight = some ⟨path, line, col, time⟩

variable {delay : Int} {hover : HoverSchedule Text τ}

theorem keeps_fresh (delay timeout : Int) :
    Keeps delay [] ({ delay, timeout } : HoverSchedule Text τ) where
  delay := rfl
  target := rfl
  rests target time := by simp [Rests, Since.not_nil]
  asks path line col time := by simp [Asks, Since.not_nil]

theorem isOn_iff [BEq τ] [LawfulBEq τ] : hover.isOn target = true ↔ hover.target = some target := by
  unfold isOn
  cases hover.target <;> simp

/-- Another target ends the request; the same one does not. -/
theorem Keeps.setTarget [BEq τ] [LawfulBEq τ] (keeps : Keeps delay entries hover) (target : τ)
    (now : Int) :
    Keeps delay (entries ++ [(.setTarget target now, (answer hover (.setTarget target now)).1)])
      (answer hover (.setTarget target now)).2 := by
  cases on : hover.isOn target with
  | true =>
      have pointed : hover.target = some target := isOn_iff.mp on
      have next : (answer hover (.setTarget target now)).2 =
          { hover with target := some target, lastMove := now, waiting := true } := by
        simp [answer, HoverSchedule.setTarget, pointAt, restFrom, on]
      rw [next]
      constructor
      case delay => exact keeps.delay
      case target => simp [lastTarget?_snoc, target?]
      case rests => simp [rests_snoc, Settles]
      case asks => simp [asks_snoc, Ends, ← keeps.target, pointed, keeps.asks]
  | false =>
      have pointed : hover.target ≠ some target := by simp [← isOn_iff, on]
      have next : (answer hover (.setTarget target now)).2 =
          { hover.clear.2 with target := some target, lastMove := now, waiting := true } := by
        simp [answer, HoverSchedule.setTarget, pointAt, restFrom, on]
      rw [next]
      constructor
      case delay => exact keeps.delay
      case target => simp [lastTarget?_snoc, target?]
      case rests => simp [rests_snoc, Settles]
      case asks => simp [asks_snoc, Ends, ← keeps.target, pointed, HoverSchedule.clear]

theorem Keeps.start (keeps : Keeps delay entries hover) (path : Text) (line col now : Int) :
    Keeps delay (entries ++ [(.start path line col now, .nothing)])
      (hover.start path line col now) where
  delay := keeps.delay
  target := by simp [lastTarget?_snoc, target?, HoverSchedule.start, keeps.target]
  rests := by simp [rests_snoc, Settles, HoverSchedule.start, keeps.rests]
  asks := by simp [asks_snoc, Ends, HoverSchedule.start]

theorem Keeps.clear (keeps : Keeps delay entries hover) (given : Reply τ) :
    Keeps delay (entries ++ [(.clear, given)]) hover.clear.2 where
  delay := keeps.delay
  target := by simp [lastTarget?_snoc, target?, HoverSchedule.clear, keeps.target]
  rests := by simp [rests_snoc, Settles, HoverSchedule.clear]
  asks := by simp [asks_snoc, Ends, HoverSchedule.clear]

theorem settles_of_target (given : target? entry = some target) : Settles entry := by
  unfold target? at given
  split at given
  · trivial
  · cases given

theorem settles_of_setTarget (given : entry.1 = .setTarget target time) : Settles entry := by
  obtain ⟨call, reply⟩ := entry
  cases given
  trivial

theorem ends_of_start (made : entry.1 = .start path line col time) : Ends entries entry := by
  obtain ⟨call, reply⟩ := entry
  cases made
  trivial

/-- What an entry leaves that does not settle where the pointer rests. -/
theorem Keeps.unsettled {next : HoverSchedule Text τ} (keeps : Keeps delay entries hover)
    (unsettled : ¬Settles entry) (same : { next with inFlight := hover.inFlight } = hover)
    (asks : ∀ path line col time, Asks (entries ++ [entry]) path line col time ↔
      next.inFlight = some ⟨path, line, col, time⟩) : Keeps delay (entries ++ [entry]) next := by
  have noTarget : target? entry = none := by
    by_contra given
    obtain ⟨target, given⟩ := Option.ne_none_iff_exists'.mp given
    exact unsettled (settles_of_target given)
  rw [← same] at keeps
  constructor
  case delay => exact keeps.delay
  case target => simpa [lastTarget?_snoc, noTarget] using keeps.target
  case rests =>
    intro target time
    have unset : entry.1 ≠ .setTarget target time := mt settles_of_setTarget unsettled
    simpa [rests_snoc, unsettled, unset] using keeps.rests target time
  case asks => exact asks

/-- An entry behind which all that waited still waits. -/
theorem Keeps.pass (keeps : Keeps delay entries hover) (unsettled : ¬Settles entry)
    (unended : ¬Ends entries entry) : Keeps delay (entries ++ [entry]) hover := by
  refine keeps.unsettled unsettled rfl ?_
  intro path line col time
  have unmade : entry.1 ≠ .start path line col time := mt ends_of_start unended
  simp [asks_snoc, unended, unmade, keeps.asks]

/-- A request was answered, or given up. -/
theorem Keeps.end (keeps : Keeps delay entries hover) (unsettled : ¬Settles entry)
    (ended : Ends entries entry)
    (unmade : ∀ path line col time, entry.1 ≠ .start path line col time) :
    Keeps delay (entries ++ [entry]) { hover with inFlight := none } := by
  refine keeps.unsettled unsettled rfl ?_
  simp [asks_snoc, ended, unmade]

theorem Keeps.due (keeps : Keeps delay entries hover) (now : Moment) (target : τ) :
    Keeps delay (entries ++ [(.due now, .target (.ok (some target)))])
      { hover with waiting := false } where
  delay := keeps.delay
  target := by simp [lastTarget?_snoc, target?, keeps.target]
  rests := by simp [rests_snoc, Settles]
  asks := by simp [asks_snoc, Ends, keeps.asks]

theorem keeps_of_dialogue [BEq τ] [LawfulBEq τ] (delay timeout : Int) (calls : List (Call τ)) :
    Keeps delay (Dialogue.of answer { delay, timeout } calls).entries
      (Dialogue.of answer { delay, timeout } calls).state := by
  refine Dialogue.induction (motive := Keeps delay) (keeps_fresh delay timeout) ?_ calls
  intro entries hover call keeps
  cases call with
  | setTarget target now => exact keeps.setTarget target now
  | start path line col now => exact keeps.start path line col now
  | accept path line col =>
      rcases accept_cases hover path line col with accepted | refused
      · simp only [answer, accepted]
        exact keeps.end id trivial nofun
      · simp only [answer, refused]
        exact keeps.pass id id
  | expired now =>
      rcases expired_cases hover now with expired | waits | ⟨fault, refused⟩
      · simp only [answer, expired]
        exact keeps.end id trivial nofun
      · simp only [answer, waits]
        exact keeps.pass id id
      · simp only [answer, refused]
        exact keeps.pass id id
  | due now =>
      rcases due_cases hover now with ⟨target, _, due⟩ | waits | ⟨fault, refused⟩
      · simp only [answer, due]
        exact keeps.due now target
      · simp only [answer, waits]
        exact keeps.pass id id
      · simp only [answer, refused]
        exact keeps.pass id id
  | clear => exact keeps.clear _

/-! ## What is asked for, and what is taken -/

/-- By a clock of whole milliseconds it can be told whether the pointer has rested. -/
theorem due_whole (hover : HoverSchedule Text τ) (now : Int) :
    ∃ found, (hover.due now).map Prod.fst = .ok found ∧ ∀ target, found = some target ↔
      hover.waiting = true ∧ hover.target = some target ∧ hover.delay ≤ now - hover.lastMove := by
  unfold HoverSchedule.due
  split
  · next current waiting pointed waits =>
    simp only [Moment.since_whole, Moment.fallsShortOf_whole, Except.map, decide_eq_true_eq]
    refine ⟨_, rfl, fun target => ?_⟩
    by_cases short : now - hover.lastMove < hover.delay
    · have early : ¬hover.delay ≤ now - hover.lastMove := by omega
      simp [short, early]
    · have rested : hover.delay ≤ now - hover.lastMove := by omega
      simp [short, rested, pointed, waits]
  · next idle =>
    refine ⟨none, rfl, fun target => ?_⟩
    constructor
    · exact nofun
    · rintro ⟨waits, pointed, _⟩
      exact absurd waits (idle target pointed)

theorem accept_eq_true_iff : (hover.accept path line col).1 = true ↔
    ∃ time, hover.inFlight = some ⟨path, line, col, time⟩ := by
  unfold HoverSchedule.accept
  split
  · next none => simp [none]
  · next request flies =>
    obtain ⟨name, atLine, atCol, time⟩ := request
    by_cases about : name = path ∧ atLine = line ∧ atCol = col
    · obtain ⟨rfl, rfl, rfl⟩ := about
      simp [InFlight.isAbout, flies]
    · have other : InFlight.isAbout ⟨name, atLine, atCol, time⟩ path line col = false := by
        simpa [InFlight.isAbout, and_assoc] using about
      simp [other, flies]
      grind

/-- Behind any calls, by a clock of whole milliseconds: the target that is due is the one that the
    pointer was set on last, if it was not asked for since and nothing cleared, and if it was set
    there at least the delay ago. A response is taken if it is about the place of the latest
    request, and if since that was made no response was taken, the time for it did not run out,
    nothing cleared, and the pointer was not set on another target than before. -/
theorem due_and_accept_of_dialogue (delay timeout : Int) (calls : List (Call (HoverTarget Text))) :
    let dialogue := Dialogue.of answer { delay, timeout } calls
    (∀ now : Int, ∃ found, (dialogue.state.due now).map Prod.fst = .ok found ∧
      ∀ target, found = some target ↔
        ∃ time, Rests dialogue.entries target time ∧ delay ≤ now - time) ∧
    (∀ path line col, (dialogue.state.accept path line col).1 = true ↔
      ∃ time, Asks dialogue.entries path line col time) := by
  intro dialogue
  have keeps : Keeps delay dialogue.entries dialogue.state := keeps_of_dialogue delay timeout calls
  refine ⟨?_, ?_⟩
  · intro now
    obtain ⟨found, due, isDue⟩ := due_whole dialogue.state now
    refine ⟨found, due, fun target => ?_⟩
    rw [isDue, keeps.delay]
    constructor
    · rintro ⟨waits, pointed, rested⟩
      exact ⟨_, (keeps.rests target _).mpr ⟨waits, pointed, rfl⟩, rested⟩
    · rintro ⟨time, rests, rested⟩
      obtain ⟨waits, pointed, rfl⟩ := (keeps.rests target time).mp rests
      exact ⟨waits, pointed, rested⟩
  · intro path line col
    rw [accept_eq_true_iff]
    exact exists_congr fun time => (keeps.asks path line col time).symm

end LanguageClient.HoverSchedule
