import LanguageClient.Proofs.Dialogue
import LanguageClient.Proofs.Table
import LanguageClient.Schedule.TokenRefresh

/-! # Marks by their history

A document that was changed stays marked until it is discarded, all is cleared, or it was due. The
time of a mark is that of the latest change since then, and its place in the order is that of the
first.
-/

namespace LanguageClient.TokenRefresh

/-! ## Calls and replies -/

/-- What is asked of the marks. -/
inductive Call where
  | mark (path : Text) (time : Int)
  | discard (path : Text)
  | due (now : Moment)
  | clear

inductive Reply where
  | nothing
  | ready (outcome : Except Fault (List Text))

abbrev Entry := Call × Reply

/-- A call whose time is refused changes nothing. -/
def answer (refresh : TokenRefresh Text) : Call → Reply × TokenRefresh Text
  | .mark path time => (.nothing, refresh.markChanged path time)
  | .discard path => (.nothing, refresh.discard path)
  | .due now =>
    match refresh.due now with
    | .ok (ready, next) => (.ready (.ok ready), next)
    | .error fault => (.ready (.error fault), refresh)
  | .clear => (.nothing, refresh.clear)

/-! ## What a history tells -/

/-- Behind such an entry a document is not marked. -/
def TakesOff (path : Text) : Entry → Prop
  | (.discard other, _) => other = path
  | (.due _, .ready (.ok ready)) => path ∈ ready
  | (.clear, _) => True
  | _ => False

def Marks (path : Text) (entry : Entry) : Prop :=
  ∃ time, entry.1 = .mark path time

/-- A document was marked and has not been taken off since. -/
def Marked (entries : List Entry) (path : Text) : Prop :=
  Since (fun _ entry => Marks path entry) (fun _ entry => TakesOff path entry) entries

/-- The latest mark of a document was at a time, and it has not been taken off since. -/
def LastMarked (entries : List Entry) (path : Text) (time : Int) : Prop :=
  Since (fun _ entry => entry.1 = .mark path time)
    (fun _ entry => Marks path entry ∨ TakesOff path entry) entries

/-- At a place in the history a document was marked that was not marked by then, and it has not
    been taken off since. -/
def FirstMarked (entries : List Entry) (path : Text) (place : Nat) : Prop :=
  ∃ front first later, entries = front ++ first :: later ∧ front.length = place ∧
    Marks path first ∧ ¬Marked front path ∧ ∀ entry ∈ later, ¬TakesOff path entry

variable {entries : List Entry} {entry : Entry} {path : Text} {time : Int} {place : Nat}

theorem marked_snoc : Marked (entries ++ [entry]) path ↔
    Marks path entry ∨ (¬TakesOff path entry ∧ Marked entries path) :=
  Since.snoc_iff

theorem lastMarked_snoc : LastMarked (entries ++ [entry]) path time ↔
    entry.1 = .mark path time ∨
      (¬(Marks path entry ∨ TakesOff path entry) ∧ LastMarked entries path time) :=
  Since.snoc_iff

/-- A document that is marked has a latest mark. -/
theorem marked_iff : Marked entries path ↔ ∃ time, LastMarked entries path time := by
  induction entries using List.reverseRecOn with
  | nil => simp [Marked, LastMarked, Since.not_nil]
  | append_singleton entries entry ih =>
      simp only [marked_snoc, lastMarked_snoc, ih]
      by_cases marks : Marks path entry
      · obtain ⟨time, same⟩ := marks
        exact iff_of_true (.inl ⟨time, same⟩) ⟨time, .inl same⟩
      · have other (time : Int) : entry.1 ≠ .mark path time := fun same => marks ⟨time, same⟩
        simp [marks, other]

theorem FirstMarked.snoc (first : FirstMarked entries path place)
    (kept : ¬TakesOff path entry) : FirstMarked (entries ++ [entry]) path place := by
  obtain ⟨front, mark, later, rfl, atPlace, marks, unmarked, lasting⟩ := first
  refine ⟨front, mark, later ++ [entry], by simp, atPlace, marks, unmarked, ?_⟩
  simpa [kept, or_imp, forall_and] using lasting

theorem firstMarked_new (marks : Marks path entry) (unmarked : ¬Marked entries path) :
    FirstMarked (entries ++ [entry]) path entries.length :=
  ⟨entries, entry, [], rfl, rfl, marks, unmarked, by simp⟩

theorem FirstMarked.lt_length (first : FirstMarked entries path place) :
    place < entries.length := by
  obtain ⟨front, mark, later, rfl, rfl, _⟩ := first
  simp

/-- From its first mark on a document is marked, so that no later mark is its first. -/
theorem FirstMarked.le {other : Nat} (first : FirstMarked entries path place)
    (second : FirstMarked entries path other) : other ≤ place := by
  obtain ⟨front, mark, later, rfl, rfl, marks, _, lasting⟩ := first
  obtain ⟨before, again, behind, split, rfl, _, unmarked, _⟩ := second
  by_contra beyond
  rcases List.append_eq_append_iff.mp split with ⟨between, rfl, rest⟩ | ⟨between, rfl, _⟩
  · cases between with
    | nil => simp at beyond
    | cons first between =>
        obtain ⟨rfl, rfl⟩ := List.cons_eq_cons.mp rest
        refine unmarked ⟨front, mark, between, rfl, marks, ?_⟩
        rintro _ entry _ rfl
        exact lasting entry (by simp)
  · simp at beyond

theorem FirstMarked.unique {other : Nat} (first : FirstMarked entries path place)
    (second : FirstMarked entries path other) : place = other :=
  Nat.le_antisymm (second.le first) (first.le second)

/-! ## What the marks keep of their history -/

/-- The first mark of one document stands in front of that of another. -/
def Precedes (entries : List Entry) (path other : Text) : Prop :=
  ∃ place later, FirstMarked entries path place ∧ FirstMarked entries other later ∧ place < later

theorem Precedes.snoc {other : Text} (precedes : Precedes entries path other)
    (kept : ¬TakesOff path entry) (otherKept : ¬TakesOff other entry) :
    Precedes (entries ++ [entry]) path other := by
  obtain ⟨place, later, first, second, less⟩ := precedes
  exact ⟨place, later, first.snoc kept, second.snoc otherKept, less⟩

/-- The marks by what was asked of them and answered. -/
structure Keeps (delay : Int) (entries : List Entry) (refresh : TokenRefresh Text) : Prop where
  delay : refresh.delay = delay
  once : (Table.keys refresh.marks).Nodup
  marks : ∀ path time, (path, time) ∈ refresh.marks ↔ LastMarked entries path time
  first : ∀ path ∈ Table.keys refresh.marks, ∃ place, FirstMarked entries path place
  inOrder : (Table.keys refresh.marks).Pairwise (Precedes entries)

variable {delay : Int} {refresh : TokenRefresh Text}

theorem keeps_fresh (delay : Int) : Keeps delay [] ({ delay } : TokenRefresh Text) where
  delay := rfl
  once := List.nodup_nil
  marks path time := by simp [LastMarked, Since.not_nil]
  first := by simp [Table.keys]
  inOrder := .nil

theorem Keeps.mem_keys_iff (keeps : Keeps delay entries refresh) :
    path ∈ Table.keys refresh.marks ↔ Marked entries path := by
  simp [Table.keys, marked_iff, keeps.marks]

theorem not_takesOff_mark {other : Text} {reply : Reply} :
    ¬TakesOff path (.mark other time, reply) :=
  id

/-- A document that is marked keeps its place, any other comes last. -/
theorem Keeps.inOrder_mark (keeps : Keeps delay entries refresh) (path : Text) (time : Int) :
    let keys := Table.keys (refresh.markChanged path time).marks
    let later := entries ++ [(.mark path time, .nothing)]
    (∀ other ∈ keys, ∃ place, FirstMarked later other place) ∧ keys.Pairwise (Precedes later) := by
  intro keys later
  have first : ∀ other ∈ Table.keys refresh.marks, ∃ place, FirstMarked later other place := by
    intro other member
    obtain ⟨place, first⟩ := keeps.first other member
    exact ⟨place, first.snoc not_takesOff_mark⟩
  have inOrder : (Table.keys refresh.marks).Pairwise (Precedes later) :=
    keeps.inOrder.imp fun precedes => precedes.snoc not_takesOff_mark not_takesOff_mark
  by_cases present : path ∈ Table.keys refresh.marks
  · have same : keys = Table.keys refresh.marks := Table.keys_put_of_mem present time
    rw [same]
    exact ⟨first, inOrder⟩
  · have more : keys = Table.keys refresh.marks ++ [path] := by
      simp [keys, markChanged, Table.put_of_not_mem present, Table.keys]
    have new : FirstMarked later path entries.length :=
      firstMarked_new ⟨time, rfl⟩ (mt keeps.mem_keys_iff.mpr present)
    rw [more, List.pairwise_append]
    refine ⟨?_, inOrder, List.pairwise_singleton _ _, ?_⟩
    · intro other member
      rcases List.mem_append.mp member with before | last
      · exact first other before
      · rw [List.mem_singleton.mp last]
        exact ⟨_, new⟩
    · intro other member _ last
      rw [List.mem_singleton.mp last]
      obtain ⟨place, before⟩ := keeps.first other member
      exact ⟨place, _, before.snoc not_takesOff_mark, new, before.lt_length⟩

theorem Keeps.mark (keeps : Keeps delay entries refresh) (path : Text) (time : Int) :
    Keeps delay (entries ++ [(.mark path time, .nothing)]) (refresh.markChanged path time) := by
  have once := Table.nodup_put keeps.once path time
  constructor
  case delay => exact keeps.delay
  case once => exact once
  case marks =>
    intro other atTime
    rw [lastMarked_snoc, ← keeps.marks, Table.mem_iff_get? keeps.once, markChanged,
      Table.mem_iff_get? once]
    by_cases same : other = path
    · subst same
      simp [Table.get?_put_self, Marks]
    · simp [Table.get?_put_of_ne same, Marks, not_takesOff_mark, Ne.symm same]
  case first => exact (keeps.inOrder_mark path time).1
  case inOrder => exact (keeps.inOrder_mark path time).2

/-- What an entry leaves that marks nothing: the marks of the documents that it does not take
    off. -/
theorem Keeps.remove (keeps : Keeps delay entries refresh) (keep : Text × Int → Bool)
    (unmarking : ∀ path, ¬Marks path entry)
    (removes : ∀ mark ∈ refresh.marks, TakesOff mark.1 entry ↔ keep mark = false) :
    Keeps delay (entries ++ [entry]) { refresh with marks := refresh.marks.filter keep } := by
  have sublist : (Table.keys (refresh.marks.filter keep)).Sublist (Table.keys refresh.marks) :=
    List.filter_sublist.map Prod.fst
  have kept : ∀ path ∈ Table.keys (refresh.marks.filter keep), ¬TakesOff path entry := by
    intro path member
    obtain ⟨mark, isLeft, rfl⟩ := List.mem_map.mp member
    obtain ⟨isMark, left⟩ := List.mem_filter.mp isLeft
    simp [removes mark isMark, left]
  constructor
  case delay => exact keeps.delay
  case once => exact keeps.once.sublist sublist
  case marks =>
    intro path time
    have unmarked : entry.1 ≠ .mark path time := fun same => unmarking path ⟨time, same⟩
    rw [lastMarked_snoc, ← keeps.marks, List.mem_filter]
    by_cases member : (path, time) ∈ refresh.marks
    · simp [member, unmarked, unmarking, removes _ member]
    · simp [member, unmarked]
  case first =>
    intro path member
    obtain ⟨place, first⟩ := keeps.first path (sublist.subset member)
    exact ⟨place, first.snoc (kept path member)⟩
  case inOrder =>
    refine (keeps.inOrder.sublist sublist).imp_of_mem ?_
    intro path other member otherMember precedes
    exact precedes.snoc (kept path member) (kept other otherMember)

/-- A document has one mark, so that it is due if that one is. -/
theorem Keeps.mem_due_iff (keeps : Keeps delay entries refresh) {now : Moment} :
    path ∈ Table.keys (refresh.marks.filter (refresh.isDue now)) ↔
      ∃ time, LastMarked entries path time ∧ refresh.isDue now (path, time) = true := by
  simp [Table.keys, keeps.marks]

theorem due_cases (refresh : TokenRefresh Text) (now : Moment) :
    refresh.due now = .ok (Table.keys (refresh.marks.filter (refresh.isDue now)),
      { refresh with marks := refresh.marks.filter fun mark => !refresh.isDue now mark }) ∨
    ∃ fault, refresh.due now = .error fault := by
  unfold TokenRefresh.due
  split
  · next fault _ => exact .inr ⟨fault, rfl⟩
  · exact .inl rfl

theorem keeps_of_dialogue (delay : Int) (calls : List Call) :
    Keeps delay (Dialogue.of answer { delay } calls).entries
      (Dialogue.of answer { delay } calls).state := by
  refine Dialogue.induction (motive := Keeps delay) (keeps_fresh delay) ?_ calls
  intro entries refresh call keeps
  cases call with
  | mark path time => exact keeps.mark path time
  | discard path =>
      refine keeps.remove _ (fun _ => nofun) (fun mark _ => ?_)
      simpa [TakesOff] using eq_comm
  | due now =>
      rcases due_cases refresh now with due | ⟨fault, refused⟩
      · simp only [answer, due]
        refine keeps.remove _ (fun _ => nofun) (fun mark isMark => ?_)
        simp only [TakesOff, keeps.mem_due_iff, ← keeps.marks, Bool.not_eq_false']
        constructor
        · rintro ⟨time, other, due⟩
          obtain rfl : time = mark.2 := Option.some.inj
            ((Table.get?_of_mem keeps.once other).symm.trans (Table.get?_of_mem keeps.once isMark))
          exact due
        · exact fun due => ⟨mark.2, isMark, due⟩
      · simp only [answer, refused]
        have same : Keeps delay (entries ++ [(.due now, .ready (.error fault))])
            { refresh with marks := refresh.marks.filter fun _ => true } :=
          keeps.remove _ (fun _ => nofun) (fun mark _ => by simp [TakesOff])
        simpa using same
  | clear =>
      have none : Keeps delay (entries ++ [(.clear, .nothing)])
          { refresh with marks := refresh.marks.filter fun _ => false } :=
        keeps.remove _ (fun _ => nofun) (fun mark _ => by simp [TakesOff])
      simpa [answer, TokenRefresh.clear] using none

/-- Behind any calls, by a clock of whole milliseconds: the documents that are due are those whose
    latest mark is at least the delay ago and that were not taken off since, each once, in the
    order of the first marks since they were last taken off. -/
theorem due_of_dialogue (delay : Int) (calls : List Call) (now : Int) :
    let dialogue := Dialogue.of answer { delay } calls
    ∃ ready, (dialogue.state.due now).map Prod.fst = .ok ready ∧ ready.Nodup ∧
      (∀ path, path ∈ ready ↔
        ∃ time, LastMarked dialogue.entries path time ∧ delay ≤ now - time) ∧
      (∀ path ∈ ready, ∃! place, FirstMarked dialogue.entries path place) ∧
      ready.Pairwise (Precedes dialogue.entries) := by
  intro dialogue
  have keeps : Keeps delay dialogue.entries dialogue.state := keeps_of_dialogue delay calls
  have sublist : (Table.keys (dialogue.state.marks.filter (dialogue.state.isDue now))).Sublist
      (Table.keys dialogue.state.marks) := List.filter_sublist.map Prod.fst
  refine ⟨_, by rw [due_whole]; rfl, keeps.once.sublist sublist, ?_, ?_,
    keeps.inOrder.sublist sublist⟩
  · intro path
    simp [keeps.mem_due_iff, isDue_whole, keeps.delay]
  · intro path member
    obtain ⟨place, first⟩ := keeps.first path (sublist.subset member)
    exact ⟨place, first, fun other again => again.unique first⟩

end LanguageClient.TokenRefresh
