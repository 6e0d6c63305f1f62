import LanguageClient.Message.Requests
import LanguageClient.Proofs.Dialogue
import LanguageClient.Proofs.Table
import Mathlib.Data.List.DropRight
import Mathlib.Data.List.Range

/-! # Waiting requests by their history

Which requests wait is known by what was asked and answered since they were last cleared: those
that were given a number and that no response has taken out. The numbers run from 1 without a gap,
so a number stands for one request, and the next number was neither given nor taken out before.
-/

namespace LanguageClient.PendingRequests

variable {γ : Type}

/-! ## Calls and replies -/

/-- What is asked of the requests that wait. -/
inductive Call (γ : Type) where
  | register (context : γ)
  | resolve (id : Json)
  | clear

inductive Reply (γ : Type) where
  | number (number : Nat)
  | context (context : Option γ)
  | nothing

abbrev Entry (γ : Type) := Call γ × Reply γ

def answer (pending : PendingRequests γ) : Call γ → Reply γ × PendingRequests γ
  | .register context => (.number (pending.register context).1, (pending.register context).2)
  | .resolve id => (.context (pending.resolve id).1, (pending.resolve id).2)
  | .clear => (.nothing, {})

def isClear : Entry γ → Bool
  | (.clear, _) => true
  | _ => false

/-- The number that a request was given. -/
def given? : Entry γ → Option Nat
  | (.register _, .number number) => some number
  | _ => none

/-- The number of a request that was taken out. -/
def resolved? : Entry γ → Option Nat
  | (.resolve (.int (.ofNat number)), .context (some _)) => some number
  | _ => none

/-- What has been asked and answered since all was last cleared. -/
def sinceClear (entries : List (Entry γ)) : List (Entry γ) :=
  entries.rtakeWhile fun entry => !isClear entry

def given (entries : List (Entry γ)) : List Nat :=
  entries.filterMap given?

def resolved (entries : List (Entry γ)) : List Nat :=
  entries.filterMap resolved?

/-! ## What the requests that wait keep of their history -/

/-- The requests that wait, and the number that comes next, by what was asked and answered. -/
structure Keeps (entries : List (Entry γ)) (pending : PendingRequests γ) : Prop where
  inOrder : given entries = List.range' 1 (given entries).length
  next : pending.next = (given entries).length + 1
  known : ∀ number ∈ resolved entries, number < pending.next
  keys : Table.keys pending.waiting =
    (given entries).filter fun number => number ∉ resolved entries
  waits : ∀ number context, Table.get? pending.waiting number = some context ↔
    (.register context, .number number) ∈ entries ∧ number ∉ resolved entries

variable {entries : List (Entry γ)} {pending : PendingRequests γ} {context : γ} {number : Nat}
  {id : Json}

theorem numberOf?_eq_some_iff : numberOf? id = some number ↔ id = .int number := by
  constructor
  · intro read
    unfold numberOf? at read
    split at read
    · cases read
      rfl
    · cases read
  · rintro rfl
    rfl

theorem resolve_eq_none (unresolved : (pending.resolve id).1 = none) :
    pending.resolve id = (none, pending) := by
  unfold PendingRequests.resolve at unresolved ⊢
  split at unresolved
  · rfl
  · split at unresolved
    · rfl
    · cases unresolved

theorem resolve_eq_some_iff : (pending.resolve id).1 = some context ↔
    ∃ number : Nat, id = .int number ∧ Table.get? pending.waiting number = some context := by
  constructor
  · intro resolved
    obtain ⟨number, read, waits, _⟩ := resolve_eq_some (Prod.ext resolved rfl)
    exact ⟨number, numberOf?_eq_some_iff.mp read, waits⟩
  · rintro ⟨number, rfl, waits⟩
    rw [resolve_of_waiting rfl waits]

theorem given_snoc (entries : List (Entry γ)) (entry : Entry γ) :
    given (entries ++ [entry]) = given entries ++ (given? entry).toList :=
  filterMap_snoc given? entries entry

theorem resolved_snoc (entries : List (Entry γ)) (entry : Entry γ) :
    resolved (entries ++ [entry]) = resolved entries ++ (resolved? entry).toList :=
  filterMap_snoc resolved? entries entry

theorem mem_given (registered : (.register context, .number number) ∈ entries) :
    number ∈ given entries :=
  List.mem_filterMap.mpr ⟨_, registered, rfl⟩

theorem Keeps.lt_next (keeps : Keeps entries pending) (member : number ∈ given entries) :
    number < pending.next := by
  rw [keeps.inOrder, List.mem_range'_1] at member
  have next := keeps.next
  omega

theorem keeps_nothing : Keeps ([] : List (Entry γ)) {} where
  inOrder := rfl
  next := rfl
  known := by simp [resolved]
  keys := rfl
  waits := by simp [Table.get?]

theorem Keeps.register (keeps : Keeps entries pending) (context : γ) :
    Keeps (entries ++ [(.register context, .number pending.next)])
      (pending.register context).2 := by
  have isGiven : given (entries ++ [(.register context, .number pending.next)]) =
      given entries ++ [pending.next] := given_snoc ..
  have same : resolved (entries ++ [(.register context, .number pending.next)]) =
      resolved entries := by simp [resolved_snoc, resolved?]
  have unresolved : pending.next ∉ resolved entries := by
    intro member
    have less := keeps.known _ member
    omega
  have ungiven : pending.next ∉ given entries := by
    intro member
    have less := keeps.lt_next member
    omega
  have fresh : pending.next ∉ Table.keys pending.waiting := by
    rw [keeps.keys]
    exact fun member => ungiven (List.mem_of_mem_filter member)
  constructor
  case inOrder =>
    rw [isGiven, List.length_append, List.length_singleton, List.range'_concat, ← keeps.inOrder]
    simp [keeps.next, Nat.add_comm]
  case next =>
    rw [isGiven]
    simp [PendingRequests.register, keeps.next]
  case known =>
    intro number member
    rw [same] at member
    exact Nat.lt_succ_of_lt (keeps.known number member)
  case keys =>
    have put : Table.keys (Table.put pending.waiting pending.next context) =
        Table.keys pending.waiting ++ [pending.next] := by
      simp [Table.put_of_not_mem fresh, Table.keys]
    simp [PendingRequests.register, put, isGiven, same, keeps.keys, unresolved]
  case waits =>
    intro number other
    rw [same, PendingRequests.register, List.mem_append, List.mem_singleton]
    by_cases isNew : number = pending.next
    · subst isNew
      have absent : (.register other, .number pending.next) ∉ entries := fun member =>
        ungiven (mem_given member)
      simp [Table.get?_put_self, absent, unresolved, eq_comm]
    · rw [Table.get?_put_of_ne isNew, keeps.waits]
      simp [isNew]

/-- A response that takes nothing out leaves all as it was. -/
theorem Keeps.pass (keeps : Keeps entries pending) (id : Json) :
    Keeps (entries ++ [(.resolve id, .context none)]) pending := by
  have isGiven : given (entries ++ [(.resolve id, .context none)]) = given entries := by
    simp [given_snoc, given?]
  have same : resolved (entries ++ [(.resolve id, .context none)]) = resolved entries := by
    simp [resolved_snoc, resolved?]
  constructor
  case inOrder => simpa [isGiven] using keeps.inOrder
  case next => simpa [isGiven] using keeps.next
  case known => simpa [same] using keeps.known
  case keys => simpa [isGiven, same] using keeps.keys
  case waits => simpa [same] using keeps.waits

theorem Keeps.resolve (keeps : Keeps entries pending)
    (waits : Table.get? pending.waiting number = some context) :
    Keeps (entries ++ [(.resolve (.int number), .context (some context))])
      { pending with waiting := Table.remove pending.waiting number } := by
  have isGiven : given (entries ++ [(.resolve (.int number), .context (some context))]) =
      given entries := by simp [given_snoc, given?]
  have more : resolved (entries ++ [(.resolve (.int number), .context (some context))]) =
      resolved entries ++ [number] := resolved_snoc ..
  have registered := ((keeps.waits number context).mp waits).1
  constructor
  case inOrder => simpa [isGiven] using keeps.inOrder
  case next => simpa [isGiven] using keeps.next
  case known =>
    intro other member
    rw [more, List.mem_append, List.mem_singleton] at member
    rcases member with before | rfl
    · exact keeps.known other before
    · exact keeps.lt_next (mem_given registered)
  case keys =>
    have removed : Table.keys (Table.remove pending.waiting number) =
        (Table.keys pending.waiting).filter (· != number) := by
      simp only [Table.keys, Table.remove, List.filter_map]
      rfl
    rw [isGiven, more, removed, keeps.keys, List.filter_filter]
    apply List.filter_congr
    intro other _
    by_cases same : other = number <;> simp [same]
  case waits =>
    intro other found
    rw [more]
    by_cases same : other = number
    · simp [same, Table.get?_remove_self]
    · rw [Table.get?_remove_of_ne same, keeps.waits]
      simp [same]

theorem keeps_of_dialogue (calls : List (Call γ)) :
    Keeps (sinceClear (Dialogue.of answer {} calls).entries)
      (Dialogue.of answer {} calls).state := by
  refine Dialogue.induction (motive := fun entries pending => Keeps (sinceClear entries) pending)
    keeps_nothing ?_ calls
  intro entries pending call keeps
  rw [sinceClear, List.rtakeWhile_concat]
  cases call with
  | register context => exact keeps.register context
  | resolve id =>
      cases found : (pending.resolve id).1 with
      | none =>
          simp only [answer, resolve_eq_none found]
          exact keeps.pass id
      | some context =>
          obtain ⟨number, rfl, waits⟩ := resolve_eq_some_iff.mp found
          simp only [answer, resolve_of_waiting (numberOf?_eq_some_iff.mpr rfl) waits]
          exact keeps.resolve waits
  | clear => exact keeps_nothing

/-- Behind any calls, the numbers given since all was last cleared are 1, 2, 3 and so on. A
    response takes out a request just if its identifier is an integer that the request was given
    since then and that has not been resolved; else it takes out nothing and changes nothing. The
    size is the number of requests that were given a number and have not been resolved. -/
theorem registry_of_dialogue (calls : List (Call γ)) :
    let dialogue := Dialogue.of answer {} calls
    let recent := sinceClear dialogue.entries
    given recent = List.range' 1 (given recent).length ∧
    (∀ id context, (dialogue.state.resolve id).1 = some context ↔
      ∃ number : Nat, id = .int number ∧ (.register context, .number number) ∈ recent ∧
        number ∉ resolved recent) ∧
    (∀ id, (dialogue.state.resolve id).1 = none → (dialogue.state.resolve id).2 = dialogue.state) ∧
    dialogue.state.size =
      ((given recent).filter fun number => number ∉ resolved recent).length := by
  intro dialogue recent
  have keeps : Keeps recent dialogue.state := keeps_of_dialogue calls
  refine ⟨keeps.inOrder, ?_, ?_, ?_⟩
  · intro id context
    simp only [resolve_eq_some_iff, keeps.waits]
  · intro id unresolved
    rw [resolve_eq_none unresolved]
  · rw [← keeps.keys, Table.keys, List.length_map]
    rfl

end LanguageClient.PendingRequests
