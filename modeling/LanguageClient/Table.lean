/-! # Tables

Values under keys, in the order in which the keys first arrived. A key that is set again
keeps its place, and one that was removed comes back at the end.
-/

namespace LanguageClient

/-- Values under keys in order of first arrival. -/
abbrev Table (κ α : Type) := List (κ × α)

namespace Table

variable {κ α : Type} [BEq κ]

def get? (table : Table κ α) (key : κ) : Option α :=
  table.lookup key

/-- Whether there is a value under a key. -/
def has (table : Table κ α) (key : κ) : Bool :=
  (get? table key).isSome

/-- Set the value under a key: at its place if the key is there, else behind all others. The
    key that is there stays as it is. -/
def put (table : Table κ α) (key : κ) (value : α) : Table κ α :=
  match table with
  | [] => [(key, value)]
  | (other, old) :: rest =>
    if other == key then (other, value) :: rest else (other, old) :: put rest key value

def remove (table : Table κ α) (key : κ) : Table κ α :=
  table.filter (fun entry => entry.1 != key)

def keys (table : Table κ α) : List κ :=
  table.map Prod.fst

/-- A key that was set has the value. -/
theorem get?_put_self [LawfulBEq κ] (table : Table κ α) (key : κ) (value : α) :
    get? (put table key value) key = some value := by
  induction table with
  | nil => simp [put, get?]
  | cons entry rest ih =>
    obtain ⟨other, old⟩ := entry
    unfold put
    split
    · next h => simp [get?, eq_of_beq h]
    · next h =>
      have hne : (key == other) = false := by simpa using fun heq => h (by simp [heq])
      simpa [get?, List.lookup_cons, hne] using ih

/-- Setting one key leaves the others as they are. -/
theorem get?_put_of_ne [LawfulBEq κ] {key other : κ} (h : other ≠ key) (table : Table κ α)
    (value : α) : get? (put table key value) other = get? table other := by
  have hne : (other == key) = false := by simpa using h
  induction table with
  | nil => simp [put, get?, List.lookup_cons, hne]
  | cons entry rest ih =>
    obtain ⟨first, old⟩ := entry
    unfold put
    split
    · next heq => simp [get?, List.lookup_cons, eq_of_beq heq, hne]
    · cases hc : (other == first) with
      | false => simpa [get?, List.lookup_cons, hc] using ih
      | true => simp [get?, List.lookup_cons, hc]

/-- A key that was removed is not there. -/
theorem get?_remove_self [LawfulBEq κ] (table : Table κ α) (key : κ) :
    get? (remove table key) key = none := by
  induction table with
  | nil => rfl
  | cons entry rest ih =>
    obtain ⟨other, old⟩ := entry
    unfold remove get? at ih ⊢
    by_cases h : other = key
    · simpa [List.filter_cons, h] using ih
    · have hne : (key == other) = false := by simpa using fun heq => h (Eq.symm heq)
      simpa [List.filter_cons, h, List.lookup_cons, hne] using ih

/-- Removing one key leaves the others as they are. -/
theorem get?_remove_of_ne [LawfulBEq κ] {key other : κ} (h : other ≠ key)
    (table : Table κ α) : get? (remove table key) other = get? table other := by
  induction table with
  | nil => rfl
  | cons entry rest ih =>
    obtain ⟨first, value⟩ := entry
    unfold remove get? at ih ⊢
    by_cases hkey : first = key
    · have hne : (other == key) = false := by simpa using h
      simpa [List.filter_cons, hkey, List.lookup_cons, hne] using ih
    · cases hc : (other == first) with
      | true => simp [hkey, List.lookup_cons, hc]
      | false => simpa [hkey, List.lookup_cons, hc] using ih

end Table

end LanguageClient
