import LanguageClient.Table
import Mathlib.Data.List.Basic
import Mathlib.Data.List.Nodup

/-! # Keys and entries of tables

A table that got its keys one by one has each of them once. Then what is found under a key is
what its entry holds, and the entry under one key can be counted apart from the others.
-/

namespace LanguageClient.Table

variable {κ α : Type} [BEq κ] [LawfulBEq κ] {table : Table κ α} {key : κ} {value : α}

theorem get?_cons_self (key : κ) (value : α) (table : Table κ α) :
    get? ((key, value) :: table) key = some value :=
  List.lookup_cons_self

theorem get?_cons_of_ne {other : κ} (different : key ≠ other) (value : α) (table : Table κ α) :
    get? ((other, value) :: table) key = get? table key := by
  have unlike : (key == other) = false := beq_eq_false_iff_ne.mpr different
  unfold get?
  rw [List.lookup_cons, unlike]

theorem mem_of_get? (found : get? table key = some value) : (key, value) ∈ table := by
  induction table with
  | nil => exact absurd found nofun
  | cons entry rest ih =>
      obtain ⟨other, old⟩ := entry
      by_cases same : key = other
      · subst same
        rw [get?_cons_self] at found
        rw [Option.some.inj found]
        exact List.mem_cons_self
      · rw [get?_cons_of_ne same] at found
        exact List.mem_cons_of_mem _ (ih found)

theorem get?_of_mem (once : (keys table).Nodup) (member : (key, value) ∈ table) :
    get? table key = some value := by
  induction table with
  | nil => exact absurd member nofun
  | cons entry rest ih =>
      obtain ⟨other, old⟩ := entry
      obtain ⟨fresh, once⟩ := List.nodup_cons.mp once
      cases List.mem_cons.mp member with
      | inl first =>
          obtain ⟨rfl, rfl⟩ := Prod.mk.inj first
          exact get?_cons_self key value rest
      | inr later =>
          have isKey : key ∈ keys rest := List.mem_map_of_mem later
          have different : key ≠ other := fun same => fresh (same ▸ isKey)
          rw [get?_cons_of_ne different]
          exact ih once later

theorem mem_iff_get? (once : (keys table).Nodup) :
    (key, value) ∈ table ↔ get? table key = some value :=
  ⟨get?_of_mem once, mem_of_get?⟩

theorem not_mem_of_get?_eq_none (absent : get? table key = none) : key ∉ keys table := by
  intro isKey
  obtain ⟨⟨other, value⟩, member, rfl⟩ := List.mem_map.mp isKey
  exact absurd (List.lookup_eq_none_iff.mp absent _ member) (by simp)

/-- A key that is not there comes behind all others. -/
theorem put_of_not_mem (absent : key ∉ keys table) (value : α) :
    put table key value = table ++ [(key, value)] := by
  induction table with
  | nil => rfl
  | cons entry rest ih =>
      obtain ⟨other, old⟩ := entry
      rw [keys, List.map_cons, List.mem_cons, not_or] at absent
      have different : (other == key) = false := beq_eq_false_iff_ne.mpr (Ne.symm absent.1)
      rw [put, different, ih absent.2]
      rfl

theorem remove_of_not_mem (absent : key ∉ keys table) : remove table key = table := by
  apply List.filter_eq_self.mpr
  intro entry member
  have isKey : entry.1 ∈ keys table := List.mem_map_of_mem member
  have different : entry.1 ≠ key := fun same => absent (same ▸ isKey)
  simpa using different

theorem nodup_keys_put (once : (keys table).Nodup) (absent : key ∉ keys table) (value : α) :
    (keys (put table key value)).Nodup := by
  rw [put_of_not_mem absent, keys, List.map_append]
  apply List.Nodup.append once (List.nodup_singleton key)
  intro other member isKey
  exact absent (List.mem_singleton.mp isKey ▸ member)

/-- What is there already can be set again. -/
theorem put_of_get? (found : get? table key = some value) : put table key value = table := by
  induction table with
  | nil => cases found
  | cons entry rest ih =>
      obtain ⟨other, old⟩ := entry
      by_cases same : key = other
      · subst same
        rw [get?_cons_self] at found
        simp [put, Option.some.inj found]
      · rw [get?_cons_of_ne same] at found
        simp [put, Ne.symm same, ih found]

/-- A key that is there keeps its place. -/
theorem keys_put_of_mem (present : key ∈ keys table) (value : α) :
    keys (put table key value) = keys table := by
  induction table with
  | nil => exact absurd present nofun
  | cons entry rest ih =>
      obtain ⟨other, old⟩ := entry
      by_cases same : other = key
      · simp [put, same, keys]
      · have later : key ∈ keys rest := by
          simpa [keys, Ne.symm same] using present
        simp only [keys] at ih
        simp [put, same, keys, ih later]

theorem nodup_put (once : (keys table).Nodup) (key : κ) (value : α) :
    (keys (put table key value)).Nodup := by
  by_cases present : key ∈ keys table
  · rw [keys_put_of_mem present]
    exact once
  · exact nodup_keys_put once present value

omit [LawfulBEq κ] in
theorem nodup_keys_remove (once : (keys table).Nodup) (key : κ) :
    (keys (remove table key)).Nodup := by
  have sublist : (keys (remove table key)).Sublist (keys table) := List.filter_sublist.map Prod.fst
  exact once.sublist sublist

/-- The entries of a kind are those under other keys and, if it is one, the entry under the key
    that is removed. -/
theorem countP_remove (once : (keys table).Nodup) (found : get? table key = some value)
    (isOne : κ × α → Bool) :
    table.countP isOne = (remove table key).countP isOne + if isOne (key, value) then 1 else 0 := by
  induction table with
  | nil => exact absurd found nofun
  | cons entry rest ih =>
      obtain ⟨other, old⟩ := entry
      obtain ⟨fresh, once⟩ := List.nodup_cons.mp once
      by_cases same : key = other
      · subst same
        rw [get?_cons_self] at found
        have removed : remove ((key, old) :: rest) key = rest := by
          rw [remove, List.filter_cons_of_neg (by simp)]
          exact remove_of_not_mem fresh
        rw [removed, List.countP_cons, Option.some.inj found]
      · rw [get?_cons_of_ne same] at found
        have kept : remove ((other, old) :: rest) key = (other, old) :: remove rest key :=
          List.filter_cons_of_pos (by simpa using Ne.symm same)
        rw [kept, List.countP_cons, List.countP_cons, ih once found]
        omega

/-! ## Which keys are there -/

theorem has_put {other : κ} (value : α) :
    has (put table key value) other = true ↔ other = key ∨ has table other = true := by
  unfold has
  by_cases same : other = key
  · simp [same, get?_put_self]
  · simp [same, get?_put_of_ne same]

theorem has_remove {other : κ} :
    has (remove table key) other = true ↔ other ≠ key ∧ has table other = true := by
  unfold has
  by_cases same : other = key
  · simp [same, get?_remove_self]
  · simp [same, get?_remove_of_ne same]

end LanguageClient.Table
