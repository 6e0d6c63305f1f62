import LanguageClient.Json.Basic
import LanguageClient.Proofs.Table

/-! # Paths of names

A path of names leads from an object down to one of its parts. Where no object has a name twice,
every part of a value is at the end of one path only, and what is said of all values can be shown
by going up from their parts.
-/

namespace LanguageClient

namespace Json

/-- What a path of names leads to, through objects. -/
def follow (value : Json) : List Text → Option Json
  | [] => some value
  | name :: path =>
    match value.get? name with
    | none => none
    | some part => part.follow path

variable {value found : Json} {name : Text} {path : List Text}

@[simp] theorem follow_nil (value : Json) : value.follow [] = some value := rfl

@[simp] theorem follow_cons_of_none (absent : value.get? name = none) (path : List Text) :
    value.follow (name :: path) = none := by
  simp [follow, absent]

@[simp] theorem follow_cons_of_some (isPart : value.get? name = some found) (path : List Text) :
    value.follow (name :: path) = found.follow path := by
  simp [follow, isPart]

theorem get?_of_follow_cons (followed : value.follow (name :: path) = some found) :
    ∃ part, value.get? name = some part ∧ part.follow path = some found := by
  cases first : value.get? name with
  | none => simp [first] at followed
  | some part => exact ⟨part, rfl, by simpa [first] using followed⟩

theorem get?_of_not_isObj (noObject : ¬value.isObj) (name : Text) : value.get? name = none := by
  cases value with
  | obj entries => exact absurd rfl noObject
  | _ => rfl

theorem exists_entries (isObject : value.isObj) : ∃ entries, value = .obj entries := by
  cases value with
  | obj entries => exact ⟨entries, rfl⟩
  | _ => cases isObject

theorem exists_entries_of_get? (isPart : value.get? name = some found) :
    ∃ entries, value = .obj entries ∧ Table.get? entries name = some found := by
  cases value with
  | obj entries => exact ⟨entries, rfl, isPart⟩
  | _ => cases isPart

/-- No object in a value has a name twice. -/
def Unrepeated (value : Json) : Prop :=
  ∀ path entries, value.follow path = some (.obj entries) → (Table.keys entries).Nodup

theorem Unrepeated.once {entries : Entries} (unrepeated : (obj entries).Unrepeated) :
    (Table.keys entries).Nodup :=
  unrepeated [] entries rfl

theorem Unrepeated.get?_of_mem {entries : Entries} (unrepeated : (obj entries).Unrepeated)
    (member : (name, found) ∈ entries) : (obj entries).get? name = some found :=
  Table.get?_of_mem unrepeated.once member

theorem Unrepeated.below (unrepeated : value.Unrepeated) (isPart : value.get? name = some found) :
    found.Unrepeated := fun path entries followed =>
  unrepeated (name :: path) entries (by simpa [isPart] using followed)

theorem unrepeated_of_not_isObj (noObject : ¬value.isObj) : value.Unrepeated := by
  intro path entries followed
  cases path with
  | nil =>
      obtain rfl := Option.some.inj followed
      exact absurd rfl noObject
  | cons name path => simp [get?_of_not_isObj noObject] at followed

theorem unrepeated_obj {entries : Entries} (once : (Table.keys entries).Nodup)
    (parts : ∀ entry ∈ entries, entry.2.Unrepeated) : (obj entries).Unrepeated := by
  intro path others followed
  cases path with
  | nil =>
      obtain rfl := Json.obj.inj (Option.some.inj followed)
      exact once
  | cons name path =>
      obtain ⟨part, isPart, followed⟩ := get?_of_follow_cons followed
      exact parts _ (Table.mem_of_get? isPart) path others followed

theorem unrepeated_of_flat {entries : Entries} (once : (Table.keys entries).Nodup)
    (flat : ∀ entry ∈ entries, ¬entry.2.isObj) : (obj entries).Unrepeated :=
  unrepeated_obj once fun entry member => unrepeated_of_not_isObj (flat entry member)

/-! ## Parts of a value -/

theorem sizeOf_lt_of_get? (isPart : value.get? name = some found) :
    sizeOf found < sizeOf value := by
  obtain ⟨entries, rfl, isEntry⟩ := exists_entries_of_get? isPart
  have member := List.sizeOf_lt_of_mem (Table.mem_of_get? isEntry)
  simp only [Prod.mk.sizeOf_spec, obj.sizeOf_spec] at member ⊢
  omega

/-- What holds of a value if it does of what stands under its names, holds of all values. -/
theorem part_induction {motive : Json → Prop}
    (step : ∀ value, (∀ name part, value.get? name = some part → motive part) → motive value)
    (value : Json) : motive value :=
  step value fun _ part _isPart => part_induction step part
termination_by sizeOf value
decreasing_by exact sizeOf_lt_of_get? _isPart

end Json

end LanguageClient
