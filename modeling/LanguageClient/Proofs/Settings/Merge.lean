import LanguageClient.Proofs.Table
import LanguageClient.Settings.Merge

/-! # What merged settings hold

Under a name that both settings and defaults have, the value that is set lies over its default,
or is taken as it is; under a name that only one of them has, there is what that one has.
-/

namespace LanguageClient.Settings

/-- A value that may be set, laid over a default that there may be. One that replaces its default
    is taken as it is. -/
def layered (replaces : Bool) : Option Json → Option Json → Option Json
  | none, default => default
  | some value, none => some value
  | some value, some default => some (if replaces then value else mergeValue value default)

variable {κ : Type} [BEq κ] [LawfulBEq κ] {replaced : List κ} {settings defaults : Table κ Json}
  {default : κ × Json} {name : κ}

theorem get?_mergeDefault_of_ne (other : name ≠ default.1) :
    Table.get? (mergeDefault replaced settings default) name = Table.get? settings name := by
  unfold mergeDefault
  split
  · exact Table.get?_put_of_ne other settings _
  · split
    · rfl
    · exact Table.get?_put_of_ne other settings _

theorem get?_mergeDefault_self :
    Table.get? (mergeDefault replaced settings default) default.1 =
      layered (replaced.contains default.1) (Table.get? settings default.1) (some default.2) := by
  unfold mergeDefault
  cases found : Table.get? settings default.1 with
  | none => exact Table.get?_put_self settings _ _
  | some value =>
      dsimp only
      split
      · next replaces =>
        rw [found, layered, if_pos replaces]
      · next merges =>
        rw [Table.get?_put_self, layered, if_neg merges]

theorem get?_merge_of_not_mem (absent : name ∉ Table.keys defaults) :
    Table.get? (merge settings defaults replaced) name = Table.get? settings name := by
  induction defaults generalizing settings with
  | nil => rfl
  | cons default rest ih =>
      rw [Table.keys, List.map_cons, List.mem_cons, not_or] at absent
      rw [merge, List.foldl_cons]
      exact (ih absent.2).trans (get?_mergeDefault_of_ne absent.1)

/-- What stands under a name, where no two defaults have the same one. -/
theorem get?_merge (once : (Table.keys defaults).Nodup) (name : κ) :
    Table.get? (merge settings defaults replaced) name =
      layered (replaced.contains name) (Table.get? settings name) (Table.get? defaults name) := by
  induction defaults generalizing settings with
  | nil =>
      cases found : Table.get? settings name with
      | none => exact found
      | some value => exact found
  | cons default rest ih =>
      obtain ⟨fresh, once⟩ := List.nodup_cons.mp once
      rw [merge, List.foldl_cons, ← merge]
      by_cases same : name = default.1
      · subst same
        rw [get?_merge_of_not_mem fresh, get?_mergeDefault_self, Table.get?_cons_self]
      · rw [ih once, get?_mergeDefault_of_ne same, Table.get?_cons_of_ne same]

theorem get?_mergeEntries {entries defaults : Json.Entries} (once : (Table.keys defaults).Nodup)
    (name : Text) :
    Table.get? (mergeEntries entries defaults) name =
      layered false (Table.get? entries name) (Table.get? defaults name) := by
  rw [← merge_nil]
  exact get?_merge once name

end LanguageClient.Settings
