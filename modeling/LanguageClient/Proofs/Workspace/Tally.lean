import LanguageClient.Proofs.Table
import LanguageClient.Text.Basic
import Mathlib.Data.Set.Card

/-! # Counting the editors of a file

Which file each editor shows is kept in one table, and how many editors show each file in
another. The two agree: a file has a count if it is shown at all, and then it is the right one.
-/

namespace LanguageClient

/-- How many editors show a file. -/
def showing (editors : Table Text Text) (path : Text) : Nat :=
  editors.countP (fun entry => entry.2 == path)

/-- Every editor is kept once, and exactly the files that are shown have counts, of the editors
    that show them. -/
structure Tally (editors : Table Text Text) (counts : Table Text Nat) : Prop where
  once : (Table.keys editors).Nodup
  counted : ∀ path, Table.get? counts path =
    if showing editors path = 0 then none else some (showing editors path)

namespace Tally

variable {editors : Table Text Text} {counts : Table Text Nat} {key path : Text}

theorem empty : Tally [] [] :=
  ⟨List.nodup_nil, fun _ => rfl⟩

theorem count_eq (tally : Tally editors counts) (path : Text) :
    (Table.get? counts path).getD 0 = showing editors path := by
  rw [tally.counted path]
  split
  · next none => exact none.symm
  · rfl

theorem count_pos (tally : Tally editors counts) (known : Table.has counts path = true) :
    (Table.get? counts path).getD 0 > 0 := by
  rw [Table.has, tally.counted path] at known
  rw [tally.count_eq]
  split at known
  · exact absurd known nofun
  · next some => exact Nat.pos_of_ne_zero some

theorem has_iff (tally : Tally editors counts) :
    Table.has counts path = true ↔ ∃ editor, Table.get? editors editor = some path := by
  have isShown : Table.has counts path = true ↔ 0 < showing editors path := by
    rw [Table.has, tally.counted path]
    split
    · next none => simp [none]
    · next some => simpa using Nat.pos_of_ne_zero some
  rw [isShown, showing, List.countP_pos_iff]
  constructor
  · rintro ⟨⟨editor, other⟩, member, same⟩
    obtain rfl := eq_of_beq same
    exact ⟨editor, Table.get?_of_mem tally.once member⟩
  · rintro ⟨editor, found⟩
    exact ⟨_, Table.mem_of_get? found, beq_self_eq_true path⟩

/-- No editor has two entries, so that a file has as many editors as entries. -/
theorem encard_eq (tally : Tally editors counts) (path : Text) :
    {editor | Table.get? editors editor = some path}.encard = showing editors path := by
  let entries := editors.filter (fun entry => entry.2 == path)
  have once : (Table.keys entries).Nodup :=
    tally.once.sublist (List.filter_sublist.map Prod.fst)
  have same : {editor | Table.get? editors editor = some path} = (Table.keys entries).toFinset := by
    ext editor
    simp only [entries, Table.keys, Set.mem_ofPred_eq, List.coe_toFinset, List.mem_map,
      List.mem_filter, beq_iff_eq]
    constructor
    · intro found
      exact ⟨(editor, path), ⟨Table.mem_of_get? found, rfl⟩, rfl⟩
    · rintro ⟨⟨editor, path⟩, ⟨member, rfl⟩, rfl⟩
      exact Table.get?_of_mem tally.once member
  rw [same, Set.encard_coe_eq_coe_finsetCard, List.toFinset_card_of_nodup once, Table.keys,
    List.length_map, showing, List.countP_eq_length_filter]

theorem showing_put (absent : key ∉ Table.keys editors) (path other : Text) :
    showing (Table.put editors key path) other =
      showing editors other + if path == other then 1 else 0 := by
  rw [Table.put_of_not_mem absent, showing, List.countP_append, List.countP_singleton]
  rfl

/-- One more editor shows a file. -/
theorem put (tally : Tally editors counts) (absent : key ∉ Table.keys editors) (path : Text) :
    Tally (Table.put editors key path)
      (Table.put counts path ((Table.get? counts path).getD 0 + 1)) where
  once := Table.nodup_keys_put tally.once absent path
  counted other := by
    rw [showing_put absent path other]
    by_cases same : path = other
    · subst same
      rw [Table.get?_put_self, tally.count_eq, beq_self_eq_true]
      simp
    · have different : (path == other) = false := beq_eq_false_iff_ne.mpr same
      rw [Table.get?_put_of_ne (Ne.symm same), tally.counted other, different]
      simp

/-- One editor less shows a file. The count of the last one goes with it. -/
theorem remove (tally : Tally editors counts) (found : Table.get? editors key = some path) :
    Tally (Table.remove editors key)
      (if (Table.get? counts path).getD 0 - 1 > 0 then
        Table.put counts path ((Table.get? counts path).getD 0 - 1)
      else Table.remove counts path) where
  once := Table.nodup_keys_remove tally.once key
  counted other := by
    have removed := Table.countP_remove tally.once found (fun entry => entry.2 == other)
    rw [tally.count_eq]
    unfold showing
    by_cases same : path = other
    · subst same
      simp only [beq_self_eq_true, ↓reduceIte] at removed
      rw [removed, Nat.add_sub_cancel]
      split
      · next others =>
        rw [Table.get?_put_self, if_neg (Nat.ne_of_gt others)]
      · next last =>
        rw [Table.get?_remove_self, if_pos (Nat.eq_zero_of_not_pos last)]
    · have different : (path == other) = false := beq_eq_false_iff_ne.mpr same
      have kept := tally.counted other
      simp only [different, Bool.false_eq_true, ↓reduceIte, Nat.add_zero] at removed
      rw [showing, removed] at kept
      rw [← kept]
      split
      · exact Table.get?_put_of_ne (Ne.symm same) counts _
      · exact Table.get?_remove_of_ne (Ne.symm same) counts

end Tally

end LanguageClient
