import LanguageClient.Proofs.Json.Paths
import LanguageClient.Settings.Merge

/-! # Room to copy settings

Copying a value needs more calls than copying any part of it, and copying what is missing in
settings needs no more than copying all of the defaults. So where there is room to copy the
defaults, only the settings themselves can be nested too deep.
-/

namespace LanguageClient.Settings

variable {value default : Json}

theorem copyCalls_le_of_mem {entries : Json.Entries} {entry : Text × Json}
    (member : entry ∈ entries) : copyCalls entry.2 ≤ copyCallsOfEntries entries := by
  induction entries with
  | nil => cases member
  | cons first rest ih =>
      rw [copyCallsOfEntries]
      rcases List.mem_cons.mp member with rfl | later
      · exact Nat.le_max_left ..
      · exact Nat.le_trans (ih later) (Nat.le_max_right ..)

theorem copyCalls_le_of_get? {entries : Json.Entries} {name : Text}
    (isEntry : Table.get? entries name = some value) :
    copyCalls value ≤ copyCallsOfEntries entries :=
  copyCalls_le_of_mem (Table.mem_of_get? isEntry)

theorem missingCallsIn_le_copyCalls {entries defaults : Json.Entries}
    (below : ∀ entry ∈ defaults, ∀ value, missingCalls value entry.2 ≤ copyCalls entry.2) :
    missingCallsIn entries defaults ≤ copyCallsOfEntries defaults := by
  induction defaults with
  | nil => exact Nat.zero_le _
  | cons default rest ih =>
      obtain ⟨here, later⟩ := List.forall_mem_cons.mp below
      have behind := ih later
      simp only [missingCallsIn, copyCallsOfEntries]
      split
      · omega
      · next value _ =>
        have first := here value
        omega

/-- Copying what is missing needs no more calls than copying all of the default. -/
theorem missingCalls_le (unrepeated : default.Unrepeated) (value : Json) :
    missingCalls value default ≤ copyCalls default := by
  induction default using Json.part_induction generalizing value with
  | step default ih =>
      by_cases objects : value.isObj ∧ default.isObj
      · obtain ⟨entries, rfl⟩ := Json.exists_entries objects.1
        obtain ⟨defaults, rfl⟩ := Json.exists_entries objects.2
        have below : missingCallsIn entries defaults ≤ copyCallsOfEntries defaults := by
          apply missingCallsIn_le_copyCalls
          rintro ⟨name, other⟩ member value
          have isDefault := unrepeated.get?_of_mem member
          exact ih name other isDefault (unrepeated.below isDefault) value
        simp only [missingCalls, copyCalls]
        omega
      · rw [missingCalls.eq_def]
        split
        · exact absurd ⟨rfl, rfl⟩ objects
        · exact Nat.zero_le _

theorem foldr_copyCalls (entries : Json.Entries) :
    entries.foldr (fun entry calls => max (copyCalls entry.2) calls) 1 =
      copyCallsOfEntries entries := by
  induction entries with
  | nil => rfl
  | cons entry rest ih => rw [copyCallsOfEntries, List.foldr_cons, ih]

variable [Limits]

theorem copied_eq (entries : Json.Entries) :
    copied entries =
      if copyCalls (.obj entries) ≤ Limits.copying then .ok entries
      else .error .copiedTooDeep := by
  rw [copied, foldr_copyCalls, copyCalls]

theorem copied_nil : copied ([] : Json.Entries) = .ok [] := by
  have room := Limits.ten_le_copying
  rw [copied_eq, if_pos (by simp only [copyCalls, copyCallsOfEntries]; omega)]

theorem copiesDefault_of_low {data defaults : Json.Entries} {replaced : List Text}
    (unrepeated : (Json.obj defaults).Unrepeated)
    (low : copyCalls (.obj defaults) ≤ Limits.copying) :
    defaults.all (copiesDefault replaced data) = true := by
  rw [List.all_eq_true]
  rintro ⟨name, default⟩ member
  have lower : copyCalls default ≤ copyCallsOfEntries defaults := copyCalls_le_of_mem member
  rw [copyCalls] at low
  unfold copiesDefault
  split
  · exact decide_eq_true (by dsimp only; omega)
  · next value _ =>
    have isDefault := unrepeated.get?_of_mem member
    have calls := missingCalls_le (unrepeated.below isDefault) value
    simp only [Bool.or_eq_true, decide_eq_true_eq]
    exact .inr (by omega)

end LanguageClient.Settings
