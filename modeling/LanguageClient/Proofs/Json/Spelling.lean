import LanguageClient.Json.Spelling
import LanguageClient.Proofs.Json.RoundTrip

/-! # What is plain can be written

Nothing is in the way of spelling a value without fractions, long integers and unpaired surrogates
but its height, and the form that it is written in is one of characters.
-/

namespace LanguageClient.Json

mutual

theorem obstacle?_of_plain {spelling : Spelling} {room : Nat} {value : Json}
    (plain : value.isPlain = true) (low : value.height + spelling.opensAll.toNat ≤ room) :
    obstacle? spelling room value = none := by
  have roomy : (spelling.opensAll && room == 0) = false := by
    rw [Bool.and_eq_false_iff, beq_eq_false_iff_ne]
    by_cases opensAll : spelling.opensAll = true
    · rw [opensAll, Bool.toNat_true] at low
      exact .inr (by omega)
    · exact .inl (Bool.eq_false_iff.mpr opensAll)
  cases value with
  | int value =>
      have short : isTooLong value = false := by
        simp only [isPlain, decide_eq_true_eq] at plain
        exact decide_eq_false (Nat.not_lt.mpr plain)
      simp only [obstacle?, leafObstacle?, roomy, Bool.false_eq_true, ↓reduceIte, short]
  | float value => simp [isPlain] at plain
  | arr items =>
      rw [height] at low
      rw [obstacle?, if_neg (by omega)]
      exact obstacleInItems?_of_plain plain (by omega)
  | obj entries =>
      rw [height] at low
      rw [isPlain, Bool.and_eq_true] at plain
      rw [obstacle?, if_neg (by omega)]
      exact obstacleInEntries?_of_plain plain.2 (by omega)
  | _ => simp only [obstacle?, leafObstacle?, roomy, Bool.false_eq_true, ↓reduceIte]

theorem obstacleInItems?_of_plain {spelling : Spelling} {room : Nat} {items : List Json}
    (plain : areItemsPlain items = true)
    (low : heightOfItems items + spelling.opensAll.toNat ≤ room) :
    obstacleInItems? spelling room items = none := by
  cases items with
  | nil => rfl
  | cons item rest =>
      rw [areItemsPlain, Bool.and_eq_true] at plain
      rw [heightOfItems, ← Nat.add_max_add_right, Nat.max_le] at low
      rw [obstacleInItems?, obstacle?_of_plain plain.1 low.1,
        obstacleInItems?_of_plain plain.2 low.2, Option.or_none]

theorem obstacleInEntries?_of_plain {spelling : Spelling} {room : Nat}
    {entries : List (Text × Json)} (plain : areEntriesPlain entries = true)
    (low : heightOfEntries entries + spelling.opensAll.toNat ≤ room) :
    obstacleInEntries? spelling room entries = none := by
  match entries with
  | [] => rfl
  | (name, value) :: rest =>
      rw [areEntriesPlain, Bool.and_eq_true, Bool.and_eq_true] at plain
      rw [heightOfEntries, ← Nat.add_max_add_right, Nat.max_le] at low
      rw [obstacleInEntries?, obstacle?_of_plain plain.1.2 low.1,
        obstacleInEntries?_of_plain plain.2 low.2, Option.or_none]

end

theorem all_isScalar_printString {text : Text} (plain : text.isPlain = true) :
    (printString text).all CodePoint.isScalar = true := by
  obtain ⟨text, rfl⟩ := Text.isPlain_iff.mp plain
  have escaped : (text.toList.map CodePoint.scalar).flatMap escape =
      (text.toList.flatMap escapeChar).map CodePoint.scalar := by
    rw [List.flatMap_map, List.map_flatMap]
    rfl
  rw [printString, Text.toList_plain, escaped, List.cons_append, List.all_cons, List.all_append,
    CodePoint.all_isScalar_map]
  rfl

mutual

theorem all_isScalar_print {value : Json} (plain : value.isPlain = true) :
    value.print.all CodePoint.isScalar = true := by
  cases value with
  | null => rfl
  | bool value => cases value <;> rfl
  | int value => exact CodePoint.all_isScalar_map _
  | float value => exact CodePoint.all_isScalar_map _
  | str text => exact all_isScalar_printString plain
  | arr items =>
      rw [print, List.cons_append, List.all_cons, List.all_append, all_isScalar_printItems plain]
      rfl
  | obj entries =>
      rw [isPlain, Bool.and_eq_true] at plain
      rw [print, List.cons_append, List.all_cons, List.all_append,
        all_isScalar_printEntries plain.2]
      rfl

theorem all_isScalar_printItems {items : List Json} (plain : areItemsPlain items = true) :
    (printItems items).all CodePoint.isScalar = true := by
  cases items with
  | nil => rfl
  | cons item rest =>
      rw [areItemsPlain, Bool.and_eq_true] at plain
      have first := all_isScalar_print plain.1
      have others := all_isScalar_printItems plain.2
      cases rest with
      | nil => exact first
      | cons next rest =>
          rw [printItems, List.all_append, List.all_cons, first, others]
          · rfl
          · exact List.cons_ne_nil next rest

theorem all_isScalar_printEntries {entries : List (Text × Json)}
    (plain : areEntriesPlain entries = true) :
    (printEntries entries).all CodePoint.isScalar = true := by
  match entries with
  | [] => rfl
  | (name, value) :: rest =>
      rw [areEntriesPlain, Bool.and_eq_true, Bool.and_eq_true] at plain
      have named := all_isScalar_printString plain.1.1
      have first := all_isScalar_print plain.1.2
      have others := all_isScalar_printEntries plain.2
      match rest with
      | [] =>
          rw [printEntries, List.all_append, List.all_cons, named, first]
          rfl
      | next :: rest =>
          rw [printEntries, List.all_append, List.all_append, List.all_cons, List.all_cons, named,
            first, others]
          · rfl
          · exact List.cons_ne_nil next rest

end

end LanguageClient.Json
