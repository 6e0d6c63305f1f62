import LanguageClient.Path
import LanguageClient.Proofs.Text.Parts
import LanguageClient.Proofs.Text.Utf8

/-! # The names in a path

A path that was put together from names has these names. So one that was joined or made tidy
stays as it is when it is made tidy again, and has no character that was not there before.
-/

namespace LanguageClient

namespace Path

/-- A name that stands in a path: it is neither empty nor a dot, and has no slash. -/
structure IsName (name : Text) : Prop where
  some : name ≠ ""
  noDot : name ≠ "."
  whole : CodePoint.scalar '/' ∉ name.toList

theorem isName_of_mem {path name : Text} (member : name ∈ names path) : IsName name := by
  rw [names, List.mem_filter] at member
  obtain ⟨isPart, kept⟩ := member
  obtain ⟨some, noDot⟩ := of_decide_eq_true kept
  rw [parts, List.mem_map] at isPart
  obtain ⟨part, isPart, rfl⟩ := isPart
  refine ⟨some, noDot, ?_⟩
  rw [Text.toList_ofList]
  exact Text.not_mem_of_splitChars isPart

/-- The path that begins with some slashes and has these names. -/
def spelled (start : Text) (names : List Text) : Text :=
  start ++ Text.intercalate "/" names

theorem join_eq (path below : Text) :
    join path below = spelled (root path) (names path ++ names below) := rfl

theorem toList_spelled (start : Text) (names : List Text) :
    (spelled start names).toList =
      start.toList ++ [CodePoint.scalar '/'].intercalate (names.map Text.toList) := by
  rw [spelled, Text.toList_append, Text.toList_intercalate]
  rfl

theorem root_cases (path : Text) : root path = "" ∨ root path = "/" ∨ root path = "//" := by
  unfold root
  split
  · exact .inr (.inl rfl)
  · exact .inr (.inr rfl)
  · exact .inr (.inl rfl)
  · exact .inl rfl

variable {start : Text} {spelt : List Text}

theorem filter_names (areNames : ∀ name ∈ spelt, IsName name) :
    spelt.filter (fun (part : Text) => part ≠ "" ∧ part ≠ ".") = spelt := by
  apply List.filter_eq_self.mpr
  intro name member
  exact decide_eq_true ⟨(areNames name member).some, (areNames name member).noDot⟩

theorem names_spelled (isStart : start = "" ∨ start = "/" ∨ start = "//")
    (areNames : ∀ name ∈ spelt, IsName name) : names (spelled start spelt) = spelt := by
  have behind : ((Text.splitChars (.scalar '/')
      ([CodePoint.scalar '/'].intercalate (spelt.map Text.toList))).map Text.ofList).filter
        (fun (part : Text) => part ≠ "" ∧ part ≠ ".") = spelt := by
    cases spelt with
    | nil => rfl
    | cons name rest =>
        rw [Text.splitChars_intercalate (by simp), List.map_map]
        · simp only [Function.comp_def, Text.ofList_toList, List.map_id']
          exact filter_names areNames
        · intro part member
          obtain ⟨other, isOther, rfl⟩ := List.mem_map.mp member
          exact (areNames other isOther).whole
  rw [names, parts, toList_spelled]
  rcases isStart with rfl | rfl | rfl
  · exact behind
  · exact behind
  · exact behind

/-- What was put together from names begins with no slash of its own. -/
theorem intercalate_ne_slash (areNames : ∀ name ∈ spelt, IsName name) (rest : List CodePoint) :
    [CodePoint.scalar '/'].intercalate (spelt.map Text.toList) ≠ .scalar '/' :: rest := by
  cases spelt with
  | nil => exact (List.cons_ne_nil _ _).symm
  | cons name more =>
      have isName := areNames name List.mem_cons_self
      cases begun : name.toList with
      | nil => exact absurd (Text.toList_eq_nil_iff.mp begun) isName.some
      | cons c chars =>
          have noSlash : c ≠ .scalar '/' := by
            rintro rfl
            exact isName.whole (begun ▸ List.mem_cons_self)
          intro same
          rw [List.map_cons, begun] at same
          cases more with
          | nil =>
              rw [List.map_nil, List.intercalate_singleton] at same
              exact noSlash (List.cons.inj same).1
          | cons next more =>
              rw [List.map_cons, List.intercalate_cons_cons] at same
              exact noSlash (List.cons.inj same).1

theorem root_spelled (isStart : start = "" ∨ start = "/" ∨ start = "//")
    (areNames : ∀ name ∈ spelt, IsName name) : root (spelled start spelt) = start := by
  have noSlash := intercalate_ne_slash areNames
  unfold root
  rw [toList_spelled]
  generalize [CodePoint.scalar '/'].intercalate (spelt.map Text.toList) = behind at noSlash
  rcases isStart with rfl | rfl | rfl
  · rw [Text.toList_empty, List.nil_append]
    split
    · exact absurd rfl (noSlash _)
    · exact absurd rfl (noSlash _)
    · exact absurd rfl (noSlash _)
    · rfl
  · have single : ("/" : Text).toList ++ behind = .scalar '/' :: behind := rfl
    rw [single]
    split
    · next same => exact absurd (List.cons.inj same).2 (noSlash _)
    · next same => exact absurd (List.cons.inj same).2 (noSlash _)
    · rfl
    · next other => exact absurd rfl (other _)
  · have double : ("//" : Text).toList ++ behind = .scalar '/' :: .scalar '/' :: behind := rfl
    rw [double]
    split
    · next same => exact absurd (List.cons.inj (List.cons.inj same).2).2 (noSlash _)
    · rfl
    · next other same => exact absurd (List.cons.inj same).2.symm (other behind)
    · next other => exact absurd rfl (other _)

theorem tidy_spelled (isStart : start = "" ∨ start = "/" ∨ start = "//")
    (areNames : ∀ name ∈ spelt, IsName name) (some : spelt ≠ []) :
    tidy (spelled start spelt) = spelled start spelt := by
  have unblank : spelled start spelt ≠ "" := by
    intro blank
    have none := names_spelled isStart areNames
    rw [blank] at none
    exact some none.symm
  rw [tidy, names_spelled isStart areNames, root_spelled isStart areNames]
  exact if_neg unblank

/-- What was joined to something with a name is tidy. -/
theorem tidy_join (path : Text) {below : Text} (named : names below ≠ []) :
    tidy (join path below) = join path below := by
  rw [join_eq]
  apply tidy_spelled (root_cases path)
  · intro name member
    rcases List.mem_append.mp member with member | member
    · exact isName_of_mem member
    · exact isName_of_mem member
  · exact fun none => named (List.append_eq_nil_iff.mp none).2

/-! ## Code points -/

theorem mem_spelled {c : CodePoint} (isStart : start = "" ∨ start = "/" ∨ start = "//")
    (member : c ∈ (spelled start spelt).toList) :
    c = .scalar '/' ∨ ∃ name ∈ spelt, c ∈ name.toList := by
  rw [toList_spelled, List.mem_append] at member
  rcases member with inStart | inNames
  · rcases isStart with rfl | rfl | rfl
    · cases inStart
    · exact .inl (by simpa using inStart)
    · exact .inl (by simpa using inStart)
  · rcases Text.mem_of_mem_intercalate inNames with isSlash | ⟨part, isPart, inside⟩
    · exact .inl isSlash
    · obtain ⟨name, isName, rfl⟩ := List.mem_map.mp isPart
      exact .inr ⟨name, isName, inside⟩

theorem mem_of_mem_names {path name : Text} (member : name ∈ names path) {c : CodePoint}
    (inside : c ∈ name.toList) : c ∈ path.toList := by
  rw [names, List.mem_filter, parts, List.mem_map] at member
  obtain ⟨⟨part, isPart, rfl⟩, _⟩ := member
  rw [Text.toList_ofList] at inside
  exact Text.mem_of_mem_splitChars isPart inside

theorem isUsable_iff {path : Text} :
    isUsable path = true ↔ ∀ c ∈ path.toList, isUsablePoint c = true := by
  rw [isUsable, List.all_eq_true]

/-- The system can be asked about a path that can lead to a file. -/
theorem obstacle?_of_isUsable {path : Text} (usable : isUsable path = true) :
    obstacle? path = none := by
  have points := isUsable_iff.mp usable
  have noNul : path.toList.contains (CodePoint.scalar '\x00') = false := by
    rw [Bool.eq_false_iff]
    exact fun nul => absurd (points _ (List.contains_iff_mem.mp nul)) (by decide)
  have escaped : ∀ half, CodePoint.surrogate half ∈ path.toList → isEscape half = true :=
    fun half member => points _ member
  rw [obstacle?, Text.unencodable?_eq_none escaped, noNul]
  rfl

/-- A path that was put together from names can lead to a file if they all can stand in one. -/
theorem isUsable_spelled (isStart : start = "" ∨ start = "/" ∨ start = "//")
    (usable : ∀ name ∈ spelt, isUsable name = true) : isUsable (spelled start spelt) = true := by
  rw [isUsable_iff]
  intro c member
  rcases mem_spelled isStart member with rfl | ⟨name, isName, inside⟩
  · rfl
  · exact isUsable_iff.mp (usable name isName) c inside

theorem isUsable_of_mem_names {path name : Text} (usable : isUsable path = true)
    (member : name ∈ names path) : isUsable name = true :=
  isUsable_iff.mpr fun c inside => isUsable_iff.mp usable c (mem_of_mem_names member inside)

/-- A path that can lead to a file still can when it is made tidy. -/
theorem isUsable_tidy {path : Text} (usable : isUsable path = true) :
    isUsable (tidy path) = true := by
  rw [tidy]
  split
  · rfl
  · exact isUsable_spelled (root_cases path) fun _ member => isUsable_of_mem_names usable member

theorem isUsable_join {path below : Text} (usable : isUsable path = true)
    (usableBelow : isUsable below = true) : isUsable (join path below) = true := by
  rw [join_eq]
  apply isUsable_spelled (root_cases path)
  intro name member
  rcases List.mem_append.mp member with member | member
  · exact isUsable_of_mem_names usable member
  · exact isUsable_of_mem_names usableBelow member

end Path

end LanguageClient
