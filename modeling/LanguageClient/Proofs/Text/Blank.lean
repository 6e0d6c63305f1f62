import LanguageClient.Settings.Languages
import LanguageClient.Uri
import Mathlib.Data.List.DropRight

/-! # Text without blanks at its ends

Nothing more is taken off a text that was stripped, and nothing but blanks is taken off at all.
So the path of a file with a suffix has a URI: the dot in front of the suffix is no blank.
-/

namespace LanguageClient

namespace Text

variable {text : List CodePoint}

theorem stripChars_eq (text : List CodePoint) :
    stripChars text = (dropBlanks text).rdropWhile isBlank := rfl

/-- Text that begins with no blank still does so, or is empty, once its end is stripped. -/
theorem dropBlanks_rdropWhile (begun : dropBlanks text = text) :
    dropBlanks (text.rdropWhile isBlank) = text.rdropWhile isBlank := by
  have isPart := List.rdropWhile_prefix isBlank text
  cases left : text.rdropWhile isBlank with
  | nil => rfl
  | cons c rest =>
      obtain ⟨behind, isText⟩ := left ▸ isPart
      have visible : isBlank c = false := head_dropBlanks (begun.trans isText.symm)
      exact List.dropWhile_cons_of_neg (by simp [visible])

theorem stripChars_stripChars (text : List CodePoint) :
    stripChars (stripChars text) = stripChars text := by
  have begun : dropBlanks (dropBlanks text) = dropBlanks text :=
    List.dropWhile_idempotent isBlank text
  rw [stripChars_eq, stripChars_eq, dropBlanks_rdropWhile begun,
    List.rdropWhile_idempotent isBlank (dropBlanks text)]

@[simp] theorem strip_strip (text : Text) : strip (strip text) = strip text := by
  rw [strip, strip, Text.toList_ofList, stripChars_stripChars]

theorem stripChars_ne_nil {c : CodePoint} (member : c ∈ text) (visible : isBlank c = false) :
    stripChars text ≠ [] := by
  intro nothing
  have allBlank := List.rdropWhile_eq_nil_iff.mp ((stripChars_eq text).symm.trans nothing)
  cases kept : dropBlanks text with
  | nil =>
      have blank := List.dropWhile_eq_nil_iff.mp kept c member
      rw [visible] at blank
      exact absurd blank nofun
  | cons first rest =>
      have blank := allBlank first (kept ▸ List.mem_cons_self)
      rw [head_dropBlanks kept] at blank
      exact absurd blank nofun

end Text

/-! ## Paths with a suffix -/

theorem Path.dot_mem_of_suffix {path : Text} (suffixed : Path.suffix path ≠ "") :
    CodePoint.scalar '.' ∈ path.toList := by
  simp only [suffix] at suffixed
  split at suffixed
  · next dotted =>
    have inBare := List.contains_iff_mem.mp dotted
    have inName := (List.dropWhile_sublist _).mem inBare
    have inPath := (List.takeWhile_sublist _).mem (List.mem_reverse.mp inName)
    exact List.mem_reverse.mp inPath
  · exact absurd rfl suffixed

theorem Languages.suffix_of_forPath? {languages : Languages} {path : Text} {language : Language}
    (spoken : Languages.forPath? languages path = some language) : Path.suffix path ≠ "" := by
  intro bare
  rw [forPath?, bare] at spoken
  exact absurd spoken nofun

theorem Uri.fileScheme_append_ne_empty (text : Text) : fileScheme ++ text ≠ "" :=
  fun nothing => absurd (Text.append_eq_empty_iff.mp nothing).1 (by decide)

namespace Uri

/-- The scheme and what is behind it tell texts apart, nothing at all being told by nothing. -/
theorem spelled_injective {text other : Text}
    (same : (if text.isEmpty then ("" : Text) else fileScheme ++ text) =
      if other.isEmpty then ("" : Text) else fileScheme ++ other) : text = other := by
  split at same
  · next blank =>
    split at same
    · next otherBlank => rw [Text.isEmpty_iff.mp blank, Text.isEmpty_iff.mp otherBlank]
    · exact absurd same.symm (fileScheme_append_ne_empty _)
  · split at same
    · exact absurd same (fileScheme_append_ne_empty _)
    · exact (Text.append_right_inj fileScheme).mp same

variable [Places]

theorem ofPath_ne_empty {languages : Languages} {path : Text} {language : Language}
    (spoken : Languages.forPath? languages path = some language) : ofPath path ≠ "" := by
  have dotted := Path.dot_mem_of_suffix (Languages.suffix_of_forPath? spoken)
  have visible := Text.stripChars_ne_nil dotted rfl
  have shown : (Text.strip path).isEmpty = false := by
    rw [Text.strip, Text.isEmpty_eq_false_iff]
    exact fun nothing => visible (Text.ofList_eq_empty_iff.mp nothing)
  simp only [ofPath, shown, Bool.false_eq_true, ↓reduceIte]
  split
  · next absolute => exact Places.uriOf_ne_empty absolute
  · exact fileScheme_append_ne_empty _

/-- A path without blanks at its ends that stays relative, as one does at which nothing is. -/
structure IsLoose (path : Text) : Prop where
  trimmed : Text.strip path = path
  unresolved : Places.resolve path = path
  relative : Path.isAbsolute path = false

theorem ofPath_of_isLoose {path : Text} (loose : IsLoose path) :
    ofPath path = if path.isEmpty then ("" : Text) else fileScheme ++ path := by
  simp only [ofPath, loose.trimmed, loose.unresolved, loose.relative, Bool.false_eq_true,
    ↓reduceIte]

/-- Such a path is told apart from others by its URI. -/
theorem ofPath_injective {path other : Text} (loose : IsLoose path) (otherLoose : IsLoose other)
    (same : ofPath path = ofPath other) : path = other := by
  rw [ofPath_of_isLoose loose, ofPath_of_isLoose otherLoose] at same
  exact spelled_injective same

end Uri

end LanguageClient
