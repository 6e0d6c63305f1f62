import LanguageClient.Proofs.Text.Blank

/-! # The suffix of a path

The URI of a path has nothing of the blanks at its ends. Blanks in front are nothing to the
suffix, unless they make a name out of a lonely suffix, and blanks at the end are taken off with
it. So paths that differ in such blanks alone have the same suffix if they have one at all, and
belong to one language.
-/

namespace LanguageClient

namespace Text

/-- What is taken off a text stands at its ends and is blank. -/
theorem stripChars_split (text : List CodePoint) :
    ∃ front back, text = front ++ (stripChars text ++ back) ∧
      (∀ c ∈ front, isBlank c = true) ∧ ∀ c ∈ back, isBlank c = true := by
  refine ⟨text.takeWhile isBlank, (dropBlanks text).rtakeWhile isBlank, ?_, ?_, ?_⟩
  · rw [stripChars_eq, List.rdropWhile_append_rtakeWhile, dropBlanks,
      List.takeWhile_append_dropWhile]
  · exact fun c member => List.mem_takeWhile_imp member
  · exact fun c member => List.mem_rtakeWhile_imp member

/-- Blanks behind a text that begins with no blank are taken off. -/
theorem stripChars_append_blanks {c : CodePoint} (visible : isBlank c = false)
    (text : List CodePoint) {back : List CodePoint} (blank : ∀ c ∈ back, isBlank c = true) :
    stripChars (c :: (text ++ back)) = stripChars (c :: text) := by
  have begun (rest : List CodePoint) : dropBlanks (c :: rest) = c :: rest :=
    List.dropWhile_cons_of_neg (by simp [visible])
  have behind : ∀ d ∈ back.reverse, isBlank d = true :=
    fun d member => blank d (List.mem_reverse.mp member)
  rw [stripChars_eq, stripChars_eq, begun, begun, ← List.cons_append, List.rdropWhile,
    List.reverse_append, List.dropWhile_append_of_pos behind]
  rfl

end Text

namespace Path

variable {text behind : List CodePoint} {path : Text}

/-- The characters behind the last dot. -/
def behindDot (text : List CodePoint) : List CodePoint :=
  text.rtakeWhile (· ≠ CodePoint.scalar '.')

theorem behindDot_append_of_dotless (text : List CodePoint)
    (dotless : CodePoint.scalar '.' ∉ behind) :
    behindDot (text ++ behind) = behindDot text ++ behind := by
  have all : ∀ c ∈ behind.reverse, decide (c ≠ CodePoint.scalar '.') = true := by
    intro c member
    apply decide_eq_true
    rintro rfl
    exact dotless (List.mem_reverse.mp member)
  rw [behindDot, List.rtakeWhile, List.reverse_append, List.takeWhile_append_of_pos all,
    List.reverse_append, List.reverse_reverse]
  rfl

theorem behindDot_split (front : List CodePoint) (dotless : CodePoint.scalar '.' ∉ behind) :
    behindDot (front ++ .scalar '.' :: behind) = behind := by
  have none : behindDot (front ++ [.scalar '.']) = [] :=
    List.rtakeWhile_concat_neg _ _ _ (by decide)
  rw [List.append_cons, behindDot_append_of_dotless _ dotless, none, List.nil_append]

theorem behindDot_append_of_dotted (front : List CodePoint) (dotted : CodePoint.scalar '.' ∈ text) :
    behindDot (front ++ text) = behindDot text := by
  obtain ⟨behind, before, isText, dotless⟩ :=
    List.eq_append_cons_of_mem (List.mem_reverse.mpr dotted)
  have split : text = before.reverse ++ .scalar '.' :: behind.reverse := by
    rw [← List.reverse_reverse text, isText, List.reverse_append, List.reverse_cons,
      List.append_assoc]
    rfl
  have none : CodePoint.scalar '.' ∉ behind.reverse :=
    fun member => dotless (List.mem_reverse.mp member)
  rw [split, ← List.append_assoc, behindDot_split _ none, behindDot_split _ none]

theorem suffix_eq (suffixed : suffix path ≠ "") :
    suffix path = Text.ofList (.scalar '.' :: behindDot path.toList) := by
  have isEnd : (path.toList.reverse.takeWhile (· ≠ CodePoint.scalar '/')).reverse.dropWhile
      (· == CodePoint.scalar '.') <:+ path.toList :=
    (List.dropWhile_suffix _).trans (List.rtakeWhile_suffix _ _)
  simp only [suffix] at suffixed ⊢
  generalize (path.toList.reverse.takeWhile _).reverse.dropWhile _ = bare at isEnd suffixed ⊢
  split at suffixed
  · next dotted =>
    obtain ⟨front, isPath⟩ := isEnd
    rw [if_pos dotted, ← isPath, behindDot_append_of_dotted front (List.contains_iff_mem.mp dotted),
      behindDot, List.rtakeWhile, ← List.singleton_append, Text.ofList_append]
    rfl
  · exact absurd rfl suffixed

/-- Blanks at the ends of a path are nothing to its suffix but blanks at its end. -/
theorem strip_suffix (suffixed : suffix path ≠ "") :
    Text.strip (suffix path) = Text.ofList
      (Text.stripChars (.scalar '.' :: behindDot (Text.stripChars path.toList))) := by
  obtain ⟨front, back, isPath, blankFront, blankBack⟩ := Text.stripChars_split path.toList
  have dotless {blanks : List CodePoint} (blank : ∀ c ∈ blanks, Text.isBlank c = true) :
      CodePoint.scalar '.' ∉ blanks := fun member => absurd (blank (.scalar '.') member) (by decide)
  have dotted : CodePoint.scalar '.' ∈ Text.stripChars path.toList := by
    have member := dot_mem_of_suffix suffixed
    rw [isPath] at member
    rcases List.mem_append.mp member with before | rest
    · exact absurd before (dotless blankFront)
    · exact (List.mem_append.mp rest).resolve_right (dotless blankBack)
  -- The last dot is no blank, so that only the blanks at the end are behind it.
  have behind : behindDot path.toList = behindDot (Text.stripChars path.toList) ++ back := by
    have member := List.mem_append_left back dotted
    rw [← behindDot_append_of_dotless _ (dotless blankBack),
      ← behindDot_append_of_dotted front member, ← isPath]
  rw [suffix_eq suffixed, behind, Text.strip, Text.toList_ofList,
    Text.stripChars_append_blanks (by decide) _ blankBack]

end Path

/-- Files whose paths differ in blanks at the ends have one language, if they have one at all. -/
theorem Languages.forPath?_of_strip {languages : Languages} {path other : Text}
    {language another : Language} (same : Text.strip path = Text.strip other)
    (spoken : forPath? languages path = some language)
    (alike : forPath? languages other = some another) : language = another := by
  have stripped : Text.stripChars path.toList = Text.stripChars other.toList :=
    Text.ofList_injective same
  have suffixes : Text.strip (Path.suffix path) = Text.strip (Path.suffix other) := by
    rw [Path.strip_suffix (suffix_of_forPath? spoken), Path.strip_suffix (suffix_of_forPath? alike),
      stripped]
  have normal : Language.normalSuffix (Path.suffix path) =
      Language.normalSuffix (Path.suffix other) := by
    rw [Language.normalSuffix, suffixes, ← Language.normalSuffix]
  have found : forPath? languages path = forPath? languages other := by
    rw [forPath?, forSuffix?, normal, ← forSuffix?, ← forPath?]
  exact Option.some.inj (spoken.symm.trans (found.trans alike))

end LanguageClient
