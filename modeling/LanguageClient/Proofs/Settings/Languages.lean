import LanguageClient.Proofs.Path
import LanguageClient.Proofs.Text.Case
import LanguageClient.Server.Command

/-! # Which language a file belongs to

A file belongs to the first language of the settings that lists its suffix, in any spelling. Blank
suffixes are not listed at all, and entries that describe no language are passed over. A language
with a command has a program to run.
-/

namespace LanguageClient

namespace Language

/-- A text as a suffix: without blanks at its ends, in lower case, and with a dot in front. -/
def dotted (text : Text) : Text :=
  let lowered := Text.lowercase (Text.strip text)
  if lowered.startsWith "." then lowered else "." ++ lowered

theorem dotted_ne_empty (text : Text) : dotted text ≠ "" := by
  unfold dotted
  dsimp only
  split
  · next begins =>
    intro empty
    rw [empty] at begins
    exact absurd begins (by decide)
  · exact fun empty => absurd (Text.append_eq_empty_iff.mp empty).1 (by decide)

theorem normalSuffix_of_blank {text : Text} (blank : Text.strip text = "") :
    normalSuffix text = "" := by
  simp [normalSuffix, blank, Text.lowercase_eq_empty_iff]

theorem normalSuffix_of_shown {text : Text} (shown : Text.strip text ≠ "") :
    normalSuffix text = dotted text := by
  have lowered : Text.lowercase (Text.strip text) ≠ "" := by
    simpa [Text.lowercase_eq_empty_iff] using shown
  simp [normalSuffix, dotted, lowered]

theorem normalSuffix_eq_empty_iff {text : Text} :
    normalSuffix text = "" ↔ Text.strip text = "" := by
  by_cases blank : Text.strip text = ""
  · simp [blank, normalSuffix_of_blank]
  · simp [blank, normalSuffix_of_shown, dotted_ne_empty]

theorem normalSuffix_of_caseAlike {text other : Text} (alike : Text.CaseAlike text other) :
    normalSuffix text = normalSuffix other := by
  simp only [normalSuffix, alike.lowercase_strip]

/-- The suffixes that an entry of the settings lists, as they are spelled. An entry that is no
    object, or has no list of them, lists none. -/
def spellings (entry : Text × Json) : List Text :=
  match entry.2.get? "extensions" with
  | some (.arr values) => values.map Json.asTextOrEmpty
  | _ => []

/-- An entry of the settings lists a suffix, in any spelling. -/
def Lists (entry : Text × Json) (suffix : Text) : Prop :=
  ∃ text ∈ spellings entry, Text.strip text ≠ "" ∧ dotted text = dotted suffix

/-- The suffixes of the language that an entry describes. -/
def suffixesIn (entry : Text × Json) : List Text :=
  ((spellings entry).map normalSuffix).filter (fun suffix => !suffix.isEmpty)

theorem describedBy?_eq (entry : Text × Json) :
    describedBy? entry =
      if suffixesIn entry = [] then none
      else some {
        name := entry.1
        suffixes := suffixesIn entry
        command := Text.strip (entry.2.field "lsp").textOrEmpty } := by
  unfold describedBy? suffixesIn spellings Json.field
  cases entry.2.get? "extensions" with
  | none => rfl
  | some value =>
      cases value with
      | arr values => simp [Json.items?, suffixesOf, Function.comp_def]
      | _ => rfl

theorem mem_suffixesIn_iff {entry : Text × Json} {suffix : Text} :
    suffix ∈ suffixesIn entry ↔
      suffix ≠ "" ∧ ∃ text ∈ spellings entry, normalSuffix text = suffix := by
  simp [suffixesIn, and_comm]

theorem lists_iff {entry : Text × Json} {suffix : Text} (shown : Text.strip suffix ≠ "") :
    Lists entry suffix ↔ normalSuffix suffix ∈ suffixesIn entry := by
  have wanted := normalSuffix_of_shown shown
  have nonempty := mt normalSuffix_eq_empty_iff.mp shown
  rw [mem_suffixesIn_iff]
  constructor
  · rintro ⟨text, listed, isShown, same⟩
    exact ⟨nonempty, text, listed, by rw [normalSuffix_of_shown isShown, same, wanted]⟩
  · rintro ⟨-, text, listed, same⟩
    have isShown : Text.strip text ≠ "" := by
      rw [← same] at nonempty
      exact mt normalSuffix_eq_empty_iff.mpr nonempty
    exact ⟨text, listed, isShown, by rw [← normalSuffix_of_shown isShown, same, wanted]⟩

/-- The language that an entry describes has the suffixes that the entry lists. -/
theorem any_describedBy?_iff {entry : Text × Json} {suffix : Text}
    (shown : Text.strip suffix ≠ "") :
    (describedBy? entry).any (fun language =>
      language.suffixes.contains (normalSuffix suffix)) = true ↔ Lists entry suffix := by
  rw [lists_iff shown, describedBy?_eq]
  by_cases none : suffixesIn entry = []
  · simp [none]
  · simp [none]

theorem exists_describedBy?_of_lists {entry : Text × Json} {suffix : Text}
    (lists : Lists entry suffix) : ∃ language, describedBy? entry = some language := by
  obtain ⟨text, listed, shown, -⟩ := lists
  have member : normalSuffix text ∈ suffixesIn entry :=
    mem_suffixesIn_iff.mpr ⟨mt normalSuffix_eq_empty_iff.mp shown, text, listed, rfl⟩
  rw [describedBy?_eq, if_neg (List.ne_nil_of_mem member)]
  exact ⟨_, rfl⟩

/-- Entries of one name and one command that list the same suffixes but for the case of letters of
    ASCII. -/
structure Respelled (entry other : Text × Json) : Prop where
  name : entry.1 = other.1
  command : entry.2.get? "lsp" = other.2.get? "lsp"
  spellings : List.Forall₂ Text.CaseAlike (Language.spellings entry) (Language.spellings other)

theorem describedBy?_of_respelled {entry other : Text × Json} (respelled : Respelled entry other) :
    describedBy? entry = describedBy? other := by
  have suffixes : suffixesIn entry = suffixesIn other := by
    have spelled := respelled.spellings
    unfold suffixesIn
    generalize spellings entry = texts at spelled ⊢
    generalize spellings other = others at spelled ⊢
    congr 1
    induction spelled with
    | nil => rfl
    | cons alike _ ih => rw [List.map_cons, List.map_cons, normalSuffix_of_caseAlike alike, ih]
  rw [describedBy?_eq, describedBy?_eq, suffixes, respelled.name, Json.field, respelled.command,
    ← Json.field]

theorem describedBy?_of_malformed {entry : Text × Json}
    (malformed : ∀ values, entry.2.get? "extensions" ≠ some (.arr values)) :
    describedBy? entry = none := by
  have none : spellings entry = [] := by
    unfold spellings
    split
    · next values listed => exact absurd listed (malformed values)
    · rfl
  rw [describedBy?_eq, suffixesIn, none]
  rfl

end Language

namespace Languages

open LanguageClient.Language

/-- The entries of the settings for languages, in order. -/
def listed (settings : Json) : Json.Entries :=
  (settings.field "languages").entries

/-- The first entry that lists a suffix. -/
def IsFirst (entries : Json.Entries) (suffix : Text) (entry : Text × Json) : Prop :=
  ∃ before after, entries = before ++ entry :: after ∧ (∀ other ∈ before, ¬Lists other suffix) ∧
    Lists entry suffix

variable {settings other : Json} {path otherPath : Text} {language : Language}

theorem strip_suffix_ne_empty (suffixed : Path.suffix path ≠ "") :
    Text.strip (Path.suffix path) ≠ "" := by
  have dotted : CodePoint.scalar '.' ∈ (Path.suffix path).toList := by
    rw [Path.suffix_eq suffixed, Text.toList_ofList]
    exact List.mem_cons_self
  intro blank
  exact Text.stripChars_ne_nil dotted rfl (Text.ofList_eq_empty_iff.mp blank)

theorem forPath?_of_bare (bare : Path.suffix path = "") (languages : Languages) :
    forPath? languages path = none := by
  rw [forPath?, bare]
  rfl

theorem forPath?_eq_find? (suffixed : Path.suffix path ≠ "") :
    forPath? (ofSettings settings) path =
      ((listed settings).find? fun entry => (describedBy? entry).any fun language =>
        language.suffixes.contains (normalSuffix (Path.suffix path))).bind describedBy? := by
  have shown := mt normalSuffix_eq_empty_iff.mp (strip_suffix_ne_empty suffixed)
  simp only [forPath?, forSuffix?, Text.isEmpty_iff, shown, ↓reduceIte]
  exact List.find?_filterMap

theorem forPath?_iff_isFirst :
    forPath? (ofSettings settings) path = some language ↔
      Path.suffix path ≠ "" ∧ ∃ entry, IsFirst (listed settings) (Path.suffix path) entry ∧
        describedBy? entry = some language := by
  by_cases bare : Path.suffix path = ""
  · simp [forPath?_of_bare bare, bare]
  · have shown := strip_suffix_ne_empty bare
    simp only [forPath?_eq_find? bare, Option.bind_eq_some_iff, List.find?_eq_some_iff_append,
      Bool.not_eq_true', ← Bool.not_eq_true, any_describedBy?_iff shown, IsFirst]
    constructor
    · rintro ⟨entry, ⟨lists, before, after, split, none⟩, described⟩
      exact ⟨bare, entry, ⟨before, after, split, none, lists⟩, described⟩
    · rintro ⟨-, entry, ⟨before, after, split, none, lists⟩, described⟩
      exact ⟨entry, ⟨lists, before, after, split, none⟩, described⟩

theorem forPath?_eq_none_iff :
    forPath? (ofSettings settings) path = none ↔
      Path.suffix path = "" ∨ ∀ entry ∈ listed settings, ¬Lists entry (Path.suffix path) := by
  by_cases bare : Path.suffix path = ""
  · simp [forPath?_of_bare bare, bare]
  · have shown := strip_suffix_ne_empty bare
    rw [forPath?_eq_find? bare]
    constructor
    · intro none
      refine .inr fun entry member lists => ?_
      cases found : (listed settings).find? fun entry => (describedBy? entry).any fun language =>
          language.suffixes.contains (normalSuffix (Path.suffix path)) with
      | none =>
          exact List.find?_eq_none.mp found entry member ((any_describedBy?_iff shown).mpr lists)
      | some first =>
          have lists := (any_describedBy?_iff shown).mp (List.find?_eq_some_iff_append.mp found).1
          obtain ⟨language, described⟩ := exists_describedBy?_of_lists lists
          rw [found, Option.bind_some, described] at none
          cases none
    · rintro (empty | unlisted)
      · exact absurd empty bare
      · have none := List.find?_eq_none.mpr fun entry member =>
          mt (any_describedBy?_iff shown).mp (unlisted entry member)
        rw [none]
        rfl

/-! ## Spelling and malformed entries -/

theorem forPath?_of_caseAlike (alike : Text.CaseAlike (Path.suffix path) (Path.suffix otherPath))
    (languages : Languages) : forPath? languages path = forPath? languages otherPath := by
  rw [forPath?, forPath?, forSuffix?, forSuffix?, normalSuffix_of_caseAlike alike]

theorem ofSettings_of_respelled
    (respelled : List.Forall₂ Respelled (listed settings) (listed other)) :
    ofSettings settings = ofSettings other := by
  have same (entries others : Json.Entries) (respelled : List.Forall₂ Respelled entries others) :
      entries.filterMap describedBy? = others.filterMap describedBy? := by
    induction respelled with
    | nil => rfl
    | cons first _ ih =>
        rw [List.filterMap_cons, List.filterMap_cons, describedBy?_of_respelled first, ih]
  exact same _ _ respelled

/-! ## Commands -/

theorem partsBetween_ne_nil {isGap : CodePoint → Bool} {current text : List CodePoint}
    (some : current ≠ [] ∨ ∃ c ∈ text, isGap c = false) : partsBetween isGap current text ≠ [] := by
  induction text generalizing current with
  | nil => simpa [partsBetween] using some
  | cons c text ih =>
      rw [partsBetween]
      by_cases gap : isGap c
      · by_cases none : current = []
        · have later : ∃ c ∈ text, isGap c = false := by simpa [none, gap] using some
          simpa [gap, none] using ih (.inr later)
        · simp [gap, none]
      · simpa [gap] using ih (.inl (List.cons_ne_nil c current))

/-- A command has a program to run: it begins with a character that is no blank. -/
theorem splitCommand_ne_nil {text : Text} (shown : Text.strip text ≠ "") :
    splitCommand (Text.strip text) ≠ [] := by
  have begun : Text.dropBlanks (Text.stripChars text.toList) = Text.stripChars text.toList :=
    Text.dropBlanks_rdropWhile (List.dropWhile_idempotent Text.isBlank text.toList)
  cases chars : Text.stripChars text.toList with
  | nil => exact absurd (Text.ofList_eq_empty_iff.mpr chars) shown
  | cons c rest =>
      rw [chars] at begun
      have visible := Text.head_dropBlanks begun
      have noGap : (c == ' ' || c == '\t') = false := by
        by_contra gap
        rw [Bool.not_eq_false, Bool.or_eq_true, beq_iff_eq, beq_iff_eq] at gap
        rcases gap with rfl | rfl
        · exact absurd visible (by decide)
        · exact absurd visible (by decide)
      rw [splitCommand, Text.strip, Text.toList_ofList, chars]
      exact partsBetween_ne_nil (.inr ⟨c, List.mem_cons_self, noGap⟩)

/-- The command of a language is the text of its entry, if that is set and not blank. -/
theorem command_iff_set {entry : Text × Json} {command : Text}
    (described : describedBy? entry = some language) :
    language.hasServer = true ∧ language.command = command ↔
      ∃ text, entry.2.get? "lsp" = some (.str text) ∧ Text.strip text ≠ "" ∧
        Text.strip text = command := by
  have isCommand : language.command = Text.strip (entry.2.field "lsp").textOrEmpty := by
    rw [describedBy?_eq] at described
    split at described
    · cases described
    · exact (Option.some.inj described) ▸ rfl
  have unset : Text.strip "" = "" := by decide
  rw [Language.hasServer, isCommand, Json.field]
  cases entry.2.get? "lsp" with
  | none => simp [Json.textOrEmpty, Json.text?, unset]
  | some value => cases value <;> simp [Json.textOrEmpty, Json.text?, unset]

theorem commandFor?_eq_some_iff {languages : Languages} {command : Text} :
    commandFor? languages path = some command ↔
      ∃ language, forPath? languages path = some language ∧ language.hasServer = true ∧
        language.command = command := by
  unfold commandFor?
  cases forPath? languages path with
  | none => simp
  | some language => by_cases served : language.hasServer <;> simp [served]

theorem commandFor?_iff_isFirst {command : Text} :
    commandFor? (ofSettings settings) path = some command ↔
      Path.suffix path ≠ "" ∧ ∃ entry, IsFirst (listed settings) (Path.suffix path) entry ∧
        ∃ text, entry.2.get? "lsp" = some (.str text) ∧ Text.strip text ≠ "" ∧
          Text.strip text = command := by
  simp only [commandFor?_eq_some_iff, forPath?_iff_isFirst]
  constructor
  · rintro ⟨language, ⟨suffixed, entry, isFirst, described⟩, served⟩
    exact ⟨suffixed, entry, isFirst, (command_iff_set described).mp served⟩
  · rintro ⟨suffixed, entry, isFirst, set⟩
    have ⟨_, _, _, _, lists⟩ := isFirst
    obtain ⟨language, described⟩ := exists_describedBy?_of_lists lists
    exact ⟨language, ⟨suffixed, entry, isFirst, described⟩, (command_iff_set described).mpr set⟩

/-- A file belongs to the first language that lists its suffix, in any spelling that is not blank,
    and to none if its suffix is empty or not listed. Letters of ASCII may be of either case on
    both sides, and entries without a list of suffixes are passed over. A file has a command if
    that language has one, and the command names a program. -/
theorem forPath?_first_that_lists (settings : Json) (path : Text) :
    (∀ language, forPath? (ofSettings settings) path = some language ↔
      Path.suffix path ≠ "" ∧ ∃ entry, IsFirst (listed settings) (Path.suffix path) entry ∧
        describedBy? entry = some language) ∧
    (forPath? (ofSettings settings) path = none ↔
      Path.suffix path = "" ∨ ∀ entry ∈ listed settings, ¬Lists entry (Path.suffix path)) ∧
    (∀ other otherPath, List.Forall₂ Respelled (listed settings) (listed other) →
      Text.CaseAlike (Path.suffix path) (Path.suffix otherPath) →
      forPath? (ofSettings other) otherPath = forPath? (ofSettings settings) path) ∧
    (∀ other before after malformed, listed settings = before ++ malformed :: after →
      listed other = before ++ after →
      (∀ values, malformed.2.get? "extensions" ≠ some (.arr values)) →
      forPath? (ofSettings settings) path = forPath? (ofSettings other) path) ∧
    (∀ command, commandFor? (ofSettings settings) path = some command ↔
      Path.suffix path ≠ "" ∧ ∃ entry, IsFirst (listed settings) (Path.suffix path) entry ∧
        ∃ text, entry.2.get? "lsp" = some (.str text) ∧ Text.strip text ≠ "" ∧
          Text.strip text = command) ∧
    (∀ command, commandFor? (ofSettings settings) path = some command →
      splitCommand command ≠ []) := by
  refine ⟨fun _ => forPath?_iff_isFirst, forPath?_eq_none_iff, ?_, ?_,
    fun _ => commandFor?_iff_isFirst, ?_⟩
  · intro other otherPath respelled alike
    rw [ofSettings_of_respelled respelled, forPath?_of_caseAlike alike]
  · intro other before after malformed split without none
    have same : ofSettings settings = ofSettings other := by
      have skipped := describedBy?_of_malformed none
      rw [ofSettings, ofSettings, ← listed, ← listed, split, without]
      simp [skipped]
    rw [same]
  · intro command served
    obtain ⟨-, entry, -, text, -, shown, rfl⟩ := commandFor?_iff_isFirst.mp served
    exact splitCommand_ne_nil shown

example :
    forPath? (ofSettings (.obj [("languages", .obj [("a", .null), ("b", .obj [("extensions",
      .arr [.str " PY"])]), ("c", .obj [("extensions", .arr [.str ".py"])])])])) "x.d/.y.pY " =
      some ⟨"b", [".py"], ""⟩ := by
  decide +kernel

/-- A list of suffixes of which one is blank. -/
def blankListed : Json :=
  .obj [("languages", .obj [("x", .obj [("extensions", .arr [.str ""]), ("lsp", .str "xls")])])]

/-- With a dot in front the blank suffix is that of a name that ends in a dot, yet the name has no
    language. -/
theorem forPath?_blankListed :
    (listed blankListed).map spellings = ([[""]] : List (List Text)) ∧
      dotted "" = dotted (Path.suffix "a.") ∧
      Path.suffix "a." ≠ "" ∧ forPath? (ofSettings blankListed) "a." = none := by
  decide +kernel

end Languages

end LanguageClient
