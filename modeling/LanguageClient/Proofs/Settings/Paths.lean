import LanguageClient.Loose.Settings
import LanguageClient.Proofs.Settings.Copying
import LanguageClient.Proofs.Settings.Unfit

/-! # Merged settings, path by path

What was set is reached by the same path in merged settings, and so is a default where nothing was
set on the way to it. Nothing else is reached. Merging the result again comes to the same, for as
long as it can be copied: the defaults below what was set may have made it too high for that.
-/

namespace LanguageClient

namespace Settings

/-! ## What is reached in merged settings -/

/-- Merged settings are made of what was set and its defaults. A name among `replaced` that was
    set shuts out the default under it. -/
structure Layers (replaced : List Text) (data defaults merged : Json) : Prop where
  /-- What was set is reached as it is, unless it is an object. -/
  kept : ∀ path value, data.follow path = some value → ¬value.isObj →
    merged.follow path = some value
  /-- A default is reached where a part of the path to it was not set at all. -/
  filled : ∀ path stem value, defaults.follow path = some value → stem <+: path →
    data.follow stem = none →
    (∀ shorter, shorter <+: stem → shorter ≠ stem →
      ∃ entries, data.follow shorter = some (.obj entries)) →
    (∀ name, path.head? = some name → name ∈ replaced → data.get? name = none) →
    merged.follow path = some value
  /-- Every path is one of what was set or of the defaults. -/
  known : ∀ path value, merged.follow path = some value →
    (data.follow path).isSome ∨ (defaults.follow path).isSome
  /-- Under a name that is taken as it is, every path is one of what was set. -/
  replacing : ∀ name path value, name ∈ replaced → (data.get? name).isSome →
    merged.follow (name :: path) = some value → (data.follow (name :: path)).isSome

variable {replaced : List Text} {data defaults merged value default : Json}

/-- A value that is no object is taken as it is. -/
theorem layers_of_not_isObj (noObject : ¬data.isObj) : Layers replaced data defaults data where
  kept _ _ followed _ := followed
  filled path stem value _ _ absent shorter _ := by
    cases stem with
    | nil => simp at absent
    | cons name stem =>
        obtain ⟨entries, isObject⟩ := shorter [] List.nil_prefix (List.cons_ne_nil name stem).symm
        obtain rfl := Option.some.inj isObject
        exact absurd rfl noObject
  known _ _ followed := .inl (by simp [followed])
  replacing _ _ _ _ _ followed := by simp [followed]

/-- What is set is missing, taken as it is, or laid over its default. -/
theorem cases_of_layered {replaces : Bool} {given default merged : Option Json}
    (isMerged : merged = layered replaces given default) :
    (given = none ∧ merged = default) ∨
    (∃ value, given = some value ∧ merged = some value ∧ (replaces = true ∨ default = none)) ∨
    (∃ value other, given = some value ∧ default = some other ∧
      merged = some (mergeValue value other) ∧ replaces = false) := by
  subst isMerged
  cases given with
  | none => exact .inl ⟨rfl, rfl⟩
  | some value =>
      cases default with
      | none => exact .inr (.inl ⟨value, rfl, rfl, .inr rfl⟩)
      | some other =>
          cases replaces with
          | true => exact .inr (.inl ⟨value, rfl, rfl, .inl rfl⟩)
          | false => exact .inr (.inr ⟨value, other, rfl, rfl, rfl, rfl⟩)

/-- One level: each name stands for what `layered` makes of it, and the same holds below where a
    value is laid over its default. -/
theorem layers_of_get? (isObject : data.isObj)
    (names : ∀ name, merged.get? name =
      layered (replaced.contains name) (data.get? name) (defaults.get? name))
    (parts : ∀ name value default, data.get? name = some value →
      defaults.get? name = some default → Layers [] value default (mergeValue value default)) :
    Layers replaced data defaults merged where
  kept path value followed noObject := by
    cases path with
    | nil =>
        obtain rfl := Option.some.inj followed
        exact absurd isObject noObject
    | cons name path =>
        rcases cases_of_layered (names name) with
          ⟨absent, _⟩ | ⟨part, given, same, _⟩ | ⟨part, default, given, isDefault, laid, _⟩
        · simp [absent] at followed
        · simpa [given, same] using followed
        · have below := (parts name part default given isDefault).kept path value
          simpa [laid] using below (by simpa [given] using followed) noObject
  filled path stem value followed isStem absent shorter unreplaced := by
    obtain ⟨behind, rfl⟩ := isStem
    cases stem with
    | nil => simp at absent
    | cons name stem =>
        rw [List.cons_append] at followed ⊢
        rcases cases_of_layered (names name) with
          ⟨_, same⟩ | ⟨part, given, _, replaces | missing⟩ |
          ⟨part, default, given, isDefault, laid, _⟩
        · rw [Json.follow, same]
          exact followed
        · simp [unreplaced name rfl (by simpa using replaces)] at given
        · simp [missing] at followed
        · have below := (parts name part default given isDefault).filled (stem ++ behind) stem value
          rw [Json.follow_cons_of_some laid]
          refine below (by simpa [isDefault] using followed) (List.prefix_append stem behind)
            (by simpa [given] using absent) ?_ (by simp)
          intro front isFront different
          obtain ⟨entries, isEntries⟩ := shorter (name :: front)
            (List.cons_prefix_cons.mpr ⟨rfl, isFront⟩) (by simpa using different)
          exact ⟨entries, by simpa [given] using isEntries⟩
  known path value followed := by
    cases path with
    | nil => exact .inl rfl
    | cons name path =>
        rcases cases_of_layered (names name) with
          ⟨_, same⟩ | ⟨part, given, same, _⟩ | ⟨part, default, given, isDefault, laid, _⟩
        · rw [Json.follow, same] at followed
          exact .inr (Option.isSome_of_eq_some followed)
        · exact .inl (by simpa [given, same] using Option.isSome_of_eq_some followed)
        · have below := (parts name part default given isDefault).known path value
          simpa [given, isDefault] using below (by simpa [laid] using followed)
  replacing name path value isReplaced given followed := by
    rcases cases_of_layered (names name) with
      ⟨absent, _⟩ | ⟨part, given, same, _⟩ | ⟨_, _, _, _, _, unreplaced⟩
    · simp [absent] at given
    · simpa [given, same] using Option.isSome_of_eq_some followed
    · simp [isReplaced] at unreplaced

theorem mergeValue_of_not_isObj (noObject : ¬value.isObj) : mergeValue value default = value := by
  cases value with
  | obj entries => exact absurd rfl noObject
  | _ => rw [mergeValue.eq_def]

/-- What stands under a name of a value that was laid over its default. -/
theorem get?_mergeValue (isObject : value.isObj) (unrepeated : default.Unrepeated) (name : Text) :
    (mergeValue value default).get? name =
      layered false (value.get? name) (default.get? name) := by
  obtain ⟨entries, rfl⟩ := Json.exists_entries isObject
  cases default with
  | obj defaults =>
      rw [mergeValue]
      exact get?_mergeEntries unrepeated.once name
  | _ =>
      have none : layered false (Table.get? entries name) none = Table.get? entries name := by
        cases Table.get? entries name <;> rfl
      exact none.symm

theorem layers_mergeValue (unrepeated : default.Unrepeated) (value : Json) :
    Layers [] value default (mergeValue value default) := by
  induction default using Json.part_induction generalizing value with
  | step default ih =>
      by_cases isObject : value.isObj
      · refine layers_of_get? isObject (get?_mergeValue isObject unrepeated) ?_
        intro name part other given isDefault
        exact ih name other isDefault (unrepeated.below isDefault) part
      · rw [mergeValue_of_not_isObj isObject]
        exact layers_of_not_isObj isObject

theorem layers_merge {data defaults : Json.Entries} (unrepeated : (Json.obj defaults).Unrepeated)
    (replaced : List Text) :
    Layers replaced (.obj data) (.obj defaults) (.obj (merge data defaults replaced)) := by
  refine layers_of_get? rfl (get?_merge unrepeated.once) ?_
  intro name value default given isDefault
  exact layers_mergeValue (unrepeated.below isDefault) value

/-! ## Merging again -/

/-- Nothing of a default is missing in a value: laid over it the value stays as it is, and no more
    levels are gone down than it has. -/
structure Covers (value default : Json) : Prop where
  settled : mergeValue value default = value
  calls : missingCalls value default ≤ copyCalls value

theorem merge_eq_self {settings defaults : Json.Entries}
    (covered : ∀ entry ∈ defaults, ∃ value, Table.get? settings entry.1 = some value ∧
      (entry.1 ∈ replaced ∨ Covers value entry.2)) :
    merge settings defaults replaced = settings := by
  induction defaults with
  | nil => rfl
  | cons default rest ih =>
      obtain ⟨⟨value, given, stays⟩, later⟩ := List.forall_mem_cons.mp covered
      have same : mergeDefault replaced settings default = settings := by
        rcases stays with replaces | covers
        · simp [mergeDefault, given, replaces]
        · simp [mergeDefault, given, covers.settled, Table.put_of_get? given]
      rw [merge, List.foldl_cons, same]
      exact ih later

theorem missingCallsIn_le {entries defaults : Json.Entries}
    (covered : ∀ entry ∈ defaults, ∃ value, Table.get? entries entry.1 = some value ∧
      Covers value entry.2) :
    missingCallsIn entries defaults ≤ copyCallsOfEntries entries := by
  induction defaults with
  | nil => exact Nat.zero_le _
  | cons default rest ih =>
      obtain ⟨⟨value, given, covers⟩, later⟩ := List.forall_mem_cons.mp covered
      have low := copyCalls_le_of_get? given
      have calls := covers.calls
      have behind := ih later
      simp only [missingCallsIn, given]
      omega

theorem covers_obj {entries defaults : Json.Entries}
    (covered : ∀ entry ∈ defaults, ∃ value, Table.get? entries entry.1 = some value ∧
      Covers value entry.2) : Covers (.obj entries) (.obj defaults) where
  settled := by
    have same : merge entries defaults [] = entries := merge_eq_self fun entry member => by
      obtain ⟨value, given, covers⟩ := covered entry member
      exact ⟨value, given, .inr covers⟩
    rw [mergeValue, ← merge_nil, same]
  calls := by
    have calls := missingCallsIn_le covered
    simp only [missingCalls, copyCalls]
    omega

theorem covers_of_not_isObj {value default : Json} (noObjects : ¬(value.isObj ∧ default.isObj)) :
    Covers value default := by
  cases value with
  | obj entries =>
      cases default with
      | obj defaults => exact absurd ⟨rfl, rfl⟩ noObjects
      | _ => exact ⟨rfl, Nat.zero_le _⟩
  | _ => exact ⟨by rw [mergeValue.eq_def], by rw [missingCalls.eq_def]; exact Nat.zero_le _⟩

/-- What stands under a name of a value that was laid over its default, or of one that is missing
    and comes from the default. -/
theorem get?_of_layered {given : Option Json} (isObject : value.isObj)
    (unrepeated : default.Unrepeated) (laid : some value = layered false given (some default))
    (name : Text) :
    value.get? name = layered false (given.bind (·.get? name)) (default.get? name) := by
  cases given with
  | none =>
      obtain rfl := Option.some.inj laid
      rfl
  | some set =>
      obtain rfl := Option.some.inj laid
      by_cases isSet : set.isObj
      · exact get?_mergeValue isSet unrepeated name
      · rw [if_neg Bool.false_ne_true, mergeValue_of_not_isObj isSet] at isObject
        exact absurd isObject isSet

theorem layered_default (replaces : Bool) (given : Option Json) (default : Json) :
    ∃ value, layered replaces given (some default) = some value := by
  cases given <;> exact ⟨_, rfl⟩

/-- What was laid over a default, or comes from it because it was missing, covers it. -/
theorem covers_of_layered (unrepeated : default.Unrepeated) {given : Option Json}
    (laid : some value = layered false given (some default)) : Covers value default := by
  induction default using Json.part_induction generalizing given value with
  | step default ih =>
      by_cases objects : value.isObj ∧ default.isObj
      · have names := get?_of_layered objects.1 unrepeated laid
        obtain ⟨entries, rfl⟩ := Json.exists_entries objects.1
        obtain ⟨defaults, rfl⟩ := Json.exists_entries objects.2
        apply covers_obj
        rintro ⟨name, other⟩ member
        have isDefault := unrepeated.get?_of_mem member
        have here := names name
        rw [isDefault] at here
        obtain ⟨part, isPart⟩ := layered_default false (given.bind (·.get? name)) other
        exact ⟨part, here.trans isPart,
          ih name other isDefault (unrepeated.below isDefault) isPart.symm⟩
      · exact covers_of_not_isObj objects

/-- Each default is covered in merged settings, unless its name is taken as it is. -/
theorem covered_merge {data defaults : Json.Entries} (unrepeated : (Json.obj defaults).Unrepeated)
    (replaced : List Text) :
    ∀ entry ∈ defaults, ∃ value, Table.get? (merge data defaults replaced) entry.1 = some value ∧
      (entry.1 ∈ replaced ∨ Covers value entry.2) := by
  rintro ⟨name, default⟩ member
  have isDefault := unrepeated.get?_of_mem member
  have here := @get?_merge _ _ _ replaced data _ unrepeated.once name
  rw [show Table.get? defaults name = some default from isDefault] at here
  obtain ⟨value, isValue⟩ := layered_default (replaced.contains name) (Table.get? data name) default
  refine ⟨value, here.trans isValue, ?_⟩
  by_cases replaces : name ∈ replaced
  · exact .inl replaces
  · have merges : replaced.contains name = false := by simpa using replaces
    rw [merges] at isValue
    exact .inr (covers_of_layered (unrepeated.below isDefault) isValue.symm)

theorem merge_merge {data defaults : Json.Entries} (unrepeated : (Json.obj defaults).Unrepeated)
    (replaced : List Text) :
    merge (merge data defaults replaced) defaults replaced = merge data defaults replaced :=
  merge_eq_self (covered_merge unrepeated replaced)

/-! ## What cannot be copied -/

section

variable [Limits]

/-- Where everything is covered, no more is copied than is there. -/
theorem copiesDefault_of_covered {settings defaults : Json.Entries}
    (covered : ∀ entry ∈ defaults, ∃ value, Table.get? settings entry.1 = some value ∧
      (entry.1 ∈ replaced ∨ Covers value entry.2))
    (low : copyCalls (.obj settings) ≤ Limits.copying) :
    defaults.all (copiesDefault replaced settings) = true := by
  rw [List.all_eq_true]
  intro entry member
  obtain ⟨value, given, stays⟩ := covered entry member
  have lower := copyCalls_le_of_get? given
  rw [copyCalls] at low
  simp only [copiesDefault, given, Bool.or_eq_true, decide_eq_true_eq]
  rcases stays with replaces | covers
  · exact .inl (by simpa using replaces)
  · have calls := covers.calls
    exact .inr (by omega)

end

/-! ## Loose values -/

theorem str_beq_str (text other : Text) : (Json.str text == Json.str other) = (text == other) :=
  rfl

theorem get?_ofEntries (entries : Json.Entries) (name : Text) :
    Table.get? (ofEntries entries) (.str name) = Table.get? entries name := by
  induction entries with
  | nil => rfl
  | cons entry rest ih =>
      obtain ⟨other, value⟩ := entry
      simp only [Table.get?, ofEntries, List.map_cons, List.lookup_cons, str_beq_str] at ih ⊢
      rw [ih]

theorem put_ofEntries (entries : Json.Entries) (name : Text) (value : Json) :
    Table.put (ofEntries entries) (.str name) value = ofEntries (Table.put entries name value) := by
  induction entries with
  | nil => rfl
  | cons entry rest ih =>
      obtain ⟨other, old⟩ := entry
      simp only [ofEntries, List.map_cons, Table.put, str_beq_str] at ih ⊢
      by_cases same : (other == name) = true
      · simp only [same, ↓reduceIte, List.map_cons]
      · simp only [same, Bool.false_eq_true, ↓reduceIte, List.map_cons, ih]

theorem contains_str (names : List Text) (name : Text) :
    (names.map Json.str).contains (.str name) = names.contains name := by
  simp only [List.contains_eq_any_beq, List.any_map, Function.comp_def, str_beq_str]

theorem mergeDefault_ofEntries (replaced : List Text) (settings : Json.Entries)
    (default : Text × Json) :
    mergeDefault (replaced.map .str) (ofEntries settings) (.str default.1, default.2) =
      ofEntries (mergeDefault replaced settings default) := by
  simp only [mergeDefault, get?_ofEntries, put_ofEntries, contains_str]
  split
  · rfl
  · split <;> rfl

theorem merge_ofEntries (settings defaults : Json.Entries) (replaced : List Text) :
    merge (ofEntries settings) (ofEntries defaults) (replaced.map .str) =
      ofEntries (merge settings defaults replaced) := by
  induction defaults generalizing settings with
  | nil => rfl
  | cons default rest ih =>
      have first := mergeDefault_ofEntries replaced settings default
      simp only [merge, ofEntries, List.map_cons, List.foldl_cons] at first ih ⊢
      rw [first, ih]

section

variable [Limits]

theorem copiesDefault_ofEntries (replaced : List Text) (settings : Json.Entries)
    (default : Text × Json) :
    copiesDefault (replaced.map .str) (ofEntries settings) (.str default.1, default.2) =
      copiesDefault replaced settings default := by
  simp only [copiesDefault, get?_ofEntries, contains_str]

theorem copied_ofEntries (entries : Json.Entries) :
    copied (ofEntries entries) =
      if copyCalls (.obj entries) ≤ Limits.copying then .ok (ofEntries entries)
      else .error .copiedTooDeep := by
  rw [copied, ofEntries, List.foldr_map, foldr_copyCalls, copyCalls]

/-- Objects are merged if there is room to copy what is set, and what is missing in it. -/
theorem mergeSettings_eq (data defaults : Json.Entries) (replaced : List Text) :
    Loose.mergeSettings (.obj data) (.obj defaults) (.arr (replaced.map .str)) =
      if copyCalls (.obj data) ≤ Limits.copying ∧
          defaults.all (copiesDefault replaced data) = true then
        .ok (ofEntries (merge data defaults replaced))
      else .error .copiedTooDeep := by
  have checked : Loose.checkNames (replaced.map .str) = .ok () := by
    have usable : (replaced.map Json.str).findSome? Loose.refusal? = none := by
      simp [List.findSome?_eq_none_iff, Loose.refusal?]
    rw [Loose.checkNames, usable]
  have copies : (ofEntries defaults).all (copiesDefault (replaced.map .str) (ofEntries data)) =
      defaults.all (copiesDefault replaced data) := by
    rw [ofEntries.eq_1 defaults, List.all_map]
    exact List.all_congr rfl fun default => copiesDefault_ofEntries replaced data default
  simp only [Loose.mergeSettings, Loose.itemsOf, checked, tableOf, copied_ofEntries, bind,
    Except.bind]
  by_cases low : copyCalls (.obj data) ≤ Limits.copying
  · simp only [low, ↓reduceIte, true_and, layOver, copies, merge_ofEntries]
  · simp only [low, ↓reduceIte, false_and]

/-- Settings and defaults that there is room to copy are merged by the rules of `Layers`, whatever
    they hold, and refused are only those that are nested too deep for it. Merging the result again
    gives it back, unless it has become too deep itself. -/
theorem mergeSettings_layers_or_tooHigh {data defaults : Json.Entries}
    (unrepeated : (Json.obj defaults).Unrepeated) (replaced : List Text) :
    ((Limits.copying < copyCalls (.obj data) ∨ Limits.copying < copyCalls (.obj defaults)) ∧
      Loose.mergeSettings (.obj data) (.obj defaults) (.arr (replaced.map .str)) =
        .error .copiedTooDeep) ∨
    ∃ merged,
      Loose.mergeSettings (.obj data) (.obj defaults) (.arr (replaced.map .str)) =
        .ok (ofEntries merged) ∧
      Layers replaced (.obj data) (.obj defaults) (.obj merged) ∧
      Loose.mergeSettings (.obj merged) (.obj defaults) (.arr (replaced.map .str)) =
        if copyCalls (.obj merged) ≤ Limits.copying then .ok (ofEntries merged)
        else .error .copiedTooDeep := by
  rw [mergeSettings_eq data]
  split
  · refine .inr ⟨merge data defaults replaced, rfl, layers_merge unrepeated replaced, ?_⟩
    rw [mergeSettings_eq, merge_merge unrepeated]
    by_cases low : copyCalls (.obj (merge data defaults replaced)) ≤ Limits.copying
    · have copies := copiesDefault_of_covered (covered_merge unrepeated replaced) low
      rw [if_pos ⟨low, copies⟩, if_pos low]
    · rw [if_neg (fun both => low both.1), if_neg low]
  · next high =>
    refine .inl ⟨?_, rfl⟩
    by_contra low
    rw [not_or, Nat.not_lt, Nat.not_lt] at low
    exact high ⟨low.1, copiesDefault_of_low unrepeated low.2⟩

end

open scoped Limits.Usual

/-- Settings that set an object where a default is none and the other way round, on two levels. -/
def clashing : Json.Entries :=
  [("languages", .obj [("c", .obj [("lsp", .str "clangd")])]),
    ("lsp", .obj [("trace", .obj [("level", .int 2)]), ("timeout", .int 5)]),
    ("theme", .str "dark")]

def clashed : Json.Entries :=
  [("languages", .obj [("python", .null)]),
    ("lsp", .obj [("trace", .int 0), ("timeout", .obj [("ms", .int 1)]), ("delay", .int 3)]),
    ("theme", .obj [("name", .str "light")]),
    ("tabs", .bool true)]

theorem mergeSettings_clashing :
    (Json.obj clashed).Unrepeated ∧ ∃ merged,
      Loose.mergeSettings (.obj clashing) (.obj clashed) (.arr [.str "languages"]) =
        .ok (ofEntries merged) ∧
      Layers ["languages"] (.obj clashing) (.obj clashed) (.obj merged) ∧
      Loose.mergeSettings (.obj merged) (.obj clashed) (.arr [.str "languages"]) =
        .ok (ofEntries merged) := by
  have unrepeated : (Json.obj clashed).Unrepeated := by
    refine Json.unrepeated_obj (by decide) ?_
    simp only [clashed, List.forall_mem_cons]
    refine ⟨Json.unrepeated_of_flat (by decide) (by decide), ?_,
      Json.unrepeated_of_flat (by decide) (by decide),
      Json.unrepeated_of_not_isObj (by decide), by simp⟩
    refine Json.unrepeated_obj (by decide) ?_
    simp only [List.forall_mem_cons]
    exact ⟨Json.unrepeated_of_not_isObj (by decide),
      Json.unrepeated_of_flat (by decide) (by decide),
      Json.unrepeated_of_not_isObj (by decide), by simp⟩
  refine ⟨unrepeated, ?_⟩
  have laws := @mergeSettings_layers_or_tooHigh _ clashing clashed unrepeated ["languages"]
  rcases laws with ⟨high, _⟩ | ⟨merged, isMerged, layers, again⟩
  · exact absurd high (by decide)
  · refine ⟨merged, isMerged, layers, again.trans (if_pos ?_)⟩
    have first : Loose.mergeSettings (.obj clashing) (.obj clashed) (.arr [.str "languages"]) =
        .ok (ofEntries (merge clashing clashed ["languages"])) := rfl
    have same := congrArg named (Except.ok.inj (isMerged.symm.trans first))
    rw [named_ofEntries, named_ofEntries] at same
    rw [same]
    decide

/-- Objects in one another, to a depth, around a value. -/
def nested : Nat → Json → Json
  | 0, value => value
  | depth + 1, value => .obj [("a", nested depth value)]

theorem mergeValue_nested (depth : Nat) (value default : Json) :
    mergeValue (nested depth value) (nested depth default) =
      nested depth (mergeValue value default) := by
  induction depth with
  | zero => rfl
  | succ depth ih => simp [nested, mergeValue, mergeEntries, Table.get?, Table.put, ih]

theorem missingCalls_nested (depth : Nat) (value default : Json) :
    missingCalls (nested depth value) (nested depth default) =
      depth + missingCalls value default := by
  induction depth with
  | zero => exact (Nat.zero_add _).symm
  | succ depth ih =>
      simp [nested, missingCalls, missingCallsIn, Table.get?, ih]
      omega

theorem two_le_copyCalls (value : Json) : 2 ≤ copyCalls value := by
  cases value <;> simp [copyCalls]

theorem copyCalls_nested (depth : Nat) (value : Json) :
    copyCalls (nested depth value) = 2 * depth + copyCalls value := by
  have positive := two_le_copyCalls value
  induction depth with
  | zero => exact (Nat.zero_add _).symm
  | succ depth ih =>
      simp [nested, copyCalls, copyCallsOfEntries, ih]
      omega

/-- Settings to which a default is added that is low enough by itself, but stands far down. -/
def outgrown : Json.Entries :=
  [("a", nested 200 (.obj [("b", nested 320 .null)]))]

/-- They are merged, but what comes of it is nested too deep to be merged again. -/
theorem mergeSettings_outgrown :
    Loose.mergeSettings (.obj [("a", nested 200 (.obj []))]) (.obj outgrown) (.arr []) =
        .ok (ofEntries outgrown) ∧
      Loose.mergeSettings (.obj outgrown) (.obj outgrown) (.arr []) = .error .copiedTooDeep := by
  have deep : ¬copyCalls (.obj outgrown) ≤ Limits.copying := by
    simp [outgrown, copyCalls, copyCallsOfEntries, copyCalls_nested, Limits.copying]
  have low : copyCalls (.obj [("a", nested 200 (.obj []))]) ≤ Limits.copying := by
    simp [copyCalls, copyCallsOfEntries, copyCalls_nested, Limits.copying]
  have copies : outgrown.all (copiesDefault [] [("a", nested 200 (.obj []))]) = true := by
    simp [outgrown, copiesDefault, Table.get?, missingCalls_nested, missingCalls, missingCallsIn,
      copyCalls_nested, copyCalls, Limits.copying]
  have merged : merge ([("a", nested 200 (.obj []))] : Json.Entries) outgrown [] = outgrown := by
    simp [outgrown, merge_nil, mergeEntries, Table.get?, Table.put, mergeValue_nested, mergeValue]
  constructor
  · exact (mergeSettings_eq _ _ []).trans ((if_pos ⟨low, copies⟩).trans (by rw [merged]))
  · exact (mergeSettings_eq _ _ []).trans (if_neg fun both => deep both.1)

end Settings

end LanguageClient
