import LanguageClient.Proofs.Settings.Merge
import LanguageClient.Proofs.Settings.Timings
import LanguageClient.Settings.Defaults
import LanguageClient.Settings.Tables

/-! # Settings that no session can take

The settings of a session may be given as an object or as a list of pairs. Any other value that
counts as something is refused, and so is a timing beyond all bounds, however it is set.
-/

namespace LanguageClient

/-! ## Texts among values -/

theorem Json.beq_str_iff {value : Json} {text : Text} :
    (value == .str text) = true ↔ value = .str text := by
  have scalar : (value == .str text) = value.sameScalar (.str text) := by
    cases value <;> rfl
  rw [scalar]
  cases value with
  | float number => cases whole : number.toInt? <;> simp [sameScalar, wholeNumber?, whole]
  | _ => simp [sameScalar, wholeNumber?]

theorem Json.str_beq_iff {value : Json} {text : Text} :
    (Json.str text == value) = true ↔ value = .str text := by
  have scalar : (Json.str text == value) = (Json.str text).sameScalar value := by
    cases value <;> rfl
  rw [scalar]
  cases value with
  | float number => cases whole : number.toInt? <;> simp [sameScalar, wholeNumber?, whole]
  | str other =>
      have texts : (Json.str text).sameScalar (.str other) = (text == other) := rfl
      rw [texts, beq_iff_eq, Json.str.injEq]
      exact eq_comm
  | _ => simp [sameScalar, wholeNumber?]

namespace Settings

theorem named_cons_str (name : Text) (value : Json) (table : Table Json Json) :
    named ((.str name, value) :: table) = (name, value) :: named table := rfl

theorem named_cons_of_nameless {key : Json} (nameless : ∀ name, key ≠ .str name) (value : Json)
    (table : Table Json Json) : named ((key, value) :: table) = named table := by
  cases key with
  | str name => exact absurd rfl (nameless name)
  | _ => rfl

/-- Of a name that is no text nothing shows among the names that are. -/
theorem named_put_of_nameless (table : Table Json Json) {key : Json}
    (nameless : ∀ name, key ≠ .str name) (value : Json) :
    named (Table.put table key value) = named table := by
  induction table with
  | nil => exact named_cons_of_nameless nameless value []
  | cons entry rest ih =>
      obtain ⟨other, old⟩ := entry
      rw [Table.put]
      split
      · next same =>
        have nameless' (name : Text) : other ≠ .str name := by
          rintro rfl
          exact nameless name (Json.str_beq_iff.mp same)
        rw [named_cons_of_nameless nameless', named_cons_of_nameless nameless']
      · cases other with
        | str name => rw [named_cons_str, named_cons_str, ih]
        | _ => exact ih

theorem named_put_str (table : Table Json Json) (name : Text) (value : Json) :
    named (Table.put table (.str name) value) = Table.put (named table) name value := by
  induction table with
  | nil => rfl
  | cons entry rest ih =>
      obtain ⟨other, old⟩ := entry
      rw [Table.put]
      split
      · next same =>
        obtain rfl := Json.beq_str_iff.mp same
        rw [named_cons_str, named_cons_str, Table.put, if_pos (beq_self_eq_true name)]
      · next different =>
        cases other with
        | str first =>
            have unlike : ¬(first == name) = true := by
              intro same
              exact different (Json.beq_str_iff.mpr (congrArg Json.str (eq_of_beq same)))
            rw [named_cons_str, named_cons_str, Table.put, if_neg unlike, ih]
        | _ => exact ih

theorem get?_named_put (table : Table Json Json) (key value : Json) {name : Text} {part : Json} :
    Table.get? (named (Table.put table key value)) name = some part ↔
      (key = .str name ∧ value = part) ∨
        (key ≠ .str name ∧ Table.get? (named table) name = some part) := by
  cases key with
  | str text =>
      rw [named_put_str, Json.str.injEq]
      by_cases same : text = name
      · subst same
        simp [Table.get?_put_self]
      · simp [Table.get?_put_of_ne (Ne.symm same), same]
  | _ =>
      rw [named_put_of_nameless]
      · simp
      · rintro name same
        cases same

/-! ## Pairs -/

/-- An item of a list of settings gives a value under a name: it is an array or a text of two
    parts, or an object of two entries, whose names are then name and value. -/
inductive Gives : Json → Json → Json → Prop where
  | array {name part : Json} (noArray : ∀ items, name ≠ .arr items)
      (noObject : ∀ entries, name ≠ .obj entries) : Gives (.arr [name, part]) name part
  | text {text : Text} {name part : CodePoint} (two : text.toList = [name, part]) :
      Gives (.str text) (.str (Text.singleton name)) (.str (Text.singleton part))
  | object {name part : Text} {first second : Json} :
      Gives (.obj [(name, first), (part, second)]) (.str name) (.str part)

theorem gives_of_pairOf {index : Nat} {item name part : Json}
    (paired : pairOf index item = .ok (name, part)) : Gives item name part := by
  unfold pairOf at paired
  split at paired
  · split at paired
    · cases paired
    · cases paired
    · next noArray noObject =>
      cases paired
      exact .array noArray noObject
  · cases paired
  · split at paired
    · next two =>
      cases paired
      exact .text two
    · cases paired
  · cases paired
    exact .object
  · cases paired
  · cases paired

theorem Gives.pairOf {item name part : Json} (gives : Gives item name part) (index : Nat) :
    pairOf index item = .ok (name, part) := by
  cases gives with
  | array noArray noObject =>
      unfold Settings.pairOf
      dsimp only
      split
      · next items => exact absurd rfl (noArray items)
      · next entries => exact absurd rfl (noObject entries)
      · rfl
  | text two => simp only [Settings.pairOf, two]
  | object => rfl

/-- The last item that gives a value under a name gives this one. -/
def LastGives (items : List Json) (name : Text) (part : Json) : Prop :=
  ∃ before item after, items = before ++ item :: after ∧ Gives item (.str name) part ∧
    ∀ later ∈ after, ∀ other, ¬Gives later (.str name) other

theorem lastGives_cons {item : Json} {rest : List Json} {name : Text} {part : Json} :
    LastGives (item :: rest) name part ↔
      LastGives rest name part ∨
        (Gives item (.str name) part ∧
          ∀ later ∈ rest, ∀ other, ¬Gives later (.str name) other) := by
  constructor
  · rintro ⟨before, last, after, split, gives, none⟩
    cases before with
    | nil =>
        obtain ⟨rfl, rfl⟩ := List.cons.inj split
        exact .inr ⟨gives, none⟩
    | cons first before =>
        obtain ⟨rfl, rfl⟩ := List.cons.inj split
        exact .inl ⟨before, last, after, rfl, gives, none⟩
  · rintro (⟨before, last, after, rfl, gives, none⟩ | ⟨gives, none⟩)
    · exact ⟨item :: before, last, after, rfl, gives, none⟩
    · exact ⟨[], item, rest, rfl, gives, none⟩

/-- A list is refused if one of its items is no pair. -/
theorem addPairs_ok_iff {index : Nat} {table : Table Json Json} {items : List Json} :
    (∃ after, addPairs index table items = .ok after) ↔
      ∀ item ∈ items, ∃ name part, Gives item name part := by
  induction items generalizing index table with
  | nil => exact ⟨nofun, fun _ => ⟨table, rfl⟩⟩
  | cons item rest ih =>
      rw [List.forall_mem_cons]
      unfold addPairs
      cases paired : pairOf index item with
      | error fault =>
          refine ⟨nofun, ?_⟩
          rintro ⟨⟨name, part, gives⟩, _⟩
          rw [gives.pairOf] at paired
          cases paired
      | ok pair =>
          obtain ⟨name, part⟩ := pair
          dsimp only
          rw [ih, and_iff_right ⟨name, part, gives_of_pairOf paired⟩]

/-- Under a name that is a text a list leaves what its last item of that name gives, or what was
    there before. -/
theorem get?_of_addPairs {index : Nat} {table after : Table Json Json} {items : List Json}
    (added : addPairs index table items = .ok after) {name : Text} {part : Json} :
    Table.get? (named after) name = some part ↔
      LastGives items name part ∨
        ((∀ item ∈ items, ∀ other, ¬Gives item (.str name) other) ∧
          Table.get? (named table) name = some part) := by
  induction items generalizing index table with
  | nil =>
      obtain rfl := Except.ok.inj added
      have nothing : ¬LastGives [] name part := by
        rintro ⟨before, item, rest, split, _⟩
        exact absurd split (by simp)
      rw [or_iff_right nothing, and_iff_right nofun]
  | cons item rest ih =>
      unfold addPairs at added
      split at added
      · cases added
      · next key value paired =>
        have gives := gives_of_pairOf paired
        have given {name part : Json} : Gives item name part ↔ key = name ∧ value = part := by
          constructor
          · intro other
            exact Prod.mk.inj (Except.ok.inj (paired.symm.trans (other.pairOf index)))
          · rintro ⟨rfl, rfl⟩
            exact gives
        rw [ih added, lastGives_cons, List.forall_mem_cons, get?_named_put]
        simp only [given]
        by_cases isName : key = .str name
        · simp [isName, and_comm]
        · simp [isName]

/-! ## Values that hold settings -/

/-- A value holds no settings though it counts as something: it is no object, and no list of
    pairs. -/
def Shapeless (value : Json) : Prop :=
  value.isTruthy = true ∧ value.isObj = false ∧
    ∀ items, value = .arr items → ∃ item ∈ items, ∀ name part, ¬Gives item name part

/-- A value sets a name: as an object, or as a list of pairs. -/
def Sets (value : Json) (name : Text) (part : Json) : Prop :=
  value.get? name = some part ∨ ∃ items, value = .arr items ∧ LastGives items name part

theorem named_ofEntries (entries : Json.Entries) : named (ofEntries entries) = entries := by
  induction entries with
  | nil => rfl
  | cons entry rest ih =>
      obtain ⟨name, value⟩ := entry
      rw [ofEntries, List.map_cons, named_cons_str, ← ofEntries, ih]

theorem entriesIn_obj (entries : Json.Entries) : entriesIn (.obj entries) = .ok entries := by
  cases entries with
  | nil => rfl
  | cons entry rest =>
      have truthy : (Json.obj (entry :: rest)).isTruthy = true := rfl
      rw [entriesIn, if_pos truthy, tableOf]
      exact congrArg Except.ok (named_ofEntries _)

theorem entriesIn_arr (items : List Json) :
    entriesIn (.arr items) = (addPairs 0 [] items).map named := by
  cases items with
  | nil => rfl
  | cons item rest => exact if_pos rfl

/-- What reading settings out of a value comes to: one without a shape is refused, the entries of
    any other one are what it sets. -/
inductive ReadsAs (value : Json) : Except Fault Json.Entries → Prop where
  | refused {fault : Fault} (shapeless : Shapeless value) : ReadsAs value (.error fault)
  | read {entries : Json.Entries} (shaped : ¬Shapeless value)
      (sets : ∀ name part, Table.get? entries name = some part ↔ Sets value name part) :
      ReadsAs value (.ok entries)

theorem readsAs_obj (entries : Json.Entries) : ReadsAs (.obj entries) (.ok entries) := by
  refine .read ?_ ?_
  · rintro ⟨_, noObject, _⟩
    cases noObject
  · intro name part
    refine ⟨.inl, ?_⟩
    rintro (found | ⟨items, isArray, _⟩)
    · exact found
    · cases isArray

theorem readsAs_arr (items : List Json) :
    ReadsAs (.arr items) ((addPairs 0 [] items).map named) := by
  cases added : addPairs 0 [] items with
  | error fault =>
      have unpaired : ¬∀ item ∈ items, ∃ name part, Gives item name part := by
        intro paired
        obtain ⟨after, through⟩ := addPairs_ok_iff.mpr paired
        rw [added] at through
        cases through
      push Not at unpaired
      refine .refused ⟨?_, rfl, ?_⟩
      · cases items with
        | nil => cases added
        | cons => rfl
      · intro others same
        cases same
        exact unpaired
  | ok after =>
      have paired := addPairs_ok_iff.mp ⟨after, added⟩
      refine .read ?_ ?_
      · rintro ⟨_, _, unpaired⟩
        obtain ⟨item, member, none⟩ := unpaired items rfl
        obtain ⟨name, part, gives⟩ := paired item member
        exact none name part gives
      · intro name part
        rw [get?_of_addPairs added]
        constructor
        · rintro (gives | ⟨_, found⟩)
          · exact .inr ⟨items, rfl, gives⟩
          · cases found
        · rintro (found | ⟨others, same, gives⟩)
          · cases found
          · cases same
            exact .inl gives

/-- What is neither an object nor a list is refused where it counts as something. -/
theorem readsAs_scalar {value : Json} (noObject : value.isObj = false)
    (noArray : ∀ items, value ≠ .arr items) : ReadsAs value (entriesIn value) := by
  unfold entriesIn
  cases truthy : value.isTruthy with
  | true =>
      have shapeless : Shapeless value :=
        ⟨truthy, noObject, fun items same => absurd same (noArray items)⟩
      rw [if_pos rfl]
      cases value with
      | obj => cases noObject
      | arr items => exact absurd rfl (noArray items)
      | str text =>
          have some : ¬text.isEmpty = true := by simpa [Json.isTruthy] using truthy
          rw [tableOf, if_neg some]
          exact .refused shapeless
      | _ => exact .refused shapeless
  | false =>
      refine .read (fun shapeless => ?_) (fun name part => ⟨fun found => ?_, ?_⟩)
      · cases truthy.symm.trans shapeless.1
      · cases found
      · rintro (found | ⟨items, same, _⟩)
        · cases value with
          | obj => cases noObject
          | _ => cases found
        · exact absurd same (noArray items)

theorem readsAs_entriesIn (value : Json) : ReadsAs value (entriesIn value) := by
  cases value with
  | obj entries =>
      rw [entriesIn_obj]
      exact readsAs_obj entries
  | arr items =>
      rw [entriesIn_arr]
      exact readsAs_arr items
  | _ => exact readsAs_scalar rfl (fun items same => by cases same)

/-- The settings of a session in a value that is set for them. -/
def sessionIn (value : Json) : Except Fault SessionSettings := do
  let table ← entriesIn value
  SessionSettings.ofJson (.obj table)

/-- A value that no session can take: one without a shape, or one that sets a timing beyond all
    bounds. -/
def Unfit (value : Json) : Prop :=
  Shapeless value ∨
    ∃ rule ∈ SessionSettings.timings, ∃ part, Sets value rule.name part ∧ part.isInfinite = true

theorem sessionIn_refused_iff {value : Json} :
    (∃ fault, sessionIn value = .error fault) ↔ Unfit value := by
  have reads := readsAs_entriesIn value
  unfold sessionIn
  generalize entriesIn value = read at reads ⊢
  cases reads with
  | refused shapeless => exact ⟨fun _ => .inl shapeless, fun _ => ⟨_, rfl⟩⟩
  | @read entries shaped sets =>
      have opened : (Except.ok entries >>= fun table => SessionSettings.ofJson (.obj table)) =
          SessionSettings.ofJson (.obj entries) := rfl
      rw [opened, Unfit, or_iff_right shaped, SessionSettings.ofJson_refused_iff]
      simp only [TimingRule.isEndlessIn, Option.any_eq_true, ← sets]
      rfl

end Settings

end LanguageClient
