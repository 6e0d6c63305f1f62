import LanguageClient.CommandLine.Arguments

/-! # What arguments say

Arguments are of use where they read, from left to right, as a sequence of items: an option, an
option with the time that belongs to it, or a file. What they ask for is read off the items as a
whole: the one file that has a name, the last of the times, and whether the other option is
among them. That is all there is to reading them, and arguments that do not read so are refused.
-/

namespace LanguageClient.Arguments

/-- What stands on the command line. A time is the text of an integer, and the name of a file
    begins with no hyphen. -/
inductive Item where
  | traffic
  | wait (value : Text) (milliseconds : Int) (reads : Text.readInteger value = .ok milliseconds)
  | file (name : Text) (plain : name.toList.head? ≠ some (.scalar '-'))

namespace Item

/-- The arguments that an item takes up. -/
def spelled : Item → List Text
  | .traffic => ["--log-traffic"]
  | .wait value .. => ["--wait-ms", value]
  | .file name _ => [name]

def wait? : Item → Option Int
  | .wait _ milliseconds _ => some milliseconds
  | _ => none

def file? : Item → Option Text
  | .file name _ => some name
  | _ => none

/-- What was found so far together with an item; a file comes too late where there is one. -/
def addTo? (found : Arguments) : Item → Option Arguments
  | .traffic => some { found with logTraffic := true }
  | .wait _ milliseconds _ => some (found.setWait milliseconds)
  | .file name _ => if found.file = "" then some { found with file := name } else none

end Item

/-- Some items ask for something in all: of the files among them only the last one has a name, the
    last time counts, and no time is below zero. -/
structure AskFor (items : List Item) (asked : Arguments) : Prop where
  files : ∃ blanks, items.filterMap Item.file? = List.replicate blanks ("" : Text) ++ [asked.file]
  named : asked.file ≠ ""
  wait : asked.waitFor = ((items.filterMap Item.wait?).getLast?.map (max 0)).getD 3000
  traffic : asked.logTraffic = true ↔ Item.traffic ∈ items

/-- Some items go on from what was found before them. A file that was found before them is the
    only one. -/
structure GoOn (found : Arguments) (items : List Item) (asked : Arguments) : Prop where
  files : (found.file = "" ∧
      ∃ blanks, items.filterMap Item.file? = List.replicate blanks ("" : Text) ++ [asked.file]) ∨
    (found.file = asked.file ∧ items.filterMap Item.file? = [])
  named : asked.file ≠ ""
  wait : asked.waitFor = ((items.filterMap Item.wait?).getLast?.map (max 0)).getD found.waitFor
  traffic : asked.logTraffic = true ↔ found.logTraffic = true ∨ Item.traffic ∈ items

theorem goOn_empty_iff {items : List Item} {asked : Arguments} :
    GoOn {} items asked ↔ AskFor items asked := by
  constructor
  · rintro ⟨files | ⟨same, _⟩, named, wait, traffic⟩
    · exact ⟨files.2, named, wait, by simpa using traffic⟩
    · exact absurd same.symm named
  · rintro ⟨files, named, wait, traffic⟩
    exact ⟨.inl ⟨rfl, files⟩, named, wait, by simpa using traffic⟩

theorem goOn_nil_iff {found asked : Arguments} :
    GoOn found [] asked ↔ found.complete? = some asked := by
  have complete : found.complete? = some asked ↔ found.file ≠ "" ∧ found = asked := by
    unfold complete?
    split
    · next unnamed => simp [Text.isEmpty_iff.mp unnamed]
    · next named => simpa [Text.isEmpty_iff] using fun _ => named
  rw [complete]
  constructor
  · rintro ⟨⟨_, blanks, none⟩ | ⟨same, _⟩, named, wait, traffic⟩
    · simp at none
    · refine ⟨same ▸ named, ?_⟩
      obtain ⟨file, waitFor, logTraffic⟩ := found
      obtain ⟨file', waitFor', logTraffic'⟩ := asked
      obtain rfl : file = file' := same
      obtain rfl : waitFor' = waitFor := wait
      obtain rfl : logTraffic' = logTraffic := by simpa using traffic
      rfl
  · rintro ⟨named, rfl⟩
    exact ⟨.inr ⟨rfl, rfl⟩, named, rfl, by simp⟩

/-! ## One item -/

section

variable {found asked : Arguments} {items : List Item}

theorem goOn_traffic_iff :
    GoOn found (.traffic :: items) asked ↔ GoOn { found with logTraffic := true } items asked := by
  constructor
  · rintro ⟨files, named, wait, traffic⟩
    exact ⟨files, named, wait, by simpa using traffic⟩
  · rintro ⟨files, named, wait, traffic⟩
    exact ⟨files, named, wait, by simpa using traffic⟩

theorem goOn_wait_iff {value : Text} {milliseconds : Int}
    (reads : Text.readInteger value = .ok milliseconds) :
    GoOn found (.wait value milliseconds reads :: items) asked ↔
      GoOn (found.setWait milliseconds) items asked := by
  have last (waits : List Int) (before : Int) :
      ((milliseconds :: waits).getLast?.map (max 0)).getD before =
        (waits.getLast?.map (max 0)).getD (max 0 milliseconds) := by
    rw [List.getLast?_cons]
    cases waits.getLast? <;> rfl
  constructor
  · rintro ⟨files, named, wait, traffic⟩
    exact ⟨files, named, wait.trans (last _ _), by simpa [setWait] using traffic⟩
  · rintro ⟨files, named, wait, traffic⟩
    exact ⟨files, named, wait.trans (last _ _).symm, by simpa [setWait] using traffic⟩

/-- A blank name is passed over, and behind a name there is none. -/
theorem blanks_cons_iff {name file : Text} {names : List Text} (named : file ≠ "") :
    (∃ blanks, name :: names = List.replicate blanks ("" : Text) ++ [file]) ↔
      (name = "" ∧ ∃ blanks, names = List.replicate blanks ("" : Text) ++ [file]) ∨
        (name = file ∧ names = []) := by
  constructor
  · rintro ⟨blanks, whole⟩
    cases blanks with
    | zero => exact .inr (by simpa using whole)
    | succ blanks =>
        obtain ⟨blank, rest⟩ := List.cons.inj whole
        exact .inl ⟨blank, blanks, rest⟩
  · rintro (⟨rfl, blanks, rfl⟩ | ⟨rfl, rfl⟩)
    · exact ⟨blanks + 1, rfl⟩
    · exact ⟨0, rfl⟩

theorem goOn_file_iff {name : Text} (plain : name.toList.head? ≠ some (.scalar '-')) :
    GoOn found (.file name plain :: items) asked ↔
      found.file = "" ∧ GoOn { found with file := name } items asked := by
  constructor
  · rintro ⟨⟨unnamed, files⟩ | ⟨_, none⟩, named, wait, traffic⟩
    · refine ⟨unnamed, (blanks_cons_iff named).mp files, named, wait, by simpa using traffic⟩
    · simp [Item.file?] at none
  · rintro ⟨unnamed, files, named, wait, traffic⟩
    exact ⟨.inl ⟨unnamed, (blanks_cons_iff named).mpr files⟩, named, wait, by simpa using traffic⟩

theorem goOn_cons_iff {item : Item} :
    GoOn found (item :: items) asked ↔
      ∃ next, item.addTo? found = some next ∧ GoOn next items asked := by
  cases item with
  | traffic => simp [goOn_traffic_iff, Item.addTo?]
  | wait value milliseconds reads => simp [goOn_wait_iff, Item.addTo?]
  | file name plain =>
      rw [goOn_file_iff, Item.addTo?]
      by_cases unnamed : found.file = "" <;> simp [unnamed]

end

/-! ## Reading -/

theorem startsWith_hyphen_iff {name : Text} :
    name.startsWith "-" = true ↔ name.toList.head? = some (.scalar '-') := by
  rw [Text.startsWith_iff]
  cases name.toList with
  | nil => decide
  | cons c rest => simp [List.cons_prefix_cons, eq_comm]

theorem parseFrom_wait (found : Arguments) (value : Text) (rest : List Text) :
    parseFrom found (waitOption :: value :: rest) =
      match Text.readInteger value with
      | .ok milliseconds => parseFrom (found.setWait milliseconds) rest
      | .error _ => none := by
  rw [parseFrom]
  exact if_pos rfl

theorem parseFrom_of_ne {argument : Text} (other : argument ≠ waitOption) (found : Arguments)
    (rest : List Text) :
    parseFrom found (argument :: rest) = (found.add? argument).bind (parseFrom · rest) := by
  rw [parseFrom.eq_def]
  dsimp only
  rw [if_neg other]
  cases found.add? argument <;> rfl

theorem parseFrom_spelled (found : Arguments) (item : Item) (rest : List Text) :
    parseFrom found (item.spelled ++ rest) = (item.addTo? found).bind (parseFrom · rest) := by
  cases item with
  | traffic => exact parseFrom_of_ne (by decide) found rest
  | wait value milliseconds reads =>
      refine (parseFrom_wait found value rest).trans ?_
      rw [reads]
      rfl
  | file name plain =>
      have notWait : name ≠ waitOption := by
        rintro rfl
        exact plain (by decide)
      have notTraffic : name ≠ "--log-traffic" := by
        rintro rfl
        exact plain (by decide)
      have noHyphen : name.startsWith "-" = false := by
        rwa [← Bool.not_eq_true, startsWith_hyphen_iff]
      have added : found.add? name = (Item.file name plain).addTo? found := by
        rw [add?, if_neg notTraffic, noHyphen, Bool.false_or, Item.addTo?]
        by_cases unnamed : found.file = "" <;> simp [unnamed]
      rw [← added]
      exact parseFrom_of_ne notWait found rest

/-- An argument that can be added is an item. -/
theorem item_of_add? {found next : Arguments} {argument : Text}
    (added : found.add? argument = some next) : ∃ item : Item, item.spelled = [argument] := by
  unfold add? at added
  split at added
  · next isTraffic => exact ⟨.traffic, by rw [isTraffic, Item.spelled]⟩
  · split at added
    · cases added
    · next unrefused =>
      rw [Bool.or_eq_true, not_or, startsWith_hyphen_iff] at unrefused
      exact ⟨.file argument unrefused.1, rfl⟩

theorem parseFrom_items {found asked : Arguments} {items : List Item} :
    parseFrom found (items.flatMap Item.spelled) = some asked ↔ GoOn found items asked := by
  induction items generalizing found with
  | nil => exact goOn_nil_iff.symm
  | cons item items ih =>
      rw [List.flatMap_cons, parseFrom_spelled, Option.bind_eq_some_iff, goOn_cons_iff]
      simp only [ih]

/-- Arguments that are of use read as a sequence of items. -/
theorem items_of_parseFrom {found asked : Arguments} {argv : List Text}
    (parsed : parseFrom found argv = some asked) :
    ∃ items : List Item, items.flatMap Item.spelled = argv := by
  fun_induction parseFrom found argv with
  | case1 found => exact ⟨[], rfl⟩
  | case2 found => cases parsed
  | case3 found value rest milliseconds reads ih =>
      obtain ⟨items, rfl⟩ := ih parsed
      exact ⟨.wait value milliseconds reads :: items, rfl⟩
  | case4 found value rest fault refused => cases parsed
  | case5 found argument rest other refused => cases parsed
  | case6 found argument rest other next added ih =>
      obtain ⟨items, rfl⟩ := ih parsed
      obtain ⟨item, spelled⟩ := item_of_add? added
      exact ⟨item :: items, by rw [List.flatMap_cons, spelled, List.singleton_append]⟩

theorem parse_eq_some_iff {argv : List Text} {asked : Arguments} :
    parse argv = some asked ↔
      ∃ items : List Item, items.flatMap Item.spelled = argv ∧ AskFor items asked := by
  constructor
  · intro parsed
    obtain ⟨items, rfl⟩ := items_of_parseFrom parsed
    exact ⟨items, rfl, goOn_empty_iff.mp (parseFrom_items.mp parsed)⟩
  · rintro ⟨items, rfl, asks⟩
    exact parseFrom_items.mpr (goOn_empty_iff.mpr asks)

/-- Arguments are of use exactly if they read as a sequence of items that ask for something, and
    then that is what they are taken for. -/
theorem parse_items (argv : List Text) :
    (∀ asked, parse argv = some asked ↔
      ∃ items : List Item, items.flatMap Item.spelled = argv ∧ AskFor items asked) ∧
    (parse argv = none ↔
      ¬∃ (items : List Item) (asked : Arguments),
        items.flatMap Item.spelled = argv ∧ AskFor items asked) := by
  refine ⟨fun asked => parse_eq_some_iff, ?_⟩
  rw [Option.eq_none_iff_forall_ne_some]
  simp only [ne_eq, parse_eq_some_iff, not_exists]
  exact forall_comm

end LanguageClient.Arguments
