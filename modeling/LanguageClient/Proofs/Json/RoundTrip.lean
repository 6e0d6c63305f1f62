import LanguageClient.Json.Reader
import LanguageClient.Proofs.Json.Token
import LanguageClient.Proofs.Table

/-! # JSON through text

A value without fractions, long integers, repeated names and unpaired surrogates is read back from
its compact form as it was, its entries in the same order, as long as it is not nested too deep.
The reader takes what was printed of a value, whatever is open around it and whatever comes behind;
the proof goes over the value, and each constructor has its tokens.
-/

namespace LanguageClient.Json

mutual

/-- Whether a value has no numbers with a fraction, no integers too long to be read, no text
    that is no string and no name twice in an object. -/
def isPlain : Json → Bool
  | .null => true
  | .bool _ => true
  | .int value => (Nat.toDigits 10 value.natAbs).length ≤ maxIntegerDigits
  | .float _ => false
  | .str text => text.isPlain
  | .arr items => areItemsPlain items
  | .obj entries => decide (entries.map Prod.fst).Nodup && areEntriesPlain entries

def areItemsPlain : List Json → Bool
  | [] => true
  | item :: rest => isPlain item && areItemsPlain rest

def areEntriesPlain : List (Text × Json) → Bool
  | [] => true
  | (name, value) :: rest => (name.isPlain && isPlain value) && areEntriesPlain rest

end

/-- The characters that a value is written with. -/
abbrev written (value : Json) : List Char :=
  CodePoint.chars (print value)

/-- The characters of the items of an array. -/
abbrev writtenItems (items : List Json) : List Char :=
  CodePoint.chars (printItems items)

/-- The characters of the entries of an object. -/
abbrev writtenEntries (entries : Entries) : List Char :=
  CodePoint.chars (printEntries entries)

/-- The characters of a name or a text. -/
abbrev writtenString (text : Text) : List Char :=
  CodePoint.chars (printString text)

/-! ## What is written -/

variable {rest : List Char}

theorem begins_text {name : Text} (plain : name.isPlain = true) (rest : List Char) :
    BeginsWith (writtenString name ++ rest) (.string name) rest := by
  obtain ⟨name, rfl⟩ := Text.isPlain_iff.mp plain
  exact begins_string rest name

private theorem ends_comma (rest : List Char) : EndsNumber (',' :: rest) :=
  .cons (by decide)

private theorem ends_rightBracket (rest : List Char) : EndsNumber (']' :: rest) :=
  .cons (by decide)

private theorem ends_rightBrace (rest : List Char) : EndsNumber ('\x7d' :: rest) :=
  .cons (by decide)

/-- What is printed of a value does not begin with the end of an array. -/
theorem begins_print {value : Json} (plain : value.isPlain = true) (ends : EndsNumber rest) :
    ∃ token behind, BeginsWith (written value ++ rest) token behind ∧ token ≠ .rightBracket := by
  cases value with
  | null => exact ⟨_, _, begins_null rest, Token.noConfusion⟩
  | bool value => exact ⟨_, _, begins_bool rest value, Token.noConfusion⟩
  | int value => exact ⟨_, _, begins_int value ends, Token.noConfusion⟩
  | float value => simp [isPlain] at plain
  | str text => exact ⟨_, _, begins_text plain rest, Token.noConfusion⟩
  | arr items => exact ⟨_, _, begins_leftBracket _, Token.noConfusion⟩
  | obj entries => exact ⟨_, _, begins_leftBrace _, Token.noConfusion⟩

theorem written_arr (items : List Json) :
    written (.arr items) = '[' :: writtenItems items ++ [']'] := by
  rw [written, print, CodePoint.chars_append, CodePoint.chars_scalar]
  rfl

theorem written_obj (entries : Entries) :
    written (.obj entries) = '\x7b' :: writtenEntries entries ++ ['\x7d'] := by
  rw [written, print, CodePoint.chars_append, CodePoint.chars_scalar]
  rfl

theorem writtenItems_cons (item next : Json) (items : List Json) :
    writtenItems (item :: next :: items) = written item ++ ',' :: writtenItems (next :: items) := by
  rw [writtenItems, printItems, CodePoint.chars_append, CodePoint.chars_scalar]
  exact List.cons_ne_nil next items

theorem writtenEntries_single (entry : Text × Json) :
    writtenEntries [entry] = writtenString entry.1 ++ ':' :: written entry.2 := by
  rw [writtenEntries, printEntries, CodePoint.chars_append, CodePoint.chars_scalar]

theorem writtenEntries_cons (entry next : Text × Json) (entries : Entries) :
    writtenEntries (entry :: next :: entries) = writtenString entry.1 ++ ':' :: written entry.2 ++
      ',' :: writtenEntries (next :: entries) := by
  rw [writtenEntries, printEntries, CodePoint.chars_append, CodePoint.chars_append,
    CodePoint.chars_scalar, CodePoint.chars_scalar]
  exact List.cons_ne_nil next entries

private theorem sizeOf_snd (entry : Text × Json) : sizeOf entry.2 < sizeOf entry := by
  cases entry
  simp only [Prod.mk.sizeOf_spec]
  omega

theorem begins_printItems {item : Json} {items : List Json}
    (plain : areItemsPlain (item :: items) = true) (rest : List Char) :
    ∃ token behind, BeginsWith (writtenItems (item :: items) ++ ']' :: rest) token behind ∧
      token ≠ .rightBracket := by
  rw [areItemsPlain, Bool.and_eq_true] at plain
  cases items with
  | nil => exact begins_print plain.1 (ends_rightBracket rest)
  | cons next items =>
      rw [writtenItems_cons, List.append_assoc, List.cons_append]
      exact begins_print plain.1 (ends_comma _)

theorem begins_printEntries {entry : Text × Json} (plain : entry.1.isPlain = true)
    (entries : Entries) (rest : List Char) :
    ∃ behind, BeginsWith (writtenEntries (entry :: entries) ++ rest) (.string entry.1) behind := by
  cases entries with
  | nil =>
      rw [writtenEntries_single, List.append_assoc]
      exact ⟨_, begins_text plain _⟩
  | cons next entries =>
      rw [writtenEntries_cons, List.append_assoc, List.append_assoc]
      exact ⟨_, begins_text plain _⟩

/-! ## Reading on -/

variable {around : List Enclosing} {text : List Char} [Limits]

/-- Reading on in a text. -/
abbrev readOn (awaiting : Awaiting) (around : List Enclosing) (text : List Char) :
    Except Refusal Json :=
  build awaiting around (tokens text)

/-! ## One token -/

theorem readOn_whole {token : Token} {value : Json} (begins : BeginsWith text token rest)
    (whole : Placed.start ⟨token, text⟩ = .whole value) :
    readOn .value around text = readOn (.afterValue value) around rest := by
  rw [readOn, begins, build_value, Placed.opening, whole]

theorem readOn_container {token : Token} {container : Container}
    (begins : BeginsWith text token rest)
    (opens : Placed.start ⟨token, text⟩ = .container container)
    (shallow : around.length < Limits.reading) :
    readOn .value around text = readOn container.awaits around rest := by
  rw [readOn, begins, build_value, Placed.opening, opens]
  simp only [shallow, ↓reduceIte]

/-- The first item of an array is read like any other, unless the array ends there. -/
theorem readOn_firstItem {token : Token} (begins : BeginsWith text token rest)
    (goesOn : token ≠ .rightBracket) :
    readOn .firstItem around text = readOn .value (.items [] :: around) text := by
  rw [readOn, readOn, begins, build.eq_def, build]
  cases token with
  | rightBracket => exact absurd rfl goesOn
  | _ => rfl

theorem readOn_firstName {name : Text} (begins : BeginsWith text (.string name) rest) :
    readOn .firstName around text = readOn (.name []) around text := by
  rw [readOn, readOn, begins, build, build]

theorem readOn_name {name : Text} {before : Entries}
    (begins : BeginsWith text (.string name) rest) :
    readOn (.name before) around text = readOn (.colon before name) around rest := by
  rw [readOn, begins, build]
  rfl

theorem readOn_colon {name : Text} {before : Entries} (rest : List Char) :
    readOn (.colon before name) around (':' :: rest) =
      readOn .value (.entries before name :: around) rest := by
  rw [readOn, begins_colon rest, build]

/-! ## Behind a value -/

theorem readOn_nextItem {before : List Json} (value : Json) (rest : List Char) :
    readOn (.afterValue value) (.items before :: around) (',' :: rest) =
      readOn .value (.items (value :: before) :: around) rest := by
  rw [readOn, begins_comma rest, build]

theorem readOn_lastItem {before : List Json} (value : Json) (rest : List Char) :
    readOn (.afterValue value) (.items before :: around) (']' :: rest) =
      readOn (.afterValue (.arr (value :: before).reverse)) around rest := by
  rw [readOn, begins_rightBracket rest, build]

theorem readOn_nextEntry {before : Entries} {name : Text} (value : Json) (rest : List Char) :
    readOn (.afterValue value) (.entries before name :: around) (',' :: rest) =
      readOn (.name (before.put name value)) around rest := by
  rw [readOn, begins_comma rest, build]

theorem readOn_lastEntry {before : Entries} {name : Text} (value : Json) (rest : List Char) :
    readOn (.afterValue value) (.entries before name :: around) ('\x7d' :: rest) =
      readOn (.afterValue (.obj (before.put name value))) around rest := by
  rw [readOn, begins_rightBrace rest, build]

/-! ## Values -/

private theorem readOn_int {value : Int}
    (short : (Nat.toDigits 10 value.natAbs).length ≤ maxIntegerDigits) (ends : EndsNumber rest) :
    readOn .value around (written (.int value) ++ rest) =
      readOn (.afterValue (.int value)) around rest := by
  apply readOn_whole (begins_int value ends)
  have signed : integerOf (value < 0) (Text.decimalDigits value.natAbs) = value := by
    rw [integerOf, Text.digitsValue_decimalDigits]
    split
    · next negative =>
      have below : value < 0 := of_decide_eq_true negative
      omega
    · next positive =>
      have above : ¬ value < 0 := fun below => positive (decide_eq_true below)
      omega
  rw [Placed.start]
  simp only [Text.length_decimalDigits, gt_iff_lt, Nat.not_lt.mpr short, ↓reduceIte, signed]

mutual

/-- What is printed of a value is read as the value. -/
theorem readOn_print {value : Json} {around : List Enclosing} {rest : List Char}
    (plain : value.isPlain = true) (shallow : value.height + around.length ≤ Limits.reading)
    (ends : EndsNumber rest) :
    readOn .value around (written value ++ rest) = readOn (.afterValue value) around rest := by
  cases value with
  | null => exact readOn_whole (begins_null rest) rfl
  | bool value => exact readOn_whole (begins_bool rest value) rfl
  | int value =>
      simp only [isPlain, decide_eq_true_eq] at plain
      exact readOn_int plain ends
  | float value => simp [isPlain] at plain
  | str text => exact readOn_whole (begins_text plain rest) rfl
  | arr items =>
      rw [height] at shallow
      rw [isPlain] at plain
      rw [written_arr, List.cons_append, List.cons_append, List.append_assoc, List.singleton_append,
        readOn_container (begins_leftBracket _) rfl (by omega), Container.awaits]
      cases items with
      | nil =>
          rw [writtenItems, printItems, CodePoint.chars_nil, List.nil_append, readOn,
            begins_rightBracket rest, build]
      | cons item items =>
          obtain ⟨token, behind, begins, goesOn⟩ := begins_printItems plain rest
          rw [readOn_firstItem begins goesOn]
          exact readOn_printItems plain (by omega)
  | obj entries =>
      rw [height] at shallow
      rw [isPlain, Bool.and_eq_true, decide_eq_true_eq] at plain
      rw [written_obj, List.cons_append, List.cons_append, List.append_assoc, List.singleton_append,
        readOn_container (begins_leftBrace _) rfl (by omega), Container.awaits]
      cases entries with
      | nil =>
          rw [writtenEntries, printEntries, CodePoint.chars_nil, List.nil_append, readOn,
            begins_rightBrace rest, build]
      | cons entry entries =>
          have named : entry.1.isPlain = true := by
            rw [areEntriesPlain, Bool.and_eq_true, Bool.and_eq_true] at plain
            exact plain.2.1.1
          obtain ⟨behind, begins⟩ := begins_printEntries named entries ('\x7d' :: rest)
          rw [readOn_firstName begins]
          exact readOn_printEntries plain.2 plain.1 (by omega)
termination_by sizeOf value
decreasing_by
  all_goals subst_vars
  all_goals simp_wf

/-- What is printed of the items that are left in an array is read behind those before. -/
theorem readOn_printItems {item : Json} {items before : List Json} {around : List Enclosing}
    {rest : List Char} (plain : areItemsPlain (item :: items) = true)
    (shallow : heightOfItems (item :: items) + 1 + around.length ≤ Limits.reading) :
    readOn .value (.items before :: around) (writtenItems (item :: items) ++ ']' :: rest) =
      readOn (.afterValue (.arr (before.reverse ++ item :: items))) around rest := by
  rw [areItemsPlain, Bool.and_eq_true] at plain
  rw [heightOfItems] at shallow
  have inside : item.height + (Enclosing.items before :: around).length ≤ Limits.reading := by
    rw [List.length_cons]
    omega
  cases items with
  | nil =>
      rw [writtenItems, printItems, readOn_print plain.1 inside (ends_rightBracket rest),
        readOn_lastItem, List.reverse_cons]
  | cons next items =>
      rw [writtenItems_cons, List.append_assoc, List.cons_append,
        readOn_print plain.1 inside (ends_comma _), readOn_nextItem,
        readOn_printItems plain.2 (by omega), List.reverse_cons, List.append_assoc,
        List.singleton_append]
termination_by sizeOf (item :: items)

/-- What is printed of the entries that are left in an object is read behind those before. -/
theorem readOn_printEntries {entry : Text × Json} {entries before : Entries}
    {around : List Enclosing} {rest : List Char}
    (plain : areEntriesPlain (entry :: entries) = true)
    (distinct : ((before ++ entry :: entries).map Prod.fst).Nodup)
    (shallow : heightOfEntries (entry :: entries) + 1 + around.length ≤ Limits.reading) :
    readOn (.name before) around (writtenEntries (entry :: entries) ++ '\x7d' :: rest) =
      readOn (.afterValue (.obj (before ++ entry :: entries))) around rest := by
  rw [areEntriesPlain, Bool.and_eq_true, Bool.and_eq_true] at plain
  rw [heightOfEntries] at shallow
  have inside : entry.2.height + (Enclosing.entries before entry.1 :: around).length ≤
      Limits.reading := by
    rw [List.length_cons]
    omega
  have absent : entry.1 ∉ before.map Prod.fst := by
    rw [List.map_append, List.map_cons] at distinct
    intro member
    exact (List.nodup_append.mp distinct).2.2 entry.1 member entry.1 (List.mem_cons_self ..) rfl
  cases entries with
  | nil =>
      rw [writtenEntries_single, List.append_assoc, List.cons_append,
        readOn_name (begins_text plain.1.1 _), readOn_colon,
        readOn_print plain.1.2 inside (ends_rightBrace rest), readOn_lastEntry,
        Table.put_of_not_mem absent]
  | cons next entries =>
      rw [writtenEntries_cons, List.append_assoc, List.cons_append, List.append_assoc,
        List.cons_append, readOn_name (begins_text plain.1.1 _), readOn_colon,
        readOn_print plain.1.2 inside (ends_comma _), readOn_nextEntry, Table.put_of_not_mem absent,
        readOn_printEntries plain.2 (by simpa using distinct) (by omega), List.append_assoc,
        List.singleton_append]
termination_by sizeOf (entry :: entries)
decreasing_by
  all_goals subst_vars
  all_goals simp_wf
  all_goals have := sizeOf_snd entry
  all_goals omega

end

/-- The compact form of a value reads back as the value. -/
theorem read_print {value : Json} (plain : value.isPlain = true)
    (shallow : value.height ≤ Limits.reading) : read (written value) = .ok value := by
  have whole : build .value [] (tokens (written value)) = .ok value := by
    have printed := @readOn_print _ value [] [] plain (by simpa using shallow) .nil
    rw [List.append_nil] at printed
    exact printed.trans (by rw [readOn, tokens]; rfl)
  unfold read
  split
  · next tail mark =>
    -- No value begins with a byte order mark.
    have stray : takeToken '\uFEFF' tail = (.stray, []) := rfl
    rw [mark, tokens_cons tail rfl, stray] at whole
    cases whole
  · rw [whole]

end LanguageClient.Json
