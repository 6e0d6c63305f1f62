import LanguageClient.Json.Reader
import LanguageClient.Json.Spelling
import Mathlib.Data.List.Induction
import Mathlib.Data.Nat.Digits.Defs

/-! # What is read can be shown

No value that is read has more containers around a place than there is room for, nor an integer
that is too long to be written. There is more room to show a value than to read it, so that
nothing is in the way of showing one that was read. The reader keeps a stack of what is still
open, and the room that is left inside of it is by how much the stack is short of the room to show.
-/

namespace LanguageClient.Json

/-- Nothing is in the way of showing a value with so much room left. -/
def Shows (room : Nat) (value : Json) : Prop :=
  obstacle? ⟨true, .shownTooDeep⟩ room value = none

/-! ## Values -/

section

variable {room : Nat}

theorem shows_arr {items : List Json} (shows : ∀ item ∈ items, item.Shows room) :
    (arr items).Shows (room + 1) := by
  have clear : obstacleInItems? ⟨true, .shownTooDeep⟩ room items = none := by
    induction items with
    | nil => rfl
    | cons item rest ih =>
        have first : obstacle? ⟨true, .shownTooDeep⟩ room item = none :=
          shows item List.mem_cons_self
        rw [obstacleInItems?, first, Option.none_or]
        exact ih fun other member => shows other (List.mem_cons_of_mem _ member)
  rw [Shows, obstacle?, if_neg (Nat.succ_ne_zero room)]
  exact clear

theorem shows_obj {entries : Entries} (shows : ∀ entry ∈ entries, entry.2.Shows room) :
    (obj entries).Shows (room + 1) := by
  have clear : obstacleInEntries? ⟨true, .shownTooDeep⟩ room entries = none := by
    induction entries with
    | nil => rfl
    | cons entry rest ih =>
        have first : obstacle? ⟨true, .shownTooDeep⟩ room entry.2 = none :=
          shows entry List.mem_cons_self
        rw [obstacleInEntries?, first, Option.none_or]
        exact ih fun other member => shows other (List.mem_cons_of_mem _ member)
  rw [Shows, obstacle?, if_neg (Nat.succ_ne_zero room)]
  exact clear

theorem digitsValue_lt {digits : List Nat} (areDigits : ∀ digit ∈ digits, digit < 10) :
    Text.digitsValue digits < 10 ^ digits.length := by
  induction digits using List.reverseRecOn with
  | nil => exact Nat.one_pos
  | append_singleton front last ih =>
      have low := ih fun digit member => areDigits digit (List.mem_append_left _ member)
      have digit := areDigits last (List.mem_append_right _ (List.mem_singleton.mpr rfl))
      have value : Text.digitsValue (front ++ [last]) = Text.digitsValue front * 10 + last := by
        simp [Text.digitsValue]
      rw [value, List.length_append, List.length_singleton, Nat.pow_succ]
      omega

theorem shows_int {negative : Bool} {digits : List Nat}
    (areDigits : ∀ digit ∈ digits, digit < 10) (short : digits.length ≤ maxIntegerDigits) :
    (int (integerOf negative digits)).Shows (room + 1) := by
  have size : (integerOf negative digits).natAbs = Text.digitsValue digits := by
    unfold integerOf
    split
    · rw [Int.natAbs_neg, Int.natAbs_natCast]
    · exact Int.natAbs_natCast _
  have low : Text.digitsValue digits < 10 ^ maxIntegerDigits :=
    Nat.lt_of_lt_of_le (digitsValue_lt areDigits) (Nat.pow_le_pow_right (by decide) short)
  have written : (Nat.toDigits 10 (integerOf negative digits).natAbs).length ≤
      maxIntegerDigits := by
    rw [size]
    exact Nat.toDigits_length _ _ _ (by decide) low
  have notLong : isTooLong (integerOf negative digits) = false :=
    decide_eq_false (Nat.not_lt.mpr written)
  simp [Shows, obstacle?, leafObstacle?, notLong]

end

/-! ## Tokens -/

/-- What a token stands for can be shown wherever there is room at all. -/
def Token.Shows : Token → Prop
  | .constant value => ∀ room, value.Shows (room + 1)
  | .integer _ digits => ∀ digit ∈ digits, digit < 10
  | _ => True

section

variable {text rest : List Char} {token : Token}

theorem lt_ten_of_asciiDigit? {c : Char} {digit : Nat} (isDigit : Text.asciiDigit? c = some digit) :
    digit < 10 := by
  unfold Text.asciiDigit? at isDigit
  split at isDigit
  · next inside =>
    obtain rfl := Option.some.inj isDigit
    have above : c.toNat ≤ '9'.toNat := inside.2
    have last : '9'.toNat = 57 := rfl
    have first : '0'.toNat = 48 := rfl
    omega
  · cases isDigit

theorem lt_ten_of_mem_takeDigits {digit : Nat} (member : digit ∈ (takeDigits text).1) :
    digit < 10 := by
  induction text with
  | nil => cases member
  | cons c rest ih =>
      unfold takeDigits at member
      split at member
      · next first isDigit =>
        rcases List.mem_cons.mp member with rfl | later
        · exact lt_ten_of_asciiDigit? isDigit
        · exact ih later
      · cases member

theorem lt_ten_of_takeWhole? {digits : List Nat} (taken : takeWhole? text = some (digits, rest)) :
    ∀ digit ∈ digits, digit < 10 := by
  intro digit member
  unfold takeWhole? at taken
  split at taken
  · cases taken
  · split at taken
    · obtain ⟨rfl, -⟩ := Prod.mk.inj (Option.some.inj taken)
      rw [List.mem_singleton.mp member]
      decide
    · split at taken
      · have isDigits := congrArg Prod.fst (Option.some.inj taken)
        dsimp only at isDigits
        rw [← isDigits] at member
        exact lt_ten_of_mem_takeDigits member
      · cases taken

theorem shows_takeNumber? {negative : Bool}
    (taken : takeNumber? negative text = some (token, rest)) : token.Shows := by
  unfold takeNumber? at taken
  split at taken
  · cases taken
  · next digits behind isWhole =>
    dsimp only at taken
    split at taken
    · obtain ⟨rfl, -⟩ := Prod.mk.inj (Option.some.inj taken)
      intro room
      rfl
    · obtain ⟨rfl, -⟩ := Prod.mk.inj (Option.some.inj taken)
      exact lt_ten_of_takeWhole? isWhole

theorem shows_takeSigned? (taken : takeSigned? text = some (token, rest)) : token.Shows := by
  unfold takeSigned? at taken
  split at taken
  · exact shows_takeNumber? taken
  · exact shows_takeNumber? taken

theorem shows_takeWord? {candidates : List (List Char × Json)}
    (shows : ∀ entry ∈ candidates, ∀ room, entry.2.Shows (room + 1))
    (taken : takeWord? text candidates = some (token, rest)) : token.Shows := by
  induction candidates with
  | nil => cases taken
  | cons entry others ih =>
      unfold takeWord? at taken
      split at taken
      · obtain ⟨rfl, -⟩ := Prod.mk.inj (Option.some.inj taken)
        exact shows entry List.mem_cons_self
      · exact ih (fun other member => shows other (List.mem_cons_of_mem _ member)) taken

theorem shows_words (entry : List Char × Json) (member : entry ∈ words) (room : Nat) :
    entry.2.Shows (room + 1) := by
  simp only [words, List.mem_cons, List.not_mem_nil, or_false] at member
  rcases member with rfl | rfl | rfl | rfl | rfl | rfl <;> rfl

theorem shows_takeAtom (text : List Char) : (takeAtom text).1.Shows := by
  unfold takeAtom
  split
  · next taken isWord => exact shows_takeWord? shows_words isWord
  · split
    · next taken isNumber => exact shows_takeSigned? isNumber
    · trivial

theorem shows_takeToken (c : Char) (rest : List Char) : (takeToken c rest).1.Shows := by
  unfold takeToken
  repeat' split
  all_goals first
    | exact shows_takeAtom (c :: rest)
    | trivial

theorem shows_tokens (text : List Char) : ∀ placed ∈ tokens text, placed.token.Shows := by
  induction text using tokens.induct with
  | case1 text blank =>
      intro placed member
      rw [tokens, blank] at member
      rw [List.mem_singleton.mp member]
      trivial
  | case2 text c rest visible ih =>
      intro placed member
      rw [tokens, visible] at member
      rcases List.mem_cons.mp member with rfl | later
      · exact shows_takeToken c rest
      · exact ih placed later

theorem Placed.shows_start {placed : Placed} {value : Json} {room : Nat}
    (shows : placed.token.Shows) (whole : placed.start = .whole value) :
    value.Shows (room + 1) := by
  obtain ⟨token, place⟩ := placed
  cases token with
  | constant other =>
      obtain rfl := Start.whole.inj whole
      exact shows room
  | integer negative digits =>
      simp only [start] at whole
      split at whole
      · cases whole
      · next short =>
        obtain rfl := Start.whole.inj whole
        exact shows_int shows (Nat.le_of_not_gt short)
  | string text =>
      obtain rfl := Start.whole.inj whole
      rfl
  | _ => cases whole

end

/-! ## The stack -/

section

variable [Limits] {around : List Enclosing}

/-- The room that is left inside of what is open. -/
def roomIn (around : List Enclosing) : Nat :=
  Limits.showing - around.length

def Enclosing.Shows (room : Nat) : Enclosing → Prop
  | .items before => ∀ item ∈ before, item.Shows room
  | .entries before _ => ∀ entry ∈ before, entry.2.Shows room

/-- There was room for all that is open, and all in it can be shown. -/
def Holds : List Enclosing → Prop
  | [] => True
  | enclosing :: around =>
    around.length < Limits.reading ∧ enclosing.Shows (roomIn (enclosing :: around)) ∧
      Holds around

/-- What was read of what is awaited can be shown, and there is room for the rest of it. -/
def Awaiting.Shows (around : List Enclosing) : Awaiting → Prop
  | .value => True
  | .firstItem => around.length < Limits.reading
  | .firstName => around.length < Limits.reading
  | .name before => ∀ next, Holds (.entries before next :: around)
  | .colon before next => Holds (.entries before next :: around)
  | .afterValue whole => whole.Shows (roomIn around)

theorem Holds.length_le (holds : Holds around) : around.length ≤ Limits.reading := by
  cases around with
  | nil => exact Nat.zero_le _
  | cons enclosing around => exact holds.1

theorem roomIn_pos (holds : Holds around) : 0 < roomIn around := by
  have more := Limits.reading_lt_showing
  have fits := holds.length_le
  unfold roomIn
  omega

theorem roomIn_eq (fits : around.length < Limits.reading) (enclosing : Enclosing) :
    roomIn around = roomIn (enclosing :: around) + 1 := by
  have more := Limits.reading_lt_showing
  simp only [roomIn, List.length_cons]
  omega

theorem Placed.shows_opening {placed : Placed} {awaiting : Awaiting}
    (shows : placed.token.Shows) (holds : Holds around)
    (opens : placed.opening around = .ok awaiting) : awaiting.Shows around := by
  unfold opening at opens
  split at opens
  · next value whole =>
    obtain rfl := Except.ok.inj opens
    have room : roomIn around = roomIn around - 1 + 1 :=
      (Nat.sub_add_cancel (roomIn_pos holds)).symm
    show value.Shows (roomIn around)
    rw [room]
    exact shows_start shows whole
  · next container isContainer =>
    split at opens
    · next fits =>
      obtain rfl := Except.ok.inj opens
      cases container with
      | array => exact fits
      | object => exact fits
    · cases opens
  · cases opens

omit [Limits] in
theorem shows_put {room : Nat} {entries : Entries} {name : Text} {value : Json}
    (shows : ∀ entry ∈ entries, entry.2.Shows room) (last : value.Shows room) :
    ∀ entry ∈ Table.put entries name value, entry.2.Shows room := by
  induction entries with
  | nil =>
      intro entry member
      rw [List.mem_singleton.mp member]
      exact last
  | cons first rest ih =>
      have later := ih fun entry member => shows entry (List.mem_cons_of_mem _ member)
      intro entry member
      unfold Table.put at member
      split at member
      · rcases List.mem_cons.mp member with rfl | isLater
        · exact last
        · exact shows entry (List.mem_cons_of_mem _ isLater)
      · rcases List.mem_cons.mp member with rfl | isLater
        · exact shows _ List.mem_cons_self
        · exact later entry isLater

/-! ## What a token does to the stack -/

/-- One more item comes behind those that are there. -/
theorem Holds.item {before : List Json} {value : Json} (holds : Holds (.items before :: around))
    (shows : value.Shows (roomIn (.items before :: around))) :
    Holds (.items (value :: before) :: around) :=
  ⟨holds.1, List.forall_mem_cons.mpr ⟨shows, holds.2.1⟩, holds.2.2⟩

theorem Holds.entry {before : Entries} {name : Text} {value : Json}
    (holds : Holds (.entries before name :: around))
    (shows : value.Shows (roomIn (.entries before name :: around))) (next : Text) :
    Holds (.entries (Table.put before name value) next :: around) :=
  ⟨holds.1, shows_put holds.2.1 shows, holds.2.2⟩

theorem Holds.shows_arr {before : List Json} (holds : Holds (.items before :: around)) :
    (arr before.reverse).Shows (roomIn around) := by
  rw [roomIn_eq holds.1 (.items before)]
  exact Json.shows_arr fun item member => holds.2.1 item (List.mem_reverse.mp member)

theorem Holds.shows_obj {before : Entries} {name : Text}
    (holds : Holds (.entries before name :: around)) : (obj before).Shows (roomIn around) := by
  rw [roomIn_eq holds.1 (.entries before name)]
  exact Json.shows_obj holds.2.1

/-- What is read of tokens can be shown, whatever is open around it. -/
theorem shows_build {tokens : List Placed} {awaiting : Awaiting} {value : Json}
    (all : ∀ placed ∈ tokens, placed.token.Shows) (awaited : awaiting.Shows around)
    (holds : Holds around) (built : build awaiting around tokens = .ok value) :
    value.Shows Limits.showing := by
  induction tokens generalizing awaiting around with
  | nil =>
      unfold build at built
      cases built
  | cons placed rest ih =>
      obtain ⟨first, later⟩ := List.forall_mem_cons.mp all
      have goOn {awaiting : Awaiting} {around : List Enclosing}
          (built : build awaiting around rest = .ok value) (awaited : awaiting.Shows around)
          (holds : Holds around) : value.Shows Limits.showing :=
        ih later awaited holds built
      cases awaiting with
      | value =>
          unfold build at built
          split at built
          · next opens => exact goOn built (placed.shows_opening first holds opens) holds
          · cases built
      | firstItem =>
          have begun : Holds (.items [] :: around) := ⟨awaited, List.forall_mem_nil _, holds⟩
          unfold build at built
          split at built
          · exact goOn built begun.shows_arr holds
          · split at built
            · next opens => exact goOn built (placed.shows_opening first begun opens) begun
            · cases built
      | firstName =>
          have begun (name : Text) : Holds (.entries [] name :: around) :=
            ⟨awaited, List.forall_mem_nil _, holds⟩
          unfold build at built
          split at built
          · exact goOn built (begun "").shows_obj holds
          · split at built
            · next name _ => exact goOn built (begun name) holds
            · cases built
      | name before =>
          unfold build at built
          split at built
          · next name _ => exact goOn built (awaited name) holds
          · cases built
      | colon before name =>
          unfold build at built
          split at built
          · exact goOn built trivial awaited
          · cases built
      | afterValue whole =>
          cases around with
          | nil =>
              unfold build at built
              split at built
              · obtain rfl := Except.ok.inj built
                exact awaited
              · cases built
          | cons enclosing around =>
              cases enclosing with
              | items before =>
                  have longer := holds.item awaited
                  unfold build at built
                  split at built
                  · exact goOn built trivial longer
                  · exact goOn built longer.shows_arr holds.2.2
                  · cases built
              | entries before name =>
                  have longer := holds.entry awaited
                  unfold build at built
                  split at built
                  · exact goOn built longer holds.2.2
                  · exact goOn built (longer "").shows_obj holds.2.2
                  · cases built

/-- Nothing is in the way of showing what was read. -/
theorem unshowable?_of_read {text : List Char} {value : Json} (isRead : read text = .ok value) :
    value.unshowable? = none := by
  unfold read at isRead
  split at isRead
  · cases isRead
  · split at isRead
    · next other built =>
      obtain rfl := Except.ok.inj isRead
      exact @shows_build _ [] _ .value _ (shows_tokens text) trivial trivial built
    · cases isRead
    · cases isRead
    · cases isRead

end

end LanguageClient.Json
