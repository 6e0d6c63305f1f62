import LanguageClient.Proofs.Frame.Outcome
import Mathlib.Data.List.TakeWhile

/-! # Headers made of fields

A header may be a block of fields, of which one announces the length of the body, in any spelling
and in any place. The announcement is not looked for field by field: it is the last one in the
whole block that counts. So fields in front may hold what they like, and those behind may hold
anything but an announcement of their own.
-/

namespace LanguageClient

namespace Frame

/-! ## What reads as an announcement -/

def IsDigit (byte : UInt8) : Prop :=
  48 ≤ byte.toNat ∧ byte.toNat ≤ 57

def AreDigits (digits : List UInt8) : Prop :=
  ∀ byte ∈ digits, IsDigit byte

/-- Nothing but spaces and tabs. -/
def IsGap (gap : List UInt8) : Prop :=
  ∀ byte ∈ gap, byte = 32 ∨ byte = 9

/-- The name of an announcement, in any letter case. -/
def IsLengthName (name : List UInt8) : Prop :=
  name.map lowerByte = lengthName

instance : DecidablePred IsDigit :=
  fun _ => inferInstanceAs (Decidable (_ ∧ _))

instance : DecidablePred AreDigits :=
  fun digits => List.decidableBAll IsDigit digits

instance : DecidablePred IsGap :=
  fun gap => List.decidableBAll (fun byte => byte = 32 ∨ byte = 9) gap

instance : DecidablePred IsLengthName :=
  fun _ => inferInstanceAs (Decidable (_ = _))

/-- Bytes that read as the beginning of an announcement: its name, a colon with spaces and tabs
    around it, and the first digit of a number. -/
def IsAnnouncement (piece : List UInt8) : Prop :=
  ∃ name before behind sign digit,
    piece = name ++ (before ++ 58 :: (behind ++ (sign ++ [digit]))) ∧
      IsLengthName name ∧ IsGap before ∧ IsGap behind ∧ (sign = [] ∨ sign = [45]) ∧ IsDigit digit

section Announcements

variable {bytes rest gap : List UInt8}

theorem digitOf?_of_isDigit {byte : UInt8} (digit : IsDigit byte) :
    digitOf? byte = some (byte.toNat - 48) :=
  if_pos ⟨UInt8.le_iff_toNat_le.mpr digit.1, UInt8.le_iff_toNat_le.mpr digit.2⟩

theorem isDigit_of_digitOf? {byte : UInt8} {digit : Nat} (isDigit : digitOf? byte = some digit) :
    IsDigit byte := by
  unfold digitOf? at isDigit
  split at isDigit
  · next range => exact ⟨UInt8.le_iff_toNat_le.mp range.1, UInt8.le_iff_toNat_le.mp range.2⟩
  · cases isDigit

theorem dropName?_eq_some_iff {name : List UInt8} :
    dropName? name bytes = some rest ↔
      ∃ front, bytes = front ++ rest ∧ front.map lowerByte = name := by
  induction name generalizing bytes with
  | nil => simp [dropName?]
  | cons n name ih =>
      cases bytes with
      | nil => simp [dropName?]
      | cons b bytes =>
          rw [dropName?]
          constructor
          · intro dropped
            split at dropped
            · next same =>
              obtain ⟨front, rfl, lowered⟩ := ih.mp dropped
              exact ⟨b :: front, rfl, by rw [List.map_cons, lowered, same]⟩
            · cases dropped
          · rintro ⟨front, split, lowered⟩
            cases front with
            | nil => cases lowered
            | cons first front =>
                obtain ⟨rfl, rfl⟩ := List.cons.inj split
                obtain ⟨same, lowered⟩ := List.cons.inj lowered
                rw [if_pos same.symm]
                exact ih.mpr ⟨front, rfl, lowered⟩

theorem dropGap_append (isGap : IsGap gap) {byte : UInt8} (visible : byte ≠ 32 ∧ byte ≠ 9) :
    dropGap (gap ++ byte :: rest) = byte :: rest := by
  have all : ∀ other ∈ gap, (other == 32 || other == 9) = true := by
    simpa [IsGap] using isGap
  rw [dropGap, List.dropWhile_append_of_pos all, List.dropWhile_cons_of_neg (by simp [visible])]

theorem exists_gap (bytes : List UInt8) : ∃ gap, IsGap gap ∧ bytes = gap ++ dropGap bytes := by
  refine ⟨bytes.takeWhile (fun byte => byte == 32 || byte == 9), ?_,
    List.takeWhile_append_dropWhile.symm⟩
  intro byte member
  simpa using List.mem_takeWhile_imp member

theorem leadingDigits_append {digits : List UInt8} (areDigits : AreDigits digits)
    (ended : leadingDigits rest = []) :
    leadingDigits (digits ++ rest) = digits.map (fun byte => byte.toNat - 48) := by
  induction digits with
  | nil => exact ended
  | cons byte digits ih =>
      obtain ⟨first, later⟩ := List.forall_mem_cons.mp areDigits
      rw [List.cons_append, leadingDigits, digitOf?_of_isDigit first, List.map_cons, ih later]

/-- Where a number is read there is a digit behind a sign, if there is one. -/
theorem exists_digit {announced : Announced} (read : announcedNumber? bytes = some announced) :
    ∃ sign digit rest, bytes = sign ++ digit :: rest ∧ (sign = [] ∨ sign = [45]) ∧
      IsDigit digit := by
  have begun {bytes : List UInt8} (some : leadingDigits bytes ≠ []) :
      ∃ digit rest, bytes = digit :: rest ∧ IsDigit digit := by
    cases bytes with
    | nil => exact absurd rfl some
    | cons byte rest =>
        unfold leadingDigits at some
        split at some
        · next isDigit => exact ⟨byte, rest, rfl, isDigit_of_digitOf? isDigit⟩
        · exact absurd rfl some
  unfold announcedNumber? at read
  split at read
  next negative behind signed =>
  dsimp only at read
  split at read
  · cases read
  · next some =>
    obtain ⟨digit, rest, rfl, isDigit⟩ := begun (fun none => some (by rw [none]; rfl))
    split at signed
    · obtain ⟨_, rfl⟩ := Prod.mk.inj signed
      exact ⟨[45], digit, rest, rfl, .inr rfl, isDigit⟩
    · obtain ⟨_, rfl⟩ := Prod.mk.inj signed
      exact ⟨[], digit, rest, rfl, .inl rfl, isDigit⟩

theorem isAnnouncement_of_announcementAt? {announced : Announced}
    (here : announcementAt? bytes = some announced) :
    ∃ piece, piece <+: bytes ∧ IsAnnouncement piece := by
  unfold announcementAt? at here
  split at here
  · cases here
  · next behindName dropped =>
    obtain ⟨name, rfl, isName⟩ := dropName?_eq_some_iff.mp dropped
    obtain ⟨before, isBefore, gapped⟩ := exists_gap behindName
    split at here
    · next behindColon colon =>
      obtain ⟨behind, isBehind, spaced⟩ := exists_gap behindColon
      obtain ⟨sign, digit, rest, number, isSign, isDigit⟩ := exists_digit here
      refine ⟨_, ⟨rest, ?_⟩, name, before, behind, sign, digit, rfl, isName, isBefore, isBehind,
        isSign, isDigit⟩
      rw [gapped, colon, spaced, number]
      simp
    · cases here

/-- Behind the name and the colon of an announcement its number is read. -/
theorem announcementAt?_append {name before behind number : List UInt8} {byte : UInt8}
    (isName : IsLengthName name) (isBefore : IsGap before) (isBehind : IsGap behind)
    (visible : byte ≠ 32 ∧ byte ≠ 9) :
    announcementAt? (name ++ (before ++ 58 :: (behind ++ byte :: number))) =
      announcedNumber? (byte :: number) := by
  have named : dropName? lengthName (name ++ (before ++ 58 :: (behind ++ byte :: number))) =
      some (before ++ 58 :: (behind ++ byte :: number)) :=
    dropName?_eq_some_iff.mpr ⟨name, rfl, isName⟩
  have colon : dropGap (before ++ 58 :: (behind ++ byte :: number)) =
      58 :: (behind ++ byte :: number) := dropGap_append isBefore (by decide)
  simp only [announcementAt?, named, colon, dropGap_append isBehind visible]

theorem ne_of_isDigit {byte other : UInt8} (digit : IsDigit byte) (below : other.toNat < 48) :
    byte ≠ other := by
  rintro rfl
  exact absurd digit.1 (Nat.not_le.mpr below)

theorem announcementAt?_of_isAnnouncement {piece : List UInt8}
    (isAnnouncement : IsAnnouncement piece) (rest : List UInt8) :
    announcementAt? (piece ++ rest) ≠ none := by
  obtain ⟨name, before, behind, sign, digit, rfl, isName, isBefore, isBehind, isSign, isDigit⟩ :=
    isAnnouncement
  have visible : digit ≠ 32 ∧ digit ≠ 9 :=
    ⟨ne_of_isDigit isDigit (by decide), ne_of_isDigit isDigit (by decide)⟩
  have noSign : digit ≠ 45 := ne_of_isDigit isDigit (by decide)
  rcases isSign with rfl | rfl
  · have read := @announcementAt?_append name before behind rest digit isName isBefore isBehind
      visible
    simp [announcedNumber?, noSign, leadingDigits, digitOf?_of_isDigit isDigit] at read
    simp [read]
  · have read := @announcementAt?_append name before behind (digit :: rest) 45 isName isBefore
      isBehind (by decide)
    simp [announcedNumber?, leadingDigits, digitOf?_of_isDigit isDigit] at read
    simp [read]

/-- What holds no announcement announces nothing, and nothing else does. -/
theorem lastAnnouncement?_eq_none_iff :
    lastAnnouncement? bytes = none ↔ ∀ piece, piece <:+: bytes → ¬IsAnnouncement piece := by
  constructor
  · rintro none piece ⟨front, back, rfl⟩ isAnnouncement
    obtain ⟨announced, here⟩ := Option.ne_none_iff_exists'.mp
      (announcementAt?_of_isAnnouncement isAnnouncement back)
    have some : lastAnnouncement? (piece ++ back) ≠ .none := by
      cases whole : piece ++ back with
      | nil =>
          rw [whole] at here
          cases here
      | cons byte later =>
          rw [whole] at here
          rw [lastAnnouncement?, here]
          cases lastAnnouncement? later <;> exact Option.some_ne_none _
    obtain ⟨last, isLast⟩ := Option.ne_none_iff_exists'.mp some
    rw [List.append_assoc, lastAnnouncement?_append isLast front] at none
    cases none
  · intro none
    induction bytes with
    | nil => rfl
    | cons byte rest ih =>
        have later := ih fun piece inside => none piece (List.infix_cons_iff.mpr (.inr inside))
        rw [lastAnnouncement?, later]
        cases here : announcementAt? (byte :: rest) with
        | none => rfl
        | some announced =>
            obtain ⟨piece, front, isAnnouncement⟩ := isAnnouncement_of_announcementAt? here
            exact absurd isAnnouncement (none piece front.isInfix)

theorem lowerByte_of_lt {byte : UInt8} (below : byte.toNat < 65) : lowerByte byte = byte := by
  apply if_neg
  rintro ⟨upper, _⟩
  exact absurd (UInt8.le_iff_toNat_le.mp upper) (Nat.not_le.mpr below)

/-- An announcement stands on one line: it holds no control but tabs. -/
theorem not_mem_of_isAnnouncement {piece : List UInt8} (isAnnouncement : IsAnnouncement piece)
    {byte : UInt8} (control : byte.toNat < 32) (noTab : byte ≠ 9) : byte ∉ piece := by
  obtain ⟨name, before, behind, sign, digit, rfl, isName, isBefore, isBehind, isSign, isDigit⟩ :=
    isAnnouncement
  have notName : byte ∉ name := by
    intro member
    have letters : lengthName.all (32 ≤ ·.toNat) = true := by decide
    have lowered := List.all_eq_true.mp letters (lowerByte byte)
      (isName ▸ List.mem_map_of_mem member)
    rw [lowerByte_of_lt (by omega), decide_eq_true_eq] at lowered
    omega
  have visible {other : UInt8} (above : 32 ≤ other.toNat) : byte ≠ other := by
    rintro rfl
    omega
  have notGap {gap : List UInt8} (isGap : IsGap gap) : byte ∉ gap := by
    intro member
    rcases isGap byte member with blank | tab
    · exact visible (by decide) blank
    · exact noTab tab
  have notSign : byte ∉ sign := by
    rcases isSign with rfl | rfl
    · exact List.not_mem_nil
    · simpa using visible (by decide : 32 ≤ (45 : UInt8).toNat)
  have notColon : byte ≠ 58 := visible (by decide)
  have notDigit : byte ≠ digit := visible (by have := isDigit.1; omega)
  simp [notName, notGap isBefore, notGap isBehind, notSign, notDigit, notColon]

end Announcements

/-! ## Fields -/

/-- The end of a line. -/
def lineEnd : List UInt8 := [13, 10]

/-- A letter, a digit or a hyphen. -/
def IsNameByte (byte : UInt8) : Prop :=
  97 ≤ (lowerByte byte).toNat ∧ (lowerByte byte).toNat ≤ 122 ∨ IsDigit byte ∨ byte = 45

instance : DecidablePred IsNameByte :=
  fun _ => inferInstanceAs (Decidable (_ ∨ _))

def IsName (name : List UInt8) : Prop :=
  ∀ byte ∈ name, IsNameByte byte

instance : DecidablePred IsName :=
  fun name => List.decidableBAll IsNameByte name

/-- A field of a header: a name, a colon and a value on one line. -/
structure Field where
  name : List UInt8
  value : List UInt8
  isName : IsName name
  isLine : 13 ∉ value ∧ 10 ∉ value

def Field.bytes (field : Field) : List UInt8 :=
  field.name ++ 58 :: field.value

/-- A field that announces the length of the body, in any letter case, with spaces and tabs around
    the colon. Its number has no more digits than are read. -/
structure LengthField where
  name : List UInt8
  before : List UInt8
  behind : List UInt8
  digits : List UInt8
  isName : IsLengthName name
  isBefore : IsGap before
  isBehind : IsGap behind
  areDigits : AreDigits digits
  numbered : digits ≠ []
  short : digits.length ≤ maxIntegerDigits

namespace LengthField

def bytes (field : LengthField) : List UInt8 :=
  field.name ++ (field.before ++ 58 :: (field.behind ++ field.digits))

/-- The length that is announced. -/
def length (field : LengthField) : Nat :=
  Text.digitsValue (field.digits.map (fun byte => byte.toNat - 48))

end LengthField

/-- Fields with line ends between them, one of which announces a length. -/
structure Block where
  front : List Field
  announcing : LengthField
  back : List Field

namespace Block

def lines (block : Block) : List (List UInt8) :=
  block.front.map Field.bytes ++ block.announcing.bytes :: block.back.map Field.bytes

def bytes (block : Block) : List UInt8 :=
  lineEnd.intercalate block.lines

end Block

/-! ## Where a block ends -/

/-- A line of a header holds no line end and is not empty. -/
def IsLine (line : List UInt8) : Prop :=
  13 ∉ line ∧ line ≠ []

theorem Field.isLine_bytes (field : Field) : IsLine field.bytes := by
  have notName : 13 ∉ field.name := by
    intro member
    rcases field.isName 13 member with ⟨above, _⟩ | digit | hyphen
    · exact absurd above (by decide)
    · exact absurd digit.1 (by decide)
    · exact absurd hyphen (by decide)
  have noReturn : 13 ∉ field.bytes := by simp [Field.bytes, notName, field.isLine.1]
  exact ⟨noReturn, by simp [Field.bytes]⟩

theorem LengthField.isLine_bytes (field : LengthField) : IsLine field.bytes := by
  have notName : 13 ∉ field.name := by
    intro member
    have lowered : lowerByte 13 ∈ lengthName := field.isName ▸ List.mem_map_of_mem member
    revert lowered
    decide
  have notGap {gap : List UInt8} (isGap : IsGap gap) : 13 ∉ gap :=
    fun member => absurd (isGap 13 member) (by decide)
  have notDigits : 13 ∉ field.digits := fun member =>
    absurd (field.areDigits 13 member).1 (by decide)
  have noReturn : 13 ∉ field.bytes := by
    simp [LengthField.bytes, notName, notGap field.isBefore, notGap field.isBehind, notDigits]
  exact ⟨noReturn, by simp [LengthField.bytes]⟩

theorem Block.isLine_of_mem {block : Block} {line : List UInt8} (member : line ∈ block.lines) :
    IsLine line := by
  simp only [Block.lines, List.mem_append, List.mem_cons, List.mem_map] at member
  rcases member with ⟨field, _, rfl⟩ | rfl | ⟨field, _, rfl⟩
  · exact field.isLine_bytes
  · exact block.announcing.isLine_bytes
  · exact field.isLine_bytes

theorem not_headerEnd_infix_append {line rest : List UInt8} (noReturn : 13 ∉ line)
    (endless : ¬headerEnd <:+: rest) : ¬headerEnd <:+: line ++ rest := by
  induction line with
  | nil => exact endless
  | cons byte line ih =>
      rw [List.mem_cons, not_or] at noReturn
      rw [List.cons_append, List.infix_cons_iff, not_or]
      refine ⟨fun here => ?_, ih noReturn.2⟩
      exact noReturn.1 (List.cons_prefix_cons.mp here).1

/-- A line end is followed by a line, which does not begin with another one. -/
theorem not_headerEnd_infix_lineEnd {rest : List UInt8} (noReturn : rest.head? ≠ some 13)
    (endless : ¬headerEnd <:+: rest) : ¬headerEnd <:+: lineEnd ++ rest := by
  rw [lineEnd, List.cons_append, List.cons_append, List.nil_append, List.infix_cons_iff,
    List.infix_cons_iff, not_or, not_or]
  refine ⟨fun here => ?_, fun here => ?_, endless⟩
  · obtain ⟨_, here⟩ := List.cons_prefix_cons.mp here
    obtain ⟨_, behind, same⟩ := List.cons_prefix_cons.mp here
    exact noReturn (by rw [← same]; rfl)
  · exact absurd (List.cons_prefix_cons.mp here).1 (by decide)

/-- The end of a header does not come before the last of its lines is over. -/
theorem isHead_intercalate {lines : List (List UInt8)} (areLines : ∀ line ∈ lines, IsLine line)
    (some : lines ≠ []) : IsHead (lineEnd.intercalate lines) := by
  unfold IsHead
  induction lines with
  | nil => exact absurd rfl some
  | cons line lines ih =>
      obtain ⟨⟨noReturn, _⟩, later⟩ := List.forall_mem_cons.mp areLines
      cases lines with
      | nil =>
          rw [List.intercalate_singleton]
          exact not_headerEnd_infix_append noReturn (by decide)
      | cons next lines =>
          obtain ⟨⟨nextNoReturn, nextSome⟩, _⟩ := List.forall_mem_cons.mp later
          have endless := ih later (List.cons_ne_nil next lines)
          rw [List.intercalate_cons_cons, List.append_assoc, List.append_assoc]
          refine not_headerEnd_infix_append noReturn (not_headerEnd_infix_lineEnd ?_ endless)
          obtain ⟨first, more, rfl⟩ := List.exists_cons_of_ne_nil nextSome
          have isFirst : (lineEnd.intercalate ((first :: more) :: lines)).head? = .some first := by
            cases lines with
            | nil => rw [List.intercalate_singleton, List.head?_cons]
            | cons other lines => rw [List.intercalate_cons_cons]; rfl
          rw [List.head?_append, isFirst]
          intro same
          exact nextNoReturn (Option.some.inj same ▸ List.mem_cons_self)

/-! ## What a block announces -/

theorem LengthField.announcementAt?_bytes (field : LengthField) {rest : List UInt8}
    (ended : leadingDigits rest = []) :
    announcementAt? (field.bytes ++ rest) =
      some ⟨false, field.digits.map (fun byte => byte.toNat - 48)⟩ := by
  have digits := leadingDigits_append field.areDigits ended
  obtain ⟨first, more, isDigits⟩ := List.exists_cons_of_ne_nil field.numbered
  have isDigit := field.areDigits first (isDigits ▸ List.mem_cons_self)
  have read : announcementAt? (field.bytes ++ rest) = announcedNumber? (field.digits ++ rest) := by
    have read := @announcementAt?_append _ _ _ (more ++ rest) first field.isName field.isBefore
      field.isBehind ⟨ne_of_isDigit isDigit (by decide), ne_of_isDigit isDigit (by decide)⟩
    simpa [LengthField.bytes, isDigits] using read
  have some : (field.digits.map (fun byte => byte.toNat - 48)).isEmpty = false := by
    simp [field.numbered]
  rw [read]
  unfold announcedNumber?
  split
  next negative behind signed =>
  split at signed
  · next signed' =>
    rw [isDigits] at signed'
    exact absurd (List.cons.inj signed').1 (ne_of_isDigit isDigit (by decide))
  · obtain ⟨rfl, rfl⟩ := Prod.mk.inj signed
    simp only [digits, some, Bool.false_eq_true, ↓reduceIte]

/-- No byte behind the first letter of the field could begin another announcement. -/
theorem LengthField.lastAnnouncement?_bytes (field : LengthField) {rest : List UInt8}
    (ended : leadingDigits rest = []) (behind : lastAnnouncement? rest = none) :
    lastAnnouncement? (field.bytes ++ rest) =
      some ⟨false, field.digits.map (fun byte => byte.toNat - 48)⟩ := by
  have announced := field.announcementAt?_bytes ended
  obtain ⟨first, name, isName⟩ : ∃ first name, field.name = first :: name := by
    apply List.exists_cons_of_ne_nil
    intro none
    have isName := field.isName
    rw [none] at isName
    cases isName
  have lowered : name.map lowerByte = lengthName.tail := by
    have isName' := field.isName
    rw [isName] at isName'
    exact (List.cons.inj isName').2
  have notName : ∀ byte ∈ name, 99 ≠ lowerByte byte := by
    intro byte member same
    have isLetter : lowerByte byte ∈ lengthName.tail := lowered ▸ List.mem_map_of_mem member
    rw [← same] at isLetter
    exact absurd isLetter (by decide)
  have notBelow {byte : UInt8} (below : byte.toNat < 65) : 99 ≠ lowerByte byte := by
    rw [lowerByte_of_lt below]
    rintro rfl
    exact absurd below (by decide)
  have notGap {gap : List UInt8} (isGap : IsGap gap) : ∀ byte ∈ gap, 99 ≠ lowerByte byte := by
    intro byte member
    rcases isGap byte member with rfl | rfl
    · exact notBelow (by decide)
    · exact notBelow (by decide)
  have notDigit : ∀ byte ∈ field.digits, 99 ≠ lowerByte byte := fun byte member =>
    notBelow (Nat.lt_of_le_of_lt (field.areDigits byte member).2 (by decide))
  have later : lastAnnouncement? (field.bytes ++ rest).tail = none := by
    have tail : (field.bytes ++ rest).tail =
        (name ++ (field.before ++ 58 :: (field.behind ++ field.digits))) ++ rest := by
      rw [LengthField.bytes, isName]
      rfl
    rw [tail]
    refine lastAnnouncement?_append_eq_none ?_ behind
    intro byte member
    simp only [List.mem_append, List.mem_cons] at member
    rcases member with inName | inBefore | rfl | inBehind | inDigits
    · exact notName byte inName
    · exact notGap field.isBefore byte inBefore
    · exact notBelow (by decide)
    · exact notGap field.isBehind byte inBehind
    · exact notDigit byte inDigits
  exact (lastAnnouncement?_of_tail later).trans announced

namespace Block

variable {block : Block}

/-- The fields behind the announcement, each with the line end in front of it. -/
def behind (fields : List Field) : List UInt8 :=
  fields.flatMap (fun field => lineEnd ++ field.bytes)

theorem bytes_eq (block : Block) :
    ∃ front, block.bytes = front ++ (block.announcing.bytes ++ behind block.back) := by
  have back (line : List UInt8) (fields : List Field) :
      lineEnd.intercalate (line :: fields.map Field.bytes) = line ++ behind fields := by
    induction fields generalizing line with
    | nil => simp [behind, List.intercalate_singleton]
    | cons field fields ih =>
        rw [List.map_cons, List.intercalate_cons_cons, ih, behind, behind, List.flatMap_cons]
        simp
  have front (fields : List Field) (line : List UInt8) (lines : List (List UInt8)) :
      ∃ front, lineEnd.intercalate (fields.map Field.bytes ++ line :: lines) =
        front ++ lineEnd.intercalate (line :: lines) := by
    induction fields with
    | nil => exact ⟨[], rfl⟩
    | cons field fields ih =>
        obtain ⟨front, isFront⟩ := ih
        obtain ⟨next, more, isNext⟩ :=
          List.exists_cons_of_ne_nil (List.append_ne_nil_of_right_ne_nil
            (fields.map Field.bytes) (List.cons_ne_nil line lines))
        refine ⟨field.bytes ++ lineEnd ++ front, ?_⟩
        rw [List.map_cons, List.cons_append, isNext, List.intercalate_cons_cons, ← isNext, isFront]
        simp
  obtain ⟨start, isStart⟩ := front block.front block.announcing.bytes
    (block.back.map Field.bytes)
  exact ⟨start, by rw [bytes, lines, isStart, back]⟩

/-- No announcement stands in one of the fields. -/
def Unannounced (fields : List Field) : Prop :=
  ∀ field ∈ fields, ∀ piece, piece <:+: field.bytes → ¬IsAnnouncement piece

theorem lastAnnouncement?_behind {fields : List Field} (unannounced : Unannounced fields) :
    lastAnnouncement? (behind fields) = none := by
  apply lastAnnouncement?_eq_none_iff.mpr
  intro piece inside isAnnouncement
  have some : piece ≠ [] := by
    obtain ⟨name, before, gap, sign, digit, rfl, _⟩ := isAnnouncement
    simp
  have noReturn : 13 ∉ piece := not_mem_of_isAnnouncement isAnnouncement (by decide) (by decide)
  have noFeed : 10 ∉ piece := not_mem_of_isAnnouncement isAnnouncement (by decide) (by decide)
  have notNil : ¬piece <:+: [] := fun inside => some (List.infix_nil.mp inside)
  revert inside
  induction fields with
  | nil => exact notNil
  | cons field fields ih =>
      obtain ⟨here, later⟩ := List.forall_mem_cons.mp unannounced
      have notLater := ih later
      have notHere : ¬piece <:+: field.bytes := fun inside => here piece inside isAnnouncement
      rw [behind, List.flatMap_cons, ← behind]
      have notJoined : ¬piece <:+: field.bytes ++ behind fields := by
        cases fields with
        | nil => simpa [behind] using notHere
        | cons next fields =>
            have apart : behind (next :: fields) =
                13 :: 10 :: (next.bytes ++ behind fields) := rfl
            rw [apart] at notLater ⊢
            refine not_infix_append_cons noReturn notHere ?_
            exact fun inside => notLater (List.infix_cons_iff.mpr (.inr inside))
      exact not_infix_append_cons noReturn notNil (not_infix_append_cons noFeed notNil notJoined)

theorem announces_bytes (unannounced : Unannounced block.back) :
    Announces block.bytes (some block.announcing.length) := by
  obtain ⟨front, isBytes⟩ := block.bytes_eq
  have ended : leadingDigits (behind block.back) = [] := by
    cases block.back with
    | nil => rfl
    | cons => rfl
  have last := lastAnnouncement?_append (block.announcing.lastAnnouncement?_bytes ended
    (lastAnnouncement?_behind unannounced)) front
  rw [← isBytes] at last
  exact .length last (by simpa using block.announcing.short) nofun

theorem isHead_bytes (block : Block) : IsHead block.bytes :=
  isHead_intercalate (fun _ member => isLine_of_mem member) (by simp [lines])

end Block

end Frame

namespace FrameParser

open LanguageClient.Frame

section

variable [Limits]

/-- Behind a header of fields exactly as many bytes are taken for the body as it announces: fewer
    are waited for, and with what they hold they are taken away from whatever comes behind them. No
    other field has a say in this, unless it stands behind and holds an announcement. -/
theorem feed_block {block : Block} (unannounced : Block.Unannounced block.back)
    (body rest : List UInt8) :
    (body.length < block.announcing.length →
      FrameParser.feed {} (block.bytes ++ (headerEnd ++ body)) =
        ⟨.ok [], ⟨⟨body⟩, some block.announcing.length⟩⟩) ∧
    (body.length = block.announcing.length →
      FrameParser.feed {} (block.bytes ++ (headerEnd ++ (body ++ rest))) =
        match messageOf? body with
        | .ok message => (FrameParser.feed {} rest).prepend message.toList
        | .error fault => ⟨.error fault, ⟨⟨rest⟩, none⟩⟩) := by
  have header (data : List UInt8) : FrameParser.feed {} (block.bytes ++ (headerEnd ++ data)) =
      drain ⟨⟨data⟩, some block.announcing.length⟩ := by
    have passes := @Passes.header _ block.bytes data _ block.isHead_bytes
      (Block.announces_bytes unannounced)
    show drain ⟨⟨block.bytes ++ (headerEnd ++ data)⟩, none⟩ = _
    rw [drain_of_taken passes.turn, Option.toList_none, Fed.prepend_nil]
  constructor
  · intro short
    rw [header, drain_of_rest (Waits.body short).turn]
  · intro sized
    rw [header, ← sized, drain_eq, turn_body]
    cases messageOf? body with
    | error fault => rfl
    | ok message => rfl

end

open scoped Limits.Usual

/-- A field of a longer name in front, the announcement itself in mixed letter case and with gaps,
    and a field behind it. -/
def mixedBlock : Block where
  front := [⟨Text.encodeUtf8 "X-Content-Length", Text.encodeUtf8 " 3", by decide, by decide⟩]
  announcing :=
    { name := Text.encodeUtf8 "cOnTeNt-LeNgTh", before := [32, 9], behind := [9, 32]
      digits := Text.encodeUtf8 "008", isName := by decide, isBefore := by decide
      isBehind := by decide, areDigits := by decide, numbered := by decide, short := by decide }
  back := [⟨Text.encodeUtf8 "Content-Type", Text.encodeUtf8 " content-length", by decide,
    by decide⟩]

/-- The body of eight bytes is taken, and no more than it. -/
theorem feed_mixedBlock :
    FrameParser.feed {} (mixedBlock.bytes ++ (headerEnd ++ Text.encodeUtf8 "\x7b\"id\":4")) =
      ⟨.ok [], ⟨⟨Text.encodeUtf8 "\x7b\"id\":4"⟩, some 8⟩⟩ ∧
    FrameParser.feed {}
        (mixedBlock.bytes ++ (headerEnd ++ (Text.encodeUtf8 "\x7b\"id\":4\x7d" ++ [67]))) =
      ⟨.ok [.obj [("id", .int 4)]], ⟨⟨[67]⟩, none⟩⟩ := by
  have unannounced : Block.Unannounced mixedBlock.back := by
    intro field member
    obtain rfl := List.mem_singleton.mp member
    exact lastAnnouncement?_eq_none_iff.mp (by decide)
  have length : mixedBlock.announcing.length = 8 := by decide
  constructor
  · exact length ▸ (feed_block unannounced _ []).1 (by rw [length]; decide)
  · rw [(feed_block unannounced _ _).2 (by rw [length]; decide)]
    with_unfolding_all rfl

/-- The announcement has only one field of its name, but the field behind it holds another one. -/
def rivalBlock : Block where
  front := []
  announcing :=
    { name := Text.encodeUtf8 "Content-Length", before := [], behind := [32]
      digits := Text.encodeUtf8 "8", isName := by decide, isBefore := by decide
      isBehind := by decide, areDigits := by decide, numbered := by decide, short := by decide }
  back := [⟨Text.encodeUtf8 "X-Note", Text.encodeUtf8 " Content-Length: 3", by decide, by decide⟩]

/-- The number that stands in the value of another field is taken for the length. -/
theorem feed_rivalBlock :
    (∀ field ∈ rivalBlock.front ++ rivalBlock.back, ¬IsLengthName field.name) ∧
      rivalBlock.announcing.length = (Text.encodeUtf8 "\x7b\"id\":4\x7d").length ∧
      FrameParser.feed {}
          (rivalBlock.bytes ++ (headerEnd ++ Text.encodeUtf8 "\x7b\"id\":4\x7d")) =
        ⟨.ok [], ⟨⟨Text.encodeUtf8 "d\":4\x7d"⟩, none⟩⟩ := by
  refine ⟨by decide, by decide, ?_⟩
  with_unfolding_all rfl

end FrameParser

end LanguageClient
