/-! # Text

Text is a sequence of code points. Almost always they are characters, and the text is a string.
But half of a surrogate pair can be spelt by itself, and text that holds one is still text: it is
compared, cut and joined like any other. Only bytes cannot be made of it.
-/

namespace LanguageClient

/-- A code point: a character, or half of a surrogate pair that stands by itself. -/
inductive CodePoint where
  | scalar (c : Char)
  | surrogate (offset : Fin 0x800)
  deriving Repr, DecidableEq

namespace CodePoint

instance : Coe Char CodePoint := ⟨scalar⟩

instance : Inhabited CodePoint := ⟨scalar default⟩

/-- The first code point of those that are halves of pairs. -/
def firstSurrogate : Nat := 0xD800

def toNat : CodePoint → Nat
  | scalar c => c.toNat
  | surrogate offset => firstSurrogate + offset

def ofNat (code : Nat) : CodePoint :=
  if isHalf : firstSurrogate ≤ code ∧ code < firstSurrogate + 0x800 then
    surrogate ⟨code - firstSurrogate, by omega⟩
  else scalar (Char.ofNat code)

def isScalar : CodePoint → Bool
  | scalar _ => true
  | surrogate _ => false

/-- The character that a code point is, if it is one. -/
def char? : CodePoint → Option Char
  | scalar c => some c
  | surrogate _ => none

@[simp] theorem toNat_scalar (c : Char) : (scalar c).toNat = c.toNat := rfl

@[simp] theorem ofNat_char (c : Char) : ofNat c.toNat = scalar c := by
  have whole : ¬ (firstSurrogate ≤ c.toNat ∧ c.toNat < firstSurrogate + 0x800) := by
    have := c.valid
    simp only [firstSurrogate]
    rcases this with low | high
    · have : c.toNat < 0xD800 := low
      omega
    · have : 0xDFFF < c.toNat := high.1
      omega
  rw [ofNat, dif_neg whole, Char.ofNat_toNat]

@[simp] theorem char?_scalar (c : Char) : (scalar c).char? = some c := rfl

@[simp] theorem isScalar_scalar (c : Char) : (scalar c).isScalar = true := rfl

/-- The characters among some code points. -/
def chars (points : List CodePoint) : List Char :=
  points.filterMap char?

@[simp] theorem chars_nil : chars [] = [] := rfl

@[simp] theorem chars_scalar (c : Char) (rest : List CodePoint) :
    chars (scalar c :: rest) = c :: chars rest := rfl

@[simp] theorem chars_append (front back : List CodePoint) :
    chars (front ++ back) = chars front ++ chars back :=
  List.filterMap_append

@[simp] theorem chars_map_scalar (text : List Char) : chars (text.map scalar) = text := by
  induction text with
  | nil => rfl
  | cons c rest ih => rw [List.map_cons, chars_scalar, ih]

theorem all_isScalar_map (text : List Char) : (text.map scalar).all isScalar = true := by
  induction text with
  | nil => rfl
  | cons c rest ih => rw [List.map_cons, List.all_cons, ih, isScalar_scalar, Bool.and_true]

/-- Code points that are characters throughout are those characters. -/
theorem map_scalar_chars {points : List CodePoint} (whole : points.all isScalar = true) :
    (chars points).map scalar = points := by
  induction points with
  | nil => rfl
  | cons point rest ih =>
    rw [List.all_cons, Bool.and_eq_true] at whole
    cases point with
    | scalar c => rw [chars_scalar, List.map_cons, ih whole.2]
    | surrogate offset => exact absurd whole.1 Bool.false_ne_true

end CodePoint

/-- Text: a string, or code points of which not all are characters. -/
inductive Text where
  | plain (text : String)
  | broken (points : List CodePoint) (unpaired : points.all CodePoint.isScalar = false)
  deriving Repr, DecidableEq

namespace Text

instance : Coe String Text := ⟨plain⟩

instance : Inhabited Text := ⟨plain ""⟩

def toList : Text → List CodePoint
  | plain text => text.toList.map CodePoint.scalar
  | broken points _ => points

/-- The text of some code points. -/
def ofList (points : List CodePoint) : Text :=
  if unpaired : points.all CodePoint.isScalar = false then broken points unpaired
  else plain (String.ofList (CodePoint.chars points))

def ofChars (text : List Char) : Text :=
  plain (String.ofList text)

def singleton (point : CodePoint) : Text :=
  ofList [point]

def isEmpty : Text → Bool
  | plain text => text.isEmpty
  | broken .. => false

/-- Whether text is a string, so that bytes can be made of it. -/
def isPlain : Text → Bool
  | plain _ => true
  | broken .. => false

def append : Text → Text → Text
  | plain front, plain back => plain (front ++ back)
  | front, back => ofList (front.toList ++ back.toList)

instance : Append Text := ⟨append⟩

/-- The texts in order with a text between each two of them. -/
def intercalate (between : Text) : List Text → Text
  | [] => ""
  | [text] => text
  | text :: rest => text ++ between ++ intercalate between rest

def join (texts : List Text) : Text :=
  texts.foldr (· ++ ·) ""

def startsWith (text front : Text) : Bool :=
  front.toList.isPrefixOf text.toList

/-! ## Text and its code points -/

@[simp] theorem toList_plain (text : String) :
    (plain text).toList = text.toList.map CodePoint.scalar := rfl

@[simp] theorem toList_ofList (points : List CodePoint) : (ofList points).toList = points := by
  unfold ofList
  split
  · rfl
  · next whole =>
    rw [toList_plain, String.toList_ofList,
      CodePoint.map_scalar_chars ((Bool.not_eq_false _).mp whole)]

theorem ofList_map_scalar (text : List Char) :
    ofList (text.map CodePoint.scalar) = plain (String.ofList text) := by
  have whole := CodePoint.all_isScalar_map text
  rw [ofList, dif_neg ((Bool.not_eq_false _).mpr whole), CodePoint.chars_map_scalar]

@[simp] theorem ofList_toList (text : Text) : ofList text.toList = text := by
  cases text with
  | plain text => rw [toList_plain, ofList_map_scalar, String.ofList_toList]
  | broken points unpaired => rw [toList, ofList, dif_pos unpaired]

theorem toList_injective {text other : Text} (same : text.toList = other.toList) :
    text = other := by
  rw [← ofList_toList text, same, ofList_toList]

theorem toList_inj {text other : Text} : text.toList = other.toList ↔ text = other :=
  ⟨toList_injective, congrArg toList⟩

theorem ofList_injective {points others : List CodePoint} (same : ofList points = ofList others) :
    points = others := by
  rw [← toList_ofList points, same, toList_ofList]

@[simp] theorem toList_empty : ("" : Text).toList = [] := rfl

@[simp] theorem toList_ofChars (text : List Char) :
    (ofChars text).toList = text.map CodePoint.scalar := by
  rw [ofChars, toList_plain, String.toList_ofList]

theorem toList_eq_nil_iff {text : Text} : text.toList = [] ↔ text = "" :=
  ⟨fun nothing => toList_injective nothing, fun nothing => by rw [nothing, toList_empty]⟩

theorem ofList_eq_empty_iff {points : List CodePoint} : ofList points = "" ↔ points = [] := by
  rw [← toList_eq_nil_iff, toList_ofList]

@[simp] theorem isEmpty_iff {text : Text} : text.isEmpty = true ↔ text = "" := by
  cases text with
  | plain text => rw [isEmpty, String.isEmpty_iff, plain.injEq]
  | broken points unpaired => simp [isEmpty]

@[simp] theorem isEmpty_eq_false_iff {text : Text} : text.isEmpty = false ↔ text ≠ "" := by
  rw [← Bool.not_eq_true, isEmpty_iff]

@[simp] theorem isPlain_plain (text : String) : (plain text).isPlain = true := rfl

theorem isPlain_iff {text : Text} : text.isPlain = true ↔ ∃ string, text = plain string := by
  cases text with
  | plain text => exact ⟨fun _ => ⟨text, rfl⟩, fun _ => rfl⟩
  | broken points unpaired => exact ⟨nofun, nofun⟩

@[simp] theorem isEmpty_plain (text : String) : (plain text).isEmpty = text.isEmpty := rfl

/-! ## Joining -/

@[simp] theorem plain_append (front back : String) :
    plain front ++ plain back = plain (front ++ back) := rfl

@[simp] theorem toList_append (front back : Text) :
    (front ++ back).toList = front.toList ++ back.toList := by
  cases front with
  | plain front =>
    cases back with
    | plain back => rw [plain_append, toList_plain, String.toList_append, List.map_append]; rfl
    | broken points unpaired => exact toList_ofList _
  | broken points unpaired => exact toList_ofList _

theorem ofList_append (front back : List CodePoint) :
    ofList (front ++ back) = ofList front ++ ofList back := by
  apply toList_injective
  rw [toList_append, toList_ofList, toList_ofList, toList_ofList]

@[simp] theorem empty_append (text : Text) : ("" : Text) ++ text = text := by
  apply toList_injective
  rw [toList_append, toList_empty, List.nil_append]

@[simp] theorem append_empty (text : Text) : text ++ ("" : Text) = text := by
  apply toList_injective
  rw [toList_append, toList_empty, List.append_nil]

theorem append_eq_empty_iff {front back : Text} : front ++ back = "" ↔ front = "" ∧ back = "" := by
  rw [← toList_eq_nil_iff, toList_append, List.append_eq_nil_iff, toList_eq_nil_iff,
    toList_eq_nil_iff]

theorem append_right_inj (front : Text) {back other : Text} :
    front ++ back = front ++ other ↔ back = other := by
  rw [← toList_inj, toList_append, toList_append, List.append_cancel_left_eq, toList_inj]

theorem toList_intercalate (between : Text) (texts : List Text) :
    (between.intercalate texts).toList = between.toList.intercalate (texts.map toList) := by
  induction texts with
  | nil => rfl
  | cons text rest ih =>
    cases rest with
    | nil => simp [intercalate, List.intercalate]
    | cons next more =>
      rw [intercalate, toList_append, toList_append, ih]
      · simp [List.intercalate]
      · exact List.cons_ne_nil next more

theorem startsWith_iff {text front : Text} :
    text.startsWith front = true ↔ front.toList <+: text.toList :=
  List.isPrefixOf_iff_prefix

/-! ## Classes of code points -/

/-- Inclusive runs of code points, in increasing order and apart from one another. -/
abbrev CodeRanges := List (Nat × Nat)

/-- Membership; the search ends at the first run that lies above the code point. -/
def CodeRanges.contains : CodeRanges → Nat → Bool
  | [], _ => false
  | (first, last) :: above, code =>
    if code < first then false
    else if code ≤ last then true
    else CodeRanges.contains above code

end Text

end LanguageClient
