import LanguageClient.Proofs.Frame.Chunks
import LanguageClient.Proofs.Frame.RoundTrip
import Mathlib.Algebra.Group.Nat.Defs

/-! # When feeding faults

Feeding goes over what waits, header by header and body by body. A header that announces
nothing of use is passed over, and so is a body that holds no object; the bytes behind are read
like any others. Two things are not passed over: a length with too many digits to be read, and
a body that is nested too deep. There the call faults, behind what it stumbled over, and the
messages that it had completed by then are lost.
-/

namespace LanguageClient

namespace ByteBuffer

variable {pattern bytes before : List UInt8}

theorem indexOf?_eq_none_iff : indexOf? pattern bytes = none ↔ ¬ pattern <:+: bytes := by
  induction bytes with
  | nil => simp [indexOf?, List.infix_nil]
  | cons byte rest ih =>
      rw [indexOf?, List.infix_cons_iff, ← List.isPrefixOf_iff_prefix, not_or, ← ih]
      split
      · next here => simp [here]
      · next elsewhere => simp [elsewhere]

private theorem isPrefix_unfinished (before pattern rest : List UInt8) :
    before ++ pattern.dropLast <+: before ++ (pattern ++ rest) := by
  rw [List.prefix_append_right_inj]
  exact (List.dropLast_prefix pattern).trans (List.prefix_append pattern rest)

/-- A pattern is found where it occurs if no earlier occurrence ends before this one does. -/
theorem indexOf?_of_first (nonempty : pattern ≠ [])
    (first : ¬ pattern <:+: before ++ pattern.dropLast) (rest : List UInt8) :
    indexOf? pattern (before ++ (pattern ++ rest)) = some before.length := by
  have size := List.length_pos_iff.mpr nonempty
  induction before with
  | nil =>
      obtain ⟨byte, behind, rfl⟩ := List.exists_cons_of_ne_nil nonempty
      have here : (byte :: behind).isPrefixOf (byte :: (behind ++ rest)) = true :=
        List.isPrefixOf_iff_prefix.mpr (List.prefix_append (byte :: behind) rest)
      exact if_pos here
  | cons byte before ih =>
      rw [List.cons_append, List.infix_cons_iff, not_or] at first
      have elsewhere : ¬ pattern.isPrefixOf (byte :: (before ++ (pattern ++ rest))) = true := by
        intro here
        apply first.1
        apply List.prefix_of_prefix_length_le (List.isPrefixOf_iff_prefix.mp here)
          (isPrefix_unfinished (byte :: before) pattern rest)
        simp only [List.cons_append, List.length_cons, List.length_append, List.length_dropLast]
        omega
      rw [List.cons_append, indexOf?, if_neg elsewhere, ih first.2]
      rfl

theorem first_of_indexOf? (nonempty : pattern ≠ []) {place : Nat}
    (found : indexOf? pattern bytes = some place) :
    ∃ before rest, bytes = before ++ (pattern ++ rest) ∧ before.length = place ∧
      ¬ pattern <:+: before ++ pattern.dropLast := by
  induction bytes generalizing place with
  | nil => simp [indexOf?, nonempty] at found
  | cons byte bytes ih =>
      rw [indexOf?] at found
      split at found
      · next here =>
        obtain ⟨rest, whole⟩ := List.isPrefixOf_iff_prefix.mp here
        refine ⟨[], rest, whole.symm, Option.some.inj found, ?_⟩
        intro inside
        have size := List.length_pos_iff.mpr nonempty
        have fits := inside.length_le
        rw [List.nil_append, List.length_dropLast] at fits
        omega
      · next elsewhere =>
        obtain ⟨earlier, later, rfl⟩ := Option.map_eq_some_iff.mp found
        obtain ⟨before, rest, rfl, rfl, first⟩ := ih later
        refine ⟨byte :: before, rest, rfl, rfl, ?_⟩
        rw [List.cons_append, List.infix_cons_iff, not_or]
        refine ⟨?_, first⟩
        intro here
        apply elsewhere
        rw [List.isPrefixOf_iff_prefix]
        exact here.trans (isPrefix_unfinished (byte :: before) pattern rest)

end ByteBuffer

namespace Frame

/-! ## Headers and bodies -/

/-- Some bytes are a header up to its end: with the end behind them, it does not come earlier. -/
def IsHead (head : List UInt8) : Prop :=
  ¬ headerEnd <:+: head ++ headerEnd.dropLast

/-- What a header announces of the body behind it: its length, or nothing of use if there is no
    number in the header or the last one is below zero. -/
inductive Announces (head : List UInt8) : Option Nat → Prop where
  | nothing (absent : lastAnnouncement? head = none) : Announces head none
  | negative {digits : List Nat} (last : lastAnnouncement? head = some ⟨true, digits⟩)
      (short : digits.length ≤ maxIntegerDigits) (below : Text.digitsValue digits ≠ 0) :
      Announces head none
  | length {negative : Bool} {digits : List Nat}
      (last : lastAnnouncement? head = some ⟨negative, digits⟩)
      (short : digits.length ≤ maxIntegerDigits)
      (notBelow : negative = true → Text.digitsValue digits = 0) :
      Announces head (some (Text.digitsValue digits))

/-- The length that a header announces last has so many digits, which are too many. -/
def Overlong (head : List UInt8) (count : Nat) : Prop :=
  maxIntegerDigits < count ∧
    ∃ announced, lastAnnouncement? head = some announced ∧ announced.digits.length = count

theorem contentLength_of_announces {head : List UInt8} {length : Option Nat}
    (announces : Announces head length) : contentLength head = .ok length := by
  unfold contentLength
  cases announces with
  | nothing absent => rw [absent]
  | negative last short below => simp [last, Nat.not_lt.mpr short, below]
  | @length negative digits last short notBelow =>
      rw [last]
      cases negative with
      | false => simp [Nat.not_lt.mpr short]
      | true => simp [Nat.not_lt.mpr short, notBelow rfl]

theorem contentLength_of_overlong {head : List UInt8} {count : Nat}
    (overlong : Overlong head count) : contentLength head = .error (.tooManyDigits count) := by
  obtain ⟨long, announced, last, rfl⟩ := overlong
  simp [contentLength, last, long]

theorem announces_or_overlong (head : List UInt8) :
    (∃ length, Announces head length) ∨ ∃ count, Overlong head count := by
  cases last : lastAnnouncement? head with
  | none => exact .inl ⟨none, .nothing last⟩
  | some announced =>
      obtain ⟨negative, digits⟩ := announced
      by_cases short : digits.length ≤ maxIntegerDigits
      · left
        by_cases zero : Text.digitsValue digits = 0
        · exact ⟨_, .length last short fun _ => zero⟩
        · cases negative with
          | true => exact ⟨none, .negative last short zero⟩
          | false => exact ⟨_, .length last short nofun⟩
      · exact .inr ⟨_, Nat.not_le.mp short, _, last, rfl⟩

variable [Limits]

/-- The object that a body holds. -/
def objectIn? (body : List UInt8) : Option Json :=
  match Text.decodeUtf8 body with
  | .error _ => none
  | .ok text =>
    match Json.read text with
    | .ok (.obj entries) => some (.obj entries)
    | _ => none

/-- A body holds JSON that is nested too deep to be read; `container` is the one too many. -/
def TooDeep (body : List UInt8) (container : Json.Container) : Prop :=
  ∃ text, Text.decodeUtf8 body = .ok text ∧ Json.read text = .error (.nestedTooDeep container)

def IsShallow (body : List UInt8) : Prop :=
  ∀ container, ¬ TooDeep body container

theorem messageOf?_of_shallow {body : List UInt8} (shallow : IsShallow body) :
    FrameParser.messageOf? body = .ok (objectIn? body) := by
  unfold FrameParser.messageOf? objectIn?
  cases decoded : Text.decodeUtf8 body with
  | error fault => rfl
  | ok text =>
      dsimp only
      cases read : Json.read text with
      | ok value => cases value <;> rfl
      | error fault =>
          cases fault with
          | nestedTooDeep container => exact absurd ⟨text, decoded, read⟩ (shallow container)
          | _ => rfl

theorem messageOf?_of_tooDeep {body : List UInt8} {container : Json.Container}
    (deep : TooDeep body container) :
    FrameParser.messageOf? body = .error (.nestedTooDeep container.name) := by
  obtain ⟨text, decoded, refused⟩ := deep
  simp only [FrameParser.messageOf?, decoded, refused]

theorem shallow_or_tooDeep (body : List UInt8) :
    IsShallow body ∨ ∃ container, TooDeep body container := by
  by_cases deep : ∃ container, TooDeep body container
  · exact .inr deep
  · exact .inl fun container isDeep => deep ⟨container, isDeep⟩

end Frame

namespace FrameParser

open LanguageClient.Frame

/-! ## One header, one body -/

variable [Limits]

/-- What comes first is passed over, with the message in it, if there is one. -/
inductive Passes : FrameParser → Option Json → FrameParser → Prop where
  | header {head rest : List UInt8} {length : Option Nat} (isHead : IsHead head)
      (announces : Announces head length) :
      Passes ⟨⟨head ++ (headerEnd ++ rest)⟩, none⟩ none ⟨⟨rest⟩, length⟩
  | body {body rest : List UInt8} (shallow : IsShallow body) :
      Passes ⟨⟨body ++ rest⟩, some body.length⟩ (objectIn? body) ⟨⟨rest⟩, none⟩

/-- What comes first is stumbled over, and left behind. -/
inductive Trips : FrameParser → Fault → FrameParser → Prop where
  | header {head rest : List UInt8} {count : Nat} (isHead : IsHead head)
      (overlong : Overlong head count) :
      Trips ⟨⟨head ++ (headerEnd ++ rest)⟩, none⟩ (.tooManyDigits count) ⟨⟨rest⟩, none⟩
  | body {body rest : List UInt8} {container : Json.Container}
      (deep : TooDeep body container) :
      Trips ⟨⟨body ++ rest⟩, some body.length⟩ (.nestedTooDeep container.name) ⟨⟨rest⟩, none⟩

/-- The header or the body that comes first is not complete. -/
inductive Waits : FrameParser → Prop where
  | header {bytes : List UInt8} (endless : ¬ headerEnd <:+: bytes) : Waits ⟨⟨bytes⟩, none⟩
  | body {bytes : List UInt8} {length : Nat} (short : bytes.length < length) :
      Waits ⟨⟨bytes⟩, some length⟩

theorem turn_head {head : List UInt8} (isHead : IsHead head) (rest : List UInt8) :
    turn ⟨⟨head ++ (headerEnd ++ rest)⟩, none⟩ = .ofHeader (contentLength head) ⟨rest⟩ := by
  have found : ByteBuffer.find? ⟨head ++ (headerEnd ++ rest)⟩ headerEnd = some head.length :=
    ByteBuffer.indexOf?_of_first (by decide) isHead rest
  have whole : head ++ (headerEnd ++ rest) = (head ++ headerEnd) ++ rest :=
    (List.append_assoc ..).symm
  have size : head.length + headerEnd.length = (head ++ headerEnd).length :=
    List.length_append.symm
  simp only [turn, found, size, ByteBuffer.consume, Int.toNat_natCast]
  rw [whole, List.take_left, List.drop_left, List.take_left]

theorem Passes.turn {parser next : FrameParser} {message : Option Json}
    (passes : parser.Passes message next) : parser.turn = .taken message next := by
  cases passes with
  | header isHead announces =>
      rw [turn_head isHead, contentLength_of_announces announces]
      rfl
  | body shallow =>
      rw [turn_body, messageOf?_of_shallow shallow]
      rfl

theorem Trips.turn {parser next : FrameParser} {cause : Fault}
    (trips : parser.Trips cause next) : parser.turn = .fault cause next := by
  cases trips with
  | header isHead overlong =>
      rw [turn_head isHead, contentLength_of_overlong overlong]
      rfl
  | body deep =>
      rw [turn_body, messageOf?_of_tooDeep deep]
      rfl

theorem Waits.turn {parser : FrameParser} (waits : parser.Waits) : parser.turn = .rest := by
  cases waits with
  | @header bytes endless =>
      have absent : ByteBuffer.find? ⟨bytes⟩ headerEnd = none :=
        ByteBuffer.indexOf?_eq_none_iff.mpr endless
      simp only [FrameParser.turn, absent]
  | @body bytes length short =>
      have lacks : ByteBuffer.holds ⟨bytes⟩ length = false := by
        rw [← Bool.not_eq_true, ByteBuffer.holds_iff]
        exact Nat.not_le.mpr short
      simp only [FrameParser.turn, lacks, Bool.false_eq_true, ↓reduceIte]

/-- There is nothing else that can come first. -/
theorem passes_or_trips_or_waits (parser : FrameParser) :
    (∃ message next, parser.Passes message next) ∨ (∃ cause next, parser.Trips cause next) ∨
      parser.Waits := by
  obtain ⟨⟨bytes⟩, expected⟩ := parser
  cases expected with
  | none =>
      cases found : ByteBuffer.indexOf? headerEnd bytes with
      | none => exact .inr (.inr (.header (ByteBuffer.indexOf?_eq_none_iff.mp found)))
      | some place =>
          obtain ⟨head, rest, rfl, _, isHead⟩ :=
            ByteBuffer.first_of_indexOf? (by decide) found
          rcases announces_or_overlong head with ⟨length, announces⟩ | ⟨count, overlong⟩
          · exact .inl ⟨none, _, .header isHead announces⟩
          · exact .inr (.inl ⟨_, _, .header isHead overlong⟩)
  | some length =>
      by_cases fits : length ≤ bytes.length
      · obtain ⟨body, rest, rfl, rfl⟩ :
            ∃ body rest, bytes = body ++ rest ∧ length = body.length :=
          ⟨bytes.take length, bytes.drop length, (List.take_append_drop ..).symm,
            (List.length_take_of_le fits).symm⟩
        rcases shallow_or_tooDeep body with shallow | ⟨container, deep⟩
        · exact .inl ⟨_, _, .body shallow⟩
        · exact .inr (.inl ⟨_, _, .body deep⟩)
      · exact .inr (.inr (.body (Nat.not_le.mp fits)))

theorem waits_of_rest {parser : FrameParser} (rest : parser.turn = .rest) : parser.Waits := by
  rcases passes_or_trips_or_waits parser with ⟨_, _, passes⟩ | ⟨_, _, trips⟩ | waits
  · exact nomatch passes.turn.symm.trans rest
  · exact nomatch trips.turn.symm.trans rest
  · exact waits

theorem trips_of_fault {parser next : FrameParser} {cause : Fault}
    (fault : parser.turn = .fault cause next) : parser.Trips cause next := by
  rcases passes_or_trips_or_waits parser with ⟨_, _, passes⟩ | ⟨_, _, trips⟩ | waits
  · exact nomatch passes.turn.symm.trans fault
  · obtain ⟨rfl, rfl⟩ := Turn.fault.inj (trips.turn.symm.trans fault)
    exact trips
  · exact nomatch waits.turn.symm.trans fault

theorem passes_of_taken {parser next : FrameParser} {message : Option Json}
    (taken : parser.turn = .taken message next) : parser.Passes message next := by
  rcases passes_or_trips_or_waits parser with ⟨_, _, passes⟩ | ⟨_, _, trips⟩ | waits
  · obtain ⟨rfl, rfl⟩ := Turn.taken.inj (passes.turn.symm.trans taken)
    exact passes
  · exact nomatch trips.turn.symm.trans taken
  · exact nomatch waits.turn.symm.trans taken

/-! ## All that waits -/

/-- Headers and bodies are passed over one after another, with the messages in them. -/
inductive Skims : FrameParser → List Json → FrameParser → Prop where
  | nothing (parser : FrameParser) : Skims parser [] parser
  | one {parser middle next : FrameParser} {message : Option Json} {messages : List Json}
      (passes : parser.Passes message middle) (later : Skims middle messages next) :
      Skims parser (message.toList ++ messages) next

theorem Skims.drain {parser next : FrameParser} {messages : List Json}
    (skims : parser.Skims messages next) : parser.drain = next.drain.prepend messages := by
  induction skims with
  | nothing parser => exact (Fed.prepend_nil _).symm
  | one passes _ ih => rw [drain_of_taken passes.turn, ih, Fed.prepend_prepend]

theorem skims_to_end (parser : FrameParser) :
    ∃ messages next, parser.Skims messages next ∧
      (next.Waits ∨ ∃ cause behind, next.Trips cause behind) := by
  induction parser using turn_induction with
  | rest parser h => exact ⟨[], parser, .nothing parser, .inl (waits_of_rest h)⟩
  | fault parser cause next h =>
      exact ⟨[], parser, .nothing parser, .inr ⟨cause, next, trips_of_fault h⟩⟩
  | taken parser message next h ih =>
      obtain ⟨messages, last, later, ended⟩ := ih
      exact ⟨_, last, .one (passes_of_taken h) later, ended⟩

theorem drain_of_skims_waits {parser next : FrameParser} {messages : List Json}
    (skims : parser.Skims messages next) (waits : next.Waits) :
    parser.drain = ⟨.ok messages, next⟩ := by
  rw [skims.drain, drain_of_rest waits.turn]
  simp [Fed.prepend, Except.map]

theorem drain_of_skims_trips {parser last next : FrameParser} {lost : List Json} {cause : Fault}
    (skims : parser.Skims lost last) (trips : last.Trips cause next) :
    parser.drain = ⟨.error cause, next⟩ := by
  rw [skims.drain, drain_of_fault trips.turn]
  rfl

/-- Feeding gives messages exactly if it passes over all that waits up to what is not complete:
    then it gives all of them, and leaves the rest. It faults exactly if it stumbles: then it is
    left behind what it stumbled over, and the messages up to there are lost. -/
theorem feed_outcome (parser : FrameParser) (data : List UInt8) (messages : List Json)
    (cause : Fault) (next : FrameParser) :
    (parser.feed data = ⟨.ok messages, next⟩ ↔
      (parser.append data).Skims messages next ∧ next.Waits) ∧
    (parser.feed data = ⟨.error cause, next⟩ ↔
      ∃ lost last, (parser.append data).Skims lost last ∧ last.Trips cause next) := by
  rw [feed_eq]
  obtain ⟨found, last, skims, waits | ⟨actual, behind, trips⟩⟩ :=
    skims_to_end (parser.append data)
  · have drained := drain_of_skims_waits skims waits
    refine ⟨⟨?_, fun ⟨skims, waits⟩ => drain_of_skims_waits skims waits⟩, ?_,
      fun ⟨_, _, skims, trips⟩ => drain_of_skims_trips skims trips⟩
    · intro same
      rw [drained] at same
      obtain ⟨rfl, rfl⟩ : found = messages ∧ last = next := by simpa using same
      exact ⟨skims, waits⟩
    · intro same
      rw [drained] at same
      simp at same
  · have drained := drain_of_skims_trips skims trips
    refine ⟨⟨?_, fun ⟨skims, waits⟩ => drain_of_skims_waits skims waits⟩, ?_,
      fun ⟨_, _, skims, trips⟩ => drain_of_skims_trips skims trips⟩
    · intro same
      rw [drained] at same
      simp at same
    · intro same
      rw [drained] at same
      obtain ⟨rfl, rfl⟩ : actual = cause ∧ behind = next := by simpa using same
      exact ⟨found, last, skims, trips⟩

end FrameParser

namespace Frame

/-! ## Headers that were written -/

/-- A byte that is no part of a pattern keeps its occurrences on either side. -/
theorem not_infix_append_cons {pattern first second : List UInt8} {byte : UInt8}
    (foreign : byte ∉ pattern) (notFirst : ¬ pattern <:+: first)
    (notSecond : ¬ pattern <:+: second) : ¬ pattern <:+: first ++ byte :: second := by
  intro inside
  rcases List.infix_append_iff.mp inside with left | right | ⟨front, back, rfl, ends, begins⟩
  · exact notFirst left
  · rcases List.infix_cons_iff.mp right with here | later
    · cases pattern with
      | nil => exact notFirst List.nil_infix
      | cons other pattern =>
          have same : other = byte := (List.cons_prefix_cons.mp here).1
          exact foreign (same ▸ List.mem_cons_self)
    · exact notSecond later
  · cases back with
    | nil =>
        rw [List.append_nil] at notFirst
        exact notFirst ends.isInfix
    | cons other back =>
        have same : other = byte := (List.cons_prefix_cons.mp begins).1
        exact foreign (same ▸ List.mem_append_right front List.mem_cons_self)

/-- A header that was written ends where it was made to end, behind any noise that holds no end
    of a header: none arises where the two meet. -/
theorem isHead_append {noise : List UInt8} (endless : ¬ headerEnd <:+: noise) (length : Nat) :
    IsHead (noise ++ announcement length) := by
  have absent : (10 : UInt8) ∉ announcementStart.tail ++ digitBytes length := by
    intro member
    rcases List.mem_append.mp member with start | digit
    · revert start
      decide
    · exact absurd rfl (ne_of_range (range_of_mem_digitBytes digit) (by decide))
  have unfinished : ¬ headerEnd <:+:
      announcementStart.tail ++ digitBytes length ++ headerEnd.dropLast := by
    intro inside
    have fits := inside.sublist.count_le 10
    rw [List.count_append, List.count_eq_zero.mpr absent] at fits
    exact absurd fits (by decide)
  have start : noise ++ announcement length ++ headerEnd.dropLast =
      noise ++ 67 :: (announcementStart.tail ++ digitBytes length ++ headerEnd.dropLast) :=
    List.append_assoc ..
  rw [IsHead, start]
  exact not_infix_append_cons (by decide) endless unfinished

/-- The last announcement counts, whatever stands in front of it. -/
theorem lastAnnouncement?_append {bytes : List UInt8} {announced : Announced}
    (last : lastAnnouncement? bytes = some announced) (noise : List UInt8) :
    lastAnnouncement? (noise ++ bytes) = some announced := by
  induction noise with
  | nil => exact last
  | cons byte noise ih => rw [List.cons_append, lastAnnouncement?, ih]

theorem announces_append {length : Nat}
    (short : (Nat.toDigits 10 length).length ≤ maxIntegerDigits) (noise : List UInt8) :
    Announces (noise ++ announcement length) (some length) := by
  have last := lastAnnouncement?_append (lastAnnouncement?_announcement length) noise
  have announces := Announces.length last (by rwa [Text.length_decimalDigits]) nofun
  rwa [Text.digitsValue_decimalDigits] at announces

theorem overlong_append {length : Nat}
    (long : maxIntegerDigits < (Nat.toDigits 10 length).length) (noise : List UInt8) :
    Overlong (noise ++ announcement length) (Nat.toDigits 10 length).length :=
  ⟨long, _, lastAnnouncement?_append (lastAnnouncement?_announcement length) noise,
    Text.length_decimalDigits length⟩

end Frame

namespace FrameParser

open LanguageClient.Frame

/-! ## A length with too many digits -/

section

variable [Limits]

/-- A message in front of a header with such a length is lost. -/
theorem feed_lost {message : Json} (fit : Transmissible message) {length : Nat}
    (long : maxIntegerDigits < (Nat.toDigits 10 length).length) (rest : List UInt8) :
    ∃ frame, encode message = .ok frame ∧
      FrameParser.feed {} (frame ++ (header length ++ rest)) =
        ⟨.error (.tooManyDigits (Nat.toDigits 10 length).length), ⟨⟨rest⟩, none⟩⟩ := by
  refine ⟨_, encode_of_plain fit.plain fit.writable, ?_⟩
  have isHead := @isHead_append [] (by decide) length
  have trips := @Trips.header _ _ rest _ isHead (overlong_append long [])
  rw [List.nil_append, ← List.append_assoc, ← header_eq] at trips
  show drain ⟨⟨wrap _ ++ (header length ++ rest)⟩, none⟩ = _
  rw [drain_wrap fit.announceable (messageOf?_body fit), drain_of_fault trips.turn]
  rfl

end

open scoped Limits.Usual

/-- The first message is lost, and the second one is left for the next call. -/
theorem feed_overlong :
    ∃ first second, encode (.obj [("id", .int 1)]) = .ok first ∧
      encode (.obj [("id", .int 2)]) = .ok second ∧
      FrameParser.feed {} (first ++ (header (10 ^ 4300) ++ second)) =
        ⟨.error (.tooManyDigits 4301), ⟨⟨second⟩, none⟩⟩ := by
  have fit : Transmissible (.obj [("id", .int 1)]) := ⟨rfl, rfl, by decide, by decide, by decide⟩
  have count : (Nat.toDigits 10 (10 ^ 4300)).length = 4301 := by decide +kernel
  have second : ∃ second, encode (.obj [("id", .int 2)]) = .ok second :=
    ⟨_, encode_of_plain rfl (by decide)⟩
  obtain ⟨second, written⟩ := second
  obtain ⟨first, encoded, lost⟩ := @feed_lost _ _ fit (10 ^ 4300) (by rw [count]; decide) second
  rw [count] at lost
  exact ⟨first, second, encoded, written, lost⟩

end FrameParser

end LanguageClient
