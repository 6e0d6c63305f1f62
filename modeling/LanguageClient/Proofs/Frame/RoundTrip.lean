import LanguageClient.Frame.Encode
import LanguageClient.Proofs.Frame.Turn
import LanguageClient.Proofs.Json.Spelling
import LanguageClient.Proofs.Text.Utf8

/-! # Messages through frames

Frames that were written are taken apart again, one for one. Only the length in a header says
where its body ends, so a body may hold anything, an end of a header or another announcement
included.
-/

namespace LanguageClient

namespace Frame

/-- The bytes of `Content-Length: `, as headers are written. -/
def announcementStart : List UInt8 :=
  [67, 111, 110, 116, 101, 110, 116, 45, 76, 101, 110, 103, 116, 104, 58, 32]

def digitBytes (n : Nat) : List UInt8 :=
  (Nat.toDigits 10 n).map (fun c => UInt8.ofNat c.toNat)

/-- A header without its end. -/
def announcement (length : Nat) : List UInt8 :=
  announcementStart ++ digitBytes length

private theorem encodeChars_digits {text : List Char} (digits : ∀ c ∈ text, c.isDigit = true) :
    Text.encodeChars text = text.map (fun c => UInt8.ofNat c.toNat) := by
  induction text with
  | nil => rfl
  | cons c text ih =>
      have digit := digits c (List.mem_cons_self ..)
      simp only [Char.isDigit, Bool.and_eq_true, decide_eq_true_eq] at digit
      have small : c.toNat < 0x80 := Nat.lt_of_le_of_lt digit.2 (by decide)
      have one : Text.encodeChar c = [UInt8.ofNat c.toNat] := if_pos small
      rw [Text.encodeChars, List.flatMap_cons, one, List.map_cons,
        ← ih (fun d member => digits d (List.mem_cons_of_mem c member))]
      rfl

theorem header_eq (length : Nat) : header length = announcement length ++ headerEnd := by
  have digits : Text.encodeChars (Nat.toDigits 10 length) = digitBytes length :=
    encodeChars_digits (fun _ member => Text.isDigit_of_mem_toDigits member)
  have parts : ("Content-Length: " ++ toString length ++ "\r\n\r\n").toList =
      "Content-Length: ".toList ++ Nat.toDigits 10 length ++ "\r\n\r\n".toList := by
    rw [String.toList_append, String.toList_append, Nat.toString_eq_repr, Nat.toList_repr]
  rw [header, Text.encodeUtf8, parts, Text.encodeChars, List.flatMap_append, List.flatMap_append]
  show _ ++ Text.encodeChars (Nat.toDigits 10 length) ++ _ = _
  rw [digits]
  rfl

/-! ## The announced length -/

private theorem digitByte {c : Char} (digit : c.isDigit = true) :
    digitOf? (UInt8.ofNat c.toNat) = some (c.toNat - '0'.toNat) ∧
      (UInt8.ofNat c.toNat).toNat = c.toNat ∧ 48 ≤ c.toNat ∧ c.toNat ≤ 57 := by
  simp only [Char.isDigit, Bool.and_eq_true, decide_eq_true_eq] at digit
  have above : 48 ≤ c.toNat := digit.1
  have below : c.toNat ≤ 57 := digit.2
  have value : (UInt8.ofNat c.toNat).toNat = c.toNat :=
    UInt8.toNat_ofNat_of_lt (Nat.lt_of_le_of_lt below (by decide))
  refine ⟨?_, value, above, below⟩
  rw [digitOf?, if_pos, value]
  · rfl
  · constructor
    · rw [UInt8.le_iff_toNat_le, value]
      exact above
    · rw [UInt8.le_iff_toNat_le, value]
      exact below

private theorem leadingDigits_digits {text : List Char} (digits : ∀ c ∈ text, c.isDigit = true) :
    leadingDigits (text.map (fun c => UInt8.ofNat c.toNat)) =
      text.map (fun c => c.toNat - '0'.toNat) := by
  induction text with
  | nil => rfl
  | cons c text ih =>
      obtain ⟨value, _⟩ := digitByte (digits c (List.mem_cons_self ..))
      rw [List.map_cons, leadingDigits, value,
        ih (fun d member => digits d (List.mem_cons_of_mem c member)), List.map_cons]

theorem leadingDigits_digitBytes (n : Nat) :
    leadingDigits (digitBytes n) = Text.decimalDigits n :=
  leadingDigits_digits (fun _ member => Text.isDigit_of_mem_toDigits member)

/-- The first letter of the name of an announcement is needed for one to begin. -/
theorem lastAnnouncement?_append_eq_none {bytes rest : List UInt8}
    (absent : ∀ byte ∈ bytes, 99 ≠ lowerByte byte) (behind : lastAnnouncement? rest = none) :
    lastAnnouncement? (bytes ++ rest) = none := by
  induction bytes with
  | nil => exact behind
  | cons byte bytes ih =>
      have later := ih (fun other member => absent other (List.mem_cons_of_mem byte member))
      have here : dropName? lengthName (byte :: (bytes ++ rest)) = none :=
        if_neg (absent byte (List.mem_cons_self ..))
      rw [List.cons_append, lastAnnouncement?, later, announcementAt?, here]

theorem lastAnnouncement?_of_tail {bytes : List UInt8}
    (later : lastAnnouncement? bytes.tail = none) :
    lastAnnouncement? bytes = announcementAt? bytes := by
  cases bytes with
  | nil => rfl
  | cons byte rest =>
      rw [List.tail_cons] at later
      rw [lastAnnouncement?, later]

theorem range_of_mem_digitBytes {n : Nat} {byte : UInt8} (member : byte ∈ digitBytes n) :
    48 ≤ byte.toNat ∧ byte.toNat ≤ 57 := by
  obtain ⟨c, among, rfl⟩ := List.mem_map.mp member
  obtain ⟨_, value, above, below⟩ := digitByte (Text.isDigit_of_mem_toDigits among)
  rw [value]
  exact ⟨above, below⟩

theorem ne_of_range {byte other : UInt8} (range : 48 ≤ byte.toNat ∧ byte.toNat ≤ 57)
    (outside : other.toNat < 48 ∨ 57 < other.toNat) : byte ≠ other := by
  rintro rfl
  omega

private theorem announcedNumber?_digitBytes (n : Nat) :
    announcedNumber? (dropGap (32 :: digitBytes n)) = some ⟨false, Text.decimalDigits n⟩ := by
  have all := leadingDigits_digitBytes n
  have some : (Text.decimalDigits n).isEmpty = false := by
    rw [List.isEmpty_eq_false_iff, ← List.length_pos_iff, Text.length_decimalDigits]
    exact Nat.length_toDigits_pos
  cases bytes : digitBytes n with
  | nil =>
      rw [bytes] at all
      rw [← all] at some
      simp [leadingDigits] at some
  | cons byte rest =>
      have range := @range_of_mem_digitBytes n byte (by rw [bytes]; exact List.mem_cons_self ..)
      have gapless : dropGap (32 :: byte :: rest) = byte :: rest := by
        have notGap : (byte == 32 || byte == 9) = false := by
          rw [Bool.or_eq_false_iff, beq_eq_false_iff_ne, beq_eq_false_iff_ne]
          exact ⟨ne_of_range range (by decide), ne_of_range range (by decide)⟩
        rw [dropGap, List.dropWhile_cons_of_pos (by decide), List.dropWhile_cons, notGap]
        rfl
      rw [bytes] at all
      rw [gapless, announcedNumber?, all, some]
      · rfl
      · intro behind signed
        exact ne_of_range range (by decide) (List.cons.inj signed).1

theorem lastAnnouncement?_announcement (length : Nat) :
    lastAnnouncement? (announcement length) = some ⟨false, Text.decimalDigits length⟩ := by
  have later : lastAnnouncement? (announcement length).tail = none := by
    rw [← List.append_nil (announcement length).tail]
    refine lastAnnouncement?_append_eq_none ?_ rfl
    intro byte member
    rcases List.mem_append.mp (show byte ∈ announcementStart.tail ++ digitBytes length from member)
      with start | digit
    · have written : ∀ other ∈ announcementStart.tail, 99 ≠ lowerByte other := by
        decide +kernel
      exact written byte start
    · have range := range_of_mem_digitBytes digit
      have kept : lowerByte byte = byte := by
        apply if_neg
        rw [UInt8.le_iff_toNat_le]
        have : (65 : UInt8).toNat = 65 := rfl
        omega
      rw [kept]
      exact (ne_of_range range (by decide)).symm
  have here : announcementAt? (announcement length) = some ⟨false, Text.decimalDigits length⟩ :=
    announcedNumber?_digitBytes length
  exact (lastAnnouncement?_of_tail later).trans here

theorem contentLength_announcement {length : Nat}
    (short : (Nat.toDigits 10 length).length ≤ maxIntegerDigits) :
    contentLength (announcement length) = .ok (some length) := by
  rw [contentLength, lastAnnouncement?_announcement]
  simp only [Text.length_decimalDigits, gt_iff_lt, Nat.not_lt.mpr short, ↓reduceIte,
    Text.digitsValue_decimalDigits, Bool.false_and, Bool.false_eq_true]

/-! ## Turns over a frame -/

private theorem indexOf?_of_absent {first : UInt8} {pattern before : List UInt8}
    (absent : first ∉ before) (rest : List UInt8) :
    ByteBuffer.indexOf? (first :: pattern) (before ++ (first :: pattern ++ rest)) =
      some before.length := by
  induction before with
  | nil =>
      have here : (first :: pattern).isPrefixOf (first :: pattern ++ rest) = true :=
        List.isPrefixOf_iff_prefix.mpr (List.prefix_append _ rest)
      exact if_pos here
  | cons byte before ih =>
      rw [List.mem_cons, not_or] at absent
      have notHere : ¬ (first :: pattern).isPrefixOf
          (byte :: (before ++ (first :: pattern ++ rest))) = true := by
        intro longer
        exact absent.1 (List.cons_prefix_cons.mp (List.isPrefixOf_iff_prefix.mp longer)).1
      rw [List.cons_append, ByteBuffer.indexOf?, if_neg notHere, ih absent.2]
      rfl

end Frame

namespace FrameParser

open LanguageClient.Frame

variable [Limits]

/-- A header that was written is taken as the length that it was written for. -/
theorem turn_header {length : Nat} (short : (Nat.toDigits 10 length).length ≤ maxIntegerDigits)
    (rest : List UInt8) :
    turn ⟨⟨header length ++ rest⟩, none⟩ = .taken none ⟨⟨rest⟩, some length⟩ := by
  have absent : (13 : UInt8) ∉ announcement length := by
    intro member
    rcases List.mem_append.mp member with start | digit
    · revert start
      decide
    · exact absurd rfl (ne_of_range (range_of_mem_digitBytes digit) (by decide))
  have found : ByteBuffer.find? ⟨header length ++ rest⟩ headerEnd =
      some (announcement length).length := by
    rw [header_eq, List.append_assoc]
    exact indexOf?_of_absent absent rest
  have size : (announcement length).length + headerEnd.length = (header length).length := by
    rw [header_eq, List.length_append]
  simp only [turn, found, size, ByteBuffer.consume, Int.toNat_natCast, List.take_left,
    List.drop_left]
  rw [header_eq, List.take_left, contentLength_announcement short]
  rfl

/-- A body is taken as far as was announced, whatever it holds. -/
theorem turn_body (body rest : List UInt8) :
    turn ⟨⟨body ++ rest⟩, some body.length⟩ = .ofBody (messageOf? body) ⟨rest⟩ := by
  have holds : ByteBuffer.holds ⟨body ++ rest⟩ body.length = true := by
    rw [ByteBuffer.holds_iff, ByteBuffer.size, List.length_append]
    omega
  simp only [turn, holds, ↓reduceIte, ByteBuffer.consume, Int.toNat_natCast, List.take_left,
    List.drop_left]

/-- A frame in front is taken with the message in its body, if there is one. -/
theorem drain_wrap {body : List UInt8} {message : Option Json}
    (short : (Nat.toDigits 10 body.length).length ≤ maxIntegerDigits)
    (holds : messageOf? body = .ok message) (rest : List UInt8) :
    drain ⟨⟨wrap body ++ rest⟩, none⟩ = (drain ⟨⟨rest⟩, none⟩).prepend message.toList := by
  have taken : turn ⟨⟨body ++ rest⟩, some body.length⟩ = .taken message ⟨⟨rest⟩, none⟩ := by
    rw [turn_body, holds]
    rfl
  rw [wrap, List.append_assoc, drain_of_taken (turn_header short _), Option.toList_none,
    Fed.prepend_nil, drain_of_taken taken]

end FrameParser

namespace Frame

/-- Nothing is in the way of making bytes of characters. -/
theorem unencodable?_of_isScalar {points : List CodePoint}
    (whole : points.all CodePoint.isScalar = true) (escapes : Fin 0x800 → Bool) (place : Nat) :
    Text.unencodable? escapes place points = none :=
  Text.unencodable?_eq_none (fun _ member => nomatch List.all_eq_true.mp whole _ member) place

variable [Limits]

theorem encode_of_plain {message : Json} (plain : message.isPlain = true)
    (low : message.height ≤ Limits.writing) :
    encode message = .ok (wrap (Text.encodeChars message.written)) := by
  have writable : message.unwritable? = none := Json.obstacle?_of_plain plain low
  rw [encode, body, writable]
  simp only [encodePoints, unencodable?_of_isScalar (Json.all_isScalar_print plain)]
  rfl

end Frame

/-- What a message must be like to pass through a frame: an object without fractions, long
    integers, unpaired surrogates and repeated names, not nested too deep, and not too long for its
    length to be read, which no machine could hold. -/
structure Transmissible [Limits] (message : Json) : Prop where
  isObject : message.isObj = true
  plain : message.isPlain = true
  writable : message.height ≤ Limits.writing
  readable : message.height ≤ Limits.reading
  announceable :
    (Nat.toDigits 10 (Text.encodeChars message.written).length).length ≤ maxIntegerDigits

namespace FrameParser

section

variable [Limits]

theorem messageOf?_body {message : Json} (fit : Transmissible message) :
    messageOf? (Text.encodeChars message.written) = .ok (some message) := by
  have read := Json.read_print fit.plain fit.readable
  rw [messageOf?, Text.decodeUtf8_encodeChars]
  cases message with
  | obj entries => simp only [read]
  | _ => exact absurd fit.isObject Bool.false_ne_true

theorem mapM_encode {messages : List Json} (fit : ∀ message ∈ messages, Transmissible message) :
    messages.mapM Frame.encode =
      .ok (messages.map fun message => Frame.wrap (Text.encodeChars message.written)) := by
  induction messages with
  | nil => rfl
  | cons message messages ih =>
      have first := fit message (List.mem_cons_self ..)
      rw [List.mapM_cons, Frame.encode_of_plain first.plain first.writable,
        ih (fun other member => fit other (List.mem_cons_of_mem message member))]
      rfl

/-- Messages have frames, and these, fed in one piece, give the messages in order and leave
    nothing. -/
theorem feed_encode {messages : List Json}
    (fit : ∀ message ∈ messages, Transmissible message) :
    ∃ frames, messages.mapM Frame.encode = .ok frames ∧
      FrameParser.feed {} frames.flatten = ⟨.ok messages, {}⟩ := by
  refine ⟨_, mapM_encode fit, ?_⟩
  show drain ⟨⟨List.flatten _⟩, none⟩ = _
  induction messages with
  | nil => exact drain_of_rest rfl
  | cons message messages ih =>
      have first := fit message (List.mem_cons_self ..)
      rw [List.map_cons, List.flatten_cons, drain_wrap first.announceable (messageOf?_body first),
        ih (fun other member => fit other (List.mem_cons_of_mem message member))]
      rfl

end

open scoped Limits.Usual

/-- A message that holds an end of a header, an announcement and controls, with one behind. -/
theorem feed_encode_frame_inside :
    ∃ frames, List.mapM Frame.encode
      [.obj [("text", .str "\r\n\r\nContent-Length: 5\r\n\r\né\x00\"\\"),
        ("items", .arr [.null, .bool true, .int (-120), .obj []])], .obj []] = .ok frames ∧
      FrameParser.feed {} frames.flatten =
        ⟨.ok [.obj [("text", .str "\r\n\r\nContent-Length: 5\r\n\r\né\x00\"\\"),
          ("items", .arr [.null, .bool true, .int (-120), .obj []])], .obj []], {}⟩ := by
  apply feed_encode
  intro message member
  simp only [List.mem_cons, List.not_mem_nil, or_false] at member
  rcases member with rfl | rfl
  · exact ⟨rfl, rfl, by decide, by decide, by decide⟩
  · exact ⟨rfl, rfl, by decide, by decide, by decide⟩

end FrameParser

end LanguageClient
