import LanguageClient.Frame.Parser

/-! # The turns of the frame parser

Taking frames goes turn by turn: each takes a header or a body off the front of what waits.
A turn looks at nothing behind what it takes, so bytes that arrive later change neither what
it takes nor whether it faults. All that is said here of taking frames follows from what one
turn does.
-/

namespace LanguageClient

namespace ByteBuffer

/-- More bytes behind do not move the place where some bytes first occur. -/
theorem indexOf?_append {pattern bytes : List UInt8} {place : Nat}
    (found : indexOf? pattern bytes = some place) (data : List UInt8) :
    indexOf? pattern (bytes ++ data) = some place := by
  induction bytes generalizing place with
  | nil =>
      unfold indexOf? at found
      split at found
      · next empty =>
        obtain rfl := List.isEmpty_iff.mp empty
        cases data <;> simpa [indexOf?] using found
      · simp at found
  | cons byte rest ih =>
      have fits := indexOf?_add_length_le found
      unfold indexOf? at found
      rw [List.cons_append, indexOf?]
      split at found
      · next here =>
        have longer : pattern <+: byte :: (rest ++ data) :=
          (List.isPrefixOf_iff_prefix.mp here).trans (List.prefix_append (byte :: rest) data)
        rw [if_pos (List.isPrefixOf_iff_prefix.mpr longer)]
        exact found
      · next notHere =>
        obtain ⟨before, later, rfl⟩ := Option.map_eq_some_iff.mp found
        -- Were it at the front of the longer text, it would lie within the shorter one.
        have notLonger : ¬ pattern.isPrefixOf (byte :: (rest ++ data)) = true := by
          intro longer
          apply notHere
          rw [List.isPrefixOf_iff_prefix] at longer ⊢
          exact List.prefix_of_prefix_length_le longer
            (List.prefix_append (byte :: rest) data) (by omega)
        rw [if_neg notLonger, ih later]
        rfl

theorem find?_append {buffer : ByteBuffer} {pattern : List UInt8} {place : Nat}
    (found : buffer.find? pattern = some place) (data : List UInt8) :
    (buffer.append data).find? pattern = some place :=
  indexOf?_append found data

theorem consume_append {buffer : ByteBuffer} {count : Nat} (fits : count ≤ buffer.size)
    (data : List UInt8) :
    (buffer.append data).consume count =
      ((buffer.consume count).1, (buffer.consume count).2.append data) := by
  unfold size at fits
  simp only [consume, append, Int.toNat_natCast, List.take_append_of_le_length fits,
    List.drop_append_of_le_length fits]

@[simp]
theorem append_nil (buffer : ByteBuffer) : buffer.append [] = buffer := by
  simp [append]

theorem append_append (buffer : ByteBuffer) (first second : List UInt8) :
    (buffer.append first).append second = buffer.append (first ++ second) := by
  simp [append]

end ByteBuffer

namespace FrameParser

def append (parser : FrameParser) (data : List UInt8) : FrameParser :=
  { parser with buffer := parser.buffer.append data }

/-- What one turn does. -/
inductive Turn where
  /-- Nothing: more bytes are needed. -/
  | rest
  /-- A header or a body faults; `next` is behind it. -/
  | fault (cause : Fault) (next : FrameParser)
  /-- A header or a body is taken, which may complete a message. -/
  | taken (message : Option Json) (next : FrameParser)

/-- The turn that takes a header which announces some length. -/
def Turn.ofHeader (length : Except Fault (Option Nat)) (behind : ByteBuffer) : Turn :=
  match length with
  | .error cause => .fault cause ⟨behind, none⟩
  | .ok expected => .taken none ⟨behind, expected⟩

/-- The turn that takes a body with some message in it. -/
def Turn.ofBody (message : Except Fault (Option Json)) (behind : ByteBuffer) : Turn :=
  match message with
  | .error cause => .fault cause ⟨behind, none⟩
  | .ok message => .taken message ⟨behind, none⟩

/-- A turn with more bytes behind what it takes. -/
def Turn.append (turn : Turn) (data : List UInt8) : Turn :=
  match turn with
  | .rest => .rest
  | .fault cause next => .fault cause (next.append data)
  | .taken message next => .taken message (next.append data)

def Fed.prepend (messages : List Json) (fed : Fed) : Fed :=
  { fed with result := fed.result.map (messages ++ ·) }

@[simp]
theorem Fed.prepend_nil (fed : Fed) : fed.prepend [] = fed := by
  obtain ⟨result, parser⟩ := fed
  cases result <;> rfl

theorem Fed.prepend_prepend (first second : List Json) (fed : Fed) :
    (fed.prepend second).prepend first = fed.prepend (first ++ second) := by
  obtain ⟨result, parser⟩ := fed
  cases result <;> simp [prepend, Except.map]

theorem Fed.result_prepend_eq_ok_iff {messages all : List Json} {fed : Fed} :
    (fed.prepend messages).result = .ok all ↔
      ∃ others, fed.result = .ok others ∧ messages ++ others = all := by
  unfold prepend
  cases fed.result <;> simp [Except.map]

theorem Fed.result_prepend_eq_error_iff {messages : List Json} {cause : Fault} {fed : Fed} :
    (fed.prepend messages).result = .error cause ↔ fed.result = .error cause := by
  unfold prepend
  cases fed.result <;> simp [Except.map]

/-- Messages that were put in front of others came without a fault if the others did. -/
theorem Fed.prepend_eq_ok {messages all : List Json} {fed : Fed} {parser : FrameParser}
    (whole : fed.prepend messages = ⟨.ok all, parser⟩) :
    ∃ others, fed = ⟨.ok others, parser⟩ ∧ messages ++ others = all := by
  obtain ⟨result, behind⟩ := fed
  obtain ⟨others, rfl, same⟩ := result_prepend_eq_ok_iff.mp (congrArg Fed.result whole)
  obtain rfl : behind = parser := congrArg Fed.parser whole
  exact ⟨others, rfl, same⟩

theorem Fed.cons_eq_prepend (message : Option Json) (fed : Fed) :
    fed.cons message = fed.prepend message.toList := rfl

variable [Limits]

def turn (parser : FrameParser) : Turn :=
  match parser.expected with
  | none =>
    match parser.buffer.find? Frame.headerEnd with
    | none => .rest
    | some place =>
      let taken := parser.buffer.consume (place + Frame.headerEnd.length : Nat)
      .ofHeader (Frame.contentLength (taken.1.take place)) taken.2
  | some length =>
    if parser.buffer.holds length then
      let taken := parser.buffer.consume length
      .ofBody (messageOf? taken.1) taken.2
    else .rest

/-- A turn that takes something takes the same when more bytes come behind. -/
theorem turn_append {parser : FrameParser} (busy : parser.turn ≠ .rest) (data : List UInt8) :
    (parser.append data).turn = parser.turn.append data := by
  obtain ⟨buffer, expected⟩ := parser
  cases expected with
  | none =>
      cases found : buffer.find? Frame.headerEnd with
      | none => simp [turn, found] at busy
      | some place =>
          have fits : place + Frame.headerEnd.length ≤ buffer.size :=
            ByteBuffer.indexOf?_add_length_le found
          simp only [turn, append, found, ByteBuffer.find?_append found data,
            ByteBuffer.consume_append fits data]
          generalize Frame.contentLength _ = length
          cases length <;> rfl
  | some length =>
      cases holds : buffer.holds length with
      | false => simp [turn, holds] at busy
      | true =>
          have fits : length ≤ buffer.size := ByteBuffer.holds_iff.mp holds
          have later : (buffer.append data).holds length = true := by
            rw [ByteBuffer.holds_iff, ByteBuffer.size_append]
            omega
          simp only [turn, append, holds, later, ↓reduceIte, ByteBuffer.consume_append fits data]
          generalize messageOf? _ = message
          cases message <;> rfl

/-- Taking all frames is taking turns. -/
theorem drain_eq (parser : FrameParser) :
    parser.drain =
      match parser.turn with
      | .rest => ⟨.ok [], parser⟩
      | .fault cause next => ⟨.error cause, next⟩
      | .taken message next => next.drain.prepend message.toList := by
  rw [drain, turn]
  split
  · next waiting =>
    simp only [waiting]
    split
    · next absent => simp only [absent]
    · next place found =>
      simp only [found, Turn.ofHeader]
      generalize Frame.contentLength _ = announced
      cases announced with
      | error fault => rfl
      | ok expected => exact (Fed.prepend_nil _).symm
  · next length waiting =>
    simp only [waiting]
    cases holds : parser.buffer.holds length with
    | false => rfl
    | true =>
        simp only [Turn.ofBody, Bool.not_true, Bool.false_eq_true, ↓reduceIte]
        generalize messageOf? _ = decoded
        cases decoded with
        | error fault => rfl
        | ok message => exact Fed.cons_eq_prepend _ _

theorem drain_of_rest {parser : FrameParser} (h : parser.turn = .rest) :
    parser.drain = ⟨.ok [], parser⟩ := by
  rw [drain_eq, h]

theorem drain_of_fault {parser next : FrameParser} {fault : Fault}
    (h : parser.turn = .fault fault next) : parser.drain = ⟨.error fault, next⟩ := by
  rw [drain_eq, h]

theorem drain_of_taken {parser next : FrameParser} {message : Option Json}
    (h : parser.turn = .taken message next) :
    parser.drain = next.drain.prepend message.toList := by
  rw [drain_eq, h]

/-- How much there is left to take: every turn that takes something makes it less. -/
def load (parser : FrameParser) : Nat :=
  2 * parser.buffer.size + (if parser.expected.isSome then 1 else 0)

theorem load_of_taken {parser next : FrameParser} {message : Option Json}
    (h : parser.turn = .taken message next) : next.load < parser.load := by
  obtain ⟨buffer, expected⟩ := parser
  cases expected with
  | none =>
      cases found : buffer.find? Frame.headerEnd with
      | none => simp [turn, found] at h
      | some place =>
          have fits := ByteBuffer.indexOf?_add_length_le found
          have ending : Frame.headerEnd.length = 4 := rfl
          have whole : buffer.bytes.length = buffer.size := rfl
          simp only [turn, found, Turn.ofHeader] at h
          split at h
          · simp at h
          · simp only [Turn.taken.injEq] at h
            rw [← h.2, load, load, ByteBuffer.size_consume_natCast]
            simp only [Option.isSome_none, Bool.false_eq_true, ↓reduceIte]
            split <;> omega
  | some length =>
      simp only [turn, Turn.ofBody] at h
      split at h
      · split at h
        · simp at h
        · simp only [Turn.taken.injEq] at h
          rw [← h.2, load, load, ByteBuffer.size_consume_natCast]
          simp only [Option.isSome_none, Option.isSome_some, Bool.false_eq_true, ↓reduceIte]
          omega
      · simp at h

/-- What holds of parsers that need more bytes or fault, and goes back over every turn that
    takes something, holds of all parsers. -/
theorem turn_induction {motive : FrameParser → Prop}
    (rest : ∀ parser : FrameParser, parser.turn = .rest → motive parser)
    (fault : ∀ (parser : FrameParser) (fault : Fault) (next : FrameParser),
      parser.turn = .fault fault next → motive parser)
    (taken : ∀ (parser : FrameParser) (message : Option Json) (next : FrameParser),
      parser.turn = .taken message next → motive next → motive parser)
    (parser : FrameParser) : motive parser := by
  induction sized : parser.load using Nat.strongRecOn generalizing parser with
  | _ bound ih =>
      cases h : parser.turn with
      | rest => exact rest parser h
      | fault cause next => exact fault parser cause next h
      | taken message next =>
          exact taken parser message next h (ih next.load (sized ▸ load_of_taken h) next rfl)

end FrameParser

end LanguageClient
