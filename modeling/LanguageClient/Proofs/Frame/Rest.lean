import LanguageClient.Proofs.Frame.Outcome

/-! # When feeding is over

A call goes on as long as there is a header or a body to take. A header is four bytes at least,
and a body may be empty but needs a header: so each of them costs two of the bytes that were fed,
and all calls together take no more of them than half as many. A call that does not fault ends
where nothing complete is left, be it a frame whose body is empty or one behind a header of no
use; there is nothing more to be had until more bytes come.
-/

namespace LanguageClient.FrameParser

open LanguageClient.Frame

section

variable [Limits]

/-- So many headers and bodies are passed over, one after another. -/
inductive PassesMany : Nat → FrameParser → FrameParser → Prop where
  | nothing (parser : FrameParser) : PassesMany 0 parser parser
  | one {count : Nat} {parser middle next : FrameParser} {message : Option Json}
      (passes : parser.Passes message middle) (later : PassesMany count middle next) :
      PassesMany (count + 1) parser next

/-- Pieces are fed one after another. Each time headers and bodies are passed over until the
    parser waits; `count` is how many there were in all. -/
inductive Settles : Nat → FrameParser → List (List UInt8) → FrameParser → Prop where
  | nothing (parser : FrameParser) : Settles 0 parser [] parser
  | feed {count later : Nat} {parser middle next : FrameParser} {chunk : List UInt8}
      {rest : List (List UInt8)} (passes : PassesMany count (parser.append chunk) middle)
      (waits : middle.Waits) (settles : Settles later middle rest next) :
      Settles (count + later) parser (chunk :: rest) next

/-- A complete frame is there to be taken: a body of the length that was announced, or, behind
    whatever else, a header with the body that it announces. -/
inductive HoldsFrame : FrameParser → Prop where
  | body {body rest : List UInt8} : HoldsFrame ⟨⟨body ++ rest⟩, some body.length⟩
  | frame {noise head body rest : List UInt8} (isHead : IsHead head)
      (announces : Announces head (some body.length)) :
      HoldsFrame ⟨⟨noise ++ (head ++ (headerEnd ++ (body ++ rest)))⟩, none⟩

/-! ## What a header and a body cost -/

/-- What there is to spend: the bytes that wait, and what the header of the body that is waited
    for has left over. -/
def budget (parser : FrameParser) : Nat :=
  parser.buffer.size + if parser.expected.isSome then 2 else 0

omit [Limits] in
theorem budget_append (parser : FrameParser) (data : List UInt8) :
    (parser.append data).budget = parser.budget + data.length := by
  simp only [budget, append, ByteBuffer.size_append]
  exact Nat.add_right_comm ..

theorem Passes.budget {parser next : FrameParser} {message : Option Json}
    (passes : parser.Passes message next) : next.budget + 2 ≤ parser.budget := by
  cases passes with
  | @header head rest length isHead announces =>
      have ending : headerEnd.length = 4 := rfl
      simp only [FrameParser.budget, ByteBuffer.size, List.length_append, ending,
        Option.isSome_none, Bool.false_eq_true, ↓reduceIte]
      split <;> omega
  | @body body rest shallow =>
      simp only [FrameParser.budget, ByteBuffer.size, List.length_append, Option.isSome_none,
        Option.isSome_some, Bool.false_eq_true, ↓reduceIte]
      omega

theorem PassesMany.budget {count : Nat} {parser next : FrameParser}
    (many : PassesMany count parser next) : next.budget + 2 * count ≤ parser.budget := by
  induction many with
  | nothing parser => exact Nat.le_refl _
  | one passes _ ih =>
      have cost := passes.budget
      omega

theorem Settles.budget {count : Nat} {parser next : FrameParser} {chunks : List (List UInt8)}
    (settles : Settles count parser chunks next) :
    next.budget + 2 * count ≤ parser.budget + chunks.flatten.length := by
  induction settles with
  | nothing parser => exact Nat.le_refl _
  | @feed count later parser middle next chunk rest passes _ _ ih =>
      have cost := passes.budget
      rw [budget_append] at cost
      rw [List.flatten_cons, List.length_append]
      omega

/-! ## Where a call ends -/

theorem passesMany_of_drain {parser last : FrameParser} {messages : List Json}
    (drained : parser.drain = ⟨.ok messages, last⟩) :
    ∃ count, PassesMany count parser last ∧ last.Waits := by
  induction parser using turn_induction generalizing messages with
  | rest parser h =>
      rw [drain_of_rest h] at drained
      obtain ⟨_, rfl⟩ : [] = messages ∧ parser = last := by simpa using drained
      exact ⟨0, .nothing parser, waits_of_rest h⟩
  | fault parser cause next h =>
      rw [drain_of_fault h] at drained
      simp at drained
  | taken parser message next h ih =>
      rw [drain_of_taken h] at drained
      obtain ⟨others, later, _⟩ := Fed.prepend_eq_ok drained
      obtain ⟨count, many, waits⟩ := ih later
      exact ⟨count + 1, .one (passes_of_taken h) many, waits⟩

theorem settles_of_feedAll {chunks : List (List UInt8)} {parser last : FrameParser}
    {messages : List Json} (fed : parser.feedAll chunks = ⟨.ok messages, last⟩) :
    ∃ count, Settles count parser chunks last := by
  induction chunks generalizing parser messages with
  | nil =>
      obtain ⟨_, rfl⟩ : [] = messages ∧ parser = last := by simpa [feedAll] using fed
      exact ⟨0, .nothing parser⟩
  | cons chunk rest ih =>
      rw [feedAll] at fed
      cases first : parser.feed chunk with
      | mk result middle =>
          rw [first] at fed
          cases result with
          | error cause => simp at fed
          | ok taken =>
              obtain ⟨others, later, _⟩ := Fed.prepend_eq_ok fed
              obtain ⟨count, many, waits⟩ := passesMany_of_drain first
              obtain ⟨more, settles⟩ := ih later
              exact ⟨count + more, .feed many waits settles⟩

theorem Settles.waits {count : Nat} {parser next : FrameParser} {chunks : List (List UInt8)}
    (settles : Settles count parser chunks next) (waits : parser.Waits ∨ chunks ≠ []) :
    next.Waits := by
  induction settles with
  | nothing parser => exact waits.resolve_right (fun some => some rfl)
  | feed _ middleWaits _ ih => exact ih (.inl middleWaits)

omit [Limits] in
theorem Waits.not_holdsFrame {parser : FrameParser} (waits : parser.Waits) :
    ¬parser.HoldsFrame := by
  intro holds
  cases holds with
  | body =>
      cases waits with
      | body short =>
          rw [List.length_append] at short
          omega
  | @frame noise head body rest isHead announces =>
      cases waits with
      | header endless =>
          apply endless
          exact ⟨noise ++ head, body ++ rest, by simp only [List.append_assoc]⟩

/-- However bytes were fed, after calls that did not fault the parser waits for the rest of a
    header or of a body that is not empty. No complete frame is left, and without more bytes
    nothing more is taken. The calls have come to their ends: of headers and bodies they passed
    over half as many as there were bytes, at the most. The parser that is fed may be one that
    a fault has left with frames still in it, if it is fed at all. -/
theorem feedAll_settles {chunks : List (List UInt8)} {parser last : FrameParser}
    {messages : List Json} (start : parser.Reached ∨ chunks ≠ [])
    (fed : parser.feedAll chunks = ⟨.ok messages, last⟩) :
    (∃ count, Settles count parser chunks last ∧
      2 * count ≤ parser.budget + chunks.flatten.length) ∧
    last.Waits ∧ ¬last.HoldsFrame ∧ last.feed [] = ⟨.ok [], last⟩ := by
  obtain ⟨count, settles⟩ := settles_of_feedAll fed
  have cost := settles.budget
  have waits := settles.waits (start.imp_left fun reached => waits_of_rest reached.turn)
  exact ⟨⟨count, settles, by omega⟩, waits, waits.not_holdsFrame, feed_nil_of_rest waits.turn⟩

end

open scoped Limits.Usual

/-- A header of no use, a frame without a body, and a header that is cut in two, with the
    beginning of its body. -/
def halfBody : List (List UInt8) :=
  [Text.encodeUtf8 "x: y\r\n\r\nContent-Length: 0\r\n\r\nContent-Le",
    Text.encodeUtf8 "ngth: 5\r\n\r\nab"]

theorem feedAll_halfBody :
    ∃ count last, FrameParser.feedAll {} halfBody = ⟨.ok [], last⟩ ∧
      last = ⟨⟨[97, 98]⟩, some 5⟩ ∧ Settles count {} halfBody last ∧ 2 * count ≤ 52 ∧
      last.Waits ∧ ¬last.HoldsFrame ∧ last.feed [] = ⟨.ok [], last⟩ := by
  have fed : FrameParser.feedAll {} halfBody = ⟨.ok [], ⟨⟨[97, 98]⟩, some 5⟩⟩ := by
    with_unfolding_all rfl
  have size : halfBody.flatten.length = 52 := by decide +kernel
  obtain ⟨⟨count, settles, cost⟩, waits, complete, ended⟩ := feedAll_settles (.inl .fresh) fed
  rw [size] at cost
  exact ⟨count, _, fed, rfl, settles, cost, waits, complete, ended⟩

end LanguageClient.FrameParser
