import LanguageClient.Proofs.Frame.Turn

/-! # Cutting what is fed

However bytes are cut into pieces, inside a header, inside the empty line behind it or inside
a character of a body, feeding the pieces in turn takes the messages that feeding them in one
takes, and leaves the parser in the same state. The invariant is that feeding goes on until
the parser is at rest, so that a later piece finds what the whole would have had there.
-/

namespace LanguageClient.FrameParser

section

@[simp]
theorem append_nil (parser : FrameParser) : parser.append [] = parser := by
  simp [append]

theorem append_append (parser : FrameParser) (first second : List UInt8) :
    (parser.append first).append second = parser.append (first ++ second) := by
  simp [append, ByteBuffer.append_append]

variable [Limits]

/-- Feed pieces one after another. The first fault ends the feeding. -/
def feedAll (parser : FrameParser) : List (List UInt8) → Fed
  | [] => ⟨.ok [], parser⟩
  | chunk :: rest =>
    match parser.feed chunk with
    | ⟨.error fault, next⟩ => ⟨.error fault, next⟩
    | ⟨.ok messages, next⟩ => (next.feedAll rest).prepend messages

/-- The parsers that feeding without a fault leads to. -/
inductive Reached : FrameParser → Prop where
  | fresh : Reached {}
  | feed {parser : FrameParser} {data : List UInt8} {messages : List Json}
      (before : Reached parser) (fed : (parser.feed data).result = .ok messages) :
      Reached (parser.feed data).parser

theorem feed_eq (parser : FrameParser) (data : List UInt8) :
    parser.feed data = (parser.append data).drain := rfl

theorem turn_of_drain {parser : FrameParser} {messages : List Json}
    (drained : parser.drain.result = .ok messages) : parser.drain.parser.turn = .rest := by
  induction parser using turn_induction generalizing messages with
  | rest parser h =>
      rw [drain_of_rest h]
      exact h
  | fault parser cause next h =>
      rw [drain_of_fault h] at drained
      simp at drained
  | taken parser message next h ih =>
      rw [drain_of_taken h] at drained ⊢
      obtain ⟨others, later, -⟩ := Fed.result_prepend_eq_ok_iff.mp drained
      exact ih later

/-- Frames that can be taken now are taken first when more bytes come behind. -/
theorem drain_append {parser : FrameParser} {messages : List Json}
    (drained : parser.drain.result = .ok messages) (data : List UInt8) :
    (parser.append data).drain =
      (parser.drain.parser.append data).drain.prepend messages := by
  induction parser using turn_induction generalizing messages with
  | rest parser h =>
      rw [drain_of_rest h] at drained ⊢
      obtain rfl : [] = messages := by simpa using drained
      rw [Fed.prepend_nil]
  | fault parser cause next h =>
      rw [drain_of_fault h] at drained
      simp at drained
  | taken parser message next h ih =>
      have later : (parser.append data).turn = .taken message (next.append data) := by
        rw [turn_append (by simp [h]), h]
        rfl
      rw [drain_of_taken h] at drained ⊢
      rw [drain_of_taken later]
      obtain ⟨others, behind, rfl⟩ := Fed.result_prepend_eq_ok_iff.mp drained
      rw [ih behind, Fed.prepend_prepend]
      rfl

theorem drain_append_of_error {parser : FrameParser} {cause : Fault}
    (drained : parser.drain.result = .error cause) (data : List UInt8) :
    (parser.append data).drain.result = .error cause := by
  induction parser using turn_induction with
  | rest parser h =>
      rw [drain_of_rest h] at drained
      simp at drained
  | fault parser other next h =>
      have later : (parser.append data).turn = .fault other (next.append data) := by
        rw [turn_append (by simp [h]), h]
        rfl
      rw [drain_of_fault h] at drained
      rw [drain_of_fault later]
      exact drained
  | taken parser message next h ih =>
      have later : (parser.append data).turn = .taken message (next.append data) := by
        rw [turn_append (by simp [h]), h]
        rfl
      rw [drain_of_taken h] at drained
      rw [drain_of_taken later, Fed.result_prepend_eq_error_iff]
      exact ih (Fed.result_prepend_eq_error_iff.mp drained)

theorem turn_of_feed {parser next : FrameParser} {data : List UInt8} {messages : List Json}
    (fed : parser.feed data = ⟨.ok messages, next⟩) : next.turn = .rest := by
  have drained : (parser.append data).drain = ⟨.ok messages, next⟩ := fed
  have settled : (parser.append data).drain.parser.turn = .rest :=
    turn_of_drain (congrArg Fed.result drained)
  rwa [drained] at settled

/-- Feeding that led somewhere left nothing that could be taken. -/
theorem Reached.turn {parser : FrameParser} (reached : Reached parser) :
    parser.turn = .rest := by
  cases reached with
  | fresh => rfl
  | feed before fed => exact turn_of_drain fed

/-- A piece that is fed in front of the rest is fed as a part of the whole. -/
theorem feed_append {parser next : FrameParser} {chunk : List UInt8} {messages : List Json}
    (fed : parser.feed chunk = ⟨.ok messages, next⟩) (data : List UInt8) :
    parser.feed (chunk ++ data) = (next.feed data).prepend messages := by
  rw [feed_eq] at fed
  have drained : (parser.append chunk).drain.result = .ok messages := by rw [fed]
  rw [feed_eq, ← append_append, drain_append drained data, fed, feed_eq]

theorem feed_append_of_error {parser next : FrameParser} {chunk : List UInt8} {cause : Fault}
    (fed : parser.feed chunk = ⟨.error cause, next⟩) (data : List UInt8) :
    (parser.feed (chunk ++ data)).result = .error cause := by
  rw [feed_eq] at fed ⊢
  rw [← append_append]
  exact drain_append_of_error (by rw [fed]) data

theorem feed_nil_of_rest {parser : FrameParser} (h : parser.turn = .rest) :
    parser.feed [] = ⟨.ok [], parser⟩ := by
  rw [feed_eq, append_nil, drain_of_rest h]

/-- Pieces come to what the whole comes to: the same messages or the same fault, and without a
    fault the same parser. -/
def CutsFreely (parser : FrameParser) (chunks : List (List UInt8)) : Prop :=
  (parser.feedAll chunks).result = (parser.feed chunks.flatten).result ∧
    ∀ messages, (parser.feed chunks.flatten).result = .ok messages →
      (parser.feedAll chunks).parser = (parser.feed chunks.flatten).parser

/-- The first piece may be fed to any parser, for it leaves one at rest. -/
theorem CutsFreely.cons {rest : List (List UInt8)}
    (later : ∀ next : FrameParser, next.turn = .rest → CutsFreely next rest)
    (parser : FrameParser) (chunk : List UInt8) : CutsFreely parser (chunk :: rest) := by
  unfold CutsFreely
  rw [List.flatten_cons, feedAll]
  cases fed : parser.feed chunk with
  | mk result next =>
      cases result with
      | error cause =>
          have whole := feed_append_of_error fed rest.flatten
          refine ⟨whole.symm, ?_⟩
          intro messages isOk
          rw [whole] at isOk
          simp at isOk
      | ok messages =>
          have settled : next.turn = .rest := turn_of_feed fed
          obtain ⟨sameResult, sameParser⟩ := later next settled
          rw [feed_append fed]
          refine ⟨congrArg (Except.map (messages ++ ·)) sameResult, ?_⟩
          intro all isOk
          obtain ⟨others, rests, -⟩ := Fed.result_prepend_eq_ok_iff.mp isOk
          exact sameParser others rests

theorem cutsFreely_of_rest (chunks : List (List UInt8)) {parser : FrameParser}
    (h : parser.turn = .rest) : CutsFreely parser chunks := by
  induction chunks generalizing parser with
  | nil =>
      unfold CutsFreely
      rw [List.flatten_nil, feed_nil_of_rest h]
      exact ⟨rfl, fun _ _ => rfl⟩
  | cons chunk rest ih => exact CutsFreely.cons (fun next settled => ih settled) parser chunk

/-- Feeding bytes in pieces gives the messages of feeding them in one, or faults as that does,
    and leaves the same bytes and the same announced length waiting. That no piece at all is
    the same as no bytes needs a parser that feeding has left at rest; one piece suffices for
    any other, such as one that a fault has left with frames still in it. -/
theorem feedAll_eq_feed_flatten {parser : FrameParser} {chunks : List (List UInt8)}
    (start : parser.Reached ∨ chunks ≠ []) :
    (parser.feedAll chunks).result = (parser.feed chunks.flatten).result ∧
      ∀ messages, (parser.feed chunks.flatten).result = .ok messages →
        (parser.feedAll chunks).parser = (parser.feed chunks.flatten).parser := by
  rcases start with reached | some
  · exact cutsFreely_of_rest chunks reached.turn
  · cases chunks with
    | nil => exact absurd rfl some
    | cons chunk rest =>
        exact CutsFreely.cons (fun _ settled => cutsFreely_of_rest rest settled) parser chunk

end

open scoped Limits.Usual

/-- A frame that is cut inside the empty line behind its header and inside a character. -/
theorem feedAll_cut_frame :
    FrameParser.feedAll {}
        [Text.encodeUtf8 "Content-Length: 10\r\n\r", Text.encodeUtf8 "\n\x7b\"a\":\"" ++ [0xC3],
          [], 0xA9 :: Text.encodeUtf8 "\"\x7d"] =
      ⟨.ok [.obj [("a", .str "é")]], {}⟩ := by
  have whole : FrameParser.feed {}
      [Text.encodeUtf8 "Content-Length: 10\r\n\r", Text.encodeUtf8 "\n\x7b\"a\":\"" ++ [0xC3],
        [], 0xA9 :: Text.encodeUtf8 "\"\x7d"].flatten =
      ⟨.ok [.obj [("a", .str "é")]], {}⟩ := by with_unfolding_all rfl
  obtain ⟨sameResult, sameParser⟩ := feedAll_eq_feed_flatten (.inl .fresh)
  rw [whole] at sameResult sameParser
  exact Fed.ext sameResult (sameParser _ rfl)

end LanguageClient.FrameParser
