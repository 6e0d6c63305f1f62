import LanguageClient.Proofs.Transport

/-! # Poll after poll

One transport is polled again and again, and the calls that read come out as they like. However
the messages are spread over calls and polls, they are those of all the bytes together, and what
was completed is not lost where the output ends.
-/

namespace LanguageClient.Transport

/-- What polling again and again came to: the messages of each poll, unless one faulted. -/
structure Polled where
  transport : Transport
  messages : Except Fault (List (List Json))
  /-- The outcomes that are left for later calls. -/
  rest : List ReadOutcome

section

variable [Limits]

/-- Poll so many times. The first fault ends it. -/
def pollTimes (transport : Transport) (outcomes : List ReadOutcome) : Nat → Polled
  | 0 => ⟨transport, .ok [], outcomes⟩
  | count + 1 =>
    let received := transport.poll outcomes
    match received.messages with
    | .error fault => ⟨received.transport, .error fault, received.rest⟩
    | .ok messages =>
      let later := received.transport.pollTimes received.rest count
      { later with messages := later.messages.map (messages :: ·) }

/-- A parser that is at rest makes the same of what was read whether it is asked or not. -/
theorem feedTo_eq_feed {parser : FrameParser} (settled : parser.turn = .rest)
    (outcomes : List ReadOutcome) :
    (readAll outcomes).feedTo parser = parser.feed (readAll outcomes).bytes := by
  unfold Arrived.feedTo
  cases some : (readAll outcomes).any with
  | true => rfl
  | false =>
      rw [bytes_of_not_any some, FrameParser.feed_nil_of_rest settled]
      rfl

/-- Where nothing can be read any more, polling changes nothing. -/
theorem pollTimes_of_closed {transport : Transport} (closed : transport.closed = true)
    (outcomes : List ReadOutcome) (count : Nat) :
    transport.pollTimes outcomes count =
      ⟨transport, .ok (List.replicate count []), outcomes⟩ := by
  induction count with
  | zero => rfl
  | succ count ih =>
      rw [pollTimes, poll_of_closed closed]
      simp only [ih, Except.map]
      rfl

/-- What was read of the outcomes, and what it came to: the messages are those that a parser
    makes of all the bytes at once, and the end is the last that is read. -/
structure Reads (parser : FrameParser) (outcomes : List ReadOutcome) (read : List ReadOutcome)
    (messages : List (List Json)) (polled : Polled) : Prop where
  split : outcomes = read ++ polled.rest
  fed : parser.feed (read.flatMap ReadOutcome.bytes) =
    ⟨.ok messages.flatten, polled.transport.parser⟩
  closed : polled.transport.closed = true ↔ ∃ outcome ∈ read, outcome.isEnd = true
  last : read.Pairwise fun outcome _ => outcome.isEnd = false

/-- A poll that does not meet the end goes in front of those that come after it. -/
theorem Reads.after {parser next : FrameParser} {outcomes rest read behind : List ReadOutcome}
    {first : List Json} {messages : List (List Json)} {polled : Polled}
    (split : outcomes = read ++ rest)
    (fed : parser.feed (read.flatMap ReadOutcome.bytes) = ⟨.ok first, next⟩)
    (endless : ∀ outcome ∈ read, outcome.isEnd = false)
    (later : Reads next rest behind messages polled) (all : Except Fault (List (List Json))) :
    Reads parser outcomes (read ++ behind) (first :: messages) { polled with messages := all } := by
  obtain ⟨splitLater, fedLater, closed, last⟩ := later
  refine ⟨?_, ?_, ?_, ?_⟩
  · rw [split, splitLater, List.append_assoc]
  · rw [List.flatMap_append, FrameParser.feed_append fed, fedLater, List.flatten_cons]
    rfl
  · refine closed.trans ⟨?_, ?_⟩
    · rintro ⟨outcome, member, isEnd⟩
      exact ⟨outcome, List.mem_append_right read member, isEnd⟩
    · rintro ⟨outcome, member, isEnd⟩
      cases List.mem_append.mp member with
      | inl earlier =>
          rw [endless outcome earlier] at isEnd
          exact absurd isEnd nofun
      | inr later => exact ⟨outcome, later, isEnd⟩
  · have before : read.Pairwise fun outcome _ => outcome.isEnd = false :=
      List.pairwise_of_forall_mem_list fun outcome member _ _ => endless outcome member
    exact List.pairwise_append.mpr ⟨before, last, fun outcome member _ _ => endless outcome member⟩

/-- Polls of a transport that can be read from, whose parser is at rest. -/
theorem reads_pollTimes {transport : Transport} (valid : 0 ≤ transport.descriptor)
    (isOpen : transport.closed = false) (settled : transport.parser.turn = .rest)
    {outcomes : List ReadOutcome} {count : Nat} {messages : List (List Json)}
    (polled : (transport.pollTimes outcomes count).messages = .ok messages) :
    ∃ read, Reads transport.parser outcomes read messages
      (transport.pollTimes outcomes count) := by
  induction count generalizing transport outcomes messages with
  | zero =>
      obtain rfl := Except.ok.inj polled
      refine ⟨[], rfl, FrameParser.feed_nil_of_rest settled, ?_, .nil⟩
      rw [pollTimes, isOpen]
      simp
  | succ count ih =>
      obtain ⟨read, split, given, ended, last⟩ := readAll_split outcomes
      have once := poll_of_open valid isOpen outcomes
      rw [feedTo_eq_feed settled, given] at once
      rw [pollTimes, once] at polled ⊢
      cases fed : transport.parser.feed (read.flatMap ReadOutcome.bytes) with
      | mk result next =>
          rw [fed] at polled
          cases result with
          | error fault => exact absurd polled nofun
          | ok first =>
              dsimp only at polled ⊢
              have settledNext : next.turn = .rest := FrameParser.turn_of_feed fed
              cases met : (readAll outcomes).ended with
              | true =>
                  -- The end was met, and with it all that can be read.
                  rw [met] at polled ended
                  rw [pollTimes_of_closed rfl] at polled ⊢
                  obtain rfl := Except.ok.inj polled
                  refine ⟨read, split, ?_, iff_of_true rfl (ended.mp rfl), last⟩
                  rw [fed, List.flatten_cons, List.flatten_replicate_nil, List.append_nil]
              | false =>
                  rw [met] at polled ended
                  have endless : ∀ outcome ∈ read, outcome.isEnd = false := by
                    intro outcome member
                    rw [Bool.eq_false_iff]
                    exact fun isEnd => absurd (ended.mpr ⟨outcome, member, isEnd⟩) nofun
                  let after : Transport := { transport with parser := next, closed := false }
                  cases later : (after.pollTimes (readAll outcomes).rest count).messages with
                  | error fault =>
                      rw [later] at polled
                      exact absurd polled nofun
                  | ok others =>
                      rw [later] at polled
                      obtain rfl := Except.ok.inj polled
                      obtain ⟨behind, reads⟩ := @ih after valid rfl settledNext _ _ later
                      exact ⟨read ++ behind, reads.after split fed endless _⟩

/-- However the output of a server is spread over polls and over the calls within them, the
    messages of all polls are those that a parser makes of all that was read, those that the end
    came right behind among them. The transport is closed exactly if an end was read. Nothing is
    read behind it, neither by that poll nor by a later one, which gives nothing either. -/
theorem pollTimes_eq_feed {descriptor : Int} (valid : 0 ≤ descriptor)
    {outcomes : List ReadOutcome} {count : Nat} {messages : List (List Json)}
    (polled : (pollTimes { descriptor } outcomes count).messages = .ok messages) :
    ∃ read, outcomes = read ++ (pollTimes { descriptor } outcomes count).rest ∧
      (FrameParser.feed {} (read.flatMap ReadOutcome.bytes)).result = .ok messages.flatten ∧
      ((pollTimes { descriptor } outcomes count).transport.closed = true ↔
        ∃ outcome ∈ read, outcome.isEnd = true) ∧
      read.Pairwise (fun outcome _ => outcome.isEnd = false) ∧
      ((pollTimes { descriptor } outcomes count).transport.closed = true →
        ∀ later, (pollTimes { descriptor } outcomes count).transport.poll later =
          ⟨(pollTimes { descriptor } outcomes count).transport, .ok [], later⟩) := by
  obtain ⟨read, split, fed, closed, last⟩ :=
    @reads_pollTimes _ { descriptor } valid rfl FrameParser.Reached.fresh.turn _ _ _ polled
  exact ⟨read, split, congrArg FrameParser.Fed.result fed, closed, last, poll_of_closed⟩

end

open scoped Limits.Usual

/-- The frame of one message is cut over two polls, that of another comes with the end behind
    it, and a third poll finds bytes that it does not read. -/
def overThreePolls : List ReadOutcome :=
  let frame := Frame.wrap (Text.encodeUtf8 "\x7b\x7d")
  [.data (frame.take 9), .wouldBlock, .interrupted,
    .data (frame.drop 9 ++ Frame.wrap (Text.encodeUtf8 "\x7b\"id\":1\x7d")), .endOfData,
    .data frame]

theorem pollTimes_overThreePolls :
    (pollTimes { descriptor := 5 } overThreePolls 3).messages =
        .ok [[], [.obj [], .obj [("id", .int 1)]], []] ∧
      (pollTimes { descriptor := 5 } overThreePolls 3).transport.closed = true ∧
      ∃ read, overThreePolls = read ++ (pollTimes { descriptor := 5 } overThreePolls 3).rest ∧
        (FrameParser.feed {} (read.flatMap ReadOutcome.bytes)).result =
          .ok [.obj [], .obj [("id", .int 1)]] ∧
        ∃ outcome ∈ read, outcome.isEnd = true := by
  have polled : (pollTimes { descriptor := 5 } overThreePolls 3).messages =
      .ok [[], [.obj [], .obj [("id", .int 1)]], []] := by with_unfolding_all rfl
  have closed : (pollTimes { descriptor := 5 } overThreePolls 3).transport.closed = true := by
    decide +kernel
  obtain ⟨read, split, fed, ended, _⟩ := pollTimes_eq_feed (by decide) polled
  exact ⟨polled, closed, read, split, fed, ended.mp closed⟩

end LanguageClient.Transport
