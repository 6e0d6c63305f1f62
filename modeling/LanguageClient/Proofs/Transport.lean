import LanguageClient.Proofs.Frame.Chunks
import LanguageClient.Proofs.Json.Reading
import LanguageClient.Transport

/-! # Bytes over pipes

What a pipe takes is the front of what it is offered, and what is read is what has arrived, in
order, however the calls in between come out.
-/

namespace LanguageClient

theorem handOver_taken_prefix (outcomes : List WriteOutcome) (bytes : List UInt8) :
    (handOver outcomes bytes).taken <+: bytes := by
  fun_induction handOver outcomes bytes with
  | case1 outcomes => exact List.nil_prefix
  | case2 => exact List.prefix_refl _
  | case3 count rest bytes _ ih =>
      obtain ⟨behind, split⟩ := ih
      exact ⟨behind, by rw [Handover.after, List.append_assoc, split, List.take_append_drop]⟩
  | case4 => exact List.prefix_refl _
  | case5 rest bytes _ ih => exact ih
  | case6 rest bytes _ ih => exact ih
  | case7 => exact List.nil_prefix

theorem handOver_taken_of_done {outcomes : List WriteOutcome} {bytes : List UInt8}
    (done : (handOver outcomes bytes).done = true) : (handOver outcomes bytes).taken = bytes := by
  fun_induction handOver outcomes bytes with
  | case1 outcomes => rfl
  | case2 => rfl
  | case3 count rest bytes _ ih =>
      rw [Handover.after, ih done]
      exact List.take_append_drop count bytes
  | case4 => rfl
  | case5 rest bytes _ ih => exact ih done
  | case6 rest bytes _ ih => exact ih done
  | case7 => exact absurd done Bool.false_ne_true

/-- The bytes that a call gives. -/
def ReadOutcome.bytes : ReadOutcome → List UInt8
  | .data bytes => bytes
  | _ => []

/-- Whether a call finds the end of what can be read. -/
def ReadOutcome.isEnd : ReadOutcome → Bool
  | .data [] => true
  | .fails => true
  | .endOfData => true
  | _ => false

/-- The calls that are made are the first ones. What they give is read, and the end is met if
    one of them finds it, which is then the last. -/
theorem readAll_split (outcomes : List ReadOutcome) :
    ∃ read, outcomes = read ++ (readAll outcomes).rest ∧
      (readAll outcomes).bytes = read.flatMap ReadOutcome.bytes ∧
      ((readAll outcomes).ended = true ↔ ∃ outcome ∈ read, outcome.isEnd = true) ∧
      read.Pairwise fun outcome _ => outcome.isEnd = false := by
  fun_induction readAll outcomes with
  | case1 => exact ⟨[], rfl, rfl, by simp, .nil⟩
  | case3 byte bytes rest later ih =>
      obtain ⟨read, split, given, ended, last⟩ := ih
      refine ⟨.data (byte :: bytes) :: read, congrArg _ split, ?_, ended.trans ?_,
        .cons (fun _ _ => rfl) last⟩
      · rw [List.flatMap_cons, ← given]
        rfl
      · simp [ReadOutcome.isEnd]
  | case5 rest ih =>
      obtain ⟨read, split, given, ended, last⟩ := ih
      refine ⟨.interrupted :: read, congrArg _ split, given, ended.trans ?_,
        .cons (fun _ _ => rfl) last⟩
      simp [ReadOutcome.isEnd]
  | case2 rest =>
      exact ⟨[.data []], rfl, rfl, by simp [ReadOutcome.isEnd], List.pairwise_singleton _ _⟩
  | case4 rest =>
      exact ⟨[.wouldBlock], rfl, rfl, by simp [ReadOutcome.isEnd], List.pairwise_singleton _ _⟩
  | case6 rest =>
      exact ⟨[.fails], rfl, rfl, by simp [ReadOutcome.isEnd], List.pairwise_singleton _ _⟩
  | case7 rest =>
      exact ⟨[.endOfData], rfl, rfl, by simp [ReadOutcome.isEnd], List.pairwise_singleton _ _⟩

theorem mem_of_mem_readAll_rest {outcomes : List ReadOutcome} {outcome : ReadOutcome}
    (member : outcome ∈ (readAll outcomes).rest) : outcome ∈ outcomes := by
  obtain ⟨read, split, _⟩ := readAll_split outcomes
  rw [split]
  exact List.mem_append_right read member

theorem readAll_open {outcomes : List ReadOutcome}
    (endless : ∀ outcome ∈ outcomes, outcome.isEnd = false) :
    (readAll outcomes).ended = false := by
  obtain ⟨read, split, _, ended, _⟩ := readAll_split outcomes
  rw [Bool.eq_false_iff]
  intro met
  obtain ⟨outcome, member, isEnd⟩ := ended.mp met
  have still := endless outcome (split ▸ List.mem_append_left _ member)
  exact absurd isEnd (Bool.eq_false_iff.mp still)

theorem readAll_append_of_ended {first : List ReadOutcome}
    (ended : (readAll first).ended = true) (second : List ReadOutcome) :
    readAll (first ++ second) =
      { readAll first with rest := (readAll first).rest ++ second } := by
  fun_induction readAll first with
  | case1 => exact absurd ended Bool.false_ne_true
  | case2 rest => rfl
  | case3 byte bytes rest later ih =>
      rw [List.cons_append, readAll, ih ended]
  | case4 rest => exact absurd ended Bool.false_ne_true
  | case5 rest ih => exact ih ended
  | case6 rest => rfl
  | case7 rest => rfl

/-- What waits is read to its end, unless the end of all data is met or a call says that
    there is no more for now. -/
theorem readAll_append_of_open {first : List ReadOutcome} (given : .wouldBlock ∉ first)
    (isOpen : (readAll first).ended = false) (second : List ReadOutcome) :
    (readAll first).rest = [] ∧
      readAll (first ++ second) =
        ⟨(readAll first).bytes ++ (readAll second).bytes,
          (readAll first).any || (readAll second).any,
          (readAll second).ended, (readAll second).rest⟩ := by
  fun_induction readAll first with
  | case1 => exact ⟨rfl, rfl⟩
  | case2 rest => simp at isOpen
  | case3 byte bytes rest later ih =>
      obtain ⟨none, read⟩ := ih (fun member => given (List.mem_cons_of_mem _ member)) isOpen
      refine ⟨none, ?_⟩
      rw [List.cons_append, readAll, read]
      simp [later]
  | case4 rest => exact absurd List.mem_cons_self given
  | case5 rest ih => exact ih (fun member => given (List.mem_cons_of_mem _ member)) isOpen
  | case6 rest => simp at isOpen
  | case7 rest => simp at isOpen

/-- What reading gives of a piece of output, and of the end behind it. -/
def output (piece : List UInt8) (closes : Bool) : List ReadOutcome :=
  (if piece.isEmpty then [] else [.data piece]) ++ if closes then [.endOfData] else []

/-- Where a cut falls makes no difference to what is read. -/
theorem readAll_output_append (piece more : List UInt8) (closes : Bool) :
    readAll (output (piece ++ more) closes) =
      readAll (output piece false ++ output more closes) := by
  cases piece with
  | nil => rfl
  | cons byte bytes =>
      cases more with
      | nil => simp [output, readAll]
      | cons next later => simp [output, readAll]

theorem bytes_of_not_any {outcomes : List ReadOutcome} (silent : (readAll outcomes).any = false) :
    (readAll outcomes).bytes = [] := by
  fun_induction readAll outcomes with
  | case3 byte bytes rest later ih => simp at silent
  | case5 rest ih => exact ih silent
  | _ => rfl

variable [Limits]

/-- What a parser makes of what was read. Where no call gave bytes it is not even asked. -/
def Arrived.feedTo (arrived : Arrived) (parser : FrameParser) : FrameParser.Fed :=
  if arrived.any then parser.feed arrived.bytes else ⟨.ok [], parser⟩

theorem feedTo_append {outcomes : List ReadOutcome} {parser next : FrameParser}
    {messages : List Json} (fed : (readAll outcomes).feedTo parser = ⟨.ok messages, next⟩)
    (later : List ReadOutcome) (ended : Bool) (rest : List ReadOutcome) :
    Arrived.feedTo ⟨(readAll outcomes).bytes ++ (readAll later).bytes,
        (readAll outcomes).any || (readAll later).any, ended, rest⟩ parser =
      ((readAll later).feedTo next).prepend messages := by
  unfold Arrived.feedTo at fed ⊢
  cases first : (readAll outcomes).any with
  | false =>
      simp only [first, Bool.false_eq_true, ↓reduceIte, FrameParser.Fed.mk.injEq,
        Except.ok.injEq] at fed
      obtain ⟨rfl, rfl⟩ := fed
      rw [bytes_of_not_any first, Bool.false_or, List.nil_append, FrameParser.Fed.prepend_nil]
  | true =>
      simp only [first, ↓reduceIte] at fed
      simp only [Bool.true_or, ↓reduceIte]
      cases second : (readAll later).any with
      | true => exact FrameParser.feed_append fed _
      | false =>
          rw [bytes_of_not_any second, List.append_nil, fed]
          simp [FrameParser.Fed.prepend, Except.map]

theorem feedTo_append_of_error {outcomes : List ReadOutcome} {parser : FrameParser}
    {cause : Fault} (fed : ((readAll outcomes).feedTo parser).result = .error cause)
    (later : List UInt8) (any ended : Bool) (rest : List ReadOutcome) :
    (Arrived.feedTo ⟨(readAll outcomes).bytes ++ later, (readAll outcomes).any || any, ended,
      rest⟩ parser).result = .error cause := by
  unfold Arrived.feedTo at fed ⊢
  cases first : (readAll outcomes).any with
  | false => simp [first] at fed
  | true =>
      simp only [first, ↓reduceIte] at fed
      simp only [Bool.true_or, ↓reduceIte]
      have whole : parser.feed (readAll outcomes).bytes =
          ⟨.error cause, (parser.feed (readAll outcomes).bytes).parser⟩ :=
        FrameParser.Fed.ext fed rfl
      exact FrameParser.feed_append_of_error whole later

namespace FrameParser

theorem unshowable?_of_messageOf? {body : List UInt8} {message : Json}
    (holds : messageOf? body = .ok (some message)) : message.unshowable? = none := by
  unfold messageOf? at holds
  split at holds
  · cases holds
  · split at holds
    · next isRead =>
      obtain rfl := Option.some.inj (Except.ok.inj holds)
      exact Json.unshowable?_of_read isRead
    · cases holds
    · cases holds

omit [Limits] in
theorem messageOf?_of_ofBody {result : Except Fault (Option Json)} {behind : ByteBuffer}
    {next : FrameParser} {message : Option Json}
    (takes : Turn.ofBody result behind = .taken message next) : result = .ok message := by
  cases result with
  | error cause => cases takes
  | ok other => exact congrArg _ (Turn.taken.inj takes).1

omit [Limits] in
theorem eq_none_of_ofHeader {length : Except Fault (Option Nat)} {behind : ByteBuffer}
    {next : FrameParser} {message : Option Json}
    (takes : Turn.ofHeader length behind = .taken message next) : message = none := by
  cases length with
  | error cause => cases takes
  | ok other => exact (Turn.taken.inj takes).1.symm

/-- A message that a turn takes is in some body. -/
theorem exists_body_of_turn {parser next : FrameParser} {message : Json}
    (takes : parser.turn = .taken (some message) next) :
    ∃ body, messageOf? body = .ok (some message) := by
  unfold turn at takes
  split at takes
  · split at takes
    · cases takes
    · exact absurd (eq_none_of_ofHeader takes) (Option.some_ne_none message)
  · dsimp only at takes
    split at takes
    · exact ⟨_, messageOf?_of_ofBody takes⟩
    · cases takes

/-- Nothing is in the way of showing the messages that bytes complete. -/
theorem unshowable?_of_drain {parser : FrameParser} {messages : List Json}
    (drained : parser.drain.result = .ok messages) :
    ∀ message ∈ messages, message.unshowable? = none := by
  induction parser using turn_induction generalizing messages with
  | rest parser h =>
      rw [drain_of_rest h] at drained
      obtain rfl := Except.ok.inj drained
      exact fun _ member => absurd member List.not_mem_nil
  | fault parser cause next h =>
      rw [drain_of_fault h] at drained
      cases drained
  | taken parser message next h ih =>
      rw [drain_of_taken h] at drained
      obtain ⟨later, drainedLater, rfl⟩ := Fed.result_prepend_eq_ok_iff.mp drained
      intro other member
      cases List.mem_append.mp member with
      | inl first =>
          obtain rfl := Option.mem_toList.mp first
          obtain ⟨body, holds⟩ := exists_body_of_turn h
          exact unshowable?_of_messageOf? holds
      | inr second => exact ih drainedLater other second

end FrameParser

namespace Transport

/-- What polling comes to while nothing has ended what can be read. -/
theorem poll_of_open {transport : Transport} (valid : 0 ≤ transport.descriptor)
    (isOpen : transport.closed = false) (outcomes : List ReadOutcome) :
    transport.poll outcomes =
      ⟨{ transport with
          parser := ((readAll outcomes).feedTo transport.parser).parser
          closed := (readAll outcomes).ended },
        ((readAll outcomes).feedTo transport.parser).result, (readAll outcomes).rest⟩ := by
  have readable : decide (transport.descriptor < 0) = false :=
    decide_eq_false (Int.not_lt.mpr valid)
  unfold poll Arrived.feedTo
  rw [isOpen, readable]
  cases some : (readAll outcomes).any with
  | false => simp [some]
  | true => simp [some]

theorem poll_of_closed {transport : Transport} (closed : transport.closed = true)
    (outcomes : List ReadOutcome) : transport.poll outcomes = ⟨transport, .ok [], outcomes⟩ := by
  rw [poll, closed]
  rfl

/-- Nothing is in the way of showing the messages that are taken in. -/
theorem unshowable?_of_poll {transport : Transport} {outcomes : List ReadOutcome}
    {messages : List Json} (polled : (transport.poll outcomes).messages = .ok messages) :
    ∀ message ∈ messages, message.unshowable? = none := by
  have nothing : (.ok [] : Except Fault (List Json)) = .ok messages →
      ∀ message ∈ messages, message.unshowable? = none := by
    intro none message member
    rw [← Except.ok.inj none] at member
    exact absurd member List.not_mem_nil
  unfold poll at polled
  split at polled
  · exact nothing polled
  · dsimp only at polled
    split at polled
    · exact nothing polled
    · exact FrameParser.unshowable?_of_drain polled

theorem send_of_unusable {transport : Transport} (unusable : transport.usable = false)
    (message : Json) (outcomes : List WriteOutcome) (flushFails : Bool) :
    transport.send message outcomes flushFails =
      ⟨transport, .ok false, [], 0, false, outcomes⟩ := by
  rw [send, unusable]
  rfl

theorem send_of_frameless {transport : Transport} (usable : transport.usable = true)
    {message : Json} {fault : Fault} (frameless : Frame.encode message = .error fault)
    (outcomes : List WriteOutcome) (flushFails : Bool) :
    transport.send message outcomes flushFails =
      ⟨transport, .error fault, [], 0, false, outcomes⟩ := by
  rw [send, usable, frameless]
  rfl

/-- Of a message with a frame the pipe takes all of it, or a part. -/
theorem send_of_frame {transport : Transport} (usable : transport.usable = true) {message : Json}
    {frame : List UInt8} (framed : Frame.encode message = .ok frame)
    (outcomes : List WriteOutcome) (flushFails : Bool) :
    let result := transport.send message outcomes flushFails
    ∃ sent, result.sent = .ok sent ∧ result.transport = { transport with usable := sent } ∧
      result.taken <+: frame ∧ (sent = true → result.taken = frame) := by
  rw [send, usable, framed]
  refine ⟨_, rfl, rfl, handOver_taken_prefix outcomes frame, ?_⟩
  intro sent
  exact handOver_taken_of_done (Bool.and_eq_true_iff.mp sent).1

/-- The frame of a message, nothing if it has none. -/
def frameOf (message : Json) : List UInt8 :=
  (Frame.encode message).toOption.getD []

/-- The bytes that a pipe took of a message that did not come through: a part of its frame if it
    has one. -/
def IsPart (message : Json) (taken : List UInt8) : Prop :=
  taken = [] ∨ ∃ frame, Frame.encode message = .ok frame ∧ taken <+: frame

/-- What sending a message comes to. -/
theorem send_spec (transport : Transport) (message : Json) (outcomes : List WriteOutcome)
    (flushFails : Bool) :
    let result := transport.send message outcomes flushFails
    (∀ sent, result.sent = .ok sent → result.transport = { transport with usable := sent }) ∧
      (result.sent = .ok true → Frame.encode message = .ok result.taken) ∧
      (result.sent = .ok false → IsPart message result.taken) ∧
      (∀ fault, result.sent = .error fault → Frame.encode message = .error fault ∧
        result.transport = transport ∧ result.rest = outcomes ∧ result.flushed = false) := by
  cases usable : transport.usable with
  | false =>
      rw [send_of_unusable usable]
      refine ⟨?_, nofun, fun _ => .inl rfl, nofun⟩
      rintro _ ⟨⟩
      rw [← usable]
  | true =>
      cases framed : Frame.encode message with
      | error fault =>
          rw [send_of_frameless usable framed]
          exact ⟨nofun, nofun, nofun, fun _ same => ⟨congrArg _ (Except.error.inj same),
            rfl, rfl, rfl⟩⟩
      | ok frame =>
          obtain ⟨sent, told, behind, isPart, isWhole⟩ :=
            send_of_frame usable framed outcomes flushFails
          refine ⟨?_, ?_, fun _ => .inr ⟨frame, framed, isPart⟩, ?_⟩
          · intro other same
            rw [behind, Except.ok.inj (told.symm.trans same)]
          · intro same
            rw [isWhole (Except.ok.inj (told.symm.trans same))]
          · intro fault same
            exact absurd (told.symm.trans same) nofun

end Transport

end LanguageClient
