import LanguageClient.Proofs.Text.Utf8
import LanguageClient.Proofs.Transport

/-! # Message after message

One transport sends messages one after another, and the pipe takes each call as it likes. All in
all it takes whole frames, in the order of their messages, and at most a part of one more behind
them: the message that it belongs to is the last one for which the pipe is called at all. A message
without a frame is withheld, and that is all.
-/

namespace LanguageClient.Transport

section

variable [Limits]

/-- A message to be sent, with how the pipe takes the calls that are made for it. -/
structure Dispatch where
  message : Json
  writes : List WriteOutcome
  flushFails : Bool

/-- Send messages one after another. Gives each with what sending it came to. -/
def sendAll (transport : Transport) : List Dispatch → List (Json × Sent)
  | [] => []
  | dispatch :: rest =>
    let sent := transport.send dispatch.message dispatch.writes dispatch.flushFails
    (dispatch.message, sent) :: sent.transport.sendAll rest

/-- The bytes that the pipe took, in order. -/
def takenIn (posted : List (Json × Sent)) : List UInt8 :=
  posted.flatMap (·.2.taken)

/-- The message was not sent, and the pipe was called neither to write nor to flush. -/
structure Sent.Refused (sent : Sent) : Prop where
  unsent : sent.sent = .ok false
  unusable : sent.transport.usable = false
  uncalled : sent.calls = 0
  unflushed : sent.flushed = false
  untaken : sent.taken = []

theorem refused_send {transport : Transport} (unusable : transport.usable = false)
    (message : Json) (outcomes : List WriteOutcome) (flushFails : Bool) :
    (transport.send message outcomes flushFails).Refused := by
  rw [send_of_unusable unusable]
  exact ⟨rfl, unusable, rfl, rfl, rfl⟩

theorem refused_sendAll {transport : Transport} (unusable : transport.usable = false)
    (dispatches : List Dispatch) :
    ∀ posted ∈ transport.sendAll dispatches, posted.2.Refused := by
  induction dispatches generalizing transport with
  | nil => exact fun one member => absurd member List.not_mem_nil
  | cons dispatch rest ih =>
      have refused := refused_send unusable dispatch.message dispatch.writes dispatch.flushFails
      intro posted member
      cases List.mem_cons.mp member with
      | inl first =>
          rw [first]
          exact refused
      | inr later => exact ih refused.unusable posted later

omit [Limits] in
theorem takenIn_of_refused {posted : List (Json × Sent)}
    (refused : ∀ one ∈ posted, one.2.Refused) : takenIn posted = [] :=
  List.flatMap_eq_nil_iff.mpr fun one member => (refused one member).untaken

/-- A message that did not come through, with those behind it: the pipe took at most a part of
    its frame, and nothing that comes later is so much as tried. -/
inductive Broken : List UInt8 → List (Json × Sent) → Prop where
  | unbroken : Broken [] []
  | broken {message : Json} {frame : List UInt8} {sent : Sent} {later : List (Json × Sent)}
      (unsent : sent.sent = .ok false) (unusable : sent.transport.usable = false)
      (framed : Frame.encode message = .ok frame) (isPart : sent.taken <+: frame)
      (refused : ∀ one ∈ later, one.2.Refused) :
      Broken sent.taken ((message, sent) :: later)

theorem Broken.takenIn {part : List UInt8} {posted : List (Json × Sent)}
    (broken : Broken part posted) : takenIn posted = part := by
  cases broken with
  | unbroken => rfl
  | broken unsent unusable framed isPart refused =>
      rw [Transport.takenIn, List.flatMap_cons]
      exact (congrArg _ (takenIn_of_refused refused)).trans (List.append_nil _)

/-- Messages that are sent one after another come through whole up to the first that does not, save
    for those that have no frame. The pipe takes their frames and perhaps a part of the frame of
    that one, however it takes the calls, and from then on it is not called any more. -/
theorem takenIn_sendAll {transport : Transport} (usable : transport.usable = true)
    (dispatches : List Dispatch) :
    ∃ whole rest part, transport.sendAll dispatches = whole ++ rest ∧
      (∀ one ∈ whole, one.2.sent = (Frame.encode one.1).map (fun _ => true) ∧
        one.2.transport.usable = true) ∧
      Broken part rest ∧
      takenIn (transport.sendAll dispatches) =
        whole.flatMap (fun one => frameOf one.1) ++ part := by
  induction dispatches generalizing transport with
  | nil => exact ⟨[], [], [], rfl, List.forall_mem_nil _, .unbroken, rfl⟩
  | cons dispatch later ih =>
      -- A message that does not end the row goes in front of those behind it.
      have goesOn {sent : Sent}
          (came : sent.sent = (Frame.encode dispatch.message).map fun _ => true)
          (still : sent.transport.usable = true) (taken : sent.taken = frameOf dispatch.message) :
          ∃ whole rest part,
            (dispatch.message, sent) :: sent.transport.sendAll later = whole ++ rest ∧
            (∀ one ∈ whole, one.2.sent = (Frame.encode one.1).map (fun _ => true) ∧
              one.2.transport.usable = true) ∧
            Broken part rest ∧
            takenIn ((dispatch.message, sent) :: sent.transport.sendAll later) =
              whole.flatMap (fun one => frameOf one.1) ++ part := by
        obtain ⟨whole, rest, part, split, through, broken, takenLater⟩ := ih still
        refine ⟨(dispatch.message, sent) :: whole, rest, part, congrArg _ split, ?_, broken, ?_⟩
        · intro one member
          cases List.mem_cons.mp member with
          | inl first =>
              rw [first]
              exact ⟨came, still⟩
          | inr later => exact through one later
        · rw [takenIn, List.flatMap_cons, List.flatMap_cons, List.append_assoc, ← takenLater, taken]
          rfl
      rw [sendAll]
      cases framed : Frame.encode dispatch.message with
      | error fault =>
          rw [send_of_frameless usable framed]
          exact goesOn (by rw [framed]; rfl) usable (by rw [frameOf, framed]; rfl)
      | ok frame =>
          obtain ⟨sent, told, behind, isPart, isWhole⟩ :=
            send_of_frame usable framed dispatch.writes dispatch.flushFails
          generalize transport.send dispatch.message dispatch.writes dispatch.flushFails = result
            at told behind isPart isWhole ⊢
          have usableBehind : result.transport.usable = sent := by rw [behind]
          cases sent with
          | true =>
              exact goesOn (by rw [framed, told]; rfl) usableBehind
                (by rw [frameOf, framed, isWhole rfl]; rfl)
          | false =>
              have broken : Broken result.taken
                  ((dispatch.message, result) :: result.transport.sendAll later) :=
                .broken told usableBehind framed isPart (refused_sendAll usableBehind later)
              exact ⟨[], _, _, rfl, List.forall_mem_nil _, broken, broken.takenIn⟩

end

open scoped Limits.Usual

/-- One message comes through in pieces, one has no frame, the next is broken off, and a fourth is
    not tried. -/
def piecemeal : List Dispatch :=
  [⟨.obj [], [.takes 1, .full, .interrupted, .takes 0], false⟩,
    ⟨.str Text.unpaired, [], false⟩,
    ⟨.obj [("id", .int 1)], [.takes 3, .fails], false⟩, ⟨.obj [], [], false⟩]

theorem takenIn_piecemeal :
    ∃ whole rest part, sendAll { descriptor := 5 } piecemeal = whole ++ rest ∧
      (∀ one ∈ whole, one.2.sent = (Frame.encode one.1).map (fun _ => true) ∧
        one.2.transport.usable = true) ∧
      Broken part rest ∧
      takenIn (sendAll { descriptor := 5 } piecemeal) =
        whole.flatMap (fun one => frameOf one.1) ++ part ∧
      takenIn (sendAll { descriptor := 5 } piecemeal) =
        frameOf (.obj []) ++ (frameOf (.obj [("id", .int 1)])).take 3 := by
  obtain ⟨whole, rest, part, split, through, broken, taken⟩ :=
    @takenIn_sendAll _ { descriptor := 5 } rfl piecemeal
  refine ⟨whole, rest, part, split, through, broken, taken, ?_⟩
  with_unfolding_all rfl

end LanguageClient.Transport
