import LanguageClient.Proofs.Frame.RoundTrip
import LanguageClient.Proofs.Session.Failures
import LanguageClient.Proofs.Session.Openness
import Mathlib.Data.Nat.Digits.Defs

/-! # The numbers of requests

Every request leaves a mark in the journal, so that no server is asked more often than things have
happened. Integers are written up to a length, and so there is an end to the numbers that requests
can have, but it is beyond all that a machine could do. Short of it nothing is in the way of the
goodbyes to a server, which hold nothing but such a number, and every stop is gone through with.
-/

namespace LanguageClient.Session

variable {π : Type} {session before after : Session π}

/-- The server that runs was asked no more often than things have happened. -/
def Counted (session : Session π) : Prop :=
  session.isRunning = true → session.requests.next ≤ session.journal.length + 1

/-- Fewer things have happened than there are numbers that can be written. -/
def IsShort (session : Session π) : Prop :=
  session.journal.length + 1 < 10 ^ maxIntegerDigits

instance (session : Session π) : Decidable session.IsShort :=
  inferInstanceAs (Decidable (_ < _))

theorem IsShort.earlier (short : after.IsShort) (grows : Grows before after) : before.IsShort :=
  Nat.lt_of_le_of_lt (Nat.add_le_add_right grows.length_le 1) short

theorem counted_of_idle (idle : session.connection = none) : session.Counted := by
  intro running
  unfold isRunning at running
  rw [idle] at running
  exact absurd running Bool.false_ne_true

theorem Counted.keep (counted : before.Counted) (grows : Grows before after)
    (running : after.isRunning = before.isRunning)
    (next : after.requests.next = before.requests.next) : after.Counted := by
  intro isRunning
  rw [next]
  exact Nat.le_trans (counted (running.symm.trans isRunning))
    (Nat.add_le_add_right grows.length_le 1)

theorem Counted.calm (counted : before.Counted) (calm : Calm before after) : after.Counted :=
  counted.keep calm.grows (congrArg Option.isSome calm.connection)
    (congrArg PendingRequests.next calm.requests)

variable [Host]

/-! ## What is said -/

theorem requests_said (session : Session π) (server : Nat) (message : Json)
    (taken : Except Fault (List UInt8)) :
    (session.said server message taken).requests = session.requests :=
  (calm_logMessage session .outgoing message).requests

/-- A server that goes on behind a message has the message in its journal. -/
theorem counted_send (message : Json)
    (next : session.isRunning = true → session.requests.next ≤ session.journal.length + 2) :
    (session.send message).2.Counted := by
  have held {connection held : Connection} (running : session.connection = some connection)
      (taken : Except Fault (List UInt8)) :
      ((session.said connection.server message taken).hold held).Counted := by
    have logged := (calm_logMessage session .outgoing message).grows.length_le
    have isRunning : session.isRunning = true := Option.isSome_of_eq_some running
    intro _
    show (session.said connection.server message taken).requests.next ≤
      (session.said connection.server message taken).journal.length + 1
    rw [requests_said, said, record, List.length_cons]
    have bound := next isRunning
    omega
  have outcome := sending session message
  generalize session.send message = result at outcome ⊢
  cases outcome with
  | idle nobody => exact counted_of_idle nobody
  | whole rest flushes running framed => exact held running _
  | part rest flushes running isPart => exact counted_of_idle (disable_connection _ _)
  | withheld fault running => exact held running _

theorem Counted.send (counted : session.Counted) (message : Json) :
    (session.send message).2.Counted :=
  counted_send message fun running => Nat.le_succ_of_le (counted running)

theorem Counted.request (counted : session.Counted) (method : Text) (params : Json)
    (context : RequestContext π) : (session.request method params context).2.Counted := by
  rw [request_snd]
  apply counted_send
  intro running
  exact Nat.succ_le_succ (counted running)

/-- Nothing is in the way of a message that is plain and holds nothing nested. -/
theorem send_ne_error {message : Json} (plain : message.isPlain = true)
    (flat : message.height ≤ 1) (fault : Fault) : (session.send message).1 ≠ .error fault := by
  have writable := Nat.le_trans flat Limits.one_le_writing
  have showable : message.unshowable? = none := by
    apply Json.obstacle?_of_plain plain
    have room := Limits.one_le_reading
    have more := Limits.reading_lt_showing
    simp only [Bool.toNat_true]
    omega
  unfold send
  cases session.connection with
  | none => exact nofun
  | some connection =>
      have unlogged : session.unloggable? message = none := by
        unfold unloggable?
        rw [showable, ite_self]
      obtain ⟨sent, isSent⟩ : ∃ sent, (connection.transport.send message connection.peer.writes
          connection.peer.flushFails).sent = .ok sent := by
        unfold Transport.send
        split
        · exact ⟨false, rfl⟩
        · rw [Frame.encode_of_plain plain writable]
          exact ⟨_, rfl⟩
      simp only [write, unlogged, isSent]
      cases sent <;> exact nofun

/-! ## Stops -/

omit [Host] in
theorem isPlain_shutdownRequest (short : session.requests.next < 10 ^ maxIntegerDigits) :
    session.shutdownRequest.isPlain = true := by
  have digits : (Nat.toDigits 10 session.requests.next).length ≤ maxIntegerDigits :=
    Nat.toDigits_length _ _ _ (by decide) short
  have numbered (number : Json) : (Json.obj [("jsonrpc", .str "2.0"), ("id", number),
      ("method", .str "shutdown")]).isPlain = number.isPlain := by
    rw [Json.isPlain]
    simp only [Json.areEntriesPlain, List.map]
    generalize number.isPlain = plain
    cases plain <;> rfl
  exact (numbered (.int session.requests.next)).trans (decide_eq_true digits)

theorem Stopping.finishes {outcome : Except Fault Unit × Session π}
    (stopping : Stopping before outcome) (counted : before.Counted) (short : before.IsShort) :
    outcome.1 = .ok () := by
  cases stopping with
  | idle nobody => rfl
  | stopped running parting => rfl
  | @unasked fault running withheld =>
      rw [request_fst] at withheld
      have next := Nat.lt_of_le_of_lt (counted running) short
      cases sent : (before.leaving.send before.shutdownRequest).1 with
      | error unsaid =>
          have flat : before.leaving.shutdownRequest.height ≤ 1 := Nat.le_refl 1
          exact absurd sent (send_ne_error (isPlain_shutdownRequest next) flat unsaid)
      | ok told => exact absurd ((congrArg (Except.map _) sent).symm.trans withheld) nofun
  | @unordered _ fault running asked withheld =>
      exact absurd withheld (send_ne_error (by decide) (by decide) fault)

/-! ## Every move -/

section

variable [BEq π] [DocumentName π]

theorem Begins.counted {prepared : Session π} {method : Text} {params : Json}
    {context : RequestContext π} (begins : Begins before prepared method params context)
    (counted : before.Counted) : prepared.Counted := by
  cases begins with
  | semanticTokens found => exact counted
  | hover found line col now => exact counted
  | completion found line col now trigger triggerKind => exact counted

theorem Speech.counted (speech : Speech before after) (counted : before.Counted) :
    after.Counted := by
  cases speech with
  | nothing calm => exact counted.calm calm
  | @telling documents prepared message tells calm =>
      have noted : Counted { before with documents } := counted
      exact (noted.calm calm).send message
  | asking begins => exact (begins.counted counted).request _ _ _

omit [Host] in
theorem Responding.counted {id : Json} (responding : Responding before id after)
    (counted : before.Counted) : after.Counted := by
  have resolved {context : RequestContext π} {requests : PendingRequests (RequestContext π)}
      (resolves : before.requests.resolve id = (some context, requests)) :
      Counted { before with requests } := by
    obtain ⟨_, _, _, rfl⟩ := PendingRequests.resolve_eq_some resolves
    exact counted
  cases responding with
  | unknown unresolved => exact counted
  | calm resolves stale calm => exact (resolved resolves).calm calm
  | ready resolves => exact (resolved resolves).keep (List.suffix_cons _ _) rfl rfl
  | hover resolves accepted => exact (resolved resolves).keep (List.suffix_cons _ _) rfl rfl
  | completion resolves accepted => exact (resolved resolves).keep (List.suffix_cons _ _) rfl rfl

end

theorem Starting.counted {command : Text} {outcome : Except Fault Bool × Session π}
    (starting : Starting before command outcome) (counted : before.Counted) :
    outcome.2.Counted := by
  cases starting with
  | running running => exact counted
  | failed nobody refused => exact counted_of_idle nobody
  | brokenOff nobody broken => exact counted_of_idle nobody
  | @started process params nobody launched =>
      have fresh : (before.hosting command process).Counted := fun _ => Nat.le_add_left 1 _
      exact fresh.request _ _ _

theorem Stopping.counted {outcome : Except Fault Unit × Session π}
    (stopping : Stopping before outcome) (counted : before.Counted) : outcome.2.Counted := by
  apply stopping.keeps (motive := Counted) counted
  · intro _
    exact counted.request _ _ _
  · intro asking counted
    exact counted.send _
  · intro connection ending running parting
    exact counted_of_idle (disconnect_connection ending _)

theorem Plain.counted {before after : Session Text} (plain : Plain before after)
    (counted : before.Counted) : after.Counted := by
  have changed (change : Peer → Peer) : (before.changePeer change).Counted :=
    counted.keep (grows_changePeer before change) (isRunning_changePeer before change)
      (by unfold changePeer; cases before.connection <;> rfl)
  cases plain.effect with
  | speech speech => exact speech.counted counted
  | surround now launcher settings => exact counted
  | prepareWrites writes flushes => exact counted
  | takeWritesAs writes flushes => exact changed _
  | deliver given => exact changed _
  | receive running => exact fun _ => counted (Option.isSome_of_eq_some running)
  | start starting => exact starting.counted counted
  | stop stopping => exact stopping.counted counted
  | serverExited running => exact counted_of_idle (disable_connection before _)

theorem Move.counted {before after : Session Text} (move : Move before after)
    (counted : before.Counted) : after.Counted := by
  cases move with
  | plain plain => exact plain.counted counted
  | @openDocument path text languageId params documents running opened =>
      have noted : Counted { before with documents } := counted
      exact noted.send _
  | confirmHandshake =>
      have noted : Counted { before with
          handshake := before.handshake.documentOpened.2 } := counted
      simp only [Session.confirmHandshake]
      split
      · exact noted.send _
      · exact noted
  | takeResponse message => exact (responding before message).counted counted

theorem counted_of_turns {before after : Session Text} (turns : Turns before after)
    (counted : before.Counted) : after.Counted :=
  keep_of_chain (@Move.counted _) (moves_of_turns turns) counted

end LanguageClient.Session
