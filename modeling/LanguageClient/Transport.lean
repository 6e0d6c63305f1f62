import LanguageClient.Frame.Encode
import LanguageClient.Frame.Parser

/-! # Transport

Framed messages over the two pipes of a server. Sending goes on until the whole frame is
handed over; receiving takes what has arrived and never waits. How the pipes behave is
given as data: the outcomes of the coming calls, in order.
-/

namespace LanguageClient

/-- What one call that writes to a pipe does. -/
inductive WriteOutcome where
  /-- Takes the first bytes offered, at most so many. -/
  | takes (count : Nat)
  | takesAll
  /-- Takes nothing because the pipe is full. -/
  | full
  | interrupted
  | fails
  deriving Repr, DecidableEq

/-- What one call that reads from a pipe does. -/
inductive ReadOutcome where
  /-- Gives bytes; no bytes at all mean the end. -/
  | data (bytes : List UInt8)
  | wouldBlock
  | interrupted
  | fails
  | endOfData
  deriving Repr, DecidableEq

/-- The near end of the two pipes of a server. -/
structure Transport where
  /-- The descriptor to read from; below zero there is none. -/
  descriptor : Int
  parser : FrameParser := {}
  /-- Whether sending has never failed. -/
  usable : Bool := true
  /-- Whether nothing more will arrive. -/
  closed : Bool := false
  deriving Repr, DecidableEq

/-- What handing over some bytes came to. -/
structure Handover where
  done : Bool
  taken : List UInt8
  /-- How many calls it took. -/
  calls : Nat
  /-- The outcomes that are left for later calls. -/
  rest : List WriteOutcome
  deriving Repr, DecidableEq

/-- Count a call that took some bytes in front of what came after it. -/
def Handover.after (bytes : List UInt8) (later : Handover) : Handover :=
  { later with taken := bytes ++ later.taken, calls := later.calls + 1 }

/-- Hand bytes over, call by call. Once the outcomes are used up a call takes everything. -/
def handOver : List WriteOutcome → List UInt8 → Handover
  | outcomes, [] => ⟨true, [], 0, outcomes⟩
  | [], bytes => ⟨true, bytes, 1, []⟩
  | .takes count :: rest, bytes =>
    (handOver rest (bytes.drop count)).after (bytes.take count)
  | .takesAll :: rest, bytes => ⟨true, bytes, 1, rest⟩
  | .full :: rest, bytes => (handOver rest bytes).after []
  | .interrupted :: rest, bytes => (handOver rest bytes).after []
  | .fails :: rest, _ => ⟨false, [], 1, rest⟩

/-- What has been read: the bytes in order, and whether the end was met. -/
structure Arrived where
  bytes : List UInt8
  /-- Whether any call gave bytes. -/
  any : Bool
  ended : Bool
  /-- The outcomes that are left for later calls. -/
  rest : List ReadOutcome
  deriving Repr, DecidableEq

/-- Read until there is nothing more for now. Once the outcomes are used up nothing more is
    there. -/
def readAll : List ReadOutcome → Arrived
  | [] => ⟨[], false, false, []⟩
  | .data [] :: rest => ⟨[], false, true, rest⟩
  | .data (byte :: bytes) :: rest =>
    let later := readAll rest
    { later with bytes := byte :: bytes ++ later.bytes, any := true }
  | .wouldBlock :: rest => ⟨[], false, false, rest⟩
  | .interrupted :: rest => readAll rest
  | .fails :: rest => ⟨[], false, true, rest⟩
  | .endOfData :: rest => ⟨[], false, true, rest⟩

namespace Transport

/-- How many bytes wait for the rest of their frame. -/
def buffered (transport : Transport) : Nat :=
  transport.parser.buffered

/-- What sending a message came to. -/
structure Sent where
  transport : Transport
  /-- Whether the message was sent, or why it has no frame. -/
  sent : Except Fault Bool
  taken : List UInt8
  calls : Nat
  /-- Whether the pipe was flushed. -/
  flushed : Bool
  rest : List WriteOutcome

/-- What was taken of the frame of a message, or why it has none. -/
def Sent.outcome (sent : Sent) : Except Fault (List UInt8) :=
  sent.sent.map fun _ => sent.taken

variable [Limits]

/-- Send a message: write its frame, then flush. The first failure is the last attempt. A message
    without a frame is not attempted. -/
def send (transport : Transport) (message : Json) (outcomes : List WriteOutcome)
    (flushFails : Bool) : Sent :=
  if !transport.usable then ⟨transport, .ok false, [], 0, false, outcomes⟩
  else match Frame.encode message with
    | .error fault => ⟨transport, .error fault, [], 0, false, outcomes⟩
    | .ok frame =>
      let handover := handOver outcomes frame
      let flushed := handover.done
      let sent := flushed && !flushFails
      ⟨{ transport with usable := sent }, .ok sent, handover.taken, handover.calls, flushed,
        handover.rest⟩

/-- What receiving came to. -/
structure Received where
  transport : Transport
  messages : Except Fault (List Json)
  rest : List ReadOutcome

/-- Take the messages that have arrived. After the end of the data nothing is read any more. -/
def poll (transport : Transport) (outcomes : List ReadOutcome) : Received :=
  if transport.closed || transport.descriptor < 0 then ⟨transport, .ok [], outcomes⟩
  else
    let arrived := readAll outcomes
    let transport := { transport with closed := arrived.ended }
    if !arrived.any then ⟨transport, .ok [], arrived.rest⟩
    else
      let fed := transport.parser.feed arrived.bytes
      ⟨{ transport with parser := fed.parser }, fed.result, arrived.rest⟩

end Transport

end LanguageClient
