import LanguageClient.Frame.Buffer
import LanguageClient.Frame.Header
import LanguageClient.Json.Reader
import LanguageClient.Text.Utf8

/-! # Messages out of frames

Takes bytes as they arrive, in pieces of any size, and gives the messages that are complete.
A header of no use is dropped by itself; a body that is no JSON object is dropped with its
header. Either way reading goes on with the bytes behind.
-/

namespace LanguageClient

/-- Bytes that wait for the rest of their frame. -/
structure FrameParser where
  buffer : ByteBuffer := {}
  /-- The length of the body that comes next, once its header has been read. -/
  expected : Option Nat := none
  deriving Repr, DecidableEq

namespace FrameParser

def buffered (parser : FrameParser) : Nat :=
  parser.buffer.size

variable [Limits]

/-- The message in a body, if it is a JSON object. A body that is nested too deep to be read
    at all is a fault. -/
def messageOf? (body : List UInt8) : Except Fault (Option Json) :=
  match Text.decodeUtf8 body with
  | .error _ => .ok none
  | .ok text =>
    match Json.read text with
    | .ok (.obj entries) => .ok (some (.obj entries))
    | .error (.nestedTooDeep container) => .error (.nestedTooDeep container.name)
    | _ => .ok none

/-- What came of feeding bytes: the messages completed, unless a header or a body faulted,
    and the parser as it is left, behind what faulted. -/
@[ext]
structure Fed where
  result : Except Fault (List Json)
  parser : FrameParser

/-- Put a message in front of those that follow it. -/
def Fed.cons (message : Option Json) (fed : Fed) : Fed :=
  { fed with result := fed.result.map (message.toList ++ ·) }

def drain (parser : FrameParser) : Fed :=
  match _waiting : parser.expected with
  | none =>
    match _h : parser.buffer.find? Frame.headerEnd with
    | none => ⟨.ok [], parser⟩
    | some place =>
      let taken := parser.buffer.consume (place + Frame.headerEnd.length : Nat)
      match Frame.contentLength (taken.1.take place) with
      | .error fault => ⟨.error fault, ⟨taken.2, none⟩⟩
      | .ok expected => drain ⟨taken.2, expected⟩
  | some length =>
    if !parser.buffer.holds length then ⟨.ok [], parser⟩
    else
      let taken := parser.buffer.consume length
      match messageOf? taken.1 with
      | .error fault => ⟨.error fault, ⟨taken.2, none⟩⟩
      | .ok message => (drain ⟨taken.2, none⟩).cons message
termination_by 2 * parser.buffer.size + (if parser.expected.isSome then 1 else 0)
decreasing_by
  · have hfits := ByteBuffer.indexOf?_add_length_le _h
    have hsize := ByteBuffer.size_consume_natCast parser.buffer
      (place + Frame.headerEnd.length)
    have hend : Frame.headerEnd.length = 4 := rfl
    have hbytes : parser.buffer.bytes.length = parser.buffer.size := rfl
    simp only [hsize]
    split <;> split <;> omega
  · have hsize := ByteBuffer.size_consume_natCast parser.buffer length
    rw [hsize, _waiting]
    simp only [Option.isSome_none, Option.isSome_some, Bool.false_eq_true, ↓reduceIte]
    omega

/-- Add bytes and take all frames that are complete. -/
def feed (parser : FrameParser) (data : List UInt8) : Fed :=
  drain { parser with buffer := parser.buffer.append data }

end FrameParser

end LanguageClient
