import LanguageClient.Json.Printer
import LanguageClient.Json.Spelling
import LanguageClient.Text.Utf8

/-! # Frames

A message travels as a frame: a header that announces the length of the body in bytes, an
empty line, and the body, which is the message in compact JSON. A message that cannot be written as
JSON has no frame, nor has one whose text is no string.
-/

namespace LanguageClient.Frame

/-- The bytes of code points, which must be characters. -/
def encodePoints (points : List CodePoint) : Except Fault (List UInt8) :=
  match Text.unencodable? (fun _ => false) 0 points with
  | some fault => .error fault
  | none => .ok (Text.encodeChars (CodePoint.chars points))

/-- The header for a body of some length. -/
def header (length : Nat) : List UInt8 :=
  Text.encodeUtf8 ("Content-Length: " ++ toString length ++ "\r\n\r\n")

/-- Bytes with a header in front. -/
def wrap (body : List UInt8) : List UInt8 :=
  header body.length ++ body

variable [Limits]

/-- The bytes of the body of a message. -/
def body (message : Json) : Except Fault (List UInt8) :=
  match message.unwritable? with
  | some fault => .error fault
  | none => encodePoints message.print

def encode (message : Json) : Except Fault (List UInt8) :=
  (body message).map wrap

end LanguageClient.Frame
