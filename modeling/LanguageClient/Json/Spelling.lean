import LanguageClient.Fault
import LanguageClient.Json.Basic

/-! # What cannot be spelt

Values are written to be read by others and shown to be read by people. Either way there may be too
many containers around a place in them, and there may be integers that are too long. The first of
these that is met, in the order in which a value is spelt, ends the spelling.
-/

namespace LanguageClient

/-- A way to spell values, part by part. -/
structure Spelling where
  /-- Whether a part that holds no others is opened as well. -/
  opensAll : Bool
  tooDeep : Fault

namespace Json

/-- Why a part that holds no others cannot be spelt with so much room left, if it cannot. -/
def leafObstacle? (spelling : Spelling) (room : Nat) (value : Json) : Option Fault :=
  if spelling.opensAll && room == 0 then some spelling.tooDeep
  else match value with
    | .int value => if isTooLong value then some .tooLongToWrite else none
    | _ => none

mutual

/-- Why a value cannot be spelt with so much room left, if it cannot. -/
def obstacle? (spelling : Spelling) (room : Nat) : Json → Option Fault
  | .arr items =>
    if room = 0 then some spelling.tooDeep else obstacleInItems? spelling (room - 1) items
  | .obj entries =>
    if room = 0 then some spelling.tooDeep else obstacleInEntries? spelling (room - 1) entries
  | value => leafObstacle? spelling room value

def obstacleInItems? (spelling : Spelling) (room : Nat) : List Json → Option Fault
  | [] => none
  | item :: rest => (obstacle? spelling room item).or (obstacleInItems? spelling room rest)

def obstacleInEntries? (spelling : Spelling) (room : Nat) : List (Text × Json) → Option Fault
  | [] => none
  | (_, value) :: rest =>
    (obstacle? spelling room value).or (obstacleInEntries? spelling room rest)

end

variable [Limits]

/-- Why a value cannot be written, if it cannot, apart from what its text holds. -/
def unwritable? (value : Json) : Option Fault :=
  obstacle? ⟨false, .writtenTooDeep⟩ Limits.writing value

/-- Why a value cannot be shown, if it cannot. -/
def unshowable? (value : Json) : Option Fault :=
  obstacle? ⟨true, .shownTooDeep⟩ Limits.showing value

end Json

end LanguageClient
