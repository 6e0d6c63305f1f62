import LanguageClient.Loose.Document
import LanguageClient.Schedule.Hover
import LanguageClient.Schedule.TokenRefresh

/-! # Schedules driven by loose values

A host may read its clock with a fraction, and may name documents and spell places as it
likes. The place of a response is the one asked about if it is equal to it; the targets of a
pointer are kept as they were given, and so is what is shown. A time is looked at only where
there is something that it could make due.
-/

namespace LanguageClient.Loose

def momentOf (now : Json) : Except Fault Moment :=
  match now with
  | .float milliseconds => .ok (.fractional milliseconds)
  | _ =>
    match now.wholeNumber? with
    | some milliseconds => .ok (.whole milliseconds)
    | none => .error (.notATime now.kind)

/-- A line and a column, in this order. -/
def position (line col : Json) : Except Fault (Int × Int) := do
  let line ← line.toInteger
  let col ← col.toInteger
  pure (line, col)

/-- The line and the column that some values are equal to. -/
def placeOf? (line col : Json) : Option (Int × Int) := do
  let line ← line.wholeNumber?
  let col ← col.wholeNumber?
  pure (line, col)

/-! ## Completion -/

def startCompletion (tracker : CompletionTracker Json) (name line col now : Json) :
    Except Fault (CompletionTracker Json) := do
  let (line, col) ← position line col
  let now ← now.toInteger
  pure (tracker.start name line col now)

/-- Take a completion response if it is for the latest request. -/
def acceptCompletion (tracker : CompletionTracker Json) (name line col : Json) :
    Bool × CompletionTracker Json :=
  match placeOf? line col with
  | some (line, col) => tracker.accept name line col
  | none => (false, tracker)

/-! ## Tokens -/

/-- Note a change. The time is read in front of the name. -/
def markChanged (refresh : TokenRefresh Json) (name now : Json) :
    Except Fault (TokenRefresh Json) := do
  let now ← now.toInteger
  refresh.tryMark name now

/-- The documents that are due, which are taken off. -/
def dueTokens (refresh : TokenRefresh Json) (now : Json) :
    Except Fault (List Json × TokenRefresh Json) :=
  if refresh.marks.isEmpty then .ok ([], refresh)
  else momentOf now >>= refresh.due

/-! ## Hovering -/

/-- The place that the pointer is on, as it was given. -/
structure Target where
  name : Json
  line : Json
  col : Json
  screenX : Json
  screenY : Json
  deriving BEq

/-- A schedule of hovering together with what is shown, which counts as shown if it counts as
    something. -/
structure Hovering where
  schedule : HoverSchedule Json Target := {}
  shown : Json := .bool false

namespace Hovering

/-- Whether there is anything to give up: what is shown, or else whether a request waits. -/
def given (hovering : Hovering) : Json :=
  if hovering.shown.isTruthy then hovering.shown
  else .bool hovering.schedule.inFlight.isSome

/-- Give up what is shown and what was asked for. Tells what there was. -/
def clear (hovering : Hovering) : Json × Hovering :=
  (hovering.given, { schedule := hovering.schedule.clear.2 })

def display (hovering : Hovering) (shown : Json) : Hovering :=
  { schedule := hovering.schedule.display shown.isTruthy, shown }

/-- Note where the pointer is. A new place clears; tells what that gave up. -/
def setTarget (hovering : Hovering) (target : Target) (now : Json) :
    Except Fault Json × Hovering :=
  let (cleared, schedule) := hovering.schedule.setTarget target now.toInteger
  if hovering.schedule.isOn target then
    (cleared.map Json.bool, { hovering with schedule })
  else (cleared.map fun _ => hovering.given, { schedule })

/-- The target that is to be asked for now, once. -/
def due (hovering : Hovering) (now : Json) : Except Fault (Option Target × Hovering) :=
  if hovering.schedule.waiting && hovering.schedule.target.isSome then do
    let now ← momentOf now
    let (target, schedule) ← hovering.schedule.due now
    pure (target, { hovering with schedule })
  else .ok (none, hovering)

def start (hovering : Hovering) (name line col now : Json) : Except Fault Hovering := do
  let (line, col) ← position line col
  let now ← now.toInteger
  pure { hovering with schedule := hovering.schedule.start name line col now }

/-- Take a response if it is for the latest request. -/
def accept (hovering : Hovering) (name line col : Json) : Bool × Hovering :=
  match placeOf? line col with
  | none => (false, hovering)
  | some (line, col) =>
    let (accepted, schedule) := hovering.schedule.accept name line col
    (accepted, { hovering with schedule })

/-- Give up a request that has waited too long. -/
def expired (hovering : Hovering) (now : Json) : Except Fault (Bool × Hovering) :=
  if hovering.schedule.inFlight.isSome then do
    let now ← momentOf now
    let (expired, schedule) ← hovering.schedule.expired now
    pure (expired, { hovering with schedule })
  else .ok (false, hovering)

end Hovering

end LanguageClient.Loose
