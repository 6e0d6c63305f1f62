import LanguageClient.Schedule.InFlight
import LanguageClient.Schedule.Moment

/-! # Hovering

A hover is asked for once the pointer has rested on a place, is given up when no response
comes, and is taken off when the pointer goes elsewhere.
-/

namespace LanguageClient

variable {π τ : Type} [BEq π] [BEq τ] [DocumentName π]

/-- The place in a document, and on the screen, that the pointer is on. -/
structure HoverTarget (π : Type) where
  name : π
  line : Int
  col : Int
  screenX : Int := 0
  screenY : Int := 0
  deriving Repr, BEq, ReflBEq, LawfulBEq

/-- The state of hovering over targets of type `τ` in documents with names of type `π`; times
    are in milliseconds. -/
structure HoverSchedule (π τ : Type) where
  /-- How long the pointer must rest. -/
  delay : Int := 250
  /-- How long a response is waited for. -/
  timeout : Int := 1000
  target : Option τ := none
  inFlight : Option (InFlight π) := none
  /-- Whether hover text is shown. -/
  displayed : Bool := false
  /-- Whether the target has yet to be asked for. -/
  waiting : Bool := false
  lastMove : Int := 0
  deriving Repr, DecidableEq

namespace HoverSchedule

/-- Give up what is shown and what was asked for. Says whether there was anything. -/
def clear (hover : HoverSchedule π τ) : Bool × HoverSchedule π τ :=
  (hover.displayed || hover.inFlight.isSome,
    { hover with displayed := false, inFlight := none, waiting := false })

def isOn (hover : HoverSchedule π τ) (target : τ) : Bool :=
  match hover.target with
  | none => false
  | some current => current == target

/-- Take on a target. A new one clears; says whether that gave anything up. -/
def pointAt (hover : HoverSchedule π τ) (target : τ) : Bool × HoverSchedule π τ :=
  let (cleared, hover) := if hover.isOn target then (false, hover) else hover.clear
  (cleared, { hover with target := some target })

/-- The pointer rests on the target from now on. -/
def restFrom (hover : HoverSchedule π τ) (now : Int) : HoverSchedule π τ :=
  { hover with lastMove := now, waiting := true }

/-- Note where the pointer is, given the time or why there is none. A new place clears; says
    whether that gave anything up. Without a time the target is taken on, but not as one that
    the pointer rests on. -/
def setTarget (hover : HoverSchedule π τ) (target : τ) (now : Except Fault Int) :
    Except Fault Bool × HoverSchedule π τ :=
  let (cleared, hover) := hover.pointAt target
  match now with
  | .ok now => (.ok cleared, hover.restFrom now)
  | .error fault => (.error fault, hover)

/-- The target that is to be asked for now, once. -/
def due (hover : HoverSchedule π τ) (now : Moment) :
    Except Fault (Option τ × HoverSchedule π τ) :=
  match hover.target, hover.waiting with
  | some target, true =>
    (now.since hover.lastMove).map fun time =>
      if time.fallsShortOf hover.delay then (none, hover)
      else (some target, { hover with waiting := false })
  | _, _ => .ok (none, hover)

/-- Note a request; it takes the place of the one before. -/
def start (hover : HoverSchedule π τ) (name : π) (line col now : Int) : HoverSchedule π τ :=
  { hover with inFlight := some { name, line, col, sentAt := now } }

/-- Take a response if it is for the latest request. -/
def accept (hover : HoverSchedule π τ) (name : π) (line col : Int) :
    Bool × HoverSchedule π τ :=
  match hover.inFlight with
  | none => (false, hover)
  | some request =>
    if request.isAbout name line col then (true, { hover with inFlight := none })
    else (false, hover)

/-- Give up a request that has waited too long. Says whether there was one. -/
def expired (hover : HoverSchedule π τ) (now : Moment) :
    Except Fault (Bool × HoverSchedule π τ) :=
  match hover.inFlight with
  | none => .ok (false, hover)
  | some request =>
    (now.since request.sentAt).map fun time =>
      if time.staysWithin hover.timeout then (false, hover)
      else (true, { hover with inFlight := none })

def display (hover : HoverSchedule π τ) (shown : Bool) : HoverSchedule π τ :=
  { hover with displayed := shown }

end HoverSchedule

end LanguageClient
