import LanguageClient.Decimal.Arithmetic
import LanguageClient.Fault

/-! # Moments

What a clock shows, in milliseconds: a whole number, or a binary64 number where the host reads
its clock with a fraction. A whole moment is counted on exactly and never refused.
-/

namespace LanguageClient

/-- A reading of the clock, or the time between two of them. -/
inductive Moment where
  | whole (milliseconds : Int)
  | fractional (milliseconds : Binary64)
  deriving Repr, DecidableEq

namespace Moment

instance : Coe Int Moment := ⟨.whole⟩

/-- The whole milliseconds of a moment, a fraction cut off toward zero. -/
def milliseconds : Moment → Except Fault Int
  | .whole milliseconds => .ok milliseconds
  | .fractional .nan => .error .undefinedInteger
  | .fractional milliseconds =>
    match milliseconds.truncate? with
    | some count => .ok count
    | none => .error .infiniteInteger

def rounded : Moment → Except Fault Binary64
  | .whole milliseconds =>
    match Binary64.ofInt? milliseconds with
    | some nearest => .ok nearest
    | none => .error .beyondRange
  | .fractional milliseconds => .ok milliseconds

/-- The moment so much later. -/
def plus : Moment → Moment → Except Fault Moment
  | .whole milliseconds, .whole time => .ok (.whole (milliseconds + time))
  | moment, time => do
    let moment ← moment.rounded
    let time ← time.rounded
    pure (.fractional (moment.plus time))

/-- The time that has passed since a mark. -/
def since (now : Moment) (mark : Int) : Except Fault Moment :=
  match now with
  | .whole milliseconds => .ok (.whole (milliseconds - mark))
  | .fractional milliseconds => do
    let mark ← rounded mark
    pure (.fractional (milliseconds.minus mark))

/-- How a time compares with whole milliseconds. -/
def compareWith? (time : Moment) (limit : Int) : Option Ordering :=
  match time with
  | .whole milliseconds => some (compare milliseconds limit)
  | .fractional milliseconds => milliseconds.compareInt? limit

/-- Whether a time is at least so long. -/
def reaches (time : Moment) (limit : Int) : Bool :=
  time.compareWith? limit == some .gt || time.compareWith? limit == some .eq

def fallsShortOf (time : Moment) (limit : Int) : Bool :=
  time.compareWith? limit == some .lt

/-- Whether a time is at most so long. -/
def staysWithin (time : Moment) (limit : Int) : Bool :=
  time.compareWith? limit == some .lt || time.compareWith? limit == some .eq

@[simp] theorem milliseconds_whole (now : Int) : (whole now).milliseconds = .ok now := rfl

@[simp] theorem since_whole (now mark : Int) :
    (whole now).since mark = .ok (.whole (now - mark)) := rfl

@[simp] theorem reaches_whole (time limit : Int) :
    (whole time).reaches limit = decide (limit ≤ time) := by
  unfold reaches compareWith? compare
  simp only [instOrdInt, compareOfLessAndEq]
  grind

@[simp] theorem fallsShortOf_whole (time limit : Int) :
    (whole time).fallsShortOf limit = decide (time < limit) := by
  unfold fallsShortOf compareWith? compare
  simp only [instOrdInt, compareOfLessAndEq]
  grind

@[simp] theorem staysWithin_whole (time limit : Int) :
    (whole time).staysWithin limit = decide (time ≤ limit) := by
  unfold staysWithin compareWith? compare
  simp only [instOrdInt, compareOfLessAndEq]
  grind

end Moment

end LanguageClient
