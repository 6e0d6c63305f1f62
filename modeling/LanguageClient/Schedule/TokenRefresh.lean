import LanguageClient.Document.Name
import LanguageClient.Schedule.Moment
import LanguageClient.Table

/-! # Refreshing semantic tokens

Documents that were changed have their tokens asked for again once they have been left alone
for a while.
-/

namespace LanguageClient

variable {π : Type} [BEq π] [DocumentName π]

/-- The changed documents with the times of their latest changes, in the order of the first
    change since each was last taken off. -/
structure TokenRefresh (π : Type) where
  /-- How long a document must have been left alone, in milliseconds. -/
  delay : Int := 150
  marks : Table π Int := []
  deriving Repr, DecidableEq

namespace TokenRefresh

def markChanged (refresh : TokenRefresh π) (name : π) (now : Int) : TokenRefresh π :=
  { refresh with marks := Table.put refresh.marks name now }

def discard (refresh : TokenRefresh π) (name : π) : TokenRefresh π :=
  { refresh with marks := Table.remove refresh.marks name }

/-- Note a change under a name, if it can be kept. -/
def tryMark (refresh : TokenRefresh π) (name : π) (now : Int) :
    Except Fault (TokenRefresh π) :=
  (DocumentName.check name).map (fun _ => refresh.markChanged name now)

/-- Take a document off. Where there is none, nothing is asked of the name. -/
def tryDiscard (refresh : TokenRefresh π) (name : π) :
    Except Fault (TokenRefresh π) :=
  if refresh.marks.isEmpty then .ok refresh
  else (DocumentName.check name).map (fun _ => refresh.discard name)

def isDue (refresh : TokenRefresh π) (now : Moment) (mark : π × Int) : Bool :=
  match now.since mark.2 with
  | .ok time => time.reaches refresh.delay
  | .error _ => false

/-- Why the age of a change cannot be told, if it cannot. -/
def ageFault? (now : Moment) (mark : π × Int) : Option Fault :=
  match now.since mark.2 with
  | .ok _ => none
  | .error fault => some fault

/-- The documents that are due, which are taken off. -/
def due (refresh : TokenRefresh π) (now : Moment) :
    Except Fault (List π × TokenRefresh π) :=
  match refresh.marks.findSome? (ageFault? now) with
  | some fault => .error fault
  | none =>
    .ok (Table.keys (refresh.marks.filter (refresh.isDue now)),
      { refresh with marks := refresh.marks.filter (fun mark => !refresh.isDue now mark) })

def clear (refresh : TokenRefresh π) : TokenRefresh π :=
  { refresh with marks := [] }

omit [BEq π] [DocumentName π] in
/-- By a clock of whole milliseconds a change is due once it is as old as the delay. -/
theorem isDue_whole (refresh : TokenRefresh π) (now : Int) (mark : π × Int) :
    refresh.isDue now mark = decide (refresh.delay ≤ now - mark.2) := by
  simp [isDue]

omit [BEq π] [DocumentName π] in
/-- By a clock of whole milliseconds no age is in doubt. -/
theorem due_whole (refresh : TokenRefresh π) (now : Int) :
    refresh.due now =
      .ok (Table.keys (refresh.marks.filter (refresh.isDue now)),
        { refresh with marks := refresh.marks.filter (fun mark => !refresh.isDue now mark) }) := by
  have h : refresh.marks.findSome? (ageFault? now) = none := by
    simp [List.findSome?_eq_none_iff, ageFault?]
  simp [due, h]

end TokenRefresh

end LanguageClient
