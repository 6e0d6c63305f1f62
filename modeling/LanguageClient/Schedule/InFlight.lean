import LanguageClient.Document.Name

/-! # Requests in flight

The place that the latest request of a kind was about. A response counts only while its
place is that one, and only once.
-/

namespace LanguageClient

variable {π : Type} [BEq π] [DocumentName π]

/-- The place and the time of a request that was sent. -/
structure InFlight (π : Type) where
  name : π
  line : Int
  col : Int
  sentAt : Int
  deriving Repr, DecidableEq

def InFlight.isAbout (request : InFlight π) (name : π) (line col : Int) : Bool :=
  DocumentName.agrees request.name name && request.line == line && request.col == col

/-- The latest completion request that waits for its response. -/
structure CompletionTracker (π : Type) where
  inFlight : Option (InFlight π) := none
  deriving Repr, DecidableEq

namespace CompletionTracker

/-- Note a request; it takes the place of the one before. -/
def start (_ : CompletionTracker π) (name : π) (line col now : Int) : CompletionTracker π :=
  { inFlight := some { name, line, col, sentAt := now } }

/-- Take a response if it is for the latest request. -/
def accept (tracker : CompletionTracker π) (name : π) (line col : Int) :
    Bool × CompletionTracker π :=
  match tracker.inFlight with
  | none => (false, tracker)
  | some request =>
    if request.isAbout name line col then (true, { inFlight := none }) else (false, tracker)

def clear (_ : CompletionTracker π) : CompletionTracker π :=
  { inFlight := none }

end CompletionTracker

end LanguageClient
