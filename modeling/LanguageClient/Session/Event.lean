import LanguageClient.Completion
import LanguageClient.Diagnostics
import LanguageClient.SemanticTokens
import LanguageClient.Server.Process

/-! # What a session lets be known

Events tell the host what happened. The journal of a session lists them together with what
the session did to the outside: the servers it asked for and stopped, and what it wrote to
them.
-/

namespace LanguageClient

/-- Which way a message went. -/
inductive Direction where
  | incoming
  | outgoing
  deriving Repr, DecidableEq

/-- The name of a direction in the traffic log. -/
def Direction.name : Direction → Text
  | .incoming => "in"
  | .outgoing => "out"

/-- Something that the host is told. What it asked for about a document comes under the name
    that it used, all else under the path of the document. -/
inductive Event (π : Type) where
  | started
  | stopped
  | ready
  | diagnostics (path : Text) (items : List Diagnostic)
  | semanticTokens (path : Text) (tokens : List SemanticToken)
  /-- The text of a hover, or that there is none. -/
  | hover (name : π) (line col : Int) (text : Option Text)
  | hoverCleared
  | completion (name : π) (line col : Int) (list : CompletionList)
  | status (text : Text)
  | traffic (direction : Direction) (text : Text)
  deriving Repr, DecidableEq

/-- An entry of the journal. Servers are numbered from 0 in the order of their starts. -/
inductive JournalEntry (π : Type) where
  | event (event : Event π)
  /-- A start was asked for, with the command as it was given. -/
  | asked (command : Text)
  /-- A message was to be written. The pipe took some bytes of its frame, all unless writing
      failed; or the message was withheld. -/
  | wrote (server : Nat) (message : Json) (taken : Except Fault (List UInt8))
  /-- A server was stopped, with the calls that this made on its child. -/
  | stoppedServer (server : Nat) (timeout : Timeout) (made : List MadeCall)
  deriving Repr

end LanguageClient
