import LanguageClient.Fault
import LanguageClient.Json.Display
import LanguageClient.Table

/-! # Requests that wait for a response

Requests are numbered from 1 in the order of sending. Each waits under its number, with what
it was about, until a response takes it out, which happens at most once.
-/

namespace LanguageClient

/-- What a request asks for. -/
inductive RequestKind where
  | handshake
  | shutdown
  | semanticTokens
  | hover
  | completion
  deriving Repr, DecidableEq

def RequestKind.name : RequestKind → Text
  | .handshake => "initialize"
  | .shutdown => "shutdown"
  | .semanticTokens => "semantic_tokens"
  | .hover => "hover"
  | .completion => "completion"

def RequestKind.all : List RequestKind :=
  [.handshake, .shutdown, .semanticTokens, .hover, .completion]

def RequestKind.ofJson (value : Json) : Except Fault RequestKind :=
  match RequestKind.all.find? (fun kind => value.text? == some kind.name) with
  | some kind => .ok kind
  | none => .error (.unknownRequestKind value.shown)

/-- What a request was about; the response does not repeat it. A place is in the document that
    the host named. -/
inductive RequestContext (π : Type) where
  | handshake
  | shutdown
  | semanticTokens (uri : Text)
  | hover (name : π) (line col : Int)
  | completion (name : π) (line col : Int)
  deriving Repr, DecidableEq

/-- The requests that wait, under their numbers. -/
structure PendingRequests (γ : Type) where
  next : Nat := 1
  waiting : Table Nat γ := []
  deriving Repr, DecidableEq

namespace PendingRequests

variable {γ : Type}

def size (pending : PendingRequests γ) : Nat :=
  pending.waiting.length

/-- Number a request and let it wait. -/
def register (pending : PendingRequests γ) (context : γ) : Nat × PendingRequests γ :=
  (pending.next,
    { next := pending.next + 1, waiting := Table.put pending.waiting pending.next context })

/-- The number that an identifier in a response stands for. Only integers count: neither
    text nor truth values nor numbers with a fraction. -/
def numberOf? : Json → Option Nat
  | .int (.ofNat number) => some number
  | _ => none

/-- Take out the request that a response answers. -/
def resolve (pending : PendingRequests γ) (id : Json) : Option γ × PendingRequests γ :=
  match numberOf? id with
  | none => (none, pending)
  | some number =>
    match Table.get? pending.waiting number with
    | none => (none, pending)
    | some context =>
      (some context, { pending with waiting := Table.remove pending.waiting number })

/-- A response takes out the request that waits under its number. -/
theorem resolve_eq_some {pending after : PendingRequests γ} {id : Json} {context : γ}
    (resolved : pending.resolve id = (some context, after)) :
    ∃ number, numberOf? id = some number ∧ Table.get? pending.waiting number = some context ∧
      after = { pending with waiting := Table.remove pending.waiting number } := by
  unfold resolve at resolved
  split at resolved
  · simp at resolved
  · next number read =>
    split at resolved
    · simp at resolved
    · next found waits =>
      obtain ⟨same, rest⟩ := Prod.mk.inj resolved
      exact ⟨number, read, waits.trans same, rest.symm⟩

theorem resolve_of_waiting {pending : PendingRequests γ} {id : Json} {number : Nat} {context : γ}
    (isNumber : numberOf? id = some number)
    (waits : Table.get? pending.waiting number = some context) :
    pending.resolve id =
      (some context, { pending with waiting := Table.remove pending.waiting number }) := by
  unfold resolve
  rw [isNumber]
  simp only [waits]

end PendingRequests

end LanguageClient
