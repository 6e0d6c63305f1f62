import LanguageClient.Json.Integer

/-! # Diagnostics

The remarks that a server publishes about a document. What is missing or of the wrong kind
in one of them gets a default, so that an odd remark is kept rather than lost.
-/

namespace LanguageClient

/-- How grave a remark is. -/
inductive Severity where
  | error
  | warning
  | info
  | hint
  deriving Repr, DecidableEq

/-- The name of a severity in lower case. -/
def Severity.name : Severity → Text
  | .error => "error"
  | .warning => "warning"
  | .info => "info"
  | .hint => "hint"

/-- A remark about a stretch of a document. -/
structure Diagnostic where
  line : Int
  col : Int
  endLine : Int
  endCol : Int
  severity : Severity
  message : Text
  source : Text
  deriving Repr, DecidableEq

namespace Diagnostic

/-- A coordinate: never below zero, zero when it is missing; `none` when it is no integer. -/
def coordinate (position : Json) (name : Text) : Except Fault (Option Int) :=
  match (((position.get? name).getD (.int 0)).toInteger) with
  | .ok value => .ok (some (max 0 value))
  | .error .infiniteInteger => .error .infiniteInteger
  | .error _ => .ok none

/-- A position as line and column. If either is no integer both are zero. -/
def position (value : Json) : Except Fault (Int × Int) :=
  if !value.isObj then .ok (0, 0)
  else do
    match ← coordinate value "line" with
    | none => pure (0, 0)
    | some line =>
      match ← coordinate value "character" with
      | none => pure (0, 0)
      | some col => pure (line, col)

/-- The severity of a number; numbers that name none count as hints, and what is no number
    as an error. -/
def severityOf : Json → Except Fault Severity
  | .null => .ok .error
  | value => do
    match ← value.toIntegerOr 1 with
    | 1 => pure .error
    | 2 => pure .warning
    | 3 => pure .info
    | _ => pure .hint

def ofJson (item : Json) : Except Fault Diagnostic := do
  let range := item.field "range"
  let (line, col) ← position (range.field "start")
  let (endLine, endCol) ← position (range.field "end")
  let severity ← severityOf (item.field "severity")
  pure {
    line, col, endLine, endCol, severity
    message := (item.field "message").textOrEmpty
    source := (item.field "source").textOrEmpty }

/-- The remarks in a list of items, leaving out what is no object. -/
def listOf : List Json → Except Fault (List Diagnostic)
  | [] => .ok []
  | item :: rest =>
    if item.isObj then do
      let first ← ofJson item
      let others ← listOf rest
      pure (first :: others)
    else listOf rest

/-- The remarks in an array; anything else holds none. -/
def ofArray : Json → Except Fault (List Diagnostic)
  | .arr items => listOf items
  | _ => .ok []

end Diagnostic

end LanguageClient
