import LanguageClient.Fault
import LanguageClient.Json.Basic

/-! # Settings over defaults

A table of settings laid over a table of defaults: what is set stays, what is missing comes
from the defaults, and where both hold an object the two are merged in turn. Before settings
are laid over anything they are copied level by level, as are the defaults that are missing, as far
down as there is room for.

Only the names on the first level need be no text, since those further down stand in JSON
objects.
-/

namespace LanguageClient.Settings

mutual

/-- A value laid over its default. -/
def mergeValue : Json → Json → Json
  | .obj entries, .obj defaults => .obj (mergeEntries entries defaults)
  | value, _ => value

/-- Entries laid over defaults: the defaults are gone through in order. -/
def mergeEntries (entries : Json.Entries) : List (Text × Json) → Json.Entries
  | [] => entries
  | (name, default) :: rest =>
    match Table.get? entries name with
    | none => mergeEntries (Table.put entries name default) rest
    | some value => mergeEntries (Table.put entries name (mergeValue value default)) rest

end

mutual

/-- How many calls are open at once, at most, while a value is copied: two for each level of it,
    the innermost parts included. What is empty inside is still noted as copied. -/
def copyCalls : Json → Nat
  | .arr items => copyCallsOfItems items + 2
  | .obj entries => copyCallsOfEntries entries + 2
  | _ => 2

def copyCallsOfItems : List Json → Nat
  | [] => 1
  | item :: rest => max (copyCalls item) (copyCallsOfItems rest)

def copyCallsOfEntries : List (Text × Json) → Nat
  | [] => 1
  | (_, value) :: rest => max (copyCalls value) (copyCallsOfEntries rest)

end

mutual

/-- How many calls are open at once, at most, while what is missing in a value is copied from its
    default: one for each level down to where it is missing, and those of copying it. -/
def missingCalls : Json → Json → Nat
  | .obj entries, .obj defaults => missingCallsIn entries defaults + 1
  | _, _ => 0

def missingCallsIn (entries : Json.Entries) : List (Text × Json) → Nat
  | [] => 0
  | (name, default) :: rest =>
    match Table.get? entries name with
    | none => max (copyCalls default) (missingCallsIn entries rest)
    | some value => max (missingCalls value default) (missingCallsIn entries rest)

end

variable {κ : Type} [BEq κ] [Limits]

/-- Settings are copied as a whole, unless too many calls would be open for that. -/
def copied (settings : Table κ Json) : Except Fault (Table κ Json) :=
  if settings.foldr (fun entry calls => max (copyCalls entry.2) calls) 1 + 2 ≤ Limits.copying then
    .ok settings
  else .error .copiedTooDeep

/-- Settings laid over one default. A name among `replaced` that is set is taken as it is. -/
def mergeDefault (replaced : List κ) (settings : Table κ Json) (default : κ × Json) :
    Table κ Json :=
  match Table.get? settings default.1 with
  | none => Table.put settings default.1 default.2
  | some value =>
    if replaced.contains default.1 then settings
    else Table.put settings default.1 (mergeValue value default.2)

/-- Whether a default can be laid under settings, into which what is missing is copied. -/
def copiesDefault (replaced : List κ) (settings : Table κ Json) (default : κ × Json) : Bool :=
  match Table.get? settings default.1 with
  | none => copyCalls default.2 ≤ Limits.copying
  | some value => replaced.contains default.1 || missingCalls value default.2 ≤ Limits.copying

/-- Whole settings laid over whole defaults. -/
def merge (settings defaults : Table κ Json) (replaced : List κ) : Table κ Json :=
  defaults.foldl (mergeDefault replaced) settings

/-- Settings that are copies laid over defaults, unless what is missing cannot be copied. -/
def layOver (settings defaults : Table κ Json) (replaced : List κ) :
    Except Fault (Table κ Json) :=
  if defaults.all (copiesDefault replaced settings) then .ok (merge settings defaults replaced)
  else .error .copiedTooDeep

omit [Limits] in
/-- Without names to be taken as they are, whole settings are merged as those in a value
    are. -/
theorem merge_nil (entries defaults : Json.Entries) :
    merge entries defaults [] = mergeEntries entries defaults := by
  induction defaults generalizing entries with
  | nil => simp [merge, mergeEntries]
  | cons default rest ih =>
    obtain ⟨name, value⟩ := default
    rw [mergeEntries]
    unfold merge at ih ⊢
    rw [List.foldl_cons]
    cases h : Table.get? entries name with
    | none => simpa [mergeDefault, h] using ih _
    | some value => simpa [mergeDefault, h] using ih _

end LanguageClient.Settings
