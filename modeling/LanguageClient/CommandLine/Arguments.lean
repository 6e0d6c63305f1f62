import LanguageClient.Text.Integer

/-! # Arguments

The command line takes one file and two options, in any order.
-/

namespace LanguageClient

/-- What the command line asks for. -/
structure Arguments where
  file : Text := ""
  /-- How long to wait for diagnostics, in milliseconds. -/
  waitFor : Int := 3000
  logTraffic : Bool := false
  deriving Repr, DecidableEq

namespace Arguments

/-- The option that a time to wait follows. -/
def waitOption : Text := "--wait-ms"

/-- Add the argument that is no time to wait: the other option, or the file. There may be one
    file only, and its name begins with no hyphen. -/
def add? (found : Arguments) (argument : Text) : Option Arguments :=
  if argument = "--log-traffic" then some { found with logTraffic := true }
  else if argument.startsWith "-" || !found.file.isEmpty then none
  else some { found with file := argument }

/-- Set the time to wait, none below zero. -/
def setWait (found : Arguments) (milliseconds : Int) : Arguments :=
  { found with waitFor := max 0 milliseconds }

/-- What was found, if there is a file. -/
def complete? (found : Arguments) : Option Arguments :=
  if found.file.isEmpty then none else some found

/-- Read arguments on from what was found so far. A later option overrides an earlier one. -/
def parseFrom (found : Arguments) : List Text → Option Arguments
  | [] => found.complete?
  | argument :: rest =>
    if argument = waitOption then
      match rest with
      | [] => none
      | value :: rest =>
        match Text.readInteger value with
        | .ok wait => parseFrom (found.setWait wait) rest
        | .error _ => none
    else
      match found.add? argument with
      | none => none
      | some found => parseFrom found rest

def parse (arguments : List Text) : Option Arguments :=
  parseFrom {} arguments

end Arguments

end LanguageClient
