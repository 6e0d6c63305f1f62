import LanguageClient.CommandLine.Run
import LanguageClient.Loose.Settings

/-! # Arguments that are loose values

A caller may hand over arguments that are no text. The time to wait may be any value that
stands for an integer, and an option or a file must be text. The arguments are read in order,
so the first one that is of no use decides.
-/

namespace LanguageClient.Loose

/-- The time to wait that a value gives. Text without an integer gives none; what cannot even
    be taken for text is refused. -/
def waitOf (value : Json) : Except Fault (Option Int) :=
  match value.toInteger with
  | .ok milliseconds => .ok (some milliseconds)
  | .error .infiniteInteger => .error .infiniteInteger
  | .error (.notAnInteger kind) => .error (.notAnInteger kind)
  | .error _ => .ok none

/-- Read arguments on from what was found so far. -/
def parseFrom (found : Arguments) : List Json → Except Fault (Option Arguments)
  | [] => .ok found.complete?
  | .str argument :: rest =>
    if argument = Arguments.waitOption then
      match rest with
      | [] => .ok none
      | value :: rest =>
        match waitOf value with
        | .error fault => .error fault
        | .ok none => .ok none
        | .ok (some wait) => parseFrom (found.setWait wait) rest
    else
      match found.add? argument with
      | none => .ok none
      | some found => parseFrom found rest
  | other :: _ => .error (.withoutPart other.kind "startswith")

/-- The arguments in a list. An object has a length but no first argument. -/
def argumentsIn : Json → Except Fault (List Json)
  | .arr items => .ok items
  | .str text => itemsOf (.str text)
  | .obj entries => if entries.isEmpty then .ok [] else .error (.missingEntry 0)
  | other => .error (.withoutLength other.kind)

def parseArguments (argv : Json) : Except Fault (Option Arguments) := do
  let arguments ← argumentsIn argv
  parseFrom {} arguments

/-- The arguments of a run. Where none are handed over, there are none. -/
def argumentsOfRun : Json → Except Fault (List Json)
  | .null => .ok []
  | argv => itemsOf argv

def runCommandLine [Host] (surroundings : CommandLine.Surroundings) (argv : Json) :
    Except Fault CommandLine.Outcome := do
  let arguments ← argumentsOfRun argv
  let found ← parseFrom {} arguments
  CommandLine.runWith surroundings found

end LanguageClient.Loose
