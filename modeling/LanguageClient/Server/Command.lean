import LanguageClient.Text.Basic

/-! # Server commands

A server is started by a command: a program and its arguments with spaces or tabs between
them. There is no quoting.
-/

namespace LanguageClient

/-- The parts of a text between the characters that `isGap` picks, leaving out empty ones.
    The characters of the part that is being read come last first. -/
def partsBetween (isGap : CodePoint → Bool) : List CodePoint → List CodePoint → List Text
  | current, [] => if current.isEmpty then [] else [Text.ofList current.reverse]
  | current, c :: rest =>
    if isGap c then
      if current.isEmpty then partsBetween isGap [] rest
      else Text.ofList current.reverse :: partsBetween isGap [] rest
    else partsBetween isGap (c :: current) rest

/-- The program and the arguments of a command. -/
def splitCommand (command : Text) : List Text :=
  partsBetween (fun c => c == ' ' || c == '\t') [] command.toList

def joinCommand (argv : List Text) : Text :=
  Text.intercalate " " argv

/-- Why a server was not started. -/
inductive StartFault where
  | emptyCommand
  /-- The program could not be run. -/
  | notStarted (program reason : Text)
  | withoutPipes (program : Text)
  | unusablePipes (program reason : Text)
  deriving Repr, DecidableEq

def StartFault.message : StartFault → Text
  | .emptyCommand => "empty language server command"
  | .notStarted program reason => "could not start '" ++ program ++ "': " ++ reason
  | .withoutPipes program => "'" ++ program ++ "' started without pipes"
  | .unusablePipes program reason =>
    "could not configure pipes for '" ++ program ++ "': " ++ reason

end LanguageClient
