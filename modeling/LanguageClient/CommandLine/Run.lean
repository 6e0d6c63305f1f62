import LanguageClient.CommandLine.Arguments
import LanguageClient.Settings.Store
import LanguageClient.Settings.Tables
import LanguageClient.Workspace

/-! # The command line

Opens one file on the server of its language and prints the diagnostics that come back.
-/

namespace LanguageClient.CommandLine

def usage : Text := "usage: python -m texteditor <file> [--wait-ms N] [--log-traffic]\n"

/-- What a run of the command line depends on. -/
structure Surroundings where
  source : FileSource
  /-- What running a program for a file comes to. -/
  launcherFor : Text → Launcher
  whereabouts : Settings.Whereabouts
  /-- The home folders of other users by their names. -/
  homes : Table Text Text := []

/-- What a run of the command line comes to. -/
structure Outcome where
  code : Int
  output : Text := ""
  errors : Text := ""
  deriving Repr, DecidableEq

/-- The path with a home folder in place of a tilde in front: the own one, or that of the
    user whose name stands behind the tilde. -/
def expandHome (home : Text) (homes : Table Text Text) (path : Text) :
    Except Fault Text :=
  match Path.root path, Path.names path with
  | "", first :: rest =>
    match first.toList with
    | '~' :: name =>
      if name.contains '\x00' then .error .nullInPath
      else match if name.isEmpty then some home else homes.get? (Text.ofList name) with
      | some home => .ok (Path.join home (Text.intercalate "/" rest))
      | none => .error .noHome
    | _ => .ok (Path.tidy path)
  | _, _ => .ok (Path.tidy path)

/-- The lines that tell of the status of the session, in order. -/
def statusLines (journal : List (JournalEntry Text)) : List Text :=
  journal.reverse.filterMap fun entry =>
    match entry with
    | .event (.status text) => some ("[status] " ++ text ++ "\n")
    | _ => none

def remarkLine (item : Diagnostic) : Text :=
  "  " ++ toString (item.line + 1) ++ ":" ++ toString (item.col + 1) ++ " " ++
    item.severity.name ++ ": " ++ item.message ++ "\n"

/-- The lines for the remarks about a file. -/
def remarkLines (path : Text) (items : List Diagnostic) : List Text :=
  (path ++ ": " ++ toString items.length ++ " diagnostic(s)\n") :: items.map remarkLine

def reportLines (journal : List (JournalEntry Text)) : List Text :=
  journal.reverse.flatMap fun entry =>
    match entry with
    | .event (.diagnostics path items) => remarkLines path items
    | _ => []

def openWorkspace (settings : Json) (logTraffic : Bool) (launcher : Launcher)
    (folder root : Text) : Except Fault (Workspace Text) := do
  let table ← Settings.entriesIn (settings.field "lsp")
  let sessionSettings ← SessionSettings.ofJson (.obj table)
  let session := { ({ launcher, folder } : Session Text).configure sessionSettings with logTraffic }
  pure { session, languages := Languages.ofSettings settings, root }

variable [Host]

def showFile (surroundings : Surroundings) (arguments : Arguments) (path text : Text) :
    Except Fault Outcome := do
  let places := Settings.candidates surroundings.whereabouts
  let settings ← Settings.loadEditor surroundings.source places
  let workspace ← openWorkspace (.obj settings) arguments.logTraffic
    (surroundings.launcherFor path) surroundings.whereabouts.folder (Path.folder path)
  let (result, workspace) := workspace.attach "cli" path text
  let attached ← result
  let journal := workspace.session.journal
  let status := Text.join (statusLines journal)
  if attached then
    pure { code := 0, output := Text.join (reportLines journal), errors := status }
  else
    pure { code := 1, errors := status ++ "no language server available for " ++ path ++ "\n" }

/-- Do what arguments ask for, if they are of use. -/
def runWith (surroundings : Surroundings) : Option Arguments → Except Fault Outcome
  | none => .ok { code := 2, errors := usage }
  | some arguments => do
    let home := surroundings.whereabouts.home
    let path ← expandHome
      (if home.isEmpty then surroundings.whereabouts.homeFolder else home) surroundings.homes
      arguments.file
    match Path.obstacle? path with
    | some fault => .error fault
    | none =>
      match surroundings.source.readText path with
      | .error fault =>
        .ok { code := 1, errors :=
          "cannot read " ++ path ++ ": " ++ fault.messageFor path ++ "\n" }
      | .ok text => showFile surroundings arguments path (Text.ofChars text)

def run (surroundings : Surroundings) (argv : List Text) : Except Fault Outcome :=
  runWith surroundings (Arguments.parse argv)

end LanguageClient.CommandLine
