import LanguageClient.CommandLine.Run

/-! # The program

Reads the files that a run needs and prints what the run comes to. The program starts no
other programs: every start of a server is refused.
-/

namespace LanguageClient

def faultOf : IO.Error → FileFault
  | .permissionDenied .. => .denied
  | .inappropriateType .. => .isAFolder
  | .invalidArgument .. => .notAFolder
  | _ => .notFound

/-- Text as a terminal takes it, with a mark in place of what is no character. -/
def legible (text : Text) : String :=
  String.ofList (text.toList.map fun point => point.char?.getD Text.faultMark)

/-- What there is to read at a path. -/
def readAt (path : Text) : IO (Except FileFault (List UInt8)) :=
  try
    return .ok (← IO.FS.readBinFile (legible path)).toList
  catch fault =>
    return .error (faultOf fault)

def readAllAt : List Text → IO (Table Text (Except FileFault (List UInt8)))
  | [] => return []
  | path :: rest => do
    let found ← readAt path
    return (path, found) :: (← readAllAt rest)

def wantedPaths (whereabouts : Settings.Whereabouts) (argv : List Text) : List Text :=
  let own :=
    match Arguments.parse argv with
    | none => []
    | some arguments =>
      match CommandLine.expandHome whereabouts.homeFolder [] arguments.file with
      | .ok path => [path]
      | .error _ => []
  own ++ Settings.candidates whereabouts

end LanguageClient

open LanguageClient Host.Bare

def main (argv : List String) : IO UInt32 := do
  let argv := argv.map Text.plain
  let home := (← IO.getEnv "HOME").getD ""
  let configHome := (← IO.getEnv "XDG_CONFIG_HOME").getD ""
  let whereabouts : Settings.Whereabouts :=
    { folder := (← IO.currentDir).toString, configHome, home
      homeFolder := if home.isEmpty then "/" else home }
  let files ← readAllAt (wantedPaths whereabouts argv)
  let surroundings : CommandLine.Surroundings :=
    { source := fun path => (Table.get? files path).getD (.error .notFound)
      launcherFor := fun _ argv => .refused (FileFault.denied.messageFor (argv.headD ""))
      whereabouts }
  match CommandLine.run surroundings argv with
  | .error fault =>
    (← IO.getStderr).putStr (legible (fault.message ++ "\n"))
    return 1
  | .ok outcome =>
    (← IO.getStdout).putStr (legible outcome.output)
    (← IO.getStderr).putStr (legible outcome.errors)
    return outcome.code.toNat.toUInt32
