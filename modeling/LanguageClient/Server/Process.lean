import LanguageClient.Decimal.Arithmetic
import LanguageClient.Fault
import LanguageClient.Files.Fault
import LanguageClient.Server.Command

/-! # Server processes

Starting a server as a child process with two pipes, and stopping it: the pipes are closed
and the child is given time to end, then it is told to end, then it is killed. How the
system and the child behave is given as data, and every call made on the child is listed.

The child is waited for in seconds. A limit that is no such number is found out only when the
pipes are closed already, and then nothing more is done about the child. Nor is anything done
about a child whose output has no number that could be a descriptor: only a refusal of the system
is reckoned with where the descriptor is set up.
-/

namespace LanguageClient

/-- One of the two pipes of a child, by its use to the child. -/
inductive ChildPipe where
  | input
  | output
  deriving Repr, DecidableEq

/-- A call on a child. -/
inductive ChildCall where
  | close (pipe : ChildPipe)
  /-- Wait for its end, so many milliseconds or without limit. -/
  | wait (milliseconds : Option Int)
  | terminate
  | kill
  deriving Repr, DecidableEq

/-- What setting up the descriptor of the output of a child comes to. -/
inductive DescriptorSetup where
  | ready
  | refused (fault : FileFault)
  /-- There is nothing that the system could be asked about. -/
  | impossible (fault : Fault)
  deriving Repr, DecidableEq

/-- How a child behaves. -/
structure Child where
  hasInput : Bool := true
  hasOutput : Bool := true
  descriptor : DescriptorSetup := .ready
  /-- Whether closing the input fails. -/
  closeFails : Bool := false
  /-- Whether closing the output fails. -/
  outputCloseFails : Bool := closeFails
  /-- For the coming waits with a limit, whether the child ends in time; once used up it
      does. -/
  ends : List Bool := []
  terminateFails : Bool := false
  killFails : Bool := false
  /-- Whether it was waited for until it ended. -/
  reaped : Bool := false
  deriving Repr, DecidableEq

/-- What running a program comes to. -/
inductive Spawned where
  | refused (reason : Text)
  | child (child : Child)
  deriving Repr, DecidableEq

/-- A call that was made on a child. -/
structure MadeCall where
  call : ChildCall
  /-- Whether it did what it is for, which for a wait is to see the end of the child. -/
  succeeded : Bool
  deriving Repr, DecidableEq

namespace Child

def has (child : Child) : ChildPipe → Bool
  | .input => child.hasInput
  | .output => child.hasOutput

/-- What a call does: whether it succeeds, and the child after it. A wait without limit sees
    the end of the child. A call that fails changes nothing. -/
def answer (child : Child) : ChildCall → Bool × Child
  | .close .input => (!child.closeFails, child)
  | .close .output => (!child.outputCloseFails, child)
  | .wait none => (true, { child with reaped := true })
  | .wait (some _) =>
    match child.ends with
    | [] => (true, { child with reaped := true })
    | ended :: rest => (ended, { child with ends := rest, reaped := child.reaped || ended })
  | .terminate => (!child.terminateFails, child)
  | .kill => (!child.killFails, child)

/-- How long a child that was told to end is waited for. -/
def terminateWait : Int := 500

/-- The seconds in some milliseconds, of which none are counted below zero; `none` if they
    are beyond the range of such numbers. -/
def secondsOf? (milliseconds : Int) : Option Binary64 :=
  (Binary64.ofInt? (max 0 milliseconds)).map (·.dividedBy 1000)

end Child

/-- How long a server that is to stop may take, in milliseconds that can be counted. -/
@[ext]
structure Timeout where
  milliseconds : Int
  counted : milliseconds ≤ 30000
  deriving Repr, DecidableEq

namespace Timeout

instance : Coe Timeout Int := ⟨milliseconds⟩

theorem now_counted : (0 : Int) ≤ 30000 := by
  decide

/-- No time at all. -/
def now : Timeout :=
  ⟨0, now_counted⟩

/-- As long as is usual. -/
def usual : Timeout :=
  ⟨1200, by decide⟩

end Timeout

/-- A child with the calls that were made on it, in order. -/
structure Handled where
  child : Child
  made : List MadeCall := []
  deriving Repr, DecidableEq

namespace Handled

/-- Make a call; says whether it succeeded. -/
def ask (handled : Handled) (call : ChildCall) : Bool × Handled :=
  let (succeeded, child) := handled.child.answer call
  (succeeded, { child, made := handled.made ++ [⟨call, succeeded⟩] })

/-- Make a call, whatever comes of it. -/
def attempt (handled : Handled) (call : ChildCall) : Handled :=
  (handled.ask call).2

/-- Close a pipe if it is there. That it cannot be closed does no harm. -/
def closePipe (handled : Handled) (pipe : ChildPipe) : Handled :=
  if handled.child.has pipe then handled.attempt (.close pipe) else handled

def closePipes (handled : Handled) : Handled :=
  (handled.closePipe .input).closePipe .output

/-- Kill the child and wait for its end, also if it cannot be killed. -/
def killAndReap (handled : Handled) : Handled :=
  (handled.attempt .kill).attempt (.wait none)

/-- Get rid of a child that cannot be used. -/
def discard (handled : Handled) : Handled :=
  handled.closePipes.killAndReap

/-- Tell the child to end, and kill it if that fails or does not help in time. -/
def terminate (handled : Handled) : Handled :=
  let (told, handled) := handled.ask .terminate
  if told then
    let (ended, handled) := handled.ask (.wait (some Child.terminateWait))
    if ended then handled else handled.killAndReap
  else handled.killAndReap

/-- See the child to its end, with a limit in milliseconds for its ending by itself. -/
def endWithin (handled : Handled) (limit : Int) : Handled :=
  let (ended, handled) := handled.ask (.wait (some limit))
  if ended then handled else handled.terminate

end Handled

/-- A server that runs or ran. -/
structure ServerProcess where
  child : Child
  commandLine : Text
  stopped : Bool := false
  deriving Repr, DecidableEq

namespace ServerProcess

/-- Whether the server still runs, as far as is known. -/
def isAlive (process : ServerProcess) : Bool :=
  !process.stopped && !process.child.reaped

/-- Whether there is a descriptor to read from. -/
def isReadable (process : ServerProcess) : Bool :=
  !process.stopped && process.child.hasOutput

/-- What stopping a server came to: whether it was gone through with, and the calls on the
    child. -/
structure Stopped where
  result : Except Fault Unit
  made : List MadeCall
  process : ServerProcess

def Stopped.calls (stopped : Stopped) : List ChildCall :=
  stopped.made.map MadeCall.call

/-- Stop the server, given the timeout in milliseconds or why there is none. Only the first
    time does anything. -/
def stopWith (process : ServerProcess) (timeout : Except Fault Int) : Stopped :=
  if process.stopped then ⟨.ok (), [], process⟩
  else
    let closed := Handled.closePipes { child := process.child }
    match timeout with
    | .error fault =>
      ⟨.error fault, closed.made, { process with child := closed.child, stopped := true }⟩
    | .ok timeout =>
      match Child.secondsOf? timeout with
      | none =>
        ⟨.error .beyondRange, closed.made,
          { process with child := closed.child, stopped := true }⟩
      | some _ =>
        let gone := closed.endWithin (max 0 timeout)
        ⟨.ok (), gone.made, { process with child := gone.child, stopped := true }⟩

def stop (process : ServerProcess) (timeout : Int) : Stopped :=
  process.stopWith (.ok timeout)

/-- Why a start gave no server, with the child that was created for nothing if one was. -/
inductive NoServer where
  | refused (fault : StartFault) (child : Option Child)
  /-- A fault that is not reckoned with ended the start. -/
  | brokenOff (fault : Fault) (child : Child)
  deriving Repr, DecidableEq

/-- What starting a server came to: the server or why there is none, the program and
    arguments that were run, if any were, and the calls on the child. -/
structure Started where
  result : Except NoServer ServerProcess
  ran : Option (List Text)
  made : List MadeCall

def Started.calls (started : Started) : List ChildCall :=
  started.made.map MadeCall.call

/-- Give up on a child that cannot be used. -/
def giveUp (argv : List Text) (fault : StartFault) (child : Child) : Started :=
  let gone := Handled.discard { child }
  ⟨.error (.refused fault (some gone.child)), some argv, gone.made⟩

/-- Take a child on as a server, or get rid of it if a pipe is missing or the system refuses the
    descriptor of its output. -/
def adopt (argv : List Text) (program : Text) (child : Child) : Started :=
  if !child.hasInput || !child.hasOutput then giveUp argv (.withoutPipes program) child
  else match child.descriptor with
    | .ready => ⟨.ok { child, commandLine := joinCommand argv }, some argv, []⟩
    | .refused fault => giveUp argv (.unusablePipes program fault.message) child
    | .impossible fault => ⟨.error (.brokenOff fault child), some argv, []⟩

/-- Start a server. `run` tells what running a program comes to. -/
def start (run : List Text → Spawned) (command : Text) : Started :=
  match splitCommand command with
  | [] => ⟨.error (.refused .emptyCommand none), none, []⟩
  | program :: arguments =>
    let argv := program :: arguments
    match run argv with
    | .refused reason => ⟨.error (.refused (.notStarted program reason) none), some argv, []⟩
    | .child child => adopt argv program child

end ServerProcess

end LanguageClient
