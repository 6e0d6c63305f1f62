import LanguageClient.Session.Basic

/-! # Starting and stopping

A session that starts a server opens the handshake at once. One that stops says so to the
server as far as the pipe lets it, without waiting for an answer.
-/

namespace LanguageClient.Session

variable {π : Type}

/-- The server that a command starts, or why there is none. -/
def launch (session : Session π) (command : Text) :
    Except ServerProcess.NoServer ServerProcess :=
  (ServerProcess.start session.launcher command).result

/-- The connection to the next server to be started, which has written nothing yet. -/
def freshConnection (session : Session π) (process : ServerProcess) : Connection :=
  { server := session.servers, process, peer := { session.nextPeer with incoming := [] } }

/-- The root folder of a start: the one given, or the one that the client works in if it is
    blank. -/
def rootFolder (session : Session π) (root : Text) : Text :=
  let text := Text.strip root
  if text.isEmpty then session.folder else text

variable [Host]

/-- Start a server unless one runs. Says whether one runs that was told of the handshake. -/
def start (session : Session π) (command root : Text) : Except Fault Bool × Session π :=
  if session.isRunning then (.ok true, session)
  else
    let session := session.reset.record (.asked command)
    match session.launch command with
    | .error (.refused fault _) =>
      (.ok false, session.emit (.status ("LSP start failed: " ++ fault.message)))
    | .error (.brokenOff fault _) => (.error fault, session)
    | .ok process =>
      let session := { session with
        connection := some (session.freshConnection process)
        servers := session.servers + 1
        commandLine := process.commandLine }.emit .started
      let params := handshakeParams session.processId (Uri.ofPath (session.rootFolder root))
      let (number, session) := session.request "initialize" params .handshake
      (number.map fun number => number > 0, session)

/-- Say goodbye: a request to shut down, and if that could be sent, the order to exit. Either may be
    withheld. -/
def sayGoodbye (session : Session π) (connection : Connection) :
    Except Fault Unit × Connection × Session π :=
  let (number, requests) := session.requests.register .shutdown
  match { session with requests }.write connection (Message.request number "shutdown" .null) with
  | (.error fault, connection, session) => (.error fault, connection, session)
  | (.ok false, connection, session) => (.ok (), connection, session)
  | (.ok true, connection, session) =>
    let (sent, connection, session) :=
      session.write connection (Message.notification "exit" .null)
    (sent.map fun _ => (), connection, session)

def stop (session : Session π) : Except Fault Unit × Session π :=
  match session.connection with
  | none => (.ok (), session)
  | some connection =>
    let (said, connection, session) := session.sayGoodbye connection
    let session := { session with connection := some connection }
    match said with
    | .error fault => (.error fault, session)
    | .ok _ => (.ok (), ((session.disconnect session.shutdownTimeout).reset).emit .stopped)

end LanguageClient.Session
