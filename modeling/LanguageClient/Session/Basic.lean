import LanguageClient.Document.Store
import LanguageClient.Json.Display
import LanguageClient.Message.Capabilities
import LanguageClient.Message.Envelope
import LanguageClient.Message.Requests
import LanguageClient.Schedule.Hover
import LanguageClient.Schedule.TokenRefresh
import LanguageClient.Session.Event
import LanguageClient.Settings.Timings
import LanguageClient.Transport

/-! # Sessions

A session is the client's side of the conversation with one server at a time. Its state is
one value, and every operation gives the next state. What the session does to the outside is
written to its journal; how the outside behaves towards it is part of the state as well: the
clock, what running a program comes to, and the far end of the pipes.

Every write that fails ends the conversation. A message that cannot be written is withheld, which is
a fault of the call that it was for, but the conversation goes on.
-/

namespace LanguageClient

/-- What there is around a session and stays the same: how far calls can go, and what the system
    knows of paths. -/
class Host extends Limits, Places

namespace Host.Bare

open Limits.Usual Places.Bare in
/-- There is the usual room, and nothing at any path. -/
scoped instance bare : Host where

end Host.Bare

/-- The far end of the pipes to a server: what it has written and how it takes writes. -/
structure Peer where
  incoming : List ReadOutcome := []
  writes : List WriteOutcome := []
  /-- For the coming flushes, whether each fails; once used up none does. -/
  flushes : List Bool := []
  deriving Repr, DecidableEq

namespace Peer

/-- Whether the next flush fails. -/
def flushFails (peer : Peer) : Bool :=
  peer.flushes.headD false

/-- The far end behind a message that was to be sent. -/
def behind (peer : Peer) (sent : Transport.Sent) : Peer :=
  { peer with
    writes := sent.rest
    flushes := if sent.flushed then peer.flushes.tail else peer.flushes }

end Peer

/-- A server that runs, with the pipes to it. -/
structure Connection where
  server : Nat
  process : ServerProcess
  transport : Transport := { descriptor := 0 }
  peer : Peer := {}
  deriving Repr, DecidableEq

/-- What running a program with its arguments comes to. -/
abbrev Launcher := List Text → Spawned

/-- The state of a session whose host names documents by values of type `π`. -/
structure Session (π : Type) where
  /-- What the clock shows. -/
  now : Moment := .whole 0
  launcher : Launcher := fun _ => .child {}
  processId : Int := 0
  /-- The folder that the client works in, an absolute path. -/
  folder : Text
  connection : Option Connection := none
  /-- How the next server takes writes. -/
  nextPeer : Peer := {}
  /-- How many servers have been started. -/
  servers : Nat := 0
  requests : PendingRequests (RequestContext π) := {}
  handshake : Handshake := {}
  documents : DocumentStore := {}
  refresh : TokenRefresh π := {}
  hover : HoverSchedule π (HoverTarget π) := {}
  completion : CompletionTracker π := {}
  logTraffic : Bool := false
  shutdownTimeout : Timeout := .usual
  /-- The command of the latest server, with single spaces. -/
  commandLine : Text := ""
  /-- What has happened, latest first. -/
  journal : List (JournalEntry π) := []

namespace Session

variable {π : Type}

def isRunning (session : Session π) : Bool :=
  session.connection.isSome

/-- Whether a server runs and has answered the handshake. -/
def isReady (session : Session π) : Bool :=
  session.isRunning && session.handshake.received

def capabilities (session : Session π) : ServerCapabilities :=
  session.handshake.capabilities

/-- The descriptor to wait on; below zero when no server runs. -/
def descriptor (session : Session π) : Int :=
  match session.connection with
  | none => -1
  | some connection => connection.transport.descriptor

def record (session : Session π) (entry : JournalEntry π) : Session π :=
  { session with journal := entry :: session.journal }

def emit (session : Session π) (event : Event π) : Session π :=
  session.record (.event event)

def configure (session : Session π) (settings : SessionSettings) : Session π :=
  { session with
    refresh := { session.refresh with delay := settings.tokenDelay }
    hover := { session.hover with
      delay := settings.hoverDelay, timeout := settings.hoverTimeout }
    shutdownTimeout := settings.shutdownTimeout
    logTraffic := settings.logTraffic }

/-- Take on settings given as a loose value. Settings that are refused change nothing. -/
def updateSettings (session : Session π) (settings : Json) : Except Fault Unit × Session π :=
  match SessionSettings.ofJson settings with
  | .ok settings => (.ok (), session.configure settings)
  | .error fault => (.error fault, session)

/-- Forget everything that belongs to the conversation with one server. -/
def reset (session : Session π) : Session π :=
  { session with
    requests := {}
    handshake := {}
    documents := {}
    refresh := session.refresh.clear
    hover := session.hover.clear.2
    completion := session.completion.clear }

/-- Let the connection go and stop its server. The timeout is one that can be counted, so nothing
    keeps the stop from being gone through with. -/
def disconnect (session : Session π) (timeout : Timeout) : Session π :=
  match session.connection with
  | none => session
  | some connection =>
    { session with connection := none }.record
      (.stoppedServer connection.server timeout (connection.process.stop timeout).made)

/-- Give up the server. -/
def disable (session : Session π) (reason : Text) : Session π :=
  (((session.disconnect .now).reset).emit (.status ("LSP disabled: " ++ reason))).emit .stopped

variable [Host]

/-- Why the host cannot be told of a message, if it wants to be told of messages and cannot. -/
def unloggable? (session : Session π) (message : Json) : Option Fault :=
  if session.logTraffic then message.unshowable? else none

/-- Tell the host of a message, if it wants to be told of messages and can. -/
def logMessage (session : Session π) (direction : Direction) (message : Json) : Session π :=
  if session.logTraffic && message.unshowable?.isNone then
    session.emit (.traffic direction message.shown)
  else session

/-- Tell the host of a message and hand it to the pipe of a connection. Says whether all of it was
    taken, or why it was withheld. -/
def write (session : Session π) (connection : Connection) (message : Json) :
    Except Fault Bool × Connection × Session π :=
  match session.unloggable? message with
  | some fault =>
    (.error fault, connection, session.record (.wrote connection.server message (.error fault)))
  | none =>
    let sent :=
      connection.transport.send message connection.peer.writes connection.peer.flushFails
    (sent.sent,
      { connection with transport := sent.transport, peer := connection.peer.behind sent },
      (session.logMessage .outgoing message).record
        (.wrote connection.server message sent.outcome))

/-- Send a message. If that fails the server is given up, unless the message was withheld. -/
def send (session : Session π) (message : Json) : Except Fault Bool × Session π :=
  match session.connection with
  | none => (.ok false, session)
  | some connection =>
    let (sent, connection, session) := session.write connection message
    let session := { session with connection := some connection }
    match sent with
    | .ok false => (.ok false, session.disable "write to language server failed")
    | sent => (sent, session)

def notify (session : Session π) (method : Text) (params : Json) :
    Except Fault Bool × Session π :=
  session.send (Message.notification method params)

/-- Send a request and let it wait for its response. Gives its number, 0 if it was not
    sent. -/
def request (session : Session π) (method : Text) (params : Json)
    (context : RequestContext π) : Except Fault Nat × Session π :=
  let (number, requests) := session.requests.register context
  let (sent, session) :=
    { session with requests }.send (Message.request number method params)
  (sent.map fun sent => if sent then number else 0, session)

end Session

end LanguageClient
