import LanguageClient.Session.Editing
import LanguageClient.Session.Incoming

/-! # The turn of the loop

The host calls a session again and again: to let time take effect, and to take what the
server has written.
-/

namespace LanguageClient.Session

variable {π : Type} [BEq π] [DocumentName π] [Host]

def refreshTokens (session : Session π) : List π → Except Fault Unit × Session π
  | [] => (.ok (), session)
  | name :: rest =>
    match session.requestSemanticTokens name with
    | (.error fault, session) => (.error fault, session)
    | (.ok _, session) => session.refreshTokens rest

def refreshDue (session : Session π) (now : Moment) : Except Fault Unit × Session π :=
  match session.refresh.due now with
  | .error fault => (.error fault, session)
  | .ok (names, refresh) => { session with refresh }.refreshTokens names

/-- Ask for the hover that is due, if its document is open. -/
def askDueHover (session : Session π) (now : Moment) : Except Fault Unit × Session π :=
  match session.hover.due now with
  | .error fault => (.error fault, session)
  | .ok (none, _) => (.ok (), session)
  | .ok (some target, hover) =>
    let session := { session with hover }
    if session.documents.isOpen (session.documents.pathOf target.name) then
      let (result, session) := session.requestHover target.name target.line target.col
      (result.map fun _ => (), session)
    else (.ok (), session)

/-- Give up a hover that was not answered in time. -/
def expireHover (session : Session π) (now : Moment) : Except Fault (Session π) := do
  match ← session.hover.expired now with
  | (false, _) => pure session
  | (true, hover) =>
    pure (({ session with hover := hover.display false }.emit
      (.status "Hover: no response")).emit .hoverCleared)

/-- Let the time that has passed take effect. -/
def tick (session : Session π) : Except Fault Unit × Session π :=
  if !session.isRunning then (.ok (), session)
  else
    let now := session.now
    match session.refreshDue now with
    | (.error fault, session) => (.error fault, session)
    | (.ok _, session) =>
      match session.askDueHover now with
      | (.error fault, session) => (.error fault, session)
      | (.ok _, session) =>
        match session.expireHover now with
        | .error fault => (.error fault, session)
        | .ok session => (.ok (), session)

def isConnectedTo (session : Session π) (server : Nat) : Bool :=
  match session.connection with
  | none => false
  | some connection => connection.server == server

/-- Take messages of a server in order while it is connected, counting on from `taken`. A
    fault ends the call; the messages behind it are lost. -/
def takeMessages (server taken : Nat) (session : Session π) :
    List Json → Except Fault Nat × Session π
  | [] => (.ok taken, session)
  | message :: rest =>
    if session.isConnectedTo server then
      let session := session.logMessage .incoming message
      match session.takeMessage message with
      | (.error fault, session) => (.error fault, session)
      | (.ok _, session) => takeMessages server (taken + 1) session rest
    else (.ok taken, session)

/-- Take what the server has written. Gives how many messages were taken. Once the server has
    closed its end, it is given up behind its last message. -/
def processAvailable (session : Session π) : Except Fault Nat × Session π :=
  match session.connection with
  | none => (.ok 0, session)
  | some connection =>
    let received := connection.transport.poll connection.peer.incoming
    let session := { session with connection := some { connection with
      transport := received.transport
      peer := { connection.peer with incoming := received.rest } } }
    match received.messages with
    | .error fault => (.error fault, session)
    | .ok messages =>
      match takeMessages connection.server 0 session messages with
      | (.error fault, session) => (.error fault, session)
      | (.ok taken, session) =>
        if session.isConnectedTo connection.server && received.transport.closed then
          (.ok taken, session.disable "language server exited")
        else (.ok taken, session)

/-- A descriptor of the host that is waited on together with the server's. -/
inductive HostDescriptor where
  | readable
  | idle
  /-- A number below zero. -/
  | invalid
  /-- The server's own descriptor. -/
  | server
  deriving Repr, DecidableEq

/-- Whether a descriptor is waited on for the host. -/
def HostDescriptor.isWaitedOn : HostDescriptor → Bool
  | .readable => true
  | .idle => true
  | .invalid => false
  | .server => false

/-- The longest wait in milliseconds. -/
def maxWait : Int := 2147483647

/-- The longest wait in milliseconds of which the nanoseconds are counted. -/
def maxCountedWait : Int := 9223372036854

/-- Check that so many milliseconds can be waited for. -/
def checkWait (milliseconds : Int) : Except Fault Unit :=
  if (Binary64.ofInt? (max 0 milliseconds)).isNone then .error .beyondRange
  else if maxCountedWait < milliseconds then .error .waitUncounted
  else if maxWait < milliseconds then .error .waitTooLong
  else .ok ()

/-- The places of the descriptors of the host that can be read, counted from `place` on. -/
def readableFrom (place : Nat) : List HostDescriptor → List Nat
  | [] => []
  | .readable :: rest => place :: readableFrom (place + 1) rest
  | _ :: rest => readableFrom (place + 1) rest

/-- Whether the server has written something, or has closed its end. -/
def hasIncoming (session : Session π) : Bool :=
  match session.connection with
  | none => false
  | some connection => !connection.peer.incoming.isEmpty || connection.transport.closed

/-- See what can be read, and take what the server has written. Gives the places of the
    host's descriptors that can be read. -/
def takeReady (session : Session π) (extra : List HostDescriptor) :
    Except Fault (List Nat) × Session π :=
  let ready := readableFrom 0 extra
  if session.hasIncoming then
    match session.processAvailable with
    | (.ok _, session) => (.ok ready, session)
    | (.error fault, session) => (.error fault, session)
  else (.ok ready, session)

/-- One turn: let time take effect, then wait and take what is ready. How long to wait, in
    milliseconds, is asked only if there is something to wait for. -/
def runOnce (session : Session π) (wait : Except Fault Int) (extra : List HostDescriptor) :
    Except Fault (List Nat) × Session π :=
  match session.tick with
  | (.error fault, session) => (.error fault, session)
  | (.ok _, session) =>
    if !session.isRunning && !extra.any HostDescriptor.isWaitedOn then (.ok [], session)
    else match wait >>= checkWait with
      | .error fault => (.error fault, session)
      | .ok _ => session.takeReady extra

/-! ## What the outside does -/

/-- Time passes. -/
def advance (session : Session π) (time : Moment) : Except Fault (Session π) :=
  (session.now.plus time).map fun now => { session with now }

/-- Change the far end of the pipes of the server that runs. -/
def changePeer (session : Session π) (change : Peer → Peer) : Session π :=
  { session with connection := session.connection.map (fun connection =>
    { connection with peer := change connection.peer }) }

def arrive (session : Session π) (bytes : List UInt8) : Session π :=
  if bytes.isEmpty then session
  else session.changePeer (fun peer => { peer with incoming := peer.incoming ++ [.data bytes] })

def hangUp (session : Session π) : Session π :=
  session.changePeer (fun peer => { peer with incoming := peer.incoming ++ [.endOfData] })

/-- The server takes so many more writes, then one fails. -/
def breakWrites (session : Session π) (after : Nat) : Session π :=
  session.changePeer (fun peer =>
    { peer with writes := List.replicate after .takesAll ++ [.fails] })

/-- The server lets the next flush fail. -/
def breakFlush (session : Session π) : Session π :=
  session.changePeer (fun peer => { peer with flushes := true :: peer.flushes })

end LanguageClient.Session
