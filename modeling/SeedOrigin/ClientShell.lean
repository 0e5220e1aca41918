import SeedOrigin.ClientConnection
import SeedOrigin.Receiver
import SeedOrigin.ResponseWire

/-! ClientTransportShell: the client's socket, its login, and the updates it hands to
the receiver. What the sockets and the clock answer is a parameter of every call. -/
namespace SeedOrigin.ClientShell
open SeedOrigin.Octets SeedOrigin.Inputs SeedOrigin.CommandWire SeedOrigin.Receiver
open SeedOrigin.Prediction SeedOrigin.ClientConnection SeedOrigin.ResponseWire SeedOrigin.Runtime
open SeedOrigin.ClientInbound (ClientInboundDemux InboundFrame InboundFrameKind)

inductive TransportLinkState where
  | disconnected | connected | failed
  deriving DecidableEq, Repr

inductive TransportAuthState where
  | anonymous | loggedIn
  deriving DecidableEq, Repr

inductive TransportErrorReason where
  | none | connectTimeout | loginResponseTimeout | snapshotWaitTimeout | peerClosed | readFailed
  | writeFailed | protocolError | loginRejected
  deriving DecidableEq, Repr

def inContext (text : String) (context : Bytes) : Bytes :=
  if context = [] then ascii text else ascii text ++ ascii ": " ++ context

def formatTransportErrorDetail : TransportErrorReason → Bytes → Bytes
  | .none, _ => []
  | .connectTimeout, _ => ascii "connect timed out"
  | .loginResponseTimeout, _ => ascii "login response wait timed out"
  | .snapshotWaitTimeout, _ => ascii "snapshot wait timed out"
  | .peerClosed, _ => ascii "peer closed connection"
  | .readFailed, context => inContext "read failed" context
  | .writeFailed, context => inContext "write failed" context
  | .protocolError, context => inContext "protocol error" context
  | .loginRejected, context => inContext "login rejected" context

-- The readings that nowMs has still to give, the next one first.
abbrev MonotonicClockPort := Nat → UInt64

def passed (clock : MonotonicClockPort) (n : Nat) : MonotonicClockPort := fun k => clock (n + k)

structure TransportTimeouts where
  loginResponseWaitMs : UInt64 := 0
  snapshotWaitMs : UInt64 := 0
  connectTimeoutMs : UInt64 := 0

structure TransportWaitDeadline where
  deadlineMs : UInt64 := 0

-- The sum wraps as the addition of two uint64_t does.
def TransportWaitDeadline.arm (clock : Option MonotonicClockPort) (timeoutMs : UInt64) :
    TransportWaitDeadline × Option MonotonicClockPort :=
  match clock with
  | none => ({}, none)
  | some clock =>
    if timeoutMs = 0 then ({}, some clock) else (⟨clock 0 + timeoutMs⟩, some (passed clock 1))

def TransportWaitDeadline.isExpired (deadline : TransportWaitDeadline)
    (clock : Option MonotonicClockPort) : Bool × Option MonotonicClockPort :=
  match clock with
  | none => (false, none)
  | some clock =>
    if deadline.deadlineMs > 0 then (clock 0 ≥ deadline.deadlineMs, some (passed clock 1))
    else (false, some clock)

structure ClientTransportShell (F : Type) where
  clientSocket : Int := -1
  link : TransportLinkState := .disconnected
  auth : TransportAuthState := .anonymous
  localSessionId : Int := 0
  snapshotCommandQueued : Bool := false
  disconnectQueued : Bool := false
  outboundFrames : List Bytes := []
  inbound : ClientInboundDemux := {}
  receiver : ClientWorldUpdateReceiver F
  clock : Option MonotonicClockPort := none
  timeouts : TransportTimeouts := {}
  lastErrorReason : TransportErrorReason := .none
  lastErrorDetailText : Bytes := []
  reconnectCounter : UInt32 := 0
  snapshotRequestCounter : UInt32 := 0
  reconnectPending : Bool := false
  loginResponseDeadline : TransportWaitDeadline := {}
  snapshotWaitDeadline : TransportWaitDeadline := {}

namespace ClientTransportShell
variable {F : Type}

abbrev Called (F : Type) := ClientTransportShell F × Except Bytes Unit

def isOpen (shell : ClientTransportShell F) : Bool := 0 ≤ shell.clientSocket

def recordError (shell : ClientTransportShell F) (reason : TransportErrorReason) (context : Bytes) :
    ClientTransportShell F :=
  { shell with
    lastErrorReason := reason
    lastErrorDetailText := formatTransportErrorDetail reason context }

def clearWaitDeadlines (shell : ClientTransportShell F) : ClientTransportShell F :=
  { shell with loginResponseDeadline := {}, snapshotWaitDeadline := {} }

def armLoginResponseWaitIfNeeded (shell : ClientTransportShell F) : ClientTransportShell F :=
  if shell.reconnectPending = false ∨ shell.auth ≠ .anonymous then
    { shell with loginResponseDeadline := {} }
  else
    let (deadline, clock) := TransportWaitDeadline.arm shell.clock shell.timeouts.loginResponseWaitMs
    { shell with loginResponseDeadline := deadline, clock := clock }

def armSnapshotWaitIfNeeded (shell : ClientTransportShell F) : ClientTransportShell F :=
  if shell.auth ≠ .loggedIn ∨ shell.receiver.needsSnapshot = false then
    { shell with snapshotWaitDeadline := {} }
  else
    let (deadline, clock) := TransportWaitDeadline.arm shell.clock shell.timeouts.snapshotWaitMs
    { shell with snapshotWaitDeadline := deadline, clock := clock }

def noteSnapshotRequestQueued (shell : ClientTransportShell F) : ClientTransportShell F :=
  { shell with
    snapshotRequestCounter := shell.snapshotRequestCounter + 1 }.armSnapshotWaitIfNeeded

def noteReconnectCompletedIfReady (shell : ClientTransportShell F) : ClientTransportShell F :=
  if shell.reconnectPending = false ∨ shell.auth ≠ .loggedIn ∨ shell.receiver.needsSnapshot then
    shell
  else
    { shell with
      reconnectCounter := shell.reconnectCounter + 1
      reconnectPending := false }.recordError .none []

def markFailed (shell : ClientTransportShell F) (reason : TransportErrorReason) (context : Bytes) :
    ClientTransportShell F :=
  { shell.recordError reason context with
    clientSocket := if shell.clientSocket ≥ 0 then -1 else shell.clientSocket
    link := .failed
    auth := .anonymous
    disconnectQueued := false }.clearWaitDeadlines

-- The caller is told what was recorded.
def failWith (shell : ClientTransportShell F) (reason : TransportErrorReason) (context : Bytes) :
    Called F :=
  let failed := shell.markFailed reason context
  (failed, .error failed.lastErrorDetailText)

def checkDeadlines (shell : ClientTransportShell F) : Called F :=
  let (late, clock) := shell.loginResponseDeadline.isExpired shell.clock
  let shell := { shell with clock := clock }
  if late then shell.failWith .loginResponseTimeout []
  else
    let (late, clock) := shell.snapshotWaitDeadline.isExpired shell.clock
    let shell := { shell with clock := clock }
    if late ∧ shell.auth = .loggedIn ∧ shell.receiver.needsSnapshot then
      shell.failWith .snapshotWaitTimeout []
    else (shell, .ok ())

-- A failed shell stays failed, and a closed one keeps its login state.
def close (shell : ClientTransportShell F) : ClientTransportShell F :=
  let link := if shell.link = .failed then .failed else .disconnected
  if shell.clientSocket < 0 then { shell with link := link }
  else { shell with clientSocket := -1, link := link, auth := .anonymous }

def beginReconnect (shell : ClientTransportShell F) : ClientTransportShell F :=
  { shell.close with
    inbound := {}
    outboundFrames := []
    auth := .anonymous
    localSessionId := 0
    snapshotCommandQueued := false
    disconnectQueued := false
    reconnectPending := true
    receiver := shell.receiver.beginReconnect }.clearWaitDeadlines

def takeSocket (shell : ClientTransportShell F) (fd : Int) (nonBlocking : Bool) : Called F :=
  let shell := { shell with clientSocket := fd }
  if nonBlocking = false then
    let error := ascii "client socket could not be set non-blocking"
    (shell.markFailed .protocolError error, .error error)
  else ({ shell with link := .connected }.armLoginResponseWaitIfNeeded, .ok ())

def attachConnectedSocket (shell : ClientTransportShell F) (socketFd : Int) (nonBlocking : Bool) :
    Called F :=
  if shell.clientSocket ≥ 0 then (shell, .error (ascii "client transport is already connected"))
  else if socketFd < 0 then (shell, .error (ascii "client transport socket is invalid"))
  else shell.takeSocket socketFd nonBlocking

inductive ConnectResult where
  | done | inProgress | failed
  deriving DecidableEq

inductive PollEnd where
  | pollFailed | statusUnknown | refused | connected
  deriving DecidableEq

-- What the system answers to one connectTcp: polls that have nothing to say are
-- counted, the last one is told apart.
structure ConnectAnswers where
  socket : Int
  usableHost : Bool := true
  nonBlocking : Bool := true
  connect : ConnectResult := .done
  waits : Nat := 0
  ended : PollEnd := .connected
  nonBlockingKept : Bool := true

-- Each round reads the clock twice. Nothing is returned once the deadline passes.
def pollUntil (deadlineMs : UInt64) (ended : PollEnd) :
    Nat → MonotonicClockPort → MonotonicClockPort × Option PollEnd
  | waits, clock =>
    if clock 0 ≥ deadlineMs then (passed clock 1, none)
    else match waits with
      | 0 => (passed clock 2, some ended)
      | waits + 1 => pollUntil deadlineMs ended waits (passed clock 2)

-- These paths leave the login state as it is.
def connectFailed (shell : ClientTransportShell F) (error : String) : Called F :=
  ({ shell with link := .failed }, .error (ascii error))

def pollConnection (shell : ClientTransportShell F) (clock : MonotonicClockPort)
    (answers : ConnectAnswers) : Called F :=
  let deadlineMs := clock 0 + shell.timeouts.connectTimeoutMs
  match pollUntil deadlineMs answers.ended answers.waits (passed clock 1) with
  | (clock, none) => { shell with clock := some clock }.failWith .connectTimeout []
  | (clock, some ended) =>
    let shell := { shell with clock := some clock }
    match ended with
    | .pollFailed => shell.connectFailed "client tcp connect poll failed"
    | .statusUnknown => shell.connectFailed "client tcp connect status check failed"
    | .refused => shell.connectFailed "client tcp connect failed"
    | .connected => shell.takeSocket answers.socket answers.nonBlockingKept

def connectTcp (shell : ClientTransportShell F) (host : Option Bytes) (port : UInt16)
    (answers : ConnectAnswers) : Called F :=
  if shell.clientSocket ≥ 0 then (shell, .error (ascii "client transport is already connected"))
  else if host = none ∨ port = 0 then (shell, .error (ascii "client transport address is invalid"))
  else if answers.socket < 0 then shell.connectFailed "client socket create failed"
  else if answers.usableHost = false then
    shell.connectFailed "client transport host is not a usable IPv4 address"
  else match shell.clock with
    | some clock =>
      if shell.timeouts.connectTimeoutMs > 0 then
        if answers.nonBlocking = false then
          shell.connectFailed "client socket could not be set non-blocking"
        else match answers.connect with
          | .done => shell.takeSocket answers.socket answers.nonBlockingKept
          | .failed => shell.connectFailed "client tcp connect failed"
          | .inProgress => shell.pollConnection clock answers
      else if answers.connect = .done then
        shell.takeSocket answers.socket answers.nonBlockingKept
      else shell.connectFailed "client tcp connect failed"
    | none =>
      if answers.connect = .done then shell.takeSocket answers.socket answers.nonBlockingKept
      else shell.connectFailed "client tcp connect failed"

def enqueueCommand (shell : ClientTransportShell F) (command : NetworkCommand) : Called F :=
  if shell.isOpen = false then (shell, .error (ascii "client transport is closed"))
  else match encodeFrame command with
    | .error e => (shell, .error (ascii e))
    | .ok frame => match enqueue shell.outboundFrames frame with
      | .error e => (shell, .error (ascii e))
      | .ok frames => ({ shell with outboundFrames := frames }, .ok ())

def enqueueLogin (shell : ClientTransportShell F) (claimedId : Bytes) : Called F :=
  shell.enqueueCommand ⟨CommandWire.currentProtocolVersion, .login, 0, claimedId⟩

def enqueueDisconnect (shell : ClientTransportShell F) : Called F :=
  if shell.auth ≠ .loggedIn then (shell, .error (ascii "disconnect requires a logged-in session"))
  else match shell.enqueueCommand
      ⟨CommandWire.currentProtocolVersion, .disconnect, Int64.ofInt shell.localSessionId, []⟩ with
    | (shell, .error e) => (shell, .error e)
    | (shell, .ok _) => ({ shell with disconnectQueued := true }, .ok ())

-- A reset leaves the text of the error as the caller had it.
def flushOutbound (shell : ClientTransportShell F) (send : Bytes → SendResult) :
    ClientTransportShell F × SendStatus × Option Bytes :=
  if shell.isOpen = false then (shell, .closed, some (ascii "client transport is closed"))
  else match shell.outboundFrames with
    | [] => (shell, .noData, none)
    | frame :: frames => match send frame with
      | .wouldBlock => (shell, .noData, none)
      | .reset => ((shell.recordError .peerClosed []).close, .closed, none)
      | .failed =>
        let error := ascii "client socket write failed"
        (shell.markFailed .writeFailed error, .failed, some error)
      | .accepted 0 => (shell, .noData, none)
      | .accepted (count + 1) => match consumeFront (frame :: frames) (count + 1) with
        | none =>
          let error := ascii "outbound frame progress is invalid"
          (shell.markFailed .writeFailed error, .failed, some error)
        | some left => ({ shell with outboundFrames := left }, .sent, none)

def flushAll (send : Nat → Bytes → SendResult) :
    Nat → Nat → ClientTransportShell F → ClientTransportShell F × Except (Option Bytes) Unit
  | 0, _, shell => (shell, .ok ())
  | fuel + 1, call, shell =>
    if shell.outboundFrames = [] then (shell, .ok ())
    else match shell.flushOutbound (send call) with
      | (shell, .noData, _) => (shell, .ok ())
      | (shell, .sent, _) => flushAll send fuel (call + 1) shell
      | (shell, _, error) => (shell, .error error)

def applyDisconnectResponse (shell : ClientTransportShell F) (response : DisconnectResponse) :
    ClientTransportShell F :=
  if shell.disconnectQueued = false then shell
  else if response.accepted = false then { shell with disconnectQueued := false }
  else if response.sessionId ≠ shell.localSessionId then shell
  else shell.beginReconnect

section
variable [PredictionOps F]

def handleLoginResponseFrame (shell : ClientTransportShell F) (bytes : Bytes) : Called F :=
  match decodeLoginResponseFrame bytes with
  | .error e => (shell.markFailed .protocolError (ascii e), .error (ascii e))
  | .ok response =>
    if response.accepted = false then
      shell.failWith .loginRejected
        (if response.payload = [] then ascii "login was rejected" else response.payload)
    else
      ({ shell with
        localSessionId := response.sessionId
        auth := .loggedIn
        receiver := shell.receiver.bindLocalSession response.sessionId
        loginResponseDeadline := {} }.armSnapshotWaitIfNeeded, .ok ())

def handleDisconnectResponseFrame (shell : ClientTransportShell F) (bytes : Bytes) : Called F :=
  match decodeDisconnectResponseFrame bytes with
  | .error e => (shell.markFailed .protocolError (ascii e), .error (ascii e))
  | .ok response => (shell.applyDisconnectResponse response, .ok ())

-- The loop of handleInboundFrames, which goes on after the socket is closed.
def handleEach : ClientTransportShell F → List InboundFrame → Bytes → Bool →
    ClientTransportShell F × Except Bytes (Bytes × Bool)
  | shell, [], worldBytes, disconnectAccepted => (shell, .ok (worldBytes, disconnectAccepted))
  | shell, frame :: frames, worldBytes, disconnectAccepted => match frame.kind with
    | .loginResponse => match shell.handleLoginResponseFrame frame.bytes with
      | (shell, .error e) => (shell, .error e)
      | (shell, .ok _) => handleEach shell frames worldBytes disconnectAccepted
    | .disconnectResponse => match shell.handleDisconnectResponseFrame frame.bytes with
      | (shell, .error e) => (shell, .error e)
      | (shell, .ok _) =>
        handleEach shell frames worldBytes (disconnectAccepted || shell.reconnectPending)
    | .worldUpdate => handleEach shell frames (worldBytes ++ frame.bytes) disconnectAccepted

def settleWorld (shell : ClientTransportShell F) : ClientTransportShell F :=
  if shell.receiver.needsSnapshot then shell
  else
    { shell with
      snapshotCommandQueued := false
      snapshotWaitDeadline := {} }.noteReconnectCompletedIfReady

def receiveWorld (shell : ClientTransportShell F) (worldBytes : Bytes) : Called F :=
  let (receiver, _, result) := shell.receiver.receive worldBytes
  let shell := { shell with receiver := receiver }
  match result with
  | .error e =>
    if receiver.decision ≠ .requestSnapshot then
      (shell.markFailed .protocolError (ascii e), .error (ascii e))
    else (shell.settleWorld, .ok ())
  | .ok _ => (shell.settleWorld, .ok ())

def handleInboundFrames (shell : ClientTransportShell F) (frames : List InboundFrame) : Called F :=
  match shell.handleEach frames [] false with
  | (shell, .error e) => (shell, .error e)
  | (shell, .ok (worldBytes, disconnectAccepted)) =>
    if disconnectAccepted ∨ worldBytes = [] then (shell, .ok ()) else shell.receiveWorld worldBytes

def tryBuildRequestSnapshotCommand (receiver : ClientWorldUpdateReceiver F) :
    Option NetworkCommand :=
  if receiver.needsSnapshot = false ∨ receiver.localSessionId ≤ 0 then none
  else some ⟨CommandWire.currentProtocolVersion, .requestSnapshot,
    Int64.ofInt receiver.localSessionId, []⟩

def enqueueRequestSnapshotIfNeeded (shell : ClientTransportShell F) : Called F :=
  if shell.snapshotCommandQueued ∨ shell.auth ≠ .loggedIn then (shell, .ok ())
  else match tryBuildRequestSnapshotCommand shell.receiver with
    | none => (shell, .ok ())
    | some command => match shell.enqueueCommand command with
      | (shell, .error e) => (shell, .error e)
      | (shell, .ok _) =>
        ({ shell with snapshotCommandQueued := true }.noteSnapshotRequestQueued, .ok ())

-- The beginning of pump, up to the frames that its read completes. A read that
-- would block completes none.
def pumpRead (shell : ClientTransportShell F) (received : RecvResult) :
    ClientTransportShell F × Except Bytes (List InboundFrame) :=
  if shell.inbound.failedState ∨ shell.link = .failed then
    (shell, .error (ascii "client transport is failed"))
  else if shell.isOpen = false then (shell, .error (ascii "client transport is closed"))
  else match shell.checkDeadlines with
    | (shell, .error e) => (shell, .error e)
    | (shell, .ok _) => match received with
      | .peerClosed | .reset =>
        let told := shell.recordError .peerClosed []
        (told.close, .error told.lastErrorDetailText)
      | .failed =>
        let error := ascii "client socket read failed"
        (shell.markFailed .readFailed error, .error error)
      | .wouldBlock => (shell, .ok [])
      | .bytes input => match shell.inbound.append input with
        | (inbound, _, .error e) =>
          ({ shell with inbound := inbound }.markFailed .protocolError (ascii e), .error (ascii e))
        | (inbound, frames, .ok _) => ({ shell with inbound := inbound }, .ok frames)

def pumpSend (shell : ClientTransportShell F) (send : Nat → Bytes → SendResult) :
    ClientTransportShell F × Except (Option Bytes) Unit :=
  match shell.checkDeadlines with
  | (shell, .error e) => (shell, .error (some e))
  | (shell, .ok _) => match shell.enqueueRequestSnapshotIfNeeded with
    | (shell, .error e) => (shell, .error (some e))
    | (shell, .ok _) =>
      let fuel := shell.outboundFrames.length + shell.outboundFrames.flatten.length + 1
      match shell.flushAll send fuel 0 with
      | (shell, .error e) => (shell, .error e)
      | (shell, .ok _) => (shell.noteReconnectCompletedIfReady, .ok ())

def pump (shell : ClientTransportShell F) (received : RecvResult)
    (send : Nat → Bytes → SendResult) : ClientTransportShell F × Except (Option Bytes) Unit :=
  match shell.pumpRead received with
  | (shell, .error e) => (shell, .error (some e))
  | (shell, .ok frames) => match shell.handleInboundFrames frames with
    | (shell, .error e) => (shell, .error (some e))
    | (shell, .ok _) => shell.pumpSend send

end

end ClientTransportShell

end SeedOrigin.ClientShell
