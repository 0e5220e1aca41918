import SeedOrigin.CommandDispatch
import SeedOrigin.Publish

/-! ServerRuntime: one frame accepts connections, reads and dispatches commands,
answers and sends, and drops what has closed. What the sockets do is a parameter
of every frame. -/
namespace SeedOrigin.Runtime
open SeedOrigin.Octets SeedOrigin.Numbers SeedOrigin.ClientInput SeedOrigin.Inputs
open SeedOrigin.CommandWire SeedOrigin.UpdateWire SeedOrigin.Sessions SeedOrigin.Presence
open SeedOrigin.ClientConnection SeedOrigin.CommandDispatch

def maxPendingCommands : Nat := 1024
def maxPendingCommandsPerConnection : Nat := 128
def maxAcceptsPerFrame : Nat := 64
def maxConnectionId : Nat := 2 ^ 64 - 1

structure LoginResponse where
  version : UInt16
  accepted : Bool
  sessionId : Int
  payload : Bytes

structure DisconnectResponse where
  version : UInt16
  accepted : Bool
  sessionId : Int
  payload : Bytes

def validateLoginResponse (response : LoginResponse) : Except String Unit :=
  if response.version ≠ CommandWire.currentProtocolVersion then
    .error "unsupported login response version"
  else if response.payload.length > maxCommandPayload then .error "login response payload is too large"
  else if response.accepted then
    if response.sessionId ≤ 0 then .error "accepted login response is invalid" else .ok ()
  else if response.sessionId ≠ 0 ∨ response.payload = [] then
    .error "rejected login response is invalid"
  else .ok ()

def validateDisconnectResponse (response : DisconnectResponse) : Except String Unit :=
  if response.version ≠ CommandWire.currentProtocolVersion then
    .error "unsupported disconnect response version"
  else if response.payload.length > maxCommandPayload then
    .error "disconnect response payload is too large"
  else if response.accepted then
    if response.sessionId ≤ 0 ∨ response.payload ≠ [] then
      .error "accepted disconnect response is invalid"
    else .ok ()
  else if response.payload = [] then .error "rejected disconnect response is invalid"
  else .ok ()

def responseBytes (version : UInt16) (code : Nat) (sessionId : Int) (payload : Bytes) : Bytes :=
  packed [(2, version.toNat), (2, code), (8, residue64 sessionId), (4, payload.length)] ++ payload

def encodeLoginResponseFrame (response : LoginResponse) : Except String Bytes := do
  validateLoginResponse response
  return responseBytes response.version (if response.accepted then 1 else 2) response.sessionId
    response.payload

def encodeDisconnectResponseFrame (response : DisconnectResponse) : Except String Bytes := do
  validateDisconnectResponse response
  return responseBytes response.version CommandType.disconnect.code.toNat response.sessionId
    response.payload

structure PendingCommand where
  connectionId : Nat
  command : NetworkCommand
  deriving DecidableEq

-- WorldInputTick is the tick here and the queue among the services.
structure ServerRuntime (F σ : Type) where
  running : Bool := false
  nextConnectionId : Nat := 1
  clients : ConnectionMap ClientSession := ∅
  lifecycle : SessionLifecycle := {}
  worldTick : UInt64 := 0
  pendingCommands : List PendingCommand := []
  newAuthenticatedSessions : Nat := 0
  services : Services F σ
  deriving DecidableEq

structure ServerFrameResult (F : Type) where
  worldTick : UInt64
  networkOperations : Nat
  inputs : List (WorldInput F)
  newAuthenticatedSessions : Nat
  snapshotRequests : Nat

inductive AcceptOutcome where
  | accepted (initialized : Bool)
  | failed
  deriving DecidableEq

structure FrameEnv where
  accepts : List AcceptOutcome
  recv : Nat → RecvResult
  send : Nat → Nat → Bytes → SendResult

-- Of all errors of a frame the first one is kept.
def keepFirst (error new : String) : String := if error = "" then new else error

section
variable {F σ : Type}

def ServerRuntime.clientSession (runtime : ServerRuntime F σ) (connectionId : Nat) :
    Option ClientSession := runtime.clients[connectionId]?

def ServerRuntime.acceptPendingClient (runtime : ServerRuntime F σ) :
    AcceptOutcome → Except String (ServerRuntime F σ)
  | .failed => .error ""
  | .accepted initialized =>
    if runtime.nextConnectionId = maxConnectionId then .error "connection id allocation failed"
    else if initialized = false then .error "accepted client session could not be initialized"
    else .ok { runtime with
      nextConnectionId := runtime.nextConnectionId + 1
      clients := runtime.clients.insert runtime.nextConnectionId {} }

def acceptClients : Nat → List AcceptOutcome → ServerRuntime F σ → String → Nat →
    ServerRuntime F σ × String × Nat
  | 0, _, runtime, error, accepted => (runtime, error, accepted)
  | _, [], runtime, error, accepted => (runtime, error, accepted)
  | fuel + 1, outcome :: outcomes, runtime, error, accepted =>
    match runtime.acceptPendingClient outcome with
    | .error e => (runtime, keepFirst error e, accepted)
    | .ok runtime => acceptClients fuel outcomes runtime error (accepted + 1)

def enqueueCommands (pending : List PendingCommand) (connectionId : Nat)
    (commands : List NetworkCommand) : Except String (List PendingCommand) :=
  if commands.length > maxPendingCommands - pending.length then .error "server command queue is full"
  else
    let connectionPending := pending.countP (fun entry => entry.connectionId = connectionId)
    if connectionPending ≥ maxPendingCommandsPerConnection ∨
        commands.length > maxPendingCommandsPerConnection - connectionPending then
      .error "connection command queue is full"
    else do
      commands.forM validateCommand
      return pending ++ commands.map (fun command => ⟨connectionId, command⟩)

theorem enqueueTaken {pending after : List PendingCommand} {c : Nat} {commands : List NetworkCommand}
    (made : enqueueCommands pending c commands = .ok after) :
    after = pending ++ commands.map (fun command => ⟨c, command⟩) ∧
    commands.length ≤ maxPendingCommands - pending.length ∧
    pending.countP (fun entry => entry.connectionId = c) + commands.length ≤
      maxPendingCommandsPerConnection := by
  unfold enqueueCommands at made
  dsimp only at made
  split_ifs at made with full own
  cases valid : commands.forM validateCommand with
  | error e => simp [valid, bind, Except.bind] at made
  | ok done =>
    simp only [valid, bind, Except.bind, pure, Except.pure, Except.ok.injEq] at made
    exact ⟨made.symm, not_lt.mp full, by omega⟩

def receiveClient (env : FrameEnv) (state : ServerRuntime F σ × String) (connectionId : Nat) :
    ServerRuntime F σ × String :=
  let (runtime, error) := state
  match runtime.clientSession connectionId with
  | none => state
  | some session =>
    let (session, commands, status, receiveError) := session.receive (env.recv connectionId)
    let runtime := { runtime with clients := runtime.clients.insert connectionId session }
    match status with
    | .failed => (runtime, keepFirst error (receiveError.getD ""))
    | .commands => match enqueueCommands runtime.pendingCommands connectionId commands with
      | .error e => (runtime, keepFirst error e)
      | .ok pending => ({ runtime with pendingCommands := pending }, error)
    | .noData => (runtime, error)
    | .closed => (runtime, error)

def enqueueResponse (session : ClientSession) (encoded : Except String Bytes) (error : String) :
    ClientSession × Bool × String :=
  if session.isOpen = false then (session, true, error)
  else match encoded with
    | .error e => (session, false, keepFirst error e)
    | .ok frame => match session.enqueueFrame frame with
      | .error e => (session, false, keepFirst error e)
      | .ok session => (session, true, error)

def loginResponseFromDispatch (result : CommandDispatchResult) : LoginResponse :=
  if result.accepted then
    ⟨CommandWire.currentProtocolVersion, true, result.session.internalId, result.playerSessionKey⟩
  else ⟨CommandWire.currentProtocolVersion, false, 0, ascii result.error⟩

def disconnectResponse (command : NetworkCommand) (result : CommandDispatchResult) :
    DisconnectResponse :=
  ⟨CommandWire.currentProtocolVersion, result.accepted, command.sessionId.toInt,
    if result.accepted then []
    else if result.error = "" then ascii "disconnect was rejected" else ascii result.error⟩

variable [FloatOps F] (ports : ServerPorts F σ)

-- A login on a connection that already has a session is not dispatched.
def dispatchPending (runtime : ServerRuntime F σ) (pending : PendingCommand) :
    ServerRuntime F σ × CommandDispatchResult :=
  if pending.command.type = .login ∧ runtime.lifecycle.hasSession pending.connectionId then
    (runtime, rejected "connection already has a session")
  else
    let (services, result) := dispatch ports runtime.services pending.command
    ({ runtime with services := services }, result)

def ServerRuntime.disconnect (runtime : ServerRuntime F σ) (connectionId : Nat) : ServerRuntime F σ :=
  let (lifecycle, registry) := runtime.lifecycle.disconnect connectionId runtime.services.registry
  { runtime with
    lifecycle := lifecycle
    services := { runtime.services with registry := registry } }

def answerDisconnect (runtime : ServerRuntime F σ) (error : String) (pending : PendingCommand)
    (result : CommandDispatchResult) : ServerRuntime F σ × String :=
  let (answered, error) := match runtime.clientSession pending.connectionId with
    | none => (runtime, error)
    | some session =>
      if session.isOpen = false then (runtime, error)
      else
        let (session, sent, error) := enqueueResponse session
          (encodeDisconnectResponseFrame (disconnectResponse pending.command result)) error
        let session := if sent ∧ result.accepted then session.requestCloseAfterFlush else session
        ({ runtime with clients := runtime.clients.insert pending.connectionId session }, error)
  if result.accepted then (answered.disconnect pending.connectionId, error) else (answered, error)

def placeLogin (runtime : ServerRuntime F σ) (connectionId : Nat) (result : CommandDispatchResult) :
    ServerRuntime F σ × CommandDispatchResult :=
  if result.accepted = false then (runtime, result)
  else match runtime.lifecycle.bind connectionId result.session with
    | .error e =>
      let registry := (runtime.services.registry.logout result.session.internalId).1
      ({ runtime with services := { runtime.services with registry := registry } }, rejected e)
    | .ok lifecycle =>
      let bound := { runtime with lifecycle := lifecycle }
      match placeAfterLogin ports.playerId ports.spawnSettings bound.services.presence
          result.session.internalId result.session.claimedId with
      | (presence, false) =>
        (({ bound with services := { bound.services with presence := presence } } :
            ServerRuntime F σ).disconnect connectionId,
          rejected "authenticated session could not be placed on the field")
      | (presence, true) =>
        ({ bound with
            services := { bound.services with presence := presence }
            newAuthenticatedSessions := bound.newAuthenticatedSessions + 1 }, result)

def answerLogin (runtime : ServerRuntime F σ) (error : String) (pending : PendingCommand)
    (result : CommandDispatchResult) : ServerRuntime F σ × String :=
  match runtime.clientSession pending.connectionId with
  | none => (runtime, error)
  | some session =>
    if session.isOpen = false then (runtime, error)
    else
      let (runtime, result) := placeLogin ports runtime pending.connectionId result
      let (session, _, error) := enqueueResponse session
        (encodeLoginResponseFrame (loginResponseFromDispatch result)) error
      ({ runtime with clients := runtime.clients.insert pending.connectionId session }, error)

def serveCommand (state : ServerRuntime F σ × String) (pending : PendingCommand) :
    ServerRuntime F σ × String :=
  let (runtime, error) := state
  let (runtime, result) := dispatchPending ports runtime pending
  if pending.connectionId = 0 then (runtime, error)
  else if pending.command.type = .disconnect then answerDisconnect runtime error pending result
  else if pending.command.type = .login then answerLogin ports runtime error pending result
  else (runtime, error)

def removeClosed (runtime : ServerRuntime F σ) (connectionId : Nat) : ServerRuntime F σ :=
  match runtime.clientSession connectionId with
  | none => runtime
  | some session =>
    if session.isOpen then runtime
    else
      let sessionId := runtime.lifecycle.sessionId connectionId
      let presence := removeAfterLogout runtime.services.presence sessionId
      let left := ({ runtime with services := { runtime.services with presence := presence } } :
        ServerRuntime F σ).disconnect connectionId
      { left with
        clients := left.clients.erase connectionId
        services := { left.services with
          rateLimiter := left.services.rateLimiter.forgetSession sessionId } }

def removeClosedClients (runtime : ServerRuntime F σ) : ServerRuntime F σ :=
  runtime.clients.keys.foldl removeClosed runtime

def receiveClients (env : FrameEnv) (runtime : ServerRuntime F σ) (error : String) :
    ServerRuntime F σ × String :=
  let begun := { runtime with
    newAuthenticatedSessions := 0
    services := runtime.services.beginFrame (runtime.worldTick + 1) }
  begun.clients.keys.foldl (receiveClient env) (begun, error)

def processClientFrames (env : FrameEnv) (runtime : ServerRuntime F σ) (error : String) :
    ServerRuntime F σ × String × Nat :=
  if runtime.running = false then
    ({ runtime with newAuthenticatedSessions := 0 }, "server runtime is stopped", 0)
  else
    let (received, error) := receiveClients env runtime error
    let (served, error) := received.pendingCommands.foldl (serveCommand ports)
      ({ received with pendingCommands := [] }, error)
    (removeClosedClients served, error, received.pendingCommands.length)

def flushClient (env : FrameEnv) (state : ServerRuntime F σ × String) (connectionId : Nat) :
    ServerRuntime F σ × String :=
  let (runtime, error) := state
  match runtime.clientSession connectionId with
  | none => state
  | some session =>
    let (session, status, sendError) := session.flushOutbound (env.send connectionId)
    ({ runtime with clients := runtime.clients.insert connectionId session },
      if status = .failed then keepFirst error (sendError.getD "") else error)

def flushClients (env : FrameEnv) (runtime : ServerRuntime F σ) (error : String) :
    ServerRuntime F σ × String :=
  runtime.clients.keys.foldl (flushClient env) (runtime, error)

def processFrame (env : FrameEnv) (runtime : ServerRuntime F σ) :
    ServerRuntime F σ × ServerFrameResult F × String :=
  if runtime.running = false then
    (runtime, ⟨runtime.worldTick, 0, [], 0, 0⟩, "server runtime is stopped")
  else
    let (accepting, error, accepted) := acceptClients maxAcceptsPerFrame env.accepts runtime "" 0
    let (processed, error, count) := processClientFrames ports env accepting error
    let (flushed, error) := flushClients env processed error
    let kept := removeClosedClients flushed
    let (queue, inputs) := kept.services.inputQueue.takeFrame
    let tick := kept.worldTick + 1
    ({ kept with worldTick := tick, services := { kept.services with inputQueue := queue } },
      ⟨tick, accepted + count, inputs, kept.newAuthenticatedSessions, kept.services.snapshotRequests⟩,
      error)

def publish (runtime : ServerRuntime F σ) (updates : List WorldUpdate)
    (ownerAcks : List (MovementAck F)) : ServerRuntime F σ :=
  { runtime with
    clients := (Publish.publishWorldUpdates runtime.lifecycle ownerAcks runtime.running runtime.clients
      updates).1 }

end

end SeedOrigin.Runtime
