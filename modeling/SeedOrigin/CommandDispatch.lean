import SeedOrigin.CommandWire
import SeedOrigin.Presence

/-! ServerCommandDispatcher: the quota of a session, one handler for each command
type and the challenge login. The services behind the challenge are parameters, and
the world input queue is always bound. -/
namespace SeedOrigin.CommandDispatch
open SeedOrigin.Octets SeedOrigin.Numbers SeedOrigin.Decimal SeedOrigin.Character
open SeedOrigin.ClientInput SeedOrigin.Inputs SeedOrigin.CommandWire SeedOrigin.Sessions
open SeedOrigin.Presence
open FloatOps (lit lt le isFinite)

def maxCombatPower : ℚ := 100000
def rateSlots : Nat := 8
def sessionTtlSeconds : Int := 30 * 60

structure CommandRateLimiter where
  counters : IntMap (Fin rateSlots → Nat) := ∅
  currentTick : UInt64 := 0
  deriving DecidableEq

def limitFor : CommandType → Nat
  | .move => 20
  | .chat => 4
  | .attack => 4
  | .castSpell => 4
  | .disconnect => 2
  | .requestSnapshot => 1
  | .login => 0
  | .unknown _ => 0

def CommandRateLimiter.allow (limiter : CommandRateLimiter) (sessionId : Int) (type : CommandType) :
    CommandRateLimiter × Bool :=
  if sessionId ≤ 0 then (limiter, false)
  else if slot : type.code.toNat < rateSlots ∧ limitFor type ≠ 0 then
    let index : Fin rateSlots := ⟨type.code.toNat, slot.1⟩
    let counts := limiter.counters.getD sessionId (fun _ => 0)
    if counts index ≥ limitFor type then (limiter, false)
    else
      ({ limiter with counters :=
          limiter.counters.insert sessionId (Function.update counts index (counts index + 1)) }, true)
  else (limiter, false)

def CommandRateLimiter.beginFrame (limiter : CommandRateLimiter) (worldTick : UInt64) :
    CommandRateLimiter :=
  if worldTick = limiter.currentTick then limiter
  else
    { counters := limiter.counters.map (fun _ _ _ => 0)
      currentTick := worldTick }

def CommandRateLimiter.forgetSession (limiter : CommandRateLimiter) (sessionId : Int) :
    CommandRateLimiter :=
  { limiter with counters := limiter.counters.erase sessionId }

-- The clock, the claim of a challenge, the issuer of keys and the store of
-- player sessions, over a state of their own.
structure ChallengePorts (σ : Type) where
  nowUnixSeconds : σ → σ × Int
  claim : σ → Bytes → Int → σ × Option Int
  issue : σ → σ × Bytes
  create : σ → Int → Bytes → Int → σ

structure ServerPorts (F σ : Type) where
  challenge : Option (ChallengePorts σ)
  playerId : PlayerIdPort
  spawnSettings : LoginFieldSpawnSettings F

structure Services (F σ : Type) where
  registry : SessionRegistry := {}
  rateLimiter : CommandRateLimiter := {}
  snapshotRequests : Nat := 0
  inputQueue : WorldInputQueue F := {}
  presence : FieldSessionPresence F
  auth : σ
  deriving DecidableEq

structure CommandDispatchResult where
  accepted : Bool := false
  session : SessionInfo := {}
  error : String := ""
  playerSessionKey : Bytes := []
  deriving DecidableEq

section
variable {σ : Type}

def loginWithChallenge (ports : ChallengePorts σ) (auth : σ) (challenge : Bytes) :
    σ × Except String (Int × Bytes) :=
  let (auth, now) := ports.nowUnixSeconds auth
  match ports.claim auth challenge now with
  | (auth, none) => (auth, .error "invalid_challenge")
  | (auth, some userId) =>
    let (auth, sessionKey) := ports.issue auth
    (ports.create auth userId sessionKey (now + sessionTtlSeconds), .ok (userId, sessionKey))

variable {F : Type}

def Services.beginFrame (services : Services F σ) (worldTick : UInt64) : Services F σ :=
  { services with
    rateLimiter := services.rateLimiter.beginFrame worldTick
    snapshotRequests := 0 }

def rejected (error : String) : CommandDispatchResult := { error := error }

def dispatchLogin (ports : ServerPorts F σ) (services : Services F σ) (command : NetworkCommand) :
    Services F σ × CommandDispatchResult :=
  match ports.challenge with
  | none => (services, rejected "challenge_auth_required")
  | some challenge => match validateCommand command with
    | .error e => (services, rejected e)
    | .ok _ => match loginWithChallenge challenge services.auth command.payload with
      | (auth, .error reason) => ({ services with auth := auth }, rejected reason)
      | (auth, .ok (userId, sessionKey)) =>
        let (registry, session) := services.registry.openAuthenticatedSession userId
        let opened := { services with auth := auth, registry := registry }
        if session.internalId = 0 then (opened, rejected "session id allocation failed")
        else (opened, { accepted := true, session := session, playerSessionKey := sessionKey })

def handleChat (queue : WorldInputQueue F) (command : NetworkCommand) :
    Except String (WorldInputQueue F) := do
  if command.sessionId.toInt ≤ 0 then throw "command is not an authenticated chat command"
  validateCommand command
  match cut 124 command.payload with
  | none => throw "chat command must contain audience and message"
  | some (audience, message) =>
    match queue.enqueueChat command.sessionId.toInt audience message with
    | none => throw "chat input is invalid or world input queue is full"
    | some queue => return queue

def handleDisconnect (services : Services F σ) (command : NetworkCommand) :
    Services F σ × CommandDispatchResult :=
  match validateCommand command with
  | .error e => (services, rejected e)
  | .ok _ =>
    let sessionId := command.sessionId.toInt
    if services.registry.isActive sessionId = false then
      (services, rejected "disconnect requires an active session")
    else
      let presence := removeAfterLogout services.presence sessionId
      let (registry, ended) := services.registry.logout sessionId
      let left := { services with presence := presence, registry := registry }
      if ended = false then (left, rejected "disconnect could not end the session")
      else (left, { accepted := true, session := { internalId := sessionId } })

variable [FloatOps F]

def validPower (power : F) : Bool :=
  isFinite power ∧ lt (lit 0) power ∧ le power (lit maxCombatPower)

def cutRequest (payload : Bytes) : Option (Bytes × Bytes) := do
  let (requestId, rest) ← cut 124 payload
  if requestId = [] ∨ requestId.length > 64 then none else some (requestId, rest)

-- requestId|target,power
def parseAttack (payload : Bytes) : Option (Bytes × Int × F) := do
  let (requestId, rest) ← cutRequest payload
  let (targetId, rest) ← scanInt64 rest
  let rest ← scanChar 44 rest
  let (power, rest) ← FloatOps.scan rest
  if exhausted rest ∧ targetId > 0 ∧ validPower power then some (requestId, targetId, power) else none

-- requestId|target,element,power
def parseSpell (payload : Bytes) : Option (Bytes × Int × Bytes × F) := do
  let (requestId, rest) ← cutRequest payload
  let (target, rest) ← cut 44 rest
  let (element, power) ← cut 44 rest
  if 44 ∈ power then none
  let targetId ← parseInt64 target
  let power ← whole (FloatOps.scan power)
  if targetId > 0 ∧ element ≠ [] ∧ validPower power then some (requestId, targetId, element, power)
  else none

def handleCombat (queue : WorldInputQueue F) (command : NetworkCommand) :
    Except String (WorldInputQueue F) := do
  validateCommand command
  let sessionId := command.sessionId.toInt
  if command.type = .attack then
    match (do
      let (requestId, targetId, power) ← parseAttack command.payload
      queue.enqueueCombat sessionId targetId power requestId) with
    | none => throw "attack payload or input is invalid"
    | some queue => return queue
  else
    match (do
      let (requestId, targetId, element, power) ← parseSpell command.payload
      queue.enqueueSpell sessionId targetId element power requestId) with
    | none => throw "spell payload or input is invalid"
    | some queue => return queue

def withinLimit (value : F) : Bool := le (FloatOps.abs value) maxMoveDistancePerFrame

def handleMove (queue : WorldInputQueue F) (command : NetworkCommand) :
    Except String (WorldInputQueue F) := do
  validateCommand command
  match parseMovePayload (F := F) command.payload with
  | none => throw "move payload must be finite dx,dy,dz"
  | some (sequence, dx, dy, dz) =>
    if withinLimit dx = false ∨ withinLimit dy = false ∨ withinLimit dz = false ∨
        isValidMovementDelta dx dy dz = false then
      throw "move delta exceeds limit"
    match queue.enqueueSequencedMovement command.sessionId.toInt dx dy dz sequence with
    | (_, .ignoredStale) => throw "duplicate or stale client input sequence"
    | (_, .rejected) =>
      throw (if sequence ≠ 0 then "client input sequence was rejected"
        else "movement world input queue is full")
    | (queue, .enqueued) => return queue

-- The commands that become world inputs. A handler that fails leaves the queue.
def queued (services : Services F σ) (handled : Except String (WorldInputQueue F)) :
    Services F σ × CommandDispatchResult :=
  match handled with
  | .error e => (services, rejected e)
  | .ok queue => ({ services with inputQueue := queue }, { accepted := true })

def admitted (services : Services F σ) (command : NetworkCommand) (commandName limitName : String)
    (handle : Services F σ → Services F σ × CommandDispatchResult) :
    Services F σ × CommandDispatchResult :=
  if services.registry.isActive command.sessionId.toInt = false then
    (services, rejected (commandName ++ " requires an active session"))
  else match services.rateLimiter.allow command.sessionId.toInt command.type with
    | (limiter, false) =>
      ({ services with rateLimiter := limiter }, rejected (limitName ++ " rate limit exceeded"))
    | (limiter, true) => handle { services with rateLimiter := limiter }

def dispatch (ports : ServerPorts F σ) (services : Services F σ) (command : NetworkCommand) :
    Services F σ × CommandDispatchResult :=
  match command.type with
  | .login => dispatchLogin ports services command
  | .chat => admitted services command "chat" "chat command" (fun services =>
      queued services (handleChat services.inputQueue command))
  | .attack => admitted services command "combat" "combat command" (fun services =>
      queued services (handleCombat services.inputQueue command))
  | .castSpell => admitted services command "combat" "combat command" (fun services =>
      queued services (handleCombat services.inputQueue command))
  | .move => admitted services command "movement" "movement command" (fun services =>
      queued services (handleMove services.inputQueue command))
  | .requestSnapshot => admitted services command "snapshot request" "snapshot request"
      (fun services => ({ services with snapshotRequests := services.snapshotRequests + 1 },
        { accepted := true }))
  | .disconnect => admitted services command "disconnect" "disconnect command" (fun services =>
      let (left, ended) := handleDisconnect services command
      if ended.accepted then
        ({ left with rateLimiter := left.rateLimiter.forgetSession command.sessionId.toInt }, ended)
      else (left, ended))
  | .unknown _ => (services, rejected "command handler is not implemented")

end

end SeedOrigin.CommandDispatch
