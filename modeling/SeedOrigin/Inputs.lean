import SeedOrigin.ClientInput

/-! WorldInputQueue: the inputs of one frame, numbered as they are accepted. Of
an Action's two players only the ids are read, and a MovementIntent's own
sequence is always zero here. -/
namespace SeedOrigin.Inputs
open SeedOrigin.Octets SeedOrigin.Numbers SeedOrigin.Decimal SeedOrigin.Character
open SeedOrigin.ClientInput
open FloatOps (lit le isFinite)

def maxPendingInputs : Nat := 8192
def maxUint64 : UInt64 := UInt64.ofNat (2 ^ 64 - 1)

structure Action where
  actionType : Int
  playerFrom : Option Int
  playerTo : Option Int
  status : Status
  deriving DecidableEq, Repr

def Action.isValid (action : Action) : Bool :=
  action.actionType = 0 ∨
    (action.actionType = 1 ∧ action.playerFrom.isSome ∧ action.playerTo.isSome) ∨
    ((action.actionType = 2 ∨ action.actionType = 3) ∧ action.playerFrom.isSome)

structure MovementIntent (F : Type) where
  sessionId : Int
  dx : F
  dy : F
  dz : F
  clientInputSequence : UInt64
  deriving DecidableEq

structure CombatIntent (F : Type) where
  attackerId : Int
  targetId : Int
  power : F
  requestId : Bytes
  deriving DecidableEq

structure SpellIntent (F : Type) where
  casterId : Int
  targetId : Int
  element : Bytes
  power : F
  requestId : Bytes
  deriving DecidableEq

structure ChatIntent where
  senderId : Int
  audience : Bytes
  message : Bytes
  deriving DecidableEq

inductive WorldInputBody (F : Type) where
  | action (action : Action)
  | movement (movement : MovementIntent F)
  | combat (combat : CombatIntent F)
  | spell (spell : SpellIntent F)
  | chat (chat : ChatIntent)
  deriving DecidableEq

structure WorldInput (F : Type) where
  sequence : UInt64
  body : WorldInputBody F
  deriving DecidableEq

-- acceptedCombatRequests is a set: only membership is ever asked.
structure WorldInputQueue (F : Type) where
  pending : List (WorldInput F) := []
  acceptedCombatRequests : List Bytes := []
  nextSequence : UInt64 := 1
  inputSequenceTracker : ClientInputSequenceTracker := {}
  deriving DecidableEq

structure WorldFrameInputs (F : Type) where
  worldTick : UInt64
  inputs : List (WorldInput F)

inductive MovementEnqueueResult where
  | enqueued | ignoredStale | rejected
  deriving DecidableEq, Repr

def isAlnum (b : UInt8) : Bool := isDigit b ∨ 65 ≤ b ∧ b ≤ 90 ∨ 97 ≤ b ∧ b ≤ 122

def isIdentifierByte (b : UInt8) : Bool := isAlnum b ∨ b = 95 ∨ b = 45

def isValidRequestId (requestId : Bytes) : Bool :=
  requestId ≠ [] ∧ requestId.length ≤ 64 ∧ requestId.all isIdentifierByte

def requestKey (actorId : Int) (requestId : Bytes) : Bytes := intText actorId ++ 58 :: requestId

section
variable {F : Type}

def WorldInputQueue.push (queue : WorldInputQueue F) (body : WorldInputBody F) :
    Option (WorldInputQueue F) :=
  if queue.pending.length ≥ maxPendingInputs ∨ queue.nextSequence = maxUint64 then none
  else some { queue with
    pending := queue.pending ++ [⟨queue.nextSequence, body⟩]
    nextSequence := queue.nextSequence + 1 }

-- A request id is optional, but it is used once per actor.
def WorldInputQueue.pushRequest (queue : WorldInputQueue F) (actorId : Int) (requestId : Bytes)
    (body : WorldInputBody F) : Option (WorldInputQueue F) := do
  let pushed ← queue.push body
  if requestId = [] then return pushed
  if isValidRequestId requestId = false ∨
      requestKey actorId requestId ∈ queue.acceptedCombatRequests then none
  return { pushed with
    acceptedCombatRequests := requestKey actorId requestId :: queue.acceptedCombatRequests }

def WorldInputQueue.enqueueAction (queue : WorldInputQueue F) (action : Action) :
    Option (WorldInputQueue F) :=
  if action.isValid = false then none else queue.push (.action action)

def WorldInputQueue.enqueueChat (queue : WorldInputQueue F) (senderId : Int)
    (audience message : Bytes) : Option (WorldInputQueue F) :=
  if senderId ≤ 0 ∨ audience = [] ∨ audience.length > 16 ∨ message = [] ∨ message.length > 512 then
    none
  else if audience.all isIdentifierByte = false then none
  else if message.any (fun b => b < 0x20 || b == 0x7f) then none
  else queue.push (.chat ⟨senderId, audience, message⟩)

def WorldInputQueue.takeFrame (queue : WorldInputQueue F) : WorldInputQueue F × List (WorldInput F) :=
  ({ queue with pending := [] }, queue.pending)

variable [FloatOps F]

def WorldInputQueue.enqueueSequencedMovement (queue : WorldInputQueue F) (sessionId : Int)
    (dx dy dz : F) (clientInputSequence : UInt64) : WorldInputQueue F × MovementEnqueueResult :=
  if sessionId ≤ 0 ∨ isValidMovementDelta dx dy dz = false then (queue, .rejected)
  else
    let admission :=
      if clientInputSequence = 0 then ClientInputAdmission.accept
      else queue.inputSequenceTracker.admit sessionId clientInputSequence
    match admission with
    | .ignoreStale => (queue, .ignoredStale)
    | .rejectTooFarAhead => (queue, .rejected)
    | .rejectInvalid => (queue, .rejected)
    | .accept => match queue.push (.movement ⟨sessionId, dx, dy, dz, clientInputSequence⟩) with
      | none => (queue, .rejected)
      | some pushed =>
        let tracker :=
          if clientInputSequence = 0 then pushed.inputSequenceTracker
          else pushed.inputSequenceTracker.noteAccepted sessionId clientInputSequence
        ({ pushed with inputSequenceTracker := tracker }, .enqueued)

def WorldInputQueue.enqueueCombat (queue : WorldInputQueue F) (attackerId targetId : Int) (power : F)
    (requestId : Bytes) : Option (WorldInputQueue F) :=
  if attackerId ≤ 0 ∨ targetId ≤ 0 ∨ isFinite power = false ∨ le power (lit 0) then none
  else queue.pushRequest attackerId requestId (.combat ⟨attackerId, targetId, power, requestId⟩)

def WorldInputQueue.enqueueSpell (queue : WorldInputQueue F) (casterId targetId : Int)
    (element : Bytes) (power : F) (requestId : Bytes) : Option (WorldInputQueue F) :=
  if casterId ≤ 0 ∨ targetId ≤ 0 ∨ element = [] ∨ element.length > 32 ∨ isFinite power = false ∨
      le power (lit 0) then none
  else if element.all isIdentifierByte = false then none
  else queue.pushRequest casterId requestId (.spell ⟨casterId, targetId, element, power, requestId⟩)

end

end SeedOrigin.Inputs
