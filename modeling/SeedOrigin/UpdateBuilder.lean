import SeedOrigin.Inputs
import SeedOrigin.UpdateWire

/-! WorldFrameUpdateBuilder, which numbers the updates of a frame and writes their
payloads, and the copy of an update that one recipient is sent. -/
namespace SeedOrigin.UpdateBuilder
open SeedOrigin.Octets SeedOrigin.Numbers SeedOrigin.Decimal SeedOrigin.UpdateWire
open SeedOrigin.ClientInput SeedOrigin.Inputs
open FloatOps (lit le isFinite)

structure WorldFrameUpdateBuilder where
  updateSequence : UInt64 := 1
  eventId : UInt64 := 1
  deriving DecidableEq, Repr

structure CombatResolution (F : Type) where
  spell : Bool
  inputSequence : UInt64
  actorId : Int
  targetId : Int
  element : Bytes
  requestId : Bytes
  basePower : F
  effectivePower : F
  damage : Int
  remainingHp : Int
  mpSpent : Int
  cooldownUntil : UInt64
  etherDelta : F × F × F × F
  deriving DecidableEq

abbrev Built := WorldFrameUpdateBuilder × List WorldUpdate × Except String Unit

-- A number is consumed even when the event it was given to is refused.
def appendEvent (builder : WorldFrameUpdateBuilder) (worldTick : UInt64) (payload : Bytes)
    (updates : List WorldUpdate) : Built :=
  if builder.updateSequence = maxUint64 ∨ builder.eventId = maxUint64 then
    (builder, [], .error "world update identity exhausted")
  else
    let update : WorldUpdate :=
      { version := currentProtocolVersion
        kind := .event
        worldTick := worldTick
        sequence := builder.updateSequence
        eventId := builder.eventId
        payload := payload }
    let next : WorldFrameUpdateBuilder := ⟨builder.updateSequence + 1, builder.eventId + 1⟩
    match validateWorldUpdate update with
    | .error e => (next, [], .error e)
    | .ok _ => (next, updates ++ [update], .ok ())

def appendSnapshot (builder : WorldFrameUpdateBuilder) (worldTick : UInt64) (payload : Bytes)
    (updates : List WorldUpdate) : Built :=
  if builder.updateSequence = maxUint64 then
    (builder, updates, .error "world update identity exhausted")
  else
    let update : WorldUpdate :=
      { version := currentProtocolVersion
        kind := .snapshot
        worldTick := worldTick
        sequence := builder.updateSequence
        eventId := 0
        payload := payload }
    let next := { builder with updateSequence := builder.updateSequence + 1 }
    match validateWorldUpdate update with
    | .error e => (next, updates, .error e)
    | .ok _ => (next, updates ++ [update], .ok ())

def andThen (built : Built) (next : WorldFrameUpdateBuilder → List WorldUpdate → Built) : Built :=
  match built with
  | (builder, updates, .error e) => (builder, updates, .error e)
  | (builder, updates, .ok _) => next builder updates

def appendAll {α : Type} (append : WorldFrameUpdateBuilder → α → List WorldUpdate → Built) :
    WorldFrameUpdateBuilder → List α → List WorldUpdate → Built
  | builder, [], updates => (builder, updates, .ok ())
  | builder, x :: xs, updates => andThen (append builder x updates) (fun builder updates =>
      appendAll append builder xs updates)

structure QueuedAction where
  sequence : UInt64
  action : Action
  deriving DecidableEq, Repr

structure FrameActions where
  worldTick : UInt64
  actions : List QueuedAction

def actionPayload (queued : QueuedAction) : Bytes :=
  ascii "action=" ++ intText queued.action.actionType ++ ascii ";actionSequence=" ++
    uint64Text queued.sequence

-- The other build, from the actions of a ServerTick.
def buildActions (builder : WorldFrameUpdateBuilder) (frame : FrameActions) : Built :=
  if frame.actions.length > maxUpdatePayload then
    (builder, [], .error "world frame contains too many actions")
  else if frame.actions.length ≥ (maxUint64 - builder.updateSequence).toNat ∨
      frame.actions.length ≥ (maxUint64 - builder.eventId).toNat then
    (builder, [], .error "world update identity exhausted")
  else appendAll (fun builder queued updates =>
    appendEvent builder frame.worldTick (actionPayload queued) updates) builder frame.actions []

section
variable {F : Type} [FloatOps F]

def inputText : WorldInputBody F → Bytes
  | .action action => ascii "action=" ++ intText action.actionType
  | .movement movement =>
    ascii "movement=session:" ++ intText movement.sessionId ++
      ascii ";dx=" ++ FloatOps.text movement.dx ++ ascii ";dy=" ++ FloatOps.text movement.dy ++
      ascii ";dz=" ++ FloatOps.text movement.dz ++
      ascii ";clientInputSequence=" ++ uint64Text movement.clientInputSequence
  | .combat combat =>
    ascii "combat=attacker:" ++ intText combat.attackerId ++
      ascii ";target:" ++ intText combat.targetId ++ ascii ";power:" ++ FloatOps.text combat.power ++
      ascii ";requestId:" ++ combat.requestId
  | .spell spell =>
    ascii "spell=caster:" ++ intText spell.casterId ++
      ascii ";target:" ++ intText spell.targetId ++ ascii ";element:" ++ spell.element ++
      ascii ";power:" ++ FloatOps.text spell.power ++ ascii ";requestId:" ++ spell.requestId
  | .chat chat =>
    ascii "chat=sender:" ++ intText chat.senderId ++ ascii ";audience:" ++ chat.audience ++
      ascii ";message:" ++ chat.message

def inputPayload (input : WorldInput F) : Bytes :=
  inputText input.body ++ ascii ";inputSequence=" ++ uint64Text input.sequence

def build (builder : WorldFrameUpdateBuilder) (frame : WorldFrameInputs F) : Built :=
  if frame.inputs.length > maxUpdatePayload then
    (builder, [], .error "world frame contains too many inputs")
  else appendAll (fun builder input updates =>
    appendEvent builder frame.worldTick (inputPayload input) updates) builder frame.inputs []

def hazardPayload (severity instability : F) : Bytes :=
  ascii "etherHazard=severity:" ++ FloatOps.text severity ++
    ascii ";instability:" ++ FloatOps.text instability

def appendHazard (builder : WorldFrameUpdateBuilder) (worldTick : UInt64) (severity instability : F)
    (updates : List WorldUpdate) : Built :=
  if isFinite severity = false ∨ isFinite instability = false ∨ le severity (lit 0) ∨
      le instability (lit 1) then
    (builder, updates, .error "world hazard is invalid")
  else appendEvent builder worldTick (hazardPayload severity instability) updates

def resolutionPayload (r : CombatResolution F) : Bytes :=
  let (fire, water, earth, air) := r.etherDelta
  if r.spell = false then
    ascii "combatResult=attacker:" ++ intText r.actorId ++ ascii ";target:" ++ intText r.targetId ++
      ascii ";damage:" ++ intText r.damage ++ ascii ";remainingHp:" ++ intText r.remainingHp ++
      ascii ";mpSpent:" ++ intText r.mpSpent ++
      ascii ";cooldownUntil:" ++ uint64Text r.cooldownUntil ++ ascii ";requestId:" ++ r.requestId ++
      ascii ";inputSequence:" ++ uint64Text r.inputSequence
  else
    ascii "spellResult=caster:" ++ intText r.actorId ++ ascii ";target:" ++ intText r.targetId ++
      ascii ";element:" ++ r.element ++ ascii ";basePower:" ++ FloatOps.text r.basePower ++
      ascii ";effectivePower:" ++ FloatOps.text r.effectivePower ++
      ascii ";damage:" ++ intText r.damage ++ ascii ";remainingHp:" ++ intText r.remainingHp ++
      ascii ";mpSpent:" ++ intText r.mpSpent ++
      ascii ";cooldownUntil:" ++ uint64Text r.cooldownUntil ++ ascii ";requestId:" ++ r.requestId ++
      ascii ";etherDelta:fire=" ++ FloatOps.text fire ++ ascii ",water=" ++ FloatOps.text water ++
      ascii ",earth=" ++ FloatOps.text earth ++ ascii ",air=" ++ FloatOps.text air ++
      ascii ";inputSequence:" ++ uint64Text r.inputSequence

def appendCombatResolution (builder : WorldFrameUpdateBuilder) (worldTick : UInt64)
    (resolution : CombatResolution F) (updates : List WorldUpdate) : Built :=
  appendEvent builder worldTick (resolutionPayload resolution) updates

def attach (update : WorldUpdate) (extra : Bytes) : Except String WorldUpdate := do
  let longer := { update with payload := update.payload ++ extra }
  validateWorldUpdate longer
  return longer

def attachOwnerAckFields (update : WorldUpdate) (ack : MovementAck F) : Except String WorldUpdate := do
  let _ ← formatMovementAck ack
  attach update (ascii ";x:" ++ FloatOps.text ack.x ++ ascii ";y:" ++ FloatOps.text ack.y ++
    ascii ";z:" ++ FloatOps.text ack.z ++ ascii ";worldTick:" ++ uint64Text ack.worldTick ++
    ascii ";lastProcessedInputSequence:" ++ uint64Text ack.lastProcessedInputSequence)

def attachPublicPoseFields (update : WorldUpdate) (ack : MovementAck F) : Except String WorldUpdate :=
  if ack.finite = false then .error "public movement pose contains invalid state"
  else attach update (ascii ";x=" ++ FloatOps.text ack.x ++ ascii ";y=" ++ FloatOps.text ack.y ++
    ascii ";z=" ++ FloatOps.text ack.z)

def attachLocalSnapshotFields (update : WorldUpdate) (ack : MovementAck F) :
    Except String WorldUpdate :=
  if ack.finite = false then .error "snapshot local pose contains invalid state"
  else attach update (ascii ";local.x=" ++ FloatOps.text ack.x ++
    ascii ";local.y=" ++ FloatOps.text ack.y ++ ascii ";local.z=" ++ FloatOps.text ack.z ++
    ascii ";local.lastProcessedInputSequence=" ++ uint64Text ack.lastProcessedInputSequence)

def findOwnerAck (ownerAcks : List (MovementAck F)) (sessionId : Int) : Option (MovementAck F) :=
  ownerAcks.find? (fun ack => ack.sessionId == sessionId)

def copyWorldUpdateForSession (publicUpdate : WorldUpdate) (recipientSessionId : Int)
    (ownerAcks : List (MovementAck F)) : Except String WorldUpdate :=
  if publicUpdate.kind = .snapshot then
    match findOwnerAck ownerAcks recipientSessionId with
    | none => .ok publicUpdate
    | some ack => attachLocalSnapshotFields publicUpdate ack
  else match parseMovementEventSession publicUpdate.payload with
    | none => .ok publicUpdate
    | some movementSession => match findOwnerAck ownerAcks movementSession with
      | none => .ok publicUpdate
      | some ack =>
        if movementSession = recipientSessionId then attachOwnerAckFields publicUpdate ack
        else attachPublicPoseFields publicUpdate ack

end

end SeedOrigin.UpdateBuilder
