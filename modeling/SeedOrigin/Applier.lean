import SeedOrigin.FieldInputs

/-! WorldFrameApplier: a frame of world inputs is checked, numbered and applied to
the field, and a public snapshot is captured when somebody needs one. The overload
for the older frame path is left out. -/
namespace SeedOrigin.Applier
open SeedOrigin.Octets SeedOrigin.Numbers SeedOrigin.Decimal SeedOrigin.Character
open SeedOrigin.ClientInput SeedOrigin.Ether SeedOrigin.Inputs SeedOrigin.UpdateWire
open SeedOrigin.UpdateBuilder
open FloatOps (lit lt le isFinite)

structure NpcSnapshot (F : Type) where
  id : Int
  type : Bytes
  x : F
  y : F
  z : F
  hp : Int
  alive : Bool
  deriving DecidableEq

-- The field itself is passed beside the applier.
structure WorldFrameApplier (F : Type) where
  updateBuilder : WorldFrameUpdateBuilder := {}
  ownerAcks : List (MovementAck F) := []
  snapshotAcks : List (MovementAck F) := []
  lastProcessedBySession : IntMap UInt64 := ∅
  deriving DecidableEq

structure Applied (F : Type) where
  applier : WorldFrameApplier F
  field : Field F
  updates : List WorldUpdate
  outcome : Except String Unit

structure Captured (F : Type) where
  applier : WorldFrameApplier F
  updates : List WorldUpdate
  publishAcks : List (MovementAck F)
  outcome : Except String Unit

section
variable {F : Type}

def publicNpcSnapshots (field : Field F) : List (NpcSnapshot F) :=
  field.npcList.toList.filterMap (fun entry =>
    let npc := entry.2
    if npc.isAlive = false then none
    else some ⟨npc.id, npc.type, npc.position.x, npc.position.y, npc.position.z, npc.status.hp, true⟩)

def lastProcessed (inputs : List (WorldInput F)) : IntMap UInt64 :=
  inputs.foldl (fun last input => match input.body with
    | .movement movement =>
      let previous := last.getD movement.sessionId 0
      last.insert movement.sessionId
        (if movement.clientInputSequence > previous then movement.clientInputSequence else previous)
    | _ => last) ∅

def recordOwnerAck (field : Field F) (worldTick : UInt64) (applier : WorldFrameApplier F)
    (entry : Int × UInt64) : WorldFrameApplier F :=
  let (sessionId, lastProcessed) := entry
  match field.findPlayer sessionId with
  | none => applier
  | some player =>
    let pose := player.position
    { applier with
      ownerAcks := applier.ownerAcks ++ [⟨sessionId, pose.x, pose.y, pose.z, worldTick, lastProcessed⟩]
      lastProcessedBySession :=
        if lastProcessed > applier.lastProcessedBySession.getD sessionId 0 then
          applier.lastProcessedBySession.insert sessionId lastProcessed
        else applier.lastProcessedBySession }

def snapshotAck (applier : WorldFrameApplier F) (worldTick : UInt64) (pose : PlayerPoseSnapshot F) :
    MovementAck F :=
  ⟨pose.sessionId, pose.x, pose.y, pose.z, worldTick,
    applier.lastProcessedBySession.getD pose.sessionId 0⟩

variable [FloatOps F]

def checkInput (field : Field F) : WorldInputBody F → Except String Unit
  | .action action =>
    if action.isValid = false then .error "world input contains an invalid action" else .ok ()
  | .movement movement =>
    if field.hasPlayer movement.sessionId = false then
      .error "world input movement session is not present in the field"
    else .ok ()
  | .combat combat =>
    if combat.attackerId ≤ 0 ∨ combat.targetId ≤ 0 ∨ isFinite combat.power = false ∨
        le combat.power (lit 0) then
      .error "world input combat intent is invalid"
    else .ok ()
  | .spell spell =>
    if spell.casterId ≤ 0 ∨ spell.targetId ≤ 0 ∨ spell.element = [] ∨ spell.element.length > 32 ∨
        isFinite spell.power = false ∨ le spell.power (lit 0) then
      .error "world input spell intent is invalid"
    else .ok ()
  | .chat chat =>
    if chat.senderId ≤ 0 ∨ chat.audience = [] ∨ chat.message = [] then
      .error "world input chat intent is invalid"
    else .ok ()

def checkInputs (field : Field F) (inputs : List (WorldInput F)) : Except String Unit :=
  inputs.forM (fun input => checkInput field input.body)

def appendResolutions (worldTick : UInt64) (builder : WorldFrameUpdateBuilder)
    (resolutions : List (CombatResolution F)) (updates : List WorldUpdate) : Built :=
  appendAll (fun builder resolution updates =>
    appendCombatResolution builder worldTick resolution updates) builder resolutions updates

def appendFrameHazard (worldTick : UInt64) (builder : WorldFrameUpdateBuilder) (field : Field F)
    (updates : List WorldUpdate) : Built :=
  if hasAdverseEffect field.fieldEther then
    appendHazard builder worldTick field.lastEtherHazard (instability field.fieldEther) updates
  else (builder, updates, .ok ())

def appendEffects (worldTick : UInt64) (builder : WorldFrameUpdateBuilder) (field : Field F)
    (resolutions : List (CombatResolution F)) (updates : List WorldUpdate) : Built :=
  andThen (appendResolutions worldTick builder resolutions updates) (fun builder updates =>
    appendFrameHazard worldTick builder field updates)

def apply (applier : WorldFrameApplier F) (field : Field F) (frame : WorldFrameInputs F) : Applied F :=
  let cleared := { applier with ownerAcks := [] }
  match checkInputs field frame.inputs with
  | .error e => ⟨cleared, field, [], .error e⟩
  | .ok _ => match build applier.updateBuilder frame with
    | (builder, updates, .error e) => ⟨{ cleared with updateBuilder := builder }, field, updates, .error e⟩
    | (builder, updates, .ok _) => match field.processInputs frame.inputs frame.worldTick with
      | (field, none) =>
        ⟨{ cleared with updateBuilder := builder }, field, [],
          .error "world input could not be applied in the field"⟩
      | (field, some resolutions) =>
        let acknowledged := (lastProcessed frame.inputs).toList.foldl
          (recordOwnerAck field frame.worldTick) cleared
        match appendEffects frame.worldTick builder field resolutions updates with
        | (builder, _, .error e) =>
          ⟨{ acknowledged with updateBuilder := builder, ownerAcks := [] }, field, [], .error e⟩
        | (builder, updates, .ok _) =>
          ⟨{ acknowledged with updateBuilder := builder }, field, updates, .ok ()⟩

def npcText (index : Nat) (npc : NpcSnapshot F) : Except String Bytes :=
  if npc.id ≤ 0 ∨ npc.type = [] ∨ npc.type.length > 32 ∨ isFinite npc.x = false ∨
      isFinite npc.y = false ∨ isFinite npc.z = false ∨ npc.hp < 0 ∨ npc.alive = false then
    .error "public NPC snapshot contains invalid state"
  else
    let name := ascii ";npc." ++ natText index
    .ok (name ++ ascii ".id=" ++ intText npc.id ++ name ++ ascii ".type=" ++ npc.type ++
      name ++ ascii ".x=" ++ FloatOps.text npc.x ++ name ++ ascii ".y=" ++ FloatOps.text npc.y ++
      name ++ ascii ".z=" ++ FloatOps.text npc.z ++ name ++ ascii ".hp=" ++ intText npc.hp ++
      name ++ ascii ".alive=1")

def playerText (index : Nat) (player : PlayerPoseSnapshot F) : Except String Bytes :=
  if player.sessionId ≤ 0 ∨ isFinite player.x = false ∨ isFinite player.y = false ∨
      isFinite player.z = false ∨ trimPlayerName player.name = [] ∨ 59 ∈ player.name ∨
      61 ∈ player.name then
    .error "public player snapshot contains invalid state"
  else
    let name := ascii ";player." ++ natText index
    .ok (name ++ ascii ".session=" ++ intText player.sessionId ++
      name ++ ascii ".x=" ++ FloatOps.text player.x ++ name ++ ascii ".y=" ++ FloatOps.text player.y ++
      name ++ ascii ".z=" ++ FloatOps.text player.z ++
      (if player.gameplayId > 0 then name ++ ascii ".id=" ++ intText player.gameplayId else []) ++
      name ++ ascii ".name=" ++ player.name)

def formatPayload (ether : EnvironmentEther F) (hazard : F) (npcs : List (NpcSnapshot F))
    (players : List (PlayerPoseSnapshot F)) : Except String Bytes :=
  if isFinite hazard = false ∨ lt hazard (lit 0) then .error "snapshot hazard is invalid"
  else do
    let npcTexts ← npcs.zipIdx.mapM (fun entry => npcText entry.2 entry.1)
    let playerTexts ← players.zipIdx.mapM (fun entry => playerText entry.2 entry.1)
    return ascii "ether.fire=" ++ FloatOps.text ether.fire ++
      ascii ";ether.water=" ++ FloatOps.text ether.water ++
      ascii ";ether.earth=" ++ FloatOps.text ether.earth ++
      ascii ";ether.air=" ++ FloatOps.text ether.air ++ ascii ";ether.hazard=" ++ FloatOps.text hazard ++
      ascii ";npc.count=" ++ natText npcs.length ++ npcTexts.flatten ++
      ascii ";player.count=" ++ natText players.length ++ playerTexts.flatten

def snapshotPayload (field : Field F) : Except String Bytes :=
  formatPayload field.fieldEther field.lastEtherHazard (publicNpcSnapshots field) field.publicPlayerPoses

def capturePublicSnapshot (applier : WorldFrameApplier F) (field : Field F) (worldTick : UInt64)
    (updates : List WorldUpdate) : WorldFrameApplier F × List WorldUpdate × Except String Unit :=
  let cleared := { applier with snapshotAcks := [] }
  match snapshotPayload field with
  | .error e => (cleared, updates, .error e)
  | .ok payload => match appendSnapshot applier.updateBuilder worldTick payload updates with
    | (builder, updates, .error e) => ({ cleared with updateBuilder := builder }, updates, .error e)
    | (builder, updates, .ok _) =>
      ({ cleared with
          updateBuilder := builder
          snapshotAcks := field.publicPlayerPoses.map (snapshotAck applier worldTick) },
        updates, .ok ())

def capturePublicSnapshotIfNewSessions (applier : WorldFrameApplier F) (field : Field F)
    (newAuthenticatedSessions : Nat) (worldTick : UInt64) (updates : List WorldUpdate)
    (publishAcks : List (MovementAck F)) : Captured F :=
  if newAuthenticatedSessions = 0 then ⟨applier, updates, publishAcks, .ok ()⟩
  else match capturePublicSnapshot applier field worldTick updates with
    | (applier, updates, .error e) => ⟨applier, updates, publishAcks, .error e⟩
    | (applier, updates, .ok _) => ⟨applier, updates, applier.snapshotAcks, .ok ()⟩

end

end SeedOrigin.Applier
