import SeedOrigin.FieldInputs
import SeedOrigin.Presence

/-! The calls that fill the field beside the inputs of a frame: NPCs, the queues
and respawns of the older frame path, and the names an operator gives. -/
namespace SeedOrigin
open SeedOrigin.Octets SeedOrigin.Numbers SeedOrigin.Character SeedOrigin.Inputs
open SeedOrigin.Presence

section
variable {F : Type}

def Field.putNpc (field : Field F) (npc : Npc F) : Option (Field F) :=
  if npc.id ≤ 0 ∨ field.hasPlayer npc.id ∨ (field.findNpc npc.id).isSome then none
  else some { field with npcList := field.npcList.insert npc.id npc }

def Field.putActionQueue (field : Field F) (action : Action) : Field F :=
  { field with actionQueue := field.actionQueue ++ [action] }

-- A queued position moves the player of its id, else the living NPC.
def Field.movePosition (field : Field F) (next : Position F) : Field F :=
  match field.playerList[next.playerId]? with
  | some player =>
    { field with playerList := field.playerList.insert next.playerId (player.setPosition next) }
  | none => match field.npcList[next.playerId]? with
    | none => field
    | some npc =>
      if npc.isAlive = false then field
      else { field with npcList := field.npcList.insert next.playerId (npc.setPosition next) }

def Field.respawnDue (worldTick : UInt64) (field : Field F) (entry : Int × NpcRespawnState F) : Field F :=
  if entry.2.respawnTick > worldTick then field
  else
    let erased := { field with npcRespawns := field.npcRespawns.erase entry.1 }
    match field.findNpc entry.1 with
    | none => erased
    | some npc =>
      if npc.isAlive then erased
      else match npc.respawn entry.2.status entry.2.position with
        | none => erased
        | some npc => { erased with npcList := erased.npcList.insert entry.1 npc }

def Field.takePositions (field : Field F) : Field F :=
  { field.positionQueue.foldl Field.movePosition field with positionQueue := [] }

-- The branch over the type of a queued action is that of applyAction.
def Field.takeActions (field : Field F) : Field F :=
  { field.actionQueue.foldl Field.applyAction field with actionQueue := [] }

def Field.takeRespawns (field : Field F) (worldTick : UInt64) : Field F :=
  field.npcRespawns.toList.foldl (Field.respawnDue worldTick) field

def Field.processFrame (field : Field F) (worldTick : UInt64) : Field F :=
  field.takePositions.takeActions.takeRespawns worldTick

variable [FloatOps F]

def Field.queueMovement (field : Field F) (playerId : Int) (dx dy dz : F) : Option (Field F) := do
  let player ← field.findPlayer playerId
  let next ← integrateMovement player.position dx dy dz
  return { field with positionQueue := field.positionQueue ++ [next] }

def Field.queueNpcMovement (field : Field F) (npcId : Int) (dx dy dz : F) : Option (Field F) := do
  let npc ← field.findNpc npcId
  if npc.isAlive = false then none
  let next ← integrateMovement npc.position dx dy dz
  return { field with positionQueue := field.positionQueue ++ [next] }

def Field.scheduleNpcRespawn (field : Field F) (npcId : Int) (respawnTick : UInt64) (status : Status)
    (position : Position F) : Option (Field F) :=
  match field.findNpc npcId with
  | none => none
  | some npc =>
    if npc.isAlive ∨ respawnTick = 0 ∨ status.hp ≤ 0 ∨ insideWorld position.x = false ∨
        insideWorld position.y = false ∨ insideWorld position.z = false ∨
        field.npcRespawns.contains npcId then none
    else some { field with
      npcRespawns := field.npcRespawns.insert npcId ⟨status, position, respawnTick⟩ }

end

end SeedOrigin

namespace SeedOrigin.FieldCalls
open SeedOrigin.Octets SeedOrigin.Numbers SeedOrigin.Character SeedOrigin.Inputs
open SeedOrigin.Presence

section
variable {F : Type} {field after : Field F}

theorem npcPut {npc : Npc F} (h : field.putNpc npc = some after) :
    0 < npc.id ∧ field.hasPlayer npc.id = false ∧ field.findNpc npc.id = none ∧
      after = { field with npcList := field.npcList.insert npc.id npc } := by
  unfold Field.putNpc at h
  split at h
  · contradiction
  · rename_i admitted
    simp only [not_or, not_le, Bool.not_eq_true, Option.isSome_eq_false_iff, Option.isNone_iff_eq_none] at admitted
    exact ⟨admitted.1, admitted.2.1, admitted.2.2, (Option.some.inj h).symm⟩

section
variable [FloatOps F]

theorem movementQueued {playerId : Int} {dx dy dz : F} (h : field.queueMovement playerId dx dy dz = some after) :
    ∃ player next, field.findPlayer playerId = some player ∧
      integrateMovement player.position dx dy dz = some next ∧
      after = { field with positionQueue := field.positionQueue ++ [next] } := by
  simp only [Field.queueMovement, bind, Option.bind_eq_some_iff, pure, Option.some.injEq] at h
  obtain ⟨player, found, next, moved, rfl⟩ := h
  exact ⟨player, next, found, moved, rfl⟩

theorem npcMovementQueued {npcId : Int} {dx dy dz : F} (h : field.queueNpcMovement npcId dx dy dz = some after) :
    ∃ npc next, field.findNpc npcId = some npc ∧ npc.isAlive = true ∧
      integrateMovement npc.position dx dy dz = some next ∧
      after = { field with positionQueue := field.positionQueue ++ [next] } := by
  simp only [Field.queueNpcMovement, bind, Option.bind_eq_some_iff, pure] at h
  obtain ⟨npc, found, h⟩ := h
  split at h
  · contradiction
  · rename_i alive
    simp only [Option.bind_eq_some_iff, Option.some.injEq] at h
    obtain ⟨next, moved, rfl⟩ := h
    exact ⟨npc, next, found, by simpa using alive, moved, rfl⟩

structure Scheduled (field : Field F) (npcId : Int) (status : Status) (position : Position F)
    (npc : Npc F) : Prop where
  found : field.findNpc npcId = some npc
  dead : npc.isAlive = false
  lives : 0 < status.hp
  x : insideWorld position.x = true
  y : insideWorld position.y = true
  z : insideWorld position.z = true

theorem respawnScheduled {npcId : Int} {respawnTick : UInt64} {status : Status} {position : Position F}
    (h : field.scheduleNpcRespawn npcId respawnTick status position = some after) :
    ∃ npc, Scheduled field npcId status position npc ∧
      after = { field with npcRespawns := field.npcRespawns.insert npcId ⟨status, position, respawnTick⟩ } := by
  unfold Field.scheduleNpcRespawn at h
  split at h
  · contradiction
  · rename_i npc found
    split at h
    · contradiction
    · rename_i admitted
      simp only [not_or, not_le, Bool.not_eq_true, Bool.not_eq_false] at admitted
      obtain ⟨dead, -, lives, x, y, z, -⟩ := admitted
      exact ⟨npc, ⟨found, dead, lives, x, y, z⟩, (Option.some.inj h).symm⟩

end

def nameTakenOnFieldByOther (field : Field F) (trimmedName : Bytes) (existing : Option (Player F)) : Bool :=
  match existing with
  | none => field.hasPlayerName trimmedName
  | some player => player.getPlayerName != trimmedName && field.hasPlayerName trimmedName

-- The name is set in place, on the entry that findPlayerByAuthId returns.
def renamePlayer (field : Field F) (authPlayerId : Int) (name : Bytes) : Option (Field F) :=
  match field.playerList.toList.find? (fun entry => entry.2.authPlayerId == authPlayerId) with
  | none => some field
  | some (key, player) => (player.setPlayerName name).map (fun renamed =>
      { field with playerList := field.playerList.insert key renamed })

theorem renameFound {auth : Int} {name : Bytes} (h : renamePlayer field auth name = some after) :
    (after = field ∧ field.playerList.toList.find? (fun entry => entry.2.authPlayerId == auth) = none) ∨
    ∃ key player, field.playerList.toList.find? (fun entry => entry.2.authPlayerId == auth) =
        some (key, player) ∧ field.playerList[key]? = some player ∧ acceptsName name = true ∧
      after = { field with
        playerList := field.playerList.insert key { player with name := trimPlayerName name } } := by
  unfold renamePlayer at h
  split at h
  · rename_i absent
    exact .inl ⟨(Option.some.inj h).symm, absent⟩
  · rename_i key player found
    obtain ⟨renamed, made, rfl⟩ := Option.map_eq_some_iff.mp h
    obtain ⟨accepted, rfl⟩ := Player.nameSet made
    have there := Std.ExtTreeMap.mem_toList_iff_getElem?_eq_some.mp (List.mem_of_find?_eq_some found)
    exact .inr ⟨key, player, found, there, accepted, rfl⟩

def operatorSetPlayerName (presence : FieldSessionPresence F) (authPlayerId : Int) (displayName : Bytes) :
    FieldSessionPresence F × Bool :=
  let trimmed := trimPlayerName displayName
  if authPlayerId ≤ 0 then (presence, false)
  else if acceptsName trimmed = false then (presence, false)
  else if nameClaimedByOtherAuth presence trimmed authPlayerId then (presence, false)
  else if nameTakenOnFieldByOther presence.field trimmed
      (presence.field.findPlayerByAuthId authPlayerId) then (presence, false)
  else match renamePlayer presence.field authPlayerId trimmed with
    | none => (presence, false)
    | some field =>
      (⟨field, presence.operatorNamesByAuthId.insert authPlayerId trimmed⟩, true)

theorem operatorCases (before : FieldSessionPresence F) (auth : Int) (raw : Bytes) :
    operatorSetPlayerName before auth raw = (before, false) ∨
    (0 < auth ∧ acceptsName (trimPlayerName raw) = true ∧
      nameClaimedByOtherAuth before (trimPlayerName raw) auth = false ∧
      nameTakenOnFieldByOther before.field (trimPlayerName raw)
        (before.field.findPlayerByAuthId auth) = false ∧
      ∃ field, renamePlayer before.field auth (trimPlayerName raw) = some field ∧
        operatorSetPlayerName before auth raw =
          (⟨field, before.operatorNamesByAuthId.insert auth (trimPlayerName raw)⟩, true)) := by
  unfold operatorSetPlayerName
  dsimp only
  split
  · exact .inl rfl
  · rename_i positive
    split
    · exact .inl rfl
    · rename_i accepted
      split
      · exact .inl rfl
      · rename_i unclaimed
        split
        · exact .inl rfl
        · rename_i free
          cases renamed : renamePlayer before.field auth (trimPlayerName raw) with
          | none => exact .inl rfl
          | some field =>
            exact .inr ⟨not_le.mp positive, by simpa using accepted, by simpa using unclaimed,
              by simpa using free, field, rfl, rfl⟩

-- The port and the spawn settings may be other ones at every login.
inductive FieldCall (F : Type) where
  | placeAfterLogin (port : PlayerIdPort) (settings : LoginFieldSpawnSettings F) (sessionId : Int)
      (claimedId : Bytes)
  | operatorSetPlayerName (authPlayerId : Int) (displayName : Bytes)
  | removeAfterLogout (sessionId : Int)
  | putNpc (npc : Npc F)
  | putActionQueue (action : Action)
  | queueMovement (playerId : Int) (dx dy dz : F)
  | queueNpcMovement (npcId : Int) (dx dy dz : F)
  | scheduleNpcRespawn (npcId : Int) (respawnTick : UInt64) (status : Status) (position : Position F)
  | processInputs (inputs : List (WorldInput F)) (worldTick : UInt64)
  | processFrame (worldTick : UInt64)

variable [FloatOps F]

def callField (presence : FieldSessionPresence F) : FieldCall F → FieldSessionPresence F
  | .placeAfterLogin port settings sessionId claimedId =>
    (placeAfterLogin port settings presence sessionId claimedId).1
  | .operatorSetPlayerName authPlayerId displayName =>
    (operatorSetPlayerName presence authPlayerId displayName).1
  | .removeAfterLogout sessionId => removeAfterLogout presence sessionId
  | .putNpc npc => { presence with field := (presence.field.putNpc npc).getD presence.field }
  | .putActionQueue action => { presence with field := presence.field.putActionQueue action }
  | .queueMovement playerId dx dy dz =>
    { presence with field := (presence.field.queueMovement playerId dx dy dz).getD presence.field }
  | .queueNpcMovement npcId dx dy dz =>
    { presence with field := (presence.field.queueNpcMovement npcId dx dy dz).getD presence.field }
  | .scheduleNpcRespawn npcId respawnTick status position =>
    { presence with field :=
        (presence.field.scheduleNpcRespawn npcId respawnTick status position).getD presence.field }
  | .processInputs inputs worldTick =>
    { presence with field := (presence.field.processInputs inputs worldTick).1 }
  | .processFrame worldTick => { presence with field := presence.field.processFrame worldTick }

end

end SeedOrigin.FieldCalls
