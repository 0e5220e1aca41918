import SeedOrigin.Applier
import SeedOrigin.FieldText

/-! ClientWorldSnapshotApplier: the payload of a snapshot as key=value fields, and
the environment state it replaces the client's with. The sequence it confirms to
a controller of its own, which nothing reads, is left out. -/
namespace SeedOrigin.SnapshotParser
open SeedOrigin.Octets SeedOrigin.Numbers SeedOrigin.Decimal SeedOrigin.Character
open SeedOrigin.ClientInput SeedOrigin.Inputs SeedOrigin.UpdateWire SeedOrigin.Applier
open SeedOrigin.FieldText
open FloatOps (lit lt isFinite)

structure EnvironmentState (F : Type) where
  fire : F
  water : F
  earth : F
  air : F
  hazard : F
  worldTick : UInt64 := 0
  sequence : UInt64 := 0
  npcs : List (NpcSnapshot F) := []
  players : List (PlayerPoseSnapshot F) := []
  hasLocalPlayer : Bool := false
  localX : F
  localY : F
  localZ : F
  lastProcessedInputSequence : UInt64 := 0
  deriving DecidableEq

-- What has been read of a payload so far. A field is present when it has a value.
structure ParsedFields (F : Type) where
  fire : Option F := none
  water : Option F := none
  earth : Option F := none
  air : Option F := none
  hazard : Option F := none
  npcCount : Option Int := none
  npcs : IntMap (NpcSnapshot F) := ∅
  playerCount : Option Int := none
  players : IntMap (PlayerPoseSnapshot F) := ∅
  localX : Option F := none
  localY : Option F := none
  localZ : Option F := none
  lastProcessed : Option UInt64 := none
  deriving DecidableEq

-- An index and the name of one of its fields, as in npc.3.type.
def splitIndexed (header : Bytes) (key : Bytes) (minimum : Nat) (fieldError indexError shortError : String) :
    Except String (Int × Bytes) :=
  if key.length < minimum then .error shortError
  else match cut 46 (key.drop header.length) with
    | none => .error fieldError
    | some (indexText, name) =>
      if indexText = [] ∨ name = [] then .error fieldError
      else match parseInt64 indexText with
        | none => .error indexError
        | some index => if index < 0 ∨ index ≥ 256 then .error indexError else .ok (index, name)

section
variable {F : Type} [FloatOps F]

def EnvironmentState.initial : EnvironmentState F :=
  { fire := lit 0, water := lit 0, earth := lit 0, air := lit 0, hazard := lit 0
    localX := lit 0, localY := lit 0, localZ := lit 0 }

def emptyNpc : NpcSnapshot F := ⟨0, [], lit 0, lit 0, lit 0, 0, false⟩

def emptyPlayer : PlayerPoseSnapshot F := ⟨0, lit 0, lit 0, lit 0, 0, []⟩

def readNpc (npc : NpcSnapshot F) (name value : Bytes) : Except String (NpcSnapshot F) :=
  if name = ascii "id" then match parseInt64 value with
    | none => .error "snapshot NPC id is invalid"
    | some id => .ok { npc with id := id }
  else if name = ascii "type" then
    if value = [] ∨ value.length > 32 then .error "snapshot NPC type is invalid"
    else .ok { npc with type := value }
  else if name = ascii "x" ∨ name = ascii "y" ∨ name = ascii "z" then match parseFinite value with
    | none => .error "snapshot NPC position is invalid"
    | some parsed =>
      if name = ascii "x" then .ok { npc with x := parsed }
      else if name = ascii "y" then .ok { npc with y := parsed }
      else .ok { npc with z := parsed }
  else if name = ascii "hp" then match parseInt64 value with
    | none => .error "snapshot NPC HP is invalid"
    | some hp => if hp < 0 then .error "snapshot NPC HP is invalid" else .ok { npc with hp := hp }
  else if name = ascii "alive" then
    if value ≠ ascii "1" then .error "snapshot NPC alive state is invalid"
    else .ok { npc with alive := true }
  else .error "snapshot contains an unknown NPC field"

def parseNpcField (key value : Bytes) (npcs : IntMap (NpcSnapshot F)) :
    Except String (IntMap (NpcSnapshot F)) := do
  let (index, name) ← splitIndexed (ascii "npc.") key 7 "snapshot contains an invalid NPC field"
    "snapshot contains an invalid NPC index" "snapshot NPC field is invalid"
  let npc ← readNpc (npcs.getD index emptyNpc) name value
  return npcs.insert index npc

def readPlayer (player : PlayerPoseSnapshot F) (name value : Bytes) :
    Except String (PlayerPoseSnapshot F) :=
  if name = ascii "session" then match parseInt64 value with
    | none => .error "snapshot player session is invalid"
    | some sessionId =>
      if sessionId ≤ 0 then .error "snapshot player session is invalid"
      else .ok { player with sessionId := sessionId }
  else if name = ascii "x" ∨ name = ascii "y" ∨ name = ascii "z" then match parseFinite value with
    | none => .error "snapshot player position is invalid"
    | some parsed =>
      if name = ascii "x" then .ok { player with x := parsed }
      else if name = ascii "y" then .ok { player with y := parsed }
      else .ok { player with z := parsed }
  else if name = ascii "id" then match parseInt64 value with
    | none => .error "snapshot player gameplay id is invalid"
    | some gameplayId =>
      if gameplayId ≤ 0 then .error "snapshot player gameplay id is invalid"
      else .ok { player with gameplayId := gameplayId }
  else if name = ascii "name" then
    let trimmed := trimPlayerName value
    if trimmed = [] ∨ 59 ∈ trimmed then .error "snapshot player name is invalid"
    else .ok { player with name := trimmed }
  else .error "snapshot contains an unknown player field"

def parsePlayerField (key value : Bytes) (players : IntMap (PlayerPoseSnapshot F)) :
    Except String (IntMap (PlayerPoseSnapshot F)) := do
  let (index, name) ← splitIndexed (ascii "player.") key 10 "snapshot contains an invalid player field"
    "snapshot contains an invalid player index" "snapshot player field is invalid"
  let player ← readPlayer (players.getD index emptyPlayer) name value
  return players.insert index player

-- A count may stand once and stays below 256.
def readCount (present : Option Int) (value : Bytes) (error : String) : Except String Int :=
  match present, parseInt64 value with
  | none, some count => if count < 0 ∨ count ≥ 256 then .error error else .ok count
  | _, _ => .error error

def readEther (present : Option F) (value : Bytes) : Except String F :=
  match present, parseFinite value with
  | none, some parsed => .ok parsed
  | _, _ => .error "snapshot payload contains an invalid or duplicate field"

def readLocal (value : Bytes) : Except String F :=
  match parseFinite value with
  | none => .error "snapshot local position is invalid"
  | some parsed => .ok parsed

def parseField (parsed : ParsedFields F) (field : Bytes) : Except String (ParsedFields F) :=
  match cut 61 field with
  | none => .error "snapshot payload contains a field without a value"
  | some (key, value) =>
    if key = ascii "npc.count" then do
      let count ← readCount parsed.npcCount value "snapshot NPC count is invalid"
      return { parsed with npcCount := some count }
    else if key.take 4 = ascii "npc." then do
      let npcs ← parseNpcField key value parsed.npcs
      return { parsed with npcs := npcs }
    else if key = ascii "player.count" then do
      let count ← readCount parsed.playerCount value "snapshot player count is invalid"
      return { parsed with playerCount := some count }
    else if key.take 7 = ascii "player." then do
      let players ← parsePlayerField key value parsed.players
      return { parsed with players := players }
    else if key = ascii "local.x" then do
      let x ← readLocal value
      return { parsed with localX := some x }
    else if key = ascii "local.y" then do
      let y ← readLocal value
      return { parsed with localY := some y }
    else if key = ascii "local.z" then do
      let z ← readLocal value
      return { parsed with localZ := some z }
    else if key = ascii "local.lastProcessedInputSequence" then match parseUint64 value with
      | none => .error "snapshot local input sequence is invalid"
      | some last => .ok { parsed with lastProcessed := some last }
    else if key = ascii "ether.fire" then do
      let fire ← readEther parsed.fire value
      return { parsed with fire := some fire }
    else if key = ascii "ether.water" then do
      let water ← readEther parsed.water value
      return { parsed with water := some water }
    else if key = ascii "ether.earth" then do
      let earth ← readEther parsed.earth value
      return { parsed with earth := some earth }
    else if key = ascii "ether.air" then do
      let air ← readEther parsed.air value
      return { parsed with air := some air }
    else if key = ascii "ether.hazard" then do
      let hazard ← readEther parsed.hazard value
      return { parsed with hazard := some hazard }
    else .error "snapshot payload contains an invalid or duplicate field"

def completeNpc (npcs : IntMap (NpcSnapshot F)) (index : Nat) : Except String (NpcSnapshot F) :=
  match npcs[(index : Int)]? with
  | none => .error "snapshot NPC fields are incomplete"
  | some npc =>
    if npc.id ≤ 0 ∨ npc.type = [] ∨ isFinite npc.x = false ∨ isFinite npc.y = false ∨
        isFinite npc.z = false ∨ npc.hp < 0 ∨ npc.alive = false then
      .error "snapshot NPC fields are incomplete"
    else .ok npc

def completePlayer (players : IntMap (PlayerPoseSnapshot F)) (index : Nat) :
    Except String (PlayerPoseSnapshot F) :=
  match players[(index : Int)]? with
  | none => .error "snapshot player fields are incomplete"
  | some player =>
    if player.sessionId ≤ 0 ∨ isFinite player.x = false ∨ isFinite player.y = false ∨
        isFinite player.z = false ∨ trimPlayerName player.name = [] then
      .error "snapshot player fields are incomplete"
    else .ok player

-- Without a count the indexed fields are ignored; with one there are exactly the
-- indices below it.
def complete {V : Type} (count : Option Int) (size : Nat) (entry : Nat → Except String V)
    (mismatch : String) : Except String (List V) :=
  match count with
  | none => .ok []
  | some count =>
    if (size : Int) ≠ count then .error mismatch else (List.range count.toNat).mapM entry

def finishFields (parsed : ParsedFields F) : Except String (EnvironmentState F) :=
  match parsed.fire, parsed.water, parsed.earth, parsed.air, parsed.hazard with
  | some fire, some water, some earth, some air, some hazard =>
    if lt hazard (lit 0) ∨ lt (lit 10) hazard then
      .error "snapshot hazard is outside the supported range"
    else do
      let npcs ← complete parsed.npcCount parsed.npcs.size (completeNpc parsed.npcs)
        "snapshot NPC count does not match fields"
      let players ← complete parsed.playerCount parsed.players.size (completePlayer parsed.players)
        "snapshot player count does not match fields"
      let state : EnvironmentState F :=
        { fire := fire, water := water, earth := earth, air := air, hazard := hazard
          npcs := npcs, players := players, localX := lit 0, localY := lit 0, localZ := lit 0 }
      match parsed.localX, parsed.localY, parsed.localZ, parsed.lastProcessed with
      | none, none, none, none => return state
      | some x, some y, some z, some last =>
        return { state with
          hasLocalPlayer := true
          localX := x
          localY := y
          localZ := z
          lastProcessedInputSequence := last }
      | _, _, _, _ => throw "snapshot local player fields are incomplete"
  | _, _, _, _, _ => .error "snapshot payload is missing an environment field"

def parsePayload (payload : Bytes) : Except String (EnvironmentState F) := do
  let parsed ← (fields 59 payload).foldlM parseField {}
  finishFields parsed

def applySnapshot (update : WorldUpdate) : Except String (EnvironmentState F) :=
  if update.kind ≠ .snapshot ∨ update.eventId ≠ 0 then
    .error "only a zero-event snapshot can replace client state"
  else do
    validateWorldUpdate update
    if update.sequence = maxUint64 then throw "snapshot sequence cannot be incremented"
    let state ← parsePayload update.payload
    return { state with worldTick := update.worldTick, sequence := update.sequence }

end

end SeedOrigin.SnapshotParser
