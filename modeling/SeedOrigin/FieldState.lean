import SeedOrigin.Ether
import SeedOrigin.Inputs
import SeedOrigin.Maps
import SeedOrigin.Sessions

/-! Field: resident players and NPCs, the ether, cooldowns, the queues of the
older frame path, and the two maps that bind sessions to players. -/
namespace SeedOrigin
open SeedOrigin.Octets SeedOrigin.Numbers SeedOrigin.Character SeedOrigin.ClientInput
open SeedOrigin.Ether SeedOrigin.Inputs SeedOrigin.Sessions SeedOrigin.Maps

structure NpcRespawnState (F : Type) where
  status : Status
  position : Position F
  respawnTick : UInt64
  deriving DecidableEq

structure Field (F : Type) where
  playerList : IntMap (Player F) := ∅
  npcList : IntMap (Npc F) := ∅
  positionQueue : List (Position F) := []
  actionQueue : List Action := []
  fieldStatus : Status := ⟨0, 0⟩
  fieldEther : EnvironmentEther F
  lastEtherHazard : F
  nextAttackTick : IntMap UInt64 := ∅
  nextSpellTick : IntMap UInt64 := ∅
  npcRespawns : IntMap (NpcRespawnState F) := ∅
  sessionToPlayerId : IntMap Int := ∅
  playerToSessionId : IntMap Int := ∅
  nextGameplayId : Int := 1
  deriving DecidableEq

structure PlayerPoseSnapshot (F : Type) where
  sessionId : Int
  x : F
  y : F
  z : F
  gameplayId : Int
  name : Bytes
  deriving DecidableEq

section
variable {F : Type}

def Field.initial [FloatOps F] : Field F :=
  { fieldEther := EnvironmentEther.initial, lastEtherHazard := FloatOps.lit 0 }

def Field.resolvePlayerId (field : Field F) (id : Int) : Int :=
  if id ≤ 0 then 0
  else if field.playerList.contains id then id
  else field.sessionToPlayerId.getD id 0

def Field.hasPlayer (field : Field F) (playerId : Int) : Bool := field.resolvePlayerId playerId > 0

def Field.findPlayer (field : Field F) (playerId : Int) : Option (Player F) :=
  field.playerList[field.resolvePlayerId playerId]?

def Field.findNpc (field : Field F) (npcId : Int) : Option (Npc F) := field.npcList[npcId]?

def Field.gainStatus (field : Field F) (status : Status) : Field F :=
  { field with fieldStatus := (field.fieldStatus.gainHp status.hp).gainMp status.mp }

def Field.putPlayer (field : Field F) (player : Player F) : Option (Field F) :=
  if player.id ≤ 0 ∨ (field.findNpc player.id).isSome then none
  else some { field with playerList := field.playerList.insert player.id player }

def Field.forgetBindingsForPlayer (field : Field F) (gameplayId : Int) : Field F :=
  match field.playerToSessionId[gameplayId]? with
  | none => field
  | some sessionId =>
    { field with
      sessionToPlayerId := field.sessionToPlayerId.erase sessionId
      playerToSessionId := field.playerToSessionId.erase gameplayId }

def Field.unsetPlayer (field : Field F) (id : Int) : Field F × Bool :=
  let playerId := field.resolvePlayerId id
  if playerId ≤ 0 then (field, false)
  else
    let forgotten := field.forgetBindingsForPlayer playerId
    ({ forgotten with
        nextAttackTick := forgotten.nextAttackTick.erase playerId
        nextSpellTick := forgotten.nextSpellTick.erase playerId
        playerList := forgotten.playerList.erase playerId },
      forgotten.playerList.contains playerId)

def Field.playerIdForSession (field : Field F) (sessionId : Int) : Int :=
  field.sessionToPlayerId.getD sessionId 0

def Field.sessionIdForPlayer (field : Field F) (gameplayId : Int) : Int :=
  field.playerToSessionId.getD gameplayId 0

def Field.unbindSession (field : Field F) (sessionId : Int) : Field F × Bool :=
  if sessionId ≤ 0 then (field, false)
  else match field.sessionToPlayerId[sessionId]? with
    | none => (field, false)
    | some gameplayId =>
      ({ field with
          playerToSessionId := field.playerToSessionId.erase gameplayId
          sessionToPlayerId := field.sessionToPlayerId.erase sessionId }, true)

def Field.bindSession (field : Field F) (sessionId gameplayId : Int) : Option (Field F) :=
  if sessionId ≤ 0 ∨ gameplayId ≤ 0 then none
  else if field.playerList.contains gameplayId = false then none
  else
    let free := ((field.unbindSession sessionId).1).forgetBindingsForPlayer gameplayId
    some { free with
      sessionToPlayerId := free.sessionToPlayerId.insert sessionId gameplayId
      playerToSessionId := free.playerToSessionId.insert gameplayId sessionId }

def Field.taken (field : Field F) (candidate : Int) : Bool :=
  field.playerList.contains candidate || (field.findNpc candidate).isSome ||
    field.sessionToPlayerId.contains candidate

-- The rounds of the loop are what is left up to the largest id.
def allocateFrom (taken : Int → Bool) : Nat → Int → Int × Int
  | 0, next => (0, next)
  | rounds + 1, next => if taken next then allocateFrom taken rounds (next + 1) else (next, next + 1)

def Field.allocateGameplayId (field : Field F) : Field F × Int :=
  let (candidate, next) :=
    allocateFrom field.taken (maxInt64 - field.nextGameplayId).toNat field.nextGameplayId
  ({ field with nextGameplayId := next }, candidate)

def Field.findPlayerByAuthId (field : Field F) (authPlayerId : Int) : Option (Player F) :=
  if authPlayerId ≤ 0 then none
  else (field.playerList.toList.find? (fun entry => entry.2.authPlayerId == authPlayerId)).map Prod.snd

def Field.hasPlayerName (field : Field F) (displayName : Bytes) : Bool :=
  let trimmed := trimPlayerName displayName
  trimmed ≠ [] && field.playerList.toList.any (fun entry => entry.2.getPlayerName == trimmed)

-- Characters of accounts without a session are not shown.
def Field.publicPlayerPoses (field : Field F) : List (PlayerPoseSnapshot F) :=
  field.playerList.toList.filterMap (fun entry =>
    let player := entry.2
    let boundSession := field.sessionIdForPlayer player.id
    if player.authPlayerId > 0 ∧ boundSession ≤ 0 then none
    else some
      { sessionId := if boundSession > 0 then boundSession else player.id
        x := player.position.x
        y := player.position.y
        z := player.position.z
        gameplayId := player.id
        name := player.getPlayerName })

def Field.Paired (field : Field F) : Prop :=
  Inverse (lookup field.sessionToPlayerId) (lookup field.playerToSessionId)

end

end SeedOrigin

namespace SeedOrigin.FieldState
open SeedOrigin.Numbers SeedOrigin.Character SeedOrigin.ClientInput SeedOrigin.Maps

section
variable {F : Type}

theorem unbindShape (field : Field F) (sessionId : Int) : ∃ sessions players,
    (field.unbindSession sessionId).1 =
      { field with sessionToPlayerId := sessions, playerToSessionId := players } := by
  unfold Field.unbindSession
  split
  · exact ⟨_, _, rfl⟩
  · split <;> exact ⟨_, _, rfl⟩

theorem forgetShape (field : Field F) (gameplayId : Int) : ∃ sessions players,
    field.forgetBindingsForPlayer gameplayId =
      { field with sessionToPlayerId := sessions, playerToSessionId := players } := by
  unfold Field.forgetBindingsForPlayer
  split <;> exact ⟨_, _, rfl⟩

theorem unbindLookup {field : Field F} (paired : field.Paired) {sessionId : Int} (pos : 0 < sessionId) :
    ((field.unbindSession sessionId).1).Paired ∧
    lookup ((field.unbindSession sessionId).1).sessionToPlayerId =
      Function.update (lookup field.sessionToPlayerId) sessionId none := by
  have some' : ¬ sessionId ≤ 0 := by omega
  unfold Field.unbindSession
  rw [if_neg some']
  cases bound : field.sessionToPlayerId[sessionId]? with
  | none =>
    refine ⟨paired, ?_⟩
    have same : lookup field.sessionToPlayerId sessionId = none := bound
    exact (Function.update_eq_self_iff.mpr same.symm).symm
  | some gameplayId =>
    refine ⟨?_, lookupErase _ _⟩
    unfold Field.Paired
    rw [lookupErase, lookupErase]
    exact inverseErase paired bound

theorem unbindAbsent (field : Field F) {sessionId : Int} (none : ¬ 0 < sessionId) :
    (field.unbindSession sessionId).1 = field := by
  unfold Field.unbindSession
  rw [if_pos (by omega)]

theorem forgetLookup {field : Field F} (paired : field.Paired) (gameplayId : Int) :
    (field.forgetBindingsForPlayer gameplayId).Paired ∧
    ∀ s, lookup (field.forgetBindingsForPlayer gameplayId).sessionToPlayerId s =
      if lookup field.sessionToPlayerId s = some gameplayId then none
      else lookup field.sessionToPlayerId s := by
  unfold Field.forgetBindingsForPlayer
  cases bound : field.playerToSessionId[gameplayId]? with
  | none =>
    refine ⟨paired, fun s => ?_⟩
    have free : lookup field.sessionToPlayerId s ≠ some gameplayId := by
      intro h
      have twice := (paired s gameplayId).mp h
      rw [show lookup field.playerToSessionId gameplayId = none from bound] at twice
      contradiction
    rw [if_neg free]
  | some sessionId =>
    have there : lookup field.sessionToPlayerId sessionId = some gameplayId :=
      (paired sessionId gameplayId).mpr bound
    refine ⟨?_, fun s => ?_⟩
    · unfold Field.Paired
      rw [lookupErase, lookupErase]
      exact inverseErase paired there
    · rw [lookupErase]
      by_cases same : s = sessionId
      · subst same
        rw [Function.update_self, if_pos there]
      · rw [Function.update_of_ne same]
        have free : lookup field.sessionToPlayerId s ≠ some gameplayId := by
          intro h
          have twice := (paired s gameplayId).mp h
          rw [(paired sessionId gameplayId).mp there] at twice
          exact same (Option.some.inj twice).symm
        rw [if_neg free]

theorem forgetUnused {field : Field F} (paired : field.Paired) (gameplayId : Int) :
    lookup (field.forgetBindingsForPlayer gameplayId).playerToSessionId gameplayId = none := by
  obtain ⟨still, sessions⟩ := forgetLookup paired gameplayId
  cases bound : lookup (field.forgetBindingsForPlayer gameplayId).playerToSessionId gameplayId with
  | none => rfl
  | some s =>
    have there := (still s gameplayId).mpr bound
    rw [sessions s] at there
    split at there
    · contradiction
    · rename_i free
      exact absurd there free

theorem bindShape {field bound : Field F} {sessionId gameplayId : Int}
    (h : field.bindSession sessionId gameplayId = some bound) : ∃ sessions players, bound =
      { field with sessionToPlayerId := sessions, playerToSessionId := players } := by
  unfold Field.bindSession at h
  split at h <;> try contradiction
  split at h <;> try contradiction
  obtain ⟨unboundSessions, unboundPlayers, unboundShape⟩ := unbindShape field sessionId
  obtain ⟨sessions, players, shape⟩ := forgetShape ((field.unbindSession sessionId).1) gameplayId
  obtain rfl := Option.some.inj h
  rw [shape]
  simp only [unboundShape]
  exact ⟨_, _, rfl⟩

theorem bindLookup {field bound : Field F} (paired : field.Paired) {sessionId gameplayId : Int}
    (h : field.bindSession sessionId gameplayId = some bound) :
    0 < sessionId ∧ 0 < gameplayId ∧ field.playerList.contains gameplayId = true ∧ bound.Paired ∧
    (∀ s, lookup bound.sessionToPlayerId s =
      if s = sessionId then some gameplayId
      else if lookup field.sessionToPlayerId s = some gameplayId then none
      else lookup field.sessionToPlayerId s) := by
  unfold Field.bindSession at h
  split at h <;> try contradiction
  split at h <;> try contradiction
  rename_i positive resident
  have pos : 0 < sessionId := by omega
  obtain ⟨unboundPaired, unbound⟩ := unbindLookup paired pos
  obtain ⟨freePaired, free⟩ := forgetLookup unboundPaired gameplayId
  have unused := forgetUnused unboundPaired gameplayId
  have absent : lookup (((field.unbindSession sessionId).1).forgetBindingsForPlayer
      gameplayId).sessionToPlayerId sessionId = none := by
    rw [free sessionId, unbound, Function.update_self]
    rfl
  obtain rfl := Option.some.inj h
  refine ⟨pos, by omega, by simpa using resident, ?_, ?_⟩
  · unfold Field.Paired
    rw [lookupInsert, lookupInsert]
    exact inverseInsert freePaired absent unused
  · intro s
    rw [lookupInsert]
    by_cases same : s = sessionId
    · subst same
      rw [Function.update_self, if_pos rfl]
    · rw [Function.update_of_ne same, if_neg same, free s, unbound, Function.update_of_ne same]

end

end SeedOrigin.FieldState
