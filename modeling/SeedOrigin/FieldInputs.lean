import SeedOrigin.FieldState
import SeedOrigin.UpdateBuilder

/-! Field::processInputs: every input of a frame is checked against a projection
of what the earlier ones will do, then all are applied, and a late failure rolls
the frame back. -/
namespace SeedOrigin
open SeedOrigin.Octets SeedOrigin.Numbers SeedOrigin.Character SeedOrigin.ClientInput
open SeedOrigin.Ether SeedOrigin.Inputs SeedOrigin.UpdateBuilder
open FloatOps (lit sub mul lt le isFinite truncate ceilQuotient)

def attackCooldownTicks : UInt64 := 1
def spellCooldownTicks : UInt64 := 2
def spellMpCostDivisor : Nat := 10

def tickAfter (tick duration : UInt64) : Option UInt64 :=
  if tick > maxUint64 - duration then none else some (tick + duration)

section
variable {F : Type}

def Field.findTargetPosition (field : Field F) (targetId : Int) : Option (Position F) :=
  match field.findPlayer targetId with
  | some player => some player.position
  | none => (field.findNpc targetId).map Npc.position

def Field.targetIsAlive (field : Field F) (targetId : Int) : Bool :=
  match field.findPlayer targetId with
  | some player => player.status.hp > 0
  | none => match field.findNpc targetId with
    | some npc => npc.isAlive
    | none => false

def Field.targetHp (field : Field F) (targetId : Int) : Int :=
  match field.findPlayer targetId with
  | some player => player.status.hp
  | none => match field.findNpc targetId with
    | some npc => npc.status.hp
    | none => 0

def Field.updatePlayer (field : Field F) (playerId : Int) (change : Player F → Player F) : Field F :=
  match field.findPlayer playerId with
  | none => field
  | some player =>
    { field with playerList := field.playerList.insert (field.resolvePlayerId playerId) (change player) }

def Field.gainPlayer (field : Field F) (playerId : Int) (status : Status) : Field F :=
  match field.playerList[playerId]? with
  | none => field
  | some player =>
    let gained := { player with status := (player.status.gainHp status.hp).gainMp status.mp }
    { field with playerList := field.playerList.insert playerId gained }

def Field.applyAction (field : Field F) (action : Action) : Field F :=
  if action.isValid = false then field
  else if action.actionType = 0 then field.gainStatus action.status
  else if action.actionType = 1 then match action.playerTo with
    | none => field
    | some playerTo => field.gainPlayer playerTo action.status
  else match action.playerFrom with
    | none => field
    | some playerFrom => field.gainPlayer playerFrom action.status

def Field.applyDamageToTarget (field : Field F) (targetId damage : Int) : Option (Field F) :=
  match field.findPlayer targetId with
  | some player =>
    if player.status.hp ≤ 0 ∨ damage ≤ 0 then none
    else some (field.updatePlayer targetId (fun player =>
      { player with status := player.status.gainHp (-damage) }))
  | none => match field.findNpc targetId with
    | none => none
    | some npc => (npc.applyDamage damage).map (fun npc =>
      { field with npcList := field.npcList.insert targetId npc })

variable [FloatOps F]

-- The largest long is 2^63 as a double.
def spellMpCost (power : F) : Option Int :=
  match ceilQuotient power spellMpCostDivisor with
  | none => none
  | some raw => if raw < 1 ∨ raw > 2 ^ 63 then none else some raw

def Field.validateCombat (field : Field F) (intent : CombatIntent F) : Except String Unit :=
  match field.findPlayer intent.attackerId, field.findTargetPosition intent.targetId with
  | some attacker, some target =>
    if field.targetIsAlive intent.targetId = false then
      .error "combat actor or target is not present"
    else
      let dx := sub attacker.position.x target.x
      let dy := sub attacker.position.y target.y
      let dz := sub attacker.position.z target.z
      if lt (lit 10000) (FloatOps.add (FloatOps.add (mul dx dx) (mul dy dy)) (mul dz dz)) then
        .error "combat target is out of range"
      else if isFinite intent.power = false ∨ le intent.power (lit 0) ∨
          lt (lit 100000) intent.power then
        .error "combat power is invalid"
      else .ok ()
  | _, _ => .error "combat actor or target is not present"

def Field.validateSpell (field : Field F) (intent : SpellIntent F) : Except String Unit :=
  if intent.element = [] ∨ intent.element.length > 32 then .error "spell element is invalid"
  else if isKnownElement intent.element = false then .error "spell element is unknown"
  else if intent.element.all isIdentifierByte = false then
    .error "spell element contains invalid characters"
  else field.validateCombat ⟨intent.casterId, intent.targetId, intent.power, intent.requestId⟩

def Field.applyCombat (field : Field F) (intent : CombatIntent F) : Field F × Except String Unit :=
  match field.validateCombat intent with
  | .error e => (field, .error e)
  | .ok _ => match field.applyDamageToTarget intent.targetId (truncate intent.power) with
    | none => (field, .error "combat target is not alive")
    | some field => (field, .ok ())

-- A spell whose target cannot be damaged has already changed the ether.
def Field.applySpell (field : Field F) (intent : SpellIntent F) : Field F × Except String Unit :=
  match field.validateSpell intent with
  | .error e => (field, .error e)
  | .ok _ => match resolveSpell field.fieldEther intent.element intent.power with
    | (ether, .error e) => ({ field with fieldEther := ether }, .error e)
    | (ether, .ok effectivePower) =>
      let resolved := { field with fieldEther := ether }
      match resolved.applyDamageToTarget intent.targetId (truncate effectivePower) with
      | none => (resolved, .error "spell target is not alive")
      | some field => (field, .ok ())

structure Projection (F : Type) where
  mp : IntMap Int := ∅
  attackTick : IntMap UInt64
  spellTick : IntMap UInt64
  position : IntMap (Position F) := ∅

def cooling (ticks : IntMap UInt64) (worldTick : UInt64) (id : Int) : Bool :=
  match ticks[id]? with
  | none => false
  | some tick => worldTick < tick

-- Projected positions and mana are kept under the id the input names, whatever
-- character it resolves to.
def Field.validateInput (field : Field F) (worldTick : UInt64) (projection : Projection F) :
    WorldInputBody F → Option (Projection F)
  | .movement movement =>
    if field.hasPlayer movement.sessionId = false ∨
        isValidMovementDelta movement.dx movement.dy movement.dz = false then none
    else do
      let player ← field.findPlayer movement.sessionId
      let start := projection.position.getD movement.sessionId player.position
      let next ← integrateMovement start movement.dx movement.dy movement.dz
      return { projection with
        position := projection.position.insert movement.sessionId
          { next with playerId := movement.sessionId } }
  | .action action => if action.isValid = false then none else some projection
  | .combat combat =>
    match field.validateCombat combat with
    | .error _ => none
    | .ok _ => do
      let nextTick ← tickAfter worldTick attackCooldownTicks
      if cooling projection.attackTick worldTick combat.attackerId then none
      return { projection with attackTick := projection.attackTick.insert combat.attackerId nextTick }
  | .spell spell =>
    match field.validateSpell spell with
    | .error _ => none
    | .ok _ => do
      let cost ← spellMpCost spell.power
      let nextTick ← tickAfter worldTick spellCooldownTicks
      if cooling projection.spellTick worldTick spell.casterId then none
      let caster ← field.findPlayer spell.casterId
      let available := projection.mp.getD spell.casterId caster.status.mp
      if available < cost then none
      return { projection with
        mp := projection.mp.insert spell.casterId (available - cost)
        spellTick := projection.spellTick.insert spell.casterId nextTick }
  | .chat _ => some projection

inductive Field.Passed (field : Field F) (worldTick : UInt64) (projection : Projection F) :
    WorldInputBody F → Projection F → Prop where
  | movement {movement : MovementIntent F} {player : Player F} {next : Position F}
      (present : field.hasPlayer movement.sessionId = true)
      (found : field.findPlayer movement.sessionId = some player)
      (moved : integrateMovement (projection.position.getD movement.sessionId player.position)
        movement.dx movement.dy movement.dz = some next) :
      Passed field worldTick projection (.movement movement) { projection with
        position := projection.position.insert movement.sessionId
          { next with playerId := movement.sessionId } }
  | action {action : Action} (valid : action.isValid = true) :
      Passed field worldTick projection (.action action) projection
  | combat {combat : CombatIntent F} {nextTick : UInt64}
      (ends : tickAfter worldTick attackCooldownTicks = some nextTick)
      (rested : cooling projection.attackTick worldTick combat.attackerId = false) :
      Passed field worldTick projection (.combat combat) { projection with
        attackTick := projection.attackTick.insert combat.attackerId nextTick }
  | spell {spell : SpellIntent F} {caster : Player F} {cost : Int} {nextTick : UInt64}
      (costs : spellMpCost spell.power = some cost)
      (ends : tickAfter worldTick spellCooldownTicks = some nextTick)
      (rested : cooling projection.spellTick worldTick spell.casterId = false)
      (found : field.findPlayer spell.casterId = some caster)
      (enough : cost ≤ projection.mp.getD spell.casterId caster.status.mp) :
      Passed field worldTick projection (.spell spell) { projection with
        mp := projection.mp.insert spell.casterId
          (projection.mp.getD spell.casterId caster.status.mp - cost)
        spellTick := projection.spellTick.insert spell.casterId nextTick }
  | chat (chat : ChatIntent) : Passed field worldTick projection (.chat chat) projection

theorem Field.passed {field : Field F} {worldTick : UInt64} {projection next : Projection F}
    {body : WorldInputBody F} (h : field.validateInput worldTick projection body = some next) :
    field.Passed worldTick projection body next := by
  cases body with
  | movement movement =>
    unfold Field.validateInput at h
    dsimp only at h
    split at h
    · contradiction
    · rename_i present
      simp only [not_or, Bool.not_eq_false] at present
      simp only [bind, Option.bind_eq_some_iff] at h
      obtain ⟨player, found, next, moved, made⟩ := h
      obtain rfl := Option.some.inj made
      exact .movement present.1 found moved
  | action action =>
    unfold Field.validateInput at h
    dsimp only at h
    split at h
    · contradiction
    · rename_i valid
      obtain rfl := Option.some.inj h
      exact .action (by simpa using valid)
  | combat combat =>
    unfold Field.validateInput at h
    dsimp only at h
    split at h
    · contradiction
    · simp only [bind, Option.bind_eq_some_iff] at h
      obtain ⟨nextTick, ends, rest⟩ := h
      split at rest
      · contradiction
      · rename_i rested
        obtain rfl := Option.some.inj rest
        exact .combat ends (by simpa using rested)
  | spell spell =>
    unfold Field.validateInput at h
    dsimp only at h
    split at h
    · contradiction
    · simp only [bind, Option.bind_eq_some_iff] at h
      obtain ⟨cost, costs, nextTick, ends, rest⟩ := h
      split at rest
      · contradiction
      · rename_i rested
        simp only [Option.bind_eq_some_iff] at rest
        obtain ⟨caster, found, rest⟩ := rest
        split at rest
        · contradiction
        · rename_i enough
          obtain rfl := Option.some.inj rest
          exact .spell costs ends (by simpa using rested) found (not_lt.mp enough)
  | chat chat =>
    obtain rfl := Option.some.inj h
    exact .chat chat

def Field.validateInputs (field : Field F) (worldTick : UInt64) (projection : Projection F)
    (inputs : List (WorldInput F)) : Option (Projection F) :=
  inputs.foldlM (fun projection input => field.validateInput worldTick projection input.body) projection

def etherDifference (before after : EnvironmentEther F) : F × F × F × F :=
  (sub after.fire before.fire, sub after.water before.water, sub after.earth before.earth,
    sub after.air before.air)

-- The field as it stands after the input, also when the input fails.
def Field.applyInput (field : Field F) (worldTick : UInt64) (input : WorldInput F) :
    Field F × Option (List (CombatResolution F)) :=
  match input.body with
  | .movement movement =>
    match field.findPlayer movement.sessionId with
    | none => (field, none)
    | some player =>
      match integrateMovement player.position movement.dx movement.dy movement.dz with
      | none => (field, none)
      | some next => (field.updatePlayer movement.sessionId (fun player => player.setPosition next), some [])
  | .action action => (field.applyAction action, some [])
  | .combat combat =>
    let hpBefore := field.targetHp combat.targetId
    match field.applyCombat combat with
    | (failed, .error _) => (failed, none)
    | (hit, .ok _) =>
      let hpAfter := hit.targetHp combat.targetId
      let cooldownUntil := (tickAfter worldTick attackCooldownTicks).getD 0
      ({ hit with nextAttackTick := hit.nextAttackTick.insert combat.attackerId cooldownUntil },
        some [{ spell := false
                inputSequence := input.sequence
                actorId := combat.attackerId
                targetId := combat.targetId
                element := []
                requestId := combat.requestId
                basePower := combat.power
                effectivePower := combat.power
                damage := hpBefore - hpAfter
                remainingHp := hpAfter
                mpSpent := 0
                cooldownUntil := cooldownUntil
                etherDelta := (lit 0, lit 0, lit 0, lit 0) }])
  | .spell spell =>
    let hpBefore := field.targetHp spell.targetId
    let attribute' := (attributeForElement spell.element).getD .fire
    let effectivePower := mul spell.power (conductivity field.fieldEther attribute')
    match field.applySpell spell with
    | (failed, .error _) => (failed, none)
    | (hit, .ok _) => match spellMpCost spell.power with
      | none => (hit, none)
      | some mpCost =>
        let paid := hit.updatePlayer spell.casterId (fun caster =>
          { caster with status := caster.status.gainMp (-mpCost) })
        let hpAfter := paid.targetHp spell.targetId
        let cooldownUntil := (tickAfter worldTick spellCooldownTicks).getD 0
        ({ paid with nextSpellTick := paid.nextSpellTick.insert spell.casterId cooldownUntil },
          some [{ spell := true
                  inputSequence := input.sequence
                  actorId := spell.casterId
                  targetId := spell.targetId
                  element := spell.element
                  requestId := spell.requestId
                  basePower := spell.power
                  effectivePower := effectivePower
                  damage := hpBefore - hpAfter
                  remainingHp := hpAfter
                  mpSpent := mpCost
                  cooldownUntil := cooldownUntil
                  etherDelta := etherDifference field.fieldEther paid.fieldEther }])
  | .chat _ => (field, some [])

def Field.applyInputs (worldTick : UInt64) : Field F → List (WorldInput F) →
    Field F × Option (List (CombatResolution F))
  | field, [] => (field, some [])
  | field, input :: inputs =>
    match field.applyInput worldTick input with
    | (failed, none) => (failed, none)
    | (field, some made) => match Field.applyInputs worldTick field inputs with
      | (failed, none) => (failed, none)
      | (field, some rest) => (field, some (made ++ rest))

-- The status of the field itself is not put back.
def Field.rollBack (failed before : Field F) : Field F :=
  { failed with
    playerList := before.playerList
    npcList := before.npcList
    fieldEther := before.fieldEther
    nextAttackTick := before.nextAttackTick
    nextSpellTick := before.nextSpellTick
    lastEtherHazard := before.lastEtherHazard }

def Field.processInputs (field : Field F) (inputs : List (WorldInput F)) (worldTick : UInt64) :
    Field F × Option (List (CombatResolution F)) :=
  match field.validateInputs worldTick
      { attackTick := field.nextAttackTick, spellTick := field.nextSpellTick } inputs with
  | none => (field, none)
  | some _ => match Field.applyInputs worldTick field inputs with
    | (failed, none) => (failed.rollBack field, none)
    | (applied, some resolutions) =>
      let ether := decay applied.fieldEther
      ({ applied with fieldEther := ether, lastEtherHazard := adverseEffectSeverity ether },
        some resolutions)

theorem Field.processedInputs {field after : Field F} {inputs : List (WorldInput F)} {worldTick : UInt64}
    {resolutions : List (CombatResolution F)}
    (h : field.processInputs inputs worldTick = (after, some resolutions)) : ∃ projection applied,
    field.validateInputs worldTick
      { attackTick := field.nextAttackTick, spellTick := field.nextSpellTick } inputs = some projection ∧
    Field.applyInputs worldTick field inputs = (applied, some resolutions) ∧
    after = { applied with
      fieldEther := decay applied.fieldEther
      lastEtherHazard := adverseEffectSeverity (decay applied.fieldEther) } := by
  unfold Field.processInputs at h
  split at h
  · simp at h
  · rename_i projection validated
    split at h
    · simp at h
    · rename_i applied made done
      obtain ⟨rfl, same⟩ := Prod.mk.inj h
      obtain rfl := Option.some.inj same
      exact ⟨projection, applied, validated, done, rfl⟩

end

end SeedOrigin
