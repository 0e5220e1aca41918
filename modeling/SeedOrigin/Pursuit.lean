import Mathlib.Data.Fintype.Basic
import SeedOrigin.ActionFrames
import SeedOrigin.FixedSteps
import SeedOrigin.FramePositions

/-! NPCs that pursue a target: the planner, and what its decisions come to over
any number of frames. Coordinates are rationals. -/
namespace SeedOrigin.Pursuit
open SeedOrigin.Octets SeedOrigin.Numbers SeedOrigin.Character SeedOrigin.Maps
open SeedOrigin.FieldState SeedOrigin.FieldCalls SeedOrigin.FramePositions SeedOrigin.ActionFrames
open SeedOrigin.FixedSteps SeedOrigin.Runs
open FloatOps (lit sub neg lt le isFinite)

structure NpcAiObservation (F : Type) where
  npcId : Int
  npcAlive : Bool
  npcPosition : Position F
  targetPosition : Position F
  step : F

section
variable {F : Type} [FloatOps F]

def validPosition (position : Position F) : Bool :=
  isFinite position.x ∧ isFinite position.y ∧ isFinite position.z

-- Among the largest differences X comes first, then Y.
def decisionFor (npcId : Int) (step dx dy dz : F) : NpcAiDecision F :=
  let decision : NpcAiDecision F := ⟨npcId, lit 0, lit 0, lit 0⟩
  let absX := FloatOps.abs dx
  let absY := FloatOps.abs dy
  let absZ := FloatOps.abs dz
  if le absY absX ∧ le absZ absX ∧ lt (lit 0) absX then
    { decision with dx := if lt (lit 0) dx then step else neg step }
  else if le absZ absY ∧ lt (lit 0) absY then
    { decision with dy := if lt (lit 0) dy then step else neg step }
  else if lt (lit 0) absZ then
    { decision with dz := if lt (lit 0) dz then step else neg step }
  else decision

def NpcAiPlanner.plan (observation : NpcAiObservation F) : Option (NpcAiDecision F) :=
  let step := observation.step
  if observation.npcId ≤ 0 ∨ observation.npcAlive = false ∨ isFinite step = false ∨
      le step (lit 0) ∨ lt maxMoveDistancePerFrame step ∨
      validPosition observation.npcPosition = false ∨
      validPosition observation.targetPosition = false then none
  else
    let dx := sub observation.targetPosition.x observation.npcPosition.x
    let dy := sub observation.targetPosition.y observation.npcPosition.y
    let dz := sub observation.targetPosition.z observation.npcPosition.z
    if isFinite dx = false ∨ isFinite dy = false ∨ isFinite dz = false then none
    else
      let decision := decisionFor observation.npcId step dx dy dz
      if isValidMovementDelta decision.dx decision.dy decision.dz then some decision else none

def pursue (n : Int) (target : Position F) (step : F) (field : Field F) (worldTick : UInt64) : Field F :=
  let queued := do
    let npc ← field.findNpc n
    let decision ← NpcAiPlanner.plan ⟨n, npc.isAlive, npc.position, target, step⟩
    field.queueNpcMovement decision.npcId decision.dx decision.dy decision.dz
  (queued.getD field).processFrame worldTick

end

inductive Axis where
  | x
  | y
  | z
  deriving DecidableEq

instance : Fintype Axis := ⟨{.x, .y, .z}, by intro a; cases a <;> simp⟩

def coordinate (position : Position ℚ) : Axis → ℚ
  | .x => position.x
  | .y => position.y
  | .z => position.z

def gap (target position : Position ℚ) (a : Axis) : ℚ := |coordinate target a - coordinate position a|

def Inside (position : Position ℚ) : Prop := ∀ a, |coordinate position a| ≤ 1000000

structure Hunting (n : Int) (field : Field ℚ) (npc : Npc ℚ) : Prop where
  there : lookup field.npcList n = some npc
  alive : npc.isAlive = true
  own : npc.position.playerId = n
  alone : lookup field.playerList n = none
  moves : field.positionQueue = []
  actions : field.actionQueue = []

def placeOf (n : Int) (field : Field ℚ) : Option (Position ℚ) :=
  (lookup field.npcList n).map Npc.position

def Approaching (n : Int) (target : Position ℚ) (step : ℚ) (field : Field ℚ) : Prop :=
  ∀ worldTick, ∃ before after, placeOf n field = some before ∧
    placeOf n (pursue n target step field worldTick) = some after ∧
    ∀ a, Approach step (gap target before a) (gap target after a)

def NeverFarther (n : Int) (target : Position ℚ) (step : ℚ) (field : Field ℚ) : Prop :=
  ∀ worldTick before after, placeOf n field = some before →
    placeOf n (pursue n target step field worldTick) = some after →
    ∀ a, coordinate after a ≠ coordinate before a → gap target after a ≤ gap target before a

def WithinStep (n : Int) (target : Position ℚ) (step : ℚ) (field : Field ℚ) : Prop :=
  ∃ position, placeOf n field = some position ∧ Near step (gap target position)

def decided (n : Int) (delta : Axis → ℚ) : NpcAiDecision ℚ := ⟨n, delta .x, delta .y, delta .z⟩

def towards (target position : Position ℚ) (step : ℚ) (a : Axis) : ℚ :=
  if 0 < coordinate target a - coordinate position a then step else -step

theorem singleValid {s : ℚ} (square : s * s ≤ 100 * 100) (n : Int) (a : Axis) :
    isValidMovementDelta (decided n (Pi.single a s)).dx (decided n (Pi.single a s)).dy
      (decided n (Pi.single a s)).dz = true := by
  cases a <;>
    simpa [isValidMovementDelta, decided, Pi.single, Function.update, FloatOps.isFinite, FloatOps.le,
      FloatOps.add, FloatOps.mul, maxMoveDistancePerFrame, FloatOps.lit] using square

structure Heading (target position : Position ℚ) (step : ℚ) (delta : Axis → ℚ) (a : Axis) : Prop where
  largest : ∀ b, gap target position b ≤ gap target position a
  apart : 0 < gap target position a
  delta : delta = Pi.single a (towards target position step a)

theorem towardsSize (target position : Position ℚ) (step : ℚ) (a : Axis) :
    towards target position step a = step ∨ towards target position step a = -step := by
  unfold towards
  split
  · exact .inl rfl
  · exact .inr rfl

theorem decidedAlong (n : Int) (target position : Position ℚ) (step : ℚ) :
    decisionFor n step (target.x - position.x) (target.y - position.y) (target.z - position.z) =
      if gap target position .y ≤ gap target position .x ∧ gap target position .z ≤ gap target position .x ∧
          0 < gap target position .x then decided n (Pi.single .x (towards target position step .x))
      else if gap target position .z ≤ gap target position .y ∧ 0 < gap target position .y then
        decided n (Pi.single .y (towards target position step .y))
      else if 0 < gap target position .z then decided n (Pi.single .z (towards target position step .z))
      else decided n 0 := by
  unfold decisionFor
  simp only [FloatOps.le, FloatOps.lt, FloatOps.abs, FloatOps.lit, FloatOps.neg, decide_eq_true_eq]
  rfl

theorem headed (n : Int) (target position : Position ℚ) (step : ℚ) :
    ∃ delta, decisionFor n step (target.x - position.x) (target.y - position.y) (target.z - position.z) =
        decided n delta ∧
      ((delta = 0 ∧ ∀ a, gap target position a = 0) ∨ ∃ a, Heading target position step delta a) := by
  have nonneg (a : Axis) : 0 ≤ gap target position a := abs_nonneg _
  rw [decidedAlong]
  split_ifs with alongX alongY alongZ
  · refine ⟨_, rfl, .inr ⟨.x, ?_, alongX.2.2, rfl⟩⟩
    rintro (_ | _ | _)
    · exact le_refl _
    · exact alongX.1
    · exact alongX.2.1
  · refine ⟨_, rfl, .inr ⟨.y, ?_, alongY.2, rfl⟩⟩
    rintro (_ | _ | _)
    · by_contra beyond
      have more := not_le.mp beyond
      exact alongX ⟨more.le, alongY.1.trans more.le, alongY.2.trans more⟩
    · exact le_refl _
    · exact alongY.1
  · have second : gap target position .y ≤ gap target position .z := by
      by_contra beyond
      have more := not_le.mp beyond
      exact alongY ⟨more.le, alongZ.trans more⟩
    refine ⟨_, rfl, .inr ⟨.z, ?_, alongZ, rfl⟩⟩
    rintro (_ | _ | _)
    · by_contra beyond
      have more := not_le.mp beyond
      exact alongX ⟨second.trans more.le, more.le, alongZ.trans more⟩
    · exact second
    · exact le_refl _
  · have third : gap target position .z = 0 := le_antisymm (not_lt.mp alongZ) (nonneg .z)
    have second : gap target position .y = 0 := by
      refine le_antisymm (not_lt.mp fun more => alongY ⟨?_, more⟩) (nonneg .y)
      rw [third]
      exact more.le
    have first : gap target position .x = 0 := by
      refine le_antisymm (not_lt.mp fun more => alongX ⟨?_, ?_, more⟩) (nonneg .x)
      · rw [second]
        exact more.le
      · rw [third]
        exact more.le
    refine ⟨0, rfl, .inl ⟨rfl, ?_⟩⟩
    rintro (_ | _ | _)
    · exact first
    · exact second
    · exact third

theorem planned {n : Int} (positive : 0 < n) (target position : Position ℚ) {step : ℚ}
    (forward : 0 < step) (small : step ≤ 100) :
    ∃ delta, NpcAiPlanner.plan ⟨n, true, position, target, step⟩ = some (decided n delta) ∧
      ((delta = 0 ∧ ∀ a, gap target position a = 0) ∨ ∃ a, Heading target position step delta a) ∧
      isValidMovementDelta (decided n delta).dx (decided n delta).dy (decided n delta).dz = true := by
  have admitted : ¬ (n ≤ 0 ∨ true = false ∨ isFinite step = false ∨ le step (lit 0) = true ∨
      lt (maxMoveDistancePerFrame : ℚ) step = true ∨ validPosition position = false ∨
      validPosition target = false) := by
    simp [FloatOps.isFinite, FloatOps.le, FloatOps.lt, FloatOps.lit, maxMoveDistancePerFrame,
      validPosition, positive, forward]
    exact decide_eq_false (not_lt.mpr small)
  have finite : ¬ (isFinite (sub target.x position.x) = false ∨ isFinite (sub target.y position.y) = false ∨
      isFinite (sub target.z position.z) = false) := by
    simp [FloatOps.isFinite]
  obtain ⟨delta, heads, way⟩ := headed n target position step
  have valid : isValidMovementDelta (decided n delta).dx (decided n delta).dy (decided n delta).dz = true := by
    obtain ⟨rfl, -⟩ | ⟨a, heading⟩ := way
    · rw [← Pi.single_zero Axis.x]
      exact singleValid (by norm_num) n .x
    · rw [heading.delta]
      refine singleValid ?_ n a
      obtain size | size := towardsSize target position step a <;>
      · rw [size]
        nlinarith
  refine ⟨delta, ?_, way, valid⟩
  unfold NpcAiPlanner.plan
  dsimp only
  rw [if_neg admitted, if_neg finite]
  have same : decisionFor n step (sub target.x position.x) (sub target.y position.y)
      (sub target.z position.z) = decided n delta := heads
  rw [same, if_pos valid]

theorem integrated (position : Position ℚ) {n : Int} {delta : Axis → ℚ}
    (valid : isValidMovementDelta (decided n delta).dx (decided n delta).dy (decided n delta).dz = true) :
    (∃ next, integrateMovement position (decided n delta).dx (decided n delta).dy (decided n delta).dz =
        some next ∧ next.playerId = position.playerId ∧ Inside next ∧
        ∀ a, coordinate next a = coordinate position a + delta a) ∨
    (integrateMovement position (decided n delta).dx (decided n delta).dy (decided n delta).dz = none ∧
        ∃ a, 1000000 < |coordinate position a + delta a|) := by
  have inside (c : ℚ) : insideWorld c = true ↔ |c| ≤ 1000000 := by
    simp [insideWorld, FloatOps.isFinite, FloatOps.lt, FloatOps.abs, maxWorldCoordinate, FloatOps.lit]
    exact decide_eq_false_iff_not.trans not_lt
  unfold integrateMovement
  rw [if_neg (by simp [valid])]
  dsimp only
  split_ifs with all
  · left
    refine ⟨_, rfl, rfl, ?_, ?_⟩
    · rintro (_ | _ | _)
      · exact (inside _).mp all.1
      · exact (inside _).mp all.2.1
      · exact (inside _).mp all.2.2
    · rintro (_ | _ | _) <;> rfl
  · right
    refine ⟨rfl, ?_⟩
    by_contra none
    have within (a : Axis) : |coordinate position a + delta a| ≤ 1000000 :=
      not_lt.mp (fun beyond => none ⟨a, beyond⟩)
    exact all ⟨(inside _).mpr (within .x), (inside _).mpr (within .y), (inside _).mpr (within .z)⟩

theorem steppedGap {target position next : Position ℚ} {step : ℚ} {a : Axis}
    (moved : coordinate next a = coordinate position a + towards target position step a) :
    gap target next a = |gap target position a - step| := by
  unfold gap
  rw [moved]
  unfold towards
  split_ifs with ahead
  · rw [abs_of_pos ahead]
    congr 1
    ring
  · rw [abs_of_nonpos (not_lt.mp ahead), ← abs_neg]
    congr 1
    ring

theorem leavesNear {target position : Position ℚ} {step : ℚ} (forward : 0 < step) {a : Axis}
    (here : Inside position) (there : Inside target)
    (leaves : 1000000 < |coordinate position a + towards target position step a|) :
    gap target position a ≤ step := by
  have stands := abs_le.mp (here a)
  have aims := abs_le.mp (there a)
  unfold gap
  unfold towards at leaves
  split_ifs at leaves with ahead
  · rw [abs_of_pos ahead]
    rcases lt_abs.mp leaves with beyond | beyond
    · linarith
    · linarith
  · rw [abs_of_nonpos (not_lt.mp ahead)]
    rcases lt_abs.mp leaves with beyond | beyond
    · linarith
    · linarith

theorem decidedWalk {n : Int} {target position : Position ℚ} {step : ℚ} (forward : 0 < step)
    (here : Inside position) (there : Inside target) {delta : Axis → ℚ}
    (way : (delta = 0 ∧ ∀ a, gap target position a = 0) ∨ ∃ a, Heading target position step delta a)
    (valid : isValidMovementDelta (decided n delta).dx (decided n delta).dy (decided n delta).dz = true) :
    (∃ next, integrateMovement position (decided n delta).dx (decided n delta).dy (decided n delta).dz =
        some next ∧ next.playerId = position.playerId ∧ Inside next ∧
        Walk step (gap target position) (gap target next)) ∨
    (integrateMovement position (decided n delta).dx (decided n delta).dy (decided n delta).dz = none ∧
        Near step (gap target position)) := by
  obtain ⟨next, made, same, inside, moved⟩ | ⟨refused, b, leaves⟩ := integrated position valid
  · refine .inl ⟨next, made, same, inside, ?_⟩
    obtain ⟨rfl, zero⟩ | ⟨a, heading⟩ := way
    · refine .inl ⟨?_, fun a => (zero a).trans_le forward.le⟩
      funext a
      simp only [gap, moved a, Pi.zero_apply, add_zero]
    · refine .inr ⟨a, heading.largest, ?_⟩
      funext b
      have reached := moved b
      rw [heading.delta] at reached
      by_cases along : b = a
      · subst along
        rw [Pi.single_eq_same] at reached
        rw [Function.update_self]
        exact steppedGap reached
      · rw [Pi.single_eq_of_ne along, add_zero] at reached
        rw [Function.update_of_ne along]
        simp only [gap, reached]
  · refine .inr ⟨refused, ?_⟩
    obtain ⟨rfl, zero⟩ | ⟨a, heading⟩ := way
    · exact fun a => (zero a).trans_le forward.le
    · rw [heading.delta] at leaves
      by_cases along : b = a
      · subst along
        rw [Pi.single_eq_same] at leaves
        exact fun c => (heading.largest c).trans (leavesNear forward here there leaves)
      · rw [Pi.single_eq_of_ne along, add_zero] at leaves
        exact absurd (here b) (not_le.mpr leaves)

structure Quiet (n : Int) (before after : Field ℚ) : Prop where
  players : after.playerList = before.playerList
  moves : after.positionQueue = before.positionQueue
  actions : after.actionQueue = before.actionQueue
  npc : lookup after.npcList n = lookup before.npcList n

theorem respawnQuiet {n : Int} {field : Field ℚ} {npc : Npc ℚ} (there : lookup field.npcList n = some npc)
    (alive : npc.isAlive = true) (worldTick : UInt64) (entry : Int × NpcRespawnState ℚ) :
    Quiet n field (field.respawnDue worldTick entry) := by
  unfold Field.respawnDue
  split
  · exact ⟨rfl, rfl, rfl, rfl⟩
  · dsimp only
    split
    · exact ⟨rfl, rfl, rfl, rfl⟩
    · rename_i found
      split
      · exact ⟨rfl, rfl, rfl, rfl⟩
      · rename_i lifeless
        split
        · exact ⟨rfl, rfl, rfl, rfl⟩
        · refine ⟨rfl, rfl, rfl, ?_⟩
          rw [lookupInsert, Function.update_of_ne]
          rintro rfl
          obtain rfl := Option.some.inj (found.symm.trans there)
          exact lifeless alive

theorem respawnsQuiet {n : Int} {field : Field ℚ} {npc : Npc ℚ} (there : lookup field.npcList n = some npc)
    (alive : npc.isAlive = true) (worldTick : UInt64) : Quiet n field (field.takeRespawns worldTick) := by
  unfold Field.takeRespawns
  refine List.foldlRecOn (motive := Quiet n field) _ _ ⟨rfl, rfl, rfl, rfl⟩ ?_
  intro middle quiet entry _
  have next := respawnQuiet (quiet.npc.trans there) alive worldTick entry
  exact ⟨next.players.trans quiet.players, next.moves.trans quiet.moves,
    next.actions.trans quiet.actions, next.npc.trans quiet.npc⟩

theorem frameStill {n : Int} {field : Field ℚ} {npc : Npc ℚ} (hunting : Hunting n field npc)
    (worldTick : UInt64) : Hunting n (field.processFrame worldTick) npc := by
  have nothing : field.takePositions.takeActions = field := by
    have moves := hunting.moves
    have actions := hunting.actions
    cases field
    simp only at moves actions
    subst moves actions
    rfl
  have quiet := respawnsQuiet hunting.there hunting.alive worldTick
  unfold Field.processFrame
  rw [nothing]
  exact
    { there := quiet.npc.trans hunting.there
      alive := hunting.alive
      own := hunting.own
      alone := by rw [quiet.players]; exact hunting.alone
      moves := quiet.moves.trans hunting.moves
      actions := quiet.actions.trans hunting.actions }

theorem frameMoved {n : Int} {field : Field ℚ} {npc : Npc ℚ} (hunting : Hunting n field npc)
    {next : Position ℚ} (own : next.playerId = n) (worldTick : UInt64) :
    Hunting n (Field.processFrame { field with positionQueue := field.positionQueue ++ [next] } worldTick)
      (npc.setPosition next) := by
  let moved : Field ℚ := { field with npcList := field.npcList.insert n (npc.setPosition next) }
  have standing : Hunting n moved (npc.setPosition next) :=
    { hunting with
      there := by rw [lookupInsert, Function.update_self] }
  let waiting : Field ℚ := { field with positionQueue := [next] }
  have walks : waiting.movePosition next = { moved with positionQueue := [next] } := by
    have absent : waiting.playerList[next.playerId]? = none := by rw [own]; exact hunting.alone
    have found : waiting.npcList[next.playerId]? = some npc := by rw [own]; exact hunting.there
    unfold Field.movePosition
    rw [absent, found]
    simp only [hunting.alive, own]
    rfl
  have taken : Field.takePositions { field with positionQueue := field.positionQueue ++ [next] } =
      moved.takePositions := by
    have empty : moved.positionQueue = [] := hunting.moves
    rw [hunting.moves]
    calc waiting.takePositions
        = { waiting.movePosition next with positionQueue := [] } := rfl
      _ = { moved with positionQueue := [] } := by rw [walks]
      _ = moved.takePositions := by
          unfold Field.takePositions
          rw [empty]
          rfl
  unfold Field.processFrame
  rw [taken]
  exact frameStill standing worldTick

theorem pursueWalk {n : Int} (positive : 0 < n) {target : Position ℚ} (there : Inside target) {step : ℚ}
    (forward : 0 < step) (small : step ≤ 100) {field : Field ℚ} {npc : Npc ℚ}
    (hunting : Hunting n field npc) (here : Inside npc.position) (worldTick : UInt64) :
    ∃ later, Hunting n (pursue n target step field worldTick) later ∧ Inside later.position ∧
      Walk step (gap target npc.position) (gap target later.position) := by
  obtain ⟨delta, plans, way, valid⟩ := planned positive target npc.position forward small
  have found : field.findNpc n = some npc := hunting.there
  have queues : field.queueNpcMovement n (decided n delta).dx (decided n delta).dy (decided n delta).dz =
      (integrateMovement npc.position (decided n delta).dx (decided n delta).dy (decided n delta).dz).map
        (fun next => { field with positionQueue := field.positionQueue ++ [next] }) := by
    simp only [Field.queueNpcMovement, found, hunting.alive, Option.bind_eq_bind, Option.bind_some,
      Option.pure_def, Option.map_eq_bind]
    rfl
  have round : pursue n target step field worldTick = ((field.queueNpcMovement n (decided n delta).dx
      (decided n delta).dy (decided n delta).dz).getD field).processFrame worldTick := by
    simp only [pursue, found, hunting.alive, plans, Option.bind_eq_bind, Option.bind_some]
    rfl
  rw [round, queues]
  obtain ⟨next, made, same, inside, walk⟩ | ⟨refused, near⟩ := decidedWalk forward here there way valid
  · rw [made, Option.map_some, Option.getD_some]
    exact ⟨npc.setPosition next, frameMoved hunting (same.trans hunting.own) worldTick, inside, walk⟩
  · rw [refused, Option.map_none, Option.getD_none]
    exact ⟨npc, frameStill hunting worldTick, here, .inl ⟨rfl, near⟩⟩

def gaps (n : Int) (target : Position ℚ) (field : Field ℚ) (a : Axis) : ℚ :=
  match placeOf n field with
  | none => 0
  | some position => gap target position a

def Pursues (n : Int) (field : Field ℚ) : Prop := ∃ npc, Hunting n field npc ∧ Inside npc.position

theorem placed {n : Int} {field : Field ℚ} {npc : Npc ℚ} (hunting : Hunting n field npc) :
    placeOf n field = some npc.position := by
  rw [placeOf, hunting.there]
  rfl

theorem gapsPlaced {n : Int} {target position : Position ℚ} {field : Field ℚ}
    (there : placeOf n field = some position) : gaps n target field = gap target position := by
  funext a
  rw [gaps, there]

section
variable {n : Int} (positive : 0 < n) {target : Position ℚ} (there : Inside target) {step : ℚ}
  (forward : 0 < step) (small : step ≤ 100)
include positive there forward small

theorem pursuesOn (field : Field ℚ) (worldTick : UInt64) (pursues : Pursues n field) :
    Pursues n (pursue n target step field worldTick) := by
  obtain ⟨npc, hunting, here⟩ := pursues
  obtain ⟨later, still, inside, -⟩ := pursueWalk positive there forward small hunting here worldTick
  exact ⟨later, still, inside⟩

theorem pursuesWalk (field : Field ℚ) (worldTick : UInt64) (pursues : Pursues n field) :
    Walk step (gaps n target field) (gaps n target (pursue n target step field worldTick)) := by
  obtain ⟨npc, hunting, here⟩ := pursues
  obtain ⟨later, still, -, walk⟩ := pursueWalk positive there forward small hunting here worldTick
  rw [gapsPlaced (placed hunting), gapsPlaced (placed still)]
  exact walk

omit positive there forward small in
theorem putPursues {field after : Field ℚ} {type : Bytes} {status : Status} {x y z : ℚ}
    (put : field.putNpc (.make n type status ⟨n, x, y, z⟩) = some after) (lives : 0 < status.hp)
    (moves : field.positionQueue = []) (actions : field.actionQueue = [])
    (here : Inside ⟨n, x, y, z⟩) : Pursues n after := by
  obtain ⟨positive, absent, -, rfl⟩ := npcPut put
  have identified : 0 < n := positive
  have alive : (Npc.make n type status ⟨n, x, y, z⟩).isAlive = true := by
    simp [Npc.isAlive, Npc.make, lives]
  have stored : lookup (field.npcList.insert n (Npc.make n type status ⟨n, x, y, z⟩)) n =
      some (Npc.make n type status ⟨n, x, y, z⟩) := by
    rw [lookupInsert, Function.update_self]
  have alone : lookup field.playerList n = none := by
    refine Std.ExtTreeMap.getElem?_eq_none (fun there => ?_)
    have resolved : field.resolvePlayerId n = n := by
      rw [Field.resolvePlayerId, if_neg (not_le.mpr identified), if_pos (by simpa using there)]
    have present : field.hasPlayer n = true := decide_eq_true (resolved.symm ▸ identified)
    exact Bool.false_ne_true (absent.symm.trans present)
  exact ⟨_, ⟨stored, alive, rfl, alone, moves, actions⟩, here⟩

theorem pursuitApproaches {field : Field ℚ} (pursues : Pursues n field) :
    (∀ worldTicks, Always (pursue n target step) (Approaching n target step) field worldTicks) ∧
    ∃ rounds : Nat, ∀ worldTicks : List UInt64, rounds ≤ worldTicks.length →
      WithinStep n target step (run (pursue n target step) field worldTicks) := by
  have on := pursuesOn positive there forward small
  have walks := pursuesWalk positive there forward small
  have nonneg (field : Field ℚ) (a : Axis) : 0 ≤ gaps n target field a := by
    unfold gaps
    split
    · exact le_refl _
    · exact abs_nonneg _
  have pursuesRun (worldTicks : List UInt64) : Pursues n (run (pursue n target step) field worldTicks) :=
    alwaysOf (I := Pursues n) (P := fun _ _ => True) (fun _ => id) (fun field tick h _ => on field tick h)
      pursues (fun _ _ _ _ => trivial) worldTicks [] (List.append_nil _).symm
  constructor
  · intro worldTicks
    refine alwaysOf (I := Pursues n) (P := fun _ _ => True) ?_ (fun field tick h _ => on field tick h)
      pursues (fun _ _ _ _ => trivial)
    intro field pursues worldTick
    obtain ⟨npc, hunting, here⟩ := pursues
    obtain ⟨later, still, -, walk⟩ := pursueWalk positive there forward small hunting here worldTick
    exact ⟨npc.position, later.position, placed hunting, placed still,
      walkApproach forward (fun a => abs_nonneg _) walk⟩
  · obtain ⟨rounds, enough⟩ := exists_nat_ge ((∑ a, gaps n target field a) / step)
    refine ⟨rounds, fun worldTicks long => ?_⟩
    obtain ⟨npc, hunting, -⟩ := pursuesRun worldTicks
    refine ⟨npc.position, placed hunting, ?_⟩
    rw [← gapsPlaced (placed hunting)]
    refine walksArrive (I := Pursues n) forward nonneg on walks pursues ?_
    have all : ∑ a, gaps n target field a ≤ rounds * step := (div_le_iff₀ forward).mp enough
    have more : (rounds : ℚ) ≤ worldTicks.length := by exact_mod_cast long
    nlinarith

end

def meadow : Field ℚ :=
  ((Field.initial : Field ℚ).putNpc (.make 9 (ascii "slime") ⟨5, 0⟩ ⟨9, 0, 0, 0⟩)).getD Field.initial

def flower : Position ℚ := ⟨7, 1 / 4, 0, 0⟩

theorem meadowPursues : Pursues 9 meadow := by
  have put : (Field.initial : Field ℚ).putNpc (.make 9 (ascii "slime") ⟨5, 0⟩ ⟨9, 0, 0, 0⟩) =
      some meadow := by decide +kernel
  refine putPursues put (by decide) rfl rfl ?_
  rintro (_ | _ | _) <;> norm_num [coordinate]

theorem flowerInside : Inside flower := by
  rintro (_ | _ | _) <;> norm_num [coordinate, flower, abs_le]

theorem overstepped : Pursues 9 meadow ∧ Inside flower ∧
    (NpcAiPlanner.plan ⟨9, true, ⟨9, 0, 0, 0⟩, flower, 1⟩).isSome = true ∧
    ¬ NeverFarther 9 flower 1 meadow := by
  refine ⟨meadowPursues, flowerInside, by decide +kernel, fun never => ?_⟩
  have start : placeOf 9 meadow = some ⟨9, 0, 0, 0⟩ := by decide +kernel
  have moved : placeOf 9 (pursue 9 flower 1 meadow 0) = some ⟨9, 1, 0, 0⟩ := by decide +kernel
  have farther := never 0 _ _ start moved .x (by norm_num [coordinate])
  norm_num [gap, coordinate, flower, abs_le] at farther

def oak : Position ℚ := ⟨7, 5 / 2, -3, 4⟩

theorem oakInside : Inside oak := by
  rintro (_ | _ | _) <;> norm_num [coordinate, oak, abs_le]

theorem oakApproached :
    (∀ worldTicks, Always (pursue 9 oak 1) (Approaching 9 oak 1) meadow worldTicks) ∧
    (∃ rounds : Nat, ∀ worldTicks : List UInt64, rounds ≤ worldTicks.length →
      WithinStep 9 oak 1 (run (pursue 9 oak 1) meadow worldTicks)) ∧
    ([3, 9, 10, 11].map fun rounds => placeOf 9
        (run (pursue 9 oak 1) meadow ((List.range rounds).map UInt64.ofNat))) =
      [some ⟨9, 0, -1, 2⟩, some ⟨9, 2, -3, 4⟩, some ⟨9, 3, -3, 4⟩, some ⟨9, 2, -3, 4⟩] := by
  obtain ⟨approaching, arrives⟩ :=
    pursuitApproaches (by decide) oakInside (by norm_num : (0 : ℚ) < 1) (by norm_num) meadowPursues
  exact ⟨approaching, arrives, by decide +kernel⟩

end SeedOrigin.Pursuit
