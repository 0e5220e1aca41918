import SeedOrigin.ActionFrames
import SeedOrigin.FailedFrames
import SeedOrigin.FieldWrites
import SeedOrigin.FramePositions

/-! A scheduled respawn over any order of frames of both paths and of calls in
between. Only the older path takes respawns from the schedule. -/
namespace SeedOrigin
open SeedOrigin.Character

section
variable {F : Type}

def Field.unsetNpc (field : Field F) (npcId : Int) : Field F × Bool :=
  ({ field with
      npcRespawns := field.npcRespawns.erase npcId
      npcList := field.npcList.erase npcId },
    field.npcList.contains npcId)

end

end SeedOrigin

namespace SeedOrigin.Respawns
open SeedOrigin.Octets SeedOrigin.Numbers SeedOrigin.Character SeedOrigin.ClientInput
open SeedOrigin.Ether SeedOrigin.Inputs SeedOrigin.UpdateBuilder SeedOrigin.Applier
open SeedOrigin.Maps SeedOrigin.FieldState SeedOrigin.Presence SeedOrigin.FieldCalls
open SeedOrigin.FieldEffects SeedOrigin.FieldWrites SeedOrigin.FramePositions
open SeedOrigin.ActionFrames SeedOrigin.Runs

section
variable {F : Type}

structure Spares (n : Int) (before after : Field F) : Prop where
  respawn : lookup after.npcRespawns n = lookup before.npcRespawns n
  npc : ∀ npc, lookup before.npcList n = some npc →
    ∃ later, lookup after.npcList n = some later ∧ (npc.isAlive = false → later = npc)

theorem sparesOf {n : Int} {before after : Field F} (npcs : after.npcList = before.npcList)
    (respawns : after.npcRespawns = before.npcRespawns) : Spares n before after :=
  ⟨by rw [respawns], fun npc there => ⟨npc, by rw [npcs]; exact there, fun _ => rfl⟩⟩

theorem Spares.refl (n : Int) (field : Field F) : Spares n field field := sparesOf rfl rfl

theorem Spares.trans {n : Int} {a b c : Field F} (first : Spares n a b) (second : Spares n b c) :
    Spares n a c := by
  refine ⟨second.respawn.trans first.respawn, fun npc there => ?_⟩
  obtain ⟨middle, found, same⟩ := first.npc npc there
  obtain ⟨later, found', same'⟩ := second.npc middle found
  refine ⟨later, found', fun dead => ?_⟩
  obtain rfl := same dead
  exact same' dead

theorem sparesInsert {n k : Int} {before after : Field F} {npc changed : Npc F}
    (there : lookup before.npcList k = some npc) (alive : npc.isAlive = true)
    (npcs : after.npcList = before.npcList.insert k changed)
    (respawns : after.npcRespawns = before.npcRespawns) : Spares n before after := by
  refine ⟨by rw [respawns], fun other found => ?_⟩
  rw [npcs, lookupInsert]
  by_cases here : n = k
  · rw [here, Function.update_self]
    refine ⟨changed, rfl, fun dead => ?_⟩
    rw [here, there] at found
    obtain rfl := Option.some.inj found
    rw [alive] at dead
    contradiction
  · rw [Function.update_of_ne here]
    exact ⟨other, found, fun _ => rfl⟩

theorem foldSpares {A : Type} {n : Int} {step : Field F → A → Field F}
    (spares : ∀ field a, Spares n field (step field a)) (items : List A) (field : Field F) :
    Spares n field (items.foldl step field) := by
  induction items generalizing field with
  | nil => exact Spares.refl n field
  | cons a items ih => exact (spares field a).trans (ih (step field a))

theorem moveSpares (n : Int) (field : Field F) (next : Position F) :
    Spares n field (field.movePosition next) := by
  unfold Field.movePosition
  split
  · exact sparesOf rfl rfl
  · split
    · exact Spares.refl n field
    · rename_i npc found
      split
      · exact Spares.refl n field
      · rename_i alive
        exact sparesInsert found (by simpa using alive) rfl rfl

def known (n : Int) (field : Field F) : Option (Npc F) × Option (NpcRespawnState F) :=
  (lookup field.npcList n, lookup field.npcRespawns n)

theorem sparesKnown {n : Int} {before after : Field F} (same : known n after = known n before) :
    Spares n before after := by
  obtain ⟨npcs, respawns⟩ := Prod.mk.inj same
  exact ⟨respawns, fun npc there => ⟨npc, npcs.trans there, fun _ => rfl⟩⟩

theorem putKnown (n : Int) (field : Field F) (frame : FrameActions) :
    known n (putActions field frame) = known n field :=
  foldSame (f := known n) (fun (field : Field F) (queued : QueuedAction) =>
    (rfl : known n (field.putActionQueue queued.action) = known n field)) frame.actions field

theorem respawnElsewhere (worldTick : UInt64) (field : Field F) {n : Int}
    {entry : Int × NpcRespawnState F} (other : entry.1 ≠ n) :
    known n (field.respawnDue worldTick entry) = known n field := by
  have erased : lookup (field.npcRespawns.erase entry.1) n = lookup field.npcRespawns n := by
    rw [lookupErase, Function.update_of_ne other.symm]
  unfold Field.respawnDue known
  split
  · rfl
  · dsimp only
    split
    · rw [erased]
    · split
      · rw [erased]
      · split
        · rw [erased]
        · rw [erased, lookupInsert, Function.update_of_ne other.symm]

theorem respawnsElsewhere (worldTick : UInt64) {n : Int} {entries : List (Int × NpcRespawnState F)}
    (others : ∀ entry ∈ entries, entry.1 ≠ n) (field : Field F) :
    known n (entries.foldl (Field.respawnDue worldTick) field) = known n field := by
  induction entries generalizing field with
  | nil => rfl
  | cons entry entries ih =>
    obtain ⟨here, later⟩ := List.forall_mem_cons.mp others
    exact (ih later _).trans (respawnElsewhere worldTick field here)

theorem respawnsHere (worldTick : UInt64) {field : Field F} {n : Int} {respawn : NpcRespawnState F}
    (there : lookup field.npcRespawns n = some respawn) :
    ∃ middle, known n middle = known n field ∧
      known n (field.takeRespawns worldTick) = known n (middle.respawnDue worldTick (n, respawn)) := by
  have listed : (n, respawn) ∈ field.npcRespawns.toList :=
    Std.ExtTreeMap.mem_toList_iff_getElem?_eq_some.mpr there
  have distinct : field.npcRespawns.toList.Pairwise (fun a b => a.1 ≠ b.1) :=
    Std.ExtTreeMap.distinct_keys_toList.imp (fun apart same => apart (by simp [same]))
  obtain ⟨front, back, split⟩ := List.append_of_mem listed
  rw [split, List.pairwise_append, List.pairwise_cons] at distinct
  obtain ⟨-, ⟨later, -⟩, before⟩ := distinct
  refine ⟨front.foldl (Field.respawnDue worldTick) field, ?_, ?_⟩
  · refine respawnsElsewhere worldTick (fun entry inFront => ?_) field
    exact before entry inFront (n, respawn) List.mem_cons_self
  · unfold Field.takeRespawns
    rw [split, List.foldl_append, List.foldl_cons]
    exact respawnsElsewhere worldTick (fun entry inBack => (later entry inBack).symm) _

theorem respawnsAbsent (worldTick : UInt64) {field : Field F} {n : Int}
    (none : lookup field.npcRespawns n = none) :
    known n (field.takeRespawns worldTick) = known n field := by
  refine respawnsElsewhere worldTick (fun entry there same => ?_) field
  have found := Std.ExtTreeMap.mem_toList_iff_getElem?_eq_some.mp there
  rw [same, show field.npcRespawns[n]? = Option.none from none] at found
  contradiction

def Dead (n : Int) (field : Field F) : Prop :=
  ∃ npc, lookup field.npcList n = some npc ∧ npc.isAlive = false

def Living (n : Int) (field : Field F) : Prop :=
  ∃ npc, lookup field.npcList n = some npc ∧ npc.isAlive = true

def Back (n : Int) (status : Status) (position : Position F) (field : Field F) : Prop :=
  ∃ npc, lookup field.npcList n = some npc ∧ npc.isAlive = true ∧ npc.status = status ∧
    npc.position.x = position.x ∧ npc.position.y = position.y ∧ npc.position.z = position.z

structure Waiting (n : Int) (respawn : NpcRespawnState F) (field : Field F) : Prop where
  dead : Dead n field
  entry : lookup field.npcRespawns n = some respawn

structure Taken (n : Int) (field : Field F) : Prop where
  there : (lookup field.npcList n).isSome = true
  entry : lookup field.npcRespawns n = none

theorem deadSpared {n : Int} {before after : Field F} (spares : Spares n before after)
    (dead : Dead n before) : Dead n after := by
  obtain ⟨npc, found, lifeless⟩ := dead
  obtain ⟨later, found', same⟩ := spares.npc npc found
  exact ⟨later, found', by rw [same lifeless, lifeless]⟩

theorem deadThere {n : Int} {field : Field F} (dead : Dead n field) :
    (lookup field.npcList n).isSome = true := by
  obtain ⟨npc, found, -⟩ := dead
  rw [found]
  rfl

theorem waitingSpared {n : Int} {respawn : NpcRespawnState F} {before after : Field F}
    (spares : Spares n before after) (waiting : Waiting n respawn before) : Waiting n respawn after :=
  ⟨deadSpared spares waiting.dead, spares.respawn.trans waiting.entry⟩

theorem takenSpared {n : Int} {before after : Field F} (spares : Spares n before after)
    (taken : Taken n before) : Taken n after := by
  obtain ⟨npc, found⟩ := Option.isSome_iff_exists.mp taken.there
  obtain ⟨later, found', -⟩ := spares.npc npc found
  exact ⟨by rw [found']; rfl, spares.respawn.trans taken.entry⟩

variable [FloatOps F]

theorem writeSpares (n : Int) {before after : Field F} (write : Write before after) :
    Spares n before after := by
  cases write with
  | player there change => exact sparesOf rfl rfl
  | @npc k damage npc changed there hit =>
    refine sparesInsert there ?_ rfl rfl
    unfold Npc.applyDamage at hit
    by_contra dead
    rw [if_pos (.inl (Bool.eq_false_iff.mpr dead))] at hit
    contradiction
  | world status ether attack spell => exact sparesOf rfl rfl
  | ended ether => exact sparesOf rfl rfl

theorem writesSpare (n : Int) {before after : Field F} (writes : Writes before after) :
    Spares n before after := by
  induction writes with
  | refl => exact Spares.refl n before
  | tail _ last ih => exact ih.trans (writeSpares n last)

theorem queueSpares (n : Int) (field : Field F) : Spares n field field.takePositions.takeActions := by
  have moved : Spares n field field.takePositions :=
    (foldSpares (moveSpares n) field.positionQueue field).trans (sparesOf rfl rfl)
  exact moved.trans ((foldSpares (fun _ action => writesSpare n (actionWrites _ action)) _ _).trans (sparesOf rfl rfl))

theorem frameSpares {n : Int} {field : Field F} (none : lookup field.npcRespawns n = none)
    (worldTick : UInt64) : Spares n field (field.processFrame worldTick) := by
  have queued := queueSpares n field
  exact queued.trans (sparesKnown (respawnsAbsent worldTick (queued.respawn.trans none)))

theorem frameWaits {n : Int} {respawn : NpcRespawnState F} {field : Field F}
    (waiting : Waiting n respawn field) {worldTick : UInt64} (early : worldTick < respawn.respawnTick) :
    Waiting n respawn (field.processFrame worldTick) := by
  have queued := waitingSpared (queueSpares n field) waiting
  obtain ⟨middle, same, result⟩ := respawnsHere worldTick queued.entry
  have kept : known n (field.processFrame worldTick) = known n field.takePositions.takeActions := by
    unfold Field.processFrame
    rw [result, Field.respawnDue, if_pos early, same]
  exact waitingSpared (sparesKnown kept) queued

theorem frameBrings {n : Int} {respawn : NpcRespawnState F} {field : Field F}
    (waiting : Waiting n respawn field) (lives : 0 < respawn.status.hp) {worldTick : UInt64}
    (due : respawn.respawnTick ≤ worldTick) :
    Back n respawn.status respawn.position (field.processFrame worldTick) ∧
      Taken n (field.processFrame worldTick) := by
  have queued := waitingSpared (queueSpares n field) waiting
  obtain ⟨npc, found, lifeless⟩ := queued.dead
  obtain ⟨middle, same, result⟩ := respawnsHere worldTick queued.entry
  obtain ⟨there, -⟩ := Prod.mk.inj same
  have brought : known n (field.processFrame worldTick) =
      (some { npc.setPosition respawn.position with status := respawn.status, alive := true }, none) := by
    unfold Field.processFrame
    rw [result, Field.respawnDue, if_neg (UInt64.not_lt.mpr due)]
    have now : middle.findNpc n = some npc := there.trans found
    simp only [now, lifeless, Npc.respawn, if_neg (not_le.mpr lives), known, lookupInsert, lookupErase,
      Function.update_self, Bool.false_eq_true, if_false]
  obtain ⟨back, gone⟩ := Prod.mk.inj brought
  refine ⟨⟨_, back, ?_, rfl, rfl, rfl, rfl⟩, by rw [back]; rfl, gone⟩
  simp [Npc.isAlive, lives]

theorem inputsSpare (n : Int) (applier : WorldFrameApplier F) (field : Field F)
    (frame : WorldFrameInputs F) : Spares n field (apply applier field frame).field := by
  have processed := writesSpare n (processedWrites field frame.inputs frame.worldTick)
  unfold apply
  dsimp only
  split
  · exact Spares.refl n field
  · split
    · exact Spares.refl n field
    · split
      · rename_i made
        rwa [made] at processed
      · rename_i made
        rw [made] at processed
        split <;> exact processed

structure FrameWorld (F : Type) where
  applier : WorldFrameApplier F := {}
  presence : FieldSessionPresence F

-- A frame of either path, or a call in between. The queues of a frame hold
-- whatever came in.
inductive FrameEvent (F : Type) where
  | actions (queues : FrameQueues F) (frame : FrameActions)
  | inputs (frame : WorldFrameInputs F)
  | call (call : FieldCall F)
  | unsetNpc (npcId : Int)

def frameStep (s : FrameWorld F) : FrameEvent F → FrameWorld F
  | .actions queues frame =>
    let applied := applyActions s.applier queues s.presence.field frame
    ⟨applied.applier, { s.presence with field := applied.field }⟩
  | .inputs frame =>
    let applied := apply s.applier s.presence.field frame
    ⟨applied.applier, { s.presence with field := applied.field }⟩
  | .call call => { s with presence := callField s.presence call }
  | .unsetNpc npcId =>
    { s with presence := { s.presence with field := (s.presence.field.unsetNpc npcId).1 } }

def tickOf : FrameEvent F → Option UInt64
  | .actions _ frame => some frame.worldTick
  | .inputs frame => some frame.worldTick
  | _ => none

def Applies (s : FrameWorld F) : FrameEvent F → Prop
  | .actions queues frame => (applyActions s.applier queues s.presence.field frame).outcome = .ok ()
  | .inputs frame => (apply s.applier s.presence.field frame).outcome = .ok ()
  | _ => False

def Leaves (n : Int) : FrameEvent F → Prop
  | .call (.scheduleNpcRespawn npcId _ _ _) => npcId ≠ n
  | .call (.processInputs _ _) => False
  | .call (.processFrame _) => False
  | .unsetNpc npcId => npcId ≠ n
  | _ => True

theorem callSpares {n : Int} {presence : FieldSessionPresence F} {call : FieldCall F}
    (there : (lookup presence.field.npcList n).isSome = true) (leaves : Leaves n (.call call)) :
    Spares n presence.field (callField presence call).field := by
  have kept {made : Option (Field F)}
      (spares : ∀ field, made = some field → Spares n presence.field field) :
      Spares n presence.field (made.getD presence.field) := by
    cases made with
    | none => exact Spares.refl n presence.field
    | some field => exact spares field rfl
  cases call with
  | placeAfterLogin port settings sessionId claimedId =>
    obtain ⟨⟨npcs, -, respawns⟩, -⟩ :=
      WorldBounds.placedStands port settings presence sessionId claimedId
    exact sparesOf npcs respawns
  | operatorSetPlayerName auth name =>
    simp only [callField]
    obtain same | ⟨-, -, -, -, field, renamed, made⟩ := operatorCases presence auth name
    · rw [same]
      exact Spares.refl n presence.field
    · rw [made]
      obtain ⟨rfl, -⟩ | ⟨key, player, -, -, -, rfl⟩ := renameFound renamed
      · exact Spares.refl n presence.field
      · exact sparesOf rfl rfl
  | removeAfterLogout sessionId =>
    obtain ⟨sessions, players, shape⟩ := unbindShape presence.field sessionId
    unfold callField removeAfterLogout
    dsimp only
    split
    · exact Spares.refl n presence.field
    · rw [shape]
      exact sparesOf rfl rfl
  | putNpc npc =>
    refine kept (fun field put => ?_)
    obtain ⟨-, -, absent, rfl⟩ := npcPut put
    have other : n ≠ npc.id := by
      rintro rfl
      have gone : lookup presence.field.npcList npc.id = none := absent
      rw [gone] at there
      contradiction
    refine ⟨rfl, fun old found => ⟨old, ?_, fun _ => rfl⟩⟩
    rw [lookupInsert, Function.update_of_ne other]
    exact found
  | putActionQueue action => exact sparesOf rfl rfl
  | queueMovement playerId dx dy dz =>
    refine kept (fun field queued => ?_)
    obtain ⟨player, next, -, -, rfl⟩ := movementQueued queued
    exact sparesOf rfl rfl
  | queueNpcMovement npcId dx dy dz =>
    refine kept (fun field queued => ?_)
    obtain ⟨npc, next, -, -, -, rfl⟩ := npcMovementQueued queued
    exact sparesOf rfl rfl
  | scheduleNpcRespawn npcId respawnTick status position =>
    refine kept (fun field scheduled => ?_)
    obtain ⟨npc, -, rfl⟩ := respawnScheduled scheduled
    refine sparesKnown (Prod.ext rfl ?_)
    simp only [known, lookupInsert, Function.update_of_ne (Ne.symm leaves)]
  | processInputs inputs worldTick => exact absurd leaves not_false
  | processFrame worldTick => exact absurd leaves not_false

def ByActions : FrameEvent F → Prop
  | .actions _ _ => True
  | _ => False

def Due (tick : UInt64) (s : FrameWorld F) (e : FrameEvent F) : Prop :=
  Applies s e ∧ ∃ t, tickOf e = some t ∧ tick ≤ t

def FirstDue (tick : UInt64) (start : FrameWorld F) (before : List (FrameEvent F)) (e : FrameEvent F) :
    Prop :=
  Along frameStep (fun s f => ¬ Due tick s f) start before ∧ Due tick (run frameStep start before) e

theorem stepSpares {n : Int} {s : FrameWorld F} {e : FrameEvent F}
    (there : (lookup s.presence.field.npcList n).isSome = true) (leaves : Leaves n e)
    (quiet : ¬ (Applies s e ∧ ByActions e)) :
    Spares n s.presence.field (frameStep s e).presence.field := by
  cases e with
  | actions queues frame =>
    obtain ⟨success, -⟩ | ⟨-, targets, kept⟩ := actionsCases s.applier queues s.presence.field frame
    · exact absurd ⟨success, trivial⟩ quiet
    · have same : (frameStep s (.actions queues frame)).presence.field =
          queuedOn s.presence.field targets := kept
      rw [same]
      exact sparesOf rfl rfl
  | inputs frame => exact inputsSpare n s.applier s.presence.field frame
  | call call => exact callSpares there leaves
  | unsetNpc npcId =>
    refine sparesKnown (Prod.ext ?_ ?_) <;>
      simp only [known, frameStep, Field.unsetNpc, lookupErase, Function.update_of_ne (Ne.symm leaves)]

theorem actionsProcess {s : FrameWorld F} {queues : FrameQueues F} {frame : FrameActions}
    (applies : Applies s (.actions queues frame)) (n : Int) :
    ∃ field, known n field = known n s.presence.field ∧
      (frameStep s (.actions queues frame)).presence.field = field.processFrame frame.worldTick := by
  obtain ⟨-, targets, -, -, after⟩ | ⟨failure, -⟩ :=
    actionsCases s.applier queues s.presence.field frame
  · exact ⟨_, putKnown n (queuedOn s.presence.field targets) frame, after⟩
  · exact absurd applies failure

theorem waitStep {n : Int} {respawn : NpcRespawnState F} {s : FrameWorld F} {e : FrameEvent F}
    (waiting : Waiting n respawn s.presence.field) (leaves : Leaves n e)
    (early : ¬ (Due respawn.respawnTick s e ∧ ByActions e)) :
    Waiting n respawn (frameStep s e).presence.field := by
  by_cases frame : Applies s e ∧ ByActions e
  · cases e with
    | actions queues frame' =>
      obtain ⟨field, same, after⟩ := actionsProcess frame.1 n
      rw [after]
      refine frameWaits (waitingSpared (sparesKnown same) waiting) (UInt64.not_le.mp (fun due => ?_))
      exact early ⟨⟨frame.1, frame'.worldTick, rfl, due⟩, trivial⟩
    | inputs frame' => exact absurd frame.2 not_false
    | call call => exact absurd frame.2 not_false
    | unsetNpc npcId => exact absurd frame.2 not_false
  · exact waitingSpared (stepSpares (deadThere waiting.dead) leaves frame) waiting

theorem bringStep {n : Int} {respawn : NpcRespawnState F} {s : FrameWorld F} {e : FrameEvent F}
    (waiting : Waiting n respawn s.presence.field) (lives : 0 < respawn.status.hp)
    (due : Due respawn.respawnTick s e) (actions : ByActions e) :
    Back n respawn.status respawn.position (frameStep s e).presence.field ∧
      Taken n (frameStep s e).presence.field := by
  cases e with
  | actions queues frame =>
    obtain ⟨applies, tick, same, reached⟩ := due
    obtain rfl : frame.worldTick = tick := Option.some.inj same
    obtain ⟨field, known, after⟩ := actionsProcess applies n
    rw [after]
    exact frameBrings (waitingSpared (sparesKnown known) waiting) lives reached
  | inputs frame => exact absurd actions not_false
  | call call => exact absurd actions not_false
  | unsetNpc npcId => exact absurd actions not_false

theorem takenStep {n : Int} {s : FrameWorld F} {e : FrameEvent F} (taken : Taken n s.presence.field)
    (leaves : Leaves n e) : Spares n s.presence.field (frameStep s e).presence.field := by
  by_cases frame : Applies s e ∧ ByActions e
  · cases e with
    | actions queues frame' =>
      obtain ⟨field, same, after⟩ := actionsProcess frame.1 n
      have spares := sparesKnown same
      rw [after]
      exact spares.trans (frameSpares (spares.respawn.trans taken.entry) frame'.worldTick)
    | inputs frame' => exact absurd frame.2 not_false
    | call call => exact absurd frame.2 not_false
    | unsetNpc npcId => exact absurd frame.2 not_false
  · exact stepSpares taken.there leaves frame

theorem takenRun {n : Int} {s : FrameWorld F} (taken : Taken n s.presence.field)
    {events : List (FrameEvent F)} (leaves : ∀ e ∈ events, Leaves n e) :
    Spares n s.presence.field (run frameStep s events).presence.field := by
  induction events generalizing s with
  | nil => exact Spares.refl n s.presence.field
  | cons e events ih =>
    obtain ⟨here, later⟩ := List.forall_mem_cons.mp leaves
    have first := takenStep taken here
    exact first.trans (ih (takenSpared first taken) later)

theorem eitherRun {n : Int} {respawn : NpcRespawnState F} (lives : 0 < respawn.status.hp)
    {s : FrameWorld F} (waiting : Waiting n respawn s.presence.field) {events : List (FrameEvent F)}
    (leaves : ∀ e ∈ events, Leaves n e) :
    Waiting n respawn (run frameStep s events).presence.field ∨
      Taken n (run frameStep s events).presence.field := by
  induction events generalizing s with
  | nil => exact .inl waiting
  | cons e events ih =>
    obtain ⟨here, later⟩ := List.forall_mem_cons.mp leaves
    by_cases due : Due respawn.respawnTick s e ∧ ByActions e
    · have taken := (bringStep waiting lives due.1 due.2).2
      exact .inr (takenSpared (takenRun taken later) taken)
    · exact ih (waitStep waiting here due) later

theorem waitingRun {n : Int} {respawn : NpcRespawnState F} {s : FrameWorld F}
    (waiting : Waiting n respawn s.presence.field) {events : List (FrameEvent F)}
    (early : Along frameStep (fun s e => Leaves n e ∧ ¬ (Due respawn.respawnTick s e ∧ ByActions e)) s
      events) : Waiting n respawn (run frameStep s events).presence.field :=
  alwaysOf (I := fun s => Waiting n respawn s.presence.field) (fun _ waits => waits)
    (fun _ _ waits both => waitStep waits both.1 both.2) waiting early events [] (List.append_nil _).symm

structure OnSchedule (n : Int) (respawn : NpcRespawnState F) (start : FrameWorld F)
    (events : List (FrameEvent F)) : Prop where
  dead : ∀ before e after tick, events = before ++ e :: after → tickOf e = some tick →
    tick < respawn.respawnTick → Dead n (run frameStep start (before ++ [e])).presence.field
  back : ∀ before e after, events = before ++ e :: after →
    FirstDue respawn.respawnTick start before e →
    Back n respawn.status respawn.position (run frameStep start (before ++ [e])).presence.field
  once : ∀ before middle later after, events = before ++ middle ++ later ++ after →
    Living n (run frameStep start before).presence.field →
    Dead n (run frameStep start (before ++ middle)).presence.field →
    Dead n (run frameStep start (before ++ middle ++ later)).presence.field

omit [FloatOps F] in
theorem deadNotLiving {n : Int} {field : Field F} (dead : Dead n field) : ¬ Living n field := by
  rintro ⟨npc, found, alive⟩
  obtain ⟨other, found', lifeless⟩ := dead
  obtain rfl := Option.some.inj (found.symm.trans found')
  rw [alive] at lifeless
  contradiction

theorem scheduledWaits {n : Int} {tick : UInt64} {status : Status} {position : Position F}
    {before after : Field F} (scheduled : before.scheduleNpcRespawn n tick status position = some after) :
    Waiting n ⟨status, position, tick⟩ after ∧ 0 < status.hp := by
  obtain ⟨npc, checked, rfl⟩ := respawnScheduled scheduled
  refine ⟨⟨⟨npc, checked.found, checked.dead⟩, ?_⟩, checked.lives⟩
  rw [lookupInsert, Function.update_self]

theorem earlyFrames (start : FrameWorld F) {tick t : UInt64} {before after : List (FrameEvent F)}
    {e : FrameEvent F} (rising : ((before ++ e :: after).filterMap tickOf).Pairwise (fun a b => a < b))
    (here : tickOf e = some t) (early : t < tick) :
    Along frameStep (fun s f => ¬ Due tick s f) start (before ++ [e]) := by
  intro front f back split due
  obtain ⟨-, u, same, reached⟩ := due
  have listed : f ∈ before ++ [e] := by rw [split]; simp
  have small : u ≤ t := by
    rcases List.mem_append.mp listed with inside | last
    · rw [List.filterMap_append, List.pairwise_append] at rising
      refine UInt64.le_of_lt (rising.2.2 u (List.mem_filterMap.mpr ⟨f, inside, same⟩) t ?_)
      exact List.mem_filterMap.mpr ⟨e, List.mem_cons_self, here⟩
    · obtain rfl := List.mem_singleton.mp last
      rw [here] at same
      exact UInt64.le_of_eq (Option.some.inj same).symm
  exact absurd (UInt64.le_trans reached small) (UInt64.not_le.mpr early)

theorem onScheduleExact {n : Int} {tick : UInt64} {status : Status} {position : Position F}
    {before : Field F} {start : FrameWorld F}
    (scheduled : before.scheduleNpcRespawn n tick status position = some start.presence.field)
    {events : List (FrameEvent F)}
    (rising : (events.filterMap tickOf).Pairwise (fun a b => a < b))
    (leaves : ∀ e ∈ events, Leaves n e) :
    OnSchedule n ⟨status, position, tick⟩ start events ↔
      ∀ front e back, events = front ++ e :: back → FirstDue tick start front e → ByActions e := by
  obtain ⟨waiting, lives⟩ := scheduledWaits scheduled
  have quiet {front : List (FrameEvent F)} (inside : ∀ e ∈ front, Leaves n e)
      (early : Along frameStep (fun s e => ¬ (Due tick s e ∧ ByActions e)) start front) :
      Waiting n ⟨status, position, tick⟩ (run frameStep start front).presence.field :=
    waitingRun waiting (fun a e b split => ⟨inside e (by rw [split]; simp), early a e b split⟩)
  have step (front : List (FrameEvent F)) (e : FrameEvent F) :
      run frameStep start (front ++ [e]) = frameStep (run frameStep start front) e :=
    runAppend frameStep start front [e]
  constructor
  · intro onSchedule front e back split first
    by_contra other
    have inFront : ∀ f ∈ front, Leaves n f := fun f there => leaves f (by rw [split]; simp [there])
    have waits := quiet inFront (fun a f b split both => first.1 a f b split both.1)
    have still := waitStep waits (leaves e (by rw [split]; simp)) (fun both => other both.2)
    obtain ⟨npc, found, alive, -⟩ := onSchedule.back front e back split first
    rw [step] at found
    exact deadNotLiving still.dead ⟨npc, found, alive⟩
  · intro actions
    refine ⟨fun front e back t split here early => ?_, fun front e back split first => ?_,
      fun front middle later back split living dead => ?_⟩
    · rw [split] at rising
      have none := earlyFrames start rising here early
      refine (quiet (fun f there => leaves f ?_) (fun a f b split both => none a f b split both.1)).dead
      rw [split]
      simp only [List.mem_append, List.mem_cons] at there ⊢
      tauto
    · have inFront : ∀ f ∈ front, Leaves n f := fun f there => leaves f (by rw [split]; simp [there])
      have waits := quiet inFront (fun a f b split both => first.1 a f b split both.1)
      rw [step]
      exact (bringStep waits lives first.2 (actions front e back split first)).1
    · have inside : ∀ e ∈ front ++ (middle ++ later), Leaves n e := by
        intro e there
        refine leaves e ?_
        rw [split]
        simp only [List.mem_append] at there ⊢
        tauto
      have first : ∀ e ∈ front, Leaves n e := fun e there => inside e (List.mem_append_left _ there)
      obtain waits | taken := eitherRun lives waiting first
      · exact absurd living (deadNotLiving waits.dead)
      · have toMiddle := takenRun taken (fun e there =>
          inside e (List.mem_append_right _ (List.mem_append_left _ there)))
        have toLater := takenRun (takenSpared toMiddle taken) (fun e there =>
          inside e (List.mem_append_right _ (List.mem_append_right _ there)))
        rw [runAppend] at dead
        rw [runAppend, runAppend]
        exact deadSpared toLater dead

end

def den : Field ℚ :=
  { (Field.initial : Field ℚ) with
    npcList := (∅ : IntMap (Npc ℚ)).insert 9 (.make 9 (ascii "slime") ⟨0, 0⟩ ⟨9, 0, 0, 0⟩) }

def denStart : FrameWorld ℚ :=
  ⟨{}, ⟨(den.scheduleNpcRespawn 9 2 ⟨5, 0⟩ ⟨9, 3, 0, 0⟩).getD den, ∅⟩⟩

theorem denScheduled :
    den.scheduleNpcRespawn 9 2 ⟨5, 0⟩ ⟨9, 3, 0, 0⟩ = some denStart.presence.field := by
  have there : (den.scheduleNpcRespawn 9 2 ⟨5, 0⟩ ⟨9, 3, 0, 0⟩).isSome = true := by decide +kernel
  obtain ⟨field, made⟩ := Option.isSome_iff_exists.mp there
  rw [denStart, made]
  rfl

def inputsOnly : List (FrameEvent ℚ) := [.inputs ⟨3, []⟩]

theorem inputsForget : ¬ OnSchedule 9 ⟨⟨5, 0⟩, ⟨9, 3, 0, 0⟩, 2⟩ denStart inputsOnly ∧
    ((run frameStep denStart inputsOnly).presence.field.findNpc 9).map Npc.isAlive = some false := by
  have lifeless : ((run frameStep denStart inputsOnly).presence.field.findNpc 9).map Npc.isAlive =
      some false := by decide +kernel
  refine ⟨fun onSchedule => ?_, lifeless⟩
  have applies : Applies denStart (.inputs ⟨3, []⟩) := by
    unfold Applies
    decide +kernel
  have none : Along frameStep (fun s f => ¬ Due 2 s f) denStart [] := alongNil _ _ _
  obtain ⟨npc, found, alive, -⟩ := onSchedule.back [] (.inputs ⟨3, []⟩) [] rfl
    ⟨none, applies, 3, rfl, by decide⟩
  have there : (run frameStep denStart inputsOnly).presence.field.findNpc 9 = some npc := found
  rw [there, Option.map_some, alive] at lifeless
  exact absurd lifeless (by decide)

def bothPaths : List (FrameEvent ℚ) := [.inputs ⟨1, []⟩, .actions ⟨none, none⟩ ⟨2, []⟩, .inputs ⟨3, []⟩]

theorem actionsRemember : OnSchedule 9 ⟨⟨5, 0⟩, ⟨9, 3, 0, 0⟩, 2⟩ denStart bothPaths := by
  refine (onScheduleExact denScheduled (by decide) ?_).mpr ?_
  · intro e there
    fin_cases there <;> exact trivial
  · intro front e back split first
    rcases front with _ | ⟨a, _ | ⟨b, front⟩⟩
    · obtain ⟨rfl, -⟩ := List.cons.inj split
      obtain ⟨-, t, same, early⟩ := first.2
      obtain rfl : 1 = t := Option.some.inj same
      exact absurd early (by decide)
    · obtain ⟨-, rest⟩ := List.cons.inj split
      obtain ⟨rfl, -⟩ := List.cons.inj rest
      trivial
    · obtain ⟨rfl, rest⟩ := List.cons.inj split
      obtain ⟨rfl, -⟩ := List.cons.inj rest
      have applies : Applies (run frameStep denStart [.inputs ⟨1, []⟩]) (.actions ⟨none, none⟩ ⟨2, []⟩) := by
        unfold Applies
        decide +kernel
      exact absurd ⟨applies, 2, rfl, by decide⟩ (first.1 [.inputs ⟨1, []⟩] _ front rfl)

end SeedOrigin.Respawns
