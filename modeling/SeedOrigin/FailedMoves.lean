import SeedOrigin.ActionFrames
import SeedOrigin.Numbering

/-! What a frame of the older path leaves behind when it fails, and what the next
one makes of it. -/
namespace SeedOrigin.FailedMoves
open SeedOrigin.Octets SeedOrigin.Numbers SeedOrigin.Decimal SeedOrigin.Character
open SeedOrigin.ClientInput SeedOrigin.Inputs SeedOrigin.UpdateWire SeedOrigin.UpdateBuilder
open SeedOrigin.Applier SeedOrigin.Numbering SeedOrigin.ActionFrames

structure Numberable (builder : WorldFrameUpdateBuilder) (frame : FrameActions) : Prop where
  few : frame.actions.length ≤ maxUpdatePayload
  room : Room builder (frame.actions.length + 1)
  numbered : frame.actions = [] ∨ Positive builder

theorem actionSmall {queued : QueuedAction} (valid : queued.action.isValid = true) :
    Small (actionPayload queued) := by
  have inside : InInt64 queued.action.actionType := by
    have kinds : queued.action.actionType = 0 ∨ queued.action.actionType = 1 ∨
        queued.action.actionType = 2 ∨ queued.action.actionType = 3 := by
      unfold Action.isValid at valid
      simp only [Bool.decide_or, Bool.decide_and, Bool.or_eq_true, Bool.and_eq_true,
        decide_eq_true_eq] at valid
      omega
    unfold InInt64
    omega
  have number : (intText queued.action.actionType).length ≤ 20 := intTextLength inside
  have sequence : (uint64Text queued.sequence).length ≤ 20 :=
    natTextLength (by decide) (lt_trans queued.sequence.toNat_lt (by decide))
  have names : (ascii "action=").length = 7 ∧ (ascii ";actionSequence=").length = 16 := by decide
  have limit : maxUpdatePayload = 16384 := rfl
  unfold Numbering.Small actionPayload
  simp only [List.length_append]
  omega

-- The numbers start at one, so that this is no state the builder reaches.
theorem appendUnnumbered {builder : WorldFrameUpdateBuilder} (zero : ¬ Positive builder)
    (worldTick : UInt64) (payload : Bytes) (updates : List WorldUpdate) :
    ∃ after e, appendEvent builder worldTick payload updates = (after, [], .error e) := by
  have some : builder.updateSequence = 0 ∨ builder.eventId = 0 := by
    rw [← UInt64.toNat_inj, ← UInt64.toNat_inj, UInt64.toNat_zero]
    unfold Positive at zero
    omega
  unfold appendEvent
  split
  · exact ⟨_, _, rfl⟩
  · dsimp only
    cases checked : validateWorldUpdate (eventUpdate builder worldTick payload) with
    | error e =>
      unfold eventUpdate at checked
      rw [checked]
      exact ⟨_, _, rfl⟩
    | ok done =>
      unfold validateWorldUpdate eventUpdate at checked
      obtain sequence | event := some
      · simp [sequence, isKnownUpdateKind] at checked
      · simp [event, isKnownUpdateKind] at checked
        split at checked <;> try contradiction
        split at checked <;> contradiction

theorem buildExact (builder : WorldFrameUpdateBuilder) {frame : FrameActions}
    (valid : ∀ queued ∈ frame.actions, queued.action.isValid = true) :
    (Numberable builder frame ∧
      ∃ after updates, buildActions builder frame = (after, updates, .ok ())) ∨
    (¬ Numberable builder frame ∧ ∃ after e, buildActions builder frame = (after, [], .error e)) := by
  have top : maxUint64.toNat = 2 ^ 64 - 1 := rfl
  have low := builder.updateSequence.toNat_lt
  have high := builder.eventId.toNat_lt
  have left (n : UInt64) : (maxUint64 - n).toNat = 2 ^ 64 - 1 - n.toNat := by
    rw [UInt64.toNat_sub_of_le _ _ (UInt64.le_iff_toNat_le.mpr (by rw [top]; have := n.toNat_lt; omega)), top]
  unfold buildActions
  split
  · rename_i many
    exact .inr ⟨fun fits => absurd fits.few (not_le.mpr many), _, _, rfl⟩
  · rename_i few
    split
    · rename_i exhausted
      refine .inr ⟨fun fits => ?_, _, _, rfl⟩
      have room := fits.room
      rw [left, left] at exhausted
      unfold Room at room
      omega
    · rename_i numbers
      have room : Room builder (frame.actions.length + 1) := by
        rw [left, left] at numbers
        unfold Room
        omega
      rw [appendMap actionPayload]
      by_cases positive : Positive builder
      · have small : ∀ p ∈ frame.actions.map actionPayload, Small p := by
          intro p there
          obtain ⟨queued, known, rfl⟩ := List.mem_map.mp there
          exact actionSmall (valid queued known)
        have enough : Room builder (frame.actions.map actionPayload).length := by
          rw [List.length_map]
          exact roomLess room (by omega)
        obtain ⟨-, made⟩ | ⟨refused, -⟩ := eventsCases frame.worldTick positive
          (frame.actions.map actionPayload) []
        · exact .inl ⟨⟨not_lt.mp few, room, .inr positive⟩, _, _, made⟩
        · exact absurd ⟨enough, small⟩ refused
      · cases actions : frame.actions with
        | nil =>
          refine .inl ⟨⟨not_lt.mp few, room, .inl actions⟩, builder, [], ?_⟩
          rfl
        | cons queued rest =>
          refine .inr ⟨fun fits => ?_, ?_⟩
          · obtain empty | numbered := fits.numbered
            · rw [actions] at empty
              exact absurd empty (List.cons_ne_nil queued rest)
            · exact positive numbered
          · obtain ⟨after, e, made⟩ := appendUnnumbered positive frame.worldTick (actionPayload queued) []
            refine ⟨after, e, ?_⟩
            unfold appendEvents
            rw [List.map_cons, appendAll, made]
            rfl

section
variable {F : Type} [FloatOps F]

def MovesOnce (before : FrameQueues F) (field ready : Field F) (frame : FrameActions)
    (again : AppliedActions F) : Prop :=
  ∃ targets, moves before ready = targets.map some ∧ again.queues = drained before ∧
    again.field = (putActions { ready with positionQueue := field.positionQueue ++ targets }
      frame).processFrame frame.worldTick

structure Restores (before : FrameQueues F) (field : Field F) (after : AppliedActions F) : Prop where
  intents : after.queues.movementQueue = before.movementQueue
  npcInputs : after.queues.npcAiInputQueue = before.npcAiInputQueue
  positions : after.field.positionQueue = field.positionQueue
  actions : after.field.actionQueue = field.actionQueue
  players : after.field.playerList = field.playerList
  npcs : after.field.npcList = field.npcList
  silent : after.updates = []
  once : ∀ ready frame, ready.positionQueue = after.field.positionQueue →
    (applyActions after.applier after.queues ready frame).outcome = .ok () →
    MovesOnce before field ready frame (applyActions after.applier after.queues ready frame)

def Recoverable (applier : WorldFrameApplier F) (queues : FrameQueues F) (field : Field F)
    (frame : FrameActions) : Prop :=
  Admitted queues field frame →
    (¬ Numberable applier.updateBuilder frame → held queues.npcAiInputQueue = []) ∧
    (Numberable applier.updateBuilder frame → none ∈ moves queues field →
      (moves queues field).head? = some none)

theorem appliedOnce {applier : WorldFrameApplier F} {queues : FrameQueues F} {field ready : Field F}
    {frame : FrameActions} (same : ready.positionQueue = field.positionQueue)
    (success : (applyActions applier queues ready frame).outcome = .ok ()) :
    MovesOnce queues field ready frame (applyActions applier queues ready frame) := by
  obtain ⟨-, targets, made, empty, after⟩ | ⟨failure, -⟩ := actionsCases applier queues ready frame
  · refine ⟨targets, made, empty, ?_⟩
    rw [after, queuedOn, same]
  · exact absurd success failure

theorem restoredKept {queues : FrameQueues F} {field : Field F} {after : AppliedActions F}
    (kept : after.queues = queues) (same : after.field = field) (silent : after.updates = []) :
    Restores queues field after := by
  refine ⟨?_, ?_, ?_, ?_, ?_, ?_, silent, ?_⟩ <;> try rw [kept]
  all_goals try rw [same]
  intro ready frame positions success
  exact appliedOnce positions success

omit [FloatOps F] in
theorem drainedSame {α : Type} (queue : Option (FrameQueue α)) :
    (takeQueued queue).1 = queue ↔ held queue = [] := by
  cases queue with
  | none => simp [takeQueued, held]
  | some queue =>
    obtain ⟨pending, nextSequence, bounded⟩ := queue
    simp [takeQueued, held, FrameQueue.takeFrame, eq_comm]

omit [FloatOps F] in
theorem queuedSame (field : Field F) (targets : List (Position F)) :
    (queuedOn field targets).positionQueue = field.positionQueue ↔ targets = [] := by
  simp [queuedOn]

theorem restoresExact (applier : WorldFrameApplier F) (queues : FrameQueues F) (field : Field F)
    (frame : FrameActions) :
    ((applyActions applier queues field frame).outcome ≠ .ok () →
      Restores queues field (applyActions applier queues field frame)) ↔
      Recoverable applier queues field frame := by
  by_cases admitted : Admitted queues field frame
  · obtain ⟨fits, builder, updates, built⟩ | ⟨unfit, builder, e, built⟩ :=
      buildExact applier.updateBuilder admitted.actions
    · by_cases stops : none ∈ moves queues field
      · obtain ⟨e, made⟩ := queuedActions admitted built stops
        rw [made]
        have nothing := reachedNothing stops
        constructor
        · intro restores _
          have same := (queuedSame field _).mp (restores (by rintro ⟨⟩)).positions
          exact ⟨fun unfit => absurd fits unfit, fun _ _ => nothing.mp same⟩
        · intro recoverable _
          refine restoredKept rfl ?_ rfl
          rw [nothing.mpr ((recoverable admitted).2 fits stops)]
          simp [queuedOn]
      · rw [processedActions admitted built stops]
        exact ⟨fun _ _ => ⟨fun unfit => absurd fits unfit, fun _ here => absurd here stops⟩,
          fun _ failure => absurd rfl failure⟩
    · rw [unnumberedActions admitted built]
      have same := drainedSame queues.npcAiInputQueue
      constructor
      · intro restores _
        exact ⟨fun _ => same.mp (restores (by rintro ⟨⟩)).npcInputs, fun fits => absurd fits unfit⟩
      · intro recoverable _
        refine restoredKept ?_ rfl rfl
        dsimp only [drained]
        rw [same.mpr ((recoverable admitted).1 unfit)]
  · obtain ⟨e, refused⟩ := refusedActions applier admitted
    rw [refused]
    exact ⟨fun _ passes => absurd passes admitted, fun _ _ => restoredKept rfl rfl rfl⟩

end

-- Character 1 has 50 left to the end of the world and asks for 50 and 100.
def edge : Field ℚ :=
  { (Field.initial : Field ℚ) with
    playerList := (∅ : IntMap (Player ℚ)).insert 1
      { id := 1, status := ⟨10, 10⟩, position := ⟨1, 999950, 0, 0⟩ } }

def edgeQueues : FrameQueues ℚ :=
  ⟨(enqueueIntent {} 1 50 0 0 1).bind (fun queue => enqueueIntent queue 1 100 0 0 2), none⟩

theorem edgeStrandsMove : ¬ ((applyActions {} edgeQueues edge ⟨1, []⟩).outcome ≠ .ok () →
      Restores edgeQueues edge (applyActions {} edgeQueues edge ⟨1, []⟩)) ∧
    (applyActions {} edgeQueues edge ⟨1, []⟩).queues = edgeQueues ∧
    (applyActions {} edgeQueues edge ⟨1, []⟩).field.positionQueue = [⟨1, 1000000, 0, 0⟩] := by
  have failure : (applyActions {} edgeQueues edge ⟨1, []⟩).outcome ≠ .ok () := by decide +kernel
  have stranded : (applyActions {} edgeQueues edge ⟨1, []⟩).field.positionQueue =
      [⟨1, 1000000, 0, 0⟩] := by decide +kernel
  refine ⟨fun restores => ?_, by decide +kernel, stranded⟩
  have same := (restores failure).positions
  rw [stranded] at same
  exact absurd same (by decide)

end SeedOrigin.FailedMoves
