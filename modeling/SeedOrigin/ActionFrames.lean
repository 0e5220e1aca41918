import SeedOrigin.Applier
import SeedOrigin.FieldCalls

/-! WorldFrameApplier::apply for the older frame path: the queued moves of players
and NPCs are drained, queued on the field and processed with the actions of a
ServerTick. -/
namespace SeedOrigin.ActionFrames
open SeedOrigin.Octets SeedOrigin.Numbers SeedOrigin.Character SeedOrigin.ClientInput
open SeedOrigin.Inputs SeedOrigin.UpdateWire SeedOrigin.UpdateBuilder SeedOrigin.Applier
open SeedOrigin.Maps

def maxPendingIntents : Nat := 4096

-- MovementIntentQueue and NpcAiInputQueue, which differ in what they hold.
structure FrameQueue (α : Type) where
  pending : List α := []
  nextSequence : UInt64 := 1
  bounded : pending.length ≤ maxPendingIntents := by exact Nat.zero_le _
  deriving DecidableEq

section
variable {α : Type}

def FrameQueue.push (queue : FrameQueue α) (entry : UInt64 → α) : Option (FrameQueue α) :=
  if room : queue.pending.length ≥ maxPendingIntents ∨ queue.nextSequence = maxUint64 then none
  else some {
    pending := queue.pending ++ [entry queue.nextSequence]
    nextSequence := queue.nextSequence + 1
    bounded := by rw [List.length_append, List.length_singleton]; omega }

def FrameQueue.takeFrame (queue : FrameQueue α) : FrameQueue α × List α :=
  ({ queue with pending := [], bounded := Nat.zero_le _ }, queue.pending)

def FrameQueue.restoreFrame (queue : FrameQueue α) (frame : List α) : Option (FrameQueue α) :=
  if room : frame.length > maxPendingIntents - queue.pending.length then none
  else some { queue with
    pending := frame ++ queue.pending
    bounded := by have := queue.bounded; rw [List.length_append]; omega }

theorem FrameQueue.restoreTaken (queue : FrameQueue α) :
    queue.takeFrame.1.restoreFrame queue.takeFrame.2 = some queue := by
  simp [FrameQueue.takeFrame, FrameQueue.restoreFrame, queue.bounded]

def takeQueued (queue : Option (FrameQueue α)) : Option (FrameQueue α) × List α :=
  match queue with
  | none => (none, [])
  | some queue => (some queue.takeFrame.1, queue.takeFrame.2)

def restoreQueued (queue : Option (FrameQueue α)) (frame : List α) : Option (FrameQueue α) :=
  queue.map (fun queue => (queue.restoreFrame frame).getD queue)

def held (queue : Option (FrameQueue α)) : List α := (takeQueued queue).2

theorem takenHeld (queue : Option (FrameQueue α)) : (takeQueued queue).2 = held queue := rfl

theorem restoreHeld (queue : Option (FrameQueue α)) :
    restoreQueued (takeQueued queue).1 (held queue) = queue := by
  cases queue with
  | none => rfl
  | some queue =>
    have back := queue.restoreTaken
    simp only [held, takeQueued, restoreQueued, Option.map_some, back, Option.getD_some]

end

structure QueuedIntent (F : Type) where
  sequence : UInt64
  intent : MovementIntent F
  deriving DecidableEq

structure NpcAiDecision (F : Type) where
  npcId : Int
  dx : F
  dy : F
  dz : F
  deriving DecidableEq

structure NpcAiInput (F : Type) where
  sequence : UInt64
  decision : NpcAiDecision F
  deriving DecidableEq

abbrev MovementIntentQueue (F : Type) := FrameQueue (QueuedIntent F)
abbrev NpcAiInputQueue (F : Type) := FrameQueue (NpcAiInput F)

structure FrameQueues (F : Type) where
  movementQueue : Option (MovementIntentQueue F)
  npcAiInputQueue : Option (NpcAiInputQueue F)
  deriving DecidableEq

structure AppliedActions (F : Type) where
  applier : WorldFrameApplier F
  queues : FrameQueues F
  field : Field F
  updates : List WorldUpdate
  outcome : Except String Unit

section
variable {F : Type}

-- One call after the other, up to the first that fails; what the earlier ones
-- queued stays queued.
def queueAll {α : Type} (queue : Field F → α → Option (Field F)) : Field F → List α → Field F × Bool
  | field, [] => (field, true)
  | field, x :: xs => match queue field x with
    | none => (field, false)
    | some field => queueAll queue field xs

def putActions (field : Field F) (frame : FrameActions) : Field F :=
  frame.actions.foldl (fun field queued => field.putActionQueue queued.action) field

def lastProcessedIntents (intents : List (QueuedIntent F)) : IntMap UInt64 :=
  intents.foldl (fun last queued =>
    let previous := last.getD queued.intent.sessionId 0
    last.insert queued.intent.sessionId
      (if queued.intent.clientInputSequence > previous then queued.intent.clientInputSequence
      else previous)) ∅

variable [FloatOps F]

def enqueueIntent (queue : MovementIntentQueue F) (sessionId : Int) (dx dy dz : F)
    (clientInputSequence : UInt64) : Option (MovementIntentQueue F) :=
  if sessionId ≤ 0 ∨ isValidMovementDelta dx dy dz = false then none
  else queue.push (fun sequence => ⟨sequence, ⟨sessionId, dx, dy, dz, clientInputSequence⟩⟩)

def npcInputValid (field : Field F) (decision : NpcAiDecision F) : Bool :=
  match field.findNpc decision.npcId with
  | none => false
  | some npc => npc.isAlive && isValidMovementDelta decision.dx decision.dy decision.dz

def queueIntent (field : Field F) (queued : QueuedIntent F) : Option (Field F) :=
  field.queueMovement queued.intent.sessionId queued.intent.dx queued.intent.dy queued.intent.dz

def queueNpcInput (field : Field F) (input : NpcAiInput F) : Option (Field F) :=
  field.queueNpcMovement input.decision.npcId input.decision.dx input.decision.dy input.decision.dz

-- The result of restoreFrame is not looked at. Where the updates cannot be
-- built, only the intents are given back.
def applyActions (applier : WorldFrameApplier F) (queues : FrameQueues F) (field : Field F)
    (frame : FrameActions) : AppliedActions F :=
  let cleared := { applier with ownerAcks := [] }
  if frame.actions.any (fun queued => queued.action.isValid = false) then
    ⟨cleared, queues, field, [], .error "world frame contains an invalid action"⟩
  else
    let (movementQueue, intents) := takeQueued queues.movementQueue
    if intents.any (fun queued => field.hasPlayer queued.intent.sessionId = false) then
      ⟨cleared, { queues with movementQueue := restoreQueued movementQueue intents }, field, [],
        .error "movement intent session is not present in the field"⟩
    else
      let (npcAiInputQueue, npcInputs) := takeQueued queues.npcAiInputQueue
      let restored : FrameQueues F :=
        ⟨restoreQueued movementQueue intents, restoreQueued npcAiInputQueue npcInputs⟩
      if npcInputs.any (fun input => npcInputValid field input.decision = false) then
        ⟨cleared, restored, field, [], .error "NPC AI input is invalid for the world frame"⟩
      else match buildActions applier.updateBuilder frame with
        | (builder, updates, .error e) =>
          ⟨{ cleared with updateBuilder := builder },
            ⟨restoreQueued movementQueue intents, npcAiInputQueue⟩, field, updates, .error e⟩
        | (builder, updates, .ok _) =>
          let numbered := { cleared with updateBuilder := builder }
          match queueAll queueIntent field intents with
          | (field, false) =>
            ⟨numbered, restored, field, [], .error "movement intent could not be queued in the field"⟩
          | (field, true) => match queueAll queueNpcInput field npcInputs with
            | (field, false) =>
              ⟨numbered, restored, field, [], .error "NPC AI input could not be queued in the field"⟩
            | (field, true) =>
              let field := (putActions field frame).processFrame frame.worldTick
              ⟨(lastProcessedIntents intents).toList.foldl (recordOwnerAck field frame.worldTick)
                  numbered,
                ⟨movementQueue, npcAiInputQueue⟩, field, updates, .ok ()⟩

-- Where a queued move ends: the field as it stands decides it, not what is queued.
def intentTarget (field : Field F) (queued : QueuedIntent F) : Option (Position F) := do
  let player ← field.findPlayer queued.intent.sessionId
  integrateMovement player.position queued.intent.dx queued.intent.dy queued.intent.dz

def npcTarget (field : Field F) (input : NpcAiInput F) : Option (Position F) := do
  let npc ← field.findNpc input.decision.npcId
  if npc.isAlive = false then none
  integrateMovement npc.position input.decision.dx input.decision.dy input.decision.dz

def moves (queues : FrameQueues F) (field : Field F) : List (Option (Position F)) :=
  (held queues.movementQueue).map (intentTarget field) ++
    (held queues.npcAiInputQueue).map (npcTarget field)

def reached {α : Type} : List (Option α) → List α
  | [] => []
  | none :: _ => []
  | some x :: rest => x :: reached rest

theorem somesOnly {α : Type} (xs : List (Option α)) : xs.all Option.isSome = true ↔ none ∉ xs := by
  induction xs with
  | nil => simp
  | cons x xs ih => cases x <;> simp_all

theorem reachedStops {α : Type} {xs : List (Option α)} (stops : none ∈ xs) (ys : List (Option α)) :
    reached (xs ++ ys) = reached xs := by
  induction xs with
  | nil => contradiction
  | cons x xs ih =>
    cases x with
    | none => rfl
    | some x => simp [reached, ih (by simpa using stops)]

theorem reachedAppend {α : Type} {xs : List (Option α)} (passes : none ∉ xs) (ys : List (Option α)) :
    reached (xs ++ ys) = reached xs ++ reached ys := by
  induction xs with
  | nil => rfl
  | cons x xs ih =>
    cases x with
    | none => simp at passes
    | some x => simp [reached, ih (by simpa using passes)]

theorem reachedNothing {α : Type} {xs : List (Option α)} (stops : none ∈ xs) :
    reached xs = [] ↔ xs.head? = some none := by
  cases xs with
  | nil => contradiction
  | cons x xs => cases x <;> simp [reached]

theorem allReached {α : Type} {xs : List (Option α)} (passes : none ∉ xs) : xs = (reached xs).map some := by
  induction xs with
  | nil => rfl
  | cons x xs ih =>
    cases x with
    | none => simp at passes
    | some x => simp [reached, ← ih (by simpa using passes)]

def queuedOn (field : Field F) (targets : List (Position F)) : Field F :=
  { field with positionQueue := field.positionQueue ++ targets }

omit [FloatOps F] in
theorem queuedTwice (field : Field F) (first second : List (Position F)) :
    queuedOn (queuedOn field first) second = queuedOn field (first ++ second) := by
  simp [queuedOn]

omit [FloatOps F] in
theorem queueAllReaches {α : Type} {queue : Field F → α → Option (Field F)}
    {target : Field F → α → Option (Position F)}
    (queues : ∀ field x, queue field x = (target field x).map (fun next => queuedOn field [next]))
    (blind : ∀ field targets x, target (queuedOn field targets) x = target field x)
    (field : Field F) (xs : List α) :
    queueAll queue field xs = (queuedOn field (reached (xs.map (target field))),
      (xs.map (target field)).all Option.isSome) := by
  induction xs generalizing field with
  | nil => simp [queueAll, reached, queuedOn]
  | cons x xs ih =>
    unfold queueAll
    rw [queues]
    cases there : target field x with
    | none => simp [there, reached, queuedOn]
    | some next =>
      have later : xs.map (target (queuedOn field [next])) = xs.map (target field) :=
        List.map_congr_left (fun x _ => blind field [next] x)
      simp only [Option.map_some, ih, later, List.map_cons, there, reached, List.all_cons,
        Option.isSome_some, Bool.true_and, queuedTwice, List.singleton_append]

theorem queueIntents (field : Field F) (intents : List (QueuedIntent F)) :
    queueAll queueIntent field intents = (queuedOn field (reached (intents.map (intentTarget field))),
      (intents.map (intentTarget field)).all Option.isSome) := by
  refine queueAllReaches ?_ ?_ field intents
  · intro field queued
    cases there : field.findPlayer queued.intent.sessionId with
    | none => simp [queueIntent, Field.queueMovement, intentTarget, there]
    | some player =>
      simp only [queueIntent, Field.queueMovement, intentTarget, there, Option.bind_eq_bind,
        Option.bind_some, Option.pure_def, queuedOn, Option.map_eq_bind]
      rfl
  · intro field targets queued
    rfl

theorem npcBlind (field : Field F) (targets : List (Position F)) :
    npcTarget (queuedOn field targets) = npcTarget field := rfl

theorem queueNpcInputs (field : Field F) (inputs : List (NpcAiInput F)) :
    queueAll queueNpcInput field inputs = (queuedOn field (reached (inputs.map (npcTarget field))),
      (inputs.map (npcTarget field)).all Option.isSome) := by
  refine queueAllReaches ?_ ?_ field inputs
  · intro field input
    cases there : field.findNpc input.decision.npcId with
    | none => simp [queueNpcInput, Field.queueNpcMovement, npcTarget, there]
    | some npc =>
      by_cases alive : npc.isAlive = false
      · simp [queueNpcInput, Field.queueNpcMovement, npcTarget, there, alive]
      · simp only [queueNpcInput, Field.queueNpcMovement, npcTarget, there, alive,
          Option.bind_eq_bind, Option.bind_some, Option.pure_def, queuedOn, Option.map_eq_bind]
        rfl
  · intro field targets input
    rfl

structure Admitted (queues : FrameQueues F) (field : Field F) (frame : FrameActions) : Prop where
  actions : ∀ queued ∈ frame.actions, queued.action.isValid = true
  intents : ∀ queued ∈ held queues.movementQueue, field.hasPlayer queued.intent.sessionId = true
  npcInputs : ∀ input ∈ held queues.npcAiInputQueue, npcInputValid field input.decision = true

def drained (queues : FrameQueues F) : FrameQueues F :=
  ⟨(takeQueued queues.movementQueue).1, (takeQueued queues.npcAiInputQueue).1⟩

theorem refusedActions (applier : WorldFrameApplier F) {queues : FrameQueues F} {field : Field F}
    {frame : FrameActions} (refused : ¬ Admitted queues field frame) :
    ∃ e, applyActions applier queues field frame =
      ⟨{ applier with ownerAcks := [] }, queues, field, [], .error e⟩ := by
  unfold applyActions
  simp only [takenHeld, restoreHeld]
  split
  · exact ⟨_, rfl⟩
  · rename_i actions
    split
    · exact ⟨_, rfl⟩
    · rename_i intents
      split
      · exact ⟨_, rfl⟩
      · rename_i npcInputs
        refine absurd ⟨?_, ?_, ?_⟩ refused
        · simpa using actions
        · simpa using intents
        · simpa using npcInputs

theorem unnumberedActions {applier : WorldFrameApplier F} {queues : FrameQueues F} {field : Field F}
    {frame : FrameActions} (admitted : Admitted queues field frame) {builder : WorldFrameUpdateBuilder}
    {updates : List WorldUpdate} {e : String}
    (built : buildActions applier.updateBuilder frame = (builder, updates, .error e)) :
    applyActions applier queues field frame =
      ⟨{ applier with ownerAcks := [], updateBuilder := builder },
        { drained queues with movementQueue := queues.movementQueue }, field, updates, .error e⟩ := by
  unfold applyActions
  simp only [takenHeld, restoreHeld]
  rw [if_neg (by simpa using admitted.actions), if_neg (by simpa using admitted.intents),
    if_neg (by simpa using admitted.npcInputs), built]
  rfl

theorem queuedActions {applier : WorldFrameApplier F} {queues : FrameQueues F} {field : Field F}
    {frame : FrameActions} (admitted : Admitted queues field frame) {builder : WorldFrameUpdateBuilder}
    {updates : List WorldUpdate}
    (built : buildActions applier.updateBuilder frame = (builder, updates, .ok ()))
    (stops : none ∈ moves queues field) :
    ∃ e, applyActions applier queues field frame =
      ⟨{ applier with ownerAcks := [], updateBuilder := builder }, queues,
        queuedOn field (reached (moves queues field)), [], .error e⟩ := by
  unfold applyActions
  simp only [takenHeld, restoreHeld]
  rw [if_neg (by simpa using admitted.actions), if_neg (by simpa using admitted.intents),
    if_neg (by simpa using admitted.npcInputs), built]
  dsimp only
  rw [queueIntents]
  cases players : ((held queues.movementQueue).map (intentTarget field)).all Option.isSome with
  | false =>
    have here : none ∈ (held queues.movementQueue).map (intentTarget field) := by
      by_contra passes
      rw [← somesOnly, players] at passes
      contradiction
    rw [moves, reachedStops here]
    exact ⟨_, rfl⟩
  | true =>
    have passes := (somesOnly _).mp players
    have later : none ∈ (held queues.npcAiInputQueue).map (npcTarget field) := by
      simpa only [moves, List.mem_append, passes, false_or] using stops
    have npcs : ((held queues.npcAiInputQueue).map (npcTarget field)).all Option.isSome = false := by
      rw [← Bool.not_eq_true, somesOnly]
      exact not_not.mpr later
    dsimp only
    rw [queueNpcInputs, npcBlind, npcs, queuedTwice, moves, reachedAppend passes]
    exact ⟨_, rfl⟩

theorem processedActions {applier : WorldFrameApplier F} {queues : FrameQueues F} {field : Field F}
    {frame : FrameActions} (admitted : Admitted queues field frame) {builder : WorldFrameUpdateBuilder}
    {updates : List WorldUpdate}
    (built : buildActions applier.updateBuilder frame = (builder, updates, .ok ()))
    (passes : none ∉ moves queues field) :
    let after := (putActions (queuedOn field (reached (moves queues field))) frame).processFrame
      frame.worldTick
    applyActions applier queues field frame =
      ⟨(lastProcessedIntents (held queues.movementQueue)).toList.foldl
          (recordOwnerAck after frame.worldTick)
          { applier with ownerAcks := [], updateBuilder := builder },
        drained queues, after, updates, .ok ()⟩ := by
  have split : none ∉ (held queues.movementQueue).map (intentTarget field) ∧
      none ∉ (held queues.npcAiInputQueue).map (npcTarget field) := by
    simpa only [moves, List.mem_append, not_or] using passes
  unfold applyActions
  simp only [takenHeld, restoreHeld]
  rw [if_neg (by simpa using admitted.actions), if_neg (by simpa using admitted.intents),
    if_neg (by simpa using admitted.npcInputs), built]
  dsimp only
  rw [queueIntents, (somesOnly _).mpr split.1]
  dsimp only
  rw [queueNpcInputs, npcBlind, (somesOnly _).mpr split.2, queuedTwice, moves, reachedAppend split.1]
  rfl

theorem actionsCases (applier : WorldFrameApplier F) (queues : FrameQueues F) (field : Field F)
    (frame : FrameActions) :
    let after := applyActions applier queues field frame
    (after.outcome = .ok () ∧ ∃ targets, moves queues field = targets.map some ∧
      after.queues = drained queues ∧
      after.field = (putActions (queuedOn field targets) frame).processFrame frame.worldTick) ∨
    (after.outcome ≠ .ok () ∧ ∃ targets, after.field = queuedOn field targets) := by
  have nothing : field = queuedOn field [] := by simp [queuedOn]
  dsimp only
  by_cases admitted : Admitted queues field frame
  · cases built : buildActions applier.updateBuilder frame with
    | mk builder rest =>
    obtain ⟨updates, e | done⟩ := rest
    · rw [unnumberedActions admitted built]
      exact .inr ⟨nofun, [], nothing⟩
    · by_cases stops : none ∈ moves queues field
      · obtain ⟨e, failed⟩ := queuedActions admitted built stops
        rw [failed]
        exact .inr ⟨nofun, _, rfl⟩
      · rw [processedActions admitted built stops]
        exact .inl ⟨rfl, _, allReached stops, rfl, rfl⟩
  · obtain ⟨e, refused⟩ := refusedActions applier admitted
    rw [refused]
    exact .inr ⟨nofun, [], nothing⟩

end

end SeedOrigin.ActionFrames
