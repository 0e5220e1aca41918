import SeedOrigin.MovementFields
import SeedOrigin.RemotePoses
import SeedOrigin.SnapshotParser

/-! ClientWorldUpdateReceiver: one read of the update stream into the state the
client shows. The hazard effects are only read from outside, so nothing drains
them here. -/
namespace SeedOrigin.Receiver
open SeedOrigin.Octets SeedOrigin.Numbers SeedOrigin.Inputs SeedOrigin.ClientInput
open SeedOrigin.Accumulation SeedOrigin.UpdateWire SeedOrigin.HazardClient SeedOrigin.Prediction
open SeedOrigin.MovementFields SeedOrigin.RemotePoses SeedOrigin.SnapshotParser

inductive WorldReceiveDecision where
  | applied | noData | requestSnapshot | rejected
  deriving DecidableEq, Repr

structure ClientWorldUpdateReceiver (F : Type) where
  accumulator : Accumulator := {}
  environmentState : EnvironmentState F
  hazardQueue : ClientHazardEffectQueue F := {}
  predictor : LocalMovementPredictor F
  remotes : RemotePlayerPoseStore F := {}
  localSessionId : Int := 0
  needsSnapshot : Bool := false
  expected : UInt64 := 1
  decision : WorldReceiveDecision := .noData
  deriving DecidableEq

section
variable {F : Type} [PredictionOps F]

def ClientWorldUpdateReceiver.initial : ClientWorldUpdateReceiver F :=
  { environmentState := .initial, predictor := .initial }

-- The queue sees every event, as a hazard or to keep count.
def takeEvent (queue : ClientHazardEffectQueue F) (update : WorldUpdate) :
    ClientHazardEffectQueue F × HazardIngestResult × String :=
  if update.payload.take 12 = ascii "etherHazard=" then queue.ingest update
  else queue.observeEvent update

def reconcileOwn (receiver : ClientWorldUpdateReceiver F) (ack : MovementAck F) :
    ClientWorldUpdateReceiver F :=
  if receiver.localSessionId > 0 ∧ ack.sessionId = receiver.localSessionId then
    { receiver with
      predictor := receiver.predictor.reconcile ack.x ack.y ack.z ack.worldTick
        ack.lastProcessedInputSequence }
  else receiver

def moveRemote (receiver : ClientWorldUpdateReceiver F) (pose : PublicMovementPose F) :
    ClientWorldUpdateReceiver F :=
  if receiver.localSessionId ≤ 0 ∨ pose.sessionId ≠ receiver.localSessionId then
    { receiver with
      remotes := receiver.remotes.applyAuthoritative pose.sessionId pose.x pose.y pose.z false }
  else receiver

def rejectUpdate (receiver : ClientWorldUpdateReceiver F) : ClientWorldUpdateReceiver F :=
  { receiver with decision := .rejected }

def requestSnapshot (receiver : ClientWorldUpdateReceiver F) : ClientWorldUpdateReceiver F :=
  { receiver with decision := .requestSnapshot }

def readMovement (receiver : ClientWorldUpdateReceiver F) (payload : Bytes) :
    ClientWorldUpdateReceiver F × Except String Unit :=
  if payload.take 12 = ascii "movementAck=" then match parseMovementAck payload with
    | .error e => (rejectUpdate receiver, .error e)
    | .ok ack => (reconcileOwn receiver ack, .ok ())
  else
    let reconciled := match tryParseAttachedMovementAck payload with
      | none => receiver
      | some ack => reconcileOwn receiver ack
    match tryParsePublicMovementPose payload with
    | none => (reconciled, .ok ())
    | some pose => (moveRemote reconciled pose, .ok ())

def applyEvent (receiver : ClientWorldUpdateReceiver F) (update : WorldUpdate) :
    ClientWorldUpdateReceiver F × Except String Unit :=
  if receiver.needsSnapshot then
    (requestSnapshot receiver, .error "world update cannot be applied before snapshot resync")
  else match takeEvent receiver.hazardQueue update with
    | (hazardQueue, result, error) =>
      let counted : ClientWorldUpdateReceiver F :=
        { receiver with
          hazardQueue := hazardQueue
          expected := hazardQueue.sync.tracker.expectedSequence }
      match result with
      | .requestSnapshot => (requestSnapshot { counted with needsSnapshot := true }, .error error)
      | .rejected => (rejectUpdate counted, .error error)
      | .backpressure => (rejectUpdate counted, .error error)
      | .ignoredDuplicate => (counted, .ok ())
      | .applied => readMovement counted update.payload

def replaceBySnapshot (receiver : ClientWorldUpdateReceiver F) (update : WorldUpdate)
    (state : EnvironmentState F) : ClientWorldUpdateReceiver F :=
  { receiver with
    environmentState := state
    hazardQueue := receiver.hazardQueue.confirmSnapshot update.sequence
    needsSnapshot := false
    expected := update.sequence + 1
    predictor :=
      if state.hasLocalPlayer then
        receiver.predictor.applySnapshotBaseline state.localX state.localY state.localZ
          update.worldTick state.lastProcessedInputSequence
      else receiver.predictor
    remotes := replaceFromSnapshot state.players receiver.localSessionId }

-- One turn of the loop, with how many updates it counts as applied. Events are
-- passed over while a snapshot is awaited.
def applyUpdate (receiver : ClientWorldUpdateReceiver F) (update : WorldUpdate) :
    ClientWorldUpdateReceiver F × Except String Nat :=
  match update.kind with
  | .snapshot => match applySnapshot update with
    | .error e => (rejectUpdate receiver, .error e)
    | .ok state => (replaceBySnapshot receiver update state, .ok 1)
  | .event =>
    if receiver.needsSnapshot then (receiver, .ok 0)
    else match applyEvent receiver update with
      | (after, .error e) => (after, .error e)
      | (after, .ok _) => (after, .ok 1)
  | .unknown _ => (rejectUpdate receiver, .error "world update kind is unsupported")

def applyUpdates (receiver : ClientWorldUpdateReceiver F) :
    List WorldUpdate → ClientWorldUpdateReceiver F × Nat × Except String Unit
  | [] => (receiver, 0, .ok ())
  | update :: rest => match applyUpdate receiver update with
    | (after, .error e) => (after, 0, .error e)
    | (after, .ok count) => match applyUpdates after rest with
      | (last, later, result) => (last, count + later, result)

def ClientWorldUpdateReceiver.receive (receiver : ClientWorldUpdateReceiver F) (bytes : Bytes) :
    ClientWorldUpdateReceiver F × Nat × Except String Unit :=
  match append worldUpdateAccumulator receiver.accumulator bytes with
  | (accumulator, _, .error e) =>
    (rejectUpdate { receiver with accumulator := accumulator }, 0, .error e)
  | (accumulator, updates, .ok _) =>
    let ready := { receiver with accumulator := accumulator, decision := .noData }
    if updates = [] then (ready, 0, .ok ())
    else match applyUpdates ready updates with
      | (after, applied, .error e) => (after, applied, .error e)
      | (after, applied, .ok _) =>
        if after.needsSnapshot then
          (requestSnapshot after, applied, .error "world update cannot be applied before snapshot resync")
        else ({ after with decision := .applied }, applied, .ok ())

def ClientWorldUpdateReceiver.bindLocalSession (receiver : ClientWorldUpdateReceiver F)
    (sessionId : Int) : ClientWorldUpdateReceiver F :=
  { receiver with localSessionId := sessionId }

-- The predictor and the sequence tracker of the hazard queue are kept.
def ClientWorldUpdateReceiver.beginReconnect (receiver : ClientWorldUpdateReceiver F) :
    ClientWorldUpdateReceiver F :=
  { receiver with
    accumulator := {}
    needsSnapshot := true
    expected := 1
    decision := .requestSnapshot }

-- localMovement gives the predictor away to be called.
def ClientWorldUpdateReceiver.predict (receiver : ClientWorldUpdateReceiver F)
    (clientInputSequence : UInt64) (dx dy dz : F) : ClientWorldUpdateReceiver F × Bool :=
  match receiver.predictor.predict clientInputSequence dx dy dz with
  | (predictor, made) => ({ receiver with predictor := predictor }, made)

inductive ReceiverCall (F : Type) where
  | receive (bytes : Bytes)
  | bindLocalSession (sessionId : Int)
  | beginReconnect
  | predict (clientInputSequence : UInt64) (dx dy dz : F)

def callReceiver (receiver : ClientWorldUpdateReceiver F) :
    ReceiverCall F → ClientWorldUpdateReceiver F
  | .receive bytes => (receiver.receive bytes).1
  | .bindLocalSession sessionId => receiver.bindLocalSession sessionId
  | .beginReconnect => receiver.beginReconnect
  | .predict clientInputSequence dx dy dz => (receiver.predict clientInputSequence dx dy dz).1

def Counted (queue : ClientHazardEffectQueue F) (update : WorldUpdate)
    (out : ClientHazardEffectQueue F × HazardIngestResult × String) : Prop :=
  (out.1 = queue ∧ out.2.1 ≠ .applied ∧ out.2.1 ≠ .backpressure) ∨
  (update.sequence ≠ maxUint64 ∧ update.sequence = queue.sync.tracker.expectedSequence ∧
    out.1.sync = ⟨⟨true, update.sequence + 1⟩⟩ ∧
    (out.2.1 = .applied ∨ (out.2.1 = .backpressure ∧ out.1.effects = queue.effects)))

omit [PredictionOps F] in
theorem countedOther {queue : ClientHazardEffectQueue F} {update : WorldUpdate}
    {sync : WorldUpdateSyncController} {decision : SyncDecision} {result : HazardIngestResult}
    {error : String} (made : queue.sync.receive update = (sync, decision)) (other : decision ≠ .apply)
    (refused : result ≠ .applied) (room : result ≠ .backpressure) :
    Counted queue update ({ queue with sync := sync }, result, error) := by
  cases receivedOther made other
  exact .inl ⟨rfl, refused, room⟩

omit [PredictionOps F] in
theorem countedRejected (queue : ClientHazardEffectQueue F) (update : WorldUpdate) (error : String) :
    Counted queue update (queue, .rejected, error) :=
  .inl ⟨rfl, nofun, nofun⟩

omit [PredictionOps F] in
theorem observeCounts (queue : ClientHazardEffectQueue F) (update : WorldUpdate) :
    Counted queue update (queue.observeEvent update) := by
  unfold ClientHazardEffectQueue.observeEvent
  split
  · exact countedRejected ..
  · rename_i event
    have kind : update.kind = .event := not_not.mp (fun other => event (.inl other))
    split
    · exact countedRejected ..
    · cases made : queue.sync.receive update with
      | mk sync decision =>
        cases decision with
        | ignoreDuplicate => exact countedOther made nofun nofun nofun
        | requestSnapshot => exact countedOther made nofun nofun nofun
        | reject => exact countedOther made nofun nofun nofun
        | apply =>
          obtain ⟨left, expected, rfl⟩ := receivedNext made kind
          exact .inr ⟨left, expected, rfl, .inl rfl⟩

theorem ingestCounts (queue : ClientHazardEffectQueue F) (update : WorldUpdate) :
    Counted queue update (queue.ingest update) := by
  unfold ClientHazardEffectQueue.ingest
  split
  · exact countedRejected ..
  · rename_i event
    have kind : update.kind = .event := not_not.mp (fun other => event (.inl other))
    split
    · exact countedRejected ..
    · split
      · exact countedRejected ..
      · cases made : queue.sync.receive update with
        | mk sync decision =>
          cases decision with
          | ignoreDuplicate => exact countedOther made nofun nofun nofun
          | requestSnapshot => exact countedOther made nofun nofun nofun
          | reject => exact countedOther made nofun nofun nofun
          | apply =>
            obtain ⟨left, expected, rfl⟩ := receivedNext made kind
            dsimp only
            split
            · exact .inr ⟨left, expected, rfl, .inr ⟨rfl, rfl⟩⟩
            · exact .inr ⟨left, expected, rfl, .inl rfl⟩

theorem takenCounts (queue : ClientHazardEffectQueue F) (update : WorldUpdate) :
    Counted queue update (takeEvent queue update) := by
  unfold takeEvent
  split
  · exact ingestCounts queue update
  · exact observeCounts queue update

structure Moved (before after : ClientWorldUpdateReceiver F) : Prop where
  accumulator : after.accumulator = before.accumulator
  hazardQueue : after.hazardQueue = before.hazardQueue
  environmentState : after.environmentState = before.environmentState
  localSessionId : after.localSessionId = before.localSessionId
  needsSnapshot : after.needsSnapshot = before.needsSnapshot
  expected : after.expected = before.expected

theorem reconciledMoved (receiver : ClientWorldUpdateReceiver F) (ack : MovementAck F) :
    Moved receiver (reconcileOwn receiver ack) := by
  unfold reconcileOwn
  split <;> exact ⟨rfl, rfl, rfl, rfl, rfl, rfl⟩

theorem remoteMoved {before receiver : ClientWorldUpdateReceiver F} (moved : Moved before receiver)
    (pose : PublicMovementPose F) : Moved before (moveRemote receiver pose) := by
  obtain ⟨accumulator, hazardQueue, environmentState, localSessionId, needsSnapshot, expected⟩ := moved
  unfold moveRemote
  split <;>
    exact ⟨accumulator, hazardQueue, environmentState, localSessionId, needsSnapshot, expected⟩

theorem movementMoved (receiver : ClientWorldUpdateReceiver F) (payload : Bytes) :
    Moved receiver (readMovement receiver payload).1 := by
  have attached : Moved receiver (match tryParseAttachedMovementAck payload with
      | none => receiver
      | some ack => reconcileOwn receiver ack) := by
    split
    · exact ⟨rfl, rfl, rfl, rfl, rfl, rfl⟩
    · exact reconciledMoved receiver _
  unfold readMovement
  split
  · split
    · exact ⟨rfl, rfl, rfl, rfl, rfl, rfl⟩
    · exact reconciledMoved receiver _
  · dsimp only
    split
    · exact attached
    · exact remoteMoved attached _

end

end SeedOrigin.Receiver
