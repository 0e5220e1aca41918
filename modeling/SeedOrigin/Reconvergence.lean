import SeedOrigin.PredictionWindow
import SeedOrigin.ReceiverBatches

/-! One player's client against the server, over any number of sessions: moves in
flight one way, whole updates the other. -/
namespace SeedOrigin.Reconvergence
open SeedOrigin.Octets SeedOrigin.Numbers SeedOrigin.ClientInput SeedOrigin.Inputs
open SeedOrigin.UpdateWire SeedOrigin.HazardClient SeedOrigin.MovementFields
open SeedOrigin.SnapshotParser SeedOrigin.InputAdmission SeedOrigin.Prediction
open SeedOrigin.PredictionWindow SeedOrigin.Receiver SeedOrigin.ReceiverBatches SeedOrigin.Runs

-- sent and earlier are the numbers of the Moves of this session and of those
-- before it, applied those of this session that the field has taken.
structure Play (F : Type) where
  receiver : ClientWorldUpdateReceiver F
  session : Option Int := none
  sent : List UInt64 := []
  earlier : List UInt64 := []
  uplink : List (PendingMoveInput F) := []
  queue : WorldInputQueue F := {}
  applied : List UInt64 := []
  downlink : List WorldUpdate := []

inductive PlayEvent (F : Type) where
  | login (sessionId : Int)
  | send (clientInputSequence : UInt64) (dx dy dz : F)
  -- The next Move that arrives does not get as far as the queue.
  | refuse
  | reach
  | other (queueCall : QueueCall F)
  | applyFrame (taken : Bool)
  | publish (update : WorldUpdate)
  | deliver
  | beginReconnect

section
variable {F : Type} [PredictionOps F]

def carriedAck (sessionId : Int) (update : WorldUpdate) : Option (MovementAck F) :=
  match update.kind with
  | .snapshot => match applySnapshot (F := F) update with
    | .error _ => none
    | .ok state =>
      if state.hasLocalPlayer then
        some ⟨sessionId, state.localX, state.localY, state.localZ, update.worldTick,
          state.lastProcessedInputSequence⟩
      else none
  | .event =>
    let ack := if update.payload.take 12 = ascii "movementAck=" then
        (parseMovementAck (F := F) update.payload).toOption
      else tryParseAttachedMovementAck update.payload
    ack.filter (fun ack => sessionId > 0 ∧ ack.sessionId = sessionId)
  | .unknown _ => none

-- What the receiver takes of it: an event counts when it is applied.
def ownAck (receiver : ClientWorldUpdateReceiver F) (update : WorldUpdate) : Option (MovementAck F) :=
  if update.kind = .event ∧ (receiver.needsSnapshot = true ∨
      (takeEvent receiver.hazardQueue update).2.1 ≠ .applied) then none
  else carriedAck receiver.localSessionId update

def publishable (play : Play F) (sessionId : Int) (update : WorldUpdate) : Bool :=
  decide (ValidUpdate update) && match carriedAck (F := F) sessionId update with
    | none => true
    | some ack => ack.lastProcessedInputSequence = 0 ∨ ack.lastProcessedInputSequence ∈ play.applied

def playStep (play : Play F) : PlayEvent F → Play F
  | .login sessionId =>
    { play with
      receiver := play.receiver.bindLocalSession sessionId
      session := some sessionId }
  | .send number dx dy dz => match play.session with
    | none => play
    | some _ =>
      { play with
        receiver := (play.receiver.predict number dx dy dz).1
        sent := play.sent ++ [number]
        uplink := play.uplink ++ [⟨number, dx, dy, dz⟩] }
  | .refuse => { play with uplink := play.uplink.tail }
  | .reach => match play.session, play.uplink with
    | some sessionId, move :: uplink =>
      { play with
        uplink := uplink
        queue := (play.queue.enqueueSequencedMovement sessionId move.dx move.dy move.dz
          move.clientInputSequence).1 }
    | _, _ => play
  | .other queueCall => { play with queue := (call play.queue queueCall).1 }
  | .applyFrame taken =>
    { play with
      queue := play.queue.takeFrame.1
      applied := match play.session with
        | some sessionId =>
          if taken then play.applied ++ numbersOf sessionId play.queue.takeFrame.2 else play.applied
        | none => play.applied }
  | .publish update => match play.session with
    | none => play
    | some sessionId =>
      if publishable play sessionId update then { play with downlink := play.downlink ++ [update] }
      else play
  | .deliver => match play.downlink with
    | [] => play
    | update :: downlink =>
      { play with downlink := downlink, receiver := deliverOne play.receiver update }
  | .beginReconnect =>
    { play with
      receiver := play.receiver.beginReconnect
      session := none
      sent := []
      earlier := play.earlier ++ play.sent
      uplink := []
      applied := []
      downlink := [] }

def Converged (play : Play F) (ack : MovementAck F) : Prop :=
  play.receiver.predictor.pending = [] ∧
    play.receiver.predictor.predictedPose = ⟨ack.x, ack.y, ack.z⟩

def NothingLeft (play : Play F) (ack : MovementAck F) : Prop :=
  ∀ input ∈ play.receiver.predictor.pending, input.clientInputSequence ∈ play.earlier →
    input.clientInputSequence ≤ ack.lastProcessedInputSequence

def Reconverges (play : Play F) : PlayEvent F → Prop
  | .deliver => ∀ update ∈ play.downlink.head?, ∀ ack ∈ ownAck play.receiver update,
    (∀ n ∈ play.sent, n ≤ ack.lastProcessedInputSequence) →
      (Converged (playStep play .deliver) ack ↔ NothingLeft play ack)
  | _ => True

variable {predictor : LocalMovementPredictor F} {receiver : ClientWorldUpdateReceiver F}
  {input : PendingMoveInput F}

structure Rebased (before after : LocalMovementPredictor F) (ack : MovementAck F) : Prop where
  pending : after.pending = acknowledgeUpTo before.pending ack.lastProcessedInputSequence
  pose : after.predictedPose = replayUnacked ⟨ack.x, ack.y, ack.z⟩ after.pending

theorem rebasedExact {after : LocalMovementPredictor F} {ack : MovementAck F}
    (rebased : Rebased predictor after ack) :
    (after.pending = [] ∧ after.predictedPose = ⟨ack.x, ack.y, ack.z⟩) ↔
      ∀ input ∈ predictor.pending, input.clientInputSequence ≤ ack.lastProcessedInputSequence := by
  have empty : after.pending = [] ↔
      ∀ input ∈ predictor.pending, input.clientInputSequence ≤ ack.lastProcessedInputSequence := by
    rw [rebased.pending, acknowledgeUpTo, List.dropWhile_eq_nil_iff]
    simp
  constructor
  · exact fun converged => empty.mp converged.1
  · intro covered
    have nothing := empty.mpr covered
    refine ⟨nothing, ?_⟩
    rw [rebased.pose, nothing]
    rfl

theorem reconciledOwn {ack : MovementAck F} (bound : receiver.localSessionId > 0)
    (own : ack.sessionId = receiver.localSessionId) :
    Rebased receiver.predictor (reconcileOwn receiver ack).predictor ack := by
  unfold reconcileOwn
  rw [if_pos ⟨bound, own⟩]
  exact ⟨rfl, rfl⟩

theorem remotePredictor (receiver : ClientWorldUpdateReceiver F) (pose : PublicMovementPose F) :
    (moveRemote receiver pose).predictor = receiver.predictor := by
  unfold moveRemote
  split <;> rfl

theorem movementRebased {payload : Bytes} {ack : MovementAck F}
    (held : (if payload.take 12 = ascii "movementAck=" then
        (parseMovementAck (F := F) payload).toOption
      else tryParseAttachedMovementAck payload) = some ack)
    (bound : receiver.localSessionId > 0) (own : ack.sessionId = receiver.localSessionId) :
    Rebased receiver.predictor (readMovement receiver payload).1.predictor ack := by
  unfold readMovement
  split at held
  · rename_i header
    rw [if_pos header]
    cases parsed : parseMovementAck (F := F) payload with
    | error e => simp [parsed, Except.toOption] at held
    | ok read =>
      rw [parsed] at held
      cases Option.some.inj held
      exact reconciledOwn bound own
  · rename_i header
    rw [if_neg header, held]
    dsimp only
    split
    · exact reconciledOwn bound own
    · rw [remotePredictor]
      exact reconciledOwn bound own

theorem ownRebased {update : WorldUpdate} {ack : MovementAck F}
    (own : ownAck receiver update = some ack) :
    Rebased receiver.predictor (applyUpdate receiver update).1.predictor ack := by
  unfold ownAck at own
  split at own
  · contradiction
  · rename_i taken
    unfold carriedAck at own
    unfold applyUpdate
    cases kind : update.kind with
    | unknown code => simp [kind] at own
    | snapshot =>
      rw [kind] at own
      dsimp only at own ⊢
      cases read : applySnapshot (F := F) update with
      | error e => simp [read] at own
      | ok state =>
        rw [read] at own
        dsimp only at own ⊢
        split at own
        · rename_i hasLocal
          cases Option.some.inj own
          unfold replaceBySnapshot
          rw [if_pos hasLocal]
          exact ⟨rfl, rfl⟩
        · contradiction
    | event =>
      have ready : receiver.needsSnapshot ≠ true := fun awaiting => taken ⟨kind, .inl awaiting⟩
      have applied : (takeEvent receiver.hazardQueue update).2.1 = .applied :=
        not_not.mp (fun other => taken ⟨kind, .inr other⟩)
      rw [kind] at own
      dsimp only at own ⊢
      rw [if_neg ready]
      obtain ⟨held, matching⟩ := Option.filter_eq_some_iff.mp own
      obtain ⟨bound, mine⟩ : receiver.localSessionId > 0 ∧ ack.sessionId = receiver.localSessionId := by
        simpa using matching
      have rebased : Rebased receiver.predictor (applyEvent receiver update).1.predictor ack := by
        unfold applyEvent
        rw [if_neg ready]
        cases made : takeEvent receiver.hazardQueue update with
        | mk hazardQueue outcome =>
          obtain ⟨result, error⟩ := outcome
          rw [made] at applied
          dsimp only at applied
          subst applied
          let taken : ClientWorldUpdateReceiver F := { receiver with
            hazardQueue := hazardQueue
            expected := hazardQueue.sync.tracker.expectedSequence }
          have ready : taken.localSessionId > 0 ∧ ack.sessionId = taken.localSessionId := ⟨bound, mine⟩
          exact movementRebased held ready.1 ready.2
      cases made : applyEvent receiver update with
      | mk after result =>
        rw [made] at rebased
        cases result <;> exact rebased

theorem updatePending (update : WorldUpdate)
    (there : input ∈ (applyUpdate receiver update).1.predictor.pending) :
    input ∈ receiver.predictor.pending := by
  have dropped {pending : List (PendingMoveInput F)} {last : UInt64}
      (left : input ∈ acknowledgeUpTo pending last) : input ∈ pending :=
    (List.dropWhile_suffix _).subset left
  have reconciled (receiver : ClientWorldUpdateReceiver F) (ack : MovementAck F)
      (left : input ∈ (reconcileOwn receiver ack).predictor.pending) :
      input ∈ receiver.predictor.pending := by
    unfold reconcileOwn at left
    split at left
    · exact dropped left
    · exact left
  have read (receiver : ClientWorldUpdateReceiver F) (payload : Bytes)
      (left : input ∈ (readMovement receiver payload).1.predictor.pending) :
      input ∈ receiver.predictor.pending := by
    unfold readMovement at left
    split at left
    · split at left
      · exact left
      · exact reconciled receiver _ left
    · dsimp only at left
      split at left
      · split at left
        · exact left
        · exact reconciled receiver _ left
      · rw [remotePredictor] at left
        split at left
        · exact left
        · exact reconciled receiver _ left
  have event (left : input ∈ (applyEvent receiver update).1.predictor.pending) :
      input ∈ receiver.predictor.pending := by
    unfold applyEvent at left
    split at left
    · exact left
    · cases made : takeEvent receiver.hazardQueue update with
      | mk hazardQueue outcome =>
        obtain ⟨result, error⟩ := outcome
        rw [made] at left
        cases result with
        | applied => exact read { receiver with
            hazardQueue := hazardQueue
            expected := hazardQueue.sync.tracker.expectedSequence } update.payload left
        | ignoredDuplicate => exact left
        | requestSnapshot => exact left
        | rejected => exact left
        | backpressure => exact left
  unfold applyUpdate at there
  split at there
  · split at there
    · exact there
    · unfold replaceBySnapshot at there
      dsimp only at there
      split at there
      · exact dropped there
      · exact there
  · split at there
    · exact there
    · split at there <;> rename_i made <;> rw [made] at event <;> exact event there
  · exact there

theorem predictPending {number : UInt64} {dx dy dz : F}
    (there : input ∈ (predictor.predict number dx dy dz).1.pending) :
    input ∈ predictor.pending ∨ input.clientInputSequence = number := by
  cases made : predictor.predict number dx dy dz with
  | mk after pushed =>
    rw [made] at there
    cases pushed with
    | true =>
      rw [(predicted made).2.2] at there
      rcases List.mem_append.mp there with old | new
      · exact .inl old
      · rw [List.mem_singleton.mp new]
        exact .inr rfl
    | false =>
      unfold LocalMovementPredictor.predict at made
      split at made
      · cases made
        exact .inl there
      · split at made <;> cases made
        exact .inl there

structure Standing (play : Play F) : Prop where
  clean : play.receiver.accumulator = {}
  valid : ∀ update ∈ play.downlink, ValidUpdate update
  known : ∀ input ∈ play.receiver.predictor.pending,
    input.clientInputSequence ∈ play.sent ∨ input.clientInputSequence ∈ play.earlier

theorem deliveredPredictor {update : WorldUpdate} (clean : receiver.accumulator = {})
    (valid : ValidUpdate update) : (deliverOne receiver update).accumulator = {} ∧
      (deliverOne receiver update).predictor = (applyUpdate receiver update).1.predictor := by
  obtain ⟨alike, kept⟩ := deliverOneApplies clean valid
  have predictor := congrArg ClientWorldUpdateReceiver.predictor alike
  exact ⟨kept, predictor⟩

theorem standingStep {play : Play F} (standing : Standing play) (event : PlayEvent F) :
    Standing (playStep play event) := by
  obtain ⟨clean, valid, known⟩ := standing
  cases event with
  | login sessionId => exact ⟨clean, valid, known⟩
  | refuse => exact ⟨clean, valid, known⟩
  | other queueCall => exact ⟨clean, valid, known⟩
  | applyFrame taken => exact ⟨clean, valid, known⟩
  | reach =>
    simp only [playStep]
    split <;> exact ⟨clean, valid, known⟩
  | send number dx dy dz =>
    simp only [playStep]
    split
    · exact ⟨clean, valid, known⟩
    · refine ⟨clean, valid, fun input there => ?_⟩
      rcases predictPending there with old | new
      · rcases known input old with sent | earlier
        · exact .inl (List.mem_append_left _ sent)
        · exact .inr earlier
      · rw [new]
        exact .inl (List.mem_append_right _ List.mem_cons_self)
  | publish update =>
    simp only [playStep]
    split
    · exact ⟨clean, valid, known⟩
    · split
      · rename_i fit
        simp only [publishable, Bool.and_eq_true, decide_eq_true_eq] at fit
        refine ⟨clean, fun other there => ?_, known⟩
        rcases List.mem_append.mp there with old | new
        · exact valid other old
        · rw [List.mem_singleton.mp new]
          exact fit.1
      · exact ⟨clean, valid, known⟩
  | deliver =>
    simp only [playStep]
    split
    · exact ⟨clean, valid, known⟩
    · rename_i update downlink head
      rw [head] at valid
      obtain ⟨first, later⟩ := List.forall_mem_cons.mp valid
      obtain ⟨kept, predictor⟩ := deliveredPredictor clean first
      refine ⟨kept, later, fun input there => ?_⟩
      dsimp only at there
      rw [predictor] at there
      exact known input (updatePending update there)
  | beginReconnect =>
    refine ⟨rfl, fun update there => absurd there List.not_mem_nil, fun input there => ?_⟩
    rcases known input there with sent | earlier
    · exact .inr (List.mem_append_right _ sent)
    · exact .inr (List.mem_append_left _ earlier)

theorem deliverExact {play : Play F} (standing : Standing play) : Reconverges play .deliver := by
  intro update next ack own covered
  obtain ⟨downlink, head⟩ := List.head?_eq_some_iff.mp next
  have valid : ValidUpdate update := standing.valid update (by rw [head]; exact List.mem_cons_self)
  obtain ⟨-, predictor⟩ := deliveredPredictor standing.clean valid
  have converges := rebasedExact (ownRebased own)
  unfold Converged playStep
  rw [head]
  dsimp only
  rw [predictor, converges]
  constructor
  · exact fun all input there _ => all input there
  · intro nothing input there
    rcases standing.known input there with sent | earlier
    · exact covered _ sent
    · exact nothing input there earlier

theorem reconvergesExact (events : List (PlayEvent F)) :
    Along playStep Reconverges { receiver := .initial } events := by
  have standing (before : List (PlayEvent F)) :
      Standing (run playStep { receiver := .initial } before) :=
    List.foldlRecOn (motive := Standing) _ _
      ⟨rfl, fun update there => absurd there List.not_mem_nil,
        fun input there => absurd there List.not_mem_nil⟩
      (fun play standing event _ => standingStep standing event)
  intro before event after _
  cases event with
  | deliver => exact deliverExact (standing before)
  | login sessionId => trivial
  | send number dx dy dz => trivial
  | refuse => trivial
  | reach => trivial
  | other queueCall => trivial
  | applyFrame taken => trivial
  | publish update => trivial
  | beginReconnect => trivial

end

def ownerSnapshot : WorldUpdate :=
  ⟨currentProtocolVersion, .snapshot, 1, 5, 0,
    ascii "ether.fire=0;ether.water=0;ether.earth=0;ether.air=0;ether.hazard=0;local.x=0;local.y=0;local.z=0;local.lastProcessedInputSequence=0"⟩

def droppedMoves : List (PlayEvent ℚ) :=
  [.login 7, .send 1 1 0 0, .send 2 1 0 0, .beginReconnect, .login 8, .publish ownerSnapshot]

def dropped : Play ℚ := run playStep { receiver := .initial } droppedMoves

theorem oldMovesStay :
    dropped.sent = [] ∧ dropped.downlink = [ownerSnapshot] ∧
    ownAck dropped.receiver ownerSnapshot = some ⟨8, 0, 0, 0, 1, 0⟩ ∧
    (playStep dropped .deliver).receiver.predictor.predictedPose = ⟨2, 0, 0⟩ ∧
    (playStep dropped .deliver).receiver.predictor.pending.length = 2 := by
  decide +kernel

end SeedOrigin.Reconvergence
