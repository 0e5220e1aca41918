import Mathlib.Data.Rat.Sqrt
import SeedOrigin.ClientInput

/-! LocalMovementPredictor and its PendingInputBuffer: the client's moves are made
at once and made again on every authoritative pose. stepRender, which moves only
the rendered pose, is left out. -/
namespace SeedOrigin.Prediction
open SeedOrigin.Octets SeedOrigin.Numbers SeedOrigin.Character SeedOrigin.ClientInput
open FloatOps (lit add sub mul div lt le)

def maxPendingPredictionInputs : Nat := 64

-- What the client computes beside the operations of the server.
class PredictionOps (F : Type) extends FloatOps F where
  sqrt : F → F

instance rationalPrediction : PredictionOps ℚ where
  sqrt x := Rat.sqrt x

structure PendingMoveInput (F : Type) where
  clientInputSequence : UInt64
  dx : F
  dy : F
  dz : F
  deriving DecidableEq

structure PredictedPose (F : Type) where
  x : F
  y : F
  z : F
  deriving DecidableEq

structure ClientPredictionMetrics (F : Type) where
  lastErrorDistance : F
  reconcileCount : UInt64
  averagePendingInputCount : F
  deriving DecidableEq

structure LocalMovementPredictor (F : Type) where
  predictedPose : PredictedPose F
  renderedPose : PredictedPose F
  pending : List (PendingMoveInput F) := []
  lastAcked : UInt64 := 0
  worldTick : UInt64 := 0
  correctionSeconds : F
  predictionMetrics : ClientPredictionMetrics F
  deriving DecidableEq

section
variable {F : Type}

def push (pending : List (PendingMoveInput F)) (input : PendingMoveInput F) :
    Option (List (PendingMoveInput F)) :=
  if input.clientInputSequence = 0 ∨ pending.length ≥ maxPendingPredictionInputs then none
  else match pending.getLast? with
    | none => some (pending ++ [input])
    | some last =>
      if input.clientInputSequence ≤ last.clientInputSequence then none else some (pending ++ [input])

def acknowledgeUpTo (pending : List (PendingMoveInput F)) (lastProcessedInputSequence : UInt64) :
    List (PendingMoveInput F) :=
  pending.dropWhile (fun input => input.clientInputSequence ≤ lastProcessedInputSequence)

variable [PredictionOps F]

def predictionCorrectionSeconds : F := lit (15 / 100)
def predictionSnapDistance : F := lit 5

def poseDistance (a b : PredictedPose F) : F :=
  let dx := sub a.x b.x
  let dy := sub a.y b.y
  let dz := sub a.z b.z
  PredictionOps.sqrt (add (add (mul dx dx) (mul dy dy)) (mul dz dz))

def integrate (pose : PredictedPose F) (dx dy dz : F) : Option (PredictedPose F) :=
  (integrateMovement ⟨0, pose.x, pose.y, pose.z⟩ dx dy dz).map (fun next => ⟨next.x, next.y, next.z⟩)

def LocalMovementPredictor.reset (x y z : F) : LocalMovementPredictor F :=
  { predictedPose := ⟨x, y, z⟩
    renderedPose := ⟨x, y, z⟩
    correctionSeconds := lit 0
    predictionMetrics := ⟨lit 0, 0, lit 0⟩ }

def LocalMovementPredictor.initial : LocalMovementPredictor F := .reset (lit 0) (lit 0) (lit 0)

def LocalMovementPredictor.predict (predictor : LocalMovementPredictor F)
    (clientInputSequence : UInt64) (dx dy dz : F) : LocalMovementPredictor F × Bool :=
  match integrate predictor.predictedPose dx dy dz with
  | none => (predictor, false)
  | some next => match push predictor.pending ⟨clientInputSequence, dx, dy, dz⟩ with
    | none => (predictor, false)
    | some pending =>
      let rendered := predictor.renderedPose
      ({ predictor with
          pending := pending
          predictedPose := next
          renderedPose := ⟨add rendered.x dx, add rendered.y dy, add rendered.z dz⟩ }, true)

-- The replay ends at the first move that is refused.
def replayUnacked (pose : PredictedPose F) : List (PendingMoveInput F) → PredictedPose F
  | [] => pose
  | input :: remaining => match integrate pose input.dx input.dy input.dz with
    | none => pose
    | some next => replayUnacked next remaining

def recordReconcile (metrics : ClientPredictionMetrics F) (pendingCount : Nat) (errorDistance : F) :
    ClientPredictionMetrics F :=
  let reconcileCount := metrics.reconcileCount + 1
  let average := metrics.averagePendingInputCount
  { lastErrorDistance := errorDistance
    reconcileCount := reconcileCount
    averagePendingInputCount :=
      add average (div (sub (lit pendingCount) average) (lit reconcileCount.toNat)) }

-- The rendered pose follows at once, or within the correction time.
def correctRender (predicted rendered : PredictedPose F) (errorDistance : F) (snap : Bool) :
    PredictedPose F × F :=
  if snap ∨ le predictionSnapDistance errorDistance then (predicted, lit 0)
  else if lt (lit (1 / 10000)) errorDistance then (rendered, predictionCorrectionSeconds)
  else (predicted, lit 0)

def LocalMovementPredictor.rebase (predictor : LocalMovementPredictor F) (x y z : F) (tick : UInt64)
    (lastProcessedInputSequence : UInt64) : LocalMovementPredictor F :=
  let pending := acknowledgeUpTo predictor.pending lastProcessedInputSequence
  { predictor with
    pending := pending
    predictedPose := replayUnacked ⟨x, y, z⟩ pending
    lastAcked := lastProcessedInputSequence
    worldTick := tick }

def LocalMovementPredictor.reconcile (predictor : LocalMovementPredictor F) (x y z : F) (tick : UInt64)
    (lastProcessedInputSequence : UInt64) : LocalMovementPredictor F :=
  let rebased := predictor.rebase x y z tick lastProcessedInputSequence
  let error := poseDistance rebased.renderedPose rebased.predictedPose
  let (rendered, correctionSeconds) :=
    correctRender rebased.predictedPose rebased.renderedPose error false
  { rebased with
    predictionMetrics := recordReconcile rebased.predictionMetrics rebased.pending.length error
    renderedPose := rendered
    correctionSeconds := correctionSeconds }

def LocalMovementPredictor.applySnapshotBaseline (predictor : LocalMovementPredictor F) (x y z : F)
    (tick : UInt64) (lastProcessedInputSequence : UInt64) : LocalMovementPredictor F :=
  let rebased := predictor.rebase x y z tick lastProcessedInputSequence
  { rebased with
    renderedPose := rebased.predictedPose
    correctionSeconds := lit 0
    predictionMetrics := recordReconcile rebased.predictionMetrics rebased.pending.length (lit 0) }

end

end SeedOrigin.Prediction
