import SeedOrigin.FailedFrames
import SeedOrigin.FailedMoves
import SeedOrigin.FramePositions

/-! The same movements through both frame paths. The current one moves input by
input; the older one takes every target from where the character stood before the
frame, so that only the last one counts. -/
namespace SeedOrigin.MovementPaths
open SeedOrigin.Octets SeedOrigin.Numbers SeedOrigin.Character SeedOrigin.ClientInput
open SeedOrigin.Inputs SeedOrigin.UpdateWire SeedOrigin.UpdateBuilder SeedOrigin.Applier
open SeedOrigin.Maps SeedOrigin.FieldCalls SeedOrigin.FieldEffects SeedOrigin.Numbering
open SeedOrigin.FailedFrames SeedOrigin.ActionFrames SeedOrigin.FailedMoves
open SeedOrigin.FramePositions SeedOrigin.FrameIsolation SeedOrigin.FrameUpdates SeedOrigin.Runs

section
variable {F : Type}

def movesOf (field : Field F) (g : Int) (moves : List (MovementIntent F)) : List (MovementIntent F) :=
  moves.filter (fun move => field.resolvePlayerId move.sessionId = g)

variable [FloatOps F]

def advance (pos : Position F) (moves : List (MovementIntent F)) : Option (Position F) :=
  moves.foldlM (fun pos move => integrateMovement pos move.dx move.dy move.dz) pos

structure Sound (field : Field F) (moves : List (MovementIntent F)) : Prop where
  valid : ∀ move ∈ moves, isValidMovementDelta move.dx move.dy move.dz = true
  present : ∀ move ∈ moves, field.hasPlayer move.sessionId = true ∧
    (field.findPlayer move.sessionId).isSome = true

def noted (projection : Projection F) (id : Int) (next : Position F) : Projection F :=
  { projection with position := projection.position.insert id { next with playerId := id } }

def Inside (field : Field F) (moves : List (MovementIntent F)) : Prop :=
  ∀ g pos, positions field g = some pos → (advance pos (movesOf field g moves)).isSome = true

def target (field : Field F) (move : MovementIntent F) : Option (Position F) :=
  (field.findPlayer move.sessionId).bind (fun player => advance player.position [move])

structure Given (field : Field F) (moves : List (MovementIntent F)) : Prop where
  valid : ∀ move ∈ moves, isValidMovementDelta move.dx move.dy move.dz = true
  present : ∀ move ∈ moves, (field.findPlayer move.sessionId).isSome = true
  inside : Inside field moves

structure Agreed (field : Field F) (moves : List (MovementIntent F)) (first : AppliedActions F)
    (second : Applied F) : Prop where
  applied : first.outcome = .ok () ∧ second.outcome = .ok ()
  places : ∀ g pos, positions field g = some pos →
    ∃ final, advance pos (movesOf field g moves) = some final ∧
      positions first.field g = some final ∧ positions second.field g = some final
  acks : first.applier.ownerAcks = second.applier.ownerAcks

end

def arrival : FieldCall ℚ :=
  .placeAfterLogin (fun _ _ => some 7) { x := 0, y := 0, z := 0, playerName := ascii "walker" } 1 []

def meadow : Field ℚ := (run callField ⟨Field.initial, ∅⟩ [arrival]).field

end SeedOrigin.MovementPaths
