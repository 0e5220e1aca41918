import Std.Data.ExtTreeMap
import SeedOrigin.Character

/-! Client input sequences, the payload of a move command and the pose fields an
owner is sent back. -/
namespace SeedOrigin.ClientInput
open SeedOrigin.Octets SeedOrigin.Numbers SeedOrigin.Decimal
open FloatOps (isFinite)

abbrev IntMap (V : Type) := Std.ExtTreeMap Int V

def maxClientInputAhead : UInt64 := 64

inductive ClientInputAdmission where
  | accept | ignoreStale | rejectTooFarAhead | rejectInvalid
  deriving DecidableEq, Repr

structure ClientInputSequenceTracker where
  lastAccepted : IntMap UInt64 := ∅
  deriving DecidableEq

def ClientInputSequenceTracker.admit (tracker : ClientInputSequenceTracker) (sessionId : Int)
    (clientInputSequence : UInt64) : ClientInputAdmission :=
  if sessionId ≤ 0 ∨ clientInputSequence = 0 then .rejectInvalid
  else
    let previous := tracker.lastAccepted.getD sessionId 0
    if clientInputSequence ≤ previous then .ignoreStale
    else if clientInputSequence - previous > maxClientInputAhead then .rejectTooFarAhead
    else .accept

def ClientInputSequenceTracker.noteAccepted (tracker : ClientInputSequenceTracker) (sessionId : Int)
    (clientInputSequence : UInt64) : ClientInputSequenceTracker :=
  ⟨tracker.lastAccepted.insert sessionId clientInputSequence⟩

structure MovementAck (F : Type) where
  sessionId : Int
  x : F
  y : F
  z : F
  worldTick : UInt64
  lastProcessedInputSequence : UInt64
  deriving DecidableEq

def uint64Text (n : UInt64) : Bytes := natText n.toNat

def parseMovementEventSession (payload : Bytes) : Option Int :=
  let header := ascii "movement=session:"
  if payload.take header.length ≠ header then none
  else
    let text := (payload.drop header.length).takeWhile (fun b => b != 59)
    match parseInt64 text with
    | some sessionId => if sessionId > 0 then some sessionId else none
    | none => none

section
variable {F : Type} [FloatOps F]

def parseDeltas (deltas : Bytes) : Option (F × F × F) := do
  let (dx, rest) ← FloatOps.scan deltas
  let rest ← scanChar 44 rest
  let (dy, rest) ← FloatOps.scan rest
  let rest ← scanChar 44 rest
  let (dz, rest) ← FloatOps.scan rest
  if exhausted rest ∧ isFinite dx ∧ isFinite dy ∧ isFinite dz then some (dx, dy, dz) else none

-- A sequence number stands before a colon that comes before any comma.
def parseMovePayload (payload : Bytes) : Option (UInt64 × F × F × F) :=
  match cut 58 payload with
  | none => (parseDeltas payload).map (fun deltas => (0, deltas))
  | some (front, deltas) =>
    if 44 ∈ front then (parseDeltas payload).map (fun deltas => (0, deltas))
    else match parseUint64 front with
      | none => none
      | some sequence =>
        if sequence = 0 then none else (parseDeltas deltas).map (fun deltas => (sequence, deltas))

def MovementAck.finite (ack : MovementAck F) : Bool :=
  isFinite ack.x ∧ isFinite ack.y ∧ isFinite ack.z

def formatMovementAck (ack : MovementAck F) : Except String Bytes :=
  if ack.sessionId ≤ 0 ∨ ack.finite = false then .error "movement ack contains invalid state"
  else .ok (ascii "movementAck=session:" ++ intText ack.sessionId ++
    ascii ";x:" ++ FloatOps.text ack.x ++ ascii ";y:" ++ FloatOps.text ack.y ++
    ascii ";z:" ++ FloatOps.text ack.z ++ ascii ";worldTick:" ++ uint64Text ack.worldTick ++
    ascii ";lastProcessedInputSequence:" ++ uint64Text ack.lastProcessedInputSequence)

end

end SeedOrigin.ClientInput
