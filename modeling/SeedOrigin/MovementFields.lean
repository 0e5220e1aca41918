import SeedOrigin.FieldText
import SeedOrigin.HazardClient

/-! What the client reads from a movement: an acknowledgement of its own, the
owner fields attached to a public movement, and the public pose of another
player. -/
namespace SeedOrigin.MovementFields
open SeedOrigin.Octets SeedOrigin.Numbers SeedOrigin.Decimal SeedOrigin.ClientInput
open SeedOrigin.FieldText SeedOrigin.HazardClient

structure PublicMovementPose (F : Type) where
  sessionId : Int
  x : F
  y : F
  z : F
  deriving DecidableEq

-- The key is looked for anywhere in the text, its value runs to the next field.
def parseAckField (text : Bytes) (key : String) : Option Bytes :=
  match cutAt (ascii key ++ [58]) text with
  | none => none
  | some (_, rest) =>
    let value := rest.takeWhile (fun b => b != 59)
    if value = [] then none else some value

section
variable {F : Type} [FloatOps F]

def parsePoseFields (sessionId : Int) (text : Bytes) : Option (MovementAck F) := do
  let xText ← parseAckField text "x"
  let yText ← parseAckField text "y"
  let zText ← parseAckField text "z"
  let tickText ← parseAckField text "worldTick"
  let seqText ← parseAckField text "lastProcessedInputSequence"
  return {
    sessionId := sessionId
    x := ← parseFinite xText
    y := ← parseFinite yText
    z := ← parseFinite zText
    worldTick := ← parseUint64 tickText
    lastProcessedInputSequence := ← parseUint64 seqText }

def parseMovementAck (payload : Bytes) : Except String (MovementAck F) :=
  let header := ascii "movementAck="
  if payload.take header.length ≠ header then .error "world update is not a movement ack"
  else
    let text := payload.drop header.length
    match (parseAckField text "session").bind parseInt64 with
    | none => .error "movement ack contains invalid fields"
    | some sessionId =>
      if sessionId ≤ 0 then .error "movement ack contains invalid fields"
      else match parsePoseFields sessionId text with
        | none => .error "movement ack contains invalid fields"
        | some ack => .ok ack

def tryParseAttachedMovementAck (payload : Bytes) : Option (MovementAck F) := do
  let sessionId ← parseMovementEventSession payload
  parsePoseFields sessionId payload

structure PoseFields (F : Type) where
  x : Option F := none
  y : Option F := none
  z : Option F := none

-- A field without a value, and one with another key, is passed over.
def readPoseField (pose : PoseFields F) (field : Bytes) : Option (PoseFields F) :=
  match cut 61 field with
  | none => some pose
  | some (key, value) =>
    if key = ascii "x" then (parseFinite value).map (fun x => { pose with x := some x })
    else if key = ascii "y" then (parseFinite value).map (fun y => { pose with y := some y })
    else if key = ascii "z" then (parseFinite value).map (fun z => { pose with z := some z })
    else some pose

def tryParsePublicMovementPose (payload : Bytes) : Option (PublicMovementPose F) := do
  let sessionId ← parseMovementEventSession payload
  let pose ← (fields 59 payload).foldlM readPoseField {}
  return { sessionId := sessionId, x := ← pose.x, y := ← pose.y, z := ← pose.z }

end

end SeedOrigin.MovementFields
