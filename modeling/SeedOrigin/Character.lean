import SeedOrigin.Numbers

/-! Status, Position, Player and Npc, and the movement step they share. Buffs and
map ids, which no modelled function reads, are left out. -/
namespace SeedOrigin.Character
open SeedOrigin.Octets SeedOrigin.Numbers
open FloatOps (lit add mul lt le isFinite)

def maxLong : Int := 2 ^ 63 - 1

structure Status where
  hp : Int
  mp : Int
  deriving DecidableEq, Repr

def Status.make (hp mp : Int) : Status := ⟨if hp < 0 then 0 else hp, if mp < 0 then 0 else mp⟩

-- Addition that saturates at the largest long and at zero.
def gain (value amount : Int) : Int :=
  if amount > 0 then if value > maxLong - amount then maxLong else value + amount
  else if amount < 0 then
    let magnitudeWithoutOne := -(amount + 1)
    if value ≤ magnitudeWithoutOne then 0 else value - magnitudeWithoutOne - 1
  else value

def Status.gainHp (status : Status) (amount : Int) : Status := { status with hp := gain status.hp amount }
def Status.gainMp (status : Status) (amount : Int) : Status := { status with mp := gain status.mp amount }

structure Position (F : Type) where
  playerId : Int
  x : F
  y : F
  z : F
  deriving DecidableEq, Repr

def isPlayerNamePadding (b : UInt8) : Bool := Decimal.isSpace b

def trimPlayerName (raw : Bytes) : Bytes :=
  (raw.dropWhile isPlayerNamePadding).rdropWhile isPlayerNamePadding

def playerNameSize : Nat := 64

structure Player (F : Type) where
  id : Int
  authPlayerId : Int := 0
  name : Bytes := []
  status : Status
  position : Position F
  deriving DecidableEq, Repr

structure Npc (F : Type) where
  id : Int
  type : Bytes
  status : Status
  position : Position F
  alive : Bool
  deriving DecidableEq, Repr

section
variable {F : Type}

-- The first positive id stays.
def Player.setAuthPlayerId (player : Player F) (issuedId : Int) : Player F :=
  if player.authPlayerId > 0 then player
  else { player with authPlayerId := if issuedId < 0 then 0 else issuedId }

-- The name is a C string: it ends at the first zero byte.
def Player.getPlayerName (player : Player F) : Bytes := player.name.takeWhile (fun b => b != 0)

def acceptsName (displayName : Bytes) : Bool :=
  let trimmed := trimPlayerName displayName
  trimmed ≠ [] && trimmed.length < playerNameSize && !trimmed.contains 59 && !trimmed.contains 61

def Player.setPlayerName (player : Player F) (displayName : Bytes) : Option (Player F) :=
  if acceptsName displayName = false then none
  else some { player with name := trimPlayerName displayName }

theorem Player.nameSet {player renamed : Player F} {displayName : Bytes}
    (h : player.setPlayerName displayName = some renamed) :
    acceptsName displayName = true ∧ renamed = { player with name := trimPlayerName displayName } := by
  unfold Player.setPlayerName at h
  split at h
  · contradiction
  · rename_i accepted
    exact ⟨by simpa using accepted, (Option.some.inj h).symm⟩

-- The character keeps its own id in its position.
def Position.moveTo (position : Position F) (x y z : F) : Position F :=
  { position with x := x, y := y, z := z }

def Player.setPosition (player : Player F) (next : Position F) : Player F :=
  { player with position := player.position.moveTo next.x next.y next.z }

def Npc.make (id : Int) (type : Bytes) (status : Status) (position : Position F) : Npc F :=
  ⟨id, type, status, position, status.hp > 0⟩

def Npc.isAlive (npc : Npc F) : Bool := npc.alive ∧ npc.status.hp > 0

def Npc.applyDamage (npc : Npc F) (damage : Int) : Option (Npc F) :=
  if npc.isAlive = false ∨ damage ≤ 0 then none
  else
    let status := npc.status.gainHp (-damage)
    some { npc with status := status, alive := if status.hp = 0 then false else npc.alive }

def Npc.setPosition (npc : Npc F) (next : Position F) : Npc F :=
  { npc with position := npc.position.moveTo next.x next.y next.z }

def Npc.respawn (npc : Npc F) (status : Status) (position : Position F) : Option (Npc F) :=
  if status.hp ≤ 0 then none
  else some { npc.setPosition position with status := status, alive := true }

variable [FloatOps F]

def maxMoveDistancePerFrame : F := lit 100
def maxWorldCoordinate : F := lit 1000000

def isValidMovementDelta (dx dy dz : F) : Bool :=
  isFinite dx ∧ isFinite dy ∧ isFinite dz ∧
    le (add (add (mul dx dx) (mul dy dy)) (mul dz dz))
      (mul maxMoveDistancePerFrame maxMoveDistancePerFrame)

def insideWorld (coordinate : F) : Bool :=
  isFinite coordinate ∧ lt maxWorldCoordinate (FloatOps.abs coordinate) = false

def integrateMovement (position : Position F) (dx dy dz : F) : Option (Position F) :=
  if isValidMovementDelta dx dy dz = false then none
  else
    let x := add position.x dx
    let y := add position.y dy
    let z := add position.z dz
    if insideWorld x ∧ insideWorld y ∧ insideWorld z then some (position.moveTo x y z) else none

end

theorem trimmedStart (raw : Bytes) :
    (trimPlayerName raw).dropWhile isPlayerNamePadding = trimPlayerName raw := by
  obtain ⟨back, split⟩ : trimPlayerName raw <+: raw.dropWhile isPlayerNamePadding :=
    List.rdropWhile_prefix _ _
  have first := List.head?_dropWhile_not isPlayerNamePadding raw
  cases trimmed : trimPlayerName raw with
  | nil => rfl
  | cons b rest =>
    rw [← split, trimmed] at first
    exact List.dropWhile_cons_of_neg (by simpa using first)

theorem trimTwice (raw : Bytes) : trimPlayerName (trimPlayerName raw) = trimPlayerName raw := by
  have last : (trimPlayerName raw).rdropWhile isPlayerNamePadding = trimPlayerName raw :=
    List.rdropWhile_idempotent _ _
  calc trimPlayerName (trimPlayerName raw)
      = ((trimPlayerName raw).dropWhile isPlayerNamePadding).rdropWhile isPlayerNamePadding := rfl
    _ = (trimPlayerName raw).rdropWhile isPlayerNamePadding := by rw [trimmedStart]
    _ = trimPlayerName raw := last

end SeedOrigin.Character
