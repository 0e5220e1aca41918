import SeedOrigin.FieldEffects
import SeedOrigin.WorldBounds

/-! Where the older frame path leaves the players: of the positions queued under
an id only the last one counts. -/
namespace SeedOrigin.FramePositions
open SeedOrigin.Octets SeedOrigin.Numbers SeedOrigin.Character SeedOrigin.Inputs
open SeedOrigin.UpdateBuilder SeedOrigin.Maps SeedOrigin.FieldState SeedOrigin.Presence
open SeedOrigin.FieldCalls SeedOrigin.FieldEffects SeedOrigin.Runs

section
variable {F : Type}

def settle (pos : Position F) : Option (Position F) → Position F
  | none => pos
  | some next => pos.moveTo next.x next.y next.z

theorem foldSame {A V : Type} {f : Field F → V} {step : Field F → A → Field F}
    (same : ∀ field a, f (step field a) = f field) (items : List A) (field : Field F) :
    f (items.foldl step field) = f field := by
  induction items generalizing field with
  | nil => rfl
  | cons a items ih => exact (ih (step field a)).trans (same field a)

def Owned (field : Field F) : Prop := ∀ g pos, positions field g = some pos → 0 < g ∧ pos.playerId = g

variable [FloatOps F]

end

end SeedOrigin.FramePositions
