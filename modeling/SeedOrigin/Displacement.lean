import SeedOrigin.FieldEffects

/-! How far a character goes in one frame. The limit of a movement is checked for
each input by itself. -/
namespace SeedOrigin.Displacement
open SeedOrigin.Octets SeedOrigin.Numbers SeedOrigin.Character SeedOrigin.ClientInput
open SeedOrigin.Inputs SeedOrigin.UpdateBuilder SeedOrigin.Maps SeedOrigin.FieldEffects
open FloatOps (add sub)

section
variable {F : Type}

def deltaOf (field : Field F) (g : Int) : WorldInputBody F → Option (F × F × F)
  | .movement movement =>
    if field.resolvePlayerId movement.sessionId = g then some (movement.dx, movement.dy, movement.dz)
    else none
  | _ => none

def deltasOf (field : Field F) (g : Int) (inputs : List (WorldInput F)) : List (F × F × F) :=
  inputs.filterMap (fun input => deltaOf field g input.body)

variable [FloatOps F]

def WithinLimit (start final : Position F) : Prop :=
  isValidMovementDelta (sub final.x start.x) (sub final.y start.y) (sub final.z start.z) = true

def sum (start : F) (deltas : List F) : F := sub (deltas.foldl add start) start

def TogetherValid (start : Position F) (deltas : List (F × F × F)) : Prop :=
  isValidMovementDelta (sum start.x (deltas.map (fun delta => delta.1)))
    (sum start.y (deltas.map (fun delta => delta.2.1)))
    (sum start.z (deltas.map (fun delta => delta.2.2))) = true

theorem moveAdds {field : Field F} {g : Int} {pos next : Position F} {body : WorldInputBody F}
    (moved : moveOf field g pos body = some next) :
    next = match deltaOf field g body with
      | none => pos
      | some (dx, dy, dz) => pos.moveTo (add pos.x dx) (add pos.y dy) (add pos.z dz) := by
  cases body with
  | movement movement =>
    unfold moveOf at moved
    unfold deltaOf
    dsimp only at moved ⊢
    split at moved
    · rename_i here
      rw [if_pos here]
      unfold integrateMovement at moved
      split at moved <;> try contradiction
      dsimp only at moved
      split at moved <;> try contradiction
      exact (Option.some.inj moved).symm
    · rename_i elsewhere
      rw [if_neg elsewhere]
      exact (Option.some.inj moved).symm
  | action action => exact (Option.some.inj moved).symm
  | combat combat => exact (Option.some.inj moved).symm
  | spell spell => exact (Option.some.inj moved).symm
  | chat chat => exact (Option.some.inj moved).symm

theorem walkAdds {field : Field F} {g : Int} {pos final : Position F} {inputs : List (WorldInput F)}
    (walked : walk field g pos inputs = some final) :
    final.x = ((deltasOf field g inputs).map (fun delta => delta.1)).foldl add pos.x ∧
    final.y = ((deltasOf field g inputs).map (fun delta => delta.2.1)).foldl add pos.y ∧
    final.z = ((deltasOf field g inputs).map (fun delta => delta.2.2)).foldl add pos.z := by
  induction inputs generalizing pos with
  | nil =>
    obtain rfl := Option.some.inj walked
    exact ⟨rfl, rfl, rfl⟩
  | cons input inputs ih =>
    unfold walk at walked
    rw [List.foldlM_cons] at walked
    obtain ⟨next, moved, rest⟩ := Option.bind_eq_some_iff.mp walked
    have here := moveAdds moved
    have later := ih rest
    unfold deltasOf at later ⊢
    rw [List.filterMap_cons]
    cases named : deltaOf field g input.body with
    | none =>
      rw [named] at here
      rw [here] at later
      exact later
    | some delta =>
      obtain ⟨dx, dy, dz⟩ := delta
      rw [named] at here
      rw [here] at later
      exact later

theorem displacementExact {field after : Field F} {frame : WorldFrameInputs F}
    {resolutions : List (CombatResolution F)}
    (h : field.processInputs frame.inputs frame.worldTick = (after, some resolutions)) :
    (∀ g before final, lookup field.playerList g = some before →
      lookup after.playerList g = some final → WithinLimit before.position final.position) ↔
    ∀ g before, lookup field.playerList g = some before →
      TogetherValid before.position (deltasOf field g frame.inputs) := by
  obtain ⟨⟨applied, made, places, -⟩, -⟩ := acceptedField h
  have ends (g : Int) (before : Player F) (there : lookup field.playerList g = some before) :
      ∃ final, lookup after.playerList g = some final ∧
        (WithinLimit before.position final.position ↔
          TogetherValid before.position (deltasOf field g frame.inputs)) := by
    have stands : positions field g = some before.position := by
      unfold positions
      rw [there]
      rfl
    obtain ⟨last, walked, arrived⟩ := inputsWalk made stands
    rw [← places] at arrived
    obtain ⟨final, found, rfl⟩ := Option.map_eq_some_iff.mp arrived
    obtain ⟨x, y, z⟩ := walkAdds walked
    refine ⟨final, found, ?_⟩
    unfold WithinLimit TogetherValid sum
    rw [x, y, z]
  constructor
  · intro limited g before there
    obtain ⟨final, found, same⟩ := ends g before there
    exact same.mp (limited g before final there found)
  · intro together g before final there found
    obtain ⟨other, found', same⟩ := ends g before there
    cases found.symm.trans found'
    exact same.mpr (together g before there)

end

-- Without rounding the deltas are just added up.
theorem sumExact (start : ℚ) (deltas : List ℚ) : sum start deltas = deltas.sum := by
  have adds : deltas.foldl add start = start + deltas.sum := by
    induction deltas generalizing start with
    | nil => simp
    | cons delta deltas ih =>
      rw [List.foldl_cons, ih, List.sum_cons]
      exact add_assoc start delta deltas.sum
  calc sum start deltas = start + deltas.sum - start := by
        unfold sum
        rw [adds]
        rfl
    _ = deltas.sum := by ring

def walker : Field ℚ :=
  ((Field.initial : Field ℚ).putPlayer { id := 1, status := ⟨10, 10⟩, position := ⟨1, 0, 0, 0⟩ }).getD
    Field.initial

def stepsQueue : Nat → WorldInputQueue ℚ
  | 0 => {}
  | count + 1 => ((stepsQueue count).enqueueSequencedMovement 1 100 0 0 (UInt64.ofNat (count + 1))).1

def steps (count : Nat) : WorldFrameInputs ℚ := ⟨1, (stepsQueue count).takeFrame.2⟩

def windingQueue : WorldInputQueue ℚ :=
  ([(90, 0), (-60, 30), (40, -10)] : List (ℚ × ℚ)).zipIdx.foldl
    (fun queue delta => (queue.enqueueSequencedMovement 1 delta.1.1 delta.1.2 0
      (UInt64.ofNat (delta.2 + 1))).1) {}

def winding : WorldFrameInputs ℚ := ⟨1, windingQueue.takeFrame.2⟩

theorem windingWithin :
    winding.inputs.length = 3 ∧ (walker.processInputs winding.inputs 1).2 = some [] ∧
    ∀ g before final, lookup walker.playerList g = some before →
      lookup (walker.processInputs winding.inputs 1).1.playerList g = some final →
        WithinLimit before.position final.position := by
  have success : (walker.processInputs winding.inputs 1).2 = some [] := by decide +kernel
  have applied : walker.processInputs winding.inputs winding.worldTick =
      ((walker.processInputs winding.inputs 1).1, some []) := Prod.ext rfl success
  refine ⟨by decide +kernel, success, (displacementExact applied).mpr fun g before there => ?_⟩
  have all : ∀ entry ∈ walker.playerList.toList, TogetherValid entry.2.position
      (deltasOf walker entry.1 winding.inputs) := by
    unfold TogetherValid
    decide +kernel
  exact all (g, before) (Std.ExtTreeMap.mem_toList_iff_getElem?_eq_some.mpr there)

theorem twoStepsTooFar :
    (steps 2).inputs.length = 2 ∧ (walker.processInputs (steps 2).inputs 1).2 = some [] ∧
    ¬ ∀ g before final, lookup walker.playerList g = some before →
      lookup (walker.processInputs (steps 2).inputs 1).1.playerList g = some final →
        WithinLimit before.position final.position := by
  refine ⟨by decide +kernel, by decide +kernel, fun limited => ?_⟩
  have there : lookup walker.playerList 1 =
      some { id := 1, status := ⟨10, 10⟩, position := ⟨1, 0, 0, 0⟩ } := by decide +kernel
  have found : lookup (walker.processInputs (steps 2).inputs 1).1.playerList 1 =
      some { id := 1, status := ⟨10, 10⟩, position := ⟨1, 200, 0, 0⟩ } := by decide +kernel
  have short := limited 1 _ _ there found
  exact absurd short (by unfold WithinLimit; decide +kernel)

end SeedOrigin.Displacement
