import SeedOrigin.FieldEffects
import SeedOrigin.GaplessStream

/-! A frame is taken whole or not at all: what each session's inputs come to, and
what is left when the inputs of one session spoil the frame. -/
namespace SeedOrigin.FrameIsolation
open SeedOrigin.Octets SeedOrigin.Numbers SeedOrigin.Character SeedOrigin.ClientInput
open SeedOrigin.Ether SeedOrigin.Inputs SeedOrigin.UpdateWire SeedOrigin.UpdateBuilder
open SeedOrigin.Applier SeedOrigin.Numbering SeedOrigin.FrameUpdates SeedOrigin.GaplessStream
open SeedOrigin.FieldEffects SeedOrigin.Runs

section
variable {F : Type} [FloatOps F]

def owns (sessionId : Int) : WorldInputBody F → Bool
  | .movement movement => movement.sessionId = sessionId
  | .chat chat => chat.senderId = sessionId
  | _ => false

def Isolated (applier : WorldFrameApplier F) (field : Field F) (frame : WorldFrameInputs F)
    (sessionId : Int) : Prop :=
  let own := frame.inputs.filter (fun input => owns sessionId input.body)
  let alone := apply applier field ⟨frame.worldTick, own⟩
  let together := apply applier field frame
  alone.outcome = .ok () →
    positions together.field (field.resolvePlayerId sessionId) =
      positions alone.field (field.resolvePlayerId sessionId) ∧
    ∀ input ∈ own, inputPayload input ∈ together.updates.map WorldUpdate.payload

structure Taken (before : WorldFrameUpdateBuilder) (field : Field F) (frame : WorldFrameInputs F)
    (result : Applied F) : Prop where
  -- Every movement is made once, in order, by the character it resolves to.
  moves : ∀ g pos, positions field g = some pos →
    ∃ final, walk field g pos frame.inputs = some final ∧ positions result.field g = some final
  -- Every input is published once, in order, and then what the frame brought about.
  publishes : ∃ resolutions : List (CombatResolution F),
    resolutions.map CombatResolution.inputSequence =
      (frame.inputs.filter (fun input => Fights input.body)).map WorldInput.sequence ∧
    result.updates = numbered frame.worldTick before (frame.inputs.map inputPayload ++
      (resolutions.map resolutionPayload ++ (hazardAsked result.field).1))

structure Dropped (before : WorldFrameUpdateBuilder) (field : Field F) (frame : WorldFrameInputs F)
    (result : Applied F) : Prop where
  silent : result.updates = []
  -- Unless the field took the frame and numbering its effects failed, nothing in
  -- the field changes but its own status.
  unchanged : ¬ (Reaches field frame ∧ InputsFit before frame.inputs ∧
      (field.processInputs frame.inputs frame.worldTick).2.isSome = true) →
    result.field = { field with fieldStatus := result.field.fieldStatus }

theorem runPositive (calls : List (Call F)) :
    Positive (run serve ({} : Stream F) calls).applier.updateBuilder := by
  have steps (s : Stream F) (positive : Positive s.applier.updateBuilder) :
      Positive (run serve s calls).applier.updateBuilder := by
    induction calls generalizing s with
    | nil => exact positive
    | cons call calls ih =>
      refine ih (serve s call) ?_
      cases call with
      | frame field frame =>
        obtain ⟨used, uses, -⟩ := frameUses s.applier field frame positive
        exact uses.positive
      | snapshot field sessions worldTick =>
        obtain ⟨used, uses, -⟩ := snapshotUses s.applier field sessions worldTick positive
        exact uses.positive
  exact steps {} ⟨Nat.one_pos, Nat.one_pos⟩

theorem builtExactly (builder : WorldFrameUpdateBuilder) {field : Field F} {frame : WorldFrameInputs F}
    (checked : checkInputs field frame.inputs = .ok ()) : (build builder frame).2.2 = .ok () ↔
      Reaches field frame ∧ InputsFit builder frame.inputs := by
  by_cases short : frame.inputs.length ≤ maxUpdatePayload
  · rw [buildFits builder short]
    exact ⟨fun fits => ⟨⟨checked, short⟩, fits⟩, fun fits => fits.2⟩
  · unfold build
    rw [if_pos (by omega)]
    exact ⟨nofun, fun fits => absurd fits.1.2 short⟩

theorem refusedField (applier : WorldFrameApplier F) {field : Field F} {frame : WorldFrameInputs F}
    (stops : ¬ (Reaches field frame ∧ InputsFit applier.updateBuilder frame.inputs)) :
    (apply applier field frame).field = field ∧ (apply applier field frame).outcome ≠ .ok () := by
  unfold apply
  cases checked : checkInputs field frame.inputs with
  | error e => exact ⟨rfl, nofun⟩
  | ok done =>
    rw [← builtExactly _ checked] at stops
    cases built : build applier.updateBuilder frame with
    | mk builder rest =>
    obtain ⟨updates, e | done⟩ := rest
    · exact ⟨rfl, nofun⟩
    · rw [built] at stops
      exact absurd rfl stops

theorem appliedField (applier : WorldFrameApplier F) (field : Field F) (frame : WorldFrameInputs F) :
    (apply applier field frame).field = (field.processInputs frame.inputs frame.worldTick).1 ∨
    (apply applier field frame).outcome ≠ .ok () ∧ (apply applier field frame).field = field := by
  unfold apply
  split
  · exact .inr ⟨nofun, rfl⟩
  · split
    · exact .inr ⟨nofun, rfl⟩
    · split
      · rename_i made
        rw [made]
        exact .inl rfl
      · rename_i made
        rw [made]
        dsimp only
        split <;> exact .inl rfl

theorem succeedsExactly (applier : WorldFrameApplier F) (field : Field F) (frame : WorldFrameInputs F)
    (positive : Positive applier.updateBuilder) :
    (apply applier field frame).outcome = .ok () ↔
      Reaches field frame ∧ (asked field frame).2 = true ∧
        Room applier.updateBuilder (asked field frame).1.length ∧ ∀ p ∈ (asked field frame).1, Small p := by
  by_cases reaches : Reaches field frame
  · rw [(applyAsks applier field frame reaches).success]
    obtain ⟨fits, done⟩ | ⟨bad, k, e, failed, -⟩ :=
      eventsCases frame.worldTick positive (asked field frame).1 []
    · rw [done]
      exact ⟨fun h => ⟨reaches, h.1, fits⟩, fun h => ⟨h.2.1, rfl⟩⟩
    · rw [failed]
      exact ⟨fun h => absurd h.2 nofun, fun h => absurd h.2.2 bad⟩
  · exact ⟨fun success => absurd success (refusedField applier fun built => reaches built.1).2,
      fun h => absurd h.1 reaches⟩

theorem acceptedFrame (applier : WorldFrameApplier F) {field : Field F} {frame : WorldFrameInputs F}
    (positive : Positive applier.updateBuilder)
    (success : (apply applier field frame).outcome = .ok ()) :
    (∃ resolutions, field.processInputs frame.inputs frame.worldTick =
      ((apply applier field frame).field, some resolutions)) ∧
    (apply applier field frame).updates =
      numbered frame.worldTick applier.updateBuilder (asked field frame).1 := by
  obtain ⟨reaches, complete, fits⟩ := (succeedsExactly applier field frame positive).mp success
  have published := (applyAsks applier field frame reaches).published success
  refine ⟨?_, ?_⟩
  · obtain same | ⟨failed, -⟩ := appliedField applier field frame
    · rw [same]
      cases processed : field.processInputs frame.inputs frame.worldTick with
      | mk after result =>
      unfold asked at complete
      rw [processed] at complete
      cases result with
      | none => contradiction
      | some resolutions => exact ⟨resolutions, rfl⟩
    · exact absurd success failed
  · obtain ⟨-, done⟩ | ⟨bad, -⟩ := eventsCases frame.worldTick positive (asked field frame).1 []
    · rw [published, done]
      rfl
    · exact absurd fits bad

theorem takenFrame (applier : WorldFrameApplier F) {field : Field F} {frame : WorldFrameInputs F}
    (positive : Positive applier.updateBuilder)
    (success : (apply applier field frame).outcome = .ok ()) :
    Taken applier.updateBuilder field frame (apply applier field frame) := by
  obtain ⟨⟨resolutions, processed⟩, published⟩ := acceptedFrame applier positive success
  obtain ⟨⟨applied, made, places, -⟩, -⟩ := acceptedField processed
  refine ⟨fun g pos stands => ?_, resolutions, inputsAnswer made, ?_⟩
  · obtain ⟨final, walked, there⟩ := inputsWalk made stands
    exact ⟨final, walked, by rw [places, there]⟩
  · rw [published]
    unfold asked
    rw [processed]

theorem droppedFrame (applier : WorldFrameApplier F) {field : Field F} {frame : WorldFrameInputs F}
    (failure : (apply applier field frame).outcome ≠ .ok ()) :
    Dropped applier.updateBuilder field frame (apply applier field frame) := by
  constructor
  · by_cases reaches : Reaches field frame
    · exact (applyAsks applier field frame reaches).silent failure
    · exact (refusedFrame applier reaches).2
  · intro early
    by_cases built : Reaches field frame ∧ InputsFit applier.updateBuilder frame.inputs
    · obtain same | ⟨-, same⟩ := appliedField applier field frame
      · cases processed : field.processInputs frame.inputs frame.worldTick with
        | mk after result =>
        rw [processed] at early same
        cases result with
        | none =>
          rw [same]
          exact refusedUnchanged processed
        | some resolutions => exact absurd ⟨built.1, built.2, rfl⟩ early
      · rw [same]
    · rw [(refusedField applier built).1]

theorem frameWhole (calls : List (Call F)) (field : Field F) (frame : WorldFrameInputs F) :
    let applier := (run serve ({} : Stream F) calls).applier
    ((apply applier field frame).outcome = .ok () ↔
      Reaches field frame ∧ (asked field frame).2 = true ∧
        Room applier.updateBuilder (asked field frame).1.length ∧ ∀ p ∈ (asked field frame).1, Small p) ∧
    (((apply applier field frame).outcome = .ok () ∧
      Taken applier.updateBuilder field frame (apply applier field frame)) ∨
    ((apply applier field frame).outcome ≠ .ok () ∧
      Dropped applier.updateBuilder field frame (apply applier field frame))) := by
  have positive := runPositive calls
  intro applier
  refine ⟨succeedsExactly applier field frame positive, ?_⟩
  by_cases success : (apply applier field frame).outcome = .ok ()
  · exact .inl ⟨success, takenFrame applier positive success⟩
  · exact .inr ⟨success, droppedFrame applier success⟩

end

-- Session 1 attacks somebody who is not there while session 2 walks and talks.
def pair : Field ℚ :=
  { crowd with
    playerList := crowd.playerList.insert 2
      { id := 2, status := ⟨10, 10⟩, position := ⟨2, 0, 0, 0⟩ } }

def strayQueue : Option (WorldInputQueue ℚ) := do
  let queue ← ({} : WorldInputQueue ℚ).enqueueCombat 1 99 5 []
  let queue := (queue.enqueueSequencedMovement 2 1 0 0 0).1
  queue.enqueueChat 2 (ascii "all") (ascii "hi")

def strayInputs : List (WorldInput ℚ) := (strayQueue.getD {}).takeFrame.2

theorem strayAttackDropsOthers : ¬ Isolated {} pair ⟨1, strayInputs⟩ 2 := by
  have alone : (apply {} pair ⟨1, strayInputs.filter (fun input => owns 2 input.body)⟩).outcome =
      .ok () := by decide +kernel
  have silent : (apply {} pair ⟨1, strayInputs⟩).updates = [] := by decide +kernel
  have chat : ∃ input ∈ strayInputs, owns 2 input.body = true := by decide +kernel
  intro isolated
  obtain ⟨input, there, own⟩ := chat
  have published := (isolated alone).2 input (List.mem_filter.mpr ⟨there, own⟩)
  rw [silent] at published
  contradiction

end SeedOrigin.FrameIsolation
