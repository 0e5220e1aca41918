import SeedOrigin.Numbering

/-! The updates a frame asks for, seen at once: applying a frame numbers them in
order and publishes them all or none. -/
namespace SeedOrigin.FrameUpdates
open SeedOrigin.Octets SeedOrigin.Numbers SeedOrigin.Ether SeedOrigin.Inputs SeedOrigin.UpdateWire
open SeedOrigin.UpdateBuilder SeedOrigin.Applier SeedOrigin.Numbering
open FloatOps (lit le isFinite)

section
variable {F : Type} [FloatOps F]

def hazardInvalid (severity instability : F) : Bool :=
  isFinite severity = false ∨ isFinite instability = false ∨ le severity (lit 0) ∨
    le instability (lit 1)

def hazardAsked (field : Field F) : List Bytes × Bool :=
  if hasAdverseEffect field.fieldEther = false then ([], true)
  else if hazardInvalid field.lastEtherHazard (instability field.fieldEther) then ([], false)
  else ([hazardPayload field.lastEtherHazard (instability field.fieldEther)], true)

def asked (field : Field F) (frame : WorldFrameInputs F) : List Bytes × Bool :=
  let inputs := frame.inputs.map inputPayload
  match field.processInputs frame.inputs frame.worldTick with
  | (_, none) => (inputs, false)
  | (after, some resolutions) =>
    (inputs ++ (resolutions.map resolutionPayload ++ (hazardAsked after).1), (hazardAsked after).2)

def Reaches (field : Field F) (frame : WorldFrameInputs F) : Prop :=
  checkInputs field frame.inputs = .ok () ∧ frame.inputs.length ≤ maxUpdatePayload

structure Follows (real ideal : Built) (complete : Bool) : Prop where
  builder : real.1 = ideal.1
  same : complete = true → real = ideal
  fails : complete = false → real.2.2 ≠ .ok ()

structure Asks (result : Applied F) (complete : Bool) (ideal : Built) : Prop where
  builder : result.applier.updateBuilder = ideal.1
  success : result.outcome = .ok () ↔ complete = true ∧ ideal.2.2 = .ok ()
  published : result.outcome = .ok () → result.updates = ideal.2.1
  silent : result.outcome ≠ .ok () → result.updates = []

theorem eventFails {worldTick : UInt64} {builder after : WorldFrameUpdateBuilder} {payload : Bytes}
    {updates out : List WorldUpdate} {e : String}
    (h : appendEvent builder worldTick payload updates = (after, out, .error e)) : out = [] := by
  unfold appendEvent at h
  split at h
  · exact (congrArg (fun built => built.2.1) h).symm
  · dsimp only at h
    split at h
    · exact (congrArg (fun built => built.2.1) h).symm
    · cases congrArg (fun built => built.2.2) h

theorem eventsFail {worldTick : UInt64} {builder after : WorldFrameUpdateBuilder} {payloads : List Bytes}
    {updates out : List WorldUpdate} {e : String}
    (h : appendEvents worldTick builder payloads updates = (after, out, .error e)) : out = [] := by
  induction payloads generalizing builder updates with
  | nil => cases congrArg (fun built => built.2.2) h
  | cons payload payloads ih =>
    unfold appendEvents appendAll andThen at h
    split at h
    · rename_i failed
      cases h
      exact eventFails failed
    · exact ih h

theorem buildEvents {builder : WorldFrameUpdateBuilder} {frame : WorldFrameInputs F}
    (short : frame.inputs.length ≤ maxUpdatePayload) :
    build builder frame =
      appendEvents frame.worldTick builder (frame.inputs.map inputPayload) [] := by
  unfold build
  rw [if_neg (by omega), appendMap]

def InputsFit (builder : WorldFrameUpdateBuilder) (inputs : List (WorldInput F)) : Prop :=
  inputs = [] ∨ Positive builder ∧ Room builder inputs.length ∧ ∀ input ∈ inputs, Small (inputPayload input)

theorem buildFits (builder : WorldFrameUpdateBuilder) {frame : WorldFrameInputs F}
    (short : frame.inputs.length ≤ maxUpdatePayload) :
    (build builder frame).2.2 = .ok () ↔ InputsFit builder frame.inputs := by
  rw [buildEvents short, eventsExact, List.map_eq_nil_iff, List.length_map, List.forall_mem_map, InputsFit]

theorem resolutionEvents (worldTick : UInt64) (builder : WorldFrameUpdateBuilder)
    (resolutions : List (CombatResolution F)) (updates : List WorldUpdate) :
    appendResolutions worldTick builder resolutions updates =
      appendEvents worldTick builder (resolutions.map resolutionPayload) updates :=
  appendMap resolutionPayload worldTick builder resolutions updates

theorem followsAfter (built : Built) {real ideal : WorldFrameUpdateBuilder → List WorldUpdate → Built}
    {complete : Bool} (follows : ∀ builder updates,
      Follows (real builder updates) (ideal builder updates) complete) :
    Follows (andThen built real) (andThen built ideal) complete := by
  obtain ⟨builder, updates, e | done⟩ := built
  · exact ⟨rfl, fun _ => rfl, fun _ => nofun⟩
  · exact follows builder updates

theorem hazardFollows (worldTick : UInt64) (builder : WorldFrameUpdateBuilder) (field : Field F)
    (updates : List WorldUpdate) :
    Follows (appendFrameHazard worldTick builder field updates)
      (appendEvents worldTick builder (hazardAsked field).1 updates) (hazardAsked field).2 := by
  unfold appendFrameHazard hazardAsked
  cases adverse : hasAdverseEffect field.fieldEther with
  | false =>
    rw [if_neg (by simp), if_pos rfl]
    exact ⟨rfl, fun _ => rfl, by rintro ⟨⟩⟩
  | true =>
    rw [if_pos rfl, if_neg (by simp)]
    unfold appendHazard
    cases invalid : hazardInvalid field.lastEtherHazard (instability field.fieldEther) with
    | true =>
      rw [if_pos rfl, if_pos (of_decide_eq_true invalid)]
      exact ⟨rfl, by rintro ⟨⟩, fun _ => by rintro ⟨⟩⟩
    | false =>
      rw [if_neg (of_decide_eq_false invalid), if_neg Bool.false_ne_true]
      have single : appendEvents worldTick builder [hazardPayload field.lastEtherHazard
          (instability field.fieldEther)] updates = appendEvent builder worldTick
            (hazardPayload field.lastEtherHazard (instability field.fieldEther)) updates := by
        unfold appendEvents appendAll appendAll andThen
        split <;> rename_i made <;> rw [made]
      dsimp only
      rw [single]
      exact ⟨rfl, fun _ => rfl, by rintro ⟨⟩⟩

theorem effectsFollow (worldTick : UInt64) (builder : WorldFrameUpdateBuilder) (field : Field F)
    (resolutions : List (CombatResolution F)) (updates : List WorldUpdate) :
    Follows (appendEffects worldTick builder field resolutions updates)
      (appendEvents worldTick builder (resolutions.map resolutionPayload ++ (hazardAsked field).1)
        updates) (hazardAsked field).2 := by
  unfold appendEffects
  rw [resolutionEvents, appendAppend]
  exact followsAfter _ (fun builder updates => hazardFollows worldTick builder field updates)

theorem applyAsks (applier : WorldFrameApplier F) (field : Field F) (frame : WorldFrameInputs F)
    (reaches : Reaches field frame) :
    Asks (apply applier field frame) (asked field frame).2
      (appendEvents frame.worldTick applier.updateBuilder (asked field frame).1 []) := by
  obtain ⟨checked, short⟩ := reaches
  unfold apply asked
  simp only [checked, buildEvents short]
  cases first : appendEvents frame.worldTick applier.updateBuilder (frame.inputs.map inputPayload) [] with
  | mk builder rest =>
  obtain ⟨updates, e | done⟩ := rest
  · -- The frame stops at one of its inputs.
    have all (more : List Bytes) : appendEvents frame.worldTick applier.updateBuilder
        (frame.inputs.map inputPayload ++ more) [] = (builder, updates, .error e) := by
      rw [appendAppend, first]
      rfl
    have silent := eventsFail first
    obtain ⟨after, none | resolutions⟩ := field.processInputs frame.inputs frame.worldTick
    · dsimp only
      rw [first]
      exact ⟨rfl, by simp, by rintro ⟨⟩, fun _ => silent⟩
    · dsimp only
      rw [all]
      exact ⟨rfl, by simp, by rintro ⟨⟩, fun _ => silent⟩
  · obtain ⟨after, none | resolutions⟩ := field.processInputs frame.inputs frame.worldTick
    · dsimp only
      rw [first]
      exact ⟨rfl, by simp, by rintro ⟨⟩, fun _ => rfl⟩
    · dsimp only
      rw [appendAppend, first]
      have follows := effectsFollow frame.worldTick builder after resolutions updates
      unfold andThen
      dsimp only
      cases made : appendEffects frame.worldTick builder after resolutions updates with
      | mk last rest =>
      rw [made] at follows
      obtain ⟨final, e | done⟩ := rest
      · refine ⟨follows.builder, ⟨by rintro ⟨⟩, ?_⟩, by rintro ⟨⟩, fun _ => rfl⟩
        rintro ⟨complete, done⟩
        rw [← follows.same complete] at done
        exact done
      · have complete : (hazardAsked after).2 = true := by
          by_contra incomplete
          exact follows.fails (by simpa using incomplete) rfl
        have same := follows.same complete
        rw [← same]
        exact ⟨rfl, by simp [complete], fun _ => rfl, fun failed => absurd rfl failed⟩

end

end SeedOrigin.FrameUpdates
