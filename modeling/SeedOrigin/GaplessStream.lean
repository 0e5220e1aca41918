import SeedOrigin.FrameUpdates
import SeedOrigin.Runs

/-! The numbers of the published updates, over every order of frames and
snapshots. -/
namespace SeedOrigin.GaplessStream
open SeedOrigin.Octets SeedOrigin.Numbers SeedOrigin.Character SeedOrigin.ClientInput
open SeedOrigin.Inputs SeedOrigin.UpdateWire SeedOrigin.UpdateBuilder SeedOrigin.Applier
open SeedOrigin.Numbering SeedOrigin.FrameUpdates SeedOrigin.Runs

structure Stream (F : Type) where
  applier : WorldFrameApplier F := {}
  published : List WorldUpdate := []
  deriving DecidableEq

-- The field may be any at every call.
inductive Call (F : Type) where
  | frame (field : Field F) (frame : WorldFrameInputs F)
  | snapshot (field : Field F) (newAuthenticatedSessions : Nat) (worldTick : UInt64)

section
variable {F : Type} [FloatOps F]

def serve (s : Stream F) : Call F → Stream F
  | .frame field frame =>
    let done := apply s.applier field frame
    ⟨done.applier, s.published ++ done.updates⟩
  | .snapshot field newAuthenticatedSessions worldTick =>
    let done := capturePublicSnapshotIfNewSessions s.applier field newAuthenticatedSessions worldTick [] []
    ⟨done.applier, s.published ++ done.updates⟩

def Gapless (s : Stream F) : Prop :=
  s.published.map (fun update => update.sequence.toNat) = List.range' 1 s.published.length ∧
    s.applier.updateBuilder.updateSequence.toNat = s.published.length + 1

def Completes (s : Stream F) : Call F → Prop
  | .frame field frame =>
    Reaches field frame → (asked field frame).1 ≠ [] → Room s.applier.updateBuilder 1 →
      (asked field frame).2 = true ∧ Room s.applier.updateBuilder (asked field frame).1.length ∧
        ∀ p ∈ (asked field frame).1, Small p
  | .snapshot field newAuthenticatedSessions _ =>
    newAuthenticatedSessions ≠ 0 → s.applier.updateBuilder.updateSequence ≠ maxUint64 →
      ∀ payload, snapshotPayload field = .ok payload → Small payload

def Steady (s : Stream F) : Prop := Gapless s ∧ Positive s.applier.updateBuilder

structure Uses (before after : WorldFrameUpdateBuilder) (updates : List WorldUpdate) (used : Nat) :
    Prop where
  next : after.updateSequence.toNat = before.updateSequence.toNat + used
  positive : Positive after
  sequences : updates = [] ∨ updates.map (fun update => update.sequence.toNat) =
    List.range' before.updateSequence.toNat used

theorem usesNothing {builder : WorldFrameUpdateBuilder} (positive : Positive builder) :
    Uses builder builder [] 0 := ⟨rfl, positive, .inl rfl⟩

omit [FloatOps F] in
theorem gaplessAfter {s : Stream F} {after : WorldFrameApplier F} {updates : List WorldUpdate}
    {used : Nat} (gapless : Gapless s)
    (uses : Uses s.applier.updateBuilder after.updateBuilder updates used) :
    Gapless (⟨after, s.published ++ updates⟩ : Stream F) ↔ updates.length = used := by
  obtain ⟨numbers, next⟩ := gapless
  unfold Gapless
  dsimp only
  rw [uses.next, next, List.length_append]
  refine ⟨fun h => by omega, fun all => ⟨?_, by omega⟩⟩
  obtain none | sequences := uses.sequences
  · rw [none, List.append_nil, List.length_nil, Nat.add_zero]
    exact numbers
  · rw [List.map_append, numbers, sequences, next, all, Nat.add_comm s.published.length 1,
      List.range'_append_1]

theorem refusedFrame (applier : WorldFrameApplier F) {field : Field F} {frame : WorldFrameInputs F}
    (stops : ¬ Reaches field frame) :
    (apply applier field frame).applier.updateBuilder = applier.updateBuilder ∧
    (apply applier field frame).updates = [] := by
  unfold apply
  cases checked : checkInputs field frame.inputs with
  | error e => exact ⟨rfl, rfl⟩
  | ok done =>
    have long : frame.inputs.length > maxUpdatePayload := by
      by_contra short
      exact stops ⟨checked, by omega⟩
    unfold build
    rw [if_pos long]
    exact ⟨rfl, rfl⟩

theorem frameUses (applier : WorldFrameApplier F) (field : Field F) (frame : WorldFrameInputs F)
    (positive : Positive applier.updateBuilder) :
    ∃ used, Uses applier.updateBuilder (apply applier field frame).applier.updateBuilder
        (apply applier field frame).updates used ∧
      ((apply applier field frame).updates.length = used ↔
        (Reaches field frame → (asked field frame).1 ≠ [] → Room applier.updateBuilder 1 →
          (asked field frame).2 = true ∧ Room applier.updateBuilder (asked field frame).1.length ∧
            ∀ p ∈ (asked field frame).1, Small p)) := by
  by_cases reaches : Reaches field frame
  · have asks := applyAsks applier field frame reaches
    obtain ⟨⟨room, small⟩, done⟩ | ⟨bad, k, e, failed, room, some⟩ :=
      eventsCases frame.worldTick positive (asked field frame).1 []
    · rw [done] at asks
      refine ⟨(asked field frame).1.length, ⟨?_, ?_, ?_⟩, ?_⟩
      · rw [asks.builder, (advanceNat room).1]
      · rw [asks.builder]
        exact positiveAdvance positive room
      · by_cases success : (apply applier field frame).outcome = .ok ()
        · rw [asks.published success, List.nil_append, numberedSequences room]
          exact .inr rfl
        · exact .inl (asks.silent success)
      · by_cases success : (apply applier field frame).outcome = .ok ()
        · have complete := (asks.success.mp success).1
          have length := congrArg List.length (numberedPayloads frame.worldTick applier.updateBuilder
            (asked field frame).1)
          rw [List.length_map] at length
          rw [asks.published success, List.nil_append, length]
          exact ⟨fun _ _ _ _ => ⟨complete, room, small⟩, fun _ => rfl⟩
        · have incomplete : (asked field frame).2 ≠ true := by
            intro complete
            exact success (asks.success.mpr ⟨complete, rfl⟩)
          rw [asks.silent success, List.length_nil]
          refine ⟨fun empty _ some => absurd (List.length_eq_zero_iff.mp empty.symm) some, ?_⟩
          intro completes
          by_contra some
          have least : Room applier.updateBuilder 1 := roomLess room (by omega)
          refine incomplete (completes reaches ?_ least).1
          intro empty
          rw [empty] at some
          exact some rfl
    · rw [failed] at asks
      have failure : (apply applier field frame).outcome ≠ .ok () := by
        intro success
        have ok := (asks.success.mp success).2
        contradiction
      refine ⟨k, ⟨?_, ?_, .inl (asks.silent failure)⟩, ?_⟩
      · rw [asks.builder, (advanceNat room).1]
      · rw [asks.builder]
        exact positiveAdvance positive room
      · rw [asks.silent failure, List.length_nil]
        constructor
        · intro zero _ _ one
          have used := some one
          omega
        · intro completes
          by_contra used
          have one : Room applier.updateBuilder 1 := roomLess room (by omega)
          refine bad (completes reaches ?_ one).2
          intro empty
          rw [empty] at bad
          exact bad ⟨⟨applier.updateBuilder.updateSequence.toNat_lt,
            applier.updateBuilder.eventId.toNat_lt⟩, by simp⟩
  · obtain ⟨same, silent⟩ := refusedFrame applier reaches
    refine ⟨0, ?_, ?_⟩
    · rw [same, silent]
      exact usesNothing positive
    · rw [silent]
      exact ⟨fun _ reached => absurd reached reaches, fun _ => rfl⟩

theorem capturedBuilt (applier : WorldFrameApplier F) {field : Field F} {sessions : Nat}
    {payload : Bytes} (worldTick : UInt64) (some : sessions ≠ 0)
    (formatted : snapshotPayload field = .ok payload) :
    (capturePublicSnapshotIfNewSessions applier field sessions worldTick [] []).applier.updateBuilder =
      (appendSnapshot applier.updateBuilder worldTick payload []).1 ∧
    (capturePublicSnapshotIfNewSessions applier field sessions worldTick [] []).updates =
      (appendSnapshot applier.updateBuilder worldTick payload []).2.1 := by
  unfold capturePublicSnapshotIfNewSessions capturePublicSnapshot
  rw [if_neg some]
  simp only [formatted]
  obtain ⟨builder, updates, e | done⟩ := appendSnapshot applier.updateBuilder worldTick payload []
  · exact ⟨rfl, rfl⟩
  · exact ⟨rfl, rfl⟩

theorem snapshotUses (applier : WorldFrameApplier F) (field : Field F) (sessions : Nat)
    (worldTick : UInt64) (positive : Positive applier.updateBuilder) :
    ∃ used, Uses applier.updateBuilder
        (capturePublicSnapshotIfNewSessions applier field sessions worldTick [] []).applier.updateBuilder
        (capturePublicSnapshotIfNewSessions applier field sessions worldTick [] []).updates used ∧
      ((capturePublicSnapshotIfNewSessions applier field sessions worldTick [] []).updates.length = used ↔
        (sessions ≠ 0 → applier.updateBuilder.updateSequence ≠ maxUint64 →
          ∀ payload, snapshotPayload field = .ok payload → Small payload)) := by
  by_cases none : sessions = 0
  · unfold capturePublicSnapshotIfNewSessions
    rw [if_pos none]
    exact ⟨0, usesNothing positive, fun _ some => absurd none some, fun _ => rfl⟩
  cases formatted : snapshotPayload field with
  | error e =>
    unfold capturePublicSnapshotIfNewSessions capturePublicSnapshot
    rw [if_neg none]
    simp only [formatted]
    exact ⟨0, usesNothing positive, fun _ _ _ => nofun, fun _ => rfl⟩
  | ok payload =>
    obtain ⟨next, published⟩ := capturedBuilt applier worldTick none formatted
    have only : (sessions ≠ 0 → applier.updateBuilder.updateSequence ≠ maxUint64 →
        ∀ other, (.ok payload : Except String Bytes) = .ok other → Small other) ↔
          (applier.updateBuilder.updateSequence ≠ maxUint64 → Small payload) := by
      refine ⟨fun all left => all none left payload rfl, fun one _ left other same => ?_⟩
      obtain rfl := Except.ok.inj same
      exact one left
    rw [next, published, only]
    obtain ⟨full, e, made⟩ | ⟨left, large, e, made⟩ | ⟨left, small, update, number, made⟩ :=
      snapshotCases positive worldTick payload []
    · rw [made]
      exact ⟨0, usesNothing positive, fun _ left => absurd full left, fun _ => rfl⟩
    · rw [made]
      have after := snapshotNext left
      refine ⟨1, ⟨after, ⟨by dsimp only; omega, positive.2⟩, .inl rfl⟩, nofun, ?_⟩
      exact fun fits => absurd (fits left) large
    · rw [made]
      have after := snapshotNext left
      refine ⟨1, ⟨after, ⟨by dsimp only; omega, positive.2⟩, .inr ?_⟩, fun _ _ => small, fun _ => rfl⟩
      rw [← number]
      rfl

theorem serveUses (s : Stream F) (call : Call F) (steady : Steady s) :
    Positive (serve s call).applier.updateBuilder ∧ (Gapless (serve s call) ↔ Completes s call) := by
  obtain ⟨gapless, positive⟩ := steady
  cases call with
  | frame field frame =>
    obtain ⟨used, uses, completes⟩ := frameUses s.applier field frame positive
    exact ⟨uses.positive, (gaplessAfter gapless uses).trans completes⟩
  | snapshot field sessions worldTick =>
    obtain ⟨used, uses, completes⟩ := snapshotUses s.applier field sessions worldTick positive
    exact ⟨uses.positive, (gaplessAfter gapless uses).trans completes⟩

theorem gaplessExact (calls : List (Call F)) :
    Always serve Gapless ({} : Stream F) calls ↔ Along serve Completes ({} : Stream F) calls := by
  refine alwaysExact (I := Steady) (fun s steady => steady.1) ?_ ?_ ?_
  · intro s call steady completes
    obtain ⟨positive, exact'⟩ := serveUses s call steady
    exact ⟨exact'.mpr completes, positive⟩
  · intro s call steady stops gapless
    exact stops ((serveUses s call steady).2.mp gapless)
  · exact ⟨⟨rfl, rfl⟩, Nat.one_pos, Nat.one_pos⟩

end

-- A character attacks a target that nobody has between two chat messages.
def crowd : Field ℚ :=
  { (Field.initial : Field ℚ) with
    playerList := (∅ : IntMap (Player ℚ)).insert 1
      { id := 1, status := ⟨10, 10⟩, position := ⟨1, 0, 0, 0⟩ } }

def chatFrame (tick : UInt64) : WorldFrameInputs ℚ :=
  ⟨tick, [⟨tick, .chat ⟨1, ascii "all", ascii "hi"⟩⟩]⟩

def strayAttack : WorldFrameInputs ℚ := ⟨2, [⟨2, .combat ⟨1, 99, 5, []⟩⟩]⟩

def strayRun : List (Call ℚ) :=
  [.frame crowd (chatFrame 1), .frame crowd strayAttack, .frame crowd (chatFrame 3)]

theorem failedFrameGap :
    (run serve ({} : Stream ℚ) strayRun).published.map (fun update => update.sequence.toNat) = [1, 3] ∧
    ¬ Always serve Gapless ({} : Stream ℚ) strayRun := by
  have numbers : (run serve ({} : Stream ℚ) strayRun).published.map
      (fun update => update.sequence.toNat) = [1, 3] := by decide +kernel
  refine ⟨numbers, ?_⟩
  intro always
  have last := (always strayRun [] (List.append_nil _).symm).1
  have two := congrArg List.length numbers
  rw [List.length_map] at two
  rw [numbers, two] at last
  exact absurd last (by decide)

end SeedOrigin.GaplessStream
