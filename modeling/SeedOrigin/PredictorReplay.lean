import SeedOrigin.Prediction
import SeedOrigin.Runs

/-! The predicted pose against the moves that wait, made again on the last
authoritative pose. A replay that ends early keeps the moves it leaves out, and the
buffer compares a number with its own last one only. -/
namespace SeedOrigin.PredictorReplay
open SeedOrigin.Numbers SeedOrigin.Character SeedOrigin.Prediction SeedOrigin.Runs

structure Followed (F : Type) where
  predictor : LocalMovementPredictor F
  authoritative : PredictedPose F

inductive PredictorCall (F : Type) where
  | predict (clientInputSequence : UInt64) (dx dy dz : F)
  | reconcile (x y z : F) (tick lastProcessedInputSequence : UInt64)
  | applySnapshotBaseline (x y z : F) (tick lastProcessedInputSequence : UInt64)

section
variable {F : Type} [PredictionOps F]

def callPredictor (s : Followed F) : PredictorCall F → Followed F
  | .predict clientInputSequence dx dy dz =>
    { s with predictor := (s.predictor.predict clientInputSequence dx dy dz).1 }
  | .reconcile x y z tick lastProcessedInputSequence =>
    ⟨s.predictor.reconcile x y z tick lastProcessedInputSequence, ⟨x, y, z⟩⟩
  | .applySnapshotBaseline x y z tick lastProcessedInputSequence =>
    ⟨s.predictor.applySnapshotBaseline x y z tick lastProcessedInputSequence, ⟨x, y, z⟩⟩

def started (x y z : F) : Followed F := ⟨.reset x y z, ⟨x, y, z⟩⟩

def applyAll (pose : PredictedPose F) (pending : List (PendingMoveInput F)) :
    Option (PredictedPose F) :=
  pending.foldlM (fun pose input => integrate pose input.dx input.dy input.dz) pose

def Rising (pending : List (PendingMoveInput F)) : Prop :=
  pending.Pairwise (fun a b => a.clientInputSequence < b.clientInputSequence)

structure Replays (s : Followed F) : Prop where
  pose : applyAll s.authoritative s.predictor.pending = some s.predictor.predictedPose
  rising : Rising s.predictor.pending
  bounded : s.predictor.pending.length ≤ maxPendingPredictionInputs
  newer : ∀ input ∈ s.predictor.pending, s.predictor.lastAcked < input.clientInputSequence

def RefusedStays (s : Followed F) : PredictorCall F → Prop
  | .predict clientInputSequence dx dy dz =>
    (s.predictor.predict clientInputSequence dx dy dz).2 = false →
      (s.predictor.predict clientInputSequence dx dy dz).1 = s.predictor
  | _ => True

def Fits (s : Followed F) (x y z : F) (lastProcessedInputSequence : UInt64) : Prop :=
  applyAll ⟨x, y, z⟩ (acknowledgeUpTo s.predictor.pending lastProcessedInputSequence) ≠ none

def Uncut (s : Followed F) : PredictorCall F → Prop
  | .predict clientInputSequence dx dy dz =>
    s.predictor.pending = [] → clientInputSequence ≠ 0 →
      integrate s.predictor.predictedPose dx dy dz ≠ none →
        s.predictor.lastAcked < clientInputSequence
  | .reconcile x y z _ lastProcessedInputSequence => Fits s x y z lastProcessedInputSequence
  | .applySnapshotBaseline x y z _ lastProcessedInputSequence =>
    Fits s x y z lastProcessedInputSequence

theorem replayAll {pose last : PredictedPose F} {pending : List (PendingMoveInput F)}
    (all : applyAll pose pending = some last) : replayUnacked pose pending = last := by
  induction pending generalizing pose with
  | nil => exact Option.some.inj all
  | cons input pending ih =>
    unfold applyAll at all
    rw [List.foldlM_cons] at all
    obtain ⟨next, made, rest⟩ := Option.bind_eq_some_iff.mp all
    unfold replayUnacked
    rw [made]
    exact ih rest

theorem applyLast (pose : PredictedPose F) (pending : List (PendingMoveInput F))
    (input : PendingMoveInput F) : applyAll pose (pending ++ [input]) =
      (applyAll pose pending).bind (fun next => integrate next input.dx input.dy input.dz) := by
  unfold applyAll
  rw [List.foldlM_append]
  congr 1
  funext next
  rw [List.foldlM_cons]
  cases integrate next input.dx input.dy input.dz <;> rfl

omit [PredictionOps F] in
theorem pushed {pending after : List (PendingMoveInput F)} {input : PendingMoveInput F}
    (h : push pending input = some after) :
    after = pending ++ [input] ∧ input.clientInputSequence ≠ 0 ∧
      pending.length < maxPendingPredictionInputs ∧
      ∀ last ∈ pending.getLast?, last.clientInputSequence < input.clientInputSequence := by
  unfold push at h
  split at h
  · contradiction
  · rename_i fits
    have parts : input.clientInputSequence ≠ 0 ∧ pending.length < maxPendingPredictionInputs :=
      ⟨fun zero => fits (.inl zero), Nat.lt_of_not_le (fun full => fits (.inr full))⟩
    split at h
    · rename_i none
      refine ⟨(Option.some.inj h).symm, parts.1, parts.2, fun last there => ?_⟩
      rw [none] at there
      cases there
    · rename_i newest found
      split at h
      · contradiction
      · rename_i larger
        refine ⟨(Option.some.inj h).symm, parts.1, parts.2, fun last there => ?_⟩
        rw [found] at there
        cases there
        exact UInt64.not_le.mp larger

theorem predictCases (predictor : LocalMovementPredictor F) (number : UInt64) (dx dy dz : F) :
    (predictor.predict number dx dy dz = (predictor, false) ∧
      (integrate predictor.predictedPose dx dy dz = none ∨
        push predictor.pending ⟨number, dx, dy, dz⟩ = none)) ∨
    ∃ next rendered, integrate predictor.predictedPose dx dy dz = some next ∧
      push predictor.pending ⟨number, dx, dy, dz⟩ =
        some (predictor.pending ++ [⟨number, dx, dy, dz⟩]) ∧
      predictor.predict number dx dy dz = ({ predictor with
        pending := predictor.pending ++ [⟨number, dx, dy, dz⟩]
        predictedPose := next
        renderedPose := rendered }, true) := by
  unfold LocalMovementPredictor.predict
  split
  · rename_i none
    exact .inl ⟨rfl, .inl none⟩
  · rename_i next made
    split
    · rename_i none
      exact .inl ⟨rfl, .inr none⟩
    · rename_i pending grown
      obtain ⟨rfl, -⟩ := pushed grown
      exact .inr ⟨next, _, made, grown, rfl⟩

omit [PredictionOps F] in
theorem risingLast {pending : List (PendingMoveInput F)} {number : UInt64} (rising : Rising pending)
    (above : ∀ last ∈ pending.getLast?, last.clientInputSequence < number) :
    ∀ input ∈ pending, input.clientInputSequence < number := by
  intro input there
  obtain ⟨front, last, rfl⟩ := pending.eq_nil_or_concat'.resolve_left (List.ne_nil_of_mem there)
  have below := above last (List.getLast?_concat ..)
  obtain earlier | same := List.mem_append.mp there
  · have order := (List.pairwise_append.mp rising).2.2 input earlier last List.mem_cons_self
    exact UInt64.lt_trans order below
  · rw [List.mem_singleton.mp same]
    exact below

omit [PredictionOps F] in
theorem risingGrows {pending : List (PendingMoveInput F)} {input : PendingMoveInput F}
    (rising : Rising pending)
    (above : ∀ last ∈ pending.getLast?, last.clientInputSequence < input.clientInputSequence) :
    Rising (pending ++ [input]) := by
  refine List.pairwise_append.mpr ⟨rising, List.pairwise_singleton _ _, ?_⟩
  intro earlier there last same
  rw [List.mem_singleton.mp same]
  exact risingLast rising above earlier there

omit [PredictionOps F] in
theorem acknowledgedNewer {pending : List (PendingMoveInput F)} (rising : Rising pending)
    (last : UInt64) : ∀ input ∈ acknowledgeUpTo pending last, last < input.clientInputSequence := by
  induction pending with
  | nil => exact fun input there => absurd there List.not_mem_nil
  | cons first pending ih =>
    obtain ⟨order, rest⟩ := List.pairwise_cons.mp rising
    unfold acknowledgeUpTo at ih ⊢
    by_cases done : first.clientInputSequence ≤ last
    · rw [List.dropWhile_cons_of_pos (by simpa using done)]
      exact ih rest
    · rw [List.dropWhile_cons_of_neg (by simpa using done)]
      have newer := UInt64.not_le.mp done
      intro input there
      obtain rfl | later := List.mem_cons.mp there
      · exact newer
      · exact UInt64.lt_trans newer (order input later)

omit [PredictionOps F] in
theorem acknowledgedRising {pending : List (PendingMoveInput F)} (rising : Rising pending)
    (last : UInt64) : Rising (acknowledgeUpTo pending last) :=
  List.Pairwise.sublist (List.dropWhile_sublist _) rising

section
variable {s : Followed F}

theorem rebasedExact (rising : Rising s.predictor.pending)
    (bounded : s.predictor.pending.length ≤ maxPendingPredictionInputs) {x y z : F}
    {last : UInt64} {after : LocalMovementPredictor F}
    (pending : after.pending = acknowledgeUpTo s.predictor.pending last)
    (pose : after.predictedPose = replayUnacked ⟨x, y, z⟩ after.pending)
    (acked : after.lastAcked = last) : Replays ⟨after, ⟨x, y, z⟩⟩ ↔ Fits s x y z last := by
  constructor
  · intro replays none
    have all := replays.pose
    dsimp only at all
    rw [pending, none] at all
    contradiction
  · intro fits
    obtain ⟨reached, all⟩ := Option.ne_none_iff_exists'.mp fits
    refine ⟨?_, ?_, ?_, ?_⟩ <;> dsimp only
    · rw [pose, pending, all, replayAll all]
    · rw [pending]
      exact acknowledgedRising rising last
    · rw [pending]
      exact (List.dropWhile_sublist _).length_le.trans bounded
    · rw [pending, acked]
      exact acknowledgedNewer rising last

omit [PredictionOps F] in
theorem pushEmpty {input : PendingMoveInput F} (numbered : input.clientInputSequence ≠ 0) :
    push [] input = some [input] := by
  have fits : ¬ (input.clientInputSequence = 0 ∨
      ([] : List (PendingMoveInput F)).length ≥ maxPendingPredictionInputs) := by
    rintro (zero | full)
    · exact numbered zero
    · exact Nat.not_succ_le_zero 63 full
  unfold push
  rw [if_neg fits]
  rfl

theorem predictedExact (holds : Replays s) (number : UInt64) (dx dy dz : F) :
    Replays (callPredictor s (.predict number dx dy dz)) ↔ Uncut s (.predict number dx dy dz) := by
  unfold callPredictor Uncut
  dsimp only
  obtain ⟨same, refused⟩ | ⟨next, rendered, made, grown, accepted⟩ :=
    predictCases s.predictor number dx dy dz
  · rw [same]
    refine ⟨fun _ empty numbered moves => ?_, fun _ => holds⟩
    obtain none | none := refused
    · exact absurd none moves
    · rw [empty, pushEmpty numbered] at none
      contradiction
  · obtain ⟨-, numbered, room, above⟩ := pushed grown
    rw [accepted]
    constructor
    · intro after _ _ _
      exact after.newer ⟨number, dx, dy, dz⟩ (List.mem_append_right _ List.mem_cons_self)
    · intro uncut
      refine ⟨?_, risingGrows holds.rising above, ?_, ?_⟩ <;> dsimp only
      · rw [applyLast, holds.pose]
        exact made
      · rw [List.length_append]
        exact room
      · have moves : integrate s.predictor.predictedPose dx dy dz ≠ none := by
          rw [made]
          exact nofun
        have newest : s.predictor.lastAcked < number := by
          cases waiting : s.predictor.pending with
          | nil => exact uncut waiting numbered moves
          | cons first rest =>
            have there : first ∈ s.predictor.pending := waiting ▸ List.mem_cons_self
            exact UInt64.lt_trans (holds.newer first there) (risingLast holds.rising above first there)
        intro input there
        obtain earlier | same := List.mem_append.mp there
        · exact holds.newer input earlier
        · rw [List.mem_singleton.mp same]
          exact newest

theorem callExact (holds : Replays s) (call : PredictorCall F) :
    Replays (callPredictor s call) ↔ Uncut s call := by
  cases call with
  | predict number dx dy dz => exact predictedExact holds number dx dy dz
  | reconcile x y z tick last => exact rebasedExact holds.rising holds.bounded rfl rfl rfl
  | applySnapshotBaseline x y z tick last =>
    exact rebasedExact holds.rising holds.bounded rfl rfl rfl

theorem refusedStays (s : Followed F) (call : PredictorCall F) : RefusedStays s call := by
  cases call with
  | predict number dx dy dz =>
    intro refused
    obtain ⟨same, -⟩ | ⟨next, rendered, -, -, accepted⟩ := predictCases s.predictor number dx dy dz
    · rw [same]
    · rw [accepted] at refused
      contradiction
  | reconcile => trivial
  | applySnapshotBaseline => trivial

-- The order and the size of the buffer do not depend on the replays.
def Ordered (s : Followed F) : Prop :=
  Rising s.predictor.pending ∧ s.predictor.pending.length ≤ maxPendingPredictionInputs

theorem orderedCall (ordered : Ordered s) (call : PredictorCall F) :
    Ordered (callPredictor s call) := by
  obtain ⟨rising, bounded⟩ := ordered
  have dropped (last : UInt64) : Rising (acknowledgeUpTo s.predictor.pending last) ∧
      (acknowledgeUpTo s.predictor.pending last).length ≤ maxPendingPredictionInputs :=
    ⟨acknowledgedRising rising last, (List.dropWhile_sublist _).length_le.trans bounded⟩
  cases call with
  | reconcile x y z tick last => exact dropped last
  | applySnapshotBaseline x y z tick last => exact dropped last
  | predict number dx dy dz =>
    unfold callPredictor
    obtain ⟨same, -⟩ | ⟨next, rendered, -, grown, accepted⟩ :=
      predictCases s.predictor number dx dy dz
    · dsimp only
      rw [same]
      exact ⟨rising, bounded⟩
    · obtain ⟨-, -, room, above⟩ := pushed grown
      dsimp only
      rw [accepted]
      refine ⟨risingGrows rising above, ?_⟩
      dsimp only
      rw [List.length_append]
      exact room

end

theorem startedReplays (x y z : F) : Replays (started x y z) :=
  ⟨rfl, List.Pairwise.nil, Nat.zero_le _, fun _ there => absurd there List.not_mem_nil⟩

theorem replayExact (x y z : F) (calls : List (PredictorCall F)) :
    (Always callPredictor Replays (started x y z) calls ↔
      Along callPredictor Uncut (started x y z) calls) ∧
    Always callPredictor Ordered (started x y z) calls ∧
    Along callPredictor RefusedStays (started x y z) calls := by
  have start := startedReplays x y z
  have gives (s : Followed F) (replays : Replays s) : Replays s := replays
  have keeps (s : Followed F) (call : PredictorCall F) (holds : Replays s) (uncut : Uncut s call) :
      Replays (callPredictor s call) := (callExact holds call).mpr uncut
  have spoils (s : Followed F) (call : PredictorCall F) (holds : Replays s) (cut : ¬ Uncut s call) :
      ¬ Replays (callPredictor s call) := fun replays => cut ((callExact holds call).mp replays)
  have ordered (s : Followed F) (call : PredictorCall F) (there : Ordered s) (_ : True) :
      Ordered (callPredictor s call) := orderedCall there call
  refine ⟨alwaysExact gives keeps spoils start, ?_, fun before call after _ => refusedStays _ call⟩
  exact alwaysOf (fun _ there => there) ordered ⟨start.rising, start.bounded⟩
    (fun _ _ _ _ => trivial)

end

-- At the edge of the world the first move no longer fits, and the second, which
-- would, is left out as well; a third is made without them.
def edgeRun : Followed ℚ :=
  run callPredictor (started 0 0 0)
    [.predict 1 1 0 0, .predict 2 0 1 0, .reconcile maxWorldCoordinate 0 0 1 0, .predict 3 0 1 0]

-- After everything up to five was acknowledged, number three waits.
def staleRun : Followed ℚ :=
  run callPredictor (started 0 0 0) [.reconcile 0 0 0 1 5, .predict 3 1 0 0]

theorem replayCut :
    (edgeRun.predictor.predictedPose = ⟨maxWorldCoordinate, 1, 0⟩ ∧
      replayUnacked edgeRun.authoritative edgeRun.predictor.pending = ⟨maxWorldCoordinate, 0, 0⟩ ∧
      ¬ Replays edgeRun) ∧
    staleRun.predictor.lastAcked = 5 ∧ ¬ Replays staleRun := by
  refine ⟨⟨by decide +kernel, by decide +kernel, fun replays => ?_⟩, by decide +kernel, fun replays => ?_⟩
  · have cut : applyAll edgeRun.authoritative edgeRun.predictor.pending = none := by decide +kernel
    rw [replays.pose] at cut
    contradiction
  · have there : (⟨3, 1, 0, 0⟩ : PendingMoveInput ℚ) ∈ staleRun.predictor.pending := by decide +kernel
    have old : ¬ staleRun.predictor.lastAcked < 3 := by decide +kernel
    exact old (replays.newer _ there)

end SeedOrigin.PredictorReplay
