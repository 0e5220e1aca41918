import SeedOrigin.Applier
import SeedOrigin.FieldEffects
import SeedOrigin.InputAdmission

/-! What the owner of a character is told about its moves: the acknowledgements of
frames and of snapshots, over any order of accepted inputs, frames and snapshots. -/
namespace SeedOrigin.OwnerAcks
open SeedOrigin.Octets SeedOrigin.Numbers SeedOrigin.Character SeedOrigin.ClientInput
open SeedOrigin.Inputs SeedOrigin.UpdateWire SeedOrigin.UpdateBuilder SeedOrigin.Applier
open SeedOrigin.FieldEffects SeedOrigin.InputAdmission SeedOrigin.Runs

def larger (m n : UInt64) : UInt64 := if n > m then n else m

def largest (numbers : List UInt64) : UInt64 := numbers.foldl larger 0

theorem largerNat (m n : UInt64) : (larger m n).toNat = max m.toNat n.toNat := by
  unfold larger
  split <;> rename_i above
  · have := UInt64.lt_iff_toNat_lt.mp above
    omega
  · have := UInt64.le_iff_toNat_le.mp (UInt64.not_lt.mp above)
    omega

theorem largestFrom (m : UInt64) (numbers : List UInt64) :
    numbers.foldl larger m = larger m (largest numbers) := by
  unfold largest
  induction numbers generalizing m with
  | nil =>
    refine UInt64.toNat.inj ?_
    rw [largerNat]
    exact (Nat.max_zero _).symm
  | cons n numbers ih =>
    rw [List.foldl_cons, List.foldl_cons, ih, ih (larger 0 n)]
    refine UInt64.toNat.inj ?_
    have zero : (0 : UInt64).toNat = 0 := rfl
    simp only [largerNat, zero]
    omega

theorem largestAppend (first later : List UInt64) :
    largest (first ++ later) = larger (largest first) (largest later) := by
  unfold largest
  rw [List.foldl_append]
  exact largestFrom _ later

theorem leLargest {n : UInt64} {numbers : List UInt64} (there : n ∈ numbers) :
    n ≤ largest numbers := by
  obtain ⟨before, after, rfl⟩ := List.append_of_mem there
  rw [UInt64.le_iff_toNat_le, largestAppend, largerNat]
  have here : largest (n :: after) = larger (larger 0 n) (largest after) := largestFrom _ after
  rw [here, largerNat, largerNat]
  omega

theorem largestLe {m : UInt64} {numbers : List UInt64} (bound : ∀ n ∈ numbers, n ≤ m) :
    largest numbers ≤ m := by
  induction numbers with
  | nil => exact UInt64.zero_le
  | cons n numbers ih =>
    have here := UInt64.le_iff_toNat_le.mp (bound n List.mem_cons_self)
    have rest := UInt64.le_iff_toNat_le.mp (ih (fun k there => bound k (List.mem_cons_of_mem _ there)))
    have value : largest (n :: numbers) = larger (larger 0 n) (largest numbers) := largestFrom _ numbers
    have zero : (0 : UInt64).toNat = 0 := rfl
    rw [UInt64.le_iff_toNat_le, value, largerNat, largerNat]
    omega

theorem largestLater {first later : List UInt64} (rises : (first ++ later).Pairwise (fun m n => m < n))
    (some : later ≠ []) : largest (first ++ later) = largest later := by
  obtain ⟨n, rest, rfl⟩ := List.exists_cons_of_ne_nil some
  have bound : largest first ≤ largest (n :: rest) := by
    refine largestLe (fun m there => ?_)
    have step := (List.pairwise_append.mp rises).2.2 m there n List.mem_cons_self
    exact UInt64.le_trans (UInt64.le_of_lt step) (leLargest List.mem_cons_self)
  refine UInt64.toNat.inj ?_
  rw [largestAppend, largerNat]
  exact Nat.max_eq_right (UInt64.le_iff_toNat_le.mp bound)

section
variable {F : Type}

def moveOf (sessionId : Int) : WorldInputBody F → Option UInt64
  | .movement movement =>
    if movement.sessionId = sessionId then some movement.clientInputSequence else none
  | _ => none

def movesOf (sessionId : Int) (inputs : List (WorldInput F)) : List UInt64 :=
  inputs.filterMap (fun input => moveOf sessionId input.body)

theorem movesCons (sessionId : Int) (input : WorldInput F) (inputs : List (WorldInput F)) :
    movesOf sessionId (input :: inputs) =
      (moveOf sessionId input.body).toList ++ movesOf sessionId inputs := by
  unfold movesOf
  rw [List.filterMap_cons]
  cases moveOf sessionId input.body <;> rfl

def valuesFor (sessionId : Int) (acks : List (MovementAck F)) : List UInt64 :=
  (acks.filter (fun ack => ack.sessionId = sessionId)).map MovementAck.lastProcessedInputSequence

theorem valuesAppend (sessionId : Int) (first later : List (MovementAck F)) :
    valuesFor sessionId (first ++ later) = valuesFor sessionId first ++ valuesFor sessionId later := by
  simp [valuesFor]

theorem largestMoves (sessionId : Int) (inputs : List (WorldInput F)) :
    largest (movesOf sessionId inputs) = largest (numbersOf sessionId inputs) := by
  induction inputs with
  | nil => rfl
  | cons input inputs ih =>
    rw [movesCons, ← List.singleton_append, numbersOf, List.filterMap_append, largestAppend,
      largestAppend, ih]
    congr 1
    cases body : input.body with
    | movement movement =>
      by_cases own : movement.sessionId = sessionId
      · by_cases zero : movement.clientInputSequence = 0
        · simp [moveOf, numberOf, body, own, zero, largest, larger]
        · simp [moveOf, numberOf, body, own, zero]
      · by_cases zero : movement.clientInputSequence = 0 <;>
          simp [moveOf, numberOf, body, own, zero]
    | action action => simp [moveOf, numberOf, body]
    | combat combat => simp [moveOf, numberOf, body]
    | spell spell => simp [moveOf, numberOf, body]
    | chat chat => simp [moveOf, numberOf, body]

theorem lastProcessedFrom (sessionId : Int) (last : IntMap UInt64) (inputs : List (WorldInput F)) :
    (inputs.foldl (fun last input => match input.body with
      | .movement movement =>
        let previous := last.getD movement.sessionId 0
        last.insert movement.sessionId
          (if movement.clientInputSequence > previous then movement.clientInputSequence else previous)
      | _ => last) last)[sessionId]? =
    if movesOf sessionId inputs = [] then last[sessionId]?
    else some ((movesOf sessionId inputs).foldl larger (last.getD sessionId 0)) := by
  induction inputs generalizing last with
  | nil => rfl
  | cons input inputs ih =>
    rw [List.foldl_cons, ih, movesCons]
    cases body : input.body with
    | movement movement =>
      by_cases own : movement.sessionId = sessionId
      · cases none : movesOf sessionId inputs <;> simp [moveOf, own, larger]
      · simp [moveOf, own, Std.ExtTreeMap.getElem?_insert, Std.ExtTreeMap.getD_insert]
    | action action => rfl
    | combat combat => rfl
    | spell spell => rfl
    | chat chat => rfl

theorem lastProcessedAt (sessionId : Int) (inputs : List (WorldInput F)) :
    (lastProcessed inputs)[sessionId]? =
      if movesOf sessionId inputs = [] then none
      else some (largest (numbersOf sessionId inputs)) := by
  rw [← largestMoves]
  exact lastProcessedFrom sessionId ∅ inputs

theorem entryAt {entries : List (Int × UInt64)} (distinct : entries.Pairwise (fun a b => a.1 ≠ b.1))
    {k : Int} {found : Option UInt64} (there : ∀ v, (k, v) ∈ entries ↔ found = some v) :
    (entries.filter (fun entry => entry.1 = k)).map Prod.snd = found.toList := by
  induction entries with
  | nil =>
    cases found with
    | none => rfl
    | some v => exact absurd ((there v).mpr rfl) List.not_mem_nil
  | cons entry entries ih =>
    obtain ⟨apart, distinct⟩ := List.pairwise_cons.mp distinct
    by_cases here : entry.1 = k
    · subst here
      have value : found = some entry.2 := (there entry.2).mp List.mem_cons_self
      have others : entries.filter (fun other => other.1 = entry.1) = [] := by
        refine List.filter_eq_nil_iff.mpr (fun other inside => ?_)
        simpa using (apart other inside).symm
      rw [List.filter_cons_of_pos (by simp), others, value]
      rfl
    · rw [List.filter_cons_of_neg (by simpa using here)]
      refine ih distinct (fun v => ?_)
      rw [← there v, List.mem_cons]
      have other : (k, v) ≠ entry := fun same => here (by rw [← same])
      simp [other]

theorem entriesAt (entries : IntMap UInt64) (k : Int) :
    (entries.toList.filter (fun entry => entry.1 = k)).map Prod.snd = entries[k]?.toList := by
  refine entryAt ?_ (fun v => Std.ExtTreeMap.mem_toList_iff_getElem?_eq_some)
  exact Std.ExtTreeMap.distinct_keys_toList.imp (fun apart same => apart (by simp [same]))

theorem recorded {field : Field F} (worldTick : UInt64) (sessionId : Int) {entries : List (Int × UInt64)}
    (present : ∀ entry ∈ entries, (field.findPlayer entry.1).isSome = true)
    (applier : WorldFrameApplier F) :
    let after := entries.foldl (recordOwnerAck field worldTick) applier
    let own := (entries.filter (fun entry => entry.1 = sessionId)).map Prod.snd
    valuesFor sessionId after.ownerAcks = valuesFor sessionId applier.ownerAcks ++ own ∧
      after.lastProcessedBySession.getD sessionId 0 =
        own.foldl larger (applier.lastProcessedBySession.getD sessionId 0) := by
  induction entries generalizing applier with
  | nil => exact ⟨(List.append_nil _).symm, rfl⟩
  | cons entry entries ih =>
    have here := present entry List.mem_cons_self
    obtain ⟨values, last⟩ := ih (fun e there => present e (List.mem_cons_of_mem _ there))
      (recordOwnerAck field worldTick applier entry)
    dsimp only at values last ⊢
    rw [List.foldl_cons, values, last]
    obtain ⟨s, n⟩ := entry
    cases found : field.findPlayer s with
    | none => simp [found] at here
    | some player =>
      by_cases own : s = sessionId
      · subst own
        rw [List.filter_cons_of_pos (by simp)]
        by_cases above : n > applier.lastProcessedBySession.getD s 0 <;>
          simp [recordOwnerAck, found, valuesFor, above, larger]
      · rw [List.filter_cons_of_neg (by simpa using own)]
        by_cases above : n > applier.lastProcessedBySession.getD s 0 <;>
          simp [recordOwnerAck, found, valuesFor, above, own, Std.ExtTreeMap.getD_insert]

variable [FloatOps F]

def takes (applier : WorldFrameApplier F) (field : Field F) (frame : WorldFrameInputs F) : Bool :=
  match checkInputs field frame.inputs, (build applier.updateBuilder frame).2.2,
    (field.processInputs frame.inputs frame.worldTick).2 with
  | .ok _, .ok _, some _ => true
  | _, _, _ => false

theorem acceptedMovers {field after : Field F} {inputs : List (WorldInput F)} {worldTick : UInt64}
    {resolutions : List (CombatResolution F)}
    (h : field.processInputs inputs worldTick = (after, some resolutions)) {input : WorldInput F}
    {movement : MovementIntent F} (there : input ∈ inputs) (body : input.body = .movement movement) :
    (after.findPlayer movement.sessionId).isSome = true := by
  obtain ⟨projection, applied, -, done, rfl⟩ := Field.processedInputs h
  exact inputsMovers done there body

omit [FloatOps F] in
theorem moverOf {inputs : List (WorldInput F)} {sessionId : Int} {n : UInt64}
    (there : (sessionId, n) ∈ (lastProcessed inputs).toList) :
    ∃ input ∈ inputs, ∃ movement, input.body = .movement movement ∧
      movement.sessionId = sessionId := by
  have found := Std.ExtTreeMap.mem_toList_iff_getElem?_eq_some.mp there
  rw [lastProcessedAt] at found
  split at found
  · contradiction
  · rename_i some
    obtain ⟨k, inside⟩ := List.exists_mem_of_ne_nil _ some
    obtain ⟨input, listed, moves⟩ := List.mem_filterMap.mp inside
    refine ⟨input, listed, ?_⟩
    unfold moveOf at moves
    split at moves <;> try contradiction
    rename_i movement body
    split at moves <;> try contradiction
    rename_i own
    exact ⟨movement, body, own⟩

theorem applyAcks (applier : WorldFrameApplier F) (field : Field F) (frame : WorldFrameInputs F)
    (sessionId : Int) :
    let after := apply applier field frame
    let numbers := numbersOf sessionId frame.inputs
    (after.outcome ≠ .ok () ∧ valuesFor sessionId after.applier.ownerAcks = [] ∨
      takes applier field frame = true ∧ valuesFor sessionId after.applier.ownerAcks =
        if movesOf sessionId frame.inputs = [] then [] else [largest numbers]) ∧
    after.applier.lastProcessedBySession.getD sessionId 0 =
      if takes applier field frame then
        larger (applier.lastProcessedBySession.getD sessionId 0) (largest numbers)
      else applier.lastProcessedBySession.getD sessionId 0 := by
  unfold apply takes
  dsimp only
  cases checked : checkInputs field frame.inputs with
  | error e => exact ⟨.inl ⟨nofun, rfl⟩, rfl⟩
  | ok done =>
    cases built : build applier.updateBuilder frame with
    | mk builder rest =>
    cases rest with
    | mk updates outcome =>
    cases outcome with
    | error e => exact ⟨.inl ⟨nofun, rfl⟩, rfl⟩
    | ok done =>
      cases processed : field.processInputs frame.inputs frame.worldTick with
      | mk next result =>
      cases result with
      | none => exact ⟨.inl ⟨nofun, rfl⟩, rfl⟩
      | some resolutions =>
        have present : ∀ entry ∈ (lastProcessed frame.inputs).toList,
            (next.findPlayer entry.1).isSome = true := by
          intro entry there
          obtain ⟨input, listed, movement, body, own⟩ := moverOf there
          rw [← own]
          exact acceptedMovers processed listed body
        obtain ⟨values, last⟩ := recorded frame.worldTick sessionId present
          { applier with ownerAcks := [] }
        rw [entriesAt, lastProcessedAt] at values last
        have remembered : (if movesOf sessionId frame.inputs = [] then none
            else some (largest (numbersOf sessionId frame.inputs))).toList.foldl larger
              (applier.lastProcessedBySession.getD sessionId 0) =
            larger (applier.lastProcessedBySession.getD sessionId 0)
              (largest (numbersOf sessionId frame.inputs)) := by
          split
          · rename_i none
            rw [← largestMoves, none]
            exact largestFrom _ []
          · rfl
        rw [remembered] at last
        dsimp only at values last ⊢
        split
        · exact ⟨.inl ⟨nofun, rfl⟩, last⟩
        · refine ⟨.inr ⟨rfl, ?_⟩, last⟩
          dsimp only
          rw [values]
          split <;> rfl

theorem snapshotKeeps (applier : WorldFrameApplier F) (field : Field F) (worldTick : UInt64)
    (updates : List WorldUpdate) :
    (capturePublicSnapshot applier field worldTick updates).1.lastProcessedBySession =
      applier.lastProcessedBySession := by
  unfold capturePublicSnapshot
  split
  · rfl
  · split <;> rfl

theorem snapshotRemembers {applier : WorldFrameApplier F} {field : Field F} {worldTick : UInt64}
    {updates : List WorldUpdate} {ack : MovementAck F}
    (there : ack ∈ (capturePublicSnapshot applier field worldTick updates).1.snapshotAcks) :
    ack.lastProcessedInputSequence = applier.lastProcessedBySession.getD ack.sessionId 0 := by
  unfold capturePublicSnapshot at there
  split at there
  · contradiction
  · split at there
    · contradiction
    · obtain ⟨pose, -, rfl⟩ := List.mem_map.mp there
      rfl

structure AckRun (F : Type) where
  queue : WorldInputQueue F := {}
  field : Field F
  applier : WorldFrameApplier F := {}
  applied : List (WorldInput F) := []
  acks : List (MovementAck F) := []

-- Between frames the field may change in any way.
inductive AckEvent (F : Type) where
  | call (queueCall : QueueCall F)
  | frame (worldTick : UInt64)
  | snapshot (worldTick : UInt64) (updates : List WorldUpdate)
  | change (field : Field F)

def AckRun.nextFrame (w : AckRun F) (worldTick : UInt64) : WorldFrameInputs F :=
  ⟨worldTick, w.queue.takeFrame.2⟩

def acksMade (w : AckRun F) : AckEvent F → List (MovementAck F)
  | .frame worldTick => (apply w.applier w.field (w.nextFrame worldTick)).applier.ownerAcks
  | .snapshot worldTick updates =>
    (capturePublicSnapshot w.applier w.field worldTick updates).1.snapshotAcks
  | _ => []

def ackStep (w : AckRun F) (e : AckEvent F) : AckRun F :=
  let made := w.acks ++ acksMade w e
  match e with
  | .call queueCall => { w with queue := (call w.queue queueCall).1, acks := made }
  | .frame worldTick =>
    let done := apply w.applier w.field (w.nextFrame worldTick)
    { queue := w.queue.takeFrame.1
      field := done.field
      applier := done.applier
      applied :=
        if takes w.applier w.field (w.nextFrame worldTick) then w.applied ++ w.queue.takeFrame.2
        else w.applied
      acks := made }
  | .snapshot worldTick updates =>
    { w with applier := (capturePublicSnapshot w.applier w.field worldTick updates).1, acks := made }
  | .change field => { w with field := field, acks := made }

def Rising (sessionId : Int) (w : AckRun F) : Prop :=
  (valuesFor sessionId w.acks).Pairwise (fun m n => m ≤ n)

def Truthful (sessionId : Int) (w : AckRun F) (e : AckEvent F) : Prop :=
  ∀ n ∈ valuesFor sessionId (acksMade w e), n = largest (numbersOf sessionId (ackStep w e).applied)

def Numbered (sessionId : Int) (w : AckRun F) : AckEvent F → Prop
  | .frame _ => movesOf sessionId w.queue.pending ≠ [] → numbersOf sessionId w.queue.pending = [] →
    numbersOf sessionId w.applied = []
  | _ => True

structure Tracked (sessionId : Int) (w : AckRun F) : Prop where
  rises : (numbersOf sessionId (w.applied ++ w.queue.pending)).Pairwise (fun m n => m < n)
  below : ∀ n ∈ numbersOf sessionId (w.applied ++ w.queue.pending),
    n ≤ w.queue.inputSequenceTracker.lastAccepted.getD sessionId 0
  remembered : w.applier.lastProcessedBySession.getD sessionId 0 =
    largest (numbersOf sessionId w.applied)

theorem trackedCall {sessionId : Int} {w : AckRun F} (tracked : Tracked sessionId w)
    (queueCall : QueueCall F) : Tracked sessionId { w with queue := (call w.queue queueCall).1 } := by
  obtain ⟨body, -, -, accepts⟩ | ⟨-, same⟩ | ⟨-, same⟩ := callCases w.queue queueCall
  · have pending : (call w.queue queueCall).1.pending = w.queue.pending ++ [⟨w.queue.nextSequence, body⟩] := by
      rw [accepts.left]
    have grown := numbersAppend sessionId (w.applied ++ w.queue.pending) ⟨w.queue.nextSequence, body⟩
    rw [List.append_assoc, ← pending] at grown
    cases numbered : numberOf body with
    | none =>
      simp only [numbered, List.append_nil] at grown
      refine ⟨?_, ?_, tracked.remembered⟩
      · dsimp only
        rw [grown]
        exact tracked.rises
      · dsimp only
        rw [grown, accepts.left, numbered]
        exact tracked.below
    | some p =>
      by_cases own : p.1 = sessionId
      · have near := (nearAdmitted (accepts.admitted p numbered)).2.1
        rw [own] at near
        simp only [numbered, own, if_true] at grown
        refine ⟨?_, ?_, tracked.remembered⟩
        · dsimp only
          rw [grown, List.pairwise_append]
          refine ⟨tracked.rises, List.pairwise_singleton _ _, ?_⟩
          intro m there n here
          rw [List.mem_singleton.mp here]
          exact UInt64.lt_of_le_of_lt (tracked.below m there) near
        · dsimp only
          rw [grown, accepts.left, numbered]
          intro m there
          simp only [ClientInputSequenceTracker.noteAccepted, own, Std.ExtTreeMap.getD_insert_self]
          rcases List.mem_append.mp there with old | new
          · exact UInt64.le_trans (tracked.below m old) (UInt64.le_of_lt near)
          · rw [List.mem_singleton.mp new]
            exact UInt64.le_refl _
      · simp only [numbered, own, if_false, List.append_nil] at grown
        refine ⟨?_, ?_, tracked.remembered⟩
        · dsimp only
          rw [grown]
          exact tracked.rises
        · dsimp only
          rw [grown, accepts.left, numbered]
          simpa [ClientInputSequenceTracker.noteAccepted, Std.ExtTreeMap.getD_insert, own] using
            tracked.below
  · rw [same]
    have fewer : (numbersOf sessionId (w.applied ++ w.queue.takeFrame.1.pending)).Sublist
        (numbersOf sessionId (w.applied ++ w.queue.pending)) :=
      (List.Sublist.append (List.Sublist.refl _) (List.nil_sublist _)).filterMap _
    exact ⟨tracked.rises.sublist fewer, fun n there => tracked.below n (fewer.subset there),
      tracked.remembered⟩
  · rw [same]
    exact tracked

theorem trackedStep {sessionId : Int} {w : AckRun F} (tracked : Tracked sessionId w) (e : AckEvent F) :
    Tracked sessionId (ackStep w e) := by
  cases e with
  | call queueCall =>
    obtain ⟨rises, below, remembered⟩ := trackedCall tracked queueCall
    exact ⟨rises, below, remembered⟩
  | frame worldTick =>
    obtain ⟨-, last⟩ := applyAcks w.applier w.field (w.nextFrame worldTick) sessionId
    have fewer : (numbersOf sessionId ((ackStep w (.frame worldTick)).applied ++ [])).Sublist
        (numbersOf sessionId (w.applied ++ w.queue.pending)) := by
      refine List.Sublist.filterMap _ ?_
      rw [List.append_nil]
      simp only [ackStep]
      split
      · exact List.Sublist.refl _
      · exact List.sublist_append_left _ _
    refine ⟨tracked.rises.sublist fewer, fun n there => tracked.below n (fewer.subset there), ?_⟩
    simp only [ackStep]
    rw [last, tracked.remembered]
    split
    · rw [← largestAppend]
      unfold numbersOf
      rw [← List.filterMap_append]
      rfl
    · rfl
  | snapshot worldTick updates =>
    refine ⟨tracked.rises, tracked.below, ?_⟩
    simp only [ackStep]
    rw [snapshotKeeps]
    exact tracked.remembered
  | change field => exact ⟨tracked.rises, tracked.below, tracked.remembered⟩

theorem truthfulStep {sessionId : Int} {w : AckRun F} (tracked : Tracked sessionId w) {e : AckEvent F}
    (numbered : Numbered sessionId w e) : Truthful sessionId w e := by
  intro n there
  cases e with
  | call queueCall => contradiction
  | frame worldTick =>
    obtain ⟨⟨-, silent⟩ | ⟨taken, values⟩, -⟩ :=
      applyAcks w.applier w.field (w.nextFrame worldTick) sessionId
    · simp only [acksMade, silent] at there
      contradiction
    · simp only [acksMade, values] at there
      split at there
      · contradiction
      · rename_i moved
        rw [List.mem_singleton.mp there]
        simp only [ackStep, taken, if_true]
        have split : numbersOf sessionId (w.applied ++ w.queue.takeFrame.2) =
            numbersOf sessionId w.applied ++ numbersOf sessionId w.queue.pending :=
          List.filterMap_append
        rw [split]
        by_cases some : numbersOf sessionId w.queue.pending = []
        · rw [numbered moved some]
          rfl
        · have rises := tracked.rises
          rw [numbersOf, List.filterMap_append] at rises
          exact (largestLater rises some).symm
  | snapshot worldTick updates =>
    obtain ⟨ack, made, rfl⟩ := List.mem_map.mp there
    obtain ⟨made, own⟩ := List.mem_filter.mp made
    rw [snapshotRemembers made, of_decide_eq_true own, tracked.remembered]
    rfl
  | change field => contradiction

-- Outside the condition an applied frame tells the session that nothing of it
-- has been applied.
theorem unnumberedForgets {sessionId : Int} {w : AckRun F} {worldTick : UInt64}
    (success : (apply w.applier w.field (w.nextFrame worldTick)).outcome = .ok ())
    (unnumbered : ¬ Numbered sessionId w (.frame worldTick)) :
    valuesFor sessionId (acksMade w (.frame worldTick)) = [0] ∧
      numbersOf sessionId (ackStep w (.frame worldTick)).applied ≠ [] := by
  simp only [Numbered, Classical.not_imp] at unnumbered
  obtain ⟨moved, none, earlier⟩ := unnumbered
  obtain ⟨⟨failed, -⟩ | ⟨taken, values⟩, -⟩ :=
    applyAcks w.applier w.field (w.nextFrame worldTick) sessionId
  · exact absurd success failed
  · refine ⟨?_, ?_⟩
    · have frame : (w.nextFrame worldTick).inputs = w.queue.pending := rfl
      simp only [acksMade, values]
      rw [frame, if_neg moved, none]
      rfl
    · simp only [ackStep, taken, if_true]
      unfold numbersOf
      rw [List.filterMap_append]
      exact List.append_ne_nil_of_left_ne_nil earlier _

structure Acked (sessionId : Int) (w : AckRun F) : Prop extends Tracked sessionId w where
  rising : Rising sessionId w
  past : ∀ n ∈ valuesFor sessionId w.acks, n ≤ largest (numbersOf sessionId w.applied)

theorem appliedGrows (w : AckRun F) (e : AckEvent F) : w.applied <+: (ackStep w e).applied := by
  cases e with
  | frame worldTick =>
    simp only [ackStep]
    split
    · exact List.prefix_append _ _
    · exact List.prefix_refl _
  | call queueCall => exact List.prefix_refl _
  | snapshot worldTick updates => exact List.prefix_refl _
  | change field => exact List.prefix_refl _

theorem ackedStep {sessionId : Int} {w : AckRun F} (e : AckEvent F) (acked : Acked sessionId w)
    (numbered : Numbered sessionId w e) : Acked sessionId (ackStep w e) := by
  have truthful := truthfulStep acked.toTracked numbered
  have made : (ackStep w e).acks = w.acks ++ acksMade w e := by cases e <;> rfl
  have grows : largest (numbersOf sessionId w.applied) ≤
      largest (numbersOf sessionId (ackStep w e).applied) := by
    refine largestLe (fun n there => leLargest ?_)
    exact ((appliedGrows w e).filterMap _).subset there
  refine { trackedStep acked.toTracked e with rising := ?_, past := ?_ }
  · unfold Rising
    rw [made, valuesAppend, List.pairwise_append]
    refine ⟨acked.rising, ?_, ?_⟩
    · refine List.pairwise_of_forall_mem_list (fun m first n later => ?_)
      rw [truthful m first, truthful n later]
      exact UInt64.le_refl _
    · intro m first n later
      rw [truthful n later]
      exact UInt64.le_trans (acked.past m first) grows
  · intro n there
    rw [made, valuesAppend] at there
    rcases List.mem_append.mp there with old | new
    · exact UInt64.le_trans (acked.past n old) grows
    · rw [truthful n new]
      exact UInt64.le_refl _

omit [FloatOps F] in
theorem ackedStart (sessionId : Int) (field : Field F) : Acked sessionId { field := field } where
  rises := List.Pairwise.nil
  below := fun _ there => absurd there List.not_mem_nil
  remembered := rfl
  rising := List.Pairwise.nil
  past := fun _ there => absurd there List.not_mem_nil

theorem acksFollowApplied (sessionId : Int) (field : Field F) (events : List (AckEvent F))
    (numbered : Along ackStep (Numbered sessionId) { field := field } events) :
    Always ackStep (Rising sessionId) { field := field } events ∧
      Along ackStep (Truthful sessionId) { field := field } events := by
  have acked := alwaysOf (fun _ acked => acked) (fun _ e acked numbered => ackedStep e acked numbered)
    (ackedStart sessionId field) numbered
  refine ⟨fun before after split => (acked before after split).rising, ?_⟩
  intro before e after split
  exact truthfulStep (acked before (e :: after) split).toTracked (numbered before e after split)

end

def boundWorld : Field ℚ :=
  { (Field.initial : Field ℚ) with
    playerList := (∅ : IntMap (Player ℚ)).insert 1
      { id := 1, status := ⟨10, 10⟩, position := ⟨1, 0, 0, 0⟩ }
    sessionToPlayerId := (∅ : IntMap Int).insert 7 1
    playerToSessionId := (∅ : IntMap Int).insert 1 7 }

def numberedMoves : List (AckEvent ℚ) :=
  [.call (.movement 7 1 0 0 1), .call (.movement 7 1 0 0 0), .frame 1, .call (.movement 7 0 1 0 2),
    .frame 2, .snapshot 2 []]

theorem numberedMovesFollow : Rising 7 (run ackStep { field := boundWorld } numberedMoves) :=
  (acksFollowApplied 7 boundWorld numberedMoves (by
    simp only [numberedMoves, alongCons]
    refine ⟨trivial, trivial, fun _ none => absurd none (by decide +kernel), trivial,
      fun _ none => absurd none (by decide +kernel), trivial, alongNil _ _ _⟩)).1 numberedMoves [] (List.append_nil _).symm

def mixedMoves : List (AckEvent ℚ) :=
  [.call (.movement 7 1 0 0 1), .frame 1, .call (.movement 7 0 1 0 0), .frame 2]

-- The second frame holds only a movement without a number, and says zero.
theorem mixedMovesFallBack :
    valuesFor 7 (run ackStep { field := boundWorld } mixedMoves).acks = [1, 0] ∧
      (run ackStep { field := boundWorld } mixedMoves).field.playerIdForSession 7 = 1 ∧
      ¬ Always ackStep (Rising 7) { field := boundWorld } mixedMoves := by
  have values : valuesFor 7 (run ackStep { field := boundWorld } mixedMoves).acks = [1, 0] := by
    decide +kernel
  refine ⟨values, by decide +kernel, fun always => ?_⟩
  have rising := always mixedMoves [] (List.append_nil _).symm
  unfold Rising at rising
  rw [values] at rising
  exact absurd rising (by decide)

end SeedOrigin.OwnerAcks
