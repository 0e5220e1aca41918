import SeedOrigin.InputAdmission
import SeedOrigin.Prediction

/-! One session's moves between its predictor and the server's queue, with moves
in flight one way and acknowledgements the other. -/
namespace SeedOrigin.PredictionWindow
open SeedOrigin.Octets SeedOrigin.Numbers SeedOrigin.ClientInput SeedOrigin.Inputs
open SeedOrigin.InputAdmission SeedOrigin.Prediction SeedOrigin.Runs

-- sent is the number of the last Move that was sent, applied are the numbers that
-- the field has taken.
structure Window (F : Type) where
  predictor : LocalMovementPredictor F
  sent : UInt64 := 0
  uplink : List (PendingMoveInput F) := []
  queue : WorldInputQueue F := {}
  applied : List UInt64 := []
  downlink : List (MovementAck F) := []

inductive WindowEvent (F : Type) where
  | send (dx dy dz : F)
  -- The next Move that arrives does not get as far as the queue.
  | refuse
  | reach
  | other (queueCall : QueueCall F)
  | applyFrame (taken : Bool)
  | acknowledge (ack : MovementAck F)
  | deliver (snapshot : Bool)

section
variable {F : Type} [PredictionOps F] (sessionId : Int)

def windowStep (w : Window F) : WindowEvent F → Window F
  | .send dx dy dz =>
    let number := w.sent + 1
    match w.predictor.predict number dx dy dz with
    | (_, false) => w
    | (predictor, true) =>
      { w with
        predictor := predictor
        sent := number
        uplink := w.uplink ++ [⟨number, dx, dy, dz⟩] }
  | .refuse => { w with uplink := w.uplink.tail }
  | .reach => match w.uplink with
    | [] => w
    | move :: uplink =>
      { w with
        uplink := uplink
        queue := (w.queue.enqueueSequencedMovement sessionId move.dx move.dy move.dz
          move.clientInputSequence).1 }
  | .other queueCall =>
    if (queueCall.body.bind numberOf).map Prod.fst = some sessionId then w
    else { w with queue := (call w.queue queueCall).1 }
  | .applyFrame taken =>
    { w with
      queue := w.queue.takeFrame.1
      applied := if taken then w.applied ++ numbersOf sessionId w.queue.takeFrame.2 else w.applied }
  | .acknowledge ack =>
    if ack.lastProcessedInputSequence = 0 ∨ ack.lastProcessedInputSequence ∈ w.applied then
      { w with downlink := w.downlink ++ [ack] }
    else w
  | .deliver snapshot => match w.downlink with
    | [] => w
    | ack :: downlink =>
      { w with
        downlink := downlink
        predictor :=
          if snapshot then w.predictor.applySnapshotBaseline ack.x ack.y ack.z ack.worldTick
            ack.lastProcessedInputSequence
          else w.predictor.reconcile ack.x ack.y ack.z ack.worldTick ack.lastProcessedInputSequence }

def Agrees (w : Window F) : WindowEvent F → Prop
  | .reach => ∀ move ∈ w.uplink.head?,
    w.queue.inputSequenceTracker.admit sessionId move.clientInputSequence ≠ .rejectTooFarAhead ∧
      w.queue.inputSequenceTracker.admit sessionId move.clientInputSequence ≠ .ignoreStale
  | _ => True

def accepted (w : Window F) : UInt64 := w.queue.inputSequenceTracker.lastAccepted.getD sessionId 0

def numbers (moves : List (PendingMoveInput F)) : List Nat :=
  moves.map (fun move => move.clientInputSequence.toNat)

structure Abreast (w : Window F) (acked arrived : Nat) : Prop where
  pending : numbers w.predictor.pending = List.range' (acked + 1) (w.sent.toNat - acked)
  uplink : numbers w.uplink = List.range' (arrived + 1) (w.sent.toNat - arrived)
  behind : acked ≤ (accepted sessionId w).toNat
  ahead : (accepted sessionId w).toNat ≤ arrived
  sent : arrived ≤ w.sent.toNat
  room : w.sent.toNat - acked ≤ maxPendingPredictionInputs
  queued : ∀ n ∈ numbersOf sessionId w.queue.pending, n ≤ accepted sessionId w
  applied : ∀ n ∈ w.applied, n ≤ accepted sessionId w
  downlink : ∀ ack ∈ w.downlink, ack.lastProcessedInputSequence ≤ accepted sessionId w

variable {sessionId} {w : Window F} {acked arrived : Nat}

omit [PredictionOps F] in
theorem agreesAdmit (abreast : Abreast sessionId w acked arrived) {move : PendingMoveInput F}
    (head : move ∈ w.uplink.head?) :
    w.queue.inputSequenceTracker.admit sessionId move.clientInputSequence ≠ .rejectTooFarAhead ∧
      w.queue.inputSequenceTracker.admit sessionId move.clientInputSequence ≠ .ignoreStale := by
  obtain ⟨rest, uplink⟩ := List.head?_eq_some_iff.mp head
  have flight := abreast.uplink
  obtain ⟨behind, ahead, sent, room⟩ := And.intro abreast.behind
    (And.intro abreast.ahead (And.intro abreast.sent abreast.room))
  have next : move.clientInputSequence.toNat = arrived + 1 ∧ arrived < w.sent.toNat := by
    cases left : w.sent.toNat - arrived with
    | zero => simp [uplink, numbers, left] at flight
    | succ left =>
      simp only [uplink, numbers, List.map_cons, List.range'_succ, left, List.cons.injEq] at flight
      exact ⟨flight.1, by omega⟩
  unfold ClientInputSequenceTracker.admit
  split
  · exact ⟨nofun, nofun⟩
  · have newer : ¬ move.clientInputSequence ≤ accepted sessionId w := by
      rw [UInt64.le_iff_toNat_le]
      omega
    have near : ¬ move.clientInputSequence - accepted sessionId w > maxClientInputAhead := by
      have below : accepted sessionId w ≤ move.clientInputSequence := by
        rw [UInt64.le_iff_toNat_le]
        omega
      have window : maxClientInputAhead.toNat = maxPendingPredictionInputs := rfl
      rw [gt_iff_lt, UInt64.lt_iff_toNat_lt, UInt64.toNat_sub_of_le _ _ below, window]
      omega
    dsimp only
    unfold accepted at newer near
    rw [if_neg newer, if_neg near]
    exact ⟨nofun, nofun⟩

omit [PredictionOps F] in
theorem acknowledgedNumbers {pending : List (PendingMoveInput F)} {first count : Nat}
    (stretch : numbers pending = List.range' (first + 1) count) (last : UInt64)
    (within : last.toNat ≤ first + count) :
    numbers (acknowledgeUpTo pending last) =
      List.range' (max first last.toNat + 1) (first + count - max first last.toNat) := by
  induction pending generalizing first count with
  | nil =>
    cases count with
    | zero => simp [acknowledgeUpTo, numbers]
    | succ count => simp [numbers, List.range'_succ] at stretch
  | cons move pending ih =>
    cases count with
    | zero => simp [numbers] at stretch
    | succ count =>
      simp only [numbers, List.map_cons, List.range'_succ, List.cons.injEq] at stretch
      obtain ⟨number, rest⟩ := stretch
      unfold acknowledgeUpTo
      by_cases done : move.clientInputSequence ≤ last
      · rw [List.dropWhile_cons_of_pos (by simpa using done)]
        rw [UInt64.le_iff_toNat_le] at done
        have tail := ih rest (by omega)
        unfold acknowledgeUpTo at tail
        rw [tail]
        congr 1 <;> omega
      · rw [List.dropWhile_cons_of_neg (by simpa using done)]
        rw [UInt64.le_iff_toNat_le] at done
        have same : max first last.toNat = first := by omega
        have left : first + (count + 1) - first = count + 1 := by omega
        rw [same, left, List.range'_succ]
        simp only [numbers, List.map_cons, number, List.cons.injEq, true_and]
        exact rest

theorem predicted {predictor after : LocalMovementPredictor F} {number : UInt64} {dx dy dz : F}
    (h : predictor.predict number dx dy dz = (after, true)) :
    number ≠ 0 ∧ predictor.pending.length < maxPendingPredictionInputs ∧
      after.pending = predictor.pending ++ [⟨number, dx, dy, dz⟩] := by
  unfold LocalMovementPredictor.predict at h
  split at h
  · exact absurd (Prod.mk.inj h).2 nofun
  · split at h
    · exact absurd (Prod.mk.inj h).2 nofun
    · rename_i pending pushed
      cases (Prod.mk.inj h).1
      unfold push at pushed
      split at pushed <;> try contradiction
      rename_i fits
      refine ⟨fun zero => fits (.inl zero), Nat.lt_of_not_le (fun full => fits (.inr full)), ?_⟩
      split at pushed
      · cases Option.some.inj pushed
        rfl
      · split at pushed <;> try contradiction
        cases Option.some.inj pushed
        rfl

theorem abreastSend (abreast : Abreast sessionId w acked arrived) (dx dy dz : F) :
    Abreast sessionId (windowStep sessionId w (.send dx dy dz)) acked arrived := by
  unfold windowStep
  dsimp only
  split
  · exact abreast
  · rename_i predictor made
    obtain ⟨fits, room, grown⟩ := predicted made
    have number : (w.sent + 1).toNat = w.sent.toNat + 1 := by
      have small := w.sent.toNat_lt
      have one : (1 : UInt64).toNat = 1 := rfl
      have nonzero : (w.sent + 1).toNat ≠ 0 := fun zero => fits (UInt64.toNat.inj zero)
      rw [UInt64.toNat_add] at nonzero ⊢
      omega
    have behind := abreast.behind
    have ahead := abreast.ahead
    have sent := abreast.sent
    have waiting := congrArg List.length abreast.pending
    simp only [numbers, List.length_map, List.length_range'] at waiting
    have longer {moves : List (PendingMoveInput F)} {start : Nat} (le : start ≤ w.sent.toNat)
        (stretch : numbers moves = List.range' (start + 1) (w.sent.toNat - start)) :
        numbers (moves ++ [⟨w.sent + 1, dx, dy, dz⟩]) =
          List.range' (start + 1) ((w.sent + 1).toNat - start) := by
      have count : (w.sent + 1).toNat - start = (w.sent.toNat - start) + 1 := by omega
      rw [count, List.range'_concat, ← stretch]
      simp only [numbers, List.map_append, List.map_cons, List.map_nil, number]
      congr 2
      omega
    refine { abreast with pending := ?_, uplink := ?_, sent := ?_, room := ?_ }
    · rw [grown]
      exact longer (by omega) abreast.pending
    · exact longer sent abreast.uplink
    · dsimp only
      omega
    · dsimp only
      omega

omit [PredictionOps F] in
theorem abreastArrive (abreast : Abreast sessionId w acked arrived) {move : PendingMoveInput F}
    {uplink : List (PendingMoveInput F)} (head : w.uplink = move :: uplink) :
    move.clientInputSequence.toNat = arrived + 1 ∧
      Abreast sessionId { w with uplink := uplink } acked (arrived + 1) := by
  have flight := abreast.uplink
  cases left : w.sent.toNat - arrived with
  | zero => simp [head, numbers, left] at flight
  | succ count =>
    simp only [head, numbers, List.map_cons, List.range'_succ, left, List.cons.injEq] at flight
    have ahead := abreast.ahead
    refine ⟨flight.1, { abreast with uplink := ?_, ahead := ?_, sent := ?_ }⟩
    · have rest : w.sent.toNat - (arrived + 1) = count := by omega
      dsimp only
      rw [rest]
      exact flight.2
    · exact Nat.le_succ_of_le ahead
    · dsimp only
      omega

omit [PredictionOps F] in
theorem abreastQueue (abreast : Abreast sessionId w acked arrived) {queue : WorldInputQueue F}
    (more : accepted sessionId w ≤ accepted sessionId { w with queue := queue })
    (ahead : (accepted sessionId { w with queue := queue }).toNat ≤ arrived)
    (queued : ∀ n ∈ numbersOf sessionId queue.pending, n ≤ accepted sessionId { w with queue := queue }) :
    Abreast sessionId { w with queue := queue } acked arrived where
  pending := abreast.pending
  uplink := abreast.uplink
  behind := abreast.behind.trans (UInt64.le_iff_toNat_le.mp more)
  ahead := ahead
  sent := abreast.sent
  room := abreast.room
  queued := queued
  applied := fun n there => UInt64.le_trans (abreast.applied n there) more
  downlink := fun ack there => UInt64.le_trans (abreast.downlink ack there) more

omit [PredictionOps F] in
theorem abreastAccepts (abreast : Abreast sessionId w acked arrived) {body : WorldInputBody F}
    {queue : WorldInputQueue F} (accepts : Accepts w.queue body queue)
    (own : ∀ n, numberOf body = some (sessionId, n) → n.toNat = arrived) :
    Abreast sessionId { w with queue := queue } acked arrived := by
  have ahead := abreast.ahead
  by_cases mine : ∃ n, numberOf body = some (sessionId, n)
  · obtain ⟨n, numbered⟩ := mine
    have value : accepted sessionId { w with queue := queue } = n := by
      simp [accepted, accepts.left, numbered, ClientInputSequenceTracker.noteAccepted]
    have below : accepted sessionId w ≤ n := by
      rw [UInt64.le_iff_toNat_le, own n numbered]
      exact ahead
    refine abreastQueue abreast ?_ ?_ ?_
    · rw [value]
      exact below
    · rw [value, own n numbered]
    · intro m there
      rw [value]
      rw [accepts.left, numbersAppend] at there
      rcases List.mem_append.mp there with old | new
      · exact UInt64.le_trans (abreast.queued m old) below
      · simp only [numbered, if_true, List.mem_singleton] at new
        rw [new]
        exact UInt64.le_refl n
  · have other : ∀ p, numberOf body = some p → p.1 ≠ sessionId := by
      intro p numbered same
      exact mine ⟨p.2, by rw [numbered, ← same]⟩
    have value : accepted sessionId { w with queue := queue } = accepted sessionId w := by
      cases numbered : numberOf body with
      | none => simp [accepted, accepts.left, numbered]
      | some p =>
        simp [accepted, accepts.left, numbered, ClientInputSequenceTracker.noteAccepted,
          Std.ExtTreeMap.getD_insert, other p numbered]
    refine abreastQueue abreast ?_ ?_ ?_
    · rw [value]
      exact UInt64.le_refl _
    · rw [value]
      exact ahead
    · intro m there
      rw [value]
      rw [accepts.left, numbersAppend] at there
      rcases List.mem_append.mp there with old | new
      · exact abreast.queued m old
      · cases numbered : numberOf body with
        | none => simp [numbered] at new
        | some p => simp [numbered, other p numbered] at new

omit [PredictionOps F] in
theorem abreastTaken (abreast : Abreast sessionId w acked arrived) :
    Abreast sessionId { w with queue := w.queue.takeFrame.1 } acked arrived := by
  refine abreastQueue abreast (UInt64.le_refl _) abreast.ahead ?_
  intro n there
  simp [WorldInputQueue.takeFrame, numbersOf] at there

theorem abreastRefuse (abreast : Abreast sessionId w acked arrived) :
    ∃ arrived, Abreast sessionId (windowStep sessionId w .refuse) acked arrived := by
  unfold windowStep
  cases head : w.uplink with
  | nil =>
    refine ⟨arrived, ?_⟩
    rw [List.tail_nil, ← head]
    exact abreast
  | cons move uplink => exact ⟨arrived + 1, (abreastArrive abreast head).2⟩

theorem abreastReach (abreast : Abreast sessionId w acked arrived) :
    ∃ arrived, Abreast sessionId (windowStep sessionId w .reach) acked arrived := by
  unfold windowStep
  cases head : w.uplink with
  | nil => exact ⟨arrived, abreast⟩
  | cons move uplink =>
    obtain ⟨number, gone⟩ := abreastArrive abreast head
    refine ⟨arrived + 1, ?_⟩
    cases made : w.queue.enqueueSequencedMovement sessionId move.dx move.dy move.dz
        move.clientInputSequence with
    | mk after result =>
    dsimp only
    rw [made]
    obtain ⟨-, accepts⟩ | ⟨-, rfl⟩ := sequencedCases made
    · refine abreastAccepts gone accepts fun n numbered => ?_
      simp only [numberOf] at numbered
      split at numbered
      · contradiction
      · cases Option.some.inj numbered
        exact number
    · exact gone

theorem abreastOther (abreast : Abreast sessionId w acked arrived) (queueCall : QueueCall F) :
    Abreast sessionId (windowStep sessionId w (.other queueCall)) acked arrived := by
  simp only [windowStep]
  split
  · exact abreast
  · rename_i foreign
    obtain ⟨body, asked, -, accepts⟩ | ⟨-, same⟩ | ⟨-, same⟩ := callCases w.queue queueCall
    · refine abreastAccepts abreast accepts fun n numbered => ?_
      exact absurd (by simp [asked, numbered]) foreign
    · rw [same]
      exact abreastTaken abreast
    · rw [same]
      exact abreast

theorem abreastFrame (abreast : Abreast sessionId w acked arrived) (taken : Bool) :
    Abreast sessionId (windowStep sessionId w (.applyFrame taken)) acked arrived := by
  refine { abreastTaken abreast with applied := fun n there => ?_ }
  cases taken with
  | false => exact abreast.applied n there
  | true =>
    rcases List.mem_append.mp there with old | new
    · exact abreast.applied n old
    · exact abreast.queued n new

theorem abreastAcknowledge (abreast : Abreast sessionId w acked arrived) (ack : MovementAck F) :
    Abreast sessionId (windowStep sessionId w (.acknowledge ack)) acked arrived := by
  simp only [windowStep]
  split
  · rename_i applied
    refine { abreast with downlink := fun other there => ?_ }
    rcases List.mem_append.mp there with old | new
    · exact abreast.downlink other old
    · rw [List.mem_singleton.mp new]
      obtain zero | known := applied
      · rw [zero]
        exact UInt64.zero_le
      · exact abreast.applied _ known
  · exact abreast

theorem abreastDeliver (abreast : Abreast sessionId w acked arrived) (snapshot : Bool) :
    ∃ acked, Abreast sessionId (windowStep sessionId w (.deliver snapshot)) acked arrived := by
  unfold windowStep
  cases head : w.downlink with
  | nil => exact ⟨acked, abreast⟩
  | cons ack downlink =>
    have bounds := abreast.downlink
    rw [head] at bounds
    obtain ⟨here, later⟩ := List.forall_mem_cons.mp bounds
    rw [UInt64.le_iff_toNat_le] at here
    obtain ⟨behind, ahead, sent, room⟩ := And.intro abreast.behind
      (And.intro abreast.ahead (And.intro abreast.sent abreast.room))
    refine ⟨max acked ack.lastProcessedInputSequence.toNat,
      { abreast with pending := ?_, behind := max_le behind here, room := ?_, downlink := later }⟩
    · have left := acknowledgedNumbers abreast.pending ack.lastProcessedInputSequence (by omega)
      have total : acked + (w.sent.toNat - acked) = w.sent.toNat := by omega
      rw [total] at left
      cases snapshot <;> exact left
    · dsimp only
      omega

theorem abreastStep (abreast : ∃ acked arrived, Abreast sessionId w acked arrived)
    (event : WindowEvent F) :
    ∃ acked arrived, Abreast sessionId (windowStep sessionId w event) acked arrived := by
  obtain ⟨acked, arrived, abreast⟩ := abreast
  cases event with
  | send dx dy dz => exact ⟨acked, arrived, abreastSend abreast dx dy dz⟩
  | refuse => exact ⟨acked, abreastRefuse abreast⟩
  | reach => exact ⟨acked, abreastReach abreast⟩
  | other queueCall => exact ⟨acked, arrived, abreastOther abreast queueCall⟩
  | applyFrame taken => exact ⟨acked, arrived, abreastFrame abreast taken⟩
  | acknowledge ack => exact ⟨acked, arrived, abreastAcknowledge abreast ack⟩
  | deliver snapshot =>
    obtain ⟨acked, abreast⟩ := abreastDeliver abreast snapshot
    exact ⟨acked, arrived, abreast⟩

omit [PredictionOps F] in
theorem abreastStart (predictor : LocalMovementPredictor F) (empty : predictor.pending = []) :
    Abreast sessionId { predictor := predictor } 0 0 := by
  constructor <;> simp [numbers, empty, accepted, numbersOf]

variable (sessionId) in
theorem windowsAgree (x y z : F) (events : List (WindowEvent F)) :
    Along (windowStep sessionId) (Agrees sessionId) { predictor := .reset x y z } events := by
  have invariant (before : List (WindowEvent F)) : ∃ acked arrived, Abreast sessionId
      (run (windowStep sessionId) { predictor := .reset x y z } before) acked arrived :=
    List.foldlRecOn (motive := fun w => ∃ acked arrived, Abreast sessionId w acked arrived) _ _
      ⟨0, 0, abreastStart _ rfl⟩ (fun w abreast event _ => abreastStep abreast event)
  intro before event after _
  obtain ⟨acked, arrived, abreast⟩ := invariant before
  cases event with
  | reach => exact fun move head => agreesAdmit abreast head
  | send dx dy dz => trivial
  | refuse => trivial
  | other queueCall => trivial
  | applyFrame taken => trivial
  | acknowledge ack => trivial
  | deliver snapshot => trivial

end

end SeedOrigin.PredictionWindow
