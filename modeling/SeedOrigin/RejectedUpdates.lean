import SeedOrigin.ReceiverBatches
import SeedOrigin.ReceiverSequence

/-! What a rejected update leaves behind. The stream moves on before the queue is
looked at for room and before an acknowledgement is read, so an update refused
there counts as seen and is passed over when it comes again. -/
namespace SeedOrigin.RejectedUpdates
open SeedOrigin.Octets SeedOrigin.Framing SeedOrigin.Inputs SeedOrigin.Accumulation SeedOrigin.UpdateWire
open SeedOrigin.HazardClient SeedOrigin.Prediction SeedOrigin.MovementFields SeedOrigin.SnapshotParser
open SeedOrigin.Receiver SeedOrigin.ReceiverSequence SeedOrigin.ReceiverBatches SeedOrigin.Runs

section
variable {F : Type} [PredictionOps F]

def Completes (receiver : ClientWorldUpdateReceiver F) (bytes : Bytes) (update : WorldUpdate) : Prop :=
  ∃ accumulator, append worldUpdateAccumulator receiver.accumulator bytes =
    (accumulator, [update], .ok ())

structure Undone (before after : ClientWorldUpdateReceiver F) : Prop where
  environment : after.environmentState = before.environmentState
  hazardQueue : after.hazardQueue = before.hazardQueue
  predictor : after.predictor = before.predictor
  remotes : after.remotes = before.remotes
  expected : after.expected = before.expected

def relieved (limit : Nat) (receiver : ClientWorldUpdateReceiver F) : ClientWorldUpdateReceiver F :=
  { receiver with
    accumulator := {}
    hazardQueue := (receiver.hazardQueue.drain limit).1
    decision := .noData }

def Retries (before after : ClientWorldUpdateReceiver F) (update : WorldUpdate) : Prop :=
  ∀ limit, deliverOne (relieved limit after) update = deliverOne (relieved limit before) update

def NothingLost (receiver : ClientWorldUpdateReceiver F) (bytes : Bytes) (update : WorldUpdate) : Prop :=
  (receiver.receive bytes).1.decision = .rejected →
    Undone receiver (receiver.receive bytes).1 ∧ Retries receiver (receiver.receive bytes).1 update

def Forgotten (after : ClientWorldUpdateReceiver F) (update : WorldUpdate) : Prop :=
  ∀ limit, deliverOne (relieved limit after) update = { relieved limit after with decision := .applied }

structure Continues (queue : ClientHazardEffectQueue F) (update : WorldUpdate) : Prop where
  event : update.kind = .event
  numbered : update.eventId ≠ 0
  valid : ValidUpdate update
  left : update.sequence ≠ maxUint64
  expected : update.sequence = queue.sync.tracker.expectedSequence

def Unusable (receiver : ClientWorldUpdateReceiver F) (update : WorldUpdate) : Prop :=
  (update.payload.take 12 = ascii "etherHazard=" ∧
    (∃ hazard : F × F, parseHazard update.payload = .ok hazard) ∧
    maxHazardEffects ≤ receiver.hazardQueue.effects.length) ∨
  (update.payload.take 12 = ascii "movementAck=" ∧
    ∃ e, parseMovementAck (F := F) update.payload = .error e)

def Strands (receiver : ClientWorldUpdateReceiver F) (update : WorldUpdate) : Prop :=
  receiver.needsSnapshot = false ∧ Continues receiver.hazardQueue update ∧ Unusable receiver update

def Agreed (receiver : ClientWorldUpdateReceiver F) : Prop :=
  receiver.needsSnapshot = false →
    receiver.expected = receiver.hazardQueue.sync.tracker.expectedSequence

theorem agreedUpdate {receiver : ClientWorldUpdateReceiver F} (agreed : Agreed receiver)
    (update : WorldUpdate) : Agreed (applyUpdate receiver update).1 := by
  unfold applyUpdate
  cases update.kind with
  | unknown code => exact agreed
  | snapshot =>
    dsimp only
    split
    · exact agreed
    · exact fun _ => rfl
  | event =>
    dsimp only
    split
    · exact agreed
    · rename_i ready
      have passed := eventPassed (Bool.not_eq_true _ ▸ ready) update
      cases made : applyEvent receiver update with
      | mk after result =>
        rw [made] at passed
        have same : after.expected = after.hazardQueue.sync.tracker.expectedSequence := by
          rw [passed.expected, passed.hazardQueue]
        cases result <;> exact fun _ => same

theorem agreedUpdates {receiver : ClientWorldUpdateReceiver F} (agreed : Agreed receiver)
    (updates : List WorldUpdate) : Agreed (applyUpdates receiver updates).1 := by
  induction updates generalizing receiver with
  | nil => exact agreed
  | cons update updates ih =>
    have next := agreedUpdate agreed update
    unfold applyUpdates
    cases made : applyUpdate receiver update with
    | mk after outcome =>
      rw [made] at next
      cases outcome with
      | error e => exact next
      | ok count => exact ih next

theorem agreedCall {receiver : ClientWorldUpdateReceiver F} (agreed : Agreed receiver)
    (call : ReceiverCall F) : Agreed (callReceiver receiver call) := by
  cases call with
  | bindLocalSession sessionId => exact agreed
  | predict clientInputSequence dx dy dz => exact agreed
  | beginReconnect => exact nofun
  | receive bytes =>
    obtain ⟨accumulator, updates, decision, -, reached⟩ := visitsShape receiver bytes
    have ready : Agreed { receiver with accumulator := accumulator, decision := .noData } := agreed
    have last := agreedUpdates ready updates
    rw [reached]
    exact last

theorem agreedRun {receiver : ClientWorldUpdateReceiver F} (agreed : Agreed receiver)
    (calls : List (ReceiverCall F)) : Agreed (run callReceiver receiver calls) := by
  induction calls generalizing receiver with
  | nil => exact agreed
  | cons call calls ih => exact ih (agreedCall agreed call)

def passed (receiver : ClientWorldUpdateReceiver F) (update : WorldUpdate) :
    ClientWorldUpdateReceiver F :=
  { receiver with
    hazardQueue := { receiver.hazardQueue with sync := ⟨⟨true, update.sequence + 1⟩⟩ }
    expected := update.sequence + 1 }

section
variable {queue : ClientHazardEffectQueue F} {update : WorldUpdate}

omit [PredictionOps F] in
theorem acceptsNext (continues : Continues queue update) :
    queue.sync.receive update = (⟨⟨true, update.sequence + 1⟩⟩, .apply) := by
  unfold WorldUpdateSyncController.receive
  rw [acceptExpected continues.valid continues.left continues.expected.symm]

omit [PredictionOps F] in
theorem observesNext (continues : Continues queue update) : queue.observeEvent update =
    ({ queue with sync := ⟨⟨true, update.sequence + 1⟩⟩ }, .applied, "") := by
  have valid : validateWorldUpdate update = .ok () := continues.valid
  unfold ClientHazardEffectQueue.observeEvent
  rw [if_neg (by simp [continues.event, continues.numbered]), valid, acceptsNext continues]

theorem ingestsFull {hazard : F × F} (continues : Continues queue update)
    (parsed : parseHazard update.payload = .ok hazard)
    (full : maxHazardEffects ≤ queue.effects.length) :
    queue.ingest update = ({ queue with sync := ⟨⟨true, update.sequence + 1⟩⟩ }, .backpressure,
      "hazard effect queue is full") := by
  have valid : validateWorldUpdate update = .ok () := continues.valid
  unfold ClientHazardEffectQueue.ingest
  rw [if_neg (by simp [continues.event, continues.numbered]), valid, parsed]
  dsimp only
  rw [acceptsNext continues]
  dsimp only
  rw [if_pos full]

theorem takenValid (taken : (takeEvent queue update).2.1 ≠ .rejected) :
    update.kind = .event ∧ update.eventId ≠ 0 ∧ ValidUpdate update ∧
      (update.payload.take 12 = ascii "etherHazard=" →
        ∃ hazard : F × F, parseHazard update.payload = .ok hazard) := by
  have known (event : ¬ (update.kind ≠ .event ∨ update.eventId = 0)) :
      update.kind = .event ∧ update.eventId ≠ 0 :=
    ⟨not_not.mp (fun other => event (.inl other)), fun none => event (.inr none)⟩
  unfold takeEvent at taken
  split at taken
  · unfold ClientHazardEffectQueue.ingest at taken
    split at taken
    · exact absurd rfl taken
    · rename_i event
      split at taken
      · exact absurd rfl taken
      · rename_i valid
        split at taken
        · exact absurd rfl taken
        · rename_i parsed
          exact ⟨(known event).1, (known event).2, valid, fun _ => ⟨_, parsed⟩⟩
  · rename_i other
    unfold ClientHazardEffectQueue.observeEvent at taken
    split at taken
    · exact absurd rfl taken
    · rename_i event
      split at taken
      · exact absurd rfl taken
      · rename_i valid
        exact ⟨(known event).1, (known event).2, valid, fun hazard => absurd hazard other⟩

theorem takenNext (taken : (takeEvent queue update).2.1 = .applied ∨
    (takeEvent queue update).2.1 = .backpressure) : Continues queue update := by
  obtain ⟨-, other, full⟩ | ⟨left, expected, -, -⟩ := takenCounts queue update
  · obtain applied | none := taken
    · exact absurd applied other
    · exact absurd none full
  · have refused : (takeEvent queue update).2.1 ≠ .rejected := by
      obtain applied | none := taken
      · rw [applied]
        exact nofun
      · rw [none]
        exact nofun
    obtain ⟨event, numbered, valid, -⟩ := takenValid refused
    exact ⟨event, numbered, valid, left, expected⟩

theorem takenFull (taken : (takeEvent queue update).2.1 = .backpressure) :
    update.payload.take 12 = ascii "etherHazard=" ∧ maxHazardEffects ≤ queue.effects.length := by
  unfold takeEvent at taken
  split at taken
  · rename_i hazard
    refine ⟨hazard, ?_⟩
    unfold ClientHazardEffectQueue.ingest at taken
    split at taken
    · cases taken
    · split at taken
      · cases taken
      · split at taken
        · cases taken
        · dsimp only at taken
          split at taken
          · cases taken
          · cases taken
          · cases taken
          · split at taken
            · rename_i full
              exact full
            · cases taken
  · unfold ClientHazardEffectQueue.observeEvent at taken
    split at taken
    · cases taken
    · split at taken
      · cases taken
      · dsimp only at taken
        split at taken <;> cases taken

theorem passedIgnores (continues : Continues queue update)
    (reads : update.payload.take 12 = ascii "etherHazard=" →
      ∃ hazard : F × F, parseHazard update.payload = .ok hazard)
    {behind : ClientHazardEffectQueue F} (past : behind.sync = ⟨⟨true, update.sequence + 1⟩⟩) :
    takeEvent behind update = (behind, .ignoredDuplicate, "") := by
  have valid : validateWorldUpdate update = .ok () := continues.valid
  have below : update.sequence < update.sequence + 1 := by
    rw [UInt64.lt_iff_toNat_lt, successor continues.left]
    exact Nat.lt_succ_self _
  have seen : behind.sync.receive update = (behind.sync, .ignoreDuplicate) := by
    rw [past]
    unfold WorldUpdateSyncController.receive WorldUpdateSequenceTracker.accept
    rw [valid]
    dsimp only
    rw [if_neg continues.left, if_neg (by simp), if_pos below]
  unfold takeEvent
  split
  · rename_i header
    obtain ⟨hazard, parsed⟩ := reads header
    unfold ClientHazardEffectQueue.ingest
    rw [if_neg (by simp [continues.event, continues.numbered]), valid, parsed]
    dsimp only
    rw [seen]
  · unfold ClientHazardEffectQueue.observeEvent
    rw [if_neg (by simp [continues.event, continues.numbered]), valid]
    dsimp only
    rw [seen]

end

section
variable {receiver : ClientWorldUpdateReceiver F} {update : WorldUpdate}

theorem strandedStops (strands : Strands receiver update) :
    ∃ e, applyUpdate receiver update = (rejectUpdate (passed receiver update), .error e) := by
  obtain ⟨ready, continues, unusable⟩ := strands
  have next : ¬ receiver.needsSnapshot = true := ne_true_of_eq_false ready
  unfold applyUpdate
  rw [continues.event]
  dsimp only
  rw [if_neg next]
  unfold applyEvent
  rw [if_neg next]
  obtain ⟨header, ⟨hazard, parsed⟩, full⟩ | ⟨header, e, refused⟩ := unusable
  · refine ⟨"hazard effect queue is full", ?_⟩
    unfold takeEvent
    rw [if_pos header, ingestsFull continues parsed full]
    rfl
  · refine ⟨e, ?_⟩
    have other : update.payload.take 12 ≠ ascii "etherHazard=" := by
      rw [header]
      decide
    unfold takeEvent
    rw [if_neg other, observesNext continues]
    dsimp only
    unfold readMovement
    rw [if_pos header, refused]
    rfl

theorem strandedForgotten (strands : Strands receiver update) :
    Forgotten (rejectUpdate (passed receiver update)) update := by
  obtain ⟨ready, continues, unusable⟩ := strands
  have reads (header : update.payload.take 12 = ascii "etherHazard=") :
      ∃ hazard : F × F, parseHazard update.payload = .ok hazard := by
    obtain ⟨-, parsed, -⟩ | ⟨other, -⟩ := unusable
    · exact parsed
    · rw [header] at other
      exact absurd other (by decide)
  intro limit
  let behind := relieved limit (rejectUpdate (passed receiver update))
  have ignored : takeEvent behind.hazardQueue update = (behind.hazardQueue, .ignoredDuplicate, "") :=
    passedIgnores continues reads rfl
  have inStep : ¬ (undecided behind).needsSnapshot = true := ne_true_of_eq_false ready
  have queue : (undecided behind).hazardQueue = behind.hazardQueue := rfl
  have same : applyUpdate (undecided behind) update = (behind, .ok 1) := by
    unfold applyUpdate
    rw [continues.event]
    dsimp only
    rw [if_neg inStep]
    unfold applyEvent
    rw [if_neg inStep, queue, ignored]
    rfl
  change deliverOne behind update = { behind with decision := .applied }
  unfold deliverOne
  rw [deliverSettles rfl (List.forall_mem_singleton.mpr continues.valid) (oneFits continues.valid),
    if_neg (List.cons_ne_nil _ _)]
  unfold applyUpdates applyUpdates
  rw [same]
  unfold settle
  dsimp only
  exact if_neg (ne_true_of_eq_false ready)

theorem rejectedStops (agreed : Agreed receiver) {after : ClientWorldUpdateReceiver F} {e : String}
    (stops : applyUpdate receiver update = (after, .error e)) (rejected : after.decision = .rejected) :
    Strands receiver update ∨ after = rejectUpdate receiver := by
  unfold applyUpdate at stops
  split at stops
  · split at stops <;> cases stops
    exact .inr rfl
  · split at stops
    · cases stops
    · rename_i awaits
      have ready : receiver.needsSnapshot = false := Bool.not_eq_true _ ▸ awaits
      split at stops <;> cases stops
      rename_i made
      unfold applyEvent at made
      rw [if_neg awaits] at made
      have counts := takenCounts receiver.hazardQueue update
      have next := @takenNext F _ receiver.hazardQueue update
      have valid := @takenValid F _ receiver.hazardQueue update
      have full := @takenFull F _ receiver.hazardQueue update
      cases taken : takeEvent receiver.hazardQueue update with
      | mk hazardQueue outcome =>
        obtain ⟨result, error⟩ := outcome
        rw [taken] at made counts next valid full
        cases result with
        | requestSnapshot =>
          cases made
          contradiction
        | ignoredDuplicate => cases made
        | rejected =>
          cases made
          obtain ⟨same, -⟩ | ⟨-, -, -, bad | ⟨bad, -⟩⟩ := counts
          · dsimp only at same
            subst same
            right
            rw [← agreed ready]
          · cases bad
          · cases bad
        | backpressure =>
          obtain ⟨header, large⟩ := full rfl
          obtain ⟨-, -, -, reads⟩ := valid nofun
          exact .inl ⟨ready, next (.inr rfl), .inl ⟨header, reads header, large⟩⟩
        | applied =>
          dsimp only at made
          unfold readMovement at made
          split at made
          · rename_i header
            split at made <;> cases made
            rename_i refused
            exact .inl ⟨ready, next (.inl rfl), .inr ⟨header, _, refused⟩⟩
          · dsimp only at made
            split at made <;> cases made
  · cases stops
    exact .inr rfl

theorem strandedReceived {bytes : Bytes} (completes : Completes receiver bytes update)
    (strands : Strands receiver update) : ∃ accumulator, (receiver.receive bytes).1 =
      rejectUpdate (passed { receiver with accumulator := accumulator } update) := by
  obtain ⟨accumulator, taken⟩ := completes
  have here : Strands { receiver with accumulator := accumulator, decision := .noData } update := strands
  obtain ⟨e, stops⟩ := strandedStops here
  refine ⟨accumulator, ?_⟩
  rw [receiveSettles taken, if_neg (List.cons_ne_nil _ _)]
  unfold applyUpdates
  rw [stops]
  rfl

theorem receivedForgotten {bytes : Bytes} (completes : Completes receiver bytes update)
    (strands : Strands receiver update) : Forgotten (receiver.receive bytes).1 update := by
  obtain ⟨accumulator, after⟩ := strandedReceived completes strands
  have forgotten : Forgotten (rejectUpdate (passed receiver update)) update :=
    strandedForgotten strands
  rw [after]
  exact forgotten

omit [PredictionOps F] in
theorem drainedAll {limit : Nat} (room : receiver.hazardQueue.effects.length ≤ limit) :
    (relieved limit receiver).hazardQueue.effects = [] := List.drop_eq_nil_iff.mpr room

theorem rejectedReceived (agreed : Agreed receiver) {bytes : Bytes}
    (completes : Completes receiver bytes update)
    (rejected : (receiver.receive bytes).1.decision = .rejected) :
    Strands receiver update ∨ ∃ accumulator, (receiver.receive bytes).1 =
      rejectUpdate { receiver with accumulator := accumulator } := by
  obtain ⟨accumulator, taken⟩ := completes
  have here : Agreed { receiver with accumulator := accumulator, decision := .noData } := agreed
  rw [receiveSettles taken, if_neg (List.cons_ne_nil _ _)] at rejected ⊢
  unfold applyUpdates at rejected ⊢
  cases made : applyUpdate { receiver with accumulator := accumulator, decision := .noData } update with
  | mk after outcome =>
    rw [made] at rejected
    cases outcome with
    | ok count =>
      unfold applyUpdates settle at rejected
      dsimp only at rejected
      split at rejected <;> cases rejected
    | error e =>
      obtain strands | same := rejectedStops here made rejected
      · exact .inl strands
      · exact .inr ⟨accumulator, same⟩

end

theorem rejectedExact (calls : List (ReceiverCall F)) {bytes : Bytes} {update : WorldUpdate}
    (completes : Completes (run callReceiver .initial calls) bytes update) :
    (NothingLost (run callReceiver .initial calls) bytes update ↔
      ¬ Strands (run callReceiver .initial calls) update) ∧
    (Strands (run callReceiver .initial calls) update →
      Forgotten ((run callReceiver .initial calls).receive bytes).1 update) := by
  have agreed : Agreed (run callReceiver (.initial : ClientWorldUpdateReceiver F) calls) :=
    agreedRun (fun _ => rfl) calls
  generalize run callReceiver (.initial : ClientWorldUpdateReceiver F) calls = receiver at *
  refine ⟨⟨fun nothing strands => ?_, fun kept rejected => ?_⟩, receivedForgotten completes⟩
  · obtain ⟨accumulator, after⟩ := strandedReceived completes strands
    unfold NothingLost at nothing
    rw [after] at nothing
    obtain ⟨undone, -⟩ := nothing rfl
    have same : update.sequence + 1 = receiver.hazardQueue.sync.tracker.expectedSequence :=
      congrArg (fun queue => queue.sync.tracker.expectedSequence) undone.hazardQueue
    have moved := successor strands.2.1.left
    rw [same, ← strands.2.1.expected] at moved
    omega
  · obtain strands | ⟨accumulator, after⟩ := rejectedReceived agreed completes rejected
    · exact absurd strands kept
    · rw [after]
      exact ⟨⟨rfl, rfl, rfl, rfl, rfl⟩, fun _ => rfl⟩

end

-- An acknowledgement without fields, as the first event of the stream.
def unreadableAck : WorldUpdate :=
  ⟨currentProtocolVersion, .event, 1, 1, 1, ascii "movementAck=?"⟩

def fresh : ClientWorldUpdateReceiver ℚ := .initial

theorem ackForgotten :
    ¬ NothingLost fresh (updateBytes unreadableAck) unreadableAck ∧
      Forgotten (fresh.receive (updateBytes unreadableAck)).1 unreadableAck := by
  have completes : Completes fresh (updateBytes unreadableAck) unreadableAck := by
    refine ⟨{}, ?_⟩
    decide +kernel
  have strands : Strands fresh unreadableAck := by
    refine ⟨rfl, ⟨rfl, by decide, by decide, by decide, rfl⟩, .inr ⟨by decide, ?_⟩⟩
    exact ⟨"movement ack contains invalid fields", by decide +kernel⟩
  have exact := rejectedExact [] completes
  exact ⟨fun kept => exact.1.mp kept strands, exact.2 strands⟩

def hazardText : Bytes := ascii "etherHazard=severity:2;instability:3"

def hazardNumber (n : Nat) : WorldUpdate :=
  ⟨currentProtocolVersion, .event, 1, UInt64.ofNat n, UInt64.ofNat n, hazardText⟩

def hazardReads (n : Nat) : List (ReceiverCall ℚ) :=
  (List.range n).map (fun i => .receive (updateBytes (hazardNumber (i + 1))))

def crowded : ClientWorldUpdateReceiver ℚ := run callReceiver .initial (hazardReads maxHazardEffects)

structure Filled (n : Nat) (receiver : ClientWorldUpdateReceiver ℚ) : Prop where
  clean : receiver.accumulator = {}
  inStep : receiver.needsSnapshot = false
  effects : receiver.hazardQueue.effects.length = n
  expected : receiver.hazardQueue.sync.tracker.expectedSequence = UInt64.ofNat (n + 1)

theorem hazardContinues {n : Nat} (small : n ≤ maxHazardEffects) {receiver : ClientWorldUpdateReceiver ℚ}
    (filled : Filled n receiver) : Continues receiver.hazardQueue (hazardNumber (n + 1)) := by
  have value : (UInt64.ofNat (n + 1)).toNat = n + 1 := by
    rw [UInt64.toNat_ofNat']
    have bound : maxHazardEffects = 256 := rfl
    omega
  have positive : UInt64.ofNat (n + 1) ≠ 0 := by
    rw [Ne, ← UInt64.toNat_inj, value]
    exact Nat.succ_ne_zero n
  refine ⟨rfl, positive, ?_, ?_, filled.expected.symm⟩
  · have short : ¬ hazardText.length > maxUpdatePayload := by decide
    unfold ValidUpdate validateWorldUpdate hazardNumber
    dsimp only
    rw [if_neg (not_not.mpr rfl), if_neg (by decide), if_neg positive, if_neg short,
      if_neg (by rintro ⟨bad, -⟩; cases bad), if_neg (fun bad => positive bad.2)]
  · rw [Ne, ← UInt64.toNat_inj]
    change (UInt64.ofNat (n + 1)).toNat ≠ _
    have bound : maxHazardEffects = 256 := rfl
    have top : maxUint64.toNat = 2 ^ 64 - 1 := rfl
    rw [value, top]
    omega

theorem hazardFills {n : Nat} (small : n < maxHazardEffects) {receiver : ClientWorldUpdateReceiver ℚ}
    (filled : Filled n receiver) : Filled (n + 1) (deliverOne receiver (hazardNumber (n + 1))) := by
  have continues := hazardContinues small.le filled
  have ready : receiver.hazardQueue.Ready (hazardNumber (n + 1)) :=
    ⟨continues.expected.symm, by rw [filled.effects]; exact small⟩
  have payload : (hazardNumber (n + 1)).payload = hazardText := rfl
  have parsed : parseHazard (F := ℚ) hazardText = .ok (2, 3) := by decide +kernel
  have taken : takeEvent receiver.hazardQueue (hazardNumber (n + 1)) =
      (receiver.hazardQueue.taking (hazardNumber (n + 1)) 2 3, .applied, "") := by
    unfold takeEvent
    rw [ingestReady ready continues.event continues.numbered continues.valid continues.left, payload,
      if_pos (by decide), parsed]
  have applies : applyUpdate receiver (hazardNumber (n + 1)) =
      ({ receiver with
          hazardQueue := receiver.hazardQueue.taking (hazardNumber (n + 1)) 2 3
          expected := (hazardNumber (n + 1)).sequence + 1 }, .ok 1) := by
    have unattached : tryParseAttachedMovementAck (F := ℚ) hazardText = none := by decide +kernel
    have still : tryParsePublicMovementPose (F := ℚ) hazardText = none := by decide +kernel
    unfold applyUpdate
    rw [continues.event]
    dsimp only
    rw [if_neg (ne_true_of_eq_false filled.inStep)]
    unfold applyEvent
    rw [if_neg (ne_true_of_eq_false filled.inStep), taken]
    dsimp only
    unfold readMovement
    rw [payload, if_neg (by decide), unattached, still]
    rfl
  obtain ⟨alike, clean⟩ := deliverOneApplies filled.clean continues.valid
  rw [applies] at alike
  have queue := congrArg ClientWorldUpdateReceiver.hazardQueue alike
  change (deliverOne receiver (hazardNumber (n + 1))).hazardQueue =
    receiver.hazardQueue.taking (hazardNumber (n + 1)) 2 3 at queue
  refine ⟨clean, (congrArg ClientWorldUpdateReceiver.needsSnapshot alike).trans filled.inStep, ?_, ?_⟩
  · rw [queue, ClientHazardEffectQueue.taking, List.length_append, filled.effects]
    rfl
  · rw [queue]
    change UInt64.ofNat (n + 1) + 1 = UInt64.ofNat (n + 1 + 1)
    exact (UInt64.ofNat_add (n + 1) 1).symm

theorem hazardsFill {n : Nat} (small : n ≤ maxHazardEffects) :
    Filled n (run callReceiver .initial (hazardReads n)) := by
  induction n with
  | zero => exact ⟨rfl, rfl, rfl, rfl⟩
  | succ n ih =>
    have filled := hazardFills (Nat.lt_of_succ_le small) (ih (Nat.le_of_succ_le small))
    have more : hazardReads (n + 1) =
        hazardReads n ++ [.receive (updateBytes (hazardNumber (n + 1)))] := by
      unfold hazardReads
      rw [List.range_succ, List.map_append]
      rfl
    rw [more, runAppend]
    unfold deliverOne deliver joined at filled
    rw [List.flatMap_cons, List.flatMap_nil, List.append_nil] at filled
    exact filled

def Loses (receiver : ClientWorldUpdateReceiver ℚ) : Prop :=
  let hazard := hazardNumber 257
  let after := (receiver.receive (updateBytes hazard)).1
  Completes receiver (updateBytes hazard) hazard ∧ after.decision = .rejected ∧
    receiver.expected = 257 ∧ after.expected = 258 ∧
    (deliverOne (relieved maxHazardEffects after) hazard).hazardQueue.effects = [] ∧
    ¬ NothingLost receiver (updateBytes hazard) hazard

theorem filledLoses {receiver : ClientWorldUpdateReceiver ℚ} (filled : Filled maxHazardEffects receiver)
    (shown : receiver.expected = 257) : Loses receiver := by
  have completes : Completes receiver (updateBytes (hazardNumber 257)) (hazardNumber 257) := by
    refine ⟨{}, ?_⟩
    rw [filled.clean]
    decide +kernel
  have strands : Strands receiver (hazardNumber 257) := by
    refine ⟨filled.inStep, hazardContinues (Nat.le_refl _) filled, .inl ⟨by decide, ?_, ?_⟩⟩
    · exact ⟨(2, 3), by decide +kernel⟩
    · rw [filled.effects]
  obtain ⟨accumulator, received⟩ := strandedReceived completes strands
  have rejected : (receiver.receive (updateBytes (hazardNumber 257))).1.decision = .rejected := by
    rw [received]
    rfl
  have moved : (receiver.receive (updateBytes (hazardNumber 257))).1.expected = 258 := by
    rw [received]
    rfl
  have same : (receiver.receive (updateBytes (hazardNumber 257))).1.hazardQueue.effects =
      receiver.hazardQueue.effects := by
    rw [received]
    rfl
  refine ⟨completes, rejected, shown, moved, ?_, fun nothing => ?_⟩
  · rw [receivedForgotten completes strands maxHazardEffects]
    refine drainedAll ?_
    rw [same, filled.effects]
  · have kept := (nothing rejected).1.expected
    rw [moved, shown] at kept
    exact absurd kept (by decide)

theorem hazardForgotten : Loses crowded := by
  have filled : Filled maxHazardEffects crowded := hazardsFill (Nat.le_refl _)
  have agreed : Agreed crowded := agreedRun (fun _ => rfl) (hazardReads maxHazardEffects)
  refine filledLoses filled ?_
  rw [agreed filled.inStep, filled.expected]
  decide

end SeedOrigin.RejectedUpdates
