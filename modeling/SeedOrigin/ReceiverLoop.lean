import SeedOrigin.Receiver

/-! The receiver's loop over the updates of one call: what it does not look at, and
the update that stops it, if one does. -/
namespace SeedOrigin.ReceiverLoop
open SeedOrigin.Octets SeedOrigin.Inputs SeedOrigin.Accumulation SeedOrigin.UpdateWire
open SeedOrigin.HazardClient SeedOrigin.Prediction SeedOrigin.ClientInput
open SeedOrigin.MovementFields SeedOrigin.SnapshotParser SeedOrigin.Receiver

section
variable {F : Type} [PredictionOps F]

-- What the loop reads: neither the buffered bytes nor the decision.
def core (receiver : ClientWorldUpdateReceiver F) : ClientWorldUpdateReceiver F :=
  { receiver with accumulator := {}, decision := .noData }

def RevealsGap (receiver : ClientWorldUpdateReceiver F) (update : WorldUpdate) : Prop :=
  update.kind = .event ∧ receiver.needsSnapshot = false ∧
    (takeEvent receiver.hazardQueue update).2.1 = .requestSnapshot

instance (receiver : ClientWorldUpdateReceiver F) (update) : Decidable (RevealsGap receiver update) := by
  unfold RevealsGap; infer_instance

variable (F) in
def UnreadableAck (payload : Bytes) : Prop :=
  payload.take 12 = ascii "movementAck=" ∧ ∃ e, parseMovementAck (F := F) payload = .error e

-- While a snapshot is awaited no event is looked at, and none refused.
def Refuses (receiver : ClientWorldUpdateReceiver F) (update : WorldUpdate) : Prop :=
  match update.kind with
  | .snapshot => ∃ e, applySnapshot (F := F) update = .error e
  | .event => receiver.needsSnapshot = false ∧
      ((takeEvent receiver.hazardQueue update).2.1 = .rejected ∨
        (takeEvent receiver.hazardQueue update).2.1 = .backpressure ∨
        ((takeEvent receiver.hazardQueue update).2.1 = .applied ∧ UnreadableAck F update.payload))
  | .unknown _ => True

def Meets (P : ClientWorldUpdateReceiver F → WorldUpdate → Prop)
    (receiver : ClientWorldUpdateReceiver F) (updates : List WorldUpdate) : Prop :=
  ∃ before update after, updates = before ++ update :: after ∧
    (applyUpdates receiver before).2.2 = .ok () ∧ P (applyUpdates receiver before).1 update

variable {receiver : ClientWorldUpdateReceiver F} {update : WorldUpdate} {updates : List WorldUpdate}
  {P : ClientWorldUpdateReceiver F → WorldUpdate → Prop}

theorem reconcileCore (receiver : ClientWorldUpdateReceiver F) (ack : MovementAck F) :
    reconcileOwn (core receiver) ack = core (reconcileOwn receiver ack) := by
  unfold reconcileOwn
  change (if receiver.localSessionId > 0 ∧ ack.sessionId = receiver.localSessionId then _ else _) = _
  split <;> rfl

theorem remoteCore (receiver : ClientWorldUpdateReceiver F) (pose : PublicMovementPose F) :
    moveRemote (core receiver) pose = core (moveRemote receiver pose) := by
  unfold moveRemote
  change (if receiver.localSessionId ≤ 0 ∨ pose.sessionId ≠ receiver.localSessionId then _ else _) = _
  split <;> rfl

theorem movementCore (receiver : ClientWorldUpdateReceiver F) (payload : Bytes) :
    core (readMovement (core receiver) payload).1 = core (readMovement receiver payload).1 ∧
      (readMovement (core receiver) payload).2 = (readMovement receiver payload).2 := by
  unfold readMovement
  split
  · cases parseMovementAck (F := F) payload with
    | error e => exact ⟨rfl, rfl⟩
    | ok ack =>
      dsimp only
      rw [reconcileCore]
      exact ⟨rfl, rfl⟩
  · dsimp only
    cases tryParseAttachedMovementAck (F := F) payload with
    | none =>
      cases tryParsePublicMovementPose (F := F) payload with
      | none => exact ⟨rfl, rfl⟩
      | some pose =>
        dsimp only
        rw [remoteCore]
        exact ⟨rfl, rfl⟩
    | some ack =>
      cases tryParsePublicMovementPose (F := F) payload with
      | none =>
        dsimp only
        rw [reconcileCore]
        exact ⟨rfl, rfl⟩
      | some pose =>
        dsimp only
        rw [reconcileCore, remoteCore]
        exact ⟨rfl, rfl⟩

theorem eventCore (receiver : ClientWorldUpdateReceiver F) (update : WorldUpdate) :
    core (applyEvent (core receiver) update).1 = core (applyEvent receiver update).1 ∧
      (applyEvent (core receiver) update).2 = (applyEvent receiver update).2 := by
  have flag : (core receiver).needsSnapshot = receiver.needsSnapshot := rfl
  have queue : (core receiver).hazardQueue = receiver.hazardQueue := rfl
  unfold applyEvent
  rw [flag, queue]
  split
  · exact ⟨rfl, rfl⟩
  · cases takeEvent receiver.hazardQueue update with
    | mk hazardQueue outcome =>
      obtain ⟨result, error⟩ := outcome
      cases result with
      | applied => exact movementCore { receiver with
          hazardQueue := hazardQueue
          expected := hazardQueue.sync.tracker.expectedSequence } update.payload
      | ignoredDuplicate => exact ⟨rfl, rfl⟩
      | requestSnapshot => exact ⟨rfl, rfl⟩
      | rejected => exact ⟨rfl, rfl⟩
      | backpressure => exact ⟨rfl, rfl⟩

theorem updateCore (receiver : ClientWorldUpdateReceiver F) (update : WorldUpdate) :
    core (applyUpdate (core receiver) update).1 = core (applyUpdate receiver update).1 ∧
      (applyUpdate (core receiver) update).2 = (applyUpdate receiver update).2 := by
  have flag : (core receiver).needsSnapshot = receiver.needsSnapshot := rfl
  unfold applyUpdate
  cases update.kind with
  | unknown code => exact ⟨rfl, rfl⟩
  | snapshot =>
    dsimp only
    cases applySnapshot (F := F) update with
    | error e => exact ⟨rfl, rfl⟩
    | ok state => exact ⟨rfl, rfl⟩
  | event =>
    dsimp only
    rw [flag]
    split
    · exact ⟨rfl, rfl⟩
    · obtain ⟨after, result⟩ := eventCore receiver update
      cases left : applyEvent (core receiver) update with
      | mk _ outcome =>
        cases right : applyEvent receiver update with
        | mk _ _ =>
          rw [left, right] at after result
          cases result
          cases outcome <;> exact ⟨after, rfl⟩

theorem updateMatching {a b : ClientWorldUpdateReceiver F} (matching : core a = core b)
    (update : WorldUpdate) : core (applyUpdate a update).1 = core (applyUpdate b update).1 ∧
      (applyUpdate a update).2 = (applyUpdate b update).2 := by
  obtain ⟨left, leftResult⟩ := updateCore a update
  obtain ⟨right, rightResult⟩ := updateCore b update
  rw [matching] at left leftResult
  exact ⟨left.symm.trans right, leftResult.symm.trans rightResult⟩

theorem updatesMatching {a b : ClientWorldUpdateReceiver F} (matching : core a = core b)
    (updates : List WorldUpdate) :
    core (applyUpdates a updates).1 = core (applyUpdates b updates).1 ∧
      (applyUpdates a updates).2.2 = (applyUpdates b updates).2.2 := by
  induction updates generalizing a b with
  | nil => exact ⟨matching, rfl⟩
  | cons update updates ih =>
    obtain ⟨after, result⟩ := updateMatching matching update
    unfold applyUpdates
    cases left : applyUpdate a update with
    | mk _ outcome =>
      cases right : applyUpdate b update with
      | mk _ _ =>
        rw [left, right] at after result
        cases result
        cases outcome with
        | error e => exact ⟨after, rfl⟩
        | ok count => exact ih after

theorem updateAccumulator (receiver : ClientWorldUpdateReceiver F) (update : WorldUpdate) :
    (applyUpdate receiver update).1.accumulator = receiver.accumulator := by
  have event : (applyEvent receiver update).1.accumulator = receiver.accumulator := by
    unfold applyEvent
    split
    · rfl
    · cases takeEvent receiver.hazardQueue update with
      | mk hazardQueue outcome =>
        obtain ⟨result, error⟩ := outcome
        cases result with
        | applied => exact (movementMoved _ _).accumulator
        | ignoredDuplicate => rfl
        | requestSnapshot => rfl
        | rejected => rfl
        | backpressure => rfl
  unfold applyUpdate
  cases update.kind with
  | unknown code => rfl
  | snapshot =>
    dsimp only
    split <;> rfl
  | event =>
    dsimp only
    split
    · rfl
    · split <;> rename_i made <;> rw [made] at event <;> exact event

theorem updatesAccumulator (receiver : ClientWorldUpdateReceiver F) (updates : List WorldUpdate) :
    (applyUpdates receiver updates).1.accumulator = receiver.accumulator := by
  induction updates generalizing receiver with
  | nil => rfl
  | cons update updates ih =>
    have first := updateAccumulator receiver update
    unfold applyUpdates
    cases made : applyUpdate receiver update with
    | mk after outcome =>
      rw [made] at first
      cases outcome with
      | error e => exact first
      | ok count => exact (ih after).trans first

theorem updatesAppend {after : ClientWorldUpdateReceiver F} {count : Nat}
    (made : applyUpdates receiver updates = (after, count, .ok ())) (more : List WorldUpdate) :
    (applyUpdates receiver (updates ++ more)).1 = (applyUpdates after more).1 ∧
      (applyUpdates receiver (updates ++ more)).2.2 = (applyUpdates after more).2.2 := by
  induction updates generalizing receiver count with
  | nil =>
    cases made
    exact ⟨rfl, rfl⟩
  | cons update updates ih =>
    rw [applyUpdates] at made
    rw [List.cons_append, applyUpdates]
    cases first : applyUpdate receiver update with
    | mk next outcome =>
      rw [first] at made
      cases outcome with
      | error e => cases made
      | ok n =>
        dsimp only at made ⊢
        cases later : applyUpdates next updates with
        | mk last rest =>
          rw [later] at made
          obtain ⟨total, result⟩ := rest
          cases made
          exact ih later

theorem updatesStopped {e : String} {after : ClientWorldUpdateReceiver F} {count : Nat}
    (made : applyUpdates receiver updates = (after, count, .error e)) (more : List WorldUpdate) :
    applyUpdates receiver (updates ++ more) = (after, count, .error e) := by
  induction updates generalizing receiver count with
  | nil => cases made
  | cons update updates ih =>
    rw [applyUpdates] at made
    rw [List.cons_append, applyUpdates]
    cases first : applyUpdate receiver update with
    | mk next outcome =>
      rw [first] at made
      cases outcome with
      | error e => exact made
      | ok n =>
        dsimp only at made ⊢
        cases later : applyUpdates next updates with
        | mk last rest =>
          rw [later] at made
          obtain ⟨total, result⟩ := rest
          cases made
          rw [ih later]

theorem meetsCons : Meets P receiver (update :: updates) ↔ P receiver update ∨
    ∃ after count, applyUpdate receiver update = (after, .ok count) ∧ Meets P after updates := by
  constructor
  · rintro ⟨before, other, rest, split, through, here⟩
    cases before with
    | nil =>
      cases split
      exact .inl here
    | cons first before =>
      cases split
      rw [applyUpdates] at through here
      cases made : applyUpdate receiver update with
      | mk after outcome =>
        rw [made] at through here
        cases outcome with
        | error e => cases through
        | ok count => exact .inr ⟨after, count, rfl, before, other, rest, rfl, through, here⟩
  · rintro (here | ⟨after, count, made, before, other, rest, rfl, through, here⟩)
    · exact ⟨[], update, updates, rfl, rfl, here⟩
    · refine ⟨update :: before, other, rest, rfl, ?_, ?_⟩
      · rw [applyUpdates, made]
        exact through
      · rw [applyUpdates, made]
        exact here

theorem meetsNone : ¬ Meets P receiver [] := by
  rintro ⟨before, update, after, split, -⟩
  simp at split

theorem meetsOne : Meets P receiver [update] ↔ P receiver update := by
  rw [meetsCons]
  constructor
  · rintro (here | ⟨after, count, -, later⟩)
    · exact here
    · exact absurd later meetsNone
  · exact .inl

theorem movementEnds (receiver : ClientWorldUpdateReceiver F) (payload : Bytes) :
    ((readMovement receiver payload).2 = .ok () ∧
      (readMovement receiver payload).1.decision = receiver.decision ∧
      ¬ UnreadableAck F payload) ∨
    ((∃ e, (readMovement receiver payload).2 = .error e) ∧
      (readMovement receiver payload).1.decision = .rejected ∧ UnreadableAck F payload) := by
  have own (receiver : ClientWorldUpdateReceiver F) (ack : MovementAck F) :
      (reconcileOwn receiver ack).decision = receiver.decision := by
    unfold reconcileOwn
    split <;> rfl
  have moved (receiver : ClientWorldUpdateReceiver F) (pose : PublicMovementPose F) :
      (moveRemote receiver pose).decision = receiver.decision := by
    unfold moveRemote
    split <;> rfl
  unfold readMovement
  split
  · rename_i header
    cases parsed : parseMovementAck (F := F) payload with
    | error e => exact .inr ⟨⟨e, rfl⟩, rfl, header, e, parsed⟩
    | ok ack =>
      refine .inl ⟨rfl, own receiver ack, ?_⟩
      rintro ⟨-, e, bad⟩
      rw [parsed] at bad
      cases bad
  · rename_i other
    have readable : ¬ UnreadableAck F payload := fun bad => other bad.1
    cases (tryParseAttachedMovementAck payload : Option (MovementAck F)) with
    | none =>
      dsimp only
      split
      · exact .inl ⟨rfl, rfl, readable⟩
      · exact .inl ⟨rfl, moved receiver _, readable⟩
    | some ack =>
      dsimp only
      split
      · exact .inl ⟨rfl, own receiver ack, readable⟩
      · exact .inl ⟨rfl, (moved _ _).trans (own receiver ack), readable⟩

inductive TurnEnd (receiver : ClientWorldUpdateReceiver F) (update : WorldUpdate) :
    ClientWorldUpdateReceiver F × Except String Nat → Prop where
  | goesOn {after count} (decision : after.decision = receiver.decision)
      (gap : ¬ RevealsGap receiver update) (refuses : ¬ Refuses receiver update) :
      TurnEnd receiver update (after, .ok count)
  | refused {after e} (rejected : after.decision = .rejected) (gap : ¬ RevealsGap receiver update)
      (refuses : Refuses receiver update) : TurnEnd receiver update (after, .error e)
  | requested {after e} (asked : after.decision = .requestSnapshot)
      (awaiting : after.needsSnapshot = true) (gap : RevealsGap receiver update)
      (refuses : ¬ Refuses receiver update) : TurnEnd receiver update (after, .error e)

theorem eventTurnEnds (kind : update.kind = .event) (ready : receiver.needsSnapshot = false) :
    TurnEnd receiver update (match applyEvent receiver update with
      | (after, .error e) => (after, .error e)
      | (after, .ok _) => (after, .ok 1)) := by
  have gapIff : RevealsGap receiver update ↔
      (takeEvent receiver.hazardQueue update).2.1 = .requestSnapshot :=
    ⟨fun gap => gap.2.2, fun asked => ⟨kind, ready, asked⟩⟩
  have refusesIff : Refuses receiver update ↔
      ((takeEvent receiver.hazardQueue update).2.1 = .rejected ∨
        (takeEvent receiver.hazardQueue update).2.1 = .backpressure ∨
        ((takeEvent receiver.hazardQueue update).2.1 = .applied ∧ UnreadableAck F update.payload)) := by
    unfold Refuses
    rw [kind]
    exact ⟨fun refuses => refuses.2, fun refuses => ⟨ready, refuses⟩⟩
  unfold applyEvent
  rw [if_neg (ne_true_of_eq_false ready)]
  cases taken : takeEvent receiver.hazardQueue update with
  | mk hazardQueue outcome =>
    obtain ⟨result, error⟩ := outcome
    rw [taken] at gapIff refusesIff
    cases result with
    | requestSnapshot => exact .requested rfl rfl (gapIff.mpr rfl) (by simp [refusesIff])
    | rejected => exact .refused rfl (by simp [gapIff]) (refusesIff.mpr (.inl rfl))
    | backpressure => exact .refused rfl (by simp [gapIff]) (refusesIff.mpr (.inr (.inl rfl)))
    | ignoredDuplicate => exact .goesOn rfl (by simp [gapIff]) (by simp [refusesIff])
    | applied =>
      let counted : ClientWorldUpdateReceiver F :=
        { receiver with
          hazardQueue := hazardQueue
          expected := hazardQueue.sync.tracker.expectedSequence }
      have ends := movementEnds counted update.payload
      change TurnEnd receiver update (match readMovement counted update.payload with
        | (after, .error e) => (after, .error e)
        | (after, .ok _) => (after, .ok 1))
      cases read : readMovement counted update.payload with
      | mk after outcome =>
        rw [read] at ends
        obtain ⟨rfl, decision, readable⟩ | ⟨⟨e, rfl⟩, decision, unread⟩ := ends
        · exact .goesOn decision (by simp [gapIff]) (by simpa [refusesIff] using readable)
        · exact .refused decision (by simp [gapIff]) (refusesIff.mpr (.inr (.inr ⟨rfl, unread⟩)))

theorem turnEnds (receiver : ClientWorldUpdateReceiver F) (update : WorldUpdate) :
    TurnEnd receiver update (applyUpdate receiver update) := by
  have noEvent (kind : update.kind ≠ .event) : ¬ RevealsGap receiver update :=
    fun gap => kind gap.1
  unfold applyUpdate
  cases kind : update.kind with
  | unknown code =>
    refine .refused rfl (noEvent (by rw [kind]; exact nofun)) ?_
    unfold Refuses
    rw [kind]
    trivial
  | snapshot =>
    have none := noEvent (by rw [kind]; exact nofun)
    dsimp only
    cases read : applySnapshot (F := F) update with
    | error e =>
      refine .refused rfl none ?_
      unfold Refuses
      rw [kind]
      exact ⟨e, read⟩
    | ok state =>
      refine .goesOn rfl none ?_
      unfold Refuses
      rw [kind]
      rintro ⟨e, bad⟩
      rw [read] at bad
      cases bad
  | event =>
    dsimp only
    by_cases awaiting : receiver.needsSnapshot = true
    · rw [if_pos awaiting]
      refine .goesOn rfl (fun gap => absurd gap.2.1 (ne_false_of_eq_true awaiting)) ?_
      unfold Refuses
      rw [kind]
      exact fun refuses => absurd refuses.1 (ne_false_of_eq_true awaiting)
    · rw [if_neg awaiting]
      exact eventTurnEnds kind (Bool.not_eq_true _ ▸ awaiting)

inductive LoopEnd (receiver : ClientWorldUpdateReceiver F) (updates : List WorldUpdate) :
    ClientWorldUpdateReceiver F × Nat × Except String Unit → Prop where
  | through {after count} (decision : after.decision = receiver.decision)
      (gap : ¬ Meets RevealsGap receiver updates) (refuses : ¬ Meets Refuses receiver updates) :
      LoopEnd receiver updates (after, count, .ok ())
  | refused {after count e} (rejected : after.decision = .rejected)
      (gap : ¬ Meets RevealsGap receiver updates) (refuses : Meets Refuses receiver updates) :
      LoopEnd receiver updates (after, count, .error e)
  | requested {after count e} (asked : after.decision = .requestSnapshot)
      (awaiting : after.needsSnapshot = true) (gap : Meets RevealsGap receiver updates)
      (refuses : ¬ Meets Refuses receiver updates) : LoopEnd receiver updates (after, count, .error e)

theorem loopEnds (receiver : ClientWorldUpdateReceiver F) (updates : List WorldUpdate) :
    LoopEnd receiver updates (applyUpdates receiver updates) := by
  induction updates generalizing receiver with
  | nil => exact .through rfl meetsNone meetsNone
  | cons update updates ih =>
    have turn := turnEnds receiver update
    have met (P : ClientWorldUpdateReceiver F → WorldUpdate → Prop) :
        Meets P receiver (update :: updates) ↔ P receiver update ∨ ∃ after count,
          applyUpdate receiver update = (after, .ok count) ∧ Meets P after updates := meetsCons
    rw [applyUpdates]
    cases made : applyUpdate receiver update with
    | mk after outcome =>
      rw [made] at turn
      have none (P : ClientWorldUpdateReceiver F → WorldUpdate → Prop) {e : String}
          (stopped : outcome = .error e) (not : ¬ P receiver update) :
          ¬ Meets P receiver (update :: updates) := by
        rw [met, made, stopped]
        rintro (here | ⟨_, _, bad, -⟩)
        · exact not here
        · cases bad
      cases turn with
      | refused rejected gap refuses =>
        exact .refused rejected (none _ rfl gap) ((met _).mpr (.inl refuses))
      | requested asked awaiting gap refuses =>
        exact .requested asked awaiting ((met _).mpr (.inl gap)) (none _ rfl refuses)
      | @goesOn _ count decision gap refuses =>
        have on (P : ClientWorldUpdateReceiver F → WorldUpdate → Prop) (not : ¬ P receiver update) :
            Meets P receiver (update :: updates) ↔ Meets P after updates := by
          rw [met, made]
          constructor
          · rintro (here | ⟨_, _, same, later⟩)
            · exact absurd here not
            · cases same
              exact later
          · exact fun later => .inr ⟨after, count, rfl, later⟩
        have rest := ih after
        dsimp only
        cases later : applyUpdates after updates with
        | mk last outcome =>
          obtain ⟨n, result⟩ := outcome
          rw [later] at rest
          cases rest with
          | through same noGap noRefusal =>
            exact .through (same.trans decision) (fun h => noGap ((on _ gap).mp h))
              (fun h => noRefusal ((on _ refuses).mp h))
          | refused rejected noGap refusal =>
            exact .refused rejected (fun h => noGap ((on _ gap).mp h)) ((on _ refuses).mpr refusal)
          | requested asked awaiting met noRefusal =>
            exact .requested asked awaiting ((on _ gap).mpr met)
              (fun h => noRefusal ((on _ refuses).mp h))

theorem unrefused (accepted : (applyUpdates receiver updates).1.decision ≠ .rejected) :
    ¬ Meets Refuses receiver updates := by
  have ends := loopEnds receiver updates
  cases made : applyUpdates receiver updates with
  | mk after outcome =>
    rw [made] at ends accepted
    cases ends with
    | through decision gap refuses => exact refuses
    | refused rejected => exact absurd rejected accepted
    | requested asked awaiting gap refuses => exact refuses

theorem meetsMatching (updates : List WorldUpdate)
    (reads : ∀ state update, P (core state) update ↔ P state update)
    {a b : ClientWorldUpdateReceiver F} (matching : core a = core b) :
    Meets P a updates ↔ Meets P b updates := by
  have across {a b : ClientWorldUpdateReceiver F} (matching : core a = core b) :
      Meets P a updates → Meets P b updates := by
    rintro ⟨before, update, after, split, through, here⟩
    obtain ⟨states, results⟩ := updatesMatching matching before
    refine ⟨before, update, after, split, results.symm.trans through, ?_⟩
    rw [← reads, ← states, reads]
    exact here
  exact ⟨across matching, across matching.symm⟩

inductive CallEnd (receiver : ClientWorldUpdateReceiver F) (updates : List WorldUpdate) :
    ClientWorldUpdateReceiver F × Nat × Except String Unit → Prop where
  | through {after count result} (loop : (applyUpdates receiver updates).2.2 = .ok ())
      (gap : ¬ Meets RevealsGap receiver updates) (refuses : ¬ Meets Refuses receiver updates)
      (accepted : after.decision ≠ .rejected)
      (answer : result = .ok () ∨ after.decision = .requestSnapshot) :
      CallEnd receiver updates (after, count, result)
  | refused {after count e f} (loop : (applyUpdates receiver updates).2.2 = .error f)
      (rejected : after.decision = .rejected) (gap : ¬ Meets RevealsGap receiver updates)
      (refuses : Meets Refuses receiver updates) : CallEnd receiver updates (after, count, .error e)
  | requested {after count e f} (loop : (applyUpdates receiver updates).2.2 = .error f)
      (asked : after.decision = .requestSnapshot) (awaiting : after.needsSnapshot = true)
      (gap : Meets RevealsGap receiver updates) (refuses : ¬ Meets Refuses receiver updates) :
      CallEnd receiver updates (after, count, .error e)

theorem callEnds {bytes : Bytes} {accumulator : Accumulator}
    (taken : append worldUpdateAccumulator receiver.accumulator bytes =
      (accumulator, updates, .ok ())) : CallEnd receiver updates (receiver.receive bytes) := by
  unfold ClientWorldUpdateReceiver.receive
  rw [taken]
  dsimp only
  split
  · rename_i none
    subst none
    exact .through rfl meetsNone meetsNone nofun (.inl rfl)
  · have ends := loopEnds { receiver with accumulator := accumulator, decision := .noData } updates
    have matching : core receiver =
        core { receiver with accumulator := accumulator, decision := .noData } := rfl
    have results := (updatesMatching matching updates).2
    have gaps := meetsMatching (P := RevealsGap) updates (fun _ _ => Iff.rfl) matching
    have refusals := meetsMatching (P := Refuses) updates (fun _ _ => Iff.rfl) matching
    cases made : applyUpdates { receiver with accumulator := accumulator, decision := .noData }
        updates with
    | mk after outcome =>
      obtain ⟨count, result⟩ := outcome
      rw [made] at ends results
      cases ends with
      | refused rejected gap refuses =>
        exact .refused results rejected (mt gaps.mp gap) (refusals.mpr refuses)
      | requested asked awaiting gap refuses =>
        exact .requested results asked awaiting (gaps.mpr gap) (mt refusals.mp refuses)
      | through decision gap refuses =>
        dsimp only
        split
        · exact .through results (mt gaps.mp gap) (mt refusals.mp refuses)
            nofun (.inr rfl)
        · exact .through results (mt gaps.mp gap) (mt refusals.mp refuses)
            nofun (.inl rfl)

end

end SeedOrigin.ReceiverLoop
