import SeedOrigin.Receiver
import SeedOrigin.Runs

/-! What the events of a run change on the client, in the order of their sequence
numbers. An event is accepted when the tracker of the hazard queue moves past it;
one whose hazard finds no room is accepted and has no effect. -/
namespace SeedOrigin.ReceiverSequence
open SeedOrigin.Octets SeedOrigin.Numbers SeedOrigin.Inputs SeedOrigin.Accumulation SeedOrigin.UpdateWire
open SeedOrigin.HazardClient SeedOrigin.Prediction SeedOrigin.SnapshotParser SeedOrigin.Receiver
open SeedOrigin.Runs

structure Visit (F : Type) where
  before : ClientWorldUpdateReceiver F
  update : WorldUpdate

section
variable {F : Type} [PredictionOps F]

def Visit.after (v : Visit F) : ClientWorldUpdateReceiver F := (applyUpdate v.before v.update).1

def visitsFrom (receiver : ClientWorldUpdateReceiver F) : List WorldUpdate → List (Visit F)
  | [] => []
  | update :: rest => ⟨receiver, update⟩ :: match applyUpdate receiver update with
    | (_, .error _) => []
    | (after, .ok _) => visitsFrom after rest

def visitsOf (receiver : ClientWorldUpdateReceiver F) : ReceiverCall F → List (Visit F)
  | .receive bytes => match append worldUpdateAccumulator receiver.accumulator bytes with
    | (_, _, .error _) => []
    | (accumulator, updates, .ok _) =>
      visitsFrom { receiver with accumulator := accumulator, decision := .noData } updates
  | _ => []

def visits (receiver : ClientWorldUpdateReceiver F) : List (ReceiverCall F) → List (Visit F)
  | [] => []
  | call :: calls => visitsOf receiver call ++ visits (callReceiver receiver call) calls

def Visit.result (v : Visit F) : HazardIngestResult :=
  (takeEvent v.before.hazardQueue v.update).2.1

def Visit.replaces (v : Visit F) : Bool :=
  decide (v.update.kind = .snapshot) && (applySnapshot (F := F) v.update).toBool

def Visit.applies (v : Visit F) : Bool :=
  decide (v.update.kind = .event) && !v.before.needsSnapshot && decide (v.result = .applied)

def Visit.accepted (v : Visit F) : Bool :=
  v.replaces || (decide (v.update.kind = .event) && !v.before.needsSnapshot &&
    (decide (v.result = .applied) || decide (v.result = .backpressure)))

def following (past : List (Visit F)) : Nat :=
  match (past.filter Visit.accepted).getLast? with
  | none => 1
  | some v => v.update.sequence.toNat + 1

def sinceSnapshot (past : List (Visit F)) : List (Visit F) :=
  past.reverse.takeWhile (fun v => !v.replaces)

structure Idle (before after : ClientWorldUpdateReceiver F) : Prop where
  effects : after.hazardQueue.effects = before.hazardQueue.effects
  predictor : after.predictor = before.predictor
  remotes : after.remotes = before.remotes
  environment : after.environmentState = before.environmentState

structure Sound (past : List (Visit F)) (v : Visit F) : Prop where
  otherwise : v.update.kind = .event → v.applies = false → Idle v.before v.after
  awaiting : v.update.kind = .event → v.before.needsSnapshot = true → Idle v.before v.after
  next : v.applies = true → v.update.sequence.toNat = following past
  once : v.applies = true → ∀ u ∈ sinceSnapshot past, u.applies = true →
    u.update.sequence ≠ v.update.sequence
  agree : v.accepted = true →
    v.after.expected = v.after.hazardQueue.sync.tracker.expectedSequence

def Carries (receiver : ClientWorldUpdateReceiver F) : List (Visit F) → ClientWorldUpdateReceiver F → Prop
  | [], last => Idle receiver last
  | v :: rest, last => Idle receiver v.before ∧ Carries v.after rest last

structure Passed (receiver after : ClientWorldUpdateReceiver F) (update : WorldUpdate) : Prop where
  hazardQueue : after.hazardQueue = (takeEvent receiver.hazardQueue update).1
  expected : after.expected = (takeEvent receiver.hazardQueue update).1.sync.tracker.expectedSequence
  environment : after.environmentState = receiver.environmentState
  others : (takeEvent receiver.hazardQueue update).2.1 ≠ .applied →
    after.predictor = receiver.predictor ∧ after.remotes = receiver.remotes

theorem eventPassed {receiver : ClientWorldUpdateReceiver F} (ready : receiver.needsSnapshot = false)
    (update : WorldUpdate) : Passed receiver (applyEvent receiver update).1 update := by
  unfold applyEvent
  rw [if_neg (ne_true_of_eq_false ready)]
  cases made : takeEvent receiver.hazardQueue update with
  | mk hazardQueue outcome =>
    obtain ⟨result, error⟩ := outcome
    cases result with
    | applied =>
      have moved := movementMoved { receiver with
        hazardQueue := hazardQueue
        expected := hazardQueue.sync.tracker.expectedSequence } update.payload
      refine ⟨?_, ?_, moved.environmentState, ?_⟩
      · rw [made]
        exact moved.hazardQueue
      · rw [made]
        exact moved.expected
      · rw [made]
        exact fun bad => absurd rfl bad
    | ignoredDuplicate => constructor <;> simp [made]
    | requestSnapshot => constructor <;> simp [made, Receiver.requestSnapshot]
    | rejected => constructor <;> simp [made, rejectUpdate]
    | backpressure => constructor <;> simp [made, rejectUpdate]

theorem visitPassed {v : Visit F} (event : v.update.kind = .event)
    (ready : v.before.needsSnapshot = false) : Passed v.before v.after v.update := by
  have passed := eventPassed ready v.update
  unfold Visit.after applyUpdate
  rw [event]
  dsimp only
  rw [if_neg (ne_true_of_eq_false ready)]
  cases made : applyEvent v.before v.update with
  | mk after result =>
    rw [made] at passed
    cases result <;> exact passed

theorem visitSkipped {v : Visit F} (event : v.update.kind = .event)
    (awaiting : v.before.needsSnapshot = true) : v.after = v.before := by
  unfold Visit.after applyUpdate
  rw [event]
  dsimp only
  rw [if_pos awaiting]

theorem snapshotRefused {v : Visit F} (snapshot : v.update.kind = .snapshot)
    (refused : v.replaces = false) : v.after = rejectUpdate v.before := by
  unfold Visit.after applyUpdate
  rw [snapshot]
  dsimp only
  cases made : applySnapshot (F := F) v.update with
  | error e => rfl
  | ok state => simp [Visit.replaces, snapshot, made, Except.toBool] at refused

theorem snapshotTaken {v : Visit F} (taken : v.replaces = true) :
    v.update.sequence ≠ maxUint64 ∧
      ∃ state, applySnapshot v.update = .ok state ∧
        v.after = replaceBySnapshot v.before v.update state := by
  simp only [Visit.replaces, Bool.and_eq_true, decide_eq_true_eq] at taken
  obtain ⟨snapshot, made⟩ := taken
  cases result : applySnapshot (F := F) v.update with
  | error e => simp [result, Except.toBool] at made
  | ok state =>
    refine ⟨?_, state, rfl, ?_⟩
    · intro last
      unfold applySnapshot at result
      split at result
      · contradiction
      · cases valid : validateWorldUpdate v.update with
        | error e => simp [valid, bind, Except.bind] at result
        | ok _ => simp [valid, bind, Except.bind, throw, throwThe, MonadExceptOf.throw] at result
    · unfold Visit.after applyUpdate
      rw [snapshot]
      dsimp only
      rw [result]

theorem followingLast (past : List (Visit F)) (v : Visit F) :
    following (past ++ [v]) =
      if v.accepted then v.update.sequence.toNat + 1 else following past := by
  unfold following
  rw [List.filter_append]
  cases accepted : v.accepted with
  | true => simp [accepted]
  | false => simp [accepted]

theorem sinceLast (past : List (Visit F)) (v : Visit F) :
    sinceSnapshot (past ++ [v]) = if v.replaces then [] else v :: sinceSnapshot past := by
  unfold sinceSnapshot
  rw [List.reverse_append]
  cases replaces : v.replaces with
  | true => simp [replaces]
  | false => simp [replaces]

-- The tracker expects the number after the last one accepted, and no event since
-- the last Snapshot reached it.
structure Tracked (past : List (Visit F)) (receiver : ClientWorldUpdateReceiver F) : Prop where
  next : receiver.hazardQueue.sync.tracker.expectedSequence.toNat = following past
  below : ∀ u ∈ sinceSnapshot past, u.applies = true →
    u.update.sequence.toNat < receiver.hazardQueue.sync.tracker.expectedSequence.toNat

theorem acceptedEvent {v : Visit F} (event : v.update.kind = .event) :
    v.accepted = true ↔ v.before.needsSnapshot = false ∧
      (v.result = .applied ∨ v.result = .backpressure) := by
  simp [Visit.accepted, Visit.replaces, event]

theorem appliesAccepted {v : Visit F} (applies : v.applies = true) :
    v.update.kind = .event ∧ v.before.needsSnapshot = false ∧ v.result = .applied ∧
      v.accepted = true := by
  simp only [Visit.applies, Bool.and_eq_true, decide_eq_true_eq, Bool.not_eq_true'] at applies
  obtain ⟨⟨event, ready⟩, result⟩ := applies
  exact ⟨event, ready, result, (acceptedEvent event).mpr ⟨ready, .inl result⟩⟩

theorem acceptedNext {v : Visit F} (event : v.update.kind = .event) (accepted : v.accepted = true) :
    v.update.sequence ≠ maxUint64 ∧
      v.update.sequence = v.before.hazardQueue.sync.tracker.expectedSequence ∧
      v.after.hazardQueue.sync = ⟨⟨true, v.update.sequence + 1⟩⟩ := by
  obtain ⟨ready, result⟩ := (acceptedEvent event).mp accepted
  obtain ⟨-, other, full⟩ | ⟨left, expected, moved, -⟩ := takenCounts v.before.hazardQueue v.update
  · obtain applied | full' := result
    · exact absurd applied other
    · exact absurd full' full
  · refine ⟨left, expected, ?_⟩
    rw [(visitPassed event ready).hazardQueue]
    exact moved

theorem refusedStays {v : Visit F} (refused : v.accepted = false) :
    v.after.hazardQueue = v.before.hazardQueue := by
  cases kind : v.update.kind with
  | snapshot =>
    have left : v.replaces = false := by
      cases replaces : v.replaces with
      | false => rfl
      | true => simp [Visit.accepted, replaces] at refused
    rw [snapshotRefused kind left]
    rfl
  | event =>
    cases awaiting : v.before.needsSnapshot with
    | true => rw [visitSkipped kind awaiting]
    | false =>
      have neither : ¬ (v.result = .applied ∨ v.result = .backpressure) := by
        intro taken
        rw [(acceptedEvent kind).mpr ⟨awaiting, taken⟩] at refused
        contradiction
      rw [(visitPassed kind awaiting).hazardQueue]
      obtain ⟨same, -⟩ | ⟨-, -, -, applied | ⟨full, -⟩⟩ :=
        takenCounts v.before.hazardQueue v.update
      · exact same
      · exact absurd (.inl applied) neither
      · exact absurd (.inr full) neither
  | unknown code =>
    unfold Visit.after applyUpdate
    rw [kind]
    rfl

theorem idleOther {v : Visit F} (event : v.update.kind = .event) (other : v.applies = false) :
    Idle v.before v.after := by
  cases awaiting : v.before.needsSnapshot with
  | true =>
    rw [visitSkipped event awaiting]
    exact ⟨rfl, rfl, rfl, rfl⟩
  | false =>
    have passed := visitPassed event awaiting
    have result : v.result ≠ .applied := by
      intro applied
      simp [Visit.applies, event, awaiting, applied] at other
    obtain ⟨predictor, remotes⟩ := passed.others result
    refine ⟨?_, predictor, remotes, passed.environment⟩
    rw [passed.hazardQueue]
    obtain ⟨same, -⟩ | ⟨-, -, -, applied | ⟨-, same⟩⟩ := takenCounts v.before.hazardQueue v.update
    · rw [same]
    · exact absurd applied result
    · exact same

theorem agreeAccepted {v : Visit F} (accepted : v.accepted = true) :
    v.after.expected = v.after.hazardQueue.sync.tracker.expectedSequence := by
  cases replaces : v.replaces with
  | true =>
    obtain ⟨-, state, -, made⟩ := snapshotTaken replaces
    rw [made]
    rfl
  | false =>
    simp only [Visit.accepted, replaces, Bool.false_or, Bool.and_eq_true, decide_eq_true_eq,
      Bool.not_eq_true'] at accepted
    have passed := visitPassed accepted.1.1 accepted.1.2
    rw [passed.expected, passed.hazardQueue]

theorem visitSound {past : List (Visit F)} {v : Visit F} (tracked : Tracked past v.before) :
    Sound past v where
  otherwise event other := idleOther event other
  awaiting event awaits := by
    rw [visitSkipped event awaits]
    exact ⟨rfl, rfl, rfl, rfl⟩
  next applies := by
    obtain ⟨event, -, -, accepted⟩ := appliesAccepted applies
    rw [(acceptedNext event accepted).2.1]
    exact tracked.next
  once applies u there earlier same := by
    obtain ⟨event, -, -, accepted⟩ := appliesAccepted applies
    have below := tracked.below u there earlier
    rw [same, (acceptedNext event accepted).2.1] at below
    exact Nat.lt_irrefl _ below
  agree accepted := agreeAccepted accepted

theorem successor {n : UInt64} (left : n ≠ maxUint64) : (n + 1).toNat = n.toNat + 1 := by
  have small := n.toNat_lt
  have last : n.toNat ≠ maxUint64.toNat := fun same => left (UInt64.toNat.inj same)
  have value : maxUint64.toNat = 2 ^ 64 - 1 := rfl
  have one : (1 : UInt64).toNat = 1 := rfl
  rw [UInt64.toNat_add]
  omega

theorem visitTracked {past : List (Visit F)} {v : Visit F} (tracked : Tracked past v.before) :
    Tracked (past ++ [v]) v.after := by
  cases accepted : v.accepted with
  | false =>
    have same := refusedStays accepted
    have neither : v.replaces = false ∧ v.applies = false := by
      refine ⟨?_, ?_⟩
      · cases replaces : v.replaces with
        | false => rfl
        | true => simp [Visit.accepted, replaces] at accepted
      · cases applies : v.applies with
        | false => rfl
        | true =>
          rw [(appliesAccepted applies).2.2.2] at accepted
          contradiction
    constructor
    · rw [same, followingLast, accepted]
      exact tracked.next
    · intro u there applies
      rw [sinceLast, neither.1, if_neg Bool.false_ne_true] at there
      rw [same]
      rcases List.mem_cons.mp there with rfl | there
      · rw [neither.2] at applies
        contradiction
      · exact tracked.below u there applies
  | true =>
    have moved : v.update.sequence ≠ maxUint64 ∧
        v.after.hazardQueue.sync.tracker.expectedSequence = v.update.sequence + 1 := by
      cases replaces : v.replaces with
      | true =>
        obtain ⟨left, state, -, made⟩ := snapshotTaken replaces
        rw [made]
        exact ⟨left, rfl⟩
      | false =>
        have event : v.update.kind = .event := by
          simp only [Visit.accepted, replaces, Bool.false_or, Bool.and_eq_true,
            decide_eq_true_eq] at accepted
          exact accepted.1.1
        obtain ⟨left, -, after⟩ := acceptedNext event accepted
        rw [after]
        exact ⟨left, rfl⟩
    have next : v.after.hazardQueue.sync.tracker.expectedSequence.toNat =
        v.update.sequence.toNat + 1 := by
      rw [moved.2, successor moved.1]
    constructor
    · rw [next, followingLast, accepted, if_pos rfl]
    · intro u there applies
      rw [next]
      rw [sinceLast] at there
      cases replaces : v.replaces with
      | true => simp [replaces] at there
      | false =>
        rw [replaces, if_neg Bool.false_ne_true] at there
        rcases List.mem_cons.mp there with rfl | there
        · exact Nat.lt_succ_self _
        · have event : v.update.kind = .event := by
            simp only [Visit.accepted, replaces, Bool.false_or, Bool.and_eq_true,
              decide_eq_true_eq] at accepted
            exact accepted.1.1
          have below := tracked.below u there applies
          rw [← (acceptedNext event accepted).2.1] at below
          omega

theorem visitsShape (receiver : ClientWorldUpdateReceiver F) (bytes : Bytes) :
    ∃ accumulator updates decision,
      visitsOf receiver (.receive bytes) =
        visitsFrom { receiver with accumulator := accumulator, decision := .noData } updates ∧
      callReceiver receiver (.receive bytes) =
        { (applyUpdates { receiver with accumulator := accumulator, decision := .noData } updates).1 with
          decision := decision } := by
  unfold visitsOf callReceiver ClientWorldUpdateReceiver.receive
  dsimp only
  cases append worldUpdateAccumulator receiver.accumulator bytes with
  | mk accumulator outcome =>
    obtain ⟨updates, result⟩ := outcome
    cases result with
    | error e => exact ⟨accumulator, [], .rejected, rfl, rfl⟩
    | ok _ =>
      refine ⟨accumulator, updates, ?_⟩
      dsimp only
      split
      · rename_i none
        rw [none]
        exact ⟨.noData, rfl, rfl⟩
      · cases applyUpdates { receiver with accumulator := accumulator, decision := .noData } updates with
        | mk after outcome =>
          obtain ⟨applied, result⟩ := outcome
          cases result with
          | error e => exact ⟨after.decision, rfl, rfl⟩
          | ok _ =>
            dsimp only
            split
            · exact ⟨.requestSnapshot, rfl, rfl⟩
            · exact ⟨.applied, rfl, rfl⟩

def AllSound (past log : List (Visit F)) : Prop :=
  ∀ before v after, log = before ++ v :: after → Sound (past ++ before) v

def AllVisits (P : List (Visit F) → Visit F → Prop) (past log : List (Visit F)) : Prop :=
  ∀ before v after, log = before ++ v :: after → P (past ++ before) v

structure Aside (before after : ClientWorldUpdateReceiver F) : Prop where
  hazardQueue : after.hazardQueue = before.hazardQueue
  remotes : after.remotes = before.remotes
  environmentState : after.environmentState = before.environmentState

section
variable {P : List (Visit F) → Visit F → Prop} {I : List (Visit F) → ClientWorldUpdateReceiver F → Prop}

omit [PredictionOps F] in
theorem allVisitsCons {past log : List (Visit F)} {v : Visit F} (first : P past v)
    (rest : AllVisits P (past ++ [v]) log) : AllVisits P past (v :: log) := by
  intro before u after split
  cases before with
  | nil =>
    obtain ⟨rfl, -⟩ := List.cons.inj split
    rw [List.append_nil]
    exact first
  | cons w before =>
    obtain ⟨rfl, tail⟩ := List.cons.inj split
    have holds := rest before u after tail
    rw [List.append_assoc] at holds
    exact holds

omit [PredictionOps F] in
theorem allVisitsAppend {past first second : List (Visit F)} (left : AllVisits P past first)
    (right : AllVisits P (past ++ first) second) : AllVisits P past (first ++ second) := by
  induction first generalizing past with
  | nil =>
    rw [List.append_nil] at right
    exact right
  | cons v first ih =>
    refine allVisitsCons ?_ (ih ?_ ?_)
    · have holds := left [] v first rfl
      rw [List.append_nil] at holds
      exact holds
    · intro before u after split
      have holds := left (v :: before) u after (by rw [split]; rfl)
      rw [List.append_assoc]
      exact holds
    · rw [List.append_assoc]
      exact right

variable (gives : ∀ past v, I past v.before → P past v)
  (keeps : ∀ past v, I past v.before → I (past ++ [v]) v.after)
  (frames : ∀ past before after, I past before → Aside before after → I past after)

include gives keeps in
theorem visitsHold {past : List (Visit F)} {receiver : ClientWorldUpdateReceiver F}
    (updates : List WorldUpdate) (start : I past receiver) :
    AllVisits P past (visitsFrom receiver updates) ∧
      I (past ++ visitsFrom receiver updates) (applyUpdates receiver updates).1 := by
  induction updates generalizing past receiver with
  | nil =>
    refine ⟨fun before v after split => ?_, ?_⟩
    · simp [visitsFrom] at split
    · rw [visitsFrom, List.append_nil]
      exact start
  | cons update updates ih =>
    have holds : P past ⟨receiver, update⟩ := gives past ⟨receiver, update⟩ start
    have next : I (past ++ [⟨receiver, update⟩]) (applyUpdate receiver update).1 :=
      keeps past ⟨receiver, update⟩ start
    unfold visitsFrom applyUpdates
    cases made : applyUpdate receiver update with
    | mk after result =>
      rw [made] at next
      cases result with
      | error e =>
        refine ⟨allVisitsCons holds (fun before v later split => ?_), next⟩
        simp at split
      | ok count =>
        obtain ⟨rest, last⟩ := ih next
        refine ⟨allVisitsCons holds rest, ?_⟩
        rw [List.append_assoc] at last
        exact last

include gives keeps frames in
theorem callHolds {past : List (Visit F)} {receiver : ClientWorldUpdateReceiver F}
    (call : ReceiverCall F) (start : I past receiver) :
    AllVisits P past (visitsOf receiver call) ∧
      I (past ++ visitsOf receiver call) (callReceiver receiver call) := by
  have nothing : AllVisits P past ([] : List (Visit F)) := by
    intro before v after split
    simp at split
  cases call with
  | bindLocalSession sessionId =>
    simp only [visitsOf, callReceiver, List.append_nil]
    exact ⟨nothing, frames past receiver _ start ⟨rfl, rfl, rfl⟩⟩
  | beginReconnect =>
    simp only [visitsOf, callReceiver, List.append_nil]
    exact ⟨nothing, frames past receiver _ start ⟨rfl, rfl, rfl⟩⟩
  | predict clientInputSequence dx dy dz =>
    simp only [visitsOf, callReceiver, List.append_nil]
    exact ⟨nothing, frames past receiver _ start ⟨rfl, rfl, rfl⟩⟩
  | receive bytes =>
    obtain ⟨accumulator, updates, decision, log, reached⟩ := visitsShape receiver bytes
    have ready : I past { receiver with accumulator := accumulator, decision := .noData } :=
      frames past receiver _ start ⟨rfl, rfl, rfl⟩
    obtain ⟨holds, last⟩ := visitsHold gives keeps updates ready
    rw [log, reached]
    exact ⟨holds, frames _ _ _ last ⟨rfl, rfl, rfl⟩⟩

include gives keeps frames in
theorem runHolds {past : List (Visit F)} {receiver : ClientWorldUpdateReceiver F}
    (calls : List (ReceiverCall F)) (start : I past receiver) :
    AllVisits P past (visits receiver calls) ∧
      I (past ++ visits receiver calls) (run callReceiver receiver calls) := by
  induction calls generalizing past receiver with
  | nil =>
    refine ⟨fun before v after split => ?_, ?_⟩
    · simp [visits] at split
    · rw [visits, List.append_nil]
      exact start
  | cons call calls ih =>
    obtain ⟨holds, next⟩ := callHolds gives keeps frames call start
    obtain ⟨rest, last⟩ := ih next
    refine ⟨allVisitsAppend holds rest, ?_⟩
    rw [List.append_assoc] at last
    exact last

end

theorem trackedSame {past : List (Visit F)} {before after : ClientWorldUpdateReceiver F}
    (tracked : Tracked past before) (aside : Aside before after) : Tracked past after := by
  constructor <;> rw [aside.hazardQueue]
  · exact tracked.next
  · exact tracked.below

theorem carriesIdle {receiver last after : ClientWorldUpdateReceiver F} {log : List (Visit F)}
    (carries : Carries receiver log last) (idle : Idle last after) : Carries receiver log after := by
  induction log generalizing receiver with
  | nil =>
    exact ⟨idle.effects.trans carries.effects, idle.predictor.trans carries.predictor,
      idle.remotes.trans carries.remotes, idle.environment.trans carries.environment⟩
  | cons v log ih => exact ⟨carries.1, ih carries.2⟩

theorem visitsCarry {start receiver : ClientWorldUpdateReceiver F} (idle : Idle start receiver)
    (updates : List WorldUpdate) :
    Carries start (visitsFrom receiver updates) (applyUpdates receiver updates).1 := by
  induction updates generalizing start receiver with
  | nil => exact idle
  | cons update updates ih =>
    unfold visitsFrom applyUpdates
    refine ⟨idle, ?_⟩
    have still : Idle (applyUpdate receiver update).1 (applyUpdate receiver update).1 :=
      ⟨rfl, rfl, rfl, rfl⟩
    have rest := ih still
    unfold Visit.after
    cases made : applyUpdate receiver update with
    | mk after result =>
      cases result with
      | error e => exact ⟨rfl, rfl, rfl, rfl⟩
      | ok count =>
        rw [made] at rest
        exact rest

theorem callCarries (receiver : ClientWorldUpdateReceiver F) {call : ReceiverCall F}
    (other : ∀ clientInputSequence dx dy dz, call ≠ .predict clientInputSequence dx dy dz) :
    Carries receiver (visitsOf receiver call) (callReceiver receiver call) := by
  cases call with
  | bindLocalSession sessionId => exact ⟨rfl, rfl, rfl, rfl⟩
  | beginReconnect => exact ⟨rfl, rfl, rfl, rfl⟩
  | predict clientInputSequence dx dy dz => exact absurd rfl (other clientInputSequence dx dy dz)
  | receive bytes =>
    obtain ⟨accumulator, updates, decision, log, reached⟩ := visitsShape receiver bytes
    have ready : Idle receiver { receiver with accumulator := accumulator, decision := .noData } :=
      ⟨rfl, rfl, rfl, rfl⟩
    rw [log, reached]
    exact carriesIdle (visitsCarry ready updates) ⟨rfl, rfl, rfl, rfl⟩

theorem runSound {past : List (Visit F)} {receiver : ClientWorldUpdateReceiver F}
    (calls : List (ReceiverCall F)) (tracked : Tracked past receiver) :
    AllSound past (visits receiver calls) :=
  (runHolds (P := Sound) (I := Tracked) (fun _ _ => visitSound) (fun _ _ => visitTracked)
    (fun _ _ _ => trackedSame) calls tracked).1

def Shows (receiver : ClientWorldUpdateReceiver F) (call : ReceiverCall F) : Prop :=
  (∀ clientInputSequence dx dy dz, call ≠ .predict clientInputSequence dx dy dz) →
    Carries receiver (visitsOf receiver call) (callReceiver receiver call)

theorem sequencedEffects (calls : List (ReceiverCall F)) :
    AllSound [] (visits .initial calls) ∧ Along callReceiver Shows .initial calls := by
  refine ⟨runSound calls ⟨rfl, ?_⟩, fun before call after _ => callCarries _⟩
  intro u there
  simp [sinceSnapshot] at there

end

end SeedOrigin.ReceiverSequence
