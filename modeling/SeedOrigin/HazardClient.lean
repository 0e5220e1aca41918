import SeedOrigin.UpdateBuilder

/-! The client's side of a hazard event: WorldUpdateSequenceTracker and
WorldUpdateSyncController, which follow the stream, and ClientHazardEffectQueue.
Tracker errors are dropped by every caller and left out. -/
namespace SeedOrigin.HazardClient
open SeedOrigin.Octets SeedOrigin.Numbers SeedOrigin.Decimal SeedOrigin.Inputs
open SeedOrigin.UpdateWire SeedOrigin.UpdateBuilder
open FloatOps (lit le)

def maxHazardEffects : Nat := 256

inductive UpdateSequenceStatus where
  | accepted | duplicate | gap | invalid
  deriving DecidableEq, Repr

structure WorldUpdateSequenceTracker where
  hasSequence : Bool := false
  expectedSequence : UInt64 := 1
  deriving DecidableEq, Repr

-- A stream may begin at any snapshot, but only at the first event.
def WorldUpdateSequenceTracker.accept (tracker : WorldUpdateSequenceTracker) (update : WorldUpdate) :
    WorldUpdateSequenceTracker × UpdateSequenceStatus :=
  match validateWorldUpdate update with
  | .error _ => (tracker, .invalid)
  | .ok _ =>
    if update.sequence = maxUint64 then (tracker, .invalid)
    else if tracker.hasSequence = false then
      if update.kind = .event ∧ update.sequence ≠ tracker.expectedSequence then
        (tracker, if update.sequence > tracker.expectedSequence then .gap else .duplicate)
      else (⟨true, update.sequence + 1⟩, .accepted)
    else if update.sequence < tracker.expectedSequence then (tracker, .duplicate)
    else if update.sequence > tracker.expectedSequence then (tracker, .gap)
    else ({ tracker with expectedSequence := tracker.expectedSequence + 1 }, .accepted)

inductive SyncDecision where
  | apply | ignoreDuplicate | requestSnapshot | reject
  deriving DecidableEq, Repr

structure WorldUpdateSyncController where
  tracker : WorldUpdateSequenceTracker := {}
  deriving DecidableEq, Repr

def WorldUpdateSyncController.receive (sync : WorldUpdateSyncController) (update : WorldUpdate) :
    WorldUpdateSyncController × SyncDecision :=
  match sync.tracker.accept update with
  | (tracker, .accepted) => (⟨tracker⟩, .apply)
  | (tracker, .duplicate) => (⟨tracker⟩, .ignoreDuplicate)
  | (tracker, .gap) => (⟨tracker⟩, .requestSnapshot)
  | (tracker, .invalid) => (⟨tracker⟩, .reject)

structure HazardEffect (F : Type) where
  worldTick : UInt64
  sequence : UInt64
  eventId : UInt64
  severity : F
  instability : F
  deriving DecidableEq

inductive HazardIngestResult where
  | applied | ignoredDuplicate | requestSnapshot | rejected | backpressure
  deriving DecidableEq, Repr

structure ClientHazardEffectQueue (F : Type) where
  effects : List (HazardEffect F) := []
  sync : WorldUpdateSyncController := {}
  deriving DecidableEq

def cutAt (needle : Bytes) : Bytes → Option (Bytes × Bytes)
  | [] => if needle = [] then some ([], []) else none
  | b :: rest =>
    if needle.isPrefixOf (b :: rest) then some ([], (b :: rest).drop needle.length)
    else (cutAt needle rest).map (fun parts => (b :: parts.1, parts.2))

section
variable {F : Type} [FloatOps F]

def parseHazard (payload : Bytes) : Except String (F × F) :=
  let header := ascii "etherHazard="
  let first := ascii "severity:"
  if payload.take header.length ≠ header then .error "world update is not an ether hazard event"
  else
    let fields := payload.drop header.length
    if fields.take first.length ≠ first then .error "hazard event is missing severity"
    else match cutAt (ascii ";instability:") (fields.drop first.length) with
      | none => .error "hazard event contains invalid fields"
      | some (severityText, instabilityText) =>
        if 59 ∈ instabilityText then .error "hazard event contains invalid fields"
        else match parseFinite severityText, parseFinite instabilityText with
          | some severity, some instability =>
            if le severity (lit 0) ∨ le instability (lit 1) then
              .error "hazard event contains invalid fields"
            else .ok (severity, instability)
          | _, _ => .error "hazard event contains invalid fields"

def ClientHazardEffectQueue.ingest (queue : ClientHazardEffectQueue F) (update : WorldUpdate) :
    ClientHazardEffectQueue F × HazardIngestResult × String :=
  if update.kind ≠ .event ∨ update.eventId = 0 then (queue, .rejected, "invalid WorldUpdate Event")
  else match validateWorldUpdate update with
    | .error e => (queue, .rejected, e)
    | .ok _ => match parseHazard update.payload with
      | .error e => (queue, .rejected, e)
      | .ok (severity, instability) =>
        let (sync, decision) := queue.sync.receive update
        match decision with
        | .ignoreDuplicate => ({ queue with sync := sync }, .ignoredDuplicate, "")
        | .requestSnapshot => ({ queue with sync := sync }, .requestSnapshot, "")
        | .reject => ({ queue with sync := sync }, .rejected, "")
        | .apply =>
          if queue.effects.length ≥ maxHazardEffects then
            ({ queue with sync := sync }, .backpressure, "hazard effect queue is full")
          else
            ({ effects := queue.effects ++
                [⟨update.worldTick, update.sequence, update.eventId, severity, instability⟩]
               sync := sync }, .applied, "")

-- An event without a hazard moves the stream on and leaves the effects.
def ClientHazardEffectQueue.observeEvent (queue : ClientHazardEffectQueue F) (update : WorldUpdate) :
    ClientHazardEffectQueue F × HazardIngestResult × String :=
  if update.kind ≠ .event ∨ update.eventId = 0 then (queue, .rejected, "invalid WorldUpdate Event")
  else match validateWorldUpdate update with
    | .error e => (queue, .rejected, e)
    | .ok _ =>
      let (sync, decision) := queue.sync.receive update
      match decision with
      | .ignoreDuplicate => ({ queue with sync := sync }, .ignoredDuplicate, "")
      | .requestSnapshot => ({ queue with sync := sync }, .requestSnapshot, "")
      | .reject => ({ queue with sync := sync }, .rejected, "")
      | .apply => ({ queue with sync := sync }, .applied, "")

def ClientHazardEffectQueue.confirmSnapshot (queue : ClientHazardEffectQueue F) (sequence : UInt64) :
    ClientHazardEffectQueue F :=
  { queue with sync := ⟨⟨true, sequence + 1⟩⟩ }

def ClientHazardEffectQueue.drain (queue : ClientHazardEffectQueue F) (limit : Nat) :
    ClientHazardEffectQueue F × List (HazardEffect F) :=
  ({ queue with effects := queue.effects.drop limit }, queue.effects.take limit)

def ClientHazardEffectQueue.Ready (queue : ClientHazardEffectQueue F) (update : WorldUpdate) : Prop :=
  queue.sync.tracker.expectedSequence = update.sequence ∧ queue.effects.length < maxHazardEffects

def ClientHazardEffectQueue.taking (queue : ClientHazardEffectQueue F) (update : WorldUpdate)
    (severity instability : F) : ClientHazardEffectQueue F :=
  { effects := queue.effects ++
      [⟨update.worldTick, update.sequence, update.eventId, severity, instability⟩]
    sync := ⟨⟨true, update.sequence + 1⟩⟩ }

end

theorem acceptExpected {tracker : WorldUpdateSequenceTracker} {update : WorldUpdate}
    (valid : validateWorldUpdate update = .ok ()) (left : update.sequence ≠ maxUint64)
    (expected : tracker.expectedSequence = update.sequence) :
    tracker.accept update = (⟨true, update.sequence + 1⟩, .accepted) := by
  obtain ⟨hasSequence, expectedSequence⟩ := tracker
  dsimp only at expected
  subst expected
  unfold WorldUpdateSequenceTracker.accept
  rw [valid]
  dsimp only
  rw [if_neg left]
  cases hasSequence with
  | false => rw [if_pos rfl, if_neg (fun bad => bad.2 rfl)]
  | true => rw [if_neg (by simp), if_neg (UInt64.lt_irrefl _), if_neg (UInt64.lt_irrefl _)]

theorem acceptCases (tracker : WorldUpdateSequenceTracker) (update : WorldUpdate) :
    ((tracker.accept update).2 ≠ .accepted ∧ (tracker.accept update).1 = tracker) ∨
    ((tracker.accept update).2 = .accepted ∧ update.sequence ≠ maxUint64 ∧
      (update.kind = .event → update.sequence = tracker.expectedSequence) ∧
      (tracker.accept update).1 = ⟨true, update.sequence + 1⟩) := by
  unfold WorldUpdateSequenceTracker.accept
  split
  · exact .inl ⟨nofun, rfl⟩
  · split
    · exact .inl ⟨nofun, rfl⟩
    · rename_i left
      split
      · split
        · refine .inl ⟨?_, rfl⟩
          dsimp only
          split <;> exact nofun
        · rename_i matching
          refine .inr ⟨rfl, left, fun event => ?_, rfl⟩
          by_contra other
          exact matching ⟨event, other⟩
      · split
        · exact .inl ⟨nofun, rfl⟩
        · split
          · exact .inl ⟨nofun, rfl⟩
          · rename_i started lower upper
            have same : update.sequence = tracker.expectedSequence :=
              UInt64.le_antisymm (UInt64.not_lt.mp upper) (UInt64.not_lt.mp lower)
            refine .inr ⟨rfl, left, fun _ => same, ?_⟩
            rw [Bool.not_eq_false] at started
            dsimp only
            rw [started, same]

theorem receivedOther {sync after : WorldUpdateSyncController} {update : WorldUpdate}
    {decision : SyncDecision} (h : sync.receive update = (after, decision))
    (other : decision ≠ .apply) : after = sync := by
  have stays {tracker : WorldUpdateSequenceTracker} {status : UpdateSequenceStatus}
      (made : sync.tracker.accept update = (tracker, status)) (refused : status ≠ .accepted) :
      tracker = sync.tracker := by
    have moves := acceptCases sync.tracker update
    rw [made] at moves
    obtain ⟨-, same⟩ | ⟨accepted, -⟩ := moves
    · exact same
    · exact absurd accepted refused
  unfold WorldUpdateSyncController.receive at h
  split at h <;> rename_i made <;> cases h
  · exact absurd rfl other
  · exact congrArg _ (stays made nofun)
  · exact congrArg _ (stays made nofun)
  · exact congrArg _ (stays made nofun)

theorem receivedNext {sync after : WorldUpdateSyncController} {update : WorldUpdate}
    (h : sync.receive update = (after, .apply)) (event : update.kind = .event) :
    update.sequence ≠ maxUint64 ∧ update.sequence = sync.tracker.expectedSequence ∧
      after = ⟨⟨true, update.sequence + 1⟩⟩ := by
  have moves := acceptCases sync.tracker update
  unfold WorldUpdateSyncController.receive at h
  split at h <;> rename_i made <;> rw [made] at moves <;> cases h
  obtain ⟨refused, -⟩ | ⟨-, left, expected, moved⟩ := moves
  · exact absurd rfl refused
  · exact ⟨left, expected event, congrArg _ moved⟩

theorem ingestReady {F : Type} [FloatOps F] {queue : ClientHazardEffectQueue F} {update : WorldUpdate}
    (ready : queue.Ready update) (kind : update.kind = .event) (event : update.eventId ≠ 0)
    (valid : validateWorldUpdate update = .ok ()) (left : update.sequence ≠ maxUint64) :
    queue.ingest update = match parseHazard (F := F) update.payload with
      | .error e => (queue, .rejected, e)
      | .ok (severity, instability) => (queue.taking update severity instability, .applied, "") := by
  obtain ⟨expected, room⟩ := ready
  have received : queue.sync.receive update = (⟨⟨true, update.sequence + 1⟩⟩, .apply) := by
    unfold WorldUpdateSyncController.receive
    rw [acceptExpected valid left expected]
  unfold ClientHazardEffectQueue.ingest ClientHazardEffectQueue.taking
  rw [if_neg (by simp [kind, event]), valid]
  dsimp only
  split
  · rfl
  · rw [received]
    dsimp only
    rw [if_neg (not_le.mpr room)]

theorem cutHere (needle back : Bytes) : cutAt needle (needle ++ back) = some ([], back) := by
  cases needle with
  | nil => cases back <;> simp [cutAt]
  | cons c needle =>
    have here : (c :: needle).isPrefixOf (c :: (needle ++ back)) = true := by
      rw [List.isPrefixOf_iff_prefix]
      exact List.prefix_append (c :: needle) back
    simp only [List.cons_append, cutAt, if_pos here, List.length_cons, List.drop_succ_cons,
      List.drop_left]

theorem cutSkip {c : UInt8} {front : Bytes} (needle back : Bytes) (free : c ∉ front) :
    cutAt (c :: needle) (front ++ back) =
      (cutAt (c :: needle) back).map (fun parts => (front ++ parts.1, parts.2)) := by
  induction front with
  | nil => simp
  | cons b front ih =>
    have other : c ≠ b := fun same => free (same ▸ List.mem_cons_self)
    have later : ¬ (c :: needle).isPrefixOf (b :: (front ++ back)) = true := by
      simp [List.isPrefixOf, other]
    rw [List.cons_append, cutAt, if_neg later,
      ih (fun there => free (List.mem_cons_of_mem b there)), Option.map_map]
    rfl

theorem cutFirst {c : UInt8} {front : Bytes} (needle back : Bytes) (free : c ∉ front) :
    cutAt (c :: needle) (front ++ (c :: needle ++ back)) = some (front, back) := by
  rw [cutSkip needle _ free, cutHere, Option.map_some, List.append_nil]

theorem cutAbsent {c : UInt8} {needle raw : Bytes} (there : c ∈ needle) (absent : c ∉ raw) :
    cutAt needle raw = none := by
  induction raw with
  | nil => rw [cutAt, if_neg (List.ne_nil_of_mem there)]
  | cons b raw ih =>
    have apart : ¬ needle.isPrefixOf (b :: raw) = true := by
      intro found
      exact absent ((List.isPrefixOf_iff_prefix.mp found).subset there)
    rw [cutAt, if_neg apart, ih (fun later => absent (List.mem_cons_of_mem b later))]
    rfl

end SeedOrigin.HazardClient
