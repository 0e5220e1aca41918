import SeedOrigin.Applier

/-! Which numbers the updates of a frame are given, and which are used up when the
frame is given up. -/
namespace SeedOrigin.Numbering
open SeedOrigin.Octets SeedOrigin.Numbers SeedOrigin.Ether SeedOrigin.Inputs SeedOrigin.UpdateWire
open SeedOrigin.UpdateBuilder SeedOrigin.Applier

def eventUpdate (builder : WorldFrameUpdateBuilder) (worldTick : UInt64) (payload : Bytes) : WorldUpdate :=
  { version := currentProtocolVersion
    kind := .event
    worldTick := worldTick
    sequence := builder.updateSequence
    eventId := builder.eventId
    payload := payload }

def advance (builder : WorldFrameUpdateBuilder) (n : Nat) : WorldFrameUpdateBuilder :=
  ⟨builder.updateSequence + UInt64.ofNat n, builder.eventId + UInt64.ofNat n⟩

def numbered (worldTick : UInt64) : WorldFrameUpdateBuilder → List Bytes → List WorldUpdate
  | _, [] => []
  | builder, payload :: payloads =>
    eventUpdate builder worldTick payload :: numbered worldTick (advance builder 1) payloads

-- The last value of a counter is never given out.
def Room (builder : WorldFrameUpdateBuilder) (n : Nat) : Prop :=
  builder.updateSequence.toNat + n < 2 ^ 64 ∧ builder.eventId.toNat + n < 2 ^ 64

def Small (payload : Bytes) : Prop := payload.length ≤ maxUpdatePayload

def Positive (builder : WorldFrameUpdateBuilder) : Prop :=
  0 < builder.updateSequence.toNat ∧ 0 < builder.eventId.toNat

theorem advanceZero (builder : WorldFrameUpdateBuilder) : advance builder 0 = builder := by
  simp [advance]

theorem advanceAdd (builder : WorldFrameUpdateBuilder) (m n : Nat) :
    advance (advance builder m) n = advance builder (m + n) := by
  simp [advance, UInt64.add_assoc]

theorem advanceNat {builder : WorldFrameUpdateBuilder} {n : Nat} (room : Room builder n) :
    (advance builder n).updateSequence.toNat = builder.updateSequence.toNat + n ∧
    (advance builder n).eventId.toNat = builder.eventId.toNat + n := by
  obtain ⟨sequences, events⟩ := room
  simp only [advance, UInt64.toNat_add, UInt64.toNat_ofNat']
  omega

theorem roomAdvance {builder : WorldFrameUpdateBuilder} {m n : Nat} (first : Room builder m) :
    Room (advance builder m) n ↔ Room builder (m + n) := by
  obtain ⟨sequences, events⟩ := advanceNat first
  unfold Room
  rw [sequences, events, Nat.add_assoc, Nat.add_assoc]

theorem roomLess {builder : WorldFrameUpdateBuilder} {m n : Nat} (room : Room builder n) (le : m ≤ n) :
    Room builder m := by
  unfold Room at room ⊢
  omega

theorem positiveAdvance {builder : WorldFrameUpdateBuilder} {n : Nat} (positive : Positive builder)
    (room : Room builder n) : Positive (advance builder n) := by
  obtain ⟨sequences, events⟩ := advanceNat room
  unfold Positive at positive ⊢
  omega

theorem numberedSequences {worldTick : UInt64} {builder : WorldFrameUpdateBuilder} {payloads : List Bytes}
    (room : Room builder payloads.length) :
    (numbered worldTick builder payloads).map (fun update => update.sequence.toNat) =
      List.range' builder.updateSequence.toNat payloads.length := by
  induction payloads generalizing builder with
  | nil => rfl
  | cons payload payloads ih =>
    simp only [List.length_cons] at room
    have one : Room builder 1 := roomLess room (by omega)
    have rest : Room (advance builder 1) payloads.length := by
      rw [roomAdvance one]
      exact roomLess room (by omega)
    simp only [numbered, List.map_cons, List.length_cons, List.range'_succ, ih rest, (advanceNat one).1]
    rfl

theorem numberedPayloads (worldTick : UInt64) (builder : WorldFrameUpdateBuilder) (payloads : List Bytes) :
    (numbered worldTick builder payloads).map WorldUpdate.payload = payloads := by
  induction payloads generalizing builder with
  | nil => rfl
  | cons payload payloads ih => simp [numbered, eventUpdate, ih]

theorem exhausted (builder : WorldFrameUpdateBuilder) :
    (builder.updateSequence = maxUint64 ∨ builder.eventId = maxUint64) ↔ ¬ Room builder 1 := by
  have top : maxUint64.toNat = 2 ^ 64 - 1 := rfl
  have low := builder.updateSequence.toNat_lt
  have high := builder.eventId.toNat_lt
  unfold Room
  rw [← UInt64.toNat_inj, ← UInt64.toNat_inj, top]
  omega

theorem eventValid {builder : WorldFrameUpdateBuilder} (positive : Positive builder)
    (worldTick : UInt64) (payload : Bytes) :
    validateWorldUpdate (eventUpdate builder worldTick payload) =
      if payload.length > maxUpdatePayload then .error "world update payload too large" else .ok () := by
  have sequence : builder.updateSequence ≠ 0 := by
    rw [Ne, ← UInt64.toNat_inj]
    exact positive.1.ne'
  have event : builder.eventId ≠ 0 := by
    rw [Ne, ← UInt64.toNat_inj]
    exact positive.2.ne'
  simp [validateWorldUpdate, eventUpdate, isKnownUpdateKind, sequence, event]

theorem appendCases {builder : WorldFrameUpdateBuilder} (positive : Positive builder)
    (worldTick : UInt64) (payload : Bytes) (updates : List WorldUpdate) :
    (¬ Room builder 1 ∧ ∃ e, appendEvent builder worldTick payload updates = (builder, [], .error e)) ∨
    (Room builder 1 ∧ ¬ Small payload ∧
      ∃ e, appendEvent builder worldTick payload updates = (advance builder 1, [], .error e)) ∨
    (Room builder 1 ∧ Small payload ∧ appendEvent builder worldTick payload updates =
      (advance builder 1, updates ++ [eventUpdate builder worldTick payload], .ok ())) := by
  have valid := eventValid positive worldTick payload
  have next : (⟨builder.updateSequence + 1, builder.eventId + 1⟩ : WorldFrameUpdateBuilder) =
      advance builder 1 := rfl
  unfold eventUpdate at valid
  unfold appendEvent eventUpdate
  by_cases room : Room builder 1
  · rw [if_neg (by rw [exhausted]; exact not_not.mpr room)]
    dsimp only
    rw [valid, next]
    by_cases small : Small payload
    · rw [if_neg (by unfold Small at small; omega)]
      exact .inr (.inr ⟨room, small, rfl⟩)
    · rw [if_pos (by unfold Small at small; omega)]
      exact .inr (.inl ⟨room, small, _, rfl⟩)
  · rw [if_pos ((exhausted builder).mpr room)]
    exact .inl ⟨room, _, rfl⟩

theorem snapshotCases {builder : WorldFrameUpdateBuilder} (positive : Positive builder)
    (worldTick : UInt64) (payload : Bytes) (updates : List WorldUpdate) :
    (builder.updateSequence = maxUint64 ∧
      ∃ e, appendSnapshot builder worldTick payload updates = (builder, updates, .error e)) ∨
    (builder.updateSequence ≠ maxUint64 ∧ ¬ Small payload ∧
      ∃ e, appendSnapshot builder worldTick payload updates =
        ({ builder with updateSequence := builder.updateSequence + 1 }, updates, .error e)) ∨
    (builder.updateSequence ≠ maxUint64 ∧ Small payload ∧
      ∃ update, update.sequence = builder.updateSequence ∧
        appendSnapshot builder worldTick payload updates =
          ({ builder with updateSequence := builder.updateSequence + 1 }, updates ++ [update], .ok ())) := by
  have sequence : builder.updateSequence ≠ 0 := by
    rw [Ne, ← UInt64.toNat_inj]
    exact positive.1.ne'
  unfold appendSnapshot
  by_cases full : builder.updateSequence = maxUint64
  · rw [if_pos full]
    exact .inl ⟨full, _, rfl⟩
  · rw [if_neg full]
    by_cases small : Small payload
    · have fits : ¬ payload.length > maxUpdatePayload := not_lt.mpr small
      refine .inr (.inr ⟨full, small, ⟨currentProtocolVersion, .snapshot, worldTick,
        builder.updateSequence, 0, payload⟩, rfl, ?_⟩)
      simp [validateWorldUpdate, isKnownUpdateKind, sequence, fits]
    · have large : payload.length > maxUpdatePayload := not_le.mp small
      refine .inr (.inl ⟨full, small, "world update payload too large", ?_⟩)
      simp [validateWorldUpdate, isKnownUpdateKind, sequence, large]

theorem snapshotNext {builder : WorldFrameUpdateBuilder} (left : builder.updateSequence ≠ maxUint64) :
    (builder.updateSequence + 1).toNat = builder.updateSequence.toNat + 1 := by
  have top : maxUint64.toNat = 2 ^ 64 - 1 := rfl
  have low := builder.updateSequence.toNat_lt
  rw [Ne, ← UInt64.toNat_inj, top] at left
  rw [UInt64.toNat_add, UInt64.toNat_one]
  omega

def appendEvents (worldTick : UInt64) (builder : WorldFrameUpdateBuilder) (payloads : List Bytes)
    (updates : List WorldUpdate) : Built :=
  appendAll (fun builder payload updates => appendEvent builder worldTick payload updates) builder
    payloads updates

theorem appendMap {α : Type} (payload : α → Bytes) (worldTick : UInt64)
    (builder : WorldFrameUpdateBuilder) (xs : List α) (updates : List WorldUpdate) :
    appendAll (fun builder x updates => appendEvent builder worldTick (payload x) updates) builder xs
      updates = appendEvents worldTick builder (xs.map payload) updates := by
  induction xs generalizing builder updates with
  | nil => rfl
  | cons x xs ih =>
    simp only [appendEvents, List.map_cons, appendAll, ih]

theorem andThenAssoc (built : Built) (f g : WorldFrameUpdateBuilder → List WorldUpdate → Built) :
    andThen (andThen built f) g = andThen built (fun builder updates => andThen (f builder updates) g) := by
  obtain ⟨builder, updates, e | done⟩ := built <;> rfl

theorem appendAppend (worldTick : UInt64) (builder : WorldFrameUpdateBuilder) (ps qs : List Bytes)
    (updates : List WorldUpdate) :
    appendEvents worldTick builder (ps ++ qs) updates =
      andThen (appendEvents worldTick builder ps updates) (fun builder updates =>
        appendEvents worldTick builder qs updates) := by
  induction ps generalizing builder updates with
  | nil => rfl
  | cons p ps ih =>
    unfold appendEvents at ih ⊢
    simp only [List.cons_append, appendAll, andThenAssoc, ih]

-- Either every event is published, or none is and the numbers up to the first
-- one that failed are gone.
theorem eventsCases (worldTick : UInt64) {builder : WorldFrameUpdateBuilder}
    (positive : Positive builder) (payloads : List Bytes) (updates : List WorldUpdate) :
    ((Room builder payloads.length ∧ ∀ p ∈ payloads, Small p) ∧
      appendEvents worldTick builder payloads updates =
        (advance builder payloads.length, updates ++ numbered worldTick builder payloads, .ok ())) ∨
    (¬ (Room builder payloads.length ∧ ∀ p ∈ payloads, Small p) ∧
      ∃ k e, appendEvents worldTick builder payloads updates = (advance builder k, [], .error e) ∧
        Room builder k ∧ (Room builder 1 → 0 < k)) := by
  induction payloads generalizing builder updates with
  | nil =>
    refine .inl ⟨⟨?_, by simp⟩, ?_⟩
    · exact ⟨builder.updateSequence.toNat_lt, builder.eventId.toNat_lt⟩
    · rw [List.length_nil, advanceZero]
      simp [appendEvents, appendAll, numbered]
  | cons p ps ih =>
    have here := appendCases positive worldTick p updates
    unfold appendEvents appendAll andThen
    obtain ⟨full, e, failed⟩ | ⟨room, large, e, failed⟩ | ⟨room, small, made⟩ := here
    · rw [failed]
      refine .inr ⟨fun all => full (roomLess all.1 (by simp)), 0, e, ?_, ?_, fun room => absurd room full⟩
      · rw [advanceZero]
      · exact ⟨builder.updateSequence.toNat_lt, builder.eventId.toNat_lt⟩
    · rw [failed]
      exact .inr ⟨fun all => large (all.2 p (by simp)), 1, e, rfl, room, fun _ => Nat.one_pos⟩
    · rw [made]
      dsimp only
      obtain ⟨⟨rest, smalls⟩, done⟩ | ⟨bad, k, e, failed, rest, -⟩ :=
        ih (positiveAdvance positive room) (updates ++ [eventUpdate builder worldTick p])
      · unfold appendEvents at done
        rw [done, advanceAdd, List.append_assoc]
        rw [roomAdvance room, Nat.add_comm] at rest
        refine .inl ⟨⟨rest, ?_⟩, ?_⟩
        · intro q there
          obtain rfl | there := List.mem_cons.mp there
          · exact small
          · exact smalls q there
        · rw [List.length_cons, Nat.add_comm]
          rfl
      · unfold appendEvents at failed
        rw [failed, advanceAdd]
        rw [roomAdvance room] at rest
        refine .inr ⟨?_, 1 + k, e, rfl, rest, fun _ => by omega⟩
        intro ⟨all, smalls⟩
        refine bad ⟨?_, fun q there => smalls q (List.mem_cons_of_mem p there)⟩
        rw [roomAdvance room, Nat.add_comm]
        exact all

theorem zeroStops {builder : WorldFrameUpdateBuilder} (zero : ¬ Positive builder) (worldTick : UInt64)
    (payload : Bytes) (updates : List WorldUpdate) :
    (appendEvent builder worldTick payload updates).2.2 ≠ .ok () := by
  have ill : validateWorldUpdate (eventUpdate builder worldTick payload) ≠ .ok () := by
    intro valid
    refine zero ⟨Nat.pos_of_ne_zero fun none => ?_, Nat.pos_of_ne_zero fun none => ?_⟩
    · have none : builder.updateSequence = 0 := UInt64.toNat.inj none
      simp [validateWorldUpdate, eventUpdate, isKnownUpdateKind, none] at valid
    · have none : builder.eventId = 0 := UInt64.toNat.inj none
      by_cases first : builder.updateSequence = 0
      · simp [validateWorldUpdate, eventUpdate, isKnownUpdateKind, first] at valid
      · by_cases long : maxUpdatePayload < payload.length <;>
          simp [validateWorldUpdate, eventUpdate, isKnownUpdateKind, none, first, long] at valid
  intro done
  unfold appendEvent at done
  split at done
  · contradiction
  · dsimp only at done
    split at done
    · contradiction
    · rename_i valid
      exact ill valid

theorem eventsExact (worldTick : UInt64) (builder : WorldFrameUpdateBuilder) (payloads : List Bytes)
    (updates : List WorldUpdate) : (appendEvents worldTick builder payloads updates).2.2 = .ok () ↔
      payloads = [] ∨ Positive builder ∧ Room builder payloads.length ∧ ∀ p ∈ payloads, Small p := by
  cases payloads with
  | nil => exact iff_of_true rfl (.inl rfl)
  | cons payload payloads =>
    rw [or_iff_right (List.cons_ne_nil _ _)]
    by_cases positive : Positive builder
    · obtain ⟨fits, done⟩ | ⟨bad, k, e, failed, -⟩ :=
        eventsCases worldTick positive (payload :: payloads) updates
      · rw [done]
        exact iff_of_true rfl ⟨positive, fits⟩
      · rw [failed]
        exact iff_of_false nofun fun fits => bad fits.2
    · refine iff_of_false (fun done => zeroStops positive worldTick payload updates ?_)
        fun fits => positive fits.1
      unfold appendEvents appendAll andThen at done
      split at done
      · contradiction
      · rename_i made
        rw [made]

end SeedOrigin.Numbering
