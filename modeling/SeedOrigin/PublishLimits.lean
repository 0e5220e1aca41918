import SeedOrigin.ClientConnection
import SeedOrigin.Conversions
import SeedOrigin.Numbering

/-! The sizes an update is held to on its way to one recipient: the copy made for
it, the frame, the outbound queue and the client's accumulator. -/
namespace SeedOrigin.PublishLimits
open SeedOrigin.Octets SeedOrigin.Framing SeedOrigin.Numbers SeedOrigin.Character
open SeedOrigin.ClientInput SeedOrigin.Inputs SeedOrigin.Ether SeedOrigin.UpdateWire
open SeedOrigin.UpdateBuilder SeedOrigin.ClientConnection SeedOrigin.Applier SeedOrigin.Conversions
open FloatOps (lit)

section
variable {F : Type} [FloatOps F]

def ownerFields (ack : MovementAck F) : Bytes :=
  ascii ";x:" ++ FloatOps.text ack.x ++ ascii ";y:" ++ FloatOps.text ack.y ++
    ascii ";z:" ++ FloatOps.text ack.z ++ ascii ";worldTick:" ++ uint64Text ack.worldTick ++
    ascii ";lastProcessedInputSequence:" ++ uint64Text ack.lastProcessedInputSequence

def poseFields (ack : MovementAck F) : Bytes :=
  ascii ";x=" ++ FloatOps.text ack.x ++ ascii ";y=" ++ FloatOps.text ack.y ++
    ascii ";z=" ++ FloatOps.text ack.z

def localFields (ack : MovementAck F) : Bytes :=
  ascii ";local.x=" ++ FloatOps.text ack.x ++
    ascii ";local.y=" ++ FloatOps.text ack.y ++ ascii ";local.z=" ++ FloatOps.text ack.z ++
    ascii ";local.lastProcessedInputSequence=" ++ uint64Text ack.lastProcessedInputSequence

def extraFields (update : WorldUpdate) (recipientSessionId : Int) (ownerAcks : List (MovementAck F)) :
    Bytes :=
  if update.kind = .snapshot then
    match findOwnerAck ownerAcks recipientSessionId with
    | none => []
    | some ack => localFields ack
  else match parseMovementEventSession update.payload with
    | none => []
    | some movementSession => match findOwnerAck ownerAcks movementSession with
      | none => []
      | some ack => if movementSession = recipientSessionId then ownerFields ack else poseFields ack

def FitsQueue (update : WorldUpdate) (recipientSessionId : Int) (ownerAcks : List (MovementAck F)) : Prop :=
  worldUpdateFrameHeaderSize + update.payload.length +
    (extraFields update recipientSessionId ownerAcks).length ≤ maxOutboundFrameSize

def Passes (update : WorldUpdate) (recipientSessionId : Int) (ownerAcks : List (MovementAck F)) : Prop :=
  ∃ personalized frame,
    copyWorldUpdateForSession update recipientSessionId ownerAcks = .ok personalized ∧
    ValidUpdate personalized ∧ encodeWorldUpdateFrame personalized = .ok frame ∧
    enqueue [] frame = .ok [frame] ∧
    Accumulation.append worldUpdateAccumulator {} frame = ({}, [personalized], .ok ())

inductive Returned : WorldUpdate → Prop where
  | built {builder after : WorldFrameUpdateBuilder} {frame : WorldFrameInputs F}
      {updates : List WorldUpdate} {update : WorldUpdate}
      (success : build builder frame = (after, updates, .ok ())) (there : update ∈ updates) :
      Returned update
  | snapshot {builder after : WorldFrameUpdateBuilder} {worldTick : UInt64} {payload : Bytes}
      {before : List WorldUpdate} {update : WorldUpdate}
      (success : appendSnapshot builder worldTick payload before = (after, before ++ [update], .ok ())) :
      Returned update

omit [FloatOps F] in
theorem ackFound {ownerAcks : List (MovementAck F)} {sessionId : Int} {ack : MovementAck F}
    (found : findOwnerAck ownerAcks sessionId = some ack) : ack ∈ ownerAcks ∧ ack.sessionId = sessionId := by
  unfold findOwnerAck at found
  have own := List.find?_some found
  exact ⟨List.mem_of_find?_eq_some found, by simpa using own⟩

theorem attachNothing {update : WorldUpdate} (valid : ValidUpdate update) :
    attach update [] = .ok update := by
  unfold ValidUpdate at valid
  simp only [attach, List.append_nil, valid]
  rfl

theorem attached {update personalized : WorldUpdate} {extra : Bytes}
    (h : attach update extra = .ok personalized) :
    personalized = { update with payload := update.payload ++ extra } := by
  unfold attach at h
  cases okay : validateWorldUpdate { update with payload := update.payload ++ extra } with
  | error e => simp [okay, bind, Except.bind] at h
  | ok done =>
    simp only [okay, bind, Except.bind, pure, Except.pure, Except.ok.injEq] at h
    exact h.symm

theorem movementPositive {payload : Bytes} {sessionId : Int}
    (h : parseMovementEventSession payload = some sessionId) : 0 < sessionId := by
  unfold parseMovementEventSession at h
  dsimp only at h
  split at h
  · contradiction
  · split at h
    · split at h
      · rename_i positive
        cases Option.some.inj h
        exact positive
      · contradiction
    · contradiction

theorem copyAttaches {update : WorldUpdate} (valid : ValidUpdate update) (recipientSessionId : Int)
    {ownerAcks : List (MovementAck F)} (finite : ∀ ack ∈ ownerAcks, ack.finite = true) :
    copyWorldUpdateForSession update recipientSessionId ownerAcks =
      attach update (extraFields update recipientSessionId ownerAcks) := by
  unfold copyWorldUpdateForSession extraFields
  by_cases snapshot : update.kind = .snapshot
  · rw [if_pos snapshot, if_pos snapshot]
    cases found : findOwnerAck ownerAcks recipientSessionId with
    | none => exact (attachNothing valid).symm
    | some ack =>
      have pose := finite ack (ackFound found).1
      exact if_neg (by simp [pose])
  · rw [if_neg snapshot, if_neg snapshot]
    cases parsed : parseMovementEventSession update.payload with
    | none => exact (attachNothing valid).symm
    | some movementSession =>
      dsimp only
      cases found : findOwnerAck ownerAcks movementSession with
      | none => exact (attachNothing valid).symm
      | some ack =>
        obtain ⟨there, own⟩ := ackFound found
        have pose := finite ack there
        dsimp only
        by_cases owner : movementSession = recipientSessionId
        · have positive := movementPositive parsed
          have formatted : formatMovementAck ack = .ok _ :=
            if_neg (by simp only [pose, Bool.true_eq_false, or_false]; omega)
          rw [if_pos owner, if_pos owner]
          unfold attachOwnerAckFields
          rw [formatted]
          rfl
        · rw [if_neg owner, if_neg owner]
          exact if_neg (by simp [pose])

theorem validLonger {update : WorldUpdate} (valid : ValidUpdate update) (extra : Bytes) :
    ValidUpdate { update with payload := update.payload ++ extra } ↔
      update.payload.length + extra.length ≤ maxUpdatePayload := by
  unfold ValidUpdate validateWorldUpdate at valid ⊢
  split at valid <;> try contradiction
  split at valid <;> try contradiction
  split at valid <;> try contradiction
  split at valid <;> try contradiction
  split at valid <;> try contradiction
  split at valid <;> try contradiction
  rename_i version known sequence _ snapshot event
  dsimp only
  rw [if_neg version, if_neg known, if_neg sequence, List.length_append]
  by_cases long : update.payload.length + extra.length > maxUpdatePayload
  · rw [if_pos long]
    exact ⟨nofun, fun short => absurd short (by omega)⟩
  · rw [if_neg long, if_neg snapshot, if_neg event]
    exact ⟨fun _ => by omega, fun _ => rfl⟩

-- Everything behind the copy depends on its length alone.
theorem passesExact {update : WorldUpdate} (valid : ValidUpdate update) (recipientSessionId : Int)
    {ownerAcks : List (MovementAck F)} (finite : ∀ ack ∈ ownerAcks, ack.finite = true) :
    Passes update recipientSessionId ownerAcks ↔ FitsQueue update recipientSessionId ownerAcks := by
  unfold Passes FitsQueue
  rw [copyAttaches valid recipientSessionId finite]
  generalize extraFields update recipientSessionId ownerAcks = extra
  constructor
  · rintro ⟨personalized, frame, copied, checked, encoded, queued, -⟩
    have longer := attached copied
    obtain ⟨-, rfl⟩ := (encodeExact personalized frame).mp encoded
    obtain ⟨⟨-, size⟩, -⟩ := (enqueueExact [] _ _).mp queued
    rw [updateLength, longer, List.length_append] at size
    omega
  · intro fits
    have room : maxOutboundFrameSize = 16400 := rfl
    have header : worldUpdateFrameHeaderSize = 36 := rfl
    have payload : maxUpdatePayload = 16384 := rfl
    have longer : ValidUpdate { update with payload := update.payload ++ extra } :=
      (validLonger valid extra).mpr (by omega)
    refine ⟨{ update with payload := update.payload ++ extra }, _, ?_, longer,
      (encodeExact _ _).mpr ⟨longer, rfl⟩, ?_, ?_⟩
    · unfold attach
      unfold ValidUpdate at longer
      simp only [longer, bind, Except.bind, pure, Except.pure]
    · refine (enqueueExact [] _ _).mpr ⟨⟨?_, ?_⟩, Nat.zero_lt_succ _, rfl⟩
      · rw [updateLength, header, CommandWire.frameHeaderSize]
        omega
      · rw [updateLength, List.length_append]
        omega
    · have whole : [] ++ updateBytes { update with payload := update.payload ++ extra } =
          joined updateBytes [{ update with payload := update.payload ++ extra }] ++ [] := by
        simp [joined]
      have only : ∀ u ∈ [{ update with payload := update.payload ++ extra }], ValidUpdate u := by
        intro u there
        rw [List.mem_singleton.mp there]
        exact longer
      have taken : Accumulation.append worldUpdateAccumulator ⟨[], false⟩
          (updateBytes { update with payload := update.payload ++ extra }) = _ :=
        Accumulation.appendFrames updateFormat rfl only whole (.clean []) (by
          rw [updateLength, List.length_append]
          exact Nat.le_trans (by omega) (Nat.le_refl (36 + 16384)))
      exact taken

structure EventOf (payload : Bytes) (update : WorldUpdate) : Prop where
  kind : update.kind = .event
  payload : update.payload = payload
  valid : ValidUpdate update

theorem appendedEvent {builder after : WorldFrameUpdateBuilder} {worldTick : UInt64} {payload : Bytes}
    {before updates : List WorldUpdate}
    (h : appendEvent builder worldTick payload before = (after, updates, .ok ())) :
    ∃ update, updates = before ++ [update] ∧ EventOf payload update := by
  unfold appendEvent at h
  split at h
  · simp at h
  · dsimp only at h
    split at h
    · simp at h
    · rename_i checked
      simp only [Prod.mk.injEq] at h
      exact ⟨_, h.2.1.symm, ⟨rfl, rfl, checked⟩⟩

theorem appendedEach {α : Type} {append : WorldFrameUpdateBuilder → α → List WorldUpdate → Built}
    {P : α → WorldUpdate → Prop} (each : ∀ {builder after x before updates},
      append builder x before = (after, updates, .ok ()) → ∃ update, updates = before ++ [update] ∧ P x update)
    {builder after : WorldFrameUpdateBuilder} {items : List α} {before updates : List WorldUpdate}
    (h : appendAll append builder items before = (after, updates, .ok ())) :
    ∃ made, updates = before ++ made ∧ List.Forall₂ P items made := by
  induction items generalizing builder before with
  | nil =>
    simp only [appendAll, Prod.mk.injEq] at h
    exact ⟨[], by rw [List.append_nil, h.2.1], .nil⟩
  | cons x items ih =>
    unfold appendAll andThen at h
    split at h
    · simp at h
    · rename_i first
      obtain ⟨update, rfl, good⟩ := each first
      obtain ⟨made, rfl, all⟩ := ih h
      exact ⟨update :: made, List.append_assoc _ _ _, .cons good all⟩

theorem builtEvents {builder after : WorldFrameUpdateBuilder} {frame : WorldFrameInputs F}
    {updates : List WorldUpdate} (success : build builder frame = (after, updates, .ok ())) :
    List.Forall₂ (fun input update => EventOf (inputPayload input) update) frame.inputs updates := by
  unfold build at success
  split at success
  · simp at success
  · obtain ⟨made, rfl, all⟩ := appendedEach (P := fun input update => EventOf (inputPayload input) update)
      (fun made => appendedEvent made) success
    exact all

theorem appendedSnapshot {builder after : WorldFrameUpdateBuilder} {worldTick : UInt64}
    {payload : Bytes} {before : List WorldUpdate} {update : WorldUpdate}
    (made : appendSnapshot builder worldTick payload before = (after, before ++ [update], .ok ())) :
    builder.updateSequence ≠ maxUint64 ∧
      update = ⟨currentProtocolVersion, .snapshot, worldTick, builder.updateSequence, 0, payload⟩ ∧
      ValidUpdate update := by
  unfold appendSnapshot at made
  split at made
  · simp at made
  · rename_i left
    dsimp only at made
    split at made
    · simp at made
    · rename_i checked
      simp only [Prod.mk.injEq, List.append_cancel_left_eq, List.cons.injEq] at made
      obtain ⟨-, ⟨rfl, -⟩, -⟩ := made
      exact ⟨left, rfl, checked⟩

theorem returnedValid {update : WorldUpdate} (returned : Returned (F := F) update) :
    ValidUpdate update := by
  cases returned with
  | built success there =>
    obtain ⟨input, -, made⟩ := pairedWith (builtEvents success) there
    exact made.valid
  | snapshot success => exact (appendedSnapshot success).2.2

theorem limitsExact {update : WorldUpdate} (returned : Returned (F := F) update)
    (recipientSessionId : Int) {ownerAcks : List (MovementAck F)}
    (finite : ∀ ack ∈ ownerAcks, ack.finite = true) :
    Passes update recipientSessionId ownerAcks ↔ FitsQueue update recipientSessionId ownerAcks :=
  passesExact (returnedValid returned) recipientSessionId finite

end

theorem snapshotMade {payload : Bytes} (small : payload.length ≤ maxUpdatePayload) :
    appendSnapshot {} 1 payload [] =
      (⟨2, 1⟩, [⟨currentProtocolVersion, .snapshot, 1, 1, 0, payload⟩], .ok ()) := by
  have valid : validateWorldUpdate ⟨currentProtocolVersion, .snapshot, 1, 1, 0, payload⟩ = .ok () := by
    simp [validateWorldUpdate, isKnownUpdateKind, small]
  unfold appendSnapshot
  rw [if_neg (by decide)]
  dsimp only
  rw [valid]
  rfl

theorem snapshotFits {payload : Bytes} (small : payload.length ≤ maxUpdatePayload) :
    Passes (F := ℚ) ⟨currentProtocolVersion, .snapshot, 1, 1, 0, payload⟩ 7 [] ↔
      worldUpdateFrameHeaderSize + payload.length ≤ maxOutboundFrameSize := by
  have made : Returned (F := ℚ) ⟨currentProtocolVersion, .snapshot, 1, 1, 0, payload⟩ :=
    .snapshot (snapshotMade small)
  exact passesExact (returnedValid made) 7 (fun ack there => absurd there List.not_mem_nil)

def wideNpc (id : Nat) : NpcSnapshot ℚ := ⟨id, List.replicate 32 115, 0, 0, 0, 10, true⟩

def campPayload : Bytes :=
  ((formatPayload EnvironmentEther.initial 0 [wideNpc 1, wideNpc 2] [⟨7, 1, 2, 0, 3, ascii "ann"⟩]).toOption).getD []

def campSnapshot : WorldUpdate := ⟨currentProtocolVersion, .snapshot, 1, 1, 0, campPayload⟩

def ownMove : MovementAck ℚ := ⟨7, 1, 2, 0, 1, 5⟩

theorem campPasses : 200 < campPayload.length ∧ 50 < (extraFields campSnapshot 7 [ownMove]).length ∧
    Passes campSnapshot 7 [ownMove] := by
  have small : campPayload.length ≤ maxUpdatePayload := by decide +kernel
  refine ⟨by decide +kernel, by decide +kernel,
    (limitsExact (.snapshot (snapshotMade small)) 7 ?_).mpr (by unfold FitsQueue; decide +kernel)⟩
  intro ack there
  obtain rfl := List.mem_singleton.mp there
  decide +kernel

def wideNpcs : List (NpcSnapshot ℚ) := (List.range' 1 134).map wideNpc ++ [{ wideNpc 135 with hp := 10000 }]

def widePayload : Bytes := ((formatPayload EnvironmentEther.initial 0 wideNpcs []).toOption).getD []

theorem wideSnapshotStuck :
    formatPayload EnvironmentEther.initial 0 wideNpcs [] = .ok widePayload ∧
    appendSnapshot {} 1 widePayload [] =
      (⟨2, 1⟩, [⟨currentProtocolVersion, .snapshot, 1, 1, 0, widePayload⟩], .ok ()) ∧
    ¬ Passes (F := ℚ) ⟨currentProtocolVersion, .snapshot, 1, 1, 0, widePayload⟩ 7 [] := by
  have formatted : (formatPayload EnvironmentEther.initial 0 wideNpcs []).toBool = true := by
    decide +kernel
  have length : widePayload.length = 16366 := by decide +kernel
  have small : widePayload.length ≤ maxUpdatePayload := by
    rw [length]
    decide
  refine ⟨?_, snapshotMade small, ?_⟩
  · unfold widePayload
    cases made : formatPayload EnvironmentEther.initial 0 wideNpcs [] with
    | error e => simp [made, Except.toBool] at formatted
    | ok payload => rfl
  · rw [snapshotFits small, length]
    decide

end SeedOrigin.PublishLimits
