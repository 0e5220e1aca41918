import SeedOrigin.Accumulation

/-! WorldUpdate, its validation, the 36-byte update frame and the client's
WorldUpdateAccumulator. -/
namespace SeedOrigin.UpdateWire
open SeedOrigin.Octets SeedOrigin.Framing

def currentProtocolVersion : UInt16 := 1
def maxUpdatePayload : Nat := 16384
def worldUpdateFrameMagic : UInt16 := 0x5755
def worldUpdateFrameHeaderSize : Nat := 36

inductive UpdateKind where
  | snapshot | event
  | unknown (code : UInt16)
  deriving DecidableEq, Repr

def UpdateKind.code : UpdateKind → UInt16
  | snapshot => 1
  | event => 2
  | unknown code => code

def UpdateKind.ofCode (code : UInt16) : UpdateKind :=
  if code = 1 then snapshot else if code = 2 then event else unknown code

def isKnownUpdateKind : UpdateKind → Bool
  | .unknown _ => false
  | _ => true

structure WorldUpdate where
  version : UInt16
  kind : UpdateKind
  worldTick : UInt64
  sequence : UInt64
  eventId : UInt64
  payload : Bytes
  deriving DecidableEq

def validateWorldUpdate (update : WorldUpdate) : Except String Unit :=
  if update.version ≠ currentProtocolVersion then .error "unsupported update protocol version"
  else if isKnownUpdateKind update.kind = false then .error "unknown world update kind"
  else if update.sequence = 0 then .error "world update sequence must be positive"
  else if update.payload.length > maxUpdatePayload then .error "world update payload too large"
  else if update.kind = .snapshot ∧ update.eventId ≠ 0 then
    .error "snapshot must not provide an event id"
  else if update.kind = .event ∧ update.eventId = 0 then .error "event must provide an event id"
  else .ok ()

def ValidUpdate (update : WorldUpdate) : Prop := validateWorldUpdate update = .ok ()
instance (update) : Decidable (ValidUpdate update) := by unfold ValidUpdate; infer_instance

def read16 (input : Bytes) (offset : Nat) : UInt16 := UInt16.ofNat (field input offset 2)
def read32 (input : Bytes) (offset : Nat) : Nat := field input offset 4
def read64 (input : Bytes) (offset : Nat) : UInt64 := UInt64.ofNat (field input offset 8)

-- Offsets 0, 2, 4, 6, 8, 16, 24 and 32.
def updateHeader (update : WorldUpdate) : List (Nat × Nat) :=
  [(2, worldUpdateFrameMagic.toNat), (2, update.version.toNat), (2, update.kind.code.toNat),
    (2, 0), (8, update.worldTick.toNat), (8, update.sequence.toNat), (8, update.eventId.toNat),
    (4, update.payload.length)]

def updateBytes (update : WorldUpdate) : Bytes := packed (updateHeader update) ++ update.payload

-- The check against UINT32_MAX cannot fail after the payload check.
def encodeWorldUpdateFrame (update : WorldUpdate) : Except String Bytes := do
  validateWorldUpdate update
  if update.payload.length > 2 ^ 32 - 1 then
    throw "world update payload is too large for a frame"
  return updateBytes update

def decodeWorldUpdateFrame (frame : Bytes) : Except String WorldUpdate :=
  if frame.length < worldUpdateFrameHeaderSize then
    .error "world update frame header is incomplete"
  else if read16 frame 0 ≠ worldUpdateFrameMagic ∨ read16 frame 6 ≠ 0 then
    .error "world update frame identity is invalid"
  else
    let payloadLength := read32 frame 32
    if payloadLength > maxUpdatePayload ∨
        frame.length ≠ worldUpdateFrameHeaderSize + payloadLength then
      .error "world update frame length is invalid"
    else do
      let update : WorldUpdate :=
        { version := read16 frame 2
          kind := UpdateKind.ofCode (read16 frame 4)
          worldTick := read64 frame 8
          sequence := read64 frame 16
          eventId := read64 frame 24
          payload := frame.drop worldUpdateFrameHeaderSize }
      validateWorldUpdate update
      return update

def updateHead (buffered : Bytes) : Head String :=
  if buffered.length < worldUpdateFrameHeaderSize then .incomplete
  else
    let payloadLength := read32 buffered 32
    if payloadLength > maxUpdatePayload then
      .corrupt "world update stream payload exceeds maximum size"
    else if buffered.length < worldUpdateFrameHeaderSize + payloadLength then .incomplete
    else .frame (worldUpdateFrameHeaderSize + payloadLength)

def worldUpdateAccumulator : Accumulation.Rules WorldUpdate String :=
  { head := updateHead
    decode := decodeWorldUpdateFrame
    limit := worldUpdateFrameHeaderSize + maxUpdatePayload
    isFailed := "world update accumulator is failed"
    tooLong := "world update stream frame exceeds maximum size" }

theorem ofCodeCode {kind : UpdateKind} (known : isKnownUpdateKind kind = true) :
    UpdateKind.ofCode kind.code = kind := by
  cases kind with
  | unknown code => simp [isKnownUpdateKind] at known
  | _ => rfl

theorem validParts {update : WorldUpdate} (ok : ValidUpdate update) :
    isKnownUpdateKind update.kind = true ∧ update.payload.length ≤ maxUpdatePayload := by
  unfold ValidUpdate validateWorldUpdate at ok
  split at ok <;> try contradiction
  split at ok <;> try contradiction
  split at ok <;> try contradiction
  split at ok <;> try contradiction
  rename_i known _ small
  exact ⟨by simpa using known, by omega⟩

theorem headerSize (update : WorldUpdate) :
    packedSize (updateHeader update) = worldUpdateFrameHeaderSize := rfl

@[simp] theorem updateLength (update : WorldUpdate) :
    (updateBytes update).length = worldUpdateFrameHeaderSize + update.payload.length := by
  rw [updateBytes, List.length_append, packedLength, headerSize]

structure Fields (update : WorldUpdate) (raw : Bytes) : Prop where
  magic : read16 raw 0 = worldUpdateFrameMagic
  version : read16 raw 2 = update.version
  kind : read16 raw 4 = update.kind.code
  reserved : read16 raw 6 = 0
  worldTick : read64 raw 8 = update.worldTick
  sequence : read64 raw 16 = update.sequence
  eventId : read64 raw 24 = update.eventId
  payload : read32 raw 32 = update.payload.length

theorem frameFields (update : WorldUpdate) (rest : Bytes)
    (small : update.payload.length ≤ maxUpdatePayload) :
    Fields update (updateBytes update ++ rest) := by
  have length : update.payload.length < 256 ^ 4 := by
    simp only [maxUpdatePayload] at small
    omega
  rw [updateBytes, List.append_assoc]
  have at' (i : Nat) {width value : Nat} (there : (updateHeader update)[i]? = some (width, value))
      (bound : value < 256 ^ width) := packedAt _ i there bound (update.payload ++ rest)
  exact
    { magic := congrArg UInt16.ofNat (at' 0 rfl (by decide))
      version := (congrArg UInt16.ofNat (at' 1 rfl (UInt16.toNat_lt _))).trans UInt16.ofNat_toNat
      kind := (congrArg UInt16.ofNat (at' 2 rfl (UInt16.toNat_lt _))).trans UInt16.ofNat_toNat
      reserved := congrArg UInt16.ofNat (at' 3 rfl (by decide))
      worldTick := (congrArg UInt64.ofNat (at' 4 rfl (UInt64.toNat_lt _))).trans UInt64.ofNat_toNat
      sequence := (congrArg UInt64.ofNat (at' 5 rfl (UInt64.toNat_lt _))).trans UInt64.ofNat_toNat
      eventId := (congrArg UInt64.ofNat (at' 6 rfl (UInt64.toNat_lt _))).trans UInt64.ofNat_toNat
      payload := at' 7 rfl length }

theorem decodeEncoded {update : WorldUpdate} (ok : ValidUpdate update) :
    decodeWorldUpdateFrame (updateBytes update) = .ok update := by
  obtain ⟨known, small⟩ := validParts ok
  have fields := frameFields update [] small
  rw [List.append_nil] at fields
  have tail : (updateBytes update).drop worldUpdateFrameHeaderSize = update.payload := by
    exact List.drop_left' ((packedLength _).trans (headerSize update))
  have whole : ¬ (updateBytes update).length < worldUpdateFrameHeaderSize := by
    rw [updateLength]
    omega
  have identity : ¬ (worldUpdateFrameMagic ≠ worldUpdateFrameMagic ∨ (0 : UInt16) ≠ 0) := by simp
  have bytes : ¬ (update.payload.length > maxUpdatePayload ∨
      (updateBytes update).length ≠ worldUpdateFrameHeaderSize + update.payload.length) := by
    rw [updateLength]
    omega
  simp only [decodeWorldUpdateFrame, if_neg whole, fields.magic, fields.reserved, if_neg identity,
    fields.payload, if_neg bytes, fields.version, fields.kind, ofCodeCode known, fields.worldTick,
    fields.sequence, fields.eventId, tail]
  unfold ValidUpdate at ok
  rw [ok]
  rfl

theorem updateFormat :
    Format updateHead decodeWorldUpdateFrame updateBytes id ValidUpdate where
  announced update rest ok := by
    have small := (validParts ok).2
    have payload := (frameFields update rest small).payload
    have whole : ¬ (updateBytes update ++ rest).length < worldUpdateFrameHeaderSize := by
      rw [List.length_append, updateLength]
      omega
    have bytes : ¬ (updateBytes update ++ rest).length <
        worldUpdateFrameHeaderSize + update.payload.length := by
      rw [List.length_append, updateLength]
      omega
    have bounded : ¬ update.payload.length > maxUpdatePayload := by omega
    simp only [updateHead, if_neg whole, payload, if_neg bounded, if_neg bytes, updateLength]
  decoded update ok := decodeEncoded ok
  nonempty update ok := by
    rw [updateLength, worldUpdateFrameHeaderSize]
    omega
  waiting update n ok short := by
    have small := (validParts ok).2
    have len : ((updateBytes update).take n).length = n := by
      rw [List.length_take]
      omega
    rw [updateLength] at short
    by_cases header : n < worldUpdateFrameHeaderSize
    · simp [updateHead, len, header]
    · have payload := (frameFields update [] small).payload
      rw [List.append_nil] at payload
      have same : read32 ((updateBytes update).take n) 32 = update.payload.length := by
        rw [← payload]
        exact fieldTake _ 32 4 n (by simp only [worldUpdateFrameHeaderSize] at header; omega)
      have bounded : ¬ update.payload.length > maxUpdatePayload := by omega
      simp only [updateHead, len, if_neg header, same, if_neg bounded, if_pos short]

theorem updateStable : Stable updateHead where
  sized buffered size first := by
    unfold updateHead at first
    split at first
    · cases first
    · dsimp only at first
      split at first
      · cases first
      · split at first <;> cases first
        exact ⟨by rw [worldUpdateFrameHeaderSize]; omega, by omega⟩
  grows buffered size more first := by
    unfold updateHead at first ⊢
    split at first
    · cases first
    · rename_i whole
      have same : read32 (buffered ++ more) 32 = read32 buffered 32 := by
        have front := fieldTake (buffered ++ more) 32 4 buffered.length
          (by simp only [worldUpdateFrameHeaderSize] at whole; omega)
        rw [List.take_left] at front
        exact front.symm
      have longer : buffered.length ≤ (buffered ++ more).length := by simp
      dsimp only at first ⊢
      rw [if_neg (by omega), same]
      split at first
      · cases first
      · rename_i bounded
        split at first <;> cases first
        rw [if_neg bounded, if_neg (by omega)]

theorem encodeExact (update : WorldUpdate) (frame : Bytes) :
    encodeWorldUpdateFrame update = .ok frame ↔ ValidUpdate update ∧ frame = updateBytes update := by
  unfold ValidUpdate
  cases valid : validateWorldUpdate update with
  | error e => simp [encodeWorldUpdateFrame, valid, bind, Except.bind]
  | ok _ =>
    have small := (validParts valid).2
    have short : ¬ update.payload.length > 2 ^ 32 - 1 := by
      simp only [maxUpdatePayload] at small
      omega
    simp only [encodeWorldUpdateFrame, valid, bind, Except.bind, if_neg short, pure, Except.pure,
      Except.ok.injEq, true_and]
    exact eq_comm

end SeedOrigin.UpdateWire
