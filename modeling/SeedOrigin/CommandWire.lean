import SeedOrigin.Accumulation

/-! NetworkCommand, its validation, the 16-byte command frame and the server's
FrameAccumulator. The enumeration keeps codes the wire can carry but no handler
knows, as the cast in the decoder does. -/
namespace SeedOrigin.CommandWire
open SeedOrigin.Octets SeedOrigin.Framing

def currentProtocolVersion : UInt16 := 1
def maxCommandPayload : Nat := 4096
def frameHeaderSize : Nat := 16
def readBufferSize : Nat := 4096

inductive CommandType where
  | login | move | chat | attack | castSpell | disconnect | requestSnapshot
  | unknown (code : UInt16)
  deriving DecidableEq, Repr

def CommandType.code : CommandType → UInt16
  | login => 1
  | move => 2
  | chat => 3
  | attack => 4
  | castSpell => 5
  | disconnect => 6
  | requestSnapshot => 7
  | unknown code => code

def CommandType.ofCode (code : UInt16) : CommandType :=
  if code = 1 then login
  else if code = 2 then move
  else if code = 3 then chat
  else if code = 4 then attack
  else if code = 5 then castSpell
  else if code = 6 then disconnect
  else if code = 7 then requestSnapshot
  else unknown code

def isKnownCommandType : CommandType → Bool
  | .unknown _ => false
  | _ => true

structure NetworkCommand where
  version : UInt16
  type : CommandType
  sessionId : Int64
  payload : Bytes
  deriving DecidableEq

def validateCommand (command : NetworkCommand) : Except String Unit :=
  if command.version ≠ currentProtocolVersion then .error "unsupported protocol version"
  else if isKnownCommandType command.type = false then .error "unknown command type"
  else if command.payload.length > maxCommandPayload then .error "command payload too large"
  else if command.type = .login ∧ command.sessionId.toInt ≠ 0 then
    .error "login must not provide an internal session id"
  else if command.type ≠ .login ∧ command.sessionId.toInt ≤ 0 then
    .error "command requires an active session id"
  else if (command.type = .disconnect ∨ command.type = .requestSnapshot) ∧
      command.payload ≠ [] then .error "command payload must be empty"
  else .ok ()

def ValidCommand (command : NetworkCommand) : Prop := validateCommand command = .ok ()
instance (command) : Decidable (ValidCommand command) := by unfold ValidCommand; infer_instance

def readFrameU16 (input : Bytes) (offset : Nat) : UInt16 := UInt16.ofNat (field input offset 2)
def readFrameU32 (input : Bytes) (offset : Nat) : Nat := field input offset 4
def readFrameU64 (input : Bytes) (offset : Nat) : Int := signed64 (field input offset 8)

-- Offsets 0, 2, 4 and 12.
def frameHeader (command : NetworkCommand) : List (Nat × Nat) :=
  [(2, command.version.toNat), (2, command.type.code.toNat),
    (8, residue64 command.sessionId.toInt), (4, command.payload.length)]

def frameBytes (command : NetworkCommand) : Bytes := packed (frameHeader command) ++ command.payload

def encodeFrame (command : NetworkCommand) : Except String Bytes := do
  validateCommand command
  return frameBytes command

def decodeFrame (frame : Bytes) : Except String NetworkCommand :=
  if frame.length < frameHeaderSize then .error "frame header is incomplete"
  else
    let payloadLength := readFrameU32 frame 12
    if payloadLength > maxCommandPayload ∨ frame.length ≠ frameHeaderSize + payloadLength then
      .error "frame length is invalid"
    else do
      let command : NetworkCommand :=
        { version := readFrameU16 frame 0
          type := CommandType.ofCode (readFrameU16 frame 2)
          sessionId := Int64.ofInt (readFrameU64 frame 4)
          payload := frame.drop frameHeaderSize }
      validateCommand command
      return command

def commandHead (buffered : Bytes) : Head String :=
  if buffered.length < frameHeaderSize then .incomplete
  else
    let payloadLength := readFrameU32 buffered 12
    if payloadLength > maxCommandPayload then .corrupt "stream payload exceeds maximum size"
    else if buffered.length < frameHeaderSize + payloadLength then .incomplete
    else .frame (frameHeaderSize + payloadLength)

def frameAccumulator : Accumulation.Rules NetworkCommand String :=
  { head := commandHead
    decode := decodeFrame
    limit := frameHeaderSize + maxCommandPayload
    isFailed := "frame accumulator is failed"
    tooLong := "stream frame exceeds maximum size" }

theorem ofCodeCode {type : CommandType} (known : isKnownCommandType type = true) :
    CommandType.ofCode type.code = type := by
  cases type with
  | unknown code => simp [isKnownCommandType] at known
  | _ => rfl

theorem validParts {command : NetworkCommand} (ok : ValidCommand command) :
    isKnownCommandType command.type = true ∧ command.payload.length ≤ maxCommandPayload := by
  unfold ValidCommand validateCommand at ok
  split at ok <;> try contradiction
  split at ok <;> try contradiction
  split at ok <;> try contradiction
  rename_i known small
  exact ⟨by simpa using known, by omega⟩

theorem headerSize (command : NetworkCommand) :
    packedSize (frameHeader command) = frameHeaderSize := rfl

@[simp] theorem frameLength (command : NetworkCommand) :
    (frameBytes command).length = frameHeaderSize + command.payload.length := by
  rw [frameBytes, List.length_append, packedLength, headerSize]

structure Fields (command : NetworkCommand) (raw : Bytes) : Prop where
  version : readFrameU16 raw 0 = command.version
  type : readFrameU16 raw 2 = command.type.code
  session : readFrameU64 raw 4 = command.sessionId.toInt
  payload : readFrameU32 raw 12 = command.payload.length

theorem frameFields (command : NetworkCommand) (rest : Bytes)
    (small : command.payload.length ≤ maxCommandPayload) :
    Fields command (frameBytes command ++ rest) := by
  have length : command.payload.length < 256 ^ 4 := by
    simp only [maxCommandPayload] at small
    omega
  rw [frameBytes, List.append_assoc]
  have at' (i : Nat) {width value : Nat} (there : (frameHeader command)[i]? = some (width, value))
      (bound : value < 256 ^ width) := packedAt _ i there bound (command.payload ++ rest)
  have signed := signedResidue command.sessionId.toInt (Int64.le_toInt _) (Int64.toInt_lt _)
  exact
    { version := (congrArg UInt16.ofNat (at' 0 rfl (UInt16.toNat_lt _))).trans UInt16.ofNat_toNat
      type := (congrArg UInt16.ofNat (at' 1 rfl (UInt16.toNat_lt _))).trans UInt16.ofNat_toNat
      session := (congrArg signed64 (at' 2 rfl (residueBound _))).trans signed
      payload := at' 3 rfl length }

theorem decodeEncoded {command : NetworkCommand} (ok : ValidCommand command) :
    decodeFrame (frameBytes command) = .ok command := by
  obtain ⟨known, small⟩ := validParts ok
  have fields := frameFields command [] small
  rw [List.append_nil] at fields
  have tail : (frameBytes command).drop frameHeaderSize = command.payload := by
    exact List.drop_left' ((packedLength _).trans (headerSize command))
  have bytes : ¬ (command.payload.length > maxCommandPayload ∨
      (frameBytes command).length ≠ frameHeaderSize + command.payload.length) := by
    rw [frameLength]
    omega
  have whole : ¬ (frameBytes command).length < frameHeaderSize := by
    rw [frameLength]
    omega
  simp only [decodeFrame, if_neg whole, fields.payload, if_neg bytes, fields.version, fields.type,
    fields.session, ofCodeCode known, Int64.ofInt_toInt, tail]
  unfold ValidCommand at ok
  rw [ok]
  rfl

theorem commandFormat : Format commandHead decodeFrame frameBytes id ValidCommand where
  announced command rest ok := by
    have small := (validParts ok).2
    have payload := (frameFields command rest small).payload
    have whole : ¬ (frameBytes command ++ rest).length < frameHeaderSize := by
      rw [List.length_append, frameLength]
      omega
    have bytes : ¬ (frameBytes command ++ rest).length <
        frameHeaderSize + command.payload.length := by
      rw [List.length_append, frameLength]
      omega
    have bounded : ¬ command.payload.length > maxCommandPayload := by omega
    simp only [commandHead, if_neg whole, payload, if_neg bounded, if_neg bytes, frameLength]
  decoded command ok := decodeEncoded ok
  nonempty command ok := by
    rw [frameLength, frameHeaderSize]
    omega
  waiting command n ok short := by
    have small := (validParts ok).2
    have len : ((frameBytes command).take n).length = n := by
      rw [List.length_take]
      omega
    rw [frameLength] at short
    by_cases header : n < frameHeaderSize
    · simp [commandHead, len, header]
    · have payload := (frameFields command [] small).payload
      rw [List.append_nil] at payload
      have same : readFrameU32 ((frameBytes command).take n) 12 = command.payload.length := by
        rw [← payload]
        exact fieldTake _ 12 4 n (by simp only [frameHeaderSize] at header; omega)
      have bounded : ¬ command.payload.length > maxCommandPayload := by omega
      simp only [commandHead, len, if_neg header, same, if_neg bounded, if_pos short]

theorem encodeExact (command : NetworkCommand) (frame : Bytes) :
    encodeFrame command = .ok frame ↔ ValidCommand command ∧ frame = frameBytes command := by
  unfold ValidCommand encodeFrame
  cases valid : validateCommand command with
  | error e => simp [bind, Except.bind]
  | ok _ => simp [bind, Except.bind, pure, Except.pure, eq_comm]

end SeedOrigin.CommandWire
