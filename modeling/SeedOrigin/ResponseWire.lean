import SeedOrigin.ClientInbound
import SeedOrigin.Runtime

/-! The frames that answer a login and a disconnect, as the client cuts them off the
stream and decodes them. -/
namespace SeedOrigin.ResponseWire
open SeedOrigin.Octets SeedOrigin.Framing SeedOrigin.CommandWire SeedOrigin.UpdateWire
open SeedOrigin.ClientInbound SeedOrigin.Runtime SeedOrigin.Conversions

-- The payload is short enough here, so that a status of neither kind is refused
-- right after the version.
def decodeLoginResponseFrame (frame : Bytes) : Except String LoginResponse :=
  if frame.length < frameHeaderSize then .error "login response frame header is incomplete"
  else
    let payloadLength := readFrameU32 frame 12
    if payloadLength > maxCommandPayload ∨ frame.length ≠ frameHeaderSize + payloadLength then
      .error "login response frame length is invalid"
    else
      let response (accepted : Bool) : LoginResponse :=
        { version := readFrameU16 frame 0
          accepted := accepted
          sessionId := readFrameU64 frame 4
          payload := frame.drop frameHeaderSize }
      let status := readFrameU16 frame 2
      if status = 1 then do
        validateLoginResponse (response true)
        return response true
      else if status = 2 then do
        validateLoginResponse (response false)
        return response false
      else if readFrameU16 frame 0 ≠ CommandWire.currentProtocolVersion then
        .error "unsupported login response version"
      else .error "unknown login response status"

def decodeDisconnectResponseFrame (frame : Bytes) : Except String DisconnectResponse :=
  if frame.length < frameHeaderSize then .error "disconnect response frame header is incomplete"
  else
    let payloadLength := readFrameU32 frame 12
    if payloadLength > maxCommandPayload ∨ frame.length ≠ frameHeaderSize + payloadLength then
      .error "disconnect response frame length is invalid"
    else if readFrameU16 frame 2 ≠ CommandType.disconnect.code then
      .error "frame is not a disconnect response"
    else do
      let payload := frame.drop frameHeaderSize
      let response : DisconnectResponse :=
        { version := readFrameU16 frame 0
          accepted := payload = []
          sessionId := readFrameU64 frame 4
          payload := payload }
      validateDisconnectResponse response
      return response

def Wide (sessionId : Int) : Prop := -2 ^ 63 ≤ sessionId ∧ sessionId < 2 ^ 63
instance (sessionId) : Decidable (Wide sessionId) := by unfold Wide; infer_instance

theorem loginParts {response : LoginResponse} (ok : validateLoginResponse response = .ok ()) :
    response.version = CommandWire.currentProtocolVersion ∧
      response.payload.length ≤ maxCommandPayload := by
  unfold validateLoginResponse at ok
  split at ok <;> try contradiction
  rename_i version
  split at ok <;> try contradiction
  rename_i small
  exact ⟨by simpa using version, Nat.le_of_not_gt small⟩

theorem disconnectParts {response : DisconnectResponse}
    (ok : validateDisconnectResponse response = .ok ()) :
    response.version = CommandWire.currentProtocolVersion ∧
      response.payload.length ≤ maxCommandPayload ∧
      response.accepted = decide (response.payload = []) := by
  unfold validateDisconnectResponse at ok
  split at ok <;> try contradiction
  rename_i version
  split at ok <;> try contradiction
  rename_i small
  refine ⟨by simpa using version, Nat.le_of_not_gt small, ?_⟩
  split at ok
  · rename_i accepted
    split at ok <;> try contradiction
    rename_i plain
    simp only [not_or, not_not] at plain
    simp [accepted, plain.2]
  · rename_i rejected
    split at ok <;> try contradiction
    rename_i reason
    simp [rejected, reason]

@[simp] theorem responseLength (version : UInt16) (code : Nat) (sessionId : Int) (payload : Bytes) :
    (responseBytes version code sessionId payload).length = frameHeaderSize + payload.length := by
  rw [responseBytes, List.length_append, packedLength]
  rfl

structure ResponseFields (version : UInt16) (code : Nat) (sessionId : Int) (payload raw : Bytes) :
    Prop where
  version : readFrameU16 raw 0 = version
  code : readFrameU16 raw 2 = UInt16.ofNat code
  session : readFrameU64 raw 4 = sessionId
  payload : readFrameU32 raw 12 = payload.length

theorem responseFields (version : UInt16) {code : Nat} {sessionId : Int} {payload : Bytes}
    (coded : code < 256 ^ 2) (wide : Wide sessionId) (small : payload.length ≤ maxCommandPayload)
    (rest : Bytes) :
    ResponseFields version code sessionId payload
      (responseBytes version code sessionId payload ++ rest) := by
  have length : payload.length < 256 ^ 4 := by
    simp only [maxCommandPayload] at small
    omega
  rw [responseBytes, List.append_assoc]
  have at' (i : Nat) {width value : Nat}
      (there : [(2, version.toNat), (2, code), (8, residue64 sessionId), (4, payload.length)][i]? =
        some (width, value))
      (bound : value < 256 ^ width) := packedAt _ i there bound (payload ++ rest)
  have signed := signedResidue sessionId wide.1 wide.2
  exact
    { version := (congrArg UInt16.ofNat (at' 0 rfl (UInt16.toNat_lt _))).trans UInt16.ofNat_toNat
      code := congrArg UInt16.ofNat (at' 1 rfl coded)
      session := (congrArg signed64 (at' 2 rfl (residueBound _))).trans signed
      payload := at' 3 rfl length }

section
variable {code : Nat} {sessionId : Int} {payload : Bytes} (coded : code < 256 ^ 2)
  (wide : Wide sessionId) (small : payload.length ≤ maxCommandPayload)

def wired (code : Nat) (sessionId : Int) (payload : Bytes) : Bytes :=
  responseBytes CommandWire.currentProtocolVersion code sessionId payload

include coded wide small

theorem responseAnnounced (rest : Bytes) :
    inboundHead (wired code sessionId payload ++ rest) =
      .frame (wired code sessionId payload).length := by
  obtain ⟨version, -, -, announced⟩ :=
    responseFields CommandWire.currentProtocolVersion coded wide small rest
  have length : (wired code sessionId payload ++ rest).length =
      frameHeaderSize + payload.length + rest.length := by
    rw [List.length_append, wired, responseLength]
  have header : frameHeaderSize = 16 := rfl
  have two : ¬ (wired code sessionId payload ++ rest).length < 2 := by omega
  have whole : ¬ (wired code sessionId payload ++ rest).length < frameHeaderSize := by omega
  have bytes : ¬ (wired code sessionId payload ++ rest).length <
      frameHeaderSize + payload.length := by omega
  have bounded : ¬ payload.length > maxCommandPayload := by omega
  have supported : ¬ isSupportedInboundPrefix CommandWire.currentProtocolVersion = false := by decide
  have other : CommandWire.currentProtocolVersion ≠ worldUpdateFrameMagic := by decide
  unfold wired at *
  simp only [inboundHead, if_neg two, version, if_neg supported, if_neg other, if_neg whole,
    announced, if_neg bounded, if_neg bytes, responseLength]

theorem responseWaiting (n : Nat) (short : n < (wired code sessionId payload).length) :
    inboundHead ((wired code sessionId payload).take n) = .incomplete := by
  obtain ⟨version, -, -, announced⟩ :=
    responseFields CommandWire.currentProtocolVersion coded wide small []
  rw [List.append_nil] at version announced
  have len : ((wired code sessionId payload).take n).length = n := by
    rw [List.length_take]
    omega
  unfold wired at *
  rw [responseLength] at short
  by_cases two : n < 2
  · simp only [inboundHead, len, if_pos two]
  have magic : readFrameU16 ((responseBytes CommandWire.currentProtocolVersion code sessionId
      payload).take n) 0 = CommandWire.currentProtocolVersion := by
    rw [← version]
    exact congrArg UInt16.ofNat (fieldTake _ 0 2 n (by omega))
  have supported : ¬ isSupportedInboundPrefix CommandWire.currentProtocolVersion = false := by decide
  have other : CommandWire.currentProtocolVersion ≠ worldUpdateFrameMagic := by decide
  by_cases header : n < frameHeaderSize
  · simp only [inboundHead, len, if_neg two, magic, if_neg supported, if_neg other, if_pos header]
  · have length : readFrameU32 ((responseBytes CommandWire.currentProtocolVersion code sessionId
        payload).take n) 12 = payload.length := by
      rw [← announced]
      exact fieldTake _ 12 4 n (by simp only [frameHeaderSize] at header; omega)
    have bounded : ¬ payload.length > maxCommandPayload := by omega
    simp only [inboundHead, len, if_neg two, magic, if_neg supported, if_neg other, if_neg header,
      length, if_neg bounded, if_pos short]

theorem inboundResponse :
    inboundFrame (wired code sessionId payload) =
      ⟨if UInt16.ofNat code = CommandType.disconnect.code then .disconnectResponse
        else .loginResponse, wired code sessionId payload⟩ := by
  obtain ⟨version, type, -, -⟩ :=
    responseFields CommandWire.currentProtocolVersion coded wide small []
  rw [List.append_nil] at version type
  have other : CommandWire.currentProtocolVersion ≠ worldUpdateFrameMagic := by decide
  unfold wired
  simp only [inboundFrame, version, type, if_neg other]

end

theorem responseBody (code : Nat) (sessionId : Int) {payload : Bytes}
    (small : payload.length ≤ maxCommandPayload) :
    ¬ (wired code sessionId payload).length < frameHeaderSize ∧
      ¬ (payload.length > maxCommandPayload ∨
        (wired code sessionId payload).length ≠ frameHeaderSize + payload.length) ∧
      (wired code sessionId payload).drop frameHeaderSize = payload := by
  have length : (wired code sessionId payload).length = frameHeaderSize + payload.length :=
    responseLength _ _ _ _
  refine ⟨by omega, by omega, ?_⟩
  exact List.drop_left' (packedLength _)

theorem decodeLogin {response : LoginResponse} (ok : validateLoginResponse response = .ok ())
    (wide : Wide response.sessionId) :
    decodeLoginResponseFrame (wired (if response.accepted then 1 else 2) response.sessionId
      response.payload) = .ok response := by
  obtain ⟨version, small⟩ := loginParts ok
  obtain ⟨v, accepted, sessionId, payload⟩ := response
  dsimp only at version small wide
  subst version
  cases accepted with
  | true =>
    obtain ⟨whole, bytes, rest⟩ := responseBody 1 sessionId small
    obtain ⟨version, status, session, length⟩ := responseFields
      CommandWire.currentProtocolVersion (by decide : 1 < 256 ^ 2) wide small []
    rw [List.append_nil] at version status session length
    unfold wired at *
    simp only [if_true, decodeLoginResponseFrame, if_neg whole, length, if_neg bytes, status,
      version, session, rest]
    rw [if_pos (by decide), ok]
    rfl
  | false =>
    obtain ⟨whole, bytes, rest⟩ := responseBody 2 sessionId small
    obtain ⟨version, status, session, length⟩ := responseFields
      CommandWire.currentProtocolVersion (by decide : 2 < 256 ^ 2) wide small []
    rw [List.append_nil] at version status session length
    unfold wired at *
    simp only [Bool.false_eq_true, if_false, decodeLoginResponseFrame, if_neg whole, length,
      if_neg bytes, status, version, session, rest]
    rw [if_neg (by decide), if_pos (by decide), ok]
    rfl

theorem decodeDisconnect {response : DisconnectResponse}
    (ok : validateDisconnectResponse response = .ok ()) (wide : Wide response.sessionId) :
    decodeDisconnectResponseFrame (wired CommandType.disconnect.code.toNat response.sessionId
      response.payload) = .ok response := by
  obtain ⟨version, small, told⟩ := disconnectParts ok
  obtain ⟨v, accepted, sessionId, payload⟩ := response
  dsimp only at version small wide
  subst version
  replace told : accepted = decide (payload = []) := told
  subst told
  have coded : CommandType.disconnect.code.toNat < 256 ^ 2 := by decide
  obtain ⟨whole, bytes, rest⟩ :=
    responseBody CommandType.disconnect.code.toNat sessionId small
  obtain ⟨version, type, session, length⟩ :=
    responseFields CommandWire.currentProtocolVersion coded wide small []
  rw [List.append_nil] at version type session length
  rw [UInt16.ofNat_toNat] at type
  unfold wired at *
  have known : ¬ CommandType.disconnect.code ≠ CommandType.disconnect.code := not_not.mpr rfl
  simp only [decodeDisconnectResponseFrame, if_neg whole, length, if_neg bytes, type,
    if_neg known, version, session, rest]
  rw [ok]
  rfl

end SeedOrigin.ResponseWire
