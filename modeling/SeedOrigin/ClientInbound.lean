import SeedOrigin.CommandWire
import SeedOrigin.UpdateWire

/-! ClientInboundDemux: it cuts the client's byte stream into the frames of
responses and updates. -/
namespace SeedOrigin.ClientInbound
open SeedOrigin.Octets SeedOrigin.Framing SeedOrigin.CommandWire SeedOrigin.UpdateWire

inductive InboundFrameKind where
  | loginResponse | disconnectResponse | worldUpdate
  deriving DecidableEq, Repr

structure InboundFrame where
  kind : InboundFrameKind
  bytes : Bytes
  deriving DecidableEq

def isSupportedInboundPrefix (inboundPrefix : UInt16) : Bool :=
  inboundPrefix = worldUpdateFrameMagic ∨ inboundPrefix = CommandWire.currentProtocolVersion

def inboundHead (buffered : Bytes) : Head String :=
  if buffered.length < 2 then .incomplete
  else
    let magic := readFrameU16 buffered 0
    if isSupportedInboundPrefix magic = false then .corrupt "inbound frame prefix is invalid"
    else if magic = worldUpdateFrameMagic then
      if buffered.length < worldUpdateFrameHeaderSize then .incomplete
      else
        let payloadLength := readFrameU32 buffered 32
        if payloadLength > maxUpdatePayload then
          .corrupt "world update stream payload exceeds maximum size"
        else if buffered.length < worldUpdateFrameHeaderSize + payloadLength then .incomplete
        else .frame (worldUpdateFrameHeaderSize + payloadLength)
    else if buffered.length < frameHeaderSize then .incomplete
    else
      let payloadLength := readFrameU32 buffered 12
      if payloadLength > maxCommandPayload then
        .corrupt "command response stream payload exceeds maximum size"
      else if buffered.length < frameHeaderSize + payloadLength then .incomplete
      else .frame (frameHeaderSize + payloadLength)

-- The kind is read from header bytes that every complete frame contains.
def inboundFrame (bytes : Bytes) : InboundFrame :=
  { kind :=
      if readFrameU16 bytes 0 = worldUpdateFrameMagic then .worldUpdate
      else if readFrameU16 bytes 2 = CommandType.disconnect.code then .disconnectResponse
      else .loginResponse
    bytes := bytes }

structure ClientInboundDemux where
  buffered : Bytes := []
  failedState : Bool := false
  deriving DecidableEq

def ClientInboundDemux.append (demux : ClientInboundDemux) (bytes : Bytes) :
    ClientInboundDemux × List InboundFrame × Except String Unit :=
  if demux.failedState then (demux, [], .error "client inbound demux is failed")
  else
    let buffered := demux.buffered ++ bytes
    match drain inboundHead (fun frame => .ok (inboundFrame frame)) (buffered.length + 1) buffered with
    | (frames, left, none) => (⟨left, false⟩, frames, .ok ())
    | (frames, left, some e) => (⟨left, true⟩, frames, .error e)

theorem inboundUpdate (update : WorldUpdate) (ok : ValidUpdate update) :
    inboundFrame (updateBytes update) = ⟨.worldUpdate, updateBytes update⟩ := by
  have fields := frameFields update [] (UpdateWire.validParts ok).2
  rw [List.append_nil] at fields
  have magic : readFrameU16 (updateBytes update) 0 = worldUpdateFrameMagic := fields.magic
  simp only [inboundFrame, magic, if_true]

theorem inboundFormat :
    Format inboundHead (fun frame => .ok (inboundFrame frame)) updateBytes
      (fun u => ⟨.worldUpdate, updateBytes u⟩) ValidUpdate where
  announced update rest ok := by
    have small := (UpdateWire.validParts ok).2
    have fields := UpdateWire.frameFields update rest small
    have magic : readFrameU16 (updateBytes update ++ rest) 0 = worldUpdateFrameMagic := fields.magic
    have payload : readFrameU32 (updateBytes update ++ rest) 32 = update.payload.length :=
      fields.payload
    have length : (updateBytes update ++ rest).length =
        worldUpdateFrameHeaderSize + update.payload.length + rest.length := by
      rw [List.length_append, updateLength]
    have two : ¬ (updateBytes update ++ rest).length < 2 := by
      rw [length, worldUpdateFrameHeaderSize]
      omega
    have whole : ¬ (updateBytes update ++ rest).length < worldUpdateFrameHeaderSize := by omega
    have bytes : ¬ (updateBytes update ++ rest).length <
        worldUpdateFrameHeaderSize + update.payload.length := by omega
    have bounded : ¬ update.payload.length > maxUpdatePayload := by omega
    have supported : ¬ isSupportedInboundPrefix worldUpdateFrameMagic = false := by decide
    simp only [inboundHead, if_neg two, magic, if_neg supported, if_true, if_neg whole, payload,
      if_neg bounded, if_neg bytes, updateLength]
  decoded update ok := by rw [inboundUpdate update ok]
  nonempty update ok := updateFormat.nonempty update ok
  waiting update n ok short := by
    have small := (UpdateWire.validParts ok).2
    have fields := UpdateWire.frameFields update [] small
    rw [List.append_nil] at fields
    have len : ((updateBytes update).take n).length = n := by
      rw [List.length_take]
      omega
    rw [updateLength] at short
    by_cases two : n < 2
    · simp [inboundHead, len, two]
    have magic : readFrameU16 ((updateBytes update).take n) 0 = worldUpdateFrameMagic := by
      rw [← fields.magic]
      exact congrArg UInt16.ofNat (fieldTake _ 0 2 n (by omega))
    have supported : ¬ isSupportedInboundPrefix worldUpdateFrameMagic = false := by decide
    by_cases header : n < worldUpdateFrameHeaderSize
    · simp only [inboundHead, len, if_neg two, magic, if_neg supported, if_true, if_pos header]
    · have payload : readFrameU32 ((updateBytes update).take n) 32 = update.payload.length := by
        rw [← fields.payload]
        exact fieldTake _ 32 4 n (by simp only [worldUpdateFrameHeaderSize] at header; omega)
      have bounded : ¬ update.payload.length > maxUpdatePayload := by omega
      simp only [inboundHead, len, if_neg two, magic, if_neg supported, if_true, if_neg header,
        payload, if_neg bounded, if_pos short]

theorem demuxFormat {α : Type} {encode : α → Bytes} {image : α → InboundFrame} {valid : α → Prop}
    (format : Format inboundHead (fun frame => .ok (inboundFrame frame)) encode image valid)
    {left piece next : Bytes} {done rest : List α} (ok : ∀ a ∈ done, valid a)
    (split : left ++ piece = joined encode done ++ next) (wait : Leftover encode valid rest next) :
    ClientInboundDemux.append ⟨left, false⟩ piece = (⟨next, false⟩, done.map image, .ok ()) := by
  have enough : done.length < (left ++ piece).length + 1 := by
    have fit := framesFit format ok
    rw [split, List.length_append]
    omega
  have drained := drainFrames format done ok next (leftoverWaits format rfl wait) _ enough
  rw [← split] at drained
  simp only [ClientInboundDemux.append, Bool.false_eq_true, if_false, drained]

theorem demuxFrames {left piece next : Bytes} {done rest : List WorldUpdate}
    (ok : ∀ u ∈ done, ValidUpdate u) (split : left ++ piece = joined updateBytes done ++ next)
    (wait : Leftover updateBytes ValidUpdate rest next) :
    ClientInboundDemux.append ⟨left, false⟩ piece =
      (⟨next, false⟩, done.map (fun u => ⟨.worldUpdate, updateBytes u⟩), .ok ()) :=
  demuxFormat inboundFormat ok split wait

end SeedOrigin.ClientInbound
