import SeedOrigin.CommandWire
import SeedOrigin.UpdateWire

/-! The command frame and the world update frame read backwards: what a decoder
accepts is the one encoding of what it returns. -/
namespace SeedOrigin.FrameBijections
open SeedOrigin.Octets

section
variable {V : Type}

def Refused {I O : Type} (f : I → Except String O) (input : I) : Prop := ∃ e, f input = .error e

structure Bijective (valid : V → Prop) (encode : V → Except String Bytes)
    (decode : Bytes → Except String V) : Prop where
  encoded : ∀ v, valid v → ∃ raw, encode v = .ok raw ∧ decode raw = .ok v
  unencoded : ∀ v, ¬ valid v → Refused encode v
  reencoded : ∀ raw v, decode raw = .ok v → valid v ∧ encode v = .ok raw
  unique : ∀ raw other v, decode raw = .ok v → decode other = .ok v → raw = other
  truncated : ∀ raw v n, decode raw = .ok v → n < raw.length → Refused decode (raw.take n)
  extended : ∀ raw v more, decode raw = .ok v → more ≠ [] → Refused decode (raw ++ more)

-- What a layout owes the rules above: its decoder takes nothing but encodings,
-- and a header of fixed size announces how long they are.
structure Layout (valid : V → Prop) (encode : V → Except String Bytes) (bytes : V → Bytes)
    (decode : Bytes → Except String V) (header : Nat) (announced : Bytes → Nat) : Prop where
  exact : ∀ v raw, encode v = .ok raw ↔ valid v ∧ raw = bytes v
  forth : ∀ v, valid v → decode (bytes v) = .ok v
  back : ∀ raw v, decode raw = .ok v → valid v ∧ bytes v = raw
  sized : ∀ raw v, decode raw = .ok v → header ≤ raw.length ∧ raw.length = header + announced raw
  fixed : ∀ raw n, header ≤ n → announced (raw.take n) = announced raw

variable {valid : V → Prop} {encode : V → Except String Bytes} {bytes : V → Bytes}
  {decode : Bytes → Except String V} {header : Nat} {announced : Bytes → Nat}

theorem refusedOtherwise {I O : Type} {f : I → Except String O} {input : I}
    (never : ∀ output, f input ≠ .ok output) : Refused f input := by
  cases made : f input with
  | error e => exact ⟨e, made⟩
  | ok output => exact absurd made (never output)

theorem prefixAccepted (layout : Layout valid encode bytes decode header announced) {raw : Bytes}
    {n : Nat} {v w : V} (whole : decode raw = .ok v) (part : decode (raw.take n) = .ok w)
    (inside : n ≤ raw.length) : n = raw.length := by
  obtain ⟨-, length⟩ := layout.sized raw v whole
  obtain ⟨header, short⟩ := layout.sized _ w part
  rw [List.length_take, min_eq_left inside] at header short
  rw [layout.fixed raw n header] at short
  omega

theorem layoutBijective (layout : Layout valid encode bytes decode header announced) :
    Bijective valid encode decode where
  encoded v ok := ⟨bytes v, (layout.exact v _).mpr ⟨ok, rfl⟩, layout.forth v ok⟩
  unencoded v bad := by
    refine refusedOtherwise fun raw made => ?_
    exact bad ((layout.exact v raw).mp made).1
  reencoded raw v made := by
    obtain ⟨ok, same⟩ := layout.back raw v made
    exact ⟨ok, (layout.exact v raw).mpr ⟨ok, same.symm⟩⟩
  unique raw other v made again := by
    rw [← (layout.back raw v made).2, (layout.back other v again).2]
  truncated raw v n made short := by
    refine refusedOtherwise fun w part => ?_
    have same := prefixAccepted layout made part short.le
    omega
  extended raw v more made longer := by
    refine refusedOtherwise fun w whole => longer ?_
    have part : decode ((raw ++ more).take raw.length) = .ok v := by
      rwa [List.take_left]
    have same := prefixAccepted layout whole part (by simp)
    simpa using same
end

def unpacked : List Nat → Bytes → List (Nat × Nat)
  | [], _ => []
  | width :: widths, raw => (width, readBE (raw.take width)) :: unpacked widths (raw.drop width)

theorem packedBack {widths : List Nat} {raw : Bytes} (enough : widths.sum ≤ raw.length) :
    packed (unpacked widths raw) = raw.take widths.sum := by
  induction widths generalizing raw with
  | nil => simp [unpacked, packed]
  | cons width widths ih =>
    rw [List.sum_cons] at enough ⊢
    have length : (raw.take width).length = width := by
      rw [List.length_take]
      omega
    have first : be width (readBE (raw.take width)) = raw.take width := by
      have read := beRead (raw.take width)
      rwa [length] at read
    have rest : packed (unpacked widths (raw.drop width)) = (raw.drop width).take widths.sum :=
      ih (by rw [List.length_drop]; omega)
    rw [unpacked, packed, List.flatMap_cons, first]
    rw [packed] at rest
    rw [rest, List.take_add]

theorem fieldBelow (raw : Bytes) (offset width : Nat) : field raw offset width < 256 ^ width := by
  have bound := readBelow ((raw.drop offset).take width)
  exact bound.trans_le (Nat.pow_le_pow_right (by decide) (List.length_take_le ..))

theorem field16 (raw : Bytes) (offset : Nat) :
    (UInt16.ofNat (field raw offset 2)).toNat = field raw offset 2 := by
  have bound := fieldBelow raw offset 2
  rw [UInt16.toNat_ofNat']
  exact Nat.mod_eq_of_lt bound

theorem field64 (raw : Bytes) (offset : Nat) :
    (UInt64.ofNat (field raw offset 8)).toNat = field raw offset 8 := by
  have bound := fieldBelow raw offset 8
  rw [UInt64.toNat_ofNat']
  exact Nat.mod_eq_of_lt bound

theorem residueSigned {n : Nat} (bound : n < 2 ^ 64) :
    residue64 (Int64.ofInt (signed64 n)).toInt = n := by
  have range : -2 ^ 63 ≤ signed64 n ∧ signed64 n < 2 ^ 63 := by
    unfold signed64
    split <;> omega
  rw [Int64.toInt_ofInt_of_le range.1 range.2]
  unfold residue64 signed64
  split <;> omega

namespace Command
open SeedOrigin.CommandWire

theorem codeOfCode (code : UInt16) : (CommandType.ofCode code).code = code := by
  unfold CommandType.ofCode
  split_ifs <;> simp_all [CommandType.code]

-- What decodeFrame reads, before it validates.
def readCommand (frame : Bytes) : NetworkCommand where
  version := readFrameU16 frame 0
  type := CommandType.ofCode (readFrameU16 frame 2)
  sessionId := Int64.ofInt (readFrameU64 frame 4)
  payload := frame.drop frameHeaderSize

theorem decodeRead (frame : Bytes) : decodeFrame frame =
    if frame.length < frameHeaderSize then .error "frame header is incomplete"
    else if readFrameU32 frame 12 > maxCommandPayload ∨
        frame.length ≠ frameHeaderSize + readFrameU32 frame 12 then .error "frame length is invalid"
    else do
      validateCommand (readCommand frame)
      return readCommand frame := rfl

theorem decodeExact (frame : Bytes) (command : NetworkCommand) :
    decodeFrame frame = .ok command ↔ frameHeaderSize ≤ frame.length ∧
      frame.length = frameHeaderSize + readFrameU32 frame 12 ∧ ValidCommand (readCommand frame) ∧
      command = readCommand frame := by
  rw [decodeRead]
  split_ifs with short length
  · rw [iff_false_left (by simp)]
    rintro ⟨whole, -⟩
    omega
  · rw [iff_false_left (by simp)]
    rintro ⟨-, whole, valid, -⟩
    obtain ⟨-, small⟩ := validParts valid
    have tail : (readCommand frame).payload.length = frame.length - frameHeaderSize :=
      List.length_drop
    rw [tail] at small
    omega
  · have parts : frameHeaderSize ≤ frame.length ∧
        frame.length = frameHeaderSize + readFrameU32 frame 12 := by omega
    unfold ValidCommand
    cases valid : validateCommand (readCommand frame) with
    | error e => simp [bind, Except.bind]
    | ok _ => simp [bind, Except.bind, pure, Except.pure, parts, eq_comm]

theorem frameBack {frame : Bytes} (whole : frameHeaderSize ≤ frame.length)
    (length : frame.length = frameHeaderSize + readFrameU32 frame 12) :
    frameBytes (readCommand frame) = frame := by
  have header : frameHeader (readCommand frame) = unpacked [2, 2, 8, 4] frame := by
    have payload : (readCommand frame).payload.length = field frame 12 4 := by
      rw [show (readCommand frame).payload = frame.drop frameHeaderSize from rfl, List.length_drop]
      exact Nat.sub_eq_of_eq_add' length
    have session : residue64 (readCommand frame).sessionId.toInt = field frame 4 8 :=
      residueSigned (fieldBelow frame 4 8)
    have version : (readCommand frame).version.toNat = field frame 0 2 := field16 frame 0
    have type : (readCommand frame).type.code.toNat = field frame 2 2 := by
      rw [show (readCommand frame).type = CommandType.ofCode (readFrameU16 frame 2) from rfl,
        codeOfCode]
      exact field16 frame 2
    rw [frameHeader, payload, session, version, type]
    simp [unpacked, field]
  have enough : [2, 2, 8, 4].sum ≤ frame.length := whole
  rw [frameBytes, header, packedBack enough]
  exact List.take_append_drop frameHeaderSize frame

theorem commandLayout : Layout ValidCommand encodeFrame frameBytes decodeFrame frameHeaderSize
    (fun frame => readFrameU32 frame 12) where
  exact := encodeExact
  forth _ ok := decodeEncoded ok
  back frame command made := by
    obtain ⟨whole, length, valid, rfl⟩ := (decodeExact frame command).mp made
    exact ⟨valid, frameBack whole length⟩
  sized frame command made := by
    obtain ⟨whole, length, -⟩ := (decodeExact frame command).mp made
    exact ⟨whole, length⟩
  fixed frame n header := fieldTake frame 12 4 n header

structure Refusals : Prop where
  short : ∀ frame : Bytes, frame.length < frameHeaderSize → Refused decodeFrame frame
  length : ∀ frame : Bytes, frame.length ≠ frameHeaderSize + readFrameU32 frame 12 ∨
    readFrameU32 frame 12 > maxCommandPayload → Refused decodeFrame frame
  version : ∀ frame, readFrameU16 frame 0 ≠ currentProtocolVersion → Refused decodeFrame frame
  type : ∀ frame, isKnownCommandType (CommandType.ofCode (readFrameU16 frame 2)) = false →
    Refused decodeFrame frame
  login : ∀ frame, readFrameU16 frame 2 = CommandType.login.code → readFrameU64 frame 4 ≠ 0 →
    Refused decodeFrame frame
  session : ∀ frame, readFrameU16 frame 2 ≠ CommandType.login.code → readFrameU64 frame 4 ≤ 0 →
    Refused decodeFrame frame
  payload : ∀ frame, readFrameU16 frame 2 = CommandType.disconnect.code ∨
    readFrameU16 frame 2 = CommandType.requestSnapshot.code → readFrameU32 frame 12 ≠ 0 →
      Refused decodeFrame frame

structure Valid (command : NetworkCommand) : Prop where
  version : command.version = currentProtocolVersion
  type : isKnownCommandType command.type = true
  small : command.payload.length ≤ maxCommandPayload
  login : command.type = .login → command.sessionId.toInt = 0
  session : command.type ≠ .login → 0 < command.sessionId.toInt
  payload : command.type = .disconnect ∨ command.type = .requestSnapshot → command.payload = []

theorem validExact {command : NetworkCommand} (ok : ValidCommand command) : Valid command := by
  unfold ValidCommand validateCommand at ok
  split_ifs at ok with version type small login session payload
  exact
    { version := by simpa using version
      type := by simpa using type
      small := by omega
      login := fun is => by_contra fun other => login ⟨is, other⟩
      session := fun other => by_contra fun low => session ⟨other, by omega⟩
      payload := fun is => by_contra fun some => payload ⟨is, some⟩ }

theorem sessionRead (frame : Bytes) : (readCommand frame).sessionId.toInt = readFrameU64 frame 4 := by
  have bound := fieldBelow frame 4 8
  have range : -2 ^ 63 ≤ readFrameU64 frame 4 ∧ readFrameU64 frame 4 < 2 ^ 63 := by
    unfold readFrameU64 signed64
    split <;> omega
  exact Int64.toInt_ofInt_of_le range.1 range.2

theorem ofCodeExact {code : UInt16} {type : CommandType} (known : isKnownCommandType type = true) :
    CommandType.ofCode code = type ↔ code = type.code := by
  constructor
  · rintro rfl
    exact (codeOfCode code).symm
  · rintro rfl
    exact ofCodeCode known

theorem commandRefusals : Refusals := by
  have accepted {frame : Bytes} (bad : frameHeaderSize ≤ frame.length →
      frame.length = frameHeaderSize + readFrameU32 frame 12 → Valid (readCommand frame) → False) :
      Refused decodeFrame frame := by
    refine refusedOtherwise fun command made => ?_
    obtain ⟨whole, length, valid, -⟩ := (decodeExact frame command).mp made
    exact bad whole length (validExact valid)
  have size {frame : Bytes} (length : frame.length = frameHeaderSize + readFrameU32 frame 12) :
      (readCommand frame).payload.length = readFrameU32 frame 12 := by
    rw [show (readCommand frame).payload = frame.drop frameHeaderSize from rfl, List.length_drop]
    omega
  exact
    { short := fun frame less => accepted fun whole _ _ => by omega
      length := fun frame wrong => accepted fun whole length valid => by
        have small := valid.small
        rw [size length] at small
        omega
      version := fun frame other => accepted fun _ _ valid => other valid.version
      type := fun frame unknown => accepted fun _ _ valid => by
        have known := valid.type
        rw [show (readCommand frame).type = CommandType.ofCode (readFrameU16 frame 2) from rfl,
          unknown] at known
        contradiction
      login := fun frame is other => accepted fun _ _ valid => by
        have zero := valid.login ((ofCodeExact rfl).mpr is)
        rw [sessionRead] at zero
        exact other zero
      session := fun frame other low => accepted fun _ _ valid => by
        have positive := valid.session (fun is => other ((ofCodeExact rfl).mp is))
        rw [sessionRead] at positive
        omega
      payload := fun frame is some => accepted fun _ length valid => by
        have nothing := valid.payload (is.imp (ofCodeExact rfl).mpr (ofCodeExact rfl).mpr)
        have length := size length
        rw [nothing] at length
        exact some length.symm }

end Command

namespace Update
open SeedOrigin.UpdateWire

theorem codeOfCode (code : UInt16) : (UpdateKind.ofCode code).code = code := by
  unfold UpdateKind.ofCode
  split_ifs <;> simp_all [UpdateKind.code]

def readUpdate (frame : Bytes) : WorldUpdate where
  version := read16 frame 2
  kind := UpdateKind.ofCode (read16 frame 4)
  worldTick := read64 frame 8
  sequence := read64 frame 16
  eventId := read64 frame 24
  payload := frame.drop worldUpdateFrameHeaderSize

theorem decodeRead (frame : Bytes) : decodeWorldUpdateFrame frame =
    if frame.length < worldUpdateFrameHeaderSize then .error "world update frame header is incomplete"
    else if read16 frame 0 ≠ worldUpdateFrameMagic ∨ read16 frame 6 ≠ 0 then
      .error "world update frame identity is invalid"
    else if read32 frame 32 > maxUpdatePayload ∨
        frame.length ≠ worldUpdateFrameHeaderSize + read32 frame 32 then
      .error "world update frame length is invalid"
    else do
      validateWorldUpdate (readUpdate frame)
      return readUpdate frame := rfl

structure Framed (frame : Bytes) : Prop where
  whole : worldUpdateFrameHeaderSize ≤ frame.length
  magic : read16 frame 0 = worldUpdateFrameMagic
  reserved : read16 frame 6 = 0
  length : frame.length = worldUpdateFrameHeaderSize + read32 frame 32

theorem decodeExact (frame : Bytes) (update : WorldUpdate) :
    decodeWorldUpdateFrame frame = .ok update ↔
      Framed frame ∧ ValidUpdate (readUpdate frame) ∧ update = readUpdate frame := by
  rw [decodeRead]
  split_ifs with short identity length
  · rw [iff_false_left (by simp)]
    rintro ⟨⟨whole, -⟩, -⟩
    omega
  · rw [iff_false_left (by simp)]
    rintro ⟨framed, -⟩
    exact identity.elim (fun other => other framed.magic) (fun other => other framed.reserved)
  · rw [iff_false_left (by simp)]
    rintro ⟨⟨-, -, -, whole⟩, valid, -⟩
    obtain ⟨-, small⟩ := validParts valid
    have tail : (readUpdate frame).payload.length = frame.length - worldUpdateFrameHeaderSize :=
      List.length_drop
    rw [tail] at small
    omega
  · simp only [not_or, not_not] at identity
    have framed : Framed frame := ⟨by omega, identity.1, identity.2, by omega⟩
    unfold ValidUpdate
    cases valid : validateWorldUpdate (readUpdate frame) with
    | error e => simp [bind, Except.bind]
    | ok _ => simp [bind, Except.bind, pure, Except.pure, framed, eq_comm]

theorem frameBack {frame : Bytes} (framed : Framed frame) : updateBytes (readUpdate frame) = frame := by
  obtain ⟨whole, magic, reserved, length⟩ := framed
  have header : updateHeader (readUpdate frame) = unpacked [2, 2, 2, 2, 8, 8, 8, 4] frame := by
    have identity : worldUpdateFrameMagic.toNat = field frame 0 2 := by
      rw [← magic]
      exact field16 frame 0
    have version : (readUpdate frame).version.toNat = field frame 2 2 := field16 frame 2
    have kind : (readUpdate frame).kind.code.toNat = field frame 4 2 := by
      rw [show (readUpdate frame).kind = UpdateKind.ofCode (read16 frame 4) from rfl, codeOfCode]
      exact field16 frame 4
    have zero : field frame 6 2 = 0 := by
      rw [← field16 frame 6]
      exact congrArg UInt16.toNat reserved
    have worldTick : (readUpdate frame).worldTick.toNat = field frame 8 8 := field64 frame 8
    have sequence : (readUpdate frame).sequence.toNat = field frame 16 8 := field64 frame 16
    have eventId : (readUpdate frame).eventId.toNat = field frame 24 8 := field64 frame 24
    have payload : (readUpdate frame).payload.length = field frame 32 4 := by
      rw [show (readUpdate frame).payload = frame.drop worldUpdateFrameHeaderSize from rfl,
        List.length_drop]
      exact Nat.sub_eq_of_eq_add' length
    have fields : unpacked [2, 2, 2, 2, 8, 8, 8, 4] frame =
        [(2, field frame 0 2), (2, field frame 2 2), (2, field frame 4 2), (2, field frame 6 2),
          (8, field frame 8 8), (8, field frame 16 8), (8, field frame 24 8),
          (4, field frame 32 4)] := by
      simp [unpacked, field]
    rw [fields, zero, updateHeader, identity, version, kind, worldTick, sequence, eventId, payload]
  have enough : [2, 2, 2, 2, 8, 8, 8, 4].sum ≤ frame.length := whole
  rw [updateBytes, header, packedBack enough]
  exact List.take_append_drop worldUpdateFrameHeaderSize frame

theorem updateLayout : Layout ValidUpdate encodeWorldUpdateFrame updateBytes decodeWorldUpdateFrame
    worldUpdateFrameHeaderSize (fun frame => read32 frame 32) where
  exact := encodeExact
  forth _ ok := decodeEncoded ok
  back frame update made := by
    obtain ⟨framed, valid, rfl⟩ := (decodeExact frame update).mp made
    exact ⟨valid, frameBack framed⟩
  sized frame update made := by
    obtain ⟨framed, -⟩ := (decodeExact frame update).mp made
    exact ⟨framed.whole, framed.length⟩
  fixed frame n header := fieldTake frame 32 4 n header

structure Refusals : Prop where
  short : ∀ frame : Bytes, frame.length < worldUpdateFrameHeaderSize → Refused decodeWorldUpdateFrame frame
  length : ∀ frame : Bytes, frame.length ≠ worldUpdateFrameHeaderSize + read32 frame 32 ∨
    read32 frame 32 > maxUpdatePayload → Refused decodeWorldUpdateFrame frame
  magic : ∀ frame, read16 frame 0 ≠ worldUpdateFrameMagic → Refused decodeWorldUpdateFrame frame
  version : ∀ frame, read16 frame 2 ≠ currentProtocolVersion → Refused decodeWorldUpdateFrame frame
  kind : ∀ frame, isKnownUpdateKind (UpdateKind.ofCode (read16 frame 4)) = false →
    Refused decodeWorldUpdateFrame frame
  reserved : ∀ frame, read16 frame 6 ≠ 0 → Refused decodeWorldUpdateFrame frame
  sequence : ∀ frame, read64 frame 16 = 0 → Refused decodeWorldUpdateFrame frame
  snapshot : ∀ frame, read16 frame 4 = UpdateKind.snapshot.code → read64 frame 24 ≠ 0 →
    Refused decodeWorldUpdateFrame frame
  event : ∀ frame, read16 frame 4 = UpdateKind.event.code → read64 frame 24 = 0 →
    Refused decodeWorldUpdateFrame frame

structure Valid (update : WorldUpdate) : Prop where
  version : update.version = currentProtocolVersion
  kind : isKnownUpdateKind update.kind = true
  sequence : update.sequence ≠ 0
  small : update.payload.length ≤ maxUpdatePayload
  snapshot : update.kind = .snapshot → update.eventId = 0
  event : update.kind = .event → update.eventId ≠ 0

theorem validExact {update : WorldUpdate} (ok : ValidUpdate update) : Valid update := by
  unfold ValidUpdate validateWorldUpdate at ok
  split_ifs at ok with version kind sequence small snapshot event
  exact
    { version := by simpa using version
      kind := by simpa using kind
      sequence := sequence
      small := by omega
      snapshot := fun is => by_contra fun other => snapshot ⟨is, other⟩
      event := fun is none => event ⟨is, none⟩ }

theorem ofCodeExact {code : UInt16} {kind : UpdateKind} (known : isKnownUpdateKind kind = true) :
    UpdateKind.ofCode code = kind ↔ code = kind.code := by
  constructor
  · rintro rfl
    exact (codeOfCode code).symm
  · rintro rfl
    exact ofCodeCode known

theorem updateRefusals : Refusals := by
  have accepted {frame : Bytes} (bad : Framed frame → Valid (readUpdate frame) → False) :
      Refused decodeWorldUpdateFrame frame := by
    refine refusedOtherwise fun update made => ?_
    obtain ⟨framed, valid, -⟩ := (decodeExact frame update).mp made
    exact bad framed (validExact valid)
  exact
    { short := fun frame less => accepted fun framed _ => by
        have whole := framed.whole
        omega
      length := fun frame wrong => accepted fun framed valid => by
        have length := framed.length
        have small := valid.small
        rw [show (readUpdate frame).payload = frame.drop worldUpdateFrameHeaderSize from rfl,
          List.length_drop] at small
        omega
      magic := fun frame other => accepted fun framed _ => other framed.magic
      version := fun frame other => accepted fun _ valid => other valid.version
      kind := fun frame unknown => accepted fun _ valid => by
        have known := valid.kind
        rw [show (readUpdate frame).kind = UpdateKind.ofCode (read16 frame 4) from rfl,
          unknown] at known
        contradiction
      reserved := fun frame other => accepted fun framed _ => other framed.reserved
      sequence := fun frame zero => accepted fun _ valid => valid.sequence zero
      snapshot := fun frame is other => accepted fun _ valid =>
        other (valid.snapshot ((ofCodeExact rfl).mpr is))
      event := fun frame is none => accepted fun _ valid =>
        valid.event ((ofCodeExact rfl).mpr is) none }

end Update

theorem framesBijective :
    Bijective CommandWire.ValidCommand CommandWire.encodeFrame CommandWire.decodeFrame ∧
    Command.Refusals ∧
    Bijective UpdateWire.ValidUpdate UpdateWire.encodeWorldUpdateFrame UpdateWire.decodeWorldUpdateFrame ∧
    Update.Refusals :=
  ⟨layoutBijective Command.commandLayout, Command.commandRefusals,
    layoutBijective Update.updateLayout, Update.updateRefusals⟩

end SeedOrigin.FrameBijections
