import SeedOrigin.ResponseWire

/-! The demultiplexer over everything a server sends to one client: responses and
updates in any order, under arbitrary read boundaries. -/
namespace SeedOrigin.InboundStream
open SeedOrigin.Octets SeedOrigin.Framing SeedOrigin.CommandWire SeedOrigin.UpdateWire
open SeedOrigin.ClientInbound SeedOrigin.Runtime SeedOrigin.ResponseWire

inductive ServerFrame where
  | loginResponse (response : LoginResponse) (wide : Wide response.sessionId)
  | disconnectResponse (response : DisconnectResponse) (wide : Wide response.sessionId)
  | worldUpdate (update : WorldUpdate)

namespace ServerFrame

def encode : ServerFrame → Except String Bytes
  | loginResponse response _ => encodeLoginResponseFrame response
  | disconnectResponse response _ => encodeDisconnectResponseFrame response
  | worldUpdate update => encodeWorldUpdateFrame update

def kind : ServerFrame → InboundFrameKind
  | loginResponse _ _ => .loginResponse
  | disconnectResponse _ _ => .disconnectResponse
  | worldUpdate _ => .worldUpdate

def DecodedFrom (bytes : Bytes) : ServerFrame → Prop
  | loginResponse response _ => decodeLoginResponseFrame bytes = .ok response
  | disconnectResponse response _ => decodeDisconnectResponseFrame bytes = .ok response
  | worldUpdate update => decodeWorldUpdateFrame bytes = .ok update

def Valid : ServerFrame → Prop
  | loginResponse response _ => validateLoginResponse response = .ok ()
  | disconnectResponse response _ => validateDisconnectResponse response = .ok ()
  | worldUpdate update => ValidUpdate update

def bytes : ServerFrame → Bytes
  | loginResponse response _ =>
    responseBytes response.version (if response.accepted then 1 else 2) response.sessionId
      response.payload
  | disconnectResponse response _ =>
    responseBytes response.version CommandType.disconnect.code.toNat response.sessionId
      response.payload
  | worldUpdate update => updateBytes update

theorem encodeExact (message : ServerFrame) (frame : Bytes) :
    message.encode = .ok frame ↔ message.Valid ∧ frame = message.bytes := by
  cases message with
  | loginResponse response wide =>
    simp only [encode, Valid, bytes, encodeLoginResponseFrame]
    cases validateLoginResponse response with
    | error e => simp only [bind, Except.bind, reduceCtorEq, false_and]
    | ok _ =>
      simp only [bind, Except.bind, pure, Except.pure, Except.ok.injEq, true_and]
      exact eq_comm
  | disconnectResponse response wide =>
    simp only [encode, Valid, bytes, encodeDisconnectResponseFrame]
    cases validateDisconnectResponse response with
    | error e => simp only [bind, Except.bind, reduceCtorEq, false_and]
    | ok _ =>
      simp only [bind, Except.bind, pure, Except.pure, Except.ok.injEq, true_and]
      exact eq_comm
  | worldUpdate update => exact UpdateWire.encodeExact update frame

end ServerFrame

theorem loginBytes {response : LoginResponse} (wide : Wide response.sessionId)
    (ok : validateLoginResponse response = .ok ()) :
    (ServerFrame.loginResponse response wide).bytes =
      wired (if response.accepted then 1 else 2) response.sessionId response.payload := by
  rw [wired, ← (loginParts ok).1]
  rfl

theorem disconnectBytes {response : DisconnectResponse} (wide : Wide response.sessionId)
    (ok : validateDisconnectResponse response = .ok ()) :
    (ServerFrame.disconnectResponse response wide).bytes =
      wired CommandType.disconnect.code.toNat response.sessionId response.payload := by
  rw [wired, ← (disconnectParts ok).1]
  rfl

theorem statusCoded (accepted : Bool) : (if accepted then 1 else 2) < 256 ^ 2 := by
  cases accepted <;> decide

theorem announced (message : ServerFrame) (rest : Bytes) (ok : message.Valid) :
    inboundHead (message.bytes ++ rest) = .frame message.bytes.length := by
  cases message with
  | loginResponse response wide =>
    rw [loginBytes wide ok]
    exact responseAnnounced (statusCoded _) wide (loginParts ok).2 rest
  | disconnectResponse response wide =>
    rw [disconnectBytes wide ok]
    exact responseAnnounced (by decide) wide (disconnectParts ok).2.1 rest
  | worldUpdate update => exact inboundFormat.announced update rest ok

theorem waits (message : ServerFrame) (n : Nat) (ok : message.Valid)
    (short : n < message.bytes.length) : inboundHead (message.bytes.take n) = .incomplete := by
  cases message with
  | loginResponse response wide =>
    rw [loginBytes wide ok] at short ⊢
    exact responseWaiting (statusCoded _) wide (loginParts ok).2 n short
  | disconnectResponse response wide =>
    rw [disconnectBytes wide ok] at short ⊢
    exact responseWaiting (by decide) wide (disconnectParts ok).2.1 n short
  | worldUpdate update => exact inboundFormat.waiting update n ok short

-- A status is neither the magic of an update nor the type of a disconnect.
theorem recognised (message : ServerFrame) (ok : message.Valid) :
    inboundFrame message.bytes = ⟨message.kind, message.bytes⟩ := by
  cases message with
  | loginResponse response wide =>
    rw [loginBytes wide ok, inboundResponse (statusCoded _) wide (loginParts ok).2]
    cases response.accepted <;> rfl
  | disconnectResponse response wide =>
    rw [disconnectBytes wide ok, inboundResponse (by decide) wide (disconnectParts ok).2.1]
    rfl
  | worldUpdate update => exact inboundUpdate update ok

theorem decoded (message : ServerFrame) (ok : message.Valid) : message.DecodedFrom message.bytes := by
  cases message with
  | loginResponse response wide =>
    rw [loginBytes wide ok]
    exact decodeLogin ok wide
  | disconnectResponse response wide =>
    rw [disconnectBytes wide ok]
    exact decodeDisconnect ok wide
  | worldUpdate update => exact UpdateWire.decodeEncoded ok

def ServerFrame.inbound (message : ServerFrame) : InboundFrame := ⟨message.kind, message.bytes⟩

theorem serverFormat : Format inboundHead (fun frame => .ok (inboundFrame frame)) ServerFrame.bytes
    ServerFrame.inbound ServerFrame.Valid where
  announced := announced
  decoded message ok := congrArg Except.ok (recognised message ok)
  nonempty message ok := by
    cases message with
    | loginResponse response wide =>
      rw [loginBytes wide ok, wired, responseLength, frameHeaderSize]
      omega
    | disconnectResponse response wide =>
      rw [disconnectBytes wide ok, wired, responseLength, frameHeaderSize]
      omega
    | worldUpdate update => exact updateFormat.nonempty update ok
  waiting := waits

def appendAll : ClientInboundDemux → List Bytes → ClientInboundDemux × List InboundFrame × Bool
  | demux, [] => (demux, [], true)
  | demux, piece :: pieces => match demux.append piece with
    | (demux, frames, .error _) => (demux, frames, false)
    | (demux, frames, .ok _) =>
      let later := appendAll demux pieces
      (later.1, frames ++ later.2.1, later.2.2)

theorem appendFrom (pieces : List Bytes) {messages : List ServerFrame} {left unseen : Bytes}
    (ok : ∀ m ∈ messages, m.Valid)
    (stream : left ++ pieces.flatten ++ unseen = joined ServerFrame.bytes messages)
    (wait : Leftover ServerFrame.bytes ServerFrame.Valid messages left) :
    ∃ done later next, messages = done ++ later ∧
      appendAll ⟨left, false⟩ pieces = (⟨next, false⟩, done.map ServerFrame.inbound, true) ∧
      next ++ unseen = joined ServerFrame.bytes later ∧
      Leftover ServerFrame.bytes ServerFrame.Valid later next := by
  induction pieces generalizing messages left with
  | nil =>
    rw [List.flatten_nil, List.append_nil] at stream
    exact ⟨[], messages, left, rfl, rfl, stream, wait⟩
  | cons piece pieces ih =>
    have split : (left ++ piece) ++ (pieces.flatten ++ unseen) = joined ServerFrame.bytes messages := by
      simpa using stream
    obtain ⟨now, rest, next, rfl, here, there, waiting, -, -⟩ := prefixSplits ok split
    have taken := demuxFormat serverFormat (fun m hm => ok m (List.mem_append_left _ hm)) here waiting
    rw [← List.append_assoc] at there
    obtain ⟨done, later, last, rfl, fed, unread, waits⟩ :=
      ih (fun m hm => ok m (List.mem_append_right _ hm)) there waiting
    refine ⟨now ++ done, later, last, by rw [List.append_assoc], ?_, unread, waits⟩
    simp only [appendAll, taken, fed, List.map_append]

structure Recovered (message : ServerFrame) (frame : InboundFrame) : Prop where
  kind : frame.kind = message.kind
  bytes : message.encode = .ok frame.bytes
  decoded : message.DecodedFrom frame.bytes

def Unfinished (later : List ServerFrame) (left : Bytes) : Prop :=
  left = [] ∨ ∃ next frame, later.head? = some next ∧ next.encode = .ok frame ∧ left <+: frame ∧
    left.length < frame.length

theorem recoveredAll {messages : List ServerFrame} (ok : ∀ m ∈ messages, m.Valid) :
    List.Forall₂ Recovered messages (messages.map ServerFrame.inbound) := by
  induction messages with
  | nil => exact .nil
  | cons message messages ih =>
    have valid := ok message List.mem_cons_self
    refine .cons ⟨rfl, ?_, decoded message valid⟩ (ih (fun m hm => ok m (List.mem_cons_of_mem _ hm)))
    exact (ServerFrame.encodeExact message _).mpr ⟨valid, rfl⟩

theorem leftoverUnfinished {later : List ServerFrame} {left : Bytes}
    (wait : Leftover ServerFrame.bytes ServerFrame.Valid later left) : Unfinished later left := by
  cases wait with
  | clean => exact .inl rfl
  | @partway message rest n short ok =>
    refine .inr ⟨message, message.bytes, rfl, ?_, List.take_prefix _ _, ?_⟩
    · exact (ServerFrame.encodeExact message _).mpr ⟨ok, rfl⟩
    · rw [List.length_take]
      omega

theorem demuxUndoesEncoding {messages : List ServerFrame} {frames pieces : List Bytes}
    (encoded : messages.mapM ServerFrame.encode = .ok frames)
    (read : pieces.flatten <+: frames.flatten) :
    ∃ done later received left,
      messages = done ++ later ∧
      appendAll {} pieces = (⟨left, false⟩, received, true) ∧
      List.Forall₂ Recovered done received ∧
      pieces.flatten = (received.map InboundFrame.bytes).flatten ++ left ∧
      Unfinished later left ∧
      (pieces.flatten = frames.flatten → later = [] ∧ left = []) := by
  obtain ⟨valid, rfl⟩ := (encodedAll ServerFrame.encodeExact _ _).mp encoded
  obtain ⟨unseen, whole⟩ := read
  have stream : [] ++ pieces.flatten ++ unseen = joined ServerFrame.bytes messages := by
    rw [List.nil_append, whole, joined, List.flatMap_def]
  obtain ⟨done, later, left, rfl, fed, unread, wait⟩ := appendFrom pieces valid stream (.clean _)
  have okDone : ∀ m ∈ done, m.Valid := fun m hm => valid m (List.mem_append_left _ hm)
  have okLater : ∀ m ∈ later, m.Valid := fun m hm => valid m (List.mem_append_right _ hm)
  have images : (done.map ServerFrame.inbound).map InboundFrame.bytes = done.map ServerFrame.bytes := by
    rw [List.map_map]
    rfl
  refine ⟨done, later, done.map ServerFrame.inbound, left, rfl, fed, recoveredAll okDone, ?_,
    leftoverUnfinished wait, ?_⟩
  · rw [images]
    have both : pieces.flatten ++ unseen = (done.map ServerFrame.bytes).flatten ++ left ++ unseen := by
      rw [whole, List.map_append, List.flatten_append, List.append_assoc, unread, joined,
        List.flatMap_def]
    exact List.append_cancel_right both
  · intro all
    rw [all] at whole
    have none : unseen = [] := List.append_cancel_left (whole.trans (List.append_nil _).symm)
    rw [none, List.append_nil] at unread
    exact leftoverFinished wait unread (fun m hm => serverFormat.nonempty m (okLater m hm))

def greeting : List ServerFrame :=
  [.loginResponse ⟨1, true, 7, []⟩ (by decide), .worldUpdate ⟨1, .event, 1, 2, 1, ascii "x"⟩,
    .disconnectResponse ⟨1, true, 7, []⟩ (by decide)]

def greetingStream : Bytes := (greeting.map ServerFrame.bytes).flatten

theorem greetingRecovered :
    ∃ received, appendAll {} [greetingStream.take 20, (greetingStream.drop 20).take 40,
        greetingStream.drop 60] = (⟨[], false⟩, received, true) ∧
      List.Forall₂ Recovered greeting received := by
  have joins : [greetingStream.take 20, (greetingStream.drop 20).take 40,
      greetingStream.drop 60].flatten = greetingStream := by decide
  have read : [greetingStream.take 20, (greetingStream.drop 20).take 40,
      greetingStream.drop 60].flatten <+: (greeting.map ServerFrame.bytes).flatten :=
    joins ▸ List.prefix_refl _
  obtain ⟨done, later, received, left, split, fed, recovered, -, -, whole⟩ :=
    demuxUndoesEncoding (by rfl : greeting.mapM ServerFrame.encode = .ok _) read
  obtain ⟨rfl, rfl⟩ := whole joins
  rw [List.append_nil] at split
  subst split
  exact ⟨received, fed, recovered⟩

end SeedOrigin.InboundStream
