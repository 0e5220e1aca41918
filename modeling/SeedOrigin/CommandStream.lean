import SeedOrigin.CommandWire

/-! The command stream of one connection under arbitrary read boundaries. The
FrameAccumulator measures leftover plus read against the size of a single frame,
so a full read behind a partial frame is refused although the stream is valid. -/
namespace SeedOrigin.CommandStream
open SeedOrigin.Octets SeedOrigin.Framing SeedOrigin.Accumulation SeedOrigin.CommandWire

structure Reads (commands : List NetworkCommand) (frames pieces : List Bytes) : Prop where
  encoded : commands.mapM encodeFrame = .ok frames
  whole : pieces.flatten = frames.flatten
  bounded : ∀ piece ∈ pieces, 1 ≤ piece.length ∧ piece.length ≤ readBufferSize

theorem commandStreamExact {commands : List NetworkCommand} {frames pieces : List Bytes}
    (reads : Reads commands frames pieces) :
    Delivered frameAccumulator {} pieces commands ↔
      Fits (frameHeaderSize + maxCommandPayload) (frames.map List.length) pieces := by
  obtain ⟨valid, rfl⟩ := (encodedAll encodeExact _ _).mp reads.encoded
  have stream : pieces.flatten = joined frameBytes commands := by
    rw [reads.whole, joined, List.flatMap_def]
  have exact := feedExact frameAccumulator commandFormat rfl commands pieces valid stream
  simpa [sizes, Function.comp_def, frameAccumulator] using exact

def snapshotRequest : NetworkCommand := ⟨1, .requestSnapshot, 1, []⟩

def greeting : NetworkCommand := ⟨1, .chat, 1, ascii "hello"⟩

def greetingStream : Bytes := frameBytes greeting ++ frameBytes snapshotRequest

theorem commandStreamExactSplit :
    Reads [greeting, snapshotRequest] [frameBytes greeting, frameBytes snapshotRequest]
      [greetingStream.take 7, (greetingStream.drop 7).take 20, greetingStream.drop 27] ∧
    Delivered frameAccumulator {}
      [greetingStream.take 7, (greetingStream.drop 7).take 20, greetingStream.drop 27]
      [greeting, snapshotRequest] := by
  have reads : Reads [greeting, snapshotRequest] [frameBytes greeting, frameBytes snapshotRequest]
      [greetingStream.take 7, (greetingStream.drop 7).take 20, greetingStream.drop 27] :=
    ⟨by decide +kernel, by decide +kernel, by decide +kernel⟩
  refine ⟨reads, (commandStreamExact reads).mpr ?_⟩
  unfold Fits
  rw [everyReadCons, everyReadCons, everyReadCons]
  exact ⟨by decide +kernel, by decide +kernel, by decide +kernel, everyReadNil _ _⟩

def longChat : NetworkCommand := ⟨1, .chat, 1, List.replicate maxCommandPayload 120⟩

def longStream : Bytes := frameBytes longChat ++ frameBytes snapshotRequest

-- A maximal chat frame and a snapshot request read as 32 and then 4096 bytes.
theorem fullReadBehindPartialFrameRefused :
    Reads [longChat, snapshotRequest] [frameBytes longChat, frameBytes snapshotRequest]
      [longStream.take 32, longStream.drop 32] ∧
    ¬ Delivered frameAccumulator {} [longStream.take 32, longStream.drop 32]
      [longChat, snapshotRequest] := by
  have payload : longChat.payload.length = maxCommandPayload := List.length_replicate
  have long : (frameBytes longChat).length = 4112 := by rw [frameLength, payload]; rfl
  have brief : (frameBytes snapshotRequest).length = 16 := rfl
  have total : longStream.length = 4128 := by
    rw [longStream, List.length_append, long, brief]
  have first : (longStream.take 32).length = 32 := by
    rw [List.length_take, total]
    rfl
  have second : (longStream.drop 32).length = 4096 := by
    rw [List.length_drop, total]
  have bounded : ¬ longChat.payload.length > maxCommandPayload := by omega
  have valid : ValidCommand longChat := by
    unfold ValidCommand validateCommand
    rw [if_neg bounded]
    rfl
  have all : ∀ c ∈ [longChat, snapshotRequest], ValidCommand c := by
    intro c hc
    rcases List.mem_pair.mp hc with rfl | rfl
    · exact valid
    · rfl
  have stream : [longStream.take 32, longStream.drop 32].flatten =
      joined frameBytes [longChat, snapshotRequest] := by
    simp [joined, longStream]
  refine ⟨⟨?_, ?_, ?_⟩, ?_⟩
  · exact (encodedAll encodeExact _ _).mpr ⟨all, rfl⟩
  · simp [longStream]
  · intro piece hp
    rcases List.mem_pair.mp hp with rfl | rfl
    · rw [first]; decide
    · rw [second]; decide
  · have exact := feedExact frameAccumulator commandFormat rfl _ _ all stream
    rw [List.map_id] at exact
    rw [exact]
    intro fits
    have tooBig := fits [longStream.take 32] (longStream.drop 32) [] rfl
    simp only [List.flatten_singleton, first, second, sizes, List.map_cons, long, brief,
      List.map_nil, pending, frameAccumulator, frameHeaderSize, maxCommandPayload] at tooBig
    exact absurd tooBig (by decide)

end SeedOrigin.CommandStream
