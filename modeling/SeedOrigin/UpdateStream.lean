import SeedOrigin.ClientShell
import SeedOrigin.ReceiverBatches

/-! The update stream of one client under arbitrary read boundaries. The
demultiplexer bounds each frame; the accumulator behind it bounds the batch that
one read completes by the size of a single frame, and the receiver may refuse
what an update says. -/
namespace SeedOrigin.UpdateStream
open SeedOrigin.Octets SeedOrigin.Framing SeedOrigin.Accumulation SeedOrigin.UpdateWire
open SeedOrigin.ClientInbound SeedOrigin.ClientConnection SeedOrigin.ClientShell
open SeedOrigin.ClientShell.ClientTransportShell SeedOrigin.HazardClient SeedOrigin.Inputs
open SeedOrigin.Prediction SeedOrigin.Receiver
open SeedOrigin.ReceiverLoop SeedOrigin.ReceiverBatches SeedOrigin.Runs

def readBufferSize : Nat := 4096

structure Reads (updates : List WorldUpdate) (frames pieces : List Bytes) : Prop where
  encoded : updates.mapM encodeWorldUpdateFrame = .ok frames
  whole : pieces.flatten = frames.flatten
  bounded : ∀ piece ∈ pieces, 1 ≤ piece.length ∧ piece.length ≤ readBufferSize

section
variable {F : Type} [PredictionOps F]

-- The part of pump that is given the bytes of one read.
def consume (shell : ClientTransportShell F) (input : Bytes) : Called F :=
  match shell.inbound.append input with
  | (inbound, _, .error e) =>
    ({ shell with inbound := inbound }.markFailed .protocolError (ascii e), .error (ascii e))
  | (inbound, frames, .ok _) => { shell with inbound := inbound }.handleInboundFrames frames

def decoded (shell : ClientTransportShell F) (input : Bytes) : List WorldUpdate :=
  match shell.inbound.append input with
  | (_, _, .error _) => []
  | (inbound, frames, .ok _) =>
    match { shell with inbound := inbound }.handleEach frames [] false with
    | (_, .error _) => []
    | (after, .ok (worldBytes, disconnectAccepted)) =>
      if disconnectAccepted ∨ worldBytes = [] then []
      else (append worldUpdateAccumulator after.receiver.accumulator worldBytes).2.1

def consumeAll : ClientTransportShell F → List Bytes →
    ClientTransportShell F × List WorldUpdate × Bool
  | shell, [] => (shell, [], true)
  | shell, piece :: pieces => match consume shell piece with
    | (after, .error _) => (after, decoded shell piece, false)
    | (after, .ok _) =>
      let later := consumeAll after pieces
      (later.1, decoded shell piece ++ later.2.1, later.2.2)

theorem pumpConsumes {shell waited : ClientTransportShell F} (input : Bytes)
    (send : Nat → Bytes → SendResult) (up : shell.inbound.failedState = false ∧ shell.link ≠ .failed)
    (isOpen : shell.isOpen = true) (inTime : shell.checkDeadlines = (waited, .ok ())) :
    shell.pump (.bytes input) send = match consume waited input with
      | (after, .error e) => (after, .error (some e))
      | (after, .ok _) => after.pumpSend send := by
  have running : ¬ (shell.inbound.failedState = true ∨ shell.link = .failed) := by
    rintro (failed | failed)
    · exact absurd failed (ne_true_of_eq_false up.1)
    · exact up.2 failed
  unfold pump pumpRead consume
  rw [if_neg running, if_neg (by rw [isOpen]; decide), inTime]
  dsimp only
  cases waited.inbound.append input with
  | mk inbound rest =>
    obtain ⟨frames, result⟩ := rest
    cases result <;> rfl

structure Received (shell : ClientTransportShell F) (pieces : List Bytes)
    (updates : List WorldUpdate) : Prop where
  accepted : (consumeAll shell pieces).2.2 = true
  decoded : (consumeAll shell pieces).2.1 = updates
  connected : (consumeAll shell pieces).1.link ≠ .failed
  drained : (consumeAll shell pieces).1.inbound.buffered = []
  settled : (consumeAll shell pieces).1.receiver.accumulator.buffered = []

def batches (updates : List WorldUpdate) : Nat → List Bytes → List (List WorldUpdate)
  | _, [] => []
  | offset, piece :: pieces => finished updateBytes updates offset piece.length ::
      batches updates (offset + piece.length) pieces

def takeBatch (receiver : ClientWorldUpdateReceiver F) (batch : List WorldUpdate) :
    ClientWorldUpdateReceiver F :=
  if batch = [] then receiver else deliver receiver batch

structure Taken (receiver : ClientWorldUpdateReceiver F) (batch : List WorldUpdate) : Prop where
  fits : (joined updateBytes batch).length ≤ worldUpdateFrameHeaderSize + maxUpdatePayload
  applies : ¬ Meets Refuses receiver batch

structure Between (shell : ClientTransportShell F) (left : Bytes) : Prop where
  inbound : shell.inbound = ⟨left, false⟩
  accumulator : shell.receiver.accumulator = {}
  link : shell.link ≠ .failed

omit [PredictionOps F] in
theorem eachUpdate (shell : ClientTransportShell F) (updates : List WorldUpdate)
    (worldBytes : Bytes) (disconnectAccepted : Bool) :
    shell.handleEach (updates.map (fun u => ⟨.worldUpdate, updateBytes u⟩)) worldBytes
      disconnectAccepted =
      (shell, .ok (worldBytes ++ joined updateBytes updates, disconnectAccepted)) := by
  induction updates generalizing worldBytes with
  | nil => simp [handleEach, joined]
  | cons u updates ih =>
    simp only [List.map_cons, handleEach, ih, joined, List.flatMap_cons, List.append_assoc]

omit [PredictionOps F] in
theorem worldSettled (shell : ClientTransportShell F) :
    shell.settleWorld.inbound = shell.inbound ∧ shell.settleWorld.receiver = shell.receiver ∧
      shell.settleWorld.link = shell.link := by
  unfold settleWorld noteReconnectCompletedIfReady
  split
  · exact ⟨rfl, rfl, rfl⟩
  · split <;> exact ⟨rfl, rfl, rfl⟩

variable {shell : ClientTransportShell F} {left piece next : Bytes} {done later : List WorldUpdate}

theorem consumeShape (between : Between shell left) (ok : ∀ u ∈ done, ValidUpdate u)
    (split : left ++ piece = joined updateBytes done ++ next)
    (wait : Leftover updateBytes ValidUpdate later next) :
    consume shell piece =
      (if joined updateBytes done = [] then ({ shell with inbound := ⟨next, false⟩ }, .ok ())
        else { shell with inbound := ⟨next, false⟩ }.receiveWorld (joined updateBytes done)) ∧
    decoded shell piece =
      (if joined updateBytes done = [] then []
        else (append worldUpdateAccumulator shell.receiver.accumulator (joined updateBytes done)).2.1) := by
  have demux := demuxFrames ok split wait
  unfold consume decoded handleInboundFrames
  rw [between.inbound, demux]
  dsimp only
  rw [eachUpdate, List.nil_append]
  simp only [Bool.false_eq_true, false_or, and_self]

omit [PredictionOps F] in
theorem joinedNone (ok : ∀ u ∈ done, ValidUpdate u) : joined updateBytes done = [] ↔ done = [] := by
  constructor
  · intro none
    have fit := framesFit updateFormat ok
    rw [none] at fit
    exact List.eq_nil_of_length_eq_zero (by simpa using fit)
  · rintro rfl
    rfl

theorem refusedWorld (shell : ClientTransportShell F) (worldBytes : Bytes)
    (rejected : (shell.receiver.receive worldBytes).1.decision = .rejected)
    (stopped : ∃ e, (shell.receiver.receive worldBytes).2.2 = .error e) :
    ∃ after e, shell.receiveWorld worldBytes = (after, .error e) := by
  unfold receiveWorld
  cases made : shell.receiver.receive worldBytes with
  | mk receiver rest =>
    obtain ⟨applied, result⟩ := rest
    rw [made] at rejected stopped
    obtain ⟨e, rfl⟩ := stopped
    dsimp only at rejected ⊢
    rw [if_pos (by rw [rejected]; exact nofun)]
    exact ⟨_, _, rfl⟩

theorem appliedWorld (shell : ClientTransportShell F) (worldBytes : Bytes)
    (fine : (shell.receiver.receive worldBytes).2.2 = .ok () ∨
      (shell.receiver.receive worldBytes).1.decision = .requestSnapshot) :
    shell.receiveWorld worldBytes =
      ({ shell with receiver := (shell.receiver.receive worldBytes).1 }.settleWorld, .ok ()) := by
  unfold receiveWorld
  cases made : shell.receiver.receive worldBytes with
  | mk receiver rest =>
    obtain ⟨applied, result⟩ := rest
    rw [made] at fine
    cases result with
    | ok _ => rfl
    | error e =>
      obtain bad | asked := fine
      · cases bad
      · dsimp only at asked ⊢
        rw [if_neg (not_not.mpr asked)]

theorem batchTaken (between : Between shell left) (ok : ∀ u ∈ done, ValidUpdate u)
    (split : left ++ piece = joined updateBytes done ++ next)
    (wait : Leftover updateBytes ValidUpdate later next) (taken : Taken shell.receiver done) :
    ∃ after, consume shell piece = (after, .ok ()) ∧ decoded shell piece = done ∧
      Between after next ∧ after.receiver = takeBatch shell.receiver done := by
  obtain ⟨consumed, brought⟩ := consumeShape between ok split wait
  rw [consumed, brought]
  by_cases none : done = []
  · rw [if_pos ((joinedNone ok).mpr none), if_pos ((joinedNone ok).mpr none)]
    refine ⟨_, rfl, none.symm, ⟨rfl, between.accumulator, between.link⟩, ?_⟩
    unfold takeBatch
    rw [if_pos none]
  · have some : joined updateBytes done ≠ [] := mt (joinedNone ok).mp none
    have buffered := groupTaken between.accumulator ok taken.fits
    have ends := callEnds buffered
    have fine : (shell.receiver.receive (joined updateBytes done)).2.2 = .ok () ∨
        (shell.receiver.receive (joined updateBytes done)).1.decision = .requestSnapshot := by
      cases made : shell.receiver.receive (joined updateBytes done) with
      | mk receiver rest =>
        rw [made] at ends
        cases ends with
        | through loop gap refuses accepted answer => exact answer
        | refused loop rejected gap refuses => exact absurd refuses taken.applies
        | requested loop asked => exact .inr asked
    let fed : ClientTransportShell F := { shell with inbound := ⟨next, false⟩ }
    let served : ClientTransportShell F :=
      { fed with receiver := (shell.receiver.receive (joined updateBytes done)).1 }
    have applied : fed.receiveWorld (joined updateBytes done) = (served.settleWorld, .ok ()) :=
      appliedWorld fed (joined updateBytes done) fine
    obtain ⟨inbound, receiver, link⟩ := worldSettled served
    rw [if_neg some, if_neg some, applied, buffered]
    have clean : (shell.receiver.receive (joined updateBytes done)).1.accumulator = {} :=
      (receiveApplies buffered).2.trans between.accumulator
    refine ⟨_, rfl, rfl, ⟨inbound, ?_, ?_⟩, ?_⟩
    · rw [receiver]
      exact clean
    · rw [link]
      exact between.link
    · rw [receiver]
      unfold takeBatch
      rw [if_neg none]
      rfl

theorem receiveRefused {receiver : ClientWorldUpdateReceiver F} (clean : receiver.accumulator = {})
    (ok : ∀ u ∈ done, ValidUpdate u) (refused : ¬ Taken receiver done) :
    (receiver.receive (joined updateBytes done)).1.decision = .rejected ∧
      ∃ e, (receiver.receive (joined updateBytes done)).2.2 = .error e := by
  by_cases fits : (joined updateBytes done).length ≤ worldUpdateFrameHeaderSize + maxUpdatePayload
  · have ends := callEnds (groupTaken clean ok fits)
    have met : Meets Refuses receiver done := by
      by_contra none
      exact refused ⟨fits, none⟩
    cases made : receiver.receive (joined updateBytes done) with
    | mk after rest =>
      rw [made] at ends
      cases ends with
      | through loop gap none => exact absurd met none
      | refused loop rejected => exact ⟨rejected, _, rfl⟩
      | requested loop asked awaiting gap none => exact absurd met none
  · have start : receiver.accumulator = ⟨[], false⟩ := clean
    have tooLong := appendRefused worldUpdateAccumulator [] (joined updateBytes done)
      (by simpa [worldUpdateAccumulator] using Nat.not_le.mp fits)
    rw [← start] at tooLong
    unfold ClientWorldUpdateReceiver.receive
    cases taken : append worldUpdateAccumulator receiver.accumulator (joined updateBytes done) with
    | mk accumulator rest =>
      obtain ⟨updates, result⟩ := rest
      rw [taken] at tooLong
      dsimp only at tooLong
      subst tooLong
      exact ⟨rfl, _, rfl⟩

theorem batchRefused (between : Between shell left) (ok : ∀ u ∈ done, ValidUpdate u)
    (split : left ++ piece = joined updateBytes done ++ next)
    (wait : Leftover updateBytes ValidUpdate later next) (refused : ¬ Taken shell.receiver done) :
    ∃ after e, consume shell piece = (after, .error e) := by
  have some : joined updateBytes done ≠ [] := by
    intro none
    rw [(joinedNone ok).mp none] at refused
    exact refused ⟨Nat.zero_le _, meetsNone⟩
  obtain ⟨rejected, stopped⟩ := receiveRefused between.accumulator ok refused
  rw [(consumeShape between ok split wait).1, if_neg some]
  exact refusedWorld { shell with inbound := ⟨next, false⟩ } _ rejected stopped

omit [PredictionOps F] in
theorem batchesJoined (done later : List WorldUpdate) (offset : Nat) (pieces : List Bytes) :
    batches (done ++ later) ((joined updateBytes done).length + offset) pieces =
      batches later offset pieces := by
  induction pieces generalizing offset with
  | nil => rfl
  | cons piece pieces ih =>
    simp only [batches, finishedJoined, Nat.add_assoc, ih]

theorem consumeFrom (pieces : List Bytes) {updates : List WorldUpdate}
    (between : Between shell left) (ok : ∀ u ∈ updates, ValidUpdate u)
    (stream : left ++ pieces.flatten = joined updateBytes updates)
    (wait : Leftover updateBytes ValidUpdate updates left) :
    Received shell pieces updates ↔
      Along takeBatch Taken shell.receiver (batches updates left.length pieces) := by
  induction pieces generalizing shell updates left with
  | nil =>
    have all : left = joined updateBytes updates := by simpa using stream
    obtain ⟨rfl, rfl⟩ := leftoverFinished wait all (fun u hu => updateFormat.nonempty u (ok u hu))
    constructor
    · intro _ before batch after split
      simp [batches] at split
    · intro _
      exact ⟨rfl, rfl, between.link, congrArg _ between.inbound, congrArg _ between.accumulator⟩
  | cons piece pieces ih =>
    have split : (left ++ piece) ++ pieces.flatten = joined updateBytes updates := by
      simpa using stream
    obtain ⟨done, later, next, hr, hs, hu, hw, -, -⟩ := prefixSplits ok split
    subst hr
    have here := finishedHere (fun u hu => updateFormat.nonempty u (ok u hu)) wait hw hs
    have okDone : ∀ u ∈ done, ValidUpdate u := fun u hu => ok u (List.mem_append_left _ hu)
    have lengths := congrArg List.length hs
    simp only [List.length_append] at lengths
    rw [batches, here, lengths, batchesJoined, alongCons]
    by_cases taken : Taken shell.receiver done
    · obtain ⟨after, consumed, brought, standing, reached⟩ :=
        batchTaken between okDone hs hw taken
      have tail := ih standing (fun u hu => ok u (List.mem_append_right _ hu)) hu hw
      rw [reached] at tail
      rw [← tail]
      constructor
      · rintro ⟨a, d, c, b, s⟩
        simp only [consumeAll, consumed, brought] at a d c b s
        exact ⟨taken, a, List.append_cancel_left d, c, b, s⟩
      · rintro ⟨-, a, d, c, b, s⟩
        refine ⟨?_, ?_, ?_, ?_, ?_⟩ <;> simp only [consumeAll, consumed, brought]
        · exact a
        · rw [d]
        · exact c
        · exact b
        · exact s
    · obtain ⟨after, e, consumed⟩ := batchRefused between okDone hs hw taken
      constructor
      · rintro ⟨a, -⟩
        simp [consumeAll, consumed] at a
      · rintro ⟨now, -⟩
        exact absurd now taken

end

theorem updateStreamExact {F : Type} [PredictionOps F] {shell : ClientTransportShell F}
    (between : Between shell []) {updates : List WorldUpdate} {frames pieces : List Bytes}
    (reads : Reads updates frames pieces) :
    Received shell pieces updates ↔ Along takeBatch Taken shell.receiver (batches updates 0 pieces) := by
  obtain ⟨valid, rfl⟩ := (encodedAll encodeExact _ _).mp reads.encoded
  have stream : [] ++ pieces.flatten = joined updateBytes updates := by
    rw [List.nil_append, reads.whole, joined, List.flatMap_def]
  exact consumeFrom pieces between valid stream (.clean _)

def connected : ClientTransportShell ℚ :=
  { clientSocket := 5, link := .connected, receiver := .initial }

def mixedUpdates : List WorldUpdate := [calmSnapshot, numbered 6, numbered 9]

def mixedStream : Bytes := joined updateBytes mixedUpdates

def mixedReads : List Bytes :=
  [mixedStream.take 50, (mixedStream.drop 50).take 100, mixedStream.drop 150]

theorem updateStreamExactMixed :
    Reads mixedUpdates (mixedUpdates.map updateBytes) mixedReads ∧
    batches mixedUpdates 0 mixedReads = [[], [calmSnapshot, numbered 6], [numbered 9]] ∧
    Received connected mixedReads mixedUpdates := by
  have reads : Reads mixedUpdates (mixedUpdates.map updateBytes) mixedReads :=
    ⟨rfl, by decide +kernel, by decide +kernel⟩
  have completed : batches mixedUpdates 0 mixedReads =
      [[], [calmSnapshot, numbered 6], [numbered 9]] := by decide +kernel
  have between : Between connected [] := ⟨rfl, rfl, by decide⟩
  refine ⟨reads, completed, (updateStreamExact between reads).mpr ?_⟩
  rw [completed]
  simp only [alongCons]
  refine ⟨⟨by decide +kernel, meetsNone⟩, ⟨by decide +kernel, unrefused ?_⟩,
    ⟨by decide +kernel, unrefused ?_⟩, ?_⟩
  · decide +kernel
  · decide +kernel
  · exact alongNil _ _ _

theorem plainUnrefused {F : Type} [PredictionOps F] (receiver : ClientWorldUpdateReceiver F)
    {update : WorldUpdate} (event : update.kind = .event) (numbered : update.eventId ≠ 0)
    (valid : ValidUpdate update) (left : update.sequence ≠ maxUint64)
    (hazard : update.payload.take 12 ≠ ascii "etherHazard=")
    (ack : update.payload.take 12 ≠ ascii "movementAck=") : ¬ Refuses receiver update := by
  have known : validateWorldUpdate update = .ok () := valid
  have tracked (tracker : WorldUpdateSequenceTracker) : (tracker.accept update).2 ≠ .invalid := by
    unfold WorldUpdateSequenceTracker.accept
    rw [known]
    dsimp only
    rw [if_neg left]
    repeat' split
    all_goals exact nofun
  have taken : (takeEvent receiver.hazardQueue update).2.1 ≠ .rejected ∧
      (takeEvent receiver.hazardQueue update).2.1 ≠ .backpressure := by
    have status := tracked receiver.hazardQueue.sync.tracker
    unfold takeEvent ClientHazardEffectQueue.observeEvent WorldUpdateSyncController.receive
    rw [if_neg hazard, if_neg (by simp [event, numbered]), known]
    cases made : receiver.hazardQueue.sync.tracker.accept update with
    | mk tracker outcome =>
      rw [made] at status
      cases outcome with
      | invalid => exact absurd rfl status
      | accepted => exact ⟨nofun, nofun⟩
      | duplicate => exact ⟨nofun, nofun⟩
      | gap => exact ⟨nofun, nofun⟩
  unfold Refuses
  rw [event]
  rintro ⟨-, rejected | full | ⟨-, unread⟩⟩
  · exact taken.1 rejected
  · exact taken.2 full
  · exact ack unread.1

def longEvent : WorldUpdate :=
  ⟨UpdateWire.currentProtocolVersion, .event, 1, 1, 1, List.replicate maxUpdatePayload 120⟩

def longUpdates : List WorldUpdate := [longEvent, numbered 2]

def longStream : Bytes := joined updateBytes longUpdates

section
variable {stream : Bytes}

def firstReads (stream : Bytes) : List Bytes :=
  [stream.take 4096, (stream.drop 4096).take 4096, (stream.drop 8192).take 4096,
    (stream.drop 12288).take 4096]

def lastRead (stream : Bytes) : List Bytes := firstReads stream ++ [stream.drop 16384]

def lastReads (stream : Bytes) : List Bytes :=
  firstReads stream ++ [(stream.drop 16384).take 36, stream.drop 16420]

theorem lastJoin : (lastRead stream).flatten = stream := by
  have cut (n : Nat) := List.take_append_drop 4096 (stream.drop n)
  have first := cut 0
  have second := cut 4096
  have third := cut 8192
  have fourth := cut 12288
  simp only [List.drop_drop, Nat.reduceAdd, List.drop_zero] at first second third fourth
  simp only [lastRead, firstReads, List.cons_append, List.nil_append, List.flatten_cons,
    List.flatten_nil, List.append_nil, fourth, third, second, first]

theorem lastsJoin : (lastReads stream).flatten = stream := by
  have cut := List.take_append_drop 36 (stream.drop 16384)
  rw [List.drop_drop] at cut
  have whole : (lastRead stream).flatten = stream := lastJoin
  simp only [lastRead, lastReads, List.flatten_append, List.flatten_cons, List.flatten_nil,
    List.append_nil] at whole ⊢
  rw [cut]
  exact whole

variable (length : stream.length = 16456)
include length

theorem lastBounded : ∀ piece ∈ lastRead stream, 1 ≤ piece.length ∧ piece.length ≤ readBufferSize := by
  simp [lastRead, firstReads, length, readBufferSize]

theorem lastsBounded :
    ∀ piece ∈ lastReads stream, 1 ≤ piece.length ∧ piece.length ≤ readBufferSize := by
  simp [lastReads, firstReads, length, readBufferSize]

variable {a b : WorldUpdate} (framed : sizes updateBytes [a, b] = [16420, 36])
include framed

theorem lastBatches : batches [a, b] 0 (lastRead stream) = [[], [], [], [], [a, b]] := by
  simp only [batches, finished, framed, lastRead, firstReads, List.cons_append, List.nil_append]
  simp [length, completed]

theorem lastsBatches : batches [a, b] 0 (lastReads stream) = [[], [], [], [], [a], [b]] := by
  simp only [batches, finished, framed, lastReads, firstReads, List.cons_append, List.nil_append]
  simp [length, completed]

variable {F : Type} [PredictionOps F] {shell : ClientTransportShell F} (between : Between shell [])
  (valid : ∀ u ∈ [a, b], ValidUpdate u) (whole : stream = joined updateBytes [a, b])
include between valid whole

theorem lastRefused : ¬ Received shell (lastRead stream) [a, b] := by
  have split : [] ++ (lastRead stream).flatten = joined updateBytes [a, b] := by
    rw [List.nil_append, lastJoin, whole]
  rw [consumeFrom (lastRead stream) between valid split (.clean _), List.length_nil,
    lastBatches length framed]
  intro taken
  have last := (taken [[], [], [], []] [a, b] [] rfl).fits
  rw [joinedLength, framed] at last
  exact absurd last (by decide)

theorem lastsReceived (first : ∀ receiver : ClientWorldUpdateReceiver F, ¬ Refuses receiver a)
    (second : ∀ receiver : ClientWorldUpdateReceiver F, ¬ Refuses receiver b) :
    Received shell (lastReads stream) [a, b] := by
  have none (receiver : ClientWorldUpdateReceiver F) : Taken receiver [] :=
    ⟨Nat.zero_le _, meetsNone⟩
  have fits {update : WorldUpdate} (there : update ∈ [a, b]) :
      (joined updateBytes [update]).length ≤ worldUpdateFrameHeaderSize + maxUpdatePayload :=
    oneFits (valid update there)
  have split : [] ++ (lastReads stream).flatten = joined updateBytes [a, b] := by
    rw [List.nil_append, lastsJoin, whole]
  rw [consumeFrom (lastReads stream) between valid split (.clean _), List.length_nil,
    lastsBatches length framed]
  simp only [alongCons]
  refine ⟨none _, none _, none _, none _, ⟨fits (by simp), fun met => first _ (meetsOne.mp met)⟩,
    ⟨fits (by simp), fun met => second _ (meetsOne.mp met)⟩, alongNil _ _ _⟩

end

theorem longStreamLength : longStream.length = 16456 := by
  have payload : longEvent.payload.length = maxUpdatePayload := List.length_replicate
  simp only [longStream, longUpdates, joined, List.flatMap_cons, List.flatMap_nil, List.append_nil,
    List.length_append, updateLength, payload]
  rfl

theorem longValid : ∀ u ∈ longUpdates, ValidUpdate u := by
  have payload : longEvent.payload.length = maxUpdatePayload := List.length_replicate
  have bounded : ¬ longEvent.payload.length > maxUpdatePayload := by omega
  intro u hu
  rcases List.mem_pair.mp hu with rfl | rfl
  · unfold ValidUpdate validateWorldUpdate
    rw [if_neg (by decide), if_neg (by decide), if_neg (by decide), if_neg bounded]
    rfl
  · decide

theorem longSizes : sizes updateBytes longUpdates = [16420, 36] := by
  have payload : longEvent.payload.length = maxUpdatePayload := List.length_replicate
  simp only [sizes, longUpdates, List.map_cons, List.map_nil, updateLength, payload]
  rfl

theorem longUnrefused (receiver : ClientWorldUpdateReceiver ℚ) : ¬ Refuses receiver longEvent := by
  refine plainUnrefused receiver rfl (by decide) (longValid _ List.mem_cons_self) (by decide) ?_ ?_
  all_goals
    change (List.replicate maxUpdatePayload 120).take 12 ≠ _
    rw [List.take_replicate]
    decide

def unreadable : WorldUpdate := ⟨UpdateWire.currentProtocolVersion, .snapshot, 1, 1, 0, [120]⟩

theorem unreadableRefused : ¬ Received connected [updateBytes unreadable] [unreadable] := by
  intro received
  have accepted := received.accepted
  revert accepted
  decide +kernel

-- Two events of which the first fills a frame: received when each is completed by
-- a read of its own, and not when one read completes both. A Snapshot that does
-- not read is not received at all.
theorem batchOfValidFramesRefused :
    (Reads longUpdates (longUpdates.map updateBytes) (lastRead longStream) ∧
      ¬ Received connected (lastRead longStream) longUpdates) ∧
    (Reads longUpdates (longUpdates.map updateBytes) (lastReads longStream) ∧
      Received connected (lastReads longStream) longUpdates) ∧
    (Reads [unreadable] [updateBytes unreadable] [updateBytes unreadable] ∧
      ¬ Received connected [updateBytes unreadable] [unreadable]) := by
  have between : Between connected [] := ⟨rfl, rfl, by decide⟩
  have encodes : longUpdates.mapM encodeWorldUpdateFrame = .ok (longUpdates.map updateBytes) :=
    (encodedAll encodeExact _ _).mpr ⟨longValid, rfl⟩
  have frames : longStream = (longUpdates.map updateBytes).flatten := List.flatMap_def ..
  have brief (receiver : ClientWorldUpdateReceiver ℚ) : ¬ Refuses receiver (numbered 2) :=
    plainUnrefused receiver rfl (by decide) (by decide) (by decide) (by decide) (by decide)
  exact ⟨⟨⟨encodes, lastJoin.trans frames, lastBounded longStreamLength⟩,
      lastRefused longStreamLength longSizes between longValid rfl⟩,
    ⟨⟨encodes, lastsJoin.trans frames, lastsBounded longStreamLength⟩,
      lastsReceived longStreamLength longSizes between longValid rfl longUnrefused brief⟩,
    ⟨rfl, rfl, by decide +kernel⟩, unreadableRefused⟩

end SeedOrigin.UpdateStream
