import SeedOrigin.CommandWire
import SeedOrigin.Sessions

/-! ClientSession and its OutboundFrameQueue. What the socket answers to each
call is a parameter. -/
namespace SeedOrigin.ClientConnection
open SeedOrigin.Octets SeedOrigin.CommandWire

def maxOutboundFrames : Nat := 256
def maxOutboundFrameSize : Nat := frameHeaderSize + 16384

inductive RecvResult where
  | bytes (input : Bytes)
  | peerClosed | wouldBlock | reset | failed
  deriving DecidableEq

inductive SendResult where
  | accepted (count : Nat)
  | wouldBlock | reset | failed
  deriving DecidableEq

inductive ReceiveStatus where
  | commands | noData | closed | failed
  deriving DecidableEq, Repr

inductive SendStatus where
  | sent | noData | closed | failed
  deriving DecidableEq, Repr

structure ClientSession where
  isOpen : Bool := true
  closeAfterFlush : Bool := false
  accumulator : Accumulation.Accumulator := {}
  outboundFrames : List Bytes := []
  deriving DecidableEq

def enqueue (frames : List Bytes) (frame : Bytes) : Except String (List Bytes) :=
  if frame.length < frameHeaderSize ∨ frame.length > maxOutboundFrameSize then
    .error "outbound frame size is invalid"
  else if frames.length ≥ maxOutboundFrames then .error "outbound frame queue is full"
  else .ok (frames ++ [frame])

def consumeFront : List Bytes → Nat → Option (List Bytes)
  | [], _ => none
  | frame :: frames, count =>
    if count > frame.length then none
    else if count = frame.length then some frames
    else some (frame.drop count :: frames)

def ClientSession.close (session : ClientSession) : ClientSession :=
  { session with isOpen := false, closeAfterFlush := false }

def ClientSession.requestCloseAfterFlush (session : ClientSession) : ClientSession :=
  { session with closeAfterFlush := true }

def ClientSession.enqueueFrame (session : ClientSession) (frame : Bytes) :
    Except String ClientSession :=
  if session.isOpen = false then .error "client session is closed"
  else (enqueue session.outboundFrames frame).map (fun frames =>
    { session with outboundFrames := frames })

-- A failed append clears nothing: the caller ignores the commands it returned.
def ClientSession.receive (session : ClientSession) (received : RecvResult) :
    ClientSession × List NetworkCommand × ReceiveStatus × Option String :=
  if session.isOpen = false then (session, [], .closed, some "client session is closed")
  else match received with
    | .peerClosed => (session.close, [], .closed, none)
    | .wouldBlock => (session, [], .noData, none)
    | .reset => (session.close, [], .closed, none)
    | .failed => (session.close, [], .failed, some "client socket read failed")
    | .bytes input =>
      match Accumulation.append frameAccumulator session.accumulator input with
      | (accumulator, commands, .error e) =>
        ({ session with accumulator := accumulator }.close, commands, .failed, some e)
      | (accumulator, commands, .ok _) =>
        ({ session with accumulator := accumulator }, commands,
          if commands = [] then .noData else .commands, none)

-- The loop of flushOutbound. It goes round again only for a session that closes
-- after its flush; every round sends at least one byte of the queue.
def flushLoop (send : Nat → Bytes → SendResult) : Nat → Nat → ClientSession → SendStatus →
    ClientSession × SendStatus × Option String
  | 0, _, session, last => (session, last, none)
  | fuel + 1, call, session, last =>
    if session.isOpen = false then (session, .closed, some "client session is closed")
    else match session.outboundFrames with
      | [] =>
        if session.closeAfterFlush then
          (session.close, if last = .sent then .sent else .closed, none)
        else (session, if last = .sent then .sent else .noData, none)
      | frame :: frames => match send call frame with
        | .wouldBlock => (session, if last = .sent then .sent else .noData, none)
        | .reset => (session.close, .closed, none)
        | .failed => (session.close, .failed, some "client socket write failed")
        | .accepted 0 => (session, if last = .sent then .sent else .noData, none)
        | .accepted (count + 1) => match consumeFront (frame :: frames) (count + 1) with
          | none => (session.close, .failed, some "outbound frame progress is invalid")
          | some left =>
            let session := { session with outboundFrames := left }
            if session.closeAfterFlush then flushLoop send fuel (call + 1) session .sent
            else (session, .sent, none)

def ClientSession.flushOutbound (session : ClientSession) (send : Nat → Bytes → SendResult) :
    ClientSession × SendStatus × Option String :=
  flushLoop send (session.outboundFrames.length + session.outboundFrames.flatten.length + 1) 0
    session .noData

structure SendCall where
  frame : Bytes
  answer : SendResult

def SendCall.sent (call : SendCall) : Bytes :=
  match call.answer with
  | .accepted count => call.frame.take count
  | _ => []

-- A socket that has taken more than it was offered has failed too.
def SendCall.failed (call : SendCall) : Bool :=
  match call.answer with
  | .accepted count => count > call.frame.length
  | .wouldBlock => false
  | .reset => true
  | .failed => true

def sentBytes (calls : List SendCall) : Bytes := calls.flatMap SendCall.sent

def flushCalls (send : Nat → Bytes → SendResult) : Nat → Nat → ClientSession → List SendCall
  | 0, _, _ => []
  | fuel + 1, call, session =>
    if session.isOpen = false then []
    else match session.outboundFrames with
      | [] => []
      | frame :: frames => ⟨frame, send call frame⟩ :: match send call frame with
        | .accepted (count + 1) => match consumeFront (frame :: frames) (count + 1) with
          | none => []
          | some left =>
            if session.closeAfterFlush then
              flushCalls send fuel (call + 1) { session with outboundFrames := left }
            else []
        | _ => []

def callsOf (session : ClientSession) (send : Nat → Bytes → SendResult) : List SendCall :=
  flushCalls send (session.outboundFrames.length + session.outboundFrames.flatten.length + 1) 0 session

theorem enqueueExact (frames : List Bytes) (frame : Bytes) (queued : List Bytes) :
    enqueue frames frame = .ok queued ↔
      (frameHeaderSize ≤ frame.length ∧ frame.length ≤ maxOutboundFrameSize) ∧
        frames.length < maxOutboundFrames ∧ queued = frames ++ [frame] := by
  unfold enqueue
  split_ifs with size full
  · simp only [false_iff]
    rintro ⟨⟨low, high⟩, -⟩
    omega
  · simp only [false_iff]
    rintro ⟨-, room, -⟩
    omega
  · simp only [Except.ok.injEq]
    constructor
    · intro same
      exact ⟨by omega, by omega, same.symm⟩
    · rintro ⟨-, -, same⟩
      exact same.symm

theorem consumeShrinks {frames left : List Bytes} {count : Nat}
    (h : consumeFront frames (count + 1) = some left) :
    left.length + left.flatten.length < frames.length + frames.flatten.length := by
  cases frames with
  | nil => simp [consumeFront] at h
  | cons frame frames =>
    simp only [consumeFront] at h
    split_ifs at h with big whole
    · obtain rfl := Option.some.inj h
      simp
      omega
    · obtain rfl := Option.some.inj h
      simp
      omega

theorem flushEnough (send : Nat → Bytes → SendResult) (fuel more call : Nat)
    (session : ClientSession) (last : SendStatus)
    (enough : session.outboundFrames.length + session.outboundFrames.flatten.length < fuel) :
    flushLoop send (fuel + more) call session last = flushLoop send fuel call session last := by
  induction fuel generalizing call session last with
  | zero => omega
  | succ fuel ih =>
    rw [Nat.add_right_comm]
    simp only [flushLoop]
    cases queue : session.outboundFrames with
    | nil => rfl
    | cons frame frames =>
      cases answer : send call frame with
      | wouldBlock => simp only [answer]
      | reset => simp only [answer]
      | failed => simp only [answer]
      | accepted count =>
        cases count with
        | zero => simp only [answer]
        | succ count =>
          cases took : consumeFront (frame :: frames) (count + 1) with
          | none => simp only [answer, took]
          | some left =>
            have shrinks := consumeShrinks took
            rw [queue] at enough
            have later := ih (call + 1) { session with outboundFrames := left } .sent
              (by simp only; omega)
            simp only [answer, took, later]

end SeedOrigin.ClientConnection
