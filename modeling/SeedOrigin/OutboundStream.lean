import SeedOrigin.ClientShell
import SeedOrigin.Runs

/-! The bytes that a connection sends: what its socket has taken and what is still
queued, against the frames that were accepted, on the server's side and on the
client's. -/
namespace SeedOrigin.OutboundStream
open SeedOrigin.Octets SeedOrigin.CommandWire SeedOrigin.ClientConnection SeedOrigin.ClientShell
open SeedOrigin.Runs

structure Delivered (isOpen : Bool) (queued accepted : List Bytes) (calls : List SendCall) : Prop where
  stream : isOpen = true → sentBytes calls ++ queued.flatten = accepted.flatten
  count : queued.length ≤ maxOutboundFrames
  closed : isOpen = false → calls.any SendCall.failed = true ∨ sentBytes calls = accepted.flatten

section
variable {queued accepted : List Bytes} {calls : List SendCall}

theorem sentMore (calls : List SendCall) (call : SendCall) :
    sentBytes (calls ++ [call]) = sentBytes calls ++ call.sent := by
  simp [sentBytes]

theorem deliveredQueued (delivered : Delivered true queued accepted calls) {frame : Bytes}
    {frames : List Bytes} (made : enqueue queued frame = .ok frames) :
    Delivered true frames (accepted ++ [frame]) calls := by
  obtain ⟨-, room, rfl⟩ := (enqueueExact queued frame frames).mp made
  refine ⟨fun isOpen => ?_, ?_, nofun⟩
  · rw [List.flatten_append, List.flatten_append, ← List.append_assoc, delivered.stream isOpen]
  · rw [List.length_append, List.length_singleton]
    omega

theorem deliveredIdle {isOpen : Bool} (delivered : Delivered isOpen queued accepted calls) {call : SendCall}
    (nothing : call.sent = []) : Delivered isOpen queued accepted (calls ++ [call]) := by
  refine ⟨fun isOpen => ?_, delivered.count, fun shut => ?_⟩
  · rw [sentMore, nothing, List.append_nil]
    exact delivered.stream isOpen
  · rw [sentMore, nothing, List.append_nil, List.any_append]
    exact (delivered.closed shut).imp_left (fun failed => by rw [failed, Bool.true_or])

theorem deliveredFailed (delivered : Delivered true queued accepted calls) {call : SendCall}
    (failed : call.failed = true) : Delivered false queued accepted (calls ++ [call]) := by
  refine ⟨nofun, delivered.count, fun _ => .inl ?_⟩
  rw [List.any_append]
  simp [failed]

theorem deliveredDone (delivered : Delivered true [] accepted calls) :
    Delivered false [] accepted calls := by
  refine ⟨nofun, delivered.count, fun _ => .inr ?_⟩
  simpa using delivered.stream rfl

theorem deliveredSent (delivered : Delivered true queued accepted calls) {frame : Bytes}
    {frames left : List Bytes} {count : Nat} (queue : queued = frame :: frames)
    (took : consumeFront (frame :: frames) count = some left) :
    Delivered true left accepted (calls ++ [⟨frame, .accepted count⟩]) := by
  subst queue
  have whole := delivered.stream rfl
  have count := delivered.count
  simp only [consumeFront] at took
  split_ifs at took with big all
  · obtain rfl := Option.some.inj took
    refine ⟨fun _ => ?_, by rw [List.length_cons] at count; omega, by rintro ⟨⟩⟩
    rw [sentMore, ← whole, List.flatten_cons, List.append_assoc, SendCall.sent]
    dsimp only
    rw [all, List.take_length]
  · obtain rfl := Option.some.inj took
    refine ⟨fun _ => ?_, count, by rintro ⟨⟩⟩
    rw [sentMore, ← whole, List.flatten_cons, List.flatten_cons, List.append_assoc, SendCall.sent,
      ← List.append_assoc (frame.take _), List.take_append_drop]

end

inductive SessionEvent where
  | enqueueFrame (frame : Bytes)
  | flushOutbound (send : Nat → Bytes → SendResult)
  | requestCloseAfterFlush

structure Link where
  session : ClientSession := {}
  accepted : List Bytes := []
  calls : List SendCall := []

def linkStep (link : Link) : SessionEvent → Link
  | .enqueueFrame frame => match link.session.enqueueFrame frame with
    | .error _ => link
    | .ok session => { link with session := session, accepted := link.accepted ++ [frame] }
  | .flushOutbound send =>
    { link with
      session := (link.session.flushOutbound send).1
      calls := link.calls ++ callsOf link.session send }
  | .requestCloseAfterFlush => { link with session := link.session.requestCloseAfterFlush }

structure Link.Intact (link : Link) : Prop where
  delivered : Delivered link.session.isOpen link.session.outboundFrames link.accepted link.calls
  refused : ∀ frame error, link.session.enqueueFrame frame = .error error →
    linkStep link (.enqueueFrame frame) = link

theorem consumeTooMuch {frame : Bytes} {frames : List Bytes} {count : Nat}
    (took : consumeFront (frame :: frames) count = none) : frame.length < count := by
  simp only [consumeFront] at took
  split_ifs at took with big
  exact big

theorem flushDelivered (send : Nat → Bytes → SendResult) (fuel call : Nat) {session : ClientSession}
    (last : SendStatus) {accepted : List Bytes} {calls : List SendCall}
    (delivered : Delivered session.isOpen session.outboundFrames accepted calls) :
    Delivered (flushLoop send fuel call session last).1.isOpen
      (flushLoop send fuel call session last).1.outboundFrames accepted
      (calls ++ flushCalls send fuel call session) := by
  induction fuel generalizing call session last calls with
  | zero => simpa only [flushLoop, flushCalls, List.append_nil] using delivered
  | succ fuel ih =>
    simp only [flushLoop, flushCalls]
    by_cases shut : session.isOpen = false
    · simp only [if_pos shut, List.append_nil]
      exact delivered
    · have opened : session.isOpen = true := by simpa using shut
      simp only [if_neg shut]
      have still : Delivered true session.outboundFrames accepted calls := by rwa [opened] at delivered
      cases queue : session.outboundFrames with
      | nil =>
        dsimp only
        rw [List.append_nil]
        by_cases closing : session.closeAfterFlush = true
        · simp only [if_pos closing]
          have same : session.close.outboundFrames = [] := queue
          rw [queue] at still
          rw [same]
          exact deliveredDone still
        · simp only [if_neg closing]
          exact delivered
      | cons frame frames =>
        have failed {answer : SendResult} (bad : SendCall.failed ⟨frame, answer⟩ = true) :
            Delivered session.close.isOpen session.close.outboundFrames accepted
              (calls ++ [⟨frame, answer⟩]) := deliveredFailed still bad
        cases answer : send call frame with
        | wouldBlock => simpa only [answer] using deliveredIdle delivered rfl
        | reset => simpa only [answer] using failed rfl
        | failed => simpa only [answer] using failed rfl
        | accepted count =>
          cases count with
          | zero => simpa only [answer] using deliveredIdle delivered rfl
          | succ count =>
            simp only [answer]
            cases took : consumeFront (frame :: frames) (count + 1) with
            | none => exact failed (by simpa [SendCall.failed] using consumeTooMuch took)
            | some left =>
              have sent : Delivered session.isOpen left accepted
                  (calls ++ [⟨frame, .accepted (count + 1)⟩]) := by
                rw [opened]
                exact deliveredSent still queue took
              dsimp only
              by_cases closing : session.closeAfterFlush = true
              · simp only [if_pos closing]
                rw [List.append_cons]
                exact ih (call + 1) .sent sent
              · simp only [if_neg closing]
                exact sent

theorem linkDelivered {link : Link}
    (delivered : Delivered link.session.isOpen link.session.outboundFrames link.accepted link.calls)
    (event : SessionEvent) :
    Delivered (linkStep link event).session.isOpen (linkStep link event).session.outboundFrames
      (linkStep link event).accepted (linkStep link event).calls := by
  cases event with
  | enqueueFrame frame =>
    simp only [linkStep]
    cases made : link.session.enqueueFrame frame with
    | error e => exact delivered
    | ok session =>
      unfold ClientSession.enqueueFrame at made
      split at made
      · contradiction
      · rename_i opened
        have isOpen : link.session.isOpen = true := by simpa using opened
        cases queued : enqueue link.session.outboundFrames frame with
        | error e => simp [queued, Except.map] at made
        | ok frames =>
          rw [queued] at made
          obtain rfl := Except.ok.inj made
          rw [isOpen] at delivered
          dsimp only
          rw [isOpen]
          exact deliveredQueued delivered queued
  | flushOutbound send => exact flushDelivered send _ 0 .noData delivered
  | requestCloseAfterFlush => exact delivered

inductive ShellEvent where
  | enqueueCommand (command : NetworkCommand)
  | flushOutbound (send : Bytes → SendResult)

section
variable {F : Type}

structure ShellLink (F : Type) where
  shell : ClientTransportShell F
  accepted : List Bytes := []
  calls : List SendCall := []

def shellCalls (shell : ClientTransportShell F) (send : Bytes → SendResult) : List SendCall :=
  if shell.isOpen = false then []
  else match shell.outboundFrames with
    | [] => []
    | frame :: _ => [⟨frame, send frame⟩]

def shellStep (link : ShellLink F) : ShellEvent → ShellLink F
  | .enqueueCommand command => match link.shell.enqueueCommand command with
    | (shell, .error _) => { link with shell := shell }
    | (shell, .ok _) =>
      { link with shell := shell, accepted := link.accepted ++ [frameBytes command] }
  | .flushOutbound send =>
    { link with
      shell := (link.shell.flushOutbound send).1
      calls := link.calls ++ shellCalls link.shell send }

structure ShellLink.Intact (link : ShellLink F) : Prop where
  delivered : Delivered link.shell.isOpen link.shell.outboundFrames link.accepted link.calls
  refused : ∀ command error, (link.shell.enqueueCommand command).2 = .error error →
    shellStep link (.enqueueCommand command) = link

theorem enqueueCases (shell : ClientTransportShell F) (command : NetworkCommand) :
    (∃ error, shell.enqueueCommand command = (shell, .error error)) ∨
    ∃ frames, shell.isOpen = true ∧ enqueue shell.outboundFrames (frameBytes command) = .ok frames ∧
      shell.enqueueCommand command = ({ shell with outboundFrames := frames }, .ok ()) := by
  unfold ClientTransportShell.enqueueCommand
  by_cases shut : shell.isOpen = false
  · rw [if_pos shut]
    exact .inl ⟨_, rfl⟩
  · rw [if_neg shut]
    cases encoded : encodeFrame command with
    | error e => exact .inl ⟨_, rfl⟩
    | ok frame =>
      obtain ⟨-, rfl⟩ := (encodeExact command frame).mp encoded
      dsimp only
      cases queued : enqueue shell.outboundFrames (frameBytes command) with
      | error e => exact .inl ⟨_, rfl⟩
      | ok frames => exact .inr ⟨frames, by simpa using shut, rfl, rfl⟩

theorem closeShut (shell : ClientTransportShell F) :
    shell.close.isOpen = false ∧ shell.close.outboundFrames = shell.outboundFrames := by
  unfold ClientTransportShell.close
  dsimp only
  split
  · rename_i shut
    exact ⟨by simpa [ClientTransportShell.isOpen] using shut, rfl⟩
  · exact ⟨rfl, rfl⟩

theorem failedShut (shell : ClientTransportShell F) (reason : TransportErrorReason) (context : Bytes) :
    (shell.markFailed reason context).isOpen = false ∧
      (shell.markFailed reason context).outboundFrames = shell.outboundFrames := by
  refine ⟨?_, rfl⟩
  simp only [ClientTransportShell.markFailed, ClientTransportShell.clearWaitDeadlines,
    ClientTransportShell.isOpen]
  split <;> simp only [decide_eq_false_iff_not] <;> omega

theorem shellFlushDelivered (send : Bytes → SendResult) {shell : ClientTransportShell F}
    {accepted : List Bytes} {calls : List SendCall}
    (delivered : Delivered shell.isOpen shell.outboundFrames accepted calls) :
    Delivered (shell.flushOutbound send).1.isOpen (shell.flushOutbound send).1.outboundFrames accepted
      (calls ++ shellCalls shell send) := by
  unfold ClientTransportShell.flushOutbound shellCalls
  by_cases shut : shell.isOpen = false
  · simp only [if_pos shut, List.append_nil]
    exact delivered
  · have opened : shell.isOpen = true := by simpa using shut
    simp only [if_neg shut]
    have still : Delivered true shell.outboundFrames accepted calls := by rwa [opened] at delivered
    cases queue : shell.outboundFrames with
    | nil =>
      dsimp only
      rw [List.append_nil]
      exact delivered
    | cons frame frames =>
      dsimp only
      have fails {after : ClientTransportShell F} {answer : SendResult}
          (closed : after.isOpen = false ∧ after.outboundFrames = shell.outboundFrames)
          (bad : SendCall.failed ⟨frame, answer⟩ = true) :
          Delivered after.isOpen after.outboundFrames accepted (calls ++ [⟨frame, answer⟩]) := by
        rw [closed.1, closed.2]
        exact deliveredFailed still bad
      cases answer : send frame with
      | wouldBlock => exact deliveredIdle delivered rfl
      | reset => exact fails (closeShut (shell.recordError .peerClosed [])) rfl
      | failed => exact fails (failedShut shell .writeFailed _) rfl
      | accepted count =>
        cases count with
        | zero => exact deliveredIdle delivered rfl
        | succ count =>
          dsimp only
          cases took : consumeFront (frame :: frames) (count + 1) with
          | none =>
            exact fails (failedShut shell .writeFailed _)
              (by simpa [SendCall.failed] using consumeTooMuch took)
          | some left =>
            have same : ({ shell with outboundFrames := left } : ClientTransportShell F).isOpen = true :=
              opened
            dsimp only
            rw [same]
            exact deliveredSent still queue took

theorem shellLinkDelivered {link : ShellLink F}
    (delivered : Delivered link.shell.isOpen link.shell.outboundFrames link.accepted link.calls)
    (event : ShellEvent) :
    Delivered (shellStep link event).shell.isOpen (shellStep link event).shell.outboundFrames
      (shellStep link event).accepted (shellStep link event).calls := by
  cases event with
  | enqueueCommand command =>
    simp only [shellStep]
    obtain ⟨error, refused⟩ | ⟨frames, opened, queued, made⟩ := enqueueCases link.shell command
    · rw [refused]
      exact delivered
    · rw [made]
      rw [opened] at delivered
      have same : ({ link.shell with outboundFrames := frames } : ClientTransportShell F).isOpen = true :=
        opened
      dsimp only
      rw [same]
      exact deliveredQueued delivered queued
  | flushOutbound send => exact shellFlushDelivered send delivered

end

theorem linkRefused {link : Link} {frame : Bytes} {error : String}
    (refused : link.session.enqueueFrame frame = .error error) :
    linkStep link (.enqueueFrame frame) = link := by
  simp only [linkStep, refused]

theorem shellRefused {F : Type} {link : ShellLink F} {command : NetworkCommand} {error : Bytes}
    (refused : (link.shell.enqueueCommand command).2 = .error error) :
    shellStep link (.enqueueCommand command) = link := by
  simp only [shellStep]
  obtain ⟨other, same⟩ | ⟨frames, -, -, made⟩ := enqueueCases link.shell command
  · rw [same]
  · rw [made] at refused
    contradiction

theorem outboundExact {F : Type} {shell : ClientTransportShell F} (empty : shell.outboundFrames = [])
    (served : List SessionEvent) (sent : List ShellEvent) :
    Always linkStep Link.Intact {} served ∧ Always shellStep ShellLink.Intact ⟨shell, [], []⟩ sent := by
  constructor
  · refine alwaysOf (P := fun _ _ => True) (fun link delivered => ⟨delivered, fun _ _ => linkRefused⟩)
      (fun link event delivered _ => linkDelivered delivered event) ?_ (fun _ _ _ _ => trivial)
    exact ⟨fun _ => rfl, Nat.zero_le _, nofun⟩
  · refine alwaysOf (P := fun _ _ => True) (fun link delivered => ⟨delivered, fun _ _ => shellRefused⟩)
      (fun link event delivered _ => shellLinkDelivered delivered event) ?_ (fun _ _ _ _ => trivial)
    refine ⟨fun _ => ?_, ?_, fun _ => .inr rfl⟩
    · rw [empty]
      rfl
    · rw [empty]
      exact Nat.zero_le _

def connected : ClientTransportShell ℚ := { clientSocket := 3, link := .connected, receiver := .initial }

def pieces : List SessionEvent :=
  [.enqueueFrame (List.replicate 16 7), .flushOutbound fun _ _ => .accepted 5,
    .flushOutbound fun _ _ => .wouldBlock, .requestCloseAfterFlush, .enqueueFrame [],
    .flushOutbound fun _ frame => .accepted frame.length]

theorem outboundExactPieces :
    Always linkStep Link.Intact {} pieces ∧
    Always shellStep ShellLink.Intact ⟨connected, [], []⟩
      [.enqueueCommand ⟨1, .login, 0, [97]⟩, .flushOutbound fun _ => .accepted 3] :=
  outboundExact rfl pieces _

end SeedOrigin.OutboundStream
