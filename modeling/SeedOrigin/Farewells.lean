import SeedOrigin.Backlog
import SeedOrigin.SessionEnds

/-! The answer to a Disconnect that was accepted, from the outbound queue of its
connection to the socket, over every run that follows. -/
namespace SeedOrigin.Farewells
open SeedOrigin.Octets SeedOrigin.Numbers SeedOrigin.ClientInput SeedOrigin.Inputs
open SeedOrigin.CommandWire SeedOrigin.UpdateWire SeedOrigin.Sessions SeedOrigin.Presence
open SeedOrigin.Maps SeedOrigin.ClientConnection SeedOrigin.CommandDispatch SeedOrigin.Runtime
open SeedOrigin.Runs SeedOrigin.ServerRun SeedOrigin.FramePhases SeedOrigin.Backlog
open SeedOrigin.SessionMoves SeedOrigin.SessionAgreement SeedOrigin.SessionEnds
open SeedOrigin.FailedLogins (issuedInitial)

inductive Delivery (response sent : Bytes) (frames : List Bytes) : Prop where
  | waiting {front back : List Bytes} (queue : frames = front ++ response :: back)
  | leaving {earlier head tail : Bytes} {back : List Bytes} (parts : response = head ++ tail)
      (gone : sent = earlier ++ head) (queue : frames = tail :: back)
  | sent {earlier later : Bytes} (gone : sent = earlier ++ response ++ later)

theorem deliveryAppend {response sent : Bytes} {frames : List Bytes}
    (delivery : Delivery response sent frames) (more : List Bytes) :
    Delivery response sent (frames ++ more) := by
  cases delivery with
  | waiting queue =>
    rw [queue]
    exact .waiting (by rw [List.append_assoc, List.cons_append])
  | leaving parts gone queue =>
    rw [queue]
    exact .leaving parts gone rfl
  | sent gone => exact .sent gone

theorem deliveryConsumed {response sent frame : Bytes} {frames left : List Bytes} {count : Nat}
    (took : consumeFront (frame :: frames) count = some left)
    (delivery : Delivery response sent (frame :: frames)) :
    Delivery response (sent ++ frame.take count) left := by
  simp only [consumeFront] at took
  split at took <;> try contradiction
  split at took
  · rename_i whole
    obtain rfl := Option.some.inj took
    rw [whole, List.take_length]
    cases delivery with
    | @waiting front back queue =>
      cases front with
      | nil =>
        obtain ⟨rfl, -⟩ := List.cons.inj queue
        have gone : sent ++ frame = sent ++ frame ++ [] := (List.append_nil _).symm
        exact .sent gone
      | cons first front =>
        obtain ⟨-, rest⟩ := List.cons.inj queue
        exact .waiting rest
    | @leaving earlier head tail back parts gone queue =>
      obtain ⟨rfl, -⟩ := List.cons.inj queue
      have whole : sent ++ frame = earlier ++ response ++ [] := by
        rw [gone, parts]
        simp
      exact .sent whole
    | @sent earlier later gone => exact .sent (by rw [gone, List.append_assoc])
  · obtain rfl := Option.some.inj took
    cases delivery with
    | @waiting front back queue =>
      cases front with
      | nil =>
        obtain ⟨rfl, -⟩ := List.cons.inj queue
        exact .leaving (List.take_append_drop count frame).symm rfl rfl
      | cons first front =>
        obtain ⟨-, rfl⟩ := List.cons.inj queue
        have same : frame.drop count :: (front ++ response :: back) =
            (frame.drop count :: front) ++ response :: back := rfl
        exact .waiting same
    | @leaving earlier head tail back parts gone queue =>
      obtain ⟨rfl, -⟩ := List.cons.inj queue
      have whole : response = (head ++ frame.take count) ++ frame.drop count := by
        rw [parts, List.append_assoc, List.take_append_drop]
      exact .leaving whole (by rw [gone, List.append_assoc]) rfl
    | @sent earlier later gone => exact .sent (by rw [gone, List.append_assoc])

structure Passes (response : Bytes) (before : ClientSession) (calls : List SendCall)
    (after : ClientSession) : Prop where
  isOpen : before.isOpen = true
  closing : after.closeAfterFlush = before.closeAfterFlush
  delivers : ∀ sent, Delivery response sent before.outboundFrames →
    Delivery response (sent ++ sentBytes calls) after.outboundFrames

theorem passesIdle {response : Bytes} {session : ClientSession} (isOpen : session.isOpen = true)
    {calls : List SendCall} (nothing : sentBytes calls = []) : Passes response session calls session := by
  refine ⟨isOpen, rfl, fun sent delivery => ?_⟩
  rwa [nothing, List.append_nil]

theorem passesSent {response frame : Bytes} {frames left : List Bytes} {count : Nat}
    {session : ClientSession} (isOpen : session.isOpen = true)
    (queue : session.outboundFrames = frame :: frames)
    (took : consumeFront (frame :: frames) (count + 1) = some left) :
    Passes response session [⟨frame, .accepted (count + 1)⟩] { session with outboundFrames := left } := by
  refine ⟨isOpen, rfl, fun sent delivery => ?_⟩
  rw [queue] at delivery
  simpa [sentBytes, SendCall.sent] using deliveryConsumed took delivery

theorem Passes.cons {response : Bytes} {a b c : ClientSession} {call : SendCall} {calls : List SendCall}
    (first : Passes response a [call] b) (second : Passes response b calls c) :
    Passes response a (call :: calls) c := by
  refine ⟨first.isOpen, second.closing.trans first.closing, fun sent delivery => ?_⟩
  have rest := second.delivers _ (first.delivers sent delivery)
  rw [List.append_assoc] at rest
  simpa [sentBytes] using rest

theorem flushPasses (send : Nat → Bytes → SendResult) (response : Bytes) (fuel call : Nat)
    {session : ClientSession} (last : SendStatus)
    (isOpen : (flushLoop send fuel call session last).1.isOpen = true) :
    Passes response session (flushCalls send fuel call session)
      (flushLoop send fuel call session last).1 := by
  induction fuel generalizing call session last with
  | zero => exact passesIdle isOpen rfl
  | succ fuel ih =>
    simp only [flushLoop, flushCalls] at isOpen ⊢
    by_cases shut : session.isOpen = false
    · rw [if_pos shut, shut] at isOpen
      contradiction
    · simp only [if_neg shut] at isOpen ⊢
      have opened : session.isOpen = true := by simpa using shut
      cases queue : session.outboundFrames with
      | nil =>
        simp only [queue] at isOpen ⊢
        split at isOpen
        · contradiction
        · rename_i staying
          rw [if_neg staying]
          exact passesIdle opened rfl
      | cons frame frames =>
        simp only [queue] at isOpen ⊢
        cases answer : send call frame with
        | wouldBlock => exact passesIdle opened rfl
        | reset =>
          simp only [answer] at isOpen
          contradiction
        | failed =>
          simp only [answer] at isOpen
          contradiction
        | accepted count =>
          cases count with
          | zero => exact passesIdle opened rfl
          | succ count =>
            simp only [answer] at isOpen ⊢
            cases took : consumeFront (frame :: frames) (count + 1) with
            | none =>
              simp only [took] at isOpen
              contradiction
            | some left =>
              have first : Passes response session [⟨frame, .accepted (count + 1)⟩]
                  { session with outboundFrames := left } := passesSent opened queue took
              simp only [took] at isOpen ⊢
              by_cases closing : session.closeAfterFlush = true
              · simp only [if_pos closing] at isOpen ⊢
                exact first.cons (ih (call + 1) .sent isOpen)
              · simp only [if_neg closing]
                exact first

theorem receiveCloses (session : ClientSession) (received : RecvResult) :
    (session.receive received).1.isOpen = true →
      session.isOpen = true ∧ (session.receive received).1.closeAfterFlush = session.closeAfterFlush := by
  unfold ClientSession.receive
  split
  · exact fun isOpen => ⟨isOpen, rfl⟩
  · rename_i isOpen
    have was : session.isOpen = true := by simpa using isOpen
    cases received with
    | bytes input =>
      dsimp only
      split
      · exact nofun
      · exact fun _ => ⟨was, rfl⟩
    | peerClosed => exact nofun
    | wouldBlock => exact fun _ => ⟨was, rfl⟩
    | reset => exact nofun
    | failed => exact nofun

section
variable {F σ : Type} [FloatOps F] (ports : ServerPorts F σ)

def Parting (c : Nat) (response : Bytes) (state : ServerRuntime F σ × Bytes) : Prop :=
  ∀ session, view state.1 c = some session → session.isOpen = true →
    session.closeAfterFlush = true ∧ Delivery response state.2 session.outboundFrames

structure Numbered (runtime : ServerRuntime F σ) : Prop where
  running : runtime.running = true
  served : runtime.pendingCommands = []
  first : 1 ≤ runtime.nextConnectionId
  fresh : ∀ c, (view runtime c).isSome = true → 1 ≤ c ∧ c < runtime.nextConnectionId

omit [FloatOps F] in
theorem numberedFewer {before after : ServerRuntime F σ} (numbered : Numbered before)
    (aside : Aside before after) (served : after.pendingCommands = [])
    (fewer : ∀ c, (view after c).isSome = true → (view before c).isSome = true) : Numbered after := by
  refine ⟨aside.running.trans numbered.running, served, ?_, fun c there => ?_⟩
  · rw [aside.next]
    exact numbered.first
  · rw [aside.next]
    exact numbered.fresh c (fewer c there)

omit [FloatOps F] in
theorem acceptedNumbered {runtime : ServerRuntime F σ} (numbered : Numbered runtime) (fuel : Nat)
    (outcomes : List AcceptOutcome) (error : String) (accepted : Nat) :
    Numbered (acceptClients fuel outcomes runtime error accepted).1 := by
  refine acceptsKeep (fun opened numbered => ⟨numbered.running, numbered.served, Nat.le_add_left 1 _,
    fun c there => ?_⟩) fuel outcomes numbered error accepted
  rw [openedView] at there
  by_cases new : c = opened.nextConnectionId
  · exact ⟨new ▸ numbered.first, Nat.lt_succ_of_le (le_of_eq new)⟩
  · rw [Function.update_of_ne new] at there
    obtain ⟨low, lower⟩ := numbered.fresh c there
    exact ⟨low, Nat.lt_succ_of_lt lower⟩

omit [FloatOps F] in
theorem receivedNumbered {runtime : ServerRuntime F σ} (numbered : Numbered runtime) (env : FrameEnv) :
    Numbered (toServe env runtime).1 ∧
      runtime.nextConnectionId ≤ (toServe env runtime).1.nextConnectionId ∧
      (∀ c, c < runtime.nextConnectionId → view (toServe env runtime).1 c =
        (view runtime c).map (fun session => (session.receive (env.recv c)).1)) ∧
      ∀ p ∈ (received env runtime).1.pendingCommands, OpenAt (toServe env runtime).1 p.connectionId := by
  obtain ⟨accepting, error, count, accepted, read⟩ := receivedFrom env runtime
  have opened := acceptedNumbered numbered maxAcceptsPerFrame env.accepts "" 0
  obtain ⟨more, old⟩ := acceptedOld maxAcceptsPerFrame env.accepts runtime "" 0
  rw [accepted] at opened more old
  have begun := receiveSweep env accepting.clients.keys (keysNodup _)
    ({ accepting with
        newAuthenticatedSessions := 0
        services := accepting.services.beginFrame (accepting.worldTick + 1) }, error)
    (fun p waits => absurd (opened.served ▸ waits) List.not_mem_nil)
  have rest := receivedRest env accepting error
  have seen (c : Nat) : view (toServe env runtime).1 c =
      (view accepting c).map (fun session => (session.receive (env.recv c)).1) := by
    have same : view (toServe env runtime).1 c = view (received env runtime).1 c := rfl
    rw [same, read, receivedView]
  have aside : Aside accepting (toServe env runtime).1 := by
    rw [← read] at rest
    exact ⟨rest.running, rest.next⟩
  refine ⟨numberedFewer opened aside rfl (fun c there => ?_), ?_, fun c below => ?_, fun p waits => ?_⟩
  · rw [seen, Option.isSome_map] at there
    exact there
  · rw [aside.next]
    exact more
  · rw [seen, old c below]
  · rw [read] at waits
    have isOpen := begun.2 p waits
    unfold OpenAt at isOpen ⊢
    have same : view (toServe env runtime).1 p.connectionId = view (received env runtime).1 p.connectionId := rfl
    rw [same, read]
    exact isOpen

omit [FloatOps F] in
theorem removedNumbered {runtime : ServerRuntime F σ} (numbered : Numbered runtime) :
    Numbered (removeClosedClients runtime) := by
  refine numberedFewer numbered (removedRest runtime) ?_ (fun c there => ?_)
  · unfold removeClosedClients
    refine List.foldlRecOn (motive := fun state : ServerRuntime F σ => state.pendingCommands = []) _ _
      numbered.served ?_
    intro state none c _
    unfold removeClosed
    split
    · exact none
    · split <;> exact none
  · rw [removedView] at there
    obtain ⟨session, left⟩ := Option.isSome_iff_exists.mp there
    rw [(Option.filter_eq_some_iff.mp left).1]
    rfl

omit [FloatOps F] in
theorem answeredNumbered {before after : ServerRuntime F σ} (numbered : Numbered before)
    (answered : Answered before after) : Numbered after :=
  numberedFewer numbered ⟨answered.running, answered.next⟩ (answered.pending.trans numbered.served)
    (fun c there => by rwa [answeredSome answered] at there)

theorem servedNumbered {runtime : ServerRuntime F σ} (numbered : Numbered runtime) (env : FrameEnv) :
    Numbered (served ports env runtime).1 :=
  answeredNumbered (receivedNumbered numbered env).1 (servedAnswered ports env runtime)

omit [FloatOps F] in
theorem numberedAdvanced {runtime : ServerRuntime F σ} (numbered : Numbered runtime) :
    Numbered (ServerRuntime.advanceFrame runtime) :=
  ⟨numbered.running, numbered.served, numbered.first, numbered.fresh⟩

theorem frameNumbered {runtime : ServerRuntime F σ} (numbered : Numbered runtime) (env : FrameEnv) :
    Numbered (processFrame ports env runtime).1 := by
  have removed : Numbered (flushing ports env runtime) :=
    removedNumbered (servedNumbered ports numbered env)
  have sent : Numbered (flushed ports env runtime) := by
    refine numberedFewer removed (flushedRest env _ _) ?_ (fun c there => ?_)
    · exact (flushedAlike env _ _).2.trans removed.served
    · unfold flushed at there
      rwa [flushedView, Option.isSome_map] at there
  rw [framePhases ports env numbered.running]
  exact numberedAdvanced (removedNumbered sent)

theorem stepNumbered {runtime : ServerRuntime F σ} (numbered : Numbered runtime) (event : ServerEvent F) :
    Numbered (serverStep ports runtime event) := by
  cases event with
  | frame env => exact frameNumbered ports numbered env
  | publish updates ownerAcks =>
    exact answeredNumbered numbered (publishedAnswered runtime updates ownerAcks)
  | world frame => exact ⟨numbered.running, numbered.served, numbered.first, numbered.fresh⟩

section
variable {c : Nat} {response sent : Bytes}

omit [FloatOps F] in
theorem answeredParting {before after : ServerRuntime F σ} (answered : Answered before after)
    (parting : Parting c response (before, sent)) : Parting c response (after, sent) := by
  intro session here isOpen
  have related := answered.clients c
  cases there : view before c with
  | none =>
    rw [there, show view after c = some session from here] at related
    cases related
  | some old =>
    rw [there, show view after c = some session from here] at related
    cases related with
    | some extended =>
      obtain ⟨closing, delivery⟩ := parting old there (extended.isOpen.symm.trans isOpen)
      obtain ⟨more, grown, -⟩ := extended.frames
      refine ⟨extended.closing closing, ?_⟩
      rw [grown]
      exact deliveryAppend delivery more

omit [FloatOps F] in
theorem removedParting {runtime : ServerRuntime F σ} (parting : Parting c response (runtime, sent)) :
    Parting c response (removeClosedClients runtime, sent) := by
  intro session here isOpen
  have left : view (removeClosedClients runtime) c = some session := here
  rw [removedView] at left
  exact parting session (Option.filter_eq_some_iff.mp left).1 isOpen

omit [FloatOps F] in
theorem flushedParting {runtime : ServerRuntime F σ} (env : FrameEnv) (error : String)
    (parting : Parting c response (runtime, sent)) :
    Parting c response ((flushClients env runtime error).1,
      sent ++ match view runtime c with
        | none => []
        | some session => sentBytes (callsOf session (env.send c))) := by
  intro session here isOpen
  have left : view (flushClients env runtime error).1 c = some session := here
  rw [flushedView] at left
  obtain ⟨old, there, rfl⟩ := Option.map_eq_some_iff.mp left
  have passes : Passes response old (callsOf old (env.send c)) (old.flushOutbound (env.send c)).1 :=
    flushPasses (env.send c) response _ 0 .noData isOpen
  obtain ⟨closing, delivery⟩ := parting old there passes.isOpen
  rw [there]
  exact ⟨passes.closing.trans closing, passes.delivers sent delivery⟩

omit [FloatOps F] in
theorem advancedParting {runtime : ServerRuntime F σ} (parting : Parting c response (runtime, sent)) :
    Parting c response (ServerRuntime.advanceFrame runtime, sent) :=
  fun session here isOpen => parting session here isOpen

theorem frameParting {runtime : ServerRuntime F σ} (numbered : Numbered runtime) (env : FrameEnv)
    (parting : Parting c response ((served ports env runtime).1, sent)) :
    Parting c response ((processFrame ports env runtime).1, sent ++ sentIn ports env c runtime) := by
  have removed := removedParting parting
  have sends := removedParting (flushedParting env (served ports env runtime).2 removed)
  rw [framePhases ports env numbered.running]
  exact advancedParting sends

omit [FloatOps F] in
theorem receivedParting {runtime : ServerRuntime F σ} (numbered : Numbered runtime) (env : FrameEnv)
    (known : c < runtime.nextConnectionId) (parting : Parting c response (runtime, sent)) :
    Parting c response ((toServe env runtime).1, sent) := by
  intro session here isOpen
  have read := (receivedNumbered numbered env).2.2.1 c known
  obtain ⟨old, there, rfl⟩ := Option.map_eq_some_iff.mp (read.symm.trans here)
  obtain ⟨was, same⟩ := receiveCloses old (env.recv c) isOpen
  obtain ⟨closing, delivery⟩ := parting old there was
  refine ⟨same.trans closing, ?_⟩
  rw [receiveKeeps]
  exact delivery

def goodbye (sessionId : Int) : Bytes :=
  responseBytes CommandWire.currentProtocolVersion CommandType.disconnect.code.toNat sessionId []

theorem acceptedPositive {runtime : ServerRuntime F σ} {pending : PendingCommand}
    (accepts : Accepts ports runtime pending) : 0 < pending.command.sessionId.toInt := by
  obtain ⟨type, accepted⟩ := accepts
  unfold dispatchPending at accepted
  rw [if_neg (by rw [type]; nofun)] at accepted
  obtain ⟨refused, -⟩ | ⟨-, ⟨-, -, allowed⟩, -⟩ := disconnectCases ports runtime.services type
  · dsimp only at accepted
    rw [accepted] at refused
    contradiction
  · by_contra low
    unfold CommandRateLimiter.allow at allowed
    rw [if_pos (by omega)] at allowed
    contradiction

omit [FloatOps F] in
theorem goodbyeEncoded {sessionId : Int} (positive : 0 < sessionId) :
    encodeDisconnectResponseFrame ⟨CommandWire.currentProtocolVersion, true, sessionId, []⟩ =
      .ok (goodbye sessionId) := by
  have valid : validateDisconnectResponse ⟨CommandWire.currentProtocolVersion, true, sessionId, []⟩ =
      .ok () := by
    unfold validateDisconnectResponse
    simp [not_le.mpr positive]
  unfold encodeDisconnectResponseFrame
  rw [valid]
  rfl

omit [FloatOps F] in
theorem goodbyeQueued {session : ClientSession} (isOpen : session.isOpen = true) (sessionId : Int)
    (room : session.outboundFrames.length < maxOutboundFrames) : session.enqueueFrame (goodbye sessionId) =
      .ok { session with outboundFrames := session.outboundFrames ++ [goodbye sessionId] } := by
  have size : (goodbye sessionId).length = frameHeaderSize := by
    unfold goodbye responseBytes
    rw [List.length_append, packedLength]
    rfl
  have queued := (enqueueExact session.outboundFrames (goodbye sessionId) _).mpr
    ⟨⟨le_of_eq size.symm, by rw [size]; decide⟩, room, rfl⟩
  unfold ClientSession.enqueueFrame
  rw [if_neg (by simp [isOpen]), queued]
  rfl

omit [FloatOps F] in
theorem answerDisconnectQueued {runtime : ServerRuntime F σ} {error : String}
    {pending : PendingCommand} {result : CommandDispatchResult} {session next : ClientSession}
    (there : runtime.clientSession pending.connectionId = some session) (isOpen : session.isOpen = true)
    (accepted : result.accepted = true) (responded : enqueueResponse session
      (encodeDisconnectResponseFrame (disconnectResponse pending.command result)) error =
        (next, true, error)) :
    (answerDisconnect runtime error pending result).1.clients =
      runtime.clients.insert pending.connectionId next.requestCloseAfterFlush := by
  unfold answerDisconnect
  simp only [there, isOpen, responded, accepted]
  rfl

theorem acceptedParting {state : ServerRuntime F σ × String} {pending : PendingCommand}
    (accepts : Accepts ports state.1 pending) (named : pending.connectionId ≠ 0)
    (isOpen : OpenAt state.1 pending.connectionId) (room : Room state.1 pending.connectionId) :
    Parting pending.connectionId (goodbye pending.command.sessionId.toInt)
      ((serveCommand ports state pending).1, sent) := by
  obtain ⟨runtime, error⟩ := state
  obtain ⟨session, there, isOpen⟩ := openSome isOpen
  have positive := acceptedPositive ports accepts
  obtain ⟨type, accepted⟩ := accepts
  have kept : (dispatchPending ports runtime pending).1.clientSession pending.connectionId =
      some session := by
    unfold ServerRuntime.clientSession
    rw [(dispatchElsewhere ports runtime pending).clients]
    exact there
  have encoded : encodeDisconnectResponseFrame (disconnectResponse pending.command
      (dispatchPending ports runtime pending).2) = .ok (goodbye pending.command.sessionId.toInt) := by
    unfold disconnectResponse
    rw [accepted]
    exact goodbyeEncoded positive
  have queued := goodbyeQueued isOpen pending.command.sessionId.toInt (room session there)
  have answer : (serveCommand ports (runtime, error) pending).1.clients =
      (dispatchPending ports runtime pending).1.clients.insert pending.connectionId
        ({ session with outboundFrames := session.outboundFrames ++
          [goodbye pending.command.sessionId.toInt] } : ClientSession).requestCloseAfterFlush := by
    unfold serveCommand
    dsimp only
    rw [if_neg named, if_pos type]
    refine answerDisconnectQueued kept isOpen accepted ?_
    rw [encoded]
    unfold enqueueResponse
    rw [if_neg (by simp [isOpen])]
    dsimp only
    rw [queued]
  intro last here _
  have shown : view (serveCommand ports (runtime, error) pending).1 pending.connectionId = some last := here
  unfold view at shown
  rw [answer, lookupInsert, Function.update_self] at shown
  cases Option.some.inj shown
  exact ⟨rfl, .waiting rfl⟩

omit c response sent in
-- On a full queue the answer is lost, and nobody asks the connection to close.
theorem fullQueueSilent {state : ServerRuntime F σ × String} {pending : PendingCommand}
    (accepts : Accepts ports state.1 pending) (named : pending.connectionId ≠ 0) {session : ClientSession}
    (there : view state.1 pending.connectionId = some session) (isOpen : session.isOpen = true)
    (full : maxOutboundFrames ≤ session.outboundFrames.length) :
    view (serveCommand ports state pending).1 pending.connectionId = some session := by
  obtain ⟨runtime, error⟩ := state
  have kept : (dispatchPending ports runtime pending).1.clientSession pending.connectionId =
      some session := by
    unfold ServerRuntime.clientSession
    rw [(dispatchElsewhere ports runtime pending).clients]
    exact there
  have refused (encoded : Except String Bytes) : ∃ after,
      enqueueResponse session encoded error = (session, false, after) := by
    unfold enqueueResponse
    rw [if_neg (by simp [isOpen])]
    cases encoded with
    | error e => exact ⟨_, rfl⟩
    | ok frame =>
      dsimp only
      cases queued : session.enqueueFrame frame with
      | error e => exact ⟨_, rfl⟩
      | ok next =>
        obtain ⟨-, -, room, -⟩ := (Publish.enqueueFrameExact _ _ _).mp queued
        omega
  obtain ⟨after, responded⟩ := refused (encodeDisconnectResponseFrame (disconnectResponse pending.command
    (dispatchPending ports runtime pending).2))
  have same : (serveCommand ports (runtime, error) pending).1.clients =
      (dispatchPending ports runtime pending).1.clients.insert pending.connectionId session := by
    unfold serveCommand
    dsimp only
    rw [if_neg named, if_pos accepts.1]
    unfold answerDisconnect
    simp only [kept, isOpen, responded, accepts.2]
    rfl
  unfold view
  rw [same, lookupInsert, Function.update_self]

omit [FloatOps F] c response sent in
theorem roomCounted {runtime : ServerRuntime F σ} {c count : Nat}
    (queued : (view runtime c).map (fun session => session.outboundFrames.length) = some count)
    (few : count < maxOutboundFrames) : Room runtime c := by
  intro session there
  rw [there] at queued
  exact lt_of_eq_of_lt (Option.some.inj queued) few

omit [FloatOps F] in
theorem untoldOpen (state : ServerRuntime F σ × Bytes) (left : (view state.1 c).map
    (fun session => (session.isOpen, session.closeAfterFlush)) = some (true, false)) :
    ¬ Parting c response state := by
  intro parting
  obtain ⟨session, there, flags⟩ := Option.map_eq_some_iff.mp left
  obtain ⟨isOpen, closing⟩ := Prod.mk.inj flags
  have asked := (parting session there isOpen).1
  rw [closing] at asked
  contradiction

omit c response sent in
theorem startedNumbered (auth : σ) (names : IntMap Bytes) (events : List (ServerEvent F)) :
    Numbered (run (serverStep ports) (started auth names) events) := by
  have nobody (c : Nat) : view (started auth names : ServerRuntime F σ) c = none :=
    Std.ExtTreeMap.getElem?_empty
  refine List.foldlRecOn (motive := fun runtime : ServerRuntime F σ => Numbered runtime) events
    (serverStep ports) ⟨rfl, rfl, le_refl _, fun c there => ?_⟩
    (fun runtime numbered event _ => stepNumbered ports numbered event)
  rw [nobody] at there
  contradiction

end

def logStep (log : Log F σ) : ServerEvent F → Log F σ
  | .frame env =>
    let served := run (noteCommand ports)
      ({ log with runtime := (toServe env log.runtime).1 }, (toServe env log.runtime).2)
      (received env log.runtime).1.pendingCommands
    { served.1 with
      runtime := (processFrame ports env log.runtime).1
      sent := fun c => served.1.sent c ++ sentIn ports env c log.runtime }
  | event => { log with runtime := serverStep ports log.runtime event }

-- Whoever had a Disconnect accepted is gone or closed, or closes once it has been sent
-- the answer; and an open connection has every session it was given, or has had its own
-- Disconnect of it accepted.
structure Told (log : Log F σ) : Prop where
  answered : ∀ c s, (c, s) ∈ log.ended → Parting c (goodbye s) (log.runtime, log.sent c)
  sessions : ∀ c s, (c, s) ∈ log.held → OpenAt log.runtime c →
    (holds log.runtime c = some s ∧ Active log.runtime s) ∨ (c, s) ∈ log.ended

def Answering (runtime : ServerRuntime F σ) (event : ServerEvent F) : Prop :=
  Serves ports (fun runtime pending => Accepts ports runtime pending → Answerable runtime pending)
    runtime event

structure Kept (log : Log F σ) : Prop where
  bound : Bound log
  answered : ∀ c s, (c, s) ∈ log.ended → Parting c (goodbye s) (log.runtime, log.sent c)

omit [FloatOps F] in
theorem keptTold {log : Log F σ} (kept : Kept log) : Told log := by
  refine ⟨kept.answered, fun c s noted isOpen => ?_⟩
  obtain held | ended := kept.bound.lost c s noted isOpen
  · exact .inl ⟨held, kept.bound.live c s isOpen held⟩
  · exact .inr ended

theorem keptServed {state : Log F σ × String} {pending : PendingCommand} (kept : Kept state.1)
    (isOpen : OpenAt state.1.runtime pending.connectionId) (named : pending.connectionId ≠ 0)
    (below : pending.connectionId < state.1.runtime.nextConnectionId)
    (answerable : Accepts ports state.1.runtime pending → Answerable state.1.runtime pending) :
    Kept (noteCommand ports state pending).1 := by
  refine ⟨boundServed kept.bound isOpen named below answerable, fun c s ended => ?_⟩
  have answers := serveAnswered ports (state.1.runtime, state.2) pending
  obtain old | ⟨accepts, rfl, rfl⟩ := (endedSince ports).mp ended
  · exact answeredParting answers (kept.answered c s old)
  · change Parting _ _ ((serveCommand ports (state.1.runtime, state.2) pending).1, _)
    exact acceptedParting ports accepts named isOpen (answerable accepts).room

theorem keptRun {commands : List PendingCommand} (state : Log F σ × String) (kept : Kept state.1)
    (ready : ∀ p ∈ commands, OpenAt state.1.runtime p.connectionId ∧ p.connectionId ≠ 0 ∧
      p.connectionId < state.1.runtime.nextConnectionId)
    (along : Along (serveCommand ports) (fun state pending => Accepts ports state.1 pending →
      Answerable state.1 pending) (state.1.runtime, state.2) commands) :
    Kept (run (noteCommand ports) state commands).1 ∧
      (run (noteCommand ports) state commands).1.runtime =
        (run (serveCommand ports) (state.1.runtime, state.2) commands).1 := by
  induction commands generalizing state with
  | nil => exact ⟨kept, rfl⟩
  | cons pending commands ih =>
    obtain ⟨answerable, later⟩ := (alongCons (serveCommand ports)).mp along
    obtain ⟨isOpen, named, below⟩ := ready pending List.mem_cons_self
    have answers := serveAnswered ports (state.1.runtime, state.2) pending
    refine ih _ (keptServed ports kept isOpen named below answerable) (fun p waits => ?_) later
    obtain ⟨isOpen, named, below⟩ := ready p (List.mem_cons_of_mem pending waits)
    exact ⟨(answeredOpen answers p.connectionId).trans isOpen, named, lt_of_lt_of_eq below answers.next.symm⟩

omit [FloatOps F] in
theorem boundAccepted {log : Log F σ} (bound : Bound log) (fuel : Nat) (outcomes : List AcceptOutcome)
    (error : String) (accepted : Nat) :
    Bound { log with runtime := (acceptClients fuel outcomes log.runtime error accepted).1 } :=
  acceptsKeep (P := fun opened => Bound { log with runtime := opened })
    (fun opened kept => boundOpened (show Bound { log with runtime := opened } from kept)) fuel outcomes
    bound error accepted

omit [FloatOps F] in
theorem boundReceived {log : Log F σ} (numbered : Numbered log.runtime) (bound : Bound log)
    (env : FrameEnv) : Bound { log with runtime := (toServe env log.runtime).1 } := by
  obtain ⟨accepting, error, count, accepted, read⟩ := receivedFrom env log.runtime
  have opened := boundAccepted bound maxAcceptsPerFrame env.accepts "" 0
  have served := (acceptedNumbered numbered maxAcceptsPerFrame env.accepts "" 0).served
  rw [accepted] at opened served
  have begun := (receiveSweep env accepting.clients.keys (keysNodup _)
    ({ accepting with
        newAuthenticatedSessions := 0
        services := accepting.services.beginFrame (accepting.worldTick + 1) }, error)
    (fun p waits => absurd (served ▸ waits) List.not_mem_nil)).1
  have next := (receivedRest env accepting error).next
  have isOpen (c : Nat) (opened : OpenAt (toServe env log.runtime).1 c) : OpenAt accepting c := by
    have same : view (toServe env log.runtime).1 c = view (received env log.runtime).1 c := rfl
    unfold OpenAt at opened ⊢
    rw [same, read, receivedView] at opened
    obtain ⟨after, there, isOpen⟩ := Option.map_eq_some_iff.mp opened
    obtain ⟨session, here, rfl⟩ := Option.map_eq_some_iff.mp there
    rw [here]
    exact congrArg some (receiveCloses session (env.recv c) isOpen).1
  refine boundAlike opened log.sent ?_ ?_ ?_ isOpen
  · unfold toServe
    rw [read]
    exact begun.lifecycle
  · unfold toServe
    rw [read]
    exact begun.registry
  · unfold toServe
    rw [read]
    exact next

omit [FloatOps F] in
theorem boundFlushed {log : Log F σ} (bound : Bound log) (env : FrameEnv) (error : String) :
    Bound { log with runtime := (flushClients env log.runtime error).1 } := by
  obtain ⟨alike, -⟩ := flushedAlike env log.runtime error
  refine boundAlike bound log.sent alike.lifecycle alike.registry (flushedRest env log.runtime error).next
    fun c opened => ?_
  unfold OpenAt at opened ⊢
  rw [flushedView] at opened
  obtain ⟨after, there, isOpen⟩ := Option.map_eq_some_iff.mp opened
  obtain ⟨session, here, rfl⟩ := Option.map_eq_some_iff.mp there
  rw [here]
  exact congrArg some (flushPasses (env.send c) [] _ 0 .noData isOpen).isOpen

omit [FloatOps F] in
theorem boundAdvanced {log : Log F σ} (bound : Bound log) (sent : Nat → Bytes) :
    Bound { log with runtime := ServerRuntime.advanceFrame log.runtime, sent := sent } :=
  boundAlike bound sent rfl rfl rfl (fun _ isOpen => isOpen)

omit [FloatOps F] in
theorem keptReceived {log : Log F σ} (numbered : Numbered log.runtime) (kept : Kept log)
    (env : FrameEnv) : Kept { log with runtime := (toServe env log.runtime).1 } := by
  refine ⟨boundReceived numbered kept.bound env, fun c s ended => ?_⟩
  exact receivedParting numbered env (kept.bound.known c s (.inr ended)) (kept.answered c s ended)

theorem keptSent {runtime : ServerRuntime F σ} (numbered : Numbered runtime) (env : FrameEnv)
    {log : Log F σ} (kept : Kept log) (same : log.runtime = (served ports env runtime).1) :
    Kept { log with
      runtime := (processFrame ports env runtime).1
      sent := fun c => log.sent c ++ sentIn ports env c runtime } := by
  refine ⟨?_, fun c s ended => ?_⟩
  · have removed := boundCleared kept.bound
    rw [same] at removed
    have sends := boundCleared (boundFlushed removed env (served ports env runtime).2)
    rw [framePhases ports env numbered.running]
    exact boundAdvanced sends _
  · have parting := kept.answered c s ended
    rw [same] at parting
    exact frameParting ports numbered env parting

theorem keptFrame {log : Log F σ} (numbered : Numbered log.runtime) (kept : Kept log) (env : FrameEnv)
    (answering : Answering ports log.runtime (.frame env)) : Kept (logStep ports log (.frame env)) := by
  obtain ⟨begun, -, -, ready⟩ := receivedNumbered numbered env
  have waits (p : PendingCommand) (there : p ∈ (received env log.runtime).1.pendingCommands) :
      OpenAt (toServe env log.runtime).1 p.connectionId ∧ p.connectionId ≠ 0 ∧
        p.connectionId < (toServe env log.runtime).1.nextConnectionId := by
    have isOpen := ready p there
    obtain ⟨session, here, -⟩ := openSome isOpen
    obtain ⟨low, high⟩ := begun.fresh p.connectionId (Option.isSome_of_mem here)
    exact ⟨isOpen, by omega, high⟩
  obtain ⟨serving, same⟩ := keptRun ports
    ({ log with runtime := (toServe env log.runtime).1 }, (toServe env log.runtime).2)
    (keptReceived numbered kept env) waits answering
  exact keptSent ports numbered env serving same

theorem keptStep {log : Log F σ} (numbered : Numbered log.runtime) (kept : Kept log)
    (event : ServerEvent F) (answering : Answering ports log.runtime event) :
    Kept (logStep ports log event) := by
  cases event with
  | frame env => exact keptFrame ports numbered kept env answering
  | publish updates ownerAcks =>
    have answered := publishedAnswered log.runtime updates ownerAcks
    refine ⟨?_, fun c s ended => answeredParting answered (kept.answered c s ended)⟩
    exact boundAlike kept.bound log.sent rfl rfl answered.next
      (fun c isOpen => (answeredOpen answered c).symm.trans isOpen)
  | world frame =>
    refine ⟨boundAlike kept.bound log.sent rfl rfl rfl (fun c isOpen => isOpen), fun c s ended => ?_⟩
    exact kept.answered c s ended

theorem stepLogged (log : Log F σ) (event : ServerEvent F) :
    (logStep ports log event).runtime = serverStep ports log.runtime event := by
  cases event <;> rfl

theorem startedBound (auth : σ) (names : IntMap Bytes) :
    Bound (⟨started auth names, [], [], fun _ => []⟩ : Log F σ) := by
  have unbound (c : Nat) : holds (started auth names : ServerRuntime F σ) c = none :=
    Std.ExtTreeMap.getElem?_empty
  have nobody {c : Nat} {s : Int} (here : holds (started auth names : ServerRuntime F σ) c = some s) :
      False := by
    rw [unbound] at here
    contradiction
  exact ⟨issuedInitial, fun _ _ here => (nobody here).elim, fun _ _ _ here _ => (nobody here).elim,
    fun _ _ _ here => (nobody here).elim, fun _ _ here => (nobody here).elim, by simp, nofun⟩

theorem acceptedDisconnectAnswered (auth : σ) (names : IntMap Bytes) {events : List (ServerEvent F)}
    (answering : Along (serverStep ports) (Answering ports) (started auth names) events) :
    Always (logStep ports) Told ⟨started auth names, [], [], fun _ => []⟩ events := by
  have along : Along (logStep ports) (fun log event => Answering ports log.runtime event)
      ⟨started auth names, [], [], fun _ => []⟩ events :=
    alongMapped (fun log event => (stepLogged ports log event).symm) answering
  refine alwaysOf (I := fun log => Numbered log.runtime ∧ Kept log) (fun _ here => keptTold here.2) ?_ ?_
    along
  · rintro log event ⟨numbered, kept⟩ answering
    refine ⟨?_, keptStep ports numbered kept event answering⟩
    rw [stepLogged]
    exact stepNumbered ports numbered event
  · exact ⟨startedNumbered ports auth names [], startedBound auth names, nofun⟩

variable {ports}

theorem answeringQuiet {runtime : ServerRuntime F σ} {env : FrameEnv}
    (quiet : ∀ p ∈ (received env runtime).1.pendingCommands, p.command.type ≠ .disconnect) :
    Answering ports runtime (.frame env) := by
  intro before pending after split accepts
  exact absurd accepts.1 (quiet pending (by rw [split]; simp))

theorem answeringOne {runtime : ServerRuntime F σ} {env : FrameEnv} (pending : PendingCommand)
    (waits : (received env runtime).1.pendingCommands = [pending])
    (answerable : Answerable (toServe env runtime).1 pending) : Answering ports runtime (.frame env) := by
  have one : Along (serveCommand ports) (fun state pending => Accepts ports state.1 pending →
      Answerable state.1 pending) (toServe env runtime) [pending] :=
    (alongCons _).mpr ⟨fun _ => answerable, alongNil _ _ _⟩
  rw [← waits] at one
  exact one

omit [FloatOps F] in
theorem answerableListed {runtime : ServerRuntime F σ} {c : Nat} (count : Nat) {s : Int}
    {command : NetworkCommand}
    (named : command.sessionId.toInt = s)
    (queued : (view runtime c).map (fun session => session.outboundFrames.length) = some count)
    (few : count < maxOutboundFrames) (own : holds runtime c = some s)
    (alone : ∀ p ∈ runtime.lifecycle.bindings.toList, p.2 = s → p.1 = c) :
    Answerable runtime ⟨c, command⟩ := by
  refine ⟨roomCounted queued few, fun r here => ?_, fun d _ here => ?_⟩
  · rw [own] at here
    exact (Option.some.inj here).symm.trans named.symm
  · exact alone (d, s) (Std.ExtTreeMap.mem_toList_iff_getElem?_eq_some.mpr (named ▸ here)) rfl

end

def departure : FrameEnv where
  accepts := []
  recv c := if c = 1 then .bytes (commandFrame .disconnect 1 "") else .wouldBlock
  send _ _ _ := .wouldBlock

def leaver : PendingCommand := ⟨1, ⟨CommandWire.currentProtocolVersion, .disconnect, 1, []⟩⟩

def visit : List (ServerEvent ℚ) := [.frame (loginsFrame 2), .frame departure, .frame quietFrame]

def unlogged : Log ℚ Unit := ⟨started () twoNames, [], [], fun _ => []⟩

theorem departureAnswered :
    Along (serverStep openPorts) (Answering openPorts) (started () twoNames) visit ∧
    Always (logStep openPorts) Told unlogged visit ∧
    (run (logStep openPorts) unlogged visit).held.dedup = [(1, 1), (2, 2)] ∧
    (run (logStep openPorts) unlogged visit).ended = [(1, 1)] := by
  let arrived := serverStep openPorts (started () twoNames) (.frame (loginsFrame 2))
  have arriving : Answering openPorts (started () twoNames) (.frame (loginsFrame 2)) :=
    answeringQuiet (by decide +kernel)
  have leaving : Answering openPorts arrived (.frame departure) :=
    answeringOne leaver (by decide +kernel)
      (answerableListed 0 rfl (by decide +kernel) (by decide) (by decide +kernel)
        (by decide +kernel))
  have sending : Answering openPorts (serverStep openPorts arrived (.frame departure)) (.frame quietFrame) :=
    answeringQuiet (by decide +kernel)
  have answering : Along (serverStep openPorts) (Answering openPorts) (started () twoNames) visit :=
    (alongCons _).mpr ⟨arriving, (alongCons _).mpr ⟨leaving, (alongCons _).mpr ⟨sending,
      alongNil _ _ _⟩⟩⟩
  exact ⟨answering, acceptedDisconnectAnswered openPorts () twoNames answering, by decide +kernel,
    by decide +kernel⟩

def flood : List (ServerEvent ℚ) :=
  [.frame (loginsFrame 1),
    .publish ((List.range maxOutboundFrames).map (fun n => plainEvent (UInt64.ofNat (n + 1)))) [],
    .frame departure]

-- A full queue loses the answer, and the session of another connection ends unsaid.
theorem floodedUntold :
    ¬ Always (logStep openPorts) Told unlogged flood ∧
      ¬ Always (logStep openPorts) Told unlogged othersDisconnect := by
  constructor
  · intro always
    have told := always flood [] (List.append_nil _).symm
    have after : (1, 1) ∈ (run (logStep openPorts) unlogged flood).ended ∧
        (view (run (logStep openPorts) unlogged flood).runtime 1).map
          (fun session => (session.isOpen, session.closeAfterFlush)) = some (true, false) := by
      decide +kernel
    generalize run (logStep openPorts) unlogged flood = log at told after
    exact untoldOpen (log.runtime, log.sent 1) after.2 (told.answered 1 1 after.1)
  · intro always
    have told := always othersDisconnect [] (List.append_nil _).symm
    obtain ⟨-, active⟩ | ended := told.sessions 1 1 (by decide +kernel) (by unfold OpenAt; decide +kernel)
    · exact absurd active (by unfold Active; decide +kernel)
    · exact absurd ended (by decide +kernel)

end SeedOrigin.Farewells
