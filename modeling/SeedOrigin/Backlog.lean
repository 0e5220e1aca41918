import SeedOrigin.FramePhases

/-! How much waits for a connection whose socket takes everything it is offered.
A flush sends one frame, unless the connection is to be closed after it. -/
namespace SeedOrigin.Backlog
open SeedOrigin.Octets SeedOrigin.Numbers SeedOrigin.ClientInput SeedOrigin.Inputs
open SeedOrigin.CommandWire SeedOrigin.UpdateWire SeedOrigin.Sessions SeedOrigin.Presence
open SeedOrigin.Maps SeedOrigin.ClientConnection SeedOrigin.CommandDispatch SeedOrigin.Runtime
open SeedOrigin.Runs SeedOrigin.ServerRun SeedOrigin.FramePhases SeedOrigin.Conversions

structure Tick (F : Type) (c : Nat) where
  env : FrameEnv
  healthy : ∀ call frame, env.send c call frame = .accepted frame.length
  world : WorldFrameInputs F
  updates : List WorldUpdate
  few : updates.length ≤ maxOutboundFrames
  ownerAcks : List (MovementAck F)

section
variable {F σ : Type}

def waiting (c : Nat) (runtime : ServerRuntime F σ) : List Bytes :=
  ((view runtime c).map ClientSession.outboundFrames).getD []

structure Framed (runtime : ServerRuntime F σ) : Prop where
  running : runtime.running = true
  frames : ∀ c session, view runtime c = some session → ∀ frame ∈ session.outboundFrames, frame ≠ []
  fresh : ∀ c, (view runtime c).isSome = true → c < runtime.nextConnectionId

structure Light (session : ClientSession) : Prop where
  shut : session.isOpen = false → session.outboundFrames = []
  staying : session.isOpen = true → session.closeAfterFlush = false → session.outboundFrames.length ≤ 1

theorem frameSize {frame : Bytes} (nonempty : frame ≠ []) : ∃ count, frame.length = count + 1 :=
  Nat.exists_eq_succ_of_ne_zero (fun zero => nonempty (List.eq_nil_of_length_eq_zero zero))

theorem wholeConsumed {frame : Bytes} {frames : List Bytes} {count : Nat} (size : frame.length = count + 1) :
    consumeFront (frame :: frames) (count + 1) = some frames := by
  simp [consumeFront, size]

theorem sentWhole {call : Nat} {send : Nat → Bytes → SendResult}
    (healthy : ∀ call frame, send call frame = .accepted frame.length) (frame : Bytes)
    (calls : List SendCall) : sentBytes (⟨frame, send call frame⟩ :: calls) = frame ++ sentBytes calls := by
  simp [sentBytes, SendCall.sent, healthy]

theorem callsClosing {send : Nat → Bytes → SendResult}
    (healthy : ∀ call frame, send call frame = .accepted frame.length) (fuel call : Nat)
    {session : ClientSession} (isOpen : session.isOpen = true) (closing : session.closeAfterFlush = true)
    (framed : ∀ frame ∈ session.outboundFrames, frame ≠ [])
    (enough : session.outboundFrames.length < fuel) :
    sentBytes (flushCalls send fuel call session) = session.outboundFrames.flatten := by
  induction fuel generalizing call session with
  | zero => omega
  | succ fuel ih =>
    simp only [flushCalls, isOpen, Bool.true_eq_false, if_false]
    cases queue : session.outboundFrames with
    | nil => rfl
    | cons frame frames =>
      rw [queue] at framed enough
      obtain ⟨nonempty, rest⟩ := List.forall_mem_cons.mp framed
      obtain ⟨count, size⟩ := frameSize nonempty
      dsimp only
      rw [sentWhole healthy, healthy, size]
      simp only [wholeConsumed size, closing, if_true, List.flatten_cons]
      rw [ih (call + 1) rfl rfl rest (by simpa using enough)]

theorem callsOpen {send : Nat → Bytes → SendResult}
    (healthy : ∀ call frame, send call frame = .accepted frame.length) {session : ClientSession}
    (isOpen : session.isOpen = true) (staying : session.closeAfterFlush = false)
    (framed : ∀ frame ∈ session.outboundFrames, frame ≠ []) :
    sentBytes (callsOf session send) = (session.outboundFrames.take 1).flatten := by
  unfold callsOf flushCalls
  simp only [isOpen, Bool.true_eq_false, if_false]
  cases queue : session.outboundFrames with
  | nil => rfl
  | cons frame frames =>
    rw [queue] at framed
    obtain ⟨count, size⟩ := frameSize (framed frame List.mem_cons_self)
    dsimp only
    rw [sentWhole healthy, healthy, size]
    simp [wholeConsumed size, staying, sentBytes]

theorem flattenNil {frames : List Bytes} (framed : ∀ frame ∈ frames, frame ≠ []) :
    frames.flatten = [] ↔ frames = [] := by
  cases frames with
  | nil => simp
  | cons frame frames =>
    have nonempty := framed frame List.mem_cons_self
    simp [nonempty]

theorem callsLight {send : Nat → Bytes → SendResult}
    (healthy : ∀ call frame, send call frame = .accepted frame.length) {session : ClientSession}
    (isOpen : session.isOpen = true) (framed : ∀ frame ∈ session.outboundFrames, frame ≠ []) :
    sentBytes (callsOf session send) = session.outboundFrames.flatten ↔ Light session := by
  have opened : Light session ↔ (session.closeAfterFlush = false → session.outboundFrames.length ≤ 1) :=
    ⟨fun light => light.staying isOpen, fun few => ⟨fun shut => by simp [isOpen] at shut, fun _ => few⟩⟩
  rw [opened]
  cases closing : session.closeAfterFlush with
  | true =>
    have all := callsClosing healthy _ 0 isOpen closing framed
      (Nat.lt_succ_of_le (Nat.le_add_right _ session.outboundFrames.flatten.length))
    exact iff_of_true all nofun
  | false =>
    have rest : ∀ frame ∈ session.outboundFrames.drop 1, frame ≠ [] :=
      fun frame there => framed frame (List.mem_of_mem_drop there)
    rw [callsOpen healthy isOpen closing framed]
    have split : session.outboundFrames.flatten =
        (session.outboundFrames.take 1).flatten ++ (session.outboundFrames.drop 1).flatten := by
      rw [← List.flatten_append, List.take_append_drop]
    rw [split, List.self_eq_append_right, flattenNil rest, List.drop_eq_nil_iff]
    simp

theorem flushClosing {send : Nat → Bytes → SendResult}
    (healthy : ∀ call frame, send call frame = .accepted frame.length) (fuel call : Nat)
    {session : ClientSession} (last : SendStatus) (isOpen : session.isOpen = true)
    (closing : session.closeAfterFlush = true)
    (framed : ∀ frame ∈ session.outboundFrames, frame ≠ [])
    (enough : session.outboundFrames.length < fuel) :
    (flushLoop send fuel call session last).1.isOpen = false := by
  induction fuel generalizing call session last with
  | zero => omega
  | succ fuel ih =>
    simp only [flushLoop, isOpen, Bool.true_eq_false, if_false]
    cases queue : session.outboundFrames with
    | nil =>
      simp only [closing, if_true]
      rfl
    | cons frame frames =>
      rw [queue] at framed enough
      obtain ⟨nonempty, rest⟩ := List.forall_mem_cons.mp framed
      obtain ⟨count, size⟩ := frameSize nonempty
      simp only [healthy, size, wholeConsumed size, closing, if_true]
      exact ih (call + 1) .sent rfl rfl rest (by simpa using enough)

theorem flushOpen {send : Nat → Bytes → SendResult}
    (healthy : ∀ call frame, send call frame = .accepted frame.length) {session : ClientSession}
    (isOpen : session.isOpen = true) (staying : session.closeAfterFlush = false)
    (framed : ∀ frame ∈ session.outboundFrames, frame ≠ []) :
    (session.flushOutbound send).1 =
      { session with outboundFrames := session.outboundFrames.tail } := by
  unfold ClientSession.flushOutbound flushLoop
  simp only [isOpen, Bool.true_eq_false, if_false]
  cases queue : session.outboundFrames with
  | nil =>
    simp only [staying, Bool.false_eq_true, if_false, List.tail_nil]
    cases session
    simp_all
  | cons frame frames =>
    rw [queue] at framed
    obtain ⟨count, size⟩ := frameSize (framed frame List.mem_cons_self)
    simp only [healthy, size, wholeConsumed size, staying, Bool.false_eq_true, if_false, List.tail_cons]

theorem flushShut (send : Nat → Bytes → SendResult) {session : ClientSession}
    (shut : session.isOpen = false) : (session.flushOutbound send).1 = session := by
  unfold ClientSession.flushOutbound flushLoop
  rw [if_pos shut]

theorem flushLeaves {send : Nat → Bytes → SendResult}
    (healthy : ∀ call frame, send call frame = .accepted frame.length) {session : ClientSession}
    (framed : ∀ frame ∈ session.outboundFrames, frame ≠ []) :
    ((some (session.flushOutbound send).1).filter ClientSession.isOpen).map
      ClientSession.outboundFrames = (if session.isOpen = true ∧ session.closeAfterFlush = false then
        some session.outboundFrames.tail else none) := by
  cases isOpen : session.isOpen with
  | false => simp [flushShut send isOpen, isOpen]
  | true =>
    cases closing : session.closeAfterFlush with
    | false => simp [flushOpen healthy isOpen closing framed, isOpen]
    | true =>
      have shut : (session.flushOutbound send).1.isOpen = false := by
        unfold ClientSession.flushOutbound
        exact flushClosing healthy _ _ _ isOpen closing framed (by omega)
      simp [shut]

theorem receiveKeeps (session : ClientSession) (received : RecvResult) :
    (session.receive received).1.outboundFrames = session.outboundFrames := by
  unfold ClientSession.receive
  split
  · rfl
  · cases received with
    | bytes input =>
      dsimp only
      split <;> rfl
    | peerClosed => rfl
    | wouldBlock => rfl
    | reset => rfl
    | failed => rfl

theorem flushFrames (send : Nat → Bytes → SendResult) (fuel call : Nat) (session : ClientSession)
    (last : SendStatus) (framed : ∀ frame ∈ session.outboundFrames, frame ≠ []) :
    ∀ frame ∈ (flushLoop send fuel call session last).1.outboundFrames, frame ≠ [] := by
  induction fuel generalizing call session last with
  | zero => exact framed
  | succ fuel ih =>
    simp only [flushLoop]
    split
    · exact framed
    · cases queue : session.outboundFrames with
      | nil =>
        dsimp only
        split <;> exact framed
      | cons frame frames =>
        cases answer : send call frame with
        | wouldBlock => simpa only [answer] using framed
        | reset =>
          simp only [answer]
          exact framed
        | failed =>
          simp only [answer]
          exact framed
        | accepted count =>
          cases count with
          | zero => simpa only [answer] using framed
          | succ count =>
            simp only [answer]
            cases took : consumeFront (frame :: frames) (count + 1) with
            | none => exact framed
            | some left =>
              rw [queue] at framed
              obtain ⟨nonempty, rest⟩ := List.forall_mem_cons.mp framed
              have others : ∀ frame ∈ left, frame ≠ [] := by
                simp only [consumeFront] at took
                split at took <;> try contradiction
                split at took
                · cases Option.some.inj took
                  exact rest
                · cases Option.some.inj took
                  refine List.forall_mem_cons.mpr ⟨?_, rest⟩
                  intro empty
                  have short := congrArg List.length empty
                  simp at short
                  omega
              dsimp only
              split
              · exact ih (call + 1) _ .sent others
              · exact others

theorem framedMap {before after : ServerRuntime F σ} (framed : Framed before)
    (running : after.running = before.running) (next : after.nextConnectionId = before.nextConnectionId)
    (each : ∀ c session, view after c = some session → ∃ old, view before c = some old ∧
      ((∀ frame ∈ old.outboundFrames, frame ≠ []) → ∀ frame ∈ session.outboundFrames, frame ≠ [])) :
    Framed after := by
  refine ⟨running.trans framed.running, fun c session here => ?_, fun c there => ?_⟩
  · obtain ⟨old, there, keeps⟩ := each c session here
    exact keeps (framed.frames c old there)
  · obtain ⟨session, here⟩ := Option.isSome_iff_exists.mp there
    obtain ⟨old, known, -⟩ := each c session here
    rw [next]
    exact framed.fresh c (Option.isSome_of_mem known)

theorem framedAccepted {runtime : ServerRuntime F σ} (framed : Framed runtime) (fuel : Nat)
    (outcomes : List AcceptOutcome) (error : String) (accepted : Nat) :
    Framed (acceptClients fuel outcomes runtime error accepted).1 := by
  refine acceptsKeep (fun opened framed => ⟨framed.running, fun c session here => ?_, fun c there => ?_⟩)
    fuel outcomes framed error accepted
  · rw [openedView] at here
    by_cases new : c = opened.nextConnectionId
    · rw [new, Function.update_self] at here
      cases Option.some.inj here
      exact nofun
    · rw [Function.update_of_ne new] at here
      exact framed.frames c session here
  · rw [openedView] at there
    by_cases new : c = opened.nextConnectionId
    · exact Nat.lt_succ_of_le (le_of_eq new)
    · rw [Function.update_of_ne new] at there
      exact Nat.lt_succ_of_lt (framed.fresh c there)

theorem framedReceived {runtime : ServerRuntime F σ} (framed : Framed runtime) (env : FrameEnv)
    (error : String) : Framed (receiveClients env runtime error).1 := by
  have rest := receivedRest env runtime error
  refine framedMap framed rest.running rest.next ?_
  intro c session here
  rw [receivedView] at here
  obtain ⟨old, there, rfl⟩ := Option.map_eq_some_iff.mp here
  refine ⟨old, there, ?_⟩
  rw [receiveKeeps]
  exact id

theorem framedAnswered {before after : ServerRuntime F σ} (framed : Framed before)
    (answered : Answered before after) : Framed after := by
  refine framedMap framed answered.running answered.next ?_
  intro c session here
  have related := answered.clients c
  rw [here] at related
  cases there : view before c with
  | none =>
    rw [there] at related
    cases related
  | some old =>
    rw [there] at related
    cases related with
    | some extended =>
      obtain ⟨more, grown, whole⟩ := extended.frames
      refine ⟨old, rfl, fun others => ?_⟩
      rw [grown]
      exact List.forall_mem_append.mpr ⟨others, whole⟩

theorem framedBegun {env : FrameEnv} {runtime : ServerRuntime F σ}
    (framed : Framed (received env runtime).1) : Framed (toServe env runtime).1 := by
  unfold toServe
  revert framed
  generalize (received env runtime).1 = begun
  exact fun framed => ⟨framed.running, framed.frames, framed.fresh⟩

theorem framedAdvanced {runtime : ServerRuntime F σ} (framed : Framed runtime) :
    Framed (ServerRuntime.advanceFrame runtime) := ⟨framed.running, framed.frames, framed.fresh⟩

theorem framedWorld [FloatOps F] {runtime : ServerRuntime F σ} (framed : Framed runtime)
    (frame : WorldFrameInputs F) : Framed (ServerRuntime.applyWorld runtime frame) :=
  ⟨framed.running, framed.frames, framed.fresh⟩

theorem framedRemoved {runtime : ServerRuntime F σ} (framed : Framed runtime) :
    Framed (removeClosedClients runtime) := by
  refine framedMap framed (removedRest runtime).running (removedRest runtime).next ?_
  intro c session here
  rw [removedView] at here
  exact ⟨session, (Option.filter_eq_some_iff.mp here).1, id⟩

theorem framedFlushed {runtime : ServerRuntime F σ} (framed : Framed runtime) (env : FrameEnv)
    (error : String) : Framed (flushClients env runtime error).1 := by
  have rest := flushedRest env runtime error
  refine framedMap framed rest.running rest.next ?_
  intro c session here
  rw [flushedView] at here
  obtain ⟨old, there, rfl⟩ := Option.map_eq_some_iff.mp here
  exact ⟨old, there, flushFrames _ _ _ _ _⟩

section phases
variable [FloatOps F] (ports : ServerPorts F σ) {runtime : ServerRuntime F σ}

theorem framedServed (env : FrameEnv) (framed : Framed runtime) :
    Framed (served ports env runtime).1 := by
  obtain ⟨accepting, error, count, accepted, read⟩ := receivedFrom env runtime
  have opened := framedAccepted framed maxAcceptsPerFrame env.accepts "" 0
  rw [accepted] at opened
  have begun : Framed (received env runtime).1 := by
    rw [read]
    exact framedReceived opened env error
  exact framedAnswered (framedBegun begun) (servedAnswered ports env runtime)

theorem framedFlushing (env : FrameEnv) (framed : Framed runtime) :
    Framed (flushing ports env runtime) := framedRemoved (framedServed ports env framed)

theorem framedFrame (env : FrameEnv) (framed : Framed runtime) :
    Framed (processFrame ports env runtime).1 := by
  have sent := framedRemoved (framedFlushed (framedFlushing ports env framed) env
    (served ports env runtime).2)
  rw [framePhases ports env framed.running]
  unfold flushed
  exact framedAdvanced sent

def Tick.processed {c : Nat} (runtime : ServerRuntime F σ) (tick : Tick F c) : ServerRuntime F σ :=
  ServerRuntime.applyWorld (processFrame ports tick.env runtime).1 tick.world

def tickStep {c : Nat} (runtime : ServerRuntime F σ) (tick : Tick F c) : ServerRuntime F σ :=
  publish (tick.processed ports runtime) tick.updates tick.ownerAcks

def sentIn (env : FrameEnv) (c : Nat) (runtime : ServerRuntime F σ) : Bytes :=
  match view (flushing ports env runtime) c with
  | none => []
  | some session => sentBytes (callsOf session (env.send c))

-- When the next processFrame comes to its flush, the frames that waited for c are there,
-- with the responses of this frame behind them, and the socket takes them all; and each
-- update that is published then finds room in c's queue.
structure Prompt {c : Nat} (runtime : ServerRuntime F σ) (tick : Tick F c) : Prop where
  kept : waiting c runtime <+: waiting c (served ports tick.env runtime).1
  sent : sentIn ports tick.env c runtime = (waiting c (served ports tick.env runtime).1).flatten
  room : ∀ early update late, tick.updates = early ++ update :: late →
    (waiting c (publish (tick.processed ports runtime) early tick.ownerAcks)).length < maxOutboundFrames

def LightFlush {c : Nat} (runtime : ServerRuntime F σ) (tick : Tick F c) : Prop :=
  ∀ session, view (served ports tick.env runtime).1 c = some session → Light session

theorem waitingKept (env : FrameEnv) (framed : Framed runtime) (c : Nat) :
    waiting c runtime <+: waiting c (served ports env runtime).1 := by
  unfold waiting
  cases there : view runtime c with
  | none => exact List.nil_prefix
  | some session =>
    obtain ⟨accepting, error, count, accepted, read⟩ := receivedFrom env runtime
    have old := (acceptedOld maxAcceptsPerFrame env.accepts runtime "" 0).2 c
      (framed.fresh c (Option.isSome_of_mem there))
    rw [accepted, there] at old
    have begun : view (toServe env runtime).1 c = some (session.receive (env.recv c)).1 := by
      have same : view (toServe env runtime).1 c = view (received env runtime).1 c := rfl
      rw [same, read, receivedView, old]
      rfl
    have related := (servedAnswered ports env runtime).clients c
    rw [begun] at related
    cases last : view (served ports env runtime).1 c with
    | none =>
      rw [last] at related
      cases related
    | some next =>
      rw [last] at related
      cases related with
      | some extended =>
        obtain ⟨more, grown, -⟩ := extended.frames
        rw [receiveKeeps] at grown
        simp only [Option.map_some, Option.getD_some, grown]
        exact List.prefix_append _ _

theorem sentLight {c : Nat} (framed : Framed runtime) (tick : Tick F c) :
    sentIn ports tick.env c runtime = (waiting c (served ports tick.env runtime).1).flatten ↔
      LightFlush ports runtime tick := by
  unfold sentIn waiting LightFlush flushing
  rw [removedView]
  cases here : view (served ports tick.env runtime).1 c with
  | none => simp
  | some session =>
    have whole := (framedServed ports tick.env framed).frames c session here
    simp only [Option.some.injEq, forall_eq', Option.map_some, Option.getD_some]
    cases isOpen : session.isOpen with
    | true =>
      rw [Option.filter_some, if_pos isOpen]
      exact callsLight tick.healthy isOpen whole
    | false =>
      rw [Option.filter_some, if_neg (by simp [isOpen])]
      have closed : Light session ↔ session.outboundFrames = [] :=
        ⟨fun light => light.shut isOpen, fun none => ⟨fun _ => none, fun opened => by simp [isOpen] at opened⟩⟩
      rw [closed, ← flattenNil whole]
      exact eq_comm

theorem drainedLight {c : Nat} (framed : Framed runtime) (tick : Tick F c)
    (light : LightFlush ports runtime tick) : waiting c (tick.processed ports runtime) = [] := by
  have seen : view (tick.processed ports runtime) c =
      ((view (flushing ports tick.env runtime) c).map (fun session =>
        (session.flushOutbound (tick.env.send c)).1)).filter ClientSession.isOpen := by
    rw [Tick.processed, viewWorld, framePhases ports tick.env framed.running, viewAdvanced, removedView,
      flushed, flushedView]
  unfold waiting
  rw [seen]
  cases here : view (flushing ports tick.env runtime) c with
  | none => rfl
  | some session =>
    have whole := (framedFlushing ports tick.env framed).frames c session here
    have there := here
    unfold flushing at there
    rw [removedView] at there
    have few := (light session (Option.filter_eq_some_iff.mp there).1).staying
    rw [Option.map_some, flushLeaves tick.healthy whole]
    split
    · rename_i staying
      have short := few staying.1 staying.2
      rw [Option.getD_some, ← List.length_eq_zero_iff, List.length_tail]
      omega
    · rfl

theorem personalFrames {lifecycle : SessionLifecycle} {ownerAcks : List (MovementAck F)} {c : Nat}
    {updates : List WorldUpdate} {frames : List Bytes}
    (made : updates.mapM (Publish.personalFrame lifecycle ownerAcks c) = .ok frames) :
    ∀ frame ∈ frames, frame ≠ [] := by
  induction updates generalizing frames with
  | nil =>
    cases made
    simp
  | cons update updates ih =>
    obtain ⟨frame, rest, first, later, rfl⟩ := mapMCons.mp made
    have header := Publish.personalHeader lifecycle ownerAcks first
    refine List.forall_mem_cons.mpr ⟨?_, ih later⟩
    intro empty
    rw [empty] at header
    exact absurd header (by decide)

theorem publishedWaiting (framed : Framed runtime) (c : Nat) (updates : List WorldUpdate)
    (ownerAcks : List (MovementAck F)) (session : ClientSession)
    (here : view (publish runtime updates ownerAcks) c = some session) :
    ∃ old frames, view runtime c = some old ∧
      session.outboundFrames = old.outboundFrames ++ frames ∧ frames.length ≤ updates.length ∧
      ∀ frame ∈ frames, frame ≠ [] := by
  have published : view (publish runtime updates ownerAcks) =
      lookup (Publish.publishAll runtime.lifecycle ownerAcks updates runtime.clients.keys
        runtime.clients 0).1 := by
    unfold view publish Publish.publishWorldUpdates
    simp only [framed.running, Bool.true_eq_false, if_false]
  rw [published] at here
  cases there : view runtime c with
  | none =>
    have out : c ∉ runtime.clients.keys := by
      rw [Std.ExtTreeMap.mem_keys, Std.ExtTreeMap.mem_iff_isSome_getElem?]
      have absent : runtime.clients[c]? = none := there
      simp [absent]
    rw [← Publish.publishAllRounds, Rounds.roundsOutside _ _ _ out] at here
    rw [show lookup runtime.clients c = none from there] at here
    contradiction
  | some old =>
    obtain ⟨early, late, split, first⟩ := Publish.publishedEarly runtime.lifecycle ownerAcks
      runtime.clients updates there 0
    have final : (Publish.publishAll runtime.lifecycle ownerAcks updates runtime.clients.keys
        runtime.clients 0).1[c]? = some session := here
    rw [final] at first
    cases loggedIn : runtime.lifecycle.hasSession c with
    | false =>
      rw [Publish.servedOut runtime.lifecycle ownerAcks loggedIn] at first
      cases first
      exact ⟨session, [], rfl, by simp, by simp, by simp⟩
    | true =>
      obtain ⟨-, frames, made, same⟩ := (Publish.servedIn runtime.lifecycle ownerAcks loggedIn early
        old _).mp first
      cases same
      refine ⟨old, frames, rfl, rfl, ?_, personalFrames made⟩
      rw [mapMLength made, split, List.length_append]
      omega

theorem framedPublished (framed : Framed runtime) (updates : List WorldUpdate)
    (ownerAcks : List (MovementAck F)) : Framed (publish runtime updates ownerAcks) := by
  refine framedMap framed rfl rfl ?_
  intro c session here
  obtain ⟨old, frames, there, grown, -, whole⟩ :=
    publishedWaiting framed c updates ownerAcks session here
  refine ⟨old, there, fun others => ?_⟩
  rw [grown]
  exact List.forall_mem_append.mpr ⟨others, whole⟩

theorem roomLight {c : Nat} (framed : Framed runtime) (tick : Tick F c)
    (light : LightFlush ports runtime tick) {early late : List WorldUpdate} {update : WorldUpdate}
    (split : tick.updates = early ++ update :: late) :
    (waiting c (publish (tick.processed ports runtime) early tick.ownerAcks)).length <
      maxOutboundFrames := by
  have drained := drainedLight ports framed tick light
  have processed : Framed (tick.processed ports runtime) :=
    framedWorld (framedFrame ports tick.env framed) tick.world
  have few := tick.few
  rw [split, List.length_append, List.length_cons] at few
  unfold waiting at drained ⊢
  cases here : view (publish (tick.processed ports runtime) early tick.ownerAcks) c with
  | none => exact Nat.lt_of_lt_of_eq (Nat.zero_lt_succ 255) rfl
  | some session =>
    obtain ⟨old, frames, there, grown, short, -⟩ :=
      publishedWaiting processed c early tick.ownerAcks session here
    rw [there] at drained
    have none : old.outboundFrames = [] := drained
    rw [none, List.nil_append] at grown
    simp only [Option.map_some, Option.getD_some, grown]
    omega

theorem promptLight {c : Nat} (framed : Framed runtime) (tick : Tick F c) :
    Prompt ports runtime tick ↔ LightFlush ports runtime tick := by
  constructor
  · exact fun prompt => (sentLight ports framed tick).mp prompt.sent
  · intro light
    exact ⟨waitingKept ports tick.env framed c, (sentLight ports framed tick).mpr light,
      fun early update late split => roomLight ports framed tick light split⟩

theorem framedTick {c : Nat} (framed : Framed runtime) (tick : Tick F c) :
    Framed (tickStep ports runtime tick) :=
  framedPublished (framedWorld (framedFrame ports tick.env framed) tick.world) tick.updates
    tick.ownerAcks

theorem framedStarted (auth : σ) (names : IntMap Bytes) :
    Framed (started auth names : ServerRuntime F σ) := by
  have nobody (c : Nat) : view (started auth names : ServerRuntime F σ) c = none :=
    Std.ExtTreeMap.getElem?_empty
  refine ⟨rfl, fun c session here => ?_, fun c there => ?_⟩
  · rw [nobody] at here
    contradiction
  · rw [nobody] at there
    contradiction

theorem backlogExact (auth : σ) (names : IntMap Bytes) {c : Nat} (ticks : List (Tick F c)) :
    Along (tickStep ports) (Prompt ports) (started auth names) ticks ↔
      Along (tickStep ports) (LightFlush ports) (started auth names) ticks :=
  alongExact (I := Framed) (fun _ tick framed => promptLight ports framed tick)
    (fun _ tick framed => framedTick ports framed tick) (framedStarted auth names)

end phases

end

def plainEvent (sequence : UInt64) : WorldUpdate :=
  ⟨UpdateWire.currentProtocolVersion, .event, 1, sequence, sequence, ascii "chat"⟩

def quietFrame : FrameEnv where
  accepts := []
  recv _ := .wouldBlock
  send := sendAll

def twoUpdates : List (Tick ℚ 1) :=
  [{ env := loginsFrame 1
     healthy := fun _ _ => rfl
     world := ⟨1, []⟩
     updates := [plainEvent 1, plainEvent 2]
     few := by decide
     ownerAcks := [] },
    { env := quietFrame
      healthy := fun _ _ => rfl
      world := ⟨2, []⟩
      updates := []
      few := by decide
      ownerAcks := [] }]

theorem secondUpdateWaits :
    ¬ Along (tickStep openPorts) (Prompt openPorts) (started () twoNames) twoUpdates := by
  intro along
  have second := along (twoUpdates.take 1) _ [] rfl
  exact absurd second.sent (by decide +kernel)

end SeedOrigin.Backlog
