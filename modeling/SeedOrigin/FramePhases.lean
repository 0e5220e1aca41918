import SeedOrigin.ServerRun
import SeedOrigin.Sweeps

/-! What each phase of a frame does to the connections. -/
namespace SeedOrigin.FramePhases
open SeedOrigin.Octets SeedOrigin.Numbers SeedOrigin.ClientInput SeedOrigin.Inputs
open SeedOrigin.CommandWire SeedOrigin.Sessions SeedOrigin.Presence SeedOrigin.Maps
open SeedOrigin.ClientConnection SeedOrigin.CommandDispatch SeedOrigin.Runtime SeedOrigin.Runs
open SeedOrigin.ServerRun SeedOrigin.Sweeps

section
variable {F σ : Type}

def view (runtime : ServerRuntime F σ) : Nat → Option ClientSession := lookup runtime.clients

theorem viewKeys (runtime : ServerRuntime F σ) (c : Nat) (session : ClientSession)
    (here : view runtime c = some session) : c ∈ runtime.clients.keys := by
  rw [Std.ExtTreeMap.mem_keys, Std.ExtTreeMap.mem_iff_isSome_getElem?]
  exact Option.isSome_of_mem here

theorem viewAdvanced (runtime : ServerRuntime F σ) :
    view (ServerRuntime.advanceFrame runtime) = view runtime := rfl

theorem viewWorld [FloatOps F] (runtime : ServerRuntime F σ) (frame : WorldFrameInputs F) :
    view (ServerRuntime.applyWorld runtime frame) = view runtime := rfl

theorem receiveOne (env : FrameEnv) (state : ServerRuntime F σ × String) (c : Nat) :
    view (receiveClient env state c).1 = Function.update (view state.1) c
      ((view state.1 c).map (fun session => (session.receive (env.recv c)).1)) := by
  obtain ⟨runtime, error⟩ := state
  unfold receiveClient
  dsimp only
  cases here : view runtime c with
  | none =>
    have absent : runtime.clientSession c = none := here
    simp only [absent]
    exact (Function.update_eq_self_iff.mpr here.symm).symm
  | some session =>
    have present : runtime.clientSession c = some session := here
    simp only [present]
    have inserted := lookupInsert runtime.clients c (session.receive (env.recv c)).1
    split
    · exact inserted
    · split <;> exact inserted
    · exact inserted
    · exact inserted

theorem flushOne (env : FrameEnv) (state : ServerRuntime F σ × String) (c : Nat) :
    view (flushClient env state c).1 = Function.update (view state.1) c
      ((view state.1 c).map (fun session => (session.flushOutbound (env.send c)).1)) := by
  obtain ⟨runtime, error⟩ := state
  unfold flushClient
  dsimp only
  cases here : view runtime c with
  | none =>
    have absent : runtime.clientSession c = none := here
    simp only [absent]
    exact (Function.update_eq_self_iff.mpr here.symm).symm
  | some session =>
    have present : runtime.clientSession c = some session := here
    simp only [present]
    exact lookupInsert runtime.clients c (session.flushOutbound (env.send c)).1

theorem removeOne (runtime : ServerRuntime F σ) (c : Nat) :
    view (removeClosed runtime c) = Function.update (view runtime) c
      ((view runtime c).filter ClientSession.isOpen) := by
  unfold removeClosed
  cases here : view runtime c with
  | none =>
    have absent : runtime.clientSession c = none := here
    simp only [absent]
    exact (Function.update_eq_self_iff.mpr here.symm).symm
  | some session =>
    have present : runtime.clientSession c = some session := here
    simp only [present]
    cases isOpen : session.isOpen with
    | true =>
      simp only [if_true]
      refine (Function.update_eq_self_iff.mpr ?_).symm
      rw [here]
      simp [isOpen]
    | false =>
      have gone : (some session).filter ClientSession.isOpen = none := by simp [isOpen]
      rw [gone]
      refine Eq.trans ?_ (lookupErase runtime.clients c)
      rfl

theorem receivedView (env : FrameEnv) (runtime : ServerRuntime F σ) (error : String) (c : Nat) :
    view (receiveClients env runtime error).1 c =
      (view runtime c).map (fun session => (session.receive (env.recv c)).1) := by
  unfold receiveClients
  exact sweepAll (f := fun (state : ServerRuntime F σ × String) => view state.1) (receiveOne env)
    (fun _ => rfl) (keysNodup _) (viewKeys runtime) c

theorem flushedView (env : FrameEnv) (runtime : ServerRuntime F σ) (error : String) (c : Nat) :
    view (flushClients env runtime error).1 c =
      (view runtime c).map (fun session => (session.flushOutbound (env.send c)).1) := by
  unfold flushClients
  exact sweepAll (f := fun (state : ServerRuntime F σ × String) => view state.1) (flushOne env)
    (fun _ => rfl) (keysNodup _) (viewKeys runtime) c

theorem removedView (runtime : ServerRuntime F σ) (c : Nat) :
    view (removeClosedClients runtime) c = (view runtime c).filter ClientSession.isOpen := by
  unfold removeClosedClients
  exact sweepAll removeOne (fun _ => rfl) (keysNodup _) (viewKeys runtime) c

theorem openedView (runtime : ServerRuntime F σ) :
    view { runtime with
      nextConnectionId := runtime.nextConnectionId + 1
      clients := runtime.clients.insert runtime.nextConnectionId {} } =
      Function.update (view runtime) runtime.nextConnectionId (some {}) :=
  lookupInsert _ _ _

theorem acceptedOld (fuel : Nat) (outcomes : List AcceptOutcome) (runtime : ServerRuntime F σ)
    (error : String) (accepted : Nat) :
    runtime.nextConnectionId ≤ (acceptClients fuel outcomes runtime error accepted).1.nextConnectionId ∧
      ∀ c, c < runtime.nextConnectionId →
        view (acceptClients fuel outcomes runtime error accepted).1 c = view runtime c := by
  refine acceptsKeep (P := fun opened => runtime.nextConnectionId ≤ opened.nextConnectionId ∧
    ∀ c, c < runtime.nextConnectionId → view opened c = view runtime c) ?_ fuel outcomes
    ⟨le_refl _, fun _ _ => rfl⟩ error accepted
  rintro opened ⟨more, old⟩
  refine ⟨Nat.le_succ_of_le more, fun c below => ?_⟩
  rw [openedView, Function.update_of_ne (Nat.ne_of_lt (Nat.lt_of_lt_of_le below more))]
  exact old c below

theorem receivedFrom (env : FrameEnv) (runtime : ServerRuntime F σ) : ∃ accepting error count,
    acceptClients maxAcceptsPerFrame env.accepts runtime "" 0 = (accepting, error, count) ∧
      received env runtime = receiveClients env accepting error := by
  unfold received
  cases acceptClients maxAcceptsPerFrame env.accepts runtime "" 0 with
  | mk accepting rest => exact ⟨accepting, rest.1, rest.2, rfl, rfl⟩

structure Aside (before after : ServerRuntime F σ) : Prop where
  running : after.running = before.running
  next : after.nextConnectionId = before.nextConnectionId

theorem Aside.trans {a b c : ServerRuntime F σ} (first : Aside a b) (second : Aside b c) : Aside a c :=
  ⟨second.running.trans first.running, second.next.trans first.next⟩

theorem receivedRest (env : FrameEnv) (runtime : ServerRuntime F σ) (error : String) :
    Aside runtime (receiveClients env runtime error).1 := by
  unfold receiveClients
  refine List.foldlRecOn (motive := fun state : ServerRuntime F σ × String => Aside runtime state.1)
    _ _ ⟨rfl, rfl⟩ ?_
  intro state aside c _
  refine aside.trans ?_
  unfold receiveClient
  dsimp only
  split
  · exact ⟨rfl, rfl⟩
  · split
    · exact ⟨rfl, rfl⟩
    · split <;> exact ⟨rfl, rfl⟩
    · exact ⟨rfl, rfl⟩
    · exact ⟨rfl, rfl⟩

theorem flushedRest (env : FrameEnv) (runtime : ServerRuntime F σ) (error : String) :
    Aside runtime (flushClients env runtime error).1 := by
  unfold flushClients
  refine List.foldlRecOn (motive := fun state : ServerRuntime F σ × String => Aside runtime state.1)
    _ _ ⟨rfl, rfl⟩ ?_
  intro state aside c _
  refine aside.trans ?_
  unfold flushClient
  dsimp only
  split <;> exact ⟨rfl, rfl⟩

theorem removedRest (runtime : ServerRuntime F σ) : Aside runtime (removeClosedClients runtime) := by
  unfold removeClosedClients
  refine List.foldlRecOn (motive := fun state => Aside runtime state) _ _ ⟨rfl, rfl⟩ ?_
  intro state aside c _
  refine aside.trans ?_
  unfold removeClosed
  split
  · exact ⟨rfl, rfl⟩
  · split <;> exact ⟨rfl, rfl⟩

structure Extended (before after : ClientSession) : Prop where
  isOpen : after.isOpen = before.isOpen
  closing : before.closeAfterFlush = true → after.closeAfterFlush = true
  frames : ∃ more, after.outboundFrames = before.outboundFrames ++ more ∧ ∀ frame ∈ more, frame ≠ []

theorem Extended.refl (session : ClientSession) : Extended session session :=
  ⟨rfl, id, [], by simp, by simp⟩

theorem Extended.trans {a b c : ClientSession} (first : Extended a b) (second : Extended b c) :
    Extended a c := by
  obtain ⟨more, grown, whole⟩ := first.frames
  obtain ⟨rest, later, others⟩ := second.frames
  refine ⟨second.isOpen.trans first.isOpen, second.closing ∘ first.closing, more ++ rest, ?_, ?_⟩
  · rw [later, grown, List.append_assoc]
  · intro frame listed
    rcases List.mem_append.mp listed with left | right
    · exact whole frame left
    · exact others frame right

theorem enqueuedExtends {session next : ClientSession} {frame : Bytes}
    (h : session.enqueueFrame frame = .ok next) : Extended session next := by
  obtain ⟨-, ⟨header, -⟩, -, rfl⟩ := (Publish.enqueueFrameExact _ _ _).mp h
  refine ⟨rfl, id, [frame], rfl, ?_⟩
  intro other listed
  rw [List.mem_singleton.mp listed]
  intro empty
  rw [empty] at header
  exact absurd header (by decide)

theorem respondedExtends (session : ClientSession) (encoded : Except String Bytes) (error : String) :
    Extended session (enqueueResponse session encoded error).1 := by
  unfold enqueueResponse
  split
  · exact Extended.refl session
  · split
    · exact Extended.refl session
    · split
      · exact Extended.refl session
      · rename_i next made
        exact enqueuedExtends made

structure Elsewhere (before after : ServerRuntime F σ) : Prop where
  running : after.running = before.running
  next : after.nextConnectionId = before.nextConnectionId
  pending : after.pendingCommands = before.pendingCommands
  clients : after.clients = before.clients

theorem disconnectElsewhere (runtime : ServerRuntime F σ) (c : Nat) :
    Elsewhere runtime (runtime.disconnect c) := ⟨rfl, rfl, rfl, rfl⟩

theorem placeElsewhere (ports : ServerPorts F σ) [FloatOps F] (runtime : ServerRuntime F σ) (c : Nat)
    (result : CommandDispatchResult) : Elsewhere runtime (placeLogin ports runtime c result).1 := by
  unfold placeLogin
  split
  · exact ⟨rfl, rfl, rfl, rfl⟩
  · split
    · exact ⟨rfl, rfl, rfl, rfl⟩
    · dsimp only
      split <;> exact ⟨rfl, rfl, rfl, rfl⟩

theorem dispatchElsewhere (ports : ServerPorts F σ) [FloatOps F] (runtime : ServerRuntime F σ)
    (pending : PendingCommand) : Elsewhere runtime (dispatchPending ports runtime pending).1 := by
  unfold dispatchPending
  split <;> exact ⟨rfl, rfl, rfl, rfl⟩

structure Answered (before after : ServerRuntime F σ) : Prop where
  running : after.running = before.running
  next : after.nextConnectionId = before.nextConnectionId
  pending : after.pendingCommands = before.pendingCommands
  clients : ∀ c, Option.Rel Extended (view before c) (view after c)

theorem Answered.refl (runtime : ServerRuntime F σ) : Answered runtime runtime := by
  refine ⟨rfl, rfl, rfl, fun c => ?_⟩
  cases view runtime c with
  | none => exact .none
  | some session => exact .some (Extended.refl session)

theorem Answered.trans {a b c : ServerRuntime F σ} (first : Answered a b) (second : Answered b c) :
    Answered a c := by
  refine ⟨second.running.trans first.running, second.next.trans first.next,
    second.pending.trans first.pending, fun k => ?_⟩
  have left := first.clients k
  have right := second.clients k
  revert left right
  cases view a k <;> cases view b k <;> cases view c k <;> intro left right
  all_goals cases left
  all_goals cases right
  · exact .none
  · rename_i one two
    exact .some (one.trans two)

theorem Elsewhere.answered {before after : ServerRuntime F σ} (elsewhere : Elsewhere before after) :
    Answered before after := by
  have same := (Answered.refl before).clients
  refine ⟨elsewhere.running, elsewhere.next, elsewhere.pending, fun c => ?_⟩
  have kept : view after c = view before c := by
    unfold view
    rw [elsewhere.clients]
  rw [kept]
  exact same c

theorem insertAnswered {runtime : ServerRuntime F σ} {c : Nat} {session next : ClientSession}
    (here : runtime.clientSession c = some session) (extended : Extended session next) :
    Answered runtime { runtime with clients := runtime.clients.insert c next } := by
  refine ⟨rfl, rfl, rfl, fun k => ?_⟩
  have inserted : view { runtime with clients := runtime.clients.insert c next } =
      Function.update (view runtime) c (some next) := lookupInsert runtime.clients c next
  rw [inserted]
  by_cases same : k = c
  · subst same
    rw [Function.update_self, show view runtime k = some session from here]
    exact .some extended
  · rw [Function.update_of_ne same]
    exact (Answered.refl runtime).clients k

theorem answerDisconnectAnswered (runtime : ServerRuntime F σ) (error : String)
    (pending : PendingCommand) (result : CommandDispatchResult) :
    Answered runtime (answerDisconnect runtime error pending result).1 := by
  unfold answerDisconnect
  dsimp only
  have leaves {answered : ServerRuntime F σ × String} (first : Answered runtime answered.1) :
      Answered runtime (if result.accepted = true then
        (answered.1.disconnect pending.connectionId, answered.2) else (answered.1, answered.2)).1 := by
    split
    · exact first.trans (disconnectElsewhere answered.1 pending.connectionId).answered
    · exact first
  apply leaves
  split
  · exact Answered.refl runtime
  · rename_i session here
    split
    · exact Answered.refl runtime
    · refine insertAnswered here ?_
      have extended := respondedExtends session
        (encodeDisconnectResponseFrame (disconnectResponse pending.command result)) error
      split
      · exact ⟨extended.isOpen, fun _ => rfl, extended.frames⟩
      · exact extended

theorem answerLoginAnswered [FloatOps F] (ports : ServerPorts F σ) (runtime : ServerRuntime F σ)
    (error : String) (pending : PendingCommand) (result : CommandDispatchResult) :
    Answered runtime (answerLogin ports runtime error pending result).1 := by
  unfold answerLogin
  split
  · exact Answered.refl runtime
  · rename_i session here
    split
    · exact Answered.refl runtime
    · have placed := placeElsewhere ports runtime pending.connectionId result
      have still : (placeLogin ports runtime pending.connectionId result).1.clientSession
          pending.connectionId = some session := by
        unfold ServerRuntime.clientSession
        rw [placed.clients]
        exact here
      exact placed.answered.trans (insertAnswered still (respondedExtends session _ error))

theorem serveAnswered [FloatOps F] (ports : ServerPorts F σ) (state : ServerRuntime F σ × String)
    (pending : PendingCommand) : Answered state.1 (serveCommand ports state pending).1 := by
  have dispatched := (dispatchElsewhere ports state.1 pending).answered
  unfold serveCommand
  dsimp only
  split
  · exact dispatched
  · split
    · exact dispatched.trans (answerDisconnectAnswered _ _ _ _)
    · split
      · exact dispatched.trans (answerLoginAnswered ports _ _ _ _)
      · exact dispatched

theorem servedAnswered [FloatOps F] (ports : ServerPorts F σ) (env : FrameEnv)
    (runtime : ServerRuntime F σ) :
    Answered (toServe env runtime).1 (served ports env runtime).1 := by
  unfold served run
  exact List.foldlRecOn (motive := fun state => Answered (toServe env runtime).1 state.1) _ _
    (Answered.refl _) (fun state answered pending _ => answered.trans (serveAnswered ports state pending))

end

end SeedOrigin.FramePhases
