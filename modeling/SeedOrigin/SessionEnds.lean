import SeedOrigin.FailedLogins
import SeedOrigin.SessionAgreement

/-! How connections come by their sessions and lose them, command by command and phase
by phase. Of the field nothing is asked. -/
namespace SeedOrigin.SessionEnds
open SeedOrigin.Octets SeedOrigin.Numbers SeedOrigin.ClientInput SeedOrigin.CommandWire
open SeedOrigin.Sessions SeedOrigin.Presence SeedOrigin.Maps SeedOrigin.ClientConnection
open SeedOrigin.CommandDispatch SeedOrigin.Runtime SeedOrigin.Runs SeedOrigin.ServerRun
open SeedOrigin.FramePhases SeedOrigin.SessionTables SeedOrigin.SessionMoves
open SeedOrigin.SessionAgreement
open SeedOrigin.FailedLogins (Issued issuedLogout issuedDisconnect serveIssued answeredLogin loginBusy
  loginDispatched)

section
variable {F σ : Type} [FloatOps F] (ports : ServerPorts F σ)

def Accepts (runtime : ServerRuntime F σ) (pending : PendingCommand) : Prop :=
  pending.command.type = .disconnect ∧ (dispatchPending ports runtime pending).2.accepted = true
instance (runtime : ServerRuntime F σ) (pending : PendingCommand) :
    Decidable (Accepts ports runtime pending) := by unfold Accepts; infer_instance

def nextSession (runtime : ServerRuntime F σ) : Int := runtime.services.registry.nextInternalId

inductive Moved (before after : ServerRuntime F σ) (pending : PendingCommand) : Prop where
  | still (refused : ¬ Accepts ports before pending) (held : holds after = holds before)
      (active : ∀ s, Active after s ↔ Active before s)
  | joined (refused : ¬ Accepts ports before pending) (free : holds before pending.connectionId = none)
      (held : holds after = Function.update (holds before) pending.connectionId (some (nextSession before)))
      (active : ∀ s, Active after s ↔ s = nextSession before ∨ Active before s)
  | left (accepts : Accepts ports before pending)
      (held : holds after = Function.update (holds before) pending.connectionId none)
      (active : ∀ s, Active after s ↔ s ≠ pending.command.sessionId.toInt ∧
        holds before pending.connectionId ≠ some s ∧ Active before s)

omit [FloatOps F] in
theorem placeNext (runtime : ServerRuntime F σ) (c : Nat) (result : CommandDispatchResult) :
    nextSession (placeLogin ports runtime c result).1 = nextSession runtime := by
  unfold placeLogin
  split
  · rfl
  · split
    · rfl
    · dsimp only
      split
      · unfold ServerRuntime.disconnect SessionLifecycle.disconnect nextSession
        dsimp only
        split <;> rfl
      · rfl

omit [FloatOps F] in
theorem placedMoved (opened : ServerRuntime F σ) {before : ServerRuntime F σ} {c : Nat}
    {result : CommandDispatchResult}
    (issued : Issued before.services.registry) (lifecycle : opened.lifecycle = before.lifecycle)
    (registry : opened.services.registry = ⟨nextSession before + 1,
      before.services.registry.activeSessions.insert (nextSession before)⟩)
    (accepted : result.accepted = true) (session : result.session = ⟨nextSession before, [], true⟩)
    (named : c ≠ 0) (free : before.lifecycle.hasSession c = false) :
    (holds (placeLogin ports opened c result).1 = holds before ∧
      ∀ s, Active (placeLogin ports opened c result).1 s ↔ Active before s) ∨
    (holds before c = none ∧ holds (placeLogin ports opened c result).1 =
        Function.update (holds before) c (some (nextSession before)) ∧
      ∀ s, Active (placeLogin ports opened c result).1 s ↔ s = nextSession before ∨ Active before s) := by
  have first := issued.first
  have bound := bindOpened lifecycle session (by unfold nextSession; omega) named free
  obtain ⟨unbound, held⟩ := bindOne bound
  rw [lifecycle] at unbound held
  rw [session] at held
  have active (s : Int) := insertedActive before.services.registry (nextSession before + 1) s
  unfold placeLogin
  rw [accepted, bound, session]
  simp only [Bool.true_eq_false, if_false]
  rcases placeAfterLogin ports.playerId ports.spawnSettings opened.services.presence (nextSession before) []
    with ⟨presence, _ | _⟩
  · left
    have there : holds { opened with
        lifecycle := ⟨before.lifecycle.bindings.insert c (nextSession before)⟩
        services := { opened.services with presence := presence } } c = some (nextSession before) :=
      (congrFun held c).trans (Function.update_self ..)
    dsimp only
    rw [disconnectHeld there]
    refine ⟨?_, fun s => ?_⟩
    · calc lookup ((before.lifecycle.bindings.insert c (nextSession before)).erase c)
          = Function.update (lookup before.lifecycle.bindings) c none := by
            rw [lookupErase, held, Function.update_idem]
        _ = lookup before.lifecycle.bindings := Function.update_eq_self_iff.mpr unbound.symm
    · unfold Active
      dsimp only
      rw [logoutActive, registry]
      refine (and_congr_right fun _ => active s).trans ⟨?_, fun old => ?_⟩
      · rintro ⟨other, here | old⟩
        · exact absurd here other
        · exact old
      · have low := issued.issued s old
        exact ⟨by unfold nextSession; omega, .inr old⟩
  · right
    refine ⟨unbound, held, fun s => ?_⟩
    unfold Active
    dsimp only
    rw [registry]
    exact active s

theorem loginMoved {runtime : ServerRuntime F σ} (error : String) {pending : PendingCommand}
    (issued : Issued runtime.services.registry) (type : pending.command.type = .login)
    (named : pending.connectionId ≠ 0) (isOpen : OpenAt runtime pending.connectionId) :
    Moved ports runtime (serveCommand ports (runtime, error) pending).1 pending ∧
      nextSession runtime ≤ nextSession (serveCommand ports (runtime, error) pending).1 := by
  have refused : ¬ Accepts ports runtime pending := by
    rintro ⟨other, -⟩
    rw [type] at other
    contradiction
  obtain ⟨clients, same⟩ := answeredLogin ports error type named isOpen
  have next := placeNext ports (dispatchPending ports runtime pending).1 pending.connectionId
    (dispatchPending ports runtime pending).2
  have unplaced (denied : (dispatchPending ports runtime pending).2.accepted = false) :
      (placeLogin ports (dispatchPending ports runtime pending).1 pending.connectionId
        (dispatchPending ports runtime pending).2).1 = (dispatchPending ports runtime pending).1 := by
    unfold placeLogin
    rw [if_pos denied]
  rw [same]
  cases busy : runtime.lifecycle.hasSession pending.connectionId with
  | true =>
    rw [loginBusy ports type busy] at unplaced ⊢
    rw [unplaced rfl]
    exact ⟨.still refused rfl (fun _ => Iff.rfl), le_refl _⟩
  | false =>
    rw [loginDispatched ports type busy] at unplaced next ⊢
    obtain ⟨denied, steady⟩ | ⟨accepted, -, session, registry, -⟩ :=
      loginCases ports pending.command issued.first
    · rw [unplaced denied]
      have active (s : Int) : Active { runtime with
          services := (dispatchLogin ports runtime.services pending.command).1 } s ↔ Active runtime s := by
        unfold Active
        rw [steady.registry]
      refine ⟨.still refused rfl active, ?_⟩
      unfold nextSession
      rw [steady.registry]
    · have grown : nextSession runtime ≤ nextSession { runtime with
          services := (dispatchLogin ports runtime.services pending.command).1 } := by
        unfold nextSession
        rw [registry]
        exact Int.le_add_one (le_refl _)
      refine ⟨?_, le_of_le_of_eq grown next.symm⟩
      obtain ⟨held, active⟩ | ⟨free, held, active⟩ :=
        placedMoved ports { runtime with
          services := (dispatchLogin ports runtime.services pending.command).1 } issued rfl registry
          accepted session named busy
      · exact .still refused held active
      · exact .joined refused free held active

omit [FloatOps F] in
theorem disconnectLeaves (runtime : ServerRuntime F σ) (c : Nat) :
    holds (runtime.disconnect c) = Function.update (holds runtime) c none ∧
      (∀ s, Active (runtime.disconnect c) s ↔ holds runtime c ≠ some s ∧ Active runtime s) ∧
      nextSession (runtime.disconnect c) = nextSession runtime := by
  cases held : holds runtime c with
  | none =>
    rw [disconnectFree held]
    exact ⟨(Function.update_eq_self_iff.mpr held.symm).symm, fun s => by simp, rfl⟩
  | some r =>
    rw [disconnectHeld held]
    refine ⟨lookupErase _ c, fun s => ?_, rfl⟩
    unfold Active
    dsimp only
    rw [logoutActive]
    exact and_congr_left' (not_congr (by rw [Option.some.injEq, eq_comm]))

theorem disconnectMoved {runtime : ServerRuntime F σ} (error : String) {pending : PendingCommand}
    (type : pending.command.type = .disconnect) (named : pending.connectionId ≠ 0) :
    Moved ports runtime (serveCommand ports (runtime, error) pending).1 pending ∧
      nextSession runtime ≤ nextSession (serveCommand ports (runtime, error) pending).1 := by
  have through : dispatchPending ports runtime pending =
      ({ runtime with services := (dispatch ports runtime.services pending.command).1 },
        (dispatch ports runtime.services pending.command).2) := by
    unfold dispatchPending
    rw [type, if_neg (fun h => nomatch h.1)]
  have shape : (serveCommand ports (runtime, error) pending).1 =
      (answerDisconnect { runtime with services := (dispatch ports runtime.services pending.command).1 }
        error pending (dispatch ports runtime.services pending.command).2).1 := by
    unfold serveCommand
    dsimp only
    rw [through, if_neg named, if_pos type]
  rw [shape]
  obtain ⟨refused, steady⟩ | ⟨accepted, -, registry, -⟩ := disconnectCases ports runtime.services type
  · have alike := answerAlike { runtime with
      services := (dispatch ports runtime.services pending.command).1 } error pending refused
    refine ⟨.still ?_ ?_ fun s => ?_, ?_⟩
    · rintro ⟨-, accepted⟩
      rw [through] at accepted
      exact absurd (refused.symm.trans accepted) nofun
    · unfold holds
      rw [alike.lifecycle]
    · unfold Active
      rw [alike.registry, steady.registry]
    · unfold nextSession
      rw [alike.registry, steady.registry]
  · obtain ⟨lifecycle, services⟩ := answerLeaves { runtime with
      services := (dispatch ports runtime.services pending.command).1 } error pending accepted
    obtain ⟨held, active, next⟩ := disconnectLeaves { runtime with
      services := (dispatch ports runtime.services pending.command).1 } pending.connectionId
    refine ⟨.left ⟨type, by rw [through]; exact accepted⟩ ?_ fun s => ?_, ?_⟩
    · unfold holds at held ⊢
      rw [lifecycle]
      exact held
    · have ended := active s
      unfold Active at ended ⊢
      rw [services, ended, registry, logoutActive, and_left_comm]
      rfl
    · unfold nextSession at next ⊢
      rw [services, next, registry]
      exact le_refl _

theorem serveMoved {runtime : ServerRuntime F σ} (error : String) {pending : PendingCommand}
    (issued : Issued runtime.services.registry) (named : pending.connectionId ≠ 0)
    (isOpen : OpenAt runtime pending.connectionId) :
    Moved ports runtime (serveCommand ports (runtime, error) pending).1 pending ∧
      nextSession runtime ≤ nextSession (serveCommand ports (runtime, error) pending).1 := by
  by_cases login : pending.command.type = .login
  · exact loginMoved ports error issued login named isOpen
  · by_cases disconnect : pending.command.type = .disconnect
    · exact disconnectMoved ports error disconnect named
    · have steady := dispatchSteady ports runtime.services login disconnect
      have shape : (serveCommand ports (runtime, error) pending).1 =
          { runtime with services := (dispatch ports runtime.services pending.command).1 } := by
        unfold serveCommand dispatchPending
        dsimp only
        rw [if_neg named, if_neg disconnect, if_neg login, if_neg (fun h => login h.1)]
      rw [shape]
      refine ⟨.still (fun accepts => disconnect accepts.1) rfl fun s => ?_, ?_⟩
      · unfold Active
        rw [steady.registry]
      · unfold nextSession
        rw [steady.registry]

end

-- A server with what its connections have been through: the sessions that each was bound
-- to, each Disconnect of theirs that was accepted with the session it named, and the bytes
-- they were sent.
structure Log (F σ : Type) where
  runtime : ServerRuntime F σ
  held : List (Nat × Int) := []
  ended : List (Nat × Int) := []
  sent : Nat → Bytes := fun _ => []

section
variable {F σ : Type}

structure Bound (log : Log F σ) : Prop where
  issued : Issued log.runtime.services.registry
  low : ∀ c s, holds log.runtime c = some s → s < nextSession log.runtime
  sole : ∀ c d s, holds log.runtime c = some s → holds log.runtime d = some s → c = d
  live : ∀ c s, OpenAt log.runtime c → holds log.runtime c = some s → Active log.runtime s
  noted : ∀ c s, holds log.runtime c = some s → (c, s) ∈ log.held
  known : ∀ c s, (c, s) ∈ log.held ∨ (c, s) ∈ log.ended → c < log.runtime.nextConnectionId
  lost : ∀ c s, (c, s) ∈ log.held → OpenAt log.runtime c →
    holds log.runtime c = some s ∨ (c, s) ∈ log.ended

theorem boundAlike {log : Log F σ} (bound : Bound log) {runtime : ServerRuntime F σ} (sent : Nat → Bytes)
    (lifecycle : runtime.lifecycle = log.runtime.lifecycle)
    (registry : runtime.services.registry = log.runtime.services.registry)
    (next : runtime.nextConnectionId = log.runtime.nextConnectionId)
    (isOpen : ∀ c, OpenAt runtime c → OpenAt log.runtime c) :
    Bound { log with runtime := runtime, sent := sent } := by
  have held : holds runtime = holds log.runtime := by
    unfold holds
    rw [lifecycle]
  refine ⟨?_, fun c s here => ?_, fun c d s here there => ?_, fun c s opened here => ?_, fun c s here => ?_,
    fun c s noted => ?_, fun c s noted opened => ?_⟩
  · rw [registry]
    exact bound.issued
  · unfold nextSession
    rw [registry]
    exact bound.low c s (held ▸ here)
  · exact bound.sole c d s (held ▸ here) (held ▸ there)
  · unfold Active
    rw [registry]
    exact bound.live c s (isOpen c opened) (held ▸ here)
  · exact bound.noted c s (held ▸ here)
  · rw [next]
    exact bound.known c s noted
  · rw [held]
    exact bound.lost c s noted (isOpen c opened)

theorem boundOpened {log : Log F σ} (bound : Bound log) : Bound { log with runtime := { log.runtime with
    nextConnectionId := log.runtime.nextConnectionId + 1
    clients := log.runtime.clients.insert log.runtime.nextConnectionId {} } } := by
  have old {c : Nat} (below : c < log.runtime.nextConnectionId) (isOpen : OpenAt { log.runtime with
      nextConnectionId := log.runtime.nextConnectionId + 1
      clients := log.runtime.clients.insert log.runtime.nextConnectionId {} } c) : OpenAt log.runtime c := by
    unfold OpenAt at isOpen ⊢
    rwa [openedView, Function.update_of_ne (Nat.ne_of_lt below)] at isOpen
  exact
    { bound with
      live := fun c s isOpen here =>
        bound.live c s (old (bound.known c s (.inl (bound.noted c s here))) isOpen) here
      known := fun c s noted => Nat.lt_succ_of_lt (bound.known c s noted)
      lost := fun c s noted isOpen => bound.lost c s noted (old (bound.known c s (.inl noted)) isOpen) }

structure Dropped (before after : ServerRuntime F σ) (c : Nat) : Prop where
  issued : Issued before.services.registry → Issued after.services.registry
  held : holds after = Function.update (holds before) c none
  active : ∀ s, Active after s ↔ holds before c ≠ some s ∧ Active before s
  session : nextSession after = nextSession before
  next : after.nextConnectionId = before.nextConnectionId
  isOpen : ∀ d, OpenAt after d → d ≠ c ∧ OpenAt before d

theorem removedDropped (runtime : ServerRuntime F σ) (c : Nat) :
    removeClosed runtime c = runtime ∨ Dropped runtime (removeClosed runtime c) c := by
  have seen := removeOne runtime c
  unfold removeClosed at seen ⊢
  split
  · exact .inl rfl
  · rename_i session there
    split
    · exact .inl rfl
    · rename_i shut
      right
      rw [there] at seen
      simp only [if_neg shut] at seen
      obtain ⟨held, active, later⟩ := disconnectLeaves { runtime with services := { runtime.services with
        presence := removeAfterLogout runtime.services.presence (runtime.lifecycle.sessionId c) } } c
      refine ⟨fun issued => ?_, held, active, later, rfl, fun d isOpen => ?_⟩
      · have registered : Issued ({ runtime with services := { runtime.services with
          presence := removeAfterLogout runtime.services.presence (runtime.lifecycle.sessionId c) } } :
            ServerRuntime F σ).services.registry := issued
        exact issuedDisconnect registered c
      · have gone : (view runtime c).filter ClientSession.isOpen = none := by
          rw [show view runtime c = some session from there]
          simp [shut]
        unfold OpenAt at isOpen ⊢
        rw [seen, gone] at isOpen
        by_cases here : d = c
        · rw [here, Function.update_self] at isOpen
          contradiction
        · rw [Function.update_of_ne here] at isOpen
          exact ⟨here, isOpen⟩

theorem boundRemoved {log : Log F σ} (bound : Bound log) (c : Nat) :
    Bound { log with runtime := removeClosed log.runtime c } := by
  obtain same | dropped := removedDropped log.runtime c
  · rw [same]
    exact bound
  · have old {d : Nat} {s : Int} (here : holds (removeClosed log.runtime c) d = some s) :
        d ≠ c ∧ holds log.runtime d = some s := by
      rw [dropped.held] at here
      by_cases same : d = c
      · rw [same, Function.update_self] at here
        contradiction
      · rw [Function.update_of_ne same] at here
        exact ⟨same, here⟩
    refine ⟨dropped.issued bound.issued, fun d s here => ?_, fun d e s here there => ?_,
      fun d s isOpen here => ?_, fun d s here => bound.noted d s (old here).2, fun d s noted => ?_,
      fun d s noted isOpen => ?_⟩
    · rw [dropped.session]
      exact bound.low d s (old here).2
    · exact bound.sole d e s (old here).2 (old there).2
    · obtain ⟨other, held⟩ := old here
      refine (dropped.active s).mpr ⟨fun mine => ?_, bound.live d s (dropped.isOpen d isOpen).2 held⟩
      exact other (bound.sole d c s held mine)
    · rw [dropped.next]
      exact bound.known d s noted
    · obtain ⟨other, was⟩ := dropped.isOpen d isOpen
      rw [dropped.held, Function.update_of_ne other]
      exact bound.lost d s noted was

theorem boundCleared {log : Log F σ} (bound : Bound log) :
    Bound { log with runtime := removeClosedClients log.runtime } := by
  unfold removeClosedClients
  exact List.foldlRecOn (motive := fun runtime : ServerRuntime F σ => Bound { log with runtime := runtime })
    _ _ bound (fun runtime kept c _ =>
      boundRemoved (show Bound { log with runtime := runtime } from kept) c)

variable [FloatOps F] (ports : ServerPorts F σ)

def noteCommand (state : Log F σ × String) (pending : PendingCommand) : Log F σ × String :=
  let (runtime, error) := serveCommand ports (state.1.runtime, state.2) pending
  ({ state.1 with
      runtime := runtime
      held := state.1.held ++ runtime.lifecycle.bindings.toList
      ended :=
        if Accepts ports state.1.runtime pending then
          state.1.ended ++ [(pending.connectionId, pending.command.sessionId.toInt)]
        else state.1.ended }, error)

def Room (runtime : ServerRuntime F σ) (c : Nat) : Prop :=
  ∀ session, view runtime c = some session → session.outboundFrames.length < maxOutboundFrames

structure Answerable (runtime : ServerRuntime F σ) (pending : PendingCommand) : Prop where
  room : Room runtime pending.connectionId
  own : ∀ s, holds runtime pending.connectionId = some s → s = pending.command.sessionId.toInt
  alone : ∀ d, OpenAt runtime d → holds runtime d = some pending.command.sessionId.toInt →
    d = pending.connectionId

theorem heldSince {state : Log F σ × String} {pending : PendingCommand} {c : Nat} {s : Int} :
    (c, s) ∈ (noteCommand ports state pending).1.held ↔
      (c, s) ∈ state.1.held ∨ holds (noteCommand ports state pending).1.runtime c = some s := by
  unfold noteCommand
  dsimp only
  rw [List.mem_append]
  exact or_congr_right Std.ExtTreeMap.mem_toList_iff_getElem?_eq_some

theorem endedSince {state : Log F σ × String} {pending : PendingCommand} {c : Nat} {s : Int} :
    (c, s) ∈ (noteCommand ports state pending).1.ended ↔ (c, s) ∈ state.1.ended ∨
      (Accepts ports state.1.runtime pending ∧ c = pending.connectionId ∧
        s = pending.command.sessionId.toInt) := by
  unfold noteCommand
  dsimp only
  split
  · rename_i accepts
    simp [accepts]
  · rename_i refused
    simp [refused]

theorem movedHeld {before after : ServerRuntime F σ} {pending : PendingCommand}
    (moved : Moved ports before after pending) {c : Nat} {s : Int} (here : holds after c = some s) :
    holds before c = some s ∨ (c = pending.connectionId ∧ s = nextSession before ∧ Active after s) := by
  cases moved with
  | still refused held active =>
    rw [held] at here
    exact .inl here
  | joined refused free held active =>
    rw [held] at here
    by_cases mine : c = pending.connectionId
    · rw [mine, Function.update_self] at here
      have new := (Option.some.inj here).symm
      exact .inr ⟨mine, new, (active s).mpr (.inl new)⟩
    · rw [Function.update_of_ne mine] at here
      exact .inl here
  | left accepts held active =>
    rw [held] at here
    by_cases mine : c = pending.connectionId
    · rw [mine, Function.update_self] at here
      contradiction
    · rw [Function.update_of_ne mine] at here
      exact .inl here

variable {ports} {state : Log F σ × String} {pending : PendingCommand}

theorem liveServed {after : ServerRuntime F σ} (bound : Bound state.1)
    (moved : Moved ports state.1.runtime after pending)
    (answerable : Accepts ports state.1.runtime pending → Answerable state.1.runtime pending) {c : Nat}
    {s : Int} (isOpen : OpenAt state.1.runtime c) (here : holds after c = some s) : Active after s := by
  obtain old | ⟨-, -, new⟩ := movedHeld ports moved here
  · have was := bound.live c s isOpen old
    cases moved with
    | still refused held active => exact (active s).mpr was
    | joined refused free held active => exact (active s).mpr (.inr was)
    | left accepts held active =>
      have other : c ≠ pending.connectionId := by
        rintro rfl
        rw [held, Function.update_self] at here
        contradiction
      refine (active s).mpr ⟨?_, fun mine => other (bound.sole _ _ s old mine), was⟩
      rintro rfl
      exact other ((answerable accepts).alone c isOpen old)
  · exact new

theorem lostServed {after : ServerRuntime F σ} (moved : Moved ports state.1.runtime after pending)
    (answerable : Accepts ports state.1.runtime pending → Answerable state.1.runtime pending) {c : Nat}
    {s : Int} (was : holds state.1.runtime c = some s) :
    holds after c = some s ∨ (c, s) ∈ (noteCommand ports state pending).1.ended := by
  cases moved with
  | still refused held active =>
    rw [held]
    exact .inl was
  | joined refused free held active =>
    have other : c ≠ pending.connectionId := by
      rintro rfl
      rw [free] at was
      contradiction
    rw [held, Function.update_of_ne other]
    exact .inl was
  | left accepts held active =>
    by_cases mine : c = pending.connectionId
    · subst mine
      exact .inr ((endedSince ports).mpr (.inr ⟨accepts, rfl, (answerable accepts).own s was⟩))
    · rw [held, Function.update_of_ne mine]
      exact .inl was

theorem boundServed (bound : Bound state.1) (isOpen : OpenAt state.1.runtime pending.connectionId)
    (named : pending.connectionId ≠ 0) (below : pending.connectionId < state.1.runtime.nextConnectionId)
    (answerable : Accepts ports state.1.runtime pending → Answerable state.1.runtime pending) :
    Bound (noteCommand ports state pending).1 := by
  obtain ⟨moved, grows⟩ := serveMoved ports state.2 bound.issued named isOpen
  have issued := serveIssued ports bound.issued state.2 pending
  have answered := serveAnswered ports (state.1.runtime, state.2) pending
  have was {c : Nat} (opened : OpenAt (noteCommand ports state pending).1.runtime c) :
      OpenAt state.1.runtime c := (answeredOpen answered c).symm.trans opened
  have fresh {c : Nat} {s : Int} (here : holds (noteCommand ports state pending).1.runtime c = some s) :
      c < state.1.runtime.nextConnectionId := by
    obtain old | ⟨rfl, -, -⟩ := movedHeld ports moved here
    · exact bound.known c s (.inl (bound.noted c s old))
    · exact below
  refine ⟨issued, fun c s here => ?_, fun c d s here there => ?_,
    fun c s opened here => liveServed bound moved answerable (was opened) here,
    fun c s here => (heldSince ports).mpr (.inr here), fun c s noted => ?_, fun c s noted opened => ?_⟩
  · obtain old | ⟨-, -, new⟩ := movedHeld ports moved here
    · exact lt_of_lt_of_le (bound.low c s old) grows
    · exact issued.issued s new
  · obtain old | ⟨mine, new, -⟩ := movedHeld ports moved here
    · obtain also | ⟨-, new, -⟩ := movedHeld ports moved there
      · exact bound.sole c d s old also
      · exact absurd (bound.low c s old) (by omega)
    · obtain also | ⟨yours, -, -⟩ := movedHeld ports moved there
      · exact absurd (bound.low d s also) (by omega)
      · exact mine.trans yours.symm
  · refine lt_of_lt_of_eq ?_ answered.next.symm
    rcases noted with noted | noted
    · obtain old | here := (heldSince ports).mp noted
      · exact bound.known c s (.inl old)
      · exact fresh here
    · obtain old | ⟨-, rfl, -⟩ := (endedSince ports).mp noted
      · exact bound.known c s (.inr old)
      · exact below
  · obtain old | here := (heldSince ports).mp noted
    · obtain still | ended := bound.lost c s old (was opened)
      · exact lostServed moved answerable still
      · exact .inr ((endedSince ports).mpr (.inl ended))
    · exact .inl here

end

end SeedOrigin.SessionEnds
