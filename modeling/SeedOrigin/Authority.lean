import Mathlib.Logic.Function.Basic
import SeedOrigin.ServerRun

/-! Whose commands a server acts on. The session id of a command is its sender's
word, and the dispatcher asks no more than that it is active. -/
namespace SeedOrigin.Authority
open SeedOrigin.Octets SeedOrigin.Numbers SeedOrigin.ClientInput SeedOrigin.Inputs
open SeedOrigin.CommandWire SeedOrigin.Sessions SeedOrigin.Presence SeedOrigin.ClientConnection
open SeedOrigin.CommandDispatch SeedOrigin.Runtime SeedOrigin.Runs SeedOrigin.ServerRun

section
variable {F σ : Type}

structure Unmoved (before after : Services F σ) : Prop where
  registry : after.registry = before.registry
  queue : after.inputQueue = before.inputQueue
  field : after.presence.field = before.presence.field
  quota : after.rateLimiter = before.rateLimiter

def Eligible (services : Services F σ) (command : NetworkCommand) : Prop :=
  command.type ≠ .login ∧ services.registry.isActive command.sessionId.toInt = true ∧
    (services.rateLimiter.allow command.sessionId.toInt command.type).2 = true

theorem deniedLimiter {limiter after : CommandRateLimiter} {sessionId : Int} {type : CommandType}
    (h : limiter.allow sessionId type = (after, false)) : after = limiter := by
  unfold CommandRateLimiter.allow at h
  split at h
  · exact (Prod.mk.inj h).1.symm
  · split at h
    · dsimp only at h
      split at h
      · exact (Prod.mk.inj h).1.symm
      · exact absurd (Prod.mk.inj h).2 nofun
    · exact (Prod.mk.inj h).1.symm

theorem allowedLimiter {limiter after : CommandRateLimiter} {sessionId : Int} {type : CommandType}
    (h : limiter.allow sessionId type = (after, true)) : after ≠ limiter := by
  unfold CommandRateLimiter.allow at h
  split at h
  · exact absurd (Prod.mk.inj h).2 nofun
  · split at h
    · rename_i slot
      dsimp only at h
      split at h
      · exact absurd (Prod.mk.inj h).2 nofun
      · obtain ⟨rfl, -⟩ := Prod.mk.inj h
        intro same
        have counts := congrArg (fun limiter : CommandRateLimiter =>
          limiter.counters.getD sessionId (fun _ => 0) ⟨type.code.toNat, slot.1⟩) same
        simp at counts
    · exact absurd (Prod.mk.inj h).2 nofun

theorem admittedActs {services : Services F σ} {command : NetworkCommand}
    {commandName limitName : String} {handle : Services F σ → Services F σ × CommandDispatchResult}
    (handles : ∀ s, (handle s).2.accepted = true ∨ (handle s).1.rateLimiter = s.rateLimiter) :
    ((admitted services command commandName limitName handle).2.accepted = true ∨
      ¬ Unmoved services (admitted services command commandName limitName handle).1) ↔
    services.registry.isActive command.sessionId.toInt = true ∧
      (services.rateLimiter.allow command.sessionId.toInt command.type).2 = true := by
  unfold admitted
  cases active : services.registry.isActive command.sessionId.toInt with
  | false =>
    have still : Unmoved services services := ⟨rfl, rfl, rfl, rfl⟩
    simp [rejected, still]
  | true =>
    simp only [Bool.true_eq_false, if_false]
    rcases allowed : services.rateLimiter.allow command.sessionId.toInt command.type with ⟨limiter, _ | _⟩
    · obtain rfl := deniedLimiter allowed
      have still : Unmoved services services := ⟨rfl, rfl, rfl, rfl⟩
      simp [rejected, still]
    · simp only [and_self, iff_true]
      obtain accepted | kept := handles { services with rateLimiter := limiter }
      · exact .inl accepted
      · refine .inr (fun still => allowedLimiter allowed ?_)
        exact kept.symm.trans still.quota

theorem queuedKeeps (services : Services F σ) (handled : Except String (WorldInputQueue F)) :
    (queued services handled).1.rateLimiter = services.rateLimiter := by
  cases handled <;> rfl

theorem handleDisconnectKeeps (services : Services F σ) (command : NetworkCommand) :
    (handleDisconnect services command).1.rateLimiter = services.rateLimiter := by
  unfold handleDisconnect
  split
  · rfl
  · dsimp only
    split
    · rfl
    · split <;> rfl

variable [FloatOps F] (ports : ServerPorts F σ)

theorem dispatchActs {services : Services F σ} {command : NetworkCommand}
    (notLogin : command.type ≠ .login) :
    ((dispatch ports services command).2.accepted = true ∨
      ¬ Unmoved services (dispatch ports services command).1) ↔ Eligible services command := by
  have queues (handled : Services F σ → Except String (WorldInputQueue F)) (s : Services F σ) :
      (queued s (handled s)).2.accepted = true ∨ (queued s (handled s)).1.rateLimiter = s.rateLimiter :=
    .inr (queuedKeeps s (handled s))
  unfold Eligible dispatch
  cases type : command.type with
  | login => exact absurd type notLogin
  | move =>
    dsimp only
    rw [admittedActs (queues _), type]
    simp
  | requestSnapshot =>
    dsimp only
    rw [admittedActs (fun s => .inl rfl), type]
    simp
  | disconnect =>
    dsimp only
    rw [admittedActs, type]
    · simp
    · intro s
      cases ended : (handleDisconnect s command).2.accepted with
      | true => simp [ended]
      | false =>
        refine .inr ?_
        simp only [Bool.false_eq_true, if_false]
        exact handleDisconnectKeeps s command
  | chat =>
    dsimp only
    rw [admittedActs (queues _), type]
    simp
  | attack =>
    dsimp only
    rw [admittedActs (queues _), type]
    simp
  | castSpell =>
    dsimp only
    rw [admittedActs (queues _), type]
    simp
  | unknown code =>
    have still : Unmoved services services := ⟨rfl, rfl, rfl, rfl⟩
    have denied : (services.rateLimiter.allow command.sessionId.toInt (.unknown code)).2 = false := by
      unfold CommandRateLimiter.allow
      split
      · rfl
      · rw [dif_neg (fun slot => slot.2 rfl)]
    simp [rejected, still, denied]

def Authorised (runtime : ServerRuntime F σ) (pending : PendingCommand) : Prop :=
  pending.command.type ≠ .login →
    ((dispatchPending ports runtime pending).2.accepted = true ∨
      ¬ Unmoved runtime.services (dispatchPending ports runtime pending).1.services) →
    pending.command.sessionId.toInt = runtime.lifecycle.sessionId pending.connectionId

def Owned (runtime : ServerRuntime F σ) (pending : PendingCommand) : Prop :=
  pending.command.sessionId.toInt = runtime.lifecycle.sessionId pending.connectionId ∨
    ¬ Eligible runtime.services pending.command

theorem authorisedOwned (runtime : ServerRuntime F σ) (pending : PendingCommand) :
    Authorised ports runtime pending ↔ Owned runtime pending := by
  unfold Authorised Owned
  by_cases login : pending.command.type = .login
  · simp [login, Eligible]
  · have through : dispatchPending ports runtime pending =
        ({ runtime with services := (dispatch ports runtime.services pending.command).1 },
          (dispatch ports runtime.services pending.command).2) := by
      unfold dispatchPending
      rw [if_neg (fun h => login h.1)]
    rw [through]
    simp only [dispatchActs ports login]
    tauto

theorem authorityExact (auth : σ) (names : IntMap Bytes) (events : List (ServerEvent F)) :
    Along (serverStep ports) (Serves ports (Authorised ports)) (started auth names) events ↔
      Along (serverStep ports) (Serves ports Owned) (started auth names) events := by
  have same : Authorised ports = Owned (F := F) (σ := σ) := by
    funext runtime pending
    exact propext (authorisedOwned ports runtime pending)
  rw [same]

end

-- Two connections are logged in; the second one ends the session of the first.
def foreignDisconnect : List (ServerEvent ℚ) :=
  [.frame (loginsFrame 2),
    .frame { accepts := []
             recv := fun c => if c = 2 then .bytes (commandFrame .disconnect 1 "") else .wouldBlock
             send := sendAll }]

def foreignCommand : PendingCommand :=
  ⟨2, ⟨CommandWire.currentProtocolVersion, .disconnect, 1, []⟩⟩

theorem foreignDisconnectAccepted :
    ¬ Along (serverStep openPorts) (Serves openPorts (Authorised openPorts)) (started () twoNames)
      foreignDisconnect := by
  intro along
  have second := along (foreignDisconnect.take 1) _ [] rfl
  have authorised := second [] foreignCommand [] (by decide +kernel)
  have own := authorised (by decide) (.inl (by decide +kernel))
  exact absurd own (by decide +kernel)

end SeedOrigin.Authority
