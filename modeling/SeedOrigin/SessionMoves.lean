import SeedOrigin.Authority
import SeedOrigin.FramePhases
import SeedOrigin.SessionTables

/-! What each command does to the bindings of connections, the registry and the
field, as long as a Disconnect is its sender's own and a login takes no character
from anybody. -/
namespace SeedOrigin.SessionMoves
open SeedOrigin.Octets SeedOrigin.Numbers SeedOrigin.ClientInput SeedOrigin.Inputs
open SeedOrigin.CommandWire SeedOrigin.UpdateWire SeedOrigin.Sessions SeedOrigin.Presence
open SeedOrigin.Maps SeedOrigin.ClientConnection SeedOrigin.CommandDispatch SeedOrigin.Runtime
open SeedOrigin.Runs SeedOrigin.ServerRun SeedOrigin.FramePhases SeedOrigin.Authority
open SeedOrigin.SessionTables

section
variable {F σ : Type}

def holds (runtime : ServerRuntime F σ) : Nat → Option Int := lookup runtime.lifecycle.bindings

def Active (runtime : ServerRuntime F σ) (s : Int) : Prop := runtime.services.registry.isActive s = true

def seats (runtime : ServerRuntime F σ) : Int → Option Int :=
  lookup runtime.services.presence.field.sessionToPlayerId

def sitters (runtime : ServerRuntime F σ) : Int → Option Int :=
  lookup runtime.services.presence.field.playerToSessionId

def OpenAt (runtime : ServerRuntime F σ) (c : Nat) : Prop :=
  (view runtime c).map ClientSession.isOpen = some true

def Admits (ports : ServerPorts F σ) (services : Services F σ) (command : NetworkCommand) : Prop :=
  ∃ challenge auth userId sessionKey, ports.challenge = some challenge ∧
    validateCommand command = .ok () ∧
    loginWithChallenge challenge services.auth command.payload = (auth, .ok (userId, sessionKey)) ∧
    0 < userId ∧ services.registry.nextInternalId ≠ maxInt64

structure Fair (ports : ServerPorts F σ) (runtime : ServerRuntime F σ) (pending : PendingCommand) :
    Prop where
  own : pending.command.type = .disconnect → Owned runtime pending
  vacant : pending.command.type = .login →
    runtime.lifecycle.hasSession pending.connectionId = false →
    Admits ports runtime.services pending.command → ∀ auth player,
    ports.playerId runtime.services.registry.nextInternalId [] = some auth →
    runtime.services.presence.field.findPlayerByAuthId auth = some player →
    runtime.services.presence.field.playerToSessionId[player.id]? = none

def tablesOf (runtime : ServerRuntime F σ) : Prop :=
  Tables runtime.lifecycle runtime.services.registry runtime.services.presence.field

structure Agreed (runtime : ServerRuntime F σ) : Prop where
  tables : tablesOf runtime
  attached : ∀ c s, holds runtime c = some s → (view runtime c).isSome = true
  numbered : ∀ c, (view runtime c).isSome = true → 1 ≤ c
  next : 1 ≤ runtime.nextConnectionId

structure Alike (before after : ServerRuntime F σ) : Prop where
  lifecycle : after.lifecycle = before.lifecycle
  registry : after.services.registry = before.services.registry
  presence : after.services.presence = before.services.presence

theorem Alike.refl (runtime : ServerRuntime F σ) : Alike runtime runtime := ⟨rfl, rfl, rfl⟩

theorem Alike.trans {a b c : ServerRuntime F σ} (first : Alike a b) (second : Alike b c) : Alike a c :=
  ⟨second.lifecycle.trans first.lifecycle, second.registry.trans first.registry,
    second.presence.trans first.presence⟩

theorem alikeTables {before after : ServerRuntime F σ} (tables : tablesOf before)
    (alike : Alike before after) : tablesOf after := by
  unfold tablesOf at tables ⊢
  rwa [alike.lifecycle, alike.registry, alike.presence]

theorem agreedAlike {before after : ServerRuntime F σ} (agreed : Agreed before)
    (alike : Alike before after) (next : after.nextConnectionId = before.nextConnectionId)
    (views : ∀ c, (view after c).isSome = (view before c).isSome) : Agreed after := by
  refine ⟨alikeTables agreed.tables alike, fun c s here => ?_, fun c there => ?_, ?_⟩
  · unfold holds at here
    rw [alike.lifecycle] at here
    rw [views]
    exact agreed.attached c s here
  · rw [views] at there
    exact agreed.numbered c there
  · rw [next]
    exact agreed.next

theorem openSome {runtime : ServerRuntime F σ} {c : Nat} (isOpen : OpenAt runtime c) :
    ∃ session, runtime.clientSession c = some session ∧ session.isOpen = true :=
  Option.map_eq_some_iff.mp isOpen

theorem answeredOpen {before after : ServerRuntime F σ} (answered : Answered before after) (c : Nat) :
    (view after c).map ClientSession.isOpen = (view before c).map ClientSession.isOpen := by
  have related := answered.clients c
  revert related
  cases view before c <;> cases view after c <;> intro related <;> cases related
  · rfl
  · rename_i extended
    exact congrArg some extended.isOpen

theorem answeredSome {before after : ServerRuntime F σ} (answered : Answered before after) (c : Nat) :
    (view after c).isSome = (view before c).isSome := by
  have same := congrArg Option.isSome (answeredOpen answered c)
  rwa [Option.isSome_map, Option.isSome_map] at same

structure Steady (before after : Services F σ) : Prop where
  registry : after.registry = before.registry
  presence : after.presence = before.presence

theorem queuedSteady (services : Services F σ) (handled : Except String (WorldInputQueue F)) :
    Steady services (queued services handled).1 := by
  cases handled <;> exact ⟨rfl, rfl⟩

theorem admittedCases (services : Services F σ) (command : NetworkCommand)
    (commandName limitName : String) (handle : Services F σ → Services F σ × CommandDispatchResult) :
    ((admitted services command commandName limitName handle).2.accepted = false ∧
      Steady services (admitted services command commandName limitName handle).1) ∨
    ∃ limiter, services.registry.isActive command.sessionId.toInt = true ∧
      (services.rateLimiter.allow command.sessionId.toInt command.type).2 = true ∧
      admitted services command commandName limitName handle =
        handle { services with rateLimiter := limiter } := by
  unfold admitted
  split
  · exact .inl ⟨rfl, rfl, rfl⟩
  · rename_i active
    rcases allowed : services.rateLimiter.allow command.sessionId.toInt command.type with ⟨limiter, _ | _⟩
    · exact .inl ⟨rfl, rfl, rfl⟩
    · exact .inr ⟨limiter, by simpa using active, rfl, rfl⟩

theorem admittedSteady (services : Services F σ) (command : NetworkCommand)
    {commandName limitName : String} {handle : Services F σ → Services F σ × CommandDispatchResult}
    (handles : ∀ s, Steady s (handle s).1) :
    Steady services (admitted services command commandName limitName handle).1 := by
  obtain ⟨-, steady⟩ | ⟨limiter, -, -, same⟩ :=
    admittedCases services command commandName limitName handle
  · exact steady
  · rw [same]
    exact ⟨(handles _).registry, (handles _).presence⟩

theorem handledCases (services : Services F σ) (command : NetworkCommand) :
    ((handleDisconnect services command).2.accepted = false ∧
      Steady services (handleDisconnect services command).1) ∨
    ((handleDisconnect services command).2.accepted = true ∧
      (handleDisconnect services command).1.registry =
        (services.registry.logout command.sessionId.toInt).1 ∧
      (handleDisconnect services command).1.presence =
        removeAfterLogout services.presence command.sessionId.toInt) := by
  unfold handleDisconnect
  split
  · exact .inl ⟨rfl, rfl, rfl⟩
  · dsimp only
    split
    · exact .inl ⟨rfl, rfl, rfl⟩
    · rename_i active
      have ended : (services.registry.logout command.sessionId.toInt).2 = true := by
        simpa [SessionRegistry.logout] using active
      rcases left : services.registry.logout command.sessionId.toInt with ⟨registry, done⟩
      rw [left] at ended
      dsimp only at ended
      rw [ended]
      exact .inr ⟨rfl, rfl, rfl⟩

variable [FloatOps F] (ports : ServerPorts F σ)

theorem disconnectCases (services : Services F σ) {command : NetworkCommand}
    (type : command.type = .disconnect) :
    ((dispatch ports services command).2.accepted = false ∧
      Steady services (dispatch ports services command).1) ∨
    ((dispatch ports services command).2.accepted = true ∧ Eligible services command ∧
      (dispatch ports services command).1.registry =
        (services.registry.logout command.sessionId.toInt).1 ∧
      (dispatch ports services command).1.presence =
        removeAfterLogout services.presence command.sessionId.toInt) := by
  unfold dispatch
  rw [type]
  dsimp only
  obtain refused | ⟨limiter, active, allowed, same⟩ := admittedCases services command "disconnect"
    "disconnect command" (fun services =>
      if (handleDisconnect services command).2.accepted then
        ({ (handleDisconnect services command).1 with
            rateLimiter := (handleDisconnect services command).1.rateLimiter.forgetSession
              command.sessionId.toInt }, (handleDisconnect services command).2)
      else ((handleDisconnect services command).1, (handleDisconnect services command).2))
  · exact .inl refused
  · rw [same]
    have notLogin : command.type ≠ .login := by
      rw [type]
      nofun
    obtain ⟨no, steady⟩ | ⟨yes, registry, presence⟩ :=
      handledCases { services with rateLimiter := limiter } command
    · rw [no]
      exact .inl ⟨no, steady.registry, steady.presence⟩
    · rw [yes, if_pos rfl]
      exact .inr ⟨yes, ⟨notLogin, active, allowed⟩, registry, presence⟩

theorem dispatchSteady (services : Services F σ) {command : NetworkCommand}
    (login : command.type ≠ .login) (disconnect : command.type ≠ .disconnect) :
    Steady services (dispatch ports services command).1 := by
  unfold dispatch
  cases type : command.type with
  | login => exact absurd type login
  | disconnect => exact absurd type disconnect
  | move => exact admittedSteady services command (fun s => queuedSteady s _)
  | chat => exact admittedSteady services command (fun s => queuedSteady s _)
  | attack => exact admittedSteady services command (fun s => queuedSteady s _)
  | castSpell => exact admittedSteady services command (fun s => queuedSteady s _)
  | requestSnapshot => exact admittedSteady services command (fun s => ⟨rfl, rfl⟩)
  | unknown code => exact ⟨rfl, rfl⟩

omit [FloatOps F] in
theorem loginCases {services : Services F σ} (command : NetworkCommand)
    (first : 1 ≤ services.registry.nextInternalId) :
    ((dispatchLogin ports services command).2.accepted = false ∧
      Steady services (dispatchLogin ports services command).1) ∨
    ((dispatchLogin ports services command).2.accepted = true ∧ Admits ports services command ∧
      (dispatchLogin ports services command).2.session =
        ⟨services.registry.nextInternalId, [], true⟩ ∧
      (dispatchLogin ports services command).1.registry =
        ⟨services.registry.nextInternalId + 1,
          services.registry.activeSessions.insert services.registry.nextInternalId⟩ ∧
      (dispatchLogin ports services command).1.presence = services.presence) := by
  unfold dispatchLogin
  split
  · exact .inl ⟨rfl, rfl, rfl⟩
  · rename_i challenge known
    split
    · exact .inl ⟨rfl, rfl, rfl⟩
    · rename_i done valid
      rcases logged : loginWithChallenge challenge services.auth command.payload with
        ⟨auth, reason | ⟨userId, sessionKey⟩⟩
      · exact .inl ⟨rfl, rfl, rfl⟩
      · dsimp only
        unfold SessionRegistry.openAuthenticatedSession
        split
        · exact .inl ⟨rfl, rfl, rfl⟩
        · rename_i room
          obtain ⟨user, left⟩ := not_or.mp room
          have issued : ¬ services.registry.nextInternalId = 0 := by omega
          dsimp only
          rw [if_neg issued]
          exact .inr ⟨rfl, ⟨challenge, auth, userId, sessionKey, known, valid, logged, by omega, left⟩,
            rfl, rfl, rfl⟩

omit [FloatOps F] in
theorem disconnectHeld {runtime : ServerRuntime F σ} {c : Nat} {s : Int}
    (there : holds runtime c = some s) : runtime.disconnect c =
      { runtime with
        lifecycle := ⟨runtime.lifecycle.bindings.erase c⟩
        services := { runtime.services with registry := (runtime.services.registry.logout s).1 } } := by
  unfold ServerRuntime.disconnect SessionLifecycle.disconnect
  rw [show runtime.lifecycle.bindings[c]? = some s from there]

omit [FloatOps F] in
theorem disconnectFree {runtime : ServerRuntime F σ} {c : Nat} (free : holds runtime c = none) :
    runtime.disconnect c = runtime := by
  unfold ServerRuntime.disconnect SessionLifecycle.disconnect
  rw [show runtime.lifecycle.bindings[c]? = none from free]

omit [FloatOps F] in
theorem sessionHeld {runtime : ServerRuntime F σ} {c : Nat} {s : Int} (there : holds runtime c = some s) :
    runtime.lifecycle.sessionId c = s := by
  unfold SessionLifecycle.sessionId
  rw [Std.ExtTreeMap.getD_eq_getD_getElem?, show runtime.lifecycle.bindings[c]? = some s from there]
  rfl

omit [FloatOps F] in
theorem sessionFree {runtime : ServerRuntime F σ} {c : Nat} (free : holds runtime c = none) :
    runtime.lifecycle.sessionId c = 0 := by
  unfold SessionLifecycle.sessionId
  rw [Std.ExtTreeMap.getD_eq_getD_getElem?, show runtime.lifecycle.bindings[c]? = none from free]
  rfl

omit [FloatOps F] in
theorem removedPresence (presence : FieldSessionPresence F) {s : Int} (pos : 1 ≤ s) :
    (removeAfterLogout presence s).field = (presence.field.unbindSession s).1 := by
  unfold removeAfterLogout
  rw [if_neg (by omega)]

omit [FloatOps F] in
theorem bindOpened {before opened : ServerRuntime F σ} {c : Nat} {session : SessionInfo} {s : Int}
    (lifecycle : opened.lifecycle = before.lifecycle) (made : session = ⟨s, [], true⟩) (pos : 0 < s)
    (named : c ≠ 0) (free : before.lifecycle.hasSession c = false) :
    opened.lifecycle.bind c session = .ok ⟨before.lifecycle.bindings.insert c s⟩ := by
  unfold SessionLifecycle.bind
  rw [lifecycle, made, free, if_neg (by simp only [not_or, not_le]; exact ⟨named, pos⟩)]
  rfl

omit [FloatOps F] in
theorem placedTables {before opened : ServerRuntime F σ} {c : Nat} {result : CommandDispatchResult}
    (tables : tablesOf before) (lifecycle : opened.lifecycle = before.lifecycle)
    (registry : opened.services.registry = ⟨before.services.registry.nextInternalId + 1,
      before.services.registry.activeSessions.insert before.services.registry.nextInternalId⟩)
    (presence : opened.services.presence = before.services.presence)
    (accepted : result.accepted = true)
    (session : result.session = ⟨before.services.registry.nextInternalId, [], true⟩)
    (vacant : ∀ auth player,
      ports.playerId before.services.registry.nextInternalId [] = some auth →
      before.services.presence.field.findPlayerByAuthId auth = some player →
      lookup before.services.presence.field.playerToSessionId player.id = none)
    (named : c ≠ 0) (free : before.lifecycle.hasSession c = false) :
    tablesOf (placeLogin ports opened c result).1 ∧
      ∀ d s, holds (placeLogin ports opened c result).1 d = some s → holds before d = some s ∨ d = c := by
  have first := tables.first
  have pos : 0 < before.services.registry.nextInternalId := by omega
  have bound := bindOpened lifecycle session pos named free
  obtain ⟨unbound, held⟩ := bindOne bound
  rw [lifecycle] at unbound held
  rw [session] at held
  have active (r : Int) := insertedActive before.services.registry
    (before.services.registry.nextInternalId + 1) r
  unfold placeLogin
  rw [accepted, bound, session]
  simp only [Bool.true_eq_false, if_false, presence]
  have placed := placing ports.playerId ports.spawnSettings tables.seated vacant
  generalize placeAfterLogin ports.playerId ports.spawnSettings before.services.presence
    before.services.registry.nextInternalId [] = outcome at placed ⊢
  cases placed with
  | failed sessions players list =>
    rename_i after
    have there : holds { opened with
        lifecycle := ⟨before.lifecycle.bindings.insert c before.services.registry.nextInternalId⟩
        services := { opened.services with presence := after } } c =
          some before.services.registry.nextInternalId :=
      (congrFun held c).trans (Function.update_self ..)
    dsimp only
    rw [disconnectHeld there]
    have back : lookup ((before.lifecycle.bindings.insert c
        before.services.registry.nextInternalId).erase c) = lookup before.lifecycle.bindings := by
      rw [lookupErase, held, Function.update_idem]
      exact Function.update_eq_self_iff.mpr unbound.symm
    refine ⟨tablesSame tables back (fun s => ?_) ?_ sessions players ?_, fun d s here => .inl ?_⟩
    · dsimp only
      rw [logoutActive, registry, active]
      constructor
      · rintro ⟨other, same | old⟩
        · exact absurd same other
        · exact old
      · intro old
        have low := (tables.issued s old).2
        exact ⟨by omega, .inr old⟩
    · dsimp only
      rw [registry]
      exact Int.le_add_one (le_refl _)
    · intro g there
      dsimp only
      rwa [list]
    · exact (congrFun back d).symm.trans here
  | placed seated seats =>
    refine ⟨tablesJoin tables unbound held ?_ (fun r => ?_) seated seats, fun d s here => ?_⟩
    · dsimp only
      rw [registry]
    · dsimp only
      rw [registry]
      exact active r
    · by_cases same : d = c
      · exact .inr same
      · have there := (congrFun held d).symm.trans here
        rw [Function.update_of_ne same] at there
        exact .inl there

structure Ended (before after : ServerRuntime F σ) : Prop where
  tables : tablesOf after
  fewer : ∀ d s, holds after d = some s → holds before d = some s

omit [FloatOps F] in
theorem endedAlike {before after : ServerRuntime F σ} (tables : tablesOf before)
    (alike : Alike before after) : Ended before after := by
  refine ⟨alikeTables tables alike, fun d s here => ?_⟩
  unfold holds at here ⊢
  rwa [alike.lifecycle] at here

omit [FloatOps F] in
theorem endedLeft {before after : ServerRuntime F σ} {c : Nat} {s : Int} (tables : tablesOf before)
    (there : holds before c = some s) (lifecycle : after.lifecycle = ⟨before.lifecycle.bindings.erase c⟩)
    (next : after.services.registry.nextInternalId = before.services.registry.nextInternalId)
    (now : ∀ r, Active after r ↔ r ≠ s ∧ Active before r)
    (field : after.services.presence.field = (before.services.presence.field.unbindSession s).1) :
    Ended before after := by
  refine ⟨?_, fun d r here => ?_⟩
  · unfold tablesOf
    rw [lifecycle, field]
    exact tablesLeave tables there next now
  · unfold holds at here
    rw [lifecycle] at here
    exact erasedFound here

omit [FloatOps F] in
theorem answerLeaves (runtime : ServerRuntime F σ) (error : String) (pending : PendingCommand)
    {result : CommandDispatchResult} (accepted : result.accepted = true) :
    (answerDisconnect runtime error pending result).1.lifecycle =
        (runtime.disconnect pending.connectionId).lifecycle ∧
      (answerDisconnect runtime error pending result).1.services =
        (runtime.disconnect pending.connectionId).services := by
  unfold answerDisconnect
  dsimp only
  rw [if_pos accepted]
  split
  · exact ⟨rfl, rfl⟩
  · split <;> exact ⟨rfl, rfl⟩

omit [FloatOps F] in
theorem answerAlike (runtime : ServerRuntime F σ) (error : String) (pending : PendingCommand)
    {result : CommandDispatchResult} (refused : result.accepted = false) :
    Alike runtime (answerDisconnect runtime error pending result).1 := by
  have denied : ¬ result.accepted = true := by simp [refused]
  unfold answerDisconnect
  dsimp only
  rw [if_neg denied]
  split
  · exact ⟨rfl, rfl, rfl⟩
  · split <;> exact ⟨rfl, rfl, rfl⟩

theorem disconnectTables {runtime : ServerRuntime F σ} (error : String) {pending : PendingCommand}
    (tables : tablesOf runtime) (type : pending.command.type = .disconnect)
    (fair : Fair ports runtime pending) (named : pending.connectionId ≠ 0) :
    Ended runtime (serveCommand ports (runtime, error) pending).1 := by
  have through : dispatchPending ports runtime pending =
      ({ runtime with services := (dispatch ports runtime.services pending.command).1 },
        (dispatch ports runtime.services pending.command).2) := by
    unfold dispatchPending
    rw [type, if_neg (fun h => nomatch h.1)]
  unfold serveCommand
  dsimp only
  rw [through, if_neg named, if_pos type]
  dsimp only
  obtain ⟨refused, steady⟩ | ⟨accepted, eligible, registry, presence⟩ :=
    disconnectCases ports runtime.services type
  · refine endedAlike tables (Alike.trans ?_ (answerAlike _ error pending refused))
    exact ⟨rfl, steady.registry, steady.presence⟩
  · have own := (fair.own type).resolve_right (not_not_intro eligible)
    have active := eligible.2.1
    have low := (tables.issued _ active).1
    cases there : holds runtime pending.connectionId with
    | none =>
      rw [sessionFree there] at own
      omega
    | some s =>
      rw [sessionHeld there] at own
      rw [own] at registry presence low
      obtain ⟨lifecycle, services⟩ := answerLeaves
        { runtime with services := (dispatch ports runtime.services pending.command).1 } error pending
        accepted
      have still : holds { runtime with
          services := (dispatch ports runtime.services pending.command).1 } pending.connectionId =
            some s := there
      rw [disconnectHeld still] at lifecycle services
      refine endedLeft tables there lifecycle ?_ (fun r => ?_) ?_
      · rw [services]
        dsimp only
        rw [registry]
        rfl
      · unfold Active
        rw [services]
        dsimp only
        rw [registry, logoutActive, logoutActive, ← and_assoc, and_self]
      · rw [services]
        dsimp only
        rw [presence, removedPresence _ low]

theorem loginTables {runtime : ServerRuntime F σ} (error : String) {pending : PendingCommand}
    (tables : tablesOf runtime) (type : pending.command.type = .login)
    (fair : Fair ports runtime pending) (named : pending.connectionId ≠ 0)
    (isOpen : OpenAt runtime pending.connectionId) :
    tablesOf (serveCommand ports (runtime, error) pending).1 ∧
      ∀ d s, holds (serveCommand ports (runtime, error) pending).1 d = some s →
        holds runtime d = some s ∨ d = pending.connectionId := by
  obtain ⟨session, there, readable⟩ := openSome isOpen
  have dispatched := (dispatchElsewhere ports runtime pending).clients
  have still : (dispatchPending ports runtime pending).1.clientSession pending.connectionId =
      some session := by
    unfold ServerRuntime.clientSession
    rw [dispatched]
    exact there
  have notDisconnect : pending.command.type ≠ .disconnect := by
    rw [type]
    nofun
  unfold serveCommand answerLogin
  dsimp only
  rw [if_neg named, if_neg notDisconnect, if_pos type, still]
  dsimp only
  rw [readable]
  simp only [Bool.true_eq_false, if_false]
  suffices reached : tablesOf (placeLogin ports (dispatchPending ports runtime pending).1
      pending.connectionId (dispatchPending ports runtime pending).2).1 ∧
      ∀ d s, holds (placeLogin ports (dispatchPending ports runtime pending).1
        pending.connectionId (dispatchPending ports runtime pending).2).1 d = some s →
          holds runtime d = some s ∨ d = pending.connectionId from reached
  have unplaced (refused : (dispatchPending ports runtime pending).2.accepted = false)
      (alike : Alike runtime (dispatchPending ports runtime pending).1) :
      tablesOf (placeLogin ports (dispatchPending ports runtime pending).1
        pending.connectionId (dispatchPending ports runtime pending).2).1 ∧
      ∀ d s, holds (placeLogin ports (dispatchPending ports runtime pending).1
        pending.connectionId (dispatchPending ports runtime pending).2).1 d = some s →
          holds runtime d = some s ∨ d = pending.connectionId := by
    obtain ⟨kept, fewer⟩ := endedAlike tables alike
    unfold placeLogin
    rw [if_pos refused]
    exact ⟨kept, fun d s here => .inl (fewer d s here)⟩
  by_cases free : runtime.lifecycle.hasSession pending.connectionId = false
  · have through : dispatchPending ports runtime pending =
        ({ runtime with services := (dispatchLogin ports runtime.services pending.command).1 },
          (dispatchLogin ports runtime.services pending.command).2) := by
      unfold dispatchPending dispatch
      rw [type, free]
      rfl
    rw [through] at unplaced ⊢
    obtain ⟨refused, steady⟩ | ⟨accepted, admits, made, registry, presence⟩ :=
      loginCases ports pending.command tables.first
    · exact unplaced refused ⟨rfl, steady.registry, steady.presence⟩
    · refine placedTables ports tables ?_ registry presence accepted made ?_ named free
      · rfl
      · exact fair.vacant type free admits
  · have loggedIn : runtime.lifecycle.hasSession pending.connectionId = true := by simpa using free
    have denied : dispatchPending ports runtime pending =
        (runtime, rejected "connection already has a session") := by
      unfold dispatchPending
      rw [if_pos ⟨type, loggedIn⟩]
    rw [denied] at unplaced ⊢
    exact unplaced rfl (Alike.refl runtime)

theorem serveAgreed {runtime : ServerRuntime F σ} (error : String) {pending : PendingCommand}
    (agreed : Agreed runtime) (isOpen : OpenAt runtime pending.connectionId)
    (fair : Fair ports runtime pending) : Agreed (serveCommand ports (runtime, error) pending).1 := by
  have there : (view runtime pending.connectionId).isSome = true := by
    obtain ⟨session, here, -⟩ := openSome isOpen
    exact Option.isSome_of_mem here
  have low := agreed.numbered _ there
  have named : pending.connectionId ≠ 0 := by omega
  have answered := serveAnswered ports (runtime, error) pending
  have moved : tablesOf (serveCommand ports (runtime, error) pending).1 ∧
      ∀ d s, holds (serveCommand ports (runtime, error) pending).1 d = some s →
        holds runtime d = some s ∨ d = pending.connectionId := by
    by_cases login : pending.command.type = .login
    · exact loginTables ports error agreed.tables login fair named isOpen
    · by_cases disconnect : pending.command.type = .disconnect
      · obtain ⟨tables, fewer⟩ := disconnectTables ports error agreed.tables disconnect fair named
        exact ⟨tables, fun d s here => .inl (fewer d s here)⟩
      · have steady := dispatchSteady ports runtime.services login disconnect
        have alike : Alike runtime (serveCommand ports (runtime, error) pending).1 := by
          unfold serveCommand dispatchPending
          dsimp only
          rw [if_neg named, if_neg disconnect, if_neg login, if_neg (fun h => login h.1)]
          exact ⟨rfl, steady.registry, steady.presence⟩
        obtain ⟨tables, fewer⟩ := endedAlike agreed.tables alike
        exact ⟨tables, fun d s here => .inl (fewer d s here)⟩
  obtain ⟨tables, bound⟩ := moved
  refine ⟨tables, fun d s here => ?_, fun d here => ?_, ?_⟩
  · rw [answeredSome answered]
    obtain old | rfl := bound d s here
    · exact agreed.attached d s old
    · exact there
  · rw [answeredSome answered] at here
    exact agreed.numbered d here
  · rw [answered.next]
    exact agreed.next

end

end SeedOrigin.SessionMoves
