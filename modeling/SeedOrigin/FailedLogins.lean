import SeedOrigin.SessionMoves

/-! A login that is answered with a refusal: what its steps have written by then, and
what of it is taken back. The challenges and the player sessions are maps here, the
issuer of keys and the clock anything. -/
namespace SeedOrigin.FailedLogins
open SeedOrigin.Octets SeedOrigin.Numbers SeedOrigin.ClientInput SeedOrigin.Inputs
open SeedOrigin.CommandWire SeedOrigin.Sessions SeedOrigin.Presence SeedOrigin.Maps
open SeedOrigin.ClientConnection SeedOrigin.CommandDispatch SeedOrigin.Runtime
open SeedOrigin.ServerRun SeedOrigin.SessionTables SeedOrigin.SessionMoves

structure ChallengeRow where
  userId : Int
  expiresAtUnix : Int
  claimed : Bool

structure SessionRow where
  userId : Int
  expiresAtUnix : Int

structure AuthMaps (κ : Type) where
  challenges : Bytes → Option ChallengeRow
  sessions : Bytes → Option SessionRow
  outside : κ

structure Outside (κ : Type) where
  nowUnixSeconds : κ → κ × Int
  issue : κ → κ × Bytes

section
variable {κ : Type}

def mapPorts (outside : Outside κ) : ChallengePorts (AuthMaps κ) where
  nowUnixSeconds auth :=
    let (world, now) := outside.nowUnixSeconds auth.outside
    ({ auth with outside := world }, now)
  claim auth challenge now := match auth.challenges challenge with
    | none => (auth, none)
    | some row =>
      if row.claimed ∨ row.expiresAtUnix ≤ now then (auth, none)
      else
        ({ auth with challenges :=
            Function.update auth.challenges challenge (some { row with claimed := true }) },
          some row.userId)
  issue auth :=
    let (world, key) := outside.issue auth.outside
    ({ auth with outside := world }, key)
  create auth userId key expiresAtUnix :=
    { auth with sessions := Function.update auth.sessions key (some ⟨userId, expiresAtUnix⟩) }

def stored (outside : Outside κ) (auth : AuthMaps κ) (challenge : Bytes) : Option (Bytes × SessionRow) :=
  let (world, now) := outside.nowUnixSeconds auth.outside
  match auth.challenges challenge with
  | none => none
  | some row =>
    if row.claimed ∨ row.expiresAtUnix ≤ now then none
    else some ((outside.issue world).2, ⟨row.userId, now + sessionTtlSeconds⟩)

def withStored (sessions : Bytes → Option SessionRow) :
    Option (Bytes × SessionRow) → Bytes → Option SessionRow
  | none => sessions
  | some (key, row) => Function.update sessions key (some row)

theorem loginStores (outside : Outside κ) (auth : AuthMaps κ) (challenge : Bytes) :
    (loginWithChallenge (mapPorts outside) auth challenge).1.sessions =
      withStored auth.sessions (stored outside auth challenge) := by
  unfold loginWithChallenge stored mapPorts
  dsimp only
  cases auth.challenges challenge with
  | none => rfl
  | some row =>
    dsimp only
    by_cases spent : row.claimed = true ∨ row.expiresAtUnix ≤ (outside.nowUnixSeconds auth.outside).2
    · simp only [if_pos spent]
      rfl
    · simp only [if_neg spent]
      rfl

variable {F : Type}

structure TablesBack {σ : Type} (before after : ServerRuntime F σ) : Prop where
  registry : ∀ s, Active after s ↔ Active before s
  lifecycle : holds after = holds before
  players : after.services.presence.field.playerList = before.services.presence.field.playerList
  seats : after.services.presence.field.sessionToPlayerId =
    before.services.presence.field.sessionToPlayerId
  sitters : after.services.presence.field.playerToSessionId =
    before.services.presence.field.playerToSessionId
  names : after.services.presence.operatorNamesByAuthId = before.services.presence.operatorNamesByAuthId

structure Restored (before after : ServerRuntime F (AuthMaps κ)) : Prop extends TablesBack before after where
  store : after.services.auth.sessions = before.services.auth.sessions

structure Issued (registry : SessionRegistry) : Prop where
  first : 1 ≤ registry.nextInternalId
  issued : ∀ s, registry.isActive s = true → s < registry.nextInternalId

theorem issuedInitial : Issued {} := by
  refine ⟨le_refl _, fun s active => ?_⟩
  simp [SessionRegistry.isActive] at active

theorem issuedOpen {registry : SessionRegistry} (issued : Issued registry) (userId : Int) :
    Issued (registry.openAuthenticatedSession userId).1 := by
  unfold SessionRegistry.openAuthenticatedSession
  split
  · exact issued
  · refine ⟨by have first := issued.first; dsimp only; omega, fun s active => ?_⟩
    obtain rfl | old := (insertedActive registry _ s).mp active
    · exact Int.lt_succ _
    · exact lt_trans (issued.issued s old) (Int.lt_succ _)

theorem issuedLogout {registry : SessionRegistry} (issued : Issued registry) (s : Int) :
    Issued (registry.logout s).1 :=
  ⟨issued.first, fun r active => issued.issued r ((logoutActive registry s r).mp active).2⟩

theorem issuedDisconnect {σ : Type} {runtime : ServerRuntime F σ}
    (issued : Issued runtime.services.registry) (c : Nat) :
    Issued (runtime.disconnect c).services.registry := by
  cases held : holds runtime c with
  | none =>
    rw [disconnectFree held]
    exact issued
  | some s =>
    rw [disconnectHeld held]
    exact issuedLogout issued s

theorem placeFailed (port : PlayerIdPort) (settings : LoginFieldSpawnSettings F)
    (presence : FieldSessionPresence F) (sessionId : Int) (claimedId : Bytes)
    (failed : (placeAfterLogin port settings presence sessionId claimedId).2 = false) :
    ∃ next, (placeAfterLogin port settings presence sessionId claimedId).1 =
      { presence with field := { presence.field with nextGameplayId := next } } := by
  rcases placeAny port settings presence sessionId claimedId with ⟨idle, -⟩ | ⟨auth, -, -, -, placed⟩
  · exact ⟨presence.field.nextGameplayId, congrArg Prod.fst idle⟩
  · revert failed placed
    generalize placeAfterLogin port settings presence sessionId claimedId = outcome
    obtain ⟨after, answer⟩ := outcome
    intro failed placed
    cases placed with
    | refused next grows skipped blocked => exact ⟨next, rfl⟩
    | rebound found bound => contradiction
    | created creates more account bound => contradiction

theorem tablesBackSame {σ : Type} {before after : ServerRuntime F σ} (registry : after.services.registry =
      before.services.registry) (lifecycle : after.lifecycle = before.lifecycle)
    (presence : after.services.presence = before.services.presence) : TablesBack before after := by
  refine ⟨fun s => ?_, ?_, by rw [presence], by rw [presence], by rw [presence], by rw [presence]⟩
  · unfold Active
    rw [registry]
  · unfold holds
    rw [lifecycle]

variable [FloatOps F] {σ : Type} (ports : ServerPorts F σ)

def loginResult (runtime : ServerRuntime F σ) (pending : PendingCommand) : CommandDispatchResult :=
  let (dispatched, result) := dispatchPending ports runtime pending
  (placeLogin ports dispatched pending.connectionId result).2

omit [FloatOps F] in
theorem placingTakenBack {before opened : ServerRuntime F σ} {c : Nat} {result : CommandDispatchResult}
    (issued : Issued before.services.registry) (lifecycle : opened.lifecycle = before.lifecycle)
    (registry : opened.services.registry = ⟨before.services.registry.nextInternalId + 1,
      before.services.registry.activeSessions.insert before.services.registry.nextInternalId⟩)
    (presence : opened.services.presence = before.services.presence) (accepted : result.accepted = true)
    (session : result.session = ⟨before.services.registry.nextInternalId, [], true⟩)
    (named : c ≠ 0) (free : before.lifecycle.hasSession c = false)
    (rejects : (placeLogin ports opened c result).2.accepted = false) :
    TablesBack before (placeLogin ports opened c result).1 ∧
      (placeLogin ports opened c result).1.services.auth = opened.services.auth := by
  have first := issued.first
  have pos : 0 < before.services.registry.nextInternalId := by omega
  have bound := bindOpened lifecycle session pos named free
  obtain ⟨unbound, held⟩ := bindOne bound
  rw [lifecycle] at unbound held
  rw [session] at held
  unfold placeLogin at rejects ⊢
  rw [accepted, bound, session] at rejects ⊢
  simp only [Bool.true_eq_false, if_false, presence] at rejects ⊢
  have failing := placeFailed ports.playerId ports.spawnSettings before.services.presence
    before.services.registry.nextInternalId []
  generalize placeAfterLogin ports.playerId ports.spawnSettings before.services.presence
    before.services.registry.nextInternalId [] = outcome at failing rejects ⊢
  obtain ⟨after, placed | placed⟩ := outcome
  · obtain ⟨next, same⟩ := failing rfl
    have there : holds { opened with
        lifecycle := ⟨before.lifecycle.bindings.insert c before.services.registry.nextInternalId⟩
        services := { opened.services with presence := after } } c =
          some before.services.registry.nextInternalId :=
      (congrFun held c).trans (Function.update_self ..)
    dsimp only at same ⊢
    rw [disconnectHeld there]
    refine ⟨⟨fun s => ?_, ?_, ?_, ?_, ?_, ?_⟩, rfl⟩
    · unfold Active
      dsimp only
      rw [logoutActive, registry, insertedActive]
      constructor
      · rintro ⟨other, here | old⟩
        · exact absurd here other
        · exact old
      · intro old
        have low := issued.issued s old
        exact ⟨by omega, .inr old⟩
    · calc lookup ((before.lifecycle.bindings.insert c before.services.registry.nextInternalId).erase c)
          = Function.update (lookup before.lifecycle.bindings) c none := by
            rw [lookupErase, held, Function.update_idem]
        _ = lookup before.lifecycle.bindings := Function.update_eq_self_iff.mpr unbound.symm
    all_goals (dsimp only; rw [same])
  · rw [accepted] at rejects
    contradiction

omit [FloatOps F] in
theorem loginTakenBack {before : ServerRuntime F σ} {command : NetworkCommand} {c : Nat}
    (issued : Issued before.services.registry) (named : c ≠ 0) (free : before.lifecycle.hasSession c = false)
    (rejects : (placeLogin ports { before with services := (dispatchLogin ports before.services command).1 }
      c (dispatchLogin ports before.services command).2).2.accepted = false) :
    TablesBack before (placeLogin ports
        { before with services := (dispatchLogin ports before.services command).1 } c
        (dispatchLogin ports before.services command).2).1 ∧
      (placeLogin ports { before with services := (dispatchLogin ports before.services command).1 } c
        (dispatchLogin ports before.services command).2).1.services.auth =
          (dispatchLogin ports before.services command).1.auth := by
  obtain ⟨refused, steady⟩ | ⟨accepted, -, session, registry, presence⟩ :=
    loginCases ports command issued.first
  · unfold placeLogin
    rw [if_pos refused]
    exact ⟨tablesBackSame steady.registry rfl steady.presence, rfl⟩
  · exact placingTakenBack ports issued rfl registry presence accepted session named free rejects

theorem answeredLogin {runtime : ServerRuntime F σ} {pending : PendingCommand} (error : String)
    (login : pending.command.type = .login) (named : pending.connectionId ≠ 0)
    (isOpen : OpenAt runtime pending.connectionId) :
    ∃ clients, (serveCommand ports (runtime, error) pending).1 =
      { (placeLogin ports (dispatchPending ports runtime pending).1 pending.connectionId
          (dispatchPending ports runtime pending).2).1 with clients := clients } := by
  obtain ⟨session, there, isOpen⟩ := openSome isOpen
  have kept : (dispatchPending ports runtime pending).1.clientSession pending.connectionId = some session := by
    unfold dispatchPending
    split <;> exact there
  unfold serveCommand
  dsimp only
  rw [if_neg named, if_neg (by rw [login]; nofun), if_pos login]
  unfold answerLogin
  rw [kept]
  dsimp only
  rw [if_neg (by simp [isOpen])]
  exact ⟨_, rfl⟩

theorem loginBusy {runtime : ServerRuntime F σ} {pending : PendingCommand}
    (login : pending.command.type = .login)
    (busy : runtime.lifecycle.hasSession pending.connectionId = true) :
    dispatchPending ports runtime pending = (runtime, rejected "connection already has a session") := by
  unfold dispatchPending
  rw [if_pos ⟨login, busy⟩]

theorem loginDispatched {runtime : ServerRuntime F σ} {pending : PendingCommand}
    (login : pending.command.type = .login)
    (free : runtime.lifecycle.hasSession pending.connectionId = false) :
    dispatchPending ports runtime pending =
      ({ runtime with services := (dispatchLogin ports runtime.services pending.command).1 },
        (dispatchLogin ports runtime.services pending.command).2) := by
  unfold dispatchPending
  rw [if_neg (by simp [free])]
  unfold dispatch
  rw [login]

omit [FloatOps F] in
theorem dispatchStores (outside : Outside κ) (playerId : PlayerIdPort) (settings : LoginFieldSpawnSettings F)
    (services : Services F (AuthMaps κ)) (command : NetworkCommand) :
    (dispatchLogin ⟨some (mapPorts outside), playerId, settings⟩ services command).1.auth.sessions =
      withStored services.auth.sessions (match validateCommand command with
        | .error _ => none
        | .ok _ => stored outside services.auth command.payload) := by
  unfold dispatchLogin
  cases validateCommand command with
  | error e => rfl
  | ok valid =>
    dsimp only
    rw [← loginStores]
    rcases loginWithChallenge (mapPorts outside) services.auth command.payload with
      ⟨auth, reason | ⟨userId, sessionKey⟩⟩
    · rfl
    · dsimp only
      split <;> rfl

theorem dispatchIssued {services : Services F σ} (issued : Issued services.registry)
    (command : NetworkCommand) : Issued (dispatch ports services command).1.registry := by
  by_cases login : command.type = .login
  · unfold dispatch
    rw [login]
    dsimp only
    obtain ⟨-, steady⟩ | ⟨-, ⟨challenge, auth, userId, -, -, -, -, user, room⟩, -, registry, -⟩ :=
      loginCases ports command issued.first
    · rw [steady.registry]
      exact issued
    · have opened := issuedOpen issued userId
      unfold SessionRegistry.openAuthenticatedSession at opened
      rw [if_neg (by simp only [not_or, not_le]; exact ⟨user, room⟩)] at opened
      rw [registry]
      exact opened
  · by_cases disconnect : command.type = .disconnect
    · obtain ⟨-, steady⟩ | ⟨-, -, registry, -⟩ := disconnectCases ports services disconnect
      · rw [steady.registry]
        exact issued
      · rw [registry]
        exact issuedLogout issued _
    · rw [(dispatchSteady ports services login disconnect).registry]
      exact issued

omit [FloatOps F] in
theorem answerDisconnectIssued {runtime : ServerRuntime F σ} (issued : Issued runtime.services.registry)
    (error : String) (pending : PendingCommand) (result : CommandDispatchResult) :
    Issued (answerDisconnect runtime error pending result).1.services.registry := by
  unfold answerDisconnect
  dsimp only
  have leaves {answered : ServerRuntime F σ × String} (first : Issued answered.1.services.registry) :
      Issued (if result.accepted = true then
        (answered.1.disconnect pending.connectionId, answered.2)
        else (answered.1, answered.2)).1.services.registry := by
    split
    · exact issuedDisconnect first pending.connectionId
    · exact first
  apply leaves
  split
  · exact issued
  · split <;> exact issued

omit [FloatOps F] in
theorem placeIssued {runtime : ServerRuntime F σ} (issued : Issued runtime.services.registry) (c : Nat)
    (result : CommandDispatchResult) : Issued (placeLogin ports runtime c result).1.services.registry := by
  unfold placeLogin
  split
  · exact issued
  · split
    · exact issuedLogout issued _
    · rename_i lifecycle bound
      dsimp only
      rcases placeAfterLogin ports.playerId ports.spawnSettings runtime.services.presence
        result.session.internalId result.session.claimedId with ⟨presence, placed | placed⟩
      · let placed : ServerRuntime F σ := { runtime with
          lifecycle := lifecycle
          services := { runtime.services with presence := presence } }
        have kept : Issued placed.services.registry := issued
        exact issuedDisconnect kept c
      · exact issued

theorem serveIssued {runtime : ServerRuntime F σ} (issued : Issued runtime.services.registry)
    (error : String) (pending : PendingCommand) :
    Issued (serveCommand ports (runtime, error) pending).1.services.registry := by
  have dispatched : Issued (dispatchPending ports runtime pending).1.services.registry := by
    unfold dispatchPending
    split
    · exact issued
    · exact dispatchIssued ports issued pending.command
  unfold serveCommand
  dsimp only
  split
  · exact dispatched
  · split
    · exact answerDisconnectIssued dispatched error pending _
    · split
      · unfold answerLogin
        split
        · exact dispatched
        · split
          · exact dispatched
          · exact placeIssued ports dispatched pending.connectionId _
      · exact dispatched

def Unwritten (outside : Outside κ) (runtime : ServerRuntime F (AuthMaps κ)) (pending : PendingCommand) :
    Prop :=
  runtime.lifecycle.hasSession pending.connectionId = true ∨
    (∃ e, validateCommand pending.command = .error e) ∨
    ∀ key row, stored outside runtime.services.auth pending.command.payload = some (key, row) →
      runtime.services.auth.sessions key = some row

theorem withStoredSame {sessions : Bytes → Option SessionRow} {made : Option (Bytes × SessionRow)} :
    withStored sessions made = sessions ↔ ∀ key row, made = some (key, row) → sessions key = some row := by
  cases made with
  | none => simp [withStored]
  | some one =>
    unfold withStored
    rw [Function.update_eq_self_iff]
    constructor
    · rintro same key row ⟨⟩
      exact same.symm
    · intro same
      exact (same one.1 one.2 rfl).symm

theorem rejectedRestoresExact (outside : Outside κ) (playerId : PlayerIdPort)
    (settings : LoginFieldSpawnSettings F) {before : ServerRuntime F (AuthMaps κ)}
    {pending : PendingCommand} (error : String) (issued : Issued before.services.registry)
    (login : pending.command.type = .login) (named : pending.connectionId ≠ 0)
    (isOpen : OpenAt before pending.connectionId)
    (rejects : (loginResult ⟨some (mapPorts outside), playerId, settings⟩ before pending).accepted = false) :
    Restored before
        (serveCommand ⟨some (mapPorts outside), playerId, settings⟩ (before, error) pending).1 ↔
      Unwritten outside before pending := by
  obtain ⟨clients, served⟩ :=
    answeredLogin ⟨some (mapPorts outside), playerId, settings⟩ error login named isOpen
  rw [served]
  unfold loginResult at rejects
  cases busy : before.lifecycle.hasSession pending.connectionId with
  | true =>
    rw [loginBusy _ login busy]
    refine ⟨fun _ => .inl busy, fun _ => ⟨tablesBackSame rfl rfl rfl, rfl⟩⟩
  | false =>
    rw [loginDispatched _ login busy] at rejects ⊢
    obtain ⟨back, auth⟩ := loginTakenBack ⟨some (mapPorts outside), playerId, settings⟩ issued named busy
      rejects
    have wrote := dispatchStores outside playerId settings before.services pending.command
    rw [← auth] at wrote
    have writes : withStored before.services.auth.sessions (match validateCommand pending.command with
        | .error _ => none
        | .ok _ => stored outside before.services.auth pending.command.payload) =
        before.services.auth.sessions ↔ Unwritten outside before pending := by
      unfold Unwritten
      rw [busy, withStoredSame]
      cases valid : validateCommand pending.command <;> simp
    rw [← writes]
    constructor
    · intro restored
      exact wrote.symm.trans restored.store
    · intro same
      exact ⟨⟨back.registry, back.lifecycle, back.players, back.seats, back.sitters, back.names⟩,
        wrote.trans same⟩

end

def counted : Outside Nat where
  nowUnixSeconds world := (world, 0)
  issue world := (world + 1, ascii "key-" ++ Decimal.natText world)

def placeless : ServerPorts ℚ (AuthMaps Nat) where
  challenge := some (mapPorts counted)
  playerId _ _ := none
  spawnSettings := LoginFieldSpawnSettings.initial

def challenges : AuthMaps Nat where
  challenges key := if key = ascii "challenge" then some ⟨7, 10, false⟩ else none
  sessions _ := none
  outside := 1

def lobby : ServerRuntime ℚ (AuthMaps Nat) :=
  { (started challenges ∅ : ServerRuntime ℚ (AuthMaps Nat)) with
    nextConnectionId := 2
    clients := (∅ : ConnectionMap ClientSession).insert 1 {} }

def loginOf (challenge : String) : PendingCommand :=
  ⟨1, ⟨CommandWire.currentProtocolVersion, .login, 0, ascii challenge⟩⟩

theorem unknownChallengeRestored :
    Restored lobby (serveCommand placeless (lobby, "") (loginOf "forged")).1 := by
  refine (rejectedRestoresExact counted _ _ "" issuedInitial rfl (by decide)
    (by unfold OpenAt; decide +kernel) (by decide +kernel)).mpr (.inr (.inr ?_))
  intro key row made
  exact nomatch (show none = some (key, row) from made)

-- The challenge is claimed, the placing fails, and the player session stays.
theorem refusedLoginStaysStored :
    (loginResult placeless lobby (loginOf "challenge")).accepted = false ∧
      ¬ Restored lobby (serveCommand placeless (lobby, "") (loginOf "challenge")).1 := by
  refine ⟨by decide +kernel, fun restored => ?_⟩
  have left : ((serveCommand placeless (lobby, "") (loginOf "challenge")).1.services.auth.sessions
      (ascii "key-1")).isSome = true := by decide +kernel
  rw [restored.store] at left
  contradiction

end SeedOrigin.FailedLogins
