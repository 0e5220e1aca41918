import SeedOrigin.LockoutWindows
import SeedOrigin.Maps
import SeedOrigin.Octets

/-! The two login lockouts: that of the admin surface and that of the player
service. What a store answers comes with each attempt. -/
namespace SeedOrigin.Lockouts
open SeedOrigin.Octets SeedOrigin.Maps SeedOrigin.LockoutWindows SeedOrigin.Runs

structure LockoutState where
  consecutiveFailures : UInt64 := 0
  lockedUntilEpochSeconds : UInt64 := 0

structure AdminLoginLockout where
  maxAttempts : UInt64
  lockoutSeconds : UInt64
  states : Std.ExtTreeMap Bytes LockoutState := ∅

def AdminLoginLockout.isLocked (lockout : AdminLoginLockout) (username : Bytes)
    (nowEpochSeconds : UInt64) : Bool :=
  match lookup lockout.states username with
  | none => false
  | some state => state.consecutiveFailures ≥ lockout.maxAttempts ∧
      nowEpochSeconds < state.lockedUntilEpochSeconds

-- Sums wrap at 2 ^ 64.
def AdminLoginLockout.failed (lockout : AdminLoginLockout) (state : LockoutState)
    (nowEpochSeconds : UInt64) : LockoutState :=
  let counted := { state with consecutiveFailures := state.consecutiveFailures + 1 }
  if counted.consecutiveFailures ≥ lockout.maxAttempts then
    { counted with lockedUntilEpochSeconds := nowEpochSeconds + lockout.lockoutSeconds }
  else counted

def AdminLoginLockout.recordFailure (lockout : AdminLoginLockout) (username : Bytes)
    (nowEpochSeconds : UInt64) : AdminLoginLockout :=
  let state := (lookup lockout.states username).getD {}
  { lockout with states := lockout.states.insert username (lockout.failed state nowEpochSeconds) }

def AdminLoginLockout.recordSuccess (lockout : AdminLoginLockout) (username : Bytes) : AdminLoginLockout :=
  { lockout with states := lockout.states.erase username }

-- A request to log in: what the store answers to the username and password, and
-- when. The store may also throw.
structure AdminAttempt where
  username : Bytes
  password : Bytes
  verified : Except String (Option Int)
  now : UInt64

structure Response where
  status : Nat
  content : String
  adminUserId : Option Int := none

def postLogin (lockout : AdminLoginLockout) (attempt : AdminAttempt) : AdminLoginLockout × Response :=
  let invalid := (lockout.recordFailure attempt.username attempt.now,
    (⟨401, "\x7b\"error\":\"invalid credentials\"\x7d", none⟩ : Response))
  if attempt.username = [] ∨ lockout.isLocked attempt.username attempt.now then
    (lockout, ⟨423, "\x7b\"error\":\"account locked, try again later\"\x7d", none⟩)
  else if attempt.password = [] then invalid
  else match attempt.verified with
    | .error _ => (lockout, ⟨500, "", none⟩)
    | .ok none => invalid
    | .ok (some adminUserId) => (lockout.recordSuccess attempt.username, ⟨200, "", some adminUserId⟩)

def Representable (nanoseconds : Int) : Prop :=
  -31557014167219200 * 10 ^ 9 ≤ nanoseconds ∧ nanoseconds < 31556889864403200 * 10 ^ 9

instance (nanoseconds : Int) : Decidable (Representable nanoseconds) := by
  unfold Representable
  infer_instance

abbrev Instant := { nanoseconds : Int // Representable nanoseconds }

def Instant.min : Instant := ⟨-31557014167219200 * 10 ^ 9, by decide⟩

def nanosecondsOf (seconds : Int) : Int := seconds * 10 ^ 9

def plusSeconds (instant : Instant) (seconds : Int) : Except String Instant :=
  if inside : Representable (instant.val + nanosecondsOf seconds) then .ok ⟨_, inside⟩
  else .error "Instant exceeds minimum or maximum instant"

structure FailureState where
  count : Int32
  lockedUntil : Instant

structure LoginLockoutPolicy where
  maxFailures : Int32
  durationSeconds : Int64

structure StoredUser where
  userId : Int
  username : String
  passwordHash : String

structure IssuedChallenge where
  userId : Int
  key : String
  expiresAt : Instant

structure PlayerAuthenticationService where
  lockoutPolicy : LoginLockoutPolicy
  failures : Std.ExtTreeMap String FailureState := ∅
  challenges : List IssuedChallenge := []

structure LoginResult where
  accepted : Bool
  challengeKey : Option String := none
  reason : Option String := none
  lockedUntil : Option Instant := none

structure PlayerAttempt where
  username : String
  password : String
  stored : Except String (Option StoredUser)
  now : Instant
  randomKey : String

-- The count wraps at 2 ^ 31.
def PlayerAuthenticationService.failed (service : PlayerAuthenticationService)
    (previous : Option FailureState) (current : Instant) : Except String FailureState := do
  let count := (previous.map FailureState.count).getD 0 + 1
  let lockedUntil ← if count ≥ service.lockoutPolicy.maxFailures then
      plusSeconds current service.lockoutPolicy.durationSeconds.toInt
    else pure Instant.min
  return ⟨count, lockedUntil⟩

def PlayerAuthenticationService.lockedOut (service : PlayerAuthenticationService) (username : String)
    (current : Instant) : Option Instant :=
  match lookup service.failures username with
  | none => none
  | some state => if current.val < state.lockedUntil.val then some state.lockedUntil else none

-- matches is the password codec. What is thrown leaves the service as it is at
-- that point.
def PlayerAuthenticationService.login (matches_ : String → String → Bool)
    (service : PlayerAuthenticationService) (attempt : PlayerAttempt) :
    PlayerAuthenticationService × Except String LoginResult :=
  let current := attempt.now
  match service.lockedOut attempt.username current with
  | some lockedUntil =>
    (service, .ok { accepted := false, reason := some "locked_out", lockedUntil := some lockedUntil })
  | none => match attempt.stored with
    | .error e => (service, .error e)
    | .ok stored => match stored.filter (fun user => matches_ attempt.password user.passwordHash) with
      | none => match service.failed (lookup service.failures attempt.username) current with
        | .error e => (service, .error e)
        | .ok updated =>
          let later := updated.lockedUntil.val > current.val
          ({ service with failures := service.failures.insert attempt.username updated },
            .ok { accepted := false,
                  reason := some (if later then "locked_out" else "invalid_credentials"),
                  lockedUntil := if later then some updated.lockedUntil else none })
      | some user =>
        let removed := { service with failures := service.failures.erase attempt.username }
        match plusSeconds current 120 with
        | .error e => (removed, .error e)
        | .ok expiresAt =>
          ({ removed with challenges := removed.challenges ++ [⟨user.userId, attempt.randomKey, expiresAt⟩] },
            .ok { accepted := true, challengeKey := some attempt.randomKey })

def AdminAttempt.verdict (attempt : AdminAttempt) : Option Bool :=
  if attempt.password = [] then some false
  else match attempt.verified with
    | .error _ => none
    | .ok adminUserId => some adminUserId.isSome

def PlayerAttempt.verdict (matches_ : String → String → Bool) (attempt : PlayerAttempt) : Option Bool :=
  match attempt.stored with
  | .error _ => none
  | .ok stored => some (stored.any (fun user => matches_ attempt.password user.passwordHash))

structure Watched (L N : Type) where
  lockout : L
  checks : List (Check N) := []

section
variable (matches_ : String → String → Bool)

def playerChecks (service : PlayerAuthenticationService) (attempt : PlayerAttempt) : List (Check String) :=
  if (service.lockedOut attempt.username attempt.now).isSome then []
  else ((attempt.verdict matches_).map (fun passed => ⟨attempt.username, attempt.now.val, passed⟩)).toList

def playerStep (watched : Watched PlayerAuthenticationService String) (attempt : PlayerAttempt) :
    Watched PlayerAuthenticationService String :=
  ⟨(watched.lockout.login matches_ attempt).1,
    watched.checks ++ playerChecks matches_ watched.lockout attempt⟩

end

def playerTally (service : PlayerAuthenticationService) (username : String) : Tally :=
  match lookup service.failures username with
  | none => ⟨0, Instant.min.val⟩
  | some state => ⟨state.count.toInt, state.lockedUntil.val⟩

structure PlayerCounts (matches_ : String → String → Bool)
    (watched : Watched PlayerAuthenticationService String) (attempt : PlayerAttempt) : Prop where
  fails : watched.lockout.lockedOut attempt.username attempt.now = none →
    attempt.verdict matches_ = some false →
    (playerTally watched.lockout attempt.username).count = 2 ^ 31 - 1 →
      watched.lockout.lockoutPolicy.maxFailures.toInt = -2 ^ 31
  -- The challenge of a login can be given its two minutes.
  passes : attempt.verdict matches_ = some true → Representable (attempt.now.val + nanosecondsOf 120)

theorem plusFits {instant : Instant} {seconds : Int}
    (fits : Representable (instant.val + nanosecondsOf seconds)) :
    plusSeconds instant seconds = .ok ⟨instant.val + nanosecondsOf seconds, fits⟩ := dif_pos fits

theorem serviceFailed (service : PlayerAuthenticationService) (previous : Option FailureState)
    {current : Instant}
    (fits : Representable (current.val + nanosecondsOf service.lockoutPolicy.durationSeconds.toInt)) :
    ∃ updated, service.failed previous current = .ok updated ∧
      updated.count = (previous.map FailureState.count).getD 0 + 1 ∧
      (service.lockoutPolicy.maxFailures ≤ updated.count →
        updated.lockedUntil.val = current.val + nanosecondsOf service.lockoutPolicy.durationSeconds.toInt) ∧
      (¬ service.lockoutPolicy.maxFailures ≤ updated.count → updated.lockedUntil = Instant.min) := by
  unfold PlayerAuthenticationService.failed
  generalize (previous.map FailureState.count).getD 0 + 1 = count
  dsimp only
  by_cases full : count ≥ service.lockoutPolicy.maxFailures
  · rw [if_pos full, plusFits fits]
    exact ⟨_, rfl, rfl, fun _ => rfl, fun below => absurd full below⟩
  · rw [if_neg full]
    exact ⟨_, rfl, rfl, fun reached => absurd reached full, fun _ => rfl⟩

theorem tallyInserted (service : PlayerAuthenticationService) (username : String) (state : FailureState) :
    playerTally { service with failures := service.failures.insert username state } =
      Function.update (playerTally service) username ⟨state.count.toInt, state.lockedUntil.val⟩ := by
  funext other
  unfold playerTally
  dsimp only
  rw [lookupInsert]
  by_cases here : other = username
  · rw [here, Function.update_self, Function.update_self]
  · rw [Function.update_of_ne here, Function.update_of_ne here]

theorem tallyErased (service : PlayerAuthenticationService) (username : String)
    (challenges : List IssuedChallenge) :
    playerTally { service with failures := service.failures.erase username, challenges := challenges } =
      Function.update (playerTally service) username ⟨0, Instant.min.val⟩ := by
  funext other
  unfold playerTally
  dsimp only
  rw [lookupErase]
  by_cases here : other = username
  · rw [here, Function.update_self, Function.update_self]
  · rw [Function.update_of_ne here, Function.update_of_ne here]

theorem tallyCount (service : PlayerAuthenticationService) (username : String) :
    (playerTally service username).count =
      (((lookup service.failures username).map FailureState.count).getD 0).toInt := by
  unfold playerTally
  cases lookup service.failures username <;> rfl

theorem serviceLocked {service : PlayerAuthenticationService} {username : String} {now : Instant}
    (unlocked : service.lockedOut username now = none) :
    ¬ (playerTally service username).Locked service.lockoutPolicy.maxFailures.toInt now.val := by
  unfold PlayerAuthenticationService.lockedOut at unlocked
  unfold playerTally Tally.Locked
  cases state : lookup service.failures username with
  | none => exact fun locked => absurd locked.2 (not_lt.mpr now.property.1)
  | some stored =>
    simp only [state] at unlocked
    split at unlocked
    · contradiction
    · rename_i expired
      exact fun locked => expired locked.2

theorem playerFailed {service : PlayerAuthenticationService} {username : String} {current : Instant}
    (counts : (playerTally service username).count = 2 ^ 31 - 1 →
      service.lockoutPolicy.maxFailures.toInt = -2 ^ 31) {updated : FailureState}
    (count : updated.count = ((lookup service.failures username).map FailureState.count).getD 0 + 1)
    (locks : service.lockoutPolicy.maxFailures ≤ updated.count →
      updated.lockedUntil.val = current.val + nanosecondsOf service.lockoutPolicy.durationSeconds.toInt) :
    Failed service.lockoutPolicy.maxFailures.toInt
      (nanosecondsOf service.lockoutPolicy.durationSeconds.toInt) current.val
      (playerTally service username) ⟨updated.count.toInt, updated.lockedUntil.val⟩ := by
  constructor
  · intro below
    dsimp only at below ⊢
    rw [tallyCount] at counts ⊢
    generalize ((lookup service.failures username).map FailureState.count).getD 0 = old at count counts
    have small := old.toInt_lt
    have least := old.le_toInt
    have bottom := updated.count.le_toInt
    have top : old.toInt ≠ 2 ^ 31 - 1 := by
      intro largest
      rw [counts largest] at below
      omega
    rw [count, Int32.toInt_add]
    have one : (1 : Int32).toInt = 1 := rfl
    rw [one]
    exact Int.bmod_eq_of_le (by omega) (by omega)
  · intro reached
    exact locks (Int32.le_iff_toInt_le.mpr reached)

section
variable (matches_ : String → String → Bool)

theorem loginCases (service : PlayerAuthenticationService) (attempt : PlayerAttempt)
    (fits : Representable (attempt.now.val + nanosecondsOf service.lockoutPolicy.durationSeconds.toInt)) :
    (playerChecks matches_ service attempt = [] ∧ (service.login matches_ attempt).1 = service) ∨
    (playerChecks matches_ service attempt = [⟨attempt.username, attempt.now.val, false⟩] ∧
      service.lockedOut attempt.username attempt.now = none ∧ attempt.verdict matches_ = some false ∧
      ∃ updated, service.failed (lookup service.failures attempt.username) attempt.now = .ok updated ∧
        (service.login matches_ attempt).1 =
          { service with failures := service.failures.insert attempt.username updated }) ∨
    (playerChecks matches_ service attempt = [⟨attempt.username, attempt.now.val, true⟩] ∧
      ∃ challenges, (service.login matches_ attempt).1 =
        { service with failures := service.failures.erase attempt.username, challenges := challenges }) := by
  unfold playerChecks PlayerAuthenticationService.login PlayerAttempt.verdict
  dsimp only
  cases locked : service.lockedOut attempt.username attempt.now with
  | some lockedUntil => exact .inl ⟨rfl, rfl⟩
  | none =>
    cases attempt.stored with
    | error e => exact .inl ⟨rfl, rfl⟩
    | ok stored =>
      have fitting : stored.any (fun user => matches_ attempt.password user.passwordHash) =
          (stored.filter (fun user => matches_ attempt.password user.passwordHash)).isSome := by
        cases stored with
        | none => rfl
        | some user => cases right : matches_ attempt.password user.passwordHash <;> simp [right]
      simp only [fitting]
      cases stored.filter (fun user => matches_ attempt.password user.passwordHash) with
      | none =>
        obtain ⟨updated, made, -⟩ := serviceFailed service (lookup service.failures attempt.username) fits
        simp only [made]
        exact .inr (.inl ⟨rfl, trivial, rfl, updated, rfl, rfl⟩)
      | some user =>
        refine .inr (.inr ⟨rfl, ?_⟩)
        dsimp only
        split
        · exact ⟨service.challenges, rfl⟩
        · exact ⟨_, rfl⟩

structure PlayerKept (policy : LoginLockoutPolicy) (watched : Watched PlayerAuthenticationService String)
    (now : Int) : Prop where
  settings : watched.lockout.lockoutPolicy = policy
  kept : Kept policy.maxFailures.toInt (nanosecondsOf policy.durationSeconds.toInt) watched.checks
    (playerTally watched.lockout) now

theorem playerKept {policy : LoginLockoutPolicy} {watched : Watched PlayerAuthenticationService String}
    {now : Int} {attempt : PlayerAttempt} (before : PlayerKept policy watched now)
    (later : now ≤ attempt.now.val)
    (fits : Representable (attempt.now.val + nanosecondsOf policy.durationSeconds.toInt))
    (counts : PlayerCounts matches_ watched attempt) :
    PlayerKept policy (playerStep matches_ watched attempt) attempt.now.val := by
  obtain ⟨rfl, kept⟩ := before
  unfold playerStep
  obtain ⟨none, same⟩ | ⟨failed, unlocked, wrong, updated, made, same⟩ | ⟨passed, challenges, same⟩ :=
    loginCases matches_ watched.lockout attempt fits
  · rw [none, same, List.append_nil]
    exact ⟨rfl, keptLater kept later⟩
  · obtain ⟨other, made', count, locks, -⟩ :=
      serviceFailed watched.lockout (lookup watched.lockout.failures attempt.username) fits
    obtain rfl := Except.ok.inj (made.symm.trans made')
    rw [failed, same]
    refine ⟨rfl, ?_⟩
    rw [tallyInserted]
    exact keptFailed kept later (serviceLocked unlocked)
      (playerFailed (counts.fails unlocked wrong) count locks)
  · rw [passed, same]
    refine ⟨rfl, ?_⟩
    rw [tallyErased]
    exact keptPassed kept later rfl

end

end SeedOrigin.Lockouts
