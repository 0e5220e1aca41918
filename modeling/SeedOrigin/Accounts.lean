import SeedOrigin.CommandDispatch
import SeedOrigin.Interleaving
import SeedOrigin.Lockouts

/-! The player accounts: the tables that the authentication service and the game
server share, the statements each of them makes and the procedures made of these.
A procedure may stop between any two statements, which is where the database fails
it. What the drivers and the database's own functions compute is left open. -/
namespace SeedOrigin.Accounts
open SeedOrigin.Octets SeedOrigin.Maps SeedOrigin.Lockouts SeedOrigin.Interleaving
open SeedOrigin.CommandDispatch

-- The text that octets become, to_timestamp, the column an Instant is stored in,
-- and crypt.
structure Sql where
  text : Bytes → Except String String
  timestamp : Int → Int
  column : Instant → Int
  crypt : String → String → String

structure PlayerChallenge where
  userId : Int
  expiresAt : Int
  claimedAt : Option Int := none
  deriving DecidableEq

-- Of revoked_at only whether it is set is ever read.
structure PlayerSession where
  userId : Int
  expiresAt : Int
  revoked : Bool := false
  deriving DecidableEq

structure Database where
  users : List StoredUser := []
  nextUserId : Int := 1
  challenges : Std.ExtTreeMap String PlayerChallenge := ∅
  sessions : Std.ExtTreeMap String PlayerSession := ∅

structure Shared where
  database : Database := {}
  failures : Std.ExtTreeMap String FailureState := ∅

namespace Database

def existsRow (username : String) (database : Database) : Database × Bool :=
  (database, database.users.any (fun user => user.username = username))

def find (username : String) (database : Database) : Database × Option StoredUser :=
  (database, database.users.find? (fun user => user.username = username))

-- The sequence is drawn from before the constraint is checked.
def insertUser (username passwordHash : String) (database : Database) : Database × Except String Unit :=
  if database.nextUserId ≥ 2 ^ 63 then (database, .error "nextval: reached maximum value of sequence")
  else
    let drawn := { database with nextUserId := database.nextUserId + 1 }
    if (database.existsRow username).2 = true then (drawn, .error "duplicate key value: users_username_key")
    else
      ({ drawn with users := database.users ++ [⟨database.nextUserId, username, passwordHash⟩] }, .ok ())

def hasUser (database : Database) (userId : Int) : Bool :=
  database.users.any (fun user => user.userId = userId)

def insertChallenge (key : String) (userId expiresAt : Int) (database : Database) :
    Database × Except String Unit :=
  if (lookup database.challenges key).isSome = true then
    (database, .error "duplicate key value: player_challenges_pkey")
  else if database.hasUser userId = false then
    (database, .error "foreign key: player_challenges_user_id_fkey")
  else ({ database with challenges := database.challenges.insert key { userId, expiresAt } }, .ok ())

def insertSession (key : String) (userId expiresAt : Int) (database : Database) :
    Database × Except String Unit :=
  if (lookup database.sessions key).isSome = true then
    (database, .error "duplicate key value: player_sessions_pkey")
  else if database.hasUser userId = false then
    (database, .error "foreign key: player_sessions_user_id_fkey")
  else ({ database with sessions := database.sessions.insert key { userId, expiresAt } }, .ok ())

-- One transaction: the row is locked from its selection to its update.
def claim (key : String) (now : Int) (database : Database) : Database × Option Int :=
  match lookup database.challenges key with
  | none => (database, none)
  | some row =>
    if row.claimedAt = none ∧ row.expiresAt > now then
      ({ database with
          challenges := database.challenges.insert key { row with claimedAt := some now } },
        some row.userId)
    else (database, none)

def activeRow (database : Database) (key : String) (now : Int) : Option PlayerSession :=
  (lookup database.sessions key).filter (fun row => row.revoked = false ∧ row.expiresAt > now)

def extend (key : String) (now expiresAt : Int) (database : Database) : Database × Bool :=
  match database.activeRow key now with
  | none => (database, false)
  | some row =>
    ({ database with sessions := database.sessions.insert key { row with expiresAt := expiresAt } }, true)

def isActive (key : String) (now : Int) (database : Database) : Database × Bool :=
  (database, (database.activeRow key now).isSome)

def revoke (key : String) (database : Database) : Database × Unit :=
  match (lookup database.sessions key).filter (fun row => row.revoked = false) with
  | none => (database, ())
  | some row =>
    ({ database with sessions := database.sessions.insert key { row with revoked := true } }, ())

end Database

def onDatabase {A : Type} (f : Database → Database × A) : Procedure Shared A :=
  atomic fun shared => ({ shared with database := (f shared.database).1 }, (f shared.database).2)

def onFailures {A : Type} (f : Std.ExtTreeMap String FailureState → Std.ExtTreeMap String FailureState × A) :
    Procedure Shared A :=
  atomic fun shared => ({ shared with failures := (f shared.failures).1 }, (f shared.failures).2)

deriving instance DecidableEq for LoginResult

inductive Answer where
  | registered (accepted : Bool) (reason : Option String)
  | loggedIn (result : LoginResult)
  | loggedOut
  | opened (login : Except String (Int × Bytes × Int))
  | keptAlive (expiresAtUnix : Except String Int)
  | validated (active : Bool)
  deriving DecidableEq

inductive Request where
  | register (username password salt : String)
  | login (username password : String) (current : Instant) (randomKey : String)
  | logout (sessionKey : String)
  | loginWithChallenge (challenge : Bytes) (now : Int) (sessionKey : Bytes)
  | keepAlive (sessionKey : Bytes) (now : Int)
  | validateSession (sessionKey : Bytes) (now : Int)
  deriving DecidableEq

section
variable (sql : Sql) (policy : LoginLockoutPolicy)

def register (username password salt : String) : Procedure Shared (Except String Answer) := do
  match ← onDatabase (Database.existsRow username) with
  | true => return .ok (.registered false (some "duplicate_username"))
  | false => match ← onDatabase (Database.insertUser username (sql.crypt password salt)) with
    | .error e => return .error e
    | .ok () => return .ok (.registered true none)

def recordFailure (username : String) (current : Instant) : Procedure Shared (Except String Unit) := do
  let previous ← onFailures fun failures => (failures, lookup failures username)
  match PlayerAuthenticationService.failed { lockoutPolicy := policy } previous current with
  | .error e => return .error e
  | .ok updated => do
    onFailures fun failures => (failures.insert username updated, ())
    return .ok ()

-- The failure that was recorded is read back, and may be gone again by then.
def refuse (username : String) (current : Instant) : Procedure Shared (Except String Answer) := do
  match ← recordFailure policy username current with
  | .error e => return .error e
  | .ok () => match ← onFailures fun failures => (failures, lookup failures username) with
    | none => return .error ("Key " ++ username ++ " is missing in the map.")
    | some updated =>
      let later := updated.lockedUntil.val > current.val
      return .ok (.loggedIn
        { accepted := false
          reason := some (if later then "locked_out" else "invalid_credentials")
          lockedUntil := if later then some updated.lockedUntil else none })

def issueChallenge (username : String) (user : StoredUser) (current : Instant) (randomKey : String) :
    Procedure Shared (Except String Answer) := do
  onFailures fun failures => (failures.erase username, ())
  match plusSeconds current 120 with
  | .error e => return .error e
  | .ok expiresAt =>
    match ← onDatabase (Database.insertChallenge randomKey user.userId (sql.column expiresAt)) with
    | .error e => return .error e
    | .ok () => return .ok (.loggedIn { accepted := true, challengeKey := some randomKey })

def login (username password : String) (current : Instant) (randomKey : String) :
    Procedure Shared (Except String Answer) := do
  let lockedOut ← onFailures fun failures =>
    (failures, PlayerAuthenticationService.lockedOut ⟨policy, failures, []⟩ username current)
  match lockedOut with
  | some lockedUntil =>
    return .ok (.loggedIn
      { accepted := false, reason := some "locked_out", lockedUntil := some lockedUntil })
  | none =>
    let stored ← onDatabase (Database.find username)
    match stored.filter (fun user => sql.crypt password user.passwordHash = user.passwordHash) with
    | none => refuse policy username current
    | some user => issueChallenge sql username user current randomKey

def logout (sessionKey : String) : Procedure Shared (Except String Answer) := do
  onDatabase (Database.revoke sessionKey)
  return .ok .loggedOut

def claim (challenge : Bytes) (now : Int) : Procedure Shared (Except String (Option Int)) :=
  if challenge = [] then return .ok none
  else match sql.text challenge with
    | .error e => return .error e
    | .ok key => do return .ok (← onDatabase (Database.claim key (sql.timestamp now)))

def create (userId : Int) (sessionKey : Bytes) (expiresAtUnix : Int) : Procedure Shared (Except String Unit) :=
  match sql.text sessionKey with
  | .error e => return .error e
  | .ok key => onDatabase (Database.insertSession key userId (sql.timestamp expiresAtUnix))

def loginWithChallenge (challenge : Bytes) (now : Int) (sessionKey : Bytes) :
    Procedure Shared (Except String Answer) := do
  match ← claim sql challenge now with
  | .error e => return .error e
  | .ok none => return .ok (.opened (.error "invalid_challenge"))
  | .ok (some userId) => match ← create sql userId sessionKey (now + sessionTtlSeconds) with
    | .error e => return .error e
    | .ok () => return .ok (.opened (.ok (userId, sessionKey, now + sessionTtlSeconds)))

def keepAlive (sessionKey : Bytes) (now : Int) : Procedure Shared (Except String Answer) :=
  match sql.text sessionKey with
  | .error e => return .error e
  | .ok key => do
    match ← onDatabase (Database.extend key (sql.timestamp now) (sql.timestamp (now + sessionTtlSeconds))) with
    | false => return .ok (.keptAlive (.error "invalid_session"))
    | true => return .ok (.keptAlive (.ok (now + sessionTtlSeconds)))

def validateSession (sessionKey : Bytes) (now : Int) : Procedure Shared (Except String Answer) :=
  match sql.text sessionKey with
  | .error e => return .error e
  | .ok key => do return .ok (.validated (← onDatabase (Database.isActive key (sql.timestamp now))))

def serve : Request → Procedure Shared (Except String Answer)
  | .register username password salt => register sql username password salt
  | .login username password current randomKey => login sql policy username password current randomKey
  | .logout sessionKey => logout sessionKey
  | .loginWithChallenge challenge now sessionKey => loginWithChallenge sql challenge now sessionKey
  | .keepAlive sessionKey now => keepAlive sql sessionKey now
  | .validateSession sessionKey now => validateSession sql sessionKey now

section
variable {A B : Type}

@[simp] theorem databaseAlone (f : Database → Database × A) (shared : Shared) :
    (onDatabase f).alone shared =
      ({ shared with database := (f shared.database).1 }, (f shared.database).2) := rfl

@[simp] theorem failuresAlone
    (f : Std.ExtTreeMap String FailureState → Std.ExtTreeMap String FailureState × A) (shared : Shared) :
    (onFailures f).alone shared =
      ({ shared with failures := (f shared.failures).1 }, (f shared.failures).2) := rfl

end

def isPassword (password passwordHash : String) : Bool := sql.crypt password passwordHash = passwordHash

def stored (challenges : List IssuedChallenge) (database : Database) : Database :=
  challenges.foldl (fun database challenge => { database with
    challenges := database.challenges.insert challenge.key
      { userId := challenge.userId, expiresAt := sql.column challenge.expiresAt } }) database

theorem findStored {database : Database} {username : String} {user : StoredUser}
    (found : (database.find username).2 = some user) :
    user ∈ database.users ∧ user.username = username :=
  ⟨List.mem_of_find?_eq_some found, by simpa using List.find?_some found⟩

theorem hasStored {database : Database} {user : StoredUser} (there : user ∈ database.users) :
    database.hasUser user.userId = true :=
  List.any_eq_true.mpr ⟨user, there, decide_eq_true rfl⟩

theorem refuseAlone (username : String) (current : Instant) (shared : Shared) :
    (refuse policy username current).alone shared =
      match PlayerAuthenticationService.failed ⟨policy, shared.failures, []⟩
        (lookup shared.failures username) current with
      | .error e => (shared, .error e)
      | .ok updated =>
        ({ shared with failures := shared.failures.insert username updated }, .ok (.loggedIn
          { accepted := false
            reason := some (if updated.lockedUntil.val > current.val then "locked_out"
              else "invalid_credentials")
            lockedUntil := if updated.lockedUntil.val > current.val then some updated.lockedUntil
              else none })) := by
  have same : PlayerAuthenticationService.failed ⟨policy, shared.failures, []⟩ =
      PlayerAuthenticationService.failed { lockoutPolicy := policy } := rfl
  unfold refuse recordFailure
  rw [same]
  simp only [aloneBind, failuresAlone]
  cases PlayerAuthenticationService.failed { lockoutPolicy := policy } (lookup shared.failures username)
      current with
  | error e => rfl
  | ok updated => simp only [aloneBind, failuresAlone, alonePure, lookupInsert, Function.update_self]

theorem issueAlone (username : String) {user : StoredUser} (current : Instant) {randomKey : String}
    {shared : Shared} (known : user ∈ shared.database.users)
    (fresh : lookup shared.database.challenges randomKey = none) :
    (issueChallenge sql username user current randomKey).alone shared =
      match plusSeconds current 120 with
      | .error e => ({ shared with failures := shared.failures.erase username }, .error e)
      | .ok expiresAt =>
        (⟨stored sql [⟨user.userId, randomKey, expiresAt⟩] shared.database,
            shared.failures.erase username⟩,
          .ok (.loggedIn { accepted := true, challengeKey := some randomKey })) := by
  unfold issueChallenge
  simp only [aloneBind, failuresAlone]
  cases plusSeconds current 120 with
  | error e => rfl
  | ok expiresAt =>
    have inserted : shared.database.insertChallenge randomKey user.userId (sql.column expiresAt) =
        (stored sql [⟨user.userId, randomKey, expiresAt⟩] shared.database, .ok ()) := by
      unfold Database.insertChallenge
      rw [fresh, hasStored known]
      rfl
    simp only [aloneBind, databaseAlone, inserted, alonePure]

-- With nobody else around a login is that of the service taken by itself, and its
-- challenges are the rows that are new.
theorem loginAlone (username password : String) (current : Instant) {randomKey : String} {shared : Shared}
    (fresh : lookup shared.database.challenges randomKey = none) :
    let served := PlayerAuthenticationService.login (isPassword sql) ⟨policy, shared.failures, []⟩
      ⟨username, password, .ok (shared.database.find username).2, current, randomKey⟩
    (login sql policy username password current randomKey).alone shared =
      (⟨stored sql served.1.challenges shared.database, served.1.failures⟩,
        served.2.map Answer.loggedIn) := by
  dsimp only
  unfold login PlayerAuthenticationService.login
  simp only [aloneBind, failuresAlone]
  cases PlayerAuthenticationService.lockedOut ⟨policy, shared.failures, []⟩ username current with
  | some lockedUntil => rfl
  | none =>
    simp only [aloneBind, databaseAlone]
    unfold isPassword
    cases checked : (shared.database.find username).2.filter
        (fun user => sql.crypt password user.passwordHash = user.passwordHash) with
    | none =>
      refine (refuseAlone policy username current shared).trans ?_
      dsimp only
      cases PlayerAuthenticationService.failed ⟨policy, shared.failures, []⟩
        (lookup shared.failures username) current <;> rfl
    | some user =>
      obtain ⟨found, -⟩ := Option.filter_eq_some_iff.mp checked
      refine (issueAlone sql username current (findStored found).1 fresh).trans ?_
      dsimp only
      cases plusSeconds current 120 <;> rfl

section
variable {κ : Type} (nowUnixSeconds : κ → κ × Int) (issue : κ → κ × Bytes)

-- The stores as the dispatcher has them, which knows of no exceptions.
def postgresPorts : ChallengePorts (Shared × κ) where
  nowUnixSeconds state := ((state.1, (nowUnixSeconds state.2).1), (nowUnixSeconds state.2).2)
  claim state challenge now :=
    let (shared, claimed) := (claim sql challenge now).alone state.1
    ((shared, state.2), claimed.toOption.join)
  issue state := ((state.1, (issue state.2).1), (issue state.2).2)
  create state userId sessionKey expiresAtUnix :=
    (((create sql userId sessionKey expiresAtUnix).alone state.1).1, state.2)

theorem challengeAlone {shared after : Shared} {world : κ} {challenge : Bytes}
    {answer : Except String (Int × Bytes × Int)}
    (ends : (loginWithChallenge sql challenge (nowUnixSeconds world).2
      (issue (nowUnixSeconds world).1).2).alone shared = (after, .ok (.opened answer))) :
    let dispatched := CommandDispatch.loginWithChallenge (postgresPorts sql nowUnixSeconds issue)
      (shared, world) challenge
    dispatched.1.1 = after ∧ dispatched.2 = answer.map (fun opened => (opened.1, opened.2.1)) := by
  unfold loginWithChallenge at ends
  unfold CommandDispatch.loginWithChallenge postgresPorts
  simp only [aloneBind] at ends ⊢
  generalize (claim sql challenge (nowUnixSeconds world).2).alone shared = claimed at ends ⊢
  obtain ⟨between, e | none | userId⟩ := claimed
  · simp only [alonePure, Prod.mk.injEq, reduceCtorEq, and_false] at ends
  · simp only [alonePure, Prod.mk.injEq, Except.ok.injEq, Answer.opened.injEq] at ends
    obtain ⟨rfl, rfl⟩ := ends
    exact ⟨rfl, rfl⟩
  · simp only [aloneBind] at ends
    dsimp only [Except.toOption, Option.join_some]
    generalize (create sql userId (issue (nowUnixSeconds world).1).2
      ((nowUnixSeconds world).2 + sessionTtlSeconds)).alone between = created at ends ⊢
    obtain ⟨last, e | done⟩ := created
    · simp only [alonePure, Prod.mk.injEq, reduceCtorEq, and_false] at ends
    · simp only [alonePure, Prod.mk.injEq, Except.ok.injEq, Answer.opened.injEq] at ends
      obtain ⟨rfl, rfl⟩ := ends
      exact ⟨rfl, rfl⟩

end

end

end SeedOrigin.Accounts
