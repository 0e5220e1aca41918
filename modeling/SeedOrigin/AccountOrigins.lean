import SeedOrigin.AccountHistory

/-! Where the sessions of the players come from, over every interleaving of the
requests to the authentication service and to the game servers. -/
namespace SeedOrigin.AccountOrigins
open SeedOrigin.Octets SeedOrigin.Maps SeedOrigin.Runs SeedOrigin.Lockouts SeedOrigin.Interleaving
open SeedOrigin.CommandDispatch SeedOrigin.Accounts SeedOrigin.AccountHistory Contract

abbrev Services := System Request Shared (Except String Answer)

def after (sql : Sql) (policy : LoginLockoutPolicy) (start : Shared) (turns : List (Turn Request)) : Services :=
  run (System.step (serve sql policy)) { shared := start } turns

def Requested (system : Services) (step : Entry Shared) (request : Request) : Prop :=
  ∃ task, system.tasks[step.task]? = some task ∧ task.request = request

def AnsweredWith (system : Services) (k : Nat) (request : Request) (result : Except String Answer) : Prop :=
  (system.tasks[k]?).map (fun task => (task.request, task.rest.result)) = some (request, some result)

instance (system k request result) : Decidable (AnsweredWith system k request result) := by
  unfold AnsweredWith
  infer_instance

theorem answeredTask {system : Services} {k : Nat} {request : Request} {result : Except String Answer}
    (answered : AnsweredWith system k request result) :
    ∃ task, system.tasks[k]? = some task ∧ task.request = request ∧ task.rest = .done result := by
  obtain ⟨task, found, same⟩ := Option.map_eq_some_iff.mp answered
  obtain ⟨is, done⟩ := Prod.mk.inj same
  exact ⟨task, found, is, resultDone done⟩

theorem afterConsistent (sql : Sql) (policy : LoginLockoutPolicy) (start : Shared)
    (turns : List (Turn Request)) : Consistent (history sql) start (after sql policy start turns) :=
  consistentRun (honoured sql policy start) turns

theorem afterAppend (sql : Sql) (policy : LoginLockoutPolicy) (start : Shared)
    (turns more : List (Turn Request)) : after sql policy start (turns ++ more) =
      run (System.step (serve sql policy)) (after sql policy start turns) more := runAppend _ _ _ _

def stepsSince (earlier later : Services) : List (Entry Shared) := later.log.drop earlier.log.length

theorem logSince (sql : Sql) (policy : LoginLockoutPolicy) (start : Shared) (turns more : List (Turn Request)) :
    (after sql policy start (turns ++ more)).log = (after sql policy start turns).log ++
      stepsSince (after sql policy start turns) (after sql policy start (turns ++ more)) := by
  have grows := (runContinues (serve sql policy) (after sql policy start turns) more).log
  rw [← afterAppend] at grows
  obtain ⟨steps, split⟩ := grows
  rw [stepsSince, ← split, List.drop_left]

-- A session that goes back to a password: the login that the challenge was issued
-- to, the claim of the challenge and, for the same request, the session.
structure Origin (sql : Sql) (system : Services) (token : String) (session : PlayerSession) where
  front : List (Entry Shared)
  issue : Entry Shared
  middle : List (Entry Shared)
  claim : Entry Shared
  between : List (Entry Shared)
  create : Entry Shared
  back : List (Entry Shared)
  order : system.log = front ++ issue :: middle ++ claim :: between ++ create :: back
  username : String
  password : String
  current : Instant
  key : String
  user : StoredUser
  expiresAt : Instant
  loggedIn : Requested system issue (.login username password current key)
  known : user ∈ issue.before.database.users
  named : user.username = username
  fits : isPassword sql password user.passwordHash = true
  window : plusSeconds current 120 = .ok expiresAt
  issues : Issues key user.userId (sql.column expiresAt) issue.before.database issue.after.database
  accepted : AnsweredWith system issue.task (.login username password current key)
    (.ok (.loggedIn { accepted := true, challengeKey := some key }))
  challenge : Bytes
  now : Int
  sessionKey : Bytes
  entered : Requested system claim (.loginWithChallenge challenge now sessionKey)
  presented : sql.text challenge = .ok key
  claims : Claims key (sql.timestamp now) ⟨user.userId, sql.column expiresAt, none⟩ claim.before.database
    claim.after.database
  same : create.task = claim.task
  told : sql.text sessionKey = .ok token
  creates : Creates token user.userId (sql.timestamp (now + sessionTtlSeconds)) create.before.database
    create.after.database
  owner : session.userId = user.userId

theorem newFound {β : Type} {entries : Std.ExtTreeMap String β} {k j : String} {v w : β}
    (none : lookup entries j = none) (found : lookup (entries.insert k v) j = some w) : j = k ∧ w = v := by
  obtain new | old := insertedFound found
  · exact new
  · rw [none] at old
    contradiction

section
variable {sql : Sql} {q : Request} {own : List (Shared × Shared)} {before after : Shared}

theorem sessionMade (change : Change sql q own before after) {token : String} {row : PlayerSession}
    (none : lookup before.database.sessions token = none)
    (some : lookup after.database.sessions token = some row) :
    ∃ challenge now sessionKey first second key old, q = .loginWithChallenge challenge now sessionKey ∧
      own = [(first, second)] ∧ sql.text challenge = .ok key ∧
      Claims key (sql.timestamp now) old first.database second.database ∧
      sql.text sessionKey = .ok token ∧
      Creates token old.userId (sql.timestamp (now + sessionTtlSeconds)) before.database after.database := by
  have kept (same : after.database.sessions = before.database.sessions) : False := by
    rw [same, none] at some
    contradiction
  cases change with
  | same pending made => exact (kept (by rw [made])).elim
  | drew made => exact (kept (by rw [made])).elim
  | registered registers => exact (kept (by rw [registers.made])).elim
  | issued known named fits expires issues pending => exact (kept (by rw [issues.made])).elim
  | claimed text claims => exact (kept (by rw [claims.made])).elim
  | created text claims named creates =>
    have found := some
    rw [creates.made] at found
    obtain ⟨rfl, -⟩ := newFound none found
    exact ⟨_, _, _, _, _, _, _, rfl, rfl, text, claims, named, creates⟩
  | extended named lengthens =>
    obtain ⟨there, -⟩ := Option.filter_eq_some_iff.mp lengthens.found
    rw [lengthens.made] at some
    obtain ⟨rfl, -⟩ := newFound none some
    rw [none] at there
    contradiction
  | revoked revokes =>
    have there := revokes.found
    rw [revokes.made] at some
    obtain ⟨rfl, -⟩ := newFound none some
    rw [none] at there
    contradiction

theorem challengeMade (change : Change sql q own before after) {key : String} {row : PlayerChallenge}
    (none : lookup before.database.challenges key = none)
    (some : lookup after.database.challenges key = some row) :
    ∃ username password current user expiresAt, q = .login username password current key ∧
      user ∈ before.database.users ∧ user.username = username ∧
      isPassword sql password user.passwordHash = true ∧ plusSeconds current 120 = .ok expiresAt ∧
      Issues key user.userId (sql.column expiresAt) before.database after.database ∧
      row = ⟨user.userId, sql.column expiresAt, .none⟩ := by
  have kept (same : after.database.challenges = before.database.challenges) : False := by
    rw [same, none] at some
    contradiction
  cases change with
  | same pending made => exact (kept (by rw [made])).elim
  | drew made => exact (kept (by rw [made])).elim
  | registered registers => exact (kept (by rw [registers.made])).elim
  | issued known named fits expires issues pending =>
    have found := some
    rw [issues.made] at found
    obtain ⟨rfl, rfl⟩ := newFound none found
    exact ⟨_, _, _, _, _, rfl, known, named, fits, expires, issues, rfl⟩
  | claimed text claims =>
    have there := claims.found
    rw [claims.made] at some
    obtain ⟨rfl, -⟩ := newFound none some
    rw [none] at there
    contradiction
  | created text claims named creates => exact (kept (by rw [creates.made])).elim
  | extended named lengthens => exact (kept (by rw [lengthens.made])).elim
  | revoked revokes => exact (kept (by rw [revokes.made])).elim

end

section
variable {sql : Sql} {start : Shared} {system : Services}
  (consistent : Consistent (history sql) start system)
include consistent

theorem sessionFrom {token : String} {row : PlayerSession}
    (none : lookup start.database.sessions token = none)
    (some : lookup system.shared.database.sessions token = some row) :
    ∃ front claim between create back challenge now sessionKey key old,
      system.log = front ++ claim :: between ++ create :: back ∧ create.task = claim.task ∧
      Requested system claim (.loginWithChallenge challenge now sessionKey) ∧
      sql.text challenge = .ok key ∧
      Claims key (sql.timestamp now) old claim.before.database claim.after.database ∧
      sql.text sessionKey = .ok token ∧
      Creates token old.userId (sql.timestamp (now + sessionTtlSeconds)) create.before.database
        create.after.database ∧ row.userId = old.userId := by
  obtain ⟨before, create, back, task, split, absent, present, found, change⟩ :=
    madeBy consistent (P := fun shared => (lookup shared.database.sessions token).isSome = true)
      (by rw [none]; decide) (by rw [some]; rfl)
  obtain ⟨made, there⟩ := Option.isSome_iff_exists.mp present
  obtain ⟨challenge, now, sessionKey, first, second, key, old, request, own, text, claims, named, creates⟩ :=
    sessionMade change (by simpa using absent) there
  have inside : (first, second) ∈ ownSteps create.task before := by rw [own]; exact List.mem_singleton_self _
  obtain ⟨front, between, rfl⟩ := ownFound inside
  refine ⟨front, ⟨create.task, first, second⟩, between, create, back, challenge, now, sessionKey, key, old,
    split, rfl, ⟨task, found, request⟩, text, claims, named, creates, ?_⟩
  -- the owner of a session never changes
  have up := (reached consistent split).2
  have new : lookup create.after.database.sessions token =
      Option.some ⟨old.userId, sql.timestamp (now + sessionTtlSeconds), false⟩ := by
    rw [creates.made, lookupInsert, Function.update_self]
  obtain ⟨expiresAt, revoked, last, -⟩ := up.sessions token _ new
  rw [some] at last
  rw [Option.some.inj last]

theorem issuedAccepted {k : Nat} {task : Task Request Shared (Except String Answer)}
    (found : system.tasks[k]? = some task) {username password : String} {current : Instant} {key : String}
    (request : task.request = .login username password current key) {userId expiresAt : Int}
    {before after : Shared} (listed : (before, after) ∈ ownSteps k system.log)
    (issues : Issues key userId expiresAt before.database after.database) :
    AnsweredWith system k (.login username password current key)
      (.ok (.loggedIn { accepted := true, challengeKey := some key })) := by
  obtain ⟨own, meets⟩ := consistent.tasks k task found
  rw [← own] at listed
  rw [request] at meets
  have issued : ∃ step ∈ task.own, ∃ userId expiresAt,
      Issues key userId expiresAt step.1.database step.2.database := ⟨_, listed, _, _, issues⟩
  rw [AnsweredWith, found, Option.map_some, request]
  cases rest : task.rest with
  | done result =>
    rw [rest] at meets
    rw [(meets _ ((history sql).refl _)).2 issued]
    rfl
  | statement act next =>
    rw [rest] at meets
    have pending : Pending task.own (.login username password current key) := by
      cases (meets _ ((history sql).refl _)).1 with
      | same pending => exact pending
      | issued known named fits expires issues pending => exact pending
    exact absurd issued (pendingIssues pending)

end

theorem sessionOrigin (sql : Sql) (policy : LoginLockoutPolicy) (start : Shared)
    (turns : List (Turn Request)) {token : String} {session : PlayerSession}
    (unissued : ∀ key, lookup start.database.challenges key = none)
    (unopened : lookup start.database.sessions token = none)
    (found : lookup (after sql policy start turns).shared.database.sessions token = some session) :
    Nonempty (Origin sql (after sql policy start turns) token session) := by
  have consistent := afterConsistent sql policy start turns
  obtain ⟨before, claim, between, create, back, challenge, now, sessionKey, key, old, split, same, entered,
    text, claims, told, creates, owner⟩ := sessionFrom consistent unopened found
  have split' : (after sql policy start turns).log = before ++ claim :: (between ++ create :: back) := by
    rw [split, List.append_assoc]
    rfl
  have path := consistent.path
  rw [split'] at path
  obtain ⟨first, -⟩ := pathSplit path
  obtain ⟨front, issue, middle, rfl, absent, present⟩ :=
    crossing first (P := fun shared => (lookup shared.database.challenges key).isSome = true)
      (by rw [unissued]; decide) (by rw [claims.found]; rfl)
  have here : (after sql policy start turns).log =
      front ++ issue :: (middle ++ claim :: (between ++ create :: back)) := by rw [split']; simp
  obtain ⟨task, issuer, change⟩ := consistent.made _ _ _ here
  obtain ⟨row, there⟩ := Option.isSome_iff_exists.mp present
  obtain ⟨username, password, current, user, expiresAt, request, known, named, fits, window, issues, rfl⟩ :=
    challengeMade change (by simpa using absent) there
  have listed : (issue.before, issue.after) ∈ ownSteps issue.task (after sql policy start turns).log :=
    ownMember (by rw [here]; exact List.mem_append_right _ List.mem_cons_self)
  -- between its issue and its claim the challenge stays as it was issued
  have up := ordered consistent split'
  obtain ⟨claimedAt, later, -⟩ := up.challenges key _ there
  obtain rfl := Option.some.inj (claims.found.symm.trans later)
  obtain rfl : claimedAt = none := claims.unclaimed
  exact
    ⟨{ front, issue, middle, claim, between, create, back
       order := split
       username, password, current, key, user, expiresAt
       loggedIn := ⟨task, issuer, request⟩
       known, named, fits, window, issues
       accepted := issuedAccepted consistent issuer request listed issues
       challenge, now, sessionKey, entered
       presented := text
       claims, same, told, creates, owner }⟩

def plain : Sql where
  text octets := .ok (String.ofList (octets.map (fun octet => Char.ofNat octet.toNat)))
  timestamp seconds := seconds * 10 ^ 6
  column instant := instant.val / 1000
  crypt password _ := "$" ++ password

def threeTries : LoginLockoutPolicy := ⟨3, 15 * 60⟩

def registration : Request := .register "ann" "secret" "salt"

theorem epochInside : Representable 0 := by decide

def passwordLogin : Request := .login "ann" "secret" ⟨0, epochInside⟩ "key"

def entrance : Request := .loginWithChallenge (ascii "key") 60 (ascii "session")

def account : List (Turn Request) :=
  [.arrive registration, .proceed 0, .proceed 0, .arrive passwordLogin, .proceed 1, .proceed 1, .proceed 1,
    .proceed 1]

def visit : List (Turn Request) := account ++ [.arrive entrance, .proceed 2, .proceed 2]

theorem visitOrigin :
    Nonempty (Origin plain (after plain threeTries {} visit) "session" ⟨1, 1860 * 10 ^ 6, false⟩) :=
  sessionOrigin plain threeTries {} visit (fun key => by simp [lookup]) (by decide +kernel)
    (by decide +kernel)

section
variable {sql : Sql} {start : Shared} {system : Services}
  (consistent : Consistent (history sql) start system)
include consistent

theorem claimedOnce {front middle back : List (Entry Shared)} {e x : Entry Shared}
    (split : system.log = front ++ e :: middle ++ x :: back) {key : String} {now then_ : Int}
    {row other : PlayerChallenge} (first : Claims key now row e.before.database e.after.database)
    (second : Claims key then_ other x.before.database x.after.database) : False := by
  have up := ordered consistent split
  have spent : lookup e.after.database.challenges key = some { row with claimedAt := some now } := by
    rw [first.made, lookupInsert, Function.update_self]
  obtain ⟨claimedAt, there, kept⟩ := up.challenges key _ spent
  obtain rfl := Option.some.inj (there.symm.trans second.found)
  obtain rfl : claimedAt = some now := kept (by rintro ⟨⟩)
  exact absurd second.unclaimed (by rintro ⟨⟩)

theorem claimPlace {front front' back back' : List (Entry Shared)} {e x : Entry Shared}
    (here : system.log = front ++ e :: back) (there : system.log = front' ++ x :: back') {key : String}
    {now then_ : Int} {row other : PlayerChallenge}
    (first : Claims key now row e.before.database e.after.database)
    (second : Claims key then_ other x.before.database x.after.database) : front = front' ∧ e = x := by
  obtain ⟨middle, rfl, -⟩ | ⟨same, rfl, -⟩ | ⟨middle, rfl, -⟩ := places (here.symm.trans there)
  · exact (claimedOnce consistent there first second).elim
  · exact ⟨same, rfl⟩
  · exact (claimedOnce consistent here second first).elim

theorem createPlace {front front' back back' : List (Entry Shared)} {create other : Entry Shared}
    (here : system.log = front ++ create :: back) (there : system.log = front' ++ other :: back')
    (task : create.task = other.task) {token token' : String} {owner owner' expiresAt expiresAt' : Int}
    (first : Creates token owner expiresAt create.before.database create.after.database)
    (second : Creates token' owner' expiresAt' other.before.database other.after.database) :
    create = other := by
  have single {front back : List (Entry Shared)} {e : Entry Shared} {token : String} {owner expiresAt : Int}
      (here : system.log = front ++ e :: back)
      (creates : Creates token owner expiresAt e.before.database e.after.database) :
      (ownSteps e.task front).length = 1 := by
    obtain ⟨made, -, change⟩ := consistent.made _ _ _ here
    obtain ⟨_, _, _, _, _, _, _, -, own, -⟩ := sessionMade change creates.fresh
      (by rw [creates.made, lookupInsert, Function.update_self])
    rw [own]
    rfl
  have left := single here first
  have right := single there second
  obtain ⟨middle, rfl, -⟩ | ⟨-, same, -⟩ | ⟨middle, rfl, -⟩ := places (here.symm.trans there)
  · rw [ownAppend, List.length_append, ← task, left, ← List.singleton_append, ownAppend, ownHere] at right
    simp at right
  · exact same
  · rw [ownAppend, List.length_append, task, right, ← List.singleton_append, ownAppend, ownHere] at left
    simp at left

omit consistent in
theorem openedClaims {challenge : Bytes} {now : Int} {sessionKey : Bytes} {own : List (Shared × Shared)}
    {result : Except String Answer} (opening : Opening sql challenge now sessionKey result own)
    {opened : Int × Bytes × Int} (accepted : result = .ok (.opened (.ok opened))) :
    ∃ step ∈ own, ∃ key row, sql.text challenge = .ok key ∧
      Claims key (sql.timestamp now) row step.1.database step.2.database := by
  cases opening with
  | opened text claims => exact ⟨_, List.mem_cons_self, _, _, text, claims⟩
  | _ => cases accepted

theorem claimOf {k : Nat} {challenge : Bytes} {now : Int} {sessionKey : Bytes} {opened : Int × Bytes × Int}
    (answered : AnsweredWith system k (.loginWithChallenge challenge now sessionKey)
      (.ok (.opened (.ok opened)))) : ∃ front back before after key row,
      system.log = front ++ ⟨k, before, after⟩ :: back ∧ sql.text challenge = .ok key ∧
      Claims key (sql.timestamp now) row before.database after.database := by
  obtain ⟨task, found, request, done⟩ := answeredTask answered
  obtain ⟨own, meets⟩ := consistent.tasks k task found
  rw [done, request] at meets
  obtain ⟨step, listed, key, row, text, claims⟩ := openedClaims (meets _ ((history sql).refl _)) rfl
  rw [own] at listed
  obtain ⟨front, back, split⟩ := ownFound listed
  exact ⟨front, back, step.1, step.2, key, row, split, text, claims⟩

end

theorem challengeOnce (sql : Sql) (policy : LoginLockoutPolicy) (start : Shared)
    (turns : List (Turn Request)) :
    (∀ token token' session session' (first : Origin sql (after sql policy start turns) token session)
      (second : Origin sql (after sql policy start turns) token' session'),
      first.key = second.key → token = token') ∧
    ∀ i j challenge challenge' now now' sessionKey sessionKey' opened opened',
      sql.text challenge = sql.text challenge' →
      AnsweredWith (after sql policy start turns) i (.loginWithChallenge challenge now sessionKey)
        (.ok (.opened (.ok opened))) →
      AnsweredWith (after sql policy start turns) j (.loginWithChallenge challenge' now' sessionKey')
        (.ok (.opened (.ok opened'))) → i = j := by
  have consistent := afterConsistent sql policy start turns
  refine ⟨fun token token' session session' first second same => ?_, ?_⟩
  · have here := first.order
    have there := second.order
    rw [List.append_assoc] at here there
    have claims := first.claims
    rw [same] at claims
    obtain ⟨-, claim⟩ := claimPlace consistent here there claims second.claims
    have task : first.create.task = second.create.task := by rw [first.same, second.same, claim]
    have create := createPlace consistent first.order second.order task first.creates second.creates
    have made := second.creates.made
    rw [← create, first.creates.made] at made
    by_contra other
    have fresh := first.creates.fresh
    have found := congrArg (fun database => lookup database.sessions token) made
    rw [create] at found fresh
    dsimp only at found
    rw [lookupInsert, lookupInsert, Function.update_self, Function.update_of_ne other, fresh] at found
    contradiction
  · intro i j challenge challenge' now now' sessionKey sessionKey' opened opened' same first second
    obtain ⟨front, back, before, between, key, row, here, text, claims⟩ := claimOf consistent first
    obtain ⟨front', back', before', between', key', row', there, text', claims'⟩ := claimOf consistent second
    obtain rfl : key = key' := Except.ok.inj (text.symm.trans (same.trans text'))
    obtain ⟨-, step⟩ := claimPlace consistent here there claims claims'
    exact congrArg Entry.task step

end SeedOrigin.AccountOrigins
