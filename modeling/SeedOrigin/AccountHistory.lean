import SeedOrigin.Accounts

/-! What the statements of each request may do to the tables, whatever the others do
between them, and the order that the tables move up in. -/
namespace SeedOrigin.AccountHistory
open SeedOrigin.Octets SeedOrigin.Maps SeedOrigin.Lockouts SeedOrigin.Interleaving
open SeedOrigin.CommandDispatch SeedOrigin.Accounts Contract

structure Sound (database : Database) : Prop where
  names : (database.users.map StoredUser.username).Nodup
  ids : (database.users.map StoredUser.userId).Nodup
  drawn : ∀ user ∈ database.users, user.userId < database.nextUserId
  challenged : ∀ key row, lookup database.challenges key = some row → database.hasUser row.userId = true
  seated : ∀ token row, lookup database.sessions token = some row → database.hasUser row.userId = true

structure Later (before after : Database) : Prop where
  users : before.users <+: after.users
  challenges : ∀ key row, lookup before.challenges key = some row → ∃ claimedAt,
    lookup after.challenges key = some { row with claimedAt } ∧
      (row.claimedAt ≠ none → claimedAt = row.claimedAt)
  sessions : ∀ key row, lookup before.sessions key = some row → ∃ expiresAt revoked,
    lookup after.sessions key = some ⟨row.userId, expiresAt, revoked⟩ ∧
      (row.revoked = true → revoked = true)
  sound : Sound before → Sound after

structure Registers (username passwordHash : String) (before after : Database) : Prop where
  free : ∀ user ∈ before.users, user.username ≠ username
  made : after = { before with
    users := before.users ++ [⟨before.nextUserId, username, passwordHash⟩]
    nextUserId := before.nextUserId + 1 }

structure Issues (key : String) (userId expiresAt : Int) (before after : Database) : Prop where
  fresh : lookup before.challenges key = none
  known : before.hasUser userId = true
  made : after = { before with challenges := before.challenges.insert key { userId, expiresAt } }

structure Claims (key : String) (now : Int) (row : PlayerChallenge) (before after : Database) : Prop where
  found : lookup before.challenges key = some row
  unclaimed : row.claimedAt = none
  inTime : now < row.expiresAt
  made : after = { before with
    challenges := before.challenges.insert key { row with claimedAt := some now } }

structure Creates (key : String) (userId expiresAt : Int) (before after : Database) : Prop where
  fresh : lookup before.sessions key = none
  known : before.hasUser userId = true
  made : after = { before with sessions := before.sessions.insert key { userId, expiresAt } }

structure Extends (key : String) (now expiresAt : Int) (row : PlayerSession) (before after : Database) :
    Prop where
  found : before.activeRow key now = some row
  made : after = { before with sessions := before.sessions.insert key { row with expiresAt } }

structure Revokes (key : String) (row : PlayerSession) (before after : Database) : Prop where
  found : lookup before.sessions key = some row
  running : row.revoked = false
  made : after = { before with sessions := before.sessions.insert key { row with revoked := true } }

-- A login makes no statement after the one that stored its challenge.
def Pending (own : List (Shared × Shared)) : Request → Prop
  | .login _ _ _ _ => ∀ step ∈ own, step.2.database.challenges = step.1.database.challenges
  | _ => True

inductive Change (sql : Sql) : Request → List (Shared × Shared) → Shared → Shared → Prop where
  | same {q own before after} (pending : Pending own q) (kept : after.database = before.database) :
      Change sql q own before after
  | drew {username password salt own before after}
      (made : after.database = { before.database with nextUserId := before.database.nextUserId + 1 }) :
      Change sql (.register username password salt) own before after
  | registered {username password salt own before after}
      (registers : Registers username (sql.crypt password salt) before.database after.database) :
      Change sql (.register username password salt) own before after
  | issued {username password current key own before after} {user : StoredUser} {expiresAt : Instant}
      (known : user ∈ before.database.users) (named : user.username = username)
      (fits : isPassword sql password user.passwordHash = true)
      (expires : plusSeconds current 120 = .ok expiresAt)
      (issues : Issues key user.userId (sql.column expiresAt) before.database after.database)
      (pending : Pending own (.login username password current key)) :
      Change sql (.login username password current key) own before after
  | claimed {challenge now sessionKey own before after} {key : String} {row : PlayerChallenge}
      (text : sql.text challenge = .ok key)
      (claims : Claims key (sql.timestamp now) row before.database after.database) :
      Change sql (.loginWithChallenge challenge now sessionKey) own before after
  | created {challenge now sessionKey before after} {first second : Shared} {key token : String}
      {row : PlayerChallenge} (text : sql.text challenge = .ok key)
      (claims : Claims key (sql.timestamp now) row first.database second.database)
      (named : sql.text sessionKey = .ok token)
      (creates : Creates token row.userId (sql.timestamp (now + sessionTtlSeconds)) before.database
        after.database) :
      Change sql (.loginWithChallenge challenge now sessionKey) [(first, second)] before after
  | extended {sessionKey now own before after} {token : String} {row : PlayerSession}
      (named : sql.text sessionKey = .ok token)
      (lengthens : Extends token (sql.timestamp now) (sql.timestamp (now + sessionTtlSeconds)) row
        before.database after.database) :
      Change sql (.keepAlive sessionKey now) own before after
  | revoked {token own before after} {row : PlayerSession}
      (revokes : Revokes token row before.database after.database) :
      Change sql (.logout token) own before after

theorem laterRefl (database : Database) : Later database database where
  users := List.prefix_refl _
  challenges _ row found := ⟨row.claimedAt, found, fun _ => rfl⟩
  sessions _ row found := ⟨row.expiresAt, row.revoked, found, id⟩
  sound := id

theorem laterTrans {first second third : Database} (left : Later first second) (right : Later second third) :
    Later first third where
  users := left.users.trans right.users
  challenges key row found := by
    obtain ⟨claimedAt, there, kept⟩ := left.challenges key row found
    obtain ⟨claimed, after, still⟩ := right.challenges key _ there
    refine ⟨claimed, after, fun spent => ?_⟩
    have same := kept spent
    rw [still (by rw [same]; exact spent), same]
  sessions key row found := by
    obtain ⟨expiresAt, revoked, there, kept⟩ := left.sessions key row found
    obtain ⟨expires, ended, after, still⟩ := right.sessions key _ there
    exact ⟨expires, ended, after, fun over_ => still (kept over_)⟩
  sound sound := right.sound (left.sound sound)

theorem laterChallenge {before : Database} {key : String} {row : PlayerChallenge}
    (known : Sound before → before.hasUser row.userId = true)
    (up : ∀ old, lookup before.challenges key = some old → ∃ claimedAt, row = { old with claimedAt } ∧
      (old.claimedAt ≠ none → claimedAt = old.claimedAt)) :
    Later before { before with challenges := before.challenges.insert key row } where
  users := List.prefix_refl _
  challenges other old found := by
    dsimp only
    rw [lookupInsert]
    by_cases here : other = key
    · subst here
      obtain ⟨claimedAt, same, kept⟩ := up old found
      exact ⟨claimedAt, by rw [Function.update_self, same], kept⟩
    · rw [Function.update_of_ne here]
      exact ⟨old.claimedAt, found, fun _ => rfl⟩
  sessions _ old found := ⟨old.expiresAt, old.revoked, found, id⟩
  sound sound := by
    refine ⟨sound.names, sound.ids, sound.drawn, fun other old found => ?_, sound.seated⟩
    obtain ⟨-, rfl⟩ | found := insertedFound found
    · exact known sound
    · exact sound.challenged other old found

theorem laterSession {before : Database} {key : String} {row : PlayerSession}
    (known : Sound before → before.hasUser row.userId = true)
    (up : ∀ old, lookup before.sessions key = some old → row.userId = old.userId ∧
      (old.revoked = true → row.revoked = true)) :
    Later before { before with sessions := before.sessions.insert key row } where
  users := List.prefix_refl _
  challenges _ old found := ⟨old.claimedAt, found, fun _ => rfl⟩
  sessions other old found := by
    dsimp only
    rw [lookupInsert]
    by_cases here : other = key
    · subst here
      obtain ⟨same, kept⟩ := up old found
      exact ⟨row.expiresAt, row.revoked, by rw [Function.update_self, ← same], kept⟩
    · rw [Function.update_of_ne here]
      exact ⟨old.expiresAt, old.revoked, found, id⟩
  sound sound := by
    refine ⟨sound.names, sound.ids, sound.drawn, sound.challenged, fun other old found => ?_⟩
    obtain ⟨-, rfl⟩ | found := insertedFound found
    · exact known sound
    · exact sound.seated other old found

theorem userLater {before after : Database} (later : before.users <+: after.users) {userId : Int}
    (known : before.hasUser userId = true) : after.hasUser userId = true := by
  obtain ⟨user, there, same⟩ := List.any_eq_true.mp known
  exact List.any_eq_true.mpr ⟨user, later.subset there, same⟩

theorem soundRegisters {before after : Database} {username passwordHash : String}
    (registers : Registers username passwordHash before after) (sound : Sound before) : Sound after := by
  obtain ⟨free, rfl⟩ := registers
  have more : before.users <+: before.users ++ [⟨before.nextUserId, username, passwordHash⟩] :=
    List.prefix_append _ _
  refine ⟨?_, ?_, ?_, fun key row found => userLater more (sound.challenged key row found),
    fun key row found => userLater more (sound.seated key row found)⟩
  · rw [List.map_append, List.nodup_append]
    refine ⟨sound.names, List.nodup_singleton _, fun name old other new => ?_⟩
    obtain ⟨user, there, rfl⟩ := List.mem_map.mp old
    rw [List.mem_singleton.mp new]
    exact free user there
  · rw [List.map_append, List.nodup_append]
    refine ⟨sound.ids, List.nodup_singleton _, fun id old other new => ?_⟩
    obtain ⟨user, there, rfl⟩ := List.mem_map.mp old
    rw [List.mem_singleton.mp new]
    exact Int.ne_of_lt (sound.drawn user there)
  · intro user there
    obtain old | new := List.mem_append.mp there
    · exact Int.lt_trans (sound.drawn user old) (Int.lt_succ _)
    · rw [List.mem_singleton.mp new]
      exact Int.lt_succ _

theorem changeLater {sql : Sql} {q : Request} {own : List (Shared × Shared)} {before after : Shared}
    (change : Change sql q own before after) : Later before.database after.database := by
  cases change with
  | same pending kept =>
    rw [kept]
    exact laterRefl _
  | drew made =>
    rw [made]
    exact ⟨List.prefix_refl _, (laterRefl _).challenges, (laterRefl _).sessions,
      fun sound => ⟨sound.names, sound.ids,
        fun user there => Int.lt_trans (sound.drawn user there) (Int.lt_succ _), sound.challenged,
        sound.seated⟩⟩
  | registered registers =>
    refine ⟨?_, ?_, ?_, soundRegisters registers⟩ <;> rw [registers.made]
    · exact List.prefix_append _ _
    · exact (laterRefl _).challenges
    · exact (laterRefl _).sessions
  | issued known named fits expires issues =>
    rw [issues.made]
    refine laterChallenge (fun _ => issues.known) fun old found => ?_
    rw [issues.fresh] at found
    contradiction
  | claimed text claims =>
    rw [claims.made]
    have owner (sound : Sound before.database) := sound.challenged _ _ claims.found
    refine laterChallenge owner fun old found => ?_
    obtain rfl := Option.some.inj (claims.found.symm.trans found)
    exact ⟨_, rfl, fun spent => absurd claims.unclaimed spent⟩
  | created text claims named creates =>
    rw [creates.made]
    refine laterSession (fun _ => creates.known) fun old found => ?_
    rw [creates.fresh] at found
    contradiction
  | extended named lengthens =>
    rw [lengthens.made]
    obtain ⟨there, -⟩ := Option.filter_eq_some_iff.mp lengthens.found
    have owner (sound : Sound before.database) := sound.seated _ _ there
    refine laterSession owner fun old found => ?_
    obtain rfl := Option.some.inj (there.symm.trans found)
    exact ⟨rfl, id⟩
  | revoked revokes =>
    rw [revokes.made]
    have owner (sound : Sound before.database) := sound.seated _ _ revokes.found
    refine laterSession owner fun old found => ?_
    obtain rfl := Option.some.inj (revokes.found.symm.trans found)
    exact ⟨rfl, fun _ => rfl⟩

inductive Opening (sql : Sql) (challenge : Bytes) (now : Int) (sessionKey : Bytes) :
    Except String Answer → List (Shared × Shared) → Prop where
  | empty (none : challenge = []) :
      Opening sql challenge now sessionKey (.ok (.opened (.error "invalid_challenge"))) []
  | untold {e} (refused : sql.text challenge = .error e) :
      Opening sql challenge now sessionKey (.error e) []
  | invalid {key first second} (text : sql.text challenge = .ok key)
      (none : ∀ row, lookup first.database.challenges key = some row →
        row.claimedAt ≠ .none ∨ row.expiresAt ≤ sql.timestamp now) :
      Opening sql challenge now sessionKey (.ok (.opened (.error "invalid_challenge"))) [(first, second)]
  | unnamed {key row first second e} (text : sql.text challenge = .ok key)
      (claims : Claims key (sql.timestamp now) row first.database second.database)
      (refused : sql.text sessionKey = .error e) :
      Opening sql challenge now sessionKey (.error e) [(first, second)]
  | collided {key row first second token third fourth e} (text : sql.text challenge = .ok key)
      (claims : Claims key (sql.timestamp now) row first.database second.database)
      (named : sql.text sessionKey = .ok token)
      (there : (lookup third.database.sessions token).isSome = true ∨
        third.database.hasUser row.userId = false) :
      Opening sql challenge now sessionKey (.error e) [(first, second), (third, fourth)]
  | opened {key row first second token third fourth} (text : sql.text challenge = .ok key)
      (claims : Claims key (sql.timestamp now) row first.database second.database)
      (named : sql.text sessionKey = .ok token)
      (creates : Creates token row.userId (sql.timestamp (now + sessionTtlSeconds)) third.database
        fourth.database) :
      Opening sql challenge now sessionKey
        (.ok (.opened (.ok (row.userId, sessionKey, now + sessionTtlSeconds))))
        [(first, second), (third, fourth)]

def Answered (sql : Sql) (result : Except String Answer) (own : List (Shared × Shared))
    (last : Shared) : Request → Prop
  | .register username password salt =>
    ((∃ reason, result = .ok (.registered true reason)) ↔ ∃ step ∈ own,
      Registers username (sql.crypt password salt) step.1.database step.2.database)
  | .login _ _ _ key => (∀ answer, result = .ok (.loggedIn answer) → answer.accepted = true →
      ∃ step ∈ own, ∃ userId expiresAt, Issues key userId expiresAt step.1.database step.2.database) ∧
    ((∃ step ∈ own, ∃ userId expiresAt, Issues key userId expiresAt step.1.database step.2.database) →
      result = .ok (.loggedIn { accepted := true, challengeKey := some key }))
  | .logout token => ∃ step ∈ own, ∀ old, lookup step.1.database.sessions token = some old →
    ∃ row, lookup last.database.sessions token = some row ∧ row.revoked = true
  | .loginWithChallenge challenge now sessionKey => Opening sql challenge now sessionKey result own
  | .keepAlive _ _ => True
  | .validateSession sessionKey now => ∀ active, result = .ok (.validated active) →
    ∃ step ∈ own, ∃ token, sql.text sessionKey = .ok token ∧
      (active = true ↔ ∃ row, step.1.database.activeRow token (sql.timestamp now) = some row)

def history (sql : Sql) : Contract Request Shared (Except String Answer) where
  later before after := Later before.database after.database
  guarantee := Change sql
  post q result own last := Answered sql result own last q
  refl shared := laterRefl shared.database
  trans := laterTrans
  moves := changeLater

theorem pendingMore {q : Request} {own : List (Shared × Shared)} {before after : Shared}
    (pending : Pending own q) (kept : after.database.challenges = before.database.challenges) :
    Pending (own ++ [(before, after)]) q := by
  cases q with
  | login username password current key =>
    intro step listed
    obtain old | new := List.mem_append.mp listed
    · exact pending step old
    · rw [List.mem_singleton.mp new]
      exact kept
  | _ => trivial

theorem pendingIssues {username password : String} {current : Instant} {key : String}
    {own : List (Shared × Shared)} (pending : Pending own (.login username password current key)) :
    ¬ ∃ step ∈ own, ∃ userId expiresAt, Issues key userId expiresAt step.1.database step.2.database := by
  rintro ⟨step, listed, userId, expiresAt, issues⟩
  have there : lookup step.2.database.challenges key = none := by rw [pending step listed, issues.fresh]
  rw [issues.made, lookupInsert, Function.update_self] at there
  contradiction

section
variable {sql : Sql} {q : Request} {own : List (Shared × Shared)} {shared : Shared} {A : Type}

theorem meetsFailures {post : A → List (Shared × Shared) → Shared → Prop} (pending : Pending own q)
    {f : Std.ExtTreeMap String FailureState → Std.ExtTreeMap String FailureState × A}
    (all : ∀ own last a, Pending own q → Later shared.database last.database → post a own last) :
    (history sql).Meets q post (onFailures f) own shared :=
  meetsAtomic fun _ up => ⟨.same pending rfl,
    fun last more => all _ last _ (pendingMore pending rfl) (laterTrans up more)⟩

theorem meetsRead {post : A → List (Shared × Shared) → Shared → Prop} (pending : Pending own q)
    {read : Database → A}
    (all : ∀ before after last, after.database = before.database → Later before.database last.database →
      post (read before.database) (own ++ [(before, after)]) last) :
    (history sql).Meets q post (onDatabase fun database => (database, read database)) own shared :=
  meetsAtomic fun _ _ => ⟨.same pending rfl, fun last up => all _ _ last rfl up⟩

theorem meetsWrite {post : A → List (Shared × Shared) → Shared → Prop} {f : Database → Database × A}
    (all : ∀ before after, Later shared.database before.database → after.database = (f before.database).1 →
      Change sql q own before after ∧ ∀ last, Later after.database last.database →
        post (f before.database).2 (own ++ [(before, after)]) last) :
    (history sql).Meets q post (onDatabase f) own shared :=
  meetsAtomic fun _ up => all _ _ up rfl

end

def Idle (own : List (Shared × Shared)) : Prop :=
  ∀ step ∈ own, step.2.database.users = step.1.database.users

theorem idleMore {own : List (Shared × Shared)} {before after : Shared} (idle : Idle own)
    (kept : after.database.users = before.database.users) : Idle (own ++ [(before, after)]) := by
  intro step listed
  obtain old | new := List.mem_append.mp listed
  · exact idle step old
  · rw [List.mem_singleton.mp new]
    exact kept

theorem registersMore {username passwordHash : String} {before after : Database}
    (registers : Registers username passwordHash before after) : after.users ≠ before.users := by
  rw [registers.made]
  simp

theorem idleRegisters {username passwordHash : String} {own : List (Shared × Shared)} (idle : Idle own) :
    ¬ ∃ step ∈ own, Registers username passwordHash step.1.database step.2.database := by
  rintro ⟨step, listed, registers⟩
  exact registersMore registers (idle step listed)

theorem insertCases (username passwordHash : String) (database : Database) :
    (∃ e, (database.insertUser username passwordHash).2 = .error e ∧
      ((database.insertUser username passwordHash).1 = database ∨
        (database.insertUser username passwordHash).1 =
          { database with nextUserId := database.nextUserId + 1 })) ∨
    ((database.insertUser username passwordHash).2 = .ok () ∧
      Registers username passwordHash database (database.insertUser username passwordHash).1) := by
  unfold Database.insertUser
  split
  · exact .inl ⟨_, rfl, .inl rfl⟩
  · dsimp only
    split
    · exact .inl ⟨_, rfl, .inr rfl⟩
    · rename_i free
      refine .inr ⟨rfl, fun user there named => free ?_, rfl⟩
      exact List.any_eq_true.mpr ⟨user, there, decide_eq_true named⟩

section
variable (sql : Sql) (policy : LoginLockoutPolicy)

theorem registerMeets (username password salt : String) (shared : Shared) :
    (history sql).Meets (.register username password salt)
      (fun result own last => Answered sql result own last (.register username password salt))
      (register sql username password salt) [] shared := by
  have never {result : Except String Answer} {own : List (Shared × Shared)} {last : Shared}
      (other : ∀ reason, result ≠ .ok (.registered true reason))
      (idle : ¬ ∃ step ∈ own, Registers username (sql.crypt password salt) step.1.database step.2.database) :
      Answered sql result own last (.register username password salt) :=
    ⟨fun ⟨reason, is⟩ => absurd is (other reason), fun steps => absurd steps idle⟩
  refine meetsBind (fun _ own _ => Idle own) (meetsRead (by trivial) fun before after last kept _ => ?_)
    fun found own t idle => ?_
  · exact idleMore (by rintro _ ⟨⟩) (congrArg Database.users kept)
  · cases found with
    | true => exact meetsPure fun last _ => never (by rintro _ ⟨⟩) (idleRegisters idle)
    | false =>
      refine meetsBind (fun inserted own _ => (inserted = .ok () ↔ ∃ step ∈ own,
          Registers username (sql.crypt password salt) step.1.database step.2.database))
        (meetsWrite fun before after _ made => ?_) fun inserted own t exact => ?_
      · obtain ⟨e, failed, none | drew⟩ | ⟨done, registers⟩ :=
          insertCases username (sql.crypt password salt) before.database
        · rw [none] at made
          refine ⟨.same trivial made, fun last _ => ?_⟩
          rw [failed]
          exact iff_of_false (by rintro ⟨⟩) (idleRegisters (idleMore idle (congrArg Database.users made)))
        · rw [drew] at made
          refine ⟨.drew made, fun last _ => ?_⟩
          rw [failed]
          exact iff_of_false (by rintro ⟨⟩) (idleRegisters (idleMore idle (by rw [made])))
        · rw [← made] at registers
          refine ⟨.registered registers, fun last _ => ?_⟩
          exact iff_of_true done ⟨_, List.mem_append_right _ (List.mem_singleton_self _), registers⟩
      · cases inserted with
        | error e => exact meetsPure fun last _ => never (by rintro _ ⟨⟩) (fun steps => by cases exact.mpr steps)
        | ok => exact meetsPure fun last _ => iff_of_true ⟨none, rfl⟩ (exact.mp rfl)

theorem knownLater {before after : Database} {user : StoredUser} (later : Later before after)
    (known : user ∈ before.users) : user ∈ after.users := later.users.subset known

theorem notAccepted {result : Except String Answer} {own : List (Shared × Shared)} {last : Shared}
    {username password : String} {current : Instant} {key : String}
    (pending : Pending own (.login username password current key))
    (refused : ∀ answer, result = .ok (.loggedIn answer) → answer.accepted = false) :
    Answered sql result own last (.login username password current key) := by
  refine ⟨fun answer is accepted => ?_, fun issued => absurd issued (pendingIssues pending)⟩
  rw [refused answer is] at accepted
  contradiction

theorem refuseMeets (username password : String) (current : Instant) (key : String)
    {own : List (Shared × Shared)} (pending : Pending own (.login username password current key))
    (shared : Shared) :
    (history sql).Meets (.login username password current key)
      (fun result own last => Answered sql result own last (.login username password current key))
      (refuse policy username current) own shared := by
  refine meetsBind (fun _ own _ => Pending own (.login username password current key)) ?_
    fun recorded own shared pending => ?_
  · refine meetsBind (fun _ own _ => Pending own (.login username password current key))
      (meetsFailures pending fun _ _ _ still _ => still) fun previous own shared pending => ?_
    cases PlayerAuthenticationService.failed { lockoutPolicy := policy } previous current with
    | error e => exact meetsPure fun _ _ => pending
    | ok updated =>
      exact meetsBind (fun _ own _ => Pending own (.login username password current key))
        (meetsFailures pending fun _ _ _ still _ => still) fun _ _ _ still => meetsPure fun _ _ => still
  · cases recorded with
    | error e => exact meetsPure fun _ _ => notAccepted sql pending (by rintro _ ⟨⟩)
    | ok =>
      refine meetsBind (fun _ own _ => Pending own (.login username password current key))
        (meetsFailures pending fun _ _ _ still _ => still) fun updated own shared pending => ?_
      cases updated with
      | none => exact meetsPure fun _ _ => notAccepted sql pending (by rintro _ ⟨⟩)
      | some updated => exact meetsPure fun _ _ => notAccepted sql pending (by rintro _ ⟨⟩; rfl)

theorem challengeCases (key : String) (userId expiresAt : Int) (database : Database) :
    (∃ e, database.insertChallenge key userId expiresAt = (database, .error e)) ∨
    ((database.insertChallenge key userId expiresAt).2 = .ok () ∧
      Issues key userId expiresAt database (database.insertChallenge key userId expiresAt).1) := by
  unfold Database.insertChallenge
  split
  · exact .inl ⟨_, rfl⟩
  · rename_i fresh
    split
    · exact .inl ⟨_, rfl⟩
    · rename_i known
      exact .inr ⟨rfl, by simpa using fresh, by simpa using known, rfl⟩

theorem issueMeets (username password : String) (current : Instant) (key : String) {user : StoredUser}
    {own : List (Shared × Shared)} {shared : Shared}
    (pending : Pending own (.login username password current key)) (known : user ∈ shared.database.users)
    (named : user.username = username) (fits : isPassword sql password user.passwordHash = true) :
    (history sql).Meets (.login username password current key)
      (fun result own last => Answered sql result own last (.login username password current key))
      (issueChallenge sql username user current key) own shared := by
  refine meetsBind (fun _ own last => Pending own (.login username password current key) ∧
      user ∈ last.database.users)
    (meetsFailures pending fun _ last _ still up => ⟨still, knownLater up known⟩)
    fun _ own shared ⟨pending, known⟩ => ?_
  cases expires : plusSeconds current 120 with
  | error e => exact meetsPure fun _ _ => notAccepted sql pending (by rintro _ ⟨⟩)
  | ok expiresAt =>
    refine meetsBind (fun inserted own _ => (inserted = .ok () ∧ ∃ step ∈ own, ∃ userId expiresAt,
        Issues key userId expiresAt step.1.database step.2.database) ∨
        (∃ e, inserted = .error e) ∧ Pending own (.login username password current key))
      (meetsWrite fun before after up made => ?_) fun inserted own t made => ?_
    · obtain ⟨e, failed⟩ | ⟨done, issues⟩ :=
        challengeCases key user.userId (sql.column expiresAt) before.database
      · rw [failed] at made ⊢
        exact ⟨.same pending made, fun _ _ => .inr ⟨⟨e, rfl⟩, pendingMore pending (by rw [made])⟩⟩
      · rw [← made] at issues
        exact ⟨.issued (knownLater up known) named fits expires issues pending, fun _ _ =>
          .inl ⟨done, _, List.mem_append_right _ (List.mem_singleton_self _), _, _, issues⟩⟩
    · obtain ⟨rfl, issued⟩ | ⟨⟨e, rfl⟩, pending⟩ := made
      · exact meetsPure fun _ _ => ⟨fun _ _ _ => issued, fun _ => rfl⟩
      · exact meetsPure fun _ _ => notAccepted sql pending (by rintro _ ⟨⟩)

theorem loginMeets (username password : String) (current : Instant) (key : String) (shared : Shared) :
    (history sql).Meets (.login username password current key)
      (fun result own last => Answered sql result own last (.login username password current key))
      (login sql policy username password current key) [] shared := by
  refine meetsBind (fun _ own _ => Pending own (.login username password current key))
    (meetsFailures (by rintro _ ⟨⟩) fun _ _ _ still _ => still) fun lockedOut own shared pending => ?_
  cases lockedOut with
  | some lockedUntil => exact meetsPure fun _ _ => notAccepted sql pending (by rintro _ ⟨⟩; rfl)
  | none =>
    refine meetsBind (fun stored own last => Pending own (.login username password current key) ∧
        ∀ user, stored = some user → user ∈ last.database.users ∧ user.username = username)
      (meetsRead pending fun before after last kept up => ⟨pendingMore pending (by rw [kept]),
        fun user found => ?_⟩) fun stored own shared ⟨pending, found⟩ => ?_
    · obtain ⟨there, named⟩ := findStored found
      exact ⟨knownLater up there, named⟩
    · cases checked : stored.filter
          (fun user => sql.crypt password user.passwordHash = user.passwordHash) with
      | none =>
        exact refuseMeets sql policy username password current key pending shared
      | some user =>
        obtain ⟨is, fits⟩ := Option.filter_eq_some_iff.mp checked
        obtain ⟨known, named⟩ := found user is
        exact issueMeets sql username password current key pending known named fits

theorem revokeCases (token : String) (database : Database) :
    ((database.revoke token).1 = database ∧
      ∀ row, lookup database.sessions token = some row → row.revoked = true) ∨
    ∃ row, Revokes token row database (database.revoke token).1 := by
  unfold Database.revoke
  cases found : (lookup database.sessions token).filter (fun row => row.revoked = false) with
  | none =>
    refine .inl ⟨rfl, fun row there => ?_⟩
    simpa [there] using found
  | some row =>
    obtain ⟨there, running⟩ := Option.filter_eq_some_iff.mp found
    exact .inr ⟨row, there, by simpa using running, rfl⟩

theorem revokedLater {before after : Database} {token : String} (later : Later before after)
    (ended : ∃ row, lookup before.sessions token = some row ∧ row.revoked = true) :
    ∃ row, lookup after.sessions token = some row ∧ row.revoked = true := by
  obtain ⟨row, there, ended⟩ := ended
  obtain ⟨expiresAt, revoked, kept, still⟩ := later.sessions token row there
  exact ⟨_, kept, still ended⟩

theorem logoutMeets (token : String) (shared : Shared) :
    (history sql).Meets (.logout token) (fun result own last => Answered sql result own last (.logout token))
      (logout token) [] shared := by
  refine meetsBind (fun _ own last => Answered sql (.ok .loggedOut) own last (.logout token))
    (meetsWrite fun before after _ made => ?_) fun _ own shared ended => meetsPure fun last up => ?_
  · obtain ⟨same, already⟩ | ⟨row, revokes⟩ := revokeCases token before.database
    · rw [same] at made
      refine ⟨.same trivial made, fun last up => ⟨_, List.mem_singleton_self _, fun old there => ?_⟩⟩
      exact revokedLater up ⟨old, by rw [made]; exact there, already old there⟩
    · rw [← made] at revokes
      refine ⟨.revoked revokes, fun last up => ⟨_, List.mem_singleton_self _, fun _ _ => ?_⟩⟩
      refine revokedLater up ⟨{ row with revoked := true }, ?_, rfl⟩
      rw [revokes.made, lookupInsert, Function.update_self]
  · obtain ⟨step, listed, closes⟩ := ended
    exact ⟨step, listed, fun old there => revokedLater up (closes old there)⟩

theorem claimCases (key : String) (now : Int) (database : Database) :
    (database.claim key now = (database, none) ∧ ∀ row, lookup database.challenges key = some row →
      row.claimedAt ≠ none ∨ row.expiresAt ≤ now) ∨
    ∃ row, database.claim key now =
        ({ database with
            challenges := database.challenges.insert key { row with claimedAt := some now } },
          some row.userId) ∧
      lookup database.challenges key = some row ∧ row.claimedAt = none ∧ now < row.expiresAt := by
  unfold Database.claim
  cases found : lookup database.challenges key with
  | none => exact .inl ⟨rfl, by rintro _ ⟨⟩⟩
  | some row =>
    by_cases valid : row.claimedAt = none ∧ row.expiresAt > now
    · exact .inr ⟨row, by simp only [if_pos valid], rfl, valid.1, valid.2⟩
    · refine .inl ⟨by simp only [if_neg valid], ?_⟩
      rintro _ ⟨⟩
      rcases not_and_or.mp valid with spent | late
      · exact .inl spent
      · exact .inr (by omega)

theorem sessionCases (token : String) (userId expiresAt : Int) (database : Database) :
    (∃ e, database.insertSession token userId expiresAt = (database, .error e) ∧
      ((lookup database.sessions token).isSome = true ∨ database.hasUser userId = false)) ∨
    ((database.insertSession token userId expiresAt).2 = .ok () ∧
      Creates token userId expiresAt database (database.insertSession token userId expiresAt).1) := by
  unfold Database.insertSession
  split
  · rename_i there
    exact .inl ⟨_, rfl, .inl there⟩
  · rename_i fresh
    split
    · rename_i unknown
      exact .inl ⟨_, rfl, .inr unknown⟩
    · rename_i known
      exact .inr ⟨rfl, by simpa using fresh, by simpa using known, rfl⟩

def Claimed (challenge : Bytes) (now : Int) (sessionKey : Bytes) (claimed : Except String (Option Int))
    (own : List (Shared × Shared)) : Prop :=
  match claimed with
  | .error e => Opening sql challenge now sessionKey (.error e) own
  | .ok none => Opening sql challenge now sessionKey (.ok (.opened (.error "invalid_challenge"))) own
  | .ok (some userId) => ∃ first second key row, own = [(first, second)] ∧
      sql.text challenge = .ok key ∧ row.userId = userId ∧
      Claims key (sql.timestamp now) row first.database second.database

theorem claimMeets (challenge : Bytes) (now : Int) (sessionKey : Bytes) (shared : Shared) :
    (history sql).Meets (.loginWithChallenge challenge now sessionKey)
      (fun claimed own _ => Claimed sql challenge now sessionKey claimed own) (claim sql challenge now) []
      shared := by
  unfold claim
  split
  · rename_i none
    exact meetsPure fun _ _ => .empty none
  · cases text : sql.text challenge with
    | error e => exact meetsPure fun _ _ => .untold text
    | ok key =>
      refine meetsBind (fun claimed own _ => Claimed sql challenge now sessionKey (.ok claimed) own)
        (meetsWrite fun before after _ made => ?_) fun claimed own _ known => meetsPure fun _ _ => known
      obtain ⟨none, invalid⟩ | ⟨row, some, found, unclaimed, inTime⟩ :=
        claimCases key (sql.timestamp now) before.database
      · rw [none] at made ⊢
        exact ⟨.same trivial made, fun _ _ => .invalid text invalid⟩
      · rw [some] at made ⊢
        have claims : Claims key (sql.timestamp now) row before.database after.database :=
          ⟨found, unclaimed, inTime, made⟩
        exact ⟨.claimed text claims, fun _ _ => ⟨before, after, key, row, rfl, text, rfl, claims⟩⟩

theorem challengeMeets (challenge : Bytes) (now : Int) (sessionKey : Bytes) (shared : Shared) :
    (history sql).Meets (.loginWithChallenge challenge now sessionKey)
      (fun result own last => Answered sql result own last (.loginWithChallenge challenge now sessionKey))
      (loginWithChallenge sql challenge now sessionKey) [] shared := by
  refine meetsBind _ (claimMeets sql challenge now sessionKey shared) fun claimed own between known => ?_
  cases claimed with
  | error e => exact meetsPure fun _ _ => known
  | ok claimed =>
    cases claimed with
    | none => exact meetsPure fun _ _ => known
    | some userId =>
      obtain ⟨first, second, key, row, rfl, text, rfl, claims⟩ := known
      refine meetsBind (fun created own _ => Opening sql challenge now sessionKey (created.map fun _ =>
          .opened (.ok (row.userId, sessionKey, now + sessionTtlSeconds))) own) ?_
        fun created own _ made => by cases created <;> exact meetsPure fun _ _ => made
      unfold create
      cases named : sql.text sessionKey with
      | error e => exact meetsPure fun _ _ => .unnamed text claims named
      | ok token =>
        refine meetsWrite fun before after _ made => ?_
        obtain ⟨e, failed, there⟩ | ⟨done, creates⟩ := sessionCases token row.userId
          (sql.timestamp (now + sessionTtlSeconds)) before.database
        · rw [failed] at made ⊢
          exact ⟨.same trivial made, fun _ _ => .collided text claims named there⟩
        · rw [← made] at creates
          rw [done]
          exact ⟨.created text claims named creates, fun _ _ => .opened text claims named creates⟩

theorem extendCases (token : String) (now expiresAt : Int) (database : Database) :
    database.extend token now expiresAt = (database, false) ∨
    ∃ row, Extends token now expiresAt row database (database.extend token now expiresAt).1 := by
  unfold Database.extend
  cases found : database.activeRow token now with
  | none => exact .inl rfl
  | some row => exact .inr ⟨row, found, rfl⟩

theorem keepAliveMeets (sessionKey : Bytes) (now : Int) (shared : Shared) :
    (history sql).Meets (.keepAlive sessionKey now)
      (fun result own last => Answered sql result own last (.keepAlive sessionKey now))
      (keepAlive sql sessionKey now) [] shared := by
  unfold keepAlive
  cases named : sql.text sessionKey with
  | error e => exact meetsPure fun _ _ => trivial
  | ok token =>
    refine meetsBind (fun _ _ _ => True) (meetsWrite fun before after _ made => ⟨?_, fun _ _ => trivial⟩)
      fun extended _ _ _ => by cases extended <;> exact meetsPure fun _ _ => trivial
    obtain none | ⟨row, lengthens⟩ := extendCases token (sql.timestamp now)
      (sql.timestamp (now + sessionTtlSeconds)) before.database
    · rw [none] at made
      exact .same trivial made
    · rw [← made] at lengthens
      exact .extended named lengthens

theorem validateMeets (sessionKey : Bytes) (now : Int) (shared : Shared) :
    (history sql).Meets (.validateSession sessionKey now)
      (fun result own last => Answered sql result own last (.validateSession sessionKey now))
      (validateSession sql sessionKey now) [] shared := by
  unfold validateSession
  cases named : sql.text sessionKey with
  | error e => exact meetsPure fun _ _ => by rintro _ ⟨⟩
  | ok token =>
    refine meetsBind (fun active own _ => ∃ step ∈ own, (active = true ↔ ∃ row,
        step.1.database.activeRow token (sql.timestamp now) = some row))
      (meetsRead (by trivial) fun before after last _ _ =>
        ⟨_, List.mem_singleton_self _, Option.isSome_iff_exists⟩)
      fun active own _ read => meetsPure fun last _ => ?_
    obtain ⟨step, listed, exact⟩ := read
    rintro _ ⟨⟩
    exact ⟨step, listed, token, named, exact⟩

theorem honoured (start : Shared) : Honoured (history sql) (serve sql policy) start where
  serves q shared _ := by
    cases q with
    | register username password salt => exact registerMeets sql username password salt shared
    | login username password current key => exact loginMeets sql policy username password current key shared
    | logout token => exact logoutMeets sql token shared
    | loginWithChallenge challenge now sessionKey => exact challengeMeets sql challenge now sessionKey shared
    | keepAlive sessionKey now => exact keepAliveMeets sql sessionKey now shared
    | validateSession sessionKey now => exact validateMeets sql sessionKey now shared

end

end SeedOrigin.AccountHistory
