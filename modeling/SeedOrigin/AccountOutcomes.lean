import SeedOrigin.AccountOrigins

/-! What registrations and logins are answered, over every interleaving: one
registration of a name succeeds, its password opens the account from then on, and a
challenge that nobody else presents lets its holder in. -/
namespace SeedOrigin.AccountOutcomes
open SeedOrigin.Octets SeedOrigin.Maps SeedOrigin.Runs SeedOrigin.Lockouts SeedOrigin.Interleaving
open SeedOrigin.CommandDispatch SeedOrigin.Accounts SeedOrigin.AccountHistory
open SeedOrigin.AccountOrigins Contract

section
variable {sql : Sql} {start : Shared} {system : Services}
  (consistent : Consistent (history sql) start system)
include consistent

theorem answeredSteps {k : Nat} {request : Request} {result : Except String Answer}
    (answered : AnsweredWith system k request result) :
    Answered sql result (ownSteps k system.log) system.shared request := by
  obtain ⟨task, found, rfl, done⟩ := answeredTask answered
  obtain ⟨own, meets⟩ := consistent.tasks k task found
  rw [done] at meets
  rw [← own]
  exact meets _ ((history sql).refl _)

theorem registrationStep {k : Nat} {username password salt : String} {reason : Option String}
    (answered : AnsweredWith system k (.register username password salt) (.ok (.registered true reason))) :
    ∃ front back before after, system.log = front ++ ⟨k, before, after⟩ :: back ∧
      Registers username (sql.crypt password salt) before.database after.database := by
  obtain ⟨⟨before, after⟩, listed, registers⟩ := (answeredSteps consistent answered).mp ⟨reason, rfl⟩
  obtain ⟨front, back, split⟩ := ownFound listed
  exact ⟨front, back, before, after, split, registers⟩

theorem registeredUser {front back : List (Entry Shared)} {step : Entry Shared}
    (split : system.log = front ++ step :: back) {username passwordHash : String}
    (registers : Registers username passwordHash step.before.database step.after.database) :
    ⟨step.before.database.nextUserId, username, passwordHash⟩ ∈ system.shared.database.users := by
  apply (reached consistent split).2.users.subset
  rw [registers.made]
  exact List.mem_append_right _ (List.mem_singleton_self _)

theorem registeredBefore {front middle back : List (Entry Shared)} {e x : Entry Shared}
    (split : system.log = front ++ e :: middle ++ x :: back) {username hash hash' : String}
    (first : Registers username hash e.before.database e.after.database)
    (second : Registers username hash' x.before.database x.after.database) : False := by
  have there : ⟨e.before.database.nextUserId, username, hash⟩ ∈ e.after.database.users := by
    rw [first.made]
    exact List.mem_append_right _ (List.mem_singleton_self _)
  exact second.free _ ((ordered consistent split).users.subset there) rfl

theorem acceptedLogin {k : Nat} {username password key : String} {current : Instant} {result : LoginResult}
    (answered : AnsweredWith system k (.login username password current key) (.ok (.loggedIn result)))
    (accepted : result.accepted = true) : ∃ user ∈ system.shared.database.users,
      user.username = username ∧ isPassword sql password user.passwordHash = true := by
  obtain ⟨⟨before, after⟩, listed, userId, expiresAt, issues⟩ :=
    (answeredSteps consistent answered).1 result rfl accepted
  obtain ⟨front, back, split⟩ := ownFound listed
  obtain ⟨task, found, request, -⟩ := answeredTask answered
  obtain ⟨same, there, change⟩ := consistent.made _ _ _ split
  obtain rfl := Option.some.inj (found.symm.trans there)
  rw [request] at change
  obtain ⟨_, _, _, user, _, is, known, named, fits, -⟩ := challengeMade change issues.fresh
    (by rw [issues.made, lookupInsert, Function.update_self])
  obtain ⟨rfl, rfl, -⟩ := Request.login.inj is
  have up := laterTrans (changeLater change) (reached consistent split).2
  exact ⟨user, up.users.subset known, named, fits⟩

end

theorem registeredOnce (sql : Sql) (policy : LoginLockoutPolicy) {start : Shared}
    (sound : Sound start.database) (turns : List (Turn Request)) {i : Nat} {username password salt : String}
    {reason : Option String} (accepted : AnsweredWith (after sql policy start turns) i
      (.register username password salt) (.ok (.registered true reason))) :
    (∀ j password' salt' reason', AnsweredWith (after sql policy start turns) j
      (.register username password' salt') (.ok (.registered true reason')) → i = j) ∧
    (∃ user ∈ (after sql policy start turns).shared.database.users,
      user.username = username ∧ user.passwordHash = sql.crypt password salt) ∧
    ∀ k password' current key result, AnsweredWith (after sql policy start turns) k
      (.login username password' current key) (.ok (.loggedIn result)) → result.accepted = true →
        isPassword sql password' (sql.crypt password salt) = true := by
  have consistent := afterConsistent sql policy start turns
  generalize after sql policy start turns = system at consistent accepted ⊢
  obtain ⟨front, back, before, between, here, registers⟩ := registrationStep consistent accepted
  have there := registeredUser consistent here registers
  refine ⟨fun j password' salt' reason' again => ?_, ⟨_, there, rfl, rfl⟩, ?_⟩
  · obtain ⟨front', back', before', between', also, registers'⟩ := registrationStep consistent again
    obtain ⟨middle, rfl, -⟩ | ⟨-, same, -⟩ | ⟨middle, rfl, -⟩ := places (here.symm.trans also)
    · exact (registeredBefore consistent also registers registers').elim
    · exact congrArg Entry.task same
    · exact (registeredBefore consistent here registers' registers).elim
  · intro k password' current key result answered passed
    obtain ⟨user, known, named, fits⟩ := acceptedLogin consistent answered passed
    have names := (consistent.up.sound sound).names
    rwa [List.inj_on_of_nodup_map names known there named] at fits

theorem soundEmpty : Sound {} where
  names := List.nodup_nil
  ids := List.nodup_nil
  drawn user there := absurd there List.not_mem_nil
  challenged key row found := by simp [lookup] at found
  seated token row found := by simp [lookup] at found

theorem accountRegistered : ∃ user ∈ (after plain threeTries {} account).shared.database.users,
    user.username = "ann" ∧ user.passwordHash = plain.crypt "secret" "salt" :=
  (registeredOnce plain threeTries soundEmpty account (by decide +kernel :
    AnsweredWith _ 0 registration (.ok (.registered true none)))).2.1

section
variable {sql : Sql} {start : Shared} {system : Services}
  (consistent : Consistent (history sql) start system)
include consistent

theorem claimantOf {front back : List (Entry Shared)} {step : Entry Shared}
    (split : system.log = front ++ step :: back) {key : String} {row : PlayerChallenge}
    (before : lookup step.before.database.challenges key = some row)
    (changed : lookup step.after.database.challenges key ≠ some row) :
    ∃ challenge now sessionKey, Requested system step (.loginWithChallenge challenge now sessionKey) ∧
      sql.text challenge = .ok key := by
  obtain ⟨task, found, change⟩ := consistent.made front step back split
  obtain ⟨request, rest, own⟩ := task
  dsimp only at change
  generalize ownSteps step.task front = own at change
  have kept (same : step.after.database.challenges = step.before.database.challenges) : False := by
    rw [same] at changed
    exact changed before
  have elsewhere {other : String} {new : PlayerChallenge}
      (made : step.after.database =
        { step.before.database with challenges := step.before.database.challenges.insert other new })
      (apart : key ≠ other) : False := by
    rw [made, lookupInsert, Function.update_of_ne apart] at changed
    exact changed before
  cases change with
  | same pending made => exact (kept (by rw [made])).elim
  | drew made => exact (kept (by rw [made])).elim
  | registered registers => exact (kept (by rw [registers.made])).elim
  | issued known named fits expires issues =>
    refine (elsewhere issues.made ?_).elim
    rintro rfl
    have fresh := issues.fresh
    rw [before] at fresh
    contradiction
  | @claimed challenge now sessionKey _ _ _ other _ text claims =>
    by_cases here : key = other
    · subst here
      exact ⟨challenge, now, sessionKey, ⟨_, found, rfl⟩, text⟩
    · exact (elsewhere claims.made here).elim
  | created text claims named creates => exact (kept (by rw [creates.made])).elim
  | extended named lengthens => exact (kept (by rw [lengthens.made])).elim
  | revoked revokes => exact (kept (by rw [revokes.made])).elim

end

def Sole (sql : Sql) (system : Services) (n : Nat) (key token : String) : Prop :=
  ∀ j challenge now sessionKey, j ≠ n →
    (∃ task, system.tasks[j]? = some task ∧ task.request = .loginWithChallenge challenge now sessionKey) →
      sql.text challenge ≠ .ok key ∧ sql.text sessionKey ≠ .ok token

section
variable {sql : Sql} {start s t : Shared} {system : Services} {n : Nat} {key token : String}
  {done front back : List (Entry Shared)} (consistent : Consistent (history sql) start system)
  (sole : Sole sql system n key token) (split : system.log = done ++ (front ++ back))
  (path : Interleaving.Path s front t)
include consistent sole split path

theorem challengeKept (idle : ownSteps n front = []) {row : PlayerChallenge}
    (issued : lookup s.database.challenges key = some row) :
    lookup t.database.challenges key = some row := by
  refine pathKeeps (P := fun shared => lookup shared.database.challenges key = some row) path
    (fun step listed same => ?_) issued
  by_contra changed
  obtain ⟨before, after, rfl⟩ := List.append_of_mem listed
  have here : system.log = (done ++ before) ++ step :: (after ++ back) := by rw [split]; simp
  obtain ⟨challenge, now, sessionKey, requested, text⟩ := claimantOf consistent here same changed
  by_cases mine : step.task = n
  · have own := ownMember listed
    rw [mine, idle] at own
    contradiction
  · exact (sole _ _ _ _ mine requested).1 text

theorem tokenFree (quiet : ∀ step ∈ front, step.task = n →
    step.after.database.sessions = step.before.database.sessions)
    (free : lookup s.database.sessions token = none) : lookup t.database.sessions token = none := by
  refine pathKeeps (P := fun shared => lookup shared.database.sessions token = none) path
    (fun step listed same => ?_) free
  by_contra changed
  obtain ⟨row, made⟩ := Option.ne_none_iff_exists'.mp changed
  obtain ⟨before, after, rfl⟩ := List.append_of_mem listed
  have here : system.log = (done ++ before) ++ step :: (after ++ back) := by rw [split]; simp
  obtain ⟨task, found, change⟩ := consistent.made _ _ _ here
  obtain ⟨challenge, now, sessionKey, _, _, _, _, request, -, -, -, named, -⟩ :=
    sessionMade change same made
  by_cases mine : step.task = n
  · rw [quiet step listed mine, same] at made
    contradiction
  · exact (sole _ _ _ _ mine ⟨task, found, request⟩).2 named

end

theorem neverCollides {sql : Sql} {start s t : Shared} {system : Services} {n : Nat} {key token : String}
    {done steps : List (Entry Shared)} (consistent : Consistent (history sql) start system)
    (sole : Sole sql system n key token) (split : system.log = done ++ steps)
    (path : Interleaving.Path s steps t) (sound : Sound start.database) {first second third fourth : Shared}
    (own : ownSteps n steps = [(first, second), (third, fourth)]) {now : Int} {row : PlayerChallenge}
    (claims : Claims key now row first.database second.database)
    (free : lookup s.database.sessions token = none) :
    lookup third.database.sessions token = none ∧ third.database.hasUser row.userId = true := by
  obtain ⟨front, rest, rfl, idle, left⟩ := ownSplit (own.trans (List.nil_append _).symm)
  obtain ⟨middle, back, rfl, none, -⟩ := ownSplit (left.trans (List.nil_append _).symm)
  constructor
  · have whole : system.log = done ++ ((front ++ ⟨n, first, second⟩ :: middle) ++
        ⟨n, third, fourth⟩ :: back) := by rw [split]; simp
    rw [← List.cons_append, ← List.append_assoc] at path
    refine tokenFree consistent sole whole (pathSplit path).1 (fun step listed same => ?_) free
    -- its own step before was the claim
    have only : ownSteps n [⟨n, first, second⟩] = [(first, second)] := ownHere _
    have own := ownMember listed
    rw [same, ownAppend, idle, List.nil_append, ← List.singleton_append, ownAppend, none,
      List.append_nil, only] at own
    obtain ⟨left, right⟩ := Prod.mk.inj (List.mem_singleton.mp own)
    rw [left, right, claims.made]
  · have here : system.log = (done ++ front) ++ ⟨n, first, second⟩ ::
        (middle ++ ⟨n, third, fourth⟩ :: back) := by rw [split]; simp
    have sound := (reached consistent here).1.sound sound
    have up := laterTrans (stepUp consistent here) (ordered consistent
      (here.trans (List.append_assoc _ (_ :: middle) (_ :: back)).symm))
    exact userLater up.users (sound.challenged _ _ claims.found)

theorem firstPresented (sql : Sql) (policy : LoginLockoutPolicy) {start : Shared}
    (sound : Sound start.database) (turns more : List (Turn Request)) {challenge sessionKey : Bytes}
    {now : Int} {key token : String} {row : PlayerChallenge} {result : Except String Answer}
    (nonempty : challenge ≠ []) (text : sql.text challenge = .ok key) (named : sql.text sessionKey = .ok token)
    (issued : lookup (after sql policy start turns).shared.database.challenges key = some row)
    (unclaimed : row.claimedAt = none) (inTime : sql.timestamp now < row.expiresAt)
    (free : lookup (after sql policy start turns).shared.database.sessions token = none)
    (sole : Sole sql (after sql policy start
        (turns ++ .arrive (.loginWithChallenge challenge now sessionKey) :: more))
      (after sql policy start turns).tasks.length key token)
    (answered : AnsweredWith (after sql policy start
        (turns ++ .arrive (.loginWithChallenge challenge now sessionKey) :: more))
      (after sql policy start turns).tasks.length (.loginWithChallenge challenge now sessionKey) result) :
    result = .ok (.opened (.ok (row.userId, sessionKey, now + sessionTtlSeconds))) := by
  have consistent := afterConsistent sql policy start
    (turns ++ .arrive (.loginWithChallenge challenge now sessionKey) :: more)
  have before := afterConsistent sql policy start turns
  have split := logSince sql policy start turns (.arrive (.loginWithChallenge challenge now sessionKey) :: more)
  generalize after sql policy start
    (turns ++ .arrive (.loginWithChallenge challenge now sessionKey) :: more) = system
    at consistent split sole answered
  generalize after sql policy start turns = earlier at before split sole answered issued free
  have path := pathSince consistent before split
  generalize stepsSince earlier system = steps at split path
  have opening := answeredSteps consistent answered
  rw [split, ownAppend, unborn before (le_refl _), List.nil_append] at opening
  -- what the claim finds is what was issued
  have claimed {first second : Shared} {rest : List (Shared × Shared)}
      (own : ownSteps earlier.tasks.length steps = (first, second) :: rest) :
      ∃ front back, steps = front ++ ⟨earlier.tasks.length, first, second⟩ :: back ∧
        ownSteps earlier.tasks.length front = [] ∧ ownSteps earlier.tasks.length back = rest ∧
        lookup first.database.challenges key = some row := by
    obtain ⟨front, back, rfl, idle, left⟩ := ownSplit (own.trans (List.nil_append _).symm)
    exact ⟨front, back, rfl, idle, left, challengeKept consistent sole split (pathSplit path).1 idle issued⟩
  generalize own : ownSteps earlier.tasks.length steps = mine at opening
  cases opening with
  | empty none => exact absurd none nonempty
  | untold refused =>
    rw [text] at refused
    contradiction
  | invalid told none =>
    obtain rfl := Except.ok.inj (text.symm.trans told)
    obtain ⟨-, -, -, -, -, found⟩ := claimed own
    rcases none row found with spent | late
    · exact absurd unclaimed spent
    · omega
  | unnamed told claims refused =>
    rw [named] at refused
    contradiction
  | collided told claims called there =>
    obtain rfl := Except.ok.inj (text.symm.trans told)
    obtain rfl := Except.ok.inj (named.symm.trans called)
    obtain ⟨unused, known⟩ := neverCollides consistent sole split path sound own claims free
    obtain taken | unknown := there
    · rw [unused] at taken
      contradiction
    · rw [known] at unknown
      contradiction
  | opened told claims called creates =>
    obtain rfl := Except.ok.inj (text.symm.trans told)
    obtain ⟨-, -, -, -, -, found⟩ := claimed own
    obtain rfl := Option.some.inj (claims.found.symm.trans found)
    rfl

theorem visitSole : Sole plain (after plain threeTries {} visit) 2 "key" "session" := by
  intro j challenge now sessionKey other presents
  obtain ⟨task, found, is⟩ := presents
  have requests : (after plain threeTries {} visit).tasks.map Task.request =
      [registration, passwordLogin, entrance] := by decide +kernel
  have listed := congrArg (fun requests => requests[j]?) requests
  simp only [List.getElem?_map, found, is, Option.map_some] at listed
  rcases j with _ | _ | _ | j
  · cases listed
  · cases listed
  · exact absurd rfl other
  · cases listed

theorem visitPresented : ∃ result, AnsweredWith (after plain threeTries {} visit) 2 entrance result ∧
    result = .ok (.opened (.ok (1, ascii "session", 60 + sessionTtlSeconds))) :=
  have answered : AnsweredWith (after plain threeTries {} visit) 2 entrance
      (.ok (.opened (.ok (1, ascii "session", 1860)))) := by decide +kernel
  have issued : lookup (after plain threeTries {} account).shared.database.challenges "key" =
      some ⟨1, 120 * 10 ^ 6, none⟩ := by decide +kernel
  ⟨_, answered, firstPresented plain threeTries soundEmpty account [.proceed 2, .proceed 2] (by decide)
    (by decide +kernel) (by decide +kernel) issued rfl (by decide +kernel) (by decide +kernel) visitSole
    answered⟩

end SeedOrigin.AccountOutcomes
