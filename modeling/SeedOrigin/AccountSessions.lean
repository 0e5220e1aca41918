import SeedOrigin.AccountOrigins

/-! How long a player session is active: from the last time it was opened or kept
alive, for its half hour, unless it is logged out; and never again after that. -/
namespace SeedOrigin.AccountSessions
open SeedOrigin.Octets SeedOrigin.Maps SeedOrigin.Runs SeedOrigin.Lockouts SeedOrigin.Interleaving
open SeedOrigin.CommandDispatch SeedOrigin.Accounts SeedOrigin.AccountHistory
open SeedOrigin.AccountOrigins Contract

def Active (sql : Sql) (shared : Shared) (token : String) (now : Int) : Prop :=
  (shared.database.isActive token (sql.timestamp now)).2 = true

def Grants (sql : Sql) (system : Services) (step : Entry Shared) (token : String) (now : Int) : Prop :=
  (∃ challenge sessionKey userId, Requested system step (.loginWithChallenge challenge now sessionKey) ∧
    sql.text sessionKey = .ok token ∧ Creates token userId (sql.timestamp (now + sessionTtlSeconds))
      step.before.database step.after.database) ∨
  ∃ sessionKey row, Requested system step (.keepAlive sessionKey now) ∧ sql.text sessionKey = .ok token ∧
    Extends token (sql.timestamp now) (sql.timestamp (now + sessionTtlSeconds)) row
      step.before.database step.after.database

def Ends (system : Services) (step : Entry Shared) (token : String) : Prop :=
  Requested system step (.logout token) ∧
    ∃ row, Revokes token row step.before.database step.after.database

theorem activeRowExact {database : Database} {token : String} {now : Int} {row : PlayerSession} :
    database.activeRow token now = some row ↔
      lookup database.sessions token = some row ∧ row.revoked = false ∧ now < row.expiresAt := by
  unfold Database.activeRow
  rw [Option.filter_eq_some_iff]
  simp

section
variable {sql : Sql} {start : Shared} {system : Services}
  (consistent : Consistent (history sql) start system)
include consistent

theorem stepCases {front back : List (Entry Shared)} {step : Entry Shared}
    (split : system.log = front ++ step :: back) (token : String) :
    lookup step.after.database.sessions token = lookup step.before.database.sessions token ∨
    (∃ now, Grants sql system step token now) ∨ Ends system step token := by
  obtain ⟨task, found, change⟩ := consistent.made front step back split
  obtain ⟨request, rest, own⟩ := task
  dsimp only at change
  generalize ownSteps step.task front = before at change
  have made {q : Request} (same : request = q) : Requested system step q := ⟨_, found, same⟩
  have other {key : String} {row : PlayerSession} (elsewhere : token ≠ key)
      (made : step.after.database =
        { step.before.database with sessions := step.before.database.sessions.insert key row }) :
      lookup step.after.database.sessions token = lookup step.before.database.sessions token := by
    rw [made, lookupInsert, Function.update_of_ne elsewhere]
  cases change with
  | same pending kept => exact .inl (by rw [kept])
  | drew made => exact .inl (by rw [made])
  | registered registers => exact .inl (by rw [registers.made])
  | issued known named fits expires issues => exact .inl (by rw [issues.made])
  | claimed text claims => exact .inl (by rw [claims.made])
  | @created challenge now sessionKey _ _ _ _ _ key _ text claims named creates =>
    by_cases here : token = key
    · subst here
      exact .inr (.inl ⟨now, .inl ⟨challenge, sessionKey, _, made rfl, named, creates⟩⟩)
    · exact .inl (other here creates.made)
  | @extended sessionKey now _ _ _ key row named lengthens =>
    by_cases here : token = key
    · subst here
      exact .inr (.inl ⟨now, .inr ⟨sessionKey, row, made rfl, named, lengthens⟩⟩)
    · exact .inl (other here lengthens.made)
  | @revoked key _ _ _ row revokes =>
    by_cases here : token = key
    · subst here
      exact .inr (.inr ⟨made rfl, row, revokes⟩)
    · exact .inl (other here revokes.made)

omit consistent in
theorem grantedRow {step : Entry Shared} {token : String} {now : Int}
    (grants : Grants sql system step token now) : ∃ userId, lookup step.after.database.sessions token =
      some ⟨userId, sql.timestamp (now + sessionTtlSeconds), false⟩ := by
  obtain ⟨challenge, sessionKey, userId, -, -, creates⟩ | ⟨sessionKey, row, -, -, lengthens⟩ := grants
  · exact ⟨userId, by rw [creates.made, lookupInsert, Function.update_self]⟩
  · obtain ⟨-, running, -⟩ := activeRowExact.mp lengthens.found
    refine ⟨row.userId, ?_⟩
    rw [lengthens.made, lookupInsert, Function.update_self, running]

omit consistent in
theorem endedRow {step : Entry Shared} {token : String} (ends : Ends system step token) :
    ∃ row, lookup step.after.database.sessions token = some row ∧ row.revoked = true := by
  obtain ⟨-, row, revokes⟩ := ends
  exact ⟨{ row with revoked := true }, by rw [revokes.made, lookupInsert, Function.update_self], rfl⟩

theorem untouched {front back : List (Entry Shared)} (split : system.log = front ++ back) {s : Shared}
    (path : Interleaving.Path s back system.shared) {token : String}
    (quiet : ∀ step ∈ back, ¬ ((∃ now, Grants sql system step token now) ∨ Ends system step token)) :
    lookup system.shared.database.sessions token = lookup s.database.sessions token := by
  refine pathKeeps (P := fun shared => lookup shared.database.sessions token = lookup s.database.sessions token)
    path (fun step listed same => ?_) rfl
  obtain ⟨before, after, rfl⟩ := List.append_of_mem listed
  rw [← List.append_assoc] at split
  obtain kept | touched := stepCases consistent split token
  · rw [kept, same]
  · exact absurd touched (quiet step listed)

end

theorem activeSince (sql : Sql) (policy : LoginLockoutPolicy) (start : Shared) (turns : List (Turn Request))
    (token : String) (unopened : lookup start.database.sessions token = none) (now : Int) :
    Active sql (after sql policy start turns).shared token now ↔
      ∃ front step back since, (after sql policy start turns).log = front ++ step :: back ∧
        Grants sql (after sql policy start turns) step token since ∧
        sql.timestamp now < sql.timestamp (since + sessionTtlSeconds) ∧
        ∀ later ∈ back, (∀ t, ¬ Grants sql (after sql policy start turns) later token t) ∧
          ¬ Ends (after sql policy start turns) later token := by
  have consistent := afterConsistent sql policy start turns
  generalize after sql policy start turns = system at consistent
  have active : Active sql system.shared token now ↔ ∃ row,
      lookup system.shared.database.sessions token = some row ∧ row.revoked = false ∧
        sql.timestamp now < row.expiresAt := by
    unfold Active Database.isActive
    rw [Option.isSome_iff_exists]
    simp only [activeRowExact]
  have lasts {front back : List (Entry Shared)} {step : Entry Shared}
      (split : system.log = front ++ step :: back) (quiet : ∀ later ∈ back,
        ¬ ((∃ t, Grants sql system later token t) ∨ Ends system later token)) :
      lookup system.shared.database.sessions token = lookup step.after.database.sessions token := by
    have path := consistent.path
    rw [split] at path
    rw [List.append_cons] at split
    exact untouched consistent split (pathSplit path).2 quiet
  rw [active]
  constructor
  · rintro ⟨row, found, running, inTime⟩
    obtain none | ⟨front, step, back, split, here, none⟩ :=
      lastOf (fun step => (∃ t, Grants sql system step token t) ∨ Ends system step token) system.log
    · rw [untouched consistent (List.nil_append _).symm consistent.path none, unopened] at found
      contradiction
    · have last := lasts split none
      obtain ⟨since, grants⟩ | ends := here
      · obtain ⟨userId, new⟩ := grantedRow grants
        rw [last, new] at found
        obtain rfl := Option.some.inj found
        refine ⟨front, step, back, since, split, grants, inTime, fun later listed => ?_⟩
        obtain ⟨ungranted, unended⟩ := not_or.mp (none later listed)
        exact ⟨fun t granted => ungranted ⟨t, granted⟩, unended⟩
      · obtain ⟨old, new, ended⟩ := endedRow ends
        rw [last, new] at found
        obtain rfl := Option.some.inj found
        rw [running] at ended
        contradiction
  · rintro ⟨front, step, back, since, split, grants, inTime, none⟩
    obtain ⟨userId, new⟩ := grantedRow grants
    refine ⟨_, (lasts split fun later listed => ?_).trans new, rfl, inTime⟩
    obtain ⟨ungranted, unended⟩ := none later listed
    exact not_or.mpr ⟨not_exists.mpr ungranted, unended⟩

instance (sql shared token now) : Decidable (Active sql shared token now) := by
  unfold Active
  infer_instance

theorem visitActive : Active plain (after plain threeTries {} visit).shared "session" 1859 ∧
    ∃ front step back since, (after plain threeTries {} visit).log = front ++ step :: back ∧
      Grants plain (after plain threeTries {} visit) step "session" since ∧
      plain.timestamp 1859 < plain.timestamp (since + sessionTtlSeconds) ∧
      ∀ later ∈ back, (∀ t, ¬ Grants plain (after plain threeTries {} visit) later "session" t) ∧
        ¬ Ends (after plain threeTries {} visit) later "session" :=
  have active : Active plain (after plain threeTries {} visit).shared "session" 1859 := by decide +kernel
  ⟨active, (activeSince plain threeTries {} visit "session" (by decide +kernel) 1859).mp active⟩

def Over (sql : Sql) (later : Services) (steps : List (Entry Shared)) (token : String) (now : Int)
    (session : PlayerSession) : Prop :=
  session.revoked = true ∨ (session.expiresAt ≤ sql.timestamp now ∧
    ∀ step ∈ steps, ∀ sessionKey t, Requested later step (.keepAlive sessionKey t) →
      sql.text sessionKey = .ok token → now ≤ t)

theorem notRevived {sql : Sql} (monotone : Monotone sql.timestamp) (policy : LoginLockoutPolicy)
    (start : Shared) (turns more : List (Turn Request)) {token : String} {session : PlayerSession} {now : Int}
    (found : lookup (after sql policy start turns).shared.database.sessions token = some session)
    (ended : Over sql (after sql policy start (turns ++ more)) (stepsSince (after sql policy start turns)
      (after sql policy start (turns ++ more))) token now session) {t : Int} (later : now ≤ t) :
    ¬ Active sql (after sql policy start (turns ++ more)).shared token t := by
  have consistent := afterConsistent sql policy start (turns ++ more)
  have before := afterConsistent sql policy start turns
  have split := logSince sql policy start turns more
  generalize after sql policy start (turns ++ more) = system at consistent split ended ⊢
  generalize after sql policy start turns = earlier at before split ended found
  have path := pathSince consistent before split
  generalize stepsSince earlier system = steps at split ended path
  have kept := pathKeeps (P := fun shared => ∃ row, lookup shared.database.sessions token = some row ∧
    Over sql system steps token now row) path (fun step listed => ?_) ⟨session, found, ended⟩
  · obtain ⟨row, there, over_⟩ := kept
    intro active
    obtain ⟨other, same⟩ := Option.isSome_iff_exists.mp active
    obtain ⟨found, running, inTime⟩ := activeRowExact.mp same
    obtain rfl := Option.some.inj (there.symm.trans found)
    obtain revoked | ⟨expired, -⟩ := over_
    · rw [revoked] at running
      contradiction
    · have up := monotone later
      omega
  · rintro ⟨row, there, over_⟩
    obtain ⟨front, back, rfl⟩ := List.append_of_mem listed
    have here : system.log = (earlier.log ++ front) ++ step :: back := by rw [split, List.append_assoc]
    obtain same | ⟨t, grants⟩ | ends := stepCases consistent here token
    · exact ⟨row, same.trans there, over_⟩
    · -- no session is opened over this one, and no clock lets it be kept alive
      obtain ⟨_, _, _, -, -, creates⟩ | ⟨sessionKey, other, requested, named, lengthens⟩ := grants
      · have fresh := creates.fresh
        rw [there] at fresh
        contradiction
      · obtain ⟨found, running, inTime⟩ := activeRowExact.mp lengthens.found
        obtain rfl := Option.some.inj (there.symm.trans found)
        obtain revoked | ⟨expired, clocks⟩ := over_
        · rw [revoked] at running
          contradiction
        · have up := monotone (clocks step listed sessionKey t requested named)
          omega
    · obtain ⟨last, new, revoked⟩ := endedRow ends
      exact ⟨last, new, .inl revoked⟩

def departure : List (Turn Request) := visit ++ [.arrive (.logout "session"), .proceed 3]

theorem departureOver : ¬ Active plain (after plain threeTries {}
    (departure ++ [.arrive (.keepAlive (ascii "session") 100), .proceed 4])).shared "session" 200 :=
  notRevived (fun a b le => by simp only [plain]; omega) threeTries {} departure _
    (by decide +kernel : lookup (after plain threeTries {} departure).shared.database.sessions "session" =
      some ⟨1, 1860 * 10 ^ 6, true⟩) (.inl rfl) (le_refl 200)

end SeedOrigin.AccountSessions
