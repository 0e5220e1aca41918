import SeedOrigin.AdminSurface
import SeedOrigin.LastWrites

/-! Which requests the admin surface lets in: those with a token that an accepted
login gave within the hour, and that was not logged out since. -/
namespace SeedOrigin.AdminSessions
open SeedOrigin.Octets SeedOrigin.Numbers SeedOrigin.Maps SeedOrigin.Runs SeedOrigin.LastWrites
open SeedOrigin.Lockouts SeedOrigin.AliasStores SeedOrigin.AdminSurface

section
variable {F : Type} [FloatOps F] (ports : AdminPorts F)

structure Gives (server : AdminServer F) (request : AdminRequest) (token : Bytes) : Prop where
  route : request.route = .login
  named : request.paramValue "username" ≠ []
  unlocked : server.lockout.isLocked (request.paramValue "username") request.now = false
  nonempty : request.paramValue "password" ≠ []
  verified : ∃ adminUserId, verifyCredentials ports server.users (request.paramValue "username")
    (request.paramValue "password") = .ok (some adminUserId)
  drawn : generateTokenFromUrandom request.urandom = token

def LogsOut (server : AdminServer F) (request : AdminRequest) (token : Bytes) : Prop :=
  request.route = .logout ∧ request.bearer = some token ∧ (serve ports server request).2.status = 204

def acceptedAs (server : AdminServer F) (request : AdminRequest) : Option Int :=
  (postLogin server.lockout (attempt ports server request)).2.adminUserId

def writesUnder (token : Bytes) (server : AdminServer F) : AdminEvent F → Option (Option AdminSession)
  | .elsewhere _ => none
  | .request request =>
    if request.route = .login ∧ generateTokenFromUrandom request.urandom = token then
      (acceptedAs ports server request).map fun adminUserId =>
        some ⟨adminUserId, request.now + kSessionTtlSeconds⟩
    else if request.route = .logout ∧ request.bearer = some token ∧
        (requireSession server.sessions request).isSome = true then some none
    else none

def sessionUnder (token : Bytes) (server : AdminServer F) : Option AdminSession :=
  lookup server.sessions.sessions token

variable {ports} {server : AdminServer F} {request : AdminRequest} {token : Bytes}

omit [FloatOps F] in
theorem bearerNonempty (bearer : request.bearer = some token) : token ≠ [] := by
  simp only [AdminRequest.bearer] at bearer
  split at bearer
  · cases bearer
  · rename_i long
    obtain rfl := Option.some.inj bearer
    obtain ⟨longer, -⟩ := not_or.mp long
    intro none
    have := List.drop_eq_nil_iff.mp none
    omega

omit [FloatOps F] in
theorem givesExact : Gives ports server request token ↔ request.route = .login ∧
    generateTokenFromUrandom request.urandom = token ∧
      (acceptedAs ports server request).isSome = true := by
  unfold acceptedAs postLogin
  constructor
  · rintro ⟨route, named, unlocked, nonempty, ⟨adminUserId, verified⟩, drawn⟩
    refine ⟨route, drawn, ?_⟩
    have open_ : ¬ ((attempt ports server request).username = [] ∨
        server.lockout.isLocked (attempt ports server request).username
          (attempt ports server request).now = true) := by
      rintro (none | locked)
      · exact named none
      · exact absurd (unlocked.symm.trans locked) Bool.false_ne_true
    have given : ¬ (attempt ports server request).password = [] := nonempty
    have known : (attempt ports server request).verified = .ok (some adminUserId) := verified
    rw [if_neg open_, if_neg given, known]
    rfl
  · rintro ⟨route, drawn, accepted⟩
    by_cases closed : (attempt ports server request).username = [] ∨
        server.lockout.isLocked (attempt ports server request).username
          (attempt ports server request).now = true
    · rw [if_pos closed] at accepted
      cases accepted
    rw [if_neg closed] at accepted
    obtain ⟨named, unlocked⟩ := not_or.mp closed
    by_cases missing : (attempt ports server request).password = []
    · rw [if_pos missing] at accepted
      cases accepted
    rw [if_neg missing] at accepted
    cases known : (attempt ports server request).verified with
    | error e =>
      rw [known] at accepted
      cases accepted
    | ok verified =>
      cases verified with
      | none =>
        rw [known] at accepted
        cases accepted
      | some adminUserId =>
        exact ⟨route, named, Bool.eq_false_of_not_eq_true unlocked, missing, ⟨adminUserId, known⟩, drawn⟩

theorem loginSessions (route : request.route = .login) : sessionUnder token (serve ports server request).1 =
    if token ≠ [] ∧ generateTokenFromUrandom request.urandom = token then
      ((acceptedAs ports server request).map fun adminUserId =>
        (⟨adminUserId, request.now + kSessionTtlSeconds⟩ : AdminSession)).or (sessionUnder token server)
    else sessionUnder token server := by
  unfold sessionUnder acceptedAs serve login
  rw [route]
  dsimp only
  cases accepted : (postLogin server.lockout (attempt ports server request)).2.adminUserId with
  | none => simp
  | some adminUserId =>
    unfold AdminSessionStore.createSession
    by_cases empty : generateTokenFromUrandom request.urandom = []
    · simp only [empty, if_true]
      rw [if_neg]
      rintro ⟨nonempty, rfl⟩
      exact nonempty rfl
    · simp only [empty, if_false, lookupInsert]
      by_cases same : generateTokenFromUrandom request.urandom = token
      · subst same
        simp [empty]
      · rw [Function.update_of_ne (Ne.symm same), if_neg (fun both => same both.2)]

theorem otherSessions (route : request.route ≠ .login) : (serve ports server request).1.sessions =
    if request.route = .logout ∧ (requireSession server.sessions request).isSome = true then
      server.sessions.invalidate (request.bearer.getD [])
    else server.sessions := by
  unfold serve
  cases is : request.route with
  | login => exact absurd is route
  | logout => cases requireSession server.sessions request <;> simp
  | aliasesExport => cases requireSession server.sessions request <;> simp
  | reviewQueue => cases requireSession server.sessions request <;> simp
  | review =>
    cases requireSession server.sessions request with
    | none => simp
    | some adminUserId =>
      simp only [review]
      split
      · simp
      · split <;> simp

theorem logsOutExact : LogsOut ports server request token ↔ request.route = .logout ∧
    request.bearer = some token ∧ (requireSession server.sessions request).isSome = true := by
  unfold LogsOut serve
  refine and_congr_right fun route => and_congr_right fun _ => ?_
  rw [route]
  cases requireSession server.sessions request <;> simp

theorem refusedExact (route : request.route ≠ .login) : (serve ports server request).2.status ≠ 401 ↔
    (requireSession server.sessions request).isSome = true := by
  have answered (content : Except String Bytes) : (answer content).status ≠ 401 := by
    cases content <;> simp [answer]
  unfold serve
  cases is : request.route with
  | login => exact absurd is route
  | logout => cases requireSession server.sessions request <;> simp
  | aliasesExport => cases requireSession server.sessions request <;> simp [answered]
  | reviewQueue => cases requireSession server.sessions request <;> simp [answered]
  | review =>
    cases requireSession server.sessions request with
    | none => simp
    | some adminUserId =>
      simp only [review, Option.isSome_some, iff_true]
      split
      · simp
      · split
        · simp
        · dsimp only
          split <;> simp

omit [FloatOps F] in
theorem sessionExact : (requireSession server.sessions request).isSome = true ↔
    ∃ token session, request.bearer = some token ∧ sessionUnder token server = some session ∧
      request.now < session.expiresAtEpochSeconds := by
  unfold requireSession AdminSessionStore.validate sessionUnder
  cases bearer : request.bearer with
  | none => simp
  | some token =>
    have nonempty := bearerNonempty bearer
    cases found : lookup server.sessions.sessions token with
    | none => simp [nonempty, found]
    | some session =>
      by_cases over_ : session.expiresAtEpochSeconds ≤ request.now
      · simp [nonempty, found, over_, UInt64.not_lt.mpr over_]
      · simp [nonempty, found, over_, UInt64.not_le.mp over_]

theorem writesEach (ports : AdminPorts F) (nonempty : token ≠ []) :
    Writes (step ports) (sessionUnder token) (writesUnder ports token) := by
  intro server event
  cases event with
  | elsewhere call => rfl
  | request request =>
    unfold step writesUnder
    by_cases route : request.route = .login
    · rw [loginSessions route]
      by_cases drawn : generateTokenFromUrandom request.urandom = token
      · simp only [route, drawn, nonempty, ne_eq, not_false_eq_true, and_self, if_true]
        cases acceptedAs ports server request <;> rfl
      · simp [route, drawn]
    · unfold sessionUnder
      dsimp only
      rw [otherSessions route]
      by_cases leaves : request.route = .logout ∧ (requireSession server.sessions request).isSome = true
      · obtain ⟨other, session, bearer, -⟩ := sessionExact.mp leaves.2
        simp only [leaves, bearer, AdminSessionStore.invalidate, lookupErase, Option.getD_some, and_self, if_true]
        by_cases same : other = token
        · simp [same]
        · rw [Function.update_of_ne (Ne.symm same)]
          simp [same]
      · have quiet : ¬ (request.route = .logout ∧ request.bearer = some token ∧
            (requireSession server.sessions request).isSome = true) :=
          fun all => leaves ⟨all.1, all.2.2⟩
        rw [if_neg leaves, if_neg (fun both => route both.1), if_neg quiet]
        rfl

def Touches (ports : AdminPorts F) (token : Bytes) (server : AdminServer F) (event : AdminEvent F) : Prop :=
  ∃ request, event = .request request ∧ (Gives ports server request token ∨ LogsOut ports server request token)

theorem writesNone {event : AdminEvent F} :
    writesUnder ports token server event = none ↔ ¬ Touches ports token server event := by
  unfold Touches
  cases event with
  | elsewhere call => simp [writesUnder]
  | request request =>
    simp only [AdminEvent.request.injEq, exists_eq_left', givesExact, logsOutExact, writesUnder]
    by_cases given : request.route = .login ∧ generateTokenFromUrandom request.urandom = token
    · simp [given]
    · by_cases left : request.route = .logout ∧ request.bearer = some token ∧
          (requireSession server.sessions request).isSome = true
      · simp [left]
      · rw [if_neg given, if_neg left]
        simp only [true_iff]
        rintro (⟨route, drawn, -⟩ | out)
        · exact given ⟨route, drawn⟩
        · exact left out

omit [FloatOps F] in
theorem wroteSession {event : AdminEvent F} {session : AdminSession} :
    writesUnder ports token server event = some (some session) ↔ ∃ login, event = .request login ∧
      Gives ports server login token ∧ acceptedAs ports server login = some session.adminUserId ∧
        session.expiresAtEpochSeconds = login.now + kSessionTtlSeconds := by
  cases event with
  | elsewhere call => simp [writesUnder]
  | request request =>
    simp only [AdminEvent.request.injEq, exists_eq_left', givesExact, writesUnder]
    by_cases given : request.route = .login ∧ generateTokenFromUrandom request.urandom = token
    · rw [if_pos given]
      obtain ⟨adminUserId, expires⟩ := session
      cases accepted : acceptedAs ports server request with
      | none => simp
      | some other => simp [given, eq_comm]
    · rw [if_neg given]
      split
      · simp
        tauto
      · simp
        tauto

end

theorem letIn {F : Type} [FloatOps F] (ports : AdminPorts F) (users : List AdminUser)
    (aliases : PostgresIdentityAliasStore F) (events : List (AdminEvent F)) (request : AdminRequest)
    (entering : request.route ≠ .login) :
    (serve ports (run (step ports) (AdminServer.fresh users aliases) events) request).2.status ≠ 401 ↔
      ∃ token before login after, request.bearer = some token ∧
        events = before ++ .request login :: after ∧
        Gives ports (run (step ports) (AdminServer.fresh users aliases) before) login token ∧
        request.now < login.now + kSessionTtlSeconds ∧
        Along (step ports) (fun server event => ¬ Touches ports token server event)
          (run (step ports) (AdminServer.fresh users aliases) (before ++ [.request login])) after := by
  have still (token : Bytes) (s : AdminServer F) (later : List (AdminEvent F)) :
      Quiet (step ports) (writesUnder ports token) s later ↔
        Along (step ports) (fun server event => ¬ Touches ports token server event) s later :=
    alongExact (I := fun _ => True) (fun _ _ _ => writesNone) (fun _ _ _ => trivial) trivial
  have unopened (token : Bytes) : sessionUnder token (AdminServer.fresh users aliases) = none := by
    simp [sessionUnder, AdminServer.fresh, lookup]
  rw [refusedExact entering, sessionExact]
  constructor
  · rintro ⟨token, session, bearer, found, inTime⟩
    obtain ⟨initial, -⟩ | ⟨before, event, after, last⟩ :=
      (valueSince (writesEach ports (bearerNonempty bearer))).mp found
    · rw [unopened] at initial
      contradiction
    · obtain ⟨login, rfl, gives, -, expires⟩ := wroteSession.mp last.wrote
      exact ⟨token, before, login, after, bearer, last.split, gives, expires ▸ inTime,
        (still token _ after).mp last.quiet⟩
  · rintro ⟨token, before, login, after, bearer, split, gives, inTime, quiet⟩
    obtain ⟨adminUserId, accepted⟩ := Option.isSome_iff_exists.mp (givesExact.mp gives).2.2
    have wrote : writesUnder ports token (run (step ports) (AdminServer.fresh users aliases) before)
        (.request login) = some (some ⟨adminUserId, login.now + kSessionTtlSeconds⟩) :=
      wroteSession.mpr ⟨login, rfl, gives, accepted, rfl⟩
    refine ⟨token, ⟨adminUserId, login.now + kSessionTtlSeconds⟩, bearer, ?_, inTime⟩
    exact wroteLast (writesEach ports (bearerNonempty bearer)) ⟨split, wrote, (still token _ after).mpr quiet⟩

def plainPorts : AdminPorts ℚ := ⟨.ok, fun given _ => .ok given, fun _ => 0⟩

def admins : List AdminUser := [⟨1, ascii "ann", ascii "secret"⟩]

def adminLogin : AdminRequest where
  route := .login
  params := [("username", ascii "ann"), ("password", ascii "secret")]
  now := 100
  urandom := List.replicate 32 0

def lookIn : AdminRequest where
  route := .aliasesExport
  authorization := ascii "Bearer " ++ List.replicate 64 48
  now := 3699

theorem lookedIn : ∃ token before login after, lookIn.bearer = some token ∧
    [AdminEvent.request adminLogin] = before ++ .request login :: after ∧
    Gives plainPorts (run (step plainPorts) (AdminServer.fresh admins {}) before) login token ∧
    lookIn.now < login.now + kSessionTtlSeconds ∧
    Along (step plainPorts) (fun server event => ¬ Touches plainPorts token server event)
      (run (step plainPorts) (AdminServer.fresh admins {}) (before ++ [.request login])) after :=
  (letIn plainPorts admins {} [.request adminLogin] lookIn (by decide)).mp (by decide +kernel)

end SeedOrigin.AdminSessions
