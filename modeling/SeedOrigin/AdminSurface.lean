import SeedOrigin.AliasStores
import SeedOrigin.Decimal
import SeedOrigin.Lockouts
import SeedOrigin.Runs

/-! The admin surface: its logins, its sessions and the review of identity aliases.
Requests are served one after another. What the database's crypt, the driver's text
parameters and strtof compute is left open. -/
namespace SeedOrigin.AdminSurface
open SeedOrigin.Octets SeedOrigin.Numbers SeedOrigin.Maps SeedOrigin.Tables SeedOrigin.Decimal
open SeedOrigin.Lockouts SeedOrigin.AliasStores

structure AdminSession where
  adminUserId : Int
  expiresAtEpochSeconds : UInt64
  deriving DecidableEq

structure AdminSessionStore where
  sessions : Std.ExtTreeMap Bytes AdminSession := ∅

def hexDigit (n : Nat) : UInt8 := UInt8.ofNat (if n < 10 then 48 + n else 87 + n)

-- read is what could be read from /dev/urandom.
def generateTokenFromUrandom (read : Bytes) : Bytes :=
  if read.length < 32 then []
  else (read.take 32).flatMap fun byte => [hexDigit (byte.toNat / 16), hexDigit (byte.toNat % 16)]

namespace AdminSessionStore

-- The sum wraps at 2 ^ 64.
def createSession (store : AdminSessionStore) (token : Bytes) (adminUserId : Int)
    (nowEpochSeconds ttlSeconds : UInt64) : AdminSessionStore × Bytes :=
  if token = [] then (store, token)
  else (⟨store.sessions.insert token ⟨adminUserId, nowEpochSeconds + ttlSeconds⟩⟩, token)

def validate (store : AdminSessionStore) (token : Bytes) (nowEpochSeconds : UInt64) : Option Int :=
  if token = [] then none
  else match lookup store.sessions token with
    | none => none
    | some session =>
      if session.expiresAtEpochSeconds ≤ nowEpochSeconds then none else some session.adminUserId

def invalidate (store : AdminSessionStore) (token : Bytes) : AdminSessionStore :=
  ⟨store.sessions.erase token⟩

end AdminSessionStore

structure AdminUser where
  id : Int
  username : Bytes
  passwordHash : Bytes

structure AdminPorts (F : Type) where
  text : Bytes → Except String Bytes
  crypt : Bytes → Bytes → Except String Bytes
  strtof : Bytes → F

def verifyCredentials {F : Type} (ports : AdminPorts F) (users : List AdminUser)
    (username password : Bytes) : Except String (Option Int) := do
  let name ← ports.text username
  let given ← ports.text password
  match select AdminUser.username users name with
  | none => return none
  | some user =>
    let hash ← ports.crypt given user.passwordHash
    return if hash = user.passwordHash then some user.id else none

structure AdminServer (F : Type) where
  lockout : AdminLoginLockout
  sessions : AdminSessionStore := {}
  users : List AdminUser := []
  aliases : PostgresIdentityAliasStore F := {}

inductive AdminRoute where
  | login | logout | aliasesExport | reviewQueue | review
  deriving DecidableEq

-- A header that is not there is empty, and so is a parameter.
structure AdminRequest where
  route : AdminRoute
  authorization : Bytes := []
  params : List (String × Bytes) := []
  now : UInt64
  urandom : Bytes := []

structure AdminResponse where
  status : Nat
  content : Bytes := []
  deriving DecidableEq

def kSessionTtlSeconds : UInt64 := 60 * 60
def kMaxLoginAttempts : UInt64 := 3
def kLockoutSeconds : UInt64 := 15 * 60

def jsonEscape (value : Bytes) : Bytes :=
  value.flatMap fun c => if c = 34 ∨ c = 92 then [92, c] else [c]

def reviewStatusName : AliasReviewStatus → Bytes
  | .humanConfirmed => ascii "confirmed"
  | .humanRejected => ascii "rejected"
  | .unreviewed => ascii "unreviewed"

def canonicalClaimedId (claimedId : Bytes) : Bytes :=
  claimedId.map fun c => if 65 ≤ c ∧ c ≤ 90 then c + 32 else c

def parseReviewStatus (name : Bytes) : Option AliasReviewStatus :=
  if name = ascii "confirmed" then some .humanConfirmed
  else if name = ascii "rejected" then some .humanRejected
  else none

def recordJson {F : Type} [FloatOps F] (record : IdentityAliasRecord F) : Bytes :=
  ascii "\x7b\"aliasId\":" ++ intText record.aliasId ++
    ascii ",\"canonicalClaimedId\":\"" ++ jsonEscape record.canonicalClaimedId ++
    ascii "\",\"createdTick\":" ++ natText record.createdTick.toNat ++
    ascii ",\"lastUsedTick\":" ++ natText record.lastUsedTick.toNat ++
    ascii ",\"confidence\":" ++ FloatOps.text record.confidence ++
    ascii ",\"reviewStatus\":\"" ++ reviewStatusName record.reviewStatus ++ ascii "\"\x7d"

def recordsToJson {F : Type} [FloatOps F] (records : List (IdentityAliasRecord F)) : Bytes :=
  [91] ++ List.intercalate [44] (records.map recordJson) ++ [93]

namespace AdminRequest

def param (request : AdminRequest) (name : String) : Option Bytes :=
  (request.params.find? (fun item => item.1 = name)).map Prod.snd

def paramValue (request : AdminRequest) (name : String) : Bytes := (request.param name).getD []

-- The token of a "Bearer " header. An empty one is none.
def bearer (request : AdminRequest) : Option Bytes :=
  let bearerPrefix := ascii "Bearer "
  if request.authorization.length ≤ bearerPrefix.length ∨
      request.authorization.take bearerPrefix.length ≠ bearerPrefix then none
  else some (request.authorization.drop bearerPrefix.length)

end AdminRequest

def requireSession (sessions : AdminSessionStore) (request : AdminRequest) : Option Int :=
  request.bearer.bind fun token => sessions.validate token request.now

section
variable {F : Type} [FloatOps F] (ports : AdminPorts F) (server : AdminServer F) (request : AdminRequest)

omit [FloatOps F] in
def attempt : AdminAttempt where
  username := request.paramValue "username"
  password := request.paramValue "password"
  verified := verifyCredentials ports server.users (request.paramValue "username")
    (request.paramValue "password")
  now := request.now

omit [FloatOps F] in
def login : AdminServer F × AdminResponse :=
  let (lockout, response) := postLogin server.lockout (attempt ports server request)
  match response.adminUserId with
  | none => ({ server with lockout }, ⟨response.status, ascii response.content⟩)
  | some adminUserId =>
    let (sessions, token) := server.sessions.createSession (generateTokenFromUrandom request.urandom)
      adminUserId request.now kSessionTtlSeconds
    ({ server with lockout, sessions },
      ⟨200, ascii "\x7b\"token\":\"" ++ jsonEscape token ++ ascii "\"\x7d"⟩)

def answer (content : Except String Bytes) : AdminResponse :=
  match content with
  | .error _ => ⟨500, []⟩
  | .ok content => ⟨200, content⟩

omit [FloatOps F] in
def pending (records : List (IdentityAliasRecord F)) : List (IdentityAliasRecord F) :=
  records.filter fun record => record.reviewStatus = .unreviewed

def review : AdminServer F × AdminResponse :=
  let claimedId := request.paramValue "claimedId"
  match parseReviewStatus (request.paramValue "status") with
  | none => (server, ⟨400, ascii "\x7b\"error\":\"claimedId and status(confirmed|rejected) are required\"\x7d"⟩)
  | some status =>
    if claimedId = [] then
      (server, ⟨400, ascii "\x7b\"error\":\"claimedId and status(confirmed|rejected) are required\"\x7d"⟩)
    else
      let confidence := ((request.param "confidence").map ports.strtof).getD (FloatOps.lit 1)
      let (aliases, reviewed) :=
        server.aliases.reviewAlias ports.text (canonicalClaimedId claimedId) status confidence
      ({ server with aliases }, match reviewed with
        | .error _ => ⟨500, []⟩
        | .ok false => ⟨404, ascii "\x7b\"error\":\"alias not found or confidence out of range\"\x7d"⟩
        | .ok true => ⟨204, []⟩)

def serve : AdminServer F × AdminResponse :=
  match request.route with
  | .login => login ports server request
  | route =>
    match requireSession server.sessions request with
    | none => (server, ⟨401, []⟩)
    | some _ =>
      match route with
      | .logout =>
        ({ server with sessions := server.sessions.invalidate (request.bearer.getD []) }, ⟨204, []⟩)
      | .aliasesExport => (server, answer (server.aliases.exportRecords.map recordsToJson))
      | .reviewQueue =>
        (server, answer (server.aliases.exportRecords.map fun records => recordsToJson (pending records)))
      | _ => review ports server request

inductive AdminEvent (F : Type) where
  | request (request : AdminRequest)
  | elsewhere (call : AliasCall F)

def step (server : AdminServer F) : AdminEvent F → AdminServer F
  | .request request => (serve ports server request).1
  | .elsewhere call => { server with aliases := (server.aliases.call ports.text call).1 }

end

def AdminServer.fresh {F : Type} (users : List AdminUser) (aliases : PostgresIdentityAliasStore F) :
    AdminServer F :=
  { lockout := ⟨kMaxLoginAttempts, kLockoutSeconds, ∅⟩, users, aliases }

end SeedOrigin.AdminSurface
