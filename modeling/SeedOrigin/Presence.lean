import SeedOrigin.FieldState

/-! FieldSessionPresence: the character a session is given after login, and how it
is let go. The port that names the account of a session is a parameter. -/
namespace SeedOrigin.Presence
open SeedOrigin.Octets SeedOrigin.Numbers SeedOrigin.Character SeedOrigin.ClientInput
open SeedOrigin.Sessions SeedOrigin.Maps SeedOrigin.FieldState
open FloatOps (lit)

structure LoginFieldSpawnSettings (F : Type) where
  x : F
  y : F
  z : F
  hp : Int := 10
  mp : Int := 10
  maxHp : Int := 1024
  maxMp : Int := 1024
  playerName : Bytes := []

def clampSpawnResource (value maxValue : Int) : Int :=
  let floored := if value < 0 then 0 else value
  let cap := if maxValue < 0 then 0 else maxValue
  if floored > cap then cap else floored

structure FieldSessionPresence (F : Type) where
  field : Field F
  operatorNamesByAuthId : IntMap Bytes := ∅
  deriving DecidableEq

abbrev PlayerIdPort := Int → Bytes → Option Int

section
variable {F : Type}

def LoginFieldSpawnSettings.initial [FloatOps F] : LoginFieldSpawnSettings F :=
  { x := lit 0, y := lit 0, z := lit 0 }

def nameClaimedByOtherAuth (presence : FieldSessionPresence F) (trimmedName : Bytes) (authPlayerId : Int) : Bool :=
  presence.operatorNamesByAuthId.toList.any
    (fun entry => entry.1 != authPlayerId && entry.2 == trimmedName)

def displayName (presence : FieldSessionPresence F) (settings : LoginFieldSpawnSettings F) (authPlayerId : Int) :
    Bytes :=
  presence.operatorNamesByAuthId.getD authPlayerId (trimPlayerName settings.playerName)

def nameRefused (presence : FieldSessionPresence F) (name : Bytes) (authPlayerId : Int) : Bool :=
  name = [] || nameClaimedByOtherAuth presence name authPlayerId || presence.field.hasPlayerName name

def spawned (settings : LoginFieldSpawnSettings F) (gameplayId authPlayerId : Int) : Player F :=
  let status := Status.make (clampSpawnResource settings.hp settings.maxHp)
    (clampSpawnResource settings.mp settings.maxMp)
  let player : Player F :=
    { id := gameplayId, status := status, position := ⟨gameplayId, settings.x, settings.y, settings.z⟩ }
  player.setAuthPlayerId authPlayerId

def placeAfterLogin (port : PlayerIdPort) (settings : LoginFieldSpawnSettings F)
    (presence : FieldSessionPresence F) (sessionId : Int) (claimedId : Bytes) : FieldSessionPresence F × Bool :=
  if sessionId ≤ 0 then (presence, false)
  else match port sessionId claimedId with
    | none => (presence, false)
    | some authPlayerId =>
      if authPlayerId ≤ 0 then (presence, false)
      else match presence.field.findPlayerByAuthId authPlayerId with
        | some existing => match presence.field.bindSession sessionId existing.id with
          | none => (presence, false)
          | some field => ({ presence with field := field }, true)
        | none =>
          let name := displayName presence settings authPlayerId
          if nameRefused presence name authPlayerId then (presence, false)
          else
            let (field, gameplayId) := presence.field.allocateGameplayId
            if gameplayId ≤ 0 then ({ presence with field := field }, false)
            else match (spawned settings gameplayId authPlayerId).setPlayerName name with
              | none => ({ presence with field := field }, false)
              | some player => match field.putPlayer player with
                | none => ({ presence with field := field }, false)
                | some field =>
                  let names := presence.operatorNamesByAuthId.insert authPlayerId name
                  match field.bindSession sessionId gameplayId with
                  | none => (⟨field, names⟩, false)
                  | some field => (⟨field, names⟩, true)

def removeAfterLogout (presence : FieldSessionPresence F) (sessionId : Int) : FieldSessionPresence F :=
  if sessionId ≤ 0 then presence
  else { presence with field := (presence.field.unbindSession sessionId).1 }

def releaseAfterStop (presence : FieldSessionPresence F) (sessionId : Int) : FieldSessionPresence F :=
  if sessionId ≤ 0 then presence
  else
    let gameplayId := presence.field.playerIdForSession sessionId
    let field := (presence.field.unbindSession sessionId).1
    if gameplayId ≤ 0 then { presence with field := field }
    else { presence with field := (field.unsetPlayer gameplayId).1 }

def FirstFree (field : Field F) (candidate : Int) : Prop :=
  field.nextGameplayId ≤ candidate ∧ candidate < maxInt64 ∧ field.taken candidate = false ∧
    ∀ d, field.nextGameplayId ≤ d → d < candidate → field.taken d = true

structure Creates (settings : LoginFieldSpawnSettings F) (before : FieldSessionPresence F)
    (auth gameplayId : Int) : Prop where
  absent : before.field.findPlayerByAuthId auth = none
  allowed : nameRefused before (displayName before settings auth) auth = false
  named : acceptsName (displayName before settings auth) = true
  free : FirstFree before.field gameplayId

theorem firstUnique {field : Field F} {g h : Int} (left : FirstFree field g) (right : FirstFree field h) :
    g = h := by
  obtain ⟨lowG, -, freeG, allG⟩ := left
  obtain ⟨lowH, -, freeH, allH⟩ := right
  obtain less | same | more := lt_trichotomy g h
  · rw [allH g lowG less] at freeG
    contradiction
  · exact same
  · rw [allG h lowH more] at freeH
    contradiction

theorem allocateCases {taken : Int → Bool} (rounds : Nat) (next : Int) {candidate after : Int}
    (h : allocateFrom taken rounds next = (candidate, after)) :
    (candidate = 0 ∧ after = next + rounds ∧ ∀ d, next ≤ d → d < after → taken d = true) ∨
    (next ≤ candidate ∧ candidate < next + rounds ∧ after = candidate + 1 ∧
      taken candidate = false ∧ ∀ d, next ≤ d → d < candidate → taken d = true) := by
  induction rounds generalizing next with
  | zero =>
    obtain ⟨rfl, rfl⟩ := Prod.mk.inj h
    exact .inl ⟨rfl, by simp, fun d low high => by omega⟩
  | succ rounds ih =>
    unfold allocateFrom at h
    cases free : taken next with
    | false =>
      simp only [free, Bool.false_eq_true, if_false, Prod.mk.injEq] at h
      obtain ⟨rfl, rfl⟩ := h
      exact .inr ⟨by omega, by omega, rfl, free, fun d low high => by omega⟩
    | true =>
      simp only [free, if_true] at h
      have first (d : Int) (low : next ≤ d) (rest : next + 1 ≤ d → taken d = true) :
          taken d = true := by
        by_cases here : d = next
        · rw [here]
          exact free
        · exact rest (by omega)
      obtain ⟨none, last, all⟩ | ⟨low, high, last, found, all⟩ := ih (next + 1) h
      · exact .inl ⟨none, by push_cast; omega, fun d from' upTo => first d from' (fun l => all d l upTo)⟩
      · exact .inr ⟨by omega, by push_cast; omega, last, found,
          fun d from' upTo => first d from' (fun l => all d l upTo)⟩

theorem allocateShape (field : Field F) : ∃ next,
    (field.allocateGameplayId).1 = { field with nextGameplayId := next } ∧
    field.nextGameplayId ≤ next ∧
    (∀ d, field.nextGameplayId ≤ d → d + 1 < next → field.taken d = true) ∧
    (((field.allocateGameplayId).2 = 0 ∧ ∀ g, ¬ FirstFree field g) ∨
      (FirstFree field (field.allocateGameplayId).2 ∧ next = (field.allocateGameplayId).2 + 1)) := by
  unfold Field.allocateGameplayId
  cases found : allocateFrom field.taken (maxInt64 - field.nextGameplayId).toNat
      field.nextGameplayId with
  | mk candidate next =>
    refine ⟨next, rfl, ?_⟩
    obtain ⟨none, last, all⟩ | ⟨low, high, last, free, all⟩ := allocateCases _ _ found
    · refine ⟨by omega, fun d from' upTo => all d from' (by omega), .inl ⟨none, ?_⟩⟩
      intro g ⟨low, high, free, _⟩
      rw [all g low (by omega)] at free
      contradiction
    · refine ⟨by omega, fun d from' upTo => all d from' (by omega), .inr ⟨⟨low, ?_, free, all⟩, last⟩⟩
      dsimp only
      omega

inductive Placed (settings : LoginFieldSpawnSettings F) (before : FieldSessionPresence F)
    (sessionId auth : Int) : FieldSessionPresence F → Bool → Prop where
  | refused (next : Int) (grows : before.field.nextGameplayId ≤ next)
      (skipped : ∀ d, before.field.nextGameplayId ≤ d → d + 1 < next → before.field.taken d = true)
      (blocked : ∀ g, 0 < g → ¬ Creates settings before auth g) :
      Placed settings before sessionId auth
        { before with field := { before.field with nextGameplayId := next } } false
  | rebound {player : Player F} {field : Field F}
      (found : before.field.findPlayerByAuthId auth = some player)
      (bound : before.field.bindSession sessionId player.id = some field) :
      Placed settings before sessionId auth { before with field := field } true
  | created {player : Player F} {field : Field F} {names : IntMap Bytes}
      (creates : Creates settings before auth player.id) (positive : 0 < player.id)
      (account : player.authPlayerId = auth)
      (bound : Field.bindSession { before.field with
          nextGameplayId := player.id + 1
          playerList := before.field.playerList.insert player.id player } sessionId player.id =
        some field) :
      Placed settings before sessionId auth ⟨field, names⟩ true

theorem placedSame {settings : LoginFieldSpawnSettings F} {before : FieldSessionPresence F}
    (sessionId : Int) {auth : Int} (blocked : ∀ g, 0 < g → ¬ Creates settings before auth g) :
    Placed settings before sessionId auth before false :=
  .refused before.field.nextGameplayId (le_refl _) (fun d low high => by omega) blocked

theorem spawnedName {settings : LoginFieldSpawnSettings F} {gameplayId auth : Int} {name : Bytes}
    {player : Player F} (pos : 0 < auth)
    (h : (spawned settings gameplayId auth).setPlayerName name = some player) :
    acceptsName name = true ∧ player.id = gameplayId ∧ player.authPlayerId = auth := by
  obtain ⟨accepted, rfl⟩ := Player.nameSet h
  have kept : ¬ auth < 0 := by omega
  exact ⟨accepted, rfl, by simp [spawned, Player.setAuthPlayerId, kept]⟩

theorem bindResident {field : Field F} {sessionId gameplayId : Int} (session : 0 < sessionId)
    (player : 0 < gameplayId) (there : field.playerList.contains gameplayId = true) :
    ∃ bound, field.bindSession sessionId gameplayId = some bound := by
  unfold Field.bindSession
  rw [if_neg (by omega), if_neg (by simp [there])]
  exact ⟨_, rfl⟩

theorem placeCases (port : PlayerIdPort) (settings : LoginFieldSpawnSettings F)
    (before : FieldSessionPresence F) {sessionId auth : Int} {claimedId : Bytes}
    (account : port sessionId claimedId = some auth) (authPos : 0 < auth) (sessionPos : 0 < sessionId) :
    Placed settings before sessionId auth
      (placeAfterLogin port settings before sessionId claimedId).1
      (placeAfterLogin port settings before sessionId claimedId).2 := by
  have session : ¬ sessionId ≤ 0 := by omega
  have positive : ¬ auth ≤ 0 := by omega
  unfold placeAfterLogin
  simp only [if_neg session, account, if_neg positive]
  cases found : before.field.findPlayerByAuthId auth with
  | some existing =>
    dsimp only
    cases bound : before.field.bindSession sessionId existing.id with
    | none =>
      refine placedSame sessionId (fun g _ creates => ?_)
      rw [creates.absent] at found
      contradiction
    | some field => exact .rebound found bound
  | none =>
    dsimp only
    cases refused : nameRefused before (displayName before settings auth) auth with
    | true =>
      refine placedSame sessionId (fun g _ creates => ?_)
      rw [creates.allowed] at refused
      contradiction
    | false =>
      obtain ⟨next, shape, grows, skipped, ends⟩ := allocateShape before.field
      have kept (blocked : ∀ g, 0 < g → ¬ Creates settings before auth g) :
          Placed settings before sessionId auth
            { before with field := { before.field with nextGameplayId := next } } false :=
        .refused next grows skipped blocked
      simp only [Bool.false_eq_true, if_false, shape]
      by_cases none : (before.field.allocateGameplayId).2 ≤ 0
      · rw [if_pos none]
        refine kept (fun g pos creates => ?_)
        obtain ⟨-, no⟩ | ⟨first, -⟩ := ends
        · exact no g creates.free
        · have same := firstUnique first creates.free
          omega
      · rw [if_neg none]
        obtain ⟨zero, -⟩ | ⟨first, last⟩ := ends
        · omega
        cases named : (spawned settings (before.field.allocateGameplayId).2 auth).setPlayerName
            (displayName before settings auth) with
        | none =>
          refine kept (fun g pos creates => ?_)
          simp [Player.setPlayerName, creates.named] at named
        | some player =>
          obtain ⟨accepted, id, owner⟩ := spawnedName authPos named
          rw [← id] at first last none ⊢
          have noNpc : (before.field.findNpc player.id).isSome = false := by
            have whole := first.2.2.1
            simp only [Field.taken, Bool.or_eq_false_iff] at whole
            exact whole.1.2
          have fits : ¬ (player.id ≤ 0 ∨ (Field.findNpc
              { before.field with nextGameplayId := next } player.id).isSome = true) := by
            intro bad
            rcases bad with bad | bad
            · exact none bad
            · have same : (before.field.findNpc player.id).isSome = true := bad
              rw [noNpc] at same
              contradiction
          simp only [Field.putPlayer, if_neg fits]
          have resident : ({ before.field with
              nextGameplayId := next
              playerList := before.field.playerList.insert player.id player } :
              Field F).playerList.contains player.id = true := by simp
          obtain ⟨bound, made⟩ := bindResident sessionPos (by omega) resident
          simp only [made]
          rw [last] at made
          exact .created ⟨found, refused, accepted, first⟩ (by omega) owner made

theorem placeAny (port : PlayerIdPort) (settings : LoginFieldSpawnSettings F)
    (before : FieldSessionPresence F) (sessionId : Int) (claimedId : Bytes) :
    (placeAfterLogin port settings before sessionId claimedId = (before, false) ∧
      ∀ auth, port sessionId claimedId = some auth → 0 < auth → ¬ 0 < sessionId) ∨
    ∃ auth, port sessionId claimedId = some auth ∧ 0 < auth ∧ 0 < sessionId ∧
      Placed settings before sessionId auth
        (placeAfterLogin port settings before sessionId claimedId).1
        (placeAfterLogin port settings before sessionId claimedId).2 := by
  by_cases session : 0 < sessionId
  · cases account : port sessionId claimedId with
    | none =>
      refine .inl ⟨?_, nofun⟩
      unfold placeAfterLogin
      rw [if_neg (by omega), account]
    | some auth =>
      by_cases positive : 0 < auth
      · exact .inr ⟨auth, rfl, positive, session,
          placeCases port settings before account positive session⟩
      · refine .inl ⟨?_, fun other same more => ?_⟩
        · unfold placeAfterLogin
          rw [if_neg (by omega), account]
          dsimp only
          rw [if_pos (by omega)]
        · cases same
          exact absurd more positive
  · refine .inl ⟨?_, fun _ _ _ => session⟩
    unfold placeAfterLogin
    rw [if_pos (by omega)]

end

end SeedOrigin.Presence
