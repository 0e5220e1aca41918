import SeedOrigin.Presence
import SeedOrigin.Runs

/-! Which character a session id designates, over every order of logins, logouts
and releases. Session ids and gameplay ids are drawn from the same integers. -/
namespace SeedOrigin.SessionResolution
open SeedOrigin.Octets SeedOrigin.Numbers SeedOrigin.Character SeedOrigin.ClientInput
open SeedOrigin.Sessions SeedOrigin.Maps SeedOrigin.FieldState SeedOrigin.Presence SeedOrigin.Runs

-- The account of every session ever issued is kept beside the program's state.
structure World (F : Type) where
  registry : SessionRegistry := {}
  presence : FieldSessionPresence F
  accounts : IntMap Int := ∅
  deriving DecidableEq

inductive Event (F : Type) where
  | login (userId : Int) (claimedId : Bytes) (settings : LoginFieldSpawnSettings F)
  | logout (sessionId : Int)
  | stop (sessionId : Int)

abbrev AccountPort := Int → Bytes → { account : Int // 0 < account }

section
variable {F : Type}

def World.initial [FloatOps F] : World F := { presence := { field := Field.initial } }

def login (port : AccountPort) (w : World F) (userId : Int) (claimedId : Bytes)
    (settings : LoginFieldSpawnSettings F) : World F :=
  let opened := w.registry.openAuthenticatedSession userId
  if opened.2.authenticated = false then w
  else
    { registry := opened.1
      presence := (placeAfterLogin (fun s claim => some (port s claim).1) settings w.presence
        opened.2.internalId claimedId).1
      accounts := w.accounts.insert opened.2.internalId (port opened.2.internalId claimedId).1 }

def step (port : AccountPort) (w : World F) : Event F → World F
  | .login userId claimedId settings => login port w userId claimedId settings
  | .logout sessionId => { w with presence := removeAfterLogout w.presence sessionId }
  | .stop sessionId => { w with presence := releaseAfterStop w.presence sessionId }

def Belongs (w : World F) : Prop :=
  ∀ s a, lookup w.accounts s = some a →
    (w.presence.field.resolvePlayerId s = 0 ∧ w.presence.field.findPlayer s = none) ∨
    ∃ p, w.presence.field.findPlayer s = some p ∧ p.id = w.presence.field.resolvePlayerId s ∧
      p.authPlayerId = a

def Unclaimed (port : AccountPort) (w : World F) : Event F → Prop
  | .login userId claimedId settings =>
    (w.registry.openAuthenticatedSession userId).2.authenticated = true →
      ∀ g, Creates settings w.presence (port w.registry.nextInternalId claimedId).1 g →
        ∀ a, lookup w.accounts g = some a → a = (port w.registry.nextInternalId claimedId).1
  | _ => True

structure Sound (issued : Int) (account : Int → Option Int) (field : Field F) : Prop where
  positive : 1 ≤ field.nextGameplayId
  behind : field.nextGameplayId ≤ issued
  known : ∀ s a, account s = some a → 1 ≤ s ∧ s < issued
  every : ∀ s, 1 ≤ s → s < issued → ∃ a, account s = some a
  noNpc : field.npcList = ∅
  resident : ∀ g p, lookup field.playerList g = some p →
    p.id = g ∧ 0 < g ∧ g < field.nextGameplayId ∧ account g = some p.authPlayerId
  bound : ∀ s g, lookup field.sessionToPlayerId s = some g →
    ∃ p, lookup field.playerList g = some p ∧ account s = some p.authPlayerId
  paired : field.Paired

variable {issued : Int} {account : Int → Option Int} {field : Field F}

theorem containsLookup {V : Type} {entries : IntMap V} {k : Int} :
    entries.contains k = true ↔ ∃ v, lookup entries k = some v := by
  rw [← Std.ExtTreeMap.isSome_getElem?_eq_contains, Option.isSome_iff_exists]
  rfl

theorem soundIssued (sound : Sound issued account field) (first : 1 ≤ issued) (a : Int) :
    Sound (issued + 1) (Function.update account issued (some a)) field := by
  have older (s : Int) (b : Int) (h : account s = some b) :
      Function.update account issued (some a) s = some b := by
    have before := (sound.known s b h).2
    rw [Function.update_of_ne (by omega), h]
  refine { sound with behind := ?_, known := ?_, every := ?_, resident := ?_, bound := ?_ }
  · have behind := sound.behind
    omega
  · intro s b h
    by_cases here : s = issued
    · omega
    · rw [Function.update_of_ne here] at h
      have known := sound.known s b h
      omega
  · intro s low high
    by_cases here : s = issued
    · exact ⟨a, by rw [here, Function.update_self]⟩
    · rw [Function.update_of_ne here]
      exact sound.every s low (by omega)
  · intro g p h
    obtain ⟨id, pos, low, owner⟩ := sound.resident g p h
    exact ⟨id, pos, low, older g _ owner⟩
  · intro s g h
    obtain ⟨p, there, owner⟩ := sound.bound s g h
    exact ⟨p, there, older s _ owner⟩

theorem soundAllocated (sound : Sound issued account field) {next : Int}
    (grows : field.nextGameplayId ≤ next) (behind : next ≤ issued) :
    Sound issued account { field with nextGameplayId := next } := by
  refine { sound with positive := ?_, behind := behind, resident := ?_ }
  · exact le_trans sound.positive grows
  · intro g p h
    obtain ⟨id, pos, low, owner⟩ := sound.resident g p h
    exact ⟨id, pos, lt_of_lt_of_le low grows, owner⟩

theorem soundBound (sound : Sound issued account field) {s : Int} {p : Player F} {after : Field F}
    (there : lookup field.playerList p.id = some p) (owner : account s = some p.authPlayerId)
    (made : field.bindSession s p.id = some after) : Sound issued account after := by
  obtain ⟨-, -, -, paired, sessions⟩ := bindLookup sound.paired made
  obtain ⟨toPlayer, toSession, shape⟩ := bindShape made
  subst shape
  refine { sound with bound := ?_, paired := paired }
  intro r g h
  rw [sessions r] at h
  by_cases here : r = s
  · rw [if_pos here] at h
    obtain rfl := Option.some.inj h
    exact ⟨p, there, by rw [here, owner]⟩
  · rw [if_neg here] at h
    split at h
    · contradiction
    · exact sound.bound r g h

theorem soundUnbound (sound : Sound issued account field) (s : Int) :
    Sound issued account (field.unbindSession s).1 := by
  by_cases pos : 0 < s
  · obtain ⟨paired, sessions⟩ := unbindLookup sound.paired pos
    obtain ⟨toPlayer, toSession, shape⟩ := unbindShape field s
    rw [shape] at paired sessions ⊢
    refine { sound with bound := ?_, paired := paired }
    intro r g h
    rw [sessions] at h
    by_cases here : r = s
    · rw [here, Function.update_self] at h
      contradiction
    · rw [Function.update_of_ne here] at h
      exact sound.bound r g h
  · rw [unbindAbsent field pos]
    exact sound

theorem soundUnset (sound : Sound issued account field) (id : Int) :
    Sound issued account (field.unsetPlayer id).1 := by
  unfold Field.unsetPlayer
  dsimp only
  split
  · exact sound
  · obtain ⟨paired, sessions⟩ := forgetLookup sound.paired (field.resolvePlayerId id)
    obtain ⟨toPlayer, toSession, shape⟩ := forgetShape field (field.resolvePlayerId id)
    rw [shape] at paired sessions ⊢
    have kept (g : Int) (here : g ≠ field.resolvePlayerId id) :
        lookup (field.playerList.erase (field.resolvePlayerId id)) g = lookup field.playerList g := by
      rw [lookupErase, Function.update_of_ne here]
    refine { sound with resident := ?_, bound := ?_, paired := paired }
    · intro g p h
      by_cases here : g = field.resolvePlayerId id
      · dsimp only at h
        rw [here, lookupErase, Function.update_self] at h
        contradiction
      · exact sound.resident g p ((kept g here).symm.trans h)
    · intro s g h
      rw [sessions s] at h
      split at h
      · contradiction
      · rename_i free
        obtain ⟨p, there, owner⟩ := sound.bound s g h
        refine ⟨p, ?_, owner⟩
        have here : g ≠ field.resolvePlayerId id := by
          intro same
          rw [← same] at free
          exact free h
        exact (kept g here).trans there

theorem soundGrown (sound : Sound issued account field) {player : Player F}
    (low : field.nextGameplayId ≤ player.id) (positive : 0 < player.id)
    (behind : player.id + 1 ≤ issued) (owner : account player.id = some player.authPlayerId) :
    Sound issued account { field with
      nextGameplayId := player.id + 1
      playerList := field.playerList.insert player.id player } := by
  have older (g : Int) (p : Player F) (h : lookup field.playerList g = some p) :
      lookup (field.playerList.insert player.id player) g = some p := by
    have high := (sound.resident g p h).2.2.1
    rw [lookupInsert, Function.update_of_ne (by omega), h]
  refine { sound with positive := ?_, behind := behind, resident := ?_, bound := ?_ }
  · exact le_trans sound.positive (by dsimp only; omega)
  · intro g p h
    dsimp only at h ⊢
    by_cases here : g = player.id
    · rw [here, lookupInsert, Function.update_self] at h
      obtain rfl := Option.some.inj h
      rw [here]
      exact ⟨rfl, positive, by omega, owner⟩
    · rw [lookupInsert, Function.update_of_ne here] at h
      obtain ⟨id, pos, high, mine⟩ := sound.resident g p h
      exact ⟨id, pos, by omega, mine⟩
  · intro s g h
    obtain ⟨p, there, mine⟩ := sound.bound s g h
    exact ⟨p, older g p there, mine⟩

theorem foundResident (sound : Sound issued account field) {auth : Int} {p : Player F}
    (found : field.findPlayerByAuthId auth = some p) :
    lookup field.playerList p.id = some p ∧ p.authPlayerId = auth := by
  unfold Field.findPlayerByAuthId at found
  split at found
  · contradiction
  · simp only [Option.map_eq_some_iff] at found
    obtain ⟨⟨g, q⟩, entry, rfl⟩ := found
    have there : lookup field.playerList g = some q :=
      Std.ExtTreeMap.mem_toList_iff_getElem?_eq_some.mp (List.mem_of_find?_eq_some entry)
    obtain ⟨id, -⟩ := sound.resident g q there
    refine ⟨?_, by simpa using List.find?_some entry⟩
    rw [id]
    exact there

theorem takenIssued (sound : Sound issued account field) {d : Int}
    (low : field.nextGameplayId ≤ d) (taken : field.taken d = true) : d < issued := by
  unfold Field.taken at taken
  simp only [Bool.or_eq_true, containsLookup] at taken
  obtain (⟨p, there⟩ | npc) | ⟨g, there⟩ := taken
  · have high := (sound.resident d p there).2.2.1
    omega
  · unfold Field.findNpc at npc
    rw [sound.noNpc] at npc
    simp at npc
  · obtain ⟨p, -, owner⟩ := sound.bound d g there
    exact (sound.known d _ owner).2

theorem soundPlaced {settings : LoginFieldSpawnSettings F} {before after : FieldSessionPresence F}
    {auth : Int} {made : Bool} (sound : Sound issued account before.field) (first : 1 ≤ issued)
    (placed : Placed settings before issued auth after made)
    (unclaimed : ∀ g, Creates settings before auth g → ∀ a, account g = some a → a = auth) :
    Sound (issued + 1) (Function.update account issued (some auth)) after.field := by
  have opened := soundIssued sound first auth
  have owner : Function.update account issued (some auth) issued = some auth := Function.update_self ..
  -- Allocation never passes the session that is being placed.
  have stops (next : Int)
      (skipped : ∀ d, before.field.nextGameplayId ≤ d → d + 1 < next → before.field.taken d = true) :
      next ≤ issued + 1 := by
    by_contra far
    have there := takenIssued sound sound.behind (skipped issued sound.behind (by omega))
    omega
  cases placed with
  | refused next grows skipped blocked => exact soundAllocated opened grows (stops next skipped)
  | rebound found bound =>
    obtain ⟨there, same⟩ := foundResident sound found
    exact soundBound opened there (by rw [owner, same]) bound
  | @created player field names creates positive same bound =>
    obtain ⟨low, -, -, all⟩ := creates.free
    have last := stops (player.id + 1) (fun d from' upTo => all d from' (by omega))
    have mine : Function.update account issued (some auth) player.id = some player.authPlayerId := by
      rw [same]
      by_cases here : player.id = issued
      · rw [here, owner]
      · obtain ⟨a, known⟩ := sound.every player.id (by omega) (by omega)
        rw [Function.update_of_ne here, known, unclaimed player.id creates a known]
    have there : lookup (before.field.playerList.insert player.id player) player.id = some player := by
      rw [lookupInsert, Function.update_self]
    have grown := soundGrown opened low positive last mine
    exact soundBound grown there (by rw [owner, same]) bound

def Kept (w : World F) : Prop :=
  1 ≤ w.registry.nextInternalId ∧
    Sound w.registry.nextInternalId (lookup w.accounts) w.presence.field

theorem keptInitial [FloatOps F] : Kept (World.initial : World F) := by
  have empty {V : Type} (k : Int) : lookup (∅ : IntMap V) k = none := Std.ExtTreeMap.getElem?_empty
  refine ⟨le_refl _, ⟨le_refl _, le_refl _, ?_, ?_, rfl, ?_, ?_, ?_⟩⟩
  · intro s a h
    rw [show lookup (World.initial : World F).accounts s = none from empty s] at h
    contradiction
  · intro s low high
    have first : s < 1 := high
    omega
  · intro g p h
    rw [show lookup (World.initial : World F).presence.field.playerList g = none from empty g] at h
    contradiction
  · intro s g h
    rw [show lookup (World.initial : World F).presence.field.sessionToPlayerId s = none from empty s] at h
    contradiction
  · intro s g
    rw [show lookup (World.initial : World F).presence.field.sessionToPlayerId s = none from empty s,
      show lookup (World.initial : World F).presence.field.playerToSessionId g = none from empty g]
    simp

theorem keptBelongs {w : World F} (kept : Kept w) : Belongs w := by
  obtain ⟨-, sound⟩ := kept
  intro s a owner
  have pos : ¬ s ≤ 0 := by
    have known := sound.known s a owner
    omega
  unfold Field.findPlayer Field.resolvePlayerId
  rw [if_neg pos]
  cases resident : w.presence.field.playerList.contains s with
  | true =>
    obtain ⟨p, there⟩ := containsLookup.mp resident
    obtain ⟨id, -, -, mine⟩ := sound.resident s p there
    rw [owner] at mine
    exact .inr ⟨p, there, id, (Option.some.inj mine).symm⟩
  | false =>
    simp only [Bool.false_eq_true, if_false]
    rw [Std.ExtTreeMap.getD_eq_getD_getElem?]
    cases bound : w.presence.field.sessionToPlayerId[s]? with
    | none =>
      refine .inl ⟨rfl, ?_⟩
      cases zero : w.presence.field.playerList[(0 : Int)]? with
      | none => exact zero
      | some p =>
        have positive := (sound.resident 0 p zero).2.1
        omega
    | some g =>
      obtain ⟨p, there, mine⟩ := sound.bound s g bound
      rw [owner] at mine
      exact .inr ⟨p, there, (sound.resident g p there).1, (Option.some.inj mine).symm⟩

theorem issuedSession {registry : SessionRegistry} {userId : Int}
    (h : (registry.openAuthenticatedSession userId).2.authenticated = true) :
    (registry.openAuthenticatedSession userId).1.nextInternalId = registry.nextInternalId + 1 ∧
    (registry.openAuthenticatedSession userId).2.internalId = registry.nextInternalId := by
  unfold SessionRegistry.openAuthenticatedSession at h ⊢
  split at h
  · contradiction
  · rename_i open'
    rw [if_neg open']
    exact ⟨rfl, rfl⟩

theorem loginPlaced (port : AccountPort) {w : World F} {userId : Int} (claimedId : Bytes)
    (settings : LoginFieldSpawnSettings F) (first : 1 ≤ w.registry.nextInternalId)
    (issued : (w.registry.openAuthenticatedSession userId).2.authenticated = true) :
    (login port w userId claimedId settings).registry.nextInternalId = w.registry.nextInternalId + 1 ∧
    lookup (login port w userId claimedId settings).accounts =
      Function.update (lookup w.accounts) w.registry.nextInternalId
        (some (port w.registry.nextInternalId claimedId).1) ∧
    ∃ made, Placed settings w.presence w.registry.nextInternalId
      (port w.registry.nextInternalId claimedId).1
      (login port w userId claimedId settings).presence made := by
  obtain ⟨next, id⟩ := issuedSession issued
  unfold login
  simp only [issued, Bool.true_eq_false, if_false, id, lookupInsert, next, true_and]
  exact ⟨_, placeCases _ settings w.presence rfl (port _ _).2 (by omega)⟩

theorem keptStep (port : AccountPort) (w : World F) (e : Event F) (kept : Kept w)
    (unclaimed : Unclaimed port w e) : Kept (step port w e) := by
  obtain ⟨first, sound⟩ := kept
  cases e with
  | login userId claimedId settings =>
    cases issued : (w.registry.openAuthenticatedSession userId).2.authenticated with
    | false =>
      simp only [step, login, issued, if_true]
      exact ⟨first, sound⟩
    | true =>
      obtain ⟨next, accounts, made, placed⟩ := loginPlaced port claimedId settings first issued
      unfold Kept step
      dsimp only
      rw [next, accounts]
      exact ⟨by omega, soundPlaced sound first placed (unclaimed issued)⟩
  | logout sessionId =>
    refine ⟨first, ?_⟩
    unfold step removeAfterLogout
    dsimp only
    split
    · exact sound
    · exact soundUnbound sound sessionId
  | stop sessionId =>
    refine ⟨first, ?_⟩
    unfold step releaseAfterStop
    dsimp only
    split
    · exact sound
    · split
      · exact soundUnbound sound sessionId
      · exact soundUnset (soundUnbound sound sessionId) _

theorem claimedSpoils (port : AccountPort) (w : World F) (e : Event F) (kept : Kept w)
    (claimed : ¬ Unclaimed port w e) : ¬ Belongs (step port w e) := by
  obtain ⟨first, sound⟩ := kept
  cases e with
  | login userId claimedId settings =>
    unfold Unclaimed at claimed
    push Not at claimed
    obtain ⟨issued, g, creates, a, owner, other⟩ := claimed
    obtain ⟨next, accounts, made, placed⟩ := loginPlaced port claimedId settings first issued
    intro belongs
    have known := sound.known g a owner
    have older : lookup (step port w (.login userId claimedId settings)).accounts g = some a := by
      unfold step
      rw [accounts, Function.update_of_ne (by omega), owner]
    have designates := belongs g a older
    unfold step at designates
    dsimp only at designates
    generalize (login port w userId claimedId settings).presence = after at placed designates
    cases placed with
    | refused next grows skipped blocked => exact blocked g (by omega) creates
    | rebound found bound =>
      rw [creates.absent] at found
      contradiction
    | @created player field names creation positive same bound =>
      obtain rfl := firstUnique creation.free creates.free
      obtain ⟨toPlayer, toSession, shape⟩ := bindShape bound
      subst shape
      have self : (Field.resolvePlayerId { w.presence.field with
          nextGameplayId := player.id + 1
          playerList := w.presence.field.playerList.insert player.id player
          sessionToPlayerId := toPlayer
          playerToSessionId := toSession } player.id) = player.id := by
        unfold Field.resolvePlayerId
        rw [if_neg (by omega), if_pos (by simp)]
      unfold Field.findPlayer at designates
      rw [self, Std.ExtTreeMap.getElem?_insert_self] at designates
      obtain ⟨-, none⟩ | ⟨p, found, -, mine⟩ := designates
      · contradiction
      · obtain rfl := Option.some.inj found
        exact other (mine.symm.trans same)
  | logout sessionId => exact absurd trivial claimed
  | stop sessionId => exact absurd trivial claimed

theorem resolutionExact [FloatOps F] (port : AccountPort) (events : List (Event F)) :
    Always (step port) Belongs World.initial events ↔
      Along (step port) (Unclaimed port) World.initial events :=
  alwaysExact (fun _ => keptBelongs) (keptStep port) (claimedSpoils port) keptInitial

end

def namedSpawn (name : String) : LoginFieldSpawnSettings ℚ :=
  { LoginFieldSpawnSettings.initial with playerName := ascii name }

def twoAccounts : AccountPort := fun s _ => if s ≤ 3 then ⟨7, by decide⟩ else ⟨8, by decide⟩

-- One account logs in three times, so that its second session is bound to
-- nobody when the next account needs an id.
def threeThenOne : List (Event ℚ) :=
  [.login 7 [] (namedSpawn "Ann"), .login 7 [] (namedSpawn "Ann"), .login 7 [] (namedSpawn "Ann"),
    .login 8 [] (namedSpawn "Bob")]

theorem supersededFindsOther :
    ¬ Always (step twoAccounts) Belongs World.initial threeThenOne := by
  intro always
  have last := always threeThenOne [] (List.append_nil _).symm
  have owner : lookup (run (step twoAccounts) World.initial threeThenOne).accounts 2 = some 7 := by
    decide +kernel
  have found : ((run (step twoAccounts) World.initial threeThenOne).presence.field.findPlayer 2).map
      Player.authPlayerId = some 8 := by decide +kernel
  obtain ⟨-, none⟩ | ⟨p, there, -, mine⟩ := last 2 7 owner
  · rw [none] at found
    contradiction
  · rw [there, Option.map_some, mine] at found
    contradiction

end SeedOrigin.SessionResolution
