import SeedOrigin.FieldCalls
import SeedOrigin.FieldWrites

/-! Who lives in the field, as every call leaves it: ids that fit an int64, names
that can be shown and types that stay within a snapshot's format. -/
namespace SeedOrigin.Residents
open SeedOrigin.Octets SeedOrigin.Numbers SeedOrigin.Decimal SeedOrigin.Character SeedOrigin.ClientInput
open SeedOrigin.Ether SeedOrigin.Inputs SeedOrigin.UpdateBuilder SeedOrigin.Maps SeedOrigin.FieldState
open SeedOrigin.Presence SeedOrigin.FieldCalls SeedOrigin.FieldWrites SeedOrigin.Sessions
open FloatOps (lit isFinite)

-- The name that is shown ends at the first zero byte, so it must not begin with one.
def Visible (displayName : Bytes) : Prop := (trimPlayerName displayName).head? ≠ some 0
instance (displayName) : Decidable (Visible displayName) := by unfold Visible; infer_instance

structure PublicName (name : Bytes) : Prop where
  named : trimPlayerName name ≠ []
  noSemicolon : 59 ∉ name
  noEquals : 61 ∉ name

def Named (names : IntMap Bytes) : Prop := ∀ auth name, lookup names auth = some name → Visible name

section
variable {F : Type}

theorem visibleTrimmed (raw : Bytes) : Visible (trimPlayerName raw) ↔ Visible raw := by
  unfold Visible
  rw [trimTwice]

theorem solidStart {raw : Bytes} {b : UInt8} {rest : Bytes} (trimmed : trimPlayerName raw = b :: rest) :
    isPlayerNamePadding b = false := by
  have start := trimmedStart raw
  rw [trimmed] at start
  by_contra padding
  rw [List.dropWhile_cons_of_pos (by simpa using padding)] at start
  have shorter := (List.dropWhile_suffix isPlayerNamePadding (l := rest)).length_le
  rw [start, List.length_cons] at shorter
  omega

theorem solidNamed {b : UInt8} (solid : isPlayerNamePadding b = false) (rest : Bytes) :
    trimPlayerName (b :: rest) ≠ [] := by
  unfold trimPlayerName
  rw [List.dropWhile_cons_of_neg (by simp [solid]), Ne, List.rdropWhile_eq_nil_iff]
  intro all
  have padding := all b List.mem_cons_self
  rw [solid] at padding
  contradiction

theorem acceptedPublic {player : Player F} {name : Bytes} (visible : Visible name)
    (accepted : acceptsName name = true) :
    PublicName ({ player with name := trimPlayerName name } : Player F).getPlayerName := by
  simp only [acceptsName, Bool.and_eq_true, decide_eq_true_eq, Bool.not_eq_true', List.contains_eq_mem,
    decide_eq_false_iff_not] at accepted
  obtain ⟨⟨⟨filled, -⟩, noSemicolon⟩, noEquals⟩ := accepted
  have inside := (List.takeWhile_prefix (fun b : UInt8 => b != 0) (l := trimPlayerName name)).subset
  refine ⟨?_, fun there => noSemicolon (inside there), fun there => noEquals (inside there)⟩
  unfold Visible at visible
  unfold Player.getPlayerName
  dsimp only
  cases trimmed : trimPlayerName name with
  | nil => exact absurd trimmed filled
  | cons b rest =>
    have nonzero : b ≠ 0 := by
      rintro rfl
      rw [trimmed] at visible
      exact visible rfl
    rw [List.takeWhile_cons_of_pos (by simpa using nonzero)]
    exact solidNamed (solidStart trimmed) _

theorem namedInsert {names : IntMap Bytes} (named : Named names) {name : Bytes} (visible : Visible name)
    (auth : Int) : Named (names.insert auth name) := by
  intro other found there
  obtain ⟨rfl, rfl⟩ | old := insertedFound there
  · exact visible
  · exact named other found old

theorem displayVisible {presence : FieldSessionPresence F} {settings : LoginFieldSpawnSettings F}
    (named : Named presence.operatorNamesByAuthId) (visible : Visible settings.playerName) (auth : Int) :
    Visible (displayName presence settings auth) := by
  unfold displayName
  rw [Std.ExtTreeMap.getD_eq_getD_getElem?]
  cases assigned : presence.operatorNamesByAuthId[auth]? with
  | none => exact (visibleTrimmed _).mpr visible
  | some name => exact named auth name assigned

structure Inhabitant (g : Int) (player : Player F) : Prop where
  id : player.id = g
  positive : 0 < g
  inside : InInt64 g
  name : PublicName player.getPlayerName

structure Creature (n : Int) (npc : Npc F) : Prop where
  id : npc.id = n
  positive : 0 < n
  inside : InInt64 n
  named : npc.type ≠ []
  short : npc.type.length ≤ 32
  free : 59 ∉ npc.type
  hp : InInt64 npc.status.hp

variable [FloatOps F]

def Hazard (q : F) : Prop := q = lit 0 ∨ ∃ ether : EnvironmentEther F, q = adverseEffectSeverity ether

structure Populated (field : Field F) : Prop where
  hazard : Hazard field.lastEtherHazard
  players : ∀ g player, lookup field.playerList g = some player → Inhabitant g player
  npcs : ∀ n npc, lookup field.npcList n = some npc → Creature n npc
  respawns : ∀ n respawn, lookup field.npcRespawns n = some respawn → InInt64 respawn.status.hp
  sessions : ∀ g s, lookup field.playerToSessionId g = some s → InInt64 s

structure Kept (before after : Field F) : Prop where
  hazard : Hazard before.lastEtherHazard → Hazard after.lastEtherHazard
  players : ∀ g p, lookup after.playerList g = some p →
    ∃ q, lookup before.playerList g = some q ∧ p.id = q.id ∧ p.name = q.name
  npcs : ∀ n p, lookup after.npcList n = some p → ∃ q, lookup before.npcList n = some q ∧
    p.id = q.id ∧ p.type = q.type ∧ (InInt64 q.status.hp → InInt64 p.status.hp)
  respawns : ∀ n r, lookup after.npcRespawns n = some r → lookup before.npcRespawns n = some r
  sessions : ∀ g s, lookup after.playerToSessionId g = some s → lookup before.playerToSessionId g = some s

theorem keptOf {before after : Field F} (players : after.playerList = before.playerList)
    (npcs : after.npcList = before.npcList) (respawns : after.npcRespawns = before.npcRespawns)
    (sessions : after.playerToSessionId = before.playerToSessionId)
    (hazard : after.lastEtherHazard = before.lastEtherHazard) : Kept before after where
  hazard computed := by rw [hazard]; exact computed
  players g p there := ⟨p, by rw [← players]; exact there, rfl, rfl⟩
  npcs n p there := ⟨p, by rw [← npcs]; exact there, rfl, rfl, id⟩
  respawns n r there := by rw [← respawns]; exact there
  sessions g s there := by rw [← sessions]; exact there

theorem Kept.refl (field : Field F) : Kept field field := keptOf rfl rfl rfl rfl rfl

theorem Kept.trans {a b c : Field F} (first : Kept a b) (second : Kept b c) : Kept a c where
  hazard computed := second.hazard (first.hazard computed)
  players g p there := by
    obtain ⟨q, middle, id, name⟩ := second.players g p there
    obtain ⟨r, start, id', name'⟩ := first.players g q middle
    exact ⟨r, start, id.trans id', name.trans name'⟩
  npcs n p there := by
    obtain ⟨q, middle, id, type, hp⟩ := second.npcs n p there
    obtain ⟨r, start, id', type', hp'⟩ := first.npcs n q middle
    exact ⟨r, start, id.trans id', type.trans type', fun inside => hp (hp' inside)⟩
  respawns n r there := first.respawns n r (second.respawns n r there)
  sessions g s there := first.sessions g s (second.sessions g s there)

theorem populatedKept {before after : Field F} (kept : Kept before after) (populated : Populated before) :
    Populated after where
  hazard := kept.hazard populated.hazard
  players g p there := by
    obtain ⟨q, start, id, name⟩ := kept.players g p there
    obtain ⟨own, positive, inside, shown⟩ := populated.players g q start
    refine ⟨id.trans own, positive, inside, ?_⟩
    unfold Player.getPlayerName at shown ⊢
    rw [name]
    exact shown
  npcs n p there := by
    obtain ⟨q, start, id, type, hp⟩ := kept.npcs n p there
    obtain ⟨own, positive, inside, named, short, free, inside'⟩ := populated.npcs n q start
    rw [← type] at named short free
    exact ⟨id.trans own, positive, inside, named, short, free, hp inside'⟩
  respawns n r there := populated.respawns n r (kept.respawns n r there)
  sessions g s there := populated.sessions g s (kept.sessions g s there)

theorem playerKept {field : Field F} {g : Int} {player : Player F} (there : field.playerList[g]? = some player)
    {changed : Player F} (id : changed.id = player.id) (name : changed.name = player.name) :
    Kept field { field with playerList := field.playerList.insert g changed } := by
  refine { keptOf rfl rfl rfl rfl rfl with players := fun h p found => ?_ }
  obtain ⟨rfl, rfl⟩ | old := insertedFound found
  · exact ⟨player, there, id, name⟩
  · exact ⟨p, old, rfl, rfl⟩

theorem npcKept {field : Field F} {n : Int} {npc : Npc F} (there : field.npcList[n]? = some npc)
    {changed : Npc F} (id : changed.id = npc.id) (type : changed.type = npc.type)
    (hp : InInt64 npc.status.hp → InInt64 changed.status.hp) :
    Kept field { field with npcList := field.npcList.insert n changed } := by
  refine { keptOf rfl rfl rfl rfl rfl with npcs := fun m p found => ?_ }
  obtain ⟨rfl, rfl⟩ | old := insertedFound found
  · exact ⟨npc, there, id, type, hp⟩
  · exact ⟨p, old, rfl, rfl, fun inside => inside⟩

theorem gainInside {value : Int} (inside : InInt64 value) (amount : Int) : InInt64 (gain value amount) := by
  unfold InInt64 at inside ⊢
  have most : maxLong = 2 ^ 63 - 1 := rfl
  unfold gain
  dsimp only
  split
  · split <;> omega
  · split
    · split <;> omega
    · exact inside

theorem writeKept {before after : Field F} (write : Write before after) : Kept before after := by
  cases write with
  | player there change =>
    cases change with
    | status status => exact playerKept there rfl rfl
    | moved reached => exact playerKept there rfl rfl
  | npc there hit =>
    unfold Npc.applyDamage at hit
    split at hit
    · contradiction
    · obtain rfl := Option.some.inj hit
      exact npcKept there rfl rfl (fun inside => gainInside inside _)
  | world => exact keptOf rfl rfl rfl rfl rfl
  | ended ether => exact { keptOf rfl rfl rfl rfl rfl with hazard := fun _ => .inr ⟨ether, rfl⟩ }

theorem writesKept {before after : Field F} (writes : Writes before after) : Kept before after :=
  writesKeep (fun _ _ write kept => kept.trans (writeKept write)) writes (Kept.refl before)

theorem moveKept (field : Field F) (next : Position F) : Kept field (field.movePosition next) := by
  unfold Field.movePosition
  split
  · rename_i player found
    exact playerKept found rfl rfl
  · split
    · exact Kept.refl field
    · rename_i npc found
      split
      · exact Kept.refl field
      · exact npcKept found rfl rfl (fun inside => inside)

theorem foldKept {A : Type} {step : Field F → A → Field F} (kept : ∀ field a, Kept field (step field a))
    (items : List A) (field : Field F) : Kept field (items.foldl step field) := by
  induction items generalizing field with
  | nil => exact Kept.refl field
  | cons a items ih => exact (kept field a).trans (ih (step field a))

theorem respawnKept (worldTick : UInt64) (field : Field F) (entry : Int × NpcRespawnState F)
    (inside : InInt64 entry.2.status.hp) : Kept field (field.respawnDue worldTick entry) := by
  have erased : Kept field { field with npcRespawns := field.npcRespawns.erase entry.1 } :=
    { keptOf rfl rfl rfl rfl rfl with respawns := fun n r there => erasedFound there }
  unfold Field.respawnDue
  split
  · exact Kept.refl field
  · dsimp only
    split
    · exact erased
    · rename_i npc found
      split
      · exact erased
      · split
        · exact erased
        · rename_i respawned made
          unfold Npc.respawn at made
          split at made
          · contradiction
          · obtain rfl := Option.some.inj made
            have there : ({ field with npcRespawns := field.npcRespawns.erase entry.1 } :
                Field F).npcList[entry.1]? = some npc := found
            refine erased.trans (npcKept there ?_ ?_ ?_)
            · rfl
            · rfl
            · exact fun _ => inside

theorem respawnsKept (worldTick : UInt64) {entries : List (Int × NpcRespawnState F)}
    (inside : ∀ entry ∈ entries, InInt64 entry.2.status.hp) (field : Field F) :
    Kept field (entries.foldl (Field.respawnDue worldTick) field) := by
  induction entries generalizing field with
  | nil => exact Kept.refl field
  | cons entry entries ih =>
    obtain ⟨here, others⟩ := List.forall_mem_cons.mp inside
    exact (respawnKept worldTick field entry here).trans (ih others _)

theorem frameKept {field : Field F} (populated : Populated field) (worldTick : UInt64) :
    Kept field (field.processFrame worldTick) := by
  have moved : Kept field field.takePositions :=
    (foldKept moveKept field.positionQueue field).trans (keptOf rfl rfl rfl rfl rfl)
  have acting (field : Field F) (action : Action) : Kept field (field.applyAction action) :=
    writesKept (actionWrites field action)
  have acted : Kept field field.takePositions.takeActions :=
    (moved.trans (foldKept acting field.takePositions.actionQueue _)).trans (keptOf rfl rfl rfl rfl rfl)
  refine acted.trans (respawnsKept worldTick (fun entry there => ?_) _)
  have found := Std.ExtTreeMap.mem_toList_iff_getElem?_eq_some.mp there
  exact (populatedKept acted populated).respawns entry.1 entry.2 found

theorem unbindKept (field : Field F) (sessionId : Int) : Kept field (field.unbindSession sessionId).1 := by
  unfold Field.unbindSession
  split
  · exact Kept.refl field
  · split
    · exact Kept.refl field
    · exact { keptOf rfl rfl rfl rfl rfl with sessions := fun g s there => erasedFound there }

theorem forgetKept (field : Field F) (gameplayId : Int) :
    Kept field (field.forgetBindingsForPlayer gameplayId) := by
  unfold Field.forgetBindingsForPlayer
  split
  · exact Kept.refl field
  · exact { keptOf rfl rfl rfl rfl rfl with sessions := fun g s there => erasedFound there }

theorem bindPopulated {field bound : Field F} {sessionId gameplayId : Int} (populated : Populated field)
    (inside : InInt64 sessionId) (h : field.bindSession sessionId gameplayId = some bound) :
    Populated bound := by
  unfold Field.bindSession at h
  split at h <;> try contradiction
  split at h <;> try contradiction
  obtain rfl := Option.some.inj h
  have free := populatedKept ((unbindKept field sessionId).trans (forgetKept _ gameplayId)) populated
  refine { free with sessions := fun g s there => ?_ }
  obtain ⟨rfl, rfl⟩ | old := insertedFound there
  · exact inside
  · exact free.sessions g s old

theorem playerPopulated {field : Field F} {g : Int} {player : Player F} (populated : Populated field)
    (inhabitant : Inhabitant g player) :
    Populated { field with playerList := field.playerList.insert g player } := by
  refine { populated with players := fun h p there => ?_ }
  obtain ⟨rfl, rfl⟩ | old := insertedFound there
  · exact inhabitant
  · exact populated.players h p old

omit [FloatOps F] in
theorem spawnedInhabitant {field : Field F} {settings : LoginFieldSpawnSettings F} {auth : Int}
    {name : Bytes} {player : Player F} (positive : ¬ (field.allocateGameplayId).2 ≤ 0)
    (visible : Visible name)
    (made : (spawned settings (field.allocateGameplayId).2 auth).setPlayerName name = some player) :
    Inhabitant player.id player := by
  obtain ⟨accepted, rfl⟩ := Player.nameSet made
  have own : (spawned settings (field.allocateGameplayId).2 auth).id = (field.allocateGameplayId).2 := by
    unfold spawned Player.setAuthPlayerId
    dsimp only
    split <;> rfl
  obtain ⟨next, -, -, -, ends⟩ := allocateShape field
  have most : (maxInt64 : Int) = 2 ^ 63 - 1 := rfl
  have least : 0 < (spawned settings (field.allocateGameplayId).2 auth).id := by omega
  have inside : InInt64 (spawned settings (field.allocateGameplayId).2 auth).id := by
    obtain ⟨none, -⟩ | ⟨first, -⟩ := ends
    · omega
    · have high := first.2.1
      unfold InInt64
      omega
  exact ⟨rfl, least, inside, acceptedPublic visible accepted⟩

theorem placePopulated (port : PlayerIdPort) {settings : LoginFieldSpawnSettings F}
    {before : FieldSessionPresence F} {sessionId : Int} (claimedId : Bytes) (inside : InInt64 sessionId)
    (visible : Visible settings.playerName) (populated : Populated before.field)
    (named : Named before.operatorNamesByAuthId) :
    Populated (placeAfterLogin port settings before sessionId claimedId).1.field ∧
    Named (placeAfterLogin port settings before sessionId claimedId).1.operatorNamesByAuthId := by
  unfold placeAfterLogin
  split
  · exact ⟨populated, named⟩
  · split
    · exact ⟨populated, named⟩
    · rename_i auth _
      split
      · exact ⟨populated, named⟩
      · split
        · split
          · exact ⟨populated, named⟩
          · rename_i bound
            exact ⟨bindPopulated populated inside bound, named⟩
        · have shown := displayVisible named visible auth
          have allocated : Populated (before.field.allocateGameplayId).1 := by
            obtain ⟨next, shape, -⟩ := allocateShape before.field
            have kept : Kept before.field { before.field with nextGameplayId := next } :=
              keptOf rfl rfl rfl rfl rfl
            rw [shape]
            exact populatedKept kept populated
          dsimp only
          split
          · exact ⟨populated, named⟩
          · split
            · exact ⟨allocated, named⟩
            · rename_i positive
              split
              · exact ⟨allocated, named⟩
              · rename_i player made
                have resident := spawnedInhabitant positive shown made
                split
                · exact ⟨allocated, named⟩
                · rename_i put
                  unfold Field.putPlayer at put
                  split at put
                  · contradiction
                  · obtain rfl := Option.some.inj put
                    have filled := playerPopulated allocated resident
                    have names := namedInsert named shown auth
                    split
                    · exact ⟨filled, names⟩
                    · rename_i bound
                      exact ⟨bindPopulated filled inside bound, names⟩

theorem operatorPopulated {before : FieldSessionPresence F} {displayName : Bytes}
    (visible : Visible displayName) (authPlayerId : Int) (populated : Populated before.field)
    (named : Named before.operatorNamesByAuthId) :
    Populated (operatorSetPlayerName before authPlayerId displayName).1.field ∧
    Named (operatorSetPlayerName before authPlayerId displayName).1.operatorNamesByAuthId := by
  have shown := (visibleTrimmed displayName).mpr visible
  obtain same | ⟨-, -, -, -, field, renamed, made⟩ := operatorCases before authPlayerId displayName
  · rw [same]
    exact ⟨populated, named⟩
  · rw [made]
    refine ⟨?_, namedInsert named shown authPlayerId⟩
    obtain ⟨rfl, -⟩ | ⟨key, player, -, there, accepted, rfl⟩ := renameFound renamed
    · exact populated
    · obtain ⟨own, positive, inside, -⟩ := populated.players key player there
      exact playerPopulated populated ⟨own, positive, inside, acceptedPublic shown accepted⟩

structure Presentable (npc : Npc F) : Prop where
  inside : InInt64 npc.id
  hp : InInt64 npc.status.hp
  named : npc.type ≠ []
  short : npc.type.length ≤ 32
  free : 59 ∉ npc.type
  finite : isFinite npc.position.x ∧ isFinite npc.position.y ∧ isFinite npc.position.z

theorem putPopulated {field after : Field F} {npc : Npc F} (presentable : Presentable npc)
    (populated : Populated field) (h : field.putNpc npc = some after) : Populated after := by
  obtain ⟨positive, -, -, rfl⟩ := npcPut h
  refine { populated with npcs := fun n p there => ?_ }
  obtain ⟨rfl, rfl⟩ | old := insertedFound there
  · exact
      { id := rfl
        positive := positive
        inside := presentable.inside
        named := presentable.named
        short := presentable.short
        free := presentable.free
        hp := presentable.hp }
  · exact populated.npcs n p old

theorem schedulePopulated {field after : Field F} {npcId : Int} {respawnTick : UInt64} {status : Status}
    {position : Position F} (inside : InInt64 status.hp) (populated : Populated field)
    (h : field.scheduleNpcRespawn npcId respawnTick status position = some after) : Populated after := by
  obtain ⟨npc, -, rfl⟩ := respawnScheduled h
  refine { populated with respawns := fun n r there => ?_ }
  obtain ⟨rfl, rfl⟩ | old := insertedFound there
  · exact inside
  · exact populated.respawns n r old

-- What the field itself does not check.
def Admissible : FieldCall F → Prop
  | .placeAfterLogin _ settings sessionId _ =>
    InInt64 sessionId ∧ Visible settings.playerName ∧
      isFinite settings.x ∧ isFinite settings.y ∧ isFinite settings.z
  | .operatorSetPlayerName _ displayName => Visible displayName
  | .putNpc npc => Presentable npc
  | .scheduleNpcRespawn _ _ status _ => InInt64 status.hp
  | _ => True

structure Inhabited (presence : FieldSessionPresence F) : Prop where
  populated : Populated presence.field
  named : Named presence.operatorNamesByAuthId

theorem callInhabited {presence : FieldSessionPresence F} (inhabited : Inhabited presence) {call : FieldCall F}
    (admissible : Admissible call) : Inhabited (callField presence call) := by
  obtain ⟨populated, named⟩ := inhabited
  have kept {field : Field F} (same : Kept presence.field field) :
      Inhabited { presence with field := field } := ⟨populatedKept same populated, named⟩
  have whole : Inhabited { presence with field := presence.field } := ⟨populated, named⟩
  cases call with
  | placeAfterLogin port settings sessionId claimedId =>
    obtain ⟨inside, visible, -⟩ := admissible
    obtain ⟨placed, names⟩ := placePopulated port claimedId inside visible populated named
    exact ⟨placed, names⟩
  | operatorSetPlayerName authPlayerId displayName =>
    obtain ⟨renamed, names⟩ := operatorPopulated admissible authPlayerId populated named
    exact ⟨renamed, names⟩
  | removeAfterLogout sessionId =>
    simp only [callField, removeAfterLogout]
    split
    · exact whole
    · exact kept (unbindKept presence.field sessionId)
  | putNpc npc =>
    simp only [callField]
    cases put : presence.field.putNpc npc with
    | none => exact whole
    | some field => exact ⟨putPopulated admissible populated put, named⟩
  | putActionQueue action => exact kept (keptOf rfl rfl rfl rfl rfl)
  | queueMovement playerId dx dy dz =>
    simp only [callField]
    cases queued : presence.field.queueMovement playerId dx dy dz with
    | none => exact whole
    | some field =>
      obtain ⟨player, next, -, -, rfl⟩ := movementQueued queued
      exact kept (keptOf rfl rfl rfl rfl rfl)
  | queueNpcMovement npcId dx dy dz =>
    simp only [callField]
    cases queued : presence.field.queueNpcMovement npcId dx dy dz with
    | none => exact whole
    | some field =>
      obtain ⟨npc, next, -, -, -, rfl⟩ := npcMovementQueued queued
      exact kept (keptOf rfl rfl rfl rfl rfl)
  | scheduleNpcRespawn npcId respawnTick status position =>
    simp only [callField]
    cases scheduled : presence.field.scheduleNpcRespawn npcId respawnTick status position with
    | none => exact whole
    | some field => exact ⟨schedulePopulated admissible populated scheduled, named⟩
  | processInputs inputs worldTick => exact kept (writesKept (processedWrites presence.field inputs worldTick))
  | processFrame worldTick => exact kept (frameKept populated worldTick)

theorem initialInhabited : Inhabited (⟨Field.initial, ∅⟩ : FieldSessionPresence F) := by
  have empty {V : Type} {k : Int} {v : V} (there : lookup (∅ : IntMap V) k = some v) : False := by
    simp [lookup] at there
  exact ⟨⟨.inl rfl, fun _ _ there => (empty there).elim, fun _ _ there => (empty there).elim,
    fun _ _ there => (empty there).elim, fun _ _ there => (empty there).elim⟩,
    fun _ _ there => (empty there).elim⟩

end

end SeedOrigin.Residents
