import SeedOrigin.FieldCalls
import SeedOrigin.FieldWrites
import SeedOrigin.Runs

/-! Where players and NPCs stand. Moves and respawns are held to the world's
bounds; the coordinates a login spawns a character at are taken as they come. -/
namespace SeedOrigin.WorldBounds
open SeedOrigin.Octets SeedOrigin.Numbers SeedOrigin.Character SeedOrigin.ClientInput SeedOrigin.Ether
open SeedOrigin.Inputs SeedOrigin.Maps SeedOrigin.FieldState SeedOrigin.Presence
open SeedOrigin.FieldCalls SeedOrigin.FieldWrites SeedOrigin.Runs

section
variable {F : Type} [FloatOps F]

structure Legal (position : Position F) : Prop where
  x : insideWorld position.x = true
  y : insideWorld position.y = true
  z : insideWorld position.z = true

structure Bounded (field : Field F) : Prop where
  players : ∀ g player, lookup field.playerList g = some player → Legal player.position
  npcs : ∀ n npc, lookup field.npcList n = some npc → Legal npc.position

structure Confined (field : Field F) : Prop extends Bounded field where
  queue : ∀ next ∈ field.positionQueue, Legal next
  respawns : ∀ n respawn, lookup field.npcRespawns n = some respawn → Legal respawn.position

def Spawns (presence : FieldSessionPresence F) (port : PlayerIdPort) (settings : LoginFieldSpawnSettings F)
    (sessionId : Int) (claimedId : Bytes) : Prop :=
  0 < sessionId ∧ ∃ auth gameplayId, port sessionId claimedId = some auth ∧ 0 < auth ∧
    0 < gameplayId ∧ Creates settings presence auth gameplayId

def Placing (presence : FieldSessionPresence F) : FieldCall F → Prop
  | .placeAfterLogin port settings sessionId claimedId =>
    Spawns presence port settings sessionId claimedId → Legal ⟨0, settings.x, settings.y, settings.z⟩
  | _ => True

theorem movedLegal {position next : Position F} {dx dy dz : F}
    (h : integrateMovement position dx dy dz = some next) : Legal next := by
  unfold integrateMovement at h
  split at h
  · contradiction
  · dsimp only at h
    split at h
    · rename_i inside
      obtain rfl := Option.some.inj h
      exact ⟨inside.1, inside.2.1, inside.2.2⟩
    · contradiction

theorem playerConfined {field : Field F} (confined : Confined field) {g : Int} {player : Player F}
    (legal : Legal player.position) :
    Confined { field with playerList := field.playerList.insert g player } := by
  refine { confined with players := fun h p there => ?_ }
  obtain ⟨-, rfl⟩ | old := insertedFound there
  · exact legal
  · exact confined.players h p old

theorem npcConfined {field : Field F} (confined : Confined field) {n : Int} {npc : Npc F}
    (legal : Legal npc.position) :
    Confined { field with npcList := field.npcList.insert n npc } := by
  refine { confined with npcs := fun m p there => ?_ }
  obtain ⟨-, rfl⟩ | old := insertedFound there
  · exact legal
  · exact confined.npcs m p old

theorem queuedConfined {field : Field F} (confined : Confined field) {next : Position F}
    (legal : Legal next) : Confined { field with positionQueue := field.positionQueue ++ [next] } := by
  refine { confined with queue := fun other there => ?_ }
  rcases List.mem_append.mp there with old | new
  · exact confined.queue other old
  · rw [List.mem_singleton.mp new]
    exact legal

theorem writeConfined {before after : Field F} (write : Write before after) (confined : Confined before) :
    Confined after := by
  cases write with
  | player there change =>
    have old := confined.players _ _ there
    refine playerConfined confined ?_
    cases change with
    | status status => exact old
    | moved reached =>
      obtain ⟨x, y, z⟩ := movedLegal reached
      exact ⟨x, y, z⟩
  | npc there hit =>
    have old := confined.npcs _ _ there
    unfold Npc.applyDamage at hit
    split at hit
    · contradiction
    · obtain rfl := Option.some.inj hit
      exact npcConfined confined old
  | world => exact { confined with }
  | ended => exact { confined with }

theorem actionConfined {field : Field F} (confined : Confined field) (action : Action) :
    Confined (field.applyAction action) :=
  writesKeep (fun _ _ => writeConfined) (actionWrites field action) confined

theorem processInputsConfined {field : Field F} (confined : Confined field) (inputs : List (WorldInput F))
    (worldTick : UInt64) : Confined (field.processInputs inputs worldTick).1 :=
  writesKeep (fun _ _ => writeConfined) (processedWrites field inputs worldTick) confined

theorem moveConfined {field : Field F} (confined : Confined field) {next : Position F}
    (legal : Legal next) : Confined (field.movePosition next) := by
  obtain ⟨x, y, z⟩ := legal
  unfold Field.movePosition
  split
  · exact playerConfined confined ⟨x, y, z⟩
  · split
    · exact confined
    · split
      · exact confined
      · exact npcConfined confined ⟨x, y, z⟩

theorem respawnConfined (worldTick : UInt64) {field : Field F} (confined : Confined field)
    {entry : Int × NpcRespawnState F} (legal : Legal entry.2.position) :
    Confined (field.respawnDue worldTick entry) := by
  have erased : Confined { field with npcRespawns := field.npcRespawns.erase entry.1 } :=
    { confined with respawns := fun n r there => confined.respawns n r (erasedFound there) }
  unfold Field.respawnDue
  split
  · exact confined
  · dsimp only
    split
    · exact erased
    · split
      · exact erased
      · split
        · exact erased
        · rename_i made
          unfold Npc.respawn at made
          split at made
          · contradiction
          · obtain rfl := Option.some.inj made
            obtain ⟨x, y, z⟩ := legal
            exact npcConfined erased ⟨x, y, z⟩

theorem foldConfined {A : Type} {step : Field F → A → Field F} {items : List A}
    (keeps : ∀ a ∈ items, ∀ field, Confined field → Confined (step field a)) {field : Field F}
    (confined : Confined field) : Confined (items.foldl step field) := by
  induction items generalizing field with
  | nil => exact confined
  | cons a items ih =>
    obtain ⟨here, later⟩ := List.forall_mem_cons.mp keeps
    exact ih later (here field confined)

theorem frameConfined {field : Field F} (confined : Confined field) (worldTick : UInt64) :
    Confined (field.processFrame worldTick) := by
  have walked : Confined (field.positionQueue.foldl Field.movePosition field) :=
    foldConfined (fun next there _ still => moveConfined still (confined.queue next there)) confined
  have moved : Confined field.takePositions := { walked with queue := fun _ there => nomatch there }
  have done : Confined (field.takePositions.actionQueue.foldl Field.applyAction field.takePositions) :=
    foldConfined (fun action _ _ still => actionConfined still action) moved
  have acted : Confined field.takePositions.takeActions := { done with }
  refine foldConfined (fun entry there _ still => respawnConfined worldTick still ?_) acted
  exact acted.respawns entry.1 entry.2 (Std.ExtTreeMap.mem_toList_iff_getElem?_eq_some.mp there)

structure Elsewhere (before after : Field F) : Prop where
  npcs : after.npcList = before.npcList
  queue : after.positionQueue = before.positionQueue
  respawns : after.npcRespawns = before.npcRespawns

omit [FloatOps F] in
theorem boundElsewhere {field bound : Field F} {sessionId gameplayId : Int}
    (h : field.bindSession sessionId gameplayId = some bound) :
    Elsewhere field bound ∧ bound.playerList = field.playerList := by
  obtain ⟨sessions, players, rfl⟩ := bindShape h
  exact ⟨⟨rfl, rfl, rfl⟩, rfl⟩

theorem confinedElsewhere {before after : Field F} (confined : Confined before)
    (elsewhere : Elsewhere before after)
    (players : ∀ g player, lookup after.playerList g = some player → Legal player.position) :
    Confined after := by
  obtain ⟨npcs, queue, respawns⟩ := elsewhere
  refine ⟨⟨players, ?_⟩, ?_, ?_⟩
  · rw [npcs]
    exact confined.npcs
  · rw [queue]
    exact confined.queue
  · rw [respawns]
    exact confined.respawns

omit [FloatOps F] in
theorem placedStands (port : PlayerIdPort) (settings : LoginFieldSpawnSettings F)
    (before : FieldSessionPresence F) (sessionId : Int) (claimedId : Bytes) :
    Elsewhere before.field (placeAfterLogin port settings before sessionId claimedId).1.field ∧
    ∀ g player,
      lookup (placeAfterLogin port settings before sessionId claimedId).1.field.playerList g = some player →
      lookup before.field.playerList g = some player ∨
        0 < g ∧ player.position = ⟨g, settings.x, settings.y, settings.z⟩ := by
  have same : Elsewhere before.field before.field := ⟨rfl, rfl, rfl⟩
  unfold placeAfterLogin
  split
  · exact ⟨same, fun g player => .inl⟩
  · split
    · exact ⟨same, fun g player => .inl⟩
    · rename_i auth _
      split
      · exact ⟨same, fun g player => .inl⟩
      · split
        · split
          · exact ⟨same, fun g player => .inl⟩
          · rename_i bound
            obtain ⟨elsewhere, players⟩ := boundElsewhere bound
            refine ⟨elsewhere, fun g player there => .inl ?_⟩
            rw [← players]
            exact there
        · obtain ⟨next, shape, -⟩ := allocateShape before.field
          dsimp only
          split
          · exact ⟨same, fun g player => .inl⟩
          · rw [shape]
            split
            · exact ⟨⟨rfl, rfl, rfl⟩, fun g player => .inl⟩
            · split
              · exact ⟨⟨rfl, rfl, rfl⟩, fun g player => .inl⟩
              · rename_i player made
                have stands : player.position = ⟨player.id, settings.x, settings.y, settings.z⟩ := by
                  obtain ⟨-, rfl⟩ := Player.nameSet made
                  unfold spawned Player.setAuthPlayerId
                  dsimp only
                  split <;> rfl
                split
                · exact ⟨⟨rfl, rfl, rfl⟩, fun g player => .inl⟩
                · rename_i put
                  unfold Field.putPlayer at put
                  split at put
                  · contradiction
                  · rename_i admitted
                    obtain rfl := Option.some.inj put
                    have added (g : Int) (other : Player F)
                        (there : lookup (before.field.playerList.insert player.id player) g = some other) :
                        lookup before.field.playerList g = some other ∨
                          0 < g ∧ other.position = ⟨g, settings.x, settings.y, settings.z⟩ := by
                      obtain ⟨rfl, rfl⟩ | old := insertedFound there
                      · exact .inr ⟨by simp only [not_or, not_le] at admitted; exact admitted.1, stands⟩
                      · exact .inl old
                    split
                    · exact ⟨⟨rfl, rfl, rfl⟩, added⟩
                    · rename_i bound
                      obtain ⟨⟨npcs, queue, respawns⟩, players⟩ := boundElsewhere bound
                      refine ⟨⟨npcs, queue, respawns⟩, fun g other there => added g other ?_⟩
                      rw [players] at there
                      exact there

omit [FloatOps F] in
theorem placedNobody {port : PlayerIdPort} {settings : LoginFieldSpawnSettings F}
    {before : FieldSessionPresence F} {sessionId : Int} {claimedId : Bytes}
    (nobody : ¬ Spawns before port settings sessionId claimedId) :
    (placeAfterLogin port settings before sessionId claimedId).1.field.playerList =
      before.field.playerList := by
  rcases placeAny port settings before sessionId claimedId with
    ⟨idle, -⟩ | ⟨auth, account, positive, session, placed⟩
  · rw [idle]
  · generalize placeAfterLogin port settings before sessionId claimedId = outcome at placed ⊢
    obtain ⟨after, answer⟩ := outcome
    cases placed with
    | refused next grows skipped blocked => rfl
    | rebound found bound => exact (boundElsewhere bound).2
    | created creates more owner bound =>
      exact absurd ⟨session, auth, _, account, positive, more, creates⟩ nobody

omit [FloatOps F] in
theorem placedSomebody {port : PlayerIdPort} {settings : LoginFieldSpawnSettings F}
    {before : FieldSessionPresence F} {sessionId : Int} {claimedId : Bytes}
    (spawns : Spawns before port settings sessionId claimedId) : ∃ g player,
      lookup (placeAfterLogin port settings before sessionId claimedId).1.field.playerList g = some player ∧
      player.position = ⟨g, settings.x, settings.y, settings.z⟩ := by
  obtain ⟨-, stands⟩ := placedStands port settings before sessionId claimedId
  obtain ⟨session, auth, g, account, positive, more, creates⟩ := spawns
  have placed := placeCases port settings before account positive session
  generalize placeAfterLogin port settings before sessionId claimedId = outcome at placed stands ⊢
  obtain ⟨after, answer⟩ := outcome
  cases placed with
  | refused next grows skipped blocked => exact absurd creates (blocked g more)
  | rebound found bound => exact nomatch found.symm.trans creates.absent
  | @created player field names creation pos owner bound =>
    have there : lookup field.playerList player.id = some player := by
      rw [(boundElsewhere bound).2, lookupInsert, Function.update_self]
    refine ⟨player.id, player, there, ?_⟩
    rcases stands player.id player there with old | new
    · have free := creation.free.2.2.1
      have resident : before.field.playerList.contains player.id = true := by
        rw [Std.ExtTreeMap.contains_eq_isSome_getElem?, show before.field.playerList[player.id]? = _ from old]
        rfl
      simp [Field.taken, resident] at free
    · exact new.2

theorem placeConfined {presence : FieldSessionPresence F} (confined : Confined presence.field)
    {port : PlayerIdPort} {settings : LoginFieldSpawnSettings F} {sessionId : Int} {claimedId : Bytes}
    (placing : Spawns presence port settings sessionId claimedId →
      Legal ⟨0, settings.x, settings.y, settings.z⟩) :
    Confined (placeAfterLogin port settings presence sessionId claimedId).1.field := by
  obtain ⟨elsewhere, stands⟩ := placedStands port settings presence sessionId claimedId
  refine confinedElsewhere confined elsewhere (fun g player there => ?_)
  by_cases spawns : Spawns presence port settings sessionId claimedId
  · rcases stands g player there with old | new
    · exact confined.players g player old
    · obtain ⟨x, y, z⟩ := placing spawns
      rw [new.2]
      exact ⟨x, y, z⟩
  · rw [placedNobody spawns] at there
    exact confined.players g player there

theorem renameConfined {field after : Field F} (confined : Confined field) {auth : Int} {name : Bytes}
    (h : renamePlayer field auth name = some after) : Confined after := by
  obtain ⟨rfl, -⟩ | ⟨key, player, -, there, -, rfl⟩ := renameFound h
  · exact confined
  · have legal : Legal player.position := confined.players key player there
    exact playerConfined confined legal

theorem operatorConfined {presence : FieldSessionPresence F} (confined : Confined presence.field)
    (auth : Int) (name : Bytes) : Confined (operatorSetPlayerName presence auth name).1.field := by
  obtain same | ⟨-, -, -, -, field, renamed, made⟩ := operatorCases presence auth name
  · rw [same]
    exact confined
  · rw [made]
    exact renameConfined confined renamed

theorem callConfined {presence : FieldSessionPresence F} {call : FieldCall F}
    (confined : Confined presence.field) (placing : Placing presence call)
    (npcs : ∀ npc, call = .putNpc npc → Legal npc.position) : Confined (callField presence call).field := by
  have kept {made : Option (Field F)} (each : ∀ field, made = some field → Confined field) :
      Confined (made.getD presence.field) := by
    cases made with
    | none => exact confined
    | some field => exact each field rfl
  cases call with
  | placeAfterLogin port settings sessionId claimedId => exact placeConfined confined placing
  | operatorSetPlayerName auth name => exact operatorConfined confined auth name
  | removeAfterLogout sessionId =>
    obtain ⟨sessions, players, shape⟩ := unbindShape presence.field sessionId
    unfold callField removeAfterLogout
    dsimp only
    split
    · exact confined
    · rw [shape]
      exact { confined with }
  | putNpc npc =>
    refine kept (fun field put => ?_)
    obtain ⟨-, -, -, rfl⟩ := npcPut put
    exact npcConfined confined (npcs npc rfl)
  | putActionQueue action => exact { confined with }
  | queueMovement playerId dx dy dz =>
    refine kept (fun field queued => ?_)
    obtain ⟨player, next, -, moved, rfl⟩ := movementQueued queued
    exact queuedConfined confined (movedLegal moved)
  | queueNpcMovement npcId dx dy dz =>
    refine kept (fun field queued => ?_)
    obtain ⟨npc, next, -, -, moved, rfl⟩ := npcMovementQueued queued
    exact queuedConfined confined (movedLegal moved)
  | scheduleNpcRespawn npcId respawnTick status position =>
    refine kept (fun field scheduled => ?_)
    obtain ⟨npc, checked, rfl⟩ := respawnScheduled scheduled
    refine { confined with respawns := fun n respawn there => ?_ }
    obtain ⟨-, rfl⟩ | old := insertedFound there
    · exact ⟨checked.x, checked.y, checked.z⟩
    · exact confined.respawns n respawn old
  | processInputs inputs worldTick => exact processInputsConfined confined inputs worldTick
  | processFrame worldTick => exact frameConfined confined worldTick

theorem confinedInitial : Confined (Field.initial : Field F) := by
  have empty {V : Type} {k : Int} {v : V} (there : lookup (∅ : IntMap V) k = some v) : False := by
    simp [lookup] at there
  exact ⟨⟨fun _ _ there => (empty there).elim, fun _ _ there => (empty there).elim⟩,
    fun _ there => absurd there List.not_mem_nil, fun _ _ there => (empty there).elim⟩

theorem worldBounds (names : IntMap Bytes) (calls : List (FieldCall F))
    (npcs : ∀ npc, FieldCall.putNpc npc ∈ calls → Legal npc.position) :
    Always callField (fun presence => Bounded presence.field) ⟨Field.initial, names⟩ calls ↔
      Along callField Placing ⟨Field.initial, names⟩ calls := by
  constructor
  · intro always before call after split
    cases call with
    | placeAfterLogin port settings sessionId claimedId =>
      intro spawns
      have bounded := always (before ++ [.placeAfterLogin port settings sessionId claimedId]) after
        (by rw [split, List.append_assoc]; rfl)
      rw [run, List.foldl_append] at bounded
      obtain ⟨g, player, there, stands⟩ := placedSomebody spawns
      have legal := bounded.players g player there
      rw [stands] at legal
      exact ⟨legal.x, legal.y, legal.z⟩
    | _ => trivial
  · intro along
    have legitimate : Along callField (fun presence call => Placing presence call ∧
        ∀ npc, call = .putNpc npc → Legal npc.position) ⟨Field.initial, names⟩ calls := by
      intro before call after split
      refine ⟨along before call after split, ?_⟩
      rintro npc rfl
      exact npcs npc (by simp [split])
    exact alwaysOf (I := fun presence => Confined presence.field) (fun _ confined => confined.toBounded)
      (fun _ _ confined both => callConfined confined both.1 both.2) confinedInitial legitimate

end

def farLogin : FieldCall ℚ :=
  .placeAfterLogin (fun _ _ => some 7) { x := 2000000, y := 0, z := 0, playerName := ascii "far" } 1 []

theorem farSpawnOutside : ¬ ∀ calls : List (FieldCall ℚ),
    (∀ npc, FieldCall.putNpc npc ∈ calls → Legal npc.position) →
    Always callField (fun presence => Bounded presence.field) ⟨Field.initial, ∅⟩ calls := by
  intro every
  have bounded := every [farLogin] (by simp [farLogin]) [farLogin] [] rfl
  have there : (lookup (run callField (⟨Field.initial, ∅⟩ : FieldSessionPresence ℚ)
      [farLogin]).field.playerList 1).map (fun player => player.position.x) = some 2000000 := by
    decide +kernel
  obtain ⟨player, found, stands⟩ := Option.map_eq_some_iff.mp there
  have legal := (bounded.players 1 player found).x
  rw [stands] at legal
  exact absurd legal (by decide +kernel)

def nearCalls : List (FieldCall ℚ) :=
  [.putNpc ⟨4, ascii "wolf", ⟨5, 0⟩, ⟨4, 3, 0, 0⟩, true⟩,
    .placeAfterLogin (fun _ _ => some 7) { x := 1000000, y := 0, z := 0, playerName := ascii "near" } 1 [],
    .queueMovement 1 (-50) 0 0, .processFrame 1]

theorem nearSpawnBounded :
    Always callField (fun presence => Bounded presence.field) ⟨Field.initial, ∅⟩ nearCalls := by
  refine (worldBounds ∅ nearCalls (fun npc there => ?_)).mpr ?_
  · simp only [nearCalls, List.mem_cons, FieldCall.putNpc.injEq, reduceCtorEq, List.not_mem_nil,
      or_false] at there
    rw [there]
    exact ⟨by decide +kernel, by decide +kernel, by decide +kernel⟩
  · simp only [nearCalls, alongCons, Placing, true_and]
    exact ⟨fun _ => ⟨by decide +kernel, by decide +kernel, by decide +kernel⟩, alongNil _ _ _⟩

end SeedOrigin.WorldBounds
