import SeedOrigin.Residents
import SeedOrigin.SnapshotRoundTrip

/-! Which of the worlds that the field can reach have a snapshot that the client of
every bound session takes. -/
namespace SeedOrigin.SnapshotAcceptance
open SeedOrigin.Octets SeedOrigin.Numbers SeedOrigin.Decimal SeedOrigin.Significant SeedOrigin.Ether
open SeedOrigin.Character SeedOrigin.ClientInput SeedOrigin.Inputs SeedOrigin.UpdateWire SeedOrigin.Maps
open SeedOrigin.UpdateBuilder SeedOrigin.Applier SeedOrigin.FieldText SeedOrigin.IndexedFields
open SeedOrigin.HazardAgreement SeedOrigin.PublishLimits SeedOrigin.SnapshotText SeedOrigin.SnapshotParser
open SeedOrigin.SnapshotRoundTrip SeedOrigin.Presence SeedOrigin.FieldCalls SeedOrigin.Residents
open SeedOrigin.Numbering SeedOrigin.GaplessStream SeedOrigin.FrameIsolation SeedOrigin.Runs
open SeedOrigin.Conversions

section
variable {field : Field ℚ}

def publicText (field : Field ℚ) : Bytes :=
  joinFields 59 (keyed (ascii "ether.fire") (text field.fieldEther.fire))
    (snapshotPieces field.fieldEther field.lastEtherHazard (publicNpcSnapshots field)
      field.publicPlayerPoses)

def ownText (applier : WorldFrameApplier ℚ) (field : Field ℚ) (worldTick : UInt64) (sessionId : Int) :
    Bytes :=
  behind (ownPieces
    (findOwnerAck (field.publicPlayerPoses.map (snapshotAck applier worldTick)) sessionId))

structure Fits (applier : WorldFrameApplier ℚ) (field : Field ℚ) (worldTick : UInt64) : Prop where
  left : applier.updateBuilder.updateSequence ≠ maxUint64
  small : (publicText field).length ≤ maxUpdatePayload
  each : ∀ s g, lookup field.sessionToPlayerId s = some g →
    (publicText field).length + (ownText applier field worldTick s).length ≤ maxUpdatePayload

def Shown (applier : WorldFrameApplier ℚ) (field : Field ℚ) (worldTick : UInt64)
    (updates : List WorldUpdate) : Prop :=
  ∃ after snapshot,
    capturePublicSnapshot applier field worldTick updates = (after, updates ++ [snapshot], .ok ()) ∧
    ∀ s g, lookup field.sessionToPlayerId s = some g →
      ∃ personalized, ∃ state : EnvironmentState ℚ,
        copyWorldUpdateForSession snapshot s after.snapshotAcks = .ok personalized ∧
        applySnapshot personalized = .ok state

theorem hazardBounds {q : ℚ} (hazard : Hazard q) : 0 ≤ q ∧ q < 10 := by
  rcases hazard with rfl | ⟨ether, rfl⟩
  · have zero : (FloatOps.lit 0 : ℚ) = 0 := rfl
    rw [zero]
    norm_num
  · have bound := instabilityBound ether
    simp only [adverseEffectSeverity, greatest, FloatOps.lit, FloatOps.lt, FloatOps.sub,
      decide_eq_true_eq]
    split_ifs <;> constructor <;> linarith

theorem roundedTen {q : ℚ} (positive : 0 ≤ q) (high : q < 10) : rounded q ≤ 10 := by
  rcases eq_or_lt_of_le positive with rfl | pos
  · decide +kernel
  · have small : Int.log 10 q < 1 := by
      rw [← Int.lt_zpow_iff_log_lt (by decide) pos]
      simpa using high
    unfold rounded
    rw [if_neg pos.ne', if_neg (not_lt.mpr positive)]
    calc magnitude q ≤ 10 ^ (Int.log 10 q + 1) := magnitudeBound pos
      _ ≤ 10 ^ (1 : Int) := zpow_le_zpow_right₀ (by norm_num) (by omega)
      _ = 10 := zpow_one 10

theorem publicNpc (populated : Populated field) {npc : NpcSnapshot ℚ}
    (there : npc ∈ publicNpcSnapshots field) : PublicNpc npc ∧ 59 ∉ npc.type ∧ NpcIntegers npc := by
  obtain ⟨entry, inside, made⟩ := List.mem_filterMap.mp there
  have creature := populated.npcs entry.1 entry.2 (Std.ExtTreeMap.mem_toList_iff_getElem?_eq_some.mp inside)
  obtain ⟨own, positive, range, named, short, free, hp⟩ := creature
  rw [← own] at positive range
  dsimp only at made
  split at made
  · contradiction
  · rename_i alive
    obtain rfl := Option.some.inj made
    have living : entry.2.status.hp > 0 := by
      simp only [Npc.isAlive, Bool.decide_and, Bool.and_eq_true, decide_eq_true_eq, Bool.not_eq_false] at alive
      exact alive.2
    exact ⟨⟨positive, named, short, by dsimp only; omega, rfl⟩, free, ⟨range, hp⟩⟩

theorem publicPlayer (populated : Populated field) {player : PlayerPoseSnapshot ℚ}
    (there : player ∈ field.publicPlayerPoses) :
    PublicPlayer player ∧ 61 ∉ player.name ∧ PlayerIntegers player := by
  obtain ⟨entry, inside, made⟩ := List.mem_filterMap.mp there
  have inhabitant := populated.players entry.1 entry.2
    (Std.ExtTreeMap.mem_toList_iff_getElem?_eq_some.mp inside)
  obtain ⟨own, positive, range, named, noSemicolon, noEquals⟩ := inhabitant
  rw [← own] at positive range
  dsimp only at made
  split at made
  · contradiction
  · obtain rfl := Option.some.inj made
    have session : 0 < (if field.sessionIdForPlayer entry.2.id > 0 then
          field.sessionIdForPlayer entry.2.id else entry.2.id) ∧
        InInt64 (if field.sessionIdForPlayer entry.2.id > 0 then
          field.sessionIdForPlayer entry.2.id else entry.2.id) := by
      split
      · rename_i bound
        refine ⟨bound, ?_⟩
        unfold Field.sessionIdForPlayer at bound ⊢
        rw [Std.ExtTreeMap.getD_eq_getD_getElem?] at bound ⊢
        cases found : field.playerToSessionId[entry.2.id]? with
        | none => simp [found] at bound
        | some s => exact populated.sessions entry.2.id s found
      · exact ⟨positive, range⟩
    exact ⟨⟨session.1, named, noSemicolon⟩, noEquals, ⟨session.2, range⟩⟩

theorem formatMade {ether : EnvironmentEther ℚ} {hazard : ℚ} {npcs : List (NpcSnapshot ℚ)}
    {players : List (PlayerPoseSnapshot ℚ)} (positive : 0 ≤ hazard)
    (publicNpcs : ∀ npc ∈ npcs, PublicNpc npc)
    (publicPlayers : ∀ player ∈ players, PublicPlayer player ∧ 61 ∉ player.name) :
    ∃ payload, formatPayload ether hazard npcs players = .ok payload := by
  have npcMade : ∀ entry ∈ npcs.zipIdx, ∃ made, npcText entry.2 entry.1 = .ok made := by
    intro entry there
    obtain ⟨id, named, short, hp, alive⟩ := publicNpcs _ (List.fst_mem_of_mem_zipIdx there)
    have valid : ¬ (entry.1.id ≤ 0 ∨ entry.1.type = [] ∨ entry.1.type.length > 32 ∨
        FloatOps.isFinite entry.1.x = false ∨ FloatOps.isFinite entry.1.y = false ∨
        FloatOps.isFinite entry.1.z = false ∨ entry.1.hp < 0 ∨ entry.1.alive = false) := by
      simp only [not_or, alive, FloatOps.isFinite]
      exact ⟨by omega, named, by omega, nofun, nofun, nofun, by omega, nofun⟩
    exact ⟨_, if_neg valid⟩
  have playerMade : ∀ entry ∈ players.zipIdx, ∃ made, playerText entry.2 entry.1 = .ok made := by
    intro entry there
    obtain ⟨⟨sessionId, named, free⟩, noEquals⟩ := publicPlayers _ (List.fst_mem_of_mem_zipIdx there)
    have valid : ¬ (entry.1.sessionId ≤ 0 ∨ FloatOps.isFinite entry.1.x = false ∨
        FloatOps.isFinite entry.1.y = false ∨ FloatOps.isFinite entry.1.z = false ∨
        trimPlayerName entry.1.name = [] ∨ 59 ∈ entry.1.name ∨ 61 ∈ entry.1.name) := by
      simp only [not_or, FloatOps.isFinite]
      exact ⟨by omega, nofun, nofun, nofun, named, free, noEquals⟩
    exact ⟨_, if_neg valid⟩
  have range : ¬ (FloatOps.isFinite hazard = false ∨ FloatOps.lt hazard (FloatOps.lit 0) = true) := by
    simp only [FloatOps.isFinite, FloatOps.lt, FloatOps.lit, decide_eq_true_eq, not_or, not_lt]
    exact ⟨nofun, positive⟩
  obtain ⟨npcTexts, firsts⟩ := mapMOk npcMade
  obtain ⟨playerTexts, seconds⟩ := mapMOk playerMade
  unfold formatPayload
  rw [if_neg range, firsts, seconds]
  exact ⟨_, rfl⟩

theorem fieldFormatted (populated : Populated field) : ∃ payload, snapshotPayload field = .ok payload ∧
    payload = publicText field ∧
    Formatted field.fieldEther field.lastEtherHazard (publicNpcSnapshots field) field.publicPlayerPoses
      payload := by
  obtain ⟨payload, made⟩ := formatMade (hazardBounds populated.hazard).1
    (fun npc there => (publicNpc populated there).1)
    (fun player there =>
      have ⟨valid, noEquals, _⟩ := publicPlayer populated there
      ⟨valid, noEquals⟩)
  have formatted := formattedPieces made
  exact ⟨payload, made, formatted.shape, formatted⟩

variable {applier after : WorldFrameApplier ℚ} {worldTick : UInt64} {updates : List WorldUpdate}
  {payload : Bytes} {snapshot : WorldUpdate}

theorem captureExact (made : snapshotPayload field = .ok payload) :
    capturePublicSnapshot applier field worldTick updates = (after, updates ++ [snapshot], .ok ()) ↔
      ∃ builder, appendSnapshot applier.updateBuilder worldTick payload updates =
          (builder, updates ++ [snapshot], .ok ()) ∧
        after = { applier with
          updateBuilder := builder
          snapshotAcks := field.publicPlayerPoses.map (snapshotAck applier worldTick) } := by
  unfold capturePublicSnapshot
  rw [made]
  dsimp only
  rcases appendSnapshot applier.updateBuilder worldTick payload updates with ⟨builder, made, outcome⟩
  cases outcome with
  | error e => simp
  | ok _ =>
    simp only [Prod.mk.injEq, and_true]
    constructor
    · rintro ⟨rfl, rfl⟩
      exact ⟨builder, ⟨rfl, rfl⟩, rfl⟩
    · rintro ⟨_, ⟨rfl, rfl⟩, rfl⟩
      exact ⟨rfl, rfl⟩

theorem copyExact {builder : WorldFrameUpdateBuilder}
    (appended : appendSnapshot applier.updateBuilder worldTick payload updates =
      (builder, updates ++ [snapshot], .ok ()))
    (sessionId : Int) (acks : List (MovementAck ℚ)) :
    (∃ personalized, copyWorldUpdateForSession snapshot sessionId acks = .ok personalized) ↔
      payload.length + (behind (ownPieces (findOwnerAck acks sessionId))).length ≤ maxUpdatePayload := by
  have valid := returnedValid (F := ℚ) (.snapshot appended)
  obtain ⟨-, rfl, -⟩ := appendedSnapshot appended
  rw [copyAttaches valid sessionId (fun ack _ => rfl), snapshotExtra rfl]
  constructor
  · rintro ⟨personalized, copied⟩
    exact ((attachExact valid _).mp copied).2
  · exact fun fits => ⟨_, (attachExact valid _).mpr ⟨rfl, fits⟩⟩

theorem fieldShown (populated : Populated field) (positive : Positive applier.updateBuilder)
    (worldTick : UInt64) (updates : List WorldUpdate) :
    Shown applier field worldTick updates ↔ Fits applier field worldTick := by
  obtain ⟨payload, made, same, formatted⟩ := fieldFormatted populated
  have types : ∀ npc ∈ publicNpcSnapshots field, 59 ∉ npc.type :=
    fun npc there => (publicNpc populated there).2.1
  have integers : Integers (publicNpcSnapshots field) field.publicPlayerPoses :=
    ⟨fun npc there => (publicNpc populated there).2.2,
      fun player there => (publicPlayer populated there).2.2⟩
  have range : rounded field.lastEtherHazard ≤ 10 :=
    have ⟨low, high⟩ := hazardBounds populated.hazard
    roundedTen low high
  constructor
  · rintro ⟨after, snapshot, captured, copies⟩
    obtain ⟨builder, appended, rfl⟩ := (captureExact made).mp captured
    have valid := returnedValid (F := ℚ) (.snapshot appended)
    obtain ⟨left, shape, -⟩ := appendedSnapshot appended
    refine ⟨left, ?_, fun s g bound => ?_⟩
    · rw [shape] at valid
      rw [← same]
      exact (validParts valid).2
    · obtain ⟨personalized, state, copied, -⟩ := copies s g bound
      rw [← same]
      exact (copyExact appended s _).mp ⟨personalized, copied⟩
  · rintro ⟨left, small, each⟩
    rw [← same] at small each
    obtain ⟨full, -⟩ | ⟨-, large, -⟩ | ⟨-, -, snapshot, -, appended⟩ :=
      snapshotCases positive worldTick payload updates
    · exact absurd full left
    · exact absurd small large
    · refine ⟨_, snapshot, (captureExact made).mpr ⟨_, appended, rfl⟩, fun s g bound => ?_⟩
      obtain ⟨personalized, copied⟩ := (copyExact appended s _).mpr (each s g bound)
      have read := snapshotRead formatted integers types (snapshotCopied appended copied)
      rw [if_pos range] at read
      exact ⟨personalized, _, copied, read⟩

theorem worldsShownExactly (served : List (Call ℚ)) (worldTick : UInt64) (updates : List WorldUpdate)
    (calls : List (FieldCall ℚ)) (admissible : ∀ call ∈ calls, Admissible call) :
    Always callField (fun presence =>
        Shown (run serve ({} : Stream ℚ) served).applier presence.field worldTick updates ↔
          Fits (run serve ({} : Stream ℚ) served).applier presence.field worldTick)
      ⟨Field.initial, ∅⟩ calls := by
  have along : Along callField (fun _ call => Admissible call)
      (⟨Field.initial, ∅⟩ : FieldSessionPresence ℚ) calls := by
    intro before call after split
    exact admissible call (by rw [split]; exact List.mem_append_right _ List.mem_cons_self)
  refine alwaysOf (I := Inhabited) ?_ ?_ initialInhabited along
  · intro presence inhabited
    exact fieldShown inhabited.populated (runPositive served) worldTick updates
  · intro presence call inhabited fit
    exact callInhabited inhabited fit

end

def onlyAccount : PlayerIdPort := fun _ _ => some 1

def spawnAs (playerName : Bytes) : LoginFieldSpawnSettings ℚ := { x := 0, y := 0, z := 0, playerName := playerName }

def enters (playerName : Bytes) : FieldCall ℚ := .placeAfterLogin onlyAccount (spawnAs playerName) 3 []

def appears (type : Bytes) : FieldCall ℚ := .putNpc (Npc.make 7 type ⟨10, 0⟩ ⟨7, 1, 2, 3⟩)

def worldAfter (calls : List (FieldCall ℚ)) : Field ℚ := (run callField ⟨Field.initial, ∅⟩ calls).field

def settled : List (FieldCall ℚ) := [enters (ascii "ann"), appears (ascii "wolf")]

theorem settledWorldShown : Shown {} (worldAfter settled) 1 [] := by
  have admissible : ∀ call ∈ settled, Admissible call := by
    intro call there
    simp only [settled, List.mem_cons, List.not_mem_nil, or_false] at there
    obtain rfl | rfl := there
    · exact ⟨by decide, by decide, rfl, rfl, rfl⟩
    · exact ⟨by decide, by decide, by decide, by decide, by decide, rfl, rfl, rfl⟩
  have exact : Shown {} (worldAfter settled) 1 [] ↔ Fits {} (worldAfter settled) 1 :=
    worldsShownExactly [] 1 [] settled admissible settled [] (List.append_nil settled).symm
  have sessions : (worldAfter settled).sessionToPlayerId = (∅ : IntMap Int).insert 3 1 := by
    decide +kernel
  refine exact.mpr ⟨by decide, by decide +kernel, fun s g bound => ?_⟩
  rw [sessions] at bound
  obtain ⟨rfl, -⟩ | old := insertedFound bound
  · decide +kernel
  · simp [lookup] at old

theorem captureFails {applier : WorldFrameApplier ℚ} {field : Field ℚ} {worldTick : UInt64}
    (fails : (capturePublicSnapshot applier field worldTick []).2.2.toBool = false) :
    ¬ Shown applier field worldTick [] := by
  rintro ⟨after, snapshot, captured, -⟩
  rw [captured] at fails
  contradiction

def divided : List (FieldCall ℚ) := [enters (ascii "ann"), appears (ascii "wolf;den")]

structure Blocked (calls : List (FieldCall ℚ)) : Prop where
  npcs : (publicNpcSnapshots (worldAfter calls)).length ≤ 255
  players : (worldAfter calls).publicPlayerPoses.length ≤ 255
  hidden : ¬ Shown {} (worldAfter calls) 1 []

-- An NPC without a type and a name behind a zero byte stop every snapshot; a
-- semicolon in a type is captured, and then no client can read it.
theorem strangersBlockSnapshots :
    Blocked [appears []] ∧ Blocked [enters [0, 97]] ∧ Blocked divided := by
  refine ⟨?_, ?_, by decide +kernel, by decide +kernel, ?_⟩
  · exact ⟨by decide +kernel, by decide +kernel, captureFails (by decide +kernel)⟩
  · exact ⟨by decide +kernel, by decide +kernel, captureFails (by decide +kernel)⟩
  · rintro ⟨after, snapshot, captured, copies⟩
    have bound : lookup (worldAfter divided).sessionToPlayerId 3 = some 1 := by decide +kernel
    obtain ⟨personalized, state, copied, applied⟩ := copies 3 1 bound
    have unread : (capturePublicSnapshot {} (worldAfter divided) 1 []).2.1.all (fun snapshot =>
        ((copyWorldUpdateForSession snapshot 3
          (capturePublicSnapshot {} (worldAfter divided) 1 []).1.snapshotAcks).toOption.all
            (fun personalized =>
              (applySnapshot personalized : Except String (EnvironmentState ℚ)).toBool = false))) =
        true := by decide +kernel
    rw [captured] at unread
    simp [copied, applied, Except.toOption, Except.toBool] at unread

end SeedOrigin.SnapshotAcceptance
