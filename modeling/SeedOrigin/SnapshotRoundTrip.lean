import SeedOrigin.SnapshotText
import SeedOrigin.SnapshotParser

/-! What the client reads of a snapshot that the server has formatted, with or
without the fields of the receiving session. -/
namespace SeedOrigin.SnapshotRoundTrip
open SeedOrigin.Octets SeedOrigin.Numbers SeedOrigin.Decimal SeedOrigin.Significant SeedOrigin.Ether
open SeedOrigin.Character SeedOrigin.ClientInput SeedOrigin.Inputs SeedOrigin.UpdateWire
open SeedOrigin.UpdateBuilder SeedOrigin.Applier SeedOrigin.FieldText SeedOrigin.IndexedFields
open SeedOrigin.HazardAgreement SeedOrigin.PublishLimits SeedOrigin.SnapshotText
open SeedOrigin.SnapshotParser

theorem numberedOther (header name : Bytes) (index : Nat) {b : UInt8} (other : isDigit b = false)
    (rest : Bytes) : numbered header index name ≠ header ++ b :: rest := by
  intro same
  have tail := List.append_cancel_left same
  cases number : natText index with
  | nil => exact natTextNonempty index number
  | cons c digits =>
    have first := natTextDigits index c (by rw [number]; exact List.mem_cons_self)
    rw [number, List.cons_append, List.cons.injEq] at tail
    rw [tail.1, other] at first
    contradiction

theorem parseIndex (index : Nat) (small : index < 256) : parseInt64 (natText index) = some (index : Int) := by
  have inside : InInt64 (index : Int) := by
    unfold InInt64
    omega
  have parsed := parseIntText inside
  unfold intText at parsed
  rw [if_neg (by omega)] at parsed
  exact parsed

theorem splitNumbered {header name : Bytes} {index minimum : Nat} (small : index < 256)
    (some : name ≠ []) (room : minimum ≤ header.length + 3) (fieldError indexError shortError : String) :
    splitIndexed header (numbered header index name) minimum fieldError indexError shortError =
      .ok ((index : Int), name) := by
  have long : ¬ (numbered header index name).length < minimum := by
    have number := List.length_pos_iff.mpr (natTextNonempty index)
    have named := List.length_pos_iff.mpr some
    simp only [numbered, List.length_append, List.length_cons]
    omega
  have parts : cut 46 ((numbered header index name).drop header.length) = .some (natText index, name) := by
    rw [numbered, List.drop_left]
    exact cutKey (natTextFree index (by decide)) name
  have filled : ¬ (natText index = [] ∨ name = []) := not_or.mpr ⟨natTextNonempty index, some⟩
  have range : ¬ ((index : Int) < 0 ∨ (index : Int) ≥ 256) := by omega
  unfold splitIndexed
  rw [if_neg long, parts]
  dsimp only
  rw [if_neg filled, parseIndex index small]
  dsimp only
  rw [if_neg range]

section
variable {parsed : ParsedFields ℚ}

theorem npcStep {index : Nat} (small : index < 256) (entries : IntMap (NpcSnapshot ℚ))
    {part : Bytes × Bytes} (some : part.1 ≠ []) (free : 61 ∉ part.1) {npc : NpcSnapshot ℚ}
    (read : readNpc (entries.getD (index : Int) emptyNpc) part.1 part.2 = .ok npc) :
    parseField { parsed with npcs := entries } (keyed (numbered (ascii "npc.") index part.1) part.2) =
      .ok { parsed with npcs := entries.insert (index : Int) npc } := by
  have key : 61 ∉ numbered (ascii "npc.") index part.1 :=
    numberedFree (by decide) (by decide) (by decide) free index
  have other : numbered (ascii "npc.") index part.1 ≠ ascii "npc.count" :=
    numberedOther (ascii "npc.") part.1 index (b := 99) (by decide) (ascii "ount")
  have header : (numbered (ascii "npc.") index part.1).take 4 = ascii "npc." := List.take_left' (by decide)
  unfold parseField
  rw [keyedCut key]
  dsimp only
  rw [if_neg other, if_pos header]
  unfold parseNpcField
  rw [splitNumbered small some (by decide)]
  simp only [bind, Except.bind, read, pure, Except.pure]

theorem playerStep {index : Nat} (small : index < 256) (entries : IntMap (PlayerPoseSnapshot ℚ))
    {part : Bytes × Bytes} (some : part.1 ≠ []) (free : 61 ∉ part.1) {player : PlayerPoseSnapshot ℚ}
    (read : readPlayer (entries.getD (index : Int) emptyPlayer) part.1 part.2 = .ok player) :
    parseField { parsed with players := entries }
        (keyed (numbered (ascii "player.") index part.1) part.2) =
      .ok { parsed with players := entries.insert (index : Int) player } := by
  have key : 61 ∉ numbered (ascii "player.") index part.1 :=
    numberedFree (by decide) (by decide) (by decide) free index
  have header : (numbered (ascii "player.") index part.1).take 7 = ascii "player." :=
    List.take_left' (by decide)
  have front : (numbered (ascii "player.") index part.1).take 4 = ascii "play" := by
    have four := congrArg (List.take 4) header
    rw [List.take_take] at four
    exact four.trans (by decide)
  have notNpc : (numbered (ascii "player.") index part.1).take 4 ≠ ascii "npc." := by
    rw [front]
    decide
  have notCount : numbered (ascii "player.") index part.1 ≠ ascii "npc.count" := by
    intro same
    rw [same] at front
    exact absurd front (by decide)
  have other : numbered (ascii "player.") index part.1 ≠ ascii "player.count" :=
    numberedOther (ascii "player.") part.1 index (b := 99) (by decide) (ascii "ount")
  unfold parseField
  rw [keyedCut key]
  dsimp only
  rw [if_neg notCount, if_neg notNpc, if_neg other, if_pos header]
  unfold parsePlayerField
  rw [splitNumbered small some (by decide)]
  simp only [bind, Except.bind, read, pure, Except.pure]

end

def SixDigits (q : ℚ) : Prop := rounded q = q
instance (q) : Decidable (SixDigits q) := by unfold SixDigits; infer_instance

structure ExactNpc (npc : NpcSnapshot ℚ) : Prop where
  x : SixDigits npc.x
  y : SixDigits npc.y
  z : SixDigits npc.z
  id : InInt64 npc.id
  hp : InInt64 npc.hp

structure ExactPlayer (player : PlayerPoseSnapshot ℚ) : Prop where
  x : SixDigits player.x
  y : SixDigits player.y
  z : SixDigits player.z
  sessionId : InInt64 player.sessionId
  gameplayId : InInt64 player.gameplayId

structure NpcIntegers (npc : NpcSnapshot ℚ) : Prop where
  id : InInt64 npc.id
  hp : InInt64 npc.hp

structure PlayerIntegers (player : PlayerPoseSnapshot ℚ) : Prop where
  sessionId : InInt64 player.sessionId
  gameplayId : InInt64 player.gameplayId

def roundedNpc (npc : NpcSnapshot ℚ) : NpcSnapshot ℚ :=
  { npc with x := rounded npc.x, y := rounded npc.y, z := rounded npc.z }

def roundedPlayer (player : PlayerPoseSnapshot ℚ) : PlayerPoseSnapshot ℚ :=
  { player with x := rounded player.x, y := rounded player.y, z := rounded player.z }

def roundedEther (ether : EnvironmentEther ℚ) : EnvironmentEther ℚ :=
  ⟨rounded ether.fire, rounded ether.water, rounded ether.earth, rounded ether.air⟩

def roundedAck (ack : MovementAck ℚ) : MovementAck ℚ :=
  { ack with x := rounded ack.x, y := rounded ack.y, z := rounded ack.z }

-- The client knows no id below one and trims the names.
def asRead (player : PlayerPoseSnapshot ℚ) : PlayerPoseSnapshot ℚ :=
  { player with
    gameplayId := if player.gameplayId > 0 then player.gameplayId else 0
    name := trimPlayerName player.name }

theorem npcRead {npc : NpcSnapshot ℚ} (valid : PublicNpc npc) (integers : NpcIntegers npc) :
    (npcParts npc).foldlM (fun npc part => readNpc npc part.1 part.2) (emptyNpc (F := ℚ)) =
      .ok (roundedNpc npc) := by
  have id (start : NpcSnapshot ℚ) : readNpc start (ascii "id") (intText npc.id) =
      .ok { start with id := npc.id } := by
    unfold readNpc
    rw [if_pos rfl, parseIntText integers.id]
  have type (start : NpcSnapshot ℚ) : readNpc start (ascii "type") npc.type =
      .ok { start with type := npc.type } := by
    have fits : ¬ (npc.type = [] ∨ npc.type.length > 32) :=
      not_or.mpr ⟨valid.named, Nat.not_lt.mpr valid.short⟩
    unfold readNpc
    rw [if_neg (by decide), if_pos rfl, if_neg fits]
  have x (start : NpcSnapshot ℚ) : readNpc start (ascii "x") (text npc.x) =
      .ok { start with x := rounded npc.x } := by
    unfold readNpc
    rw [if_neg (by decide), if_neg (by decide), if_pos (by decide), parseText]
    rfl
  have y (start : NpcSnapshot ℚ) : readNpc start (ascii "y") (text npc.y) =
      .ok { start with y := rounded npc.y } := by
    unfold readNpc
    rw [if_neg (by decide), if_neg (by decide), if_pos (by decide), parseText]
    rfl
  have z (start : NpcSnapshot ℚ) : readNpc start (ascii "z") (text npc.z) =
      .ok { start with z := rounded npc.z } := by
    unfold readNpc
    rw [if_neg (by decide), if_neg (by decide), if_pos (by decide), parseText]
    rfl
  have hp (start : NpcSnapshot ℚ) : readNpc start (ascii "hp") (intText npc.hp) =
      .ok { start with hp := npc.hp } := by
    unfold readNpc
    rw [if_neg (by decide), if_neg (by decide), if_neg (by decide), if_pos rfl,
      parseIntText integers.hp]
    dsimp only
    rw [if_neg (Int.not_lt.mpr valid.hp)]
  have alive (start : NpcSnapshot ℚ) : readNpc start (ascii "alive") (ascii "1") =
      .ok { start with alive := true } := by
    unfold readNpc
    rw [if_neg (by decide), if_neg (by decide), if_neg (by decide), if_neg (by decide), if_pos rfl,
      if_neg (by decide)]
  simp only [npcParts, List.foldlM_cons, List.foldlM_nil, bind, Except.bind, id, type, x, y, z, hp,
    alive, pure, Except.pure]
  rw [roundedNpc, ← valid.alive]

theorem playerRead {player : PlayerPoseSnapshot ℚ} (valid : PublicPlayer player)
    (integers : PlayerIntegers player) :
    (playerParts player).foldlM (fun player part => readPlayer player part.1 part.2)
      (emptyPlayer (F := ℚ)) = .ok (asRead (roundedPlayer player)) := by
  have session (start : PlayerPoseSnapshot ℚ) :
      readPlayer start (ascii "session") (intText player.sessionId) =
        .ok { start with sessionId := player.sessionId } := by
    unfold readPlayer
    rw [if_pos rfl, parseIntText integers.sessionId]
    dsimp only
    rw [if_neg (Int.not_le.mpr valid.sessionId)]
  have x (start : PlayerPoseSnapshot ℚ) : readPlayer start (ascii "x") (text player.x) =
      .ok { start with x := rounded player.x } := by
    unfold readPlayer
    rw [if_neg (by decide), if_pos (by decide), parseText]
    rfl
  have y (start : PlayerPoseSnapshot ℚ) : readPlayer start (ascii "y") (text player.y) =
      .ok { start with y := rounded player.y } := by
    unfold readPlayer
    rw [if_neg (by decide), if_pos (by decide), parseText]
    rfl
  have z (start : PlayerPoseSnapshot ℚ) : readPlayer start (ascii "z") (text player.z) =
      .ok { start with z := rounded player.z } := by
    unfold readPlayer
    rw [if_neg (by decide), if_pos (by decide), parseText]
    rfl
  have id (start : PlayerPoseSnapshot ℚ) (positive : player.gameplayId > 0) :
      readPlayer start (ascii "id") (intText player.gameplayId) =
        .ok { start with gameplayId := player.gameplayId } := by
    unfold readPlayer
    rw [if_neg (by decide), if_neg (by decide), if_pos rfl, parseIntText integers.gameplayId]
    dsimp only
    rw [if_neg (Int.not_le.mpr positive)]
  have name (start : PlayerPoseSnapshot ℚ) : readPlayer start (ascii "name") player.name =
      .ok { start with name := trimPlayerName player.name } := by
    have fits : ¬ (trimPlayerName player.name = [] ∨ 59 ∈ trimPlayerName player.name) := by
      refine not_or.mpr ⟨valid.named, fun there => valid.free ?_⟩
      exact (List.dropWhile_suffix _).subset ((List.rdropWhile_prefix _ _).subset there)
    unfold readPlayer
    rw [if_neg (by decide), if_neg (by decide), if_neg (by decide), if_pos rfl]
    dsimp only
    rw [if_neg fits]
  unfold playerParts idPart asRead roundedPlayer
  dsimp only
  split
  · rename_i positive
    simp only [List.cons_append, List.nil_append, List.foldlM_cons, List.foldlM_nil, bind,
      Except.bind, session, x, y, z, id _ positive, name, pure, Except.pure]
  · simp only [List.cons_append, List.nil_append, List.append_nil, List.foldlM_cons,
      List.foldlM_nil, bind, Except.bind, session, x, y, z, name, pure, Except.pure]
    rfl

theorem npcNames (npc : NpcSnapshot ℚ) : ∀ part ∈ npcParts npc, part.1 ≠ [] ∧ 61 ∉ part.1 := by
  simp only [npcParts, List.forall_mem_cons]
  exact ⟨by decide, by decide, by decide, by decide, by decide, by decide, by decide,
    fun part there => absurd there List.not_mem_nil⟩

theorem playerNames (player : PlayerPoseSnapshot ℚ) :
    ∀ part ∈ playerParts player, part.1 ≠ [] ∧ 61 ∉ part.1 := by
  have id : ∀ part ∈ idPart player, part.1 ≠ [] ∧ 61 ∉ part.1 := by
    unfold idPart
    split
    · intro part there
      rw [List.mem_singleton.mp there]
      have name : ascii "id" ≠ [] ∧ 61 ∉ ascii "id" := by decide
      exact name
    · exact fun part there => absurd there List.not_mem_nil
  simp only [playerParts, List.forall_mem_append, List.forall_mem_cons]
  exact ⟨⟨⟨by decide, by decide, by decide, by decide,
    fun part there => absurd there List.not_mem_nil⟩, id⟩, by decide,
    fun part there => absurd there List.not_mem_nil⟩

section
variable {parsed : ParsedFields ℚ}

theorem foldNpcs {npcs : List (NpcSnapshot ℚ)} (valid : ∀ npc ∈ npcs, PublicNpc npc)
    (integers : ∀ npc ∈ npcs, NpcIntegers npc) (few : npcs.length < 256) (none : parsed.npcs = ∅) :
    (npcPieces npcs).foldlM parseField parsed =
      .ok { parsed with npcs := placed ∅ 0 (npcs.map roundedNpc) } := by
  have fresh : Fresh (∅ : IntMap (NpcSnapshot ℚ)) 0 := fun k _ there => by simp at there
  have folded := foldEntries parseField (fun entries => { parsed with npcs := entries })
    (fun i npc => piecesOf (ascii "npc.") i (npcParts npc)) roundedNpc npcs fresh
    (fun entries i npc there inside absent => by
      have small : i < 256 := by omega
      have start : entries.getD (i : Int) emptyNpc = emptyNpc := Std.ExtTreeMap.getD_eq_fallback absent
      have read := npcRead (valid npc there) (integers npc there)
      rw [← start] at read
      exact foldEntry (fun entries part inside npc read =>
        npcStep small entries (npcNames _ part inside).1 (npcNames _ part inside).2 read)
        (by simp [npcParts]) read)
  rw [← folded]
  unfold npcPieces
  rw [← none]

theorem foldPlayers {players : List (PlayerPoseSnapshot ℚ)}
    (valid : ∀ player ∈ players, PublicPlayer player)
    (integers : ∀ player ∈ players, PlayerIntegers player) (few : players.length < 256)
    (none : parsed.players = ∅) :
    (playerPieces players).foldlM parseField parsed =
      .ok { parsed with players := placed ∅ 0 (players.map (fun player => asRead (roundedPlayer player))) } := by
  have fresh : Fresh (∅ : IntMap (PlayerPoseSnapshot ℚ)) 0 := fun k _ there => by simp at there
  have folded := foldEntries parseField (fun entries => { parsed with players := entries })
    (fun i player => piecesOf (ascii "player.") i (playerParts player))
    (fun player => asRead (roundedPlayer player)) players fresh
    (fun entries i player there inside absent => by
      have small : i < 256 := by omega
      have start : entries.getD (i : Int) emptyPlayer = emptyPlayer :=
        Std.ExtTreeMap.getD_eq_fallback absent
      have read := playerRead (valid player there) (integers player there)
      rw [← start] at read
      exact foldEntry (fun entries part inside player read =>
        playerStep small entries (playerNames _ part inside).1 (playerNames _ part inside).2 read)
        (by simp [playerParts]) read)
  rw [← folded]
  unfold playerPieces
  rw [← none]

theorem readEtherText (q : ℚ) : readEther none (text q) = .ok (rounded q) := by
  unfold readEther
  rw [parseText]

theorem parseFire (q : ℚ) (first : parsed.fire = none) :
    parseField parsed (keyed (ascii "ether.fire") (text q)) =
      .ok { parsed with fire := some (rounded q) } := by
  unfold parseField
  rw [keyedCut (by decide)]
  dsimp only
  repeat rw [if_neg (by decide)]
  rw [if_pos rfl, first, readEtherText]
  rfl

theorem parseWater (q : ℚ) (first : parsed.water = none) :
    parseField parsed (keyed (ascii "ether.water") (text q)) =
      .ok { parsed with water := some (rounded q) } := by
  unfold parseField
  rw [keyedCut (by decide)]
  dsimp only
  repeat rw [if_neg (by decide)]
  rw [if_pos rfl, first, readEtherText]
  rfl

theorem parseEarth (q : ℚ) (first : parsed.earth = none) :
    parseField parsed (keyed (ascii "ether.earth") (text q)) =
      .ok { parsed with earth := some (rounded q) } := by
  unfold parseField
  rw [keyedCut (by decide)]
  dsimp only
  repeat rw [if_neg (by decide)]
  rw [if_pos rfl, first, readEtherText]
  rfl

theorem parseAir (q : ℚ) (first : parsed.air = none) :
    parseField parsed (keyed (ascii "ether.air") (text q)) =
      .ok { parsed with air := some (rounded q) } := by
  unfold parseField
  rw [keyedCut (by decide)]
  dsimp only
  repeat rw [if_neg (by decide)]
  rw [if_pos rfl, first, readEtherText]
  rfl

theorem parseHazardField (q : ℚ) (first : parsed.hazard = none) :
    parseField parsed (keyed (ascii "ether.hazard") (text q)) =
      .ok { parsed with hazard := some (rounded q) } := by
  unfold parseField
  rw [keyedCut (by decide)]
  dsimp only
  repeat rw [if_neg (by decide)]
  rw [if_pos rfl, first, readEtherText]
  rfl

theorem readCountText (n : Nat) (few : n < 256) (error : String) :
    readCount none (natText n) error = .ok (n : Int) := by
  unfold readCount
  rw [parseIndex n few]
  dsimp only
  rw [if_neg (by omega)]

theorem parseNpcCount (n : Nat) (few : n < 256) (first : parsed.npcCount = none) :
    parseField parsed (keyed (ascii "npc.count") (natText n)) =
      .ok { parsed with npcCount := some (n : Int) } := by
  unfold parseField
  rw [keyedCut (by decide)]
  dsimp only
  rw [if_pos rfl, first, readCountText n few]
  rfl

theorem parsePlayerCount (n : Nat) (few : n < 256) (first : parsed.playerCount = none) :
    parseField parsed (keyed (ascii "player.count") (natText n)) =
      .ok { parsed with playerCount := some (n : Int) } := by
  unfold parseField
  rw [keyedCut (by decide)]
  dsimp only
  repeat rw [if_neg (by decide)]
  rw [if_pos rfl, first, readCountText n few]
  rfl

theorem readLocalText (q : ℚ) : readLocal (text q) = .ok (rounded q) := by
  unfold readLocal
  rw [parseText]

theorem parseUint64Text (n : UInt64) : parseUint64 (uint64Text n) = some n := by
  have number := natTextNonempty n.toNat
  have digits := natTextDigits n.toNat
  obtain ⟨blank, plain⟩ := startsPlain number digits []
  rw [List.append_nil] at blank plain
  have scanned : scanUint64 (natText n.toNat) = some (n, []) := by
    have value := scanNatText n.toNat [] (by simp)
    rw [List.append_nil] at value
    simp only [scanUint64, blank, plain, value, bind, Option.bind, n.toNat_lt, if_true,
      Bool.false_eq_true, if_false, UInt64.ofNat_toNat]
  have unsigned : ¬ (natText n.toNat = [] ∨ (natText n.toNat).head? = some 45) := by
    refine not_or.mpr ⟨number, fun minus => ?_⟩
    have first := digits 45 (List.mem_of_mem_head? minus)
    contradiction
  unfold parseUint64 uint64Text
  rw [if_neg unsigned, scanned]
  rfl

theorem foldLocal (ack : MovementAck ℚ) : (localPieces ack).foldlM parseField parsed =
      .ok { parsed with
        localX := some (rounded ack.x)
        localY := some (rounded ack.y)
        localZ := some (rounded ack.z)
        lastProcessed := some ack.lastProcessedInputSequence } := by
  have first (parsed : ParsedFields ℚ) : parseField parsed (keyed (ascii "local.x") (text ack.x)) =
      .ok { parsed with localX := some (rounded ack.x) } := by
    unfold parseField
    rw [keyedCut (by decide)]
    dsimp only
    repeat rw [if_neg (by decide)]
    rw [if_pos rfl, readLocalText]
    rfl
  have second (parsed : ParsedFields ℚ) : parseField parsed (keyed (ascii "local.y") (text ack.y)) =
      .ok { parsed with localY := some (rounded ack.y) } := by
    unfold parseField
    rw [keyedCut (by decide)]
    dsimp only
    repeat rw [if_neg (by decide)]
    rw [if_pos rfl, readLocalText]
    rfl
  have third (parsed : ParsedFields ℚ) : parseField parsed (keyed (ascii "local.z") (text ack.z)) =
      .ok { parsed with localZ := some (rounded ack.z) } := by
    unfold parseField
    rw [keyedCut (by decide)]
    dsimp only
    repeat rw [if_neg (by decide)]
    rw [if_pos rfl, readLocalText]
    rfl
  have last (parsed : ParsedFields ℚ) : parseField parsed
      (keyed (ascii "local.lastProcessedInputSequence") (uint64Text ack.lastProcessedInputSequence)) =
        .ok { parsed with lastProcessed := some ack.lastProcessedInputSequence } := by
    unfold parseField
    rw [keyedCut (by decide)]
    dsimp only
    repeat rw [if_neg (by decide)]
    rw [if_pos rfl, parseUint64Text]
  simp only [localPieces, List.foldlM_cons, List.foldlM_nil, first, second, third, last, bind,
    Except.bind, pure, Except.pure]

end

structure ExactNumbers (ether : EnvironmentEther ℚ) (hazard : ℚ) (npcs : List (NpcSnapshot ℚ))
    (players : List (PlayerPoseSnapshot ℚ)) : Prop where
  fire : SixDigits ether.fire
  water : SixDigits ether.water
  earth : SixDigits ether.earth
  air : SixDigits ether.air
  hazardDigits : SixDigits hazard
  exactNpcs : ∀ npc ∈ npcs, ExactNpc npc
  exactPlayers : ∀ player ∈ players, ExactPlayer player

structure Integers (npcs : List (NpcSnapshot ℚ)) (players : List (PlayerPoseSnapshot ℚ)) : Prop where
  npcs : ∀ npc ∈ npcs, NpcIntegers npc
  players : ∀ player ∈ players, PlayerIntegers player

structure ExactAck (ack : MovementAck ℚ) : Prop where
  x : SixDigits ack.x
  y : SixDigits ack.y
  z : SixDigits ack.z

section
variable {ether : EnvironmentEther ℚ} {hazard : ℚ} {npcs : List (NpcSnapshot ℚ)}
  {players : List (PlayerPoseSnapshot ℚ)} {payload : Bytes}

def readFields (ether : EnvironmentEther ℚ) (hazard : ℚ) (npcs : List (NpcSnapshot ℚ))
    (players : List (PlayerPoseSnapshot ℚ)) : ParsedFields ℚ :=
  { fire := some ether.fire
    water := some ether.water
    earth := some ether.earth
    air := some ether.air
    hazard := some hazard
    npcCount := some (npcs.length : Int)
    npcs := placed ∅ 0 npcs
    playerCount := some (players.length : Int)
    players := placed ∅ 0 (players.map asRead) }

theorem foldPublic (formatted : Formatted ether hazard npcs players payload)
    (integers : Integers npcs players) (fewNpcs : npcs.length < 256)
    (fewPlayers : players.length < 256) :
    (keyed (ascii "ether.fire") (text ether.fire) ::
      snapshotPieces ether hazard npcs players).foldlM parseField {} =
        .ok (readFields (roundedEther ether) (rounded hazard) (npcs.map roundedNpc)
          (players.map roundedPlayer)) := by
  simp only [snapshotPieces, etherPieces, List.foldlM_append, List.foldlM_cons, List.foldlM_nil,
    bind, Except.bind, pure, Except.pure, parseFire, parseWater, parseEarth, parseAir,
    parseHazardField, parseNpcCount _ fewNpcs,
    foldNpcs formatted.publicNpcs integers.npcs fewNpcs, parsePlayerCount _ fewPlayers,
    foldPlayers formatted.publicPlayers integers.players fewPlayers, readFields, roundedEther,
    List.length_map, List.map_map]
  rfl

theorem completePlaced {V : Type} {values : List V} {entry : Nat → Except String V}
    (there : ∀ k v, values[k]? = some v → entry k = .ok v) (mismatch : String) :
    complete (some (values.length : Int)) (placed ∅ 0 values).size entry mismatch = .ok values := by
  have fresh : Fresh (∅ : IntMap V) 0 := fun k _ there => by simp at there
  have size : (placed ∅ 0 values).size = values.length := by
    rw [placedSize values fresh]
    simp
  unfold complete
  dsimp only
  rw [size, if_neg (by simp), Int.toNat_natCast, List.range_eq_range']
  exact readPlaced 0 (fun k v found => by
    rw [Nat.zero_add]
    exact there k v found)

theorem placedFound {V : Type} {values : List V} {k : Nat} {v : V} (found : values[k]? = some v) :
    (placed ∅ 0 values)[(k : Int)]? = some v := by
  have inside : k < values.length := (List.getElem?_eq_some_iff.mp found).1
  rw [placedAt, if_pos (by omega), Nat.sub_zero, found]

theorem npcsComplete (valid : ∀ npc ∈ npcs, PublicNpc npc) (mismatch : String) :
    complete (some (npcs.length : Int)) (placed ∅ 0 npcs).size (completeNpc (placed ∅ 0 npcs))
      mismatch = .ok npcs := by
  refine completePlaced (fun k npc found => ?_) mismatch
  have good := valid npc (List.mem_of_getElem? found)
  have filled : ¬ (npc.id ≤ 0 ∨ npc.type = [] ∨ FloatOps.isFinite npc.x = false ∨
      FloatOps.isFinite npc.y = false ∨ FloatOps.isFinite npc.z = false ∨ npc.hp < 0 ∨
      npc.alive = false) := by
    have id := good.id
    have hp := good.hp
    simp only [not_or, good.alive, FloatOps.isFinite]
    exact ⟨by omega, good.named, nofun, nofun, nofun, by omega, nofun⟩
  unfold completeNpc
  rw [placedFound found]
  dsimp only
  rw [if_neg filled]

theorem playersComplete (valid : ∀ player ∈ players, PublicPlayer player) (mismatch : String) :
    complete (some (players.length : Int)) (placed ∅ 0 (players.map asRead)).size
      (completePlayer (placed ∅ 0 (players.map asRead))) mismatch = .ok (players.map asRead) := by
  have count : (players.length : Int) = ((players.map asRead).length : Int) := by
    rw [List.length_map]
  rw [count]
  refine completePlaced (fun k read found => ?_) mismatch
  obtain ⟨player, there, rfl⟩ := List.mem_map.mp (List.mem_of_getElem? found)
  have good := valid player there
  have filled : ¬ ((asRead player).sessionId ≤ 0 ∨ FloatOps.isFinite (asRead player).x = false ∨
      FloatOps.isFinite (asRead player).y = false ∨ FloatOps.isFinite (asRead player).z = false ∨
      trimPlayerName (asRead player).name = []) := by
    have sessionId := good.sessionId
    simp only [not_or, asRead, trimTwice, FloatOps.isFinite]
    exact ⟨by omega, nofun, nofun, nofun, good.named⟩
  unfold completePlayer
  rw [placedFound found]
  dsimp only
  rw [if_neg filled]

def shownState (worldTick sequence : UInt64) (ether : EnvironmentEther ℚ) (hazard : ℚ)
    (npcs : List (NpcSnapshot ℚ)) (players : List (PlayerPoseSnapshot ℚ))
    (ownAck : Option (MovementAck ℚ)) : EnvironmentState ℚ :=
  let state : EnvironmentState ℚ :=
    { fire := ether.fire, water := ether.water, earth := ether.earth, air := ether.air
      hazard := hazard, worldTick := worldTick, sequence := sequence
      npcs := npcs, players := players, localX := 0, localY := 0, localZ := 0 }
  match ownAck with
  | none => state
  | some ack =>
    { state with
      hasLocalPlayer := true
      localX := ack.x
      localY := ack.y
      localZ := ack.z
      lastProcessedInputSequence := ack.lastProcessedInputSequence }

theorem shownPlayers (worldTick sequence : UInt64) (ether : EnvironmentEther ℚ) (hazard : ℚ)
    (npcs : List (NpcSnapshot ℚ)) (players : List (PlayerPoseSnapshot ℚ))
    (ownAck : Option (MovementAck ℚ)) :
    (shownState worldTick sequence ether hazard npcs players ownAck).players = players := by
  cases ownAck <;> rfl

def ownPieces : Option (MovementAck ℚ) → List Bytes
  | none => []
  | some ack => localPieces ack

def withOwn (parsed : ParsedFields ℚ) : Option (MovementAck ℚ) → ParsedFields ℚ
  | none => parsed
  | some ack =>
    { parsed with
      localX := some ack.x
      localY := some ack.y
      localZ := some ack.z
      lastProcessed := some ack.lastProcessedInputSequence }

variable {ownAck : Option (MovementAck ℚ)}

theorem foldOwn (parsed : ParsedFields ℚ) :
    (ownPieces ownAck).foldlM parseField parsed = .ok (withOwn parsed (ownAck.map roundedAck)) := by
  cases ownAck with
  | none => rfl
  | some ack => exact foldLocal ack

theorem payloadFields (formatted : Formatted ether hazard npcs players payload)
    (types : ∀ npc ∈ npcs, 59 ∉ npc.type) :
    fields 59 (payload ++ behind (ownPieces ownAck)) = keyed (ascii "ether.fire") (text ether.fire) ::
      (snapshotPieces ether hazard npcs players ++ ownPieces ownAck) := by
  have own : ∀ piece ∈ ownPieces ownAck, 59 ∉ piece ∧ piece ≠ [] := by
    cases ownAck with
    | none => exact fun piece there => absurd there List.not_mem_nil
    | some ack => exact fun piece there => ⟨localFree ack piece there, localFilled ack piece there⟩
  have all : ∀ piece ∈ (keyed (ascii "ether.fire") (text ether.fire) ::
      snapshotPieces ether hazard npcs players) ++ ownPieces ownAck, 59 ∉ piece ∧ piece ≠ [] :=
    List.forall_mem_append.mpr ⟨fun piece there =>
      ⟨publicFree formatted types piece there, publicFilled piece there⟩, own⟩
  rw [formatted.shape, behind, ← joinAppend]
  exact fieldsJoined (fun piece there => (all piece there).1) (fun piece there => (all piece there).2)

theorem payloadParsed (formatted : Formatted ether hazard npcs players payload)
    (integers : Integers npcs players) (types : ∀ npc ∈ npcs, 59 ∉ npc.type)
    (small : payload.length ≤ maxUpdatePayload) (ownAck : Option (MovementAck ℚ)) :
    (fields 59 (payload ++ behind (ownPieces ownAck))).foldlM parseField {} =
      .ok (withOwn (readFields (roundedEther ether) (rounded hazard) (npcs.map roundedNpc)
        (players.map roundedPlayer)) (ownAck.map roundedAck)) := by
  obtain ⟨fewNpcs, fewPlayers⟩ := countsSmall formatted types small
  rw [payloadFields formatted types, ← List.cons_append, List.foldlM_append,
    foldPublic formatted integers fewNpcs fewPlayers]
  exact foldOwn _

theorem finished (positive : 0 ≤ hazard) (publicNpcs : ∀ npc ∈ npcs, PublicNpc npc)
    (publicPlayers : ∀ player ∈ players, PublicPlayer player) :
    finishFields (withOwn (readFields ether hazard npcs players) ownAck) =
      if hazard ≤ 10 then
        .ok (shownState 0 0 ether hazard npcs (players.map asRead) ownAck)
      else .error "snapshot hazard is outside the supported range" := by
  have npcsRead := npcsComplete publicNpcs "snapshot NPC count does not match fields"
  have playersRead := playersComplete publicPlayers "snapshot player count does not match fields"
  have range : (FloatOps.lt hazard (FloatOps.lit 0) = true ∨ FloatOps.lt (FloatOps.lit 10) hazard = true) ↔
      ¬ hazard ≤ 10 := by
    simp only [FloatOps.lt, FloatOps.lit, decide_eq_true_eq, not_le]
    constructor
    · rintro (below | above)
      · linarith
      · exact above
    · exact .inr
  cases ownAck with
  | none =>
    unfold finishFields withOwn readFields
    dsimp only
    by_cases fits : hazard ≤ 10
    · rw [if_neg (fun bad => range.mp bad fits), if_pos fits, npcsRead, playersRead]
      rfl
    · rw [if_pos (range.mpr fits), if_neg fits]
  | some ack =>
    unfold finishFields withOwn readFields
    dsimp only
    by_cases fits : hazard ≤ 10
    · rw [if_neg (fun bad => range.mp bad fits), if_pos fits, npcsRead, playersRead]
      rfl
    · rw [if_pos (range.mpr fits), if_neg fits]

variable {builder after : WorldFrameUpdateBuilder} {worldTick : UInt64} {before : List WorldUpdate}
  {update personalized : WorldUpdate} {recipientSessionId : Int} {ownerAcks : List (MovementAck ℚ)}

structure Copied (payload : Bytes) (update : WorldUpdate) (ownAck : Option (MovementAck ℚ))
    (personalized : WorldUpdate) : Prop where
  kind : personalized.kind = .snapshot
  eventId : personalized.eventId = 0
  worldTick : personalized.worldTick = update.worldTick
  sequence : personalized.sequence = update.sequence
  left : personalized.sequence ≠ maxUint64
  longer : personalized.payload = payload ++ behind (ownPieces ownAck)
  small : payload.length ≤ maxUpdatePayload
  valid : ValidUpdate personalized

theorem snapshotExtra (kind : update.kind = .snapshot) (recipientSessionId : Int)
    (ownerAcks : List (MovementAck ℚ)) : extraFields update recipientSessionId ownerAcks =
      behind (ownPieces (findOwnerAck ownerAcks recipientSessionId)) := by
  unfold extraFields
  rw [if_pos kind]
  cases findOwnerAck ownerAcks recipientSessionId with
  | none => rfl
  | some ack => exact localBehind ack

theorem attachExact (valid : ValidUpdate update) (extra : Bytes) :
    attach update extra = .ok personalized ↔
      personalized = { update with payload := update.payload ++ extra } ∧
      update.payload.length + extra.length ≤ maxUpdatePayload := by
  rw [← validLonger valid extra]
  unfold attach ValidUpdate
  dsimp only
  cases validateWorldUpdate { update with payload := update.payload ++ extra } with
  | error e => simp [bind, Except.bind]
  | ok _ => simp [bind, Except.bind, pure, Except.pure, eq_comm]

theorem snapshotCopied
    (made : appendSnapshot builder worldTick payload before = (after, before ++ [update], .ok ()))
    (copied : copyWorldUpdateForSession update recipientSessionId ownerAcks = .ok personalized) :
    Copied payload update (findOwnerAck ownerAcks recipientSessionId) personalized := by
  obtain ⟨left, rfl, valid⟩ := appendedSnapshot made
  rw [copyAttaches valid recipientSessionId (fun ack _ => rfl), snapshotExtra rfl,
    attachExact valid] at copied
  obtain ⟨rfl, fits⟩ := copied
  exact ⟨rfl, rfl, rfl, rfl, left, rfl, (validParts valid).2, (validLonger valid _).mpr fits⟩

theorem roundedNonnegative {q : ℚ} (positive : 0 ≤ q) : 0 ≤ rounded q := by
  rcases eq_or_lt_of_le positive with rfl | above
  · decide +kernel
  · exact (roundedPositive above).le

theorem snapshotRead (formatted : Formatted ether hazard npcs players payload)
    (integers : Integers npcs players) (types : ∀ npc ∈ npcs, 59 ∉ npc.type)
    (copied : Copied payload update ownAck personalized) :
    applySnapshot personalized =
      if rounded hazard ≤ 10 then .ok (shownState update.worldTick update.sequence
        (roundedEther ether) (rounded hazard) (npcs.map roundedNpc)
        ((players.map roundedPlayer).map asRead) (ownAck.map roundedAck))
      else .error "snapshot hazard is outside the supported range" := by
  have parsed := payloadParsed formatted integers types copied.small ownAck
  have valid : validateWorldUpdate personalized = .ok () := copied.valid
  have result : parsePayload personalized.payload =
      finishFields (withOwn (readFields (roundedEther ether) (rounded hazard) (npcs.map roundedNpc)
        (players.map roundedPlayer)) (ownAck.map roundedAck)) := by
    unfold parsePayload
    rw [copied.longer, parsed]
    rfl
  have publicNpcs : ∀ npc ∈ npcs.map roundedNpc, PublicNpc npc :=
    List.forall_mem_map.mpr (fun npc there =>
      have ⟨id, named, short, hp, alive⟩ := formatted.publicNpcs npc there
      ⟨id, named, short, hp, alive⟩)
  have publicPlayers : ∀ player ∈ players.map roundedPlayer, PublicPlayer player :=
    List.forall_mem_map.mpr (fun player there =>
      have ⟨sessionId, named, free⟩ := formatted.publicPlayers player there
      ⟨sessionId, named, free⟩)
  unfold applySnapshot
  rw [if_neg (by simp [copied.kind, copied.eventId]), valid]
  simp only [bind, Except.bind]
  rw [if_neg copied.left, result,
    finished (roundedNonnegative formatted.positive) publicNpcs publicPlayers]
  by_cases fits : rounded hazard ≤ 10
  · rw [if_pos fits, if_pos fits, copied.worldTick, copied.sequence]
    cases ownAck <;> rfl
  · rw [if_neg fits, if_neg fits]

theorem snapshotReadExact (formatted : Formatted ether hazard npcs players payload)
    (exact : ExactNumbers ether hazard npcs players) (types : ∀ npc ∈ npcs, 59 ∉ npc.type)
    (own : ∀ ack ∈ ownAck, ExactAck ack) (copied : Copied payload update ownAck personalized) :
    applySnapshot personalized =
      if hazard ≤ 10 then .ok (shownState update.worldTick update.sequence ether hazard npcs
        (players.map asRead) ownAck)
      else .error "snapshot hazard is outside the supported range" := by
  have integers : Integers npcs players :=
    ⟨fun npc there => ⟨(exact.exactNpcs npc there).id, (exact.exactNpcs npc there).hp⟩,
      fun player there => ⟨(exact.exactPlayers player there).sessionId,
        (exact.exactPlayers player there).gameplayId⟩⟩
  have sameHazard : rounded hazard = hazard := exact.hazardDigits
  have sameEther : roundedEther ether = ether := by
    rw [roundedEther, exact.fire, exact.water, exact.earth, exact.air]
  have sameNpcs : npcs.map roundedNpc = npcs := by
    refine (List.map_congr_left (fun npc there => ?_)).trans (List.map_id npcs)
    obtain ⟨x, y, z, -, -⟩ := exact.exactNpcs npc there
    rw [roundedNpc, x, y, z, id]
  have samePlayers : players.map roundedPlayer = players := by
    refine (List.map_congr_left (fun player there => ?_)).trans (List.map_id players)
    obtain ⟨x, y, z, -, -⟩ := exact.exactPlayers player there
    rw [roundedPlayer, x, y, z, id]
  have sameAck : ownAck.map roundedAck = ownAck := by
    cases ownAck with
    | none => rfl
    | some ack =>
      obtain ⟨x, y, z⟩ := own ack rfl
      rw [Option.map_some, roundedAck, x, y, z]
  rw [snapshotRead formatted integers types copied, sameHazard, sameEther, sameNpcs, samePlayers,
    sameAck]

theorem roundTripExact (formatted : formatPayload ether hazard npcs players = .ok payload)
    (made : appendSnapshot builder worldTick payload before = (after, before ++ [update], .ok ()))
    (copied : copyWorldUpdateForSession update recipientSessionId ownerAcks = .ok personalized)
    (numbers : ExactNumbers ether hazard npcs players)
    (own : ∀ ack ∈ findOwnerAck ownerAcks recipientSessionId, ExactAck ack)
    (types : ∀ npc ∈ npcs, 59 ∉ npc.type) :
    applySnapshot personalized = .ok (shownState update.worldTick update.sequence ether hazard npcs
        players (findOwnerAck ownerAcks recipientSessionId)) ↔
      hazard ≤ 10 ∧ ∀ player ∈ players,
        0 ≤ player.gameplayId ∧ trimPlayerName player.name = player.name := by
  rw [snapshotReadExact (formattedPieces formatted) numbers types own (snapshotCopied made copied)]
  have same : players.map asRead = players ↔ ∀ player ∈ players,
      0 ≤ player.gameplayId ∧ trimPlayerName player.name = player.name := by
    have mapped : players.map asRead = players ↔ ∀ player ∈ players, asRead player = player := by
      have equal := List.map_inj_left (l := players) (f := asRead) (g := id)
      rw [List.map_id] at equal
      exact equal
    rw [mapped]
    refine forall₂_congr (fun player _ => ?_)
    unfold asRead
    constructor
    · intro unchanged
      have gameplayId := congrArg PlayerPoseSnapshot.gameplayId unchanged
      dsimp only at gameplayId
      refine ⟨?_, congrArg PlayerPoseSnapshot.name unchanged⟩
      split at gameplayId <;> omega
    · rintro ⟨positive, trimmed⟩
      have gameplayId : (if player.gameplayId > 0 then player.gameplayId else 0) = player.gameplayId := by
        split <;> omega
      rw [gameplayId, trimmed]
  by_cases fits : hazard ≤ 10
  · rw [if_pos fits, Except.ok.injEq]
    constructor
    · intro shown
      have read := congrArg EnvironmentState.players shown
      rw [shownPlayers, shownPlayers] at read
      exact ⟨fits, same.mp read⟩
    · rintro ⟨-, unchanged⟩
      rw [same.mpr unchanged]
  · rw [if_neg fits]
    constructor
    · intro bad
      contradiction
    · exact fun bad => absurd bad.1 fits

end

def steadyEther : EnvironmentEther ℚ := ⟨1, 2, 3, 4⟩
def wolf : NpcSnapshot ℚ := ⟨7, ascii "wolf", 1, 2, 3, 10, true⟩
def ann : PlayerPoseSnapshot ℚ := ⟨3, 1, 2, 3, 9, ascii "ann"⟩
def annAck : MovementAck ℚ := ⟨3, 1, 2, 3, 1, 4⟩

def payloadOf (hazard : ℚ) (player : PlayerPoseSnapshot ℚ) : Bytes :=
  ((formatPayload steadyEther hazard [wolf] [player]).toOption).getD []

def snapshotOf (hazard : ℚ) (player : PlayerPoseSnapshot ℚ) : WorldUpdate :=
  ⟨currentProtocolVersion, .snapshot, 1, 1, 0, payloadOf hazard player⟩

theorem payloadMade {hazard : ℚ} {player : PlayerPoseSnapshot ℚ}
    (formatted : (formatPayload steadyEther hazard [wolf] [player]).toBool = true) :
    formatPayload steadyEther hazard [wolf] [player] = .ok (payloadOf hazard player) := by
  unfold payloadOf
  cases made : formatPayload steadyEther hazard [wolf] [player] with
  | error e => simp [made, Except.toBool] at formatted
  | ok payload => rfl

theorem steadyNumbers {hazard : ℚ} {player : PlayerPoseSnapshot ℚ} (digits : SixDigits hazard)
    (exact : ExactPlayer player) : ExactNumbers steadyEther hazard [wolf] [player] where
  fire := by decide +kernel
  water := by decide +kernel
  earth := by decide +kernel
  air := by decide +kernel
  hazardDigits := digits
  exactNpcs := List.forall_mem_singleton.mpr (by constructor <;> decide +kernel)
  exactPlayers := List.forall_mem_singleton.mpr exact

theorem roundTripSteady : ∃ personalized,
    copyWorldUpdateForSession (snapshotOf 5 ann) 3 [annAck] = .ok personalized ∧
    applySnapshot personalized = .ok (shownState 1 1 steadyEther 5 [wolf] [ann] (some annAck)) := by
  have formatted : formatPayload steadyEther 5 [wolf] [ann] = .ok (payloadOf 5 ann) :=
    payloadMade (by decide +kernel)
  have made : appendSnapshot {} 1 (payloadOf 5 ann) [] = _ := snapshotMade (by decide +kernel)
  have numbers : ExactNumbers steadyEther 5 [wolf] [ann] :=
    steadyNumbers (by decide +kernel) (by constructor <;> decide +kernel)
  have own : ∀ ack ∈ findOwnerAck [annAck] 3, ExactAck ack := by
    intro ack there
    have same : findOwnerAck [annAck] 3 = some annAck := rfl
    cases Option.some.inj (same.symm.trans there)
    constructor <;> decide +kernel
  cases copied : copyWorldUpdateForSession (snapshotOf 5 ann) 3 [annAck] with
  | error e =>
    have sent : (copyWorldUpdateForSession (snapshotOf 5 ann) 3 [annAck]).toBool = true := by
      decide +kernel
    simp [copied, Except.toBool] at sent
  | ok personalized =>
    refine ⟨personalized, rfl, ?_⟩
    exact (roundTripExact formatted made copied numbers own
      (List.forall_mem_singleton.mpr (by decide))).mpr
        ⟨by norm_num, List.forall_mem_singleton.mpr (by decide)⟩

-- A hazard that the server never reaches, an id below one and a name that was cut
-- behind a blank are written, and not read back.
theorem snapshotsUnlike :
    (Player.setPlayerName (⟨1, 9, [], ⟨1, 1⟩, ⟨1, 0, 0, 0⟩⟩ : Player ℚ) [97, 32, 0, 98]).map
      Player.getPlayerName = some [97, 32] ∧
    ∀ hazard player, (hazard, player) ∈
        [(11, ann), (5, { ann with gameplayId := -1 }), (5, { ann with name := [97, 32] })] →
      formatPayload steadyEther hazard [wolf] [player] = .ok (payloadOf hazard player) ∧
      ExactNumbers steadyEther hazard [wolf] [player] ∧
      appendSnapshot {} 1 (payloadOf hazard player) [] = (⟨2, 1⟩, [snapshotOf hazard player], .ok ()) ∧
      (applySnapshot (snapshotOf hazard player)).toOption ≠
        some (shownState 1 1 steadyEther hazard [wolf] [player] none) := by
  refine ⟨by decide +kernel, fun hazard player there => ?_⟩
  simp only [List.mem_cons, Prod.mk.injEq, List.not_mem_nil, or_false] at there
  obtain ⟨rfl, rfl⟩ | ⟨rfl, rfl⟩ | ⟨rfl, rfl⟩ := there
  · exact ⟨payloadMade (by decide +kernel), steadyNumbers (by decide +kernel)
      (by constructor <;> decide +kernel), snapshotMade (by decide +kernel), by decide +kernel⟩
  · exact ⟨payloadMade (by decide +kernel), steadyNumbers (by decide +kernel)
      (by constructor <;> decide +kernel), snapshotMade (by decide +kernel), by decide +kernel⟩
  · exact ⟨payloadMade (by decide +kernel), steadyNumbers (by decide +kernel)
      (by constructor <;> decide +kernel), snapshotMade (by decide +kernel), by decide +kernel⟩

end SeedOrigin.SnapshotRoundTrip
