import SeedOrigin.HazardAgreement
import SeedOrigin.IndexedFields
import SeedOrigin.PublishLimits

/-! The payload of a snapshot as pieces between semicolons: what the server writes,
and the fields it adds for the receiving session. -/
namespace SeedOrigin.SnapshotText
open SeedOrigin.Octets SeedOrigin.Numbers SeedOrigin.Decimal SeedOrigin.Significant SeedOrigin.Ether
open SeedOrigin.Character SeedOrigin.ClientInput SeedOrigin.Inputs SeedOrigin.UpdateWire
open SeedOrigin.UpdateBuilder SeedOrigin.Applier SeedOrigin.FieldText SeedOrigin.IndexedFields
open SeedOrigin.HazardAgreement SeedOrigin.PublishLimits SeedOrigin.Conversions

def behind (pieces : List Bytes) : Bytes := pieces.flatMap (fun piece => 59 :: piece)

def piecesOf (header : Bytes) (index : Nat) (entry : List (Bytes × Bytes)) : List Bytes :=
  entry.map (fun part => keyed (numbered header index part.1) part.2)

def npcParts (npc : NpcSnapshot ℚ) : List (Bytes × Bytes) :=
  [(ascii "id", intText npc.id), (ascii "type", npc.type), (ascii "x", text npc.x),
    (ascii "y", text npc.y), (ascii "z", text npc.z), (ascii "hp", intText npc.hp),
    (ascii "alive", ascii "1")]

def idPart (player : PlayerPoseSnapshot ℚ) : List (Bytes × Bytes) :=
  if player.gameplayId > 0 then [(ascii "id", intText player.gameplayId)] else []

def playerParts (player : PlayerPoseSnapshot ℚ) : List (Bytes × Bytes) :=
  [(ascii "session", intText player.sessionId), (ascii "x", text player.x),
    (ascii "y", text player.y), (ascii "z", text player.z)] ++ idPart player ++
    [(ascii "name", player.name)]

def npcPieces (npcs : List (NpcSnapshot ℚ)) : List Bytes :=
  npcs.zipIdx.flatMap (fun entry => piecesOf (ascii "npc.") entry.2 (npcParts entry.1))

def playerPieces (players : List (PlayerPoseSnapshot ℚ)) : List Bytes :=
  players.zipIdx.flatMap (fun entry => piecesOf (ascii "player.") entry.2 (playerParts entry.1))

def etherPieces (ether : EnvironmentEther ℚ) (hazard : ℚ) : List Bytes :=
  [keyed (ascii "ether.water") (text ether.water), keyed (ascii "ether.earth") (text ether.earth),
    keyed (ascii "ether.air") (text ether.air), keyed (ascii "ether.hazard") (text hazard)]

def localPieces (ack : MovementAck ℚ) : List Bytes :=
  [keyed (ascii "local.x") (text ack.x), keyed (ascii "local.y") (text ack.y),
    keyed (ascii "local.z") (text ack.z),
    keyed (ascii "local.lastProcessedInputSequence") (uint64Text ack.lastProcessedInputSequence)]

def snapshotPieces (ether : EnvironmentEther ℚ) (hazard : ℚ) (npcs : List (NpcSnapshot ℚ))
    (players : List (PlayerPoseSnapshot ℚ)) : List Bytes :=
  etherPieces ether hazard ++ [keyed (ascii "npc.count") (natText npcs.length)] ++ npcPieces npcs ++
    [keyed (ascii "player.count") (natText players.length)] ++ playerPieces players

structure PublicNpc (npc : NpcSnapshot ℚ) : Prop where
  id : 0 < npc.id
  named : npc.type ≠ []
  short : npc.type.length ≤ 32
  hp : 0 ≤ npc.hp
  alive : npc.alive = true

structure PublicPlayer (player : PlayerPoseSnapshot ℚ) : Prop where
  sessionId : 0 < player.sessionId
  named : trimPlayerName player.name ≠ []
  free : 59 ∉ player.name

theorem behindAppend (first second : List Bytes) : behind (first ++ second) = behind first ++ behind second :=
  List.flatMap_append

theorem npcTextPieces {index : Nat} {npc : NpcSnapshot ℚ} {made : Bytes}
    (h : npcText index npc = .ok made) :
    PublicNpc npc ∧ made = behind (piecesOf (ascii "npc.") index (npcParts npc)) := by
  unfold npcText at h
  split at h
  · contradiction
  · rename_i valid
    simp only [not_or, not_lt, Int.not_le] at valid
    obtain ⟨id, named, short, -, -, -, hp, alive⟩ := valid
    refine ⟨⟨id, named, short, hp, by simpa using alive⟩, ?_⟩
    cases Except.ok.inj h
    have header : ascii ";npc." = 59 :: ascii "npc." := by decide
    have parts : ascii ".id=" = 46 :: (ascii "id" ++ [61]) ∧
        ascii ".type=" = 46 :: (ascii "type" ++ [61]) ∧ ascii ".x=" = 46 :: (ascii "x" ++ [61]) ∧
        ascii ".y=" = 46 :: (ascii "y" ++ [61]) ∧ ascii ".z=" = 46 :: (ascii "z" ++ [61]) ∧
        ascii ".hp=" = 46 :: (ascii "hp" ++ [61]) ∧
        ascii ".alive=1" = 46 :: (ascii "alive" ++ 61 :: ascii "1") := by decide
    obtain ⟨a, b, c, d, e, f, g⟩ := parts
    simp only [header, a, b, c, d, e, f, g, behind, piecesOf, npcParts, keyed, numbered,
      List.map_cons, List.map_nil, List.flatMap_cons, List.flatMap_nil, List.append_assoc,
      List.cons_append, List.nil_append, List.append_nil, FloatOps.text]

theorem playerTextPieces {index : Nat} {player : PlayerPoseSnapshot ℚ} {made : Bytes}
    (h : playerText index player = .ok made) :
    PublicPlayer player ∧ made = behind (piecesOf (ascii "player.") index (playerParts player)) := by
  unfold playerText at h
  split at h
  · contradiction
  · rename_i valid
    simp only [not_or, Int.not_le] at valid
    obtain ⟨sessionId, -, -, -, named, free, -⟩ := valid
    refine ⟨⟨sessionId, named, free⟩, ?_⟩
    cases Except.ok.inj h
    have header : ascii ";player." = 59 :: ascii "player." := by decide
    have parts : ascii ".session=" = 46 :: (ascii "session" ++ [61]) ∧
        ascii ".x=" = 46 :: (ascii "x" ++ [61]) ∧ ascii ".y=" = 46 :: (ascii "y" ++ [61]) ∧
        ascii ".z=" = 46 :: (ascii "z" ++ [61]) ∧ ascii ".id=" = 46 :: (ascii "id" ++ [61]) ∧
        ascii ".name=" = 46 :: (ascii "name" ++ [61]) := by decide
    obtain ⟨a, b, c, d, e, f⟩ := parts
    unfold playerParts idPart
    split <;>
      simp only [header, a, b, c, d, e, f, behind, piecesOf, keyed, numbered, List.map_cons,
        List.map_nil, List.flatMap_cons, List.flatMap_nil, List.append_assoc, List.cons_append,
        List.nil_append, List.append_nil, FloatOps.text]

theorem mapMPieces {A : Type} {make : A → Except String Bytes} {pieces : A → List Bytes}
    {P : A → Prop} (spec : ∀ a made, make a = .ok made → P a ∧ made = behind (pieces a))
    {items : List A} {made : List Bytes} (h : items.mapM make = .ok made) :
    (∀ a ∈ items, P a) ∧ made.flatten = behind (items.flatMap pieces) := by
  induction items generalizing made with
  | nil =>
    cases h
    exact ⟨fun a there => absurd there List.not_mem_nil, rfl⟩
  | cons a items ih =>
    obtain ⟨one, rest, first, later, rfl⟩ := mapMCons.mp h
    obtain ⟨here, same⟩ := spec a one first
    obtain ⟨others, tail⟩ := ih later
    refine ⟨List.forall_mem_cons.mpr ⟨here, others⟩, ?_⟩
    rw [List.flatten_cons, List.flatMap_cons, behindAppend, same, tail]

theorem forallZipIdx {A : Type} {good : A → Prop} {items : List A}
    (all : ∀ entry ∈ items.zipIdx, good entry.1) : ∀ a ∈ items, good a := by
  intro a there
  obtain ⟨i, inside, rfl⟩ := List.mem_iff_getElem.mp there
  exact all (items[i], i) (List.mem_zipIdx_iff_getElem?.mpr (by simp [inside]))

section
variable {ether : EnvironmentEther ℚ} {hazard : ℚ} {npcs : List (NpcSnapshot ℚ)}
  {players : List (PlayerPoseSnapshot ℚ)} {payload : Bytes}

structure Formatted (ether : EnvironmentEther ℚ) (hazard : ℚ) (npcs : List (NpcSnapshot ℚ))
    (players : List (PlayerPoseSnapshot ℚ)) (payload : Bytes) : Prop where
  positive : 0 ≤ hazard
  publicNpcs : ∀ npc ∈ npcs, PublicNpc npc
  publicPlayers : ∀ player ∈ players, PublicPlayer player
  shape : payload = joinFields 59 (keyed (ascii "ether.fire") (text ether.fire))
    (snapshotPieces ether hazard npcs players)

theorem formattedPieces (h : formatPayload ether hazard npcs players = .ok payload) :
    Formatted ether hazard npcs players payload := by
  unfold formatPayload at h
  split at h
  · contradiction
  · rename_i checked
    have positive : 0 ≤ hazard := by
      simp only [not_or, FloatOps.lt, FloatOps.lit, decide_eq_true_eq, not_lt] at checked
      exact checked.2
    cases npcTexts : npcs.zipIdx.mapM (fun entry => npcText entry.2 entry.1) with
    | error e => simp [npcTexts, bind, Except.bind] at h
    | ok npcMade =>
      cases playerTexts : players.zipIdx.mapM (fun entry => playerText entry.2 entry.1) with
      | error e => simp [npcTexts, playerTexts, bind, Except.bind] at h
      | ok playerMade =>
        simp only [npcTexts, playerTexts, bind, Except.bind, pure, Except.pure,
          Except.ok.injEq] at h
        obtain ⟨publicNpcs, npcBytes⟩ := mapMPieces
          (P := fun entry : NpcSnapshot ℚ × Nat => PublicNpc entry.1)
          (fun entry made h => npcTextPieces h) npcTexts
        obtain ⟨publicPlayers, playerBytes⟩ := mapMPieces
          (P := fun entry : PlayerPoseSnapshot ℚ × Nat => PublicPlayer entry.1)
          (fun entry made h => playerTextPieces h) playerTexts
        refine ⟨positive, forallZipIdx publicNpcs, forallZipIdx publicPlayers, ?_⟩
        rw [npcBytes, playerBytes] at h
        have parts : ascii "ether.fire=" = ascii "ether.fire" ++ [61] ∧
            ascii ";ether.water=" = 59 :: (ascii "ether.water" ++ [61]) ∧
            ascii ";ether.earth=" = 59 :: (ascii "ether.earth" ++ [61]) ∧
            ascii ";ether.air=" = 59 :: (ascii "ether.air" ++ [61]) ∧
            ascii ";ether.hazard=" = 59 :: (ascii "ether.hazard" ++ [61]) ∧
            ascii ";npc.count=" = 59 :: (ascii "npc.count" ++ [61]) ∧
            ascii ";player.count=" = 59 :: (ascii "player.count" ++ [61]) := by decide
        obtain ⟨a, b, c, d, e, f, g⟩ := parts
        have joins : joinFields 59 (keyed (ascii "ether.fire") (text ether.fire))
            (snapshotPieces ether hazard npcs players) = keyed (ascii "ether.fire") (text ether.fire) ++
              behind (snapshotPieces ether hazard npcs players) := rfl
        rw [← h, joins, snapshotPieces, behindAppend, behindAppend, behindAppend, behindAppend]
        simp only [a, b, c, d, e, f, g, behind, etherPieces, keyed, npcPieces, playerPieces,
          List.flatMap_cons, List.flatMap_nil, List.append_assoc, List.cons_append,
          List.nil_append, List.append_nil, FloatOps.text]

end

theorem textFree (q : ℚ) : 59 ∉ text q := textLacks q (by decide)

structure PlainParts (entry : List (Bytes × Bytes)) : Prop where
  free : ∀ part ∈ entry, 59 ∉ part.1 ∧ 59 ∉ part.2
  filled : ∀ part ∈ entry, part.1 ≠ [] ∧ part.2 ≠ []

theorem npcPlain {npc : NpcSnapshot ℚ} (valid : PublicNpc npc) (free : 59 ∉ npc.type) :
    PlainParts (npcParts npc) := by
  have number (n : Int) : 59 ∉ intText n := intTextFree n (by decide) (by decide)
  constructor
  · simp only [npcParts, List.forall_mem_cons]
    exact ⟨⟨by decide, number _⟩, ⟨by decide, free⟩, ⟨by decide, textFree _⟩,
      ⟨by decide, textFree _⟩, ⟨by decide, textFree _⟩, ⟨by decide, number _⟩,
      ⟨by decide, by decide⟩, fun part there => absurd there List.not_mem_nil⟩
  · simp only [npcParts, List.forall_mem_cons]
    exact ⟨⟨by decide, intTextNonempty _⟩, ⟨by decide, valid.named⟩, ⟨by decide, textNonempty _⟩,
      ⟨by decide, textNonempty _⟩, ⟨by decide, textNonempty _⟩, ⟨by decide, intTextNonempty _⟩,
      ⟨by decide, by decide⟩, fun part there => absurd there List.not_mem_nil⟩

theorem playerPlain {player : PlayerPoseSnapshot ℚ} (valid : PublicPlayer player) :
    PlainParts (playerParts player) := by
  have number (n : Int) : 59 ∉ intText n := intTextFree n (by decide) (by decide)
  have named : player.name ≠ [] := by
    intro none
    have trimmed := valid.named
    rw [none] at trimmed
    exact trimmed rfl
  have id : ∀ part ∈ idPart player, (59 ∉ part.1 ∧ 59 ∉ part.2) ∧ part.1 ≠ [] ∧ part.2 ≠ [] := by
    unfold idPart
    split
    · intro part there
      rw [List.mem_singleton.mp there]
      have name : 59 ∉ ascii "id" ∧ ascii "id" ≠ [] := by decide
      exact ⟨⟨name.1, number _⟩, name.2, intTextNonempty _⟩
    · exact fun part there => absurd there List.not_mem_nil
  constructor
  · simp only [playerParts, List.forall_mem_append, List.forall_mem_cons]
    exact ⟨⟨⟨⟨by decide, number _⟩, ⟨by decide, textFree _⟩, ⟨by decide, textFree _⟩,
      ⟨by decide, textFree _⟩, fun part there => absurd there List.not_mem_nil⟩,
      fun part there => (id part there).1⟩, ⟨by decide, valid.free⟩,
      fun part there => absurd there List.not_mem_nil⟩
  · simp only [playerParts, List.forall_mem_append, List.forall_mem_cons]
    exact ⟨⟨⟨⟨by decide, intTextNonempty _⟩, ⟨by decide, textNonempty _⟩,
      ⟨by decide, textNonempty _⟩, ⟨by decide, textNonempty _⟩,
      fun part there => absurd there List.not_mem_nil⟩, fun part there => (id part there).2⟩,
      ⟨by decide, named⟩, fun part there => absurd there List.not_mem_nil⟩

theorem piecesFree {header : Bytes} {entry : List (Bytes × Bytes)} (free : 59 ∉ header)
    (plain : PlainParts entry) (index : Nat) : ∀ piece ∈ piecesOf header index entry, 59 ∉ piece := by
  intro piece there
  obtain ⟨part, inside, rfl⟩ := List.mem_map.mp there
  obtain ⟨name, value⟩ := plain.free part inside
  exact keyedFree (numberedFree (by decide) (by decide) free name index) value

theorem piecesLength (header : Bytes) (index : Nat) {entry : List (Bytes × Bytes)}
    (filled : ∀ part ∈ entry, part.1 ≠ [] ∧ part.2 ≠ []) :
    entry.length * (header.length + 6) ≤ (behind (piecesOf header index entry)).length := by
  induction entry with
  | nil => simp
  | cons part entry ih =>
    obtain ⟨⟨name, value⟩, others⟩ := List.forall_mem_cons.mp filled
    have rest := ih others
    have number := List.length_pos_iff.mpr (natTextNonempty index)
    have first := List.length_pos_iff.mpr name
    have second := List.length_pos_iff.mpr value
    simp only [behind, piecesOf, List.map_cons, List.flatMap_cons, List.length_append,
      List.length_cons, keyed, numbered] at rest ⊢
    rw [Nat.add_mul]
    omega

theorem entriesLength {A : Type} {pieces : A × Nat → List Bytes} (items : List A) (start : Nat)
    (long : ∀ a ∈ items, ∀ i, 64 ≤ (behind (pieces (a, i))).length) :
    items.length * 64 ≤ (behind ((items.zipIdx start).flatMap pieces)).length := by
  induction items generalizing start with
  | nil => simp
  | cons a items ih =>
    obtain ⟨first, others⟩ := List.forall_mem_cons.mp long
    have here := first start
    have rest := ih (start + 1) others
    rw [List.zipIdx_cons, List.flatMap_cons, behindAppend, List.length_append, List.length_cons]
    omega

section
variable {ether : EnvironmentEther ℚ} {hazard : ℚ} {npcs : List (NpcSnapshot ℚ)}
  {players : List (PlayerPoseSnapshot ℚ)} {payload : Bytes}

theorem publicFree (formatted : Formatted ether hazard npcs players payload)
    (types : ∀ npc ∈ npcs, 59 ∉ npc.type) :
    ∀ piece ∈ keyed (ascii "ether.fire") (text ether.fire) ::
      snapshotPieces ether hazard npcs players, 59 ∉ piece := by
  have count (n : Nat) : 59 ∉ natText n := natTextFree n (by decide)
  have npc : ∀ piece ∈ npcPieces npcs, 59 ∉ piece := by
    intro piece there
    obtain ⟨entry, inside, part⟩ := List.mem_flatMap.mp there
    have member := List.fst_mem_of_mem_zipIdx inside
    exact piecesFree (by decide) (npcPlain (formatted.publicNpcs _ member) (types _ member)) _ _ part
  have player : ∀ piece ∈ playerPieces players, 59 ∉ piece := by
    intro piece there
    obtain ⟨entry, inside, part⟩ := List.mem_flatMap.mp there
    have member := List.fst_mem_of_mem_zipIdx inside
    exact piecesFree (by decide) (playerPlain (formatted.publicPlayers _ member)) _ _ part
  simp only [snapshotPieces, etherPieces, List.forall_mem_cons, List.forall_mem_append]
  exact ⟨keyedFree (by decide) (textFree _), ⟨⟨⟨⟨keyedFree (by decide) (textFree _),
    keyedFree (by decide) (textFree _), keyedFree (by decide) (textFree _),
    keyedFree (by decide) (textFree _), fun piece there => absurd there List.not_mem_nil⟩,
    keyedFree (by decide) (count _), fun piece there => absurd there List.not_mem_nil⟩, npc⟩,
    keyedFree (by decide) (count _), fun piece there => absurd there List.not_mem_nil⟩, player⟩

theorem piecesFilled (header : Bytes) (index : Nat) (entry : List (Bytes × Bytes)) :
    ∀ piece ∈ piecesOf header index entry, piece ≠ [] := by
  intro piece there
  obtain ⟨part, -, rfl⟩ := List.mem_map.mp there
  exact keyedNonempty _ _

theorem publicFilled : ∀ piece ∈ keyed (ascii "ether.fire") (text ether.fire) ::
    snapshotPieces ether hazard npcs players, piece ≠ [] := by
  have npc : ∀ piece ∈ npcPieces npcs, piece ≠ [] := by
    intro piece there
    obtain ⟨entry, -, part⟩ := List.mem_flatMap.mp there
    exact piecesFilled _ _ _ piece part
  have player : ∀ piece ∈ playerPieces players, piece ≠ [] := by
    intro piece there
    obtain ⟨entry, -, part⟩ := List.mem_flatMap.mp there
    exact piecesFilled _ _ _ piece part
  simp only [snapshotPieces, etherPieces, List.forall_mem_cons, List.forall_mem_append]
  exact ⟨keyedNonempty _ _, ⟨⟨⟨⟨keyedNonempty _ _, keyedNonempty _ _, keyedNonempty _ _,
    keyedNonempty _ _, fun piece there => absurd there List.not_mem_nil⟩, keyedNonempty _ _,
    fun piece there => absurd there List.not_mem_nil⟩, npc⟩, keyedNonempty _ _,
    fun piece there => absurd there List.not_mem_nil⟩, player⟩

theorem localFilled (ack : MovementAck ℚ) : ∀ piece ∈ localPieces ack, piece ≠ [] := by
  simp only [localPieces, List.forall_mem_cons]
  exact ⟨keyedNonempty _ _, keyedNonempty _ _, keyedNonempty _ _, keyedNonempty _ _,
    fun piece there => absurd there List.not_mem_nil⟩

theorem localBehind (ack : MovementAck ℚ) : localFields ack = behind (localPieces ack) := by
  have parts : ascii ";local.x=" = 59 :: (ascii "local.x" ++ [61]) ∧
      ascii ";local.y=" = 59 :: (ascii "local.y" ++ [61]) ∧
      ascii ";local.z=" = 59 :: (ascii "local.z" ++ [61]) ∧
      ascii ";local.lastProcessedInputSequence=" =
        59 :: (ascii "local.lastProcessedInputSequence" ++ [61]) := by decide
  obtain ⟨a, b, c, d⟩ := parts
  simp only [localFields, a, b, c, d, behind, localPieces, keyed, List.flatMap_cons,
    List.flatMap_nil, List.append_assoc, List.cons_append, List.nil_append, List.append_nil,
    FloatOps.text]

theorem localFree (ack : MovementAck ℚ) : ∀ piece ∈ localPieces ack, 59 ∉ piece := by
  simp only [localPieces, List.forall_mem_cons]
  exact ⟨keyedFree (by decide) (textFree _), keyedFree (by decide) (textFree _),
    keyedFree (by decide) (textFree _), keyedFree (by decide) (natTextFree _ (by decide)),
    fun piece there => absurd there List.not_mem_nil⟩

theorem countsSmall (formatted : Formatted ether hazard npcs players payload)
    (types : ∀ npc ∈ npcs, 59 ∉ npc.type) (small : payload.length ≤ maxUpdatePayload) :
    npcs.length < 256 ∧ players.length < 256 := by
  have npcLength : npcs.length * 64 ≤ (behind (npcPieces npcs)).length := by
    refine entriesLength npcs 0 (fun npc there i => ?_)
    have long := piecesLength (ascii "npc.") i
      (npcPlain (formatted.publicNpcs npc there) (types npc there)).filled
    have parts : (npcParts npc).length = 7 := rfl
    have header : (ascii "npc.").length = 4 := by decide
    rw [parts, header] at long
    exact Nat.le_trans (by decide) long
  have playerLength : players.length * 64 ≤ (behind (playerPieces players)).length := by
    refine entriesLength players 0 (fun player there i => ?_)
    have long := piecesLength (ascii "player.") i
      (playerPlain (formatted.publicPlayers player there)).filled
    have parts : 5 ≤ (playerParts player).length := by
      simp only [playerParts, List.length_append, List.length_cons, List.length_nil]
      omega
    have header : (ascii "player.").length = 7 := by decide
    rw [header] at long
    exact Nat.le_trans (by omega) long
  have whole : payload.length = (keyed (ascii "ether.fire") (text ether.fire)).length +
      (behind (snapshotPieces ether hazard npcs players)).length := by
    rw [formatted.shape]
    exact List.length_append
  have first : 0 < (keyed (ascii "ether.fire") (text ether.fire)).length :=
    List.length_pos_iff.mpr (keyedNonempty _ _)
  have limit : maxUpdatePayload = 16384 := rfl
  simp only [snapshotPieces, behindAppend, List.length_append] at whole
  omega

end

end SeedOrigin.SnapshotText
