import SeedOrigin.Conversions
import SeedOrigin.IndexedParts
import SeedOrigin.SnapshotParser

/-! What the parser of a snapshot has seen of a payload it accepts: which entries
and fields it makes sure of, and which it fills in. -/
namespace SeedOrigin.SnapshotCompleteness
open SeedOrigin.Octets SeedOrigin.Numbers SeedOrigin.Decimal SeedOrigin.Character
open SeedOrigin.ClientInput SeedOrigin.FieldState SeedOrigin.Inputs SeedOrigin.UpdateWire
open SeedOrigin.Applier SeedOrigin.FieldText SeedOrigin.Maps SeedOrigin.SnapshotParser
open SeedOrigin.Conversions SeedOrigin.IndexedParts

inductive PlainKey where
  | npcCount
  | playerCount
  | localX
  | localY
  | localZ
  | localLast
  | fire
  | water
  | earth
  | air
  | hazard
  deriving DecidableEq

def keyText : PlainKey → Bytes
  | .npcCount => ascii "npc.count"
  | .playerCount => ascii "player.count"
  | .localX => ascii "local.x"
  | .localY => ascii "local.y"
  | .localZ => ascii "local.z"
  | .localLast => ascii "local.lastProcessedInputSequence"
  | .fire => ascii "ether.fire"
  | .water => ascii "ether.water"
  | .earth => ascii "ether.earth"
  | .air => ascii "ether.air"
  | .hazard => ascii "ether.hazard"

def localKeys : List PlainKey := [.localX, .localY, .localZ, .localLast]

def etherKeys : List PlainKey := [.fire, .water, .earth, .air, .hazard]

def keyOf (field : Bytes) : Option Bytes := (cut 61 field).map Prod.fst

def given (items : List Bytes) (key : PlainKey) : Nat :=
  items.countP (fun field => keyOf field = some (keyText key))

def entryPart (header : Bytes) (minimum : Nat) (field : Bytes) : Option (Int × Bytes × Bytes) :=
  match cut 61 field with
  | none => none
  | some (key, value) =>
    if key = header ++ ascii "count" ∨ key.take header.length ≠ header then none
    else match splitIndexed header key minimum "" "" "" with
      | .error _ => none
      | .ok (index, name) => some (index, name, value)

def npcPart : Bytes → Option (Int × Bytes × Bytes) := entryPart (ascii "npc.") 7

def playerPart : Bytes → Option (Int × Bytes × Bytes) := entryPart (ascii "player.") 10

def giving (own : List (Bytes × Bytes)) (name : Bytes) : Nat := own.countP (fun field => field.1 = name)

def npcNames : List Bytes :=
  [ascii "id", ascii "type", ascii "x", ascii "y", ascii "z", ascii "hp", ascii "alive"]

def playerNames : List Bytes := [ascii "session", ascii "x", ascii "y", ascii "z", ascii "name"]

-- The fields whose default passes for a given one.
def npcDefaults : List Bytes := [ascii "x", ascii "y", ascii "z", ascii "hp"]

def playerDefaults : List Bytes := [ascii "x", ascii "y", ascii "z"]

section
variable {F : Type} [FloatOps F]

def readNpcField (npc : NpcSnapshot F) (field : Bytes × Bytes) : Except String (NpcSnapshot F) :=
  readNpc npc field.1 field.2

def readPlayerField (player : PlayerPoseSnapshot F) (field : Bytes × Bytes) :
    Except String (PlayerPoseSnapshot F) := readPlayer player field.1 field.2

def Declared (items : List Bytes) (key : PlainKey) (count : Int) : Prop :=
  ∃ field ∈ items, ∃ value, cut 61 field = some (keyText key, value) ∧ parseInt64 value = some count

structure EntriesComplete {V : Type} (items : List Bytes) (part : Bytes → Option (Int × Bytes × Bytes))
    (read : V → Bytes × Bytes → Except String V) (empty : V) (key : PlainKey) (names : List Bytes)
    (reported : List V) : Prop where
  counted : ∀ i, parts part items i ≠ [] → ∃ count, Declared items key count ∧ 0 ≤ i ∧ i < count
  reported : ∀ i : Nat, parts part items i ≠ [] →
    ∃ entry, reported[i]? = some entry ∧ (parts part items i).foldlM read empty = .ok entry
  required : ∀ count, Declared items key count → ∀ i : Nat, i < count →
    ∀ name ∈ names, giving (parts part items i) name = 1
  once : ∀ i name, giving (parts part items i) name ≤ 1

structure Complete (payload : Bytes) (state : EnvironmentState F) : Prop where
  npcs : EntriesComplete (fields 59 payload) npcPart readNpcField emptyNpc .npcCount npcNames state.npcs
  players : EntriesComplete (fields 59 payload) playerPart readPlayerField emptyPlayer .playerCount
    playerNames state.players
  ether : ∀ key ∈ etherKeys, given (fields 59 payload) key = 1
  pose : ∀ key ∈ localKeys, given (fields 59 payload) key = if state.hasLocalPlayer then 1 else 0

end

-- What the parser does not look after: that entries come with a count, and with
-- the numbers whose defaults pass for given, and that none of their fields comes
-- again, nor one of the local pose.
structure EntriesGiven (items : List Bytes) (part : Bytes → Option (Int × Bytes × Bytes)) (key : PlainKey)
    (names : List Bytes) : Prop where
  counted : ∀ i, parts part items i ≠ [] → given items key ≠ 0
  numbers : ∀ i, parts part items i ≠ [] → ∀ name ∈ names, giving (parts part items i) name ≠ 0
  once : ∀ i name, giving (parts part items i) name ≤ 1

structure Given (payload : Bytes) : Prop where
  npcs : EntriesGiven (fields 59 payload) npcPart .npcCount npcDefaults
  players : EntriesGiven (fields 59 payload) playerPart .playerCount playerDefaults
  pose : ∀ key ∈ localKeys, given (fields 59 payload) key ≤ 1

section
variable {F : Type} [FloatOps F]

def present (parsed : ParsedFields F) : PlainKey → Bool
  | .npcCount => parsed.npcCount.isSome
  | .playerCount => parsed.playerCount.isSome
  | .localX => parsed.localX.isSome
  | .localY => parsed.localY.isSome
  | .localZ => parsed.localZ.isSome
  | .localLast => parsed.lastProcessed.isSome
  | .fire => parsed.fire.isSome
  | .water => parsed.water.isSome
  | .earth => parsed.earth.isSome
  | .air => parsed.air.isSome
  | .hazard => parsed.hazard.isSome

inductive FieldRead (parsed : ParsedFields F) (key value : Bytes) : ParsedFields F → Prop where
  | npc {index : Int} {name : Bytes} {npc : NpcSnapshot F} (other : key ≠ ascii "npc.count")
      (header : key.take 4 = ascii "npc.")
      (split : splitIndexed (ascii "npc.") key 7 "snapshot contains an invalid NPC field"
        "snapshot contains an invalid NPC index" "snapshot NPC field is invalid" = .ok (index, name))
      (read : readNpc (parsed.npcs.getD index emptyNpc) name value = .ok npc) :
      FieldRead parsed key value { parsed with npcs := parsed.npcs.insert index npc }
  | player {index : Int} {name : Bytes} {player : PlayerPoseSnapshot F} (other : key ≠ ascii "player.count")
      (header : key.take 7 = ascii "player.")
      (split : splitIndexed (ascii "player.") key 10 "snapshot contains an invalid player field"
        "snapshot contains an invalid player index" "snapshot player field is invalid" = .ok (index, name))
      (read : readPlayer (parsed.players.getD index emptyPlayer) name value = .ok player) :
      FieldRead parsed key value { parsed with players := parsed.players.insert index player }
  | plain {after : ParsedFields F} (plain : PlainKey) (text : key = keyText plain)
      (npcs : after.npcs = parsed.npcs) (players : after.players = parsed.players)
      (shown : present after = Function.update (present parsed) plain true)
      (fresh : plain ∉ localKeys → present parsed plain = false)
      (npcCount : ∀ n, after.npcCount = some n → parsed.npcCount = some n ∨
        (plain = .npcCount ∧ parseInt64 value = some n ∧ 0 ≤ n))
      (playerCount : ∀ n, after.playerCount = some n → parsed.playerCount = some n ∨
        (plain = .playerCount ∧ parseInt64 value = some n ∧ 0 ≤ n)) :
      FieldRead parsed key value after

theorem bindOk {α β : Type} {first : Except String α} {next : α → Except String β} {b : β}
    (made : (first >>= next) = .ok b) : ∃ a, first = .ok a ∧ next a = .ok b := by
  cases first with
  | error e => cases made
  | ok a => exact ⟨a, rfl, made⟩

theorem countRead {present : Option Int} {value : Bytes} {error : String} {count : Int}
    (read : readCount present value error = .ok count) :
    present = none ∧ parseInt64 value = some count ∧ 0 ≤ count := by
  unfold readCount at read
  split at read
  · rename_i found
    split at read
    · contradiction
    · rename_i inside
      obtain rfl := Except.ok.inj read
      exact ⟨rfl, found, by omega⟩
  · contradiction

theorem etherRead {present : Option F} {value : Bytes} {parsed : F}
    (read : readEther present value = .ok parsed) : present = none := by
  unfold readEther at read
  split at read
  · rfl
  · contradiction

structure Sets (parsed after : ParsedFields F) (plain : PlainKey) : Prop where
  npcs : after.npcs = parsed.npcs
  players : after.players = parsed.players
  npcCount : after.npcCount = parsed.npcCount
  playerCount : after.playerCount = parsed.playerCount
  shown : present after = Function.update (present parsed) plain true

theorem setsRead {parsed after : ParsedFields F} {key value : Bytes} (plain : PlainKey)
    (sets : Sets parsed after plain) (text : key = keyText plain)
    (fresh : plain ∉ localKeys → present parsed plain = false) : FieldRead parsed key value after :=
  .plain plain text sets.npcs sets.players sets.shown fresh (fun _ same => .inl (sets.npcCount ▸ same))
    (fun _ same => .inl (sets.playerCount ▸ same))

theorem localSets {parsed after : ParsedFields F} {key value : Bytes} (plain : PlainKey)
    {set : F → ParsedFields F} (made : (readLocal value >>= fun x => .ok (set x)) = .ok after)
    (text : key = keyText plain) (inside : plain ∈ localKeys) (sets : ∀ x, Sets parsed (set x) plain) :
    FieldRead parsed key value after := by
  obtain ⟨x, -, rest⟩ := bindOk made
  obtain rfl := Except.ok.inj rest
  exact setsRead plain (sets x) text (absurd inside)

theorem etherSets {parsed after : ParsedFields F} {key value : Bytes} (plain : PlainKey) {old : Option F}
    {set : F → ParsedFields F} (made : (readEther old value >>= fun x => .ok (set x)) = .ok after)
    (text : key = keyText plain) (stands : present parsed plain = old.isSome)
    (sets : ∀ x, Sets parsed (set x) plain) : FieldRead parsed key value after := by
  obtain ⟨x, read, rest⟩ := bindOk made
  obtain rfl := Except.ok.inj rest
  exact setsRead plain (sets x) text (fun _ => stands.trans (congrArg Option.isSome (etherRead read)))

omit [FloatOps F] in
theorem countSets {after : ParsedFields F} {value : Bytes} {old : Option Int} {error : String}
    {set : Int → ParsedFields F} (made : (readCount old value error >>= fun n => .ok (set n)) = .ok after) :
    ∃ n, old = none ∧ parseInt64 value = some n ∧ 0 ≤ n ∧ after = set n := by
  obtain ⟨n, read, rest⟩ := bindOk made
  obtain rfl := Except.ok.inj rest
  obtain ⟨free, number, least⟩ := countRead read
  exact ⟨n, free, number, least, rfl⟩

theorem plainRead {parsed after : ParsedFields F} {field value : Bytes} (plain : PlainKey)
    (found : cut 61 field = some (keyText plain, value)) (made : parseField parsed field = .ok after) :
    FieldRead parsed (keyText plain) value after := by
  have shown {after : ParsedFields F} {key : PlainKey}
      (same : ∀ k, present after k = Function.update (present parsed) key true k) :
      present after = Function.update (present parsed) key true := funext same
  unfold parseField at made
  rw [found] at made
  dsimp only [keyText] at made
  cases plain <;> (repeat rw [if_neg (by decide)] at made) <;> rw [if_pos rfl] at made
  case npcCount =>
    obtain ⟨n, free, number, least, rfl⟩ := countSets made
    exact .plain .npcCount rfl rfl rfl (shown fun k => by cases k <;> rfl) (fun _ => congrArg Option.isSome free)
      (fun m same => .inr ⟨rfl, Option.some.inj same ▸ number, Option.some.inj same ▸ least⟩)
      (fun m same => .inl same)
  case playerCount =>
    obtain ⟨n, free, number, least, rfl⟩ := countSets made
    exact .plain .playerCount rfl rfl rfl (shown fun k => by cases k <;> rfl)
      (fun _ => congrArg Option.isSome free) (fun m same => .inl same)
      (fun m same => .inr ⟨rfl, Option.some.inj same ▸ number, Option.some.inj same ▸ least⟩)
  case localX =>
    exact localSets .localX made rfl (by decide) (fun _ => ⟨rfl, rfl, rfl, rfl, shown fun k => by cases k <;> rfl⟩)
  case localY =>
    exact localSets .localY made rfl (by decide) (fun _ => ⟨rfl, rfl, rfl, rfl, shown fun k => by cases k <;> rfl⟩)
  case localZ =>
    exact localSets .localZ made rfl (by decide) (fun _ => ⟨rfl, rfl, rfl, rfl, shown fun k => by cases k <;> rfl⟩)
  case localLast =>
    split at made
    · contradiction
    · obtain rfl := Except.ok.inj made
      exact setsRead .localLast ⟨rfl, rfl, rfl, rfl, shown fun k => by cases k <;> rfl⟩ rfl (absurd (by decide))
  case fire =>
    exact etherSets .fire made rfl rfl (fun _ => ⟨rfl, rfl, rfl, rfl, shown fun k => by cases k <;> rfl⟩)
  case water =>
    exact etherSets .water made rfl rfl (fun _ => ⟨rfl, rfl, rfl, rfl, shown fun k => by cases k <;> rfl⟩)
  case earth =>
    exact etherSets .earth made rfl rfl (fun _ => ⟨rfl, rfl, rfl, rfl, shown fun k => by cases k <;> rfl⟩)
  case air =>
    exact etherSets .air made rfl rfl (fun _ => ⟨rfl, rfl, rfl, rfl, shown fun k => by cases k <;> rfl⟩)
  case hazard =>
    exact etherSets .hazard made rfl rfl (fun _ => ⟨rfl, rfl, rfl, rfl, shown fun k => by cases k <;> rfl⟩)

theorem fieldRead {parsed after : ParsedFields F} {field : Bytes}
    (made : parseField parsed field = .ok after) :
    ∃ key value, cut 61 field = some (key, value) ∧ FieldRead parsed key value after := by
  cases found : cut 61 field with
  | none =>
    unfold parseField at made
    rw [found] at made
    contradiction
  | some pair =>
  obtain ⟨key, value⟩ := pair
  refine ⟨key, value, rfl, ?_⟩
  by_cases plain : ∃ plain, key = keyText plain
  · obtain ⟨plain, rfl⟩ := plain
    exact plainRead plain found made
  -- any other key belongs to an entry, or nothing reads it
  have other (plain_ : PlainKey) : key ≠ keyText plain_ := fun same => plain ⟨plain_, same⟩
  unfold parseField at made
  rw [found] at made
  dsimp only at made
  rw [if_neg (by exact other .npcCount)] at made
  by_cases npc : key.take 4 = ascii "npc."
  · rw [if_pos npc] at made
    obtain ⟨entries, inserted, rest⟩ := bindOk made
    obtain rfl := Except.ok.inj rest
    obtain ⟨⟨index, name⟩, split, entryRead⟩ := bindOk inserted
    obtain ⟨entry, read, rest⟩ := bindOk entryRead
    obtain rfl := Except.ok.inj rest
    exact .npc (other .npcCount) npc split read
  rw [if_neg npc, if_neg (by exact other .playerCount)] at made
  by_cases player : key.take 7 = ascii "player."
  · rw [if_pos player] at made
    obtain ⟨entries, inserted, rest⟩ := bindOk made
    obtain rfl := Except.ok.inj rest
    obtain ⟨⟨index, name⟩, split, entryRead⟩ := bindOk inserted
    obtain ⟨entry, read, rest⟩ := bindOk entryRead
    obtain rfl := Except.ok.inj rest
    exact .player (other .playerCount) player split read
  rw [if_neg player, if_neg (by exact other .localX), if_neg (by exact other .localY),
    if_neg (by exact other .localZ), if_neg (by exact other .localLast), if_neg (by exact other .fire),
    if_neg (by exact other .water), if_neg (by exact other .earth), if_neg (by exact other .air),
    if_neg (by exact other .hazard)] at made
  contradiction

end

theorem keyInjective {a b : PlainKey} : keyText a = keyText b → a = b := by
  cases a <;> cases b <;> decide

theorem splitSame {header key : Bytes} {minimum : Nat} {fieldError indexError shortError : String}
    {numbered : Int × Bytes}
    (split : splitIndexed header key minimum fieldError indexError shortError = .ok numbered) :
    splitIndexed header key minimum "" "" "" = .ok numbered := by
  unfold splitIndexed at split ⊢
  split_ifs at split ⊢
  split at split
  · contradiction
  · split_ifs at split ⊢
    split at split
    · contradiction
    · split_ifs at split ⊢
      exact split

theorem partOf {header key value field : Bytes} {minimum : Nat} (found : cut 61 field = some (key, value))
    {index : Int} {name : Bytes} (other : key ≠ header ++ ascii "count") (begins : key.take header.length = header)
    (split : splitIndexed header key minimum "" "" "" = .ok (index, name)) :
    entryPart header minimum field = some (index, name, value) := by
  unfold entryPart
  rw [found]
  dsimp only
  rw [if_neg (by simp [other, begins]), split]

theorem noPart {header key value field : Bytes} {minimum : Nat} (found : cut 61 field = some (key, value))
    (passes : key = header ++ ascii "count" ∨ key.take header.length ≠ header) :
    entryPart header minimum field = none := by
  unfold entryPart
  rw [found]
  dsimp only
  rw [if_pos passes]

theorem givenAppend (items : List Bytes) (field : Bytes) (key : PlainKey) :
    given (items ++ [field]) key = given items key + if keyOf field = some (keyText key) then 1 else 0 := by
  unfold given
  rw [List.countP_append, List.countP_singleton]
  simp only [decide_eq_true_eq]

theorem givenOther {items : List Bytes} {field key value : Bytes} (found : cut 61 field = some (key, value))
    (none : ∀ plain, key ≠ keyText plain) (plain : PlainKey) :
    given (items ++ [field]) plain = given items plain := by
  have apart : keyOf field ≠ some (keyText plain) := by
    rw [keyOf, found]
    exact fun same => none plain (Option.some.inj same)
  rw [givenAppend, if_neg apart, Nat.add_zero]

theorem givenPlain {items : List Bytes} {field value : Bytes} {plain : PlainKey}
    (found : cut 61 field = some (keyText plain, value)) (key : PlainKey) :
    given (items ++ [field]) key = given items key + if key = plain then 1 else 0 := by
  have text : keyOf field = some (keyText plain) := by
    rw [keyOf, found]
    rfl
  rw [givenAppend, text]
  by_cases here : key = plain
  · rw [here, if_pos rfl, if_pos rfl]
  · rw [if_neg here, if_neg (fun same => here (keyInjective (Option.some.inj same)).symm)]

theorem npcKeyApart {key : Bytes} (other : key ≠ ascii "npc.count") (begins : key.take 4 = ascii "npc.") :
    (∀ plain, key ≠ keyText plain) ∧ key.take 7 ≠ ascii "player." := by
  constructor
  · rintro plain rfl
    revert other begins
    cases plain <;> decide
  · intro same
    have first : (key.take 7).take 4 = key.take 4 := by rw [List.take_take]; rfl
    rw [same, begins] at first
    exact absurd first (by decide)

theorem playerKeyApart {key : Bytes} (other : key ≠ ascii "player.count")
    (begins : key.take 7 = ascii "player.") :
    (∀ plain, key ≠ keyText plain) ∧ key.take 4 ≠ ascii "npc." := by
  constructor
  · rintro plain rfl
    revert other begins
    cases plain <;> decide
  · intro same
    have first : (key.take 7).take 4 = key.take 4 := by rw [List.take_take]; rfl
    rw [begins, same] at first
    exact absurd first (by decide)

theorem plainPasses (plain : PlainKey) :
    (keyText plain = ascii "npc." ++ ascii "count" ∨ (keyText plain).take 4 ≠ ascii "npc.") ∧
    (keyText plain = ascii "player." ++ ascii "count" ∨ (keyText plain).take 7 ≠ ascii "player.") := by
  cases plain <;> decide

section
variable {F : Type} [FloatOps F]

structure Seen (items : List Bytes) (parsed : ParsedFields F) : Prop where
  npcs : Gathered npcPart readNpcField emptyNpc items parsed.npcs
  players : Gathered playerPart readPlayerField emptyPlayer items parsed.players
  single : ∀ key, key ∉ localKeys → given items key = if present parsed key then 1 else 0
  pose : ∀ key ∈ localKeys, present parsed key = true ↔ given items key ≠ 0
  npcCount : ∀ n, parsed.npcCount = some n → 0 ≤ n ∧ Declared items .npcCount n
  playerCount : ∀ n, parsed.playerCount = some n → 0 ≤ n ∧ Declared items .playerCount n

omit [FloatOps F] in
theorem declaredMore {items : List Bytes} {key : PlainKey} {count : Int} (declared : Declared items key count)
    (field : Bytes) : Declared (items ++ [field]) key count := by
  obtain ⟨other, there, rest⟩ := declared
  exact ⟨other, List.mem_append_left _ there, rest⟩

theorem seenStart : Seen [] ({} : ParsedFields F) where
  npcs := gatheredNil
  players := gatheredNil
  single := by
    intro key _
    cases key <;> rfl
  pose := by
    intro key there
    cases key <;> simp [present, given]
  npcCount := nofun
  playerCount := nofun

theorem seenField {items : List Bytes} {parsed after : ParsedFields F} {field : Bytes}
    (seen : Seen items parsed) (made : parseField parsed field = .ok after) :
    Seen (items ++ [field]) after := by
  obtain ⟨key, value, found, read⟩ := fieldRead made
  cases read with
  | @npc index name entry other header split read =>
    obtain ⟨none, foreign⟩ := npcKeyApart other header
    have part : npcPart field = some (index, name, value) := partOf found other header (splitSame split)
    have pass : playerPart field = .none := noPart found (.inr foreign)
    exact
      { npcs := gatheredPart seen.npcs part read
        players := gatheredPass seen.players pass
        single := fun plain outside => (givenOther found none plain).trans (seen.single plain outside)
        pose := fun plain inside => by rw [givenOther found none]; exact seen.pose plain inside
        npcCount := fun n same => (seen.npcCount n same).imp_right (declaredMore · field)
        playerCount := fun n same => (seen.playerCount n same).imp_right (declaredMore · field) }
  | @player index name entry other header split read =>
    obtain ⟨none, foreign⟩ := playerKeyApart other header
    have part : playerPart field = some (index, name, value) := partOf found other header (splitSame split)
    have pass : npcPart field = .none := noPart found (.inr foreign)
    exact
      { npcs := gatheredPass seen.npcs pass
        players := gatheredPart seen.players part read
        single := fun plain outside => (givenOther found none plain).trans (seen.single plain outside)
        pose := fun plain inside => by rw [givenOther found none]; exact seen.pose plain inside
        npcCount := fun n same => (seen.npcCount n same).imp_right (declaredMore · field)
        playerCount := fun n same => (seen.playerCount n same).imp_right (declaredMore · field) }
  | plain plain text npcs players shown fresh npcCount playerCount =>
    subst text
    obtain ⟨npcPasses, playerPasses⟩ := plainPasses plain
    have noNpc : npcPart field = .none := noPart found npcPasses
    have noPlayer : playerPart field = .none := noPart found playerPasses
    have declared {count : Int} (number : parseInt64 value = some count) :
        Declared (items ++ [field]) plain count :=
      ⟨field, by simp, value, found, number⟩
    refine ⟨?_, ?_, fun other outside => ?_, fun other inside => ?_, fun n same => ?_, fun n same => ?_⟩
    · rw [npcs]
      exact gatheredPass seen.npcs noNpc
    · rw [players]
      exact gatheredPass seen.players noPlayer
    · rw [givenPlain found, seen.single other outside, shown]
      by_cases here : other = plain
      · subst here
        rw [Function.update_self, fresh outside]
        simp
      · rw [Function.update_of_ne here, if_neg here, Nat.add_zero]
    · rw [givenPlain found, shown]
      by_cases here : other = plain
      · subst here
        rw [Function.update_self]
        simp
      · rw [Function.update_of_ne here, if_neg here, Nat.add_zero]
        exact seen.pose other inside
    · obtain old | ⟨rfl, number, least⟩ := npcCount n same
      · exact (seen.npcCount n old).imp_right (declaredMore · field)
      · exact ⟨least, declared number⟩
    · obtain old | ⟨rfl, number, least⟩ := playerCount n same
      · exact (seen.playerCount n old).imp_right (declaredMore · field)
      · exact ⟨least, declared number⟩

structure Finished (parsed : ParsedFields F) (state : EnvironmentState F) : Prop where
  ether : ∀ key ∈ etherKeys, present parsed key = true
  npcs : complete parsed.npcCount parsed.npcs.size (completeNpc parsed.npcs)
    "snapshot NPC count does not match fields" = .ok state.npcs
  players : complete parsed.playerCount parsed.players.size (completePlayer parsed.players)
    "snapshot player count does not match fields" = .ok state.players
  pose : ∀ key ∈ localKeys, present parsed key = state.hasLocalPlayer

theorem finished {parsed : ParsedFields F} {state : EnvironmentState F}
    (made : finishFields parsed = .ok state) : Finished parsed state := by
  unfold finishFields at made
  split at made
  · rename_i fire water earth air hazard hasFire hasWater hasEarth hasAir hasHazard
    split at made
    · contradiction
    · obtain ⟨npcs, npcsMade, made⟩ := bindOk made
      obtain ⟨players, playersMade, made⟩ := bindOk made
      have ether : ∀ key ∈ etherKeys, present parsed key = true := by
        simp [etherKeys, present, hasFire, hasWater, hasEarth, hasAir, hasHazard]
      dsimp only at made
      split at made
      · rename_i noX noY noZ noLast
        obtain rfl := Except.ok.inj made
        exact ⟨ether, npcsMade, playersMade, by simp [localKeys, present, noX, noY, noZ, noLast]⟩
      · rename_i x y z last hasX hasY hasZ hasLast
        obtain rfl := Except.ok.inj made
        exact ⟨ether, npcsMade, playersMade, by simp [localKeys, present, hasX, hasY, hasZ, hasLast]⟩
      · contradiction
  · contradiction

theorem seenAll {items seenItems : List Bytes} {parsed after : ParsedFields F} (seen : Seen seenItems parsed)
    (made : items.foldlM parseField parsed = .ok after) : Seen (seenItems ++ items) after := by
  induction items generalizing seenItems parsed with
  | nil =>
    obtain rfl := Except.ok.inj made
    rw [List.append_nil]
    exact seen
  | cons field items ih =>
    rw [List.foldlM_cons] at made
    obtain ⟨next, first, rest⟩ := bindOk made
    have later := ih (seenField seen first) rest
    rwa [List.append_assoc] at later

theorem npcKeeps {npc after : NpcSnapshot F} {field : Bytes × Bytes}
    (read : readNpcField npc field = .ok after) :
    (field.1 ≠ ascii "id" → after.id = npc.id) ∧ (field.1 ≠ ascii "type" → after.type = npc.type) ∧
      (field.1 ≠ ascii "alive" → after.alive = npc.alive) := by
  obtain ⟨name, value⟩ := field
  unfold readNpcField readNpc at read
  dsimp only at read ⊢
  by_cases id : name = ascii "id"
  · rw [if_pos id] at read
    split at read
    · contradiction
    · obtain rfl := Except.ok.inj read
      exact ⟨fun other => absurd id other, fun _ => rfl, fun _ => rfl⟩
  rw [if_neg id] at read
  by_cases type : name = ascii "type"
  · rw [if_pos type] at read
    split at read
    · contradiction
    · obtain rfl := Except.ok.inj read
      exact ⟨fun _ => rfl, fun other => absurd type other, fun _ => rfl⟩
  rw [if_neg type] at read
  by_cases place : name = ascii "x" ∨ name = ascii "y" ∨ name = ascii "z"
  · rw [if_pos place] at read
    cases number : parseFinite (F := F) value with
    | none =>
      rw [number] at read
      contradiction
    | some parsed =>
      rw [number] at read
      dsimp only at read
      split_ifs at read
      all_goals
        obtain rfl := Except.ok.inj read
        exact ⟨fun _ => rfl, fun _ => rfl, fun _ => rfl⟩
  rw [if_neg place] at read
  by_cases hp : name = ascii "hp"
  · rw [if_pos hp] at read
    split at read
    · contradiction
    · split at read
      · contradiction
      · obtain rfl := Except.ok.inj read
        exact ⟨fun _ => rfl, fun _ => rfl, fun _ => rfl⟩
  rw [if_neg hp] at read
  by_cases alive : name = ascii "alive"
  · rw [if_pos alive] at read
    split at read
    · contradiction
    · obtain rfl := Except.ok.inj read
      exact ⟨fun _ => rfl, fun _ => rfl, fun other => absurd alive other⟩
  rw [if_neg alive] at read
  contradiction

theorem playerKeeps {player after : PlayerPoseSnapshot F} {field : Bytes × Bytes}
    (read : readPlayerField player field = .ok after) :
    (field.1 ≠ ascii "session" → after.sessionId = player.sessionId) ∧
      (field.1 ≠ ascii "name" → after.name = player.name) := by
  obtain ⟨name, value⟩ := field
  unfold readPlayerField readPlayer at read
  dsimp only at read ⊢
  by_cases session : name = ascii "session"
  · rw [if_pos session] at read
    split at read
    · contradiction
    · split at read
      · contradiction
      · obtain rfl := Except.ok.inj read
        exact ⟨fun other => absurd session other, fun _ => rfl⟩
  rw [if_neg session] at read
  by_cases place : name = ascii "x" ∨ name = ascii "y" ∨ name = ascii "z"
  · rw [if_pos place] at read
    cases number : parseFinite (F := F) value with
    | none =>
      rw [number] at read
      contradiction
    | some parsed =>
      rw [number] at read
      dsimp only at read
      split_ifs at read
      all_goals
        obtain rfl := Except.ok.inj read
        exact ⟨fun _ => rfl, fun _ => rfl⟩
  rw [if_neg place] at read
  by_cases id : name = ascii "id"
  · rw [if_pos id] at read
    split at read
    · contradiction
    · split at read
      · contradiction
      · obtain rfl := Except.ok.inj read
        exact ⟨fun _ => rfl, fun _ => rfl⟩
  rw [if_neg id] at read
  by_cases called : name = ascii "name"
  · rw [if_pos called] at read
    split at read
    · contradiction
    · obtain rfl := Except.ok.inj read
      exact ⟨fun _ => rfl, fun other => absurd called other⟩
  rw [if_neg called] at read
  contradiction

end

theorem givenDeclared {items : List Bytes} {key : PlainKey} {count : Int} (declared : Declared items key count) :
    given items key ≠ 0 := by
  obtain ⟨field, there, value, found, -⟩ := declared
  refine (List.countP_pos_iff.mpr ⟨field, there, ?_⟩).ne'
  rw [keyOf, found]
  exact decide_eq_true rfl

theorem declaredOnce {items : List Bytes} {key : PlainKey} (once : given items key ≤ 1) {m n : Int}
    (first : Declared items key m) (second : Declared items key n) : m = n := by
  obtain ⟨field, there, value, found, number⟩ := first
  obtain ⟨other, thereToo, valueToo, foundToo, numberToo⟩ := second
  have listed {field value : Bytes} (there : field ∈ items) (found : cut 61 field = some (keyText key, value)) :
      field ∈ items.filter (fun field => keyOf field = some (keyText key)) := by
    rw [List.mem_filter, keyOf, found]
    exact ⟨there, decide_eq_true rfl⟩
  have same : field = other := by
    rw [given, List.countP_eq_length_filter] at once
    have one := listed there found
    have two := listed thereToo foundToo
    match few : items.filter (fun field => keyOf field = some (keyText key)) with
    | [] => simp [few] at one
    | [only] =>
      rw [few, List.mem_singleton] at one two
      exact one.trans two.symm
    | _ :: _ :: _ => simp [few] at once
  subst same
  obtain ⟨-, rfl⟩ := Prod.mk.inj (Option.some.inj (found.symm.trans foundToo))
  exact Option.some.inj (number.symm.trans numberToo)

section
variable {V : Type} {items : List Bytes} {part : Bytes → Option (Int × Bytes × Bytes)}
  {read : V → Bytes × Bytes → Except String V} {empty : V} {entries : IntMap V} {key : PlainKey}
  {count : Option Int} {check : Nat → Except String V} {mismatch : String} {reported : List V}
  {names loose : List Bytes}

theorem entriesExact (gathered : Gathered part read empty items entries)
    (single : given items key = if count.isSome then 1 else 0)
    (declared : ∀ n, count = some n → 0 ≤ n ∧ Declared items key n)
    (made : complete count entries.size check mismatch = .ok reported)
    (checked : ∀ (i : Nat) v, check i = .ok v → lookup entries (i : Int) = some v ∧
      ∀ name ∈ names, name ∈ loose ∨ giving (parts part items i) name ≠ 0)
    (required : ∀ name ∈ loose, name ∈ names) :
    EntriesComplete items part read empty key names reported ↔ EntriesGiven items part key loose := by
  constructor
  · intro all
    refine ⟨fun i some => ?_, fun i some name there => ?_, all.once⟩
    · obtain ⟨n, stands, -⟩ := all.counted i some
      exact givenDeclared stands
    · obtain ⟨n, stands, low, high⟩ := all.counted i some
      have one := all.required n stands i.toNat (by omega) name (required name there)
      rw [Int.toNat_of_nonneg low] at one
      omega
  · intro all
    cases count with
    | none =>
      have none (i : Int) : parts part items i = [] := by
        by_contra some
        exact all.counted i some single
      exact ⟨fun i some => absurd (none i) some, fun i some => absurd (none i) some,
        fun n stands => absurd single (givenDeclared stands), all.once⟩
    | some n =>
      obtain ⟨least, stands⟩ := declared n rfl
      unfold complete at made
      dsimp only at made
      split at made
      · contradiction
      · rename_i size
        obtain ⟨-, listed⟩ := rangeListed made
        have found {i : Nat} (below : (i : Int) < n) : ∃ v, reported[i]? = some v ∧ check i = .ok v :=
          listed i (by omega)
        have below {i : Int} (some : parts part items i ≠ []) : 0 ≤ i ∧ i < n := by
          have inside := keysBelow (n := n.toNat) (by omega) (fun i small => by
            obtain ⟨v, -, fine⟩ := found (i := i) (by omega)
            rw [(checked i v fine).1]
            rfl) ((gathered.there i).mpr some)
          omega
        refine ⟨fun i some => ⟨n, stands, below some⟩, fun i some => ?_, fun count other i small name there => ?_, all.once⟩
        · obtain ⟨v, placed, fine⟩ := found (below some).2
          refine ⟨v, placed, ?_⟩
          rw [gathered.made, (checked i v fine).1]
          rfl
        · obtain rfl : count = n := declaredOnce (by rw [single]; split <;> omega) other stands
          obtain ⟨v, -, fine⟩ := found small
          obtain ⟨entry, given⟩ := checked i v fine
          have some : parts part items i ≠ [] := (gathered.there i).mp (by rw [entry]; rfl)
          have most := all.once i name
          have least : giving (parts part items i) name ≠ 0 := by
            obtain free | given := given name there
            · exact all.numbers i some name free
            · exact given
          omega

end

theorem givenChanged {V α : Type} {read : V → Bytes × Bytes → Except String V} {proj : V → α} {name : Bytes}
    (keeps : ∀ v field v', read v field = .ok v' → ¬ field.1 = name → proj v' = proj v)
    {own : List (Bytes × Bytes)} {v v' : V} (made : own.foldlM read v = .ok v') (changed : proj v' ≠ proj v) :
    giving own name ≠ 0 := by
  intro none
  refine changed (foldKeeps keeps made fun field there same => ?_)
  exact (List.countP_pos_iff.mpr ⟨field, there, decide_eq_true same⟩).ne' none

section
variable {F : Type} [FloatOps F] {items : List Bytes}

theorem npcChecked {npcs : IntMap (NpcSnapshot F)} (gathered : Gathered npcPart readNpcField emptyNpc items npcs)
    (i : Nat) (npc : NpcSnapshot F) (fine : completeNpc npcs i = .ok npc) :
    lookup npcs (i : Int) = some npc ∧
      ∀ name ∈ npcNames, name ∈ npcDefaults ∨ giving (parts npcPart items i) name ≠ 0 := by
  unfold completeNpc at fine
  split at fine
  · contradiction
  · rename_i entry found
    split at fine
    · contradiction
    · rename_i full
      obtain rfl := Except.ok.inj fine
      simp only [not_or] at full
      obtain ⟨id, type, -, -, -, -, alive⟩ := full
      have made := gathered.made i
      rw [show lookup npcs (i : Int) = some entry from found, Option.getD_some] at made
      have hasId : giving (parts npcPart items i) (ascii "id") ≠ 0 :=
        givenChanged (fun _ _ _ read => (npcKeeps read).1) made
          (fun same : entry.id = 0 => id (by omega))
      have hasType : giving (parts npcPart items i) (ascii "type") ≠ 0 :=
        givenChanged (fun _ _ _ read => (npcKeeps read).2.1) made type
      have hasAlive : giving (parts npcPart items i) (ascii "alive") ≠ 0 :=
        givenChanged (fun _ _ _ read => (npcKeeps read).2.2) made alive
      refine ⟨found, fun name there => ?_⟩
      simp only [npcNames, List.mem_cons, List.not_mem_nil, or_false] at there
      obtain rfl | rfl | rfl | rfl | rfl | rfl | rfl := there
      · exact .inr hasId
      · exact .inr hasType
      · exact .inl (by decide)
      · exact .inl (by decide)
      · exact .inl (by decide)
      · exact .inl (by decide)
      · exact .inr hasAlive

theorem playerChecked {players : IntMap (PlayerPoseSnapshot F)}
    (gathered : Gathered playerPart readPlayerField emptyPlayer items players)
    (i : Nat) (player : PlayerPoseSnapshot F) (fine : completePlayer players i = .ok player) :
    lookup players (i : Int) = some player ∧
      ∀ name ∈ playerNames, name ∈ playerDefaults ∨ giving (parts playerPart items i) name ≠ 0 := by
  unfold completePlayer at fine
  split at fine
  · contradiction
  · rename_i entry found
    split at fine
    · contradiction
    · rename_i full
      obtain rfl := Except.ok.inj fine
      simp only [not_or] at full
      obtain ⟨session, -, -, -, called⟩ := full
      have made := gathered.made i
      rw [show lookup players (i : Int) = some entry from found, Option.getD_some] at made
      have hasSession : giving (parts playerPart items i) (ascii "session") ≠ 0 :=
        givenChanged (fun _ _ _ read => (playerKeeps read).1) made
          (fun same : entry.sessionId = 0 => session (by omega))
      have hasName : giving (parts playerPart items i) (ascii "name") ≠ 0 :=
        givenChanged (fun _ _ _ read => (playerKeeps read).2) made
          (fun same : entry.name = [] => called (by rw [same]; decide))
      refine ⟨found, fun name there => ?_⟩
      simp only [playerNames, List.mem_cons, List.not_mem_nil, or_false] at there
      obtain rfl | rfl | rfl | rfl | rfl := there
      · exact .inr hasSession
      · exact .inl (by decide)
      · exact .inl (by decide)
      · exact .inl (by decide)
      · exact .inr hasName

theorem parsedExact {payload : Bytes} {state : EnvironmentState F} (accepted : parsePayload payload = .ok state) :
    Complete payload state ↔ Given payload := by
  obtain ⟨parsed, read, made⟩ := bindOk accepted
  have seen : Seen (fields 59 payload) parsed := seenAll seenStart read
  have done := finished made
  have npcs : EntriesComplete (fields 59 payload) npcPart readNpcField emptyNpc .npcCount npcNames state.npcs ↔
      EntriesGiven (fields 59 payload) npcPart .npcCount npcDefaults :=
    entriesExact seen.npcs (seen.single .npcCount (by decide)) seen.npcCount done.npcs (npcChecked seen.npcs)
      (by decide)
  have players : EntriesComplete (fields 59 payload) playerPart readPlayerField emptyPlayer .playerCount
      playerNames state.players ↔ EntriesGiven (fields 59 payload) playerPart .playerCount playerDefaults :=
    entriesExact seen.players (seen.single .playerCount (by decide)) seen.playerCount done.players
      (playerChecked seen.players) (by decide)
  constructor
  · intro all
    refine ⟨npcs.mp all.npcs, players.mp all.players, fun key inside => ?_⟩
    rw [all.pose key inside]
    split <;> omega
  · intro all
    refine ⟨npcs.mpr all.npcs, players.mpr all.players, fun key inside => ?_, fun key inside => ?_⟩
    · have outside : key ∉ localKeys := by
        revert inside
        cases key <;> decide
      rw [seen.single key outside, if_pos (done.ether key inside)]
    · have most := all.pose key inside
      have stands := seen.pose key inside
      rw [done.pose key inside] at stands
      split
      · have least := stands.mp ‹_›
        omega
      · by_contra some
        exact absurd (stands.mpr some) ‹_›

-- A refused update leaves the client's state alone.
def replaceState (client : EnvironmentState F) (update : WorldUpdate) :
    EnvironmentState F × Except String Unit :=
  match applySnapshot update with
  | .error error => (client, .error error)
  | .ok next => (next, .ok ())

theorem refusedKeeps {client : EnvironmentState F} {update : WorldUpdate} {error : String}
    (refused : (replaceState client update).2 = .error error) : (replaceState client update).1 = client := by
  unfold replaceState at refused ⊢
  split at refused
  · rfl
  · contradiction

theorem completeExact {payload : Bytes} {state : EnvironmentState F}
    (accepted : parsePayload payload = .ok state) :
    (Complete payload state ↔ Given payload) ∧
      ∀ (client : EnvironmentState F) update error, (replaceState client update).2 = .error error →
        (replaceState client update).1 = client :=
  ⟨parsedExact accepted, fun _ _ _ refused => refusedKeeps refused⟩

end

theorem givenAlone {items : List Bytes} {part : Bytes → Option (Int × Bytes × Bytes)} {key : PlainKey}
    {names : List Bytes} (alone : ∀ field ∈ items, ∀ numbered ∈ part field, numbered.1 = 0)
    (counted : given items key ≠ 0) (numbers : ∀ name ∈ names, giving (parts part items 0) name ≠ 0)
    (once : ((parts part items 0).map Prod.fst).Nodup) : EntriesGiven items part key names := by
  have other {i : Int} (foreign : i ≠ 0) : parts part items i = [] :=
    partsForeign (fun field there numbered found same => foreign (same.symm.trans (alone field there numbered found)))
  refine ⟨fun _ _ => counted, fun i some name there => ?_, fun i name => ?_⟩
  · by_cases first : i = 0
    · rw [first]
      exact numbers name there
    · exact absurd (other first) some
  · by_cases first : i = 0
    · have most := List.nodup_iff_count_le_one.mp once name
      rw [List.count, List.countP_map] at most
      rw [first]
      exact (le_of_eq (List.countP_congr (by simp))).trans most
    · rw [other first]
      exact Nat.zero_le 1

def etherFields : List Bytes :=
  [ascii "ether.water=2", ascii "ether.earth=3", ascii "ether.air=4", ascii "ether.hazard=5"]

def etherState : EnvironmentState ℚ :=
  { (EnvironmentState.initial : EnvironmentState ℚ) with fire := 1, water := 2, earth := 3, air := 4, hazard := 5 }

def poseFields : List Bytes :=
  [ascii "player.count=1", ascii "player.0.session=7", ascii "player.0.x=1", ascii "player.0.y=2",
    ascii "player.0.z=3", ascii "player.0.name=ann"]

def posePayload : Bytes := joinFields 59 (ascii "ether.fire=1") (etherFields ++ poseFields)

def poseState : EnvironmentState ℚ := { etherState with players := [⟨7, 1, 2, 3, 0, ascii "ann"⟩] }

theorem poseGiven : Given posePayload where
  npcs := by
    have none (i : Int) : parts npcPart (fields 59 posePayload) i = [] :=
      partsForeign (by
        have foreign : ∀ field ∈ fields 59 posePayload, npcPart field = none := by decide +kernel
        intro field there numbered found
        simp [foreign field there] at found)
    refine ⟨fun i some => absurd (none i) some, fun i some => absurd (none i) some, fun i name => ?_⟩
    rw [none]
    exact Nat.zero_le 1
  players := givenAlone (by decide +kernel) (by decide +kernel) (by decide +kernel) (by decide +kernel)
  pose := by decide +kernel

theorem poseComplete :
    Complete posePayload poseState ∧ ∀ (client : EnvironmentState ℚ) update error,
      (replaceState client update).2 = .error error → (replaceState client update).1 = client := by
  have accepted : parsePayload posePayload = .ok poseState := by decide +kernel
  have exact := completeExact accepted
  exact ⟨exact.1.mpr poseGiven, exact.2⟩

def hollowFields : List Bytes :=
  [ascii "npc.count=1", ascii "npc.0.id=7", ascii "npc.0.type=goblin", ascii "npc.0.alive=1"]

def hollowPayload : Bytes := joinFields 59 (ascii "ether.fire=1") (etherFields ++ hollowFields)

def hollowState : EnvironmentState ℚ := { etherState with npcs := [⟨7, ascii "goblin", 0, 0, 0, 0, true⟩] }

theorem hollowAccepted :
    parsePayload hollowPayload = .ok hollowState ∧ ¬ Complete hollowPayload hollowState := by
  refine ⟨by decide +kernel, fun all => ?_⟩
  have counted : Declared (fields 59 hollowPayload) .npcCount 1 :=
    ⟨ascii "npc.count=1", by decide +kernel, ascii "1", by decide +kernel, by decide +kernel⟩
  have given := all.npcs.required 1 counted 0 (by decide) (ascii "x") (by decide)
  exact absurd given (by decide +kernel)

end SeedOrigin.SnapshotCompleteness
