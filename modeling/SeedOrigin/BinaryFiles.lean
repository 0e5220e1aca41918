import SeedOrigin.ClientInput
import SeedOrigin.Maps

/-! FileManager and SeedBinary: a file is kept as numbered chunks below an index
that only grows. A file is its bytes here: paths and streams that fail are left out,
and so is the progress that save prints. -/
namespace SeedOrigin.BinaryFiles
open SeedOrigin.Octets SeedOrigin.ClientInput SeedOrigin.Maps

def standardBinarySize : Nat := 1024
def maxInt : Int := 2 ^ 31 - 1

structure Binary where
  isValid : Bool
  size : Nat
  data : Bytes
  deriving DecidableEq

structure SeedBinary where
  bData : IntMap Binary := ∅
  fIndex : Int := 0
  deriving DecidableEq

def SeedBinary.setBinary (sb : SeedBinary) (data : Bytes) (size : Nat) (idx : Int) : Option SeedBinary :=
  if size > standardBinarySize ∨ idx < 0 ∨ idx = maxInt then none
  else
    let mData : Binary :=
      { isValid := true
        size := size
        data := data.take size ++ List.replicate (standardBinarySize - size) 0 }
    some
      { bData := sb.bData.insert idx mData
        fIndex := if idx ≥ sb.fIndex then idx + 1 else sb.fIndex }

def SeedBinary.getBinary (sb : SeedBinary) (idx : Int) : Option Binary :=
  if idx < 0 then none else sb.bData[idx]?

-- The loop of load. Every round goes on by a whole chunk.
def loadFrom (file : Bytes) : Nat → Nat → Int → SeedBinary → SeedBinary × Bool
  | 0, _, _, sb => (sb, true)
  | fuel + 1, offset, idx, sb =>
    if offset < file.length then
      if idx = maxInt then (sb, false)
      else
        let readsize := min standardBinarySize (file.length - offset)
        let ch := (file.drop offset).take readsize
        match sb.setBinary ch readsize idx with
        | none => (sb, false)
        | some sb => loadFrom file fuel (offset + standardBinarySize) (idx + 1) sb
    else (sb, true)

def load (sb : SeedBinary) (file : Bytes) : SeedBinary × Bool := loadFrom file file.length 0 0 sb

def saveFrom (sb : SeedBinary) : Nat → Int → Bytes → Bytes × Bool
  | 0, _, written => (written, true)
  | left + 1, i, written => match sb.getBinary i with
    | none => (written, false)
    | some chunk =>
      if chunk.isValid = false ∨ chunk.size > standardBinarySize then (written, false)
      else saveFrom sb left (i + 1) (written ++ chunk.data.take chunk.size)

def save (sb : SeedBinary) : Bytes × Bool :=
  if sb.fIndex < 0 then ([], false) else saveFrom sb sb.fIndex.toNat 0 []

def held (files : List Bytes) : SeedBinary := files.foldl (fun sb file => (load sb file).1) {}

def chunkCount (file : Bytes) : Nat := (file.length + (standardBinarySize - 1)) / standardBinarySize

def chunkAt (file : Bytes) (i : Nat) : Bytes :=
  (file.drop (standardBinarySize * i)).take standardBinarySize

def stored (content : Bytes) : Binary :=
  ⟨true, content.length, content ++ List.replicate (standardBinarySize - content.length) 0⟩

structure Filled (sb : SeedBinary) : Prop where
  index : 0 ≤ sb.fIndex
  chunks : ∀ i : Nat, (i : Int) < sb.fIndex → ∃ content : Bytes,
    content ≠ [] ∧ content.length ≤ standardBinarySize ∧ lookup sb.bData i = some (stored content)

theorem cutsJoined {A : Type} (m : Nat) (l : List A) (n : Nat) :
    (List.range n).flatMap (fun k => (l.drop (m * k)).take m) = l.take (m * n) := by
  induction n with
  | zero => simp
  | succ n ih =>
    rw [List.range_succ, List.flatMap_append, ih, List.flatMap_singleton, Nat.mul_succ, List.take_add]

theorem chunksJoined (file : Bytes) : (List.range (chunkCount file)).flatMap (chunkAt file) = file := by
  have whole : file.length ≤ standardBinarySize * chunkCount file := by
    unfold chunkCount standardBinarySize
    omega
  exact (cutsJoined standardBinarySize file (chunkCount file)).trans (List.take_of_length_le whole)

theorem chunkSmall (file : Bytes) (i : Nat) : (chunkAt file i).length ≤ standardBinarySize :=
  List.length_take_le ..

theorem chunkFilled {file : Bytes} {i : Nat} (inside : i < chunkCount file) : chunkAt file i ≠ [] := by
  unfold chunkCount standardBinarySize at inside
  rw [← List.length_pos_iff, chunkAt, List.length_take, List.length_drop]
  unfold standardBinarySize
  omega

theorem setChunk (sb : SeedBinary) {file : Bytes} {i : Nat} (room : (i : Int) ≠ maxInt) :
    sb.setBinary ((file.drop (standardBinarySize * i)).take
        (min standardBinarySize (file.length - standardBinarySize * i)))
      (min standardBinarySize (file.length - standardBinarySize * i)) i =
    some
      { bData := sb.bData.insert i (stored (chunkAt file i))
        fIndex := max sb.fIndex (i + 1) } := by
  have size : min standardBinarySize (file.length - standardBinarySize * i) =
      (chunkAt file i).length := by
    rw [chunkAt, List.length_take, List.length_drop]
  have content : (file.drop (standardBinarySize * i)).take (chunkAt file i).length = chunkAt file i := by
    rw [← size, ← List.length_drop, chunkAt, List.take_eq_take_iff]
    omega
  have small := chunkSmall file i
  have index : (if (i : Int) ≥ sb.fIndex then (i : Int) + 1 else sb.fIndex) = max sb.fIndex (i + 1) := by
    split_ifs <;> omega
  rw [size, content]
  unfold SeedBinary.setBinary
  rw [if_neg (by omega)]
  simp only [List.take_length, index, stored]

theorem filledChunk {sb : SeedBinary} (filled : Filled sb) {file : Bytes} {i : Nat}
    (inside : i < chunkCount file) (next : (i : Int) ≤ sb.fIndex) :
    Filled { bData := sb.bData.insert i (stored (chunkAt file i)), fIndex := max sb.fIndex (i + 1) } := by
  refine ⟨by dsimp only; omega, fun j below => ?_⟩
  dsimp only at below ⊢
  rw [lookupInsert]
  by_cases same : j = i
  · rw [same, Function.update_self]
    exact ⟨chunkAt file i, chunkFilled inside, chunkSmall file i, rfl⟩
  · rw [Function.update_of_ne (by exact_mod_cast same)]
    exact filled.chunks j (by omega)

structure Loaded (before : SeedBinary) (file : Bytes) (i : Nat) (sb : SeedBinary) : Prop where
  filled : Filled sb
  index : sb.fIndex = max before.fIndex i
  chunks : ∀ j : Nat, lookup sb.bData j =
    if j < i then some (stored (chunkAt file j)) else lookup before.bData j

theorem loadedNext {before sb : SeedBinary} {file : Bytes} {i : Nat} (loaded : Loaded before file i sb)
    (inside : i < chunkCount file) :
    Loaded before file (i + 1)
      { bData := sb.bData.insert i (stored (chunkAt file i)), fIndex := max sb.fIndex (i + 1) } := by
  obtain ⟨filled, index, chunks⟩ := loaded
  refine ⟨filledChunk filled inside (by omega), by dsimp only; push_cast; omega, fun j => ?_⟩
  dsimp only
  rw [lookupInsert]
  by_cases same : j = i
  · rw [same, Function.update_self, if_pos (by omega)]
  · rw [Function.update_of_ne (by exact_mod_cast same), chunks j]
    split_ifs with behind later later <;> first | rfl | omega

theorem loadCases {before sb : SeedBinary} {file : Bytes} (fuel : Nat) {i : Nat}
    (loaded : Loaded before file i sb) (low : i ≤ chunkCount file)
    (enough : chunkCount file ≤ i + fuel) :
    ∃ j, Loaded before file j (loadFrom file fuel (standardBinarySize * i) i sb).1 ∧
      ((loadFrom file fuel (standardBinarySize * i) i sb).2 = true → j = chunkCount file) := by
  induction fuel generalizing i sb with
  | zero => exact ⟨i, loaded, fun _ => by omega⟩
  | succ fuel ih =>
    unfold loadFrom
    by_cases more : standardBinarySize * i < file.length
    · have inside : i < chunkCount file := by
        unfold chunkCount standardBinarySize at *
        omega
      rw [if_pos more]
      by_cases last : (i : Int) = maxInt
      · rw [if_pos last]
        exact ⟨i, loaded, nofun⟩
      · rw [if_neg last]
        dsimp only
        rw [setChunk sb last]
        exact ih (loadedNext loaded inside) (by omega) (by omega)
    · rw [if_neg more]
      refine ⟨i, loaded, fun _ => ?_⟩
      unfold chunkCount standardBinarySize at *
      omega

theorem loadLoaded {sb : SeedBinary} (filled : Filled sb) (file : Bytes) :
    ∃ j, Loaded sb file j (load sb file).1 ∧ ((load sb file).2 = true → j = chunkCount file) := by
  have start : Loaded sb file 0 sb :=
    ⟨filled, by have := filled.index; omega, fun j => by rw [if_neg (by omega)]⟩
  refine loadCases file.length start (Nat.zero_le _) ?_
  unfold chunkCount standardBinarySize
  omega

theorem heldFilled (files : List Bytes) : Filled (held files) := by
  have keeps : ∀ sb, Filled sb → Filled (files.foldl (fun sb file => (load sb file).1) sb) := by
    induction files with
    | nil => exact fun sb filled => filled
    | cons file files ih =>
      intro sb filled
      obtain ⟨j, loaded, -⟩ := loadLoaded filled file
      exact ih _ loaded.filled
  exact keeps {} ⟨le_refl _, fun i below => absurd below (by simp)⟩

theorem saveChunks {sb : SeedBinary} {content : Nat → Bytes} (left : Nat) {i : Nat} (written : Bytes)
    (chunks : ∀ j, i ≤ j → j < i + left →
      (content j).length ≤ standardBinarySize ∧ lookup sb.bData j = some (stored (content j))) :
    saveFrom sb left i written =
      (written ++ (List.range left).flatMap (fun k => content (i + k)), true) := by
  induction left generalizing i written with
  | zero => simp [saveFrom]
  | succ left ih =>
    obtain ⟨small, there⟩ := chunks i (le_refl _) (by omega)
    have found : sb.getBinary i = some (stored (content i)) := by
      unfold SeedBinary.getBinary
      rw [if_neg (by omega)]
      exact there
    have fits : ¬ ((stored (content i)).isValid = false ∨ (stored (content i)).size > standardBinarySize) := by
      simp only [stored, Bool.true_eq_false, false_or]
      omega
    have taken : (stored (content i)).data.take (stored (content i)).size = content i :=
      List.take_left
    unfold saveFrom
    rw [found]
    dsimp only
    rw [if_neg fits, taken]
    have rest := ih (i := i + 1) (written ++ content i) (fun j low high => chunks j (by omega) (by omega))
    push_cast at rest
    rw [rest, List.range_succ_eq_map, List.flatMap_cons, List.flatMap_map, List.append_assoc]
    simp only [Nat.add_zero, Nat.succ_eq_add_one, Nat.add_assoc, Nat.add_comm 1]

theorem saveLoaded {before sb : SeedBinary} {file : Bytes}
    (loaded : Loaded before file (chunkCount file) sb) :
    ∃ older : Bytes, save sb = (file ++ older, true) ∧
      (older = [] ↔ before.fIndex ≤ chunkCount file) := by
  have low := loaded.filled.index
  have content (i : Nat) : ∃ content : Bytes, (i : Int) < sb.fIndex →
      content ≠ [] ∧ content.length ≤ standardBinarySize ∧ lookup sb.bData i = some (stored content) := by
    by_cases below : (i : Int) < sb.fIndex
    · obtain ⟨content, parts⟩ := loaded.filled.chunks i below
      exact ⟨content, fun _ => parts⟩
    · exact ⟨[], fun below' => absurd below' below⟩
  choose content parts using content
  have own (i : Nat) (inside : i < chunkCount file) : content i = chunkAt file i := by
    obtain ⟨-, -, there⟩ := parts i (by rw [loaded.index]; omega)
    rw [loaded.chunks i, if_pos inside] at there
    have same := congrArg (fun chunk => chunk.data.take chunk.size) (Option.some.inj there)
    simpa [stored] using same.symm
  obtain ⟨extra, total⟩ : ∃ extra : Nat, sb.fIndex = chunkCount file + extra :=
    ⟨(sb.fIndex - chunkCount file).toNat, by have := loaded.index; omega⟩
  have each (j : Nat) (_ : 0 ≤ j) (_ : j < 0 + (chunkCount file + extra)) :
      (content j).length ≤ standardBinarySize ∧ lookup sb.bData j = some (stored (content j)) :=
    (parts j (by omega)).2
  have written := saveChunks (chunkCount file + extra) [] each
  refine ⟨(List.range extra).flatMap (fun k => content (chunkCount file + k)), ?_, ?_⟩
  · have front : (List.range (chunkCount file)).flatMap content = file := by
      rw [List.flatMap_congr (fun i there => own i (List.mem_range.mp there))]
      exact chunksJoined file
    unfold save
    rw [if_neg (by omega), show sb.fIndex.toNat = chunkCount file + extra by omega]
    simp only [Nat.cast_zero, Nat.zero_add, List.nil_append] at written
    rw [written, List.range_add, List.flatMap_append, List.flatMap_map, front]
  · rw [List.flatMap_eq_nil_iff]
    constructor
    · intro nothing
      by_contra beyond
      have index := loaded.index
      obtain ⟨filled, -, -⟩ := parts (chunkCount file + 0) (by omega)
      exact filled (nothing 0 (List.mem_range.mpr (by omega)))
    · intro short k there
      have index := loaded.index
      have := List.mem_range.mp there
      omega

theorem savedExactly {earlier : List Bytes} {file : Bytes}
    (loaded : (load (held earlier) file).2 = true) :
    save (load (held earlier) file).1 = (file, true) ↔ (held earlier).fIndex ≤ chunkCount file := by
  obtain ⟨j, state, complete⟩ := loadLoaded (heldFilled earlier) file
  obtain rfl := complete loaded
  obtain ⟨older, written, nothing⟩ := saveLoaded state
  rw [written, ← nothing]
  simp

theorem longerSaved : chunkCount (List.replicate 2500 5) = 3 ∧ chunkCount (List.replicate 1500 7) = 2 ∧
    save (load (held [List.replicate 1500 7]) (List.replicate 2500 5)).1 = (List.replicate 2500 5, true) :=
  ⟨by decide +kernel, by decide +kernel, (savedExactly (by decide +kernel)).mpr (by decide +kernel)⟩

theorem shorterFileKeepsTail :
    (load (held [List.replicate 1025 7]) [1]).2 = true ∧
    ¬ save (load (held [List.replicate 1025 7]) [1]).1 = ([1], true) := by
  decide +kernel

end SeedOrigin.BinaryFiles
