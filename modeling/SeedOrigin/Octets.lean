import Mathlib

/-! Byte strings and fixed-width big-endian integers. A std::string and a byte
vector are both lists of octets; text literals are given by their ASCII codes. -/
namespace SeedOrigin.Octets

abbrev Bytes := List UInt8

instance bytesLawful : LawfulBEq Bytes := inferInstance

def ascii (s : String) : Bytes := s.toList.map (fun c => UInt8.ofNat c.toNat)

def be (width value : Nat) : Bytes :=
  match width with
  | 0 => []
  | width + 1 => be width (value / 256) ++ [UInt8.ofNat value]

def readBE (raw : Bytes) : Nat := raw.foldl (fun n b => n * 256 + b.toNat) 0

@[simp] theorem beLength (width value : Nat) : (be width value).length = width := by
  induction width generalizing value with
  | zero => rfl
  | succ width ih => simp [be, ih]

theorem readBeAppend (raw : Bytes) (b : UInt8) :
    readBE (raw ++ [b]) = readBE raw * 256 + b.toNat := by
  simp [readBE]

theorem readBeBounded (width value : Nat) (bound : value < 256 ^ width) :
    readBE (be width value) = value := by
  induction width generalizing value with
  | zero =>
    have zero : value = 0 := by simpa using bound
    simp [be, readBE, zero]
  | succ width ih =>
    have head : value / 256 < 256 ^ width := by
      rw [pow_succ] at bound
      omega
    rw [be, readBeAppend, ih _ head]
    simp only [UInt8.toNat_ofNat']
    omega

theorem readBelow (raw : Bytes) : readBE raw < 256 ^ raw.length := by
  induction raw using List.reverseRecOn with
  | nil => simp [readBE]
  | append_singleton raw b ih =>
    have byte := b.toNat_lt
    rw [readBeAppend, List.length_append, List.length_singleton, pow_succ]
    omega

theorem beRead (raw : Bytes) : be raw.length (readBE raw) = raw := by
  induction raw using List.reverseRecOn with
  | nil => rfl
  | append_singleton raw b ih =>
    have byte := b.toNat_lt
    have high : (readBE raw * 256 + b.toNat) / 256 = readBE raw := by omega
    have low : UInt8.ofNat (readBE raw * 256 + b.toNat) = b := by
      apply UInt8.toNat_inj.mp
      rw [UInt8.toNat_ofNat']
      omega
    rw [readBeAppend, List.length_append, List.length_singleton, be, high, low, ih]

def field (raw : Bytes) (offset width : Nat) : Nat := readBE ((raw.drop offset).take width)

def packed (fields : List (Nat × Nat)) : Bytes := fields.flatMap (fun f => be f.1 f.2)

def packedSize (fields : List (Nat × Nat)) : Nat := (fields.map Prod.fst).sum

@[simp] theorem packedLength (fields : List (Nat × Nat)) :
    (packed fields).length = packedSize fields := by
  simp [packed, packedSize, List.length_flatMap]

theorem packedAt (fields : List (Nat × Nat)) (i : Nat) {width value : Nat}
    (there : fields[i]? = some (width, value)) (bound : value < 256 ^ width) (rest : Bytes) :
    field (packed fields ++ rest) (packedSize (fields.take i)) width = value := by
  obtain ⟨inside, same⟩ := List.getElem?_eq_some_iff.mp there
  have split : fields = fields.take i ++ (width, value) :: fields.drop (i + 1) := by
    rw [← same, List.cons_getElem_drop_succ, List.take_append_drop]
  have bytes : packed fields ++ rest = packed (fields.take i) ++
      (be width value ++ (packed (fields.drop (i + 1)) ++ rest)) := by
    conv_lhs => rw [split]
    simp [packed, List.append_assoc]
  rw [bytes, field, ← packedLength, List.drop_left, List.take_left' (beLength width value)]
  exact readBeBounded width value bound

theorem fieldTake (raw : Bytes) (offset width n : Nat) (inside : offset + width ≤ n) :
    field (raw.take n) offset width = field raw offset width := by
  simp only [field, List.drop_take, List.take_take]
  congr 2
  omega

-- Signed 64-bit values travel as their residue modulo 2^64.
def signed64 (n : Nat) : Int := if n < 2 ^ 63 then n else (n : Int) - 2 ^ 64

def residue64 (value : Int) : Nat := (value % 2 ^ 64).toNat

theorem residueBound (value : Int) : residue64 value < 256 ^ 8 := by
  unfold residue64
  omega

theorem signedResidue (value : Int) (low : -2 ^ 63 ≤ value) (high : value < 2 ^ 63) :
    signed64 (residue64 value) = value := by
  unfold signed64 residue64
  split <;> omega

end SeedOrigin.Octets
