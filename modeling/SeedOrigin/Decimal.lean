import SeedOrigin.Octets

/-! Decimal text: what an output stream writes for an integer and what an input
stream reads back, with the leading blanks and signs it accepts. -/
namespace SeedOrigin.Decimal
open SeedOrigin.Octets

def isDigit (b : UInt8) : Bool := 48 ≤ b ∧ b ≤ 57
def isSpace (b : UInt8) : Bool := b = 32 ∨ 9 ≤ b ∧ b ≤ 13

def digit (d : Nat) : UInt8 := UInt8.ofNat (48 + d % 10)

def digits (width value : Nat) : Bytes :=
  match width with
  | 0 => []
  | width + 1 => digits width (value / 10) ++ [digit value]

def readDigits (raw : Bytes) : Nat := raw.foldl (fun n b => n * 10 + (b.toNat - 48)) 0

def natText (n : Nat) : Bytes := digits (Nat.log 10 n + 1) n

def intText (n : Int) : Bytes := if n < 0 then 45 :: natText n.natAbs else natText n.natAbs

def skipSpace (raw : Bytes) : Bytes := raw.dropWhile isSpace

def exhausted (raw : Bytes) : Bool := raw.all isSpace

def scanSign : Bytes → Bool × Bytes
  | [] => (false, [])
  | b :: rest =>
    if b = 45 then (true, rest) else if b = 43 then (false, rest) else (false, b :: rest)

def scanNat (raw : Bytes) : Option (Nat × Bytes) :=
  if raw.takeWhile isDigit = [] then none
  else some (readDigits (raw.takeWhile isDigit), raw.dropWhile isDigit)

def InInt64 (value : Int) : Prop := -2 ^ 63 ≤ value ∧ value < 2 ^ 63
instance (value : Int) : Decidable (InInt64 value) := by unfold InInt64; infer_instance

def signed (negative : Bool) (n : Nat) : Int := if negative then -(n : Int) else n

def scanInt64 (raw : Bytes) : Option (Int × Bytes) := do
  let (negative, body) := scanSign (skipSpace raw)
  let (n, rest) ← scanNat body
  if InInt64 (signed negative n) then some (signed negative n, rest) else none

-- A minus sign is accepted and wraps, as strtoull does.
def scanUint64 (raw : Bytes) : Option (UInt64 × Bytes) := do
  let (negative, body) := scanSign (skipSpace raw)
  let (n, rest) ← scanNat body
  if n < 2 ^ 64 then
    some (if negative then 0 - UInt64.ofNat n else UInt64.ofNat n, rest)
  else none

-- The next character that is not a blank, if it is the expected one.
def scanChar (expected : UInt8) (raw : Bytes) : Option Bytes :=
  match skipSpace raw with
  | [] => none
  | b :: rest => if b = expected then some rest else none

def cut (separator : UInt8) (raw : Bytes) : Option (Bytes × Bytes) :=
  match raw.dropWhile (fun b => b != separator) with
  | [] => none
  | _ :: rest => some (raw.takeWhile (fun b => b != separator), rest)

def whole {α : Type} (scanned : Option (α × Bytes)) : Option α :=
  match scanned with
  | some (value, rest) => if exhausted rest then some value else none
  | none => none

def parseInt64 (text : Bytes) : Option Int := whole (scanInt64 text)

def parseUint64 (text : Bytes) : Option UInt64 :=
  if text = [] ∨ text.head? = some 45 then none else whole (scanUint64 text)

theorem digitByte (d : Nat) : (digit d).toNat = 48 + d % 10 := by
  simp only [digit, UInt8.toNat_ofNat']
  omega

theorem digitIsDigit (d : Nat) : isDigit (digit d) = true := by
  have byte := digitByte d
  simp only [isDigit, UInt8.le_iff_toNat_le, byte, decide_eq_true_eq]
  constructor
  · exact Nat.le_add_right _ _
  · have small := Nat.mod_lt d (by decide : 0 < 10)
    have last : (57 : UInt8).toNat = 57 := rfl
    omega

@[simp] theorem digitsLength (width value : Nat) : (digits width value).length = width := by
  induction width generalizing value with
  | zero => rfl
  | succ width ih => simp [digits, ih]

theorem digitsAreDigits (width value : Nat) : ∀ b ∈ digits width value, isDigit b = true := by
  induction width generalizing value with
  | zero => simp [digits]
  | succ width ih =>
    intro b mem
    rcases List.mem_append.mp mem with front | last
    · exact ih _ b front
    · rw [List.mem_singleton.mp last]
      exact digitIsDigit value

theorem readDigitsAppend (front back : Bytes) :
    readDigits (front ++ back) = readDigits front * 10 ^ back.length + readDigits back := by
  induction back using List.reverseRecOn with
  | nil => simp [readDigits]
  | append_singleton back b ih =>
    have last (raw : Bytes) : readDigits (raw ++ [b]) = readDigits raw * 10 + (b.toNat - 48) := by
      simp [readDigits]
    rw [← List.append_assoc, last, last, ih, List.length_append, List.length_singleton, pow_succ]
    ring

theorem readDigitsWidth (width value : Nat) : readDigits (digits width value) = value % 10 ^ width := by
  induction width generalizing value with
  | zero => simp [digits, readDigits, Nat.mod_one]
  | succ width ih =>
    have one : readDigits [digit value] = value % 10 := by
      simp [readDigits, digitByte]
    rw [digits, readDigitsAppend, ih, one, List.length_singleton, pow_one, pow_succ,
      Nat.mul_comm (10 ^ width) 10, Nat.mod_mul]
    ring

theorem readNatText (n : Nat) : readDigits (natText n) = n := by
  rw [natText, readDigitsWidth]
  exact Nat.mod_eq_of_lt (Nat.lt_pow_succ_log_self (by decide) n)

theorem natTextDigits (n : Nat) : ∀ b ∈ natText n, isDigit b = true := digitsAreDigits _ _

theorem natTextNonempty (n : Nat) : natText n ≠ [] := by
  intro none
  have length := digitsLength (Nat.log 10 n + 1) n
  rw [← natText, none] at length
  simp at length

theorem takeDigits {front rest : Bytes} (all : ∀ b ∈ front, isDigit b = true)
    (stop : ∀ b ∈ rest.head?, isDigit b = false) :
    (front ++ rest).takeWhile isDigit = front ∧ (front ++ rest).dropWhile isDigit = rest := by
  have after : rest.takeWhile isDigit = [] ∧ rest.dropWhile isDigit = rest := by
    cases rest with
    | nil => simp
    | cons b rest => simp [stop b (by simp)]
  rw [List.takeWhile_append_of_pos all, List.dropWhile_append_of_pos all, after.1, after.2]
  simp

theorem scanNatText (n : Nat) (rest : Bytes) (stop : ∀ b ∈ rest.head?, isDigit b = false) :
    scanNat (natText n ++ rest) = some (n, rest) := by
  obtain ⟨taken, dropped⟩ := takeDigits (natTextDigits n) stop
  rw [scanNat, taken, dropped, if_neg (natTextNonempty n), readNatText]

theorem digitDiffers {b c : UInt8} (h : isDigit b = true) (other : isDigit c = false) : b ≠ c := by
  rintro rfl
  rw [h] at other
  contradiction

theorem digitNotSpace {b : UInt8} (h : isDigit b = true) : isSpace b = false := by
  simp only [isDigit, decide_eq_true_eq, UInt8.le_iff_toNat_le] at h
  have blank := digitDiffers (c := 32) (b := b) (by simpa [isDigit, UInt8.le_iff_toNat_le] using h)
    (by decide)
  have low : (48 : UInt8).toNat = 48 := rfl
  have high : (13 : UInt8).toNat = 13 := rfl
  simp only [isSpace, blank, false_or, decide_eq_false_iff_not, UInt8.le_iff_toNat_le]
  omega

theorem startsPlain {raw : Bytes} (nonempty : raw ≠ []) (all : ∀ b ∈ raw, isDigit b = true)
    (rest : Bytes) :
    skipSpace (raw ++ rest) = raw ++ rest ∧ scanSign (raw ++ rest) = (false, raw ++ rest) := by
  cases raw with
  | nil => contradiction
  | cons b raw =>
    have first := all b List.mem_cons_self
    have blank := digitNotSpace first
    have minus := digitDiffers (c := 45) first (by decide)
    have plus := digitDiffers (c := 43) first (by decide)
    simp [skipSpace, scanSign, blank, minus, plus]

theorem scanInt64Signed {raw body rest : Bytes} {negative : Bool} {n : Nat}
    (blank : skipSpace raw = raw) (sign : scanSign raw = (negative, body))
    (scanned : scanNat body = some (n, rest)) : scanInt64 raw =
      if InInt64 (signed negative n) then some (signed negative n, rest) else none := by
  simp only [scanInt64, blank, sign, scanned]
  rfl

-- A number outside 64 bits is written but not read.
theorem scanIntExact (n : Int) (rest : Bytes) (stop : ∀ b ∈ rest.head?, isDigit b = false) :
    scanInt64 (intText n ++ rest) = if InInt64 n then some (n, rest) else none := by
  have scanned := scanNatText n.natAbs rest stop
  by_cases sign : n < 0
  · have blank : skipSpace (45 :: (natText n.natAbs ++ rest)) = 45 :: (natText n.natAbs ++ rest) := by
      rw [skipSpace, List.dropWhile_cons_of_neg (by decide)]
    have value : signed true n.natAbs = n := by simp only [signed, if_true]; omega
    rw [intText, if_pos sign, List.cons_append, scanInt64Signed blank rfl scanned, value]
  · have value : signed false n.natAbs = n := by
      simp only [signed, Bool.false_eq_true, if_false]
      omega
    obtain ⟨blank, plain⟩ := startsPlain (natTextNonempty n.natAbs) (natTextDigits _) rest
    rw [intText, if_neg sign, scanInt64Signed blank plain scanned, value]

theorem parseIntExact (n : Int) : parseInt64 (intText n) = if InInt64 n then some n else none := by
  have scanned := scanIntExact n [] (by simp)
  rw [List.append_nil] at scanned
  rw [parseInt64, scanned]
  split <;> rfl

theorem parseIntText {n : Int} (inside : InInt64 n) : parseInt64 (intText n) = some n := by
  rw [parseIntExact, if_pos inside]

theorem natTextFree (n : Nat) {b : UInt8} (other : isDigit b = false) : b ∉ natText n :=
  fun there => digitDiffers (natTextDigits n b there) other rfl

theorem intTextFree (n : Int) {b : UInt8} (other : isDigit b = false) (minus : b ≠ 45) :
    b ∉ intText n := by
  unfold intText
  split
  · intro there
    rcases List.mem_cons.mp there with bad | there
    · exact minus bad
    · exact natTextFree _ other there
  · exact natTextFree _ other

theorem intTextNonempty (n : Int) : intText n ≠ [] := by
  unfold intText
  split
  · exact List.cons_ne_nil _ _
  · exact natTextNonempty _

theorem natTextLength {n width : Nat} (some : 0 < width) (small : n < 10 ^ width) :
    (natText n).length ≤ width := by
  rw [natText, digitsLength]
  rcases Nat.eq_zero_or_pos n with rfl | positive
  · exact some
  · exact Nat.log_lt_of_lt_pow positive.ne' small

theorem intTextLength {n : Int} (inside : InInt64 n) : (intText n).length ≤ 20 := by
  have bound : n.natAbs < 10 ^ 19 := by
    unfold InInt64 at inside
    omega
  have digits := natTextLength (by decide) bound
  unfold intText
  split
  · rw [List.length_cons]
    omega
  · omega

end SeedOrigin.Decimal
