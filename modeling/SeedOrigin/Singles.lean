import SeedOrigin.BinaryRounding
import SeedOrigin.Numbers

/-! The float of the source: an IEEE binary32 whose operations round to nearest.
The two zeros are one, and the value of a conversion the language leaves
undefined is zero. -/
namespace SeedOrigin.Singles
open SeedOrigin.Octets SeedOrigin.Significant SeedOrigin.BinaryRounding SeedOrigin.Numbers

def binary32 : BinaryFormat := ⟨24, -149, 104, by decide⟩
def binary64 : BinaryFormat := ⟨53, -1074, 971, by decide⟩

structure FiniteSingle where
  value : ℚ
  held : binary32.Held value
  bounded : |value| ≤ binary32.largest

inductive Single where
  | nan
  | infinite (negative : Bool)
  | finite (number : FiniteSingle)

theorem singleExt {x y : FiniteSingle} (same : x.value = y.value) : x = y := by
  cases x
  cases y
  cases same
  rfl

instance : DecidableEq FiniteSingle := fun x y =>
  decidable_of_iff (x.value = y.value) ⟨singleExt, fun same => congrArg FiniteSingle.value same⟩

deriving instance DecidableEq for Single

def ofRational (q : ℚ) : Single :=
  if bounded : |binary32.nearest q| ≤ binary32.largest then
    .finite ⟨binary32.nearest q, binary32.nearestHeld q, bounded⟩
  else .infinite (q < 0)

namespace Single

def neg : Single → Single
  | nan => nan
  | infinite negative => infinite !negative
  | finite x => finite ⟨-x.value, BinaryFormat.heldNeg x.held, by rw [abs_neg]; exact x.bounded⟩

def add : Single → Single → Single
  | finite x, finite y => ofRational (x.value + y.value)
  | infinite negative, infinite other => if negative = other then infinite negative else nan
  | infinite negative, finite _ => infinite negative
  | finite _, infinite negative => infinite negative
  | _, _ => nan

def sub (x y : Single) : Single := x.add y.neg

def mul : Single → Single → Single
  | finite x, finite y => ofRational (x.value * y.value)
  | infinite negative, infinite other => infinite (negative != other)
  | infinite negative, finite x => if x.value = 0 then nan else infinite (negative != decide (x.value < 0))
  | finite x, infinite negative => if x.value = 0 then nan else infinite (negative != decide (x.value < 0))
  | _, _ => nan

def div : Single → Single → Single
  | finite x, finite y =>
    if y.value ≠ 0 then ofRational (x.value / y.value)
    else if x.value = 0 then nan else infinite (x.value < 0)
  | infinite negative, finite x => infinite (negative != decide (x.value < 0))
  | finite _, infinite _ => ofRational 0
  | _, _ => nan

def abs (x : Single) : Single :=
  match x with
  | nan => nan
  | infinite _ => infinite false
  | finite y => if y.value < 0 then (finite y).neg else finite y

-- Nothing compares with a NaN.
def compare (test : ℚ → ℚ → Bool) : Single → Single → Bool
  | nan, _ | _, nan => false
  | finite x, finite y => test x.value y.value
  | infinite negative, finite _ => test (if negative then 0 else 1) (if negative then 1 else 0)
  | finite _, infinite negative => test (if negative then 1 else 0) (if negative then 0 else 1)
  | infinite negative, infinite other => test (if negative then 0 else 1) (if other then 0 else 1)

def truncate : Single → Int
  | finite x => FloatOps.truncate x.value
  | _ => 0

-- The ceiling of a double is exact.
def ceilQuotient : Single → Nat → Option Int
  | finite x, n => if n = 0 then none else some ⌈binary64.nearest (x.value / n)⌉
  | _, _ => none

def text : Single → Bytes
  | nan => ascii "nan"
  | infinite negative => if negative then ascii "-inf" else ascii "inf"
  | finite x => Significant.text x.value

-- Extraction fails on a number that is too large.
def scan (raw : Bytes) : Option (Single × Bytes) :=
  match Significant.scan raw with
  | none => none
  | some (value, rest) => match ofRational value with
    | finite x => some (finite x, rest)
    | _ => none

end Single

instance singleOps : FloatOps Single where
  lit := ofRational
  add := Single.add
  sub := Single.sub
  mul := Single.mul
  div := Single.div
  neg := Single.neg
  abs := Single.abs
  lt := Single.compare (fun x y => x < y)
  le := Single.compare (fun x y => x ≤ y)
  isFinite x := match x with
    | .finite _ => true
    | _ => false
  truncate := Single.truncate
  ceilQuotient := Single.ceilQuotient
  text := Single.text
  scan := Single.scan

def Printable (x : FiniteSingle) : Prop := binary32.nearest (rounded x.value) = x.value
instance (x) : Decidable (Printable x) := by unfold Printable; infer_instance

theorem parseRounded (x : FiniteSingle) : parseFinite (F := Single) (Significant.text x.value) =
    match ofRational (rounded x.value) with
    | .finite y => some (.finite y)
    | _ => none := by
  have scanned : FloatOps.scan (F := Single) (Significant.text x.value) =
      match ofRational (rounded x.value) with
      | .finite y => some (.finite y, [])
      | _ => none := by
    unfold FloatOps.scan singleOps
    dsimp only
    unfold Single.scan
    rw [scanText]
  unfold parseFinite
  rw [scanned]
  cases ofRational (rounded x.value) <;> rfl

theorem parseExact (x : FiniteSingle) :
    parseFinite (Significant.text x.value) = some (Single.finite x) ↔ Printable x := by
  rw [parseRounded]
  unfold Printable ofRational
  by_cases bounded : |binary32.nearest (rounded x.value)| ≤ binary32.largest
  · rw [dif_pos bounded]
    constructor
    · intro same
      exact congrArg FiniteSingle.value (Single.finite.inj (Option.some.inj same))
    · intro same
      exact congrArg (fun y => some (Single.finite y)) (singleExt same)
  · rw [dif_neg bounded]
    refine ⟨fun same => (nomatch same), fun same => absurd ?_ bounded⟩
    rw [same]
    exact x.bounded

theorem sixDigitsPrintable {x : FiniteSingle} (digits : rounded x.value = x.value) : Printable x := by
  unfold Printable
  rw [digits, BinaryFormat.nearestExact x.held]

theorem singleLog (x : FiniteSingle) : (Int.log 10 |x.value|).natAbs < 999 := by
  by_cases zero : x.value = 0
  · rw [zero, abs_zero, Int.log_zero_right]
    decide
  · have pos : 0 < |x.value| := abs_pos.mpr zero
    have least : (10 : ℚ) ^ (-50 : Int) ≤ 2 ^ (-149 : Int) := by norm_num
    have most : ((2 : ℚ) ^ 24 - 1) * 2 ^ (104 : Int) < 10 ^ (50 : Int) := by norm_num
    have low : -50 ≤ Int.log 10 |x.value| := by
      rw [← Int.zpow_le_iff_le_log (by decide) pos]
      exact_mod_cast least.trans (BinaryFormat.heldLeast x.held zero)
    have high : Int.log 10 |x.value| < 50 := by
      rw [← Int.lt_zpow_iff_log_lt (by decide) pos]
      exact_mod_cast lt_of_le_of_lt x.bounded most
    omega

theorem singleTextLength (x : Single) : (FloatOps.text x).length ≤ 18 := by
  cases x with
  | nan => decide
  | infinite negative => cases negative <;> decide
  | finite x => exact textLength (singleLog x)

theorem singleTextLacks (x : Single) {c : UInt8} (other : isNumberByte c = false)
    (letter : c ∉ ascii "nan" ++ ascii "-inf" ++ ascii "inf") : c ∉ FloatOps.text x := by
  simp only [List.mem_append, not_or] at letter
  obtain ⟨⟨nan, minus⟩, plus⟩ := letter
  cases x with
  | nan => exact nan
  | infinite negative =>
    cases negative with
    | true => exact minus
    | false => exact plus
  | finite x => exact textLacks x.value other

theorem singleTextFilled (x : Single) : FloatOps.text x ≠ [] := by
  cases x with
  | nan => decide
  | infinite negative => cases negative <;> decide
  | finite x => exact textNonempty x.value

end SeedOrigin.Singles
