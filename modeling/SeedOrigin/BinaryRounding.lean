import SeedOrigin.Significant

/-! Rationals rounded to a binary format: to the nearest number with a fixed count
of binary digits, ties to even, and no digit below a lowest place. -/
namespace SeedOrigin.BinaryRounding
open SeedOrigin.Significant

-- The highest exponent is that of the last digit of the largest number.
structure BinaryFormat where
  precision : Nat
  lowest : Int
  highest : Int
  positive : 0 < precision

namespace BinaryFormat

def largest (format : BinaryFormat) : ℚ := (2 ^ format.precision - 1) * 2 ^ format.highest

def place (format : BinaryFormat) (q : ℚ) : Int :=
  max (Int.log 2 q + 1 - format.precision) format.lowest

def nearestMagnitude (format : BinaryFormat) (q : ℚ) : ℚ :=
  roundEven (q / 2 ^ format.place q) * 2 ^ format.place q

def nearest (format : BinaryFormat) (q : ℚ) : ℚ :=
  if q < 0 then -format.nearestMagnitude (-q) else format.nearestMagnitude q

def Held (format : BinaryFormat) (q : ℚ) : Prop :=
  ∃ (digits : Nat) (exponent : Int),
    digits < 2 ^ format.precision ∧ format.lowest ≤ exponent ∧ |q| = digits * 2 ^ exponent

variable {format : BinaryFormat} {q : ℚ}

theorem heldNeg (held : format.Held q) : format.Held (-q) := by
  unfold Held at held ⊢
  rwa [abs_neg]

theorem twoPos (exponent : Int) : (0 : ℚ) < 2 ^ exponent := zpow_pos (by norm_num) exponent

theorem roundEvenNat (n : Nat) : roundEven (n : ℚ) = n :=
  Nat.le_antisymm (roundEvenUpper (Nat.cast_nonneg n) le_rfl) (roundEvenLower le_rfl)

theorem digitsBound (pos : 0 < q) : roundEven (q / 2 ^ format.place q) ≤ 2 ^ format.precision := by
  have scale := twoPos (format.place q)
  have high := Int.lt_zpow_succ_log_self (b := 2) (by decide) q
  have exponent : Int.log 2 q + 1 ≤ format.place q + format.precision := by
    unfold place
    omega
  refine roundEvenUpper (div_pos pos scale).le ?_
  rw [div_le_iff₀ scale]
  push_cast at high ⊢
  calc q ≤ 2 ^ (Int.log 2 q + 1) := high.le
    _ ≤ 2 ^ (format.place q + format.precision) := zpow_le_zpow_right₀ (by norm_num) exponent
    _ = 2 ^ format.precision * 2 ^ format.place q := by
      rw [zpow_add₀ (by norm_num), zpow_natCast, mul_comm]

theorem magnitudeHeld (nonnegative : 0 ≤ q) : format.Held (format.nearestMagnitude q) := by
  rcases nonnegative.eq_or_lt with rfl | pos
  · refine ⟨0, format.lowest, Nat.two_pow_pos _, le_rfl, ?_⟩
    have zero : roundEven 0 = 0 := roundEvenNat 0
    simp [nearestMagnitude, zero]
  · have scale := twoPos (format.place q)
    have low : format.lowest ≤ format.place q := le_max_right _ _
    have size : |format.nearestMagnitude q| = roundEven (q / 2 ^ format.place q) * 2 ^ format.place q :=
      abs_of_nonneg (mul_nonneg (Nat.cast_nonneg _) scale.le)
    rcases (digitsBound pos).eq_or_lt with carry | fits
    · -- The carry into a new digit leaves a power of two.
      have half : 2 ^ format.precision = 2 ^ (format.precision - 1) * 2 := by
        rw [← Nat.pow_succ, Nat.succ_eq_add_one, Nat.sub_add_cancel format.positive]
      refine ⟨2 ^ (format.precision - 1), format.place q + 1,
        Nat.pow_lt_pow_right (by decide) (Nat.sub_one_lt format.positive.ne'), by omega, ?_⟩
      rw [size, carry, half, zpow_add_one₀ (by norm_num)]
      push_cast
      ring
    · exact ⟨_, _, fits, low, size⟩

theorem nearestHeld (format : BinaryFormat) (q : ℚ) : format.Held (format.nearest q) := by
  unfold nearest
  split
  · rename_i negative
    exact heldNeg (magnitudeHeld (neg_nonneg.mpr negative.le))
  · rename_i above
    exact magnitudeHeld (not_lt.mp above)

theorem heldPlace (pos : 0 < q) {digits : Nat} {exponent : Int} (few : digits < 2 ^ format.precision)
    (low : format.lowest ≤ exponent) (value : q = digits * 2 ^ exponent) :
    format.place q ≤ exponent := by
  have below : q < 2 ^ (format.precision + exponent) := by
    rw [value, zpow_add₀ (by norm_num), zpow_natCast]
    have cast : (digits : ℚ) < 2 ^ format.precision := by exact_mod_cast few
    exact mul_lt_mul_of_pos_right cast (twoPos exponent)
  have log : Int.log 2 q < format.precision + exponent := by
    rw [← Int.lt_zpow_iff_log_lt (by decide) pos]
    exact_mod_cast below
  unfold place
  omega

theorem magnitudeExact (pos : 0 < q) (held : format.Held q) : format.nearestMagnitude q = q := by
  obtain ⟨digits, exponent, few, low, value⟩ := held
  rw [abs_of_pos pos] at value
  have place := heldPlace pos few low value
  obtain ⟨gap, same⟩ : ∃ gap : Nat, exponent = format.place q + gap :=
    ⟨(exponent - format.place q).toNat, by omega⟩
  have scale := twoPos (format.place q)
  have whole : q / 2 ^ format.place q = ((digits * 2 ^ gap : Nat) : ℚ) := by
    rw [div_eq_iff scale.ne']
    conv_lhs => rw [value, same, zpow_add₀ (by norm_num), zpow_natCast]
    push_cast
    ring
  rw [nearestMagnitude, whole, roundEvenNat, ← whole, div_mul_cancel₀ _ scale.ne']

theorem nearestExact (held : format.Held q) : format.nearest q = q := by
  unfold nearest
  split
  · rename_i negative
    rw [magnitudeExact (neg_pos.mpr negative) (heldNeg held), neg_neg]
  · rename_i above
    rcases (not_lt.mp above).eq_or_lt with rfl | pos
    · have zero : roundEven 0 = 0 := roundEvenNat 0
      simp [nearestMagnitude, zero]
    · exact magnitudeExact pos held

theorem heldLeast (held : format.Held q) (nonzero : q ≠ 0) : 2 ^ format.lowest ≤ |q| := by
  obtain ⟨digits, exponent, -, low, value⟩ := held
  have some : 1 ≤ digits := by
    rcases Nat.eq_zero_or_pos digits with rfl | some
    · rw [Nat.cast_zero, zero_mul, abs_eq_zero] at value
      exact absurd value nonzero
    · exact some
  have cast : (1 : ℚ) ≤ digits := by exact_mod_cast some
  calc (2 : ℚ) ^ format.lowest ≤ 2 ^ exponent := zpow_le_zpow_right₀ (by norm_num) low
    _ = 1 * 2 ^ exponent := (one_mul _).symm
    _ ≤ digits * 2 ^ exponent := mul_le_mul_of_nonneg_right cast (twoPos exponent).le
    _ = |q| := value.symm

end BinaryFormat

end SeedOrigin.BinaryRounding
