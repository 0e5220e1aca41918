import SeedOrigin.Decimal

/-! Rationals as an output stream prints them by default, with six significant
digits, and as an input stream reads them. `scanText` says that reading back
gives the value rounded to six digits. -/
namespace SeedOrigin.Significant
open SeedOrigin.Octets SeedOrigin.Decimal

def roundEven (q : ℚ) : Nat :=
  let low := ⌊q⌋₊
  if q - low < 1 / 2 then low
  else if 1 / 2 < q - low then low + 1
  else if low % 2 = 0 then low else low + 1

-- Six-digit coefficient and decimal exponent of the leading digit.
def significant (q : ℚ) : Nat × Int :=
  let exponent := Int.log 10 q
  let coefficient := roundEven (q / 10 ^ (exponent - 5))
  if coefficient = 10 ^ 6 then (10 ^ 5, exponent + 1) else (coefficient, exponent)

def magnitude (q : ℚ) : ℚ := (significant q).1 * 10 ^ ((significant q).2 - 5)

def rounded (q : ℚ) : ℚ :=
  if q = 0 then 0 else if q < 0 then -magnitude (-q) else magnitude q

def isZeroDigit (b : UInt8) : Bool := b = 48

def fraction (places : Bytes) : Bytes :=
  if places.rdropWhile isZeroDigit = [] then [] else 46 :: places.rdropWhile isZeroDigit

def pointText (coefficient places : Nat) : Bytes :=
  natText (coefficient / 10 ^ places) ++ fraction (digits places coefficient)

def exponentText (exponent : Int) : Bytes :=
  101 :: (if exponent < 0 then 45 else 43) ::
    (if exponent.natAbs < 10 then digits 2 exponent.natAbs else natText exponent.natAbs)

def positiveText (q : ℚ) : Bytes :=
  let (coefficient, exponent) := significant q
  if exponent < -4 ∨ 6 ≤ exponent then pointText coefficient 5 ++ exponentText exponent
  else pointText coefficient (5 - exponent).toNat

def text (q : ℚ) : Bytes :=
  if q = 0 then [48] else if q < 0 then 45 :: positiveText (-q) else positiveText q

def scanFraction : Bytes → Bytes × Bytes
  | [] => ([], [])
  | b :: rest =>
    if b = 46 then (rest.takeWhile isDigit, rest.dropWhile isDigit) else ([], b :: rest)

def scanExponent : Bytes → Option (Int × Bytes)
  | [] => some (0, [])
  | b :: rest =>
    if b = 101 ∨ b = 69 then
      (scanNat (scanSign rest).2).map (fun found => (signed (scanSign rest).1 found.1, found.2))
    else some (0, b :: rest)

def scanMagnitude (body : Bytes) : Option (ℚ × Bytes) :=
  let whole := body.takeWhile isDigit
  let (places, tail) := scanFraction (body.dropWhile isDigit)
  if whole = [] ∧ places = [] then none
  else (scanExponent tail).map (fun found =>
    ((readDigits (whole ++ places) : ℚ) / 10 ^ places.length * 10 ^ found.1, found.2))

def scan (raw : Bytes) : Option (ℚ × Bytes) :=
  let (negative, body) := scanSign (skipSpace raw)
  (scanMagnitude body).map (fun found => (if negative then -found.1 else found.1, found.2))

def isNumberByte (b : UInt8) : Bool := isDigit b ∨ b = 43 ∨ b = 45 ∨ b = 46 ∨ b = 101

theorem floorBounds {q : ℚ} (pos : 0 ≤ q) : (⌊q⌋₊ : ℚ) ≤ q ∧ q < ⌊q⌋₊ + 1 :=
  ⟨Nat.floor_le pos, Nat.lt_floor_add_one q⟩

theorem roundEvenLower {q : ℚ} {n : Nat} (h : (n : ℚ) ≤ q) : n ≤ roundEven q := by
  have low : n ≤ ⌊q⌋₊ := Nat.le_floor h
  unfold roundEven
  dsimp only
  split_ifs <;> omega

theorem roundEvenUpper {q : ℚ} {n : Nat} (pos : 0 ≤ q) (h : q ≤ n) : roundEven q ≤ n := by
  have floor := floorBounds pos
  by_cases same : q = n
  · subst same
    simp [roundEven]
  · have below : q < n := lt_of_le_of_ne h same
    have small : ⌊q⌋₊ < n := (Nat.floor_lt pos).mpr below
    unfold roundEven
    dsimp only
    split_ifs <;> omega

theorem roundEvenAbove {q : ℚ} {n : Nat} (pos : (n : ℚ) ≤ q) (even : n % 2 = 0) :
    n < roundEven q ↔ (n : ℚ) + 1 / 2 < q := by
  have floor := floorBounds ((Nat.cast_nonneg n).trans pos)
  have low : n ≤ ⌊q⌋₊ := Nat.le_floor pos
  rcases Nat.lt_or_ge n ⌊q⌋₊ with higher | equal
  · have next : (n : ℚ) + 1 ≤ ⌊q⌋₊ := by exact_mod_cast higher
    have above : n < roundEven q := by
      unfold roundEven
      dsimp only
      split_ifs <;> omega
    exact ⟨fun _ => by linarith, fun _ => above⟩
  · have same : ⌊q⌋₊ = n := le_antisymm equal low
    unfold roundEven
    simp only [same, even, if_true]
    split_ifs with less more
    · exact ⟨fun h => absurd h (lt_irrefl n), fun h => by linarith⟩
    · exact ⟨fun _ => by linarith, fun _ => Nat.lt_succ_self n⟩
    · exact ⟨fun h => absurd h (lt_irrefl n), fun h => absurd (by linarith) more⟩

theorem scaledBounds {q : ℚ} (pos : 0 < q) :
    ((10 ^ 5 : Nat) : ℚ) ≤ q / 10 ^ (Int.log 10 q - 5) ∧
      q / 10 ^ (Int.log 10 q - 5) ≤ ((10 ^ 6 : Nat) : ℚ) := by
  have scale : (0 : ℚ) < 10 ^ (Int.log 10 q - 5) := by positivity
  have low := Int.zpow_log_le_self (b := 10) (by decide) pos
  have high := Int.lt_zpow_succ_log_self (b := 10) (by decide) q
  push_cast at low high ⊢
  constructor
  · rw [le_div_iff₀ scale]
    calc (10 : ℚ) ^ 5 * 10 ^ (Int.log 10 q - 5) = 10 ^ Int.log 10 q := by
          rw [← zpow_natCast, ← zpow_add₀ (by norm_num)]
          congr 1
          omega
      _ ≤ q := low
  · rw [div_le_iff₀ scale]
    calc q ≤ 10 ^ (Int.log 10 q + 1) := high.le
      _ = (10 : ℚ) ^ 6 * 10 ^ (Int.log 10 q - 5) := by
          rw [← zpow_natCast, ← zpow_add₀ (by norm_num)]
          congr 1
          omega

theorem coefficientBounds {q : ℚ} (pos : 0 < q) :
    10 ^ 5 ≤ (significant q).1 ∧ (significant q).1 < 10 ^ 6 := by
  obtain ⟨low, high⟩ := scaledBounds pos
  have below := roundEvenLower low
  have above := roundEvenUpper ((Nat.cast_nonneg _).trans low) high
  unfold significant
  dsimp only
  split_ifs with carry
  · norm_num
  · exact ⟨below, lt_of_le_of_ne above carry⟩

theorem magnitudePos {q : ℚ} (pos : 0 < q) : 0 < magnitude q := by
  have coefficient : 0 < (significant q).1 := lt_of_lt_of_le (by decide) (coefficientBounds pos).1
  have cast : (0 : ℚ) < (significant q).1 := by exact_mod_cast coefficient
  unfold magnitude
  positivity

theorem magnitudeBound {q : ℚ} (pos : 0 < q) : magnitude q ≤ 10 ^ (Int.log 10 q + 1) := by
  have power (n : Nat) (e : Int) : (10 : ℚ) ^ n * 10 ^ (e - 5) = 10 ^ (e + n - 5) := by
    rw [← zpow_natCast, ← zpow_add₀ (by norm_num)]
    congr 1
    omega
  have most := (coefficientBounds pos).2
  unfold magnitude
  unfold significant at most ⊢
  dsimp only at most ⊢
  split_ifs at most ⊢ with carry
  · dsimp only
    rw [Nat.cast_pow, Nat.cast_ofNat, power 5 (Int.log 10 q + 1)]
    exact le_of_eq (by congr 1; omega)
  · have cast : (roundEven (q / 10 ^ (Int.log 10 q - 5)) : ℚ) ≤ 10 ^ 6 := by exact_mod_cast most.le
    calc (roundEven (q / 10 ^ (Int.log 10 q - 5)) : ℚ) * 10 ^ (Int.log 10 q - 5)
        ≤ 10 ^ 6 * 10 ^ (Int.log 10 q - 5) := by gcongr
      _ = 10 ^ (Int.log 10 q + 1) := by
        rw [power 6 (Int.log 10 q)]
        congr 1
        omega

theorem stripped (places : Bytes) : ∃ zeros, places =
    places.rdropWhile isZeroDigit ++ List.replicate zeros 48 := by
  refine ⟨(places.rtakeWhile isZeroDigit).length, ?_⟩
  have zeros : places.rtakeWhile isZeroDigit =
      List.replicate (places.rtakeWhile isZeroDigit).length 48 := by
    refine List.eq_replicate_iff.mpr ⟨rfl, ?_⟩
    intro b mem
    simpa [isZeroDigit] using List.mem_rtakeWhile_imp mem
  rw [← zeros, List.rdropWhile_append_rtakeWhile]

theorem readZeros (raw : Bytes) (zeros : Nat) :
    readDigits (raw ++ List.replicate zeros 48) = readDigits raw * 10 ^ zeros := by
  have none : readDigits (List.replicate zeros 48) = 0 := by
    induction zeros with
    | zero => rfl
    | succ zeros ih =>
      rw [List.replicate_succ', readDigitsAppend, ih]
      simp [readDigits]
  rw [readDigitsAppend, none, List.length_replicate, Nat.add_zero]

theorem placesValue (front places : Bytes) :
    (readDigits (front ++ places.rdropWhile isZeroDigit) : ℚ) /
      10 ^ (places.rdropWhile isZeroDigit).length =
    readDigits (front ++ places) / 10 ^ places.length := by
  obtain ⟨zeros, same⟩ := stripped places
  have value : readDigits (front ++ places) =
      readDigits (front ++ places.rdropWhile isZeroDigit) * 10 ^ zeros := by
    conv_lhs => rw [same]
    rw [← List.append_assoc, readZeros]
  have length : places.length = (places.rdropWhile isZeroDigit).length + zeros := by
    conv_lhs => rw [same]
    rw [List.length_append, List.length_replicate]
  rw [value, length, pow_add]
  push_cast
  rw [mul_div_mul_right _ _ (by positivity)]

theorem readPoint (coefficient places : Nat) :
    readDigits (natText (coefficient / 10 ^ places) ++ digits places coefficient) = coefficient := by
  rw [readDigitsAppend, readNatText, readDigitsWidth, digitsLength, Nat.div_add_mod']

def Ends (rest : Bytes) : Prop := ∀ b ∈ rest.head?, isDigit b = false ∧ b ≠ 46

theorem scanFractionText (places rest : Bytes) (all : ∀ b ∈ places, isDigit b = true)
    (ends : Ends rest) :
    scanFraction (fraction places ++ rest) = (places.rdropWhile isZeroDigit, rest) := by
  have stop : ∀ b ∈ rest.head?, isDigit b = false := fun b mem => (ends b mem).1
  unfold fraction
  split_ifs with none
  · rw [none, List.nil_append]
    cases rest with
    | nil => rfl
    | cons b rest =>
      have point := (ends b rfl).2
      simp only [scanFraction, if_neg point]
  · have kept : ∀ b ∈ places.rdropWhile isZeroDigit, isDigit b = true :=
      fun b mem => all b ((List.rdropWhile_prefix _ _).subset mem)
    obtain ⟨taken, dropped⟩ := takeDigits kept stop
    simp only [List.cons_append, scanFraction, if_true, taken, dropped]

theorem fractionStops (places rest : Bytes) (ends : Ends rest) :
    ∀ b ∈ (fraction places ++ rest).head?, isDigit b = false := by
  unfold fraction
  split_ifs with none
  · exact fun b mem => (ends b mem).1
  · intro b mem
    have point : b = 46 := by simpa [eq_comm] using mem
    rw [point]
    decide

theorem scanPointText (coefficient places : Nat) (rest : Bytes) (ends : Ends rest) :
    scanMagnitude (pointText coefficient places ++ rest) = (scanExponent rest).map (fun found =>
      ((coefficient : ℚ) / 10 ^ places * 10 ^ found.1, found.2)) := by
  obtain ⟨taken, dropped⟩ := takeDigits (natTextDigits (coefficient / 10 ^ places))
    (fractionStops (digits places coefficient) rest ends)
  have point := scanFractionText (digits places coefficient) rest (digitsAreDigits _ _) ends
  have value := placesValue (natText (coefficient / 10 ^ places)) (digits places coefficient)
  rw [readPoint, digitsLength] at value
  have some : ¬ (natText (coefficient / 10 ^ places) = [] ∧
      (digits places coefficient).rdropWhile isZeroDigit = []) :=
    fun none => natTextNonempty _ none.1
  simp only [scanMagnitude, pointText, List.append_assoc, taken, dropped, point, if_neg some, value]

theorem exponentEnds (exponent : Int) : Ends (exponentText exponent) := by
  intro b mem
  have letter : b = 101 := by simpa [exponentText, eq_comm] using mem
  rw [letter]
  decide

theorem exponentDigits (n : Nat) : scanNat (if n < 10 then digits 2 n else natText n) = some (n, []) := by
  split_ifs with short
  · have ends : ∀ b ∈ ([] : Bytes).head?, isDigit b = false := by simp
    obtain ⟨taken, dropped⟩ := takeDigits (digitsAreDigits 2 n) ends
    rw [List.append_nil] at taken dropped
    have value : n % 10 ^ 2 = n := Nat.mod_eq_of_lt (by omega)
    have nonempty : digits 2 n ≠ [] := by simp [digits]
    rw [scanNat, taken, dropped, if_neg nonempty, readDigitsWidth, value]
  · have scanned := scanNatText n [] (by simp)
    rwa [List.append_nil] at scanned

theorem scanExponentText (exponent : Int) :
    scanExponent (exponentText exponent) = some (exponent, []) := by
  have found := exponentDigits exponent.natAbs
  have letter : (101 : UInt8) = 101 ∨ (101 : UInt8) = 69 := .inl rfl
  rw [exponentText, scanExponent, if_pos letter]
  by_cases minus : exponent < 0
  · have sign (body : Bytes) : scanSign (45 :: body) = (true, body) := rfl
    have value : signed true exponent.natAbs = exponent := by simp only [signed, if_true]; omega
    rw [if_pos minus, sign, found, Option.map_some, value]
  · have sign (body : Bytes) : scanSign (43 :: body) = (false, body) := rfl
    have value : signed false exponent.natAbs = exponent := by
      simp only [signed, Bool.false_eq_true, if_false]
      omega
    rw [if_neg minus, sign, found, Option.map_some, value]

theorem scanPositiveText {q : ℚ} : scanMagnitude (positiveText q) = some (magnitude q, []) := by
  unfold positiveText magnitude
  cases parts : significant q with
  | mk coefficient exponent =>
    dsimp only
    split_ifs with wide
    · rw [scanPointText _ _ _ (exponentEnds exponent), scanExponentText, Option.map_some,
        zpow_sub₀ (by norm_num)]
      norm_num
      ring
    · have none : Ends [] := by simp [Ends]
      have scanned := scanPointText coefficient (5 - exponent).toNat [] none
      have places : ((5 - exponent).toNat : Int) = 5 - exponent := by omega
      rw [List.append_nil] at scanned
      rw [scanned, scanExponent, Option.map_some, zpow_zero, mul_one, ← zpow_natCast, places,
        ← neg_sub 5 exponent, zpow_neg, div_eq_mul_inv]

theorem positiveTextStarts (q : ℚ) : ∃ b rest, positiveText q = b :: rest ∧ isDigit b = true := by
  have digit (coefficient places : Nat) (rest : Bytes) :
      ∃ b tail, pointText coefficient places ++ rest = b :: tail ∧ isDigit b = true := by
    unfold pointText
    cases whole : natText (coefficient / 10 ^ places) with
    | nil => exact absurd whole (natTextNonempty _)
    | cons b tail =>
      refine ⟨b, tail ++ fraction _ ++ rest, rfl, ?_⟩
      exact natTextDigits _ b (by rw [whole]; exact List.mem_cons_self)
  unfold positiveText
  dsimp only
  split_ifs with wide
  · exact digit _ _ _
  · have plain := digit (significant q).1 (5 - (significant q).2).toNat []
    rwa [List.append_nil] at plain

theorem scanText (q : ℚ) : scan (text q) = some (rounded q, []) := by
  unfold text rounded
  split_ifs with zero negative
  · decide +kernel
  · have blank : skipSpace (45 :: positiveText (-q)) = 45 :: positiveText (-q) := by
      rw [skipSpace, List.dropWhile_cons_of_neg (by decide)]
    have sign : scanSign (45 :: positiveText (-q)) = (true, positiveText (-q)) := rfl
    simp only [scan, blank, sign, scanPositiveText, Option.map_some, if_true]
  · obtain ⟨b, rest, starts, isDigit⟩ := positiveTextStarts q
    have blank : skipSpace (positiveText q) = positiveText q := by
      rw [starts, skipSpace, List.dropWhile_cons_of_neg (by simp [digitNotSpace isDigit])]
    have sign : scanSign (positiveText q) = (false, positiveText q) := by
      have minus := digitDiffers (c := 45) isDigit (by decide)
      have plus := digitDiffers (c := 43) isDigit (by decide)
      rw [starts, scanSign, if_neg minus, if_neg plus]
    simp only [scan, blank, sign, scanPositiveText, Option.map_some, Bool.false_eq_true, if_false]

theorem digitNumber {b : UInt8} (h : isDigit b = true) : isNumberByte b = true := by
  simp [isNumberByte, h]

theorem pointBytes (coefficient places : Nat) :
    ∀ b ∈ pointText coefficient places, isNumberByte b = true := by
  intro b there
  obtain front | back := List.mem_append.mp there
  · exact digitNumber (natTextDigits _ b front)
  · unfold fraction at back
    split at back
    · contradiction
    · obtain rfl | kept := List.mem_cons.mp back
      · decide
      · exact digitNumber (digitsAreDigits _ _ b ((List.rdropWhile_prefix _ _).subset kept))

theorem exponentBytes (exponent : Int) : ∀ b ∈ exponentText exponent, isNumberByte b = true := by
  have sign : isNumberByte (if exponent < 0 then 45 else 43) = true := by split <;> decide
  intro b there
  unfold exponentText at there
  simp only [List.mem_cons] at there
  obtain rfl | rfl | number := there
  · decide
  · exact sign
  · split at number
    · exact digitNumber (digitsAreDigits _ _ b number)
    · exact digitNumber (natTextDigits _ b number)

theorem positiveBytes (q : ℚ) : ∀ b ∈ positiveText q, isNumberByte b = true := by
  intro b there
  unfold positiveText at there
  dsimp only at there
  split at there
  · obtain front | back := List.mem_append.mp there
    · exact pointBytes _ _ b front
    · exact exponentBytes _ b back
  · exact pointBytes _ _ b there

theorem textBytes (q : ℚ) : ∀ b ∈ text q, isNumberByte b = true := by
  unfold text
  split
  · intro b there
    rw [List.mem_singleton.mp there]
    decide
  · split
    · intro b there
      obtain rfl | there := List.mem_cons.mp there
      · decide
      · exact positiveBytes (-q) b there
    · exact positiveBytes q

theorem textLacks (q : ℚ) {c : UInt8} (other : isNumberByte c = false) : c ∉ text q := by
  intro there
  rw [textBytes q c there] at other
  contradiction

theorem textNonempty (q : ℚ) : text q ≠ [] := by
  intro none
  have scanned := scanText q
  rw [none] at scanned
  contradiction

theorem pointLength {coefficient : Nat} (small : coefficient < 10 ^ 6) (places : Nat) :
    (pointText coefficient places).length ≤ 7 + places := by
  have front : (natText (coefficient / 10 ^ places)).length ≤ 6 :=
    natTextLength (by decide) (lt_of_le_of_lt (Nat.div_le_self _ _) small)
  have kept := (List.rdropWhile_prefix isZeroDigit (digits places coefficient)).length_le
  rw [digitsLength] at kept
  unfold pointText fraction
  split
  · rw [List.append_nil]
    omega
  · rw [List.length_append, List.length_cons]
    omega

theorem exponentLength {exponent : Int} (small : exponent.natAbs < 1000) :
    (exponentText exponent).length ≤ 5 := by
  have number : (if exponent.natAbs < 10 then digits 2 exponent.natAbs
      else natText exponent.natAbs).length ≤ 3 := by
    split
    · rw [digitsLength]
      decide
    · exact natTextLength (Nat.succ_pos 2) small
  unfold exponentText
  rw [List.length_cons, List.length_cons]
  omega

theorem positiveLength {q : ℚ} (pos : 0 < q) (small : (Int.log 10 q).natAbs < 999) :
    (positiveText q).length ≤ 17 := by
  have coefficient := (coefficientBounds pos).2
  have exponent : (significant q).2.natAbs < 1000 := by
    unfold significant
    dsimp only
    split <;> dsimp only <;> omega
  unfold positiveText
  dsimp only
  split
  · have front := pointLength coefficient 5
    have back := exponentLength exponent
    rw [List.length_append]
    omega
  · have whole := pointLength coefficient (5 - (significant q).2).toNat
    omega

theorem textLength {q : ℚ} (small : (Int.log 10 |q|).natAbs < 999) : (text q).length ≤ 18 := by
  unfold text
  split
  · decide
  · rename_i other
    split
    · rename_i negative
      rw [abs_of_neg negative] at small
      have length := positiveLength (neg_pos.mpr negative) small
      rw [List.length_cons]
      omega
    · rename_i above
      have positive : 0 < q := lt_of_le_of_ne (not_lt.mp above) (Ne.symm other)
      rw [abs_of_pos positive] at small
      have length := positiveLength positive small
      omega

end SeedOrigin.Significant
