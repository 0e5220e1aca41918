import SeedOrigin.Significant

/-! The operations the server performs on float and double values. Nothing is
assumed about them; the rationals are the instance without rounding. -/
namespace SeedOrigin.Numbers
open SeedOrigin.Octets

class FloatOps (F : Type) where
  lit : ℚ → F
  add : F → F → F
  sub : F → F → F
  mul : F → F → F
  div : F → F → F
  neg : F → F
  abs : F → F
  lt : F → F → Bool
  le : F → F → Bool
  isFinite : F → Bool
  -- Conversion to an integer type, towards zero.
  truncate : F → Int
  -- The ceiling of a quotient taken in double precision, if it is finite.
  ceilQuotient : F → Nat → Option Int
  -- What an output stream writes.
  text : F → Bytes
  -- What an input stream extracts.
  scan : Bytes → Option (F × Bytes)

instance rationalOps : FloatOps ℚ where
  lit q := q
  add x y := x + y
  sub x y := x - y
  mul x y := x * y
  div x y := x / y
  neg x := -x
  abs x := |x|
  lt x y := x < y
  le x y := x ≤ y
  isFinite _ := true
  truncate x := if x < 0 then -⌊-x⌋ else ⌊x⌋
  ceilQuotient x n := some ⌈x / n⌉
  text := Significant.text
  scan := Significant.scan

section
variable {F : Type} [FloatOps F]
open FloatOps

-- std::min returns its first argument when the two are equal.
def least (x y : F) : F := if lt y x then y else x

def greatest (x y : F) : F := if lt x y then y else x

-- An extraction that must reach the end of the text and give a finite value.
def parseFinite (text : Bytes) : Option F :=
  match Decimal.whole (scan text) with
  | some value => if isFinite value then some value else none
  | none => none

end

end SeedOrigin.Numbers
