import SeedOrigin.Numbers

/-! EnvironmentEther: four attribute values, the instability they add up to and
the hazard that follows from it. -/
namespace SeedOrigin.Ether
open SeedOrigin.Octets SeedOrigin.Numbers
open FloatOps (lit div mul neg lt isFinite)

inductive EtherAttribute where
  | fire | water | earth | air
  deriving DecidableEq, Repr

structure EnvironmentEther (F : Type) where
  fire : F
  water : F
  earth : F
  air : F
  deriving DecidableEq, Repr

def attributeForElement (element : Bytes) : Option EtherAttribute :=
  if element = ascii "fire" then some .fire
  else if element = ascii "water" then some .water
  else if element = ascii "earth" then some .earth
  else if element = ascii "air" then some .air
  else none

def isKnownElement (element : Bytes) : Bool := (attributeForElement element).isSome

section
variable {F : Type} [FloatOps F]

def maxEtherValue : F := lit 100000
def etherDecayFactor : F := lit (98 / 100)

def EnvironmentEther.initial : EnvironmentEther F := ⟨lit 0, lit 0, lit 0, lit 0⟩

def EnvironmentEther.value (ether : EnvironmentEther F) : EtherAttribute → F
  | .fire => ether.fire
  | .water => ether.water
  | .earth => ether.earth
  | .air => ether.air

def EnvironmentEther.setValue (ether : EnvironmentEther F) (channel : EtherAttribute) (value : F) :
    EnvironmentEther F :=
  match channel with
  | .fire => { ether with fire := value }
  | .water => { ether with water := value }
  | .earth => { ether with earth := value }
  | .air => { ether with air := value }

def conductivity (ether : EnvironmentEther F) (channel : EtherAttribute) : F :=
  FloatOps.add (lit 1) (least (div (FloatOps.abs (ether.value channel)) (lit 100)) (lit 1))

def instability (ether : EnvironmentEther F) : F :=
  let total := [ether.fire, ether.water, ether.earth, ether.air].foldl
    (fun sum value => FloatOps.add sum (FloatOps.abs value)) (lit 0)
  least (div total (lit 200)) (lit 10)

def adverseEffectSeverity (ether : EnvironmentEther F) : F :=
  greatest (lit 0) (FloatOps.sub (instability ether) (lit 1))

def hasAdverseEffect (ether : EnvironmentEther F) : Bool := lt (lit 0) (adverseEffectSeverity ether)

def add (ether : EnvironmentEther F) (channel : EtherAttribute) (amount : F) :
    Option (EnvironmentEther F) :=
  if isFinite amount = false then none
  else
    let next := greatest (neg maxEtherValue)
      (least maxEtherValue (FloatOps.add (ether.value channel) amount))
    some (ether.setValue channel next)

def opposing : EtherAttribute → EtherAttribute
  | .fire => .water
  | .water => .fire
  | .earth => .air
  | .air => .earth

-- The state is returned on failure too: the first influence may already have
-- been added when the second is refused.
def resolveSpell (ether : EnvironmentEther F) (element : Bytes) (basePower : F) :
    EnvironmentEther F × Except String F :=
  match attributeForElement element with
  | none => (ether, .error "spell element is unknown")
  | some channel =>
    if isFinite basePower = false ∨ FloatOps.le basePower (lit 0) then
      (ether, .error "spell power is invalid")
    else
      let effectivePower := mul basePower (conductivity ether channel)
      if isFinite effectivePower = false then (ether, .error "spell effective power is invalid")
      else
        let environmentalInfluence := mul basePower (lit (1 / 10))
        match add ether channel environmentalInfluence with
        | none => (ether, .error "spell ether influence is invalid")
        | some ether =>
          match add ether (opposing channel) (mul (neg environmentalInfluence) (lit (1 / 4))) with
          | none => (ether, .error "spell ether interaction is invalid")
          | some ether => (ether, .ok effectivePower)

def decay (ether : EnvironmentEther F) : EnvironmentEther F :=
  { fire := mul ether.fire etherDecayFactor
    water := mul ether.water etherDecayFactor
    earth := mul ether.earth etherDecayFactor
    air := mul ether.air etherDecayFactor }

end

theorem adverseExact (ether : EnvironmentEther ℚ) :
    hasAdverseEffect ether = true ↔ 1 < instability ether := by
  simp only [hasAdverseEffect, adverseEffectSeverity, greatest, lit, lt, FloatOps.sub,
    decide_eq_true_eq]
  split_ifs with above
  · exact ⟨fun h => by linarith, fun h => by linarith⟩
  · exact ⟨fun h => absurd h (lt_irrefl _), fun h => absurd (by linarith) above⟩

theorem severityExact (ether : EnvironmentEther ℚ) (adverse : 1 < instability ether) :
    adverseEffectSeverity ether = instability ether - 1 := by
  have above : (0 : ℚ) < instability ether - 1 := by linarith
  simp [adverseEffectSeverity, greatest, lit, lt, FloatOps.sub, above]

theorem instabilityBound (ether : EnvironmentEther ℚ) : instability ether ≤ 10 := by
  simp only [instability, least, lit, lt, decide_eq_true_eq]
  split_ifs with above
  · exact le_refl _
  · exact not_lt.mp above

end SeedOrigin.Ether
