import SeedOrigin.Character
import SeedOrigin.Runs

/-! Status::gainHp and gainMp with every signed 64-bit operation they perform: none
of them overflows, and what is stored is the exact sum cut off at both ends. -/
namespace SeedOrigin.Saturation
open SeedOrigin.Character SeedOrigin.Runs

def minLong : Int := -2 ^ 63

-- The result of a signed operation. Nothing is returned where it does not fit.
def long (result : Int) : Option Int :=
  if minLong ≤ result ∧ result ≤ maxLong then some result else none

-- The body that gainHp and gainMp share.
def gainLong (value amount : Int) : Option Int := do
  if amount > 0 then
    let room ← long (maxLong - amount)
    if value > room then return maxLong
    long (value + amount)
  else if amount < 0 then
    let next ← long (amount + 1)
    let magnitudeWithoutOne ← long (-next)
    if value ≤ magnitudeWithoutOne then return 0
    let reduced ← long (value - magnitudeWithoutOne)
    long (reduced - 1)
  else return value

def saturated (value amount : Int) : Int := max 0 (min (value + amount) maxLong)

structure Stored (status : Status) : Prop where
  hp : 0 ≤ status.hp ∧ status.hp ≤ maxLong
  mp : 0 ≤ status.mp ∧ status.mp ≤ maxLong

inductive Gain where
  | hp (amount : Int64)
  | mp (amount : Int64)

def gained (status : Status) : Gain → Status
  | .hp amount => status.gainHp amount.toInt
  | .mp amount => status.gainMp amount.toInt

theorem longFits {result : Int} (low : minLong ≤ result) (high : result ≤ maxLong) :
    long result = some result := if_pos ⟨low, high⟩

theorem gainSaturated {value : Int} (low : 0 ≤ value) (high : value ≤ maxLong) (amount : Int) :
    gain value amount = saturated value amount := by
  unfold gain saturated
  dsimp only
  split_ifs with more room less small <;> omega

theorem saturatedStored (value amount : Int) :
    0 ≤ saturated value amount ∧ saturated value amount ≤ maxLong := by
  have most : (0 : Int) ≤ maxLong := by decide
  unfold saturated
  omega

theorem gainFits {value : Int} (low : 0 ≤ value) (high : value ≤ maxLong) (amount : Int64) :
    gainLong value amount.toInt = some (saturated value amount.toInt) := by
  have least : minLong = -2 ^ 63 := rfl
  have most : maxLong = 2 ^ 63 - 1 := rfl
  have below := amount.le_toInt
  have above := amount.toInt_lt
  generalize amount.toInt = d at below above
  have exact := gainSaturated low high d
  unfold gain at exact
  unfold gainLong
  rcases lt_trichotomy d 0 with less | rfl | more
  · have next : long (d + 1) = some (d + 1) := longFits (by omega) (by omega)
    have turned : long (-(d + 1)) = some (-(d + 1)) := longFits (by omega) (by omega)
    rw [if_neg (by omega), if_pos less, next]
    rw [if_neg (by omega), if_pos less] at exact
    dsimp only [bind, Option.bind, pure]
    rw [turned]
    dsimp only at exact ⊢
    by_cases small : value ≤ -(d + 1)
    · rw [if_pos small] at exact ⊢
      rw [← exact]
    · rw [if_neg small] at exact ⊢
      have reduced : long (value - -(d + 1)) = some (value - -(d + 1)) :=
        longFits (by omega) (by omega)
      rw [reduced, ← exact]
      exact longFits (by omega) (by omega)
  · rw [if_neg (by decide), if_neg (by decide)] at exact ⊢
    rw [← exact]
    rfl
  · have room : long (maxLong - d) = some (maxLong - d) := longFits (by omega) (by omega)
    rw [if_pos more] at exact ⊢
    rw [room]
    dsimp only [bind, Option.bind, pure]
    by_cases full : value > maxLong - d
    · rw [if_pos full] at exact ⊢
      rw [← exact]
    · rw [if_neg full] at exact ⊢
      rw [← exact]
      exact longFits (by omega) (by omega)

theorem gainedStored {status : Status} (stored : Stored status) (event : Gain) :
    Stored (gained status event) := by
  cases event with
  | hp amount =>
    have next : (status.gainHp amount.toInt).hp = saturated status.hp amount.toInt :=
      gainSaturated stored.hp.1 stored.hp.2 amount.toInt
    exact ⟨by rw [gained, next]; exact saturatedStored .., stored.mp⟩
  | mp amount =>
    have next : (status.gainMp amount.toInt).mp = saturated status.mp amount.toInt :=
      gainSaturated stored.mp.1 stored.mp.2 amount.toInt
    exact ⟨stored.hp, by rw [gained, next]; exact saturatedStored ..⟩

structure Exact (status : Status) (amount : Int64) : Prop where
  hp : status.gainHp amount.toInt = { status with hp := saturated status.hp amount.toInt }
  hpFits : gainLong status.hp amount.toInt = some (saturated status.hp amount.toInt)
  mp : status.gainMp amount.toInt = { status with mp := saturated status.mp amount.toInt }
  mpFits : gainLong status.mp amount.toInt = some (saturated status.mp amount.toInt)

theorem gainsSaturate {status : Status} (stored : Stored status) (events : List Gain) :
    Always gained (fun status => Stored status ∧ ∀ amount, Exact status amount) status events := by
  refine alwaysOf (I := Stored) (P := fun _ _ => True) ?_ (fun _ event still _ => gainedStored still event)
    stored (fun _ _ _ _ => trivial)
  intro status stored
  refine ⟨stored, fun amount => ?_⟩
  obtain ⟨⟨hpLow, hpHigh⟩, mpLow, mpHigh⟩ := stored
  have hp := gainSaturated hpLow hpHigh amount.toInt
  have mp := gainSaturated mpLow mpHigh amount.toInt
  exact
    { hp := by rw [Status.gainHp, hp]
      hpFits := gainFits hpLow hpHigh amount
      mp := by rw [Status.gainMp, mp]
      mpFits := gainFits mpLow mpHigh amount }

theorem gainsSaturateFull :
    Always gained (fun status => Stored status ∧ ∀ amount, Exact status amount)
      ⟨2 ^ 63 - 2, 1⟩ [.hp 2, .mp (-2), .hp Int64.minValue] :=
  gainsSaturate ⟨by decide, by decide⟩ _

end SeedOrigin.Saturation
