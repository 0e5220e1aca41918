import SeedOrigin.Ether
import SeedOrigin.Runs

/-! EnvironmentEther over any history of additions, spells and decays, in exact
arithmetic. -/
namespace SeedOrigin.EtherHistory
open SeedOrigin.Octets SeedOrigin.Numbers SeedOrigin.Ether SeedOrigin.Runs

inductive EtherCall where
  | add (channel : EtherAttribute) (amount : ℚ)
  | resolveSpell (element : Bytes) (basePower : ℚ)
  | decay

def callEther (ether : EnvironmentEther ℚ) : EtherCall → EnvironmentEther ℚ
  | .add channel amount => (add ether channel amount).getD ether
  | .resolveSpell element basePower => (resolveSpell ether element basePower).1
  | .decay => decay ether

def Bounded (ether : EnvironmentEther ℚ) : Prop := ∀ channel, |ether.value channel| ≤ 100000

structure Ranges (ether : EnvironmentEther ℚ) : Prop where
  bounded : Bounded ether
  conductivity : ∀ channel, 1 ≤ conductivity ether channel ∧ conductivity ether channel ≤ 2
  instability : 0 ≤ instability ether ∧ instability ether ≤ 10
  severity : 0 ≤ adverseEffectSeverity ether ∧ adverseEffectSeverity ether ≤ 9

structure Cast (ether : EnvironmentEther ℚ) (element : Bytes) (basePower : ℚ) : Prop where
  refused : ∀ error, (resolveSpell ether element basePower).2 = .error error →
    (resolveSpell ether element basePower).1 = ether
  accepted : ∀ effectivePower, (resolveSpell ether element basePower).2 = .ok effectivePower →
    ∃ channel, attributeForElement element = some channel ∧
      effectivePower = basePower * conductivity ether channel ∧
      basePower ≤ effectivePower ∧ effectivePower ≤ 2 * basePower ∧
      ∀ other, other ≠ channel → other ≠ opposing channel →
        (resolveSpell ether element basePower).1.value other = ether.value other

structure Decays (ether : EnvironmentEther ℚ) : Prop where
  shrinks : ∀ channel, |(decay ether).value channel| ≤ |ether.value channel|
  sign : ∀ channel, SignType.sign ((decay ether).value channel) = SignType.sign (ether.value channel)

theorem leastMin (x y : ℚ) : least x y = min x y := by
  simp only [least, FloatOps.lt, decide_eq_true_eq]
  split_ifs with less
  · exact (min_eq_right less.le).symm
  · exact (min_eq_left (not_lt.mp less)).symm

theorem greatestMax (x y : ℚ) : greatest x y = max x y := by
  simp only [greatest, FloatOps.lt, decide_eq_true_eq]
  split_ifs with less
  · exact (max_eq_right less.le).symm
  · exact (max_eq_left (not_lt.mp less)).symm

theorem conductivityExact (ether : EnvironmentEther ℚ) (channel : EtherAttribute) :
    conductivity ether channel = 1 + min (|ether.value channel| / 100) 1 := by
  unfold conductivity
  rw [leastMin]
  rfl

theorem instabilityExact (ether : EnvironmentEther ℚ) :
    instability ether =
      min ((|ether.fire| + |ether.water| + |ether.earth| + |ether.air|) / 200) 10 := by
  unfold instability
  rw [leastMin]
  simp [FloatOps.lit, FloatOps.add, FloatOps.abs, FloatOps.div]

theorem severityMax (ether : EnvironmentEther ℚ) :
    adverseEffectSeverity ether = max 0 (instability ether - 1) := by
  unfold adverseEffectSeverity
  rw [greatestMax]
  rfl

theorem addExact (ether : EnvironmentEther ℚ) (channel : EtherAttribute) (amount : ℚ) :
    add ether channel amount =
      some (ether.setValue channel (max (-100000) (min 100000 (ether.value channel + amount)))) := by
  unfold add
  rw [leastMin, greatestMax]
  rfl

theorem setValueSame (ether : EnvironmentEther ℚ) (channel : EtherAttribute) (value : ℚ) :
    (ether.setValue channel value).value channel = value := by
  cases channel <;> rfl

theorem setValueOther (ether : EnvironmentEther ℚ) {channel other : EtherAttribute}
    (apart : other ≠ channel) (value : ℚ) :
    (ether.setValue channel value).value other = ether.value other := by
  cases channel <;> cases other <;> first | rfl | contradiction

theorem decayExact (ether : EnvironmentEther ℚ) (channel : EtherAttribute) :
    (decay ether).value channel = ether.value channel * (98 / 100) := by
  cases channel <;> rfl

theorem addBounded {ether after : EnvironmentEther ℚ} (bounded : Bounded ether)
    {channel : EtherAttribute} {amount : ℚ} (added : add ether channel amount = some after) :
    Bounded after := by
  rw [addExact] at added
  obtain rfl := Option.some.inj added
  intro other
  by_cases same : other = channel
  · rw [same, setValueSame, abs_le]
    exact ⟨le_max_left _ _, max_le (by norm_num) (min_le_left _ _)⟩
  · rw [setValueOther ether same]
    exact bounded other

theorem castCases (ether : EnvironmentEther ℚ) (element : Bytes) (basePower : ℚ) :
    (∃ error, resolveSpell ether element basePower = (ether, .error error)) ∨
    ∃ channel influenced after, attributeForElement element = some channel ∧ 0 < basePower ∧
      add ether channel (basePower * (1 / 10)) = some influenced ∧
      add influenced (opposing channel) (-(basePower * (1 / 10)) * (1 / 4)) = some after ∧
      resolveSpell ether element basePower = (after, .ok (basePower * conductivity ether channel)) := by
  unfold resolveSpell
  cases known : attributeForElement element with
  | none => exact .inl ⟨_, rfl⟩
  | some channel =>
    dsimp only
    split
    · exact .inl ⟨_, rfl⟩
    · rename_i valid
      have positive : 0 < basePower := by
        simpa [FloatOps.isFinite, FloatOps.le, FloatOps.lit] using valid
      rw [if_neg (by simp [FloatOps.isFinite])]
      simp only [FloatOps.mul, FloatOps.neg, FloatOps.lit]
      rw [addExact]
      dsimp only
      rw [addExact]
      exact .inr ⟨channel, _, _, rfl, positive, addExact .., addExact .., rfl⟩

theorem callBounded {ether : EnvironmentEther ℚ} (bounded : Bounded ether) (call : EtherCall) :
    Bounded (callEther ether call) := by
  cases call with
  | add channel amount =>
    simp only [callEther]
    cases added : add ether channel amount with
    | none => exact bounded
    | some after => exact addBounded bounded added
  | resolveSpell element basePower =>
    simp only [callEther]
    obtain ⟨error, refused⟩ | ⟨channel, influenced, after, -, -, first, second, cast⟩ :=
      castCases ether element basePower
    · rw [refused]
      exact bounded
    · rw [cast]
      exact addBounded (addBounded bounded first) second
  | decay =>
    intro channel
    have old := bounded channel
    rw [callEther, decayExact, abs_mul, abs_of_pos (by norm_num : (0 : ℚ) < 98 / 100)]
    linarith [abs_nonneg (ether.value channel)]

theorem conductivityRange (ether : EnvironmentEther ℚ) (channel : EtherAttribute) :
    1 ≤ conductivity ether channel ∧ conductivity ether channel ≤ 2 := by
  have ratio : 0 ≤ |ether.value channel| / 100 := by positivity
  rw [conductivityExact]
  constructor
  · linarith [le_min ratio zero_le_one]
  · linarith [min_le_right (|ether.value channel| / 100) 1]

theorem conductivityMonotone {ether other : EnvironmentEther ℚ} {channel channel' : EtherAttribute}
    (farther : |ether.value channel| ≤ |other.value channel'|) :
    conductivity ether channel ≤ conductivity other channel' := by
  rw [conductivityExact, conductivityExact]
  gcongr

theorem boundedRanges {ether : EnvironmentEther ℚ} (bounded : Bounded ether) : Ranges ether := by
  have total : 0 ≤ |ether.fire| + |ether.water| + |ether.earth| + |ether.air| := by positivity
  have low : 0 ≤ instability ether := by
    rw [instabilityExact]
    exact le_min (by positivity) (by norm_num)
  have high := instabilityBound ether
  refine ⟨bounded, conductivityRange ether, ⟨low, high⟩, ?_⟩
  rw [severityMax]
  exact ⟨le_max_left _ _, max_le (by norm_num) (by linarith)⟩

theorem spellCast (ether : EnvironmentEther ℚ) (element : Bytes) (basePower : ℚ) :
    Cast ether element basePower := by
  obtain ⟨error, refused⟩ | ⟨channel, influenced, after, known, positive, first, second, cast⟩ :=
    castCases ether element basePower
  · constructor
    · intro _ _
      rw [refused]
    · intro effectivePower made
      rw [refused] at made
      contradiction
  · constructor
    · intro error made
      rw [cast] at made
      contradiction
    · intro effectivePower made
      rw [cast] at made ⊢
      obtain rfl := Except.ok.inj made
      obtain ⟨low, high⟩ := conductivityRange ether channel
      refine ⟨channel, known, rfl, ?_, ?_, fun other apart unopposed => ?_⟩
      · exact le_mul_of_one_le_right positive.le low
      · rw [mul_comm 2]
        exact mul_le_mul_of_nonneg_left high positive.le
      · rw [addExact] at first second
        obtain rfl := Option.some.inj first
        obtain rfl := Option.some.inj second
        rw [setValueOther _ unopposed, setValueOther _ apart]

theorem decayDecays (ether : EnvironmentEther ℚ) : Decays ether where
  shrinks channel := by
    rw [decayExact, abs_mul, abs_of_pos (by norm_num : (0 : ℚ) < 98 / 100)]
    linarith [abs_nonneg (ether.value channel)]
  sign channel := by
    rw [decayExact, sign_mul, sign_pos (by norm_num : (0 : ℚ) < 98 / 100), mul_one]

theorem etherAlways (calls : List EtherCall) :
    Always callEther (fun ether => Ranges ether ∧ Decays ether ∧
      (∀ element basePower, Cast ether element basePower) ∧
      ∀ (other : EnvironmentEther ℚ) (channel channel' : EtherAttribute),
        |ether.value channel| ≤ |other.value channel'| →
          conductivity ether channel ≤ conductivity other channel')
      EnvironmentEther.initial calls := by
  have start : Bounded EnvironmentEther.initial := by
    intro channel
    have zero : (EnvironmentEther.initial : EnvironmentEther ℚ).value channel = 0 := by
      cases channel <;> rfl
    rw [zero, abs_zero]
    norm_num
  refine alwaysOf (I := Bounded) (P := fun _ _ => True) ?_ (fun _ call bounded _ => callBounded bounded call)
    start (fun _ _ _ _ => trivial)
  intro ether bounded
  exact ⟨boundedRanges bounded, decayDecays ether, spellCast ether,
    fun other channel channel' => conductivityMonotone⟩

end SeedOrigin.EtherHistory
