import Mathlib.Algebra.BigOperators.Group.Finset.Piecewise
import Mathlib.Algebra.Order.Archimedean.Basic
import Mathlib.Algebra.Order.BigOperators.Group.Finset
import Mathlib.Tactic.Linarith
import SeedOrigin.Runs

/-! Distances that are walked down by steps of one length, each along a largest
distance, past zero where the step is the longer of the two. -/
namespace SeedOrigin.FixedSteps
open SeedOrigin.Runs

section
variable {ι K : Type} [DecidableEq ι] [Field K] [LinearOrder K] [IsStrictOrderedRing K]

def Near (step : K) (distances : ι → K) : Prop := ∀ i, distances i ≤ step

def Walk (step : K) (before after : ι → K) : Prop :=
  (after = before ∧ Near step before) ∨
  ∃ i, (∀ j, before j ≤ before i) ∧ after = Function.update before i |before i - step|

structure Approach (step before after : K) : Prop where
  closer : step / 2 ≤ before → after ≤ before
  turned : before < step / 2 → after = before ∨ after = step - before

variable {step : K} {before after : ι → K}

theorem stepLength {d : K} (positive : 0 < step) (nonneg : 0 ≤ d) (near : d ≤ step) :
    |d - step| ≤ step := by
  rw [abs_le]
  constructor <;> linarith

theorem walkApproach (positive : 0 < step) (nonneg : ∀ i, 0 ≤ before i) (walk : Walk step before after)
    (i : ι) : Approach step (before i) (after i) := by
  obtain ⟨rfl, -⟩ | ⟨a, -, rfl⟩ := walk
  · exact ⟨fun _ => le_refl _, fun _ => .inl rfl⟩
  · by_cases here : i = a
    · have least := nonneg a
      rw [here, Function.update_self]
      constructor
      · intro half
        rw [abs_le]
        constructor <;> linarith
      · intro small
        right
        rw [abs_sub_comm]
        exact abs_of_nonneg (by linarith)
    · rw [Function.update_of_ne here]
      exact ⟨fun _ => le_refl _, fun _ => .inl rfl⟩

theorem walkNear (positive : 0 < step) (nonneg : ∀ i, 0 ≤ before i) (walk : Walk step before after)
    (near : Near step before) : Near step after := by
  obtain ⟨rfl, -⟩ | ⟨a, -, rfl⟩ := walk
  · exact near
  · intro i
    by_cases here : i = a
    · rw [here, Function.update_self]
      exact stepLength positive (nonneg a) (near a)
    · rw [Function.update_of_ne here]
      exact near i

section
variable {S E : Type} {next : S → E → S} {distances : S → ι → K} {I : S → Prop}

theorem walksNear (positive : 0 < step) (nonneg : ∀ s i, 0 ≤ distances s i)
    (keeps : ∀ s e, I s → I (next s e))
    (walks : ∀ s e, I s → Walk step (distances s) (distances (next s e))) {s : S} (start : I s)
    (near : Near step (distances s)) (events : List E) : Near step (distances (run next s events)) := by
  induction events generalizing s with
  | nil => exact near
  | cons e events ih =>
    exact ih (keeps s e start) (walkNear positive (nonneg s) (walks s e start) near)

end

variable [Fintype ι]

theorem walkSum (walk : Walk step before after) (far : ¬ Near step before) :
    ∑ i, after i = ∑ i, before i - step := by
  obtain ⟨-, near⟩ | ⟨a, largest, rfl⟩ := walk
  · contradiction
  · obtain ⟨j, beyond⟩ := not_forall.mp far
    have long : step < before a := (not_le.mp beyond).trans_le (largest j)
    rw [abs_of_pos (sub_pos.mpr long), Finset.sum_update_of_mem (Finset.mem_univ a),
      ← Finset.add_sum_erase Finset.univ before (Finset.mem_univ a), Finset.sdiff_singleton_eq_erase]
    ring

variable {S E : Type} {next : S → E → S} {distances : S → ι → K} {I : S → Prop}

theorem walksArrive (positive : 0 < step) (nonneg : ∀ s i, 0 ≤ distances s i)
    (keeps : ∀ s e, I s → I (next s e))
    (walks : ∀ s e, I s → Walk step (distances s) (distances (next s e))) {s : S} (start : I s)
    {events : List E} (enough : ∑ i, distances s i ≤ events.length * step) :
    Near step (distances (run next s events)) := by
  induction events generalizing s with
  | nil =>
    intro i
    have nothing : ∑ i, distances s i ≤ 0 := by simpa using enough
    have part := Finset.single_le_sum (fun j _ => nonneg s j) (Finset.mem_univ i)
    exact part.trans (nothing.trans positive.le)
  | cons e events ih =>
    have walk := walks s e start
    by_cases near : Near step (distances s)
    · exact walksNear positive nonneg keeps walks start near (e :: events)
    · refine ih (keeps s e start) ?_
      rw [walkSum walk near]
      rw [List.length_cons, Nat.cast_succ] at enough
      linarith

end

end SeedOrigin.FixedSteps
