import Mathlib.Data.List.Nodup
import SeedOrigin.Maps

/-! A loop over keys whose rounds each change the entry of their own key only. -/
namespace SeedOrigin.Sweeps
open SeedOrigin.Maps

section
variable {S K V : Type} [DecidableEq K] {step : S → K → S} {f : S → K → Option V}
  {change : K → Option V → Option V}

theorem sweep (one : ∀ s k, f (step s k) = Function.update (f s) k (change k (f s k)))
    {keys : List K} (nodup : keys.Nodup) (s : S) (k : K) :
    f (keys.foldl step s) k = if k ∈ keys then change k (f s k) else f s k := by
  induction keys generalizing s with
  | nil => rfl
  | cons j keys ih =>
    obtain ⟨out, rest⟩ := List.nodup_cons.mp nodup
    rw [List.foldl_cons, ih rest, one]
    by_cases same : k = j
    · subst same
      rw [if_neg out, if_pos List.mem_cons_self, Function.update_self]
    · rw [Function.update_of_ne same]
      simp only [List.mem_cons, same, false_or]

theorem sweepAll (one : ∀ s k, f (step s k) = Function.update (f s) k (change k (f s k)))
    (absent : ∀ k, change k none = none) {keys : List K} (nodup : keys.Nodup) {s : S}
    (every : ∀ k v, f s k = some v → k ∈ keys) (k : K) :
    f (keys.foldl step s) k = change k (f s k) := by
  rw [sweep one nodup]
  split
  · rfl
  · rename_i out
    cases there : f s k with
    | none => exact (absent k).symm
    | some v => exact absurd (every k v there) out

end

end SeedOrigin.Sweeps
