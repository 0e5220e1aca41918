import Mathlib.Algebra.Order.Group.Int
import Mathlib.Data.List.Basic
import Mathlib.Logic.Function.Basic
import SeedOrigin.Runs

/-! Checks that are counted and locked out: how many of them can fail within any
window of the lockout's length. Nothing is said of how counts and times are kept. -/
namespace SeedOrigin.LockoutWindows
open SeedOrigin.Runs

structure Check (N : Type) where
  username : N
  time : Int
  passed : Bool
  deriving DecidableEq

structure Tally where
  count : Int
  lockedUntil : Int

def Tally.Locked (limit : Int) (tally : Tally) (now : Int) : Prop :=
  limit ≤ tally.count ∧ now < tally.lockedUntil

structure Failed (limit length now : Int) (before after : Tally) : Prop where
  counts : after.count < limit → after.count = before.count + 1
  locks : limit ≤ after.count → after.lockedUntil = now + length

section
variable {N : Type} [DecidableEq N]

def inWindow (u : N) (w length : Int) (check : Check N) : Bool :=
  check.username = u ∧ w ≤ check.time ∧ check.time < w + length

def failedIn (checks : List (Check N)) (u : N) (w length : Int) : Nat :=
  checks.countP (fun check => inWindow u w length check ∧ check.passed = false)

def NoSuccess (checks : List (Check N)) (u : N) (w length : Int) : Prop :=
  ∀ check ∈ checks, inWindow u w length check = true → check.passed = false

structure Within (limit length now : Int) (tally : Tally) (w : Int) (failed : Nat) : Prop where
  bounded : (failed : Int) ≤ max 1 limit
  cases : failed = 0 ∨ w + length ≤ now ∨ (limit ≤ tally.count ∧ w + length ≤ tally.lockedUntil) ∨
    ((failed : Int) ≤ tally.count ∧ tally.count < limit)

structure Kept (limit length : Int) (checks : List (Check N)) (tallies : N → Tally) (now : Int) : Prop where
  past : ∀ check ∈ checks, check.time ≤ now
  nonneg : ∀ u, (tallies u).count < limit → 0 ≤ (tallies u).count
  windows : ∀ u w, NoSuccess checks u w length →
    Within limit length now (tallies u) w (failedIn checks u w length)

variable {limit length now t : Int} {checks : List (Check N)} {tallies : N → Tally}

theorem withinLater {tally : Tally} {w : Int} {failed : Nat} (later : now ≤ t)
    (within : Within limit length now tally w failed) : Within limit length t tally w failed := by
  refine ⟨within.bounded, ?_⟩
  obtain nothing | ended | locked | counted := within.cases
  · exact .inl nothing
  · exact .inr (.inl (ended.trans later))
  · exact .inr (.inr (.inl locked))
  · exact .inr (.inr (.inr counted))

theorem keptLater (kept : Kept limit length checks tallies now) (later : now ≤ t) :
    Kept limit length checks tallies t :=
  ⟨fun check there => (kept.past check there).trans later, kept.nonneg,
    fun u w none => withinLater later (kept.windows u w none)⟩

theorem failedAppend (checks : List (Check N)) (check : Check N) (u : N) (w length : Int) :
    failedIn (checks ++ [check]) u w length =
      failedIn checks u w length + if inWindow u w length check ∧ check.passed = false then 1 else 0 := by
  unfold failedIn
  rw [List.countP_append, List.countP_singleton]
  simp only [decide_eq_true_eq]

theorem noSuccessBefore {check : Check N} {u : N} {w : Int} (none : NoSuccess (checks ++ [check]) u w length) :
    NoSuccess checks u w length :=
  fun other there => none other (List.mem_append_left _ there)

theorem windowOver (kept : Kept limit length checks tallies now) (later : now ≤ t) {u : N} {w : Int}
    (some : failedIn checks u w length ≠ 0) (outside : ¬ (w ≤ t ∧ t < w + length)) : w + length ≤ t := by
  obtain ⟨check, there, inside⟩ := List.countP_pos_iff.mp (Nat.pos_of_ne_zero some)
  simp only [inWindow, decide_eq_true_eq] at inside
  have before := kept.past check there
  by_contra open_
  exact outside ⟨inside.1.2.1.trans (before.trans later), not_le.mp open_⟩

theorem keptPast (kept : Kept limit length checks tallies now) (later : now ≤ t) {check : Check N}
    (here : check.time = t) : ∀ other ∈ checks ++ [check], other.time ≤ t := by
  intro other there
  rcases List.mem_append.mp there with old | new
  · exact (kept.past other old).trans later
  · rw [List.mem_singleton.mp new]
    exact here.le

theorem withinOther (kept : Kept limit length checks tallies now) (later : now ≤ t) {check : Check N}
    {u : N} (other : check.username ≠ u) {w : Int} (none : NoSuccess (checks ++ [check]) u w length) :
    Within limit length t (tallies u) w (failedIn (checks ++ [check]) u w length) := by
  have apart : ¬ (inWindow u w length check = true ∧ check.passed = false) := by
    simp [inWindow, other]
  rw [failedAppend, if_neg apart]
  exact withinLater later (kept.windows u w (noSuccessBefore none))

theorem withinFailed {before after : Tally} (later : now ≤ t) {w : Int} (started : w ≤ t)
    (running : t < w + length) {failed : Nat} (within : Within limit length now before w failed)
    (nonneg : before.count < limit → 0 ≤ before.count) (unlocked : ¬ before.Locked limit t)
    (fails : Failed limit length t before after) : Within limit length t after w (failed + 1) := by
  have few : failed = 0 ∨ ((failed : Int) ≤ before.count ∧ before.count < limit) := by
    obtain nothing | ended | locked | counted := within.cases
    · exact .inl nothing
    · exact absurd running (not_lt.mpr (ended.trans later))
    · exact absurd ⟨locked.1, running.trans_le locked.2⟩ unlocked
    · exact .inr counted
  constructor
  · push_cast
    omega
  · right
    right
    by_cases below : after.count < limit
    · have counts := fails.counts below
      have least := nonneg (by omega)
      right
      push_cast
      omega
    · have locks := fails.locks (not_lt.mp below)
      left
      omega

theorem withinOutside (kept : Kept limit length checks tallies now) (later : now ≤ t) {u : N} {w : Int}
    (none : NoSuccess checks u w length) (outside : ¬ (w ≤ t ∧ t < w + length)) (after : Tally) :
    Within limit length t after w (failedIn checks u w length) := by
  refine ⟨(kept.windows u w none).bounded, ?_⟩
  by_cases nothing : failedIn checks u w length = 0
  · exact .inl nothing
  · exact .inr (.inl (windowOver kept later nothing outside))

theorem keptFailed (kept : Kept limit length checks tallies now) (later : now ≤ t) {u : N} {after : Tally}
    (unlocked : ¬ (tallies u).Locked limit t) (failed : Failed limit length t (tallies u) after) :
    Kept limit length (checks ++ [⟨u, t, false⟩]) (Function.update tallies u after) t where
  past := keptPast kept later rfl
  nonneg := by
    intro v below
    by_cases here : v = u
    · rw [here, Function.update_self] at below ⊢
      have counts := failed.counts below
      have least := kept.nonneg u (by omega)
      omega
    · rw [Function.update_of_ne here] at below ⊢
      exact kept.nonneg v below
  windows := by
    intro v w none
    by_cases here : v = u
    · subst here
      rw [Function.update_self, failedAppend]
      by_cases inside : w ≤ t ∧ t < w + length
      · have counted : inWindow v w length ⟨v, t, false⟩ = true ∧ false = false := by simp [inWindow, inside]
        rw [if_pos counted]
        exact withinFailed later inside.1 inside.2 (kept.windows v w (noSuccessBefore none))
          (kept.nonneg v) unlocked failed
      · have apart : ¬ (inWindow v w length ⟨v, t, false⟩ = true ∧ false = false) := by
          simpa [inWindow] using inside
        rw [if_neg apart]
        exact withinOutside kept later (noSuccessBefore none) inside after
    · rw [Function.update_of_ne here]
      exact withinOther kept later (Ne.symm here) none

theorem keptPassed (kept : Kept limit length checks tallies now) (later : now ≤ t) {u : N} {after : Tally}
    (cleared : after.count = 0) :
    Kept limit length (checks ++ [⟨u, t, true⟩]) (Function.update tallies u after) t where
  past := keptPast kept later rfl
  nonneg := by
    intro v below
    by_cases here : v = u
    · rw [here, Function.update_self]
      exact cleared.ge
    · rw [Function.update_of_ne here] at below ⊢
      exact kept.nonneg v below
  windows := by
    intro v w none
    by_cases here : v = u
    · subst here
      have outside : ¬ (w ≤ t ∧ t < w + length) := by
        intro inside
        have failed := none ⟨v, t, true⟩ (by simp) (by simp [inWindow, inside])
        contradiction
      rw [Function.update_self, failedAppend, if_neg (by simp)]
      exact withinOutside kept later (noSuccessBefore none) outside after
    · rw [Function.update_of_ne here]
      exact withinOther kept later (Ne.symm here) none

end

section
variable {S E : Type} {step : S → E → S} {time : E → Int} {I : S → Int → Prop} {Q : S → Prop}
  {P : S → E → Prop}

structure Rising (time : E → Int) (now : Int) (events : List E) : Prop where
  later : ∀ e ∈ events, now ≤ time e
  ordered : events.Pairwise (fun a b => time a ≤ time b)

end

end SeedOrigin.LockoutWindows
