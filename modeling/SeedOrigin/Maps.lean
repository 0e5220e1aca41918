import Std.Data.ExtTreeMap
import Mathlib.Logic.Function.Basic

/-! Ordered maps seen through their lookups, and two maps that are inverse to
each other. -/
namespace SeedOrigin.Maps

section
variable {α β : Type} [Ord α] [Std.TransOrd α] [Std.LawfulEqOrd α] [DecidableEq α]

def lookup (entries : Std.ExtTreeMap α β) (k : α) : Option β := entries[k]?

theorem lookupInsert (entries : Std.ExtTreeMap α β) (k : α) (v : β) :
    lookup (entries.insert k v) = Function.update (lookup entries) k (some v) := by
  funext j
  by_cases same : j = k
  · subst same
    simp [lookup]
  · simp [lookup, Function.update_of_ne same, Std.ExtTreeMap.getElem?_insert, Ne.symm same]

theorem lookupErase (entries : Std.ExtTreeMap α β) (k : α) :
    lookup (entries.erase k) = Function.update (lookup entries) k none := by
  funext j
  by_cases same : j = k
  · subst same
    simp [lookup]
  · simp [lookup, Function.update_of_ne same, Std.ExtTreeMap.getElem?_erase, Ne.symm same]

theorem erasedFound {entries : Std.ExtTreeMap α β} {k j : α} {v : β}
    (found : lookup (entries.erase k) j = some v) : lookup entries j = some v := by
  rw [lookupErase] at found
  by_cases here : j = k
  · rw [here, Function.update_self] at found
    contradiction
  · rwa [Function.update_of_ne here] at found

theorem insertedFound {entries : Std.ExtTreeMap α β} {k j : α} {v w : β}
    (found : lookup (entries.insert k v) j = some w) : j = k ∧ w = v ∨ lookup entries j = some w := by
  rw [lookupInsert] at found
  by_cases here : j = k
  · rw [here, Function.update_self] at found
    exact .inl ⟨here, (Option.some.inj found).symm⟩
  · rw [Function.update_of_ne here] at found
    exact .inr found

end

section
variable {α β : Type} [DecidableEq α] [DecidableEq β] {forth : α → Option β} {back : β → Option α}

def Inverse (forth : α → Option β) (back : β → Option α) : Prop :=
  ∀ a b, forth a = some b ↔ back b = some a

theorem inverseErase (inverse : Inverse forth back) {a : α} {b : β} (there : forth a = some b) :
    Inverse (Function.update forth a none) (Function.update back b none) := by
  intro x y
  by_cases left : x = a
  · subst left
    by_cases right : y = b
    · subst right
      simp
    · have other : back y ≠ some x := by
        intro h
        have twice := (inverse x y).mpr h
        rw [there] at twice
        exact right (Option.some.inj twice).symm
      simp [Function.update_of_ne right, other]
  · by_cases right : y = b
    · subst right
      have other : forth x ≠ some y := by
        intro h
        have first := (inverse x y).mp h
        rw [(inverse a y).mp there] at first
        exact left (Option.some.inj first).symm
      simp [Function.update_of_ne left, other]
    · rw [Function.update_of_ne left, Function.update_of_ne right]
      exact inverse x y

theorem inverseInsert (inverse : Inverse forth back) {a : α} {b : β} (free : forth a = none)
    (unused : back b = none) :
    Inverse (Function.update forth a (some b)) (Function.update back b (some a)) := by
  intro x y
  by_cases left : x = a
  · subst left
    by_cases right : y = b
    · subst right
      simp
    · have other : back y ≠ some x := by
        intro h
        rw [(inverse x y).mpr h] at free
        contradiction
      simp [Function.update_of_ne right, other, Ne.symm right]
  · by_cases right : y = b
    · subst right
      have other : forth x ≠ some y := by
        intro h
        rw [(inverse x y).mp h] at unused
        contradiction
      simp [Function.update_of_ne left, other, Ne.symm left]
    · rw [Function.update_of_ne left, Function.update_of_ne right]
      exact inverse x y

end

end SeedOrigin.Maps
