import Mathlib.Logic.Function.Basic

/-! Three tables that belong together: who holds which ticket, which tickets are
active, and where each is seated. -/
namespace SeedOrigin.LinkedTables

section
variable {K S G : Type} [DecidableEq K] [DecidableEq S] {holds holds' : K → Option S}
  {active active' : S → Prop} {seat seat' : S → Option G}

structure Linked (holds : K → Option S) (active : S → Prop) (seat : S → Option G) : Prop where
  sole : ∀ c d s, holds c = some s → holds d = some s → c = d
  held : ∀ s, active s ↔ ∃ c, holds c = some s
  seated : ∀ s, active s ↔ ∃ g, seat s = some g

omit [DecidableEq K] [DecidableEq S] in
theorem linkedSame (linked : Linked holds active seat) (held : holds' = holds)
    (still : ∀ s, active' s ↔ active s) (seats : seat' = seat) : Linked holds' active' seat' := by
  rw [held, seats, show active' = active from funext (fun s => propext (still s))]
  exact linked

theorem linkedJoin (linked : Linked holds active seat) {c : K} {s : S} {g : G} (free : holds c = none)
    (fresh : ¬ active s) (held : holds' = Function.update holds c (some s))
    (now : ∀ r, active' r ↔ r = s ∨ active r) (seats : seat' = Function.update seat s (some g)) :
    Linked holds' active' seat' := by
  have unheld (d : K) : holds d ≠ some s := fun there => fresh ((linked.held s).mpr ⟨d, there⟩)
  subst held seats
  refine ⟨fun d e r left right => ?_, fun r => ?_, fun r => ?_⟩
  · by_cases first : d = c <;> by_cases second : e = c
    · rw [first, second]
    · rw [first, Function.update_self] at left
      rw [Function.update_of_ne second, ← left] at right
      exact absurd right (unheld e)
    · rw [second, Function.update_self] at right
      rw [Function.update_of_ne first, ← right] at left
      exact absurd left (unheld d)
    · rw [Function.update_of_ne first] at left
      rw [Function.update_of_ne second] at right
      exact linked.sole d e r left right
  · rw [now, linked.held]
    constructor
    · rintro (rfl | ⟨d, there⟩)
      · exact ⟨c, Function.update_self ..⟩
      · have other : d ≠ c := by
          rintro rfl
          rw [free] at there
          contradiction
        exact ⟨d, by rw [Function.update_of_ne other, there]⟩
    · rintro ⟨d, there⟩
      by_cases here : d = c
      · rw [here, Function.update_self] at there
        exact .inl (Option.some.inj there).symm
      · rw [Function.update_of_ne here] at there
        exact .inr ⟨d, there⟩
  · rw [now, linked.seated]
    by_cases here : r = s
    · rw [here, Function.update_self]
      exact ⟨fun _ => ⟨g, rfl⟩, fun _ => .inl rfl⟩
    · rw [Function.update_of_ne here]
      exact ⟨fun one => one.resolve_left here, .inr⟩

theorem linkedLeave (linked : Linked holds active seat) {c : K} {s : S} (there : holds c = some s)
    (held : holds' = Function.update holds c none) (now : ∀ r, active' r ↔ r ≠ s ∧ active r)
    (seats : seat' = Function.update seat s none) : Linked holds' active' seat' := by
  subst held seats
  refine ⟨fun d e r left right => ?_, fun r => ?_, fun r => ?_⟩
  · have kept (d : K) (inside : Function.update holds c none d = some r) : holds d = some r := by
      by_cases here : d = c
      · rw [here, Function.update_self] at inside
        contradiction
      · rwa [Function.update_of_ne here] at inside
    exact linked.sole d e r (kept d left) (kept e right)
  · rw [now, linked.held]
    constructor
    · rintro ⟨other, d, mine⟩
      have elsewhere : d ≠ c := by
        rintro rfl
        rw [there] at mine
        exact other (Option.some.inj mine).symm
      exact ⟨d, by rw [Function.update_of_ne elsewhere, mine]⟩
    · rintro ⟨d, mine⟩
      by_cases here : d = c
      · rw [here, Function.update_self] at mine
        contradiction
      · rw [Function.update_of_ne here] at mine
        refine ⟨?_, d, mine⟩
        rintro rfl
        exact here (linked.sole d c r mine there)
  · rw [now, linked.seated]
    by_cases here : r = s
    · rw [here, Function.update_self]
      exact ⟨fun one => absurd rfl one.1, nofun⟩
    · rw [Function.update_of_ne here]
      exact ⟨fun one => one.2, fun one => ⟨here, one⟩⟩

end

end SeedOrigin.LinkedTables
