import Mathlib.Data.Finset.Card
import Mathlib.Data.Int.Interval
import SeedOrigin.Maps

/-! Entries of a numbered table that are put together from parts which come in any
order, and tables that hold exactly the numbers below a count. -/
namespace SeedOrigin.IndexedParts
open SeedOrigin.Maps

section
variable {A P V : Type} (part : A → Option (Int × P)) (read : V → P → Except String V) (empty : V)

def parts (items : List A) (i : Int) : List P :=
  items.filterMap (fun a => (part a).bind (fun numbered => if numbered.1 = i then some numbered.2 else none))

structure Gathered (items : List A) (entries : Std.ExtTreeMap Int V) : Prop where
  made : ∀ i, (parts part items i).foldlM read empty = .ok ((lookup entries i).getD empty)
  there : ∀ i, (lookup entries i).isSome = true ↔ parts part items i ≠ []

variable {part read empty}

theorem partsAppend (items : List A) (a : A) (i : Int) :
    parts part (items ++ [a]) i =
      parts part items i ++ ((part a).bind (fun numbered =>
        if numbered.1 = i then some numbered.2 else none)).toList := by
  unfold parts
  rw [List.filterMap_append]
  cases found : (part a).bind (fun numbered => if numbered.1 = i then some numbered.2 else none) <;>
    simp [found]

theorem partsPass {items : List A} {a : A} (none : part a = .none) (i : Int) :
    parts part (items ++ [a]) i = parts part items i := by
  rw [partsAppend, none]
  exact List.append_nil _

theorem partsForeign {items : List A} {i : Int} (foreign : ∀ a ∈ items, ∀ numbered ∈ part a, numbered.1 ≠ i) :
    parts part items i = [] := by
  refine List.filterMap_eq_nil_iff.mpr (fun a there => Option.bind_eq_none_iff.mpr (fun numbered found => ?_))
  exact if_neg (foreign a there numbered found)

theorem gatheredNil : Gathered part read empty [] ∅ := by
  constructor
  · intro i
    simp [parts, lookup, pure, Except.pure]
  · intro i
    simp [parts, lookup]

theorem gatheredPass {items : List A} {entries : Std.ExtTreeMap Int V} {a : A}
    (gathered : Gathered part read empty items entries) (none : part a = .none) :
    Gathered part read empty (items ++ [a]) entries := by
  constructor
  · intro i
    rw [partsPass none]
    exact gathered.made i
  · intro i
    rw [partsPass none]
    exact gathered.there i

theorem gatheredPart {items : List A} {entries : Std.ExtTreeMap Int V} {a : A} {j : Int} {p : P} {v : V}
    (gathered : Gathered part read empty items entries) (numbered : part a = some (j, p))
    (readOne : read (entries.getD j empty) p = .ok v) :
    Gathered part read empty (items ++ [a]) (entries.insert j v) := by
  have own : parts part (items ++ [a]) j = parts part items j ++ [p] := by
    rw [partsAppend, numbered]
    simp
  have other {i : Int} (foreign : i ≠ j) : parts part (items ++ [a]) i = parts part items i := by
    rw [partsAppend, numbered]
    simp [Ne.symm foreign]
  constructor
  · intro i
    rw [lookupInsert]
    by_cases here : i = j
    · rw [here, Function.update_self, own, List.foldlM_append, gathered.made j]
      rw [Std.ExtTreeMap.getD_eq_getD_getElem?] at readOne
      simp only [bind, Except.bind, List.foldlM_cons, List.foldlM_nil, Option.getD_some]
      rw [show read ((lookup entries j).getD empty) p = .ok v from readOne]
      rfl
    · rw [Function.update_of_ne here, other here]
      exact gathered.made i
  · intro i
    rw [lookupInsert]
    by_cases here : i = j
    · rw [here, Function.update_self, own]
      simp
    · rw [Function.update_of_ne here, other here]
      exact gathered.there i

theorem foldKeeps {α : Type} {proj : V → α} {touches : P → Prop}
    (keeps : ∀ v p v', read v p = .ok v' → ¬ touches p → proj v' = proj v) {ps : List P} {v v' : V}
    (made : ps.foldlM read v = .ok v') (none : ∀ p ∈ ps, ¬ touches p) : proj v' = proj v := by
  induction ps generalizing v with
  | nil =>
    obtain rfl := Except.ok.inj made
    rfl
  | cons p ps ih =>
    rw [List.foldlM_cons] at made
    obtain ⟨here, later⟩ := List.forall_mem_cons.mp none
    cases first : read v p with
    | error e => simp [first, bind, Except.bind] at made
    | ok next =>
      simp only [first, bind, Except.bind] at made
      exact (ih made later).trans (keeps v p next first here)

theorem keysBelow {entries : Std.ExtTreeMap Int V} {n : Nat} (size : entries.size = n)
    (all : ∀ i : Nat, i < n → (lookup entries (i : Int)).isSome = true) {k : Int}
    (there : (lookup entries k).isSome = true) : 0 ≤ k ∧ k < n := by
  have keyed {i : Int} (found : (lookup entries i).isSome = true) : i ∈ entries.keys.toFinset := by
    rw [List.mem_toFinset, Std.ExtTreeMap.mem_keys, Std.ExtTreeMap.mem_iff_isSome_getElem?]
    exact found
  have below : Finset.Ico (0 : Int) n ⊆ entries.keys.toFinset := by
    intro i inside
    rw [Finset.mem_Ico] at inside
    have found := all i.toNat (by omega)
    rw [Int.toNat_of_nonneg inside.1] at found
    exact keyed found
  have few : entries.keys.toFinset.card ≤ (Finset.Ico (0 : Int) n).card := by
    rw [Int.card_Ico]
    exact (List.toFinset_card_le _).trans (by rw [Std.ExtTreeMap.length_keys, size]; omega)
  have same := Finset.eq_of_subset_of_card_le below few
  rw [← Finset.mem_Ico, same]
  exact keyed there

end

end SeedOrigin.IndexedParts
