import Mathlib.Data.List.Nodup
import SeedOrigin.Maps

/-! Tables: lists of rows no two of which have the same key, what the statements
do to them, and a map that holds the same entries. -/
namespace SeedOrigin.Tables
open SeedOrigin.Maps

section
variable {κ ρ : Type} [DecidableEq κ] {key : ρ → κ} {rows : List ρ} {row : ρ} {k : κ}

variable (key) in
def keyed (k : κ) (row : ρ) : Bool := key row = k

variable (key) in
def select (rows : List ρ) (k : κ) : Option ρ := rows.find? (keyed key k)

variable (key) in
def update (rows : List ρ) (k : κ) (change : ρ → ρ) : List ρ :=
  rows.map fun row => if keyed key k row = true then change row else row

variable (key) in
def delete (rows : List ρ) (k : κ) : List ρ := rows.filter fun row => keyed key k row = false

variable (key) in
def Distinct (rows : List ρ) : Prop := (rows.map key).Nodup

theorem selected (found : select key rows k = some row) : row ∈ rows ∧ key row = k :=
  ⟨List.mem_of_find?_eq_some found, of_decide_eq_true (List.find?_some found :)⟩

theorem selectSome : (select key rows k).isSome = rows.any (keyed key k) :=
  Bool.eq_iff_iff.mpr (List.find?_isSome.trans List.any_eq_true.symm)

theorem selectOf (unique : Distinct key rows) (there : row ∈ rows) : select key rows (key row) = some row := by
  unfold select
  induction rows with
  | nil => contradiction
  | cons first rows ih =>
    obtain ⟨fresh, unique⟩ := List.nodup_cons.mp unique
    obtain rfl | later := List.mem_cons.mp there
    · exact List.find?_cons_of_pos (decide_eq_true rfl)
    · have other : key first ≠ key row := fun same => fresh (same ▸ List.mem_map_of_mem later)
      rw [List.find?_cons_of_neg (by simp [keyed, other])]
      exact ih unique later

theorem selectAppend (absent : select key rows (key row) = none) :
    select key (rows ++ [row]) = Function.update (select key rows) (key row) (some row) := by
  funext j
  unfold select at absent ⊢
  rw [List.find?_append]
  by_cases same : j = key row
  · subst same
    rw [absent, Function.update_self]
    exact List.find?_cons_of_pos (decide_eq_true rfl)
  · rw [Function.update_of_ne same, List.find?_cons_of_neg (by simp [keyed, Ne.symm same])]
    exact Option.or_none

theorem selectUpdate {change : ρ → ρ} (keeps : ∀ row, key (change row) = key row) :
    select key (update key rows k change) =
      Function.update (select key rows) k ((select key rows k).map change) := by
  have alike (row : ρ) : key (if keyed key k row = true then change row else row) = key row := by
    rw [apply_ite key, keeps, ite_self]
  funext j
  unfold select update
  have through : (rows.map fun row => if keyed key k row = true then change row else row).find? (keyed key j) =
      (rows.find? (keyed key j)).map fun row => if keyed key k row = true then change row else row := by
    rw [List.find?_map]
    congr 2
    funext row
    exact congrArg (fun k => decide (k = j)) (alike row)
  rw [through]
  by_cases same : j = k
  · subst same
    rw [Function.update_self]
    cases found : rows.find? (keyed key j) with
    | none => rfl
    | some row => simp [List.find?_some found]
  · rw [Function.update_of_ne same]
    cases found : rows.find? (keyed key j) with
    | none => rfl
    | some row =>
      have other : key row ≠ k := fun is => same ((selected (found :)).2.symm.trans is)
      simp [keyed, other]

theorem selectDelete : select key (delete key rows k) = Function.update (select key rows) k none := by
  funext j
  unfold select delete
  rw [List.find?_filter]
  by_cases same : j = k
  · subst same
    rw [Function.update_self]
    simp
  · rw [Function.update_of_ne same]
    congr 1
    funext row
    by_cases is : key row = j <;> simp [keyed, is, same]

theorem uniqueAppend (unique : Distinct key rows) (absent : select key rows (key row) = none) :
    Distinct key (rows ++ [row]) := by
  unfold Distinct
  rw [List.map_append, List.map_singleton]
  refine List.nodup_append.mpr ⟨unique, List.nodup_singleton _, ?_⟩
  rintro j there last same rfl
  obtain ⟨other, listed, is⟩ := List.mem_map.mp there
  rw [← List.mem_singleton.mp same, ← is, selectOf unique listed] at absent
  contradiction

theorem uniqueUpdate (unique : Distinct key rows) {change : ρ → ρ} (keeps : ∀ row, key (change row) = key row) :
    Distinct key (update key rows k change) := by
  unfold Distinct update
  have same : key ∘ (fun row => if keyed key k row = true then change row else row) = key := by
    funext row
    rw [Function.comp, apply_ite key, keeps, ite_self]
  rw [List.map_map, same]
  exact unique

theorem uniqueDelete (unique : Distinct key rows) : Distinct key (delete key rows k) :=
  unique.sublist (List.filter_sublist.map key)

end

section
variable {κ ρ β : Type} [Ord κ] [Std.TransOrd κ] [Std.LawfulEqOrd κ] [DecidableEq κ] {key : ρ → κ}
  {rows : List ρ} {entries : Std.ExtTreeMap κ β} {row : β → ρ}

structure Holds (key : ρ → κ) (row : β → ρ) (rows : List ρ) (entries : Std.ExtTreeMap κ β) : Prop where
  unique : Distinct key rows
  found : select key rows = fun k => (lookup entries k).map row
  under : ∀ k entry, lookup entries k = some entry → key (row entry) = k

end

end SeedOrigin.Tables
