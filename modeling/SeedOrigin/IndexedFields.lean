import SeedOrigin.ClientInput
import SeedOrigin.FieldText

/-! Lists written as numbered fields and read back through a map from the numbers:
each entry is filled in field by field. -/
namespace SeedOrigin.IndexedFields
open SeedOrigin.Octets SeedOrigin.Decimal SeedOrigin.ClientInput SeedOrigin.FieldText

def keyed (key value : Bytes) : Bytes := key ++ 61 :: value

def numbered (header : Bytes) (index : Nat) (name : Bytes) : Bytes :=
  header ++ (natText index ++ 46 :: name)

theorem keyedCut {key : Bytes} (free : 61 ∉ key) (value : Bytes) :
    cut 61 (keyed key value) = some (key, value) := cutKey free value

theorem keyedNonempty (key value : Bytes) : keyed key value ≠ [] := by simp [keyed]

theorem keyedFree {key value : Bytes} (left : 59 ∉ key) (right : 59 ∉ value) :
    59 ∉ keyed key value := by
  intro there
  rcases List.mem_append.mp there with there | there
  · exact left there
  · rcases List.mem_cons.mp there with bad | there
    · contradiction
    · exact right there

theorem numberedFree {header name : Bytes} {b : UInt8} (other : isDigit b = false) (dot : b ≠ 46)
    (left : b ∉ header) (right : b ∉ name) (index : Nat) : b ∉ numbered header index name := by
  intro there
  rcases List.mem_append.mp there with there | there
  · exact left there
  · rcases List.mem_append.mp there with there | there
    · exact natTextFree index other there
    · rcases List.mem_cons.mp there with bad | there
      · exact dot bad
      · exact right there

section
variable {V : Type}

def placed (entries : IntMap V) (start : Nat) : List V → IntMap V
  | [] => entries
  | v :: rest => placed (entries.insert (start : Int) v) (start + 1) rest

theorem placedAt (values : List V) (entries : IntMap V) (start k : Nat) :
    (placed entries start values)[(k : Int)]? =
      if start ≤ k ∧ k < start + values.length then values[k - start]? else entries[(k : Int)]? := by
  induction values generalizing entries start with
  | nil =>
    have nowhere : ¬ (start ≤ k ∧ k < start + ([] : List V).length) := by simp
    rw [if_neg nowhere]
    rfl
  | cons v values ih =>
    rw [placed, ih]
    by_cases here : k = start
    · subst here
      have later : ¬ (k + 1 ≤ k ∧ k < k + 1 + values.length) := by omega
      rw [if_neg later, if_pos (by simp)]
      simp
    · have other : (start : Int) ≠ (k : Int) := by omega
      rw [Std.ExtTreeMap.getElem?_insert]
      simp only [Std.LawfulEqOrd.compare_eq_iff_eq, other, if_false]
      by_cases inside : start + 1 ≤ k ∧ k < start + 1 + values.length
      · have grown : start ≤ k ∧ k < start + (v :: values).length := by
          simp only [List.length_cons]
          omega
        have back : k - start = (k - (start + 1)) + 1 := by omega
        rw [if_pos inside, if_pos grown, back, List.getElem?_cons_succ]
      · have grown : ¬ (start ≤ k ∧ k < start + (v :: values).length) := by
          simp only [List.length_cons]
          omega
        rw [if_neg inside, if_neg grown]

def Fresh (entries : IntMap V) (start : Nat) : Prop := ∀ k, start ≤ k → (k : Int) ∉ entries

theorem freshInsert {entries : IntMap V} {start : Nat} (fresh : Fresh entries start) (v : V) :
    Fresh (entries.insert (start : Int) v) (start + 1) := by
  intro k above there
  rw [Std.ExtTreeMap.mem_insert] at there
  rcases there with same | old
  · rw [Std.LawfulEqOrd.compare_eq_iff_eq] at same
    omega
  · exact fresh k (by omega) old

theorem placedSize (values : List V) {entries : IntMap V} {start : Nat} (fresh : Fresh entries start) :
    (placed entries start values).size = entries.size + values.length := by
  induction values generalizing entries start with
  | nil => rfl
  | cons v values ih =>
    have absent : ¬ Std.ExtTreeMap.contains entries (start : Int) = true :=
      fun there => fresh start (Nat.le_refl start) (Std.ExtTreeMap.mem_iff_contains.mpr there)
    rw [placed, ih (freshInsert fresh v), Std.ExtTreeMap.size_insert, if_neg absent,
      List.length_cons]
    omega

theorem insertTwice (entries : IntMap V) (index : Int) (first second : V) :
    (entries.insert index first).insert index second = entries.insert index second := by
  ext k v
  simp only [Std.ExtTreeMap.getElem?_insert]
  split <;> rfl

variable {S P ε : Type} {parse : P → Bytes → Except ε P} {wrap : IntMap V → P} {empty : V}

theorem foldEntry {read : V → S → Except ε V} {piece : S → Bytes} {index : Int} {fields : List S}
    (step : ∀ entries, ∀ field ∈ fields, ∀ v, read (entries.getD index empty) field = .ok v →
      parse (wrap entries) (piece field) = .ok (wrap (entries.insert index v)))
    (some : fields ≠ []) {entries : IntMap V} {v : V}
    (made : fields.foldlM read (entries.getD index empty) = .ok v) :
    (fields.map piece).foldlM parse (wrap entries) = .ok (wrap (entries.insert index v)) := by
  induction fields generalizing entries with
  | nil => contradiction
  | cons field fields ih =>
    rw [List.foldlM_cons] at made
    rw [List.map_cons, List.foldlM_cons]
    cases first : read (entries.getD index empty) field with
    | error e => simp [first, bind, Except.bind] at made
    | ok next =>
      have here := step entries field List.mem_cons_self next first
      simp only [first, bind, Except.bind] at made
      simp only [here, bind, Except.bind]
      cases fields with
      | nil =>
        simp only [List.foldlM_nil, pure, Except.pure, Except.ok.injEq] at made
        subst made
        rfl
      | cons other fields =>
        have present : (entries.insert index next).getD index empty = next :=
          Std.ExtTreeMap.getD_insert_self
        have later : (other :: fields).foldlM read ((entries.insert index next).getD index empty) =
            .ok v := by
          rw [present]
          exact made
        have rest := ih (fun entries field there => step entries field (List.mem_cons_of_mem _ there))
          (List.cons_ne_nil _ _) later
        rw [insertTwice] at rest
        exact rest

variable (parse wrap) in
theorem foldEntries {I : Type} (pieces : Nat → I → List Bytes) (value : I → V) (items : List I)
    {entries : IntMap V} {start : Nat} (fresh : Fresh entries start)
    (each : ∀ entries i, ∀ item ∈ items, i < start + items.length → (i : Int) ∉ entries →
      (pieces i item).foldlM parse (wrap entries) =
        .ok (wrap (entries.insert (i : Int) (value item)))) :
    ((items.zipIdx start).flatMap (fun entry => pieces entry.2 entry.1)).foldlM parse (wrap entries) =
      .ok (wrap (placed entries start (items.map value))) := by
  induction items generalizing entries start with
  | nil => rfl
  | cons item items ih =>
    have here := each entries start item List.mem_cons_self (by simp) (fresh start (Nat.le_refl _))
    have rest := ih (freshInsert fresh (value item)) (fun entries i item there inside =>
      each entries i item (List.mem_cons_of_mem _ there) (by simp only [List.length_cons]; omega))
    rw [List.zipIdx_cons, List.flatMap_cons, List.foldlM_append, here]
    simp only [bind, Except.bind]
    rw [rest]
    rfl

theorem readPlaced {values : List V} {entry : Nat → Except ε V} (start : Nat)
    (there : ∀ k v, values[k]? = some v → entry (start + k) = .ok v) :
    (List.range' start values.length).mapM entry = .ok values := by
  induction values generalizing start with
  | nil => rfl
  | cons v values ih =>
    have first := there 0 v rfl
    have rest := ih (start + 1) (fun k w inside => by
      have next := there (k + 1) w inside
      rw [← Nat.add_assoc, Nat.add_right_comm] at next
      exact next)
    rw [List.length_cons, List.range'_succ, List.mapM_cons, rest]
    rw [Nat.add_zero] at first
    rw [first]
    rfl

end

end SeedOrigin.IndexedFields
