import Mathlib.Logic.Function.Basic
import Mathlib.Data.List.Nodup

/-! Items offered to a list of receivers in rounds, where the first receiver that
cannot take an item ends everything. Each receiver's state depends only on its
own deliveries, so who gets what is decided by how far each could go alone. -/
namespace SeedOrigin.Rounds

section
variable {ι κ σ : Type} [DecidableEq κ] (deliver : ι → κ → σ → Option σ)

def offer (item : ι) : List κ → (κ → σ) → (κ → σ) × Bool
  | [], state => (state, true)
  | k :: keys, state => match deliver item k (state k) with
    | none => (state, false)
    | some next => offer item keys (Function.update state k next)

def rounds : List ι → List κ → (κ → σ) → (κ → σ) × Bool
  | [], _, state => (state, true)
  | item :: items, keys, state => match offer deliver item keys state with
    | (state, false) => (state, false)
    | (state, true) => rounds items keys state

def served (k : κ) : List ι → σ → Option σ
  | [], s => some s
  | item :: items, s => (deliver item k s).bind (served k items)

theorem offerOutside {k : κ} (item : ι) {keys : List κ} (state : κ → σ) (out : k ∉ keys) :
    (offer deliver item keys state).1 k = state k := by
  induction keys generalizing state with
  | nil => rfl
  | cons j keys ih =>
    obtain ⟨different, later⟩ : k ≠ j ∧ k ∉ keys := by simpa using out
    simp only [offer]
    split
    · rfl
    · rw [ih _ later, Function.update_of_ne different]

theorem offerAll (item : ι) {keys : List κ} (nodup : keys.Nodup) (state : κ → σ) :
    (offer deliver item keys state).2 = true ↔ ∀ j ∈ keys, (deliver item j (state j)).isSome := by
  induction keys generalizing state with
  | nil => simp [offer]
  | cons k keys ih =>
    obtain ⟨out, rest⟩ := List.nodup_cons.mp nodup
    simp only [offer, List.forall_mem_cons]
    cases taken : deliver item k (state k) with
    | none => simp
    | some next =>
      simp only [Option.isSome_some, true_and, ih rest]
      have same : ∀ j ∈ keys, Function.update state k next j = state j := by
        intro j mem
        exact Function.update_of_ne (fun eq => out (by rw [← eq]; exact mem)) _ _
      exact forall₂_congr (fun j mem => by rw [same j mem])

theorem offerTaken (item : ι) {keys : List κ} (nodup : keys.Nodup) (state : κ → σ)
    (all : (offer deliver item keys state).2 = true) {j : κ} (mem : j ∈ keys) :
    some ((offer deliver item keys state).1 j) = deliver item j (state j) := by
  induction keys generalizing state with
  | nil => contradiction
  | cons k keys ih =>
    obtain ⟨out, rest⟩ := List.nodup_cons.mp nodup
    simp only [offer] at all ⊢
    cases taken : deliver item k (state k) with
    | none => simp [taken] at all
    | some next =>
      simp only [taken] at all ⊢
      rcases List.mem_cons.mp mem with rfl | inside
      · rw [offerOutside deliver item _ out, Function.update_self, taken]
      · rw [ih rest _ all inside, Function.update_of_ne (fun eq => out (by rw [← eq]; exact inside))]

theorem offerBefore (item : ι) {front back : List κ} {k : κ} (nodup : (front ++ k :: back).Nodup)
    (state : κ → σ) (can : (deliver item k (state k)).isSome) :
    some ((offer deliver item (front ++ k :: back) state).1 k) =
      if ∀ j ∈ front, (deliver item j (state j)).isSome then deliver item k (state k)
      else some (state k) := by
  induction front generalizing state with
  | nil =>
    have out := (List.nodup_cons.mp nodup).1
    obtain ⟨next, taken⟩ := Option.isSome_iff_exists.mp can
    simp only [List.nil_append, offer, taken]
    rw [offerOutside deliver item _ out]
    simp
  | cons j front ih =>
    obtain ⟨out, rest⟩ := List.nodup_cons.mp nodup
    have different : k ≠ j := fun eq => out (by simp [eq])
    simp only [List.cons_append, offer, List.forall_mem_cons]
    cases taken : deliver item j (state j) with
    | none => simp
    | some next =>
      have here : Function.update state j next k = state k := Function.update_of_ne different _ _
      have same : ∀ i ∈ front, Function.update state j next i = state i := by
        intro i mem
        exact Function.update_of_ne (fun eq => out (by simp [← eq, mem])) _ _
      have later := ih rest (Function.update state j next) (by rw [here]; exact can)
      rw [later, here]
      have front : (∀ i ∈ front, (deliver item i (Function.update state j next i)).isSome) ↔
          ∀ i ∈ front, (deliver item i (state i)).isSome :=
        forall₂_congr (fun i mem => by rw [same i mem])
      simp only [front, Option.isSome_some, true_and]

theorem offerPrefix (item : ι) {keys : List κ} (nodup : keys.Nodup) (state : κ → σ) (k : κ) :
    (offer deliver item keys state).1 k = state k ∨
      some ((offer deliver item keys state).1 k) = deliver item k (state k) := by
  induction keys generalizing state with
  | nil => exact .inl rfl
  | cons j keys ih =>
    obtain ⟨out, rest⟩ := List.nodup_cons.mp nodup
    simp only [offer]
    cases taken : deliver item j (state j) with
    | none => exact .inl rfl
    | some next =>
      by_cases same : k = j
      · subst same
        right
        rw [offerOutside deliver item _ out, Function.update_self, taken]
      · have later := ih rest (Function.update state j next)
        rwa [Function.update_of_ne same] at later

theorem roundsPrefix {keys : List κ} (nodup : keys.Nodup) (items : List ι) (state : κ → σ) (k : κ)
    (mem : k ∈ keys) : ∃ early late, items = early ++ late ∧
      served deliver k early (state k) = some ((rounds deliver items keys state).1 k) := by
  induction items generalizing state with
  | nil => exact ⟨[], [], rfl, rfl⟩
  | cons item items ih =>
    simp only [rounds]
    cases round : offer deliver item keys state with
    | mk after through =>
      cases through with
      | false =>
        have kept := offerPrefix deliver item nodup state k
        rw [round] at kept
        rcases kept with same | taken
        · exact ⟨[], item :: items, rfl, by rw [served, ← same]⟩
        · exact ⟨[item], items, rfl, by simp [served, ← taken]⟩
      | true =>
        have taken := offerTaken deliver item nodup state (by rw [round]) mem
        rw [round] at taken
        obtain ⟨early, late, split, first⟩ := ih after
        exact ⟨item :: early, late, by rw [split]; rfl, by rw [served, ← taken]; exact first⟩

theorem roundsOutside {k : κ} (items : List ι) {keys : List κ} (state : κ → σ) (out : k ∉ keys) :
    (rounds deliver items keys state).1 k = state k := by
  induction items generalizing state with
  | nil => rfl
  | cons item items ih =>
    have kept := offerOutside deliver item state out
    simp only [rounds]
    split
    · rename_i after round
      rw [round] at kept
      exact kept
    · rename_i after round
      rw [round] at kept
      exact (ih after).trans kept

theorem servedThrough {keys : List κ} (nodup : keys.Nodup) {item : ι} {state after : κ → σ}
    (round : offer deliver item keys state = (after, true)) {j : κ} (mem : j ∈ keys) (rest : List ι) :
    served deliver j (item :: rest) (state j) = served deliver j rest (after j) := by
  have taken := offerTaken deliver item nodup state (by rw [round]) mem
  rw [round] at taken
  rw [served, ← taken, Option.bind_some]

theorem roundStopped {front back : List κ} {k : κ} (nodup : (front ++ k :: back).Nodup) {item : ι}
    {items : List ι} {state after : κ → σ} (round : offer deliver item (front ++ k :: back) state = (after, false))
    {full : σ} (all : served deliver k (item :: items) (state k) = some full)
    (grows : ∀ early late, item :: items = early ++ late → late ≠ [] →
      served deliver k early (state k) ≠ some full) :
    after k = full ↔ (∀ j ∈ front ++ k :: back, (served deliver j (item :: items).dropLast (state j)).isSome) ∧
      ∀ j ∈ front, (served deliver j (item :: items) (state j)).isSome := by
  obtain ⟨next, first, later⟩ := Option.bind_eq_some_iff.mp all
  have kept := offerBefore deliver item nodup state (by rw [first]; rfl)
  rw [round] at kept
  dsimp only at kept
  cases items with
  | nil =>
    have whole : deliver item k (state k) = some full := by simpa [served] using all
    have without : state k ≠ full := by
      intro same
      exact grows [] [item] rfl (by simp) (by rw [served, same])
    simp only [List.dropLast_singleton, served, Option.isSome_some, implies_true, true_and,
      Option.bind_fun_some]
    rw [whole] at kept
    split_ifs at kept with before
    · exact ⟨fun _ => before, fun _ => Option.some.inj kept⟩
    · have same : after k = state k := Option.some.inj kept
      exact ⟨fun eq => absurd (same ▸ eq) without, fun h => absurd h before⟩
  | cons second rest =>
    have short : after k ≠ full := by
      intro eq
      rw [eq] at kept
      split_ifs at kept
      · exact grows [item] (second :: rest) rfl (by simp) (by simpa [served] using kept.symm)
      · exact grows [] (item :: second :: rest) rfl (by simp) (by rw [served, kept])
    have stopped : ¬ ∀ j ∈ front ++ k :: back, (deliver item j (state j)).isSome := by
      rw [← offerAll deliver item nodup state, round]
      simp
    refine ⟨fun eq => absurd eq short, fun h => absurd (fun j mem => ?_) stopped⟩
    have taken := h.1 j mem
    rw [List.dropLast_cons_of_ne_nil (List.cons_ne_nil _ _), served] at taken
    exact Option.isSome_of_isSome_bind taken

theorem roundsExact {front back : List κ} {k : κ} (nodup : (front ++ k :: back).Nodup)
    (items : List ι) (state : κ → σ) {full : σ} (all : served deliver k items (state k) = some full)
    (grows : ∀ early late, items = early ++ late → late ≠ [] →
      served deliver k early (state k) ≠ some full) :
    (rounds deliver items (front ++ k :: back) state).1 k = full ↔
      (∀ j ∈ front ++ k :: back, (served deliver j items.dropLast (state j)).isSome) ∧
      ∀ j ∈ front, (served deliver j items (state j)).isSome := by
  induction items generalizing state with
  | nil => simpa [rounds, served] using all
  | cons item items ih =>
    have here : k ∈ front ++ k :: back := by simp
    have frontIn {j : κ} (mem : j ∈ front) : j ∈ front ++ k :: back := List.mem_append_left _ mem
    simp only [rounds]
    cases round : offer deliver item (front ++ k :: back) state with
    | mk after through =>
    cases through with
    | false => exact roundStopped deliver nodup round all grows
    | true =>
      have step {j : κ} (mem : j ∈ front ++ k :: back) (rest : List ι) :
          served deliver j (item :: rest) (state j) = served deliver j rest (after j) :=
        servedThrough deliver nodup round mem rest
      have grown (early late : List ι) (split : items = early ++ late) (nonempty : late ≠ []) :
          served deliver k early (after k) ≠ some full := by
        rw [← step here]
        exact grows (item :: early) late (by rw [split]; rfl) nonempty
      dsimp only
      rw [ih after ((step here items).symm.trans all) grown]
      cases items with
      | nil =>
        simp only [List.dropLast_nil, List.dropLast_singleton, served, Option.isSome_some,
          implies_true, true_and, true_iff]
        intro j mem
        have taken := offerTaken deliver item nodup state (by rw [round]) (frontIn mem)
        rw [← taken]
        rfl
      | cons second rest =>
        rw [List.dropLast_cons_of_ne_nil (List.cons_ne_nil _ _)]
        exact and_congr (forall₂_congr (fun j mem => by rw [step mem]))
          (forall₂_congr (fun j mem => by rw [step (frontIn mem)]))

end

end SeedOrigin.Rounds
