import Mathlib.Data.List.Forall2

/-! Lists that are converted element by element, up to the first that cannot be. -/
namespace SeedOrigin.Conversions

section
variable {α β ε : Type} {f : α → Except ε β} {items : List α}

theorem mapMCons {a : α} {made : List β} : (a :: items).mapM f = .ok made ↔
    ∃ b rest, f a = .ok b ∧ items.mapM f = .ok rest ∧ made = b :: rest := by
  rw [List.mapM_cons]
  cases f a with
  | error e => simp [bind, Except.bind]
  | ok b =>
    cases items.mapM f with
    | error e => simp [bind, Except.bind]
    | ok rest => simp [bind, Except.bind, pure, Except.pure, eq_comm]

theorem mapMOk (all : ∀ a ∈ items, ∃ b, f a = .ok b) : ∃ made, items.mapM f = .ok made := by
  induction items with
  | nil => exact ⟨[], rfl⟩
  | cons a items ih =>
    obtain ⟨⟨b, first⟩, others⟩ := List.forall_mem_cons.mp all
    obtain ⟨rest, later⟩ := ih others
    exact ⟨b :: rest, mapMCons.mpr ⟨b, rest, first, later, rfl⟩⟩

theorem mapMLength {made : List β} (h : items.mapM f = .ok made) : made.length = items.length := by
  induction items generalizing made with
  | nil => cases h; rfl
  | cons a items ih =>
    obtain ⟨b, rest, -, later, rfl⟩ := mapMCons.mp h
    rw [List.length_cons, List.length_cons, ih later]

theorem mapMAt {made : List β} (h : items.mapM f = .ok made) {k : Nat} {a : α} (found : items[k]? = some a) :
    ∃ b, made[k]? = some b ∧ f a = .ok b := by
  induction items generalizing made k with
  | nil => simp at found
  | cons c items ih =>
    obtain ⟨b, rest, first, later, rfl⟩ := mapMCons.mp h
    cases k with
    | zero =>
      obtain rfl := Option.some.inj found
      exact ⟨b, rfl, first⟩
    | succ k => exact ih later found

theorem rangeListed {f : Nat → Except ε β} {n : Nat} {made : List β}
    (h : (List.range n).mapM f = .ok made) :
    made.length = n ∧ ∀ i, i < n → ∃ b, made[i]? = some b ∧ f i = .ok b :=
  ⟨(mapMLength h).trans List.length_range, fun _ below => mapMAt h (List.getElem?_range below)⟩

end

theorem pairedAt {α β : Type} {R : α → β → Prop} {items : List α} {made : List β}
    (all : List.Forall₂ R items made) {k : Nat} {a : α} {b : β} (first : items[k]? = some a)
    (second : made[k]? = some b) : R a b := by
  induction all generalizing k with
  | nil => simp at first
  | cons good all ih =>
    cases k with
    | zero =>
      cases Option.some.inj first
      cases Option.some.inj second
      exact good
    | succ k => exact ih first second

theorem pairedWith {α β : Type} {R : α → β → Prop} {items : List α} {made : List β}
    (all : List.Forall₂ R items made) {b : β} (there : b ∈ made) : ∃ a ∈ items, R a b := by
  induction all with
  | nil => contradiction
  | cons good all ih =>
    obtain rfl | later := List.mem_cons.mp there
    · exact ⟨_, List.mem_cons_self, good⟩
    · obtain ⟨a, inside, related⟩ := ih later
      exact ⟨a, List.mem_cons_of_mem _ inside, related⟩

end SeedOrigin.Conversions
