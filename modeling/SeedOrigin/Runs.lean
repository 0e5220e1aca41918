import Mathlib.Data.List.Basic

/-! Runs of a step function over a list of events: what holds in every state of a
run, what holds of every event it meets, and the invariant that ties them. -/
namespace SeedOrigin.Runs

section
variable {S E : Type} (step : S → E → S)

def run (s : S) (events : List E) : S := events.foldl step s

theorem runAppend (s : S) (first later : List E) :
    run step s (first ++ later) = run step (run step s first) later := List.foldl_append

def Always (Q : S → Prop) (s : S) (events : List E) : Prop :=
  ∀ before after, events = before ++ after → Q (run step s before)

def Along (P : S → E → Prop) (s : S) (events : List E) : Prop :=
  ∀ before e after, events = before ++ e :: after → P (run step s before) e

theorem alwaysCons {Q : S → Prop} {s : S} {e : E} {events : List E} :
    Always step Q s (e :: events) ↔ Q s ∧ Always step Q (step s e) events := by
  constructor
  · intro h
    refine ⟨h [] (e :: events) rfl, ?_⟩
    intro before after split
    exact h (e :: before) after (by rw [split]; rfl)
  · intro h before after split
    cases before with
    | nil => exact h.1
    | cons x before =>
      obtain ⟨rfl, rest⟩ := List.cons.inj split
      exact h.2 before after rest

theorem alongCons {P : S → E → Prop} {s : S} {e : E} {events : List E} :
    Along step P s (e :: events) ↔ P s e ∧ Along step P (step s e) events := by
  constructor
  · intro h
    refine ⟨h [] e events rfl, ?_⟩
    intro before x after split
    exact h (e :: before) x after (by rw [split]; rfl)
  · intro h before x after split
    cases before with
    | nil =>
      obtain ⟨rfl, -⟩ := List.cons.inj split
      exact h.1
    | cons y before =>
      obtain ⟨rfl, rest⟩ := List.cons.inj split
      exact h.2 before x after rest

theorem alongNil (P : S → E → Prop) (s : S) : Along step P s [] := by
  intro before e after split
  simp at split

instance decidableAlong (P : S → E → Prop) [∀ s e, Decidable (P s e)] :
    (s : S) → (events : List E) → Decidable (Along step P s events)
  | s, [] => isTrue (alongNil step P s)
  | s, e :: events =>
    haveI := decidableAlong P (step s e) events
    decidable_of_iff _ (alongCons step).symm

variable {step} {I Q : S → Prop} {P : S → E → Prop}

theorem alongWeaken {P' : S → E → Prop} (weaker : ∀ s e, P s e → P' s e) {s : S} {events : List E}
    (along : Along step P s events) : Along step P' s events :=
  fun before e after split => weaker _ e (along before e after split)

theorem alongAppend {s : S} {first second : List E} (along : Along step P s (first ++ second)) :
    Along step P s first ∧ Along step P (run step s first) second := by
  constructor
  · intro before e after split
    exact along before e (after ++ second) (by rw [split, List.append_assoc]; rfl)
  · intro before e after split
    have there := along (first ++ before) e after (by rw [split, List.append_assoc])
    rwa [runAppend] at there

theorem alongMapped {T : Type} {inner : T → E → T} {f : T → S}
    (same : ∀ t e, step (f t) e = f (inner t e)) {t : T} {events : List E}
    (along : Along step P (f t) events) : Along inner (fun t e => P (f t) e) t events := by
  intro before e after split
  have there := along before e after split
  unfold run at there
  rwa [List.foldl_hom f same] at there

theorem alwaysOf (gives : ∀ s, I s → Q s) (keeps : ∀ s e, I s → P s e → I (step s e)) {s : S}
    (start : I s) {events : List E} (along : Along step P s events) : Always step Q s events := by
  induction events generalizing s with
  | nil =>
    intro before after split
    obtain ⟨rfl, -⟩ := List.append_eq_nil_iff.mp split.symm
    exact gives s start
  | cons e events ih =>
    obtain ⟨here, later⟩ := (alongCons step).mp along
    exact (alwaysCons step).mpr ⟨gives s start, ih (keeps s e start here) later⟩

theorem alongExact {P' : S → E → Prop} (same : ∀ s e, I s → (P s e ↔ P' s e))
    (keeps : ∀ s e, I s → I (step s e)) {s : S} (start : I s) {events : List E} :
    Along step P s events ↔ Along step P' s events := by
  induction events generalizing s with
  | nil => exact iff_of_true (alongNil step P s) (alongNil step P' s)
  | cons e events ih =>
    rw [alongCons, alongCons, same s e start, ih (keeps s e start)]

-- When an event outside the condition spoils the very next state, the
-- condition says exactly which runs are good, among those of allowed events.
theorem alwaysExactAmong {A : E → Prop} (gives : ∀ s, I s → Q s)
    (keeps : ∀ s e, I s → P s e → I (step s e))
    (spoils : ∀ s e, A e → I s → ¬ P s e → ¬ Q (step s e)) {s : S} (start : I s) {events : List E}
    (allowed : ∀ e ∈ events, A e) : Always step Q s events ↔ Along step P s events := by
  refine ⟨?_, alwaysOf gives keeps start⟩
  induction events generalizing s with
  | nil => exact fun _ => alongNil step P s
  | cons e events ih =>
    intro always
    obtain ⟨first, others⟩ := List.forall_mem_cons.mp allowed
    obtain ⟨-, later⟩ := (alwaysCons step).mp always
    have here : P s e := by
      by_contra bad
      exact spoils s e first start bad (later [] events rfl)
    exact (alongCons step).mpr ⟨here, ih (keeps s e start here) others later⟩

theorem alwaysExact (gives : ∀ s, I s → Q s) (keeps : ∀ s e, I s → P s e → I (step s e))
    (spoils : ∀ s e, I s → ¬ P s e → ¬ Q (step s e)) {s : S} (start : I s) {events : List E} :
    Always step Q s events ↔ Along step P s events :=
  alwaysExactAmong (A := fun _ => True) gives keeps (fun s e _ => spoils s e) start
    (fun _ _ => trivial)

end

end SeedOrigin.Runs
