import Mathlib.Data.List.Induction
import SeedOrigin.Runs

/-! What a run leaves in one place of the state: what the last event that wrote
there wrote, or what was there at the start. -/
namespace SeedOrigin.LastWrites
open SeedOrigin.Runs

section
variable {S E V : Type} (step : S → E → S) (look : S → V) (writes : S → E → Option V)

def Writes : Prop := ∀ s e, look (step s e) = (writes s e).getD (look s)

def Quiet (s : S) (events : List E) : Prop := Along step (fun s e => writes s e = none) s events

structure LastWrote (s : S) (events before : List E) (e : E) (after : List E) (v : V) : Prop where
  split : events = before ++ e :: after
  wrote : writes (run step s before) e = some v
  quiet : Quiet step writes (run step s (before ++ [e])) after

variable {step look writes} {s : S}

theorem quietAppend {first second : List E} (quiet : Quiet step writes s first)
    (later : Quiet step writes (run step s first) second) : Quiet step writes s (first ++ second) := by
  induction first generalizing s with
  | nil => exact later
  | cons e first ih =>
    obtain ⟨here, rest⟩ := (alongCons step).mp quiet
    exact (alongCons step).mpr ⟨here, ih rest later⟩

theorem quietKeeps (each : Writes step look writes) {events : List E} (quiet : Quiet step writes s events) :
    look (run step s events) = look s := by
  induction events generalizing s with
  | nil => rfl
  | cons e events ih =>
    obtain ⟨here, later⟩ := (alongCons step).mp quiet
    have first := each s e
    rw [here] at first
    exact (ih later).trans first

theorem wroteLast (each : Writes step look writes) {events before after : List E} {e : E} {v : V}
    (last : LastWrote step writes s events before e after v) : look (run step s events) = v := by
  have here := each (run step s before) e
  rw [last.wrote] at here
  have whole : run step s events = run step (run step s (before ++ [e])) after := by
    rw [last.split, List.append_cons, runAppend]
  rw [whole, quietKeeps each last.quiet, runAppend]
  exact here

variable (step writes s) in
theorem lastCases (events : List E) : Quiet step writes s events ∨
    ∃ before e after v, LastWrote step writes s events before e after v := by
  have nothing (s : S) : Quiet step writes s [] := alongNil step _ s
  induction events using List.reverseRecOn with
  | nil => exact .inl (nothing s)
  | append_singleton events e ih =>
    cases here : writes (run step s events) e with
    | some v => exact .inr ⟨events, e, [], v, rfl, here, nothing _⟩
    | none =>
      have alone : Quiet step writes (run step s events) [e] := (alongCons step).mpr ⟨here, nothing _⟩
      obtain quiet | ⟨before, x, after, v, last⟩ := ih
      · exact .inl (quietAppend quiet alone)
      · refine .inr ⟨before, x, after ++ [e], v, ?_, last.wrote, quietAppend last.quiet ?_⟩
        · rw [last.split, List.append_assoc]
          rfl
        · have whole : events = before ++ [x] ++ after := last.split.trans (List.append_cons ..)
          have there : run step (run step s (before ++ [x])) after = run step s events := by
            rw [← runAppend, ← whole]
          rw [there]
          exact alone

theorem valueSince (each : Writes step look writes) {events : List E} {v : V} :
    look (run step s events) = v ↔ (look s = v ∧ Quiet step writes s events) ∨
      ∃ before e after, LastWrote step writes s events before e after v := by
  constructor
  · intro is
    obtain quiet | ⟨before, e, after, w, last⟩ := lastCases step writes s events
    · exact .inl ⟨(quietKeeps each quiet).symm.trans is, quiet⟩
    · rw [wroteLast each last] at is
      exact .inr ⟨before, e, after, is ▸ last⟩
  · rintro (⟨rfl, quiet⟩ | ⟨before, e, after, last⟩)
    · exact quietKeeps each quiet
    · exact wroteLast each last

end

end SeedOrigin.LastWrites
