import Mathlib.Data.List.Basic
import SeedOrigin.Runs

/-! Procedures that touch a shared state one statement at a time, and any number of
them taking turns. A procedure relies on states only moving up in an order, and
guarantees what each of its own statements does. -/
namespace SeedOrigin.Interleaving
open SeedOrigin.Runs

-- A statement reads the state and changes it; what follows knows what was read.
inductive Procedure (S R : Type) where
  | done (result : R)
  | statement (act : S → S) (next : S → Procedure S R)

section
variable {S A B : Type}

def Procedure.bind : Procedure S A → (A → Procedure S B) → Procedure S B
  | .done a, f => f a
  | .statement act next, f => .statement act (fun s => (next s).bind f)

instance : Monad (Procedure S) where
  pure := .done
  bind := .bind

def atomic (f : S → S × A) : Procedure S A := .statement (fun s => (f s).1) (fun s => .done (f s).2)

def Procedure.alone : Procedure S A → S → S × A
  | .done a, s => (s, a)
  | .statement act next, s => (next s).alone (act s)

def Procedure.result : Procedure S A → Option A
  | .done a => some a
  | .statement _ _ => none

theorem resultDone {p : Procedure S A} {a : A} (ends : p.result = some a) : p = .done a := by
  cases p with
  | done b => rw [Option.some.inj ends]
  | statement act next => contradiction

@[simp] theorem alonePure (a : A) (s : S) : (pure a : Procedure S A).alone s = (s, a) := rfl

@[simp] theorem aloneAtomic (f : S → S × A) (s : S) : (atomic f).alone s = f s := rfl

@[simp] theorem aloneBind (p : Procedure S A) (k : A → Procedure S B) (s : S) :
    (p >>= k).alone s = (k (p.alone s).2).alone (p.alone s).1 := by
  change (p.bind k).alone s = _
  induction p generalizing s with
  | done a => rfl
  | statement act next ih => exact ih s (act s)

end

structure Entry (S : Type) where
  task : Nat
  before : S
  after : S

section
variable {S : Type}

def Path : S → List (Entry S) → S → Prop
  | s, [], t => s = t
  | s, e :: log, t => e.before = s ∧ Path e.after log t

theorem pathAppend {s t : S} {first second : List (Entry S)} :
    Path s (first ++ second) t ↔ ∃ m, Path s first m ∧ Path m second t := by
  induction first generalizing s with
  | nil => simp [Path]
  | cons e first ih =>
    simp only [List.cons_append, Path, ih]
    constructor
    · rintro ⟨here, m, left, right⟩
      exact ⟨m, ⟨here, left⟩, right⟩
    · rintro ⟨m, ⟨here, left⟩, right⟩
      exact ⟨here, m, left, right⟩

theorem pathSplit {s t : S} {front back : List (Entry S)} {e : Entry S}
    (path : Path s (front ++ e :: back) t) : Path s front e.before ∧ Path e.after back t := by
  obtain ⟨m, left, here, right⟩ := pathAppend.mp path
  subst here
  exact ⟨left, right⟩

theorem pathEnd {s t u : S} {log : List (Entry S)} (first : Path s log t) (second : Path s log u) : t = u := by
  induction log generalizing s with
  | nil => exact Eq.trans (Eq.symm first) second
  | cons e log ih => exact ih first.2 second.2

theorem pathKeeps {P : S → Prop} {s t : S} {log : List (Entry S)} (path : Path s log t)
    (keeps : ∀ e ∈ log, P e.before → P e.after) (holds : P s) : P t := by
  induction log generalizing s with
  | nil =>
    cases path
    exact holds
  | cons e log ih =>
    obtain ⟨rfl, path⟩ := path
    obtain ⟨here, rest⟩ := List.forall_mem_cons.mp keeps
    exact ih path rest (here holds)

theorem crossing {P : S → Prop} {s t : S} {log : List (Entry S)} (path : Path s log t) (before : ¬ P s)
    (after : P t) : ∃ front e back, log = front ++ e :: back ∧ ¬ P e.before ∧ P e.after := by
  induction log generalizing s with
  | nil =>
    cases path
    exact absurd after before
  | cons e log ih =>
    obtain ⟨rfl, path⟩ := path
    by_cases now : P e.after
    · exact ⟨[], e, log, rfl, before, now⟩
    · obtain ⟨front, x, back, rfl, none, some⟩ := ih path now
      exact ⟨e :: front, x, back, rfl, none, some⟩

def ownSteps (k : Nat) (log : List (Entry S)) : List (S × S) :=
  log.filterMap (fun e => if e.task = k then some (e.before, e.after) else none)

theorem ownAppend (k : Nat) (first second : List (Entry S)) :
    ownSteps k (first ++ second) = ownSteps k first ++ ownSteps k second := List.filterMap_append

theorem ownHere (e : Entry S) : ownSteps e.task [e] = [(e.before, e.after)] := by
  simp [ownSteps]

theorem ownElsewhere {k : Nat} {e : Entry S} (other : e.task ≠ k) : ownSteps k [e] = [] := by
  simp [ownSteps, other]

theorem ownSplit {k : Nat} {log : List (Entry S)} {earlier later : List (S × S)} {b a : S}
    (own : ownSteps k log = earlier ++ (b, a) :: later) : ∃ front back,
      log = front ++ ⟨k, b, a⟩ :: back ∧ ownSteps k front = earlier ∧ ownSteps k back = later := by
  obtain ⟨front, rest, rfl, left, right⟩ := List.filterMap_eq_append_iff.mp own
  obtain ⟨idle, e, back, rfl, none, here, tail⟩ := List.filterMap_eq_cons_iff.mp right
  obtain ⟨task, before, after⟩ := e
  dsimp only at here
  split at here
  · rename_i same
    obtain ⟨rfl, rfl⟩ := Prod.mk.inj (Option.some.inj here)
    subst same
    refine ⟨front ++ idle, back, (List.append_assoc _ _ _).symm, ?_, tail⟩
    rw [ownAppend, show ownSteps task front = earlier from left]
    exact List.append_right_eq_self.mpr (List.filterMap_eq_nil_iff.mpr none)
  · contradiction

theorem ownFound {k : Nat} {log : List (Entry S)} {b a : S} (there : (b, a) ∈ ownSteps k log) :
    ∃ front back, log = front ++ ⟨k, b, a⟩ :: back := by
  obtain ⟨earlier, later, own⟩ := List.append_of_mem there
  obtain ⟨front, back, split, -⟩ := ownSplit own
  exact ⟨front, back, split⟩

theorem ownMember {e : Entry S} {log : List (Entry S)} (listed : e ∈ log) :
    (e.before, e.after) ∈ ownSteps e.task log :=
  List.mem_filterMap.mpr ⟨e, listed, if_pos rfl⟩

end

theorem places {α : Type} {front before back behind : List α} {a b : α}
    (same : front ++ a :: back = before ++ b :: behind) :
    (∃ middle, before = front ++ a :: middle ∧ back = middle ++ b :: behind) ∨
    (front = before ∧ a = b ∧ back = behind) ∨
    ∃ middle, front = before ++ b :: middle ∧ behind = middle ++ a :: back := by
  obtain ⟨rest, rfl, tail⟩ | ⟨rest, rfl, tail⟩ := List.append_eq_append_iff.mp same
  · cases rest with
    | nil =>
      obtain ⟨rfl, rfl⟩ := List.cons.inj tail
      exact .inr (.inl ⟨(List.append_nil _).symm, rfl, rfl⟩)
    | cons x rest =>
      obtain ⟨rfl, rfl⟩ := List.cons.inj tail
      exact .inl ⟨rest, rfl, rfl⟩
  · cases rest with
    | nil =>
      obtain ⟨rfl, rfl⟩ := List.cons.inj tail
      exact .inr (.inl ⟨List.append_nil _, rfl, rfl⟩)
    | cons x rest =>
      obtain ⟨rfl, rfl⟩ := List.cons.inj tail
      exact .inr (.inr ⟨rest, rfl, rfl⟩)

theorem lastOf {α : Type} (P : α → Prop) (items : List α) : (∀ a ∈ items, ¬ P a) ∨
    ∃ front a back, items = front ++ a :: back ∧ P a ∧ ∀ b ∈ back, ¬ P b := by
  induction items with
  | nil => exact .inl (fun a listed => absurd listed List.not_mem_nil)
  | cons a items ih =>
    obtain none | ⟨front, b, back, rfl, here, none⟩ := ih
    · by_cases here : P a
      · exact .inr ⟨[], a, items, rfl, here, none⟩
      · exact .inl (List.forall_mem_cons.mpr ⟨here, none⟩)
    · exact .inr ⟨a :: front, b, back, rfl, here, none⟩

structure Task (Q S R : Type) where
  request : Q
  rest : Procedure S R
  own : List (S × S) := []

structure System (Q S R : Type) where
  shared : S
  tasks : List (Task Q S R) := []
  log : List (Entry S) := []

inductive Turn (Q : Type) where
  | arrive (request : Q)
  | proceed (task : Nat)

-- What a family of procedures is proved against: the order that every step moves
-- up in, what a request's steps do, and what its result says of them.
structure Contract (Q S R : Type) where
  later : S → S → Prop
  guarantee : Q → List (S × S) → S → S → Prop
  post : Q → R → List (S × S) → S → Prop
  refl : ∀ s, later s s
  trans : ∀ {s t u}, later s t → later t u → later s u
  moves : ∀ {q own s t}, guarantee q own s t → later s t

section
variable {Q S R : Type}

def System.step (serve : Q → Procedure S R) (system : System Q S R) : Turn Q → System Q S R
  | .arrive request => { system with tasks := system.tasks ++ [{ request, rest := serve request }] }
  | .proceed k => match system.tasks[k]? with
    | none => system
    | some task => match task.rest with
      | .done _ => system
      | .statement act next =>
        { shared := act system.shared
          tasks := system.tasks.set k { task with
            rest := next system.shared
            own := task.own ++ [(system.shared, act system.shared)] }
          log := system.log ++ [⟨k, system.shared, act system.shared⟩] }

structure Continues (before after : System Q S R) : Prop where
  log : before.log <+: after.log
  tasks : ∀ (k : Nat) (task : Task Q S R), before.tasks[k]? = some task →
    ∃ later : Task Q S R, after.tasks[k]? = some later ∧ later.request = task.request

theorem stepContinues (serve : Q → Procedure S R) (system : System Q S R) (turn : Turn Q) :
    Continues system (system.step serve turn) := by
  have same : Continues system system := ⟨List.prefix_refl _, fun _ task found => ⟨task, found, rfl⟩⟩
  cases turn with
  | arrive request =>
    refine ⟨List.prefix_refl _, fun k task found => ⟨task, ?_, rfl⟩⟩
    simp only [System.step]
    rw [List.getElem?_append_left (List.getElem?_eq_some_iff.mp found).1]
    exact found
  | proceed k =>
    simp only [System.step]
    split
    · exact same
    · rename_i task there
      split
      · exact same
      · refine ⟨List.prefix_append _ _, fun j other found => ?_⟩
        by_cases here : k = j
        · subst here
          rw [there] at found
          obtain rfl := Option.some.inj found
          exact ⟨_, List.getElem?_set_self (List.getElem?_eq_some_iff.mp there).1, rfl⟩
        · exact ⟨other, by rw [List.getElem?_set_ne here]; exact found, rfl⟩

theorem runContinues (serve : Q → Procedure S R) (system : System Q S R) (turns : List (Turn Q)) :
    Continues system (run (System.step serve) system turns) := by
  induction turns generalizing system with
  | nil => exact ⟨List.prefix_refl _, fun _ task found => ⟨task, found, rfl⟩⟩
  | cons turn turns ih =>
    have first := stepContinues serve system turn
    have rest := ih (system.step serve turn)
    refine ⟨first.log.trans rest.log, fun k task found => ?_⟩
    obtain ⟨next, there, same⟩ := first.tasks k task found
    obtain ⟨last, kept, still⟩ := rest.tasks k next there
    exact ⟨last, kept, still.trans same⟩

namespace Contract
variable (contract : Contract Q S R)

def Meets {A : Type} (q : Q) (post : A → List (S × S) → S → Prop) :
    Procedure S A → List (S × S) → S → Prop
  | .done a, own, s => ∀ t, contract.later s t → post a own t
  | .statement act next, own, s => ∀ t, contract.later s t →
      contract.guarantee q own t (act t) ∧ Meets q post (next t) (own ++ [(t, act t)]) (act t)

variable {contract} {A B : Type} {q : Q} {own : List (S × S)} {s t : S}

theorem meetsLater {post : A → List (S × S) → S → Prop} {p : Procedure S A}
    (up : contract.later s t) (meets : contract.Meets q post p own s) :
    contract.Meets q post p own t := by
  cases p with
  | done a =>
    intro u higher
    exact meets u (contract.trans up higher)
  | statement act next =>
    intro u higher
    exact meets u (contract.trans up higher)

theorem meetsPure {post : A → List (S × S) → S → Prop} {a : A}
    (holds : ∀ t, contract.later s t → post a own t) : contract.Meets q post (pure a) own s := holds

theorem meetsAtomic {f : S → S × A} {post : A → List (S × S) → S → Prop}
    (all : ∀ t, contract.later s t → contract.guarantee q own t (f t).1 ∧
      ∀ u, contract.later (f t).1 u → post (f t).2 (own ++ [(t, (f t).1)]) u) :
    contract.Meets q post (atomic f) own s := all

theorem meetsBind (middle : A → List (S × S) → S → Prop) {p : Procedure S A} {k : A → Procedure S B}
    {post : B → List (S × S) → S → Prop} (first : contract.Meets q middle p own s)
    (rest : ∀ a own t, middle a own t → contract.Meets q post (k a) own t) :
    contract.Meets q post (p >>= k) own s := by
  change contract.Meets q post (p.bind k) own s
  induction p generalizing own s with
  | done a => exact rest a own s (first s (contract.refl s))
  | statement act next ih =>
    intro t up
    obtain ⟨kept, first⟩ := first t up
    exact ⟨kept, ih t first⟩

structure Honoured (contract : Contract Q S R) (serve : Q → Procedure S R) (start : S) : Prop where
  serves : ∀ q s, contract.later start s → contract.Meets q (contract.post q) (serve q) [] s

structure Consistent (contract : Contract Q S R) (start : S) (system : System Q S R) : Prop where
  path : Path start system.log system.shared
  up : contract.later start system.shared
  tasks : ∀ k task, system.tasks[k]? = some task → task.own = ownSteps k system.log ∧
    contract.Meets task.request (contract.post task.request) task.rest task.own system.shared
  made : ∀ front e back, system.log = front ++ e :: back → ∃ task, system.tasks[e.task]? = some task ∧
    contract.guarantee task.request (ownSteps e.task front) e.before e.after

theorem consistentStart (start : S) : Consistent contract start { shared := start } where
  path := rfl
  up := contract.refl start
  tasks k task there := by simp at there
  made front e back split := by simp at split

section
variable {serve : Q → Procedure S R} {start : S} {system : System Q S R}

theorem unborn (consistent : Consistent contract start system) {k : Nat} (new : system.tasks.length ≤ k) :
    ownSteps k system.log = [] := by
  rw [ownSteps, List.filterMap_eq_nil_iff]
  intro e listed
  obtain ⟨front, back, split⟩ := List.append_of_mem listed
  obtain ⟨task, found, -⟩ := consistent.made front e back split
  have below := (List.getElem?_eq_some_iff.mp found).1
  rw [if_neg (by omega)]

theorem consistentArrive (honoured : Honoured contract serve start)
    (consistent : Consistent contract start system) (request : Q) :
    Consistent contract start (system.step serve (.arrive request)) := by
  obtain ⟨path, up, tasks, made⟩ := id consistent
  refine ⟨path, up, fun k task there => ?_, fun front e back split => ?_⟩
  · simp only [System.step] at there
    rcases Nat.lt_or_ge k system.tasks.length with old | new
    · rw [List.getElem?_append_left old] at there
      exact tasks k task there
    · rw [List.getElem?_append_right new] at there
      have zero := (List.getElem?_eq_some_iff.mp there).1
      simp only [List.length_singleton] at zero
      obtain rfl : k = system.tasks.length := by omega
      simp only [Nat.sub_self, List.getElem?_cons_zero, Option.some.injEq] at there
      subst there
      exact ⟨(unborn consistent new).symm, honoured.serves _ _ up⟩
  · obtain ⟨task, found, kept⟩ := made front e back split
    refine ⟨task, ?_, kept⟩
    simp only [System.step]
    rw [List.getElem?_append_left (List.getElem?_eq_some_iff.mp found).1]
    exact found

theorem consistentStatement (consistent : Consistent contract start system) {k : Nat} {task : Task Q S R}
    {act : S → S} {next : S → Procedure S R} (there : system.tasks[k]? = some task)
    (rest : task.rest = .statement act next) :
    Consistent contract start
      { shared := act system.shared
        tasks := system.tasks.set k { task with
          rest := next system.shared
          own := task.own ++ [(system.shared, act system.shared)] }
        log := system.log ++ [⟨k, system.shared, act system.shared⟩] } := by
  obtain ⟨path, up, tasks, made⟩ := consistent
  obtain ⟨own, meets⟩ := tasks k task there
  rw [rest] at meets
  obtain ⟨kept, meets⟩ := meets system.shared (contract.refl _)
  have moved := contract.moves kept
  have inside := (List.getElem?_eq_some_iff.mp there).1
  refine ⟨pathAppend.mpr ⟨system.shared, path, rfl, rfl⟩, contract.trans up moved, ?_, ?_⟩
  · intro j other found
    dsimp only at found ⊢
    rw [ownAppend]
    by_cases here : k = j
    · subst here
      rw [List.getElem?_set_self inside] at found
      obtain rfl := Option.some.inj found
      exact ⟨by rw [own]; exact congrArg _ (ownHere (Entry.mk k _ _)).symm, meets⟩
    · rw [List.getElem?_set_ne here] at found
      obtain ⟨same, others⟩ := tasks j other found
      rw [ownElsewhere here, List.append_nil]
      exact ⟨same, meetsLater moved others⟩
  · intro front e back split
    dsimp only at split ⊢
    obtain ⟨middle, -, none⟩ | ⟨rfl, rfl, -⟩ | ⟨middle, before, -⟩ := places split
    · simp at none
    · refine ⟨_, List.getElem?_set_self inside, ?_⟩
      dsimp only
      rwa [← own]
    · obtain ⟨other, found, kept⟩ := made front e middle before
      by_cases here : k = e.task
      · subst here
        rw [there] at found
        obtain rfl := Option.some.inj found
        exact ⟨_, List.getElem?_set_self inside, kept⟩
      · exact ⟨other, by rw [List.getElem?_set_ne here]; exact found, kept⟩

theorem consistentStep (honoured : Honoured contract serve start)
    (consistent : Consistent contract start system) (turn : Turn Q) :
    Consistent contract start (system.step serve turn) := by
  cases turn with
  | arrive request => exact consistentArrive honoured consistent request
  | proceed k =>
    simp only [System.step]
    split
    · exact consistent
    · rename_i task there
      split
      · exact consistent
      · rename_i act next rest
        exact consistentStatement consistent there rest

theorem consistentRun (honoured : Honoured contract serve start) (turns : List (Turn Q)) :
    Consistent contract start (run (System.step serve) { shared := start } turns) := by
  have always : Always (System.step serve) (Consistent contract start) { shared := start } turns :=
    alwaysOf (I := Consistent contract start) (P := fun _ _ => True) (fun _ kept => kept)
      (fun _ turn kept _ => consistentStep honoured kept turn) (consistentStart start)
      (fun _ _ _ _ => trivial)
  exact always turns [] (List.append_nil turns).symm

end

section
variable {start : S} {system : System Q S R} (consistent : Consistent contract start system)
include consistent

theorem stepUp {front back : List (Entry S)} {e : Entry S} (split : system.log = front ++ e :: back) :
    contract.later e.before e.after := by
  obtain ⟨task, -, kept⟩ := consistent.made front e back split
  exact contract.moves kept

theorem stretchUp (front : List (Entry S)) {middle : List (Entry S)} (back : List (Entry S)) {s t : S}
    (split : system.log = front ++ middle ++ back) (path : Path s middle t) : contract.later s t := by
  induction middle generalizing front s with
  | nil =>
    cases path
    exact contract.refl _
  | cons e middle ih =>
    obtain ⟨rfl, path⟩ := path
    have here : system.log = front ++ e :: (middle ++ back) := by rw [split]; simp
    have later : system.log = (front ++ [e]) ++ middle ++ back := by rw [split]; simp
    exact contract.trans (stepUp consistent here) (ih (front ++ [e]) later path)

theorem reached {front back : List (Entry S)} {e : Entry S} (split : system.log = front ++ e :: back) :
    contract.later start e.before ∧ contract.later e.after system.shared := by
  have path := consistent.path
  rw [split] at path
  obtain ⟨left, right⟩ := pathSplit path
  refine ⟨?_, ?_⟩
  · exact stretchUp consistent [] (e :: back) split left
  · exact stretchUp consistent (front ++ [e]) [] (by rw [split]; simp) right

theorem ordered {front middle back : List (Entry S)} {e x : Entry S}
    (split : system.log = front ++ e :: middle ++ x :: back) : contract.later e.after x.before := by
  have path := consistent.path
  rw [split, List.append_assoc] at path
  obtain ⟨-, right⟩ := pathSplit path
  exact stretchUp consistent (front ++ [e]) (x :: back) (by rw [split]; simp)
    (pathSplit right).1

theorem pathSince {earlier : System Q S R} (before : Consistent contract start earlier)
    {steps : List (Entry S)} (split : system.log = earlier.log ++ steps) :
    Path earlier.shared steps system.shared := by
  have path := consistent.path
  rw [split] at path
  obtain ⟨m, left, right⟩ := pathAppend.mp path
  rwa [pathEnd left before.path] at right

theorem madeBy {P : S → Prop} (before : ¬ P start) (after : P system.shared) :
    ∃ front e back task, system.log = front ++ e :: back ∧ ¬ P e.before ∧ P e.after ∧
      system.tasks[e.task]? = some task ∧
      contract.guarantee task.request (ownSteps e.task front) e.before e.after := by
  obtain ⟨front, e, back, split, none, some⟩ := crossing consistent.path before after
  obtain ⟨task, found, kept⟩ := consistent.made front e back split
  exact ⟨front, e, back, task, split, none, some, found, kept⟩

end

end Contract

end

end SeedOrigin.Interleaving
