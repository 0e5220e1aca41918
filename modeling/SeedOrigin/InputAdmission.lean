import SeedOrigin.Inputs
import SeedOrigin.Runs

/-! What a WorldInputQueue admits over any order of calls, and what its frames
hand out: every accepted input once, in the order of acceptance. -/
namespace SeedOrigin.InputAdmission
open SeedOrigin.Octets SeedOrigin.Numbers SeedOrigin.Character SeedOrigin.ClientInput
open SeedOrigin.Inputs SeedOrigin.Runs
open FloatOps (lit le isFinite)

inductive QueueCall (F : Type) where
  | action (action : Action)
  | movement (sessionId : Int) (dx dy dz : F) (clientInputSequence : UInt64)
  | combat (attackerId targetId : Int) (power : F) (requestId : Bytes)
  | spell (casterId targetId : Int) (element : Bytes) (power : F) (requestId : Bytes)
  | chat (senderId : Int) (audience message : Bytes)
  | takeFrame

section
variable {F : Type}

def cleared (queue : WorldInputQueue F) : WorldInputQueue F :=
  { queue with pending := [], acceptedCombatRequests := [] }

def QueueCall.body : QueueCall F → Option (WorldInputBody F)
  | .action asked => some (.action asked)
  | .movement sessionId dx dy dz clientInputSequence =>
    some (.movement ⟨sessionId, dx, dy, dz, clientInputSequence⟩)
  | .combat attackerId targetId power requestId =>
    some (.combat ⟨attackerId, targetId, power, requestId⟩)
  | .spell casterId targetId element power requestId =>
    some (.spell ⟨casterId, targetId, element, power, requestId⟩)
  | .chat senderId audience message => some (.chat ⟨senderId, audience, message⟩)
  | .takeFrame => none

def numberOf : WorldInputBody F → Option (Int × UInt64)
  | .movement movement =>
    if movement.clientInputSequence = 0 then none
    else some (movement.sessionId, movement.clientInputSequence)
  | _ => none

def requestOf : WorldInputBody F → Option (Int × Bytes)
  | .combat combat => if combat.requestId = [] then none else some (combat.attackerId, combat.requestId)
  | .spell spell => if spell.requestId = [] then none else some (spell.casterId, spell.requestId)
  | _ => none

def numbersOf (sessionId : Int) (inputs : List (WorldInput F)) : List UInt64 :=
  inputs.filterMap (fun input => match numberOf input.body with
    | some (s, n) => if s = sessionId then some n else none
    | none => none)

def requestsOf (inputs : List (WorldInput F)) : List (Int × Bytes) :=
  inputs.filterMap (fun input => requestOf input.body)

structure Accepts (queue : WorldInputQueue F) (body : WorldInputBody F) (after : WorldInputQueue F) :
    Prop where
  room : queue.nextSequence ≠ maxUint64
  fresh : ∀ r, requestOf body = some r → requestKey r.1 r.2 ∉ queue.acceptedCombatRequests
  admitted : ∀ p, numberOf body = some p → queue.inputSequenceTracker.admit p.1 p.2 = .accept
  left : after =
    { pending := queue.pending ++ [⟨queue.nextSequence, body⟩]
      acceptedCombatRequests := match requestOf body with
        | some r => requestKey r.1 r.2 :: queue.acceptedCombatRequests
        | none => queue.acceptedCombatRequests
      nextSequence := queue.nextSequence + 1
      inputSequenceTracker := match numberOf body with
        | some p => queue.inputSequenceTracker.noteAccepted p.1 p.2
        | none => queue.inputSequenceTracker }

theorem pushExact {queue after : WorldInputQueue F} {body : WorldInputBody F}
    (h : queue.push body = some after) : queue.nextSequence ≠ maxUint64 ∧
      after = { queue with
        pending := queue.pending ++ [⟨queue.nextSequence, body⟩]
        nextSequence := queue.nextSequence + 1 } := by
  unfold WorldInputQueue.push at h
  split at h
  · contradiction
  · rename_i room
    cases Option.some.inj h
    exact ⟨fun full => room (.inr full), rfl⟩

theorem pushPlain {queue after : WorldInputQueue F} {body : WorldInputBody F}
    (plain : requestOf body = none) (unnumbered : numberOf body = none)
    (h : queue.push body = some after) : Accepts queue body after := by
  obtain ⟨room, rfl⟩ := pushExact h
  refine ⟨room, ?_, ?_, ?_⟩
  · intro r named
    rw [plain] at named
    contradiction
  · intro p numbered
    rw [unnumbered] at numbered
    contradiction
  · rw [plain, unnumbered]

theorem pushRequested {queue after : WorldInputQueue F} {body : WorldInputBody F} {actorId : Int}
    {requestId : Bytes}
    (names : requestOf body = if requestId = [] then none else some (actorId, requestId))
    (unnumbered : numberOf body = none) (h : queue.pushRequest actorId requestId body = some after) :
    Accepts queue body after := by
  unfold WorldInputQueue.pushRequest at h
  cases pushed : queue.push body with
  | none => simp [pushed] at h
  | some middle =>
    simp only [pushed, bind, Option.bind] at h
    by_cases none : requestId = []
    · rw [if_pos none] at names h
      cases Option.some.inj h
      exact pushPlain names unnumbered pushed
    · rw [if_neg none] at names h
      split at h
      · contradiction
      · rename_i unused
        obtain ⟨room, rfl⟩ := pushExact pushed
        cases Option.some.inj h
        refine ⟨room, ?_, ?_, ?_⟩
        · intro r named
          rw [names] at named
          cases Option.some.inj named
          exact fun there => unused (.inr there)
        · intro p numbered
          rw [unnumbered] at numbered
          contradiction
        · rw [names, unnumbered]

variable [FloatOps F]

def call (queue : WorldInputQueue F) : QueueCall F → WorldInputQueue F × Bool
  | .action action => match queue.enqueueAction action with
    | none => (queue, false)
    | some after => (after, true)
  | .movement sessionId dx dy dz clientInputSequence =>
    let (after, result) := queue.enqueueSequencedMovement sessionId dx dy dz clientInputSequence
    (after, result = .enqueued)
  | .combat attackerId targetId power requestId =>
    match queue.enqueueCombat attackerId targetId power requestId with
    | none => (queue, false)
    | some after => (after, true)
  | .spell casterId targetId element power requestId =>
    match queue.enqueueSpell casterId targetId element power requestId with
    | none => (queue, false)
    | some after => (after, true)
  | .chat senderId audience message => match queue.enqueueChat senderId audience message with
    | none => (queue, false)
    | some after => (after, true)
  | .takeFrame => (queue.takeFrame.1, false)

theorem sequencedCases {queue : WorldInputQueue F} {sessionId : Int} {dx dy dz : F} {n : UInt64}
    {after : WorldInputQueue F} {result : MovementEnqueueResult}
    (h : queue.enqueueSequencedMovement sessionId dx dy dz n = (after, result)) :
    (result = .enqueued ∧ Accepts queue (.movement ⟨sessionId, dx, dy, dz, n⟩) after) ∨
      (result ≠ .enqueued ∧ after = queue) := by
  unfold WorldInputQueue.enqueueSequencedMovement at h
  split at h
  · cases h
    exact .inr ⟨nofun, rfl⟩
  · dsimp only at h
    split at h
    · cases h
      exact .inr ⟨nofun, rfl⟩
    · cases h
      exact .inr ⟨nofun, rfl⟩
    · cases h
      exact .inr ⟨nofun, rfl⟩
    · rename_i admission
      cases pushed : queue.push (.movement ⟨sessionId, dx, dy, dz, n⟩) with
      | none =>
        rw [pushed] at h
        cases h
        exact .inr ⟨nofun, rfl⟩
      | some middle =>
        obtain ⟨room, rfl⟩ := pushExact pushed
        rw [pushed] at h
        cases h
        refine .inl ⟨rfl, room, ?_, ?_, ?_⟩
        · intro r named
          exact absurd named nofun
        · intro p numbered
          simp only [numberOf] at numbered
          split at numbered
          · contradiction
          · rename_i sequenced
            cases Option.some.inj numbered
            rwa [if_neg sequenced] at admission
        · by_cases legacy : n = 0
          · simp [numberOf, requestOf, legacy]
          · simp [numberOf, requestOf, legacy]

theorem callCases (queue : WorldInputQueue F) (c : QueueCall F) :
    (∃ body, c.body = some body ∧ (call queue c).2 = true ∧ Accepts queue body (call queue c).1) ∨
      (c = .takeFrame ∧ call queue c = (queue.takeFrame.1, false)) ∨
      (c ≠ .takeFrame ∧ call queue c = (queue, false)) := by
  cases c with
  | takeFrame => exact .inr (.inl ⟨rfl, rfl⟩)
  | action action =>
    simp only [call, QueueCall.body]
    cases taken : queue.enqueueAction action with
    | none => exact .inr (.inr ⟨nofun, rfl⟩)
    | some after =>
      unfold WorldInputQueue.enqueueAction at taken
      split at taken <;> try contradiction
      exact .inl ⟨_, rfl, rfl, pushPlain rfl rfl taken⟩
  | movement sessionId dx dy dz n =>
    simp only [call, QueueCall.body]
    cases taken : queue.enqueueSequencedMovement sessionId dx dy dz n with
    | mk after result =>
      obtain ⟨rfl, accepts⟩ | ⟨refused, rfl⟩ := sequencedCases taken
      · exact .inl ⟨_, rfl, by simp, accepts⟩
      · exact .inr (.inr ⟨nofun, by simp [refused]⟩)
  | combat attackerId targetId power requestId =>
    simp only [call, QueueCall.body]
    cases taken : queue.enqueueCombat attackerId targetId power requestId with
    | none => exact .inr (.inr ⟨nofun, rfl⟩)
    | some after =>
      unfold WorldInputQueue.enqueueCombat at taken
      split at taken <;> try contradiction
      exact .inl ⟨_, rfl, rfl, pushRequested rfl rfl taken⟩
  | spell casterId targetId element power requestId =>
    simp only [call, QueueCall.body]
    cases taken : queue.enqueueSpell casterId targetId element power requestId with
    | none => exact .inr (.inr ⟨nofun, rfl⟩)
    | some after =>
      unfold WorldInputQueue.enqueueSpell at taken
      split at taken <;> try contradiction
      split at taken <;> try contradiction
      exact .inl ⟨_, rfl, rfl, pushRequested rfl rfl taken⟩
  | chat senderId audience message =>
    simp only [call, QueueCall.body]
    cases taken : queue.enqueueChat senderId audience message with
    | none => exact .inr (.inr ⟨nofun, rfl⟩)
    | some after =>
      unfold WorldInputQueue.enqueueChat at taken
      split at taken <;> try contradiction
      split at taken <;> try contradiction
      split at taken <;> try contradiction
      exact .inl ⟨_, rfl, rfl, pushPlain rfl rfl taken⟩

structure Admission (F : Type) where
  queue : WorldInputQueue F
  accepted : List (WorldInputBody F) := []
  frames : List (List (WorldInput F)) := []

def admissionStep (s : Admission F) (c : QueueCall F) : Admission F :=
  match c with
  | .takeFrame =>
    { s with
      queue := s.queue.takeFrame.1
      frames := s.frames ++ [s.queue.takeFrame.2] }
  | c =>
    { s with
      queue := (call s.queue c).1
      accepted := if (call s.queue c).2 then s.accepted ++ c.body.toList else s.accepted }

def Admission.handed (s : Admission F) : List (WorldInput F) := s.frames.flatten

def Near (m n : UInt64) : Prop := m < n ∧ n - m ≤ maxClientInputAhead

structure Orderly (s : Admission F) : Prop where
  movements : ∀ sessionId, (numbersOf sessionId s.handed).IsChain Near ∧
    (numbersOf sessionId s.handed).Pairwise (fun m n => m < n)
  requests : (requestsOf s.handed).Nodup
  numbers : s.handed.Pairwise (fun first later => first.sequence < later.sequence)
  -- Frames are handed out in the order of acceptance, and the rest is still here.
  delivered : (s.handed ++ s.queue.pending).map WorldInput.body = s.accepted

structure Kept (s : Admission F) (all : List (WorldInput F)) : Prop where
  every : all = s.handed ++ s.queue.pending
  chain : ∀ sessionId, (numbersOf sessionId all).IsChain Near
  last : ∀ sessionId, ∀ v ∈ (numbersOf sessionId all).getLast?,
    s.queue.inputSequenceTracker.lastAccepted.getD sessionId 0 = v
  requests : (requestsOf all).Nodup
  known : ∀ r ∈ requestsOf all, requestKey r.1 r.2 ∈ s.queue.acceptedCombatRequests
  numbers : all.Pairwise (fun first later => first.sequence < later.sequence)
  below : ∀ input ∈ all, input.sequence < s.queue.nextSequence
  delivered : all.map WorldInput.body = s.accepted

omit [FloatOps F] in
theorem keptOrderly {s : Admission F} {all : List (WorldInput F)} (kept : Kept s all) :
    Orderly s := by
  have split := kept.every
  have out : s.handed <+: all := ⟨s.queue.pending, split.symm⟩
  refine ⟨fun sessionId => ?_, ?_, kept.numbers.sublist out.sublist, ?_⟩
  · have front : (numbersOf sessionId s.handed).IsChain Near :=
      List.IsChain.prefix (kept.chain sessionId) (out.filterMap _)
    have rising : (numbersOf sessionId s.handed).IsChain (fun m n => m < n) :=
      front.imp (fun m n near => near.1)
    exact ⟨front, List.isChain_iff_pairwise.mp rising⟩
  · exact kept.requests.sublist (out.filterMap _).sublist
  · rw [← split]
    exact kept.delivered

theorem nearAdmitted {tracker : ClientInputSequenceTracker} {sessionId : Int} {n : UInt64}
    (h : tracker.admit sessionId n = .accept) :
    n ≠ 0 ∧ Near (tracker.lastAccepted.getD sessionId 0) n := by
  unfold ClientInputSequenceTracker.admit at h
  split at h <;> try contradiction
  dsimp only at h
  split at h <;> try contradiction
  split at h <;> try contradiction
  rename_i valid newer near
  exact ⟨fun zero => valid (.inr zero), UInt64.not_le.mp newer, UInt64.not_lt.mp near⟩

omit [FloatOps F] in
theorem numbersAppend (sessionId : Int) (inputs : List (WorldInput F)) (input : WorldInput F) :
    numbersOf sessionId (inputs ++ [input]) = numbersOf sessionId inputs ++
      match numberOf input.body with
      | some p => if p.1 = sessionId then [p.2] else []
      | none => [] := by
  unfold numbersOf
  rw [List.filterMap_append, List.filterMap_cons, List.filterMap_nil]
  congr 1
  cases numberOf input.body with
  | none => rfl
  | some p => by_cases same : p.1 = sessionId <;> simp [same]

omit [FloatOps F] in
theorem requestsAppend (inputs : List (WorldInput F)) (input : WorldInput F) :
    requestsOf (inputs ++ [input]) = requestsOf inputs ++ (requestOf input.body).toList := by
  unfold requestsOf
  rw [List.filterMap_append, List.filterMap_cons, List.filterMap_nil]
  cases requestOf input.body <;> rfl

omit [FloatOps F] in
theorem nextLarger {n : UInt64} (room : n ≠ maxUint64) : n < n + 1 := by
  have bound : n.toNat ≠ 2 ^ 64 - 1 := fun h => room (UInt64.toNat.inj h)
  have small := n.toNat_lt
  rw [UInt64.lt_iff_toNat_lt, UInt64.toNat_add]
  have one : (1 : UInt64).toNat = 1 := rfl
  omega

omit [FloatOps F] in
theorem keptAccept {s : Admission F} {all : List (WorldInput F)} (kept : Kept s all)
    {body : WorldInputBody F} {after : WorldInputQueue F} (accepts : Accepts s.queue body after) :
    Kept { s with queue := after, accepted := s.accepted ++ [body] }
      (all ++ [⟨s.queue.nextSequence, body⟩]) := by
  obtain ⟨room, fresh, admitted, rfl⟩ := accepts
  have grows := nextLarger room
  constructor
  · rw [kept.every]
    exact List.append_assoc ..
  · intro sessionId
    rw [numbersAppend]
    refine (kept.chain sessionId).append ?_ ?_
    · split
      · split
        · exact .singleton _
        · exact .nil
      · exact .nil
    · intro m there n here
      cases numbered : numberOf body with
      | none => simp [numbered] at here
      | some p =>
        by_cases own : p.1 = sessionId
        · have value := kept.last sessionId m there
          have near := (nearAdmitted (admitted p numbered)).2
          rw [own, value] at near
          simp only [numbered, own, if_true, List.head?_cons, Option.mem_def, Option.some.injEq] at here
          rwa [← here]
        · simp [numbered, own] at here
  · intro sessionId v there
    rw [numbersAppend] at there
    cases numbered : numberOf body with
    | none =>
      simp only [numbered, List.append_nil] at there
      exact kept.last sessionId v there
    | some p =>
      by_cases own : p.1 = sessionId
      · simp only [numbered, own, if_true, List.getLast?_append, List.getLast?_singleton,
          Option.some_or, Option.mem_def, Option.some.injEq] at there
        simp [ClientInputSequenceTracker.noteAccepted, own, there]
      · simp only [numbered, own, if_false, List.append_nil] at there
        have value := kept.last sessionId v there
        simpa [ClientInputSequenceTracker.noteAccepted, Std.ExtTreeMap.getD_insert, own] using value
  · rw [requestsAppend, List.nodup_append]
    refine ⟨kept.requests, ?_, ?_⟩
    · cases requestOf body <;> simp
    · intro r there q here
      have named : requestOf body = some q := Option.mem_toList.mp here
      intro same
      rw [← same] at named
      exact fresh r named (kept.known r there)
  · intro r there
    rw [requestsAppend] at there
    rcases List.mem_append.mp there with old | new
    · have known := kept.known r old
      cases requestOf body with
      | none => exact known
      | some q => exact List.mem_cons_of_mem _ known
    · have named : requestOf body = some r := Option.mem_toList.mp new
      simp [named]
  · rw [List.pairwise_append]
    refine ⟨kept.numbers, List.pairwise_singleton _ _, ?_⟩
    intro input there last here
    rw [List.mem_singleton.mp here]
    exact kept.below input there
  · intro input there
    rcases List.mem_append.mp there with old | new
    · exact UInt64.lt_trans (kept.below input old) grows
    · rw [List.mem_singleton.mp new]
      exact grows
  · rw [List.map_append, kept.delivered]
    rfl

omit [FloatOps F] in
theorem keptTake {s : Admission F} {all : List (WorldInput F)} (kept : Kept s all) :
    Kept { s with queue := s.queue.takeFrame.1, frames := s.frames ++ [s.queue.takeFrame.2] } all := by
  refine { kept with every := ?_ }
  rw [kept.every]
  simp [Admission.handed, WorldInputQueue.takeFrame]

theorem keptStep {s : Admission F} (kept : ∃ all, Kept s all) (c : QueueCall F) :
    ∃ all, Kept (admissionStep s c) all := by
  obtain ⟨all, kept⟩ := kept
  obtain ⟨body, asked, taken, accepts⟩ | ⟨rfl, -⟩ | ⟨other, refused⟩ := callCases s.queue c
  · have same : admissionStep s c =
        { s with queue := (call s.queue c).1, accepted := s.accepted ++ [body] } := by
      cases c <;> first | contradiction | simp only [admissionStep, taken, asked, if_true, Option.toList]
    rw [same]
    exact ⟨_, keptAccept kept accepts⟩
  · exact ⟨all, keptTake kept⟩
  · have same : admissionStep s c = s := by
      cases c <;> first | contradiction | simp [admissionStep, refused]
    rw [same]
    exact ⟨all, kept⟩

omit [FloatOps F] in
theorem keptCleared (queue : WorldInputQueue F) : ∃ all, Kept ⟨cleared queue, [], []⟩ all := by
  refine ⟨[], rfl, ?_, ?_, ?_, ?_, ?_, ?_, rfl⟩ <;> simp [numbersOf, requestsOf]

-- A frame hands out all that waits, which is all that was accepted and not handed out
-- before, and leaves nothing of it. A refused call leaves the queue as it was.
def Exactly (s : Admission F) : QueueCall F → Prop
  | .takeFrame =>
    s.queue.takeFrame.2 = s.queue.pending ∧
      s.queue.takeFrame.1 = { s.queue with pending := [] } ∧
      (admissionStep s .takeFrame).handed.map WorldInput.body = s.accepted
  | c => (call s.queue c).2 = false → (call s.queue c).1 = s.queue

theorem exactlyKept {s : Admission F} (orderly : Orderly s) (c : QueueCall F) : Exactly s c := by
  obtain ⟨body, asked, taken, -⟩ | ⟨rfl, -⟩ | ⟨other, refused⟩ := callCases s.queue c
  · have accepted : (call s.queue c).2 = false → (call s.queue c).1 = s.queue := by
      intro denied
      rw [taken] at denied
      contradiction
    cases c <;> first | exact accepted | contradiction
  · refine ⟨rfl, rfl, ?_⟩
    have handed : (admissionStep s .takeFrame).handed = s.handed ++ s.queue.pending := by
      simp [admissionStep, Admission.handed, WorldInputQueue.takeFrame]
    rw [handed]
    exact orderly.delivered
  · have same : (call s.queue c).2 = false → (call s.queue c).1 = s.queue := fun _ => by rw [refused]
    cases c <;> first | exact same | contradiction

theorem admissionOrderly (queue : WorldInputQueue F) (calls : List (QueueCall F)) :
    Always admissionStep Orderly ⟨cleared queue, [], []⟩ calls ∧
    Along admissionStep Exactly ⟨cleared queue, [], []⟩ calls := by
  have orderly : Always admissionStep Orderly ⟨cleared queue, [], []⟩ calls :=
    alwaysOf (I := fun s => ∃ all, Kept s all) (P := fun _ _ => True)
      (fun s ⟨_, kept⟩ => keptOrderly kept) (fun s c kept _ => keptStep kept c)
      (keptCleared queue) (fun _ _ _ _ => trivial)
  refine ⟨orderly, ?_⟩
  intro before c after split
  exact exactlyKept (orderly before (c :: after) split) c

end

end SeedOrigin.InputAdmission
