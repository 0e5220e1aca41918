import SeedOrigin.ReceiverLoop
import SeedOrigin.Runs

/-! World updates given to the receiver in groups, one receive call each. The
decision of the last call is no part of what is compared. -/
namespace SeedOrigin.ReceiverBatches
open SeedOrigin.Octets SeedOrigin.Framing SeedOrigin.Numbers SeedOrigin.Accumulation
open SeedOrigin.UpdateWire SeedOrigin.HazardClient SeedOrigin.Prediction SeedOrigin.ClientInput
open SeedOrigin.SnapshotParser SeedOrigin.Receiver SeedOrigin.ReceiverLoop SeedOrigin.Runs

section
variable {F : Type} [PredictionOps F]

def deliver (receiver : ClientWorldUpdateReceiver F) (group : List WorldUpdate) :
    ClientWorldUpdateReceiver F :=
  (receiver.receive (joined updateBytes group)).1

def deliverOne (receiver : ClientWorldUpdateReceiver F) (update : WorldUpdate) :
    ClientWorldUpdateReceiver F :=
  deliver receiver [update]

def undecided (receiver : ClientWorldUpdateReceiver F) : ClientWorldUpdateReceiver F :=
  { receiver with decision := .noData }

def Alike (a b : ClientWorldUpdateReceiver F) : Prop := undecided a = undecided b

def NotRejected (receiver : ClientWorldUpdateReceiver F) (update : WorldUpdate) : Prop :=
  (deliverOne receiver update).decision ≠ .rejected

def arrivals (receiver : ClientWorldUpdateReceiver F) (update : WorldUpdate) : List WorldUpdate :=
  (append worldUpdateAccumulator receiver.accumulator (updateBytes update)).2.1

def BringsNoSnapshot (receiver : ClientWorldUpdateReceiver F) (update : WorldUpdate) : Prop :=
  ∀ arrived ∈ arrivals receiver update, arrived.kind ≠ .snapshot

-- After one that brings a gap, no other of the group brings a Snapshot.
def Sorted (receiver : ClientWorldUpdateReceiver F) (group : List WorldUpdate) : Prop :=
  ∀ before update after, group = before ++ update :: after →
    Meets RevealsGap (run deliverOne receiver before)
      (arrivals (run deliverOne receiver before) update) →
    Along deliverOne BringsNoSnapshot (run deliverOne receiver (before ++ [update])) after

structure Unbroken (receiver : ClientWorldUpdateReceiver F) (group : List WorldUpdate) : Prop where
  fits : (joined updateBytes group).length ≤
    worldUpdateFrameHeaderSize + maxUpdatePayload - receiver.accumulator.buffered.length
  sorted : Sorted receiver group

omit [PredictionOps F] in
theorem alikeParts {a b : ClientWorldUpdateReceiver F} :
    Alike a b ↔ core a = core b ∧ a.accumulator = b.accumulator := by
  constructor
  · intro alike
    have same : undecided a = undecided b := alike
    have cores := congrArg core same
    have accumulators := congrArg ClientWorldUpdateReceiver.accumulator same
    exact ⟨cores, accumulators⟩
  · rintro ⟨same, accumulator⟩
    have whole (receiver : ClientWorldUpdateReceiver F) :
        undecided receiver = { core receiver with accumulator := receiver.accumulator } := rfl
    unfold Alike
    rw [whole a, whole b, same, accumulator]

-- A receive call forgets the decision before it reads.
theorem deliverAlike {a b : ClientWorldUpdateReceiver F} (alike : Alike a b)
    (group : List WorldUpdate) : deliver a group = deliver b group := by
  have forgets (receiver : ClientWorldUpdateReceiver F) :
      deliver (undecided receiver) group = deliver receiver group := rfl
  rw [← forgets a, alike, forgets b]

def settle : ClientWorldUpdateReceiver F × Nat × Except String Unit → ClientWorldUpdateReceiver F
  | (after, _, .error _) => after
  | (after, _, .ok _) =>
    if after.needsSnapshot then requestSnapshot after else { after with decision := .applied }

omit [PredictionOps F] in
theorem settleAlike (out : ClientWorldUpdateReceiver F × Nat × Except String Unit) :
    Alike (settle out) out.1 := by
  obtain ⟨after, applied, result⟩ := out
  cases result with
  | error e => rfl
  | ok _ =>
    unfold settle
    dsimp only
    split <;> rfl

theorem receiveSettles {receiver : ClientWorldUpdateReceiver F} {bytes : Bytes}
    {accumulator : Accumulator} {updates : List WorldUpdate}
    (taken : append worldUpdateAccumulator receiver.accumulator bytes = (accumulator, updates, .ok ())) :
    (receiver.receive bytes).1 =
      if updates = [] then { receiver with accumulator := accumulator, decision := .noData }
      else settle (applyUpdates { receiver with accumulator := accumulator, decision := .noData } updates) := by
  unfold ClientWorldUpdateReceiver.receive
  rw [taken]
  dsimp only
  split
  · rfl
  · cases applyUpdates { receiver with accumulator := accumulator, decision := .noData } updates with
    | mk after outcome =>
      obtain ⟨applied, result⟩ := outcome
      cases result with
      | error e => rfl
      | ok _ =>
        unfold settle
        dsimp only
        split <;> rfl

theorem receiveApplies {receiver : ClientWorldUpdateReceiver F} {bytes : Bytes}
    {accumulator : Accumulator} {updates : List WorldUpdate}
    (taken : append worldUpdateAccumulator receiver.accumulator bytes = (accumulator, updates, .ok ())) :
    core (receiver.receive bytes).1 = core (applyUpdates receiver updates).1 ∧
      (receiver.receive bytes).1.accumulator = accumulator := by
  rw [receiveSettles taken]
  split
  · rename_i none
    rw [none]
    exact ⟨rfl, rfl⟩
  · let ready : ClientWorldUpdateReceiver F :=
      { receiver with accumulator := accumulator, decision := .noData }
    obtain ⟨settled, kept⟩ := alikeParts.mp (settleAlike (applyUpdates ready updates))
    have same : core ready = core receiver := rfl
    exact ⟨settled.trans (updatesMatching same updates).1,
      kept.trans (updatesAccumulator ready updates)⟩

variable {receiver : ClientWorldUpdateReceiver F} {group : List WorldUpdate} {update : WorldUpdate}

omit [PredictionOps F] in
theorem groupTaken (ready : receiver.accumulator = {}) (valid : ∀ update ∈ group, ValidUpdate update)
    (fits : (joined updateBytes group).length ≤ worldUpdateFrameHeaderSize + maxUpdatePayload) :
    append worldUpdateAccumulator receiver.accumulator (joined updateBytes group) =
      (receiver.accumulator, group, .ok ()) := by
  have whole : [] ++ joined updateBytes group = joined updateBytes group ++ [] := by simp
  have taken : append worldUpdateAccumulator ⟨[], false⟩ (joined updateBytes group) = _ :=
    appendFrames updateFormat rfl valid whole (.clean [])
      (by simpa [worldUpdateAccumulator] using fits)
  rw [List.map_id] at taken
  rw [ready]
  exact taken

theorem deliverSettles (ready : receiver.accumulator = {})
    (valid : ∀ update ∈ group, ValidUpdate update)
    (fits : (joined updateBytes group).length ≤ worldUpdateFrameHeaderSize + maxUpdatePayload) :
    deliver receiver group =
      if group = [] then undecided receiver else settle (applyUpdates (undecided receiver) group) :=
  receiveSettles (groupTaken ready valid fits)

theorem oneFits (valid : ValidUpdate update) :
    (joined updateBytes [update]).length ≤ worldUpdateFrameHeaderSize + maxUpdatePayload := by
  have small := (validParts valid).2
  simp only [joined, List.flatMap_cons, List.flatMap_nil, List.append_nil, updateLength]
  omega

theorem oneBytes (update : WorldUpdate) : joined updateBytes [update] = updateBytes update := by
  simp only [joined, List.flatMap_cons, List.flatMap_nil, List.append_nil]

theorem updatesOne (receiver : ClientWorldUpdateReceiver F) (update : WorldUpdate) :
    (applyUpdates receiver [update]).1 = (applyUpdate receiver update).1 := by
  unfold applyUpdates applyUpdates
  cases applyUpdate receiver update with
  | mk after outcome => cases outcome <;> rfl

theorem deliverOneApplies (ready : receiver.accumulator = {}) (valid : ValidUpdate update) :
    Alike (deliverOne receiver update) (applyUpdate receiver update).1 ∧
      (deliverOne receiver update).accumulator = {} := by
  have taken := groupTaken ready (List.forall_mem_singleton.mpr valid) (oneFits valid)
  obtain ⟨applies, kept⟩ := receiveApplies taken
  rw [updatesOne] at applies
  refine ⟨alikeParts.mpr ⟨applies, ?_⟩, kept.trans ready⟩
  exact kept.trans (updateAccumulator receiver update).symm

theorem oneTaken (accepted : NotRejected receiver update) :
    append worldUpdateAccumulator receiver.accumulator (updateBytes update) =
      ((deliverOne receiver update).accumulator, arrivals receiver update, .ok ()) := by
  cases taken : append worldUpdateAccumulator receiver.accumulator (updateBytes update) with
  | mk accumulator rest =>
    obtain ⟨arrived, result⟩ := rest
    have brought : arrivals receiver update = arrived := by
      unfold arrivals
      rw [taken]
    have call : deliverOne receiver update = (receiver.receive (updateBytes update)).1 := by
      unfold deliverOne deliver
      rw [oneBytes]
    cases result with
    | error e =>
      refine absurd ?_ accepted
      rw [call]
      unfold ClientWorldUpdateReceiver.receive
      rw [taken]
      rfl
    | ok _ => rw [brought, call, (receiveApplies taken).2]

theorem oneApplies (accepted : NotRejected receiver update) :
    core (deliverOne receiver update) = core (applyUpdates receiver (arrivals receiver update)).1 ∧
    (((applyUpdates receiver (arrivals receiver update)).2.2 = .ok () ∧
        ¬ Meets RevealsGap receiver (arrivals receiver update)) ∨
      ((∃ e, (applyUpdates receiver (arrivals receiver update)).2.2 = .error e) ∧
        Meets RevealsGap receiver (arrivals receiver update) ∧
        (deliverOne receiver update).needsSnapshot = true)) := by
  have call : deliverOne receiver update = (receiver.receive (updateBytes update)).1 := by
    unfold deliverOne deliver
    rw [oneBytes]
  have taken := oneTaken accepted
  have applies := (receiveApplies taken).1
  have ends := callEnds taken
  unfold NotRejected at accepted
  rw [call] at accepted ⊢
  refine ⟨applies, ?_⟩
  cases out : receiver.receive (updateBytes update) with
  | mk after outcome =>
    rw [out] at ends accepted
    cases ends with
    | through loop gap => exact .inl ⟨loop, gap⟩
    | refused loop rejected => exact absurd rejected accepted
    | requested loop asked awaiting gap => exact .inr ⟨⟨_, loop⟩, gap, awaiting⟩

def gathered : ClientWorldUpdateReceiver F → List WorldUpdate → List WorldUpdate
  | _, [] => []
  | receiver, update :: rest => arrivals receiver update ++ gathered (deliverOne receiver update) rest

theorem gatheredTaken (some : group ≠ []) (accepted : Along deliverOne NotRejected receiver group)
    (fits : (joined updateBytes group).length ≤
      worldUpdateFrameHeaderSize + maxUpdatePayload - receiver.accumulator.buffered.length) :
    append worldUpdateAccumulator receiver.accumulator (joined updateBytes group) =
      ((run deliverOne receiver group).accumulator, gathered receiver group, .ok ()) := by
  induction group generalizing receiver with
  | nil => exact absurd rfl some
  | cons update rest ih =>
    obtain ⟨here, later⟩ := (alongCons deliverOne).mp accepted
    have first := oneTaken here
    cases rest with
    | nil =>
      rw [oneBytes, first]
      simp only [gathered, List.append_nil, run, List.foldl_cons, List.foldl_nil]
    | cons next rest =>
      have split : joined updateBytes (update :: next :: rest) =
          updateBytes update ++ joined updateBytes (next :: rest) := rfl
      obtain ⟨grows, -, -, -⟩ := appendTaken first
      rw [split] at fits ⊢
      have room : (joined updateBytes (next :: rest)).length ≤ worldUpdateFrameHeaderSize +
          maxUpdatePayload - (deliverOne receiver update).accumulator.buffered.length := by
        rw [List.length_append] at fits
        omega
      rw [appendBoth updateStable first fits, ih (List.cons_ne_nil _ _) later room]
      rfl

theorem updatesAwaiting (awaiting : receiver.needsSnapshot = true) {updates : List WorldUpdate}
    (events : ∀ update ∈ updates, update.kind ≠ .snapshot) :
    core (applyUpdates receiver updates).1 = core receiver := by
  induction updates with
  | nil => rfl
  | cons update updates ih =>
    obtain ⟨first, others⟩ := List.forall_mem_cons.mp events
    rw [applyUpdates]
    unfold applyUpdate
    cases kind : update.kind with
    | snapshot => exact absurd kind first
    | unknown code => rfl
    | event =>
      dsimp only
      rw [if_pos awaiting]
      exact ih others

theorem awaitingRun (awaiting : receiver.needsSnapshot = true)
    (accepted : Along deliverOne NotRejected receiver group)
    (events : Along deliverOne BringsNoSnapshot receiver group) :
    core (run deliverOne receiver group) = core receiver := by
  induction group generalizing receiver with
  | nil => rfl
  | cons update rest ih =>
    obtain ⟨here, later⟩ := (alongCons deliverOne).mp accepted
    obtain ⟨none, others⟩ := (alongCons deliverOne).mp events
    have passed := (oneApplies here).1.trans (updatesAwaiting awaiting none)
    have flag := congrArg ClientWorldUpdateReceiver.needsSnapshot passed
    change (deliverOne receiver update).needsSnapshot = receiver.needsSnapshot at flag
    exact (ih (flag.trans awaiting) later others).trans passed

theorem sortedCons {rest : List WorldUpdate} : Sorted receiver (update :: rest) ↔
    (Meets RevealsGap receiver (arrivals receiver update) →
      Along deliverOne BringsNoSnapshot (deliverOne receiver update) rest) ∧
    Sorted (deliverOne receiver update) rest := by
  constructor
  · intro sorted
    exact ⟨sorted [] update rest rfl, fun before other after split =>
      sorted (update :: before) other after (by rw [split]; rfl)⟩
  · rintro ⟨here, later⟩ before other after split gap
    cases before with
    | nil =>
      cases split
      exact here gap
    | cons first before =>
      cases split
      exact later before other after rfl gap

theorem gatheredApplies (accepted : Along deliverOne NotRejected receiver group)
    (sorted : Sorted receiver group) :
    core (applyUpdates receiver (gathered receiver group)).1 = core (run deliverOne receiver group) := by
  induction group generalizing receiver with
  | nil => rfl
  | cons update rest ih =>
    obtain ⟨here, later⟩ := (alongCons deliverOne).mp accepted
    obtain ⟨calm, others⟩ := sortedCons.mp sorted
    obtain ⟨applies, ends⟩ := oneApplies here
    have onward := ih later others
    change core (applyUpdates receiver (arrivals receiver update ++
      gathered (deliverOne receiver update) rest)).1 = core (run deliverOne (deliverOne receiver update) rest)
    cases made : applyUpdates receiver (arrivals receiver update) with
    | mk after outcome =>
      obtain ⟨count, result⟩ := outcome
      rw [made] at applies ends
      cases result with
      | ok _ =>
        rw [(updatesAppend made _).1, ← onward]
        exact (updatesMatching applies.symm _).1
      | error e =>
        obtain ⟨ok, -⟩ | ⟨-, gap, awaiting⟩ := ends
        · cases ok
        · rw [updatesStopped made]
          exact applies.symm.trans (awaitingRun awaiting later (calm gap)).symm

theorem gatheredStops {before rest : List WorldUpdate}
    (accepted : Along deliverOne NotRejected receiver (before ++ update :: rest))
    (gap : Meets RevealsGap (run deliverOne receiver before)
      (arrivals (run deliverOne receiver before) update)) :
    (applyUpdates receiver (gathered receiver (before ++ update :: rest))).1.needsSnapshot = true := by
  induction before generalizing receiver with
  | nil =>
    change (applyUpdates receiver (arrivals receiver update ++
      gathered (deliverOne receiver update) rest)).1.needsSnapshot = true
    have ends := loopEnds receiver (arrivals receiver update)
    cases made : applyUpdates receiver (arrivals receiver update) with
    | mk after outcome =>
      rw [made] at ends
      cases ends with
      | through decision none => exact absurd gap none
      | refused rejected none => exact absurd gap none
      | requested asked awaiting =>
        rw [updatesStopped made]
        exact awaiting
  | cons first before ih =>
    obtain ⟨here, later⟩ := (alongCons deliverOne).mp accepted
    obtain ⟨applies, ends⟩ := oneApplies here
    have onward := ih later gap
    change (applyUpdates receiver (arrivals receiver first ++
      gathered (deliverOne receiver first) (before ++ update :: rest))).1.needsSnapshot = true
    cases made : applyUpdates receiver (arrivals receiver first) with
    | mk after outcome =>
      obtain ⟨count, result⟩ := outcome
      rw [made] at applies ends
      cases result with
      | ok _ =>
        have same := (updatesMatching applies
          (gathered (deliverOne receiver first) (before ++ update :: rest))).1
        have flag := congrArg ClientWorldUpdateReceiver.needsSnapshot same
        rw [(updatesAppend made _).1]
        exact flag.symm.trans onward
      | error e =>
        obtain ⟨ok, -⟩ | ⟨-, -, awaiting⟩ := ends
        · cases ok
        · have flag := congrArg ClientWorldUpdateReceiver.needsSnapshot applies
          rw [updatesStopped made]
          exact flag.symm.trans awaiting

def BetweenCalls (receiver : ClientWorldUpdateReceiver F) : Prop :=
  Settled worldUpdateAccumulator receiver.accumulator

theorem receiveBuffer (receiver : ClientWorldUpdateReceiver F) (bytes : Bytes) :
    (receiver.receive bytes).1.accumulator =
      (append worldUpdateAccumulator receiver.accumulator bytes).1 := by
  cases taken : append worldUpdateAccumulator receiver.accumulator bytes with
  | mk accumulator rest =>
    obtain ⟨updates, result⟩ := rest
    cases result with
    | ok _ => exact (receiveApplies taken).2
    | error e =>
      unfold ClientWorldUpdateReceiver.receive
      rw [taken]
      rfl

theorem receiveSettled (receiver : ClientWorldUpdateReceiver F) (bytes : Bytes) :
    BetweenCalls (receiver.receive bytes).1 := by
  unfold BetweenCalls
  rw [receiveBuffer]
  exact appendSettles updateStable receiver.accumulator bytes

theorem reachedBetween (calls : List (ReceiverCall F)) :
    BetweenCalls (run callReceiver .initial calls) := by
  have kept (receiver : ClientWorldUpdateReceiver F) (call : ReceiverCall F)
      (settled : BetweenCalls receiver) : BetweenCalls (callReceiver receiver call) := by
    cases call with
    | receive bytes => exact receiveSettled receiver bytes
    | bindLocalSession sessionId => exact settled
    | beginReconnect => exact .inr rfl
    | predict clientInputSequence dx dy dz => exact settled
  have start : BetweenCalls (.initial : ClientWorldUpdateReceiver F) := .inr rfl
  generalize (.initial : ClientWorldUpdateReceiver F) = receiver at start
  induction calls generalizing receiver with
  | nil => exact start
  | cons call calls ih => exact ih _ (kept receiver call start)

theorem deliverNothing (between : BetweenCalls receiver) : Alike (deliver receiver []) receiver := by
  obtain ⟨kept, none⟩ := appendNothing between
  unfold deliver joined
  rw [List.flatMap_nil]
  refine alikeParts.mpr ⟨?_, (receiveBuffer receiver []).trans kept⟩
  cases taken : append worldUpdateAccumulator receiver.accumulator [] with
  | mk accumulator rest =>
    obtain ⟨updates, result⟩ := rest
    rw [taken] at none
    cases none
    cases result with
    | ok _ => exact (receiveApplies taken).1
    | error e =>
      unfold ClientWorldUpdateReceiver.receive
      rw [taken]
      rfl

theorem groupAlike (between : BetweenCalls receiver)
    (accepted : Along deliverOne NotRejected receiver group) (unbroken : Unbroken receiver group) :
    Alike (deliver receiver group) (run deliverOne receiver group) := by
  cases group with
  | nil => exact deliverNothing between
  | cons update rest =>
    have taken := gatheredTaken (List.cons_ne_nil _ _) accepted unbroken.fits
    obtain ⟨applies, kept⟩ := receiveApplies taken
    exact alikeParts.mpr ⟨applies.trans (gatheredApplies accepted unbroken.sorted), kept⟩

theorem singlesAlike {a b : ClientWorldUpdateReceiver F} (alike : Alike a b)
    (updates : List WorldUpdate) : Alike (run deliverOne a updates) (run deliverOne b updates) := by
  cases updates with
  | nil => exact alike
  | cons update updates =>
    have same : deliverOne a update = deliverOne b update := deliverAlike alike [update]
    simp only [run, List.foldl_cons, same]
    rfl

theorem notRejectedAlike {a b : ClientWorldUpdateReceiver F} (alike : Alike a b)
    {updates : List WorldUpdate} (accepted : Along deliverOne NotRejected a updates) :
    Along deliverOne NotRejected b updates := by
  cases updates with
  | nil =>
    intro before update after split
    simp at split
  | cons update updates =>
    have same : deliverOne a update = deliverOne b update := deliverAlike alike [update]
    obtain ⟨first, later⟩ := (alongCons deliverOne).mp accepted
    unfold NotRejected at first
    rw [same] at first later
    exact (alongCons deliverOne).mpr ⟨first, later⟩

theorem acceptedAlive (alive : receiver.accumulator.failed = false)
    (accepted : Along deliverOne NotRejected receiver group) :
    (run deliverOne receiver group).accumulator.failed = false := by
  induction group generalizing receiver with
  | nil => exact alive
  | cons update rest ih =>
    obtain ⟨here, later⟩ := (alongCons deliverOne).mp accepted
    exact ih (appendTaken (oneTaken here)).2.1 later

theorem alikeFits (accepted : Along deliverOne NotRejected receiver (update :: group))
    (alike : Alike (deliver receiver (update :: group)) (run deliverOne receiver (update :: group))) :
    (joined updateBytes (update :: group)).length ≤
      worldUpdateFrameHeaderSize + maxUpdatePayload - receiver.accumulator.buffered.length := by
  have alive := (appendTaken (oneTaken ((alongCons deliverOne).mp accepted).1)).2.2.2
  have kept := (receiveBuffer receiver _).symm.trans (alikeParts.mp alike).2
  by_contra large
  have tooBig : (joined updateBytes (update :: group)).length > worldUpdateAccumulator.limit -
      receiver.accumulator.buffered.length := Nat.not_le.mp large
  have refused : (append worldUpdateAccumulator receiver.accumulator
      (joined updateBytes (update :: group))).1.failed = true := by
    unfold append
    rw [if_neg (ne_true_of_eq_false alive), if_pos tooBig]
  have failed := refused.symm.trans (congrArg Accumulator.failed kept)
  exact absurd (failed.trans (acceptedAlive alive accepted)) (by decide)

theorem groupingExact (between : BetweenCalls receiver)
    (accepted : Along deliverOne NotRejected receiver group)
    (inStep : (run deliverOne receiver group).needsSnapshot = false) :
    Alike (deliver receiver group) (run deliverOne receiver group) ↔ Unbroken receiver group := by
  refine ⟨fun alike => ?_, groupAlike between accepted⟩
  cases group with
  | nil => exact ⟨Nat.zero_le _, fun before update after split => by simp at split⟩
  | cons first rest =>
    have fits := alikeFits accepted alike
    refine ⟨fits, fun before update after split gap => ?_⟩
    have taken := gatheredTaken (List.cons_ne_nil _ _) accepted fits
    have reached := (receiveApplies taken).1.symm.trans (alikeParts.mp alike).1
    have flag := congrArg ClientWorldUpdateReceiver.needsSnapshot reached
    rw [split] at accepted flag inStep
    have awaiting := gatheredStops accepted gap
    exact absurd (awaiting.symm.trans (flag.trans inStep)) (by decide)

theorem groupsAlike (groups : List (List WorldUpdate)) (between : BetweenCalls receiver)
    (accepted : Along deliverOne NotRejected receiver groups.flatten)
    (unbroken : Along deliver Unbroken receiver groups) :
    Alike (run deliver receiver groups) (run deliverOne receiver groups.flatten) := by
  induction groups generalizing receiver with
  | nil => rfl
  | cons group groups ih =>
    obtain ⟨here, later⟩ := (alongCons deliver).mp unbroken
    rw [List.flatten_cons] at accepted ⊢
    obtain ⟨first, rest⟩ := alongAppend accepted
    have same := groupAlike between first here
    have tail := ih (receiveSettled receiver _) (notRejectedAlike same.symm rest) later
    have joined := tail.trans (singlesAlike same groups.flatten)
    rw [runAppend]
    exact joined

theorem firstBroken (before : List (List WorldUpdate)) (between : BetweenCalls receiver)
    (accepted : Along deliverOne NotRejected receiver (before.flatten ++ group))
    (unbroken : Along deliver Unbroken receiver before)
    (inStep : (run deliverOne receiver (before.flatten ++ group)).needsSnapshot = false) :
    Alike (run deliver receiver (before ++ [group])) (run deliverOne receiver (before.flatten ++ group)) ↔
      Unbroken (run deliver receiver before) group := by
  obtain ⟨early, late⟩ := alongAppend accepted
  have same := groupsAlike before between early unbroken
  have settled : BetweenCalls (run deliver receiver before) := by
    cases before using List.reverseRecOn with
    | nil => exact between
    | append_singleton before last =>
      rw [runAppend]
      exact receiveSettled _ _
  have here := notRejectedAlike same.symm late
  have onward := singlesAlike same group
  have flag : (run deliverOne (run deliver receiver before) group).needsSnapshot = false := by
    have flags := congrArg ClientWorldUpdateReceiver.needsSnapshot (alikeParts.mp onward).1
    rw [runAppend] at inStep
    exact flags.trans inStep
  rw [← groupingExact settled here flag, runAppend, runAppend]
  exact ⟨fun alike => alike.trans onward.symm, fun alike => alike.trans onward⟩

theorem groupingAgrees (calls : List (ReceiverCall F)) (groups : List (List WorldUpdate))
    (accepted : Along deliverOne NotRejected (run callReceiver .initial calls) groups.flatten) :
    (Along deliver Unbroken (run callReceiver .initial calls) groups →
      Alike (run deliver (run callReceiver .initial calls) groups)
        (run deliverOne (run callReceiver .initial calls) groups.flatten)) ∧
    ∀ before group after, groups = before ++ group :: after →
      Along deliver Unbroken (run callReceiver .initial calls) before →
      (run deliverOne (run callReceiver .initial calls) (before.flatten ++ group)).needsSnapshot = false →
      (Alike (run deliver (run callReceiver .initial calls) (before ++ [group]))
          (run deliverOne (run callReceiver .initial calls) (before.flatten ++ group)) ↔
        Unbroken (run deliver (run callReceiver .initial calls) before) group) := by
  have between := reachedBetween (F := F) calls
  refine ⟨groupsAlike groups between accepted, fun before group after split unbroken inStep => ?_⟩
  rw [split, List.flatten_append, List.flatten_cons, ← List.append_assoc] at accepted
  exact firstBroken before between (alongAppend accepted).1 unbroken inStep

end

def numbered (sequence : UInt64) : WorldUpdate :=
  ⟨currentProtocolVersion, .event, 1, sequence, 1, []⟩

def calmSnapshot : WorldUpdate :=
  ⟨currentProtocolVersion, .snapshot, 1, 5, 0,
    ascii "ether.fire=0;ether.water=0;ether.earth=0;ether.air=0;ether.hazard=0"⟩

def fresh : ClientWorldUpdateReceiver ℚ := .initial

def mixedGroups : List (List WorldUpdate) :=
  [[numbered 2], [calmSnapshot, numbered 6, numbered 6, numbered 9], [numbered 10, calmSnapshot]]

theorem mixedAccepted : Along deliverOne NotRejected fresh mixedGroups.flatten := by
  unfold mixedGroups
  simp only [List.flatten_cons, List.flatten_nil, List.cons_append, List.nil_append, alongCons]
  unfold NotRejected
  refine ⟨?_, ?_, ?_, ?_, ?_, ?_, ?_, ?_⟩
  all_goals decide +kernel

theorem sortedNone (receiver : ClientWorldUpdateReceiver ℚ) : Sorted receiver [] := by
  intro before update after split
  simp at split

theorem sortedPast {receiver : ClientWorldUpdateReceiver ℚ} {update : WorldUpdate}
    {rest : List WorldUpdate} (whole : arrivals receiver update = [update])
    (calm : ¬ RevealsGap receiver update) (later : Sorted (deliverOne receiver update) rest) :
    Sorted receiver (update :: rest) := by
  refine sortedCons.mpr ⟨fun gap => ?_, later⟩
  rw [whole, meetsOne] at gap
  exact absurd gap calm

theorem sortedLast (receiver : ClientWorldUpdateReceiver ℚ) (update : WorldUpdate) :
    Sorted receiver [update] := by
  refine sortedCons.mpr ⟨fun _ before other after split => ?_, sortedNone _⟩
  simp at split

theorem mixedUnbroken : Along deliver Unbroken fresh mixedGroups := by
  unfold mixedGroups
  simp only [alongCons]
  refine ⟨⟨by decide +kernel, sortedLast _ _⟩, ⟨by decide +kernel, ?_⟩, ⟨by decide +kernel, ?_⟩, ?_⟩
  · refine sortedPast (by decide +kernel) (by decide +kernel) ?_
    refine sortedPast (by decide +kernel) (by decide +kernel) ?_
    exact sortedPast (by decide +kernel) (by decide +kernel) (sortedLast _ _)
  · exact sortedPast (by decide +kernel) (by decide +kernel) (sortedLast _ _)
  · exact alongNil _ _ _

theorem groupingAgreesMixed :
    Alike (run deliver fresh mixedGroups) (run deliverOne fresh mixedGroups.flatten) ∧
    (run deliver fresh mixedGroups).expected = 6 :=
  ⟨(groupingAgrees [] mixedGroups mixedAccepted).1 mixedUnbroken, by decide +kernel⟩

-- A first event numbered 2 reveals a gap that the Snapshot behind it would close.
theorem snapshotBehindGap :
    (∀ update ∈ [numbered 2, calmSnapshot], ValidUpdate update) ∧
    Along deliverOne NotRejected fresh [numbered 2, calmSnapshot] ∧
    (run deliver fresh [[numbered 2], [calmSnapshot]]).needsSnapshot = false ∧
    (run deliver fresh [[numbered 2, calmSnapshot]]).needsSnapshot = true := by
  have split : mixedGroups.flatten = [numbered 2, calmSnapshot] ++
      [numbered 6, numbered 6, numbered 9, numbered 10, calmSnapshot] := rfl
  have accepted := mixedAccepted
  rw [split] at accepted
  exact ⟨by decide, (alongAppend accepted).1, by decide +kernel, by decide +kernel⟩

end SeedOrigin.ReceiverBatches
