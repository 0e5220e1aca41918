import Mathlib.Logic.Relation
import SeedOrigin.FramePhases

/-! The commands that wait for a frame: every way they are taken in, the two bounds
on how many wait, and the order they are served in. -/
namespace SeedOrigin.CommandIntake
open SeedOrigin.Octets SeedOrigin.Numbers SeedOrigin.ClientInput SeedOrigin.CommandWire
open SeedOrigin.ClientConnection SeedOrigin.CommandDispatch SeedOrigin.Runtime SeedOrigin.Runs
open SeedOrigin.ServerRun SeedOrigin.FramePhases
open Relation (ReflTransGen)

section
variable {F σ : Type}

-- Commands that come from no connection wait under id 0.
def ServerRuntime.submit (runtime : ServerRuntime F σ) (command : NetworkCommand) :
    ServerRuntime F σ × Bool :=
  if runtime.running = false ∨ runtime.pendingCommands.length ≥ maxPendingCommands then (runtime, false)
  else match validateCommand command with
    | .error _ => (runtime, false)
    | .ok _ => ({ runtime with pendingCommands := runtime.pendingCommands ++ [⟨0, command⟩] }, true)

def ServerRuntime.ingest (runtime : ServerRuntime F σ) (session : ClientSession) (received : RecvResult) :
    ServerRuntime F σ × ClientSession × ReceiveStatus × Option String :=
  if runtime.running = false then (runtime, session, .failed, some "server runtime is stopped")
  else
    let (session, commands, status, error) := session.receive received
    if status ≠ .commands then (runtime, session, status, error)
    else match enqueueCommands runtime.pendingCommands 0 commands with
      | .error e => (runtime, session, .failed, some e)
      | .ok pending => ({ runtime with pendingCommands := pending }, session, .commands, none)

def ServerRuntime.drainCommands (runtime : ServerRuntime F σ) :
    ServerRuntime F σ × List NetworkCommand :=
  ({ runtime with pendingCommands := [] }, runtime.pendingCommands.map PendingCommand.command)

end

-- The difference of two std::size_t, which wraps below zero.
def sizeDifference (a b : Nat) : Nat := (2 ^ 64 + a - b) % 2 ^ 64

def pendingOf (connectionId : Nat) (pending : List PendingCommand) : Nat :=
  pending.countP (fun entry => entry.connectionId = connectionId)

-- enqueueCommands with the subtractions as the source has them.
def enqueueUnsigned (pending : List PendingCommand) (connectionId : Nat)
    (commands : List NetworkCommand) : Except String (List PendingCommand) :=
  if commands.length > sizeDifference maxPendingCommands pending.length then
    .error "server command queue is full"
  else
    let connectionPending := pendingOf connectionId pending
    if connectionPending ≥ maxPendingCommandsPerConnection ∨
        commands.length > sizeDifference maxPendingCommandsPerConnection connectionPending then
      .error "connection command queue is full"
    else do
      commands.forM validateCommand
      return pending ++ commands.map (fun command => ⟨connectionId, command⟩)

structure Bounded (pending : List PendingCommand) : Prop where
  total : pending.length ≤ maxPendingCommands
  own : ∀ c, c ≠ 0 → pendingOf c pending ≤ maxPendingCommandsPerConnection

def Batch (before after : List PendingCommand) : Prop :=
  ∃ c commands, enqueueCommands before c commands = .ok after

abbrev Batches : List PendingCommand → List PendingCommand → Prop := ReflTransGen Batch

theorem differenceExact {a b : Nat} (inside : b ≤ a) (small : a < 2 ^ 64) :
    sizeDifference a b = a - b := by
  unfold sizeDifference
  omega

theorem unsignedSame {pending : List PendingCommand} (bounded : Bounded pending) (c : Nat)
    (commands : List NetworkCommand) :
    enqueueUnsigned pending c commands = enqueueCommands pending c commands := by
  have total := differenceExact bounded.total (by decide)
  unfold enqueueUnsigned enqueueCommands
  rw [total]
  by_cases full : pendingOf c pending ≥ maxPendingCommandsPerConnection
  · have same : pending.countP (fun entry => entry.connectionId = c) ≥ maxPendingCommandsPerConnection :=
      full
    simp only [full, same, true_or]
  · have own := differenceExact (not_le.mp full).le (by decide)
    dsimp only
    rw [own]
    rfl

theorem pendingAppended (c d : Nat) (pending : List PendingCommand) (commands : List NetworkCommand) :
    pendingOf d (pending ++ commands.map (fun command => ⟨c, command⟩)) =
      pendingOf d pending + if c = d then commands.length else 0 := by
  unfold pendingOf
  rw [List.countP_append, List.countP_map]
  congr 1
  split_ifs with same
  · exact List.countP_eq_length.mpr (by simp [same])
  · exact List.countP_eq_zero.mpr (by simp [same])

theorem batchBounded {before after : List PendingCommand} (batch : Batch before after)
    (bounded : Bounded before) : Bounded after := by
  obtain ⟨c, commands, made⟩ := batch
  obtain ⟨rfl, room, own⟩ := enqueueTaken made
  have total := bounded.total
  refine ⟨by rw [List.length_append, List.length_map]; omega, fun d real => ?_⟩
  rw [pendingAppended]
  split_ifs with same
  · rw [← same]
    exact own
  · exact bounded.own d real

theorem batchesBounded {before after : List PendingCommand} (batches : Batches before after)
    (bounded : Bounded before) : Bounded after := by
  induction batches with
  | refl => exact bounded
  | tail _ last ih => exact batchBounded last ih

theorem batchesExtend {before after : List PendingCommand} (batches : Batches before after) :
    before <+: after := by
  induction batches with
  | refl => exact List.prefix_refl _
  | tail _ last ih =>
    obtain ⟨c, commands, made⟩ := last
    obtain ⟨rfl, -⟩ := enqueueTaken made
    exact ih.trans (List.prefix_append _ _)

section
variable {F σ : Type}

theorem receiveBatch (env : FrameEnv) (state : ServerRuntime F σ × String) (c : Nat) :
    Batches state.1.pendingCommands (receiveClient env state c).1.pendingCommands := by
  obtain ⟨runtime, error⟩ := state
  unfold receiveClient
  dsimp only
  split
  · exact .refl
  · split
    · exact .refl
    · split
      · exact .refl
      · rename_i made
        exact .single ⟨c, _, made⟩
    · exact .refl
    · exact .refl

theorem receiveBatches (env : FrameEnv) (runtime : ServerRuntime F σ) (error : String) :
    Batches runtime.pendingCommands (receiveClients env runtime error).1.pendingCommands := by
  unfold receiveClients
  exact List.foldlRecOn (motive := fun state : ServerRuntime F σ × String =>
    Batches runtime.pendingCommands state.1.pendingCommands) _ _ .refl
    (fun state batches c _ => batches.trans (receiveBatch env state c))

theorem acceptsPending (fuel : Nat) (outcomes : List AcceptOutcome) (runtime : ServerRuntime F σ)
    (error : String) (accepted : Nat) :
    (acceptClients fuel outcomes runtime error accepted).1.pendingCommands = runtime.pendingCommands :=
  acceptsKeep (P := fun opened => opened.pendingCommands = runtime.pendingCommands) (fun _ same => same)
    fuel outcomes rfl error accepted

def serving (env : FrameEnv) (runtime : ServerRuntime F σ) : List PendingCommand :=
  (received env runtime).1.pendingCommands

theorem servingBatches (env : FrameEnv) (runtime : ServerRuntime F σ) :
    Batches runtime.pendingCommands (serving env runtime) := by
  obtain ⟨accepting, error, count, made, same⟩ := receivedFrom env runtime
  have still := acceptsPending maxAcceptsPerFrame env.accepts runtime "" 0
  rw [made] at still
  unfold serving
  rw [same, ← still]
  exact receiveBatches env accepting error

theorem removedPending (runtime : ServerRuntime F σ) :
    (removeClosedClients runtime).pendingCommands = runtime.pendingCommands := by
  unfold removeClosedClients
  refine List.foldlRecOn (motive := fun state : ServerRuntime F σ =>
    state.pendingCommands = runtime.pendingCommands) _ _ rfl ?_
  intro state same c _
  refine Eq.trans ?_ same
  unfold removeClosed
  split
  · rfl
  · split <;> rfl

theorem flushedPending (env : FrameEnv) (runtime : ServerRuntime F σ) (error : String) :
    (flushClients env runtime error).1.pendingCommands = runtime.pendingCommands := by
  unfold flushClients
  refine List.foldlRecOn (motive := fun state : ServerRuntime F σ × String =>
    state.1.pendingCommands = runtime.pendingCommands) _ _ rfl ?_
  intro state same c _
  refine Eq.trans ?_ same
  unfold flushClient
  dsimp only
  split <;> rfl

theorem advancedPending (runtime : ServerRuntime F σ) :
    (ServerRuntime.advanceFrame runtime).pendingCommands = runtime.pendingCommands := rfl

variable [FloatOps F] (ports : ServerPorts F σ)

theorem framePending (env : FrameEnv) {runtime : ServerRuntime F σ} (running : runtime.running = true) :
    (processFrame ports env runtime).1.pendingCommands = [] := by
  rw [framePhases ports env running]
  have none : (served ports env runtime).1.pendingCommands = [] :=
    (servedAnswered ports env runtime).pending
  have removed : (flushing ports env runtime).pendingCommands = [] :=
    (removedPending _).trans none
  have sent : (flushed ports env runtime).pendingCommands = [] :=
    (flushedPending _ _ _).trans removed
  rw [advancedPending, removedPending]
  exact sent

end

inductive IntakeEvent where
  | submit (command : NetworkCommand)
  | ingest (session : ClientSession) (received : RecvResult)
  | enqueueCommands (connectionId : Nat) (commands : List NetworkCommand)
  | processFrame (env : FrameEnv)
  | drainCommands

structure Intake (F σ : Type) where
  runtime : ServerRuntime F σ
  appended : List PendingCommand := []
  processed : List NetworkCommand := []

section
variable {F σ : Type} [FloatOps F] (ports : ServerPorts F σ)

def takeIn (log : Intake F σ) (runtime : ServerRuntime F σ) : Intake F σ :=
  { log with
    runtime := runtime
    appended := log.appended ++ runtime.pendingCommands.drop log.runtime.pendingCommands.length }

def intakeStep (log : Intake F σ) : IntakeEvent → Intake F σ
  | .submit command => takeIn log (ServerRuntime.submit log.runtime command).1
  | .ingest session received => takeIn log (ServerRuntime.ingest log.runtime session received).1
  | .enqueueCommands connectionId commands =>
    match Runtime.enqueueCommands log.runtime.pendingCommands connectionId commands with
    | .error _ => log
    | .ok pending => takeIn log { log.runtime with pendingCommands := pending }
  | .processFrame env =>
    if log.runtime.running = false then log
    else
      { runtime := (Runtime.processFrame ports env log.runtime).1
        appended := log.appended ++
          (serving env log.runtime).drop log.runtime.pendingCommands.length
        processed := log.processed ++ (serving env log.runtime).map PendingCommand.command }
  | .drainCommands =>
    { log with
      runtime := (ServerRuntime.drainCommands log.runtime).1
      processed := log.processed ++ (ServerRuntime.drainCommands log.runtime).2 }

def Whole (log : Intake F σ) (c : Nat) (commands : List NetworkCommand) : Prop :=
  intakeStep ports log (.enqueueCommands c commands) = log ∨
  (intakeStep ports log (.enqueueCommands c commands)).runtime =
    { log.runtime with
      pendingCommands := log.runtime.pendingCommands ++ commands.map (fun command => ⟨c, command⟩) }

structure InTurn (runtime : ServerRuntime F σ) (env : FrameEnv) : Prop where
  read : Batches runtime.pendingCommands (serving env runtime)
  order : served ports env runtime = run (serveCommand ports) (toServe env runtime) (serving env runtime)
  rest : (Runtime.processFrame ports env runtime).1 =
    ServerRuntime.advanceFrame (removeClosedClients (flushed ports env runtime))

structure Drained (runtime : ServerRuntime F σ) : Prop where
  order : (ServerRuntime.drainCommands runtime).2 = runtime.pendingCommands.map PendingCommand.command
  rest : (ServerRuntime.drainCommands runtime).1 = { runtime with pendingCommands := [] }

structure Orderly (log : Intake F σ) : Prop where
  bounded : Bounded log.runtime.pendingCommands
  queue : log.appended.map PendingCommand.command =
    log.processed ++ log.runtime.pendingCommands.map PendingCommand.command
  whole : ∀ c commands, Whole ports log c commands
  frames : log.runtime.running = true → ∀ env, InTurn ports log.runtime env
  drained : Drained log.runtime
  unsigned : ∀ pending, Batches log.runtime.pendingCommands pending → ∀ c commands,
    enqueueUnsigned pending c commands = Runtime.enqueueCommands pending c commands

structure Kept (log : Intake F σ) : Prop where
  bounded : Bounded log.runtime.pendingCommands
  queue : log.appended.map PendingCommand.command =
    log.processed ++ log.runtime.pendingCommands.map PendingCommand.command

omit [FloatOps F] in
theorem keptIn {log : Intake F σ} (kept : Kept log) {runtime : ServerRuntime F σ}
    (grows : log.runtime.pendingCommands <+: runtime.pendingCommands)
    (bounded : Bounded runtime.pendingCommands) : Kept (takeIn log runtime) := by
  refine ⟨bounded, ?_⟩
  obtain ⟨more, split⟩ := grows
  simp only [takeIn]
  rw [← split, List.drop_left, List.map_append, List.map_append, kept.queue, List.append_assoc]

omit [FloatOps F] in
theorem submitGrows {runtime : ServerRuntime F σ} (bounded : Bounded runtime.pendingCommands)
    (command : NetworkCommand) :
    runtime.pendingCommands <+: (ServerRuntime.submit runtime command).1.pendingCommands ∧
      Bounded (ServerRuntime.submit runtime command).1.pendingCommands := by
  unfold ServerRuntime.submit
  split_ifs with refused
  · exact ⟨List.prefix_refl _, bounded⟩
  · cases validateCommand command with
    | error e => exact ⟨List.prefix_refl _, bounded⟩
    | ok done =>
      refine ⟨List.prefix_append _ _, ?_, fun d real => ?_⟩
      · simp only [not_or, not_le] at refused
        rw [List.length_append, List.length_singleton]
        exact refused.2
      · have appended := pendingAppended 0 d runtime.pendingCommands [command]
        rw [if_neg real.symm] at appended
        exact appended.trans_le (bounded.own d real)

omit [FloatOps F] in
theorem ingestGrows (runtime : ServerRuntime F σ) (session : ClientSession) (received : RecvResult) :
    Batches runtime.pendingCommands (ServerRuntime.ingest runtime session received).1.pendingCommands := by
  unfold ServerRuntime.ingest
  split_ifs with stopped
  · exact .refl
  · dsimp only
    split_ifs with other
    · exact .refl
    · split
      · exact .refl
      · rename_i made
        exact .single ⟨0, _, made⟩

theorem intakeKept {log : Intake F σ} (kept : Kept log) (event : IntakeEvent) :
    Kept (intakeStep ports log event) := by
  cases event with
  | submit command =>
    obtain ⟨grows, bounded⟩ := submitGrows kept.bounded command
    exact keptIn kept grows bounded
  | ingest session received =>
    have batches := ingestGrows log.runtime session received
    exact keptIn kept (batchesExtend batches) (batchesBounded batches kept.bounded)
  | enqueueCommands c commands =>
    simp only [intakeStep]
    cases made : Runtime.enqueueCommands log.runtime.pendingCommands c commands with
    | error e => exact kept
    | ok pending =>
      have batches : Batches log.runtime.pendingCommands pending := .single ⟨c, commands, made⟩
      exact keptIn kept (batchesExtend batches) (batchesBounded batches kept.bounded)
  | processFrame env =>
    simp only [intakeStep]
    split_ifs with stopped
    · exact kept
    · have running : log.runtime.running = true := by simpa using stopped
      obtain ⟨more, split⟩ := batchesExtend (servingBatches env log.runtime)
      have left := framePending ports env running
      refine ⟨?_, ?_⟩
      · dsimp only
        rw [left]
        exact ⟨Nat.zero_le _, fun _ _ => Nat.zero_le _⟩
      · dsimp only
        rw [left, ← split, List.drop_left, List.map_append, List.map_append, kept.queue, List.map_nil,
          List.append_nil, List.append_assoc]
  | drainCommands =>
    refine ⟨⟨Nat.zero_le _, fun _ _ => Nat.zero_le _⟩, ?_⟩
    simp only [intakeStep, ServerRuntime.drainCommands, List.map_nil, List.append_nil]
    exact kept.queue

theorem intakeWhole (log : Intake F σ) (c : Nat) (commands : List NetworkCommand) :
    Whole ports log c commands := by
  unfold Whole
  cases made : Runtime.enqueueCommands log.runtime.pendingCommands c commands with
  | error e =>
    left
    simp only [intakeStep, made]
  | ok pending =>
    right
    simp only [intakeStep, made, takeIn, (enqueueTaken made).1]

theorem intakeOrderly {runtime : ServerRuntime F σ} (fresh : runtime.pendingCommands = [])
    (events : List IntakeEvent) :
    Always (intakeStep ports) (Orderly ports) ⟨runtime, [], []⟩ events := by
  have start : Kept (⟨runtime, [], []⟩ : Intake F σ) := by
    refine ⟨?_, by rw [fresh]; rfl⟩
    rw [fresh]
    exact ⟨Nat.zero_le _, fun _ _ => Nat.zero_le _⟩
  refine alwaysOf (I := Kept) (P := fun _ _ => True) ?_ (fun log event kept _ => intakeKept ports kept event)
    start (fun _ _ _ _ => trivial)
  intro log kept
  exact
    { bounded := kept.bounded
      queue := kept.queue
      whole := intakeWhole ports log
      frames := fun running env => ⟨servingBatches env log.runtime, rfl, framePhases ports env running⟩
      drained := ⟨rfl, rfl⟩
      unsigned := fun pending batches => unsignedSame (batchesBounded batches kept.bounded) }

end

def duel : List IntakeEvent :=
  [.submit ⟨1, .login, 0, [97]⟩, .enqueueCommands 7 [⟨1, .chat, 3, [98]⟩], .drainCommands,
    .submit ⟨1, .chat, 3, [99]⟩, .processFrame (loginsFrame 1)]

theorem intakeOrderlyDuel :
    Always (intakeStep openPorts) (Orderly openPorts)
      ⟨(started () twoNames : ServerRuntime ℚ Unit), [], []⟩ duel ∧
    (run (intakeStep openPorts) ⟨(started () twoNames : ServerRuntime ℚ Unit), [], []⟩ duel).processed =
      [⟨1, .login, 0, [97]⟩, ⟨1, .chat, 3, [98]⟩, ⟨1, .chat, 3, [99]⟩,
        ⟨1, .login, 0, ascii "challenge"⟩] :=
  ⟨intakeOrderly openPorts rfl duel, by decide +kernel⟩

end SeedOrigin.CommandIntake
