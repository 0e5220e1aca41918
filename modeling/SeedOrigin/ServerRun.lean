import SeedOrigin.FieldInputs
import SeedOrigin.Runs
import SeedOrigin.Runtime

/-! Runs of the server: frames with any traffic, publications of any updates and
world frames on the field, in any order. -/
namespace SeedOrigin.ServerRun
open SeedOrigin.Octets SeedOrigin.Numbers SeedOrigin.ClientInput SeedOrigin.Inputs
open SeedOrigin.CommandWire SeedOrigin.UpdateWire SeedOrigin.Sessions SeedOrigin.Presence
open SeedOrigin.ClientConnection SeedOrigin.CommandDispatch SeedOrigin.Runtime SeedOrigin.Runs

inductive ServerEvent (F : Type) where
  | frame (env : FrameEnv)
  | publish (updates : List WorldUpdate) (ownerAcks : List (MovementAck F))
  | world (frame : WorldFrameInputs F)

section
variable {F σ : Type} [FloatOps F]

def started (auth : σ) (names : IntMap Bytes) : ServerRuntime F σ :=
  { running := true
    services := { presence := { field := Field.initial, operatorNamesByAuthId := names }, auth := auth } }

def ServerRuntime.applyWorld (runtime : ServerRuntime F σ) (frame : WorldFrameInputs F) :
    ServerRuntime F σ :=
  let presence := runtime.services.presence
  let field := (presence.field.processInputs frame.inputs frame.worldTick).1
  { runtime with services := { runtime.services with presence := { presence with field := field } } }

def serverStep (ports : ServerPorts F σ) (runtime : ServerRuntime F σ) : ServerEvent F → ServerRuntime F σ
  | .frame env => (processFrame ports env runtime).1
  | .publish updates ownerAcks => publish runtime updates ownerAcks
  | .world frame => ServerRuntime.applyWorld runtime frame

def received (env : FrameEnv) (runtime : ServerRuntime F σ) : ServerRuntime F σ × String :=
  let (accepting, error, _) := acceptClients maxAcceptsPerFrame env.accepts runtime "" 0
  receiveClients env accepting error

def toServe (env : FrameEnv) (runtime : ServerRuntime F σ) : ServerRuntime F σ × String :=
  ({ (received env runtime).1 with pendingCommands := [] }, (received env runtime).2)

def served (ports : ServerPorts F σ) (env : FrameEnv) (runtime : ServerRuntime F σ) :
    ServerRuntime F σ × String :=
  run (serveCommand ports) (toServe env runtime) (received env runtime).1.pendingCommands

def flushing (ports : ServerPorts F σ) (env : FrameEnv) (runtime : ServerRuntime F σ) :
    ServerRuntime F σ := removeClosedClients (served ports env runtime).1

def flushed (ports : ServerPorts F σ) (env : FrameEnv) (runtime : ServerRuntime F σ) :
    ServerRuntime F σ :=
  (flushClients env (flushing ports env runtime) (served ports env runtime).2).1

def ServerRuntime.advanceFrame (runtime : ServerRuntime F σ) : ServerRuntime F σ :=
  { runtime with
    worldTick := runtime.worldTick + 1
    services := { runtime.services with inputQueue := runtime.services.inputQueue.takeFrame.1 } }

def Serves (ports : ServerPorts F σ) (P : ServerRuntime F σ → PendingCommand → Prop)
    (runtime : ServerRuntime F σ) : ServerEvent F → Prop
  | .frame env => Along (serveCommand ports) (fun state pending => P state.1 pending)
      (toServe env runtime) (received env runtime).1.pendingCommands
  | _ => True

omit [FloatOps F] in
theorem acceptedOne {runtime next : ServerRuntime F σ} {outcome : AcceptOutcome}
    (made : runtime.acceptPendingClient outcome = .ok next) :
    next = { runtime with
      nextConnectionId := runtime.nextConnectionId + 1
      clients := runtime.clients.insert runtime.nextConnectionId {} } := by
  cases outcome with
  | failed => simp [ServerRuntime.acceptPendingClient] at made
  | accepted initialized =>
    simp only [ServerRuntime.acceptPendingClient] at made
    split at made <;> try contradiction
    split at made <;> try contradiction
    exact (Except.ok.inj made).symm

omit [FloatOps F] in
theorem acceptsKeep {P : ServerRuntime F σ → Prop}
    (keeps : ∀ runtime : ServerRuntime F σ, P runtime → P { runtime with
      nextConnectionId := runtime.nextConnectionId + 1
      clients := runtime.clients.insert runtime.nextConnectionId {} })
    (fuel : Nat) (outcomes : List AcceptOutcome) {runtime : ServerRuntime F σ} (start : P runtime)
    (error : String) (accepted : Nat) : P (acceptClients fuel outcomes runtime error accepted).1 := by
  induction fuel generalizing outcomes runtime accepted with
  | zero => exact start
  | succ fuel ih =>
    cases outcomes with
    | nil => exact start
    | cons outcome outcomes =>
      simp only [acceptClients]
      cases made : runtime.acceptPendingClient outcome with
      | error e => exact start
      | ok next =>
        obtain rfl := acceptedOne made
        exact ih outcomes (keeps runtime start) (accepted + 1)

omit [FloatOps F] in
theorem acceptsRunning (fuel : Nat) (outcomes : List AcceptOutcome) (runtime : ServerRuntime F σ)
    (error : String) (accepted : Nat) :
    (acceptClients fuel outcomes runtime error accepted).1.running = runtime.running :=
  acceptsKeep (P := fun opened => opened.running = runtime.running) (fun _ same => same) fuel outcomes rfl
    error accepted

theorem framePhases (ports : ServerPorts F σ) (env : FrameEnv) {runtime : ServerRuntime F σ}
    (running : runtime.running = true) :
    (processFrame ports env runtime).1 =
      ServerRuntime.advanceFrame (removeClosedClients (flushed ports env runtime)) := by
  have still := acceptsRunning maxAcceptsPerFrame env.accepts runtime "" 0
  rw [running] at still
  simp only [processFrame, processClientFrames, running, still, Bool.true_eq_false, if_false]
  rfl

end

-- A server on which any challenge but the empty one is good and every session
-- gets an account of its own, for concrete runs.
def openChallenges : ChallengePorts Unit where
  nowUnixSeconds auth := (auth, 0)
  claim auth challenge _ := (auth, if challenge = [] then none else some 1)
  issue auth := (auth, ascii "key")
  create auth _ _ _ := auth

def openPorts : ServerPorts ℚ Unit where
  challenge := some openChallenges
  playerId sessionId _ := some (1000000 + sessionId)
  spawnSettings := LoginFieldSpawnSettings.initial

def twoNames : IntMap Bytes :=
  ((∅ : IntMap Bytes).insert 1000001 (ascii "Ann")).insert 1000002 (ascii "Bob")

def sendAll (_ _ : Nat) (frame : Bytes) : SendResult := .accepted frame.length

def commandFrame (type : CommandType) (sessionId : Int64) (payload : String) : Bytes :=
  frameBytes ⟨CommandWire.currentProtocolVersion, type, sessionId, ascii payload⟩

def loginsFrame (count : Nat) : FrameEnv where
  accepts := List.replicate count (.accepted true)
  recv _ := .bytes (commandFrame .login 0 "challenge")
  send := sendAll

end SeedOrigin.ServerRun
