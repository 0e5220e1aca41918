import SeedOrigin.FieldEffects
import SeedOrigin.SessionMoves

/-! Whether the bindings of connections, the registry and the field stay in
agreement about who is logged in. -/
namespace SeedOrigin.SessionAgreement
open SeedOrigin.Octets SeedOrigin.Numbers SeedOrigin.ClientInput SeedOrigin.Inputs
open SeedOrigin.CommandWire SeedOrigin.UpdateWire SeedOrigin.Sessions SeedOrigin.Presence
open SeedOrigin.Maps SeedOrigin.ClientConnection SeedOrigin.CommandDispatch SeedOrigin.Runtime
open SeedOrigin.Runs SeedOrigin.ServerRun SeedOrigin.FramePhases SeedOrigin.Authority
open SeedOrigin.FieldEffects SeedOrigin.SessionTables SeedOrigin.SessionMoves

section
variable {F σ : Type}

structure Agreement (runtime : ServerRuntime F σ) : Prop where
  boundActive : ∀ c s, holds runtime c = some s →
    Active runtime s ∧ ∀ d, holds runtime d = some s → d = c
  activeBound : ∀ s, Active runtime s →
    ∃ c, holds runtime c = some s ∧ OpenAt runtime c ∧ ∀ d, holds runtime d = some s → d = c
  activePlaced : ∀ s, Active runtime s → ∃ g, seats runtime s = some g ∧
    runtime.services.presence.field.playerList.contains g = true ∧ ∀ h, sitters runtime h = some s ↔ h = g
  placedActive : ∀ s g, seats runtime s = some g ∨ sitters runtime g = some s → Active runtime s

structure Settled (runtime : ServerRuntime F σ) : Prop where
  agreed : Agreed runtime
  isOpen : ∀ c, (view runtime c).isSome = true → OpenAt runtime c
  served : runtime.pendingCommands = []

theorem settledAgreement {runtime : ServerRuntime F σ} (settled : Settled runtime) :
    Agreement runtime := by
  obtain ⟨⟨tables, attached, -, -⟩, isOpen, -⟩ := settled
  have linked := tables.linked
  have paired := tables.seated.paired
  have sole (c : Nat) (s : Int) (here : holds runtime c = some s) (d : Nat)
      (there : holds runtime d = some s) : d = c := linked.sole d c s there here
  refine ⟨fun c s here => ⟨(linked.held s).mpr ⟨c, here⟩, sole c s here⟩, ?_, ?_, ?_⟩
  · intro s is
    obtain ⟨c, here⟩ := (linked.held s).mp is
    exact ⟨c, here, isOpen c (attached c s here), sole c s here⟩
  · intro s is
    obtain ⟨g, sits⟩ := (linked.seated s).mp is
    refine ⟨g, sits, tables.seated.resident s g sits, fun h => ?_⟩
    constructor
    · intro sitter
      have other := (paired s h).mpr sitter
      rw [sits] at other
      exact (Option.some.inj other).symm
    · rintro rfl
      exact (paired s h).mp sits
  · rintro s g (sits | sitter)
    · exact (linked.seated s).mpr ⟨g, sits⟩
    · exact (linked.seated s).mpr ⟨g, (paired s g).mpr sitter⟩

theorem settledAlike {before after : ServerRuntime F σ} (settled : Settled before)
    (alike : Alike before after) (answered : Answered before after) : Settled after := by
  refine ⟨agreedAlike settled.agreed alike answered.next (answeredSome answered), ?_, ?_⟩
  · intro c there
    rw [answeredSome answered] at there
    exact (answeredOpen answered c).trans (settled.isOpen c there)
  · rw [answered.pending]
    exact settled.served

theorem settledAccepted {runtime : ServerRuntime F σ} (settled : Settled runtime) (fuel : Nat)
    (outcomes : List AcceptOutcome) (error : String) (accepted : Nat) :
    Settled (acceptClients fuel outcomes runtime error accepted).1 := by
  refine acceptsKeep ?_ fuel outcomes settled error accepted
  rintro opened ⟨⟨tables, attached, numbered, first⟩, isOpen, served⟩
  have new {c : Nat} (here : c = opened.nextConnectionId) :
      lookup (opened.clients.insert opened.nextConnectionId {}) c = some {} := by
    rw [lookupInsert, here, Function.update_self]
  have old {c : Nat} (other : c ≠ opened.nextConnectionId) :
      lookup (opened.clients.insert opened.nextConnectionId {}) c = view opened c := by
    rw [lookupInsert, Function.update_of_ne other]
    rfl
  refine ⟨⟨tables, fun c s here => ?_, fun c there => ?_, Nat.le_add_left 1 _⟩, fun c there => ?_, served⟩
  · by_cases first : c = opened.nextConnectionId
    · exact congrArg Option.isSome (new first)
    · exact (congrArg Option.isSome (old first)).trans (attached c s here)
  · by_cases here : c = opened.nextConnectionId
    · omega
    · exact numbered c ((congrArg Option.isSome (old here)).symm.trans there)
  · by_cases here : c = opened.nextConnectionId
    · exact congrArg (Option.map ClientSession.isOpen) (new here)
    · exact (congrArg (Option.map ClientSession.isOpen) (old here)).trans
        (isOpen c ((congrArg Option.isSome (old here)).symm.trans there))

theorem commandsOpen {session next : ClientSession} {received : RecvResult}
    {commands : List NetworkCommand} {error : Option String}
    (read : session.receive received = (next, commands, .commands, error)) : next.isOpen = true := by
  unfold ClientSession.receive at read
  split at read
  · simp at read
  · rename_i isOpen
    cases received with
    | bytes input =>
      dsimp only at read
      split at read
      · simp at read
      · obtain ⟨rfl, -⟩ := Prod.mk.inj read
        simpa using isOpen
    | peerClosed => simp at read
    | wouldBlock => simp at read
    | reset => simp at read
    | failed => simp at read

theorem receiveCases (env : FrameEnv) (runtime : ServerRuntime F σ) (error : String) (c : Nat) :
    Alike runtime (receiveClient env (runtime, error) c).1 ∧
    ((receiveClient env (runtime, error) c).1.pendingCommands = runtime.pendingCommands ∨
      ∃ commands : List NetworkCommand, (receiveClient env (runtime, error) c).1.pendingCommands =
        runtime.pendingCommands ++ commands.map (fun command => ⟨c, command⟩) ∧
        OpenAt (receiveClient env (runtime, error) c).1 c) := by
  unfold receiveClient
  dsimp only
  split
  · exact ⟨Alike.refl runtime, .inl rfl⟩
  · rename_i session here
    rcases read : session.receive (env.recv c) with ⟨next, commands, status, failure⟩
    cases status with
    | failed => exact ⟨⟨rfl, rfl, rfl⟩, .inl rfl⟩
    | noData => exact ⟨⟨rfl, rfl, rfl⟩, .inl rfl⟩
    | closed => exact ⟨⟨rfl, rfl, rfl⟩, .inl rfl⟩
    | commands =>
      dsimp only
      cases queued : enqueueCommands runtime.pendingCommands c commands with
      | error e => exact ⟨⟨rfl, rfl, rfl⟩, .inl rfl⟩
      | ok pending =>
        refine ⟨⟨rfl, rfl, rfl⟩, .inr ⟨commands, ?_, ?_⟩⟩
        · exact (enqueueTaken queued).1
        · have inserted := congrFun (lookupInsert runtime.clients c next) c
          rw [Function.update_self] at inserted
          exact (congrArg (Option.map ClientSession.isOpen) inserted).trans
            (congrArg some (commandsOpen read))

theorem receiveSweep (env : FrameEnv) (keys : List Nat) (nodup : keys.Nodup)
    (state : ServerRuntime F σ × String)
    (ready : ∀ p ∈ state.1.pendingCommands, OpenAt state.1 p.connectionId ∧ p.connectionId ∉ keys) :
    Alike state.1 (keys.foldl (receiveClient env) state).1 ∧
      ∀ p ∈ (keys.foldl (receiveClient env) state).1.pendingCommands,
        OpenAt (keys.foldl (receiveClient env) state).1 p.connectionId := by
  induction keys generalizing state with
  | nil => exact ⟨Alike.refl state.1, fun p waits => (ready p waits).1⟩
  | cons c keys ih =>
    obtain ⟨out, rest⟩ := List.nodup_cons.mp nodup
    obtain ⟨alike, grown⟩ := receiveCases env state.1 state.2 c
    have others (d : Nat) (other : d ≠ c) : view (receiveClient env state c).1 d = view state.1 d := by
      rw [receiveOne, Function.update_of_ne other]
    have old (p : PendingCommand) (waits : p ∈ state.1.pendingCommands) :
        OpenAt (receiveClient env state c).1 p.connectionId ∧ p.connectionId ∉ keys := by
      obtain ⟨isOpen, unread⟩ := ready p waits
      obtain ⟨other, later⟩ := List.ne_and_not_mem_of_not_mem_cons unread
      unfold OpenAt at isOpen ⊢
      rw [others _ other]
      exact ⟨isOpen, later⟩
    have next := ih rest (receiveClient env state c) (by
      intro p waits
      obtain same | ⟨commands, more, isOpen⟩ := grown
      · exact old p (same ▸ waits)
      · have listed : p ∈ state.1.pendingCommands ++ commands.map (fun command => ⟨c, command⟩) :=
          more ▸ waits
        rcases List.mem_append.mp listed with before | new
        · exact old p before
        · obtain ⟨command, -, rfl⟩ := List.mem_map.mp new
          exact ⟨isOpen, out⟩)
    rw [List.foldl_cons]
    exact ⟨alike.trans next.1, next.2⟩

variable [FloatOps F] (ports : ServerPorts F σ)

theorem servedAgreed (waiting : List PendingCommand) (state : ServerRuntime F σ × String)
    (agreed : Agreed state.1) (ready : ∀ p ∈ waiting, OpenAt state.1 p.connectionId)
    (along : Along (serveCommand ports) (fun state pending => Fair ports state.1 pending) state waiting) :
    Agreed (run (serveCommand ports) state waiting).1 := by
  induction waiting generalizing state with
  | nil => exact agreed
  | cons pending waiting ih =>
    obtain ⟨fair, later⟩ := (alongCons (serveCommand ports)).mp along
    have next := serveAgreed ports state.2 agreed (ready pending List.mem_cons_self) fair
    refine ih (serveCommand ports state pending) next (fun p waits => ?_) later
    have isOpen := ready p (List.mem_cons_of_mem pending waits)
    exact (answeredOpen (serveAnswered ports state pending) p.connectionId).trans isOpen

omit [FloatOps F] in
theorem removedCases {runtime : ServerRuntime F σ} (tables : tablesOf runtime) (c : Nat) :
    removeClosed runtime c = runtime ∨
      (Ended runtime (removeClosed runtime c) ∧ holds (removeClosed runtime c) c = none) := by
  unfold removeClosed
  split
  · exact .inl rfl
  · split
    · exact .inl rfl
    · refine .inr ?_
      dsimp only
      cases there : holds runtime c with
      | none =>
        have stays (presence : FieldSessionPresence F) : ({ runtime with
            services := { runtime.services with presence := presence } } :
              ServerRuntime F σ).disconnect c =
            { runtime with services := { runtime.services with presence := presence } } :=
          disconnectFree there
        have kept : removeAfterLogout runtime.services.presence 0 = runtime.services.presence :=
          if_pos (le_refl 0)
        rw [sessionFree there, kept, stays]
        exact ⟨endedAlike tables ⟨rfl, rfl, rfl⟩, there⟩
      | some s =>
        have low := (tables.issued s ((tables.linked.held s).mpr ⟨c, there⟩)).1
        have leaves (presence : FieldSessionPresence F) := disconnectHeld (c := c) (s := s)
          (show holds ({ runtime with services := { runtime.services with presence := presence } } :
            ServerRuntime F σ) c = some s from there)
        rw [sessionHeld there, leaves]
        refine ⟨endedLeft tables there rfl rfl (fun r => logoutActive _ s r) ?_, ?_⟩
        · exact removedPresence _ low
        · exact (congrFun (lookupErase _ c) c).trans (Function.update_self ..)

omit [FloatOps F] in
theorem removedAgreed {runtime : ServerRuntime F σ} (agreed : Agreed runtime) (c : Nat) :
    Agreed (removeClosed runtime c) := by
  obtain same | ⟨⟨tables, fewer⟩, gone⟩ := removedCases agreed.tables c
  · rw [same]
    exact agreed
  · have rest := removeOne runtime c
    refine ⟨tables, fun d s here => ?_, fun d there => ?_, ?_⟩
    · have other : d ≠ c := by
        rintro rfl
        rw [gone] at here
        contradiction
      rw [rest, Function.update_of_ne other]
      exact agreed.attached d s (fewer d s here)
    · apply agreed.numbered d
      rw [rest] at there
      by_cases here : d = c
      · rw [here, Function.update_self] at there
        obtain ⟨session, left⟩ := Option.isSome_iff_exists.mp there
        rw [here, (Option.filter_eq_some_iff.mp left).1]
        rfl
      · rwa [Function.update_of_ne here] at there
    · have next : (removeClosed runtime c).nextConnectionId = runtime.nextConnectionId := by
        unfold removeClosed
        split
        · rfl
        · split <;> rfl
      rw [next]
      exact agreed.next

omit [FloatOps F] in
theorem removedSettled {runtime : ServerRuntime F σ} (agreed : Agreed runtime)
    (served : runtime.pendingCommands = []) : Settled (removeClosedClients runtime) := by
  have kept : Agreed (removeClosedClients runtime) ∧ (removeClosedClients runtime).pendingCommands = [] := by
    unfold removeClosedClients
    refine List.foldlRecOn (motive := fun state => Agreed state ∧ state.pendingCommands = []) _ _
      ⟨agreed, served⟩ ?_
    rintro state ⟨still, none⟩ c -
    refine ⟨removedAgreed still c, ?_⟩
    unfold removeClosed
    split
    · exact none
    · split <;> exact none
  refine ⟨kept.1, fun c there => ?_, kept.2⟩
  unfold OpenAt
  rw [removedView] at there ⊢
  obtain ⟨session, left⟩ := Option.isSome_iff_exists.mp there
  rw [left, Option.map_some, (Option.filter_eq_some_iff.mp left).2]

omit [FloatOps F] in
theorem flushedAlike (env : FrameEnv) (runtime : ServerRuntime F σ) (error : String) :
    Alike runtime (flushClients env runtime error).1 ∧
      (flushClients env runtime error).1.pendingCommands = runtime.pendingCommands := by
  unfold flushClients
  refine List.foldlRecOn (motive := fun state : ServerRuntime F σ × String =>
    Alike runtime state.1 ∧ state.1.pendingCommands = runtime.pendingCommands) _ _
    ⟨Alike.refl runtime, rfl⟩ ?_
  rintro state ⟨alike, pending⟩ c -
  unfold flushClient
  dsimp only
  split
  · exact ⟨alike, pending⟩
  · exact ⟨⟨alike.lifecycle, alike.registry, alike.presence⟩, pending⟩

omit [FloatOps F] in
theorem settledAdvanced {runtime : ServerRuntime F σ} (settled : Settled runtime) :
    Settled (ServerRuntime.advanceFrame runtime) :=
  ⟨⟨settled.agreed.tables, settled.agreed.attached, settled.agreed.numbered, settled.agreed.next⟩,
    settled.isOpen, settled.served⟩

theorem frameSettled {runtime : ServerRuntime F σ} (env : FrameEnv) (settled : Settled runtime)
    (fair : Serves ports (Fair ports) runtime (.frame env)) :
    Settled (processFrame ports env runtime).1 := by
  by_cases stopped : runtime.running = false
  · unfold processFrame
    rw [if_pos stopped]
    exact settled
  · have running : runtime.running = true := by simpa using stopped
    obtain ⟨accepting, error, count, accepted, read⟩ := receivedFrom env runtime
    have opened := settledAccepted settled maxAcceptsPerFrame env.accepts "" 0
    rw [accepted] at opened
    have begun := receiveSweep env accepting.clients.keys (keysNodup _)
      ({ accepting with
          newAuthenticatedSessions := 0
          services := accepting.services.beginFrame (accepting.worldTick + 1) }, error)
      (fun p waits => absurd (opened.served ▸ waits) List.not_mem_nil)
    have seen (c : Nat) : (view (received env runtime).1 c).isSome = (view accepting c).isSome := by
      rw [read, receivedView, Option.isSome_map]
    have rest := receivedRest env accepting error
    have taken : Agreed (received env runtime).1 := by
      refine agreedAlike opened.agreed ?_ ?_ seen
      · rw [read]
        exact ⟨begun.1.lifecycle, begun.1.registry, begun.1.presence⟩
      · rw [read]
        exact rest.next
    have ready (p : PendingCommand) (waits : p ∈ (received env runtime).1.pendingCommands) :
        OpenAt (received env runtime).1 p.connectionId := by
      rw [read] at waits ⊢
      exact begun.2 p waits
    have serving : Agreed (served ports env runtime).1 := by
      refine servedAgreed ports _ (toServe env runtime) ?_ ready fair
      exact ⟨taken.tables, taken.attached, taken.numbered, taken.next⟩
    have none : (served ports env runtime).1.pendingCommands = [] :=
      (servedAnswered ports env runtime).pending
    have removed := removedSettled serving none
    obtain ⟨alike, pending⟩ := flushedAlike env (flushing ports env runtime) (served ports env runtime).2
    have sent : Agreed (flushed ports env runtime) := by
      refine agreedAlike removed.agreed alike (flushedRest env _ _).next (fun c => ?_)
      unfold flushed
      rw [flushedView, Option.isSome_map]
      rfl
    have last := removedSettled sent (pending.trans removed.served)
    rw [framePhases ports env running]
    exact settledAdvanced last

theorem worldSettled {runtime : ServerRuntime F σ} (settled : Settled runtime)
    (frame : WorldFrameInputs F) : Settled (ServerRuntime.applyWorld runtime frame) := by
  obtain ⟨⟨tables, attached, numbered, first⟩, isOpen, served⟩ := settled
  refine ⟨⟨?_, attached, numbered, first⟩, isOpen, served⟩
  have moved := processedUntouched runtime.services.presence.field frame.inputs frame.worldTick
  obtain ⟨untouched, residents⟩ := moved
  refine tablesSame tables rfl (fun _ => Iff.rfl) (le_refl _) untouched.sessions untouched.players ?_
  intro g there
  rw [containsPlaces] at there ⊢
  exact (residents g).trans there

theorem publishToAnswered (runtime : ServerRuntime F σ) (ownerAcks : List (MovementAck F))
    (update : WorldUpdate) (ids : List Nat) (published : Nat) : Answered runtime { runtime with
      clients := (Publish.publishTo runtime.lifecycle ownerAcks update ids runtime.clients published).1 } := by
  induction ids generalizing runtime published with
  | nil => exact Answered.refl runtime
  | cons id ids ih =>
    unfold Publish.publishTo
    split
    · exact ih runtime published
    · split
      · exact ih runtime published
      · rename_i session here
        split
        · exact Answered.refl runtime
        · split
          · exact Answered.refl runtime
          · rename_i next queued
            have first := insertAnswered (c := id) here (enqueuedExtends queued)
            exact first.trans (ih { runtime with clients := runtime.clients.insert id next }
              (published + 1))

theorem publishAllAnswered (runtime : ServerRuntime F σ) (ownerAcks : List (MovementAck F))
    (updates : List WorldUpdate) (ids : List Nat) (published : Nat) : Answered runtime { runtime with
      clients := (Publish.publishAll runtime.lifecycle ownerAcks updates ids runtime.clients published).1 } := by
  induction updates generalizing runtime published with
  | nil => exact Answered.refl runtime
  | cons update updates ih =>
    have first := publishToAnswered runtime ownerAcks update ids published
    unfold Publish.publishAll
    rcases made : Publish.publishTo runtime.lifecycle ownerAcks update ids runtime.clients published with
      ⟨clients, count, e | _⟩
    · rw [made] at first
      exact first
    · rw [made] at first
      exact first.trans (ih { runtime with clients := clients } count)

theorem publishedAnswered (runtime : ServerRuntime F σ) (updates : List WorldUpdate)
    (ownerAcks : List (MovementAck F)) : Answered runtime (publish runtime updates ownerAcks) := by
  unfold publish Publish.publishWorldUpdates
  split
  · exact Answered.refl runtime
  · exact publishAllAnswered runtime ownerAcks updates runtime.clients.keys 0

theorem stepSettled {runtime : ServerRuntime F σ} (event : ServerEvent F) (settled : Settled runtime)
    (fair : Serves ports (Fair ports) runtime event) : Settled (serverStep ports runtime event) := by
  cases event with
  | frame env => exact frameSettled ports env settled fair
  | publish updates ownerAcks =>
    exact settledAlike settled ⟨rfl, rfl, rfl⟩ (publishedAnswered runtime updates ownerAcks)
  | world frame => exact worldSettled settled frame

theorem settledStarted (auth : σ) (names : IntMap Bytes) :
    Settled (started auth names : ServerRuntime F σ) := by
  have nobody (c : Nat) : view (started auth names : ServerRuntime F σ) c = none :=
    Std.ExtTreeMap.getElem?_empty
  have unbound (c : Nat) : holds (started auth names : ServerRuntime F σ) c = none :=
    Std.ExtTreeMap.getElem?_empty
  have unseated (s : Int) : seats (started auth names : ServerRuntime F σ) s = none :=
    Std.ExtTreeMap.getElem?_empty
  have unsat (g : Int) : sitters (started auth names : ServerRuntime F σ) g = none :=
    Std.ExtTreeMap.getElem?_empty
  have inactive (s : Int) : ¬ Active (started auth names : ServerRuntime F σ) s := by
    unfold Active SessionRegistry.isActive
    exact Bool.eq_false_iff.mp Std.ExtTreeSet.contains_empty
  have linked : LinkedTables.Linked (holds (started auth names : ServerRuntime F σ))
      (Active (started auth names : ServerRuntime F σ))
      (seats (started auth names : ServerRuntime F σ)) := by
    refine ⟨fun c d s here => ?_, fun s => ?_, fun s => ?_⟩
    · rw [unbound] at here
      contradiction
    · refine iff_of_false (inactive s) ?_
      rintro ⟨c, here⟩
      rw [unbound] at here
      contradiction
    · refine iff_of_false (inactive s) ?_
      rintro ⟨g, sits⟩
      rw [unseated] at sits
      contradiction
  have seated : Seated (started auth names : ServerRuntime F σ).services.presence.field := by
    refine ⟨fun s g => iff_of_false ?_ ?_, fun s g sits => ?_⟩
    · exact fun sits => nomatch (unseated s).symm.trans sits
    · exact fun sitter => nomatch (unsat g).symm.trans sitter
    · exact nomatch (unseated s).symm.trans sits
  refine ⟨⟨⟨linked, seated, le_refl _, fun s is => absurd is (inactive s)⟩, ?_, ?_, le_refl _⟩, ?_, rfl⟩
  · intro c s here
    rw [unbound] at here
    contradiction
  · intro c there
    rw [nobody] at there
    contradiction
  · intro c there
    rw [nobody] at there
    contradiction

theorem agreementAlways (auth : σ) (names : IntMap Bytes) {events : List (ServerEvent F)}
    (along : Along (serverStep ports) (Serves ports (Fair ports)) (started auth names) events) :
    Always (serverStep ports) Agreement (started auth names) events := by
  refine alwaysOf (I := Settled) ?_ ?_ (settledStarted auth names) along
  · exact fun _ settled => settledAgreement settled
  · exact fun _ event settled fair => stepSettled ports event settled fair

end

def fairNow (runtime : ServerRuntime ℚ Unit) (pending : PendingCommand) : Bool :=
  match pending.command.type with
  | .disconnect => pending.command.sessionId.toInt = runtime.lifecycle.sessionId pending.connectionId
  | .login =>
    match openPorts.playerId runtime.services.registry.nextInternalId [] with
    | none => true
    | some auth => ((runtime.services.presence.field.findPlayerByAuthId auth).bind
        (fun player => runtime.services.presence.field.playerToSessionId[player.id]?)).isNone
  | _ => true

theorem fairChecked {runtime : ServerRuntime ℚ Unit} {pending : PendingCommand}
    (checked : fairNow runtime pending = true) : Fair openPorts runtime pending := by
  unfold fairNow at checked
  refine ⟨fun type => ?_, fun type _ _ auth player account found => ?_⟩
  · rw [type] at checked
    exact .inl (of_decide_eq_true checked)
  · rw [type, account] at checked
    dsimp only at checked
    rw [found] at checked
    exact Option.isNone_iff_eq_none.mp checked

theorem servesFair {runtime : ServerRuntime ℚ Unit} {env : FrameEnv}
    (checked : Along (serveCommand openPorts) (fun state pending => fairNow state.1 pending = true)
      (toServe env runtime) (received env runtime).1.pendingCommands) :
    Serves openPorts (Fair openPorts) runtime (.frame env) :=
  alongWeaken (fun _ _ => fairChecked) checked

def leaving : FrameEnv where
  accepts := []
  recv c := if c = 1 then .bytes (commandFrame .disconnect 1 "") else .wouldBlock
  send := sendAll

def twoVisits : List (ServerEvent ℚ) := [.frame (loginsFrame 2), .frame leaving]

theorem agreementTwoVisits :
    Always (serverStep openPorts) Agreement (started () twoNames) twoVisits ∧
    (run (serverStep openPorts) (started () twoNames) (twoVisits.take 1)).lifecycle.bindings.toList =
      [(1, 1), (2, 2)] ∧
    (run (serverStep openPorts) (started () twoNames) twoVisits).lifecycle.bindings.toList = [(2, 2)] ∧
    seats (run (serverStep openPorts) (started () twoNames) twoVisits) 1 = none := by
  have along : Along (serverStep openPorts) (Serves openPorts (Fair openPorts)) (started () twoNames)
      twoVisits :=
    (alongCons _).mpr ⟨servesFair (by decide +kernel),
      (alongCons _).mpr ⟨servesFair (by decide +kernel), alongNil _ _ _⟩⟩
  exact ⟨agreementAlways openPorts () twoNames along, by decide +kernel, by decide +kernel,
    by decide +kernel⟩

-- The second connection ends the session of the first, which stays bound.
def othersDisconnect : List (ServerEvent ℚ) :=
  [.frame (loginsFrame 2),
    .frame { accepts := []
             recv := fun c => if c = 2 then .bytes (commandFrame .disconnect 1 "") else .wouldBlock
             send := sendAll }]

def oneAccount : ServerPorts ℚ Unit := { openPorts with playerId := fun _ _ => some 1000001 }

def twiceLoggedIn : List (ServerEvent ℚ) := [.frame (loginsFrame 2)]

theorem agreementFails :
    ¬ Always (serverStep openPorts) Agreement (started () twoNames) othersDisconnect ∧
      ¬ Always (serverStep oneAccount) Agreement (started () twoNames) twiceLoggedIn := by
  constructor
  · intro always
    have agreement := always othersDisconnect [] (List.append_nil _).symm
    obtain ⟨active, -⟩ := agreement.boundActive 1 1 (by decide +kernel)
    exact absurd active (by unfold Active; decide +kernel)
  · intro always
    have agreement := always twiceLoggedIn [] (List.append_nil _).symm
    obtain ⟨g, sits, -⟩ := agreement.activePlaced 1 (by unfold Active; decide +kernel)
    have unseated : seats (run (serverStep oneAccount) (started () twoNames) twiceLoggedIn) 1 = none := by
      decide +kernel
    rw [unseated] at sits
    contradiction

end SeedOrigin.SessionAgreement
