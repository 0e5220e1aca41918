import SeedOrigin.ReceiverSequence

/-! The local and the remote characters of a client, over a run of the receiver.
An event that speaks for another session leaves the predictor alone. Between two
Snapshots the remote players stay the same, and one of them stands elsewhere only
by a public pose of a session that the last Snapshot listed for it. -/
namespace SeedOrigin.RemoteCharacters
open SeedOrigin.Octets SeedOrigin.Numbers SeedOrigin.Decimal SeedOrigin.ClientInput SeedOrigin.Inputs
open SeedOrigin.UpdateWire SeedOrigin.HazardClient SeedOrigin.Prediction SeedOrigin.FieldText
open SeedOrigin.MovementFields SeedOrigin.RemotePoses SeedOrigin.SnapshotParser SeedOrigin.Receiver
open SeedOrigin.Runs SeedOrigin.ReceiverSequence

def speaker (payload : Bytes) : Option Int :=
  if payload.take 12 = ascii "movementAck=" then
    (parseAckField (payload.drop 12) "session").bind parseInt64
  else parseMovementEventSession payload

section
variable {F : Type}

def roster (store : RemotePlayerPoseStore F) : Set Int := {gameplayId | gameplayId ∈ store.poses}

def authority (store : RemotePlayerPoseStore F) (gameplayId : Int) : Option (PredictedPose F) :=
  store.poses[gameplayId]?.map RemotePlayerPose.authority

structure Announces (payload : Bytes) [FloatOps F] (players : List (PlayerPoseSnapshot F))
    (gameplayId : Int) (pose : PublicMovementPose F) : Prop where
  absolute : tryParsePublicMovementPose payload = some pose
  spoken : speaker payload = some pose.sessionId
  listed : ∃ player ∈ players, player.sessionId = pose.sessionId ∧ player.gameplayId = gameplayId

variable [PredictionOps F]

def latest (past : List (Visit F)) : Option (Visit F) := (past.filter Visit.replaces).getLast?

def shown (past : List (Visit F)) : RemotePlayerPoseStore F :=
  match latest past with
  | none => {}
  | some v => v.after.remotes

def listed (past : List (Visit F)) : List (PlayerPoseSnapshot F) :=
  match latest past with
  | none => []
  | some v => match applySnapshot v.update with
    | .error _ => []
    | .ok state => state.players

structure Separate (past : List (Visit F)) (v : Visit F) : Prop where
  foreign : v.update.kind = .event → speaker v.update.payload ≠ some v.before.localSessionId →
    v.after.predictor = v.before.predictor
  same : roster v.before.remotes = roster (shown past)
  kept : v.replaces = false → roster v.after.remotes = roster v.before.remotes
  posed : v.replaces = false → ∀ gameplayId,
    authority v.after.remotes gameplayId ≠ authority v.before.remotes gameplayId →
    v.applies = true ∧ ∃ pose, Announces v.update.payload (listed past) gameplayId pose ∧
      authority v.after.remotes gameplayId = some ⟨pose.x, pose.y, pose.z⟩

def Through (store : RemotePlayerPoseStore F) : List (Visit F) → RemotePlayerPoseStore F → Prop
  | [], last => last = store
  | v :: rest, last => v.before.remotes = store ∧ Through v.after.remotes rest last

omit [PredictionOps F] in
theorem fieldsSession [FloatOps F] {sessionId : Int} {text : Bytes} {ack : MovementAck F}
    (made : parsePoseFields sessionId text = some ack) : ack.sessionId = sessionId := by
  simp only [parsePoseFields, bind, Option.bind_eq_some_iff, pure, Option.some.injEq] at made
  obtain ⟨_, -, _, -, _, -, _, -, _, -, _, -, _, -, _, -, _, -, _, -, rfl⟩ := made
  rfl

omit [PredictionOps F] in
theorem attachedSession [FloatOps F] {payload : Bytes} {ack : MovementAck F}
    (made : tryParseAttachedMovementAck payload = some ack) :
    parseMovementEventSession payload = some ack.sessionId := by
  obtain ⟨sessionId, session, fields⟩ := Option.bind_eq_some_iff.mp made
  rw [session, fieldsSession fields]

omit [PredictionOps F] in
theorem publicSession [FloatOps F] {payload : Bytes} {pose : PublicMovementPose F}
    (made : tryParsePublicMovementPose payload = some pose) :
    parseMovementEventSession payload = some pose.sessionId := by
  simp only [tryParsePublicMovementPose, bind, Option.bind_eq_some_iff, pure, Option.some.injEq] at made
  obtain ⟨sessionId, session, _, -, _, -, _, -, _, -, rfl⟩ := made
  exact session

omit [PredictionOps F] in
theorem ackSession [FloatOps F] {payload : Bytes} {ack : MovementAck F}
    (made : parseMovementAck payload = .ok ack) :
    (parseAckField (payload.drop 12) "session").bind parseInt64 = some ack.sessionId := by
  unfold parseMovementAck at made
  dsimp only at made
  split at made
  · contradiction
  · cases session : (parseAckField (payload.drop (ascii "movementAck=").length) "session").bind parseInt64 with
    | none =>
      rw [session] at made
      contradiction
    | some sessionId =>
      rw [session] at made
      dsimp only at made
      split at made
      · contradiction
      · split at made
        · contradiction
        · rename_i ack' fields
          cases made
          rw [fieldsSession fields]
          exact session

-- The owner's fields are read before the public pose.
def reconcileAttached (receiver : ClientWorldUpdateReceiver F) (payload : Bytes) :
    ClientWorldUpdateReceiver F :=
  match tryParseAttachedMovementAck payload with
  | none => receiver
  | some ack => reconcileOwn receiver ack

theorem readPublic (receiver : ClientWorldUpdateReceiver F) {payload : Bytes}
    (other : payload.take 12 ≠ ascii "movementAck=") :
    (readMovement receiver payload).1 = match tryParsePublicMovementPose payload with
      | none => reconcileAttached receiver payload
      | some pose => moveRemote (reconcileAttached receiver payload) pose := by
  unfold readMovement
  rw [if_neg other]
  dsimp only
  cases (tryParsePublicMovementPose payload : Option (PublicMovementPose F)) <;> rfl

theorem reconciledForeign {receiver : ClientWorldUpdateReceiver F} {ack : MovementAck F}
    (foreign : ack.sessionId ≠ receiver.localSessionId) : reconcileOwn receiver ack = receiver := by
  unfold reconcileOwn
  rw [if_neg (fun own => foreign own.2)]

theorem attachedForeign {receiver : ClientWorldUpdateReceiver F} {payload : Bytes}
    (foreign : parseMovementEventSession payload ≠ some receiver.localSessionId) :
    reconcileAttached receiver payload = receiver := by
  unfold reconcileAttached
  split
  · rfl
  · rename_i ack made
    rw [attachedSession made] at foreign
    exact reconciledForeign (fun same => foreign (congrArg some same))

theorem foreignStill {receiver : ClientWorldUpdateReceiver F} {payload : Bytes}
    (foreign : speaker payload ≠ some receiver.localSessionId) :
    (readMovement receiver payload).1.predictor = receiver.predictor := by
  unfold speaker at foreign
  split at foreign
  · rename_i header
    unfold readMovement
    rw [if_pos header]
    split
    · rfl
    · rename_i ack made
      rw [ackSession made] at foreign
      rw [reconciledForeign (fun same => foreign (congrArg some same))]
  · rename_i other
    rw [readPublic receiver other, attachedForeign foreign]
    split
    · rfl
    · unfold moveRemote
      split <;> rfl

theorem reconciledRemotes (receiver : ClientWorldUpdateReceiver F) (ack : MovementAck F) :
    (reconcileOwn receiver ack).remotes = receiver.remotes := by
  unfold reconcileOwn
  split <;> rfl

theorem attachedRemotes (receiver : ClientWorldUpdateReceiver F) (payload : Bytes) :
    (reconcileAttached receiver payload).remotes = receiver.remotes := by
  unfold reconcileAttached
  split
  · rfl
  · exact reconciledRemotes receiver _

theorem movementRemotes (receiver : ClientWorldUpdateReceiver F) (payload : Bytes) :
    (readMovement receiver payload).1.remotes = receiver.remotes ∨
      ∃ pose, tryParsePublicMovementPose payload = some pose ∧
        speaker payload = some pose.sessionId ∧
        (readMovement receiver payload).1.remotes =
          receiver.remotes.applyAuthoritative pose.sessionId pose.x pose.y pose.z false := by
  by_cases header : payload.take 12 = ascii "movementAck="
  · unfold readMovement
    rw [if_pos header]
    split
    · exact .inl rfl
    · exact .inl (reconciledRemotes receiver _)
  · rw [readPublic receiver header]
    cases made : tryParsePublicMovementPose (F := F) payload with
    | none => exact .inl (attachedRemotes receiver payload)
    | some pose =>
      dsimp only
      unfold moveRemote
      split
      · refine .inr ⟨pose, rfl, ?_, ?_⟩
        · rw [speaker, if_neg header]
          exact publicSession made
        · rw [attachedRemotes]
      · exact .inl (attachedRemotes receiver payload)

structure Posed (before after : RemotePlayerPoseStore F) (sessionId : Int) (pose : PredictedPose F) :
    Prop where
  roster : roster after = roster before
  sessions : after.sessionToGameplayId = before.sessionToGameplayId
  moved : ∀ gameplayId, authority after gameplayId ≠ authority before gameplayId →
    before.sessionToGameplayId[sessionId]? = some gameplayId ∧ authority after gameplayId = some pose

theorem authoritativePosed (store : RemotePlayerPoseStore F) (sessionId : Int) (x y z : F)
    (snapBaseline : Bool) :
    Posed store (store.applyAuthoritative sessionId x y z snapBaseline) sessionId ⟨x, y, z⟩ := by
  have still : Posed store store sessionId ⟨x, y, z⟩ :=
    ⟨rfl, rfl, fun gameplayId other => absurd rfl other⟩
  unfold RemotePlayerPoseStore.applyAuthoritative
  split
  · exact still
  · split
    · exact still
    · rename_i gameplayId mapped
      split
      · exact still
      · rename_i pose found
        refine ⟨?_, rfl, ?_⟩
        · ext other
          simp only [roster, Set.mem_ofPred_eq, Std.ExtTreeMap.mem_insert]
          constructor
          · rintro (same | there)
            · cases Std.LawfulEqOrd.compare_eq_iff_eq.mp same
              exact Std.ExtTreeMap.mem_iff_isSome_getElem?.mpr (by rw [found]; rfl)
            · exact there
          · exact .inr
        · intro other changed
          simp only [authority, Std.ExtTreeMap.getElem?_insert] at changed ⊢
          by_cases same : gameplayId = other
          · subst same
            exact ⟨mapped, by simp⟩
          · rw [if_neg (by simpa using same)] at changed
            exact absurd rfl changed

omit [PredictionOps F] in
theorem sessionsListed (localSessionId : Int) (players : List (PlayerPoseSnapshot F))
    {store : RemotePlayerPoseStore F} {sessionId gameplayId : Int}
    (found : (players.foldl (addSnapshot localSessionId) store).sessionToGameplayId[sessionId]? =
      some gameplayId) :
    store.sessionToGameplayId[sessionId]? = some gameplayId ∨
      ∃ player ∈ players, player.sessionId = sessionId ∧ player.gameplayId = gameplayId := by
  induction players generalizing store with
  | nil => exact .inl found
  | cons player players ih =>
    rcases ih found with there | ⟨other, there, row⟩
    · unfold addSnapshot at there
      split at there
      · exact .inl there
      · rw [Std.ExtTreeMap.getElem?_insert] at there
        split at there
        · rename_i same
          have session : player.sessionId = sessionId := Std.LawfulEqOrd.compare_eq_iff_eq.mp same
          exact .inr ⟨player, List.mem_cons_self, session, Option.some.inj there⟩
        · exact .inl there
    · exact .inr ⟨other, List.mem_cons_of_mem player there, row⟩

theorem latestLast (past : List (Visit F)) (v : Visit F) :
    latest (past ++ [v]) = if v.replaces then some v else latest past := by
  unfold latest
  rw [List.filter_append]
  cases replaces : v.replaces with
  | true => simp [replaces]
  | false => simp [replaces]

theorem latestReplaces {past : List (Visit F)} {v : Visit F} (last : latest past = some v) :
    v.replaces = true :=
  (List.mem_filter.mp (List.mem_of_getLast? last)).2

theorem shownListed {past : List (Visit F)} {sessionId gameplayId : Int}
    (found : (shown past).sessionToGameplayId[sessionId]? = some gameplayId) :
    ∃ player ∈ listed past, player.sessionId = sessionId ∧ player.gameplayId = gameplayId := by
  unfold shown at found
  unfold listed
  cases last : latest past with
  | none =>
    rw [last] at found
    simp at found
  | some v =>
    obtain ⟨-, state, made, after⟩ := snapshotTaken (latestReplaces last)
    rw [last] at found
    dsimp only at found ⊢
    rw [made]
    rw [after] at found
    rcases sessionsListed v.before.localSessionId state.players found with there | row
    · simp at there
    · exact row

theorem appliedReading {v : Visit F} (applies : v.applies = true) :
    ∃ counted : ClientWorldUpdateReceiver F, counted.predictor = v.before.predictor ∧
      counted.remotes = v.before.remotes ∧ counted.localSessionId = v.before.localSessionId ∧
      v.after = (readMovement counted v.update.payload).1 := by
  obtain ⟨event, ready, result, -⟩ := appliesAccepted applies
  refine ⟨{ v.before with
    hazardQueue := (takeEvent v.before.hazardQueue v.update).1
    expected := (takeEvent v.before.hazardQueue v.update).1.sync.tracker.expectedSequence },
    rfl, rfl, rfl, ?_⟩
  unfold Visit.after applyUpdate applyEvent
  unfold Visit.result at result
  rw [event]
  dsimp only
  rw [if_neg (ne_true_of_eq_false ready), if_neg (ne_true_of_eq_false ready)]
  cases made : takeEvent v.before.hazardQueue v.update with
  | mk hazardQueue outcome =>
    obtain ⟨decision, error⟩ := outcome
    rw [made] at result
    cases result
    dsimp only
    cases readMovement { v.before with
      hazardQueue := hazardQueue
      expected := hazardQueue.sync.tracker.expectedSequence } v.update.payload with
    | mk after outcome => cases outcome <;> rfl

theorem foreignPredictor {v : Visit F} (event : v.update.kind = .event)
    (foreign : speaker v.update.payload ≠ some v.before.localSessionId) :
    v.after.predictor = v.before.predictor := by
  cases applies : v.applies with
  | false => exact (idleOther event applies).predictor
  | true =>
    obtain ⟨counted, predictor, -, session, after⟩ := appliedReading applies
    rw [← session] at foreign
    rw [after, foreignStill foreign, predictor]

theorem visitRemotes {v : Visit F} (left : v.replaces = false) :
    v.after.remotes = v.before.remotes ∨
      (v.applies = true ∧ ∃ pose, tryParsePublicMovementPose v.update.payload = some pose ∧
        speaker v.update.payload = some pose.sessionId ∧
        v.after.remotes =
          v.before.remotes.applyAuthoritative pose.sessionId pose.x pose.y pose.z false) := by
  cases kind : v.update.kind with
  | snapshot =>
    rw [snapshotRefused kind left]
    exact .inl rfl
  | unknown code =>
    unfold Visit.after applyUpdate
    rw [kind]
    exact .inl rfl
  | event =>
    cases applies : v.applies with
    | false => exact .inl (idleOther kind applies).remotes
    | true =>
      obtain ⟨counted, -, remotes, -, after⟩ := appliedReading applies
      rw [after]
      rcases movementRemotes counted v.update.payload with same | ⟨pose, made, spoken, moved⟩
      · exact .inl (same.trans remotes)
      · rw [remotes] at moved
        exact .inr ⟨rfl, pose, made, spoken, moved⟩

structure Seen (past : List (Visit F)) (receiver : ClientWorldUpdateReceiver F) : Prop where
  roster : roster receiver.remotes = roster (shown past)
  sessions : receiver.remotes.sessionToGameplayId = (shown past).sessionToGameplayId
  through : Through {} past receiver.remotes

theorem throughLast {start last : RemotePlayerPoseStore F} {past : List (Visit F)}
    {v : Visit F} (through : Through start past last) (next : v.before.remotes = last) :
    Through start (past ++ [v]) v.after.remotes := by
  induction past generalizing start with
  | nil => exact ⟨next.trans through, rfl⟩
  | cons u past ih => exact ⟨through.1, ih through.2⟩

theorem seenAside {past : List (Visit F)} {before after : ClientWorldUpdateReceiver F}
    (seen : Seen past before) (aside : Aside before after) : Seen past after := by
  obtain ⟨roster, sessions, through⟩ := seen
  constructor <;> rw [aside.remotes]
  · exact roster
  · exact sessions
  · exact through

theorem visitSeen {past : List (Visit F)} {v : Visit F} (seen : Seen past v.before) :
    Seen (past ++ [v]) v.after := by
  have through := throughLast seen.through rfl
  cases replaces : v.replaces with
  | true =>
    have now : shown (past ++ [v]) = v.after.remotes := by
      rw [shown, latestLast, replaces, if_pos rfl]
    exact ⟨congrArg roster now.symm, congrArg RemotePlayerPoseStore.sessionToGameplayId now.symm, through⟩
  | false =>
    have same : shown (past ++ [v]) = shown past := by
      rw [shown, latestLast, replaces, if_neg Bool.false_ne_true, shown]
    rcases visitRemotes replaces with still | ⟨-, pose, -, -, moved⟩
    · constructor
      · rw [same, still]
        exact seen.roster
      · rw [same, still]
        exact seen.sessions
      · exact through
    · have posed := authoritativePosed v.before.remotes pose.sessionId pose.x pose.y pose.z false
      rw [← moved] at posed
      constructor
      · rw [same, posed.roster]
        exact seen.roster
      · rw [same, posed.sessions]
        exact seen.sessions
      · exact through

theorem visitSeparate {past : List (Visit F)} {v : Visit F} (seen : Seen past v.before) :
    Separate past v where
  foreign := foreignPredictor
  same := seen.roster
  kept left := by
    rcases visitRemotes left with still | ⟨-, pose, -, -, moved⟩
    · rw [still]
    · rw [moved]
      exact (authoritativePosed v.before.remotes pose.sessionId pose.x pose.y pose.z false).roster
  posed left gameplayId changed := by
    rcases visitRemotes left with still | ⟨applies, pose, made, spoken, moved⟩
    · rw [still] at changed
      exact absurd rfl changed
    · have posed := authoritativePosed v.before.remotes pose.sessionId pose.x pose.y pose.z false
      rw [← moved] at posed
      obtain ⟨mapped, now⟩ := posed.moved gameplayId changed
      rw [seen.sessions] at mapped
      exact ⟨applies, pose, ⟨made, spoken, shownListed mapped⟩, now⟩

theorem charactersSeparate (calls : List (ReceiverCall F)) :
    (∀ before v after, visits .initial calls = before ++ v :: after → Separate before v) ∧
      Through {} (visits .initial calls) (run callReceiver .initial calls).remotes ∧
      roster (run callReceiver .initial calls).remotes = roster (shown (visits .initial calls)) := by
  have start : Seen [] (ClientWorldUpdateReceiver.initial : ClientWorldUpdateReceiver F) :=
    ⟨rfl, rfl, rfl⟩
  obtain ⟨separate, last⟩ := runHolds (P := Separate) (I := Seen) (fun _ _ => visitSeparate)
    (fun _ _ => visitSeen) (fun _ _ _ => seenAside) calls start
  exact ⟨separate, last.through, last.roster⟩

end

end SeedOrigin.RemoteCharacters
