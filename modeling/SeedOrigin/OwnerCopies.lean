import SeedOrigin.MovementFields
import SeedOrigin.PublishLimits

/-! Who is told what by the copies of an update: an acknowledgement reaches nobody
but the session that moved, and that session reads no public pose. -/
namespace SeedOrigin.OwnerCopies
open SeedOrigin.Octets SeedOrigin.Numbers SeedOrigin.Decimal SeedOrigin.Significant SeedOrigin.Ether
open SeedOrigin.Character SeedOrigin.ClientInput SeedOrigin.Inputs SeedOrigin.UpdateWire
open SeedOrigin.UpdateBuilder SeedOrigin.Applier SeedOrigin.FieldText SeedOrigin.HazardClient
open SeedOrigin.MovementFields SeedOrigin.PublishLimits SeedOrigin.Conversions

-- What an output stream writes for a number holds neither ':' nor ';'.
class PlainText (F : Type) [FloatOps F] : Prop where
  colonFree : ∀ x : F, 58 ∉ FloatOps.text x
  semicolonFree : ∀ x : F, 59 ∉ FloatOps.text x

instance : PlainText ℚ where
  colonFree q := textLacks q (by decide)
  semicolonFree q := textLacks q (by decide)

inductive Source (F : Type) where
  | action (queued : QueuedAction)
  | input (input : WorldInput F)
  | hazard (severity instability : F)
  | resolution (resolution : CombatResolution F)
  | snapshot

def Source.mover {F : Type} : Source F → Option Int
  | .input ⟨_, .movement movement⟩ => some movement.sessionId
  | _ => none

section
variable {F : Type} [FloatOps F]

-- An update the builder has handed out and what it was asked to publish. Its
-- only caller gives appendSnapshot a payload of formatPayload.
inductive Produced : Source F → WorldUpdate → Prop where
  | action {builder after : WorldFrameUpdateBuilder} {frame : FrameActions} {updates : List WorldUpdate}
      {k : Nat} {queued : QueuedAction} {update : WorldUpdate}
      (success : buildActions builder frame = (after, updates, .ok ()))
      (asked : frame.actions[k]? = some queued) (there : updates[k]? = some update) :
      Produced (.action queued) update
  | input {builder after : WorldFrameUpdateBuilder} {frame : WorldFrameInputs F}
      {updates : List WorldUpdate} {k : Nat} {input : WorldInput F} {update : WorldUpdate}
      (success : build builder frame = (after, updates, .ok ()))
      (asked : frame.inputs[k]? = some input) (there : updates[k]? = some update) :
      Produced (.input input) update
  | hazard {builder after : WorldFrameUpdateBuilder} {worldTick : UInt64} {severity instability : F}
      {before : List WorldUpdate} {update : WorldUpdate}
      (success : appendHazard builder worldTick severity instability before =
        (after, before ++ [update], .ok ())) :
      Produced (.hazard severity instability) update
  | resolution {builder after : WorldFrameUpdateBuilder} {worldTick : UInt64}
      {resolution : CombatResolution F} {before : List WorldUpdate} {update : WorldUpdate}
      (success : appendCombatResolution builder worldTick resolution before =
        (after, before ++ [update], .ok ())) :
      Produced (.resolution resolution) update
  | snapshot {builder after : WorldFrameUpdateBuilder} {worldTick : UInt64}
      {ether : EnvironmentEther F} {hazard : F} {npcs : List (NpcSnapshot F)}
      {players : List (PlayerPoseSnapshot F)} {payload : Bytes} {before : List WorldUpdate}
      {update : WorldUpdate} (formatted : formatPayload ether hazard npcs players = .ok payload)
      (success : appendSnapshot builder worldTick payload before =
        (after, before ++ [update], .ok ())) :
      Produced .snapshot update

-- Two acknowledgements that tell a session the same: what it is not told is how
-- far the inputs of another session have been processed.
def AlikeFor (sessionId : Int) (ack other : MovementAck F) : Prop :=
  { other with lastProcessedInputSequence := ack.lastProcessedInputSequence } = ack ∧
    (ack.sessionId = sessionId → other = ack)

def Unmoved (payload : Bytes) : Prop := payload.head?.any (fun b => b != 109) = true
instance (payload) : Decidable (Unmoved payload) := by unfold Unmoved; infer_instance

omit [FloatOps F] in
theorem foundAlike {sessionId : Int} {acks others : List (MovementAck F)}
    (alike : List.Forall₂ (AlikeFor sessionId) acks others) (wanted : Int) :
    Option.Rel (AlikeFor sessionId) (findOwnerAck acks wanted) (findOwnerAck others wanted) := by
  induction alike with
  | nil => exact .none
  | @cons ack other acks others same alike ih =>
    have id : other.sessionId = ack.sessionId := by rw [← same.1]
    unfold findOwnerAck at ih ⊢
    rw [List.find?_cons, List.find?_cons, id]
    split
    · exact .some same
    · exact ih

theorem poseAlike {sessionId : Int} {ack other : MovementAck F} (alike : AlikeFor sessionId ack other)
    (update : WorldUpdate) : attachPublicPoseFields update other = attachPublicPoseFields update ack := by
  rw [← alike.1]
  rfl

theorem copyAlike {sessionId : Int} {acks others : List (MovementAck F)}
    (alike : List.Forall₂ (AlikeFor sessionId) acks others) (update : WorldUpdate) :
    copyWorldUpdateForSession update sessionId acks =
      copyWorldUpdateForSession update sessionId others := by
  unfold copyWorldUpdateForSession
  split
  · have found := foundAlike alike sessionId
    generalize own : findOwnerAck acks sessionId = ack at found ⊢
    generalize findOwnerAck others sessionId = other at found ⊢
    cases found with
    | none => rfl
    | some same => rw [same.2 (ackFound own).2]
  · split
    · rfl
    · rename_i mover _
      have found := foundAlike alike mover
      generalize own : findOwnerAck acks mover = ack at found ⊢
      generalize findOwnerAck others mover = other at found ⊢
      cases found with
      | none => rfl
      | some same =>
        dsimp only
        split
        · rename_i owner
          rw [same.2 ((ackFound own).2.trans owner)]
        · exact (poseAlike same update).symm

theorem copyCases {update copy : WorldUpdate} {sessionId : Int} {acks : List (MovementAck F)}
    (copied : copyWorldUpdateForSession update sessionId acks = .ok copy) :
    ∃ extra, copy = { update with payload := update.payload ++ extra } ∧ (extra = [] ∨
      (update.kind = .snapshot ∧ ∃ ack : MovementAck F, extra = localFields ack) ∨
      (update.kind ≠ .snapshot ∧ ∃ mover, ∃ ack : MovementAck F,
        parseMovementEventSession update.payload = some mover ∧
        ((mover = sessionId ∧ extra = ownerFields ack) ∨
          (mover ≠ sessionId ∧ extra = poseFields ack)))) := by
  have unchanged (same : Except.ok update = (.ok copy : Except String _)) :
      copy = { update with payload := update.payload ++ [] } := by
    cases same
    rw [List.append_nil]
  unfold copyWorldUpdateForSession at copied
  split at copied
  · rename_i snapshot
    split at copied
    · exact ⟨[], unchanged copied, .inl rfl⟩
    · rename_i ack _
      unfold attachLocalSnapshotFields at copied
      split at copied
      · contradiction
      · exact ⟨_, attached copied, .inr (.inl ⟨snapshot, ack, rfl⟩)⟩
  · rename_i event
    split at copied
    · exact ⟨[], unchanged copied, .inl rfl⟩
    · rename_i mover parsed
      split at copied
      · exact ⟨[], unchanged copied, .inl rfl⟩
      · rename_i ack _
        split at copied
        · rename_i owner
          unfold attachOwnerAckFields at copied
          cases formatted : formatMovementAck ack with
          | error e => simp [formatted, bind, Except.bind] at copied
          | ok text =>
            rw [formatted] at copied
            exact ⟨_, attached copied, .inr (.inr ⟨event, mover, ack, parsed, .inl ⟨owner, rfl⟩⟩)⟩
        · rename_i other
          unfold attachPublicPoseFields at copied
          split at copied
          · contradiction
          · exact ⟨_, attached copied, .inr (.inr ⟨event, mover, ack, parsed, .inr ⟨other, rfl⟩⟩)⟩

omit [FloatOps F] in
theorem unmovedAppend {front : Bytes} (unmoved : Unmoved front) (back : Bytes) :
    Unmoved (front ++ back) := by
  unfold Unmoved at unmoved ⊢
  cases front with
  | nil => contradiction
  | cons b front => exact unmoved

omit [FloatOps F] in
theorem unmovedSession {payload : Bytes} (unmoved : Unmoved payload) :
    parseMovementEventSession payload = none := by
  have header : ascii "movement=session:" = 109 :: ascii "ovement=session:" := by decide
  unfold parseMovementEventSession
  refine if_pos (fun same => ?_)
  have first : payload.head? = some 109 := by
    have start := congrArg List.head? same
    rw [header, List.length_cons] at start
    cases payload with
    | nil => contradiction
    | cons b payload => exact start
  rw [Unmoved, first] at unmoved
  contradiction

theorem formattedUnmoved {ether : EnvironmentEther F} {hazard : F} {npcs : List (NpcSnapshot F)}
    {players : List (PlayerPoseSnapshot F)} {payload : Bytes}
    (formatted : formatPayload ether hazard npcs players = .ok payload) (extra : Bytes) :
    Unmoved (payload ++ extra) := by
  unfold formatPayload at formatted
  split at formatted
  · contradiction
  · cases npcTexts : npcs.zipIdx.mapM (fun entry => npcText entry.2 entry.1) with
    | error e => simp [npcTexts, bind, Except.bind] at formatted
    | ok npcMade =>
      cases playerTexts : players.zipIdx.mapM (fun entry => playerText entry.2 entry.1) with
      | error e => simp [npcTexts, playerTexts, bind, Except.bind] at formatted
      | ok playerMade =>
        simp only [npcTexts, playerTexts, bind, Except.bind, pure, Except.pure,
          Except.ok.injEq, List.append_assoc] at formatted
        rw [← formatted, List.append_assoc]
        exact unmovedAppend (by decide) _

theorem actionEvents {builder after : WorldFrameUpdateBuilder} {frame : FrameActions}
    {updates : List WorldUpdate} (success : buildActions builder frame = (after, updates, .ok ())) :
    List.Forall₂ (fun queued update => EventOf (actionPayload queued) update) frame.actions updates := by
  unfold buildActions at success
  split at success
  · simp at success
  · split at success
    · simp at success
    · obtain ⟨made, rfl, all⟩ := appendedEach (P := fun queued update => EventOf (actionPayload queued) update)
        (fun made => appendedEvent made) success
      exact all

theorem lastEvent {builder after : WorldFrameUpdateBuilder} {worldTick : UInt64} {payload : Bytes}
    {before : List WorldUpdate} {update : WorldUpdate}
    (h : appendEvent builder worldTick payload before = (after, before ++ [update], .ok ())) :
    EventOf payload update := by
  obtain ⟨made, same, event⟩ := appendedEvent h
  cases List.append_cancel_left same
  exact event

theorem inputUnmoved (sequence : UInt64) {body : WorldInputBody F}
    (other : ∀ movement, body ≠ .movement movement) (extra : Bytes) :
    Unmoved (inputPayload ⟨sequence, body⟩ ++ extra) := by
  unfold inputPayload inputText
  cases body with
  | movement movement => exact absurd rfl (other movement)
  | action | combat | spell | chat =>
    simp only [List.append_assoc]
    exact unmovedAppend (by decide) _

theorem resolutionUnmoved (resolution : CombatResolution F) (extra : Bytes) :
    Unmoved (resolutionPayload resolution ++ extra) := by
  unfold resolutionPayload
  dsimp only
  split <;>
  · simp only [List.append_assoc]
    exact unmovedAppend (by decide) _

theorem producedCases {source : Source F} {update : WorldUpdate} (produced : Produced source update) :
    (∃ sequence movement, source = .input ⟨sequence, .movement movement⟩ ∧
      EventOf (inputPayload ⟨sequence, .movement movement⟩) update) ∨
    (source.mover = none ∧ ∀ extra, Unmoved (update.payload ++ extra)) := by
  cases produced with
  | action success asked there =>
    have event := pairedAt (actionEvents success) asked there
    refine .inr ⟨rfl, fun extra => ?_⟩
    rw [event.payload, actionPayload]
    simp only [List.append_assoc]
    exact unmovedAppend (by decide) _
  | @input _ _ _ _ _ input _ success asked there =>
    have event := pairedAt (builtEvents success) asked there
    obtain ⟨sequence, body⟩ := input
    cases body with
    | movement movement => exact .inl ⟨sequence, movement, rfl, event⟩
    | action | combat | spell | chat =>
      refine .inr ⟨rfl, fun extra => ?_⟩
      rw [event.payload]
      exact inputUnmoved sequence (by simp) extra
  | hazard success =>
    unfold appendHazard at success
    split at success
    · simp at success
    · have event := lastEvent success
      refine .inr ⟨rfl, fun extra => ?_⟩
      rw [event.payload, hazardPayload]
      simp only [List.append_assoc]
      exact unmovedAppend (by decide) _
  | resolution success =>
    have event := lastEvent success
    refine .inr ⟨rfl, fun extra => ?_⟩
    rw [event.payload]
    exact resolutionUnmoved _ extra
  | snapshot formatted success =>
    refine .inr ⟨rfl, fun extra => ?_⟩
    rw [(appendedSnapshot success).2.1]
    exact formattedUnmoved formatted extra

theorem movementEvent {sequence : UInt64} {movement : MovementIntent F} {update : WorldUpdate}
    (produced : Produced (.input ⟨sequence, .movement movement⟩) update) :
    EventOf (inputPayload ⟨sequence, .movement movement⟩) update := by
  cases produced with
  | input success asked there => exact pairedAt (builtEvents success) asked there

def movementRest (movement : MovementIntent F) (sequence : UInt64) : Bytes :=
  ascii ";dx=" ++ FloatOps.text movement.dx ++ ascii ";dy=" ++ FloatOps.text movement.dy ++
    ascii ";dz=" ++ FloatOps.text movement.dz ++
    ascii ";clientInputSequence=" ++ uint64Text movement.clientInputSequence ++
    ascii ";inputSequence=" ++ uint64Text sequence

theorem movementShape (sequence : UInt64) (movement : MovementIntent F) (extra : Bytes) :
    inputPayload ⟨sequence, .movement movement⟩ ++ extra =
      ascii "movement=session:" ++ (intText movement.sessionId ++ (movementRest movement sequence ++ extra)) := by
  simp only [inputPayload, inputText, movementRest, List.append_assoc]

theorem movementSession (sequence : UInt64) (movement : MovementIntent F) (extra : Bytes) :
    parseMovementEventSession (inputPayload ⟨sequence, .movement movement⟩ ++ extra) =
      if InInt64 movement.sessionId ∧ 0 < movement.sessionId then some movement.sessionId else none := by
  have ends : ∃ rest, movementRest movement sequence ++ extra = 59 :: rest := by
    have first : ascii ";dx=" = 59 :: ascii "dx=" := by decide
    unfold movementRest
    rw [first]
    exact ⟨_, rfl⟩
  have free : ∀ b ∈ intText movement.sessionId, (b != 59) = true := by
    intro b there
    have other : b ≠ 59 := fun same =>
      intTextFree movement.sessionId (b := 59) (by decide) (by decide) (same ▸ there)
    simpa using other
  obtain ⟨rest, same⟩ := ends
  rw [movementShape, same]
  unfold parseMovementEventSession
  dsimp only
  rw [if_neg (by simp), List.drop_left, List.takeWhile_append_of_pos free]
  simp only [bne_self_eq_false, Bool.false_eq_true, not_false_eq_true, List.takeWhile_cons_of_neg,
    List.append_nil, parseIntExact]
  by_cases inside : InInt64 movement.sessionId
  · by_cases positive : 0 < movement.sessionId
    · simp [inside, positive]
    · simp [inside, positive]
  · simp [inside]

theorem restColonFree [PlainText F] (movement : MovementIntent F) (sequence : UInt64) :
    58 ∉ movementRest movement sequence := by
  have number (n : UInt64) : 58 ∉ uint64Text n := natTextFree n.toNat (by decide)
  have names : 58 ∉ ascii ";dx=" ∧ 58 ∉ ascii ";dy=" ∧ 58 ∉ ascii ";dz=" ∧
      58 ∉ ascii ";clientInputSequence=" ∧ 58 ∉ ascii ";inputSequence=" := by decide
  simp [movementRest, names, number, PlainText.colonFree]

theorem poseColonFree [PlainText F] (ack : MovementAck F) : 58 ∉ poseFields ack := by
  have names : 58 ∉ ascii ";x=" ∧ 58 ∉ ascii ";y=" ∧ 58 ∉ ascii ";z=" := by decide
  simp [poseFields, names, PlainText.colonFree]

theorem unacknowledged {back : Bytes} (free : 58 ∉ back) :
    tryParseAttachedMovementAck (F := F) (ascii "movement=session:" ++ back) = none := by
  have key : ascii "x" ++ [58] = 120 :: [58] := by decide
  have header : 120 ∉ ascii "movement=session:" := by decide
  have absent : parseAckField (ascii "movement=session:" ++ back) "x" = none := by
    unfold parseAckField
    rw [key, cutSkip [58] back header, cutAbsent (c := 58) (by decide) free]
    rfl
  unfold tryParseAttachedMovementAck parsePoseFields
  rw [absent]
  cases parseMovementEventSession (ascii "movement=session:" ++ back) <;> rfl

theorem movementUnread [PlainText F] (sequence : UInt64) (movement : MovementIntent F) {extra : Bytes}
    (free : 58 ∉ extra) :
    tryParseAttachedMovementAck (F := F) (inputPayload ⟨sequence, .movement movement⟩ ++ extra) = none := by
  have session : 58 ∉ intText movement.sessionId := intTextFree _ (by decide) (by decide)
  rw [movementShape]
  exact unacknowledged (by simp [session, restColonFree movement sequence, free])

def posed : Bytes → Bool
  | c :: 61 :: _ => c ∈ ascii "xyz"
  | _ => false

def unposed (key : Bytes) : Bool := 2 ≤ key.length ∧ 59 ∉ key ∧ posed key = false

omit [FloatOps F] in
theorem posedAppend {key : Bytes} (long : 2 ≤ key.length) (value : Bytes) :
    posed (key ++ value) = posed key := by
  match key with
  | [] | [_] => simp at long
  | c :: d :: key =>
    simp only [List.cons_append]
    unfold posed
    split <;> simp_all

theorem fieldPassed {field : Bytes} (other : posed field = false) (pose : PoseFields F) :
    readPoseField pose field = some pose := by
  unfold readPoseField
  split
  · rfl
  · rename_i key value made
    have apart {c : UInt8} (named : c ∈ ascii "xyz") : key ≠ [c] := by
      intro same
      rw [cutSplit made, same] at other
      simp [posed, named] at other
    have keys : ascii "x" = [120] ∧ ascii "y" = [121] ∧ ascii "z" = [122] := by decide
    rw [keys.1, keys.2.1, keys.2.2, if_neg (apart (by decide)), if_neg (apart (by decide)),
      if_neg (apart (by decide))]

theorem fieldsPassed {pieces : List Bytes} (others : ∀ piece ∈ pieces, posed piece = false)
    (pose : PoseFields F) : pieces.foldlM readPoseField pose = some pose := by
  induction pieces with
  | nil => rfl
  | cons piece pieces ih =>
    rw [List.foldlM_cons, fieldPassed (others piece List.mem_cons_self)]
    exact ih (fun piece there => others piece (List.mem_cons_of_mem _ there))

def sessionPart (movement : MovementIntent F) : Bytes × Bytes :=
  (ascii "movement=session:", intText movement.sessionId)

def movementParts (movement : MovementIntent F) (sequence : UInt64) : List (Bytes × Bytes) :=
  [(ascii "dx=", FloatOps.text movement.dx), (ascii "dy=", FloatOps.text movement.dy),
    (ascii "dz=", FloatOps.text movement.dz),
    (ascii "clientInputSequence=", uint64Text movement.clientInputSequence),
    (ascii "inputSequence=", uint64Text sequence)]

def ownerParts (ack : MovementAck F) : List (Bytes × Bytes) :=
  [(ascii "x:", FloatOps.text ack.x), (ascii "y:", FloatOps.text ack.y),
    (ascii "z:", FloatOps.text ack.z), (ascii "worldTick:", uint64Text ack.worldTick),
    (ascii "lastProcessedInputSequence:", uint64Text ack.lastProcessedInputSequence)]

structure Hidden (parts : List (Bytes × Bytes)) : Prop where
  keys : ∀ part ∈ parts, unposed part.1 = true
  values : ∀ part ∈ parts, 59 ∉ part.2

theorem poseless {first : Bytes × Bytes} {parts : List (Bytes × Bytes)}
    (hidden : Hidden (first :: parts)) :
    tryParsePublicMovementPose (F := F) (joinFields 59 (first.1 ++ first.2)
      (parts.map (fun part => part.1 ++ part.2))) = none := by
  have plain : ∀ part ∈ first :: parts, 59 ∉ part.1 ++ part.2 ∧ part.1 ++ part.2 ≠ [] ∧
      posed (part.1 ++ part.2) = false := by
    intro part there
    obtain ⟨long, free, other⟩ : 2 ≤ part.1.length ∧ 59 ∉ part.1 ∧ posed part.1 = false :=
      of_decide_eq_true (hidden.keys part there)
    refine ⟨by simp [free, hidden.values part there], ?_, by rw [posedAppend long, other]⟩
    exact List.append_ne_nil_of_left_ne_nil (List.ne_nil_of_length_pos (by omega)) _
  have pieces : ∀ piece ∈ (first.1 ++ first.2) :: parts.map (fun part => part.1 ++ part.2),
      59 ∉ piece ∧ piece ≠ [] ∧ posed piece = false := by
    intro piece there
    rw [← List.map_cons (f := fun part : Bytes × Bytes => part.1 ++ part.2)] at there
    obtain ⟨part, inside, rfl⟩ := List.mem_map.mp there
    exact plain part inside
  unfold tryParsePublicMovementPose
  rw [fieldsJoined (fun piece there => (pieces piece there).1)
    (fun piece there => (pieces piece there).2.1),
    fieldsPassed (fun piece there => (pieces piece there).2.2)]
  cases parseMovementEventSession (joinFields 59 (first.1 ++ first.2)
    (parts.map (fun part => part.1 ++ part.2))) <;> rfl

theorem movementHidden [PlainText F] (movement : MovementIntent F) (sequence : UInt64) :
    Hidden (sessionPart movement :: movementParts movement sequence) := by
  have number (x : F) : 59 ∉ FloatOps.text x := PlainText.semicolonFree x
  have count (n : UInt64) : 59 ∉ uint64Text n := natTextFree n.toNat (by decide)
  have session : 59 ∉ intText movement.sessionId := intTextFree _ (by decide) (by decide)
  constructor <;> simp only [sessionPart, movementParts, List.forall_mem_cons]
  · exact ⟨by decide, by decide, by decide, by decide, by decide, by decide,
      fun part there => absurd there List.not_mem_nil⟩
  · exact ⟨session, number _, number _, number _, count _, count _,
      fun part there => absurd there List.not_mem_nil⟩

theorem ownerHidden [PlainText F] (ack : MovementAck F) : Hidden (ownerParts ack) := by
  have number (x : F) : 59 ∉ FloatOps.text x := PlainText.semicolonFree x
  have count (n : UInt64) : 59 ∉ uint64Text n := natTextFree n.toNat (by decide)
  constructor <;> simp only [ownerParts, List.forall_mem_cons]
  · exact ⟨by decide, by decide, by decide, by decide, by decide,
      fun part there => absurd there List.not_mem_nil⟩
  · exact ⟨number _, number _, number _, count _, count _,
      fun part there => absurd there List.not_mem_nil⟩

def fieldsOf (movement : MovementIntent F) (parts : List (Bytes × Bytes)) : Bytes :=
  joinFields 59 ((sessionPart movement).1 ++ (sessionPart movement).2)
    (parts.map (fun part => part.1 ++ part.2))

theorem movementFields (sequence : UInt64) (movement : MovementIntent F) :
    inputPayload ⟨sequence, .movement movement⟩ = fieldsOf movement (movementParts movement sequence) := by
  have keys : ascii ";dx=" = 59 :: ascii "dx=" ∧ ascii ";dy=" = 59 :: ascii "dy=" ∧
      ascii ";dz=" = 59 :: ascii "dz=" ∧
      ascii ";clientInputSequence=" = 59 :: ascii "clientInputSequence=" ∧
      ascii ";inputSequence=" = 59 :: ascii "inputSequence=" := by decide
  simp [inputPayload, inputText, fieldsOf, joinFields, sessionPart, movementParts, keys]

theorem ownerFieldsBehind (sequence : UInt64) (movement : MovementIntent F) (ack : MovementAck F) :
    inputPayload ⟨sequence, .movement movement⟩ ++ ownerFields ack =
      fieldsOf movement (movementParts movement sequence ++ ownerParts ack) := by
  have keys : ascii ";x:" = 59 :: ascii "x:" ∧ ascii ";y:" = 59 :: ascii "y:" ∧
      ascii ";z:" = 59 :: ascii "z:" ∧ ascii ";worldTick:" = 59 :: ascii "worldTick:" ∧
      ascii ";lastProcessedInputSequence:" = 59 :: ascii "lastProcessedInputSequence:" := by decide
  rw [movementFields, fieldsOf, fieldsOf, List.map_append, joinAppend]
  simp [ownerFields, ownerParts, keys]

theorem movementPoseless [PlainText F] (sequence : UInt64) (movement : MovementIntent F)
    {parts : List (Bytes × Bytes)} (hidden : Hidden parts) :
    tryParsePublicMovementPose (F := F) (fieldsOf movement (movementParts movement sequence ++ parts)) =
      none := by
  have own := movementHidden movement sequence
  exact poseless ⟨List.forall_mem_append.mpr ⟨own.keys, hidden.keys⟩,
    List.forall_mem_append.mpr ⟨own.values, hidden.values⟩⟩

def Behind (movement : MovementIntent F) (sessionId : Int) (extra : Bytes) : Prop :=
  extra = [] ∨ ∃ ack : MovementAck F, (movement.sessionId = sessionId ∧ extra = ownerFields ack) ∨
    (movement.sessionId ≠ sessionId ∧ extra = poseFields ack)

theorem movementCopy {sequence : UInt64} {movement : MovementIntent F} {update copy : WorldUpdate}
    {sessionId : Int} {acks : List (MovementAck F)}
    (event : EventOf (inputPayload ⟨sequence, .movement movement⟩) update)
    (copied : copyWorldUpdateForSession update sessionId acks = .ok copy) :
    ∃ extra, Behind movement sessionId extra ∧
      copy = { update with payload := inputPayload ⟨sequence, .movement movement⟩ ++ extra } := by
  have parsed := movementSession sequence movement []
  rw [List.append_nil, ← event.payload] at parsed
  obtain ⟨extra, rfl, made⟩ := copyCases copied
  rw [← event.payload]
  refine ⟨extra, ?_, rfl⟩
  obtain rfl | ⟨snapshot, -⟩ | ⟨-, mover, ack, read, kinds⟩ := made
  · exact .inl rfl
  · rw [event.kind] at snapshot
    exact nomatch snapshot
  · rw [read] at parsed
    split at parsed
    · have same : mover = movement.sessionId := Option.some.inj parsed
      rw [same] at kinds
      exact .inr ⟨ack, kinds⟩
    · exact nomatch parsed

theorem behindUnread [PlainText F] {movement : MovementIntent F} {sessionId : Int} {extra : Bytes}
    (behind : Behind movement sessionId extra) (sequence : UInt64)
    (other : movement.sessionId ≠ sessionId) :
    tryParseAttachedMovementAck (F := F) (inputPayload ⟨sequence, .movement movement⟩ ++ extra) = none := by
  obtain rfl | ⟨ack, ⟨owner, -⟩ | ⟨-, rfl⟩⟩ := behind
  · exact movementUnread sequence movement List.not_mem_nil
  · exact absurd owner other
  · exact movementUnread sequence movement (poseColonFree ack)

theorem behindPoseless [PlainText F] {movement : MovementIntent F} {sessionId : Int} {extra : Bytes}
    (behind : Behind movement sessionId extra) (sequence : UInt64)
    (own : movement.sessionId = sessionId) :
    tryParsePublicMovementPose (F := F) (inputPayload ⟨sequence, .movement movement⟩ ++ extra) = none := by
  obtain rfl | ⟨ack, ⟨-, rfl⟩ | ⟨other, -⟩⟩ := behind
  · have bare := movementPoseless sequence movement ⟨List.forall_mem_nil _, List.forall_mem_nil _⟩
    rw [List.append_nil] at bare
    rwa [List.append_nil, movementFields]
  · rw [ownerFieldsBehind]
    exact movementPoseless sequence movement (ownerHidden ack)
  · exact absurd own other

structure Discreet (source : Source F) (sessionId : Int) (update copy : WorldUpdate) : Prop where
  unacknowledged : source.mover ≠ some sessionId → tryParseAttachedMovementAck (F := F) copy.payload = none
  poseless : source.mover = some sessionId → tryParsePublicMovementPose (F := F) copy.payload = none
  sequence : copy.sequence = update.sequence
  eventId : copy.eventId = update.eventId
  kind : copy.kind = update.kind
  worldTick : copy.worldTick = update.worldTick

theorem copyDiscreet [PlainText F] {source : Source F} {update copy : WorldUpdate} {sessionId : Int}
    {acks : List (MovementAck F)} (produced : Produced source update)
    (copied : copyWorldUpdateForSession update sessionId acks = .ok copy) :
    Discreet source sessionId update copy := by
  obtain ⟨sequence, movement, rfl, event⟩ | ⟨nobody, unmoved⟩ := producedCases produced
  · obtain ⟨extra, behind, rfl⟩ := movementCopy event copied
    exact ⟨fun other => behindUnread behind sequence (fun same => other (congrArg some same)),
      fun own => behindPoseless behind sequence (Option.some.inj own), rfl, rfl, rfl, rfl⟩
  · obtain ⟨extra, rfl, -⟩ := copyCases copied
    refine ⟨fun _ => ?_, fun own => ?_, rfl, rfl, rfl, rfl⟩
    · unfold tryParseAttachedMovementAck
      rw [unmovedSession (unmoved extra)]
      rfl
    · rw [nobody] at own
      exact nomatch own

theorem ownerAcksPrivate [PlainText F] {source : Source F} {update : WorldUpdate}
    (produced : Produced source update) (sessionId : Int) (acks : List (MovementAck F)) :
    (∀ others, List.Forall₂ (AlikeFor sessionId) acks others →
      copyWorldUpdateForSession update sessionId acks = copyWorldUpdateForSession update sessionId others) ∧
    ∀ copy, copyWorldUpdateForSession update sessionId acks = .ok copy →
      Discreet source sessionId update copy :=
  ⟨fun _ alike => copyAlike alike update, fun _ copied => copyDiscreet produced copied⟩

end

def walk : WorldInput ℚ := ⟨1, .movement ⟨7, 1, 0, 0, 4⟩⟩

def walked : WorldUpdate := ⟨currentProtocolVersion, .event, 1, 1, 1, inputPayload walk⟩

def walkAck : MovementAck ℚ := ⟨7, 1, 0, 0, 1, 4⟩

theorem walkMade : build {} ⟨1, [walk]⟩ = (⟨2, 2⟩, [walked], .ok ()) := by decide +kernel

theorem walkPrivate :
    (∀ others, List.Forall₂ (AlikeFor 8) [walkAck] others →
      copyWorldUpdateForSession walked 8 [walkAck] = copyWorldUpdateForSession walked 8 others) ∧
    ∀ copy, copyWorldUpdateForSession walked 8 [walkAck] = .ok copy →
      Discreet (.input walk) 8 walked copy :=
  ownerAcksPrivate (.input (k := 0) walkMade rfl rfl) 8 [walkAck]

end SeedOrigin.OwnerCopies
