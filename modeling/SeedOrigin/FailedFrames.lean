import SeedOrigin.Cooldowns
import SeedOrigin.FrameIsolation
import SeedOrigin.OwnerAcks

/-! A frame that fails, against the state before it: what Field::processInputs
puts back, and what WorldFrameApplier::apply cannot take back. -/
namespace SeedOrigin.FailedFrames
open SeedOrigin.Octets SeedOrigin.Numbers SeedOrigin.Character SeedOrigin.ClientInput
open SeedOrigin.Ether SeedOrigin.Inputs SeedOrigin.UpdateWire SeedOrigin.UpdateBuilder
open SeedOrigin.Applier SeedOrigin.InputAdmission SeedOrigin.FieldEffects SeedOrigin.FrameIsolation
open SeedOrigin.GaplessStream SeedOrigin.OwnerAcks SeedOrigin.Cooldowns SeedOrigin.Runs
open SeedOrigin.FrameUpdates SeedOrigin.Numbering SeedOrigin.Maps

section
variable {F : Type}

def gained (status : Status) (inputs : List (WorldInput F)) : Status :=
  inputs.foldl (fun status input => gainedBy status input.body) status

variable [FloatOps F]

def StopsAt (field : Field F) (worldTick : UInt64) (before : List (WorldInput F)) (bad : WorldInput F) :
    Prop :=
  ∃ middle made, Field.applyInputs worldTick field before = (middle, some made) ∧
    (middle.applyInput worldTick bad).2 = none

theorem stopsSomewhere {worldTick : UInt64} {field failed : Field F} {inputs : List (WorldInput F)}
    (h : Field.applyInputs worldTick field inputs = (failed, none)) :
    ∃ before bad after, inputs = before ++ bad :: after ∧ StopsAt field worldTick before bad := by
  induction inputs generalizing field with
  | nil => simp [Field.applyInputs] at h
  | cons input inputs ih =>
    cases first : field.applyInput worldTick input with
    | mk middle made =>
    cases made with
    | none => exact ⟨[], input, inputs, rfl, field, [], rfl, by rw [first]⟩
    | some made =>
      have later : Field.applyInputs worldTick middle inputs = (failed, none) := by
        unfold Field.applyInputs at h
        rw [first] at h
        dsimp only at h
        split at h
        · rename_i stopped
          rw [stopped]
          exact h
        · simp at h
      obtain ⟨before, bad, after, rfl, last, others, applied, refused⟩ := ih later
      refine ⟨input :: before, bad, after, rfl, last, made ++ others, ?_, refused⟩
      unfold Field.applyInputs
      rw [first]
      dsimp only
      rw [applied]

theorem stopsThere {worldTick : UInt64} {field : Field F} {before : List (WorldInput F)}
    {bad : WorldInput F} (stops : StopsAt field worldTick before bad) (after : List (WorldInput F)) :
    (Field.applyInputs worldTick field (before ++ bad :: after)).2 = none ∧
      (Field.applyInputs worldTick field (before ++ bad :: after)).1.fieldStatus =
        gained field.fieldStatus before := by
  obtain ⟨middle, made, applied, refused⟩ := stops
  induction before generalizing field made with
  | nil =>
    obtain ⟨rfl, -⟩ := Prod.mk.inj applied
    have books := inputBooks field worldTick bad
    cases last : field.applyInput worldTick bad with
    | mk failed result =>
    rw [last] at refused books
    dsimp only at refused books
    rw [refused] at last books
    rw [List.nil_append]
    unfold Field.applyInputs
    rw [last]
    refine ⟨rfl, books.status.trans ?_⟩
    cases body : bad.body with
    | action action => simp [Field.applyInput, body] at last
    | movement movement => rfl
    | combat combat => rfl
    | spell spell => rfl
    | chat chat => rfl
  | cons input before ih =>
    obtain ⟨next, first, rest, done, later, -⟩ := applyConsSome applied
    obtain ⟨none, status⟩ := ih rest later
    have books := inputBooks field worldTick input
    rw [done] at books
    rw [List.cons_append]
    unfold Field.applyInputs
    rw [done]
    dsimp only
    rw [show Field.applyInputs worldTick next (before ++ bad :: after) =
      ((Field.applyInputs worldTick next (before ++ bad :: after)).1, Option.none) from
        Prod.ext rfl none]
    refine ⟨rfl, ?_⟩
    dsimp only
    rw [status, books.status]
    rfl

def Validated (field : Field F) (frame : WorldFrameInputs F) : Prop :=
  (field.validateInputs frame.worldTick
    { attackTick := field.nextAttackTick, spellTick := field.nextSpellTick } frame.inputs).isSome = true

def GainsCancel (field : Field F) (frame : WorldFrameInputs F) : Prop :=
  Validated field frame → ∀ before bad after, frame.inputs = before ++ bad :: after →
    StopsAt field frame.worldTick before bad → gained field.fieldStatus before = field.fieldStatus

theorem refusedExact (field : Field F) (frame : WorldFrameInputs F) :
    ((field.processInputs frame.inputs frame.worldTick).2 = none →
      (field.processInputs frame.inputs frame.worldTick).1 = field) ↔ GainsCancel field frame := by
  constructor
  · intro restores valid before bad after split stops
    obtain ⟨refused, status⟩ := stopsThere stops after
    rw [← split] at refused status
    cases made : Field.applyInputs frame.worldTick field frame.inputs with
    | mk failed result =>
    rw [made] at refused status
    dsimp only at refused status
    rw [refused] at made
    unfold Validated at valid
    obtain ⟨projection, validated⟩ := Option.isSome_iff_exists.mp valid
    have processed : field.processInputs frame.inputs frame.worldTick =
        (failed.rollBack field, none) := by
      unfold Field.processInputs
      rw [validated]
      dsimp only
      rw [made]
    rw [processed] at restores
    have kept : (failed.rollBack field).fieldStatus = field.fieldStatus :=
      congrArg Field.fieldStatus (restores rfl)
    exact status.symm.trans kept
  · intro cancels refused
    cases processed : field.processInputs frame.inputs frame.worldTick with
    | mk after result =>
    rw [processed] at refused
    dsimp only at refused
    rw [refused] at processed
    rw [refusedUnchanged processed]
    unfold Field.processInputs at processed
    split at processed
    · obtain ⟨rfl, -⟩ := Prod.mk.inj processed
      rfl
    · rename_i projection validated
      split at processed
      · rename_i failed made
        obtain ⟨before, bad, rest, split, stops⟩ := stopsSomewhere made
        have status := (stopsThere stops rest).2
        rw [← split, made] at status
        have cancelled := cancels (by unfold Validated; rw [validated]; rfl) before bad rest split stops
        obtain ⟨rfl, -⟩ := Prod.mk.inj processed
        have same : (failed.rollBack field).fieldStatus = field.fieldStatus := status.trans cancelled
        dsimp only
        rw [same]
      · simp at processed

theorem fightChanges {field after : Field F} {inputs : List (WorldInput F)} {worldTick : UInt64}
    {resolutions : List (CombatResolution F)}
    (h : field.processInputs inputs worldTick = (after, some resolutions)) {input : WorldInput F}
    (there : input ∈ inputs) (fights : Fights input.body = true) : after ≠ field := by
  obtain ⟨projection, applied, validated, done, rfl⟩ := Field.processedInputs h
  have rested := inputsRested validated
  obtain ⟨tired, -⟩ := inputsTire (fun input there => (rested input there).2) done
  intro same
  have rests := tired input there fights
  have attacks : applied.nextAttackTick = field.nextAttackTick := by rw [← same]
  have spells : applied.nextSpellTick = field.nextSpellTick := by rw [← same]
  rw [attacks, spells, (rested input there).1] at rests
  contradiction

def recipient (action : Action) : Option Int :=
  if action.isValid = false ∨ action.actionType = 0 then none
  else if action.actionType = 1 then action.playerTo
  else action.playerFrom

def touched (field : Field F) (g : Int) (player : Player F) : WorldInputBody F → Player F
  | .movement movement =>
    if field.resolvePlayerId movement.sessionId = g then
      ((integrateMovement player.position movement.dx movement.dy movement.dz).map player.setPosition).getD
        player
    else player
  | .action action =>
    if recipient action = some g then
      { player with status := (player.status.gainHp action.status.hp).gainMp action.status.mp }
    else player
  | _ => player

structure Touches (before after : Field F) (status : Status) (change : Int → Player F → Player F) : Prop where
  beside : after = { before with playerList := after.playerList, fieldStatus := status }
  players : ∀ g, lookup after.playerList g = (lookup before.playerList g).map (change g)

omit [FloatOps F] in
theorem gainTouches (field : Field F) (id : Int) (status : Status) :
    Touches field (field.gainPlayer id status) field.fieldStatus (fun g player =>
      if some id = some g then { player with status := (player.status.gainHp status.hp).gainMp status.mp }
      else player) := by
  unfold Field.gainPlayer
  cases there : field.playerList[id]? with
  | none =>
    refine ⟨rfl, fun g => ?_⟩
    by_cases here : id = g
    · subst here
      rw [show lookup field.playerList id = none from there]
      rfl
    · simp [here]
  | some player =>
    refine ⟨rfl, fun g => ?_⟩
    simp only [lookupInsert]
    by_cases here : g = id
    · subst here
      rw [Function.update_self, show lookup field.playerList g = some player from there]
      simp
    · rw [Function.update_of_ne here]
      simp [Ne.symm here]

theorem actionTouches (field : Field F) (action : Action) :
    Touches field (field.applyAction action) (gainedBy field.fieldStatus (.action (F := F) action))
      (fun g player => touched field g player (.action action)) := by
  have idle (none : recipient action = none) (g : Int) : lookup field.playerList g =
      (lookup field.playerList g).map (fun player => touched field g player (.action action)) := by
    simp [touched, none]
  unfold Field.applyAction gainedBy
  dsimp only
  by_cases own : action.actionType = 0
  · have valid : action.isValid = true := by simp [Action.isValid, own]
    have none : recipient action = none := by simp [recipient, own]
    rw [if_neg (by simp [valid]), if_pos own, if_pos own]
    exact ⟨rfl, idle none⟩
  rw [if_neg own, if_neg own]
  cases valid : action.isValid with
  | false =>
    have none : recipient action = none := by simp [recipient, valid]
    rw [if_pos rfl]
    exact ⟨rfl, idle none⟩
  | true =>
    have to_ : recipient action = if action.actionType = 1 then action.playerTo else action.playerFrom := by
      simp [recipient, valid, own]
    rw [if_neg (by decide)]
    by_cases other : action.actionType = 1
    · rw [if_pos other] at to_ ⊢
      cases named : action.playerTo with
      | none => exact ⟨rfl, idle (to_.trans named)⟩
      | some playerTo =>
        simp only [touched, to_, named]
        exact gainTouches field playerTo action.status
    · rw [if_neg other] at to_ ⊢
      cases named : action.playerFrom with
      | none => exact ⟨rfl, idle (to_.trans named)⟩
      | some playerFrom =>
        simp only [touched, to_, named]
        exact gainTouches field playerFrom action.status

theorem inputTouches {field after : Field F} {worldTick : UInt64} {input : WorldInput F}
    {made : List (CombatResolution F)} (peaceful : Fights input.body = false)
    (h : field.applyInput worldTick input = (after, some made)) :
    Touches field after (gainedBy field.fieldStatus input.body)
      (fun g player => touched field g player input.body) := by
  unfold Field.applyInput at h
  cases body : input.body with
  | movement movement =>
    rw [body] at h
    dsimp only at h
    cases found : field.findPlayer movement.sessionId with
    | none => simp [found] at h
    | some player =>
    rw [found] at h
    dsimp only at h
    cases reached : integrateMovement player.position movement.dx movement.dy movement.dz with
    | none => simp [reached] at h
    | some next =>
    rw [reached] at h
    obtain ⟨rfl, -⟩ := Prod.mk.inj h
    unfold Field.updatePlayer
    rw [found]
    refine ⟨rfl, fun g => ?_⟩
    simp only [lookupInsert, touched]
    by_cases here : g = field.resolvePlayerId movement.sessionId
    · subst here
      rw [Function.update_self,
        show lookup field.playerList (field.resolvePlayerId movement.sessionId) = some player from found]
      simp [reached]
    · rw [Function.update_of_ne here]
      simp [Ne.symm here]
  | action action =>
    rw [body] at h
    obtain ⟨rfl, -⟩ := Prod.mk.inj h
    exact actionTouches field action
  | chat chat =>
    rw [body] at h
    obtain ⟨rfl, -⟩ := Prod.mk.inj h
    exact ⟨rfl, fun g => Option.map_id'.symm⟩
  | combat combat => simp [body, Fights] at peaceful
  | spell spell => simp [body, Fights] at peaceful

theorem touchedSame {before after : Field F}
    (resolves : ∀ id, after.resolvePlayerId id = before.resolvePlayerId id) :
    touched after = touched before := by
  funext g player body
  cases body <;> simp only [touched, resolves]

theorem inputsTouch {field after : Field F} {worldTick : UInt64} {inputs : List (WorldInput F)}
    {resolutions : List (CombatResolution F)} (peaceful : ∀ input ∈ inputs, Fights input.body = false)
    (h : Field.applyInputs worldTick field inputs = (after, some resolutions)) :
    Touches field after (gained field.fieldStatus inputs)
      (fun g player => inputs.foldl (fun player input => touched field g player input.body) player) := by
  induction inputs generalizing field resolutions with
  | nil =>
    obtain ⟨rfl, -⟩ := Prod.mk.inj h
    exact ⟨rfl, fun g => Option.map_id'.symm⟩
  | cons input inputs ih =>
    obtain ⟨quiet, peaceful⟩ := List.forall_mem_cons.mp peaceful
    obtain ⟨middle, made, rest, first, later, -⟩ := applyConsSome h
    have here := inputTouches quiet first
    have there := ih peaceful later
    have untouched := inputUntouched field worldTick input
    have residents := inputResidents field worldTick input
    rw [first] at untouched residents
    rw [touchedSame (resolveSame untouched residents)] at there
    refine ⟨there.beside.trans ?_, fun g => ?_⟩
    · rw [here.beside]
      rfl
    · rw [there.players, here.players, Option.map_map]
      rfl

structure Unmoved (field : Field F) (inputs : List (WorldInput F)) : Prop where
  peaceful : ∀ input ∈ inputs, Fights input.body = false
  players : ∀ g player, lookup field.playerList g = some player →
    inputs.foldl (fun player input => touched field g player input.body) player = player
  status : gained field.fieldStatus inputs = field.fieldStatus
  ether : decay field.fieldEther = field.fieldEther
  hazard : adverseEffectSeverity field.fieldEther = field.lastEtherHazard

theorem unmovedExact {field after : Field F} {inputs : List (WorldInput F)} {worldTick : UInt64}
    {resolutions : List (CombatResolution F)}
    (h : field.processInputs inputs worldTick = (after, some resolutions)) :
    after = field ↔ Unmoved field inputs := by
  obtain ⟨projection, applied, -, done, rfl⟩ := Field.processedInputs h
  constructor
  · intro same
    have peaceful : ∀ input ∈ inputs, Fights input.body = false := fun input there =>
      Bool.eq_false_iff.mpr fun fights => fightChanges h there fights same
    obtain ⟨beside, players⟩ := inputsTouch peaceful done
    have ether : applied.fieldEther = field.fieldEther := by rw [beside]
    have decayed : decay field.fieldEther = field.fieldEther := by
      rw [← ether]
      exact (congrArg Field.fieldEther same).trans ether.symm
    refine ⟨peaceful, fun g player there => ?_, ?_, decayed, ?_⟩
    · have kept := congrArg Field.playerList same
      dsimp only at kept
      have left := players g
      rw [kept, there] at left
      exact (Option.some.inj left).symm
    · have kept := congrArg Field.fieldStatus same
      rwa [beside] at kept
    · have kept := congrArg Field.lastEtherHazard same
      dsimp only at kept
      rwa [ether, decayed] at kept
  · rintro ⟨peaceful, players, status, ether, hazard⟩
    obtain ⟨beside, changed⟩ := inputsTouch peaceful done
    have list : applied.playerList = field.playerList := by
      refine Std.ExtTreeMap.ext_getElem? fun g => ?_
      refine (changed g).trans ?_
      cases there : lookup field.playerList g with
      | none => exact there.symm
      | some player => exact (congrArg some (players g player there)).trans there.symm
    rw [list, status] at beside
    rw [beside, ether, hazard]

def EffectsFit (applier : WorldFrameApplier F) (field : Field F) (frame : WorldFrameInputs F) : Prop :=
  Reaches field frame → InputsFit applier.updateBuilder frame.inputs →
    (field.processInputs frame.inputs frame.worldTick).2.isSome = true →
      (asked field frame).2 = true ∧ Room applier.updateBuilder (asked field frame).1.length ∧
        ∀ p ∈ (asked field frame).1, Small p

structure Unnoticed (applier : WorldFrameApplier F) (field : Field F) (frame : WorldFrameInputs F) : Prop where
  unmoved : Unmoved field frame.inputs
  old : ∀ sessionId,
    largest (numbersOf sessionId frame.inputs) ≤ applier.lastProcessedBySession.getD sessionId 0

structure Whole (applier : WorldFrameApplier F) (field : Field F) (frame : WorldFrameInputs F) : Prop where
  refused : (field.processInputs frame.inputs frame.worldTick).2 = none →
    (field.processInputs frame.inputs frame.worldTick).1 = field
  unchanged : (apply applier field frame).outcome ≠ .ok () → (apply applier field frame).field = field
  silent : (apply applier field frame).outcome ≠ .ok () → (apply applier field frame).updates = []
  unacknowledged : (apply applier field frame).outcome ≠ .ok () →
    (apply applier field frame).applier.ownerAcks = []
  numbers : (apply applier field frame).outcome ≠ .ok () →
    (apply applier field frame).applier.lastProcessedBySession = applier.lastProcessedBySession

theorem takenExactly (applier : WorldFrameApplier F) (field : Field F) (frame : WorldFrameInputs F) :
    takes applier field frame = true ↔ Reaches field frame ∧ InputsFit applier.updateBuilder frame.inputs ∧
      (field.processInputs frame.inputs frame.worldTick).2.isSome = true := by
  unfold takes
  cases checked : checkInputs field frame.inputs with
  | error e => exact ⟨nofun, fun all => by cases checked.symm.trans all.1.1⟩
  | ok done =>
    have fits := builtExactly applier.updateBuilder (by rw [checked] : checkInputs field frame.inputs = .ok ())
    rw [← and_assoc, ← fits]
    cases (build applier.updateBuilder frame).2.2 with
    | error e => simp
    | ok done => cases (field.processInputs frame.inputs frame.worldTick).2 <;> simp

theorem failedAcks {applier : WorldFrameApplier F} {field : Field F} {frame : WorldFrameInputs F}
    (failure : (apply applier field frame).outcome ≠ .ok ()) :
    (apply applier field frame).applier.ownerAcks = [] := by
  revert failure
  unfold apply
  split
  · exact fun _ => rfl
  · split
    · exact fun _ => rfl
    · split
      · exact fun _ => rfl
      · dsimp only
        split
        · exact fun _ => rfl
        · exact fun failure => absurd rfl failure

theorem earlyFrame {applier : WorldFrameApplier F} {field : Field F} {frame : WorldFrameInputs F}
    (early : takes applier field frame = false) :
    (apply applier field frame).outcome ≠ .ok () ∧
    (apply applier field frame).applier.lastProcessedBySession = applier.lastProcessedBySession ∧
    ((apply applier field frame).field = field ∨
      (field.processInputs frame.inputs frame.worldTick).2 = none ∧
        (apply applier field frame).field = (field.processInputs frame.inputs frame.worldTick).1) := by
  revert early
  unfold takes apply
  cases checkInputs field frame.inputs with
  | error e => exact fun _ => ⟨nofun, rfl, .inl rfl⟩
  | ok done =>
    obtain ⟨builder, updates, e | done⟩ := build applier.updateBuilder frame
    · exact fun _ => ⟨nofun, rfl, .inl rfl⟩
    · obtain ⟨after, none | resolutions⟩ := field.processInputs frame.inputs frame.worldTick
      · exact fun _ => ⟨nofun, rfl, .inr ⟨rfl, rfl⟩⟩
      · exact nofun

theorem lateFrame {applier : WorldFrameApplier F} {field : Field F} {frame : WorldFrameInputs F}
    (taken : takes applier field frame = true) :
    ∃ after resolutions, field.processInputs frame.inputs frame.worldTick = (after, some resolutions) ∧
      (apply applier field frame).field = after ∧
      (apply applier field frame).applier.lastProcessedBySession =
        ((lastProcessed frame.inputs).toList.foldl (recordOwnerAck after frame.worldTick)
          { applier with ownerAcks := [] }).lastProcessedBySession ∧
      ((apply applier field frame).outcome = .ok () → (apply applier field frame).applier.ownerAcks =
        ((lastProcessed frame.inputs).toList.foldl (recordOwnerAck after frame.worldTick)
          { applier with ownerAcks := [] }).ownerAcks) := by
  revert taken
  unfold takes apply
  cases checkInputs field frame.inputs with
  | error e => exact nofun
  | ok done =>
    obtain ⟨builder, updates, e | done⟩ := build applier.updateBuilder frame
    · exact nofun
    · obtain ⟨after, none | resolutions⟩ := field.processInputs frame.inputs frame.worldTick
      · exact nofun
      · intro _
        refine ⟨after, resolutions, rfl, ?_⟩
        dsimp only
        split
        · exact ⟨rfl, rfl, nofun⟩
        · exact ⟨rfl, rfl, fun _ => rfl⟩

omit [FloatOps F] in
theorem recordedSame {field : Field F} {worldTick : UInt64} {applier : WorldFrameApplier F}
    {entries : List (Int × UInt64)}
    (old : ∀ entry ∈ entries, entry.2 ≤ applier.lastProcessedBySession.getD entry.1 0) :
    (entries.foldl (recordOwnerAck field worldTick) applier).lastProcessedBySession =
      applier.lastProcessedBySession := by
  induction entries generalizing applier with
  | nil => rfl
  | cons entry entries ih =>
    have here : (recordOwnerAck field worldTick applier entry).lastProcessedBySession =
        applier.lastProcessedBySession := by
      have small := old entry List.mem_cons_self
      unfold recordOwnerAck
      dsimp only
      split
      · rfl
      · exact if_neg (UInt64.not_lt.mpr small)
    rw [List.foldl_cons, ih, here]
    intro other there
    rw [here]
    exact old other (List.mem_cons_of_mem _ there)

theorem wholeExact (calls : List (Call F)) (field : Field F) (frame : WorldFrameInputs F) :
    Whole (run serve ({} : Stream F) calls).applier field frame ↔
      GainsCancel field frame ∧ (EffectsFit (run serve ({} : Stream F) calls).applier field frame ∨
        Unnoticed (run serve ({} : Stream F) calls).applier field frame) := by
  have positive := runPositive calls
  generalize (run serve ({} : Stream F) calls).applier = applier at positive
  have succeeds := succeedsExactly applier field frame positive
  have taken := takenExactly applier field frame
  constructor
  · intro whole
    refine ⟨(refusedExact field frame).mp whole.refused, ?_⟩
    by_cases fits : EffectsFit applier field frame
    · exact .inl fits
    have failure : (apply applier field frame).outcome ≠ .ok () :=
      fun success => fits fun _ _ _ => (succeeds.mp success).2
    have late : takes applier field frame = true := by
      unfold EffectsFit at fits
      push Not at fits
      obtain ⟨reaches, inputs, accepted, -⟩ := fits
      exact taken.mpr ⟨reaches, inputs, accepted⟩
    obtain ⟨after, resolutions, processed, left, -⟩ := lateFrame late
    have same : after = field := left.symm.trans (whole.unchanged failure)
    refine .inr ⟨(unmovedExact processed).mp same, fun sessionId => ?_⟩
    obtain ⟨-, remembered⟩ := applyAcks applier field frame sessionId
    rw [whole.numbers failure, late, if_pos rfl] at remembered
    have value := congrArg UInt64.toNat remembered
    rw [largerNat] at value
    rw [UInt64.le_iff_toNat_le]
    omega
  · intro ⟨cancels, effects⟩
    have refused := (refusedExact field frame).mpr cancels
    have traceless (failure : (apply applier field frame).outcome ≠ .ok ()) :
        (apply applier field frame).field = field ∧
        (apply applier field frame).applier.lastProcessedBySession = applier.lastProcessedBySession := by
      cases late : takes applier field frame with
      | false =>
        obtain ⟨-, numbers, same | ⟨none, same⟩⟩ := earlyFrame late
        · exact ⟨same, numbers⟩
        · exact ⟨same.trans (refused none), numbers⟩
      | true =>
        obtain ⟨reaches, inputs, accepted⟩ := taken.mp late
        obtain fits | unnoticed := effects
        · exact absurd (succeeds.mpr ⟨reaches, fits reaches inputs accepted⟩) failure
        · obtain ⟨after, resolutions, processed, left, numbers, -⟩ := lateFrame late
          refine ⟨left.trans ((unmovedExact processed).mpr unnoticed.unmoved), ?_⟩
          rw [numbers]
          refine recordedSame (fun entry there => ?_)
          have found := Std.ExtTreeMap.mem_toList_iff_getElem?_eq_some.mp there
          rw [lastProcessedAt] at found
          split at found
          · contradiction
          · rw [← Option.some.inj found]
            exact unnoticed.old entry.1
    exact ⟨refused, fun failure => (traceless failure).1,
      fun failure => (droppedFrame applier failure).silent, failedAcks,
      fun failure => (traceless failure).2⟩

end

-- Characters 1 and 2 both strike an NPC that the first blow kills, behind an
-- action on the field itself.
def duel : Field ℚ :=
  { pair with
    npcList := (∅ : IntMap (Npc ℚ)).insert 9
      (.make 9 (ascii "slime") ⟨5, 0⟩ ⟨9, 0, 0, 0⟩) }

def duelQueue : Option (WorldInputQueue ℚ) := do
  let queue ← ({} : WorldInputQueue ℚ).enqueueAction ⟨0, none, none, ⟨3, 0⟩⟩
  let queue ← queue.enqueueCombat 1 9 5 []
  queue.enqueueCombat 2 9 5 []

def duelFrame : WorldFrameInputs ℚ := ⟨1, (duelQueue.getD {}).takeFrame.2⟩

theorem duelKeepsGain : ¬ Whole {} duel duelFrame ∧
    (duel.processInputs duelFrame.inputs duelFrame.worldTick).2 = none ∧
    (apply {} duel duelFrame).outcome ≠ .ok () ∧
    (apply {} duel duelFrame).field.fieldStatus = ⟨3, 0⟩ ∧ duel.fieldStatus = ⟨0, 0⟩ := by
  have failure : (apply {} duel duelFrame).outcome ≠ .ok () := by decide +kernel
  have after : (apply {} duel duelFrame).field.fieldStatus = ⟨3, 0⟩ := by decide +kernel
  refine ⟨fun whole => ?_, by decide +kernel, failure, after, rfl⟩
  rw [whole.unchanged failure] at after
  exact absurd after (by decide)

end SeedOrigin.FailedFrames
