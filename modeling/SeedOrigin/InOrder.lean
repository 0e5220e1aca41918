import SeedOrigin.CombatAccounting
import SeedOrigin.CooldownRuns

/-! The inputs of a frame one after another, each checked in the state the ones
before it left, beside the two passes of Field::processInputs: the first checks
every input against the state before the frame. -/
namespace SeedOrigin.InOrder
open SeedOrigin.Octets SeedOrigin.Numbers SeedOrigin.Character SeedOrigin.ClientInput
open SeedOrigin.Ether SeedOrigin.Inputs SeedOrigin.UpdateBuilder SeedOrigin.Maps SeedOrigin.FieldEffects
open SeedOrigin.Cooldowns SeedOrigin.CombatAccounting SeedOrigin.CooldownRuns SeedOrigin.FieldCalls
open SeedOrigin.Presence SeedOrigin.Runs

section
variable {F : Type} [FloatOps F]

def untried (field : Field F) : Projection F :=
  { attackTick := field.nextAttackTick, spellTick := field.nextSpellTick }

def fits (worldTick : UInt64) (field : Field F) : WorldInputBody F → Bool
  | .movement movement =>
    field.hasPlayer movement.sessionId && isValidMovementDelta movement.dx movement.dy movement.dz &&
      ((field.findPlayer movement.sessionId).bind (fun player =>
        integrateMovement player.position movement.dx movement.dy movement.dz)).isSome
  | .action action => action.isValid
  | .combat combat =>
    (field.validateCombat combat).toBool && (tickAfter worldTick attackCooldownTicks).isSome &&
      !cooling field.nextAttackTick worldTick combat.attackerId
  | .spell spell =>
    (field.validateSpell spell).toBool && (spellMpCost spell.power).isSome &&
      (tickAfter worldTick spellCooldownTicks).isSome &&
      !cooling field.nextSpellTick worldTick spell.casterId
  | .chat _ => true

def affords (field : Field F) : WorldInputBody F → Bool
  | .spell spell => match spellMpCost spell.power, field.findPlayer spell.casterId with
    | some cost, some caster => cost ≤ caster.status.mp
    | _, _ => false
  | _ => true

def acceptable (worldTick : UInt64) (field : Field F) (body : WorldInputBody F) : Bool :=
  fits worldTick field body && affords field body

def inOrder (accepts : Field F → WorldInputBody F → Bool) (worldTick : UInt64) :
    Field F → List (WorldInput F) → Option (Field F × List (CombatResolution F))
  | field, [] => some (field, [])
  | field, input :: inputs =>
    if accepts field input.body then match field.applyInput worldTick input with
      | (_, none) => none
      | (next, some made) =>
        (inOrder accepts worldTick next inputs).map (fun (last, rest) => (last, made ++ rest))
    else none

-- The ether decays once, after the last input.
def decayed (field : Field F) : Field F :=
  let ether := decay field.fieldEther
  { field with fieldEther := ether, lastEtherHazard := adverseEffectSeverity ether }

def FollowsOrder (accepts : Field F → WorldInputBody F → Bool) (field : Field F) (worldTick : UInt64)
    (inputs : List (WorldInput F)) : Prop :=
  ∀ after made, field.processInputs inputs worldTick = (after, some made) ↔
    (field.validateInputs worldTick (untried field) inputs).isSome = true ∧
      ∃ last, inOrder accepts worldTick field inputs = some (last, made) ∧ after = decayed last

structure Spared (field : Field F) (inputs : List (WorldInput F)) : Prop where
  actions : ∀ input ∈ inputs, ∀ action, input.body = .action action → action.status.mp = 0
  casters : ∀ g, ¬ NamedTwice field g inputs

-- The check is the one the code makes of an input that is alone in its frame.
theorem loneInput (field : Field F) (worldTick : UInt64) (body : WorldInputBody F) :
    (field.validateInput worldTick (untried field) body).isSome = acceptable worldTick field body := by
  have start (player : Player F) (id : Int) :
      (untried field).position.getD id player.position = player.position := by
    simp [untried]
  have mana (player : Player F) (id : Int) :
      (untried field).mp.getD id player.status.mp = player.status.mp := by
    simp [untried]
  cases body with
  | movement movement =>
    unfold Field.validateInput acceptable fits affords
    dsimp only
    cases present : field.hasPlayer movement.sessionId with
    | false => simp
    | true =>
      cases valid : isValidMovementDelta movement.dx movement.dy movement.dz with
      | false => simp
      | true =>
        cases found : field.findPlayer movement.sessionId with
        | none => simp
        | some player =>
          simp only [start, Option.bind_eq_bind, Option.bind_some]
          cases integrateMovement player.position movement.dx movement.dy movement.dz <;> simp
  | action action =>
    unfold Field.validateInput acceptable fits affords
    dsimp only
    cases action.isValid <;> rfl
  | combat combat =>
    unfold Field.validateInput acceptable fits affords
    dsimp only
    cases field.validateCombat combat with
    | error e => rfl
    | ok _ =>
      cases tickAfter worldTick attackCooldownTicks with
      | none => rfl
      | some next =>
        cases cools : cooling field.nextAttackTick worldTick combat.attackerId <;>
          simp [untried, cools, Except.toBool]
  | spell spell =>
    unfold Field.validateInput acceptable fits affords
    dsimp only
    cases field.validateSpell spell with
    | error e => rfl
    | ok _ =>
      cases spellMpCost spell.power with
      | none => rfl
      | some cost =>
        cases tickAfter worldTick spellCooldownTicks with
        | none => rfl
        | some next =>
          cases cools : cooling field.nextSpellTick worldTick spell.casterId with
          | true => simp [untried, cools]
          | false =>
            cases found : field.findPlayer spell.casterId with
            | none => simp [Except.toBool, untried, cools]
            | some caster =>
              simp only [mana]
              by_cases short : caster.status.mp < cost
              · simp [untried, cools, short]
              · simp [untried, cools, short, Except.toBool]
                omega
  | chat chat => rfl

theorem inOrderApplied {accepts : Field F → WorldInputBody F → Bool} {worldTick : UInt64}
    {field last : Field F} {inputs : List (WorldInput F)} {made : List (CombatResolution F)} :
    inOrder accepts worldTick field inputs = some (last, made) ↔
      Field.applyInputs worldTick field inputs = (last, some made) ∧
        ∀ before input after middle done, inputs = before ++ input :: after →
          Field.applyInputs worldTick field before = (middle, some done) →
          accepts middle input.body = true := by
  induction inputs generalizing field made with
  | nil =>
    constructor
    · intro h
      obtain ⟨rfl, rfl⟩ := Prod.mk.inj (Option.some.inj h)
      exact ⟨rfl, fun before input after middle done split => by simp at split⟩
    · rintro ⟨h, -⟩
      obtain ⟨rfl, same⟩ := Prod.mk.inj h
      rw [← Option.some.inj same]
      rfl
  | cons first inputs ih =>
    constructor
    · intro h
      unfold inOrder at h
      split at h
      · rename_i accepted
        cases taken : field.applyInput worldTick first with
        | mk next result =>
        cases result with
        | none => simp [taken] at h
        | some one =>
          rw [taken] at h
          obtain ⟨⟨after', rest⟩, later, same⟩ := Option.map_eq_some_iff.mp h
          obtain ⟨rfl, rfl⟩ := Prod.mk.inj same
          obtain ⟨applied, others⟩ := ih.mp later
          refine ⟨?_, ?_⟩
          · unfold Field.applyInputs
            rw [taken]
            dsimp only
            rw [applied]
          · intro before input after middle done split reached
            cases before with
            | nil =>
              obtain ⟨rfl, -⟩ := List.cons.inj split
              obtain ⟨rfl, -⟩ := Prod.mk.inj reached
              exact accepted
            | cons head before =>
              obtain ⟨rfl, tail⟩ := List.cons.inj split
              obtain ⟨next', one', rest', taken', reached, -⟩ := applyConsSome reached
              rw [taken] at taken'
              obtain ⟨rfl, -⟩ := Prod.mk.inj taken'
              exact others before input after middle rest' tail reached
      · contradiction
    · rintro ⟨applied, all⟩
      obtain ⟨next, one, rest, taken, later, rfl⟩ := applyConsSome applied
      have accepted := all [] first inputs field [] rfl rfl
      have others : inOrder accepts worldTick next inputs = some (last, rest) := by
        refine ih.mpr ⟨later, ?_⟩
        intro before input after middle done split reached
        refine all (first :: before) input after middle (one ++ done) (by rw [split]; rfl) ?_
        unfold Field.applyInputs
        rw [taken]
        dsimp only
        rw [reached]
      unfold inOrder
      rw [if_pos accepted, taken]
      dsimp only
      rw [others]
      rfl

theorem takenBehind {worldTick : UInt64} {field middle last : Field F} {before : List (WorldInput F)}
    {input : WorldInput F} {after : List (WorldInput F)} {done made : List (CombatResolution F)}
    (applied : Field.applyInputs worldTick field (before ++ input :: after) = (last, some made))
    (reached : Field.applyInputs worldTick field before = (middle, some done)) :
    ∃ next one, middle.applyInput worldTick input = (next, some one) := by
  induction before generalizing field done made with
  | nil =>
    obtain ⟨rfl, -⟩ := Prod.mk.inj reached
    obtain ⟨next, one, -, taken, -⟩ := applyConsSome applied
    exact ⟨next, one, taken⟩
  | cons first before ih =>
    obtain ⟨next, one, rest, taken, later, -⟩ := applyConsSome applied
    obtain ⟨next', one', rest', taken', reached, -⟩ := applyConsSome reached
    rw [taken] at taken'
    obtain ⟨rfl, -⟩ := Prod.mk.inj taken'
    exact ih later reached

structure Seen (field : Field F) (body : WorldInputBody F) : Prop where
  mover : ∀ movement, body = .movement movement → field.hasPlayer movement.sessionId = true
  valid : ∀ action, body = .action action → action.isValid = true

theorem inputSeen {field : Field F} {worldTick : UInt64} {projection next : Projection F}
    {body : WorldInputBody F} (h : field.validateInput worldTick projection body = some next) :
    Seen field body := by
  have passed := Field.passed h
  constructor
  · rintro movement rfl
    cases passed with
    | movement present found moved => exact present
  · rintro action rfl
    cases passed with
    | action valid => exact valid

theorem inputsSeen {field : Field F} {worldTick : UInt64} {projection final : Projection F}
    {inputs : List (WorldInput F)} (h : field.validateInputs worldTick projection inputs = some final) :
    ∀ input ∈ inputs, Seen field input.body := by
  induction inputs generalizing projection with
  | nil => exact nofun
  | cons first inputs ih =>
    unfold Field.validateInputs at h
    rw [List.foldlM_cons] at h
    obtain ⟨next, passes, rest⟩ := Option.bind_eq_some_iff.mp h
    intro input there
    rcases List.mem_cons.mp there with rfl | there
    · exact inputSeen passes
    · exact ih rest input there

theorem restedBehind {field middle : Field F} {worldTick : UInt64} {final : Projection F}
    {before : List (WorldInput F)} {input : WorldInput F} {after : List (WorldInput F)}
    {done : List (CombatResolution F)}
    (passes : field.validateInputs worldTick (untried field) (before ++ input :: after) = some final)
    (reached : Field.applyInputs worldTick field before = (middle, some done)) :
    resting middle.nextAttackTick middle.nextSpellTick worldTick input.body = false := by
  have rested := (inputsRested passes input (by simp)).1
  have distinct := namesDistinct passes
  rw [List.filterMap_append, List.filterMap_cons] at distinct
  have fresh {one : Art × Int} (fights : fighter input.body = some one) :
      one ∉ before.filterMap (fun input => fighter input.body) := by
    rw [fights] at distinct
    intro there
    exact (List.nodup_append.mp distinct).2.2 one there one List.mem_cons_self rfl
  cases body : input.body with
  | combat combat =>
    rw [body] at rested fresh
    have same := inputsTicks reached .attack combat.attackerId
    rw [if_neg (fresh rfl)] at same
    unfold resting cooling at rested ⊢
    dsimp only at rested ⊢
    rw [show middle.nextAttackTick[combat.attackerId]? = field.nextAttackTick[combat.attackerId]? from same]
    exact rested
  | spell spell =>
    rw [body] at rested fresh
    have same := inputsTicks reached .spell spell.casterId
    rw [if_neg (fresh rfl)] at same
    unfold resting cooling at rested ⊢
    dsimp only at rested ⊢
    rw [show middle.nextSpellTick[spell.casterId]? = field.nextSpellTick[spell.casterId]? from same]
    exact rested
  | action action => rfl
  | movement movement => rfl
  | chat chat => rfl

theorem namesBehind {worldTick : UInt64} {field middle : Field F} {before : List (WorldInput F)}
    {done : List (CombatResolution F)}
    (reached : Field.applyInputs worldTick field before = (middle, some done)) :
    SameNames field middle := by
  have untouched := inputsUntouched worldTick field before
  have residents := inputsResidents worldTick field before
  rw [reached] at untouched residents
  refine ⟨resolveSame untouched residents, fun id => ?_⟩
  rw [← Option.not_isSome, ← Option.not_isSome, foundSame untouched residents id]

theorem validMove {position next : Position F} {dx dy dz : F}
    (h : integrateMovement position dx dy dz = some next) : isValidMovementDelta dx dy dz = true := by
  unfold integrateMovement at h
  split at h
  · contradiction
  · rename_i valid
    simpa using valid

theorem combatValid {field hit : Field F} {combat : CombatIntent F} {done : Unit}
    (h : field.applyCombat combat = (hit, .ok done)) : (field.validateCombat combat).toBool = true := by
  unfold Field.applyCombat at h
  split at h
  · cases Prod.mk.inj h with
    | intro _ bad => contradiction
  · rename_i valid
    rw [valid]
    rfl

theorem spellValid {field hit : Field F} {spell : SpellIntent F} {done : Unit}
    (h : field.applySpell spell = (hit, .ok done)) : (field.validateSpell spell).toBool = true := by
  unfold Field.applySpell at h
  split at h
  · cases Prod.mk.inj h with
    | intro _ bad => contradiction
  · rename_i valid
    rw [valid]
    rfl

theorem fitsBehind {field middle next : Field F} {worldTick : UInt64} {final : Projection F}
    {before : List (WorldInput F)} {input : WorldInput F} {after : List (WorldInput F)}
    {done one : List (CombatResolution F)}
    (passes : field.validateInputs worldTick (untried field) (before ++ input :: after) = some final)
    (reached : Field.applyInputs worldTick field before = (middle, some done))
    (taken : middle.applyInput worldTick input = (next, some one)) :
    fits worldTick middle input.body = true := by
  have seen := inputsSeen passes input (by simp)
  have timed := (inputsRested passes input (by simp)).2
  have rested := restedBehind passes reached
  have names := namesBehind reached
  unfold Field.applyInput at taken
  cases body : input.body with
  | movement movement =>
    have present : middle.hasPlayer movement.sessionId = true := by
      unfold Field.hasPlayer
      rw [names.resolves]
      exact seen.mover movement body
    rw [body] at taken
    dsimp only at taken
    unfold fits
    dsimp only
    cases found : middle.findPlayer movement.sessionId with
    | none => simp [found] at taken
    | some player =>
      cases moved : integrateMovement player.position movement.dx movement.dy movement.dz with
      | none => simp [found, moved] at taken
      | some position =>
        rw [present, validMove moved, Option.bind_some, moved]
        rfl
  | action action => exact seen.valid action body
  | combat combat =>
    rw [body] at taken timed rested
    dsimp only at taken
    cases applied : middle.applyCombat combat with
    | mk hit result =>
    cases result with
    | error e => simp [applied] at taken
    | ok _ =>
      obtain ⟨tick, ends⟩ := timed
      unfold resting at rested
      unfold fits
      dsimp only at rested ⊢
      rw [combatValid applied, ends, rested]
      rfl
  | spell spell =>
    rw [body] at taken timed rested
    dsimp only at taken
    cases applied : middle.applySpell spell with
    | mk hit result =>
    cases result with
    | error e => simp [applied] at taken
    | ok _ =>
      obtain ⟨tick, ends⟩ := timed
      unfold resting at rested
      unfold fits
      dsimp only at rested ⊢
      cases cost : spellMpCost spell.power with
      | none => simp [applied, cost] at taken
      | some mpCost =>
        rw [spellValid applied, ends, rested]
        rfl
  | chat chat => rfl

def manaOf (field : Field F) (g : Int) : Option Int := (statuses field g).map Status.mp

omit [FloatOps F] in
theorem gainMana {field : Field F} {id : Int} {status : Status} (nothing : status.mp = 0) (g : Int) :
    manaOf (field.gainPlayer id status) g = manaOf field g := by
  unfold Field.gainPlayer
  split
  · rfl
  · rename_i player found
    unfold manaOf statuses
    rw [lookupInsert]
    by_cases here : g = id
    · subst here
      rw [Function.update_self, show lookup field.playerList g = some player from found, nothing]
      rfl
    · rw [Function.update_of_ne here]

omit [FloatOps F] in
theorem actionMana {field : Field F} {action : Action} (nothing : action.status.mp = 0) (g : Int) :
    manaOf (field.applyAction action) g = manaOf field g := by
  unfold Field.applyAction
  split
  · rfl
  · split
    · rfl
    · split
      · split
        · rfl
        · exact gainMana nothing g
      · split
        · rfl
        · exact gainMana nothing g

theorem inputMana {field next : Field F} {worldTick : UInt64} {input : WorldInput F}
    {made : List (CombatResolution F)} (taken : field.applyInput worldTick input = (next, some made))
    (nothing : ∀ action, input.body = .action action → action.status.mp = 0) {g : Int}
    (still : castOf field g input.body = none) {mp : Int} (has : manaOf field g = some mp) :
    manaOf next g = some mp := by
  by_cases acts : ∃ action, input.body = .action action
  · obtain ⟨action, body⟩ := acts
    have same : next = field.applyAction action := by
      unfold Field.applyInput at taken
      rw [body] at taken
      exact (Prod.mk.inj taken).1.symm
    rw [same, actionMana (nothing action body), has]
  · obtain ⟨s, there, rfl⟩ := Option.map_eq_some_iff.mp has
    have booked := inputBooked taken (fun action body => acts ⟨action, body⟩)
    obtain ⟨u, after, -, mana⟩ := booked.players g s there
    rw [still] at mana
    rw [manaOf, after]
    exact congrArg some mana

theorem inputsMana {field middle : Field F} {worldTick : UInt64} {inputs : List (WorldInput F)}
    {done : List (CombatResolution F)}
    (reached : Field.applyInputs worldTick field inputs = (middle, some done))
    (nothing : ∀ input ∈ inputs, ∀ action, input.body = .action action → action.status.mp = 0) {g : Int}
    (still : castsOf field g inputs = []) {mp : Int} (has : manaOf field g = some mp) :
    manaOf middle g = some mp := by
  induction inputs generalizing field done with
  | nil =>
    obtain ⟨rfl, -⟩ := Prod.mk.inj reached
    exact has
  | cons input inputs ih =>
    obtain ⟨next, one, rest, taken, later, -⟩ := applyConsSome reached
    obtain ⟨here, others⟩ := List.forall_mem_cons.mp nothing
    rw [castsCons] at still
    obtain ⟨first, tail⟩ := List.append_eq_nil_iff.mp still
    have names := inputNames field worldTick input
    rw [taken] at names
    rw [← castsSame names] at tail
    exact ih later others tail (inputMana taken here (by simpa using first) has)

theorem affordsBehind {field middle : Field F} {worldTick : UInt64} {final : Projection F}
    {before : List (WorldInput F)} {input : WorldInput F} {after : List (WorldInput F)}
    {done : List (CombatResolution F)}
    (passes : field.validateInputs worldTick (untried field) (before ++ input :: after) = some final)
    (spared : Spared field (before ++ input :: after))
    (reached : Field.applyInputs worldTick field before = (middle, some done))
    (costs : ∀ spell, input.body = .spell spell → (spellMpCost spell.power).isSome = true) :
    affords middle input.body = true := by
  cases body : input.body with
  | spell spell =>
    obtain ⟨cost, priced⟩ := Option.isSome_iff_exists.mp (costs spell body)
    have aside : SetAside worldTick (untried field) := by
      intro id mp there
      simp [untried, lookup] at there
    have names := namesBehind reached
    obtain ⟨distinct, funded⟩ := castsFunded aside passes (field.resolvePlayerId spell.casterId)
    have whole : castsOf field (field.resolvePlayerId spell.casterId) (before ++ input :: after) =
        castsOf field (field.resolvePlayerId spell.casterId) before ++ (spell.casterId, cost) ::
          castsOf field (field.resolvePlayerId spell.casterId) after := by
      simp [castsOf, castOf, body, priced]
    have casts : castsOf field (field.resolvePlayerId spell.casterId) (before ++ input :: after) ≠ [] := by
      rw [whole]
      simp
    obtain ⟨only, alone⟩ := onlyCast distinct casts (spared.casters _)
    rw [whole] at alone funded
    have still : castsOf field (field.resolvePlayerId spell.casterId) before = [] := by
      have length := congrArg List.length alone
      simp only [List.length_append, List.length_cons, List.length_nil] at length
      exact List.length_eq_zero_iff.mp (by omega)
    obtain ⟨-, -, caster, found, enough⟩ := funded (spell.casterId, cost) (by simp)
    have has : manaOf field (field.resolvePlayerId spell.casterId) = some caster.status.mp := by
      rw [manaOf, statuses, found]
      rfl
    have kept := inputsMana reached (fun input there => spared.actions input (by simp [there])) still has
    rw [← names.resolves] at kept
    unfold manaOf statuses at kept
    rw [Option.map_map] at kept
    obtain ⟨player, there, mana⟩ := Option.map_eq_some_iff.mp kept
    unfold affords
    dsimp only
    rw [priced, show middle.findPlayer spell.casterId = some player from there]
    rw [← mana] at enough
    exact decide_eq_true enough
  | action action => rfl
  | movement movement => rfl
  | combat combat => rfl
  | chat chat => rfl

theorem acceptedExactly {field after : Field F} {worldTick : UInt64} {inputs : List (WorldInput F)}
    {made : List (CombatResolution F)} :
    field.processInputs inputs worldTick = (after, some made) ↔
      (field.validateInputs worldTick (untried field) inputs).isSome = true ∧
        ∃ last, Field.applyInputs worldTick field inputs = (last, some made) ∧ after = decayed last := by
  unfold Field.processInputs
  cases passes : field.validateInputs worldTick (untried field) inputs with
  | none =>
    unfold untried at passes
    rw [passes]
    simp
  | some final =>
    unfold untried at passes
    rw [passes]
    cases applied : Field.applyInputs worldTick field inputs with
    | mk last result =>
    cases result with
    | none => simp
    | some resolutions =>
      simp only [Prod.mk.injEq, Option.some.injEq, Option.isSome_some, true_and]
      constructor
      · rintro ⟨rfl, rfl⟩
        exact ⟨last, ⟨rfl, rfl⟩, rfl⟩
      · rintro ⟨last', ⟨rfl, rfl⟩, rfl⟩
        exact ⟨rfl, rfl⟩

theorem followsOrder {accepts : Field F → WorldInputBody F → Bool} {field : Field F}
    {worldTick : UInt64} {inputs : List (WorldInput F)}
    (behind : ∀ final before input after middle done next one,
      field.validateInputs worldTick (untried field) inputs = some final →
      inputs = before ++ input :: after →
      Field.applyInputs worldTick field before = (middle, some done) →
      middle.applyInput worldTick input = (next, some one) → accepts middle input.body = true) :
    FollowsOrder accepts field worldTick inputs := by
  intro after made
  rw [acceptedExactly]
  refine and_congr_right (fun passes => exists_congr (fun last => and_congr_left (fun _ => ?_)))
  obtain ⟨final, passes⟩ := Option.isSome_iff_exists.mp passes
  rw [inOrderApplied]
  refine ⟨fun applied => ⟨applied, ?_⟩, And.left⟩
  rintro before input tail middle done rfl reached
  obtain ⟨next, one, taken⟩ := takenBehind applied reached
  exact behind final before input tail middle done next one passes rfl reached taken

theorem frameFits (field : Field F) (worldTick : UInt64) (inputs : List (WorldInput F)) :
    FollowsOrder (fits worldTick) field worldTick inputs := by
  refine followsOrder (fun final before input after middle done next one passes split reached taken => ?_)
  subst split
  exact fitsBehind passes reached taken

theorem frameFollowsOrder (field : Field F) (worldTick : UInt64) (inputs : List (WorldInput F))
    (spared : Spared field inputs) : FollowsOrder (acceptable worldTick) field worldTick inputs := by
  refine followsOrder (fun final before input after middle done next one passes split reached taken => ?_)
  subst split
  have fit := fitsBehind passes reached taken
  unfold acceptable
  rw [fit, Bool.true_and]
  refine affordsBehind passes spared reached (fun spell body => ?_)
  rw [body] at fit
  simp only [fits, Bool.and_eq_true] at fit
  exact fit.1.1.2

end

def arrivals (x : ℚ) : List (FieldCall ℚ) :=
  [.placeAfterLogin (fun s _ => some s) { x := 0, y := 0, z := 0, playerName := ascii "one" } 11 [],
    .placeAfterLogin (fun s _ => some s) { x := x, y := 0, z := 0, playerName := ascii "two" } 12 []]

def arena (x : ℚ) : Field ℚ :=
  (run callField (⟨Field.initial, ∅⟩ : FieldSessionPresence ℚ) (arrivals x)).field

def volley : List (WorldInput ℚ) :=
  [⟨1, .movement ⟨11, 30, 0, 0, 1⟩⟩, ⟨2, .combat ⟨11, 12, 5, []⟩⟩,
    ⟨3, .spell ⟨12, 11, ascii "fire", 20, []⟩⟩]

theorem volleyFollowsOrder :
    FollowsOrder (acceptable 1) (arena 80) 1 volley ∧
    ((arena 80).processInputs volley 1).2.map List.length = some 2 := by
  refine ⟨frameFollowsOrder (arena 80) 1 volley ⟨?_, ?_⟩, by decide +kernel⟩
  · intro input there action body
    simp only [volley, List.mem_cons, List.not_mem_nil, or_false] at there
    rcases there with rfl | rfl | rfl <;> exact nomatch body
  · rintro g ⟨one, here, other, there, apart⟩
    simp only [volley, castsOf, castOf, List.filterMap_cons, List.filterMap_nil] at here there
    split at here
    · simp at here
    · rename_i cast _
      simp_all

-- A step into range, then an attack.
def approach : List (WorldInput ℚ) :=
  [⟨1, .movement ⟨11, 60, 0, 0, 1⟩⟩, ⟨2, .combat ⟨11, 12, 5, []⟩⟩]

theorem approachRefused : ¬ ∀ (calls : List (FieldCall ℚ)) (worldTick : UInt64)
    (inputs : List (WorldInput ℚ)) (after : Field ℚ) (made : List (CombatResolution ℚ)),
    (run callField (⟨Field.initial, ∅⟩ : FieldSessionPresence ℚ) calls).field.processInputs inputs worldTick =
        (after, some made) ↔
      ∃ last, inOrder (acceptable worldTick) worldTick
          (run callField (⟨Field.initial, ∅⟩ : FieldSessionPresence ℚ) calls).field inputs = some (last, made) ∧
        after = decayed last := by
  intro every
  have accepted : (inOrder (acceptable 1) 1 (arena 150) approach).isSome = true := by decide +kernel
  have refused : ((arena 150).processInputs approach 1).2 = none := by decide +kernel
  obtain ⟨⟨last, made⟩, ordered⟩ := Option.isSome_iff_exists.mp accepted
  have taken := (every (arrivals 150) 1 approach (decayed last) made).mpr ⟨last, ordered, rfl⟩
  exact nomatch (congrArg Prod.snd taken).symm.trans refused

end SeedOrigin.InOrder
