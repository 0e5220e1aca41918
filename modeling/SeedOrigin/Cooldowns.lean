import SeedOrigin.FieldEffects

/-! What one input does to the field's own status and to the cooldowns, and who has
to rest before and after the inputs of a frame. -/
namespace SeedOrigin.Cooldowns
open SeedOrigin.Octets SeedOrigin.Numbers SeedOrigin.Character SeedOrigin.ClientInput
open SeedOrigin.Ether SeedOrigin.Inputs SeedOrigin.UpdateBuilder SeedOrigin.FieldEffects

section
variable {F : Type}

def gainedBy (status : Status) : WorldInputBody F → Status
  | .action action =>
    if action.actionType = 0 then (status.gainHp action.status.hp).gainMp action.status.mp else status
  | _ => status

structure Beside (before after : Field F) : Prop where
  status : after.fieldStatus = before.fieldStatus
  attacks : after.nextAttackTick = before.nextAttackTick
  spells : after.nextSpellTick = before.nextSpellTick

theorem Beside.refl (field : Field F) : Beside field field := ⟨rfl, rfl, rfl⟩

theorem Beside.trans {a b c : Field F} (first : Beside a b) (second : Beside b c) : Beside a c :=
  ⟨second.status.trans first.status, second.attacks.trans first.attacks,
    second.spells.trans first.spells⟩

theorem updateBeside (field : Field F) (id : Int) (change : Player F → Player F) :
    Beside field (field.updatePlayer id change) := by
  unfold Field.updatePlayer
  split <;> exact ⟨rfl, rfl, rfl⟩

theorem gainBeside (field : Field F) (id : Int) (status : Status) :
    Beside field (field.gainPlayer id status) := by
  unfold Field.gainPlayer
  split <;> exact ⟨rfl, rfl, rfl⟩

theorem damageBeside {field after : Field F} {targetId damage : Int}
    (h : field.applyDamageToTarget targetId damage = some after) : Beside field after := by
  unfold Field.applyDamageToTarget at h
  split at h
  · split at h
    · contradiction
    · obtain rfl := Option.some.inj h
      exact updateBeside ..
  · split at h
    · contradiction
    · simp only [Option.map_eq_some_iff] at h
      obtain ⟨npc, -, rfl⟩ := h
      exact ⟨rfl, rfl, rfl⟩

theorem actionBeside (field : Field F) {action : Action} (other : action.actionType ≠ 0) :
    Beside field (field.applyAction action) := by
  unfold Field.applyAction
  split
  · exact Beside.refl field
  · split
    · split
      · exact Beside.refl field
      · exact gainBeside ..
    · split
      · exact Beside.refl field
      · exact gainBeside ..

variable [FloatOps F]

theorem combatBeside (field : Field F) (intent : CombatIntent F) :
    Beside field (field.applyCombat intent).1 := by
  unfold Field.applyCombat
  split
  · exact Beside.refl field
  · split
    · exact Beside.refl field
    · rename_i hit
      exact damageBeside hit

theorem spellBeside (field : Field F) (intent : SpellIntent F) :
    Beside field (field.applySpell intent).1 := by
  have ether (changed : EnvironmentEther F) : Beside field { field with fieldEther := changed } :=
    ⟨rfl, rfl, rfl⟩
  unfold Field.applySpell
  split
  · exact Beside.refl field
  · split
    · exact ether _
    · dsimp only
      split
      · exact ether _
      · rename_i hit
        exact (ether _).trans (damageBeside hit)

structure Books (worldTick : UInt64) (before : Field F) (body : WorldInputBody F) (after : Field F)
    (applied : Bool) : Prop where
  status : after.fieldStatus = gainedBy before.fieldStatus body
  attacks : after.nextAttackTick = before.nextAttackTick ∨ ∃ combat, body = .combat combat ∧
    after.nextAttackTick = before.nextAttackTick.insert combat.attackerId
      ((tickAfter worldTick attackCooldownTicks).getD 0)
  spells : after.nextSpellTick = before.nextSpellTick ∨ ∃ spell, body = .spell spell ∧
    after.nextSpellTick = before.nextSpellTick.insert spell.casterId
      ((tickAfter worldTick spellCooldownTicks).getD 0)
  attack : applied = true → ∀ combat, body = .combat combat →
    after.nextAttackTick[combat.attackerId]? = some ((tickAfter worldTick attackCooldownTicks).getD 0)
  spell : applied = true → ∀ spell, body = .spell spell →
    after.nextSpellTick[spell.casterId]? = some ((tickAfter worldTick spellCooldownTicks).getD 0)

omit [FloatOps F] in
theorem booksBeside {worldTick : UInt64} {before after : Field F} {body : WorldInputBody F}
    (beside : Beside before after) (plain : gainedBy before.fieldStatus body = before.fieldStatus) :
    Books worldTick before body after false :=
  ⟨beside.status.trans plain.symm, .inl beside.attacks, .inl beside.spells, nofun, nofun⟩

theorem inputBooks (field : Field F) (worldTick : UInt64) (input : WorldInput F) :
    Books worldTick field input.body (field.applyInput worldTick input).1
      (field.applyInput worldTick input).2.isSome := by
  unfold Field.applyInput
  cases body : input.body with
  | movement movement =>
    dsimp only
    split
    · exact booksBeside (Beside.refl field) rfl
    · split
      · exact booksBeside (Beside.refl field) rfl
      · have beside := updateBeside field movement.sessionId
        exact ⟨(beside _).status, .inl (beside _).attacks, .inl (beside _).spells, nofun, nofun⟩
  | action action =>
    by_cases own : action.actionType = 0
    · have status : field.applyAction action = field.gainStatus action.status := by
        simp [Field.applyAction, Action.isValid, own]
      dsimp only
      rw [status]
      exact ⟨by simp [gainedBy, own, Field.gainStatus], .inl rfl, .inl rfl, nofun, nofun⟩
    · have beside := actionBeside field own
      refine ⟨beside.status.trans ?_, .inl beside.attacks, .inl beside.spells, nofun, nofun⟩
      simp [gainedBy, own]
  | combat combat =>
    dsimp only
    have hit := combatBeside field combat
    split
    · rename_i made
      rw [made] at hit
      exact booksBeside hit rfl
    · rename_i made
      rw [made] at hit
      refine ⟨hit.status, .inr ⟨combat, rfl, ?_⟩, .inl hit.spells, ?_, nofun⟩
      · dsimp only
        rw [hit.attacks]
      · intro applied other same
        cases same
        exact Std.ExtTreeMap.getElem?_insert_self
  | spell spell =>
    dsimp only
    have hit := spellBeside field spell
    split
    · rename_i made
      rw [made] at hit
      exact booksBeside hit rfl
    · rename_i made
      rw [made] at hit
      split
      · exact booksBeside hit rfl
      · rename_i cost _
        have paid := hit.trans (updateBeside _ spell.casterId (fun caster =>
          { caster with status := caster.status.gainMp (-cost) }))
        refine ⟨paid.status, .inl paid.attacks, .inr ⟨spell, rfl, ?_⟩, nofun, ?_⟩
        · dsimp only
          rw [paid.spells]
        · intro applied other same
          cases same
          exact Std.ExtTreeMap.getElem?_insert_self
  | chat chat => exact ⟨rfl, .inl rfl, .inl rfl, nofun, nofun⟩

omit [FloatOps F] in
theorem tickSum {tick duration next : UInt64} (h : tickAfter tick duration = some next) :
    next.toNat = tick.toNat + duration.toNat := by
  unfold tickAfter at h
  split at h
  · contradiction
  · rename_i room
    cases Option.some.inj h
    have bound := UInt64.le_iff_toNat_le.mp (UInt64.not_lt.mp room)
    have largest : maxUint64.toNat = 2 ^ 64 - 1 := rfl
    have short : duration.toNat ≤ maxUint64.toNat := by
      rw [largest]
      exact Nat.le_of_lt_succ duration.toNat_lt
    have difference : (maxUint64 - duration).toNat = maxUint64.toNat - duration.toNat :=
      UInt64.toNat_sub_of_le _ _ (UInt64.le_iff_toNat_le.mpr short)
    rw [UInt64.toNat_add]
    omega

omit [FloatOps F] in
theorem tickLater {tick duration next : UInt64} (some' : 0 < duration)
    (h : tickAfter tick duration = some next) : tick < next := by
  have positive := UInt64.lt_iff_toNat_lt.mp some'
  have zero : (0 : UInt64).toNat = 0 := rfl
  rw [UInt64.lt_iff_toNat_lt, tickSum h]
  omega

def resting (attacks spells : IntMap UInt64) (worldTick : UInt64) : WorldInputBody F → Bool
  | .combat combat => cooling attacks worldTick combat.attackerId
  | .spell spell => cooling spells worldTick spell.casterId
  | _ => false

omit [FloatOps F] in
theorem coolingInsert {ticks : IntMap UInt64} {worldTick next : UInt64} {j : Int} (later : worldTick < next)
    (k : Int) (rests : cooling ticks worldTick k = true) :
    cooling (ticks.insert j next) worldTick k = true := by
  unfold cooling at rests ⊢
  rw [Std.ExtTreeMap.getElem?_insert]
  split
  · rename_i none
    split at none
    · contradiction
    · rw [none] at rests
      exact rests
  · rename_i tick there
    split at there
    · cases Option.some.inj there
      exact decide_eq_true later
    · rw [there] at rests
      exact rests

def Timed (worldTick : UInt64) : WorldInputBody F → Prop
  | .combat _ => ∃ next, tickAfter worldTick attackCooldownTicks = some next
  | .spell _ => ∃ next, tickAfter worldTick spellCooldownTicks = some next
  | _ => True

theorem inputRested {field : Field F} {worldTick : UInt64} {projection next : Projection F}
    {body : WorldInputBody F} (h : field.validateInput worldTick projection body = some next) :
    resting projection.attackTick projection.spellTick worldTick body = false ∧
      Timed worldTick body ∧
      ∀ other : WorldInputBody F,
        resting projection.attackTick projection.spellTick worldTick other = true →
        resting next.attackTick next.spellTick worldTick other = true := by
  cases Field.passed h with
  | movement present found moved => exact ⟨rfl, trivial, fun _ rests => rests⟩
  | action valid => exact ⟨rfl, trivial, fun _ rests => rests⟩
  | @combat combat tick ends rested =>
    refine ⟨rested, ⟨tick, ends⟩, fun other rests => ?_⟩
    cases other with
    | combat other => exact coolingInsert (tickLater (by decide) ends) _ rests
    | spell other => exact rests
    | action other => contradiction
    | movement other => contradiction
    | chat other => contradiction
  | @spell spell caster cost tick costs ends rested found enough =>
    refine ⟨rested, ⟨tick, ends⟩, fun other rests => ?_⟩
    cases other with
    | combat other => exact rests
    | spell other => exact coolingInsert (tickLater (by decide) ends) _ rests
    | action other => contradiction
    | movement other => contradiction
    | chat other => contradiction
  | chat chat => exact ⟨rfl, trivial, fun _ rests => rests⟩

theorem passTires {field : Field F} {worldTick : UInt64} {projection next : Projection F}
    {body : WorldInputBody F} (h : field.validateInput worldTick projection body = some next)
    (fights : Fights body = true) : resting next.attackTick next.spellTick worldTick body = true := by
  cases Field.passed h with
  | movement present found moved => contradiction
  | action valid => contradiction
  | chat chat => contradiction
  | combat ends rested =>
    simp only [resting, cooling, Std.ExtTreeMap.getElem?_insert_self]
    exact decide_eq_true (tickLater (by decide) ends)
  | spell costs ends rested found enough =>
    simp only [resting, cooling, Std.ExtTreeMap.getElem?_insert_self]
    exact decide_eq_true (tickLater (by decide) ends)

theorem inputsRested {field : Field F} {worldTick : UInt64} {projection final : Projection F}
    {inputs : List (WorldInput F)}
    (h : field.validateInputs worldTick projection inputs = some final) : ∀ input ∈ inputs,
      resting projection.attackTick projection.spellTick worldTick input.body = false ∧
        Timed worldTick input.body := by
  induction inputs generalizing projection with
  | nil => exact fun input there => absurd there List.not_mem_nil
  | cons first inputs ih =>
    unfold Field.validateInputs at h
    rw [List.foldlM_cons] at h
    obtain ⟨next, passes, rest⟩ := Option.bind_eq_some_iff.mp h
    obtain ⟨rested, timed, still⟩ := inputRested passes
    intro input there
    rcases List.mem_cons.mp there with rfl | there
    · exact ⟨rested, timed⟩
    · obtain ⟨later, timed⟩ := ih rest input there
      refine ⟨?_, timed⟩
      by_contra rests
      rw [still input.body (by simpa using rests)] at later
      contradiction

theorem inputTires {field after : Field F} {worldTick : UInt64} {input : WorldInput F}
    {made : List (CombatResolution F)} (timed : Timed worldTick input.body)
    (h : field.applyInput worldTick input = (after, some made)) :
    (Fights input.body = true → resting after.nextAttackTick after.nextSpellTick worldTick input.body = true) ∧
      ∀ other : WorldInputBody F,
        resting field.nextAttackTick field.nextSpellTick worldTick other = true →
        resting after.nextAttackTick after.nextSpellTick worldTick other = true := by
  have books : Books worldTick field input.body after true := by
    have all := inputBooks field worldTick input
    rw [h] at all
    exact all
  refine ⟨fun fights => ?_, fun other rests => ?_⟩
  · cases body : input.body with
    | combat combat =>
      rw [body] at timed
      obtain ⟨next, ends⟩ := timed
      have there := books.attack rfl combat body
      simp only [resting, cooling, there, ends, Option.getD_some]
      exact decide_eq_true (tickLater (by decide) ends)
    | spell spell =>
      rw [body] at timed
      obtain ⟨next, ends⟩ := timed
      have there := books.spell rfl spell body
      simp only [resting, cooling, there, ends, Option.getD_some]
      exact decide_eq_true (tickLater (by decide) ends)
    | action action => simp [body, Fights] at fights
    | movement movement => simp [body, Fights] at fights
    | chat chat => simp [body, Fights] at fights
  · cases other with
    | combat other =>
      obtain same | ⟨combat, body, changed⟩ := books.attacks
      · simpa only [resting, same] using rests
      · rw [body] at timed
        obtain ⟨next, ends⟩ := timed
        simp only [resting, changed, ends, Option.getD_some]
        exact coolingInsert (tickLater (by decide) ends) _ rests
    | spell other =>
      obtain same | ⟨spell, body, changed⟩ := books.spells
      · simpa only [resting, same] using rests
      · rw [body] at timed
        obtain ⟨next, ends⟩ := timed
        simp only [resting, changed, ends, Option.getD_some]
        exact coolingInsert (tickLater (by decide) ends) _ rests
    | action other => contradiction
    | movement other => contradiction
    | chat other => contradiction

theorem inputsTire {worldTick : UInt64} {field after : Field F} {inputs : List (WorldInput F)}
    {resolutions : List (CombatResolution F)} (timed : ∀ input ∈ inputs, Timed worldTick input.body)
    (h : Field.applyInputs worldTick field inputs = (after, some resolutions)) :
    (∀ input ∈ inputs, Fights input.body = true →
      resting after.nextAttackTick after.nextSpellTick worldTick input.body = true) ∧
      ∀ other : WorldInputBody F,
        resting field.nextAttackTick field.nextSpellTick worldTick other = true →
        resting after.nextAttackTick after.nextSpellTick worldTick other = true := by
  induction inputs generalizing field resolutions with
  | nil =>
    obtain ⟨rfl, -⟩ := Prod.mk.inj h
    exact ⟨fun input there => absurd there List.not_mem_nil, fun _ rests => rests⟩
  | cons first inputs ih =>
    obtain ⟨middle, made, rest, done, later, -⟩ := applyConsSome h
    obtain ⟨tires, keeps⟩ := inputTires (timed first List.mem_cons_self) done
    obtain ⟨others, still⟩ := ih (fun input there => timed input (List.mem_cons_of_mem _ there)) later
    refine ⟨fun input there fights => ?_, fun other rests => still other (keeps other rests)⟩
    rcases List.mem_cons.mp there with rfl | there
    · exact still _ (tires fights)
    · exact others input there fights

end

end SeedOrigin.Cooldowns
