import Mathlib.Logic.Relation
import SeedOrigin.FieldEffects

/-! Every single write that the inputs of a frame come down to. What each of them
keeps, a frame keeps. -/
namespace SeedOrigin.FieldWrites
open SeedOrigin.Octets SeedOrigin.Numbers SeedOrigin.Character SeedOrigin.ClientInput
open SeedOrigin.Ether SeedOrigin.Inputs SeedOrigin.UpdateBuilder SeedOrigin.Maps
open SeedOrigin.FieldEffects
open Relation (ReflTransGen)

section
variable {F : Type} [FloatOps F]

inductive Changed (player : Player F) : Player F → Prop where
  | status (status : Status) : Changed player { player with status := status }
  | moved {next : Position F} {dx dy dz : F}
      (reached : integrateMovement player.position dx dy dz = some next) :
      Changed player (player.setPosition next)

inductive Write (before : Field F) : Field F → Prop where
  | player {g : Int} {player changed : Player F} (there : lookup before.playerList g = some player)
      (change : Changed player changed) :
      Write before { before with playerList := before.playerList.insert g changed }
  | npc {n damage : Int} {npc changed : Npc F} (there : lookup before.npcList n = some npc)
      (hit : npc.applyDamage damage = some changed) :
      Write before { before with npcList := before.npcList.insert n changed }
  | world (status : Status) (ether : EnvironmentEther F) (attack spell : IntMap UInt64) :
      Write before { before with
        fieldStatus := status
        fieldEther := ether
        nextAttackTick := attack
        nextSpellTick := spell }
  | ended (ether : EnvironmentEther F) :
      Write before { before with fieldEther := ether, lastEtherHazard := adverseEffectSeverity ether }

abbrev Writes : Field F → Field F → Prop := ReflTransGen Write

theorem writesKeep {P : Field F → Prop} (keeps : ∀ a b, Write a b → P a → P b) {a b : Field F}
    (writes : Writes a b) (start : P a) : P b := by
  induction writes with
  | refl => exact start
  | tail _ last ih => exact keeps _ _ last ih

theorem updateWrites {field : Field F} {id : Int} {change : Player F → Player F}
    (changed : ∀ player, field.findPlayer id = some player → Changed player (change player)) :
    Writes field (field.updatePlayer id change) := by
  unfold Field.updatePlayer
  split
  · exact .refl
  · rename_i player found
    exact .single (.player found (changed player found))

theorem gainWrites (field : Field F) (id : Int) (status : Status) :
    Writes field (field.gainPlayer id status) := by
  unfold Field.gainPlayer
  split
  · exact .refl
  · rename_i player found
    exact .single (.player found (.status _))

theorem actionWrites (field : Field F) (action : Action) : Writes field (field.applyAction action) := by
  unfold Field.applyAction
  split
  · exact .refl
  · split
    · exact .single (.world _ field.fieldEther field.nextAttackTick field.nextSpellTick)
    · split
      · split
        · exact .refl
        · exact gainWrites field _ _
      · split
        · exact .refl
        · exact gainWrites field _ _

theorem damageWrites {field after : Field F} {targetId damage : Int}
    (h : field.applyDamageToTarget targetId damage = some after) : Writes field after := by
  unfold Field.applyDamageToTarget at h
  split at h
  · split at h
    · contradiction
    · obtain rfl := Option.some.inj h
      exact updateWrites (fun player _ => .status _)
  · split at h
    · contradiction
    · rename_i npc found
      obtain ⟨changed, hit, rfl⟩ := Option.map_eq_some_iff.mp h
      exact .single (.npc found hit)

theorem combatWrites (field : Field F) (intent : CombatIntent F) :
    Writes field (field.applyCombat intent).1 := by
  unfold Field.applyCombat
  split
  · exact .refl
  · split
    · exact .refl
    · rename_i hit
      exact damageWrites hit

theorem spellWrites (field : Field F) (intent : SpellIntent F) :
    Writes field (field.applySpell intent).1 := by
  have changed (ether : EnvironmentEther F) : Write field { field with fieldEther := ether } :=
    .world field.fieldStatus ether field.nextAttackTick field.nextSpellTick
  unfold Field.applySpell
  split
  · exact .refl
  · split
    · exact .single (changed _)
    · dsimp only
      split
      · exact .single (changed _)
      · rename_i hit
        exact .head (changed _) (damageWrites hit)

theorem inputWrites (field : Field F) (worldTick : UInt64) (input : WorldInput F) :
    Writes field (field.applyInput worldTick input).1 := by
  unfold Field.applyInput
  cases body : input.body with
  | movement movement =>
    dsimp only
    split
    · exact .refl
    · rename_i player found
      split
      · exact .refl
      · rename_i next reached
        refine updateWrites (fun other there => ?_)
        obtain rfl := Option.some.inj (found.symm.trans there)
        exact .moved reached
  | action action => exact actionWrites field action
  | combat combat =>
    dsimp only
    have hit := combatWrites field combat
    split
    · rename_i made
      rwa [made] at hit
    · rename_i made
      rw [made] at hit
      exact hit.tail (.world _ _ _ _)
  | spell spell =>
    dsimp only
    have hit := spellWrites field spell
    split
    · rename_i made
      rwa [made] at hit
    · rename_i struck _ made
      rw [made] at hit
      split
      · exact hit
      · rename_i cost _
        have paid : Writes struck (struck.updatePlayer spell.casterId (fun caster =>
            { caster with status := caster.status.gainMp (-cost) })) :=
          updateWrites (fun caster _ => .status _)
        exact (hit.trans paid).tail (.world _ _ _ _)
  | chat chat => exact .refl

theorem inputsWrite (worldTick : UInt64) (field : Field F) (inputs : List (WorldInput F)) :
    Writes field (Field.applyInputs worldTick field inputs).1 :=
  inputsRelate (fun _ => .refl) (fun first second => first.trans second) worldTick
    (fun field input => inputWrites field worldTick input) field inputs

theorem processedWrites (field : Field F) (inputs : List (WorldInput F)) (worldTick : UInt64) :
    Writes field (field.processInputs inputs worldTick).1 := by
  cases processed : field.processInputs inputs worldTick with
  | mk after result =>
  cases result with
  | none =>
    rw [refusedUnchanged processed]
    exact .single (.world _ field.fieldEther field.nextAttackTick field.nextSpellTick)
  | some resolutions =>
    obtain ⟨projection, applied, -, done, rfl⟩ := Field.processedInputs processed
    have written := inputsWrite worldTick field inputs
    rw [done] at written
    exact written.tail (.ended _)

end

end SeedOrigin.FieldWrites
