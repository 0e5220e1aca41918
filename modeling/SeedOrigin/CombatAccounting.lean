import SeedOrigin.Cooldowns
import SeedOrigin.FieldCalls

/-! What the fights of a frame cost: who loses hit points and mana, and what the
resolutions say of it. Mana is set aside under the id an input names before any
id is resolved. -/
namespace SeedOrigin.CombatAccounting
open SeedOrigin.Octets SeedOrigin.Numbers SeedOrigin.Character SeedOrigin.ClientInput
open SeedOrigin.Inputs SeedOrigin.UpdateBuilder SeedOrigin.Maps SeedOrigin.FieldEffects
open SeedOrigin.Cooldowns

section
variable {F : Type}

def statuses (field : Field F) (g : Int) : Option Status := (lookup field.playerList g).map Player.status

def npcStatuses (field : Field F) (n : Int) : Option Status := (lookup field.npcList n).map Npc.status

def damageTo (field : Field F) (g : Int) (resolutions : List (CombatResolution F)) : Int :=
  ((resolutions.filter (fun r => field.resolvePlayerId r.targetId = g)).map CombatResolution.damage).sum

-- A resolution is aimed at an NPC when its target is no player.
def damageToNpc (field : Field F) (n : Int) (resolutions : List (CombatResolution F)) : Int :=
  ((resolutions.filter (fun r => (field.findPlayer r.targetId).isNone ∧ r.targetId = n)).map
    CombatResolution.damage).sum

def spentBy (field : Field F) (g : Int) (resolutions : List (CombatResolution F)) : Int :=
  ((resolutions.filter (fun r => r.spell ∧ field.resolvePlayerId r.actorId = g)).map
    CombatResolution.mpSpent).sum

theorem targetHpOf (field : Field F) (t : Int) : field.targetHp t =
    ((statuses field (field.resolvePlayerId t)).or (npcStatuses field t)).elim 0 Status.hp := by
  unfold Field.targetHp statuses npcStatuses Field.findPlayer Field.findNpc lookup
  cases field.playerList[field.resolvePlayerId t]? with
  | some player => rfl
  | none =>
    cases field.npcList[t]? <;> rfl

theorem statusUpdated {field : Field F} {id : Int} {player : Player F}
    (found : field.findPlayer id = some player) (change : Player F → Player F) :
    statuses (field.updatePlayer id change) =
      Function.update (statuses field) (field.resolvePlayerId id) (some (change player).status) := by
  unfold Field.updatePlayer
  rw [found]
  funext g
  simp only [statuses, lookupInsert]
  by_cases here : g = field.resolvePlayerId id
  · simp [here]
  · simp [Function.update_of_ne here, statuses]

inductive Hurts (field : Field F) (t : Int) (after : Field F) : Prop where
  | player {s u : Status} (there : statuses field (field.resolvePlayerId t) = some s)
      (mana : u.mp = s.mp)
      (changed : statuses after = Function.update (statuses field) (field.resolvePlayerId t) (some u))
      (others : npcStatuses after = npcStatuses field)
  | npc {s u : Status} (free : statuses field (field.resolvePlayerId t) = none)
      (there : npcStatuses field t = some s) (same : statuses after = statuses field)
      (changed : npcStatuses after = Function.update (npcStatuses field) t (some u))

theorem damageHurts {field after : Field F} {t damage : Int}
    (h : field.applyDamageToTarget t damage = some after) : Hurts field t after := by
  unfold Field.applyDamageToTarget at h
  cases found : field.findPlayer t with
  | some player =>
    rw [found] at h
    dsimp only at h
    split at h <;> try contradiction
    obtain rfl := Option.some.inj h
    refine .player (s := player.status) (u := player.status.gainHp (-damage)) ?_ rfl
      (statusUpdated found _) ?_
    · exact congrArg (Option.map Player.status) found
    · unfold Field.updatePlayer
      rw [found]
      rfl
  | none =>
    rw [found] at h
    dsimp only at h
    cases there : field.findNpc t with
    | none => simp [there] at h
    | some npc =>
      rw [there] at h
      obtain ⟨hurt, -, rfl⟩ := Option.map_eq_some_iff.mp h
      refine .npc (s := npc.status) (u := hurt.status) ?_ ?_ rfl ?_
      · exact congrArg (Option.map Player.status) found
      · exact congrArg (Option.map Npc.status) there
      · funext n
        simp only [npcStatuses, lookupInsert]
        by_cases here : n = t
        · simp [here]
        · simp [Function.update_of_ne here, npcStatuses]

theorem hurtLoss {field after : Field F} {t : Int} (hurts : Hurts field t after)
    (resolves : after.resolvePlayerId t = field.resolvePlayerId t) :
    (∀ g s, statuses field g = some s → ∃ u, statuses after g = some u ∧ u.mp = s.mp ∧
      s.hp - u.hp = if field.resolvePlayerId t = g then field.targetHp t - after.targetHp t else 0) ∧
    ∀ n s, npcStatuses field n = some s → ∃ u, npcStatuses after n = some u ∧
      s.hp - u.hp = if (field.findPlayer t).isNone ∧ t = n then field.targetHp t - after.targetHp t
        else 0 := by
  have resident : (field.findPlayer t).isNone = (statuses field (field.resolvePlayerId t)).isNone := by
    unfold statuses
    rw [Option.isNone_map]
    rfl
  rw [targetHpOf, targetHpOf, resolves, resident]
  cases hurts with
  | player there mana changed others =>
    rename_i s u
    rw [changed, there, Function.update_self]
    refine ⟨fun g before here => ?_, fun n before here => ⟨before, by rw [others, here], by simp⟩⟩
    by_cases same : field.resolvePlayerId t = g
    · rw [same] at there
      cases there.symm.trans here
      exact ⟨u, by rw [same, Function.update_self], mana, by simp [same]⟩
    · exact ⟨before, by rw [Function.update_of_ne (Ne.symm same), here], rfl, by simp [same]⟩
  | npc free there same changed =>
    rename_i s u
    rw [changed, same, free, there, Function.update_self]
    refine ⟨fun g before here => ⟨before, here, rfl, ?_⟩, fun n before here => ?_⟩
    · rw [if_neg, Int.sub_self]
      rintro rfl
      rw [free] at here
      contradiction
    · by_cases mine : t = n
      · subst mine
        cases there.symm.trans here
        exact ⟨u, Function.update_self .., by simp⟩
      · exact ⟨before, by rw [Function.update_of_ne (Ne.symm mine), here], by simp [mine]⟩

theorem hurtsEther {field after : Field F} {ether : Ether.EnvironmentEther F} {t : Int}
    (hurts : Hurts { field with fieldEther := ether } t after) : Hurts field t after := by
  cases hurts with
  | player there mana changed others => exact .player there mana changed others
  | npc free there same changed => exact .npc free there same changed

variable [FloatOps F]

def castOf (field : Field F) (g : Int) : WorldInputBody F → Option (Int × Int)
  | .spell spell =>
    if field.resolvePlayerId spell.casterId = g then
      some (spell.casterId, (spellMpCost spell.power).getD 0)
    else none
  | _ => none

def castsOf (field : Field F) (g : Int) (inputs : List (WorldInput F)) : List (Int × Int) :=
  inputs.filterMap (fun input => castOf field g input.body)

def pay (mp : Int) (costs : List Int) : Int := costs.foldl (fun mp cost => gain mp (-cost)) mp

structure Booked (before : Field F) (casts : Int → List Int) (made : List (CombatResolution F))
    (after : Field F) : Prop where
  players : ∀ g s, statuses before g = some s → ∃ u, statuses after g = some u ∧
    s.hp - u.hp = damageTo before g made ∧ u.mp = pay s.mp (casts g)
  npcs : ∀ n s, npcStatuses before n = some s → ∃ u, npcStatuses after n = some u ∧
    s.hp - u.hp = damageToNpc before n made
  spent : ∀ g, spentBy before g made = (casts g).sum

omit [FloatOps F] in
theorem damageOne (field : Field F) (g : Int) (r : CombatResolution F) :
    damageTo field g [r] = if field.resolvePlayerId r.targetId = g then r.damage else 0 := by
  unfold damageTo
  by_cases here : field.resolvePlayerId r.targetId = g <;> simp [here]

omit [FloatOps F] in
theorem damageNpcOne (field : Field F) (n : Int) (r : CombatResolution F) :
    damageToNpc field n [r] =
      if (field.findPlayer r.targetId).isNone ∧ r.targetId = n then r.damage else 0 := by
  unfold damageToNpc
  by_cases here : (field.findPlayer r.targetId).isNone ∧ r.targetId = n
  · rw [if_pos here, List.filter_cons_of_pos (by simpa using here)]
    simp
  · rw [if_neg here, List.filter_cons_of_neg (by simpa using here)]
    rfl

omit [FloatOps F] in
theorem bookedNothing {field after : Field F} (players : statuses after = statuses field)
    (npcs : npcStatuses after = npcStatuses field) : Booked field (fun _ => []) [] after := by
  refine ⟨fun g s here => ⟨s, ?_, Int.sub_self _, rfl⟩, fun n s here => ⟨s, ?_, Int.sub_self _⟩,
    fun _ => rfl⟩
  · rw [players, here]
  · rw [npcs, here]

omit [FloatOps F] in
theorem attackBooked {field hit after : Field F} {r : CombatResolution F}
    (hurts : Hurts field r.targetId hit)
    (resolves : hit.resolvePlayerId r.targetId = field.resolvePlayerId r.targetId)
    (players : after.playerList = hit.playerList) (npcs : after.npcList = hit.npcList)
    (attack : r.spell = false) (damage : r.damage = field.targetHp r.targetId - hit.targetHp r.targetId) :
    Booked field (fun _ => []) [r] after := by
  obtain ⟨losses, npcLosses⟩ := hurtLoss hurts resolves
  have same : statuses after = statuses hit := by
    unfold statuses
    rw [players]
  have others : npcStatuses after = npcStatuses hit := by
    unfold npcStatuses
    rw [npcs]
  refine ⟨fun g s here => ?_, fun n s here => ?_, fun g => ?_⟩
  · obtain ⟨u, there, mana, lost⟩ := losses g s here
    exact ⟨u, by rw [same, there], by rw [damageOne, damage, lost], mana⟩
  · obtain ⟨u, there, lost⟩ := npcLosses n s here
    exact ⟨u, by rw [others, there], by rw [damageNpcOne, damage, lost]⟩
  · simp [spentBy, attack]

omit [FloatOps F] in
theorem spellBooked {field hit paid after : Field F} {r : CombatResolution F} {caster : Player F}
    {actor mpCost : Int} (hurts : Hurts field r.targetId hit)
    (resolves : ∀ id, hit.resolvePlayerId id = field.resolvePlayerId id)
    (found : hit.findPlayer actor = some caster)
    (payment : paid = hit.updatePlayer actor (fun player =>
      { player with status := player.status.gainMp (-mpCost) }))
    (players : after.playerList = paid.playerList) (npcs : after.npcList = paid.npcList)
    (spell : r.spell = true) (acts : r.actorId = actor) (spends : r.mpSpent = mpCost)
    (damage : r.damage = field.targetHp r.targetId - paid.targetHp r.targetId) :
    Booked field (fun g => if field.resolvePlayerId actor = g then [mpCost] else []) [r] after := by
  subst acts spends
  obtain ⟨losses, npcLosses⟩ := hurtLoss hurts (resolves r.targetId)
  have changed : statuses paid = Function.update (statuses hit) (field.resolvePlayerId r.actorId)
      (some (caster.status.gainMp (-r.mpSpent))) := by
    rw [payment, statusUpdated found, resolves]
  have there : statuses hit (field.resolvePlayerId r.actorId) = some caster.status := by
    rw [← resolves]
    exact congrArg (Option.map Player.status) found
  have npcsPaid : npcStatuses paid = npcStatuses hit := by
    rw [payment]
    unfold Field.updatePlayer
    rw [found]
    rfl
  have still := updateStill hit r.actorId (fun player =>
    { player with status := player.status.gainMp (-r.mpSpent) }) (fun _ => rfl)
  rw [← payment] at still
  have untouched (id : Int) : paid.resolvePlayerId id = hit.resolvePlayerId id :=
    resolveSame still.toUntouched (fun g => by rw [still.places]) id
  have kept : paid.targetHp r.targetId = hit.targetHp r.targetId := by
    rw [targetHpOf, targetHpOf, untouched, npcsPaid, changed]
    by_cases own : hit.resolvePlayerId r.targetId = field.resolvePlayerId r.actorId
    · rw [own, Function.update_self, there]
      rfl
    · rw [Function.update_of_ne own]
  have same : statuses after = statuses paid := by
    unfold statuses
    rw [players]
  have others : npcStatuses after = npcStatuses hit := by
    rw [← npcsPaid]
    unfold npcStatuses
    rw [npcs]
  refine ⟨fun g s here => ?_, fun n s here => ?_, fun g => ?_⟩
  · obtain ⟨u, left, mana, lost⟩ := losses g s here
    rw [damageOne, damage, kept, ← lost, same, changed]
    by_cases own : g = field.resolvePlayerId r.actorId
    · rw [own] at left ⊢
      cases there.symm.trans left
      rw [Function.update_self, if_pos rfl]
      refine ⟨_, rfl, rfl, ?_⟩
      rw [← mana]
      rfl
    · rw [Function.update_of_ne own, if_neg (Ne.symm own)]
      exact ⟨u, left, rfl, mana⟩
  · obtain ⟨u, left, lost⟩ := npcLosses n s here
    exact ⟨u, by rw [others, left], by rw [damageNpcOne, damage, kept, lost]⟩
  · unfold spentBy
    by_cases own : field.resolvePlayerId r.actorId = g <;> simp [own, spell]

theorem combatHurts {field hit : Field F} {combat : CombatIntent F}
    (applied : field.applyCombat combat = (hit, .ok ())) : Hurts field combat.targetId hit := by
  unfold Field.applyCombat at applied
  split at applied
  · exact absurd (Prod.mk.inj applied).2 nofun
  · split at applied
    · exact absurd (Prod.mk.inj applied).2 nofun
    · rename_i made
      obtain ⟨rfl, -⟩ := Prod.mk.inj applied
      exact damageHurts made

theorem spellHurts {field hit : Field F} {spell : SpellIntent F}
    (applied : field.applySpell spell = (hit, .ok ())) :
    Hurts field spell.targetId hit ∧ (field.findPlayer spell.casterId).isSome = true := by
  unfold Field.applySpell at applied
  split at applied
  · exact absurd (Prod.mk.inj applied).2 nofun
  · rename_i valid
    split at applied
    · exact absurd (Prod.mk.inj applied).2 nofun
    · dsimp only at applied
      split at applied
      · exact absurd (Prod.mk.inj applied).2 nofun
      · rename_i made
        obtain ⟨rfl, -⟩ := Prod.mk.inj applied
        refine ⟨hurtsEther (damageHurts made), ?_⟩
        unfold Field.validateSpell at valid
        split at valid <;> try contradiction
        split at valid <;> try contradiction
        split at valid <;> try contradiction
        unfold Field.validateCombat at valid
        split at valid
        · rename_i attacker target found there
          exact Option.isSome_of_mem found
        · contradiction

theorem inputBooked {field after : Field F} {worldTick : UInt64} {input : WorldInput F}
    {made : List (CombatResolution F)} (h : field.applyInput worldTick input = (after, some made))
    (plain : ∀ action, input.body ≠ .action action) :
    Booked field (fun g => ((castOf field g input.body).map Prod.snd).toList) made after := by
  unfold Field.applyInput at h
  cases body : input.body with
  | action action => exact absurd body (plain action)
  | movement movement =>
    rw [body] at h
    dsimp only at h
    cases found : field.findPlayer movement.sessionId with
    | none => simp [found] at h
    | some player =>
      rw [found] at h
      dsimp only at h
      split at h
      · simp at h
      · rename_i next moved
        obtain ⟨rfl, none⟩ := Prod.mk.inj h
        obtain rfl := Option.some.inj none
        refine bookedNothing ?_ ?_
        · rw [statusUpdated found]
          refine Function.update_eq_self_iff.mpr ?_
          exact (congrArg (Option.map Player.status) found).symm
        · unfold Field.updatePlayer
          rw [found]
          rfl
  | combat combat =>
    rw [body] at h
    dsimp only at h
    cases applied : field.applyCombat combat with
    | mk hit result =>
    cases result with
    | error e => simp [applied] at h
    | ok done =>
      have still := combatStill field combat
      rw [applied] at h still
      obtain ⟨rfl, one⟩ := Prod.mk.inj h
      obtain rfl := Option.some.inj one
      have resolves := resolveSame still.toUntouched (fun g => by rw [still.places]) combat.targetId
      exact attackBooked (combatHurts applied) resolves rfl rfl rfl rfl
  | spell spell =>
    rw [body] at h
    dsimp only at h
    cases applied : field.applySpell spell with
    | mk hit result =>
    cases result with
    | error e => simp [applied] at h
    | ok done =>
      have still := spellStill field spell
      rw [applied] at h still
      have residents (g : Int) : (positions hit g).isSome = (positions field g).isSome := by
        rw [still.places]
      obtain ⟨hurts, present⟩ := spellHurts applied
      rw [← foundSame still.toUntouched residents] at present
      obtain ⟨caster, found⟩ := Option.isSome_iff_exists.mp present
      dsimp only at h
      cases cost : spellMpCost spell.power with
      | none => simp [cost] at h
      | some mpCost =>
        rw [cost] at h
        obtain ⟨rfl, one⟩ := Prod.mk.inj h
        obtain rfl := Option.some.inj one
        have costs : (fun g => ((castOf field g (.spell spell)).map Prod.snd).toList) =
            fun g => if field.resolvePlayerId spell.casterId = g then [mpCost] else [] := by
          funext g
          unfold castOf
          by_cases own : field.resolvePlayerId spell.casterId = g <;> simp [own, cost]
        rw [costs]
        exact spellBooked hurts (resolveSame still.toUntouched residents) found rfl rfl rfl rfl rfl rfl
          rfl
  | chat chat =>
    rw [body] at h
    obtain ⟨rfl, none⟩ := Prod.mk.inj h
    obtain rfl := Option.some.inj none
    exact bookedNothing rfl rfl

omit [FloatOps F] in
theorem damageAppend (field : Field F) (g : Int) (first later : List (CombatResolution F)) :
    damageTo field g (first ++ later) = damageTo field g first + damageTo field g later := by
  simp [damageTo]

omit [FloatOps F] in
theorem damageNpcAppend (field : Field F) (n : Int) (first later : List (CombatResolution F)) :
    damageToNpc field n (first ++ later) = damageToNpc field n first + damageToNpc field n later := by
  simp [damageToNpc]

omit [FloatOps F] in
theorem spentAppend (field : Field F) (g : Int) (first later : List (CombatResolution F)) :
    spentBy field g (first ++ later) = spentBy field g first + spentBy field g later := by
  simp [spentBy]

structure SameNames (before after : Field F) : Prop where
  resolves : ∀ id, after.resolvePlayerId id = before.resolvePlayerId id
  found : ∀ id, (after.findPlayer id).isNone = (before.findPlayer id).isNone

omit [FloatOps F] in
theorem bookedThen {a b c : Field F} {casts others : Int → List Int}
    {first later : List (CombatResolution F)} (one : Booked a casts first b)
    (names : SameNames a b) (two : Booked b others later c) :
    Booked a (fun g => casts g ++ others g) (first ++ later) c := by
  have damage (g : Int) : damageTo b g later = damageTo a g later := by
    unfold damageTo
    simp only [names.resolves]
  have damageNpc (n : Int) : damageToNpc b n later = damageToNpc a n later := by
    unfold damageToNpc
    simp only [names.found]
  have spent (g : Int) : spentBy b g later = spentBy a g later := by
    unfold spentBy
    simp only [names.resolves]
  refine ⟨fun g s here => ?_, fun n s here => ?_, fun g => ?_⟩
  · obtain ⟨u, there, lost, mana⟩ := one.players g s here
    obtain ⟨v, last, rest, left⟩ := two.players g u there
    refine ⟨v, last, ?_, ?_⟩
    · rw [damageAppend, ← lost, ← damage, ← rest]
      omega
    · rw [left, mana]
      unfold pay
      rw [List.foldl_append]
  · obtain ⟨u, there, lost⟩ := one.npcs n s here
    obtain ⟨v, last, rest⟩ := two.npcs n u there
    refine ⟨v, last, ?_⟩
    rw [damageNpcAppend, ← lost, ← damageNpc, ← rest]
    omega
  · rw [spentAppend, one.spent, ← spent, two.spent, List.sum_append]

theorem inputNames (field : Field F) (worldTick : UInt64) (input : WorldInput F) :
    SameNames field (field.applyInput worldTick input).1 := by
  have untouched := inputUntouched field worldTick input
  have residents := inputResidents field worldTick input
  refine ⟨resolveSame untouched residents, fun id => ?_⟩
  have same := foundSame untouched residents id
  rw [← Option.not_isSome, ← Option.not_isSome, same]

theorem castsCons (field : Field F) (g : Int) (input : WorldInput F) (inputs : List (WorldInput F)) :
    castsOf field g (input :: inputs) =
      (castOf field g input.body).toList ++ castsOf field g inputs := by
  unfold castsOf
  rw [List.filterMap_cons]
  cases castOf field g input.body <;> rfl

theorem castsSame {before after : Field F} (names : SameNames before after) (g : Int)
    (inputs : List (WorldInput F)) : castsOf after g inputs = castsOf before g inputs := by
  have one (body : WorldInputBody F) : castOf after g body = castOf before g body := by
    cases body <;> simp only [castOf, names.resolves]
  unfold castsOf
  simp only [one]

theorem inputsBooked {worldTick : UInt64} {field after : Field F} {inputs : List (WorldInput F)}
    {resolutions : List (CombatResolution F)}
    (h : Field.applyInputs worldTick field inputs = (after, some resolutions))
    (plain : ∀ input ∈ inputs, ∀ action, input.body ≠ .action action) :
    Booked field (fun g => (castsOf field g inputs).map Prod.snd) resolutions after := by
  induction inputs generalizing field resolutions with
  | nil =>
    obtain ⟨rfl, none⟩ := Prod.mk.inj h
    obtain rfl := Option.some.inj none
    exact bookedNothing rfl rfl
  | cons input inputs ih =>
    obtain ⟨middle, made, rest, first, later, rfl⟩ := applyConsSome h
    obtain ⟨here, others⟩ := List.forall_mem_cons.mp plain
    have names := inputNames field worldTick input
    rw [first] at names
    have both := bookedThen (inputBooked first here) names (ih later others)
    have costs : (fun g => (castsOf field g (input :: inputs)).map Prod.snd) =
        fun g => ((castOf field g input.body).map Prod.snd).toList ++
          (castsOf middle g inputs).map Prod.snd := by
      funext g
      rw [castsCons, castsSame names, List.map_append]
      cases castOf field g input.body <;> rfl
    rw [costs]
    exact both

theorem costPositive {power : F} {cost : Int} (h : spellMpCost power = some cost) : 1 ≤ cost := by
  unfold spellMpCost at h
  split at h <;> try contradiction
  split at h <;> try contradiction
  obtain rfl := Option.some.inj h
  omega

theorem gainCost (mp : Int) {cost : Int} (positive : 1 ≤ cost) : gain mp (-cost) = max (mp - cost) 0 := by
  unfold gain
  rw [if_neg (by omega), if_pos (by omega)]
  dsimp only
  split <;> omega

theorem paySome {costs : List Int} (positive : ∀ cost ∈ costs, 1 ≤ cost) {mp : Int} (some : 0 ≤ mp) :
    pay mp costs = max (mp - costs.sum) 0 := by
  induction costs generalizing mp with
  | nil =>
    simp only [pay, List.foldl_nil, List.sum_nil]
    omega
  | cons cost costs ih =>
    obtain ⟨here, others⟩ := List.forall_mem_cons.mp positive
    have rest : 0 ≤ costs.sum := List.sum_nonneg (fun c there => by linarith [others c there])
    have later := ih others (le_max_right (mp - cost) 0)
    have first : pay mp (cost :: costs) = pay (max (mp - cost) 0) costs := by
      unfold pay
      rw [List.foldl_cons, gainCost mp here]
    rw [first, later, List.sum_cons]
    omega

theorem payAny {costs : List Int} (positive : ∀ cost ∈ costs, 1 ≤ cost) (some : costs ≠ []) (mp : Int) :
    pay mp costs = max (mp - costs.sum) 0 := by
  obtain ⟨cost, rest, rfl⟩ := List.exists_cons_of_ne_nil some
  obtain ⟨here, others⟩ := List.forall_mem_cons.mp positive
  have sum : 0 ≤ rest.sum := List.sum_nonneg (fun c there => by linarith [others c there])
  have later := paySome others (le_max_right (mp - cost) 0)
  have first : pay mp (cost :: rest) = pay (max (mp - cost) 0) rest := by
    unfold pay
    rw [List.foldl_cons, gainCost mp here]
  rw [first, later, List.sum_cons]
  omega

theorem payExact {costs : List Int} (positive : ∀ cost ∈ costs, 1 ≤ cost) (some : costs ≠ []) (mp : Int) :
    mp - pay mp costs = costs.sum ↔ costs.sum ≤ mp := by
  rw [payAny positive some]
  omega

structure Funded (field : Field F) (worldTick : UInt64) (projection next : Projection F)
    (spell : SpellIntent F) (cost : Int) (caster : Player F) : Prop where
  costs : spellMpCost spell.power = some cost
  found : field.findPlayer spell.casterId = some caster
  rested : cooling projection.spellTick worldTick spell.casterId = false
  enough : cost ≤ projection.mp.getD spell.casterId caster.status.mp
  mana : ∃ left, next.mp = projection.mp.insert spell.casterId left
  ticks : ∃ until', worldTick < until' ∧ next.spellTick = projection.spellTick.insert spell.casterId until'

theorem spellFunded {field : Field F} {worldTick : UInt64} {projection next : Projection F}
    {spell : SpellIntent F} (h : field.validateInput worldTick projection (.spell spell) = some next) :
    ∃ cost caster, Funded field worldTick projection next spell cost caster := by
  cases Field.passed h with
  | spell costs ends rested found enough =>
    exact ⟨_, _, costs, found, rested, enough, ⟨_, rfl⟩, _, tickLater (by decide) ends, rfl⟩

theorem othersPlain {field : Field F} {worldTick : UInt64} {projection next : Projection F}
    {body : WorldInputBody F} (h : field.validateInput worldTick projection body = some next)
    (other : ∀ spell, body ≠ .spell spell) :
    next.mp = projection.mp ∧ next.spellTick = projection.spellTick := by
  cases Field.passed h with
  | movement present found moved => exact ⟨rfl, rfl⟩
  | action valid => exact ⟨rfl, rfl⟩
  | combat ends rested => exact ⟨rfl, rfl⟩
  | spell costs ends rested found enough => exact absurd rfl (other _)
  | chat chat => exact ⟨rfl, rfl⟩

def SetAside (worldTick : UInt64) (projection : Projection F) : Prop :=
  ∀ id mp, lookup projection.mp id = some mp → cooling projection.spellTick worldTick id = true

section
variable {field : Field F} {worldTick : UInt64} {projection next : Projection F} {spell : SpellIntent F}
  {cost : Int} {caster : Player F}

theorem fundedKeeps (funded : Funded field worldTick projection next spell cost caster) {id : Int}
    (rests : cooling projection.spellTick worldTick id = true) :
    cooling next.spellTick worldTick id = true := by
  obtain ⟨until', later, ticks⟩ := funded.ticks
  rw [ticks]
  exact coolingInsert later id rests

theorem fundedTires (funded : Funded field worldTick projection next spell cost caster) :
    cooling next.spellTick worldTick spell.casterId = true := by
  obtain ⟨until', later, ticks⟩ := funded.ticks
  rw [ticks]
  unfold cooling
  rw [Std.ExtTreeMap.getElem?_insert_self]
  exact decide_eq_true later

theorem fundedAside (aside : SetAside worldTick projection)
    (funded : Funded field worldTick projection next spell cost caster) : SetAside worldTick next := by
  obtain ⟨left, mana⟩ := funded.mana
  intro id mp there
  rw [mana] at there
  obtain ⟨rfl, -⟩ | old := insertedFound there
  · exact fundedTires funded
  · exact fundedKeeps funded (aside id mp old)

theorem fundedEnough (aside : SetAside worldTick projection)
    (funded : Funded field worldTick projection next spell cost caster) : cost ≤ caster.status.mp := by
  have full : projection.mp.getD spell.casterId caster.status.mp = caster.status.mp := by
    rw [Std.ExtTreeMap.getD_eq_getD_getElem?]
    cases there : projection.mp[spell.casterId]? with
    | none => rfl
    | some mp =>
      have rests := aside spell.casterId mp there
      rw [funded.rested] at rests
      contradiction
  rw [← full]
  exact funded.enough

theorem othersAside (aside : SetAside worldTick projection) {body : WorldInputBody F}
    (h : field.validateInput worldTick projection body = some next) (other : ∀ spell, body ≠ .spell spell) :
    SetAside worldTick next := by
  obtain ⟨mana, ticks⟩ := othersPlain h other
  unfold SetAside
  rw [mana, ticks]
  exact aside

theorem othersCast {body : WorldInputBody F} (other : ∀ spell, body ≠ .spell spell) (g : Int) :
    castOf field g body = none := by
  cases body with
  | spell spell => exact absurd rfl (other spell)
  | _ => rfl

end

theorem castsFunded {field : Field F} {worldTick : UInt64} {projection final : Projection F}
    {inputs : List (WorldInput F)} (aside : SetAside worldTick projection)
    (h : field.validateInputs worldTick projection inputs = some final) (g : Int) :
    ((castsOf field g inputs).map Prod.fst).Nodup ∧
    ∀ cast ∈ castsOf field g inputs, cooling projection.spellTick worldTick cast.1 = false ∧
      1 ≤ cast.2 ∧ ∃ caster, lookup field.playerList g = some caster ∧ cast.2 ≤ caster.status.mp := by
  induction inputs generalizing projection with
  | nil => exact ⟨List.nodup_nil, fun cast there => absurd there List.not_mem_nil⟩
  | cons input inputs ih =>
    unfold Field.validateInputs at h
    rw [List.foldlM_cons] at h
    obtain ⟨next, passes, rest⟩ := Option.bind_eq_some_iff.mp h
    rw [castsCons]
    by_cases spells : ∃ spell, input.body = .spell spell
    · obtain ⟨spell, body⟩ := spells
      rw [body] at passes ⊢
      obtain ⟨cost, caster, funded⟩ := spellFunded passes
      obtain ⟨distinct, others⟩ := ih (fundedAside aside funded) rest
      -- who casts later has rested until then
      have tail (cast : Int × Int) (there : cast ∈ castsOf field g inputs) :
          cooling projection.spellTick worldTick cast.1 = false ∧ _ :=
        ⟨Bool.eq_false_iff.mpr fun rests => absurd (fundedKeeps funded rests)
          (Bool.eq_false_iff.mp (others cast there).1), (others cast there).2⟩
      unfold castOf
      dsimp only
      by_cases own : field.resolvePlayerId spell.casterId = g
      · rw [if_pos own, funded.costs]
        have found : lookup field.playerList g = some caster := by
          rw [← own]
          exact funded.found
        refine ⟨List.nodup_cons.mpr ⟨fun again => ?_, distinct⟩, List.forall_mem_cons.mpr
          ⟨⟨funded.rested, costPositive funded.costs, caster, found, fundedEnough aside funded⟩, tail⟩⟩
        obtain ⟨cast, there, same⟩ := List.mem_map.mp again
        have fresh := (others cast there).1
        rw [same, fundedTires funded] at fresh
        contradiction
      · rw [if_neg own]
        exact ⟨distinct, tail⟩
    · have other (spell : SpellIntent F) : input.body ≠ .spell spell := fun body => spells ⟨spell, body⟩
      have later := ih (othersAside aside passes other) rest
      rw [(othersPlain passes other).2] at later
      rw [othersCast other]
      exact later

structure Accounted (before : Field F) (inputs : List (WorldInput F)) (after : Field F)
    (resolutions : List (CombatResolution F)) : Prop where
  players : ∀ g s, statuses before g = some s → ∃ u, statuses after g = some u ∧
    s.hp - u.hp = damageTo before g resolutions ∧ s.mp - u.mp = spentBy before g resolutions
  npcs : ∀ n s, npcStatuses before n = some s → ∃ u, npcStatuses after n = some u ∧
    s.hp - u.hp = damageToNpc before n resolutions
  affordable : ∀ g s, statuses before g = some s → castsOf before g inputs ≠ [] →
    ((castsOf before g inputs).map Prod.snd).sum ≤ s.mp

def NamedTwice (field : Field F) (g : Int) (inputs : List (WorldInput F)) : Prop :=
  ∃ one ∈ castsOf field g inputs, ∃ other ∈ castsOf field g inputs, one.1 ≠ other.1

theorem onlyCast {field : Field F} {g : Int} {inputs : List (WorldInput F)}
    (distinct : ((castsOf field g inputs).map Prod.fst).Nodup) (casts : castsOf field g inputs ≠ [])
    (once : ¬ NamedTwice field g inputs) : ∃ cast, castsOf field g inputs = [cast] := by
  match made : castsOf field g inputs with
  | [] => exact absurd made casts
  | [cast] => exact ⟨cast, rfl⟩
  | one :: other :: rest =>
    rw [made] at distinct
    refine absurd ⟨one, by simp [made], other, by simp [made], ?_⟩ once
    simp only [List.map_cons, List.nodup_cons, List.mem_cons, not_or] at distinct
    exact distinct.1.1

theorem accountedExact {field after : Field F} {frame : WorldFrameInputs F}
    {resolutions : List (CombatResolution F)}
    (h : field.processInputs frame.inputs frame.worldTick = (after, some resolutions))
    (plain : ∀ input ∈ frame.inputs, ∀ action, input.body ≠ .action action) :
    Accounted field frame.inputs after resolutions ↔
      ∀ g s, statuses field g = some s → NamedTwice field g frame.inputs →
        ((castsOf field g frame.inputs).map Prod.snd).sum ≤ s.mp := by
  obtain ⟨projection, applied, validated, done, rfl⟩ := Field.processedInputs h
  have booked := inputsBooked done plain
  have empty : SetAside frame.worldTick
      ({ attackTick := field.nextAttackTick, spellTick := field.nextSpellTick } : Projection F) :=
    fun id mp there => nomatch (show (none : Option Int) = some mp from
      (Std.ExtTreeMap.getElem?_empty).symm.trans there)
  have funded := castsFunded empty validated
  have positive (g : Int) (cost : Int) (there : cost ∈ (castsOf field g frame.inputs).map Prod.snd) :
      1 ≤ cost := by
    obtain ⟨cast, listed, rfl⟩ := List.mem_map.mp there
    exact ((funded g).2 cast listed).2.1
  constructor
  · intro accounted g s here twice
    obtain ⟨one, there, -⟩ := twice
    exact accounted.affordable g s here (List.ne_nil_of_mem there)
  · intro enough
    have affordable (g : Int) (s : Status) (here : statuses field g = some s)
        (casts : castsOf field g frame.inputs ≠ []) :
        ((castsOf field g frame.inputs).map Prod.snd).sum ≤ s.mp := by
      by_cases twice : NamedTwice field g frame.inputs
      · exact enough g s here twice
      · obtain ⟨cast, alone⟩ := onlyCast (funded g).1 casts twice
        obtain ⟨-, -, caster, found, within⟩ := (funded g).2 cast (by simp [alone])
        have status : some caster.status = some s :=
          (congrArg (Option.map Player.status) found).symm.trans here
        rw [alone, ← Option.some.inj status]
        simpa using within
    refine ⟨fun g s here => ?_, booked.npcs, affordable⟩
    obtain ⟨u, there, lost, left⟩ := booked.players g s here
    refine ⟨u, there, lost, ?_⟩
    rw [booked.spent, left]
    by_cases casts : castsOf field g frame.inputs = []
    · rw [casts]
      exact Int.sub_self _
    · refine (payExact (positive g) ?_ s.mp).mpr (affordable g s here casts)
      simpa using casts

end

def mage : Field ℚ :=
  ((do
    let field ← (Field.initial : Field ℚ).putPlayer
      { id := 2, status := ⟨10, 10⟩, position := ⟨2, 0, 0, 0⟩ }
    let field ← field.putNpc (.make 9 (ascii "slime") ⟨500, 0⟩ ⟨9, 0, 0, 0⟩)
    field.bindSession 3 2) : Option (Field ℚ)).getD Field.initial

def spells (power : ℚ) (ids : List Int) : WorldFrameInputs ℚ :=
  ⟨1, ((ids.foldlM (fun (queue : WorldInputQueue ℚ) id =>
    queue.enqueueSpell id 9 (ascii "fire") power []) {}).getD {}).takeFrame.2⟩

theorem halvesAccounted :
    NamedTwice mage 2 (spells 50 [3, 2]).inputs ∧
    ∃ resolutions, (mage.processInputs (spells 50 [3, 2]).inputs 1).2 = some resolutions ∧
      Accounted mage (spells 50 [3, 2]).inputs (mage.processInputs (spells 50 [3, 2]).inputs 1).1
        resolutions := by
  have casts : castsOf mage 2 (spells 50 [3, 2]).inputs = [(3, 5), (2, 5)] := by decide +kernel
  have success : (mage.processInputs (spells 50 [3, 2]).inputs 1).2.isSome = true := by decide +kernel
  obtain ⟨resolutions, made⟩ := Option.isSome_iff_exists.mp success
  have applied : mage.processInputs (spells 50 [3, 2]).inputs (spells 50 [3, 2]).worldTick =
      ((mage.processInputs (spells 50 [3, 2]).inputs 1).1, some resolutions) := Prod.ext rfl made
  have only : (spells 50 [3, 2]).inputs = [⟨1, .spell ⟨3, 9, ascii "fire", 50, []⟩⟩,
      ⟨2, .spell ⟨2, 9, ascii "fire", 50, []⟩⟩] := by decide +kernel
  refine ⟨⟨(3, 5), by simp [casts], (2, 5), by simp [casts], by decide⟩, resolutions, made,
    (accountedExact applied ?_).mpr ?_⟩
  · intro input there action
    rw [only] at there
    obtain rfl | rfl := List.mem_pair.mp there <;> exact nofun
  · intro g s here _
    have all : ∀ entry ∈ mage.playerList.toList,
        ((castsOf mage entry.1 (spells 50 [3, 2]).inputs).map Prod.snd).sum ≤ entry.2.status.mp := by
      decide +kernel
    obtain ⟨player, there, rfl⟩ := Option.map_eq_some_iff.mp here
    exact all (g, player) (Std.ExtTreeMap.mem_toList_iff_getElem?_eq_some.mpr there)

theorem spellsOverspend :
    (mage.processInputs (spells 100 [3, 2]).inputs 1).2.isSome = true ∧
    ∀ resolutions, (mage.processInputs (spells 100 [3, 2]).inputs 1).2 = some resolutions →
      ¬ Accounted mage (spells 100 [3, 2]).inputs (mage.processInputs (spells 100 [3, 2]).inputs 1).1
        resolutions := by
  refine ⟨by decide +kernel, fun resolutions made accounted => ?_⟩
  have there : statuses mage 2 = some ⟨10, 10⟩ := by decide +kernel
  have costs : castsOf mage 2 (spells 100 [3, 2]).inputs = [(3, 10), (2, 10)] := by decide +kernel
  have enough := accounted.affordable 2 _ there (by rw [costs]; exact List.cons_ne_nil _ _)
  rw [costs] at enough
  exact absurd enough (by decide)

end SeedOrigin.CombatAccounting
