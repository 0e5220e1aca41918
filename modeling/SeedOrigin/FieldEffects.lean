import SeedOrigin.FieldInputs

/-! What the inputs of a frame do to the characters: who stands where, which
character an id designates, and what a failed frame leaves behind. -/
namespace SeedOrigin.FieldEffects
open SeedOrigin.Octets SeedOrigin.Numbers SeedOrigin.Character SeedOrigin.ClientInput
open SeedOrigin.Ether SeedOrigin.Inputs SeedOrigin.UpdateBuilder SeedOrigin.Maps

section
variable {F : Type}

def positions (field : Field F) (g : Int) : Option (Position F) :=
  (lookup field.playerList g).map Player.position

structure Untouched (before after : Field F) : Prop where
  sessions : after.sessionToPlayerId = before.sessionToPlayerId
  players : after.playerToSessionId = before.playerToSessionId
  nextId : after.nextGameplayId = before.nextGameplayId
  queuedPositions : after.positionQueue = before.positionQueue
  queuedActions : after.actionQueue = before.actionQueue
  respawns : after.npcRespawns = before.npcRespawns

theorem Untouched.refl (field : Field F) : Untouched field field := ⟨rfl, rfl, rfl, rfl, rfl, rfl⟩

theorem Untouched.trans {a b c : Field F} (first : Untouched a b) (second : Untouched b c) :
    Untouched a c :=
  ⟨second.sessions.trans first.sessions, second.players.trans first.players,
    second.nextId.trans first.nextId, second.queuedPositions.trans first.queuedPositions,
    second.queuedActions.trans first.queuedActions, second.respawns.trans first.respawns⟩

structure Still (before after : Field F) : Prop extends Untouched before after where
  places : positions after = positions before

theorem Still.refl (field : Field F) : Still field field := { Untouched.refl field with places := rfl }

theorem Still.trans {a b c : Field F} (first : Still a b) (second : Still b c) : Still a c :=
  { first.toUntouched.trans second.toUntouched with places := second.places.trans first.places }

theorem stillOf {before after : Field F} (untouched : Untouched before after)
    (same : after.playerList = before.playerList) : Still before after := by
  refine { untouched with places := ?_ }
  unfold positions
  rw [same]

theorem containsPlaces (field : Field F) (g : Int) :
    field.playerList.contains g = (positions field g).isSome := by
  rw [← Std.ExtTreeMap.isSome_getElem?_eq_contains, positions, Option.isSome_map]
  rfl

theorem resolveSame {before after : Field F} (untouched : Untouched before after)
    (residents : ∀ g, (positions after g).isSome = (positions before g).isSome) (id : Int) :
    after.resolvePlayerId id = before.resolvePlayerId id := by
  unfold Field.resolvePlayerId
  rw [containsPlaces, containsPlaces, residents, untouched.sessions]

theorem updateUntouched (field : Field F) (id : Int) (change : Player F → Player F) :
    Untouched field (field.updatePlayer id change) := by
  unfold Field.updatePlayer
  split <;> exact ⟨rfl, rfl, rfl, rfl, rfl, rfl⟩

theorem updatePlaces {field : Field F} {id : Int} {player : Player F}
    (found : field.findPlayer id = some player) (change : Player F → Player F) :
    positions (field.updatePlayer id change) =
      Function.update (positions field) (field.resolvePlayerId id) (some (change player).position) := by
  unfold Field.updatePlayer
  rw [found]
  funext g
  simp only [positions, lookupInsert]
  by_cases here : g = field.resolvePlayerId id
  · simp [here]
  · simp [Function.update_of_ne here, positions]

theorem foundPlace {field : Field F} {id : Int} {player : Player F}
    (found : field.findPlayer id = some player) :
    positions field (field.resolvePlayerId id) = some player.position := by
  unfold positions
  rw [show lookup field.playerList (field.resolvePlayerId id) = some player from found]
  rfl

theorem updateStill (field : Field F) (id : Int) (change : Player F → Player F)
    (stands : ∀ player, (change player).position = player.position) :
    Still field (field.updatePlayer id change) := by
  refine { updateUntouched field id change with places := ?_ }
  cases found : field.findPlayer id with
  | none =>
    unfold Field.updatePlayer
    rw [found]
  | some player =>
    rw [updatePlaces found, stands]
    exact Function.update_eq_self_iff.mpr (foundPlace found).symm

theorem gainStill (field : Field F) (id : Int) (status : Status) :
    Still field (field.gainPlayer id status) := by
  unfold Field.gainPlayer
  cases there : field.playerList[id]? with
  | none => exact Still.refl field
  | some player =>
    refine ⟨⟨rfl, rfl, rfl, rfl, rfl, rfl⟩, ?_⟩
    funext g
    simp only [positions, lookupInsert]
    by_cases here : g = id
    · rw [here, Function.update_self, show lookup field.playerList id = some player from there]
      rfl
    · rw [Function.update_of_ne here]

theorem actionStill (field : Field F) (action : Action) : Still field (field.applyAction action) := by
  unfold Field.applyAction
  split
  · exact Still.refl field
  · split
    · exact stillOf ⟨rfl, rfl, rfl, rfl, rfl, rfl⟩ rfl
    · split
      · split
        · exact Still.refl field
        · exact gainStill ..
      · split
        · exact Still.refl field
        · exact gainStill ..

theorem damageStill {field after : Field F} {targetId damage : Int}
    (h : field.applyDamageToTarget targetId damage = some after) : Still field after := by
  unfold Field.applyDamageToTarget at h
  split at h
  · split at h
    · contradiction
    · obtain rfl := Option.some.inj h
      exact updateStill field targetId _ (fun _ => rfl)
  · split at h
    · contradiction
    · simp only [Option.map_eq_some_iff] at h
      obtain ⟨npc, -, rfl⟩ := h
      exact stillOf ⟨rfl, rfl, rfl, rfl, rfl, rfl⟩ rfl

variable [FloatOps F]

theorem combatStill (field : Field F) (intent : CombatIntent F) :
    Still field (field.applyCombat intent).1 := by
  unfold Field.applyCombat
  split
  · exact Still.refl field
  · split
    · exact Still.refl field
    · rename_i hit
      exact damageStill hit

theorem spellStill (field : Field F) (intent : SpellIntent F) :
    Still field (field.applySpell intent).1 := by
  have ether (changed : EnvironmentEther F) : Still field { field with fieldEther := changed } :=
    stillOf ⟨rfl, rfl, rfl, rfl, rfl, rfl⟩ rfl
  unfold Field.applySpell
  split
  · exact Still.refl field
  · split
    · exact ether _
    · dsimp only
      split
      · exact ether _
      · rename_i hit
        exact (ether _).trans (damageStill hit)

def Moves : WorldInputBody F → Prop
  | .movement _ => True
  | _ => False

theorem inputStill (field : Field F) (worldTick : UInt64) {input : WorldInput F}
    (stays : ¬ Moves input.body) : Still field (field.applyInput worldTick input).1 := by
  unfold Field.applyInput
  cases body : input.body with
  | movement movement => exact absurd (by rw [body]; trivial) stays
  | action action => exact actionStill field action
  | combat combat =>
    dsimp only
    have hit := combatStill field combat
    split
    · rename_i made
      rwa [made] at hit
    · rename_i made
      rw [made] at hit
      exact hit.trans (stillOf ⟨rfl, rfl, rfl, rfl, rfl, rfl⟩ rfl)
  | spell spell =>
    dsimp only
    have hit := spellStill field spell
    split
    · rename_i made
      rwa [made] at hit
    · rename_i made
      rw [made] at hit
      split
      · exact hit
      · refine (hit.trans (updateStill _ spell.casterId _ ?_)).trans (stillOf ⟨rfl, rfl, rfl, rfl, rfl, rfl⟩ rfl)
        intro caster
        rfl
  | chat chat => exact Still.refl field

theorem movedTo (player : Player F) {next : Position F} {dx dy dz : F}
    (h : integrateMovement player.position dx dy dz = some next) :
    (player.setPosition next).position = next := by
  unfold integrateMovement at h
  split at h
  · contradiction
  · dsimp only at h
    split at h
    · obtain rfl := Option.some.inj h
      rfl
    · contradiction

theorem inputUntouched (field : Field F) (worldTick : UInt64) (input : WorldInput F) :
    Untouched field (field.applyInput worldTick input).1 := by
  by_cases stays : Moves input.body
  · unfold Field.applyInput
    cases body : input.body <;> rw [body] at stays <;> try contradiction
    dsimp only
    split
    · exact Untouched.refl field
    · split
      · exact Untouched.refl field
      · exact updateUntouched ..
  · exact (inputStill field worldTick stays).toUntouched

def moveOf (field : Field F) (g : Int) (pos : Position F) : WorldInputBody F → Option (Position F)
  | .movement movement =>
    if field.resolvePlayerId movement.sessionId = g then
      integrateMovement pos movement.dx movement.dy movement.dz
    else some pos
  | _ => some pos

def walk (field : Field F) (g : Int) (pos : Position F) (inputs : List (WorldInput F)) :
    Option (Position F) :=
  inputs.foldlM (fun pos input => moveOf field g pos input.body) pos

theorem inputMoves {field after : Field F} {worldTick : UInt64} {input : WorldInput F}
    {made : List (CombatResolution F)} (h : field.applyInput worldTick input = (after, some made))
    {g : Int} {pos : Position F} (stands : positions field g = some pos) :
    ∃ next, moveOf field g pos input.body = some next ∧ positions after g = some next := by
  by_cases stays : Moves input.body
  · unfold Field.applyInput at h
    cases body : input.body with
    | movement movement =>
      rw [body] at h
      dsimp only at h
      cases found : field.findPlayer movement.sessionId with
      | none => simp [found] at h
      | some player =>
        rw [found] at h
        dsimp only at h
        cases reached : integrateMovement player.position movement.dx movement.dy movement.dz with
        | none => simp [reached] at h
        | some next =>
          rw [reached] at h
          obtain ⟨rfl, -⟩ := Prod.mk.inj h
          unfold moveOf
          dsimp only
          rw [updatePlaces found, movedTo player reached]
          by_cases here : field.resolvePlayerId movement.sessionId = g
          · have same : player.position = pos := by
              rw [← here, foundPlace found] at stands
              exact Option.some.inj stands
            rw [if_pos here, ← same, here, Function.update_self]
            exact ⟨next, reached, rfl⟩
          · rw [if_neg here, Function.update_of_ne (Ne.symm here)]
            exact ⟨pos, rfl, stands⟩
    | action action => rw [body] at stays; exact absurd stays not_false
    | combat combat => rw [body] at stays; exact absurd stays not_false
    | spell spell => rw [body] at stays; exact absurd stays not_false
    | chat chat => rw [body] at stays; exact absurd stays not_false
  · have still := inputStill field worldTick stays
    rw [h] at still
    refine ⟨pos, ?_, ?_⟩
    · unfold moveOf
      cases body : input.body <;> first | rfl | (rw [body] at stays; exact absurd trivial stays)
    · rw [still.places, stands]

theorem inputResidents (field : Field F) (worldTick : UInt64) (input : WorldInput F) (g : Int) :
    (positions (field.applyInput worldTick input).1 g).isSome = (positions field g).isSome := by
  by_cases stays : Moves input.body
  · unfold Field.applyInput
    cases body : input.body <;> rw [body] at stays <;> try contradiction
    rename_i movement
    dsimp only
    cases found : field.findPlayer movement.sessionId with
    | none => rfl
    | some player =>
      dsimp only
      split
      · rfl
      · rw [updatePlaces found]
        by_cases here : g = field.resolvePlayerId movement.sessionId
        · rw [here, Function.update_self, foundPlace found]
          rfl
        · rw [Function.update_of_ne here]
  · rw [(inputStill field worldTick stays).places]

theorem walkSame {before after : Field F} (resolves : ∀ id, after.resolvePlayerId id =
    before.resolvePlayerId id) (g : Int) (pos : Position F) (inputs : List (WorldInput F)) :
    walk after g pos inputs = walk before g pos inputs := by
  have moves : moveOf after g = moveOf before g := by
    funext pos body
    cases body <;> simp only [moveOf, resolves]
  unfold walk
  rw [moves]

def Fights : WorldInputBody F → Bool
  | .combat _ => true
  | .spell _ => true
  | _ => false

theorem inputAnswers {field after : Field F} {worldTick : UInt64} {input : WorldInput F}
    {made : List (CombatResolution F)} (h : field.applyInput worldTick input = (after, some made)) :
    made.map CombatResolution.inputSequence = if Fights input.body then [input.sequence] else [] := by
  unfold Field.applyInput at h
  cases body : input.body with
  | movement movement =>
    rw [body] at h
    dsimp only at h
    split at h
    · simp at h
    · split at h <;> simp at h
      simp [h.2.symm, Fights]
  | action action =>
    simp only [body, Prod.mk.injEq, Option.some.injEq] at h
    simp [h.2.symm, Fights]
  | combat combat =>
    rw [body] at h
    dsimp only at h
    split at h <;> simp at h
    simp [h.2.symm, Fights]
  | spell spell =>
    rw [body] at h
    dsimp only at h
    split at h
    · simp at h
    · split at h <;> simp at h
      simp [h.2.symm, Fights]
  | chat chat =>
    simp only [body, Prod.mk.injEq, Option.some.injEq] at h
    simp [h.2.symm, Fights]

theorem applyConsSome {worldTick : UInt64} {field after : Field F} {input : WorldInput F}
    {inputs : List (WorldInput F)} {resolutions : List (CombatResolution F)}
    (h : Field.applyInputs worldTick field (input :: inputs) = (after, some resolutions)) :
    ∃ middle made rest, field.applyInput worldTick input = (middle, some made) ∧
      Field.applyInputs worldTick middle inputs = (after, some rest) ∧ resolutions = made ++ rest := by
  unfold Field.applyInputs at h
  split at h
  · simp at h
  · rename_i middle made first
    split at h
    · simp at h
    · rename_i last rest later
      simp only [Prod.mk.injEq, Option.some.injEq] at h
      obtain ⟨rfl, rfl⟩ := h
      exact ⟨middle, made, rest, first, later, rfl⟩

theorem inputsWalk {worldTick : UInt64} {field after : Field F} {inputs : List (WorldInput F)}
    {resolutions : List (CombatResolution F)}
    (h : Field.applyInputs worldTick field inputs = (after, some resolutions)) {g : Int}
    {pos : Position F} (stands : positions field g = some pos) :
    ∃ final, walk field g pos inputs = some final ∧ positions after g = some final := by
  induction inputs generalizing field pos resolutions with
  | nil =>
    obtain ⟨rfl, -⟩ := Prod.mk.inj h
    exact ⟨pos, rfl, stands⟩
  | cons input inputs ih =>
    obtain ⟨middle, made, rest, first, later, -⟩ := applyConsSome h
    obtain ⟨next, moved, there⟩ := inputMoves first stands
    obtain ⟨final, walked, ends⟩ := ih later there
    have untouched := inputUntouched field worldTick input
    have residents := inputResidents field worldTick input
    rw [first] at untouched residents
    rw [walkSame (resolveSame untouched residents)] at walked
    refine ⟨final, ?_, ends⟩
    unfold walk at walked ⊢
    rw [List.foldlM_cons, moved]
    exact walked

theorem inputsAnswer {worldTick : UInt64} {field after : Field F} {inputs : List (WorldInput F)}
    {resolutions : List (CombatResolution F)}
    (h : Field.applyInputs worldTick field inputs = (after, some resolutions)) :
    resolutions.map CombatResolution.inputSequence =
      (inputs.filter (fun input => Fights input.body)).map WorldInput.sequence := by
  induction inputs generalizing field resolutions with
  | nil =>
    obtain ⟨-, made⟩ := Prod.mk.inj h
    rw [← Option.some.inj made]
    rfl
  | cons input inputs ih =>
    obtain ⟨middle, made, rest, first, later, rfl⟩ := applyConsSome h
    rw [List.map_append, inputAnswers first, ih later]
    cases fights : Fights input.body <;> simp [fights]

theorem inputsRelate {R : Field F → Field F → Prop} (refl : ∀ field, R field field)
    (trans : ∀ {a b c}, R a b → R b c → R a c) (worldTick : UInt64)
    (each : ∀ field input, R field (Field.applyInput field worldTick input).1) (field : Field F)
    (inputs : List (WorldInput F)) : R field (Field.applyInputs worldTick field inputs).1 := by
  induction inputs generalizing field with
  | nil => exact refl field
  | cons input inputs ih =>
    have first := each field input
    unfold Field.applyInputs
    split
    · rename_i failed made
      rwa [made] at first
    · rename_i middle made done
      rw [done] at first
      have later := trans first (ih middle)
      split <;> rename_i made <;> rwa [made] at later

theorem inputsUntouched (worldTick : UInt64) (field : Field F) (inputs : List (WorldInput F)) :
    Untouched field (Field.applyInputs worldTick field inputs).1 :=
  inputsRelate Untouched.refl Untouched.trans worldTick (fun field input => inputUntouched field worldTick input)
    field inputs

theorem inputsResidents (worldTick : UInt64) (field : Field F) (inputs : List (WorldInput F)) (g : Int) :
    (positions (Field.applyInputs worldTick field inputs).1 g).isSome = (positions field g).isSome :=
  inputsRelate (R := fun before after => (positions after g).isSome = (positions before g).isSome)
    (fun _ => rfl) (fun first second => second.trans first) worldTick
    (fun field input => inputResidents field worldTick input g) field inputs

omit [FloatOps F] in
theorem foundSame {before after : Field F} (untouched : Untouched before after)
    (residents : ∀ g, (positions after g).isSome = (positions before g).isSome) (id : Int) :
    (after.findPlayer id).isSome = (before.findPlayer id).isSome := by
  have place (field : Field F) : (field.findPlayer id).isSome =
      (positions field (field.resolvePlayerId id)).isSome := by
    unfold positions Field.findPlayer
    rw [Option.isSome_map]
    rfl
  rw [place, place, resolveSame untouched residents, residents]

theorem inputsMovers {worldTick : UInt64} {field after : Field F} {inputs : List (WorldInput F)}
    {resolutions : List (CombatResolution F)}
    (h : Field.applyInputs worldTick field inputs = (after, some resolutions)) {input : WorldInput F}
    {movement : MovementIntent F} (there : input ∈ inputs) (body : input.body = .movement movement) :
    (after.findPlayer movement.sessionId).isSome = true := by
  induction inputs generalizing field resolutions with
  | nil => contradiction
  | cons first inputs ih =>
    obtain ⟨middle, made, rest, applied, later, -⟩ := applyConsSome h
    rcases List.mem_cons.mp there with rfl | there
    · have untouched := inputsUntouched worldTick field (input :: inputs)
      have residents := inputsResidents worldTick field (input :: inputs)
      rw [h] at untouched residents
      rw [foundSame untouched residents]
      unfold Field.applyInput at applied
      rw [body] at applied
      dsimp only at applied
      cases found : field.findPlayer movement.sessionId with
      | none => simp [found] at applied
      | some player => rfl
    · exact ih later there

theorem processedUntouched (field : Field F) (inputs : List (WorldInput F)) (worldTick : UInt64) :
    Untouched field (field.processInputs inputs worldTick).1 ∧
      ∀ g, (positions (field.processInputs inputs worldTick).1 g).isSome = (positions field g).isSome := by
  have untouched := inputsUntouched worldTick field inputs
  have residents := inputsResidents worldTick field inputs
  unfold Field.processInputs
  split
  · exact ⟨Untouched.refl field, fun _ => rfl⟩
  · split
    · rename_i made
      rw [made] at untouched
      exact ⟨⟨untouched.sessions, untouched.players, untouched.nextId, untouched.queuedPositions,
        untouched.queuedActions, untouched.respawns⟩, fun _ => rfl⟩
    · rename_i made
      rw [made] at untouched residents
      exact ⟨⟨untouched.sessions, untouched.players, untouched.nextId, untouched.queuedPositions,
        untouched.queuedActions, untouched.respawns⟩, residents⟩

theorem refusedUnchanged {field after : Field F} {inputs : List (WorldInput F)} {worldTick : UInt64}
    (h : field.processInputs inputs worldTick = (after, none)) :
    after = { field with fieldStatus := after.fieldStatus } := by
  unfold Field.processInputs at h
  split at h
  · obtain ⟨rfl, -⟩ := Prod.mk.inj h
    rfl
  · split at h
    · rename_i failed made
      have untouched := inputsUntouched worldTick field inputs
      rw [made] at untouched
      obtain ⟨rfl, -⟩ := Prod.mk.inj h
      unfold Field.rollBack
      rw [untouched.sessions, untouched.players, untouched.nextId,
        untouched.queuedPositions, untouched.queuedActions, untouched.respawns]
    · simp at h

theorem acceptedField {field after : Field F} {inputs : List (WorldInput F)} {worldTick : UInt64}
    {resolutions : List (CombatResolution F)}
    (h : field.processInputs inputs worldTick = (after, some resolutions)) :
    (∃ applied, Field.applyInputs worldTick field inputs = (applied, some resolutions) ∧
      positions after = positions applied ∧ after.fieldEther = decay applied.fieldEther) ∧
    after.lastEtherHazard = adverseEffectSeverity after.fieldEther := by
  obtain ⟨projection, applied, -, done, rfl⟩ := Field.processedInputs h
  exact ⟨⟨applied, done, rfl, rfl⟩, rfl⟩

end

end SeedOrigin.FieldEffects
