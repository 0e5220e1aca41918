import SeedOrigin.Cooldowns
import SeedOrigin.Roster

/-! Cooldowns over runs of frames, logins, logouts and binds. A cooldown is kept
under the id that an input names, so it binds the character only while its inputs
go on naming it so. -/
namespace SeedOrigin.CooldownRuns
open SeedOrigin.Octets SeedOrigin.Numbers SeedOrigin.Character SeedOrigin.ClientInput
open SeedOrigin.Inputs SeedOrigin.UpdateBuilder SeedOrigin.Maps SeedOrigin.Presence
open SeedOrigin.FieldEffects SeedOrigin.Cooldowns SeedOrigin.Roster SeedOrigin.Runs

inductive Art where
  | attack | spell
  deriving DecidableEq, Repr

def Art.cooldown : Art → UInt64
  | .attack => attackCooldownTicks
  | .spell => spellCooldownTicks

structure Fight where
  art : Art
  character : Int
  named : Int
  tick : UInt64
  deriving DecidableEq, Repr

section
variable {F : Type}

def Art.ticks (field : Field F) : Art → IntMap UInt64
  | .attack => field.nextAttackTick
  | .spell => field.nextSpellTick

def fighter : WorldInputBody F → Option (Art × Int)
  | .combat combat => some (.attack, combat.attackerId)
  | .spell spell => some (.spell, spell.casterId)
  | _ => none

def fightOf (field : Field F) (worldTick : UInt64) (input : WorldInput F) : Option Fight :=
  (fighter input.body).map (fun one => ⟨one.1, field.resolvePlayerId one.2, one.2, worldTick⟩)

def fightsOf (field : Field F) (worldTick : UInt64) (inputs : List (WorldInput F)) : List Fight :=
  inputs.filterMap (fightOf field worldTick)

structure Arena (F : Type) where
  presence : FieldSessionPresence F
  fights : List Fight := []

inductive ArenaEvent (F : Type) where
  | roster (call : RosterCall F)
  | frame (inputs : List (WorldInput F)) (worldTick : UInt64)

def Arena.residents (arena : Arena F) : List Fight :=
  arena.fights.filter (fun fight => arena.presence.field.playerList.contains fight.character)

def Spaced (fights : List Fight) : Prop :=
  fights.Pairwise (fun first second => first.art = second.art → first.character = second.character →
    first.tick.toNat + first.art.cooldown.toNat ≤ second.tick.toNat)

def Careful (arena : Arena F) : ArenaEvent F → Prop
  | .roster (.unsetPlayer playerId) => ∀ fight ∈ arena.fights,
    fight.named = arena.presence.field.resolvePlayerId playerId →
      fight.character = arena.presence.field.resolvePlayerId playerId
  | .roster _ => True
  | .frame inputs worldTick =>
    (∀ first ∈ arena.fights, ∀ second ∈ fightsOf arena.presence.field worldTick inputs,
      first.art = second.art → first.character = second.character →
        first.named = second.named ∨ first.tick.toNat + first.art.cooldown.toNat ≤ worldTick.toNat) ∧
    ∀ first ∈ fightsOf arena.presence.field worldTick inputs,
      ∀ second ∈ fightsOf arena.presence.field worldTick inputs,
        first.art = second.art → first.character = second.character → first.named = second.named

theorem fighterRests (attacks spells : IntMap UInt64) (worldTick : UInt64) {one other : WorldInputBody F}
    (same : fighter one = fighter other) :
    resting attacks spells worldTick one = resting attacks spells worldTick other := by
  cases one <;> cases other <;> simp_all [fighter, resting]

variable [FloatOps F]

def watch (arena : Arena F) : ArenaEvent F → Arena F
  | .roster call =>
    let called : Arena F := { arena with presence := callRoster arena.presence call }
    { called with fights := called.residents }
  | .frame inputs worldTick =>
    let (field, made) := arena.presence.field.processInputs inputs worldTick
    let fought := if made.isSome then fightsOf arena.presence.field worldTick inputs else []
    { presence := { arena.presence with field := field }, fights := arena.fights ++ fought }

omit [FloatOps F] in
theorem fighterFights {body : WorldInputBody F} {one : Art × Int} (h : fighter body = some one) :
    Fights body = true := by
  cases body <;> simp_all [fighter, Fights]

omit [FloatOps F] in
theorem restingFighter (attacks spells : IntMap UInt64) (worldTick : UInt64) {body : WorldInputBody F}
    {art : Art} {n : Int} (h : fighter body = some (art, n)) :
    resting attacks spells worldTick body =
      cooling (match art with | .attack => attacks | .spell => spells) worldTick n := by
  cases body <;> simp only [fighter, Option.some.injEq, Prod.mk.injEq, reduceCtorEq] at h <;>
    (obtain ⟨rfl, rfl⟩ := h; rfl)

omit [FloatOps F] in
theorem timedFighter {worldTick : UInt64} {body : WorldInputBody F} {art : Art} {n : Int}
    (h : fighter body = some (art, n)) (timed : Timed worldTick body) :
    ∃ until', tickAfter worldTick art.cooldown = some until' := by
  cases body <;> simp only [fighter, Option.some.injEq, Prod.mk.injEq, reduceCtorEq] at h <;>
    (obtain ⟨rfl, rfl⟩ := h; exact timed)

theorem namesDistinct {field : Field F} {worldTick : UInt64} {projection final : Projection F}
    {inputs : List (WorldInput F)} (h : field.validateInputs worldTick projection inputs = some final) :
    (inputs.filterMap (fun input => fighter input.body)).Nodup := by
  induction inputs generalizing projection with
  | nil => exact List.nodup_nil
  | cons input inputs ih =>
    unfold Field.validateInputs at h
    rw [List.foldlM_cons] at h
    obtain ⟨next, passes, rest⟩ := Option.bind_eq_some_iff.mp h
    rw [List.filterMap_cons]
    cases fights : fighter input.body with
    | none => exact ih rest
    | some one =>
      refine List.nodup_cons.mpr ⟨fun again => ?_, ih rest⟩
      obtain ⟨other, there, same⟩ := List.mem_filterMap.mp again
      have tired := passTires passes (fighterFights fights)
      have rested := (inputsRested rest other there).1
      rw [fighterRests next.attackTick next.spellTick worldTick (same.trans fights.symm)] at rested
      rw [tired] at rested
      contradiction

theorem inputTicks {field after : Field F} {worldTick : UInt64} {input : WorldInput F}
    {made : List (CombatResolution F)} (h : field.applyInput worldTick input = (after, some made))
    (art : Art) (n : Int) : lookup (art.ticks after) n =
      if fighter input.body = some (art, n) then some ((tickAfter worldTick art.cooldown).getD 0)
      else lookup (art.ticks field) n := by
  have books : Books worldTick field input.body after true := by
    have all := inputBooks field worldTick input
    rw [h] at all
    exact all
  have one {ticks : IntMap UInt64} {id : Int} {v : UInt64} {changed : IntMap UInt64}
      (same : changed = ticks ∨ changed = ticks.insert id v) (there : lookup changed id = some v) :
      lookup changed n = if id = n then some v else lookup ticks n := by
    split
    · rename_i here
      rw [← here, there]
    · rename_i other
      obtain same | same := same <;> rw [same]
      rw [lookupInsert, Function.update_of_ne (Ne.symm other)]
  cases body : input.body with
  | combat combat =>
    have attacked := books.attack rfl combat body
    cases art with
    | attack =>
      have changed : after.nextAttackTick = field.nextAttackTick ∨ after.nextAttackTick =
          field.nextAttackTick.insert combat.attackerId ((tickAfter worldTick attackCooldownTicks).getD 0) := by
        obtain same | ⟨other, body', changed⟩ := books.attacks
        · exact .inl same
        · cases body.symm.trans body'
          exact .inr changed
      simpa [fighter, Art.ticks, Art.cooldown] using one changed attacked
    | spell =>
      obtain same | ⟨spell, body', -⟩ := books.spells
      · simp [fighter, Art.ticks, same]
      · cases body.symm.trans body'
  | spell spell =>
    have cast := books.spell rfl spell body
    cases art with
    | spell =>
      have changed : after.nextSpellTick = field.nextSpellTick ∨ after.nextSpellTick =
          field.nextSpellTick.insert spell.casterId ((tickAfter worldTick spellCooldownTicks).getD 0) := by
        obtain same | ⟨other, body', changed⟩ := books.spells
        · exact .inl same
        · cases body.symm.trans body'
          exact .inr changed
      simpa [fighter, Art.ticks, Art.cooldown] using one changed cast
    | attack =>
      obtain same | ⟨combat, body', -⟩ := books.attacks
      · simp [fighter, Art.ticks, same]
      · cases body.symm.trans body'
  | _ =>
    have attacks : after.nextAttackTick = field.nextAttackTick := by
      obtain same | ⟨combat, body', -⟩ := books.attacks
      · exact same
      · cases body.symm.trans body'
    have spells : after.nextSpellTick = field.nextSpellTick := by
      obtain same | ⟨spell, body', -⟩ := books.spells
      · exact same
      · cases body.symm.trans body'
    cases art <;> simp [fighter, Art.ticks, attacks, spells]

theorem inputsTicks {worldTick : UInt64} {field after : Field F} {inputs : List (WorldInput F)}
    {resolutions : List (CombatResolution F)}
    (h : Field.applyInputs worldTick field inputs = (after, some resolutions)) (art : Art) (n : Int) :
    lookup (art.ticks after) n =
      if (art, n) ∈ inputs.filterMap (fun input => fighter input.body) then
        some ((tickAfter worldTick art.cooldown).getD 0)
      else lookup (art.ticks field) n := by
  induction inputs generalizing field resolutions with
  | nil =>
    obtain ⟨rfl, -⟩ := Prod.mk.inj h
    simp
  | cons input inputs ih =>
    obtain ⟨middle, made, rest, first, later, -⟩ := applyConsSome h
    rw [ih later, inputTicks first art n]
    by_cases later' : (art, n) ∈ inputs.filterMap (fun input => fighter input.body)
    · rw [if_pos later', if_pos]
      rw [List.filterMap_cons]
      cases fighter input.body with
      | none => exact later'
      | some one => exact List.mem_cons_of_mem _ later'
    · rw [if_neg later']
      congr 1
      rw [List.filterMap_cons]
      cases fighter input.body with
      | none => simp [later']
      | some one => simp [later', eq_comm]

def Held (field : Field F) (fights : List Fight) : Prop :=
  ∀ fight ∈ fights, ∃ until', lookup (fight.art.ticks field) fight.named = some until' ∧
    fight.tick.toNat + fight.art.cooldown.toNat ≤ until'.toNat

omit [FloatOps F] in
theorem fightsNames (field : Field F) (worldTick : UInt64) (inputs : List (WorldInput F)) :
    fightsOf field worldTick inputs = (inputs.filterMap (fun input => fighter input.body)).map
      (fun one => ⟨one.1, field.resolvePlayerId one.2, one.2, worldTick⟩) := by
  unfold fightsOf
  rw [List.map_filterMap]
  rfl

theorem fightChecked {field : Field F} {worldTick : UInt64} {inputs : List (WorldInput F)}
    {final : Projection F} (h : field.validateInputs worldTick
      { attackTick := field.nextAttackTick, spellTick := field.nextSpellTick } inputs = some final)
    {art : Art} {n : Int} (there : (art, n) ∈ inputs.filterMap (fun input => fighter input.body)) :
    (∀ until', lookup (art.ticks field) n = some until' → until'.toNat ≤ worldTick.toNat) ∧
      ((tickAfter worldTick art.cooldown).getD 0).toNat = worldTick.toNat + art.cooldown.toNat := by
  obtain ⟨input, listed, named⟩ := List.mem_filterMap.mp there
  obtain ⟨rested, timed⟩ := inputsRested h input listed
  rw [restingFighter _ _ worldTick named] at rested
  have awake : cooling (art.ticks field) worldTick n = false := by
    cases art <;> exact rested
  refine ⟨fun until' held => ?_, ?_⟩
  · have entry : (art.ticks field)[n]? = some until' := held
    unfold cooling at awake
    rw [entry] at awake
    exact UInt64.le_iff_toNat_le.mp (UInt64.not_lt.mp (of_decide_eq_false awake))
  · obtain ⟨next, ends⟩ := timedFighter named timed
    rw [ends]
    exact tickSum ends

theorem frameSpaced {field after : Field F} {inputs : List (WorldInput F)} {worldTick : UInt64}
    {resolutions : List (CombatResolution F)} {presence : FieldSessionPresence F} {fights : List Fight}
    (h : field.processInputs inputs worldTick = (after, some resolutions)) (here : presence.field = field)
    (held : Held field fights) (spaced : Spaced fights)
    (careful : Careful ⟨presence, fights⟩ (.frame inputs worldTick)) :
    Held after (fights ++ fightsOf field worldTick inputs) ∧
      Spaced (fights ++ fightsOf field worldTick inputs) := by
  subst here
  obtain ⟨across, within⟩ := careful
  obtain ⟨projection, applied, validated, done, rfl⟩ := Field.processedInputs h
  have ticks (art : Art) (n : Int) := inputsTicks done art n
  have new (fight : Fight) (there : fight ∈ fightsOf presence.field worldTick inputs) :
      (fight.art, fight.named) ∈ inputs.filterMap (fun input => fighter input.body) ∧
        fight.tick = worldTick := by
    rw [fightsNames] at there
    obtain ⟨one, listed, rfl⟩ := List.mem_map.mp there
    exact ⟨listed, rfl⟩
  refine ⟨fun fight there => ?_, List.pairwise_append.mpr ⟨spaced, ?_, fun first old second there => ?_⟩⟩
  · have entry : lookup (fight.art.ticks { applied with
        fieldEther := Ether.decay applied.fieldEther
        lastEtherHazard := Ether.adverseEffectSeverity (Ether.decay applied.fieldEther) })
        fight.named = lookup (fight.art.ticks applied) fight.named := by
      cases fight.art <;> rfl
    rw [entry, ticks]
    rcases List.mem_append.mp there with old | fresh
    · obtain ⟨until', kept, past⟩ := held fight old
      split
      · rename_i again
        obtain ⟨rested, ends⟩ := fightChecked validated again
        have short := rested until' kept
        exact ⟨_, rfl, by omega⟩
      · exact ⟨until', kept, past⟩
    · obtain ⟨listed, now⟩ := new fight fresh
      rw [if_pos listed]
      obtain ⟨-, ends⟩ := fightChecked validated listed
      exact ⟨_, rfl, by rw [now]; omega⟩
  · have distinct := namesDistinct validated
    rw [fightsNames] at within ⊢
    refine List.pairwise_map.mpr (distinct.imp_of_mem (fun {first second} left right apart => ?_))
    intro art character
    have named := within _ (List.mem_map_of_mem left) _ (List.mem_map_of_mem right) art character
    exact absurd (Prod.ext art named) apart
  · intro art character
    obtain ⟨listed, now⟩ := new second there
    rw [now]
    obtain named | later := across first old second there art character
    · obtain ⟨until', kept, past⟩ := held first old
      rw [← art, ← named] at listed
      have short := (fightChecked validated listed).1 until' kept
      omega
    · exact later

omit [FloatOps F] in
theorem callTicks (presence : FieldSessionPresence F) (call : RosterCall F) (art : Art) (n : Int) :
    lookup (art.ticks (callRoster presence call).field) n = lookup (art.ticks presence.field) n ∨
      ∃ playerId, call = .unsetPlayer playerId ∧ n = presence.field.resolvePlayerId playerId ∧
        (callRoster presence call).field.playerList.contains n = false := by
  cases call with
  | putPlayer player =>
    refine .inl ?_
    unfold callRoster Field.putPlayer
    dsimp only
    split <;> cases art <;> rfl
  | putNpc npc =>
    refine .inl ?_
    unfold callRoster Field.putNpc
    dsimp only
    split <;> cases art <;> rfl
  | bindSession sessionId gameplayId =>
    refine .inl ?_
    unfold callRoster
    dsimp only
    cases bound : presence.field.bindSession sessionId gameplayId with
    | none => rfl
    | some after =>
      obtain ⟨sessions, players, rfl⟩ := FieldState.bindShape bound
      cases art <;> rfl
  | unbindSession sessionId =>
    obtain ⟨sessions, players, shape⟩ := FieldState.unbindShape presence.field sessionId
    unfold callRoster
    dsimp only
    rw [shape]
    exact .inl (by cases art <;> rfl)
  | unsetPlayer playerId =>
    unfold callRoster Field.unsetPlayer
    dsimp only
    split
    · exact .inl rfl
    · obtain ⟨sessions, players, shape⟩ :=
        FieldState.forgetShape presence.field (presence.field.resolvePlayerId playerId)
      rw [shape]
      by_cases gone : n = presence.field.resolvePlayerId playerId
      · refine .inr ⟨playerId, rfl, gone, ?_⟩
        rw [containsFound, gone, lookupErase, Function.update_self]
        rfl
      · refine .inl ?_
        cases art <;> exact (congrFun (lookupErase _ _) n).trans (Function.update_of_ne gone _ _)
  | placeAfterLogin port settings sessionId claimedId =>
    unfold callRoster
    dsimp only
    obtain ⟨next, same⟩ | ⟨next, residents, bound, g, names, same, -, made, -⟩ :=
      placeOutcome port settings presence sessionId claimedId
    · rw [same]
      exact .inl (by cases art <;> rfl)
    · obtain ⟨sessions, players, rfl⟩ := FieldState.bindShape made
      rw [same]
      exact .inl (by cases art <;> rfl)
  | removeAfterLogout sessionId =>
    obtain ⟨sessions, players, shape⟩ := FieldState.unbindShape presence.field sessionId
    unfold callRoster removeAfterLogout
    dsimp only
    split
    · exact .inl rfl
    · rw [shape]
      exact .inl (by cases art <;> rfl)

omit [FloatOps F] in
theorem callHeld {presence : FieldSessionPresence F} {call : RosterCall F} {fights : List Fight}
    (held : Held presence.field fights) (careful : Careful ⟨presence, fights⟩ (.roster call)) :
    Held (callRoster presence call).field
      (fights.filter (fun fight => (callRoster presence call).field.playerList.contains fight.character)) := by
  intro fight there
  obtain ⟨old, resident⟩ := List.mem_filter.mp there
  obtain ⟨until', kept, past⟩ := held fight old
  obtain same | ⟨playerId, rfl, named, gone⟩ := callTicks presence call fight.art fight.named
  · exact ⟨until', by rw [same, kept], past⟩
  · -- Whoever was named by the id that leaves has left as well.
    have own : fight.character = fight.named := (careful fight old named).trans named.symm
    rw [own, gone] at resident
    contradiction

structure Rested (arena : Arena F) : Prop where
  held : Held arena.presence.field arena.fights
  spaced : Spaced arena.fights

theorem watchRested {arena : Arena F} {event : ArenaEvent F} (rested : Rested arena)
    (careful : Careful arena event) : Rested (watch arena event) := by
  cases event with
  | roster call => exact ⟨callHeld rested.held careful, rested.spaced.filter _⟩
  | frame inputs worldTick =>
    unfold watch
    dsimp only
    cases made : arena.presence.field.processInputs inputs worldTick with
    | mk after resolutions =>
      cases resolutions with
      | none =>
        rw [refusedUnchanged made]
        refine ⟨?_, by simpa using rested.spaced⟩
        intro fight there
        obtain ⟨until', kept, past⟩ := rested.held fight (by simpa using there)
        refine ⟨until', ?_, past⟩
        rw [← kept]
        cases fight.art <;> rfl
      | some resolutions =>
        obtain ⟨held, spaced⟩ := frameSpaced made rfl rested.held rested.spaced careful
        exact ⟨held, spaced⟩

theorem cooldownsBind (presence : FieldSessionPresence F) {events : List (ArenaEvent F)}
    (careful : Along watch Careful { presence := presence } events) :
    Always watch (fun arena => Spaced arena.fights) { presence := presence } events :=
  alwaysOf (I := Rested) (fun _ rested => rested.spaced) (fun _ _ rested => watchRested rested)
    ⟨fun fight there => absurd there List.not_mem_nil, by exact List.Pairwise.nil⟩ careful

instance (arena : Arena F) (event : ArenaEvent F) : Decidable (Careful arena event) :=
  match event with
  | .frame _ _ => inferInstanceAs (Decidable (_ ∧ _))
  | .roster (.unsetPlayer _) => inferInstanceAs (Decidable (∀ _ ∈ arena.fights, _))
  | .roster (.putPlayer _) => isTrue trivial
  | .roster (.putNpc _) => isTrue trivial
  | .roster (.bindSession _ _) => isTrue trivial
  | .roster (.unbindSession _) => isTrue trivial
  | .roster (.placeAfterLogin _ _ _ _) => isTrue trivial
  | .roster (.removeAfterLogout _) => isTrue trivial

end

def arrival (sessionId : Int) : ArenaEvent ℚ :=
  .roster (.placeAfterLogin (fun _ _ => some 7) { x := 0, y := 0, z := 0, playerName := ascii "mira" }
    sessionId [])

def cast (casterId : Int) (worldTick : UInt64) : ArenaEvent ℚ :=
  .frame [⟨1, .spell ⟨casterId, 9, ascii "fire", 10, []⟩⟩] worldTick

def opening : Arena ℚ :=
  run watch { presence := ⟨Field.initial, ∅⟩ }
    [arrival 1, .roster (.putNpc (.make 9 (ascii "slime") ⟨500, 0⟩ ⟨9, 0, 0, 0⟩))]

theorem cooldownsBindPatient :
    (run watch opening [cast 1 1, cast 1 2, cast 1 3]).fights = [⟨.spell, 1, 1, 1⟩, ⟨.spell, 1, 1, 3⟩] ∧
    Always watch (fun arena => Spaced arena.fights) { presence := opening.presence }
      [cast 1 1, cast 1 2, cast 1 3] := by
  refine ⟨by decide +kernel, cooldownsBind opening.presence ?_⟩
  refine (alongCons _).mpr ⟨by decide +kernel, (alongCons _).mpr ⟨by decide +kernel,
    (alongCons _).mpr ⟨by decide +kernel, alongNil _ _ _⟩⟩⟩

-- The session is replaced between two spells of one character, one tick apart.
theorem rebindSkipsCooldown :
    (run watch opening [cast 1 1, arrival 2, cast 2 2]).fights = [⟨.spell, 1, 1, 1⟩, ⟨.spell, 1, 2, 2⟩] ∧
    ¬ Always watch (fun arena => Spaced arena.fights) opening [cast 1 1, arrival 2, cast 2 2] := by
  have fights : (run watch opening [cast 1 1, arrival 2, cast 2 2]).fights =
      [⟨.spell, 1, 1, 1⟩, ⟨.spell, 1, 2, 2⟩] := by decide +kernel
  refine ⟨fights, fun always => ?_⟩
  have last := always [cast 1 1, arrival 2, cast 2 2] [] (List.append_nil _).symm
  dsimp only at last
  rw [fights] at last
  exact absurd last (by unfold Spaced; decide +kernel)

end SeedOrigin.CooldownRuns
