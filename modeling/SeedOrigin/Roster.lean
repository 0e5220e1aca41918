import SeedOrigin.FieldCalls
import SeedOrigin.Runs

/-! The calls that fill the tables of ids of the field: its characters, its NPCs and
the sessions bound to characters. One id space serves all three, and a target is
looked for among the characters first. -/
namespace SeedOrigin.Roster
open SeedOrigin.Octets SeedOrigin.Numbers SeedOrigin.Character SeedOrigin.Inputs SeedOrigin.Maps
open SeedOrigin.ClientInput SeedOrigin.Presence SeedOrigin.Runs

section
variable {F : Type}

inductive RosterCall (F : Type) where
  | putPlayer (player : Player F)
  | putNpc (npc : Npc F)
  | bindSession (sessionId gameplayId : Int)
  | unbindSession (sessionId : Int)
  | unsetPlayer (playerId : Int)
  | placeAfterLogin (port : PlayerIdPort) (settings : LoginFieldSpawnSettings F) (sessionId : Int)
      (claimedId : Bytes)
  | removeAfterLogout (sessionId : Int)

def callRoster (presence : FieldSessionPresence F) : RosterCall F → FieldSessionPresence F
  | .putPlayer player =>
    { presence with field := (presence.field.putPlayer player).getD presence.field }
  | .putNpc npc => { presence with field := (presence.field.putNpc npc).getD presence.field }
  | .bindSession sessionId gameplayId =>
    { presence with field := (presence.field.bindSession sessionId gameplayId).getD presence.field }
  | .unbindSession sessionId => { presence with field := (presence.field.unbindSession sessionId).1 }
  | .unsetPlayer playerId => { presence with field := (presence.field.unsetPlayer playerId).1 }
  | .placeAfterLogin port settings sessionId claimedId =>
    (placeAfterLogin port settings presence sessionId claimedId).1
  | .removeAfterLogout sessionId => removeAfterLogout presence sessionId

structure Unshadowed (field : Field F) (n : Int) (npc : Npc F) : Prop where
  gameplay : field.playerList.contains n = false
  session : field.sessionToPlayerId.contains n = false
  found : field.findPlayer n = none
  hit : ∀ damage, field.applyDamageToTarget n damage = (npc.applyDamage damage).map (fun npc =>
    { field with npcList := field.npcList.insert n npc })

def AllUnshadowed (field : Field F) : Prop :=
  ∀ n npc, lookup field.npcList n = some npc → Unshadowed field n npc

def Places (port : PlayerIdPort) (settings : LoginFieldSpawnSettings F) (presence : FieldSessionPresence F)
    (sessionId : Int) (claimedId : Bytes) : Prop :=
  0 < sessionId ∧ ∃ auth, port sessionId claimedId = some auth ∧ 0 < auth ∧
    ((presence.field.findPlayerByAuthId auth).isSome ∨ ∃ g, 0 < g ∧ Creates settings presence auth g)

def SessionFree (presence : FieldSessionPresence F) : RosterCall F → Prop
  | .bindSession sessionId gameplayId =>
    0 < sessionId ∧ 0 < gameplayId ∧ presence.field.playerList.contains gameplayId = true →
      presence.field.findNpc sessionId = none
  | .placeAfterLogin port settings sessionId claimedId =>
    Places port settings presence sessionId claimedId → presence.field.findNpc sessionId = none
  | _ => True

structure Apart (field : Field F) : Prop where
  players : ∀ g player, lookup field.playerList g = some player → player.id = g ∧ 0 < g ∧
    lookup field.npcList g = none
  sessions : ∀ s g, lookup field.sessionToPlayerId s = some g → 0 < g ∧ lookup field.npcList s = none
  npcs : ∀ n npc, lookup field.npcList n = some npc → 0 < n

theorem containsFound {V : Type} (entries : IntMap V) (k : Int) :
    entries.contains k = (lookup entries k).isSome :=
  Std.ExtTreeMap.contains_eq_isSome_getElem?

theorem apartUnshadowed {field : Field F} (apart : Apart field) : AllUnshadowed field := by
  intro n npc there
  have gameplay : lookup field.playerList n = none := by
    cases found : lookup field.playerList n with
    | none => rfl
    | some player => exact nomatch there.symm.trans (apart.players n player found).2.2
  have session : lookup field.sessionToPlayerId n = none := by
    cases found : lookup field.sessionToPlayerId n with
    | none => rfl
    | some g => exact nomatch there.symm.trans (apart.sessions n g found).2
  have notPlayer : field.playerList.contains n = false := by rw [containsFound, gameplay]; rfl
  have notSession : field.sessionToPlayerId.contains n = false := by rw [containsFound, session]; rfl
  have resolved : field.resolvePlayerId n = 0 := by
    have positive := apart.npcs n npc there
    unfold Field.resolvePlayerId
    rw [if_neg (by omega), notPlayer, if_neg (by simp), Std.ExtTreeMap.getD_eq_getD_getElem?]
    exact congrArg (Option.getD · 0) session
  have nobody : field.findPlayer n = none := by
    unfold Field.findPlayer
    rw [resolved]
    cases found : lookup field.playerList 0 with
    | none => exact found
    | some player => exact absurd (apart.players 0 player found).2.1 (lt_irrefl 0)
  refine ⟨notPlayer, notSession, nobody, fun damage => ?_⟩
  have npcHere : field.findNpc n = some npc := there
  unfold Field.applyDamageToTarget
  rw [nobody, npcHere]

structure Fewer (before after : Field F) : Prop where
  npcs : after.npcList = before.npcList
  players : ∀ g player, lookup after.playerList g = some player → lookup before.playerList g = some player
  sessions : ∀ s g, lookup after.sessionToPlayerId s = some g → lookup before.sessionToPlayerId s = some g

theorem Fewer.trans {a b c : Field F} (first : Fewer a b) (second : Fewer b c) : Fewer a c :=
  ⟨second.npcs.trans first.npcs, fun g player there => first.players g player (second.players g player there),
    fun s g there => first.sessions s g (second.sessions s g there)⟩

theorem apartFewer {before after : Field F} (fewer : Fewer before after) (apart : Apart before) :
    Apart after := by
  refine ⟨fun g player there => ?_, fun s g there => ?_, ?_⟩
  · rw [fewer.npcs]
    exact apart.players g player (fewer.players g player there)
  · rw [fewer.npcs]
    exact apart.sessions s g (fewer.sessions s g there)
  · rw [fewer.npcs]
    exact apart.npcs

theorem unbindFewer (field : Field F) (sessionId : Int) : Fewer field (field.unbindSession sessionId).1 := by
  unfold Field.unbindSession
  split
  · exact ⟨rfl, fun _ _ there => there, fun _ _ there => there⟩
  · split
    · exact ⟨rfl, fun _ _ there => there, fun _ _ there => there⟩
    · exact ⟨rfl, fun _ _ there => there, fun _ _ there => erasedFound there⟩

theorem forgetFewer (field : Field F) (gameplayId : Int) :
    Fewer field (field.forgetBindingsForPlayer gameplayId) := by
  unfold Field.forgetBindingsForPlayer
  split
  · exact ⟨rfl, fun _ _ there => there, fun _ _ there => there⟩
  · exact ⟨rfl, fun _ _ there => there, fun _ _ there => erasedFound there⟩

theorem unsetFewer (field : Field F) (id : Int) : Fewer field (field.unsetPlayer id).1 := by
  unfold Field.unsetPlayer
  dsimp only
  split
  · exact ⟨rfl, fun _ _ there => there, fun _ _ there => there⟩
  · have forgotten := forgetFewer field (field.resolvePlayerId id)
    exact forgotten.trans ⟨rfl, fun _ _ there => erasedFound there, fun _ _ there => there⟩

theorem bindCases (field : Field F) (sessionId gameplayId : Int) :
    (field.bindSession sessionId gameplayId = none ∧
      ¬ (0 < sessionId ∧ 0 < gameplayId ∧ field.playerList.contains gameplayId = true)) ∨
    ∃ free bound, field.bindSession sessionId gameplayId = some bound ∧ Fewer field free ∧
      0 < sessionId ∧ 0 < gameplayId ∧ field.playerList.contains gameplayId = true ∧
      bound.npcList = free.npcList ∧ bound.playerList = free.playerList ∧
      bound.sessionToPlayerId = free.sessionToPlayerId.insert sessionId gameplayId := by
  unfold Field.bindSession
  by_cases positive : sessionId ≤ 0 ∨ gameplayId ≤ 0
  · rw [if_pos positive]
    exact .inl ⟨rfl, by omega⟩
  · rw [if_neg positive]
    cases resident : field.playerList.contains gameplayId with
    | false => exact .inl ⟨rfl, by simp⟩
    | true =>
      rw [if_neg (by simp)]
      have fewer := (unbindFewer field sessionId).trans (forgetFewer _ gameplayId)
      exact .inr ⟨_, _, rfl, fewer, by omega, by omega, rfl, rfl, rfl, rfl⟩

theorem apartBound {field bound : Field F} {sessionId gameplayId : Int} (apart : Apart field)
    (h : field.bindSession sessionId gameplayId = some bound)
    (free : field.findNpc sessionId = none) : Apart bound := by
  obtain ⟨refused, -⟩ | ⟨less, made, there, fewer, -, positive, -, npcs, players, sessions⟩ :=
    bindCases field sessionId gameplayId
  · exact nomatch h.symm.trans refused
  · cases h.symm.trans there
    have rest := apartFewer fewer apart
    refine ⟨?_, fun s g found => ?_, ?_⟩
    · rw [npcs, players]
      exact rest.players
    · rw [npcs]
      rw [sessions] at found
      obtain ⟨rfl, rfl⟩ | old := insertedFound found
      · rw [fewer.npcs]
        exact ⟨positive, free⟩
      · exact rest.sessions s g old
    · rw [npcs]
      exact rest.npcs

theorem boundThere {field bound : Field F} {sessionId gameplayId : Int}
    (h : field.bindSession sessionId gameplayId = some bound) :
    bound.npcList = field.npcList ∧ bound.sessionToPlayerId.contains sessionId = true := by
  obtain ⟨refused, -⟩ | ⟨less, made, there, fewer, -, -, -, npcs, -, sessions⟩ :=
    bindCases field sessionId gameplayId
  · exact nomatch h.symm.trans refused
  · cases h.symm.trans there
    refine ⟨npcs.trans fewer.npcs, ?_⟩
    rw [sessions]
    exact Std.ExtTreeMap.contains_insert_self

theorem apartPlayer {field : Field F} {player : Player F} (apart : Apart field) (positive : 0 < player.id)
    (free : field.findNpc player.id = none) (next : Int) :
    Apart { field with nextGameplayId := next, playerList := field.playerList.insert player.id player } := by
  refine ⟨fun g there found => ?_, apart.sessions, apart.npcs⟩
  obtain ⟨rfl, rfl⟩ | old := insertedFound found
  · exact ⟨rfl, positive, free⟩
  · exact apart.players g there old

theorem absentId {field : Field F} (apart : Apart field) {n : Int} (positive : 0 < n)
    (absent : field.hasPlayer n = false) :
    lookup field.playerList n = none ∧ lookup field.sessionToPlayerId n = none := by
  have resolved : ¬ 0 < field.resolvePlayerId n := by simpa [Field.hasPlayer] using absent
  unfold Field.resolvePlayerId at resolved
  rw [if_neg (by omega), containsFound] at resolved
  cases player : lookup field.playerList n with
  | some there => exact absurd positive (by simpa [player] using resolved)
  | none =>
    refine ⟨rfl, ?_⟩
    rw [player, if_neg (by simp), Std.ExtTreeMap.getD_eq_getD_getElem?] at resolved
    cases session : lookup field.sessionToPlayerId n with
    | none => rfl
    | some g =>
      have value : field.sessionToPlayerId[n]? = some g := session
      rw [value] at resolved
      exact absurd (apart.sessions n g session).1 resolved

theorem apartNpc {field after : Field F} {npc : Npc F} (apart : Apart field)
    (h : field.putNpc npc = some after) : Apart after := by
  obtain ⟨positive, absent, -, rfl⟩ := FieldCalls.npcPut h
  obtain ⟨noPlayer, noSession⟩ := absentId apart positive absent
  have npcs (n : Int) (other : n ≠ npc.id) :
      lookup (field.npcList.insert npc.id npc) n = lookup field.npcList n := by
    rw [lookupInsert, Function.update_of_ne other]
  refine ⟨fun g player found => ?_, fun s g found => ?_, fun n there found => ?_⟩
  · obtain ⟨id, more, free⟩ := apart.players g player found
    refine ⟨id, more, ?_⟩
    rw [npcs g ?_, free]
    rintro rfl
    exact nomatch found.symm.trans noPlayer
  · obtain ⟨more, free⟩ := apart.sessions s g found
    refine ⟨more, ?_⟩
    rw [npcs s ?_, free]
    rintro rfl
    exact nomatch found.symm.trans noSession
  · obtain ⟨rfl, -⟩ | old := insertedFound found
    · exact positive
    · exact apart.npcs n there old

theorem placeOutcome (port : PlayerIdPort) (settings : LoginFieldSpawnSettings F)
    (presence : FieldSessionPresence F) (sessionId : Int) (claimedId : Bytes) :
    (∃ next, (placeAfterLogin port settings presence sessionId claimedId).1 =
        { presence with field := { presence.field with nextGameplayId := next } }) ∨
    ∃ next players bound g names,
      (placeAfterLogin port settings presence sessionId claimedId).1 = ⟨bound, names⟩ ∧
      Places port settings presence sessionId claimedId ∧
      Field.bindSession { presence.field with nextGameplayId := next, playerList := players } sessionId g =
        some bound ∧
      (Apart presence.field →
        Apart { presence.field with nextGameplayId := next, playerList := players }) := by
  rcases placeAny port settings presence sessionId claimedId with
    ⟨idle, -⟩ | ⟨auth, account, positive, session, placed⟩
  · exact .inl ⟨presence.field.nextGameplayId, congrArg Prod.fst idle⟩
  · revert placed
    generalize placeAfterLogin port settings presence sessionId claimedId = outcome
    obtain ⟨after, answer⟩ := outcome
    intro placed
    cases placed with
    | refused next grows skipped blocked => exact .inl ⟨next, rfl⟩
    | rebound found bound =>
      refine .inr ⟨presence.field.nextGameplayId, presence.field.playerList, _, _, _, rfl,
        ⟨session, auth, account, positive, .inl ?_⟩, bound, fun apart => apart⟩
      rw [found]
      rfl
    | created creates more account' bound =>
      refine .inr ⟨_, _, _, _, _, rfl, ⟨session, auth, account, positive, .inr ⟨_, more, creates⟩⟩, bound,
        fun apart => apartPlayer apart more ?_ _⟩
      have whole := creates.free.2.2.1
      simp only [Field.taken, Bool.or_eq_false_iff] at whole
      simpa using whole.1.2

theorem accountResident {field : Field F} (apart : Apart field) {auth : Int} {player : Player F}
    (found : field.findPlayerByAuthId auth = some player) :
    0 < player.id ∧ field.playerList.contains player.id = true := by
  unfold Field.findPlayerByAuthId at found
  split at found <;> try contradiction
  obtain ⟨entry, listed, rfl⟩ := Option.map_eq_some_iff.mp found
  have there : lookup field.playerList entry.1 = some entry.2 :=
    Std.ExtTreeMap.mem_toList_iff_getElem?_eq_some.mp (List.mem_of_find?_eq_some listed)
  obtain ⟨id, positive, -⟩ := apart.players entry.1 entry.2 there
  rw [containsFound, id, there]
  exact ⟨positive, rfl⟩

theorem placesBinds {port : PlayerIdPort} {settings : LoginFieldSpawnSettings F}
    {presence : FieldSessionPresence F} {sessionId : Int} {claimedId : Bytes}
    (apart : Apart presence.field) (places : Places port settings presence sessionId claimedId) :
    ∃ middle bound g names, (placeAfterLogin port settings presence sessionId claimedId).1 = ⟨bound, names⟩ ∧
      Field.bindSession middle sessionId g = some bound ∧ middle.npcList = presence.field.npcList := by
  obtain ⟨session, auth, account, positive, way⟩ := places
  cases found : presence.field.findPlayerByAuthId auth with
  | some existing =>
    obtain ⟨more, resident⟩ := accountResident apart found
    obtain ⟨bound, made⟩ := bindResident session more resident
    refine ⟨presence.field, bound, existing.id, presence.operatorNamesByAuthId, ?_, made, rfl⟩
    unfold placeAfterLogin
    simp only [if_neg (not_le.mpr session), account, if_neg (not_le.mpr positive), found, made]
  | none =>
    obtain known | ⟨g, more, creates⟩ := way
    · rw [found] at known
      contradiction
    · have placed := placeCases port settings presence account positive session
      revert placed
      generalize placeAfterLogin port settings presence sessionId claimedId = outcome
      obtain ⟨after, answer⟩ := outcome
      intro placed
      cases placed with
      | refused next grows skipped blocked => exact absurd creates (blocked g more)
      | rebound other bound => exact ⟨_, _, _, _, rfl, bound, rfl⟩
      | created creates more account' bound => exact ⟨_, _, _, _, rfl, bound, rfl⟩

theorem callApart {presence : FieldSessionPresence F} {call : RosterCall F} (apart : Apart presence.field)
    (free : SessionFree presence call) : Apart (callRoster presence call).field := by
  cases call with
  | putPlayer player =>
    unfold callRoster Field.putPlayer
    dsimp only
    split
    · exact apart
    · rename_i allowed
      simp only [not_or, not_le, Bool.not_eq_true, Option.isSome_eq_false_iff,
        Option.isNone_iff_eq_none] at allowed
      exact apartPlayer apart allowed.1 allowed.2 presence.field.nextGameplayId
  | putNpc npc =>
    unfold callRoster
    dsimp only
    cases made : presence.field.putNpc npc with
    | none => exact apart
    | some after => exact apartNpc apart made
  | bindSession sessionId gameplayId =>
    unfold callRoster
    dsimp only
    obtain ⟨refused, -⟩ | ⟨less, bound, made, -, session, player, resident, -⟩ :=
      bindCases presence.field sessionId gameplayId
    · rw [refused]
      exact apart
    · rw [made]
      exact apartBound apart made (free ⟨session, player, resident⟩)
  | unbindSession sessionId => exact apartFewer (unbindFewer presence.field sessionId) apart
  | unsetPlayer playerId => exact apartFewer (unsetFewer presence.field playerId) apart
  | placeAfterLogin port settings sessionId claimedId =>
    unfold callRoster
    dsimp only
    obtain ⟨next, same⟩ | ⟨next, players, bound, g, names, same, places, made, keeps⟩ :=
      placeOutcome port settings presence sessionId claimedId
    · rw [same]
      exact ⟨apart.players, apart.sessions, apart.npcs⟩
    · rw [same]
      exact apartBound (keeps apart) made (free places)
  | removeAfterLogout sessionId =>
    unfold callRoster removeAfterLogout
    dsimp only
    split
    · exact apart
    · exact apartFewer (unbindFewer presence.field sessionId) apart

theorem boundShadows {middle bound : Field F} {sessionId g : Int} {npc : Npc F}
    (made : middle.bindSession sessionId g = some bound) (there : middle.findNpc sessionId = some npc) :
    ¬ AllUnshadowed bound := by
  intro unshadowed
  obtain ⟨npcs, held⟩ := boundThere made
  have found : lookup bound.npcList sessionId = some npc := by
    rw [npcs]
    exact there
  exact nomatch held.symm.trans (unshadowed sessionId npc found).session

theorem callShadows {presence : FieldSessionPresence F} {call : RosterCall F} (apart : Apart presence.field)
    (taken : ¬ SessionFree presence call) : ¬ AllUnshadowed (callRoster presence call).field := by
  cases call with
  | bindSession sessionId gameplayId =>
    obtain ⟨⟨session, player, resident⟩, occupied⟩ := Classical.not_imp.mp taken
    obtain ⟨npc, there⟩ := Option.ne_none_iff_exists'.mp occupied
    obtain ⟨bound, made⟩ := bindResident session player resident
    unfold callRoster
    dsimp only
    rw [made]
    exact boundShadows made there
  | placeAfterLogin port settings sessionId claimedId =>
    obtain ⟨places, occupied⟩ := Classical.not_imp.mp taken
    obtain ⟨npc, there⟩ := Option.ne_none_iff_exists'.mp occupied
    obtain ⟨middle, bound, g, names, same, made, npcs⟩ := placesBinds apart places
    unfold callRoster
    dsimp only
    rw [same]
    have hidden : middle.findNpc sessionId = some npc := by
      unfold Field.findNpc
      rw [npcs]
      exact there
    exact boundShadows made hidden
  | putPlayer player => exact absurd trivial taken
  | putNpc npc => exact absurd trivial taken
  | unbindSession sessionId => exact absurd trivial taken
  | unsetPlayer playerId => exact absurd trivial taken
  | removeAfterLogout sessionId => exact absurd trivial taken

variable [FloatOps F]

theorem initialApart : Apart (Field.initial : Field F) := by
  have empty {V : Type} {k : Int} {v : V} (there : lookup (∅ : IntMap V) k = some v) : False := by
    simp [lookup] at there
  exact ⟨fun _ _ there => (empty there).elim, fun _ _ there => (empty there).elim,
    fun _ _ there => (empty there).elim⟩

theorem unshadowedExact (calls : List (RosterCall F)) :
    Always callRoster (fun presence => AllUnshadowed presence.field) ⟨Field.initial, ∅⟩ calls ↔
      Along callRoster SessionFree ⟨Field.initial, ∅⟩ calls :=
  alwaysExact (I := fun presence : FieldSessionPresence F => Apart presence.field) (fun _ apart => apartUnshadowed apart)
    (fun _ _ apart free => callApart apart free) (fun _ _ apart taken => callShadows apart taken)
    initialApart

end

-- An NPC with id 1, and the first session of the server after it.
def intruder : List (RosterCall ℚ) :=
  [.putNpc (.make 1 (ascii "slime") ⟨5, 0⟩ ⟨1, 0, 0, 0⟩),
    .placeAfterLogin (fun _ _ => some 7) { x := 0, y := 0, z := 0, playerName := ascii "mira" } 1 []]

theorem firstSessionShadows :
    ¬ Always callRoster (fun presence => AllUnshadowed presence.field) ⟨(Field.initial : Field ℚ), ∅⟩
      intruder := by
  intro always
  have last := always intruder [] (by simp)
  have there : lookup (run callRoster ⟨(Field.initial : Field ℚ), ∅⟩ intruder).field.npcList 1 =
      some (.make 1 (ascii "slime") ⟨5, 0⟩ ⟨1, 0, 0, 0⟩) := by decide +kernel
  have held : (run callRoster ⟨(Field.initial : Field ℚ), ∅⟩ intruder).field.sessionToPlayerId.contains 1 =
      true := by decide +kernel
  exact nomatch held.symm.trans (last 1 _ there).session

end SeedOrigin.Roster
