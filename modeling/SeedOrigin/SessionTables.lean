import SeedOrigin.LinkedTables
import SeedOrigin.Presence

/-! What a login and a logout do to the three places that know a session: the
binding of its connection, the registry and the field. -/
namespace SeedOrigin.SessionTables
open SeedOrigin.Octets SeedOrigin.ClientInput SeedOrigin.Sessions SeedOrigin.Maps
open SeedOrigin.FieldState SeedOrigin.Presence SeedOrigin.LinkedTables

section
variable {F : Type}

structure Seated (field : Field F) : Prop where
  paired : field.Paired
  resident : ∀ s g, lookup field.sessionToPlayerId s = some g → field.playerList.contains g = true

structure Tables (lifecycle : SessionLifecycle) (registry : SessionRegistry) (field : Field F) : Prop where
  linked : Linked (lookup lifecycle.bindings) (fun s => registry.isActive s = true)
    (lookup field.sessionToPlayerId)
  seated : Seated field
  first : 1 ≤ registry.nextInternalId
  issued : ∀ s, registry.isActive s = true → 1 ≤ s ∧ s < registry.nextInternalId

variable {lifecycle lifecycle' : SessionLifecycle} {registry registry' : SessionRegistry}
  {field field' : Field F}

theorem logoutActive (registry : SessionRegistry) (s r : Int) :
    (registry.logout s).1.isActive r = true ↔ r ≠ s ∧ registry.isActive r = true := by
  simp only [SessionRegistry.logout, SessionRegistry.isActive, Std.ExtTreeSet.contains_erase,
    Bool.and_eq_true, bne_iff_ne, ne_eq, Std.LawfulEqCmp.compare_eq_iff_eq]
  exact and_congr_left' (not_congr eq_comm)

theorem insertedActive (registry : SessionRegistry) (next : Int) (r : Int) :
    (SessionRegistry.isActive ⟨next, registry.activeSessions.insert registry.nextInternalId⟩ r = true) ↔
      r = registry.nextInternalId ∨ registry.isActive r = true := by
  simp only [SessionRegistry.isActive, Std.ExtTreeSet.contains_insert, Bool.or_eq_true,
    beq_iff_eq, Std.LawfulEqCmp.compare_eq_iff_eq]
  exact or_congr_left eq_comm

theorem bindOne {c : Nat} {info : SessionInfo} (bound : lifecycle.bind c info = .ok lifecycle') :
    lookup lifecycle.bindings c = none ∧
      lookup lifecycle'.bindings = Function.update (lookup lifecycle.bindings) c (some info.internalId) := by
  unfold SessionLifecycle.bind at bound
  split at bound <;> try contradiction
  split at bound <;> try contradiction
  rename_i free
  obtain rfl := Except.ok.inj bound
  refine ⟨?_, lookupInsert _ _ _⟩
  unfold SessionLifecycle.hasSession at free
  rw [← Std.ExtTreeMap.isSome_getElem?_eq_contains] at free
  exact Option.not_isSome_iff_eq_none.mp free

theorem tablesSame (tables : Tables lifecycle registry field)
    (held : lookup lifecycle'.bindings = lookup lifecycle.bindings)
    (still : ∀ s, registry'.isActive s = true ↔ registry.isActive s = true)
    (later : registry.nextInternalId ≤ registry'.nextInternalId)
    (sessions : field'.sessionToPlayerId = field.sessionToPlayerId)
    (players : field'.playerToSessionId = field.playerToSessionId)
    (stay : ∀ g, field.playerList.contains g = true → field'.playerList.contains g = true) :
    Tables lifecycle' registry' field' := by
  refine ⟨?_, ⟨?_, fun s g sits => ?_⟩, le_trans tables.first later, fun s is => ?_⟩
  · exact linkedSame tables.linked held still (by rw [sessions])
  · have paired := tables.seated.paired
    unfold Field.Paired at paired ⊢
    rwa [sessions, players]
  · rw [sessions] at sits
    exact stay g (tables.seated.resident s g sits)
  · obtain ⟨low, high⟩ := tables.issued s ((still s).mp is)
    exact ⟨low, lt_of_lt_of_le high later⟩

theorem seatedBound {s g : Int} (seated : Seated field) (vacant : lookup field.playerToSessionId g = none)
    (made : field.bindSession s g = some field') : Seated field' ∧
      lookup field'.sessionToPlayerId = Function.update (lookup field.sessionToPlayerId) s (some g) := by
  obtain ⟨-, -, there, paired, sessions⟩ := bindLookup seated.paired made
  obtain ⟨toPlayer, toSession, shape⟩ := bindShape made
  have seats : lookup field'.sessionToPlayerId =
      Function.update (lookup field.sessionToPlayerId) s (some g) := by
    funext r
    rw [sessions r]
    by_cases here : r = s
    · rw [if_pos here, here, Function.update_self]
    · rw [if_neg here, Function.update_of_ne here, if_neg]
      intro sits
      rw [(seated.paired r g).mp sits] at vacant
      contradiction
  refine ⟨⟨paired, fun r h sits => ?_⟩, seats⟩
  have same : field'.playerList = field.playerList := by rw [shape]
  rw [same]
  rw [seats] at sits
  by_cases here : r = s
  · rw [here, Function.update_self] at sits
    obtain rfl := Option.some.inj sits
    exact there
  · rw [Function.update_of_ne here] at sits
    exact seated.resident r h sits

theorem seatedUnbound {s : Int} (seated : Seated field) (pos : 0 < s) :
    Seated (field.unbindSession s).1 ∧ lookup (field.unbindSession s).1.sessionToPlayerId =
      Function.update (lookup field.sessionToPlayerId) s none := by
  obtain ⟨paired, sessions⟩ := unbindLookup seated.paired pos
  obtain ⟨toPlayer, toSession, shape⟩ := unbindShape field s
  refine ⟨⟨paired, fun r g sits => ?_⟩, sessions⟩
  have same : (field.unbindSession s).1.playerList = field.playerList := by rw [shape]
  rw [same]
  rw [sessions] at sits
  by_cases here : r = s
  · rw [here, Function.update_self] at sits
    contradiction
  · rw [Function.update_of_ne here] at sits
    exact seated.resident r g sits

theorem tablesLeave (tables : Tables lifecycle registry field) {c : Nat} {s : Int}
    (there : lookup lifecycle.bindings c = some s)
    (next : registry'.nextInternalId = registry.nextInternalId)
    (now : ∀ r, registry'.isActive r = true ↔ r ≠ s ∧ registry.isActive r = true) :
    Tables ⟨lifecycle.bindings.erase c⟩ registry' (field.unbindSession s).1 := by
  have low := (tables.issued s ((tables.linked.held s).mpr ⟨c, there⟩)).1
  have pos : 0 < s := by omega
  obtain ⟨seated, seats⟩ := seatedUnbound tables.seated pos
  refine ⟨linkedLeave tables.linked there (lookupErase _ _) now seats, seated, ?_, ?_⟩
  · rw [next]
    exact tables.first
  · intro r is
    rw [next]
    exact tables.issued r ((now r).mp is).2

inductive Placing (before : FieldSessionPresence F) (s : Int) : FieldSessionPresence F × Bool → Prop where
  | failed {after : FieldSessionPresence F}
      (sessions : after.field.sessionToPlayerId = before.field.sessionToPlayerId)
      (players : after.field.playerToSessionId = before.field.playerToSessionId)
      (list : after.field.playerList = before.field.playerList) : Placing before s (after, false)
  | placed {after : FieldSessionPresence F} {g : Int} (seated : Seated after.field)
      (seats : lookup after.field.sessionToPlayerId =
        Function.update (lookup before.field.sessionToPlayerId) s (some g)) :
      Placing before s (after, true)

theorem placing (port : PlayerIdPort) (settings : LoginFieldSpawnSettings F)
    {before : FieldSessionPresence F} (seated : Seated before.field) {s : Int} {claimedId : Bytes}
    (vacant : ∀ auth player, port s claimedId = some auth →
      before.field.findPlayerByAuthId auth = some player →
        lookup before.field.playerToSessionId player.id = none) :
    Placing before s (placeAfterLogin port settings before s claimedId) := by
  rcases placeAny port settings before s claimedId with ⟨idle, -⟩ | ⟨auth, account, -, -, cases'⟩
  · rw [idle]
    exact .failed rfl rfl rfl
  · generalize placeAfterLogin port settings before s claimedId = result at cases' ⊢
    obtain ⟨after, placed⟩ := result
    cases cases' with
    | refused next grows skipped blocked => exact .failed rfl rfl rfl
    | rebound found bound =>
      obtain ⟨still, seats⟩ := seatedBound seated (vacant auth _ account found) bound
      exact .placed still seats
    | created creates positive owner bound =>
      rename_i player field names
      have new : before.field.playerList.contains player.id = false := by
        have untaken := creates.free.2.2.1
        simp only [Field.taken, Bool.or_eq_false_iff] at untaken
        exact untaken.1.1
      have unseated : lookup before.field.playerToSessionId player.id = none := by
        cases sits : lookup before.field.playerToSessionId player.id with
        | none => rfl
        | some r =>
          rw [seated.resident r _ ((seated.paired r _).mpr sits)] at new
          contradiction
      have grown : Seated { before.field with
          nextGameplayId := player.id + 1
          playerList := before.field.playerList.insert player.id player } := by
        refine ⟨seated.paired, fun r g sits => ?_⟩
        simp [seated.resident r g sits]
      obtain ⟨still, seats⟩ := seatedBound grown unseated bound
      exact .placed still seats

theorem tablesJoin (tables : Tables lifecycle registry field) {c : Nat} {g : Int}
    (free : lookup lifecycle.bindings c = none)
    (held : lookup lifecycle'.bindings =
      Function.update (lookup lifecycle.bindings) c (some registry.nextInternalId))
    (next : registry'.nextInternalId = registry.nextInternalId + 1)
    (now : ∀ r, registry'.isActive r = true ↔ r = registry.nextInternalId ∨ registry.isActive r = true)
    (seated : Seated field') (seats : lookup field'.sessionToPlayerId =
      Function.update (lookup field.sessionToPlayerId) registry.nextInternalId (some g)) :
    Tables lifecycle' registry' field' := by
  have first := tables.first
  have fresh : ¬ registry.isActive registry.nextInternalId = true := by
    intro is
    have low := (tables.issued _ is).2
    omega
  refine ⟨linkedJoin tables.linked free fresh held now seats, seated, by omega, ?_⟩
  intro r is
  obtain rfl | old := (now r).mp is
  · omega
  · have low := tables.issued r old
    omega

end

end SeedOrigin.SessionTables
