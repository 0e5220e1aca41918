import Std.Data.ExtTreeSet
import SeedOrigin.ClientInput

/-! SessionRegistry, which issues session ids and keeps the active ones, and
SessionLifecycle, which binds a connection to its session. The alias store and a
session's alias id are left out. -/
namespace SeedOrigin.Sessions
open SeedOrigin.Octets SeedOrigin.ClientInput

abbrev ConnectionMap (V : Type) := Std.ExtTreeMap Nat V

def maxInt64 : Int := 2 ^ 63 - 1

structure SessionInfo where
  internalId : Int := 0
  claimedId : Bytes := []
  authenticated : Bool := false
  deriving DecidableEq, Repr

structure SessionRegistry where
  nextInternalId : Int := 1
  activeSessions : Std.ExtTreeSet Int := ∅
  deriving DecidableEq

def SessionRegistry.openAuthenticatedSession (registry : SessionRegistry) (userId : Int) :
    SessionRegistry × SessionInfo :=
  if userId ≤ 0 ∨ registry.nextInternalId = maxInt64 then (registry, {})
  else
    ({ nextInternalId := registry.nextInternalId + 1
       activeSessions := registry.activeSessions.insert registry.nextInternalId },
      { internalId := registry.nextInternalId, authenticated := true })

def SessionRegistry.isActive (registry : SessionRegistry) (internalId : Int) : Bool :=
  registry.activeSessions.contains internalId

def SessionRegistry.logout (registry : SessionRegistry) (internalId : Int) : SessionRegistry × Bool :=
  ({ registry with activeSessions := registry.activeSessions.erase internalId },
    registry.isActive internalId)

structure SessionLifecycle where
  bindings : ConnectionMap Int := ∅
  deriving DecidableEq

def SessionLifecycle.hasSession (lifecycle : SessionLifecycle) (connectionId : Nat) : Bool :=
  lifecycle.bindings.contains connectionId

def SessionLifecycle.sessionId (lifecycle : SessionLifecycle) (connectionId : Nat) : Int :=
  lifecycle.bindings.getD connectionId 0

def SessionLifecycle.bind (lifecycle : SessionLifecycle) (connectionId : Nat) (info : SessionInfo) :
    Except String SessionLifecycle :=
  if connectionId = 0 ∨ info.internalId ≤ 0 then .error "session binding identity is invalid"
  else if lifecycle.hasSession connectionId then .error "connection already has a session"
  else .ok ⟨lifecycle.bindings.insert connectionId info.internalId⟩

def SessionLifecycle.disconnect (lifecycle : SessionLifecycle) (connectionId : Nat)
    (registry : SessionRegistry) : SessionLifecycle × SessionRegistry :=
  match lifecycle.bindings[connectionId]? with
  | none => (lifecycle, registry)
  | some sessionId => (⟨lifecycle.bindings.erase connectionId⟩, (registry.logout sessionId).1)

theorem keysOrdered {V : Type} (entries : ConnectionMap V) : entries.keys.Pairwise (fun a b => a < b) :=
  Std.ExtTreeMap.ordered_keys.imp (fun h => Nat.compare_eq_lt.mp h)

theorem keysNodup {V : Type} (entries : ConnectionMap V) : entries.keys.Nodup :=
  (keysOrdered entries).imp (fun h => Nat.ne_of_lt h)

theorem keysSplit {V : Type} {entries : ConnectionMap V} {k : Nat} (mem : k ∈ entries) :
    ∃ front back, entries.keys = front ++ k :: back ∧ ∀ j, j ∈ front ↔ j ∈ entries ∧ j < k := by
  obtain ⟨front, back, split⟩ := List.append_of_mem (Std.ExtTreeMap.mem_keys.mpr mem)
  have ordered := keysOrdered entries
  rw [split, List.pairwise_append] at ordered
  obtain ⟨-, tail, across⟩ := ordered
  refine ⟨front, back, split, fun j => ?_⟩
  constructor
  · intro inside
    refine ⟨Std.ExtTreeMap.mem_keys.mp ?_, across j inside k List.mem_cons_self⟩
    rw [split]
    exact List.mem_append_left _ inside
  · rintro ⟨there, below⟩
    have listed := Std.ExtTreeMap.mem_keys.mpr there
    rw [split] at listed
    rcases List.mem_append.mp listed with inside | behind
    · exact inside
    · rcases List.mem_cons.mp behind with rfl | later
      · omega
      · have above := (List.pairwise_cons.mp tail).1 j later
        omega

end SeedOrigin.Sessions
