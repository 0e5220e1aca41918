import SeedOrigin.FieldCalls
import SeedOrigin.Runs
import SeedOrigin.SessionTables

/-! The sessions and the characters they are bound to, as every call of the field
and of the session presence leaves them. -/
namespace SeedOrigin.BoundPlayers
open SeedOrigin.Octets SeedOrigin.Numbers SeedOrigin.Character SeedOrigin.ClientInput
open SeedOrigin.Maps SeedOrigin.FieldState SeedOrigin.Presence SeedOrigin.FieldCalls
open SeedOrigin.SessionTables SeedOrigin.Runs

section
variable {F : Type}

-- The port and the settings of a login come with it. playerSetPlayerName and
-- useSpawnSettings leave the presence as it is.
inductive BindingCall (F : Type) where
  | putPlayer (player : Player F)
  | unsetPlayer (playerId : Int)
  | bindSession (sessionId gameplayId : Int)
  | unbindSession (sessionId : Int)
  | placeAfterLogin (port : PlayerIdPort) (settings : LoginFieldSpawnSettings F) (sessionId : Int)
      (claimedId : Bytes)
  | operatorSetPlayerName (authPlayerId : Int) (displayName : Bytes)
  | removeAfterLogout (sessionId : Int)
  | releaseAfterStop (sessionId : Int)
  | usePlayerIdPort (port : Option PlayerIdPort)

def callBinding (presence : FieldSessionPresence F) : BindingCall F → FieldSessionPresence F
  | .putPlayer player =>
    { presence with field := (presence.field.putPlayer player).getD presence.field }
  | .unsetPlayer playerId => { presence with field := (presence.field.unsetPlayer playerId).1 }
  | .bindSession sessionId gameplayId =>
    { presence with field := (presence.field.bindSession sessionId gameplayId).getD presence.field }
  | .unbindSession sessionId => { presence with field := (presence.field.unbindSession sessionId).1 }
  | .placeAfterLogin port settings sessionId claimedId =>
    (placeAfterLogin port settings presence sessionId claimedId).1
  | .operatorSetPlayerName authPlayerId displayName =>
    (operatorSetPlayerName presence authPlayerId displayName).1
  | .removeAfterLogout sessionId => removeAfterLogout presence sessionId
  | .releaseAfterStop sessionId => releaseAfterStop presence sessionId
  | .usePlayerIdPort none => { presence with operatorNamesByAuthId := ∅ }
  | .usePlayerIdPort (some _) => presence

def authenticatedPoses (field : Field F) : List (PlayerPoseSnapshot F) :=
  field.publicPlayerPoses.filter (fun pose =>
    (lookup field.playerList pose.gameplayId).any (fun player => player.authPlayerId > 0))

structure Consistent (field : Field F) : Prop where
  inverse : Inverse (lookup field.sessionToPlayerId) (lookup field.playerToSessionId)
  residents : ∀ s g, lookup field.sessionToPlayerId s = some g →
    ∃ player, lookup field.playerList g = some player
  resolved : ∀ id, 0 < field.resolvePlayerId id → ∃ player,
    lookup field.playerList (field.resolvePlayerId id) = some player ∧
      field.findPlayer id = some player ∧ field.findPlayer (field.resolvePlayerId id) = some player
  sessions : ((authenticatedPoses field).map PlayerPoseSnapshot.sessionId).Nodup
  players : ((authenticatedPoses field).map PlayerPoseSnapshot.gameplayId).Nodup

structure Matched (field : Field F) : Prop where
  seated : Seated field
  keyed : ∀ g player, lookup field.playerList g = some player → player.id = g ∧ 0 < g

theorem containsPlayer {field : Field F} {g : Int} :
    field.playerList.contains g = true ↔ ∃ player, lookup field.playerList g = some player := by
  rw [Std.ExtTreeMap.contains_eq_isSome_getElem?]
  exact Option.isSome_iff_exists

theorem matchedList {field after : Field F} (matched : Matched field)
    (sessions : after.sessionToPlayerId = field.sessionToPlayerId)
    (players : after.playerToSessionId = field.playerToSessionId)
    {player : Player F} {g : Int} (own : player.id = g) (positive : 0 < g)
    (list : after.playerList = field.playerList.insert g player) : Matched after := by
  refine ⟨⟨?_, fun s h sits => ?_⟩, fun h other there => ?_⟩
  · have paired := matched.seated.paired
    unfold Field.Paired at paired ⊢
    rwa [sessions, players]
  · rw [sessions] at sits
    rw [list]
    simp [matched.seated.resident s h sits]
  · rw [list] at there
    obtain ⟨rfl, rfl⟩ | old := insertedFound there
    · exact ⟨own, positive⟩
    · exact matched.keyed h other old

theorem matchedPut {field after : Field F} (matched : Matched field) {player : Player F}
    (put : field.putPlayer player = some after) : Matched after := by
  unfold Field.putPlayer at put
  split at put
  · contradiction
  · rename_i admitted
    obtain rfl := Option.some.inj put
    simp only [not_or, not_le] at admitted
    exact matchedList matched rfl rfl rfl admitted.1 rfl

theorem matchedBound {field after : Field F} (matched : Matched field) {sessionId gameplayId : Int}
    (made : field.bindSession sessionId gameplayId = some after) : Matched after := by
  obtain ⟨-, -, there, paired, sessions⟩ := bindLookup matched.seated.paired made
  obtain ⟨toPlayer, toSession, shape⟩ := bindShape made
  have list : after.playerList = field.playerList := by rw [shape]
  refine ⟨⟨paired, fun s g sits => ?_⟩, ?_⟩
  · rw [list]
    rw [sessions s] at sits
    split at sits
    · obtain rfl := Option.some.inj sits
      exact there
    · split at sits
      · contradiction
      · exact matched.seated.resident s g sits
  · rw [list]
    exact matched.keyed

theorem matchedUnbound {field : Field F} (matched : Matched field) (sessionId : Int) :
    Matched (field.unbindSession sessionId).1 := by
  by_cases positive : 0 < sessionId
  · obtain ⟨toPlayer, toSession, shape⟩ := unbindShape field sessionId
    have list : (field.unbindSession sessionId).1.playerList = field.playerList := by rw [shape]
    refine ⟨(seatedUnbound matched.seated positive).1, ?_⟩
    rw [list]
    exact matched.keyed
  · rw [unbindAbsent field positive]
    exact matched

theorem matchedUnset {field : Field F} (matched : Matched field) (id : Int) :
    Matched (field.unsetPlayer id).1 := by
  unfold Field.unsetPlayer
  dsimp only
  split
  · exact matched
  · obtain ⟨paired, sessions⟩ := forgetLookup matched.seated.paired (field.resolvePlayerId id)
    obtain ⟨toPlayer, toSession, shape⟩ := forgetShape field (field.resolvePlayerId id)
    have list : (field.forgetBindingsForPlayer (field.resolvePlayerId id)).playerList =
        field.playerList := by rw [shape]
    refine ⟨⟨paired, fun s g sits => ?_⟩, fun g player there => ?_⟩
    · dsimp only at sits ⊢
      rw [sessions s] at sits
      split at sits
      · contradiction
      · rename_i free
        have other : field.resolvePlayerId id ≠ g := by
          rintro rfl
          exact free sits
        rw [list, Std.ExtTreeMap.contains_erase]
        simp [other, matched.seated.resident s g sits]
    · dsimp only at there
      rw [list] at there
      exact matched.keyed g player (erasedFound there)

theorem matchedRenamed {field after : Field F} (matched : Matched field) {authPlayerId : Int}
    {name : Bytes} (renamed : renamePlayer field authPlayerId name = some after) : Matched after := by
  obtain ⟨rfl, -⟩ | ⟨key, player, -, there, -, rfl⟩ := renameFound renamed
  · exact matched
  · obtain ⟨own, positive⟩ := matched.keyed key player there
    refine matchedList matched rfl rfl ?_ positive rfl
    exact own

theorem matchedPlaced {presence : FieldSessionPresence F} (matched : Matched presence.field)
    (port : PlayerIdPort) (settings : LoginFieldSpawnSettings F) (sessionId : Int) (claimedId : Bytes) :
    Matched (placeAfterLogin port settings presence sessionId claimedId).1.field := by
  rcases placeAny port settings presence sessionId claimedId with
    ⟨idle, -⟩ | ⟨auth, account, positive, session, placed⟩
  · rw [idle]
    exact matched
  · generalize placeAfterLogin port settings presence sessionId claimedId = outcome at placed ⊢
    obtain ⟨after, answer⟩ := outcome
    cases placed with
    | refused next grows skipped blocked =>
      exact ⟨⟨matched.seated.paired, matched.seated.resident⟩, matched.keyed⟩
    | rebound found bound => exact matchedBound matched bound
    | @created player field names creates more owner bound =>
      have grown : Matched { presence.field with
          nextGameplayId := player.id + 1
          playerList := presence.field.playerList.insert player.id player } :=
        matchedList matched rfl rfl rfl more rfl
      exact matchedBound grown bound

theorem matchedCall {presence : FieldSessionPresence F} (matched : Matched presence.field)
    (call : BindingCall F) : Matched (callBinding presence call).field := by
  cases call with
  | putPlayer player =>
    unfold callBinding
    dsimp only
    cases put : presence.field.putPlayer player with
    | none => exact matched
    | some after => exact matchedPut matched put
  | unsetPlayer playerId => exact matchedUnset matched playerId
  | bindSession sessionId gameplayId =>
    unfold callBinding
    dsimp only
    cases made : presence.field.bindSession sessionId gameplayId with
    | none => exact matched
    | some after => exact matchedBound matched made
  | unbindSession sessionId => exact matchedUnbound matched sessionId
  | placeAfterLogin port settings sessionId claimedId =>
    exact matchedPlaced matched port settings sessionId claimedId
  | operatorSetPlayerName authPlayerId displayName =>
    simp only [callBinding]
    obtain same | ⟨-, -, -, -, field, renamed, made⟩ := operatorCases presence authPlayerId displayName
    · rw [same]
      exact matched
    · rw [made]
      exact matchedRenamed matched renamed
  | removeAfterLogout sessionId =>
    unfold callBinding removeAfterLogout
    dsimp only
    split
    · exact matched
    · exact matchedUnbound matched sessionId
  | releaseAfterStop sessionId =>
    unfold callBinding releaseAfterStop
    dsimp only
    split
    · exact matched
    · split
      · exact matchedUnbound matched sessionId
      · exact matchedUnset (matchedUnbound matched sessionId) _
  | usePlayerIdPort port =>
    cases port with
    | none => exact matched
    | some port => exact matched

theorem resolvedThere {field : Field F} (matched : Matched field) {id : Int}
    (positive : 0 < field.resolvePlayerId id) :
    ∃ player, lookup field.playerList (field.resolvePlayerId id) = some player := by
  unfold Field.resolvePlayerId at positive ⊢
  split at positive
  · contradiction
  · rename_i numbered
    rw [if_neg numbered]
    split at positive
    · rename_i resident
      rw [if_pos resident]
      exact containsPlayer.mp resident
    · rename_i absent
      rw [if_neg absent]
      rw [Std.ExtTreeMap.getD_eq_getD_getElem?] at positive ⊢
      cases bound : field.sessionToPlayerId[id]? with
      | none =>
        rw [bound] at positive
        contradiction
      | some g => exact containsPlayer.mp (matched.seated.resident id g bound)

theorem resolvedTwice {field : Field F} {g : Int} (positive : 0 < g) {player : Player F}
    (there : lookup field.playerList g = some player) : field.resolvePlayerId g = g := by
  unfold Field.resolvePlayerId
  rw [if_neg (by omega), if_pos (containsPlayer.mpr ⟨player, there⟩)]

theorem posePlayer {field : Field F} (matched : Matched field) {key : Int} {player : Player F}
    {pose : PlayerPoseSnapshot F} (there : (key, player) ∈ field.playerList.toList)
    (shown : (if player.authPlayerId > 0 ∧ field.sessionIdForPlayer player.id ≤ 0 then none
      else some
        { sessionId := if field.sessionIdForPlayer player.id > 0 then field.sessionIdForPlayer player.id
            else player.id
          x := player.position.x
          y := player.position.y
          z := player.position.z
          gameplayId := player.id
          name := player.getPlayerName }) = some pose) :
    pose.gameplayId = key ∧ lookup field.playerList pose.gameplayId = some player ∧
      (player.authPlayerId > 0 → lookup field.playerToSessionId pose.gameplayId = some pose.sessionId) := by
  have found : lookup field.playerList key = some player :=
    Std.ExtTreeMap.mem_toList_iff_getElem?_eq_some.mp there
  obtain ⟨own, -⟩ := matched.keyed key player found
  split at shown
  · contradiction
  · rename_i seen
    cases shown
    refine ⟨own, own ▸ found, fun account => ?_⟩
    have bound : 0 < field.sessionIdForPlayer player.id := by
      by_contra free
      exact seen ⟨account, not_lt.mp free⟩
    dsimp only
    rw [if_pos bound]
    unfold Field.sessionIdForPlayer at bound ⊢
    rw [Std.ExtTreeMap.getD_eq_getD_getElem?] at bound ⊢
    cases session : field.playerToSessionId[player.id]? with
    | none =>
      rw [session] at bound
      contradiction
    | some s => exact session

theorem posesApart {field : Field F} (matched : Matched field) :
    (authenticatedPoses field).Pairwise (fun a b => a.gameplayId ≠ b.gameplayId ∧
      a.sessionId ≠ b.sessionId) := by
  unfold authenticatedPoses Field.publicPlayerPoses
  rw [List.pairwise_filter, List.pairwise_filterMap]
  refine List.Pairwise.imp_of_mem ?_ Std.ExtTreeMap.distinct_keys_toList
  intro left right leftThere rightThere apart a leftShown b rightShown leftAccount rightAccount
  obtain ⟨leftId, leftFound, leftSession⟩ := posePlayer matched leftThere leftShown
  obtain ⟨rightId, rightFound, rightSession⟩ := posePlayer matched rightThere rightShown
  rw [leftFound] at leftAccount
  rw [rightFound] at rightAccount
  have ids : a.gameplayId ≠ b.gameplayId := by
    rw [leftId, rightId]
    exact fun same => apart (by simp [same])
  refine ⟨ids, fun same => ids ?_⟩
  have first := (matched.seated.paired _ _).mpr (leftSession (by simpa using leftAccount))
  have second := (matched.seated.paired _ _).mpr (rightSession (by simpa using rightAccount))
  rw [same, second] at first
  exact (Option.some.inj first).symm

theorem matchedConsistent {field : Field F} (matched : Matched field) : Consistent field where
  inverse := matched.seated.paired
  residents s g sits := containsPlayer.mp (matched.seated.resident s g sits)
  resolved id positive := by
    obtain ⟨player, there⟩ := resolvedThere matched positive
    refine ⟨player, there, there, ?_⟩
    unfold Field.findPlayer
    rw [resolvedTwice positive there]
    exact there
  sessions := List.pairwise_map.mpr ((posesApart matched).imp fun both => both.2)
  players := List.pairwise_map.mpr ((posesApart matched).imp fun both => both.1)

variable [FloatOps F]

theorem initialMatched : Matched (Field.initial : Field F) := by
  have empty {V : Type} {k : Int} {v : V} (there : lookup (∅ : IntMap V) k = some v) : False := by
    simp [lookup] at there
  refine ⟨⟨fun s g => ?_, fun s g sits => (empty sits).elim⟩, fun g player there => (empty there).elim⟩
  exact ⟨fun there => (empty there).elim, fun there => (empty there).elim⟩

theorem bindingsConsistent (names : IntMap Bytes) (calls : List (BindingCall F)) :
    Always callBinding (fun presence => Consistent presence.field) ⟨Field.initial, names⟩ calls := by
  have along : Along callBinding (fun _ _ => True) ⟨(Field.initial : Field F), names⟩ calls :=
    fun _ _ _ _ => trivial
  exact alwaysOf (I := fun presence : FieldSessionPresence F => Matched presence.field)
    (fun _ matched => matchedConsistent matched) (fun _ call matched _ => matchedCall matched call)
    initialMatched along

end

end SeedOrigin.BoundPlayers
