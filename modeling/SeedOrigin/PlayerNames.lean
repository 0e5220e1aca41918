import SeedOrigin.FieldCalls
import SeedOrigin.Runs

/-! The names characters show and the names accounts claim, over any order of
logins, renames and removals. -/
namespace SeedOrigin.PlayerNames
open SeedOrigin.Octets SeedOrigin.Numbers SeedOrigin.Character SeedOrigin.ClientInput
open SeedOrigin.Maps SeedOrigin.FieldState SeedOrigin.Presence SeedOrigin.FieldCalls SeedOrigin.Runs

section
variable {F : Type}

inductive NameCall (F : Type) where
  | placeAfterLogin (settings : LoginFieldSpawnSettings F) (sessionId : Int) (claimedId : Bytes)
  | operatorSetPlayerName (authPlayerId : Int) (displayName : Bytes)
  | removeAfterLogout (sessionId : Int)
  | releaseAfterStop (sessionId : Int)
  | unsetPlayer (playerId : Int)

-- What releaseAfterStop reports.
def released (presence : FieldSessionPresence F) (sessionId : Int) : Bool :=
  if sessionId ≤ 0 then false
  else
    let gameplayId := presence.field.playerIdForSession sessionId
    if gameplayId ≤ 0 then true
    else ((presence.field.unbindSession sessionId).1.unsetPlayer gameplayId).2

def callNames (port : PlayerIdPort) (presence : FieldSessionPresence F) :
    NameCall F → FieldSessionPresence F × Bool
  | .placeAfterLogin settings sessionId claimedId => placeAfterLogin port settings presence sessionId claimedId
  | .operatorSetPlayerName authPlayerId displayName => operatorSetPlayerName presence authPlayerId displayName
  | .removeAfterLogout sessionId =>
    (removeAfterLogout presence sessionId, (presence.field.unbindSession sessionId).2)
  | .releaseAfterStop sessionId => (releaseAfterStop presence sessionId, released presence sessionId)
  | .unsetPlayer playerId =>
    ({ presence with field := (presence.field.unsetPlayer playerId).1 },
      (presence.field.unsetPlayer playerId).2)

def nameStep (port : PlayerIdPort) (presence : FieldSessionPresence F) (call : NameCall F) :
    FieldSessionPresence F := (callNames port presence call).1

def shownNames (presence : FieldSessionPresence F) (g : Int) : Option Bytes :=
  (lookup presence.field.playerList g).map Player.getPlayerName

structure Resident (presence : FieldSessionPresence F) (g : Int) (player : Player F) : Prop where
  there : lookup presence.field.playerList g = some player
  account : 0 < player.authPlayerId

structure NamesMatch (port : PlayerIdPort) (presence : FieldSessionPresence F) : Prop where
  named : ∀ g player, Resident presence g player → player.getPlayerName ≠ []
  apart : ∀ g h player other, Resident presence g player → Resident presence h other →
    player.getPlayerName = other.getPlayerName → g = h
  claimed : ∀ g player, Resident presence g player →
    lookup presence.operatorNamesByAuthId player.authPlayerId = some player.getPlayerName
  claims : ∀ a b name, lookup presence.operatorNamesByAuthId a = some name →
    lookup presence.operatorNamesByAuthId b = some name → a = b
  failures : ∀ call, (callNames port presence call).2 = false →
    shownNames (nameStep port presence call) = shownNames presence ∧
      (nameStep port presence call).operatorNamesByAuthId = presence.operatorNamesByAuthId

structure Renames (presence : FieldSessionPresence F) (authPlayerId : Int) (name : Bytes) : Prop where
  positive : 0 < authPlayerId
  accepted : acceptsName name = true
  unclaimed : nameClaimedByOtherAuth presence name authPlayerId = false
  free : nameTakenOnFieldByOther presence.field name
    (presence.field.findPlayerByAuthId authPlayerId) = false
  resident : (presence.field.findPlayerByAuthId authPlayerId).isSome = true

def Printable (port : PlayerIdPort) (presence : FieldSessionPresence F) : NameCall F → Prop
  | .placeAfterLogin settings sessionId claimedId =>
    ∀ auth g, port sessionId claimedId = some auth → 0 < sessionId → 0 < auth → 0 < g →
      Creates settings presence auth g → 0 ∉ displayName presence settings auth
  | .operatorSetPlayerName authPlayerId name =>
    Renames presence authPlayerId (trimPlayerName name) → 0 ∉ trimPlayerName name
  | _ => True

structure Kept (presence : FieldSessionPresence F) : Prop where
  residents : ∀ g player, lookup presence.field.playerList g = some player →
    0 < player.authPlayerId ∧ player.name ≠ [] ∧ 0 ∉ player.name ∧
      lookup presence.operatorNamesByAuthId player.authPlayerId = some player.name
  accounts : ∀ g h player other, lookup presence.field.playerList g = some player →
    lookup presence.field.playerList h = some other → player.authPlayerId = other.authPlayerId → g = h
  claims : ∀ a b name, lookup presence.operatorNamesByAuthId a = some name →
    lookup presence.operatorNamesByAuthId b = some name → a = b
  trimmed : ∀ a name, lookup presence.operatorNamesByAuthId a = some name → trimPlayerName name = name

theorem printableName {player : Player F} (printable : 0 ∉ player.name) :
    player.getPlayerName = player.name := by
  unfold Player.getPlayerName
  rw [List.takeWhile_eq_self_iff]
  intro b there
  have other : b ≠ 0 := by
    rintro rfl
    exact printable there
  simpa using other

theorem cutName {player : Player F} (zero : 0 ∈ player.name) : player.getPlayerName ≠ player.name := by
  intro same
  have every := List.takeWhile_eq_self_iff.mp same 0 zero
  simp at every

theorem unclaimedByOthers {presence : FieldSessionPresence F} {name : Bytes} {auth : Int}
    (unclaimed : nameClaimedByOtherAuth presence name auth = false) {b : Int}
    (claims : lookup presence.operatorNamesByAuthId b = some name) : b = auth := by
  unfold nameClaimedByOtherAuth at unclaimed
  rw [List.any_eq_false] at unclaimed
  have listed := Std.ExtTreeMap.mem_toList_iff_getElem?_eq_some.mpr claims
  by_contra other
  exact unclaimed (b, name) listed (by simp [other])

theorem noAccount {field : Field F} {auth : Int} (positive : 0 < auth)
    (absent : field.findPlayerByAuthId auth = none) {g : Int} {player : Player F}
    (there : lookup field.playerList g = some player) : player.authPlayerId ≠ auth := by
  unfold Field.findPlayerByAuthId at absent
  rw [if_neg (not_le.mpr positive), Option.map_eq_none_iff, List.find?_eq_none] at absent
  have listed := Std.ExtTreeMap.mem_toList_iff_getElem?_eq_some.mpr there
  simpa using absent (g, player) listed

theorem keptFewer {before after : FieldSessionPresence F} (kept : Kept before)
    (claims : after.operatorNamesByAuthId = before.operatorNamesByAuthId)
    (stays : ∀ g player, lookup after.field.playerList g = some player →
      lookup before.field.playerList g = some player) : Kept after := by
  refine ⟨?_, ?_, ?_, ?_⟩
  · rw [claims]
    exact fun g player there => kept.residents g player (stays g player there)
  · exact fun g h player other here there => kept.accounts g h player other (stays g player here)
      (stays h other there)
  · rw [claims]
    exact kept.claims
  · rw [claims]
    exact kept.trimmed

theorem keptNamed {before after : FieldSessionPresence F} (kept : Kept before) {auth : Int} {name : Bytes}
    (positive : 0 < auth) (named : name ≠ []) (printable : ∀ g player,
      lookup after.field.playerList g = some player → player.authPlayerId = auth → 0 ∉ name)
    (trimmed : trimPlayerName name = name)
    (unclaimed : nameClaimedByOtherAuth before name auth = false)
    (claims : after.operatorNamesByAuthId = before.operatorNamesByAuthId.insert auth name)
    (others : ∀ g player, lookup after.field.playerList g = some player →
      player.authPlayerId = auth ∧ player.name = name ∨
        player.authPlayerId ≠ auth ∧ lookup before.field.playerList g = some player)
    (single : ∀ g h player other, lookup after.field.playerList g = some player →
      lookup after.field.playerList h = some other → player.authPlayerId = auth →
      other.authPlayerId = auth → g = h) : Kept after := by
  refine ⟨fun g player there => ?_, fun g h player other here there same => ?_,
    fun a b claim first second => ?_, fun a claim there => ?_⟩
  · rw [claims, lookupInsert]
    obtain ⟨rfl, own⟩ | ⟨foreign, old⟩ := others g player there
    · rw [Function.update_self, own]
      exact ⟨positive, named, printable g player there rfl, rfl⟩
    · rw [Function.update_of_ne foreign]
      exact kept.residents g player old
  · obtain ⟨mine, -⟩ | ⟨foreign, old⟩ := others g player here
    · exact single g h player other here there mine (same ▸ mine)
    · obtain ⟨theirs, -⟩ | ⟨-, older⟩ := others h other there
      · exact absurd (same.trans theirs) foreign
      · exact kept.accounts g h player other old older same
  · rw [claims, lookupInsert] at first second
    by_cases left : a = auth
    · by_cases right : b = auth
      · exact left.trans right.symm
      · rw [left, Function.update_self] at first
        rw [Function.update_of_ne right, ← Option.some.inj first] at second
        exact absurd (unclaimedByOthers unclaimed second) right
    · by_cases right : b = auth
      · rw [right, Function.update_self] at second
        rw [Function.update_of_ne left, ← Option.some.inj second] at first
        exact absurd (unclaimedByOthers unclaimed first) left
      · rw [Function.update_of_ne left] at first
        rw [Function.update_of_ne right] at second
        exact kept.claims a b claim first second
  · rw [claims, lookupInsert] at there
    by_cases here : a = auth
    · rw [here, Function.update_self] at there
      rw [← Option.some.inj there]
      exact trimmed
    · rw [Function.update_of_ne here] at there
      exact kept.trimmed a claim there

theorem placeCreates (port : PlayerIdPort) (settings : LoginFieldSpawnSettings F)
    (before : FieldSessionPresence F) {sessionId auth g : Int} {claimedId : Bytes}
    (account : port sessionId claimedId = some auth) (session : 0 < sessionId) (positive : 0 < auth)
    (more : 0 < g) (creates : Creates settings before auth g) :
    ∃ field player, placeAfterLogin port settings before sessionId claimedId =
        (⟨field, before.operatorNamesByAuthId.insert auth (displayName before settings auth)⟩, true) ∧
      field.playerList = before.field.playerList.insert g player ∧ player.authPlayerId = auth ∧
      player.name = trimPlayerName (displayName before settings auth) := by
  obtain ⟨next, shape, -, -, ends⟩ := allocateShape before.field
  have found : (before.field.allocateGameplayId).2 = g := by
    obtain ⟨-, no⟩ | ⟨first, -⟩ := ends
    · exact absurd creates.free (no g)
    · exact firstUnique first creates.free
  have allocated : before.field.allocateGameplayId = ({ before.field with nextGameplayId := next }, g) :=
    Prod.ext shape found
  let name := displayName before settings auth
  let player : Player F := { spawned settings g auth with name := trimPlayerName name }
  have named : (spawned settings g auth).setPlayerName name = some player := by
    unfold Player.setPlayerName
    rw [if_neg (by simp [name, creates.named])]
  have id : player.id = g := (spawnedName positive named).2.1
  have owner : player.authPlayerId = auth := (spawnedName positive named).2.2
  have noNpc : (before.field.findNpc g).isSome = false := by
    have whole := creates.free.2.2.1
    simp only [Field.taken, Bool.or_eq_false_iff] at whole
    exact whole.1.2
  let placed : Field F := { before.field with
    nextGameplayId := next
    playerList := before.field.playerList.insert g player }
  have put : Field.putPlayer { before.field with nextGameplayId := next } player = some placed := by
    have fits : ¬ (player.id ≤ 0 ∨ (Field.findNpc
        { before.field with nextGameplayId := next } player.id).isSome = true) := by
      rw [id]
      have same : (Field.findNpc { before.field with nextGameplayId := next } g).isSome = false := noNpc
      simp [same, more]
    unfold Field.putPlayer
    rw [if_neg fits, id]
  have resident : placed.playerList.contains g = true := by simp [placed]
  obtain ⟨bound, made⟩ := bindResident session more resident
  obtain ⟨sessions, players, bindings⟩ := bindShape made
  refine ⟨bound, player, ?_, by rw [bindings], owner, rfl⟩
  unfold placeAfterLogin
  simp only [if_neg (not_le.mpr session), account, if_neg (not_le.mpr positive), creates.absent,
    creates.allowed, Bool.false_eq_true, if_false, allocated, if_neg (not_le.mpr more)]
  rw [show (spawned settings g auth).setPlayerName (displayName before settings auth) = some player from named]
  simp only [put, made]

theorem placeNames (port : PlayerIdPort) (settings : LoginFieldSpawnSettings F)
    (before : FieldSessionPresence F) (sessionId : Int) (claimedId : Bytes) :
    ((placeAfterLogin port settings before sessionId claimedId).1.field.playerList = before.field.playerList ∧
      (placeAfterLogin port settings before sessionId claimedId).1.operatorNamesByAuthId =
        before.operatorNamesByAuthId) ∨
    ((placeAfterLogin port settings before sessionId claimedId).2 = true ∧
      ∃ auth g, port sessionId claimedId = some auth ∧ 0 < sessionId ∧ 0 < auth ∧ 0 < g ∧
        Creates settings before auth g) := by
  obtain ⟨idle, -⟩ | ⟨auth, account, positive, session, placed⟩ :=
    placeAny port settings before sessionId claimedId
  · rw [idle]
    exact .inl ⟨rfl, rfl⟩
  · generalize placeAfterLogin port settings before sessionId claimedId = outcome at placed ⊢
    obtain ⟨after, answer⟩ := outcome
    cases placed with
    | refused next grows skipped blocked => exact .inl ⟨rfl, rfl⟩
    | rebound found bound =>
      obtain ⟨sessions, players, rfl⟩ := bindShape bound
      exact .inl ⟨rfl, rfl⟩
    | created creates more account' bound =>
      exact .inr ⟨rfl, auth, _, account, session, positive, more, creates⟩

theorem displayTrimmed {presence : FieldSessionPresence F} (kept : Kept presence)
    (settings : LoginFieldSpawnSettings F) (auth : Int) :
    trimPlayerName (displayName presence settings auth) = displayName presence settings auth := by
  unfold displayName
  rw [Std.ExtTreeMap.getD_eq_getD_getElem?]
  cases claim : presence.operatorNamesByAuthId[auth]? with
  | none => exact trimTwice settings.playerName
  | some name => exact kept.trimmed auth name claim

theorem placeKept (port : PlayerIdPort) (settings : LoginFieldSpawnSettings F)
    {before : FieldSessionPresence F} (kept : Kept before) (sessionId : Int) (claimedId : Bytes)
    (printable : Printable port before (.placeAfterLogin settings sessionId claimedId)) :
    Kept (placeAfterLogin port settings before sessionId claimedId).1 := by
  obtain ⟨list, claims⟩ | ⟨-, auth, g, account, session, positive, more, creates⟩ :=
    placeNames port settings before sessionId claimedId
  · exact keptFewer kept claims (fun g player there => by rwa [list] at there)
  · obtain ⟨field, player, made, list, owner, named⟩ :=
      placeCreates port settings before account session positive more creates
    have plain := printable auth g account session positive more creates
    have refused := creates.allowed
    simp only [nameRefused, Bool.or_eq_false_iff, decide_eq_false_iff_not] at refused
    rw [displayTrimmed kept] at named
    have others {h : Int} {other : Player F} (there : lookup field.playerList h = some other) :
        (h = g ∧ other = player) ∨
          (other.authPlayerId ≠ auth ∧ lookup before.field.playerList h = some other) := by
      rw [list] at there
      obtain new | old := insertedFound there
      · exact .inl new
      · exact .inr ⟨noAccount positive creates.absent old, old⟩
    rw [made]
    refine keptNamed kept positive refused.1.1 (fun _ _ _ _ => plain) (displayTrimmed kept settings auth)
      refused.1.2 rfl (fun h other there => ?_) (fun h i other another here there mine theirs => ?_)
    · obtain ⟨rfl, rfl⟩ | foreign := others there
      · exact .inl ⟨owner, named⟩
      · exact .inr foreign
    · obtain ⟨rfl, -⟩ | ⟨foreign, -⟩ := others here
      · obtain ⟨rfl, -⟩ | ⟨foreign, -⟩ := others there
        · rfl
        · exact absurd theirs foreign
      · exact absurd mine foreign

theorem renameCases {field after : Field F} {auth : Int} (positive : 0 < auth) {name : Bytes}
    (renamed : renamePlayer field auth name = some after) :
    (after = field ∧ field.findPlayerByAuthId auth = none) ∨
    ∃ g player, lookup field.playerList g = some player ∧ player.authPlayerId = auth ∧
      (field.findPlayerByAuthId auth).isSome = true ∧ after = { field with
        playerList := field.playerList.insert g { player with name := trimPlayerName name } } := by
  unfold Field.findPlayerByAuthId
  rw [if_neg (not_le.mpr positive)]
  obtain ⟨same, absent⟩ | ⟨g, player, found, there, -, rfl⟩ := renameFound renamed
  · rw [absent]
    exact .inl ⟨same, rfl⟩
  · have owner : player.authPlayerId = auth := by simpa using List.find?_some found
    rw [found]
    exact .inr ⟨g, player, there, owner, rfl, rfl⟩

theorem operatorRenames {before : FieldSessionPresence F} {auth : Int} {raw : Bytes}
    (renames : Renames before auth (trimPlayerName raw)) :
    ∃ field, renamePlayer before.field auth (trimPlayerName raw) = some field ∧
      operatorSetPlayerName before auth raw =
        (⟨field, before.operatorNamesByAuthId.insert auth (trimPlayerName raw)⟩, true) := by
  obtain ⟨positive, accepted, unclaimed, free, -⟩ := renames
  obtain ⟨field, renamed⟩ : ∃ field, renamePlayer before.field auth (trimPlayerName raw) = some field := by
    unfold renamePlayer
    split
    · exact ⟨_, rfl⟩
    · unfold Player.setPlayerName
      rw [if_neg (by simp [accepted])]
      exact ⟨_, rfl⟩
  refine ⟨field, renamed, ?_⟩
  unfold operatorSetPlayerName
  dsimp only
  rw [if_neg (not_le.mpr positive), if_neg (by simp [accepted]), if_neg (by simp [unclaimed]),
    if_neg (by simp [free]), renamed]

theorem acceptedNamed {name : Bytes} (accepted : acceptsName name = true)
    (trimmed : trimPlayerName name = name) : name ≠ [] := by
  unfold acceptsName at accepted
  rw [trimmed] at accepted
  rintro rfl
  simp at accepted

theorem operatorKept (port : PlayerIdPort) {before : FieldSessionPresence F} (kept : Kept before)
    (auth : Int) (raw : Bytes) (printable : Printable port before (.operatorSetPlayerName auth raw)) :
    Kept (operatorSetPlayerName before auth raw).1 := by
  obtain same | ⟨positive, accepted, unclaimed, free, field, renamed, made⟩ := operatorCases before auth raw
  · rw [same]
    exact kept
  · have named := acceptedNamed accepted (trimTwice raw)
    rw [made]
    obtain ⟨rfl, absent⟩ | ⟨g, player, there, owner, resident, rfl⟩ := renameCases positive renamed
    · have foreign {h : Int} {other : Player F} (here : lookup before.field.playerList h = some other) :=
        noAccount positive absent here
      exact keptNamed kept positive named (fun h other here mine => absurd mine (foreign here))
        (trimTwice raw) unclaimed rfl (fun h other here => .inr ⟨foreign here, here⟩)
        (fun h i other another here _ mine _ => absurd mine (foreign here))
    · have plain := printable ⟨positive, accepted, unclaimed, free, resident⟩
      let changed : Player F := { player with name := trimPlayerName (trimPlayerName raw) }
      have others {h : Int} {other : Player F}
          (here : lookup (before.field.playerList.insert g changed) h = some other) :
          (h = g ∧ other = changed) ∨
            (other.authPlayerId ≠ auth ∧ lookup before.field.playerList h = some other) := by
        rw [lookupInsert] at here
        by_cases mine : h = g
        · rw [mine, Function.update_self] at here
          exact .inl ⟨mine, (Option.some.inj here).symm⟩
        · rw [Function.update_of_ne mine] at here
          exact .inr ⟨fun same => mine (kept.accounts h g other player here there (same.trans owner.symm)), here⟩
      refine keptNamed kept positive named (fun _ _ _ _ => plain) (trimTwice raw) unclaimed rfl
        (fun h other here => ?_) (fun h i other another here there' mine theirs => ?_)
      · obtain ⟨rfl, rfl⟩ | foreign := others here
        · exact .inl ⟨owner, trimTwice raw⟩
        · exact .inr foreign
      · obtain ⟨rfl, -⟩ | ⟨foreign, -⟩ := others here
        · obtain ⟨rfl, -⟩ | ⟨foreign, -⟩ := others there'
          · rfl
          · exact absurd theirs foreign
        · exact absurd mine foreign

theorem unbindList (field : Field F) (sessionId : Int) :
    (field.unbindSession sessionId).1.playerList = field.playerList := by
  obtain ⟨sessions, players, shape⟩ := unbindShape field sessionId
  rw [shape]

theorem unsetList (field : Field F) (id : Int) :
    ((field.unsetPlayer id).1.playerList = field.playerList ∨
      (field.unsetPlayer id).2 = field.playerList.contains (field.resolvePlayerId id) ∧
        (field.unsetPlayer id).1.playerList = field.playerList.erase (field.resolvePlayerId id)) := by
  unfold Field.unsetPlayer
  dsimp only
  split
  · exact .inl rfl
  · obtain ⟨sessions, players, shape⟩ := forgetShape field (field.resolvePlayerId id)
    rw [shape]
    exact .inr ⟨rfl, rfl⟩

theorem unsetStays {field : Field F} {id g : Int} {player : Player F}
    (there : lookup (field.unsetPlayer id).1.playerList g = some player) :
    lookup field.playerList g = some player := by
  obtain same | ⟨-, erased⟩ := unsetList field id
  · rwa [same] at there
  · rw [erased] at there
    exact erasedFound there

theorem unsetFailed {field : Field F} {id : Int} (failed : (field.unsetPlayer id).2 = false) :
    lookup (field.unsetPlayer id).1.playerList = lookup field.playerList := by
  obtain same | ⟨answer, erased⟩ := unsetList field id
  · rw [same]
  · rw [erased, lookupErase]
    rw [answer, Std.ExtTreeMap.contains_eq_isSome_getElem?, Option.isSome_eq_false_iff,
      Option.isNone_iff_eq_none] at failed
    exact Function.update_eq_self_iff.mpr failed.symm

theorem releaseShape (presence : FieldSessionPresence F) (sessionId : Int) :
    (releaseAfterStop presence sessionId).operatorNamesByAuthId = presence.operatorNamesByAuthId ∧
    (((releaseAfterStop presence sessionId).field.playerList = presence.field.playerList) ∨
      ∃ id, released presence sessionId = ((presence.field.unbindSession sessionId).1.unsetPlayer id).2 ∧
        (releaseAfterStop presence sessionId).field =
          ((presence.field.unbindSession sessionId).1.unsetPlayer id).1) := by
  unfold releaseAfterStop released
  split
  · exact ⟨rfl, .inl rfl⟩
  · dsimp only
    split
    · exact ⟨rfl, .inl (unbindList presence.field sessionId)⟩
    · exact ⟨rfl, .inr ⟨_, rfl, rfl⟩⟩

theorem removeShape (presence : FieldSessionPresence F) (sessionId : Int) :
    (removeAfterLogout presence sessionId).operatorNamesByAuthId = presence.operatorNamesByAuthId ∧
    (removeAfterLogout presence sessionId).field.playerList = presence.field.playerList := by
  unfold removeAfterLogout
  split
  · exact ⟨rfl, rfl⟩
  · exact ⟨rfl, unbindList presence.field sessionId⟩

theorem stepKept (port : PlayerIdPort) {presence : FieldSessionPresence F} (kept : Kept presence)
    (call : NameCall F) (printable : Printable port presence call) : Kept (nameStep port presence call) := by
  unfold nameStep
  cases call with
  | placeAfterLogin settings sessionId claimedId =>
    exact placeKept port settings kept sessionId claimedId printable
  | operatorSetPlayerName auth name => exact operatorKept port kept auth name printable
  | removeAfterLogout sessionId =>
    obtain ⟨claims, list⟩ := removeShape presence sessionId
    exact keptFewer kept claims (fun g player there => by rwa [← list])
  | releaseAfterStop sessionId =>
    obtain ⟨claims, list | ⟨id, -, field⟩⟩ := releaseShape presence sessionId
    · exact keptFewer kept claims (fun g player there => by rwa [← list])
    · refine keptFewer kept claims (fun g player there => ?_)
      have after : lookup (releaseAfterStop presence sessionId).field.playerList g = some player := there
      rw [field] at after
      rw [← unbindList presence.field sessionId]
      exact unsetStays after
  | unsetPlayer id => exact keptFewer kept rfl (fun g player there => unsetStays there)

theorem namesSame {before after : FieldSessionPresence F}
    (list : lookup after.field.playerList = lookup before.field.playerList) :
    shownNames after = shownNames before := by
  funext g
  rw [shownNames, shownNames, list]

theorem callFailures (port : PlayerIdPort) (presence : FieldSessionPresence F) (call : NameCall F)
    (failed : (callNames port presence call).2 = false) :
    shownNames (nameStep port presence call) = shownNames presence ∧
      (nameStep port presence call).operatorNamesByAuthId = presence.operatorNamesByAuthId := by
  unfold nameStep
  cases call with
  | placeAfterLogin settings sessionId claimedId =>
    obtain ⟨list, claims⟩ | ⟨accepted, -⟩ := placeNames port settings presence sessionId claimedId
    · exact ⟨namesSame (congrArg lookup list), claims⟩
    · exact absurd (accepted.symm.trans failed) (by decide)
  | operatorSetPlayerName auth name =>
    obtain same | ⟨-, -, -, -, field, -, made⟩ := operatorCases presence auth name
    · simp only [callNames, same, and_self]
    · simp [callNames, made] at failed
  | removeAfterLogout sessionId =>
    obtain ⟨claims, list⟩ := removeShape presence sessionId
    exact ⟨namesSame (congrArg lookup list), claims⟩
  | releaseAfterStop sessionId =>
    obtain ⟨claims, list | ⟨id, answer, field⟩⟩ := releaseShape presence sessionId
    · exact ⟨namesSame (congrArg lookup list), claims⟩
    · refine ⟨namesSame ?_, claims⟩
      have same := unsetFailed (answer.symm.trans failed)
      rw [unbindList] at same
      simp only [callNames, field]
      exact same
  | unsetPlayer id => exact ⟨namesSame (unsetFailed failed), rfl⟩

theorem keptMatch (port : PlayerIdPort) {presence : FieldSessionPresence F} (kept : Kept presence) :
    NamesMatch port presence := by
  have shown {g : Int} {player : Player F} (resident : Resident presence g player) :
      player.getPlayerName = player.name :=
    printableName (kept.residents g player resident.there).2.2.1
  have claimed {g : Int} {player : Player F} (resident : Resident presence g player) :
      lookup presence.operatorNamesByAuthId player.authPlayerId = some player.getPlayerName := by
    rw [shown resident]
    exact (kept.residents g player resident.there).2.2.2
  refine ⟨fun g player resident => ?_, fun g h player other here there same => ?_,
    fun g player resident => claimed resident, kept.claims, callFailures port presence⟩
  · rw [shown resident]
    exact (kept.residents g player resident.there).2.1
  · have first := claimed here
    rw [same] at first
    exact kept.accounts g h player other here.there there.there (kept.claims _ _ _ first (claimed there))

-- A resident whose name has a zero byte does not show what its account claims.
theorem cutMismatch {port : PlayerIdPort} {presence : FieldSessionPresence F} {g : Int} {player : Player F}
    (there : lookup presence.field.playerList g = some player) (positive : 0 < player.authPlayerId)
    (claims : lookup presence.operatorNamesByAuthId player.authPlayerId = some player.name)
    (zero : 0 ∈ player.name) : ¬ NamesMatch port presence := by
  intro match_
  have shown := match_.claimed g player ⟨there, positive⟩
  rw [claims] at shown
  exact cutName zero (Option.some.inj shown).symm

theorem stepSpoils (port : PlayerIdPort) {presence : FieldSessionPresence F} (kept : Kept presence)
    (call : NameCall F) (bad : ¬ Printable port presence call) :
    ¬ NamesMatch port (nameStep port presence call) := by
  cases call with
  | placeAfterLogin settings sessionId claimedId =>
    simp only [Printable, not_forall, not_not] at bad
    obtain ⟨auth, g, account, session, positive, more, creates, zero⟩ := bad
    obtain ⟨field, player, made, list, rfl, named⟩ :=
      placeCreates port settings presence account session positive more creates
    have stepped : nameStep port presence (.placeAfterLogin settings sessionId claimedId) =
        ⟨field, presence.operatorNamesByAuthId.insert player.authPlayerId
          (displayName presence settings player.authPlayerId)⟩ := congrArg Prod.fst made
    rw [displayTrimmed kept] at named
    rw [stepped]
    have there : lookup field.playerList g = some player := by
      rw [list, lookupInsert, Function.update_self]
    refine cutMismatch there positive ?_ (by rwa [named])
    rw [lookupInsert, Function.update_self, named]
  | operatorSetPlayerName auth raw =>
    simp only [Printable, Classical.not_imp, not_not] at bad
    obtain ⟨renames, zero⟩ := bad
    obtain ⟨field, renamed, made⟩ := operatorRenames renames
    have stepped : nameStep port presence (.operatorSetPlayerName auth raw) =
        ⟨field, presence.operatorNamesByAuthId.insert auth (trimPlayerName raw)⟩ := congrArg Prod.fst made
    rw [stepped]
    obtain ⟨-, absent⟩ | ⟨g, player, there, rfl, -, rfl⟩ := renameCases renames.positive renamed
    · have resident := renames.resident
      rw [absent] at resident
      contradiction
    · have shown : lookup (presence.field.playerList.insert g { player with name := trimPlayerName (trimPlayerName raw) }) g =
          some { player with name := trimPlayerName (trimPlayerName raw) } := by
        rw [lookupInsert, Function.update_self]
      refine cutMismatch shown renames.positive ?_ ?_
      · rw [lookupInsert, Function.update_self, trimTwice]
      · rwa [trimTwice]
  | removeAfterLogout sessionId => exact absurd trivial bad
  | releaseAfterStop sessionId => exact absurd trivial bad
  | unsetPlayer id => exact absurd trivial bad

theorem namesMatchExact (port : PlayerIdPort) {presence : FieldSessionPresence F}
    (nobody : presence.field.playerList = ∅) (unclaimed : presence.operatorNamesByAuthId = ∅)
    (calls : List (NameCall F)) :
    Always (nameStep port) (NamesMatch port) presence calls ↔
      Along (nameStep port) (Printable port) presence calls := by
  have empty (g : Int) : lookup presence.field.playerList g = none := by simp [nobody, lookup]
  have free (a : Int) : lookup presence.operatorNamesByAuthId a = none := by simp [unclaimed, lookup]
  have start : Kept presence := by
    refine ⟨fun g player there => ?_, fun g _ player _ there => ?_, fun a _ name there => ?_,
      fun a name there => ?_⟩
    · rw [empty] at there
      contradiction
    · rw [empty] at there
      contradiction
    · rw [free] at there
      contradiction
    · rw [free] at there
      contradiction
  exact alwaysExact (I := Kept) (Q := NamesMatch port) (fun _ => keptMatch port)
    (fun _ call kept printable => stepKept port kept call printable)
    (fun _ call kept bad => stepSpoils port kept call bad) start

end

def ownAccounts : PlayerIdPort := fun sessionId _ => some sessionId

def nameless : FieldSessionPresence ℚ := ⟨Field.initial, ∅⟩

def spawnAs (name : Bytes) : LoginFieldSpawnSettings ℚ := { x := 0, y := 0, z := 0, playerName := name }

-- Two logins under names that differ behind a zero byte.
def cutLogins : List (NameCall ℚ) :=
  [.placeAfterLogin (spawnAs [97, 0, 98]) 1 [], .placeAfterLogin (spawnAs [97, 0, 99]) 2 []]

theorem sameShown : ¬ Always (nameStep ownAccounts) (NamesMatch ownAccounts) nameless cutLogins := by
  let shown (g : Int) := (lookup (run (nameStep ownAccounts) nameless cutLogins).field.playerList g).map
    (fun player => (player.getPlayerName, player.authPlayerId))
  have first : shown 1 = some ([97], 1) := by decide +kernel
  have second : shown 2 = some ([97], 2) := by decide +kernel
  intro always
  have matched := always cutLogins [] rfl
  obtain ⟨player, here, facts⟩ := Option.map_eq_some_iff.mp first
  obtain ⟨other, there, alike⟩ := Option.map_eq_some_iff.mp second
  obtain ⟨name, account⟩ := Prod.mk.inj facts
  obtain ⟨same, account'⟩ := Prod.mk.inj alike
  have one := matched.apart 1 2 player other ⟨here, by rw [account]; decide⟩ ⟨there, by rw [account']; decide⟩
    (name.trans same.symm)
  exact absurd one (by decide)

def plainCalls : List (NameCall ℚ) :=
  [.placeAfterLogin (spawnAs [97]) 1 [], .operatorSetPlayerName 1 [32, 98], .removeAfterLogout 1]

theorem plainShown : Always (nameStep ownAccounts) (NamesMatch ownAccounts) nameless plainCalls := by
  refine (namesMatchExact ownAccounts rfl rfl plainCalls).mpr ?_
  refine (alongCons _).mpr ⟨?_, (alongCons _).mpr ⟨?_, (alongCons _).mpr ⟨trivial, ?_⟩⟩⟩
  · intro auth g account _ _ _ _
    obtain rfl := Option.some.inj account
    decide +kernel
  · exact fun _ => by decide
  · exact alongNil _ _ _

end SeedOrigin.PlayerNames
