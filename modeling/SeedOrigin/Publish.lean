import SeedOrigin.ClientConnection
import SeedOrigin.Conversions
import SeedOrigin.UpdateBuilder
import SeedOrigin.Rounds
import SeedOrigin.Maps

/-! publishWorldUpdates over all connections. The loops stop at the first
connection that cannot take an update. -/
namespace SeedOrigin.Publish
open SeedOrigin.Octets SeedOrigin.Numbers SeedOrigin.UpdateWire SeedOrigin.ClientInput
open SeedOrigin.UpdateBuilder SeedOrigin.Sessions SeedOrigin.ClientConnection SeedOrigin.Maps
open SeedOrigin.Conversions

section
variable {F : Type} [FloatOps F] (lifecycle : SessionLifecycle) (ownerAcks : List (MovementAck F))

def personalFrame (connectionId : Nat) (update : WorldUpdate) : Except String Bytes := do
  let personalized ← copyWorldUpdateForSession update (lifecycle.sessionId connectionId) ownerAcks
  encodeWorldUpdateFrame personalized

def publishTo (update : WorldUpdate) : List Nat → ConnectionMap ClientSession → Nat →
    ConnectionMap ClientSession × Nat × Except String Unit
  | [], clients, published => (clients, published, .ok ())
  | id :: ids, clients, published =>
    if lifecycle.hasSession id = false then publishTo update ids clients published
    else match clients[id]? with
      | none => publishTo update ids clients published
      | some session => match personalFrame lifecycle ownerAcks id update with
        | .error e => (clients, published, .error e)
        | .ok frame => match session.enqueueFrame frame with
          | .error e => (clients, published, .error e)
          | .ok session => publishTo update ids (clients.insert id session) (published + 1)

def publishAll : List WorldUpdate → List Nat → ConnectionMap ClientSession → Nat →
    ConnectionMap ClientSession × Nat × Except String Unit
  | [], _, clients, published => (clients, published, .ok ())
  | update :: updates, ids, clients, published =>
    match publishTo lifecycle ownerAcks update ids clients published with
    | (clients, published, .error e) => (clients, published, .error e)
    | (clients, published, .ok _) => publishAll updates ids clients published

def publishWorldUpdates (running : Bool) (clients : ConnectionMap ClientSession)
    (updates : List WorldUpdate) : ConnectionMap ClientSession × Nat × Except String Unit :=
  if running = false then (clients, 0, .error "server runtime is stopped")
  else publishAll lifecycle ownerAcks updates clients.keys clients 0

def take (update : WorldUpdate) (id : Nat) : Option ClientSession → Option (Option ClientSession)
  | none => some none
  | some session =>
    if lifecycle.hasSession id = false then some (some session)
    else match personalFrame lifecycle ownerAcks id update with
      | .error _ => none
      | .ok frame => match session.enqueueFrame frame with
        | .error _ => none
        | .ok session => some (some session)

theorem publishToOffer (update : WorldUpdate) (ids : List Nat) (clients : ConnectionMap ClientSession)
    (published : Nat) :
    Rounds.offer (take lifecycle ownerAcks) update ids (lookup clients) =
      (lookup (publishTo lifecycle ownerAcks update ids clients published).1,
        (publishTo lifecycle ownerAcks update ids clients published).2.2.toBool) := by
  induction ids generalizing clients published with
  | nil => rfl
  | cons id ids ih =>
    simp only [Rounds.offer, publishTo]
    cases found : clients[id]? with
    | none =>
      have absent : lookup clients id = none := found
      simp only [absent, take]
      rw [← absent, Function.update_eq_self, ite_self]
      exact ih clients published
    | some session =>
      have present : lookup clients id = some session := found
      simp only [present, take]
      by_cases loggedIn : lifecycle.hasSession id = false
      · simp only [if_pos loggedIn]
        rw [← present, Function.update_eq_self]
        exact ih clients published
      · simp only [if_neg loggedIn]
        cases personalFrame lifecycle ownerAcks id update with
        | error e => rfl
        | ok frame =>
          cases enqueued : session.enqueueFrame frame with
          | error e => simp [enqueued, Except.toBool]
          | ok next =>
            simp only [enqueued]
            rw [← lookupInsert]
            exact ih (clients.insert id next) (published + 1)

theorem publishAllRounds (updates : List WorldUpdate) (ids : List Nat)
    (clients : ConnectionMap ClientSession) (published : Nat) :
    (Rounds.rounds (take lifecycle ownerAcks) updates ids (lookup clients)).1 =
      lookup (publishAll lifecycle ownerAcks updates ids clients published).1 := by
  induction updates generalizing clients published with
  | nil => rfl
  | cons update updates ih =>
    simp only [Rounds.rounds, publishAll, publishToOffer lifecycle ownerAcks update ids clients published]
    rcases publishTo lifecycle ownerAcks update ids clients published with ⟨after, count, e | _⟩
    · rfl
    · exact ih after count

def Takes (id : Nat) (updates : List WorldUpdate) (session : ClientSession) : Prop :=
  lifecycle.hasSession id = true → updates ≠ [] →
    session.isOpen = true ∧
    (∀ update ∈ updates, ∃ frame, personalFrame lifecycle ownerAcks id update = .ok frame ∧
      frame.length ≤ maxOutboundFrameSize) ∧
    session.outboundFrames.length + updates.length ≤ maxOutboundFrames

theorem personalHeader {id : Nat} {update : WorldUpdate} {frame : Bytes}
    (h : personalFrame lifecycle ownerAcks id update = .ok frame) :
    CommandWire.frameHeaderSize ≤ frame.length := by
  unfold personalFrame at h
  cases copied : copyWorldUpdateForSession update (lifecycle.sessionId id) ownerAcks with
  | error e => simp [copied, bind, Except.bind] at h
  | ok personalized =>
    simp only [copied, bind, Except.bind] at h
    obtain ⟨-, rfl⟩ := (encodeExact personalized frame).mp h
    rw [updateLength, worldUpdateFrameHeaderSize, CommandWire.frameHeaderSize]
    omega

theorem enqueueFrameExact (session next : ClientSession) (frame : Bytes) :
    session.enqueueFrame frame = .ok next ↔ session.isOpen = true ∧
      (CommandWire.frameHeaderSize ≤ frame.length ∧ frame.length ≤ maxOutboundFrameSize) ∧
      session.outboundFrames.length < maxOutboundFrames ∧
      next = { session with outboundFrames := session.outboundFrames ++ [frame] } := by
  unfold ClientSession.enqueueFrame
  by_cases closed : session.isOpen = false
  · simp [closed]
  · have isOpen : session.isOpen = true := by simpa using closed
    rw [if_neg closed]
    cases queued : enqueue session.outboundFrames frame with
    | error e =>
      simp only [Except.map, reduceCtorEq, false_iff]
      rintro ⟨-, size, room, -⟩
      rw [(enqueueExact _ _ _).mpr ⟨size, room, rfl⟩] at queued
      contradiction
    | ok frames =>
      obtain ⟨size, room, rfl⟩ := (enqueueExact _ _ _).mp queued
      simp [Except.map, isOpen, size, room, eq_comm]

theorem servedOut {id : Nat} (out : lifecycle.hasSession id = false) (updates : List WorldUpdate)
    (session : Option ClientSession) :
    Rounds.served (take lifecycle ownerAcks) id updates session = some session := by
  induction updates with
  | nil => rfl
  | cons update updates ih =>
    have same : take lifecycle ownerAcks update id session = some session := by
      cases session with
      | none => rfl
      | some session => simp only [take, if_pos out]
    rw [Rounds.served, same, Option.bind_some, ih]

theorem servedIn {id : Nat} (loggedIn : lifecycle.hasSession id = true) (updates : List WorldUpdate)
    (session : ClientSession) (final : Option ClientSession) :
    Rounds.served (take lifecycle ownerAcks) id updates (some session) = some final ↔
      Takes lifecycle ownerAcks id updates session ∧
      ∃ frames, updates.mapM (personalFrame lifecycle ownerAcks id) = .ok frames ∧
        final = some { session with outboundFrames := session.outboundFrames ++ frames } := by
  have inside : ¬ lifecycle.hasSession id = false := by simp [loggedIn]
  induction updates generalizing session with
  | nil =>
    simp only [Rounds.served, Takes, List.mapM_nil, pure, Except.pure, Except.ok.injEq,
      exists_eq_left', List.append_nil, ne_eq, not_true_eq_false, false_implies, implies_true,
      true_and, Option.some.injEq]
    exact eq_comm
  | cons update updates ih =>
    rw [List.mapM_cons]
    simp only [Rounds.served, take, if_neg inside]
    cases made : personalFrame lifecycle ownerAcks id update with
    | error e =>
      simp only [Option.bind_none, reduceCtorEq, bind, Except.bind, false_and, exists_false,
        and_false]
    | ok frame =>
      have header := personalHeader lifecycle ownerAcks made
      dsimp only
      cases queued : session.enqueueFrame frame with
      | error e =>
        simp only [Option.bind_none, reduceCtorEq, false_iff]
        rintro ⟨takes, -⟩
        obtain ⟨isOpen, sizes, room⟩ := takes loggedIn (List.cons_ne_nil _ _)
        obtain ⟨frame', made', size⟩ := sizes update List.mem_cons_self
        obtain rfl : frame = frame' := Except.ok.inj (made.symm.trans made')
        simp only [List.length_cons] at room
        rw [(enqueueFrameExact _ _ _).mpr ⟨isOpen, ⟨header, size⟩, by omega, rfl⟩] at queued
        contradiction
      | ok next =>
        obtain ⟨isOpen, ⟨-, size⟩, room, rfl⟩ := (enqueueFrameExact _ _ _).mp queued
        have rest := ih { session with outboundFrames := session.outboundFrames ++ [frame] }
        simp only [Option.bind_some, rest, bind, Except.bind]
        have takes : Takes lifecycle ownerAcks id updates
            { session with outboundFrames := session.outboundFrames ++ [frame] } ↔
            Takes lifecycle ownerAcks id (update :: updates) session := by
          constructor
          · intro later _ _
            by_cases none : updates = []
            · subst none
              exact ⟨isOpen, by simpa using ⟨frame, made, size⟩, by simpa using room⟩
            · obtain ⟨-, sizes, more⟩ := later loggedIn none
              refine ⟨isOpen, List.forall_mem_cons.mpr ⟨⟨frame, made, size⟩, sizes⟩, ?_⟩
              simp only [List.length_append, List.length_cons, List.length_nil] at more ⊢
              omega
          · intro all _ _
            obtain ⟨-, sizes, more⟩ := all loggedIn (List.cons_ne_nil _ _)
            refine ⟨isOpen, (List.forall_mem_cons.mp sizes).2, ?_⟩
            simp only [List.length_append, List.length_cons, List.length_nil] at more ⊢
            omega
        rw [takes]
        refine and_congr_right (fun _ => ?_)
        cases later : updates.mapM (personalFrame lifecycle ownerAcks id) with
        | error e => simp
        | ok frames => simp [pure, Except.pure]

theorem servedTakes (id : Nat) (updates : List WorldUpdate) (session : ClientSession) :
    (Rounds.served (take lifecycle ownerAcks) id updates (some session)).isSome ↔
      Takes lifecycle ownerAcks id updates session := by
  by_cases out : lifecycle.hasSession id = false
  · simp [servedOut lifecycle ownerAcks out, Takes, out]
  · have loggedIn : lifecycle.hasSession id = true := by simpa using out
    rw [Option.isSome_iff_exists]
    constructor
    · rintro ⟨final, h⟩
      exact ((servedIn lifecycle ownerAcks loggedIn updates session final).mp h).1
    · intro takes
      have all : ∃ frames, updates.mapM (personalFrame lifecycle ownerAcks id) = .ok frames := by
        by_cases none : updates = []
        · exact ⟨[], by rw [none]; rfl⟩
        · exact mapMOk (fun u hu => (takes loggedIn none).2.1 u hu |>.imp fun _ h => h.1)
      obtain ⟨frames, made⟩ := all
      exact ⟨_, (servedIn lifecycle ownerAcks loggedIn updates session _).mpr
        ⟨takes, frames, made, rfl⟩⟩

theorem publishedEarly (clients : ConnectionMap ClientSession) (updates : List WorldUpdate) {id : Nat}
    {session : ClientSession} (here : clients[id]? = some session) (published : Nat) :
    ∃ early late, updates = early ++ late ∧
      Rounds.served (take lifecycle ownerAcks) id early (some session) =
        some ((publishAll lifecycle ownerAcks updates clients.keys clients published).1[id]?) := by
  have mem : id ∈ clients.keys := by
    rw [Std.ExtTreeMap.mem_keys, Std.ExtTreeMap.mem_iff_isSome_getElem?, here]
    rfl
  obtain ⟨early, late, split, first⟩ := Rounds.roundsPrefix (take lifecycle ownerAcks)
    (keysNodup clients) updates (lookup clients) id mem
  have start : lookup clients id = some session := here
  rw [publishAllRounds lifecycle ownerAcks updates clients.keys clients published, start] at first
  exact ⟨early, late, split, first⟩

def Delivered (running : Bool) (clients : ConnectionMap ClientSession) (updates : List WorldUpdate)
    (id : Nat) (session : ClientSession) : Prop :=
  ∃ frames, updates.mapM (personalFrame lifecycle ownerAcks id) = .ok frames ∧
    (publishWorldUpdates lifecycle ownerAcks running clients updates).1[id]? =
      some { session with outboundFrames := session.outboundFrames ++ frames }

def Entitled (clients : ConnectionMap ClientSession) (updates : List WorldUpdate) (id : Nat)
    (session : ClientSession) : Prop :=
  clients[id]? = some session ∧ lifecycle.hasSession id = true ∧ session.isOpen = true ∧
    session.outboundFrames.length + updates.length ≤ maxOutboundFrames

def Unobstructed (running : Bool) (clients : ConnectionMap ClientSession)
    (updates : List WorldUpdate) (id : Nat) : Prop :=
  (updates = [] ∨ running = true) ∧
    (∀ j other, clients[j]? = some other → Takes lifecycle ownerAcks j updates.dropLast other) ∧
    ∀ j other, j ≤ id → clients[j]? = some other → Takes lifecycle ownerAcks j updates other

end

section
variable {F : Type} [FloatOps F] {lifecycle : SessionLifecycle} {ownerAcks : List (MovementAck F)}
  {clients : ConnectionMap ClientSession} {updates : List WorldUpdate} {id : Nat}
  {session : ClientSession}

theorem servedLength (loggedIn : lifecycle.hasSession id = true) {early : List WorldUpdate}
    {frames : List Bytes} (h : Rounds.served (take lifecycle ownerAcks) id early (some session) =
      some (some { session with outboundFrames := session.outboundFrames ++ frames })) :
    early.length = frames.length := by
  obtain ⟨-, made, ok, same⟩ := (servedIn lifecycle ownerAcks loggedIn early session _).mp h
  have queues := congrArg ClientSession.outboundFrames (Option.some.inj same)
  rw [List.append_cancel_left queues, mapMLength ok]

theorem deliveredServed (entitled : Entitled lifecycle clients updates id session) :
    Delivered lifecycle ownerAcks true clients updates id session →
    Takes lifecycle ownerAcks id updates session := by
  rintro ⟨frames, made, final⟩
  obtain ⟨here, loggedIn, -, -⟩ := entitled
  simp only [publishWorldUpdates, Bool.true_eq_false, if_false] at final
  obtain ⟨early, late, split, first⟩ := publishedEarly lifecycle ownerAcks clients updates here 0
  rw [final] at first
  have count := servedLength loggedIn first
  rw [mapMLength made, split, List.length_append] at count
  have none : late = [] := List.eq_nil_of_length_eq_zero (by omega)
  rw [none, List.append_nil] at split
  rw [← split] at first
  exact ((servedIn lifecycle ownerAcks loggedIn updates session _).mp first).1

theorem deliveredRunning (entitled : Entitled lifecycle clients updates id session) :
    Delivered lifecycle ownerAcks true clients updates id session ↔
      Unobstructed lifecycle ownerAcks true clients updates id := by
  have takes : Delivered lifecycle ownerAcks true clients updates id session → _ :=
    deliveredServed entitled
  obtain ⟨here, loggedIn, isOpen, room⟩ := entitled
  have mem : id ∈ clients := by
    rw [Std.ExtTreeMap.mem_iff_isSome_getElem?, here]
    rfl
  obtain ⟨front, back, split, smaller⟩ := keysSplit mem
  by_cases own : Takes lifecycle ownerAcks id updates session
  · -- the connection could be served alone, so only the others decide
    obtain ⟨final, all⟩ := Option.isSome_iff_exists.mp
      ((servedTakes lifecycle ownerAcks id updates session).mpr own)
    obtain ⟨-, frames, made, rfl⟩ := (servedIn lifecycle ownerAcks loggedIn updates session _).mp all
    have start : lookup clients id = some session := here
    have nodup := keysNodup clients
    rw [split] at nodup
    rw [← start] at all
    have exact := Rounds.roundsExact (take lifecycle ownerAcks) nodup updates (lookup clients) all
      (by
        intro early late parts nonempty same
        rw [start] at same
        have count := servedLength loggedIn same
        rw [mapMLength made, parts, List.length_append] at count
        exact nonempty (List.eq_nil_of_length_eq_zero (by omega)))
    rw [← split, publishAllRounds lifecycle ownerAcks updates clients.keys clients 0] at exact
    have whole : Delivered lifecycle ownerAcks true clients updates id session ↔
        lookup (publishAll lifecycle ownerAcks updates clients.keys clients 0).1 id =
          some { session with outboundFrames := session.outboundFrames ++ frames } := by
      unfold Delivered
      simp only [publishWorldUpdates, Bool.true_eq_false, if_false, made, Except.ok.injEq,
        exists_eq_left', lookup]
    have isClient {j : Nat} : j ∈ clients.keys ↔ ∃ other, clients[j]? = some other := by
      rw [Std.ExtTreeMap.mem_keys, Std.ExtTreeMap.mem_iff_isSome_getElem?,
        Option.isSome_iff_exists]
    rw [whole, exact]
    constructor
    · rintro ⟨most, last⟩
      refine ⟨.inr rfl, ?_, ?_⟩
      · intro j other there
        have can := most j (isClient.mpr ⟨other, there⟩)
        rw [show lookup clients j = some other from there] at can
        exact (servedTakes lifecycle ownerAcks j _ other).mp can
      · intro j other upTo there
        rcases Nat.lt_or_eq_of_le upTo with below | rfl
        · have can := last j ((smaller j).mpr
            ⟨Std.ExtTreeMap.mem_keys.mp (isClient.mpr ⟨other, there⟩), below⟩)
          rw [show lookup clients j = some other from there] at can
          exact (servedTakes lifecycle ownerAcks j _ other).mp can
        · rw [here] at there
          cases there
          exact own
    · rintro ⟨-, most, last⟩
      refine ⟨?_, ?_⟩
      · intro j listed
        obtain ⟨other, there⟩ := isClient.mp listed
        rw [show lookup clients j = some other from there]
        exact (servedTakes lifecycle ownerAcks j _ other).mpr (most j other there)
      · intro j inFront
        obtain ⟨isMem, below⟩ := (smaller j).mp inFront
        obtain ⟨other, there⟩ := isClient.mp (Std.ExtTreeMap.mem_keys.mpr isMem)
        rw [show lookup clients j = some other from there]
        exact (servedTakes lifecycle ownerAcks j _ other).mpr
          (last j other (Nat.le_of_lt below) there)
  · exact ⟨fun delivered => absurd (takes delivered) own,
      fun free => absurd (free.2.2 id session (Nat.le_refl id) here) own⟩

theorem publishExact (running : Bool) (entitled : Entitled lifecycle clients updates id session) :
    Delivered lifecycle ownerAcks running clients updates id session ↔
      Unobstructed lifecycle ownerAcks running clients updates id := by
  cases running with
  | true => exact deliveredRunning entitled
  | false =>
    have here := entitled.1
    unfold Delivered Unobstructed
    simp only [publishWorldUpdates, if_true, here, Bool.false_eq_true, or_false]
    constructor
    · rintro ⟨frames, made, same⟩
      have queues := congrArg ClientSession.outboundFrames (Option.some.inj same)
      have none : frames = [] := by simpa using queues
      have empty : updates = [] := by
        apply List.eq_nil_of_length_eq_zero
        rw [← mapMLength made, none]
        rfl
      subst empty
      exact ⟨rfl, fun j other _ _ h => absurd rfl h, fun j other _ _ _ h => absurd rfl h⟩
    · rintro ⟨rfl, -, -⟩
      exact ⟨[], rfl, by simp⟩

end

def chatEvent : WorldUpdate := ⟨1, .event, 1, 1, 1, ascii "chat=sender:1;audience:all;message:hi"⟩

def twoSessions : SessionLifecycle := ⟨((∅ : ConnectionMap Int).insert 1 1).insert 2 2⟩

def fullSession : ClientSession := { outboundFrames := List.replicate maxOutboundFrames (be 16 0) }

def fullThenIdle : ConnectionMap ClientSession :=
  ((∅ : ConnectionMap ClientSession).insert 1 fullSession).insert 2 {}

def busyThenIdle : ConnectionMap ClientSession :=
  (((∅ : ConnectionMap ClientSession).insert 1 { outboundFrames := List.replicate 250 (be 16 0) }).insert 2
    {}).insert 3 fullSession

def chats : List WorldUpdate := (List.range' 1 6).map (fun n =>
  ⟨1, .event, 1, UInt64.ofNat n, UInt64.ofNat n, ascii "chat=sender:1;audience:all;message:hi"⟩)

theorem framedWithin {made : Except String Bytes} {n : Nat}
    (small : (made.toOption.any fun frame => frame.length ≤ n) = true) :
    ∃ frame, made = .ok frame ∧ frame.length ≤ n := by
  cases made with
  | error e => exact absurd small (by simp [Except.toOption])
  | ok frame => exact ⟨frame, rfl, by simpa [Except.toOption] using small⟩

theorem busyTakes {j : Nat} {other : ClientSession} (there : busyThenIdle[j]? = some other)
    {updates : List WorldUpdate} (some : updates.Sublist chats) :
    Takes twoSessions ([] : List (MovementAck ℚ)) j updates other := by
  have all : ∀ entry ∈ busyThenIdle.toList, twoSessions.hasSession entry.1 = true →
      entry.2.isOpen = true ∧ entry.2.outboundFrames.length + chats.length ≤ maxOutboundFrames ∧
      ∀ update ∈ chats, ((personalFrame twoSessions ([] : List (MovementAck ℚ)) entry.1 update).toOption.any
        fun frame => frame.length ≤ maxOutboundFrameSize) = true := by decide +kernel
  intro loggedIn _
  obtain ⟨isOpen, room, frames⟩ :=
    all (j, other) (Std.ExtTreeMap.mem_toList_iff_getElem?_eq_some.mpr there) loggedIn
  have fewer := some.length_le
  dsimp only at room
  exact ⟨isOpen, fun update listed => framedWithin (frames update (some.subset listed)), by omega⟩

theorem chatsDelivered :
    Delivered twoSessions ([] : List (MovementAck ℚ)) true busyThenIdle chats 2 {} := by
  have entitled : Entitled twoSessions busyThenIdle chats 2 {} :=
    ⟨by decide +kernel, by decide +kernel, rfl, by decide⟩
  exact (publishExact true entitled).mpr ⟨.inr rfl,
    fun j other there => busyTakes there (List.dropLast_sublist _),
    fun j other _ there => busyTakes there (List.Sublist.refl _)⟩

-- A full first connection keeps an update from the idle second one.
theorem fullQueueStarvesNext :
    Entitled twoSessions fullThenIdle [chatEvent] 2 {} ∧
    ¬ Delivered twoSessions ([] : List (MovementAck ℚ)) true fullThenIdle [chatEvent] 2 {} := by
  have entitled : Entitled twoSessions fullThenIdle [chatEvent] 2 {} := by
    refine ⟨?_, ?_, rfl, by decide⟩
    · simp [fullThenIdle]
    · simp [twoSessions, SessionLifecycle.hasSession]
  refine ⟨entitled, ?_⟩
  rw [deliveredRunning entitled]
  rintro ⟨-, -, last⟩
  have first : fullThenIdle[1]? = some fullSession := by
    rw [fullThenIdle, Std.ExtTreeMap.getElem?_insert, if_neg (by decide)]
    exact Std.ExtTreeMap.getElem?_insert_self
  have loggedIn : twoSessions.hasSession 1 = true := by
    simp [twoSessions, SessionLifecycle.hasSession]
  obtain ⟨-, -, room⟩ := last 1 fullSession (by decide) first loggedIn (List.cons_ne_nil _ _)
  simp [fullSession] at room

end SeedOrigin.Publish
