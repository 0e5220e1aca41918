import Mathlib.Data.List.Pairwise
import SeedOrigin.CommandDispatch
import SeedOrigin.Maps

/-! CommandRateLimiter over a run: how many commands of a type it admits from a
session while a tick is current, and that other sessions have no part in it. -/
namespace SeedOrigin.RateLimits
open SeedOrigin.Octets SeedOrigin.ClientInput SeedOrigin.CommandWire SeedOrigin.CommandDispatch
open SeedOrigin.Maps

inductive LimiterCall where
  | beginFrame (worldTick : UInt64)
  | allow (sessionId : Int) (type : CommandType)
  | forgetSession (sessionId : Int)
  deriving DecidableEq

structure Answer where
  tick : UInt64
  sessionId : Int
  type : CommandType
  admitted : Bool
  deriving DecidableEq

def answers (limiter : CommandRateLimiter) (tick : UInt64) : List LimiterCall → List Answer
  | [] => []
  | .beginFrame worldTick :: calls => answers (limiter.beginFrame worldTick) worldTick calls
  | .allow sessionId type :: calls =>
    ⟨tick, sessionId, type, (limiter.allow sessionId type).2⟩ ::
      answers (limiter.allow sessionId type).1 tick calls
  | .forgetSession sessionId :: calls => answers (limiter.forgetSession sessionId) tick calls

def served (calls : List LimiterCall) : List Answer := answers {} 0 calls

def asked (log : List Answer) (s : Int) (k : CommandType) (t : UInt64) : Nat :=
  log.countP (fun a => a.tick = t ∧ a.sessionId = s ∧ a.type = k)

def admitted (log : List Answer) (s : Int) (k : CommandType) (t : UInt64) : Nat :=
  log.countP (fun a => (a.tick = t ∧ a.sessionId = s ∧ a.type = k) ∧ a.admitted = true)

def begun (calls : List LimiterCall) : List UInt64 :=
  calls.filterMap (fun call => match call with
    | .beginFrame worldTick => some worldTick
    | _ => none)

def Rising (calls : List LimiterCall) : Prop := (begun calls).Pairwise (· ≤ ·)

def Ended (calls : List LimiterCall) : Prop :=
  ∀ before s after, calls = before ++ .forgetSession s :: after → ∀ k, .allow s k ∉ after

def concerns (s : Int) : LimiterCall → Bool
  | .beginFrame _ => true
  | .allow sessionId _ => sessionId = s
  | .forgetSession sessionId => sessionId = s

def used (limiter : CommandRateLimiter) (s : Int) (k : CommandType) : Nat :=
  if slot : k.code.toNat < rateSlots then limiter.counters.getD s (fun _ => 0) ⟨k.code.toNat, slot⟩
  else 0

theorem limitedSlot {k : CommandType} (limited : limitFor k ≠ 0) : k.code.toNat < rateSlots := by
  cases k with
  | unknown code => exact absurd rfl limited
  | _ => decide

theorem limitedApart {k l : CommandType} (left : limitFor k ≠ 0) (right : limitFor l ≠ 0)
    (same : k.code = l.code) : k = l := by
  cases k <;> cases l <;> first
    | rfl
    | exact absurd rfl left
    | exact absurd rfl right
    | exact absurd same (by decide)

theorem allowRefused {limiter : CommandRateLimiter} {s : Int} {k : CommandType}
    (refused : s ≤ 0 ∨ limitFor k = 0) : limiter.allow s k = (limiter, false) := by
  unfold CommandRateLimiter.allow
  split
  · rfl
  · rename_i positive
    rw [dif_neg]
    rintro ⟨-, limited⟩
    exact refused.elim positive limited

theorem allowLimited (limiter : CommandRateLimiter) {s : Int} {k : CommandType} (positive : 0 < s)
    (limited : limitFor k ≠ 0) :
    (limiter.allow s k).2 = decide (used limiter s k < limitFor k) ∧
      used (limiter.allow s k).1 s k =
        if used limiter s k < limitFor k then used limiter s k + 1 else used limiter s k := by
  have slot := limitedSlot limited
  unfold CommandRateLimiter.allow used
  rw [if_neg (by omega), dif_pos ⟨slot, limited⟩, dif_pos slot, dif_pos slot]
  dsimp only
  split
  · rename_i full
    rw [if_neg (by omega)]
    exact ⟨(decide_eq_false (by omega)).symm, rfl⟩
  · rename_i room
    rw [if_pos (by omega)]
    refine ⟨(decide_eq_true (by omega)).symm, ?_⟩
    rw [Std.ExtTreeMap.getD_insert_self, Function.update_self]

theorem allowTick (limiter : CommandRateLimiter) (s : Int) (k : CommandType) :
    (limiter.allow s k).1.currentTick = limiter.currentTick := by
  unfold CommandRateLimiter.allow
  split
  · rfl
  · split
    · dsimp only
      split <;> rfl
    · rfl

theorem allowApart (limiter : CommandRateLimiter) {s r : Int} {k l : CommandType}
    (limited : limitFor k ≠ 0) (apart : ¬ (r = s ∧ l = k)) :
    used (limiter.allow r l).1 s k = used limiter s k := by
  have slot := limitedSlot limited
  unfold CommandRateLimiter.allow
  split
  · rfl
  · split
    · rename_i other
      dsimp only
      split
      · rfl
      · unfold used
        rw [dif_pos slot, dif_pos slot]
        dsimp only
        rw [Std.ExtTreeMap.getD_insert]
        split
        · rename_i same
          obtain rfl := Std.LawfulEqOrd.compare_eq_iff_eq.mp same
          rw [Function.update_of_ne]
          intro index
          refine apart ⟨rfl, limitedApart other.2 limited ?_⟩
          exact (UInt16.toNat.inj (Fin.mk.inj index)).symm
        · rfl
    · rfl

theorem frameUsed (limiter : CommandRateLimiter) (worldTick : UInt64) (s : Int) (k : CommandType) :
    used (limiter.beginFrame worldTick) s k =
      if worldTick = limiter.currentTick then used limiter s k else 0 := by
  unfold CommandRateLimiter.beginFrame
  split
  · rfl
  · unfold used
    split
    · rw [Std.ExtTreeMap.getD_eq_getD_getElem?, Std.ExtTreeMap.getElem?_map]
      cases limiter.counters[s]? <;> rfl
    · rfl

theorem frameTick (limiter : CommandRateLimiter) (worldTick : UInt64) :
    (limiter.beginFrame worldTick).currentTick = worldTick := by
  unfold CommandRateLimiter.beginFrame
  split
  · rename_i same
    exact same.symm
  · rfl

theorem forgetApart (limiter : CommandRateLimiter) {s r : Int} (apart : r ≠ s) (k : CommandType) :
    used (limiter.forgetSession r) s k = used limiter s k := by
  unfold used CommandRateLimiter.forgetSession
  split
  · dsimp only
    rw [Std.ExtTreeMap.getD_erase, if_neg (by simpa using apart)]
  · rfl

theorem admittedAsked (log : List Answer) (s : Int) (k : CommandType) (t : UInt64) :
    admitted log s k t ≤ asked log s k t := by
  refine List.countP_mono_left (fun a _ both => ?_)
  simp only [decide_eq_true_eq] at both ⊢
  exact both.1

theorem answersLater {limiter : CommandRateLimiter} {tick : UInt64} {calls : List LimiterCall}
    (rising : (tick :: begun calls).Pairwise (· ≤ ·)) : ∀ a ∈ answers limiter tick calls, tick ≤ a.tick := by
  induction calls generalizing limiter tick with
  | nil => exact nofun
  | cons call calls ih =>
    cases call with
    | beginFrame worldTick =>
      intro a there
      obtain ⟨low, later⟩ := List.pairwise_cons.mp rising
      exact UInt64.le_trans (low worldTick List.mem_cons_self) (ih later a there)
    | allow r l =>
      intro a there
      rcases List.mem_cons.mp there with rfl | there
      · exact UInt64.le_refl tick
      · exact ih rising a there
    | forgetSession r => exact ih rising

theorem askedEarlier {limiter : CommandRateLimiter} {tick t : UInt64} {calls : List LimiterCall}
    (rising : (tick :: begun calls).Pairwise (· ≤ ·)) (earlier : t < tick) (s : Int) (k : CommandType) :
    asked (answers limiter tick calls) s k t = 0 := by
  refine List.countP_eq_zero.mpr (fun a there => ?_)
  have later := answersLater rising a there
  simp only [decide_eq_true_eq]
  rintro ⟨rfl, -⟩
  exact UInt64.not_lt.mpr later earlier

theorem askedGone {limiter : CommandRateLimiter} {tick : UInt64} {calls : List LimiterCall} {s : Int}
    {k : CommandType} (gone : .allow s k ∉ calls) (t : UInt64) :
    asked (answers limiter tick calls) s k t = 0 := by
  induction calls generalizing limiter tick with
  | nil => rfl
  | cons call calls ih =>
    have other := List.ne_of_not_mem_cons gone
    have later := List.not_mem_of_not_mem_cons gone
    cases call with
    | beginFrame worldTick => exact ih later
    | forgetSession r => exact ih later
    | allow r l =>
      unfold asked answers
      rw [List.countP_cons_of_neg]
      · exact ih later
      · simp only [decide_eq_true_eq]
        rintro ⟨-, rfl, rfl⟩
        exact other rfl

theorem endedTail {call : LimiterCall} {calls : List LimiterCall} (ended : Ended (call :: calls)) :
    Ended calls :=
  fun before s after split => ended (call :: before) s after (by rw [split]; rfl)

theorem admittedLeft {s : Int} {k : CommandType} (positive : 0 < s) (limited : limitFor k ≠ 0)
    {limiter : CommandRateLimiter} {tick : UInt64} {calls : List LimiterCall}
    (current : limiter.currentTick = tick) (rising : (tick :: begun calls).Pairwise (· ≤ ·))
    (ended : Ended calls) (below : used limiter s k ≤ limitFor k) (t : UInt64) :
    admitted (answers limiter tick calls) s k t =
      min (asked (answers limiter tick calls) s k t)
        (limitFor k - if t = tick then used limiter s k else 0) := by
  induction calls generalizing limiter tick with
  | nil => simp [answers, admitted, asked]
  | cons call calls ih =>
    have none (silent : asked (answers limiter tick (call :: calls)) s k t = 0) :
        admitted (answers limiter tick (call :: calls)) s k t =
          min (asked (answers limiter tick (call :: calls)) s k t)
            (limitFor k - if t = tick then used limiter s k else 0) := by
      have most := admittedAsked (answers limiter tick (call :: calls)) s k t
      omega
    cases call with
    | beginFrame worldTick =>
      obtain ⟨low, later⟩ := List.pairwise_cons.mp rising
      have next := frameUsed limiter worldTick s k
      rw [current] at next
      by_cases same : worldTick = tick
      · subst same
        rw [if_pos rfl] at next
        have rest := ih (frameTick limiter worldTick) later (endedTail ended) (by omega)
        rw [next] at rest
        exact rest
      · rw [if_neg same] at next
        have rest := ih (frameTick limiter worldTick) later (endedTail ended) (by omega)
        rw [next] at rest
        by_cases now : t = tick
        · have less : t < worldTick := by
            rw [now]
            exact UInt64.lt_of_le_of_ne (low worldTick List.mem_cons_self) (Ne.symm same)
          exact none (askedEarlier later less s k)
        · rw [if_neg now]
          simpa [answers] using rest
    | forgetSession r =>
      by_cases same : r = s
      · subst same
        exact none (askedGone (ended [] r calls rfl k) t)
      · have next := forgetApart limiter same k
        have rest := @ih (limiter.forgetSession r) tick current rising (endedTail ended) (by omega)
        rw [next] at rest
        exact rest
    | allow r l =>
      have tick' : (limiter.allow r l).1.currentTick = tick := (allowTick limiter r l).trans current
      by_cases same : r = s ∧ l = k
      · obtain ⟨rfl, rfl⟩ := same
        obtain ⟨verdict, next⟩ := allowLimited limiter positive limited
        have rest := ih tick' rising (endedTail ended) (by rw [next]; split <;> omega)
        rw [next] at rest
        simp only [answers, asked, admitted, List.countP_cons, verdict, and_self, and_true,
          decide_eq_true_eq] at rest ⊢
        by_cases now : t = tick
        · subst now
          rw [if_pos rfl] at rest ⊢
          by_cases room : used limiter r l < limitFor l
          · simp only [room, if_true, and_self] at rest ⊢
            omega
          · simp only [room, if_false, and_false] at rest ⊢
            simp only [if_true]
            omega
        · rw [if_neg now] at rest ⊢
          simp only [Ne.symm now, false_and, if_false]
          omega
      · have next := allowApart limiter limited same
        have rest := ih tick' rising (endedTail ended) (by omega)
        rw [next] at rest
        unfold admitted asked at rest ⊢
        rw [answers, List.countP_cons_of_neg, List.countP_cons_of_neg]
        · exact rest
        · simp only [decide_eq_true_eq]
          exact fun both => same both.2
        · simp only [decide_eq_true_eq]
          exact fun both => same both.1.2

theorem admittedNone {s : Int} {k : CommandType} (refused : s ≤ 0 ∨ limitFor k = 0)
    (limiter : CommandRateLimiter) (tick : UInt64) (calls : List LimiterCall) (t : UInt64) :
    admitted (answers limiter tick calls) s k t = 0 := by
  induction calls generalizing limiter tick with
  | nil => rfl
  | cons call calls ih =>
    cases call with
    | beginFrame worldTick => exact ih (limiter.beginFrame worldTick) worldTick
    | forgetSession r => exact ih (limiter.forgetSession r) tick
    | allow r l =>
      unfold admitted answers
      rw [List.countP_cons_of_neg]
      · exact ih (limiter.allow r l).1 tick
      · simp only [decide_eq_true_eq]
        rintro ⟨⟨-, rfl, rfl⟩, yes⟩
        rw [allowRefused refused] at yes
        contradiction

structure Alike (s : Int) (left right : CommandRateLimiter) : Prop where
  tick : left.currentTick = right.currentTick
  counts : lookup left.counters s = lookup right.counters s

theorem allowOther (limiter : CommandRateLimiter) {s r : Int} (apart : r ≠ s) (l : CommandType) :
    Alike s (limiter.allow r l).1 limiter := by
  refine ⟨allowTick limiter r l, ?_⟩
  unfold CommandRateLimiter.allow
  split
  · rfl
  · split
    · dsimp only
      split
      · rfl
      · rw [lookupInsert, Function.update_of_ne (Ne.symm apart)]
    · rfl

theorem forgetOther (limiter : CommandRateLimiter) {s r : Int} (apart : r ≠ s) :
    Alike s (limiter.forgetSession r) limiter := by
  refine ⟨rfl, ?_⟩
  unfold CommandRateLimiter.forgetSession
  rw [lookupErase, Function.update_of_ne (Ne.symm apart)]

theorem frameAlike {s : Int} {left right : CommandRateLimiter} (alike : Alike s left right)
    (worldTick : UInt64) : Alike s (left.beginFrame worldTick) (right.beginFrame worldTick) := by
  refine ⟨(frameTick left worldTick).trans (frameTick right worldTick).symm, ?_⟩
  unfold CommandRateLimiter.beginFrame
  rw [alike.tick]
  split
  · exact alike.counts
  · unfold lookup
    rw [Std.ExtTreeMap.getElem?_map, Std.ExtTreeMap.getElem?_map]
    exact congrArg _ alike.counts

theorem forgetAlike {s : Int} {left right : CommandRateLimiter} (alike : Alike s left right) :
    Alike s (left.forgetSession s) (right.forgetSession s) := by
  refine ⟨alike.tick, ?_⟩
  unfold CommandRateLimiter.forgetSession
  rw [lookupErase, lookupErase, Function.update_self, Function.update_self]

theorem allowAlike {s : Int} {left right : CommandRateLimiter} (alike : Alike s left right)
    (k : CommandType) : (left.allow s k).2 = (right.allow s k).2 ∧
      Alike s (left.allow s k).1 (right.allow s k).1 := by
  have counts : left.counters.getD s (fun _ => 0) = right.counters.getD s (fun _ => 0) := by
    rw [Std.ExtTreeMap.getD_eq_getD_getElem?, Std.ExtTreeMap.getD_eq_getD_getElem?]
    exact congrArg (fun found : Option (Fin rateSlots → Nat) => found.getD (fun _ => 0)) alike.counts
  unfold CommandRateLimiter.allow
  split
  · exact ⟨rfl, alike⟩
  · split
    · dsimp only
      rw [counts]
      split
      · exact ⟨rfl, alike⟩
      · refine ⟨rfl, alike.tick, ?_⟩
        rw [lookupInsert, lookupInsert, Function.update_self, Function.update_self]
    · exact ⟨rfl, alike⟩

theorem answersAlone {s : Int} {left right : CommandRateLimiter} (alike : Alike s left right)
    (tick : UInt64) (calls : List LimiterCall) :
    (answers left tick calls).filter (fun a => a.sessionId = s) =
      answers right tick (calls.filter (concerns s)) := by
  induction calls generalizing left right tick with
  | nil => rfl
  | cons call calls ih =>
    cases call with
    | beginFrame worldTick => exact ih (frameAlike alike worldTick) worldTick
    | forgetSession r =>
      by_cases same : r = s
      · subst same
        rw [List.filter_cons_of_pos (by simp [concerns])]
        exact ih (forgetAlike alike) tick
      · rw [List.filter_cons_of_neg (by simpa [concerns] using same)]
        have other := forgetOther left same
        exact ih ⟨other.tick.trans alike.tick, other.counts.trans alike.counts⟩ tick
    | allow r l =>
      by_cases same : r = s
      · subst same
        obtain ⟨verdict, next⟩ := allowAlike alike l
        rw [List.filter_cons_of_pos (a := LimiterCall.allow r l) (by simp [concerns])]
        simp only [answers, decide_true, List.filter_cons_of_pos, verdict]
        rw [ih next tick]
      · rw [List.filter_cons_of_neg (a := LimiterCall.allow r l) (by simpa [concerns] using same)]
        simp only [answers]
        rw [List.filter_cons_of_neg (by simpa using same)]
        have other := allowOther left same l
        exact ih ⟨other.tick.trans alike.tick, other.counts.trans alike.counts⟩ tick

theorem rateLimited {calls : List LimiterCall} (rising : Rising calls) (ended : Ended calls) (s : Int) :
    (∀ k t, admitted (served calls) s k t ≤ limitFor k ∧
      (0 < s → limitFor k ≤ asked (served calls) s k t →
        admitted (served calls) s k t = limitFor k)) ∧
    (served calls).filter (fun a => a.sessionId = s) = served (calls.filter (concerns s)) := by
  refine ⟨fun k t => ?_, answersAlone ⟨rfl, rfl⟩ 0 calls⟩
  by_cases refused : s ≤ 0 ∨ limitFor k = 0
  · rw [served, admittedNone refused]
    refine ⟨Nat.zero_le _, fun positive _ => ?_⟩
    omega
  · obtain ⟨positive, limited⟩ := not_or.mp refused
    have fresh : used {} s k = 0 := by
      unfold used
      split <;> simp
    have first : (0 :: begun calls).Pairwise (· ≤ ·) :=
      List.pairwise_cons.mpr ⟨fun t _ => UInt64.zero_le, rising⟩
    have below : used {} s k ≤ limitFor k := by omega
    have left : admitted (answers {} 0 calls) s k t = min (asked (answers {} 0 calls) s k t)
        (limitFor k - if t = 0 then used {} s k else 0) :=
      admittedLeft (by omega) limited rfl first ended below t
    rw [fresh] at left
    unfold served
    split at left <;> omega

def oneTick : List LimiterCall :=
  [.beginFrame 1, .allow 5 .requestSnapshot, .allow 6 .requestSnapshot, .allow 5 .requestSnapshot,
    .forgetSession 6, .beginFrame 2, .allow 5 .requestSnapshot]

theorem oneTickLimited : admitted (served oneTick) 5 .requestSnapshot 1 = 1 := by
  have rising : Rising oneTick := by
    unfold Rising
    decide
  have ended : Ended oneTick := by
    intro before s after split k there
    rcases before with _ | ⟨a, _ | ⟨b, _ | ⟨c, _ | ⟨d, _ | ⟨e, _ | ⟨f, _ | ⟨g, before⟩⟩⟩⟩⟩⟩⟩ <;>
      simp [oneTick] at split
    obtain ⟨-, -, -, -, rfl, rfl⟩ := split
    simp at there
  exact ((rateLimited rising ended 5).1 .requestSnapshot 1).2 (by decide) (by decide)

end SeedOrigin.RateLimits
