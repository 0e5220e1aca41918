import SeedOrigin.Framing

/-! A frame accumulator with a total size bound, fed one read at a time. The
bound is on leftover plus read, so whether a stream is accepted depends on how
it was split; `feedExact` says precisely how. -/
namespace SeedOrigin.Accumulation
open SeedOrigin.Octets SeedOrigin.Framing

structure Rules (β ε : Type) where
  head : Bytes → Head ε
  decode : Bytes → Except ε β
  limit : Nat
  isFailed : ε
  tooLong : ε

structure Accumulator where
  buffered : Bytes := []
  failed : Bool := false
  deriving DecidableEq, Repr

section
variable {α β ε : Type}

def append (rules : Rules β ε) (acc : Accumulator) (bytes : Bytes) :
    Accumulator × List β × Except ε Unit :=
  if acc.failed then (acc, [], .error rules.isFailed)
  else if bytes.length > rules.limit - acc.buffered.length then
    ({ acc with failed := true }, [], .error rules.tooLong)
  else
    let buffered := acc.buffered ++ bytes
    match drain rules.head rules.decode (buffered.length + 1) buffered with
    | (out, left, none) => (⟨left, false⟩, out, .ok ())
    | (out, left, some e) => (⟨left, true⟩, out, .error e)

def feed (rules : Rules β ε) : Accumulator → List Bytes → Accumulator × List β × Bool
  | acc, [] => (acc, [], true)
  | acc, piece :: pieces =>
    let now := append rules acc piece
    let later := feed rules now.1 pieces
    (later.1, now.2.1 ++ later.2.1, now.2.2.toBool && later.2.2)

structure Delivered (rules : Rules β ε) (acc : Accumulator) (pieces : List Bytes)
    (frames : List β) : Prop where
  accepted : (feed rules acc pieces).2.2 = true
  output : (feed rules acc pieces).2.1 = frames
  drained : (feed rules acc pieces).1.buffered = []

theorem drainShrinks (head : Bytes → Head ε) (decode : Bytes → Except ε β) (fuel : Nat)
    (buffered : Bytes) : (drain head decode fuel buffered).2.1.length ≤ buffered.length := by
  induction fuel generalizing buffered with
  | zero => exact le_refl _
  | succ fuel ih =>
    simp only [drain]
    split
    · exact le_refl _
    · exact le_refl _
    · split
      · simp
      · refine (ih _).trans ?_
        simp

theorem appendTaken {rules : Rules β ε} {acc between : Accumulator} {bytes : Bytes} {out : List β}
    (taken : append rules acc bytes = (between, out, .ok ())) :
    between.buffered.length ≤ acc.buffered.length + bytes.length ∧ between.failed = false ∧
      bytes.length ≤ rules.limit - acc.buffered.length ∧ acc.failed = false := by
  unfold append at taken
  split at taken
  · cases taken
  · rename_i alive
    split at taken
    · cases taken
    · rename_i fits
      dsimp only at taken
      have shrinks := drainShrinks rules.head rules.decode
        ((acc.buffered ++ bytes).length + 1) (acc.buffered ++ bytes)
      split at taken <;> rename_i drained <;> cases taken
      rw [drained, List.length_append] at shrinks
      exact ⟨shrinks, rfl, Nat.not_lt.mp fits, Bool.not_eq_true _ ▸ alive⟩

theorem appendBoth {rules : Rules β ε} (stable : Stable rules.head) {acc between : Accumulator}
    {one two : Bytes} {early : List β} (first : append rules acc one = (between, early, .ok ()))
    (fits : (one ++ two).length ≤ rules.limit - acc.buffered.length) :
    append rules acc (one ++ two) = ((append rules between two).1,
      early ++ (append rules between two).2.1, (append rules between two).2.2) := by
  obtain ⟨shorter, -, -, alive⟩ := appendTaken first
  unfold append at first
  rw [if_neg (ne_true_of_eq_false alive)] at first
  split at first
  · cases first
  · dsimp only at first
    split at first <;> rename_i left drained <;> cases first
    have onward := drainAppend stable drained (Nat.lt_succ_self _)
      (Nat.lt_succ_self (acc.buffered ++ one ++ two).length)
      (Nat.lt_succ_self (left ++ two).length)
    have whole : acc.buffered ++ (one ++ two) = acc.buffered ++ one ++ two :=
      (List.append_assoc ..).symm
    have room : ¬ two.length > rules.limit - left.length := by
      rw [List.length_append] at fits
      dsimp only at shorter
      omega
    unfold append
    rw [if_neg (ne_true_of_eq_false alive), if_neg (Nat.not_lt.mpr fits),
      if_neg Bool.false_ne_true, if_neg room]
    dsimp only
    rw [whole, onward]
    cases drain rules.head rules.decode ((left ++ two).length + 1) (left ++ two) with
    | mk out rest =>
      obtain ⟨behind, stopped⟩ := rest
      cases stopped <;> rfl

def Settled (rules : Rules β ε) (acc : Accumulator) : Prop :=
  acc.failed = true ∨ rules.head acc.buffered = .incomplete

theorem appendSettles {rules : Rules β ε} (stable : Stable rules.head) (acc : Accumulator)
    (bytes : Bytes) : Settled rules (append rules acc bytes).1 := by
  unfold append
  split
  · rename_i failed
    exact .inl failed
  · split
    · exact .inl rfl
    · dsimp only
      split
      · rename_i drained
        exact .inr (drainWaits stable drained (Nat.lt_succ_self _))
      · exact .inl rfl

theorem appendNothing {rules : Rules β ε} {acc : Accumulator} (settled : Settled rules acc) :
    (append rules acc []).1 = acc ∧ (append rules acc []).2.1 = [] := by
  unfold append
  split
  · exact ⟨rfl, rfl⟩
  · rename_i alive
    obtain failed | waits := settled
    · exact absurd failed alive
    · have short : ¬ ([] : Bytes).length > rules.limit - acc.buffered.length := by simp
      rw [if_neg short, List.append_nil]
      unfold drain
      dsimp only
      rw [waits]
      obtain ⟨buffered, failed⟩ := acc
      cases failed
      · exact ⟨rfl, rfl⟩
      · exact absurd rfl alive

variable {rules : Rules β ε} {encode : α → Bytes} {image : α → β} {valid : α → Prop}

theorem appendFrames (format : Format rules.head rules.decode encode image valid)
    (empty : rules.head [] = .incomplete) {left piece : Bytes} {done rest : List α} {next : Bytes}
    (ok : ∀ a ∈ done, valid a) (split : left ++ piece = joined encode done ++ next)
    (wait : Leftover encode valid rest next) (fits : piece.length ≤ rules.limit - left.length) :
    append rules ⟨left, false⟩ piece = (⟨next, false⟩, done.map image, .ok ()) := by
  have enough : done.length < (left ++ piece).length + 1 := by
    have fit := framesFit format ok
    rw [split, List.length_append]
    omega
  have drained := drainFrames format done ok next (leftoverWaits format empty wait) _ enough
  rw [← split] at drained
  have small : ¬ rules.limit - left.length < piece.length := by omega
  simp only [append, Bool.false_eq_true, if_false, gt_iff_lt, if_neg small, drained]

theorem appendRefused (rules : Rules β ε) (left piece : Bytes) (big : rules.limit - left.length < piece.length) :
    (append rules ⟨left, false⟩ piece).2.2 = .error rules.tooLong := by
  simp [append, big]

def Fits (limit : Nat) (sizes : List Nat) (pieces : List Bytes) : Prop :=
  EveryRead (fun offset n => pending sizes offset + n ≤ limit) 0 pieces

theorem feedFrom (format : Format rules.head rules.decode encode image valid)
    (empty : rules.head [] = .incomplete) (pieces : List Bytes) {rest : List α} {left : Bytes}
    (ok : ∀ a ∈ rest, valid a) (stream : left ++ pieces.flatten = joined encode rest)
    (wait : Leftover encode valid rest left) (bounded : left.length ≤ rules.limit) :
    Delivered rules ⟨left, false⟩ pieces (rest.map image) ↔
      EveryRead (fun offset n => pending (sizes encode rest) offset + n ≤ rules.limit)
        left.length pieces := by
  induction pieces generalizing rest left with
  | nil =>
    have all : left = joined encode rest := by simpa using stream
    obtain ⟨rfl, rfl⟩ := leftoverFinished wait all (fun a ha => format.nonempty a (ok a ha))
    exact ⟨fun _ => everyReadNil _ _, fun _ => ⟨rfl, rfl, rfl⟩⟩
  | cons piece pieces ih =>
    have here : pending (sizes encode rest) left.length = left.length :=
      pendingLeftover wait (fun a ha => format.nonempty a (ok a ha))
    rw [everyReadCons, here]
    by_cases fits : piece.length ≤ rules.limit - left.length
    · -- the read is taken: the rest of the stream starts at the new leftover
      have split : (left ++ piece) ++ pieces.flatten = joined encode rest := by
        simpa using stream
      obtain ⟨done, later, next, hr, hs, hu, hw, -, -⟩ := prefixSplits ok split
      subst hr
      have taken := appendFrames format empty (fun a ha => ok a (List.mem_append_left _ ha))
        hs hw fits
      have short : next.length ≤ rules.limit := by
        have lengths := congrArg List.length hs
        simp only [List.length_append] at lengths
        omega
      have tail := ih (fun a ha => ok a (List.mem_append_right _ ha)) hu hw short
      have same : Delivered rules ⟨left, false⟩ (piece :: pieces)
          ((done ++ later).map image) ↔ Delivered rules ⟨next, false⟩ pieces (later.map image) := by
        rw [List.map_append]
        constructor
        · rintro ⟨a, o, d⟩
          simp only [feed, taken, Except.toBool, Bool.true_and] at a o d
          exact ⟨a, List.append_cancel_left o, d⟩
        · rintro ⟨a, o, d⟩
          refine ⟨?_, ?_, ?_⟩ <;> simp only [feed, taken, Except.toBool, Bool.true_and]
          · exact a
          · rw [o]
          · exact d
      have lengths := congrArg List.length hs
      simp only [List.length_append] at lengths
      have shift := everyReadShift (joined encode done).length next.length pieces
        (P := fun offset n => pending (sizes encode (done ++ later)) offset + n ≤ rules.limit)
        (Q := fun offset n => pending (sizes encode later) offset + n ≤ rules.limit)
        (fun extra n => by rw [pendingJoined])
      rw [same, tail, ← shift, lengths]
      exact ⟨fun h => ⟨by omega, h⟩, fun h => h.2⟩
    · constructor
      · rintro ⟨a, -, -⟩
        have refused := appendRefused rules left piece (by omega)
        simp [feed, refused, Except.toBool] at a
      · rintro ⟨now, -⟩
        omega

variable (rules) in
theorem feedExact (format : Format rules.head rules.decode encode image valid)
    (empty : rules.head [] = .incomplete) (frames : List α) (pieces : List Bytes)
    (ok : ∀ a ∈ frames, valid a) (stream : pieces.flatten = joined encode frames) :
    Delivered rules {} pieces (frames.map image) ↔ Fits rules.limit (sizes encode frames) pieces := by
  have start : [] ++ pieces.flatten = joined encode frames := by simpa using stream
  have h := feedFrom format empty pieces ok start (.clean _) (Nat.zero_le _)
  exact h

end

end SeedOrigin.Accumulation
