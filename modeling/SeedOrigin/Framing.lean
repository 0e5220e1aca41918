import SeedOrigin.Conversions
import SeedOrigin.Octets

/-! Reassembly of self-delimiting frames from an arbitrarily split byte stream.
A head function reads how many bytes the first frame of a buffer takes; nothing
here depends on a particular header layout. -/
namespace SeedOrigin.Framing
open SeedOrigin.Octets SeedOrigin.Conversions

inductive Head (ε : Type) where
  | incomplete
  | corrupt (e : ε)
  | frame (size : Nat)
  deriving DecidableEq, Repr

section
variable {α β ε : Type}

-- The loop that takes complete frames off the front of a buffer. It returns
-- what was decoded, what is left and the error that stopped it, if any.
def drain (head : Bytes → Head ε) (decode : Bytes → Except ε β) :
    Nat → Bytes → List β × Bytes × Option ε
  | 0, buffered => ([], buffered, none)
  | fuel + 1, buffered => match head buffered with
    | .incomplete => ([], buffered, none)
    | .corrupt e => ([], buffered, some e)
    | .frame size => match decode (buffered.take size) with
      | .error e => ([], buffered.drop size, some e)
      | .ok a =>
        let rest := drain head decode fuel (buffered.drop size)
        (a :: rest.1, rest.2)

-- What a format owes the loop: an encoded frame announces exactly its own
-- length whatever follows it, and none of its proper prefixes looks complete.
structure Format (head : Bytes → Head ε) (decode : Bytes → Except ε β)
    (encode : α → Bytes) (image : α → β) (valid : α → Prop) : Prop where
  announced : ∀ a rest, valid a → head (encode a ++ rest) = .frame (encode a).length
  decoded : ∀ a, valid a → decode (encode a) = .ok (image a)
  nonempty : ∀ a, valid a → 0 < (encode a).length
  waiting : ∀ a n, valid a → n < (encode a).length → head ((encode a).take n) = .incomplete

variable {head : Bytes → Head ε} {decode : Bytes → Except ε β} {encode : α → Bytes}
  {image : α → β} {valid : α → Prop}

def joined (encode : α → Bytes) (frames : List α) : Bytes := frames.flatMap encode

def sizes (encode : α → Bytes) (frames : List α) : List Nat := frames.map (fun a => (encode a).length)

def pending : List Nat → Nat → Nat
  | [], offset => offset
  | size :: rest, offset => if size ≤ offset then pending rest (offset - size) else offset

def completed : List Nat → Nat → Nat
  | [], _ => 0
  | size :: rest, offset => if size ≤ offset then completed rest (offset - size) + 1 else 0

def finished (encode : α → Bytes) (frames : List α) (offset n : Nat) : List α :=
  (frames.take (completed (sizes encode frames) (offset + n))).drop
    (completed (sizes encode frames) offset)

inductive Leftover (encode : α → Bytes) (valid : α → Prop) : List α → Bytes → Prop where
  | clean (rest) : Leftover encode valid rest []
  | partway {a : α} {rest} (n : Nat) (short : n < (encode a).length) (ok : valid a) :
      Leftover encode valid (a :: rest) ((encode a).take n)

theorem encodedAll {encoder : α → Except ε Bytes}
    (exact : ∀ a frame, encoder a = .ok frame ↔ valid a ∧ frame = encode a) (items : List α)
    (frames : List Bytes) :
    items.mapM encoder = .ok frames ↔ (∀ a ∈ items, valid a) ∧ frames = items.map encode := by
  induction items generalizing frames with
  | nil => simp [pure, Except.pure, eq_comm]
  | cons a items ih =>
    constructor
    · intro h
      obtain ⟨frame, rest, head, tail, rfl⟩ := mapMCons.mp h
      obtain ⟨here, rfl⟩ := (exact a frame).mp head
      obtain ⟨others, rfl⟩ := (ih rest).mp tail
      exact ⟨List.forall_mem_cons.mpr ⟨here, others⟩, rfl⟩
    · rintro ⟨ok, rfl⟩
      obtain ⟨here, others⟩ := List.forall_mem_cons.mp ok
      have head := (exact a _).mpr ⟨here, rfl⟩
      have tail := (ih _).mpr ⟨others, rfl⟩
      exact mapMCons.mpr ⟨_, _, head, tail, rfl⟩

theorem leftoverShort {rest : List α} {left : Bytes} (h : Leftover encode valid rest left)
    (positive : ∀ a ∈ rest, 0 < (encode a).length) :
    rest = [] ∧ left = [] ∨ ∃ a later, rest = a :: later ∧ left.length < (encode a).length := by
  cases h with
  | clean rest =>
    cases rest with
    | nil => exact .inl ⟨rfl, rfl⟩
    | cons a rest => exact .inr ⟨a, rest, rfl, positive a List.mem_cons_self⟩
  | @partway a rest n short ok =>
    refine .inr ⟨a, rest, rfl, ?_⟩
    rw [List.length_take]
    omega

theorem pendingLeftover {rest : List α} {left : Bytes} (h : Leftover encode valid rest left)
    (positive : ∀ a ∈ rest, 0 < (encode a).length) :
    pending (sizes encode rest) left.length = left.length := by
  obtain ⟨rfl, rfl⟩ | ⟨a, later, rfl, short⟩ := leftoverShort h positive
  · rfl
  · simp only [sizes, List.map_cons, pending]
    rw [if_neg (by omega)]

theorem completedLeftover {rest : List α} {left : Bytes} (h : Leftover encode valid rest left)
    (positive : ∀ a ∈ rest, 0 < (encode a).length) :
    completed (sizes encode rest) left.length = 0 := by
  obtain ⟨rfl, rfl⟩ | ⟨a, later, rfl, short⟩ := leftoverShort h positive
  · rfl
  · simp only [sizes, List.map_cons, completed]
    rw [if_neg (by omega)]

def EveryRead (P : Nat → Nat → Prop) (offset : Nat) (pieces : List Bytes) : Prop :=
  ∀ before piece after, pieces = before ++ piece :: after →
    P (offset + before.flatten.length) piece.length

theorem everyReadNil (P : Nat → Nat → Prop) (offset : Nat) : EveryRead P offset [] := by
  intro before piece after h
  simp at h

theorem everyReadCons {P : Nat → Nat → Prop} {offset : Nat} {piece : Bytes} {pieces : List Bytes} :
    EveryRead P offset (piece :: pieces) ↔
      P offset piece.length ∧ EveryRead P (offset + piece.length) pieces := by
  constructor
  · intro h
    refine ⟨h [] piece pieces rfl, ?_⟩
    intro before read after same
    have there := h (piece :: before) read after (by simp [same])
    simpa [Nat.add_assoc] using there
  · rintro ⟨now, later⟩ before read after same
    cases before with
    | nil =>
      obtain ⟨rfl, rfl⟩ := List.cons.inj same
      exact now
    | cons b before =>
      obtain ⟨rfl, tail⟩ := List.cons.inj same
      simpa [Nat.add_assoc] using later before read after tail

theorem everyReadShift {P Q : Nat → Nat → Prop} (base offset : Nat) (pieces : List Bytes)
    (same : ∀ extra n, P (base + extra) n ↔ Q extra n) :
    EveryRead P (base + offset) pieces ↔ EveryRead Q offset pieces := by
  simp only [EveryRead, Nat.add_assoc, same]

theorem leftoverWaits (format : Format head decode encode image valid) (empty : head [] = .incomplete)
    {rest left} (h : Leftover encode valid rest left) : head left = .incomplete := by
  cases h with
  | clean => exact empty
  | partway n short ok => exact format.waiting _ n ok short

theorem drainFrames (format : Format head decode encode image valid) (frames : List α)
    (ok : ∀ a ∈ frames, valid a) (left : Bytes) (waits : head left = .incomplete)
    (fuel : Nat) (enough : frames.length < fuel) :
    drain head decode fuel (joined encode frames ++ left) =
      (frames.map image, left, none) := by
  induction frames generalizing fuel with
  | nil =>
    cases fuel with
    | zero => omega
    | succ fuel => simp [drain, joined, waits]
  | cons a frames ih =>
    cases fuel with
    | zero => omega
    | succ fuel =>
      have va := ok a List.mem_cons_self
      have rest := ih (fun b hb => ok b (List.mem_cons_of_mem _ hb)) fuel
        (by simpa using enough)
      have shape : joined encode (a :: frames) ++ left =
          encode a ++ (joined encode frames ++ left) := by simp [joined]
      simp only [shape, drain, format.announced a _ va, List.take_left, List.drop_left,
        format.decoded a va, rest, List.map_cons]

-- A head that looks at the first frame only: what follows it changes nothing.
structure Stable (head : Bytes → Head ε) : Prop where
  sized : ∀ buffered size, head buffered = .frame size → 0 < size ∧ size ≤ buffered.length
  grows : ∀ buffered size more, head buffered = .frame size → head (buffered ++ more) = .frame size

theorem drainFuel (stable : Stable head) {buffered : Bytes} {fuel more : Nat}
    (enough : buffered.length < fuel) (also : buffered.length < more) :
    drain head decode fuel buffered = drain head decode more buffered := by
  induction fuel generalizing buffered more with
  | zero => omega
  | succ fuel ih =>
    cases more with
    | zero => omega
    | succ more =>
      unfold drain
      cases first : head buffered with
      | incomplete => rfl
      | corrupt e => rfl
      | frame size =>
        obtain ⟨positive, within⟩ := stable.sized buffered size first
        have shorter : (buffered.drop size).length < buffered.length := by
          rw [List.length_drop]
          omega
        have onward : drain head decode fuel (buffered.drop size) =
            drain head decode more (buffered.drop size) := ih (by omega) (by omega)
        dsimp only
        rw [onward]

theorem drainAppend (stable : Stable head) {buffered left later : Bytes} {out : List β}
    {fuel more rest : Nat} (drained : drain head decode fuel buffered = (out, left, none))
    (enough : buffered.length < fuel) (also : (buffered ++ later).length < more)
    (still : (left ++ later).length < rest) :
    drain head decode more (buffered ++ later) =
      (out ++ (drain head decode rest (left ++ later)).1,
        (drain head decode rest (left ++ later)).2) := by
  induction fuel generalizing buffered out more with
  | zero => omega
  | succ fuel ih =>
    unfold drain at drained
    cases first : head buffered with
    | incomplete =>
      rw [first] at drained
      cases drained
      rw [List.nil_append, drainFuel stable also still]
    | corrupt e =>
      rw [first] at drained
      cases drained
    | frame size =>
      obtain ⟨positive, within⟩ := stable.sized buffered size first
      rw [first] at drained
      dsimp only at drained
      cases more with
      | zero => omega
      | succ more =>
        have cut : (buffered ++ later).take size = buffered.take size :=
          List.take_append_of_le_length within
        have tail : (buffered ++ later).drop size = buffered.drop size ++ later :=
          List.drop_append_of_le_length within
        have shorter : (buffered.drop size).length < fuel := by
          rw [List.length_drop]
          omega
        have smaller : (buffered.drop size ++ later).length < more := by
          rw [List.length_append] at also ⊢
          rw [List.length_drop]
          omega
        rw [drain, stable.grows buffered size later first]
        dsimp only
        rw [cut, tail]
        cases read : decode (buffered.take size) with
        | error e =>
          rw [read] at drained
          cases drained
        | ok a =>
          rw [read] at drained
          cases onward : drain head decode fuel (buffered.drop size) with
          | mk front behind =>
            rw [onward] at drained
            cases drained
            dsimp only
            rw [ih onward shorter smaller]
            rfl

theorem drainWaits (stable : Stable head) {buffered left : Bytes} {out : List β} {fuel : Nat}
    (drained : drain head decode fuel buffered = (out, left, none)) (enough : buffered.length < fuel) :
    head left = .incomplete := by
  induction fuel generalizing buffered out with
  | zero => omega
  | succ fuel ih =>
    unfold drain at drained
    cases first : head buffered with
    | incomplete =>
      rw [first] at drained
      cases drained
      exact first
    | corrupt e =>
      rw [first] at drained
      cases drained
    | frame size =>
      obtain ⟨positive, within⟩ := stable.sized buffered size first
      rw [first] at drained
      dsimp only at drained
      split at drained
      · cases drained
      · cases onward : drain head decode fuel (buffered.drop size) with
        | mk front behind =>
          rw [onward] at drained
          cases drained
          refine ih onward ?_
          rw [List.length_drop]
          omega

theorem joinedLength (encode : α → Bytes) (frames : List α) :
    (joined encode frames).length = (sizes encode frames).sum := by
  simp [joined, sizes, List.length_flatMap]

theorem framesFit (format : Format head decode encode image valid) {frames : List α}
    (ok : ∀ a ∈ frames, valid a) : frames.length ≤ (joined encode frames).length := by
  induction frames with
  | nil => simp
  | cons a frames ih =>
    have positive := format.nonempty a (ok a List.mem_cons_self)
    have rest := ih (fun b hb => ok b (List.mem_cons_of_mem _ hb))
    simp only [joined, List.flatMap_cons, List.length_append, List.length_cons] at rest ⊢
    omega

theorem prefixSplits {frames : List α} (ok : ∀ a ∈ frames, valid a) {seen unseen : Bytes}
    (stream : seen ++ unseen = joined encode frames) :
    ∃ done rest left, frames = done ++ rest ∧ seen = joined encode done ++ left ∧
      left ++ unseen = joined encode rest ∧ Leftover encode valid rest left ∧
      left.length = pending (sizes encode frames) seen.length ∧
      done.length = completed (sizes encode frames) seen.length := by
  induction frames generalizing seen with
  | nil =>
    have none : seen = [] ∧ unseen = [] := by simpa [joined] using stream
    obtain ⟨rfl, rfl⟩ := none
    exact ⟨[], [], [], rfl, rfl, rfl, .clean _, rfl, rfl⟩
  | cons a frames ih =>
    have va := ok a List.mem_cons_self
    have shape : seen ++ unseen = encode a ++ joined encode frames := by
      simpa [joined] using stream
    by_cases whole : (encode a).length ≤ seen.length
    · obtain ⟨tail, rfl⟩ : encode a <+: seen :=
        List.prefix_of_prefix_length_le ⟨_, shape.symm⟩ (List.prefix_append seen unseen) whole
      have inner : tail ++ unseen = joined encode frames := by
        simpa [List.append_assoc] using shape
      obtain ⟨done, rest, left, hf, hs, hu, hl, hp, hc⟩ :=
        ih (fun b hb => ok b (List.mem_cons_of_mem _ hb)) inner
      have there : (encode a).length ≤ (encode a ++ tail).length := by simp
      refine ⟨a :: done, rest, left, by simp [hf], ?_, hu, hl, ?_, ?_⟩
      · simp [hs, joined]
      · simpa [sizes, pending, there] using hp
      · simpa [sizes, completed, there] using hc
    · have short : seen.length < (encode a).length := by omega
      have cut : seen = (encode a).take seen.length := by
        have front := congrArg (List.take seen.length) shape
        rw [List.take_left, List.take_append_of_le_length (by omega)] at front
        exact front
      refine ⟨[], a :: frames, seen, rfl, by simp [joined], stream, ?_, ?_, ?_⟩
      · have h : Leftover encode valid (a :: frames) ((encode a).take seen.length) :=
          .partway seen.length short va
        rwa [← cut] at h
      · simp [sizes, pending, whole]
      · simp [sizes, completed, whole]

theorem leftoverFinished {rest : List α} {left : Bytes} (h : Leftover encode valid rest left)
    (all : left = joined encode rest) (ok : ∀ a ∈ rest, 0 < (encode a).length) :
    rest = [] ∧ left = [] := by
  cases h with
  | clean rest =>
    cases rest with
    | nil => exact ⟨rfl, rfl⟩
    | cons a rest =>
      have lengths := congrArg List.length all
      have positive := ok a List.mem_cons_self
      simp only [joined, List.flatMap_cons, List.length_append, List.length_nil] at lengths
      omega
  | partway n short va =>
    have lengths := congrArg List.length all
    simp only [joined, List.flatMap_cons, List.length_append, List.length_take] at lengths
    omega

theorem skipFirst (encode : α → Bytes) (a : α) (done : List α) (extra : Nat) :
    (encode a).length ≤ (joined encode (a :: done)).length + extra ∧
    (joined encode (a :: done)).length + extra - (encode a).length =
      (joined encode done).length + extra := by
  simp only [joined, List.flatMap_cons, List.length_append]
  omega

theorem pendingJoined (encode : α → Bytes) (done rest : List α) (extra : Nat) :
    pending (sizes encode (done ++ rest)) ((joined encode done).length + extra) =
      pending (sizes encode rest) extra := by
  induction done with
  | nil => simp [joined]
  | cons a done ih =>
    obtain ⟨there, back⟩ := skipFirst encode a done extra
    simp only [List.cons_append, sizes, List.map_cons, pending, if_pos there, back]
    exact ih

theorem completedJoined (encode : α → Bytes) (done rest : List α) (extra : Nat) :
    completed (sizes encode (done ++ rest)) ((joined encode done).length + extra) =
      done.length + completed (sizes encode rest) extra := by
  induction done with
  | nil => simp [joined]
  | cons a done ih =>
    obtain ⟨there, back⟩ := skipFirst encode a done extra
    simp only [List.cons_append, sizes, List.map_cons, completed, if_pos there, back,
      List.length_cons]
    simp only [sizes] at ih
    omega

theorem finishedJoined (encode : α → Bytes) (done rest : List α) (extra n : Nat) :
    finished encode (done ++ rest) ((joined encode done).length + extra) n =
      finished encode rest extra n := by
  simp only [finished, Nat.add_assoc, completedJoined]
  rw [List.take_length_add_append, List.drop_length_add_append]

theorem finishedHere {left piece next : Bytes} {done rest : List α}
    (positive : ∀ a ∈ done ++ rest, 0 < (encode a).length)
    (wait : Leftover encode valid (done ++ rest) left) (later : Leftover encode valid rest next)
    (split : left ++ piece = joined encode done ++ next) :
    finished encode (done ++ rest) left.length piece.length = done := by
  have lengths := congrArg List.length split
  simp only [List.length_append] at lengths
  have nothing := completedLeftover later (fun a ha => positive a (List.mem_append_right _ ha))
  rw [finished, lengths, completedJoined, completedLeftover wait positive, nothing, Nat.add_zero,
    List.take_left, List.drop_zero]

end

end SeedOrigin.Framing
