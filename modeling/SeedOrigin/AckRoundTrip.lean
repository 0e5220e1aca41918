import SeedOrigin.OwnerCopies
import SeedOrigin.Singles
import SeedOrigin.SnapshotRoundTrip

/-! What of an acknowledgement's pose survives its text: the owner's copy of a
movement, and a movement ack of its own. Numbers are binary32 floats. -/
namespace SeedOrigin.AckRoundTrip
open SeedOrigin.Octets SeedOrigin.Numbers SeedOrigin.Decimal SeedOrigin.Significant
open SeedOrigin.Singles SeedOrigin.ClientInput SeedOrigin.Inputs SeedOrigin.UpdateWire
open SeedOrigin.UpdateBuilder SeedOrigin.FieldText SeedOrigin.HazardClient SeedOrigin.MovementFields
open SeedOrigin.PublishLimits SeedOrigin.SnapshotRoundTrip SeedOrigin.OwnerCopies
open SeedOrigin.Conversions

theorem keyUnique {key front left right : Bytes} (free : 58 ∉ key) (clean : 58 ∉ front)
    (same : key ++ 58 :: left = front ++ 58 :: right) : key = front := by
  have first := cutKey free left
  rw [same, cutKey clean right] at first
  exact (congrArg Prod.fst (Option.some.inj first)).symm

theorem cutReached {key front : Bytes} (free : 58 ∉ key) (clean : 58 ∉ front) (rest : Bytes) :
    cutAt (key ++ [58]) (front ++ (key ++ 58 :: rest)) = some (front, rest) := by
  have needle : key ++ 58 :: rest = (key ++ [58]) ++ rest := by simp
  induction front with
  | nil => rw [List.nil_append, needle, cutHere]
  | cons b front ih =>
    have later : ¬ (key ++ [58]).isPrefixOf (b :: (front ++ (key ++ 58 :: rest))) = true := by
      intro found
      obtain ⟨back, same⟩ := List.isPrefixOf_iff_prefix.mp found
      have split : key ++ 58 :: back = b :: (front ++ key) ++ 58 :: rest := by simpa using same
      have whole : key = b :: (front ++ key) := keyUnique free (by simp_all) split
      have length := congrArg List.length whole
      simp only [List.length_cons, List.length_append] at length
      omega
    rw [List.cons_append, cutAt, if_neg later,
      ih (fun there => clean (List.mem_cons_of_mem b there))]
    rfl

theorem cutPast {key front : Bytes} (free : 58 ∉ key) (clean : 58 ∉ front) (apart : ¬ key <:+ front)
    (rest : Bytes) : cutAt (key ++ [58]) (front ++ 58 :: rest) =
      (cutAt (key ++ [58]) rest).map (fun parts => (front ++ 58 :: parts.1, parts.2)) := by
  have differs {whole : Bytes} (clean : 58 ∉ whole) (apart : key ≠ whole) :
      ¬ (key ++ [58]).isPrefixOf (whole ++ 58 :: rest) = true := by
    intro found
    obtain ⟨back, same⟩ := List.isPrefixOf_iff_prefix.mp found
    have split : key ++ 58 :: back = whole ++ 58 :: rest := by simpa using same
    exact apart (keyUnique free clean split)
  induction front with
  | nil =>
    have later := differs clean (fun same => apart (same ▸ List.suffix_refl _))
    rw [List.nil_append] at later ⊢
    rw [cutAt, if_neg later]
    rfl
  | cons b front ih =>
    have later := differs clean (fun same => apart (same ▸ List.suffix_refl _))
    rw [List.cons_append] at later ⊢
    rw [cutAt, if_neg later, ih (fun there => clean (List.mem_cons_of_mem b there))
      (fun suffix => apart (suffix.trans (List.suffix_cons b front))), Option.map_map]
    rfl

structure Plain (value : Bytes) : Prop where
  filled : value ≠ []
  colonFree : 58 ∉ value
  semicolonFree : 59 ∉ value

theorem fieldFound {front value rest : Bytes} {key : String} (free : 58 ∉ ascii key)
    (clean : 58 ∉ front) (plain : Plain value) (ends : ∀ b ∈ rest.head?, b = 59) :
    parseAckField (front ++ (ascii key ++ 58 :: (value ++ rest))) key = some value := by
  have all : ∀ b ∈ value, (b != 59) = true := by
    intro b there
    have other : b ≠ 59 := fun same => plain.semicolonFree (same ▸ there)
    simpa using other
  have stop : rest.takeWhile (fun b => b != 59) = [] := by
    cases rest with
    | nil => rfl
    | cons b rest => simp [ends b rfl]
  unfold parseAckField
  rw [cutReached free clean]
  dsimp only
  rw [List.takeWhile_append_of_pos all, stop, List.append_nil, if_neg plain.filled]

theorem lastApart {key segment : Bytes} (some : key ≠ []) (other : key.getLast? ≠ segment.getLast?) :
    ¬ key <:+ segment := by
  rintro ⟨front, rfl⟩
  rw [List.getLast?_append_of_ne_nil front some] at other
  exact other rfl

theorem fieldSkipped {segment rest : Bytes} {key : String} (free : 58 ∉ ascii key) (some : ascii key ≠ [])
    (clean : 58 ∉ segment) (other : (ascii key).getLast? ≠ segment.getLast?) :
    parseAckField (segment ++ 58 :: rest) key = parseAckField rest key := by
  unfold parseAckField
  rw [cutPast free clean (lastApart some other)]
  cases cutAt (ascii key ++ [58]) rest <;> rfl

def colonFields (parts : List (String × Bytes)) : Bytes :=
  parts.flatMap (fun part => 59 :: (ascii part.1 ++ 58 :: part.2))

theorem colonHead (parts : List (String × Bytes)) : ∀ b ∈ (colonFields parts).head?, b = 59 := by
  cases parts with
  | nil => exact nofun
  | cons part parts =>
    intro b there
    exact (Option.some.inj there).symm

structure Apart (key : String) (before : List String) : Prop where
  free : ∀ name ∈ key :: before, 58 ∉ ascii name ∧ ascii name ≠ []
  last : ∀ name ∈ before, (ascii key).getLast? ≠ (ascii name).getLast?

theorem fieldBehind {key : String} {value front : Bytes} {before after : List (String × Bytes)}
    (apart : Apart key (before.map Prod.fst)) (plain : Plain value)
    (values : ∀ part ∈ before, 58 ∉ part.2) (clean : 58 ∉ front) :
    parseAckField (front ++ colonFields (before ++ (key, value) :: after)) key = some value := by
  obtain ⟨free, some⟩ := apart.free key List.mem_cons_self
  induction before generalizing front with
  | nil =>
    have shape : front ++ colonFields ([] ++ (key, value) :: after) =
        (front ++ [59]) ++ (ascii key ++ 58 :: (value ++ colonFields after)) := by
      simp [colonFields]
    rw [shape]
    exact fieldFound free (by simp [clean]) plain (colonHead after)
  | cons part before ih =>
    obtain ⟨nameFree, nameSome⟩ := apart.free part.1 (by simp)
    have shape : front ++ colonFields (part :: before ++ (key, value) :: after) =
        (front ++ 59 :: ascii part.1) ++ 58 :: (part.2 ++ colonFields (before ++ (key, value) :: after)) := by
      simp [colonFields]
    have last : (front ++ 59 :: ascii part.1).getLast? = (ascii part.1).getLast? := by
      rw [List.getLast?_append_of_ne_nil front (List.cons_ne_nil _ _)]
      exact List.getLast?_append_of_ne_nil [59] nameSome
    have other := apart.last part.1 List.mem_cons_self
    rw [← last] at other
    rw [shape, fieldSkipped free some (by simp [clean, nameFree]) other]
    refine ih ⟨fun name there => apart.free name ?_, fun name there => apart.last name ?_⟩
      (fun part there => values part (List.mem_cons_of_mem _ there)) (values part List.mem_cons_self)
    · rcases List.mem_cons.mp there with rfl | there
      · exact List.mem_cons_self
      · exact List.mem_cons_of_mem _ (List.mem_cons_of_mem _ there)
    · exact List.mem_cons_of_mem _ there

theorem fieldLookup {key : String} {value front : Bytes} {entries : List (String × Bytes)}
    {names : List String} {k : Nat} (named : entries.map Prod.fst = names)
    (there : entries[k]? = some (key, value)) (apart : Apart key (names.take k))
    (plain : ∀ part ∈ entries, Plain part.2) (clean : 58 ∉ front) :
    parseAckField (front ++ colonFields entries) key = some value := by
  obtain ⟨inside, same⟩ := List.getElem?_eq_some_iff.mp there
  have split : entries = entries.take k ++ (key, value) :: entries.drop (k + 1) := by
    rw [← same, List.cons_getElem_drop_succ, List.take_append_drop]
  rw [← named, ← List.map_take] at apart
  have own := plain (key, value) (List.mem_of_getElem? there)
  rw [split]
  exact fieldBehind apart own (fun part early => (plain part (List.mem_of_mem_take early)).colonFree) clean

instance : PlainText Single where
  colonFree x := singleTextLacks x (by decide) (by decide)
  semicolonFree x := singleTextLacks x (by decide) (by decide)

theorem singlePlain (x : Single) : Plain (FloatOps.text x) :=
  ⟨singleTextFilled x, PlainText.colonFree x, PlainText.semicolonFree x⟩

theorem numberPlain (n : UInt64) : Plain (uint64Text n) :=
  ⟨natTextNonempty _, natTextFree _ (by decide), natTextFree _ (by decide)⟩

theorem intPlain (n : Int) : Plain (intText n) :=
  ⟨intTextNonempty n, intTextFree n (by decide) (by decide), intTextFree n (by decide) (by decide)⟩

section
variable {F : Type} [FloatOps F]

def ackFields (ack : MovementAck F) : List (String × Bytes) :=
  [("x", FloatOps.text ack.x), ("y", FloatOps.text ack.y), ("z", FloatOps.text ack.z),
    ("worldTick", uint64Text ack.worldTick),
    ("lastProcessedInputSequence", uint64Text ack.lastProcessedInputSequence)]

theorem ownerColons (ack : MovementAck F) : ownerFields ack = colonFields (ackFields ack) := by
  have keys : ascii ";x:" = 59 :: (ascii "x" ++ [58]) ∧ ascii ";y:" = 59 :: (ascii "y" ++ [58]) ∧
      ascii ";z:" = 59 :: (ascii "z" ++ [58]) ∧ ascii ";worldTick:" = 59 :: (ascii "worldTick" ++ [58]) ∧
      ascii ";lastProcessedInputSequence:" = 59 :: (ascii "lastProcessedInputSequence" ++ [58]) := by
    decide
  simp [ownerFields, colonFields, ackFields, keys]

structure Carries (text : Bytes) (ack : MovementAck F) : Prop where
  x : parseAckField text "x" = some (FloatOps.text ack.x)
  y : parseAckField text "y" = some (FloatOps.text ack.y)
  z : parseAckField text "z" = some (FloatOps.text ack.z)
  worldTick : parseAckField text "worldTick" = some (uint64Text ack.worldTick)
  sequence : parseAckField text "lastProcessedInputSequence" =
    some (uint64Text ack.lastProcessedInputSequence)

structure Exact (ack : MovementAck F) : Prop where
  x : parseFinite (FloatOps.text ack.x) = some ack.x
  y : parseFinite (FloatOps.text ack.y) = some ack.y
  z : parseFinite (FloatOps.text ack.z) = some ack.z

theorem carriedExact {text : Bytes} {ack : MovementAck F} (carries : Carries text ack) :
    parsePoseFields ack.sessionId text = some ack ↔ Exact ack := by
  unfold parsePoseFields
  rw [carries.x, carries.y, carries.z, carries.worldTick, carries.sequence]
  simp only [bind, Option.bind_some, parseUint64Text, pure]
  constructor
  · intro same
    simp only [Option.bind_eq_some_iff] at same
    obtain ⟨x, readX, y, readY, z, readZ, made⟩ := same
    have whole := Option.some.inj made
    exact ⟨readX.trans (congrArg (fun made => some made.x) whole),
      readY.trans (congrArg (fun made => some made.y) whole),
      readZ.trans (congrArg (fun made => some made.z) whole)⟩
  · intro exact
    rw [exact.x, exact.y, exact.z]
    rfl

end

theorem ackPlain (ack : MovementAck Single) : ∀ part ∈ ackFields ack, Plain part.2 := by
  simp only [ackFields, List.forall_mem_cons]
  exact ⟨singlePlain _, singlePlain _, singlePlain _, numberPlain _, numberPlain _, List.forall_mem_nil _⟩

theorem fieldsCarry {front : Bytes} (clean : 58 ∉ front) (ack : MovementAck Single) :
    Carries (front ++ ownerFields ack) ack := by
  have named : (ackFields ack).map Prod.fst =
      ["x", "y", "z", "worldTick", "lastProcessedInputSequence"] := rfl
  have plain := ackPlain ack
  rw [ownerColons]
  constructor
  · exact fieldLookup (k := 0) named rfl ⟨by decide, by decide⟩ plain clean
  · exact fieldLookup (k := 1) named rfl ⟨by decide, by decide⟩ plain clean
  · exact fieldLookup (k := 2) named rfl ⟨by decide, by decide⟩ plain clean
  · exact fieldLookup (k := 3) named rfl ⟨by decide, by decide⟩ plain clean
  · exact fieldLookup (k := 4) named rfl ⟨by decide, by decide⟩ plain clean

theorem carriesBehind {segment text : Bytes} {ack : MovementAck Single} (clean : 58 ∉ segment)
    (other : ∀ key ∈ ["x", "y", "z", "worldTick", "lastProcessedInputSequence"],
      58 ∉ ascii key ∧ ascii key ≠ [] ∧ (ascii key).getLast? ≠ segment.getLast?)
    (carries : Carries text ack) : Carries (segment ++ 58 :: text) ack := by
  have skip {key : String} (named : key ∈ ["x", "y", "z", "worldTick", "lastProcessedInputSequence"]) :
      parseAckField (segment ++ 58 :: text) key = parseAckField text key := by
    obtain ⟨free, some, last⟩ := other key named
    exact fieldSkipped free some clean last
  constructor
  · rw [skip (by decide), carries.x]
  · rw [skip (by decide), carries.y]
  · rw [skip (by decide), carries.z]
  · rw [skip (by decide), carries.worldTick]
  · rw [skip (by decide), carries.sequence]

theorem ownerCarries (sequence : UInt64) (movement : MovementIntent Single) (ack : MovementAck Single) :
    Carries (inputPayload ⟨sequence, .movement movement⟩ ++ ownerFields ack) ack := by
  have header : ascii "movement=session:" = ascii "movement=session" ++ [58] := by decide
  have clean : 58 ∉ intText movement.sessionId ++ movementRest movement sequence := by
    simp [(intPlain movement.sessionId).colonFree, restColonFree movement sequence]
  have shape : inputPayload ⟨sequence, .movement movement⟩ ++ ownerFields ack =
      ascii "movement=session" ++ 58 ::
        ((intText movement.sessionId ++ movementRest movement sequence) ++ ownerFields ack) := by
    rw [movementShape, header]
    simp
  rw [shape]
  exact carriesBehind (by decide) (by decide) (fieldsCarry clean ack)

theorem ownerReads (sequence : UInt64) {movement : MovementIntent Single} {ack : MovementAck Single}
    (session : InInt64 movement.sessionId) (positive : 0 < movement.sessionId)
    (own : ack.sessionId = movement.sessionId) :
    tryParseAttachedMovementAck (inputPayload ⟨sequence, .movement movement⟩ ++ ownerFields ack) =
      some ack ↔ Exact ack := by
  unfold tryParseAttachedMovementAck
  rw [movementSession, if_pos ⟨session, positive⟩, ← own, Option.bind_eq_bind, Option.bind_some]
  exact carriedExact (ownerCarries sequence movement ack)

theorem formattedReads {ack : MovementAck Single} (session : InInt64 ack.sessionId)
    (positive : 0 < ack.sessionId) :
    parseMovementAck (ascii "movementAck=session:" ++ intText ack.sessionId ++ ownerFields ack) =
      .ok ack ↔ Exact ack := by
  have header : ascii "movementAck=session:" = ascii "movementAck=" ++ (ascii "session" ++ [58]) := by
    decide
  have shape : ascii "movementAck=session:" ++ intText ack.sessionId ++ ownerFields ack =
      ascii "movementAck=" ++ (ascii "session" ++ 58 :: (intText ack.sessionId ++ ownerFields ack)) := by
    rw [header]
    simp
  have found : parseAckField (ascii "session" ++ 58 :: (intText ack.sessionId ++ ownerFields ack))
      "session" = some (intText ack.sessionId) := by
    rw [ownerColons, ← List.nil_append (ascii "session" ++ 58 :: _)]
    exact fieldFound (by decide) List.not_mem_nil (intPlain _) (colonHead _)
  have carries := carriesBehind (by decide : 58 ∉ ascii "session") (by decide)
    (fieldsCarry (intPlain ack.sessionId).colonFree ack)
  have exact := carriedExact carries
  rw [shape]
  unfold parseMovementAck
  simp only [List.take_left, List.drop_left, ne_eq, not_true_eq_false, if_false, found,
    Option.bind_some, parseIntText session, if_neg (not_le.mpr positive)]
  rw [← exact]
  cases parsePoseFields (F := Single) ack.sessionId
    (ascii "session" ++ 58 :: (intText ack.sessionId ++ ownerFields ack)) with
  | none => simp
  | some made => simp

theorem countLength (n : UInt64) : (uint64Text n).length ≤ 20 :=
  natTextLength (by decide) (lt_trans n.toNat_lt (by decide))

theorem ownerLength (ack : MovementAck Single) : (ownerFields ack).length ≤ 200 := by
  have x := singleTextLength ack.x
  have y := singleTextLength ack.y
  have z := singleTextLength ack.z
  have tick := countLength ack.worldTick
  have number := countLength ack.lastProcessedInputSequence
  have names : (ascii ";x:").length = 3 ∧ (ascii ";y:").length = 3 ∧ (ascii ";z:").length = 3 ∧
      (ascii ";worldTick:").length = 11 ∧ (ascii ";lastProcessedInputSequence:").length = 28 := by decide
  simp only [ownerFields, List.length_append, names]
  omega

theorem movementLength (sequence : UInt64) {movement : MovementIntent Single}
    (session : InInt64 movement.sessionId) :
    (inputPayload ⟨sequence, .movement movement⟩).length ≤ 300 := by
  have own := intTextLength session
  have dx := singleTextLength movement.dx
  have dy := singleTextLength movement.dy
  have dz := singleTextLength movement.dz
  have client := countLength movement.clientInputSequence
  have number := countLength sequence
  have names : (ascii "movement=session:").length = 17 ∧ (ascii ";dx=").length = 4 ∧
      (ascii ";dy=").length = 4 ∧ (ascii ";dz=").length = 4 ∧
      (ascii ";clientInputSequence=").length = 21 ∧ (ascii ";inputSequence=").length = 15 := by decide
  simp only [inputPayload, inputText, List.length_append, names]
  omega

section
variable {sequence : UInt64} {movement : MovementIntent Single} {update : WorldUpdate}
  {ownerAcks : List (MovementAck Single)} {ack : MovementAck Single}

theorem ownerCopied (event : EventOf (inputPayload ⟨sequence, .movement movement⟩) update)
    (session : InInt64 movement.sessionId) (positive : 0 < movement.sessionId)
    (found : findOwnerAck ownerAcks movement.sessionId = some ack) (finite : ack.finite = true) :
    copyWorldUpdateForSession update movement.sessionId ownerAcks =
      .ok { update with payload := update.payload ++ ownerFields ack } := by
  have own := (ackFound found).2
  have parsed := movementSession sequence movement []
  rw [List.append_nil, if_pos ⟨session, positive⟩, ← event.payload] at parsed
  have formatted : formatMovementAck ack = .ok _ :=
    if_neg (by simp only [finite, Bool.true_eq_false, or_false]; omega)
  have fits : update.payload.length + (ownerFields ack).length ≤ maxUpdatePayload := by
    have limit : maxUpdatePayload = 16384 := rfl
    have front := movementLength sequence session
    have back := ownerLength ack
    rw [← event.payload] at front
    omega
  unfold copyWorldUpdateForSession attachOwnerAckFields
  rw [if_neg (by simp [event.kind]), parsed]
  dsimp only
  rw [found]
  dsimp only
  rw [if_pos rfl, formatted]
  exact (attachExact event.valid (ownerFields ack)).mpr ⟨rfl, fits⟩

def CopyReads (update : WorldUpdate) (ownerAcks : List (MovementAck Single)) (ack : MovementAck Single) :
    Prop :=
  ∃ copy, copyWorldUpdateForSession update ack.sessionId ownerAcks = .ok copy ∧
    tryParseAttachedMovementAck copy.payload = some ack

def FormatReads (ack : MovementAck Single) : Prop :=
  ∃ payload, formatMovementAck ack = .ok payload ∧ parseMovementAck payload = .ok ack

def Kept : Single → Prop
  | .finite x => Printable x
  | _ => False
instance (x) : Decidable (Kept x) := by unfold Kept; split <;> infer_instance

theorem keptExact (x : Single) : parseFinite (FloatOps.text x) = some x ↔ Kept x := by
  cases x with
  | nan => exact ⟨fun same => absurd same (by decide +kernel), fun bad => bad.elim⟩
  | infinite negative =>
    refine ⟨fun same => ?_, fun bad => bad.elim⟩
    cases negative <;> exact absurd same (by decide +kernel)
  | finite x => exact parseExact x

theorem exactKept : Exact ack ↔ Kept ack.x ∧ Kept ack.y ∧ Kept ack.z := by
  rw [← keptExact, ← keptExact, ← keptExact]
  exact ⟨fun exact => ⟨exact.x, exact.y, exact.z⟩, fun ⟨x, y, z⟩ => ⟨x, y, z⟩⟩

theorem ackSurvives (produced : Produced (.input ⟨sequence, .movement movement⟩) update)
    (session : InInt64 movement.sessionId) (positive : 0 < movement.sessionId)
    (found : findOwnerAck ownerAcks movement.sessionId = some ack) (finite : ack.finite = true) :
    (CopyReads update ownerAcks ack ↔ Kept ack.x ∧ Kept ack.y ∧ Kept ack.z) ∧
      (FormatReads ack ↔ Kept ack.x ∧ Kept ack.y ∧ Kept ack.z) := by
  have own := (ackFound found).2
  rw [← exactKept]
  constructor
  · have event := movementEvent produced
    have copied := ownerCopied event session positive found finite
    have reads := ownerReads sequence session positive own
    unfold CopyReads
    rw [own, copied, ← reads, ← event.payload]
    constructor
    · rintro ⟨copy, same, read⟩
      cases same
      exact read
    · exact fun read => ⟨_, rfl, read⟩
  · have formatted : formatMovementAck ack =
        .ok (ascii "movementAck=session:" ++ intText ack.sessionId ++ ownerFields ack) := by
      unfold formatMovementAck
      rw [if_neg (by simp only [finite, Bool.true_eq_false, or_false]; omega), ownerFields]
      simp only [List.append_assoc]
    have reads := formattedReads (own ▸ session) (own ▸ positive)
    unfold FormatReads
    rw [formatted, ← reads]
    constructor
    · rintro ⟨payload, same, read⟩
      cases same
      exact read
    · exact fun read => ⟨_, rfl, read⟩

end

def stride : MovementIntent Single := ⟨7, ofRational 1, ofRational 0, ofRational 0, 4⟩

def strode : WorldUpdate := ⟨currentProtocolVersion, .event, 1, 1, 1, inputPayload ⟨1, .movement stride⟩⟩

def ackAt (x : ℚ) : MovementAck Single := ⟨7, ofRational x, ofRational 0, ofRational 0, 1, 4⟩

theorem strideMade : build {} ⟨1, [⟨1, .movement stride⟩]⟩ = (⟨2, 2⟩, [strode], .ok ()) := by
  decide +kernel

theorem quarterSurvives :
    CopyReads strode [ackAt (1 / 4)] (ackAt (1 / 4)) ∧ FormatReads (ackAt (1 / 4)) := by
  have exact := ackSurvives (.input (k := 0) strideMade rfl rfl) (by decide) (by decide)
    (by rfl : findOwnerAck [ackAt (1 / 4)] _ = some (ackAt (1 / 4))) (by decide +kernel)
  have kept : Kept (ofRational (1 / 4)) ∧ Kept (ofRational 0) ∧ Kept (ofRational 0) := by decide +kernel
  exact ⟨exact.1.mpr kept, exact.2.mpr kept⟩

theorem distantQuarterLost :
    binary32.nearest (49381 / 4) = 49381 / 4 ∧
    ¬ CopyReads strode [ackAt (49381 / 4)] (ackAt (49381 / 4)) ∧
    ¬ FormatReads (ackAt (49381 / 4)) ∧
    (copyWorldUpdateForSession strode 7 [ackAt (49381 / 4)]).toOption.bind (fun copy =>
      tryParseAttachedMovementAck copy.payload) = some (ackAt (61726 / 5)) := by
  have copied : (copyWorldUpdateForSession strode 7 [ackAt (49381 / 4)]).toOption.bind (fun copy =>
      tryParseAttachedMovementAck copy.payload) = some (ackAt (61726 / 5)) := by decide +kernel
  have formatted : (formatMovementAck (ackAt (49381 / 4))).toOption.bind (fun payload =>
      (parseMovementAck payload).toOption) = some (ackAt (61726 / 5)) := by decide +kernel
  have apart : ackAt (61726 / 5) ≠ ackAt (49381 / 4) := by decide +kernel
  refine ⟨by decide +kernel, ?_, ?_, copied⟩
  · rintro ⟨copy, made, read⟩
    have own : (ackAt (49381 / 4)).sessionId = 7 := rfl
    rw [own] at made
    rw [made] at copied
    exact apart (Option.some.inj (copied.symm.trans read))
  · rintro ⟨payload, made, read⟩
    rw [made] at formatted
    have back : (parseMovementAck payload).toOption = some (ackAt (61726 / 5)) := formatted
    rw [read] at back
    exact apart (Option.some.inj back).symm

end SeedOrigin.AckRoundTrip
