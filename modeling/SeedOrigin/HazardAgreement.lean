import SeedOrigin.FrameIsolation
import SeedOrigin.HazardClient

/-! Which of the server's hazards the client takes. The server compares exact
values with its thresholds, the client the printed ones. -/
namespace SeedOrigin.HazardAgreement
open SeedOrigin.Octets SeedOrigin.Numbers SeedOrigin.Decimal SeedOrigin.Significant SeedOrigin.Ether
open SeedOrigin.Character SeedOrigin.ClientInput SeedOrigin.Inputs SeedOrigin.UpdateWire
open SeedOrigin.UpdateBuilder SeedOrigin.Applier SeedOrigin.Numbering SeedOrigin.FrameUpdates
open SeedOrigin.GaplessStream SeedOrigin.FrameIsolation SeedOrigin.FieldEffects SeedOrigin.Runs
open SeedOrigin.HazardClient

theorem parseText (q : ℚ) : parseFinite (F := ℚ) (text q) = some (rounded q) := by
  have scanned : FloatOps.scan (F := ℚ) (text q) = some (rounded q, []) := scanText q
  unfold parseFinite
  rw [scanned]
  rfl

theorem parsePrinted (severity instability : ℚ) :
    parseHazard (hazardPayload severity instability) =
      if rounded severity ≤ 0 ∨ rounded instability ≤ 1 then
        .error "hazard event contains invalid fields"
      else .ok (rounded severity, rounded instability) := by
  have shape : hazardPayload severity instability = ascii "etherHazard=" ++ (ascii "severity:" ++
      (text severity ++ (ascii ";instability:" ++ text instability))) := by
    have front : ascii "etherHazard=severity:" = ascii "etherHazard=" ++ ascii "severity:" := by decide
    unfold hazardPayload
    rw [front]
    simp only [List.append_assoc]
    rfl
  have semicolon : ascii ";instability:" = 59 :: ascii "instability:" := by decide
  have first : 59 ∉ text severity := textLacks severity (by decide)
  have last : 59 ∉ text instability := textLacks instability (by decide)
  have cut := cutFirst (ascii "instability:") (text instability) first
  rw [← semicolon] at cut
  unfold parseHazard
  rw [shape]
  simp only [List.take_left, List.drop_left, ne_eq, not_true_eq_false, if_false, cut, if_neg last,
    parseText]
  simp only [FloatOps.le, FloatOps.lit, decide_eq_true_eq]

theorem logOne {q : ℚ} (low : 1 ≤ q) (high : q < 10) : Int.log 10 q = 0 := by
  have pos : 0 < q := by linarith
  have lower : (0 : Int) ≤ Int.log 10 q := by
    rw [← Int.zpow_le_iff_le_log (by decide) pos]
    simpa using low
  have upper : Int.log 10 q < 1 := by
    rw [← Int.lt_zpow_iff_log_lt (by decide) pos]
    simpa using high
  omega

theorem significantOne {q : ℚ} (low : 1 ≤ q) (high : q < 10) :
    significant q = if roundEven (q * 10 ^ 5) = 10 ^ 6 then (10 ^ 5, 1)
      else (roundEven (q * 10 ^ 5), 0) := by
  have scaled : q / 10 ^ ((0 : Int) - 5) = q * 10 ^ 5 := by
    rw [zero_sub, zpow_neg, div_inv_eq_mul]
    rfl
  unfold significant
  dsimp only
  rw [logOne low high, scaled]
  rfl

theorem roundedAbove {q : ℚ} (low : 1 < q) (high : q < 10) :
    1 < rounded q ↔ 1 + 1 / 200000 < q := by
  have zero : q ≠ 0 := by linarith
  have plus : ¬ q < 0 := by linarith
  have least : ((10 ^ 5 : Nat) : ℚ) ≤ q * 10 ^ 5 := by
    push_cast
    linarith
  have above := roundEvenAbove least (by decide)
  have half : ((10 ^ 5 : Nat) : ℚ) + 1 / 2 < q * 10 ^ 5 ↔ 1 + 1 / 200000 < q := by
    push_cast
    constructor <;> intro h <;> linarith
  rw [half] at above
  unfold rounded magnitude
  rw [if_neg zero, if_neg plus, significantOne low.le high, ← above]
  split
  · rename_i carry
    rw [carry]
    norm_num
  · have unit : (roundEven (q * 10 ^ 5) : ℚ) * 10 ^ ((0 : Int) - 5) = roundEven (q * 10 ^ 5) / 10 ^ 5 := by
      rw [zero_sub, zpow_neg, div_eq_mul_inv]
      rfl
    dsimp only
    rw [unit, lt_div_iff₀ (by norm_num), one_mul]
    exact_mod_cast Iff.rfl

theorem roundedInstability {q : ℚ} (low : 1 < q) (high : q ≤ 10) :
    1 < rounded q ↔ 1 + 1 / 200000 < q := by
  obtain less | top := lt_or_eq_of_le high
  · exact roundedAbove low less
  · have ten : (1 : ℚ) < rounded 10 := by decide +kernel
    rw [top]
    exact ⟨fun _ => by norm_num, fun _ => ten⟩

theorem roundedPositive {q : ℚ} (pos : 0 < q) : 0 < rounded q := by
  unfold rounded
  rw [if_neg pos.ne', if_neg (not_lt.mpr pos.le)]
  exact magnitudePos pos

theorem numberedLast (worldTick : UInt64) (builder : WorldFrameUpdateBuilder) (payloads : List Bytes)
    (last : Bytes) : numbered worldTick builder (payloads ++ [last]) =
      numbered worldTick builder payloads ++
        [eventUpdate (advance builder payloads.length) worldTick last] := by
  induction payloads generalizing builder with
  | nil => rw [List.length_nil, advanceZero]; rfl
  | cons p ps ih =>
    rw [List.cons_append, numbered, ih, advanceAdd, Nat.add_comm 1]
    rfl

def emittedHazard (ether : EnvironmentEther ℚ) : Bytes :=
  hazardPayload (adverseEffectSeverity ether) (instability ether)

theorem hazardLast (applier : WorldFrameApplier ℚ) {field : Field ℚ} {frame : WorldFrameInputs ℚ}
    (positive : Positive applier.updateBuilder)
    (success : (apply applier field frame).outcome = .ok ())
    (adverse : hasAdverseEffect (apply applier field frame).field.fieldEther = true) :
    ∃ earlier n, Room applier.updateBuilder (n + 1) ∧
      Small (emittedHazard (apply applier field frame).field.fieldEther) ∧
      (apply applier field frame).updates = earlier ++ [eventUpdate (advance applier.updateBuilder n)
        frame.worldTick (emittedHazard (apply applier field frame).field.fieldEther)] := by
  obtain ⟨-, complete, room, small⟩ := (succeedsExactly applier field frame positive).mp success
  obtain ⟨⟨resolutions, processed⟩, published⟩ := acceptedFrame applier positive success
  obtain ⟨-, hazard⟩ := acceptedField processed
  have wanted : (asked field frame).1 = (frame.inputs.map inputPayload ++
      resolutions.map resolutionPayload) ++
        [emittedHazard (apply applier field frame).field.fieldEther] := by
    unfold asked at complete ⊢
    rw [processed] at complete ⊢
    unfold hazardAsked at complete ⊢
    dsimp only at complete ⊢
    rw [if_neg (by simp [adverse])] at complete ⊢
    split at complete
    · contradiction
    · rename_i valid
      rw [if_neg valid, List.append_assoc, hazard]
      rfl
  rw [wanted] at room small published
  rw [List.length_append, List.length_singleton] at room
  rw [numberedLast] at published
  exact ⟨_, _, room, small _ (by simp), published⟩

theorem eventLeft {builder : WorldFrameUpdateBuilder} {n : Nat} (room : Room builder (n + 1)) :
    (advance builder n).updateSequence ≠ maxUint64 := by
  have here := (advanceNat (roomLess room (Nat.le_succ n))).1
  have top : maxUint64.toNat = 2 ^ 64 - 1 := rfl
  rw [Ne, ← UInt64.toNat_inj, here, top]
  have low := room.1
  omega

theorem hazardTaken (calls : List (Call ℚ)) (field : Field ℚ) (frame : WorldFrameInputs ℚ)
    (success : (apply (run serve ({} : Stream ℚ) calls).applier field frame).outcome = .ok ())
    (adverse : hasAdverseEffect
      (apply (run serve ({} : Stream ℚ) calls).applier field frame).field.fieldEther = true) :
    let result := apply (run serve ({} : Stream ℚ) calls).applier field frame
    let ether := result.field.fieldEther
    ∃ earlier hazard, result.updates = earlier ++ [hazard] ∧ hazard.payload = emittedHazard ether ∧
      ∀ queue : ClientHazardEffectQueue ℚ, queue.Ready hazard →
        (queue.ingest hazard = (queue.taking hazard (rounded (adverseEffectSeverity ether))
            (rounded (instability ether)), .applied, "") ↔ 1 + 1 / 200000 < instability ether) ∧
        (¬ 1 + 1 / 200000 < instability ether →
          queue.ingest hazard = (queue, .rejected, "hazard event contains invalid fields")) := by
  have positive := runPositive calls
  intro result ether
  obtain ⟨earlier, n, room, small, published⟩ := hazardLast _ positive success adverse
  have here := positiveAdvance positive (roomLess room (Nat.le_succ n))
  refine ⟨earlier, _, published, rfl, fun queue ready => ?_⟩
  have valid := eventValid here frame.worldTick (emittedHazard ether)
  rw [if_neg (not_lt.mpr small)] at valid
  have event : (advance (run serve ({} : Stream ℚ) calls).applier.updateBuilder n).eventId ≠ 0 := by
    rw [Ne, ← UInt64.toNat_inj]
    exact here.2.ne'
  have above : 1 < instability ether := (adverseExact ether).mp adverse
  have severity : 0 < rounded (adverseEffectSeverity ether) := by
    rw [severityExact ether above]
    exact roundedPositive (by linarith)
  have threshold := roundedInstability above (instabilityBound ether)
  rw [ingestReady ready rfl event valid (eventLeft room)]
  have parsed : parseHazard (emittedHazard ether) = if rounded (adverseEffectSeverity ether) ≤ 0 ∨
      rounded (instability ether) ≤ 1 then .error "hazard event contains invalid fields"
      else .ok (rounded (adverseEffectSeverity ether), rounded (instability ether)) :=
    parsePrinted _ _
  have payload : (eventUpdate (advance (run serve ({} : Stream ℚ) calls).applier.updateBuilder n)
      frame.worldTick (emittedHazard ether)).payload = emittedHazard ether := rfl
  rw [payload, parsed]
  by_cases printed : 1 + 1 / 200000 < instability ether
  · have kept : ¬ (rounded (adverseEffectSeverity ether) ≤ 0 ∨ rounded (instability ether) ≤ 1) := by
      have big := threshold.mpr printed
      intro bad
      obtain bad | bad := bad <;> linarith
    rw [if_neg kept]
    exact ⟨⟨fun _ => printed, fun _ => rfl⟩, fun no => absurd printed no⟩
  · have lost : rounded (adverseEffectSeverity ether) ≤ 0 ∨ rounded (instability ether) ≤ 1 :=
      .inr (not_lt.mp (fun big => printed (threshold.mp big)))
    rw [if_pos lost]
    refine ⟨⟨fun same => ?_, fun big => absurd big printed⟩, fun _ => rfl⟩
    have results := congrArg (fun out => out.2.1) same
    contradiction

def burning (fire : ℚ) : Field ℚ :=
  { (Field.initial : Field ℚ) with fieldEther := ⟨fire, 0, 0, 0⟩ }

theorem hazardTakenBurning :
    let result := apply (run serve ({} : Stream ℚ) []).applier (burning 300) ⟨1, []⟩
    let ether := result.field.fieldEther
    ∃ earlier hazard, result.updates = earlier ++ [hazard] ∧ hazard.payload = emittedHazard ether ∧
      ∀ queue : ClientHazardEffectQueue ℚ, queue.Ready hazard →
        (queue.ingest hazard = (queue.taking hazard (rounded (adverseEffectSeverity ether))
            (rounded (instability ether)), .applied, "") ↔ 1 + 1 / 200000 < instability ether) ∧
        (¬ 1 + 1 / 200000 < instability ether →
          queue.ingest hazard = (queue, .rejected, "hazard event contains invalid fields")) :=
  hazardTaken [] (burning 300) ⟨1, []⟩ (by decide +kernel) (by decide +kernel)

-- An instability of 1.000001 is printed as 1.
theorem faintHazardRefused :
    (apply {} (burning (1000001 / 4900)) ⟨1, []⟩).outcome = .ok () ∧
    (apply {} (burning (1000001 / 4900)) ⟨1, []⟩).updates.map (fun hazard =>
      (hazard.payload, (({} : ClientHazardEffectQueue ℚ).ingest hazard).2)) =
      [(ascii "etherHazard=severity:1e-06;instability:1", .rejected,
        "hazard event contains invalid fields")] := by
  decide +kernel

end SeedOrigin.HazardAgreement
