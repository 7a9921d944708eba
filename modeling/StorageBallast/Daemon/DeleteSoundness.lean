import StorageBallast.Daemon.EvaluationAccounts
import StorageBallast.Foundations.FloatValues
import StorageBallast.Scanner.DeleteDecisions

/-! What a decision to delete rests on: none of the conditions for a veto holds, and the score, the
calibration, the losses and the posterior all speak for it. A veto on the other hand is
final.
-/

namespace StorageBallast

open scoped Float64

variable {F : Type} [Float64 F]

section numbers

variable [NumberFloat64 F]

open NumberFloat64

/-- A posterior that is a number comes from a score that is one. -/
theorem score_ordered_of_posterior {totalScore confidence : F}
    (ordered : Float64.le (posteriorFromScore totalScore confidence)
      (posteriorFromScore totalScore confidence) = true)
    : Float64.le totalScore totalScore = true := by
  have exponential := (add_ordered (div_ordered ordered).2).2
  have logit := neg_ordered (exp_ordered exponential)
  have scaled := (sub_ordered (mulAdd_ordered logit).2.1).1
  exact (div_ordered (clamp_ordered scaled)).1

/-- A threshold that is reached and depends on the calibration has one that is a number. -/
theorem calibration_ordered_of_reached {calibration uncertainty posterior : F}
    (reached : Float64.ge posterior (requiredPosterior calibration uncertainty) = true)
    : Float64.le calibration calibration = true := by
  have required := clamp_ordered (ordered_of_le reached).1
  exact clamp_ordered (sub_ordered (mulAdd_ordered required).1).2

end numbers

structure DeleteSound (engine : ScoringEngine F) (input : CandidateInput F)
    (overlaps : List SacredOverlap) (score : CandidacyScore F) : Prop
    extends NoVeto engine input overlaps where
  notPrompted
    : ∀ rule ∈ cleanupRuleForClassification input.classification,
      rule.reclaimCommand ≠ .promptBeforeRemove
  scoreNotBelow : Float64.lt score.totalScore engine.minScore = false
  /-- A least score that is a number is reached. -/
  scored
    : Float64.le engine.minScore engine.minScore = true →
      Float64.ge score.totalScore engine.minScore = true
  calibrationNotBelow
    : Float64.lt score.decision.calibrationScore engine.calibrationFloor = false
  calibrated
    : Float64.le engine.calibrationFloor engine.calibrationFloor = true →
      Float64.ge score.decision.calibrationScore engine.calibrationFloor = true
  lossesFavour
    : Float64.lt score.decision.expectedLossDelete score.decision.expectedLossKeep = true
  abandoned : Float64.ge score.decision.posteriorAbandoned 0.60 = true

theorem unvetoedScore_delete_sound [NumberFloat64 F] {engine : ScoringEngine F}
    {input : CandidateInput F} {urgency : F} {overlaps : List SacredOverlap}
    (clear : NoVeto engine input overlaps)
    (deletes : (engine.unvetoedScore input urgency).decision.action = .delete)
    : DeleteSound engine input overlaps (engine.unvetoedScore input urgency) := by
  obtain ⟨decided, notPrompted⟩ := manualReviewOverride_delete deletes
  obtain ⟨notBelow, certain, _, losses, reached, _⟩ := decideAction_eq_delete_iff.mp decided
  have posterior := (NumberFloat64.ordered_of_le reached).2
  have bounds : Float64.le (0.60 : F) 0.95 = true :=
    NumberFloat64.decimal_le (by norm_num [decimalValue])
  exact {
    toNoVeto := clear
    notPrompted
    scoreNotBelow := notBelow
    scored := NumberFloat64.ge_of_not_lt notBelow (score_ordered_of_posterior posterior)
    calibrationNotBelow := certain
    calibrated := NumberFloat64.ge_of_not_lt certain (calibration_ordered_of_reached reached)
    lossesFavour := losses
    abandoned := NumberFloat64.low_le_of_clamp_le bounds reached }

/-- A candidate that is kept is never approved for deletion. -/
theorem not_approved_of_keep {candidate : CandidacyScore F}
    (kept : candidate.decision.action = .keep) (policy : PolicyEngine F)
    (candidates : List (CandidacyScore F)) (guard : Option (GuardDiagnostics F)) (now : Instant)
    : candidate ∉ (policy.evaluate candidates guard now).2.approvedForDeletion := by
  intro approved
  obtain ⟨_, _, _, accounts⟩ := policy.evaluate_accounts candidates guard now
  have deletes := accounts.approvedDeletes candidate approved
  rw [kept] at deletes
  cases deletes

/-- A decision to delete is sound, and a veto is final: whatever the engine is set to, whatever
candidate it scores at whatever urgency, and in whatever state the policy is.
-/
theorem delete_sound_and_veto_final [NumberFloat64 F] (engine : ScoringEngine F)
    (input : CandidateInput F) (urgency : F) (overlaps : List SacredOverlap)
    : ((engine.scoreCandidateWithSacredOverlaps input urgency overlaps).decision.action = .delete →
        DeleteSound engine input overlaps
          (engine.scoreCandidateWithSacredOverlaps input urgency overlaps))
      ∧ ((engine.scoreCandidateWithSacredOverlaps input urgency overlaps).vetoed = true →
        (engine.scoreCandidateWithSacredOverlaps input urgency overlaps).decision.action = .keep
        ∧ (engine.scoreCandidateWithSacredOverlaps input urgency overlaps).totalScore = 0.0
        ∧ ∀ (policy : PolicyEngine F) candidates guard now,
          engine.scoreCandidateWithSacredOverlaps input urgency overlaps
            ∉ (policy.evaluate candidates guard now).2.approvedForDeletion) := by
  rcases engine.scoreCandidateWithSacredOverlaps_cases input urgency overlaps with
    ⟨reason, _, vetoed⟩ | ⟨unvetoed, scored⟩
  · rw [vetoed]
    refine ⟨?_, fun _ => ⟨rfl, rfl, not_approved_of_keep rfl⟩⟩
    intro deletes
    cases deletes
  · rw [scored]
    refine ⟨unvetoedScore_delete_sound (vetoReason_eq_none_iff.mp unvetoed), ?_⟩
    intro vetoed
    cases vetoed

/-- A build directory in temporary storage that nobody has touched for five hours. -/
def staleTarget : CandidateInput ℚ where
  path := ⟨"/tmp/build/target"⟩
  sizeBytes := 3 * 2 ^ 30
  age := .fromHours 5
  classification := ⟨"exact-target", .rustTarget, 9 / 10, 95 / 100, 92 / 100⟩
  signals := { StructuralSignals.default with
    hasIncremental := true, hasDeps := true, hasFingerprint := true }
  activeReferences := .default
  isOpen := false
  excluded := false

/-- With the default configuration it is deleted at high urgency, and rightly so. -/
theorem staleTarget_delete_sound
    : DeleteSound (.fromConfig .default 30) staleTarget []
        ((ScoringEngine.fromConfig .default 30).scoreCandidateWithSacredOverlaps staleTarget
          (9 / 10) []) :=
  (delete_sound_and_veto_final (.fromConfig .default 30) staleTarget (9 / 10) []).1
    (by decide +kernel)

end StorageBallast
