import StorageBallast.Daemon.PriorityScan
import StorageBallast.Scanner.ScoreMonotonicity

/-! What the least age of a file does to the scans of the daemon. It holds a candidate back, but on
the fast track it is also the age that the candidate is scored with.
-/

namespace StorageBallast

variable (scoring : ScoringConfig ℝ) (observed : CandidateInput ℝ) (urgency : ℝ)

/-- The score of a candidate as it was observed, under a setting of the least age. -/
noncomputable def pipelineScore (minFileAgeMinutes : Nat) (pressureLevel : PressureLevel)
    : CandidacyScore ℝ :=
  (ScoringEngine.fromConfig scoring minFileAgeMinutes).scoreCandidate
    { observed with
      age := adjustedCandidateAge observed.age minFileAgeMinutes pressureLevel observed.path
        observed.classification }
    urgency

def CandidacyScore.Deletes (score : CandidacyScore ℝ) : Prop :=
  score.vetoed = false ∧ score.decision.action = .delete

def ageFloor (minFileAgeMinutes : Nat) : Duration :=
  Duration.fromSecs (min (minFileAgeMinutes * 60) (2 ^ 64 - 1))

def DeletesAged (age : Duration) : Prop :=
  (ScoringEngine.scoreCandidate { ScoringEngine.fromConfig scoring 0 with minFileAge := 0 }
    { observed with age := age } urgency).Deletes

theorem ageFloor_mono {lax strict : Nat} (le : lax ≤ strict) : ageFloor lax ≤ ageFloor strict :=
  Nat.mul_le_mul_right _ (min_le_min_right _ (Nat.mul_le_mul_right 60 le))

theorem deletes_iff {engine : ScoringEngine ℝ} {input : CandidateInput ℝ} {urgency : ℝ}
    : (engine.scoreCandidate input urgency).Deletes
      ↔ NoVeto engine input []
        ∧ (engine.unvetoedScore input urgency).decision.action = .delete := by
  rw [← vetoReason_eq_none_iff]
  unfold ScoringEngine.scoreCandidate
  rcases engine.scoreCandidateWithSacredOverlaps_cases input urgency [] with
    ⟨reason, vetoed, same⟩ | ⟨clear, same⟩
  · rw [same, vetoed]
    exact iff_of_false (fun deletes => Bool.noConfusion deletes.1) (fun both => nomatch both.1)
  · rw [same, clear]
    exact ⟨fun deletes => ⟨rfl, deletes.2⟩, fun both => ⟨rfl, both.2⟩⟩

theorem deletes_withFloor_iff {engine : ScoringEngine ℝ} {input : CandidateInput ℝ}
    {urgency : ℝ} (floor : Duration)
    : (ScoringEngine.scoreCandidate { engine with minFileAge := floor } input urgency).Deletes
      ↔ floor ≤ input.age
        ∧ (ScoringEngine.scoreCandidate { engine with minFileAge := 0 } input urgency).Deletes := by
  rw [deletes_iff, deletes_iff]
  constructor
  · rintro ⟨clear, deletes⟩
    exact ⟨clear.oldEnough, { clear with oldEnough := Nat.zero_le _ }, deletes⟩
  · rintro ⟨old, clear, deletes⟩
    exact ⟨{ clear with oldEnough := old }, deletes⟩

theorem deletes_floor_iff (minFileAgeMinutes : Nat) (age : Duration)
    : ((ScoringEngine.fromConfig scoring minFileAgeMinutes).scoreCandidate
        { observed with age := age } urgency).Deletes
      ↔ ageFloor minFileAgeMinutes ≤ age ∧ DeletesAged scoring observed urgency age :=
  @deletes_withFloor_iff (ScoringEngine.fromConfig scoring 0) { observed with age := age } urgency
    (ageFloor minFileAgeMinutes)

variable {scoring observed urgency}

/-- What would be deleted at some age would be at every later one. -/
theorem DeletesAged.older (falsePositive : 0 ≤ scoring.falsePositiveLoss)
    (falseNegative : 0 ≤ scoring.falseNegativeLoss) {age older : Duration}
    (deletes : DeletesAged scoring observed urgency age) (aged : age ≤ older)
    : DeletesAged scoring observed urgency older := by
  have nonneg : ({ ScoringEngine.fromConfig scoring 0 with minFileAge := 0 }
      : ScoringEngine ℝ).Nonnegative :=
    { ScoringEngine.fromConfig_nonnegative falsePositive falseNegative 0 with }
  obtain ⟨clear, decided⟩ := deletes_iff.mp deletes
  exact deletes_iff.mpr ⟨clear.older aged,
    ScoringEngine.unvetoedScore_delete_mono nonneg { observed with age := age } aged le_rfl
      decided⟩

/-- A rule of the catalogue holds back at the age that a candidate is scored with. -/
theorem DeletesAged.ruleAge {age : Duration} (deletes : DeletesAged scoring observed urgency age)
    {rule : CleanupRule} (governs : rule ∈ cleanupRuleForClassification observed.classification)
    : rule.ageThreshold ≤ age :=
  (deletes_iff.mp deletes).1.ruleAge rule governs

/-- On the fast track the age is raised to the least one. -/
theorem adjustedCandidateAge_cases (observedAge : Duration) (pressureLevel : PressureLevel)
    (path : PathBuf) (classification : ArtifactClassification ℝ)
    : (shouldFastTrackTempAge pressureLevel path classification = true
        ∧ tempFastTrackMinObservedAge ≤ observedAge
        ∧ ∀ minutes, adjustedCandidateAge observedAge minutes pressureLevel path classification
            = max observedAge (ageFloor minutes))
      ∨ (¬ (shouldFastTrackTempAge pressureLevel path classification = true
          ∧ tempFastTrackMinObservedAge ≤ observedAge)
        ∧ ∀ minutes, adjustedCandidateAge observedAge minutes pressureLevel path classification
            = observedAge) := by
  unfold adjustedCandidateAge ageFloor
  cases shouldFastTrackTempAge pressureLevel path classification with
  | false => exact .inr ⟨fun both => Bool.noConfusion both.1, fun _ => rfl⟩
  | true =>
      by_cases fresh : observedAge < tempFastTrackMinObservedAge
      · exact .inr ⟨fun both => absurd fresh (Nat.not_lt.mpr both.2), fun _ => if_pos fresh⟩
      · exact .inl ⟨rfl, Nat.not_lt.mp fresh, fun _ => if_neg fresh⟩

variable (scoring observed urgency)

/-- Of two settings the stricter one deletes no more, and none undercuts a rule of the
catalogue.
-/
def FloorsHoldBack (lax strict : Nat) (pressureLevel : PressureLevel) : Prop :=
  ((pipelineScore scoring observed urgency strict pressureLevel).Deletes
      → (pipelineScore scoring observed urgency lax pressureLevel).Deletes)
  ∧ ∀ minutes ∈ [lax, strict],
      (pipelineScore scoring observed urgency minutes pressureLevel).Deletes
        → ∀ rule ∈ cleanupRuleForClassification observed.classification,
            rule.ageThreshold ≤ observed.age

/-- If the stricter setting raises the age of a candidate to the one from which on it would be
deleted, so does the other setting, and the candidate is as old as its rule asks for.
-/
def FloorsHarmless (lax strict : Nat) (pressureLevel : PressureLevel) : Prop :=
  shouldFastTrackTempAge pressureLevel observed.path observed.classification = true
    → tempFastTrackMinObservedAge ≤ observed.age
    → ∀ due, IsLeast { age | DeletesAged scoring observed urgency age } due
        → due ≤ max observed.age (ageFloor strict)
        → due ≤ max observed.age (ageFloor lax)
          ∧ ∀ rule ∈ cleanupRuleForClassification observed.classification,
              rule.ageThreshold ≤ observed.age

noncomputable def ageOnly : ScoringConfig ℝ :=
  let zero : ℝ := 0
  { ScoringConfig.default with
    locationWeight := zero, nameWeight := zero, ageWeight := 1, sizeWeight := zero
    structureWeight := zero }

/-- The build directory is deleted at the age that a floor of five hours gives it. -/
theorem ageOnly_deletes
    : ((ScoringEngine.fromConfig ageOnly 300).scoreCandidate certainTarget (9 / 10)).Deletes := by
  have clear : NoVeto (ScoringEngine.fromConfig ageOnly 300) certainTarget [] := by
    rw [← vetoReason_eq_none_iff]
    decide +kernel
  have total : ((ScoringEngine.fromConfig ageOnly 300).unvetoedScore certainTarget
      (9 / 10 : ℝ)).totalScore = 5 / 2 := by
    change Float64.clamp (ScoringEngine.baseScore _ (ScoringEngine.factorsOf _ _)
      * (ScoringEngine.factorsOf _ _).pressureMultiplier) _ _ = _
    rw [factorsOf_certainTarget, ScoringEngine.real_baseScore,
      real_clamp (by norm_num [real_literal, decimalValue])]
    simp only [ScoringEngine.fromConfig, ageOnly, ScoringConfig.default, real_max]
    norm_num [real_literal, decimalValue]
  refine deletes_iff.mpr ⟨clear, certainTarget_action ?_ ?_ ?_ ?_ ?_⟩
  · norm_num [ScoringEngine.fromConfig, ageOnly, ScoringConfig.default, real_literal, decimalValue]
  · norm_num [ScoringEngine.fromConfig, ageOnly, ScoringConfig.default, real_literal, decimalValue]
  · norm_num [ScoringEngine.fromConfig, ageOnly, ScoringConfig.default, real_literal, decimalValue]
  · rw [total]
    norm_num
  · rw [total]
    norm_num [ScoringEngine.fromConfig, ageOnly, ScoringConfig.default, real_literal, decimalValue]

theorem ageOnly_keeps
    : ¬ ((ScoringEngine.fromConfig ageOnly 0).scoreCandidate
        { certainTarget with age := .fromSecs 120 } (9 / 10)).Deletes := by
  intro deletes
  have fresh : (factorAge (.fromSecs 120) : ℝ) = 0 := by
    rw [real_factorAge, real_asSecsF64]
    norm_num [Duration.fromSecs]
  have scoreless : ((ScoringEngine.fromConfig ageOnly 0).unvetoedScore
      { certainTarget with age := .fromSecs 120 } (9 / 10 : ℝ)).totalScore = 0 := by
    change Float64.clamp (ScoringEngine.baseScore _ (ScoringEngine.factorsOf _ _)
      * (ScoringEngine.factorsOf _ _).pressureMultiplier) _ _ = _
    rw [real_clamp (by norm_num [real_literal, decimalValue]), ScoringEngine.real_baseScore]
    simp only [ScoringEngine.factorsOf, fresh, ScoringEngine.fromConfig, ageOnly,
      ScoringConfig.default, real_max]
    norm_num [real_literal, decimalValue]
  obtain ⟨decided, _⟩ := manualReviewOverride_delete (deletes_iff.mp deletes).2
  obtain ⟨scored, _⟩ := decideAction_eq_delete_iff.mp decided
  have enough : ((ScoringEngine.fromConfig ageOnly 0).minScore : ℝ) ≤ 0 :=
    (real_not_lt_iff.mp scored).trans_eq scoreless
  norm_num [ScoringEngine.fromConfig, ageOnly, ScoringConfig.default, real_literal, decimalValue]
    at enough

end StorageBallast
