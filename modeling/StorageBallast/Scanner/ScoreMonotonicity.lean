import Mathlib.Analysis.SpecialFunctions.BinaryEntropy
import StorageBallast.Foundations.RealFloats
import StorageBallast.Scanner.DeleteDecisions

/-! How the quantities behind a decision follow pressure and age, in exact arithmetic. Both only
raise the score, and with it the posterior; where that is above one half the uncertainty
falls, and every threshold of the decision with it.
-/

namespace StorageBallast

open scoped Float64

/-! Age and pressure -/

theorem real_asSecsF64 (age : Duration) : (asSecsF64 age : ℝ) = (age : ℝ) / 1000000000 := by
  have parts : (age : ℝ) = ((age / 1000000000 : ℕ) : ℝ) * 1000000000
      + ((age % 1000000000 : ℕ) : ℝ) := by
    exact_mod_cast (Nat.div_add_mod' age 1000000000).symm
  unfold asSecsF64
  rw [real_ofNat, real_ofNat, real_ofNat]
  change ((age / 1000000000 : ℕ) : ℝ) + _ = _
  rw [parts, add_div, mul_div_assoc]
  norm_num

theorem real_factorAge (age : Duration)
    : (factorAge age : ℝ)
      = if asSecsF64 age / 3600 < (1 / 2 : ℝ) then 0
        else if asSecsF64 age / 3600 < (2 : ℝ) then 1 / 5
        else if asSecsF64 age / 3600 < (4 : ℝ) then 7 / 10
        else 1 := by
  unfold factorAge
  simp only [real_lt_iff]
  norm_num [real_literal, decimalValue]

theorem factorAge_nonneg (age : Duration) : (0 : ℝ) ≤ factorAge age := by
  rw [real_factorAge]
  split_ifs <;> norm_num

theorem factorAge_mono {age older : Duration} (aged : age ≤ older)
    : (factorAge age : ℝ) ≤ factorAge older := by
  have hours : (asSecsF64 age : ℝ) / 3600 ≤ asSecsF64 older / 3600 := by
    rw [real_asSecsF64, real_asSecsF64]
    have cast : (age : ℝ) ≤ older := by exact_mod_cast aged
    linarith
  rw [real_factorAge, real_factorAge]
  split_ifs <;> linarith

/-- The multiplier on the unit interval, by its four pieces. -/
theorem real_pressureMultiplier (urgency : ℝ)
    : pressureMultiplier urgency
      = if max 0 (min urgency 1) ≤ 3 / 10 then 1 + max 0 (min urgency 1)
        else if max 0 (min urgency 1) ≤ 1 / 2 then 1 + max 0 (min urgency 1)
        else if max 0 (min urgency 1) ≤ 4 / 5 then
          (max 0 (min urgency 1) - 1 / 2) * (5 / 3) + 3 / 2
        else (max 0 (min urgency 1) - 4 / 5) * 5 + 2 := by
  unfold pressureMultiplier
  dsimp only
  rw [real_clamp (by norm_num [real_literal, decimalValue])]
  simp only [real_le_iff, real_mulAdd]
  norm_num [real_literal, decimalValue]
  split_ifs <;> ring

theorem one_le_pressureMultiplier (urgency : ℝ) : 1 ≤ pressureMultiplier urgency := by
  have least : 0 ≤ max 0 (min urgency 1) := le_max_left _ _
  rw [real_pressureMultiplier]
  split_ifs <;> linarith

theorem pressureMultiplier_mono {urgency higher : ℝ} (pressed : urgency ≤ higher)
    : pressureMultiplier urgency ≤ pressureMultiplier higher := by
  have clamped : max 0 (min urgency 1) ≤ max 0 (min higher 1) :=
    max_le_max_left _ (min_le_min_right _ pressed)
  rw [real_pressureMultiplier, real_pressureMultiplier]
  split_ifs <;> linarith

/-! The score -/

/-- What the configuration guarantees of an engine: no weight and no loss is negative. -/
structure ScoringEngine.Nonnegative (engine : ScoringEngine ℝ) : Prop where
  location : 0 ≤ engine.weights.location
  name : 0 ≤ engine.weights.name
  age : 0 ≤ engine.weights.age
  size : 0 ≤ engine.weights.size
  structure_ : 0 ≤ engine.weights.structure
  falsePositiveLoss : 0 ≤ engine.falsePositiveLoss
  falseNegativeLoss : 0 ≤ engine.falseNegativeLoss

theorem factorLocation_nonneg (path : PathBuf) : (0 : ℝ) ≤ factorLocation path := by
  unfold factorLocation
  dsimp only
  split_ifs <;> norm_num [real_literal, decimalValue]

theorem factorName_nonneg (path : PathBuf) (classification : ArtifactClassification ℝ)
    : 0 ≤ factorName path classification := by
  unfold factorName
  dsimp only
  rw [real_clamp (by norm_num [real_literal, decimalValue])]
  norm_num [real_literal, decimalValue]

theorem factorSize_nonneg (sizeBytes : Nat) : (0 : ℝ) ≤ factorSize sizeBytes := by
  unfold factorSize
  dsimp only
  split_ifs <;> norm_num [real_literal, decimalValue]

theorem factorStructure_nonneg (signals : StructuralSignals)
    : (0 : ℝ) ≤ factorStructure signals := by
  unfold factorStructure
  split_ifs <;> norm_num [real_literal, decimalValue]

namespace ScoringEngine

variable {engine : ScoringEngine ℝ}

theorem real_baseScore (factors : ScoreFactors ℝ)
    : engine.baseScore factors
      = engine.weights.structure * factors.structure + engine.weights.size * factors.size
        + engine.weights.age * factors.age + engine.weights.location * factors.location
        + engine.weights.name * factors.name := by
  unfold baseScore
  simp only [real_mulAdd]
  ring

theorem totalScore_mono (nonneg : engine.Nonnegative) (input : CandidateInput ℝ)
    {older : Duration} (aged : input.age ≤ older) {urgency higher : ℝ} (pressed : urgency ≤ higher)
    : (engine.unvetoedScore input urgency).totalScore
      ≤ (engine.unvetoedScore { input with age := older } higher).totalScore := by
  have bounds : (0.0 : ℝ) ≤ 3.0 := by norm_num [real_literal, decimalValue]
  change Float64.clamp (engine.baseScore (factorsOf input urgency)
      * (factorsOf input urgency).pressureMultiplier) 0.0 3.0
    ≤ Float64.clamp (engine.baseScore (factorsOf { input with age := older } higher)
      * (factorsOf { input with age := older } higher).pressureMultiplier) 0.0 3.0
  apply real_clamp_mono bounds
  have base : engine.baseScore (factorsOf input urgency)
      ≤ engine.baseScore (factorsOf { input with age := older } higher) := by
    rw [real_baseScore, real_baseScore]
    have grown := mul_le_mul_of_nonneg_left (factorAge_mono aged) nonneg.age
    unfold factorsOf
    dsimp only
    linarith
  have positive : 0 ≤ engine.baseScore (factorsOf { input with age := older } higher) := by
    rw [real_baseScore]
    unfold factorsOf
    dsimp only
    have structured := mul_nonneg nonneg.structure_ (factorStructure_nonneg input.signals)
    have sized := mul_nonneg nonneg.size (factorSize_nonneg input.sizeBytes)
    have timed := mul_nonneg nonneg.age (factorAge_nonneg older)
    have located := mul_nonneg nonneg.location (factorLocation_nonneg input.path)
    have named := mul_nonneg nonneg.name (factorName_nonneg input.path input.classification)
    linarith
  have multiplied : (0 : ℝ) ≤ pressureMultiplier urgency :=
    zero_le_one.trans (one_le_pressureMultiplier urgency)
  exact mul_le_mul base (pressureMultiplier_mono pressed) multiplied positive

end ScoringEngine

/-! Posterior and uncertainty -/

theorem real_posteriorFromScore (totalScore confidence : ℝ)
    : posteriorFromScore totalScore confidence
      = 1 / (1 + Real.exp (-(7 / 2 * (max 0 (min (totalScore / (3 / 2)) 1) - 1 / 2)
          + 2 * (confidence - 1 / 2)))) := by
  unfold posteriorFromScore
  dsimp only
  rw [real_clamp (by norm_num [real_literal, decimalValue]), real_mulAdd, real_exp]
  norm_num [real_literal, decimalValue]

theorem posterior_mono {totalScore more : ℝ} (le : totalScore ≤ more) (confidence : ℝ)
    : posteriorFromScore totalScore confidence ≤ posteriorFromScore more confidence := by
  rw [real_posteriorFromScore, real_posteriorFromScore]
  have scaled : max 0 (min (totalScore / (3 / 2)) 1) ≤ max 0 (min (more / (3 / 2)) 1) :=
    max_le_max_left _ (min_le_min_right _ (by linarith))
  apply one_div_le_one_div_of_le (by positivity)
  have exponent := Real.exp_le_exp.mpr (neg_le_neg (add_le_add_left
    (mul_le_mul_of_nonneg_left (sub_le_sub_right scaled (1 / 2)) (by norm_num : (0 : ℝ) ≤ 7 / 2))
    (2 * (confidence - 1 / 2))))
  linarith

theorem posterior_pos (totalScore confidence : ℝ)
    : 0 < posteriorFromScore totalScore confidence := by
  rw [real_posteriorFromScore]
  positivity

theorem posterior_lt_one (totalScore confidence : ℝ)
    : posteriorFromScore totalScore confidence < 1 := by
  rw [real_posteriorFromScore, div_lt_one (by positivity)]
  have positive := Real.exp_pos (-(7 / 2 * (max 0 (min (totalScore / (3 / 2)) 1) - 1 / 2)
    + 2 * (confidence - 1 / 2)))
  linarith

/-- The uncertainty by the entropy of the posterior in bits, nearly. -/
theorem real_epistemicUncertainty (posterior calibration : ℝ)
    : epistemicUncertainty posterior calibration
      = max 0 (min (65 / 100 * (Real.binEntropy (max (1 / 1000000)
            (min posterior (1 - 1 / 1000000))) / (6931471805599453 / 10000000000000000))
          + 35 / 100 * (1 - max 0 (min calibration 1))) 1) := by
  unfold epistemicUncertainty
  dsimp only
  rw [real_clamp (by norm_num [real_literal, decimalValue]),
    real_clamp (by norm_num [real_literal, decimalValue]),
    real_clamp (by norm_num [real_literal, decimalValue]), Real.binEntropy]
  simp only [real_mulAdd, real_ln, Real.log_inv]
  norm_num [real_literal, decimalValue]

/-- Above one half a greater posterior is the more certain one. -/
theorem uncertainty_antitone {posterior more : ℝ} (half : 1 / 2 ≤ posterior)
    (le : posterior ≤ more) (calibration : ℝ)
    : epistemicUncertainty more calibration ≤ epistemicUncertainty posterior calibration := by
  rw [real_epistemicUncertainty, real_epistemicUncertainty]
  have clamped : max (1 / 1000000) (min posterior (1 - 1 / 1000000))
      ≤ max (1 / 1000000) (min more (1 - 1 / 1000000)) :=
    max_le_max_left _ (min_le_min_right _ le)
  have least : (2 : ℝ)⁻¹ ≤ max (1 / 1000000) (min posterior (1 - 1 / 1000000)) :=
    le_max_of_le_right (le_min (by linarith) (by norm_num))
  have most (x : ℝ) : max (1 / 1000000) (min x (1 - 1 / 1000000)) ≤ (1 : ℝ) :=
    max_le (by norm_num) ((min_le_right _ _).trans (by norm_num))
  have entropy := Real.binEntropy_strictAntiOn.antitoneOn ⟨least, most posterior⟩
    ⟨least.trans clamped, most more⟩ clamped
  apply max_le_max_left
  apply min_le_min_right
  have bits := div_le_div_of_nonneg_right entropy
    (by norm_num : (0 : ℝ) ≤ 6931471805599453 / 10000000000000000)
  linarith

theorem uncertainty_nonneg (posterior calibration : ℝ)
    : 0 ≤ epistemicUncertainty posterior calibration := by
  rw [real_epistemicUncertainty]
  exact le_max_left _ _

theorem uncertainty_le_one (posterior calibration : ℝ)
    : epistemicUncertainty posterior calibration ≤ 1 := by
  rw [real_epistemicUncertainty]
  exact max_le zero_le_one (min_le_right _ _)

theorem calibration_mem_unit (confidence : ℝ) (factors : ScoreFactors ℝ)
    : 0 ≤ calibrationScore confidence factors ∧ calibrationScore confidence factors ≤ 1 := by
  unfold calibrationScore
  dsimp only
  rw [real_clamp (by norm_num [real_literal, decimalValue])]
  norm_num [real_literal, decimalValue]

/-! Losses and thresholds -/

theorem real_reviewBand (calibration uncertainty : ℝ)
    : reviewBand calibration uncertainty = (1 - calibration) * 2 + (5 * uncertainty + 1) := by
  unfold reviewBand
  rw [real_mulAdd, real_mulAdd]
  norm_num [real_literal, decimalValue]

theorem reviewBand_mono {certain uncertain : ℝ} (le : certain ≤ uncertain) (calibration : ℝ)
    : reviewBand calibration certain ≤ reviewBand calibration uncertain := by
  rw [real_reviewBand, real_reviewBand]
  linarith

theorem real_minDeleteAdvantage (calibration uncertainty : ℝ)
    : minDeleteAdvantage calibration uncertainty
      = max (6 / 5) (min (uncertainty * (8 / 5)
          + ((1 - max 0 (min calibration 1)) * (9 / 10) + 6 / 5)) 4) := by
  unfold minDeleteAdvantage
  dsimp only
  rw [real_clamp (by norm_num [real_literal, decimalValue]),
    real_clamp (by norm_num [real_literal, decimalValue]), real_mulAdd, real_mulAdd]
  norm_num [real_literal, decimalValue]

theorem minDeleteAdvantage_mono {certain uncertain : ℝ} (le : certain ≤ uncertain)
    (calibration : ℝ)
    : minDeleteAdvantage calibration certain ≤ minDeleteAdvantage calibration uncertain := by
  rw [real_minDeleteAdvantage, real_minDeleteAdvantage]
  exact max_le_max_left _ (min_le_min_right _ (by linarith))

theorem minDeleteAdvantage_le (calibration uncertainty : ℝ)
    : minDeleteAdvantage calibration uncertainty ≤ 4 := by
  rw [real_minDeleteAdvantage]
  exact max_le (by norm_num) (min_le_right _ _)

/-- The losses of a posterior and an uncertainty that are within the unit interval. -/
theorem real_uncertaintyAdjustedLosses (baseKeep baseDelete : ℝ)
    {posterior calibration uncertainty : ℝ} (positive : 0 ≤ posterior) (small : posterior ≤ 1)
    (calibrated : 0 ≤ calibration) (calibratedMost : calibration ≤ 1)
    (certain : 0 ≤ uncertainty) (uncertain : uncertainty ≤ 1)
    : uncertaintyAdjustedLosses baseKeep baseDelete posterior calibration uncertainty
      = (baseKeep * (posterior * (1 - uncertainty / 2) * (4 / 5) + 1),
          baseDelete * (uncertainty * (9 / 10 * (1 - calibration) + 9 / 10) + 1)) := by
  have unit : (0.0 : ℝ) ≤ 1.0 := by norm_num [real_literal, decimalValue]
  have within {x : ℝ} (low : 0 ≤ x) (high : x ≤ 1) : Float64.clamp x 0.0 1.0 = x := by
    rw [real_clamp unit]
    norm_num [real_literal, decimalValue]
    rw [min_eq_left high, max_eq_right low]
  unfold uncertaintyAdjustedLosses
  dsimp only
  rw [within positive small, within calibrated calibratedMost, within certain uncertain, real_max]
  simp only [real_mulAdd]
  have slope : (0.90 : ℝ) ≤ 0.90 * (1.0 - calibration) + 0.90 := by
    norm_num [real_literal, decimalValue]
    exact calibratedMost
  rw [max_eq_left slope]
  norm_num [real_literal, decimalValue]
  exact Or.inl (Or.inl (by ring))

theorem keepLoss_mono {posterior more certain uncertain loss : ℝ} (positive : 0 ≤ posterior)
    (likelier : posterior ≤ more) (surer : certain ≤ uncertain) (bounded : uncertain ≤ 1)
    (nonneg : 0 ≤ loss)
    : posterior * loss * (posterior * (1 - uncertain / 2) * (4 / 5) + 1)
      ≤ more * loss * (more * (1 - certain / 2) * (4 / 5) + 1) := by
  have discount : posterior * (1 - uncertain / 2) ≤ more * (1 - certain / 2) :=
    mul_le_mul likelier (by linarith) (by linarith) (positive.trans likelier)
  have discounted : 0 ≤ posterior * (1 - uncertain / 2) := mul_nonneg positive (by linarith)
  have base : posterior * loss ≤ more * loss := mul_le_mul_of_nonneg_right likelier nonneg
  exact mul_le_mul base (by linarith) (by linarith)
    (mul_nonneg (positive.trans likelier) nonneg)

theorem deleteLoss_antitone {posterior more certain uncertain loss slope : ℝ}
    (likelier : posterior ≤ more) (most : posterior ≤ 1) (positive : 0 ≤ certain)
    (surer : certain ≤ uncertain) (nonneg : 0 ≤ loss) (rising : 0 ≤ slope)
    : (1 - more) * loss * (certain * slope + 1)
      ≤ (1 - posterior) * loss * (uncertain * slope + 1) := by
  have base : (1 - more) * loss ≤ (1 - posterior) * loss :=
    mul_le_mul_of_nonneg_right (by linarith) nonneg
  have adjusted : certain * slope ≤ uncertain * slope := mul_le_mul_of_nonneg_right surer rising
  exact mul_le_mul base (by linarith) (by linarith [mul_nonneg positive rising])
    (mul_nonneg (by linarith) nonneg)

/-- The ratio of the losses, which has a great value in place of an infinite one. -/
theorem real_deleteAdvantageRatio {keepLoss deleteLoss : ℝ} (keeps : 0 ≤ keepLoss)
    (deletes : 0 ≤ deleteLoss)
    : deleteAdvantageRatio keepLoss deleteLoss
      = if deleteLoss ≤ 2220446049250313 / 10 ^ 31 then 1000000 else keepLoss / deleteLoss := by
  have zero : (0.0 : ℝ) = 0 := by norm_num [real_literal, decimalValue]
  unfold deleteAdvantageRatio
  dsimp only
  rw [real_max, real_max, zero, max_eq_left keeps, max_eq_left deletes]
  simp only [real_le_iff]
  norm_num [real_literal, decimalValue]

/-- A greater loss of keeping and a smaller one of deleting are at least as great an advantage,
if the one they are compared with is within what can be required.
-/
theorem deleteAdvantageRatio_mono {keepLoss deleteLoss more less required : ℝ}
    (keeps : 0 ≤ keepLoss) (le : keepLoss ≤ more) (deletes : 0 ≤ less) (ge : less ≤ deleteLoss)
    (bounded : required ≤ 4) (reached : required ≤ deleteAdvantageRatio keepLoss deleteLoss)
    : required ≤ deleteAdvantageRatio more less := by
  rw [real_deleteAdvantageRatio keeps (deletes.trans ge)] at reached
  rw [real_deleteAdvantageRatio (keeps.trans le) deletes]
  split
  · linarith
  · rename_i notTiny
    have positive : 0 < less := lt_of_le_of_lt (by norm_num) (not_le.mp notTiny)
    rw [if_neg (not_le.mpr ((not_le.mp notTiny).trans_le ge))] at reached
    exact reached.trans (div_le_div₀ (keeps.trans le) le positive ge)

theorem real_requiredPosterior (calibration uncertainty : ℝ)
    : requiredPosterior calibration uncertainty
      = max (3 / 5) (min ((1 - max 0 (min calibration 1)) * (1 / 5)
          + (1 / 5 * uncertainty + 3 / 5)) (19 / 20)) := by
  unfold requiredPosterior
  rw [real_clamp (by norm_num [real_literal, decimalValue]),
    real_clamp (by norm_num [real_literal, decimalValue]), real_mulAdd, real_mulAdd]
  norm_num [real_literal, decimalValue]

theorem requiredPosterior_mono {certain uncertain : ℝ} (le : certain ≤ uncertain)
    (calibration : ℝ)
    : requiredPosterior calibration certain ≤ requiredPosterior calibration uncertain := by
  rw [real_requiredPosterior, real_requiredPosterior]
  exact max_le_max_left _ (min_le_min_right _ (by linarith))

/-! The decision -/

def CandidacyScore.uncertainty {F : Type} [Float64 F] (score : CandidacyScore F) : F :=
  epistemicUncertainty score.decision.posteriorAbandoned score.decision.calibrationScore

/-- The second score speaks for deleting at least as much as the first one. -/
structure Firmer (first second : CandidacyScore ℝ) : Prop where
  score : first.totalScore ≤ second.totalScore
  posterior : first.decision.posteriorAbandoned ≤ second.decision.posteriorAbandoned
  calibration : second.decision.calibrationScore = first.decision.calibrationScore
  keepLoss : first.decision.expectedLossKeep ≤ second.decision.expectedLossKeep
  deleteLoss : second.decision.expectedLossDelete ≤ first.decision.expectedLossDelete
  uncertainty : second.uncertainty ≤ first.uncertainty
  reviewBand
    : reviewBand second.decision.calibrationScore second.uncertainty
      ≤ reviewBand first.decision.calibrationScore first.uncertainty
  requiredAdvantage
    : minDeleteAdvantage second.decision.calibrationScore second.uncertainty
      ≤ minDeleteAdvantage first.decision.calibrationScore first.uncertainty

namespace ScoringEngine

variable {engine : ScoringEngine ℝ} (input : CandidateInput ℝ)

variable (engine) in
/-- The losses of a score by its posterior, its calibration and its uncertainty. -/
theorem losses_unvetoedScore (urgency : ℝ)
    : (engine.unvetoedScore input urgency).decision.expectedLossKeep
        = (engine.unvetoedScore input urgency).decision.posteriorAbandoned
          * engine.falseNegativeLoss
          * ((engine.unvetoedScore input urgency).decision.posteriorAbandoned
            * (1 - (engine.unvetoedScore input urgency).uncertainty / 2) * (4 / 5) + 1)
      ∧ (engine.unvetoedScore input urgency).decision.expectedLossDelete
        = (1 - (engine.unvetoedScore input urgency).decision.posteriorAbandoned)
          * engine.falsePositiveLoss
          * ((engine.unvetoedScore input urgency).uncertainty
            * (9 / 10 * (1 - (engine.unvetoedScore input urgency).decision.calibrationScore)
              + 9 / 10) + 1) := by
  have one : (1.0 : ℝ) = 1 := by norm_num [real_literal, decimalValue]
  obtain ⟨calibrated, calibratedMost⟩ := calibration_mem_unit
    input.classification.combinedConfidence (factorsOf input urgency)
  have adjusted := real_uncertaintyAdjustedLosses
    ((engine.unvetoedScore input urgency).decision.posteriorAbandoned * engine.falseNegativeLoss)
    ((1.0 - (engine.unvetoedScore input urgency).decision.posteriorAbandoned)
      * engine.falsePositiveLoss)
    (posterior_pos (engine.unvetoedScore input urgency).totalScore
      input.classification.combinedConfidence).le
    (posterior_lt_one (engine.unvetoedScore input urgency).totalScore
      input.classification.combinedConfidence).le
    calibrated calibratedMost
    (uncertainty_nonneg (engine.unvetoedScore input urgency).decision.posteriorAbandoned
      (engine.unvetoedScore input urgency).decision.calibrationScore)
    (uncertainty_le_one _ _)
  have losses := Prod.ext_iff.mp adjusted
  refine ⟨losses.1, losses.2.trans ?_⟩
  rw [one]
  rfl

/-- With the posterior above one half, age and pressure only speak for deleting. -/
theorem firmer_unvetoedScore (nonneg : engine.Nonnegative) {older : Duration}
    (aged : input.age ≤ older) {urgency higher : ℝ} (pressed : urgency ≤ higher)
    (likely : 1 / 2 ≤ (engine.unvetoedScore input urgency).decision.posteriorAbandoned)
    : Firmer (engine.unvetoedScore input urgency)
        (engine.unvetoedScore { input with age := older } higher) := by
  have score := totalScore_mono nonneg input aged pressed
  have posterior := posterior_mono score input.classification.combinedConfidence
  have uncertainty := uncertainty_antitone likely posterior
    (engine.unvetoedScore input urgency).decision.calibrationScore
  have certain := uncertainty_nonneg
    (engine.unvetoedScore { input with age := older } higher).decision.posteriorAbandoned
    (engine.unvetoedScore input urgency).decision.calibrationScore
  have uncertain := uncertainty_le_one
    (engine.unvetoedScore input urgency).decision.posteriorAbandoned
    (engine.unvetoedScore input urgency).decision.calibrationScore
  obtain ⟨calibrated, calibratedMost⟩ := calibration_mem_unit
    input.classification.combinedConfidence (factorsOf input urgency)
  obtain ⟨keeps, deletes⟩ := engine.losses_unvetoedScore input urgency
  obtain ⟨keepsOlder, deletesOlder⟩ :=
    engine.losses_unvetoedScore { input with age := older } higher
  have slope : 0 ≤ 9 / 10 * (1 - (engine.unvetoedScore input urgency).decision.calibrationScore)
      + 9 / 10 := by
    have room : (engine.unvetoedScore input urgency).decision.calibrationScore ≤ 1 :=
      calibratedMost
    linarith
  refine {
    score
    posterior
    calibration := rfl
    keepLoss := ?_
    deleteLoss := ?_
    uncertainty
    reviewBand := reviewBand_mono uncertainty _
    requiredAdvantage := minDeleteAdvantage_mono uncertainty _ }
  · rw [keeps, keepsOlder]
    exact keepLoss_mono (posterior_pos _ _).le posterior uncertainty uncertain
      nonneg.falseNegativeLoss
  · rw [deletes, deletesOlder]
    exact deleteLoss_antitone posterior (posterior_lt_one _ _).le certain uncertainty
      nonneg.falsePositiveLoss slope

end ScoringEngine

/-- What speaks for deleting still does where more speaks for it. -/
theorem Firmer.decideAction_delete {first second : CandidacyScore ℝ} (firmer : Firmer first second)
    (keeps : 0 ≤ first.decision.expectedLossKeep) (deletes : 0 ≤ second.decision.expectedLossDelete)
    {minScore : ℝ}
    (decided : decideAction first.totalScore minScore first.decision.expectedLossKeep
      first.decision.expectedLossDelete first.decision.posteriorAbandoned
      first.decision.calibrationScore first.decision.fallbackActive first.uncertainty = .delete)
    : decideAction second.totalScore minScore second.decision.expectedLossKeep
      second.decision.expectedLossDelete second.decision.posteriorAbandoned
      second.decision.calibrationScore first.decision.fallbackActive second.uncertainty
        = .delete := by
  rw [decideAction_eq_delete_iff] at decided ⊢
  simp only [real_not_lt_iff, real_not_le_iff, real_lt_iff, real_ge_iff, real_abs] at decided ⊢
  obtain ⟨scored, certain, margin, losses, likely, advantage⟩ := decided
  have wider : first.decision.expectedLossKeep - first.decision.expectedLossDelete
      ≤ second.decision.expectedLossKeep - second.decision.expectedLossDelete :=
    sub_le_sub firmer.keepLoss firmer.deleteLoss
  rw [abs_of_pos (sub_pos.mpr losses)] at margin
  refine ⟨scored.trans firmer.score, certain, ?_, ?_, ?_, ?_⟩
  · rw [abs_of_pos ((sub_pos.mpr losses).trans_le wider)]
    exact (firmer.reviewBand.trans_lt margin).trans_le wider
  · exact (firmer.deleteLoss.trans_lt losses).trans_le firmer.keepLoss
  · rw [firmer.calibration]
    exact (requiredPosterior_mono firmer.uncertainty _).trans (likely.trans firmer.posterior)
  · exact deleteAdvantageRatio_mono keeps firmer.keepLoss deletes firmer.deleteLoss
      (minDeleteAdvantage_le _ _) (firmer.requiredAdvantage.trans advantage)

namespace ScoringEngine

variable {engine : ScoringEngine ℝ}

theorem expectedLossKeep_nonneg (nonneg : engine.Nonnegative) (input : CandidateInput ℝ)
    (urgency : ℝ)
    : 0 ≤ (engine.unvetoedScore input urgency).decision.expectedLossKeep := by
  rw [(engine.losses_unvetoedScore input urgency).1]
  have positive : 0 ≤ (engine.unvetoedScore input urgency).decision.posteriorAbandoned :=
    (posterior_pos _ _).le
  have most : (engine.unvetoedScore input urgency).uncertainty ≤ 1 := uncertainty_le_one _ _
  have discounted := mul_nonneg positive
    (by linarith : 0 ≤ 1 - (engine.unvetoedScore input urgency).uncertainty / 2)
  exact mul_nonneg (mul_nonneg positive nonneg.falseNegativeLoss) (by linarith)

theorem expectedLossDelete_nonneg (nonneg : engine.Nonnegative) (input : CandidateInput ℝ)
    (urgency : ℝ)
    : 0 ≤ (engine.unvetoedScore input urgency).decision.expectedLossDelete := by
  rw [(engine.losses_unvetoedScore input urgency).2]
  have most : (engine.unvetoedScore input urgency).decision.posteriorAbandoned ≤ 1 :=
    (posterior_lt_one _ _).le
  have least : 0 ≤ (engine.unvetoedScore input urgency).uncertainty := uncertainty_nonneg _ _
  have calibrated : (engine.unvetoedScore input urgency).decision.calibrationScore ≤ 1 :=
    (calibration_mem_unit _ _).2
  have adjusted := mul_nonneg least (by linarith : 0 ≤ 9 / 10
    * (1 - (engine.unvetoedScore input urgency).decision.calibrationScore) + 9 / 10)
  exact mul_nonneg (mul_nonneg (by linarith) nonneg.falsePositiveLoss) (by linarith)

theorem half_le_posterior {input : CandidateInput ℝ} {urgency : ℝ}
    (deletes : (engine.unvetoedScore input urgency).decision.action = .delete)
    : 1 / 2 ≤ (engine.unvetoedScore input urgency).decision.posteriorAbandoned := by
  obtain ⟨decided, _⟩ := manualReviewOverride_delete deletes
  obtain ⟨_, _, _, _, reached, _⟩ := decideAction_eq_delete_iff.mp decided
  rw [real_ge_iff, real_requiredPosterior] at reached
  have least := (le_max_left _ _).trans reached
  have restated : 3 / 5 ≤ (engine.unvetoedScore input urgency).decision.posteriorAbandoned := least
  linarith

end ScoringEngine

theorem manualReviewOverride_eq_delete {classification : ArtifactClassification ℝ}
    (unprompted : ∀ rule ∈ cleanupRuleForClassification classification,
      rule.reclaimCommand ≠ .promptBeforeRemove)
    : manualReviewOverride classification .delete = .delete := by
  unfold manualReviewOverride
  rw [if_neg]
  rintro ⟨_, prompts⟩
  cases found : cleanupRuleForClassification classification with
  | none =>
      rw [found] at prompts
      cases prompts
  | some rule =>
      rw [found] at prompts
      exact unprompted rule found (beq_iff_eq.mp prompts)

variable {engine : ScoringEngine ℝ}

theorem NoVeto.older {input : CandidateInput ℝ}
    {overlaps : List SacredOverlap} (clear : NoVeto engine input overlaps) {older : Duration}
    (aged : input.age ≤ older)
    : NoVeto engine { input with age := older } overlaps :=
  { clear with
    ruleAge := fun rule member => (clear.ruleAge rule member).trans aged
    oldEnough := clear.oldEnough.trans aged }

/-- What is decided to be deleted still is when it is older or the urgency higher. -/
theorem ScoringEngine.unvetoedScore_delete_mono
    (nonneg : engine.Nonnegative) (input : CandidateInput ℝ) {older : Duration}
    (aged : input.age ≤ older) {urgency higher : ℝ} (pressed : urgency ≤ higher)
    (deletes : (engine.unvetoedScore input urgency).decision.action = .delete)
    : (engine.unvetoedScore { input with age := older } higher).decision.action = .delete := by
  have firmer := engine.firmer_unvetoedScore input nonneg aged pressed (half_le_posterior deletes)
  obtain ⟨decided, unprompted⟩ := manualReviewOverride_delete deletes
  have still := firmer.decideAction_delete (expectedLossKeep_nonneg nonneg input urgency)
    (expectedLossDelete_nonneg nonneg _ higher) decided
  have acted : (engine.unvetoedScore { input with age := older } higher).decision.action
      = manualReviewOverride input.classification .delete :=
    congrArg (manualReviewOverride input.classification) still
  rw [acted]
  exact manualReviewOverride_eq_delete unprompted

/-- What is deleted is also deleted when it is older or the urgency higher, and every quantity
behind the decision speaks for it at least as much.
-/
theorem delete_mono_in_age_and_urgency {engine : ScoringEngine ℝ} (nonneg : engine.Nonnegative)
    (input : CandidateInput ℝ) {older : Duration} (aged : input.age ≤ older)
    {urgency higher : ℝ} (pressed : urgency ≤ higher) (overlaps : List SacredOverlap)
    (deletes : (engine.scoreCandidateWithSacredOverlaps input urgency overlaps).decision.action
      = .delete)
    : (engine.scoreCandidateWithSacredOverlaps { input with age := older } higher
        overlaps).decision.action = .delete
      ∧ Firmer (engine.scoreCandidateWithSacredOverlaps input urgency overlaps)
        (engine.scoreCandidateWithSacredOverlaps { input with age := older } higher
          overlaps) := by
  rcases engine.scoreCandidateWithSacredOverlaps_cases input urgency overlaps with
    ⟨reason, _, vetoed⟩ | ⟨unvetoed, scored⟩
  · rw [vetoed] at deletes
    cases deletes
  · rw [scored] at deletes ⊢
    have clear := (vetoReason_eq_none_iff.mp unvetoed).older aged
    have rescored : engine.scoreCandidateWithSacredOverlaps { input with age := older } higher
        overlaps = engine.unvetoedScore { input with age := older } higher := by
      unfold ScoringEngine.scoreCandidateWithSacredOverlaps
      rw [vetoReason_eq_none_iff.mpr clear]
    rw [rescored]
    exact ⟨engine.unvetoedScore_delete_mono nonneg input aged pressed deletes,
      engine.firmer_unvetoedScore input nonneg aged pressed
        (ScoringEngine.half_le_posterior deletes)⟩

/-! A build directory in temporary storage -/

theorem ScoringEngine.fromConfig_nonnegative {scoring : ScoringConfig ℝ}
    (falsePositive : 0 ≤ scoring.falsePositiveLoss) (falseNegative : 0 ≤ scoring.falseNegativeLoss)
    (minFileAgeMinutes : Nat) : (fromConfig scoring minFileAgeMinutes).Nonnegative := by
  have zero : (0.0 : ℝ) = 0 := by norm_num [real_literal, decimalValue]
  have weight (x : ℝ) : 0 ≤ Float64.max x 0.0 := by
    rw [real_max, zero]
    exact le_max_right _ _
  exact ⟨weight _, weight _, weight _, weight _, weight _, falsePositive, falseNegative⟩

theorem ScoringEngine.default_nonnegative (minFileAgeMinutes : Nat)
    : (ScoringEngine.fromConfig (ScoringConfig.default : ScoringConfig ℝ)
        minFileAgeMinutes).Nonnegative := by
  apply fromConfig_nonnegative <;> norm_num [ScoringConfig.default, real_literal, decimalValue]

/-- A build directory that is certainly one, and that nobody has touched for five hours. -/
def certainTarget {F : Type} [Float64 F] : CandidateInput F where
  path := ⟨"/tmp/build/target"⟩
  sizeBytes := 3 * 2 ^ 30
  age := .fromHours 5
  classification := ⟨"exact-target", .rustTarget, 1.0, 1.0, 1.0⟩
  signals := { StructuralSignals.default with
    hasIncremental := true, hasDeps := true, hasFingerprint := true }
  activeReferences := .default
  isOpen := false
  excluded := false

/-- The factors of the build directory at an urgency of nine tenths. -/
theorem factorsOf_certainTarget
    : ScoringEngine.factorsOf (certainTarget : CandidateInput ℝ) (9 / 10)
      = ⟨95 / 100, 1, 1, 1, 95 / 100, 5 / 2⟩ := by
  have location : (factorLocation (certainTarget : CandidateInput ℝ).path : ℝ) = 95 / 100 := by
    unfold factorLocation
    dsimp only
    rw [if_pos (by decide +kernel)]
    norm_num [real_literal, decimalValue]
  have age : (factorAge (certainTarget : CandidateInput ℝ).age : ℝ) = 1 := by
    rw [real_factorAge, real_asSecsF64]
    norm_num [certainTarget, Duration.fromHours, Duration.fromSecs]
  have size : (factorSize (certainTarget : CandidateInput ℝ).sizeBytes : ℝ) = 1 := by
    norm_num [factorSize, certainTarget, real_literal, decimalValue]
  have structured
      : (factorStructure (certainTarget : CandidateInput ℝ).signals : ℝ) = 95 / 100 := by
    norm_num [factorStructure, certainTarget, StructuralSignals.default, real_literal, decimalValue]
  have name : factorName (certainTarget : CandidateInput ℝ).path certainTarget.classification
      = (1 : ℝ) := by
    have rust : (certainTarget : CandidateInput ℝ).classification.category = .rustTarget := rfl
    unfold factorName
    dsimp only
    rw [if_neg (by decide +kernel), if_pos rust, if_neg (by decide +kernel),
      real_clamp (by norm_num [real_literal, decimalValue])]
    norm_num [certainTarget, real_literal, decimalValue]
  have pressure : pressureMultiplier (9 / 10 : ℝ) = 5 / 2 := by
    rw [real_pressureMultiplier]
    norm_num
  unfold ScoringEngine.factorsOf
  rw [location, age, size, structured, name, pressure]

theorem certainTarget_calibrationScore
    : calibrationScore (certainTarget : CandidateInput ℝ).classification.combinedConfidence
        (ScoringEngine.factorsOf certainTarget (9 / 10)) = 1 := by
  rw [factorsOf_certainTarget]
  unfold calibrationScore
  dsimp only
  rw [real_clamp (by norm_num [real_literal, decimalValue]), real_mulAdd, real_abs]
  norm_num [certainTarget, real_literal, decimalValue]

/-- The posterior of a full score is at least 0.89, as the sigmoid is taken far to the right. -/
theorem certainTarget_posterior {totalScore : ℝ} (full : 3 / 2 ≤ totalScore)
    : 89 / 100 ≤ posteriorFromScore totalScore
        (certainTarget : CandidateInput ℝ).classification.combinedConfidence := by
  have confidence : (certainTarget : CandidateInput ℝ).classification.combinedConfidence = 1 := by
    norm_num [certainTarget, real_literal, decimalValue]
  have exponential : Real.exp (-(11 / 4)) ≤ 11 / 89 := by
    have quarter := Real.add_one_le_exp (11 / 16 : ℝ)
    have power : (27 / 16 : ℝ) ^ 4 ≤ Real.exp (11 / 4) := by
      calc (27 / 16 : ℝ) ^ 4 ≤ Real.exp (11 / 16) ^ 4 := by
            apply pow_le_pow_left₀ (by norm_num)
            linarith
        _ = Real.exp (11 / 4) := by
            rw [← Real.exp_nat_mul]
            norm_num
    rw [Real.exp_neg]
    refine (inv_anti₀ (by norm_num) power).trans ?_
    norm_num
  have scaled : min (totalScore / (3 / 2)) 1 = 1 :=
    min_eq_right ((one_le_div (by norm_num)).mpr full)
  have logit : -(7 / 2 * (max 0 (1 : ℝ) - 1 / 2) + 2 * (1 - 1 / 2)) = -(11 / 4) := by
    norm_num
  rw [confidence, real_posteriorFromScore, scaled, logit, le_div_iff₀ (by positivity)]
  linarith

/-- With the default losses, a posterior this high and a full calibration are enough. -/
theorem decideAction_of_certain {totalScore minScore keepLoss deleteLoss posterior uncertainty : ℝ}
    (scored : minScore ≤ totalScore) (likely : 89 / 100 ≤ posterior) (most : posterior ≤ 1)
    (positive : 0 ≤ uncertainty) (bounded : uncertainty ≤ 1)
    (keeps : keepLoss = posterior * 30 * (posterior * (1 - uncertainty / 2) * (4 / 5) + 1))
    (deletes : deleteLoss = (1 - posterior) * 50 * (uncertainty * (9 / 10) + 1))
    : decideAction totalScore minScore keepLoss deleteLoss posterior 1 false uncertainty
      = .delete := by
  have keepsAtLeast : 36 ≤ keepLoss := by
    have discount : 89 / 100 * (1 / 2) ≤ posterior * (1 - uncertainty / 2) :=
      mul_le_mul likely (by linarith) (by norm_num) (by linarith)
    have product : 267 / 10 * (135 / 100)
        ≤ posterior * 30 * (posterior * (1 - uncertainty / 2) * (4 / 5) + 1) :=
      mul_le_mul (by linarith) (by linarith) (by norm_num) (by linarith)
    rw [keeps]
    linarith
  have deletesNonneg : 0 ≤ deleteLoss := by
    rw [deletes]
    exact mul_nonneg (by linarith) (by linarith)
  have deletesAtMost : deleteLoss ≤ 21 / 2 := by
    have product : (1 - posterior) * 50 * (uncertainty * (9 / 10) + 1) ≤ 11 / 2 * (19 / 10) :=
      mul_le_mul (by linarith) (by linarith) (by linarith) (by norm_num)
    rw [deletes]
    linarith
  rw [decideAction_eq_delete_iff]
  simp only [real_not_lt_iff, real_not_le_iff, real_lt_iff, real_ge_iff, real_abs]
  refine ⟨scored, trivial, ?_, by linarith, ?_, ?_⟩
  · rw [real_reviewBand, abs_of_pos (by linarith)]
    linarith
  · rw [real_requiredPosterior]
    refine max_le (by linarith) ((min_le_left _ _).trans ?_)
    norm_num
    linarith
  · have required : minDeleteAdvantage 1 uncertainty ≤ 3 := by
      rw [real_minDeleteAdvantage]
      refine max_le (by norm_num) ((min_le_left _ _).trans ?_)
      norm_num
      linarith
    rw [real_deleteAdvantageRatio (by linarith) deletesNonneg]
    split
    · linarith
    · rename_i notTiny
      have some_ : 0 < deleteLoss := lt_of_le_of_lt (by norm_num) (not_le.mp notTiny)
      rw [le_div_iff₀ some_]
      calc minDeleteAdvantage 1 uncertainty * deleteLoss ≤ 3 * deleteLoss :=
            mul_le_mul_of_nonneg_right required deletesNonneg
        _ ≤ keepLoss := by linarith

/-- An engine with the default losses deletes the build directory for a full score. -/
theorem certainTarget_action (positive : engine.falsePositiveLoss = 50)
    (negative : engine.falseNegativeLoss = 30) (calibrated : engine.calibrationFloor ≤ 1)
    (full : 3 / 2 ≤ (engine.unvetoedScore certainTarget (9 / 10)).totalScore)
    (scored : engine.minScore ≤ (engine.unvetoedScore certainTarget (9 / 10)).totalScore)
    : (engine.unvetoedScore certainTarget (9 / 10)).decision.action = .delete := by
  have unprompted : ∀ rule ∈ cleanupRuleForClassification
      (certainTarget : CandidateInput ℝ).classification,
      rule.reclaimCommand ≠ .promptBeforeRemove := by
    decide +kernel
  obtain ⟨keeps, deletes⟩ := engine.losses_unvetoedScore certainTarget (9 / 10)
  set score := engine.unvetoedScore certainTarget (9 / 10) with score_eq
  have calibration : score.decision.calibrationScore = 1 := certainTarget_calibrationScore
  have fallback : score.decision.fallbackActive = false := by
    change Float64.lt score.decision.calibrationScore engine.calibrationFloor = false
    rw [calibration, real_not_lt_iff]
    exact calibrated
  have decided : decideAction score.totalScore engine.minScore score.decision.expectedLossKeep
      score.decision.expectedLossDelete score.decision.posteriorAbandoned
      score.decision.calibrationScore score.decision.fallbackActive score.uncertainty
        = .delete := by
    rw [negative] at keeps
    rw [positive, calibration] at deletes
    rw [calibration, fallback]
    refine decideAction_of_certain scored (certainTarget_posterior full) (posterior_lt_one _ _).le
      (uncertainty_nonneg _ _) (uncertainty_le_one _ _) keeps ?_
    rw [deletes]
    ring
  exact (congrArg (manualReviewOverride _) decided).trans
    (manualReviewOverride_eq_delete unprompted)

theorem certainTarget_deletes
    : ((ScoringEngine.fromConfig .default 30).scoreCandidateWithSacredOverlaps certainTarget
        (9 / 10 : ℝ) []).decision.action = .delete := by
  have clear : (ScoringEngine.fromConfig (.default : ScoringConfig ℝ) 30).vetoReason
      certainTarget [] = none := by
    decide +kernel
  have total : ((ScoringEngine.fromConfig .default 30).unvetoedScore certainTarget
      (9 / 10 : ℝ)).totalScore = 245 / 100 := by
    change Float64.clamp (ScoringEngine.baseScore _ (ScoringEngine.factorsOf _ _)
      * (ScoringEngine.factorsOf _ _).pressureMultiplier) 0.0 3.0 = _
    rw [factorsOf_certainTarget, ScoringEngine.real_baseScore,
      real_clamp (by norm_num [real_literal, decimalValue])]
    simp only [ScoringEngine.fromConfig, ScoringConfig.default, real_max]
    norm_num [real_literal, decimalValue]
  unfold ScoringEngine.scoreCandidateWithSacredOverlaps
  rw [clear]
  apply certainTarget_action
  · norm_num [ScoringEngine.fromConfig, ScoringConfig.default, real_literal, decimalValue]
  · norm_num [ScoringEngine.fromConfig, ScoringConfig.default, real_literal, decimalValue]
  · norm_num [ScoringEngine.fromConfig, ScoringConfig.default, real_literal, decimalValue]
  · rw [total]
    norm_num
  · rw [total]
    norm_num [ScoringEngine.fromConfig, ScoringConfig.default, real_literal, decimalValue]

theorem certainTarget_deletes_later
    : ((ScoringEngine.fromConfig .default 30).scoreCandidateWithSacredOverlaps
        { certainTarget with age := .fromHours 6 } (1 : ℝ) []).decision.action = .delete :=
  (delete_mono_in_age_and_urgency (ScoringEngine.default_nonnegative 30) certainTarget
    (by decide) (by norm_num) [] certainTarget_deletes).1

end StorageBallast
