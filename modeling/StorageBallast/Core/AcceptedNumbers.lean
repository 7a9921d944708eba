import StorageBallast.Core.ConfigUpdates
import StorageBallast.Foundations.RealFloats

/-! What the checks of a configuration leave unsaid: a check that requires a good value refuses
the unordered value, and one that rejects a bad value lets it pass. Only the horizons of the
prediction are checked in the second way alone.
-/

namespace StorageBallast

/-- Numbers are shown with six decimals. -/
noncomputable instance : DecimalFloat64 (Option EReal) where
  value a := a.bind fun x =>
    open Classical in if number : ∃ q : ℚ, x = (q : ℝ) then some number.choose else none
  round q := some ((q : ℝ) : EReal)
  ofText text :=
    if Texts.eqIgnoreAsciiCase text "nan" then some none
    else (decimalNumber text).map fun q => some ((q : ℝ) : EReal)
  display := Float64.toFixed 6

end StorageBallast

namespace StorageBallast.ConfigFile

open scoped Float64

def PredictionConfig.HorizonsOrdered (self : PredictionConfig (Option EReal)) : Prop :=
  ∃ critical imminent action warning : EReal,
    self.criticalDangerMinutes = some critical ∧ self.imminentDangerMinutes = some imminent
    ∧ self.actionHorizonMinutes = some action ∧ self.warningHorizonMinutes = some warning
    ∧ 0 ≤ critical ∧ critical < imminent ∧ imminent < action ∧ action < warning

def PressureConfig.ThresholdsDescend (self : PressureConfig (Option EReal)) : Prop :=
  ∃ green yellow orange red : EReal,
    self.greenMinFreePct = some green ∧ self.yellowMinFreePct = some yellow
    ∧ self.orangeMinFreePct = some orange ∧ self.redMinFreePct = some red
    ∧ 0 ≤ red ∧ red < orange ∧ orange < yellow ∧ yellow < green ∧ green ≤ 100

attribute [local instance] ten_atLeastTwo in
def WeightsAddUp (self : ScoringConfig (Option EReal)) : Prop :=
  ∃ location name age size structure_ : ℝ,
    self.locationWeight = some (location : EReal) ∧ self.nameWeight = some (name : EReal)
    ∧ self.ageWeight = some (age : EReal) ∧ self.sizeWeight = some (size : EReal)
    ∧ self.structureWeight = some (structure_ : EReal)
    ∧ 0 ≤ location ∧ 0 ≤ name ∧ 0 ≤ age ∧ 0 ≤ size ∧ 0 ≤ structure_
    ∧ |location + name + age + size + structure_ - 1| ≤ 1 / 10 ^ 9

def TelemetryConfig.AlphasOrdered (self : TelemetryConfig (Option EReal)) : Prop :=
  ∃ least base most : EReal,
    self.ewmaMinAlpha = some least ∧ self.ewmaBaseAlpha = some base
    ∧ self.ewmaMaxAlpha = some most ∧ 0 < least ∧ least ≤ base ∧ base ≤ most ∧ most < 1

def Probability (x : Option EReal) : Prop := ∃ p : EReal, x = some p ∧ 0 ≤ p ∧ p ≤ 1

structure Config.AllNumbers (config : Config (Option EReal)) : Prop where
  horizons : config.pressure.prediction.HorizonsOrdered
  thresholds : config.pressure.ThresholdsDescend
  probabilities : ∀ x ∈ [config.pressure.prediction.minConfidence, config.scoring.minScore,
    config.scoring.calibrationFloor, config.scheduler.explorationQuotaFraction,
    config.scheduler.ewmaAlpha], Probability x
  scores : ∃ score floor : EReal, config.scoring.minScore = some score
    ∧ config.scoring.calibrationFloor = some floor ∧ score ≤ floor
  weights : WeightsAddUp config.scoring
  alphas : config.telemetry.AlphasOrdered

theorem zero_literal : (0.0 : Option EReal) = some 0 := by
  rw [UnorderedReals.literal]
  norm_num [decimalValue]

theorem one_literal : (1.0 : Option EReal) = some 1 := by
  rw [UnorderedReals.literal]
  norm_num [decimalValue]

theorem hundred_literal : (100.0 : Option EReal) = some 100 := by
  rw [UnorderedReals.literal]
  norm_num [decimalValue]
  rfl

theorem withinRange_iff {low high x : Option EReal}
    : withinRange low high x = true
      ↔ ∃ least most number, low = some least ∧ high = some most ∧ x = some number
          ∧ least ≤ number ∧ number ≤ most := by
  unfold withinRange
  rw [Bool.and_eq_true, UnorderedReals.le_iff, UnorderedReals.le_iff]
  constructor
  · rintro ⟨⟨least, number, rfl, rfl, above⟩, ⟨_, most, ⟨⟩, rfl, below⟩⟩
    exact ⟨least, most, number, rfl, rfl, rfl, above, below⟩
  · rintro ⟨least, most, number, rfl, rfl, rfl, above, below⟩
    exact ⟨⟨least, number, rfl, rfl, above⟩, ⟨number, most, rfl, rfl, below⟩⟩

theorem probability_of_withinRange {x : Option EReal} (within : withinRange 0.0 1.0 x = true)
    : Probability x := by
  rw [zero_literal, one_literal] at within
  obtain ⟨_, _, number, ⟨⟩, ⟨⟩, rfl, above, below⟩ := withinRange_iff.mp within
  exact ⟨number, rfl, above, below⟩

theorem thresholdsDescend_of_valid {pressure : PressureConfig (Option EReal)} {u : Unit}
    (valid : pressure.validate = .ok u) : pressure.ThresholdsDescend := by
  obtain ⟨⟨green, yellow, orange, red⟩, descending, -⟩ := PressureConfig.validate_eq_ok.mp valid
  rw [zero_literal, hundred_literal] at green yellow orange red
  obtain ⟨_, _, highest, ⟨⟩, ⟨⟩, isGreen, -, most⟩ := withinRange_iff.mp green
  obtain ⟨_, _, high, ⟨⟩, ⟨⟩, isYellow, -, -⟩ := withinRange_iff.mp yellow
  obtain ⟨_, _, low, ⟨⟩, ⟨⟩, isOrange, -, -⟩ := withinRange_iff.mp orange
  obtain ⟨_, _, lowest, ⟨⟩, ⟨⟩, isRed, least, -⟩ := withinRange_iff.mp red
  simp only [PressureConfig.descending, Bool.and_eq_true, Float64.gt, isGreen, isYellow,
    isOrange, isRed, UnorderedReals.lt_iff] at descending
  obtain ⟨⟨⟨_, _, ⟨⟩, ⟨⟩, first⟩, ⟨_, _, ⟨⟩, ⟨⟩, second⟩⟩, ⟨_, _, ⟨⟩, ⟨⟩, third⟩⟩ := descending
  exact ⟨_, _, _, _, isGreen, isYellow, isOrange, isRed, least, third, second, first, most⟩

/-- A weight that passes is a real number that is not negative. -/
theorem real_of_validWeight {x : Option EReal}
    (passes : (!Float64.isFinite x || Float64.lt x 0.0) = false)
    : ∃ r : ℝ, x = some (r : EReal) ∧ 0 ≤ r := by
  rw [Bool.or_eq_false_iff, Bool.not_eq_false', UnorderedReals.isFinite_iff, zero_literal]
    at passes
  obtain ⟨⟨r, rfl⟩, above⟩ := passes
  exact ⟨r, rfl, EReal.coe_nonneg.mp (UnorderedReals.not_lt_iff.mp above)⟩

theorem weightsAddUp_of_valid {scoring : ScoringConfig (Option EReal)} {u v : Unit}
    (weights : validateScoringWeights scoring = .ok u)
    (sum : validateWeightSum scoring = .ok v) : WeightsAddUp scoring := by
  simp only [validateScoringWeights, validateWeights, List.forM_eq_forM, List.forM_cons,
    List.forM_nil, Checks.bind_eq_ok, refuse_eq_ok] at weights
  obtain ⟨-, ⟨-, w1, -, w2, -, w3, -, w4, -, w5, -⟩, -⟩ := weights
  obtain ⟨location, isLocation, h1⟩ := real_of_validWeight w1
  obtain ⟨name, isName, h2⟩ := real_of_validWeight w2
  obtain ⟨age, isAge, h3⟩ := real_of_validWeight w3
  obtain ⟨size, isSize, h4⟩ := real_of_validWeight w4
  obtain ⟨structure_, isStructure, h5⟩ := real_of_validWeight w5
  refine ⟨location, name, age, size, structure_, isLocation, isName, isAge, isSize, isStructure,
    h1, h2, h3, h4, h5, ?_⟩
  unfold validateWeightSum weightSum at sum
  rw [refuse_eq_ok, isLocation, isName, isAge, isSize, isStructure, UnorderedReals.literal,
    UnorderedReals.literal, UnorderedReals.add, UnorderedReals.add, UnorderedReals.add,
    UnorderedReals.add, UnorderedReals.sub, UnorderedReals.abs] at sum
  have near := EReal.coe_le_coe_iff.mp (UnorderedReals.not_lt_iff.mp sum)
  norm_num [decimalValue] at near ⊢
  exact near

theorem alphasOrdered_of_valid {telemetry : TelemetryConfig (Option EReal)} {u : Unit}
    (valid : telemetry.validate = .ok u) : telemetry.AlphasOrdered := by
  simp only [TelemetryConfig.validate, Checks.bind_eq_ok, refuse_eq_ok, Bool.not_eq_false',
    Bool.and_eq_true, Float64.gt, zero_literal, one_literal, UnorderedReals.le_iff,
    UnorderedReals.lt_iff] at valid
  obtain ⟨-, ⟨⟨⟨⟨_, least, ⟨⟩, isLeast, positive⟩, ⟨_, base, same, isBase, h1⟩⟩,
    ⟨_, most, same', isMost, h2⟩⟩, ⟨_, _, same'', ⟨⟩, h3⟩⟩, -⟩ := valid
  rw [isLeast] at same
  rw [isBase] at same'
  rw [isMost] at same''
  cases same
  cases same'
  cases same''
  exact ⟨least, base, most, isLeast, isBase, isMost, positive, h1, h2, h3⟩

theorem PredictionConfig.validate_eq_ok {prediction : PredictionConfig (Option EReal)} {u : Unit}
    (enabled : prediction.enabled = true)
    : prediction.validate = .ok u
      ↔ (Float64.le prediction.actionHorizonMinutes 0.0 = false
          ∧ Float64.le prediction.warningHorizonMinutes 0.0 = false
          ∧ Float64.le prediction.imminentDangerMinutes 0.0 = false)
        ∧ Float64.le prediction.warningHorizonMinutes prediction.actionHorizonMinutes = false
        ∧ Float64.le prediction.actionHorizonMinutes prediction.imminentDangerMinutes = false
        ∧ Float64.le prediction.imminentDangerMinutes prediction.criticalDangerMinutes = false
        ∧ Float64.lt prediction.criticalDangerMinutes 0.0 = false
        ∧ withinRange 0.0 1.0 prediction.minConfidence = true := by
  simp [PredictionConfig.validate, enabled, validateProb, Checks.bind_eq_ok, refuse_eq_ok,
    and_assoc, pure, Except.pure]

theorem validateScheduler_eq_ok {scheduler : VoiConfig (Option EReal)} {u : Unit}
    (valid : validateScheduler scheduler = .ok u)
    : withinRange 0.0 1.0 scheduler.explorationQuotaFraction = true
      ∧ withinRange 0.0 1.0 scheduler.ewmaAlpha = true := by
  simp only [validateScheduler, validateProb, Checks.bind_eq_ok, refuse_eq_ok,
    Bool.not_eq_false'] at valid
  obtain ⟨-, quota, -, alpha, -⟩ := valid
  exact ⟨quota, alpha⟩

/-- A horizon that is a number has been compared with the others. -/
theorem horizonsOrdered_of_valid {prediction : PredictionConfig (Option EReal)} {u : Unit}
    (enabled : prediction.enabled = true) (valid : prediction.validate = .ok u)
    (numbers : prediction.criticalDangerMinutes ≠ none ∧ prediction.imminentDangerMinutes ≠ none
      ∧ prediction.actionHorizonMinutes ≠ none ∧ prediction.warningHorizonMinutes ≠ none)
    : prediction.HorizonsOrdered := by
  obtain ⟨-, longest, longer, shorter, least, -⟩ :=
    (PredictionConfig.validate_eq_ok enabled).mp valid
  obtain ⟨isCritical, isImminent, isAction, isWarning⟩ := numbers
  obtain ⟨critical, critical_eq⟩ := Option.ne_none_iff_exists'.mp isCritical
  obtain ⟨imminent, imminent_eq⟩ := Option.ne_none_iff_exists'.mp isImminent
  obtain ⟨action, action_eq⟩ := Option.ne_none_iff_exists'.mp isAction
  obtain ⟨warning, warning_eq⟩ := Option.ne_none_iff_exists'.mp isWarning
  rw [warning_eq, action_eq, UnorderedReals.not_le_iff] at longest
  rw [action_eq, imminent_eq, UnorderedReals.not_le_iff] at longer
  rw [imminent_eq, critical_eq, UnorderedReals.not_le_iff] at shorter
  rw [critical_eq, zero_literal, UnorderedReals.not_lt_iff] at least
  exact ⟨critical, imminent, action, warning, critical_eq, imminent_eq, action_eq, warning_eq,
    least, shorter, longer, longest⟩

/-- An accepted configuration is made of numbers as it should be exactly if no horizon is the
unordered value.
-/
theorem allNumbers_iff {compile : String → Except SbhError Unit} {config : Config (Option EReal)}
    (accepted : config.validate compile = .ok ())
    (enabled : config.pressure.prediction.enabled = true)
    : config.AllNumbers
      ↔ config.pressure.prediction.criticalDangerMinutes ≠ none
        ∧ config.pressure.prediction.imminentDangerMinutes ≠ none
        ∧ config.pressure.prediction.actionHorizonMinutes ≠ none
        ∧ config.pressure.prediction.warningHorizonMinutes ≠ none := by
  obtain ⟨pressure, -, scores, weights, scheduler, sum, telemetry, -⟩ :=
    Config.validate_eq_ok.mp accepted
  obtain ⟨-, -, -, prediction⟩ := PressureConfig.validate_eq_ok.mp pressure
  constructor
  · intro all
    obtain ⟨_, _, _, _, h1, h2, h3, h4, -⟩ := all.horizons
    simp [h1, h2, h3, h4]
  · intro numbers
    obtain ⟨score, floor, below⟩ := validateScores_eq_ok.mp scores
    obtain ⟨least, isScore, bound⟩ := probability_of_withinRange score
    obtain ⟨most, isFloor, bound'⟩ := probability_of_withinRange floor
    obtain ⟨quota, alpha⟩ := validateScheduler_eq_ok scheduler
    have confidence := ((PredictionConfig.validate_eq_ok enabled).mp prediction).2.2.2.2.2
    refine ⟨horizonsOrdered_of_valid enabled prediction numbers,
      thresholdsDescend_of_valid pressure, ?_, ⟨least, most, isScore, isFloor, ?_⟩,
      weightsAddUp_of_valid weights sum, alphasOrdered_of_valid telemetry⟩
    · simp only [List.forall_mem_cons]
      exact ⟨probability_of_withinRange confidence, ⟨least, isScore, bound⟩,
        ⟨most, isFloor, bound'⟩, probability_of_withinRange quota,
        probability_of_withinRange alpha, fun _ member => absurd member List.not_mem_nil⟩
    · rw [isScore, isFloor] at below
      exact UnorderedReals.not_lt_iff.mp below

def bareContext : LoadContext := ⟨.ok [], none, id, fun _ => .ok ()⟩

/-- The default configuration but for one horizon. -/
noncomputable def actionWithin (horizon : Option EReal) : Config (Option EReal) :=
  let config := Config.default bareContext
  { config with
    pressure :=
      { config.pressure with
        prediction := { config.pressure.prediction with actionHorizonMinutes := horizon } } }

theorem accepted_actionWithin {horizon : Option EReal}
    (positive : Float64.le horizon 0.0 = false) (below : Float64.le 60.0 horizon = false)
    (above : Float64.le horizon 5.0 = false)
    : (actionWithin horizon).validate bareContext.validateGlobPattern = .ok () := by
  have thresholds : (actionWithin horizon).pressure.validate = .ok () := by
    rw [PressureConfig.validate_eq_ok, PredictionConfig.validate_eq_ok rfl]
    dsimp only [actionWithin, Config.default]
    simp [PressureConfig.descending, withinRange, Float64.gt, UnorderedReals.literal_le,
      UnorderedReals.literal_lt, decimalValue, positive, below, above]
    norm_num
  have scores : validateScores (.default : ScoringConfig (Option EReal)) = .ok () := by
    rw [validateScores_eq_ok]
    simp [ScoringConfig.default, withinRange, Float64.gt, UnorderedReals.literal_le,
      UnorderedReals.literal_lt, decimalValue]
    norm_num
  have weights : validateScoringWeights (.default : ScoringConfig (Option EReal)) = .ok () := by
    simp [validateScoringWeights, validateWeights, Checks.bind_eq_ok, refuse_eq_ok,
      ScoringConfig.default, UnorderedReals.literal_lt, UnorderedReals.literal_isFinite,
      decimalValue]
    norm_num
  have sum : validateWeightSum (.default : ScoringConfig (Option EReal)) = .ok () := by
    simp only [validateWeightSum, weightSum, ScoringConfig.default, refuse_eq_ok,
      UnorderedReals.literal, UnorderedReals.add, UnorderedReals.sub, UnorderedReals.abs]
    refine UnorderedReals.not_lt_iff.mpr (EReal.coe_le_coe_iff.mpr ?_)
    norm_num [decimalValue]
  have scheduler : validateScheduler (actionWithin horizon).scheduler = .ok () := by
    dsimp only [actionWithin, Config.default]
    simp [validateScheduler, validateProb, validateWeights, withinRange, Checks.bind_eq_ok,
      refuse_eq_ok, UnorderedReals.literal_le, UnorderedReals.literal_lt,
      UnorderedReals.literal_isFinite, decimalValue]
    norm_num
  have telemetry : (actionWithin horizon).telemetry.validate = .ok () := by
    dsimp only [actionWithin, Config.default]
    simp [TelemetryConfig.validate, Float64.gt, Checks.bind_eq_ok, refuse_eq_ok,
      UnorderedReals.literal_le, UnorderedReals.literal_lt, decimalValue]
    norm_num
  have tuning : (actionWithin horizon).systemTuning.validate = .ok () := by
    dsimp only [actionWithin, Config.default]
    simp [SystemTuningConfig.validate, Float64.gt, Checks.bind_eq_ok, refuse_eq_ok,
      UnorderedReals.literal_le, UnorderedReals.literal_lt, UnorderedReals.literal_isFinite,
      decimalValue]
    exact ⟨by norm_num, by decide +kernel⟩
  exact Config.validate_eq_ok.mpr ⟨thresholds, rfl, scores, weights, scheduler, sum, telemetry,
    rfl, rfl, rfl, tuning⟩

/-- The unordered value passes for a horizon, although no number is as it should be then. -/
theorem unordered_horizon_accepted
    : ¬ ∀ (compile : String → Except SbhError Unit) (config : Config (Option EReal)),
        config.validate compile = .ok () → config.pressure.prediction.enabled = true
          → config.AllNumbers := by
  intro claimed
  have accepted := @accepted_actionWithin none rfl rfl rfl
  obtain ⟨_, _, action, _, -, -, number, -⟩ := (claimed _ _ accepted rfl).horizons
  cases number

theorem allNumbers_iff_default
    : (actionWithin 30.0).AllNumbers
      ↔ (actionWithin 30.0).pressure.prediction.criticalDangerMinutes ≠ none
        ∧ (actionWithin 30.0).pressure.prediction.imminentDangerMinutes ≠ none
        ∧ (actionWithin 30.0).pressure.prediction.actionHorizonMinutes ≠ none
        ∧ (actionWithin 30.0).pressure.prediction.warningHorizonMinutes ≠ none := by
  refine @allNumbers_iff bareContext.validateGlobPattern _
    (accepted_actionWithin ?_ ?_ ?_) rfl
  all_goals
    rw [UnorderedReals.literal_le]
    norm_num [decimalValue]

end StorageBallast.ConfigFile
