import StorageBallast.Monitor.ProjectedTimes

/-! Forecasts over the extended reals: the threshold is never named after the exhaustion, and the
samples at which a threshold that is passed is named as passed.
-/

namespace StorageBallast

open scoped Float64
open Runs

namespace DiskRateEstimator

/-- The threshold is reached no later than the disk is full, and at once if it is passed. -/
structure Forecasts (sample : RateSample) (estimate : RateEstimate EReal) : Prop where
  ordered : estimate.secondsToThreshold ≤ estimate.secondsToExhaustion
  passed : sample.freeBytes ≤ sample.thresholdFreeBytes → estimate.secondsToThreshold = 0

/-- The sample comes late enough after the last one to measure a rate. -/
def measures {F : Type} [Float64 F] (self : DiskRateEstimator F) (sample : RateSample) : Bool :=
  match self.last with
  | none => false
  | some previous =>
      !decide (sample.observedAt < previous.at_)
        && !Float64.le (Duration.asSecsF64 (sample.observedAt - previous.at_) : F) 1e-6

def Foresees (self : DiskRateEstimator EReal) (sample : RateSample) : Prop :=
  self.measures sample = true ∨ 0 < self.ewmaRate ∨ sample.thresholdFreeBytes < sample.freeBytes

/-- What is known of an estimator at all times: its averages and the bounds of the weight are
real.
-/
structure IsReal (estimator : DiskRateEstimator EReal) : Prop where
  rate : ∃ rate : ℝ, estimator.ewmaRate = rate
  accel : ∃ accel : ℝ, estimator.ewmaAccel = accel
  low : ∃ low : ℝ, estimator.minAlpha = low
  high : ∃ high : ℝ, estimator.maxAlpha = high

theorem projectTime_nonneg (rate accel distance : ℝ)
    : 0 ≤ projectTime (rate : EReal) (accel : EReal) (distance : EReal) := by
  rcases le_or_gt distance 0 with nowhere | ahead
  · exact (projectTime_arrived nowhere).ge
  rcases le_or_gt rate 0 with idle | moving
  · rw [projectTime_idle ahead idle]
    exact le_top
  rcases lt_or_ge |accel| (1 / 10 ^ 9) with steady | changing
  · rw [projectTime_steady ahead moving steady]
    exact EReal.coe_nonneg.mpr (by positivity)
  obtain ⟨solves, vanishes⟩ := projectTime_motion moving changing ahead
  by_cases vanishing : Vanishing rate accel distance
  · rw [vanishes vanishing]
    exact le_top
  rcases solves vanishing with ⟨time, least, answer⟩ | ⟨-, answer⟩
  · rw [answer]
    exact EReal.coe_nonneg.mpr least.1.1.le
  · rw [answer]
    exact le_top

/-- At one trend, the shorter distance takes no longer, by the branches of the projection. -/
theorem projectTime_le (rate accel : ℝ) {distance further : ℝ} (nearer : distance ≤ further)
    : projectTime (rate : EReal) (accel : EReal) (distance : EReal)
      ≤ projectTime (rate : EReal) (accel : EReal) (further : EReal) := by
  rcases le_or_gt distance 0 with nowhere | ahead
  · rw [projectTime_arrived nowhere]
    exact projectTime_nonneg rate accel further
  have alsoAhead := ahead.trans_le nearer
  rcases le_or_gt rate 0 with idle | moving
  · rw [projectTime_idle alsoAhead idle]
    exact le_top
  rcases lt_or_ge |accel| (1 / 10 ^ 9) with steady | changing
  · rw [projectTime_steady ahead moving steady, projectTime_steady alsoAhead moving steady]
    exact EReal.coe_le_coe_iff.mpr (div_le_div_of_nonneg_right nearer moving.le)
  · exact projectTime_mono moving changing changing le_rfl le_rfl ahead nearer

variable {self : DiskRateEstimator EReal}

theorem fallbackEstimate_straight {rate : ℝ} (average : self.ewmaRate = rate) (sample : RateSample)
    : (self.fallbackEstimate sample).secondsToExhaustion
        = (if 0 < rate then (((sample.freeBytes : ℝ) / rate : ℝ) : EReal) else ⊤)
      ∧ (self.fallbackEstimate sample).secondsToThreshold
        = (if 0 < rate then
            ((((sample.freeBytes - sample.thresholdFreeBytes : ℕ) : ℝ) / rate : ℝ) : EReal)
          else ⊤) := by
  simp only [fallbackEstimate, average, extended_zero, ExtendedReals.gt_iff,
    EReal.coe_lt_coe_iff, ExtendedReals.ofNat, ExtendedReals.div]
  by_cases moving : 0 < rate
  · rw [if_pos moving, if_pos moving, if_pos moving, if_pos moving]
    exact ⟨rfl, rfl⟩
  · rw [if_neg moving, if_neg moving, if_neg moving, if_neg moving]
    exact ⟨rfl, rfl⟩

/-- Without a new rate the forecast is one exactly if the disk has been filling or the threshold
is not passed.
-/
theorem fallbackEstimate_forecasts_iff (real : self.IsReal) (sample : RateSample)
    : Forecasts sample (self.fallbackEstimate sample)
      ↔ 0 < self.ewmaRate ∨ sample.thresholdFreeBytes < sample.freeBytes := by
  obtain ⟨rate, average⟩ := real.rate
  obtain ⟨exhaustion, threshold⟩ := fallbackEstimate_straight average sample
  rw [average, EReal.coe_pos]
  by_cases moving : 0 < rate
  · rw [if_pos moving] at exhaustion threshold
    refine iff_of_true ⟨?_, fun passed => ?_⟩ (.inl moving)
    · rw [exhaustion, threshold, EReal.coe_le_coe_iff]
      exact div_le_div_of_nonneg_right (by exact_mod_cast Nat.sub_le _ _) moving.le
    · rw [threshold, Nat.sub_eq_zero_of_le passed, Nat.cast_zero, zero_div, EReal.coe_zero]
  · rw [if_neg moving] at exhaustion threshold
    constructor
    · intro forecasts
      refine .inr (not_le.mp fun passed => ?_)
      exact EReal.top_ne_zero (threshold.symm.trans (forecasts.passed passed))
    · rintro (filling | above)
      · exact absurd filling moving
      · refine ⟨?_, fun passed => absurd above (not_lt.mpr passed)⟩
        rw [exhaustion, threshold]

theorem clamp_real (x : EReal) (low high : ℝ)
    : ∃ within : ℝ, Float64.clamp x (low : EReal) (high : EReal) = within := by
  unfold Float64.clamp
  simp only [ExtendedReals.lt_iff, ExtendedReals.gt_iff]
  split
  · exact ⟨low, rfl⟩
  · rename_i notBelow
    split
    · exact ⟨high, rfl⟩
    · rename_i notAbove
      have bounded : x ≠ ⊥ ∧ x ≠ ⊤ := by
        constructor
        · rintro rfl
          exact notBelow (EReal.bot_lt_coe low)
        · rintro rfl
          exact notAbove (EReal.coe_lt_top high)
      lift x to ℝ using ⟨bounded.2, bounded.1⟩
      exact ⟨x, rfl⟩

theorem ewma_real (alpha prev current : ℝ)
    : ∃ average : ℝ, ewma (alpha : EReal) (prev : EReal) (current : EReal) = average := by
  have one : @OfScientific.ofScientific EReal Float64.instOfScientific 10 true 1
      = ((1 : ℝ) : EReal) := by
    rw [ExtendedReals.literal]
    norm_num [decimalValue]
  unfold ewma
  rw [one, ExtendedReals.sub, ExtendedReals.mul, ExtendedReals.mulAdd]
  exact ⟨_, rfl⟩

theorem asSecsF64_real (duration : Duration)
    : ∃ seconds : ℝ, (Duration.asSecsF64 duration : EReal) = seconds := by
  unfold Duration.asSecsF64
  rw [ExtendedReals.ofNat, ExtendedReals.ofNat, ExtendedReals.ofNat, ExtendedReals.div,
    ExtendedReals.add]
  exact ⟨_, rfl⟩

def measuredRate {F : Type} [Float64 F] (previous : SampleState) (sample : RateSample) (dt : F)
    : F :=
  (Float64.ofNat previous.freeBytes - Float64.ofNat sample.freeBytes) / dt

theorem measuredRate_real (previous : SampleState) (sample : RateSample) (seconds : ℝ)
    : ∃ instRate : ℝ, measuredRate previous sample (seconds : EReal) = instRate := by
  unfold measuredRate
  rw [ExtendedReals.ofNat, ExtendedReals.ofNat, ExtendedReals.sub, ExtendedReals.div]
  exact ⟨_, rfl⟩

def followed {F : Type} [Float64 F] (self : DiskRateEstimator F) (previous : SampleState)
    (sample : RateSample) (dt : F) : DiskRateEstimator F :=
  let instRate := measuredRate previous sample dt
  self.followRate instRate dt (self.dampedAlpha instRate)

/-- What a sample leaves of the estimator, and what it forecasts, is that of the estimator that has
followed its rate.
-/
theorem measure_followed {F : Type} [Float64 F] [LimitFloat64 F] [ProjectingFloat64 F]
    (self : DiskRateEstimator F) (previous : SampleState) (sample : RateSample) (dt : F)
    : (self.measure previous sample dt).1.ewmaRate
          = (self.followed previous sample dt).ewmaRate
        ∧ (self.measure previous sample dt).1.ewmaAccel
          = (self.followed previous sample dt).ewmaAccel
        ∧ (self.measure previous sample dt).2.secondsToExhaustion
          = projectTime (self.followed previous sample dt).ewmaRate
            (self.followed previous sample dt).ewmaAccel (Float64.ofNat sample.freeBytes)
        ∧ (self.measure previous sample dt).2.secondsToThreshold
          = projectTime (self.followed previous sample dt).ewmaRate
            (self.followed previous sample dt).ewmaAccel
            (Float64.ofNat (sample.freeBytes - sample.thresholdFreeBytes)) := by
  unfold measure computeBurstState followPrediction
  dsimp only
  split <;> split <;> exact ⟨rfl, rfl, rfl, rfl⟩

theorem followed_real (real : self.IsReal)
    (previous : SampleState) (sample : RateSample) (seconds : ℝ)
    : ∃ rate accel : ℝ, (self.followed previous sample (seconds : EReal)).ewmaRate = rate
        ∧ (self.followed previous sample (seconds : EReal)).ewmaAccel = accel := by
  obtain ⟨rate, average⟩ := real.rate
  obtain ⟨accel, trend⟩ := real.accel
  obtain ⟨low, minAlpha⟩ := real.low
  obtain ⟨high, maxAlpha⟩ := real.high
  obtain ⟨instRate, measured⟩ := measuredRate_real previous sample seconds
  obtain ⟨alpha, weight⟩ : ∃ alpha : ℝ, self.dampedAlpha (instRate : EReal) = alpha := by
    unfold dampedAlpha
    rw [minAlpha, maxAlpha]
    exact clamp_real _ low high
  obtain ⟨rate', average'⟩ := ewma_real alpha rate instRate
  obtain ⟨accel', trend'⟩ := ewma_real alpha accel ((rate' - rate) / seconds)
  refine ⟨rate', accel', ?_, ?_⟩
  · simp only [followed, followRate, measured, weight, average, average']
  · simp only [followed, followRate, measured, weight, average, average', trend,
      ExtendedReals.sub, ExtendedReals.div, trend']

/-- A measured rate keeps the estimator real, and what is forecast from it is a forecast. -/
theorem measure_forecasts (real : self.IsReal)
    (previous : SampleState) (sample : RateSample) (seconds : ℝ)
    : (self.measure previous sample (seconds : EReal)).1.IsReal
      ∧ Forecasts sample (self.measure previous sample (seconds : EReal)).2 := by
  obtain ⟨rate, accel, average, trend⟩ := followed_real real previous sample seconds
  obtain ⟨keptRate, keptAccel, exhaustion, threshold⟩ :=
    self.measure_followed previous sample (seconds : EReal)
  have settings := self.settings_measure previous sample (seconds : EReal)
  rw [average, trend, ExtendedReals.ofNat] at exhaustion threshold
  constructor
  · refine ⟨⟨rate, keptRate.trans average⟩, ⟨accel, keptAccel.trans trend⟩, ?_, ?_⟩
    · obtain ⟨low, minAlpha⟩ := real.low
      exact ⟨low, (congrArg EstimatorSettings.minAlpha settings).trans minAlpha⟩
    · obtain ⟨high, maxAlpha⟩ := real.high
      exact ⟨high, (congrArg EstimatorSettings.maxAlpha settings).trans maxAlpha⟩
  · refine ⟨?_, fun passed => ?_⟩
    · rw [exhaustion, threshold]
      exact projectTime_le rate accel (by exact_mod_cast Nat.sub_le _ _)
    · rw [threshold, Nat.sub_eq_zero_of_le passed]
      exact projectTime_arrived (by simp)

/-- One sample keeps the estimator real, and forecasts exactly if it can be foreseen. -/
theorem update_forecasts_iff (real : self.IsReal) (sample : RateSample)
    : (self.update sample).1.IsReal
      ∧ (Forecasts sample (self.update sample).2 ↔ self.Foresees sample) := by
  have idle := fallbackEstimate_forecasts_iff real sample
  unfold update Foresees measures
  cases last : self.last with
  | none => exact ⟨⟨real.rate, real.accel, real.low, real.high⟩, by simpa using idle⟩
  | some previous =>
      dsimp only
      by_cases early : sample.observedAt < previous.at_
      · simp only [early, if_true, decide_true, Bool.not_true, Bool.false_and,
          Bool.false_eq_true, false_or]
        exact ⟨real, idle⟩
      · obtain ⟨seconds, duration⟩ := asSecsF64_real (sample.observedAt - previous.at_)
        cases short : Float64.le (Duration.asSecsF64 (sample.observedAt - previous.at_) : EReal)
            1e-6 with
        | true =>
            simp only [early, if_false, if_true, decide_false, Bool.not_false, Bool.not_true,
              Bool.and_false, Bool.false_eq_true, false_or]
            exact ⟨real, idle⟩
        | false =>
            simp only [early, if_false, decide_false, Bool.not_false, Bool.and_true,
              Bool.false_eq_true, true_or, iff_true]
            rw [duration]
            exact measure_forecasts real previous sample seconds

def advance {F : Type} [Float64 F] [LimitFloat64 F] [ProjectingFloat64 F]
    (self : DiskRateEstimator F) (sample : RateSample) : DiskRateEstimator F :=
  (self.update sample).1

theorem advance_real (real : self.IsReal) (sample : RateSample)
    : (self.advance sample).IsReal :=
  (update_forecasts_iff real sample).1

theorem withHistoryCap_real (baseAlpha : EReal) (minAlpha maxAlpha : ℝ)
    (minSamples rateHistoryCap : Nat)
    : (withHistoryCap baseAlpha (minAlpha : EReal) (maxAlpha : EReal) minSamples
        rateHistoryCap).IsReal :=
  ⟨⟨0, extended_zero⟩, ⟨0, extended_zero⟩, ⟨_, rfl⟩, ⟨_, rfl⟩⟩

/-- Whatever samples a new estimator is given, all its estimates are forecasts exactly if each
sample measures a rate, finds the disk filling, or is above the threshold.
-/
theorem forecasts_iff_foreseen (baseAlpha : EReal) (minAlpha maxAlpha : ℝ)
    (minSamples rateHistoryCap : Nat) (samples : List RateSample)
    : let start := withHistoryCap baseAlpha (minAlpha : EReal) (maxAlpha : EReal) minSamples
        rateHistoryCap
      (∀ taken ∈ steps advance start samples, Forecasts taken.2 (taken.1.update taken.2).2)
        ↔ Guarded advance Foresees start samples := by
  intro start
  have kept : ∀ state ∈ states advance start samples, state.IsReal :=
    @invariant_of_kept _ _ advance IsReal _ _ (fun _ sample real => advance_real real sample)
      (withHistoryCap_real baseAlpha minAlpha maxAlpha minSamples rateHistoryCap)
  rw [guarded_iff_steps]
  refine forall₂_congr fun taken member => ?_
  exact (update_forecasts_iff (kept taken.1 (step_mem_states member).1) taken.2).2

def firstBelow : RateSample := ⟨100, 0, 200⟩

/-- The threshold is passed, but it is forecast never to be reached. -/
theorem firstBelow_unforeseen
    : ¬ ∀ taken ∈ steps advance
          (withHistoryCap ((3 / 10 : ℝ) : EReal) ((1 / 10 : ℝ) : EReal) ((3 / 4 : ℝ) : EReal) 3 60)
          [firstBelow],
        Forecasts taken.2 (taken.1.update taken.2).2 := by
  intro forecasts
  have real := withHistoryCap_real ((3 / 10 : ℝ) : EReal) (1 / 10) (3 / 4) 3 60
  have first := forecasts _ List.mem_cons_self
  rcases (update_forecasts_iff real firstBelow).2.mp first with measured | filling | above
  · cases measured
  · change 0 < @OfScientific.ofScientific EReal Float64.instOfScientific 0 true 1 at filling
    rw [extended_zero, EReal.coe_zero] at filling
    exact lt_irrefl _ filling
  · exact absurd above (by decide)

end DiskRateEstimator

end StorageBallast
