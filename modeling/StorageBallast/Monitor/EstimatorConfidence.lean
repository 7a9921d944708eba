import StorageBallast.Foundations.FloatValues
import StorageBallast.Monitor.ForecastOrder

/-! How far the averages of the estimator can go, whatever samples it is given: the jitter and the
confidence stay between zero and one, and after the warm-up a sample that measures a rate is never
distrusted.
-/

namespace StorageBallast

open scoped Float64
open Runs
open ValuedFloat64 (value)
open NearestFloat64

/-- The literals of the confidence make no less than the literal for their sum. -/
class ConfidenceFloat64 (F : Type) [Float64 F] : Prop where
  least_confidence : Float64.le (0.575 : F) (Float64.mulAdd 0.3 0.25 0.5) = true

instance : ConfidenceFloat64 Float where
  least_confidence := by decide +kernel

instance : ConfidenceFloat64 EReal where
  least_confidence := by
    rw [ExtendedReals.literal, ExtendedReals.literal, ExtendedReals.literal,
      ExtendedReals.literal, ExtendedReals.mulAdd, ExtendedReals.le_iff, EReal.coe_le_coe_iff]
    norm_num [decimalValue]

namespace DiskRateEstimator

variable {F : Type} [Float64 F] [ValuedFloat64 F] [NearestFloat64 F]

theorem value_of_min {a b : F} (finite : Float64.isFinite a = true)
    (finite' : Float64.isFinite b = true)
    : Float64.isFinite (Float64.min a b) = true
      ∧ value (Float64.min a b) = min (value a) (value b) := by
  unfold Float64.min
  simp only [le_iff finite finite', le_iff finite' finite, le_iff finite finite]
  split
  · exact ⟨finite, (min_eq_left ‹_›).symm⟩
  · rename_i above
    rw [if_pos (not_le.mp above).le]
    exact ⟨finite', (min_eq_right (not_le.mp above).le).symm⟩

/-- The settings are those of a weight between zero and one, and some samples are asked for. -/
structure Tuned (settings : EstimatorSettings F) : Prop where
  base_ordered : Float64.le settings.baseAlpha settings.baseAlpha = true
  zero_le : Float64.le 0.0 settings.minAlpha = true
  min_le_max : Float64.le settings.minAlpha settings.maxAlpha = true
  max_le_one : Float64.le settings.maxAlpha 1.0 = true
  minSamples_pos : 1 ≤ settings.minSamples
  minSamples_lt : settings.minSamples < 2 ^ 64

end DiskRateEstimator

structure RateSample.Representable (sample : RateSample) : Prop where
  freeBytes_lt : sample.freeBytes < 2 ^ 64
  observedAt_le : sample.observedAt ≤ Duration.max

namespace DiskRateEstimator

variable {F : Type} [Float64 F] [ValuedFloat64 F] [NearestFloat64 F]

/-- What is known of an estimator at all times: how far its averages are, and that the last
projection it keeps is a time to come.
-/
structure Settled (estimator : DiskRateEstimator F) : Prop where
  rate : Within (-2 ^ 84) (2 ^ 84) estimator.ewmaRate
  residual : Within 0 (2 ^ 85) estimator.residualEwma
  jitter : Within 0 1 estimator.predictionJitterEwma
  predicted : ∀ seconds ∈ estimator.lastPredictedSecs,
    Float64.isFinite seconds = true ∧ 0 ≤ value seconds
  samples_lt : estimator.samples < 2 ^ 64
  last_lt : ∀ previous ∈ estimator.last, previous.freeBytes < 2 ^ 64

theorem within_asSecsF64 {duration : Duration} (short : duration ≤ Duration.max)
    : Within 0 (2 ^ 65) (Duration.asSecsF64 duration : F) := by
  have seconds : Within 0 (2 ^ 64) (Float64.ofNat duration.asSecs : F) := by
    refine within_ofNat ((Nat.div_le_div_right short).trans ?_) (by omega)
    norm_num [Duration.max]
  have nanos : Within 0 (2 ^ 30) (Float64.ofNat (duration % 1000000000) : F) :=
    within_ofNat (by omega) (by omega)
  have fixed : Fixed F ((1000000000 : ℕ) : ℝ) := by
    exact_mod_cast fixed_int (F := F) 1000000000 (by norm_num)
  have billion := within_of_rounded (NearestFloat64.ofNat (F := F) 1000000000) fixed fixed le_rfl
    le_rfl
  have positive : (0 : ℝ) < value (Float64.ofNat 1000000000 : F) := by
    refine lt_of_lt_of_le ?_ billion.low_le
    norm_num
  have fraction : Within 0 (2 ^ 30)
      (Float64.ofNat (duration % 1000000000) / Float64.ofNat 1000000000 : F) := by
    refine within_of_rounded (div nanos.finite billion.finite positive.ne') fixed_zero
      (fixed_pow 30 (by omega)) (div_nonneg nanos.low_le positive.le) ?_
    refine (div_le_self nanos.low_le ?_).trans nanos.le_high
    refine le_trans ?_ billion.low_le
    norm_num
  unfold Duration.asSecsF64
  refine within_of_rounded (add seconds.finite fraction.finite) fixed_zero
    (fixed_pow 65 (by omega)) (add_nonneg seconds.low_le fraction.low_le) ?_
  refine (add_le_add seconds.le_high fraction.le_high).trans ?_
  norm_num

/-- A microsecond and more is no less than this power of two. -/
theorem value_of_not_short {dt : F} (finite : Float64.isFinite dt = true)
    (long : Float64.le dt 1e-6 = false) : 1 / 2 ^ 20 ≤ value dt := by
  have micro : Within (1 / 2 ^ 20) 1 (1e-6 : F) :=
    within_decimal 1 true 6 (fixed_inv_pow 20 (by omega)) fixed_one
      (by norm_num [decimalValue]) (by norm_num [decimalValue])
  rw [← Bool.not_eq_true, le_iff finite micro.finite, not_le] at long
  exact micro.low_le.trans long.le

theorem within_measuredRate {previous : SampleState} {sample : RateSample} {dt : F}
    (before : previous.freeBytes < 2 ^ 64) (now : sample.freeBytes < 2 ^ 64)
    (finite : Float64.isFinite dt = true) (long : 1 / 2 ^ 20 ≤ value dt)
    : Within (-2 ^ 84) (2 ^ 84) (measuredRate previous sample dt) := by
  have had : Within 0 (2 ^ 64) (Float64.ofNat previous.freeBytes : F) :=
    within_ofNat before.le (by omega)
  have has : Within 0 (2 ^ 64) (Float64.ofNat sample.freeBytes : F) :=
    within_ofNat now.le (by omega)
  have consumed : Within (-2 ^ 64) (2 ^ 64)
      (Float64.ofNat previous.freeBytes - Float64.ofNat sample.freeBytes : F) :=
    within_of_rounded (sub had.finite has.finite) (fixed_pow 64 (by omega)).neg
      (fixed_pow 64 (by omega)) (by linarith [had.low_le, has.le_high])
      (by linarith [had.le_high, has.low_le])
  have positive : 0 < value dt := lt_of_lt_of_le (by positivity) long
  unfold measuredRate
  generalize (Float64.ofNat previous.freeBytes - Float64.ofNat sample.freeBytes : F) = change
    at consumed ⊢
  refine within_of_rounded (div consumed.finite finite positive.ne')
    (fixed_pow 84 (by omega)).neg (fixed_pow 84 (by omega)) ?_ ?_
  · rw [le_div_iff₀ positive]
    nlinarith [consumed.low_le]
  · rw [div_le_iff₀ positive]
    nlinarith [consumed.le_high]

theorem within_deviation {rate average : F} (rateWithin : Within (-2 ^ 84) (2 ^ 84) rate)
    (averageWithin : Within (-2 ^ 84) (2 ^ 84) average)
    : Within 0 (2 ^ 85) (Float64.abs (rate - average)) := by
  refine within_abs (within_of_rounded (sub rateWithin.finite averageWithin.finite)
    (fixed_pow 85 (by omega)).neg (fixed_pow 85 (by omega)) ?_ ?_)
  · linarith [rateWithin.low_le, averageWithin.le_high]
  · linarith [rateWithin.le_high, averageWithin.low_le]

theorem within_size {rate : F} (within : Within (-2 ^ 84) (2 ^ 84) rate)
    : Within 1 (2 ^ 85) (Float64.abs rate + 1.0) := by
  obtain ⟨oneFinite, one⟩ := value_one (F := F)
  have size := within_abs within
  refine within_of_rounded (add size.finite oneFinite) fixed_one (fixed_pow 85 (by omega)) ?_ ?_
  · linarith [size.low_le]
  · linarith [size.le_high]

/-- A quotient of a nonnegative number by one that is no less than one. -/
theorem within_quotient {dividend divisor : F} {high : ℝ} {k : ℕ} (moderate : k ≤ 800)
    (above : Within 0 (2 ^ k) dividend) (below : Within 1 high divisor)
    : Within 0 (2 ^ k) (dividend / divisor) := by
  have positive : 0 < value divisor := lt_of_lt_of_le one_pos below.low_le
  exact within_of_rounded (div above.finite below.finite positive.ne') fixed_zero
    (fixed_pow k moderate) (div_nonneg above.low_le positive.le)
    ((div_le_self above.low_le below.low_le).trans above.le_high)

/-- The reciprocal of a number between one and a power of two. -/
theorem within_reciprocal {divisor : F} {k : ℕ} (moderate : k ≤ 800)
    (below : Within 1 (2 ^ k) divisor) : Within (1 / 2 ^ k) 1 (1.0 / divisor) := by
  obtain ⟨oneFinite, one⟩ := value_one (F := F)
  have positive : 0 < value divisor := lt_of_lt_of_le one_pos below.low_le
  refine within_of_rounded (div oneFinite below.finite positive.ne')
    (fixed_inv_pow k moderate) fixed_one ?_ ?_
  · rw [one]
    exact one_div_le_one_div_of_le positive below.le_high
  · rw [one, div_le_one positive]
    exact below.low_le

theorem within_dampedAlpha [NumberFloat64 F] {self : DiskRateEstimator F}
    (tuned : Tuned self.settings) (settled : Settled self) {instRate : F}
    (within : Within (-2 ^ 84) (2 ^ 84) instRate) : Within 0 1 (self.dampedAlpha instRate) := by
  obtain ⟨oneFinite, one⟩ := value_one (F := F)
  obtain ⟨twoFinite, two⟩ := value_two (F := F)
  obtain ⟨zeroFinite, zero⟩ := value_zero (F := F)
  have burstiness := within_quotient (by omega) (within_deviation within settled.rate)
    (within_size settled.rate)
  have spread : Within 1 (2 ^ 87) (Float64.mulAdd 2.0 (Float64.abs (instRate - self.ewmaRate)
      / (Float64.abs self.ewmaRate + 1.0)) 1.0) := by
    refine within_of_rounded (mulAdd twoFinite burstiness.finite oneFinite) fixed_one
      (fixed_pow 87 (by omega)) ?_ ?_
    · rw [two, one]
      linarith [burstiness.low_le]
    · rw [two, one]
      linarith [burstiness.le_high]
  have damping := within_reciprocal (by omega) spread
  have ordered := mul_ordered tuned.base_ordered damping.finite
    (lt_of_lt_of_le (by positivity) damping.low_le)
  have lowFinite := finite_between zeroFinite oneFinite tuned.zero_le
    (NumberFloat64.le_trans tuned.min_le_max tuned.max_le_one)
  have highFinite := finite_between zeroFinite oneFinite
    (NumberFloat64.le_trans tuned.zero_le tuned.min_le_max) tuned.max_le_one
  have low := (le_iff zeroFinite lowFinite).mp tuned.zero_le
  have high := (le_iff highFinite oneFinite).mp tuned.max_le_one
  rw [zero] at low
  rw [one] at high
  exact (within_clamp lowFinite highFinite ((le_iff lowFinite highFinite).mp tuned.min_le_max)
    ordered).1.weaken low high

/-- An average of numbers between zero and a power of two stays there. -/
theorem within_ewma_nonneg {alpha prev current : F} {k : ℕ} (moderate : k ≤ 700)
    (weight : Within 0 1 alpha) (prevWithin : Within 0 (2 ^ k) prev)
    (currentWithin : Within 0 (2 ^ k) current) : Within 0 (2 ^ k) (ewma alpha prev current) := by
  obtain ⟨oneFinite, one⟩ := value_one (F := F)
  have opposite : -(2 : ℝ) ^ k ≤ 0 := neg_nonpos.mpr (by positivity)
  obtain ⟨average, nonneg⟩ := within_average moderate oneFinite one weight
    (prevWithin.weaken opposite le_rfl) (currentWithin.weaken opposite le_rfl)
  exact ⟨average.finite, nonneg prevWithin.low_le currentWithin.low_le, average.le_high⟩

section projection

variable [LimitFloat64 F] [ProjectingFloat64 F] [UnboundedFloat64 F]

/-- A finite projection is a time to come, by its branches. -/
theorem projectTime_nonneg_of_finite {rate accel distance : F}
    (rateFinite : Float64.isFinite rate = true) {high : ℝ} (ahead : Within 0 high distance)
    : Float64.isFinite (projectTime rate accel distance) = true
      → 0 ≤ value (projectTime rate accel distance) := by
  obtain ⟨zeroFinite, zero⟩ := value_zero (F := F)
  have infinite : Float64.isFinite (ProjectingFloat64.infinity : F) = true
      → 0 ≤ value (ProjectingFloat64.infinity : F) := by
    rw [UnboundedFloat64.infinity_not_finite]
    exact fun finite => absurd finite Bool.false_ne_true
  unfold projectTime
  split
  · exact fun _ => zero.ge
  split
  · exact infinite
  rename_i notIdle
  rw [le_iff rateFinite zeroFinite, zero, not_le] at notIdle
  have straight : Float64.isFinite (distance / rate) = true → 0 ≤ value (distance / rate) := by
    intro finite
    rw [(div ahead.finite rateFinite notIdle.ne').value_eq finite,
      ← fixed_zero.rounded_eq (F := F)]
    exact rounded_mono (div_nonneg ahead.low_le notIdle.le)
  split
  · exact straight
  dsimp only
  split
  · exact infinite
  split
  · exact infinite
  split
  · rename_i accepted
    intro finite
    rw [Bool.and_eq_true, Float64.gt, lt_iff zeroFinite finite, zero] at accepted
    exact accepted.2.le
  · exact straight

end projection

/-- How much a projection has changed is no more than the greater of the two. -/
theorem within_swing {seconds prev : F} (finite : Float64.isFinite seconds = true)
    (finite' : Float64.isFinite prev = true) (nonneg : 0 ≤ value seconds)
    (nonneg' : 0 ≤ value prev)
    : Within 0 1 (Float64.abs (seconds - prev)
        / Float64.max (Float64.max (Float64.abs seconds) (Float64.abs prev)) 60.0) := by
  have sixty : Float64.isFinite (60.0 : F) = true ∧ value (60.0 : F) = 60 :=
    value_decimal (by exact_mod_cast fixed_int (F := F) 60 (by norm_num))
      (by norm_num [decimalValue])
  obtain ⟨sizeFinite, size⟩ := NearestFloat64.abs finite
  obtain ⟨sizeFinite', size'⟩ := NearestFloat64.abs finite'
  obtain ⟨greaterFinite, greater⟩ := value_of_max sizeFinite sizeFinite'
  obtain ⟨scaleFinite, scale⟩ := value_of_max greaterFinite sixty.1
  rw [greater, size, size', abs_of_nonneg nonneg, abs_of_nonneg nonneg', sixty.2] at scale
  have difference : |value seconds - value prev|
      ≤ value (Float64.max (Float64.max (Float64.abs seconds) (Float64.abs prev)) 60.0) := by
    rw [scale, abs_le]
    have left := le_max_left (value seconds) (value prev)
    have right := le_max_right (value seconds) (value prev)
    have both := le_max_left (max (value seconds) (value prev)) 60
    constructor <;> linarith
  obtain ⟨differenceFinite, bounded⟩ := abs_value_le (sub finite finite') scaleFinite difference
  obtain ⟨changeFinite, change⟩ := NearestFloat64.abs differenceFinite
  have positive : 0 < value (Float64.max (Float64.max (Float64.abs seconds) (Float64.abs prev))
      60.0) := by
    rw [scale]
    exact lt_of_lt_of_le (by norm_num) (le_max_right _ 60)
  rw [← change] at bounded
  refine within_of_rounded (div changeFinite scaleFinite positive.ne') fixed_zero fixed_one ?_ ?_
  · rw [change]
    positivity
  · rw [div_le_one positive]
    exact bounded

section confidence

variable {self : DiskRateEstimator F}

theorem within_residualTerm (settled : Settled self)
    : Within 0 1 (1.0 / (1.0 + self.residualEwma / (Float64.abs self.ewmaRate + 1.0)) : F) := by
  obtain ⟨oneFinite, one⟩ := value_one (F := F)
  have ratio := within_quotient (by omega) settled.residual (within_size settled.rate)
  refine (within_reciprocal (k := 86) (by omega) (within_of_rounded
    (add oneFinite ratio.finite) fixed_one (fixed_pow 86 (by omega)) ?_ ?_)).weaken
    (by positivity) le_rfl
  · linarith [ratio.low_le]
  · linarith [ratio.le_high]

theorem within_stabilityTerm (settled : Settled self)
    : Within (1 / 2 ^ 2) 1 (1.0 / Float64.mulAdd 3.0 self.predictionJitterEwma 1.0 : F) := by
  obtain ⟨oneFinite, one⟩ := value_one (F := F)
  obtain ⟨threeFinite, three⟩ := value_three (F := F)
  have jitter := settled.jitter
  refine within_reciprocal (by omega) (within_of_rounded
    (mulAdd threeFinite jitter.finite oneFinite) fixed_one (fixed_pow 2 (by omega)) ?_ ?_)
  · rw [three, one]
    linarith [jitter.low_le]
  · rw [three, one]
    linarith [jitter.le_high]

/-- The share of the samples asked for, which is whole after the warm-up. -/
theorem within_sampleTerm (tuned : Tuned self.settings) (few : self.samples < 2 ^ 64)
    : Within 0 1 (Float64.min
        (Float64.ofNat self.samples / Float64.ofNat (max self.minSamples 1)) 1.0 : F)
      ∧ (self.minSamples ≤ self.samples → value (Float64.min
        (Float64.ofNat self.samples / Float64.ofNat (max self.minSamples 1)) 1.0 : F) = 1) := by
  obtain ⟨oneFinite, one⟩ := value_one (F := F)
  have asked : max self.minSamples 1 = self.minSamples := max_eq_left tuned.minSamples_pos
  have limit := tuned.minSamples_lt
  change self.minSamples < 2 ^ 64 at limit
  rw [asked]
  have taken : Within 0 (2 ^ 64) (Float64.ofNat self.samples : F) :=
    within_ofNat few.le (by omega)
  have wanted : Within 1 (2 ^ 64) (Float64.ofNat self.minSamples : F) :=
    within_of_rounded (ofNat _) fixed_one (fixed_pow 64 (by omega))
      (by exact_mod_cast tuned.minSamples_pos) (by exact_mod_cast limit.le)
  have positive : 0 < value (Float64.ofNat self.minSamples : F) :=
    lt_of_lt_of_le one_pos wanted.low_le
  have share := within_quotient (by omega) taken wanted
  obtain ⟨finite, least⟩ := value_of_min share.finite oneFinite
  rw [one] at least
  refine ⟨⟨finite, ?_, ?_⟩, fun warm => ?_⟩
  · rw [least]
    exact le_min share.low_le zero_le_one
  · rw [least]
    exact min_le_right _ _
  · rw [least]
    refine min_eq_right ?_
    rw [(div taken.finite wanted.finite positive.ne').value_eq share.finite,
      ← fixed_one.rounded_eq (F := F)]
    refine rounded_mono ?_
    rw [le_div_iff₀ positive, one_mul, (ofNat _).value_eq taken.finite,
      (ofNat _).value_eq wanted.finite]
    exact rounded_mono (by exact_mod_cast warm)

/-- The terms weighted and summed up, and the least that they make with all samples. -/
theorem value_weighted {stability residual samples : F}
    (stable : Within (1 / 2 ^ 2) 1 stability) (fitting : Within 0 1 residual)
    (counted : Within 0 1 samples)
    : Within 0 (2 ^ 1)
        (Float64.mulAdd 0.3 stability (Float64.mulAdd 0.2 residual (0.5 * samples)))
      ∧ (value samples = 1 → Float64.le (Float64.mulAdd 0.3 0.25 0.5)
        (Float64.mulAdd 0.3 stability (Float64.mulAdd 0.2 residual (0.5 * samples))) = true) := by
  obtain ⟨halfFinite, half⟩ := value_half (F := F)
  have quarter : Float64.isFinite (0.25 : F) = true ∧ value (0.25 : F) = 1 / 4 :=
    value_decimal fixed_quarter (by norm_num [decimalValue])
  have two := fixed_pow (F := F) 1 (by omega)
  have heavy : Within 0 (1 / 2) (0.3 : F) :=
    within_decimal 3 true 1 fixed_zero fixed_half (by norm_num [decimalValue])
      (by norm_num [decimalValue])
  have light : Within 0 (1 / 2) (0.2 : F) :=
    within_decimal 2 true 1 fixed_zero fixed_half (by norm_num [decimalValue])
      (by norm_num [decimalValue])
  have halved := mul halfFinite counted.finite
  rw [half] at halved
  have halfWithin : Within 0 (1 / 2) (0.5 * samples) :=
    within_of_rounded halved fixed_zero fixed_half (by linarith [counted.low_le])
      (by linarith [counted.le_high])
  have inner := mulAdd light.finite fitting.finite halfWithin.finite
  have fitted : 0 ≤ value (0.2 : F) * value residual
      ∧ value (0.2 : F) * value residual ≤ 1 / 2 :=
    ⟨mul_nonneg light.low_le fitting.low_le,
      (mul_le_of_le_one_right light.low_le fitting.le_high).trans light.le_high⟩
  have innerWithin : Within 0 1 (Float64.mulAdd 0.2 residual (0.5 * samples)) :=
    within_of_rounded inner fixed_zero fixed_one (by linarith [halfWithin.low_le])
      (by linarith [halfWithin.le_high])
  have total := mulAdd heavy.finite stable.finite innerWithin.finite
  have steadied : value (0.3 : F) * (1 / 4) ≤ value (0.3 : F) * value stability :=
    mul_le_mul_of_nonneg_left (by linarith [stable.low_le]) heavy.low_le
  have limited := mul_le_of_le_one_right heavy.low_le stable.le_high
  have totalWithin := within_of_rounded total fixed_zero two
    (by linarith [heavy.low_le, innerWithin.low_le])
    (by linarith [heavy.le_high, innerWithin.le_high])
  refine ⟨totalWithin, fun whole => ?_⟩
  -- With all samples the half is whole, and no term takes away from it.
  have kept : 1 / 2 ≤ value (Float64.mulAdd 0.2 residual (0.5 * samples)) := by
    have all : value (0.5 * samples) = 1 / 2 := by
      rw [halved.value_eq halfWithin.finite, whole, mul_one, fixed_half.rounded_eq]
    rw [inner.value_eq innerWithin.finite, all, ← fixed_half.rounded_eq (F := F)]
    exact rounded_mono (by rw [fixed_half.rounded_eq]; linarith)
  have least := mulAdd heavy.finite quarter.1 halfFinite
  have leastWithin := within_of_rounded least fixed_zero two
    (by rw [quarter.2, half]; linarith [heavy.low_le])
    (by rw [quarter.2, half]; linarith [heavy.le_high])
  rw [le_iff leastWithin.finite totalWithin.finite, least.value_eq leastWithin.finite,
    total.value_eq totalWithin.finite, quarter.2, half]
  exact rounded_mono (by linarith)

/-- The confidence is between zero and one, and after the warm-up no less than what the samples
and the least stability make.
-/
theorem within_computeConfidence [NumberFloat64 F] [ConfidenceFloat64 F]
    (tuned : Tuned self.settings) (settled : Settled self)
    : Within 0 1 self.computeConfidence
      ∧ (self.minSamples ≤ self.samples → Float64.le 0.575 self.computeConfidence = true) := by
  obtain ⟨zeroFinite, zero⟩ := value_zero (F := F)
  obtain ⟨oneFinite, one⟩ := value_one (F := F)
  unfold computeConfidence
  split
  · rename_i noSamples
    refine ⟨⟨zeroFinite, zero.ge, zero.trans_le zero_le_one⟩, fun warm => ?_⟩
    have asked := tuned.minSamples_pos
    change 1 ≤ self.minSamples at asked
    omega
  dsimp only
  obtain ⟨counted, warmed⟩ := within_sampleTerm tuned settled.samples_lt
  obtain ⟨weighted, least⟩ := value_weighted (within_stabilityTerm settled)
    (within_residualTerm settled) counted
  obtain ⟨clamped, reached⟩ := within_clamp zeroFinite oneFinite
    (by rw [zero, one]; exact zero_le_one) ((le_iff weighted.finite weighted.finite).mpr le_rfl)
  rw [zero, one] at clamped
  refine ⟨clamped, fun warm => ?_⟩
  have target : Within 0 1 (0.575 : F) :=
    within_decimal 575 true 3 fixed_zero fixed_one (by norm_num [decimalValue])
      (by norm_num [decimalValue])
  rw [le_iff target.finite clamped.finite]
  refine reached weighted.finite _ (target.le_high.trans one.ge) ?_
  exact (le_iff target.finite weighted.finite).mp
    (NumberFloat64.le_trans ConfidenceFloat64.least_confidence (least (warmed warm)))

end confidence

section measured

variable [NumberFloat64 F] [LimitFloat64 F] [ProjectingFloat64 F] [UnboundedFloat64 F]
  {self : DiskRateEstimator F}

omit [ValuedFloat64 F] [NearestFloat64 F] [NumberFloat64 F] [UnboundedFloat64 F] in
/-- What a measured rate leaves of the estimator beside its averages. -/
theorem measure_kept (self : DiskRateEstimator F) (previous : SampleState) (sample : RateSample)
    (dt : F)
    : (self.measure previous sample dt).1.residualEwma
          = (self.followed previous sample dt).residualEwma
        ∧ (self.measure previous sample dt).1.last = some ⟨sample.freeBytes, sample.observedAt⟩
        ∧ (self.measure previous sample dt).1.samples = min (self.samples + 1) (2 ^ 64 - 1)
        ∧ (self.measure previous sample dt).1.predictionJitterEwma
          = (self.followPrediction (self.measure previous sample dt).2.secondsToThreshold
              (self.dampedAlpha (measuredRate previous sample dt))).predictionJitterEwma
        ∧ (self.measure previous sample dt).1.lastPredictedSecs
          = (self.followPrediction (self.measure previous sample dt).2.secondsToThreshold
              (self.dampedAlpha (measuredRate previous sample dt))).lastPredictedSecs := by
  unfold measure computeBurstState followPrediction
  dsimp only
  split <;> split <;> exact ⟨rfl, rfl, rfl, rfl, rfl⟩

omit [LimitFloat64 F] [ProjectingFloat64 F] [UnboundedFloat64 F] [NumberFloat64 F] in
/-- The swing of a projection that is a time to come keeps the jitter between its bounds. -/
theorem followPrediction_settled (settled : Settled self) {seconds alpha : F}
    (weight : Within 0 1 alpha) (nonneg : Float64.isFinite seconds = true → 0 ≤ value seconds)
    : Within 0 1 (self.followPrediction seconds alpha).predictionJitterEwma
      ∧ ∀ prev ∈ (self.followPrediction seconds alpha).lastPredictedSecs,
        Float64.isFinite prev = true ∧ 0 ≤ value prev := by
  unfold followPrediction
  split
  · rename_i finite
    constructor
    · cases last : self.lastPredictedSecs with
      | none => exact settled.jitter
      | some prev =>
          obtain ⟨finite', nonneg'⟩ := settled.predicted prev last
          have swing := within_swing finite finite' (nonneg finite) nonneg'
          have jitter := settled.jitter
          rw [← pow_zero (2 : ℝ)] at swing jitter
          have average := within_ewma_nonneg (by omega) weight jitter swing
          rwa [pow_zero] at average
    · rintro prev ⟨⟩
      exact ⟨finite, nonneg finite⟩
  · exact ⟨settled.jitter, settled.predicted⟩

theorem measure_settled (tuned : Tuned self.settings) (settled : Settled self)
    {previous : SampleState} {sample : RateSample} {dt : F}
    (before : previous.freeBytes < 2 ^ 64) (now : sample.freeBytes < 2 ^ 64)
    (finite : Float64.isFinite dt = true) (long : 1 / 2 ^ 20 ≤ value dt)
    : Settled (self.measure previous sample dt).1 := by
  obtain ⟨oneFinite, one⟩ := value_one (F := F)
  obtain ⟨rate, -, -, threshold⟩ := self.measure_followed previous sample dt
  obtain ⟨residual, last, samples, jitter, predicted⟩ := self.measure_kept previous sample dt
  have measured := within_measuredRate before now finite long
  have weight := within_dampedAlpha tuned settled measured
  have followedRate : Within (-2 ^ 84) (2 ^ 84) (self.followed previous sample dt).ewmaRate :=
    (within_average (by omega) oneFinite one weight settled.rate measured).1
  have distance : Within 0 (2 ^ 64)
      (Float64.ofNat (sample.freeBytes - sample.thresholdFreeBytes) : F) :=
    within_ofNat (by omega) (by omega)
  have nonneg : Float64.isFinite (self.measure previous sample dt).2.secondsToThreshold = true
      → 0 ≤ value (self.measure previous sample dt).2.secondsToThreshold := by
    rw [threshold]
    exact projectTime_nonneg_of_finite followedRate.finite distance
  obtain ⟨swings, projects⟩ := followPrediction_settled settled weight nonneg
  refine ⟨rate ▸ followedRate, ?_, jitter ▸ swings, predicted ▸ projects, ?_, ?_⟩
  · rw [residual]
    exact within_ewma_nonneg (by omega) weight settled.residual
      (within_deviation measured settled.rate)
  · rw [samples]
    omega
  · rintro state kept
    rw [last] at kept
    cases kept
    exact now

end measured

/-- The confidence of an estimate is a share, and once there are as many samples as are asked for
it is well above what is distrusted, so that there is a fallback only without a new rate.
-/
structure Trusts (minSamples : Nat) (measured : Bool) (estimate : RateEstimate F) : Prop where
  zero_le : Float64.le 0.0 estimate.confidence = true
  le_one : Float64.le estimate.confidence 1.0 = true
  least : minSamples ≤ estimate.sampleCount → Float64.le 0.575 estimate.confidence = true
  fallback_iff : minSamples ≤ estimate.sampleCount
    → (estimate.fallbackActive = true ↔ measured = false)

theorem share_of_within {x : F} (within : Within 0 1 x)
    : Float64.le 0.0 x = true ∧ Float64.le x 1.0 = true := by
  obtain ⟨zeroFinite, zero⟩ := value_zero (F := F)
  obtain ⟨oneFinite, one⟩ := value_one (F := F)
  rw [le_iff zeroFinite within.finite, le_iff within.finite oneFinite, zero, one]
  exact ⟨within.low_le, within.le_high⟩

theorem withHistoryCap_settled (baseAlpha minAlpha maxAlpha : F)
    (minSamples rateHistoryCap : Nat)
    : Settled (withHistoryCap baseAlpha minAlpha maxAlpha minSamples rateHistoryCap) := by
  obtain ⟨zeroFinite, zero⟩ := value_zero (F := F)
  have within {low high : ℝ} (below : low ≤ 0) (above : 0 ≤ high) : Within low high (0.0 : F) :=
    ⟨zeroFinite, zero ▸ below, zero ▸ above⟩
  exact ⟨within (by norm_num) (by positivity), within le_rfl (by positivity),
    within le_rfl zero_le_one, fun _ none => (Option.not_mem_none _ none).elim, Nat.two_pow_pos 64,
    fun _ none => (Option.not_mem_none _ none).elim⟩

section runs

variable [NumberFloat64 F] [LimitFloat64 F] [ProjectingFloat64 F] [UnboundedFloat64 F]
  [ConfidenceFloat64 F] {self : DiskRateEstimator F}

omit [LimitFloat64 F] [UnboundedFloat64 F] in
theorem fallbackEstimate_trusts (tuned : Tuned self.settings) (settled : Settled self)
    (sample : RateSample) : Trusts self.minSamples false (self.fallbackEstimate sample) := by
  obtain ⟨within, least⟩ := within_computeConfidence tuned settled
  obtain ⟨zeroLe, leOne⟩ := share_of_within within
  exact ⟨zeroLe, leOne, least, fun _ => iff_of_true rfl rfl⟩

omit [UnboundedFloat64 F] in
/-- A rate that was measured after the warm-up is never distrusted. -/
theorem measure_trusts (tuned : Tuned self.settings) {previous : SampleState}
    {sample : RateSample} {dt : F} (settled : Settled (self.measure previous sample dt).1)
    : Trusts self.minSamples true (self.measure previous sample dt).2 := by
  have settings := self.settings_measure previous sample dt
  have asked : (self.measure previous sample dt).1.minSamples = self.minSamples :=
    congrArg EstimatorSettings.minSamples settings
  obtain ⟨within, least⟩ := within_computeConfidence (settings ▸ tuned) settled
  obtain ⟨zeroLe, leOne⟩ := share_of_within within
  refine ⟨zeroLe, leOne, fun warm => least (asked.trans_le warm), fun warm => ?_⟩
  have trusted : Float64.le 0.2 (self.measure previous sample dt).2.confidence = true :=
    NumberFloat64.le_trans (NumberFloat64.decimal_le (by norm_num [decimalValue]))
      (least (asked.trans_le warm))
  have distrust : Within 0 1 (0.2 : F) :=
    within_decimal 2 true 1 fixed_zero fixed_one (by norm_num [decimalValue])
      (by norm_num [decimalValue])
  have few : ¬ (self.measure previous sample dt).1.samples
      < (self.measure previous sample dt).1.minSamples := by
    rw [asked]
    exact not_lt.mpr warm
  have fallback : (self.measure previous sample dt).2.fallbackActive
      = (decide ((self.measure previous sample dt).1.samples
          < (self.measure previous sample dt).1.minSamples)
        || Float64.lt (self.measure previous sample dt).2.confidence 0.2) := rfl
  have above : ¬ Float64.lt (self.measure previous sample dt).2.confidence 0.2 = true := by
    refine fun below => not_lt.mpr ?_ ((lt_iff within.finite distrust.finite).mp below)
    exact (le_iff distrust.finite within.finite).mp trusted
  rw [fallback, decide_eq_false few, Bool.false_or]
  exact iff_of_false above Bool.false_ne_true.symm

/-- One sample keeps the estimator settled, and its estimate is to be trusted. -/
theorem update_trusts (tuned : Tuned self.settings) (settled : Settled self)
    {sample : RateSample} (representable : sample.Representable)
    : Settled (self.update sample).1
      ∧ Trusts self.minSamples (self.measures sample) (self.update sample).2 := by
  have fallback := fallbackEstimate_trusts tuned settled sample
  unfold update measures
  cases last : self.last with
  | none =>
      refine ⟨⟨settled.rate, settled.residual, settled.jitter, settled.predicted,
        settled.samples_lt, ?_⟩, fallback⟩
      rintro state ⟨⟩
      exact representable.freeBytes_lt
  | some previous =>
      dsimp only
      by_cases early : sample.observedAt < previous.at_
      · simp only [early, if_true, decide_true, Bool.not_true, Bool.false_and]
        exact ⟨settled, fallback⟩
      cases short : Float64.le (Duration.asSecsF64 (sample.observedAt - previous.at_) : F) 1e-6
        with
      | true =>
          simp only [early, if_false, if_true, Bool.not_true, Bool.and_false]
          exact ⟨settled, fallback⟩
      | false =>
          simp only [early, if_false, decide_false, Bool.not_false, Bool.and_true,
            Bool.false_eq_true]
          have finite := (within_asSecsF64 (F := F)
            ((Nat.sub_le _ previous.at_).trans representable.observedAt_le)).finite
          have kept := measure_settled tuned settled (settled.last_lt previous last)
            representable.freeBytes_lt finite (value_of_not_short finite short)
          exact ⟨kept, measure_trusts tuned kept⟩

/-- Whatever samples a new estimator is given, its jitter and its confidence are shares, and once
it is warm the confidence is never below the literal and only a sample that measures no rate
falls back.
-/
theorem updates_trusted {baseAlpha minAlpha maxAlpha : F} {minSamples rateHistoryCap : Nat}
    (tuned : Tuned ⟨baseAlpha, minAlpha, maxAlpha, minSamples, rateHistoryCap⟩)
    {samples : List RateSample} (representable : ∀ sample ∈ samples, sample.Representable)
    : let start := withHistoryCap baseAlpha minAlpha maxAlpha minSamples rateHistoryCap
      (∀ estimator ∈ states advance start samples,
          Float64.le 0.0 estimator.predictionJitterEwma = true
            ∧ Float64.le estimator.predictionJitterEwma 1.0 = true)
        ∧ ∀ taken ∈ steps advance start samples,
          Trusts minSamples (taken.1.measures taken.2) (taken.1.update taken.2).2 := by
  intro start
  have guarded : Guarded advance (fun _ sample => sample.Representable) start samples := by
    rw [guarded_iff_steps]
    rintro ⟨estimator, sample⟩ member
    obtain ⟨front, back, rfl, -⟩ := mem_steps_iff.mp member
    exact representable sample (by simp)
  have startTuned : Tuned start.settings :=
    ⟨tuned.base_ordered, tuned.zero_le, tuned.min_le_max, tuned.max_le_one,
      tuned.minSamples_pos, tuned.minSamples_lt⟩
  have kept : ∀ estimator ∈ states advance start samples,
      estimator.settings = start.settings ∧ Settled estimator := by
    refine invariant_of_guarded ?_ ⟨rfl, withHistoryCap_settled ..⟩ guarded
    intro estimator sample known fits
    exact ⟨(estimator.settings_update sample).trans known.1,
      (update_trusts (known.1 ▸ startTuned) known.2 fits).1⟩
  refine ⟨fun estimator member => share_of_within (kept estimator member).2.jitter, ?_⟩
  intro taken member
  obtain ⟨settings, settled⟩ := kept taken.1 (step_mem_states member).1
  have trusts := (update_trusts (settings ▸ startTuned) settled
    (guarded_iff_steps.mp guarded taken member)).2
  rwa [show taken.1.minSamples = minSamples from congrArg EstimatorSettings.minSamples settings]
    at trusts

end runs

/-- Readings that are a second apart, but for the last, which comes with the one before it. -/
def ticking : List RateSample :=
  [⟨1000, 0, 100⟩, ⟨900, 1000000000, 100⟩, ⟨700, 2000000000, 100⟩, ⟨50, 3000000000, 100⟩,
    ⟨40, 3000000000, 100⟩]

theorem ticking_trusted
    : let start := withHistoryCap ((3 / 10 : ℝ) : EReal) ((1 / 10 : ℝ) : EReal)
        ((3 / 4 : ℝ) : EReal) 3 60
      (∀ estimator ∈ states advance start ticking,
          Float64.le 0.0 estimator.predictionJitterEwma = true
            ∧ Float64.le estimator.predictionJitterEwma 1.0 = true)
        ∧ ∀ taken ∈ steps advance start ticking,
          Trusts 3 (taken.1.measures taken.2) (taken.1.update taken.2).2 := by
  have tuned : Tuned (F := EReal) ⟨((3 / 10 : ℝ) : EReal), ((1 / 10 : ℝ) : EReal),
      ((3 / 4 : ℝ) : EReal), 3, 60⟩ := by
    refine ⟨extended_le_self _, ?_, ?_, ?_, by decide, by decide⟩
    · rw [ExtendedReals.literal, ExtendedReals.le_iff, EReal.coe_le_coe_iff]
      norm_num [decimalValue]
    · rw [ExtendedReals.le_iff, EReal.coe_le_coe_iff]
      norm_num
    · rw [ExtendedReals.literal, ExtendedReals.le_iff, EReal.coe_le_coe_iff]
      norm_num [decimalValue]
  have representable : ∀ sample ∈ ticking, sample.Representable := by
    rw [← List.forall_iff_forall_mem]
    refine ⟨?_, ?_, ?_, ?_, ?_⟩ <;> exact ⟨by decide, by decide⟩
  exact updates_trusted tuned representable

end DiskRateEstimator

end StorageBallast
