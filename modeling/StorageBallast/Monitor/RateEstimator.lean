import StorageBallast.Monitor.VoiScheduler

/-! The estimator of how fast a disk fills: a moving average of the rate with a damped weight,
the times to exhaustion it projects, and the bursts it finds in the history of rates.
-/

namespace StorageBallast

open scoped Float64
open Sorting (sortBy)

inductive Trend where
  | stable
  | accelerating
  | decelerating
  | recovering
deriving DecidableEq, Repr

structure BurstState (F : Type) where
  burstProbability : F
  /-- The long-term baseline. -/
  medianRate : F
  burstDurationSamples : Nat
  /-- Whether the history is long enough. -/
  calibrated : Bool
  madRate : F
  /-- Rates above this are outliers. -/
  robustUpperBound : F

structure RateEstimate (F : Type) where
  bytesPerSecond : F
  acceleration : F
  secondsToExhaustion : F
  secondsToThreshold : F
  sampleCount : Nat
  confidence : F
  trend : Trend
  alphaUsed : F
  fallbackActive : Bool
  burstState : BurstState F

structure SampleState where
  freeBytes : Nat
  at_ : Instant

structure RateSample where
  freeBytes : Nat
  observedAt : Instant
  thresholdFreeBytes : Nat

def burstCalibrationMin : Nat := 30

structure DiskRateEstimator (F : Type) where
  baseAlpha : F
  minAlpha : F
  maxAlpha : F
  ewmaRate : F
  ewmaAccel : F
  residualEwma : F
  /-- Average change of the predicted time, relative to that time. -/
  predictionJitterEwma : F
  lastPredictedSecs : Option F
  minSamples : Nat
  samples : Nat
  last : Option SampleState
  /-- The recent rates, the oldest first. -/
  rateHistory : List F
  rateHistoryCap : Nat
  burstDurationSamples : Nat

structure EstimatorSettings (F : Type) where
  baseAlpha : F
  minAlpha : F
  maxAlpha : F
  minSamples : Nat
  rateHistoryCap : Nat

variable {F : Type} [Float64 F]

namespace BurstState

def default [ProjectingFloat64 F] : BurstState F where
  burstProbability := 0.0
  medianRate := 0.0
  burstDurationSamples := 0
  calibrated := false
  madRate := 0.0
  robustUpperBound := ProjectingFloat64.infinity

def isBurstOutlier (self : BurstState F) (rate : F) : Bool :=
  self.calibrated && Float64.gt (Float64.abs rate) self.robustUpperBound

end BurstState

namespace DiskRateEstimator

def ewma (alpha prev current : F) : F := Float64.mulAdd alpha current ((1.0 - alpha) * prev)

def classifyTrend (rate accel : F) : Trend :=
  if Float64.lt rate (-1.0) then .recovering
  else if Float64.gt accel 64.0 then .accelerating
  else if Float64.lt accel (-64.0) then .decelerating
  else .stable

def median (sorted : List F) : F :=
  let middle := sorted.length / 2
  if sorted.length % 2 = 0 then
    Float64.midpoint (sorted.getD (middle - 1) 0.0) (sorted.getD middle 0.0)
  else sorted.getD middle 0.0

def sortRates (rates : List F) : List F :=
  sortBy (fun left right => (Float64.partialCmp left right).getD .eq) rates

section projection

variable [LimitFloat64 F] [ProjectingFloat64 F]

/-- The root of the equation of motion, in the form that loses no precision; none if the disk
never fills at this trend.
-/
def motionRoot (rate accel distanceBytes root : F) : Option F :=
  if Float64.lt accel 0.0 then
    let denom := rate + root
    if Float64.lt (Float64.abs denom) LimitFloat64.epsilon then none
    else
      let t := 2.0 * distanceBytes / denom
      -- the rate would have come to nothing before
      if Float64.gt t (-rate / accel) then none else some t
  else some ((-rate + root) / accel)

/-- Seconds until so many bytes are used up. -/
def projectTime (rate accel distanceBytes : F) : F :=
  if Float64.le distanceBytes 0.0 then 0.0
  else if Float64.le rate 0.0 then ProjectingFloat64.infinity
  else if Float64.lt (Float64.abs accel) 1e-9 then distanceBytes / rate
  else
    let discriminant := Float64.mulAdd rate rate (2.0 * accel * distanceBytes)
    if Float64.lt discriminant 0.0 then ProjectingFloat64.infinity
    else
      match motionRoot rate accel distanceBytes (ProjectingFloat64.sqrt discriminant) with
      | none => ProjectingFloat64.infinity
      | some t =>
          if Float64.isFinite t && Float64.gt t 0.0 then t else distanceBytes / rate

end projection

def withHistoryCap (baseAlpha minAlpha maxAlpha : F) (minSamples rateHistoryCap : Nat)
    : DiskRateEstimator F where
  baseAlpha
  minAlpha
  maxAlpha
  ewmaRate := 0.0
  ewmaAccel := 0.0
  residualEwma := 0.0
  predictionJitterEwma := 0.0
  lastPredictedSecs := none
  minSamples
  samples := 0
  last := none
  rateHistory := []
  rateHistoryCap := max rateHistoryCap 1
  burstDurationSamples := 0

omit [Float64 F] in
def updateParams (self : DiskRateEstimator F) (baseAlpha minAlpha maxAlpha : F)
    (minSamples : Nat)
    : DiskRateEstimator F :=
  { self with baseAlpha, minAlpha, maxAlpha, minSamples }

omit [Float64 F] in
def settings (self : DiskRateEstimator F) : EstimatorSettings F where
  baseAlpha := self.baseAlpha
  minAlpha := self.minAlpha
  maxAlpha := self.maxAlpha
  minSamples := self.minSamples
  rateHistoryCap := self.rateHistoryCap

def computeConfidence (self : DiskRateEstimator F) : F :=
  if self.samples = 0 then 0.0
  else
    let sampleTerm := Float64.min
      (Float64.ofNat self.samples / Float64.ofNat (max self.minSamples 1)) 1.0
    let residualTerm :=
      1.0 / (1.0 + self.residualEwma / (Float64.abs self.ewmaRate + 1.0))
    let stabilityTerm := 1.0 / Float64.mulAdd 3.0 self.predictionJitterEwma 1.0
    Float64.clamp
      (Float64.mulAdd 0.3 stabilityTerm (Float64.mulAdd 0.2 residualTerm (0.5 * sampleTerm)))
      0.0 1.0

variable [ProjectingFloat64 F]

/-- Without a new rate the last average is projected in a straight line. -/
def fallbackEstimate (self : DiskRateEstimator F) (sample : RateSample) : RateEstimate F :=
  let straight (distance : Nat) : F :=
    if Float64.gt self.ewmaRate 0.0 then Float64.ofNat distance / self.ewmaRate
    else ProjectingFloat64.infinity
  { bytesPerSecond := self.ewmaRate
    acceleration := self.ewmaAccel
    secondsToExhaustion := straight sample.freeBytes
    secondsToThreshold := straight (sample.freeBytes - sample.thresholdFreeBytes)
    sampleCount := self.samples
    confidence := self.computeConfidence
    trend := classifyTrend self.ewmaRate self.ewmaAccel
    alphaUsed := self.baseAlpha
    fallbackActive := true
    burstState := BurstState.default }

def burstDuration (self : DiskRateEstimator F) (medianRate latestRate : F) : Nat :=
  let threshold := medianRate * 3.0
  if Float64.gt threshold 1.0 && Float64.gt (Float64.abs latestRate) threshold then
    saturatingAddU32 self.burstDurationSamples 1
  else 0

def burstProbability (medianRate latestRate : F) (duration : Nat) : F :=
  let deviationFactor :=
    if Float64.gt medianRate 1.0 then
      Float64.max (Float64.abs latestRate / medianRate - 1.0) 0.0
    else 0.0
  let magnitudeWeight := Float64.clamp (deviationFactor / 10.0) 0.0 1.0
  let durationWeight := Float64.min (Float64.ofNat duration / 5.0) 1.0
  let combinedWeight := Float64.max magnitudeWeight durationWeight
  Float64.clamp (deviationFactor * combinedWeight / (deviationFactor + 1.0)) 0.0 1.0

/-- Burst detection from the history, which the latest rate ends. -/
def computeBurstState (self : DiskRateEstimator F) (latestRate : F)
    : DiskRateEstimator F × BurstState F :=
  if self.rateHistory.length < burstCalibrationMin then
    ({ self with burstDurationSamples := 0 }, BurstState.default)
  else
    let sorted := sortRates (self.rateHistory.map Float64.abs)
    let medianRate := median sorted
    let deviations := sortRates (sorted.map fun rate => Float64.abs (rate - medianRate))
    let madRate := median deviations * 1.4826
    let duration := self.burstDuration medianRate latestRate
    ({ self with burstDurationSamples := duration }, {
      burstProbability := burstProbability medianRate latestRate duration
      medianRate
      burstDurationSamples := duration
      calibrated := true
      madRate
      robustUpperBound := Float64.mulAdd 3.0 madRate medianRate })

omit [ProjectingFloat64 F] in
def followRate (self : DiskRateEstimator F) (instRate dt alpha : F) : DiskRateEstimator F :=
  let ewmaRate := ewma alpha self.ewmaRate instRate
  let pushed := self.rateHistory ++ [instRate]
  { self with
    residualEwma :=
      ewma alpha self.residualEwma (Float64.abs (instRate - self.ewmaRate))
    ewmaRate
    ewmaAccel := ewma alpha self.ewmaAccel ((ewmaRate - self.ewmaRate) / dt)
    samples := min (self.samples + 1) (2 ^ 64 - 1)
    rateHistory := pushed.drop (pushed.length - self.rateHistoryCap) }

omit [ProjectingFloat64 F] in
/-- How much the predicted time swings; an infinite one is passed over. -/
def followPrediction (self : DiskRateEstimator F) (secondsToThreshold alpha : F)
    : DiskRateEstimator F :=
  if Float64.isFinite secondsToThreshold then
    { self with
      predictionJitterEwma :=
        match self.lastPredictedSecs with
        | none => self.predictionJitterEwma
        | some prev =>
            let change := Float64.abs (secondsToThreshold - prev)
            let scale := Float64.max
              (Float64.max (Float64.abs secondsToThreshold) (Float64.abs prev)) 60.0
            ewma alpha self.predictionJitterEwma (change / scale)
      lastPredictedSecs := some secondsToThreshold }
  else self

omit [ProjectingFloat64 F] in
def dampedAlpha (self : DiskRateEstimator F) (instRate : F) : F :=
  let burstiness :=
    Float64.abs (instRate - self.ewmaRate) / (Float64.abs self.ewmaRate + 1.0)
  let damping := 1.0 / Float64.mulAdd 2.0 burstiness 1.0
  Float64.clamp (self.baseAlpha * damping) self.minAlpha self.maxAlpha

variable [LimitFloat64 F]

/-- A sample that comes some seconds after the one before it. -/
def measure (self : DiskRateEstimator F) (previous : SampleState) (sample : RateSample) (dt : F)
    : DiskRateEstimator F × RateEstimate F :=
  let consumed := Float64.ofNat previous.freeBytes - Float64.ofNat sample.freeBytes
  let instRate := consumed / dt
  let alpha := self.dampedAlpha instRate
  let followed := { self.followRate instRate dt alpha with
    last := some ⟨sample.freeBytes, sample.observedAt⟩ }
  let bursts := followed.computeBurstState instRate
  let project (distance : Nat) : F :=
    projectTime followed.ewmaRate followed.ewmaAccel (Float64.ofNat distance)
  let secondsToThreshold := project (sample.freeBytes - sample.thresholdFreeBytes)
  let updated := bursts.1.followPrediction secondsToThreshold alpha
  let confidence := updated.computeConfidence
  (updated, {
    bytesPerSecond := updated.ewmaRate
    acceleration := updated.ewmaAccel
    secondsToExhaustion := project sample.freeBytes
    secondsToThreshold
    sampleCount := updated.samples
    confidence
    trend := classifyTrend updated.ewmaRate updated.ewmaAccel
    alphaUsed := alpha
    fallbackActive :=
      decide (updated.samples < updated.minSamples) || Float64.lt confidence 0.2
    burstState := bursts.2 })

/-- The first sample, and one that is not later than the last, give no rate. -/
def update (self : DiskRateEstimator F) (sample : RateSample)
    : DiskRateEstimator F × RateEstimate F :=
  match self.last with
  | none =>
      ({ self with last := some ⟨sample.freeBytes, sample.observedAt⟩ },
        self.fallbackEstimate sample)
  | some previous =>
      if sample.observedAt < previous.at_ then (self, self.fallbackEstimate sample)
      else
        let dt : F := Duration.asSecsF64 (sample.observedAt - previous.at_)
        if Float64.le dt 1e-6 then (self, self.fallbackEstimate sample)
        else self.measure previous sample dt

section frame

variable (self : DiskRateEstimator F)

omit [LimitFloat64 F] in
@[simp] theorem settings_computeBurstState (latestRate : F)
    : (self.computeBurstState latestRate).1.settings = self.settings := by
  unfold computeBurstState
  split <;> rfl

omit [ProjectingFloat64 F] [LimitFloat64 F] in
@[simp] theorem settings_followPrediction (secondsToThreshold alpha : F)
    : (self.followPrediction secondsToThreshold alpha).settings = self.settings := by
  unfold followPrediction
  split <;> rfl

theorem settings_measure (previous : SampleState) (sample : RateSample) (dt : F)
    : (self.measure previous sample dt).1.settings = self.settings :=
  (settings_followPrediction ..).trans (settings_computeBurstState ..)

@[simp] theorem settings_update (sample : RateSample)
    : (self.update sample).1.settings = self.settings := by
  unfold update
  split
  · rfl
  · rename_i previous _
    split
    · rfl
    · dsimp only
      split
      · rfl
      · exact self.settings_measure previous sample _

end frame

end DiskRateEstimator

end StorageBallast
