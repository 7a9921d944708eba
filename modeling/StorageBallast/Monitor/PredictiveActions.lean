import StorageBallast.Core.ConfigFile
import StorageBallast.Monitor.RateEstimator

/-! Predictions mapped to actions: the fewer minutes are left, the more is done, once the
estimate has passed the gates that keep bursts from being taken for trends.
-/

namespace StorageBallast

open scoped Float64

inductive PredictiveAction (F : Type) where
  | clear
  | earlyWarning (mount : Location) (minutesRemaining confidence rateBytesPerSecond : F)
    (trend : Trend)
  | preemptiveCleanup (mount : Location) (minutesRemaining confidence rateBytesPerSecond : F)
    (recommendedMinScore recommendedFreeTargetPct : F)
  | imminentDanger (mount : Location) (minutesRemaining : F) (critical : Bool)

namespace PredictiveAction

variable {F : Type}

def severity : PredictiveAction F → Nat
  | clear => 0
  | earlyWarning .. => 1
  | preemptiveCleanup .. => 2
  | imminentDanger _ _ critical => if critical then 4 else 3

def isClear : PredictiveAction F → Bool
  | clear => true
  | _ => false

end PredictiveAction

structure PredictiveActionPolicy (F : Type) where
  config : ConfigFile.PredictionConfig F

variable {F : Type} [Float64 F]

def lerp (a b t : F) : F := Float64.mulAdd (b - a) t a

namespace ConfigFile.PredictionConfig

variable (self : PredictionConfig F)

def progress (minutesRemaining : F) : F :=
  let range := self.actionHorizonMinutes - self.imminentDangerMinutes
  if Float64.gt range 0.0 then
    Float64.clamp ((self.actionHorizonMinutes - minutesRemaining) / range) 0.0 1.0
  else 1.0

def recommendedMinScore (minutesRemaining : F) : F :=
  lerp 0.60 0.30 (self.progress minutesRemaining)

def recommendedFreeTargetPct (minutesRemaining : F) : F :=
  lerp 15.0 25.0 (self.progress minutesRemaining)

def requiredConfidence (impliedRatePctPerMin : F) : F :=
  let severity := Float64.clamp ((impliedRatePctPerMin - 5.0) / 10.0) 0.0 1.0
  self.minConfidence + severity * (0.95 - self.minConfidence)

def rejectsExtreme (impliedRatePctPerMin confidence : F) : Bool :=
  Float64.gt impliedRatePctPerMin 5.0
    && Float64.lt confidence (self.requiredConfidence impliedRatePctPerMin)

end ConfigFile.PredictionConfig

namespace PredictiveActionPolicy

variable (self : PredictiveActionPolicy F)

/-- Map minutes remaining to an action. -/
def classify (minutesRemaining confidence rateBps : F) (trend : Trend) (mount : Location)
    : PredictiveAction F :=
  if Float64.le minutesRemaining self.config.criticalDangerMinutes then
    .imminentDanger mount minutesRemaining true
  else if Float64.le minutesRemaining self.config.imminentDangerMinutes then
    .imminentDanger mount minutesRemaining false
  else if Float64.le minutesRemaining self.config.actionHorizonMinutes then
    .preemptiveCleanup mount minutesRemaining confidence rateBps
      (self.config.recommendedMinScore minutesRemaining)
      (self.config.recommendedFreeTargetPct minutesRemaining)
  else if Float64.le minutesRemaining self.config.warningHorizonMinutes then
    .earlyWarning mount minutesRemaining confidence rateBps trend
  else .clear

/-- The gates in front of every projection. -/
def untrusted (estimate : RateEstimate F) (currentFreePct : F) (sampleCount : Option Nat)
    : Bool :=
  !self.config.enabled
  || estimate.fallbackActive
  || Float64.lt estimate.confidence self.config.minConfidence
  || sampleCount.any (· < self.config.minSamples)
  || (estimate.trend == .recovering || estimate.trend == .decelerating)
  || Float64.le estimate.bytesPerSecond 0.0
  || (Float64.gt currentFreePct 50.0 && Float64.lt estimate.confidence 0.95)

section projection

variable [ProjectingFloat64 F]

/-- The minutes to act on, and with what confidence, when a burst is likely: the longer one of
the projections by the average and by the median of the rates.
-/
def projectBurst (estimate : RateEstimate F) : Option (F × F) :=
  let bs := estimate.burstState
  let medianMinutes :=
    if Float64.gt bs.medianRate 0.0 then
      estimate.secondsToExhaustion * (estimate.bytesPerSecond / bs.medianRate) / 60.0
    else ProjectingFloat64.infinity
  if Float64.gt medianMinutes self.config.warningHorizonMinutes then none
  else
    let minutesRemaining := Float64.max (estimate.secondsToExhaustion / 60.0) medianMinutes
    if !Float64.isFinite minutesRemaining || Float64.lt minutesRemaining 0.0 then none
    else
      let effectiveConfidence :=
        estimate.confidence * Float64.mulAdd 0.3 (-bs.burstProbability) 1.0
      let burstMinConfidence :=
        Float64.max self.config.minConfidence self.config.burstMinConfidence
      if Float64.lt effectiveConfidence burstMinConfidence then none
      else some (minutesRemaining, effectiveConfidence)

omit [ProjectingFloat64 F] in
/-- A rate that would use up the free space too fast to be believed, in front of the imminent
danger.
-/
def rejectsImplied (confidence currentFreePct minutesRemaining : F) : Bool :=
  Float64.gt currentFreePct 20.0
  && Float64.gt minutesRemaining self.config.imminentDangerMinutes
  && ((Float64.gt (currentFreePct / minutesRemaining) 1.0 && Float64.gt currentFreePct 40.0
      && Float64.lt confidence 0.90)
    || self.config.rejectsExtreme (currentFreePct / minutesRemaining) confidence)

omit [ProjectingFloat64 F] in
/-- The same within the action horizon, if the history is long enough and shows no burst. -/
def rejectsUncorroborated (estimate : RateEstimate F) (currentFreePct minutesRemaining : F)
    : Bool :=
  estimate.burstState.calibrated
  && Float64.lt estimate.burstState.burstProbability 0.5
  && Float64.gt currentFreePct 20.0
  && Float64.le minutesRemaining self.config.actionHorizonMinutes
  && self.config.rejectsExtreme (currentFreePct / minutesRemaining) estimate.confidence

omit [ProjectingFloat64 F] in
/-- With free space to spare, an average far above the median gives way to it. -/
def checkMedian (estimate : RateEstimate F) (currentFreePct minutesRemaining : F) : Option F :=
  let bs := estimate.burstState
  if bs.calibrated && Float64.gt bs.medianRate 0.0 && Float64.gt currentFreePct 25.0
      && Float64.le minutesRemaining self.config.warningHorizonMinutes then
    let rateDivergence := estimate.bytesPerSecond / bs.medianRate
    if Float64.gt rateDivergence 3.0 then
      let medianMinutes := estimate.secondsToExhaustion * rateDivergence / 60.0
      if Float64.gt medianMinutes self.config.warningHorizonMinutes then none
      else some (Float64.max minutesRemaining medianMinutes)
    else some minutesRemaining
  else some minutesRemaining

omit [ProjectingFloat64 F] in
/-- The minutes to act on without a burst. -/
def projectSteady (estimate : RateEstimate F) (currentFreePct : F) : Option (F × F) :=
  let minutesRemaining := estimate.secondsToExhaustion / 60.0
  if !Float64.isFinite minutesRemaining || Float64.lt minutesRemaining 0.0 then none
  else if self.rejectsImplied estimate.confidence currentFreePct minutesRemaining then none
  else if self.rejectsUncorroborated estimate currentFreePct minutesRemaining then none
  else
    (self.checkMedian estimate currentFreePct minutesRemaining).map fun minutes =>
      (minutes, estimate.confidence)

def project (estimate : RateEstimate F) (currentFreePct : F) (sampleCount : Option Nat)
    : Option (F × F) :=
  if self.untrusted estimate currentFreePct sampleCount then none
  else if estimate.burstState.calibrated
      && Float64.gt estimate.burstState.burstProbability 0.5 then self.projectBurst estimate
  else self.projectSteady estimate currentFreePct

def evaluateWithSamples (estimate : RateEstimate F) (currentFreePct : F) (mount : Location)
    (sampleCount : Option Nat) : PredictiveAction F :=
  match self.project estimate currentFreePct sampleCount with
  | none => .clear
  | some (minutesRemaining, confidence) =>
      self.classify minutesRemaining confidence estimate.bytesPerSecond estimate.trend mount

def evaluate (estimate : RateEstimate F) (currentFreePct : F) (mount : Location)
    : PredictiveAction F :=
  self.evaluateWithSamples estimate currentFreePct mount (some estimate.sampleCount)

end projection

end PredictiveActionPolicy

end StorageBallast
