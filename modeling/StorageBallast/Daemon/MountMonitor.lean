import StorageBallast.Daemon.DaemonConfig
import StorageBallast.Daemon.PressureChecks
import StorageBallast.Monitor.AdaptiveGuard
import StorageBallast.Monitor.RateEstimator

/-! The monitor of one mount: an estimator, a pressure controller and a guard. It is built
from the configuration, and a reload updates it in place.
-/

namespace StorageBallast

open scoped Float64

structure GuardSample (F : Type) where
  at_ : Instant
  availableBytes : Nat
  predictedRate : F
  predictedTte : F

structure MountMonitor (F : Type) where
  rateEstimator : DiskRateEstimator F
  pressureController : PidPressureController F
  guard : AdaptiveGuard F
  lastGuardSample : Option (GuardSample F)

/-- What the configuration sets of a controller; the rest of it is what readings leave. -/
structure ControllerSettings (F : Type) where
  kp : F
  ki : F
  kd : F
  integralCap : F
  hysteresisPct : F
  targetFreePct : F
  thresholds : PressureThresholds F
  basePollInterval : Duration
  urgencyThresholds : UrgencyThresholds F

structure MonitorSettings (F : Type) where
  estimator : EstimatorSettings F
  controller : ControllerSettings F
  guard : GuardrailConfig F

def PidPressureController.settings {F : Type} (self : PidPressureController F)
    : ControllerSettings F where
  kp := self.kp
  ki := self.ki
  kd := self.kd
  integralCap := self.integralCap
  hysteresisPct := self.hysteresisPct
  targetFreePct := self.targetFreePct
  thresholds := self.thresholds
  basePollInterval := self.basePollInterval
  urgencyThresholds := self.urgencyThresholds

variable {F : Type} [Float64 F]

namespace DaemonConfig

omit [Float64 F] in
def pressureThresholds (self : DaemonConfig F) : PressureThresholds F where
  greenMinFreePct := self.pressure.greenMinFreePct
  yellowMinFreePct := self.pressure.yellowMinFreePct
  orangeMinFreePct := self.pressure.orangeMinFreePct
  redMinFreePct := self.pressure.redMinFreePct

def guardrailConfig (self : DaemonConfig F) : GuardrailConfig F :=
  { GuardrailConfig.default with
    minObservations := self.telemetry.guardrailMinObservations
    windowSize := self.telemetry.guardrailWindowSize }

end DaemonConfig

namespace MountMonitor

def new (config : DaemonConfig F) : MountMonitor F :=
  let controller := PidPressureController.new 0.25 0.08 0.02 100.0
    config.pressure.greenMinFreePct 1.0 config.pressureThresholds
    (.fromMillis config.pressure.pollIntervalMs)
  { rateEstimator := .withHistoryCap config.telemetry.ewmaBaseAlpha
      config.telemetry.ewmaMinAlpha config.telemetry.ewmaMaxAlpha
      config.telemetry.ewmaMinSamples config.telemetry.ewmaRateHistorySize
    pressureController :=
      if config.pressure.prediction.enabled then
        controller.setActionHorizonMinutes config.pressure.prediction.actionHorizonMinutes
      else controller
    guard := .new config.guardrailConfig
    lastGuardSample := none }

/-- The rate estimator keeps the size of its history, and the guard its configuration. -/
def updateConfig [LimitFloat64 F] (self : MountMonitor F) (config : DaemonConfig F)
    : MountMonitor F :=
  let controller := ((self.pressureController.setTargetFreePct
    config.pressure.greenMinFreePct).setPressureThresholds
    config.pressureThresholds).setBasePollInterval
    (.fromMillis config.pressure.pollIntervalMs)
  { self with
    rateEstimator := self.rateEstimator.updateParams config.telemetry.ewmaBaseAlpha
      config.telemetry.ewmaMinAlpha config.telemetry.ewmaMaxAlpha
      config.telemetry.ewmaMinSamples
    pressureController :=
      if config.pressure.prediction.enabled then
        controller.setActionHorizonMinutes config.pressure.prediction.actionHorizonMinutes
      else controller.disableUrgencyBoost }

omit [Float64 F] in
def settings (self : MountMonitor F) : MonitorSettings F where
  estimator := self.rateEstimator.settings
  controller := self.pressureController.settings
  guard := self.guard.config

section tick

variable [ProjectingFloat64 F]

/-- What came of the last forecast; nothing is observed without time passing. -/
def observation (self : MountMonitor F) (now : Instant) (availableBytes thresholdBytes : Nat)
    (bursts : BurstState F)
    : Option (CalibrationObservation F) :=
  self.lastGuardSample.bind fun previous =>
    if now < previous.at_ then none
    else
      let dtSeconds : F := Duration.asSecsF64 (now - previous.at_)
      if Float64.gt dtSeconds 1e-6 then
        let consumedBytes :=
          Float64.ofNat previous.availableBytes - Float64.ofNat availableBytes
        let actualRate := consumedBytes / dtSeconds
        some {
          predictedRate := previous.predictedRate
          actualRate
          predictedTte := previous.predictedTte
          actualTte :=
            if availableBytes ≤ thresholdBytes then dtSeconds else ProjectingFloat64.infinity
          burstOutlier := bursts.isBurstOutlier actualRate }
      else none

/-- What the next tick will be compared with. -/
def guardSample (now : Instant) (availableBytes : Nat) (estimate : RateEstimate F)
    : GuardSample F where
  at_ := now
  availableBytes
  predictedRate :=
    if Float64.isFinite estimate.bytesPerSecond then estimate.bytesPerSecond else 0.0
  predictedTte :=
    if Float64.isFinite estimate.secondsToThreshold
        && Float64.ge estimate.secondsToThreshold 0.0 then
      estimate.secondsToThreshold
    else ProjectingFloat64.infinity

def observeGuard (self : MountMonitor F) (now : Instant) (availableBytes thresholdBytes : Nat)
    (estimate : RateEstimate F)
    : MountMonitor F × GuardDiagnostics F :=
  let guard :=
    match self.observation now availableBytes thresholdBytes estimate.burstState with
    | none => self.guard
    | some observed => self.guard.observe observed
  ({ self with guard, lastGuardSample := some (guardSample now availableBytes estimate) },
    guard.diagnostics)

variable [LimitFloat64 F] [RoundingFloat64 F]

/-- What a tick does with the reading of one mount. -/
def check (self : MountMonitor F) (redMinFreePct : F) (stats : FsStats) (now : Instant)
    : MountMonitor F × PidResponse F × GuardDiagnostics F :=
  let redThresholdBytes :=
    RoundingFloat64.toNat (Float64.ofNat stats.totalBytes * redMinFreePct / 100.0)
  let estimated := self.rateEstimator.update ⟨stats.availableBytes, now, redThresholdBytes⟩
  let observed := { self with rateEstimator := estimated.1 }.observeGuard now
    stats.availableBytes redThresholdBytes estimated.2
  let visit : MountVisit F := ⟨stats, estimated.2.secondsToThreshold⟩
  let updated := observed.1.pressureController.update (visit.input now)
  ({ observed.1 with pressureController := updated.1 }, updated.2, observed.2)

end tick

@[simp] theorem settings_check [ProjectingFloat64 F] [LimitFloat64 F] [RoundingFloat64 F]
    (self : MountMonitor F) (redMinFreePct : F) (stats : FsStats) (now : Instant)
    : (self.check redMinFreePct stats now).1.settings = self.settings := by
  have guarded (sample : RateSample) (threshold : Nat)
      : ({ self with rateEstimator := (self.rateEstimator.update sample).1 }.observeGuard now
          stats.availableBytes threshold (self.rateEstimator.update sample).2).1.guard.config
        = self.guard.config := by
    simp only [observeGuard]
    split
    · rfl
    · rename_i observed _
      exact (self.guard.observe_judged observed).frame.1
  unfold settings
  congr 1
  · exact self.rateEstimator.settings_update _
  · exact guarded _ _

end MountMonitor

end StorageBallast
