import StorageBallast.Ballast.PoolDiscovery
import StorageBallast.Foundations.TomlDocuments
import StorageBallast.Monitor.VoiScheduler
import StorageBallast.Scanner.Scoring

/-! The configuration file: its sections with their defaults, how they are read from a
document, and the checks that a loaded configuration passes.
-/

namespace StorageBallast.ConfigFile

open scoped Float64
open Checks (refuseWhen)
open PoolDiscovery (BallastVolumeOverride stripTrailingSeparator)
open TomlTable (field sectionTable)

variable {F : Type}

structure PredictionConfig (F : Type) where
  enabled : Bool
  actionHorizonMinutes : F
  warningHorizonMinutes : F
  minConfidence : F
  minSamples : Nat
  imminentDangerMinutes : F
  criticalDangerMinutes : F
  burstMinConfidence : F

structure PressureConfig (F : Type) where
  greenMinFreePct : F
  yellowMinFreePct : F
  orangeMinFreePct : F
  redMinFreePct : F
  pollIntervalMs : Nat
  prediction : PredictionConfig F

structure ScannerConfig where
  protectedPaths : List String
  minFileAgeMinutes : Nat
  maxDepth : Nat
  parallelism : Nat
  maxDeleteBatch : Nat
  repeatDeletionBaseCooldownSecs : Nat
  repeatDeletionMaxCooldownSecs : Nat

structure BallastConfig where
  fileCount : Nat
  fileSizeBytes : Nat
  /-- Per-volume overrides, by mount point. -/
  overrides : Entries BallastVolumeOverride

structure UpdateConfig where
  enabled : Bool
  metadataCacheTtlSeconds : Nat
  backgroundRefresh : Bool

structure TelemetryConfig (F : Type) where
  ewmaBaseAlpha : F
  ewmaMinAlpha : F
  ewmaMaxAlpha : F
  daemonRssWarningBytes : Nat
  daemonRssHardLimitBytes : Nat

structure SystemTuningConfig (F : Type) where
  writebackTargetDrainSecs : F
  writebackHardRatio : Nat
  writebackMinBackgroundBytes : Nat
  writebackMaxBackgroundBytes : Nat
  writebackBenchmarkBytes : Nat
  writebackPoolWarnBytes : Nat
  writebackSysctlPath : PathBuf

structure Config (F : Type) where
  pressure : PressureConfig F
  scanner : ScannerConfig
  scoring : ScoringConfig F
  ballast : BallastConfig
  scheduler : VoiConfig F
  update : UpdateConfig
  telemetry : TelemetryConfig F
  systemTuning : SystemTuningConfig F

/-- What a configuration is loaded beside: the protected paths of the supplemental file, the
processors of the host, the texts of the TOML library for fields that do not decode, and the
pattern compiler.
-/
structure LoadContext where
  sacred : Except SbhError (List String)
  availableParallelism : Option Nat
  tomlError : String → String
  validateGlobPattern : String → Except SbhError Unit

section reading

open TomlValue

variable [Float64 F]

def PredictionConfig.fromTable (table : TomlTable F) : Except String (PredictionConfig F) := do
  let name := "pressure.prediction"
  let enabled ← field name table "enabled" asBool true
  let actionHorizonMinutes ← field name table "action_horizon_minutes" asF64 30.0
  let warningHorizonMinutes ← field name table "warning_horizon_minutes" asF64 60.0
  let minConfidence ← field name table "min_confidence" asF64 0.7
  let minSamples ← field name table "min_samples" (asUnsigned 64) 5
  let imminentDangerMinutes ← field name table "imminent_danger_minutes" asF64 5.0
  let criticalDangerMinutes ← field name table "critical_danger_minutes" asF64 2.0
  let burstMinConfidence ← field name table "burst_min_confidence" asF64 0.85
  pure {
    enabled, actionHorizonMinutes, warningHorizonMinutes, minConfidence, minSamples,
    imminentDangerMinutes, criticalDangerMinutes, burstMinConfidence }

def PressureConfig.fromTable (table : TomlTable F) : Except String (PressureConfig F) := do
  let greenMinFreePct ← field "pressure" table "green_min_free_pct" asF64 20.0
  let yellowMinFreePct ← field "pressure" table "yellow_min_free_pct" asF64 14.0
  let orangeMinFreePct ← field "pressure" table "orange_min_free_pct" asF64 10.0
  let redMinFreePct ← field "pressure" table "red_min_free_pct" asF64 6.0
  let pollIntervalMs ← field "pressure" table "poll_interval_ms" (asUnsigned 64) 5000
  let prediction ← sectionTable table "prediction" >>= PredictionConfig.fromTable
  pure {
    greenMinFreePct, yellowMinFreePct, orangeMinFreePct, redMinFreePct, pollIntervalMs,
    prediction }

def defaultParallelism (availableParallelism : Option Nat) : Nat :=
  availableParallelism.elim 2 fun n => max (n / 2) 1

def ScannerConfig.fromTable (availableParallelism : Option Nat) (table : TomlTable F)
    : Except String ScannerConfig := do
  let name := "scanner"
  let protectedPaths ← field name table "protected_paths" asStrings []
  let minFileAgeMinutes ← field name table "min_file_age_minutes" (asUnsigned 64) 5
  let maxDepth ← field name table "max_depth" (asUnsigned 64) 10
  let parallelism ← field name table "parallelism" (asUnsigned 64)
    (defaultParallelism availableParallelism)
  let maxDeleteBatch ← field name table "max_delete_batch" (asUnsigned 64) 20
  let repeatDeletionBaseCooldownSecs ←
    field name table "repeat_deletion_base_cooldown_secs" (asUnsigned 64) 300
  let repeatDeletionMaxCooldownSecs ←
    field name table "repeat_deletion_max_cooldown_secs" (asUnsigned 64) 3600
  pure {
    protectedPaths, minFileAgeMinutes, maxDepth, parallelism, maxDeleteBatch,
    repeatDeletionBaseCooldownSecs, repeatDeletionMaxCooldownSecs }

def scoringFromTable (table : TomlTable F) : Except String (ScoringConfig F) := do
  let minScore ← field "scoring" table "min_score" asF64 0.35
  let locationWeight ← field "scoring" table "location_weight" asF64 0.25
  let nameWeight ← field "scoring" table "name_weight" asF64 0.25
  let ageWeight ← field "scoring" table "age_weight" asF64 0.20
  let sizeWeight ← field "scoring" table "size_weight" asF64 0.15
  let structureWeight ← field "scoring" table "structure_weight" asF64 0.15
  let falsePositiveLoss ← field "scoring" table "false_positive_loss" asF64 50.0
  let falseNegativeLoss ← field "scoring" table "false_negative_loss" asF64 30.0
  let calibrationFloor ← field "scoring" table "calibration_floor" asF64 0.40
  pure {
    minScore, locationWeight, nameWeight, ageWeight, sizeWeight, structureWeight,
    falsePositiveLoss, falseNegativeLoss, calibrationFloor }

/-- An override without a table, or with a field that does not decode, is refused. -/
def overrideFromValue : TomlValue F → Except String BallastVolumeOverride
  | .table entries => do
      let optional (value : TomlValue F) := (asUnsigned 64 value).map some
      let enabled ← field "ballast.overrides" entries "enabled" asBool true
      let fileCount ← field "ballast.overrides" entries "file_count" optional none
      let fileSizeBytes ← field "ballast.overrides" entries "file_size_bytes" optional none
      pure { enabled, fileCount, fileSizeBytes }
  | _ => .error "ballast.overrides"

def overridesFromTable (table : TomlTable F)
    : Except String (Entries BallastVolumeOverride) :=
  table.mapM fun (mount, value) => do pure (mount, ← overrideFromValue value)

def BallastConfig.fromTable (table : TomlTable F) : Except String BallastConfig := do
  let fileCount ← field "ballast" table "file_count" (asUnsigned 64) 10
  let fileSizeBytes ← field "ballast" table "file_size_bytes" (asUnsigned 64) 1073741824
  let overrides ← sectionTable table "overrides" >>= overridesFromTable
  pure { fileCount, fileSizeBytes, overrides }

def schedulerFromTable (table : TomlTable F) : Except String (VoiConfig F) := do
  let name := "scheduler"
  let enabled ← field name table "enabled" asBool true
  let scanBudgetPerInterval ← field name table "scan_budget_per_interval" (asUnsigned 64) 5
  let explorationQuotaFraction ← field name table "exploration_quota_fraction" asF64 0.20
  let ioCostWeight ← field name table "io_cost_weight" asF64 0.1
  let fpRiskWeight ← field name table "fp_risk_weight" asF64 0.15
  let explorationWeight ← field name table "exploration_weight" asF64 0.25
  let forecastErrorThreshold ← field name table "forecast_error_threshold" asF64 0.5
  let fallbackTriggerWindows ← field name table "fallback_trigger_windows" (asUnsigned 32) 3
  let recoveryTriggerWindows ← field name table "recovery_trigger_windows" (asUnsigned 32) 5
  let minObservationsForForecast ←
    field name table "min_observations_for_forecast" (asUnsigned 32) 3
  let ewmaAlpha ← field name table "ewma_alpha" asF64 0.3
  pure {
    enabled, scanBudgetPerInterval, explorationQuotaFraction, ioCostWeight, fpRiskWeight,
    explorationWeight, forecastErrorThreshold, fallbackTriggerWindows, recoveryTriggerWindows,
    minObservationsForForecast, ewmaAlpha }

def UpdateConfig.fromTable (table : TomlTable F) : Except String UpdateConfig := do
  let enabled ← field "update" table "enabled" asBool true
  let metadataCacheTtlSeconds ←
    field "update" table "metadata_cache_ttl_seconds" (asUnsigned 64) (30 * 60)
  let backgroundRefresh ← field "update" table "background_refresh" asBool true
  pure { enabled, metadataCacheTtlSeconds, backgroundRefresh }

def TelemetryConfig.fromTable (table : TomlTable F) : Except String (TelemetryConfig F) := do
  let name := "telemetry"
  let ewmaBaseAlpha ← field name table "ewma_base_alpha" asF64 0.30
  let ewmaMinAlpha ← field name table "ewma_min_alpha" asF64 0.10
  let ewmaMaxAlpha ← field name table "ewma_max_alpha" asF64 0.75
  let daemonRssWarningBytes ←
    field name table "daemon_rss_warning_bytes" (asUnsigned 64) (256 * 1024 * 1024)
  let daemonRssHardLimitBytes ←
    field name table "daemon_rss_hard_limit_bytes" (asUnsigned 64) (500 * 1024 * 1024)
  pure {
    ewmaBaseAlpha, ewmaMinAlpha, ewmaMaxAlpha, daemonRssWarningBytes, daemonRssHardLimitBytes }

def SystemTuningConfig.fromTable (table : TomlTable F)
    : Except String (SystemTuningConfig F) := do
  let name := "system_tuning"
  let writebackTargetDrainSecs ← field name table "writeback_target_drain_secs" asF64 1.0
  let writebackHardRatio ← field name table "writeback_hard_ratio" (asUnsigned 64) 4
  let writebackMinBackgroundBytes ←
    field name table "writeback_min_background_bytes" (asUnsigned 64) (256 * 1024 * 1024)
  let writebackMaxBackgroundBytes ←
    field name table "writeback_max_background_bytes" (asUnsigned 64) (2 * 1024 * 1024 * 1024)
  let writebackBenchmarkBytes ←
    field name table "writeback_benchmark_bytes" (asUnsigned 64) (96 * 1024 * 1024)
  let writebackPoolWarnBytes ←
    field name table "writeback_pool_warn_bytes" (asUnsigned 64) (4 * 1024 * 1024 * 1024)
  let writebackSysctlPath ← field name table "writeback_sysctl_path"
    (fun value => (asString value).map PathBuf.mk) ⟨"/etc/sysctl.d/99-sbh-writeback.conf"⟩
  pure {
    writebackTargetDrainSecs, writebackHardRatio, writebackMinBackgroundBytes,
    writebackMaxBackgroundBytes, writebackBenchmarkBytes, writebackPoolWarnBytes,
    writebackSysctlPath }

def Config.fromTable (context : LoadContext) (root : TomlTable F)
    : Except String (Config F) := do
  let pressure ← sectionTable root "pressure" >>= PressureConfig.fromTable
  let scanner ← sectionTable root "scanner"
    >>= ScannerConfig.fromTable context.availableParallelism
  let scoring ← sectionTable root "scoring" >>= scoringFromTable
  let ballast ← sectionTable root "ballast" >>= BallastConfig.fromTable
  let scheduler ← sectionTable root "scheduler" >>= schedulerFromTable
  let update ← sectionTable root "update" >>= UpdateConfig.fromTable
  let telemetry ← sectionTable root "telemetry" >>= TelemetryConfig.fromTable
  let systemTuning ← sectionTable root "system_tuning" >>= SystemTuningConfig.fromTable
  pure { pressure, scanner, scoring, ballast, scheduler, update, telemetry, systemTuning }

def Config.default (context : LoadContext) : Config F where
  pressure := ⟨20.0, 14.0, 10.0, 6.0, 5000, ⟨true, 30.0, 60.0, 0.7, 5, 5.0, 2.0, 0.85⟩⟩
  scanner := ⟨[], 5, 10, defaultParallelism context.availableParallelism, 20, 300, 3600⟩
  scoring := .default
  ballast := ⟨10, 1073741824, []⟩
  scheduler := ⟨true, 5, 0.20, 0.1, 0.15, 0.25, 0.5, 3, 5, 3, 0.3⟩
  update := ⟨true, 30 * 60, true⟩
  telemetry := ⟨0.30, 0.10, 0.75, 256 * 1024 * 1024, 500 * 1024 * 1024⟩
  systemTuning :=
    ⟨1.0, 4, 256 * 1024 * 1024, 2 * 1024 * 1024 * 1024, 96 * 1024 * 1024,
      4 * 1024 * 1024 * 1024, ⟨"/etc/sysctl.d/99-sbh-writeback.conf"⟩⟩

theorem Config.fromTable_nil (context : LoadContext)
    : Config.fromTable context ([] : TomlTable F) = .ok (Config.default context) := rfl

end reading

section checks

variable [Float64 F] [DecimalFloat64 F]

def refuse (condition : Bool) (details : String) : Except SbhError Unit :=
  refuseWhen condition (.invalidConfig details)

/-- `(low..=high).contains(&x)`, which the unordered value is not. -/
def withinRange (low high x : F) : Bool := Float64.le low x && Float64.le x high

def show64 (x : F) : String := DecimalFloat64.display x

def validateProb (name : String) (x : F) : Except SbhError Unit :=
  refuse (!withinRange 0.0 1.0 x) (name ++ " must be in [0,1], got " ++ show64 x)

def validateWeights (section_ : String) (fields : List (String × F)) : Except SbhError Unit :=
  fields.forM fun (name, x) =>
    refuse (!Float64.isFinite x || Float64.lt x 0.0)
      (section_ ++ "." ++ name ++ " must be a finite value >= 0.0, got " ++ show64 x)

namespace PressureConfig

def validateRanges (self : PressureConfig F) : Except SbhError Unit :=
  [("green_min_free_pct", self.greenMinFreePct), ("yellow_min_free_pct", self.yellowMinFreePct),
    ("orange_min_free_pct", self.orangeMinFreePct), ("red_min_free_pct", self.redMinFreePct)].forM
    fun (name, x) =>
      refuse (!withinRange 0.0 100.0 x)
        ("pressure." ++ name ++ " must be in [0, 100], got " ++ show64 x)

def descending (self : PressureConfig F) : Bool :=
  Float64.gt self.greenMinFreePct self.yellowMinFreePct
    && Float64.gt self.yellowMinFreePct self.orangeMinFreePct
    && Float64.gt self.orangeMinFreePct self.redMinFreePct

end PressureConfig

def PredictionConfig.validate (self : PredictionConfig F) : Except SbhError Unit := do
  if self.enabled then
    [("action_horizon_minutes", self.actionHorizonMinutes),
      ("warning_horizon_minutes", self.warningHorizonMinutes),
      ("imminent_danger_minutes", self.imminentDangerMinutes)].forM fun (name, x) =>
        refuse (Float64.le x 0.0) ("prediction." ++ name ++ " must be > 0, got " ++ show64 x)
    refuse (Float64.le self.warningHorizonMinutes self.actionHorizonMinutes)
      "prediction.warning_horizon_minutes must be > action_horizon_minutes"
    refuse (Float64.le self.actionHorizonMinutes self.imminentDangerMinutes)
      "prediction.action_horizon_minutes must be > imminent_danger_minutes"
    refuse (Float64.le self.imminentDangerMinutes self.criticalDangerMinutes)
      "prediction.imminent_danger_minutes must be > critical_danger_minutes"
    refuse (Float64.lt self.criticalDangerMinutes 0.0)
      "prediction.critical_danger_minutes must be >= 0"
    validateProb "prediction.min_confidence" self.minConfidence

def PressureConfig.validate (self : PressureConfig F) : Except SbhError Unit := do
  self.validateRanges
  refuse (!self.descending)
    "pressure thresholds must strictly descend: green > yellow > orange > red"
  refuse (self.pollIntervalMs < 100)
    ("pressure.poll_interval_ms must be >= 100, got " ++ toString self.pollIntervalMs)
  self.prediction.validate

def ScannerConfig.validate (self : ScannerConfig) : Except SbhError Unit := do
  refuse (self.parallelism == 0) "scanner.parallelism must be >= 1"
  refuse (self.maxDepth == 0) "scanner.max_depth must be >= 1"
  refuse (self.maxDeleteBatch == 0) "scanner.max_delete_batch must be >= 1"
  refuse (self.repeatDeletionBaseCooldownSecs == 0)
    "scanner.repeat_deletion_base_cooldown_secs must be >= 1"
  refuse (self.repeatDeletionMaxCooldownSecs == 0)
    "scanner.repeat_deletion_max_cooldown_secs must be >= 1"
  refuse (self.repeatDeletionMaxCooldownSecs < self.repeatDeletionBaseCooldownSecs)
    ("scanner.repeat_deletion_max_cooldown_secs must be >= "
      ++ "scanner.repeat_deletion_base_cooldown_secs")

def validateScores (self : ScoringConfig F) : Except SbhError Unit := do
  validateProb "scoring.min_score" self.minScore
  validateProb "scoring.calibration_floor" self.calibrationFloor
  refuse (Float64.gt self.minScore self.calibrationFloor)
    ("scoring.min_score (" ++ show64 self.minScore
      ++ ") must be <= scoring.calibration_floor (" ++ show64 self.calibrationFloor ++ ")")

def validateScoringWeights (self : ScoringConfig F) : Except SbhError Unit := do
  validateWeights "scoring"
    [("location_weight", self.locationWeight), ("name_weight", self.nameWeight),
      ("age_weight", self.ageWeight), ("size_weight", self.sizeWeight),
      ("structure_weight", self.structureWeight)]
  refuse
    (!Float64.isFinite self.falsePositiveLoss || !Float64.isFinite self.falseNegativeLoss
      || Float64.lt self.falsePositiveLoss 0.0 || Float64.lt self.falseNegativeLoss 0.0)
    "scoring.false_positive_loss and false_negative_loss must be finite values >= 0.0"

def validateScheduler (self : VoiConfig F) : Except SbhError Unit := do
  validateProb "scheduler.exploration_quota_fraction" self.explorationQuotaFraction
  validateProb "scheduler.ewma_alpha" self.ewmaAlpha
  refuse (self.scanBudgetPerInterval == 0) "scheduler.scan_budget_per_interval must be >= 1"
  refuse (self.minObservationsForForecast == 0)
    "scheduler.min_observations_for_forecast must be >= 1"
  validateWeights "scheduler"
    [("io_cost_weight", self.ioCostWeight), ("fp_risk_weight", self.fpRiskWeight),
      ("exploration_weight", self.explorationWeight),
      ("forecast_error_threshold", self.forecastErrorThreshold)]

def weightSum (self : ScoringConfig F) : F :=
  self.locationWeight + self.nameWeight + self.ageWeight + self.sizeWeight
    + self.structureWeight

def validateWeightSum (self : ScoringConfig F) : Except SbhError Unit :=
  refuse (Float64.gt (Float64.abs (weightSum self - 1.0)) 1e-9)
    ("scoring weights must sum to 1.0; got " ++ Float64.toFixed 6 (weightSum self))

def TelemetryConfig.validate (self : TelemetryConfig F) : Except SbhError Unit := do
  refuse
    (!(Float64.gt self.ewmaMinAlpha 0.0 && Float64.le self.ewmaMinAlpha self.ewmaBaseAlpha
      && Float64.le self.ewmaBaseAlpha self.ewmaMaxAlpha && Float64.lt self.ewmaMaxAlpha 1.0))
    "EWMA alpha values must satisfy 0 < min <= base <= max < 1"
  refuse (self.daemonRssWarningBytes == 0) "telemetry.daemon_rss_warning_bytes must be > 0"
  refuse (self.daemonRssHardLimitBytes == 0)
    "telemetry.daemon_rss_hard_limit_bytes must be > 0"
  refuse (self.daemonRssHardLimitBytes < self.daemonRssWarningBytes)
    "telemetry.daemon_rss_warning_bytes must be <= telemetry.daemon_rss_hard_limit_bytes"

def minBallastFileSize : Nat := 4096

def maxBallastFileCount : Nat := 100000

def validateOverride (mount : String) (ovr : BallastVolumeOverride) : Except SbhError Unit := do
  let name := "ballast.overrides[\"" ++ mount ++ "\"]."
  if let some count := ovr.fileCount then
    refuse (count == 0) (name ++ "file_count must be > 0")
    refuse (2 ^ 32 - 1 < count)
      (name ++ "file_count (" ++ toString count ++ ") exceeds maximum ("
        ++ toString (2 ^ 32 - 1) ++ ")")
  if let some size := ovr.fileSizeBytes then
    refuse (size < minBallastFileSize)
      (name ++ "file_size_bytes (" ++ toString size ++ ") must be >= 4096 (header size)")

def BallastConfig.validate (self : BallastConfig) : Except SbhError Unit := do
  refuse (self.fileCount == 0 || self.fileSizeBytes == 0)
    "ballast.file_count and ballast.file_size_bytes must be > 0"
  refuse (maxBallastFileCount < self.fileCount)
    ("ballast.file_count (" ++ toString self.fileCount ++ ") exceeds maximum (100000)")
  refuse (self.fileSizeBytes < minBallastFileSize)
    ("ballast.file_size_bytes (" ++ toString self.fileSizeBytes
      ++ ") must be >= 4096 (header size)")
  self.overrides.forM fun (mount, ovr) => validateOverride mount ovr

def UpdateConfig.validate (self : UpdateConfig) : Except SbhError Unit := do
  refuse (self.metadataCacheTtlSeconds == 0) "update.metadata_cache_ttl_seconds must be > 0"
  refuse (!self.enabled && self.backgroundRefresh)
    "update.background_refresh cannot be true when update.enabled=false"

def SystemTuningConfig.validate (self : SystemTuningConfig F) : Except SbhError Unit := do
  refuse
    (!Float64.isFinite self.writebackTargetDrainSecs
      || Float64.le self.writebackTargetDrainSecs 0.0
      || Float64.gt self.writebackTargetDrainSecs 30.0)
    ("system_tuning.writeback_target_drain_secs must be in (0, 30], got "
      ++ show64 self.writebackTargetDrainSecs)
  refuse (self.writebackHardRatio < 2 || 64 < self.writebackHardRatio)
    ("system_tuning.writeback_hard_ratio must be in [2, 64], got "
      ++ toString self.writebackHardRatio)
  refuse (self.writebackMinBackgroundBytes < 4096)
    ("system_tuning.writeback_min_background_bytes ("
      ++ toString self.writebackMinBackgroundBytes ++ ") must be >= 4096")
  refuse (self.writebackMaxBackgroundBytes < self.writebackMinBackgroundBytes)
    ("system_tuning.writeback_max_background_bytes ("
      ++ toString self.writebackMaxBackgroundBytes
      ++ ") must be >= writeback_min_background_bytes ("
      ++ toString self.writebackMinBackgroundBytes ++ ")")
  refuse (self.writebackBenchmarkBytes < 1024 * 1024)
    ("system_tuning.writeback_benchmark_bytes (" ++ toString self.writebackBenchmarkBytes
      ++ ") must be >= 1 MiB")
  refuse (self.writebackPoolWarnBytes == 0)
    "system_tuning.writeback_pool_warn_bytes must be > 0"
  refuse ((self.writebackSysctlPath.fileName.bind extension) != some "conf")
    ("system_tuning.writeback_sysctl_path must end in .conf (sysctl loads only *.conf files), got "
      ++ self.writebackSysctlPath.text)

namespace Config

/-- All checks, in the order in which the program makes them. -/
def validate (validateGlobPattern : String → Except SbhError Unit) (self : Config F)
    : Except SbhError Unit := do
  self.pressure.validate
  self.scanner.validate
  validateScores self.scoring
  validateScoringWeights self.scoring
  validateScheduler self.scheduler
  validateWeightSum self.scoring
  self.telemetry.validate
  self.ballast.validate
  self.update.validate
  self.scanner.protectedPaths.forM validateGlobPattern
  self.systemTuning.validate

/-- Protected paths of the supplemental file are added where they are not known yet. -/
def mergeSacredConfig (self : Config F) (sacred : List String) : Config F :=
  { self with
    scanner :=
      { self.scanner with
        protectedPaths := sacred.foldl
          (fun known path => if path ∈ known then known else known ++ [path])
          self.scanner.protectedPaths } }

/-- Mount points of overrides lose their trailing separator. -/
def normalizePaths (self : Config F) : Config F :=
  { self with
    ballast :=
      { self.ballast with
        overrides := self.ballast.overrides.foldl
          (fun table (mount, ovr) => table.insert (stripTrailingSeparator mount) ovr) [] } }

/-- Load the configuration that a document holds, without overrides of the environment. -/
def load (context : LoadContext) : TomlValue F → Except SbhError (Config F)
  | .table root => do
      let parsed ← (Config.fromTable context root).mapError fun name =>
        .configParse "toml" (context.tomlError name)
      let sacred ← context.sacred
      let config := (parsed.mergeSacredConfig sacred).normalizePaths
      config.validate context.validateGlobPattern
      pure config
  | _ => .error (.configParse "toml" (context.tomlError ""))

end Config

end checks

end StorageBallast.ConfigFile
