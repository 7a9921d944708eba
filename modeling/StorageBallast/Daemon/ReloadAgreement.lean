import StorageBallast.Daemon.ConfigReload
import StorageBallast.Daemon.PolicyTransitions

/-! What a reload leaves the components with, against what a start from the same configuration
gives them. Three things outlive a reload: the roots that were once registered, the size of a
monitor's history and window, and the thresholds of a prediction that is disabled.
-/

namespace StorageBallast

open scoped Float64
open PoolDiscovery (BallastPoolCoordinator)

variable {F : Type}

structure DaemonSettings (F : Type) where
  primaryPath : Location
  cacheTtl : Duration
  pools : BallastPoolCoordinator
  replenishCooldown : Duration
  replenishInterval : Duration
  notificationsEnabled : Bool
  channels : List NotificationChannel
  minInterval : Duration
  urgentMinInterval : Duration
  policy : PolicyConfig F
  scoringEngine : ScoringEngine F
  scheduler : VoiConfig F
  registered : Set Location
  executor : SharedExecutorConfig F
  scoring : ScoringConfig F
  scanner : DaemonConfig.ScannerConfig
  predictive : PredictiveActionPolicy F

def MonitoringDaemon.settings (self : MonitoringDaemon F) : DaemonSettings F where
  primaryPath := self.cachedPrimaryPath
  cacheTtl := self.fsCollector.cacheTtl
  pools := self.ballastCoordinator
  replenishCooldown := self.releaseController.replenishCooldown
  replenishInterval := self.releaseController.replenishInterval
  notificationsEnabled := self.notificationManager.enabled
  channels := self.notificationManager.channels
  minInterval := self.notificationManager.minInterval
  urgentMinInterval := self.notificationManager.urgentMinInterval
  policy := self.policyEngine.config
  scoringEngine := self.scoringEngine
  scheduler := self.voiScheduler.config
  registered := {path | path ∈ self.voiScheduler.paths}
  executor := self.sharedExecutorConfig
  scoring := self.sharedScoringConfig
  scanner := self.sharedScannerConfig
  predictive := self.predictivePolicy

/-- The daemon is set up as a start from the configuration sets it up, and each monitor it has
as a new one is.
-/
structure SetUpFrom [Float64 F] (platform : DaemonPlatform) (config : DaemonConfig F)
    (now : Instant) (daemon : MonitoringDaemon F)
    : Prop where
  components
    : ∃ fresh, MonitoringDaemon.init platform config now = .ok fresh
      ∧ daemon.settings = fresh.settings
  monitors
    : ∀ mount monitor, daemon.mountMonitors mount = some monitor →
      monitor.settings = (MountMonitor.new config).settings

def SameWindows (config other : DaemonConfig F) : Prop :=
  max config.telemetry.ewmaRateHistorySize 1 = max other.telemetry.ewmaRateHistorySize 1
  ∧ config.telemetry.guardrailMinObservations = other.telemetry.guardrailMinObservations
  ∧ config.telemetry.guardrailWindowSize = other.telemetry.guardrailWindowSize

section monitors

variable [Float64 F]

structure MountMonitor.BuiltFrom (config : DaemonConfig F) (monitor : MountMonitor F)
    : Prop where
  history
    : monitor.settings.estimator.rateHistoryCap
      = max config.telemetry.ewmaRateHistorySize 1
  guard : monitor.settings.guard = config.guardrailConfig
  kp : monitor.settings.controller.kp = 0.25
  ki : monitor.settings.controller.ki = 0.08
  kd : monitor.settings.controller.kd = 0.02
  integralCap : monitor.settings.controller.integralCap = 100.0
  hysteresisPct : monitor.settings.controller.hysteresisPct = 1.0

namespace MountMonitor

/-- The controller of a new monitor, with or without a prediction. -/
theorem controller_new (config : DaemonConfig F)
    : (new config).settings.controller = {
        kp := 0.25, ki := 0.08, kd := 0.02, integralCap := 100.0, hysteresisPct := 1.0
        targetFreePct := config.pressure.greenMinFreePct
        thresholds := config.pressureThresholds
        basePollInterval := .fromMillis config.pressure.pollIntervalMs
        urgencyThresholds := (new config).pressureController.urgencyThresholds } := by
  unfold new settings
  dsimp only
  split <;> rfl

theorem builtFrom_new (config : DaemonConfig F) : (new config).BuiltFrom config := by
  constructor <;> first | rfl | rw [controller_new]

/-- Windows are the same exactly if the guards are set up alike and the histories are. -/
theorem sameWindows_iff {config other : DaemonConfig F}
    : SameWindows config other
      ↔ max config.telemetry.ewmaRateHistorySize 1 = max other.telemetry.ewmaRateHistorySize 1
        ∧ config.guardrailConfig = other.guardrailConfig := by
  simp [SameWindows, DaemonConfig.guardrailConfig]

variable [LimitFloat64 F]

omit [LimitFloat64 F] in
theorem builtFrom_check [ProjectingFloat64 F] [LimitFloat64 F] [RoundingFloat64 F]
    {config : DaemonConfig F} {self : MountMonitor F} (built : self.BuiltFrom config)
    (redMinFreePct : F) (stats : FsStats) (now : Instant)
    : (self.check redMinFreePct stats now).1.BuiltFrom config := by
  have same := self.settings_check redMinFreePct stats now
  constructor <;> rw [same]
  · exact built.history
  · exact built.guard
  · exact built.kp
  · exact built.ki
  · exact built.kd
  · exact built.integralCap
  · exact built.hysteresisPct

/-- A reload sets what it hands over of the controller, and keeps the rest. -/
theorem controller_updateConfig (self : MountMonitor F) (config : DaemonConfig F)
    : (self.updateConfig config).settings.controller = { self.settings.controller with
        targetFreePct := config.pressure.greenMinFreePct
        thresholds := config.pressureThresholds
        basePollInterval := .fromMillis config.pressure.pollIntervalMs
        urgencyThresholds := (self.updateConfig config).pressureController.urgencyThresholds } := by
  have targeted (target : F)
      : (self.pressureController.setTargetFreePct target).settings
        = { self.pressureController.settings with targetFreePct := target } := by
    unfold PidPressureController.setTargetFreePct
    split <;> rfl
  have gains := targeted config.pressure.greenMinFreePct
  unfold PidPressureController.settings at gains
  injection gains with kp ki kd integralCap hysteresisPct
  unfold updateConfig settings PidPressureController.settings
  split
  · simp only [PidPressureController.setActionHorizonMinutes,
      PidPressureController.setBasePollInterval, PidPressureController.setPressureThresholds,
      kp, ki, kd, integralCap, hysteresisPct]
    simp [PidPressureController.setTargetFreePct]
  · simp only [PidPressureController.disableUrgencyBoost,
      PidPressureController.setBasePollInterval, PidPressureController.setPressureThresholds,
      kp, ki, kd, integralCap, hysteresisPct]
    simp [PidPressureController.setTargetFreePct]

theorem builtFrom_updateConfig {born : DaemonConfig F} {self : MountMonitor F}
    (built : self.BuiltFrom born) (config : DaemonConfig F)
    : (self.updateConfig config).BuiltFrom born := by
  have controller := self.controller_updateConfig config
  constructor
  · exact built.history
  · exact built.guard
  all_goals rw [controller]
  · exact built.kp
  · exact built.ki
  · exact built.kd
  · exact built.integralCap
  · exact built.hysteresisPct

/-- A reload sets the thresholds of the prediction as the start does, if there is one. Without
one the start leaves them at their defaults, and the reload puts them to the greatest number.
-/
theorem urgencyThresholds_updateConfig_iff [LargeLimitFloat64 F] (self : MountMonitor F)
    (config : DaemonConfig F)
    : (self.updateConfig config).pressureController.urgencyThresholds
        = (new config).pressureController.urgencyThresholds
      ↔ config.pressure.prediction.enabled = true := by
  unfold updateConfig new
  cases enabled : config.pressure.prediction.enabled with
  | true => simp [PidPressureController.setActionHorizonMinutes]
  | false =>
      simp only [Bool.false_eq_true, if_false, iff_false]
      intro same
      exact LargeLimitFloat64.maxFinite_ne (congrArg UrgencyThresholds.critical same)

/-- A reload leaves a monitor as a new one is exactly if there is a prediction, and the windows
are those that the monitor was built with.
-/
theorem settings_updateConfig_iff [LargeLimitFloat64 F] {born : DaemonConfig F}
    {self : MountMonitor F} (built : self.BuiltFrom born) (config : DaemonConfig F)
    : (self.updateConfig config).settings = (new config).settings
      ↔ config.pressure.prediction.enabled = true ∧ SameWindows born config := by
  have kept := builtFrom_updateConfig built config
  have fresh := builtFrom_new config
  rw [sameWindows_iff]
  constructor
  · intro same
    refine ⟨(self.urgencyThresholds_updateConfig_iff config).mp ?_, ?_, ?_⟩
    · exact congrArg (fun settings => settings.controller.urgencyThresholds) same
    · rw [← kept.history, same, fresh.history]
    · rw [← kept.guard, same, fresh.guard]
  · rintro ⟨enabled, history, guard⟩
    have urgency := (self.urgencyThresholds_updateConfig_iff config).mpr enabled
    have estimator : (self.updateConfig config).settings.estimator
        = (new config).settings.estimator := by
      have cap := kept.history.trans (history.trans fresh.history.symm)
      exact congrArg (fun cap : Nat =>
        ({ (new config).settings.estimator with rateHistoryCap := cap } : EstimatorSettings F))
        cap
    have controller : (self.updateConfig config).settings.controller
        = (new config).settings.controller := by
      rw [controller_updateConfig, controller_new, urgency]
      dsimp only
      rw [built.kp, built.ki, built.kd,
        built.integralCap, built.hysteresisPct]
    have guards := kept.guard.trans (guard.trans fresh.guard.symm)
    cases left : (self.updateConfig config).settings
    cases right : (new config).settings
    rw [left, right] at estimator controller guards
    cases estimator
    cases controller
    cases guards
    rfl

end MountMonitor

end monitors

namespace VoiScheduler

variable [Float64 F]

theorem mem_registerPath (self : VoiScheduler F) (path known : Location)
    : known ∈ (self.registerPath path).paths ↔ known ∈ self.paths ∨ known = path := by
  unfold registerPath
  split
  · rename_i listed
    exact ⟨Or.inl, fun either => either.elim id fun same => same ▸ listed⟩
  · simp

/-- Registering paths adds them, by induction on their list. -/
theorem mem_registerPaths (self : VoiScheduler F) (paths : List Location) (known : Location)
    : known ∈ (paths.foldl registerPath self).paths ↔ known ∈ self.paths ∨ known ∈ paths := by
  induction paths generalizing self with
  | nil => simp
  | cons path rest ih => rw [List.foldl_cons, ih, mem_registerPath, List.mem_cons, or_assoc]

theorem config_registerPaths (self : VoiScheduler F) (paths : List Location)
    : (paths.foldl registerPath self).config = self.config := by
  induction paths generalizing self with
  | nil => rfl
  | cons path rest ih =>
      rw [List.foldl_cons, ih]
      unfold registerPath
      split <;> rfl

theorem paths_recordScanResults (self : VoiScheduler F) (results : List (ScanResult F))
    : (results.foldl recordScanResult self).paths = self.paths := by
  induction results generalizing self with
  | nil => rfl
  | cons result rest ih =>
      rw [List.foldl_cons, ih]
      unfold recordScanResult
      split <;> rfl

theorem paths_endWindow (self : VoiScheduler F) : self.endWindow.paths = self.paths := by
  unfold endWindow
  split <;> rfl

end VoiScheduler

section runs

variable [Float64 F] [LimitFloat64 F]

/-- Between two states the monitors that are there stay what they were built from, and those
that come up are built from the configuration.
-/
structure MonitorsFrom (config : DaemonConfig F) (before after : Location → Option (MountMonitor F))
    : Prop where
  kept
    : ∀ mount monitor, before mount = some monitor →
      ∃ later, after mount = some later
        ∧ ∀ born, monitor.BuiltFrom born → later.BuiltFrom born
  built
    : ∀ mount later, before mount = none → after mount = some later → later.BuiltFrom config

omit [LimitFloat64 F] in
theorem MonitorsFrom.refl (config : DaemonConfig F)
    (monitors : Location → Option (MountMonitor F))
    : MonitorsFrom config monitors monitors where
  kept _ monitor there := ⟨monitor, there, fun _ => id⟩
  built _ _ absent there := absurd there (by rw [absent]; nofun)

variable {config : DaemonConfig F}

omit [LimitFloat64 F] in
theorem MonitorsFrom.trans {first second third : Location → Option (MountMonitor F)}
    (front : MonitorsFrom config first second) (back : MonitorsFrom config second third)
    : MonitorsFrom config first third where
  kept mount monitor there := by
    obtain ⟨middle, between, keeps⟩ := front.kept mount monitor there
    obtain ⟨later, after, keepsToo⟩ := back.kept mount middle between
    exact ⟨later, after, fun born built => keepsToo born (keeps born built)⟩
  built mount later absent there := by
    cases between : second mount with
    | none => exact back.built mount later between there
    | some middle =>
        obtain ⟨found, after, keeps⟩ := back.kept mount middle between
        rw [there] at after
        cases after
        exact keeps config (front.built mount middle absent between)

namespace MonitoringDaemon

section steps

variable [ProjectingFloat64 F] [RoundingFloat64 F]

theorem checkMount_monitors (self : MonitoringDaemon F) (now : Instant) (stats : FsStats)
    : MonitorsFrom self.config self.mountMonitors (self.checkMount now stats).mountMonitors := by
  constructor
  · intro mount monitor there
    by_cases here : mount = stats.mountPoint
    · subst here
      refine ⟨(monitor.check self.config.pressure.redMinFreePct stats now).1, ?_,
        fun born built => MountMonitor.builtFrom_check built _ stats now⟩
      simp [checkMount, there]
    · exact ⟨monitor, by simp [checkMount, here, there], fun _ => id⟩
  · intro mount later absent there
    by_cases here : mount = stats.mountPoint
    · subst here
      simp only [checkMount, absent, Option.getD_none, Function.update_self,
        Option.some.injEq] at there
      subst there
      exact MountMonitor.builtFrom_check (MountMonitor.builtFrom_new _) _ stats now
    · simp only [checkMount, ne_eq, here, not_false_eq_true, Function.update_of_ne] at there
      rw [absent] at there
      cases there

/-- A tick changes monitors only, by induction on the readings. -/
theorem checkPressure_frame (self : MonitoringDaemon F) (stats : List FsStats) (now : Instant)
    : (self.checkPressure stats now).config = self.config
      ∧ (self.checkPressure stats now).voiScheduler = self.voiScheduler
      ∧ (self.checkPressure stats now).specialLocations = self.specialLocations
      ∧ MonitorsFrom self.config self.mountMonitors
        (self.checkPressure stats now).mountMonitors := by
  induction stats generalizing self with
  | nil => exact ⟨rfl, rfl, rfl, .refl ..⟩
  | cons reading rest ih =>
      obtain ⟨config, scheduler, special, monitors⟩ := ih (self.checkMount now reading)
      exact ⟨config, scheduler, special, (self.checkMount_monitors now reading).trans monitors⟩

end steps

variable (platform : DaemonPlatform)
  (serialize : DaemonConfig F → Except SbhError (List UInt8))

theorem applyConfig_monitors (self : MonitoringDaemon F) (newConfig : DaemonConfig F)
    (now : Instant)
    : MonitorsFrom self.config self.mountMonitors
        (self.applyConfig platform newConfig now).mountMonitors where
  kept mount monitor there :=
    ⟨monitor.updateConfig newConfig, by simp [applyConfig, there],
      fun _ built => MountMonitor.builtFrom_updateConfig built newConfig⟩
  built mount later absent there := by simp [applyConfig, absent] at there

theorem applyConfig_registered (self : MonitoringDaemon F) (newConfig : DaemonConfig F)
    (now : Instant) (path : Location)
    : path ∈ (self.applyConfig platform newConfig now).voiScheduler.paths
      ↔ path ∈ self.voiScheduler.paths ∨ path ∈ newConfig.scanner.rootPaths :=
  VoiScheduler.mem_registerPaths ..

variable [ProjectingFloat64 F] [RoundingFloat64 F]

/-- What a step does to the monitors, the registered roots and the special locations. -/
structure StepFrame (before after : MonitoringDaemon F) : Prop where
  monitors : MonitorsFrom before.config before.mountMonitors after.mountMonitors
  registered
    : (∀ root ∈ before.config.scanner.rootPaths, root ∈ before.voiScheduler.paths) →
      ∀ path, path ∈ after.voiScheduler.paths
        ↔ path ∈ before.voiScheduler.paths ∨ path ∈ after.config.scanner.rootPaths
  special : after.specialLocations = before.specialLocations

omit [LimitFloat64 F] [ProjectingFloat64 F] [RoundingFloat64 F] in
theorem StepFrame.of_same {before after : MonitoringDaemon F}
    (monitors : after.mountMonitors = before.mountMonitors)
    (config : after.config = before.config)
    (paths : after.voiScheduler.paths = before.voiScheduler.paths)
    (special : after.specialLocations = before.specialLocations)
    : StepFrame before after where
  monitors := monitors ▸ .refl ..
  registered listed path := by
    rw [paths, config]
    exact ⟨Or.inl, fun either => either.elim id (listed path)⟩
  special := special

theorem step_frame (self : MonitoringDaemon F) (input : DaemonInput F)
    : StepFrame self (self.step platform serialize input) := by
  cases input with
  | checkPressure stats now =>
      obtain ⟨config, scheduler, special, monitors⟩ := self.checkPressure_frame stats now
      refine ⟨monitors, fun listed path => ?_, special⟩
      change path ∈ (self.checkPressure stats now).voiScheduler.paths
        ↔ _ ∨ path ∈ (self.checkPressure stats now).config.scanner.rootPaths
      rw [scheduler, config]
      exact ⟨Or.inl, fun either => either.elim id (listed path)⟩
  | setMinScore minScore => exact .of_same rfl rfl rfl rfl
  | scanCompleted results =>
      refine .of_same rfl rfl ?_ rfl
      exact (VoiScheduler.paths_endWindow _).trans (VoiScheduler.paths_recordScanResults ..)
  | policy timed => exact .of_same rfl rfl rfl rfl
  | ballast call => exact .of_same rfl rfl rfl rfl
  | notify event now => exact .of_same rfl rfl rfl rfl
  | reload loaded now =>
      cases loaded with
      | error err => exact .of_same rfl rfl rfl rfl
      | ok newConfig =>
          simp only [step, handleConfigReload]
          split
          · exact .of_same rfl rfl rfl rfl
          · exact ⟨self.applyConfig_monitors platform newConfig now,
              fun _ => self.applyConfig_registered platform newConfig now, rfl⟩

end MonitoringDaemon

variable (platform : DaemonPlatform)
  (serialize : DaemonConfig F → Except SbhError (List UInt8))
  [ProjectingFloat64 F] [RoundingFloat64 F]

/-- A step of the run brings up a monitor for the mount, while the configuration is in force. -/
def MonitorBuiltIn (start : MonitoringDaemon F) (inputs : List (DaemonInput F))
    (mount : Location) (config : DaemonConfig F)
    : Prop :=
  ∃ taken ∈ Runs.steps (MonitoringDaemon.step platform serialize) start inputs,
    taken.1.mountMonitors mount = none
    ∧ ((taken.1.step platform serialize taken.2).mountMonitors mount).isSome = true
    ∧ taken.1.config = config

/-- A configuration takes up what the run leaves behind: the roots of every configuration that
was in force are among its own, and if there are monitors, it has a prediction and the windows
that they were built with.
-/
structure Covers (start : MonitoringDaemon F) (inputs : List (DaemonInput F))
    (config : DaemonConfig F)
    : Prop where
  roots
    : ∀ daemon ∈ Runs.states (MonitoringDaemon.step platform serialize) start inputs,
      ∀ root ∈ daemon.config.scanner.rootPaths, root ∈ config.scanner.rootPaths
  monitors
    : ∀ mount born, MonitorBuiltIn platform serialize start inputs mount born →
      config.pressure.prediction.enabled = true ∧ SameWindows born config

/-- What the state of a daemon says of the run that led to it. -/
structure Traced (start : MonitoringDaemon F) (past : List (DaemonInput F))
    (daemon : MonitoringDaemon F)
    : Prop where
  registered
    : ∀ path, path ∈ daemon.voiScheduler.paths
      ↔ ∃ earlier ∈ Runs.states (MonitoringDaemon.step platform serialize) start past,
        path ∈ earlier.config.scanner.rootPaths
  monitorBuilt
    : ∀ mount monitor, daemon.mountMonitors mount = some monitor →
      ∃ born, MonitorBuiltIn platform serialize start past mount born
  builtMonitor
    : ∀ mount born, MonitorBuiltIn platform serialize start past mount born →
      ∃ monitor, daemon.mountMonitors mount = some monitor ∧ monitor.BuiltFrom born
  special : daemon.specialLocations = start.specialLocations

variable {start : MonitoringDaemon F}

theorem monitorBuiltIn_concat_iff {past : List (DaemonInput F)}
    {input : DaemonInput F} {mount : Location}
    : MonitorBuiltIn platform serialize start (past ++ [input]) mount config
      ↔ MonitorBuiltIn platform serialize start past mount config
        ∨ (Runs.final (MonitoringDaemon.step platform serialize) start past).mountMonitors mount
            = none
          ∧ (((Runs.final (MonitoringDaemon.step platform serialize) start past).step platform
              serialize input).mountMonitors mount).isSome = true
          ∧ (Runs.final (MonitoringDaemon.step platform serialize) start past).config
            = config := by
  unfold MonitorBuiltIn
  rw [Runs.steps_concat]
  simp only [List.mem_append, List.mem_singleton, or_and_right, exists_or, exists_eq_left]

theorem traced_step {past : List (DaemonInput F)} {input : DaemonInput F}
    (traced : Traced platform serialize start past
      (Runs.final (MonitoringDaemon.step platform serialize) start past))
    : Traced platform serialize start (past ++ [input])
        ((Runs.final (MonitoringDaemon.step platform serialize) start past).step platform
          serialize input) := by
  have last : Runs.final (MonitoringDaemon.step platform serialize) start past
      ∈ Runs.states (MonitoringDaemon.step platform serialize) start past :=
    Runs.final_mem_states start past
  generalize reached : Runs.final (MonitoringDaemon.step platform serialize) start past
    = daemon at traced last ⊢
  have frame := daemon.step_frame platform serialize input
  refine ⟨fun path => ?_, fun mount monitor there => ?_, fun mount born built => ?_,
    frame.special.trans traced.special⟩
  · have listed (root : Location) (among : root ∈ daemon.config.scanner.rootPaths)
        : root ∈ daemon.voiScheduler.paths :=
      (traced.registered root).mpr ⟨daemon, last, among⟩
    rw [frame.registered listed path, traced.registered path]
    simp only [Runs.mem_states_concat_iff, reached, or_and_right, exists_or, exists_eq_left]
  · cases before : daemon.mountMonitors mount with
    | none =>
        exact ⟨daemon.config, (monitorBuiltIn_concat_iff platform serialize).mpr
          (.inr (by rw [reached]; exact ⟨before, by simp [there], rfl⟩))⟩
    | some earlier =>
        obtain ⟨born, built⟩ := traced.monitorBuilt mount earlier before
        exact ⟨born, (monitorBuiltIn_concat_iff platform serialize).mpr (.inl built)⟩
  · rcases (monitorBuiltIn_concat_iff platform serialize).mp built with earlier | here
    · obtain ⟨monitor, there, from_⟩ := traced.builtMonitor mount born earlier
      obtain ⟨later, after, keeps⟩ := frame.monitors.kept mount monitor there
      exact ⟨later, after, keeps born from_⟩
    · rw [reached] at here
      obtain ⟨absent, present, rfl⟩ := here
      obtain ⟨later, after⟩ := Option.isSome_iff_exists.mp present
      exact ⟨later, after, frame.monitors.built mount later absent after⟩

omit [LimitFloat64 F] [ProjectingFloat64 F] [RoundingFloat64 F] in
/-- A start succeeds exactly if the mounts can be listed; the pools come out of that list. -/
theorem init_ok_iff {now : Instant} {daemon : MonitoringDaemon F}
    : MonitoringDaemon.init platform config now = .ok daemon
      ↔ ∃ mounts pools, platform.mountPoints = .ok mounts
        ∧ MonitoringDaemon.discoverPools platform
            (SpecialLocationRegistry.discover mounts []) config = .ok pools
        ∧ daemon = {
          config
          cachedPrimaryPath := config.computePrimaryPath
          fsCollector := ⟨.fromMillis config.telemetry.fsCacheTtlMs⟩
          mountMonitors := fun _ => none
          specialLocations := SpecialLocationRegistry.discover mounts []
          ballastCoordinator := pools
          releaseController := .new config.ballast.replenishCooldownMinutes
          notificationManager := .fromConfig config.notifications
          policyEngine := .new config.policy now
          scoringEngine := .fromConfig config.scoring config.scanner.minFileAgeMinutes
          voiScheduler :=
            config.scanner.rootPaths.foldl VoiScheduler.registerPath (.new config.scheduler)
          sharedExecutorConfig := .ofConfig config
          sharedScoringConfig := config.scoring
          sharedScannerConfig := config.scanner
          predictivePolicy := ⟨config.pressure.prediction⟩ } := by
  unfold MonitoringDaemon.init
  cases listed : platform.mountPoints with
  | error err => simp [bind, Except.bind]
  | ok mounts =>
      simp only [bind, Except.bind, Except.ok.injEq, exists_and_left, exists_eq_left']
      cases MonitoringDaemon.discoverPools platform
        (SpecialLocationRegistry.discover mounts []) config with
      | error err => simp
      | ok pools =>
          simp only [pure, Except.pure, Except.ok.injEq, exists_eq_left']
          exact eq_comm

theorem traced_init {now : Instant}
    (started : MonitoringDaemon.init platform config now = .ok start)
    : Traced platform serialize start [] start := by
  obtain ⟨mounts, pools, _, _, rfl⟩ := (init_ok_iff platform).mp started
  refine ⟨fun path => ?_, fun _ _ there => ?_, fun _ _ built => ?_, rfl⟩
  · simp [Runs.states, VoiScheduler.mem_registerPaths, VoiScheduler.new]
  · cases there
  · simp [MonitorBuiltIn, Runs.steps] at built

/-- Every state of a run says what the run was, by induction on its inputs. -/
theorem traced_run {now : Instant}
    (started : MonitoringDaemon.init platform config now = .ok start) (past : List (DaemonInput F))
    : Traced platform serialize start past
        (Runs.final (MonitoringDaemon.step platform serialize) start past) := by
  have initial := traced_init platform serialize started
  exact Runs.history_invariant initial
    (fun _ _ traced => traced_step platform serialize traced) past

omit [ProjectingFloat64 F] [RoundingFloat64 F] in
/-- The components after a reload are those of a start exactly if no other root was
registered before.
-/
theorem settings_applyConfig_iff {daemon fresh : MonitoringDaemon F}
    {mounts : List PoolDiscovery.MountPoint} {now later : Instant}
    (listed : platform.mountPoints = .ok mounts)
    (special : daemon.specialLocations = SpecialLocationRegistry.discover mounts [])
    (started : MonitoringDaemon.init platform config later = .ok fresh)
    : (daemon.applyConfig platform config now).settings = fresh.settings
      ↔ ∀ path ∈ daemon.voiScheduler.paths, path ∈ config.scanner.rootPaths := by
  obtain ⟨others, pools, again, discovered, rfl⟩ := (init_ok_iff platform).mp started
  rw [listed] at again
  cases again
  have registered
      : {path | path ∈ (daemon.applyConfig platform config now).voiScheduler.paths}
          = {path | path ∈ (config.scanner.rootPaths.foldl VoiScheduler.registerPath
              (.new config.scheduler)).paths}
        ↔ ∀ path ∈ daemon.voiScheduler.paths, path ∈ config.scanner.rootPaths := by
    simp only [Set.ext_iff, Set.mem_ofPred_eq, daemon.applyConfig_registered platform,
      VoiScheduler.mem_registerPaths, VoiScheduler.new, List.not_mem_nil, false_or,
      or_iff_right_iff_imp]
  rw [← registered]
  constructor
  · intro same
    exact congrArg DaemonSettings.registered same
  · intro same
    have policy := daemon.policyEngine.updateConfig_config config.policy now
    have scheduler := VoiScheduler.config_registerPaths
      (daemon.voiScheduler.updateConfig config.scheduler) config.scanner.rootPaths
    have newScheduler := VoiScheduler.config_registerPaths
      (VoiScheduler.new config.scheduler) config.scanner.rootPaths
    have pooled : (daemon.applyConfig platform config now).ballastCoordinator = pools := by
      simp only [MonitoringDaemon.applyConfig, special, discovered]
    unfold MonitoringDaemon.settings
    rw [same, pooled, PolicyEngine.new_config]
    simp only [MonitoringDaemon.applyConfig, policy, scheduler, newScheduler]
    rfl

/-- A loaded configuration whose hash is another one leaves the daemon, after any run, as a start
from it would, exactly if it takes up what the run leaves behind. One with the same hash, and
one that cannot be loaded, change nothing.
-/
theorem reload_as_restart_iff [LargeLimitFloat64 F] {config : DaemonConfig F} {now : Instant}
    {start : MonitoringDaemon F}
    (started : MonitoringDaemon.init platform config now = .ok start)
    (inputs : List (DaemonInput F)) (later : Instant)
    : let daemon := Runs.final (MonitoringDaemon.step platform serialize) start inputs
      (∀ next : DaemonConfig F, hashText serialize daemon.config ≠ hashText serialize next →
        (SetUpFrom platform next later
            (daemon.handleConfigReload platform serialize (.ok next) later).1
          ↔ Covers platform serialize start inputs next))
      ∧ (∀ next : DaemonConfig F, hashText serialize daemon.config = hashText serialize next →
        (daemon.handleConfigReload platform serialize (.ok next) later).1 = daemon)
      ∧ ∀ err, (daemon.handleConfigReload platform serialize (.error err) later).1 = daemon := by
  intro daemon
  have traced := traced_run platform serialize started inputs
  obtain ⟨mounts, pools, listed, _, built⟩ := (init_ok_iff platform).mp started
  have special : daemon.specialLocations = SpecialLocationRegistry.discover mounts [] :=
    traced.special.trans (congrArg MonitoringDaemon.specialLocations built)
  refine ⟨fun next changed => ?_, fun next unchanged => ?_, fun err => rfl⟩
  · have applied : (daemon.handleConfigReload platform serialize (.ok next) later).1
        = daemon.applyConfig platform next later := by
      simp only [MonitoringDaemon.handleConfigReload, if_neg changed]
    have discoverable : ∃ pools, MonitoringDaemon.discoverPools platform
        (SpecialLocationRegistry.discover mounts []) next = .ok pools := by
      unfold MonitoringDaemon.discoverPools
      rw [listed]
      exact ⟨_, rfl⟩
    obtain ⟨nextPools, discovered⟩ := discoverable
    obtain ⟨fresh, startedAgain⟩ : ∃ fresh,
        MonitoringDaemon.init platform next later = .ok fresh :=
      ⟨_, (init_ok_iff platform).mpr ⟨mounts, nextPools, listed, discovered, rfl⟩⟩
    have components : (daemon.applyConfig platform next later).settings = fresh.settings
        ↔ ∀ path ∈ daemon.voiScheduler.paths, path ∈ next.scanner.rootPaths :=
      settings_applyConfig_iff platform listed special startedAgain
    rw [applied]
    constructor
    · rintro ⟨⟨other, startedToo, same⟩, monitors⟩
      rw [startedAgain] at startedToo
      cases startedToo
      constructor
      · intro earlier among root rooted
        exact components.mp same root ((traced.registered root).mpr ⟨earlier, among, rooted⟩)
      · intro mount born built
        obtain ⟨monitor, there, from_⟩ := traced.builtMonitor mount born built
        refine (MountMonitor.settings_updateConfig_iff from_ next).mp (monitors mount _ ?_)
        exact congrArg (Option.map _) there
    · rintro ⟨roots, windows⟩
      constructor
      · refine ⟨fresh, startedAgain, components.mpr fun path registered => ?_⟩
        obtain ⟨earlier, among, rooted⟩ := (traced.registered path).mp registered
        exact roots earlier among path rooted
      · intro mount monitor there
        obtain ⟨before, earlier, rfl⟩ := Option.map_eq_some_iff.mp there
        obtain ⟨born, built⟩ := traced.monitorBuilt mount before earlier
        obtain ⟨same, here, from_⟩ := traced.builtMonitor mount born built
        cases earlier.symm.trans here
        exact (MountMonitor.settings_updateConfig_iff from_ next).mpr (windows mount born built)
  · simp only [MonitoringDaemon.handleConfigReload, if_pos unchanged]

end runs

def plainContext : ConfigFile.LoadContext where
  sacred := .ok []
  availableParallelism := none
  tomlError field := field
  validateGlobPattern _ := .ok ()

def plainPlatform : DaemonPlatform where
  mountPoints := .ok [⟨⟨[]⟩, "ext4", false⟩]
  discovery := ⟨fun _ => .ok false, fun _ _ => .ok ()⟩

def workRoot : Location := ⟨[⟨"work", .refl true⟩]⟩

def cacheRoot : Location := ⟨[⟨"cache", .refl true⟩]⟩

def withRoots (roots : List Location) : DaemonConfig Float :=
  DaemonConfig.withRoots plainContext roots

def serializeRoots (config : DaemonConfig F) : Except SbhError (List UInt8) :=
  let listed := config.scanner.rootPaths.map fun root => "\"" ++ root.text ++ "\""
  .ok ((String.intercalate "," listed).toList.map fun c => UInt8.ofNat c.toNat)

/-- Adding a root after a tick that brought up a monitor: nothing is left behind. -/
theorem reload_as_restart_added_root
    : ∃ start, MonitoringDaemon.init plainPlatform (withRoots [workRoot]) 0 = .ok start
      ∧ SetUpFrom plainPlatform (withRoots [workRoot, cacheRoot]) 9
        ((Runs.final (MonitoringDaemon.step plainPlatform serializeRoots) start
            [.checkPressure [⟨100, 50, ⟨[]⟩⟩] 5]).handleConfigReload plainPlatform serializeRoots
          (.ok (withRoots [workRoot, cacheRoot])) 9).1 := by
  obtain ⟨start, started⟩ : ∃ start,
      MonitoringDaemon.init plainPlatform (withRoots [workRoot]) 0 = .ok start := ⟨_, rfl⟩
  refine ⟨start, started, ?_⟩
  obtain ⟨_, _, _, _, built⟩ := (init_ok_iff plainPlatform).mp started
  have config : start.config = withRoots [workRoot] :=
    congrArg MonitoringDaemon.config built
  have ticked := (start.checkPressure_frame [⟨100, 50, ⟨[]⟩⟩] 5).1
  refine ((reload_as_restart_iff plainPlatform serializeRoots started
    [.checkPressure [⟨100, 50, ⟨[]⟩⟩] 5] 9).1 _ ?_).mpr ⟨?_, ?_⟩
  · change hashText serializeRoots (start.checkPressure [⟨100, 50, ⟨[]⟩⟩] 5).config ≠ _
    rw [ticked, config]
    decide +kernel
  · intro daemon among root rooted
    have same : daemon.config = withRoots [workRoot] := by
      simp only [Runs.states, List.mem_cons, List.not_mem_nil, or_false] at among
      rcases among with rfl | rfl
      · exact config
      · exact ticked.trans config
    rw [same] at rooted
    exact List.mem_cons.mpr (.inl (List.mem_singleton.mp rooted))
  · rintro mount born ⟨taken, among, _, _, rfl⟩
    simp only [Runs.steps, List.mem_singleton] at among
    subst among
    rw [config]
    exact ⟨rfl, rfl, rfl, rfl⟩

/-- A root that is taken out of the configuration stays registered. -/
theorem removed_root_stays
    : ∃ start, MonitoringDaemon.init plainPlatform (withRoots [workRoot, cacheRoot]) 0 = .ok start
      ∧ hashText serializeRoots start.config ≠ hashText serializeRoots (withRoots [workRoot])
      ∧ ¬ SetUpFrom plainPlatform (withRoots [workRoot]) 9
        (start.handleConfigReload plainPlatform serializeRoots
          (.ok (withRoots [workRoot])) 9).1 := by
  obtain ⟨start, started⟩ : ∃ start,
      MonitoringDaemon.init plainPlatform (withRoots [workRoot, cacheRoot]) 0 = .ok start :=
    ⟨_, rfl⟩
  obtain ⟨mounts, pools, listed, _, built⟩ := (init_ok_iff plainPlatform).mp started
  have config : start.config = withRoots [workRoot, cacheRoot] :=
    congrArg MonitoringDaemon.config built
  have special : start.specialLocations = SpecialLocationRegistry.discover mounts [] :=
    congrArg MonitoringDaemon.specialLocations built
  have changed : hashText serializeRoots start.config
      ≠ hashText serializeRoots (withRoots [workRoot]) := by
    rw [config]
    decide +kernel
  refine ⟨start, started, changed, ?_⟩
  rintro ⟨⟨fresh, startedAgain, same⟩, _⟩
  simp only [MonitoringDaemon.handleConfigReload, if_neg changed] at same
  have covered := (settings_applyConfig_iff plainPlatform listed special startedAgain).mp same
  have registered : cacheRoot ∈ start.voiScheduler.paths := by
    rw [built]
    exact (VoiScheduler.mem_registerPaths ..).mpr
      (.inr (by simp [withRoots, DaemonConfig.withRoots]))
  have kept := covered cacheRoot registered
  exact absurd kept (by decide)

def DaemonInput.notifiedAt : DaemonInput F → Option Instant
  | .notify _ now => some now
  | _ => none

/-- A daemon with the notifications that went out and their moments, the newest first. -/
structure NotifyingDaemon (F : Type) where
  daemon : MonitoringDaemon F
  sent : List (NotificationEvent F × Instant)

namespace NotifyingDaemon

variable [Float64 F] [LimitFloat64 F] [ProjectingFloat64 F] [RoundingFloat64 F]
  (platform : DaemonPlatform) (serialize : DaemonConfig F → Except SbhError (List UInt8))

def step (self : NotifyingDaemon F) (input : DaemonInput F) : NotifyingDaemon F where
  daemon := self.daemon.step platform serialize input
  sent :=
    match input with
    | .notify event now =>
        if (self.daemon.notificationManager.notify event now).2 then (event, now) :: self.sent
        else self.sent
    | _ => self.sent

def Remembers (self : NotifyingDaemon F) : Prop :=
  self.daemon.notificationManager.toNotificationManager
    = .remembering self.daemon.config.notifications.toNotificationConfig self.sent

theorem checkPressure_notificationManager (self : MonitoringDaemon F)
    (stats : List FsStats) (now : Instant)
    : (self.checkPressure stats now).notificationManager = self.notificationManager := by
  induction stats generalizing self with
  | nil => rfl
  | cons reading rest ih => exact ih (self.checkMount now reading)

/-- A reload takes over the intervals and leaves the moments, and nothing else touches either. -/
theorem Remembers.step {self : NotifyingDaemon F} (remembers : self.Remembers)
    (input : DaemonInput F)
    : (self.step platform serialize input).Remembers := by
  unfold Remembers at remembers ⊢
  cases input with
  | checkPressure stats now =>
      change (self.daemon.checkPressure stats now).notificationManager.toNotificationManager
        = .remembering (self.daemon.checkPressure stats now).config.notifications.1 self.sent
      rw [checkPressure_notificationManager, (self.daemon.checkPressure_frame stats now).1]
      exact remembers
  | notify event now =>
      simp only [NotifyingDaemon.step, MonitoringDaemon.step]
      rw [remembers]
      exact NotificationManager.notify_remembering ..
  | reload loaded now =>
      cases loaded with
      | error err => exact remembers
      | ok newConfig =>
          simp only [NotifyingDaemon.step, MonitoringDaemon.step,
            MonitoringDaemon.handleConfigReload]
          split
          · exact remembers
          · have moments := congrArg NotificationManager.lastSendByType remembers
            simp only [MonitoringDaemon.applyConfig, ChannelManager.updateConfig]
            rw [moments]
            rfl
  | setMinScore | scanCompleted | policy | ballast => exact remembers

/-- In every run with its reloads, a notification goes out exactly if they are enabled and its
interval has passed since each of its type that did.
-/
theorem goes_out_iff_spaced {config : DaemonConfig F} {now : Instant}
    {start : MonitoringDaemon F}
    (started : MonitoringDaemon.init platform config now = .ok start)
    (inputs : List (DaemonInput F)) (event : NotificationEvent F) {moment : Instant}
    (ordered : (inputs.filterMap DaemonInput.notifiedAt ++ [moment]).Pairwise (· ≤ ·))
    : let run := Runs.final (step platform serialize) ⟨start, []⟩ inputs
      (run.daemon.notificationManager.notify event moment).2 = true
        ↔ run.daemon.config.notifications.enabled = true
          ∧ ∀ earlier ∈ run.sent, earlier.1.typeKey = event.typeKey →
            earlier.2 + NotificationManager.spacing
              run.daemon.config.notifications.toNotificationConfig event ≤ moment := by
  have kept : (Runs.final (step platform serialize) ⟨start, []⟩ inputs).Remembers
      ∧ ((Runs.final (step platform serialize) ⟨start, []⟩ inputs).sent.map Prod.snd).Sublist
        (inputs.filterMap DaemonInput.notifiedAt).reverse := by
    clear ordered
    -- What went out is newest first, so the run is taken apart at its end.
    induction inputs using List.reverseRecOn with
    | nil =>
        obtain ⟨_, _, _, _, rfl⟩ := (init_ok_iff platform).mp started
        exact ⟨(NotificationManager.remembering_nil _).symm, .slnil⟩
    | append_singleton past input ih =>
        rw [Runs.final_append, Runs.final_cons, Runs.final_nil]
        refine ⟨ih.1.step platform serialize input, ?_⟩
        rw [List.filterMap_append, List.reverse_append]
        cases input with
        | notify event moment =>
            simp only [step]
            split
            · exact ih.2.cons_cons moment
            · exact ih.2.cons moment
        | _ => exact ih.2
  generalize Runs.final (step platform serialize) ⟨start, []⟩ inputs = run at kept ⊢
  obtain ⟨remembers, among⟩ := kept
  dsimp only
  rw [remembers]
  refine NotificationManager.remembering_passes_iff _
    ((List.pairwise_reverse.mpr ordered).sublist ?_)
  rw [List.reverse_append]
  exact among.cons_cons moment

def releasedNotice : NotificationEvent Float := .ballastReleased "/data" 1 1073741824

theorem notice_goes_out_a_minute_later
    : ∃ start, MonitoringDaemon.init plainPlatform (withRoots [workRoot]) 0 = .ok start
      ∧ ((Runs.final (step plainPlatform serializeRoots) ⟨start, []⟩
          [.notify releasedNotice 0, .checkPressure [] 5]).daemon.notificationManager.notify
            releasedNotice (Duration.fromSecs 60)).2 = true := by
  obtain ⟨start, started⟩ : ∃ start,
      MonitoringDaemon.init plainPlatform (withRoots [workRoot]) 0 = .ok start := ⟨_, rfl⟩
  refine ⟨start, started, (goes_out_iff_spaced plainPlatform serializeRoots started
    [.notify releasedNotice 0, .checkPressure [] 5] _ (by decide)).mpr ?_⟩
  obtain ⟨_, _, _, _, rfl⟩ := (init_ok_iff plainPlatform).mp started
  refine ⟨rfl, fun earlier member _ => ?_⟩
  obtain rfl := List.mem_singleton.mp member
  change 0 + NotificationManager.spacing (withRoots [workRoot]).notifications.1 releasedNotice ≤ _
  have settings : (withRoots [workRoot]).notifications.1 = .default := rfl
  rw [settings]
  decide

end NotifyingDaemon

end StorageBallast
