import StorageBallast.Ballast.InterruptionCounts
import StorageBallast.Daemon.MountMonitor
import StorageBallast.Daemon.PolicyEngine
import StorageBallast.Logger.DualLogger
import StorageBallast.Monitor.PredictiveActions
import StorageBallast.Daemon.SpecialLocationChecks

/-! The components of the daemon that take over the configuration: how they are built from it
at the start, what happens to them in a run, and how a reload hands a new one to them.
-/

namespace StorageBallast

open scoped Float64
open PoolDiscovery (BallastPoolCoordinator BallastSettings DiscoveryPlatform MountPoint)

variable {F : Type}

inductive NotificationChannel where
  | desktop (minLevel : NotificationLevel)
  | file (path : PathBuf)
  | journal (minLevel : NotificationLevel)
  | webhook (url : String) (minLevel : NotificationLevel) (template : String)
deriving DecidableEq

/-- An unknown name, or that of a disabled channel, stands for none. -/
def DaemonConfig.NotificationConfig.channel? (self : DaemonConfig.NotificationConfig)
    (name : String)
    : Option NotificationChannel :=
  if name = "desktop" ∧ self.desktop.enabled then some (.desktop self.desktop.minLevel)
  else if name = "file" then some (.file self.file.path)
  else if name = "journal" then some (.journal self.journal.minLevel)
  else if name = "webhook" ∧ self.webhook.enabled then
    some (.webhook self.webhook.url self.webhook.minLevel self.webhook.template)
  else none

structure ChannelManager extends NotificationManager where
  channels : List NotificationChannel

namespace ChannelManager

def fromConfig (config : DaemonConfig.NotificationConfig) : ChannelManager where
  toNotificationManager := .fromConfig config.toNotificationConfig
  channels := if config.enabled then config.channels.filterMap config.channel? else []

def updateConfig (self : ChannelManager) (config : DaemonConfig.NotificationConfig)
    : ChannelManager :=
  { fromConfig config with lastSendByType := self.lastSendByType }

end ChannelManager

structure FsStatsCollector where
  cacheTtl : Duration

def FsStatsCollector.setTtl (self : FsStatsCollector) (ttl : Duration) : FsStatsCollector :=
  { self with cacheTtl := ttl }

structure SharedExecutorConfig (F : Type) where
  dryRun : Bool
  maxBatchSize : Nat
  minScore : F
  repeatBaseCooldownSecs : Nat
  repeatMaxCooldownSecs : Nat

def SharedExecutorConfig.ofConfig (config : DaemonConfig F) : SharedExecutorConfig F where
  dryRun := config.scanner.dryRun
  maxBatchSize := config.scanner.maxDeleteBatch
  minScore := config.scoring.minScore
  repeatBaseCooldownSecs := config.scanner.repeatDeletionBaseCooldownSecs
  repeatMaxCooldownSecs := config.scanner.repeatDeletionMaxCooldownSecs

def PoolDiscovery.BallastPoolCoordinator.updateConfig (self : BallastPoolCoordinator)
    (settings : BallastSettings)
    : BallastPoolCoordinator :=
  { self with
    pools := self.pools.map fun pool =>
      { pool with config := settings.perVolumeConfig pool.mountPoint.text } }

structure DaemonPlatform where
  mountPoints : Except SbhError (List MountPoint)
  discovery : DiscoveryPlatform

structure MonitoringDaemon (F : Type) where
  config : DaemonConfig F
  cachedPrimaryPath : Location
  fsCollector : FsStatsCollector
  mountMonitors : Location → Option (MountMonitor F)
  specialLocations : SpecialLocationRegistry
  ballastCoordinator : BallastPoolCoordinator
  releaseController : BallastReleaseController
  notificationManager : ChannelManager
  policyEngine : PolicyEngine F
  scoringEngine : ScoringEngine F
  voiScheduler : VoiScheduler F
  sharedExecutorConfig : SharedExecutorConfig F
  sharedScoringConfig : ScoringConfig F
  sharedScannerConfig : DaemonConfig.ScannerConfig
  predictivePolicy : PredictiveActionPolicy F

inductive DaemonInput (F : Type) where
  /-- The readings of a tick, in the order in which the mounts are visited. -/
  | checkPressure (stats : List FsStats) (now : Instant)
  /-- Handling the pressure sets the score, which a prediction may lower. -/
  | setMinScore (minScore : F)
  | scanCompleted (results : List (ScanResult F))
  | policy (timed : TimedCall F)
  | ballast (call : ControllerCall)
  | notify (event : NotificationEvent F) (now : Instant)
  /-- What loading the configuration file gives. -/
  | reload (loaded : Except SbhError (DaemonConfig F)) (now : Instant)

def hashText (serialize : DaemonConfig F → Except SbhError (List UInt8))
    (config : DaemonConfig F)
    : String :=
  match config.stableHash serialize with
  | .ok hash => hash
  | .error _ => ""

namespace MonitoringDaemon

variable [Float64 F]

def discoverPools (platform : DaemonPlatform) (special : SpecialLocationRegistry)
    (config : DaemonConfig F)
    : Except SbhError BallastPoolCoordinator :=
  platform.mountPoints.map fun mounts =>
    PoolDiscovery.discoverInner config.ballast.settings platform.discovery
      (config.ballastDiscoveryPaths (special.locations.map fun location =>
        location.path.toPathBuf))
      (some config.paths.ballastDir) mounts

def init (platform : DaemonPlatform) (config : DaemonConfig F) (now : Instant)
    : Except SbhError (MonitoringDaemon F) := do
  let mounts ← platform.mountPoints
  let specialLocations := SpecialLocationRegistry.discover mounts []
  let ballastCoordinator ← discoverPools platform specialLocations config
  pure {
    config
    cachedPrimaryPath := config.computePrimaryPath
    fsCollector := ⟨.fromMillis config.telemetry.fsCacheTtlMs⟩
    mountMonitors _ := none
    specialLocations
    ballastCoordinator
    releaseController := .new config.ballast.replenishCooldownMinutes
    notificationManager := .fromConfig config.notifications
    policyEngine := .new config.policy now
    scoringEngine := .fromConfig config.scoring config.scanner.minFileAgeMinutes
    voiScheduler :=
      config.scanner.rootPaths.foldl VoiScheduler.registerPath (.new config.scheduler)
    sharedExecutorConfig := .ofConfig config
    sharedScoringConfig := config.scoring
    sharedScannerConfig := config.scanner
    predictivePolicy := ⟨config.pressure.prediction⟩ }

section ticks

variable [LimitFloat64 F] [ProjectingFloat64 F] [RoundingFloat64 F]

def checkMount (self : MonitoringDaemon F) (now : Instant) (stats : FsStats)
    : MonitoringDaemon F :=
  let monitor := (self.mountMonitors stats.mountPoint).getD (.new self.config)
  { self with
    mountMonitors := Function.update self.mountMonitors stats.mountPoint
      (some (monitor.check self.config.pressure.redMinFreePct stats now).1) }

def checkPressure (self : MonitoringDaemon F) (stats : List FsStats) (now : Instant)
    : MonitoringDaemon F :=
  stats.foldl (fun daemon reading => daemon.checkMount now reading) self

end ticks

def scanCompleted (self : MonitoringDaemon F) (results : List (ScanResult F))
    : MonitoringDaemon F :=
  { self with
    voiScheduler := (results.foldl VoiScheduler.recordScanResult self.voiScheduler).endWindow }

section reload

variable [LimitFloat64 F] (platform : DaemonPlatform)
  (serialize : DaemonConfig F → Except SbhError (List UInt8))

/-- Hand a new configuration to the components that can be reconfigured at runtime. -/
def applyConfig (self : MonitoringDaemon F) (newConfig : DaemonConfig F) (now : Instant)
    : MonitoringDaemon F :=
  { self with
    scoringEngine := .fromConfig newConfig.scoring newConfig.scanner.minFileAgeMinutes
    releaseController :=
      (BallastReleaseController.new newConfig.ballast.replenishCooldownMinutes).reset
    ballastCoordinator :=
      match discoverPools platform self.specialLocations newConfig with
      | .ok coordinator => coordinator
      | .error _ => self.ballastCoordinator.updateConfig newConfig.ballast.settings
    mountMonitors := fun mount => (self.mountMonitors mount).map (·.updateConfig newConfig)
    sharedExecutorConfig := {
      dryRun := newConfig.scanner.dryRun
      maxBatchSize := newConfig.scanner.maxDeleteBatch
      minScore := newConfig.scoring.minScore
      repeatBaseCooldownSecs := newConfig.scanner.repeatDeletionBaseCooldownSecs
      repeatMaxCooldownSecs := newConfig.scanner.repeatDeletionMaxCooldownSecs }
    fsCollector := self.fsCollector.setTtl (.fromMillis newConfig.telemetry.fsCacheTtlMs)
    -- roots are added here, and none is taken away
    voiScheduler := newConfig.scanner.rootPaths.foldl VoiScheduler.registerPath
      (self.voiScheduler.updateConfig newConfig.scheduler)
    sharedScoringConfig := newConfig.scoring
    sharedScannerConfig := newConfig.scanner
    policyEngine := self.policyEngine.updateConfig newConfig.policy now
    predictivePolicy := ⟨newConfig.pressure.prediction⟩
    notificationManager := self.notificationManager.updateConfig newConfig.notifications
    config := newConfig
    cachedPrimaryPath := newConfig.computePrimaryPath }

def handleConfigReload (self : MonitoringDaemon F)
    (loaded : Except SbhError (DaemonConfig F)) (now : Instant)
    : MonitoringDaemon F × Option (ActivityEvent F) :=
  match loaded with
  | .ok newConfig =>
      let oldHash := hashText serialize self.config
      let newHash := hashText serialize newConfig
      if oldHash = newHash then (self, none)
      else
        (self.applyConfig platform newConfig now,
          some (.configReloaded ("config hash: " ++ oldHash ++ " -> " ++ newHash)))
  | .error err =>
      (self, some (.error "SBH-1003" ("config reload failed: " ++ err.toString)))

variable [ProjectingFloat64 F] [RoundingFloat64 F]

/-- The daemon after something that happens in its run. -/
def step (self : MonitoringDaemon F) : DaemonInput F → MonitoringDaemon F
  | .checkPressure stats now => self.checkPressure stats now
  | .setMinScore minScore =>
      { self with sharedExecutorConfig := { self.sharedExecutorConfig with minScore } }
  | .scanCompleted results => self.scanCompleted results
  | .policy timed => { self with policyEngine := self.policyEngine.step timed }
  | .ballast call => { self with releaseController := self.releaseController.call call }
  | .notify event now =>
      { self with
        notificationManager := { self.notificationManager with
          toNotificationManager := (self.notificationManager.notify event now).1 } }
  | .reload loaded now => (self.handleConfigReload platform serialize loaded now).1

end reload

end MonitoringDaemon

/-- What the platform answers at some moment. -/
structure StatsPlatform where
  mountPoints : Option (List MountPoint)
  fsStats : Location → Option FsStats
  resolveAbsolutePath : PathBuf → PathBuf

namespace StatsPlatform

variable (platform : StatsPlatform)

def pathMatchesMount (path mountPath : PathBuf) : Bool :=
  let resolvedMount := platform.resolveAbsolutePath mountPath
  path.startsWith mountPath || !resolvedMount.sameAs mountPath && path.startsWith resolvedMount

def findMount (path : PathBuf) (mounts : List MountPoint) : Option MountPoint :=
  (mounts.filter fun mount => platform.pathMatchesMount path mount.path.toPathBuf).reverse.argmax
    fun mount => mount.path.text.utf8ByteSize

end StatsPlatform

/-- The collector with its statistics and its mount table, each beside the moment it is from. -/
structure CachingCollector extends FsStatsCollector where
  cache : Location → Option (FsStats × Instant)
  mountCache : Option (List MountPoint × Instant)

namespace CachingCollector

def new (ttl : Duration) : CachingCollector := ⟨⟨ttl⟩, fun _ => none, none⟩

variable {α : Type}

def unexpired (self : CachingCollector) (now : Instant) (entry : Option (α × Instant))
    : Option (α × Instant) :=
  entry.filter fun cached => elapsed now cached.2 ≤ self.cacheTtl

/-- A hit, or else a fresh answer. An expired entry stays where there is none. -/
def refreshed (self : CachingCollector) (now : Instant) (entry : Option (α × Instant))
    (answer : Option α)
    : Option (α × Instant) :=
  (self.unexpired now entry).or (answer.map (·, now))

def cachedMounts (self : CachingCollector) (platform : StatsPlatform) (now : Instant)
    : CachingCollector × Option (List MountPoint) :=
  let read := self.refreshed now self.mountCache platform.mountPoints
  ({ self with mountCache := read.or self.mountCache }, read.map Prod.fst)

def collectForMount (self : CachingCollector) (platform : StatsPlatform) (now : Instant)
    (mountPath : Location)
    : CachingCollector × Option FsStats :=
  let read := self.refreshed now (self.cache mountPath) (platform.fsStats mountPath)
  ({ self with cache := Function.update self.cache mountPath (read.or (self.cache mountPath)) },
    read.map Prod.fst)

def collect (self : CachingCollector) (platform : StatsPlatform) (path : PathBuf) (now : Instant)
    : CachingCollector × Option FsStats :=
  let (listed, mounts) := self.cachedMounts platform now
  match mounts.bind (platform.findMount (platform.resolveAbsolutePath path)) with
  | none => (listed, none)
  | some mount => listed.collectForMount platform now mount.path

def pruneExpiredCache (self : CachingCollector) (now : Instant) : CachingCollector :=
  { self with
    cache := fun mountPath => self.unexpired now (self.cache mountPath)
    mountCache := self.unexpired now self.mountCache }

inductive Call where
  | collect (path : PathBuf)
  | pruneExpiredCache
  | setTtl (ttl : Duration)

def step (world : Instant → StatsPlatform) (self : CachingCollector) (call : Call × Instant)
    : CachingCollector :=
  match call.1 with
  | .collect path => (self.collect (world call.2) path call.2).1
  | .pruneExpiredCache => self.pruneExpiredCache call.2
  | .setTtl ttl => { self with toFsStatsCollector := self.setTtl ttl }

/-- Whatever is kept was answered at the moment beside it. -/
structure Sound (world : Instant → StatsPlatform) (collector : CachingCollector) : Prop where
  cache : ∀ mountPath, ∀ entry ∈ collector.cache mountPath,
    (world entry.2).fsStats mountPath = some entry.1
  mountCache : ∀ entry ∈ collector.mountCache, (world entry.2).mountPoints = some entry.1

/-- The statistics were answered within the limit for the mount that owns the path, by a table
that was answered within it too.
-/
def AnsweredWithin (world : Instant → StatsPlatform) (limit : Duration) (path : PathBuf)
    (now : Instant) (stats : FsStats)
    : Prop :=
  ∃ listed mounts mount read,
    elapsed now listed ≤ limit ∧ (world listed).mountPoints = some mounts
    ∧ (world now).findMount ((world now).resolveAbsolutePath path) mounts = some mount
    ∧ elapsed now read ≤ limit ∧ (world read).fsStats mount.path = some stats

variable {world : Instant → StatsPlatform} {self : CachingCollector} {now : Instant}

theorem unexpired_eq_some_iff {entry : Option (α × Instant)} {cached : α × Instant}
    : self.unexpired now entry = some cached
      ↔ entry = some cached ∧ elapsed now cached.2 ≤ self.cacheTtl := by
  rw [unexpired, Option.filter_eq_some_iff, decide_eq_true_eq]

theorem refreshed_answered {answers : Instant → Option α} {entry : Option (α × Instant)}
    (kept : ∀ cached ∈ entry, answers cached.2 = some cached.1)
    : (∀ cached ∈ (self.refreshed now entry (answers now)).or entry,
        answers cached.2 = some cached.1)
      ∧ ∀ cached ∈ self.refreshed now entry (answers now),
        elapsed now cached.2 ≤ self.cacheTtl ∧ answers cached.2 = some cached.1 := by
  have read (cached) (there : cached ∈ self.refreshed now entry (answers now))
      : elapsed now cached.2 ≤ self.cacheTtl ∧ answers cached.2 = some cached.1 := by
    rcases Option.or_eq_some_iff.mp there with hit | ⟨-, fresh⟩
    · exact ⟨(unexpired_eq_some_iff.mp hit).2, kept _ (unexpired_eq_some_iff.mp hit).1⟩
    · obtain ⟨answer, answered, rfl⟩ := Option.map_eq_some_iff.mp fresh
      exact ⟨by simp [elapsed], answered⟩
  refine ⟨fun cached there => ?_, read⟩
  rcases Option.or_eq_some_iff.mp there with fresh | ⟨-, old⟩
  · exact (read cached fresh).2
  · exact kept cached old

theorem collect_sound (sound : self.Sound world) (path : PathBuf)
    : (self.collect (world now) path now).1.Sound world
      ∧ ∀ stats ∈ (self.collect (world now) path now).2,
        AnsweredWithin world self.cacheTtl path now stats := by
  obtain ⟨table, listing⟩ :=
    @refreshed_answered _ self now (fun moment => (world moment).mountPoints) _ sound.mountCache
  unfold collect cachedMounts
  dsimp only
  split
  · exact ⟨⟨sound.cache, table⟩, fun _ none => by cases none⟩
  next mount owner =>
    obtain ⟨mounts, listed, owner⟩ := Option.bind_eq_some_iff.mp owner
    obtain ⟨entry, found, rfl⟩ := Option.map_eq_some_iff.mp listed
    obtain ⟨recent, answered⟩ := listing entry found
    obtain ⟨statistics, reading⟩ := @refreshed_answered _ self now
      (fun moment => (world moment).fsStats mount.path) _ (sound.cache mount.path)
    refine ⟨⟨fun other cached kept => ?_, table⟩, fun stats collected => ?_⟩
    · simp only [collectForMount, Function.update_apply] at kept
      split at kept
      next here => exact here ▸ statistics cached kept
      next => exact sound.cache other cached kept
    · obtain ⟨cached, read, rfl⟩ := Option.map_eq_some_iff.mp collected
      exact ⟨entry.2, _, mount, cached.2, recent, answered, owner, reading cached read⟩

theorem Sound.step (sound : self.Sound world) (call : Call × Instant)
    : (self.step world call).Sound world := by
  obtain ⟨call, now⟩ := call
  cases call with
  | collect path => exact (collect_sound sound path).1
  | pruneExpiredCache =>
      exact ⟨fun _ _ kept => sound.cache _ _ (unexpired_eq_some_iff.mp kept).1,
        fun _ kept => sound.mountCache _ (unexpired_eq_some_iff.mp kept).1⟩
  | setTtl ttl => exact ⟨sound.cache, sound.mountCache⟩

/-- After every run, what is collected was answered within the time to live now in force. -/
theorem collected_recently (ttl : Duration) (calls : List (Call × Instant)) (path : PathBuf)
    {stats : FsStats}
    (collected : ((Runs.final (step world) (new ttl) calls).collect (world now) path now).2
      = some stats)
    : AnsweredWithin world (Runs.final (step world) (new ttl) calls).cacheTtl path now stats := by
  have empty : (new ttl).Sound world := by
    constructor
    · intro mountPath entry kept
      cases kept
    · intro entry kept
      cases kept
  have sound := List.foldlRecOn calls (step world) empty fun _ sound call _ => sound.step call
  exact (collect_sound sound path).2 stats collected

/-- Half of the disk is used up, and more of it at each moment. -/
def fillingDisk (now : Instant) : StatsPlatform where
  mountPoints := some [⟨.root, "ext4", false⟩]
  fsStats _ := some ⟨100, 50 - now, .root⟩
  resolveAbsolutePath path := path

theorem collected_recently_fillingDisk
    : AnsweredWithin fillingDisk 1 ⟨"/data"⟩ 6 ⟨100, 45, .root⟩ :=
  collected_recently 0 [(.collect ⟨"/"⟩, 3), (.setTtl 1, 4), (.collect ⟨"/tmp"⟩, 5)] ⟨"/data"⟩
    (by decide +kernel)

end CachingCollector

end StorageBallast
