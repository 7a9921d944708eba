import StorageBallast.Core.ConfigFile
import StorageBallast.Daemon.Notifications
import StorageBallast.Daemon.PolicyModes
import StorageBallast.Scanner.LogTruncator

/-! The configuration as the daemon holds it: every field that one of its components takes
over at the start or at a reload.
-/

namespace StorageBallast

namespace DaemonConfig

structure ScannerConfig where
  engine : ScannerEngineMode
  eventSource : ScannerEventSourceMode
  eventWatchBudget : Nat
  rootPaths : List Location
  excludedPaths : List PathBuf
  protectedPaths : List String
  minFileAgeMinutes : Nat
  maxDepth : Nat
  parallelism : Nat
  followSymlinks : Bool
  crossDevices : Bool
  dryRun : Bool
  maxDeleteBatch : Nat
  repeatDeletionBaseCooldownSecs : Nat
  repeatDeletionMaxCooldownSecs : Nat
  minRescanIntervalSecs : Nat
  scanTimeBudgetSecs : Nat
  activeReferenceCacheTtlSecs : Nat
  activeReferenceMinSizeBytes : Nat
  logTruncation : LogTruncator.LogTruncationConfig

structure BallastConfig extends ConfigFile.BallastConfig where
  replenishCooldownMinutes : Nat

def BallastConfig.settings (self : BallastConfig) : PoolDiscovery.BallastSettings where
  fileCount := self.fileCount
  fileSizeBytes := self.fileSizeBytes
  overrides mount := self.overrides.get mount

structure TelemetryConfig (F : Type) extends ConfigFile.TelemetryConfig F where
  fsCacheTtlMs : Nat
  ewmaMinSamples : Nat
  /-- Size of the history of rates for burst detection. -/
  ewmaRateHistorySize : Nat
  guardrailWindowSize : Nat
  guardrailMinObservations : Nat

structure PathsConfig where
  configFile : PathBuf
  ballastDir : PathBuf
  stateFile : PathBuf
deriving DecidableEq

structure DesktopConfig where
  enabled : Bool
  minLevel : NotificationLevel

structure WebhookConfig where
  enabled : Bool
  url : String
  minLevel : NotificationLevel
  template : String

structure FileConfig where
  path : PathBuf

structure JournalConfig where
  minLevel : NotificationLevel

structure NotificationConfig extends StorageBallast.NotificationConfig where
  /-- The names of the channels to activate. -/
  channels : List String
  desktop : DesktopConfig
  webhook : WebhookConfig
  file : FileConfig
  journal : JournalConfig

end DaemonConfig

structure DaemonConfig (F : Type) where
  pressure : ConfigFile.PressureConfig F
  scanner : DaemonConfig.ScannerConfig
  scoring : ScoringConfig F
  ballast : DaemonConfig.BallastConfig
  scheduler : VoiConfig F
  telemetry : DaemonConfig.TelemetryConfig F
  paths : DaemonConfig.PathsConfig
  notifications : DaemonConfig.NotificationConfig
  policy : PolicyConfig F

namespace DaemonConfig

variable {F : Type}

def computePrimaryPath (self : DaemonConfig F) : Location :=
  self.scanner.rootPaths.head?.getD ⟨[]⟩

def pushUniquePath (paths : List PathBuf) (candidate : PathBuf) : List PathBuf :=
  if paths.any fun existing => existing.sameAs candidate then paths else paths ++ [candidate]

/-- Where ballast pools are looked for: at the roots, at the special locations and beside the
daemon's own files.
-/
def ballastDiscoveryPaths (self : DaemonConfig F) (specialLocations : List PathBuf)
    : List PathBuf :=
  (self.scanner.rootPaths.map (·.toPathBuf) ++ specialLocations
    ++ self.paths.stateFile.parent.toList ++ self.paths.ballastDir.parent.toList).foldl
    pushUniquePath []

def fnv1a (bytes : List UInt8) : UInt64 :=
  bytes.foldl (fun hash byte => (hash ^^^ byte.toUInt64) * 0x100000001b3) 0xcbf29ce484222325

def hexDigits (digits : Nat) (n : Nat) : String :=
  String.ofList ((List.range digits).reverse.map fun place =>
    Nat.digitChar (n / 16 ^ place % 16))

def stableHash (serialize : DaemonConfig F → Except SbhError (List UInt8))
    (self : DaemonConfig F)
    : Except SbhError String :=
  (serialize self).map fun canonical => hexDigits 16 (fnv1a canonical).toNat

open scoped Float64 in
def withRoots [Float64 F] (context : ConfigFile.LoadContext) (rootPaths : List Location)
    : DaemonConfig F :=
  let read : ConfigFile.Config F := ConfigFile.Config.default context
  let plain := StorageBallast.ScannerConfig.default
  { pressure := read.pressure
    scanner := {
      engine := plain.engine
      eventSource := .auto
      eventWatchBudget := 8192
      rootPaths
      excludedPaths := plain.excludedPaths
      protectedPaths := plain.protectedPaths
      minFileAgeMinutes := plain.minFileAgeMinutes
      maxDepth := plain.maxDepth
      parallelism := read.scanner.parallelism
      followSymlinks := plain.followSymlinks
      crossDevices := plain.crossDevices
      dryRun := false
      maxDeleteBatch := plain.maxDeleteBatch
      repeatDeletionBaseCooldownSecs := read.scanner.repeatDeletionBaseCooldownSecs
      repeatDeletionMaxCooldownSecs := read.scanner.repeatDeletionMaxCooldownSecs
      minRescanIntervalSecs := 90
      scanTimeBudgetSecs := 900
      activeReferenceCacheTtlSecs := 30
      activeReferenceMinSizeBytes := plain.activeReferenceMinSizeBytes
      logTruncation := .default }
    scoring := read.scoring
    ballast := ⟨read.ballast, 10⟩
    scheduler := read.scheduler
    telemetry := ⟨read.telemetry, 1000, 3, 200, 500, 60⟩
    paths := ⟨⟨"/etc/sbh/config.toml"⟩, ⟨"/var/lib/sbh/ballast"⟩, ⟨"/var/lib/sbh/state.json"⟩⟩
    notifications := ⟨.default, ["journal", "file"], ⟨false, .orange⟩,
      ⟨false, "", .red, "\x7b\"text\": \"sbh: $\x7bSUMMARY\x7d\"\x7d"⟩,
      ⟨⟨"/root/.local/share/sbh/notifications.jsonl"⟩⟩, ⟨.warning⟩⟩
    policy := .default }

end DaemonConfig

end StorageBallast
