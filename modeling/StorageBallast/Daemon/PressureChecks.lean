import StorageBallast.Ballast.BallastManager
import StorageBallast.Daemon.BallastTicks
import StorageBallast.Foundations.Sorting
import StorageBallast.Monitor.PidController

/-! One tick of the monitor: each mount has a controller of its own, the worst of their
responses is kept, and that one alone is handled.
-/

namespace StorageBallast

open scoped Float64

structure FsStats where
  totalBytes : Nat
  availableBytes : Nat
  mountPoint : Location
deriving DecidableEq, Repr

def monitoredPaths (rootPaths : List PathBuf) : List PathBuf :=
  if rootPaths.any fun path => path.sameAs ⟨"/"⟩ then rootPaths else rootPaths ++ [⟨"/"⟩]

/-- One reading for each mount; paths without one are left out. -/
def statsByMount (collect : PathBuf → Option FsStats) (paths : List PathBuf) : List FsStats :=
  paths.foldl (fun found path =>
    match collect path with
    | none => found
    | some stats =>
        if found.any fun earlier => earlier.mountPoint = stats.mountPoint then found
        else found ++ [stats]) []

/-- A mount comes up, and its rate estimator gives a time to the red threshold. -/
structure MountVisit (F : Type) where
  stats : FsStats
  secondsToThreshold : F

namespace MountVisit

variable {F : Type} [Float64 F]

def mount (self : MountVisit F) : Location := self.stats.mountPoint

def predictedSeconds (self : MountVisit F) : Option F :=
  if Float64.isFinite self.secondsToThreshold && Float64.gt self.secondsToThreshold 0.0 then
    some self.secondsToThreshold
  else none

def input (self : MountVisit F) (now : Instant) : PidInput F where
  reading := ⟨self.stats.availableBytes, self.stats.totalBytes, self.stats.mountPoint⟩
  predictedSecondsToRed := self.predictedSeconds
  now

end MountVisit

/-- The manager of a mount's ballast with its directory. Its inventory is that of some scan. -/
structure BallastPool where
  manager : BallastManager
  dir : BallastDir
  scanned : ∃ earlier, manager.inventory = BallastManager.scanExisting manager.config earlier

namespace BallastPool

def counts (self : BallastPool) : PoolCounts :=
  ⟨self.manager.availableCount, self.manager.config.fileCount⟩

/-- What `release_for_mount` reports as released. -/
def released (self : BallastPool) (count : Nat) : Option Nat :=
  (self.manager.releaseForMount count self.dir).2.2.map (·.filesReleased)

def Unlinkable (self : BallastPool) : Prop :=
  ∀ file ∈ self.manager.inventory, (self.dir.files file.index).isSome

end BallastPool

structure MonitorTick (F : Type) where
  rootPaths : List PathBuf
  crossDevices : Bool
  collect : PathBuf → Option FsStats
  visits : List (MountVisit F)
  visited
    : (visits.map (·.stats)).Perm (statsByMount collect (monitoredPaths rootPaths))
  checkedAt : Instant
  /-- The mounts that paths belong to when the response is handled. -/
  mountOf : PathBuf → Option Location
  behavior : BehaviorMode
  pools : Location → Option BallastPool
  inventory : List PoolVisit
  predictiveBallastMount : Option Location
  startedAfter : Duration
  releasedAfter : Duration
  recordedAfter : Duration

def worseThan {F : Type} [Float64 F] (response worst : PidResponse F) : Bool :=
  decide (worst.level.rank < response.level.rank)
    || (response.level == worst.level && Float64.gt response.urgency worst.urgency)

abbrev MountMonitors (F : Type) := Location → PidPressureController F

variable {F : Type} [Float64 F] [RoundingFloat64 F]

/-- The loop over the mounts: each controller is updated, and the worst response kept. -/
def checkMounts (now : Instant)
    : List (MountVisit F) → MountMonitors F → Option (PidResponse F)
      → MountMonitors F × Option (PidResponse F)
  | [], monitors, worst => (monitors, worst)
  | visit :: rest, monitors, worst =>
      let updated := (monitors visit.mount).update (visit.input now)
      checkMounts now rest (Function.update monitors visit.mount updated.1)
        (FirstMaxima.keep worseThan worst updated.2)

def ownResponse (monitors : MountMonitors F) (now : Instant) (visit : MountVisit F)
    : PidResponse F :=
  ((monitors visit.mount).update (visit.input now)).2

namespace MonitorTick

def noRootPathOn (tick : MonitorTick F) (mount : Location) : Bool :=
  tick.rootPaths.all fun path => tick.mountOf path != some mount

def releaseMount (tick : MonitorTick F) (worst : PidResponse F) : Location :=
  if worst.level = .green then tick.predictiveBallastMount.getD worst.causingMount
  else worst.causingMount

/-- What `handle_pressure` works with, once the worst response is known. -/
def pressureTick (tick : MonitorTick F) (worst : PidResponse F) : PressureTick F where
  startedAfter := tick.startedAfter
  response := worst.toPressureResponse
  behavior := tick.behavior
  noRootPathOnPressuredDevice := tick.noRootPathOn worst.causingMount
  crossDevices := tick.crossDevices
  inventory := tick.inventory
  predictiveBallastMount := tick.predictiveBallastMount
  release := {
    poolForMount := fun mount => (tick.pools mount).map (·.counts)
    releaseForMount := fun count =>
      (tick.pools (tick.releaseMount worst)).bind (·.released count)
    releasedAfter := tick.releasedAfter
    recordedAfter := tick.recordedAfter
  }

end MonitorTick

def BallastDaemon.forget (self : BallastDaemon) : BallastDaemon := { self with history := [] }

structure MountDaemon (F : Type) where
  monitors : MountMonitors F
  ballast : BallastDaemon

namespace MountDaemon

/-- `check_pressure` and then `handle_pressure`; without any reading nothing is handled. -/
def tick (self : MountDaemon F) (tick : MonitorTick F) : MountDaemon F :=
  match checkMounts tick.checkedAt tick.visits self.monitors none with
  | (monitors, none) => ⟨monitors, self.ballast⟩
  | (monitors, some worst) =>
      ⟨monitors, self.ballast.handlePressure (tick.pressureTick worst)⟩

def events (self : MountDaemon F) (tick : MonitorTick F) : List BallastEvent :=
  ((⟨self.monitors, self.ballast.forget⟩ : MountDaemon F).tick tick).ballast.history

end MountDaemon

end StorageBallast
