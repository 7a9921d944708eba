import StorageBallast.Ballast.PoolDiscovery
import StorageBallast.Daemon.EventDrivenScan
import StorageBallast.Daemon.Notifications
import StorageBallast.Daemon.PressureChecks

/-! The special locations: mounts in memory that hold scratch space, and the usual places for
temporary files.
-/

namespace StorageBallast

open PoolDiscovery (MountPoint)
open Sorting (sortBy)

inductive SpecialKind where
  | tmpfs
  | devShm
  | ramfs
  | userTmp
  | custom (name : String)
deriving DecidableEq, Repr

structure SpecialLocation where
  path : Location
  kind : SpecialKind
  bufferPct : Nat
  scanInterval : Duration
  priority : Nat
deriving DecidableEq, Repr

structure SpecialLocationRegistry where
  locations : List SpecialLocation

namespace SpecialLocationRegistry

def devShm : Location := ⟨[⟨"dev", by decide⟩, ⟨"shm", by decide⟩]⟩

def dev : Location := ⟨[⟨"dev", by decide⟩]⟩

def tmp : Location := ⟨[⟨"tmp", .refl true⟩]⟩

def dataTmp : Location := ⟨[⟨"data", .refl true⟩, ⟨"tmp", .refl true⟩]⟩

def dedupe : List SpecialLocation → List SpecialLocation
  | [] => []
  | location :: rest =>
      if rest.any fun later => later.path = location.path then dedupe rest
      else location :: dedupe rest

def new (locations : List SpecialLocation) : SpecialLocationRegistry where
  locations := sortBy
    (fun left right =>
      (compare right.priority left.priority).then (Location.order left.path right.path))
    (dedupe locations)

/-- A mount in memory that is neither a device file system nor a runtime directory. -/
def isActionableSpecialMount (mount : MountPoint) : Bool :=
  let fsType := mount.fsType.toLower
  let text := mount.path.text
  mount.isRamBacked
    && (mount.path == devShm
      || fsType != "devfs" && fsType != "devtmpfs" && !mount.path.startsWith dev
        && !(text.startsWith "/run/credentials/" || text.startsWith "/run/user/"
          || text == "/run/lock" || text == "/run"))

def kindOf (mount : MountPoint) : SpecialKind :=
  if mount.path = devShm then .devShm
  else if mount.path = tmp then .tmpfs
  else if mount.fsType = "ramfs" then .ramfs
  else .tmpfs

def ofMount (mount : MountPoint) : SpecialLocation :=
  match kindOf mount with
  | .devShm => ⟨mount.path, .devShm, 20, .fromSecs 3, 255⟩
  | .ramfs => ⟨mount.path, .ramfs, 18, .fromSecs 4, 220⟩
  | .tmpfs => ⟨mount.path, .tmpfs, 15, .fromSecs 5, 200⟩
  | kind => ⟨mount.path, kind, 15, .fromSecs 5, 150⟩

def withUsual (path : Location) (priority : Nat) (locations : List SpecialLocation)
    : List SpecialLocation :=
  if locations.all fun location => location.path != path then
    locations ++ [⟨path, .userTmp, 15, .fromSecs 5, priority⟩]
  else locations

def discover (mounts : List MountPoint) (customPaths : List Location)
    : SpecialLocationRegistry :=
  let custom (path : Location) : SpecialLocation :=
    ⟨path, .custom path.text, 15, .fromSecs 5, 140⟩
  let found := (mounts.filter isActionableSpecialMount).map ofMount ++ customPaths.map custom
  new (withUsual dataTmp 155 (withUsual tmp 160 found))

theorem dedupe_nodup (locations : List SpecialLocation)
    : ((dedupe locations).map (·.path)).Nodup := by
  have paths {locations : List SpecialLocation} {path : Location}
      (member : path ∈ (dedupe locations).map (·.path))
      : ∃ location ∈ locations, location.path = path := by
    induction locations with
    | nil => simp [dedupe] at member
    | cons first rest ih =>
        unfold dedupe at member
        split at member
        · obtain ⟨location, among, same⟩ := ih member
          exact ⟨location, List.mem_cons_of_mem _ among, same⟩
        · rcases List.mem_cons.mp member with same | later
          · exact ⟨first, List.mem_cons_self, same.symm⟩
          · obtain ⟨location, among, same⟩ := ih later
            exact ⟨location, List.mem_cons_of_mem _ among, same⟩
  induction locations with
  | nil => exact List.nodup_nil
  | cons first rest ih =>
      unfold dedupe
      split
      · exact ih
      · rename_i unrepeated
        refine List.nodup_cons.mpr ⟨fun again => unrepeated ?_, ih⟩
        obtain ⟨location, among, same⟩ := paths again
        exact List.any_eq_true.mpr ⟨location, among, by simpa using same⟩

end SpecialLocationRegistry

end StorageBallast

/-! The special locations are looked at on every tick, apart from the pressure of the mounts:
those whose free space is below their buffer are announced, and ballast and a scan are asked
for. What was announced last is remembered for each of them.
-/

namespace StorageBallast

open Episodes Runs
open scoped Float64

variable {F : Type} [Float64 F]

def FsStats.freePct (self : FsStats) : F :=
  if self.totalBytes = 0 then 0.0
  else Float64.ofNat self.availableBytes * 100.0 / Float64.ofNat self.totalBytes

namespace SpecialLocation

variable (F) in
def needsAttention (self : SpecialLocation) (stats : FsStats) : Bool :=
  Float64.lt (stats.freePct : F) (Float64.ofNat self.bufferPct)

def scanDue (self : SpecialLocation) (lastScan : Option Instant) (now : Instant) : Bool :=
  match lastScan with
  | none => true
  | some last => decide (self.scanInterval ≤ elapsed now last)

variable (F) in
def pressureLevel (self : SpecialLocation) (stats : FsStats) : PressureLevel :=
  let freeRatio : F := stats.freePct / Float64.ofNat self.bufferPct
  if Float64.lt freeRatio 0.25 then .red
  else if Float64.lt freeRatio 0.5 then .orange
  else .yellow

def urgency (self : SpecialLocation) : F := Float64.ofNat self.priority / 255.0

variable (F) in
def reading (self : SpecialLocation) (stats : FsStats) : Option PressureLevel :=
  if self.needsAttention F stats then some (self.pressureLevel F stats) else none

end SpecialLocation

structure SpecialInventory where
  mountPoint : Location
  skipped : Bool
  filesAvailable : Nat
  releasableBytes : Nat

/-- What is met at one location: its statistics, if they can be read, the times at which events
are notified, and the pools of ballast with what `release_for_mount` reports, in files and
bytes.
-/
structure SpecialVisit where
  stats : Option FsStats
  notifiedAt : Instant
  releasedAt : Instant
  pools : Location → Option PoolCounts
  inventory : List SpecialInventory
  releaseForMount : Location → Nat → Option (Nat × Nat)

structure SpecialTick where
  now : Instant
  visit : Location → SpecialVisit
  rootPaths : List Location
  canonicalize : Location → Option Location

structure SpecialScanRequest (F : Type) extends RootScanRequest where
  urgency : F
  freePct : F

inductive SpecialEffect (F : Type) where
  /-- The error entry of a location below its buffer, by what its message tells. -/
  | logged (code : String) (kind : SpecialKind) (path : Location) (freePct : F) (bufferPct : Nat)
  /-- An event that reached the channels. -/
  | notified (event : NotificationEvent F)
  | requested (request : SpecialScanRequest F)

structure SpecialChecks where
  specialLocations : SpecialLocationRegistry
  lastSpecialScan : Location → Option Instant
  lastSpecialNotify : Location → Option (PressureLevel × Instant)
  notificationManager : NotificationManager

def pathIsSameOrDescendant (canonicalize : Location → Option Location)
    (candidate ancestor : Location) : Bool :=
  candidate.startsWith ancestor
  || match canonicalize candidate, canonicalize ancestor with
    | some candidate, some ancestor => candidate.startsWith ancestor
    | _, _ => false

def pushUnique (paths : List Location) (candidate : Location) : List Location :=
  if candidate ∈ paths then paths else paths ++ [candidate]

/-- The configured roots inside a location, or else the location itself, whether or not it lies
inside of one.
-/
def specialLocationScanRoots (canonicalize : Location → Option Location) (location : Location)
    (configuredRoots : List Location) : List Location :=
  let inside := configuredRoots.filter fun root => pathIsSameOrDescendant canonicalize root location
  if inside.isEmpty then [location] else inside.foldl pushUnique []

/-- `max_by_key`: of several largest ones the last. -/
def lastMaxByKey {α : Type} (key : α → Nat) : List α → Option α
  | [] => none
  | first :: rest =>
      match lastMaxByKey key rest with
      | some best => if key first ≤ key best then some best else some first
      | none => some first

def specialDeleteBatch : PressureLevel → Nat
  | .red | .critical => 100
  | .orange => 60
  | .yellow | .green => 40

namespace SpecialVisit

def releaseMount (self : SpecialVisit) (stats : FsStats) : Option Location :=
  if (self.pools stats.mountPoint).isSome then some stats.mountPoint
  else
    let stocked := self.inventory.filter fun item =>
      !item.skipped && decide (0 < item.filesAvailable)
    (lastMaxByKey (·.releasableBytes) stocked).map (·.mountPoint)

/-- `release_ballast`, as far as it is announced. -/
def releaseBallast (self : SpecialVisit) (mount : Location) (response : PressureResponse F)
    : Option (NotificationEvent F) :=
  match self.pools mount with
  | none => none
  | some pool =>
      let count := BallastReleaseController.filesToRelease response pool.availableCount
        pool.expectedCount
      if 0 < count then
        (self.releaseForMount mount count).map fun report =>
          .ballastReleased mount.text report.1 report.2
      else none

end SpecialVisit

namespace SpecialChecks

def start (specialLocations : SpecialLocationRegistry) (config : NotificationConfig)
    : SpecialChecks :=
  ⟨specialLocations, fun _ => none, fun _ => none, .fromConfig config⟩

def notify (self : SpecialChecks) (event : NotificationEvent F) (now : Instant)
    : SpecialChecks × List (SpecialEffect F) :=
  let told := self.notificationManager.notify event now
  ({ self with notificationManager := told.1 }, if told.2 then [.notified event] else [])

def announce (self : SpecialChecks) (location : SpecialLocation) (level : PressureLevel)
    (stats : FsStats) (now notifiedAt : Instant) : SpecialChecks × List (SpecialEffect F) :=
  let shouldNotifySpecial :=
    match self.lastSpecialNotify location.path with
    | some (prevLevel, _) => level != prevLevel
    | none => true
  if shouldNotifySpecial then
    let told := self.notify
      (.pressureChanged "Green" level.debugText location.path.text stats.freePct) notifiedAt
    ({ told.1 with
        lastSpecialNotify :=
          Function.update told.1.lastSpecialNotify location.path (some (level, now)) },
      told.2)
  else (self, [])

def release (self : SpecialChecks) (visit : SpecialVisit) (stats : FsStats)
    (level : PressureLevel) (urgency : F) : SpecialChecks × List (SpecialEffect F) :=
  match visit.releaseMount stats with
  | none => (self, [])
  | some mount =>
      match visit.releaseBallast mount ⟨level, urgency, 0, mount⟩ with
      | none => (self, [])
      | some event => self.notify event visit.releasedAt

/-- What is done about a location below its buffer. -/
def attend (self : SpecialChecks) (tick : SpecialTick) (location : SpecialLocation)
    (stats : FsStats) : SpecialChecks × List (SpecialEffect F) :=
  let visit := tick.visit location.path
  let level := location.pressureLevel F stats
  let announced := self.announce location level stats tick.now visit.notifiedAt
  let released := announced.1.release visit stats level location.urgency
  let scanPaths := tick.rootPaths.foldl pushUnique
    (specialLocationScanRoots tick.canonicalize location.path tick.rootPaths)
  (released.1,
    .logged "SBH-2001" location.kind location.path stats.freePct location.bufferPct
      :: announced.2 ++ released.2
      ++ [.requested ⟨⟨scanPaths, level, specialDeleteBatch level, false⟩, location.urgency,
          stats.freePct⟩])

/-- The body of the loop of `check_special_locations`. -/
def checkLocation (self : SpecialChecks) (tick : SpecialTick) (location : SpecialLocation)
    : SpecialChecks × List (SpecialEffect F) :=
  if !location.scanDue (self.lastSpecialScan location.path) tick.now then (self, [])
  else
    match (tick.visit location.path).stats with
    | none => (self, [])
    | some stats =>
        let scanned := { self with
          lastSpecialScan :=
            Function.update self.lastSpecialScan location.path (some tick.now) }
        if location.needsAttention F stats then scanned.attend tick location stats
        else (scanned, [])

def checkLocations (self : SpecialChecks) (tick : SpecialTick)
    : List SpecialLocation → SpecialChecks × List (SpecialEffect F)
  | [] => (self, [])
  | location :: rest =>
      let first := self.checkLocation tick location
      let others := first.1.checkLocations tick rest
      (others.1, first.2 ++ others.2)

def checkSpecialLocations (self : SpecialChecks) (tick : SpecialTick)
    : SpecialChecks × List (SpecialEffect F) :=
  self.checkLocations tick self.specialLocations.locations

end SpecialChecks

end StorageBallast
