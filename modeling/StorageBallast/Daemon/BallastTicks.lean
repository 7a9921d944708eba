import StorageBallast.Ballast.ReleaseController
import StorageBallast.Daemon.BehaviorModes

/-! What the ticks of the monitor do with ballast: on a green tick at most one file is
recreated, on the others ballast is released. The controller hears of green ticks only.
Every reading of the clock is so much later than the one before it.
-/

namespace StorageBallast

open scoped Float64

def behaviorShouldReleaseBallast (mode : BehaviorMode) : Bool :=
  match mode.ballastAction with
  | .release | .releaseFirst => true
  | .none => false

def shouldSkipForDeviceAffinity (elevatedPressure noRootPathOnPressuredDevice crossDevices : Bool)
    : Bool :=
  elevatedPressure && noRootPathOnPressuredDevice && !crossDevices

structure PoolInventory where
  mountPoint : Location
  filesAvailable : Nat
  filesTotal : Nat
deriving DecidableEq, Repr

structure PoolCounts where
  availableCount : Nat
  expectedCount : Nat
deriving DecidableEq, Repr

/-- A pool met on a green tick: its inventory, the time until it is asked about, what
`replenish_for_mount` would report, and the times until the file and its record are made.
-/
structure PoolVisit where
  pool : PoolInventory
  askedAfter : Duration
  /-- Files created; nothing on an error or without a pool. -/
  replenishForMount : Option Nat
  createdAfter : Duration
  recordedAfter : Duration
deriving DecidableEq, Repr

/-- What a release meets: the pools, what `release_for_mount` reports for a count of files, and
the times until the files are gone and the release is recorded.
-/
structure ReleaseVisit where
  poolForMount : Location → Option PoolCounts
  /-- Files released; nothing on an error or without files. -/
  releaseForMount : Nat → Option Nat
  releasedAfter : Duration
  recordedAfter : Duration

structure PressureTick (F : Type) where
  startedAfter : Duration
  response : PressureResponse F
  behavior : BehaviorMode
  noRootPathOnPressuredDevice : Bool
  crossDevices : Bool
  inventory : List PoolVisit
  /-- The mount of a predicted imminent danger. -/
  predictiveBallastMount : Option Location
  release : ReleaseVisit

/-- What happened, and when. -/
inductive BallastEvent where
  | tick (level : PressureLevel) (time : Instant)
  | ballastReplenished (mount : Location) (filesReplenished : Nat) (time : Instant)
  | ballastReleased (mount : Location) (filesReleased : Nat) (time : Instant)
deriving DecidableEq, Repr

/-- The part of the daemon that deals with ballast, and what happened so far, the latest
first.
-/
structure BallastDaemon where
  releaseController : BallastReleaseController
  now : Instant
  history : List BallastEvent

namespace BallastDaemon

def start (replenishCooldownMinutes : Nat) (now : Instant) : BallastDaemon :=
  ⟨.new replenishCooldownMinutes, now, []⟩

def wait (self : BallastDaemon) (duration : Duration) : BallastDaemon :=
  { self with now := self.now + duration }

def record (self : BallastDaemon) (event : Instant → BallastEvent) : BallastDaemon :=
  { self with history := event self.now :: self.history }

def ask (self : BallastDaemon) (level : PressureLevel) (visit : PoolVisit)
    : BallastDaemon × Bool :=
  let asked := self.wait visit.askedAfter
  let answer := asked.releaseController.isReadyForReplenish visit.pool.mountPoint level
    visit.pool.filesAvailable visit.pool.filesTotal asked.now
  ({ asked with releaseController := answer.1 }, answer.2)

def replenished (self : BallastDaemon) (visit : PoolVisit) (filesCreated : Nat)
    : BallastDaemon :=
  let mount := visit.pool.mountPoint
  let created := (self.wait visit.createdAfter).record (.ballastReplenished mount filesCreated)
  let told := created.wait visit.recordedAfter
  { told with releaseController := told.releaseController.onReplenished mount told.now }

/-- The pools are asked about in turn until one was replenished. -/
def replenishOne (self : BallastDaemon) (level : PressureLevel)
    : List PoolVisit → BallastDaemon
  | [] => self
  | visit :: rest =>
      let asked := self.ask level visit
      if asked.2 then
        match visit.replenishForMount with
        | some filesCreated =>
            if 0 < filesCreated then asked.1.replenished visit filesCreated
            else asked.1.replenishOne level rest
        | none => asked.1.replenishOne level rest
      else asked.1.replenishOne level rest

def released (self : BallastDaemon) (mount : Location) (visit : ReleaseVisit)
    (filesReleased : Nat) : BallastDaemon :=
  let gone := (self.wait visit.releasedAfter).record (.ballastReleased mount filesReleased)
  let told := gone.wait visit.recordedAfter
  { told with releaseController := told.releaseController.onReleased mount told.now }

def releaseBallast {F : Type} [Float64 F] (self : BallastDaemon) (mount : Location)
    (response : PressureResponse F) (visit : ReleaseVisit) : BallastDaemon :=
  match visit.poolForMount mount with
  | none => self
  | some pool =>
      let count := BallastReleaseController.filesToRelease response pool.availableCount
        pool.expectedCount
      if 0 < count then
        match visit.releaseForMount count with
        | some filesReleased => self.released mount visit filesReleased
        | none => self
      else self

/-- `handle_pressure`, without the scans it asks for. -/
def handlePressure {F : Type} [Float64 F] (self : BallastDaemon) (tick : PressureTick F)
    : BallastDaemon :=
  let response := tick.response
  let started := (self.wait tick.startedAfter).record (.tick response.level)
  if shouldSkipForDeviceAffinity (response.level != .green) tick.noRootPathOnPressuredDevice
      tick.crossDevices then started
  else
    match response.level with
    | .green =>
        let replenished := started.replenishOne response.level tick.inventory
        match tick.predictiveBallastMount with
        | some mount => replenished.releaseBallast mount response tick.release
        | none => replenished
    | .yellow | .orange | .red | .critical =>
        if behaviorShouldReleaseBallast tick.behavior then
          started.releaseBallast response.causingMount response tick.release
        else started

@[simp] theorem wait_releaseController (self : BallastDaemon) (duration : Duration)
    : (self.wait duration).releaseController = self.releaseController := rfl

theorem released_states (self : BallastDaemon) (mount : Location) (visit : ReleaseVisit)
    (filesReleased : Nat)
    : (self.released mount visit filesReleased).releaseController.states mount
        = { self.releaseController.states mount with
            lastReleaseTime := some (self.now + visit.releasedAfter + visit.recordedAfter)
            greenSince := none } :=
  BallastReleaseController.setEntry_same _ _

theorem replenished_states (self : BallastDaemon) (visit : PoolVisit) (filesCreated : Nat)
    : (self.replenished visit filesCreated).releaseController.states visit.pool.mountPoint
        = { self.releaseController.states visit.pool.mountPoint with
            lastReplenishTime :=
              some (self.now + visit.createdAfter + visit.recordedAfter) } :=
  BallastReleaseController.setEntry_same _ _

theorem ask_green (self : BallastDaemon) (visit : PoolVisit)
    : (self.ask .green visit).1
        = { self.wait visit.askedAfter with
            releaseController := self.releaseController.setEntry visit.pool.mountPoint
              ((self.releaseController.states visit.pool.mountPoint).enterGreen
                (self.now + visit.askedAfter)) } := rfl

end BallastDaemon

end StorageBallast
