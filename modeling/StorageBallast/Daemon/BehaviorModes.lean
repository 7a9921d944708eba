import StorageBallast.Foundations.Clock
import StorageBallast.Foundations.Runs
import StorageBallast.Monitor.Diagnostics

/-! The behavior matrix: what scanner, cleanup, ballast and notifications do at each pair of
memory pressure and disk pressure.
-/

namespace StorageBallast

inductive MemoryPressureLevel where
  | normal
  | warn
  | critical
  | unknown
deriving DecidableEq, Repr

inductive BehaviorPressureLevel where
  | normal
  | warn
  | critical
deriving DecidableEq, Repr

namespace BehaviorPressureLevel

def fromMemoryPressure : MemoryPressureLevel → BehaviorPressureLevel
  | .normal => normal
  | .warn | .unknown => warn
  | .critical => critical

def fromDiskPressure : PressureLevel → BehaviorPressureLevel
  | .green => normal
  | .yellow | .orange => warn
  | .red | .critical => critical

/-- `behavior_pressure_rank`. -/
def rank : BehaviorPressureLevel → Nat
  | normal => 0
  | warn => 1
  | critical => 2

end BehaviorPressureLevel

inductive ScanAggressiveness where
  | normal
  | light
  | aggressive
  | definiteOnly
  | skip
deriving DecidableEq, Repr

inductive CleanupAction where
  | none
  | identifyOnly
  | highConfidenceCandidates
  | mostPromisingCandidates
  | definiteCandidates
  | anyDefiniteCandidate
deriving DecidableEq, Repr

inductive BallastAction where
  | none
  | release
  | releaseFirst
deriving DecidableEq, Repr

inductive NotificationPriority where
  | none
  | low
  | normal
  | high
  | emergency
deriving DecidableEq, Repr

/-- Action bundle of one cell of the matrix. -/
structure BehaviorMode where
  scanAggressiveness : ScanAggressiveness
  cleanupAction : CleanupAction
  ballastAction : BallastAction
  notificationPriority : NotificationPriority
deriving DecidableEq, Repr

/-- A mode for each memory row and disk column. -/
structure BehaviorDispatchTable where
  cells : BehaviorPressureLevel → BehaviorPressureLevel → BehaviorMode

namespace BehaviorDispatchTable

def default : BehaviorDispatchTable where
  cells
    | .normal, .normal => ⟨.normal, .none, .none, .none⟩
    | .normal, .warn => ⟨.aggressive, .identifyOnly, .none, .low⟩
    | .normal, .critical => ⟨.aggressive, .definiteCandidates, .release, .high⟩
    | .warn, .normal => ⟨.light, .none, .none, .low⟩
    | .warn, .warn => ⟨.light, .highConfidenceCandidates, .release, .normal⟩
    | .warn, .critical => ⟨.definiteOnly, .definiteCandidates, .releaseFirst, .high⟩
    | .critical, .normal => ⟨.skip, .none, .none, .normal⟩
    | .critical, .warn => ⟨.definiteOnly, .mostPromisingCandidates, .release, .high⟩
    | .critical, .critical => ⟨.definiteOnly, .anyDefiniteCandidate, .releaseFirst, .emergency⟩

def modeFor (self : BehaviorDispatchTable) (memoryPressure : MemoryPressureLevel)
    (diskPressure : PressureLevel) : BehaviorMode :=
  self.cells (.fromMemoryPressure memoryPressure) (.fromDiskPressure diskPressure)

end BehaviorDispatchTable

end StorageBallast

/-! The daemon's behavior state follows memory events and disk ticks, but lets repeated
transitions in one direction wait for the hysteresis interval.
-/

namespace StorageBallast

inductive BehaviorTransitionDirection where
  | escalating
  | recovering
deriving DecidableEq, Repr

structure BehaviorTransition where
  fromMemory : MemoryPressureLevel
  toMemory : MemoryPressureLevel
  fromDisk : PressureLevel
  toDisk : PressureLevel
  fromMode : BehaviorMode
  toMode : BehaviorMode
deriving DecidableEq, Repr

inductive BehaviorUpdate where
  | unchanged
  | applied (transition : BehaviorTransition)
  | deferred (direction : BehaviorTransitionDirection) (remaining : Duration)
deriving DecidableEq, Repr

/-- Neither pressure falls and one rises, or the other way round; a move in both directions or
in none has no direction.
-/
def transitionDirection (fromMemory toMemory : MemoryPressureLevel)
    (fromDisk toDisk : PressureLevel) : Option BehaviorTransitionDirection :=
  let memoryOrder := compare (BehaviorPressureLevel.fromMemoryPressure toMemory).rank
    (BehaviorPressureLevel.fromMemoryPressure fromMemory).rank
  let diskOrder := compare (BehaviorPressureLevel.fromDiskPressure toDisk).rank
    (BehaviorPressureLevel.fromDiskPressure fromDisk).rank
  match memoryOrder, diskOrder with
  | .eq, .eq => none
  | .gt, .gt | .gt, .eq | .eq, .gt => some .escalating
  | .lt, .lt | .lt, .eq | .eq, .lt => some .recovering
  | .gt, .lt | .lt, .gt => none

structure PendingBehaviorTarget where
  memoryLevel : MemoryPressureLevel
  diskLevel : PressureLevel
  mode : BehaviorMode
deriving DecidableEq, Repr

structure PressureBehaviorState where
  table : BehaviorDispatchTable
  memoryLevel : MemoryPressureLevel
  diskLevel : PressureLevel
  mode : BehaviorMode
  lastEscalationAt : Option Instant
  lastRecoveryAt : Option Instant
  pendingTarget : Option PendingBehaviorTarget

namespace PressureBehaviorState

def new (memoryLevel : MemoryPressureLevel) (diskLevel : PressureLevel)
    : PressureBehaviorState where
  table := .default
  memoryLevel
  diskLevel
  mode := BehaviorDispatchTable.default.modeFor memoryLevel diskLevel
  lastEscalationAt := none
  lastRecoveryAt := none
  pendingTarget := none

/-- What is left to wait for another transition in the direction, if anything. -/
def hysteresisRemaining (self : PressureBehaviorState) (direction : BehaviorTransitionDirection)
    (now : Instant) (minInterval : Duration) : Option Duration :=
  if minInterval = 0 then none
  else
    match (match direction with
      | .escalating => self.lastEscalationAt
      | .recovering => self.lastRecoveryAt) with
    | none => none
    | some last =>
        if minInterval ≤ elapsed now last then none else some (minInterval - elapsed now last)

def applyBehaviorTransition (self : PressureBehaviorState) (memoryLevel : MemoryPressureLevel)
    (diskLevel : PressureLevel) (nextMode : BehaviorMode)
    : PressureBehaviorState × BehaviorTransition :=
  ({ self with memoryLevel, diskLevel, mode := nextMode },
    ⟨self.memoryLevel, memoryLevel, self.diskLevel, diskLevel, self.mode, nextMode⟩)

def recordTransitionDirection (self : PressureBehaviorState)
    (direction : BehaviorTransitionDirection) (now : Instant) : PressureBehaviorState :=
  match direction with
  | .escalating => { self with lastEscalationAt := some now }
  | .recovering => { self with lastRecoveryAt := some now }

def dropStaleTarget (self : PressureBehaviorState) (target : PendingBehaviorTarget)
    : PressureBehaviorState :=
  match self.pendingTarget with
  | some pending => if pending ≠ target then { self with pendingTarget := none } else self
  | none => self

def updateWithHysteresis (self : PressureBehaviorState) (memoryLevel : MemoryPressureLevel)
    (diskLevel : PressureLevel) (now : Instant) (minInterval : Duration)
    : PressureBehaviorState × BehaviorUpdate :=
  let nextMode := self.table.modeFor memoryLevel diskLevel
  if self.memoryLevel = memoryLevel ∧ self.diskLevel = diskLevel ∧ self.mode = nextMode then
    ({ self with pendingTarget := none }, .unchanged)
  else
    let state := self.dropStaleTarget ⟨memoryLevel, diskLevel, nextMode⟩
    match transitionDirection state.memoryLevel memoryLevel state.diskLevel diskLevel with
    | none =>
        let applied := state.applyBehaviorTransition memoryLevel diskLevel nextMode
        ({ applied.1 with pendingTarget := none }, .applied applied.2)
    | some direction =>
        match state.hysteresisRemaining direction now minInterval with
        | some remaining =>
            ({ state with pendingTarget := some ⟨memoryLevel, diskLevel, nextMode⟩ },
              .deferred direction remaining)
        | none =>
            let applied := state.applyBehaviorTransition memoryLevel diskLevel nextMode
            ({ applied.1.recordTransitionDirection direction now with pendingTarget := none },
              .applied applied.2)

end PressureBehaviorState

/-- A memory event is delivered with the disk level of the moment; a disk tick brings the
memory level the state already has.
-/
inductive BehaviorCall where
  | memoryEvent (memoryLevel : MemoryPressureLevel) (diskLevel : PressureLevel)
  | diskTick (diskLevel : PressureLevel)
deriving DecidableEq, Repr

structure TimedBehaviorCall where
  now : Instant
  call : BehaviorCall
deriving DecidableEq, Repr

namespace PressureBehaviorState

def seeded (sample : Option MemoryPressureLevel) (diskLevel : PressureLevel) (now : Instant)
    : PressureBehaviorState × BehaviorUpdate :=
  (new .unknown .green).updateWithHysteresis (sample.getD .unknown) diskLevel now 0

/-- `update_behavior_mode`, by either source. -/
def updateBehaviorMode (hysteresis : Duration) (self : PressureBehaviorState)
    (timed : TimedBehaviorCall) : PressureBehaviorState × BehaviorUpdate :=
  match timed.call with
  | .memoryEvent memoryLevel diskLevel =>
      self.updateWithHysteresis memoryLevel diskLevel timed.now hysteresis
  | .diskTick diskLevel =>
      self.updateWithHysteresis self.memoryLevel diskLevel timed.now hysteresis

def step (hysteresis : Duration) (self : PressureBehaviorState) (timed : TimedBehaviorCall)
    : PressureBehaviorState :=
  (self.updateBehaviorMode hysteresis timed).1

end PressureBehaviorState

end StorageBallast
