import Mathlib.Algebra.GroupWithZero.Nat
import StorageBallast.Daemon.EventDrivenScan
import StorageBallast.Scanner.DeletionExecutor

/-! One pass of the scanner loop as far as its pacing depends on it: the cooldown before a pass,
the candidates it hands to the executor, the ways in which it ends, and what the loop
remembers of it.
-/

namespace StorageBallast

variable {F : Type} [Float64 F]

structure PacedRequest extends RootScanRequest where
  /-- The free percentage of the mount behind the request is known. -/
  hasFreePct : Bool
  /-- The request carries a reloaded configuration. -/
  configUpdate : Bool
deriving DecidableEq, Repr

def terminalIdleEmptyPasses : Nat := 3

def terminalIdlePressuredRescanCap : Duration := Duration.fromMins 5

def emptyPassCooldownActive (lastEmptyPassAt : Option Instant) (now : Instant)
    (cooldown : Duration) (request : PacedRequest) (consecutiveEmptyPasses : Nat) : Bool :=
  if cooldown = 0 then false
  else if request.forceFullScan || request.configUpdate || !request.hasFreePct then false
  else if request.pressureLevel.atLeast .red then
    if consecutiveEmptyPasses < terminalIdleEmptyPasses then false
    else lastEmptyPassAt.any fun last =>
      decide (elapsed now last < min cooldown terminalIdlePressuredRescanCap)
  else lastEmptyPassAt.any fun last => decide (elapsed now last < cooldown)

def effectiveEmptyPassCooldown (baseSecs : UInt64) (consecutiveEmptyPasses : Nat) : Duration :=
  if baseSecs = 0 then 0
  else
    let shift := min (consecutiveEmptyPasses - 1) 5
    .fromSecs (min (baseSecs.toNat * 2 ^ shift) (2 ^ 64 - 1))

/-- What a `try_send` to the executor comes to. -/
inductive SendOutcome where
  | sent
  | full
  | disconnected
deriving DecidableEq, Repr

/-- An entry of the walk that the early dispatch is considered after: a candidate, or one that is
scored and kept.
-/
structure WalkedEntry (F : Type) where
  candidate : Option (CandidacyScore F)
  /-- The time for the next early dispatch has come. -/
  dispatchDue : Bool

inductive WalkEnding where
  | finished
  | timedOut
  | shutdown
deriving DecidableEq, Repr

structure ScanWalk (F : Type) where
  entries : List (WalkedEntry F)
  ending : WalkEnding
  /-- How many batches the time for the final flush suffices for. -/
  flushRounds : Nat

structure ScannerPass (F : Type) where
  request : PacedRequest
  engine : ScannerEngineMode
  minRescanIntervalSecs : UInt64
  dirtyRoots : PathSet
  /-- What `ranked_candidate_scores` gives. -/
  indexedCandidates : List (CandidacyScore F)
  /-- The outcome of each attempt to send a batch. -/
  executor : Nat → SendOutcome
  protectionReady : Bool
  priorityCandidates : List (CandidacyScore F)
  prescanTimedOut : Bool
  prescanShutdown : Bool
  /-- None if the walker could not be started. -/
  walk : Option (ScanWalk F)

/-- The candidates at hand in a pass, with the number handed over and the attempts so far. -/
structure PassProgress (F : Type) where
  scored : List (CandidacyScore F)
  dispatchedThisPass : Nat
  attempts : Nat
  candidateBytesSeen : Nat

/-- Where a pass `continue`s before its end. -/
inductive EarlyExit where
  | indexedTargetReached
  | protectionFailed
  | prescanTimedOut
  | byteTargetReached
  | walkerFailed
deriving DecidableEq, Repr

inductive PassEnd where
  /-- There was nothing to scan. -/
  | noPaths
  /-- The loop is left on the spot. -/
  | threadEnded
  | early (exit : EarlyExit)
  /-- The pass came to the end of the loop's body. -/
  | completed
deriving DecidableEq, Repr

def saturatingBytes (bytes : Nat) : Nat := min bytes (2 ^ 64 - 1)

def totalBytes (candidates : List (CandidacyScore F)) : Nat := (candidates.map (·.sizeBytes)).sum

namespace ScannerPass

variable (pass : ScannerPass F)

def indexEnabled : Bool := pass.engine == .v2

def activeScanPaths : List Location :=
  if pass.indexEnabled then
    (v2ActiveScanPaths pass.request.toRootScanRequest pass.dirtyRoots).getD pass.request.paths
  else pass.request.paths

def candidateByteTarget : Option Nat :=
  if pass.indexEnabled then v2PressureCandidateByteTarget pass.request.toRootScanRequest
  else none

def targetReached (progress : PassProgress F) : Bool :=
  pass.candidateByteTarget.any (· ≤ progress.candidateBytesSeen)

/-- Hand the best candidates over; the answer is whether the executor is still there. A batch that
finds no room goes back to the candidates.
-/
def dispatchTopCandidates (progress : PassProgress F) : PassProgress F × Bool :=
  if progress.scored.isEmpty then (progress, true)
  else if pass.request.maxDeleteBatch = 0 then ({ progress with scored := [] }, true)
  else
    let sorted := progress.scored.insertionSort scoresBefore
    let batch := sorted.take pass.request.maxDeleteBatch
    let overflow := sorted.drop pass.request.maxDeleteBatch
    let tried := { progress with attempts := progress.attempts + 1 }
    match pass.executor progress.attempts with
    | .sent =>
        ({ tried with
            scored := overflow
            dispatchedThisPass := progress.dispatchedThisPass + batch.length }, true)
    | .full => ({ tried with scored := overflow ++ batch }, true)
    | .disconnected => ({ tried with scored := overflow }, false)

def consultsIndex : Bool :=
  pass.indexEnabled && pass.request.pressureLevel.atLeast .orange
    && decide (0 < pass.request.maxDeleteBatch)

def afterIndex : PassProgress F × Bool :=
  if pass.consultsIndex then
    let result := pass.dispatchTopCandidates ⟨pass.indexedCandidates, 0, 0, 0⟩
    let indexedDispatched := pass.indexedCandidates.length - result.1.scored.length
    ({ result.1 with
        scored := []
        candidateBytesSeen :=
          if 0 < indexedDispatched then saturatingBytes (totalBytes pass.indexedCandidates)
          else 0 }, result.2)
  else (⟨[], 0, 0, 0⟩, true)

/-- The dispatch of what the pre-scan found. -/
def afterPrescan : PassProgress F × Bool :=
  let progress := pass.afterIndex.1
  if pass.priorityCandidates.isEmpty || decide (pass.request.maxDeleteBatch = 0) then
    (progress, true)
  else
    let sorted := pass.priorityCandidates.insertionSort scoresBefore
    let priorityDispatchBytes := totalBytes (sorted.take pass.request.maxDeleteBatch)
    let result := pass.dispatchTopCandidates { progress with scored := sorted }
    let dispatchedCount := sorted.length - result.1.scored.length
    ({ result.1 with
        scored := []
        candidateBytesSeen :=
          if 0 < dispatchedCount then
            saturatingBytes (progress.candidateBytesSeen + priorityDispatchBytes)
          else progress.candidateBytesSeen }, result.2)

def earlyDispatchMultiplier : Nat := 4

def take (progress : PassProgress F) (entry : WalkedEntry F) : PassProgress F :=
  match entry.candidate with
  | none => progress
  | some score =>
      { progress with
        scored := progress.scored ++ [score]
        candidateBytesSeen := saturatingBytes (progress.candidateBytesSeen + score.sizeBytes) }

def shouldDispatch (progress : PassProgress F) (entry : WalkedEntry F) : Bool :=
  !progress.scored.isEmpty
    && (decide (max pass.request.maxDeleteBatch 1 * earlyDispatchMultiplier
          ≤ progress.scored.length)
      || entry.dispatchDue)

/-- What the walk comes to: the executor may be gone, and the byte target may have cut the walk
short.
-/
structure WalkResult (F : Type) where
  progress : PassProgress F
  connected : Bool
  cutShort : Bool

def walkEntries : List (WalkedEntry F) → PassProgress F → WalkResult F
  | [], progress => ⟨progress, true, false⟩
  | entry :: rest, progress =>
      let seen := take progress entry
      let sent :=
        if pass.shouldDispatch seen entry then pass.dispatchTopCandidates seen else (seen, true)
      if !sent.2 then ⟨sent.1, false, true⟩
      else if pass.targetReached sent.1 then
        let last := pass.dispatchTopCandidates sent.1
        ⟨last.1, last.2, true⟩
      else walkEntries rest sent.1

/-- Hand over what is left, until the time is up or there is no progress. -/
def flush : Nat → PassProgress F → PassProgress F × Bool
  | 0, progress => (progress, true)
  | rounds + 1, progress =>
      if progress.scored.isEmpty then (progress, true)
      else
        let result := pass.dispatchTopCandidates progress
        if !result.2 then (result.1, false)
        else if progress.scored.length ≤ result.1.scored.length then (result.1, true)
        else flush rounds result.1

def walked (walk : ScanWalk F) : WalkResult F := pass.walkEntries walk.entries pass.afterPrescan.1

def endedBy (walk : ScanWalk F) (ending : WalkEnding) : Bool :=
  !(pass.walked walk).cutShort && walk.ending == ending

def flushed (walk : ScanWalk F) : PassProgress F × Bool :=
  pass.flush (if pass.endedBy walk .shutdown then 0 else walk.flushRounds)
    (pass.walked walk).progress

/-- Where the pass ends, from one `continue` or `break` of the loop's body to the next. -/
def ending : PassEnd :=
  if pass.request.paths.isEmpty then .noPaths
  else if pass.indexEnabled && pass.activeScanPaths.isEmpty then .noPaths
  else if !pass.afterIndex.2 then .threadEnded
  else if pass.consultsIndex && pass.targetReached pass.afterIndex.1 then
    .early .indexedTargetReached
  else if !pass.protectionReady then .early .protectionFailed
  else if pass.prescanShutdown || !pass.afterPrescan.2 then .threadEnded
  else if pass.prescanTimedOut then .early .prescanTimedOut
  else if pass.targetReached pass.afterPrescan.1 then .early .byteTargetReached
  else if pass.walk.isNone then .early .walkerFailed
  else .completed

def dispatchedThisPass : Nat :=
  match pass.ending with
  | .noPaths => 0
  | .threadEnded | .early .indexedTargetReached | .early .protectionFailed =>
      pass.afterIndex.1.dispatchedThisPass
  | .early _ => pass.afterPrescan.1.dispatchedThisPass
  | .completed =>
      match pass.walk with
      | some walk => (pass.flushed walk).1.dispatchedThisPass
      | none => pass.afterPrescan.1.dispatchedThisPass

def scanTimedOut : Bool := pass.walk.any fun walk => pass.endedBy walk .timedOut

def scannerShouldExit : Bool :=
  pass.walk.any fun walk =>
    !(pass.walked walk).connected || pass.endedBy walk .shutdown || !(pass.flushed walk).2

def startedWalking : Bool :=
  match pass.ending with
  | .noPaths | .threadEnded | .early .indexedTargetReached | .early .protectionFailed => false
  | .early _ | .completed => true

def routine : Bool :=
  !pass.request.forceFullScan && !pass.request.configUpdate && pass.request.hasFreePct
    && !pass.request.pressureLevel.atLeast .red

end ScannerPass

/-- What the loop remembers of its passes. -/
structure ScanPacing where
  lastEmptyPassAt : Option Instant
  consecutiveEmptyPasses : Nat
deriving DecidableEq, Repr

namespace ScanPacing

def reset : ScanPacing := ⟨none, 0⟩

/-- The accounting at the end of the loop's body. -/
def afterPass (self : ScanPacing) (dispatchedThisPass : Nat) (scanTimedOut : Bool)
    (now : Instant) : ScanPacing :=
  if dispatchedThisPass = 0 then
    { consecutiveEmptyPasses :=
        if !scanTimedOut then min (self.consecutiveEmptyPasses + 1) (2 ^ 32 - 1)
        else self.consecutiveEmptyPasses
      lastEmptyPassAt := some now }
  else reset

def holdsBack (self : ScanPacing) (pass : ScannerPass F) (now : Instant) : Bool :=
  emptyPassCooldownActive self.lastEmptyPassAt now
    (effectiveEmptyPassCooldown pass.minRescanIntervalSecs self.consecutiveEmptyPasses)
    pass.request self.consecutiveEmptyPasses

end ScanPacing

structure PassRecord where
  routine : Bool
  startedWalking : Bool
  dispatched : Nat
  minRescanInterval : Duration
  began : Instant
  ended : Instant
  pacing : ScanPacing
deriving DecidableEq, Repr

/-- The loop, with a record of its passes, the latest one first. -/
structure PacedScan where
  now : Instant
  pacing : ScanPacing
  running : Bool
  passes : List PassRecord

structure PacedPass (F : Type) where
  waited : Duration
  pass : ScannerPass F
  took : Duration

namespace PacedScan

def start : PacedScan := ⟨0, .reset, true, []⟩

def began (self : PacedScan) (input : PacedPass F) : Instant := self.now + input.waited

def ended (self : PacedScan) (input : PacedPass F) : Instant :=
  self.began input + input.took + 1

def runsPass (self : PacedScan) (input : PacedPass F) : Bool :=
  self.running && !self.pacing.holdsBack input.pass (self.began input)

def pacingAfter (self : PacedScan) (input : PacedPass F) : ScanPacing :=
  match input.pass.ending with
  | .completed =>
      self.pacing.afterPass input.pass.dispatchedThisPass input.pass.scanTimedOut
        (self.ended input)
  | _ => self.pacing

def record (self : PacedScan) (input : PacedPass F) : PassRecord where
  routine := input.pass.routine
  startedWalking := input.pass.startedWalking
  dispatched := input.pass.dispatchedThisPass
  minRescanInterval := .fromSecs input.pass.minRescanIntervalSecs.toNat
  began := self.began input
  ended := self.ended input
  pacing := self.pacingAfter input

/-- A thread that ends on the spot remembers nothing. -/
def step (self : PacedScan) (input : PacedPass F) : PacedScan :=
  if self.runsPass input then
    { now := self.ended input
      pacing := self.pacingAfter input
      running := input.pass.ending != .threadEnded
        && !(input.pass.ending == .completed && input.pass.scannerShouldExit)
      passes :=
        if input.pass.ending = .threadEnded then self.passes
        else self.record input :: self.passes }
  else { self with now := self.began input }

end PacedScan

end StorageBallast
