import Mathlib.Data.List.Sort
import Mathlib.Algebra.GroupWithZero.Nat
import Std.Data.TreeMap.Basic
import StorageBallast.Scanner.DeletionChecks

/-! The deletion executor: planning a batch and going through it.
Each call of a batch has a moment of its own, so that the file system may change in any way
between two of them.
-/

namespace StorageBallast

variable {F : Type}

structure DeletionPlan (F : Type) where
  candidates : List (CandidacyScore F)
  totalReclaimableBytes : Nat
  estimatedItems : Nat

structure DeletionError where
  path : PathBuf
  error : String
  errorCode : String
  recoverable : Bool
deriving DecidableEq, Repr

structure DeletionReport (F : Type) where
  itemsDeleted : Nat
  itemsFailed : Nat
  itemsSkipped : Nat
  itemsWouldDelete : Nat
  bytesFreed : Nat
  bytesWouldFree : Nat
  errors : List DeletionError
  dryRun : Bool
  circuitBreakerTripped : Bool
  deletedPaths : List PathBuf
  notWritablePaths : List PathBuf
  backoffCandidates : List (CandidacyScore F)
  skippedByReason : Std.TreeMap String Nat

namespace DeletionReport

def empty (dryRun : Bool) : DeletionReport F where
  itemsDeleted := 0
  itemsFailed := 0
  itemsSkipped := 0
  itemsWouldDelete := 0
  bytesFreed := 0
  bytesWouldFree := 0
  errors := []
  dryRun
  circuitBreakerTripped := false
  deletedPaths := []
  notWritablePaths := []
  backoffCandidates := []
  skippedByReason := ∅

def recordSkip (self : DeletionReport F) (reason : SkipReason) : DeletionReport F :=
  { self with
    itemsSkipped := self.itemsSkipped + 1
    skippedByReason :=
      self.skippedByReason.insert reason.asStr (self.skippedByReason.getD reason.asStr 0 + 1) }

end DeletionReport

def scoresBefore [Float64 F] (left right : CandidacyScore F) : Prop :=
  ((Float64.partialCmp right.totalScore left.totalScore).getD .eq).isLE

instance [Float64 F] : DecidableRel (@scoresBefore F _) :=
  fun left right => by
    unfold scoresBefore
    infer_instance

/-- Only candidates to delete that are not vetoed and score enough, best score first. -/
def DeletionConfig.plan [Float64 F] (config : DeletionConfig F)
    (candidates : List (CandidacyScore F)) : DeletionPlan F :=
  let kept := candidates.filter fun candidate =>
    candidate.decision.action == .delete && !candidate.vetoed
      && Float64.ge candidate.totalScore config.minScore
  { candidates := kept.insertionSort scoresBefore
    totalReclaimableBytes := (kept.map (·.sizeBytes)).sum
    estimatedItems := kept.length }

def CandidateCall.index : CandidateCall → Nat
  | targetFree => 0
  | metadata => 1
  | identity => 2
  | parentAccess => 3
  | nestedGit => 4
  | manifest => 5
  | sources => 6
  | recheck => 7
  | reidentify => 8
  | removal => 9
  | retry => 10
  | confirm => 11

/-- Moment of a call for the candidate at a place of the batch; the scan for open files
comes before all of them.
-/
def momentOf (turn : Nat) (call : CandidateCall) : Nat := 1 + 12 * turn + call.index

def worldsAt (history : Nat → FileWorld) (turn : Nat) (call : CandidateCall) : FileWorld :=
  history (momentOf turn call)

structure Removal (F : Type) where
  candidate : CandidacyScore F
  turn : Nat
  call : CandidateCall

def Removal.moment (removal : Removal F) : Nat := momentOf removal.turn removal.call

/-- Progress of a batch. The removals made so far are noted for the proofs only. -/
structure BatchState (F : Type) where
  report : DeletionReport F
  consecutiveFailures : Nat
  removals : List (Removal F)

namespace BatchState

/-- The dynamic skip check stopped the candidate. The failure streak goes on. -/
def skipTargetReached (state : BatchState F) (candidate : CandidacyScore F)
    : BatchState F :=
  let report := state.report.recordSkip .targetFreeReached
  { state with
    report := { report with
      backoffCandidates := report.backoffCandidates ++ [candidate] } }

/-- The check before deletion refused the candidate. This ends a failure streak. -/
def refuse (state : BatchState F) (candidate : CandidacyScore F) (reason : SkipReason)
    : BatchState F :=
  let report := state.report.recordSkip reason
  { state with
    report := { report with
      notWritablePaths :=
        if reason = .notWritable then report.notWritablePaths ++ [candidate.path]
        else report.notWritablePaths
      backoffCandidates :=
        if shouldBackoffSkip reason then report.backoffCandidates ++ [candidate]
        else report.backoffCandidates }
    consecutiveFailures := 0 }

def countWouldDelete (state : BatchState F) (candidate : CandidacyScore F)
    : BatchState F :=
  { state with
    report := { state.report with
      itemsWouldDelete := state.report.itemsWouldDelete + 1
      bytesWouldFree := state.report.bytesWouldFree + candidate.sizeBytes } }

def countDeleted (state : BatchState F) (candidate : CandidacyScore F) : BatchState F :=
  { state with
    report := { state.report with
      itemsDeleted := state.report.itemsDeleted + 1
      bytesFreed := state.report.bytesFreed + candidate.sizeBytes
      deletedPaths := state.report.deletedPaths ++ [candidate.path] }
    consecutiveFailures := 0 }

def countFailed (state : BatchState F) (candidate : CandidacyScore F) (error : SbhError)
    : BatchState F :=
  { state with
    report := { state.report with
      itemsFailed := state.report.itemsFailed + 1
      errors := state.report.errors
        ++ [⟨candidate.path, error.toString, error.code, error.isRetryable⟩]
      backoffCandidates := state.report.backoffCandidates ++ [candidate] }
    consecutiveFailures := state.consecutiveFailures + 1 }

end BatchState

/-- The circumstances of one batch: its configuration, what the file system answers at each
moment, the dynamic skip check, and the open paths found before it.
-/
structure BatchSetup (F : Type) where
  config : DeletionConfig F
  history : Nat → FileWorld
  shouldSkip : Option (Nat → PathBuf → Bool)

namespace BatchSetup

def removalsOf (setup : BatchSetup F) (candidate : CandidacyScore F) (turn : Nat)
    : List (Removal F) :=
  (deletePath setup.config (worldsAt setup.history turn) candidate).removals.map fun call =>
    ⟨candidate, turn, call⟩

def deleteCandidate (setup : BatchSetup F) (candidate : CandidacyScore F) (turn : Nat)
    (state : BatchState F) : BatchState F :=
  let state := { state with removals := state.removals ++ setup.removalsOf candidate turn }
  match (deletePath setup.config (worldsAt setup.history turn) candidate).outcome with
  | .ok () => state.countDeleted candidate
  | .error error => state.countFailed candidate error

/-- One round of the loop over a batch. -/
def executeCandidate (setup : BatchSetup F) (openPaths : Option (List PathBuf))
    (candidate : CandidacyScore F) (turn : Nat) (state : BatchState F) : BatchState F :=
  if setup.shouldSkip.any fun skip => skip (momentOf turn .targetFree) candidate.path then
    state.skipTargetReached candidate
  else
    match preflightCheck setup.config (worldsAt setup.history turn) candidate openPaths with
    | .error reason => state.refuse candidate reason
    | .ok () =>
        if setup.config.dryRun then state.countWouldDelete candidate
        else setup.deleteCandidate candidate turn state

/-- The loop over a batch. A failure streak stops it in front of the next candidate. -/
def executeLoop (setup : BatchSetup F) (openPaths : Option (List PathBuf))
    : List (CandidacyScore F × Nat) → BatchState F → BatchState F
  | [], state => state
  | (candidate, turn) :: rest, state =>
      if state.consecutiveFailures ≥ setup.config.circuitBreakerThreshold then
        { state with report := { state.report with circuitBreakerTripped := true } }
      else
        setup.executeLoop openPaths rest
          (setup.executeCandidate openPaths candidate turn state)

/-- Without knowing all open files, every candidate of the batch fails. -/
def abortBatch (setup : BatchSetup F) (batch : List (CandidacyScore F)) : BatchState F where
  report := { (DeletionReport.empty setup.config.dryRun : DeletionReport F) with
    itemsFailed := batch.length
    errors := batch.map fun candidate =>
      ⟨candidate.path, "safety check incomplete", "SBH-3003", true⟩
    backoffCandidates := batch }
  consecutiveFailures := 0
  removals := []

/-- Execute a plan, deleting up to `max_batch_size` candidates. -/
def execute (setup : BatchSetup F) (plan : DeletionPlan F) : BatchState F :=
  let limit := min plan.candidates.length setup.config.maxBatchSize
  let batch := plan.candidates.take limit
  let start : BatchState F := ⟨.empty setup.config.dryRun, 0, []⟩
  if setup.config.checkOpenFiles && !setup.config.dryRun then
    let openScan := (setup.history 0).openPathAncestors (batch.map (·.path))
    if openScan.2 then setup.executeLoop (some openScan.1) batch.zipIdx start
    else setup.abortBatch batch
  else setup.executeLoop none batch.zipIdx start

end BatchSetup

end StorageBallast
