import StorageBallast.Core.Config
import StorageBallast.Scanner.DeletionExecutor

/-! The interactive cleanup commands: they ask about each candidate of a plan and delete it
themselves, without the deletion executor. Other processes act while the operator thinks and
between any two calls.
-/

namespace StorageBallast

variable {F : Type}

/-- The part of the program's configuration that the cleanup commands build a deletion
configuration from.
-/
structure CleanupSettings (F : Type) where
  maxDeleteBatch : Nat
  engine : ScannerEngineMode
  minScore : F

structure CleanArgs (F : Type) where
  targetFree : Option F
  minScore : F
  maxItems : Option Nat
  dryRun : Bool

structure EmergencyArgs (F : Type) where
  targetFree : F

def cleanDeletionConfig [Float64 F] (settings : CleanupSettings F) (args : CleanArgs F)
    : DeletionConfig F :=
  { (DeletionConfig.default : DeletionConfig F) with
    maxBatchSize := args.maxItems.getD settings.maxDeleteBatch
    dryRun := args.dryRun
    minScore := args.minScore
    checkOpenFiles := true
    requireIdentity := settings.engine == .v2 }

/-- Neither a batch limit nor, in effect, a circuit breaker. -/
def emergencyDeletionConfig [Float64 F] (settings : CleanupSettings F) : DeletionConfig F :=
  { (DeletionConfig.default : DeletionConfig F) with
    maxBatchSize := 2 ^ 64 - 1
    dryRun := false
    minScore := settings.minScore
    checkOpenFiles := true
    requireIdentity := settings.engine == .v2
    circuitBreakerThreshold := 2 ^ 32 - 1 }

inductive Answer where
  | yes
  | all
  | skipRest
  | quit
  | no
deriving DecidableEq, Repr

/-- The meaning of a line the operator typed. -/
def Answer.read (line : String) : Answer :=
  let text := Texts.toLowercase (Texts.trim line)
  if text = "y" ∨ text = "yes" then .yes
  else if text = "a" ∨ text = "all" then .all
  else if text = "s" ∨ text = "skip" then .skipRest
  else if text = "q" ∨ text = "quit" then .quit
  else .no

/-- What happens around the program while it handles one candidate. -/
structure Turn (F : Type) where
  /-- Free percentage of the candidate's mount, if it can be read. -/
  freePct : Option F
  /-- The line typed at the prompt, if reading one works. -/
  line : Option String
  atOpenCheck : FileWorld
  atProbe : FileWorld
  atRemoval : FileWorld

structure InteractiveSkips where
  total : Nat
  byReason : Std.TreeMap String Nat

def InteractiveSkips.record (skips : InteractiveSkips) (reason : SkipReason)
    : InteractiveSkips where
  total := skips.total + 1
  byReason := skips.byReason.insert reason.asStr (skips.byReason.getD reason.asStr 0 + 1)

/-- Progress of an interactive command. The paths removed so far are noted with the world
they were removed in, for the proofs only.
-/
structure InteractiveState (F : Type) where
  deleteAll : Bool
  stopped : Bool
  itemsDeleted : Nat
  bytesFreed : Nat
  skips : InteractiveSkips
  removed : List (CandidacyScore F × FileWorld)

namespace InteractiveState

def start : InteractiveState F where
  deleteAll := false
  stopped := false
  itemsDeleted := 0
  bytesFreed := 0
  skips := ⟨0, ∅⟩
  removed := []

def skip (state : InteractiveState F) (reason : SkipReason) : InteractiveState F :=
  { state with skips := state.skips.record reason }

def stop (state : InteractiveState F) : InteractiveState F := { state with stopped := true }

def answer (state : InteractiveState F) (turn : Turn F) : Option Answer :=
  if state.deleteAll then some .all else turn.line.map Answer.read

end InteractiveState

def deleteSingleCandidate (turn : Turn F) (candidate : CandidacyScore F)
    : Except IoError Unit :=
  if turn.atProbe.isDir candidate.path then turn.atRemoval.removeDirAll candidate.path
  else turn.atRemoval.removeFile candidate.path

def InteractiveState.delete (state : InteractiveState F) (turn : Turn F)
    (candidate : CandidacyScore F) : InteractiveState F :=
  match deleteSingleCandidate turn candidate with
  | .ok () =>
      { state with
        itemsDeleted := state.itemsDeleted + 1
        bytesFreed := state.bytesFreed + candidate.sizeBytes
        removed := state.removed ++ [(candidate, turn.atRemoval)] }
  | .error _ => state

def reaches [Float64 F] (turn : Turn F) (target : F) : Bool :=
  turn.freePct.any fun free => Float64.ge free target

/-- The candidate is in use right before its deletion. Whether the scan for open files was
complete is not looked at.
-/
def nowInUse (turn : Turn F) (candidate : CandidacyScore F) : Bool :=
  isPathOpenByAncestor candidate.path
    (turn.atOpenCheck.openPathAncestors [candidate.path]).1

/-- One round of `run_interactive_clean`. -/
def interactiveCleanStep [Float64 F] (args : CleanArgs F) (state : InteractiveState F)
    (input : CandidacyScore F × Turn F) : InteractiveState F :=
  let (candidate, turn) := input
  if state.stopped then state
  else if args.targetFree.any (reaches turn) then state.skip .targetFreeReached
  else
    match state.answer turn with
    | none | some .skipRest | some .quit => state.stop
    | some .no => state.skip .userDeclined
    | some .yes =>
        if nowInUse turn candidate then state.skip .fileOpen else state.delete turn candidate
    | some .all =>
        let state := { state with deleteAll := true }
        if nowInUse turn candidate then state.skip .fileOpen else state.delete turn candidate

/-- One round of `run_interactive_emergency`. -/
def interactiveEmergencyStep [Float64 F] (args : EmergencyArgs F)
    (state : InteractiveState F) (input : CandidacyScore F × Turn F) : InteractiveState F :=
  let (candidate, turn) := input
  if state.stopped then state
  else if reaches turn args.targetFree then state.stop
  else
    match state.answer turn with
    | none | some .skipRest | some .quit => state.stop
    | some .no => state.skip .userDeclined
    | some .yes => state.delete turn candidate
    | some .all => { state with deleteAll := true }.delete turn candidate

end StorageBallast
