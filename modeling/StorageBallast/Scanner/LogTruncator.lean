import StorageBallast.Foundations.Floats
import StorageBallast.Foundations.LinkedFiles
import StorageBallast.Foundations.Texts
import StorageBallast.Foundations.StarGlobs

/-! Active append-only log truncation. Patterns are expanded over the file tree, and what they
name is cut to nothing in place if it passes the gates. The wrapping arithmetic is that of a
release build. A sweep reads the clock once here.
-/

namespace StorageBallast.LogTruncator

abbrev OsName := List UInt8

abbrev OsPath := List OsName

def parentDirName : OsName := [46, 46]

def wildcard : UInt8 := 42

structure LogTruncationConfig where
  enabled : Bool
  paths : List String
  minSizeBytes : UInt64
  pressureFreePctCeiling : UInt8
  minAgeMinutes : UInt64
deriving DecidableEq, Repr

def LogTruncationConfig.default : LogTruncationConfig where
  enabled := false
  paths := [
    "/home/*/.codex/log/codex-tui.log",
    "/root/.codex/log/codex-tui.log",
    "/home/*/.codex/log/*.log"
  ]
  minSizeBytes := 1073741824
  pressureFreePctCeiling := 15
  minAgeMinutes := 60

/-- Safety reason for a matched log file that was not truncated. -/
inductive SkipReason where
  | notARegularFile
  | belowMinSize
  | youngerThanMinAge
  | symlinkRejected
deriving DecidableEq, Repr

structure LogTruncationReport where
  filesTruncated : Nat
  filesWouldTruncate : Nat
  filesSkipped : Nat
  bytesReclaimed : UInt64
  bytesWouldReclaim : UInt64
  /-- At a pattern as it is configured, or at a path. -/
  errors : List ((String ⊕ OsPath) × String)
  dryRun : Bool
  skippedWithReason : List (OsPath × SkipReason)
deriving DecidableEq, Repr

inductive TruncationOutcome where
  | truncated (bytes : UInt64)
  | wouldTruncate (bytes : UInt64)
  | skipped (reason : SkipReason)
deriving DecidableEq, Repr

/-- What the operating system refuses, and what it says then. -/
structure TruncationFaults where
  message : OsPath → String
  opens : OsPath → Option String
  metadata : OsPath → Option String
  setLen : OsPath → Option String

abbrev LogTree := FileTree OsName

/-- Where a sweep is: the files as it has left them, its report so far, and which files it has
cut by which paths.
-/
structure TruncationSweep where
  tree : LogTree
  report : LogTruncationReport
  cuts : List (OsPath × Nat)

def segmentMatches (pattern name : List UInt8) : Bool :=
  if name.head? = some 46 ∧ pattern.head? ≠ some 46 then false
  else StarGlobs.globMatch wildcard pattern name

/-- The paths that segments name below a prefix. -/
def expandRecursive (tree : LogTree) : OsPath → List (List UInt8) → List OsPath
  | prefix_, [] => [prefix_]
  | prefix_, segment :: segments =>
      if wildcard ∈ segment then
        match tree.readDir parentDirName prefix_ with
        | none => []
        | some names =>
            names.flatMap fun name =>
              if segmentMatches segment (LossyText.toStringLossy name) then
                expandRecursive tree (prefix_ ++ [name]) segments
              else []
      else
        match tree.lstat parentDirName (prefix_ ++ [segment]) with
        | none => []
        | some _ => expandRecursive tree (prefix_ ++ [segment]) segments

/-- Split bytes at every separator, keeping empty pieces. -/
def splitAtSlashes : List UInt8 → List (List UInt8)
  | [] => [[]]
  | byte :: rest =>
      if byte = 47 then [] :: splitAtSlashes rest
      else
        match splitAtSlashes rest with
        | [] => [[byte]]
        | piece :: pieces => (byte :: piece) :: pieces

def patternSegments (pattern : String) : List (List UInt8) :=
  ((splitAtSlashes (Texts.bytes pattern)).filter fun piece =>
    !(piece.isEmpty || piece == [46])).map LossyText.toStringLossy

def onlyAbsolute : String := "only absolute patterns are supported"

/-- Expand a pattern with literal `*` wildcards by walking the tree. -/
def expandPattern (tree : LogTree) (pattern : String) : Except String (List OsPath) :=
  if (Texts.bytes pattern).head? = some 47 then
    .ok (expandRecursive tree [] (patternSegments pattern))
  else .error onlyAbsolute

/-- The file has been modified for less than the minimum age. A time that lies ahead has no
elapsed time.
-/
def youngerThan (now modified : SystemTime) (minAgeMinutes : UInt64) : Bool :=
  decide (modified ≤ now)
    && decide ((now - modified).toNat < Duration.fromSecs (minAgeMinutes * 60).toNat)

/-- `O_NOFOLLOW` refuses a link at the end of the path. -/
def openCandidateForTruncate (tree : LogTree) (faults : TruncationFaults) (path : OsPath)
    : Except String Nat :=
  match faults.opens path, tree.lstat parentDirName path with
  | some message, _ => .error message
  | none, none => .error (faults.message path)
  | none, some inode =>
      match tree.node inode with
      | .file _ _ => .ok inode
      | .special => .ok inode
      | .directory _ _ _ _ => .error (faults.message path)
      | .symlink _ _ => .error (faults.message path)

def isFile : FileNode OsName → Bool
  | .file _ _ => true
  | .special => false
  | .directory _ _ _ _ => false
  | .symlink _ _ => false

def notRegularMessage : String := "opened path is not a regular file"

def cutOpened (tree : LogTree) (faults : TruncationFaults) (path : OsPath) (size : UInt64)
    (opened : Nat) : Except String TruncationOutcome × Option Nat :=
  match faults.metadata path with
  | some message => (.error message, none)
  | none =>
      if isFile (tree.node opened) then
        match faults.setLen path with
        | some message => (.error message, none)
        | none => (.ok (.truncated size), some opened)
      else (.error notRegularMessage, none)

def processCandidate (tree : LogTree) (faults : TruncationFaults) (now : SystemTime)
    (path : OsPath) (config : LogTruncationConfig) (bypassAgeGate dryRun : Bool)
    : Except String TruncationOutcome × Option Nat :=
  match tree.lstat parentDirName path with
  | none => (.error (faults.message path), none)
  | some inode =>
      match tree.node inode with
      | .symlink _ _ => (.ok (.skipped .symlinkRejected), none)
      | .directory _ _ _ _ => (.ok (.skipped .notARegularFile), none)
      | .special => (.ok (.skipped .notARegularFile), none)
      | .file size modified =>
          if size < config.minSizeBytes then (.ok (.skipped .belowMinSize), none)
          else if !bypassAgeGate && 0 < config.minAgeMinutes
              && youngerThan now modified config.minAgeMinutes then
            (.ok (.skipped .youngerThanMinAge), none)
          else if dryRun then (.ok (.wouldTruncate size), none)
          else
            match openCandidateForTruncate tree faults path with
            | .error message => (.error message, none)
            | .ok opened => cutOpened tree faults path size opened

namespace LogTruncationReport

def empty (dryRun : Bool) : LogTruncationReport := ⟨0, 0, 0, 0, 0, [], dryRun, []⟩

/-- What became of a candidate. -/
def note (report : LogTruncationReport) (path : OsPath)
    : Except String TruncationOutcome → LogTruncationReport
  | .ok (.truncated bytes) =>
      { report with
        filesTruncated := report.filesTruncated + 1
        bytesReclaimed := report.bytesReclaimed + bytes }
  | .ok (.wouldTruncate bytes) =>
      { report with
        filesWouldTruncate := report.filesWouldTruncate + 1
        bytesWouldReclaim := report.bytesWouldReclaim + bytes }
  | .ok (.skipped reason) =>
      { report with
        filesSkipped := report.filesSkipped + 1
        skippedWithReason := report.skippedWithReason ++ [(path, reason)] }
  | .error message =>
      { report with
        errors := report.errors ++ [(.inr path, message)]
        filesSkipped := report.filesSkipped + 1 }

end LogTruncationReport

section Sweep

variable (faults : TruncationFaults) (now : SystemTime) (config : LogTruncationConfig)
  (bypassAgeGate dryRun : Bool)

def TruncationSweep.candidate (sweep : TruncationSweep) (path : OsPath) : TruncationSweep :=
  let (outcome, cut) := processCandidate sweep.tree faults now path config bypassAgeGate dryRun
  let report := sweep.report.note path outcome
  match cut with
  | none => { sweep with report }
  | some inode => ⟨sweep.tree.truncate inode now, report, sweep.cuts ++ [(path, inode)]⟩

def TruncationSweep.pattern (sweep : TruncationSweep) (pattern : String) : TruncationSweep :=
  match expandPattern sweep.tree pattern with
  | .error message =>
      { sweep with
        report := { sweep.report with
          errors := sweep.report.errors ++ [(.inl pattern, "expand failed: " ++ message)] } }
  | .ok paths =>
      paths.foldl (TruncationSweep.candidate faults now config bypassAgeGate dryRun) sweep

def bypassesAgeGate {F : Type} [Float64 F] (config : LogTruncationConfig) (freePct : F)
    : Bool :=
  Float64.le freePct (Float64.ofNat config.pressureFreePctCeiling.toNat)
    || config.minAgeMinutes == 0

def truncateOversizedLogs {F : Type} [Float64 F] (tree : LogTree) (freePct : F)
    : TruncationSweep :=
  if config.enabled then
    config.paths.foldl
      (TruncationSweep.pattern faults now config (bypassesAgeGate config freePct) dryRun)
      ⟨tree, .empty dryRun, []⟩
  else ⟨tree, .empty dryRun, []⟩

end Sweep

end StorageBallast.LogTruncator
