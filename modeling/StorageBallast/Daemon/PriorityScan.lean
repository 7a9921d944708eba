import StorageBallast.Daemon.CandidateProtection
import StorageBallast.Monitor.Diagnostics
import StorageBallast.Scanner.CandidateIndex
import StorageBallast.Scanner.Scoring

/-! The priority pre-scan of the daemon: a look at the first three levels below each root for
well-known artifacts, before the walker starts. A deadline or a shutdown only cuts it short.
-/

namespace StorageBallast

variable {F : Type} [Float64 F]

open Collecting

def tempFastTrackMinObservedAge : Duration := Duration.fromMins 2

def isTmpLikeText (path : PathBuf) : Bool :=
  ["/tmp", "/var/tmp", "/data/tmp", "/private/tmp"].any fun root =>
    path.text == root || Texts.startsWith path.text (root ++ "/")

def isNamedInTreeRchTarget (classification : ArtifactClassification F) : Bool :=
  ["rch-target-bare-dot", "rch-target-bare-dot-underscore", "rch-target-bare-hyphen",
    "rch-target-bare-underscore"].contains classification.patternName

def fastTrackCategories : List ArtifactCategory :=
  [.rustTarget, .buildOutput, .cacheDir, .goCache, .agentWorkspace, .tempDir]

def fastTrackPatterns : List String :=
  ["cargo-target-prefix", "target-suffix", "dot-target-prefix", "underscore-target-prefix",
    "frankenterm-prefix", "cargo-home-prefix", "dot-cargo-prefix", "agent-ft-suffix",
    "tmp-cargo-home", "rch-cargo-home", "tmp-codex", "tmp-pijs", "tmp-ext", "pi-agent",
    "pi-target", "pi-opus", "cass-target", "br-build", "rch-target-underscore",
    "rch-target-dot", "rch-target-hyphen", "rch-target-bare-dot",
    "rch-target-bare-dot-underscore", "rch-target-bare-hyphen", "rch-target-bare-underscore",
    "target-codex"]

open Float64 in
def shouldFastTrackTempAge (pressureLevel : PressureLevel) (path : PathBuf)
    (classification : ArtifactClassification F) : Bool :=
  if !pressureLevel.atLeast .orange then false
  else if classification.category = .unknown then false
  else if !isTmpLikeText path && !isNamedInTreeRchTarget classification then false
  else if classification.category = .nodeModules ∨ classification.category = .pythonCache then
    false
  else if fastTrackCategories.contains classification.category then true
  else if Float64.ge classification.nameConfidence 0.85 then true
  else fastTrackPatterns.contains classification.patternName

def adjustedCandidateAge (observedAge : Duration) (minFileAgeMinutes : Nat)
    (pressureLevel : PressureLevel) (path : PathBuf)
    (classification : ArtifactClassification F) : Duration :=
  if !shouldFastTrackTempAge pressureLevel path classification then observedAge
  else if observedAge < tempFastTrackMinObservedAge then observedAge
  else max observedAge (Duration.fromSecs (min (minFileAgeMinutes * 60) (2 ^ 64 - 1)))

structure ScanRequest (F : Type) where
  urgency : F
  pressureLevel : PressureLevel

/-- What the daemon knows about running processes while it scores a path. -/
structure ActiveReferenceEvidence where
  /-- The time left when the path comes up suffices for a probe. -/
  withinBudget : PathBuf → Bool
  openFiles : List PathBuf
  summaryForIdentity : FsIdentity → ActiveReferenceSummary

/-- One pre-scan: the file system, the configuration and the request it is made for. -/
structure PriorityScan (F : Type) where
  world : DaemonWorld
  platform : PlatformContext
  platformSacredPaths : List SacredPath
  config : ScannerConfig
  scoring : ScoringConfig F
  request : ScanRequest F
  activeScanPaths : List PathBuf
  now : SystemTime
  evidence : ActiveReferenceEvidence
  knownGitDirs : List PathBuf
  index : Option (ScannerCandidateIndex F)
  eventGeneration : Nat
  snapshot : PathBuf → RecordSnapshot

/-- What the pre-scan remembers on its way. -/
structure PrescanState where
  registry : ProtectionRegistry
  knownGitDirs : List PathBuf

/-- A candidate of the pre-scan: the record made for it, and whether the index puts it on
hold.
-/
structure Nomination (F : Type) where
  score : CandidacyScore F
  record : Option (CandidateIndexRecord F)
  onHold : Bool

/-- What the pre-scan adds. -/
structure PrescanResult (F : Type) where
  priorityCandidates : List (CandidacyScore F)
  indexRecords : List (CandidateIndexRecord F)

def dirSizeFloor : Nat := 100 * 1048576

def activeReferenceBudgetSkipReason : String :=
  "active-reference scan skipped because scan budget remaining was insufficient"

namespace PriorityScan

variable (scan : PriorityScan F)

def sacredPaths : List SacredPath :=
  scan.platformSacredPaths ++ sacredPathsFromProtectedPatterns scan.config.protectedPaths

def start : PrescanState where
  registry := .new scan.world.protection.toPathEnv scan.config.protectedPaths
  knownGitDirs := scan.knownGitDirs

def engine : ScoringEngine F := .fromConfig scan.scoring scan.config.minFileAgeMinutes

def classify (path : PathBuf) : ArtifactClassification F :=
  ArtifactPatternRegistry.default.classify scan.platform path .default

def isArtifact (path : PathBuf) : Bool := (scan.classify path).category != .unknown

def childPaths (dir : PathBuf) : List PathBuf :=
  ((scan.world.files.readDir dir).getD []).map fun entry => dir.join entry.name

def isGitRepo (state : PrescanState) (path : PathBuf) : Bool :=
  state.knownGitDirs.any path.sameAs || scan.world.files.pathExists (path.join ".git")

def skips (state : PrescanState) (path : PathBuf) : PrescanState × Bool :=
  let checked := shouldSkipProtectedDaemonCandidate scan.world scan.sacredPaths state.registry
    path
  ({ state with registry := checked.1 }, checked.2)

def noteGitRepo (state : PrescanState) (path : PathBuf) : PrescanState :=
  if !state.knownGitDirs.any path.sameAs && scan.world.files.pathExists (path.join ".git") then
    { state with knownGitDirs := state.knownGitDirs ++ [path] }
  else state

/-- A directory below the first level: repositories are passed over, artifacts wait to be
scored, and into anything else the pre-scan may look deeper.
-/
def visitBelow (deeper : PrescanState → PathBuf → PrescanState × List PathBuf)
    (state : PrescanState) (path : PathBuf) : PrescanState × List PathBuf :=
  if !scan.world.files.isDir path then (state, [])
  else
    let checked := scan.skips state path
    let state := checked.1
    if checked.2 then (state, [])
    else if scan.isGitRepo state path then (scan.noteGitRepo state path, [])
    else if scan.isArtifact path then (state, [path])
    else deeper state path

def visitDepth3 : PrescanState → PathBuf → PrescanState × List PathBuf :=
  scan.visitBelow fun state _ => (state, [])

def visitDepth2 : PrescanState → PathBuf → PrescanState × List PathBuf :=
  scan.visitBelow fun state path => collect scan.visitDepth3 state (scan.childPaths path)

def observedAge (path : PathBuf) : Duration :=
  match scan.world.files.metadataForPath path true with
  | .error _ => 0
  | .ok metadata => (metadata.modified.map fun time => (scan.now - time).toNat).getD 0

def observedSize (path : PathBuf) : Nat :=
  let rawSize :=
    match scan.world.files.metadataForPath path true with
    | .error _ => 0
    | .ok metadata => metadata.len
  if scan.world.files.isDir path then max rawSize dirSizeFloor else rawSize

def input (path : PathBuf) : CandidateInput F where
  path
  sizeBytes := scan.observedSize path
  age := adjustedCandidateAge (scan.observedAge path) scan.config.minFileAgeMinutes
    scan.request.pressureLevel path (scan.classify path)
  classification := scan.classify path
  signals := .default
  activeReferences := .default
  isOpen := false
  excluded := false

/-- The input with what is known about processes that use the candidate. -/
def probedInput (path : PathBuf) : CandidateInput F :=
  let input := scan.input path
  if scan.evidence.withinBudget path then
    let references :=
      match identityForPath scan.world.files path scan.config.followSymlinks with
      | .ok identity => scan.evidence.summaryForIdentity identity
      | .error _ => input.activeReferences
    { input with
      activeReferences := references
      isOpen := !references.isEmpty || isPathOpenByAncestor path scan.evidence.openFiles }
  else
    { input with
      activeReferences :=
        input.activeReferences.markIncomplete activeReferenceBudgetSkipReason }

/-- Processes are only looked for while the path is deletable, and large enough. -/
def scoredInput (path : PathBuf) : CandidateInput F :=
  let cheap := scan.engine.scoreCandidate (scan.input path) scan.request.urgency
  if cheap.Deletable
      ∧ shouldProbe scan.config.activeReferenceMinSizeBytes (scan.observedSize path) then
    scan.probedInput path
  else scan.input path

/-- The score of a waiting path, unless its overlaps cannot be found out. -/
def score (path : PathBuf) : Option (CandidacyScore F) :=
  let input := scan.scoredInput path
  let score := scan.engine.scoreCandidate input scan.request.urgency
  if score.Deletable then
    match findSacredOverlaps scan.world.protection path scan.sacredPaths with
    | .error _ => none
    | .ok overlaps =>
        some (scan.engine.scoreCandidateWithSacredOverlaps input scan.request.urgency overlaps)
  else some score

def indexRecord (score : CandidacyScore F) : Option (CandidateIndexRecord F) :=
  if scan.config.engine = .v2 then
    match CandidateIndexRecord.fromCandidateScore score none scan.eventGeneration
        (scan.snapshot score.path) with
    | .ok record => record
    | .error _ => none
  else none

def nominate (score : CandidacyScore F) : Nomination F :=
  let score := { score with
    identity :=
      (identityForPath scan.world.files score.path scan.config.followSymlinks).toOption }
  let record := scan.indexRecord score
  { score
    record
    onHold := record.any fun record =>
      scan.index.any fun index => index.candidateInCooldown record scan.now }

/-- The protection check and the classification are made again for a path that waited. -/
def scorePath (state : PrescanState) (path : PathBuf)
    : PrescanState × List (Nomination F) :=
  let checked := scan.skips state path
  let state := checked.1
  if checked.2 || !scan.isArtifact path then (state, [])
  else
    match scan.score path with
    | none => (state, [])
    | some score =>
        if score.decision.action = .delete then (state, [scan.nominate score]) else (state, [])

/-- A directory of the first level. A repository is no candidate itself, but what lies in it
may be.
-/
def visitDepth1 (state : PrescanState) (path : PathBuf)
    : PrescanState × List (Nomination F) :=
  if !scan.world.files.isDir path then (state, [])
  else
    let checked := scan.skips state path
    let state := checked.1
    if checked.2 then (state, [])
    else
      let isGitRepo := scan.isGitRepo state path
      let itself := if !isGitRepo && scan.isArtifact path then [path] else []
      let below :=
        collect scan.visitDepth2 (scan.noteGitRepo state path) (scan.childPaths path)
      collect scan.scorePath below.1 (itself ++ below.2)

def visitRoot (state : PrescanState) (root : PathBuf) : PrescanState × List (Nomination F) :=
  collect scan.visitDepth1 state (scan.childPaths root)

def nominations : List (Nomination F) :=
  (collect scan.visitRoot scan.start scan.activeScanPaths).2

def run : PrescanResult F where
  priorityCandidates := (scan.nominations.filter (!·.onHold)).map (·.score)
  indexRecords := scan.nominations.filterMap (·.record)

/-- The walker that the same pass starts after the pre-scan. -/
def walker (isProtected : PathBuf → Bool) : DirectoryWalker where
  config := {
    rootPaths := scan.activeScanPaths
    maxDepth := scan.config.maxDepth
    followSymlinks := scan.config.followSymlinks
    crossDevices := scan.config.crossDevices
    excludedPaths := scan.config.excludedPaths
    opaquePruning := scan.config.engine.opaquePruning
  }
  world := scan.world.files
  isProtected

end PriorityScan

end StorageBallast
