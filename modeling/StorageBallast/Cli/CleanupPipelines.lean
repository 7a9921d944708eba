import StorageBallast.Cli.InteractiveCleanup
import StorageBallast.Scanner.Scoring
import StorageBallast.Scanner.Walker

/-! The commands that walk, classify and score: `scan` reports candidates, `clean` and
`emergency` plan deletions.
-/

namespace StorageBallast

variable {F : Type} [Float64 F]

open scoped Float64

structure Config (F : Type) where
  scanner : ScannerConfig
  scoring : ScoringConfig F

def Config.default : Config F := ⟨.default, .default⟩

def Config.cleanupSettings (config : Config F) : CleanupSettings F where
  maxDeleteBatch := config.scanner.maxDeleteBatch
  engine := config.scanner.engine
  minScore := config.scoring.minScore

structure ScanArgs (F : Type) where
  minScore : F
  top : Nat
  explain : Bool

structure CommandWorld where
  files : TreeWorld
  protection : ProtectionWorld
  platform : PlatformContext
  platformSacredPaths : List SacredPath
  now : SystemTime
  openPaths : List PathBuf
  summaryForIdentity : FsIdentity → ActiveReferenceSummary

/-- A command over canonical roots. The registries of patterns and of protected paths are
what the command builds from its configuration.
-/
structure CommandSetup (F : Type) where
  world : CommandWorld
  config : Config F
  registry : ArtifactPatternRegistry F
  rootPaths : List PathBuf
  isProtected : PathBuf → Bool

namespace CommandSetup

variable (setup : CommandSetup F)

def sacredPaths : List SacredPath :=
  setup.world.platformSacredPaths
    ++ sacredPathsFromProtectedPatterns setup.config.scanner.protectedPaths

def walker : DirectoryWalker where
  config := {
    rootPaths := setup.rootPaths
    maxDepth := setup.config.scanner.maxDepth
    followSymlinks := setup.config.scanner.followSymlinks
    crossDevices := setup.config.scanner.crossDevices
    excludedPaths := setup.config.scanner.excludedPaths
    opaquePruning := setup.config.scanner.engine.opaquePruning
  }
  world := setup.world.files
  isProtected := setup.isProtected

def walk : Except SbhError (List (WalkEntry F)) := setup.walker.walk

def registryClassification (entry : WalkEntry F) : ArtifactClassification F :=
  setup.registry.classify setup.world.platform entry.path entry.structuralSignals

/-- The classification that `scan` and the daemon give an entry, if they take it up. -/
def scanClassification (entry : WalkEntry F) : Option (ArtifactClassification F) :=
  match entry.opaqueTree with
  | none => some (setup.registryClassification entry)
  | some opaqueTree =>
      match opaqueTree.disposition with
      | .candidateOpaque => some opaqueTree.classification
      | .signalOnly | .protectedOpaque => none

def candidateInput (entry : WalkEntry F) (classification : ArtifactClassification F)
    : CandidateInput F where
  path := entry.path
  sizeBytes := entry.metadata.contentSizeBytes
  age := (setup.world.now - entry.metadata.effectiveAgeTimestamp).toNat
  classification
  signals := entry.structuralSignals
  activeReferences := .default
  isOpen := false
  excluded := false

def probes (entry : WalkEntry F) : Bool :=
  shouldProbe setup.config.scanner.activeReferenceMinSizeBytes entry.metadata.contentSizeBytes

def openStatusForCandidate (entry : WalkEntry F) : Bool :=
  setup.probes entry && isPathOpenByAncestor entry.path setup.world.openPaths

def activeReferencesForCandidate (entry : WalkEntry F) : ActiveReferenceSummary :=
  if setup.probes entry then setup.world.summaryForIdentity entry.metadata.identity
  else .default

def referencedInput (entry : WalkEntry F) (classification : ArtifactClassification F)
    : CandidateInput F :=
  { setup.candidateInput entry classification with
    isOpen := setup.openStatusForCandidate entry
    activeReferences := setup.activeReferencesForCandidate entry }

def passes (minScore : F) (score : CandidacyScore F) : Bool :=
  !score.vetoed && Float64.ge score.totalScore minScore

def scoreCandidateWithDeferredSacredCheck (engine : ScoringEngine F)
    (input : CandidateInput F) (urgency : F) (shouldCheck : CandidacyScore F → Bool)
    : CandidacyScore F :=
  let baseScore := engine.scoreCandidate input urgency
  if !shouldCheck baseScore then baseScore
  else
    match findSacredOverlaps setup.world.protection input.path setup.sacredPaths with
    | .ok overlaps => engine.scoreCandidateWithSacredOverlaps input urgency overlaps
    | .error error =>
        engine.hardVeto input ("sacred overlap check failed: " ++ error.toSbhError.toString)

def engine : ScoringEngine F :=
  .fromConfig setup.config.scoring setup.config.scanner.minFileAgeMinutes

/-- The score `scan` gives an entry. Processes and overlaps are only looked for if they are
to be explained.
-/
def scanScore (args : ScanArgs F) (entry : WalkEntry F) : Option (CandidacyScore F) :=
  (setup.scanClassification entry).map fun classification =>
    let candidate := setup.candidateInput entry classification
    let cheapScore := setup.engine.scoreCandidate candidate 0.0
    let candidate :=
      if args.explain && passes args.minScore cheapScore then
        setup.referencedInput entry classification
      else candidate
    { setup.scoreCandidateWithDeferredSacredCheck setup.engine candidate 0.0
        (fun _ => args.explain) with
      identity := some entry.metadata.identity }

/-- The candidates `scan` finds, best score first. -/
def scanCandidates (args : ScanArgs F) (entries : List (WalkEntry F))
    : List (CandidacyScore F) :=
  ((entries.filterMap (setup.scanScore args)).filter (passes args.minScore)).insertionSort
    scoresBefore

/-- The candidates `scan` reports. -/
def scanReport (args : ScanArgs F) (entries : List (WalkEntry F))
    : List (CandidacyScore F) :=
  (setup.scanCandidates args entries).take args.top

/-- The score both deletion commands give an entry, whatever the walker made of it. -/
def reclaimScore (engine : ScoringEngine F) (urgency minScore : F) (entry : WalkEntry F)
    : CandidacyScore F :=
  let classification := setup.registryClassification entry
  let candidate := setup.candidateInput entry classification
  let cheapScore := engine.scoreCandidate candidate urgency
  let candidate :=
    if passes minScore cheapScore then setup.referencedInput entry classification
    else candidate
  { setup.scoreCandidateWithDeferredSacredCheck engine candidate urgency (passes minScore) with
    identity := some entry.metadata.identity }

/-- The engine of `clean` decides with the minimum score of the command line. -/
def cleanEngine (args : CleanArgs F) : ScoringEngine F :=
  .fromConfig { setup.config.scoring with minScore := args.minScore }
    setup.config.scanner.minFileAgeMinutes

def cleanScore (args : CleanArgs F) : WalkEntry F → CandidacyScore F :=
  setup.reclaimScore (setup.cleanEngine args) 0.0 args.minScore

def cleanPlan (args : CleanArgs F) (entries : List (WalkEntry F)) : DeletionPlan F :=
  (cleanDeletionConfig setup.config.cleanupSettings args).plan
    ((entries.map (setup.cleanScore args)).filter (passes args.minScore))

def emergencyScore : WalkEntry F → CandidacyScore F :=
  setup.reclaimScore setup.engine 0.8 setup.config.scoring.minScore

def emergencyPlan (entries : List (WalkEntry F)) : DeletionPlan F :=
  (emergencyDeletionConfig setup.config.cleanupSettings).plan
    ((entries.map setup.emergencyScore).filter (!·.vetoed))

/-- Emergency mode works without a configuration file. -/
def emergency (world : CommandWorld) (rootPaths : List PathBuf)
    (isProtected : PathBuf → Bool) : CommandSetup F where
  world
  config := .default
  registry := .default
  rootPaths
  isProtected

end CommandSetup

end StorageBallast
