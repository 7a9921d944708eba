import Mathlib.Data.Rat.Defs
import StorageBallast.Foundations.Clock
import StorageBallast.Foundations.Paths

/-! What the scanner knows about one cleanup candidate: its identity on disk, its
classification, its score and the decision taken from the score.
-/

namespace StorageBallast

/-- File-system object kind used with device and inode identity. -/
inductive FsEntryKind where
  | file
  | directory
  | symlink
  | other
deriving DecidableEq, Repr

structure FsIdentity where
  deviceId : Nat
  inode : Nat
  kind : FsEntryKind
deriving DecidableEq, Repr

inductive ArtifactCategory where
  | rustTarget
  | nodeModules
  | pythonCache
  | buildOutput
  | cacheDir
  | goCache
  | tempDir
  | agentWorkspace
  | unknown
deriving DecidableEq, Repr

def ArtifactCategory.debugName : ArtifactCategory → String
  | rustTarget => "RustTarget"
  | nodeModules => "NodeModules"
  | pythonCache => "PythonCache"
  | buildOutput => "BuildOutput"
  | cacheDir => "CacheDir"
  | goCache => "GoCache"
  | tempDir => "TempDir"
  | agentWorkspace => "AgentWorkspace"
  | unknown => "Unknown"

structure StructuralSignals where
  hasIncremental : Bool
  hasDeps : Bool
  hasBuild : Bool
  hasFingerprint : Bool
  hasGit : Bool
  hasCargoToml : Bool
  mostlyObjectFiles : Bool
deriving DecidableEq, Repr

def StructuralSignals.default : StructuralSignals where
  hasIncremental := false
  hasDeps := false
  hasBuild := false
  hasFingerprint := false
  hasGit := false
  hasCargoToml := false
  mostlyObjectFiles := false

structure ArtifactClassification (F : Type) where
  patternName : String
  category : ArtifactCategory
  nameConfidence : F
  structuralConfidence : F
  combinedConfidence : F
deriving DecidableEq, Repr

inductive OpaqueTreeDisposition where
  | candidateOpaque
  | protectedOpaque
  | signalOnly
deriving DecidableEq, Repr

/-- Verdict on a directory that is classified without looking at its children. -/
structure OpaqueTreeClassification (F : Type) where
  disposition : OpaqueTreeDisposition
  reason : String
  classification : ArtifactClassification F
deriving DecidableEq, Repr

structure ScoreFactors (F : Type) where
  location : F
  name : F
  age : F
  size : F
  «structure» : F
  pressureMultiplier : F
deriving DecidableEq, Repr

inductive DecisionAction where
  | keep
  | delete
  | review
deriving DecidableEq, Repr

structure DecisionOutcome (F : Type) where
  action : DecisionAction
  posteriorAbandoned : F
  expectedLossKeep : F
  expectedLossDelete : F
  calibrationScore : F
  fallbackActive : Bool
deriving DecidableEq, Repr

structure EvidenceTerm (F : Type) where
  name : String
  weight : F
  value : F
  contribution : F
deriving DecidableEq, Repr

structure EvidenceLedger (F : Type) where
  terms : List (EvidenceTerm F)
  summary : String
deriving DecidableEq, Repr

structure CandidacyScore (F : Type) where
  path : PathBuf
  identity : Option FsIdentity
  totalScore : F
  factors : ScoreFactors F
  vetoed : Bool
  vetoReason : Option String
  classification : ArtifactClassification F
  sizeBytes : Nat
  age : Duration
  decision : DecisionOutcome F
  ledger : EvidenceLedger F
deriving DecidableEq, Repr

def CandidacyScore.Deletable {F : Type} (score : CandidacyScore F) : Prop :=
  score.vetoed = false ∧ score.decision.action = .delete

instance {F : Type} (score : CandidacyScore F) : Decidable score.Deletable :=
  inferInstanceAs (Decidable (_ ∧ _))

/-- The candidate of the source's policy tests, with a given action. -/
def sampleCandidate (action : DecisionAction) : CandidacyScore ℚ where
  path := ⟨"/data/projects/test/.target_opus"⟩
  identity := none
  totalScore := 5 / 2
  factors := {
    location := 85 / 100
    name := 90 / 100
    age := 1
    size := 70 / 100
    «structure» := 95 / 100
    pressureMultiplier := 3 / 2
  }
  vetoed := false
  vetoReason := none
  classification := {
    patternName := ".target*"
    category := .rustTarget
    nameConfidence := 90 / 100
    structuralConfidence := 95 / 100
    combinedConfidence := 92 / 100
  }
  sizeBytes := 3000000000
  age := Duration.fromHours 5
  decision := {
    action
    posteriorAbandoned := 87 / 100
    expectedLossKeep := 87 / 10
    expectedLossDelete := 13 / 10
    calibrationScore := 82 / 100
    fallbackActive := false
  }
  ledger := ⟨[⟨"location", 1 / 4, 85 / 100, 2125 / 10000⟩], "test"⟩

end StorageBallast
