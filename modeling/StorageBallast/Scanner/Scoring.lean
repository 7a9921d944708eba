import Mathlib.Data.List.Basic
import StorageBallast.Scanner.ArtifactPatterns
import StorageBallast.Scanner.SacredOverlaps

/-! What running processes hold on to in a candidate. -/

namespace StorageBallast

structure ActiveReferenceProcess where
  pid : Int
  name : Option String
  openFileDescriptors : Nat
  runningExecutable : Bool
  mmapRegions : Nat
deriving DecidableEq, Repr

structure ActiveReferenceSummary where
  processes : List ActiveReferenceProcess
  incompleteReason : Option String
deriving DecidableEq, Repr

def pluralize (count : Nat) (singular plural : String) : String :=
  toString count ++ " " ++ if count = 1 then singular else plural

namespace ActiveReferenceProcess

def isEmpty (self : ActiveReferenceProcess) : Bool :=
  self.openFileDescriptors == 0 && !self.runningExecutable && self.mmapRegions == 0

def safeReclaimReason (self : ActiveReferenceProcess) : String :=
  let label :=
    match self.name.filter (· != "") with
    | none => "pid " ++ toString self.pid
    | some name => "pid " ++ toString self.pid ++ " (" ++ name ++ ")"
  let descriptors :=
    if self.openFileDescriptors > 0 then
      [pluralize self.openFileDescriptors "open file descriptor" "open file descriptors"]
    else []
  let executable := if self.runningExecutable then ["1 running executable"] else []
  let regions :=
    if self.mmapRegions > 0 then [pluralize self.mmapRegions "mmap region" "mmap regions"]
    else []
  label ++ " has " ++ String.intercalate ", " (descriptors ++ executable ++ regions)

end ActiveReferenceProcess

namespace ActiveReferenceSummary

def default : ActiveReferenceSummary := ⟨[], none⟩

def isEmpty (self : ActiveReferenceSummary) : Bool :=
  self.incompleteReason.isNone && self.processes.all ActiveReferenceProcess.isEmpty

def markIncomplete (self : ActiveReferenceSummary) (reason : String)
    : ActiveReferenceSummary :=
  { self with incompleteReason := some reason }

def safeReclaimReason (self : ActiveReferenceSummary) : Option String :=
  match self.processes.filter (!·.isEmpty) with
  | [] => self.incompleteReason
  | active =>
      let named := (active.take 3).map ActiveReferenceProcess.safeReclaimReason
      let others :=
        if active.length > 3 then ["and " ++ toString (active.length - 3) ++ " more processes"]
        else []
      some ("Cannot reclaim safely: "
        ++ String.intercalate "; " (named ++ others ++ self.incompleteReason.toList))

end ActiveReferenceSummary

def shouldProbe (minCandidateSizeBytes candidateSizeBytes : Nat) : Bool :=
  minCandidateSizeBytes == 0 || candidateSizeBytes ≥ minCandidateSizeBytes

end StorageBallast

/-! The scoring engine: vetoes first, then five weighted factors under pressure, and the
decision with the smaller expected loss.
-/

namespace StorageBallast

variable {F : Type} [Float64 F]

open Float64

structure ScoringWeights (F : Type) where
  location : F
  name : F
  age : F
  size : F
  «structure» : F

structure ScoringConfig (F : Type) where
  minScore : F
  locationWeight : F
  nameWeight : F
  ageWeight : F
  sizeWeight : F
  structureWeight : F
  falsePositiveLoss : F
  falseNegativeLoss : F
  calibrationFloor : F

def ScoringConfig.default : ScoringConfig F where
  minScore := 0.35
  locationWeight := 0.25
  nameWeight := 0.25
  ageWeight := 0.20
  sizeWeight := 0.15
  structureWeight := 0.15
  falsePositiveLoss := 50.0
  falseNegativeLoss := 30.0
  calibrationFloor := 0.40

structure CandidateInput (F : Type) where
  path : PathBuf
  sizeBytes : Nat
  age : Duration
  classification : ArtifactClassification F
  signals : StructuralSignals
  activeReferences : ActiveReferenceSummary
  isOpen : Bool
  excluded : Bool

structure ScoringEngine (F : Type) where
  weights : ScoringWeights F
  minFileAge : Duration
  minScore : F
  falsePositiveLoss : F
  falseNegativeLoss : F
  calibrationFloor : F

def ScoringEngine.fromConfig (scoring : ScoringConfig F) (minFileAgeMinutes : Nat)
    : ScoringEngine F where
  weights := {
    location := Float64.max scoring.locationWeight 0.0
    name := Float64.max scoring.nameWeight 0.0
    age := Float64.max scoring.ageWeight 0.0
    size := Float64.max scoring.sizeWeight 0.0
    «structure» := Float64.max scoring.structureWeight 0.0
  }
  minFileAge := Duration.fromSecs (min (minFileAgeMinutes * 60) (2 ^ 64 - 1))
  minScore := scoring.minScore
  falsePositiveLoss := scoring.falsePositiveLoss
  falseNegativeLoss := scoring.falseNegativeLoss
  calibrationFloor := scoring.calibrationFloor

def hasGitComponent (path : PathBuf) : Bool := path.components.contains (.normal ".git")

def systemRoots : List String :=
  ["/bin", "/boot", "/dev", "/etc", "/lib", "/lib64", "/opt", "/proc", "/root", "/run",
    "/sbin", "/snap", "/sys", "/usr", "/var"]

def isStrictlyUnder (path : PathBuf) (root : String) : Bool :=
  path.startsWith ⟨root⟩ && !path.sameAs ⟨root⟩

def isSystemPath (path : PathBuf) : Bool :=
  if path.sameAs ⟨"/"⟩ then true
  else if ["/var/tmp", "/var/folders", "/dev/shm"].any (isStrictlyUnder path) then false
  else if isStrictlyUnder path "/root" && isObviousBuildArtifactBasename path then false
  else systemRoots.any fun root => path.startsWith ⟨root⟩

def cleanupRuleForClassification (classification : ArtifactClassification F)
    : Option CleanupRule :=
  (findRule macCleanupRules classification.patternName).orElse fun _ =>
    findRule linuxCleanupRules classification.patternName

def reportOnlyCleanupRuleReason (rule : CleanupRule) : String :=
  if rule.name = "spotlight-index-report" then
    rule.name ++ " cleanup rule is report-only; deleting the Spotlight index triggers a 1-4 "
      ++ "hour rebuild and can cripple the machine"
  else rule.name ++ " cleanup rule is report-only"

def reportOnlyCleanupRuleVetoReason (input : CandidateInput F) : Option String := do
  let rule ← cleanupRuleForClassification input.classification
  if rule.reclaimCommand = .reportOnly then some (reportOnlyCleanupRuleReason rule) else none

def cleanupRuleVetoReason (input : CandidateInput F) : Option String := do
  let rule ← cleanupRuleForClassification input.classification
  match rule.reclaimCommand with
  | .reportOnly => some (reportOnlyCleanupRuleReason rule)
  | .refuse => some (rule.name ++ " cleanup rule refuses reclaim")
  | .thinLocalSnapshots =>
      some (rule.name ++ " requires platform snapshot tooling, not path deletion")
  | .removeTree | .removeMatchingFiles | .promptBeforeRemove =>
      if input.age < rule.ageThreshold then
        some (rule.name ++ " age " ++ toString input.age.asSecs ++ "s below "
          ++ toString rule.ageThreshold.asSecs ++ "s")
      else none

def cleanupRuleAllowsEmbeddedManifest (classification : ArtifactClassification F) : Bool :=
  (cleanupRuleForClassification classification).any (·.name == "release-work-buildroot")

def isVolatileTempPath (path : PathBuf) : Bool :=
  ["/tmp", "/private/tmp", "/var/tmp", "/data/tmp", "/dev/shm"].any fun root =>
    path.startsWith ⟨root⟩

def isGenericTargetPattern (patternName : String) : Bool :=
  ["target-prefix", "target-underscore-prefix", "target-suffix",
    "underscore-target-suffix"].contains patternName

def isAmbiguousTargetNameWithoutCargoMarkers (input : CandidateInput F) : Bool :=
  input.classification.category == .rustTarget
    && isGenericTargetPattern input.classification.patternName
    && !input.signals.hasStrongSignal
    && !isVolatileTempPath input.path

def SacredOverlap.summary (overlap : SacredOverlap) : String :=
  overlap.kind.label ++ ": pattern " ++ overlap.pattern ++ " matched "
    ++ overlap.matchedPath.text ++ " (" ++ overlap.reason ++ ")"

def sacredOverlapVetoReason : List SacredOverlap → Option String
  | [] => none
  | first :: others =>
      let extra :=
        if others.length > 0 then
          "; and " ++ toString others.length ++ " more sacred overlap(s)"
        else ""
      some ("sacred path overlap: " ++ first.summary ++ extra)

def hardRefuseBundleExtensions : List String :=
  ["photoslibrary", "fcpbundle", "imovielibrary", "app", "framework", "bundle", "plugin",
    "kext", "lrcat", "lrlibrary", "aplibrary"]

def hardRefuseBundleExtension (path : PathBuf) : Option String :=
  path.ancestors.findSome? fun components => do
    let found ← extension (← PathBuf.lastName components)
    hardRefuseBundleExtensions.find? (Texts.eqIgnoreAsciiCase found)

namespace ScoringEngine

def vetoReason (self : ScoringEngine F) (input : CandidateInput F)
    (sacredOverlaps : List SacredOverlap) : Option String :=
  if hasGitComponent input.path || input.signals.hasGit then some "path contains .git"
  else
    (reportOnlyCleanupRuleVetoReason input).orElse fun _ =>
    if isSystemPath input.path then some "system path is never deletable"
    else if input.signals.hasCargoToml && !input.signals.hasStrongSignal
        && !cleanupRuleAllowsEmbeddedManifest input.classification then
      some "contains Cargo.toml without build-artifact markers"
    else if isAmbiguousTargetNameWithoutCargoMarkers input then
      some "target-like name lacks Cargo build markers outside temporary storage"
    else
      (sacredOverlapVetoReason sacredOverlaps).orElse fun _ =>
      (cleanupRuleVetoReason input).orElse fun _ =>
      if input.excluded then some "matched user exclusion"
      else
        ((hardRefuseBundleExtension input.path).map fun ext =>
          "protected bundle/project extension ." ++ ext).orElse fun _ =>
        if input.age < self.minFileAge then
          some ("age " ++ toString input.age.asSecs ++ "s below minimum "
            ++ toString self.minFileAge.asSecs ++ "s")
        else
          input.activeReferences.safeReclaimReason.orElse fun _ =>
          if input.isOpen then some "currently open by another process" else none

def vetoed (self : ScoringEngine F) (input : CandidateInput F) (reason : String)
    : CandidacyScore F where
  path := input.path
  identity := none
  totalScore := 0.0
  factors := {
    location := 0.0
    name := 0.0
    age := 0.0
    size := 0.0
    «structure» := 0.0
    pressureMultiplier := 1.0
  }
  vetoed := true
  vetoReason := some reason
  classification := input.classification
  sizeBytes := input.sizeBytes
  age := input.age
  decision := {
    action := .keep
    posteriorAbandoned := 0.0
    expectedLossKeep := 0.0
    expectedLossDelete := self.falsePositiveLoss
    calibrationScore := 0.0
    fallbackActive := true
  }
  ledger := ⟨[], "hard veto applied"⟩

end ScoringEngine

def isMacosApplicationSupportCachePath (text : String) : Bool :=
  let has := Texts.containsIgnoringCase text
  has "/Library/Application Support/"
    && (has "/Cache" || has "/Code Cache" || has "/GPUCache" || has "/IndexedDB"
      || has "/vm_bundles" || (has "/Service Worker/" && has "/CacheStorage"))

def factorLocation (path : PathBuf) : F :=
  let text := path.text
  let has := Texts.contains text
  if ["/tmp", "/private/tmp", "/var/tmp", "/data/tmp", "/dev/shm"].any
      (Texts.startsWith text) then 0.95
  else if has "/data/projects/" && has "/.tmp_" then 0.90
  else if has "/data/projects/" && has "/.target" then 0.85
  else if has "/data/projects/" && has "/target" then 0.80
  else if has "/Library/Developer/Xcode/DerivedData/" then 0.90
  else if isMacosApplicationSupportCachePath text then 0.82
  else if has "/.cache/" then 0.60
  else if has "/projects/" then 0.40
  else if Texts.containsIgnoringCase text "/documents/" then 0.10
  else if isSystemPath path then 0.0
  else 0.30

def factorName (path : PathBuf) (classification : ArtifactClassification F) : F :=
  let name := path.fileName.getD ""
  let base := classification.combinedConfidence
  let temporary :=
    if ["tmp", "temp", "cache"].any (Texts.contains name) then base + 0.10 else base
  let target :=
    if classification.category = .rustTarget then temporary + 0.15 else temporary
  let kept :=
    if ["backup", "save", "important"].any (Texts.containsIgnoringCase name) then
      target - 0.30
    else target
  clamp kept 0.0 1.0

/-- `Duration::as_secs_f64`. -/
def asSecsF64 (age : Duration) : F :=
  ofNat age.asSecs + ofNat (age % 1000000000) / ofNat 1000000000

def factorAge (age : Duration) : F :=
  let hours : F := asSecsF64 age / 3600.0
  if Float64.lt hours 0.5 then 0.0
  else if Float64.lt hours 2.0 then 0.20
  else if Float64.lt hours 4.0 then 0.70
  else 1.0

def factorSize (sizeBytes : Nat) : F :=
  let mib := 1048576
  let gib := 1073741824
  if sizeBytes < mib then 0.05
  else if sizeBytes < 10 * mib then 0.20
  else if sizeBytes < 100 * mib then 0.40
  else if sizeBytes < gib then 0.70
  else if sizeBytes < 10 * gib then 1.0
  else if sizeBytes < 50 * gib then 0.90
  else 0.75

def factorStructure (signals : StructuralSignals) : F :=
  if signals.hasGit then 0.0
  else if signals.hasFingerprint || signals.hasIncremental then 0.95
  else if signals.hasDeps && signals.hasBuild then 0.85
  else if signals.hasCargoToml then 0.05
  else if signals.mostlyObjectFiles then 0.90
  else 0.40

def pressureMultiplier (urgency : F) : F :=
  let u := clamp urgency 0.0 1.0
  if Float64.le u 0.3 then 1.0 + u
  else if Float64.le u 0.5 then mulAdd (u - 0.3) 1.0 1.3
  else if Float64.le u 0.8 then mulAdd (u - 0.5) (0.5 / 0.3) 1.5
  else mulAdd (u - 0.8) 5.0 2.0

def posteriorFromScore (totalScore confidence : F) : F :=
  let scaledScore := clamp (totalScore / 1.5) 0.0 1.0
  let logit := mulAdd 3.5 (scaledScore - 0.5) (2.0 * (confidence - 0.5))
  1.0 / (1.0 + Float64.exp (-logit))

def calibrationScore (classificationConfidence : F) (factors : ScoreFactors F) : F :=
  let spread := Float64.abs (factors.location - factors.structure)
  clamp (mulAdd 0.75 classificationConfidence (0.25 * (1.0 - spread))) 0.0 1.0

def epistemicUncertainty (posteriorAbandoned calibration : F) : F :=
  let p := clamp posteriorAbandoned 1e-6 (1.0 - 1e-6)
  let entropy :=
    -(mulAdd (1.0 - p) (Float64.ln (1.0 - p)) (p * Float64.ln p)) / 0.6931471805599453
  let calibrationPenalty := 1.0 - clamp calibration 0.0 1.0
  clamp (mulAdd 0.65 entropy (0.35 * calibrationPenalty)) 0.0 1.0

def uncertaintyAdjustedLosses
    (baseKeepLoss baseDeleteLoss posteriorAbandoned calibration uncertainty : F) : F × F :=
  let posterior := clamp posteriorAbandoned 0.0 1.0
  let calibrationPenalty := 1.0 - clamp calibration 0.0 1.0
  let uncertainty := clamp uncertainty 0.0 1.0
  let uncertaintyDiscount := mulAdd 0.5 (-uncertainty) 1.0
  let keepMultiplier := mulAdd (posterior * uncertaintyDiscount) 0.80 1.0
  let deleteSlope := Float64.max (mulAdd 0.90 calibrationPenalty 0.90) 0.90
  let deleteMultiplier := mulAdd uncertainty deleteSlope 1.0
  (baseKeepLoss * keepMultiplier, baseDeleteLoss * deleteMultiplier)

def deleteAdvantageRatio (keepLoss deleteLoss : F) : F :=
  let safeKeep := Float64.max keepLoss 0.0
  let safeDelete := Float64.max deleteLoss 0.0
  if Float64.le safeDelete 2.220446049250313e-16 then 1e6 else safeKeep / safeDelete

def minDeleteAdvantage (calibration uncertainty : F) : F :=
  let calibrationPenalty := 1.0 - clamp calibration 0.0 1.0
  clamp (mulAdd uncertainty 1.6 (mulAdd calibrationPenalty 0.9 1.2)) 1.2 4.0

def decideAction
    (totalScore minScore keepLoss deleteLoss posteriorAbandoned calibration : F)
    (fallbackActive : Bool) (uncertainty : F) : DecisionAction :=
  if Float64.lt totalScore minScore || fallbackActive then .keep
  else
    let decisionMargin := Float64.abs (keepLoss - deleteLoss)
    let reviewBand := mulAdd (1.0 - calibration) 2.0 (mulAdd 5.0 uncertainty 1.0)
    if Float64.le decisionMargin reviewBand then .review
    else if Float64.lt deleteLoss keepLoss then
      let minDeletePosterior :=
        mulAdd (1.0 - clamp calibration 0.0 1.0) 0.20 (mulAdd 0.20 uncertainty 0.60)
      if Float64.ge posteriorAbandoned (clamp minDeletePosterior 0.60 0.95)
          && Float64.ge (deleteAdvantageRatio keepLoss deleteLoss)
            (minDeleteAdvantage calibration uncertainty) then .delete
      else .review
    else .keep

def manualReviewOverride (classification : ArtifactClassification F)
    (action : DecisionAction) : DecisionAction :=
  if action = .delete
      ∧ (cleanupRuleForClassification classification).any
        (·.reclaimCommand == .promptBeforeRemove) then .review
  else action

def DecisionAction.debugName : DecisionAction → String
  | .keep => "Keep"
  | .delete => "Delete"
  | .review => "Review"

def buildLedger (factors : ScoreFactors F) (weights : ScoringWeights F)
    (posteriorAbandoned baseExpectedLossKeep baseExpectedLossDelete expectedLossKeep
      expectedLossDelete calibration uncertainty : F) (action : DecisionAction)
    : EvidenceLedger F :=
  let weighted := fun name (weight value : F) =>
    (⟨name, weight, value, weight * value⟩ : EvidenceTerm F)
  let plain := fun name (value : F) => (⟨name, 1.0, value, value⟩ : EvidenceTerm F)
  let deleteAdvantage := deleteAdvantageRatio expectedLossKeep expectedLossDelete
  let requiredDeleteAdvantage := minDeleteAdvantage calibration uncertainty
  { terms := [
      weighted "location" weights.location factors.location,
      weighted "name" weights.name factors.name,
      weighted "age" weights.age factors.age,
      weighted "size" weights.size factors.size,
      weighted "structure" weights.structure factors.structure,
      plain "pressure_multiplier" factors.pressureMultiplier,
      plain "calibration" calibration,
      plain "uncertainty" uncertainty,
      plain "delete_advantage_ratio" deleteAdvantage,
      plain "required_delete_advantage" requiredDeleteAdvantage]
    summary :=
      "posterior_abandoned=" ++ toFixed 3 posteriorAbandoned
        ++ "; keep_loss=" ++ toFixed 2 expectedLossKeep
        ++ "; delete_loss=" ++ toFixed 2 expectedLossDelete
        ++ "; base_keep_loss=" ++ toFixed 2 baseExpectedLossKeep
        ++ "; base_delete_loss=" ++ toFixed 2 baseExpectedLossDelete
        ++ "; loss_margin=" ++ toFixed 2 (expectedLossKeep - expectedLossDelete)
        ++ "; uncertainty=" ++ toFixed 3 uncertainty
        ++ "; calibration=" ++ toFixed 3 calibration
        ++ "; delete_advantage=" ++ toFixed 2 deleteAdvantage
        ++ "; required_delete_advantage=" ++ toFixed 2 requiredDeleteAdvantage
        ++ "; action=" ++ action.debugName }

namespace ScoringEngine

def baseScore (self : ScoringEngine F) (factors : ScoreFactors F) : F :=
  let weights := self.weights
  mulAdd weights.structure factors.structure
    (mulAdd weights.size factors.size
      (mulAdd weights.age factors.age
        (mulAdd weights.location factors.location (weights.name * factors.name))))

def factorsOf (input : CandidateInput F) (urgency : F) : ScoreFactors F where
  location := factorLocation input.path
  name := factorName input.path input.classification
  age := factorAge input.age
  size := factorSize input.sizeBytes
  «structure» := factorStructure input.signals
  pressureMultiplier := pressureMultiplier urgency

def unvetoedScore (self : ScoringEngine F) (input : CandidateInput F) (urgency : F)
    : CandidacyScore F :=
  let factors := factorsOf input urgency
  let total := clamp (self.baseScore factors * factors.pressureMultiplier) 0.0 3.0
  let confidence := input.classification.combinedConfidence
  let posteriorAbandoned := posteriorFromScore total confidence
  let baseExpectedLossKeep := posteriorAbandoned * self.falseNegativeLoss
  let baseExpectedLossDelete := (1.0 - posteriorAbandoned) * self.falsePositiveLoss
  let calibration := calibrationScore confidence factors
  let fallbackActive := Float64.lt calibration self.calibrationFloor
  let uncertainty := epistemicUncertainty posteriorAbandoned calibration
  let (expectedLossKeep, expectedLossDelete) :=
    uncertaintyAdjustedLosses baseExpectedLossKeep baseExpectedLossDelete
      posteriorAbandoned calibration uncertainty
  let action := manualReviewOverride input.classification
    (decideAction total self.minScore expectedLossKeep expectedLossDelete
      posteriorAbandoned calibration fallbackActive uncertainty)
  { path := input.path
    identity := none
    totalScore := total
    factors
    vetoed := false
    vetoReason := none
    classification := input.classification
    sizeBytes := input.sizeBytes
    age := input.age
    decision := {
      action
      posteriorAbandoned
      expectedLossKeep
      expectedLossDelete
      calibrationScore := calibration
      fallbackActive
    }
    ledger := buildLedger factors self.weights posteriorAbandoned baseExpectedLossKeep
      baseExpectedLossDelete expectedLossKeep expectedLossDelete calibration uncertainty
      action }

def scoreCandidateWithSacredOverlaps (self : ScoringEngine F) (input : CandidateInput F)
    (urgency : F) (sacredOverlaps : List SacredOverlap) : CandidacyScore F :=
  match self.vetoReason input sacredOverlaps with
  | some reason => self.vetoed input reason
  | none => self.unvetoedScore input urgency

def scoreCandidate (self : ScoringEngine F) (input : CandidateInput F) (urgency : F)
    : CandidacyScore F :=
  self.scoreCandidateWithSacredOverlaps input urgency []

def hardVeto (self : ScoringEngine F) (input : CandidateInput F) (reason : String)
    : CandidacyScore F :=
  self.vetoed input reason

/-- A vetoed score has the reason of its veto, and every other one comes from the factors. -/
theorem scoreCandidateWithSacredOverlaps_cases (self : ScoringEngine F)
    (input : CandidateInput F) (urgency : F) (overlaps : List SacredOverlap)
    : (∃ reason, self.vetoReason input overlaps = some reason
        ∧ self.scoreCandidateWithSacredOverlaps input urgency overlaps
          = self.vetoed input reason)
      ∨ (self.vetoReason input overlaps = none
        ∧ self.scoreCandidateWithSacredOverlaps input urgency overlaps
          = self.unvetoedScore input urgency) := by
  unfold scoreCandidateWithSacredOverlaps
  cases reason : self.vetoReason input overlaps with
  | some text => exact Or.inl ⟨text, rfl, rfl⟩
  | none => exact Or.inr ⟨rfl, rfl⟩

theorem scoreCandidateWithSacredOverlaps_subject (self : ScoringEngine F)
    (input : CandidateInput F) (urgency : F) (overlaps : List SacredOverlap)
    : (self.scoreCandidateWithSacredOverlaps input urgency overlaps).path = input.path
      ∧ (self.scoreCandidateWithSacredOverlaps input urgency overlaps).classification
        = input.classification := by
  rcases self.scoreCandidateWithSacredOverlaps_cases input urgency overlaps with
    ⟨reason, _, same⟩ | ⟨_, same⟩
  · rw [same]
    exact ⟨rfl, rfl⟩
  · rw [same]
    exact ⟨rfl, rfl⟩

open Checks in
omit [Float64 F] in
/-- Without overlaps and without processes that use the candidate there is no more reason for
a veto, whatever else the engine is set to.
-/
theorem vetoReason_without_evidence {self other : ScoringEngine F} {input : CandidateInput F}
    {overlaps : List SacredOverlap} (sameAge : other.minFileAge = self.minFileAge)
    (unvetoed : self.vetoReason input overlaps = none)
    : other.vetoReason input [] = none
      ∧ other.vetoReason
          { input with activeReferences := .default, isOpen := false } [] = none := by
  have quiet : ActiveReferenceSummary.default.safeReclaimReason = none := rfl
  simp only [vetoReason, orElse_eq_none, ite_some_eq_none, sameAge] at unvetoed ⊢
  obtain ⟨git, reportOnly, system, manifest, target, _, rule, excluded, bundle, young, used,
    inUse, _⟩ := unvetoed
  constructor
  · exact ⟨git, reportOnly, system, manifest, target, rfl, rule, excluded, bundle, young, used,
      inUse, trivial⟩
  · exact ⟨git, reportOnly, system, manifest, target, rfl, rule, excluded, bundle, young, quiet,
      Bool.false_ne_true, trivial⟩

end ScoringEngine

end StorageBallast
