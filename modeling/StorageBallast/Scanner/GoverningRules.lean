import StorageBallast.Scanner.Scoring
import StorageBallast.Scanner.Walker

/-! Whether the cleanup rule that a path matches holds it back when it is scored. The veto looks
the rule up again by the label of the classification that is scored, so the rule is lost when
another label took its place.
-/

namespace StorageBallast

variable {F : Type} [Float64 F]

open Checks

section UnderCatalog

variable (rules : List CleanupRule)

def cleanupRuleUnder (classification : ArtifactClassification F) : Option CleanupRule :=
  findRule rules classification.patternName

def reportOnlyCleanupRuleVetoUnder (input : CandidateInput F) : Option String := do
  let rule ← cleanupRuleUnder rules input.classification
  if rule.reclaimCommand = .reportOnly then some (reportOnlyCleanupRuleReason rule) else none

def cleanupRuleVetoUnder (input : CandidateInput F) : Option String := do
  let rule ← cleanupRuleUnder rules input.classification
  match rule.reclaimCommand with
  | .reportOnly => some (reportOnlyCleanupRuleReason rule)
  | .refuse => some (rule.name ++ " cleanup rule refuses reclaim")
  | .thinLocalSnapshots =>
      some (rule.name ++ " requires platform snapshot tooling, not path deletion")
  | .removeTree | .removeMatchingFiles | .promptBeforeRemove =>
      if input.age < rule.ageThreshold then
        some (rule.name ++ " age " ++ toString input.age.asSecs ++ "s below "
          ++ toString rule.ageThreshold.asSecs ++ "s")
      else none

def embeddedManifestAllowedUnder (classification : ArtifactClassification F) : Bool :=
  (cleanupRuleUnder rules classification).any (·.name == "release-work-buildroot")

def ScoringEngine.vetoReasonUnder (self : ScoringEngine F) (input : CandidateInput F)
    (sacredOverlaps : List SacredOverlap) : Option String :=
  if hasGitComponent input.path || input.signals.hasGit then some "path contains .git"
  else
    (reportOnlyCleanupRuleVetoUnder rules input).orElse fun _ =>
    if isSystemPath input.path then some "system path is never deletable"
    else if input.signals.hasCargoToml && !input.signals.hasStrongSignal
        && !embeddedManifestAllowedUnder rules input.classification then
      some "contains Cargo.toml without build-artifact markers"
    else if isAmbiguousTargetNameWithoutCargoMarkers input then
      some "target-like name lacks Cargo build markers outside temporary storage"
    else
      (sacredOverlapVetoReason sacredOverlaps).orElse fun _ =>
      (cleanupRuleVetoUnder rules input).orElse fun _ =>
      if input.excluded then some "matched user exclusion"
      else
        ((hardRefuseBundleExtension input.path).map fun ext =>
          "protected bundle/project extension ." ++ ext).orElse fun _ =>
        if input.age < self.minFileAge then
          some ("age " ++ toString input.age.asSecs ++ "s below minimum "
            ++ toString self.minFileAge.asSecs ++ "s")
        else
          input.activeReferences.safeReclaimReason.orElse fun _ =>
          if input.isOpen then some "currently open by another process" else none

end UnderCatalog

omit [Float64 F] in
/-- The rules of the program are those of both platforms, in the order of the lookup. -/
theorem vetoReasonUnder_shipped (engine : ScoringEngine F) (input : CandidateInput F)
    (overlaps : List SacredOverlap)
    : engine.vetoReasonUnder (macCleanupRules ++ linuxCleanupRules) input overlaps
      = engine.vetoReason input overlaps := by
  have lookup (classification : ArtifactClassification F)
      : cleanupRuleUnder (macCleanupRules ++ linuxCleanupRules) classification
        = cleanupRuleForClassification classification :=
    findRule_append ..
  simp only [ScoringEngine.vetoReasonUnder, ScoringEngine.vetoReason,
    reportOnlyCleanupRuleVetoUnder, reportOnlyCleanupRuleVetoReason, cleanupRuleVetoUnder,
    cleanupRuleVetoReason, embeddedManifestAllowedUnder, cleanupRuleAllowsEmbeddedManifest,
    lookup]
  rfl

variable {catalog : LabeledCatalog}

omit [Float64 F] in
/-- The rule under the label of a classification vetoes up to its age. -/
theorem cleanupRuleVetoUnder_eq_none_iff {input : CandidateInput F}
    : cleanupRuleVetoUnder catalog.rules input = none
      ↔ catalog.heldUntil input.classification.patternName ≤ .some input.age := by
  unfold cleanupRuleVetoUnder cleanupRuleUnder LabeledCatalog.heldUntil LabeledCatalog.ruleFor
  cases findRule catalog.rules input.classification.patternName with
  | none => simp
  | some rule =>
      unfold CleanupRule.heldUntil
      cases command : rule.reclaimCommand <;> simp [command]

omit [Float64 F] in
theorem reportOnlyCleanupRuleVetoUnder_eq_none
    {input : CandidateInput F} (unvetoed : cleanupRuleVetoUnder catalog.rules input = none)
    : reportOnlyCleanupRuleVetoUnder catalog.rules input = none := by
  unfold cleanupRuleVetoUnder at unvetoed
  unfold reportOnlyCleanupRuleVetoUnder
  cases found : cleanupRuleUnder catalog.rules input.classification with
  | none => rfl
  | some rule =>
      have notOnly : rule.reclaimCommand ≠ .reportOnly := by
        intro only
        simp [found, only] at unvetoed
      simp [notOnly]

def scoredClassification (registry : ArtifactPatternRegistry F) (platform : PlatformContext)
    (entry : WalkEntry F) : Option (ArtifactClassification F) :=
  let classification :=
    match entry.opaqueTree with
    | some opaqueTree =>
        match opaqueTree.disposition with
        | .candidateOpaque => some opaqueTree.classification
        | .signalOnly | .protectedOpaque => none
    | none => some (registry.classify platform entry.path entry.structuralSignals)
  classification.filter (·.category != .unknown)

def walkVerdict (opaquePruning : Bool) (world : FileWorld) (path : PathBuf)
    (context : OpaqueTreeContext) : Option (OpaqueTreeClassification F) :=
  if opaquePruning then classifyOpaqueTree world path context else none

def opaqueLabels : List String :=
  ["opaque-go-build-cache", "opaque-go-mod-cache", "opaque-cargo-target",
    "opaque-node-modules", "opaque-cargo-cache", "opaque-build-output"]

def structuralRescueLabel : String := "structural-rust-target"

/-- A directory that the walker nominates has one of these labels, and a known category. -/
theorem walkVerdict_candidate {opaquePruning : Bool} {world : FileWorld} {path : PathBuf}
    {context : OpaqueTreeContext} {verdict : OpaqueTreeClassification F}
    (given : walkVerdict opaquePruning world path context = some verdict)
    (nominated : verdict.disposition = .candidateOpaque)
    : verdict.classification.patternName ∈ opaqueLabels
      ∧ verdict.classification.category ≠ .unknown := by
  unfold walkVerdict at given
  split at given
  · unfold classifyOpaqueTree at given
    obtain ⟨name, _, given⟩ := Option.bind_eq_some_iff.mp given
    dsimp only at given
    split_ifs at given <;> cases given <;>
      first
      | (cases nominated; done)
      | simp [OpaqueTreeClassification.candidate, opaqueLabels]
  · cases given

def StructuralSignals.looksLikeCargoTarget (signals : StructuralSignals) : Bool :=
  signals.hasFingerprint || (signals.hasIncremental && signals.hasDeps)

section Matched

variable {platform : PlatformContext} {path : PathBuf} {rule : CleanupRule}
  (matched : matchScanVisibleRule ⟨none, platform.home⟩ path platform.cleanupRules = some rule)
include matched

/-- The classification by name keeps the label and the category of a matched rule. -/
theorem bestMatch_of_matched (registry : ArtifactPatternRegistry F) (normalized : String)
    : (registry.bestMatch platform path normalized).patternName = rule.scannerLabel
      ∧ (registry.bestMatch platform path normalized).category = cleanupRuleCategory rule := by
  simp [ArtifactPatternRegistry.bestMatch, cleanupCatalogPathClassification, matched]

variable {signals : StructuralSignals} (named : path.fileName.isSome)
include named

/-- The structure of a directory takes it from a rule of no known category. -/
theorem classify_of_rescued (registry : ArtifactPatternRegistry F)
    (unknown : cleanupRuleCategory rule = .unknown)
    (rescued : signals.looksLikeCargoTarget = true)
    : (registry.classify platform path signals).patternName = structuralRescueLabel
      ∧ (registry.classify platform path signals).category = .rustTarget := by
  obtain ⟨name, known⟩ := Option.isSome_iff_exists.mp named
  have category := (bestMatch_of_matched matched registry (Texts.toLowercase name)).2
  rw [unknown] at category
  have rescue := And.intro category rescued
  unfold StructuralSignals.looksLikeCargoTarget at rescue
  simp only [ArtifactPatternRegistry.classify, known, structuralRescue, if_pos rescue]
  exact ⟨rfl, trivial⟩

theorem classify_of_kept (registry : ArtifactPatternRegistry F)
    (kept : ¬ (cleanupRuleCategory rule = .unknown ∧ signals.looksLikeCargoTarget = true))
    : (registry.classify platform path signals).patternName = rule.scannerLabel
      ∧ (registry.classify platform path signals).category = cleanupRuleCategory rule := by
  obtain ⟨name, known⟩ := Option.isSome_iff_exists.mp named
  have best := bestMatch_of_matched matched registry (Texts.toLowercase name)
  rw [← best.2] at kept
  unfold StructuralSignals.looksLikeCargoTarget at kept
  simp only [ArtifactPatternRegistry.classify, known, structuralRescue, if_neg kept]
  exact best

end Matched

def WalkEntry.heldForItself (entry : WalkEntry F) : Bool :=
  hasGitComponent entry.path || entry.structuralSignals.hasGit || isSystemPath entry.path
    || (entry.structuralSignals.hasCargoToml && !entry.structuralSignals.hasStrongSignal)
    || (hardRefuseBundleExtension entry.path).isSome

/-- The label that an entry is scored under in place of the one of the rule it matches. -/
def replacingLabel (rule : CleanupRule) (entry : WalkEntry F) : Option String :=
  match entry.opaqueTree with
  | some verdict =>
      if verdict.disposition = .candidateOpaque then some verdict.classification.patternName
      else none
  | none =>
      if entry.path.fileName.isSome ∧ cleanupRuleCategory rule = .unknown
          ∧ entry.structuralSignals.looksLikeCargoTarget = true then some structuralRescueLabel
      else none

/-- However an entry is scored, it is vetoed where the rule it matches asks for that: always
if the rule only reports or refuses to reclaim, and else below the age of the rule.
-/
def RuleGoverns (catalog : LabeledCatalog) (registry : ArtifactPatternRegistry F)
    (platform : PlatformContext) (entry : WalkEntry F) (rule : CleanupRule) : Prop :=
  ∀ (engine : ScoringEngine F) (input : CandidateInput F) (overlaps : List SacredOverlap),
    input.path = entry.path → input.signals = entry.structuralSignals
    → scoredClassification registry platform entry = some input.classification
    → (rule.reclaimCommand = .reportOnly ∨ rule.reclaimCommand = .refuse
      ∨ input.age < rule.ageThreshold)
    → (engine.vetoReasonUnder catalog.rules input overlaps).isSome

section Scored

variable {registry : ArtifactPatternRegistry F} {platform : PlatformContext}
  {entry : WalkEntry F} {rule : CleanupRule} {classification : ArtifactClassification F}

/-- What is scored of an entry that matches a rule is labeled by the rule or as replaced. -/
theorem label_of_scored
    (matched : matchScanVisibleRule ⟨none, platform.home⟩ entry.path platform.cleanupRules
      = some rule)
    (scored : scoredClassification registry platform entry = some classification)
    : replacingLabel rule entry = some classification.patternName
      ∨ classification.patternName = rule.scannerLabel := by
  obtain ⟨scored, known⟩ := Option.filter_eq_some_iff.mp scored
  unfold replacingLabel
  cases verdict : entry.opaqueTree with
  | some tree =>
      rw [verdict] at scored
      cases disposition : tree.disposition <;> simp_all
  | none =>
      rw [verdict] at scored
      simp only [Option.some.injEq] at scored
      cases scored
      by_cases named : entry.path.fileName.isSome
      · by_cases rescued : cleanupRuleCategory rule = .unknown
            ∧ entry.structuralSignals.looksLikeCargoTarget = true
        · have label := (classify_of_rescued matched named registry rescued.1 rescued.2).1
          left
          simp [named, rescued, label]
        · exact Or.inr (classify_of_kept matched named registry rescued).1
      · have none : entry.path.fileName = none := by simpa using named
        simp [ArtifactPatternRegistry.classify, none, ArtifactClassification.unknown] at known

def replacingLabels : List String := structuralRescueLabel :: opaqueLabels

theorem scored_of_replaced {opaquePruning : Bool} {world : FileWorld}
    {context : OpaqueTreeContext} {label : String}
    (walked : entry.opaqueTree = walkVerdict opaquePruning world entry.path context)
    (matched : matchScanVisibleRule ⟨none, platform.home⟩ entry.path platform.cleanupRules
      = some rule)
    (replaced : replacingLabel rule entry = some label)
    : label ∈ replacingLabels
      ∧ ∃ classification, scoredClassification registry platform entry = some classification
        ∧ classification.patternName = label := by
  unfold replacingLabel at replaced
  cases verdict : entry.opaqueTree with
  | some tree =>
      rw [verdict] at replaced walked
      dsimp only at replaced
      split at replaced
      case isFalse => cases replaced
      case isTrue nominated =>
      cases replaced
      obtain ⟨listed, known⟩ := walkVerdict_candidate walked.symm nominated
      refine ⟨List.mem_cons_of_mem _ listed, tree.classification, ?_, rfl⟩
      simp [scoredClassification, verdict, nominated, known]
  | none =>
      rw [verdict] at replaced
      dsimp only at replaced
      split at replaced
      case isFalse => cases replaced
      case isTrue rescue =>
      cases replaced
      obtain ⟨named, unknown, rescued⟩ := rescue
      have classified := classify_of_rescued matched named registry unknown rescued
      refine ⟨List.mem_cons_self, registry.classify platform entry.path entry.structuralSignals,
        ?_, classified.1⟩
      simp [scoredClassification, verdict, classified.2]

end Scored

section Vetoes

variable {catalog : LabeledCatalog} {engine : ScoringEngine F} {input : CandidateInput F}
  {overlaps : List SacredOverlap} {entry : WalkEntry F}

omit [Float64 F]

/-- Under a replacing label no manifest is allowed, and no name is taken as ambiguous. -/
theorem replacingLabel_plain (rules : List CleanupRule)
    (replaced : input.classification.patternName ∈ replacingLabels)
    : embeddedManifestAllowedUnder rules input.classification = false
      ∧ isAmbiguousTargetNameWithoutCargoMarkers input = false := by
  constructor
  · apply Bool.eq_false_iff.mpr
    intro allowed
    obtain ⟨rule, found, named⟩ := (Option.any_eq_true ..).mp allowed
    have fits := List.find?_some found
    simp only [beq_iff_eq] at named
    have label : rule.scannerLabel = "release-work-buildroot" := by
      unfold CleanupRule.scannerLabel
      rw [named]
      decide
    simp only [named, label, Bool.or_self, beq_iff_eq] at fits
    rw [← fits] at replaced
    exact absurd replaced (by decide)
  · have distinct : ∀ label ∈ replacingLabels, isGenericTargetPattern label = false := by
      decide
    simp [isAmbiguousTargetNameWithoutCargoMarkers, distinct _ replaced]

/-- What is not vetoed is as old as the rule under its label asks for. -/
theorem heldUntil_le_of_unvetoed
    (unvetoed : engine.vetoReasonUnder catalog.rules input overlaps = none)
    : catalog.heldUntil input.classification.patternName ≤ .some input.age := by
  simp only [ScoringEngine.vetoReasonUnder, orElse_eq_none, ite_some_eq_none] at unvetoed
  obtain ⟨_, _, _, _, _, _, rule, _⟩ := unvetoed
  exact cleanupRuleVetoUnder_eq_none_iff.mp rule

/-- What is scored under a replacing label and not vetoed is not held back for itself. -/
theorem heldForItself_of_unvetoed (replaced : input.classification.patternName ∈ replacingLabels)
    (path : input.path = entry.path) (signals : input.signals = entry.structuralSignals)
    (unvetoed : engine.vetoReasonUnder catalog.rules input overlaps = none)
    : entry.heldForItself = false := by
  have plain := replacingLabel_plain catalog.rules replaced
  simp only [ScoringEngine.vetoReasonUnder, orElse_eq_none, ite_some_eq_none, plain.1] at unvetoed
  obtain ⟨git, _, system, manifest, _, _, _, _, bundle, _⟩ := unvetoed
  rw [path] at git system bundle
  rw [signals] at git manifest
  unfold WalkEntry.heldForItself
  simp_all

end Vetoes

/-- An entry scored while nothing else speaks against it. -/
def WalkEntry.idleInput (entry : WalkEntry F) (classification : ArtifactClassification F)
    (age : Duration) : CandidateInput F where
  path := entry.path
  sizeBytes := entry.metadata.contentSizeBytes
  age
  classification
  signals := entry.structuralSignals
  activeReferences := .default
  isOpen := false
  excluded := false

/-- Such an entry that is not held back for itself is not vetoed once it is as old as the
rule under its replacing label asks for.
-/
theorem idleInput_unvetoed {entry : WalkEntry F}
    {classification : ArtifactClassification F} {age : Duration}
    (replaced : classification.patternName ∈ replacingLabels) (free : entry.heldForItself = false)
    (old : catalog.heldUntil classification.patternName ≤ .some age)
    : (ScoringEngine.fromConfig .default 0).vetoReasonUnder catalog.rules
        (entry.idleInput classification age) [] = none := by
  have plain : embeddedManifestAllowedUnder catalog.rules classification = false
      ∧ isAmbiguousTargetNameWithoutCargoMarkers (entry.idleInput classification age) = false :=
    @replacingLabel_plain F (entry.idleInput classification age) catalog.rules replaced
  have rule : cleanupRuleVetoUnder catalog.rules (entry.idleInput classification age) = none :=
    cleanupRuleVetoUnder_eq_none_iff.mpr old
  have report := reportOnlyCleanupRuleVetoUnder_eq_none rule
  have noAge : (ScoringEngine.fromConfig .default 0 : ScoringEngine F).minFileAge = 0 := rfl
  have quiet : ActiveReferenceSummary.default.safeReclaimReason = none := rfl
  simp only [ScoringEngine.vetoReasonUnder, orElse_eq_none, ite_some_eq_none, rule, report, noAge]
  unfold WalkEntry.heldForItself at free
  simp only [Bool.or_eq_false_iff, Option.isSome_eq_false_iff, Option.isNone_iff_eq_none] at free
  obtain ⟨⟨⟨⟨git, dotGit⟩, system⟩, manifest⟩, bundle⟩ := free
  simp_all [WalkEntry.idleInput, sacredOverlapVetoReason]

/-- A cleanup rule holds back what it matches exactly if no other label takes the place of its
own, if the rule under that label is as strict, or if the directory is held back for itself.
-/
theorem ruleGoverns_iff {catalog : LabeledCatalog} {registry : ArtifactPatternRegistry F}
    {platform : PlatformContext} {entry : WalkEntry F} {rule : CleanupRule}
    {opaquePruning : Bool} {world : FileWorld} {context : OpaqueTreeContext}
    (shipped : platform.cleanupRules ⊆ catalog.rules)
    (walked : entry.opaqueTree = walkVerdict opaquePruning world entry.path context)
    (matched : matchScanVisibleRule ⟨none, platform.home⟩ entry.path platform.cleanupRules
      = some rule)
    : RuleGoverns catalog registry platform entry rule
      ↔ ∀ label, replacingLabel rule entry = some label
        → rule.heldUntil ≤ catalog.heldUntil label ∨ entry.heldForItself = true := by
  obtain ⟨listed, visible⟩ := matchScanVisibleRule_eq_some matched
  constructor
  · intro governs label replaced
    obtain ⟨replacing, classification, scored, rfl⟩ :=
      @scored_of_replaced F _ registry _ _ _ _ _ _ _ walked matched replaced
    by_contra lost
    obtain ⟨laxer, free⟩ := not_or.mp lost
    obtain ⟨age, below⟩ := WithTop.ne_top_iff_exists.mp (not_le.mp laxer).ne_top
    have young : WithTop.some age < rule.heldUntil := by
      rw [below]
      exact not_le.mp laxer
    have unvetoed := idleInput_unvetoed replacing (Bool.eq_false_iff.mpr free) below.ge
    have vetoed := governs (.fromConfig .default 0) (entry.idleInput classification age) [] rfl
      rfl scored ((CleanupRule.lt_heldUntil_iff visible).mp young)
    rw [unvetoed] at vetoed
    cases vetoed
  · intro kept engine input overlaps path signals scored asks
    have young := (CleanupRule.lt_heldUntil_iff visible).mpr asks
    apply Option.isSome_iff_ne_none.mpr
    intro unvetoed
    have old := heldUntil_le_of_unvetoed unvetoed
    rcases label_of_scored matched scored with replaced | own
    · have replacing := (@scored_of_replaced F _ registry _ _ _ _ _ _ _ walked matched replaced).1
      have free := heldForItself_of_unvetoed replacing path signals unvetoed
      rcases kept _ replaced with strict | held
      · exact absurd (strict.trans old) (not_le.mpr young)
      · exact absurd held (Bool.eq_false_iff.mp free)
    · rw [own, catalog.heldUntil_scannerLabel (shipped listed)] at old
      exact absurd old (not_le.mpr young)

def linuxCatalog : LabeledCatalog := ⟨linuxCleanupRules, by decide⟩

def linuxPlatform : PlatformContext := ⟨linuxCleanupRules, none⟩

/-- An empty directory named like a build directory. -/
def tmpTarget (opaquePruning : Bool) : WalkEntry ℚ where
  path := ⟨"/tmp/x-target"⟩
  metadata := ⟨0, 0, 0, none, true, 1, 1, .directory, 0⟩
  depth := 1
  structuralSignals := .default
  isOpen := false
  opaqueTree := walkVerdict opaquePruning emptyDirectories ⟨"/tmp/x-target"⟩ ⟨false, false⟩

def tmpDashTarget : CleanupRule :=
  cleanupRule "linux-tmp-dash-target" "/tmp/*-target" (.fromHours 24) .required .removeTree .likely

theorem tmpTarget_matched (opaquePruning : Bool)
    : matchScanVisibleRule ⟨none, linuxPlatform.home⟩ (tmpTarget opaquePruning).path
        linuxPlatform.cleanupRules
      = some tmpDashTarget := by
  have bytes : Texts.bytes "/tmp/x-target"
      = [47, 116, 109, 112, 47, 120, 45, 116, 97, 114, 103, 101, 116] := by decide
  have glob : Texts.bytes "/tmp/*-target"
      = [47, 116, 109, 112, 47, 42, 45, 116, 97, 114, 103, 101, 116] := by decide
  have fits : globMatch "/tmp/*-target" "/tmp/x-target" = true := by
    unfold globMatch
    rw [bytes, glob]
    simp +decide only [globMatchBytes]
    exact List.any_eq_true.mpr ⟨1, by decide, by simp [globMatchBytes]⟩
  have text : normalizeText "/tmp/x-target" = "/tmp/x-target" := by decide
  have pattern : normalizeText "/tmp/*-target" = "/tmp/*-target" := by decide
  have aliases : pathAliases "/tmp/x-target" = ["/tmp/x-target", "/private/tmp/x-target"] := by
    decide
  have absolute : Texts.stripPrefix "/tmp/*-target" "~/" = none := by decide
  have matched : pathMatchesGlob ⟨none, none⟩ ⟨"/tmp/x-target"⟩ "/tmp/*-target" = true := by
    simp [pathMatchesGlob, text, pattern, aliases, absolute, fits]
  have visible : tmpDashTarget.isScanVisibleCandidate = true := by decide
  apply List.find?_cons_of_pos
  exact Bool.and_eq_true_iff.mpr ⟨visible, matched⟩


/-- A walker that does not prune leaves the directory to its rule. -/
theorem ruleGoverns_tmpTarget
    : RuleGoverns linuxCatalog .default linuxPlatform (tmpTarget false) tmpDashTarget := by
  have kept : replacingLabel tmpDashTarget (tmpTarget false) = none := by decide
  have walked : (tmpTarget false).opaqueTree
      = walkVerdict false emptyDirectories (tmpTarget false).path ⟨false, false⟩ := rfl
  refine (ruleGoverns_iff (List.Subset.refl _) walked (tmpTarget_matched false)).mpr ?_
  intro label replaced
  rw [kept] at replaced
  cases replaced

/-- Nominated before the walker goes into it, the directory is not held for its day. -/
theorem nominated_directory_ungoverned
    : matchScanVisibleRule ⟨none, linuxPlatform.home⟩ (tmpTarget true).path
          linuxPlatform.cleanupRules
        = some tmpDashTarget
      ∧ tmpDashTarget.ageThreshold = .fromHours 24
      ∧ ¬ RuleGoverns linuxCatalog .default linuxPlatform (tmpTarget true) tmpDashTarget := by
  refine ⟨tmpTarget_matched true, rfl, ?_⟩
  intro governs
  have replaced : replacingLabel tmpDashTarget (tmpTarget true) = some "opaque-cargo-target" := by
    decide
  obtain ⟨replacing, classification, scored, label⟩ :=
    @scored_of_replaced ℚ _ .default linuxPlatform _ _ true emptyDirectories ⟨false, false⟩ _
      rfl (tmpTarget_matched true) replaced
  have free : (tmpTarget true).heldForItself = false := by decide
  have old : linuxCatalog.heldUntil classification.patternName
      ≤ .some (Duration.fromHours 1) := by
    have unlisted : linuxCatalog.heldUntil "opaque-cargo-target" = .some 0 := rfl
    rw [label, unlisted]
    exact WithTop.coe_le_coe.mpr (Nat.zero_le _)
  rw [← label] at replacing
  have unvetoed := idleInput_unvetoed replacing free old
  have young : Duration.fromHours 1 < tmpDashTarget.ageThreshold := by decide
  have vetoed := governs (.fromConfig .default 0)
    ((tmpTarget true).idleInput classification (.fromHours 1)) [] rfl rfl scored
    (Or.inr (Or.inr young))
  rw [unvetoed] at vetoed
  cases vetoed

end StorageBallast
