import StorageBallast.Scanner.Scoring

/-! What a score with a decision to delete has passed: none of the conditions for a veto, and all
of the thresholds of the decision.
-/

namespace StorageBallast

open scoped Float64

variable {F : Type} [Float64 F]

def ReclaimCommand.removes : ReclaimCommand → Bool
  | .removeTree | .removeMatchingFiles | .promptBeforeRemove => true
  | .reportOnly | .refuse | .thinLocalSnapshots => false

structure NoVeto (engine : ScoringEngine F) (input : CandidateInput F)
    (overlaps : List SacredOverlap) : Prop where
  noGitComponent : hasGitComponent input.path = false
  noGitSignal : input.signals.hasGit = false
  notSystem : isSystemPath input.path = false
  proven
    : input.signals.hasCargoToml = true → input.signals.hasStrongSignal = true
      ∨ cleanupRuleAllowsEmbeddedManifest input.classification = true
  unambiguous : isAmbiguousTargetNameWithoutCargoMarkers input = false
  notSacred : overlaps = []
  ruleRemoves
    : ∀ rule ∈ cleanupRuleForClassification input.classification,
      rule.reclaimCommand.removes = true
  ruleAge
    : ∀ rule ∈ cleanupRuleForClassification input.classification, rule.ageThreshold ≤ input.age
  notExcluded : input.excluded = false
  /-- Neither the path nor anything it lies in has the extension of a protected bundle. -/
  notInBundle
    : ∀ components ∈ input.path.ancestors, ∀ name ∈ PathBuf.lastName components,
      ∀ found ∈ extension name, ∀ protected_ ∈ hardRefuseBundleExtensions,
      Texts.eqIgnoreAsciiCase found protected_ = false
  oldEnough : engine.minFileAge ≤ input.age
  unreferenced : ∀ process ∈ input.activeReferences.processes, process.isEmpty = true
  complete : input.activeReferences.incompleteReason = none
  closed : input.isOpen = false

variable {input : CandidateInput F}

omit [Float64 F] in
theorem reportOnlyCleanupRuleVetoReason_eq_none_iff
    : reportOnlyCleanupRuleVetoReason input = none
      ↔ ∀ rule ∈ cleanupRuleForClassification input.classification,
          rule.reclaimCommand ≠ .reportOnly := by
  unfold reportOnlyCleanupRuleVetoReason
  cases cleanupRuleForClassification input.classification with
  | none => simp
  | some rule =>
      by_cases reports : rule.reclaimCommand = .reportOnly <;> simp [reports]

omit [Float64 F] in
theorem cleanupRuleVetoReason_eq_none_iff
    : cleanupRuleVetoReason input = none
      ↔ ∀ rule ∈ cleanupRuleForClassification input.classification,
          rule.reclaimCommand.removes = true ∧ rule.ageThreshold ≤ input.age := by
  unfold cleanupRuleVetoReason
  cases cleanupRuleForClassification input.classification with
  | none => simp
  | some rule =>
      cases command : rule.reclaimCommand <;>
        simp [command, ReclaimCommand.removes]

theorem sacredOverlapVetoReason_eq_none_iff {overlaps : List SacredOverlap}
    : sacredOverlapVetoReason overlaps = none ↔ overlaps = [] := by
  cases overlaps <;> simp [sacredOverlapVetoReason]

theorem hardRefuseBundleExtension_eq_none_iff {path : PathBuf}
    : hardRefuseBundleExtension path = none
      ↔ ∀ components ∈ path.ancestors, ∀ name ∈ PathBuf.lastName components,
          ∀ found ∈ extension name, ∀ protected_ ∈ hardRefuseBundleExtensions,
          Texts.eqIgnoreAsciiCase found protected_ = false := by
  unfold hardRefuseBundleExtension
  rw [List.findSome?_eq_none_iff]
  refine forall₂_congr fun components _ => ?_
  cases PathBuf.lastName components with
  | none => simp
  | some name =>
      cases found : extension name <;> simp [found]

theorem safeReclaimReason_eq_none_iff {summary : ActiveReferenceSummary}
    : summary.safeReclaimReason = none
      ↔ (∀ process ∈ summary.processes, process.isEmpty = true)
        ∧ summary.incompleteReason = none := by
  have idle : summary.processes.filter (!·.isEmpty) = []
      ↔ ∀ process ∈ summary.processes, process.isEmpty = true := by
    rw [List.filter_eq_nil_iff]
    simp
  rw [← idle]
  unfold ActiveReferenceSummary.safeReclaimReason
  split
  · rename_i none_
    simp [none_]
  · rename_i some_
    exact iff_of_false (Option.some_ne_none _) fun both => some_ both.1

open Checks in
omit [Float64 F] in
/-- A candidate is not vetoed exactly if no condition for a veto holds. -/
theorem vetoReason_eq_none_iff {engine : ScoringEngine F} {overlaps : List SacredOverlap}
    : engine.vetoReason input overlaps = none ↔ NoVeto engine input overlaps := by
  simp only [ScoringEngine.vetoReason, orElse_eq_none, ite_some_eq_none,
    reportOnlyCleanupRuleVetoReason_eq_none_iff, cleanupRuleVetoReason_eq_none_iff,
    sacredOverlapVetoReason_eq_none_iff, Option.map_eq_none_iff,
    hardRefuseBundleExtension_eq_none_iff, safeReclaimReason_eq_none_iff]
  constructor
  · rintro ⟨git, _, system, manifest, target, sacred, rule, excluded, bundle, young, ⟨used,
      unknown⟩, inUse, _⟩
    rw [Bool.or_eq_true, not_or, Bool.not_eq_true, Bool.not_eq_true] at git
    refine {
      noGitComponent := git.1
      noGitSignal := git.2
      notSystem := Bool.not_eq_true _ ▸ system
      proven := ?_
      unambiguous := Bool.not_eq_true _ ▸ target
      notSacred := sacred
      ruleRemoves := fun matched member => (rule matched member).1
      ruleAge := fun matched member => (rule matched member).2
      notExcluded := Bool.not_eq_true _ ▸ excluded
      notInBundle := bundle
      oldEnough := Nat.not_lt.mp young
      unreferenced := used
      complete := unknown
      closed := Bool.not_eq_true _ ▸ inUse }
    intro contains
    rw [contains] at manifest
    cases strong : input.signals.hasStrongSignal with
    | true => exact Or.inl rfl
    | false =>
        rw [strong] at manifest
        simpa using manifest
  · intro clear
    refine ⟨by simp [clear.noGitComponent, clear.noGitSignal], ?_, by simp [clear.notSystem], ?_,
      by simp [clear.unambiguous], clear.notSacred, ?_, by simp [clear.notExcluded],
      clear.notInBundle, Nat.not_lt.mpr clear.oldEnough, ⟨clear.unreferenced, clear.complete⟩,
      by simp [clear.closed], trivial⟩
    · intro matched member reports
      have removes := clear.ruleRemoves matched member
      rw [reports] at removes
      cases removes
    · intro manifest
      simp only [Bool.and_eq_true, Bool.not_eq_true'] at manifest
      rcases clear.proven manifest.1.1 with strong | allowed
      · rw [manifest.1.2] at strong
        cases strong
      · rw [manifest.2] at allowed
        cases allowed
    · exact fun matched member => ⟨clear.ruleRemoves matched member, clear.ruleAge matched member⟩

def reviewBand (calibration uncertainty : F) : F :=
  Float64.mulAdd (1.0 - calibration) 2.0 (Float64.mulAdd 5.0 uncertainty 1.0)

def requiredPosterior (calibration uncertainty : F) : F :=
  Float64.clamp
    (Float64.mulAdd (1.0 - Float64.clamp calibration 0.0 1.0) 0.20
      (Float64.mulAdd 0.20 uncertainty 0.60)) 0.60 0.95

/-- What a decision to delete passes, in the order of the source. -/
theorem decideAction_eq_delete_iff
    {totalScore minScore keepLoss deleteLoss posteriorAbandoned calibration uncertainty : F}
    {fallbackActive : Bool}
    : decideAction totalScore minScore keepLoss deleteLoss posteriorAbandoned calibration
          fallbackActive uncertainty = .delete
      ↔ Float64.lt totalScore minScore = false ∧ fallbackActive = false
        ∧ Float64.le (Float64.abs (keepLoss - deleteLoss)) (reviewBand calibration uncertainty)
          = false
        ∧ Float64.lt deleteLoss keepLoss = true
        ∧ Float64.ge posteriorAbandoned (requiredPosterior calibration uncertainty) = true
        ∧ Float64.ge (deleteAdvantageRatio keepLoss deleteLoss)
          (minDeleteAdvantage calibration uncertainty) = true := by
  change (if _ then _ else
    if Float64.le _ (reviewBand calibration uncertainty) then _ else
    if _ then
      if Float64.ge posteriorAbandoned (requiredPosterior calibration uncertainty) && _ then _
      else _
    else _) = _ ↔ _
  cases Float64.lt totalScore minScore <;> cases fallbackActive <;>
    cases Float64.le (Float64.abs (keepLoss - deleteLoss)) (reviewBand calibration uncertainty) <;>
    cases Float64.lt deleteLoss keepLoss <;>
    cases Float64.ge posteriorAbandoned (requiredPosterior calibration uncertainty) <;>
    simp

omit [Float64 F] in
/-- A rule that asks first turns a decision to delete into one for a review. -/
theorem manualReviewOverride_delete {classification : ArtifactClassification F}
    {action : DecisionAction} (deletes : manualReviewOverride classification action = .delete)
    : action = .delete
      ∧ ∀ rule ∈ cleanupRuleForClassification classification,
        rule.reclaimCommand ≠ .promptBeforeRemove := by
  unfold manualReviewOverride at deletes
  split at deletes
  · cases deletes
  · rename_i overrides
    refine ⟨deletes, fun rule member prompts => overrides ⟨deletes, ?_⟩⟩
    rw [Option.mem_def.mp member]
    simp [prompts]

end StorageBallast
