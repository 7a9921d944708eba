import StorageBallast.Cli.CleanupPipelines

/-! The plans of `clean` and `emergency`, against the candidates of `scan`.
Both commands classify every entry by its name and structure, also the ones that the walker
has a verdict on, so they agree with `scan` exactly as far as no such entry gets a score to
be deleted.
-/

namespace StorageBallast

variable {F : Type} [Float64 F]

open scoped Float64

namespace CommandSetup

variable {setup : CommandSetup F} {engine : ScoringEngine F}

theorem passes_iff {minScore urgency : F} {input : CandidateInput F} {overlaps : List SacredOverlap}
    : passes minScore (engine.scoreCandidateWithSacredOverlaps input urgency overlaps) = true
      ↔ engine.vetoReason input overlaps = none
        ∧ Float64.ge (engine.unvetoedScore input urgency).totalScore minScore = true := by
  rcases engine.scoreCandidateWithSacredOverlaps_cases input urgency overlaps with
    ⟨reason, refused, same⟩ | ⟨unvetoed, same⟩
  · simp [same, refused, passes, ScoringEngine.vetoed]
  · simp [same, unvetoed, passes, ScoringEngine.unvetoedScore]

/-- Nothing vetoes the input, with the overlaps of its path taken into account, and its score
is high enough.
-/
def Clears (setup : CommandSetup F) (engine : ScoringEngine F) (urgency minScore : F)
    (input : CandidateInput F) : Prop :=
  ∃ overlaps,
    findSacredOverlaps setup.world.protection input.path setup.sacredPaths = .ok overlaps
    ∧ engine.vetoReason input overlaps = none
    ∧ Float64.ge (engine.unvetoedScore input urgency).totalScore minScore = true

/-- A score with a deferred check passes exactly if its input clears everything, and then it
is the one that comes from the factors.
-/
theorem deferredScore_spec (engine : ScoringEngine F) (urgency minScore : F)
    (input : CandidateInput F)
    : let score := setup.scoreCandidateWithDeferredSacredCheck engine input urgency
        (passes minScore)
      (passes minScore score = true ↔ setup.Clears engine urgency minScore input)
      ∧ (setup.Clears engine urgency minScore input →
        score = engine.unvetoedScore input urgency) := by
  intro score
  have base_of (clears : setup.Clears engine urgency minScore input)
      : passes minScore (engine.scoreCandidate input urgency) = true := by
    obtain ⟨overlaps, _, unvetoed, enough⟩ := clears
    exact passes_iff.mpr ⟨(ScoringEngine.vetoReason_without_evidence rfl unvetoed).1, enough⟩
  cases base : passes minScore (engine.scoreCandidate input urgency) with
  | false =>
      have same : score = engine.scoreCandidate input urgency := by
        simp [score, scoreCandidateWithDeferredSacredCheck, base]
      have blocked : ¬ setup.Clears engine urgency minScore input := fun clears => by
        simp [base_of clears] at base
      simp [same, base, blocked]
  | true =>
      cases found : findSacredOverlaps setup.world.protection input.path setup.sacredPaths with
      | error fault =>
          have blocked : ¬ setup.Clears engine urgency minScore input := by
            rintro ⟨overlaps, known, _⟩
            simp [found] at known
          have same : score = engine.hardVeto input
              ("sacred overlap check failed: " ++ fault.toSbhError.toString) := by
            simp [score, scoreCandidateWithDeferredSacredCheck, base, found]
          have vetoed : passes minScore score = false := by
            rw [same]
            simp [passes, ScoringEngine.hardVeto, ScoringEngine.vetoed]
          simp [vetoed, blocked]
      | ok overlaps =>
          have same : score
              = engine.scoreCandidateWithSacredOverlaps input urgency overlaps := by
            simp [score, scoreCandidateWithDeferredSacredCheck, base, found]
          rw [same, passes_iff]
          constructor
          · constructor
            · rintro ⟨unvetoed, enough⟩
              exact ⟨overlaps, found, unvetoed, enough⟩
            · rintro ⟨others, known, unvetoed, enough⟩
              cases found.symm.trans known
              exact ⟨unvetoed, enough⟩
          · rintro ⟨others, known, unvetoed, _⟩
            cases found.symm.trans known
            simp [ScoringEngine.scoreCandidateWithSacredOverlaps, unvetoed]

/-- An entry that clears everything does so without a look at processes. -/
theorem passes_candidateInput {urgency minScore : F}
    {entry : WalkEntry F} {classification : ArtifactClassification F}
    (clears : setup.Clears engine urgency minScore
      (setup.referencedInput entry classification))
    : passes minScore
        (engine.scoreCandidate (setup.candidateInput entry classification) urgency) = true := by
  obtain ⟨overlaps, _, unvetoed, enough⟩ := clears
  have bare := (@ScoringEngine.vetoReason_without_evidence F engine engine _ _ rfl unvetoed).2
  exact passes_iff.mpr ⟨bare, enough⟩

def Reclaims (setup : CommandSetup F) (engine : ScoringEngine F) (urgency minScore : F)
    (entry : WalkEntry F) : Prop :=
  let input := setup.referencedInput entry (setup.registryClassification entry)
  setup.Clears engine urgency minScore input
  ∧ (engine.unvetoedScore input urgency).decision.action = .delete

theorem reclaimScore_input (engine : ScoringEngine F) (urgency minScore : F)
    (entry : WalkEntry F)
    : let classification := setup.registryClassification entry
      let bare := setup.candidateInput entry classification
      let input :=
        if passes minScore (engine.scoreCandidate bare urgency) then
          setup.referencedInput entry classification
        else bare
      setup.reclaimScore engine urgency minScore entry
        = { setup.scoreCandidateWithDeferredSacredCheck engine input urgency
              (passes minScore) with
            identity := some entry.metadata.identity } := rfl

/-- A score is enough and says to delete exactly if its entry is one to reclaim. -/
theorem reclaimScore_spec (engine : ScoringEngine F) (urgency minScore : F)
    (entry : WalkEntry F)
    : (passes minScore (setup.reclaimScore engine urgency minScore entry) = true
        ∧ (setup.reclaimScore engine urgency minScore entry).decision.action = .delete)
      ↔ setup.Reclaims engine urgency minScore entry := by
  let classification := setup.registryClassification entry
  let bare := setup.candidateInput entry classification
  let full := setup.referencedInput entry classification
  cases cheap : passes minScore (engine.scoreCandidate bare urgency) with
  | false =>
      have same : setup.reclaimScore engine urgency minScore entry
          = { engine.scoreCandidate bare urgency with
              identity := some entry.metadata.identity } := by
        simp [reclaimScore_input, cheap, bare, classification,
          scoreCandidateWithDeferredSacredCheck]
      have refused : passes minScore (setup.reclaimScore engine urgency minScore entry)
          = false := by
        rw [same]
        exact cheap
      constructor
      · rintro ⟨enough, _⟩
        simp [refused] at enough
      · rintro ⟨clears, _⟩
        have enough := passes_candidateInput clears
        simp [bare, classification, enough] at cheap
  | true =>
      have same : setup.reclaimScore engine urgency minScore entry
          = { setup.scoreCandidateWithDeferredSacredCheck engine full urgency
                (passes minScore) with
              identity := some entry.metadata.identity } := by
        simp [reclaimScore_input, cheap, bare, full, classification]
      obtain ⟨spec, fromFactors⟩ := @deferredScore_spec F _ setup engine urgency minScore full
      rw [same]
      constructor
      · rintro ⟨enough, action⟩
        have clears := spec.mp enough
        refine ⟨clears, ?_⟩
        rw [← fromFactors clears]
        exact action
      · rintro ⟨clears, action⟩
        refine ⟨spec.mpr clears, ?_⟩
        dsimp only
        rw [fromFactors clears]
        exact action

/-- Every score of an entry keeps the path and the classification it was computed from. -/
theorem deferredScore_subject (engine : ScoringEngine F) (input : CandidateInput F)
    (urgency : F) (shouldCheck : CandidacyScore F → Bool)
    : let score := setup.scoreCandidateWithDeferredSacredCheck engine input urgency shouldCheck
      score.path = input.path ∧ score.classification = input.classification := by
  unfold scoreCandidateWithDeferredSacredCheck
  dsimp only
  split
  · exact engine.scoreCandidateWithSacredOverlaps_subject input urgency []
  · split
    · exact engine.scoreCandidateWithSacredOverlaps_subject input urgency _
    · exact ⟨rfl, rfl⟩

theorem reclaimScore_subject (engine : ScoringEngine F) (urgency minScore : F)
    (entry : WalkEntry F)
    : (setup.reclaimScore engine urgency minScore entry).path = entry.path
      ∧ (setup.reclaimScore engine urgency minScore entry).classification
        = setup.registryClassification entry := by
  rw [reclaimScore_input]
  obtain ⟨path, classification⟩ := @deferredScore_subject F _ setup engine
    (if passes minScore (engine.scoreCandidate
        (setup.candidateInput entry (setup.registryClassification entry)) urgency) then
      setup.referencedInput entry (setup.registryClassification entry)
    else setup.candidateInput entry (setup.registryClassification entry))
    urgency (passes minScore)
  refine ⟨path.trans ?_, classification.trans ?_⟩
  · split <;> rfl
  · split <;> rfl

theorem mem_plan {config : DeletionConfig F} {candidates : List (CandidacyScore F)}
    {score : CandidacyScore F}
    : score ∈ (config.plan candidates).candidates
      ↔ score ∈ candidates ∧ passes config.minScore score = true
        ∧ score.decision.action = .delete := by
  simp only [DeletionConfig.plan, List.mem_insertionSort, List.mem_filter, passes,
    Bool.and_eq_true, beq_iff_eq]
  tauto

theorem mem_cleanPlan (args : CleanArgs F) (entries : List (WalkEntry F))
    (score : CandidacyScore F)
    : score ∈ (setup.cleanPlan args entries).candidates
      ↔ ∃ entry ∈ entries, setup.Reclaims (setup.cleanEngine args) 0.0 args.minScore entry
          ∧ setup.cleanScore args entry = score := by
  simp only [cleanPlan, mem_plan, cleanDeletionConfig, List.mem_filter, List.mem_map]
  constructor
  · rintro ⟨⟨⟨entry, known, rfl⟩, _⟩, enough, action⟩
    exact ⟨entry, known, (reclaimScore_spec _ _ _ entry).mp ⟨enough, action⟩, rfl⟩
  · rintro ⟨entry, known, reclaims, rfl⟩
    obtain ⟨enough, action⟩ := (reclaimScore_spec _ _ _ entry).mpr reclaims
    exact ⟨⟨⟨entry, known, rfl⟩, enough⟩, enough, action⟩

theorem mem_emergencyPlan (entries : List (WalkEntry F)) (score : CandidacyScore F)
    : score ∈ (setup.emergencyPlan entries).candidates
      ↔ ∃ entry ∈ entries,
          setup.Reclaims setup.engine 0.8 setup.config.scoring.minScore entry
          ∧ setup.emergencyScore entry = score := by
  simp only [emergencyPlan, mem_plan, emergencyDeletionConfig, List.mem_filter, List.mem_map,
    Config.cleanupSettings]
  constructor
  · rintro ⟨⟨⟨entry, known, rfl⟩, _⟩, enough, action⟩
    exact ⟨entry, known, (reclaimScore_spec _ _ _ entry).mp ⟨enough, action⟩, rfl⟩
  · rintro ⟨entry, known, reclaims, rfl⟩
    obtain ⟨enough, action⟩ := (reclaimScore_spec _ _ _ entry).mpr reclaims
    have unvetoed := enough
    simp only [passes, Bool.and_eq_true] at unvetoed
    exact ⟨⟨⟨entry, known, rfl⟩, unvetoed.1⟩, enough, action⟩

/-- The walker's verdict on an entry, if it has one, nominates it with the classification
that its name and structure give.
-/
def VerdictAgrees (setup : CommandSetup F) (entry : WalkEntry F) : Prop :=
  ∀ verdict, entry.opaqueTree = some verdict →
    verdict.disposition = .candidateOpaque
    ∧ verdict.classification = setup.registryClassification entry

theorem verdictAgrees_iff {entry : WalkEntry F}
    : setup.VerdictAgrees entry
      ↔ setup.scanClassification entry = some (setup.registryClassification entry) := by
  unfold VerdictAgrees scanClassification
  cases found : entry.opaqueTree with
  | none => simp
  | some verdict => cases disposition : verdict.disposition <;> simp [disposition]

def ScoresAgree (setup : CommandSetup F) (scoreOf : WalkEntry F → CandidacyScore F)
    (entries : List (WalkEntry F)) (plan : DeletionPlan F) : Prop :=
  ∀ entry ∈ entries, scoreOf entry ∈ plan.candidates →
    setup.scanClassification entry = some (scoreOf entry).classification

/-- What is claimed of `clean`: its planned entries are classified as by the scan, and every
scan with the same minimum score that reports all it finds reports the planned paths.
-/
def CleanAgrees (setup : CommandSetup F) (args : CleanArgs F) : Prop :=
  ∀ entries, setup.walk = .ok entries →
    setup.ScoresAgree (setup.cleanScore args) entries (setup.cleanPlan args entries)
    ∧ ∀ scanArgs : ScanArgs F, scanArgs.minScore = args.minScore →
        (setup.scanCandidates scanArgs entries).length ≤ scanArgs.top →
        ∀ planned ∈ (setup.cleanPlan args entries).candidates,
          ∃ reported ∈ setup.scanReport scanArgs entries, reported.path = planned.path

/-- What is claimed of `emergency`: its planned entries are classified as by the scan. -/
def EmergencyAgrees (setup : CommandSetup F) : Prop :=
  ∀ entries, setup.walk = .ok entries →
    setup.ScoresAgree setup.emergencyScore entries (setup.emergencyPlan entries)

/-- The engines of `clean` and of the scan veto alike and give the same totals. -/
theorem engine_of_cleanEngine (args : CleanArgs F) (input : CandidateInput F) (urgency : F)
    (overlaps : List SacredOverlap)
    : (setup.cleanEngine args).vetoReason input overlaps
        = setup.engine.vetoReason input overlaps
      ∧ ((setup.cleanEngine args).unvetoedScore input urgency).totalScore
        = (setup.engine.unvetoedScore input urgency).totalScore := ⟨rfl, rfl⟩

/-- What clears everything for `clean` also does for the scan. -/
theorem clears_engine {args : CleanArgs F} {urgency minScore : F} {input : CandidateInput F}
    (clears : setup.Clears (setup.cleanEngine args) urgency minScore input)
    : setup.Clears setup.engine urgency minScore input := by
  obtain ⟨overlaps, known, unvetoed, enough⟩ := clears
  obtain ⟨sameVeto, sameTotal⟩ := @engine_of_cleanEngine F _ setup args input urgency overlaps
  rw [sameVeto] at unvetoed
  rw [sameTotal] at enough
  exact ⟨overlaps, known, unvetoed, enough⟩

/-- The scan finds every entry that clears everything and that it classifies by its name. -/
theorem passes_scanScore {args : ScanArgs F} {entry : WalkEntry F}
    (clears : setup.Clears setup.engine 0.0 args.minScore
      (setup.referencedInput entry (setup.registryClassification entry)))
    (classified : setup.scanClassification entry = some (setup.registryClassification entry))
    : ∃ score, setup.scanScore args entry = some score
        ∧ passes args.minScore score = true ∧ score.path = entry.path := by
  have cheap := passes_candidateInput clears
  let full := setup.referencedInput entry (setup.registryClassification entry)
  let bare := setup.candidateInput entry (setup.registryClassification entry)
  simp only [scanScore, classified, Option.map_some, Option.some.injEq, exists_eq_left', cheap,
    Bool.and_true]
  cases explain : args.explain with
  | false =>
      refine ⟨?_, (deferredScore_subject setup.engine bare 0.0 _).1⟩
      simp only [scoreCandidateWithDeferredSacredCheck, Bool.not_false, if_true,
        Bool.false_eq_true, if_false]
      exact cheap
  | true =>
      refine ⟨?_, (deferredScore_subject setup.engine full 0.0 _).1⟩
      obtain ⟨overlaps, known, unvetoed, enough⟩ := clears
      have same : setup.scoreCandidateWithDeferredSacredCheck setup.engine full 0.0
          (fun _ => true) = setup.engine.scoreCandidateWithSacredOverlaps full 0.0 overlaps := by
        simp [scoreCandidateWithDeferredSacredCheck, full, known]
      simp only [if_true, full] at same ⊢
      rw [same]
      exact passes_iff.mpr ⟨unvetoed, enough⟩

variable {entries : List (WalkEntry F)}

/-- With every verdict on its entries in agreement, what `clean` plans the scan reports. -/
theorem mem_scanReport_of_cleanPlan {args : CleanArgs F}
    {scanArgs : ScanArgs F} {planned : CandidacyScore F}
    (agree : ∀ entry ∈ entries,
      setup.Reclaims (setup.cleanEngine args) 0.0 args.minScore entry →
      setup.VerdictAgrees entry)
    (sameMin : scanArgs.minScore = args.minScore)
    (all : (setup.scanCandidates scanArgs entries).length ≤ scanArgs.top)
    (known : planned ∈ (setup.cleanPlan args entries).candidates)
    : ∃ reported ∈ setup.scanReport scanArgs entries, reported.path = planned.path := by
  obtain ⟨entry, listed, reclaims, rfl⟩ := (mem_cleanPlan args entries planned).mp known
  have classified := verdictAgrees_iff.mp (agree entry listed reclaims)
  have clears := clears_engine reclaims.1
  rw [← sameMin] at clears
  obtain ⟨score, scored, enough, path⟩ := passes_scanScore clears classified
  refine ⟨score, ?_, path.trans (reclaimScore_subject _ _ _ entry).1.symm⟩
  rw [scanReport, List.take_of_length_le all]
  simp only [scanCandidates, List.mem_insertionSort, List.mem_filter, List.mem_filterMap]
  exact ⟨⟨entry, listed, scored⟩, enough⟩

/-- A plan of exactly the reclaimed entries agrees with the scan if the verdicts on them do. -/
theorem scoresAgree_iff {urgency minScore : F} {plan : DeletionPlan F}
    (planned : ∀ score, score ∈ plan.candidates
      ↔ ∃ entry ∈ entries, setup.Reclaims engine urgency minScore entry
          ∧ setup.reclaimScore engine urgency minScore entry = score)
    : setup.ScoresAgree (setup.reclaimScore engine urgency minScore) entries plan
      ↔ ∀ entry ∈ entries, setup.Reclaims engine urgency minScore entry →
          setup.VerdictAgrees entry := by
  constructor
  · intro agrees entry listed reclaims
    have classified := agrees entry listed
      ((planned _).mpr ⟨entry, listed, reclaims, rfl⟩)
    rw [verdictAgrees_iff, classified]
    exact congrArg some (reclaimScore_subject engine urgency minScore entry).2
  · intro agree entry listed known
    obtain ⟨other, _, reclaims, same⟩ := (planned _).mp known
    have itself : setup.Reclaims engine urgency minScore entry := by
      rw [← reclaimScore_spec, ← same]
      exact (reclaimScore_spec engine urgency minScore other).mpr reclaims
    rw [verdictAgrees_iff.mp (agree entry listed itself)]
    exact congrArg some (reclaimScore_subject engine urgency minScore entry).2.symm

/-- Both commands agree with the scan exactly if the walker has no other verdict on any entry
that its name and structure alone make one to reclaim.
-/
theorem cleanup_agrees_iff (args : CleanArgs F) (emergency : CommandSetup F)
    : (setup.CleanAgrees args
        ↔ ∀ entries, setup.walk = .ok entries → ∀ entry ∈ entries,
            setup.Reclaims (setup.cleanEngine args) 0.0 args.minScore entry →
            setup.VerdictAgrees entry)
      ∧ (emergency.EmergencyAgrees
        ↔ ∀ entries, emergency.walk = .ok entries → ∀ entry ∈ entries,
            emergency.Reclaims emergency.engine 0.8 emergency.config.scoring.minScore entry →
            emergency.VerdictAgrees entry) := by
  constructor
  · constructor
    · intro agrees entries walked
      exact (scoresAgree_iff (mem_cleanPlan args entries)).mp (agrees entries walked).1
    · intro agree entries walked
      refine ⟨(scoresAgree_iff (mem_cleanPlan args entries)).mpr (agree entries walked), ?_⟩
      intro scanArgs sameMin all planned known
      exact mem_scanReport_of_cleanPlan (agree entries walked) sameMin all known
  · constructor
    · intro agrees entries walked
      exact (scoresAgree_iff (mem_emergencyPlan entries)).mp (agrees entries walked)
    · intro agree entries walked
      exact (scoresAgree_iff (mem_emergencyPlan entries)).mpr (agree entries walked)

/-- A project without a manifest, with a build directory that has the markers of one. -/
def vendoredDirs : Listings := [
  (⟨"/data/projects"⟩, [⟨"app", some .directory⟩]),
  (⟨"/data/projects/app"⟩, [⟨".target-foo", some .directory⟩]),
  (⟨"/data/projects/app/.target-foo"⟩, [
    ⟨".fingerprint", some .directory⟩,
    ⟨"deps", some .directory⟩,
    ⟨"incremental", some .directory⟩,
    ⟨"app.bin", some .file⟩]),
  (⟨"/data/projects/app/.target-foo/.fingerprint"⟩, []),
  (⟨"/data/projects/app/.target-foo/deps"⟩, []),
  (⟨"/data/projects/app/.target-foo/incremental"⟩, [])]

/-- Both commands ten days after the tree was made, without processes that use it. -/
def vendored : CommandSetup ℚ :=
  .emergency {
    files := vendoredDirs.files 10000000
    protection := vendoredDirs.protection
    platform := ⟨linuxCleanupRules, none⟩
    platformSacredPaths := []
    now := 864000000000000
    openPaths := []
    summaryForIdentity := fun _ => .default
  } [⟨"/data/projects"⟩] (fun _ => false)

def vendoredArgs : CleanArgs ℚ := ⟨none, 7 / 10, none, true⟩

def vendoredEntries : List (WalkEntry ℚ) :=
  match vendored.walk with
  | .ok entries => entries
  | .error _ => []

theorem vendored_walk : vendored.walk = .ok vendoredEntries := rfl

/-- A plan with the score of an entry that the scan does not take up agrees with no scan. What
is planned goes by the score alone, here that of one reclaimed entry.
-/
theorem not_scoresAgree {urgency minScore : F} {plan : DeletionPlan F}
    (planned : ∀ score, score ∈ plan.candidates ↔ ∃ entry ∈ entries,
      setup.Reclaims engine urgency minScore entry
        ∧ setup.reclaimScore engine urgency minScore entry = score)
    (strays : ∃ entry ∈ entries, setup.scanClassification entry = none
      ∧ passes minScore (setup.reclaimScore engine urgency minScore entry) = true
      ∧ (setup.reclaimScore engine urgency minScore entry).decision.action = .delete)
    : ¬ setup.ScoresAgree (setup.reclaimScore engine urgency minScore) entries plan := by
  intro agrees
  obtain ⟨entry, listed, unclassified, enough, action⟩ := strays
  have reclaims := (reclaimScore_spec _ _ _ entry).mp ⟨enough, action⟩
  have classified := agrees entry listed ((planned _).mpr ⟨entry, listed, reclaims, rfl⟩)
  simp [unclassified] at classified

/-- Both commands plan to delete the build directory, which the walker takes for a signal. -/
theorem vendored_plans_signal
    : ¬ vendored.CleanAgrees vendoredArgs ∧ ¬ vendored.EmergencyAgrees := by
  constructor
  · intro cleans
    refine not_scoresAgree (mem_cleanPlan vendoredArgs vendoredEntries) ?_
      (cleans vendoredEntries vendored_walk).1
    decide +kernel
  · intro emergency
    refine not_scoresAgree (mem_emergencyPlan vendoredEntries) ?_
      (emergency vendoredEntries vendored_walk)
    decide +kernel

end CommandSetup

end StorageBallast
