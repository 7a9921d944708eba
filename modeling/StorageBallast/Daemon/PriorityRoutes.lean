import StorageBallast.Daemon.PriorityScan
import StorageBallast.Scanner.WalkRoutes

/-! What the priority pre-scan nominates, against what the walker comes to.
The pre-scan makes none of the walker's checks, so it is a sound shortcut exactly when steps
of the walker happen to lead to everything that it nominates.
-/

namespace StorageBallast

variable {F : Type} [Float64 F]

open Collecting

namespace PriorityScan

variable {scan : PriorityScan F}

/-- Everything remembered is what the file system still says. -/
structure Sound (scan : PriorityScan F) (state : PrescanState) : Prop where
  markers : Remembers scan.world.files.toFileWorld scan.start.registry state.registry
  known : ∀ dir ∈ scan.start.knownGitDirs, dir ∈ state.knownGitDirs
  repositories : ∀ dir ∈ state.knownGitDirs,
    dir ∈ scan.start.knownGitDirs ∨ scan.world.files.pathExists (dir.join ".git") = true

omit [Float64 F] in
theorem start_sound (scan : PriorityScan F) : scan.Sound scan.start where
  markers := ⟨rfl, fun _ member => absurd member List.not_mem_nil⟩
  known _ member := member
  repositories _ member := Or.inl member

omit [Float64 F] in
theorem skips_sound {state : PrescanState} (sound : scan.Sound state) (path : PathBuf)
    : scan.Sound (scan.skips state path).1
      ∧ (scan.skips state path).2 = (scan.skips scan.start path).2 := by
  obtain ⟨kept, same⟩ := shouldSkip_remembering scan.sacredPaths path
    scan.start_sound.markers sound.markers
  exact ⟨⟨kept, sound.known, sound.repositories⟩, same⟩

theorem sameAs_join {path other : PathBuf} (same : path.sameAs other = true) {name : String}
    (valid : isFileName name = true)
    : (path.join name).sameAs (other.join name) = true := by
  have components : path.components = other.components := by simpa [PathBuf.sameAs] using same
  simp [PathBuf.sameAs, PathBuf.components_join _ valid, components]

omit [Float64 F] in
theorem isGitRepo_sound {state : PrescanState} (sound : scan.Sound state) (path : PathBuf)
    : scan.isGitRepo state path = scan.isGitRepo scan.start path := by
  have exists_of {dir : PathBuf} (spelled : path.sameAs dir = true)
      (found : scan.world.files.pathExists (dir.join ".git") = true)
      : scan.world.files.pathExists (path.join ".git") = true := by
    rw [scan.world.files.pathExists_congr (sameAs_join spelled (by decide)), found]
  rw [Bool.eq_iff_iff]
  simp only [isGitRepo, Bool.or_eq_true, List.any_eq_true]
  constructor
  · rintro (⟨dir, member, spelled⟩ | found)
    · rcases sound.repositories dir member with before | found
      · exact Or.inl ⟨dir, before, spelled⟩
      · exact Or.inr (exists_of spelled found)
    · exact Or.inr found
  · rintro (⟨dir, member, spelled⟩ | found)
    · exact Or.inl ⟨dir, sound.known dir member, spelled⟩
    · exact Or.inr found

omit [Float64 F] in
theorem noteGitRepo_sound {state : PrescanState} (sound : scan.Sound state) (path : PathBuf)
    : scan.Sound (scan.noteGitRepo state path) := by
  unfold noteGitRepo
  split
  · rename_i noted
    refine ⟨sound.markers, fun dir member => List.mem_append_left _ (sound.known dir member), ?_⟩
    intro dir member
    rcases List.mem_append.mp member with before | now
    · exact sound.repositories dir before
    · cases List.mem_singleton.mp now
      exact Or.inr (Bool.and_eq_true .. ▸ noted).2
  · exact sound

def looksAt (scan : PriorityScan F) (path : PathBuf) : Bool :=
  scan.world.files.isDir path && !(scan.skips scan.start path).2

/-- The paths that wait to be scored after a look at a directory below the first level. -/
def prospectsBelow (scan : PriorityScan F) (deeper : PathBuf → List PathBuf) (path : PathBuf)
    : List PathBuf :=
  if scan.looksAt path && !scan.isGitRepo scan.start path then
    if scan.isArtifact path then [path] else deeper path
  else []

/-- The candidate that a waiting path becomes, if it does. -/
def nominationsOf (scan : PriorityScan F) (path : PathBuf) : List (Nomination F) :=
  if !(scan.skips scan.start path).2 && scan.isArtifact path then
    match scan.score path with
    | none => []
    | some score => if score.decision.action = .delete then [scan.nominate score] else []
  else []

theorem visitBelow_answers {deeper : PrescanState → PathBuf → PrescanState × List PathBuf}
    {results : PathBuf → List PathBuf} (answers : Answers scan.Sound deeper results)
    : Answers scan.Sound (scan.visitBelow deeper) (scan.prospectsBelow results) := by
  intro state path sound
  obtain ⟨kept, sameSkip⟩ := skips_sound sound path
  have sameRepo := isGitRepo_sound kept path
  unfold visitBelow prospectsBelow looksAt
  dsimp only
  rw [sameSkip, sameRepo]
  cases directory : scan.world.files.isDir path with
  | false => exact ⟨sound, by simp⟩
  | true =>
      cases skipped : (scan.skips scan.start path).2 with
      | true => exact ⟨kept, by simp⟩
      | false =>
          cases repo : scan.isGitRepo scan.start path with
          | true => exact ⟨noteGitRepo_sound kept path, by simp⟩
          | false =>
              cases artifact : scan.isArtifact path with
              | true => exact ⟨kept, by simp⟩
              | false => simpa using answers _ path kept

def prospectsDepth3 (scan : PriorityScan F) : PathBuf → List PathBuf :=
  scan.prospectsBelow fun _ => []

def prospectsDepth2 (scan : PriorityScan F) : PathBuf → List PathBuf :=
  scan.prospectsBelow fun path => (scan.childPaths path).flatMap scan.prospectsDepth3

theorem visitDepth3_answers : Answers scan.Sound scan.visitDepth3 scan.prospectsDepth3 :=
  visitBelow_answers fun _ _ sound => ⟨sound, rfl⟩

theorem visitDepth2_answers : Answers scan.Sound scan.visitDepth2 scan.prospectsDepth2 :=
  visitBelow_answers fun _ path sound =>
    visitDepth3_answers.collect _ (scan.childPaths path) sound

theorem scorePath_answers : Answers scan.Sound scan.scorePath scan.nominationsOf := by
  intro state path sound
  obtain ⟨kept, sameSkip⟩ := skips_sound sound path
  unfold scorePath nominationsOf
  dsimp only
  rw [sameSkip]
  cases (scan.skips scan.start path).2 with
  | true => exact ⟨kept, by simp⟩
  | false =>
      cases scan.isArtifact path with
      | false => exact ⟨kept, by simp⟩
      | true =>
          cases scan.score path with
          | none => exact ⟨kept, by simp⟩
          | some score =>
              by_cases action : score.decision.action = .delete
              · exact ⟨by simpa [action] using kept, by simp [action]⟩
              · exact ⟨by simpa [action] using kept, by simp [action]⟩

def prospectsDepth1 (scan : PriorityScan F) (path : PathBuf) : List PathBuf :=
  if scan.looksAt path then
    (if !scan.isGitRepo scan.start path && scan.isArtifact path then [path] else [])
      ++ (scan.childPaths path).flatMap scan.prospectsDepth2
  else []

theorem visitDepth1_answers
    : Answers scan.Sound scan.visitDepth1 fun path =>
        (scan.prospectsDepth1 path).flatMap scan.nominationsOf := by
  intro state path sound
  obtain ⟨kept, sameSkip⟩ := skips_sound sound path
  have sameRepo := isGitRepo_sound kept path
  obtain ⟨keptBelow, sameBelow⟩ := visitDepth2_answers.collect _ (scan.childPaths path)
    (noteGitRepo_sound kept path)
  unfold visitDepth1 prospectsDepth1 looksAt
  dsimp only
  rw [sameSkip, sameRepo]
  cases directory : scan.world.files.isDir path with
  | false => exact ⟨sound, by simp⟩
  | true =>
      cases skipped : (scan.skips scan.start path).2 with
      | true => exact ⟨kept, by simp⟩
      | false =>
          obtain ⟨keptScored, sameScored⟩ := scorePath_answers.collect _
            ((if !scan.isGitRepo scan.start path && scan.isArtifact path then [path] else [])
              ++ (scan.childPaths path).flatMap scan.prospectsDepth2) keptBelow
          simp only [sameBelow]
          refine ⟨keptScored, sameScored.trans ?_⟩
          simp

theorem nominations_eq
    : scan.nominations = scan.activeScanPaths.flatMap fun root =>
        (scan.childPaths root).flatMap fun path =>
          (scan.prospectsDepth1 path).flatMap scan.nominationsOf := by
  have roots : Answers scan.Sound scan.visitRoot fun root =>
      (scan.childPaths root).flatMap fun path =>
        (scan.prospectsDepth1 path).flatMap scan.nominationsOf :=
    fun _ root sound => visitDepth1_answers.collect _ (scan.childPaths root) sound
  exact (roots.collect _ scan.activeScanPaths scan.start_sound).2

def TakesBelow (scan : PriorityScan F) (path : PathBuf) : Prop :=
  scan.looksAt path = true ∧ scan.isGitRepo scan.start path = false
    ∧ scan.isArtifact path = true

def GoesOn (scan : PriorityScan F) (path : PathBuf) : Prop :=
  scan.looksAt path = true ∧ scan.isGitRepo scan.start path = false
    ∧ scan.isArtifact path = false

/-- The path waits to be scored: an unprotected artifact directory that is no repository, at
one of the first three levels. Below the first one nothing above it is an artifact or a
repository.
-/
inductive Waits (scan : PriorityScan F) (path : PathBuf) : Prop where
  | first (root : PathBuf) (active : root ∈ scan.activeScanPaths)
      (child : path ∈ scan.childPaths root) (taken : scan.TakesBelow path)
  | second (root upper : PathBuf) (active : root ∈ scan.activeScanPaths)
      (above : upper ∈ scan.childPaths root) (looked : scan.looksAt upper = true)
      (child : path ∈ scan.childPaths upper) (taken : scan.TakesBelow path)
  | third (root upper lower : PathBuf) (active : root ∈ scan.activeScanPaths)
      (above : upper ∈ scan.childPaths root) (looked : scan.looksAt upper = true)
      (between : lower ∈ scan.childPaths upper) (opened : scan.GoesOn lower)
      (child : path ∈ scan.childPaths lower) (taken : scan.TakesBelow path)

def Eligible (scan : PriorityScan F) (path : PathBuf) : Prop :=
  scan.Waits path ∧ ∃ score, scan.score path = some score ∧ score.decision.action = .delete

theorem mem_prospectsBelow {deeper : PathBuf → List PathBuf} {dir path : PathBuf}
    : path ∈ scan.prospectsBelow deeper dir
      ↔ (path = dir ∧ scan.TakesBelow dir) ∨ (scan.GoesOn dir ∧ path ∈ deeper dir) := by
  unfold prospectsBelow TakesBelow GoesOn
  cases scan.looksAt dir <;> cases scan.isGitRepo scan.start dir <;>
    cases scan.isArtifact dir <;> simp

theorem mem_prospectsDepth2 {dir path : PathBuf}
    : path ∈ scan.prospectsDepth2 dir
      ↔ (path = dir ∧ scan.TakesBelow dir)
        ∨ (scan.GoesOn dir ∧ path ∈ scan.childPaths dir ∧ scan.TakesBelow path) := by
  rw [prospectsDepth2, mem_prospectsBelow]
  simp only [List.mem_flatMap, prospectsDepth3, mem_prospectsBelow]
  grind

theorem mem_prospectsDepth1 {dir path : PathBuf}
    : path ∈ scan.prospectsDepth1 dir
      ↔ (path = dir ∧ scan.TakesBelow dir)
        ∨ (scan.looksAt dir = true ∧ ∃ sub ∈ scan.childPaths dir,
          path ∈ scan.prospectsDepth2 sub) := by
  unfold prospectsDepth1 TakesBelow
  cases scan.looksAt dir <;> cases scan.isGitRepo scan.start dir <;>
    cases scan.isArtifact dir <;> simp

variable {path : PathBuf}

theorem waits_iff
    : scan.Waits path
      ↔ ∃ root ∈ scan.activeScanPaths, ∃ dir ∈ scan.childPaths root,
          path ∈ scan.prospectsDepth1 dir := by
  simp only [mem_prospectsDepth1, mem_prospectsDepth2]
  constructor
  · intro waits
    cases waits with
    | first root active child taken => exact ⟨root, active, path, child, Or.inl ⟨rfl, taken⟩⟩
    | second root upper active above looked child taken =>
        exact ⟨root, active, upper, above,
          Or.inr ⟨looked, path, child, Or.inl ⟨rfl, taken⟩⟩⟩
    | third root upper lower active above looked between opened child taken =>
        exact ⟨root, active, upper, above,
          Or.inr ⟨looked, lower, between, Or.inr ⟨opened, child, taken⟩⟩⟩
  · rintro ⟨root, active, dir, child, ⟨rfl, taken⟩
      | ⟨looked, sub, below, ⟨rfl, taken⟩ | ⟨opened, deeper, taken⟩⟩⟩
    · exact .first root active child taken
    · exact .second root dir active child looked below taken
    · exact .third root dir sub active child looked below opened deeper taken

theorem scoredInput_path (path : PathBuf)
    : (scan.scoredInput path).path = path := by
  unfold scoredInput probedInput
  dsimp only
  split
  · split <;> rfl
  · rfl

theorem score_path {score : CandidacyScore F} (scored : scan.score path = some score)
    : score.path = path := by
  have subject (overlaps : List SacredOverlap) :=
    (scan.engine.scoreCandidateWithSacredOverlaps_subject (scan.scoredInput path)
      scan.request.urgency overlaps).1.trans (scoredInput_path path)
  unfold PriorityScan.score at scored
  dsimp only at scored
  split at scored
  · split at scored
    · cases scored
    · cases scored
      exact subject _
  · cases scored
    exact subject []

omit [Float64 F] in
theorem nominate_path (score : CandidacyScore F)
    : (scan.nominate score).score.path = score.path := rfl

/-- A waiting path is nominated as itself, if its score says to delete it. -/
theorem mem_nominationsOf (taken : scan.TakesBelow path) {nomination : Nomination F}
    : nomination ∈ scan.nominationsOf path
      ↔ ∃ score, scan.score path = some score ∧ score.decision.action = .delete
        ∧ nomination = scan.nominate score := by
  obtain ⟨looked, _, artifact⟩ := taken
  have unskipped : (scan.skips scan.start path).2 = false := by
    simp only [looksAt, Bool.and_eq_true, Bool.not_eq_true'] at looked
    exact looked.2
  unfold nominationsOf
  rw [unskipped, artifact]
  cases scan.score path with
  | none => simp
  | some score =>
      by_cases action : score.decision.action = .delete
      · simp [action]
      · simp [action]

theorem Waits.taken (waits : scan.Waits path)
    : scan.TakesBelow path := by
  cases waits with
  | first _ _ _ taken => exact taken
  | second _ _ _ _ _ _ taken => exact taken
  | third _ _ _ _ _ _ _ _ _ taken => exact taken

theorem exists_nomination_iff
    : (∃ nomination ∈ scan.nominations, nomination.score.path = path)
      ↔ scan.Eligible path := by
  rw [nominations_eq]
  simp only [List.mem_flatMap]
  constructor
  · rintro ⟨nomination, ⟨root, active, dir, child, waiting, prospect, member⟩, rfl⟩
    have waits : scan.Waits waiting := waits_iff.mpr ⟨root, active, dir, child, prospect⟩
    obtain ⟨score, scored, action, rfl⟩ := (mem_nominationsOf waits.taken).mp member
    rw [nominate_path, score_path scored]
    exact ⟨waits, score, scored, action⟩
  · rintro ⟨waits, score, scored, action⟩
    obtain ⟨root, active, dir, child, prospect⟩ := waits_iff.mp waits
    refine ⟨scan.nominate score, ⟨root, active, dir, child, path, prospect, ?_⟩,
      (nominate_path score).trans (score_path scored)⟩
    exact (mem_nominationsOf waits.taken).mpr ⟨score, scored, action, rfl⟩

def Adds (scan : PriorityScan F) (path : PathBuf) : Prop :=
  (∃ score ∈ scan.run.priorityCandidates, score.path = path)
  ∨ ∃ record ∈ scan.run.indexRecords, record.path = path

theorem nominations_shape {nomination : Nomination F}
    (member : nomination ∈ scan.nominations)
    : ∃ score, nomination = scan.nominate score := by
  rw [nominations_eq] at member
  simp only [List.mem_flatMap] at member
  obtain ⟨root, active, dir, child, waiting, prospect, made⟩ := member
  have waits : scan.Waits waiting := waits_iff.mpr ⟨root, active, dir, child, prospect⟩
  obtain ⟨score, _, _, same⟩ := (mem_nominationsOf waits.taken).mp made
  exact ⟨score, same⟩

omit [Float64 F] in
theorem fromCandidateScore_path {score : CandidacyScore F}
    {opaqueTree : Option (OpaqueTreeClassification F)} {generation : Nat}
    {snapshot : RecordSnapshot} {record : CandidateIndexRecord F}
    (made : CandidateIndexRecord.fromCandidateScore score opaqueTree generation snapshot
      = .ok (some record))
    : record.path = score.path := by
  unfold CandidateIndexRecord.fromCandidateScore at made
  split at made
  · cases made
  · split at made
    · cases made
    · cases made
      rfl

omit [Float64 F] in
/-- A candidate that is put on hold has a record, and its record is made for its path. -/
theorem nominate_record (score : CandidacyScore F)
    : ((scan.nominate score).onHold = true → (scan.nominate score).record.isSome)
      ∧ ∀ record, (scan.nominate score).record = some record → record.path = score.path := by
  constructor
  · intro held
    cases made : (scan.nominate score).record with
    | some record => rfl
    | none =>
        simp only [nominate] at made held
        simp [made] at held
  · intro record made
    simp only [nominate, indexRecord] at made
    split at made
    · split at made
      · rename_i outcome
        cases made
        have kept := fromCandidateScore_path outcome
        exact kept
      · cases made
    · cases made

/-- Whatever is nominated is added, be it to the candidates or to the index. -/
theorem adds_iff
    : scan.Adds path ↔ scan.Eligible path := by
  rw [← exists_nomination_iff]
  unfold Adds run
  simp only [List.mem_map, List.mem_filter, List.mem_filterMap, Bool.not_eq_true']
  constructor
  · rintro (⟨_, ⟨nomination, ⟨member, _⟩, rfl⟩, same⟩ | ⟨record, ⟨nomination, member, made⟩, same⟩)
    · exact ⟨nomination, member, same⟩
    · obtain ⟨score, rfl⟩ := nominations_shape member
      exact ⟨_, member, ((nominate_record score).2 record made).symm.trans same⟩
  · rintro ⟨nomination, member, same⟩
    obtain ⟨score, rfl⟩ := nominations_shape member
    cases held : (scan.nominate score).onHold with
    | false => exact Or.inl ⟨_, ⟨_, ⟨member, held⟩, rfl⟩, same⟩
    | true =>
        obtain ⟨record, made⟩ := Option.isSome_iff_exists.mp ((nominate_record score).1 held)
        exact Or.inr ⟨record, ⟨_, member, made⟩,
          ((nominate_record score).2 record made).trans same⟩

/-- Whatever the file system, the configuration, the roots, the request and the registry of
protected paths: everything the pre-scan adds is nominated by the walker of the same pass
exactly if no root fails that walk and steps of the walker lead to every path that is
eligible for the pre-scan; nothing in the pre-scan sees to that.
-/
theorem prescan_nominated_iff (scan : PriorityScan F) (isProtected : PathBuf → Bool)
    : (∀ path, scan.Adds path → (scan.walker isProtected).Nominates F path)
      ↔ ∀ path, scan.Eligible path →
          (scan.walker isProtected).RootsReadable scan.activeScanPaths
          ∧ ∃ root ∈ scan.activeScanPaths, ∃ rootDev,
            (scan.walker isProtected).Starts root rootDev
            ∧ (scan.walker isProtected).LeadsTo F root rootDev path := by
  simp only [adds_iff, DirectoryWalker.nominates_iff]
  exact Iff.rfl

end PriorityScan

/-- `/work/app/node_modules` and the directories above it. -/
def workDirs : Listings :=
  [(⟨"/work"⟩, [⟨"app", some .directory⟩]),
    (⟨"/work/app"⟩, [⟨"node_modules", some .directory⟩]),
    (⟨"/work/app/node_modules"⟩, [])]

/-- A pre-scan under high pressure, ten days after the tree was made, with `/work/app`
excluded from scanning.
-/
def workScan : PriorityScan ℚ where
  world := {
    files := workDirs.files 0
    protection := workDirs.protection
    resolved := fun _ above _ => above.ofNames_toPathBuf
  }
  platform := ⟨linuxCleanupRules, none⟩
  platformSacredPaths := []
  config := { ScannerConfig.default with excludedPaths := [⟨"/work/app"⟩] }
  scoring := .default
  request := ⟨9 / 10, .red⟩
  activeScanPaths := [⟨"/work"⟩]
  now := 864000000000000
  evidence := ⟨fun _ => true, [], fun _ => .default⟩
  knownGitDirs := []
  index := none
  eventGeneration := 0
  snapshot _ := ⟨.ok none, none, none⟩

/-- The pre-scan nominates a directory below an excluded one, the walker nothing at all. -/
theorem workScan_adds_excluded
    : ¬ ∀ path, workScan.Adds path → (workScan.walker fun _ => false).Nominates ℚ path := by
  intro sound
  have candidates : workScan.run.priorityCandidates.map (·.path)
      = [⟨"/work/app/node_modules"⟩] := by decide +kernel
  have added : workScan.Adds ⟨"/work/app/node_modules"⟩ :=
    Or.inl (List.mem_map.mp (candidates ▸ List.mem_cons_self))
  have walked : ((workScan.walker fun _ => false).walk : Except SbhError (List (WalkEntry ℚ)))
      = .ok [] := rfl
  obtain ⟨entries, same, entry, member, _⟩ := sound _ added
  cases walked.symm.trans same
  cases member

end StorageBallast
