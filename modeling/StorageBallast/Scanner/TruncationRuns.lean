import StorageBallast.Scanner.LogTruncator

/-! What a sweep of log truncation does, said by its targets: the matches that pass the gates in
the tree as it is at the start. A dry run counts each of them. A real run cuts each file when
it first comes to it, and then meets it empty and just modified.
-/

namespace StorageBallast.LogTruncator

/-- A match that passes the gates, with its file as it was. -/
structure TruncationTarget where
  path : OsPath
  inode : Nat
  size : UInt64
  modified : SystemTime

def passesGates (config : LogTruncationConfig) (bypassAgeGate : Bool) (now : SystemTime)
    (size : UInt64) (modified : SystemTime) : Bool :=
  !decide (size < config.minSizeBytes)
    && !(!bypassAgeGate && 0 < config.minAgeMinutes
      && youngerThan now modified config.minAgeMinutes)

def candidates (tree : LogTree) (config : LogTruncationConfig) : List OsPath :=
  config.paths.flatMap fun pattern =>
    match expandPattern tree pattern with
    | .ok paths => paths
    | .error _ => []

/-- What a path that passes the gates leads to. -/
def target? (tree : LogTree) (config : LogTruncationConfig) (bypassAgeGate : Bool)
    (now : SystemTime) (path : OsPath) : Option TruncationTarget :=
  match tree.lstat parentDirName path with
  | none => none
  | some inode =>
      match tree.node inode with
      | .file size modified =>
          if passesGates config bypassAgeGate now size modified then
            some ⟨path, inode, size, modified⟩
          else none
      | .directory _ _ _ _ => none
      | .symlink _ _ => none
      | .special => none

def TruncationFaults.willing (faults : TruncationFaults) (path : OsPath) : Bool :=
  (faults.opens path).isNone && (faults.metadata path).isNone && (faults.setLen path).isNone

def TruncationFaults.none_ (message : OsPath → String) : TruncationFaults where
  message
  opens _ := none
  metadata _ := none
  setLen _ := none

def TruncationOutcome.Idle : Except String TruncationOutcome → Prop
  | .ok (.truncated _) => False
  | .ok (.wouldTruncate _) => False
  | .ok (.skipped _) => True
  | .error _ => True

section

variable {tree : LogTree} {faults : TruncationFaults} {now : SystemTime} {path : OsPath}
  {config : LogTruncationConfig} {bypassAgeGate : Bool}

theorem target?_eq_some {target : TruncationTarget}
    (found : target? tree config bypassAgeGate now path = some target)
    : tree.lstat parentDirName path = some target.inode
      ∧ tree.node target.inode = .file target.size target.modified
      ∧ target.path = path
      ∧ passesGates config bypassAgeGate now target.size target.modified = true := by
  unfold target? at found
  split at found
  · cases found
  · rename_i inode there
    split at found
    · rename_i size modified file
      split at found
      · rename_i passes
        cases found
        exact ⟨there, file, rfl, passes⟩
      · cases found
    all_goals cases found

/-- A dry run says of each target that it would be cut, and cuts nothing. -/
theorem processCandidate_dry (tree : LogTree) (faults : TruncationFaults) (now : SystemTime)
    (path : OsPath) (config : LogTruncationConfig) (bypassAgeGate : Bool)
    : (∃ target, target? tree config bypassAgeGate now path = some target
        ∧ processCandidate tree faults now path config bypassAgeGate true
          = (.ok (.wouldTruncate target.size), none))
      ∨ (target? tree config bypassAgeGate now path = none
        ∧ ∃ outcome, processCandidate tree faults now path config bypassAgeGate true
            = (outcome, none)
          ∧ TruncationOutcome.Idle outcome) := by
  unfold target? processCandidate passesGates
  cases tree.lstat parentDirName path with
  | none => exact .inr ⟨rfl, _, rfl, trivial⟩
  | some inode =>
      dsimp only
      cases tree.node inode with
      | directory => exact .inr ⟨rfl, _, rfl, trivial⟩
      | symlink => exact .inr ⟨rfl, _, rfl, trivial⟩
      | special => exact .inr ⟨rfl, _, rfl, trivial⟩
      | file size modified =>
          dsimp only
          by_cases small : size < config.minSizeBytes
          · simp [small, TruncationOutcome.Idle]
          · by_cases young : (!bypassAgeGate && decide (0 < config.minAgeMinutes)
                && youngerThan now modified config.minAgeMinutes) = true
            · simp [small, young, TruncationOutcome.Idle]
            · simp [small, young]

theorem processCandidate_real (tree : LogTree) (faults : TruncationFaults)
    (now : SystemTime) (path : OsPath) (config : LogTruncationConfig) (bypassAgeGate : Bool)
    : (∃ target, target? tree config bypassAgeGate now path = some target
        ∧ faults.willing path = true
        ∧ processCandidate tree faults now path config bypassAgeGate false
          = (.ok (.truncated target.size), some target.inode))
      ∨ ((target? tree config bypassAgeGate now path = none ∨ faults.willing path = false)
        ∧ ∃ outcome, processCandidate tree faults now path config bypassAgeGate false
            = (outcome, none)
          ∧ TruncationOutcome.Idle outcome) := by
  unfold target? processCandidate passesGates openCandidateForTruncate
  cases there : tree.lstat parentDirName path with
  | none => exact .inr ⟨.inl rfl, _, rfl, trivial⟩
  | some inode =>
      dsimp only
      cases file : tree.node inode with
      | directory => exact .inr ⟨.inl rfl, _, rfl, trivial⟩
      | symlink => exact .inr ⟨.inl rfl, _, rfl, trivial⟩
      | special => exact .inr ⟨.inl rfl, _, rfl, trivial⟩
      | file size modified =>
          dsimp only
          by_cases small : size < config.minSizeBytes
          · simp [small, TruncationOutcome.Idle]
          · by_cases young : (!bypassAgeGate && decide (0 < config.minAgeMinutes)
                && youngerThan now modified config.minAgeMinutes) = true
            · simp [small, young, TruncationOutcome.Idle]
            · unfold cutOpened TruncationFaults.willing
              cases faults.opens path <;> cases faults.metadata path
                <;> cases faults.setLen path
                <;> simp [small, young, file, isFile, TruncationOutcome.Idle]

end

/-- Shortened files do not change what segments name, by induction on them. -/
theorem expandRecursive_congr {tree other : LogTree} (same : FileTree.SameShape tree other)
    (prefix_ : OsPath) (segments : List (List UInt8))
    : expandRecursive other prefix_ segments = expandRecursive tree prefix_ segments := by
  induction segments generalizing prefix_ with
  | nil => rfl
  | cons segment segments ih =>
      unfold expandRecursive
      rw [same.readDir, same.lstat]
      simp only [ih]

theorem expandPattern_congr {tree other : LogTree} (same : FileTree.SameShape tree other)
    (pattern : String) : expandPattern other pattern = expandPattern tree pattern := by
  unfold expandPattern
  rw [expandRecursive_congr same]

section

variable {tree : LogTree} {faults : TruncationFaults} {now : SystemTime}
  {config : LogTruncationConfig} {bypassAgeGate dryRun : Bool}
  {holds : List OsPath → TruncationSweep → Prop}

/-- What every match extends holds of all matches, by induction on those of one pattern. -/
theorem candidates_induction
    (candidate : ∀ paths sweep path, holds paths sweep →
      holds (paths ++ [path]) (sweep.candidate faults now config bypassAgeGate dryRun path))
    (more : List OsPath) {paths : List OsPath} {sweep : TruncationSweep}
    (start : holds paths sweep)
    : holds (paths ++ more)
        (more.foldl (TruncationSweep.candidate faults now config bypassAgeGate dryRun) sweep) := by
  induction more generalizing paths sweep with
  | nil => simpa using start
  | cons path more ih => simpa using ih (candidate paths sweep path start)

/-- The same for the matches of all patterns, as long as no path changes and errors of patterns
do not matter. By induction on the patterns.
-/
theorem patterns_induction
    (shape : ∀ paths sweep, holds paths sweep → FileTree.SameShape tree sweep.tree)
    (candidate : ∀ paths sweep path, holds paths sweep →
      holds (paths ++ [path]) (sweep.candidate faults now config bypassAgeGate dryRun path))
    (errors : ∀ paths sweep errors, holds paths sweep →
      holds paths { sweep with report := { sweep.report with errors } })
    (start : holds [] ⟨tree, .empty dryRun, []⟩)
    : holds (candidates tree config)
        (config.paths.foldl
          (TruncationSweep.pattern faults now config bypassAgeGate dryRun)
          ⟨tree, .empty dryRun, []⟩) := by
  unfold candidates
  generalize sweep : (⟨tree, .empty dryRun, []⟩ : TruncationSweep) = first at start ⊢
  suffices every : ∀ (patterns : List String) paths sweep, holds paths sweep →
      holds
        (paths ++ patterns.flatMap fun pattern =>
          match expandPattern tree pattern with
          | .ok paths => paths
          | .error _ => [])
        (patterns.foldl
          (TruncationSweep.pattern faults now config bypassAgeGate dryRun) sweep) from
    every config.paths [] first start
  intro patterns
  induction patterns with
  | nil =>
      intro paths sweep before
      simpa using before
  | cons pattern patterns ih =>
      intro paths sweep before
      rw [List.flatMap_cons, ← List.append_assoc, List.foldl_cons]
      apply ih
      unfold TruncationSweep.pattern
      rw [expandPattern_congr (shape paths sweep before)]
      cases expandPattern tree pattern with
      | error message => simpa using errors paths sweep _ before
      | ok more => exact candidates_induction candidate more before

end

def targets (tree : LogTree) (config : LogTruncationConfig) (bypassAgeGate : Bool)
    (now : SystemTime) (paths : List OsPath) : List TruncationTarget :=
  paths.filterMap (target? tree config bypassAgeGate now)

def sizeOf : List TruncationTarget → UInt64
  | [] => 0
  | target :: targets => target.size + sizeOf targets

def cutsAgain (config : LogTruncationConfig) (bypassAgeGate : Bool) (now : SystemTime) : Bool :=
  passesGates config bypassAgeGate now 0 now

/-- Which files are cut by which paths, how many times and of which size. -/
structure Cutting where
  met : List Nat
  cuts : List (OsPath × Nat)
  bytes : UInt64

namespace Cutting

def start : Cutting := ⟨[], [], 0⟩

/-- A target is cut at the first time, and whenever else files are cut again. -/
def meet (again : Bool) (cutting : Cutting) (target : TruncationTarget) : Cutting :=
  if target.inode ∈ cutting.met then
    if again then { cutting with cuts := cutting.cuts ++ [(target.path, target.inode)] }
    else cutting
  else
    ⟨target.inode :: cutting.met, cutting.cuts ++ [(target.path, target.inode)],
      cutting.bytes + target.size⟩

def overlay (cutting : Cutting) (tree : LogTree) (now : SystemTime) : LogTree :=
  { tree with
    node := fun inode => if inode ∈ cutting.met then .file 0 now else tree.node inode }

end Cutting

section

variable (tree : LogTree) (faults : TruncationFaults) (now : SystemTime)
  (config : LogTruncationConfig) (bypassAgeGate : Bool)

structure DryRun (paths : List OsPath) (sweep : TruncationSweep) : Prop where
  unchanged : sweep.tree = tree
  cuts : sweep.cuts = []
  files : sweep.report.filesWouldTruncate
    = (targets tree config bypassAgeGate now paths).length
  bytes : sweep.report.bytesWouldReclaim = sizeOf (targets tree config bypassAgeGate now paths)

def cutting (paths : List OsPath) : Cutting :=
  ((targets tree config bypassAgeGate now paths).filter (faults.willing ·.path)).foldl
    (Cutting.meet (cutsAgain config bypassAgeGate now)) .start

structure RealRun (paths : List OsPath) (sweep : TruncationSweep) : Prop where
  overlay : sweep.tree
    = (cutting tree faults now config bypassAgeGate paths).overlay tree now
  cuts : sweep.cuts = (cutting tree faults now config bypassAgeGate paths).cuts
  files : sweep.report.filesTruncated = sweep.cuts.length
  bytes : sweep.report.bytesReclaimed
    = (cutting tree faults now config bypassAgeGate paths).bytes
  met : ∀ inode ∈ (cutting tree faults now config bypassAgeGate paths).met,
    ∃ size modified, tree.node inode = .file size modified
      ∧ passesGates config bypassAgeGate now size modified = true

end

section

variable {tree : LogTree} {faults : TruncationFaults} {now : SystemTime}
  {config : LogTruncationConfig} {bypassAgeGate : Bool} {paths : List OsPath}
  {sweep : TruncationSweep} {path : OsPath}

variable {target : TruncationTarget}

theorem targets_append_of_some (found : target? tree config bypassAgeGate now path = some target)
    : targets tree config bypassAgeGate now (paths ++ [path])
      = targets tree config bypassAgeGate now paths ++ [target] := by
  simp [targets, found]

theorem targets_append_of_none
    (missed : target? tree config bypassAgeGate now path = none)
    : targets tree config bypassAgeGate now (paths ++ [path])
      = targets tree config bypassAgeGate now paths := by
  simp [targets, missed]

theorem sizeOf_append (targets : List TruncationTarget) (target : TruncationTarget)
    : sizeOf (targets ++ [target]) = sizeOf targets + target.size := by
  induction targets with
  | nil => exact UInt64.add_comm ..
  | cons first targets ih =>
      rw [List.cons_append, sizeOf, sizeOf, ih, UInt64.add_assoc]

theorem note_idle_files (report : LogTruncationReport) (path : OsPath)
    {outcome : Except String TruncationOutcome} (idle : TruncationOutcome.Idle outcome)
    : (report.note path outcome).filesTruncated = report.filesTruncated
      ∧ (report.note path outcome).bytesReclaimed = report.bytesReclaimed
      ∧ (report.note path outcome).filesWouldTruncate = report.filesWouldTruncate
      ∧ (report.note path outcome).bytesWouldReclaim = report.bytesWouldReclaim := by
  match outcome, idle with
  | .ok (.skipped _), _ => exact ⟨rfl, rfl, rfl, rfl⟩
  | .error _, _ => exact ⟨rfl, rfl, rfl, rfl⟩

theorem DryRun.candidate (before : DryRun tree now config bypassAgeGate paths sweep)
    (path : OsPath)
    : DryRun tree now config bypassAgeGate (paths ++ [path])
        (sweep.candidate faults now config bypassAgeGate true path) := by
  obtain ⟨rfl, cuts, files, bytes⟩ := before
  unfold TruncationSweep.candidate
  rcases processCandidate_dry sweep.tree faults now path config bypassAgeGate
    with ⟨target, found, same⟩ | ⟨missed, outcome, same, idle⟩
  · rw [same]
    refine ⟨rfl, cuts, ?_, ?_⟩
    · rw [targets_append_of_some found, List.length_append]
      exact congrArg (· + 1) files
    · rw [targets_append_of_some found, sizeOf_append]
      exact congrArg (· + target.size) bytes
  · obtain ⟨-, -, sameFiles, sameBytes⟩ := note_idle_files sweep.report path idle
    rw [same]
    refine ⟨rfl, cuts, ?_, ?_⟩
    · rw [targets_append_of_none missed]
      exact sameFiles.trans files
    · rw [targets_append_of_none missed]
      exact sameBytes.trans bytes

theorem overlay_sameShape {cutting : Cutting}
    (met : ∀ inode ∈ cutting.met, ∃ size modified, tree.node inode = .file size modified
      ∧ passesGates config bypassAgeGate now size modified = true)
    : FileTree.SameShape tree (cutting.overlay tree now) := by
  refine ⟨rfl, fun inode => ?_⟩
  by_cases member : inode ∈ cutting.met
  · obtain ⟨size, modified, file, -⟩ := met inode member
    exact .inr ⟨size, modified, 0, now, file, if_pos member⟩
  · exact .inl (if_neg member)

/-- A file that has been met is a target again if files are cut again, and any other is what it
was.
-/
theorem target?_overlay {cutting : Cutting}
    (met : ∀ inode ∈ cutting.met, ∃ size modified, tree.node inode = .file size modified
      ∧ passesGates config bypassAgeGate now size modified = true)
    (path : OsPath)
    : target? (cutting.overlay tree now) config bypassAgeGate now path
      = (target? tree config bypassAgeGate now path).bind fun target =>
          if target.inode ∈ cutting.met then
            if cutsAgain config bypassAgeGate now then some ⟨path, target.inode, 0, now⟩
            else none
          else some target := by
  unfold target?
  rw [(overlay_sameShape met).lstat]
  cases tree.lstat parentDirName path with
  | none => rfl
  | some inode =>
      dsimp only
      by_cases member : inode ∈ cutting.met
      · obtain ⟨size, modified, file, passes⟩ := met inode member
        have after : (cutting.overlay tree now).node inode = .file 0 now := if_pos member
        rw [after, file]
        simp [passes, member]
        rfl
      · have after : (cutting.overlay tree now).node inode = tree.node inode := if_neg member
        rw [after]
        cases tree.node inode with
        | directory => rfl
        | symlink => rfl
        | special => rfl
        | file size modified =>
            dsimp only
            split
            · simp [member]
            · rfl

theorem cutting_append_of_some (found : target? tree config bypassAgeGate now path = some target)
    (willing : faults.willing path = true)
    : cutting tree faults now config bypassAgeGate (paths ++ [path])
      = (cutting tree faults now config bypassAgeGate paths).meet
          (cutsAgain config bypassAgeGate now) target := by
  have same : target.path = path := (target?_eq_some found).2.2.1
  simp [cutting, targets_append_of_some found, same, willing]

theorem cutting_append_of_none
    (missed : target? tree config bypassAgeGate now path = none
      ∨ faults.willing path = false)
    : cutting tree faults now config bypassAgeGate (paths ++ [path])
      = cutting tree faults now config bypassAgeGate paths := by
  unfold cutting
  cases found : target? tree config bypassAgeGate now path with
  | none => rw [targets_append_of_none found]
  | some target =>
      have unwilling : faults.willing target.path = false := by
        rw [(target?_eq_some found).2.2.1]
        exact missed.resolve_left (by rw [found]; exact nofun)
      rw [targets_append_of_some found]
      simp [unwilling]

/-- Cutting a file of the overlaid tree adds it to what has been met. -/
theorem truncate_overlay {cutting after : Cutting} {inode : Nat} {size : UInt64}
    {modified : SystemTime} (file : (cutting.overlay tree now).node inode = .file size modified)
    (added : ∀ other, other ∈ after.met ↔ other = inode ∨ other ∈ cutting.met)
    : (cutting.overlay tree now).truncate inode now = after.overlay tree now := by
  unfold FileTree.truncate
  rw [file]
  refine congrArg (fun node => ({ tree with node } : LogTree)) (funext fun other => ?_)
  by_cases same : other = inode
  · subst same
    rw [Function.update_self, if_pos ((added other).mpr (.inl rfl))]
  · rw [Function.update_of_ne same]
    unfold Cutting.overlay
    dsimp only
    simp only [added other, same, false_or]

/-- A match at which a file is cut, for the first time or once more. -/
theorem RealRun.cut (before : RealRun tree faults now config bypassAgeGate paths sweep)
    {path : OsPath} (willing : faults.willing path = true)
    (found : target? sweep.tree config bypassAgeGate now path = some target)
    : RealRun tree faults now config bypassAgeGate (paths ++ [path])
        ⟨sweep.tree.truncate target.inode now,
          sweep.report.note path (.ok (.truncated target.size)),
          sweep.cuts ++ [(path, target.inode)]⟩ := by
  obtain ⟨overlay, cuts, files, bytes, met⟩ := before
  obtain ⟨-, file, -, -⟩ := target?_eq_some found
  rw [overlay] at file found
  rw [target?_overlay met path] at found
  obtain ⟨first, known, seen⟩ := Option.bind_eq_some_iff.mp found
  have same : first.path = path := (target?_eq_some known).2.2.1
  have next : cutting tree faults now config bypassAgeGate (paths ++ [path]) = _ :=
    cutting_append_of_some known willing
  generalize cutting tree faults now config bypassAgeGate paths = cutting at *
  by_cases member : first.inode ∈ cutting.met
  · -- It is cut once more: nothing is reclaimed, and nothing changes.
    rw [if_pos member] at seen
    by_cases again : cutsAgain config bypassAgeGate now = true
    · rw [if_pos again, Option.some.injEq] at seen
      subst seen
      have after : cutting.meet (cutsAgain config bypassAgeGate now) first
          = { cutting with cuts := cutting.cuts ++ [(path, first.inode)] } := by
        simp [Cutting.meet, member, again, same]
      rw [after] at next
      refine ⟨?_, ?_, ?_, ?_, ?_⟩
      · rw [next, overlay]
        apply truncate_overlay file
        intro other
        exact ⟨.inr, fun either => either.elim (fun equal => equal ▸ member) id⟩
      · rw [next, cuts]
      · simp [LogTruncationReport.note, files]
      · rw [next]
        simp [LogTruncationReport.note, bytes]
      · rw [next]
        exact met
    · rw [if_neg again] at seen
      cases seen
  · rw [if_neg member, Option.some.injEq] at seen
    subst seen
    have after : cutting.meet (cutsAgain config bypassAgeGate now) first
        = ⟨first.inode :: cutting.met, cutting.cuts ++ [(path, first.inode)],
            cutting.bytes + first.size⟩ := by
      simp [Cutting.meet, member, same]
    rw [after] at next
    refine ⟨?_, ?_, ?_, ?_, ?_⟩
    · rw [next, overlay]
      apply truncate_overlay file
      intro other
      exact List.mem_cons
    · rw [next, cuts]
    · simp [LogTruncationReport.note, files]
    · rw [next]
      simp [LogTruncationReport.note, bytes]
    · rw [next]
      intro inode within
      rcases List.mem_cons.mp within with rfl | within
      · obtain ⟨-, file, -, passes⟩ := target?_eq_some known
        exact ⟨_, _, file, passes⟩
      · exact met inode within

theorem RealRun.idle (before : RealRun tree faults now config bypassAgeGate paths sweep)
    {path : OsPath} {outcome : Except String TruncationOutcome}
    (missed : target? sweep.tree config bypassAgeGate now path = none
      ∨ faults.willing path = false)
    (idle : TruncationOutcome.Idle outcome)
    : RealRun tree faults now config bypassAgeGate (paths ++ [path])
        { sweep with report := sweep.report.note path outcome } := by
  obtain ⟨overlay, cuts, files, bytes, met⟩ := before
  have kept : cutting tree faults now config bypassAgeGate (paths ++ [path])
      = cutting tree faults now config bypassAgeGate paths := by
    cases known : target? tree config bypassAgeGate now path with
    | none => exact cutting_append_of_none (.inl known)
    | some first =>
        cases willing : faults.willing path with
        | false => exact cutting_append_of_none (.inr willing)
        | true =>
            -- It was a target at the start, so it has been met and is not cut again.
            have gone := missed.resolve_right (by rw [willing]; exact nofun)
            rw [overlay, target?_overlay met path, known, Option.bind_some] at gone
            rw [cutting_append_of_some known willing]
            unfold Cutting.meet
            by_cases member : first.inode
                ∈ (cutting tree faults now config bypassAgeGate paths).met
            · rw [if_pos member] at gone ⊢
              by_cases again : cutsAgain config bypassAgeGate now = true
              · rw [if_pos again] at gone
                cases gone
              · rw [if_neg again]
            · rw [if_neg member] at gone
              cases gone
  obtain ⟨sameFiles, sameBytes, -, -⟩ := note_idle_files sweep.report path idle
  refine ⟨?_, ?_, ?_, ?_, ?_⟩
  · rw [kept]
    exact overlay
  · rw [kept]
    exact cuts
  · exact sameFiles.trans files
  · rw [kept]
    exact sameBytes.trans bytes
  · rw [kept]
    exact met

theorem RealRun.candidate (before : RealRun tree faults now config bypassAgeGate paths sweep)
    (path : OsPath)
    : RealRun tree faults now config bypassAgeGate (paths ++ [path])
        (sweep.candidate faults now config bypassAgeGate false path) := by
  unfold TruncationSweep.candidate
  rcases processCandidate_real sweep.tree faults now path config bypassAgeGate
    with ⟨target, found, willing, same⟩ | ⟨missed, outcome, same, idle⟩
  · rw [same]
    exact before.cut willing found
  · rw [same]
    exact before.idle missed idle

variable {F : Type} [Float64 F]

/-- A dry run that is enabled has counted the targets among all matches. -/
theorem truncateOversizedLogs_dry (faults : TruncationFaults) (now : SystemTime)
    (tree : LogTree) (freePct : F) (enabled : config.enabled = true)
    : DryRun tree now config (bypassesAgeGate config freePct) (candidates tree config)
        (truncateOversizedLogs faults now config true tree freePct) := by
  unfold truncateOversizedLogs
  rw [if_pos enabled]
  refine patterns_induction ?_ ?_ ?_ ?_
  · intro paths sweep before
    rw [before.unchanged]
    exact .refl tree
  · intro paths sweep path before
    exact before.candidate path
  · intro paths sweep errors before
    exact ⟨before.unchanged, before.cuts, before.files, before.bytes⟩
  · exact ⟨rfl, rfl, rfl, rfl⟩

/-- A real run that is enabled has cut what the targets say. -/
theorem truncateOversizedLogs_real (faults : TruncationFaults) (now : SystemTime)
    (tree : LogTree) (freePct : F) (enabled : config.enabled = true)
    : RealRun tree faults now config (bypassesAgeGate config freePct) (candidates tree config)
        (truncateOversizedLogs faults now config false tree freePct) := by
  unfold truncateOversizedLogs
  rw [if_pos enabled]
  refine patterns_induction ?_ ?_ ?_ ?_
  · intro paths sweep before
    rw [before.overlay]
    exact overlay_sameShape before.met
  · intro paths sweep path before
    exact before.candidate path
  · intro paths sweep errors before
    exact ⟨before.overlay, before.cuts, before.files, before.bytes, before.met⟩
  · exact ⟨rfl, rfl, rfl, rfl, fun inode member => absurd member List.not_mem_nil⟩

end

end StorageBallast.LogTruncator

/-! A dry run of log truncation against a real run over the same tree. The dry run judges each
match in the tree as it is, the real run in the tree that it has changed, so they part at the
files that the patterns name more than once.
-/

namespace StorageBallast.LogTruncator

def repeats : List Nat → List TruncationTarget → List TruncationTarget
  | _, [] => []
  | met, target :: targets =>
      if target.inode ∈ met then target :: repeats met targets
      else repeats (target.inode :: met) targets

/-- Each target is cut, or is a repeat of one that is; by induction on the targets. -/
theorem cuts_add_repeats (again : Bool) (targets : List TruncationTarget) (cutting : Cutting)
    : (targets.foldl (Cutting.meet again) cutting).cuts.length
        + (if again then 0 else (repeats cutting.met targets).length)
      = cutting.cuts.length + targets.length := by
  induction targets generalizing cutting with
  | nil => simp [repeats]
  | cons target targets ih =>
      have rest := ih (cutting.meet again target)
      rw [List.foldl_cons, List.length_cons]
      unfold Cutting.meet at rest ⊢
      unfold repeats
      by_cases member : target.inode ∈ cutting.met
      · cases again with
        | true =>
            simp only [if_pos member, if_true, List.length_append, List.length_cons,
              List.length_nil] at rest ⊢
            omega
        | false =>
            simp only [if_pos member, Bool.false_eq_true, if_false, List.length_cons] at rest ⊢
            omega
      · simp only [if_neg member, List.length_append, List.length_cons,
          List.length_nil] at rest ⊢
        omega

/-- What is reclaimed and what the repeats had make up the size of all targets. -/
theorem bytes_add_repeats (again : Bool) (targets : List TruncationTarget) (cutting : Cutting)
    : (targets.foldl (Cutting.meet again) cutting).bytes
        + sizeOf (repeats cutting.met targets)
      = cutting.bytes + sizeOf targets := by
  induction targets generalizing cutting with
  | nil => rfl
  | cons target targets ih =>
      have rest := ih (cutting.meet again target)
      rw [List.foldl_cons]
      unfold repeats
      by_cases member : target.inode ∈ cutting.met
      · have same : (cutting.meet again target).met = cutting.met
            ∧ (cutting.meet again target).bytes = cutting.bytes := by
          unfold Cutting.meet
          rw [if_pos member]
          split <;> exact ⟨rfl, rfl⟩
        rw [same.1, same.2] at rest
        rw [if_pos member, sizeOf, sizeOf, UInt64.add_comm target.size,
          UInt64.add_comm target.size, ← UInt64.add_assoc, ← UInt64.add_assoc, rest]
      · have after : cutting.meet again target
            = ⟨target.inode :: cutting.met, cutting.cuts ++ [(target.path, target.inode)],
                cutting.bytes + target.size⟩ := if_neg member
        rw [after] at rest ⊢
        rw [if_neg member, sizeOf, rest, UInt64.add_assoc]

def matchedAgain (tree : LogTree) (config : LogTruncationConfig) (bypassAgeGate : Bool)
    (now : SystemTime) : List TruncationTarget :=
  repeats [] (targets tree config bypassAgeGate now (candidates tree config))

/-- A dry run announces the count and the size of the real run exactly if no target is matched
again, or files that were cut are cut again and those matched again had nothing to add.
-/
theorem dry_run_predicts_iff {F : Type} [Float64 F] (message : OsPath → String)
    (now : SystemTime) (config : LogTruncationConfig) (tree : LogTree) (freePct : F)
    : let faults := TruncationFaults.none_ message
      let dry := (truncateOversizedLogs faults now config true tree freePct).report
      let real := (truncateOversizedLogs faults now config false tree freePct).report
      let bypass := bypassesAgeGate config freePct
      let repeated := matchedAgain tree config bypass now
      (dry.filesWouldTruncate = real.filesTruncated
          ∧ dry.bytesWouldReclaim = real.bytesReclaimed)
        ↔ config.enabled = false
          ∨ (repeated = [] ∨ cutsAgain config bypass now = true) ∧ sizeOf repeated = 0 := by
  intro faults dry real bypass repeated
  cases enabled : config.enabled with
  | false =>
      have idle : ∀ dryRun, (truncateOversizedLogs faults now config dryRun tree freePct).report
          = .empty dryRun := by
        intro dryRun
        unfold truncateOversizedLogs
        rw [enabled]
        rfl
      simp [dry, real, idle, LogTruncationReport.empty]
  | true =>
      have announced := truncateOversizedLogs_dry faults now tree freePct enabled
      have done := truncateOversizedLogs_real faults now tree freePct enabled
      have all : (targets tree config bypass now (candidates tree config)).filter
            (faults.willing ·.path)
          = targets tree config bypass now (candidates tree config) :=
        List.filter_eq_self.mpr fun _ _ => rfl
      have files := cuts_add_repeats (cutsAgain config bypass now)
        (targets tree config bypass now (candidates tree config)) .start
      have bytes := bytes_add_repeats (cutsAgain config bypass now)
        (targets tree config bypass now (candidates tree config)) .start
      have cuts := done.cuts
      have reclaimed := done.bytes
      unfold cutting at cuts reclaimed
      rw [all] at cuts reclaimed
      rw [← cuts, ← done.files] at files
      rw [← reclaimed] at bytes
      change real.filesTruncated + (if _ then 0 else repeated.length) = 0 + _ at files
      change real.bytesReclaimed + sizeOf repeated = 0 + _ at bytes
      rw [← announced.files, Nat.zero_add] at files
      rw [← announced.bytes, UInt64.zero_add] at bytes
      change _ = dry.filesWouldTruncate at files
      have sameFiles : dry.filesWouldTruncate = real.filesTruncated
          ↔ repeated = [] ∨ cutsAgain config bypass now = true := by
        rw [← List.length_eq_zero_iff]
        split at files
        · rename_i again
          exact iff_of_true files.symm (.inr again)
        · rename_i once
          rw [or_iff_left once]
          exact ⟨fun same => by omega, fun same => by omega⟩
      have sameBytes : dry.bytesWouldReclaim = real.bytesReclaimed ↔ sizeOf repeated = 0 := by
        rw [show dry.bytesWouldReclaim = _ from bytes.symm]
        exact UInt64.add_eq_left
      simp only [Bool.true_eq_false, false_or, sameFiles, sameBytes]

def codexNode : Nat → FileNode OsName
  | 0 => .directory true true 0 [(Texts.bytes "home", 1)]
  | 1 => .directory true true 0 [(Texts.bytes "user", 2)]
  | 2 => .directory true true 1 [(Texts.bytes ".codex", 3)]
  | 3 => .directory true true 2 [(Texts.bytes "log", 4)]
  | 4 => .directory true true 3 [(Texts.bytes "codex-tui.log", 5)]
  | _ => .file 2147483648 0

def codexTree : LogTree := ⟨0, codexNode⟩

/-- Two of the default patterns name the log, so that the dry run counts it twice. -/
theorem default_patterns_overlap
    : let sweep := fun dryRun => (truncateOversizedLogs (TruncationFaults.none_ fun _ => "") 0
          { LogTruncationConfig.default with enabled := true } dryRun codexTree (10 : ℚ)).report
      (sweep true).filesWouldTruncate = 2 ∧ (sweep true).bytesWouldReclaim = 4294967296
      ∧ (sweep false).filesTruncated = 1 ∧ (sweep false).bytesReclaimed = 2147483648 := by
  decide +kernel

end StorageBallast.LogTruncator
