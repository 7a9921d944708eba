import StorageBallast.Foundations.Histograms
import StorageBallast.Scanner.FailureStreaks

/-! The report of a batch as an account of its candidates: which were processed, what each came
to, and whether a streak of failures among them tripped the breaker.
-/

namespace StorageBallast

open Histograms

variable {F : Type}

namespace TurnOutcome

def skipped : TurnOutcome → Bool
  | targetReached | refused _ => true
  | _ => false

def quiet : TurnOutcome → Bool
  | refused _ | deleted => false
  | _ => true

/-- So many delete attempts failed one after the other, with no success and no refusal between
them.
-/
def FailsInARow (threshold : Nat) (outcomes : List TurnOutcome) : Prop :=
  ∃ before run after, outcomes = before ++ run ++ after ∧ run.all quiet = true
    ∧ threshold ≤ run.count failed

def EndsOnStreak (threshold : Nat) (outcomes : List TurnOutcome) : Prop :=
  threshold ≤ streak outcomes
  ∧ ∀ front outcome back, outcomes = front ++ outcome :: back → streak front < threshold

/-- A quiet run adds its failures to the streak before it, by induction on the run. -/
theorem foldl_quiet {run : List TurnOutcome} (quietRun : run.all quiet = true) (start : Nat)
    : run.foldl streakAfter start = start + run.count failed := by
  induction run generalizing start with
  | nil => rfl
  | cons outcome rest ih =>
      obtain ⟨quietHead, quietRest⟩ := by simpa using quietRun
      rw [List.foldl_cons, ih (List.all_eq_true.mpr quietRest), List.count_cons]
      cases outcome <;> simp_all [quiet, streakAfter]
      omega

/-- A streak is what failed in the quiet run at the end, by induction on the last outcome. -/
theorem streak_split (outcomes : List TurnOutcome)
    : ∃ before run, outcomes = before ++ run ∧ run.all quiet = true
      ∧ streak outcomes = run.count failed := by
  induction outcomes using List.reverseRecOn with
  | nil => exact ⟨[], [], rfl, rfl, rfl⟩
  | append_singleton front outcome ih =>
      obtain ⟨before, run, rfl, quietRun, counted⟩ := ih
      have longer : streak (before ++ run ++ [outcome])
          = streakAfter (streak (before ++ run)) outcome := by
        simp [streak]
      cases noise : outcome.quiet with
      | true =>
          refine ⟨before, run ++ [outcome], by simp, by simp [quietRun, noise], ?_⟩
          rw [longer, counted, List.count_append, List.count_singleton]
          cases outcome <;> simp_all [quiet, streakAfter]
      | false =>
          refine ⟨before ++ run ++ [outcome], [], by simp, rfl, ?_⟩
          rw [longer]
          cases outcome <;> simp_all [quiet, streakAfter]

variable {outcomes : List TurnOutcome}

/-- Failures in a row are a streak at the end of some front of the outcomes. -/
theorem failsInARow_iff {threshold : Nat}
    : FailsInARow threshold outcomes
      ↔ ∃ front, front <+: outcomes ∧ threshold ≤ streak front := by
  constructor
  · rintro ⟨before, run, after, rfl, quietRun, enough⟩
    refine ⟨before ++ run, List.prefix_append _ _, ?_⟩
    rw [streak, List.foldl_append, foldl_quiet quietRun]
    omega
  · rintro ⟨front, ⟨after, rfl⟩, enough⟩
    obtain ⟨before, run, rfl, quietRun, counted⟩ := streak_split front
    exact ⟨before, run, after, rfl, quietRun, counted ▸ enough⟩

/-- A batch is halted exactly by a streak that is reached with a candidate left, by induction on
the outcomes.
-/
theorem halts_iff {threshold start : Nat}
    : halts threshold start outcomes = true
      ↔ ∃ front outcome back, outcomes = front ++ outcome :: back
        ∧ threshold ≤ front.foldl streakAfter start := by
  constructor
  · intro halted
    induction outcomes generalizing start with
    | nil => cases halted
    | cons outcome rest ih =>
        simp only [halts, Bool.or_eq_true, decide_eq_true_eq] at halted
        rcases halted with full | later
        · exact ⟨[], outcome, rest, rfl, full⟩
        · obtain ⟨front, next, back, rfl, full⟩ := ih later
          exact ⟨outcome :: front, next, back, rfl, full⟩
  · rintro ⟨front, outcome, back, rfl, full⟩
    exact (halts_of_streak full).1

/-- Within what was tried the streak is reached at the very end only, by induction on the
outcomes.
-/
theorem tried_short {threshold start : Nat} {outcomes front back : List TurnOutcome}
    {outcome : TurnOutcome}
    (split : tried threshold start outcomes = front ++ outcome :: back)
    : front.foldl streakAfter start < threshold := by
  induction outcomes generalizing start front with
  | nil => simp [tried] at split
  | cons head rest ih =>
      unfold tried at split
      split at split
      · simp at split
      · rename_i short
        cases front with
        | nil => exact Nat.lt_of_not_le short
        | cons first front =>
            obtain ⟨rfl, tail⟩ := List.cons_eq_cons.mp split
            have later := ih tail
            exact later

/-- A streak among all outcomes is a streak of what was tried, by induction on the outcomes. -/
theorem tried_streak {threshold start : Nat} {outcomes front : List TurnOutcome}
    (within : front <+: outcomes) (full : threshold ≤ front.foldl streakAfter start)
    : threshold ≤ (tried threshold start outcomes).foldl streakAfter start := by
  induction outcomes generalizing start front with
  | nil =>
      obtain rfl := List.prefix_nil.mp within
      exact full
  | cons head rest ih =>
      unfold tried
      split
      · assumption
      · rename_i short
        cases front with
        | nil => exact absurd full short
        | cons first front =>
            obtain ⟨rfl, tail⟩ := List.cons_prefix_cons.mp within
            exact ih tail full

/-- What was tried has failures in a row exactly if all outcomes have. -/
theorem failsInARow_tried {threshold : Nat}
    : FailsInARow threshold (tried threshold 0 outcomes) ↔ FailsInARow threshold outcomes := by
  rw [failsInARow_iff, failsInARow_iff]
  constructor
  · rintro ⟨front, within, full⟩
    exact ⟨front, within.trans ( tried_prefix _ _ _).1, full⟩
  · rintro ⟨front, within, full⟩
    exact ⟨_, List.prefix_refl _, tried_streak within full⟩

/-- A batch is halted by its failures in a row, unless these end with it. -/
theorem halts_iff_failsInARow {threshold : Nat}
    : (halts threshold 0 outcomes = true ↔ FailsInARow threshold outcomes)
      ↔ ¬ EndsOnStreak threshold outcomes := by
  rw [halts_iff, failsInARow_iff]
  constructor
  · rintro same ⟨full, short⟩
    obtain ⟨front, outcome, back, split, enough⟩ :=
      same.mpr ⟨outcomes, List.prefix_refl _, full⟩
    exact Nat.not_lt.mpr enough (short front outcome back split)
  · intro open_
    constructor
    · rintro ⟨front, outcome, back, rfl, full⟩
      exact ⟨front, List.prefix_append _ _, full⟩
    · rintro ⟨front, ⟨back, rfl⟩, full⟩
      cases back with
      | cons outcome back => exact ⟨front, outcome, back, rfl, full⟩
      | nil =>
          rw [List.append_nil] at open_ ⊢
          by_contra unhalted
          refine open_ ⟨full, ?_⟩
          intro earlier outcome back split
          by_contra enough
          exact unhalted ⟨earlier, outcome, back, split, Nat.le_of_not_lt enough⟩

end TurnOutcome

abbrev BatchTurn (F : Type) := CandidacyScore F × TurnOutcome

def cameTo (wanted : TurnOutcome → Bool) (turns : List (BatchTurn F)) : List (CandidacyScore F) :=
  (turns.filter fun turn => wanted turn.2).map (·.1)

@[simp] theorem cameTo_concat (wanted : TurnOutcome → Bool) (turns : List (BatchTurn F))
    (turn : BatchTurn F)
    : cameTo wanted (turns ++ [turn])
        = cameTo wanted turns ++ if wanted turn.2 then [turn.1] else [] := by
  unfold cameTo
  split <;> rename_i kept <;> simp [kept]

/-- The report counts every turn once, under what it came to, with its path and its bytes. -/
structure Accounts (turns : List (BatchTurn F)) (report : DeletionReport F) : Prop where
  deleted : report.itemsDeleted = (cameTo (· = .deleted) turns).length
  deletedPaths : report.deletedPaths = (cameTo (· = .deleted) turns).map (·.path)
  bytesFreed : report.bytesFreed = ((cameTo (· = .deleted) turns).map (·.sizeBytes)).sum
  wouldDelete : report.itemsWouldDelete = (cameTo (· = .wouldDelete) turns).length
  bytesWouldFree
    : report.bytesWouldFree = ((cameTo (· = .wouldDelete) turns).map (·.sizeBytes)).sum
  failed : report.itemsFailed = (cameTo (· = .failed) turns).length
  errors : report.errors.map (·.path) = (cameTo (· = .failed) turns).map (·.path)
  skipped : report.itemsSkipped = (cameTo TurnOutcome.skipped turns).length
  histogram : total report.skippedByReason = report.itemsSkipped

theorem Accounts.empty (dryRun : Bool)
    : Accounts [] (DeletionReport.empty dryRun : DeletionReport F) :=
  ⟨rfl, rfl, rfl, rfl, rfl, rfl, rfl, rfl, rfl⟩

theorem Accounts.sum {turns : List (BatchTurn F)} {report : DeletionReport F}
    (accounts : Accounts turns report)
    : report.itemsDeleted + report.itemsFailed + report.itemsSkipped + report.itemsWouldDelete
        = turns.length := by
  rw [accounts.deleted, accounts.failed, accounts.skipped, accounts.wouldDelete]
  simp only [cameTo, List.length_map]
  clear accounts
  induction turns with
  | nil => rfl
  | cons turn rest ih =>
      obtain ⟨candidate, outcome⟩ := turn
      cases outcome <;> simp [TurnOutcome.skipped] at ih ⊢ <;> omega

namespace Accounts

variable {turns : List (BatchTurn F)} {report : DeletionReport F} {state : BatchState F}
  {candidate : CandidacyScore F}

theorem recordSkip (accounts : Accounts turns report) (candidate : CandidacyScore F)
    (outcome : TurnOutcome) (skipped : outcome.skipped = true) (reason : SkipReason)
    : Accounts (turns ++ [(candidate, outcome)]) (report.recordSkip reason) := by
  have other : outcome ≠ .deleted ∧ outcome ≠ .wouldDelete ∧ outcome ≠ .failed := by
    cases outcome <;> simp_all [TurnOutcome.skipped]
  have counted : total (report.recordSkip reason).skippedByReason
      = total report.skippedByReason + 1 := total_count _ _
  obtain ⟨notDeleted, notWould, notFailed⟩ := other
  constructor
  · simpa [DeletionReport.recordSkip, notDeleted] using accounts.deleted
  · simpa [DeletionReport.recordSkip, notDeleted] using accounts.deletedPaths
  · simpa [DeletionReport.recordSkip, notDeleted] using accounts.bytesFreed
  · simpa [DeletionReport.recordSkip, notWould] using accounts.wouldDelete
  · simpa [DeletionReport.recordSkip, notWould] using accounts.bytesWouldFree
  · simpa [DeletionReport.recordSkip, notFailed] using accounts.failed
  · simpa [DeletionReport.recordSkip, notFailed] using accounts.errors
  · simpa [DeletionReport.recordSkip, skipped] using accounts.skipped
  · rw [counted, accounts.histogram]
    rfl

theorem skipTargetReached (accounts : Accounts turns state.report)
    : Accounts (turns ++ [(candidate, .targetReached)])
        (state.skipTargetReached candidate).report :=
  have kept := accounts.recordSkip candidate .targetReached rfl .targetFreeReached
  ⟨kept.deleted, kept.deletedPaths, kept.bytesFreed, kept.wouldDelete, kept.bytesWouldFree,
    kept.failed, kept.errors, kept.skipped, kept.histogram⟩

theorem refuse (accounts : Accounts turns state.report) (reason : SkipReason)
    : Accounts (turns ++ [(candidate, .refused reason)])
        (state.refuse candidate reason).report :=
  have kept := accounts.recordSkip candidate (.refused reason) rfl reason
  ⟨kept.deleted, kept.deletedPaths, kept.bytesFreed, kept.wouldDelete, kept.bytesWouldFree,
    kept.failed, kept.errors, kept.skipped, kept.histogram⟩

theorem countWouldDelete (accounts : Accounts turns state.report)
    : Accounts (turns ++ [(candidate, .wouldDelete)])
        (state.countWouldDelete candidate).report := by
  constructor <;>
    simp [BatchState.countWouldDelete, TurnOutcome.skipped, accounts.deleted,
      accounts.deletedPaths, accounts.bytesFreed, accounts.wouldDelete,
      accounts.bytesWouldFree, accounts.failed, accounts.errors, accounts.skipped,
      accounts.histogram]

theorem countDeleted (accounts : Accounts turns state.report)
    : Accounts (turns ++ [(candidate, .deleted)]) (state.countDeleted candidate).report := by
  constructor <;>
    simp [BatchState.countDeleted, TurnOutcome.skipped, accounts.deleted,
      accounts.deletedPaths, accounts.bytesFreed, accounts.wouldDelete,
      accounts.bytesWouldFree, accounts.failed, accounts.errors, accounts.skipped,
      accounts.histogram]

theorem countFailed (accounts : Accounts turns state.report) (error : SbhError)
    : Accounts (turns ++ [(candidate, .failed)])
        (state.countFailed candidate error).report := by
  constructor <;>
    simp [BatchState.countFailed, TurnOutcome.skipped, accounts.deleted,
      accounts.deletedPaths, accounts.bytesFreed, accounts.wouldDelete,
      accounts.bytesWouldFree, accounts.failed, accounts.errors, accounts.skipped,
      accounts.histogram]

end Accounts

namespace BatchSetup

theorem executeCandidate_accounts (setup : BatchSetup F) (openPaths : Option (List PathBuf))
    (candidate : CandidacyScore F) (turn : Nat) {state : BatchState F} {turns : List (BatchTurn F)}
    (accounts : Accounts turns state.report)
    : Accounts (turns ++ [(candidate, setup.outcomeOf openPaths candidate turn)])
        (setup.executeCandidate openPaths candidate turn state).report := by
  simp only [executeCandidate, outcomeOf]
  split
  · exact accounts.skipTargetReached
  · cases checked : preflightCheck setup.config (worldsAt setup.history turn) candidate
      openPaths with
    | error reason => exact accounts.refuse reason
    | ok passed =>
        cases setup.config.dryRun with
        | true => exact accounts.countWouldDelete
        | false =>
            simp only [deleteCandidate, Bool.false_eq_true, if_false]
            cases (deletePath setup.config (worldsAt setup.history turn) candidate).outcome with
            | ok removed => exact accounts.countDeleted
            | error fault => exact accounts.countFailed fault

/-- The candidates whose turn comes in the loop, with their places in the batch. -/
def processedLoop (setup : BatchSetup F) (openPaths : Option (List PathBuf))
    : List (CandidacyScore F × Nat) → BatchState F → List (CandidacyScore F × Nat)
  | [], _ => []
  | (candidate, turn) :: rest, state =>
      if state.consecutiveFailures ≥ setup.config.circuitBreakerThreshold then []
      else
        (candidate, turn) :: setup.processedLoop openPaths rest
          (setup.executeCandidate openPaths candidate turn state)

def turnsOf (setup : BatchSetup F) (openPaths : Option (List PathBuf))
    (entries : List (CandidacyScore F × Nat)) : List (BatchTurn F) :=
  entries.map fun entry => (entry.1, setup.outcomeOf openPaths entry.1 entry.2)

/-- The loop accounts for the candidates whose turn comes, by induction on the batch. -/
theorem executeLoop_accounts (setup : BatchSetup F) (openPaths : Option (List PathBuf))
    (batch : List (CandidacyScore F × Nat)) {state : BatchState F} {turns : List (BatchTurn F)}
    (accounts : Accounts turns state.report)
    : Accounts (turns ++ setup.turnsOf openPaths (setup.processedLoop openPaths batch state))
        (setup.executeLoop openPaths batch state).report := by
  induction batch generalizing state turns with
  | nil => simpa [processedLoop, executeLoop, turnsOf] using accounts
  | cons entry rest ih =>
      obtain ⟨candidate, turn⟩ := entry
      unfold processedLoop executeLoop
      split
      · simp only [turnsOf, List.map_nil, List.append_nil]
        exact ⟨accounts.deleted, accounts.deletedPaths, accounts.bytesFreed,
          accounts.wouldDelete, accounts.bytesWouldFree, accounts.failed, accounts.errors,
          accounts.skipped, accounts.histogram⟩
      · have later := ih (setup.executeCandidate_accounts openPaths candidate turn accounts)
        simpa [turnsOf] using later

/-- The turns that come are those that are tried, by induction on the batch. -/
theorem processedLoop_tried (setup : BatchSetup F) (openPaths : Option (List PathBuf))
    (batch : List (CandidacyScore F × Nat)) (state : BatchState F)
    : setup.processedLoop openPaths batch state <+: batch
      ∧ setup.outcomesOf openPaths (setup.processedLoop openPaths batch state)
        = TurnOutcome.tried setup.config.circuitBreakerThreshold state.consecutiveFailures
          (setup.outcomesOf openPaths batch) := by
  induction batch generalizing state with
  | nil => exact ⟨List.prefix_refl _, rfl⟩
  | cons entry rest ih =>
      obtain ⟨candidate, turn⟩ := entry
      obtain ⟨within, outcomes⟩ := ih (setup.executeCandidate openPaths candidate turn state)
      have streak := (setup.executeCandidate_counts openPaths candidate turn state).1
      unfold processedLoop
      simp only [outcomesOf, List.map_cons, TurnOutcome.tried, ge_iff_le]
      split
      · exact ⟨List.nil_prefix, rfl⟩
      · refine ⟨(List.prefix_cons_inj _).mpr within, ?_⟩
        rw [List.map_cons, ← streak]
        exact congrArg _ outcomes

/-- Nothing is deleted in a dry run, by induction on the batch. -/
theorem executeLoop_dryRun (setup : BatchSetup F) (openPaths : Option (List PathBuf))
    (dryRun : setup.config.dryRun = true) (batch : List (CandidacyScore F × Nat))
    (state : BatchState F)
    : (setup.executeLoop openPaths batch state).removals = state.removals := by
  induction batch generalizing state with
  | nil => rfl
  | cons entry rest ih =>
      obtain ⟨candidate, turn⟩ := entry
      unfold executeLoop
      split
      · rfl
      · rw [ih]
        unfold executeCandidate
        split
        · rfl
        · split
          · rfl
          · rfl

def batchOf (setup : BatchSetup F) (plan : DeletionPlan F) : List (CandidacyScore F × Nat) :=
  (plan.candidates.take (min plan.candidates.length setup.config.maxBatchSize)).zipIdx

def openScan (setup : BatchSetup F) (plan : DeletionPlan F) : Option (List PathBuf × Bool) :=
  if setup.config.checkOpenFiles && !setup.config.dryRun then
    some ((setup.history 0).openPathAncestors
      ((plan.candidates.take (min plan.candidates.length setup.config.maxBatchSize)).map
        (·.path)))
  else none

def ScanComplete (setup : BatchSetup F) (plan : DeletionPlan F) : Prop :=
  ∀ scan, setup.openScan plan = some scan → scan.2 = true

def turns (setup : BatchSetup F) (plan : DeletionPlan F) : List (BatchTurn F) :=
  let openPaths := (setup.openScan plan).map (·.1)
  setup.turnsOf openPaths
    (setup.processedLoop openPaths (setup.batchOf plan) ⟨.empty setup.config.dryRun, 0, []⟩)

/-- The report accounts for a prefix of the plan, nothing is deleted in a dry run, and the breaker
tells whether there was a streak of failures, after which no delete is attempted.
-/
structure KeepsAccounts (setup : BatchSetup F) (plan : DeletionPlan F) : Prop where
  processed : (setup.turns plan).map (·.1) <+: plan.candidates
  bounded : (setup.turns plan).length ≤ setup.config.maxBatchSize
  counted
    : (setup.execute plan).report.itemsDeleted + (setup.execute plan).report.itemsFailed
        + (setup.execute plan).report.itemsSkipped + (setup.execute plan).report.itemsWouldDelete
      = (setup.turns plan).length
  accounts : Accounts (setup.turns plan) (setup.execute plan).report
  dryRun : setup.config.dryRun = true →
    (setup.execute plan).report.itemsDeleted = 0 ∧ (setup.execute plan).removals = []
  tripped : (setup.execute plan).report.circuitBreakerTripped = true
    ↔ TurnOutcome.FailsInARow setup.config.circuitBreakerThreshold
        ((setup.turns plan).map (·.2))
  stopped : ∀ before run after, (setup.turns plan).map (·.2) = before ++ run ++ after →
    run.all TurnOutcome.quiet = true →
      setup.config.circuitBreakerThreshold ≤ run.count .failed →
        after.any TurnOutcome.attempt = false

section Execute

variable (setup : BatchSetup F) {plan : DeletionPlan F}

theorem execute_eq (complete : setup.ScanComplete plan)
    : setup.execute plan
        = setup.executeLoop ((setup.openScan plan).map (·.1)) (setup.batchOf plan)
          ⟨.empty setup.config.dryRun, 0, []⟩ := by
  unfold ScanComplete openScan at complete
  unfold execute openScan batchOf
  dsimp only
  split
  · rename_i mutating
    rw [if_pos mutating] at complete
    rw [if_pos (complete _ rfl)]
    rfl
  · rfl

theorem planOutcomes_eq (complete : setup.ScanComplete plan)
    : setup.planOutcomes plan
        = setup.outcomesOf ((setup.openScan plan).map (·.1)) (setup.batchOf plan) := by
  unfold ScanComplete openScan at complete
  unfold planOutcomes openScan batchOf
  dsimp only
  split
  · rename_i mutating
    rw [if_pos mutating] at complete
    rw [if_pos (complete _ rfl)]
    rfl
  · rfl

theorem turns_tried (complete : setup.ScanComplete plan)
    : (setup.turns plan).map (·.2)
        = TurnOutcome.tried setup.config.circuitBreakerThreshold 0 (setup.planOutcomes plan) := by
  rw [setup.planOutcomes_eq complete]
  refine Eq.trans ?_ (setup.processedLoop_tried _ _ ⟨.empty setup.config.dryRun, 0, []⟩).2
  simp [turns, turnsOf, outcomesOf]

theorem turns_processed
    : (setup.turns plan).map (·.1) <+: plan.candidates
      ∧ (setup.turns plan).length ≤ setup.config.maxBatchSize := by
  have within := (setup.processedLoop_tried ((setup.openScan plan).map (·.1))
    (setup.batchOf plan) ⟨.empty setup.config.dryRun, 0, []⟩).1
  have candidates : (setup.batchOf plan).map (·.1)
      = plan.candidates.take (min plan.candidates.length setup.config.maxBatchSize) := by
    simp [batchOf]
  constructor
  · have mapped := within.map (·.1)
    rw [candidates] at mapped
    have paths := mapped.trans (List.take_prefix _ _)
    unfold turns turnsOf
    rw [List.map_map]
    exact paths
  · have short := within.length_le
    have whole := congrArg List.length candidates
    rw [List.length_map, List.length_take] at whole
    simp only [turns, turnsOf, List.length_map]
    omega

theorem execute_accounts (complete : setup.ScanComplete plan)
    : Accounts (setup.turns plan) (setup.execute plan).report := by
  have start : Accounts []
      (⟨.empty setup.config.dryRun, 0, []⟩ : BatchState F).report := Accounts.empty _
  rw [setup.execute_eq complete]
  exact setup.executeLoop_accounts _ _ start

/-- In a dry run no call removes anything, and so nothing is deleted. -/
theorem execute_dryRun (complete : setup.ScanComplete plan) (dryRun : setup.config.dryRun = true)
    : (setup.execute plan).report.itemsDeleted = 0 ∧ (setup.execute plan).removals = [] := by
  constructor
  · have none : cameTo (· = .deleted) (setup.turns plan) = [] := by
      simp only [cameTo, List.map_eq_nil_iff, List.filter_eq_nil_iff, turns, turnsOf,
        List.mem_map]
      rintro turn ⟨entry, _, rfl⟩
      unfold outcomeOf
      split
      · simp
      · split
        · simp
        · simp
    rw [(setup.execute_accounts complete).deleted, none]
    rfl
  · rw [setup.execute_eq complete, setup.executeLoop_dryRun _ dryRun]

theorem turns_stopped (complete : setup.ScanComplete plan)
    {before run after : List TurnOutcome}
    (split : (setup.turns plan).map (·.2) = before ++ run ++ after)
    (quiet : run.all TurnOutcome.quiet = true)
    (enough : setup.config.circuitBreakerThreshold ≤ run.count .failed)
    : after = [] := by
  cases after with
  | nil => rfl
  | cons outcome rest =>
      rw [setup.turns_tried complete] at split
      have short := TurnOutcome.tried_short split
      rw [List.foldl_append, TurnOutcome.foldl_quiet quiet] at short
      omega

/-- The account of a batch is right exactly if no streak of failures is completed by its last
candidate: such a streak does not trip the breaker.
-/
theorem keepsAccounts_iff (complete : setup.ScanComplete plan)
    : setup.KeepsAccounts plan
        ↔ ¬ TurnOutcome.EndsOnStreak setup.config.circuitBreakerThreshold
          (setup.planOutcomes plan) := by
  have tripped : ((setup.execute plan).report.circuitBreakerTripped = true
        ↔ TurnOutcome.FailsInARow setup.config.circuitBreakerThreshold
            ((setup.turns plan).map (·.2)))
      ↔ ¬ TurnOutcome.EndsOnStreak setup.config.circuitBreakerThreshold
        (setup.planOutcomes plan) := by
    rw [(setup.execute_counts plan).1, setup.turns_tried complete,
      TurnOutcome.failsInARow_tried]
    exact TurnOutcome.halts_iff_failsInARow
  constructor
  · intro kept
    exact tripped.mp kept.tripped
  · intro unended
    have accounts := setup.execute_accounts complete
    refine ⟨setup.turns_processed.1, setup.turns_processed.2, accounts.sum, accounts,
      setup.execute_dryRun complete, tripped.mpr unended, ?_⟩
    intro before run after split quiet enough
    rw [setup.turns_stopped complete split quiet enough]
    rfl

end Execute

end BatchSetup

/-- Paths that are still there after their deletion: every delete fails. -/
def stubbornSetup : BatchSetup ℚ := ⟨DeletionConfig.default, fun _ => emptyDirectories, none⟩

def stubbornPlan (candidates : Nat) : DeletionPlan ℚ :=
  ⟨List.replicate candidates (candidateAt "/tmp/build-cache"), 5 * candidates, candidates⟩

/-- With a sixth candidate left, five failures are told. -/
theorem sixth_candidate_keepsAccounts : stubbornSetup.KeepsAccounts (stubbornPlan 6) := by
  have complete : stubbornSetup.ScanComplete (stubbornPlan 6) := by
    rintro scan found
    obtain rfl : ([], true) = scan := Option.some.inj found
    rfl
  have outcomes : stubbornSetup.planOutcomes (stubbornPlan 6)
      = List.replicate 5 .failed ++ [.failed] := by decide +kernel
  refine (BatchSetup.keepsAccounts_iff stubbornSetup complete).mpr ?_
  rintro ⟨_, short⟩
  exact absurd (short (List.replicate 5 .failed) .failed [] outcomes) (by decide)

/-- Five failures that end a batch do not trip its breaker. -/
theorem last_failure_untold : ¬ stubbornSetup.KeepsAccounts (stubbornPlan 5) := by
  intro kept
  have untold : (stubbornSetup.execute (stubbornPlan 5)).report.circuitBreakerTripped = false := by
    decide +kernel
  have outcomes : (stubbornSetup.turns (stubbornPlan 5)).map (·.2) = List.replicate 5 .failed := by
    decide +kernel
  have told := kept.tripped.mpr ⟨[], List.replicate 5 .failed, [], by simpa using outcomes,
    by decide, by decide⟩
  rw [untold] at told
  cases told

end StorageBallast
