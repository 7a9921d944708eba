import Mathlib.Data.List.Infix
import StorageBallast.Scanner.DeletionExecutor

/-! How each candidate of a batch fares, and the streak of failures that halts the batch. How
one fares does not depend on the others, so the loop follows the list of what the candidates
would come to, as far as it gets.
-/

namespace StorageBallast

variable {F : Type}

inductive TurnOutcome where
  /-- The dynamic check stopped it. -/
  | targetReached
  /-- The check before deletion refused it. -/
  | refused (reason : SkipReason)
  | wouldDelete
  | deleted
  | failed
deriving DecidableEq, Repr

namespace TurnOutcome

def attempt : TurnOutcome → Bool
  | deleted | failed => true
  | _ => false

/-- Consecutive failures after the outcome. A success or a refusal ends a streak; the other
outcomes leave it as it is.
-/
def streakAfter (streak : Nat) : TurnOutcome → Nat
  | targetReached | wouldDelete => streak
  | refused _ | deleted => 0
  | failed => streak + 1

def streak (outcomes : List TurnOutcome) : Nat := outcomes.foldl streakAfter 0

def tried (threshold : Nat) : Nat → List TurnOutcome → List TurnOutcome
  | _, [] => []
  | streak, outcome :: rest =>
      if threshold ≤ streak then []
      else outcome :: tried threshold (outcome.streakAfter streak) rest

def halts (threshold : Nat) : Nat → List TurnOutcome → Bool
  | _, [] => false
  | streak, outcome :: rest =>
      decide (threshold ≤ streak) || halts threshold (outcome.streakAfter streak) rest

/-- A halted batch was tried up to the streak that halted it, and one that is not halted to
its end, by induction on the outcomes.
-/
theorem tried_prefix (threshold streak : Nat) (outcomes : List TurnOutcome)
    : tried threshold streak outcomes <+: outcomes
      ∧ (halts threshold streak outcomes = false →
          tried threshold streak outcomes = outcomes) := by
  induction outcomes generalizing streak with
  | nil => exact ⟨List.prefix_refl _, fun _ => rfl⟩
  | cons outcome rest ih =>
      obtain ⟨within, whole⟩ := ih (outcome.streakAfter streak)
      unfold tried halts
      split
      · rename_i full
        exact ⟨List.nil_prefix, fun unhalted => by simp [full] at unhalted⟩
      · rename_i short
        refine ⟨(List.prefix_cons_inj outcome).mpr within, fun unhalted => ?_⟩
        rw [whole (by simpa [short] using unhalted)]

/-- A streak of the given length, with a candidate left, halts the batch there. Witness:
induction on the outcomes before.
-/
theorem halts_of_streak {threshold streak : Nat} {front : List TurnOutcome}
    {outcome : TurnOutcome} {back : List TurnOutcome}
    (full : threshold ≤ front.foldl streakAfter streak)
    : halts threshold streak (front ++ outcome :: back) = true
      ∧ tried threshold streak (front ++ outcome :: back) <+: front := by
  induction front generalizing streak with
  | nil =>
      have here : threshold ≤ streak := full
      simp [halts, tried, here]
  | cons head front ih =>
      obtain ⟨halted, within⟩ := ih full
      refine ⟨by simp [halts, halted], ?_⟩
      simp only [List.cons_append, tried]
      split
      · exact List.nil_prefix
      · exact (List.prefix_cons_inj head).mpr within

end TurnOutcome

namespace BatchSetup

/-- What the candidate at a place of the batch comes to. -/
def outcomeOf (setup : BatchSetup F) (openPaths : Option (List PathBuf))
    (candidate : CandidacyScore F) (turn : Nat) : TurnOutcome :=
  if setup.shouldSkip.any fun skip => skip (momentOf turn .targetFree) candidate.path then
    .targetReached
  else
    match preflightCheck setup.config (worldsAt setup.history turn) candidate openPaths with
    | .error reason => .refused reason
    | .ok () =>
        if setup.config.dryRun then .wouldDelete
        else
          match (deletePath setup.config (worldsAt setup.history turn) candidate).outcome with
          | .ok () => .deleted
          | .error _ => .failed

theorem executeCandidate_counts (setup : BatchSetup F) (openPaths : Option (List PathBuf))
    (candidate : CandidacyScore F) (turn : Nat) (state : BatchState F)
    : (setup.executeCandidate openPaths candidate turn state).consecutiveFailures
        = (setup.outcomeOf openPaths candidate turn).streakAfter state.consecutiveFailures
      ∧ (setup.executeCandidate openPaths candidate turn state).report.itemsDeleted
        = state.report.itemsDeleted
          + (if setup.outcomeOf openPaths candidate turn = .deleted then 1 else 0)
      ∧ (setup.executeCandidate openPaths candidate turn state).report.circuitBreakerTripped
        = state.report.circuitBreakerTripped := by
  simp only [executeCandidate, outcomeOf]
  split
  · exact ⟨rfl, rfl, rfl⟩
  · cases checked : preflightCheck setup.config (worldsAt setup.history turn) candidate
      openPaths with
    | error reason => exact ⟨rfl, rfl, rfl⟩
    | ok passed =>
        cases setup.config.dryRun with
        | true => exact ⟨rfl, rfl, rfl⟩
        | false =>
            simp only [deleteCandidate, Bool.false_eq_true, if_false]
            cases (deletePath setup.config (worldsAt setup.history turn) candidate).outcome with
            | ok removed => exact ⟨rfl, rfl, rfl⟩
            | error fault => exact ⟨rfl, rfl, rfl⟩

def outcomesOf (setup : BatchSetup F) (openPaths : Option (List PathBuf))
    (batch : List (CandidacyScore F × Nat)) : List TurnOutcome :=
  batch.map fun entry => setup.outcomeOf openPaths entry.1 entry.2

/-- The loop halts where the streak of its outcomes does, and counts what was deleted before,
by induction on the batch.
-/
theorem executeLoop_counts (setup : BatchSetup F) (openPaths : Option (List PathBuf))
    (batch : List (CandidacyScore F × Nat)) (state : BatchState F)
    : (setup.executeLoop openPaths batch state).report.circuitBreakerTripped
        = (state.report.circuitBreakerTripped
          || TurnOutcome.halts setup.config.circuitBreakerThreshold state.consecutiveFailures
            (setup.outcomesOf openPaths batch))
      ∧ (setup.executeLoop openPaths batch state).report.itemsDeleted
        = state.report.itemsDeleted
          + (TurnOutcome.tried setup.config.circuitBreakerThreshold state.consecutiveFailures
            (setup.outcomesOf openPaths batch)).count .deleted := by
  induction batch generalizing state with
  | nil => simp [executeLoop, outcomesOf, TurnOutcome.halts, TurnOutcome.tried]
  | cons entry rest ih =>
      obtain ⟨candidate, turn⟩ := entry
      obtain ⟨streak, deleted, tripped⟩ :=
        setup.executeCandidate_counts openPaths candidate turn state
      unfold executeLoop
      simp only [outcomesOf, List.map_cons, TurnOutcome.halts, TurnOutcome.tried]
      split
      · rename_i full
        simp [full]
      · rename_i short
        obtain ⟨halted, counted⟩ := ih (setup.executeCandidate openPaths candidate turn state)
        rw [halted, counted, streak, deleted, tripped]
        simp only [outcomesOf, short, decide_false, Bool.false_or, List.count_cons, beq_iff_eq]
        exact ⟨trivial, by omega⟩

def planOutcomes (setup : BatchSetup F) (plan : DeletionPlan F) : List TurnOutcome :=
  let limit := min plan.candidates.length setup.config.maxBatchSize
  let batch := plan.candidates.take limit
  if setup.config.checkOpenFiles && !setup.config.dryRun then
    let openScan := (setup.history 0).openPathAncestors (batch.map (·.path))
    if openScan.2 then setup.outcomesOf (some openScan.1) batch.zipIdx else []
  else setup.outcomesOf none batch.zipIdx

/-- The breaker of a batch trips where the streak of its outcomes halts it. -/
theorem execute_counts (setup : BatchSetup F) (plan : DeletionPlan F)
    : (setup.execute plan).report.circuitBreakerTripped
        = TurnOutcome.halts setup.config.circuitBreakerThreshold 0 (setup.planOutcomes plan)
      ∧ (setup.execute plan).report.itemsDeleted
        = (TurnOutcome.tried setup.config.circuitBreakerThreshold 0
          (setup.planOutcomes plan)).count .deleted := by
  unfold execute planOutcomes
  dsimp only
  split
  · split
    · obtain ⟨halted, counted⟩ := setup.executeLoop_counts _ _ ⟨.empty setup.config.dryRun, 0, []⟩
      rw [halted, counted]
      exact ⟨rfl, Nat.zero_add _⟩
    · exact ⟨rfl, rfl⟩
  · obtain ⟨halted, counted⟩ := setup.executeLoop_counts _ _ ⟨.empty setup.config.dryRun, 0, []⟩
    rw [halted, counted]
    exact ⟨rfl, Nat.zero_add _⟩

end BatchSetup

end StorageBallast
