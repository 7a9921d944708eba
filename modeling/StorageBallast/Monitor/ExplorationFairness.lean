import Mathlib.Algebra.BigOperators.Group.List.Basic
import Mathlib.Algebra.Order.BigOperators.Group.List
import StorageBallast.Monitor.VoiScheduler

/-! No path starves under the exploration quota: while one is left out, another path that was
scanned no more often is scanned once more, and there are only so many scans to catch up.
-/

namespace StorageBallast

open scoped Float64
open Sorting (sortBy mem_sortBy sortBy_perm Respects)

/-- One call of the scheduler, with the order in which its table is iterated, and what happens
until the next one.
-/
structure SchedulingRound (F : Type) where
  iteration : List Location
  now : Instant
  results : List (ScanResult F)
  windowEnds : Bool

namespace VoiScheduler

variable {F : Type} [Float64 F]

def scanCount (self : VoiScheduler F) (path : Location) : Nat := (self.pathStats path).scanCount

theorem recordScanResult_fixed (self : VoiScheduler F) (result : ScanResult F)
    : (self.recordScanResult result).paths = self.paths
      ∧ (self.recordScanResult result).config = self.config := by
  unfold recordScanResult
  split <;> exact ⟨rfl, rfl⟩

/-- A result counts for its own path only, up to the end of the counter. -/
theorem recordScanResult_scanCount (self : VoiScheduler F) (result : ScanResult F)
    (path : Location)
    : (self.recordScanResult result).scanCount path
      = if path = result.path ∧ path ∈ self.paths
        then saturatingAddU32 (self.scanCount path) 1 else self.scanCount path := by
  unfold recordScanResult
  by_cases known : result.path ∈ self.paths
  · rw [if_pos known]
    by_cases here : path = result.path
    · subst here
      simp [scanCount, known, PathStats.recordScan]
    · simp [scanCount, here]
  · rw [if_neg known]
    by_cases here : path = result.path
    · subst here
      simp [known]
    · simp [here]

def recordResults (self : VoiScheduler F) (results : List (ScanResult F)) : VoiScheduler F :=
  results.foldl recordScanResult self

theorem recordResults_fixed (self : VoiScheduler F) (results : List (ScanResult F))
    : (self.recordResults results).paths = self.paths
      ∧ (self.recordResults results).config = self.config := by
  induction results generalizing self with
  | nil => exact ⟨rfl, rfl⟩
  | cons result rest ih =>
      obtain ⟨paths, config⟩ := ih (self.recordScanResult result)
      obtain ⟨samePaths, sameConfig⟩ := self.recordScanResult_fixed result
      exact ⟨paths.trans samePaths, config.trans sameConfig⟩

variable {path : Location}

/-- Without a result of its own a path keeps its count, by induction on the results. -/
theorem recordResults_scanCount_of_absent {results : List (ScanResult F)}
    (absent : ∀ result ∈ results, path ≠ result.path) (self : VoiScheduler F)
    : (self.recordResults results).scanCount path = self.scanCount path := by
  induction results generalizing self with
  | nil => rfl
  | cons result rest ih =>
      have apart := absent result List.mem_cons_self
      refine (ih (fun other member => absent other (List.mem_cons_of_mem _ member)) _).trans ?_
      rw [recordScanResult_scanCount, if_neg fun both => apart both.1]

/-- A count never falls below what it is, up to the end of the counter; by induction on the
results.
-/
theorem le_recordResults_scanCount (self : VoiScheduler F) (results : List (ScanResult F))
    {count : Nat} (small : count ≤ 2 ^ 32 - 1) (reached : count ≤ self.scanCount path)
    : count ≤ (self.recordResults results).scanCount path := by
  induction results generalizing self with
  | nil => exact reached
  | cons result rest ih =>
      refine ih _ ?_
      rw [recordScanResult_scanCount]
      split
      next =>
        unfold saturatingAddU32
        omega
      next => exact reached

/-- A path with a result has one scan more, by induction on the results. -/
theorem succ_le_recordResults_scanCount {results : List (ScanResult F)}
    (present : ∃ result ∈ results, path = result.path) (self : VoiScheduler F)
    (registered : path ∈ self.paths) {count : Nat} (small : count < 2 ^ 32 - 1)
    (reached : count ≤ self.scanCount path)
    : count + 1 ≤ (self.recordResults results).scanCount path := by
  induction results generalizing self with
  | nil => simp at present
  | cons result rest ih =>
      by_cases here : path = result.path
      · refine le_recordResults_scanCount (self.recordScanResult result) rest (by omega) ?_
        rw [recordScanResult_scanCount, if_pos ⟨here, registered⟩]
        unfold saturatingAddU32
        omega
      · have later : ∃ result ∈ rest, path = result.path := by
          obtain ⟨other, member, same⟩ := present
          rcases List.mem_cons.mp member with rfl | member
          · exact absurd same here
          · exact ⟨other, member, same⟩
        refine ih later (self.recordScanResult result) ?_ ?_
        · rwa [(self.recordScanResult_fixed result).1]
        · rwa [recordScanResult_scanCount, if_neg fun both => here both.1]

theorem byScanCount_respects
    : Respects (byScanCount (F := F)) ExplorationCandidate.scanCount := by
  intro left right
  constructor
  · intro less
    simp [byScanCount, Nat.compare_eq_lt.mpr less]
  · intro more
    simp [byScanCount, Nat.compare_eq_gt.mpr more]

variable {self : VoiScheduler F}

/-- Exploration may pick each path that is not selected, with its count. -/
theorem mem_explorationCandidates {paths selected : List Location}
    {now : Instant} {candidate : ExplorationCandidate F} (registered : ∀ path ∈ paths,
      path ∈ self.paths)
    : candidate ∈ self.explorationCandidates paths selected now
      ↔ ∃ path ∈ paths, path ∉ selected
        ∧ ⟨path, self.scanCount path, (self.pathStats path).staleness now⟩ = candidate := by
  unfold explorationCandidates
  rw [mem_sortBy]
  simp only [List.mem_map, List.mem_filter, Bool.not_eq_true', decide_eq_false_iff_not,
    and_assoc]
  refine exists_congr fun path => and_congr_right fun member => and_congr_right fun _ => ?_
  rw [if_pos (registered path member)]
  rfl

variable [RoundingFloat64 F]

/-- A positive fraction of two slots or more leaves one for exploration. -/
theorem explorationBudget_pos [PositiveFloat64 F] {budget : Nat} (slots : 2 ≤ budget)
    (quota : Float64.gt self.config.explorationQuotaFraction (0.0 : F) = true)
    : 1 ≤ self.explorationBudget budget := by
  have share : Float64.lt 0.0
      (Float64.ofNat budget * self.config.explorationQuotaFraction : F) = true :=
    PositiveFloat64.mul_pos (PositiveFloat64.one_le_ofNat (by omega)) quota
  have slot := PositiveFloat64.one_le_ceil share
  unfold explorationBudget
  omega

/-- If a path is left out, another one that was scanned no more often is planned. -/
theorem exists_planned_of_unplanned {iteration : List Location}
    (iterated : iteration.Perm self.paths) {budget : Nat}
    (slot : 1 ≤ self.explorationBudget budget) {now : Instant} (registered : path ∈ self.paths)
    (unplanned : path ∉ (self.scheduleVoi iteration budget now).paths)
    : ∃ other ∈ (self.scheduleVoi iteration budget now).paths,
        other ≠ path ∧ other ∈ self.paths ∧ self.scanCount other ≤ self.scanCount path := by
  let exploited := (self.scoredPaths iteration now).take
    (budget - self.explorationBudget budget)
  let candidates := self.explorationCandidates iteration (exploited.map (·.1)) now
  have planned : (self.scheduleVoi iteration budget now).paths
      = exploited.map (·.1)
        ++ (candidates.take (self.explorationBudget budget)).map (·.path) := by
    simp only [scheduleVoi, ScanPlan.paths, List.map_append, List.map_map]
    rfl
  rw [planned, List.mem_append, not_or] at unplanned
  have known : ∀ path ∈ iteration, path ∈ self.paths := fun _ => iterated.mem_iff.mp
  -- the path itself may be picked, so there is a first pick
  have pickable : ⟨path, self.scanCount path, (self.pathStats path).staleness now⟩ ∈ candidates :=
    (mem_explorationCandidates known).mpr
      ⟨path, iterated.mem_iff.mpr registered, unplanned.1, rfl⟩
  obtain ⟨first, rest, sorted⟩ := List.exists_cons_of_ne_nil (List.ne_nil_of_mem pickable)
  have picked : first ∈ candidates.take (self.explorationBudget budget) := by
    obtain ⟨more, same⟩ := Nat.exists_eq_succ_of_ne_zero (Nat.ne_of_gt slot)
    rw [same, show candidates = first :: rest from sorted]
    exact List.mem_cons_self
  have among : first ∈ candidates := List.mem_of_mem_take picked
  obtain ⟨other, listed, _, rfl⟩ := (mem_explorationCandidates known).mp among
  have least : self.scanCount other ≤ self.scanCount path :=
    Sorting.head_le_of_mem byScanCount_respects sorted (mem_sortBy.mp pickable)
  refine ⟨other, ?_, fun same => ?_, known other listed, least⟩
  · rw [planned, List.mem_append]
    exact .inr (List.mem_map.mpr ⟨_, picked, rfl⟩)
  · exact unplanned.2 (List.mem_map.mpr ⟨_, picked, same⟩)

def plan (self : VoiScheduler F) (round : SchedulingRound F) : ScanPlan F :=
  (self.schedule round.iteration round.now).2

def afterRound (self : VoiScheduler F) (round : SchedulingRound F) : VoiScheduler F :=
  let recorded := (self.schedule round.iteration round.now).1.recordResults round.results
  if round.windowEnds then recorded.endWindow else recorded

/-- The table is iterated in some order, there is no fallback, and each planned path has
exactly one result.
-/
structure RoundInVoiMode (scheduler : VoiScheduler F) (round : SchedulingRound F) : Prop where
  iterated : round.iteration.Perm scheduler.paths
  voi : scheduler.isFallbackActive = false
  reported : (round.results.map (·.path)).Perm (scheduler.plan round).paths

def scansBehind (self : VoiScheduler F) (path : Location) (count : Nat) : Nat :=
  ((self.paths.filter (· ≠ path)).map fun other => count + 1 - self.scanCount other).sum

omit [RoundingFloat64 F] in
theorem endWindow_fixed (self : VoiScheduler F)
    : self.endWindow.paths = self.paths ∧ self.endWindow.config = self.config
      ∧ self.endWindow.pathStats = self.pathStats := by
  unfold endWindow
  split <;> exact ⟨rfl, rfl, rfl⟩

/-- In VOI mode with a slot the plan is made of utilities and counts, and a round changes
what its results change.
-/
theorem afterRound_eq (round : SchedulingRound F)
    (voi : self.isFallbackActive = false) (slots : self.config.scanBudgetPerInterval ≠ 0)
    (registered : self.paths ≠ [])
    : self.plan round = self.scheduleVoi round.iteration self.config.scanBudgetPerInterval
          round.now
      ∧ (self.afterRound round).paths = self.paths
      ∧ (self.afterRound round).config = self.config
      ∧ ∀ path, (self.afterRound round).scanCount path
        = (self.recordResults round.results).scanCount path := by
  have scheduled : self.schedule round.iteration round.now = (self,
      self.scheduleVoi round.iteration self.config.scanBudgetPerInterval round.now) := by
    simp [schedule, voi, slots, registered]
  obtain ⟨paths, config⟩ := self.recordResults_fixed round.results
  obtain ⟨samePaths, sameConfig, sameStats⟩ := (self.recordResults round.results).endWindow_fixed
  refine ⟨congrArg Prod.snd scheduled, ?_⟩
  unfold afterRound
  rw [scheduled]
  dsimp only
  split
  · exact ⟨samePaths.trans paths, sameConfig.trans config, fun path => by
      rw [scanCount, sameStats, scanCount]⟩
  · exact ⟨paths, config, fun _ => rfl⟩

/-- A round that leaves a path out keeps its count and brings the others closer to it. -/
theorem scansBehind_lt [PositiveFloat64 F] {round : SchedulingRound F}
    (slots : 2 ≤ self.config.scanBudgetPerInterval)
    (quota : Float64.gt self.config.explorationQuotaFraction (0.0 : F) = true)
    (registered : path ∈ self.paths)
    (unsaturated : self.scanCount path < 2 ^ 32 - 1) (valid : RoundInVoiMode self round)
    (unplanned : path ∉ (self.plan round).paths)
    : (self.afterRound round).scanCount path = self.scanCount path
      ∧ (self.afterRound round).scansBehind path (self.scanCount path)
        < self.scansBehind path (self.scanCount path) := by
  obtain ⟨plans, paths, _, counts⟩ := afterRound_eq round valid.voi
    (by omega) (List.ne_nil_of_mem registered)
  have reports (other : Location) : (∃ result ∈ round.results, other = result.path)
      ↔ other ∈ (self.plan round).paths := by
    rw [← valid.reported.mem_iff, List.mem_map]
    exact exists_congr fun result => and_congr_right fun _ => eq_comm
  have absent : ∀ result ∈ round.results, path ≠ result.path := fun result member same =>
    unplanned ((reports path).mp ⟨result, member, same⟩)
  refine ⟨(counts path).trans (recordResults_scanCount_of_absent absent self), ?_⟩
  rw [plans] at unplanned
  obtain ⟨other, planned, differs, known, fewer⟩ := exists_planned_of_unplanned valid.iterated
    (explorationBudget_pos slots quota) registered unplanned
  unfold scansBehind
  rw [paths]
  refine List.sum_lt_sum _ _ (fun third _ => ?_) ⟨other, ?_, ?_⟩
  · -- no count falls, below the end of the counter
    rw [counts]
    have kept : min (self.scanCount third) (2 ^ 32 - 1)
        ≤ (self.recordResults round.results).scanCount third :=
      le_recordResults_scanCount self round.results (by omega) (by omega)
    omega
  · exact List.mem_filter.mpr ⟨known, decide_eq_true differs⟩
  · rw [counts]
    have scanned := succ_le_recordResults_scanCount ((reports other).mpr (plans ▸ planned)) self
      known (by omega) le_rfl
    omega

/-- A registered path is planned after as many calls as the other paths have scans to catch
up with it, and one more.
-/
theorem planned_within [PositiveFloat64 F] {scheduler : VoiScheduler F}
    (slots : 2 ≤ scheduler.config.scanBudgetPerInterval)
    (quota : Float64.gt scheduler.config.explorationQuotaFraction (0.0 : F) = true)
    {path : Location} (registered : path ∈ scheduler.paths)
    (unsaturated : scheduler.scanCount path < 2 ^ 32 - 1) {rounds : List (SchedulingRound F)}
    (valid : Runs.Guarded afterRound RoundInVoiMode scheduler rounds)
    (long : 1 + scheduler.scansBehind path (scheduler.scanCount path) ≤ rounds.length)
    : ∃ call ∈ (Runs.steps afterRound scheduler rounds).take
          (1 + scheduler.scansBehind path (scheduler.scanCount path)),
        path ∈ (call.1.plan call.2).paths := by
  let count := scheduler.scanCount path
  let waiting (s : VoiScheduler F) : Prop :=
    s.paths = scheduler.paths ∧ s.config = scheduler.config ∧ s.scanCount path = count
  have progress (s : VoiScheduler F) (round : SchedulingRound F) (waits : waiting s)
      (voi : RoundInVoiMode s round) : path ∈ (s.plan round).paths
        ∨ (waiting (s.afterRound round)
          ∧ (s.afterRound round).scansBehind path count < s.scansBehind path count) := by
    obtain ⟨samePaths, sameConfig, same⟩ := waits
    refine or_iff_not_imp_left.mpr fun unplanned => ?_
    obtain ⟨_, paths, config, _⟩ := afterRound_eq round voi.voi
      (by rw [sameConfig]; omega) (List.ne_nil_of_mem (samePaths ▸ registered))
    obtain ⟨kept, closer⟩ := scansBehind_lt (sameConfig ▸ slots) (sameConfig ▸ quota)
      (samePaths ▸ registered) (same ▸ unsaturated) voi unplanned
    rw [same] at kept closer
    exact ⟨⟨paths.trans samePaths, config.trans sameConfig, kept⟩, closer⟩
  have start : waiting scheduler := ⟨rfl, rfl, rfl⟩
  rw [Nat.add_comm] at long ⊢
  exact Runs.reached_within_rank (·.scansBehind path count) progress start valid long

/-- Two slots, one of them for exploration; utilities are the reclaimed bytes. -/
def halvedConfig : VoiConfig ℚ where
  enabled := true
  scanBudgetPerInterval := 2
  explorationQuotaFraction := 1 / 2
  ioCostWeight := 0
  fpRiskWeight := 0
  explorationWeight := 0
  forecastErrorThreshold := 1
  fallbackTriggerWindows := 3
  recoveryTriggerWindows := 3
  minObservationsForForecast := 2
  ewmaAlpha := 1 / 2

def busyPath : Location := ⟨[⟨"busy", by decide⟩]⟩

def rivalPath : Location := ⟨[⟨"rival", by decide⟩]⟩

def quietPath : Location := ⟨[⟨"quiet", by decide⟩]⟩

theorem threePaths_nodup : [busyPath, rivalPath, quietPath].Nodup := by decide

def threePaths (count : Nat) : VoiScheduler ℚ where
  config := halvedConfig
  paths := [busyPath, rivalPath, quietPath]
  pathStats path :=
    { PathStats.new with
      scanCount := count
      lastScanned := some 0
      ewmaReclaimPerScan := if path = busyPath then 1000 else 0 }
  calibration := ⟨0, 0, false, []⟩
  pendingErrors := []
  rrCursor := 0
  distinct := threePaths_nodup

def scanOf (path : Location) : ScanResult ℚ :=
  ⟨path, if path = busyPath then 1000 else 0, 0, 0, 0, 0⟩

def roundOf (scanned : List Location) : SchedulingRound ℚ :=
  ⟨[busyPath, rivalPath, quietPath], 0, scanned.map scanOf, false⟩

theorem guarded_of_all {scheduler : VoiScheduler ℚ} {rounds : List (SchedulingRound ℚ)}
    (all : (Runs.steps afterRound scheduler rounds).all (fun call =>
      call.2.iteration.isPerm call.1.paths && !call.1.isFallbackActive
        && (call.2.results.map (·.path)).isPerm (call.1.plan call.2).paths) = true)
    : Runs.Guarded afterRound RoundInVoiMode scheduler rounds := by
  refine Runs.guarded_iff_steps.mpr fun call member => ?_
  have checked := List.all_eq_true.mp all call member
  simp only [Bool.and_eq_true, Bool.not_eq_true', List.isPerm_iff] at checked
  exact ⟨checked.1.1, checked.1.2, checked.2⟩

/-- In the third call at the latest; here it is the second one. -/
theorem quietPath_planned
    : ∃ call ∈ (Runs.steps afterRound (threePaths 5)
          [roundOf [busyPath, rivalPath], roundOf [busyPath, quietPath],
            roundOf [busyPath, rivalPath]]).take
          (1 + (threePaths 5).scansBehind quietPath ((threePaths 5).scanCount quietPath)),
        quietPath ∈ (call.1.plan call.2).paths :=
  planned_within (by decide) (by decide +kernel) (by decide) (by decide)
    (guarded_of_all (by decide +kernel)) (by decide +kernel)

/-- With every count at the end of its counter nothing moves, and a path is left out longer
than its count allows.
-/
theorem quietPath_starves
    : 2 ≤ (threePaths (2 ^ 32 - 1)).config.scanBudgetPerInterval
      ∧ Float64.gt (threePaths (2 ^ 32 - 1)).config.explorationQuotaFraction (0 : ℚ) = true
      ∧ quietPath ∈ (threePaths (2 ^ 32 - 1)).paths
      ∧ Runs.Guarded afterRound RoundInVoiMode (threePaths (2 ^ 32 - 1))
          (List.replicate 4 (roundOf [busyPath, rivalPath]))
      ∧ 1 + (threePaths (2 ^ 32 - 1)).scansBehind quietPath
          ((threePaths (2 ^ 32 - 1)).scanCount quietPath) = 3
      ∧ ∀ call ∈ Runs.steps afterRound (threePaths (2 ^ 32 - 1))
          (List.replicate 4 (roundOf [busyPath, rivalPath])),
        quietPath ∉ (call.1.plan call.2).paths := by
  refine ⟨by decide, by decide +kernel, by decide, guarded_of_all (by decide +kernel),
    by decide +kernel, ?_⟩
  have out : ((Runs.steps afterRound (threePaths (2 ^ 32 - 1))
      (List.replicate 4 (roundOf [busyPath, rivalPath]))).all fun call =>
        !decide (quietPath ∈ (call.1.plan call.2).paths)) = true := by
    decide +kernel
  intro call member
  simpa using List.all_eq_true.mp out call member

end VoiScheduler

end StorageBallast
