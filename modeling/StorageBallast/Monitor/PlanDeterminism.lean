import StorageBallast.Foundations.FloatOrder
import StorageBallast.Monitor.RoundRobinFairness

/-! What a plan depends on. Its size and that its paths are distinct depend on no order; which
paths exploration picks does, as it has no tie-breaker: paths that were scanned as often and at
the same time come in the order in which the table of statistics is iterated.
-/

namespace StorageBallast

open scoped Float64
open Sorting (sortBy sortBy_perm mem_sortBy OrdersTotally TiesBehind stableSort)

/-- A number of seconds is a number. -/
class SecondsFloat64 (F : Type) [Float64 F] : Prop where
  seconds_ordered (duration : Duration)
    : Float64.le (duration.asSecsF64 : F) duration.asSecsF64 = true

instance : SecondsFloat64 ℝ where
  seconds_ordered _ := real_le_iff.mpr le_rfl

def VoiConfig.default {F : Type} [Float64 F] : VoiConfig F where
  enabled := true
  scanBudgetPerInterval := 5
  explorationQuotaFraction := 0.20
  ioCostWeight := 0.1
  fpRiskWeight := 0.15
  explorationWeight := 0.25
  forecastErrorThreshold := 0.5
  fallbackTriggerWindows := 3
  recoveryTriggerWindows := 5
  minObservationsForForecast := 3
  ewmaAlpha := 0.3

namespace VoiScheduler

variable {F : Type} [Float64 F]

def candidate (self : VoiScheduler F) (now : Instant) (path : Location)
    : ExplorationCandidate F :=
  ⟨path, self.scanCount path, (self.pathStats path).staleness now⟩

variable {self : VoiScheduler F}

theorem explorationCandidates_eq {paths : List Location}
    (registered : ∀ path ∈ paths, path ∈ self.paths) (selected : List Location) (now : Instant)
    : self.explorationCandidates paths selected now
      = sortBy byScanCount
          ((paths.filter fun path => !decide (path ∈ selected)).map (self.candidate now)) := by
  unfold explorationCandidates
  refine congrArg _ (List.map_congr_left fun path member => ?_)
  rw [if_pos (registered path (List.mem_filter.mp member).1)]
  rfl

section orders

variable [StrictFloat64 F]

theorem computeUtility_ordered (self : VoiScheduler F) (path : Location) (now : Instant)
    : Float64.le (self.computeUtility path now) (self.computeUtility path now) = true := by
  unfold computeUtility
  split
  · exact StrictFloat64.max_ordered (LawfulFloat64.decimal_le_self ..)
  · exact LawfulFloat64.decimal_le_self ..

/-- The utilities order the paths strictly, with the paths as tie-breakers. -/
theorem scoredPaths_perm (self : VoiScheduler F) {paths others : List Location}
    (perm : paths.Perm others) (now : Instant)
    : self.scoredPaths paths now = self.scoredPaths others now := by
  let scored (path : Location) : Location × F := (path, self.computeUtility path now)
  have ordered (entry : Location × F) (member : entry ∈ paths.map scored)
      : Float64.le entry.2 entry.2 = true := by
    obtain ⟨path, _, rfl⟩ := List.mem_map.mp member
    exact self.computeUtility_ordered path now
  have total : OrdersTotally byUtility (paths.map scored) :=
    (StrictFloat64.ordersTotally_descending ordered).then (.of_key Location.order Prod.fst _)
  refine (stableSort _).run_eq_of_perm (stableSort _) (perm.map scored) total ?_
  intro first inFirst second inSecond same
  obtain ⟨path, _, rfl⟩ := List.mem_map.mp inFirst
  obtain ⟨other, _, rfl⟩ := List.mem_map.mp inSecond
  rw [byUtility, Ordering.then_eq_eq] at same
  have samePath : path = other := Std.LawfulEqCmp.eq_of_compare same.2
  rw [samePath]

theorem ordersTotally_staleness {list : List (ExplorationCandidate F)}
    (numbers : ∀ entry ∈ list, ∀ seconds, entry.staleness = some seconds
      → Float64.le seconds seconds = true)
    : OrdersTotally (fun left right => compareStaleness right.staleness left.staleness) list where
  oriented left _ right _ := by
    cases left.staleness <;> cases right.staleness <;> first
      | rfl
      | exact StrictFloat64.partialCmp_swap
  trans left inLeft middle inMiddle right inRight low high := by
    cases first : left.staleness with
    | none => cases right.staleness <;> simp [compareStaleness]
    | some a =>
        cases second : middle.staleness with
        | none => simp [compareStaleness, first, second] at low
        | some b =>
            cases third : right.staleness with
            | none => simp [compareStaleness, second, third] at high
            | some c =>
                have orderedA := numbers left inLeft a first
                have orderedB := numbers middle inMiddle b second
                have orderedC := numbers right inRight c third
                rw [first, second] at low
                rw [second, third] at high
                have below := (StrictFloat64.partialCmp_ne_gt_iff orderedB orderedA).mp low
                have above := (StrictFloat64.partialCmp_ne_gt_iff orderedC orderedB).mp high
                exact (StrictFloat64.partialCmp_ne_gt_iff orderedC orderedA).mpr
                  (LawfulFloat64.le_trans above below)

theorem ordersTotally_byScanCount [SecondsFloat64 F] (self : VoiScheduler F) (now : Instant)
    (paths : List Location) : OrdersTotally byScanCount (paths.map (self.candidate now)) := by
  refine (OrdersTotally.of_key compare ExplorationCandidate.scanCount _).then
    (ordersTotally_staleness fun entry member seconds stale => ?_)
  obtain ⟨path, _, rfl⟩ := List.mem_map.mp member
  obtain ⟨last, _, rfl⟩ := Option.map_eq_some_iff.mp stale
  exact SecondsFloat64.seconds_ordered _

end orders

variable [RoundingFloat64 F]

def exploitedPaths (self : VoiScheduler F) (paths : List Location) (budget : Nat)
    (now : Instant) : List Location :=
  ((self.scoredPaths paths now).take (budget - self.explorationBudget budget)).map (·.1)

def leftPaths (self : VoiScheduler F) (paths : List Location) (budget : Nat) (now : Instant)
    : List Location :=
  paths.filter fun path => !decide (path ∈ self.exploitedPaths paths budget now)

theorem explorationBudget_lt {budget : Nat} (slots : budget ≠ 0)
    : self.explorationBudget budget < budget := by
  unfold explorationBudget
  omega

theorem exploitedPaths_subperm (self : VoiScheduler F) (paths : List Location) (budget : Nat)
    (now : Instant)
    : ∃ rest, (self.exploitedPaths paths budget now ++ rest).Perm paths
      ∧ (self.exploitedPaths paths budget now).length
        = min (budget - self.explorationBudget budget) paths.length := by
  refine ⟨((self.scoredPaths paths now).drop (budget - self.explorationBudget budget)).map (·.1),
    ?_, ?_⟩
  · unfold exploitedPaths
    rw [← List.map_append, List.take_append_drop]
    refine ((sortBy_perm ..).map _).trans ?_
    rw [List.map_map]
    exact (List.map_id' paths).symm ▸ List.Perm.refl _
  · unfold exploitedPaths scoredPaths
    rw [List.length_map, List.length_take, (sortBy_perm ..).length_eq, List.length_map]

theorem scheduleVoi_paths {paths : List Location}
    (registered : ∀ path ∈ paths, path ∈ self.paths) (budget : Nat) (now : Instant)
    : (self.scheduleVoi paths budget now).paths
      = self.exploitedPaths paths budget now
        ++ ((sortBy byScanCount
            ((self.leftPaths paths budget now).map (self.candidate now))).take
          (self.explorationBudget budget)).map (·.path) := by
  unfold scheduleVoi leftPaths ScanPlan.paths
  dsimp only
  rw [explorationCandidates_eq registered, List.map_append, List.map_map, List.map_map]
  rfl

/-- As many paths are planned as there are slots and paths, each once. -/
theorem scheduleVoi_sound {paths : List Location}
    (nodup : paths.Nodup) (registered : ∀ path ∈ paths, path ∈ self.paths) {budget : Nat}
    (slots : budget ≠ 0) (now : Instant)
    : (self.scheduleVoi paths budget now).paths.length = min budget paths.length
      ∧ (self.scheduleVoi paths budget now).paths.Nodup
      ∧ (self.scheduleVoi paths budget now).paths ⊆ paths := by
  obtain ⟨rest, perm, taken⟩ := self.exploitedPaths_subperm paths budget now
  set exploited := self.exploitedPaths paths budget now with exploited_eq
  have nodupBoth := perm.nodup_iff.mpr nodup
  have left : (self.leftPaths paths budget now).Perm rest := by
    refine (perm.symm.filter _).trans ?_
    rw [List.filter_append, List.filter_eq_nil_iff.mpr (fun path member => by simpa using member),
      List.nil_append, List.filter_eq_self.mpr]
    intro path member
    simpa using fun inBoth => (List.nodup_append.mp nodupBoth).2.2 path inBoth path member rfl
  -- What exploration picks is some of the rest.
  have sorted : ((sortBy byScanCount
      ((self.leftPaths paths budget now).map (self.candidate now))).map (·.path)).Perm rest := by
    refine ((sortBy_perm ..).map _).trans (List.Perm.trans ?_ left)
    rw [List.map_map]
    exact (List.map_id' _).symm ▸ List.Perm.refl _
  have below : self.explorationBudget budget < budget := explorationBudget_lt slots
  rw [scheduleVoi_paths registered, ← exploited_eq, List.map_take]
  set explored := (sortBy byScanCount
    ((self.leftPaths paths budget now).map (self.candidate now))).map (·.path)
  have whole : (exploited ++ explored).Perm paths := (sorted.append_left exploited).trans perm
  have sublist : List.Sublist (exploited ++ explored.take (self.explorationBudget budget))
      (exploited ++ explored) := (List.take_sublist ..).append_left exploited
  refine ⟨?_, sublist.nodup (whole.nodup_iff.mpr nodup),
    fun path member => whole.mem_iff.mp (sublist.subset member)⟩
  have sizes := whole.length_eq
  rw [List.length_append] at sizes
  rw [List.length_append, List.length_take, taken]
  omega

/-- A plan takes as many registered paths as there are slots and paths, each once. -/
structure PlanSound (scheduler : VoiScheduler F) (plan : ScanPlan F) : Prop where
  length
    : plan.paths.length = min scheduler.config.scanBudgetPerInterval scheduler.paths.length
  distinct : plan.paths.Nodup
  registered : plan.paths ⊆ scheduler.paths

omit [RoundingFloat64 F] in
theorem scheduleRoundRobin_sound {iteration : List Location}
    (iterated : iteration.Perm self.paths) (registered : self.paths ≠ [])
    : self.PlanSound
        (self.scheduleRoundRobin iteration self.config.scanBudgetPerInterval).2 := by
  have positive := List.length_pos_iff.mpr registered
  have planned := (scheduleRoundRobin_window iterated self.config.scanBudgetPerInterval).1
  have listed (position : Nat) (member : position ∈ cyclic self.paths.length self.rrCursor
      (min self.config.scanBudgetPerInterval self.paths.length))
      : position < self.sortedPaths.length := by
    rw [self.sortedPaths_length]
    exact lt_of_mem_cyclic positive member
  constructor
  · rw [planned, List.filterMap_length_eq_length.mpr, cyclic, List.length_map, List.length_range]
    intro position member
    rw [List.getElem?_eq_getElem (listed position member)]
    rfl
  · rw [planned]
    refine (cyclic_nodup (Nat.min_le_right _ _) self.rrCursor).filterMap ?_
    intro position other path found alsoFound
    obtain ⟨within, same⟩ := List.getElem?_eq_some_iff.mp found
    obtain ⟨alsoWithin, alsoSame⟩ := List.getElem?_eq_some_iff.mp alsoFound
    exact self.sortedPaths_nodup.getElem_inj_iff.mp (same.trans alsoSame.symm)
  · rw [planned]
    intro path member
    obtain ⟨position, _, found⟩ := List.mem_filterMap.mp member
    exact mem_sortBy.mp (List.mem_of_getElem? found)

theorem schedule_sound {iteration : List Location}
    (iterated : iteration.Perm self.paths) (now : Instant)
    : self.PlanSound (self.schedule iteration now).2 := by
  unfold schedule
  dsimp only
  split
  · rename_i none
    refine ⟨?_, List.nodup_nil, List.nil_subset _⟩
    rcases none with empty | unbudgeted
    · rw [empty]
      exact (Nat.min_zero _).symm
    · rw [unbudgeted]
      exact (Nat.zero_min _).symm
  · rename_i some
    rw [not_or] at some
    split
    · exact scheduleRoundRobin_sound iterated some.1
    · obtain ⟨length, nodup, subset⟩ := scheduleVoi_sound (iterated.nodup_iff.mpr self.distinct)
        (fun _ => iterated.mem_iff.mp) some.2 now
      exact ⟨iterated.length_eq ▸ length, nodup,
        fun _ member => iterated.mem_iff.mp (subset member)⟩

/-- No two paths that exploitation leaves, were scanned as often and are as stale come so early
that exploration has to choose between them.
-/
def ExplorationSettled (self : VoiScheduler F) (now : Instant) : Prop :=
  TiesBehind byScanCount (self.explorationBudget self.config.scanBudgetPerInterval)
    ((self.leftPaths self.paths self.config.scanBudgetPerInterval now).map (self.candidate now))

section

variable [StrictFloat64 F]

theorem exploitedPaths_perm (self : VoiScheduler F) {paths others : List Location}
    (perm : paths.Perm others) (budget : Nat) (now : Instant)
    : self.exploitedPaths paths budget now = self.exploitedPaths others budget now := by
  unfold exploitedPaths
  rw [self.scoredPaths_perm perm]

theorem leftPaths_perm (self : VoiScheduler F) {paths others : List Location}
    (perm : paths.Perm others) (budget : Nat) (now : Instant)
    : (self.leftPaths paths budget now).Perm (self.leftPaths others budget now) := by
  unfold leftPaths
  rw [self.exploitedPaths_perm perm]
  exact perm.filter _

/-- Settled, the plan is the same in whatever order the paths come. -/
theorem scheduleVoi_perm [SecondsFloat64 F] {self : VoiScheduler F} {now : Instant}
    (settled : self.ExplorationSettled now) {first second : List Location}
    (one : first.Perm self.paths) (two : second.Perm self.paths)
    : self.scheduleVoi first self.config.scanBudgetPerInterval now
      = self.scheduleVoi second self.config.scanBudgetPerInterval now := by
  have perm := one.trans two.symm
  have exploited := self.scoredPaths_perm perm now
  have left := (self.leftPaths_perm perm self.config.scanBudgetPerInterval now).map
    (self.candidate now)
  have total := self.ordersTotally_byScanCount now
    (self.leftPaths first self.config.scanBudgetPerInterval now)
  have behind := TiesBehind.perm settled
    ((self.leftPaths_perm one.symm self.config.scanBudgetPerInterval now).map
      (self.candidate now))
  have explored := Sorting.take_eq_of_tiesBehind
    ((sortBy_perm byScanCount _).trans (left.trans (sortBy_perm byScanCount _).symm))
    (total.subset (sortBy_perm byScanCount _).subset)
    ((stableSort _).sorted _ _ total)
    ((stableSort _).sorted _ _ (total.subset left.symm.subset))
    (behind.perm (sortBy_perm byScanCount _).symm)
  unfold leftPaths at explored
  unfold scheduleVoi
  dsimp only
  rw [explorationCandidates_eq (fun _ => one.mem_iff.mp),
    explorationCandidates_eq (fun _ => two.mem_iff.mp), exploited]
  unfold exploitedPaths at explored
  rw [exploited] at explored
  change List.take _ (sortBy byScanCount _) = List.take _ (sortBy byScanCount _) at explored
  rw [explored]

/-- A path that is iterated first is the first of what exploitation leaves. -/
theorem leftPaths_first {self : VoiScheduler F} {path : Location} {budget : Nat} {now : Instant}
    (left : path ∈ self.leftPaths self.paths budget now)
    : ∃ rest, (path :: self.paths.erase path).Perm self.paths
        ∧ self.leftPaths (path :: self.paths.erase path) budget now = path :: rest := by
  have perm := (List.perm_cons_erase (List.mem_filter.mp left).1).symm
  refine ⟨(self.paths.erase path).filter fun other =>
    !decide (other ∈ self.exploitedPaths self.paths budget now), perm, ?_⟩
  unfold leftPaths at left ⊢
  rw [self.exploitedPaths_perm perm]
  exact List.filter_cons_of_pos (List.mem_filter.mp left).2

/-- Unsettled, each of two paths can be iterated first, and the plans differ. -/
theorem exists_scheduleVoi_ne [SecondsFloat64 F] {self : VoiScheduler F} {now : Instant}
    (unsettled : ¬ self.ExplorationSettled now)
    : ∃ first second, first.Perm self.paths ∧ second.Perm self.paths
        ∧ self.scheduleVoi first self.config.scanBudgetPerInterval now
          ≠ self.scheduleVoi second self.config.scanBudgetPerInterval now := by
  set budget := self.config.scanBudgetPerInterval with budget_eq
  unfold ExplorationSettled TiesBehind at unsettled
  push Not at unsettled
  obtain ⟨a, inA, b, inB, apart, tied, early⟩ := unsettled
  obtain ⟨path, pathLeft, rfl⟩ := List.mem_map.mp inA
  obtain ⟨other, otherLeft, rfl⟩ := List.mem_map.mp inB
  obtain ⟨rest, one, oneLeft⟩ := leftPaths_first pathLeft
  obtain ⟨others, two, twoLeft⟩ := leftPaths_first otherLeft
  rw [← budget_eq] at oneLeft twoLeft early
  refine ⟨_, _, one, two, fun same => ?_⟩
  have left := (self.leftPaths_perm (one.trans two.symm) budget now).map (self.candidate now)
  have whole := (self.leftPaths_perm one budget now).map (self.candidate now)
  have total := self.ordersTotally_byScanCount now
    (self.leftPaths (path :: self.paths.erase path) budget now)
  rw [oneLeft, twoLeft, List.map_cons, List.map_cons] at left
  rw [oneLeft, List.map_cons] at whole
  rw [oneLeft, List.map_cons] at total
  rw [← whole.countP_eq] at early
  have differs := Sorting.sortBy_take_ne left total apart tied early
  have plans := congrArg ScanPlan.paths same
  rw [scheduleVoi_paths (fun _ => one.mem_iff.mp), scheduleVoi_paths (fun _ => two.mem_iff.mp),
    self.exploitedPaths_perm (one.trans two.symm), List.append_cancel_left_eq, oneLeft, twoLeft,
    List.map_cons, List.map_cons] at plans
  -- Candidates are made from their paths.
  have restored (paths : List Location)
      : (((sortBy byScanCount (paths.map (self.candidate now))).take
          (self.explorationBudget budget)).map (·.path)).map (self.candidate now)
        = (sortBy byScanCount (paths.map (self.candidate now))).take
            (self.explorationBudget budget) := by
    rw [List.map_map]
    refine (List.map_congr_left fun entry member => ?_).trans (List.map_id _)
    obtain ⟨made, _, rfl⟩ := List.mem_map.mp (mem_sortBy.mp (List.mem_of_mem_take member))
    rfl
  have entries := congrArg (List.map (self.candidate now)) plans
  exact differs ((restored (path :: rest)).symm.trans (entries.trans (restored (other :: others))))

/-- Every plan is sound; and it depends on no order of iteration exactly if the fallback is
active or exploration is settled.
-/
theorem plans_deterministic_iff [SecondsFloat64 F] (self : VoiScheduler F) (now : Instant)
    : ((∀ iteration : List Location, iteration.Perm self.paths
          → self.PlanSound (self.schedule iteration now).2)
        ∧ ∀ first second : List Location, first.Perm self.paths → second.Perm self.paths
          → (self.schedule first now).2 = (self.schedule second now).2)
      ↔ self.isFallbackActive = true ∨ self.ExplorationSettled now := by
  refine ⟨fun ⟨_, deterministic⟩ => ?_,
    fun settled => ⟨fun _ iterated => schedule_sound iterated now, fun first second one two => ?_⟩⟩
  · by_contra neither
    rw [not_or, Bool.not_eq_true] at neither
    obtain ⟨first, second, one, two, differ⟩ := exists_scheduleVoi_ne neither.2
    have scheduled := deterministic first second one two
    unfold schedule at scheduled
    dsimp only at scheduled
    split at scheduled
    · rename_i none
      rcases none with empty | unbudgeted
      · rw [empty] at one two
        rw [List.perm_nil.mp one, List.perm_nil.mp two] at differ
        exact differ rfl
      · refine neither.2 fun _ _ _ _ _ _ => ?_
        rw [unbudgeted]
        exact Nat.le_trans (Nat.min_le_right _ _) (Nat.zero_le _)
    · rw [if_neg (by rw [neither.1]; exact Bool.false_ne_true)] at scheduled
      rw [if_neg (by rw [neither.1]; exact Bool.false_ne_true)] at scheduled
      exact differ scheduled
  · unfold schedule
    dsimp only
    split
    · rfl
    · split
      · rw [scheduleRoundRobin_perm (one.trans two.symm)]
      · rename_i voi
        exact scheduleVoi_perm (settled.resolve_left voi) one two

end

def unscannedPaths (config : VoiConfig F) : VoiScheduler F where
  config
  paths := [busyPath, rivalPath, quietPath]
  pathStats _ := .new
  calibration := ⟨0, 0, false, []⟩
  pendingErrors := []
  rrCursor := 0
  distinct := threePaths_nodup

theorem unscannedPaths_deterministic_iff
    : ((∀ iteration : List Location, iteration.Perm (unscannedPaths (F := ℝ) .default).paths
          → (unscannedPaths .default).PlanSound
              ((unscannedPaths (F := ℝ) .default).schedule iteration 0).2)
        ∧ ∀ first second : List Location,
            first.Perm (unscannedPaths (F := ℝ) .default).paths
            → second.Perm (unscannedPaths (F := ℝ) .default).paths
            → ((unscannedPaths (F := ℝ) .default).schedule first 0).2
              = ((unscannedPaths .default).schedule second 0).2)
      ↔ (unscannedPaths (F := ℝ) .default).isFallbackActive = true
        ∨ (unscannedPaths (F := ℝ) .default).ExplorationSettled 0 :=
  plans_deterministic_iff _ 0

/-- The first path is exploited; which of the others is explored depends on the iteration. -/
theorem unscannedPaths_undetermined
    : ¬ ∀ first second : List Location,
        first.Perm (unscannedPaths halvedConfig).paths
        → second.Perm (unscannedPaths halvedConfig).paths
        → ((unscannedPaths halvedConfig).schedule first 0).2.paths
          = ((unscannedPaths halvedConfig).schedule second 0).2.paths := by
  intro deterministic
  have same := deterministic [busyPath, rivalPath, quietPath] [busyPath, quietPath, rivalPath]
    (List.isPerm_iff.mp (by decide)) (List.isPerm_iff.mp (by decide))
  revert same
  decide +kernel

end VoiScheduler

end StorageBallast
