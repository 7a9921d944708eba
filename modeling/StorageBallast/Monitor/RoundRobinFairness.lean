import StorageBallast.Foundations.Windows
import StorageBallast.Monitor.ExplorationFairness
import StorageBallast.Scanner.EventDraining

/-! The fallback treats all paths alike: each call takes the next window of a circle through the
sorted paths, so that no path is ever ahead of another one by more than one call.
-/

namespace StorageBallast

open Sorting (sortBy sortBy_perm sortBy_eq_of_perm)

namespace VoiScheduler

variable {F : Type} [Float64 F]

def sortedPaths (self : VoiScheduler F) : List Location := sortBy Location.order self.paths

omit [Float64 F] in
theorem sortedPaths_nodup (self : VoiScheduler F) : self.sortedPaths.Nodup :=
  (sortBy_perm ..).nodup_iff.mpr self.distinct

omit [Float64 F] in
theorem sortedPaths_length (self : VoiScheduler F)
    : self.sortedPaths.length = self.paths.length :=
  (sortBy_perm ..).length_eq

variable {self : VoiScheduler F}

omit [Float64 F] in
theorem exists_position {path : Location} (registered : path ∈ self.paths)
    : ∃ i, ∃ within : i < self.sortedPaths.length, self.sortedPaths[i] = path :=
  List.mem_iff_getElem.mp (Sorting.mem_sortBy.mpr registered)

/-- The order in which the table is iterated does not matter to the fallback. -/
theorem scheduleRoundRobin_perm {first second : List Location}
    (perm : first.Perm second) (budget : Nat)
    : self.scheduleRoundRobin first budget = self.scheduleRoundRobin second budget := by
  unfold scheduleRoundRobin
  rw [sortBy_eq_of_perm perm]

/-- The fallback plans the next window, and moves its cursor to the end of it. -/
theorem scheduleRoundRobin_window {iteration : List Location}
    (iterated : iteration.Perm self.paths) (budget : Nat)
    : (self.scheduleRoundRobin iteration budget).2.paths
        = (cyclic self.paths.length self.rrCursor (min budget self.paths.length)).filterMap
            (fun position => self.sortedPaths[position]?)
      ∧ (self.scheduleRoundRobin iteration budget).1
        = { self with rrCursor :=
              (self.rrCursor + min budget self.paths.length) % max self.paths.length 1 } := by
  rw [scheduleRoundRobin_perm iterated, ← self.sortedPaths_length]
  refine ⟨?_, rfl⟩
  unfold scheduleRoundRobin ScanPlan.paths cyclic
  dsimp only
  rw [List.map_filterMap, List.filterMap_map]
  refine List.filterMap_congr fun i _ => ?_
  rw [Option.map_map, Function.comp_apply]
  exact Option.map_id'

variable [RoundingFloat64 F]

structure RoundInFallback (scheduler : VoiScheduler F) (round : SchedulingRound F) : Prop where
  iterated : round.iteration.Perm scheduler.paths
  fallback : scheduler.isFallbackActive = true

omit [RoundingFloat64 F] in
theorem recordResults_rrCursor (self : VoiScheduler F) (results : List (ScanResult F))
    : (self.recordResults results).rrCursor = self.rrCursor := by
  refine List.foldlRecOn (motive := fun s => s.rrCursor = self.rrCursor) results recordScanResult
    rfl fun s kept result _ => ?_
  unfold recordScanResult
  split
  · exact kept
  · exact kept

omit [RoundingFloat64 F] in
theorem endWindow_rrCursor (self : VoiScheduler F) : self.endWindow.rrCursor = self.rrCursor := by
  unfold endWindow
  split <;> rfl

/-- What is recorded between the calls leaves the paths and the cursor alone. -/
theorem afterRound_fallback {round : SchedulingRound F}
    (valid : RoundInFallback self round) (slots : self.config.scanBudgetPerInterval ≠ 0)
    (registered : self.paths ≠ [])
    : let count := min self.config.scanBudgetPerInterval self.paths.length
      (self.plan round).paths
          = (cyclic self.paths.length self.rrCursor count).filterMap
              (fun position => self.sortedPaths[position]?)
        ∧ (self.afterRound round).paths = self.paths
        ∧ (self.afterRound round).config = self.config
        ∧ (self.afterRound round).rrCursor
          = (self.rrCursor + count) % max self.paths.length 1 := by
  intro count
  obtain ⟨planned, moved⟩ := scheduleRoundRobin_window valid.iterated
    self.config.scanBudgetPerInterval
  have scheduled : self.schedule round.iteration round.now
      = self.scheduleRoundRobin round.iteration self.config.scanBudgetPerInterval := by
    simp [schedule, valid.fallback, slots, registered]
  set next := (self.schedule round.iteration round.now).1 with next_eq
  have same : next = { self with
      rrCursor := (self.rrCursor + count) % max self.paths.length 1 } := by
    rw [next_eq, scheduled, moved]
  obtain ⟨paths, config⟩ := next.recordResults_fixed round.results
  have cursor := next.recordResults_rrCursor round.results
  rw [congrArg VoiScheduler.paths same] at paths
  rw [congrArg VoiScheduler.config same] at config
  rw [congrArg VoiScheduler.rrCursor same] at cursor
  obtain ⟨samePaths, sameConfig, _⟩ := (next.recordResults round.results).endWindow_fixed
  have sameCursor := (next.recordResults round.results).endWindow_rrCursor
  refine ⟨?_, ?_⟩
  · rw [plan, scheduled, planned]
  · unfold afterRound
    rw [← next_eq]
    dsimp only
    split
    · exact ⟨samePaths.trans paths, sameConfig.trans config, sameCursor.trans cursor⟩
    · exact ⟨paths, config, cursor⟩

def timesPlanned (scheduler : VoiScheduler F) (rounds : List (SchedulingRound F))
    (path : Location) : Nat :=
  ((Runs.steps afterRound scheduler rounds).map fun call =>
    (call.1.plan call.2).paths.count path).sum

variable {rounds : List (SchedulingRound F)} {scheduler : VoiScheduler F}

/-- All calls of a run make one window; by induction on the calls. -/
theorem timesPlanned_eq (slots : scheduler.config.scanBudgetPerInterval ≠ 0) {i : Nat}
    (within : i < scheduler.sortedPaths.length)
    (valid : Runs.Guarded afterRound RoundInFallback scheduler rounds)
    : scheduler.timesPlanned rounds scheduler.sortedPaths[i]
      = (cyclic scheduler.paths.length scheduler.rrCursor
          (rounds.length * min scheduler.config.scanBudgetPerInterval scheduler.paths.length)).count
          i := by
  induction rounds generalizing scheduler with
  | nil =>
      rw [List.length_nil, Nat.zero_mul]
      rfl
  | cons round rest ih =>
      have nonempty : 0 < scheduler.paths.length := by
        rw [← scheduler.sortedPaths_length]
        omega
      obtain ⟨planned, paths, config, cursor⟩ := afterRound_fallback valid.1 slots
        (List.ne_nil_of_length_pos nonempty)
      have sorted : (scheduler.afterRound round).sortedPaths = scheduler.sortedPaths :=
        congrArg (sortBy Location.order) paths
      have slots' : (scheduler.afterRound round).config.scanBudgetPerInterval ≠ 0 := by
        rwa [config]
      have later := ih slots' (by rwa [sorted]) valid.2
      simp only [sorted, paths, config, cursor] at later
      rw [max_eq_left nonempty, cyclic_mod] at later
      unfold timesPlanned at later ⊢
      rw [Runs.steps, List.map_cons, List.sum_cons, later, planned,
        count_lookups scheduler.sortedPaths_nodup within, List.length_cons, Nat.succ_mul,
        Nat.add_comm (rest.length * _), cyclic_add, List.count_append]

theorem afterRounds_fixed
    (slots : scheduler.config.scanBudgetPerInterval ≠ 0) (registered : scheduler.paths ≠ [])
    (valid : Runs.Guarded afterRound RoundInFallback scheduler rounds)
    : (Runs.final afterRound scheduler rounds).paths = scheduler.paths
      ∧ (Runs.final afterRound scheduler rounds).config = scheduler.config := by
  have start : scheduler.paths = scheduler.paths ∧ scheduler.config = scheduler.config := ⟨rfl, rfl⟩
  have kept : ∀ state (round : SchedulingRound F),
      (state.paths = scheduler.paths ∧ state.config = scheduler.config)
        → RoundInFallback state round
        → (state.afterRound round).paths = scheduler.paths
          ∧ (state.afterRound round).config = scheduler.config := by
    intro state round fixed guarded
    obtain ⟨_, paths, config, _⟩ := afterRound_fallback guarded (by rwa [fixed.2])
      (by rwa [fixed.1])
    exact ⟨paths.trans fixed.1, config.trans fixed.2⟩
  exact Runs.invariant_of_guarded kept start valid _ (Runs.final_mem_states ..)

theorem paths_le_slots {paths budget : Nat} (slots : 1 ≤ budget)
    : paths ≤ (paths + budget - 1) / budget * min budget paths := by
  rcases Nat.eq_zero_or_pos paths with rfl | positive
  · exact Nat.zero_le _
  · have divided := Nat.div_add_mod (paths + budget - 1) budget
    have rest := Nat.mod_lt (paths + budget - 1) slots
    rcases Nat.le_total budget paths with few | many
    · rw [Nat.min_eq_left few, Nat.mul_comm]
      omega
    · rw [Nat.min_eq_right many]
      exact Nat.le_mul_of_pos_left _ (Nat.div_pos (by omega) slots)

theorem planned_of_long_run (slots : 1 ≤ scheduler.config.scanBudgetPerInterval)
    (valid : Runs.Guarded afterRound RoundInFallback scheduler rounds)
    (long : (scheduler.paths.length + scheduler.config.scanBudgetPerInterval - 1)
      / scheduler.config.scanBudgetPerInterval ≤ rounds.length)
    {path : Location} (registered : path ∈ scheduler.paths)
    : ∃ call ∈ Runs.steps afterRound scheduler rounds, path ∈ (call.1.plan call.2).paths := by
  obtain ⟨i, within, rfl⟩ := exists_position registered
  have position : i < scheduler.paths.length := by
    rw [← scheduler.sortedPaths_length]
    exact within
  have counted := timesPlanned_eq (by omega) within valid
  have least := (count_cyclic_bounds position scheduler.rrCursor
    (rounds.length * min scheduler.config.scanBudgetPerInterval scheduler.paths.length)).1
  have enough : scheduler.paths.length
      ≤ rounds.length * min scheduler.config.scanBudgetPerInterval scheduler.paths.length :=
    (paths_le_slots slots).trans (Nat.mul_le_mul_right _ long)
  have once := Nat.div_pos enough (by omega)
  by_contra never
  have none : scheduler.timesPlanned rounds scheduler.sortedPaths[i] = 0 := by
    refine List.sum_eq_zero fun count member => ?_
    obtain ⟨call, taken, rfl⟩ := List.mem_map.mp member
    exact List.count_eq_zero_of_not_mem fun planned => never ⟨call, taken, planned⟩
  omega

/-- In fallback mode, whatever is recorded between the calls, no path is planned more than once
more often than another one, and each is planned in as many calls in a row as it takes to go
through all paths.
-/
theorem roundRobin_fair {scheduler : VoiScheduler F} {rounds : List (SchedulingRound F)}
    (slots : 1 ≤ scheduler.config.scanBudgetPerInterval)
    (valid : Runs.Guarded afterRound RoundInFallback scheduler rounds)
    : (∀ path ∈ scheduler.paths, ∀ other ∈ scheduler.paths,
        scheduler.timesPlanned rounds path ≤ scheduler.timesPlanned rounds other + 1)
      ∧ ∀ path ∈ scheduler.paths, ∀ before window after,
          rounds = before ++ window ++ after
          → (scheduler.paths.length + scheduler.config.scanBudgetPerInterval - 1)
              / scheduler.config.scanBudgetPerInterval ≤ window.length
          → ∃ call ∈ Runs.steps afterRound (Runs.final afterRound scheduler before) window,
              path ∈ (call.1.plan call.2).paths := by
  constructor
  · intro path registered other alsoRegistered
    obtain ⟨i, within, rfl⟩ := exists_position registered
    obtain ⟨j, alsoWithin, rfl⟩ := exists_position alsoRegistered
    have first := timesPlanned_eq (by omega) within valid
    have second := timesPlanned_eq (by omega) alsoWithin valid
    have length := scheduler.sortedPaths_length
    have most := (count_cyclic_bounds (n := scheduler.paths.length) (length ▸ within)
      scheduler.rrCursor (rounds.length
        * min scheduler.config.scanBudgetPerInterval scheduler.paths.length)).2
    have least := (count_cyclic_bounds (n := scheduler.paths.length) (length ▸ alsoWithin)
      scheduler.rrCursor (rounds.length
        * min scheduler.config.scanBudgetPerInterval scheduler.paths.length)).1
    change scheduler.timesPlanned rounds scheduler.sortedPaths[i]
      ≤ scheduler.timesPlanned rounds scheduler.sortedPaths[j] + 1
    omega
  · intro path registered before window after split long
    rw [split, Runs.guarded_append_iff, Runs.guarded_append_iff] at valid
    obtain ⟨paths, config⟩ := afterRounds_fixed (by omega) (List.ne_nil_of_mem registered)
      valid.1.1
    refine planned_of_long_run (by rwa [config]) valid.1.2 (by rwa [paths, config]) ?_
    rwa [paths]

/-- The three paths with the scheduler switched off, which leaves the fallback. -/
def pausedPaths : VoiScheduler ℚ :=
  { threePaths 5 with config := { halvedConfig with enabled := false }, rrCursor := 2 }

/-- In three calls with two slots each path is planned twice, here with results in between. -/
theorem pausedPaths_fair
    : (∀ path ∈ pausedPaths.paths, ∀ other ∈ pausedPaths.paths,
        pausedPaths.timesPlanned [roundOf [quietPath], roundOf [], roundOf [busyPath]] path
          ≤ pausedPaths.timesPlanned [roundOf [quietPath], roundOf [], roundOf [busyPath]] other
            + 1)
      ∧ ∀ path ∈ pausedPaths.paths, ∀ before window after,
          [roundOf [quietPath], roundOf [], roundOf [busyPath]] = before ++ window ++ after
          → (pausedPaths.paths.length + pausedPaths.config.scanBudgetPerInterval - 1)
              / pausedPaths.config.scanBudgetPerInterval ≤ window.length
          → ∃ call ∈ Runs.steps afterRound (Runs.final afterRound pausedPaths before) window,
              path ∈ (call.1.plan call.2).paths := by
  have all : (Runs.steps afterRound pausedPaths
      [roundOf [quietPath], roundOf [], roundOf [busyPath]]).all (fun call =>
        call.2.iteration.isPerm call.1.paths && call.1.isFallbackActive) = true := by
    decide +kernel
  refine roundRobin_fair (by decide) (Runs.guarded_iff_steps.mpr fun call member => ?_)
  have checked := List.all_eq_true.mp all call member
  rw [Bool.and_eq_true, List.isPerm_iff] at checked
  exact ⟨checked.1, checked.2⟩

end VoiScheduler

end StorageBallast
