import StorageBallast.Monitor.AdaptiveGuard

/-! How long a recovered guard keeps passing. A recovery goes by the good observations since
the failure, but the next observation judges the whole window again, which may still hold the
bad ones.
-/

namespace StorageBallast

open scoped Float64

variable {F : Type} [Float64 F]

namespace AdaptiveGuard

open Runs LawfulFloat64

/-- The observations a guard holds of all it has observed since a reset. -/
def heldWindow (config : GuardrailConfig F) (observed : List (CalibrationObservation F))
    : List (CalibrationObservation F) :=
  observed.drop (observed.length - config.windowSize)

def withinLimits (config : GuardrailConfig F) (window : List (CalibrationObservation F))
    : Bool :=
  Float64.le (calibrationMetrics window).1 config.maxRateError
    && Float64.ge (calibrationMetrics window).2 config.minConservativeFraction

theorem calibrated_eq (self : AdaptiveGuard F)
    : self.calibrated
      = (withinLimits self.config self.observations && !self.eProcessAlarm) := rfl

/-- The window follows the observations in every configuration. -/
theorem run_window (config : GuardrailConfig F) (calls : List (GuardCall F))
    : (final step (new config) calls).config = config
      ∧ (final step (new config) calls).observations
        = heldWindow config (observedSinceReset calls) := by
  refine @history_invariant _ _ step (new config)
    (fun past guard => guard.config = config
      ∧ guard.observations = heldWindow config (observedSinceReset past))
    ⟨rfl, List.drop_nil.symm⟩ ?_ calls
  rintro past call ⟨configured, held⟩
  cases call with
  | observe obs =>
      obtain ⟨sameConfig, sameWindow⟩ := (observe_judged (final step (new config) past) obs).frame
      refine ⟨sameConfig.trans configured, sameWindow.trans ?_⟩
      change pushObservation (final step (new config) past).config.windowSize _ obs = _
      rw [configured, held, observedSinceReset_observe]
      exact pushObservation_last config.windowSize _ obs
  | reset =>
      rw [observedSinceReset_reset]
      exact ⟨configured, List.drop_nil.symm⟩

/-- A passing guard without evidence of drift, that holds enough observations. -/
structure Steady (config : GuardrailConfig F) (guard : AdaptiveGuard F) : Prop where
  configured : guard.config = config
  status : guard.status = .pass
  evidence : Float64.le guard.eProcessLog 0.0 = true
  enough : config.minObservations ≤ guard.observations.length
  bounded : guard.observations.length ≤ config.windowSize

omit [Float64 F] in
theorem pushObservation_length (windowSize : Nat)
    (observations : List (CalibrationObservation F)) (obs : CalibrationObservation F)
    : (pushObservation windowSize observations obs).length
      = min (observations.length + 1) windowSize := by
  simp only [pushObservation, List.length_drop, List.length_append, List.length_singleton]
  omega

variable [LawfulFloat64 F] {config : GuardrailConfig F} {guard : AdaptiveGuard F}

theorem recovered_steady {obs : CalibrationObservation F} (configured : guard.config = config)
    (failed : guard.status = .fail) (passed : (guard.observe obs).status = .pass)
    : Steady config (guard.observe obs) := by
  have judged := observe_judged guard obs
  have bounded : (guard.recorded obs).observations.length ≤ config.windowSize := by
    change (pushObservation guard.config.windowSize guard.observations obs).length ≤ _
    rw [pushObservation_length, configured]
    exact Nat.min_le_right _ _
  generalize guard.observe obs = after at judged passed ⊢
  cases judged with
  | few => cases passed
  | stays _ pass => cases pass.symm.trans failed
  | passes _ unknown => cases unknown.symm.trans failed
  | fails => cases passed
  | recovers enough =>
      exact ⟨configured, rfl, decimal_le_self 0 true 1, configured ▸ enough, bounded⟩
  | counts _ fail => cases fail.symm.trans passed
  | relapses _ fail => cases fail.symm.trans passed

theorem recorded_nonpos {obs : CalibrationObservation F} (configured : guard.config = config)
    (nonpos : Float64.le guard.eProcessLog 0.0 = true)
    (positive : Float64.lt 0.0 config.eProcessReward = true)
    (small : Float64.lt config.eProcessReward 1.0 = true) (good : config.isGood obs = true)
    : Float64.le (guard.recorded obs).eProcessLog 0.0 = true := by
  have reward : likelihoodRatio guard.config obs = Float64.ln config.eProcessReward := by
    rw [configured, likelihoodRatio, if_pos good]
  change Float64.le (Float64.clamp (guard.eProcessLog + likelihoodRatio guard.config obs)
    (-5.0) 3.5) 0.0 = true
  rw [reward]
  exact clamp_le (add_nonpos nonpos (ln_nonpos positive small)) zero_between.1
    zero_between.2

/-- A steady guard passes a good observation exactly if the window stays within the limits,
and is steady again then.
-/
theorem observe_steady {obs : CalibrationObservation F} (steady : Steady config guard)
    (threshold : Float64.gt config.eProcessThreshold 1.0 = true)
    (positive : Float64.lt 0.0 config.eProcessReward = true)
    (small : Float64.lt config.eProcessReward 1.0 = true) (good : config.isGood obs = true)
    : ((guard.observe obs).status = .pass
        ↔ withinLimits config (guard.observe obs).observations = true)
      ∧ ((guard.observe obs).status = .pass → Steady config (guard.observe obs)) := by
  have nonpos := recorded_nonpos steady.configured steady.evidence positive small good
  have quiet : (guard.recorded obs).eProcessAlarm = false :=
    alarm_of_nonpos (steady.configured.symm ▸ threshold) nonpos
  have length : (guard.recorded obs).observations.length
      = min (guard.observations.length + 1) config.windowSize := by
    change (pushObservation guard.config.windowSize guard.observations obs).length = _
    rw [pushObservation_length, steady.configured]
  have enough : config.minObservations ≤ (guard.recorded obs).observations.length := by
    have before := steady.enough
    have bounded := steady.bounded
    omega
  have judged := observe_judged guard obs
  have calibrated : (guard.recorded obs).calibrated
      = withinLimits config (guard.recorded obs).observations := by
    rw [calibrated_eq, quiet, recorded_config, steady.configured]
    simp
  generalize guard.observe obs = after at judged ⊢
  cases judged with
  | few few =>
      rw [recorded_config, steady.configured] at few
      exact absurd few (Nat.not_lt.mpr enough)
  | stays _ pass within =>
      refine ⟨iff_of_true pass (calibrated.symm.trans within), fun _ => ?_⟩
      exact ⟨steady.configured, pass, nonpos, enough, by omega⟩
  | passes _ unknown => cases unknown.symm.trans steady.status
  | fails _ _ beyond =>
      refine ⟨iff_of_false (by simp) ?_, fun pass => nomatch pass⟩
      rw [← calibrated, beyond]
      exact Bool.false_ne_true
  | recovers _ fail => cases fail.symm.trans steady.status
  | counts _ fail => cases fail.symm.trans steady.status
  | relapses _ fail => cases fail.symm.trans steady.status

omit [LawfulFloat64 F] in
theorem observe_held {observed : List (CalibrationObservation F)} {obs : CalibrationObservation F}
    (configured : guard.config = config) (held : guard.observations = heldWindow config observed)
    : (guard.observe obs).observations = heldWindow config (observed ++ [obs]) := by
  apply (observe_judged guard obs).frame.2.trans
  change pushObservation guard.config.windowSize guard.observations obs = _
  rw [configured, held]
  exact pushObservation_last config.windowSize observed obs

/-- Through good observations a steady guard passes exactly as long as each window on the way
is within the limits, by induction on the observations.
-/
theorem steady_passes_iff
    {observed later : List (CalibrationObservation F)} (steady : Steady config guard)
    (held : guard.observations = heldWindow config observed)
    (threshold : Float64.gt config.eProcessThreshold 1.0 = true)
    (positive : Float64.lt 0.0 config.eProcessReward = true)
    (small : Float64.lt config.eProcessReward 1.0 = true)
    (good : ∀ obs ∈ later, config.isGood obs = true)
    : (∀ state ∈ states observe guard later, state.status = .pass)
      ↔ ∀ front back, later = front ++ back → front ≠ [] →
          withinLimits config (heldWindow config (observed ++ front)) = true := by
  induction later generalizing guard observed with
  | nil =>
      refine iff_of_true ?_ ?_
      · simpa [states] using steady.status
      · intro front back split some
        exact absurd (List.append_eq_nil_iff.mp split.symm).1 some
  | cons obs rest ih =>
      obtain ⟨passes, next⟩ := observe_steady steady threshold positive small
        (good obs (by simp))
      have heldNext := @observe_held _ _ _ _ _ obs steady.configured held
      rw [heldNext] at passes
      have later := fun pass => ih (next pass) heldNext
        (fun obs member => good obs (List.mem_cons_of_mem _ member))
      constructor
      · intro all front back split some
        have tail : ∀ state ∈ states observe (guard.observe obs) rest, state.status = .pass :=
          fun state member => all state (List.mem_cons_of_mem _ member)
        have pass := tail _ (start_mem_states _ _)
        cases front with
        | nil => exact absurd rfl some
        | cons first front =>
            obtain ⟨rfl, rfl⟩ := List.cons_eq_cons.mp split
            by_cases only : front = []
            · rw [only]
              exact passes.mp pass
            · have within := (later pass).mp tail front back rfl only
              rwa [List.append_assoc] at within
      · intro all state member
        rcases List.mem_cons.mp member with rfl | further
        · exact steady.status
        · have pass := passes.mpr (all [obs] rest rfl (by simp))
          refine (later pass).mpr ?_ state further
          intro front back split _
          have within := all (obs :: front) back (by rw [split]; rfl) (by simp)
          rwa [List.append_assoc]

/-- A guard that has moved from fail to pass keeps passing good observations exactly as long
as the observations it holds, the old ones included, are within the limits.
-/
theorem recovery_stable_iff {config : GuardrailConfig F} {past : List (GuardCall F)}
    {recovering : CalibrationObservation F} {later : List (CalibrationObservation F)}
    (threshold : Float64.gt config.eProcessThreshold 1.0 = true)
    (positive : Float64.lt 0.0 config.eProcessReward = true)
    (small : Float64.lt config.eProcessReward 1.0 = true)
    (failed : (final step (new config) past).status = .fail)
    (recovered : (final step (new config) (past ++ [.observe recovering])).status = .pass)
    (good : ∀ obs ∈ later, config.isGood obs = true)
    : (∀ state ∈ states observe (final step (new config) (past ++ [.observe recovering])) later,
        state.status = .pass)
      ↔ ∀ front back, later = front ++ back → front ≠ [] →
          withinLimits config
            (heldWindow config (observedSinceReset past ++ [recovering] ++ front)) = true := by
  obtain ⟨_, held⟩ := run_window config (past ++ [.observe recovering])
  rw [observedSinceReset_observe] at held
  have configured := (run_window config past).1
  rw [final_append] at recovered held ⊢
  have steady := recovered_steady configured failed recovered
  exact steady_passes_iff steady held threshold positive small good

/-- Judged by its first observation and recovering after one good one, this guard asks for
more conservative times than there can be.
-/
noncomputable def reluctantConfig : GuardrailConfig ℝ :=
  { (GuardrailConfig.default : GuardrailConfig ℝ) with
    minObservations := 1
    minConservativeFraction := 2.0
    recoveryCleanWindows := 1 }

noncomputable def burst : CalibrationObservation ℝ := ⟨0.0, 0.0, 0.0, 0.0, true⟩

theorem burst_good : reluctantConfig.isGood burst = true := rfl

theorem reluctant_uncalibrated {guard : AdaptiveGuard ℝ}
    (configured : guard.config = reluctantConfig) (held : guard.observations = [burst])
    : guard.calibrated = false := by
  have below : Float64.ge (1.0 : ℝ) reluctantConfig.minConservativeFraction = false := by
    change Float64.le (Float64.ofDecimal 20 true 1 : ℝ) (Float64.ofDecimal 10 true 1) = false
    rw [Bool.eq_false_iff, ne_eq, real_le_iff]
    norm_num [Float64.ofDecimal, decimalValue]
  have metrics : calibrationMetrics [burst] = (0.0, 1.0) := rfl
  rw [calibrated_eq, configured, held, withinLimits, metrics, below]
  simp

theorem reluctant_reward
    : Float64.lt 0.0 reluctantConfig.eProcessReward = true
      ∧ Float64.lt reluctantConfig.eProcessReward 1.0 = true := by
  change Float64.lt (Float64.ofDecimal 0 true 1)
      (Float64.ofDecimal 20 true 1 / Float64.ofDecimal 30 true 1 : ℝ) = true
    ∧ Float64.lt (Float64.ofDecimal 20 true 1 / Float64.ofDecimal 30 true 1 : ℝ)
      (Float64.ofDecimal 10 true 1) = true
  rw [real_lt_iff, real_lt_iff]
  constructor <;> norm_num [Float64.ofDecimal, decimalValue]

/-- Its first observation fails the guard without evidence of drift. -/
theorem reluctant_fails
    : (new reluctantConfig).observe burst
      = { (new reluctantConfig).recorded burst with status := .fail, consecutiveClean := 0 } := by
  have judged := observe_judged (new reluctantConfig) burst
  have uncalibrated : ((new reluctantConfig).recorded burst).calibrated = false :=
    reluctant_uncalibrated rfl rfl
  generalize (new reluctantConfig).observe burst = after at judged ⊢
  cases judged with
  | few few => exact absurd few (by decide)
  | stays _ pass => cases pass
  | passes _ _ calibrated => exact absurd calibrated (by simp [uncalibrated])
  | fails => rfl
  | recovers _ fail => cases fail
  | counts _ fail => cases fail
  | relapses _ fail => cases fail

theorem reluctant_recovers
    : (((new reluctantConfig).observe burst).observe burst).status = .pass := by
  let failing := (new reluctantConfig).observe burst
  have start : Float64.le (new reluctantConfig).eProcessLog 0.0 = true :=
    decimal_le_self 0 true 1
  have once : Float64.le ((new reluctantConfig).recorded burst).eProcessLog 0.0 = true :=
    @recorded_nonpos ℝ _ _ reluctantConfig (new reluctantConfig) burst rfl start
      reluctant_reward.1 reluctant_reward.2 burst_good
  have evidence : failing.eProcessLog = ((new reluctantConfig).recorded burst).eProcessLog := by
    change ((new reluctantConfig).observe burst).eProcessLog = _
    rw [reluctant_fails]
  have nonpos : Float64.le failing.eProcessLog 0.0 = true := evidence ▸ once
  have configured : failing.config = reluctantConfig := congrArg config reluctant_fails
  have held : failing.observations = [burst] := congrArg observations reluctant_fails
  have status : failing.status = .fail := congrArg AdaptiveGuard.status reluctant_fails
  have quiet : (failing.recorded burst).eProcessAlarm = false :=
    alarm_of_nonpos (configured.symm ▸ default_threshold)
      (recorded_nonpos configured nonpos reluctant_reward.1 reluctant_reward.2 burst_good)
  have enough : failing.config.minObservations ≤ (failing.recorded burst).observations.length := by
    change _ ≤ (pushObservation failing.config.windowSize failing.observations burst).length
    rw [pushObservation_length, configured, held]
    decide
  have judged := observe_judged failing burst
  rw [configured, burst_good] at judged
  change (failing.observe burst).status = .pass
  generalize failing.observe burst = after at judged ⊢
  cases judged with
  | few few => exact absurd few (Nat.not_lt.mpr enough)
  | stays _ pass => exact pass
  | passes => rfl
  | fails _ other => exact absurd status other
  | recovers => rfl
  | counts _ _ _ waiting =>
      rw [recorded_config, configured] at waiting
      exact absurd waiting (Nat.not_lt.mpr (Nat.le_add_left 1 _))
  | relapses _ _ bad => simp [quiet] at bad

theorem reluctant_stable_iff
    : (∀ state ∈ states observe
        (final step (new reluctantConfig) ([.observe burst] ++ [.observe burst])) [burst],
        state.status = .pass)
      ↔ ∀ front back, [burst] = front ++ back → front ≠ [] →
          withinLimits reluctantConfig
            (heldWindow reluctantConfig
              (observedSinceReset [.observe burst] ++ [burst] ++ front)) = true :=
  recovery_stable_iff default_threshold reluctant_reward.1 reluctant_reward.2
    (congrArg AdaptiveGuard.status reluctant_fails) reluctant_recovers
    (fun _ member => List.mem_singleton.mp member ▸ burst_good)

def tenfold : CalibrationObservation ℚ := ⟨100, 1000, 10, 5, false⟩

def matched : CalibrationObservation ℚ := ⟨100, 100, 10, 50, false⟩

def recoveryConfig : GuardrailConfig ℚ :=
  { (GuardrailConfig.default : GuardrailConfig ℚ) with
    minObservations := 3
    eProcessThreshold := 100 }

def fiveBadTwoGood : List (GuardCall ℚ) :=
  List.replicate 5 (.observe tenfold) ++ List.replicate 2 (.observe matched)

/-- The third good observation after five bad ones recovers the guard, and the fourth one
fails it again.
-/
theorem recovery_lost
    : Float64.gt recoveryConfig.eProcessThreshold 1.0 = true
      ∧ Float64.gt recoveryConfig.eProcessPenalty 1.0 = true
      ∧ Float64.lt 0.0 recoveryConfig.eProcessReward = true
      ∧ Float64.lt recoveryConfig.eProcessReward 1.0 = true
      ∧ (final step (new recoveryConfig) fiveBadTwoGood).status = .fail
      ∧ (final step (new recoveryConfig) (fiveBadTwoGood ++ [.observe matched])).status = .pass
      ∧ recoveryConfig.isGood matched = true
      ∧ ¬ ∀ state ∈ states observe
            (final step (new recoveryConfig) (fiveBadTwoGood ++ [.observe matched])) [matched],
          state.status = .pass := by
  decide +kernel

end AdaptiveGuard

end StorageBallast
