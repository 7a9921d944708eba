import StorageBallast.Daemon.ConfigReload
import StorageBallast.Daemon.PredictionInfluence
import StorageBallast.Foundations.RealFloats

/-! The least score that the executor deletes at. Every tick sets it back to the configured one,
and on a green tick a cleanup ahead of time then puts its own in the place, whichever is
lower.
-/

namespace StorageBallast

open scoped Float64

variable {F : Type} [Float64 F]

structure PredictedMount (F : Type) where
  mountPath : Location
  rateEstimate : RateEstimate F
  freePct : F

/-- The part of the daemon that predictions go through. Its policy is that of its configuration,
at the start and after each reload.
-/
structure PredictiveDaemon (F : Type) where
  config : DaemonConfig F
  predictivePolicy : PredictiveActionPolicy F
  lastPredictiveAction : PredictiveAction F
  sharedExecutorConfig : SharedExecutorConfig F
  configured : predictivePolicy.config = config.pressure.prediction

namespace PredictiveDaemon

omit [Float64 F] in
def init (config : DaemonConfig F) : PredictiveDaemon F where
  config
  predictivePolicy := ⟨config.pressure.prediction⟩
  lastPredictiveAction := .clear
  sharedExecutorConfig := .ofConfig config
  configured := rfl

omit [Float64 F] in
def setMinScore (self : PredictiveDaemon F) (minScore : F) : PredictiveDaemon F :=
  { self with sharedExecutorConfig := { self.sharedExecutorConfig with minScore } }

section ticks

variable [ProjectingFloat64 F]

def predict (effectiveMinConf : F) (self : PredictiveDaemon F) (visit : PredictedMount F)
    : PredictiveAction F :=
  let evaluated :=
    self.predictivePolicy.evaluate visit.rateEstimate visit.freePct visit.mountPath
  if !evaluated.isClear && Float64.lt visit.rateEstimate.confidence effectiveMinConf then .clear
  else evaluated

def checkMount (effectiveMinConf : F) (self : PredictiveDaemon F) (visit : PredictedMount F)
    : PredictiveDaemon F :=
  let predAction := self.predict effectiveMinConf visit
  if self.lastPredictiveAction.severity < predAction.severity then
    { self with lastPredictiveAction := predAction }
  else self

/-- The predictions of `check_pressure`, over the mounts in the order of their visits. -/
def checkPressure (self : PredictiveDaemon F) (effectiveMinConf : F)
    (visits : List (PredictedMount F)) : PredictiveDaemon F :=
  visits.foldl (checkMount effectiveMinConf) { self with lastPredictiveAction := .clear }

end ticks

/-- What `handle_pressure` does to the least score. -/
def handlePressure (self : PredictiveDaemon F) (level : PressureLevel) : PredictiveDaemon F :=
  let reset := self.setMinScore self.config.scoring.minScore
  match level with
  | .green =>
      match reset.lastPredictiveAction with
      | .preemptiveCleanup _ _ _ _ recommendedMinScore _ => reset.setMinScore recommendedMinScore
      | .clear | .earlyWarning .. | .imminentDanger .. => reset
  | .yellow | .orange | .red | .critical => reset

end PredictiveDaemon

def PredictiveAction.CleansUpAt (minutes : F) (action : PredictiveAction F) : Prop :=
  ∃ mount confidence rate score target,
    action = preemptiveCleanup mount minutes confidence rate score target

def PredictiveAction.ScoredBy (config : ConfigFile.PredictionConfig F)
    (action : PredictiveAction F) : Prop :=
  ∀ mount minutes confidence rate score target,
    action = preemptiveCleanup mount minutes confidence rate score target →
      score = config.recommendedMinScore minutes

namespace PredictiveActionPolicy

theorem classify_scoredBy (self : PredictiveActionPolicy F) (minutesRemaining confidence rate : F)
    (trend : Trend) (mount : Location)
    : (self.classify minutesRemaining confidence rate trend mount).ScoredBy self.config := by
  intro place minutes trust bytes score target cleanup
  unfold classify at cleanup
  split at cleanup
  · cases cleanup
  · split at cleanup
    · cases cleanup
    · split at cleanup
      · cases cleanup
        rfl
      · split at cleanup <;> cases cleanup

theorem evaluate_scoredBy [ProjectingFloat64 F] (self : PredictiveActionPolicy F)
    (estimate : RateEstimate F) (currentFreePct : F) (mount : Location)
    : (self.evaluate estimate currentFreePct mount).ScoredBy self.config := by
  unfold evaluate evaluateWithSamples
  split
  · rintro _ _ _ _ _ _ ⟨⟩
  · exact self.classify_scoredBy _ _ _ _ _

end PredictiveActionPolicy

namespace PredictiveDaemon

/-- The action that is kept is one of the policy's. -/
structure Predicts (config : DaemonConfig F) (daemon : PredictiveDaemon F) : Prop where
  inForce : daemon.config = config
  scored : daemon.lastPredictiveAction.ScoredBy config.pressure.prediction

variable [ProjectingFloat64 F]

theorem Predicts.checkMount {config : DaemonConfig F} {daemon : PredictiveDaemon F}
    (predicts : Predicts config daemon) (effectiveMinConf : F) (visit : PredictedMount F)
    : Predicts config (daemon.checkMount effectiveMinConf visit) := by
  have policy : daemon.predictivePolicy.config = config.pressure.prediction := by
    rw [daemon.configured, predicts.inForce]
  have scored : (daemon.predict effectiveMinConf visit).ScoredBy config.pressure.prediction := by
    unfold PredictiveDaemon.predict
    dsimp only
    split
    · rintro _ _ _ _ _ _ ⟨⟩
    · rw [← policy]
      exact daemon.predictivePolicy.evaluate_scoredBy _ _ _
  unfold PredictiveDaemon.checkMount
  dsimp only
  split
  · exact ⟨predicts.inForce, scored⟩
  · exact predicts

/-- After any visits, by induction on them. -/
theorem checkPressure_predicts (daemon : PredictiveDaemon F) (effectiveMinConf : F)
    (visits : List (PredictedMount F))
    : Predicts daemon.config (daemon.checkPressure effectiveMinConf visits) := by
  unfold checkPressure
  have start : Predicts daemon.config { daemon with lastPredictiveAction := .clear } :=
    ⟨rfl, by rintro _ _ _ _ _ _ ⟨⟩⟩
  generalize { daemon with lastPredictiveAction := .clear } = first at start
  induction visits generalizing first with
  | nil => exact start
  | cons visit rest ih => exact ih _ (start.checkMount effectiveMinConf visit)

end PredictiveDaemon

/-- A green tick leaves the least score at or below the configured one exactly if no cleanup is
in force, or the score interpolated at its minutes is at or below the configured one.
-/
theorem green_score_within_iff [StrictFloat64 F] [ProjectingFloat64 F]
    (daemon : PredictiveDaemon F) (effectiveMinConf : F) (visits : List (PredictedMount F))
    (accepted : ConfigFile.withinRange 0.0 1.0 daemon.config.scoring.minScore = true)
    : Float64.le
          ((daemon.checkPressure effectiveMinConf visits).handlePressure
            .green).sharedExecutorConfig.minScore
          daemon.config.scoring.minScore = true
        ↔ ∀ minutes,
            (daemon.checkPressure effectiveMinConf visits).lastPredictiveAction.CleansUpAt
              minutes →
            Float64.le (daemon.config.pressure.prediction.recommendedMinScore minutes)
              daemon.config.scoring.minScore = true := by
  obtain ⟨inForce, scored⟩ := daemon.checkPressure_predicts effectiveMinConf visits
  generalize daemon.checkPressure effectiveMinConf visits = ticked at inForce scored ⊢
  have ordered : Float64.le daemon.config.scoring.minScore daemon.config.scoring.minScore = true :=
    (StrictFloat64.ordered_of_le (Bool.and_eq_true_iff.mp accepted).1).2
  unfold PredictiveDaemon.handlePressure PredictiveDaemon.setMinScore
  dsimp only
  cases action : ticked.lastPredictiveAction with
  | preemptiveCleanup mount minutes confidence rate score target =>
      have interpolated := scored _ _ _ _ _ _ action
      dsimp only
      rw [interpolated]
      constructor
      · rintro within _ ⟨_, _, _, _, _, same⟩
        cases same
        exact within
      · intro within
        exact within minutes ⟨_, _, _, _, _, rfl⟩
  | clear | earlyWarning | imminentDanger =>
      dsimp only
      rw [inForce]
      refine iff_of_true ordered ?_
      rintro _ ⟨_, _, _, _, _, same⟩
      cases same

/-- Over the reals a score falls from 0.60 at the action horizon to 0.30 at the imminent danger. -/
theorem recommendedMinScore_eq {config : ConfigFile.PredictionConfig ℝ}
    (horizons : config.imminentDangerMinutes < config.actionHorizonMinutes) (minutes : ℝ)
    : config.recommendedMinScore minutes
        = 60 / 100 - 30 / 100
          * max 0 (min ((config.actionHorizonMinutes - minutes)
            / (config.actionHorizonMinutes - config.imminentDangerMinutes)) 1) := by
  have range : Float64.gt (config.actionHorizonMinutes - config.imminentDangerMinutes) (0.0 : ℝ)
      = true := by
    rw [real_gt_iff, real_literal]
    simpa [decimalValue] using horizons
  unfold ConfigFile.PredictionConfig.recommendedMinScore ConfigFile.PredictionConfig.progress lerp
  dsimp only
  rw [if_pos range, real_clamp (by norm_num [real_literal, decimalValue]), real_mulAdd]
  norm_num [real_literal, decimalValue]
  ring

/-- So it is at or below another one from 0.60 on always, and from 0.30 on if few enough minutes
are left.
-/
theorem recommendedMinScore_le_iff {config : ConfigFile.PredictionConfig ℝ}
    (horizons : config.imminentDangerMinutes < config.actionHorizonMinutes)
    {minutes minScore : ℝ}
    : Float64.le (config.recommendedMinScore minutes) minScore = true
      ↔ 60 / 100 ≤ minScore
        ∨ 30 / 100 ≤ minScore
          ∧ minutes ≤ config.actionHorizonMinutes
            - (config.actionHorizonMinutes - config.imminentDangerMinutes)
              * ((60 / 100 - minScore) / (30 / 100)) := by
  rw [real_le_iff, recommendedMinScore_eq horizons]
  have range : 0 < config.actionHorizonMinutes - config.imminentDangerMinutes :=
    sub_pos.mpr horizons
  have gone : (60 / 100 - minScore) / (30 / 100)
        ≤ (config.actionHorizonMinutes - minutes)
          / (config.actionHorizonMinutes - config.imminentDangerMinutes)
      ↔ minutes ≤ config.actionHorizonMinutes
        - (config.actionHorizonMinutes - config.imminentDangerMinutes)
          * ((60 / 100 - minScore) / (30 / 100)) := by
    rw [le_div_iff₀ range]
    constructor <;> intro within <;> linarith
  rw [← gone]
  generalize (config.actionHorizonMinutes - minutes)
    / (config.actionHorizonMinutes - config.imminentDangerMinutes) = fraction
  have scaled : (60 / 100 - minScore) / (30 / 100) ≤ fraction
      ↔ 60 / 100 - minScore ≤ 30 / 100 * fraction := by
    rw [div_le_iff₀ (by norm_num), mul_comm]
  rw [scaled]
  constructor
  · intro within
    by_cases high : (60 : ℝ) / 100 ≤ minScore
    · exact Or.inl high
    · refine Or.inr ⟨?_, ?_⟩
      · have most : max 0 (min fraction 1) ≤ 1 := max_le zero_le_one (min_le_right _ _)
        linarith
      · rcases max_cases 0 (min fraction 1) with ⟨clamped, _⟩ | ⟨clamped, _⟩
        · rw [clamped] at within
          linarith
        · have least : min fraction 1 ≤ fraction := min_le_left _ _
          rw [clamped] at within
          linarith
  · rintro (high | ⟨low, enough⟩)
    · have least : 0 ≤ max 0 (min fraction 1) := le_max_left _ _
      linarith
    · have least : min fraction 1 ≤ max 0 (min fraction 1) := le_max_right _ _
      rcases min_cases fraction 1 with ⟨clamped, _⟩ | ⟨clamped, _⟩
      · linarith
      · linarith

/-- A tenth free, and by a steady trend so many minutes until it is full. -/
def fillingMount (seconds : F) [ProjectingFloat64 F] : PredictedMount F where
  mountPath := .root
  rateEstimate := {
    bytesPerSecond := 1000.0
    acceleration := 0.0
    secondsToExhaustion := seconds
    secondsToThreshold := seconds
    sampleCount := 20
    confidence := 0.9
    trend := .stable
    alphaUsed := 0.3
    fallbackActive := false
    burstState := .default }
  freePct := 10.0

def scoringAt (minScore : F) : DaemonConfig F :=
  { (predicting true : DaemonConfig F) with
    scoring := { (predicting true : DaemonConfig F).scoring with minScore } }

/-- A least score of 0.60 is never raised. -/
theorem green_score_within_high_floor
    : Float64.le
        (((PredictiveDaemon.init (scoringAt (60 / 100 : ℝ))).checkPressure 0
          [fillingMount 1740]).handlePressure .green).sharedExecutorConfig.minScore
        (60 / 100) = true := by
  refine (green_score_within_iff (PredictiveDaemon.init (scoringAt (60 / 100 : ℝ))) 0
    [fillingMount 1740] ?_).mpr ?_
  · refine Bool.and_eq_true_iff.mpr ⟨real_le_iff.mpr ?_, real_le_iff.mpr ?_⟩ <;>
      norm_num [PredictiveDaemon.init, scoringAt, real_literal, decimalValue]
  · intro minutes _
    refine (recommendedMinScore_le_iff ?_).mpr (Or.inl le_rfl)
    change (5.0 : ℝ) < 30.0
    norm_num [real_literal, decimalValue]

/-- By default a mount that is full in 29 minutes raises the least score on a green tick. -/
theorem early_cleanup_raises_score
    : ConfigFile.withinRange 0.0 1.0 (predicting true : DaemonConfig Float).scoring.minScore = true
      ∧ Float64.le
        (((PredictiveDaemon.init (predicting true : DaemonConfig Float)).checkPressure 0.7
          [fillingMount 1740.0]).handlePressure .green).sharedExecutorConfig.minScore
        (predicting true : DaemonConfig Float).scoring.minScore = false := by
  decide +kernel

end StorageBallast
