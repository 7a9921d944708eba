import Mathlib.Data.List.Sort
import StorageBallast.Foundations.FloatLaws
import StorageBallast.Foundations.Runs
import StorageBallast.Monitor.Diagnostics

/-! The statistical guard over the forecasts of disk consumption: a rolling window of
observations, an accumulator of evidence for drift, and a status judged on both.
-/

namespace StorageBallast

open scoped Float64

variable {F : Type} [Float64 F]

/-- One forecast with what was measured afterwards. -/
structure CalibrationObservation (F : Type) where
  predictedRate : F
  actualRate : F
  predictedTte : F
  actualTte : F
  burstOutlier : Bool
deriving DecidableEq, Repr

namespace CalibrationObservation

/-- How far the consumption was underestimated; trivial rates count as no error. -/
def rateDangerRatio (self : CalibrationObservation F) : F :=
  if Float64.lt (Float64.abs self.actualRate) 10.0
      && Float64.lt (Float64.abs self.predictedRate) 10.0 then 0.0
  else
    let underestimation := self.actualRate - self.predictedRate
    if Float64.le underestimation 0.0 then 0.0
    else
      let denominator :=
        Float64.max (Float64.max (Float64.abs self.actualRate) (Float64.abs self.predictedRate))
          1.0
      underestimation / denominator

def tteConservative (self : CalibrationObservation F) : Bool :=
  Float64.le self.predictedTte self.actualTte

end CalibrationObservation

structure GuardrailConfig (F : Type) where
  minObservations : Nat
  windowSize : Nat
  maxRateError : F
  minConservativeFraction : F
  eProcessThreshold : F
  eProcessPenalty : F
  eProcessReward : F
  recoveryCleanWindows : Nat
deriving DecidableEq, Repr

/-- The reward mirrors the penalty: good observations recover as fast as bad ones count. -/
def GuardrailConfig.default : GuardrailConfig F where
  minObservations := 60
  windowSize := 500
  maxRateError := 0.30
  minConservativeFraction := 0.70
  eProcessThreshold := 20.0
  eProcessPenalty := 1.5
  eProcessReward := 2.0 / 3.0
  recoveryCleanWindows := 3

def GuardrailConfig.isGood (config : GuardrailConfig F) (obs : CalibrationObservation F)
    : Bool :=
  obs.burstOutlier || (Float64.le obs.rateDangerRatio config.maxRateError && obs.tteConservative)

/-- `a` may stand before `b` in a sorted list of errors. -/
def errorsOrdered (a b : F) : Prop := Float64.partialCmp a b ≠ some .gt

instance : DecidableRel (errorsOrdered : F → F → Prop) := fun a b => by
  unfold errorsOrdered
  infer_instance

def medianError (sorted : List F) : F :=
  let middle := sorted.length / 2
  if sorted.length % 2 = 0 then
    Float64.midpoint (sorted.getD (middle - 1) 0.0) (sorted.getD middle 0.0)
  else sorted.getD middle 0.0

/-- Median error and share of conservative times, burst outliers left out. -/
def calibrationMetrics (observations : List (CalibrationObservation F)) : F × F :=
  let nonBurst := observations.filter (!·.burstOutlier)
  if nonBurst.isEmpty then (0.0, 1.0)
  else
    let errors := (nonBurst.map (·.rateDangerRatio)).insertionSort errorsOrdered
    let conservativeCount := nonBurst.countP (·.tteConservative)
    (medianError errors, Float64.ofNat conservativeCount / Float64.ofNat nonBurst.length)

structure AdaptiveGuard (F : Type) where
  config : GuardrailConfig F
  observations : List (CalibrationObservation F)
  /-- Accumulated evidence, stored as its logarithm. -/
  eProcessLog : F
  status : GuardStatus
  consecutiveClean : Nat
deriving DecidableEq, Repr

namespace AdaptiveGuard

def new (config : GuardrailConfig F) : AdaptiveGuard F where
  config
  observations := []
  eProcessLog := 0.0
  status := .unknown
  consecutiveClean := 0

def eProcessAlarm (self : AdaptiveGuard F) : Bool :=
  Float64.ge (Float64.exp self.eProcessLog) self.config.eProcessThreshold

/-- The window is within the limits of the configuration and the evidence raises no alarm. -/
def calibrated (self : AdaptiveGuard F) : Bool :=
  let (medianError, conservativeFrac) := calibrationMetrics self.observations
  Float64.le medianError self.config.maxRateError
    && Float64.ge conservativeFrac self.config.minConservativeFraction
    && !self.eProcessAlarm

/-- Recovery counts good observations one by one, since the window may still hold bad ones;
it clears the evidence.
-/
def recomputeStatus (self : AdaptiveGuard F) (latestObsGood : Bool) : AdaptiveGuard F :=
  if self.observations.length < self.config.minObservations then
    { self with status := .unknown, consecutiveClean := 0 }
  else
    match self.status with
    | .pass =>
        if self.calibrated then self else { self with status := .fail, consecutiveClean := 0 }
    | .unknown =>
        if self.calibrated then
          { self with status := .pass, consecutiveClean := self.config.recoveryCleanWindows }
        else { self with status := .fail, consecutiveClean := 0 }
    | .fail =>
        if latestObsGood && !self.eProcessAlarm then
          let counted := { self with consecutiveClean := self.consecutiveClean + 1 }
          if self.config.recoveryCleanWindows ≤ counted.consecutiveClean then
            { counted with status := .pass, eProcessLog := 0.0 }
          else counted
        else { self with consecutiveClean := 0 }

/-- Logarithm of an observation's likelihood ratio: a reward, or a penalty that grows with
the excess of the error.
-/
def likelihoodRatio (config : GuardrailConfig F) (obs : CalibrationObservation F) : F :=
  if config.isGood obs then Float64.ln config.eProcessReward
  else
    let severity :=
      Float64.clamp ((obs.rateDangerRatio - config.maxRateError) / (1.0 - config.maxRateError))
        0.0 1.0
    let scale := Float64.mulAdd 0.7 severity 0.3
    Float64.ln config.eProcessPenalty * scale

def pushObservation (windowSize : Nat) (observations : List (CalibrationObservation F))
    (obs : CalibrationObservation F) : List (CalibrationObservation F) :=
  let pushed := observations ++ [obs]
  pushed.drop (pushed.length - windowSize)

def observe (self : AdaptiveGuard F) (obs : CalibrationObservation F) : AdaptiveGuard F :=
  let updated := { self with
    observations := pushObservation self.config.windowSize self.observations obs
    eProcessLog :=
      Float64.clamp (self.eProcessLog + likelihoodRatio self.config obs) (-5.0) 3.5 }
  updated.recomputeStatus (self.config.isGood obs)

def reset (self : AdaptiveGuard F) : AdaptiveGuard F :=
  { self with observations := [], eProcessLog := 0.0, status := .unknown, consecutiveClean := 0 }

/-- The text that explains the status. -/
def reason (self : AdaptiveGuard F) : String :=
  let (medianError, conservativeFrac) := calibrationMetrics self.observations
  match self.status with
  | .pass => "Calibration verified; adaptive actions allowed"
  | .unknown =>
      "Insufficient observations (" ++ toString self.observations.length ++ "/"
        ++ toString self.config.minObservations ++ ")"
  | .fail =>
      if self.eProcessAlarm then
        "E-process drift alarm (evidence="
          ++ Float64.toFixed 1 (Float64.exp self.eProcessLog) ++ ")"
      else if Float64.gt medianError self.config.maxRateError then
        "Rate calibration failed (median error=" ++ Float64.toFixed 2 medianError ++ ")"
      else "TTE coverage low (" ++ Float64.toFixed 1 (conservativeFrac * 100.0) ++ "%)"

def diagnostics (self : AdaptiveGuard F) : GuardDiagnostics F :=
  let (medianError, conservativeFrac) := calibrationMetrics self.observations
  { status := self.status
    observationCount := self.observations.length
    medianRateError := medianError
    conservativeFraction := conservativeFrac
    eProcessValue := Float64.exp self.eProcessLog
    eProcessAlarm := self.eProcessAlarm
    consecutiveClean := self.consecutiveClean
    reason := self.reason }

end AdaptiveGuard

inductive GuardCall (F : Type) where
  | observe (obs : CalibrationObservation F)
  | reset

namespace AdaptiveGuard

def step (self : AdaptiveGuard F) : GuardCall F → AdaptiveGuard F
  | .observe obs => self.observe obs
  | .reset => self.reset

end AdaptiveGuard

def observedSinceReset (calls : List (GuardCall F)) : List (CalibrationObservation F) :=
  calls.foldl
    (fun observed call =>
      match call with
      | .observe obs => observed ++ [obs]
      | .reset => [])
    []

end StorageBallast

/-! What holds of the statistical guard after any observations and resets: how its window,
evidence, status and count of good observations hang together.
-/

namespace StorageBallast

open scoped Float64

variable {F : Type} [Float64 F]

namespace AdaptiveGuard

open Runs LawfulFloat64

def recorded (self : AdaptiveGuard F) (obs : CalibrationObservation F) : AdaptiveGuard F :=
  { self with
    observations := pushObservation self.config.windowSize self.observations obs
    eProcessLog :=
      Float64.clamp (self.eProcessLog + likelihoodRatio self.config obs) (-5.0) 3.5 }

/-- Everything an observation can do, by the status before it. -/
inductive Judged (self : AdaptiveGuard F) (good : Bool) : AdaptiveGuard F → Prop
  | few
    : self.observations.length < self.config.minObservations
      → Judged self good { self with status := .unknown, consecutiveClean := 0 }
  | stays
    : self.config.minObservations ≤ self.observations.length
      → self.status = .pass → self.calibrated = true → Judged self good self
  | passes
    : self.config.minObservations ≤ self.observations.length
      → self.status = .unknown → self.calibrated = true
      → Judged self good
          { self with status := .pass, consecutiveClean := self.config.recoveryCleanWindows }
  | fails
    : self.config.minObservations ≤ self.observations.length
      → self.status ≠ .fail → self.calibrated = false
      → Judged self good { self with status := .fail, consecutiveClean := 0 }
  | recovers
    : self.config.minObservations ≤ self.observations.length
      → self.status = .fail → good = true → self.eProcessAlarm = false
      → self.config.recoveryCleanWindows ≤ self.consecutiveClean + 1
      → Judged self good
          { self with
            status := .pass
            eProcessLog := 0.0
            consecutiveClean := self.consecutiveClean + 1 }
  | counts
    : self.config.minObservations ≤ self.observations.length
      → self.status = .fail → good = true
      → self.consecutiveClean + 1 < self.config.recoveryCleanWindows
      → Judged self good { self with consecutiveClean := self.consecutiveClean + 1 }
  | relapses
    : self.config.minObservations ≤ self.observations.length
      → self.status = .fail → good = false ∨ self.eProcessAlarm = true
      → Judged self good { self with consecutiveClean := 0 }

theorem recomputeStatus_judged (self : AdaptiveGuard F) (good : Bool)
    : Judged self good (self.recomputeStatus good) := by
  unfold recomputeStatus
  split
  · rename_i few
    exact .few few
  · rename_i many
    have enough := Nat.le_of_not_lt many
    split
    · rename_i pass
      split
      · rename_i calibrated
        exact .stays enough pass calibrated
      · rename_i uncalibrated
        exact .fails enough (by simp [pass]) (Bool.eq_false_iff.mpr uncalibrated)
    · rename_i unknown
      split
      · rename_i calibrated
        exact .passes enough unknown calibrated
      · rename_i uncalibrated
        exact .fails enough (by simp [unknown]) (Bool.eq_false_iff.mpr uncalibrated)
    · rename_i fail
      split
      · rename_i clean
        rw [Bool.and_eq_true, Bool.not_eq_true'] at clean
        dsimp only
        split
        · rename_i recovered
          exact .recovers enough fail clean.1 clean.2 recovered
        · rename_i waiting
          exact .counts enough fail clean.1 (Nat.lt_of_not_le waiting)
      · rename_i unclean
        refine .relapses enough fail ?_
        cases good with
        | false => exact Or.inl rfl
        | true => simpa using unclean

theorem observe_judged (self : AdaptiveGuard F) (obs : CalibrationObservation F)
    : Judged (self.recorded obs) (self.config.isGood obs) (self.observe obs) :=
  recomputeStatus_judged (self.recorded obs) (self.config.isGood obs)

@[simp] theorem recorded_config (self : AdaptiveGuard F) (obs : CalibrationObservation F)
    : (self.recorded obs).config = self.config := rfl

@[simp] theorem recorded_consecutiveClean (self : AdaptiveGuard F)
    (obs : CalibrationObservation F)
    : (self.recorded obs).consecutiveClean = self.consecutiveClean := rfl

theorem Judged.frame {self after : AdaptiveGuard F} {good : Bool}
    (judged : Judged self good after)
    : after.config = self.config ∧ after.observations = self.observations := by
  cases judged <;> exact ⟨rfl, rfl⟩

omit [Float64 F] in
/-- Pushing onto the last observations gives the last observations. -/
theorem pushObservation_last (windowSize : Nat) (observed : List (CalibrationObservation F))
    (obs : CalibrationObservation F)
    : pushObservation windowSize (observed.drop (observed.length - windowSize)) obs
      = (observed ++ [obs]).drop ((observed ++ [obs]).length - windowSize) := by
  have joined : observed.drop (observed.length - windowSize) ++ [obs]
      = (observed ++ [obs]).drop (observed.length - windowSize) := by
    rw [List.drop_append_of_le_length (by omega)]
  unfold pushObservation
  dsimp only
  rw [joined, List.drop_drop, List.length_drop]
  congr 1
  simp only [List.length_append, List.length_singleton]
  omega

omit [Float64 F] in
theorem pushObservation_ne_nil {windowSize : Nat} (positive : 0 < windowSize)
    (observations : List (CalibrationObservation F)) (obs : CalibrationObservation F)
    : pushObservation windowSize observations obs ≠ [] := by
  unfold pushObservation
  simp only [List.length_append, List.length_singleton, ne_eq, List.drop_eq_nil_iff]
  omega

omit [Float64 F] in
theorem observedSinceReset_observe (calls : List (GuardCall F))
    (obs : CalibrationObservation F)
    : observedSinceReset (calls ++ [.observe obs]) = observedSinceReset calls ++ [obs] := by
  simp [observedSinceReset]

omit [Float64 F] in
theorem observedSinceReset_reset (calls : List (GuardCall F))
    : observedSinceReset (calls ++ [.reset]) = [] := by
  simp [observedSinceReset]

def EndsGood (config : GuardrailConfig F) (observed : List (CalibrationObservation F))
    (count : Nat) : Prop :=
  ∃ earlier recent, observed = earlier ++ recent ∧ recent.length = count
    ∧ ∀ obs ∈ recent, config.isGood obs = true

theorem EndsGood.zero (config : GuardrailConfig F)
    (observed : List (CalibrationObservation F))
    : EndsGood config observed 0 :=
  ⟨observed, [], by simp, rfl, by simp⟩

variable {observed : List (CalibrationObservation F)} {config : GuardrailConfig F}

theorem EndsGood.push {count : Nat}
    (ends : EndsGood config observed count) {obs : CalibrationObservation F}
    (good : config.isGood obs = true)
    : EndsGood config (observed ++ [obs]) (count + 1) := by
  obtain ⟨earlier, recent, rfl, length, all⟩ := ends
  refine ⟨earlier, recent ++ [obs], by simp, by simp [length], ?_⟩
  intro other member
  rcases List.mem_append.mp member with old | new
  · exact all other old
  · rw [List.mem_singleton.mp new]
    exact good

/-- The invariant of a guard that has observed these observations since its last reset. -/
structure Sound (config : GuardrailConfig F) (observed : List (CalibrationObservation F))
    (guard : AdaptiveGuard F) : Prop where
  configured : guard.config = config
  window : guard.observations = observed.drop (observed.length - config.windowSize)
  evidence
    : Float64.le guard.eProcessLog guard.eProcessLog = true
      → Float64.le (-5.0) guard.eProcessLog = true ∧ Float64.le guard.eProcessLog 3.5 = true
  unknown
    : guard.status = .unknown
      ↔ guard.observations.length < config.minObservations ∨ guard.observations = []
  pass : guard.status = .pass → guard.eProcessAlarm = false
  fail : guard.status = .fail → guard.consecutiveClean < config.recoveryCleanWindows
  streak : guard.status = .fail → EndsGood config observed guard.consecutiveClean

variable [LawfulFloat64 F]

theorem zero_between : Float64.le (-5.0 : F) 0.0 = true ∧ Float64.le (0.0 : F) 3.5 = true := by
  refine ⟨neg_decimal_le_zero 50 true 1, decimal_le ?_⟩
  norm_num [decimalValue]

theorem clamped_between (x : F)
    (ordered : Float64.le (Float64.clamp x (-5.0) 3.5) (Float64.clamp x (-5.0) 3.5) = true)
    : Float64.le (-5.0) (Float64.clamp x (-5.0) 3.5) = true
      ∧ Float64.le (Float64.clamp x (-5.0) 3.5) 3.5 = true :=
  clamp_between (neg_le_neg (decimal_le_self 50 true 1)) (decimal_le_self 35 true 1)
    (le_trans zero_between.1 zero_between.2) ordered

variable {guard : AdaptiveGuard F}

theorem alarm_of_nonpos (threshold : Float64.gt guard.config.eProcessThreshold 1.0 = true)
    (nonpos : Float64.le guard.eProcessLog 0.0 = true)
    : guard.eProcessAlarm = false :=
  not_ge_of_le_of_gt (exp_le_one nonpos) threshold

theorem new_sound (config : GuardrailConfig F) : Sound config [] (new config) where
  configured := rfl
  window := List.drop_nil.symm
  evidence _ := zero_between
  unknown := ⟨fun _ => Or.inr rfl, fun _ => rfl⟩
  pass := fun pass => nomatch pass
  fail := fun fail => nomatch fail
  streak := fun fail => nomatch fail

theorem reset_sound (sound : Sound config observed guard)
    : Sound config [] guard.reset where
  configured := sound.configured
  window := List.drop_nil.symm
  evidence _ := zero_between
  unknown := ⟨fun _ => Or.inr rfl, fun _ => rfl⟩
  pass := fun pass => nomatch pass
  fail := fun fail => nomatch fail
  streak := fun fail => nomatch fail

omit [LawfulFloat64 F] in
/-- A judged status is unknown exactly if too few observations are held. -/
theorem Judged.unknown_iff {self after : AdaptiveGuard F} {good : Bool}
    (judged : Judged self good after)
    : after.status = .unknown ↔ after.observations.length < after.config.minObservations := by
  cases judged with
  | few few => exact iff_of_true rfl few
  | stays enough pass _ => exact iff_of_false (by simp [pass]) (Nat.not_lt.mpr enough)
  | passes enough => exact iff_of_false (by simp) (Nat.not_lt.mpr enough)
  | fails enough => exact iff_of_false (by simp) (Nat.not_lt.mpr enough)
  | recovers enough => exact iff_of_false (by simp) (Nat.not_lt.mpr enough)
  | counts enough fail => exact iff_of_false (by simp [fail]) (Nat.not_lt.mpr enough)
  | relapses enough fail => exact iff_of_false (by simp [fail]) (Nat.not_lt.mpr enough)

omit [LawfulFloat64 F] in
theorem alarm_of_calibrated (calibrated : guard.calibrated = true)
    : guard.eProcessAlarm = false := by
  simp only [AdaptiveGuard.calibrated, Bool.and_eq_true, Bool.not_eq_true'] at calibrated
  exact calibrated.2

/-- A guard that is judged to pass raises no alarm; a recovery has cleared the evidence. -/
theorem Judged.pass_alarm {self after : AdaptiveGuard F} {good : Bool}
    (judged : Judged self good after)
    (threshold : Float64.gt self.config.eProcessThreshold 1.0 = true)
    (pass : after.status = .pass)
    : after.eProcessAlarm = false := by
  cases judged with
  | few => cases pass
  | stays _ _ calibrated => exact alarm_of_calibrated calibrated
  | passes _ _ calibrated => exact alarm_of_calibrated calibrated
  | fails => cases pass
  | recovers => exact alarm_of_nonpos threshold (decimal_le_self 0 true 1)
  | counts _ fail => cases fail.symm.trans pass
  | relapses _ fail => cases fail.symm.trans pass

theorem observe_sound (threshold : Float64.gt config.eProcessThreshold 1.0 = true)
    (window : 1 ≤ config.windowSize) (recovery : 1 ≤ config.recoveryCleanWindows)
    (sound : Sound config observed guard) (obs : CalibrationObservation F)
    : Sound config (observed ++ [obs]) (guard.observe obs) := by
  have judged := observe_judged guard obs
  obtain ⟨sameConfig, sameWindow⟩ := judged.frame
  have configured : (guard.observe obs).config = config := sameConfig.trans sound.configured
  have recordedWindow : (guard.recorded obs).observations
      = (observed ++ [obs]).drop ((observed ++ [obs]).length - config.windowSize) := by
    change pushObservation guard.config.windowSize guard.observations obs = _
    rw [sound.configured, sound.window, pushObservation_last]
  have held : (guard.observe obs).observations ≠ [] := by
    rw [sameWindow]
    exact pushObservation_ne_nil (sound.configured.symm ▸ window) guard.observations obs
  have range := clamped_between (guard.eProcessLog + likelihoodRatio guard.config obs)
  have good : guard.config.isGood obs = true → config.isGood obs = true :=
    fun good => sound.configured ▸ good
  generalize guard.observe obs = after at judged configured sameWindow held ⊢
  refine ⟨configured, sameWindow.trans recordedWindow, ?_, ?_, ?_, ?_, ?_⟩
  · cases judged with
    | recovers => exact fun _ => zero_between
    | _ => exact range
  · rw [judged.unknown_iff, configured]
    exact ⟨Or.inl, fun either => either.resolve_right held⟩
  · exact judged.pass_alarm (sound.configured.symm ▸ threshold)
  · intro fail
    cases judged with
    | few => cases fail
    | stays _ pass => cases pass.symm.trans fail
    | passes => cases fail
    | fails => exact recovery
    | recovers => cases fail
    | counts _ _ _ waiting => exact sound.configured ▸ waiting
    | relapses => exact recovery
  · intro fail
    cases judged with
    | few => cases fail
    | stays _ pass => cases pass.symm.trans fail
    | passes => cases fail
    | fails => exact .zero config _
    | recovers => cases fail
    | counts _ failed clean _ => exact (sound.streak failed).push (good clean)
    | relapses => exact .zero config _

omit [LawfulFloat64 F] in
/-- A guard that recovers has seen as many good observations in a row as it asks for. -/
theorem observe_recovers (sound : Sound config observed guard) {obs : CalibrationObservation F}
    (failed : guard.status = .fail) (passed : (guard.observe obs).status = .pass)
    : EndsGood config (observed ++ [obs]) config.recoveryCleanWindows := by
  have judged := observe_judged guard obs
  have before := sound.fail failed
  generalize guard.observe obs = after at judged passed
  cases judged with
  | few => cases passed
  | stays _ pass => cases pass.symm.trans failed
  | passes _ unknown => cases unknown.symm.trans failed
  | fails => cases passed
  | recovers _ _ clean _ enough =>
      have exactly : config.recoveryCleanWindows = guard.consecutiveClean + 1 := by
        simp only [recorded_config, recorded_consecutiveClean, sound.configured] at enough
        omega
      rw [exactly]
      exact (sound.streak failed).push (sound.configured ▸ clean)
  | counts _ fail => cases fail.symm.trans passed
  | relapses _ fail => cases fail.symm.trans passed

theorem run_sound (threshold : Float64.gt config.eProcessThreshold 1.0 = true)
    (window : 1 ≤ config.windowSize) (recovery : 1 ≤ config.recoveryCleanWindows)
    (calls : List (GuardCall F))
    : Sound config (observedSinceReset calls) (final step (new config) calls) := by
  refine @history_invariant _ _ step (new config)
    (fun past guard => Sound config (observedSinceReset past) guard) (new_sound config) ?_ calls
  intro past call sound
  cases call with
  | observe obs =>
      rw [observedSinceReset_observe]
      exact observe_sound threshold window recovery sound obs
  | reset =>
      rw [observedSinceReset_reset]
      exact reset_sound sound

theorem default_threshold
    : Float64.gt (GuardrailConfig.default : GuardrailConfig ℝ).eProcessThreshold 1.0 = true := by
  change Float64.lt (Float64.ofDecimal 10 true 1 : ℝ) (Float64.ofDecimal 200 true 1) = true
  rw [real_lt_iff]
  norm_num [Float64.ofDecimal, decimalValue]

omit [LawfulFloat64 F] in
/-- The invariant with the evidence always in range, and an unknown status exactly while too
few observations are held.
-/
structure StrictlySound (config : GuardrailConfig F)
    (observed : List (CalibrationObservation F)) (guard : AdaptiveGuard F) : Prop
    extends Sound config observed guard where
  inRange
    : Float64.le (-5.0) guard.eProcessLog = true ∧ Float64.le guard.eProcessLog 3.5 = true
  unknownIff : guard.status = .unknown ↔ guard.observations.length < config.minObservations

/-- A guard that asks for no observations. -/
def eagerConfig : GuardrailConfig ℚ :=
  { (GuardrailConfig.default : GuardrailConfig ℚ) with minObservations := 0 }

/-- A guard that accepts every rate error up to the actual rate itself. -/
def lenientConfig : GuardrailConfig Float :=
  { (GuardrailConfig.default : GuardrailConfig Float) with maxRateError := 1.0 }

def unforeseen : CalibrationObservation Float := ⟨0.0, 100.0, 10.0, 5.0, false⟩

theorem unforeseen_evidence
    : ((new lenientConfig).observe unforeseen).eProcessLog = Float.div 0 0 := by
  have bad : lenientConfig.isGood unforeseen = false := by decide +kernel
  have scale : Float64.mulAdd 0.7
      (Float64.clamp ((unforeseen.rateDangerRatio - lenientConfig.maxRateError)
        / (1.0 - lenientConfig.maxRateError)) 0.0 1.0) 0.3 = Float.div 0 0 := by
    decide +kernel
  have ratio : likelihoodRatio lenientConfig unforeseen = Float.div 0 0 := by
    unfold likelihoodRatio
    rw [bad]
    simp only [Bool.false_eq_true, if_false]
    rw [scale]
    exact float_mul_nan _
  have few : ((new lenientConfig).recorded unforeseen).observations.length
      < ((new lenientConfig).recorded unforeseen).config.minObservations := by
    decide +kernel
  have kept : ((new lenientConfig).observe unforeseen).eProcessLog
      = Float64.clamp ((new lenientConfig).eProcessLog + likelihoodRatio lenientConfig unforeseen)
          (-5.0) 3.5 := by
    change (((new lenientConfig).recorded unforeseen).recomputeStatus
      (lenientConfig.isGood unforeseen)).eProcessLog = _
    unfold recomputeStatus
    rw [if_pos few]
    rfl
  rw [kept, ratio]
  decide +kernel

end AdaptiveGuard

end StorageBallast
