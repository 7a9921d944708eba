import StorageBallast.Foundations.RealFloats
import StorageBallast.Monitor.PredictiveActions

/-! How the severity of a prediction follows the evidence, in exact arithmetic. It goes by the
minutes that are left to act on: more evidence leaves fewer of them, and opens every gate that
less evidence opens. What stands for infinity does not matter here.
-/

namespace StorageBallast

open scoped Float64

def NoLater (first second : Option (ℝ × ℝ)) : Prop :=
  ∀ late ∈ second, ∃ early ∈ first, early.1 ≤ late.1

namespace NoLater

theorem of_none (first : Option (ℝ × ℝ)) : NoLater first none := by
  intro late projected
  cases projected

theorem of_some {early late : ℝ × ℝ} (le : early.1 ≤ late.1)
    : NoLater (some early) (some late) := by
  intro other projected
  cases projected
  exact ⟨early, rfl, le⟩

/-- A gate that clears the first projection only if it clears the second one. -/
theorem gate {firstGate secondGate : Bool} {first second : Option (ℝ × ℝ)}
    (clears : firstGate = true → secondGate = true)
    (passed : secondGate = false → NoLater first second)
    : NoLater (if firstGate then none else first) (if secondGate then none else second) := by
  cases closed : secondGate with
  | true => exact of_none _
  | false =>
      have passes : firstGate = false := by
        rw [← Bool.not_eq_true]
        intro cleared
        rw [clears cleared] at closed
        cases closed
      rw [passes]
      exact passed closed

end NoLater

namespace PredictiveActionPolicy

variable (policy : PredictiveActionPolicy ℝ)

theorem severity_classify (minutes confidence rate : ℝ) (trend : Trend) (mount : Location)
    : (policy.classify minutes confidence rate trend mount).severity
        = if minutes ≤ policy.config.criticalDangerMinutes then 4
          else if minutes ≤ policy.config.imminentDangerMinutes then 3
          else if minutes ≤ policy.config.actionHorizonMinutes then 2
          else if minutes ≤ policy.config.warningHorizonMinutes then 1
          else 0 := by
  unfold classify
  simp only [real_le_iff]
  split_ifs <;> rfl

/-- Fewer minutes are at least as severe, whatever order the horizons are in. -/
theorem severity_classify_antitone {early late : ℝ} (le : early ≤ late)
    (earlyConfidence lateConfidence rate : ℝ) (trend : Trend) (mount : Location)
    : (policy.classify late lateConfidence rate trend mount).severity
        ≤ (policy.classify early earlyConfidence rate trend mount).severity := by
  have within {horizon : ℝ} (reached : late ≤ horizon) : early ≤ horizon := le.trans reached
  rw [severity_classify, severity_classify]
  by_cases critical : late ≤ policy.config.criticalDangerMinutes
  · rw [if_pos critical, if_pos (within critical)]
  rw [if_neg critical]
  by_cases imminent : late ≤ policy.config.imminentDangerMinutes
  · rw [if_pos imminent, if_pos (within imminent)]
    split <;> omega
  rw [if_neg imminent]
  by_cases action : late ≤ policy.config.actionHorizonMinutes
  · rw [if_pos action, if_pos (within action)]
    split_ifs <;> omega
  rw [if_neg action]
  by_cases warning : late ≤ policy.config.warningHorizonMinutes
  · rw [if_pos warning, if_pos (within warning)]
    split_ifs <;> omega
  rw [if_neg warning]
  exact Nat.zero_le _

end PredictiveActionPolicy

namespace ConfigFile.PredictionConfig

variable {config : PredictionConfig ℝ}

/-- Below 0.95 a faster rate requires at least as much confidence. -/
theorem requiredConfidence_mono (room : config.minConfidence ≤ 0.95) {slow fast : ℝ}
    (faster : slow ≤ fast)
    : config.requiredConfidence slow ≤ config.requiredConfidence fast := by
  unfold requiredConfidence
  dsimp only
  have bounds : (0.0 : ℝ) ≤ 1.0 := by norm_num [real_literal, decimalValue]
  have scaled : (slow - 5.0) / 10.0 ≤ (fast - 5.0) / (10.0 : ℝ) := by
    apply div_le_div_of_nonneg_right (sub_le_sub_right faster _)
    norm_num [real_literal, decimalValue]
  have severity := real_clamp_mono bounds scaled
  have spread : (0 : ℝ) ≤ 0.95 - config.minConfidence := sub_nonneg.mpr room
  have product := mul_le_mul_of_nonneg_right severity spread
  exact add_le_add_right product _

/-- At 0.95 or above no rate requires more than the least confidence. -/
theorem requiredConfidence_le (full : 0.95 ≤ config.minConfidence) (rate : ℝ)
    : config.requiredConfidence rate ≤ config.minConfidence := by
  unfold requiredConfidence
  dsimp only
  have bounds : (0.0 : ℝ) ≤ 1.0 := by norm_num [real_literal, decimalValue]
  rw [real_clamp bounds]
  have severity : (0 : ℝ) ≤ max 0.0 (min ((rate - 5.0) / 10.0) 1.0) :=
    le_max_of_le_left (by norm_num [real_literal, decimalValue])
  have spread : 0.95 - config.minConfidence ≤ 0 := sub_nonpos.mpr full
  have product := mul_nonpos_of_nonneg_of_nonpos severity spread
  linarith

/-- What is rejected with more confidence at a slower rate is rejected with less at a faster one. -/
theorem rejectsExtreme_mono {slow fast unsure sure : ℝ} (faster : slow ≤ fast)
    (surer : unsure ≤ sure) (trusted : config.minConfidence ≤ sure)
    (rejected : config.rejectsExtreme slow sure = true)
    : config.rejectsExtreme fast unsure = true := by
  unfold rejectsExtreme at rejected ⊢
  rw [Bool.and_eq_true, real_gt_iff, real_lt_iff] at rejected ⊢
  obtain ⟨extreme, short⟩ := rejected
  refine ⟨extreme.trans_le faster, surer.trans_lt ?_⟩
  rcases le_total config.minConfidence (0.95 : ℝ) with room | full
  · exact short.trans_le (requiredConfidence_mono room faster)
  · exact absurd (trusted.trans_lt short) (requiredConfidence_le full slow).not_gt

end ConfigFile.PredictionConfig

namespace PredictiveActionPolicy

variable (policy : PredictiveActionPolicy ℝ) (estimate : RateEstimate ℝ)

section gates

variable {unsure sure low high : ℝ} (surer : unsure ≤ sure) (fuller : low ≤ high)

include surer fuller

/-- The first gates clear nothing that passes them with less confidence or with more free. -/
theorem untrusted_mono (sampleCount : Option Nat)
    (cleared : policy.untrusted { estimate with confidence := sure } low sampleCount = true)
    : policy.untrusted { estimate with confidence := unsure } high sampleCount = true := by
  unfold untrusted at cleared ⊢
  simp only [Bool.or_eq_true, Bool.and_eq_true, real_lt_iff, real_gt_iff] at cleared ⊢
  refine Or.imp (Or.imp_left (Or.imp_left (Or.imp_left (Or.imp_right ?_)))) ?_ cleared
  · exact surer.trans_lt
  · rintro ⟨half, short⟩
    exact ⟨half.trans_le fuller, surer.trans_lt short⟩

theorem rejectsImplied_mono {minutes : ℝ} (ahead : 0 ≤ minutes)
    (trusted : policy.config.minConfidence ≤ sure)
    (rejected : policy.rejectsImplied sure low minutes = true)
    : policy.rejectsImplied unsure high minutes = true := by
  have faster : low / minutes ≤ high / minutes := div_le_div_of_nonneg_right fuller ahead
  unfold rejectsImplied at rejected ⊢
  simp only [Bool.or_eq_true, Bool.and_eq_true, real_lt_iff, real_gt_iff] at rejected ⊢
  obtain ⟨⟨spare, distant⟩, moderate | extreme⟩ := rejected
  · obtain ⟨⟨rate, free⟩, short⟩ := moderate
    refine ⟨⟨spare.trans_le fuller, distant⟩, Or.inl ⟨⟨rate.trans_le faster, ?_⟩, ?_⟩⟩
    · exact free.trans_le fuller
    · exact surer.trans_lt short
  · refine ⟨⟨spare.trans_le fuller, distant⟩, Or.inr ?_⟩
    exact ConfigFile.PredictionConfig.rejectsExtreme_mono faster surer trusted extreme

theorem rejectsUncorroborated_mono {minutes : ℝ} (ahead : 0 ≤ minutes)
    (trusted : policy.config.minConfidence ≤ sure)
    (rejected : policy.rejectsUncorroborated { estimate with confidence := sure } low minutes
      = true)
    : policy.rejectsUncorroborated { estimate with confidence := unsure } high minutes = true := by
  have faster : low / minutes ≤ high / minutes := div_le_div_of_nonneg_right fuller ahead
  unfold rejectsUncorroborated at rejected ⊢
  simp only [Bool.and_eq_true, real_gt_iff] at rejected ⊢
  obtain ⟨⟨⟨calm, spare⟩, near⟩, extreme⟩ := rejected
  refine ⟨⟨⟨calm, spare.trans_le fuller⟩, near⟩, ?_⟩
  exact ConfigFile.PredictionConfig.rejectsExtreme_mono faster surer trusted extreme

end gates

/-- The check against the median only ever puts an end off. -/
theorem le_of_mem_checkMedian {freePct minutes checked : ℝ}
    (kept : checked ∈ policy.checkMedian estimate freePct minutes)
    : minutes ≤ checked := by
  unfold checkMedian at kept
  dsimp only at kept
  split at kept
  · split at kept
    · split at kept
      · cases kept
      · cases kept
        rw [real_max]
        exact le_max_left _ _
    · cases kept
      exact le_rfl
  · cases kept
    exact le_rfl

theorem checkMedian_mono {low high minutes late : ℝ} (fuller : low ≤ high)
    (kept : late ∈ policy.checkMedian estimate high minutes)
    : ∃ early ∈ policy.checkMedian estimate low minutes, early ≤ late := by
  have puts := policy.le_of_mem_checkMedian estimate kept
  unfold checkMedian at kept ⊢
  dsimp only at kept ⊢
  by_cases checks : (estimate.burstState.calibrated
      && Float64.gt estimate.burstState.medianRate 0.0 && Float64.gt low 25.0
      && Float64.le minutes policy.config.warningHorizonMinutes) = true
  · have checksHigh : (estimate.burstState.calibrated
        && Float64.gt estimate.burstState.medianRate 0.0 && Float64.gt high 25.0
        && Float64.le minutes policy.config.warningHorizonMinutes) = true := by
      simp only [Bool.and_eq_true, real_gt_iff] at checks ⊢
      exact ⟨⟨checks.1.1, checks.1.2.trans_le fuller⟩, checks.2⟩
    rw [if_pos checksHigh] at kept
    rw [if_pos checks]
    exact ⟨late, kept, le_rfl⟩
  · rw [if_neg checks]
    exact ⟨minutes, rfl, puts⟩

section projections

variable [ProjectingFloat64 ℝ] {unsure sure low high : ℝ} (surer : unsure ≤ sure)

include surer

/-- The penalty of a burst leaves the order of confidences as it is. -/
theorem projectBurst_noLater (likely : estimate.burstState.burstProbability ≤ 1)
    : NoLater (policy.projectBurst { estimate with confidence := sure })
        (policy.projectBurst { estimate with confidence := unsure }) := by
  have factor : (0 : ℝ) ≤ Float64.mulAdd 0.3 (-estimate.burstState.burstProbability) 1.0 := by
    rw [real_mulAdd]
    norm_num [real_literal, decimalValue]
    linarith
  have effective := mul_le_mul_of_nonneg_right surer factor
  unfold projectBurst
  dsimp only
  refine NoLater.gate id fun _ => NoLater.gate id fun _ => NoLater.gate ?_ fun _ => ?_
  · intro cleared
    rw [real_lt_iff] at cleared ⊢
    exact effective.trans_lt cleared
  · exact NoLater.of_some le_rfl

omit [ProjectingFloat64 ℝ] in
theorem projectSteady_noLater (trusted : policy.config.minConfidence ≤ sure) (fuller : low ≤ high)
    : NoLater (policy.projectSteady { estimate with confidence := sure } low)
        (policy.projectSteady { estimate with confidence := unsure } high) := by
  unfold projectSteady
  dsimp only
  refine NoLater.gate id fun sound => ?_
  have ahead : (0 : ℝ) ≤ estimate.secondsToExhaustion / 60.0 := by
    have reached := real_not_lt_iff.mp (Bool.or_eq_false_iff.mp sound).2
    norm_num [real_literal, decimalValue] at reached ⊢
    exact reached
  refine NoLater.gate ?_ fun _ => NoLater.gate ?_ fun _ => ?_
  · exact policy.rejectsImplied_mono surer fuller ahead trusted
  · exact policy.rejectsUncorroborated_mono estimate surer fuller ahead trusted
  · intro late projected
    obtain ⟨minutes, kept, rfl⟩ := Option.mem_map.mp projected
    obtain ⟨early, found, le⟩ := policy.checkMedian_mono { estimate with confidence := sure }
      fuller kept
    exact ⟨(early, sure), Option.mem_map.mpr ⟨early, found, rfl⟩, le⟩

/-- With more confidence or less free, nothing is projected later or cleared. -/
theorem project_noLater (likely : estimate.burstState.burstProbability ≤ 1) (fuller : low ≤ high)
    (sampleCount : Option Nat)
    : NoLater (policy.project { estimate with confidence := sure } low sampleCount)
        (policy.project { estimate with confidence := unsure } high sampleCount) := by
  unfold project
  refine NoLater.gate (policy.untrusted_mono estimate surer fuller sampleCount) fun passed => ?_
  have trusted : policy.config.minConfidence ≤ sure := by
    unfold untrusted at passed
    simp only [Bool.or_eq_false_iff] at passed
    exact (real_not_lt_iff.mp passed.1.1.1.1.2).trans surer
  dsimp only
  split
  · exact policy.projectBurst_noLater estimate surer likely
  · exact policy.projectSteady_noLater estimate surer trusted fuller

theorem severity_evaluateWithSamples_mono (likely : estimate.burstState.burstProbability ≤ 1)
    (fuller : low ≤ high) (mount : Location) (sampleCount : Option Nat)
    : (policy.evaluateWithSamples { estimate with confidence := unsure } high mount
          sampleCount).severity
        ≤ (policy.evaluateWithSamples { estimate with confidence := sure } low mount
          sampleCount).severity := by
  have sooner := policy.project_noLater estimate surer likely fuller sampleCount
  unfold evaluateWithSamples
  cases late : policy.project { estimate with confidence := unsure } high sampleCount with
  | none => exact Nat.zero_le _
  | some later =>
      obtain ⟨earlier, found, le⟩ := sooner later late
      rw [Option.mem_def.mp found]
      exact policy.severity_classify_antitone le _ _ _ _ _

end projections

end PredictiveActionPolicy

namespace DiskRateEstimator

section estimates

variable [ProjectingFloat64 ℝ]

theorem default_burstProbability_le_one
    : (BurstState.default : BurstState ℝ).burstProbability ≤ 1 := by
  unfold BurstState.default
  norm_num [real_literal, decimalValue]

end estimates

end DiskRateEstimator

/-- A policy that starts at a confidence of 0.7, and an estimate of a steady trend below it. -/
def PredictiveActionPolicy.cautious {F : Type} [Float64 F] : PredictiveActionPolicy F where
  config := {
    enabled := true
    actionHorizonMinutes := 30.0
    warningHorizonMinutes := 60.0
    minConfidence := 0.7
    minSamples := 5
    imminentDangerMinutes := 5.0
    criticalDangerMinutes := 2.0
    burstMinConfidence := 0.85 }

/-- Full in ten minutes by a steady trend. -/
def RateEstimate.filling {F : Type} [Float64 F] [ProjectingFloat64 F] (confidence : F)
    : RateEstimate F where
  bytesPerSecond := 1000.0
  acceleration := 0.0
  secondsToExhaustion := 600.0
  secondsToThreshold := 600.0
  sampleCount := 20
  confidence
  trend := .stable
  alphaUsed := 0.3
  fallbackActive := false
  burstState := .default

/-- It goes from no action to a cleanup as the confidence passes 0.7. -/
example
    : (PredictiveActionPolicy.cautious.evaluate (RateEstimate.filling (0.6 : Float)) 10.0
        .root).severity = 0
      ∧ (PredictiveActionPolicy.cautious.evaluate (RateEstimate.filling (0.8 : Float)) 10.0
        .root).severity = 2 := by
  decide +kernel

end StorageBallast
