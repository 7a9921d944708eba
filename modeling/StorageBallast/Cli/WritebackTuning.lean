import StorageBallast.Cli.Tuning
import StorageBallast.Core.ConfigUpdates
import StorageBallast.Foundations.WholeSteps

/-! Kernel writeback limits: a plan is sized from a bandwidth estimate, and it is proposed where the
kernel allows far more dirty pages than it.
-/

namespace StorageBallast.Writeback

open scoped Float64
open ConfigFile (SystemTuningConfig)
open Tuning (Recommendation)
open WholeSteps

def mib : Nat := 1024 * 1024

def gib : Nat := 1024 * mib

theorem mib_pos : 0 < mib := by decide

/-- `u64::saturating_mul`. -/
def saturatingMul (a b : Nat) : Nat := min (a * b) (2 ^ 64 - 1)

inductive BandwidthSource where
  | measured
  | heuristicNvme
  | heuristicSsd
  | heuristicHdd
  | heuristicUnknown
deriving DecidableEq, Repr

def BandwidthSource.label : BandwidthSource → String
  | .measured => "measured"
  | .heuristicNvme => "heuristic: nvme"
  | .heuristicSsd => "heuristic: ssd"
  | .heuristicHdd => "heuristic: hdd"
  | .heuristicUnknown => "heuristic: unknown device"

/-- The kernel's dirty-page limits. -/
structure WritebackState where
  dirtyRatio : Option Nat
  dirtyBackgroundRatio : Option Nat
  dirtyBytes : Option Nat
  dirtyBackgroundBytes : Option Nat
  totalRamBytes : Nat
deriving DecidableEq, Repr

structure WritebackPlan where
  dirtyBytes : Nat
  dirtyBackgroundBytes : Nat
  bandwidthBytesPerSec : Nat
  bandwidthSource : BandwidthSource
deriving DecidableEq, Repr

def roundToMib (bytes : Nat) : Nat := wholeSteps mib bytes * mib

section plans

variable {F : Type} [Float64 F] [RoundingFloat64 F]

def rawBackground (bandwidthBytesPerSec : Nat) (cfg : SystemTuningConfig F) : Nat :=
  RoundingFloat64.toNat (Float64.ofNat bandwidthBytesPerSec * cfg.writebackTargetDrainSecs)

/-- There is no plan where `clamp` panics. -/
def planFromBandwidth (bandwidthBytesPerSec : Nat) (bandwidthSource : BandwidthSource)
    (cfg : SystemTuningConfig F) : Option WritebackPlan :=
  if cfg.writebackMinBackgroundBytes ≤ cfg.writebackMaxBackgroundBytes then
    let clamped := clamp cfg.writebackMinBackgroundBytes cfg.writebackMaxBackgroundBytes
      (rawBackground bandwidthBytesPerSec cfg)
    let background := roundToMib clamped
    some {
      dirtyBytes := saturatingMul background (max cfg.writebackHardRatio 1)
      dirtyBackgroundBytes := background
      bandwidthBytesPerSec
      bandwidthSource }
  else none

end plans

section bounds

variable {F : Type} [Float64 F] [RoundingFloat64 F]

def backgroundMib (bandwidthBytesPerSec : Nat) (cfg : SystemTuningConfig F) : Nat :=
  wholeSteps mib (clamp cfg.writebackMinBackgroundBytes cfg.writebackMaxBackgroundBytes
    (rawBackground bandwidthBytesPerSec cfg))

/-- A plan keeps the bounds of the configuration: the background limit is some whole MiB between
them, and the hard limit is so many times as large, so it is larger.
-/
structure KeepsBounds (cfg : SystemTuningConfig F) (plan : WritebackPlan) : Prop where
  positive : 0 < plan.dirtyBackgroundBytes
  whole : mib ∣ plan.dirtyBackgroundBytes
  floor : cfg.writebackMinBackgroundBytes ≤ plan.dirtyBackgroundBytes
  ceiling : plan.dirtyBackgroundBytes ≤ cfg.writebackMaxBackgroundBytes
  hard : plan.dirtyBytes = cfg.writebackHardRatio * plan.dirtyBackgroundBytes
  above : plan.dirtyBackgroundBytes < plan.dirtyBytes

/-- The configuration with real arithmetic and another drain time. -/
def overReals (cfg : SystemTuningConfig F) (drain : ℝ) : SystemTuningConfig ℝ where
  writebackTargetDrainSecs := drain
  writebackHardRatio := cfg.writebackHardRatio
  writebackMinBackgroundBytes := cfg.writebackMinBackgroundBytes
  writebackMaxBackgroundBytes := cfg.writebackMaxBackgroundBytes
  writebackBenchmarkBytes := cfg.writebackBenchmarkBytes
  writebackPoolWarnBytes := cfg.writebackPoolWarnBytes
  writebackSysctlPath := cfg.writebackSysctlPath

/-- More bandwidth or more time lower neither limit. -/
def MonotoneOverReals (cfg : SystemTuningConfig F) : Prop :=
  ∀ (bandwidth faster : Nat) (drain longer : ℝ) (source : BandwidthSource)
    (plan larger : WritebackPlan), bandwidth ≤ faster → 0 < drain → drain ≤ longer
    → planFromBandwidth bandwidth source (overReals cfg drain) = some plan
    → planFromBandwidth faster source (overReals cfg longer) = some larger
    → plan.dirtyBackgroundBytes ≤ larger.dirtyBackgroundBytes
      ∧ plan.dirtyBytes ≤ larger.dirtyBytes

def unheldMib (ratio : Nat) : Nat := (2 ^ 44 + ratio - 1) / ratio

/-- What keeps a plan within its bounds. -/
structure Fitting (cfg : SystemTuningConfig F) (bandwidth : Nat) : Prop where
  /-- One MiB is below the upper bound. -/
  roomy : mib ≤ cfg.writebackMaxBackgroundBytes
  /-- The lower bound is not lost by rounding. -/
  reached
    : cfg.writebackMinBackgroundBytes ≤ mib ∨ mib ∣ cfg.writebackMinBackgroundBytes
      ∨ roundUp mib cfg.writebackMinBackgroundBytes ≤ rawBackground bandwidth cfg
        ∧ roundUp mib cfg.writebackMinBackgroundBytes ≤ cfg.writebackMaxBackgroundBytes
  /-- The hard limit is held by 64 bits. -/
  held
    : cfg.writebackMinBackgroundBytes < unheldMib cfg.writebackHardRatio * mib
      ∧ (rawBackground bandwidth cfg < unheldMib cfg.writebackHardRatio * mib
        ∨ cfg.writebackMaxBackgroundBytes < unheldMib cfg.writebackHardRatio * mib)

/-- The bounds that the checks have made sure of. -/
structure Accepted (cfg : SystemTuningConfig F) : Prop where
  ratio : 2 ≤ cfg.writebackHardRatio ∧ cfg.writebackHardRatio ≤ 64
  range : cfg.writebackMinBackgroundBytes ≤ cfg.writebackMaxBackgroundBytes

variable {cfg : SystemTuningConfig F}

omit [RoundingFloat64 F] in
theorem Accepted.of_validate [DecimalFloat64 F]
    (accepted : cfg.validate = .ok ()) : Accepted cfg := by
  simp only [SystemTuningConfig.validate, Checks.bind_eq_ok, ConfigFile.refuse_eq_ok,
    Bool.or_eq_false_iff, decide_eq_false_iff_not, not_lt] at accepted
  obtain ⟨_, _, _, ratio, _, _, _, range, _⟩ := accepted
  exact ⟨ratio, range⟩

def sizedPlan (bandwidth : Nat) (source : BandwidthSource) (cfg : SystemTuningConfig F)
    : WritebackPlan where
  dirtyBytes := saturatingMul (backgroundMib bandwidth cfg * mib) cfg.writebackHardRatio
  dirtyBackgroundBytes := backgroundMib bandwidth cfg * mib
  bandwidthBytesPerSec := bandwidth
  bandwidthSource := source

theorem planFromBandwidth_eq (accepted : Accepted cfg) (bandwidth : Nat) (source : BandwidthSource)
    : planFromBandwidth bandwidth source cfg = some (sizedPlan bandwidth source cfg) := by
  have several : max cfg.writebackHardRatio 1 = cfg.writebackHardRatio :=
    max_eq_left (by have := accepted.ratio; omega)
  rw [planFromBandwidth, if_pos accepted.range, several]
  rfl

theorem saturatingMul_eq_iff {a b : Nat} : saturatingMul a b = a * b ↔ a * b < 2 ^ 64 := by
  unfold saturatingMul
  omega

theorem saturatingMul_mono {a b c : Nat} (below : a ≤ b) : saturatingMul a c ≤ saturatingMul b c :=
  min_le_min_right _ (Nat.mul_le_mul_right c below)

/-- So many MiB times the ratio are held by 64 bits up to a bound. -/
theorem mul_mib_lt_iff {n ratio : Nat} (positive : 0 < ratio)
    : n * mib * ratio < 2 ^ 64 ↔ n < unheldMib ratio := by
  have quotient : n + 1 ≤ unheldMib ratio ↔ (n + 1) * ratio ≤ 2 ^ 44 + ratio - 1 :=
    Nat.le_div_iff_mul_le positive
  have scaled : n * mib * ratio = n * ratio * 2 ^ 20 := by
    unfold mib
    ring
  rw [Nat.succ_mul] at quotient
  omega

theorem several_le_unheldMib {ratio : Nat} (positive : 0 < ratio) (small : ratio ≤ 64)
    : 1 < unheldMib ratio := by
  have held := mul_mib_lt_iff (n := 1) positive
  rw [Nat.one_mul, mib] at held
  omega

theorem keepsBounds_planFromBandwidth_iff (accepted : Accepted cfg)
    (bandwidth : Nat) (source : BandwidthSource)
    : (∃ plan, planFromBandwidth bandwidth source cfg = some plan ∧ KeepsBounds cfg plan)
      ↔ Fitting cfg bandwidth := by
  obtain ⟨few, many⟩ := accepted.ratio
  have confined := clamp_between (x := rawBackground bandwidth cfg) accepted.range
  have floorIff := low_le_wholeSteps_clamp_iff (x := rawBackground bandwidth cfg) mib_pos
    accepted.range
  have ceilingIff := wholeSteps_mul_le_iff mib_pos confined.2 confined.1
  have several := @several_le_unheldMib cfg.writebackHardRatio (by omega) many
  have heldIff : saturatingMul (backgroundMib bandwidth cfg * mib) cfg.writebackHardRatio
        = backgroundMib bandwidth cfg * mib * cfg.writebackHardRatio
      ↔ cfg.writebackMinBackgroundBytes < unheldMib cfg.writebackHardRatio * mib
        ∧ (rawBackground bandwidth cfg < unheldMib cfg.writebackHardRatio * mib
          ∨ cfg.writebackMaxBackgroundBytes < unheldMib cfg.writebackHardRatio * mib) := by
    rw [saturatingMul_eq_iff, mul_mib_lt_iff (by omega), backgroundMib,
      wholeSteps_lt_iff mib_pos several, clamp_lt_iff accepted.range]
  rw [planFromBandwidth_eq accepted]
  constructor
  · rintro ⟨plan, planned, bounds⟩
    obtain rfl := Option.some.inj planned
    refine ⟨ceilingIff.mp bounds.ceiling, floorIff.mp bounds.floor, heldIff.mp ?_⟩
    rw [Nat.mul_comm (backgroundMib bandwidth cfg * mib)]
    exact bounds.hard
  · intro fitting
    have positive : 0 < backgroundMib bandwidth cfg * mib :=
      Nat.mul_pos one_le_wholeSteps mib_pos
    have hard := heldIff.mpr fitting.held
    refine ⟨_, rfl, positive, Nat.dvd_mul_left mib _, floorIff.mpr fitting.reached,
      ceilingIff.mpr fitting.roomy, ?_, ?_⟩
    · rw [sizedPlan, hard, Nat.mul_comm]
    · rw [sizedPlan, hard]
      exact lt_mul_of_one_lt_right positive (by omega)

omit [Float64 F] [RoundingFloat64 F] in
theorem rawBackground_overReals_mono {bandwidth faster : Nat}
    {drain longer : ℝ} (more : bandwidth ≤ faster) (positive : 0 < drain) (time : drain ≤ longer)
    : rawBackground bandwidth (overReals cfg drain) ≤ rawBackground faster (overReals cfg longer) := by
  have product : (bandwidth : ℝ) * drain ≤ (faster : ℝ) * longer :=
    mul_le_mul (by exact_mod_cast more) time positive.le (Nat.cast_nonneg faster)
  exact min_le_min_right _ (Int.toNat_le_toNat (Int.floor_le_floor product))

omit [Float64 F] [RoundingFloat64 F] in
theorem monotoneOverReals (cfg : SystemTuningConfig F) : MonotoneOverReals cfg := by
  intro bandwidth faster drain longer source plan larger more positive time planned plannedLarger
  have raw := @rawBackground_overReals_mono F cfg _ _ _ _ more positive time
  unfold planFromBandwidth at planned plannedLarger
  by_cases range : cfg.writebackMinBackgroundBytes ≤ cfg.writebackMaxBackgroundBytes
  · have same (time : ℝ) : (overReals cfg time).writebackMinBackgroundBytes
        ≤ (overReals cfg time).writebackMaxBackgroundBytes := range
    rw [if_pos (same drain)] at planned
    rw [if_pos (same longer)] at plannedLarger
    obtain rfl := Option.some.inj planned
    obtain rfl := Option.some.inj plannedLarger
    have background := Nat.mul_le_mul_right mib
      (@wholeSteps_mono mib _ _ (clamp_mono range raw))
    exact ⟨background, saturatingMul_mono background⟩
  · rw [if_neg (show ¬(overReals cfg drain).writebackMinBackgroundBytes
      ≤ (overReals cfg drain).writebackMaxBackgroundBytes from range)] at planned
    cases planned

/-- A plan for an accepted configuration keeps its bounds, and gets no smaller with the bandwidth or
the time, if and only if rounding and the ratio fit in between the bounds.
-/
theorem plan_respected_iff [DecimalFloat64 F] {cfg : SystemTuningConfig F}
    (accepted : cfg.validate = .ok ()) (bandwidth : Nat) (source : BandwidthSource)
    : (∃ plan, planFromBandwidth bandwidth source cfg = some plan ∧ KeepsBounds cfg plan)
        ∧ MonotoneOverReals cfg
      ↔ Fitting cfg bandwidth := by
  rw [keepsBounds_planFromBandwidth_iff (Accepted.of_validate accepted)]
  exact and_iff_left (monotoneOverReals cfg)

end bounds

def defaultTuning : SystemTuningConfig ℚ where
  writebackTargetDrainSecs := 1
  writebackHardRatio := 4
  writebackMinBackgroundBytes := 256 * mib
  writebackMaxBackgroundBytes := 2 * gib
  writebackBenchmarkBytes := 96 * mib
  writebackPoolWarnBytes := 4 * gib
  writebackSysctlPath := ⟨"/etc/sysctl.d/99-sbh-writeback.conf"⟩

theorem defaultTuning_accepted : defaultTuning.validate = .ok () := by
  simp only [SystemTuningConfig.validate, Checks.bind_eq_ok, ConfigFile.refuse_eq_ok]
  refine ⟨(), ?_, (), ?_, (), ?_, (), ?_, (), ?_, (), ?_, ?_⟩
  all_goals decide +kernel

theorem plan_respected_at_default
    : defaultTuning.validate = .ok ()
      ∧ ((∃ plan, planFromBandwidth (512 * mib) .heuristicSsd defaultTuning = some plan
          ∧ KeepsBounds defaultTuning plan) ∧ MonotoneOverReals defaultTuning
        ↔ Fitting defaultTuning (512 * mib)) := by
  exact ⟨defaultTuning_accepted,
    plan_respected_iff defaultTuning_accepted (512 * mib) .heuristicSsd⟩

/-- Bounds of 4 and 8 KiB, which leave no room for one MiB. -/
def narrowTuning : SystemTuningConfig ℚ :=
  { defaultTuning with
    writebackMinBackgroundBytes := 4096
    writebackMaxBackgroundBytes := 8192 }

theorem bounds_exceeded
    : ¬ ∀ (cfg : SystemTuningConfig ℚ) (bandwidth : Nat) (source : BandwidthSource),
      cfg.validate = .ok ()
      → (∃ plan, planFromBandwidth bandwidth source cfg = some plan ∧ KeepsBounds cfg plan)
        ∧ MonotoneOverReals cfg := by
  intro respected
  have accepted : narrowTuning.validate = .ok () := by
    simp only [SystemTuningConfig.validate, Checks.bind_eq_ok, ConfigFile.refuse_eq_ok]
    refine ⟨(), ?_, (), ?_, (), ?_, (), ?_, (), ?_, (), ?_, ?_⟩
    all_goals decide +kernel
  obtain ⟨⟨plan, planned, bounds⟩, _⟩ := respected narrowTuning (512 * mib) .heuristicSsd accepted
  have fitting := (keepsBounds_planFromBandwidth_iff (Accepted.of_validate accepted)
    (512 * mib) .heuristicSsd).mp ⟨plan, planned, bounds⟩
  exact absurd fitting.roomy (by decide)

end StorageBallast.Writeback
