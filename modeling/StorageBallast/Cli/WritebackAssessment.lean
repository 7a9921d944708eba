import StorageBallast.Cli.WritebackTuning

/-! Whether the kernel's writeback limits are to be changed, and to what. The decision is made with
the bandwidth of the device's class, and the plan may be made with a measured one.
-/

namespace StorageBallast.Writeback

open scoped Float64
open ConfigFile (SystemTuningConfig)
open Texts (contains toAsciiLowercase)
open Tuning (Recommendation)
open WholeSteps

namespace WritebackState

def byteModeActive (self : WritebackState) : Bool := 0 < self.dirtyBytes.getD 0

def shareOfRam (self : WritebackState) (ratio : Option Nat) : Nat :=
  min (self.totalRamBytes * ratio.getD 0 / 100) (2 ^ 64 - 1)

def effectiveDirtyPoolBytes (self : WritebackState) : Nat :=
  match self.dirtyBytes.filter (0 < ·) with
  | some bytes => bytes
  | none => self.shareOfRam self.dirtyRatio

def currentBackgroundBytes (self : WritebackState) : Nat :=
  match self.dirtyBackgroundBytes.filter (0 < ·) with
  | some bytes => bytes
  | none => self.shareOfRam self.dirtyBackgroundRatio

/-- The limits after a plan was applied: limits in bytes put the ratios to zero. -/
def applied (self : WritebackState) (plan : WritebackPlan) : WritebackState :=
  { self with
    dirtyRatio := some 0
    dirtyBackgroundRatio := some 0
    dirtyBytes := some plan.dirtyBytes
    dirtyBackgroundBytes := some plan.dirtyBackgroundBytes }

end WritebackState

structure BlockDeviceInfo where
  device : String
  fsType : String
  rotational : Option Bool
deriving DecidableEq, Repr

def heuristicBytesPerSec (rotational : Option Bool) (deviceName : String)
    : Nat × BandwidthSource :=
  if contains (toAsciiLowercase deviceName) "nvme" then (gib + gib / 2, .heuristicNvme)
  else
    match rotational with
    | some false => (512 * mib, .heuristicSsd)
    | some true => (150 * mib, .heuristicHdd)
    | none => (400 * mib, .heuristicUnknown)

def isCowFilesystem (fsType : String) : Bool :=
  toAsciiLowercase fsType == "btrfs" || toAsciiLowercase fsType == "zfs"

/-- What is asked of the platform, where nothing is answered by an error: the kernel's limits,
whether the probed path is in memory, its device, the space that is left there, and the bandwidth
that a benchmark measures.
-/
structure WritebackHost where
  state : Option WritebackState
  ramBacked : Option Bool
  device : Option BlockDeviceInfo
  availableBytes : Option Nat
  measured : Option Nat
deriving DecidableEq, Repr

def WritebackHost.applied (host : WritebackHost) (plan : WritebackPlan) : WritebackHost :=
  { host with state := host.state.map (·.applied plan) }

structure WritebackConfig (F : Type) extends SystemTuningConfig F where
  writebackEnabled : Bool
  writebackBenchmarkEnabled : Bool

def WritebackHost.heuristic (host : WritebackHost) : Nat × BandwidthSource :=
  match host.device with
  | none => heuristicBytesPerSec none ""
  | some info => heuristicBytesPerSec info.rotational info.device

section deciding

variable {F : Type} [Float64 F] [RoundingFloat64 F]

def humanBytes (F : Type) [Float64 F] (bytes : Nat) : String :=
  if gib ≤ bytes then Float64.toFixed 1 (Float64.ofNat bytes / Float64.ofNat gib : F) ++ " GiB"
  else if mib ≤ bytes then
    Float64.toFixed 0 (Float64.ofNat bytes / Float64.ofNat mib : F) ++ " MiB"
  else toString bytes ++ " B"

def estimateWritebackBandwidth (cfg : WritebackConfig F) (host : WritebackHost) (measure : Bool)
    : Nat × BandwidthSource :=
  match if measure && cfg.writebackBenchmarkEnabled then host.measured else none with
  | some bps => (bps, .measured)
  | none => host.heuristic

structure WritebackAssessment where
  needsTuning : Bool
  currentPoolBytes : Nat
  reasons : List String
  cowFilesystem : Bool
deriving DecidableEq, Repr

def assessReason (state : WritebackState) (plan : WritebackPlan) (cfg : SystemTuningConfig F)
    : Option String :=
  if state.byteModeActive then
    let current := state.dirtyBytes.getD 0
    if saturatingMul plan.dirtyBytes 2 < current then
      some ("vm.dirty_bytes is " ++ humanBytes F current ++ " — far above the "
        ++ humanBytes F plan.dirtyBytes
        ++ " recommended here; large dirty pools still flush in bursts that stall interactive I/O.")
    else none
  else if cfg.writebackPoolWarnBytes < state.effectiveDirtyPoolBytes then
    some ("Percentage-based vm.dirty_ratio=" ++ toString (state.dirtyRatio.getD 0)
      ++ "% lets ~" ++ humanBytes F state.effectiveDirtyPoolBytes
      ++ " of dirty pages accumulate on this " ++ humanBytes F state.totalRamBytes
      ++ " host before writeback throttles; they flush in bursts via kernel "
      ++ "writeback threads that ignore ionice, stalling interactive I/O.")
  else none

def assess (state : WritebackState) (plan : WritebackPlan) (cfg : SystemTuningConfig F)
    (fsType : String) : WritebackAssessment :=
  let reason := assessReason state plan cfg
  let cow := if reason.isSome && isCowFilesystem fsType then
    ["Backing filesystem is " ++ fsType ++ " (copy-on-write): its writeback threads run "
      ++ "outside the ionice class of the build processes, so this matters more here."]
    else []
  { needsTuning := reason.isSome
    currentPoolBytes := state.effectiveDirtyPoolBytes
    reasons := reason.toList ++ cow
    cowFilesystem := isCowFilesystem fsType }

structure WritebackTuning (F : Type) where
  plan : WritebackPlan
  recommendations : List (Recommendation F)

def recommendationsFor (cfg : SystemTuningConfig F) (state : WritebackState)
    (assessment : WritebackAssessment) (plan : WritebackPlan) : List (Recommendation F) :=
  [ { category := .kernelWriteback
      configKey := "vm.dirty_bytes"
      currentValue := humanBytes F state.effectiveDirtyPoolBytes
      suggestedValue := humanBytes F plan.dirtyBytes
      rationale :=
        " ".intercalate assessment.reasons ++ " Set vm.dirty_bytes=" ++ toString plan.dirtyBytes
          ++ " (" ++ humanBytes F plan.dirtyBytes
          ++ ") for continuous, gentle writeback instead of multi-GB bursts."
      confidence := 0.9
      risk := .medium },
    { category := .kernelWriteback
      configKey := "vm.dirty_background_bytes"
      currentValue := humanBytes F state.currentBackgroundBytes
      suggestedValue := humanBytes F plan.dirtyBackgroundBytes
      rationale :=
        "Begin background writeback at " ++ toString plan.dirtyBackgroundBytes ++ " ("
          ++ humanBytes F plan.dirtyBackgroundBytes ++ "); sized from a "
          ++ humanBytes F plan.bandwidthBytesPerSec ++ "/s estimate ("
          ++ plan.bandwidthSource.label ++ ") with a "
          ++ Float64.toFixed 1 cfg.writebackTargetDrainSecs ++ "s drain target."
      confidence := 0.9
      risk := .medium } ]

def WritebackHost.benchmarks (host : WritebackHost) (cfg : SystemTuningConfig F)
    (measure : Bool) : Bool :=
  measure && !host.ramBacked.getD false
    && host.availableBytes.any (saturatingMul cfg.writebackBenchmarkBytes 2 ≤ ·)

/-- `build_writeback_tuning`; there is no result where making a plan panics. -/
def buildWritebackTuning (cfg : WritebackConfig F) (host : WritebackHost) (measure : Bool)
    : Option (Option (WritebackTuning F)) :=
  match if cfg.writebackEnabled then host.state else none with
  | none => some none
  | some state => do
      let (heuristicBps, heuristicSource) := estimateWritebackBandwidth cfg host false
      let heuristicPlan ← planFromBandwidth heuristicBps heuristicSource cfg.toSystemTuningConfig
      let fsType := (host.device.map (·.fsType)).getD ""
      let assessment := assess state heuristicPlan cfg.toSystemTuningConfig fsType
      if assessment.needsTuning then
        let plan ←
          if host.benchmarks cfg.toSystemTuningConfig measure then
            let (bps, source) := estimateWritebackBandwidth cfg host true
            planFromBandwidth bps source cfg.toSystemTuningConfig
          else some heuristicPlan
        some (some {
          plan
          recommendations :=
            recommendationsFor cfg.toSystemTuningConfig state assessment plan })
      else some none

/-- The kernel allows more dirty pages than is sensible for the device. -/
def Warranted (cfg : SystemTuningConfig F) (state : WritebackState) (bandwidth : Nat) : Prop :=
  if state.byteModeActive then
    saturatingMul
        (saturatingMul (backgroundMib bandwidth cfg * mib) cfg.writebackHardRatio) 2
      < state.dirtyBytes.getD 0
  else cfg.writebackPoolWarnBytes < state.effectiveDirtyPoolBytes

def WritebackHost.benchmarked (host : WritebackHost) (cfg : WritebackConfig F) (measure : Bool)
    : Option Nat :=
  if host.benchmarks cfg.toSystemTuningConfig measure && cfg.writebackBenchmarkEnabled then
    host.measured
  else none

def WritebackHost.chosen (host : WritebackHost) (cfg : WritebackConfig F) (measure : Bool)
    : Nat × BandwidthSource :=
  match host.benchmarked cfg measure with
  | some bps => (bps, .measured)
  | none => host.heuristic

def proposedPlan (cfg : WritebackConfig F) (host : WritebackHost) (measure : Bool)
    : WritebackPlan :=
  sizedPlan (host.chosen cfg measure).1 (host.chosen cfg measure).2 cfg.toSystemTuningConfig

variable {cfg : SystemTuningConfig F}

theorem assess_needsTuning_iff {state : WritebackState}
    {bandwidth : Nat} {source : BandwidthSource} {fsType : String}
    : (assess state (sizedPlan bandwidth source cfg) cfg fsType).needsTuning = true
      ↔ Warranted cfg state bandwidth := by
  unfold assess assessReason Warranted sizedPlan
  dsimp only
  split
  next => split <;> simp_all
  next => split <;> simp_all

theorem buildWritebackTuning_of_disabled {cfg : WritebackConfig F} {host : WritebackHost}
    {measure : Bool} (disabled : cfg.writebackEnabled = false ∨ host.state = none)
    : buildWritebackTuning cfg host measure = some none := by
  unfold buildWritebackTuning
  rcases disabled with off | unsupported
  · rw [off]
    rfl
  · rw [unsupported, ite_self]

section enabled

variable {cfg : WritebackConfig F} {host : WritebackHost} {measure : Bool}
  {state : WritebackState}

omit [Float64 F] [RoundingFloat64 F] in
theorem estimate_unmeasured : estimateWritebackBandwidth cfg host false = host.heuristic := by
  simp [estimateWritebackBandwidth]

theorem buildWritebackTuning_of_unwarranted (accepted : Accepted cfg.toSystemTuningConfig)
    (enabled : cfg.writebackEnabled = true) (known : host.state = some state)
    (healthy : ¬Warranted cfg.toSystemTuningConfig state host.heuristic.1)
    : buildWritebackTuning cfg host measure = some none := by
  unfold buildWritebackTuning
  rw [if_pos enabled, known, estimate_unmeasured]
  simp only [planFromBandwidth_eq accepted, Option.bind_eq_bind, Option.bind_some]
  exact if_neg fun needs => healthy (assess_needsTuning_iff.mp needs)

theorem buildWritebackTuning_of_warranted (accepted : Accepted cfg.toSystemTuningConfig)
    (enabled : cfg.writebackEnabled = true) (known : host.state = some state)
    (warranted : Warranted cfg.toSystemTuningConfig state host.heuristic.1)
    : ∃ recommendations, buildWritebackTuning cfg host measure
      = some (some ⟨proposedPlan cfg host measure, recommendations⟩) := by
  unfold buildWritebackTuning
  rw [if_pos enabled, known, estimate_unmeasured]
  simp only [planFromBandwidth_eq accepted, Option.bind_eq_bind, Option.bind_some]
  rw [if_pos (assess_needsTuning_iff.mpr warranted)]
  unfold proposedPlan WritebackHost.chosen WritebackHost.benchmarked estimateWritebackBandwidth
  cases host.benchmarks cfg.toSystemTuningConfig measure with
  | false => exact ⟨_, rfl⟩
  | true =>
      cases cfg.writebackBenchmarkEnabled with
      | false => exact ⟨_, rfl⟩
      | true => cases host.measured <;> exact ⟨_, rfl⟩

end enabled

def Converges (cfg : WritebackConfig F) (host : WritebackHost) (measure : Bool) : Prop :=
  ∀ tuning, buildWritebackTuning cfg host measure = some (some tuning)
    → ∀ again, buildWritebackTuning cfg (host.applied tuning.plan) again = some none

/-- A bandwidth for which the limits are at most twice as large as for another, or as large as 64
bits allow for.
-/
def Near (cfg : SystemTuningConfig F) (heuristic measured : Nat) : Prop :=
  rawBackground measured cfg < (2 * backgroundMib heuristic cfg + 1) * mib
    ∨ cfg.writebackMaxBackgroundBytes < (2 * backgroundMib heuristic cfg + 1) * mib
    ∨ 2 ^ 63 ≤ backgroundMib heuristic cfg * mib * cfg.writebackHardRatio

/-- Limits beyond twice others stay so unless they are saturated. -/
theorem saturatingMul_le_twice_iff {a b ratio : Nat} (positive : 0 < ratio)
    : saturatingMul a ratio ≤ saturatingMul (saturatingMul b ratio) 2
      ↔ a ≤ 2 * b ∨ 2 ^ 63 ≤ b * ratio := by
  have scaled : a ≤ 2 * b ↔ a * ratio ≤ 2 * (b * ratio) := by
    rw [← Nat.mul_assoc]
    exact (Nat.mul_le_mul_right_iff positive).symm
  rw [scaled]
  unfold saturatingMul
  omega

theorem near_iff (accepted : Accepted cfg)
    (heuristic measured : Nat) (source other : BandwidthSource)
    : Near cfg heuristic measured
      ↔ (sizedPlan measured source cfg).dirtyBytes
        ≤ saturatingMul (sizedPlan heuristic other cfg).dirtyBytes 2 := by
  have positive : 0 < cfg.writebackHardRatio := by
    have := accepted.ratio
    omega
  have steps := wholeSteps_clamp_le_twice_iff (x := rawBackground measured cfg)
    (y := rawBackground heuristic cfg) mib_pos accepted.range
  have scaled : backgroundMib measured cfg * mib ≤ 2 * (backgroundMib heuristic cfg * mib)
      ↔ backgroundMib measured cfg ≤ 2 * backgroundMib heuristic cfg := by
    rw [← Nat.mul_assoc]
    exact Nat.mul_le_mul_right_iff mib_pos
  rw [sizedPlan, sizedPlan, saturatingMul_le_twice_iff positive, scaled]
  unfold backgroundMib at steps ⊢
  rw [steps, Near, or_assoc]
  rfl

/-- A plan that was applied is proposed to be changed if and only if it is more than twice the
heuristic one.
-/
theorem warranted_applied_iff (accepted : Accepted cfg)
    (state : WritebackState) (heuristic bandwidth : Nat) (source : BandwidthSource)
    : Warranted cfg (state.applied (sizedPlan bandwidth source cfg)) heuristic
      ↔ ¬Near cfg heuristic bandwidth := by
  have positive : 0 < (sizedPlan bandwidth source cfg).dirtyBytes := by
    have ratio := accepted.ratio
    have some_ : 0 < backgroundMib bandwidth cfg * mib := Nat.mul_pos one_le_wholeSteps mib_pos
    have product : 0 < backgroundMib bandwidth cfg * mib * cfg.writebackHardRatio :=
      Nat.mul_pos some_ (by omega)
    unfold sizedPlan saturatingMul
    dsimp only
    omega
  have limit : (state.applied (sizedPlan bandwidth source cfg)).dirtyBytes
      = some (sizedPlan bandwidth source cfg).dirtyBytes := rfl
  have active : (state.applied (sizedPlan bandwidth source cfg)).byteModeActive = true := by
    rw [WritebackState.byteModeActive, limit, Option.getD_some]
    exact decide_eq_true positive
  rw [near_iff accepted heuristic bandwidth source source, not_le, Warranted, if_pos active, limit,
    Option.getD_some]
  rfl

theorem near_self (cfg : SystemTuningConfig F) (heuristic : Nat)
    (accepted : Accepted cfg) : Near cfg heuristic heuristic := by
  rw [near_iff accepted heuristic heuristic .measured .measured]
  unfold sizedPlan saturatingMul
  dsimp only
  omega

/-- The heuristic bandwidth itself is never too far off. -/
theorem near_chosen_iff {cfg : WritebackConfig F} (accepted : Accepted cfg.toSystemTuningConfig)
    {host : WritebackHost} {measure : Bool}
    : Near cfg.toSystemTuningConfig host.heuristic.1 (host.chosen cfg measure).1
      ↔ ∀ bps, host.benchmarked cfg measure = some bps
        → Near cfg.toSystemTuningConfig host.heuristic.1 bps := by
  unfold WritebackHost.chosen
  cases host.benchmarked cfg measure with
  | none => exact iff_of_true (near_self _ _ accepted) nofun
  | some measured =>
      constructor
      · intro near bps same
        exact Option.some.inj same ▸ near
      · exact fun near => near measured rfl

/-- Where tuning is warranted, it converges if and only if the bandwidth of its plan is near the
heuristic one.
-/
theorem converges_of_warranted_iff {cfg : WritebackConfig F}
    (accepted : Accepted cfg.toSystemTuningConfig) {host : WritebackHost} {measure : Bool}
    (enabled : cfg.writebackEnabled = true) {state : WritebackState}
    (known : host.state = some state)
    (warranted : Warranted cfg.toSystemTuningConfig state host.heuristic.1)
    : Converges cfg host measure
      ↔ Near cfg.toSystemTuningConfig host.heuristic.1 (host.chosen cfg measure).1 := by
  obtain ⟨recommendations, proposed⟩ :=
    @buildWritebackTuning_of_warranted _ _ _ cfg host measure _ accepted enabled known warranted
  have after : (host.applied (proposedPlan cfg host measure)).state
      = some (state.applied (proposedPlan cfg host measure)) := by
    rw [WritebackHost.applied, known, Option.map_some]
  have still := warranted_applied_iff accepted state host.heuristic.1
    (host.chosen cfg measure).1 (host.chosen cfg measure).2
  constructor
  · intro converges
    by_contra far
    obtain ⟨more, again⟩ := @buildWritebackTuning_of_warranted _ _ _ cfg
      (host.applied (proposedPlan cfg host measure)) false _ accepted enabled after (still.mpr far)
    rw [converges _ proposed false] at again
    cases again
  · intro near tuning same again
    obtain rfl := Option.some.inj (Option.some.inj (same.symm.trans proposed))
    exact buildWritebackTuning_of_unwarranted accepted enabled after
      fun warrantedAgain => still.mp warrantedAgain near

/-- Tuning converges if and only if no benchmark measures a bandwidth that is too far above the
heuristic one, as far as tuning is warranted at all.
-/
theorem converges_iff [DecimalFloat64 F] {cfg : WritebackConfig F}
    (accepted : cfg.toSystemTuningConfig.validate = .ok ()) {host : WritebackHost}
    {measure : Bool}
    : Converges cfg host measure
      ↔ (cfg.writebackEnabled = true → ∀ state, host.state = some state
        → Warranted cfg.toSystemTuningConfig state host.heuristic.1
        → ∀ bps, host.benchmarked cfg measure = some bps
        → Near cfg.toSystemTuningConfig host.heuristic.1 bps) := by
  have bounds := Accepted.of_validate accepted
  constructor
  · intro converges enabled state known warranted
    exact (near_chosen_iff bounds).mp
      ((converges_of_warranted_iff bounds enabled known warranted).mp converges)
  · intro near
    cases enabled : cfg.writebackEnabled with
    | false =>
        intro tuning proposed
        rw [buildWritebackTuning_of_disabled (.inl enabled)] at proposed
        cases proposed
    | true =>
        cases known : host.state with
        | none =>
            intro tuning proposed
            rw [buildWritebackTuning_of_disabled (.inr known)] at proposed
            cases proposed
        | some state =>
            by_cases warranted : Warranted cfg.toSystemTuningConfig state host.heuristic.1
            · exact (converges_of_warranted_iff bounds enabled known warranted).mpr
                ((near_chosen_iff bounds).mpr (near enabled state known warranted))
            · intro tuning proposed
              rw [buildWritebackTuning_of_unwarranted bounds enabled known warranted] at proposed
              cases proposed

end deciding

def defaultWriteback : WritebackConfig ℚ :=
  { defaultTuning with
    writebackEnabled := true
    writebackBenchmarkEnabled := true }

def fastHost : WritebackHost where
  state := some {
    dirtyRatio := some 20
    dirtyBackgroundRatio := some 10
    dirtyBytes := some 0
    dirtyBackgroundBytes := some 0
    totalRamBytes := 128 * gib }
  ramBacked := some false
  device := some ⟨"sda", "ext4", some false⟩
  availableBytes := some (100 * gib)
  measured := some (2 * gib)

theorem converges_at_fastHost
    : Converges defaultWriteback fastHost false
      ↔ (defaultWriteback.writebackEnabled = true → ∀ state, fastHost.state = some state
        → Warranted defaultTuning state fastHost.heuristic.1
        → ∀ bps, fastHost.benchmarked defaultWriteback false = some bps
        → Near defaultTuning fastHost.heuristic.1 bps) :=
  @converges_iff _ _ _ _ defaultWriteback defaultTuning_accepted fastHost false

/-- The plan for the measured bandwidth is four times the one for the device's class, so what was
applied is proposed to be lowered.
-/
theorem measured_plan_flagged
    : ¬ ∀ (cfg : WritebackConfig ℚ) (host : WritebackHost) (measure : Bool),
      cfg.toSystemTuningConfig.validate = .ok () → Converges cfg host measure := by
  intro converges
  have accepted := Accepted.of_validate defaultTuning_accepted
  have warranted : Warranted defaultTuning (fastHost.state.get rfl) fastHost.heuristic.1 := by
    unfold Warranted
    decide +kernel
  have near := (@converges_of_warranted_iff _ _ _ defaultWriteback accepted fastHost true rfl _ rfl
    warranted).mp (converges defaultWriteback fastHost true defaultTuning_accepted)
  revert near
  unfold Near
  decide +kernel

end StorageBallast.Writeback
