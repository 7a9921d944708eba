import StorageBallast.Daemon.MountMonitor

/-! Whether a prediction that is disabled still reaches the pressure. Building a monitor leaves
the urgency thresholds at their defaults, and a reload puts them to the greatest number, which
every prediction is below; either way a prediction raises the urgency to its maximum.
-/

namespace StorageBallast

open scoped Float64

variable {F : Type}

/-- What the daemon acts on in a response. -/
structure PressureDecision (F : Type) where
  level : PressureLevel
  urgency : F
  scanInterval : Duration
  releaseBallastFiles : Nat
  maxDeleteBatch : Nat
deriving DecidableEq

def PidResponse.decision (self : PidResponse F) : PressureDecision F where
  level := self.level
  urgency := self.urgency
  scanInterval := self.scanInterval
  releaseBallastFiles := self.releaseBallastFiles
  maxDeleteBatch := self.maxDeleteBatch

structure TwoPredictions (F : Type) where
  reading : PressureReading
  now : Instant
  left : Option F
  right : Option F

namespace TwoPredictions

def leftInput (self : TwoPredictions F) : PidInput F := ⟨self.reading, self.left, self.now⟩

def rightInput (self : TwoPredictions F) : PidInput F := ⟨self.reading, self.right, self.now⟩

end TwoPredictions

variable [Float64 F]

def PidPressureController.decisions [RoundingFloat64 F]
    : PidPressureController F → List (PidInput F) → List (PressureDecision F)
  | _, [] => []
  | controller, input :: rest =>
      (controller.update input).2.decision :: decisions (controller.update input).1 rest

/-- Runs with the same readings and times decide alike, whatever is predicted in them. -/
def PredictionIgnored [RoundingFloat64 F] (controller : PidPressureController F) : Prop :=
  ∀ ticks : List (TwoPredictions F),
    controller.decisions (ticks.map (·.leftInput))
      = controller.decisions (ticks.map (·.rightInput))

def MountMonitor.updated [LimitFloat64 F] (config : DaemonConfig F)
    (updates : List (DaemonConfig F))
    : MountMonitor F :=
  updates.foldl MountMonitor.updateConfig (.new config)

omit [Float64 F] in
def inForce (config : DaemonConfig F) (updates : List (DaemonConfig F)) : DaemonConfig F :=
  updates.foldl (fun _ next => next) config

/-- A controller that has not been updated, with the target of the configuration. -/
structure Unread (config : DaemonConfig F) (controller : PidPressureController F) : Prop where
  integral : controller.integral = 0.0
  lastError : controller.lastError = 0.0
  lastDerivative : controller.lastDerivative = 0.0
  lastUpdate : controller.lastUpdate = none
  kp : controller.kp = 0.25
  ki : controller.ki = 0.08
  kd : controller.kd = 0.02
  integralCap : controller.integralCap = 100.0
  target : controller.targetFreePct = config.pressure.greenMinFreePct

theorem unread_new (config : DaemonConfig F)
    : Unread config (MountMonitor.new config).pressureController := by
  unfold MountMonitor.new
  dsimp only
  split <;> constructor <;> rfl

theorem unread_updateConfig [LimitFloat64 F] {earlier : DaemonConfig F} {monitor : MountMonitor F}
    (unread : Unread earlier monitor.pressureController) (config : DaemonConfig F)
    : Unread config (monitor.updateConfig config).pressureController := by
  have targeted (target : F)
      : (monitor.pressureController.setTargetFreePct target).integral = 0.0
        ∧ (monitor.pressureController.setTargetFreePct target).lastError = 0.0
        ∧ (monitor.pressureController.setTargetFreePct target).lastUpdate = none
        ∧ (monitor.pressureController.setTargetFreePct target).lastDerivative = 0.0
        ∧ (monitor.pressureController.setTargetFreePct target).kp = 0.25
        ∧ (monitor.pressureController.setTargetFreePct target).ki = 0.08
        ∧ (monitor.pressureController.setTargetFreePct target).kd = 0.02
        ∧ (monitor.pressureController.setTargetFreePct target).integralCap = 100.0 := by
    unfold PidPressureController.setTargetFreePct
    split
    · exact ⟨rfl, rfl, rfl, unread.lastDerivative, unread.kp, unread.ki, unread.kd,
        unread.integralCap⟩
    · exact ⟨unread.integral, unread.lastError, unread.lastUpdate, unread.lastDerivative,
        unread.kp, unread.ki, unread.kd, unread.integralCap⟩
  obtain ⟨integral, lastError, lastUpdate, lastDerivative, kp, ki, kd, integralCap⟩ :=
    targeted config.pressure.greenMinFreePct
  unfold MountMonitor.updateConfig
  dsimp only
  split <;>
    exact ⟨integral, lastError, lastDerivative, lastUpdate, kp, ki, kd, integralCap, rfl⟩

/-- What every reload leaves, by induction on the configurations. -/
theorem unread_updated [LimitFloat64 F] (config : DaemonConfig F)
    (updates : List (DaemonConfig F))
    : Unread (inForce config updates) (MountMonitor.updated config updates).pressureController := by
  induction updates using List.reverseRecOn with
  | nil => exact unread_new config
  | append_singleton front next ih =>
      unfold MountMonitor.updated inForce at *
      rw [List.foldl_append, List.foldl_append]
      exact unread_updateConfig ih next

/-- Where the prediction is disabled a second is within the critical time. -/
theorem critical_updated [LimitFloat64 F] [StrictFloat64 F] [LargeLimitFloat64 F]
    {config : DaemonConfig F} {updates : List (DaemonConfig F)}
    (disabled : (inForce config updates).pressure.prediction.enabled = false)
    : Float64.le 1.0
        (MountMonitor.updated config updates).pressureController.urgencyThresholds.critical
      = true := by
  have minute : Float64.le (1.0 : F) 60.0 = true :=
    LawfulFloat64.decimal_le (by norm_num [decimalValue])
  induction updates using List.reverseRecOn with
  | nil =>
      change config.pressure.prediction.enabled = false at disabled
      simp only [MountMonitor.updated, List.foldl_nil, MountMonitor.new, disabled,
        Bool.false_eq_true, if_false]
      exact minute
  | append_singleton front next _ =>
      unfold inForce at disabled
      rw [List.foldl_append] at disabled
      change next.pressure.prediction.enabled = false at disabled
      simp only [MountMonitor.updated, List.foldl_append, List.foldl_cons, List.foldl_nil,
        MountMonitor.updateConfig, disabled, Bool.false_eq_true, if_false]
      exact StrictFloat64.le_of_lt (StrictFloat64.lt_of_le_of_lt minute
        LargeLimitFloat64.minute_lt_maxFinite)

def emptyDisk : PressureReading := ⟨1, 1, .root⟩

section influence

variable [SignedFloat64 F]

/-- On an empty disk the controller sees no reason for urgency. -/
theorem followError_emptyDisk {config : DaemonConfig F} {controller : PidPressureController F}
    (unread : Unread config controller)
    (accepted : ConfigFile.withinRange 0.0 100.0 config.pressure.greenMinFreePct = true)
    (now : Instant)
    : (controller.followError emptyDisk.freePct now).2 = 0.0 := by
  have literal (m : Nat) (s : Bool) (d : Nat)
      : Float64.le (0.0 : F) (Float64.ofDecimal m s d) = true := by
    refine LawfulFloat64.decimal_le ?_
    unfold decimalValue
    split <;> simp <;> positivity
  have zero : Float64.lt (0.0 : F) 0.0 = false := StrictFloat64.lt_irrefl _
  have free : (emptyDisk.freePct : F) = 100.0 := SignedFloat64.whole_percent
  have within := (Bool.and_eq_true_iff.mp accepted).2
  have error : Float64.lt 0.0 (controller.targetFreePct - 100.0 : F) = false := by
    rw [unread.target]
    exact SignedFloat64.sub_nonpos (StrictFloat64.not_lt_of_le within)
  have dt : Float64.lt 0.0 (controller.secondsSince now) = true := by
    unfold PidPressureController.secondsSince
    rw [unread.lastUpdate]
    have tenth : Float64.lt (0.0 : F) 0.1 = true :=
      SignedFloat64.decimal_pos (by norm_num [decimalValue])
    exact StrictFloat64.lt_of_lt_of_le tenth
      (StrictFloat64.le_max_right (LawfulFloat64.decimal_le_self ..))
  have gathered : Float64.lt 0.0 (Float64.clamp (Float64.mulAdd
      (controller.targetFreePct - 100.0) (controller.secondsSince now) controller.integral)
      (-controller.integralCap) controller.integralCap) = false := by
    rw [unread.integral, unread.integralCap, SignedFloat64.mulAdd_comm]
    refine SignedFloat64.clamp_nonpos ?_ (LawfulFloat64.neg_decimal_le_zero ..) (literal ..)
    exact SignedFloat64.mulAdd_nonpos (StrictFloat64.le_of_lt dt) error zero
  have raw : Float64.lt (0.0 : F) ((controller.targetFreePct - 100.0 - controller.lastError)
      / controller.secondsSince now) = false := by
    rw [unread.lastError]
    exact SignedFloat64.div_nonpos (SignedFloat64.sub_nonpos error) dt
  have derivative : Float64.lt (0.0 : F) (Float64.mulAdd 0.3
      ((controller.targetFreePct - 100.0 - controller.lastError) / controller.secondsSince now)
      (0.7 * controller.lastDerivative)) = false := by
    rw [unread.lastDerivative]
    exact SignedFloat64.mulAdd_nonpos (literal ..) raw
      (SignedFloat64.mul_nonpos (literal ..) zero)
  unfold PidPressureController.followError
  dsimp only
  rw [free, SignedFloat64.max_zero, SignedFloat64.exp_neg_zero, SignedFloat64.one_sub_one]
  · unfold Float64.clamp
    have one : Float64.gt (0.0 : F) 1.0 = false := StrictFloat64.not_lt_of_le (literal ..)
    rw [zero, one]
    rfl
  · rw [unread.kd, unread.kp, unread.ki]
    refine SignedFloat64.mulAdd_nonpos (literal ..) derivative ?_
    exact SignedFloat64.mulAdd_nonpos (literal ..) error
      (SignedFloat64.mul_nonpos (literal ..) gathered)

/-- Whatever configurations were loaded: where the one in force disables the prediction, and
asks for a percentage of free space, a prediction of one second still makes an empty disk as
urgent as can be.
-/
theorem prediction_never_ignored [LimitFloat64 F] [LargeLimitFloat64 F] [RoundingFloat64 F]
    (config : DaemonConfig F) (updates : List (DaemonConfig F))
    (accepted : ConfigFile.withinRange 0.0 100.0
      (inForce config updates).pressure.greenMinFreePct = true)
    (disabled : (inForce config updates).pressure.prediction.enabled = false)
    : ¬ PredictionIgnored (MountMonitor.updated config updates).pressureController := by
  intro ignored
  have calm := followError_emptyDisk (unread_updated config updates) accepted 0
  have critical := critical_updated disabled
  have alike := ignored [⟨emptyDisk, 0, none, some 1.0⟩]
  simp only [List.map_cons, List.map_nil, PidPressureController.decisions, List.cons.injEq,
    and_true] at alike
  have urgency : (0.0 : F) = Float64.max 0.0 1.0 := by
    have both := congrArg PressureDecision.urgency alike
    simpa [PidResponse.decision, PidPressureController.update, TwoPredictions.leftInput,
      TwoPredictions.rightInput, PidPressureController.boostUrgency, calm, critical] using both
  have positive : Float64.lt (0.0 : F) 1.0 = true :=
    SignedFloat64.decimal_pos (by norm_num [decimalValue])
  have greater := StrictFloat64.lt_of_lt_of_le positive
    (StrictFloat64.le_max_right (a := (0.0 : F)) (LawfulFloat64.decimal_le_self 10 true 1))
  change Float64.lt (0.0 : F) (Float64.max 0.0 1.0) = true at greater
  rw [← urgency, StrictFloat64.lt_irrefl] at greater
  cases greater

end influence

/-- The defaults on a host that is not asked for anything, with or without a prediction. -/
def predicting (enabled : Bool) : DaemonConfig F :=
  let plain : DaemonConfig F := DaemonConfig.withRoots
    ⟨.ok [], none, fun field => field, fun _ => .ok ()⟩ [.root]
  { plain with
    pressure := { plain.pressure with
      prediction := { plain.pressure.prediction with enabled } } }

theorem prediction_never_ignored_switched_off
    : ¬ PredictionIgnored (MountMonitor.updated (predicting true : DaemonConfig ℝ)
        [predicting false]).pressureController := by
  refine prediction_never_ignored _ _ ?_ rfl
  refine Bool.and_eq_true_iff.mpr ⟨?_, ?_⟩
  · exact LawfulFloat64.decimal_le (by norm_num [decimalValue])
  · exact LawfulFloat64.decimal_le (by norm_num [decimalValue])

/-- A monitor that is built without a prediction takes it into account all the same. -/
theorem disabled_prediction_counts
    : (predicting false : DaemonConfig ℚ).pressure.prediction.enabled = false
      ∧ ¬ PredictionIgnored
        (MountMonitor.new (predicting false : DaemonConfig ℚ)).pressureController := by
  refine ⟨rfl, fun ignored => ?_⟩
  have alike := ignored [⟨⟨50, 100, .root⟩, 0, none, some 40.0⟩]
  exact absurd alike (by decide +kernel)

end StorageBallast
