import StorageBallast.Ballast.ReleaseController
import StorageBallast.Foundations.FloatRounding
import StorageBallast.Foundations.Runs

/-! The controller that turns readings of free space into a pressure level and an urgency.
The urgency follows the error; the level follows four thresholds, at once towards more
pressure, and step by step and with a margin towards less.
-/

namespace StorageBallast

open scoped Float64

/-- `as_secs_f64` -/
def Duration.asSecsF64 {F : Type} [Float64 F] (duration : Duration) : F :=
  Float64.ofNat (duration / 1000000000)
    + Float64.ofNat (duration % 1000000000) / Float64.ofNat 1000000000

def Duration.asMillis (duration : Duration) : Nat := duration / 1000000

def Duration.fromMillis (millis : Nat) : Duration := millis * 1000000

structure PressureReading where
  freeBytes : Nat
  totalBytes : Nat
  mount : Location
deriving DecidableEq, Repr

def PressureReading.freePct {F : Type} [Float64 F] (self : PressureReading) : F :=
  if self.totalBytes = 0 then 0.0
  else Float64.ofNat self.freeBytes * 100.0 / Float64.ofNat self.totalBytes

/-- The least percentages of free space of the levels below the critical one. -/
structure PressureThresholds (F : Type) where
  greenMinFreePct : F
  yellowMinFreePct : F
  orangeMinFreePct : F
  redMinFreePct : F

structure UrgencyThresholds (F : Type) where
  critical : F
  high : F
  moderate : F

/-- The whole answer of the controller. -/
structure PidResponse (F : Type) extends PressureResponse F where
  scanInterval : Duration
  maxDeleteBatch : Nat
  fallbackActive : Bool
  freePct : F
  predictedSeconds : Option F

section levels

variable {F : Type} [Float64 F]

def rawClassify (freePct : F) (thresholds : PressureThresholds F) : PressureLevel :=
  if Float64.lt freePct thresholds.redMinFreePct then .critical
  else if Float64.lt freePct thresholds.orangeMinFreePct then .red
  else if Float64.lt freePct thresholds.yellowMinFreePct then .orange
  else if Float64.lt freePct thresholds.greenMinFreePct then .yellow
  else .green

/-- More pressure counts at once; less pressure by one level at a time, and only with the
margin above the threshold of the level that is left.
-/
def classifyWithHysteresis (current : PressureLevel) (freePct hysteresis : F)
    (thresholds : PressureThresholds F) : PressureLevel :=
  let raw := rawClassify freePct thresholds
  if current.rank < raw.rank then raw
  else
    match current with
    | .critical =>
        if Float64.ge freePct (thresholds.redMinFreePct + hysteresis) then .red else .critical
    | .red =>
        if Float64.ge freePct (thresholds.orangeMinFreePct + hysteresis) then .orange else .red
    | .orange =>
        if Float64.ge freePct (thresholds.yellowMinFreePct + hysteresis) then .yellow
        else .orange
    | .yellow =>
        if Float64.ge freePct (thresholds.greenMinFreePct + hysteresis) then .green
        else .yellow
    | .green => .green

/-- Scan interval, ballast files to release and deletions in a batch. -/
def responsePolicy [RoundingFloat64 F] (basePoll : Duration) (level : PressureLevel)
    (urgency : F) : Duration × Nat × Nat :=
  let baseMs := min basePoll.asMillis (2 ^ 64 - 1)
  match level with
  | .green =>
      (.fromMillis (max baseMs 1), 0,
        if Float64.gt urgency 0.8 then 10 else if Float64.gt urgency 0.5 then 5 else 2)
  | .yellow =>
      (.fromMillis (max (baseMs / 2) 500), if Float64.gt urgency 0.55 then 1 else 0, 5)
  | .orange =>
      (.fromMillis (max (baseMs / 4) 250), if Float64.gt urgency 0.75 then 3 else 1, 10)
  | .red =>
      (.fromMillis (max (baseMs / 8) 125), if Float64.gt urgency 0.85 then 5 else 3,
        20 + RoundingFloat64.toNat (Float64.max (urgency - 0.5) 0.0 * 60.0))
  | .critical =>
      (.fromMillis 100, 10,
        40 + RoundingFloat64.toNat (Float64.max (urgency - 0.5) 0.0 * 120.0))

end levels

structure PidPressureController (F : Type) where
  kp : F
  ki : F
  kd : F
  integral : F
  integralCap : F
  hysteresisPct : F
  targetFreePct : F
  /-- The target for which the error is gathered. -/
  prevTargetFreePct : F
  thresholds : PressureThresholds F
  basePollInterval : Duration
  urgencyThresholds : UrgencyThresholds F
  lastError : F
  lastDerivative : F
  lastUpdate : Option Instant
  level : PressureLevel

/-- What one update is given. -/
structure PidInput (F : Type) where
  reading : PressureReading
  predictedSecondsToRed : Option F
  now : Instant

namespace PidPressureController

variable {F : Type} [Float64 F]

def new (kp ki kd integralCap targetFreePct hysteresisPct : F)
    (thresholds : PressureThresholds F) (basePollInterval : Duration)
    : PidPressureController F where
  kp
  ki
  kd
  integral := 0.0
  integralCap
  hysteresisPct
  targetFreePct
  prevTargetFreePct := targetFreePct
  thresholds
  basePollInterval
  urgencyThresholds := ⟨60.0, 300.0, 900.0⟩
  lastError := 0.0
  lastDerivative := 0.0
  lastUpdate := none
  level := .green

def secondsSince (self : PidPressureController F) (now : Instant) : F :=
  let fallback := Float64.max self.basePollInterval.asSecsF64 0.1
  match self.lastUpdate with
  | none => fallback
  | some prev =>
      if now < prev then fallback
      else
        let seconds : F := Duration.asSecsF64 (now - prev)
        if Float64.gt seconds 0.0001 then seconds else fallback

def boostUrgency (self : PidPressureController F) (urgency : F) : Option F → F
  | none => urgency
  | some seconds =>
      if Float64.le seconds self.urgencyThresholds.critical then Float64.max urgency 1.0
      else if Float64.le seconds self.urgencyThresholds.high then Float64.max urgency 0.90
      else if Float64.le seconds self.urgencyThresholds.moderate then Float64.max urgency 0.70
      else urgency

def followError (self : PidPressureController F) (freePct : F) (now : Instant)
    : PidPressureController F × F :=
  let dt := self.secondsSince now
  let error := self.targetFreePct - freePct
  let integral :=
    Float64.clamp (Float64.mulAdd error dt self.integral) (-self.integralCap) self.integralCap
  let rawDerivative := (error - self.lastError) / dt
  let derivative := Float64.mulAdd 0.3 rawDerivative (0.7 * self.lastDerivative)
  let raw := Float64.mulAdd self.kd derivative
    (Float64.mulAdd self.kp error (self.ki * integral))
  ({ self with
      integral
      lastDerivative := derivative
      lastError := error
      lastUpdate := some now },
    Float64.clamp (1.0 - Float64.exp (-(Float64.max raw 0.0))) 0.0 1.0)

def nextLevel (self : PidPressureController F) (freePct : F) : PressureLevel :=
  classifyWithHysteresis self.level freePct self.hysteresisPct self.thresholds

def enterLevel (self : PidPressureController F) (level : PressureLevel)
    : PidPressureController F :=
  { self with
    integral := if level ≠ self.level then 0.0 else self.integral
    level }

def update [RoundingFloat64 F] (self : PidPressureController F) (input : PidInput F)
    : PidPressureController F × PidResponse F :=
  let freePct : F := input.reading.freePct
  let followed := self.followError freePct input.now
  let urgency := self.boostUrgency followed.2 input.predictedSecondsToRed
  let entered := followed.1.enterLevel (self.nextLevel freePct)
  let policy := responsePolicy self.basePollInterval entered.level urgency
  (entered, {
    level := entered.level
    urgency
    scanInterval := policy.1
    releaseBallastFiles := policy.2.1
    maxDeleteBatch := policy.2.2
    fallbackActive := false
    causingMount := input.reading.mount
    freePct
    predictedSeconds := input.predictedSecondsToRed })

def setActionHorizonMinutes (self : PidPressureController F) (minutes : F)
    : PidPressureController F :=
  let horizonSecs := minutes * 60.0
  { self with
    urgencyThresholds := {
      critical := Float64.max (horizonSecs / 30.0) 30.0
      high := Float64.max (horizonSecs / 6.0) 60.0
      moderate := Float64.max (horizonSecs / 2.0) 120.0 } }

def setTargetFreePct [LimitFloat64 F] (self : PidPressureController F) (target : F)
    : PidPressureController F :=
  let cleared :=
    if Float64.gt (Float64.abs (target - self.prevTargetFreePct)) LimitFloat64.epsilon then
      { self with
        lastError := 0.0
        integral := 0.0
        lastUpdate := none
        prevTargetFreePct := target }
    else self
  { cleared with targetFreePct := target }

def disableUrgencyBoost [LimitFloat64 F] (self : PidPressureController F)
    : PidPressureController F :=
  { self with
    urgencyThresholds :=
      ⟨LimitFloat64.maxFinite, LimitFloat64.maxFinite, LimitFloat64.maxFinite⟩ }

omit [Float64 F] in
def setBasePollInterval (self : PidPressureController F) (interval : Duration)
    : PidPressureController F :=
  { self with basePollInterval := interval }

omit [Float64 F] in
def setPressureThresholds (self : PidPressureController F) (thresholds : PressureThresholds F)
    : PidPressureController F :=
  { self with thresholds }

variable [RoundingFloat64 F] (self : PidPressureController F) (input : PidInput F)

/-- The urgency is a number between zero and one, or what a prediction raised it to; it is
never the unordered value.
-/
theorem response_urgency_ordered [StrictFloat64 F]
    : Float64.le (self.update input).2.urgency (self.update input).2.urgency = true := by
  have decimal (m : Nat) (s : Bool) (d : Nat) := LawfulFloat64.decimal_le_self (F := F) m s d
  have clamped (raw : F)
      : Float64.le (Float64.clamp (1.0 - Float64.exp (-(Float64.max raw 0.0))) 0.0 1.0)
          (Float64.clamp (1.0 - Float64.exp (-(Float64.max raw 0.0))) 0.0 1.0) = true := by
    have nonneg : Float64.le 0.0 (Float64.max raw 0.0) = true :=
      StrictFloat64.le_max_right (decimal ..)
    have nonpos : Float64.le (-(Float64.max raw 0.0)) 0.0 = true :=
      LawfulFloat64.le_trans (LawfulFloat64.neg_le_neg nonneg) LawfulFloat64.neg_zero_le
    have upper := StrictFloat64.one_sub_nonneg (LawfulFloat64.exp_le_one nonpos)
    exact StrictFloat64.clamp_ordered (decimal ..) (decimal ..)
      (StrictFloat64.ordered_of_le upper).2
  change Float64.le (self.boostUrgency (self.followError _ _).2 _) (self.boostUrgency _ _) = true
  unfold boostUrgency
  split
  · exact clamped _
  · split
    · exact StrictFloat64.max_ordered (decimal ..)
    · split
      · exact StrictFloat64.max_ordered (decimal ..)
      · split
        · exact StrictFloat64.max_ordered (decimal ..)
        · exact clamped _

end PidPressureController

end StorageBallast
