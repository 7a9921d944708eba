import StorageBallast.Daemon.PolicyModes

/-! The shadow-mode policy engine: its state, its operations as the daemon calls them, and
the call alphabet runs are made of. Each operation takes the clock reading it is made at.
-/

namespace StorageBallast

def fallbackEmergencyEscalationSecs : Nat := 5 * 60

def emergencyGracePeriodSecs : Nat := 30 * 60

def startupCalibrationGraceSecs : Nat := 10 * 60

structure PolicyEngine (F : Type) where
  config : PolicyConfig F
  mode : ActiveMode
  preFallbackMode : ActiveMode
  fallbackReason : Option FallbackReason
  fallbackEnteredAt : Option Instant
  emergencyEscalatedAt : Option Instant
  startedAt : Instant
  builder : DecisionRecordBuilder
  consecutiveCleanWindows : Nat
  consecutiveBreachWindows : Nat
  recalibrationCount : Nat
  canaryDeletesThisHour : Nat
  canaryHourStart : Instant
  totalDecisions : Nat
  totalFallbackEntries : Nat
  transitionLog : List TransitionEntry
  pressureLevel : PressureLevel
  lastSuppressionLog : Option Instant
  lastObserveTime : Option Instant
deriving DecidableEq, Repr

namespace PolicyEngine

variable {F : Type}

def logTransition (self : PolicyEngine F) (kind : String) (fromMode toMode : ActiveMode)
    (reason : Option String) : PolicyEngine F :=
  let kept :=
    if 1000 ≤ self.transitionLog.length then self.transitionLog.drop 500
    else self.transitionLog
  { self with
    transitionLog := kept ++ [{
      transition := kind
      fromMode := fromMode.toString
      toMode := toMode.toString
      atDecision := self.totalDecisions
      reason
    }] }

def applyTransition (self : PolicyEngine F) (toMode : ActiveMode) (kind : String)
    : PolicyEngine F :=
  { self.logTransition kind self.mode toMode none with mode := toMode }

def promote (self : PolicyEngine F) : PolicyEngine F × Bool :=
  match self.mode with
  | .observe => (self.applyTransition .canary "promote", true)
  | .canary => (self.applyTransition .enforce "promote", true)
  | .enforce | .fallbackSafe => (self, false)

def demote (self : PolicyEngine F) : PolicyEngine F × Bool :=
  match self.mode with
  | .enforce => (self.applyTransition .canary "demote", true)
  | .canary => (self.applyTransition .observe "demote", true)
  | .observe | .fallbackSafe => (self, false)

def suppressionLogDue (self : PolicyEngine F) (now : Instant) : Bool :=
  match self.lastSuppressionLog with
  | none => true
  | some last => decide (Duration.fromMins 5 ≤ elapsed now last)

def noteSuppression (self : PolicyEngine F) (now : Instant) : PolicyEngine F :=
  if self.suppressionLogDue now then { self with lastSuppressionLog := some now } else self

/-- The entry proper, once no grace period suppresses it. -/
def commitFallback (self : PolicyEngine F) (reason : FallbackReason) (now : Instant)
    : PolicyEngine F :=
  let entered := { self with
    preFallbackMode := self.mode
    fallbackReason := some reason
    fallbackEnteredAt := some now
    totalFallbackEntries := self.totalFallbackEntries + 1
    consecutiveCleanWindows := 0 }
  { entered.logTransition "fallback" self.mode .fallbackSafe (some reason.toString) with
    mode := .fallbackSafe }

def enterFallbackAfterGrace (self : PolicyEngine F) (reason : FallbackReason)
    (now : Instant) : PolicyEngine F :=
  if reason.isCalibrationBreach
      ∧ elapsed now self.startedAt < Duration.fromSecs startupCalibrationGraceSecs then
    { self.noteSuppression now with consecutiveBreachWindows := 0 }
  else self.commitFallback reason now

/-- Force fallback-safe mode; only the kill switch overrides the grace periods. -/
def enterFallback (self : PolicyEngine F) (reason : FallbackReason) (now : Instant)
    : PolicyEngine F :=
  if self.mode = .fallbackSafe then self
  else if reason = .killSwitch then self.commitFallback reason now
  else
    match self.emergencyEscalatedAt with
    | some escalatedAt =>
        if elapsed now escalatedAt < Duration.fromSecs emergencyGracePeriodSecs then
          self.noteSuppression now
        else
          { self with emergencyEscalatedAt := none }.enterFallbackAfterGrace reason now
    | none => self.enterFallbackAfterGrace reason now

def recoveryTarget (self : PolicyEngine F) : ActiveMode :=
  match self.preFallbackMode with
  | .enforce => .canary
  | other => other

def recoverFromFallback (self : PolicyEngine F) : PolicyEngine F :=
  let cleared := { self with fallbackReason := none, fallbackEnteredAt := none }
  { cleared.logTransition "recover" self.mode self.recoveryTarget none with
    mode := self.recoveryTarget }

def recordKillSwitch (self : PolicyEngine F) (entries : Nat) : PolicyEngine F :=
  { self with
    fallbackReason := some .killSwitch
    totalFallbackEntries := entries }.logTransition "fallback" .fallbackSafe .fallbackSafe
      (some FallbackReason.killSwitch.toString)

/-- A new engine; a configured kill switch is engaged at once. -/
def new (config : PolicyConfig F) (now : Instant) : PolicyEngine F :=
  let engine : PolicyEngine F := {
    config
    mode := config.initialMode
    preFallbackMode := config.initialMode
    fallbackReason := none
    fallbackEnteredAt := none
    emergencyEscalatedAt := none
    startedAt := now
    builder := .new
    consecutiveCleanWindows := 0
    consecutiveBreachWindows := 0
    recalibrationCount := 0
    canaryDeletesThisHour := 0
    canaryHourStart := now
    totalDecisions := 0
    totalFallbackEntries := 0
    transitionLog := []
    pressureLevel := .green
    lastSuppressionLog := none
    lastObserveTime := none
  }
  if config.killSwitch then
    if engine.mode = .fallbackSafe then engine.recordKillSwitch 1
    else engine.enterFallback .killSwitch now
  else engine

def engageKillSwitch (self : PolicyEngine F) (oldKill newKill : Bool) (now : Instant)
    : PolicyEngine F :=
  if !oldKill && newKill then
    if self.mode ≠ .fallbackSafe then self.enterFallback .killSwitch now
    else if self.fallbackReason = none then
      self.recordKillSwitch (self.totalFallbackEntries + 1)
    else self
  else self

def disengageKillSwitch (self : PolicyEngine F) (oldKill newKill : Bool)
    : PolicyEngine F :=
  if oldKill = true ∧ newKill = false ∧ self.mode = .fallbackSafe
      ∧ self.fallbackReason = some .killSwitch then
    self.recoverFromFallback
  else self

def updateConfig (self : PolicyEngine F) (newConfig : PolicyConfig F) (now : Instant)
    : PolicyEngine F :=
  let oldKill := self.config.killSwitch
  let newKill := newConfig.killSwitch
  ({ self with config := newConfig }.engageKillSwitch oldKill newKill now).disengageKillSwitch
    oldKill newKill

def setPressureLevel (self : PolicyEngine F) (level : PressureLevel) : PolicyEngine F :=
  { self with pressureLevel := level }

def observationTooSoon (self : PolicyEngine F) (now : Instant) : Bool :=
  decide (0 < self.config.observeMinIntervalSecs)
    && match self.lastObserveTime with
      | none => false
      | some last =>
          decide (elapsed now last < Duration.fromSecs self.config.observeMinIntervalSecs)

def isCleanWindow (self : PolicyEngine F) (guard : GuardDiagnostics F) : Bool :=
  (guard.status == .pass && !guard.eProcessAlarm)
    || (self.pressureLevel == .green && guard.status != .fail)

def fallbackCooldownOver (self : PolicyEngine F) (now : Instant) : Bool :=
  match self.fallbackEnteredAt with
  | none => true
  | some entered =>
      decide (Duration.fromSecs self.config.minFallbackSecs ≤ elapsed now entered)

def cleanWindow (self : PolicyEngine F) (now : Instant) : PolicyEngine F :=
  let counted := { self with
    consecutiveCleanWindows := self.consecutiveCleanWindows + 1
    consecutiveBreachWindows := 0 }
  if counted.mode = .fallbackSafe
      ∧ counted.config.recoveryCleanWindows ≤ counted.consecutiveCleanWindows
      ∧ counted.fallbackCooldownOver now then
    counted.recoverFromFallback
  else counted

/-- Count a window that is not clean; breaches are advisory and never change the mode. -/
def uncleanWindow (self : PolicyEngine F) (guard : GuardDiagnostics F) : PolicyEngine F :=
  if guard.status = .fail ∧ self.pressureLevel ≠ .green then
    if 100 ≤ self.consecutiveBreachWindows + 1 then
      { self with
        consecutiveCleanWindows := 0
        consecutiveBreachWindows := 0
        recalibrationCount := self.recalibrationCount + 1 }
    else
      { self with
        consecutiveCleanWindows := 0
        consecutiveBreachWindows := self.consecutiveBreachWindows + 1 }
  else
    { self with
      consecutiveCleanWindows := 0
      consecutiveBreachWindows := self.consecutiveBreachWindows - 1 }

def stampObservation (self : PolicyEngine F) (now : Instant) : PolicyEngine F :=
  if 0 < self.config.observeMinIntervalSecs then
    { self with lastObserveTime := some now }
  else self

def observeWindow (self : PolicyEngine F) (guard : GuardDiagnostics F) (now : Instant)
    : PolicyEngine F :=
  if self.observationTooSoon now then self
  else
    let stamped := self.stampObservation now
    if stamped.isCleanWindow guard then stamped.cleanWindow now
    else stamped.uncleanWindow guard

def escalationDue (self : PolicyEngine F) (now : Instant) : Bool :=
  self.mode == .fallbackSafe
    && self.fallbackReason != some .killSwitch
    && match self.fallbackEnteredAt with
      | none => false
      | some enteredAt =>
          decide (Duration.fromSecs fallbackEmergencyEscalationSecs ≤ elapsed now enteredAt)

/-- Leave fallback-safe mode for enforce. -/
def escalate (self : PolicyEngine F) (now : Instant) : PolicyEngine F :=
  let cleared := { self with
    fallbackReason := none
    fallbackEnteredAt := none
    emergencyEscalatedAt := some now
    consecutiveBreachWindows := 0
    consecutiveCleanWindows := 0 }
  { cleared.logTransition "emergency_escalate" self.mode .enforce
      (some "fallback_safe deadlock: pressure sustained at Yellow+") with
    mode := .enforce }

/-- Break a fallback deadlock under sustained pressure; the flag tells whether it did. -/
def checkEmergencyEscalation (self : PolicyEngine F) (pressureIsCritical : Bool)
    (now : Instant) : PolicyEngine F × Bool :=
  if pressureIsCritical && self.escalationDue now then (self.escalate now, true)
  else (self, false)

/-- A drift alarm forces a fallback at orange pressure and above, on a settled guard. -/
def checkGuardTriggers (self : PolicyEngine F) (diag : GuardDiagnostics F)
    (now : Instant) : PolicyEngine F :=
  if diag.eProcessAlarm && self.mode != .fallbackSafe
      && self.pressureLevel.atLeast .orange && decide (30 ≤ diag.observationCount) then
    self.enterFallback .guardrailDrift now
  else self

def rotateCanaryHour (self : PolicyEngine F) (now : Instant) : PolicyEngine F :=
  if Duration.fromHours 1 ≤ elapsed now self.canaryHourStart then
    { self with canaryDeletesThisHour := 0, canaryHourStart := now }
  else self

variable [Float64 F]

open scoped Float64 in
def penaltyScale : PressureLevel → F
  | .green | .red | .critical => 0.0
  | .yellow => 0.25
  | .orange => 0.10

/-- The penalised loss of deleting outweighs the loss of keeping. -/
def guardVetoes (self : PolicyEngine F) (candidate : CandidacyScore F)
    (guard : Option (GuardDiagnostics F)) : Bool :=
  match guard with
  | none => false
  | some diag =>
      self.pressureLevel.atLeast .yellow && !diag.status.adaptiveAllowed
        && Float64.ge
            (Float64.mulAdd self.config.guardPenalty (penaltyScale self.pressureLevel)
              candidate.decision.expectedLossDelete)
            candidate.decision.expectedLossKeep

/-- The effective action for one candidate; canary mode counts what it lets through. -/
def enforcePolicy (self : PolicyEngine F) (candidate : CandidacyScore F)
    (guard : Option (GuardDiagnostics F)) (now : Instant)
    : PolicyEngine F × DecisionAction :=
  if candidate.decision.action ≠ .delete then (self, candidate.decision.action)
  else if !self.mode.allowsDeletion then (self, .keep)
  else if self.guardVetoes candidate guard then (self, .keep)
  else if self.mode = .canary then
    let rotated := self.rotateCanaryHour now
    if rotated.config.maxCanaryDeletesPerHour ≤ rotated.canaryDeletesThisHour then
      (rotated, .keep)
    else
      ({ rotated with canaryDeletesThisHour := rotated.canaryDeletesThisHour + 1 }, .delete)
  else (self, .delete)

/-- What the evaluation loop has gathered so far. -/
structure Tally (F : Type) where
  records : List (DecisionRecord F)
  approved : List (CandidacyScore F)
  hypotheticalDeletes : Nat
  hypotheticalKeeps : Nat
  hypotheticalReviews : Nat
deriving DecidableEq, Repr

def Tally.empty : Tally F := ⟨[], [], 0, 0, 0⟩

def Tally.add (tally : Tally F) (candidate : CandidacyScore F) (effective : DecisionAction)
    (record : DecisionRecord F) : Tally F where
  records := tally.records ++ [record]
  approved :=
    if effective = .delete then tally.approved ++ [candidate] else tally.approved
  hypotheticalDeletes :=
    tally.hypotheticalDeletes + if candidate.decision.action = .delete then 1 else 0
  hypotheticalKeeps :=
    tally.hypotheticalKeeps + if candidate.decision.action = .keep then 1 else 0
  hypotheticalReviews :=
    tally.hypotheticalReviews + if candidate.decision.action = .review then 1 else 0

/-- Evaluate one candidate: effective action, evidence record, decision count. -/
def evaluateOne (self : PolicyEngine F) (policyMode : PolicyMode)
    (guard : Option (GuardDiagnostics F)) (now : Instant) (candidate : CandidacyScore F)
    : PolicyEngine F × DecisionAction × DecisionRecord F :=
  let (enforced, effective) := self.enforcePolicy candidate guard now
  let comparator :=
    if enforced.mode = .observe then some candidate.decision.action else none
  let (record, builder) :=
    enforced.builder.build candidate policyMode guard comparator (some effective)
  ({ enforced with builder, totalDecisions := enforced.totalDecisions + 1 }, effective, record)

/-- The loop over the candidates. `budget` is what is left of the loop budget; observe mode
also stops once enough hypothetical deletes are counted. The flag reports an early stop.
-/
def evaluateLoop (policyMode : PolicyMode) (guard : Option (GuardDiagnostics F))
    (now : Instant)
    : Nat → PolicyEngine F → Tally F → List (CandidacyScore F)
      → PolicyEngine F × Tally F × Bool
  | _, engine, tally, [] => (engine, tally, false)
  | 0, engine, tally, _ :: _ => (engine, tally, true)
  | budget + 1, engine, tally, candidate :: rest =>
      let (next, effective, record) := engine.evaluateOne policyMode guard now candidate
      let counted := tally.add candidate effective record
      if next.mode = .observe
          ∧ next.config.maxHypotheticalDeletes ≤ counted.hypotheticalDeletes then
        (next, counted, true)
      else evaluateLoop policyMode guard now budget next counted rest

/-- The kill-switch and guard checks made before a batch is evaluated. -/
def beforeEvaluation (self : PolicyEngine F) (guard : Option (GuardDiagnostics F))
    (now : Instant) : PolicyEngine F :=
  let checked :=
    if self.config.killSwitch && self.mode != .fallbackSafe then
      self.enterFallback .killSwitch now
    else self
  match guard with
  | none => checked
  | some diag => checked.checkGuardTriggers diag now

def evaluate (self : PolicyEngine F) (candidates : List (CandidacyScore F))
    (guard : Option (GuardDiagnostics F)) (now : Instant)
    : PolicyEngine F × PolicyDecision F :=
  let ready := self.beforeEvaluation guard now
  let budget := min ready.config.maxCandidatesPerLoop candidates.length
  let (done, tally, budgetExhausted) :=
    evaluateLoop ready.mode.toPolicyMode guard now budget ready .empty candidates
  (done, {
    records := tally.records
    approvedForDeletion := tally.approved
    hypotheticalDeletes := tally.hypotheticalDeletes
    hypotheticalKeeps := tally.hypotheticalKeeps
    hypotheticalReviews := tally.hypotheticalReviews
    budgetExhausted
    mode := done.mode
  })

end PolicyEngine

inductive PolicyCall (F : Type) where
  | evaluate (candidates : List (CandidacyScore F)) (guard : Option (GuardDiagnostics F))
  | observeWindow (guard : GuardDiagnostics F)
  | enterFallback (reason : FallbackReason)
  | checkEmergencyEscalation (pressureIsCritical : Bool)
  | setPressureLevel (level : PressureLevel)
  | promote
  | demote
  | updateConfig (config : PolicyConfig F)

structure TimedCall (F : Type) where
  now : Instant
  call : PolicyCall F

namespace PolicyEngine

variable {F : Type} [Float64 F]

/-- The engine after one call. -/
def step (self : PolicyEngine F) (timed : TimedCall F) : PolicyEngine F :=
  match timed.call with
  | .evaluate candidates guard => (self.evaluate candidates guard timed.now).1
  | .observeWindow guard => self.observeWindow guard timed.now
  | .enterFallback reason => self.enterFallback reason timed.now
  | .checkEmergencyEscalation flag => (self.checkEmergencyEscalation flag timed.now).1
  | .setPressureLevel level => self.setPressureLevel level
  | .promote => self.promote.1
  | .demote => self.demote.1
  | .updateConfig config => self.updateConfig config timed.now

def decision? (self : PolicyEngine F) (timed : TimedCall F) : Option (PolicyDecision F) :=
  match timed.call with
  | .evaluate candidates guard => some (self.evaluate candidates guard timed.now).2
  | _ => none

def escalates (self : PolicyEngine F) (timed : TimedCall F) : Bool :=
  match timed.call with
  | .checkEmergencyEscalation flag => (self.checkEmergencyEscalation flag timed.now).2
  | _ => false

def passingGuard : GuardDiagnostics ℚ where
  status := .pass
  observationCount := 25
  medianRateError := 12 / 100
  conservativeFraction := 80 / 100
  eProcessValue := 7 / 2
  eProcessAlarm := false
  consecutiveClean := 5
  reason := "calibration verified"

def failingGuard : GuardDiagnostics ℚ where
  status := .fail
  observationCount := 30
  medianRateError := 45 / 100
  conservativeFraction := 55 / 100
  eProcessValue := 25
  eProcessAlarm := true
  consecutiveClean := 0
  reason := "drift detected"

def testConfig : PolicyConfig ℚ :=
  { PolicyConfig.default with
    initialMode := .observe
    minFallbackSecs := 0
    observeMinIntervalSecs := 0 }

end PolicyEngine

end StorageBallast
