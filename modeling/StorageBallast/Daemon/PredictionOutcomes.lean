import StorageBallast.Daemon.BallastTicks
import StorageBallast.Foundations.RealFloats
import StorageBallast.Monitor.PredictiveActions

/-! The scorecard of predictions and the ticks that fill it. A tick records what became of the
prediction that it has just made itself, with the cleanup of the tick before.
-/

namespace StorageBallast

open scoped Float64

inductive PredictionOutcome where
  | inactive
  | realized
  | intervened
  | falseAlarm
deriving DecidableEq, Repr

namespace PredictionOutcome

def judge (wasActionable wasRealized cleanupRan : Bool) : PredictionOutcome :=
  if !wasActionable then inactive
  else if wasRealized then realized
  else if cleanupRan then intervened
  else falseAlarm

theorem judge_eq_inactive {wasActionable wasRealized cleanupRan : Bool}
    : judge wasActionable wasRealized cleanupRan = inactive ↔ wasActionable = false := by
  cases wasActionable <;> cases wasRealized <;> cases cleanupRan <;> decide

theorem judge_after_cleanup (wasActionable wasRealized : Bool)
    : judge wasActionable wasRealized true ≠ falseAlarm := by
  cases wasActionable <;> cases wasRealized <;> decide

end PredictionOutcome

/-- Recent outcomes, the oldest one first. -/
structure PredictionScorecard where
  outcomes : List PredictionOutcome
  maxOutcomes : Nat

namespace PredictionScorecard

def new (maxOutcomes : Nat) : PredictionScorecard := ⟨[], max maxOutcomes 1⟩

def record (self : PredictionScorecard) (wasActionable wasRealized cleanupRan : Bool)
    : PredictionScorecard :=
  let outcomes := self.outcomes ++ [.judge wasActionable wasRealized cleanupRan]
  { self with outcomes := outcomes.drop (outcomes.length - self.maxOutcomes) }

def falseAlarms (self : PredictionScorecard) : Nat := self.outcomes.count .falseAlarm

def totalActionable (self : PredictionScorecard) : Nat :=
  self.outcomes.countP (· ≠ .inactive)

variable {F : Type} [Float64 F]

def falseAlarmRate (self : PredictionScorecard) : F :=
  if self.totalActionable = 0 then 0.0
  else Float64.ofNat self.falseAlarms / Float64.ofNat self.totalActionable

def dynamicMinConfidence (self : PredictionScorecard) (baseConfidence : F) : F :=
  let far : F := self.falseAlarmRate
  if Float64.le far 0.30 then baseConfidence
  else
    let penalty := ((far - 0.30) / 0.70) * 0.20
    Float64.min (baseConfidence + penalty) 0.95

end PredictionScorecard

variable {F : Type} [Float64 F]

structure ReadMount (F : Type) where
  predAction : PredictiveAction F
  confidence : F
  level : PressureLevel
  urgency : F

/-- What a tick meets: at least one mount, the behaviour mode by its cell, the scan paths on the
pressed device, and whether the policy engine has fallen back.
-/
structure ScoredTick (F : Type) where
  first : ReadMount F
  others : List (ReadMount F)
  memory : BehaviorPressureLevel
  disk : BehaviorPressureLevel
  noRootPathOnPressuredDevice : Bool
  crossDevices : Bool
  inFallback : Bool

def ScoredTick.behavior (tick : ScoredTick F) : BehaviorMode :=
  BehaviorDispatchTable.default.cells tick.memory tick.disk

def behaviorAllowsScan (mode : BehaviorMode) : Bool := mode.scanAggressiveness != .skip

inductive CleanupDispatch where
  | ballastRelease
  | scanRequest
deriving DecidableEq, Repr

structure ScoringDaemon (F : Type) where
  minConfidence : F
  lastPredictiveAction : PredictiveAction F
  lastTickCleanupRan : Bool
  predictionScorecard : PredictionScorecard

namespace ScoringDaemon

def init (minConfidence : F) : ScoringDaemon F := ⟨minConfidence, .clear, false, .new 200⟩

def worseAction (self : ScoringDaemon F) (worst : PredictiveAction F) (mount : ReadMount F)
    : PredictiveAction F :=
  let effectiveMinConf := self.predictionScorecard.dynamicMinConfidence self.minConfidence
  let predAction :=
    if !mount.predAction.isClear && Float64.lt mount.confidence effectiveMinConf then .clear
    else mount.predAction
  if worst.severity < predAction.severity then predAction else worst

def worseMount (worst mount : ReadMount F) : ReadMount F :=
  if worst.level.rank < mount.level.rank
      ∨ (mount.level = worst.level ∧ Float64.gt mount.urgency worst.urgency = true) then mount
  else worst

def actionable (self : ScoringDaemon F) : Bool := decide (2 ≤ self.lastPredictiveAction.severity)

/-- `check_pressure`, as far as predictions go, and the level that it comes to. -/
def checkPressure (self : ScoringDaemon F) (tick : ScoredTick F)
    : ScoringDaemon F × PressureLevel :=
  let mounts := tick.first :: tick.others
  let predicting :=
    { self with lastPredictiveAction := mounts.foldl self.worseAction .clear }
  let level := (tick.others.foldl worseMount tick.first).level
  ({ predicting with
      predictionScorecard := self.predictionScorecard.record predicting.actionable
        (level.atLeast .red) self.lastTickCleanupRan
      lastTickCleanupRan := false },
    level)

/-- The scans and releases of `handle_pressure`. -/
def handlePressure (self : ScoringDaemon F) (tick : ScoredTick F) (level : PressureLevel)
    : ScoringDaemon F × List CleanupDispatch :=
  if shouldSkipForDeviceAffinity (level != .green) tick.noRootPathOnPressuredDevice
      tick.crossDevices then (self, [])
  else
    let scanAllowed := behaviorAllowsScan tick.behavior
    match level with
    | .green =>
        let releases := match self.lastPredictiveAction with
          | .imminentDanger .. => true
          | .clear | .earlyWarning .. | .preemptiveCleanup .. => false
        let needsScan := !self.lastPredictiveAction.isClear
        let scans := scanAllowed && (needsScan || tick.inFallback)
        ({ self with
            lastTickCleanupRan := self.lastTickCleanupRan || releases || (scans && needsScan) },
          (if releases then [.ballastRelease] else []) ++ if scans then [.scanRequest] else [])
    | .yellow | .orange | .red | .critical =>
        ({ self with lastTickCleanupRan := self.lastTickCleanupRan || scanAllowed },
          (if behaviorShouldReleaseBallast tick.behavior then [.ballastRelease] else [])
            ++ if scanAllowed then [.scanRequest] else [])

end ScoringDaemon

/-- What a tick predicted, did and found, and the outcome that it recorded. -/
structure TickAccount where
  actionable : Bool
  cleanup : Bool
  reached : Bool
  outcome : Option PredictionOutcome

namespace ScoringDaemon

def tick (self : ScoringDaemon F) (input : ScoredTick F) : ScoringDaemon F × TickAccount :=
  let (checked, level) := self.checkPressure input
  let (handled, dispatched) := checked.handlePressure input level
  (handled,
    { actionable := checked.actionable
      cleanup := !dispatched.isEmpty
      reached := level.atLeast .red
      outcome := checked.predictionScorecard.outcomes.getLast? })

def accounts (self : ScoringDaemon F) : List (ScoredTick F) → List TickAccount
  | [] => []
  | input :: rest => (self.tick input).2 :: (self.tick input).1.accounts rest

def after (self : ScoringDaemon F) (ticks : List (ScoredTick F)) : ScoringDaemon F :=
  ticks.foldl (fun daemon input => (daemon.tick input).1) self

end ScoringDaemon

def TickAccount.Judges (before now : TickAccount) : Prop :=
  now.outcome = some (.judge before.actionable now.reached before.cleanup)
  ∧ (before.actionable = true → before.cleanup = true → now.reached = false
    → now.outcome ≠ some .falseAlarm)

theorem PredictionScorecard.getLast?_record (card : PredictionScorecard)
    (room : 0 < card.maxOutcomes) (wasActionable wasRealized cleanupRan : Bool)
    : (card.record wasActionable wasRealized cleanupRan).outcomes.getLast?
      = some (.judge wasActionable wasRealized cleanupRan) := by
  unfold record
  dsimp only
  rw [List.getLast?_drop, if_neg (by rw [List.length_append, List.length_singleton]; omega),
    List.getLast?_concat]

namespace ScoringDaemon

variable (self : ScoringDaemon F)

omit [Float64 F] in
/-- Where ballast is released, scans are allowed: no cell of the table says otherwise. -/
theorem allowsScan_of_releases (tick : ScoredTick F)
    (releases : behaviorShouldReleaseBallast tick.behavior = true)
    : behaviorAllowsScan tick.behavior = true := by
  revert releases
  unfold ScoredTick.behavior
  cases tick.memory <;> cases tick.disk <;> decide

omit [Float64 F] in
theorem handlePressure_frame (tick : ScoredTick F) (level : PressureLevel)
    : (self.handlePressure tick level).1.predictionScorecard = self.predictionScorecard := by
  unfold handlePressure
  split
  · rfl
  · cases level <;> rfl

omit [Float64 F] in
/-- After a prediction the flag says whether anything was dispatched. -/
theorem handlePressure_flag (tick : ScoredTick F) (level : PressureLevel)
    (unset : self.lastTickCleanupRan = false) (predicted : self.actionable = true)
    : (self.handlePressure tick level).1.lastTickCleanupRan
      = !(self.handlePressure tick level).2.isEmpty := by
  have unclear : self.lastPredictiveAction.isClear = false := by
    unfold actionable at predicted
    cases action : self.lastPredictiveAction with
    | clear => simp [action, PredictiveAction.severity] at predicted
    | earlyWarning => rfl
    | preemptiveCleanup => rfl
    | imminentDanger => rfl
  unfold handlePressure
  split
  · exact unset
  · cases level with
    | green =>
        dsimp only
        rw [unset, unclear]
        generalize (match self.lastPredictiveAction with
          | .imminentDanger .. => true
          | .clear | .earlyWarning .. | .preemptiveCleanup .. => false) = releases
        cases releases <;> cases behaviorAllowsScan tick.behavior <;> cases tick.inFallback <;> rfl
    | yellow | orange | red | critical =>
        have allowed := allowsScan_of_releases tick
        dsimp only
        rw [unset]
        revert allowed
        cases behaviorShouldReleaseBallast tick.behavior
          <;> cases behaviorAllowsScan tick.behavior <;> decide

theorem tick_outcome (input : ScoredTick F)
    (room : 0 < self.predictionScorecard.maxOutcomes)
    : (self.tick input).2.outcome
      = some (.judge (self.tick input).2.actionable (self.tick input).2.reached
          self.lastTickCleanupRan) :=
  self.predictionScorecard.getLast?_record room _ _ _

theorem tick_flag (input : ScoredTick F) (predicted : (self.tick input).2.actionable = true)
    : (self.tick input).1.lastTickCleanupRan = (self.tick input).2.cleanup :=
  handlePressure_flag _ input _ rfl predicted

theorem tick_room (input : ScoredTick F)
    : (self.tick input).1.predictionScorecard.maxOutcomes
      = self.predictionScorecard.maxOutcomes := by
  unfold tick
  dsimp only
  rw [handlePressure_frame]
  rfl

/-- A tick judges the one before exactly if both predicted danger or neither did. -/
theorem judges_iff (first second : ScoredTick F)
    (room : 0 < self.predictionScorecard.maxOutcomes)
    : (self.tick first).2.Judges ((self.tick first).1.tick second).2
      ↔ (self.tick first).2.actionable = ((self.tick first).1.tick second).2.actionable := by
  have outcome := (self.tick first).1.tick_outcome second (self.tick_room first ▸ room)
  unfold TickAccount.Judges
  rw [outcome, Option.some.injEq]
  constructor
  · rintro ⟨same, -⟩
    have inactive := congrArg (· = PredictionOutcome.inactive) same
    simp only [PredictionOutcome.judge_eq_inactive, eq_iff_iff] at inactive
    rw [Bool.eq_iff_iff, ← not_iff_not, Bool.not_eq_true, Bool.not_eq_true, inactive]
  · intro same
    rw [← same]
    cases predicted : (self.tick first).2.actionable with
    | false => exact ⟨rfl, nofun⟩
    | true =>
        rw [self.tick_flag first predicted]
        refine ⟨rfl, fun _ cleanup _ wrong => ?_⟩
        rw [cleanup] at wrong
        exact PredictionOutcome.judge_after_cleanup _ _ (Option.some.inj wrong)

/-- A run judges its predictions exactly if it never begins or ceases to predict danger. -/
theorem accounts_judge_iff (ticks : List (ScoredTick F))
    (room : 0 < self.predictionScorecard.maxOutcomes)
    : (self.accounts ticks).IsChain TickAccount.Judges
      ↔ (self.accounts ticks).IsChain (fun before now => before.actionable = now.actionable) := by
  induction ticks generalizing self with
  | nil => exact iff_of_true .nil .nil
  | cons first rest ih =>
      cases rest with
      | nil => exact iff_of_true (.singleton _) (.singleton _)
      | cons second rest =>
          have later := ih (self.tick first).1 (self.tick_room first ▸ room)
          unfold accounts at later ⊢
          unfold accounts
          rw [List.isChain_cons_cons, List.isChain_cons_cons]
          exact and_congr (self.judges_iff first second room) later

end ScoringDaemon

namespace PredictionScorecard

variable (self : PredictionScorecard)

/-- The confidence that is asked for lies between the configured one and one, and above it only
if more than thirty of a hundred predictions were false alarms.
-/
structure RaisesRightly (base : ℝ) : Prop where
  base_le : base ≤ self.dynamicMinConfidence base
  le_one : self.dynamicMinConfidence base ≤ 1
  onlyAfter : base < self.dynamicMinConfidence base
    → 3 * self.totalActionable < 10 * self.falseAlarms

theorem falseAlarms_le_totalActionable : self.falseAlarms ≤ self.totalActionable :=
  List.countP_mono_left fun outcome _ alarm => by
    rw [beq_iff_eq] at alarm
    simp [alarm]

theorem real_falseAlarmRate_le
    : (self.falseAlarmRate : ℝ) ≤ 3 / 10 ↔ 10 * self.falseAlarms ≤ 3 * self.totalActionable := by
  unfold falseAlarmRate
  have fewer := self.falseAlarms_le_totalActionable
  split_ifs with none
  · refine iff_of_true (by norm_num [real_literal, decimalValue]) (by omega)
  · have positive : (0 : ℝ) < self.totalActionable := by exact_mod_cast Nat.pos_of_ne_zero none
    rw [real_ofNat, real_ofNat, div_le_div_iff₀ positive (by norm_num), mul_comm]
    exact_mod_cast Iff.rfl

theorem real_dynamicMinConfidence (base : ℝ)
    : self.dynamicMinConfidence base
      = if 10 * self.falseAlarms ≤ 3 * self.totalActionable then base
        else min (base + (self.falseAlarmRate - 3 / 10) / (7 / 10) * (1 / 5)) (19 / 20) := by
  have threshold : (0.30 : ℝ) = 3 / 10 := by norm_num [real_literal, decimalValue]
  unfold dynamicMinConfidence
  dsimp only
  rw [threshold]
  simp only [real_le_iff, real_falseAlarmRate_le]
  split_ifs
  · rfl
  · unfold Float64.min
    norm_num [real_le_iff, real_literal, decimalValue]
    split_ifs with low high
    · exact (min_eq_left low).symm
    · exact (min_eq_right high).symm
    · exact absurd (le_total _ _) (not_or.mpr ⟨low, high⟩)

theorem raisesRightly_iff {base : ℝ} (le_one : base ≤ 1)
    : self.RaisesRightly base
      ↔ base ≤ 19 / 20 ∨ 10 * self.falseAlarms ≤ 3 * self.totalActionable := by
  by_cases few : 10 * self.falseAlarms ≤ 3 * self.totalActionable
  · have same : self.dynamicMinConfidence base = base := by
      rw [real_dynamicMinConfidence, if_pos few]
    exact iff_of_true ⟨same.ge, same.symm ▸ le_one, fun raised => absurd same.symm raised.ne⟩
      (.inr few)
  · have raised := self.real_dynamicMinConfidence base
    rw [if_neg few] at raised
    have penalty : 3 / 10 < (self.falseAlarmRate : ℝ) :=
      not_le.mp fun low => few (self.real_falseAlarmRate_le.mp low)
    constructor
    · rintro ⟨base_le, -, -⟩
      rw [raised] at base_le
      exact .inl (base_le.trans (min_le_right _ _))
    · intro bounded
      have low := bounded.resolve_right few
      refine ⟨?_, ?_, fun _ => not_le.mp few⟩
      · rw [raised]
        exact le_min (by linarith) low
      · rw [raised]
        exact (min_le_right _ _).trans (by norm_num)

end PredictionScorecard

def greenTick (predAction : PredictiveAction ℚ) : ScoredTick ℚ where
  first := ⟨predAction, 1, .green, 0⟩
  others := []
  memory := .normal
  disk := .normal
  noRootPathOnPressuredDevice := false
  crossDevices := false
  inFallback := false

end StorageBallast
