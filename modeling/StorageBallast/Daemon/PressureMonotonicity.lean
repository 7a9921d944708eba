import StorageBallast.Daemon.DaemonConfig
import StorageBallast.Foundations.FloatOrder

/-! Whether more pressure is answered with more. The numbers of files to release and deletions do
grow with level and urgency, but for one batch at the mildest level; the intervals and budgets
of the levels are bounded apart from each other, and cross where the configured ones are short
or long.
-/

namespace StorageBallast

open scoped Float64

def scanTimeBudgetSecs : Nat := 300

def effectiveScanBudget (config : DaemonConfig.ScannerConfig) (pressureLevel : PressureLevel)
    : Duration :=
  let baseBudgetSecs :=
    if 0 < config.scanTimeBudgetSecs then config.scanTimeBudgetSecs else scanTimeBudgetSecs
  let budgetSecs :=
    match pressureLevel with
    | .red | .critical | .orange => min (min (baseBudgetSecs * 2) (2 ^ 64 - 1)) 600
    | .green | .yellow => baseBudgetSecs
  .fromSecs budgetSecs

def leastIntervalMs : PressureLevel → Nat
  | .green => 1
  | .yellow => 500
  | .orange => 250
  | .red => 125
  | .critical => 100

variable {F : Type} [Float64 F] [RoundingFloat64 F]

structure AnswersMore (basePoll : Duration) (config : DaemonConfig.ScannerConfig)
    (level : PressureLevel) (urgency : F) (more : PressureLevel) (higher : F) : Prop where
  interval
    : (responsePolicy basePoll more higher).1 ≤ (responsePolicy basePoll level urgency).1
  release
    : (responsePolicy basePoll level urgency).2.1 ≤ (responsePolicy basePoll more higher).2.1
  batch
    : (responsePolicy basePoll level urgency).2.2 ≤ (responsePolicy basePoll more higher).2.2
  budget : effectiveScanBudget config level ≤ effectiveScanBudget config more

/-- At a level above green the base interval reaches the least one of that level; the urgency at
green does not get above 0.8 before yellow; and what is doubled for the higher levels is not
cut off below what it was.
-/
structure Unsurpassed (basePoll : Duration) (config : DaemonConfig.ScannerConfig)
    (level : PressureLevel) (urgency : F) (more : PressureLevel) : Prop where
  interval : level = .green → more ≠ .green → leastIntervalMs more ≤ basePoll.asMillis
  batch : level = .green → more = .yellow → Float64.gt urgency 0.8 = false
  budget : level.rank < 2 → 2 ≤ more.rank → config.scanTimeBudgetSecs ≤ 600

section

variable {level more : PressureLevel} {urgency higher : F}

def intervalMs (baseMs : Nat) : PressureLevel → Nat
  | .green => max baseMs 1
  | .yellow => max (baseMs / 2) 500
  | .orange => max (baseMs / 4) 250
  | .red => max (baseMs / 8) 125
  | .critical => 100

theorem responsePolicy_interval (basePoll : Duration) (level : PressureLevel) (urgency : F)
    : (responsePolicy basePoll level urgency).1
      = .fromMillis (intervalMs (min basePoll.asMillis (2 ^ 64 - 1)) level) := by
  cases level <;> rfl

theorem interval_le_iff (rising : level.rank ≤ more.rank) (basePoll : Duration)
    : (responsePolicy basePoll more higher).1 ≤ (responsePolicy basePoll level urgency).1
      ↔ (level = .green → more ≠ .green → leastIntervalMs more ≤ basePoll.asMillis) := by
  rw [responsePolicy_interval, responsePolicy_interval]
  have scaled (a b : Nat) : Duration.fromMillis a ≤ Duration.fromMillis b ↔ a ≤ b :=
    Nat.mul_le_mul_right_iff (by decide)
  rw [scaled]
  cases level <;> cases more <;>
    simp [intervalMs, leastIntervalMs, PressureLevel.rank] at rising ⊢ <;> omega

omit [Float64 F] [RoundingFloat64 F] in
theorem budget_le_iff (rising : level.rank ≤ more.rank) (config : DaemonConfig.ScannerConfig)
    : effectiveScanBudget config level ≤ effectiveScanBudget config more
      ↔ (level.rank < 2 → 2 ≤ more.rank → config.scanTimeBudgetSecs ≤ 600) := by
  have scaled (a b : Nat) : Duration.fromSecs a ≤ Duration.fromSecs b ↔ a ≤ b :=
    Nat.mul_le_mul_right_iff (by decide)
  unfold effectiveScanBudget scanTimeBudgetSecs
  dsimp only
  rw [scaled]
  cases level <;> cases more <;> simp [PressureLevel.rank] at rising ⊢ <;> split <;> omega

def releaseBounds : PressureLevel → Nat × Nat
  | .green => (0, 0)
  | .yellow => (0, 1)
  | .orange => (1, 3)
  | .red => (3, 5)
  | .critical => (10, 10)

theorem release_bounds (basePoll : Duration) (level : PressureLevel) (urgency : F)
    : (releaseBounds level).1 ≤ (responsePolicy basePoll level urgency).2.1
      ∧ (responsePolicy basePoll level urgency).2.1 ≤ (releaseBounds level).2 := by
  unfold responsePolicy releaseBounds
  cases level with
  | green | critical => exact ⟨le_rfl, le_rfl⟩
  | yellow | orange | red => dsimp only; split <;> decide

omit [Float64 F] [RoundingFloat64 F] in
theorem releaseBounds_apart (higher : level.rank < more.rank)
    : (releaseBounds level).2 ≤ (releaseBounds more).1 := by
  cases level <;> cases more <;> simp [PressureLevel.rank, releaseBounds] at higher ⊢

variable [StrictFloat64 F]

omit [RoundingFloat64 F] in
/-- One of two counts by whether the urgency is above a number. -/
theorem count_by_urgency {bound : F} {few many : Nat} (urgent : Float64.le urgency higher = true)
    (le : few ≤ many)
    : (if Float64.gt urgency bound then many else few)
      ≤ if Float64.gt higher bound then many else few := by
  split
  · rename_i above
    have alsoAbove : Float64.gt higher bound = true := StrictFloat64.lt_of_lt_of_le above urgent
    rw [if_pos alsoAbove]
  · split
    · exact le
    · exact le_rfl

theorem release_le (rising : level.rank ≤ more.rank) (urgent : Float64.le urgency higher = true)
    (basePoll : Duration)
    : (responsePolicy basePoll level urgency).2.1
      ≤ (responsePolicy basePoll more higher).2.1 := by
  rcases rising.lt_or_eq with above | same
  · exact (release_bounds basePoll level urgency).2.trans
      ((releaseBounds_apart above).trans (release_bounds basePoll more higher).1)
  · have sameLevel : level = more := by
      cases level <;> cases more <;> first | rfl | cases same
    subst sameLevel
    cases level with
    | green | critical => exact le_rfl
    | yellow | orange | red => exact count_by_urgency urgent (by decide)

/-- The deletions that are added to a batch grow with the urgency and with the factor. -/
theorem addedBatch_le [MonotoneFloat64 F] (urgent : Float64.le urgency higher = true)
    {m n : Nat} {s t : Bool} {d e : Nat} (large : 1 ≤ decimalValue m s d)
    (le : decimalValue m s d ≤ decimalValue n t e) (small : decimalValue n t e ≤ 1000)
    : RoundingFloat64.toNat (Float64.max (urgency - 0.5) 0.0 * (Float64.ofDecimal m s d : F))
      ≤ RoundingFloat64.toNat
          (Float64.max (higher - 0.5) 0.0 * (Float64.ofDecimal n t e : F)) := by
  have zero := LawfulFloat64.decimal_le_self (F := F) 0 true 1
  have exceeds : Float64.le (urgency - 0.5) (higher - 0.5) = true :=
    MonotoneFloat64.sub_decimal urgent (by norm_num [decimalValue])
  exact MonotoneFloat64.toNat_mono (MonotoneFloat64.mul_decimal (StrictFloat64.le_max_right zero)
    (StrictFloat64.max_mono exceeds zero) large le small)

theorem batch_le_iff [MonotoneFloat64 F] (rising : level.rank ≤ more.rank)
    (urgent : Float64.le urgency higher = true) (basePoll : Duration)
    : (responsePolicy basePoll level urgency).2.2 ≤ (responsePolicy basePoll more higher).2.2
      ↔ (level = .green → more = .yellow → Float64.gt urgency 0.8 = false) := by
  have raised (bound : F) (above : Float64.gt urgency bound = true)
      : Float64.gt higher bound = true := StrictFloat64.lt_of_lt_of_le above urgent
  cases level with
  | green =>
      have green : (responsePolicy basePoll .green urgency).2.2 ≤ 10 := by
        simp only [responsePolicy]
        split_ifs <;> decide
      cases more with
      | green =>
          refine iff_of_true ?_ (by simp)
          have first := raised 0.8
          have second := raised 0.5
          simp only [responsePolicy]
          split_ifs <;> simp_all
      | yellow =>
          simp only [responsePolicy, true_implies]
          cases Float64.gt urgency 0.8 <;> cases Float64.gt urgency 0.5 <;> simp
      | orange => exact iff_of_true green (by simp)
      | red => exact iff_of_true (green.trans (by simp only [responsePolicy]; omega)) (by simp)
      | critical => exact iff_of_true (green.trans (by simp only [responsePolicy]; omega)) (by simp)
  | yellow | orange =>
      refine iff_of_true ?_ (by simp)
      cases more <;> simp [PressureLevel.rank] at rising <;> simp only [responsePolicy] <;> omega
  | red =>
      refine iff_of_true ?_ (by simp)
      cases more with
      | green | yellow | orange => simp [PressureLevel.rank] at rising
      | red =>
          have added := addedBatch_le urgent (m := 600) (n := 600) (s := true) (t := true)
            (d := 1) (e := 1) (by norm_num [decimalValue]) le_rfl (by norm_num [decimalValue])
          exact Nat.add_le_add_left added 20
      | critical =>
          have added := addedBatch_le urgent (m := 600) (n := 1200) (s := true) (t := true)
            (d := 1) (e := 1) (by norm_num [decimalValue]) (by norm_num [decimalValue])
            (by norm_num [decimalValue])
          exact Nat.add_le_add (by decide) added
  | critical =>
      refine iff_of_true ?_ (by simp)
      cases more with
      | green | yellow | orange | red => simp [PressureLevel.rank] at rising
      | critical =>
          have added := addedBatch_le urgent (m := 1200) (n := 1200) (s := true) (t := true)
            (d := 1) (e := 1) (by norm_num [decimalValue]) le_rfl (by norm_num [decimalValue])
          exact Nat.add_le_add_left added 40

end

/-- More pressure and more urgency are answered with no less exactly where the bounds of the
levels do not cross.
-/
theorem answersMore_iff [StrictFloat64 F] [MonotoneFloat64 F] (basePoll : Duration)
    (config : DaemonConfig.ScannerConfig) {level more : PressureLevel}
    (rising : level.rank ≤ more.rank) {urgency higher : F}
    (urgent : Float64.le urgency higher = true)
    : AnswersMore basePoll config level urgency more higher
      ↔ Unsurpassed basePoll config level urgency more := by
  constructor
  · intro answers
    exact ⟨(interval_le_iff rising basePoll).mp answers.interval,
      (batch_le_iff rising urgent basePoll).mp answers.batch,
      (budget_le_iff rising config).mp answers.budget⟩
  · intro unsurpassed
    exact ⟨(interval_le_iff rising basePoll).mpr unsurpassed.interval,
      release_le rising urgent basePoll,
      (batch_le_iff rising urgent basePoll).mpr unsurpassed.batch,
      (budget_le_iff rising config).mpr unsurpassed.budget⟩

def defaultScanner : DaemonConfig.ScannerConfig :=
  (DaemonConfig.withRoots (F := ℚ) ⟨.ok [], none, id, fun _ => .ok ()⟩ []).scanner

theorem defaultScanner_answersMore_iff
    : AnswersMore (.fromSecs 4) defaultScanner .green (1 / 2 : ℝ) .critical 1
      ↔ Unsurpassed (.fromSecs 4) defaultScanner .green (1 / 2 : ℝ) .critical :=
  answersMore_iff _ _ (by decide) (real_le_iff.mpr (by norm_num))

/-- By default the time of a scan is cut by a third as the level rises to orange. An interval of a
tenth of a second becomes five times as long at yellow, and an urgent batch half as large.
-/
theorem defaultScanner_crosses
    : ¬ AnswersMore (.fromSecs 4) defaultScanner .yellow (3 / 5 : ℚ) .orange (3 / 5)
      ∧ ¬ AnswersMore (.fromMillis 100) defaultScanner .green (0 : ℚ) .yellow 0
      ∧ ¬ AnswersMore (.fromSecs 4) defaultScanner .green (9 / 10 : ℚ) .yellow (9 / 10) := by
  refine ⟨fun answers => ?_, fun answers => ?_, fun answers => ?_⟩
  · exact absurd answers.budget (by decide)
  · exact absurd answers.interval (by decide)
  · exact absurd answers.batch (by decide +kernel)

end StorageBallast
