import StorageBallast.Foundations.RealFloats
import StorageBallast.Monitor.PidController

/-! The pressure level over whole runs of readings: it rises at once, falls step by step and
with the margin, and moves one way only while the readings stay around one threshold.
-/

namespace StorageBallast

open scoped Float64

variable {F : Type} [Float64 F]

namespace PressureThresholds

/-- The threshold that separates a level from the next milder one. -/
def upper (thresholds : PressureThresholds F) : PressureLevel → Option F
  | .critical => some thresholds.redMinFreePct
  | .red => some thresholds.orangeMinFreePct
  | .orange => some thresholds.yellowMinFreePct
  | .yellow => some thresholds.greenMinFreePct
  | .green => none

structure Ordered (thresholds : PressureThresholds F) : Prop where
  red : Float64.le thresholds.redMinFreePct thresholds.orangeMinFreePct = true
  orange : Float64.le thresholds.orangeMinFreePct thresholds.yellowMinFreePct = true
  yellow : Float64.le thresholds.yellowMinFreePct thresholds.greenMinFreePct = true

def InBand (thresholds : PressureThresholds F) (hysteresis : F) (level : PressureLevel)
    (freePct : F) : Prop :=
  ∃ threshold, thresholds.upper level = some threshold
    ∧ Float64.le threshold freePct = true ∧ Float64.lt freePct (threshold + hysteresis) = true

def Alone (thresholds : PressureThresholds F) (hysteresis : F) (level : PressureLevel) : Prop :=
  ∀ threshold, thresholds.upper level = some threshold →
    ∀ other ≠ level, ∀ outside, thresholds.upper other = some outside →
      Float64.lt outside threshold = true
        ∨ Float64.le (threshold + hysteresis) outside = true

end PressureThresholds

variable {thresholds : PressureThresholds F}

/-- At or above the threshold of a level, a percentage is classified as milder. -/
theorem rawClassify_of_upper [StrictFloat64 F]
    (ordered : thresholds.Ordered) {level : PressureLevel} {threshold freePct : F}
    (upper : thresholds.upper level = some threshold)
    (reached : Float64.le threshold freePct = true)
    : (rawClassify freePct thresholds).rank < level.rank := by
  have above {low : F} (below : Float64.le low threshold = true)
      : Float64.lt freePct low = false :=
    StrictFloat64.not_lt_of_le (LawfulFloat64.le_trans below reached)
  have self := (StrictFloat64.ordered_of_le reached).1
  cases level with
  | green => cases upper
  | yellow =>
      cases upper
      have orange := LawfulFloat64.le_trans ordered.orange ordered.yellow
      simp [rawClassify, above self, above ordered.yellow, above orange,
        above (LawfulFloat64.le_trans ordered.red orange), PressureLevel.rank]
  | orange =>
      cases upper
      simp only [rawClassify, above self, above ordered.orange,
        above (LawfulFloat64.le_trans ordered.red ordered.orange)]
      cases Float64.lt freePct thresholds.greenMinFreePct <;> decide
  | red =>
      cases upper
      simp only [rawClassify, above self, above ordered.red]
      cases Float64.lt freePct thresholds.yellowMinFreePct <;>
        cases Float64.lt freePct thresholds.greenMinFreePct <;> decide
  | critical =>
      cases upper
      simp only [rawClassify, above self]
      cases Float64.lt freePct thresholds.orangeMinFreePct <;>
        cases Float64.lt freePct thresholds.yellowMinFreePct <;>
          cases Float64.lt freePct thresholds.greenMinFreePct <;> decide

/-- What one classification does to the level that was reported before. -/
structure StepsSlowly (thresholds : PressureThresholds F) (hysteresis freePct : F)
    (current next : PressureLevel) : Prop where
  atLeastRaw : (rawClassify freePct thresholds).rank ≤ next.rank
  oneLevel : current.rank ≤ next.rank + 1
  margin : next.rank < current.rank →
    ∃ threshold, thresholds.upper current = some threshold
      ∧ Float64.le (threshold + hysteresis) freePct = true
  notAbove : next.rank ≤ max current.rank (rawClassify freePct thresholds).rank

/-- The level rises to the raw one, stays, or falls by one level with the margin. -/
theorem classifyWithHysteresis_cases (current : PressureLevel) (freePct hysteresis : F)
    (thresholds : PressureThresholds F)
    : (current.rank < (rawClassify freePct thresholds).rank
        ∧ classifyWithHysteresis current freePct hysteresis thresholds
          = rawClassify freePct thresholds)
      ∨ ((rawClassify freePct thresholds).rank ≤ current.rank
        ∧ (classifyWithHysteresis current freePct hysteresis thresholds = current
          ∨ ((classifyWithHysteresis current freePct hysteresis thresholds).rank + 1
              = current.rank
            ∧ ∃ threshold, thresholds.upper current = some threshold
              ∧ Float64.le (threshold + hysteresis) freePct = true))) := by
  by_cases attack : current.rank < (rawClassify freePct thresholds).rank
  · exact Or.inl ⟨attack, if_pos attack⟩
  · refine Or.inr ⟨Nat.le_of_not_lt attack, ?_⟩
    unfold classifyWithHysteresis
    rw [if_neg attack]
    cases current with
    | green => exact Or.inl rfl
    | critical | red | orange | yellow =>
        dsimp only
        split
        · rename_i cleared
          exact Or.inr ⟨rfl, _, rfl, cleared⟩
        · exact Or.inl rfl

theorem classifyWithHysteresis_slow [StrictFloat64 F]
    (ordered : thresholds.Ordered) {hysteresis : F}
    (nonneg : Float64.le 0.0 hysteresis = true) (current : PressureLevel) (freePct : F)
    : StepsSlowly thresholds hysteresis freePct current
        (classifyWithHysteresis current freePct hysteresis thresholds) := by
  obtain ⟨attack, same⟩ | ⟨mild, same | ⟨down, threshold, upper, cleared⟩⟩ :=
    classifyWithHysteresis_cases current freePct hysteresis thresholds
  · rw [same]
    exact ⟨le_rfl, by omega, by omega, le_max_right _ _⟩
  · rw [same]
    exact ⟨mild, by omega, by omega, le_max_left _ _⟩
  · have milder := rawClassify_of_upper ordered upper
      (StrictFloat64.le_of_add_le nonneg cleared)
    exact ⟨by omega, by omega, fun _ => ⟨threshold, upper, cleared⟩, by omega⟩

/-- All percentages in the band of a lone threshold are classified alike. -/
theorem rawClassify_inBand [StrictFloat64 F]
    {hysteresis : F} {level : PressureLevel} (alone : thresholds.Alone hysteresis level)
    {first second : F} (inFirst : thresholds.InBand hysteresis level first)
    (inSecond : thresholds.InBand hysteresis level second)
    : rawClassify first thresholds = rawClassify second thresholds := by
  obtain ⟨threshold, upper, lowFirst, highFirst⟩ := inFirst
  obtain ⟨_, same, lowSecond, highSecond⟩ := inSecond
  cases upper.symm.trans same
  have alike (other : PressureLevel) {outside : F}
      (other_upper : thresholds.upper other = some outside)
      : Float64.lt first outside = Float64.lt second outside := by
    by_cases here : other = level
    · subst here
      cases upper.symm.trans other_upper
      rw [StrictFloat64.not_lt_of_le lowFirst, StrictFloat64.not_lt_of_le lowSecond]
    · rcases alone threshold upper other here outside other_upper with below | above
      · have under := StrictFloat64.le_of_lt below
        rw [StrictFloat64.not_lt_of_le (LawfulFloat64.le_trans under lowFirst),
          StrictFloat64.not_lt_of_le (LawfulFloat64.le_trans under lowSecond)]
      · rw [StrictFloat64.lt_of_lt_of_le highFirst above,
          StrictFloat64.lt_of_lt_of_le highSecond above]
  unfold rawClassify
  rw [alike .critical rfl, alike .red rfl, alike .orange rfl, alike .yellow rfl]

def moves : List PressureLevel → List Bool
  | first :: second :: rest =>
      if first.rank = second.rank then moves (second :: rest)
      else decide (first.rank < second.rank) :: moves (second :: rest)
  | _ => []

def directionChanges (levels : List PressureLevel) : Nat :=
  ((moves levels).zip (moves levels).tail).countP fun pair => pair.1 != pair.2

/-- A sequence that only moves one way has moves of one kind, by induction. -/
theorem moves_of_oneWay {levels : List PressureLevel} {rises : Bool}
    (oneWay : levels.IsChain fun first second =>
      first.rank ≠ second.rank → decide (first.rank < second.rank) = rises)
    : ∀ move ∈ moves levels, move = rises := by
  induction levels with
  | nil => simp [moves]
  | cons first rest ih =>
      cases rest with
      | nil => simp [moves]
      | cons second rest =>
          obtain ⟨step, later⟩ := List.isChain_cons_cons.mp oneWay
          unfold moves
          split
          · exact ih later
          · rename_i apart
            exact List.forall_mem_cons.mpr ⟨step apart, ih later⟩

theorem directionChanges_of_oneWay {levels : List PressureLevel} (rises : Bool)
    (oneWay : levels.IsChain fun first second =>
      first.rank ≠ second.rank → decide (first.rank < second.rank) = rises)
    : directionChanges levels = 0 := by
  have all := moves_of_oneWay oneWay
  refine List.countP_eq_zero.mpr fun pair member => ?_
  have left := all pair.1 (List.of_mem_zip member).1
  have right := all pair.2 (List.mem_of_mem_tail (List.of_mem_zip member).2)
  simp [left, right]

namespace PidPressureController

variable [RoundingFloat64 F]

def step (controller : PidPressureController F) (input : PidInput F)
    : PidPressureController F :=
  (controller.update input).1

def levels (controller : PidPressureController F) (inputs : List (PidInput F))
    : List PressureLevel :=
  (Runs.states step controller inputs).map (·.level)

/-- The thresholds are in order, and the margin is not negative. -/
structure Sane (thresholds : PressureThresholds F) (hysteresis : F)
    (controller : PidPressureController F) : Prop where
  ordered : controller.thresholds.Ordered
  nonneg : Float64.le 0.0 controller.hysteresisPct = true
  thresholds : controller.thresholds = thresholds
  hysteresis : controller.hysteresisPct = hysteresis

variable {thresholds : PressureThresholds F} {hysteresis : F}
  {controller : PidPressureController F}

omit [RoundingFloat64 F] in
theorem Sane.step [RoundingFloat64 F] (sane : controller.Sane thresholds hysteresis)
    (input : PidInput F)
    : (controller.step input).Sane thresholds hysteresis :=
  ⟨sane.ordered, sane.nonneg, sane.thresholds, sane.hysteresis⟩

theorem Sane.slow [StrictFloat64 F] (sane : controller.Sane thresholds hysteresis)
    (input : PidInput F)
    : StepsSlowly thresholds hysteresis input.reading.freePct controller.level
        (controller.step input).level := by
  obtain ⟨ordered, nonneg, rfl, rfl⟩ := sane
  exact classifyWithHysteresis_slow ordered nonneg controller.level _

variable {raw : PressureLevel}

/-- An update leads from the level held to the raw one, and no further. -/
theorem Sane.towards [StrictFloat64 F] (sane : controller.Sane thresholds hysteresis)
    {input : PidInput F} (same : rawClassify input.reading.freePct thresholds = raw)
    : (controller.step input).level.rank ≤ max controller.level.rank raw.rank
      ∧ raw.rank ≤ (controller.step input).level.rank := by
  have slow := sane.slow input
  rw [← same]
  exact ⟨slow.notAbove, slow.atLeastRaw⟩

theorem levels_cons (controller : PidPressureController F) (input : PidInput F)
    (rest : List (PidInput F))
    : controller.levels (input :: rest)
        = controller.level :: (controller.step input).levels rest := rfl

theorem head?_levels (controller : PidPressureController F) (inputs : List (PidInput F))
    : (controller.levels inputs).head? = some controller.level := by
  cases inputs <;> rfl

variable {stretch : List (PidInput F)}

/-- Above the raw level of all readings the level never rises, by induction on the readings. -/
theorem Sane.falls [StrictFloat64 F] (sane : controller.Sane thresholds hysteresis)
    (above : raw.rank ≤ controller.level.rank)
    (constant : ∀ input ∈ stretch, rawClassify input.reading.freePct thresholds = raw)
    : (controller.levels stretch).IsChain fun first second => second.rank ≤ first.rank := by
  induction stretch generalizing controller with
  | nil => exact List.isChain_singleton _
  | cons input rest ih =>
      obtain ⟨same, later⟩ := List.forall_mem_cons.mp constant
      obtain ⟨down, stays⟩ := sane.towards same
      rw [levels_cons]
      refine List.isChain_cons.mpr ⟨?_, ih (sane.step input) stays later⟩
      intro next first
      rw [head?_levels] at first
      cases first
      exact down.trans_eq (Nat.max_eq_left above)

/-- Once the level is the raw one of all readings it stays, by induction on the readings. -/
theorem Sane.settled [StrictFloat64 F] (sane : controller.Sane thresholds hysteresis)
    (here : controller.level.rank = raw.rank)
    (constant : ∀ input ∈ stretch, rawClassify input.reading.freePct thresholds = raw)
    : ∀ level ∈ controller.levels stretch, level.rank = raw.rank := by
  induction stretch generalizing controller with
  | nil =>
      intro level member
      rw [List.mem_singleton.mp member]
      exact here
  | cons input rest ih =>
      obtain ⟨same, later⟩ := List.forall_mem_cons.mp constant
      obtain ⟨down, stays⟩ := sane.towards same
      have next : (controller.step input).level.rank = raw.rank := by omega
      rw [levels_cons]
      exact List.forall_mem_cons.mpr ⟨here, ih (sane.step input) next later⟩

/-- While all readings are classified alike, the level moves one way. -/
theorem Sane.oneWay [StrictFloat64 F] (sane : controller.Sane thresholds hysteresis)
    (constant : ∀ input ∈ stretch, rawClassify input.reading.freePct thresholds = raw)
    : directionChanges (controller.levels stretch) = 0 := by
  rcases Nat.lt_or_ge controller.level.rank raw.rank with below | above
  · refine directionChanges_of_oneWay true ?_
    cases stretch with
    | nil => exact List.isChain_singleton _
    | cons input rest =>
        obtain ⟨same, later⟩ := List.forall_mem_cons.mp constant
        obtain ⟨up, reached⟩ := sane.towards same
        have next : (controller.step input).level.rank = raw.rank := by omega
        have settled := (sane.step input).settled next later
        rw [levels_cons]
        refine List.isChain_cons.mpr ⟨?_, ?_⟩
        · intro level first _
          rw [head?_levels] at first
          cases first
          rw [next]
          exact decide_eq_true below
        · refine List.Pairwise.isChain (List.pairwise_of_forall_mem_list ?_)
          intro first inFirst second inSecond apart
          exact absurd ((settled first inFirst).trans (settled second inSecond).symm) apart
  · refine directionChanges_of_oneWay false ?_
    refine (sane.falls above constant).imp fun first second down apart => ?_
    exact decide_eq_false (Nat.not_lt.mpr down)

end PidPressureController

open PidPressureController in
/-- In every run of the controller the level is at least the raw one, falls by at most one
level in an update, and only with the margin above the threshold of the level that is left;
and along every stretch of readings in the band of a lone threshold it never turns. Witness:
the step law along the run, and one raw level for the whole band.
-/
theorem pressureLevel_hysteretic [RoundingFloat64 F] [StrictFloat64 F]
    (controller : PidPressureController F) (ordered : controller.thresholds.Ordered)
    (nonneg : Float64.le 0.0 controller.hysteresisPct = true) (inputs : List (PidInput F))
    : (∀ taken ∈ Runs.steps step controller inputs,
        StepsSlowly controller.thresholds controller.hysteresisPct taken.2.reading.freePct
          taken.1.level (taken.1.update taken.2).2.level)
      ∧ ∀ before stretch after level, inputs = before ++ stretch ++ after →
          controller.thresholds.Alone controller.hysteresisPct level →
          (∀ input ∈ stretch, controller.thresholds.InBand controller.hysteresisPct level
            input.reading.freePct) →
          directionChanges ((Runs.final step controller before).levels stretch) = 0 := by
  have sane : ∀ reached ∈ Runs.states step controller inputs,
      reached.Sane controller.thresholds controller.hysteresisPct :=
    Runs.invariant_of_kept (fun reached input sane => sane.step input)
      ⟨ordered, nonneg, rfl, rfl⟩
  constructor
  · intro taken member
    exact (sane _ (Runs.step_mem_states member).1).slow taken.2
  · intro before stretch after level split alone band
    have start : (Runs.final step controller before).Sane controller.thresholds
        controller.hysteresisPct :=
      sane _ (Runs.mem_states_iff.mpr ⟨before, stretch ++ after, by simp [split], rfl⟩)
    cases stretch with
    | nil => rfl
    | cons input rest =>
        have constant : ∀ other ∈ input :: rest,
            rawClassify other.reading.freePct controller.thresholds
              = rawClassify input.reading.freePct controller.thresholds :=
          fun other member =>
            rawClassify_inBand alone (band other member) (band input List.mem_cons_self)
        exact start.oneWay constant

noncomputable def mountController : PidPressureController ℝ :=
  .new 0.25 0.08 0.02 100.0 20.0 1.0 ⟨20.0, 14.0, 10.0, 6.0⟩ (.fromSecs 5)

theorem mountController_ordered : mountController.thresholds.Ordered where
  red := LawfulFloat64.decimal_le (by norm_num [decimalValue])
  orange := LawfulFloat64.decimal_le (by norm_num [decimalValue])
  yellow := LawfulFloat64.decimal_le (by norm_num [decimalValue])

theorem mountController_slow
    : StepsSlowly mountController.thresholds mountController.hysteresisPct
        (PressureReading.freePct ⟨5, 100, .root⟩) mountController.level
        (mountController.update ⟨⟨5, 100, .root⟩, none, 0⟩).2.level :=
  (pressureLevel_hysteretic mountController mountController_ordered
    (LawfulFloat64.decimal_le (by norm_num [decimalValue]))
    [⟨⟨5, 100, .root⟩, none, 0⟩]).1 _ List.mem_cons_self

/-- A reading, a setting that a reload changes, or a new start. -/
inductive PidEvent (F : Type) where
  | update (input : PidInput F)
  | setActionHorizonMinutes (minutes : F)
  | setTargetFreePct (target : F)
  | disableUrgencyBoost
  | setBasePollInterval (interval : Duration)
  | setPressureThresholds (thresholds : PressureThresholds F)
  | reset

namespace PidPressureController

open Float64

def reset (self : PidPressureController F) : PidPressureController F :=
  { self with integral := 0.0, lastError := 0.0, lastUpdate := none }

def after [RoundingFloat64 F] [LimitFloat64 F] (self : PidPressureController F)
    : PidEvent F → PidPressureController F
  | .update input => self.step input
  | .setActionHorizonMinutes minutes => self.setActionHorizonMinutes minutes
  | .setTargetFreePct target => self.setTargetFreePct target
  | .disableUrgencyBoost => self.disableUrgencyBoost
  | .setBasePollInterval interval => self.setBasePollInterval interval
  | .setPressureThresholds thresholds => self.setPressureThresholds thresholds
  | .reset => self.reset

theorem after_integral (self : PidPressureController ℝ) (event : PidEvent ℝ)
    (capped : |self.integral| ≤ self.integralCap)
    : (self.after event).integralCap = self.integralCap
      ∧ |(self.after event).integral| ≤ self.integralCap := by
  have positive := (abs_nonneg _).trans capped
  have cleared : |(0.0 : ℝ)| ≤ self.integralCap := by simpa [real_literal, decimalValue]
  cases event with
  | update input =>
      refine ⟨rfl, ?_⟩
      change |if _ then (0.0 : ℝ) else clamp _ (-self.integralCap) self.integralCap| ≤ _
      split
      · exact cleared
      · rw [real_clamp (neg_le_self positive), abs_le]
        exact ⟨le_max_left .., max_le (neg_le_self positive) (min_le_right ..)⟩
  | setTargetFreePct target =>
      -- A new target drops what was gathered for the old one.
      unfold after setTargetFreePct
      dsimp only
      split
      · exact ⟨rfl, cleared⟩
      · exact ⟨rfl, capped⟩
  | reset => exact ⟨rfl, cleared⟩
  | setActionHorizonMinutes | disableUrgencyBoost | setBasePollInterval | setPressureThresholds =>
      exact ⟨rfl, capped⟩

theorem urgency_between (self : PidPressureController ℝ) (input : PidInput ℝ)
    : 0 ≤ (self.update input).2.urgency ∧ (self.update input).2.urgency ≤ 1 := by
  have raised {urgency share : ℝ} (within : 0 ≤ urgency ∧ urgency ≤ 1) (small : share ≤ 1)
      : 0 ≤ Float64.max urgency share ∧ Float64.max urgency share ≤ 1 := by
    rw [real_max]
    exact ⟨le_max_of_le_left within.1, max_le within.2 small⟩
  have followed : 0 ≤ (self.followError input.reading.freePct input.now).2
      ∧ (self.followError input.reading.freePct input.now).2 ≤ 1 := by
    change 0 ≤ clamp _ (0.0 : ℝ) 1.0 ∧ clamp _ (0.0 : ℝ) 1.0 ≤ 1
    rw [real_clamp (by norm_num [real_literal, decimalValue])]
    norm_num [real_literal, decimalValue]
  change 0 ≤ self.boostUrgency _ _ ∧ self.boostUrgency _ _ ≤ 1
  unfold boostUrgency
  split
  · exact followed
  split_ifs
  · exact raised followed (by norm_num [real_literal, decimalValue])
  · exact raised followed (by norm_num [real_literal, decimalValue])
  · exact raised followed (by norm_num [real_literal, decimalValue])
  · exact followed

end PidPressureController

end StorageBallast
