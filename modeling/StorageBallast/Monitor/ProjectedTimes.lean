import StorageBallast.Foundations.RealFloats
import StorageBallast.Foundations.UniformMotion
import StorageBallast.Monitor.RateEstimator

/-! The projected time over the extended reals is the first arrival of a uniformly changing motion,
but for a motion that slows down and is almost at rest from the start.
-/

namespace StorageBallast

open scoped Float64
open Motion (travelled arrivals)

namespace DiskRateEstimator

theorem extended_zero
    : @OfScientific.ofScientific EReal Float64.instOfScientific 0 true 1 = ((0 : ℝ) : EReal) := by
  rw [ExtendedReals.literal]
  simp [decimalValue]

theorem extended_two
    : @OfScientific.ofScientific EReal Float64.instOfScientific 20 true 1 = ((2 : ℝ) : EReal) := by
  rw [ExtendedReals.literal]
  norm_num [decimalValue]

theorem extended_nano
    : @OfScientific.ofScientific EReal Float64.instOfScientific 1 true 9
      = ((1 / 10 ^ 9 : ℝ) : EReal) := by
  rw [ExtendedReals.literal]
  norm_num [decimalValue]

variable {rate accel distance : ℝ}

theorem projectTime_arrived (nowhere : distance ≤ 0)
    : projectTime (rate : EReal) (accel : EReal) (distance : EReal) = 0 := by
  unfold projectTime
  simp only [extended_zero, ExtendedReals.le_iff, EReal.coe_le_coe_iff]
  rw [if_pos nowhere, EReal.coe_zero]

theorem projectTime_idle (ahead : 0 < distance) (idle : rate ≤ 0)
    : projectTime (rate : EReal) (accel : EReal) (distance : EReal) = ⊤ := by
  unfold projectTime
  simp only [extended_zero, ExtendedReals.le_iff, EReal.coe_le_coe_iff]
  rw [if_neg (not_le.mpr ahead), if_pos idle]
  rfl

theorem projectTime_steady (ahead : 0 < distance) (moving : 0 < rate)
    (steady : |accel| < 1 / 10 ^ 9)
    : projectTime (rate : EReal) (accel : EReal) (distance : EReal)
      = ((distance / rate : ℝ) : EReal) := by
  unfold projectTime
  simp only [extended_zero, extended_nano, ExtendedReals.le_iff, ExtendedReals.lt_iff,
    ExtendedReals.abs, ExtendedReals.div, EReal.coe_le_coe_iff, EReal.coe_lt_coe_iff]
  rw [if_neg (not_le.mpr ahead), if_neg (not_le.mpr moving), if_pos steady]

theorem projectTime_stopped (ahead : 0 < distance) (moving : 0 < rate)
    (changing : 1 / 10 ^ 9 ≤ |accel|) (stopped : rate * rate + 2 * accel * distance < 0)
    : projectTime (rate : EReal) (accel : EReal) (distance : EReal) = ⊤ := by
  unfold projectTime
  simp only [extended_zero, extended_two, extended_nano, ExtendedReals.le_iff,
    ExtendedReals.lt_iff, ExtendedReals.abs, ExtendedReals.mul, ExtendedReals.mulAdd,
    EReal.coe_le_coe_iff, EReal.coe_lt_coe_iff]
  rw [if_neg (not_le.mpr ahead), if_neg (not_le.mpr moving), if_neg (not_lt.mpr changing),
    if_pos stopped]
  rfl

/-- With a real discriminant the answer is the root, if it is a time to come. -/
theorem projectTime_root (ahead : 0 < distance) (moving : 0 < rate)
    (changing : 1 / 10 ^ 9 ≤ |accel|) (real : 0 ≤ rate * rate + 2 * accel * distance)
    : (motionRoot (rate : EReal) (accel : EReal) (distance : EReal)
          ((√(rate * rate + 2 * accel * distance) : ℝ) : EReal) = none
        → projectTime (rate : EReal) (accel : EReal) (distance : EReal) = ⊤)
      ∧ ∀ time : ℝ, 0 < time
        → motionRoot (rate : EReal) (accel : EReal) (distance : EReal)
            ((√(rate * rate + 2 * accel * distance) : ℝ) : EReal) = some (time : EReal)
        → projectTime (rate : EReal) (accel : EReal) (distance : EReal) = (time : EReal) := by
  unfold projectTime
  simp only [extended_zero, extended_two, extended_nano, ExtendedReals.le_iff,
    ExtendedReals.lt_iff, ExtendedReals.abs, ExtendedReals.mul, ExtendedReals.mulAdd,
    ExtendedReals.sqrt, EReal.coe_le_coe_iff, EReal.coe_lt_coe_iff]
  rw [if_neg (not_le.mpr ahead), if_neg (not_le.mpr moving), if_neg (not_lt.mpr changing),
    if_neg (not_lt.mpr real)]
  constructor
  · intro none
    rw [none]
    rfl
  · intro time positive root
    have later : Float64.gt (time : EReal) ((0 : ℝ) : EReal) = true :=
      ExtendedReals.gt_iff.mpr (EReal.coe_lt_coe_iff.mpr positive)
    rw [root]
    dsimp only
    rw [later, ExtendedReals.isFinite]
    rfl

theorem motionRoot_speeding (speeding : 0 ≤ accel) (root : ℝ)
    : motionRoot (rate : EReal) (accel : EReal) (distance : EReal) (root : EReal)
      = some (((-rate + root) / accel : ℝ) : EReal) := by
  unfold motionRoot
  simp only [extended_zero, ExtendedReals.lt_iff, ExtendedReals.add, ExtendedReals.div,
    ExtendedReals.neg, EReal.coe_lt_coe_iff]
  rw [if_neg (not_lt.mpr speeding)]

/-- The two ways in which a motion that slows down gives no root. -/
theorem motionRoot_slowing (slowing : accel < 0) (root : ℝ)
    : (|rate + root| < 1 / 2 ^ 52
        → motionRoot (rate : EReal) (accel : EReal) (distance : EReal) (root : EReal) = none)
      ∧ (1 / 2 ^ 52 ≤ |rate + root| → 2 * distance / (rate + root) ≤ -rate / accel
        → motionRoot (rate : EReal) (accel : EReal) (distance : EReal) (root : EReal)
          = some ((2 * distance / (rate + root) : ℝ) : EReal)) := by
  have epsilon : (LimitFloat64.epsilon : EReal) = ((1 / 2 ^ 52 : ℝ) : EReal) := rfl
  unfold motionRoot
  simp only [extended_zero, extended_two, epsilon, ExtendedReals.lt_iff, ExtendedReals.gt_iff,
    ExtendedReals.abs, ExtendedReals.mul, ExtendedReals.add, ExtendedReals.div,
    ExtendedReals.neg, EReal.coe_lt_coe_iff]
  rw [if_pos slowing]
  constructor
  · intro vanishing
    rw [if_pos vanishing]
  · intro solid before
    rw [if_neg (not_lt.mpr solid), if_neg (not_lt.mpr before)]

def SolvesMotion (rate accel distance : ℝ) (answer : EReal) : Prop :=
  (∃ time : ℝ, IsLeast (arrivals rate accel distance) time ∧ answer = time)
    ∨ arrivals rate accel distance = ∅ ∧ answer = ⊤

/-- The motion slows down, and the rate at the start and the one on arrival vanish in a sum. -/
structure Vanishing (rate accel distance : ℝ) : Prop where
  slowing : accel < 0
  real : 0 ≤ rate * rate + 2 * accel * distance
  small : rate + √(rate * rate + 2 * accel * distance) < 1 / 2 ^ 52

theorem projectTime_motion (moving : 0 < rate) (changing : 1 / 10 ^ 9 ≤ |accel|)
    (ahead : 0 < distance)
    : (¬ Vanishing rate accel distance
        → SolvesMotion rate accel distance
          (projectTime (rate : EReal) (accel : EReal) (distance : EReal)))
      ∧ (Vanishing rate accel distance
        → projectTime (rate : EReal) (accel : EReal) (distance : EReal) = ⊤) := by
  rcases lt_or_ge (rate * rate + 2 * accel * distance) 0 with stopped | real
  · have never := projectTime_stopped ahead moving changing stopped
    exact ⟨fun _ => .inr ⟨Motion.arrivals_eq_empty stopped, never⟩, fun _ => never⟩
  obtain ⟨rejected, accepted⟩ := projectTime_root ahead moving changing real
  have nonneg := Real.sqrt_nonneg (rate * rate + 2 * accel * distance)
  rcases lt_or_ge accel 0 with slowing | speeding
  · obtain ⟨least, before⟩ := Motion.isLeast_slowing moving slowing ahead real
    obtain ⟨vanishes, solves⟩ := @motionRoot_slowing rate accel distance slowing
      √(rate * rate + 2 * accel * distance)
    rw [abs_of_nonneg (by linarith)] at vanishes solves
    constructor
    · intro solid
      have large : 1 / 2 ^ 52 ≤ rate + √(rate * rate + 2 * accel * distance) := by
        by_contra small
        exact solid ⟨slowing, real, not_le.mp small⟩
      exact .inl ⟨_, least, accepted _ least.1.1 (solves large before)⟩
    · intro vanishing
      exact rejected (vanishes vanishing.small)
  · have faster : 0 < accel := by
      rcases speeding.lt_or_eq with faster | steady
      · exact faster
      · rw [← steady, abs_zero] at changing
        norm_num at changing
    have least := Motion.isLeast_speeding moving faster ahead
    refine ⟨fun _ => .inl ⟨_, least, accepted _ least.1.1 (motionRoot_speeding speeding _)⟩, ?_⟩
    intro vanishing
    exact absurd vanishing.slowing (not_lt.mpr speeding)

theorem Vanishing.mono {rate' accel' distance' : ℝ} (vanishing : Vanishing rate' accel' distance')
    (moving : 0 < rate) (faster : rate ≤ rate') (rising : accel ≤ accel') (ahead : 0 < distance')
    (nearer : distance' ≤ distance) (real : 0 ≤ rate * rate + 2 * accel * distance)
    : Vanishing rate accel distance := by
  have squares : rate * rate ≤ rate' * rate' := mul_self_le_mul_self moving.le faster
  have falls : accel * distance ≤ accel' * distance' := by
    calc accel * distance ≤ accel' * distance :=
          mul_le_mul_of_nonneg_right rising (ahead.le.trans nearer)
      _ ≤ accel' * distance' := mul_le_mul_of_nonpos_left nearer vanishing.slowing.le
  have roots : √(rate * rate + 2 * accel * distance)
      ≤ √(rate' * rate' + 2 * accel' * distance') := Real.sqrt_le_sqrt (by linarith)
  exact ⟨rising.trans_lt vanishing.slowing, real, by linarith [vanishing.small]⟩

/-- A higher rate that rises more and a shorter distance take no longer: where the one motion
arrives, the other has come at least as far.
-/
theorem projectTime_mono {rate' accel' distance' : ℝ} (moving : 0 < rate)
    (changing : 1 / 10 ^ 9 ≤ |accel|) (changing' : 1 / 10 ^ 9 ≤ |accel'|)
    (faster : rate ≤ rate') (rising : accel ≤ accel') (ahead : 0 < distance')
    (nearer : distance' ≤ distance)
    : projectTime (rate' : EReal) (accel' : EReal) (distance' : EReal)
      ≤ projectTime (rate : EReal) (accel : EReal) (distance : EReal) := by
  obtain ⟨solves, vanishes⟩ := projectTime_motion moving changing (ahead.trans_le nearer)
  obtain ⟨solves', -⟩ := projectTime_motion (moving.trans_le faster) changing' ahead
  by_cases vanishing : Vanishing rate accel distance
  · rw [vanishes vanishing]
    exact le_top
  rcases solves vanishing with ⟨time, least, answer⟩ | ⟨-, answer⟩
  · rw [answer]
    obtain ⟨positive, covers⟩ := least.1
    have covered : distance' ≤ travelled rate' accel' time := by
      refine nearer.trans (covers.symm.le.trans ?_)
      unfold travelled
      have rates := mul_le_mul_of_nonneg_right faster positive.le
      have gains := mul_le_mul_of_nonneg_right rising (sq_nonneg time)
      linarith
    obtain ⟨arrival, arrives, within⟩ := Motion.exists_arrival_le ahead positive covered
    have real : 0 ≤ rate * rate + 2 * accel * distance := by
      by_contra stopped
      exact Set.eq_empty_iff_forall_notMem.mp
        (Motion.arrivals_eq_empty (not_le.mp stopped)) time least.1
    have solid : ¬ Vanishing rate' accel' distance' :=
      fun vanishing' => vanishing (vanishing'.mono moving faster rising ahead nearer real)
    rcases solves' solid with ⟨first, least', answer'⟩ | ⟨never, -⟩
    · rw [answer', EReal.coe_le_coe_iff]
      exact (least'.2 arrives).trans within
    · exact absurd arrives (Set.eq_empty_iff_forall_notMem.mp never arrival)
  · rw [answer]
    exact le_top

/-- A motion that covers a whole unit does not start that slowly. -/
theorem not_vanishing_of_one_le (moving : 0 < rate) (changing : 1 / 10 ^ 9 ≤ |accel|)
    (far : 1 ≤ distance) : ¬ Vanishing rate accel distance := by
  rintro ⟨slowing, real, small⟩
  rw [abs_of_neg slowing] at changing
  have root := Real.sqrt_nonneg (rate * rate + 2 * accel * distance)
  have slow : rate < 1 / 2 ^ 52 := by linarith
  have square : rate * rate < 1 / 2 ^ 52 * (1 / 2 ^ 52) :=
    mul_self_lt_mul_self moving.le slow
  have braked : accel * distance ≤ -(1 / 10 ^ 9) := by nlinarith
  norm_num at square braked
  linarith

/-- The projected time is the first at which the motion covers the distance, or infinity if it
never does or if it slows down and vanishes, which it does not over a distance of one and more.
It grows with the distance and falls with the rate and the acceleration.
-/
theorem projectTime_solves (moving : 0 < rate) (changing : 1 / 10 ^ 9 ≤ |accel|)
    (ahead : 0 < distance)
    : (¬ Vanishing rate accel distance
        → SolvesMotion rate accel distance
          (projectTime (rate : EReal) (accel : EReal) (distance : EReal)))
      ∧ (Vanishing rate accel distance
        → projectTime (rate : EReal) (accel : EReal) (distance : EReal) = ⊤)
      ∧ (1 ≤ distance → ¬ Vanishing rate accel distance)
      ∧ (∀ further : ℝ, distance ≤ further
        → projectTime (rate : EReal) (accel : EReal) (distance : EReal)
          ≤ projectTime (rate : EReal) (accel : EReal) (further : EReal))
      ∧ (∀ faster : ℝ, rate ≤ faster
        → projectTime (faster : EReal) (accel : EReal) (distance : EReal)
          ≤ projectTime (rate : EReal) (accel : EReal) (distance : EReal))
      ∧ ∀ rising : ℝ, accel ≤ rising → 1 / 10 ^ 9 ≤ |rising|
        → projectTime (rate : EReal) (rising : EReal) (distance : EReal)
          ≤ projectTime (rate : EReal) (accel : EReal) (distance : EReal) := by
  obtain ⟨solves, vanishes⟩ := projectTime_motion moving changing ahead
  refine ⟨solves, vanishes, not_vanishing_of_one_le moving changing, ?_, ?_, ?_⟩
  · intro further longer
    exact projectTime_mono moving changing changing le_rfl le_rfl ahead longer
  · intro faster more
    exact projectTime_mono moving changing changing more le_rfl ahead le_rfl
  · intro rising more changing'
    exact projectTime_mono moving changing changing' le_rfl more ahead le_rfl

/-- From two units a second, one more in each second, ten units away. -/
theorem speedingMotion_solves
    : (¬ Vanishing 2 1 10
        → SolvesMotion 2 1 10 (projectTime ((2 : ℝ) : EReal) ((1 : ℝ) : EReal) ((10 : ℝ) : EReal)))
      ∧ (Vanishing 2 1 10
        → projectTime ((2 : ℝ) : EReal) ((1 : ℝ) : EReal) ((10 : ℝ) : EReal) = ⊤)
      ∧ ((1 : ℝ) ≤ 10 → ¬ Vanishing 2 1 10)
      ∧ (∀ further : ℝ, 10 ≤ further
        → projectTime ((2 : ℝ) : EReal) ((1 : ℝ) : EReal) ((10 : ℝ) : EReal)
          ≤ projectTime ((2 : ℝ) : EReal) ((1 : ℝ) : EReal) (further : EReal))
      ∧ (∀ faster : ℝ, 2 ≤ faster
        → projectTime (faster : EReal) ((1 : ℝ) : EReal) ((10 : ℝ) : EReal)
          ≤ projectTime ((2 : ℝ) : EReal) ((1 : ℝ) : EReal) ((10 : ℝ) : EReal))
      ∧ ∀ rising : ℝ, 1 ≤ rising → 1 / 10 ^ 9 ≤ |rising|
        → projectTime ((2 : ℝ) : EReal) (rising : EReal) ((10 : ℝ) : EReal)
          ≤ projectTime ((2 : ℝ) : EReal) ((1 : ℝ) : EReal) ((10 : ℝ) : EReal) :=
  projectTime_solves (by norm_num) (by norm_num) (by norm_num)

/-- A motion that slows down and is almost at rest covers the distance in five billionths of a
second, but infinity is projected.
-/
theorem nearRest_unsolved
    : ¬ SolvesMotion (1 / 10 ^ 17) (-(1 / 10 ^ 9)) (375 / 10 ^ 28)
        (projectTime ((1 / 10 ^ 17 : ℝ) : EReal) ((-(1 / 10 ^ 9) : ℝ) : EReal)
          ((375 / 10 ^ 28 : ℝ) : EReal)) := by
  have moving : (0 : ℝ) < 1 / 10 ^ 17 := by norm_num
  have changing : (1 : ℝ) / 10 ^ 9 ≤ |-(1 / 10 ^ 9)| := by norm_num
  have ahead : (0 : ℝ) < 375 / 10 ^ 28 := by norm_num
  have root : √((1 / 10 ^ 17 : ℝ) * (1 / 10 ^ 17) + 2 * -(1 / 10 ^ 9) * (375 / 10 ^ 28))
      = 5 / 10 ^ 18 := by
    rw [Real.sqrt_eq_iff_mul_self_eq (by norm_num) (by norm_num)]
    norm_num
  have vanishing : Vanishing (1 / 10 ^ 17) (-(1 / 10 ^ 9)) (375 / 10 ^ 28) := by
    refine ⟨by norm_num, by norm_num, ?_⟩
    rw [root]
    norm_num
  have arrival : (5 / 10 ^ 9 : ℝ) ∈ arrivals (1 / 10 ^ 17) (-(1 / 10 ^ 9)) (375 / 10 ^ 28) := by
    refine ⟨by norm_num, ?_⟩
    norm_num [travelled]
  rw [(projectTime_motion moving changing ahead).2 vanishing]
  rintro (⟨time, -, infinite⟩ | ⟨never, -⟩)
  · exact EReal.top_ne_coe time infinite
  · rw [never] at arrival
    exact arrival

end DiskRateEstimator

end StorageBallast
