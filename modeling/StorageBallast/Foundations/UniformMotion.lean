import Mathlib.Analysis.SpecialFunctions.Sqrt
import Mathlib.Topology.Order.IntermediateValue

/-! Motion at a rate that changes uniformly, and when it has covered a distance for the first
time.
-/

namespace StorageBallast.Motion

theorem two_atLeastTwo : Nat.AtLeastTwo 2 := inferInstance

attribute [local instance] two_atLeastTwo in
noncomputable def travelled (rate accel time : ℝ) : ℝ := rate * time + accel * time ^ 2 / 2

def arrivals (rate accel distance : ℝ) : Set ℝ :=
  { time | 0 < time ∧ travelled rate accel time = distance }

variable {rate accel distance time : ℝ}

/-- At an arrival the rate has come to the root of the discriminant, or to its opposite. -/
theorem sqrt_of_arrival (arrival : time ∈ arrivals rate accel distance)
    : √(rate * rate + 2 * accel * distance) = |accel * time + rate| := by
  have square : rate * rate + 2 * accel * distance = (accel * time + rate) ^ 2 := by
    rw [← arrival.2, travelled]
    ring
  rw [square, Real.sqrt_sq_eq_abs]

/-- A rate that comes to nothing before never covers the distance. -/
theorem arrivals_eq_empty (stopped : rate * rate + 2 * accel * distance < 0)
    : arrivals rate accel distance = ∅ := by
  refine Set.eq_empty_iff_forall_notMem.mpr fun time arrival => ?_
  have square : rate * rate + 2 * accel * distance = (accel * time + rate) ^ 2 := by
    rw [← arrival.2, travelled]
    ring
  rw [square] at stopped
  exact absurd stopped (not_lt.mpr (sq_nonneg _))

/-- A time after which the rate has changed to the root of the discriminant is an arrival. -/
theorem mem_arrivals_of_sqrt (changing : accel ≠ 0)
    (real : 0 ≤ rate * rate + 2 * accel * distance) (positive : 0 < time)
    (reached : accel * time = √(rate * rate + 2 * accel * distance) - rate)
    : time ∈ arrivals rate accel distance := by
  refine ⟨positive, mul_left_cancel₀ changing ?_⟩
  have square := Real.sq_sqrt real
  have scaled : accel * travelled rate accel time
      = rate * (accel * time) + (accel * time) ^ 2 / 2 := by
    rw [travelled]
    ring
  rw [scaled, reached]
  nlinarith [square]

theorem isLeast_speeding (moving : 0 < rate) (speeding : 0 < accel) (ahead : 0 < distance)
    : IsLeast (arrivals rate accel distance)
        ((-rate + √(rate * rate + 2 * accel * distance)) / accel) := by
  have gain : 0 < 2 * accel * distance := by positivity
  have faster : rate < √(rate * rate + 2 * accel * distance) := by
    rw [Real.lt_sqrt moving.le]
    nlinarith
  have reached : accel * ((-rate + √(rate * rate + 2 * accel * distance)) / accel)
      = √(rate * rate + 2 * accel * distance) - rate := by
    rw [mul_div_cancel₀ _ speeding.ne']
    ring
  refine ⟨mem_arrivals_of_sqrt speeding.ne' (by positivity) ?_ reached, ?_⟩
  · exact div_pos (by linarith) speeding
  · intro time arrival
    have forward : 0 < accel * time + rate := by
      have := mul_pos speeding arrival.1
      linarith
    rw [sqrt_of_arrival arrival, abs_of_pos forward, div_le_iff₀ speeding]
    linarith

/-- Slowing down, the time to cover the distance for the first time. It is not after the time when
the rate comes to nothing.
-/
theorem isLeast_slowing (moving : 0 < rate) (slowing : accel < 0) (ahead : 0 < distance)
    (real : 0 ≤ rate * rate + 2 * accel * distance)
    : IsLeast (arrivals rate accel distance)
        (2 * distance / (rate + √(rate * rate + 2 * accel * distance)))
      ∧ 2 * distance / (rate + √(rate * rate + 2 * accel * distance)) ≤ -rate / accel := by
  have square := Real.sq_sqrt real
  have nonneg := Real.sqrt_nonneg (rate * rate + 2 * accel * distance)
  generalize root : √(rate * rate + 2 * accel * distance) = reach at square nonneg ⊢
  have sum : 0 < rate + reach := by linarith
  have reached : accel * (2 * distance / (rate + reach)) = reach - rate := by
    rw [← mul_div_assoc, div_eq_iff sum.ne']
    nlinarith
  refine ⟨⟨mem_arrivals_of_sqrt slowing.ne real (by positivity) (by rw [root, reached]), ?_⟩, ?_⟩
  · intro time arrival
    have signs := sqrt_of_arrival arrival
    rw [root] at signs
    refine (mul_le_mul_left_of_neg slowing).mp ?_
    rw [reached]
    have := neg_abs_le (accel * time + rate)
    have := le_abs_self (accel * time + rate)
    linarith
  · rw [le_div_iff_of_neg slowing, mul_comm, reached]
    linarith

/-- What is covered at some time was covered for the first time not later. -/
theorem exists_arrival_le (ahead : 0 < distance) (positive : 0 < time)
    (covered : distance ≤ travelled rate accel time)
    : ∃ arrival ∈ arrivals rate accel distance, arrival ≤ time := by
  have continuous : ContinuousOn (travelled rate accel) (Set.Icc 0 time) := by
    unfold travelled
    fun_prop
  have start : travelled rate accel 0 = 0 := by simp [travelled]
  obtain ⟨arrival, ⟨nonneg, within⟩, reached⟩ := intermediate_value_Icc positive.le continuous
    ⟨start.le.trans ahead.le, covered⟩
  refine ⟨arrival, ⟨lt_of_le_of_ne nonneg ?_, reached⟩, within⟩
  rintro rfl
  rw [start] at reached
  exact ahead.ne reached

end StorageBallast.Motion
