import Mathlib.Algebra.Order.Floor.Semifield
import Mathlib.Tactic.Linarith

/-! Numbers that are confined to a range and then cut down to whole steps, one of them at least.
Cutting comes last, so it may lead out of the range again.
-/

namespace StorageBallast.WholeSteps

/-- `Ord::clamp`, for a range that is not empty. -/
def clamp (low high x : Nat) : Nat := if x < low then low else if high < x then high else x

def wholeSteps (step x : Nat) : Nat := max (x / step) 1

def roundUp (step x : Nat) : Nat := (x + step - 1) / step * step

variable {step low high x y n : Nat}

theorem clamp_between (range : low ≤ high) : low ≤ clamp low high x ∧ clamp low high x ≤ high := by
  unfold clamp
  split
  next => omega
  next => split <;> omega

theorem le_clamp_iff (range : low ≤ high) : n ≤ clamp low high x ↔ n ≤ low ∨ n ≤ x ∧ n ≤ high := by
  unfold clamp
  split
  next => omega
  next => split <;> omega

theorem clamp_lt_iff (range : low ≤ high)
    : clamp low high x < n ↔ low < n ∧ (x < n ∨ high < n) := by
  have above := le_clamp_iff (n := n) (x := x) range
  omega

theorem clamp_mono (range : low ≤ high) (below : x ≤ y)
    : clamp low high x ≤ clamp low high y := by
  unfold clamp
  repeat' split
  all_goals omega

theorem wholeSteps_mono (below : x ≤ y) : wholeSteps step x ≤ wholeSteps step y :=
  max_le_max_right 1 (Nat.div_le_div_right below)

theorem one_le_wholeSteps : 1 ≤ wholeSteps step x := le_max_right _ _

theorem wholeSteps_lt_iff (positive : 0 < step) (several : 1 < n)
    : wholeSteps step x < n ↔ x < n * step := by
  rw [wholeSteps, max_lt_iff, Nat.div_lt_iff_lt_mul positive]
  exact and_iff_left several

theorem lt_succ_wholeSteps (positive : 0 < step) : x < (wholeSteps step x + 1) * step := by
  have several : 1 < wholeSteps step x + 1 := Nat.lt_succ_of_le one_le_wholeSteps
  exact (wholeSteps_lt_iff positive several).mp (Nat.lt_succ_self _)

/-- Cutting down leads above a number only from below one step. -/
theorem wholeSteps_mul_le_iff (positive : 0 < step) (below : x ≤ high) (range : low ≤ x)
    : wholeSteps step x * step ≤ high ↔ step ≤ high := by
  constructor
  · intro within
    calc step = 1 * step := (Nat.one_mul step).symm
      _ ≤ wholeSteps step x * step := Nat.mul_le_mul_right step one_le_wholeSteps
      _ ≤ high := within
  · intro room
    have cut := Nat.div_mul_le_self x step
    rcases max_choice (x / step) 1 with whole | one
    · rw [wholeSteps, whole]
      omega
    · rw [wholeSteps, one, Nat.one_mul]
      exact room

/-- A number of steps is not below a number if and only if it is not below the next whole number
of steps.
-/
theorem le_mul_iff_roundUp_le (positive : 0 < step) : x ≤ n * step ↔ roundUp step x ≤ n * step := by
  have cut : (x + step - 1) / step < n + 1 ↔ x + step - 1 < (n + 1) * step :=
    Nat.div_lt_iff_lt_mul positive
  rw [Nat.succ_mul] at cut
  unfold roundUp
  rw [Nat.mul_le_mul_right_iff positive]
  omega

theorem le_roundUp (positive : 0 < step) : x ≤ roundUp step x :=
  (le_mul_iff_roundUp_le positive).mpr (Nat.le_refl _)

theorem roundUp_le_iff_dvd (positive : 0 < step) : roundUp step x ≤ x ↔ step ∣ x := by
  constructor
  · intro down
    have same : roundUp step x = x := Nat.le_antisymm down (le_roundUp positive)
    exact same ▸ Nat.dvd_mul_left step _
  · rintro ⟨n, rfl⟩
    rw [Nat.mul_comm step n]
    exact (le_mul_iff_roundUp_le positive).mp (Nat.le_refl _)

/-- What is cut down is not below a number if and only if one step is not, or the next whole
number of steps was not above what is cut.
-/
theorem le_wholeSteps_mul_iff (positive : 0 < step)
    : low ≤ wholeSteps step x * step ↔ low ≤ step ∨ roundUp step low ≤ x := by
  have cut : low ≤ x / step * step ↔ roundUp step low ≤ x := by
    rw [le_mul_iff_roundUp_le positive]
    unfold roundUp
    rw [Nat.mul_le_mul_right_iff positive, Nat.le_div_iff_mul_le positive]
  rw [← cut, wholeSteps]
  rcases Nat.le_total (x / step) 1 with few | many
  · rw [max_eq_right few, Nat.one_mul]
    have short : x / step * step ≤ 1 * step := Nat.mul_le_mul_right step few
    omega
  · rw [max_eq_left many]
    have long : 1 * step ≤ x / step * step := Nat.mul_le_mul_right step many
    omega

/-- A confined number stays above the lower bound as it is cut down if and only if the bound is a
step at most, or whole steps, or the next whole number of steps is reached.
-/
theorem low_le_wholeSteps_clamp_iff (positive : 0 < step) (range : low ≤ high)
    : low ≤ wholeSteps step (clamp low high x) * step
      ↔ low ≤ step ∨ step ∣ low ∨ roundUp step low ≤ x ∧ roundUp step low ≤ high := by
  rw [le_wholeSteps_mul_iff positive, le_clamp_iff range, roundUp_le_iff_dvd positive]

/-- At most twice as many whole steps are left of a confined number as of another if and only if
it, or the upper bound, is below one step more.
-/
theorem wholeSteps_clamp_le_twice_iff (positive : 0 < step) (range : low ≤ high)
    : wholeSteps step (clamp low high x) ≤ 2 * wholeSteps step (clamp low high y)
      ↔ x < (2 * wholeSteps step (clamp low high y) + 1) * step
        ∨ high < (2 * wholeSteps step (clamp low high y) + 1) * step := by
  have some_ : 1 ≤ wholeSteps step (clamp low high y) := one_le_wholeSteps
  have inRange : low < (2 * wholeSteps step (clamp low high y) + 1) * step := by
    calc low ≤ clamp low high y := (clamp_between range).1
      _ < (wholeSteps step (clamp low high y) + 1) * step := lt_succ_wholeSteps positive
      _ ≤ (2 * wholeSteps step (clamp low high y) + 1) * step :=
        Nat.mul_le_mul_right step (by omega)
  rw [← Nat.lt_succ_iff, wholeSteps_lt_iff positive (by omega), clamp_lt_iff range]
  exact and_iff_right inRange

end StorageBallast.WholeSteps
