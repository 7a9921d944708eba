import StorageBallast.Foundations.FloatLaws

/-! Conversions between floats and integers, and the laws that hold between numbers only: a
comparison is never true of the unordered value.
-/

namespace StorageBallast

open scoped Float64

/-- The conversions of 64-bit floats that the program uses. -/
class RoundingFloat64 (F : Type) where
  /-- `as u64`: cut off towards zero; what is negative or unordered gives zero. -/
  toNat : F → Nat
  ceil : F → F

/-- Laws of comparisons with one another, and of sums, products and roundings with them. -/
class StrictFloat64 (F : Type) [Float64 F] : Prop extends LawfulFloat64 F where
  le_of_lt {a b : F} : Float64.lt a b = true → Float64.le a b = true
  ordered_of_le {a b : F}
    : Float64.le a b = true → Float64.le a a = true ∧ Float64.le b b = true
  /-- Rounding a sum never brings it below a summand, if the other one is not negative. -/
  le_of_add_le {a h x : F}
    : Float64.le 0.0 h = true → Float64.le (a + h) x = true → Float64.le a x = true
  exp_nonneg {a : F} : Float64.le a a = true → Float64.le 0.0 (Float64.exp a) = true
  one_sub_nonneg {a : F} : Float64.le a 1.0 = true → Float64.le 0.0 (1.0 - a) = true

/-- Products and ceilings of positive numbers are positive. -/
class PositiveFloat64 (F : Type) [Float64 F] [RoundingFloat64 F] : Prop where
  one_le_ofNat {n : Nat} : 1 ≤ n → Float64.le 1.0 (Float64.ofNat n : F) = true
  /-- A factor that is not below one keeps a product from vanishing. -/
  mul_pos {a b : F}
    : Float64.le 1.0 a = true → Float64.lt 0.0 b = true → Float64.lt 0.0 (a * b) = true
  one_le_ceil {a : F}
    : Float64.lt 0.0 a = true → 1 ≤ RoundingFloat64.toNat (RoundingFloat64.ceil a)

namespace StrictFloat64

variable {F : Type} [Float64 F] [StrictFloat64 F] {a b c : F}

theorem lt_of_lt_of_le (below : Float64.lt a b = true) (above : Float64.le b c = true)
    : Float64.lt a c = true := by
  have ordered := (ordered_of_le (le_of_lt below)).1
  cases strict : Float64.lt a c with
  | true => rfl
  | false =>
      have back := LawfulFloat64.le_of_not_lt strict ordered (ordered_of_le above).2
      have around := LawfulFloat64.le_trans above back
      rw [LawfulFloat64.not_le_of_lt below] at around
      cases around

theorem lt_of_le_of_lt (below : Float64.le a b = true) (above : Float64.lt b c = true)
    : Float64.lt a c = true := by
  have ordered := (ordered_of_le (le_of_lt above)).2
  cases strict : Float64.lt a c with
  | true => rfl
  | false =>
      have back := LawfulFloat64.le_of_not_lt strict (ordered_of_le below).1 ordered
      have around := LawfulFloat64.le_trans back below
      rw [LawfulFloat64.not_le_of_lt above] at around
      cases around

theorem lt_trans (below : Float64.lt a b = true) (above : Float64.lt b c = true)
    : Float64.lt a c = true :=
  lt_of_lt_of_le below (le_of_lt above)

theorem not_lt_of_le (reached : Float64.le a b = true) : Float64.lt b a = false :=
  LawfulFloat64.not_gt_of_le reached

theorem lt_irrefl (a : F) : Float64.lt a a = false := by
  cases strict : Float64.lt a a with
  | false => rfl
  | true =>
      have back := LawfulFloat64.not_le_of_lt strict
      rw [le_of_lt strict] at back
      cases back

/-- `f64::max` gives one of its operands, and an ordered one if there is any. -/
theorem max_ordered (ordered : Float64.le b b = true)
    : Float64.le (Float64.max a b) (Float64.max a b) = true := by
  unfold Float64.max
  split
  · exact ordered
  · split
    · rename_i below
      exact (ordered_of_le below).2
    · split
      · assumption
      · exact ordered

theorem le_max_right (ordered : Float64.le b b = true)
    : Float64.le b (Float64.max a b) = true := by
  unfold Float64.max
  split
  · exact ordered
  · split
    · assumption
    · split
      · rename_i notBelow notAbove numbers
        cases strict : Float64.lt b a with
        | true => exact le_of_lt strict
        | false => exact absurd (LawfulFloat64.le_of_not_lt strict ordered numbers) notBelow
      · exact ordered

omit [StrictFloat64 F] in
theorem clamp_ordered {x low high : F} (lowOrdered : Float64.le low low = true)
    (highOrdered : Float64.le high high = true) (ordered : Float64.le x x = true)
    : Float64.le (Float64.clamp x low high) (Float64.clamp x low high) = true := by
  unfold Float64.clamp
  split
  · exact lowOrdered
  · split
    · exact highOrdered
    · exact ordered

end StrictFloat64

instance : RoundingFloat64 ℚ where
  toNat x := min ⌊x⌋.toNat (2 ^ 64 - 1)
  ceil x := ⌈x⌉

noncomputable instance : RoundingFloat64 ℝ where
  toNat x := min ⌊x⌋.toNat (2 ^ 64 - 1)
  ceil x := ⌈x⌉

instance : RoundingFloat64 Float where
  toNat x := x.toUInt64.toNat
  ceil := Float.ceil

instance : PositiveFloat64 ℚ where
  one_le_ofNat := by
    intro n positive
    have one : Float64.ofDecimal 10 true 1 = (1 : ℚ) := by simp [Float64.ofDecimal]
    change decide (Float64.ofDecimal 10 true 1 ≤ (n : ℚ)) = true
    rw [one]
    exact decide_eq_true (by exact_mod_cast positive)
  mul_pos := by
    intro a b
    have one : Float64.ofDecimal 10 true 1 = (1 : ℚ) := by simp [Float64.ofDecimal]
    have zero : Float64.ofDecimal 0 true 1 = (0 : ℚ) := by simp [Float64.ofDecimal]
    change decide (Float64.ofDecimal 10 true 1 ≤ a) = true
      → decide (Float64.ofDecimal 0 true 1 < b) = true
      → decide (Float64.ofDecimal 0 true 1 < a * b) = true
    rw [one, zero, decide_eq_true_eq, decide_eq_true_eq, decide_eq_true_eq]
    intro large positive
    exact mul_pos (zero_lt_one.trans_le large) positive
  one_le_ceil := by
    intro a
    have zero : Float64.ofDecimal 0 true 1 = (0 : ℚ) := by simp [Float64.ofDecimal]
    change decide (Float64.ofDecimal 0 true 1 < a) = true
      → 1 ≤ min ⌊((⌈a⌉ : ℤ) : ℚ)⌋.toNat (2 ^ 64 - 1)
    rw [zero, decide_eq_true_eq, Int.floor_intCast]
    intro positive
    have above := Int.ceil_pos.mpr positive
    omega

instance : StrictFloat64 ℝ where
  le_of_lt := by
    intro a b below
    rw [real_lt_iff] at below
    exact real_le_iff.mpr below.le
  ordered_of_le := fun _ => ⟨real_le_iff.mpr le_rfl, real_le_iff.mpr le_rfl⟩
  le_of_add_le := by
    intro a h x
    change Float64.le (Float64.ofDecimal 0 true 1) h = true → _
    rw [real_le_iff, real_le_iff, real_le_iff, real_zero]
    intro nonneg reached
    exact (le_add_of_nonneg_right nonneg).trans reached
  exp_nonneg := by
    intro a _
    change Float64.le (Float64.ofDecimal 0 true 1) (Real.exp a) = true
    rw [real_le_iff, real_zero]
    exact (Real.exp_pos a).le
  one_sub_nonneg := by
    intro a
    change Float64.le a (Float64.ofDecimal 10 true 1) = true
      → Float64.le (Float64.ofDecimal 0 true 1 : ℝ) (Float64.ofDecimal 10 true 1 - a) = true
    rw [real_le_iff, real_le_iff, real_zero, real_one]
    exact sub_nonneg.mpr

end StorageBallast

/-! The ends of the range of double-precision numbers, and the operations that reach them.
-/

namespace StorageBallast

open scoped Float64

/-- `f64::MAX` and `f64::EPSILON`. -/
class LimitFloat64 (F : Type) where
  maxFinite : F
  epsilon : F

/-- What a projection into the future needs: a value above every number, and square roots. -/
class ProjectingFloat64 (F : Type) where
  infinity : F
  sqrt : F → F

/-- A small literal is a number, and below the greatest one. -/
class LargeLimitFloat64 (F : Type) [Float64 F] [LimitFloat64 F] : Prop where
  minute_lt_maxFinite : Float64.lt (60.0 : F) LimitFloat64.maxFinite = true
  minute_not_lt : Float64.lt (60.0 : F) 60.0 = false

theorem LargeLimitFloat64.maxFinite_ne {F : Type} [Float64 F] [LimitFloat64 F]
    [LargeLimitFloat64 F]
    : (LimitFloat64.maxFinite : F) ≠ 60.0 := by
  intro same
  have above := LargeLimitFloat64.minute_lt_maxFinite (F := F)
  rw [same, LargeLimitFloat64.minute_not_lt] at above
  cases above

instance : LimitFloat64 ℚ where
  maxFinite := 2 ^ 1024 - 2 ^ 971
  epsilon := 1 / 2 ^ 52

attribute [local instance] two_atLeastTwo in
noncomputable instance : LimitFloat64 ℝ where
  maxFinite := 2 ^ 1024 - 2 ^ 971
  epsilon := 1 / 2 ^ 52

instance : LimitFloat64 Float where
  maxFinite := Float.ofBits 0x7FEFFFFFFFFFFFFF
  epsilon := Float.ofBits 0x3CB0000000000000

instance : ProjectingFloat64 Float where
  infinity := Float.div 1 0
  sqrt := Float.sqrt

instance : LargeLimitFloat64 Float where
  minute_lt_maxFinite := by decide +kernel
  minute_not_lt := by decide +kernel

end StorageBallast

/-! The signs of sums, products and quotients. What is not positive may be negative, zero or
unordered, so the laws hold of every operand.
-/

namespace StorageBallast

open scoped Float64

/-- Laws of signs, and the few results that are exact. -/
class SignedFloat64 (F : Type) [Float64 F] : Prop extends StrictFloat64 F where
  /-- A literal that is not tiny does not vanish. -/
  decimal_pos {m : Nat} {s : Bool} {d : Nat}
    : 1 / 1000 ≤ decimalValue m s d → Float64.lt 0.0 (Float64.ofDecimal m s d : F) = true
  sub_nonpos {a b : F} : Float64.lt b a = false → Float64.lt 0.0 (a - b) = false
  mul_nonpos {a b : F}
    : Float64.le 0.0 a = true → Float64.lt 0.0 b = false → Float64.lt 0.0 (a * b) = false
  div_nonpos {a b : F}
    : Float64.lt 0.0 a = false → Float64.lt 0.0 b = true → Float64.lt 0.0 (a / b) = false
  mulAdd_nonpos {a b c : F}
    : Float64.le 0.0 a = true → Float64.lt 0.0 b = false → Float64.lt 0.0 c = false
      → Float64.lt 0.0 (Float64.mulAdd a b c) = false
  mulAdd_comm (a b c : F) : Float64.mulAdd a b c = Float64.mulAdd b a c
  whole_percent : Float64.ofNat 1 * 100.0 / Float64.ofNat 1 = (100.0 : F)
  exp_neg_zero : Float64.exp (-0.0 : F) = 1.0
  one_sub_one : (1.0 : F) - 1.0 = 0.0

namespace SignedFloat64

variable {F : Type} [Float64 F] [SignedFloat64 F]

theorem max_zero {a : F} (nonpos : Float64.lt 0.0 a = false) : Float64.max a 0.0 = 0.0 := by
  have zero : Float64.le (0.0 : F) 0.0 = true := LawfulFloat64.decimal_le_self ..
  unfold Float64.max
  split
  · rfl
  · rename_i above
    split
    · rename_i reached
      exact absurd (LawfulFloat64.le_of_not_lt nonpos zero
        (StrictFloat64.ordered_of_le reached).2) above
    · split
      · rename_i ordered
        exact absurd (LawfulFloat64.le_of_not_lt nonpos zero ordered) above
      · rfl

/-- Clamping to an interval around zero keeps a number from being positive. -/
theorem clamp_nonpos {x low high : F} (nonpos : Float64.lt 0.0 x = false)
    (lowNonpos : Float64.le low 0.0 = true) (highNonneg : Float64.le 0.0 high = true)
    : Float64.lt 0.0 (Float64.clamp x low high) = false := by
  unfold Float64.clamp
  split
  · exact StrictFloat64.not_lt_of_le lowNonpos
  · split
    · rename_i above
      rw [StrictFloat64.lt_of_le_of_lt highNonneg above] at nonpos
      cases nonpos
    · exact nonpos

end SignedFloat64

instance : SignedFloat64 ℝ where
  decimal_pos := by
    intro m s d large
    change Float64.lt (Float64.ofDecimal 0 true 1 : ℝ) _ = true
    rw [real_lt_iff, real_zero]
    have positive : (0 : ℚ) < decimalValue m s d := lt_of_lt_of_le (by norm_num) large
    change (0 : ℝ) < ((decimalValue m s d : ℚ) : ℝ)
    exact_mod_cast positive
  sub_nonpos := by
    intro a b
    change _ → Float64.lt (Float64.ofDecimal 0 true 1 : ℝ) (a - b) = false
    rw [← Bool.not_eq_true, ← Bool.not_eq_true, real_lt_iff, real_lt_iff, real_zero]
    intro below
    linarith
  mul_nonpos := by
    intro a b
    change Float64.le (Float64.ofDecimal 0 true 1 : ℝ) a = true
      → Float64.lt (Float64.ofDecimal 0 true 1 : ℝ) b = false
      → Float64.lt (Float64.ofDecimal 0 true 1 : ℝ) (a * b) = false
    rw [← Bool.not_eq_true, ← Bool.not_eq_true, real_le_iff, real_lt_iff, real_lt_iff, real_zero]
    intro nonneg nonpos
    exact not_lt.mpr (mul_nonpos_of_nonneg_of_nonpos nonneg (not_lt.mp nonpos))
  div_nonpos := by
    intro a b
    change Float64.lt (Float64.ofDecimal 0 true 1 : ℝ) a = false
      → Float64.lt (Float64.ofDecimal 0 true 1 : ℝ) b = true
      → Float64.lt (Float64.ofDecimal 0 true 1 : ℝ) (a / b) = false
    rw [← Bool.not_eq_true, ← Bool.not_eq_true, real_lt_iff, real_lt_iff, real_lt_iff, real_zero]
    intro nonpos positive
    exact not_lt.mpr (div_nonpos_of_nonpos_of_nonneg (not_lt.mp nonpos) positive.le)
  mulAdd_nonpos := by
    intro a b c
    change Float64.le (Float64.ofDecimal 0 true 1 : ℝ) a = true
      → Float64.lt (Float64.ofDecimal 0 true 1 : ℝ) b = false
      → Float64.lt (Float64.ofDecimal 0 true 1 : ℝ) c = false
      → Float64.lt (Float64.ofDecimal 0 true 1 : ℝ) (a * b + c) = false
    rw [← Bool.not_eq_true, ← Bool.not_eq_true, ← Bool.not_eq_true, real_le_iff, real_lt_iff,
      real_lt_iff, real_lt_iff, real_zero]
    intro nonneg nonpos rest
    have product := mul_nonpos_of_nonneg_of_nonpos nonneg (not_lt.mp nonpos)
    linarith
  mulAdd_comm a b c := congrArg (· + c) (mul_comm a b)
  whole_percent := by
    change (((1 : ℕ) : ℝ) * _) / ((1 : ℕ) : ℝ) = _
    simp
  exp_neg_zero := by
    change Real.exp (-(Float64.ofDecimal 0 true 1 : ℝ)) = (Float64.ofDecimal 10 true 1 : ℝ)
    rw [real_zero, real_one, neg_zero, Real.exp_zero]
  one_sub_one := by
    change (Float64.ofDecimal 10 true 1 : ℝ) - Float64.ofDecimal 10 true 1
      = Float64.ofDecimal 0 true 1
    rw [real_zero, sub_self]

instance : LargeLimitFloat64 ℝ where
  minute_lt_maxFinite := by
    have least : (2 : ℝ) ^ 6 ≤ 2 ^ 971 := pow_le_pow_right₀ one_le_two (by decide)
    have scaled : (2 : ℝ) ^ 1024 = 2 ^ 53 * 2 ^ 971 := by rw [← pow_add]
    have large : (60 : ℝ) < 2 ^ 1024 - 2 ^ 971 := by
      rw [scaled]
      generalize (2 : ℝ) ^ 971 = unit at least ⊢
      norm_num at least ⊢
      linarith
    have literal : (Float64.ofDecimal 600 true 1 : ℝ) = 60 := by
      simp [Float64.ofDecimal, decimalValue]
      norm_num
    change Float64.lt (Float64.ofDecimal 600 true 1 : ℝ) _ = true
    rw [real_lt_iff, literal]
    exact large
  minute_not_lt := StrictFloat64.lt_irrefl _

end StorageBallast
