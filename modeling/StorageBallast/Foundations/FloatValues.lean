import Mathlib.Tactic.Positivity
import StorageBallast.Foundations.RealFloats

/-! The floats that are numbers: how they are ordered, and that no operation makes a number of the
unordered value, so that a result that passes a comparison comes from operands that are numbers.
-/

namespace StorageBallast

open scoped Float64

/-- What is not the unordered value is below itself. -/
class NumberFloat64 (F : Type) [Float64 F] : Prop where
  le_of_lt {a b : F} : Float64.lt a b = true → Float64.le a b = true
  le_of_not_lt {a b : F}
    : Float64.lt a b = false → Float64.le a a = true → Float64.le b b = true
      → Float64.le b a = true
  le_trans {a b c : F}
    : Float64.le a b = true → Float64.le b c = true → Float64.le a c = true
  ordered_of_le {a b : F}
    : Float64.le a b = true → Float64.le a a = true ∧ Float64.le b b = true
  decimal_le {m n : Nat} {s t : Bool} {d e : Nat}
    : decimalValue m s d ≤ decimalValue n t e
      → Float64.le (Float64.ofDecimal m s d : F) (Float64.ofDecimal n t e) = true
  add_ordered {a b : F}
    : Float64.le (a + b) (a + b) = true → Float64.le a a = true ∧ Float64.le b b = true
  sub_ordered {a b : F}
    : Float64.le (a - b) (a - b) = true → Float64.le a a = true ∧ Float64.le b b = true
  div_ordered {a b : F}
    : Float64.le (a / b) (a / b) = true → Float64.le a a = true ∧ Float64.le b b = true
  mulAdd_ordered {a b c : F}
    : Float64.le (Float64.mulAdd a b c) (Float64.mulAdd a b c) = true
      → Float64.le a a = true ∧ Float64.le b b = true ∧ Float64.le c c = true
  neg_ordered {a : F} : Float64.le (-a) (-a) = true → Float64.le a a = true
  exp_ordered {a : F} : Float64.le (Float64.exp a) (Float64.exp a) = true → Float64.le a a = true

namespace NumberFloat64

variable {F : Type} [Float64 F] [NumberFloat64 F] {x low high : F}

theorem clamp_ordered (ordered : Float64.le (Float64.clamp x low high)
      (Float64.clamp x low high) = true)
    : Float64.le x x = true := by
  revert ordered
  unfold Float64.clamp
  split_ifs with below above
  · exact fun _ => (ordered_of_le (le_of_lt below)).1
  · exact fun _ => (ordered_of_le (le_of_lt above)).2
  · exact id

theorem low_le_of_clamp_le {y : F} (bounds : Float64.le low high = true)
    (reached : Float64.le (Float64.clamp x low high) y = true)
    : Float64.le low y = true := by
  have lowOrdered := (ordered_of_le bounds).1
  have ordered := (ordered_of_le reached).1
  refine le_trans ?_ reached
  revert ordered
  unfold Float64.clamp
  split_ifs with below above
  · exact fun _ => lowOrdered
  · exact fun _ => bounds
  · exact fun ordered => le_of_not_lt (Bool.not_eq_true _ ▸ below) ordered lowOrdered

theorem ge_of_not_lt (notBelow : Float64.lt x low = false) (ordered : Float64.le x x = true)
    (lowOrdered : Float64.le low low = true)
    : Float64.ge x low = true :=
  le_of_not_lt notBelow ordered lowOrdered

end NumberFloat64

instance : NumberFloat64 ℝ where
  le_of_lt below := real_le_iff.mpr (real_lt_iff.mp below).le
  le_of_not_lt notBelow _ _ := LawfulFloat64.le_of_not_lt notBelow (real_le_iff.mpr le_rfl)
    (real_le_iff.mpr le_rfl)
  le_trans := LawfulFloat64.le_trans
  ordered_of_le _ := ⟨real_le_iff.mpr le_rfl, real_le_iff.mpr le_rfl⟩
  decimal_le := LawfulFloat64.decimal_le
  add_ordered _ := ⟨real_le_iff.mpr le_rfl, real_le_iff.mpr le_rfl⟩
  sub_ordered _ := ⟨real_le_iff.mpr le_rfl, real_le_iff.mpr le_rfl⟩
  div_ordered _ := ⟨real_le_iff.mpr le_rfl, real_le_iff.mpr le_rfl⟩
  mulAdd_ordered _ :=
    ⟨real_le_iff.mpr le_rfl, real_le_iff.mpr le_rfl, real_le_iff.mpr le_rfl⟩
  neg_ordered _ := real_le_iff.mpr le_rfl
  exp_ordered _ := real_le_iff.mpr le_rfl

theorem rat_le_iff {a b : ℚ} : Float64.le a b = true ↔ a ≤ b := by
  simp [Float64.le]

theorem rat_le_self (a : ℚ) : Float64.le a a = true := rat_le_iff.mpr le_rfl

/-- The approximations of the exact functions are numbers as well. -/
instance : NumberFloat64 ℚ where
  le_of_lt below := rat_le_iff.mpr (of_decide_eq_true below).le
  le_of_not_lt notBelow _ _ := rat_le_iff.mpr (not_lt.mp (of_decide_eq_false notBelow))
  le_trans first second := rat_le_iff.mpr ((rat_le_iff.mp first).trans (rat_le_iff.mp second))
  ordered_of_le _ := ⟨rat_le_self _, rat_le_self _⟩
  decimal_le le := rat_le_iff.mpr le
  add_ordered _ := ⟨rat_le_self _, rat_le_self _⟩
  sub_ordered _ := ⟨rat_le_self _, rat_le_self _⟩
  div_ordered _ := ⟨rat_le_self _, rat_le_self _⟩
  mulAdd_ordered _ := ⟨rat_le_self _, rat_le_self _, rat_le_self _⟩
  neg_ordered _ := rat_le_self _
  exp_ordered _ := rat_le_self _

end StorageBallast

/-! Floats as rounded reals. An operation on finite operands gives the exact result rounded, so that
bounds of exact results that are floats themselves are bounds of what is calculated. Of rounding
only what holds of every nearest float is used, and that it is exact where it can be.
-/

namespace StorageBallast

open scoped Float64

/-- What the finite floats stand for, and what a real number is rounded to. -/
class ValuedFloat64 (F : Type) where
  value : F → ℝ
  rounded : ℝ → ℝ

open ValuedFloat64 (value)

/-- What a calculation with this exact result gives: it is finite if the result is not beyond all
finite floats, and then it is the result rounded.
-/
structure IsRounded {F : Type} [Float64 F] [ValuedFloat64 F] (exact : ℝ) (x : F) : Prop where
  finite {bound : F} : Float64.isFinite bound = true → |exact| ≤ value bound
    → Float64.isFinite x = true
  value_eq : Float64.isFinite x = true → value x = ValuedFloat64.rounded F exact

/-- The laws of rounding and of the operations that are rounded. -/
class NearestFloat64 (F : Type) [Float64 F] [ValuedFloat64 F] : Prop where
  rounded_mono : Monotone (ValuedFloat64.rounded F)
  rounded_neg (x : ℝ) : ValuedFloat64.rounded F (-x) = -ValuedFloat64.rounded F x
  rounded_value {a : F} : Float64.isFinite a = true
    → ValuedFloat64.rounded F (value a) = value a
  /-- Small integers are floats, and stay so when they are scaled by powers of two. -/
  rounded_scaled {m : ℤ} {k : ℕ} : |m| ≤ 2 ^ 53 → k ≤ 900
    → ValuedFloat64.rounded F (m * 2 ^ k) = m * 2 ^ k
      ∧ ValuedFloat64.rounded F (m / 2 ^ k) = m / 2 ^ k
  /-- Scaling up loses nothing of a float. -/
  rounded_value_scaled {a : F} {k : ℕ} : Float64.isFinite a = true → |value a| ≤ 1 → k ≤ 900
    → ValuedFloat64.rounded F (value a * 2 ^ k) = value a * 2 ^ k
  /-- Rounding is the same at all scales that are not tiny. -/
  rounded_scale {x : ℝ} {k : ℕ} : 1 / 2 ≤ x → x ≤ 2 → k ≤ 900
    → ValuedFloat64.rounded F (x * 2 ^ k) = ValuedFloat64.rounded F x * 2 ^ k
  /-- A weight and its rounded complement make no more than a whole. -/
  rounded_complement {a : F} : Float64.isFinite a = true → 0 ≤ value a → value a ≤ 1
    → ValuedFloat64.rounded F (value a + ValuedFloat64.rounded F (1 - value a)) ≤ 1
  le_iff {a b : F} : Float64.isFinite a = true → Float64.isFinite b = true
    → (Float64.le a b = true ↔ value a ≤ value b)
  lt_iff {a b : F} : Float64.isFinite a = true → Float64.isFinite b = true
    → (Float64.lt a b = true ↔ value a < value b)
  finite_between {a x b : F} : Float64.isFinite a = true → Float64.isFinite b = true
    → Float64.le a x = true → Float64.le x b = true → Float64.isFinite x = true
  decimal (m : Nat) (s : Bool) (d : Nat)
    : IsRounded (decimalValue m s d : ℝ) (Float64.ofDecimal m s d : F)
  ofNat (n : Nat) : IsRounded (n : ℝ) (Float64.ofNat n : F)
  /-- No number of this size is infinite. -/
  large_finite : Float64.isFinite (Float64.ofNat (2 ^ 900) : F) = true
  abs {a : F} : Float64.isFinite a = true
    → Float64.isFinite (Float64.abs a) = true ∧ value (Float64.abs a) = |value a|
  add {a b : F} : Float64.isFinite a = true → Float64.isFinite b = true
    → IsRounded (value a + value b) (a + b)
  sub {a b : F} : Float64.isFinite a = true → Float64.isFinite b = true
    → IsRounded (value a - value b) (a - b)
  mul {a b : F} : Float64.isFinite a = true → Float64.isFinite b = true
    → IsRounded (value a * value b) (a * b)
  div {a b : F} : Float64.isFinite a = true → Float64.isFinite b = true → value b ≠ 0
    → IsRounded (value a / value b) (a / b)
  mulAdd {a b c : F} : Float64.isFinite a = true → Float64.isFinite b = true
    → Float64.isFinite c = true → IsRounded (value a * value b + value c) (Float64.mulAdd a b c)
  /-- A product with a positive number is unordered only if the other factor is. -/
  mul_ordered {a b : F} : Float64.le a a = true → Float64.isFinite b = true → 0 < value b
    → Float64.le (a * b) (a * b) = true

/-- Infinity is not finite. -/
class UnboundedFloat64 (F : Type) [Float64 F] [ProjectingFloat64 F] : Prop where
  infinity_not_finite : Float64.isFinite (ProjectingFloat64.infinity : F) = false

namespace NearestFloat64

variable {F : Type} [Float64 F] [ValuedFloat64 F] [NearestFloat64 F]

/-- The number is a float of moderate size. -/
structure Fixed (F : Type) [ValuedFloat64 F] (bound : ℝ) : Prop where
  rounded_eq : ValuedFloat64.rounded F bound = bound
  moderate : |bound| ≤ 2 ^ 900

/-- The float is finite and stands for a number between the bounds. -/
structure Within (low high : ℝ) (x : F) : Prop where
  finite : Float64.isFinite x = true
  low_le : low ≤ value x
  le_high : value x ≤ high

/-- Small integers and their multiples by powers of two are floats. -/
theorem fixed_scaled (m : ℤ) (k : ℕ) (small : |m| ≤ 2 ^ 53) (moderate : k ≤ 800)
    : Fixed F (m * 2 ^ k) := by
  refine ⟨(rounded_scaled small (by omega)).1, ?_⟩
  have factor : |(m : ℝ)| ≤ 2 ^ 53 := by exact_mod_cast small
  rw [abs_mul, abs_of_pos (by positivity : (0 : ℝ) < 2 ^ k)]
  calc |(m : ℝ)| * 2 ^ k ≤ 2 ^ 53 * 2 ^ 800 := by
        gcongr
        · exact one_le_two
    _ ≤ 2 ^ 900 := by
        rw [← pow_add]
        exact pow_le_pow_right₀ one_le_two (by omega)

theorem fixed_divided (m : ℤ) (k : ℕ) (small : |m| ≤ 2 ^ 53) (moderate : k ≤ 800)
    : Fixed F (m / 2 ^ k) := by
  refine ⟨(rounded_scaled small (by omega)).2, ?_⟩
  have factor : |(m : ℝ)| ≤ 2 ^ 53 := by exact_mod_cast small
  rw [abs_div, abs_of_pos (by positivity : (0 : ℝ) < 2 ^ k)]
  calc |(m : ℝ)| / 2 ^ k ≤ |(m : ℝ)| := div_le_self (abs_nonneg _) (one_le_pow₀ one_le_two)
    _ ≤ 2 ^ 53 := factor
    _ ≤ 2 ^ 900 := pow_le_pow_right₀ one_le_two (by omega)

theorem fixed_int (m : ℤ) (small : |m| ≤ 2 ^ 53) : Fixed F m := by
  have fixed := fixed_scaled (F := F) m 0 small (by omega)
  rwa [pow_zero, mul_one] at fixed

theorem fixed_zero : Fixed F 0 := by exact_mod_cast fixed_int (F := F) 0 (by norm_num)

theorem fixed_one : Fixed F 1 := by exact_mod_cast fixed_int (F := F) 1 (by norm_num)

theorem fixed_pow (k : ℕ) (moderate : k ≤ 800) : Fixed F (2 ^ k) := by
  have fixed := fixed_scaled (F := F) 1 k (by norm_num) moderate
  rwa [Int.cast_one, one_mul] at fixed

theorem fixed_inv_pow (k : ℕ) (moderate : k ≤ 800) : Fixed F (1 / 2 ^ k) := by
  have fixed := fixed_divided (F := F) 1 k (by norm_num) moderate
  rwa [Int.cast_one] at fixed

theorem Fixed.neg {bound : ℝ} (fixed : Fixed F bound) : Fixed F (-bound) :=
  ⟨by rw [rounded_neg, fixed.rounded_eq], by rw [abs_neg]; exact fixed.moderate⟩

/-- Bounds of the exact result that are floats are bounds of what is calculated. -/
theorem within_of_rounded {exact low high : ℝ} {x : F} (calculated : IsRounded exact x)
    (lowFixed : Fixed F low) (highFixed : Fixed F high) (low_le : low ≤ exact)
    (le_high : exact ≤ high) : Within low high x := by
  have large : value (Float64.ofNat (2 ^ 900) : F) = 2 ^ 900 := by
    have scaled := (rounded_scaled (F := F) (m := 1) (k := 900) (by norm_num) le_rfl).1
    rw [(ofNat (2 ^ 900)).value_eq large_finite]
    rwa [Nat.cast_pow, Nat.cast_ofNat, ← one_mul ((2 : ℝ) ^ 900), ← Int.cast_one (R := ℝ)]
  have lowBound := abs_le.mp lowFixed.moderate
  have highBound := abs_le.mp highFixed.moderate
  have finite : Float64.isFinite x = true := by
    refine calculated.finite large_finite ?_
    rw [large]
    exact abs_le.mpr ⟨lowBound.1.trans low_le, le_high.trans highBound.2⟩
  refine ⟨finite, ?_, ?_⟩
  · rw [calculated.value_eq finite, ← lowFixed.rounded_eq]
    exact rounded_mono low_le
  · rw [calculated.value_eq finite, ← highFixed.rounded_eq]
    exact rounded_mono le_high

/-- A result no larger than some float is no larger when it is rounded. -/
theorem abs_value_le {exact : ℝ} {x bound : F} (calculated : IsRounded exact x)
    (finite : Float64.isFinite bound = true) (le : |exact| ≤ value bound)
    : Float64.isFinite x = true ∧ |value x| ≤ value bound := by
  have bounded := abs_le.mp le
  have stays := calculated.finite finite le
  refine ⟨stays, abs_le.mpr ⟨?_, ?_⟩⟩
  · rw [calculated.value_eq stays, ← rounded_value finite, ← rounded_neg]
    exact rounded_mono bounded.1
  · rw [calculated.value_eq stays, ← rounded_value finite]
    exact rounded_mono bounded.2

omit [NearestFloat64 F] in
theorem Within.weaken {low high low' high' : ℝ} {x : F} (within : Within low high x)
    (lower : low' ≤ low) (upper : high ≤ high') : Within low' high' x :=
  ⟨within.finite, lower.trans within.low_le, within.le_high.trans upper⟩

theorem within_decimal {low high : ℝ} (m : Nat) (s : Bool) (d : Nat) (lowFixed : Fixed F low)
    (highFixed : Fixed F high) (low_le : low ≤ decimalValue m s d)
    (le_high : (decimalValue m s d : ℝ) ≤ high) : Within low high (Float64.ofDecimal m s d : F) :=
  within_of_rounded (decimal m s d) lowFixed highFixed low_le le_high

theorem value_decimal {m : Nat} {s : Bool} {d : Nat} {r : ℝ} (fixed : Fixed F r)
    (written : (decimalValue m s d : ℝ) = r)
    : Float64.isFinite (Float64.ofDecimal m s d : F) = true
      ∧ value (Float64.ofDecimal m s d : F) = r := by
  have within := within_decimal (F := F) m s d fixed fixed written.ge written.le
  exact ⟨within.finite, le_antisymm within.le_high within.low_le⟩

theorem within_ofNat {n k : ℕ} (small : n ≤ 2 ^ k) (moderate : k ≤ 800)
    : Within 0 (2 ^ k) (Float64.ofNat n : F) :=
  within_of_rounded (ofNat n) fixed_zero (fixed_pow k moderate) n.cast_nonneg
    (by exact_mod_cast small)

theorem value_zero : Float64.isFinite (0.0 : F) = true ∧ value (0.0 : F) = 0 :=
  value_decimal fixed_zero (by norm_num [decimalValue])

theorem value_one : Float64.isFinite (1.0 : F) = true ∧ value (1.0 : F) = 1 :=
  value_decimal fixed_one (by norm_num [decimalValue])

theorem value_two : Float64.isFinite (2.0 : F) = true ∧ value (2.0 : F) = 2 :=
  value_decimal (by exact_mod_cast fixed_int (F := F) 2 (by norm_num))
    (by norm_num [decimalValue])

theorem value_three : Float64.isFinite (3.0 : F) = true ∧ value (3.0 : F) = 3 :=
  value_decimal (by exact_mod_cast fixed_int (F := F) 3 (by norm_num))
    (by norm_num [decimalValue])

theorem fixed_half : Fixed F (1 / 2) := by
  simpa using fixed_inv_pow (F := F) 1 (by omega)

theorem value_half : Float64.isFinite (0.5 : F) = true ∧ value (0.5 : F) = 1 / 2 :=
  value_decimal fixed_half (by norm_num [decimalValue])

theorem fixed_quarter : Fixed F (1 / 4) := by
  have fixed := fixed_inv_pow (F := F) 2 (by omega)
  norm_num at fixed ⊢
  exact fixed

theorem within_abs {bound : ℝ} {x : F} (within : Within (-bound) bound x)
    : Within 0 bound (Float64.abs x) := by
  obtain ⟨finite, same⟩ := NearestFloat64.abs within.finite
  refine ⟨finite, ?_, ?_⟩
  · rw [same]
    exact abs_nonneg _
  · rw [same]
    exact abs_le.mpr ⟨within.low_le, within.le_high⟩

theorem value_of_max {a b : F} (finite : Float64.isFinite a = true)
    (finite' : Float64.isFinite b = true)
    : Float64.isFinite (Float64.max a b) = true
      ∧ value (Float64.max a b) = max (value a) (value b) := by
  unfold Float64.max
  simp only [le_iff finite finite', le_iff finite' finite, le_iff finite finite]
  split
  · exact ⟨finite', (max_eq_right ‹_›).symm⟩
  · rename_i above
    rw [if_pos (not_le.mp above).le]
    exact ⟨finite, (max_eq_left (not_le.mp above).le).symm⟩

/-- What is ordered and clamped to finite bounds is finite and between them. -/
theorem within_clamp [NumberFloat64 F] {x low high : F}
    (lowFinite : Float64.isFinite low = true) (highFinite : Float64.isFinite high = true)
    (bounds : value low ≤ value high) (ordered : Float64.le x x = true)
    : Within (value low) (value high) (Float64.clamp x low high)
      ∧ (Float64.isFinite x = true → ∀ bound ≤ value high, bound ≤ value x
        → bound ≤ value (Float64.clamp x low high)) := by
  have lowOrdered : Float64.le low low = true := (le_iff lowFinite lowFinite).mpr le_rfl
  have highOrdered : Float64.le high high = true := (le_iff highFinite highFinite).mpr le_rfl
  unfold Float64.clamp
  split
  · rename_i below
    refine ⟨⟨lowFinite, le_rfl, bounds⟩, fun finite bound _ reached => ?_⟩
    exact reached.trans ((lt_iff finite lowFinite).mp below).le
  · rename_i notBelow
    split
    · exact ⟨⟨highFinite, bounds, le_rfl⟩, fun _ bound small _ => small⟩
    · rename_i notAbove
      rw [Bool.not_eq_true] at notBelow
      rw [Float64.gt, Bool.not_eq_true] at notAbove
      have lower := NumberFloat64.le_of_not_lt notBelow ordered lowOrdered
      have upper := NumberFloat64.le_of_not_lt notAbove highOrdered ordered
      have finite := finite_between lowFinite highFinite lower upper
      exact ⟨⟨finite, (le_iff lowFinite finite).mp lower, (le_iff finite highFinite).mp upper⟩,
        fun _ bound _ reached => reached⟩

/-- The rounded complement of a weight is a weight, and takes the two of them neither far from a
whole nor over it.
-/
theorem within_complement {alpha one : F} (oneFinite : Float64.isFinite one = true)
    (oneValue : value one = 1) (weight : Within 0 1 alpha)
    : Within 0 1 (one - alpha) ∧ 1 / 2 ≤ value alpha + value (one - alpha)
      ∧ ValuedFloat64.rounded F (value alpha + value (one - alpha)) ≤ 1 := by
  have difference := sub oneFinite weight.finite
  rw [oneValue] at difference
  have complement := within_of_rounded difference fixed_zero fixed_one
    (sub_nonneg.mpr weight.le_high) (sub_le_self 1 weight.low_le)
  have complementValue := difference.value_eq complement.finite
  refine ⟨complement, ?_, ?_⟩
  · rcases le_or_gt (1 / 2) (value alpha) with heavy | light
    · linarith [complement.low_le]
    · have far : (1 : ℝ) / 2 ≤ value (one - alpha) := by
        rw [complementValue, ← fixed_half.rounded_eq (F := F)]
        exact rounded_mono (by linarith)
      linarith [weight.low_le]
  · rw [complementValue]
    exact rounded_complement weight.finite weight.low_le weight.le_high

/-- A part of a number between opposite powers of two is no more than that part of them. -/
theorem abs_value_mul_le {part x : F} {k : ℕ} (moderate : k ≤ 700) (partWithin : Within 0 1 part)
    (within : Within (-2 ^ k) (2 ^ k) x)
    : Float64.isFinite (part * x) = true ∧ |value (part * x)| ≤ value part * 2 ^ k
      ∧ (0 ≤ value x → 0 ≤ value (part * x)) := by
  have scale : (0 : ℝ) < 2 ^ k := by positivity
  have product := mul partWithin.finite within.finite
  have upper := mul_le_mul_of_nonneg_left within.le_high partWithin.low_le
  have lower := mul_le_mul_of_nonneg_left within.low_le partWithin.low_le
  have productWithin := within_of_rounded product (fixed_pow k (by omega)).neg
    (fixed_pow k (by omega)) (by nlinarith [partWithin.le_high])
    (by nlinarith [partWithin.le_high])
  have scaled := rounded_value_scaled (k := k) partWithin.finite
    (abs_le.mpr ⟨by linarith [partWithin.low_le], partWithin.le_high⟩) (by omega)
  refine ⟨productWithin.finite, abs_le.mpr ⟨?_, ?_⟩, fun nonneg => ?_⟩
  · rw [product.value_eq productWithin.finite, ← scaled, ← rounded_neg]
    exact rounded_mono (by linarith)
  · rw [product.value_eq productWithin.finite, ← scaled]
    exact rounded_mono upper
  · rw [product.value_eq productWithin.finite, ← fixed_zero.rounded_eq (F := F)]
    exact rounded_mono (mul_nonneg partWithin.low_le nonneg)

/-- An average of numbers between opposite powers of two stays there, and above zero if they are:
rounding the complement of the weight leaves room for a whole and no more.
-/
theorem within_average {alpha prev current one : F} {k : ℕ} (moderate : k ≤ 700)
    (oneFinite : Float64.isFinite one = true) (oneValue : value one = 1)
    (weight : Within 0 1 alpha) (prevWithin : Within (-2 ^ k) (2 ^ k) prev)
    (currentWithin : Within (-2 ^ k) (2 ^ k) current)
    : Within (-2 ^ k) (2 ^ k) (Float64.mulAdd alpha current ((one - alpha) * prev))
      ∧ (0 ≤ value prev → 0 ≤ value current
        → 0 ≤ value (Float64.mulAdd alpha current ((one - alpha) * prev))) := by
  have scale : (0 : ℝ) < 2 ^ k := by positivity
  obtain ⟨complement, half, whole⟩ := within_complement oneFinite oneValue weight
  generalize (one - alpha) = rest at complement half whole ⊢
  obtain ⟨productFinite, product, productNonneg⟩ :=
    abs_value_mul_le moderate complement prevWithin
  obtain ⟨productLower, productUpper⟩ := abs_le.mp product
  -- The sum is at most the weight and its complement, scaled.
  have total := mulAdd weight.finite currentWithin.finite productFinite
  have upper : value alpha * value current + value (rest * prev)
      ≤ (value alpha + value rest) * 2 ^ k := by
    linarith [mul_le_mul_of_nonneg_left currentWithin.le_high weight.low_le]
  have lower : -((value alpha + value rest) * 2 ^ k)
      ≤ value alpha * value current + value (rest * prev) := by
    linarith [mul_le_mul_of_nonneg_left currentWithin.low_le weight.low_le]
  have scaledWhole : ValuedFloat64.rounded F ((value alpha + value rest) * 2 ^ k) ≤ 2 ^ k := by
    rw [rounded_scale half (by linarith [weight.le_high, complement.le_high]) (by omega)]
    exact mul_le_of_le_one_left scale.le whole
  have double : (value alpha + value rest) * 2 ^ k ≤ 2 ^ (k + 1) := by
    rw [pow_succ, mul_comm]
    exact mul_le_mul_of_nonneg_left (by linarith [weight.le_high, complement.le_high]) scale.le
  have finite := (within_of_rounded total (fixed_pow (k + 1) (by omega)).neg
    (fixed_pow (k + 1) (by omega)) (by linarith) (by linarith)).finite
  refine ⟨⟨finite, ?_, ?_⟩, fun prevNonneg currentNonneg => ?_⟩
  · rw [total.value_eq finite]
    refine le_trans ?_ (rounded_mono lower)
    rw [rounded_neg]
    exact neg_le_neg scaledWhole
  · rw [total.value_eq finite]
    exact (rounded_mono upper).trans scaledWhole
  · rw [total.value_eq finite, ← fixed_zero.rounded_eq (F := F)]
    exact rounded_mono
      (add_nonneg (mul_nonneg weight.low_le currentNonneg) (productNonneg prevNonneg))

end NearestFloat64

noncomputable instance : ValuedFloat64 EReal where
  value := EReal.toReal
  rounded := id

namespace ExtendedReals

theorem isFinite_iff {x : EReal} : Float64.isFinite x = true ↔ ∃ real : ℝ, x = real := by
  constructor
  · intro finite
    obtain ⟨low, high⟩ := of_decide_eq_true finite
    exact ⟨x.toReal, (EReal.coe_toReal high low).symm⟩
  · rintro ⟨real, rfl⟩
    exact isFinite real

theorem isRounded (exact : ℝ) {x : EReal} (same : x = exact) : IsRounded exact x where
  finite _ _ := isFinite_iff.mpr ⟨exact, same⟩
  value_eq _ := by
    rw [same]
    rfl

end ExtendedReals

instance : NearestFloat64 EReal where
  rounded_mono := monotone_id
  rounded_neg _ := rfl
  rounded_value _ := rfl
  rounded_scaled _ _ := ⟨rfl, rfl⟩
  rounded_value_scaled _ _ _ := rfl
  rounded_scale _ _ _ := rfl
  rounded_complement {a} _ _ _ := by
    change value a + (1 - value a) ≤ 1
    linarith
  le_iff {a b} finite finite' := by
    obtain ⟨a, rfl⟩ := ExtendedReals.isFinite_iff.mp finite
    obtain ⟨b, rfl⟩ := ExtendedReals.isFinite_iff.mp finite'
    rw [ExtendedReals.le_iff, EReal.coe_le_coe_iff]
    rfl
  lt_iff {a b} finite finite' := by
    obtain ⟨a, rfl⟩ := ExtendedReals.isFinite_iff.mp finite
    obtain ⟨b, rfl⟩ := ExtendedReals.isFinite_iff.mp finite'
    rw [ExtendedReals.lt_iff, EReal.coe_lt_coe_iff]
    rfl
  finite_between {a x b} finite finite' lower upper := by
    obtain ⟨a, rfl⟩ := ExtendedReals.isFinite_iff.mp finite
    obtain ⟨b, rfl⟩ := ExtendedReals.isFinite_iff.mp finite'
    rw [ExtendedReals.le_iff] at lower upper
    refine ExtendedReals.isFinite_iff.mpr ⟨x.toReal, (EReal.coe_toReal ?_ ?_).symm⟩
    · exact (upper.trans_lt (EReal.coe_lt_top b)).ne
    · exact ((EReal.bot_lt_coe a).trans_le lower).ne'
  decimal m s d := ExtendedReals.isRounded _ rfl
  ofNat n := ExtendedReals.isRounded _ rfl
  large_finite := ExtendedReals.isFinite_iff.mpr ⟨_, rfl⟩
  abs {a} finite := by
    obtain ⟨a, rfl⟩ := ExtendedReals.isFinite_iff.mp finite
    rw [ExtendedReals.abs]
    exact ⟨ExtendedReals.isFinite _, rfl⟩
  add {a b} finite finite' := by
    obtain ⟨a, rfl⟩ := ExtendedReals.isFinite_iff.mp finite
    obtain ⟨b, rfl⟩ := ExtendedReals.isFinite_iff.mp finite'
    exact ExtendedReals.isRounded _ (ExtendedReals.add a b)
  sub {a b} finite finite' := by
    obtain ⟨a, rfl⟩ := ExtendedReals.isFinite_iff.mp finite
    obtain ⟨b, rfl⟩ := ExtendedReals.isFinite_iff.mp finite'
    exact ExtendedReals.isRounded _ (ExtendedReals.sub a b)
  mul {a b} finite finite' := by
    obtain ⟨a, rfl⟩ := ExtendedReals.isFinite_iff.mp finite
    obtain ⟨b, rfl⟩ := ExtendedReals.isFinite_iff.mp finite'
    exact ExtendedReals.isRounded _ (ExtendedReals.mul a b)
  div {a b} finite finite' _ := by
    obtain ⟨a, rfl⟩ := ExtendedReals.isFinite_iff.mp finite
    obtain ⟨b, rfl⟩ := ExtendedReals.isFinite_iff.mp finite'
    exact ExtendedReals.isRounded _ (ExtendedReals.div a b)
  mulAdd {a b c} finite finite' finite'' := by
    obtain ⟨a, rfl⟩ := ExtendedReals.isFinite_iff.mp finite
    obtain ⟨b, rfl⟩ := ExtendedReals.isFinite_iff.mp finite'
    obtain ⟨c, rfl⟩ := ExtendedReals.isFinite_iff.mp finite''
    exact ExtendedReals.isRounded _ (ExtendedReals.mulAdd a b c)
  mul_ordered _ _ _ := ExtendedReals.le_iff.mpr le_rfl

instance : UnboundedFloat64 EReal where
  infinity_not_finite := by
    rw [← Bool.not_eq_true, ExtendedReals.isFinite_iff]
    rintro ⟨real, infinite⟩
    exact EReal.top_ne_coe real infinite

theorem extended_le_self (a : EReal) : Float64.le a a = true := ExtendedReals.le_iff.mpr le_rfl

instance : NumberFloat64 EReal where
  le_of_lt below := ExtendedReals.le_iff.mpr (ExtendedReals.lt_iff.mp below).le
  le_of_not_lt notBelow _ _ := by
    rw [← Bool.not_eq_true, ExtendedReals.lt_iff] at notBelow
    exact ExtendedReals.le_iff.mpr (not_lt.mp notBelow)
  le_trans first second :=
    ExtendedReals.le_iff.mpr
      ((ExtendedReals.le_iff.mp first).trans (ExtendedReals.le_iff.mp second))
  ordered_of_le _ := ⟨extended_le_self _, extended_le_self _⟩
  decimal_le le := ExtendedReals.le_iff.mpr (EReal.coe_le_coe_iff.mpr (by exact_mod_cast le))
  add_ordered _ := ⟨extended_le_self _, extended_le_self _⟩
  sub_ordered _ := ⟨extended_le_self _, extended_le_self _⟩
  div_ordered _ := ⟨extended_le_self _, extended_le_self _⟩
  mulAdd_ordered _ := ⟨extended_le_self _, extended_le_self _, extended_le_self _⟩
  neg_ordered _ := extended_le_self _
  exp_ordered _ := extended_le_self _

end StorageBallast
