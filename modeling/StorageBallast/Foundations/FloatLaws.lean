import StorageBallast.Foundations.Floats
import Mathlib.Analysis.SpecialFunctions.Log.Basic

/-! The laws of double-precision arithmetic that results about thresholds rest on. IEEE
doubles have them, the unordered value included; real numbers do with the exact functions.
-/

namespace StorageBallast

open scoped Float64

def decimalValue (mantissa : Nat) (negative : Bool) (exponent : Nat) : ℚ :=
  if negative then (mantissa : ℚ) / 10 ^ exponent else (mantissa : ℚ) * 10 ^ exponent

/-- Order laws, and the signs of sums, exponentials and logarithms. An unordered value is
related to nothing, not even to itself.
-/
class LawfulFloat64 (F : Type) [Float64 F] : Prop where
  not_le_of_lt {a b : F} : Float64.lt a b = true → Float64.le b a = false
  le_of_not_lt {a b : F}
    : Float64.lt a b = false → Float64.le a a = true → Float64.le b b = true
      → Float64.le b a = true
  le_trans {a b c : F}
    : Float64.le a b = true → Float64.le b c = true → Float64.le a c = true
  /-- Rounding a literal to the nearest float is monotone. -/
  decimal_le {m n : Nat} {s t : Bool} {d e : Nat}
    : decimalValue m s d ≤ decimalValue n t e
      → Float64.le (Float64.ofDecimal m s d : F) (Float64.ofDecimal n t e) = true
  neg_le_neg {a b : F} : Float64.le a b = true → Float64.le (-b) (-a) = true
  neg_zero_le : Float64.le (-0.0 : F) 0.0 = true
  add_nonpos {a b : F}
    : Float64.le a 0.0 = true → Float64.le b 0.0 = true → Float64.le (a + b) 0.0 = true
  exp_le_one {a : F} : Float64.le a 0.0 = true → Float64.le (Float64.exp a) 1.0 = true
  ln_nonpos {a : F}
    : Float64.lt 0.0 a = true → Float64.lt a 1.0 = true → Float64.le (Float64.ln a) 0.0 = true

namespace LawfulFloat64

variable {F : Type} [Float64 F] [LawfulFloat64 F]

theorem neg_decimal_le_zero (m : Nat) (s : Bool) (d : Nat)
    : Float64.le (-(Float64.ofDecimal m s d) : F) 0.0 = true := by
  have nonneg : decimalValue 0 true 1 ≤ decimalValue m s d := by
    unfold decimalValue
    split <;> simp <;> positivity
  exact le_trans (neg_le_neg (decimal_le nonneg)) neg_zero_le

theorem not_gt_of_le {a b : F} (le : Float64.le a b = true) : Float64.gt a b = false := by
  unfold Float64.gt
  cases above : Float64.lt b a with
  | false => rfl
  | true => exact absurd le (by simp [not_le_of_lt above])

/-- Nothing is below a threshold that is below a number greater than it. -/
theorem not_ge_of_le_of_gt {a b c : F} (low : Float64.le a b = true)
    (high : Float64.gt c b = true)
    : Float64.ge a c = false := by
  unfold Float64.ge
  cases reached : Float64.le c a with
  | false => rfl
  | true => exact absurd (le_trans reached low) (by simp [not_le_of_lt high])

theorem decimal_le_self (m : Nat) (s : Bool) (d : Nat)
    : Float64.le (Float64.ofDecimal m s d : F) (Float64.ofDecimal m s d) = true :=
  decimal_le le_rfl

/-- A clamped number lies between the bounds, unless it is unordered. -/
theorem clamp_between {x low high : F} (lowOrdered : Float64.le low low = true)
    (highOrdered : Float64.le high high = true) (bounds : Float64.le low high = true)
    (ordered : Float64.le (Float64.clamp x low high) (Float64.clamp x low high) = true)
    : Float64.le low (Float64.clamp x low high) = true
      ∧ Float64.le (Float64.clamp x low high) high = true := by
  revert ordered
  unfold Float64.clamp
  split_ifs with below above
  · exact fun _ => ⟨lowOrdered, bounds⟩
  · exact fun _ => ⟨bounds, highOrdered⟩
  · intro ordered
    rw [Bool.not_eq_true] at below
    rw [Float64.gt, Bool.not_eq_true] at above
    exact ⟨le_of_not_lt below ordered lowOrdered, le_of_not_lt above highOrdered ordered⟩

/-- Clamping keeps a number below a bound that both clamping bounds respect. -/
theorem clamp_le {x low high bound : F} (small : Float64.le x bound = true)
    (lowSmall : Float64.le low bound = true) (bounded : Float64.le bound high = true)
    : Float64.le (Float64.clamp x low high) bound = true := by
  have notAbove := not_gt_of_le (le_trans small bounded)
  unfold Float64.clamp
  split
  · exact lowSmall
  · rw [notAbove]
    exact small

end LawfulFloat64

theorem two_atLeastTwo : Nat.AtLeastTwo 2 := inferInstance

theorem ten_atLeastTwo : Nat.AtLeastTwo 10 := inferInstance

open Classical in
noncomputable instance : Float64 ℝ where
  ofDecimal mantissa negative exponent := decimalValue mantissa negative exponent
  add := (· + ·)
  sub := (· - ·)
  mul := (· * ·)
  div := (· / ·)
  mulAdd a b c := a * b + c
  abs x := |x|
  neg x := -x
  exp := Real.exp
  ln := Real.log
  le a b := decide (a ≤ b)
  lt a b := decide (a < b)
  isFinite _ := true
  ofNat n := n
  toFixed digits x := ratToFixed digits (⌊x * 10 ^ digits + 1 / 2⌋ / 10 ^ digits)

theorem real_le_iff {a b : ℝ} : Float64.le a b = true ↔ a ≤ b := by
  simp [Float64.le]

theorem real_lt_iff {a b : ℝ} : Float64.lt a b = true ↔ a < b := by
  simp [Float64.lt]

theorem real_zero : (Float64.ofDecimal 0 true 1 : ℝ) = 0 := by
  simp [Float64.ofDecimal, decimalValue]

theorem real_one : (Float64.ofDecimal 10 true 1 : ℝ) = 1 := by
  simp [Float64.ofDecimal, decimalValue]

instance : LawfulFloat64 ℝ where
  not_le_of_lt := by
    intro a b lt
    rw [real_lt_iff] at lt
    simpa [Float64.le] using lt
  le_of_not_lt := by
    intro a b lt _ _
    simpa [Float64.lt, Float64.le] using lt
  le_trans := by
    intro a b c first second
    rw [real_le_iff] at first second ⊢
    exact first.trans second
  decimal_le := by
    intro m n s t d e le
    simpa [Float64.le, Float64.ofDecimal] using le
  neg_le_neg := by
    intro a b le
    rw [real_le_iff] at le ⊢
    exact neg_le_neg_iff.mpr le
  neg_zero_le := by
    change Float64.le (-(Float64.ofDecimal 0 true 1) : ℝ) (Float64.ofDecimal 0 true 1) = true
    rw [real_le_iff, real_zero]
    exact neg_zero.le
  add_nonpos := by
    intro a b
    change Float64.le a (Float64.ofDecimal 0 true 1) = true
      → Float64.le b (Float64.ofDecimal 0 true 1) = true
      → Float64.le (a + b) (Float64.ofDecimal 0 true 1) = true
    rw [real_le_iff, real_le_iff, real_le_iff, real_zero]
    exact add_nonpos
  exp_le_one := by
    intro a
    change Float64.le a (Float64.ofDecimal 0 true 1) = true
      → Float64.le (Real.exp a) (Float64.ofDecimal 10 true 1) = true
    rw [real_le_iff, real_le_iff, real_zero, real_one]
    exact Real.exp_le_one_iff.mpr
  ln_nonpos := by
    intro a
    change Float64.lt (Float64.ofDecimal 0 true 1) a = true
      → Float64.lt a (Float64.ofDecimal 10 true 1) = true
      → Float64.le (Real.log a) (Float64.ofDecimal 0 true 1) = true
    rw [real_lt_iff, real_lt_iff, real_le_iff, real_zero, real_one]
    intro positive small
    exact Real.log_nonpos positive.le small.le

/-- Lean's own model of binary64, with `mulAdd` rounded twice. -/
instance : Float64 Float where
  ofDecimal := Float.ofScientific
  add := Float.add
  sub := Float.sub
  mul := Float.mul
  div := Float.div
  mulAdd a b c := a * b + c
  abs := Float.abs
  neg := Float.neg
  exp := Float.exp
  ln := Float.log
  le := Float.le
  lt := Float.lt
  isFinite := Float.isFinite
  ofNat := Float.ofNat
  toFixed _ x := toString x

theorem float_nan_unpack
    : (Float.div 0 0).toModel.unpack = Float.Model.UnpackedFloat.notANumber := by
  rfl

theorem float_mul_nan (x : Float) : Float.mul x (Float.div 0 0) = Float.div 0 0 := by
  have absorbed (unpacked : Float.Model.UnpackedFloat)
      : unpacked.mul Float.Model.Format.binary64 .notANumber = .notANumber := by
    cases unpacked <;> rfl
  have product : Float.mul x (Float.div 0 0) = .ofModel (.pack .notANumber) := by
    change Float.ofModel (.pack (Float.Model.UnpackedFloat.mul Float.Model.Format.binary64
      x.toModel.unpack (Float.div 0 0).toModel.unpack)) = _
    rw [float_nan_unpack, absorbed]
  rw [product]
  decide +kernel

end StorageBallast
