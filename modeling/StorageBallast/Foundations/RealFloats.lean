import Mathlib.Analysis.SpecialFunctions.Log.ENNRealLog
import Mathlib.Analysis.SpecialFunctions.Log.ERealExp
import Mathlib.Analysis.SpecialFunctions.Sqrt
import Mathlib.Data.EReal.Inv
import StorageBallast.Foundations.FloatRounding

/-! The operations of the float arithmetic at the real numbers, where they are exact. -/

namespace StorageBallast

open scoped Float64

attribute [local instance] two_atLeastTwo in
/-- What the range of doubles ends at stands for all that is beyond. -/
noncomputable instance : ProjectingFloat64 ℝ where
  infinity := 2 ^ 1024
  sqrt := Real.sqrt

theorem real_literal (mantissa : Nat) (negative : Bool) (exponent : Nat)
    : @OfScientific.ofScientific ℝ Float64.instOfScientific mantissa negative exponent
        = (decimalValue mantissa negative exponent : ℝ) := rfl

theorem real_mulAdd (a b c : ℝ) : Float64.mulAdd a b c = a * b + c := rfl

theorem real_exp (x : ℝ) : Float64.exp x = Real.exp x := rfl

theorem real_ln (x : ℝ) : Float64.ln x = Real.log x := rfl

theorem real_abs (x : ℝ) : Float64.abs x = |x| := rfl

theorem real_ofNat (n : Nat) : (Float64.ofNat n : ℝ) = n := rfl

theorem real_gt_iff {a b : ℝ} : Float64.gt a b = true ↔ b < a := real_lt_iff

theorem real_ge_iff {a b : ℝ} : Float64.ge a b = true ↔ b ≤ a := real_le_iff

theorem real_not_lt_iff {a b : ℝ} : Float64.lt a b = false ↔ b ≤ a := by
  rw [← Bool.not_eq_true, real_lt_iff, not_lt]

theorem real_not_le_iff {a b : ℝ} : Float64.le a b = false ↔ b < a := by
  rw [← Bool.not_eq_true, real_le_iff, not_le]

theorem real_max (a b : ℝ) : Float64.max a b = max a b := by
  unfold Float64.max
  simp only [real_le_iff]
  split
  · exact (max_eq_right ‹_›).symm
  · rename_i above
    rw [if_pos (not_le.mp above).le]
    exact (max_eq_left (not_le.mp above).le).symm

theorem real_clamp {x low high : ℝ} (bounds : low ≤ high)
    : Float64.clamp x low high = max low (min x high) := by
  unfold Float64.clamp
  simp only [real_lt_iff, real_gt_iff]
  split
  · rename_i below
    rw [min_eq_left (below.le.trans bounds), max_eq_left below.le]
  · rename_i reached
    split
    · rename_i above
      rw [min_eq_right above.le, max_eq_right bounds]
    · rename_i within
      rw [min_eq_left (not_lt.mp within), max_eq_right (not_lt.mp reached)]

theorem real_clamp_mono {x y low high : ℝ} (bounds : low ≤ high) (le : x ≤ y)
    : Float64.clamp x low high ≤ Float64.clamp y low high := by
  rw [real_clamp bounds, real_clamp bounds]
  exact max_le_max_left _ (min_le_min_right _ le)

end StorageBallast

/-! Real arithmetic extended with the infinities, for what is stated of exact calculations that
may come to nothing finite. On real operands each operation is the real one.
-/

namespace StorageBallast

open scoped Float64

open Classical in
attribute [local instance] two_atLeastTwo ten_atLeastTwo in
noncomputable instance : Float64 EReal where
  ofDecimal mantissa negative exponent := ((decimalValue mantissa negative exponent : ℝ) : EReal)
  add := (· + ·)
  sub := (· - ·)
  mul := (· * ·)
  div := (· / ·)
  mulAdd a b c := a * b + c
  abs x := max x (-x)
  neg x := -x
  exp x := (EReal.exp x : EReal)
  ln x := ENNReal.log x.toENNReal
  le a b := decide (a ≤ b)
  lt a b := decide (a < b)
  isFinite x := decide (x ≠ ⊥ ∧ x ≠ ⊤)
  ofNat n := ((n : ℝ) : EReal)
  toFixed digits x := ratToFixed digits (⌊x.toReal * 10 ^ digits + 1 / 2⌋ / 10 ^ digits)

attribute [local instance] two_atLeastTwo in
noncomputable instance : LimitFloat64 EReal where
  maxFinite := ((2 ^ 1024 - 2 ^ 971 : ℝ) : EReal)
  epsilon := ((1 / 2 ^ 52 : ℝ) : EReal)

noncomputable instance : ProjectingFloat64 EReal where
  infinity := ⊤
  sqrt x := if x = ⊤ then ⊤ else (√x.toReal : ℝ)

namespace ExtendedReals

theorem le_iff {a b : EReal} : Float64.le a b = true ↔ a ≤ b := by
  simp [Float64.le]

theorem lt_iff {a b : EReal} : Float64.lt a b = true ↔ a < b := by
  simp [Float64.lt]

theorem gt_iff {a b : EReal} : Float64.gt a b = true ↔ b < a := lt_iff

theorem literal (mantissa : Nat) (negative : Bool) (exponent : Nat)
    : @OfScientific.ofScientific EReal Float64.instOfScientific mantissa negative exponent
        = ((decimalValue mantissa negative exponent : ℝ) : EReal) := rfl

theorem ofNat (n : Nat) : (Float64.ofNat n : EReal) = ((n : ℝ) : EReal) := rfl

variable (a b c : ℝ)

theorem add : @HAdd.hAdd EReal EReal EReal (@instHAdd EReal Float64.instAdd) (a : EReal) b
    = ((a + b : ℝ) : EReal) := rfl

theorem sub : @HSub.hSub EReal EReal EReal (@instHSub EReal Float64.instSub) (a : EReal) b
    = ((a - b : ℝ) : EReal) := rfl

theorem mul : @HMul.hMul EReal EReal EReal (@instHMul EReal Float64.instMul) (a : EReal) b
    = ((a * b : ℝ) : EReal) :=
  (EReal.coe_mul a b).symm

theorem div : @HDiv.hDiv EReal EReal EReal (@instHDiv EReal Float64.instDiv) (a : EReal) b
    = ((a / b : ℝ) : EReal) :=
  (EReal.coe_div a b).symm

theorem neg : @Neg.neg EReal Float64.instNeg (a : EReal) = ((-a : ℝ) : EReal) := rfl

theorem mulAdd : Float64.mulAdd (a : EReal) (b : EReal) (c : EReal)
    = ((a * b + c : ℝ) : EReal) := by
  change (a : EReal) * b + c = _
  rw [← EReal.coe_mul, ← EReal.coe_add]

theorem abs : Float64.abs (a : EReal) = ((|a| : ℝ) : EReal) :=
  (EReal.coe_strictMono.monotone.map_max (a := a) (b := -a)).symm

theorem sqrt : ProjectingFloat64.sqrt (a : EReal) = ((√a : ℝ) : EReal) := by
  simp [ProjectingFloat64.sqrt]

theorem isFinite : Float64.isFinite (a : EReal) = true := by
  simp [Float64.isFinite]

end ExtendedReals

end StorageBallast

/-! Extended real arithmetic with an unordered value, which stands for what has no result. -/

namespace StorageBallast

open Classical in
noncomputable instance : Float64 (Option EReal) where
  ofDecimal mantissa negative exponent := some (Float64.ofDecimal mantissa negative exponent)
  add a b := a.bind fun x => b.bind fun y =>
    if (x = ⊤ ∧ y = ⊥) ∨ (x = ⊥ ∧ y = ⊤) then none else some (x + y)
  sub a b := a.bind fun x => b.bind fun y =>
    if (x = ⊤ ∧ y = ⊤) ∨ (x = ⊥ ∧ y = ⊥) then none else some (x - y)
  mul a b := a.bind fun x => b.bind fun y =>
    if (x = 0 ∧ (y = ⊤ ∨ y = ⊥)) ∨ ((x = ⊤ ∨ x = ⊥) ∧ y = 0) then none else some (x * y)
  div a b := a.bind fun x => b.bind fun y =>
    if (x = 0 ∧ y = 0) ∨ ((x = ⊤ ∨ x = ⊥) ∧ (y = ⊤ ∨ y = ⊥)) then none
    else if y = 0 then some (if 0 < x then ⊤ else ⊥) else some (x / y)
  mulAdd a b c := a.bind fun x => b.bind fun y => c.bind fun z =>
    if (x = 0 ∧ (y = ⊤ ∨ y = ⊥)) ∨ ((x = ⊤ ∨ x = ⊥) ∧ y = 0)
      ∨ (x * y = ⊤ ∧ z = ⊥) ∨ (x * y = ⊥ ∧ z = ⊤) then none else some (x * y + z)
  abs := Option.map Float64.abs
  neg := Option.map Float64.neg
  exp := Option.map Float64.exp
  ln a := a.bind fun x => if x < 0 then none else some (Float64.ln x)
  le a b := a.any fun x => b.any fun y => Float64.le x y
  lt a b := a.any fun x => b.any fun y => Float64.lt x y
  isFinite a := a.any Float64.isFinite
  ofNat n := some (Float64.ofNat n)
  toFixed digits a := a.elim "NaN" (Float64.toFixed digits)

namespace UnorderedReals

open scoped Float64

theorem le_iff {a b : Option EReal}
    : Float64.le a b = true ↔ ∃ x y, a = some x ∧ b = some y ∧ x ≤ y := by
  cases a <;> cases b <;> simp [Float64.le]

theorem lt_iff {a b : Option EReal}
    : Float64.lt a b = true ↔ ∃ x y, a = some x ∧ b = some y ∧ x < y := by
  cases a <;> cases b <;> simp [Float64.lt]

theorem not_le_iff {x y : EReal} : Float64.le (some x) (some y) = false ↔ y < x := by
  simp [Float64.le]

theorem not_lt_iff {x y : EReal} : Float64.lt (some x) (some y) = false ↔ y ≤ x := by
  simp [Float64.lt]

theorem isFinite_iff {a : Option EReal}
    : Float64.isFinite a = true ↔ ∃ r : ℝ, a = some (r : EReal) := by
  cases a with
  | none => simp [Float64.isFinite]
  | some x => induction x <;> simp [Float64.isFinite]

theorem literal (mantissa : Nat) (negative : Bool) (exponent : Nat)
    : @OfScientific.ofScientific (Option EReal) Float64.instOfScientific mantissa negative exponent
        = some ((decimalValue mantissa negative exponent : ℝ) : EReal) := rfl

theorem literal_le (m n : Nat) (s t : Bool) (d e : Nat)
    : Float64.le (@OfScientific.ofScientific (Option EReal) Float64.instOfScientific m s d)
        (@OfScientific.ofScientific (Option EReal) Float64.instOfScientific n t e)
      = decide (decimalValue m s d ≤ decimalValue n t e) := by
  simp [literal, Float64.le]

theorem literal_lt (m n : Nat) (s t : Bool) (d e : Nat)
    : Float64.lt (@OfScientific.ofScientific (Option EReal) Float64.instOfScientific m s d)
        (@OfScientific.ofScientific (Option EReal) Float64.instOfScientific n t e)
      = decide (decimalValue m s d < decimalValue n t e) := by
  simp [literal, Float64.lt]

theorem literal_isFinite (m : Nat) (s : Bool) (d : Nat)
    : Float64.isFinite (@OfScientific.ofScientific (Option EReal) Float64.instOfScientific m s d)
      = true := by
  simp [literal, Float64.isFinite]

theorem add (a b : ℝ)
    : @HAdd.hAdd (Option EReal) (Option EReal) (Option EReal) (@instHAdd _ Float64.instAdd)
        (some (a : EReal)) (some (b : EReal)) = some ((a + b : ℝ) : EReal) := by
  change (some (a : EReal)).bind _ = _
  simp

theorem sub (a b : ℝ)
    : @HSub.hSub (Option EReal) (Option EReal) (Option EReal) (@instHSub _ Float64.instSub)
        (some (a : EReal)) (some (b : EReal)) = some ((a - b : ℝ) : EReal) := by
  change (some (a : EReal)).bind _ = _
  simp

theorem abs (a : ℝ) : Float64.abs (some (a : EReal)) = some ((|a| : ℝ) : EReal) :=
  congrArg some (ExtendedReals.abs a)

end UnorderedReals

end StorageBallast
