import StorageBallast.Foundations.FloatRounding
import StorageBallast.Foundations.Sorting

/-! The order of floats that are numbers: sorting by them, where `partial_cmp` orders them totally
and the answer for unordered operands is never asked for, and operations that keep it.
-/

namespace StorageBallast

open scoped Float64
open Sorting (OrdersTotally)

/-- Rounding keeps the order of exact results, as long as no infinity comes of a literal. -/
class MonotoneFloat64 (F : Type) [Float64 F] [RoundingFloat64 F] : Prop where
  sub_decimal {a b : F} {m : Nat} {s : Bool} {d : Nat}
    : Float64.le a b = true → decimalValue m s d ≤ 1000
      → Float64.le (a - Float64.ofDecimal m s d) (b - Float64.ofDecimal m s d) = true
  mul_decimal {a b : F} {m n : Nat} {s t : Bool} {d e : Nat}
    : Float64.le 0.0 a = true → Float64.le a b = true → 1 ≤ decimalValue m s d
      → decimalValue m s d ≤ decimalValue n t e → decimalValue n t e ≤ 1000
      → Float64.le (a * Float64.ofDecimal m s d) (b * Float64.ofDecimal n t e) = true
  toNat_mono {a b : F}
    : Float64.le a b = true → RoundingFloat64.toNat a ≤ RoundingFloat64.toNat b

instance : MonotoneFloat64 ℝ where
  sub_decimal := by
    intro a b m s d le _
    rw [real_le_iff] at le ⊢
    exact sub_le_sub_right le _
  mul_decimal := by
    intro a b m n s t d e
    change Float64.le (Float64.ofDecimal 0 true 1 : ℝ) a = true → _
    rw [real_le_iff, real_le_iff, real_le_iff, real_zero]
    intro nonneg le large below _
    have factors : ((decimalValue m s d : ℚ) : ℝ) ≤ ((decimalValue n t e : ℚ) : ℝ) := by
      exact_mod_cast below
    have positive : (0 : ℝ) ≤ ((decimalValue m s d : ℚ) : ℝ) := by
      exact_mod_cast zero_le_one.trans large
    exact mul_le_mul le factors positive (nonneg.trans le)
  toNat_mono := by
    intro a b le
    rw [real_le_iff] at le
    exact min_le_min_right _ (Int.toNat_le_toNat (Int.floor_le_floor le))

namespace StrictFloat64

variable {F : Type} [Float64 F] [StrictFloat64 F] {a b : F}

theorem partialCmp_ordered (ordered : Float64.le a a = true) (alsoOrdered : Float64.le b b = true)
    : (Float64.partialCmp a b).isSome := by
  unfold Float64.partialCmp
  cases below : Float64.lt a b with
  | true => rfl
  | false =>
      cases above : Float64.lt b a with
      | true => simp [Float64.gt, above]
      | false => simp [Float64.gt, above, LawfulFloat64.le_of_not_lt above alsoOrdered ordered]

theorem ordered_of_partialCmp (comparable : (Float64.partialCmp a a).isSome = true)
    : Float64.le a a = true := by
  unfold Float64.partialCmp Float64.gt at comparable
  rw [lt_irrefl] at comparable
  simpa using comparable

theorem partialCmp_ne_gt_iff (ordered : Float64.le a a = true)
    (alsoOrdered : Float64.le b b = true)
    : (Float64.partialCmp a b).getD .eq ≠ .gt ↔ Float64.le a b = true := by
  unfold Float64.partialCmp Float64.gt
  cases below : Float64.lt a b with
  | true => simp [le_of_lt below]
  | false =>
      cases above : Float64.lt b a with
      | true => simp [LawfulFloat64.not_le_of_lt above]
      | false => simp [LawfulFloat64.le_of_not_lt above alsoOrdered ordered]

omit [StrictFloat64 F] in
theorem partialCmp_eq_lt_iff : (Float64.partialCmp a b).getD .eq = .lt ↔ Float64.lt a b = true := by
  unfold Float64.partialCmp Float64.gt
  cases below : Float64.lt a b <;> cases Float64.lt b a <;> cases Float64.le a b <;> simp

theorem partialCmp_swap : (Float64.partialCmp b a).getD .eq
    = ((Float64.partialCmp a b).getD .eq).swap := by
  unfold Float64.partialCmp Float64.gt
  cases below : Float64.lt a b with
  | true =>
      have notAbove : Float64.lt b a = false := not_lt_of_le (le_of_lt below)
      simp [notAbove]
  | false =>
      cases above : Float64.lt b a with
      | true => simp
      | false => cases Float64.le a b <;> cases Float64.le b a <;> simp

theorem ordersTotally_descending {α : Type} {key : α → F} {list : List α}
    (ordered : ∀ a ∈ list, Float64.le (key a) (key a) = true)
    : OrdersTotally (fun left right => (Float64.partialCmp (key right) (key left)).getD .eq)
        list where
  oriented _ _ _ _ := partialCmp_swap
  trans a inA b inB c inC low high := by
    rw [partialCmp_ne_gt_iff (ordered b inB) (ordered a inA)] at low
    rw [partialCmp_ne_gt_iff (ordered c inC) (ordered b inB)] at high
    rw [partialCmp_ne_gt_iff (ordered c inC) (ordered a inA)]
    exact LawfulFloat64.le_trans high low

omit [StrictFloat64 F] in
theorem max_le {a b bound : F} (first : Float64.le a bound = true)
    (second : Float64.le b bound = true) : Float64.le (Float64.max a b) bound = true := by
  unfold Float64.max
  split_ifs <;> assumption

theorem le_max_left (ordered : Float64.le a a = true) (alsoOrdered : Float64.le b b = true)
    : Float64.le a (Float64.max a b) = true := by
  unfold Float64.max
  split
  · assumption
  · split
    · exact ordered
    · rename_i notBelow notAbove
      exact absurd (LawfulFloat64.le_of_not_lt
        (by simpa using mt le_of_lt notBelow) ordered alsoOrdered) notAbove

theorem max_mono {c : F} (le : Float64.le a b = true) (ordered : Float64.le c c = true)
    : Float64.le (Float64.max a c) (Float64.max b c) = true :=
  max_le (LawfulFloat64.le_trans le (le_max_left (ordered_of_le le).2 ordered))
    (le_max_right ordered)

end StrictFloat64

end StorageBallast
