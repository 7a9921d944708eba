import Mathlib.Data.Rat.Defs
import Mathlib.Algebra.Order.Ring.Rat

/-! The double-precision arithmetic the program is written in, as a parameter.
No law of the operations is assumed, so a result over every `Float64` also covers rounding,
infinities and the unordered value. Exact rationals give the instance that can be evaluated.
-/

namespace StorageBallast

/-- The operations of a 64-bit float that the program uses. Comparisons answer `false` on
unordered operands.
-/
class Float64 (F : Type) where
  ofDecimal : Nat → Bool → Nat → F
  add : F → F → F
  sub : F → F → F
  mul : F → F → F
  div : F → F → F
  /-- `mulAdd a b c` is `a * b + c`, rounded once. -/
  mulAdd : F → F → F → F
  abs : F → F
  neg : F → F
  exp : F → F
  ln : F → F
  le : F → F → Bool
  lt : F → F → Bool
  isFinite : F → Bool
  ofNat : Nat → F
  /-- Decimal text with the given number of fractional digits. -/
  toFixed : Nat → F → String

namespace Float64

variable {F : Type} [Float64 F]

/-- Decimal literals of the source denote the float the class assigns to them. -/
scoped instance : OfScientific F := ⟨ofDecimal⟩

scoped instance (priority := low) : Add F := ⟨add⟩
scoped instance (priority := low) : Sub F := ⟨sub⟩
scoped instance (priority := low) : Mul F := ⟨mul⟩
scoped instance (priority := low) : Div F := ⟨div⟩
scoped instance (priority := low) : Neg F := ⟨neg⟩

/-- `a >= b` on floats. -/
def ge (a b : F) : Bool := le b a

/-- `a > b` on floats. -/
def gt (a b : F) : Bool := lt b a

/-- `f64::clamp`: an unordered value passes through unchanged. -/
def clamp (x low high : F) : F :=
  if lt x low then low else if gt x high then high else x

/-- `f64::max`: an unordered operand yields to the other one. -/
def max (a b : F) : F :=
  if le a b then b else if le b a then a else if le a a then a else b

/-- `f64::midpoint` of operands whose sum is finite. -/
def midpoint (a b : F) : F := (a + b) / 2.0

/-- `f64::partial_cmp`: unordered operands have no ordering. -/
def partialCmp (a b : F) : Option Ordering :=
  if lt a b then some .lt else if gt a b then some .gt else if le a b then some .eq else none

end Float64

/-- Partial sum of the exponential series, `fuel` terms after the first. -/
def expSeries (x : ℚ) : Nat → Nat → ℚ → ℚ
  | 0, _, _ => 0
  | fuel + 1, n, term => term + expSeries x fuel (n + 1) (term * x / (n + 1))

/-- Partial sum of `y + y ^ 3 / 3 + y ^ 5 / 5 + ...`, from the term with `power = y ^ n`. -/
def artanhSeries (y : ℚ) : Nat → Nat → ℚ → ℚ
  | 0, _, _ => 0
  | fuel + 1, n, power => power / n + artanhSeries y fuel (n + 2) (power * y * y)

/-- Text of a non-negative rational with `digits` fractional digits, rounded half up. -/
def ratToFixed (digits : Nat) (q : ℚ) : String :=
  let scaled := (q * 10 ^ digits + 1 / 2).floor.toNat
  let fraction := toString (scaled % 10 ^ digits)
  if digits = 0 then toString scaled
  else
    toString (scaled / 10 ^ digits) ++ "."
      ++ String.ofList (List.replicate (digits - fraction.toList.length) '0') ++ fraction

/-- Rationals carry the float operations exactly; only `exp` and `ln` are approximated, by
the first eighteen terms of their series.
-/
instance : Float64 ℚ where
  ofDecimal mantissa negative exponent :=
    if negative then (mantissa : ℚ) / 10 ^ exponent else (mantissa : ℚ) * 10 ^ exponent
  add := (· + ·)
  sub := (· - ·)
  mul := (· * ·)
  div := (· / ·)
  mulAdd a b c := a * b + c
  abs x := if x < 0 then -x else x
  neg x := -x
  exp x := expSeries x 18 0 1
  ln x := 2 * artanhSeries ((x - 1) / (x + 1)) 18 1 ((x - 1) / (x + 1))
  le a b := decide (a ≤ b)
  lt a b := decide (a < b)
  isFinite _ := true
  ofNat n := n
  toFixed := ratToFixed

end StorageBallast
