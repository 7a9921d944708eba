import StorageBallast.Foundations.FloatRounding
import StorageBallast.Foundations.PathPieces

/-! Numerals as texts: integers, and floats that are written with a fixed number of decimals
and read back. A float that is rounded to its decimals need not come back as it was.
-/

namespace StorageBallast

open scoped Float64

def parseDigits (chars : List Char) : Option Nat :=
  if chars ≠ [] ∧ chars.all Char.isDigit then some (Nat.ofDigitChars 10 chars 0) else none

theorem parseDigits_toDigits (n : Nat) : parseDigits (Nat.toDigits 10 n) = some n := by
  have digits : (Nat.toDigits 10 n).all Char.isDigit := by
    rw [List.all_eq_true]
    exact fun c mem => Nat.isDigit_of_mem_toDigits (by omega) (by omega) mem
  rw [parseDigits, if_pos ⟨Nat.toDigits_ne_nil, digits⟩, Nat.ofDigitChars_ten_toDigits]

theorem parseDigits_of_dot {chars : List Char} (dot : '.' ∈ chars)
    : parseDigits chars = none := by
  refine if_neg fun digits => ?_
  have isDigit := List.all_eq_true.mp digits.2 '.' dot
  revert isDigit
  decide

def signedDigits : List Char → Option Int
  | '-' :: digits => (parseDigits digits).map Int.negOfNat
  | '+' :: digits => (parseDigits digits).map Int.ofNat
  | digits => (parseDigits digits).map Int.ofNat

theorem signedDigits_of_unsigned {c : Char} {rest : List Char} (notMinus : c ≠ '-')
    (notPlus : c ≠ '+')
    : signedDigits (c :: rest) = (parseDigits (c :: rest)).map Int.ofNat := by
  unfold signedDigits
  split <;> simp_all

theorem signedDigits_of_dot {chars : List Char} (dot : '.' ∈ chars)
    : signedDigits chars = none := by
  unfold signedDigits
  split <;> simp_all [parseDigits_of_dot]

/-- `str::parse::<i64>`. -/
def parseI64 (text : String) : Option Int :=
  (signedDigits text.toList).filter fun n => -2 ^ 63 ≤ n && n < 2 ^ 63

theorem parseI64_toString {n : Nat} (small : n < 2 ^ 63)
    : parseI64 (toString n) = some (n : Int) := by
  have chars : (toString n).toList = Nat.toDigits 10 n := by
    rw [Nat.toString_eq_ofList_toDigits, String.toList_ofList]
  have signed : signedDigits (Nat.toDigits 10 n) = some (n : Int) := by
    have read := parseDigits_toDigits n
    cases digits : Nat.toDigits 10 n with
    | nil => exact absurd digits Nat.toDigits_ne_nil
    | cons c rest =>
        rw [digits] at read
        have isDigit := Nat.isDigit_of_mem_toDigits (b := 10) (n := n) (c := c)
          (by omega) (by omega) (by simp [digits])
        have notMinus : c ≠ '-' := by rintro rfl; revert isDigit; decide
        have notPlus : c ≠ '+' := by rintro rfl; revert isDigit; decide
        rw [signedDigits_of_unsigned notMinus notPlus, read]
        rfl
  have inRange : ((-2 ^ 63 : Int) ≤ n && (n : Int) < 2 ^ 63) = true := by
    rw [Bool.and_eq_true, decide_eq_true_eq, decide_eq_true_eq]
    omega
  rw [parseI64, chars, signed, Option.filter, if_pos inRange]

theorem parseI64_of_dot {text : String} (dot : '.' ∈ text.toList) : parseI64 text = none := by
  rw [parseI64, signedDigits_of_dot dot, Option.filter]

/-- `str::parse::<u64>`. -/
def parseU64 (text : String) : Option UInt64 :=
  let digits := match text.toList with
    | '+' :: digits => parseDigits digits
    | digits => parseDigits digits
  (digits.filter (· < 2 ^ 64)).map UInt64.ofNat

theorem parseU64_toString (n : UInt64) : parseU64 (toString n.toNat) = some n := by
  have chars : (toString n.toNat).toList = Nat.toDigits 10 n.toNat := by
    rw [Nat.toString_eq_ofList_toDigits, String.toList_ofList]
  have read := parseDigits_toDigits n.toNat
  have unsigned : (match Nat.toDigits 10 n.toNat with
      | '+' :: digits => parseDigits digits
      | digits => parseDigits digits) = some n.toNat := by
    split
    next digits plus =>
      have isDigit := @Nat.isDigit_of_mem_toDigits 10 n.toNat '+' (by omega) (by omega)
        (by simp [plus])
      exact absurd isDigit (by decide)
    next => exact read
  unfold parseU64
  rw [chars]
  dsimp only
  rw [unsigned, Option.filter, if_pos (decide_eq_true n.toNat_lt)]
  exact congrArg some (UInt64.ofNat_toNat)

/-- `str::parse::<bool>`. -/
def parseBool (text : String) : Option Bool :=
  if text = "true" then some true else if text = "false" then some false else none

theorem parseBool_of_dot {text : String} (dot : '.' ∈ text.toList) : parseBool text = none := by
  have notTrue : text ≠ "true" := by rintro rfl; revert dot; decide
  have notFalse : text ≠ "false" := by rintro rfl; revert dot; decide
  simp [parseBool, notTrue, notFalse]

theorem parseBool_toString (n : Nat) : parseBool (toString n) = none := by
  have starts (letter : Char) (rest : List Char) (notDigit : letter.isDigit = false)
      : (toString n).toList ≠ letter :: rest := by
    intro chars
    rw [Nat.toString_eq_ofList_toDigits, String.toList_ofList] at chars
    have isDigit := Nat.isDigit_of_mem_toDigits (b := 10) (n := n) (c := letter)
      (by omega) (by omega) (by simp [chars])
    rw [notDigit] at isDigit
    cases isDigit
  have notTrue : toString n ≠ "true" := fun same =>
    starts 't' ['r', 'u', 'e'] (by decide) (by rw [same]; decide)
  have notFalse : toString n ≠ "false" := fun same =>
    starts 'f' ['a', 'l', 's', 'e'] (by decide) (by rw [same]; decide)
  rw [parseBool, if_neg notTrue, if_neg notFalse]

def decimalText (digits numeral : Nat) : String :=
  let fraction := toString (numeral % 10 ^ digits)
  toString (numeral / 10 ^ digits) ++ "."
    ++ String.ofList (List.replicate (digits - fraction.toList.length) '0') ++ fraction

theorem dot_mem_decimalText (digits numeral : Nat)
    : '.' ∈ (decimalText digits numeral).toList := by
  simp [decimalText]

/-- Floats as the numbers they stand for, and as texts. -/
class DecimalFloat64 (F : Type) where
  /-- The number; infinities and the unordered value stand for none. -/
  value : F → Option ℚ
  /-- The nearest float. -/
  round : ℚ → F
  /-- `str::parse::<f64>`. -/
  ofText : String → Option F
  /-- The shortest text that reads back as the float. -/
  display : F → String

def gridPoint (n : Int) : ℚ := n / 2 ^ 20

/-- Comparisons are those of the numbers. An operation gives the float nearest to its exact
result, and so does reading a numeral; a float is written by one of the nearest numerals.
-/
class RoundedFloat64 (F : Type) [Float64 F] [RoundingFloat64 F] [DecimalFloat64 F]
    : Prop where
  le_iff {a b : F} {p q : ℚ}
    : DecimalFloat64.value a = some p → DecimalFloat64.value b = some q
      → (Float64.le a b = true ↔ p ≤ q)
  lt_iff {a b : F} {p q : ℚ}
    : DecimalFloat64.value a = some p → DecimalFloat64.value b = some q
      → (Float64.lt a b = true ↔ p < q)
  /-- What lies between two numbers is a number. -/
  value_of_between {a x b : F} {p q : ℚ}
    : DecimalFloat64.value a = some p → DecimalFloat64.value b = some q
      → Float64.le a x = true → Float64.le x b = true
      → ∃ r, DecimalFloat64.value x = some r
  round_mono {p q : ℚ} : p ≤ q
    → Float64.le (DecimalFloat64.round p : F) (DecimalFloat64.round q) = true
  round_value {x : F} {p : ℚ} : DecimalFloat64.value x = some p
    → DecimalFloat64.value (DecimalFloat64.round p : F) = some p
  round_grid {n : Int} : n.natAbs ≤ 2 ^ 53
    → DecimalFloat64.value (DecimalFloat64.round (gridPoint n) : F) = some (gridPoint n)
  value_decimal (m : Nat) (s : Bool) (e : Nat)
    : DecimalFloat64.value (Float64.ofDecimal m s e : F)
      = DecimalFloat64.value (DecimalFloat64.round (decimalValue m s e) : F)
  value_ofNat (n : Nat)
    : DecimalFloat64.value (Float64.ofNat n : F)
      = DecimalFloat64.value (DecimalFloat64.round (n : ℚ) : F)
  value_add {a b : F} {p q : ℚ}
    : DecimalFloat64.value a = some p → DecimalFloat64.value b = some q
      → DecimalFloat64.value (a + b) = DecimalFloat64.value (DecimalFloat64.round (p + q) : F)
  value_sub {a b : F} {p q : ℚ}
    : DecimalFloat64.value a = some p → DecimalFloat64.value b = some q
      → DecimalFloat64.value (a - b) = DecimalFloat64.value (DecimalFloat64.round (p - q) : F)
  value_mul {a b : F} {p q : ℚ}
    : DecimalFloat64.value a = some p → DecimalFloat64.value b = some q
      → DecimalFloat64.value (a * b) = DecimalFloat64.value (DecimalFloat64.round (p * q) : F)
  toNat_ceil {x : F} {p : ℚ} : DecimalFloat64.value x = some p → p ≤ 2 ^ 53
    → RoundingFloat64.toNat (RoundingFloat64.ceil x) = ⌈p⌉.toNat
  toFixed_nearest {x : F} {p : ℚ} {digits : Nat}
    : DecimalFloat64.value x = some p → 0 < p → 0 < digits
      → ∃ numeral : Nat, Float64.toFixed digits x = decimalText digits numeral
        ∧ |(numeral : ℚ) - p * 10 ^ digits| ≤ 1 / 2
  ofText_decimalText (digits numeral : Nat) : 0 < digits
    → ∃ y : F, DecimalFloat64.ofText (decimalText digits numeral) = some y
      ∧ DecimalFloat64.value y
        = DecimalFloat64.value (DecimalFloat64.round (numeral / 10 ^ digits : ℚ) : F)

def rewritten {F : Type} [Float64 F] [DecimalFloat64 F] (digits : Nat) (x : F) : F :=
  (DecimalFloat64.ofText (Float64.toFixed digits x)).getD x

section library

variable {F : Type} [Float64 F] [RoundingFloat64 F] [DecimalFloat64 F] [RoundedFloat64 F]
variable {x a b : F} {p q : ℚ}

theorem value_max (left : DecimalFloat64.value a = some p)
    (right : DecimalFloat64.value b = some q)
    : DecimalFloat64.value (Float64.max a b) = some (max p q) := by
  unfold Float64.max
  by_cases below : p ≤ q
  · rw [if_pos ((RoundedFloat64.le_iff left right).mpr below), right, max_eq_right below]
  · have above := (not_le.mp below).le
    rw [if_neg fun le => below ((RoundedFloat64.le_iff left right).mp le),
      if_pos ((RoundedFloat64.le_iff right left).mpr above), left, max_eq_left above]

theorem round_between {low high : Int} (lowSmall : low.natAbs ≤ 2 ^ 53)
    (highSmall : high.natAbs ≤ 2 ^ 53) (above : gridPoint low ≤ q) (below : q ≤ gridPoint high)
    : ∃ r, DecimalFloat64.value (DecimalFloat64.round q : F) = some r
        ∧ gridPoint low ≤ r ∧ r ≤ gridPoint high := by
  have lowValue := RoundedFloat64.round_grid (F := F) lowSmall
  have highValue := RoundedFloat64.round_grid (F := F) highSmall
  have lowRound := RoundedFloat64.round_mono (F := F) above
  have highRound := RoundedFloat64.round_mono (F := F) below
  obtain ⟨r, value⟩ := RoundedFloat64.value_of_between lowValue highValue lowRound highRound
  exact ⟨r, value, (RoundedFloat64.le_iff lowValue value).mp lowRound,
    (RoundedFloat64.le_iff value highValue).mp highRound⟩

theorem round_gridPoint {n : Int} (small : n.natAbs ≤ 2 ^ 53) (point : q = gridPoint n)
    : DecimalFloat64.value (DecimalFloat64.round q : F) = some q := by
  rw [point]
  exact RoundedFloat64.round_grid small

theorem round_nat {n : Nat} (small : n ≤ 2 ^ 33)
    : DecimalFloat64.value (DecimalFloat64.round (n : ℚ) : F) = some (n : ℚ) := by
  refine round_gridPoint (n := n * 2 ^ 20) (by omega) ?_
  rw [gridPoint]
  push_cast
  ring

/-- A float that is rewritten becomes the one nearest to a nearest numeral. -/
theorem rewritten_spec {digits : Nat} (number : DecimalFloat64.value x = some p)
    (positive : 0 < p) (small : p ≤ 2 ^ 20) (point : 0 < digits)
    : ∃ (numeral : Nat) (r : ℚ), Float64.toFixed digits x = decimalText digits numeral
        ∧ DecimalFloat64.ofText (decimalText digits numeral) = some (rewritten digits x)
        ∧ |(numeral : ℚ) - p * 10 ^ digits| ≤ 1 / 2
        ∧ DecimalFloat64.value (rewritten digits x) = some r
        ∧ DecimalFloat64.value (DecimalFloat64.round (numeral / 10 ^ digits : ℚ) : F) = some r
    := by
  obtain ⟨numeral, text, nearest⟩ := RoundedFloat64.toFixed_nearest number positive point
  obtain ⟨y, read, same⟩ := RoundedFloat64.ofText_decimalText (F := F) digits numeral point
  have isY : rewritten digits x = y := by rw [rewritten, text, read, Option.getD_some]
  have scale : (1 : ℚ) ≤ 10 ^ digits := one_le_pow₀ (by norm_num)
  have bounded : (numeral / 10 ^ digits : ℚ) ≤ gridPoint (2 ^ 41) := by
    rw [div_le_iff₀ (by positivity), gridPoint]
    have upper := (abs_le.mp nearest).2
    have more : p * 10 ^ digits ≤ 2 ^ 20 * 10 ^ digits := by gcongr
    push_cast
    linarith
  have nonneg : gridPoint 0 ≤ (numeral / 10 ^ digits : ℚ) := by
    simp only [gridPoint, Int.cast_zero, zero_div]
    positivity
  obtain ⟨r, value, _⟩ := round_between (F := F) (by decide) (by decide) nonneg bounded
  exact ⟨numeral, r, text, by rw [read, isY], nearest, by rw [isY, same, value], value⟩

theorem value_literal_nat {m e n : Nat} {s : Bool} (number : decimalValue m s e = n)
    (small : n ≤ 2 ^ 33)
    : DecimalFloat64.value (Float64.ofDecimal m s e : F) = some (n : ℚ) := by
  rw [RoundedFloat64.value_decimal, number]
  exact round_nat small

/-- Rewriting keeps a float between the natural numbers around it. -/
theorem rewritten_between {digits low high : Nat} (number : DecimalFloat64.value x = some p)
    (positive : 0 < p) (above : (low : ℚ) ≤ p) (below : p ≤ high) (small : high ≤ 2 ^ 20)
    (point : 0 < digits)
    : ∃ r, DecimalFloat64.value (rewritten digits x) = some r ∧ (low : ℚ) ≤ r ∧ r ≤ high := by
  have highSmall : (high : ℚ) ≤ 2 ^ 20 := by exact_mod_cast small
  have lowSmall : low ≤ 2 ^ 20 := by exact_mod_cast above.trans (below.trans highSmall)
  obtain ⟨numeral, r, _, _, nearest, value, rounded⟩ :=
    rewritten_spec number positive (below.trans highSmall) point
  have scale : (0 : ℚ) < 10 ^ digits := by positivity
  have halfway := abs_le.mp nearest
  have upper : numeral ≤ high * 10 ^ digits := by
    have real : (numeral : ℚ) < (high * 10 ^ digits : Nat) + 1 := by
      have := mul_le_mul_of_nonneg_right below scale.le
      push_cast
      linarith
    exact Nat.lt_succ_iff.mp (by exact_mod_cast real)
  have lower : low * 10 ^ digits ≤ numeral := by
    have real : ((low * 10 ^ digits : Nat) : ℚ) < numeral + 1 := by
      have := mul_le_mul_of_nonneg_right above scale.le
      push_cast
      linarith
    exact Nat.lt_succ_iff.mp (by exact_mod_cast real)
  have quotientAbove : (low : ℚ) ≤ numeral / 10 ^ digits := by
    rw [le_div_iff₀ scale]
    exact_mod_cast lower
  have quotientBelow : (numeral / 10 ^ digits : ℚ) ≤ high := by
    rw [div_le_iff₀ scale]
    exact_mod_cast upper
  have lowRound := RoundedFloat64.round_mono (F := F) quotientAbove
  have highRound := RoundedFloat64.round_mono (F := F) quotientBelow
  exact ⟨r, value,
    (RoundedFloat64.le_iff (round_nat (lowSmall.trans (by norm_num))) rounded).mp lowRound,
    (RoundedFloat64.le_iff rounded (round_nat (small.trans (by norm_num)))).mp highRound⟩

end library

def decimalNumber (text : String) : Option ℚ :=
  match Texts.splitOnce '.' text.toList with
  | none => (parseDigits text.toList).map fun n => (n : ℚ)
  | some (whole, fraction) =>
      match parseDigits whole, parseDigits fraction with
      | some n, some m => some (n + m / 10 ^ fraction.length)
      | _, _ => none

theorem dot_not_mem_toDigits (n : Nat) : '.' ∉ Nat.toDigits 10 n := fun dot =>
  absurd (Nat.isDigit_of_mem_toDigits (b := 10) (by omega) (by omega) dot) (by decide)

theorem decimalNumber_decimalText {digits : Nat} (numeral : Nat) (point : 0 < digits)
    : decimalNumber (decimalText digits numeral) = some ((numeral : ℚ) / 10 ^ digits) := by
  let part := Nat.toDigits 10 (numeral % 10 ^ digits)
  let fraction := List.replicate (digits - part.length) '0' ++ part
  have chars : (decimalText digits numeral).toList
      = Nat.toDigits 10 (numeral / 10 ^ digits) ++ '.' :: fraction := by
    simp [decimalText, part, fraction]
  have short : part.length ≤ digits :=
    (Nat.length_toDigits_le_iff (by omega) point).mpr (Nat.mod_lt _ (by positivity))
  have length : fraction.length = digits := by simp [fraction, short]
  have allDigits : fraction.all Char.isDigit = true := by
    rw [List.all_eq_true]
    intro c mem
    rcases List.mem_append.mp mem with zero | mem
    · rw [(List.mem_replicate.mp zero).2]
      decide
    · exact Nat.isDigit_of_mem_toDigits (by omega) (by omega) mem
  have notEmpty : fraction ≠ [] := by
    rw [← List.length_pos_iff, length]
    exact point
  have read : parseDigits fraction = some (numeral % 10 ^ digits) := by
    rw [parseDigits, if_pos ⟨notEmpty, allDigits⟩, Nat.ofDigitChars_append,
      Nat.ofDigitChars_replicate_zero, Nat.mul_zero, Nat.ofDigitChars_ten_toDigits]
  have split : Texts.splitOnce '.' (decimalText digits numeral).toList
      = some (Nat.toDigits 10 (numeral / 10 ^ digits), fraction) :=
    Texts.splitOnce_eq_some.mpr ⟨dot_not_mem_toDigits _, chars⟩
  rw [decimalNumber, split]
  simp only [parseDigits_toDigits, read, length, Option.some.injEq]
  have whole : ((numeral / 10 ^ digits : Nat) : ℚ) * 10 ^ digits + (numeral % 10 ^ digits : Nat)
      = numeral := by
    exact_mod_cast Nat.div_add_mod' numeral (10 ^ digits)
  rw [eq_div_iff (by positivity), add_mul, div_mul_cancel₀ _ (by positivity), whole]

instance : DecimalFloat64 ℚ where
  value := some
  round := id
  ofText := decimalNumber
  display := ratToFixed 6

instance : RoundedFloat64 ℚ where
  le_iff := by
    rintro a b p q ⟨⟩ ⟨⟩
    exact decide_eq_true_iff
  lt_iff := by
    rintro a b p q ⟨⟩ ⟨⟩
    exact decide_eq_true_iff
  value_of_between := fun {_ x _ _ _} _ _ _ _ => ⟨x, rfl⟩
  round_mono := decide_eq_true
  round_value := by
    rintro x p ⟨⟩
    rfl
  round_grid := fun _ => rfl
  value_decimal _ _ _ := rfl
  value_ofNat _ := rfl
  value_add := by
    rintro a b p q ⟨⟩ ⟨⟩
    rfl
  value_sub := by
    rintro a b p q ⟨⟩ ⟨⟩
    rfl
  value_mul := by
    rintro a b p q ⟨⟩ ⟨⟩
    rfl
  toNat_ceil := by
    rintro x p ⟨⟩ small
    have bounded : ⌈x⌉ ≤ 2 ^ 53 := Int.ceil_le.mpr (by exact_mod_cast small)
    change min ⌊((⌈x⌉ : Int) : ℚ)⌋.toNat (2 ^ 64 - 1) = ⌈x⌉.toNat
    rw [Int.floor_intCast]
    omega
  toFixed_nearest := by
    rintro x p digits ⟨⟩ positive point
    refine ⟨⌊x * 10 ^ digits + 1 / 2⌋.toNat, if_neg point.ne', ?_⟩
    have nonneg : 0 ≤ ⌊x * 10 ^ digits + 1 / 2⌋ := Int.floor_nonneg.mpr (by positivity)
    have asRat : ((⌊x * 10 ^ digits + 1 / 2⌋.toNat : Nat) : ℚ) = ⌊x * 10 ^ digits + 1 / 2⌋ := by
      exact_mod_cast congrArg (Int.cast (R := ℚ)) (Int.toNat_of_nonneg nonneg)
    have low := Int.floor_le (x * 10 ^ digits + 1 / 2)
    have high := Int.lt_floor_add_one (x * 10 ^ digits + 1 / 2)
    rw [asRat, abs_le]
    constructor <;> linarith
  ofText_decimalText digits numeral point :=
    ⟨numeral / 10 ^ digits, decimalNumber_decimalText numeral point, rfl⟩

end StorageBallast
