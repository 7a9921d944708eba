import StorageBallast.Foundations.DecimalTexts
import Mathlib.Algebra.Order.Floor.Semifield

/-! Byte counts on the command line: a decimal number and a unit. The digits before and behind the
point are scaled apart from each other, in 128 bits.
-/

namespace StorageBallast.ByteCounts

open Texts

/-- `str::parse::<u128>`. -/
def parseU128 (chars : List Char) : Option Nat :=
  let digits := match chars with
    | '+' :: digits => parseDigits digits
    | digits => parseDigits digits
  digits.filter (· < 2 ^ 128)

/-- The unit's number of bytes, by its text in lower case. -/
def byteMultiplier (suffix : String) : Option Nat :=
  if suffix ∈ ["", "b", "byte", "bytes"] then some 1
  else if suffix ∈ ["k", "kb", "kib"] then some 1024
  else if suffix ∈ ["m", "mb", "mib"] then some (1024 ^ 2)
  else if suffix ∈ ["g", "gb", "gib"] then some (1024 ^ 3)
  else if suffix ∈ ["t", "tb", "tib"] then some (1024 ^ 4)
  else none

def fractionalBytes (fractional : List Char) (multiplier : Nat) : Except String Nat :=
  if !fractional.all Char.isDigit then .error "byte count contains invalid fractional digits"
  else if 2 ^ 32 ≤ fractional.length then .error "byte count has too many fractional digits"
  else if 2 ^ 128 ≤ 10 ^ fractional.length then
    .error "byte count has too many fractional digits"
  else
    match parseU128 fractional with
    | none => .error "byte count fractional part is too large"
    | some fractionalValue =>
        if 2 ^ 128 ≤ fractionalValue * multiplier then .error "byte count is too large"
        else .ok (fractionalValue * multiplier / 10 ^ fractional.length)

def bytesBehindPoint (fractional : Option (List Char)) (multiplier : Nat) : Except String Nat :=
  match fractional with
  | none | some [] => .ok 0
  | some (c :: rest) => fractionalBytes (c :: rest) multiplier

def totalBytes (wholeValue : Nat) (fractional : Option (List Char)) (multiplier : Nat)
    : Except String UInt64 :=
  if 2 ^ 128 ≤ wholeValue * multiplier then .error "byte count is too large"
  else
    match bytesBehindPoint fractional multiplier with
    | .error message => .error message
    | .ok bytes =>
        if 2 ^ 128 ≤ wholeValue * multiplier + bytes then .error "byte count is too large"
        else if 2 ^ 64 ≤ wholeValue * multiplier + bytes then .error "byte count is too large"
        else .ok (UInt64.ofNat (wholeValue * multiplier + bytes))

def bytesOfParts (whole : List Char) (fractional : Option (List Char)) (multiplier : Nat)
    : Except String UInt64 :=
  if whole.isEmpty && fractional.all List.isEmpty then .error "byte count is missing a number"
  else if !whole.all Char.isDigit then .error "byte count contains invalid digits"
  else
    match if whole.isEmpty then some 0 else parseU128 whole with
    | none => .error "byte count is too large"
    | some wholeValue => totalBytes wholeValue fractional multiplier

def parseDecimalByteCount (number : List Char) (multiplier : Nat) : Except String UInt64 :=
  if number.isEmpty then .error "byte count is missing a number"
  else if 1 < number.count '.' then .error "byte count contains more than one decimal point"
  else
    match splitOnce '.' number with
    | some (whole, fractional) => bytesOfParts whole (some fractional) multiplier
    | none => bytesOfParts number none multiplier

def isNumberChar (c : Char) : Bool := c.isDigit || c == '.'

def parseByteCount (raw : String) : Except String UInt64 :=
  let input := (trim raw).toList
  if input.isEmpty then .error "byte count must not be empty"
  else
    let number := input.takeWhile isNumberChar
    let suffix := toAsciiLowercase (trim (String.ofList (input.dropWhile isNumberChar)))
    match byteMultiplier suffix with
    | none =>
        .error "byte count suffix must be one of B, K, M, G, T, KiB, MiB, GiB, or TiB"
    | some multiplier => parseDecimalByteCount number multiplier

def digitsValue (digits : List Char) : Nat := Nat.ofDigitChars 10 digits 0

/-- A decimal number by its digits before and behind the point, of which there is one at least.
-/
structure Numeral (number whole fraction : List Char) : Prop where
  spelled : number = whole ∧ fraction = [] ∨ number = whole ++ '.' :: fraction
  wholeDigits : ∀ c ∈ whole, c.isDigit = true
  fractionDigits : ∀ c ∈ fraction, c.isDigit = true
  digits : whole ≠ [] ∨ fraction ≠ []

/-- A text that is a number with a unit, as a decimal number with few enough digits behind the
point.
-/
structure Written (raw : String) (whole fraction : List Char) (multiplier : Nat) : Prop where
  written
    : ∃ number unit, (trim raw).toList = number ++ unit ∧ Numeral number whole fraction
      ∧ byteMultiplier (toAsciiLowercase (trim (String.ofList unit))) = some multiplier
  scaled : fraction.length ≤ 38

def exactBytes (whole fraction : List Char) (multiplier : Nat) : ℚ :=
  (digitsValue whole + digitsValue fraction / 10 ^ fraction.length) * multiplier

/-- The text is accepted if and only if its number of bytes, rounded down, fits, and as that. -/
def ParsedExactly (raw : String) : Prop :=
  ∀ n : UInt64, parseByteCount raw = .ok n
    ↔ ∃ whole fraction multiplier, Written raw whole fraction multiplier
      ∧ ⌊exactBytes whole fraction multiplier⌋₊ = n.toNat

variable {digits : List Char}

theorem digitsValue_lt (all : ∀ c ∈ digits, c.isDigit = true)
    : digitsValue digits < 10 ^ digits.length := by
  unfold digitsValue
  induction digits with
  | nil => simp
  | cons c rest ih =>
      obtain ⟨isDigit, later⟩ := List.forall_mem_cons.mp all
      have low : c.toNat - 48 ≤ 9 := by
        simp only [Char.isDigit, Bool.and_eq_true, decide_eq_true_eq] at isDigit
        have high : c.val.toNat ≤ 57 := isDigit.2
        change c.val.toNat - 48 ≤ 9
        omega
      rw [Nat.ofDigitChars_cons, Nat.ofDigitChars_eq_ofDigitChars_zero, List.length_cons,
        pow_succ]
      have below := ih later
      have scaled := Nat.mul_le_mul_left (10 ^ rest.length) low
      simp only [Nat.mul_zero, Nat.zero_add, Char.reduceToNat]
      omega

theorem parseDigits_of_digits (all : ∀ c ∈ digits, c.isDigit = true)
    (nonempty : digits ≠ []) : parseDigits digits = some (digitsValue digits) :=
  if_pos ⟨nonempty, List.all_eq_true.mpr all⟩

theorem parseU128_of_digits (all : ∀ c ∈ digits, c.isDigit = true) (nonempty : digits ≠ [])
    : parseU128 digits
      = if digitsValue digits < 2 ^ 128 then some (digitsValue digits) else none := by
  have read := parseDigits_of_digits all nonempty
  unfold parseU128
  split
  next rest => exact absurd (all '+' List.mem_cons_self) (by decide)
  next =>
    rw [read, Option.filter]
    simp only [decide_eq_true_eq]

theorem pow_ten_lt_iff {n : Nat} : 10 ^ n < 2 ^ 128 ↔ n ≤ 38 := by
  constructor
  · intro small
    by_contra large
    have above : 10 ^ 39 ≤ 10 ^ n := Nat.pow_le_pow_right (by decide) (by omega)
    have : (2 : Nat) ^ 128 < 10 ^ 39 := by decide
    omega
  · intro few
    calc 10 ^ n ≤ 10 ^ 38 := Nat.pow_le_pow_right (by decide) few
      _ < 2 ^ 128 := by decide

/-- The bytes of the digits behind the point are right if they are scaled within 128 bits. -/
theorem fractionalBytes_eq_ok_iff {fraction : List Char} {multiplier bytes : Nat}
    (nonempty : fraction ≠ [])
    : fractionalBytes fraction multiplier = .ok bytes
      ↔ (∀ c ∈ fraction, c.isDigit = true) ∧ fraction.length ≤ 38
        ∧ digitsValue fraction * multiplier < 2 ^ 128
        ∧ digitsValue fraction * multiplier / 10 ^ fraction.length = bytes := by
  unfold fractionalBytes
  by_cases all : fraction.all Char.isDigit = true
  · have digits := List.all_eq_true.mp all
    rw [if_neg (by simp [all])]
    by_cases few : fraction.length ≤ 38
    · have fits : 10 ^ fraction.length < 2 ^ 128 := pow_ten_lt_iff.mpr few
      have below := digitsValue_lt digits
      rw [if_neg (by omega), if_neg (by omega), parseU128_of_digits digits nonempty,
        if_pos (by omega)]
      simp only
      by_cases scales : digitsValue fraction * multiplier < 2 ^ 128
      · rw [if_neg (by omega), Except.ok.injEq]
        exact ⟨fun same => ⟨digits, few, scales, same⟩, fun valid => valid.2.2.2⟩
      · rw [if_pos (by omega)]
        exact ⟨nofun, fun valid => absurd valid.2.2.1 scales⟩
    · have exceeds : 2 ^ 128 ≤ 10 ^ fraction.length := by
        have := pow_ten_lt_iff (n := fraction.length)
        omega
      rw [if_pos exceeds, ite_self]
      exact ⟨nofun, fun valid => absurd valid.2.1 few⟩
  · rw [if_pos (by simp [all])]
    exact ⟨nofun, fun valid => absurd (List.all_eq_true.mpr valid.1) all⟩

theorem Numeral.ne_nil {number whole fraction : List Char}
    (numeral : Numeral number whole fraction) : number ≠ [] := by
  rcases numeral.spelled with ⟨rfl, rfl⟩ | rfl
  · simpa using numeral.digits
  · simp

def scaledBytes (whole fraction : List Char) (multiplier : Nat) : Nat :=
  digitsValue whole * multiplier + digitsValue fraction * multiplier / 10 ^ fraction.length

theorem floor_exactBytes (whole fraction : List Char) (multiplier : Nat)
    : ⌊exactBytes whole fraction multiplier⌋₊ = scaledBytes whole fraction multiplier := by
  have apart : exactBytes whole fraction multiplier
      = ((digitsValue fraction * multiplier : Nat) : ℚ) / ((10 ^ fraction.length : Nat) : ℚ)
        + ((digitsValue whole * multiplier : Nat) : ℚ) := by
    unfold exactBytes
    push_cast
    ring
  rw [apart, Nat.floor_add_natCast (by positivity), Nat.floor_div_eq_div, scaledBytes, Nat.add_comm]

variable {fractional : Option (List Char)}

theorem bytesBehindPoint_eq_ok_iff {multiplier bytes : Nat}
    : bytesBehindPoint fractional multiplier = .ok bytes
      ↔ (∀ c ∈ fractional.getD [], c.isDigit = true) ∧ (fractional.getD []).length ≤ 38
        ∧ digitsValue (fractional.getD []) * multiplier < 2 ^ 128
        ∧ digitsValue (fractional.getD []) * multiplier / 10 ^ (fractional.getD []).length
          = bytes := by
  unfold bytesBehindPoint
  split
  next => simp [digitsValue]
  next => simp [digitsValue]
  next c rest => exact fractionalBytes_eq_ok_iff (List.cons_ne_nil c rest)

variable {multiplier : Nat}

theorem totalBytes_eq_ok_iff {wholeValue : Nat} {n : UInt64}
    : totalBytes wholeValue fractional multiplier = .ok n
      ↔ ∃ bytes, bytesBehindPoint fractional multiplier = .ok bytes
        ∧ wholeValue * multiplier + bytes = n.toNat := by
  have range := n.toNat_lt
  unfold totalBytes
  split
  next large =>
    refine iff_of_false nofun ?_
    rintro ⟨bytes, _, same⟩
    omega
  next =>
    split
    next message rejected => simp [rejected]
    next bytes accepted =>
      have total : (∃ other, bytesBehindPoint fractional multiplier = .ok other
          ∧ wholeValue * multiplier + other = n.toNat)
          ↔ wholeValue * multiplier + bytes = n.toNat := by simp [accepted]
      rw [total]
      by_cases small : wholeValue * multiplier + bytes < 2 ^ 64
      · rw [if_neg (by omega), if_neg (by omega), Except.ok.injEq]
        constructor
        · rintro rfl
          exact (UInt64.toNat_ofNat_of_lt' small).symm
        · intro same
          rw [same, UInt64.ofNat_toNat]
      · rw [if_pos (show 2 ^ 64 ≤ _ by omega), ite_self]
        exact iff_of_false nofun (by omega)

/-- What is cut is accepted if both parts are digits and the count fits. -/
theorem bytesOfParts_eq_ok_iff {whole : List Char} (positive : 0 < multiplier) {n : UInt64}
    : bytesOfParts whole fractional multiplier = .ok n
      ↔ (whole ≠ [] ∨ fractional.getD [] ≠ []) ∧ (∀ c ∈ whole, c.isDigit = true)
        ∧ (∀ c ∈ fractional.getD [], c.isDigit = true) ∧ (fractional.getD []).length ≤ 38
        ∧ digitsValue (fractional.getD []) * multiplier < 2 ^ 128
        ∧ scaledBytes whole (fractional.getD []) multiplier = n.toNat := by
  have someDigit : (whole.isEmpty && fractional.all List.isEmpty) = true
      ↔ ¬(whole ≠ [] ∨ fractional.getD [] ≠ []) := by
    cases fractional <;> simp
  unfold bytesOfParts
  by_cases digit : whole ≠ [] ∨ fractional.getD [] ≠ []
  · rw [if_neg fun none => someDigit.mp none digit]
    by_cases wholeDigits : ∀ c ∈ whole, c.isDigit = true
    · have read : (if whole.isEmpty then some 0 else parseU128 whole)
          = if digitsValue whole < 2 ^ 128 then some (digitsValue whole) else none := by
        cases whole with
        | nil => rfl
        | cons c rest => exact parseU128_of_digits wholeDigits (List.cons_ne_nil c rest)
      rw [if_neg (by simpa using wholeDigits), read]
      by_cases fits : digitsValue whole < 2 ^ 128
      · rw [if_pos fits]
        simp only [totalBytes_eq_ok_iff, bytesBehindPoint_eq_ok_iff, scaledBytes]
        constructor
        · rintro ⟨_, ⟨fractionDigits, few, scales, rfl⟩, same⟩
          exact ⟨digit, wholeDigits, fractionDigits, few, scales, same⟩
        · rintro ⟨_, _, fractionDigits, few, scales, same⟩
          exact ⟨_, ⟨fractionDigits, few, scales, rfl⟩, same⟩
      · rw [if_neg fits]
        refine iff_of_false nofun ?_
        rintro ⟨_, _, _, _, _, same⟩
        have range := n.toNat_lt
        have scaled : digitsValue whole ≤ digitsValue whole * multiplier :=
          Nat.le_mul_of_pos_right _ positive
        have part : digitsValue whole * multiplier ≤ n.toNat := by
          rw [← same]
          exact Nat.le_add_right _ _
        omega
    · rw [if_pos (by simpa using wholeDigits)]
      exact iff_of_false nofun fun valid => wholeDigits valid.2.1
  · rw [if_pos (someDigit.mpr digit)]
    exact iff_of_false nofun fun valid => digit valid.1

theorem dot_not_mem_of_digits (all : ∀ c ∈ digits, c.isDigit = true)
    : '.' ∉ digits := fun member => absurd (all '.' member) (by decide)

theorem parseDecimalByteCount_eq_ok_iff {number : List Char}
    (positive : 0 < multiplier) {n : UInt64}
    : parseDecimalByteCount number multiplier = .ok n
      ↔ ∃ whole fraction, Numeral number whole fraction ∧ fraction.length ≤ 38
        ∧ digitsValue fraction * multiplier < 2 ^ 128
        ∧ scaledBytes whole fraction multiplier = n.toNat := by
  have cut {whole fraction : List Char} (numeral : Numeral number whole fraction)
      : number.count '.' ≤ 1
        ∧ (splitOnce '.' number = some (whole, fraction)
          ∨ splitOnce '.' number = none ∧ number = whole ∧ fraction = []) := by
    have wholeFree := dot_not_mem_of_digits numeral.wholeDigits
    have fractionFree := dot_not_mem_of_digits numeral.fractionDigits
    rcases numeral.spelled with ⟨rfl, rfl⟩ | rfl
    · refine ⟨?_, .inr ⟨splitOnce_eq_none wholeFree, rfl, rfl⟩⟩
      rw [List.count_eq_zero.mpr wholeFree]
      omega
    · refine ⟨?_, .inl (splitOnce_eq_some.mpr ⟨wholeFree, rfl⟩)⟩
      simp [List.count_eq_zero.mpr wholeFree, List.count_eq_zero.mpr fractionFree]
  constructor
  · intro accepted
    unfold parseDecimalByteCount at accepted
    split at accepted
    next => cases accepted
    next =>
      split at accepted
      next => cases accepted
      next =>
        split at accepted
        next whole fraction parts =>
          obtain ⟨digit, wholeDigits, fractionDigits, few, scales, same⟩ :=
            (bytesOfParts_eq_ok_iff positive).mp accepted
          obtain ⟨_, spelled⟩ := splitOnce_eq_some.mp parts
          exact ⟨whole, fraction, ⟨.inr spelled, wholeDigits, fractionDigits, digit⟩, few, scales,
            same⟩
        next =>
          obtain ⟨digit, wholeDigits, fractionDigits, few, scales, same⟩ :=
            (bytesOfParts_eq_ok_iff positive).mp accepted
          exact ⟨number, [], ⟨.inl ⟨rfl, rfl⟩, wholeDigits, fractionDigits, digit⟩, few, scales,
            same⟩
  · rintro ⟨whole, fraction, numeral, few, scales, same⟩
    obtain ⟨once, parts⟩ := cut numeral
    unfold parseDecimalByteCount
    rw [if_neg (by simpa using numeral.ne_nil), if_neg (by omega)]
    rcases parts with parts | ⟨parts, rfl, rfl⟩
    · rw [parts]
      exact (bytesOfParts_eq_ok_iff positive).mpr
        ⟨numeral.digits, numeral.wholeDigits, numeral.fractionDigits, few, scales, same⟩
    · rw [parts]
      exact (bytesOfParts_eq_ok_iff positive).mpr
        ⟨numeral.digits, numeral.wholeDigits, numeral.fractionDigits, few, scales, same⟩

theorem byteMultiplier_pos {suffix : String}
    (unit : byteMultiplier suffix = some multiplier) : 0 < multiplier := by
  unfold byteMultiplier at unit
  split at unit
  next => cases unit; decide
  next =>
    split at unit
    next => cases unit; decide
    next =>
      split at unit
      next => cases unit; decide
      next =>
        split at unit
        next => cases unit; decide
        next =>
          split at unit
          next => cases unit; decide
          next => cases unit

theorem byteMultiplier_of_numberChar {suffix : String} {c : Char} {rest : List Char}
    (starts : suffix.toList = c :: rest) (number : isNumberChar c = true)
    : byteMultiplier suffix = none := by
  have other (unit : String) (first : unit.toList.all fun d => !isNumberChar d)
      : suffix ≠ unit := by
    rintro rfl
    rw [starts] at first
    simp [number] at first
  unfold byteMultiplier
  repeat rw [if_neg]
  all_goals
    simp only [List.mem_cons, List.not_mem_nil, or_false, not_or]
    repeat' constructor
  all_goals exact other _ (by decide)

theorem toNat_of_numberChar {c : Char} (number : isNumberChar c = true)
    : 46 ≤ c.toNat ∧ c.toNat ≤ 57 := by
  simp only [isNumberChar, Char.isDigit, Bool.or_eq_true, Bool.and_eq_true, decide_eq_true_eq,
    beq_iff_eq] at number
  rcases number with ⟨low, high⟩ | rfl
  · have low_ : 48 ≤ c.val.toNat := low
    have high_ : c.val.toNat ≤ 57 := high
    change 46 ≤ c.val.toNat ∧ c.val.toNat ≤ 57
    omega
  · decide

theorem plain_of_numberChar {c : Char} (number : isNumberChar c = true)
    : isWhitespace c = false ∧ c.toLower = c := by
  obtain ⟨low, high⟩ := toNat_of_numberChar number
  constructor
  · simp only [isWhitespace, Bool.or_eq_false_iff, Bool.and_eq_false_iff, beq_eq_false_iff_ne,
      decide_eq_false_iff_not]
    omega
  · unfold Char.toLower
    refine dif_neg fun upper => ?_
    have letter : 65 ≤ c.toNat := upper.1
    omega

/-- Trimming does not touch what starts with no white space. -/
theorem exists_trim_cons {c : Char} {rest : List Char} (black : isWhitespace c = false)
    : ∃ more, (trim (String.ofList (c :: rest))).toList = c :: more := by
  have kept : (c :: rest).dropWhile isWhitespace = c :: rest :=
    List.dropWhile_cons_of_neg (by simp [black])
  simp only [trim, trimEndMatches, String.toList_ofList, kept, List.reverse_cons,
    List.dropWhile_append]
  split
  next =>
    refine ⟨[], ?_⟩
    simp [black]
  next => exact ⟨_, by rw [List.reverse_append, List.reverse_singleton, List.singleton_append]⟩

/-- A unit does not start with a character of a number, before it is trimmed. -/
theorem takeWhile_unit {unit : List Char}
    (recognised : byteMultiplier (toAsciiLowercase (trim (String.ofList unit)))
      = some multiplier)
    : unit.takeWhile isNumberChar = [] := by
  cases unit with
  | nil => rfl
  | cons c rest =>
      cases number : isNumberChar c with
      | false => simp [number]
      | true =>
          obtain ⟨black, lower⟩ := plain_of_numberChar number
          obtain ⟨more, starts⟩ := @exists_trim_cons c rest black
          have none : byteMultiplier (toAsciiLowercase (trim (String.ofList (c :: rest))))
              = none := by
            refine @byteMultiplier_of_numberChar _ _ (more.map Char.toLower) ?_ number
            rw [toAsciiLowercase, String.toList_ofList, starts, List.map_cons, lower]
          rw [none] at recognised
          cases recognised

theorem numberChars_of_numeral {number whole fraction : List Char}
    (numeral : Numeral number whole fraction) : ∀ c ∈ number, isNumberChar c = true := by
  have digit {c : Char} (isDigit : c.isDigit = true) : isNumberChar c = true := by
    simp [isNumberChar, isDigit]
  intro c member
  rcases numeral.spelled with ⟨rfl, _⟩ | rfl
  · exact digit (numeral.wholeDigits c member)
  · rcases List.mem_append.mp member with inWhole | inRest
    · exact digit (numeral.wholeDigits c inWhole)
    · rcases List.mem_cons.mp inRest with rfl | inFraction
      · rfl
      · exact digit (numeral.fractionDigits c inFraction)

theorem Numeral.unique {number whole fraction whole' fraction' : List Char}
    (numeral : Numeral number whole fraction) (other : Numeral number whole' fraction')
    : whole = whole' ∧ fraction = fraction' := by
  have wholeFree := dot_not_mem_of_digits numeral.wholeDigits
  have wholeFree' := dot_not_mem_of_digits other.wholeDigits
  rcases numeral.spelled with ⟨rfl, rfl⟩ | spelled
  · rcases other.spelled with ⟨rfl, rfl⟩ | spelled
    · exact ⟨rfl, rfl⟩
    · rw [spelled] at wholeFree
      simp at wholeFree
  · rcases other.spelled with ⟨rfl, rfl⟩ | spelled'
    · rw [spelled] at wholeFree'
      simp at wholeFree'
    · have cut := splitOnce_eq_some.mpr ⟨wholeFree, spelled⟩
      have cut' := splitOnce_eq_some.mpr ⟨wholeFree', spelled'⟩
      exact Prod.mk.inj (Option.some.inj (cut.symm.trans cut'))

/-- Where a text has a number with a unit, it is cut right behind the characters of numbers. -/
theorem cut_of_written {raw : String} {number unit whole fraction : List Char}
    (spelled : (trim raw).toList = number ++ unit) (numeral : Numeral number whole fraction)
    (recognised : byteMultiplier (toAsciiLowercase (trim (String.ofList unit)))
      = some multiplier)
    : (trim raw).toList.takeWhile isNumberChar = number
      ∧ (trim raw).toList.dropWhile isNumberChar = unit := by
  have numberChars := numberChars_of_numeral numeral
  have none := takeWhile_unit recognised
  have whole_ := @List.takeWhile_append_dropWhile _ isNumberChar unit
  rw [none, List.nil_append] at whole_
  constructor
  · rw [spelled, List.takeWhile_append_of_pos numberChars, none, List.append_nil]
  · rw [spelled, List.dropWhile_append_of_pos numberChars, whole_]

theorem Written.unique {raw : String} {whole fraction whole' fraction' : List Char}
    {multiplier multiplier' : Nat} (written : Written raw whole fraction multiplier)
    (other : Written raw whole' fraction' multiplier')
    : whole = whole' ∧ fraction = fraction' ∧ multiplier = multiplier' := by
  obtain ⟨⟨number, unit, spelled, numeral, recognised⟩, _⟩ := written
  obtain ⟨⟨number', unit', spelled', numeral', recognised'⟩, _⟩ := other
  obtain ⟨rfl, rfl⟩ := cut_of_written spelled numeral recognised
  obtain ⟨rfl, rfl⟩ := cut_of_written spelled' numeral' recognised'
  obtain ⟨rfl, rfl⟩ := numeral.unique numeral'
  exact ⟨rfl, rfl, Option.some.inj (recognised.symm.trans recognised')⟩

/-- Which texts are accepted, and as what: the digits behind the point must be scaled within 128
bits, which is more than that the count fits.
-/
theorem parseByteCount_eq_ok_iff {raw : String} {n : UInt64}
    : parseByteCount raw = .ok n
      ↔ ∃ whole fraction multiplier, Written raw whole fraction multiplier
        ∧ digitsValue fraction * multiplier < 2 ^ 128
        ∧ scaledBytes whole fraction multiplier = n.toNat := by
  simp only [parseByteCount]
  constructor
  · intro accepted
    split at accepted
    next => cases accepted
    next =>
      split at accepted
      next => cases accepted
      next multiplier unit =>
        obtain ⟨whole, fraction, numeral, few, scales, same⟩ :=
          (parseDecimalByteCount_eq_ok_iff (byteMultiplier_pos unit)).mp accepted
        exact ⟨whole, fraction, multiplier,
          ⟨⟨_, _, List.takeWhile_append_dropWhile.symm, numeral, unit⟩, few⟩, scales, same⟩
  · rintro ⟨whole, fraction, multiplier, ⟨⟨number, unit, spelled, numeral, recognised⟩, few⟩,
      scales, same⟩
    obtain ⟨front, back⟩ := cut_of_written spelled numeral recognised
    have nonempty : (trim raw).toList.isEmpty = false := by
      rw [spelled]
      simp [numeral.ne_nil]
    rw [nonempty, front, back, recognised]
    exact (parseDecimalByteCount_eq_ok_iff (byteMultiplier_pos recognised)).mpr
      ⟨whole, fraction, numeral, few, scales, same⟩

/-- Whatever number the text is written for, if it fits, then the digits behind its point can be
scaled within 128 bits.
-/
def Scalable (raw : String) : Prop :=
  ∀ whole fraction multiplier, Written raw whole fraction multiplier
    → exactBytes whole fraction multiplier < 2 ^ 64
    → digitsValue fraction * multiplier < 2 ^ 128

/-- A text is parsed exactly if and only if its digits behind the point can be scaled within 128
bits, or it is not to be accepted anyway.
-/
theorem parsedExactly_iff {raw : String} : ParsedExactly raw ↔ Scalable raw := by
  have fits {whole fraction : List Char} {multiplier : Nat}
      : exactBytes whole fraction multiplier < 2 ^ 64
        ↔ scaledBytes whole fraction multiplier < 2 ^ 64 := by
    have nonneg : 0 ≤ exactBytes whole fraction multiplier := by
      unfold exactBytes
      positivity
    rw [← floor_exactBytes, Nat.floor_lt nonneg]
    norm_num
  constructor
  · intro exact_ whole fraction multiplier written small
    have range := fits.mp small
    have accepted := (exact_ (UInt64.ofNat (scaledBytes whole fraction multiplier))).mpr
      ⟨whole, fraction, multiplier, written, by
        rw [floor_exactBytes, UInt64.toNat_ofNat_of_lt' range]⟩
    obtain ⟨whole_, fraction_, multiplier_, written_, scales, _⟩ :=
      parseByteCount_eq_ok_iff.mp accepted
    obtain ⟨rfl, rfl, rfl⟩ := written.unique written_
    exact scales
  · intro scalable n
    rw [parseByteCount_eq_ok_iff]
    constructor
    · rintro ⟨whole, fraction, multiplier, written, _, same⟩
      exact ⟨whole, fraction, multiplier, written, by rw [floor_exactBytes, same]⟩
    · rintro ⟨whole, fraction, multiplier, written, same⟩
      rw [floor_exactBytes] at same
      refine ⟨whole, fraction, multiplier, written, ?_, same⟩
      exact scalable whole fraction multiplier written (fits.mpr (same ▸ n.toNat_lt))

def longHalf : String := "1.50000000000000000000000000000000000000K"

/-- The digits behind the point are too large by a factor before they are divided. -/
theorem longHalf_rejected : ¬ ∀ raw : String, ParsedExactly raw := by
  intro exact_
  have fractionDigits : ∀ c ∈ '5' :: List.replicate 37 '0', c.isDigit = true := by
    intro c member
    rcases List.mem_cons.mp member with rfl | zero
    · rfl
    · rw [List.eq_of_mem_replicate zero]
      rfl
  have numeral : Numeral ('1' :: '.' :: '5' :: List.replicate 37 '0') ['1']
      ('5' :: List.replicate 37 '0') :=
    ⟨.inr rfl, List.forall_mem_singleton.mpr rfl, fractionDigits, .inl nofun⟩
  have written : Written longHalf ['1'] ('5' :: List.replicate 37 '0') 1024 :=
    ⟨⟨_, ['K'], by decide +kernel, numeral, by decide +kernel⟩, by simp⟩
  have accepted := (exact_ longHalf 1536).mpr
    ⟨_, _, _, written, by rw [floor_exactBytes]; decide +kernel⟩
  have rejected : (parseByteCount longHalf).toOption = none := by decide +kernel
  rw [accepted] at rejected
  cases rejected

end StorageBallast.ByteCounts
