import Mathlib.Data.Char
import Mathlib.Data.List.Basic
import Mathlib.Order.Compare
import Mathlib.Tactic.Common
import Mathlib.Algebra.Group.Nat.Defs

/-! The order of texts against the order of what they stand for. Numerals of one length are in
the order of their numbers. Of parts with a separator between them one decides after the other,
except that a part with something behind it comes after a longer one that goes on with a
character below the separator.
-/

namespace StorageBallast.DottedTexts

def value (digits : List Char) : Nat := Nat.ofDigitChars 10 digits 0

theorem value_cons (c : Char) (digits : List Char)
    : value (c :: digits) = 10 ^ digits.length * (c.toNat - '0'.toNat) + value digits := by
  rw [value, value, Nat.ofDigitChars_cons, Nat.ofDigitChars_eq_ofDigitChars_zero, Nat.mul_zero,
    Nat.zero_add]

theorem digit_bounds {c : Char} (isDigit : c.isDigit = true)
    : '0'.toNat ≤ c.toNat ∧ c.toNat ≤ '9'.toNat := by
  rw [Char.isDigit, Bool.and_eq_true, decide_eq_true_eq, decide_eq_true_eq] at isDigit
  exact isDigit

theorem value_lt {digits : List Char} (areDigits : digits.all Char.isDigit = true)
    : value digits < 10 ^ digits.length := by
  induction digits with
  | nil => decide
  | cons c digits ih =>
      rw [List.all_cons, Bool.and_eq_true] at areDigits
      have ⟨_, most⟩ := digit_bounds areDigits.1
      have small : c.toNat - '0'.toNat ≤ 9 := by
        have nine : '9'.toNat = '0'.toNat + 9 := rfl
        omega
      have rest := ih areDigits.2
      rw [value_cons, List.length_cons, Nat.pow_succ]
      have first := Nat.mul_le_mul_left (10 ^ digits.length) small
      omega

/-- Among numerals of one length the texts are in the order of the numbers. -/
theorem compare_of_length_eq {left right : List Char} (leftDigits : left.all Char.isDigit = true)
    (rightDigits : right.all Char.isDigit = true) (same : left.length = right.length)
    : compare left right = compare (value left) (value right) := by
  induction left generalizing right with
  | nil =>
      obtain rfl := List.length_eq_zero_iff.mp same.symm
      rfl
  | cons c left ih =>
      cases right with
      | nil => cases same
      | cons d right =>
          rw [List.all_cons, Bool.and_eq_true] at leftDigits rightDigits
          rw [List.length_cons, List.length_cons, Nat.add_right_cancel_iff] at same
          have ⟨cLeast, _⟩ := digit_bounds leftDigits.1
          have ⟨dLeast, _⟩ := digit_bounds rightDigits.1
          have leftSmall := value_lt leftDigits.2
          have rightSmall := value_lt rightDigits.2
          have below : ∀ {m n a b : Nat}, m < n → a < 10 ^ right.length →
              10 ^ right.length * m + a < 10 ^ right.length * n + b := by
            intro m n a b less small
            have step := Nat.mul_le_mul_left (10 ^ right.length) less
            rw [Nat.mul_succ] at step
            omega
          rw [List.compare_cons_cons, value_cons, value_cons, same,
            ih leftDigits.2 rightDigits.2 same]
          rw [same] at leftSmall
          cases order : compare c d with
          | lt =>
              have less : c.toNat < d.toNat := (compare_lt_iff_lt.mp order : c < d)
              exact (compare_lt_iff_lt.mpr (below (by omega) leftSmall)).symm
          | eq =>
              obtain rfl := Std.LawfulEqOrd.eq_of_compare order
              change compare (value left) (value right) = _
              rcases Nat.lt_trichotomy (value left) (value right) with less | equal | more
              · rw [compare_lt_iff_lt.mpr less, compare_lt_iff_lt.mpr (by omega)]
              · rw [equal, Std.ReflOrd.compare_self, Std.ReflOrd.compare_self]
              · rw [compare_gt_iff_gt.mpr more, compare_gt_iff_gt.mpr (by omega)]
          | gt =>
              have more : d.toNat < c.toNat := (compare_gt_iff_gt.mp order : d < c)
              exact (compare_gt_iff_gt.mpr (below (by omega) rightSmall)).symm

/-- Without a leading zero a longer numeral is for a greater number. -/
theorem value_lt_of_length_lt {left right : List Char}
    (leftDigits : left.all Char.isDigit = true) (rightDigits : right.all Char.isDigit = true)
    (leading : right.head? ≠ some '0') (shorter : left.length < right.length)
    : value left < value right := by
  cases right with
  | nil => cases shorter
  | cons d right =>
      rw [List.all_cons, Bool.and_eq_true] at rightDigits
      have ⟨least, _⟩ := digit_bounds rightDigits.1
      have notZero : d.toNat ≠ '0'.toNat := fun same =>
        leading (congrArg some (Char.toNat_inj.mp same))
      have small := value_lt leftDigits
      have fits : 10 ^ left.length ≤ 10 ^ right.length :=
        Nat.pow_le_pow_right (by decide) (Nat.le_of_lt_succ shorter)
      have large : 10 ^ right.length * 1 ≤ 10 ^ right.length * (d.toNat - '0'.toNat) :=
        Nat.mul_le_mul_left _ (by omega)
      rw [value_cons]
      omega

variable {separator : Char} {front text behind after : List Char}

theorem compare_append_left (common left right : List Char)
    : compare (common ++ left) (common ++ right) = compare left right := by
  induction common with
  | nil => rfl
  | cons c common ih =>
      rw [List.cons_append, List.cons_append, List.compare_cons_cons, Std.ReflOrd.compare_self]
      exact ih

theorem compare_longer (text : List Char) (c : Char) (rest : List Char)
    : compare text (text ++ c :: rest) = .lt ∧ compare (text ++ c :: rest) text = .gt := by
  constructor
  · have order := compare_append_left text [] (c :: rest)
    rw [List.append_nil] at order
    exact order.trans List.compare_nil_cons
  · have order := compare_append_left text (c :: rest) []
    rw [List.append_nil] at order
    exact order.trans List.compare_cons_nil

def Ends (separator : Char) (behind : List Char) : Prop :=
  behind = [] ∨ ∃ more, behind = separator :: more

def Undercuts (separator : Char) (front behind text : List Char) : Prop :=
  behind ≠ [] ∧ ∃ c rest, text = front ++ c :: rest ∧ c < separator

theorem compare_of_undercuts (ends : Ends separator behind)
    (undercuts : Undercuts separator front behind text)
    : compare (front ++ behind) (text ++ after) = .gt := by
  obtain ⟨follows, c, rest, rfl, below⟩ := undercuts
  obtain ⟨more, rfl⟩ := ends.resolve_left follows
  have above : compare separator c = .gt := compare_gt_iff_gt.mpr below
  rw [List.append_assoc, compare_append_left, List.cons_append, List.compare_cons_cons, above]
  rfl

/-- Otherwise what follows two different texts does not count, by induction on both. -/
theorem compare_append_of_ne (differs : front ≠ text) (frontFree : separator ∉ front)
    (textFree : separator ∉ text) (behindEnds : Ends separator behind)
    (afterEnds : Ends separator after)
    (notFront : ¬ Undercuts separator front behind text)
    (notText : ¬ Undercuts separator text after front)
    : compare (front ++ behind) (text ++ after) = compare front text := by
  induction front generalizing text with
  | nil =>
      cases text with
      | nil => exact absurd rfl differs
      | cons c text =>
          rw [List.nil_append, List.cons_append, List.compare_nil_cons]
          rcases behindEnds with rfl | ⟨more, rfl⟩
          · exact List.compare_nil_cons
          · have notBelow : ¬ c < separator := fun below =>
              notFront ⟨List.cons_ne_nil _ _, c, text, rfl, below⟩
            have other : separator ≠ c := fun same => textFree (same ▸ List.mem_cons_self)
            have less : separator < c := lt_of_le_of_ne (not_lt.mp notBelow) other
            rw [List.compare_cons_cons, compare_lt_iff_lt.mpr less]
            rfl
  | cons d front ih =>
      cases text with
      | nil =>
          rw [List.nil_append, List.cons_append, List.compare_cons_nil]
          rcases afterEnds with rfl | ⟨more, rfl⟩
          · exact List.compare_cons_nil
          · have notBelow : ¬ d < separator := fun below =>
              notText ⟨List.cons_ne_nil _ _, d, front, rfl, below⟩
            have other : separator ≠ d := fun same => frontFree (same ▸ List.mem_cons_self)
            have less : separator < d := lt_of_le_of_ne (not_lt.mp notBelow) other
            rw [List.compare_cons_cons, compare_gt_iff_gt.mpr less]
            rfl
      | cons c text =>
          rw [List.cons_append, List.cons_append, List.compare_cons_cons, List.compare_cons_cons]
          cases same : compare d c with
          | lt | gt => rfl
          | eq =>
              obtain rfl := Std.LawfulEqOrd.eq_of_compare same
              refine ih (fun equal => differs (equal ▸ rfl))
                (List.not_mem_of_not_mem_cons frontFree)
                (List.not_mem_of_not_mem_cons textFree) ?_ ?_
              · intro ⟨follows, c, rest, whole, below⟩
                exact notFront ⟨follows, c, rest, congrArg (d :: ·) whole, below⟩
              · intro ⟨follows, c, rest, whole, below⟩
                exact notText ⟨follows, c, rest, congrArg (d :: ·) whole, below⟩

def join (separator : Char) (parts : List (List Char)) : List Char :=
  [separator].intercalate parts

theorem join_singleton (separator : Char) (part : List Char)
    : join separator [part] = part := by
  simp [join]

theorem join_cons_cons (separator : Char) (part next : List Char) (parts : List (List Char))
    : join separator (part :: next :: parts)
      = part ++ separator :: join separator (next :: parts) := by
  simp [join, List.intercalate]

theorem join_cons (separator : Char) (part : List Char) (parts : List (List Char))
    : ∃ behind, join separator (part :: parts) = part ++ behind ∧ Ends separator behind
        ∧ (behind = [] ↔ parts = []) := by
  cases parts with
  | nil =>
      rw [join_singleton]
      exact ⟨[], (List.append_nil part).symm, .inl rfl, iff_of_true rfl rfl⟩
  | cons next rest =>
      rw [join_cons_cons]
      exact ⟨_, rfl, .inr ⟨_, rfl⟩, iff_of_false nofun nofun⟩

theorem not_mem_join {c : Char} {parts : List (List Char)} (other : c ≠ separator)
    (free : ∀ part ∈ parts, c ∉ part) : c ∉ join separator parts := by
  induction parts with
  | nil => exact List.not_mem_nil
  | cons part parts ih =>
      have later := ih fun part member => free part (List.mem_cons_of_mem _ member)
      have here := free part List.mem_cons_self
      cases parts with
      | nil =>
          rw [join_singleton]
          exact here
      | cons next rest =>
          intro member
          rw [join_cons_cons, List.mem_append, List.mem_cons] at member
          rcases member with inside | same | after
          · exact here inside
          · exact other same
          · exact later after

end StorageBallast.DottedTexts
