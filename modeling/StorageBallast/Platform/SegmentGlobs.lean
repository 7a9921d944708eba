import Mathlib.Data.List.TakeWhile
import Mathlib.Tactic.Common
import StorageBallast.Platform.CleanupCatalog

/-! The matcher of cleanup globs with its two indices, and what such globs mean: a wildcard or a
class stays within one segment of a path. The matcher always comes to an answer, and to the right
one.
-/

namespace StorageBallast

namespace SegmentGlobs

/-- What a cleanup glob means. -/
inductive Matches : List UInt8 → List UInt8 → Prop
  | nil : Matches [] []
  | star {pattern text : List UInt8} (part : List UInt8) (whole : 47 ∉ part)
      (rest : Matches pattern text) : Matches (42 :: pattern) (part ++ text)
  | one {pattern text : List UInt8} (byte : UInt8) (whole : byte ≠ 47)
      (rest : Matches pattern text) : Matches (63 :: pattern) (byte :: text)
  | listed {pattern text : List UInt8} (set : List UInt8) (byte : UInt8) (closed : 93 ∉ set)
      (member : byte ∈ set) (whole : byte ≠ 47) (rest : Matches pattern text)
      : Matches (91 :: (set ++ 93 :: pattern)) (byte :: text)
  | unclosed {pattern text : List UInt8} (unclosed : 93 ∉ pattern) (rest : Matches pattern text)
      : Matches (91 :: pattern) (91 :: text)
  | itself {pattern text : List UInt8} (byte : UInt8)
      (plain : byte ≠ 42 ∧ byte ≠ 63 ∧ byte ≠ 91) (rest : Matches pattern text)
      : Matches (byte :: pattern) (byte :: text)

/-- `&bytes[start..]`, which fails behind the end. -/
def sliceFrom (bytes : List UInt8) (start : Nat) : Option (List UInt8) :=
  if start ≤ bytes.length then some (bytes.drop start) else none

def lastStar (pattern : List UInt8) (index : Nat) : Nat :=
  if pattern[index + 1]? = some 42 then lastStar pattern (index + 1) else index
termination_by pattern.length - index
decreasing_by
  have inside := (List.getElem?_eq_some_iff.mp ‹_›).1
  omega

def anyOffset (attempt : Nat → Option Bool) : List Nat → Option Bool
  | [] => some false
  | offset :: offsets =>
      match attempt offset with
      | none => none
      | some true => some true
      | some false => anyOffset attempt offsets

theorem le_lastStar (pattern : List UInt8) (index : Nat) : index ≤ lastStar pattern index := by
  fun_induction lastStar pattern index with
  | case1 index _ ih => exact Nat.le_of_succ_le ih
  | case2 => exact Nat.le_refl _

/-- `glob_match_bytes` from two indices on. -/
def globMatchFrom (pattern text : List UInt8) (patternIndex textIndex : Nat) : Option Bool :=
  match _here : pattern[patternIndex]? with
  | none => some (textIndex == text.length)
  | some 42 =>
      let rest := pattern.drop (lastStar pattern patternIndex + 1)
      match sliceFrom text textIndex with
      | none => none
      | some tail =>
          let slashOffset := (tail.findIdx? (· == 47)).getD (text.length - textIndex)
          anyOffset (fun offset =>
            match sliceFrom text (textIndex + offset) with
            | none => none
            | some tail => globMatchFrom rest tail 0 0) (List.range (slashOffset + 1))
  | some 63 =>
      match text[textIndex]? with
      | none => some false
      | some byte =>
          if byte == 47 then some false
          else globMatchFrom pattern text (patternIndex + 1) (textIndex + 1)
  | some 91 =>
      match (pattern.drop (patternIndex + 1)).findIdx? (· == 93) with
      | none =>
          if text[textIndex]? != some 91 then some false
          else globMatchFrom pattern text (patternIndex + 1) (textIndex + 1)
      | some offset =>
          let classEnd := patternIndex + 1 + offset
          match text[textIndex]? with
          | none => some false
          | some byte =>
              if byte == 47
                || !((pattern.drop (patternIndex + 1)).take (classEnd - (patternIndex + 1))).contains
                  byte then some false
              else globMatchFrom pattern text (classEnd + 1) (textIndex + 1)
  | some expected =>
      if text[textIndex]? != some expected then some false
      else globMatchFrom pattern text (patternIndex + 1) (textIndex + 1)
termination_by pattern.length - patternIndex
decreasing_by
  all_goals have inside := (List.getElem?_eq_some_iff.mp _here).1
  · have last := le_lastStar pattern patternIndex
    rw [List.length_drop]
    omega
  all_goals omega

theorem drop_lastStar (pattern : List UInt8) (index : Nat)
    : pattern.drop (lastStar pattern index + 1)
      = (pattern.drop (index + 1)).dropWhile (· == 42) := by
  fun_induction lastStar pattern index with
  | case1 index starred ih =>
      obtain ⟨inside, same⟩ := List.getElem?_eq_some_iff.mp starred
      rw [ih, List.drop_eq_getElem_cons inside, same]
      rfl
  | case2 index other =>
      cases rest : pattern.drop (index + 1) with
      | nil => rfl
      | cons byte rest =>
          have here : pattern[index + 1]? = some byte := by
            rw [← List.head?_drop, rest]
            rfl
          rw [here] at other
          rw [List.dropWhile_cons_of_neg]
          simpa using other

variable {bytes : List UInt8}

/-- The search for a byte and the walk up to it come to one place. -/
theorem findIdx?_walk {stop : UInt8} {offset : Nat}
    (found : bytes.findIdx? (· == stop) = some offset)
    : bytes.takeWhile (· != stop) = bytes.take offset
      ∧ bytes.dropWhile (· != stop) = bytes.drop offset ∧ bytes.contains stop = true := by
  induction bytes generalizing offset with
  | nil => cases found
  | cons byte bytes ih =>
      rw [List.findIdx?_cons] at found
      by_cases same : byte = stop
      · subst same
        rw [if_pos (beq_self_eq_true byte)] at found
        obtain rfl := Option.some.inj found
        simp
      · have other : ¬ (byte == stop) = true := by simpa using same
        rw [if_neg other] at found
        obtain ⟨before, later, rfl⟩ := Option.map_eq_some_iff.mp found
        obtain ⟨front, back, member⟩ := ih later
        simp [same, front, back, List.contains_iff_mem.mp member]

theorem not_contains_of_findIdx? {stop : UInt8}
    (missing : bytes.findIdx? (· == stop) = none) : bytes.contains stop = false := by
  rw [List.findIdx?_eq_none_iff] at missing
  rw [← Bool.not_eq_true, List.contains_iff_mem]
  intro member
  simpa using missing stop member

/-- Up to the first separator there are as many bytes as the first name has. -/
theorem slashOffset_eq (bytes : List UInt8)
    : (bytes.findIdx? (· == 47)).getD bytes.length
      = (bytes.takeWhile (· != 47)).length := by
  cases found : bytes.findIdx? (· == 47) with
  | some offset =>
      obtain ⟨front, -, -⟩ := findIdx?_walk found
      have inside := (List.findIdx?_eq_some_iff_getElem.mp found).1
      rw [front, List.length_take, Option.getD_some]
      omega
  | none =>
      have missing := not_contains_of_findIdx? found
      have whole : bytes.takeWhile (· != 47) = bytes := by
        rw [List.takeWhile_eq_self_iff]
        intro byte member
        refine bne_iff_ne.mpr fun same => ?_
        rw [List.contains_iff_mem.mpr (same ▸ member)] at missing
        cases missing
      rw [whole, Option.getD_none]

/-- Attempts that always come to an answer are tried like tests. -/
theorem anyOffset_eq {attempt : Nat → Option Bool} {test : Nat → Bool} {offsets : List Nat}
    (answers : ∀ offset ∈ offsets, attempt offset = some (test offset))
    : anyOffset attempt offsets = some (offsets.any test) := by
  induction offsets with
  | nil => rfl
  | cons offset offsets ih =>
      rw [List.forall_mem_cons] at answers
      rw [anyOffset, answers.1, List.any_cons]
      cases test offset with
      | true => rfl
      | false => exact ih answers.2

variable {byte : UInt8}

theorem drop_of_getElem? {index : Nat}
    (here : bytes[index]? = some byte) : bytes.drop index = byte :: bytes.drop (index + 1) := by
  obtain ⟨inside, rfl⟩ := List.getElem?_eq_some_iff.mp here
  exact List.drop_eq_getElem_cons inside

theorem succ_le_of_getElem? {index : Nat}
    (here : bytes[index]? = some byte) : index + 1 ≤ bytes.length :=
  (List.getElem?_eq_some_iff.mp here).1

theorem drop_of_getElem?_none {index : Nat} (here : bytes[index]? = none) : bytes.drop index = [] :=
  List.drop_eq_nil_of_le (List.getElem?_eq_none_iff.mp here)

theorem globMatchBytes_star {rest text : List UInt8}
    : globMatchBytes (42 :: rest) text
      = (List.range ((text.takeWhile (· != 47)).length + 1)).any fun offset =>
        globMatchBytes (rest.dropWhile (· == 42)) (text.drop offset) := by
  rw [globMatchBytes]

theorem globMatchBytes_one {rest text : List UInt8}
    : globMatchBytes (63 :: rest) (byte :: text) = (byte != 47 && globMatchBytes rest text) := by
  rw [globMatchBytes]

theorem globMatchBytes_listed {rest text : List UInt8} (closed : rest.contains 93 = true)
    : globMatchBytes (91 :: rest) (byte :: text)
      = (byte != 47 && (rest.takeWhile (· != 93)).contains byte
        && globMatchBytes ((rest.dropWhile (· != 93)).drop 1) text) := by
  rw [globMatchBytes, if_pos closed]

theorem globMatchBytes_unclosed {rest text : List UInt8} (unclosed : rest.contains 93 = false)
    : globMatchBytes (91 :: rest) (byte :: text) = (byte == 91 && globMatchBytes rest text) := by
  rw [globMatchBytes, if_neg (Bool.not_eq_true _ ▸ unclosed)]

theorem globMatchBytes_itself {rest text : List UInt8} {expected byte : UInt8}
    (plain : expected ≠ 42 ∧ expected ≠ 63 ∧ expected ≠ 91)
    : globMatchBytes (expected :: rest) (byte :: text)
      = (byte == expected && globMatchBytes rest text) := by
  rw [globMatchBytes]
  · exact plain.1
  · exact plain.2.1
  · exact plain.2.2

theorem globMatchBytes_nil {first : UInt8} {rest : List UInt8} (plain : first ≠ 42)
    : globMatchBytes (first :: rest) [] = false := by
  rw [globMatchBytes.eq_def]
  split
  next same => cases same
  next same => exact absurd (List.cons.inj same).1 plain
  next => rfl
  next => split <;> rfl
  next => rfl

/-- A pattern that takes one byte at its front takes it where the index stands, or fails. -/
theorem globMatchBytes_byte {first expected : UInt8} {rest text : List UInt8} {index : Nat}
    (plain : first ≠ 42)
    (step : ∀ byte tail, globMatchBytes (first :: rest) (byte :: tail)
      = (byte == expected && globMatchBytes rest tail))
    : globMatchBytes (first :: rest) (text.drop index)
      = (text[index]? == some expected && globMatchBytes rest (text.drop (index + 1))) := by
  cases read : text[index]? with
  | none => 
      rw [drop_of_getElem?_none read, globMatchBytes_nil plain]
      rfl
  | some byte =>
      rw [drop_of_getElem? read, step]
      rfl

/-- The matcher with indices comes to the answer of the matcher on what is left. -/
theorem globMatchFrom_eq {pattern text : List UInt8} {patternIndex textIndex : Nat}
    (fits : textIndex ≤ text.length)
    : globMatchFrom pattern text patternIndex textIndex
      = some (globMatchBytes (pattern.drop patternIndex) (text.drop textIndex)) := by
  fun_induction globMatchFrom pattern text patternIndex textIndex with
  | case1 pattern text patternIndex textIndex here =>
      rw [drop_of_getElem?_none here, globMatchBytes, Option.some_inj, Bool.eq_iff_iff,
        beq_iff_eq, List.isEmpty_iff, List.drop_eq_nil_iff]
      exact ⟨fun same => same ▸ Nat.le_refl _, Nat.le_antisymm fits⟩
  | case2 pattern text patternIndex textIndex here failed =>
      rw [sliceFrom, if_pos fits] at failed
      cases failed
  | case3 pattern text patternIndex textIndex here rest tail sliced slashOffset ih =>
      rw [sliceFrom, if_pos fits] at sliced
      obtain rfl := Option.some.inj sliced
      have offsets : slashOffset = ((text.drop textIndex).takeWhile (· != 47)).length := by
        rw [← slashOffset_eq, List.length_drop]
      have within := (List.takeWhile_prefix (l := text.drop textIndex) (· != 47)).length_le
      rw [List.length_drop] at within
      rw [drop_of_getElem? here, globMatchBytes_star, ← drop_lastStar, ← offsets]
      apply anyOffset_eq
      intro offset member
      have near := Nat.lt_succ_iff.mp (List.mem_range.mp member)
      have slice : sliceFrom text (textIndex + offset)
          = some ((text.drop textIndex).drop offset) := by
        rw [sliceFrom, if_pos (by omega), List.drop_drop]
      rw [slice]
      exact ih _ (Nat.zero_le _)
  | case4 pattern text patternIndex textIndex here ended =>
      rw [drop_of_getElem? here, drop_of_getElem?_none ended, globMatchBytes_nil (by decide)]
  | case5 pattern text patternIndex textIndex here byte read separator =>
      rw [drop_of_getElem? here, drop_of_getElem? read, globMatchBytes_one, bne, separator]
      rfl
  | case6 pattern text patternIndex textIndex here byte read inside ih =>
      rw [ih (succ_le_of_getElem? read), drop_of_getElem? here, drop_of_getElem? read,
        globMatchBytes_one, bne, (Bool.not_eq_true _).mp inside]
      rfl
  | case7 pattern text patternIndex textIndex here missing other =>
      have unclosed := not_contains_of_findIdx? missing
      rw [bne, Bool.not_eq_true'] at other
      rw [drop_of_getElem? here, globMatchBytes_byte (by decide)
        fun byte tail => globMatchBytes_unclosed unclosed, other]
      rfl
  | case8 pattern text patternIndex textIndex here missing bracket ih =>
      have unclosed := not_contains_of_findIdx? missing
      rw [bne, Bool.not_eq_true', Bool.not_eq_false] at bracket
      rw [ih (succ_le_of_getElem? (beq_iff_eq.mp bracket)), drop_of_getElem? here,
        globMatchBytes_byte (by decide) fun byte tail => globMatchBytes_unclosed unclosed, bracket]
      rfl
  | case9 pattern text patternIndex textIndex here offset found ended =>
      rw [drop_of_getElem? here, drop_of_getElem?_none ended, globMatchBytes_nil (by decide)]
  | case10 pattern text patternIndex textIndex here offset found classEnd byte read refused =>
      obtain ⟨front, back, closed⟩ := findIdx?_walk found
      rw [Nat.add_sub_cancel_left, ← front] at refused
      rw [drop_of_getElem? here, drop_of_getElem? read, globMatchBytes_listed closed, bne,
        ← Bool.not_not (List.contains _ byte), ← Bool.not_or, refused]
      rfl
  | case11 pattern text patternIndex textIndex here offset found classEnd byte read listed ih =>
      obtain ⟨front, back, closed⟩ := findIdx?_walk found
      rw [Nat.add_sub_cancel_left, ← front, Bool.not_eq_true] at listed
      rw [ih (succ_le_of_getElem? read), drop_of_getElem? here, drop_of_getElem? read,
        globMatchBytes_listed closed, bne, ← Bool.not_not (List.contains _ byte), ← Bool.not_or,
        listed, back, List.drop_drop, List.drop_drop]
      rfl
  | case12 pattern text patternIndex textIndex expected star mark bracket here other =>
      rw [bne, Bool.not_eq_true'] at other
      rw [drop_of_getElem? here, globMatchBytes_byte star
        fun byte tail => globMatchBytes_itself ⟨star, mark, bracket⟩, other]
      rfl
  | case13 pattern text patternIndex textIndex expected star mark bracket here same ih =>
      rw [bne, Bool.not_eq_true', Bool.not_eq_false] at same
      rw [ih (succ_le_of_getElem? (beq_iff_eq.mp same)), drop_of_getElem? here,
        globMatchBytes_byte star fun byte tail => globMatchBytes_itself ⟨star, mark, bracket⟩,
        same]
      rfl

theorem matches_star {pattern text : List UInt8}
    : Matches (42 :: pattern) text
      ↔ ∃ part rest, text = part ++ rest ∧ 47 ∉ part ∧ Matches pattern rest := by
  constructor
  · intro matched
    cases matched with
    | star part whole rest => exact ⟨part, _, rfl, whole, rest⟩
    | itself _ plain => exact absurd rfl plain.1
  · rintro ⟨part, rest, rfl, whole, matched⟩
    exact .star part whole matched

theorem matches_dropStars {pattern text : List UInt8}
    : Matches (42 :: pattern.dropWhile (· == 42)) text ↔ Matches (42 :: pattern) text := by
  induction pattern generalizing text with
  | nil => rfl
  | cons first pattern ih =>
      by_cases starred : first = 42
      · subst starred
        rw [List.dropWhile_cons_of_pos (by rfl), ih]
        constructor
        · intro matched
          exact matches_star.mpr ⟨[], text, rfl, List.not_mem_nil, matched⟩
        · intro matched
          obtain ⟨part, rest, rfl, whole, later⟩ := matches_star.mp matched
          obtain ⟨more, behind, rfl, whole', last⟩ := matches_star.mp later
          refine matches_star.mpr ⟨part ++ more, behind, by simp, ?_, last⟩
          rw [List.mem_append]
          exact not_or.mpr ⟨whole, whole'⟩
      · rw [List.dropWhile_cons_of_neg (by simpa using starred)]

/-- A front without separators is one that ends at an offset in the first name. -/
theorem exists_offset_iff {text : List UInt8} {next : List UInt8 → Prop}
    : (∃ offset, offset < (text.takeWhile (· != 47)).length + 1 ∧ next (text.drop offset))
      ↔ ∃ part rest, text = part ++ rest ∧ 47 ∉ part ∧ next rest := by
  constructor
  · rintro ⟨offset, near, later⟩
    refine ⟨text.take offset, text.drop offset, (List.take_append_drop _ _).symm, ?_, later⟩
    intro separator
    have front : text.take offset <+: text.takeWhile (· != 47) :=
      List.prefix_of_prefix_length_le (List.take_prefix _ _) (List.takeWhile_prefix _)
        ((List.length_take_le _ _).trans (Nat.lt_succ_iff.mp near))
    have passed := List.mem_takeWhile_imp (front.subset separator)
    cases passed
  · rintro ⟨part, rest, rfl, whole, later⟩
    have passed : ∀ byte ∈ part, (byte != 47) = true := fun byte member =>
      bne_iff_ne.mpr fun same => whole (same ▸ member)
    refine ⟨part.length, ?_, by rwa [List.drop_left]⟩
    rw [List.takeWhile_append_of_pos passed, List.length_append]
    omega

theorem class_of_closed {set pattern : List UInt8} (closed : 93 ∉ set)
    : (set ++ 93 :: pattern).takeWhile (· != 93) = set
      ∧ ((set ++ 93 :: pattern).dropWhile (· != 93)).drop 1 = pattern := by
  have passed : ∀ byte ∈ set, (byte != 93) = true := fun byte member =>
    bne_iff_ne.mpr fun same => closed (same ▸ member)
  rw [List.takeWhile_append_of_pos passed, List.dropWhile_append_of_pos passed]
  simp

theorem exists_class {rest : List UInt8} (closed : rest.contains 93 = true)
    : ∃ set pattern, rest = set ++ 93 :: pattern ∧ 93 ∉ set :=
  List.eq_append_cons_of_mem (List.contains_iff_mem.mp closed)

theorem not_matches_nil {first : UInt8} {rest : List UInt8} (plain : first ≠ 42)
    : ¬ Matches (first :: rest) [] := by
  intro matched
  generalize same : ([] : List UInt8) = text at matched
  cases matched with
  | star => exact plain rfl
  | one => cases same
  | listed => cases same
  | unclosed => cases same
  | itself => cases same

/-- The matcher finds what the glob means, by induction on its run. -/
theorem globMatchBytes_iff (pattern text : List UInt8)
    : globMatchBytes pattern text = true ↔ Matches pattern text := by
  fun_induction globMatchBytes pattern text with
  | case1 text =>
      rw [List.isEmpty_iff]
      constructor
      · rintro rfl
        exact .nil
      · intro matched
        cases matched
        rfl
  | case2 text pattern rest name ih =>
      rw [← matches_dropStars, matches_star, ← exists_offset_iff, List.any_eq_true]
      simp only [List.mem_range, ih, rest, name]
  | case3 rest => exact iff_of_false nofun (not_matches_nil (by decide))
  | case4 rest byte text ih =>
      rw [Bool.and_eq_true, bne_iff_ne, ih]
      constructor
      · exact fun ⟨whole, later⟩ => .one byte whole later
      · intro matched
        cases matched with
        | one _ whole later => exact ⟨whole, later⟩
        | itself _ plain => exact absurd rfl plain.2.1
  | case5 rest => exact iff_of_false nofun (not_matches_nil (by decide))
  | case6 rest closed byte text ih =>
      rw [Bool.and_eq_true, Bool.and_eq_true, bne_iff_ne, List.contains_iff_mem, ih]
      constructor
      · rintro ⟨⟨whole, member⟩, later⟩
        obtain ⟨set, pattern, rfl, unclosed⟩ := exists_class closed
        obtain ⟨front, back⟩ := @class_of_closed set pattern unclosed
        rw [front] at member
        rw [back] at later
        exact .listed set byte unclosed member whole later
      · intro matched
        cases matched with
        | listed set _ unclosed member whole later =>
            obtain ⟨front, back⟩ := class_of_closed unclosed
            rw [front, back]
            exact ⟨⟨whole, member⟩, later⟩
        | unclosed unclosed => exact absurd (List.contains_iff_mem.mp closed) unclosed
        | itself _ plain => exact absurd rfl plain.2.2
  | case7 rest => exact iff_of_false nofun (not_matches_nil (by decide))
  | case8 rest open_ byte text ih =>
      rw [Bool.and_eq_true, beq_iff_eq, ih]
      rw [List.contains_iff_mem] at open_
      constructor
      · rintro ⟨rfl, later⟩
        exact .unclosed open_ later
      · intro matched
        cases matched with
        | listed => exact absurd (List.mem_append_right _ List.mem_cons_self) open_
        | unclosed _ later => exact ⟨rfl, later⟩
        | itself _ plain => exact absurd rfl plain.2.2
  | case9 expected rest star => exact iff_of_false nofun (not_matches_nil star)
  | case10 expected rest star mark bracket byte text ih =>
      rw [Bool.and_eq_true, beq_iff_eq, ih]
      constructor
      · rintro ⟨rfl, later⟩
        exact .itself byte ⟨star, mark, bracket⟩ later
      · intro matched
        generalize same : byte :: text = whole at matched
        cases matched with
        | star => exact absurd rfl star
        | one => exact absurd rfl mark
        | listed => exact absurd rfl bracket
        | unclosed => exact absurd rfl bracket
        | itself _ _ later =>
            obtain ⟨rfl, rfl⟩ := List.cons.inj same
            exact ⟨rfl, later⟩

/-- With its indices the matcher always comes to an answer, and the glob means what it answers. -/
theorem globMatchFrom_iff (pattern text : List UInt8)
    : ∃ matched, globMatchFrom pattern text 0 0 = some matched
      ∧ (matched = true ↔ Matches pattern text) :=
  ⟨_, globMatchFrom_eq (Nat.zero_le _), globMatchBytes_iff pattern text⟩

end SegmentGlobs

end StorageBallast
