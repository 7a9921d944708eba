import Mathlib.Data.List.Basic
import Mathlib.Data.List.Infix
import Mathlib.Tactic.Common

/-! Globs whose only wildcard stands for any run of symbols, and the matcher with two cursors
that goes back to the last wildcard when it is stuck. Going back further is never needed: the
last wildcard can take whatever an earlier one would have taken in addition.
-/

namespace StorageBallast.StarGlobs

variable {α : Type*} (star : α)

/-- The text is the glob with some run of symbols in the place of each star. -/
inductive Matches : List α → List α → Prop
  | nil : Matches [] []
  | run {glob text : List α} (skipped : List α) (rest : Matches glob text)
      : Matches (star :: glob) (skipped ++ text)
  | literal {symbol : α} {glob text : List α} (plain : symbol ≠ star)
      (rest : Matches glob text) : Matches (symbol :: glob) (symbol :: text)

variable {star}

theorem matches_star {glob text : List α}
    : Matches star (star :: glob) text ↔ ∃ rest, rest <:+ text ∧ Matches star glob rest := by
  constructor
  · intro matched
    cases matched with
    | run skipped rest => exact ⟨_, List.suffix_append _ _, rest⟩
    | literal plain => exact absurd rfl plain
  · rintro ⟨rest, ⟨skipped, rfl⟩, matched⟩
    exact .run skipped matched

variable {symbol : α}

theorem matches_literal {glob text : List α} (plain : symbol ≠ star)
    : Matches star (symbol :: glob) text
      ↔ ∃ rest, text = symbol :: rest ∧ Matches star glob rest := by
  constructor
  · intro matched
    cases matched with
    | run => exact absurd rfl plain
    | literal _ rest => exact ⟨_, rfl, rest⟩
  · rintro ⟨rest, rfl, matched⟩
    exact .literal plain matched

/-- Symbols in front that are no stars stand for themselves, by induction on them. -/
theorem matches_literals {literals glob text : List α} (plain : star ∉ literals)
    : Matches star (literals ++ glob) text
      ↔ ∃ rest, text = literals ++ rest ∧ Matches star glob rest := by
  induction literals generalizing text with
  | nil => simp
  | cons symbol literals ih =>
      have here : symbol ≠ star := fun same => plain (same ▸ List.mem_cons_self)
      have later : star ∉ literals := fun member => plain (List.mem_cons_of_mem _ member)
      rw [List.cons_append, matches_literal here]
      constructor
      · rintro ⟨tail, rfl, matched⟩
        obtain ⟨rest, rfl, below⟩ := (ih later).mp matched
        exact ⟨rest, rfl, below⟩
      · rintro ⟨rest, rfl, matched⟩
        exact ⟨literals ++ rest, rfl, (ih later).mpr ⟨rest, rfl, matched⟩⟩

theorem matches_star_of_suffix {glob text longer : List α} (suffix : text <:+ longer)
    (matched : Matches star (star :: glob) text) : Matches star (star :: glob) longer := by
  obtain ⟨rest, within, below⟩ := matches_star.mp matched
  exact matches_star.mpr ⟨rest, within.trans suffix, below⟩

def Passed (star : α) (glob text : List α) (after : Option (List α)) (again : List α) : Prop :=
  ∀ start ∈ after, ∃ literals, star ∉ literals ∧ start = literals ++ glob
    ∧ again = literals ++ text

def MatchesLater (star : α) (after : Option (List α)) (again : List α) : Prop :=
  ∃ start ∈ after, ∃ later, again ≠ [] ∧ later <:+ again.tail ∧ Matches star start later

theorem not_matchesLater_none {again : List α} : ¬ MatchesLater star none again := by
  rintro ⟨start, last, -⟩
  cases last

variable {after : Option (List α)}

theorem matches_of_matchesLater {glob text again : List α}
    (passed : Passed star (star :: glob) text after again)
    (later : MatchesLater star after again) : Matches star (star :: glob) text := by
  obtain ⟨start, last, found, -, within, matched⟩ := later
  obtain ⟨literals, plain, rfl, rfl⟩ := passed start last
  obtain ⟨rest, rfl, below⟩ := (matches_literals plain).mp matched
  have whole : literals ++ rest <:+ literals ++ text := within.trans (List.tail_suffix _)
  have short : rest.length ≤ text.length := by
    have lengths := whole.length_le
    rw [List.length_append, List.length_append] at lengths
    omega
  have suffix : rest <:+ text :=
    List.suffix_of_suffix_length_le ((List.suffix_append _ _).trans whole)
      (List.suffix_append _ _) short
  exact matches_star_of_suffix suffix below

/-- At the end of the text nothing further behind is long enough. -/
theorem not_matchesLater_of_nil {glob again : List α}
    (passed : Passed star glob [] after again) : ¬ MatchesLater star after again := by
  rintro ⟨start, last, found, nonempty, within, matched⟩
  obtain ⟨literals, plain, rfl, rfl⟩ := passed start last
  obtain ⟨rest, rfl, -⟩ := (matches_literals plain).mp matched
  have lengths := within.length_le
  have positive := List.length_pos_iff.mpr nonempty
  rw [List.length_append, List.length_tail] at lengths
  rw [List.append_nil] at lengths positive
  omega

theorem matchesLater_some {start again : List α} (nonempty : again ≠ [])
    : MatchesLater star (some start) again
      ↔ Matches star start again.tail ∨ MatchesLater star (some start) again.tail := by
  constructor
  · rintro ⟨_, ⟨⟩, later, -, within, matched⟩
    cases tail : again.tail with
    | nil =>
        rw [tail, List.suffix_nil] at within
        exact .inl (within ▸ matched)
    | cons symbol rest =>
        rw [tail, List.suffix_cons_iff] at within
        rcases within with rfl | within
        · exact .inl matched
        · exact .inr ⟨start, rfl, later, nofun, within, matched⟩
  · rintro (matched | ⟨_, ⟨⟩, later, -, within, matched⟩)
    · exact ⟨start, rfl, again.tail, nonempty, List.suffix_refl _, matched⟩
    · exact ⟨start, rfl, later, nonempty, within.trans (List.tail_suffix _), matched⟩

theorem exists_tail_of_head? {glob : List α} (first : glob.head? = some symbol)
    : ∃ tail, glob = symbol :: tail := by
  cases glob with
  | nil => cases first
  | cons head tail => exact ⟨tail, congrArg (· :: tail) (Option.some.inj first)⟩

theorem matches_star_cons {glob rest : List α}
    : Matches star glob (symbol :: rest) ∨ MatchesLater star (some glob) (symbol :: rest)
      ↔ Matches star (star :: glob) (symbol :: rest) := by
  rw [matches_star]
  constructor
  · rintro (matched | ⟨_, ⟨⟩, later, -, within, matched⟩)
    · exact ⟨_, List.suffix_refl _, matched⟩
    · exact ⟨later, within.trans (List.suffix_cons _ _), matched⟩
  · rintro ⟨later, within, matched⟩
    rcases List.suffix_cons_iff.mp within with rfl | within
    · exact .inl matched
    · exact .inr ⟨glob, rfl, later, nofun, within, matched⟩

theorem Passed.literal {tail rest again : List α}
    (plain : symbol ≠ star) (passed : Passed star (symbol :: tail) (symbol :: rest) after again)
    : Passed star tail rest after again := by
  intro start last
  obtain ⟨literals, unstarred, rfl, rfl⟩ := passed start last
  refine ⟨literals ++ [symbol], ?_, by simp, by simp⟩
  rw [List.mem_append, List.mem_singleton]
  exact not_or.mpr ⟨unstarred, Ne.symm plain⟩

/-- A glob that has neither a star nor the symbol in front does not match from there. -/
theorem not_matches_of_head {glob rest : List α}
    (unstarred : glob.head? ≠ some star) (differs : glob.head? ≠ some symbol)
    : ¬ Matches star glob (symbol :: rest) := by
  intro matched
  cases glob with
  | nil => cases matched
  | cons head tail =>
      have plain : head ≠ star := fun same => unstarred (congrArg some same)
      obtain ⟨_, same, -⟩ := (matches_literal plain).mp matched
      exact differs (congrArg some (List.cons.inj same).1.symm)

variable [DecidableEq α]

/-- Only stars match nothing, by induction on the glob. -/
theorem matches_nil_right {glob : List α}
    : Matches star glob [] ↔ glob.all (· = star) = true := by
  induction glob with
  | nil => exact ⟨fun _ => rfl, fun _ => .nil⟩
  | cons symbol glob ih =>
      by_cases same : symbol = star
      · subst same
        rw [matches_star]
        simp [← ih]
      · rw [matches_literal same]
        simp [same]

/-- The text that is left ends the text the matcher started on after the last star, and the glob
that is left is not longer than what follows that star.
-/
structure Within (glob text : List α) (after : Option (List α)) (again : List α) : Prop where
  text : text.length ≤ again.length
  glob : ∀ start ∈ after, glob.length ≤ start.length

omit [DecidableEq α] in
theorem Within.length_le {glob text again : List α}
    (within : Within glob text after again) : glob.length ≤ (after.getD glob).length := by
  cases after with
  | none => exact le_rfl
  | some start => exact within.glob start rfl

/-- The matcher, at what is left of the glob and of the text. After the last star it has seen
it started on `again`, with the glob that follows that star.
-/
def matchFrom (star : α) (glob text : List α) (after : Option (List α)) (again : List α)
    (within : Within glob text after again) : Bool :=
  match text with
  | [] => glob.all (· = star)
  | symbol :: rest =>
      if _starred : glob.head? = some star then
        matchFrom star glob.tail (symbol :: rest) (some glob.tail) (symbol :: rest)
          ⟨le_rfl, by rintro _ ⟨⟩; exact le_rfl⟩
      else if _same : glob.head? = some symbol then
        matchFrom star glob.tail rest after again
          ⟨Nat.le_of_succ_le within.text, fun start last =>
            (List.tail_suffix glob).length_le.trans (within.glob start last)⟩
      else
        match _last : after with
        | none => false
        | some start =>
            matchFrom star start again.tail (some start) again.tail
              ⟨le_rfl, by rintro _ ⟨⟩; exact le_rfl⟩
termination_by again.length * ((after.getD glob).length + 1) + glob.length
decreasing_by
  · obtain ⟨tail, rfl⟩ := exists_tail_of_head? _starred
    have longer : tail.length + 1 ≤ (after.getD (star :: tail)).length := within.length_le
    have product := Nat.mul_le_mul within.text (longer.trans (Nat.le_add_right _ 1))
    simp only [List.tail_cons, Option.getD_some, List.length_cons] at product ⊢
    omega
  · obtain ⟨tail, rfl⟩ := exists_tail_of_head? _same
    have shorter : (after.getD tail).length ≤ (after.getD (symbol :: tail)).length := by
      cases after with
      | none => exact Nat.le_succ _
      | some start => exact le_rfl
    have product := Nat.mul_le_mul_left again.length (Nat.add_le_add_right shorter 1)
    simp only [List.tail_cons, List.length_cons] at product ⊢
    omega
  · cases again with
    | nil => exact absurd within.text (Nat.not_succ_le_zero _)
    | cons first again =>
        simp only [_last, List.tail_cons, Option.getD_some, List.length_cons, Nat.add_mul]
        omega

def globMatch (star : α) (glob text : List α) : Bool :=
  matchFrom star glob text none text ⟨le_rfl, nofun⟩

/-- The matcher finds a match from the cursors on, or one with the last star taking more. -/
theorem matchFrom_iff (glob text : List α) (after : Option (List α)) (again : List α)
    (within : Within glob text after again) (passed : Passed star glob text after again)
    : matchFrom star glob text after again within = true
      ↔ Matches star glob text ∨ MatchesLater star after again := by
  fun_induction matchFrom star glob text after again within with
  | case1 => rw [← matches_nil_right, or_iff_left (not_matchesLater_of_nil passed)]
  | case2 glob after again symbol rest _ starred _ ih =>
      obtain ⟨tail, rfl⟩ := exists_tail_of_head? starred
      have start : Passed star tail (symbol :: rest) (some tail) (symbol :: rest) := by
        rintro _ ⟨⟩
        exact ⟨[], List.not_mem_nil, rfl, rfl⟩
      refine (ih start).trans (matches_star_cons.trans ?_)
      exact (or_iff_left_of_imp (matches_of_matchesLater passed)).symm
  | case3 glob after again symbol rest _ unstarred same _ ih =>
      obtain ⟨tail, rfl⟩ := exists_tail_of_head? same
      have plain : symbol ≠ star := fun starred => unstarred (congrArg some starred)
      refine (ih (Passed.literal plain passed)).trans (or_congr ?_ Iff.rfl)
      simp [matches_literal plain]
  | case4 glob again symbol rest unstarred differs =>
      rw [or_iff_left not_matchesLater_none]
      exact iff_of_false nofun (not_matches_of_head unstarred differs)
  | case5 glob again symbol rest unstarred differs start within _ _ ih =>
      have restart : Passed star start again.tail (some start) again.tail := by
        rintro _ ⟨⟩
        exact ⟨[], List.not_mem_nil, rfl, rfl⟩
      have nonempty : again ≠ [] := by
        rintro rfl
        exact Nat.not_succ_le_zero _ within.text
      rw [ih restart, or_iff_right (not_matches_of_head unstarred differs),
        matchesLater_some nonempty]

theorem globMatch_iff {glob text : List α}
    : globMatch star glob text = true ↔ Matches star glob text := by
  have passed : Passed star glob text none text := by
    rintro _ ⟨⟩
  rw [globMatch, matchFrom_iff _ _ _ _ _ passed]
  exact or_iff_left not_matchesLater_none

end StorageBallast.StarGlobs
