import StorageBallast.Foundations.PathPieces
import StorageBallast.Scanner.SacredPaths

/-! The regular expressions that protected-path globs are translated to, and what the globs mean.
The translation escapes every character that a regular expression would read otherwise; it is
exact but for line breaks, which its deep wildcards do not get over.
-/

namespace StorageBallast

namespace GlobMeaning

def escaped : List Char := ['.', '+', '(', ')', '{', '}', '[', ']', '^', '$', '|', '\\']

/-- What the loop over the characters of a glob writes. -/
def regexBody : List Char → List Char
  | [] => []
  | '*' :: '*' :: '/' :: rest => "(?:.*/)?".toList ++ regexBody rest
  | '*' :: '*' :: rest => ".*".toList ++ regexBody rest
  | '*' :: rest => "[^/]*".toList ++ regexBody rest
  | '?' :: rest => "[^/]".toList ++ regexBody rest
  | c :: rest => if c ∈ escaped then '\\' :: c :: regexBody rest else c :: regexBody rest

/-- `glob_to_regex`, up to the compilation of what it has written. -/
def globToRegexText (pattern : String) : List Char :=
  '^' :: regexBody (Texts.slashed pattern).toList ++ ['$']

def special : List Char :=
  ['\\', '.', '+', '*', '?', '(', ')', '|', '[', ']', '{', '}', '^', '$']

theorem special_of_escaped {c : Char} (member : c ∈ escaped) : c ∈ special := by
  simp only [escaped, special, List.mem_cons, List.not_mem_nil, or_false] at member ⊢
  tauto

theorem escaped_of_special {c : Char} (member : c ∈ special)
    : c ∈ escaped ∨ c = '*' ∨ c = '?' := by
  simp only [escaped, special, List.mem_cons, List.not_mem_nil, or_false] at member ⊢
  tauto

/-- What a regular expression stands for, as far as it is made of escaped and plain characters and
of the four wildcards.
-/
def readPieces : List Char → Option (List Globs.Piece)
  | [] => some []
  | '(' :: '?' :: ':' :: '.' :: '*' :: '/' :: ')' :: '?' :: rest =>
      (readPieces rest).map (.directories :: ·)
  | '.' :: '*' :: rest => (readPieces rest).map (.across :: ·)
  | '[' :: '^' :: '/' :: ']' :: '*' :: rest => (readPieces rest).map (.within :: ·)
  | '[' :: '^' :: '/' :: ']' :: rest => (readPieces rest).map (.single :: ·)
  | '\\' :: c :: rest => if c ∈ special then (readPieces rest).map (.literal c :: ·) else none
  | c :: rest => if c ∈ special then none else (readPieces rest).map (.literal c :: ·)

def readRegex : List Char → Option (List Globs.Piece)
  | '^' :: rest => if rest.getLast? = some '$' then readPieces rest.dropLast else none
  | _ => none

def RegexMatches (regex : List Char) (text : String) : Prop :=
  ∃ pieces, readRegex regex = some pieces ∧ Globs.matchesPieces pieces text.toList = true

/-- What a glob with forward slashes means, from left to right. -/
inductive GlobMatches : List Char → List Char → Prop
  | nil : GlobMatches [] []
  /-- Nothing, or names with a separator behind each. -/
  | components {pattern text : List Char} (dirs : List Char)
      (whole : dirs = [] ∨ ∃ names, dirs = names ++ ['/']) (rest : GlobMatches pattern text)
      : GlobMatches ('*' :: '*' :: '/' :: pattern) (dirs ++ text)
  | anything {pattern text : List Char} (part : List Char) (other : pattern.head? ≠ some '/')
      (rest : GlobMatches pattern text) : GlobMatches ('*' :: '*' :: pattern) (part ++ text)
  | run {pattern text : List Char} (part : List Char) (whole : '/' ∉ part)
      (other : pattern.head? ≠ some '*') (rest : GlobMatches pattern text)
      : GlobMatches ('*' :: pattern) (part ++ text)
  | one {pattern text : List Char} (c : Char) (whole : c ≠ '/') (rest : GlobMatches pattern text)
      : GlobMatches ('?' :: pattern) (c :: text)
  | itself {pattern text : List Char} (c : Char) (plain : c ≠ '*' ∧ c ≠ '?')
      (rest : GlobMatches pattern text) : GlobMatches (c :: pattern) (c :: text)

def Means (pattern text : String) : Prop :=
  GlobMatches (Texts.slashed pattern).toList text.toList

/-- No expression for a rest starts with a repetition, so none is taken for part of `[^/]`. -/
theorem head?_regexBody (pattern : List Char) : (regexBody pattern).head? ≠ some '*' := by
  fun_induction regexBody pattern with
  | case1 => nofun
  | case2 => nofun
  | case3 => nofun
  | case4 => nofun
  | case5 => nofun
  | case6 => nofun
  | case7 c rest _ _ star => exact fun same => star (Option.some.inj same)

theorem readPieces_single {rest : List Char} (unrepeated : rest.head? ≠ some '*')
    : readPieces ('[' :: '^' :: '/' :: ']' :: rest) = (readPieces rest).map (.single :: ·) := by
  rw [readPieces]
  intro repeated same
  subst same
  exact unrepeated rfl

/-- A character without a meaning of its own stands for itself. -/
theorem readPieces_plain {c : Char} {rest : List Char} (plain : c ∉ special)
    : readPieces (c :: rest) = (readPieces rest).map (.literal c :: ·) := by
  have other (d : Char) (meant : d ∈ special) : c ≠ d := fun same => plain (same ▸ meant)
  rw [readPieces, if_neg plain]
  · exact fun _ same _ => other '(' (by decide) same
  · exact fun _ same _ => other '.' (by decide) same
  · exact fun _ same _ => other '[' (by decide) same
  · exact fun _ same _ => other '[' (by decide) same
  · exact fun _ _ same _ => other '\\' (by decide) same

/-- What is written reads as the pieces of the glob: nothing that has to be escaped is missed. -/
theorem readPieces_regexBody (pattern : List Char)
    : readPieces (regexBody pattern) = some (Globs.parse pattern) := by
  fun_induction regexBody pattern with
  | case1 => rfl
  | case2 rest ih => simp [Globs.parse, readPieces, ih]
  | case3 rest other ih => simp [Globs.parse, readPieces, ih]
  | case4 rest other other' ih => simp [Globs.parse, readPieces, ih]
  | case5 rest ih =>
      refine (readPieces_single (head?_regexBody rest)).trans ?_
      rw [ih, Globs.parse]
      rfl
  | case6 c rest _ _ star mark inside ih =>
      simp [Globs.parse, readPieces, special_of_escaped inside, ih]
  | case7 c rest _ _ star mark outside ih =>
      have plain : c ∉ special := by
        intro member
        rcases escaped_of_special member with inside | starred | marked
        · exact outside inside
        · exact star starred
        · exact mark marked
      rw [readPieces_plain plain, ih]
      simp [Globs.parse]

theorem regexMatches_iff {pattern text : String}
    : RegexMatches (globToRegexText pattern) text
      ↔ isMatch (globToRegex pattern) text = true := by
  have read : readRegex (globToRegexText pattern) = some (globToRegex pattern) := by
    rw [globToRegexText, List.cons_append, readRegex, if_pos List.getLast?_concat,
      List.dropLast_concat, readPieces_regexBody]
    rfl
  constructor
  · rintro ⟨pieces, same, matched⟩
    rw [read] at same
    obtain rfl := Option.some.inj same
    exact matched
  · exact fun matched => ⟨_, read, matched⟩

theorem globMatches_iff {pattern text : List Char}
    : GlobMatches pattern text ↔ Globs.Means (Globs.parse pattern) text := by
  fun_induction Globs.parse pattern generalizing text with
  | case1 =>
      constructor
      · intro matches_
        cases matches_
        exact .nil
      · intro means
        cases means
        exact .nil
  | case2 rest ih =>
      rw [Globs.means_cons]
      constructor
      · intro matches_
        cases matches_ with
        | components dirs whole later => exact ⟨dirs, _, rfl, whole, ih.mp later⟩
        | anything _ other => exact absurd rfl other
        | run _ _ other => exact absurd rfl other
        | itself _ plain => exact absurd rfl plain.1
      · rintro ⟨dirs, behind, rfl, whole, later⟩
        exact .components dirs whole (ih.mpr later)
  | case3 rest other ih =>
      have unseparated : rest.head? ≠ some '/' := by
        intro head
        obtain ⟨tail, rfl⟩ := List.head?_eq_some_iff.mp head
        exact other tail rfl
      rw [Globs.means_cons]
      constructor
      · intro matches_
        cases matches_ with
        | components => exact absurd rfl unseparated
        | anything part _ later => exact ⟨part, _, rfl, trivial, ih.mp later⟩
        | run _ _ single => exact absurd rfl single
        | itself _ plain => exact absurd rfl plain.1
      · rintro ⟨part, behind, rfl, -, later⟩
        exact .anything part unseparated (ih.mpr later)
  | case4 rest other other' ih =>
      have single : rest.head? ≠ some '*' := by
        intro head
        obtain ⟨tail, rfl⟩ := List.head?_eq_some_iff.mp head
        exact other' tail rfl
      rw [Globs.means_cons]
      constructor
      · intro matches_
        cases matches_ with
        | components => exact absurd rfl single
        | anything => exact absurd rfl single
        | run part whole _ later => exact ⟨part, _, rfl, whole, ih.mp later⟩
        | itself _ plain => exact absurd rfl plain.1
      · rintro ⟨part, behind, rfl, whole, later⟩
        exact .run part whole single (ih.mpr later)
  | case5 rest ih =>
      rw [Globs.means_cons]
      constructor
      · intro matches_
        cases matches_ with
        | one c whole later => exact ⟨[c], _, rfl, ⟨c, whole, rfl⟩, ih.mp later⟩
        | itself _ plain => exact absurd rfl plain.2
      · rintro ⟨_, behind, rfl, ⟨c, whole, rfl⟩, later⟩
        exact .one c whole (ih.mpr later)
  | case6 c rest _ _ star mark ih =>
      rw [Globs.means_cons]
      constructor
      · intro matches_
        cases matches_ with
        | components => exact absurd rfl star
        | anything => exact absurd rfl star
        | run => exact absurd rfl star
        | one => exact absurd rfl mark
        | itself _ _ later => exact ⟨[c], _, rfl, rfl, ih.mp later⟩
      · rintro ⟨_, behind, rfl, rfl, later⟩
        exact .itself c ⟨star, mark⟩ (ih.mpr later)

theorem means_iff {pattern text : String}
    : Means pattern text ↔ Globs.Means (globToRegex pattern) text.toList := globMatches_iff

/-- A shallow piece and a character that starts no pair of stars change nothing. -/
theorem deep_cons {first : Globs.Piece} {pieces : List Globs.Piece} {c : Char}
    {rest : List Char} (shallow : first.isDeep = false)
    (unpaired : ¬ ['*', '*'] <+: c :: rest)
    (later : (∃ piece ∈ pieces, piece.isDeep = true) ↔ ['*', '*'] <:+: rest)
    : (∃ piece ∈ first :: pieces, piece.isDeep = true) ↔ ['*', '*'] <:+: c :: rest := by
  rw [List.infix_cons_iff, or_iff_right unpaired, ← later]
  simp [shallow]

/-- A deep wildcard is read exactly where two stars stand side by side. -/
theorem exists_deep_iff (pattern : List Char)
    : (∃ piece ∈ Globs.parse pattern, piece.isDeep = true) ↔ ['*', '*'] <:+: pattern := by
  fun_induction Globs.parse pattern with
  | case1 => simp
  | case2 rest ih =>
      exact iff_of_true ⟨.directories, List.mem_cons_self, rfl⟩ ⟨[], '/' :: rest, rfl⟩
  | case3 rest other ih => exact iff_of_true ⟨.across, List.mem_cons_self, rfl⟩ ⟨[], rest, rfl⟩
  | case4 rest other other' ih =>
      refine deep_cons (by rfl) ?_ ih
      rintro ⟨tail, same⟩
      exact other' tail (List.cons.inj same).2.symm
  | case5 rest ih =>
      refine deep_cons (by rfl) ?_ ih
      rintro ⟨tail, same⟩
      cases same
  | case6 c rest _ _ star mark ih =>
      refine deep_cons (by rfl) ?_ ih
      rintro ⟨tail, same⟩
      exact star (List.cons.inj same).1.symm

/-- Two stars stay side by side when backslashes become separators. -/
theorem infix_slashed {pattern : String}
    : ['*', '*'] <:+: (Texts.slashed pattern).toList ↔ ['*', '*'] <:+: pattern.toList := by
  have star {c : Char} : (if c = '\\' then '/' else c) = '*' ↔ c = '*' := by
    split
    next same =>
      subst same
      decide
    next => rfl
  rw [Texts.slashed, String.toList_ofList, List.infix_map_iff]
  constructor
  · rintro ⟨pair, within, same⟩
    obtain ⟨first, rest, rfl, one, others⟩ := List.map_eq_cons_iff.mp same.symm
    obtain ⟨second, none, rfl, two, empty⟩ := List.map_eq_cons_iff.mp others
    obtain rfl := List.map_eq_nil_iff.mp empty
    obtain rfl := star.mp one
    obtain rfl := star.mp two
    exact within
  · exact fun within => ⟨_, within, rfl⟩

/-- The expression for a glob is exact on all texts if and only if the glob has no `**`; and a text
is read exactly by all expressions if and only if it has no line break.
-/
theorem globToRegex_exact_iff (pattern text : String)
    : ((∀ text, RegexMatches (globToRegexText pattern) text ↔ Means pattern text)
          ↔ ¬ ['*', '*'] <:+: pattern.toList)
      ∧ ((∀ pattern, RegexMatches (globToRegexText pattern) text ↔ Means pattern text)
          ↔ '\n' ∉ text.toList) := by
  constructor
  · clear text
    have all : (∀ text : String,
        RegexMatches (globToRegexText pattern) text ↔ Means pattern text)
        ↔ ∀ text, Globs.matchesPieces (globToRegex pattern) text = true
          ↔ Globs.Means (globToRegex pattern) text := by
      simp only [regexMatches_iff, means_iff, isMatch]
      constructor
      · intro exact_ text
        simpa using exact_ (String.ofList text)
      · exact fun exact_ text => exact_ text.toList
    rw [all, Globs.matchesPieces_iff_means_forall, ← infix_slashed, ← exists_deep_iff]
    simp [globToRegex]
  · constructor
    · intro exact_
      have meant : Means "**" text := by
        have whole := @GlobMatches.anything [] [] text.toList nofun .nil
        rw [List.append_nil] at whole
        exact whole
      obtain matched := regexMatches_iff.mp ((exact_ "**").mpr meant)
      obtain ⟨part, rest, whole, covers, none⟩ := Globs.matchesPieces_cons.mp matched
      obtain rfl := List.isEmpty_iff.mp none
      rw [whole, List.append_nil]
      exact covers.2 rfl
    · intro line pattern
      rw [regexMatches_iff, means_iff]
      exact ⟨Globs.means_of_matchesPieces, Globs.matchesPieces_of_means (.inr line)⟩

/-- A file whose name has a line break is not protected by the glob for its directory. -/
theorem line_break_unprotected
    : ¬ ∀ pattern text : String,
      RegexMatches (globToRegexText pattern) text ↔ Means pattern text := by
  intro exact_
  have deep : GlobMatches ['*', '*'] "a\nb".toList := .anything "a\nb".toList nofun .nil
  have meant : Means "/keep/**" "/keep/a\nb" :=
    .itself '/' (by decide) (.itself 'k' (by decide) (.itself 'e' (by decide)
      (.itself 'e' (by decide) (.itself 'p' (by decide) (.itself '/' (by decide) deep)))))
  have matched := regexMatches_iff.mp ((exact_ "/keep/**" "/keep/a\nb").mpr meant)
  revert matched
  decide

end GlobMeaning

end StorageBallast
