import Mathlib.Data.List.Basic
import Mathlib.Data.List.Infix
import Mathlib.Tactic.Common

/-! Shell-style globs over character lists. A glob is read into pieces once; matching runs
through the pieces, and a piece of any length is matched by trying every end for it.
-/

namespace StorageBallast.Globs

inductive Piece where
  /-- The character itself. -/
  | literal (c : Char)
  /-- One character of a path component. -/
  | single
  /-- Any part of a path component. -/
  | within
  /-- Anything on one line. -/
  | across
  /-- Nothing, or anything on one line that ends in a separator. -/
  | directories
deriving DecidableEq, Repr

/-- Read a glob; `**` binds before `*`, and takes a separator after it along. -/
def parse : List Char → List Piece
  | [] => []
  | '*' :: '*' :: '/' :: rest => .directories :: parse rest
  | '*' :: '*' :: rest => .across :: parse rest
  | '*' :: rest => .within :: parse rest
  | '?' :: rest => .single :: parse rest
  | c :: rest => .literal c :: parse rest

/-- Some split of the text has accepted characters in front and a suffix that `next` takes. -/
def spanThen (accepts : Char → Bool) (next : List Char → Bool) : List Char → Bool
  | [] => next []
  | c :: rest => next (c :: rest) || (accepts c && spanThen accepts next rest)

/-- A separator, then a suffix that `next` takes. -/
def separatorThen (next : List Char → Bool) : List Char → Bool
  | '/' :: rest => next rest
  | _ => false

def matchesPieces : List Piece → List Char → Bool
  | [], text => text.isEmpty
  | .literal _ :: _, [] => false
  | .literal c :: pieces, head :: rest => head == c && matchesPieces pieces rest
  | .single :: _, [] => false
  | .single :: pieces, head :: rest => head != '/' && matchesPieces pieces rest
  | .within :: pieces, text => spanThen (· != '/') (matchesPieces pieces) text
  | .across :: pieces, text => spanThen (· != '\n') (matchesPieces pieces) text
  | .directories :: pieces, text =>
      matchesPieces pieces text
        || spanThen (· != '\n') (separatorThen (matchesPieces pieces)) text

def Piece.Covers : Piece → List Char → Prop
  | .literal c, part => part = [c]
  | .single, part => ∃ c, c ≠ '/' ∧ part = [c]
  | .within, part => '/' ∉ part
  | .across, _ => True
  | .directories, part => part = [] ∨ ∃ names, part = names ++ ['/']

def Piece.isDeep : Piece → Bool
  | .across | .directories => true
  | .literal _ | .single | .within => false

def Piece.CoversLine (piece : Piece) (part : List Char) : Prop :=
  piece.Covers part ∧ (piece.isDeep = true → '\n' ∉ part)

inductive Means : List Piece → List Char → Prop
  | nil : Means [] []
  | cons {piece : Piece} {pieces : List Piece} {part text : List Char}
      (covers : piece.Covers part) (rest : Means pieces text)
      : Means (piece :: pieces) (part ++ text)

variable {pieces : List Piece} {text : List Char}

theorem means_cons {piece : Piece}
    : Means (piece :: pieces) text
      ↔ ∃ part rest, text = part ++ rest ∧ piece.Covers part ∧ Means pieces rest := by
  constructor
  · intro means
    cases means with
    | cons covers rest => exact ⟨_, _, rfl, covers, rest⟩
  · rintro ⟨part, rest, rfl, covers, means⟩
    exact .cons covers means

theorem spanThen_iff {accepts : Char → Bool} {next : List Char → Bool}
    : spanThen accepts next text = true
      ↔ ∃ part rest, text = part ++ rest ∧ (∀ c ∈ part, accepts c = true)
        ∧ next rest = true := by
  induction text with
  | nil =>
      rw [spanThen]
      constructor
      · exact fun here => ⟨[], [], rfl, by simp, here⟩
      · rintro ⟨part, rest, empty, -, here⟩
        rw [(List.append_eq_nil_iff.mp empty.symm).2] at here
        exact here
  | cons c text ih =>
      rw [spanThen, Bool.or_eq_true, Bool.and_eq_true, ih]
      constructor
      · rintro (here | ⟨first, part, rest, rfl, all, later⟩)
        · exact ⟨[], c :: text, rfl, by simp, here⟩
        · exact ⟨c :: part, rest, rfl, by simpa using ⟨first, all⟩, later⟩
      · rintro ⟨part, rest, same, all, here⟩
        cases part with
        | nil => exact .inl (by rwa [same])
        | cons first part =>
            obtain ⟨rfl, rfl⟩ := List.cons.inj same
            rw [List.forall_mem_cons] at all
            exact .inr ⟨all.1, part, rest, rfl, all.2, here⟩

theorem separatorThen_iff {next : List Char → Bool}
    : separatorThen next text = true ↔ ∃ rest, text = '/' :: rest ∧ next rest = true := by
  unfold separatorThen
  split
  · simp
  next other =>
    refine iff_of_false nofun ?_
    rintro ⟨rest, rfl, -⟩
    exact other rest rfl

variable {part : List Char}

theorem ne_iff_notMem {stop : Char}
    : (∀ c ∈ part, (c != stop) = true) ↔ stop ∉ part := by
  constructor
  · intro other member
    simpa using other stop member
  · intro whole c member
    exact bne_iff_ne.mpr fun same => whole (same ▸ member)

/-- The matcher lets the first piece stand for some front of the text. -/
theorem matchesPieces_cons {piece : Piece}
    : matchesPieces (piece :: pieces) text = true
      ↔ ∃ part rest, text = part ++ rest ∧ piece.CoversLine part
        ∧ matchesPieces pieces rest = true := by
  cases piece with
  | literal c =>
      simp only [Piece.CoversLine, Piece.Covers, Piece.isDeep, Bool.false_eq_true, false_implies,
        and_true]
      cases text with
      | nil => simp [matchesPieces]
      | cons head text =>
          rw [matchesPieces, Bool.and_eq_true, beq_iff_eq]
          constructor
          · rintro ⟨rfl, later⟩
            exact ⟨[head], text, rfl, rfl, later⟩
          · rintro ⟨_, rest, same, rfl, later⟩
            obtain ⟨rfl, rfl⟩ := List.cons.inj same
            exact ⟨rfl, later⟩
  | single =>
      simp only [Piece.CoversLine, Piece.Covers, Piece.isDeep, Bool.false_eq_true, false_implies,
        and_true]
      cases text with
      | nil =>
          refine iff_of_false nofun ?_
          rintro ⟨_, rest, same, ⟨c, -, rfl⟩, -⟩
          cases same
      | cons head text =>
          rw [matchesPieces, Bool.and_eq_true, bne_iff_ne]
          constructor
          · rintro ⟨other, later⟩
            exact ⟨[head], text, rfl, ⟨head, other, rfl⟩, later⟩
          · rintro ⟨_, rest, same, ⟨c, other, rfl⟩, later⟩
            obtain ⟨rfl, rfl⟩ := List.cons.inj same
            exact ⟨other, later⟩
  | within =>
      rw [matchesPieces, spanThen_iff]
      simp only [ne_iff_notMem, Piece.CoversLine, Piece.Covers, Piece.isDeep,
        Bool.false_eq_true, false_implies, and_true]
  | across =>
      rw [matchesPieces, spanThen_iff]
      simp only [ne_iff_notMem, Piece.CoversLine, Piece.Covers, Piece.isDeep, true_and,
        true_implies]
  | directories =>
      rw [matchesPieces, Bool.or_eq_true, spanThen_iff]
      simp only [ne_iff_notMem, Piece.CoversLine, Piece.Covers, Piece.isDeep, true_implies,
        separatorThen_iff]
      constructor
      · rintro (here | ⟨names, rest, rfl, line, after, rfl, later⟩)
        · exact ⟨[], text, rfl, ⟨.inl rfl, List.not_mem_nil⟩, here⟩
        · refine ⟨names ++ ['/'], after, by simp, ⟨.inr ⟨names, rfl⟩, ?_⟩, later⟩
          simp [line]
      · rintro ⟨part, rest, rfl, ⟨rfl | ⟨names, rfl⟩, line⟩, later⟩
        · exact .inl later
        · refine .inr ⟨names, '/' :: rest, by simp, ?_, rest, rfl, later⟩
          exact fun member => line (List.mem_append_left _ member)

theorem means_of_matchesPieces
    (matched : matchesPieces pieces text = true) : Means pieces text := by
  induction pieces generalizing text with
  | nil =>
      obtain rfl := List.isEmpty_iff.mp matched
      exact .nil
  | cons piece pieces ih =>
      obtain ⟨part, rest, rfl, covers, later⟩ := matchesPieces_cons.mp matched
      exact .cons covers.1 (ih later)

/-- It accepts what they mean if nothing deep is among them, or no line ends in the text. -/
theorem matchesPieces_of_means (plain : (∀ piece ∈ pieces, piece.isDeep = false) ∨ '\n' ∉ text)
    (means : Means pieces text) : matchesPieces pieces text = true := by
  induction means with
  | nil => rfl
  | @cons piece pieces part text covers rest ih =>
      refine matchesPieces_cons.mpr ⟨part, text, rfl, ⟨covers, fun deep => ?_⟩, ih ?_⟩
      · rcases plain with shallow | line
        · rw [shallow piece List.mem_cons_self] at deep
          cases deep
        · exact fun member => line (List.mem_append_left _ member)
      · exact plain.imp (fun shallow other member => shallow other (List.mem_cons_of_mem _ member))
          fun line member => line (List.mem_append_right _ member)

def brokenNames : List Char → Nat
  | [] => 0
  | c :: rest => (if c = '\n' ∧ rest.head? = some '/' then 1 else 0) + brokenNames rest

theorem brokenNames_append_of_line (line : '\n' ∉ part) (rest : List Char)
    : brokenNames (part ++ rest) = brokenNames rest := by
  induction part with
  | nil => rfl
  | cons c part ih =>
      rw [List.mem_cons, not_or] at line
      rw [List.cons_append, brokenNames, if_neg fun ends => line.1 ends.1.symm, ih line.2,
        Nat.zero_add]

theorem brokenNames_append_of_name (name : '/' ∉ part) (rest : List Char)
    : brokenNames (part ++ rest) ≤ brokenNames rest + 1 := by
  induction part with
  | nil => exact Nat.le_succ _
  | cons c part ih =>
      rw [List.mem_cons, not_or] at name
      rw [List.cons_append, brokenNames]
      cases part with
      | nil =>
          rw [List.nil_append, Nat.add_comm]
          split <;> omega
      | cons d part =>
          have inside : (d :: part ++ rest).head? ≠ some '/' := by
            intro head
            exact name.2 (Option.some.inj head ▸ List.mem_cons_self)
          rw [if_neg fun ends => inside ends.2, Nat.zero_add]
          exact ih name.2

theorem brokenNames_le_append (front text : List Char)
    : brokenNames text ≤ brokenNames (front ++ text) := by
  induction front with
  | nil => exact le_rfl
  | cons c front ih => exact ih.trans (Nat.le_add_left _ _)

theorem Piece.CoversLine.line_or_name {piece : Piece}
    (covers : piece.CoversLine part) : '\n' ∉ part ∨ '/' ∉ part := by
  obtain ⟨covers, line⟩ := covers
  cases piece with
  | literal c =>
      obtain rfl := covers
      by_cases separator : c = '/'
      · subst separator
        exact .inl (by decide)
      · exact .inr (by simpa using Ne.symm separator)
  | single =>
      obtain ⟨c, other, rfl⟩ := covers
      exact .inr (by simpa using Ne.symm other)
  | within => exact .inr covers
  | across => exact .inl (line rfl)
  | directories => exact .inl (line rfl)

theorem brokenNames_le_length
    (matched : matchesPieces pieces text = true) : brokenNames text ≤ pieces.length := by
  induction pieces generalizing text with
  | nil =>
      obtain rfl := List.isEmpty_iff.mp matched
      exact le_rfl
  | cons piece pieces ih =>
      obtain ⟨part, rest, rfl, covers, later⟩ := matchesPieces_cons.mp matched
      have short := ih later
      rw [List.length_cons]
      rcases covers.line_or_name with line | name
      · rw [brokenNames_append_of_line line]
        omega
      · exact (brokenNames_append_of_name name rest).trans (Nat.add_le_add_right short 1)

def breaks : Nat → List Char
  | 0 => []
  | count + 1 => '\n' :: '/' :: breaks count

theorem brokenNames_breaks (count : Nat) (rest : List Char)
    : count ≤ brokenNames (breaks count ++ rest) := by
  induction count with
  | zero => exact Nat.zero_le _
  | succ count ih =>
      have here : brokenNames (breaks (count + 1) ++ rest)
          = 1 + brokenNames ('/' :: (breaks count ++ rest)) := rfl
      have behind := ih.trans (brokenNames_le_append ['/'] _)
      rw [here, Nat.add_comm]
      exact Nat.add_le_add_left behind 1

theorem covers_breaks {piece : Piece} (deep : piece.isDeep = true) (count : Nat)
    : piece.Covers (breaks count) := by
  cases piece with
  | across => trivial
  | directories =>
      cases count with
      | zero => exact .inl rfl
      | succ count =>
          refine .inr ?_
          induction count with
          | zero => exact ⟨['\n'], rfl⟩
          | succ count ih =>
              obtain ⟨names, same⟩ := ih
              exact ⟨'\n' :: '/' :: names, by rw [breaks, same]; rfl⟩
  | literal c => cases deep
  | single => cases deep
  | within => cases deep

theorem exists_means (pieces : List Piece) : ∃ text, Means pieces text := by
  induction pieces with
  | nil => exact ⟨[], .nil⟩
  | cons piece pieces ih =>
      obtain ⟨text, means⟩ := ih
      cases piece with
      | literal c => exact ⟨_, .cons rfl means⟩
      | single => exact ⟨_, .cons ⟨'x', by decide, rfl⟩ means⟩
      | within => exact ⟨_, .cons List.not_mem_nil means⟩
      | across => exact ⟨_, @Means.cons .across pieces [] text trivial means⟩
      | directories => exact ⟨_, .cons (.inl rfl) means⟩

/-- A deep piece can mean more broken names than the matcher gets over. -/
theorem exists_means_breaks (deep : ∃ piece ∈ pieces, piece.isDeep = true)
    (count : Nat) : ∃ text, Means pieces text ∧ count ≤ brokenNames text := by
  induction pieces with
  | nil =>
      obtain ⟨piece, member, -⟩ := deep
      cases member
  | cons piece pieces ih =>
      by_cases here : piece.isDeep = true
      · obtain ⟨text, means⟩ := exists_means pieces
        exact ⟨_, .cons (covers_breaks here count) means, brokenNames_breaks count text⟩
      · obtain ⟨found, member, isDeep⟩ := deep
        rcases List.mem_cons.mp member with rfl | later
        · exact absurd isDeep here
        · obtain ⟨text, means, many⟩ := ih ⟨found, later, isDeep⟩
          obtain ⟨whole, means'⟩ := exists_means [piece]
          obtain ⟨part, rest, rfl, covers, -⟩ := means_cons.mp means'
          exact ⟨_, .cons covers means, many.trans (brokenNames_le_append part text)⟩

/-- The matcher accepts what the pieces mean, on every text, exactly if nothing deep is among
them.
-/
theorem matchesPieces_iff_means_forall
    : (∀ text, matchesPieces pieces text = true ↔ Means pieces text)
      ↔ ∀ piece ∈ pieces, piece.isDeep = false := by
  constructor
  · intro exact_ piece member
    by_contra deep
    rw [Bool.not_eq_false] at deep
    obtain ⟨text, means, many⟩ := exists_means_breaks ⟨piece, member, deep⟩ (pieces.length + 1)
    have few := brokenNames_le_length ((exact_ text).mpr means)
    omega
  · exact fun shallow text => ⟨means_of_matchesPieces, matchesPieces_of_means (.inl shallow)⟩

end StorageBallast.Globs
