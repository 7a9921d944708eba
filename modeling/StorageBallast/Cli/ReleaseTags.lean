import Mathlib
import StorageBallast.Foundations.DecimalTexts
import StorageBallast.Foundations.DottedTexts

/-! Release tags, as the updater compares them, and the precedence of the versions they are
written for. The updater compares prereleases as plain texts, which is in the order of their
identifiers for some of them only.
-/

namespace StorageBallast

/-- `str::cmp`: the order of the bytes is that of the characters. -/
def compareTexts (left right : String) : Ordering := compare left.toList right.toList

structure ParsedReleaseTag where
  core : List UInt64
  prerelease : Option String
deriving DecidableEq

def parseReleaseTag (tag : String) : Option ParsedReleaseTag := do
  let withoutPrefix := (Texts.stripPrefix tag "v").getD tag
  let withoutBuild :=
    match Texts.splitOnce '+' withoutPrefix.toList with
    | none => withoutPrefix.toList
    | some (version, _build) => version
  let (core, prerelease) :=
    match Texts.splitOnce '-' withoutBuild with
    | none => (withoutBuild, none)
    | some (version, prerelease) => (version, some (String.ofList prerelease))
  match core.splitOn '.' with
  | [major, minor, patch] =>
      let major ← parseU64 (String.ofList major)
      let minor ← parseU64 (String.ofList minor)
      let patch ← parseU64 (String.ofList patch)
      return { core := [major, minor, patch], prerelease }
  | _ => none

def compareReleaseTags (left right : String) : Option Ordering := do
  let left ← parseReleaseTag left
  let right ← parseReleaseTag right
  let core := compare left.core right.core
  if core ≠ .eq then some core
  else
    match left.prerelease, right.prerelease with
    | none, none => some .eq
    | none, some _ => some .gt
    | some _, none => some .lt
    | some left, some right => some (compareTexts left right)

structure VersionDecision where
  updateAvailable : Bool
  step : String
deriving DecidableEq, Repr

/-- The version decision of `run_update_sequence`. -/
def decideVersion (current targetTag : String) (pinned force : Bool) : VersionDecision :=
  let currentTag := "v" ++ current
  let proceed (selection : String) : VersionDecision :=
    { updateAvailable := true, step := selection ++ ": " ++ currentTag ++ " -> " ++ targetTag }
  match compareReleaseTags currentTag targetTag with
  | some .eq =>
      if !force then
        { updateAvailable := false, step := "Already at " ++ targetTag ++ ", no update needed" }
      else proceed "Forced reinstall selected"
  | some .gt =>
      if !pinned then
        { updateAvailable := false
          step := "Latest available " ++ targetTag ++ " is older than current " ++ currentTag
            ++ "; no downgrade needed" }
      else proceed "Pinned downgrade selected"
  | _ => proceed "Update available"

def isIdentifierChar (c : Char) : Bool := c.isAlphanum || c == '-'

structure PrereleaseIdentifier where
  text : List Char
  nonempty : text ≠ []
  allowed : text.all isIdentifierChar = true
  leading : text.all Char.isDigit = true → text = ['0'] ∨ text.head? ≠ some '0'
deriving DecidableEq

namespace PrereleaseIdentifier

def numeric (self : PrereleaseIdentifier) : Bool := self.text.all Char.isDigit

/-- Numbers come before other identifiers. -/
def precedence (left right : PrereleaseIdentifier) : Ordering :=
  match left.numeric, right.numeric with
  | true, true => compare (DottedTexts.value left.text) (DottedTexts.value right.text)
  | true, false => .lt
  | false, true => .gt
  | false, false => compare left.text right.text

end PrereleaseIdentifier

structure BuildIdentifier where
  text : List Char
  nonempty : text ≠ []
  allowed : text.all isIdentifierChar = true

structure ReleaseVersion where
  major : UInt64
  minor : UInt64
  patch : UInt64
  prerelease : List PrereleaseIdentifier
  build : List BuildIdentifier

namespace ReleaseVersion

def core (self : ReleaseVersion) : List UInt64 := [self.major, self.minor, self.patch]

/-- Precedence of versions. The identifiers of a prerelease decide in turn, and if they do not
the longer list is greater. A build does not count.
-/
def precedence (left right : ReleaseVersion) : Ordering :=
  (compare left.core right.core).then <|
    match left.prerelease, right.prerelease with
    | [], [] => .eq
    | [], _ => .gt
    | _, [] => .lt
    | lefts, rights => lefts.compareLex PrereleaseIdentifier.precedence rights

def coreText (self : ReleaseVersion) : List Char :=
  DottedTexts.join '.' (self.core.map fun number => Nat.toDigits 10 number.toNat)

def prereleaseText (self : ReleaseVersion) : List Char :=
  DottedTexts.join '.' (self.prerelease.map (·.text))

def plainText (self : ReleaseVersion) : List Char :=
  self.coreText ++ if self.prerelease = [] then [] else '-' :: self.prereleaseText

def text (self : ReleaseVersion) : List Char :=
  self.plainText
    ++ if self.build.isEmpty then [] else '+' :: DottedTexts.join '.' (self.build.map (·.text))

def tag (self : ReleaseVersion) (lettered : Bool) : String :=
  String.ofList (if lettered then 'v' :: self.text else self.text)

variable {self : ReleaseVersion}

theorem not_mem_toDigits {c : Char} (other : c.isDigit = false) (number : UInt64)
    : c ∉ Nat.toDigits 10 number.toNat := by
  intro member
  have isDigit := @Nat.isDigit_of_mem_toDigits 10 number.toNat c (by omega) (by omega) member
  rw [other] at isDigit
  cases isDigit

theorem not_mem_coreText {c : Char} (dot : c ≠ '.') (other : c.isDigit = false)
    : c ∉ self.coreText := by
  refine DottedTexts.not_mem_join dot fun part member => ?_
  obtain ⟨number, _, rfl⟩ := List.mem_map.mp member
  exact not_mem_toDigits other number

theorem not_mem_plainText {c : Char} (dot : c ≠ '.') (hyphen : c ≠ '-')
    (other : isIdentifierChar c = false) : c ∉ self.plainText := by
  have notDigit : c.isDigit = false := by
    simp only [isIdentifierChar, Char.isAlphanum, Bool.or_eq_false_iff] at other
    exact other.1.2
  have inside : c ∉ self.prereleaseText := by
    refine DottedTexts.not_mem_join dot fun part member present => ?_
    obtain ⟨identifier, _, rfl⟩ := List.mem_map.mp member
    have allowed := List.all_eq_true.mp identifier.allowed c present
    rw [other] at allowed
    cases allowed
  unfold plainText
  rw [List.mem_append, not_or]
  refine ⟨not_mem_coreText dot notDigit, ?_⟩
  split
  · exact List.not_mem_nil
  · rw [List.mem_cons, not_or]
    exact ⟨hyphen, inside⟩

theorem text_ne_cons_v (rest : List Char) : self.text ≠ "v".toList ++ rest := by
  intro whole
  obtain ⟨behind, joined, -, -⟩ := DottedTexts.join_cons '.' (Nat.toDigits 10 self.major.toNat)
    (([self.minor, self.patch] : List UInt64).map fun number => Nat.toDigits 10 number.toNat)
  unfold text plainText coreText core at whole
  rw [List.map_cons, joined] at whole
  cases digits : Nat.toDigits 10 self.major.toNat with
  | nil => exact Nat.toDigits_ne_nil digits
  | cons c others =>
      rw [digits] at whole
      obtain rfl : c = 'v' := (List.cons.inj whole).1
      exact not_mem_toDigits (by decide) self.major (digits ▸ List.mem_cons_self)

theorem stripPrefix_tag (lettered : Bool)
    : ((Texts.stripPrefix (self.tag lettered) "v").getD (self.tag lettered)).toList
      = self.text := by
  cases lettered with
  | true =>
      have stripped : Texts.stripPrefix (self.tag true) "v" = some (String.ofList self.text) :=
        Texts.stripPrefix_eq_some.mpr (by simp [tag])
      rw [stripped, Option.getD_some, String.toList_ofList]
  | false =>
      have unstripped : Texts.stripPrefix (self.tag false) "v" = none := by
        cases cut : Texts.stripPrefix (self.tag false) "v" with
        | none => rfl
        | some rest =>
            have whole := Texts.stripPrefix_eq_some.mp cut
            rw [tag, String.toList_ofList] at whole
            exact absurd whole (text_ne_cons_v rest.toList)
      rw [unstripped, Option.getD_none, tag, String.toList_ofList]
      rfl

theorem splitOn_coreText
    : self.coreText.splitOn '.' = self.core.map fun number => Nat.toDigits 10 number.toNat := by
  refine List.splitOn_intercalate '.' ?_ (by simp [core])
  intro part member
  obtain ⟨number, _, rfl⟩ := List.mem_map.mp member
  exact not_mem_toDigits (by decide) number

theorem splitOnce_text
    : (match Texts.splitOnce '+' self.text with
        | none => self.text
        | some (version, _build) => version)
      = self.plainText := by
  have free : '+' ∉ self.plainText := not_mem_plainText (by decide) (by decide) (by decide)
  unfold text
  split_ifs with none
  · rw [List.append_nil, Texts.splitOnce_eq_none free]
  · rw [Texts.splitOnce_eq_some.mpr ⟨free, rfl⟩]

theorem splitOnce_plainText
    : (match Texts.splitOnce '-' self.plainText with
        | none => (self.plainText, none)
        | some (version, prerelease) => (version, some (String.ofList prerelease)))
      = (self.coreText,
          if self.prerelease = [] then none else some (String.ofList self.prereleaseText)) := by
  have free : '-' ∉ self.coreText := not_mem_coreText (by decide) (by decide)
  unfold plainText
  split_ifs with none
  · rw [List.append_nil, Texts.splitOnce_eq_none free]
  · rw [Texts.splitOnce_eq_some.mpr ⟨free, rfl⟩]

theorem parseReleaseTag_tag (lettered : Bool)
    : parseReleaseTag (self.tag lettered)
      = some
          { core := self.core
            prerelease :=
              if self.prerelease = [] then none
              else some (String.ofList self.prereleaseText) } := by
  have read : ∀ number : UInt64, parseU64 (String.ofList (Nat.toDigits 10 number.toNat))
      = some number := by
    intro number
    rw [← Nat.toString_eq_ofList_toDigits]
    exact parseU64_toString number
  unfold parseReleaseTag
  simp only [stripPrefix_tag, splitOnce_text, splitOnce_plainText, splitOn_coreText, core,
    List.map_cons, List.map_nil, read]
  rfl

end ReleaseVersion

namespace PrereleaseIdentifier

variable {left right : PrereleaseIdentifier} {lefts rights : List PrereleaseIdentifier}

/-- As texts the two come in the order of their precedence. Numbers do if they have equally many
digits or the one with fewer digits comes first, and a number and another identifier if the
number comes first.
-/
def SortsAsText (left right : PrereleaseIdentifier) : Prop :=
  match left.numeric, right.numeric with
  | true, true =>
      left.text.length = right.text.length
        ∨ (left.text.length < right.text.length ↔ compare left.text right.text = .lt)
  | true, false => compare left.text right.text = .lt
  | false, true => compare left.text right.text = .gt
  | false, false => True

def Overtakes (left : PrereleaseIdentifier) (behind : List PrereleaseIdentifier)
    (right : PrereleaseIdentifier) : Prop :=
  behind ≠ [] ∧ left.text ++ ['-'] <+: right.text

def TextOrdered : List PrereleaseIdentifier → List PrereleaseIdentifier → Prop
  | left :: lefts, right :: rights =>
      if left = right then TextOrdered lefts rights
      else left.SortsAsText right ∧ ¬ left.Overtakes lefts right ∧ ¬ right.Overtakes rights left
  | _, _ => True

theorem eq_of_text (same : left.text = right.text) : left = right := by
  cases left
  cases right
  cases same
  rfl

theorem dot_not_mem (self : PrereleaseIdentifier) : '.' ∉ self.text := by
  intro member
  have allowed := List.all_eq_true.mp self.allowed '.' member
  exact absurd allowed (by decide)

theorem eq_hyphen {c : Char} (allowed : isIdentifierChar c = true) (below : c < '.')
    : c = '-' := by
  rw [isIdentifierChar, Bool.or_eq_true, beq_iff_eq] at allowed
  rcases allowed with alnum | hyphen
  · have small : c.toNat < 46 := below
    have digit : '0'.val.toNat = 48 := rfl
    have upper : 'A'.val.toNat = 65 := rfl
    have lower : 'a'.val.toNat = 97 := rfl
    simp only [Char.isAlphanum, Char.isAlpha, Char.isUpper, Char.isLower, Char.isDigit,
      Bool.or_eq_true, Bool.and_eq_true, decide_eq_true_eq, ge_iff_le, UInt32.le_iff_toNat_le]
      at alnum
    have value : c.val.toNat = c.toNat := rfl
    omega
  · exact hyphen

theorem undercuts_iff {behind : List Char} {more : List PrereleaseIdentifier}
    (empty : behind = [] ↔ more = [])
    : DottedTexts.Undercuts '.' left.text behind right.text ↔ left.Overtakes more right := by
  refine and_congr (not_congr empty) ⟨?_, ?_⟩
  · intro ⟨c, rest, whole, below⟩
    have allowed := List.all_eq_true.mp right.allowed c (by simp [whole])
    obtain rfl := eq_hyphen allowed below
    exact ⟨rest, by rw [whole, List.append_assoc]; rfl⟩
  · intro ⟨rest, whole⟩
    exact ⟨'-', rest, by rw [← whole, List.append_assoc]; rfl, by decide⟩

theorem precedence_self (self : PrereleaseIdentifier) : self.precedence self = .eq := by
  unfold precedence
  cases self.numeric <;> exact Std.ReflOrd.compare_self

theorem value_lt_of_shorter (leftNumeric : left.numeric = true)
    (rightNumeric : right.numeric = true)
    (shorter : left.text.length < right.text.length)
    : DottedTexts.value left.text < DottedTexts.value right.text := by
  refine DottedTexts.value_lt_of_length_lt leftNumeric rightNumeric ?_ shorter
  refine (right.leading rightNumeric).resolve_left fun zero => ?_
  have positive := List.length_pos_of_ne_nil left.nonempty
  rw [zero, List.length_singleton] at shorter
  omega

/-- Two different identifiers sort as texts exactly if their texts have their precedence. -/
theorem sortsAsText_iff (differ : left ≠ right)
    : left.SortsAsText right ↔ compare left.text right.text = left.precedence right := by
  unfold SortsAsText precedence
  have texts : compare left.text right.text ≠ .eq := fun same =>
    differ (eq_of_text (Std.LawfulEqOrd.eq_of_compare same))
  cases leftNumeric : left.numeric with
  | false => cases right.numeric <;> simp
  | true =>
      cases rightNumeric : right.numeric with
      | false => exact Iff.rfl
      | true =>
          dsimp only
          rcases Nat.lt_trichotomy left.text.length right.text.length with less | same | more
          · have values := value_lt_of_shorter leftNumeric rightNumeric less
            rw [compare_lt_iff_lt.mpr values]
            simp [less, less.ne]
          · have order := DottedTexts.compare_of_length_eq leftNumeric rightNumeric same
            simp [same, order]
          · have values := value_lt_of_shorter rightNumeric leftNumeric more
            rw [compare_gt_iff_gt.mpr values]
            cases order : compare left.text right.text with
            | lt => simp [more.ne', not_lt_of_gt more]
            | eq => exact absurd order texts
            | gt => simp [not_lt_of_gt more]

theorem precedence_ne_eq (differ : left ≠ right) : left.precedence right ≠ .eq := by
  have texts : compare left.text right.text ≠ .eq := fun same =>
    differ (eq_of_text (Std.LawfulEqOrd.eq_of_compare same))
  unfold precedence
  cases leftNumeric : left.numeric with
  | false =>
      cases right.numeric with
      | false => exact texts
      | true => nofun
  | true =>
      cases rightNumeric : right.numeric with
      | false => nofun
      | true =>
          dsimp only
          rcases Nat.lt_trichotomy left.text.length right.text.length with less | same | more
          · rw [compare_lt_iff_lt.mpr (value_lt_of_shorter leftNumeric rightNumeric less)]
            nofun
          · rw [← DottedTexts.compare_of_length_eq leftNumeric rightNumeric same]
            exact texts
          · rw [compare_gt_iff_gt.mpr (value_lt_of_shorter rightNumeric leftNumeric more)]
            nofun

/-- What goes on with a hyphen is no number, and it is greater than what it goes on from. -/
theorem precedence_of_hyphen (longer : left.text ++ ['-'] <+: right.text)
    : left.precedence right = .lt ∧ right.precedence left = .gt := by
  obtain ⟨rest, whole⟩ := longer
  have notNumeric : right.numeric = false := by
    rw [numeric, ← whole]
    simp
  have texts := DottedTexts.compare_longer left.text '-' rest
  rw [List.append_cons, whole] at texts
  unfold precedence
  rw [notNumeric]
  cases left.numeric with
  | false => exact texts
  | true => exact ⟨rfl, rfl⟩

theorem compare_join_of_ne (differ : left ≠ right)
    : compare (DottedTexts.join '.' ((left :: lefts).map (·.text)))
          (DottedTexts.join '.' ((right :: rights).map (·.text)))
        = (left :: lefts).compareLex precedence (right :: rights)
      ↔ TextOrdered (left :: lefts) (right :: rights) := by
  have decided : (left :: lefts).compareLex precedence (right :: rights)
      = left.precedence right := by
    rw [List.compareLex_cons_cons]
    cases first : left.precedence right with
    | lt | gt => rfl
    | eq => exact absurd first (precedence_ne_eq differ)
  have texts : left.text ≠ right.text := fun same => differ (eq_of_text same)
  obtain ⟨behind, leftJoined, behindEnds, noneBehind⟩ :=
    DottedTexts.join_cons '.' left.text (lefts.map (·.text))
  obtain ⟨after, rightJoined, afterEnds, noneAfter⟩ :=
    DottedTexts.join_cons '.' right.text (rights.map (·.text))
  rw [List.map_eq_nil_iff] at noneBehind noneAfter
  rw [TextOrdered, if_neg differ, List.map_cons, List.map_cons, leftJoined, rightJoined, decided]
  by_cases leftOver : left.Overtakes lefts right
  · have compared := @DottedTexts.compare_of_undercuts _ _ _ _ after behindEnds
      ((undercuts_iff noneBehind).mpr leftOver)
    rw [compared, (precedence_of_hyphen leftOver.2).1]
    exact iff_of_false nofun fun ordered => ordered.2.1 leftOver
  by_cases rightOver : right.Overtakes rights left
  · have compared := @DottedTexts.compare_of_undercuts _ _ _ _ behind afterEnds
      ((undercuts_iff noneAfter).mpr rightOver)
    rw [Std.OrientedOrd.eq_swap (a := left.text ++ behind), compared,
      (precedence_of_hyphen rightOver.2).2]
    exact iff_of_false nofun fun ordered => ordered.2.2 rightOver
  · rw [DottedTexts.compare_append_of_ne texts left.dot_not_mem right.dot_not_mem behindEnds
      afterEnds (mt (undercuts_iff noneBehind).mp leftOver)
      (mt (undercuts_iff noneAfter).mp rightOver), ← sortsAsText_iff differ]
    exact (and_iff_left ⟨leftOver, rightOver⟩).symm

/-- The comparison of joined identifiers has the precedence of their lists exactly if the first
that differ are in order as texts. By induction on the common front.
-/
theorem compare_join_iff
    : compare (DottedTexts.join '.' ((left :: lefts).map (·.text)))
          (DottedTexts.join '.' ((right :: rights).map (·.text)))
        = (left :: lefts).compareLex precedence (right :: rights)
      ↔ TextOrdered (left :: lefts) (right :: rights) := by
  induction lefts generalizing left right rights with
  | nil =>
      by_cases same : left = right
      · subst same
        rw [TextOrdered, if_pos rfl, List.compareLex_cons_cons, precedence_self]
        refine iff_of_true ?_ trivial
        cases rights with
        | nil => exact Std.ReflOrd.compare_self
        | cons other rights =>
            rw [List.map_cons, List.map_cons, List.map_cons, List.map_nil,
              DottedTexts.join_singleton, DottedTexts.join_cons_cons]
            exact (DottedTexts.compare_longer ..).1
      · exact compare_join_of_ne same
  | cons next lefts ih =>
      by_cases same : left = right
      · subst same
        rw [TextOrdered, if_pos rfl, List.compareLex_cons_cons, precedence_self]
        cases rights with
        | nil =>
            rw [List.map_cons, List.map_cons, List.map_cons, List.map_nil,
              DottedTexts.join_singleton, DottedTexts.join_cons_cons]
            exact iff_of_true (DottedTexts.compare_longer ..).2 trivial
        | cons other rights =>
            rw [List.map_cons, List.map_cons, List.map_cons, List.map_cons,
              DottedTexts.join_cons_cons, DottedTexts.join_cons_cons,
              DottedTexts.compare_append_left, List.compare_cons_cons, Std.ReflOrd.compare_self]
            exact ih
      · exact compare_join_of_ne same

end PrereleaseIdentifier

namespace ReleaseVersion

variable {left right : ReleaseVersion}

def TextOrdered (left right : ReleaseVersion) : Prop :=
  left.core ≠ right.core ∨ PrereleaseIdentifier.TextOrdered left.prerelease right.prerelease

/-- The updater compares the tags of the versions by their precedence, and without being asked
for more it updates exactly to what is newer.
-/
structure ComparedRightly (left right : ReleaseVersion) : Prop where
  compared : ∀ leftLettered rightLettered,
    compareReleaseTags (left.tag leftLettered) (right.tag rightLettered)
      = some (left.precedence right)
  decided : ∀ lettered,
    (decideVersion (left.tag false) (right.tag lettered) false false).updateAvailable = true
      ↔ left.precedence right = .lt

def comparePrereleases (left right : ReleaseVersion) : Ordering :=
  match left.prerelease, right.prerelease with
  | [], [] => .eq
  | [], _ => .gt
  | _, [] => .lt
  | _, _ => compare left.prereleaseText right.prereleaseText

theorem compareReleaseTags_tag (leftLettered rightLettered : Bool)
    : compareReleaseTags (left.tag leftLettered) (right.tag rightLettered)
      = some ((compare left.core right.core).then (left.comparePrereleases right)) := by
  unfold compareReleaseTags comparePrereleases
  rw [parseReleaseTag_tag, parseReleaseTag_tag]
  simp only [Option.bind_eq_bind, Option.bind_some]
  cases compare left.core right.core with
  | lt | gt => rfl
  | eq =>
      rw [if_neg (not_not_intro rfl)]
      cases left.prerelease <;> cases right.prerelease <;> simp [compareTexts]

theorem comparePrereleases_iff
    : left.comparePrereleases right
        = (match left.prerelease, right.prerelease with
            | [], [] => .eq
            | [], _ => .gt
            | _, [] => .lt
            | lefts, rights => lefts.compareLex PrereleaseIdentifier.precedence rights)
      ↔ PrereleaseIdentifier.TextOrdered left.prerelease right.prerelease := by
  unfold comparePrereleases prereleaseText
  cases left.prerelease with
  | nil => cases right.prerelease <;> exact iff_of_true rfl trivial
  | cons first lefts =>
      cases right.prerelease with
      | nil => exact iff_of_true rfl trivial
      | cons other rights => exact PrereleaseIdentifier.compare_join_iff

theorem precedence_iff
    : (compare left.core right.core).then (left.comparePrereleases right) = left.precedence right
      ↔ left.TextOrdered right := by
  unfold precedence TextOrdered
  cases core : compare left.core right.core with
  | lt | gt =>
      have differ : left.core ≠ right.core := by
        intro same
        rw [same, Std.ReflOrd.compare_self] at core
        cases core
      exact iff_of_true rfl (.inl differ)
  | eq =>
      have same : left.core = right.core := Std.LawfulEqOrd.eq_of_compare core
      rw [Ordering.eq_then, Ordering.eq_then, comparePrereleases_iff]
      exact (or_iff_right (not_not_intro same)).symm

/-- The updater is right about two versions exactly if they are in order as texts. -/
theorem comparedRightly_iff (left right : ReleaseVersion)
    : left.ComparedRightly right ↔ left.TextOrdered right := by
  rw [← precedence_iff]
  constructor
  · intro rightly
    have compared := rightly.compared false false
    rw [compareReleaseTags_tag] at compared
    exact Option.some.inj compared
  · intro same
    have compared : ∀ leftLettered rightLettered,
        compareReleaseTags (left.tag leftLettered) (right.tag rightLettered)
          = some (left.precedence right) := by
      intro leftLettered rightLettered
      rw [compareReleaseTags_tag, same]
    refine ⟨compared, fun lettered => ?_⟩
    have letter : "v" ++ left.tag false = left.tag true := by
      simp [tag]
    unfold decideVersion
    simp only [letter, compared]
    cases left.precedence right <;> simp

def secondCandidate : ReleaseVersion where
  major := 1
  minor := 0
  patch := 0
  prerelease :=
    [⟨['r', 'c'], by decide, by decide, by decide⟩, ⟨['2'], by decide, by decide, by decide⟩]
  build := []

def tenthCandidate : ReleaseVersion :=
  { secondCandidate with
    prerelease :=
      [⟨['r', 'c'], by decide, by decide, by decide⟩,
        ⟨['1', '0'], by decide, by decide, by decide⟩] }

/-- The tenth candidate is newer, but the updater takes it for older and stays with the second. -/
theorem tenth_candidate_skipped
    : secondCandidate.tag true = "v1.0.0-rc.2" ∧ tenthCandidate.tag true = "v1.0.0-rc.10"
        ∧ secondCandidate.precedence tenthCandidate = .lt
        ∧ compareReleaseTags "v1.0.0-rc.2" "v1.0.0-rc.10" = some .gt
        ∧ (decideVersion "1.0.0-rc.2" "v1.0.0-rc.10" false false).updateAvailable = false
        ∧ ¬ ∀ left right : ReleaseVersion, left.ComparedRightly right := by
  have older : secondCandidate.precedence tenthCandidate = .lt := by decide +kernel
  have compared : compareReleaseTags (secondCandidate.tag true) (tenthCandidate.tag true)
      = some .gt := by decide +kernel
  refine ⟨by decide +kernel, by decide +kernel, older, compared, by decide +kernel, ?_⟩
  intro rightly
  have right := (rightly secondCandidate tenthCandidate).compared true true
  rw [compared, older] at right
  cases right

end ReleaseVersion

end StorageBallast
