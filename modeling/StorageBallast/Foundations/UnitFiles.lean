import StorageBallast.Foundations.Texts
import Mathlib.Data.List.Basic
import Mathlib.Data.List.DropRight
import Mathlib.Tactic.Common

/-! Unit files as a service manager reads them: assignments on lines under section headers, whose
values are words with quotes, escapes, specifiers and variables. What has no meaning there is read
as nothing.
-/

namespace StorageBallast.UnitFiles

open Texts

def isLineEnd (c : Char) : Bool := c == '\n' || c == '\r'

def isSeparator (c : Char) : Bool := c == ' ' || c == '\t' || isLineEnd c

def isQuote (c : Char) : Bool := c == '"' || c == '\''

def consHead (c : Char) : List (List Char) → List (List Char)
  | [] => [[c]]
  | first :: rest => (c :: first) :: rest

def splitLines : List Char → List (List Char)
  | [] => [[]]
  | c :: rest => if isLineEnd c then [] :: splitLines rest else consHead c (splitLines rest)

def isWhole (text : List Char) : Bool := text.all fun c => ! isLineEnd c

theorem splitLines_line {line : List Char} (whole : isWhole line = true)
    (rest : List Char) : splitLines (line ++ '\n' :: rest) = line :: splitLines rest := by
  induction line with
  | nil => rfl
  | cons c line ih =>
      rw [isWhole, List.all_cons, Bool.and_eq_true, Bool.not_eq_true'] at whole
      rw [List.cons_append, splitLines, if_neg (by simp [whole.1]), ih whole.2]
      rfl

theorem splitLines_unlines {lines : List (List Char)} (whole : lines.all isWhole = true)
    : splitLines (lines.flatMap (· ++ ['\n'])) = lines ++ [[]] := by
  induction lines with
  | nil => rfl
  | cons line lines ih =>
      rw [List.all_cons, Bool.and_eq_true] at whole
      rw [List.flatMap_cons, List.append_assoc, List.singleton_append, splitLines_line whole.1,
        ih whole.2, List.cons_append]

inductive UnitLine where
  | blank
  | header (name : List Char)
  | assignment (key value : List Char)

def trimSeparators (text : List Char) : List Char :=
  (text.dropWhile isSeparator).rdropWhile isSeparator

def readLine (line : List Char) : Option UnitLine :=
  match trimSeparators line with
  | [] => some .blank
  | '[' :: name => if name.getLast? = some ']' then some (.header name.dropLast) else none
  | text =>
      (splitOnce '=' text).map fun (key, value) =>
        .assignment (trimSeparators key) (trimSeparators value)

def isComment (line : List Char) : Bool :=
  match line.dropWhile isSeparator with
  | '#' :: _ | ';' :: _ => true
  | _ => false

structure Assignment where
  header : String
  key : String
  value : String
deriving DecidableEq, Repr

/-- The assignments of lines under a header, and the header that they end under. A line that ends
in a backslash goes on in the next one that is no comment.
-/
def readLines (header : String) (pending : List Char)
    : List (List Char) → Option (String × List Assignment)
  | [] => if pending = [] then some (header, []) else none
  | line :: rest =>
      if isComment line then readLines header pending rest
      else if line.getLast? = some '\\' then
        readLines header (pending ++ line.dropLast ++ [' ']) rest
      else
        match readLine (pending ++ line) with
        | none => none
        | some .blank => readLines header [] rest
        | some (.header name) => readLines (String.ofList name) [] rest
        | some (.assignment key value) =>
            (readLines header [] rest).map
              (Prod.map id (⟨header, String.ofList key, String.ofList value⟩ :: ·))

def readUnit (text : List Char) : Option (List Assignment) :=
  (readLines "" [] (splitLines text)).map Prod.snd

theorem readLines_append {header last : String} {pending : List Char} {lines : List (List Char)}
    {assignments : List Assignment}
    (read : readLines header pending lines = some (last, assignments)) (rest : List (List Char))
    : readLines header pending (lines ++ rest)
      = (readLines last [] rest).map (Prod.map id (assignments ++ ·)) := by
  fun_induction readLines header pending lines generalizing last assignments with
  | case1 header =>
      cases read
      rw [List.nil_append]
      cases readLines header [] rest <;> rfl
  | case2 => contradiction
  | case3 header pending line lines comment ih =>
      rw [List.cons_append, readLines, if_pos comment]
      exact ih read
  | case4 header pending line lines plain goesOn ih =>
      rw [List.cons_append, readLines, if_neg plain, if_pos goesOn]
      exact ih read
  | case5 => contradiction
  | case6 header pending line lines plain ends blank ih =>
      rw [List.cons_append, readLines, if_neg plain, if_neg ends, blank]
      exact ih read
  | case7 header pending line lines plain ends name named ih =>
      rw [List.cons_append, readLines, if_neg plain, if_neg ends, named]
      exact ih read
  | case8 header pending line lines plain ends key value assigned ih =>
      obtain ⟨⟨found, others⟩, before, rfl, rfl⟩ := Option.map_eq_some_iff.mp read
      rw [List.cons_append, readLines, if_neg plain, if_neg ends, assigned]
      dsimp only
      rw [ih before, Option.map_map]
      rfl

theorem trimSeparators_eq_self {text : List Char} (first : ∀ c ∈ text.head?, isSeparator c = false)
    (last : ∀ c ∈ text.getLast?, isSeparator c = false) : trimSeparators text = text := by
  unfold trimSeparators
  rw [List.dropWhile_eq_self_iff.mpr, List.rdropWhile_eq_self_iff.mpr]
  · intro some_
    simp [last _ (List.getLast?_eq_some_getLast some_)]
  · intro some_
    simp [first _ (by rw [List.head?_eq_getElem?, List.getElem?_eq_getElem some_]; rfl)]

theorem splitOnce_append {separator : Char} {before : List Char} (absent : separator ∉ before)
    (after : List Char)
    : splitOnce separator (before ++ separator :: after) = some (before, after) := by
  induction before with
  | nil => simp [splitOnce]
  | cons c before ih =>
      rw [List.mem_cons, not_or] at absent
      rw [List.cons_append, splitOnce, if_neg (Ne.symm absent.1), ih absent.2]
      rfl

/-- An assignment on a line of its own, without white space around its value. -/
theorem readLines_assignment {header : String} (key : Char) (name value : List Char)
    (letters : ((key :: name).all fun c => ! isSeparator c && c != '=') = true)
    (starts : key ≠ '#' ∧ key ≠ ';' ∧ key ≠ '[')
    (first : ∀ c ∈ value.head?, isSeparator c = false)
    (last : ∀ c ∈ value.getLast?, isSeparator c = false ∧ c ≠ '\\') (rest : List (List Char))
    : readLines header [] ((key :: name ++ '=' :: value) :: rest)
      = (readLines header [] rest).map
          (Prod.map id (⟨header, String.ofList (key :: name), String.ofList value⟩ :: ·)) := by
  have named : ∀ c ∈ key :: name, isSeparator c = false ∧ c ≠ '=' := by
    simpa using letters
  have ends : ∀ c ∈ (key :: name ++ '=' :: value).getLast?, isSeparator c = false ∧ c ≠ '\\' := by
    intro c ending
    rw [List.getLast?_append_cons, List.getLast?_cons] at ending
    cases lastOf : value.getLast? with
    | none =>
        rw [lastOf] at ending
        cases ending
        decide
    | some d =>
        rw [lastOf] at ending
        exact last c (lastOf.trans ending)
  have keyed : trimSeparators (key :: name) = key :: name := by
    refine trimSeparators_eq_self (fun c isFirst => (named c ?_).1) fun c isLast => (named c ?_).1
    · exact List.mem_of_head? isFirst
    · exact List.mem_of_getLast? isLast
  have read : readLine (key :: name ++ '=' :: value)
      = some (.assignment (key :: name) value) := by
    have split := splitOnce_append (fun member => (named '=' member).2 rfl) value
    unfold readLine
    rw [trimSeparators_eq_self (by simpa using (named key (by simp)).1)
      fun c isLast => (ends c isLast).1, List.cons_append] at *
    split
    · contradiction
    · exact absurd (List.cons.inj ‹_›).1 starts.2.2
    · rw [split, Option.map_some]
      dsimp only
      rw [keyed, trimSeparators_eq_self first fun c isLast => (last c isLast).1]
  have plain : isComment (key :: name ++ '=' :: value) = false := by
    unfold isComment
    rw [List.cons_append, List.dropWhile_cons, if_neg (by simp [(named key (by simp)).1])]
    split
    · exact absurd (List.cons.inj ‹_›).1 starts.1
    · exact absurd (List.cons.inj ‹_›).1 starts.2.1
    · rfl
  have whole : (key :: name ++ '=' :: value).getLast? ≠ some '\\' :=
    fun escaped => (ends _ escaped).2 rfl
  rw [readLines, if_neg (Bool.eq_false_iff.mp plain), if_neg whole, List.nil_append, read]

/-- What the service manager knows of the system that a unit runs on. -/
structure Host where
  specifier : Char → Option (List Char)
  environment : List Char → List Char

def readCode (base width : Nat) (text : List Char) : Option (Char × Nat) :=
  let digits := (text.take width).map fun c =>
    if c.isDigit then c.toNat - '0'.toNat else c.toLower.toNat - 'a'.toNat + 10
  let shown := (text.take width).all fun c => c.isDigit || ('a' ≤ c.toLower && c.toLower ≤ 'f')
  let code := digits.foldl (fun code digit => base * code + digit) 0
  if shown ∧ digits.length = width ∧ digits.all (· < base) ∧ code ≠ 0 ∧ code.isValidChar then
    some (Char.ofNat code, width)
  else none

/-- The character that follows a backslash as an escape, and how much of the text says so. -/
def readEscape : List Char → Option (Char × Nat)
  | 'a' :: _ => some ('\x07', 1)
  | 'b' :: _ => some ('\x08', 1)
  | 'f' :: _ => some ('\x0c', 1)
  | 'n' :: _ => some ('\n', 1)
  | 'r' :: _ => some ('\r', 1)
  | 't' :: _ => some ('\t', 1)
  | 'v' :: _ => some ('\x0b', 1)
  | '\\' :: _ => some ('\\', 1)
  | '"' :: _ => some ('"', 1)
  | '\'' :: _ => some ('\'', 1)
  | 's' :: _ => some (' ', 1)
  | 'x' :: rest => (readCode 16 2 rest).map fun (c, width) => (c, width + 1)
  | 'u' :: rest => (readCode 16 4 rest).map fun (c, width) => (c, width + 1)
  | 'U' :: rest => (readCode 16 8 rest).map fun (c, width) => (c, width + 1)
  | rest => readCode 8 3 rest

def readChar (c : Char) (rest : List Char) : Option (Char × Nat) :=
  if c = '\\' then readEscape rest else some (c, 0)

inductive WordPart where
  | between
  | plain
  | quoted (quote : Char)
  | closed

/-- The words of a text from some part of one on, after characters that an escape has used. A
quote opens before a word and closes behind it.
-/
def scanWords : WordPart → Nat → List Char → Option (List (List Char))
  | .between, 0, [] => some []
  | .plain, 0, [] | .closed, 0, [] => some [[]]
  | _, _, [] => none
  | part, used + 1, _ :: rest => scanWords part used rest
  | .between, 0, c :: rest =>
      if isSeparator c then scanWords .between 0 rest
      else if isQuote c then scanWords (.quoted c) 0 rest
      else
        (readChar c rest).bind fun (read, used) => (scanWords .plain used rest).map (consHead read)
  | .plain, 0, c :: rest =>
      if isSeparator c then (scanWords .between 0 rest).map ([] :: ·)
      else if isQuote c then none
      else
        (readChar c rest).bind fun (read, used) => (scanWords .plain used rest).map (consHead read)
  | .quoted quote, 0, c :: rest =>
      if c = quote then scanWords .closed 0 rest
      else
        (readChar c rest).bind fun (read, used) =>
          (scanWords (.quoted quote) used rest).map (consHead read)
  | .closed, 0, c :: rest =>
      if isSeparator c then (scanWords .between 0 rest).map ([] :: ·) else none

/-- `%%` is a percent sign, and a percent sign before another character a specifier. -/
def expandSpecifiers (host : Host) : List Char → Option (List Char)
  | [] => some []
  | ['%'] => none
  | '%' :: c :: rest => do
      let value ← if c = '%' then some ['%'] else host.specifier c
      return value ++ (← expandSpecifiers host rest)
  | c :: rest => (expandSpecifiers host rest).map (c :: ·)

/-- `$$` is a dollar sign, and `$\x7bNAME\x7d` the value of a variable. -/
def expandVariables (host : Host) : Option (List Char) → List Char → Option (List Char)
  | none, [] => some []
  | some _, [] => none
  | some name, c :: rest =>
      if c = '\x7d' then (expandVariables host none rest).map (host.environment name ++ ·)
      else expandVariables host (some (name ++ [c])) rest
  | none, '$' :: '$' :: rest => (expandVariables host none rest).map ('$' :: ·)
  | none, '$' :: '\x7b' :: rest => expandVariables host (some []) rest
  | none, c :: rest => (expandVariables host none rest).map (c :: ·)

def expandWord (host : Host) : List Char → Option (List (List Char))
  | '$' :: c :: name =>
      if c = '$' ∨ c = '\x7b' then
        (expandVariables host none ('$' :: c :: name)).map fun word => [word]
      else some (((host.environment (c :: name)).splitOnP isSeparator).filter (· ≠ []))
  | word => (expandVariables host none word).map fun word => [word]

def readPaths (host : Host) (value : List Char) : Option (List (List Char)) :=
  (scanWords .between 0 value).bind fun words => words.mapM (expandSpecifiers host)

def readCommand (host : Host) (value : List Char) : Option (List (List Char)) := do
  let words ← readPaths host value
  let expanded ← words.mapM (expandWord host)
  return expanded.flatten

theorem expandSpecifiers_eq_self {host : Host} {word : List Char} (plain : '%' ∉ word)
    : expandSpecifiers host word = some word := by
  induction word with
  | nil => rfl
  | cons c word ih =>
      rw [List.mem_cons, not_or] at plain
      unfold expandSpecifiers
      split
      · contradiction
      · exact absurd (List.cons.inj ‹_›).1.symm plain.1
      · exact absurd (List.cons.inj ‹_›).1.symm plain.1
      · obtain ⟨rfl, rfl⟩ := List.cons.inj ‹_›
        rw [ih plain.2]
        rfl

theorem mapM_eq_map {α β : Type} {read : α → Option β} {meaning : α → β} {items : List α}
    (reads : ∀ item ∈ items, read item = some (meaning item))
    : items.mapM read = some (items.map meaning) := by
  induction items with
  | nil => rfl
  | cons item items ih =>
      rw [List.forall_mem_cons] at reads
      rw [List.mapM_cons, reads.1, ih reads.2]
      rfl

variable {words : List (List Char)}

theorem mapM_expandSpecifiers {host : Host}
    (plain : ∀ word ∈ words, '%' ∉ word) : words.mapM (expandSpecifiers host) = some words := by
  rw [mapM_eq_map fun word member => expandSpecifiers_eq_self (plain word member), List.map_id']

theorem expandVariables_eq_self {host : Host} {word : List Char}
    (undoubled : ¬ ['$', '$'] <:+: word) (unnamed : ¬ ['$', '\x7b'] <:+: word)
    : expandVariables host none word = some word := by
  induction word with
  | nil => rfl
  | cons c word ih =>
      have within {part : List Char} (absent : ¬ part <:+: c :: word) : ¬ part <:+: word :=
        fun found => absent (found.trans (List.suffix_cons c word).isInfix)
      have rest := ih (within undoubled) (within unnamed)
      unfold expandVariables
      split
      · contradiction
      · contradiction
      · contradiction
      · obtain ⟨rfl, rfl⟩ := List.cons.inj ‹_›
        exact absurd (List.prefix_append ['$', '$'] _).isInfix undoubled
      · obtain ⟨rfl, rfl⟩ := List.cons.inj ‹_›
        exact absurd (List.prefix_append ['$', '\x7b'] _).isInfix unnamed
      · obtain ⟨rfl, rfl⟩ := List.cons.inj ‹_›
        rw [rest]
        rfl

def EndsWord (tail : List Char) (words : List (List Char)) : Prop :=
  tail = [] ∧ words = [] ∨ ∃ rest, tail = ' ' :: rest ∧ scanWords .between 0 rest = some words

theorem EndsWord.plain {tail : List Char} (ends : EndsWord tail words)
    : scanWords .plain 0 tail = some ([] :: words) := by
  rcases ends with ⟨rfl, rfl⟩ | ⟨rest, rfl, scanned⟩
  · rfl
  · simp [scanWords, isSeparator, scanned]

theorem EndsWord.closed {tail : List Char} (ends : EndsWord tail words)
    : scanWords .closed 0 tail = some ([] :: words) := by
  rcases ends with ⟨rfl, rfl⟩ | ⟨rest, rfl, scanned⟩
  · rfl
  · simp [scanWords, isSeparator, scanned]

def isPlain (c : Char) : Bool := ! isSeparator c && ! isQuote c && c != '\\'

theorem scanWords_plain {word tail : List Char}
    (plain : ∀ c ∈ word, isPlain c = true) (ends : EndsWord tail words)
    : scanWords .plain 0 (word ++ tail) = some (word :: words) := by
  induction word with
  | nil => exact ends.plain
  | cons c word ih =>
      rw [List.forall_mem_cons] at plain
      have itself := plain.1
      simp only [isPlain, Bool.and_eq_true, Bool.not_eq_true', bne_iff_ne] at itself
      obtain ⟨⟨unseparated, unquoted⟩, whole⟩ := itself
      simp [scanWords, unseparated, unquoted, readChar, whole, ih plain.2, consHead]

theorem scanWords_word {word tail : List Char} (some_ : word ≠ [])
    (plain : ∀ c ∈ word, isPlain c = true) (ends : EndsWord tail words)
    : scanWords .between 0 (word ++ tail) = some (word :: words) := by
  cases word with
  | nil => contradiction
  | cons c word =>
      have itself := plain c List.mem_cons_self
      simp only [isPlain, Bool.and_eq_true, Bool.not_eq_true', bne_iff_ne] at itself
      obtain ⟨⟨unseparated, unquoted⟩, whole⟩ := itself
      have rest := scanWords_plain (fun d member => plain d (List.mem_cons_of_mem c member)) ends
      simp [scanWords, unseparated, unquoted, readChar, whole, rest, consHead]

/-- Between double quotes only they and the backslash do not stand for themselves. -/
theorem scanWords_quoted {word tail : List Char} (whole : '\\' ∉ word) (ends : EndsWord tail words)
    : scanWords .between 0
        ('"' :: (word.flatMap fun c => if c = '"' then ['\\', '"'] else [c]) ++ '"' :: tail)
      = some (word :: words) := by
  have inside : scanWords (.quoted '"') 0
      ((word.flatMap fun c => if c = '"' then ['\\', '"'] else [c]) ++ '"' :: tail)
      = some (word :: words) := by
    induction word with
    | nil => simp [scanWords, ends.closed]
    | cons c word ih =>
        rw [List.mem_cons, not_or] at whole
        by_cases quote : c = '"'
        · subst quote
          simp [scanWords, readChar, readEscape, ih whole.2, consHead]
        · simp [scanWords, readChar, quote, Ne.symm whole.1, ih whole.2, consHead]
  simpa [scanWords, isSeparator, isLineEnd, isQuote] using inside

theorem intercalate_cons_cons (word next : List Char) (words : List (List Char))
    : [' '].intercalate (word :: next :: words)
      = word ++ ' ' :: [' '].intercalate (next :: words) := by
  simp [List.intercalate]

/-- Words that are each read as one are read one after another. -/
theorem scanWords_intercalate (written : List (List Char × List Char))
    (reads : ∀ w ∈ written, ∀ tail words, EndsWord tail words →
      scanWords .between 0 (w.1 ++ tail) = some (w.2 :: words))
    : scanWords .between 0 ([' '].intercalate (written.map Prod.fst))
      = some (written.map Prod.snd) := by
  induction written with
  | nil => rfl
  | cons w written ih =>
      rw [List.forall_mem_cons] at reads
      have rest := ih reads.2
      cases written with
      | nil => simpa [List.intercalate] using reads.1 [] [] (.inl ⟨rfl, rfl⟩)
      | cons v written =>
          rw [List.map_cons, List.map_cons, intercalate_cons_cons]
          exact reads.1 _ _ (.inr ⟨_, rfl, rest⟩)

theorem forall_mem_intercalate {p : Char → Prop} (space : p ' ')
    (within : ∀ word ∈ words, ∀ c ∈ word, p c) : ∀ c ∈ [' '].intercalate words, p c := by
  induction words with
  | nil => simp [List.intercalate]
  | cons word words ih =>
      rw [List.forall_mem_cons] at within
      cases words with
      | nil => simpa [List.intercalate] using within.1
      | cons next words =>
          rw [intercalate_cons_cons, List.forall_mem_append, List.forall_mem_cons]
          exact ⟨within.1, space, ih within.2⟩

theorem forall_head?_intercalate {p : Char → Prop}
    (first : ∀ word ∈ words, ∃ c rest, word = c :: rest ∧ p c)
    : ∀ c ∈ ([' '].intercalate words).head?, p c := by
  rcases words with _ | ⟨word, _ | ⟨next, words⟩⟩
  · simp [List.intercalate]
  all_goals
    obtain ⟨c, rest, rfl, holds⟩ := first word List.mem_cons_self
    simpa [List.intercalate] using holds

theorem forall_getLast?_intercalate {p : Char → Prop}
    (last : ∀ word ∈ words, ∃ rest c, word = rest ++ [c] ∧ p c)
    : ∀ c ∈ ([' '].intercalate words).getLast?, p c := by
  induction words with
  | nil => simp [List.intercalate]
  | cons word words ih =>
      rw [List.forall_mem_cons] at last
      cases words with
      | nil =>
          obtain ⟨rest, c, rfl, holds⟩ := last.1
          simpa [List.intercalate] using holds
      | cons next words =>
          have later := ih last.2
          obtain ⟨rest, c, rfl, -⟩ := last.2 next List.mem_cons_self
          have some_ : [' '].intercalate ((rest ++ [c]) :: words) ≠ [] := by
            cases words <;> simp [List.intercalate]
          rw [intercalate_cons_cons, List.getLast?_append_cons, List.getLast?_cons]
          rw [List.getLast?_eq_some_getLast some_] at later ⊢
          exact later

end StorageBallast.UnitFiles
