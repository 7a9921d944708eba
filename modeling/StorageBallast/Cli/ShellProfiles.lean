import StorageBallast.Foundations.BufferedOutput
import StorageBallast.Foundations.Paths
import StorageBallast.Foundations.Texts

/-! The repair of shell profiles. A profile's lines that set `PATH` for `sbh` are checked: where
there are several, all but the first are removed, and where there is one whose directory has no
`sbh`, it is removed.
-/

namespace StorageBallast.ShellProfile

open Texts WholeLines

inductive MigrationReason where
  | stalePathEntry
  | duplicatePathEntries
deriving DecidableEq, Repr

structure Footprint where
  path : PathBuf
  healthy : Bool
  issue : Option MigrationReason
  detail : Option String
deriving DecidableEq, Repr

inductive ActionKind where
  | removeProfileLine
  | deduplicateProfile
deriving DecidableEq, Repr

structure MigrationAction where
  kind : ActionKind
  reason : MigrationReason
  target : PathBuf
  description : String
deriving DecidableEq, Repr

/-- `str::lines`: a carriage return before the end of a line belongs to the end. -/
def lines (text : List Char) : List (List Char) :=
  (wholeLines '\n' text).map (stripReturn '\r')
    ++ if (splitLines '\n' text).2 = [] then [] else [(splitLines '\n' text).2]

def isSbhPathLine (line : List Char) : Bool :=
  let trimmed := String.ofList (line.dropWhile isWhitespace)
  (startsWith trimmed "export PATH=" || startsWith trimmed "PATH=")
    && contains (String.ofList line) "sbh"

/-- The directory of a line such as `export PATH="<dir>:$PATH"`. -/
def extractPathDirFromExport (line : List Char) : Option String :=
  let trimmed := trim (String.ofList line)
  let dirAfter (start : String) :=
    (stripPrefix trimmed start).bind fun afterEq =>
      (splitOnce ':' afterEq.toList).map fun (dir, _) => String.ofList dir
  (dirAfter "export PATH=\"").or (dirAfter "export PATH='")

def checkProfileHealth (present : PathBuf → Bool) (sbhLines : List (List Char))
    : Bool × Option MigrationReason × Option String :=
  if 1 < sbhLines.length then
    (false, some .duplicatePathEntries,
      some ("found " ++ toString sbhLines.length ++ " sbh PATH entries, expected at most 1"))
  else
    match sbhLines.head?.bind extractPathDirFromExport with
    | some dir =>
        if present ((PathBuf.mk dir).join "sbh") then (true, none, none)
        else
          (false, some .stalePathEntry,
            some ("PATH entry references " ++ dir ++ " but sbh binary not found there"))
    | none => (true, none, none)

def sbhLines (text : List Char) : List (List Char) := (lines text).filter isSbhPathLine

/-- What `scan_footprints` finds in one profile. -/
def scanProfile (present : PathBuf → Bool) (profile : PathBuf) (text : List Char)
    : List Footprint :=
  if (sbhLines text).isEmpty then []
  else
    let (healthy, issue, detail) := checkProfileHealth present (sbhLines text)
    [⟨profile, healthy, issue, detail⟩]

/-- What `plan_actions` plans for a profile. -/
def planAction (footprint : Footprint) : Option MigrationAction :=
  match footprint.issue with
  | some .stalePathEntry => some {
      kind := .removeProfileLine
      reason := .stalePathEntry
      target := footprint.path
      description := "remove stale PATH entry from " ++ footprint.path.text }
  | some .duplicatePathEntries => some {
      kind := .deduplicateProfile
      reason := .duplicatePathEntries
      target := footprint.path
      description := "deduplicate sbh PATH entries in " ++ footprint.path.text }
  | none => none

def applyRemoveProfileLine (text : List Char) : List Char :=
  joinLines '\n' ((lines text).filter fun line => !isSbhPathLine line)

/-- The filter of `apply_deduplicate_profile`, which notes whether it has seen such a line. -/
def withoutDuplicates : Bool → List (List Char) → List (List Char)
  | _, [] => []
  | seenSbhPath, line :: rest =>
      if isSbhPathLine line then
        if seenSbhPath then withoutDuplicates seenSbhPath rest
        else line :: withoutDuplicates true rest
      else line :: withoutDuplicates seenSbhPath rest

def applyDeduplicateProfile (text : List Char) : List Char :=
  joinLines '\n' (withoutDuplicates false (lines text))

def applyAction (action : MigrationAction) (text : List Char) : List Char :=
  match action.kind with
  | .removeProfileLine => applyRemoveProfileLine text
  | .deduplicateProfile => applyDeduplicateProfile text

def repair (present : PathBuf → Bool) (profile : PathBuf) (text : List Char)
    : Option (List Char) :=
  match (scanProfile present profile text).filterMap planAction with
  | [] => none
  | actions => some (actions.foldl (fun reached action => applyAction action reached) text)

/-- Repairs until none is planned, with the texts they write. -/
inductive Repairs (present : PathBuf → Bool) (profile : PathBuf)
    : List Char → List (List Char) → Prop where
  | settled {text : List Char} (unplanned : repair present profile text = none)
    : Repairs present profile text []
  | repaired {text next : List Char} {written : List (List Char)}
    (planned : repair present profile text = some next)
    (later : Repairs present profile next written)
    : Repairs present profile text (next :: written)

/-- What the repairs are about: which paths exist, and the directories that a shell puts on
`PATH` as it reads a line.
-/
structure ShellWorld where
  present : PathBuf → Bool
  puts : List Char → PathBuf → Prop
  blank : ∀ dir, ¬puts [] dir

namespace ShellWorld

variable (world : ShellWorld)

def OnPath (text : List Char) (dir : PathBuf) : Prop :=
  ∃ line ∈ allLines '\n' text, world.puts line dir

def OnPathForSbh (text : List Char) (dir : PathBuf) : Prop :=
  ∃ line ∈ allLines '\n' text, isSbhPathLine line = true ∧ world.puts line dir

end ShellWorld

/-- The lines that do not set `PATH` for `sbh`, with their carriage returns. -/
def otherLines (text : List Char) : List (List Char) :=
  (allLines '\n' text).filter fun line => !isSbhPathLine line

/-- Repairing ends, keeps what is not its own, leaves a directory with `sbh` on `PATH`, and
writes nothing where there is no issue.
-/
def RepairedSafely (world : ShellWorld) (profile : PathBuf) (text : List Char) : Prop :=
  ∃ written, Repairs world.present profile text written
    ∧ (otherLines text).Sublist (otherLines (written.getLast?.getD text))
    ∧ (∀ dir, world.present (dir.join "sbh") = true → world.OnPathForSbh text dir
        → world.OnPath (written.getLast?.getD text) dir)
    ∧ ((∀ footprint ∈ scanProfile world.present profile text, footprint.issue = none)
        → written = [])

/-- The line names a directory that has no `sbh`. -/
def stale (present : PathBuf → Bool) (line : List Char) : Bool :=
  match extractPathDirFromExport line with
  | some dir => !present ((PathBuf.mk dir).join "sbh")
  | none => false

/-- The first line that sets `PATH` for `sbh` is stale. -/
def firstStale (present : PathBuf → Bool) (text : List Char) : Bool :=
  (sbhLines text).head?.any (stale present)

def hasIssue (present : PathBuf → Bool) (text : List Char) : Bool :=
  decide (1 < (sbhLines text).length) || firstStale present text

def stayingLines (present : PathBuf → Bool) (text : List Char) : List (List Char) :=
  otherLines text ++ if firstStale present text then [] else (sbhLines text).take 1

/-- What repairs need of a text. The last line ends with a carriage return only for a second
repair, since the first one has put an end to it.
-/
structure Repairable (world : ShellWorld) (text : List Char) : Prop where
  unreturned
    : ∀ line ∈ wholeLines '\n' text, isSbhPathLine line = false → line.getLast? ≠ some '\r'
  unreturnedTwice
    : 1 < (sbhLines text).length → firstStale world.present text = true
      → ∀ line ∈ otherLines text, line.getLast? ≠ some '\r'
  replaced
    : ∀ dir, world.present (dir.join "sbh") = true → world.OnPathForSbh text dir
      → ∃ line ∈ stayingLines world.present text, world.puts line dir

theorem isPrefixOf_concat {start line : List Char} {c : Char} (free : c ∉ start)
    : start.isPrefixOf (line ++ [c]) = start.isPrefixOf line := by
  rw [Bool.eq_iff_iff, List.isPrefixOf_iff_prefix, List.isPrefixOf_iff_prefix,
    List.prefix_concat_iff]
  constructor
  · rintro (rfl | front)
    · exact absurd (List.mem_append_right line List.mem_cons_self) free
    · exact front
  · exact .inr

theorem contains_concat {part : String} {line : List Char} {c : Char} (free : c ∉ part.toList)
    (nonempty : part.toList ≠ [])
    : contains (String.ofList (line ++ [c])) part = contains (String.ofList line) part := by
  simp only [contains, String.toList_ofList]
  induction line with
  | nil =>
      have alone : part.toList.isPrefixOf ([] ++ [c]) = part.toList.isPrefixOf [] :=
        isPrefixOf_concat free
      have none : part.toList.isPrefixOf [] = false := by
        cases chars : part.toList with
        | nil => exact absurd chars nonempty
        | cons => rfl
      rw [none] at alone
      simp only [List.nil_append, List.tails, List.any_cons, List.any_nil] at alone ⊢
      rw [alone, none]
      rfl
  | cons d line ih =>
      have front := @isPrefixOf_concat _ (d :: line) _ free
      simp only [List.cons_append, List.tails, List.any_cons] at front ih ⊢
      rw [front, ih]

/-- White space at the end is no part of what follows leading white space. -/
theorem dropWhile_concat {line : List Char} {c : Char} (white : isWhitespace c = true)
    : (line ++ [c]).dropWhile isWhitespace = []
        ∧ line.dropWhile isWhitespace = []
      ∨ (line ++ [c]).dropWhile isWhitespace = line.dropWhile isWhitespace ++ [c] := by
  rw [List.dropWhile_append]
  split
  next all =>
    refine .inl ⟨?_, List.isEmpty_iff.mp all⟩
    simp [white]
  next => exact .inr rfl

theorem isSbhPathLine_concat (line : List Char)
    : isSbhPathLine (line ++ ['\r']) = isSbhPathLine line := by
  have white : isWhitespace '\r' = true := by decide
  unfold isSbhPathLine startsWith
  simp only [String.toList_ofList]
  rw [contains_concat (by decide) (by decide)]
  rcases @dropWhile_concat line _ white with ⟨longer, shorter⟩ | longer
  · rw [longer, shorter]
  · rw [longer, isPrefixOf_concat (by decide), isPrefixOf_concat (by decide)]

theorem trim_concat (line : List Char)
    : trim (String.ofList (line ++ ['\r'])) = trim (String.ofList line) := by
  have white : isWhitespace '\r' = true := by decide
  simp only [trim, trimEndMatches, String.toList_ofList]
  rcases @dropWhile_concat line _ white with ⟨longer, shorter⟩ | longer
  · rw [longer, shorter]
  · rw [longer, List.reverse_append, List.reverse_singleton, List.singleton_append,
      List.dropWhile_cons_of_pos white]

@[simp] theorem isSbhPathLine_stripReturn (line : List Char)
    : isSbhPathLine (stripReturn '\r' line) = isSbhPathLine line :=
  apply_stripReturn isSbhPathLine_concat line

@[simp] theorem stale_stripReturn (present : PathBuf → Bool) (line : List Char)
    : stale present (stripReturn '\r' line) = stale present line := by
  refine apply_stripReturn (fun line => ?_) line
  simp only [stale, extractPathDirFromExport, trim_concat]

theorem unended_of_mem_lines {text line : List Char} (member : line ∈ lines text)
    : '\n' ∉ line := by
  obtain ⟨wholeUnended, restUnended⟩ := @not_mem_of_mem_splitLines _ _ '\n' text
  rcases List.mem_append.mp member with inWhole | inRest
  · obtain ⟨whole, among, rfl⟩ := List.mem_map.mp inWhole
    exact not_mem_stripReturn (wholeUnended whole among)
  · split at inRest
    next => cases inRest
    next => exact List.mem_singleton.mp inRest ▸ restUnended

variable {written : List (List Char)}

theorem allLines_joinLines (unended : ∀ line ∈ written, '\n' ∉ line)
    : allLines '\n' (joinLines '\n' written) = if written = [] then [[]] else written := by
  rw [allLines, wholeLines, splitLines_joinLines unended, if_pos rfl, List.append_nil]

theorem lines_joinLines (unended : ∀ line ∈ written, '\n' ∉ line)
    : lines (joinLines '\n' written)
      = if written = [] then [[]] else written.map (stripReturn '\r') := by
  rw [lines, wholeLines, splitLines_joinLines unended, if_pos rfl, List.append_nil]
  split <;> rfl

theorem sbhLines_joinLines (unended : ∀ line ∈ written, '\n' ∉ line)
    : sbhLines (joinLines '\n' written)
      = (written.filter isSbhPathLine).map (stripReturn '\r') := by
  rw [sbhLines, lines_joinLines unended]
  split
  next empty =>
    rw [empty]
    rfl
  next =>
    rw [List.filter_map]
    congr 1
    exact List.filter_congr fun line _ => isSbhPathLine_stripReturn line

theorem withoutDuplicates_filter_other (seen : Bool) (all : List (List Char))
    : (withoutDuplicates seen all).filter (fun line => !isSbhPathLine line)
      = all.filter fun line => !isSbhPathLine line := by
  induction all generalizing seen with
  | nil => rfl
  | cons line all ih =>
      cases own : isSbhPathLine line <;> cases seen <;> simp [withoutDuplicates, own, ih]

theorem withoutDuplicates_filter_sbh (seen : Bool) (all : List (List Char))
    : (withoutDuplicates seen all).filter isSbhPathLine
      = (all.filter isSbhPathLine).take (if seen then 0 else 1) := by
  induction all generalizing seen with
  | nil => cases seen <;> rfl
  | cons line all ih =>
      cases own : isSbhPathLine line <;> cases seen <;> simp [withoutDuplicates, own, ih]

theorem withoutDuplicates_sublist (seen : Bool) (all : List (List Char))
    : (withoutDuplicates seen all).Sublist all := by
  induction all generalizing seen with
  | nil => exact .slnil
  | cons line all ih =>
      unfold withoutDuplicates
      split
      next =>
        split
        next => exact (ih seen).cons line
        next => exact (ih true).cons_cons line
      next => exact (ih seen).cons_cons line

section Repairing

variable {present : PathBuf → Bool} {profile : PathBuf} {text : List Char}

theorem sbhLines_applyRemoveProfileLine (text : List Char)
    : sbhLines (applyRemoveProfileLine text) = [] := by
  unfold applyRemoveProfileLine
  rw [sbhLines_joinLines fun _ member => unended_of_mem_lines (List.mem_of_mem_filter member),
    List.filter_filter]
  simp

theorem sbhLines_applyDeduplicateProfile (text : List Char)
    : sbhLines (applyDeduplicateProfile text)
      = ((sbhLines text).take 1).map (stripReturn '\r') := by
  unfold applyDeduplicateProfile
  rw [sbhLines_joinLines fun _ member =>
    unended_of_mem_lines ((withoutDuplicates_sublist ..).subset member),
    withoutDuplicates_filter_sbh]
  rfl

theorem repair_of_many (many : 1 < (sbhLines text).length)
    : repair present profile text = some (applyDeduplicateProfile text) := by
  have nonempty : (sbhLines text).isEmpty = false := by
    cases found : sbhLines text with
    | nil => simp [found] at many
    | cons => rfl
  simp [repair, scanProfile, nonempty, checkProfileHealth, many, planAction, applyAction]

theorem repair_of_stale {line : List Char} (alone : sbhLines text = [line])
    (isStale : stale present line = true)
    : repair present profile text = some (applyRemoveProfileLine text) := by
  unfold stale at isStale
  cases dir : extractPathDirFromExport line with
  | none => simp [dir] at isStale
  | some dir_ =>
      simp only [dir, Bool.not_eq_eq_eq_not, Bool.not_true] at isStale
      simp [repair, scanProfile, alone, checkProfileHealth, dir, isStale, planAction, applyAction]

theorem repair_of_clean
    (clean : ∀ footprint ∈ scanProfile present profile text, footprint.issue = none)
    : repair present profile text = none := by
  have unplanned : (scanProfile present profile text).filterMap planAction = [] := by
    rw [List.filterMap_eq_nil_iff]
    intro footprint member
    rw [planAction, clean footprint member]
  rw [repair, unplanned]

theorem repair_of_healthy (healthy : hasIssue present text = false)
    : repair present profile text = none := by
  apply repair_of_clean
  simp only [hasIssue, Bool.or_eq_false_iff, decide_eq_false_iff_not] at healthy
  obtain ⟨few, fresh⟩ := healthy
  cases found : sbhLines text with
  | nil => simp [scanProfile, found]
  | cons line rest =>
      have alone : rest = [] := by
        rw [found, List.length_cons] at few
        exact List.length_eq_zero_iff.mp (by omega)
      subst alone
      simp only [firstStale, found, List.head?_cons, Option.any_some, stale] at fresh
      cases dir : extractPathDirFromExport line with
      | none => simp [scanProfile, found, checkProfileHealth, dir]
      | some dir_ =>
          simp only [dir, Bool.not_eq_eq_eq_not, Bool.not_false] at fresh
          simp [scanProfile, found, checkProfileHealth, dir, fresh]

theorem hasIssue_applyRemoveProfileLine (text : List Char)
    : hasIssue present (applyRemoveProfileLine text) = false := by
  simp [hasIssue, firstStale, sbhLines_applyRemoveProfileLine]

theorem firstStale_applyDeduplicateProfile (text : List Char)
    : firstStale present (applyDeduplicateProfile text) = firstStale present text := by
  unfold firstStale
  rw [sbhLines_applyDeduplicateProfile]
  cases sbhLines text with
  | nil => rfl
  | cons line => simp

def repairedText (present : PathBuf → Bool) (text : List Char) : List Char :=
  if 1 < (sbhLines text).length then
    if firstStale present text then applyRemoveProfileLine (applyDeduplicateProfile text)
    else applyDeduplicateProfile text
  else if firstStale present text then applyRemoveProfileLine text
  else text

theorem repairs_of_stale (alone : (sbhLines text).length ≤ 1)
    (isStale : firstStale present text = true)
    : Repairs present profile text [applyRemoveProfileLine text] := by
  have removed : repair present profile text = some (applyRemoveProfileLine text) := by
    cases found : sbhLines text with
    | nil => simp [firstStale, found] at isStale
    | cons line rest =>
        have last : rest = [] := by
          rw [found, List.length_cons] at alone
          exact List.length_eq_zero_iff.mp (by omega)
        subst last
        refine repair_of_stale found ?_
        simpa [firstStale, found] using isStale
  exact .repaired removed (.settled (repair_of_healthy (hasIssue_applyRemoveProfileLine text)))

/-- Repairing ends for every text, with the text that all repairs lead to. -/
theorem exists_repairs (present : PathBuf → Bool) (profile : PathBuf) (text : List Char)
    : ∃ written, Repairs present profile text written
      ∧ written.getLast?.getD text = repairedText present text := by
  unfold repairedText
  by_cases many : 1 < (sbhLines text).length
  · have once := @repair_of_many present profile _ many
    have few : (sbhLines (applyDeduplicateProfile text)).length ≤ 1 := by
      rw [sbhLines_applyDeduplicateProfile, List.length_map, List.length_take]
      omega
    rw [if_pos many]
    cases isStale : firstStale present text with
    | true =>
        refine ⟨_, .repaired once (repairs_of_stale few ?_), rfl⟩
        rw [firstStale_applyDeduplicateProfile, isStale]
    | false =>
        refine ⟨_, .repaired once (.settled (repair_of_healthy ?_)), rfl⟩
        simp only [hasIssue, firstStale_applyDeduplicateProfile, isStale, Bool.or_false,
          decide_eq_false_iff_not]
        omega
  · rw [if_neg many]
    cases isStale : firstStale present text with
    | true => exact ⟨_, repairs_of_stale (by omega) isStale, rfl⟩
    | false =>
        have healthy : hasIssue present text = false := by simp [hasIssue, many, isStale]
        exact ⟨[], .settled (repair_of_healthy healthy), rfl⟩

theorem Repairs.unique {written other : List (List Char)}
    (repairs : Repairs present profile text written)
    (others : Repairs present profile text other) : written = other := by
  induction repairs generalizing other with
  | settled unplanned =>
      cases others with
      | settled => rfl
      | repaired planned => rw [unplanned] at planned; cases planned
  | repaired planned _ ih =>
      cases others with
      | settled unplanned => rw [unplanned] at planned; cases planned
      | repaired same later =>
          obtain rfl := Option.some.inj (planned.symm.trans same)
          rw [ih later]

theorem repairedSafely_iff (world : ShellWorld)
    : RepairedSafely world profile text
      ↔ (otherLines text).Sublist (otherLines (repairedText world.present text))
        ∧ ∀ dir, world.present (dir.join "sbh") = true → world.OnPathForSbh text dir
          → world.OnPath (repairedText world.present text) dir := by
  obtain ⟨written, repairs, reached⟩ := exists_repairs world.present profile text
  constructor
  · rintro ⟨other, others, kept, left, _⟩
    obtain rfl := repairs.unique others
    rw [reached] at kept left
    exact ⟨kept, left⟩
  · rintro ⟨kept, left⟩
    refine ⟨written, repairs, by rwa [reached], by rwa [reached], fun clean => ?_⟩
    exact repairs.unique (.settled (repair_of_clean clean))

end Repairing

/-- A text that was written has kept the other lines if its lines are these, since there are as
many of them.
-/
theorem sublist_joinLines_iff {others written : List (List Char)}
    (unended : ∀ line ∈ written, '\n' ∉ line)
    (asMany : (written.filter fun line => !isSbhPathLine line).length = others.length)
    : others.Sublist (otherLines (joinLines '\n' written))
      ↔ others = written.filter fun line => !isSbhPathLine line := by
  rw [otherLines, allLines_joinLines unended]
  split
  next empty =>
    subst empty
    obtain rfl : others = [] := List.length_eq_zero_iff.mp asMany.symm
    exact iff_of_true (List.nil_sublist _) rfl
  next =>
    constructor
    · exact fun kept => kept.eq_of_length asMany.symm
    · exact fun same => same ▸ List.Sublist.refl _

theorem onPath_joinLines {world : ShellWorld} {dir : PathBuf}
    (unended : ∀ line ∈ written, '\n' ∉ line)
    : world.OnPath (joinLines '\n' written) dir ↔ ∃ line ∈ written, world.puts line dir := by
  rw [ShellWorld.OnPath, allLines_joinLines unended]
  split
  next empty =>
    subst empty
    simp [world.blank dir]
  next => rfl

theorem filter_other_map_stripReturn (all : List (List Char))
    : (all.map (stripReturn '\r')).filter (fun line => !isSbhPathLine line)
      = (all.filter fun line => !isSbhPathLine line).map (stripReturn '\r') := by
  rw [List.filter_map]
  congr 1
  exact List.filter_congr fun line _ => congrArg Bool.not (isSbhPathLine_stripReturn line)

theorem length_filter_other_lines (text : List Char)
    : ((lines text).filter fun line => !isSbhPathLine line).length
      = (otherLines text).length := by
  rw [lines, otherLines, allLines, List.filter_append, List.filter_append,
    filter_other_map_stripReturn, List.length_append, List.length_append, List.length_map]

theorem map_eq_self_iff {α : Type*} {f : α → α} {all : List α}
    : all.map f = all ↔ ∀ a ∈ all, f a = a := by
  conv_lhs => rhs; rw [← List.map_id all]
  rw [List.map_eq_map_iff]
  rfl

variable {text : List Char}

/-- One repair keeps the other lines if none that is ended has a carriage return. -/
theorem otherLines_eq_lines_iff
    : otherLines text = (lines text).filter (fun line => !isSbhPathLine line)
      ↔ ∀ line ∈ wholeLines '\n' text, isSbhPathLine line = false
        → line.getLast? ≠ some '\r' := by
  rw [lines, otherLines, allLines, List.filter_append, List.filter_append,
    filter_other_map_stripReturn, List.append_left_inj, eq_comm, map_eq_self_iff]
  simp [stripReturn_eq_self_iff]

/-- Two repairs keep the other lines if none at all has a carriage return. -/
theorem otherLines_eq_map_lines_iff
    : otherLines text
        = ((lines text).filter fun line => !isSbhPathLine line).map (stripReturn '\r')
      ↔ ∀ line ∈ otherLines text, line.getLast? ≠ some '\r' := by
  have parts : otherLines text
      = ((wholeLines '\n' text).filter fun line => !isSbhPathLine line)
        ++ (if (splitLines '\n' text).2 = [] then []
          else [(splitLines '\n' text).2]).filter fun line => !isSbhPathLine line := by
    rw [otherLines, allLines, List.filter_append]
  rw [lines, List.filter_append, filter_other_map_stripReturn, List.map_append, List.map_map,
    parts]
  constructor
  · intro same line member
    obtain ⟨wholes, rests⟩ := List.append_inj same (by rw [List.length_map])
    rcases List.mem_append.mp member with inWhole | inRest
    · exact stripReturn_stripReturn_eq_self_iff.mp (map_eq_self_iff.mp wholes.symm line inWhole)
    · exact stripReturn_eq_self_iff.mp (map_eq_self_iff.mp rests.symm line inRest)
  · intro plain
    have wholes := map_eq_self_iff.mpr fun line inWhole =>
      stripReturn_stripReturn_eq_self_iff.mpr (plain line (List.mem_append_left _ inWhole))
    have rests := map_eq_self_iff.mpr fun line inRest =>
      stripReturn_eq_self_iff.mpr (plain line (List.mem_append_right _ inRest))
    exact (congrArg₂ _ wholes rests).symm

def leftLines (present : PathBuf → Bool) (text : List Char) : List (List Char) :=
  if firstStale present text then
    if 1 < (sbhLines text).length then
      ((lines text).filter fun line => !isSbhPathLine line).map (stripReturn '\r')
    else (lines text).filter fun line => !isSbhPathLine line
  else withoutDuplicates false (lines text)

variable {present : PathBuf → Bool}

theorem unended_of_mem_leftLines {text line : List Char}
    (member : line ∈ leftLines present text) : '\n' ∉ line := by
  unfold leftLines at member
  split at member
  next =>
    split at member
    next =>
      obtain ⟨whole, among, rfl⟩ := List.mem_map.mp member
      exact not_mem_stripReturn (unended_of_mem_lines (List.mem_of_mem_filter among))
    next => exact unended_of_mem_lines (List.mem_of_mem_filter member)
  next => exact unended_of_mem_lines ((withoutDuplicates_sublist ..).subset member)

theorem repairedText_of_issue (issue : hasIssue present text = true)
    : repairedText present text = joinLines '\n' (leftLines present text) := by
  unfold repairedText leftLines
  by_cases many : 1 < (sbhLines text).length
  · rw [if_pos many, if_pos many]
    split
    next =>
      have unended : ∀ line ∈ withoutDuplicates false (lines text), '\n' ∉ line :=
        fun _ member => unended_of_mem_lines ((withoutDuplicates_sublist ..).subset member)
      have nonempty : withoutDuplicates false (lines text) ≠ [] := by
        intro empty
        have none := withoutDuplicates_filter_sbh false (lines text)
        rw [empty] at none
        have some_ : (sbhLines text).take 1 = [] := none.symm
        rw [List.take_eq_nil_iff] at some_
        rcases some_ with never | none
        · cases never
        · simp [none] at many
      rw [applyRemoveProfileLine, applyDeduplicateProfile, lines_joinLines unended,
        if_neg nonempty, filter_other_map_stripReturn, withoutDuplicates_filter_other]
    next => rfl
  · have isStale : firstStale present text = true := by simpa [hasIssue, many] using issue
    rw [if_neg many, if_neg many, if_pos isStale, if_pos isStale]
    rfl

theorem filter_other_leftLines
    : (leftLines present text).filter (fun line => !isSbhPathLine line)
      = if firstStale present text ∧ 1 < (sbhLines text).length then
          ((lines text).filter fun line => !isSbhPathLine line).map (stripReturn '\r')
        else (lines text).filter fun line => !isSbhPathLine line := by
  unfold leftLines
  by_cases isStale : firstStale present text = true
  · by_cases many : 1 < (sbhLines text).length
    · rw [if_pos isStale, if_pos many, if_pos ⟨isStale, many⟩, filter_other_map_stripReturn,
        List.filter_filter]
      simp
    · rw [if_pos isStale, if_neg many, if_neg fun both => many both.2, List.filter_filter]
      simp
  · rw [if_neg isStale, if_neg fun both => isStale both.1, withoutDuplicates_filter_other]

/-- The other lines are kept if and only if their carriage returns are not in the way. -/
theorem kept_iff (issue : hasIssue present text = true)
    : (otherLines text).Sublist (otherLines (repairedText present text))
      ↔ otherLines text
        = (leftLines present text).filter fun line => !isSbhPathLine line := by
  rw [repairedText_of_issue issue]
  refine sublist_joinLines_iff (fun _ => unended_of_mem_leftLines) ?_
  rw [filter_other_leftLines, ← length_filter_other_lines]
  split
  next => rw [List.length_map]
  next => rfl

theorem unreturned_iff
    : (otherLines text = (leftLines present text).filter fun line => !isSbhPathLine line)
      ↔ (∀ line ∈ wholeLines '\n' text, isSbhPathLine line = false
          → line.getLast? ≠ some '\r')
        ∧ (1 < (sbhLines text).length → firstStale present text = true
          → ∀ line ∈ otherLines text, line.getLast? ≠ some '\r') := by
  rw [filter_other_leftLines]
  split
  next both =>
    rw [otherLines_eq_map_lines_iff]
    constructor
    · refine fun plain => ⟨fun line inWhole other => plain line ?_, fun _ _ => plain⟩
      refine List.mem_filter.mpr ⟨List.mem_append_left _ inWhole, ?_⟩
      simp [other]
    · exact fun plain => plain.2 both.2 both.1
  next one =>
    rw [otherLines_eq_lines_iff]
    exact ⟨fun plain => ⟨plain, fun many isStale => absurd ⟨isStale, many⟩ one⟩, And.left⟩

/-- If the other lines are as they were, the lines that are left are the ones that stay. -/
theorem mem_leftLines_iff {text line : List Char}
    (kept : otherLines text
      = (leftLines present text).filter fun line => !isSbhPathLine line)
    : line ∈ leftLines present text ↔ line ∈ stayingLines present text := by
  have own : (leftLines present text).filter isSbhPathLine
      = if firstStale present text then [] else (sbhLines text).take 1 := by
    unfold leftLines
    split
    next =>
      split
      next =>
        rw [List.filter_eq_nil_iff]
        rintro _ member
        obtain ⟨line, among, rfl⟩ := List.mem_map.mp member
        simpa using List.of_mem_filter among
      next =>
        rw [List.filter_filter]
        simp
    next => exact withoutDuplicates_filter_sbh false (lines text)
  rw [stayingLines, kept, ← own, List.mem_append, List.mem_filter, List.mem_filter]
  cases isSbhPathLine line <;> simp

/-- Repairing is safe if and only if there is nothing to repair, or no line that is to stay loses a
carriage return and each directory with `sbh` is on `PATH` through a line that stays.
-/
theorem repairedSafely_iff_repairable {world : ShellWorld} {profile : PathBuf} {text : List Char}
    : RepairedSafely world profile text
      ↔ (hasIssue world.present text = true → Repairable world text) := by
  rw [repairedSafely_iff]
  cases issue : hasIssue world.present text with
  | false =>
      have same : repairedText world.present text = text := by
        simp only [hasIssue, Bool.or_eq_false_iff, decide_eq_false_iff_not] at issue
        simp [repairedText, issue]
      rw [same]
      refine iff_of_true ⟨List.Sublist.refl _, ?_⟩ nofun
      rintro dir _ ⟨line, member, _, puts⟩
      exact ⟨line, member, puts⟩
  | true =>
      rw [kept_iff issue]
      constructor
      · rintro ⟨kept, left⟩ _
        obtain ⟨unreturned, unreturnedTwice⟩ := unreturned_iff.mp kept
        refine ⟨unreturned, unreturnedTwice, fun dir holds before => ?_⟩
        have after := left dir holds before
        rw [repairedText_of_issue issue, onPath_joinLines fun _ => unended_of_mem_leftLines]
          at after
        simpa only [mem_leftLines_iff kept] using after
      · intro repairable
        obtain ⟨unreturned, unreturnedTwice, replaced⟩ := repairable rfl
        have kept := unreturned_iff.mpr ⟨unreturned, unreturnedTwice⟩
        refine ⟨kept, fun dir holds before => ?_⟩
        rw [repairedText_of_issue issue, onPath_joinLines fun _ => unended_of_mem_leftLines]
        simpa only [mem_leftLines_iff kept] using replaced dir holds before

/-- A shell that reads a line as the check does, where `/new` has `sbh` and `/old` has not. -/
def movedWorld : ShellWorld where
  present path := path.text == "/new/sbh"
  puts line dir := extractPathDirFromExport line = some dir.text
  blank _ := by
    have none : extractPathDirFromExport [] = Option.none := by decide
    rw [none]
    nofun

def movedProfile : List Char :=
  "export PATH=\"/old:$PATH\" # sbh\nexport PATH=\"/new:$PATH\" # sbh\n".toList

/-- The line with the directory that has `sbh` is removed as a duplicate of the line that is
removed next.
-/
theorem live_directory_lost
    : ¬ ∀ (world : ShellWorld) (profile : PathBuf) (text : List Char),
      RepairedSafely world profile text := by
  intro safe
  have left := (repairedSafely_iff movedWorld).mp (safe movedWorld ⟨"/.bashrc"⟩ movedProfile) |>.2
  have repaired : repairedText movedWorld.present movedProfile = ['\n'] := by decide +kernel
  have before : movedWorld.OnPathForSbh movedProfile ⟨"/new"⟩ :=
    ⟨"export PATH=\"/new:$PATH\" # sbh".toList, by decide +kernel, by decide +kernel,
      by unfold movedWorld; decide +kernel⟩
  obtain ⟨line, member, puts⟩ := left ⟨"/new"⟩ (by decide +kernel) before
  rw [repaired] at member
  have blank : line = [] := List.mem_singleton.mp member
  exact movedWorld.blank _ (blank ▸ puts)

end StorageBallast.ShellProfile
