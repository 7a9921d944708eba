import Mathlib.Data.List.Forall2
import StorageBallast.Scanner.TruncationRuns

/-! Which paths the expansion of a pattern lists, and which files a sweep of log truncation may
cut: regular files that a pattern names segment by segment, without a link on the way, of the
minimum size, and above the ceiling of free space of the minimum age.
-/

namespace StorageBallast.LogTruncator

/-- A segment without a wildcard is the name. One with a wildcard matches the name as it reads,
and a hidden name only with a dot in front.
-/
def SegmentNames (segment : List UInt8) (name : OsName) : Prop :=
  if wildcard ∈ segment then
    ((LossyText.toStringLossy name).head? = some 46 → segment.head? = some 46)
      ∧ StarGlobs.Matches wildcard segment (LossyText.toStringLossy name)
  else name = segment

def PatternNames (pattern : String) (path : OsPath) : Prop :=
  (Texts.bytes pattern).head? = some 47 ∧ List.Forall₂ SegmentNames (patternSegments pattern) path

theorem segmentMatches_iff {segment name : List UInt8}
    : segmentMatches segment name = true
      ↔ (name.head? = some 46 → segment.head? = some 46)
        ∧ StarGlobs.Matches wildcard segment name := by
  unfold segmentMatches
  split
  · rename_i hidden
    exact iff_of_false nofun fun both => hidden.2 (both.1 hidden.1)
  · rename_i allowed
    rw [StarGlobs.globMatch_iff, iff_and_self]
    intro _ dotted
    by_contra undotted
    exact allowed ⟨dotted, undotted⟩

/-- A name is found behind a prefix: one for a wildcard in the list of the directory there, any
other as a path.
-/
def FindsName (tree : LogTree) (prefix_ : OsPath) (segment : List UInt8) (name : OsName) : Prop :=
  if wildcard ∈ segment then
    ∃ listed, tree.readDir parentDirName prefix_ = some listed ∧ name ∈ listed
  else (tree.lstat parentDirName (prefix_ ++ [name])).isSome = true

def Finds (tree : LogTree) : OsPath → List (List UInt8) → List OsName → Prop
  | prefix_, segment :: segments, name :: names =>
      FindsName tree prefix_ segment name ∧ Finds tree (prefix_ ++ [name]) segments names
  | _, _, _ => True

variable {tree : LogTree} {segments : List (List UInt8)}

/-- Expansion extends the prefix by the names that the segments name and that are found, by
induction on the segments.
-/
theorem mem_expandRecursive_iff {prefix_ path : OsPath}
    : path ∈ expandRecursive tree prefix_ segments
      ↔ ∃ names, path = prefix_ ++ names ∧ List.Forall₂ SegmentNames segments names
          ∧ Finds tree prefix_ segments names := by
  induction segments generalizing prefix_ with
  | nil => simp [expandRecursive, Finds]
  | cons segment segments ih =>
      have step (name : OsName)
          : path ∈ expandRecursive tree (prefix_ ++ [name]) segments
            ↔ ∃ names, path = prefix_ ++ name :: names
                ∧ List.Forall₂ SegmentNames segments names
                ∧ Finds tree (prefix_ ++ [name]) segments names := by
        simp [ih]
      have found : (∃ names, path = prefix_ ++ names
            ∧ List.Forall₂ SegmentNames (segment :: segments) names
            ∧ Finds tree prefix_ (segment :: segments) names)
          ↔ ∃ name, SegmentNames segment name ∧ FindsName tree prefix_ segment name
            ∧ path ∈ expandRecursive tree (prefix_ ++ [name]) segments := by
        constructor
        · rintro ⟨_, same, all, finds⟩
          cases all with
          | @cons _ name _ names named rest =>
              exact ⟨name, named, finds.1, (step name).mpr ⟨names, same, rest, finds.2⟩⟩
        · rintro ⟨name, named, here, below⟩
          obtain ⟨names, same, rest, later⟩ := (step name).mp below
          exact ⟨name :: names, same, .cons named rest, here, later⟩
      rw [found, expandRecursive]
      by_cases starred : wildcard ∈ segment
      · rw [if_pos starred]
        simp only [SegmentNames, FindsName, if_pos starred]
        cases tree.readDir parentDirName prefix_ with
        | none => simp
        | some listed =>
            simp only [List.mem_flatMap, List.mem_ite_nil_right, segmentMatches_iff,
              Option.some.injEq, exists_eq_left']
            exact exists_congr fun name => and_left_comm
      · rw [if_neg starred]
        simp only [SegmentNames, FindsName, if_neg starred, exists_eq_left]
        cases tree.lstat parentDirName (prefix_ ++ [segment]) <;> simp

/-- Expansion extends the prefix by names that the segments name. -/
theorem mem_expandRecursive {prefix_ path : OsPath}
    (member : path ∈ expandRecursive tree prefix_ segments)
    : ∃ names, path = prefix_ ++ names ∧ List.Forall₂ SegmentNames segments names := by
  obtain ⟨names, same, named, -⟩ := mem_expandRecursive_iff.mp member
  exact ⟨names, same, named⟩

/-- Expansion lists what a pattern names and what is found for it. -/
theorem listed_iff {pattern : String} {path : OsPath}
    : (∃ paths, expandPattern tree pattern = .ok paths ∧ path ∈ paths)
      ↔ PatternNames pattern path ∧ Finds tree [] (patternSegments pattern) path := by
  unfold expandPattern PatternNames
  by_cases absolute : (Texts.bytes pattern).head? = some 47
  · simp [absolute, mem_expandRecursive_iff]
  · simp [absolute]

/-- Where every directory is open, what exists is found, by induction on the segments. -/
theorem finds_iff_exists (allOpen : tree.AllOpen) {names : List OsName}
    (named : List.Forall₂ (fun segment name => wildcard ∈ segment → name ≠ parentDirName)
      segments names)
    {prefix_ : OsPath} (there : (tree.lstat parentDirName prefix_).isSome = true)
    : Finds tree prefix_ segments names
      ↔ (tree.lstat parentDirName (prefix_ ++ names)).isSome = true := by
  induction named generalizing prefix_ with
  | nil => simpa [Finds] using there
  | @cons segment name segments names own rest ih =>
      have split : prefix_ ++ name :: names = (prefix_ ++ [name]) ++ names := by simp
      rw [Finds, split]
      constructor
      · rintro ⟨here, later⟩
        refine (ih ?_).mp later
        unfold FindsName at here
        split_ifs at here with starred
        · obtain ⟨listed, read, member⟩ := here
          exact FileTree.lstat_of_listed allOpen read member
        · exact here
      · intro whole
        have next := FileTree.lstat_of_append whole
        refine ⟨?_, (ih next).mpr whole⟩
        unfold FindsName
        split_ifs with starred
        · exact FileTree.listed_of_lstat allOpen (own starred) next
        · exact next

/-- The matcher decides whether a text is a pattern with bytes in the place of each star. An
expansion lists the paths that the pattern names and that are found, which are all that exist
where every directory is open.
-/
theorem expandPattern_exact
    : (∀ pattern text : List UInt8, StarGlobs.globMatch wildcard pattern text = true
          ↔ StarGlobs.Matches wildcard pattern text)
      ∧ ∀ (tree : LogTree) (pattern : String) (path : OsPath),
          ((∃ paths, expandPattern tree pattern = .ok paths ∧ path ∈ paths)
            ↔ PatternNames pattern path ∧ Finds tree [] (patternSegments pattern) path)
          ∧ (tree.AllOpen
            → List.Forall₂ (fun segment name => wildcard ∈ segment → name ≠ parentDirName)
                (patternSegments pattern) path
            → ((∃ paths, expandPattern tree pattern = .ok paths ∧ path ∈ paths)
                ↔ PatternNames pattern path ∧ (tree.lstat parentDirName path).isSome = true)) := by
  refine ⟨fun _ _ => StarGlobs.globMatch_iff, fun tree pattern path => ⟨listed_iff, ?_⟩⟩
  intro allOpen own
  have root : (tree.lstat parentDirName []).isSome = true := rfl
  rw [listed_iff, finds_iff_exists allOpen own root, List.nil_append]

def unreadNode : Nat → FileNode OsName
  | 0 => .directory true true 0 [(Texts.bytes "logs", 1)]
  | 1 => .directory false true 0 [(Texts.bytes "log", 2)]
  | _ => .file 100 0

def unreadTree : LogTree := ⟨0, unreadNode⟩

/-- The log exists and is named, but not listed. -/
theorem unread_log_unlisted
    : ¬ ∀ (tree : LogTree) (pattern : String) (path : OsPath),
        (∃ paths, expandPattern tree pattern = .ok paths ∧ path ∈ paths)
          ↔ PatternNames pattern path ∧ (tree.lstat parentDirName path).isSome = true := by
  intro claimed
  have segments : patternSegments "/logs/*" = [Texts.bytes "logs", [wildcard]] := by
    decide +kernel
  have matched : SegmentNames [wildcard] (Texts.bytes "log") := by
    unfold SegmentNames
    rw [if_pos List.mem_cons_self]
    exact ⟨by decide +kernel, StarGlobs.globMatch_iff.mp (by decide +kernel)⟩
  have named : PatternNames "/logs/*" [Texts.bytes "logs", Texts.bytes "log"] := by
    refine ⟨by decide +kernel, ?_⟩
    rw [segments]
    exact .cons (by unfold SegmentNames; rw [if_neg (by decide +kernel)])
      (.cons matched .nil)
  obtain ⟨paths, expanded, member⟩ :=
    (claimed unreadTree "/logs/*" [Texts.bytes "logs", Texts.bytes "log"]).mpr
      ⟨named, by decide +kernel⟩
  have none : expandPattern unreadTree "/logs/*" = .ok [] := by decide +kernel
  rw [none] at expanded
  cases expanded
  exact absurd member List.not_mem_nil

/-- Each candidate is named by a pattern of the configuration. -/
theorem candidate_named {config : LogTruncationConfig} {path : OsPath}
    (member : path ∈ candidates tree config)
    : ∃ pattern ∈ config.paths, PatternNames pattern path := by
  obtain ⟨pattern, configured, found⟩ := List.mem_flatMap.mp member
  refine ⟨pattern, configured, ?_⟩
  unfold expandPattern at found
  by_cases absolute : (Texts.bytes pattern).head? = some 47
  · rw [if_pos absolute] at found
    obtain ⟨names, rfl, named⟩ := mem_expandRecursive found
    exact ⟨absolute, named⟩
  · rw [if_neg absolute] at found
    cases found

def turns (again : Bool) : List Nat → List TruncationTarget → List TruncationTarget
  | _, [] => []
  | met, target :: targets =>
      if target.inode ∈ met then
        if again then target :: turns again met targets else turns again met targets
      else target :: turns again (target.inode :: met) targets

/-- The cuts are those of the turns, by induction on the targets. -/
theorem cuts_eq_turns (again : Bool) (targets : List TruncationTarget) (cutting : Cutting)
    : (targets.foldl (Cutting.meet again) cutting).cuts
      = cutting.cuts
        ++ (turns again cutting.met targets).map fun target => (target.path, target.inode) := by
  induction targets generalizing cutting with
  | nil => simp [turns]
  | cons target targets ih =>
      rw [List.foldl_cons, ih, turns]
      unfold Cutting.meet
      by_cases member : target.inode ∈ cutting.met
      · cases again <;> simp [member]
      · simp [member]

theorem mem_of_mem_turns {again : Bool} {met : List Nat} {targets : List TruncationTarget}
    {target : TruncationTarget} (member : target ∈ turns again met targets)
    : target ∈ targets := by
  induction targets generalizing met with
  | nil => cases member
  | cons first targets ih =>
      unfold turns at member
      split at member
      · split at member
        · rcases List.mem_cons.mp member with rfl | member
          · exact List.mem_cons_self
          · exact List.mem_cons_of_mem _ (ih member)
        · exact List.mem_cons_of_mem _ (ih member)
      · rcases List.mem_cons.mp member with rfl | member
        · exact List.mem_cons_self
        · exact List.mem_cons_of_mem _ (ih member)

section

variable {F : Type} [Float64 F]

def aboveCeiling (config : LogTruncationConfig) (freePct : F) : Bool :=
  !Float64.le freePct (Float64.ofNat config.pressureFreePctCeiling.toNat)

def OldEnough (config : LogTruncationConfig) (now modified : SystemTime) : Prop :=
  modified + (Duration.fromMins config.minAgeMinutes.toNat : Int) ≤ now

structure RightlyCut (tree : LogTree) (config : LogTruncationConfig) (freePct : F)
    (now : SystemTime) (path : OsPath) (inode : Nat) : Prop where
  unlinked : tree.walk parentDirName false tree.root path = some (.arrived inode)
  named : ∃ pattern ∈ config.paths, PatternNames pattern path
  regular : ∃ size modified, tree.node inode = .file size modified
    ∧ config.minSizeBytes ≤ size
    ∧ (aboveCeiling config freePct = true → OldEnough config now modified)

/-- No directory on the way is a link. Where age counts, the file does not date from the future
and the minimum age is no more seconds than 64 bits hold, or has passed all the same.
-/
def UprightTarget (tree : LogTree) (config : LogTruncationConfig) (freePct : F)
    (now : SystemTime) (target : TruncationTarget) : Prop :=
  tree.Plain parentDirName target.path
  ∧ (aboveCeiling config freePct = true →
      target.modified ≤ now
      ∧ (config.minAgeMinutes.toNat * 60 < 2 ^ 64 ∨ OldEnough config now target.modified))

/-- What the gates let through is old enough if no arithmetic goes wrong. -/
theorem oldEnough_of_passes {config : LogTruncationConfig} {freePct : F} {now : SystemTime}
    {size : UInt64} {modified : SystemTime}
    (passes : passesGates config (bypassesAgeGate config freePct) now size modified = true)
    (above : aboveCeiling config freePct = true) (past : modified ≤ now)
    (fits : config.minAgeMinutes.toNat * 60 < 2 ^ 64) : OldEnough config now modified := by
  unfold aboveCeiling at above
  rw [Bool.not_eq_true'] at above
  unfold passesGates bypassesAgeGate at passes
  rw [above, Bool.false_or] at passes
  have seconds : (config.minAgeMinutes * 60).toNat = config.minAgeMinutes.toNat * 60 := by
    rw [UInt64.toNat_mul]
    exact Nat.mod_eq_of_lt fits
  unfold OldEnough Duration.fromMins
  by_cases none : config.minAgeMinutes = 0
  · rw [none]
    simpa [Duration.fromSecs] using past
  · have positive : 0 < config.minAgeMinutes := by
      rw [UInt64.lt_iff_toNat_lt]
      exact Nat.pos_of_ne_zero fun zero => none (UInt64.toNat.inj zero)
    have aged : youngerThan now modified config.minAgeMinutes = false := by
      rw [Bool.and_eq_true] at passes
      simpa [none, positive] using passes.2
    unfold youngerThan at aged
    rw [seconds, decide_eq_true past, Bool.true_and, decide_eq_false_iff_not, Nat.not_lt] at aged
    have elapsed := Int.toNat_of_nonneg (Int.sub_nonneg_of_le past)
    have span := Int.ofNat_le.mpr aged
    rw [elapsed] at span
    exact Int.add_le_of_le_sub_left span

theorem rightlyCut_iff {tree : LogTree} {config : LogTruncationConfig} {freePct : F}
    {now : SystemTime} {path : OsPath} {target : TruncationTarget}
    (member : path ∈ candidates tree config)
    (found : target? tree config (bypassesAgeGate config freePct) now path = some target)
    : RightlyCut tree config freePct now target.path target.inode
      ↔ UprightTarget tree config freePct now target := by
  obtain ⟨there, file, same, passes⟩ := target?_eq_some found
  constructor
  · rintro ⟨unlinked, -, size, modified, again, -, old⟩
    obtain ⟨rfl, rfl⟩ : size = target.size ∧ modified = target.modified := by
      rw [file] at again
      cases again
      exact ⟨rfl, rfl⟩
    refine ⟨⟨target.inode, unlinked⟩, fun above => ⟨?_, .inr (old above)⟩⟩
    exact (Int.le_add_of_nonneg_right (Int.natCast_nonneg _)).trans (old above)
  · rintro ⟨⟨inode, arrived⟩, aged⟩
    have sameInode : inode = target.inode := by
      unfold FileTree.lstat FileTree.resolve at there
      rw [← same, arrived] at there
      exact Option.some.inj there
    refine ⟨sameInode ▸ arrived, ?_, target.size, target.modified, file, ?_, ?_⟩
    · rw [same]
      exact candidate_named member
    · unfold passesGates at passes
      rw [Bool.and_eq_true, Bool.not_eq_true', decide_eq_false_iff_not] at passes
      exact UInt64.not_lt.mp passes.1
    · intro above
      obtain ⟨past, fits | old⟩ := aged above
      · exact oldEnough_of_passes passes above past fits
      · exact old

/-- A sweep cuts only what the patterns name, without links and of the right size and age, exactly
if the target of each turn is upright.
-/
theorem cuts_right_iff (faults : TruncationFaults) (now : SystemTime)
    (config : LogTruncationConfig) (tree : LogTree) (freePct : F)
    : (∀ cut ∈ (truncateOversizedLogs faults now config false tree freePct).cuts,
          RightlyCut tree config freePct now cut.1 cut.2)
      ↔ (config.enabled = true →
          ∀ target ∈ turns (cutsAgain config (bypassesAgeGate config freePct) now) []
            ((targets tree config (bypassesAgeGate config freePct) now
                (candidates tree config)).filter (faults.willing ·.path)),
            UprightTarget tree config freePct now target) := by
  cases enabled : config.enabled with
  | false =>
      unfold truncateOversizedLogs
      rw [enabled]
      exact iff_of_true (fun cut member => absurd member List.not_mem_nil) nofun
  | true =>
      have done := truncateOversizedLogs_real faults now tree freePct enabled
      have cuts := done.cuts
      unfold cutting at cuts
      rw [cuts_eq_turns] at cuts
      rw [cuts]
      simp only [Cutting.start, List.nil_append, List.forall_mem_map, forall_const]
      refine forall₂_congr fun target turn => ?_
      have among := (List.mem_filter.mp (mem_of_mem_turns turn)).1
      obtain ⟨path, member, found⟩ := List.mem_filterMap.mp among
      exact rightlyCut_iff member found

end

def linkedNode : Nat → FileNode OsName
  | 0 => .directory true true 0 [(Texts.bytes "logs", 1), (Texts.bytes "etc", 2)]
  | 1 => .symlink true [Texts.bytes "etc"]
  | 2 => .directory true true 0 [(Texts.bytes "data", 3)]
  | _ => .file 100 0

def linkedTree : LogTree := ⟨0, linkedNode⟩

def linkedPolicy : LogTruncationConfig := ⟨true, ["/logs/data"], 1, 100, 0⟩

theorem linked_directory_followed
    : ¬ ∀ cut ∈ (truncateOversizedLogs (TruncationFaults.none_ fun _ => "") 0 linkedPolicy false
          linkedTree (50 : ℚ)).cuts,
        RightlyCut linkedTree linkedPolicy (50 : ℚ) 0 cut.1 cut.2 := by
  intro all
  have right := all ([Texts.bytes "logs", Texts.bytes "data"], 3) (by decide +kernel)
  have followed : ¬ linkedTree.Plain parentDirName [Texts.bytes "logs", Texts.bytes "data"] := by
    decide +kernel
  exact followed ⟨3, right.unlinked⟩

end StorageBallast.LogTruncator
