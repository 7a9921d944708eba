import Mathlib.Data.List.Infix
import StorageBallast.Scanner.SacredOverlaps

/-! Which protected glob patterns are noticed on a cleanup candidate. A match at the candidate
or above it always is; a match strictly below it is noticed through the directory the
pattern starts from, or through a match of the candidate's own path.
-/

namespace StorageBallast

namespace Location

/-- A location at or above another one is that one or one of its proper ancestors. -/
theorem mem_properAncestors {location above : Location}
    (covers : location.startsWith above = true) (different : above ≠ location)
    : above ∈ location.properAncestors := by
  obtain ⟨names⟩ := location
  obtain ⟨start⟩ := above
  obtain ⟨rest, rfl⟩ := List.isPrefixOf_iff_prefix.mp covers
  have nonempty : rest ≠ [] := by
    rintro rfl
    exact different (by simp)
  have named : start ++ rest ≠ [] := by simp [nonempty]
  unfold properAncestors
  rw [if_neg named, List.mem_reverse]
  refine List.mem_map.mpr ⟨start, ?_, rfl⟩
  rw [List.mem_inits, List.dropLast_append_of_ne_nil nonempty]
  exact List.prefix_append start _

/-- A location lies at or below itself and each of its proper ancestors. -/
theorem startsWith_of_mem_ancestors {location above : Location}
    (member : above ∈ location :: location.properAncestors)
    : location.startsWith above = true := by
  rcases List.mem_cons.mp member with rfl | proper
  · exact startsWith_self above
  · unfold properAncestors at proper
    split at proper
    · cases proper
    · obtain ⟨names, front, rfl⟩ := List.mem_map.mp (List.mem_reverse.mp proper)
      exact startsWith_iff.mpr (((List.mem_inits _ _).mp front).trans (List.dropLast_prefix _))

end Location

section
variable (env : PathEnv) (entry : SacredPath)

/-- One of the two locations lies at or above the other one, so that removing the subtree at
the candidate removes the path, or part of what lies below it.
-/
def Touches (candidate path : Location) : Prop :=
  candidate.startsWith path = true ∨ path.startsWith candidate = true

def MatchesAtOrAbove (candidate : Location) : Prop :=
  globMatches env entry candidate = true
  ∨ ∃ ancestor ∈ candidate.properAncestors, globMatches env entry ancestor = true

def StartsBelow (candidate : Location) : Prop :=
  ∃ parent, sacredParent env entry = some parent ∧ parent.startsWith candidate = true

/-- The overlap of the candidate itself is reported exactly if it matches. -/
theorem overlapItself_ne_nil_iff (candidate : Location)
    : overlapItself env candidate entry ≠ [] ↔ globMatches env entry candidate = true := by
  unfold overlapItself
  split <;> simp [*]

/-- The overlap of a location above is reported exactly if one matches. -/
theorem overlapInside_ne_nil_iff (candidate : Location)
    : overlapInside env candidate entry ≠ []
      ↔ ∃ ancestor ∈ candidate.properAncestors, globMatches env entry ancestor = true := by
  rw [← List.find?_isSome]
  unfold overlapInside
  split <;> simp [*]

/-- The overlap of the starting directory is reported exactly if the candidate is at or
above it.
-/
theorem overlapAround_ne_nil_iff (candidate : Location)
    : overlapAround env candidate entry ≠ [] ↔ StartsBelow env entry candidate := by
  unfold overlapAround StartsBelow
  cases sacredParent env entry with
  | none => simp
  | some parent =>
      simp only [Option.some.injEq, exists_eq_left']
      split <;> simp [*]

/-- A candidate overlaps a glob directly when it or a location above it matches, or the glob
starts from a directory at or below it, and only then.
-/
theorem globSacredOverlaps_ne_nil_iff (candidate : Location)
    : globSacredOverlaps env candidate entry ≠ []
      ↔ MatchesAtOrAbove env entry candidate ∨ StartsBelow env entry candidate := by
  rw [MatchesAtOrAbove, ← overlapItself_ne_nil_iff, ← overlapInside_ne_nil_iff,
    ← overlapAround_ne_nil_iff]
  simp only [globSacredOverlaps, ne_eq, List.append_eq_nil_iff, not_and_or]

theorem globSacredOverlaps_direct {candidate : Location} {overlap : SacredOverlap}
    (member : overlap ∈ globSacredOverlaps env candidate entry)
    : overlap.Direct := by
  unfold globSacredOverlaps overlapItself overlapInside overlapAround at member
  rcases List.mem_append.mp member with front | around
  · rcases List.mem_append.mp front with itself | inside
    · split at itself
      · obtain rfl := List.mem_singleton.mp itself
        simp [SacredOverlap.Direct, overlapAt]
      · cases itself
    · split at inside
      · obtain rfl := List.mem_singleton.mp inside
        simp [SacredOverlap.Direct, overlapAt]
      · cases inside
  · split at around
    · split at around
      · obtain rfl := List.mem_singleton.mp around
        simp [SacredOverlap.Direct, overlapAt]
      · cases around
    · cases around

theorem pathOverlapKind_ne_containsSacred {candidate sacredPath : Location}
    {kind : SacredOverlapKind} (overlapping : pathOverlapKind candidate sacredPath = some kind)
    : kind ≠ .containsSacred := by
  unfold pathOverlapKind at overlapping
  split at overlapping
  · cases overlapping
    simp
  · split at overlapping
    · cases overlapping
      simp
    · split at overlapping
      · cases overlapping
        simp
      · cases overlapping

theorem directSacredOverlaps_direct {candidate : Location} {overlap : SacredOverlap}
    (member : overlap ∈ directSacredOverlaps env candidate entry)
    : overlap.Direct := by
  unfold directSacredOverlaps at member
  split at member
  · unfold exactSacredOverlaps at member
    simp only at member
    split at member
    · cases member
    · rename_i kind overlapping
      obtain rfl := List.mem_singleton.mp member
      exact pathOverlapKind_ne_containsSacred overlapping
  · exact globSacredOverlaps_direct env entry member
  · cases member
  · cases member

end

/-- When an existing path matches the entry and removing the candidate would touch it, every
report for the candidate has a direct overlap, whatever else is in the catalogue and
whatever lies inside the candidate.
-/
def ReportsMatches (env : PathEnv) (entry : SacredPath) (candidate : PathBuf)
    (existing : Set Location) : Prop :=
  ∀ (scanRoot : Location → ScanRoot) (catalog : List SacredPath)
    (config : StowawayScanConfig) (overlaps : List SacredOverlap),
    entry ∈ catalog
    → findSacredOverlapsWithConfig ⟨env, scanRoot⟩ candidate catalog config = .ok overlaps
    → (∃ path ∈ existing, globMatches env entry path = true
        ∧ Touches (env.resolveAbsolutePath candidate) path)
    → ∃ overlap ∈ overlaps, overlap.Direct

/-- A match strictly below the candidate is accompanied by one at or above it, or the glob
starts from a directory at or below the candidate.
-/
def AnnouncesMatches (env : PathEnv) (entry : SacredPath) (candidate : PathBuf)
    (existing : Set Location) : Prop :=
  ∀ path ∈ existing, globMatches env entry path = true
    → path.StrictlyBelow (env.resolveAbsolutePath candidate)
    → MatchesAtOrAbove env entry (env.resolveAbsolutePath candidate)
      ∨ StartsBelow env entry (env.resolveAbsolutePath candidate)

/-- A report has a direct overlap exactly if some entry of the catalogue has one. -/
theorem exists_direct_found_iff {world : ProtectionWorld} {candidate : PathBuf}
    {catalog : List SacredPath} {config : StowawayScanConfig} {overlaps : List SacredOverlap}
    (found : findSacredOverlapsWithConfig world candidate catalog config = .ok overlaps)
    : (∃ overlap ∈ overlaps, overlap.Direct)
      ↔ ∃ entry ∈ catalog,
          directSacredOverlaps world.toPathEnv (world.resolveAbsolutePath candidate) entry
            ≠ [] := by
  unfold findSacredOverlapsWithConfig at found
  simp only at found
  split at found
  · cases found
  · cases found
    rw [exists_direct_reported_iff]
    · simp
    · intro overlap member
      obtain ⟨entry, _, own⟩ := List.mem_flatMap.mp member
      exact directSacredOverlaps_direct _ entry own

def emptyRoot (location : Location) : ScanRoot where
  location
  fault := some .notFound
  tree := .file

/-- A protected glob is reported on every candidate whose removal touches a match, exactly
when matches strictly below the candidate announce themselves. Witness: a touched match
that is not strictly below the candidate lies at or above it; a report for the glob alone
needs one of the three direct overlaps.
-/
theorem glob_reportsMatches_iff (env : PathEnv) (patterns : List String)
    (candidate : PathBuf) (existing : Set Location)
    : (∀ entry ∈ sacredPathsFromProtectedPatterns patterns, entry.kind = .globMatch
        → ReportsMatches env entry candidate existing)
      ↔ ∀ entry ∈ sacredPathsFromProtectedPatterns patterns, entry.kind = .globMatch
        → AnnouncesMatches env entry candidate existing := by
  refine forall₂_congr fun entry _ => imp_congr_right fun isGlob => ?_
  have direct : ∀ location, directSacredOverlaps env location entry
      = globSacredOverlaps env location entry := by
    intro location
    simp [directSacredOverlaps, isGlob]
  constructor
  · intro reports path exists_ matched below
    obtain ⟨overlaps, silent⟩ : ∃ overlaps,
        findSacredOverlapsWithConfig ⟨env, emptyRoot⟩ candidate [entry] .default
          = .ok overlaps := ⟨_, rfl⟩
    have reported := reports emptyRoot [entry] .default overlaps
      (List.mem_singleton.mpr rfl) silent ⟨path, exists_, matched, Or.inr below.1⟩
    obtain ⟨other, only, overlapping⟩ := (exists_direct_found_iff silent).mp reported
    obtain rfl := List.mem_singleton.mp only
    rw [direct] at overlapping
    exact (globSacredOverlaps_ne_nil_iff env other _).mp overlapping
  · intro announces scanRoot catalog config overlaps listed found
    rintro ⟨path, exists_, matched, touches⟩
    refine (exists_direct_found_iff found).mpr ⟨entry, listed, ?_⟩
    rw [direct]
    apply (globSacredOverlaps_ne_nil_iff env entry _).mpr
    by_cases same : path = env.resolveAbsolutePath candidate
    · exact Or.inl (Or.inl (same ▸ matched))
    · rcases touches with above | below
      · exact Or.inl (Or.inr ⟨path, Location.mem_properAncestors above same, matched⟩)
      · exact announces path exists_ matched ⟨below, same⟩

def plainEnv : PathEnv where
  resolveAbsolutePath := Location.ofNames
  home := none

def projectRoot (location : Location) : ScanRoot where
  location
  fault := none
  tree := .directory none [(⟨"keep", by decide⟩, .typed, .directory none [])]

/-- Removing a project removes its kept directory, which a protected pattern matches, and
nothing is reported for the project.
-/
theorem project_with_kept_directory_unreported
    : ¬ ∀ entry ∈ sacredPathsFromProtectedPatterns ["/data/projects/*/keep"],
        entry.kind = .globMatch
        → ReportsMatches plainEnv entry ⟨"/data/projects/foo"⟩
            { Location.ofNames ⟨"/data/projects/foo/keep"⟩ } := by
  intro reports
  have silent : (findSacredOverlapsWithConfig ⟨plainEnv, projectRoot⟩ ⟨"/data/projects/foo"⟩
      [userSacredPath "/data/projects/*/keep"] .default).toOption = some [] := by
    decide +kernel
  cases found : findSacredOverlapsWithConfig ⟨plainEnv, projectRoot⟩ ⟨"/data/projects/foo"⟩
      [userSacredPath "/data/projects/*/keep"] .default with
  | error error =>
      rw [found] at silent
      cases silent
  | ok overlaps =>
      rw [found] at silent
      cases silent
      obtain ⟨overlap, member, _⟩ := reports (userSacredPath "/data/projects/*/keep")
        (by decide) (by decide) projectRoot _ .default _ (List.mem_singleton.mpr rfl) found
        ⟨_, rfl, by decide, Or.inr (by decide)⟩
      cases member

end StorageBallast
