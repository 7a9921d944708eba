import Mathlib.Data.List.Sort
import StorageBallast.Scanner.ContainmentScan

/-! All overlaps of a cleanup candidate with sacred paths: the direct ones, those found
inside it, and a stand-in when the search inside it was cut short.
-/

namespace StorageBallast

/-- The environment, with the tree a containment scan finds at each location. -/
structure ProtectionWorld extends PathEnv where
  scanRoot : Location → ScanRoot

def comparePaths : List FileName → List FileName → Ordering
  | [], [] => .eq
  | [], _ :: _ => .lt
  | _ :: _, [] => .gt
  | left :: lefts, right :: rights =>
      (compare left.text right.text).then (comparePaths lefts rights)

def reportsBefore (left right : SacredOverlap) : Prop :=
  ((comparePaths left.matchedPath.names right.matchedPath.names).then
    ((compare left.pattern right.pattern).then
      (compare left.kind.label right.kind.label))).isLE

instance : DecidableRel reportsBefore :=
  fun left right => by
    unfold reportsBefore
    infer_instance

def sameReport (left right : SacredOverlap) : Bool :=
  left.matchedPath == right.matchedPath
    && left.pattern == right.pattern
    && left.kind == right.kind
    && left.source == right.source

def dedupAfter (kept : SacredOverlap) : List SacredOverlap → List SacredOverlap
  | [] => []
  | overlap :: rest =>
      if sameReport overlap kept then dedupAfter kept rest
      else overlap :: dedupAfter overlap rest

def dedup : List SacredOverlap → List SacredOverlap
  | [] => []
  | overlap :: rest => overlap :: dedupAfter overlap rest

/-- The overlap of a sacred entry found inside the candidate. -/
def containedOverlap (candidate : Location) (found : StowawayMatch) : SacredOverlap where
  candidatePath := candidate
  matchedPath := found.path
  pattern := found.pattern
  kind := .containsSacred
  source := found.source
  reason := found.reason

/-- The overlap that stands for an unfinished search inside the candidate. -/
def truncatedOverlap (candidate : Location) (config : StowawayScanConfig)
    : SacredOverlap where
  candidatePath := candidate
  matchedPath := candidate
  pattern := "<containment-scan-truncated>"
  kind := .containsSacred
  source := .builtin
  reason := "sacred-marker containment scan truncated after " ++ toString config.maxEntries
    ++ " entries (depth " ++ toString config.maxDepth
    ++ "); treating subtree as protected (fail-closed)"

def reportedOverlaps (direct : List SacredOverlap) (candidate : Location)
    (config : StowawayScanConfig) (stowaway : StowawayScanResult) : List SacredOverlap :=
  let contained := stowaway.matches.map (containedOverlap candidate)
  let unfinished := if stowaway.truncated then [truncatedOverlap candidate config] else []
  dedup ((direct ++ contained ++ unfinished).insertionSort reportsBefore)

def findSacredOverlapsWithConfig (world : ProtectionWorld) (candidate : PathBuf)
    (catalog : List SacredPath) (config : StowawayScanConfig)
    : Except PathError (List SacredOverlap) :=
  let candidatePath := world.resolveAbsolutePath candidate
  let direct := catalog.flatMap (directSacredOverlaps world.toPathEnv candidatePath)
  let root := world.scanRoot (world.resolveAbsolutePath candidatePath.toPathBuf)
  match scanStowawaysBounded root catalog config with
  | .error error => .error error
  | .ok stowaway => .ok (reportedOverlaps direct candidatePath config stowaway)

def findSacredOverlaps (world : ProtectionWorld) (candidate : PathBuf)
    (catalog : List SacredPath) : Except PathError (List SacredOverlap) :=
  findSacredOverlapsWithConfig world candidate catalog .default

def SacredOverlap.Direct (overlap : SacredOverlap) : Prop :=
  overlap.kind ≠ .containsSacred

/-- What is left after a kept overlap was there before, by induction. -/
theorem mem_of_mem_dedupAfter {overlap kept : SacredOverlap} {rest : List SacredOverlap}
    (member : overlap ∈ dedupAfter kept rest)
    : overlap ∈ rest := by
  induction rest generalizing kept with
  | nil => exact member
  | cons head rest ih =>
      simp only [dedupAfter] at member
      split at member
      · exact List.mem_cons_of_mem _ (ih member)
      · rcases List.mem_cons.mp member with rfl | later
        · exact List.mem_cons_self
        · exact List.mem_cons_of_mem _ (ih later)

/-- Each overlap is still reported, by itself or as one with a kept one; by induction. -/
theorem kind_mem_dedupAfter {overlap : SacredOverlap} (kept : SacredOverlap)
    {rest : List SacredOverlap} (member : overlap ∈ rest)
    : ∃ reported ∈ kept :: dedupAfter kept rest, reported.kind = overlap.kind := by
  induction rest generalizing kept with
  | nil => cases member
  | cons head rest ih =>
      simp only [dedupAfter]
      split
      · rename_i same
        rcases List.mem_cons.mp member with rfl | later
        · simp only [sameReport, Bool.and_eq_true, beq_iff_eq] at same
          exact ⟨kept, List.mem_cons_self, same.1.2.symm⟩
        · exact ih kept later
      · rcases List.mem_cons.mp member with rfl | later
        · exact ⟨overlap, List.mem_cons_of_mem _ List.mem_cons_self, rfl⟩
        · obtain ⟨reported, found, kind⟩ := ih head later
          exact ⟨reported, List.mem_cons_of_mem _ found, kind⟩

/-- Removing repeated reports keeps a direct overlap exactly if there is one. -/
theorem exists_direct_dedup_iff (overlaps : List SacredOverlap)
    : (∃ overlap ∈ dedup overlaps, overlap.Direct) ↔ ∃ overlap ∈ overlaps, overlap.Direct := by
  cases overlaps with
  | nil => exact Iff.rfl
  | cons head rest =>
      constructor
      · rintro ⟨overlap, member, direct⟩
        refine ⟨overlap, ?_, direct⟩
        rcases List.mem_cons.mp member with rfl | later
        · exact List.mem_cons_self
        · exact List.mem_cons_of_mem _ (mem_of_mem_dedupAfter later)
      · rintro ⟨overlap, member, direct⟩
        rcases List.mem_cons.mp member with rfl | later
        · exact ⟨overlap, List.mem_cons_self, direct⟩
        · obtain ⟨reported, found, kind⟩ := kind_mem_dedupAfter head later
          exact ⟨reported, found, fun contained => direct (kind ▸ contained)⟩

/-- The report has a direct overlap exactly if the candidate has one, whatever was found
inside it.
-/
theorem exists_direct_reported_iff {direct : List SacredOverlap} {candidate : Location}
    {config : StowawayScanConfig} {stowaway : StowawayScanResult}
    (allDirect : ∀ overlap ∈ direct, overlap.Direct)
    : (∃ overlap ∈ reportedOverlaps direct candidate config stowaway, overlap.Direct)
      ↔ direct ≠ [] := by
  unfold reportedOverlaps
  rw [exists_direct_dedup_iff]
  constructor
  · rintro ⟨overlap, member, isDirect⟩ rfl
    have unsorted := (List.perm_insertionSort _ _).mem_iff.mp member
    rw [List.nil_append] at unsorted
    rcases List.mem_append.mp unsorted with contained | unfinished
    · obtain ⟨found, _, rfl⟩ := List.mem_map.mp contained
      exact isDirect rfl
    · split at unfinished
      · obtain rfl := List.mem_singleton.mp unfinished
        exact isDirect rfl
      · cases unfinished
  · intro nonempty
    obtain ⟨overlap, member⟩ := List.exists_mem_of_ne_nil direct nonempty
    refine ⟨overlap, (List.perm_insertionSort _ _).mem_iff.mpr ?_, allDirect overlap member⟩
    rw [List.append_assoc]
    exact List.mem_append_left _ member

end StorageBallast
