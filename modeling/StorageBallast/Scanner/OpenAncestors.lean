import Mathlib.Data.Finset.Insert
import Mathlib.Data.List.MinMax
import StorageBallast.Foundations.PathPieces
import StorageBallast.Scanner.SacredPaths

/-! The open files of a scan and all directories above them, up to the roots of the scan. Each
file adds the chain of its ancestors and leaves off where it meets a chain that is there.
-/

namespace StorageBallast

def normalizedOpenRoots (env : PathEnv) (rootPaths : List PathBuf) : List (Location × Nat) :=
  rootPaths.map fun path =>
    let normalized := env.resolveAbsolutePath path
    (normalized, normalized.names.length + 1)

theorem Location.parent_length {path parent : Location} (up : path.parent = some parent)
    : parent.names.length < path.names.length := by
  unfold Location.parent at up
  split at up
  · cases up
  · rename_i named
    cases up
    have := List.length_pos_of_ne_nil named
    simp only [List.length_dropLast]
    omega

def insertAncestors (stopAt : Option Location) (ancestors : Finset Location) (path : Location)
    : Finset Location :=
  if path ∈ ancestors then ancestors
  else if some path = stopAt then insert path ancestors
  else
    match _up : path.parent with
    | none => insert path ancestors
    | some parent => insertAncestors stopAt (insert path ancestors) parent
termination_by path.names.length
decreasing_by exact Location.parent_length _up

def addOpenPathAncestorChain (env : PathEnv) (ancestors : Finset Location) (target : PathBuf)
    (normalizedRoots : List (Location × Nat)) : Finset Location :=
  if !target.isAbsolute then ancestors
  else
    let normalizedTarget := env.resolveAbsolutePath target
    let stopAt :=
      if normalizedRoots.isEmpty then none
      else
        ((normalizedRoots.filter fun root => normalizedTarget.startsWith root.1).argmin
          (·.2)).map (·.1)
    if !normalizedRoots.isEmpty && stopAt.isNone then ancestors
    else insertAncestors stopAt ancestors normalizedTarget

def openPathAncestors (env : PathEnv) (rootPaths targets : List PathBuf) : Finset Location :=
  targets.foldl (fun ancestors target =>
    addOpenPathAncestorChain env ancestors target (normalizedOpenRoots env rootPaths)) ∅

structure IsOutermostRoot (roots : List Location) (path root : Location) : Prop where
  listed : root ∈ roots
  contains : path.startsWith root = true
  outermost : ∀ other ∈ roots, path.startsWith other = true → other.startsWith root = true

/-- The second path is at or above the first one, and does not leave the outermost root of it. -/
structure Reaches (roots : List Location) (path above : Location) : Prop where
  upper : path.startsWith above = true
  inside : roots ≠ [] → ∃ root, IsOutermostRoot roots path root ∧ above.startsWith root = true

variable {roots : List Location} {file path above : Location}

/-- Between a file and its outermost root all paths have the same outermost root. -/
theorem IsOutermostRoot.between {root : Location} (outer : IsOutermostRoot roots file root)
    (upper : file.startsWith path = true) (lower : path.startsWith root = true)
    : IsOutermostRoot roots path root :=
  ⟨outer.listed, lower, fun other listed contains =>
    outer.outermost other listed (Location.startsWith_trans upper contains)⟩

theorem IsOutermostRoot.unique {root other : Location} (outer : IsOutermostRoot roots file root)
    (outer' : IsOutermostRoot roots file other) : root = other :=
  Location.startsWith_antisymm (outer'.outermost root outer.listed outer.contains)
    (outer.outermost other outer'.listed outer'.contains)

theorem Reaches.self (reached : Reaches roots file path) : Reaches roots path path := by
  refine ⟨path.startsWith_self, fun rooted => ?_⟩
  obtain ⟨root, outer, inside⟩ := reached.inside rooted
  exact ⟨root, outer.between reached.upper inside, inside⟩

/-- Between a path and what it reaches the outermost root does not change. -/
theorem Reaches.outermost_iff (reached : Reaches roots path above) (rooted : roots ≠ [])
    {root : Location} : IsOutermostRoot roots path root ↔ IsOutermostRoot roots above root := by
  obtain ⟨other, outer, inside⟩ := reached.inside rooted
  have same := outer.between reached.upper inside
  constructor
  · intro outer'
    exact (outer.unique outer') ▸ same
  · intro outer'
    exact (same.unique outer') ▸ outer

theorem Reaches.trans (lower : Reaches roots file path) (upper : Reaches roots path above)
    : Reaches roots file above := by
  refine ⟨Location.startsWith_trans lower.upper upper.upper, fun rooted => ?_⟩
  obtain ⟨root, outer, inside⟩ := lower.inside rooted
  obtain ⟨other, outer', inside'⟩ := upper.inside rooted
  obtain rfl := (outer.between lower.upper inside).unique outer'
  exact ⟨root, outer, inside'⟩

variable {parent : Location}

/-- What is at or above a path is the path itself or at or above its parent. -/
theorem Location.startsWith_parent_iff (up : path.parent = some parent)
    : path.startsWith above = true ↔ above = path ∨ parent.startsWith above = true := by
  unfold Location.parent at up
  split at up
  · cases up
  · rename_i named
    cases up
    obtain ⟨names⟩ := path
    obtain ⟨front⟩ := above
    rw [startsWith_iff, startsWith_iff, Location.mk.injEq]
    have split : names.dropLast ++ [names.getLast named] = names :=
      List.dropLast_append_getLast named
    change front <+: names ↔ front = names ∨ front <+: names.dropLast
    conv_lhs => rw [← split, List.prefix_concat_iff, split]

theorem Location.startsWith_parent (up : path.parent = some parent)
    : path.startsWith parent = true :=
  (startsWith_parent_iff up).mpr (.inr parent.startsWith_self)

theorem reaches_parent (reached : Reaches roots path path) (up : path.parent = some parent)
    (further : roots ≠ [] → ¬ IsOutermostRoot roots path path) : Reaches roots path parent := by
  refine ⟨Location.startsWith_parent up, fun rooted => ?_⟩
  obtain ⟨root, outer, contains⟩ := reached.inside rooted
  refine ⟨root, outer, ?_⟩
  rcases (Location.startsWith_parent_iff up).mp contains with same | inside
  · exact absurd (same ▸ outer) (further rooted)
  · exact inside

theorem reaches_iff_parent (reached : Reaches roots path path)
    (up : path.parent = some parent) (next : Reaches roots path parent)
    : Reaches roots path above ↔ above = path ∨ Reaches roots parent above := by
  constructor
  · intro reach
    rcases (Location.startsWith_parent_iff up).mp reach.upper with same | upper
    · exact .inl same
    · refine .inr ⟨upper, fun rooted => ?_⟩
      obtain ⟨root, outer, inside⟩ := reach.inside rooted
      exact ⟨root, outer.between (Location.startsWith_parent up)
        (Location.startsWith_trans upper inside), inside⟩
  · rintro (rfl | reach)
    · exact reached
    · exact next.trans reach

theorem reaches_iff_last (reached : Reaches roots path path)
    (last : path.parent = none ∨ roots ≠ [] ∧ IsOutermostRoot roots path path)
    : Reaches roots path above ↔ above = path := by
  constructor
  · intro reach
    rcases last with top | ⟨rooted, outer⟩
    · have unnamed : path.names = [] := by
        unfold Location.parent at top
        split at top
        · assumption
        · cases top
      have front := Location.startsWith_iff.mp reach.upper
      rw [unnamed, List.prefix_nil] at front
      obtain ⟨names⟩ := path
      obtain ⟨others⟩ := above
      exact congrArg Location.mk (front.trans unnamed.symm)
    · obtain ⟨root, outer', inside⟩ := reach.inside rooted
      obtain rfl := outer.unique outer'
      exact Location.startsWith_antisymm inside reach.upper
  · rintro rfl
    exact reached

def StopsAt (roots : List Location) (stopAt : Option Location) (path : Location) : Prop :=
  ∀ root, some root = stopAt ↔ roots ≠ [] ∧ IsOutermostRoot roots path root

/-- The chain of a path adds exactly what the path reaches, if what is there on the way holds all
that it reaches itself. By induction on the chain: what was added before is below the rest.
-/
theorem mem_insertAncestors_iff {stopAt : Option Location} (ancestors : Finset Location)
    (path : Location) (reached : Reaches roots path path) (stops : StopsAt roots stopAt path)
    (closed : ∀ known ∈ ancestors, Reaches roots path known
      → ∀ above, Reaches roots known above → above ∈ ancestors)
    : above ∈ insertAncestors stopAt ancestors path
      ↔ above ∈ ancestors ∨ Reaches roots path above := by
  fun_induction insertAncestors stopAt ancestors path with
  | case1 ancestors path present =>
      have covered := closed path present reached above
      tauto
  | case2 ancestors path absent stop =>
      have outer := (stops path).mp stop
      rw [Finset.mem_insert, reaches_iff_last reached (.inr outer)]
      tauto
  | case3 ancestors path absent going top =>
      rw [Finset.mem_insert, reaches_iff_last reached (.inl top)]
      tauto
  | case4 ancestors path absent going parent up ih =>
      have further : roots ≠ [] → ¬ IsOutermostRoot roots path path :=
        fun rooted outer => going ((stops path).mpr ⟨rooted, outer⟩)
      have next := reaches_parent reached up further
      have nextStops : StopsAt roots stopAt parent := fun root =>
        (stops root).trans (and_congr_right fun rooted => next.outermost_iff rooted)
      have nextClosed : ∀ known ∈ insert path ancestors, Reaches roots parent known
          → ∀ above, Reaches roots known above → above ∈ insert path ancestors := by
        intro known member reach above upper
        refine Finset.mem_insert_of_mem (closed known ?_ (next.trans reach) above upper)
        refine Finset.mem_of_mem_insert_of_ne member ?_
        rintro rfl
        have shorter := Location.parent_length up
        have longer := (Location.startsWith_iff.mp reach.upper).length_le
        omega
      rw [ih next.self nextStops nextClosed, Finset.mem_insert,
        reaches_iff_parent reached up next]
      tauto

/-- A root of least depth among those that contain the path is the outermost of them. -/
theorem isOutermostRoot_of_argmin {root : Location × Nat}
    (least : ((roots.map fun root => (root, root.names.length + 1)).filter
        fun root => path.startsWith root.1).argmin (·.2) = some root)
    : IsOutermostRoot roots path root.1 := by
  obtain ⟨member, shortest, -⟩ := List.argmin_eq_some_iff.mp least
  obtain ⟨listed, contains⟩ := List.mem_filter.mp member
  obtain ⟨top, stored, rfl⟩ := List.mem_map.mp listed
  refine ⟨stored, contains, fun other listed' contains' => ?_⟩
  have deeper : top.names.length + 1 ≤ other.names.length + 1 :=
    shortest (other, other.names.length + 1)
      (List.mem_filter.mpr ⟨List.mem_map_of_mem listed', contains'⟩)
  exact Location.startsWith_iff.mpr (List.prefix_of_prefix_length_le
    (Location.startsWith_iff.mp contains) (Location.startsWith_iff.mp contains')
    (Nat.le_of_succ_le_succ deeper))

/-- One file adds its chain, if it lies in a root or there are none. -/
theorem mem_addOpenPathAncestorChain_iff (env : PathEnv) {ancestors : Finset Location}
    (target : PathBuf) (rootPaths : List PathBuf)
    (closed : ∀ known ∈ ancestors, ∀ above,
      Reaches (rootPaths.map env.resolveAbsolutePath) known above → above ∈ ancestors)
    : above ∈ addOpenPathAncestorChain env ancestors target (normalizedOpenRoots env rootPaths)
      ↔ above ∈ ancestors ∨ target.isAbsolute = true
        ∧ Reaches (rootPaths.map env.resolveAbsolutePath) (env.resolveAbsolutePath target)
          above := by
  have depths : normalizedOpenRoots env rootPaths
      = (rootPaths.map env.resolveAbsolutePath).map fun root =>
          (root, root.names.length + 1) := by
    simp [normalizedOpenRoots]
  rw [depths]
  generalize rootPaths.map env.resolveAbsolutePath = roots at closed ⊢
  unfold addOpenPathAncestorChain
  cases absolute : target.isAbsolute with
  | false => simp
  | true =>
      generalize env.resolveAbsolutePath target = file
      simp only [Bool.not_true, Bool.false_eq_true, if_false, true_and, List.isEmpty_map]
      by_cases rooted : roots = []
      · subst rooted
        simp only [List.isEmpty_nil, if_true, Bool.not_true, Bool.false_and, Bool.false_eq_true,
          if_false]
        have free : Reaches [] file file := ⟨file.startsWith_self, fun rooted => absurd rfl rooted⟩
        exact mem_insertAncestors_iff ancestors file free (fun root => by simp)
          fun known member _ => closed known member
      · have filled : roots.isEmpty = false := by simpa using rooted
        simp only [filled, Bool.false_eq_true, if_false, Bool.not_false, Bool.true_and]
        cases least : ((roots.map fun root => (root, root.names.length + 1)).filter
            fun root => file.startsWith root.1).argmin (·.2) with
        | none =>
            have outside : ¬ Reaches roots file above := by
              intro reach
              obtain ⟨root, outer, -⟩ := reach.inside rooted
              have member : (root, root.names.length + 1)
                  ∈ (roots.map fun root => (root, root.names.length + 1)).filter
                    fun root => file.startsWith root.1 :=
                List.mem_filter.mpr ⟨List.mem_map_of_mem outer.listed, outer.contains⟩
              rw [List.argmin_eq_none.mp least] at member
              cases member
            simp [outside]
        | some root =>
            have outer := isOutermostRoot_of_argmin least
            have stops : StopsAt roots (some root.1) file := fun other => by
              rw [Option.some.injEq]
              constructor
              · rintro rfl
                exact ⟨rooted, outer⟩
              · rintro ⟨-, outer'⟩
                exact outer'.unique outer
            have inside : Reaches roots file file :=
              ⟨file.startsWith_self, fun _ => ⟨root.1, outer, outer.contains⟩⟩
            simp only [Option.map_some, Option.isNone_some, Bool.false_eq_true, if_false]
            exact mem_insertAncestors_iff ancestors file inside stops
              fun known member _ => closed known member

/-- The index holds what its files reach, by induction on the files from the last one. -/
theorem mem_openPathAncestors_iff (env : PathEnv) (rootPaths targets : List PathBuf)
    (path : Location)
    : path ∈ openPathAncestors env rootPaths targets
      ↔ ∃ target ∈ targets, target.isAbsolute = true
        ∧ Reaches (rootPaths.map env.resolveAbsolutePath) (env.resolveAbsolutePath target)
          path := by
  induction targets using List.reverseRecOn generalizing path with
  | nil => simp [openPathAncestors]
  | append_singleton targets target ih =>
      have closed : ∀ known ∈ openPathAncestors env rootPaths targets, ∀ above,
          Reaches (rootPaths.map env.resolveAbsolutePath) known above
          → above ∈ openPathAncestors env rootPaths targets := by
        intro known member above upper
        obtain ⟨file, listed, absolute, lower⟩ := (ih known).mp member
        exact (ih above).mpr ⟨file, listed, absolute, lower.trans upper⟩
      have last : openPathAncestors env rootPaths (targets ++ [target])
          = addOpenPathAncestorChain env (openPathAncestors env rootPaths targets) target
            (normalizedOpenRoots env rootPaths) :=
        List.foldl_concat ..
      rw [last, mem_addOpenPathAncestorChain_iff env target rootPaths closed, ih]
      simp only [List.mem_append, List.mem_singleton, or_and_right, exists_or, exists_eq_left]

theorem Location.isAbsolute_toPathBuf (location : Location)
    : location.toPathBuf.isAbsolute = true := by
  obtain ⟨names⟩ := location
  cases names with
  | nil => rfl
  | cons name names => simp [toPathBuf, PathBuf.isAbsolute, text, String.join_cons]

/-- From normalised roots and open files the index holds exactly the paths that an open file lies
at or under and that lie at or under the outermost root of that file, if there are roots at all.
-/
theorem openPathAncestors_spec (env : PathEnv) {roots files : List Location}
    (rootsNormal : ∀ root ∈ roots, env.resolveAbsolutePath root.toPathBuf = root)
    (filesNormal : ∀ file ∈ files, env.resolveAbsolutePath file.toPathBuf = file)
    (path : Location)
    : path ∈ openPathAncestors env (roots.map (·.toPathBuf)) (files.map (·.toPathBuf))
      ↔ ∃ file ∈ files, file.startsWith path = true
        ∧ (roots ≠ [] →
          ∃ root, IsOutermostRoot roots file root ∧ path.startsWith root = true) := by
  have same : (roots.map (·.toPathBuf)).map env.resolveAbsolutePath = roots := by
    rw [List.map_map]
    exact (List.map_congr_left rootsNormal).trans (List.map_id roots)
  rw [mem_openPathAncestors_iff, same]
  constructor
  · rintro ⟨target, member, -, reach⟩
    obtain ⟨file, listed, rfl⟩ := List.mem_map.mp member
    rw [filesNormal file listed] at reach
    exact ⟨file, listed, reach.upper, reach.inside⟩
  · rintro ⟨file, listed, upper, inside⟩
    refine ⟨_, List.mem_map_of_mem listed, file.isAbsolute_toPathBuf, ?_⟩
    rw [filesNormal file listed]
    exact ⟨upper, inside⟩

/-- Two roots, one in the other, and a file that is open in the inner one. -/
def nestedRoots : List Location :=
  [⟨[⟨"work", by decide⟩, ⟨"project", by decide⟩]⟩, ⟨[⟨"work", by decide⟩]⟩]

def openLog : Location :=
  ⟨[⟨"work", by decide⟩, ⟨"project", by decide⟩, ⟨"target", by decide⟩, ⟨"build.log", by decide⟩]⟩

theorem nestedRoots_spec
    : Location.mk [⟨"work", by decide⟩] ∈ openPathAncestors ⟨Location.ofNames, none⟩
        (nestedRoots.map (·.toPathBuf)) ([openLog].map (·.toPathBuf))
      ↔ ∃ file ∈ [openLog], file.startsWith ⟨[⟨"work", by decide⟩]⟩ = true
        ∧ (nestedRoots ≠ [] → ∃ root, IsOutermostRoot nestedRoots file root
          ∧ Location.startsWith ⟨[⟨"work", by decide⟩]⟩ root = true) :=
  openPathAncestors_spec ⟨Location.ofNames, none⟩ (fun root _ => root.ofNames_toPathBuf)
    (fun file _ => file.ofNames_toPathBuf) _

end StorageBallast
