import StorageBallast.Scanner.GlobCoverage
import StorageBallast.Scanner.WalkTermination

/-! What the walker's threads have gone into when one of them stops: every directory that steps
from a root lead to, and each of its paths once for that root.
-/

namespace StorageBallast

variable {F : Type}

structure TreeWorld.ListsNames (world : TreeWorld) : Prop where
  named : ∀ dir entries, world.readDir dir = some entries →
    ∀ entry ∈ entries, isFileName entry.name = true
  distinct : ∀ dir entries, world.readDir dir = some entries → (entries.map (·.name)).Nodup

def DirectoryWalker.Position.item (rootDev : Nat) (position : DirectoryWalker.Position F)
    : WorkItem F where
  path := position.dir
  depth := position.depth
  rootDeviceId := rootDev
  opaqueTree := position.verdict

def ThreadedWalk.goneInto (state : ThreadedWalk F) (origin : Nat) : List PathBuf :=
  (state.work.processed.filter fun task => task.origin = origin).map (·.item.path)

/-- Mapping what a filter kept back to where it came from drops some elements, by induction on
the list.
-/
theorem map_filterMap_sublist {α β : Type} {keep : α → Option β} {back : β → α}
    (inverse : ∀ a b, keep a = some b → back b = a) (list : List α)
    : ((list.filterMap keep).map back).Sublist list := by
  induction list with
  | nil => exact .slnil
  | cons first rest ih =>
      cases kept : keep first with
      | none =>
          rw [List.filterMap_cons_none kept]
          exact ih.cons first
      | some b =>
          rw [List.filterMap_cons_some kept, List.map_cons, inverse first b kept]
          exact ih.cons_cons first

namespace DirectoryWalker

variable [Float64 F] {walker : DirectoryWalker} {env : PathEnv}

open Relation

/-- The walker does not turn away from a directory it came to. -/
structure Admits (walker : DirectoryWalker) (rootDev depth : Nat) (dir : PathBuf) : Prop where
  notExcluded : walker.isExcluded dir = false
  notProtected : walker.isProtected dir = false
  onDevice : depth ≠ 0 → walker.OnDevice rootDev dir

/-- Steps down from the root lead to the path, and the walker does not turn away from it. -/
def ComesInto (F : Type) [Float64 F] (walker : DirectoryWalker) (root : PathBuf) (rootDev : Nat)
    (path : PathBuf) : Prop :=
  ∃ position : Position F, ReflTransGen (StepsTo walker rootDev) ⟨0, root, none⟩ position
    ∧ walker.Admits rootDev position.depth position.dir ∧ position.dir = path

omit [Float64 F] in
theorem goesInto_iff {item : WorkItem F}
    : walker.goesInto item = true
      ↔ walker.Admits item.rootDeviceId item.depth item.path := by
  unfold goesInto
  rw [Option.isSome_iff_exists]
  constructor
  · rintro ⟨metadata, checked⟩
    obtain ⟨notExcluded, notProtected, placed⟩ := checkDirectory_eq_some.mp checked
    refine ⟨notExcluded, notProtected, fun deeper => ?_⟩
    rcases placed with ⟨root, _⟩ | ⟨_, found, _, known, near⟩
    · exact absurd root deeper
    · exact ⟨found, known, near⟩
  · rintro ⟨notExcluded, notProtected, onDevice⟩
    by_cases root : item.depth = 0
    · exact ⟨none, checkDirectory_eq_some.mpr
        ⟨notExcluded, notProtected, .inl ⟨root, rfl⟩⟩⟩
    · obtain ⟨found, known, near⟩ := onDevice root
      exact ⟨some found, checkDirectory_eq_some.mpr
        ⟨notExcluded, notProtected, .inr ⟨root, found, rfl, known, near⟩⟩⟩

/-- A child with a verdict to go into it is queued with that verdict. -/
theorem childItem_of_descends {item : WorkItem F} {listing : DirListing} {path : PathBuf}
    (descending : descends (walker.childOpaqueTree listing path
      : Option (OpaqueTreeClassification F)))
    : walker.childItem item listing path
      = some ⟨path, item.depth + 1, item.rootDeviceId,
          walker.childOpaqueTree listing path⟩ := by
  unfold childItem
  cases decided : (walker.childOpaqueTree listing path
      : Option (OpaqueTreeClassification F)) with
  | none => rfl
  | some verdict =>
      rw [decided] at descending
      have signal : verdict.disposition = .signalOnly := descending
      simp only [signal]

variable {rootDev : Nat}

/-- Listing leads to the items of the positions one step down. -/
theorem mem_expand_iff {position : Position F} {child : WorkItem F}
    (admitted : walker.Admits rootDev position.depth position.dir)
    : child ∈ walker.expand (position.item rootDev)
      ↔ ∃ next, StepsTo walker rootDev position next ∧ child = next.item rootDev := by
  have passes : walker.goesInto (position.item rootDev) = true := goesInto_iff.mpr admitted
  obtain ⟨metadata, checked⟩ := Option.isSome_iff_exists.mp passes
  constructor
  · intro member
    unfold expand at member
    split at member
    · cases member
    · rename_i entries read
      split at member
      · cases member
      · rename_i listing listed
        have opened : walker.openDirectory rootDev position.depth position.dir
            = some (metadata, listing) := by
          change walker.checkDirectory rootDev position.depth position.dir = some metadata
            at checked
          change walker.world.readDir position.dir = some entries at read
          change walker.listEntries position.depth position.dir entries .start = some listing
            at listed
          simp [openDirectory, checked, read, listed]
        obtain ⟨passable, _, spec⟩ := openDirectory_eq_some opened
        obtain ⟨path, waiting, queued⟩ := List.mem_filterMap.mp member
        obtain ⟨entry, enters, rfl⟩ := spec.mem_children.mp waiting
        obtain ⟨samePath, sameDepth, sameDev, verdict, descending⟩ := childItem_eq_some queued
        rw [spec.childOpaqueTree_eq] at verdict descending
        refine ⟨position.child walker entry, .down position entry passable enters descending, ?_⟩
        obtain ⟨path, depth, rootDeviceId, opaqueTree⟩ := child
        simp only at samePath sameDepth sameDev verdict
        rw [samePath, sameDepth, sameDev, verdict]
        rfl
  · rintro ⟨next, step, rfl⟩
    cases step with
    | down entry passable enters descending =>
        obtain ⟨_, listing, opened⟩ := openDirectory_of_passable passable
        obtain ⟨_, _, spec⟩ := openDirectory_eq_some opened
        simp only [openDirectory, Option.bind_eq_bind, Option.bind_eq_some_iff, Option.pure_def,
          Option.some.injEq, Prod.mk.injEq] at opened
        obtain ⟨_, _, entries, read, found, listed, _, same⟩ := opened
        rw [same] at listed
        have waiting := spec.mem_children.mpr ⟨entry, enters, rfl⟩
        have queued : walker.childItem (position.item rootDev) listing
            (position.dir.join entry.name)
            = some ((position.child walker entry).item rootDev) := by
          rw [childItem_of_descends (by rwa [spec.childOpaqueTree_eq]), spec.childOpaqueTree_eq]
          rfl
        unfold expand
        change walker.world.readDir (position.item rootDev).path = some entries at read
        change walker.listEntries (position.item rootDev).depth (position.item rootDev).path
          entries .start = some listing at listed
        rw [read]
        simp only [listed]
        exact List.mem_filterMap.mpr ⟨_, waiting, queued⟩

/-- What a position leads to is where steps from it come to without being turned away, by
induction on the levels that are left.
-/
theorem mem_reach_iff {position : Position F} {item : WorkItem F}
    : item ∈ walker.reach (position.item rootDev)
      ↔ ∃ reached, ReflTransGen (StepsTo walker rootDev) position reached
        ∧ walker.Admits rootDev reached.depth reached.dir ∧ item = reached.item rootDev := by
  obtain ⟨levels, left⟩ : ∃ levels, walker.config.maxDepth - position.depth ≤ levels :=
    ⟨_, le_rfl⟩
  induction levels generalizing position with
  | zero =>
      rw [reach_eq, expand_deepest (Nat.sub_eq_zero_iff_le.mp (Nat.le_zero.mp left))]
      constructor
      · intro member
        split at member
        · rename_i passes
          obtain rfl : item = position.item rootDev := by simpa using member
          exact ⟨position, .refl, goesInto_iff.mp passes, rfl⟩
        · cases member
      · rintro ⟨reached, route, admitted, rfl⟩
        rcases route.cases_head with rfl | ⟨_, step, _⟩
        · rw [if_pos (goesInto_iff.mpr admitted)]
          exact List.mem_singleton.mpr rfl
        · cases step with
          | down entry passable enters =>
              have shallow := enters.shallow
              omega
  | succ levels ih =>
      have deeper {next : Position F} (step : StepsTo walker rootDev position next)
          : walker.config.maxDepth - next.depth ≤ levels := by
        cases step with
        | down entry _ enters =>
            simp only [Position.child]
            omega
      rw [reach_eq]
      constructor
      · intro member
        split at member
        · rename_i passes
          have admitted : walker.Admits rootDev position.depth position.dir :=
            goesInto_iff.mp passes
          rcases List.mem_cons.mp member with rfl | below
          · exact ⟨position, .refl, admitted, rfl⟩
          · obtain ⟨child, expanded, further⟩ := List.mem_flatMap.mp below
            obtain ⟨next, step, rfl⟩ := (mem_expand_iff admitted).mp expanded
            obtain ⟨reached, route, rest⟩ := (ih (deeper step)).mp further
            exact ⟨reached, .head step route, rest⟩
        · cases member
      · rintro ⟨reached, route, admitted, rfl⟩
        rcases route.cases_head with rfl | ⟨next, step, later⟩
        · rw [if_pos (goesInto_iff.mpr admitted)]
          exact List.mem_cons_self
        · have entered : walker.Admits rootDev position.depth position.dir := by
            cases step with
            | down entry passable =>
                exact ⟨passable.notExcluded, passable.notProtected, passable.onDevice⟩
          rw [if_pos (goesInto_iff.mpr entered)]
          refine List.mem_cons_of_mem _ (List.mem_flatMap.mpr ⟨next.item rootDev, ?_, ?_⟩)
          · exact (mem_expand_iff entered).mpr ⟨next, step, rfl⟩
          · exact (ih (deeper step)).mpr ⟨reached, later, admitted, rfl⟩

omit [Float64 F] in
/-- The children that wait are some of the entries in turn, by induction on the entries. -/
theorem listEntries_pending {depth : Nat} {dir : PathBuf} {entries : List DirEntry}
    {start listing : DirListing}
    (listed : walker.listEntries depth dir entries start = some listing)
    : ∃ taken : List DirEntry, taken.Sublist entries
      ∧ listing.pendingChildren
        = start.pendingChildren ++ taken.map fun entry => dir.join entry.name := by
  induction entries generalizing start with
  | nil =>
      cases listed
      exact ⟨[], .slnil, by simp⟩
  | cons entry rest ih =>
      simp only [listEntries] at listed
      split at listed
      · cases listed
        exact ⟨[], List.nil_sublist _, by simp⟩
      · split at listed
        · cases listed
        · obtain ⟨taken, among, later⟩ := ih listed
          have noted : ∀ counted : DirListing,
              (walker.noteEntry depth dir entry counted).pendingChildren
                  = counted.pendingChildren
                ∨ (walker.noteEntry depth dir entry counted).pendingChildren
                  = counted.pendingChildren ++ [dir.join entry.name] := by
            intro counted
            fun_cases noteEntry walker depth dir entry counted
            · exact .inl rfl
            · fun_cases noteChild
              case case2 => exact .inr rfl
              all_goals exact .inl rfl
          rcases noted _ with skipped | waiting
          · refine ⟨taken, among.cons entry, ?_⟩
            rw [later, skipped]
          · refine ⟨entry :: taken, among.cons_cons entry, ?_⟩
            rw [later, waiting, List.map_cons, List.append_assoc]
            rfl

/-- The items that listing leads to have paths with one more name each, and no name twice. -/
theorem expand_paths (laws : walker.world.ListsNames) (item : WorkItem F)
    : ∃ names : List String, names.Nodup
      ∧ ((walker.expand item).map (·.path.components)).Sublist
          (names.map fun name => item.path.components ++ [.normal name]) := by
  unfold expand
  split
  · exact ⟨[], .nil, .slnil⟩
  · rename_i entries read
    split
    · exact ⟨[], .nil, .slnil⟩
    · rename_i listing listed
      obtain ⟨taken, among, pending⟩ := listEntries_pending listed
      refine ⟨taken.map (·.name), (laws.distinct _ _ read).sublist (among.map _), ?_⟩
      have back : ((listing.pendingChildren.filterMap (walker.childItem item listing)).map
          fun child => child.path).Sublist listing.pendingChildren :=
        map_filterMap_sublist (fun path child queued => (childItem_eq_some queued).1) _
      have spelled : listing.pendingChildren.map (·.components)
          = (taken.map (·.name)).map fun name => item.path.components ++ [.normal name] := by
        rw [pending, DirListing.start, List.nil_append, List.map_map, List.map_map]
        refine List.map_congr_left fun entry member => ?_
        exact PathBuf.components_join _ (laws.named _ _ read entry (among.subset member))
      have mapped := back.map (·.components)
      rwa [spelled, List.map_map] at mapped

/-- Everything that an item leads to lies at or below it, by induction on the steps. -/
theorem components_prefix_of_steps (laws : walker.world.ListsNames)
    {position reached : Position F} (route : ReflTransGen (StepsTo walker rootDev) position reached)
    : position.dir.components <+: reached.dir.components := by
  induction route with
  | refl => exact List.prefix_rfl
  | tail _ step ih =>
      cases step with
      | down entry passable enters =>
          obtain ⟨entries, read, listed⟩ := exists_read_of_examined enters.examined
          refine ih.trans ?_
          simp only [Position.child]
          rw [PathBuf.components_join _ (laws.named _ _ read entry listed)]
          exact List.prefix_append _ _

omit [Float64 F] in
theorem exists_position (item : WorkItem F)
    : ∃ (position : Position F) (rootDev : Nat), item = position.item rootDev :=
  ⟨⟨item.depth, item.path, item.opaqueTree⟩, item.rootDeviceId, rfl⟩

theorem components_prefix_of_reach (laws : walker.world.ListsNames) {item below : WorkItem F}
    (member : below ∈ walker.reach item)
    : item.path.components <+: below.path.components := by
  obtain ⟨position, rootDev, rfl⟩ := exists_position item
  obtain ⟨reached, route, _, rfl⟩ := mem_reach_iff.mp member
  exact components_prefix_of_steps laws route

/-- No path is reached twice from one item, by induction on the levels that are left. -/
theorem reach_distinct (laws : walker.world.ListsNames) (item : WorkItem F)
    : ((walker.reach item).map (·.path.components)).Nodup := by
  obtain ⟨levels, left⟩ : ∃ levels, walker.config.maxDepth - item.depth ≤ levels := ⟨_, le_rfl⟩
  induction levels generalizing item with
  | zero =>
      rw [reach_eq, expand_deepest (Nat.sub_eq_zero_iff_le.mp (Nat.le_zero.mp left))]
      split
      · exact List.nodup_singleton _
      · exact .nil
  | succ levels ih =>
      obtain ⟨names, distinct, spelled⟩ := expand_paths laws item
      have longer {child : WorkItem F} (expanded : child ∈ walker.expand item)
          : ∃ name, child.path.components = item.path.components ++ [.normal name] := by
        have known := spelled.subset (List.mem_map_of_mem expanded)
        obtain ⟨name, _, same⟩ := List.mem_map.mp known
        exact ⟨name, same.symm⟩
      have apart : (walker.expand item).Pairwise fun child other =>
          child.path.components ≠ other.path.components := by
        have injective : Function.Injective fun name =>
            item.path.components ++ [Component.normal name] := by
          intro name other same
          simpa using same
        have nodup := (distinct.map injective).sublist spelled
        rwa [List.Nodup, List.pairwise_map] at nodup
      rw [reach_eq]
      split
      · rw [List.map_cons, List.nodup_cons, List.map_flatMap, List.nodup_flatMap]
        refine ⟨fun again => ?_, fun child expanded => ?_, ?_⟩
        · obtain ⟨child, expanded, further⟩ := List.mem_flatMap.mp again
          obtain ⟨below, member, same⟩ := List.mem_map.mp further
          obtain ⟨name, child⟩ := longer expanded
          have under := components_prefix_of_reach laws member
          rw [same, child] at under
          have shorter := under.length_le
          rw [List.length_append, List.length_singleton] at shorter
          omega
        · have deeper := mem_expand_depth expanded
          exact ih child (by omega)
        · refine apart.imp_of_mem fun {child other} expanded expandedToo differ => ?_
          -- Two children have paths of one length, so no path lies below both.
          intro path member memberToo
          obtain ⟨below, reached, rfl⟩ := List.mem_map.mp member
          obtain ⟨belowToo, reachedToo, same⟩ := List.mem_map.mp memberToo
          have under := components_prefix_of_reach laws reached
          have underToo := components_prefix_of_reach laws reachedToo
          rw [same] at underToo
          obtain ⟨name, spelledChild⟩ := longer expanded
          obtain ⟨nameToo, spelledOther⟩ := longer expandedToo
          refine differ (List.prefix_of_prefix_length_le under underToo ?_ |>.eq_of_length ?_)
          · simp [spelledChild, spelledOther]
          · simp [spelledChild, spelledOther]
      · exact .nil

def seedTask : (PathBuf × Nat) × Nat → WorkTask F
  | ((root, rootDev), origin) => ⟨origin, root, 0, rootDev, none⟩

def seedsDue (walker : DirectoryWalker) (env : PathEnv) (registry : ProtectionRegistry)
    (test : WorkTask F → Bool) (seeds : List (PathBuf × Nat)) : Nat :=
  (seeds.zipIdx.map fun seed => due walker env registry test (seedTask seed)).sum

theorem account_start (registry first : ProtectionRegistry) (test : WorkTask F → Bool)
    (parallelism : Nat) (seeds : List (PathBuf × Nat))
    : account walker env registry test (start first parallelism seeds)
      = seedsDue walker env registry test seeds := by
  have waiting : ∀ threads : Nat,
      ((List.replicate threads WorkerPhase.receiving).map
        (phaseDue walker env registry test)).sum = 0 := by
    intro threads
    simp [phaseDue]
  unfold account start sharedDue seedsDue
  rw [waiting, List.countP_nil, List.map_map]
  simp only [Nat.zero_add, Nat.add_zero]
  rfl

variable {registry : ProtectionRegistry} {parallelism : Nat} {seeds : List (PathBuf × Nat)}
  {moves : List WalkMove} {state : ThreadedWalk F}

/-- Nothing is gone into beyond what the roots lead to under the first registry. -/
theorem processed_le_seedsDue
    (ran : walker.steps env (start registry parallelism seeds) moves = some state)
    (test : WorkTask F → Bool)
    : state.work.processed.countP test ≤ seedsDue walker env registry test seeds := by
  have bounded := steps_account_le registry test ran fun _ guarded => guarded
  rw [account_start] at bounded
  refine le_trans ?_ bounded
  unfold account sharedDue
  omega

theorem due_pos_iff {test : WorkTask F → Bool} {task : WorkTask F}
    : 0 < due walker env registry test task
      ↔ ∃ item ∈ (walker.under env registry).reach task.item,
        test ⟨task.origin, item⟩ = true := by
  unfold due
  rw [List.countP_pos_iff]
  simp only [List.mem_map, exists_exists_and_eq_and]

theorem comesInto_iff {root path : PathBuf}
    : ComesInto F walker root rootDev path
      ↔ ∃ item ∈ walker.reach (⟨root, 0, rootDev, none⟩ : WorkItem F), item.path = path := by
  have reached (item : WorkItem F)
      : item ∈ walker.reach (Position.item rootDev ⟨0, root, none⟩) ↔ _ := mem_reach_iff
  constructor
  · rintro ⟨position, route, admitted, rfl⟩
    exact ⟨position.item rootDev, (reached _).mpr ⟨position, route, admitted, rfl⟩, rfl⟩
  · rintro ⟨item, member, rfl⟩
    obtain ⟨position, route, admitted, rfl⟩ := (reached item).mp member
    exact ⟨position, route, admitted, rfl⟩

theorem processed_comesInto
    (ran : walker.steps env (start registry parallelism seeds) moves = some state)
    {task : WorkTask F} (member : task ∈ state.work.processed)
    : ∃ root rootDev, seeds[task.origin]? = some (root, rootDev)
      ∧ ComesInto F (walker.under env registry) root rootDev task.item.path := by
  let test (other : WorkTask F) : Bool :=
    other.origin == task.origin && other.item.path == task.item.path
  have counted : 0 < state.work.processed.countP test :=
    List.countP_pos_iff.mpr ⟨task, member, by simp [test]⟩
  have due := counted.trans_le (processed_le_seedsDue ran test)
  obtain ⟨amount, listed, positive⟩ := List.sum_pos_iff_exists_pos_nat.mp due
  obtain ⟨⟨⟨root, rootDev⟩, origin⟩, numbered, rfl⟩ := List.mem_map.mp listed
  obtain ⟨item, reached, passes⟩ := due_pos_iff.mp positive
  obtain ⟨sameOrigin, samePath⟩ : origin = task.origin ∧ item.path = task.item.path := by
    simpa [test, seedTask] using passes
  refine ⟨root, rootDev, ?_, comesInto_iff.mpr ⟨item, reached, samePath⟩⟩
  rw [← sameOrigin]
  exact List.mem_zipIdx_iff_getElem?.mp numbered

omit [Float64 F] in
theorem seed_due {seeds : List (PathBuf × Nat)} {weight : (PathBuf × Nat) × Nat → Nat}
    {origin : Nat} {seed : PathBuf × Nat} (numbered : seeds[origin]? = some seed)
    (others : ∀ other j, j ≠ origin → weight (other, j) = 0)
    : (seeds.zipIdx.map weight).sum = weight (seed, origin) := by
  have single : (seeds.zipIdx.map weight).sum = weight (seed, 0 + origin) :=
    sum_zipIdx_single numbered (by simpa using others)
  rwa [Nat.zero_add] at single

theorem goneInto_distinct (laws : walker.world.ListsNames)
    (ran : walker.steps env (start registry parallelism seeds) moves = some state) (origin : Nat)
    : ((state.goneInto origin).map (·.components)).Nodup := by
  rw [List.nodup_iff_count_le_one]
  intro path
  let test (task : WorkTask F) : Bool :=
    task.item.path.components == path && decide (task.origin = origin)
  have counted : ((state.goneInto origin).map (·.components)).count path
      = state.work.processed.countP test := by
    unfold ThreadedWalk.goneInto
    rw [List.count_eq_countP, List.countP_map, List.countP_map, List.countP_filter]
    rfl
  rw [counted]
  refine (processed_le_seedsDue ran test).trans ?_
  have others : ∀ other j, j ≠ origin →
      due walker env registry test (seedTask (other, j)) = 0 := by
    intro other j apart
    refine Nat.eq_zero_of_not_pos fun positive => ?_
    obtain ⟨item, _, passes⟩ := due_pos_iff.mp positive
    simp [test, seedTask, apart] at passes
  cases numbered : seeds[origin]? with
  | none =>
      have nothing : seedsDue walker env registry test seeds = 0 := by
        refine List.sum_eq_zero fun amount listed => ?_
        obtain ⟨⟨other, j⟩, member, rfl⟩ := List.mem_map.mp listed
        refine others other j fun same => ?_
        have known := List.mem_zipIdx_iff_getElem?.mp member
        simp [same, numbered] at known
      omega
  | some seed =>
      unfold seedsDue
      rw [seed_due numbered others]
      let root : WorkTask F := seedTask (seed, origin)
      have distinct : (((walker.under env registry).reach root.item).map
          (·.path.components)).Nodup := by
        have lawsUnder : (walker.under env registry).world.ListsNames := laws
        exact reach_distinct lawsUnder _
      have once := List.nodup_iff_count_le_one.mp distinct path
      rw [List.count_eq_countP, List.countP_map] at once
      unfold due
      rw [List.countP_map]
      refine (List.countP_mono_left fun item _ passes => ?_).trans once
      exact (Bool.and_eq_true_iff.mp passes).1

/-- With nothing in flight, everything that a root leads to was gone into for it. -/
theorem comesInto_goneInto
    (ran : walker.steps env (start registry parallelism seeds) moves = some state)
    (idle : state.work.inFlight = 0) {origin : Nat} {root path : PathBuf}
    (numbered : seeds[origin]? = some (root, rootDev))
    (comes : ComesInto F (walker.under env state.work.registry) root rootDev path)
    : path ∈ state.goneInto origin := by
  let test (task : WorkTask F) : Bool :=
    task.item.path == path && decide (task.origin = origin)
  have counted : Counted state :=
    steps_induction (fun _ _ _ => counted_step) (counted_start registry parallelism seeds) ran
  obtain ⟨_, enough⟩ := le_steps_account state.work.registry test ran fun _ guarded => guarded
  rw [account_start, account_of_idle counted idle] at enough
  obtain ⟨item, reached, samePath⟩ := comesInto_iff.mp comes
  have due : 0 < due walker env state.work.registry test
      (seedTask ((root, rootDev), origin)) :=
    due_pos_iff.mpr ⟨item, reached, by simp [test, seedTask, samePath]⟩
  have total : 0 < seedsDue walker env state.work.registry test seeds :=
    List.sum_pos_iff_exists_pos_nat.mpr ⟨_, List.mem_map.mpr
      ⟨_, List.mem_zipIdx_iff_getElem?.mpr numbered, rfl⟩, due⟩
  obtain ⟨task, member, passes⟩ := List.countP_pos_iff.mp (total.trans_le enough)
  obtain ⟨samePath, sameOrigin⟩ : task.item.path = path ∧ task.origin = origin := by
    simpa [test] using passes
  exact List.mem_map.mpr ⟨task, List.mem_filter.mpr ⟨member, by simpa using sameOrigin⟩,
    samePath⟩

theorem Turn.inFlight_of_not_processing {work next : SharedWork F}
    {phase nextPhase : WorkerPhase F} (turn : Turn walker env work phase next nextPhase)
    (resting : phase.isProcessing = false) : next.inFlight = work.inFlight := by
  cases turn with
  | timeOut | receive | leave | stay => rfl
  | _ => cases resting

theorem Turn.inFlight_of_returned {work next : SharedWork F} {phase : WorkerPhase F}
    (turn : Turn walker env work phase next .returned) : next.inFlight = 0 := by
  cases turn with
  | leave empty => exact empty

/-- Once a thread has stopped there is nothing in flight, and it stays so. -/
theorem idle_step {state next : ThreadedWalk F} {move : WalkMove} (counted : Counted state)
    (idle : .returned ∈ state.threads → state.work.inFlight = 0)
    (stepped : walker.step env state move = some next)
    : .returned ∈ next.threads → next.work.inFlight = 0 := by
  obtain ⟨phase, nextPhase, running, turn, threads⟩ := step_turn stepped
  rw [threads]
  intro member
  rcases List.mem_or_eq_of_mem_set member with before | same
  · have none := idle before
    have resting : phase.isProcessing = false := by
      have processing : state.processing = 0 := by
        unfold Counted at counted
        omega
      have quiet := List.countP_eq_zero.mp processing phase (List.mem_of_getElem? running)
      simpa using quiet
    exact (turn.inFlight_of_not_processing resting).trans none
  · subst same
    exact turn.inFlight_of_returned

theorem steps_idle
    (ran : walker.steps env (start registry parallelism seeds) moves = some state)
    : .returned ∈ state.threads → state.work.inFlight = 0 := by
  let idle (state : ThreadedWalk F) : Prop :=
    Counted state ∧ (.returned ∈ state.threads → state.work.inFlight = 0)
  have initially : idle (start registry parallelism seeds) := by
    refine ⟨counted_start registry parallelism seeds, fun member => ?_⟩
    cases (List.mem_replicate.mp member).2
  have kept : idle state := steps_induction
    (fun _ _ _ holds stepped =>
      ⟨counted_step holds.1 stepped, idle_step holds.1 holds.2 stepped⟩) initially ran
  exact kept.2

omit [Float64 F] in
theorem exists_seeds_of_stream {first : ThreadedWalk F}
    (started : walker.stream registry parallelism = .ok first)
    : ∃ seeds, walker.seeds walker.config.rootPaths = .ok seeds
      ∧ (∀ root rootDev, (root, rootDev) ∈ seeds
        ↔ root ∈ walker.config.rootPaths ∧ walker.Starts root rootDev)
      ∧ start registry parallelism seeds = first := by
  obtain ⟨succeeds, fails⟩ := seeds_spec walker walker.config.rootPaths
  unfold stream at started
  by_cases readable : walker.RootsReadable walker.config.rootPaths
  · obtain ⟨seeds, same, members⟩ := succeeds readable
    rw [same] at started
    exact ⟨seeds, same, members, Except.ok.inj started⟩
  · obtain ⟨error, same⟩ := fails readable
    rw [same] at started
    cases started

/-- In every run, what is in flight is queued, being processed or announced; what was gone into
is what its root leads to, each path once for its root. When a thread has stopped, everything
that a root leads to was gone into for it.
-/
theorem walk_complete {walker : DirectoryWalker} {env : PathEnv} {registry : ProtectionRegistry}
    {parallelism : Nat} {first state : ThreadedWalk F} {moves : List WalkMove}
    (laws : walker.world.ListsNames) (started : walker.stream registry parallelism = .ok first)
    (ran : walker.steps env first moves = some state)
    : ∃ seeds, walker.seeds walker.config.rootPaths = .ok seeds
      ∧ (∀ root rootDev, (root, rootDev) ∈ seeds
        ↔ root ∈ walker.config.rootPaths ∧ walker.Starts root rootDev)
      ∧ state.work.inFlight = state.work.queue.length + state.processing + state.announcing
      ∧ (∀ task ∈ state.work.processed, ∃ root rootDev,
        seeds[task.origin]? = some (root, rootDev)
        ∧ ComesInto F (walker.under env registry) root rootDev task.item.path)
      ∧ (∀ origin, ((state.goneInto origin).map (·.components)).Nodup)
      ∧ (.returned ∈ state.threads → ∀ origin root rootDev,
        seeds[origin]? = some (root, rootDev) → ∀ path,
          ComesInto F (walker.under env state.work.registry) root rootDev path →
            path ∈ state.goneInto origin) := by
  obtain ⟨seeds, same, members, rfl⟩ := exists_seeds_of_stream started
  refine ⟨seeds, same, members, ?_, fun task member => processed_comesInto ran member,
    goneInto_distinct laws ran, fun stopped origin root rootDev numbered path comes => ?_⟩
  · exact steps_induction (fun _ _ _ => counted_step)
      (counted_start registry parallelism seeds) ran
  · exact comesInto_goneInto ran (steps_idle ran stopped) numbered comes

end DirectoryWalker

namespace Listings

theorem files_listsNames {dirs : Listings} (fileBlocks : Nat)
    (named : ∀ dir ∈ dirs, ∀ entry ∈ dir.2, isFileName entry.name = true)
    (distinct : ∀ dir ∈ dirs, (dir.2.map (·.name)).Nodup)
    : (dirs.files fileBlocks).ListsNames := by
  have listed {path : PathBuf} {entries : List DirEntry}
      (read : (dirs.files fileBlocks).readDir path = some entries)
      : ∃ dir ∈ dirs, dir.2 = entries := by
    obtain ⟨dir, found, same⟩ := Option.map_eq_some_iff.mp read
    exact ⟨dir, List.mem_of_find?_eq_some found, same⟩
  constructor
  · intro path entries read entry member
    obtain ⟨dir, known, rfl⟩ := listed read
    exact named dir known entry member
  · intro path entries read
    obtain ⟨dir, known, rfl⟩ := listed read
    exact distinct dir known

end Listings

def projectListings : Listings :=
  [(⟨"/r"⟩, [⟨"rch-target", some .directory⟩, ⟨"app", some .directory⟩]),
    (⟨"/r/rch-target"⟩, []), (⟨"/r/app"⟩, [])]

namespace DirectoryWalker

def projectWalker : DirectoryWalker where
  config := {
    rootPaths := [⟨"/r"⟩]
    maxDepth := 3
    followSymlinks := false
    crossDevices := false
    excludedPaths := []
    opaquePruning := true
  }
  world := projectListings.files 1
  isProtected _ := false

def projectMoves : List WalkMove := List.replicate 13 ⟨0, false⟩ ++ [⟨0, true⟩, ⟨0, false⟩]

def projectStart : ThreadedWalk ℚ := start .markerOnly 1 [(⟨"/r"⟩, 1)]

theorem projectStart_eq : projectWalker.stream .markerOnly 1 = .ok projectStart := rfl

def projectDone (state : ThreadedWalk ℚ) : Bool :=
  match state.threads with
  | [.returned] => state.goneInto 0 == [⟨"/r"⟩, ⟨"/r/app"⟩]
  | _ => false

theorem projectWalk_done
    : ∃ state, projectWalker.steps plainEnv projectStart projectMoves = some state
      ∧ .returned ∈ state.threads ∧ state.goneInto 0 = [⟨"/r"⟩, ⟨"/r/app"⟩] := by
  have finished : (projectWalker.steps plainEnv projectStart projectMoves).any projectDone
      = true := by decide +kernel
  obtain ⟨state, ran, done⟩ := (Option.any_eq_true ..).mp finished
  unfold projectDone at done
  split at done
  · rename_i stopped
    exact ⟨state, ran, by simp [stopped], by simpa using done⟩
  · cases done

/-- Whatever the root leads to under the registry as the thread leaves it was gone into. -/
theorem projectWalk_complete
    : ∃ state, projectWalker.steps plainEnv projectStart projectMoves = some state
      ∧ ∀ path, ComesInto ℚ (projectWalker.under plainEnv state.work.registry) ⟨"/r"⟩ 1 path →
        path ∈ [(⟨"/r"⟩ : PathBuf), ⟨"/r/app"⟩] := by
  obtain ⟨state, ran, stopped, gone⟩ := projectWalk_done
  have laws : projectWalker.world.ListsNames := Listings.files_listsNames 1 (by decide) (by decide)
  obtain ⟨seeds, same, _, _, _, _, complete⟩ := walk_complete laws projectStart_eq ran
  obtain rfl : [(⟨"/r"⟩, 1)] = seeds := Except.ok.inj same
  refine ⟨state, ran, fun path comes => ?_⟩
  rw [← gone]
  exact complete stopped 0 ⟨"/r"⟩ 1 rfl path comes

/-- A child is counted before it is queued, and a build directory that passes all four filters
is not gone into.
-/
theorem projectWalk_announces
    : (∃ state, projectWalker.steps plainEnv projectStart (projectMoves.take 5) = some state
        ∧ state.work.inFlight ≠ state.work.queue.length + state.processing)
      ∧ ∃ state, projectWalker.steps plainEnv projectStart projectMoves = some state
        ∧ .returned ∈ state.threads
        ∧ projectWalker.Enters 0 ⟨"/r"⟩ ⟨"rch-target", some .directory⟩
        ∧ (projectWalker.under plainEnv .markerOnly).Admits 1 1 ⟨"/r/rch-target"⟩
        ∧ ⟨"/r/rch-target"⟩ ∉ state.goneInto 0 := by
  constructor
  · have announced : (projectWalker.steps plainEnv projectStart (projectMoves.take 5)).any
        (fun state => state.work.inFlight != state.work.queue.length + state.processing)
        = true := by decide +kernel
    obtain ⟨state, ran, uneven⟩ := (Option.any_eq_true ..).mp announced
    exact ⟨state, ran, by simpa using uneven⟩
  · obtain ⟨state, ran, stopped, gone⟩ := projectWalk_done
    refine ⟨state, ran, stopped, ?_, ?_, ?_⟩
    · exact ⟨by decide, by decide, by decide, by decide⟩
    · exact ⟨by decide, by decide, fun _ => ⟨_, rfl, .inr rfl⟩⟩
    · rw [gone]
      decide

end DirectoryWalker

end StorageBallast
