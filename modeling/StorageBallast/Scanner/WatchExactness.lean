import StorageBallast.Scanner.WatchPlans
import StorageBallast.Scanner.WatchedTree

/-! How exact a watch plan is on a static tree. Within its budget it watches each directory once;
what it leaves out below a root makes the root dirty.
-/

namespace StorageBallast

/-- A static tree, some of it unreadable, and what the planner is told about it. -/
structure SeenTree where
  world : WatchWorld
  /-- There is a directory here, and no link. -/
  isDir : Location → Prop
  kinds : ∀ path plain, world.isPlainDir path = .ok plain → (plain = true ↔ isDir path)
  /-- A directory that can be read lists all directories in it. -/
  names : ∀ dir names, world.readDir dir = .ok names →
    ∀ name, isDir (dir.descend [name]) → name ∈ names

namespace SeenTree

/-- A finite tree: its directories, the links to others, and the directories that cannot be
read.
-/
def ofPlaces (dirs links unreadable : List Location) : SeenTree where
  world :=
    { isPlainDir := fun path =>
        if path ∈ dirs then .ok true
        else if path ∈ links then .ok false
        else .error "No such file or directory"
      readDir := fun dir =>
        if dir ∈ unreadable then .error "Permission denied"
        else .ok ((dirs ++ links).filterMap (DirectoryTree.childName dir))
      inotifyInit := .ok ()
      addWatch := fun _ => .ok 0
      readFailure := none }
  isDir path := path ∈ dirs
  kinds path plain kind := by
    dsimp only at kind
    by_cases dir : path ∈ dirs
    · rw [if_pos dir] at kind
      cases kind
      exact iff_of_true rfl dir
    · rw [if_neg dir] at kind
      split at kind
      · cases kind
        exact iff_of_false nofun dir
      · cases kind
  names dir names read name inside := by
    dsimp only at read
    split at read
    · cases read
    · cases read
      exact List.mem_filterMap.mpr
        ⟨_, List.mem_append_left links inside, DirectoryTree.childName_descend⟩

inductive Below (tree : SeenTree) (root : Location) : Location → Prop
  | here (directory : tree.isDir root) : Below tree root root
  | down {dir : Location} {name : FileName} (above : Below tree root dir)
      (directory : tree.isDir (dir.descend [name])) : Below tree root (dir.descend [name])

variable {tree : SeenTree} {budget rounds : Nat} {root : Location}

theorem Below.startsWith {dir : Location} (below : tree.Below root dir)
    : dir.startsWith root = true := by
  induction below with
  | here => exact root.startsWith_self
  | down above _ ih =>
      exact Location.startsWith_trans (Location.descend_startsWith _ _) ih

theorem descend_inj {dir other : Location} {name next : FileName}
    (same : dir.descend [name] = other.descend [next]) : dir = other ∧ name = next := by
  obtain ⟨names, last⟩ := List.append_inj' (congrArg Location.names same) rfl
  exact ⟨congrArg Location.mk names, (List.cons.inj last).1⟩

theorem Below.descend_ne {dir : Location} (below : tree.Below root dir) (name : FileName)
    : dir.descend [name] ≠ root := by
  intro same
  have shorter := (Location.startsWith_iff.mp below.startsWith).length_le
  have lengths := congrArg (fun location => location.names.length) same
  simp only [Location.descend, List.length_append, List.length_singleton] at lengths
  omega

end SeenTree

theorem nodup_sortedRoots (paths : List Location) : (sortedRoots paths).Nodup := by
  refine List.Pairwise.imp ?_ (Std.TreeSet.distinct_toList)
  intro first second different same
  exact different (same ▸ Std.ReflCmp.compare_self)

namespace WatchPlanning

variable {world : WatchWorld} {budget rounds : Nat} {root : Location}
  {children queue roots : List Location} {self : WatchPlanning}

/-- A property that gaps at the root and new watches keep. -/
structure Kept (root : Location) (property : WatchPlanning → Prop) : Prop where
  gap : ∀ self reason, property self → property (self.leaveGap root reason)
  watch : ∀ self dir, property self → property (self.watchDir dir)

variable {property : WatchPlanning → Prop}

theorem Kept.visitChildren (kept : Kept root property) (holds : property self)
    : property (visitChildren world budget root children queue self).1 := by
  induction children generalizing queue self with
  | nil => exact holds
  | cons child rest ih =>
      unfold WatchPlanning.visitChildren
      split
      · exact ih (kept.gap self _ holds)
      · exact ih holds
      · split
        · exact kept.gap self _ holds
        · exact ih (kept.watch self child holds)

theorem Kept.visitQueue (kept : Kept root property) (holds : property self)
    : property (visitQueue world budget root rounds queue self) := by
  induction rounds generalizing queue self with
  | zero => exact holds
  | succ rounds ih =>
      cases queue with
      | nil => exact holds
      | cons dir queue =>
          unfold WatchPlanning.visitQueue
          split
          · exact ih (kept.gap self _ holds)
          next names read =>
            have after := @Kept.visitChildren world budget root (sortedChildPaths dir names) queue
              self property kept holds
            split
            next visited =>
              rw [visited] at after
              exact after
            next visited =>
              rw [visited] at after
              exact ih after

theorem Kept.visitRoot (kept : Kept root property) (holds : property self)
    : property (visitRoot world budget self root) := by
  unfold WatchPlanning.visitRoot
  split
  · exact kept.gap self _ holds
  · split
    · exact kept.gap self _ holds
    · exact kept.gap self _ holds
    · exact kept.visitQueue (kept.watch self root holds)

theorem mem_leaveGap {other : Location} {reason : String}
    : other ∈ (self.leaveGap root reason).dirtyRoots ↔ other = root ∨ other ∈ self.dirtyRoots := by
  rw [leaveGap, Std.TreeSet.mem_insert, Std.LawfulEqCmp.compare_eq_iff_eq, eq_comm]

theorem kept_dirty (root other : Location) : Kept root (other ∈ ·.dirtyRoots) where
  gap _ _ dirty := mem_leaveGap.mpr (.inr dirty)
  watch _ _ dirty := dirty

theorem kept_clean (root other : Location)
    : Kept root fun self => self.complete = true → other ∉ self.dirtyRoots where
  gap _ _ _ := nofun
  watch _ _ clean := clean

structure Added (world : WatchWorld) (budget : Nat) (root : Location)
    (children queue : List Location) (planning : WatchPlanning)
    (visited : WatchPlanning × Option (List Location)) (added : List Location) : Prop where
  watched : visited.1.watchedDirs = planning.watchedDirs ++ added
  within : (planning.watchedDirs ++ added).length ≤ budget
  inside : added.Sublist children
  plain : ∀ child ∈ added, world.isPlainDir child = .ok true
  /-- The work goes on with them queued, or stops with the root dirty. -/
  queued : visited.2 = some (queue ++ added) ∨ visited.2 = none ∧ root ∈ visited.1.dirtyRoots
  left : root ∈ visited.1.dirtyRoots
    ∨ ∀ child ∈ children, world.isPlainDir child ≠ .ok false → child ∈ added

/-- Witness: induction on the children. -/
theorem visitChildren_added (within : self.watchedDirs.length ≤ budget)
    : ∃ added, Added world budget root children queue self
        (visitChildren world budget root children queue self) added := by
  induction children generalizing queue self with
  | nil =>
      exact ⟨[], by simp [visitChildren], by simpa, by simp, nofun, .inl (by simp [visitChildren]),
        .inr nofun⟩
  | cons child rest ih =>
      unfold visitChildren
      cases kind : world.isPlainDir child with
      | error err =>
          obtain ⟨added, spec⟩ := @ih queue
            (self.leaveGap root ("child metadata unavailable under " ++ root.text)) within
          have dirty := @Kept.visitChildren world budget root rest queue
            (self.leaveGap root ("child metadata unavailable under " ++ root.text)) _
            (kept_dirty root root) (mem_leaveGap.mpr (.inl rfl))
          exact ⟨added, spec.watched, spec.within, spec.inside.cons child, spec.plain, spec.queued,
            .inl dirty⟩
      | ok plain =>
          cases plain with
          | false =>
              obtain ⟨added, spec⟩ := @ih queue self within
              refine ⟨added, spec.watched, spec.within, spec.inside.cons child, spec.plain,
                spec.queued, spec.left.imp_right fun all found member notPlain => ?_⟩
              rcases List.mem_cons.mp member with rfl | later
              · exact absurd kind notPlain
              · exact all found later notPlain
          | true =>
              dsimp only
              by_cases full : budget ≤ self.watchedDirs.length
              · rw [if_pos full]
                have dirty : root ∈ (self.leaveGap root
                    "recursive inotify watch budget exhausted").dirtyRoots :=
                  mem_leaveGap.mpr (.inl rfl)
                exact ⟨[], by simp [leaveGap], by simpa, by simp, nofun, .inr ⟨rfl, dirty⟩,
                  .inl dirty⟩
              · rw [if_neg full]
                have room : (self.watchDir child).watchedDirs.length ≤ budget := by
                  simp only [watchDir, List.length_append, List.length_singleton]
                  omega
                obtain ⟨added, spec⟩ := @ih (queue ++ [child]) _ room
                have apart : (self.watchDir child).watchedDirs ++ added
                    = self.watchedDirs ++ child :: added := by simp [watchDir]
                have queues : queue ++ [child] ++ added = queue ++ child :: added := by simp
                refine ⟨child :: added, spec.watched.trans apart, apart ▸ spec.within,
                  spec.inside.cons_cons child, ?_, queues ▸ spec.queued,
                  spec.left.imp_right ?_⟩
                · intro found member
                  rcases List.mem_cons.mp member with rfl | later
                  · exact kind
                  · exact spec.plain found later
                · intro all found member notPlain
                  rcases List.mem_cons.mp member with rfl | later
                  · exact List.mem_cons_self
                  · exact List.mem_cons_of_mem _ (all found later notPlain)

/-- What is watched for one root comes behind what was watched before it. -/
structure Grown (tree : SeenTree) (budget : Nat) (root : Location) (earlier mine : List Location)
    (planning : WatchPlanning) : Prop where
  watched : planning.watchedDirs = earlier ++ mine
  within : planning.watchedDirs.length ≤ budget
  nodup : mine.Nodup
  below : ∀ dir ∈ mine, tree.Below root dir

/-- What the queue of a root stands for. Directories that have left it are the only ones whose
children are watched.
-/
structure Exploring (tree : SeenTree) (budget : Nat) (root : Location)
    (earlier mine queue : List Location) (planning : WatchPlanning) : Prop
    extends Grown tree budget root earlier mine planning where
  first : root ∈ mine
  waiting : queue.Nodup
  queued : queue ⊆ mine
  parents : ∀ dir name, dir.descend [name] ∈ mine →
    dir.descend [name] = root ∨ dir ∈ mine ∧ dir ∉ queue
  explored : root ∈ planning.dirtyRoots
    ∨ ∀ dir ∈ mine, dir ∈ queue ∨ ∀ name, tree.isDir (dir.descend [name]) →
        dir.descend [name] ∈ mine

/-- What planning for one root comes to. -/
structure Covered (tree : SeenTree) (budget : Nat) (root : Location)
    (earlier mine : List Location) (planning : WatchPlanning) : Prop
    extends Grown tree budget root earlier mine planning where
  left : root ∈ planning.dirtyRoots ∨ ∀ dir, tree.Below root dir → dir ∈ mine

variable {tree : SeenTree} {earlier mine : List Location} {dir : Location}
  {names : List FileName}

theorem mem_sortedChildPaths {child : Location}
    : child ∈ sortedChildPaths dir names ↔ ∃ name ∈ names, dir.descend [name] = child := by
  rw [sortedChildPaths, mem_sortedRoots, List.mem_map]

/-- With nothing left to explore all directories below the root are watched. -/
theorem Exploring.covered (exploring : Exploring tree budget root earlier mine [] self)
    : Covered tree budget root earlier mine self where
  toGrown := exploring.toGrown
  left := exploring.explored.imp_right fun explored dir below => by
    induction below with
    | here => exact exploring.first
    | down _ directory above =>
        exact (explored _ above).resolve_left List.not_mem_nil _ directory

theorem Exploring.unread (exploring : Exploring tree budget root earlier mine (dir :: queue) self)
    (reason : String)
    : Exploring tree budget root earlier mine queue (self.leaveGap root reason) where
  watched := exploring.watched
  within := exploring.within
  nodup := exploring.nodup
  below := exploring.below
  first := exploring.first
  waiting := (List.nodup_cons.mp exploring.waiting).2
  queued := List.subset_of_cons_subset exploring.queued
  parents dir name member := (exploring.parents dir name member).imp_right fun ⟨above, left⟩ =>
    ⟨above, fun queued => left (List.mem_cons_of_mem _ queued)⟩
  explored := .inl (mem_leaveGap.mpr (.inl rfl))

/-- The children of a directory in the queue are not watched yet. -/
theorem Exploring.disjoint
    (exploring : Exploring tree budget root earlier mine (dir :: queue) self)
    {added : List Location} (inside : added.Sublist (sortedChildPaths dir names))
    : ∀ child ∈ added, child ∉ mine := by
  intro child member watched
  obtain ⟨name, _, rfl⟩ := mem_sortedChildPaths.mp (inside.subset member)
  have below := exploring.below dir (exploring.queued List.mem_cons_self)
  rcases exploring.parents dir name watched with same | ⟨_, left⟩
  · exact below.descend_ne name same
  · exact left List.mem_cons_self

variable {added : List Location} {visited : WatchPlanning × Option (List Location)}

/-- What is added for a directory below the root is below the root. -/
theorem Exploring.grown
    (exploring : Exploring tree budget root earlier mine (dir :: queue) self)
    (spec : Added tree.world budget root (sortedChildPaths dir names) queue self visited added)
    : Grown tree budget root earlier (mine ++ added) visited.1 where
  watched := by rw [spec.watched, exploring.watched, List.append_assoc]
  within := by
    rw [spec.watched]
    exact spec.within
  nodup := by
    have fresh := exploring.disjoint spec.inside
    refine List.nodup_append.mpr
      ⟨exploring.nodup, (nodup_sortedRoots _).sublist spec.inside, ?_⟩
    intro old watched new member same
    exact fresh new member (same ▸ watched)
  below := by
    intro found member
    rcases List.mem_append.mp member with old | new
    · exact exploring.below found old
    · obtain ⟨name, _, rfl⟩ := mem_sortedChildPaths.mp (spec.inside.subset new)
      have directory := (tree.kinds _ _ (spec.plain _ new)).mp rfl
      exact .down (exploring.below dir (exploring.queued List.mem_cons_self)) directory

/-- A directory leaves the queue with its children watched, unless its root is dirty. -/
theorem Exploring.next
    (exploring : Exploring tree budget root earlier mine (dir :: queue) self)
    (read : tree.world.readDir dir = .ok names)
    (spec : Added tree.world budget root (sortedChildPaths dir names) queue self visited added)
    (kept : root ∈ self.dirtyRoots → root ∈ visited.1.dirtyRoots)
    : Exploring tree budget root earlier (mine ++ added) (queue ++ added) visited.1 where
  toGrown := exploring.grown spec
  first := List.mem_append_left _ exploring.first
  waiting := by
    have fresh := exploring.disjoint spec.inside
    refine List.nodup_append.mpr ⟨(List.nodup_cons.mp exploring.waiting).2,
      (nodup_sortedRoots _).sublist spec.inside, ?_⟩
    intro old queued new member same
    exact fresh new member (same ▸ exploring.queued (List.mem_cons_of_mem _ queued))
  queued := by
    refine List.append_subset.mpr ⟨?_, List.subset_append_right _ _⟩
    intro found queued
    exact List.mem_append_left _ (exploring.queued (List.mem_cons_of_mem _ queued))
  parents := by
    have fresh := exploring.disjoint spec.inside
    intro above name member
    have gone : ∀ found, found ∈ mine → found ∉ queue → found ∉ queue ++ added := by
      intro found watched left queued
      rcases List.mem_append.mp queued with old | new
      · exact left old
      · exact fresh found new watched
    rcases List.mem_append.mp member with old | new
    · refine (exploring.parents above name old).imp_right fun ⟨watched, left⟩ => ?_
      have left : above ∉ queue := fun queued => left (List.mem_cons_of_mem _ queued)
      exact ⟨List.mem_append_left _ watched, gone above watched left⟩
    · obtain ⟨child, _, same⟩ := mem_sortedChildPaths.mp (spec.inside.subset new)
      obtain ⟨rfl, _⟩ := SeenTree.descend_inj same
      have watched := exploring.queued List.mem_cons_self
      exact .inr ⟨List.mem_append_left _ watched,
        gone dir watched (List.nodup_cons.mp exploring.waiting).1⟩
  explored := by
    rcases exploring.explored with dirty | explored
    · exact .inl (kept dirty)
    rcases spec.left with dirty | all
    · exact .inl dirty
    refine .inr fun found member => ?_
    rcases List.mem_append.mp member with old | new
    · rcases explored found old with waiting | done
      · rcases List.mem_cons.mp waiting with rfl | later
        · refine .inr fun name directory => ?_
          have listed := tree.names _ _ read name directory
          have child : found.descend [name] ∈ sortedChildPaths found names :=
            mem_sortedChildPaths.mpr ⟨name, listed, rfl⟩
          have isDir : tree.world.isPlainDir (found.descend [name]) ≠ .ok false := by
            intro kind
            cases (tree.kinds _ _ kind).mpr directory
          exact List.mem_append_right _ (all _ child isDir)
        · exact .inl (List.mem_append_left _ later)
      · exact .inr fun name directory => List.mem_append_left _ (done name directory)
    · exact .inl (List.mem_append_right _ new)

/-- With enough rounds the root is covered. Each round takes one directory from the queue, and
each one put there takes from the budget. Witness: induction on the rounds.
-/
theorem visitQueue_covered (exploring : Exploring tree budget root earlier mine queue self)
    (enough : queue.length + (budget - self.watchedDirs.length) ≤ rounds)
    : ∃ mine, Covered tree budget root earlier mine
        (visitQueue tree.world budget root rounds queue self) := by
  induction rounds generalizing queue self mine with
  | zero =>
      obtain rfl : queue = [] := List.length_eq_zero_iff.mp (by omega)
      exact ⟨mine, exploring.covered⟩
  | succ rounds ih =>
      cases queue with
      | nil => exact ⟨mine, exploring.covered⟩
      | cons dir queue =>
          rw [List.length_cons] at enough
          unfold visitQueue
          cases read : tree.world.readDir dir with
          | error err =>
              apply ih (exploring.unread _)
              change queue.length + (budget - self.watchedDirs.length) ≤ rounds
              omega
          | ok names =>
              obtain ⟨added, spec⟩ := @visitChildren_added tree.world budget root
                (sortedChildPaths dir names) queue self exploring.within
              have kept : root ∈ self.dirtyRoots → _ :=
                @Kept.visitChildren tree.world budget root (sortedChildPaths dir names) queue
                  self _ (kept_dirty root root)
              rcases visited : visitChildren tree.world budget root (sortedChildPaths dir names)
                queue self with ⟨after, result⟩
              dsimp only
              rw [visited] at spec kept ⊢
              rcases spec.queued with goesOn | ⟨stopped, dirty⟩
              · obtain rfl : result = some (queue ++ added) := goesOn
                apply ih (exploring.next read spec kept)
                have within := spec.within
                rw [spec.watched]
                simp only [List.length_append] at within ⊢
                omega
              · obtain rfl : result = none := stopped
                exact ⟨mine ++ added, exploring.grown spec, .inl dirty⟩

theorem visitRoot_covered (within : self.watchedDirs.length ≤ budget)
    : ∃ mine, Covered tree budget root self.watchedDirs mine
        (visitRoot tree.world budget self root) := by
  have gap : ∀ reason, Covered tree budget root self.watchedDirs [] (self.leaveGap root reason) :=
    fun reason => ⟨⟨(List.append_nil _).symm, within, List.nodup_nil, nofun⟩,
      .inl (mem_leaveGap.mpr (.inl rfl))⟩
  unfold visitRoot
  by_cases full : budget ≤ self.watchedDirs.length
  · rw [if_pos full]
    exact ⟨[], gap _⟩
  · rw [if_neg full]
    cases kind : tree.world.isPlainDir root with
    | error err => exact ⟨[], gap _⟩
    | ok plain =>
        cases plain with
        | false => exact ⟨[], gap _⟩
        | true =>
            have here : tree.Below root root := .here ((tree.kinds _ _ kind).mp rfl)
            have counted : (self.watchDir root).watchedDirs.length = self.watchedDirs.length + 1 :=
              List.length_append
            have begun : Exploring tree budget root self.watchedDirs [root] [root]
                (self.watchDir root) := by
              have single : [root].Nodup := List.nodup_cons.mpr ⟨nofun, List.nodup_nil⟩
              refine ⟨⟨rfl, by omega, single, ?_⟩, List.mem_singleton_self _, single,
                List.Subset.refl _, ?_, .inr fun dir => .inl⟩
              · intro dir member
                exact List.mem_singleton.mp member ▸ here
              · intro dir name member
                exact .inl (List.mem_singleton.mp member)
            apply visitQueue_covered begun
            rw [counted, List.length_singleton]
            omega

def Apart (roots : List Location) : Prop :=
  roots.Pairwise fun root other =>
    root.startsWith other = false ∧ other.startsWith root = false

structure Carried (tree : SeenTree) (budget : Nat) (roots : List Location)
    (planning : WatchPlanning) : Prop where
  within : planning.watchedDirs.length ≤ budget
  nodup : planning.watchedDirs.Nodup
  below : ∀ dir ∈ planning.watchedDirs, ∃ root ∈ roots, tree.Below root dir
  left : ∀ root ∈ roots, root ∈ planning.dirtyRoots
    ∨ ∀ dir, tree.Below root dir → dir ∈ planning.watchedDirs

theorem Carried.next (carried : Carried tree budget roots self)
    (apart : ∀ other ∈ roots, other.startsWith root = false ∧ root.startsWith other = false)
    : Carried tree budget (roots ++ [root]) (visitRoot tree.world budget self root) := by
  obtain ⟨mine, covered⟩ := @visitRoot_covered budget root self tree carried.within
  constructor
  · exact covered.within
  · rw [covered.watched]
    refine List.nodup_append.mpr ⟨carried.nodup, covered.nodup, ?_⟩
    rintro dir before _ new rfl
    obtain ⟨other, member, below⟩ := carried.below dir before
    obtain ⟨notBelow, notAbove⟩ := apart other member
    have one := Location.startsWith_iff.mp below.startsWith
    have two := Location.startsWith_iff.mp (covered.below dir new).startsWith
    rcases List.prefix_or_prefix_of_prefix one two with nested | nested
    · exact absurd (Location.startsWith_iff.mpr nested) (by simp [notAbove])
    · exact absurd (Location.startsWith_iff.mpr nested) (by simp [notBelow])
  · intro dir member
    rw [covered.watched] at member
    rcases List.mem_append.mp member with before | new
    · obtain ⟨other, member, below⟩ := carried.below dir before
      exact ⟨other, List.mem_append_left _ member, below⟩
    · exact ⟨root, List.mem_append_right _ (List.mem_singleton_self _), covered.below dir new⟩
  · intro other member
    rw [covered.watched]
    rcases List.mem_append.mp member with before | new
    · refine (carried.left other before).imp (kept_dirty root other).visitRoot ?_
      intro all dir below
      exact List.mem_append_left _ (all dir below)
    · obtain rfl := List.mem_singleton.mp new
      exact covered.left.imp_right fun all dir below => List.mem_append_right _ (all dir below)

/-- By induction on the roots that are left. -/
theorem Carried.fold {done : List Location} (carried : Carried tree budget done self)
    (apart : Apart (done ++ roots))
    : Carried tree budget (done ++ roots) (roots.foldl (visitRoot tree.world budget) self) := by
  induction roots generalizing done self with
  | nil =>
      rw [List.append_nil]
      exact carried
  | cons root rest ih =>
      have behind := (List.pairwise_append.mp apart).2.2
      have next := carried.next fun other member => behind other member root List.mem_cons_self
      rw [List.append_cons] at apart ⊢
      exact ih next apart

theorem clean_fold {done : WatchPlanning}
    (clean : done.complete = true → root ∉ done.dirtyRoots)
    : (roots.foldl (visitRoot world budget) done).complete = true →
        root ∉ (roots.foldl (visitRoot world budget) done).dirtyRoots := by
  induction roots generalizing done with
  | nil => exact clean
  | cons other rest ih => exact ih ((kept_clean other root).visitRoot clean)

end WatchPlanning

/-- The plan is exact: what it watches lies below the roots, and what it misses makes its root
dirty.
-/
structure EventSourcePlan.Exact (tree : SeenTree) (roots : List Location) (budget : Nat)
    (plan : EventSourcePlan) : Prop where
  within : plan.watchedDirs.length ≤ budget
  nodup : plan.watchedDirs.Nodup
  below : ∀ dir ∈ plan.watchedDirs, ∃ root ∈ roots, tree.Below root dir
  complete : plan.complete = true →
    ∀ dir, dir ∈ plan.watchedDirs ↔ ∃ root ∈ roots, tree.Below root dir
  dirty : ∀ root ∈ roots, ∀ dir, tree.Below root dir → dir ∉ plan.watchedDirs →
    root ∈ plan.dirtyRoots

/-- On each tree and within each budget the plan of roots that lie apart is exact. -/
theorem EventSourcePlan.recursiveInotify_exact (tree : SeenTree) (budget : Nat)
    {roots : List Location} (apart : WatchPlanning.Apart roots)
    : (EventSourcePlan.recursiveInotify tree.world roots budget).Exact tree roots budget := by
  have begun : WatchPlanning.Carried tree budget [] .start :=
    ⟨Nat.zero_le _, List.nodup_nil, nofun, nofun⟩
  have carried := @WatchPlanning.Carried.fold budget roots .start tree [] begun apart
  have missed : ∀ root ∈ roots, ∀ dir, tree.Below root dir →
      dir ∉ (EventSourcePlan.recursiveInotify tree.world roots budget).watchedDirs →
      root ∈ (EventSourcePlan.recursiveInotify tree.world roots budget).dirtyRoots := by
    intro root member dir below unwatched
    rcases carried.left root member with dirty | all
    · exact dirty
    · exact absurd (all dir below) unwatched
  refine ⟨carried.within, carried.nodup, carried.below, ?_, missed⟩
  intro complete dir
  refine ⟨carried.below dir, fun ⟨root, member, below⟩ => ?_⟩
  by_contra unwatched
  have clean := @WatchPlanning.clean_fold tree.world budget root roots .start
    (fun _ => Std.TreeSet.not_mem_emptyc) complete
  exact clean (missed root member dir below unwatched)

/-- Two roots with a directory that cannot be read and a link, and room for three watches. -/
theorem EventSourcePlan.two_roots_exact
    : let places : List Location :=
        [⟨[⟨"data", by decide⟩]⟩, ⟨[⟨"data", by decide⟩, ⟨"shut", by decide⟩]⟩,
          ⟨[⟨"data", by decide⟩, ⟨"wide", by decide⟩]⟩, ⟨[⟨"home", by decide⟩]⟩]
      let tree := SeenTree.ofPlaces places [⟨[⟨"data", by decide⟩, ⟨"link", by decide⟩]⟩]
        [⟨[⟨"data", by decide⟩, ⟨"shut", by decide⟩]⟩]
      let roots : List Location := [⟨[⟨"data", by decide⟩]⟩, ⟨[⟨"home", by decide⟩]⟩]
      (EventSourcePlan.recursiveInotify tree.world roots 3).Exact tree roots 3
        ∧ (EventSourcePlan.recursiveInotify tree.world roots 3).watchedDirs.length = 3 :=
  ⟨EventSourcePlan.recursiveInotify_exact _ 3 (by
    rw [WatchPlanning.Apart]
    decide), by decide⟩

end StorageBallast
