import Mathlib.Logic.Relation
import StorageBallast.Scanner.WalkCompletion

/-! Whether the walker's threads report what is protected. A marker is found while its
directory is listed, and whatever lies below waits until then; so reports are safe as long as
listings get as far as their markers and nothing is reported without being listed and checked.
-/

namespace StorageBallast

variable {F : Type}

/-- The new marker protects what resolves to its directory or below, and nothing else is
protected anew.
-/
theorem ProtectionRegistry.isProtected_registerMarker {registry : ProtectionRegistry}
    {env : PathEnv} {dir path : PathBuf}
    (guarded : (registry.registerMarker env dir).isProtected env path = true)
    : registry.isProtected env path = true
      ∨ (env.resolveAbsolutePath path).startsWith (env.resolveAbsolutePath dir) = true := by
  rw [isProtected_iff, registerMarker_patterns] at guarded
  rw [isProtected_iff]
  rcases guarded with ⟨location, above, registered⟩ | matched
  · rcases mem_registerMarker.mp registered with known | rfl
    · exact .inl (.inl ⟨location, above, known⟩)
    · exact .inr (Location.startsWith_of_mem_ancestors above)
  · exact .inl (.inr matched)

namespace DirectoryWalker

open Relation

def Marked (walker : DirectoryWalker) (dir : PathBuf) : Prop :=
  ∃ entries, walker.world.readDir dir = some entries
    ∧ ∃ entry ∈ entries, entry.name = markerFilename

def InTree (walker : DirectoryWalker) (path : PathBuf) : Prop :=
  ∃ root ∈ walker.config.rootPaths, path.startsWith root = true

def MarksSubtree (walker : DirectoryWalker) (dir : PathBuf) : Prop :=
  walker.Marked dir ∧ walker.InTree dir

def LiesIn (env : PathEnv) (path dir : PathBuf) : Prop :=
  path.startsWith dir = true
    ∨ (env.resolveAbsolutePath path).startsWith (env.resolveAbsolutePath dir) = true

def LiesBelow (env : PathEnv) (path dir : PathBuf) : Prop :=
  (path.startsWith dir = true ∧ dir.components ≠ path.components)
    ∨ (env.resolveAbsolutePath path).StrictlyBelow (env.resolveAbsolutePath dir)

/-- Neither a marker nor the registry protects the path. -/
structure Unprotected (walker : DirectoryWalker) (env : PathEnv) (registry : ProtectionRegistry)
    (path : PathBuf) : Prop where
  unmarked : ∀ dir, walker.MarksSubtree dir → ¬ LiesIn env path dir
  unregistered : registry.isProtected env path = false

def Clear (walker : DirectoryWalker) (env : PathEnv) (path : PathBuf) : Prop :=
  ∀ dir, walker.MarksSubtree dir → ¬ LiesBelow env path dir

def IsEntryPoint (walker : DirectoryWalker) (path : PathBuf) : Prop :=
  path ∈ walker.config.rootPaths
    ∨ ∃ dir, ∃ entry ∈ walker.examined dir,
      entry.kind = some .symlink ∧ path = dir.join entry.name

structure ResolvesTree (walker : DirectoryWalker) (env : PathEnv) : Prop where
  /-- Listings contain names of entries. -/
  named : ∀ dir entries, walker.world.readDir dir = some entries →
    ∀ entry ∈ entries, isFileName entry.name = true
  /-- Spellings of a directory, and paths that resolve to it, list the same entries. -/
  oneDirectory : ∀ dir other, walker.Marked dir →
    dir.components = other.components
      ∨ env.resolveAbsolutePath dir = env.resolveAbsolutePath other → walker.Marked other
  /-- A directory that is no link is found in its parent. -/
  child : ∀ dir entries, walker.world.readDir dir = some entries → ∀ entry ∈ entries,
    entry.kind = some .directory → ∀ valid : isFileName entry.name = true,
      env.resolveAbsolutePath (dir.join entry.name)
        = (env.resolveAbsolutePath dir).descend [⟨entry.name, valid⟩]

variable {walker : DirectoryWalker} {env : PathEnv} {registry grown : ProtectionRegistry}

/-- What lies in a directory lies below it or is that directory. -/
theorem LiesIn.cases {path dir : PathBuf} (within : LiesIn env path dir)
    : LiesBelow env path dir
      ∨ dir.components = path.components
      ∨ env.resolveAbsolutePath dir = env.resolveAbsolutePath path := by
  rcases within with spelled | resolved
  · by_cases same : dir.components = path.components
    · exact .inr (.inl same)
    · exact .inl (.inl ⟨spelled, same⟩)
  · by_cases same : env.resolveAbsolutePath path = env.resolveAbsolutePath dir
    · exact .inr (.inr same.symm)
    · exact .inl (.inr ⟨resolved, same⟩)

variable {path : PathBuf}

theorem unprotected_of_clear (laws : walker.ResolvesTree env)
    (clear : walker.Clear env path) (unmarked : ¬ walker.Marked path)
    (unregistered : registry.isProtected env path = false)
    : walker.Unprotected env registry path := by
  refine ⟨fun dir marks within => ?_, unregistered⟩
  rcases within.cases with below | same
  · exact clear dir marks below
  · exact unmarked (laws.oneDirectory dir path marks.1 same)

/-- Where a name is added at the end, what lay strictly above lies above without it. -/
theorem liesIn_of_join {dir above : PathBuf} {name : String} (valid : isFileName name = true)
    (spelled : (dir.join name).startsWith above = true)
    (strictly : above.components ≠ (dir.join name).components)
    : LiesIn env dir above := by
  unfold PathBuf.startsWith at spelled
  rw [PathBuf.components_join dir valid] at spelled strictly
  rcases List.prefix_concat_iff.mp (List.isPrefixOf_iff_prefix.mp spelled) with same | front
  · exact absurd same strictly
  · exact .inl (List.isPrefixOf_iff_prefix.mpr front)

variable {entries : List DirEntry}

/-- Nothing above a child of an unprotected directory has a marker, if the child is no link. -/
theorem clear_child (laws : walker.ResolvesTree env) {dir : PathBuf} {entry : DirEntry}
    (unprotected : walker.Unprotected env registry dir)
    (read : walker.world.readDir dir = some entries) (listed : entry ∈ entries)
    (directory : entry.kind = some .directory)
    : walker.Clear env (dir.join entry.name) := by
  have valid := laws.named dir entries read entry listed
  rintro above marks (⟨spelled, strictly⟩ | resolved)
  · exact unprotected.unmarked above marks (liesIn_of_join valid spelled strictly)
  · rw [laws.child dir entries read entry listed directory valid] at resolved
    obtain ⟨within, strictly⟩ := resolved
    refine unprotected.unmarked above marks (.inr ?_)
    rw [Location.startsWith_iff] at within ⊢
    rcases List.prefix_concat_iff.mp within with same | front
    · exact absurd (congrArg Location.mk same).symm strictly
    · exact front

def Learns (walker : DirectoryWalker) (env : PathEnv) (registry grown : ProtectionRegistry)
    : Prop :=
  grown = registry ∨ ∃ dir, walker.MarksSubtree dir ∧ grown = registry.registerMarker env dir

theorem Learns.isProtected (learns : walker.Learns env registry grown)
    (guarded : grown.isProtected env path = true)
    : registry.isProtected env path = true
      ∨ ∃ dir, walker.MarksSubtree dir
        ∧ (env.resolveAbsolutePath path).startsWith (env.resolveAbsolutePath dir) = true := by
  rcases learns with rfl | ⟨dir, marks, rfl⟩
  · exact .inl guarded
  · exact (ProtectionRegistry.isProtected_registerMarker guarded).imp_right
      fun within => ⟨dir, marks, within⟩

/-- No marker that is found makes an unprotected path protected. -/
theorem Unprotected.learn (unprotected : walker.Unprotected env registry path)
    (learns : walker.Learns env registry grown) : walker.Unprotected env grown path := by
  refine ⟨unprotected.unmarked, ?_⟩
  by_contra guarded
  rcases learns.isProtected (by simpa using guarded) with before | ⟨dir, marks, within⟩
  · rw [unprotected.unregistered] at before
    cases before
  · exact unprotected.unmarked dir marks (.inr within)

/-- A directory that waits to be taken up. -/
structure Queueable (walker : DirectoryWalker) (env : PathEnv) (path : PathBuf) : Prop where
  inTree : walker.InTree path
  clear : ¬ walker.IsEntryPoint path → walker.Clear env path

/-- A directory that passed the checks; by now it may be known to be marked itself. -/
structure Opened (walker : DirectoryWalker) (env : PathEnv) (registry : ProtectionRegistry)
    (path : PathBuf) : Prop where
  inTree : walker.InTree path
  clear : walker.Clear env path
  marked : registry.isProtected env path = true → walker.Marked path

structure Dispatches (walker : DirectoryWalker) (env : PathEnv) (registry : ProtectionRegistry)
    (item : WorkItem F) (pending : List PathBuf) : Prop where
  inTree : walker.InTree item.path
  unprotected : walker.Unprotected env registry item.path
  children : ∀ child ∈ pending, ∃ entry, walker.Enters item.depth item.path entry
    ∧ child = item.path.join entry.name

/-- What holds of what a thread works on. -/
def PhaseKept (walker : DirectoryWalker) (env : PathEnv) (registry : ProtectionRegistry)
    : WorkerPhase F → Prop
  | .receiving => True
  | .received task => walker.Queueable env task.item.path
  | .opened task _ => walker.Opened env registry task.item.path
  | .dispatching task _ _ pending => walker.Dispatches env registry task.item pending
  | .announced task _ _ child pending =>
      walker.Dispatches env registry task.item pending
        ∧ walker.Queueable env child.path
  | .finishing _ _ => True
  | .timedOut => True
  | .returned => True

/-- No report is protected, and what holds of queued directories holds of all of them. -/
structure SharedKept (walker : DirectoryWalker) (env : PathEnv) (work : SharedWork F)
    : Prop where
  results : ∀ entry ∈ work.results, walker.Unprotected env work.registry entry.path
  queue : ∀ task ∈ work.queue, walker.Queueable env task.item.path

theorem Opened.learn (laws : walker.ResolvesTree env)
    (opened : walker.Opened env registry path) (learns : walker.Learns env registry grown)
    : walker.Opened env grown path := by
  refine ⟨opened.inTree, opened.clear, fun guarded => ?_⟩
  rcases learns.isProtected guarded with before | ⟨dir, marks, within⟩
  · exact opened.marked before
  · have inside : LiesIn env path dir := .inr within
    rcases inside.cases with below | same
    · exact absurd below (opened.clear dir marks)
    · exact laws.oneDirectory dir path marks.1 same

variable {pending : List PathBuf}

theorem Dispatches.learn {item : WorkItem F}
    (dispatches : walker.Dispatches env registry item pending)
    (learns : walker.Learns env registry grown)
    : walker.Dispatches env grown item pending :=
  ⟨dispatches.inTree, dispatches.unprotected.learn learns, dispatches.children⟩

theorem PhaseKept.learn (laws : walker.ResolvesTree env) {phase : WorkerPhase F}
    (kept : walker.PhaseKept env registry phase) (learns : walker.Learns env registry grown)
    : walker.PhaseKept env grown phase := by
  cases phase with
  | receiving | finishing _ _ | timedOut | returned => trivial
  | received task => exact kept
  | opened task metadata => exact Opened.learn laws kept learns
  | dispatching task metadata listing pending => exact Dispatches.learn kept learns
  | announced task metadata listing child pending =>
      exact ⟨kept.1.learn learns, kept.2⟩

theorem Dispatches.queueable (laws : walker.ResolvesTree env) {item : WorkItem F} {child : PathBuf}
    (dispatches : walker.Dispatches env registry item (child :: pending))
    : walker.Queueable env child := by
  obtain ⟨entry, enters, rfl⟩ := dispatches.children child List.mem_cons_self
  obtain ⟨entries, read, listed⟩ := exists_read_of_examined enters.examined
  constructor
  · obtain ⟨root, known, below⟩ := dispatches.inTree
    refine ⟨root, known, ?_⟩
    unfold PathBuf.startsWith at below ⊢
    rw [PathBuf.components_join _ (laws.named _ _ read entry listed)]
    rw [List.isPrefixOf_iff_prefix] at below ⊢
    exact below.trans (List.prefix_append _ _)
  · intro descended
    obtain ⟨kind, known, taken⟩ := (Option.any_eq_true ..).mp enters.directory
    -- What is taken up is a directory or a link to one.
    have directory : kind = .directory := by
      unfold isChildDir at taken
      split at taken
      · rename_i link
        have symlink : kind = .symlink := by simpa using (Bool.and_eq_true_iff.mp link).2
        rw [symlink] at known
        exact absurd (.inr ⟨item.path, entry, enters.examined, known, rfl⟩) descended
      · simpa using taken
    rw [directory] at known
    exact clear_child laws dispatches.unprotected read listed known

variable [Float64 F]

/-- No shortcut lets something protected out in the next action of a thread. -/
structure SeesMarkers (walker : DirectoryWalker) (env : PathEnv) (registry : ProtectionRegistry)
    (phase : WorkerPhase F) : Prop where
  /-- A root or a link that passes the checks does not lie below a marked directory. -/
  entered : ∀ task, phase = .received task → walker.IsEntryPoint task.item.path →
    (walker.under env registry).goesInto task.item = true → walker.Clear env task.item.path
  /-- A marker is among the entries that are looked at. -/
  listed : ∀ task metadata, phase = .opened task metadata → walker.Marked task.item.path →
    ∃ entry ∈ walker.examined task.item.path, entry.name = markerFilename
  /-- An opaque candidate, which is reported without being listed, has no marker and is not
  known to be protected, and if it is a link it does not lie below a marked directory.
  -/
  reported : ∀ task metadata listing child pending (verdict : OpaqueTreeClassification F),
    phase = .dispatching task metadata listing (child :: pending) →
    walker.childOpaqueTree listing child = some verdict →
    verdict.disposition = .candidateOpaque → walker.OnDevice task.item.rootDeviceId child →
      ¬ walker.Marked child ∧ registry.isProtected env child = false
        ∧ (walker.IsEntryPoint child → walker.Clear env child)

def SightedStep (walker : DirectoryWalker) (env : PathEnv) (state next : ThreadedWalk F) : Prop :=
  ∃ move, (∀ phase, state.threads[move.thread]? = some phase →
      walker.SeesMarkers env state.work.registry phase)
    ∧ walker.step env state move = some next

/-- A directory that was listed without giving up is unprotected. -/
theorem Opened.dispatches (laws : walker.ResolvesTree env) {task : WorkTask F}
    {metadata : Option Metadata} {listing : DirListing}
    (opened : walker.Opened env registry task.item.path)
    (sees : walker.SeesMarkers env registry (.opened task metadata))
    (read : walker.world.readDir task.item.path = some entries)
    (listed : walker.listEntries task.item.depth task.item.path entries .start = some listing)
    : walker.Dispatches env registry task.item listing.pendingChildren := by
  have spec := listingOf_of_listEntries read listed
  have unmarked : ¬ walker.Marked task.item.path := by
    intro marked
    obtain ⟨entry, member, marker⟩ := sees.listed task metadata rfl marked
    exact spec.1 entry member marker
  have unregistered : registry.isProtected env task.item.path = false := by
    by_contra guarded
    exact unmarked (opened.marked (by simpa using guarded))
  refine ⟨opened.inTree, ?_, fun child waiting => spec.2.mem_children.mp waiting⟩
  exact unprotected_of_clear laws opened.clear unmarked unregistered

/-- A candidate that is reported without being listed is unprotected. -/
theorem Dispatches.childEntry (laws : walker.ResolvesTree env) {task : WorkTask F}
    {metadata : Option Metadata} {listing : DirListing} {child : PathBuf} {entry : WalkEntry F}
    (dispatches : walker.Dispatches env registry task.item (child :: pending))
    (sees : walker.SeesMarkers env registry
      (.dispatching task metadata listing (child :: pending)))
    (reported : walker.childEntry task.item listing child = some entry)
    : walker.Unprotected env registry entry.path := by
  unfold DirectoryWalker.childEntry at reported
  split at reported
  · cases reported
  · rename_i verdict decided
    split at reported
    · rename_i candidate
      obtain ⟨rfl, _⟩ := opaqueEntry_fields reported
      have onDevice := (opaqueEntry_eq_some ..).mp ⟨entry, reported⟩
      obtain ⟨unmarked, unregistered, clear⟩ := sees.reported task metadata listing entry.path
        pending verdict rfl decided candidate onDevice
      have clear : walker.Clear env entry.path := by
        by_cases entryPoint : walker.IsEntryPoint entry.path
        · exact clear entryPoint
        · exact (dispatches.queueable laws).clear entryPoint
      exact unprotected_of_clear laws clear unmarked unregistered
    · cases reported
    · cases reported

theorem marked_of_listEntries {depth : Nat} {dir : PathBuf}
    (read : walker.world.readDir dir = some entries)
    (gaveUp : walker.listEntries depth dir entries .start = none) : walker.Marked dir := by
  have spec := listEntries_spec walker depth dir entries .start (maxEntriesPerDir - 1) rfl
  rw [gaveUp] at spec
  obtain ⟨entry, member, marker⟩ := spec
  exact ⟨entries, read, entry, List.mem_of_mem_take member, marker⟩

/-- What is reported, queued and worked on stays in order in a turn that sees the markers, and
the registry learns at most one marker.
-/
theorem Turn.kept (laws : walker.ResolvesTree env) {work next : SharedWork F}
    {phase nextPhase : WorkerPhase F} (turn : Turn walker env work phase next nextPhase)
    (sees : walker.SeesMarkers env work.registry phase) (shared : walker.SharedKept env work)
    (own : walker.PhaseKept env work.registry phase)
    : walker.Learns env work.registry next.registry
      ∧ walker.SharedKept env next ∧ walker.PhaseKept env next.registry nextPhase := by
  cases turn with
  | timeOut => exact ⟨.inl rfl, shared, trivial⟩
  | receive task rest queued =>
      have waiting : task ∈ work.queue := by simp [queued]
      refine ⟨.inl rfl, ⟨shared.results, fun other member => ?_⟩, shared.queue task waiting⟩
      exact shared.queue other (by simp [queued, member])
  | skip task barred => exact ⟨.inl rfl, shared, trivial⟩
  | enter task metadata passed =>
      have queueable : walker.Queueable env task.item.path := own
      obtain ⟨_, notProtected, _⟩ := checkDirectory_eq_some.mp passed
      change work.registry.isProtected env task.item.path = false at notProtected
      refine ⟨.inl rfl, shared, queueable.inTree, ?_, fun guarded => ?_⟩
      · by_cases entryPoint : walker.IsEntryPoint task.item.path
        · exact sees.entered task rfl entryPoint (by simp [goesInto, passed])
        · exact queueable.clear entryPoint
      · rw [guarded] at notProtected
        cases notProtected
  | unreadable task metadata closed => exact ⟨.inl rfl, shared, trivial⟩
  | marker task metadata entries read marked =>
      have opened : walker.Opened env work.registry task.item.path := own
      have learns : walker.Learns env work.registry
          (work.registry.registerMarker env task.item.path) :=
        .inr ⟨task.item.path, ⟨marked_of_listEntries read marked, opened.inTree⟩, rfl⟩
      refine ⟨learns, ⟨fun entry member => ?_, shared.queue⟩, trivial⟩
      exact (shared.results entry member).learn learns
  | list task metadata entries listing read listed =>
      exact ⟨.inl rfl, shared, Opened.dispatches laws own sees read listed⟩
  | announce task metadata listing child pending item queues =>
      have dispatches : walker.Dispatches env work.registry task.item (child :: pending) := own
      have queueable := dispatches.queueable laws
      obtain ⟨rfl, _⟩ := childItem_eq_some queues
      refine ⟨.inl rfl, ⟨shared.results, shared.queue⟩,
        ⟨dispatches.inTree, dispatches.unprotected, ?_⟩, queueable⟩
      exact fun other member => dispatches.children other (List.mem_cons_of_mem _ member)
  | leaveOut task metadata listing child pending notQueued =>
      have dispatches : walker.Dispatches env work.registry task.item (child :: pending) := own
      refine ⟨.inl rfl, ⟨fun entry member => ?_, shared.queue⟩,
        dispatches.inTree, dispatches.unprotected, ?_⟩
      · rcases List.mem_append.mp member with before | reported
        · exact shared.results entry before
        · exact dispatches.childEntry laws sees (Option.mem_toList.mp reported)
      · exact fun other member => dispatches.children other (List.mem_cons_of_mem _ member)
  | send task metadata listing child pending =>
      refine ⟨.inl rfl, ⟨shared.results, fun waiting member => ?_⟩, own.1⟩
      rcases List.mem_append.mp member with before | sent
      · exact shared.queue waiting before
      · obtain rfl := List.mem_singleton.mp sent
        exact own.2
  | report task metadata listing =>
      have dispatches : walker.Dispatches env work.registry task.item [] := own
      refine ⟨.inl rfl, ⟨fun entry member => ?_, shared.queue⟩, trivial⟩
      rcases List.mem_append.mp member with before | reported
      · exact shared.results entry before
      · obtain ⟨found, _, rfl⟩ := Option.map_eq_some_iff.mp (Option.mem_toList.mp reported)
        exact dispatches.unprotected
  | finish task entered => exact ⟨.inl rfl, ⟨shared.results, shared.queue⟩, trivial⟩
  | leave empty => exact ⟨.inl rfl, shared, trivial⟩
  | stay busy => exact ⟨.inl rfl, shared, trivial⟩

/-- Everything that is reported, queued or worked on is in order. -/
structure WalkKept (walker : DirectoryWalker) (env : PathEnv) (state : ThreadedWalk F)
    : Prop where
  shared : walker.SharedKept env state.work
  threads : ∀ phase ∈ state.threads, walker.PhaseKept env state.work.registry phase

theorem walkKept_step (laws : walker.ResolvesTree env) {state next : ThreadedWalk F}
    (kept : walker.WalkKept env state) (sighted : walker.SightedStep env state next)
    : walker.WalkKept env next := by
  obtain ⟨move, sees, stepped⟩ := sighted
  obtain ⟨phase, nextPhase, running, turn, threads⟩ := step_turn stepped
  have own := kept.threads phase (List.mem_of_getElem? running)
  obtain ⟨learns, shared, nextOwn⟩ := turn.kept laws (sees phase running) kept.shared own
  refine ⟨shared, fun other member => ?_⟩
  rw [threads] at member
  rcases List.mem_or_eq_of_mem_set member with before | rfl
  · exact (kept.threads other before).learn laws learns
  · exact nextOwn

omit [Float64 F] in
theorem walkKept_start {parallelism : Nat} {first : ThreadedWalk F}
    (started : walker.stream registry parallelism = .ok first) : walker.WalkKept env first := by
  obtain ⟨seeds, _, members, rfl⟩ := exists_seeds_of_stream started
  refine ⟨⟨fun entry none => absurd none (by simp [start]), fun task member => ?_⟩,
    fun phase member => ?_⟩
  · obtain ⟨⟨⟨root, rootDev⟩, origin⟩, numbered, rfl⟩ := List.mem_map.mp member
    have known := ((members root rootDev).mp (List.fst_mem_of_mem_zipIdx numbered)).1
    refine ⟨⟨root, known, ?_⟩, fun descended => absurd (.inl known) descended⟩
    exact List.isPrefixOf_iff_prefix.mpr List.prefix_rfl
  · obtain rfl := (List.mem_replicate.mp member).2
    trivial

/-- In every run whose steps see the markers, whatever is reported is unprotected. -/
theorem sighted_unprotected (laws : walker.ResolvesTree env) {parallelism : Nat}
    {first state : ThreadedWalk F}
    (started : walker.stream registry parallelism = .ok first)
    (run : ReflTransGen (walker.SightedStep env) first state)
    : ∀ entry ∈ state.work.results, walker.Unprotected env state.work.registry entry.path := by
  have kept : walker.WalkKept env state := by
    induction run with
    | refl => exact walkKept_start started
    | tail _ sighted ih => exact walkKept_step laws ih sighted
  exact kept.shared.results

/-- Without opaque pruning, links and huge directories, and with no root below a marked
directory, every step sees the markers.
-/
theorem seesMarkers_of_plain (unpruned : walker.config.opaquePruning = false)
    (plain : ∀ dir entries, walker.world.readDir dir = some entries →
      entries.length < maxEntriesPerDir ∧ ∀ entry ∈ entries, entry.kind ≠ some .symlink)
    (rootsClear : ∀ root ∈ walker.config.rootPaths, walker.Clear env root)
    (phase : WorkerPhase F) : walker.SeesMarkers env registry phase where
  entered task _ entryPoint _ := by
    rcases entryPoint with root | ⟨dir, entry, seen, link, _⟩
    · exact rootsClear _ root
    · obtain ⟨entries, read, listed⟩ := exists_read_of_examined seen
      exact absurd link ((plain dir entries read).2 entry listed)
  listed task metadata _ marked := by
    obtain ⟨entries, read, entry, member, marker⟩ := marked
    have short := (plain _ entries read).1
    refine ⟨entry, ?_, marker⟩
    unfold examined
    rw [read, Option.getD_some, List.take_of_length_le (by omega)]
    exact member
  reported task metadata listing child pending verdict _ decided := by
    simp [childOpaqueTree, unpruned] at decided

/-- Some steps that all see the markers are a run of such steps, by induction on the moves. -/
theorem sighted_of_steps
    (sees : ∀ (registry : ProtectionRegistry) (phase : WorkerPhase F),
      walker.SeesMarkers env registry phase)
    {first last : ThreadedWalk F} {moves : List WalkMove}
    (ran : walker.steps env first moves = some last)
    : ReflTransGen (walker.SightedStep env) first last := by
  induction moves generalizing first with
  | nil =>
      cases ran
      exact .refl
  | cons move rest ih =>
      obtain ⟨next, stepped, later⟩ := Option.bind_eq_some_iff.mp ran
      exact .head ⟨move, fun phase _ => sees _ phase, stepped⟩ (ih later)

end DirectoryWalker

theorem Location.ofNames_startsWith {path above : PathBuf}
    (below : path.startsWith above = true)
    : (ofNames path).startsWith (ofNames above) = true :=
  startsWith_iff.mpr ((List.isPrefixOf_iff_prefix.mp below).filterMap _)

theorem Location.ofNames_join (path : PathBuf) {name : String}
    (valid : isFileName name = true)
    : ofNames (path.join name) = (ofNames path).descend [⟨name, valid⟩] := by
  unfold ofNames descend
  rw [PathBuf.components_join path valid, List.filterMap_append]
  simp [FileName.ofText, valid]

namespace Listings

def located (dirs : Listings) : TreeWorld :=
  { dirs.files 1 with readDir path := dirs.entries? (Location.ofNames path).toPathBuf }

def walker (dirs : Listings) (opaquePruning : Bool) : DirectoryWalker where
  config := {
    rootPaths := [⟨"/r"⟩]
    maxDepth := 3
    followSymlinks := false
    crossDevices := false
    excludedPaths := []
    opaquePruning
  }
  world := dirs.located
  isProtected _ := false

theorem resolvesTree {dirs : Listings} (opaquePruning : Bool)
    (named : ∀ dir ∈ dirs, ∀ entry ∈ dir.2, isFileName entry.name = true)
    : (dirs.walker opaquePruning).ResolvesTree plainEnv where
  named path entries read entry member := by
    obtain ⟨dir, found, rfl⟩ := Option.map_eq_some_iff.mp read
    exact named dir (List.mem_of_find?_eq_some found) entry member
  oneDirectory dir other marked same := by
    have located : Location.ofNames dir = Location.ofNames other := by
      rcases same with spelled | resolved
      · simp [Location.ofNames, spelled]
      · exact resolved
    obtain ⟨entries, read, marker⟩ := marked
    refine ⟨entries, ?_, marker⟩
    change dirs.entries? (Location.ofNames dir).toPathBuf = some entries at read
    rwa [located] at read
  child dir entries read entry member directory valid := Location.ofNames_join dir valid

theorem root_clear (dirs : Listings) (opaquePruning : Bool)
    : ∀ root ∈ (dirs.walker opaquePruning).config.rootPaths,
      (dirs.walker opaquePruning).Clear plainEnv root := by
  intro root known dir marks below
  obtain ⟨_, other, otherKnown, within⟩ := marks
  obtain rfl := List.mem_singleton.mp known
  obtain rfl := List.mem_singleton.mp otherKnown
  rcases below with ⟨spelled, strictly⟩ | ⟨resolved, strictly⟩
  · have up := List.isPrefixOf_iff_prefix.mp spelled
    have down := List.isPrefixOf_iff_prefix.mp within
    exact absurd (up.eq_of_length_le down.length_le) strictly
  · exact absurd (Location.startsWith_antisymm resolved (Location.ofNames_startsWith within))
      strictly

end Listings

namespace DirectoryWalker

/-- A directory to keep beside an ordinary one. -/
def keptListings : Listings :=
  [(⟨"/r"⟩, [⟨"kept", some .directory⟩, ⟨"app", some .directory⟩]),
    (⟨"/r/kept"⟩, [⟨"docs", some .directory⟩, ⟨".sbh-protect", some .file⟩]),
    (⟨"/r/kept/docs"⟩, []), (⟨"/r/app"⟩, [])]

def keptBuildListings : Listings :=
  [(⟨"/r"⟩, [⟨"rch-target", some .directory⟩]),
    (⟨"/r/rch-target"⟩, [⟨".sbh-protect", some .file⟩])]

def rootStart (registry : ProtectionRegistry) : ThreadedWalk ℚ := start registry 1 [(⟨"/r"⟩, 1)]

def onward (moves : Nat) : List WalkMove := List.replicate moves ⟨0, false⟩

/-- The ordinary directory is reported, and the marked one and what lies below are not. -/
theorem keptWalk_unprotected
    : ∃ state, (keptListings.walker false).steps plainEnv (rootStart .markerOnly) (onward 18)
        = some state
      ∧ state.work.results.map (·.path) = [⟨"/r/app"⟩]
      ∧ ∀ entry ∈ state.work.results,
        (keptListings.walker false).Unprotected plainEnv state.work.registry entry.path := by
  have finished : ((keptListings.walker false).steps plainEnv (rootStart .markerOnly)
      (onward 18)).any (fun state => state.work.results.map (·.path) == [⟨"/r/app"⟩])
      = true := by decide +kernel
  obtain ⟨state, ran, reported⟩ := (Option.any_eq_true ..).mp finished
  have plain : ∀ dir entries, (keptListings.walker false).world.readDir dir = some entries →
      entries.length < maxEntriesPerDir ∧ ∀ entry ∈ entries, entry.kind ≠ some .symlink := by
    intro path entries read
    obtain ⟨dir, found, rfl⟩ := Option.map_eq_some_iff.mp read
    have known : ∀ dir ∈ keptListings, dir.2.length < maxEntriesPerDir
        ∧ ∀ entry ∈ dir.2, entry.kind ≠ some .symlink := by decide
    exact known dir (List.mem_of_find?_eq_some found)
  have sees {registry : ProtectionRegistry} (phase : WorkerPhase ℚ)
      : (keptListings.walker false).SeesMarkers plainEnv registry phase :=
    seesMarkers_of_plain rfl plain (Listings.root_clear keptListings false) phase
  refine ⟨state, ran, by simpa using reported, ?_⟩
  exact sighted_unprotected (Listings.resolvesTree false (by decide))
    rfl (sighted_of_steps (fun _ _ => sees _) ran)

/-- An opaque candidate is reported although it holds a marker, and although a protected
pattern matches it.
-/
theorem keptBuild_reported
    : (∃ state, (keptBuildListings.walker true).steps plainEnv (rootStart .markerOnly) (onward 4)
          = some state
        ∧ ∃ entry ∈ state.work.results,
          (keptBuildListings.walker true).MarksSubtree entry.path)
      ∧ ∃ state, (keptBuildListings.walker true).steps plainEnv
            (rootStart (.new plainEnv ["/r/rch-target"])) (onward 4) = some state
          ∧ ∃ entry ∈ state.work.results,
            state.work.registry.isProtected plainEnv entry.path = true := by
  constructor
  · have reported : ((keptBuildListings.walker true).steps plainEnv (rootStart .markerOnly)
        (onward 4)).any (fun state => state.work.results.any (·.path == ⟨"/r/rch-target"⟩))
        = true := by decide +kernel
    obtain ⟨state, ran, listed⟩ := (Option.any_eq_true ..).mp reported
    obtain ⟨entry, member, same⟩ := List.any_eq_true.mp listed
    have path : entry.path = ⟨"/r/rch-target"⟩ := beq_iff_eq.mp same
    refine ⟨state, ran, entry, member, ?_⟩
    rw [path]
    exact ⟨⟨[⟨".sbh-protect", some .file⟩], rfl, _, List.mem_singleton.mpr rfl, rfl⟩,
      ⟨"/r"⟩, List.mem_singleton.mpr rfl, by decide⟩
  · have reported : ((keptBuildListings.walker true).steps plainEnv
        (rootStart (.new plainEnv ["/r/rch-target"])) (onward 4)).any
        (fun state => state.work.results.any fun entry =>
          state.work.registry.isProtected plainEnv entry.path) = true := by decide +kernel
    obtain ⟨state, ran, listed⟩ := (Option.any_eq_true ..).mp reported
    exact ⟨state, ran, List.any_eq_true.mp listed⟩

end DirectoryWalker

end StorageBallast
