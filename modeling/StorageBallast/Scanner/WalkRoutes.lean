import Mathlib.Logic.Relation
import StorageBallast.Scanner.Walker

/-! Where the walker comes to: the directories it goes into, step by step from a root, and
the entries it reports on the way.
-/

namespace StorageBallast

namespace DirectoryWalker

variable {F : Type} [Float64 F]

open Relation

def examined (walker : DirectoryWalker) (dir : PathBuf) : List DirEntry :=
  ((walker.world.readDir dir).getD []).take (maxEntriesPerDir - 1)

def contextOf (entries : List DirEntry) : OpaqueTreeContext where
  parentHasCargoToml := entries.any fun entry =>
    entry.name == "cargo.toml" || entry.name == "Cargo.toml"
  parentHasNodeManifest := entries.any fun entry => nodeManifests.contains entry.name

def verdictAt (walker : DirectoryWalker) (dir : PathBuf) (entry : DirEntry)
    : Option (OpaqueTreeClassification F) :=
  if walker.config.opaquePruning then
    classifyOpaqueTree walker.world.toFileWorld (dir.join entry.name)
      (contextOf (walker.examined dir))
  else none

def OnDevice (walker : DirectoryWalker) (rootDev : Nat) (path : PathBuf) : Prop :=
  ∃ metadata, walker.world.metadataForPath path walker.config.followSymlinks = .ok metadata
    ∧ (walker.config.crossDevices = true ∨ metadata.device = rootDev)

/-- The walker goes into a directory it came to. -/
structure Passable (walker : DirectoryWalker) (rootDev depth : Nat) (dir : PathBuf) : Prop where
  notExcluded : walker.isExcluded dir = false
  notProtected : walker.isProtected dir = false
  onDevice : depth ≠ 0 → walker.OnDevice rootDev dir
  readable : (walker.world.readDir dir).isSome
  unmarked : ∀ entry ∈ walker.examined dir, entry.name ≠ markerFilename

/-- The walker takes a child up: a directory, or a link to one that may be followed. -/
structure Enters (walker : DirectoryWalker) (depth : Nat) (dir : PathBuf) (entry : DirEntry)
    : Prop where
  examined : entry ∈ walker.examined dir
  directory : entry.kind.any (walker.isChildDir (dir.join entry.name)) = true
  shallow : depth < walker.config.maxDepth
  notExcluded : walker.isExcluded (dir.join entry.name) = false

/-- What the listing of some entries comes to, as far as it steers the walk. -/
structure ListingOf (walker : DirectoryWalker) (depth : Nat) (dir : PathBuf)
    (entries : List DirEntry) (start listing : DirListing) : Prop where
  children : ∀ path, path ∈ listing.pendingChildren
    ↔ path ∈ start.pendingChildren
      ∨ ∃ entry ∈ entries, entry.kind.any (walker.isChildDir (dir.join entry.name)) = true
        ∧ depth < walker.config.maxDepth ∧ walker.isExcluded (dir.join entry.name) = false
        ∧ path = dir.join entry.name
  cargo : listing.signals.hasCargoToml
    = (start.signals.hasCargoToml || (contextOf entries).parentHasCargoToml)
  node : listing.hasNodeManifest
    = (start.hasNodeManifest || (contextOf entries).parentHasNodeManifest)

theorem noteName_hasCargoToml (signals : StructuralSignals) (name : String)
    : (signals.noteName name).hasCargoToml
      = (signals.hasCargoToml || (name == "cargo.toml" || name == "Cargo.toml")) := by
  fun_cases StructuralSignals.noteName <;> simp_all

theorem noteChild_kept (walker : DirectoryWalker) (depth : Nat) (path : PathBuf)
    (kind : FsEntryKind) (listing : DirListing)
    : (walker.noteChild depth path kind listing).signals = listing.signals
      ∧ (walker.noteChild depth path kind listing).hasNodeManifest = listing.hasNodeManifest
      ∧ (walker.noteChild depth path kind listing).totalCount = listing.totalCount := by
  fun_cases noteChild <;> exact ⟨rfl, rfl, rfl⟩

variable {walker : DirectoryWalker} {listing : DirListing} {depth : Nat}

/-- A link that may not be followed is no directory, so one condition covers all cases. -/
theorem mem_noteChild {path other : PathBuf} {kind : FsEntryKind}
    : other ∈ (walker.noteChild depth path kind listing).pendingChildren
      ↔ other ∈ listing.pendingChildren
        ∨ (walker.isChildDir path kind = true ∧ depth < walker.config.maxDepth
          ∧ walker.isExcluded path = false ∧ other = path) := by
  fun_cases noteChild
  case case1 link =>
    have noDir : walker.isChildDir path kind = false := by
      simp only [Bool.and_eq_true, Bool.not_eq_true', beq_iff_eq] at link
      simp [isChildDir, link.1, link.2]
    simp [noDir]
  all_goals simp_all

theorem noteEntry_totalCount (walker : DirectoryWalker) (depth : Nat) (dir : PathBuf)
    (entry : DirEntry) (listing : DirListing)
    : (walker.noteEntry depth dir entry listing).totalCount = listing.totalCount := by
  fun_cases noteEntry
  · rfl
  · exact (noteChild_kept ..).2.2

theorem listingOf_noteEntry (walker : DirectoryWalker) (depth : Nat) (dir : PathBuf)
    (entry : DirEntry) (listing : DirListing)
    : walker.ListingOf depth dir [entry] listing
        (walker.noteEntry depth dir entry listing) := by
  fun_cases noteEntry
  case case1 noted unknown =>
    exact ⟨by simp [unknown, noted, noteName],
      by simp [noted, noteName, noteName_hasCargoToml, contextOf],
      by simp [noted, noteName, contextOf]⟩
  case case2 noted kind known =>
    obtain ⟨signals, node, _⟩ := noteChild_kept walker depth (dir.join entry.name) kind noted
    constructor
    · intro path
      rw [mem_noteChild]
      simp [known, noted, noteName]
    · rw [signals]
      simp [noted, noteName, noteName_hasCargoToml, contextOf]
    · rw [node]
      simp [noted, noteName, contextOf]

variable {dir : PathBuf}

theorem ListingOf.cons {entry : DirEntry} {rest : List DirEntry} {start next listing : DirListing}
    (first : walker.ListingOf depth dir [entry] start next)
    (later : walker.ListingOf depth dir rest next listing)
    : walker.ListingOf depth dir (entry :: rest) start listing := by
  constructor
  · intro path
    rw [later.children, first.children]
    simp [or_assoc]
  · rw [later.cargo, first.cargo]
    simp [contextOf, Bool.or_assoc]
  · rw [later.node, first.node]
    simp [contextOf, Bool.or_assoc]

/-- The loop over a listing gives up on a marker exactly if it gets as far as one, and
otherwise comes to the listing of the entries it got to; by induction on the entries left.
-/
theorem listEntries_spec (walker : DirectoryWalker) (depth : Nat) (dir : PathBuf)
    (entries : List DirEntry) (start : DirListing) (budget : Nat)
    (left : budget + start.totalCount = maxEntriesPerDir - 1)
    : match walker.listEntries depth dir entries start with
      | none => ∃ entry ∈ entries.take budget, entry.name = markerFilename
      | some listing =>
          (∀ entry ∈ entries.take budget, entry.name ≠ markerFilename)
          ∧ walker.ListingOf depth dir (entries.take budget) start listing := by
  have nothing (start : DirListing) (more : Nat) : walker.ListingOf depth dir [] start
      { start with totalCount := more } :=
    ⟨by simp, by simp [contextOf], by simp [contextOf]⟩
  induction entries generalizing start budget with
  | nil =>
      simp only [listEntries, List.take_nil]
      exact ⟨by simp, nothing ..⟩
  | cons entry rest ih =>
      simp only [listEntries]
      cases budget with
      | zero =>
          have full : start.totalCount + 1 ≥ maxEntriesPerDir := by
            simp only [maxEntriesPerDir] at left ⊢
            omega
          rw [if_pos full]
          exact ⟨by simp, nothing ..⟩
      | succ budget =>
          have room : ¬ start.totalCount + 1 ≥ maxEntriesPerDir := by
            simp only [maxEntriesPerDir] at left ⊢
            omega
          rw [if_neg room, List.take_succ_cons]
          by_cases marker : entry.name = markerFilename
          · rw [if_pos marker]
            exact ⟨entry, List.mem_cons_self, marker⟩
          · rw [if_neg marker]
            let counted := { start with totalCount := start.totalCount + 1 }
            have first : walker.ListingOf depth dir [entry] start
                (walker.noteEntry depth dir entry counted) := by
              obtain ⟨children, cargo, node⟩ := listingOf_noteEntry walker depth dir entry counted
              exact ⟨children, cargo, node⟩
            have later := ih (walker.noteEntry depth dir entry counted) budget (by
              rw [noteEntry_totalCount]
              simp only [counted]
              omega)
            split at later
            · rename_i stopped
              rw [stopped]
              obtain ⟨other, member, marked⟩ := later
              exact ⟨other, List.mem_cons_of_mem _ member, marked⟩
            · rename_i listing listed
              rw [listed]
              exact ⟨List.forall_mem_cons.mpr ⟨marker, later.1⟩, first.cons later.2⟩

theorem exists_read_of_examined {entry : DirEntry} (seen : entry ∈ walker.examined dir)
    : ∃ entries, walker.world.readDir dir = some entries ∧ entry ∈ entries := by
  unfold examined at seen
  cases read : walker.world.readDir dir with
  | none => simp [read] at seen
  | some entries =>
      rw [read] at seen
      exact ⟨entries, rfl, List.mem_of_mem_take seen⟩

/-- A directory that was listed to the end of what the walker looks at. -/
theorem listingOf_of_listEntries {entries : List DirEntry}
    (read : walker.world.readDir dir = some entries)
    (listed : walker.listEntries depth dir entries .start = some listing)
    : (∀ entry ∈ walker.examined dir, entry.name ≠ markerFilename)
      ∧ walker.ListingOf depth dir (walker.examined dir) .start listing := by
  have spec := listEntries_spec walker depth dir entries .start (maxEntriesPerDir - 1) rfl
  rw [listed] at spec
  have seen : walker.examined dir = entries.take (maxEntriesPerDir - 1) := by
    simp [examined, read]
  rwa [← seen] at spec

theorem checkDirectory_eq_some {rootDev depth : Nat} {metadata : Option Metadata}
    : walker.checkDirectory rootDev depth dir = some metadata
      ↔ walker.isExcluded dir = false ∧ walker.isProtected dir = false
        ∧ ((depth = 0 ∧ metadata = none)
          ∨ (depth ≠ 0 ∧ ∃ found, metadata = some found
            ∧ walker.world.metadataForPath dir walker.config.followSymlinks = .ok found
            ∧ (walker.config.crossDevices = true ∨ found.device = rootDev))) := by
  fun_cases checkDirectory <;> simp_all
  all_goals grind

theorem openDirectory_eq_some {rootDev depth : Nat} {metadata : Option Metadata}
    (opened : walker.openDirectory rootDev depth dir = some (metadata, listing))
    : walker.Passable rootDev depth dir
      ∧ (metadata.isSome ↔ depth ≠ 0)
      ∧ walker.ListingOf depth dir (walker.examined dir) .start listing := by
  simp only [openDirectory, Option.bind_eq_bind, Option.bind_eq_some_iff, Option.pure_def,
    Option.some.injEq, Prod.mk.injEq] at opened
  obtain ⟨_, checked, entries, read, _, listed, rfl, rfl⟩ := opened
  obtain ⟨notExcluded, notProtected, placed⟩ := checkDirectory_eq_some.mp checked
  have spec := listingOf_of_listEntries read listed
  refine ⟨⟨notExcluded, notProtected, ?_, by simp [read], spec.1⟩, ?_, spec.2⟩
  · rintro deeper
    obtain ⟨root, _⟩ | ⟨_, found, rfl, known, near⟩ := placed
    · exact absurd root deeper
    · exact ⟨found, known, near⟩
  · obtain ⟨root, rfl⟩ | ⟨deeper, found, rfl, _⟩ := placed
    · simp [root]
    · simp [deeper]

theorem openDirectory_of_passable {rootDev depth : Nat}
    (passable : walker.Passable rootDev depth dir)
    : ∃ metadata listing,
        walker.openDirectory rootDev depth dir = some (metadata, listing) := by
  obtain ⟨entries, read⟩ := Option.isSome_iff_exists.mp passable.readable
  have checked : ∃ metadata, walker.checkDirectory rootDev depth dir = some metadata := by
    by_cases root : depth = 0
    · exact ⟨none, checkDirectory_eq_some.mpr
        ⟨passable.notExcluded, passable.notProtected, Or.inl ⟨root, rfl⟩⟩⟩
    · obtain ⟨found, known, near⟩ := passable.onDevice root
      exact ⟨some found, checkDirectory_eq_some.mpr
        ⟨passable.notExcluded, passable.notProtected,
          Or.inr ⟨root, found, rfl, known, near⟩⟩⟩
  obtain ⟨metadata, checked⟩ := checked
  have spec := listEntries_spec walker depth dir entries .start (maxEntriesPerDir - 1) rfl
  cases listed : walker.listEntries depth dir entries .start with
  | none =>
      rw [listed] at spec
      obtain ⟨entry, member, marked⟩ := spec
      exact absurd marked (passable.unmarked entry (by simpa [examined, read] using member))
  | some listing => exact ⟨metadata, listing, by simp [openDirectory, checked, read, listed]⟩

/-- The directories that wait for the walker are the children it takes up. -/
theorem ListingOf.mem_children {dir path : PathBuf}
    (listed : walker.ListingOf depth dir (walker.examined dir) .start listing)
    : path ∈ listing.pendingChildren
      ↔ ∃ entry, walker.Enters depth dir entry ∧ path = dir.join entry.name := by
  rw [listed.children]
  constructor
  · rintro (impossible | ⟨entry, member, directory, shallow, notExcluded, rfl⟩)
    · cases impossible
    · exact ⟨entry, ⟨member, directory, shallow, notExcluded⟩, rfl⟩
  · rintro ⟨entry, ⟨member, directory, shallow, notExcluded⟩, rfl⟩
    exact Or.inr ⟨entry, member, directory, shallow, notExcluded, rfl⟩

theorem ListingOf.childOpaqueTree_eq (entry : DirEntry)
    (listed : walker.ListingOf depth dir (walker.examined dir) .start listing)
    : (walker.childOpaqueTree listing (dir.join entry.name)
        : Option (OpaqueTreeClassification F)) = walker.verdictAt dir entry := by
  unfold childOpaqueTree verdictAt
  rw [listed.cargo, listed.node]
  rfl

omit [Float64 F] in
theorem opaqueEntry_eq_some (walker : DirectoryWalker) (rootDev depth : Nat)
    (path : PathBuf) (verdict : OpaqueTreeClassification F)
    : (∃ entry, walker.opaqueEntry rootDev depth path verdict = some entry)
      ↔ walker.OnDevice rootDev path := by
  unfold OnDevice
  fun_cases opaqueEntry <;> simp_all
  all_goals grind

omit [Float64 F] in
theorem opaqueEntry_fields {rootDev depth : Nat}
    {path : PathBuf} {verdict : OpaqueTreeClassification F} {entry : WalkEntry F}
    (reported : walker.opaqueEntry rootDev depth path verdict = some entry)
    : entry.path = path ∧ entry.opaqueTree = some verdict := by
  unfold opaqueEntry at reported
  split at reported
  · cases reported
  · split at reported
    · cases reported
    · cases reported
      exact ⟨rfl, rfl⟩

/-- A directory the walker came to, with the verdict it was given before. -/
structure Position (F : Type) where
  depth : Nat
  dir : PathBuf
  verdict : Option (OpaqueTreeClassification F)

def descends : Option (OpaqueTreeClassification F) → Prop
  | none => True
  | some verdict => verdict.disposition = .signalOnly

def Position.child (walker : DirectoryWalker) (position : Position F) (entry : DirEntry)
    : Position F where
  depth := position.depth + 1
  dir := position.dir.join entry.name
  verdict := walker.verdictAt position.dir entry

inductive StepsTo (walker : DirectoryWalker) (rootDev : Nat)
    : Position F → Position F → Prop where
  | down (position : Position F) (entry : DirEntry)
      (passable : walker.Passable rootDev position.depth position.dir)
      (enters : walker.Enters position.depth position.dir entry)
      (descending : descends (walker.verdictAt position.dir entry
        : Option (OpaqueTreeClassification F)))
      : StepsTo walker rootDev position (position.child walker entry)

inductive Reports (walker : DirectoryWalker) (rootDev : Nat)
    : Position F → WalkEntry F → Prop where
  | itself (position : Position F) (metadata : Metadata) (listing : DirListing)
      (opened : walker.openDirectory rootDev position.depth position.dir
        = some (some metadata, listing))
      : Reports walker rootDev position
          (listedEntry position.depth position.dir position.verdict metadata listing)
  | candidate (position : Position F) (child : DirEntry)
      (verdict : OpaqueTreeClassification F) (entry : WalkEntry F)
      (passable : walker.Passable rootDev position.depth position.dir)
      (enters : walker.Enters position.depth position.dir child)
      (decided : walker.verdictAt position.dir child = some verdict)
      (opaqueCandidate : verdict.disposition = .candidateOpaque)
      (reported : walker.opaqueEntry rootDev (position.depth + 1)
        (position.dir.join child.name) verdict = some entry)
      : Reports walker rootDev position entry

/-- Working on a directory reports what is found there and walks the children below. -/
theorem mem_processDirectory_iff {rootDev : Nat} {position : Position F}
    {walkChild : PathBuf → Option (OpaqueTreeClassification F) → List (WalkEntry F)}
    {entry : WalkEntry F}
    : entry ∈ walker.processDirectory rootDev position.depth walkChild position.dir
        position.verdict
      ↔ Reports walker rootDev position entry
        ∨ ∃ child, walker.Passable rootDev position.depth position.dir
          ∧ walker.Enters position.depth position.dir child
          ∧ descends (walker.verdictAt position.dir child
            : Option (OpaqueTreeClassification F))
          ∧ entry ∈ walkChild (position.dir.join child.name)
            (walker.verdictAt position.dir child) := by
  unfold processDirectory
  cases opened : walker.openDirectory rootDev position.depth position.dir with
  | none =>
      have closed : ¬ walker.Passable rootDev position.depth position.dir := by
        intro passable
        obtain ⟨_, _, found⟩ := openDirectory_of_passable passable
        simp [opened] at found
      constructor
      · intro member
        cases member
      · rintro (reports | ⟨_, passable, _⟩)
        · cases reports with
          | itself metadata listing found => simp [opened] at found
          | candidate _ _ _ passable => exact absurd passable closed
        · exact absurd passable closed
  | some found =>
      obtain ⟨metadata, listing⟩ := found
      obtain ⟨passable, _, listed⟩ := openDirectory_eq_some opened
      simp only [List.mem_append, List.mem_flatMap]
      constructor
      · rintro (⟨path, waiting, member⟩ | own)
        · obtain ⟨child, enters, rfl⟩ := listed.mem_children.mp waiting
          rw [listed.childOpaqueTree_eq] at member
          cases decided : (walker.verdictAt position.dir child
              : Option (OpaqueTreeClassification F)) with
          | none =>
              rw [decided] at member
              exact Or.inr ⟨child, passable, enters, by simp [decided, descends],
                by simpa [decided] using member⟩
          | some verdict =>
              rw [decided] at member
              cases kind : verdict.disposition with
              | candidateOpaque =>
                  simp only [kind, Option.mem_toList] at member
                  exact Or.inl (.candidate position child verdict entry passable enters
                    decided kind member)
              | protectedOpaque => simp [kind] at member
              | signalOnly =>
                  simp only [kind] at member
                  exact Or.inr ⟨child, passable, enters, by simp [decided, descends, kind],
                    by simpa [decided] using member⟩
        · cases metadata with
          | none => simp at own
          | some metadata =>
              simp only [Option.map_some, Option.toList_some, List.mem_singleton] at own
              subst own
              exact Or.inl (.itself position metadata listing opened)
      · rintro (reports | ⟨child, _, enters, descending, member⟩)
        · cases reports with
          | itself _ _ same =>
              rw [opened] at same
              cases same
              exact Or.inr (by simp)
          | candidate child verdict _ _ enters decided kind reported =>
              refine Or.inl ⟨_, listed.mem_children.mpr ⟨child, enters, rfl⟩, ?_⟩
              rw [listed.childOpaqueTree_eq, decided]
              simpa [kind] using reported
        · refine Or.inl ⟨_, listed.mem_children.mpr ⟨child, enters, rfl⟩, ?_⟩
          rw [listed.childOpaqueTree_eq]
          cases decided : (walker.verdictAt position.dir child
              : Option (OpaqueTreeClassification F)) with
          | none => simpa [decided] using member
          | some verdict =>
              have kind : verdict.disposition = .signalOnly := by
                simpa [decided, descends] using descending
              simpa [decided, kind] using member

/-- A walk reports exactly what is found in the directories that steps lead to, by induction
on the levels left.
-/
theorem mem_walkFrom_iff (walker : DirectoryWalker) (rootDev levels : Nat)
    (position : Position F) (entry : WalkEntry F)
    (placed : position.depth + levels = walker.config.maxDepth)
    : entry ∈ walker.walkFrom rootDev levels position.dir position.verdict
      ↔ ∃ reached, ReflTransGen (StepsTo walker rootDev) position reached
        ∧ Reports walker rootDev reached entry := by
  induction levels generalizing position with
  | zero =>
      have deepest : walker.config.maxDepth = position.depth := by omega
      have stays {child : DirEntry} (enters : walker.Enters position.depth position.dir child)
          : False := by
        have := enters.shallow
        omega
      rw [walkFrom, deepest, mem_processDirectory_iff]
      constructor
      · rintro (reports | ⟨_, _, enters, _⟩)
        · exact ⟨position, .refl, reports⟩
        · exact (stays enters).elim
      · rintro ⟨reached, route, reports⟩
        rcases route.cases_head with rfl | ⟨_, step, _⟩
        · exact Or.inl reports
        · cases step with
          | down entry passable enters => exact (stays enters).elim
  | succ levels ih =>
      have depth : walker.config.maxDepth - (levels + 1) = position.depth := by omega
      have below (child : DirEntry) := ih (position.child walker child) (by
        simp only [Position.child]
        omega)
      rw [walkFrom, depth, mem_processDirectory_iff]
      constructor
      · rintro (reports | ⟨child, passable, enters, descending, member⟩)
        · exact ⟨position, .refl, reports⟩
        · obtain ⟨reached, route, reports⟩ := (below child).mp member
          exact ⟨reached, .head (.down position child passable enters descending) route,
            reports⟩
      · rintro ⟨reached, route, reports⟩
        rcases route.cases_head with rfl | ⟨_, step, later⟩
        · exact Or.inl reports
        · cases step with
          | down child passable enters descending =>
              exact Or.inr ⟨child, passable, enters, descending,
                (below child).mpr ⟨reached, later, reports⟩⟩

def Starts (walker : DirectoryWalker) (root : PathBuf) (rootDev : Nat) : Prop :=
  ∃ metadata, walker.world.metadataForPath root walker.config.followSymlinks = .ok metadata
    ∧ metadata.kind = .directory ∧ metadata.device = rootDev

def RootsReadable (walker : DirectoryWalker) (roots : List PathBuf) : Prop :=
  ∀ root ∈ roots, ∀ fault,
    walker.world.metadataForPath root walker.config.followSymlinks = .error fault →
      fault.kind ≠ .other

theorem seeds_spec (walker : DirectoryWalker) (roots : List PathBuf)
    : (walker.RootsReadable roots →
        ∃ seeds, walker.seeds roots = .ok seeds
          ∧ ∀ root rootDev, (root, rootDev) ∈ seeds ↔ root ∈ roots ∧ walker.Starts root rootDev)
      ∧ (¬ walker.RootsReadable roots → ∃ error, walker.seeds roots = .error error) := by
  induction roots with
  | nil => exact ⟨fun _ => ⟨[], rfl, by simp⟩, fun unreadable => absurd (by simp [RootsReadable])
      unreadable⟩
  | cons first rest ih =>
      obtain ⟨succeeds, fails⟩ := ih
      have split : walker.RootsReadable (first :: rest)
          ↔ (∀ fault, walker.world.metadataForPath first walker.config.followSymlinks
              = .error fault → fault.kind ≠ .other)
            ∧ walker.RootsReadable rest := List.forall_mem_cons
      rw [split, seeds]
      cases found : walker.world.metadataForPath first walker.config.followSymlinks with
      | error fault =>
          have skipped : ∀ rootDev, ¬ walker.Starts first rootDev := by
            rintro rootDev ⟨metadata, known, _⟩
            simp [found] at known
          by_cases broken : fault.kind = .other
          · simp [broken]
          · simp only [Except.error.injEq, forall_eq', broken, if_false, ne_eq,
              not_false_eq_true, true_and]
            refine ⟨fun readable => ?_, fails⟩
            obtain ⟨seeds, same, members⟩ := succeeds readable
            refine ⟨seeds, same, fun root rootDev => ?_⟩
            rw [members]
            have := skipped rootDev
            grind
      | ok metadata =>
          have starts (rootDev : Nat) : walker.Starts first rootDev
              ↔ metadata.kind = .directory ∧ metadata.device = rootDev := by
            simp [Starts, found]
          simp only [reduceCtorEq, IsEmpty.forall_iff, implies_true, true_and]
          by_cases directory : metadata.kind = .directory
          · rw [if_pos directory]
            constructor
            · intro readable
              obtain ⟨seeds, same, members⟩ := succeeds readable
              refine ⟨(first, metadata.device) :: seeds, by rw [same]; rfl, ?_⟩
              intro root rootDev
              have := starts rootDev
              grind
            · intro unreadable
              obtain ⟨error, same⟩ := fails unreadable
              exact ⟨error, by rw [same]; rfl⟩
          · rw [if_neg directory]
            refine ⟨fun readable => ?_, fails⟩
            obtain ⟨seeds, same, members⟩ := succeeds readable
            refine ⟨seeds, same, fun root rootDev => ?_⟩
            have := starts rootDev
            grind

def Nominates (F : Type) [Float64 F] (walker : DirectoryWalker) (path : PathBuf) : Prop :=
  ∃ entries : List (WalkEntry F), walker.walk = .ok entries
    ∧ ∃ entry ∈ entries, entry.path = path
      ∧ ∀ verdict, entry.opaqueTree = some verdict → verdict.disposition = .candidateOpaque

/-- Steps down from the root lead to the path: every directory on the way is passable and no
opaque tree, and the last step takes up the path as an ordinary directory that is passable
itself, or as an opaque candidate on the device of the root.
-/
def LeadsTo (F : Type) [Float64 F] (walker : DirectoryWalker) (root : PathBuf) (rootDev : Nat)
    (path : PathBuf) : Prop :=
  ∃ (above : Position F) (child : DirEntry),
    ReflTransGen (StepsTo walker rootDev) ⟨0, root, none⟩ above
    ∧ walker.Passable rootDev above.depth above.dir
    ∧ walker.Enters above.depth above.dir child
    ∧ path = above.dir.join child.name
    ∧ match (walker.verdictAt above.dir child : Option (OpaqueTreeClassification F)) with
      | none => walker.Passable rootDev (above.depth + 1) path
      | some verdict =>
          verdict.disposition = .candidateOpaque ∧ walker.OnDevice rootDev path

/-- What a walk from one root reports, but for trees that are only signals. -/
theorem exists_walkFrom_iff {root path : PathBuf} {rootDev : Nat}
    : (∃ entry : WalkEntry F,
        entry ∈ walker.walkFrom rootDev walker.config.maxDepth root none
        ∧ entry.path = path
        ∧ ∀ verdict, entry.opaqueTree = some verdict → verdict.disposition = .candidateOpaque)
      ↔ LeadsTo F walker root rootDev path := by
  have walked (entry : WalkEntry F) := mem_walkFrom_iff walker rootDev walker.config.maxDepth
    ⟨0, root, none⟩ entry (Nat.zero_add _)
  constructor
  · rintro ⟨entry, member, rfl, unsignalled⟩
    obtain ⟨reached, route, reports⟩ := (walked entry).mp member
    cases reports with
    | itself metadata listing opened =>
        obtain ⟨passable, deeper, _⟩ := openDirectory_eq_some opened
        rcases route.cases_tail with same | ⟨above, earlier, step⟩
        · subst same
          exact absurd rfl (deeper.mp rfl)
        · cases step with
          | down child passableAbove enters descending =>
              refine ⟨above, child, earlier, passableAbove, enters, rfl, ?_⟩
              cases decided : (walker.verdictAt above.dir child
                  : Option (OpaqueTreeClassification F)) with
              | none => exact passable
              | some verdict =>
                  have candidate := unsignalled verdict decided
                  simp [decided, descends, candidate] at descending
    | candidate child verdict _ passable enters decided kind reported =>
        obtain ⟨path, _⟩ := opaqueEntry_fields reported
        refine ⟨reached, child, route, passable, enters, path, ?_⟩
        rw [decided]
        exact ⟨kind, path ▸ (opaqueEntry_eq_some ..).mp ⟨entry, reported⟩⟩
  · rintro ⟨above, child, route, passable, enters, rfl, lastStep⟩
    cases decided : (walker.verdictAt above.dir child
        : Option (OpaqueTreeClassification F)) with
    | none =>
        simp only [decided] at lastStep
        obtain ⟨metadata, listing, opened⟩ := openDirectory_of_passable lastStep
        obtain ⟨_, known, _⟩ := openDirectory_eq_some opened
        obtain ⟨metadata, rfl⟩ := Option.isSome_iff_exists.mp (known.mpr (Nat.succ_ne_zero _))
        have step : StepsTo walker rootDev above (above.child walker child) :=
          .down above child passable enters (by simp [decided, descends])
        have reports := Reports.itself (above.child walker child) metadata listing opened
        refine ⟨_, (walked _).mpr ⟨_, route.tail step, reports⟩, rfl, ?_⟩
        intro verdict same
        simp [listedEntry, Position.child, decided] at same
    | some verdict =>
        simp only [decided] at lastStep
        obtain ⟨entry, reported⟩ :=
          (opaqueEntry_eq_some walker rootDev (above.depth + 1) _ verdict).mpr lastStep.2
        obtain ⟨path, same⟩ := opaqueEntry_fields reported
        refine ⟨entry, (walked entry).mpr ⟨above, route, ?_⟩, path, ?_⟩
        · exact .candidate above child verdict entry passable enters decided lastStep.1 reported
        · intro other found
          cases same.symm.trans found
          exact lastStep.1

/-- The walker nominates exactly the paths that steps from one of its roots lead to. -/
theorem nominates_iff {path : PathBuf}
    : walker.Nominates F path
      ↔ walker.RootsReadable walker.config.rootPaths
        ∧ ∃ root ∈ walker.config.rootPaths, ∃ rootDev, walker.Starts root rootDev
          ∧ walker.LeadsTo F root rootDev path := by
  obtain ⟨succeeds, fails⟩ := seeds_spec walker walker.config.rootPaths
  unfold Nominates walk
  by_cases readable : walker.RootsReadable walker.config.rootPaths
  · obtain ⟨seeds, same, members⟩ := succeeds readable
    simp only [same, Except.map, Except.ok.injEq, exists_eq_left', List.mem_flatMap,
      readable, true_and]
    constructor
    · rintro ⟨entry, ⟨⟨root, rootDev⟩, seed, member⟩, found⟩
      obtain ⟨listed, starts⟩ := (members root rootDev).mp seed
      exact ⟨root, listed, rootDev, starts, exists_walkFrom_iff.mp ⟨entry, member, found⟩⟩
    · rintro ⟨root, listed, rootDev, starts, leads⟩
      obtain ⟨entry, member, found⟩ := exists_walkFrom_iff.mpr leads
      exact ⟨entry, ⟨(root, rootDev), (members root rootDev).mpr ⟨listed, starts⟩, member⟩,
        found⟩
  · obtain ⟨error, same⟩ := fails readable
    simp [same, Except.map, readable]

end DirectoryWalker

end StorageBallast
