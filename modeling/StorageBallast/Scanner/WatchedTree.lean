import Mathlib.Data.List.Nodup
import StorageBallast.Foundations.Runs
import StorageBallast.Scanner.EventDraining

/-! The inotify backend together with the directories it watches and the kernel between the two.
Directories come, move and go while the backend handles one event after the other.
-/

namespace StorageBallast

/-- Where a directory at `path` is once everything at or below `source` has been moved. -/
def Location.moved (source target path : Location) : Location :=
  if path.startsWith source then target.descend (path.names.drop source.names.length) else path

theorem Location.exists_descend {path above : Location} (below : path.startsWith above = true)
    : ∃ names, path = above.descend names := by
  obtain ⟨names, split⟩ := startsWith_iff.mp below
  refine ⟨names, ?_⟩
  cases path
  exact congrArg Location.mk split.symm

theorem Location.descend_injective {above : Location} {names others : List FileName}
    (same : above.descend names = above.descend others)
    : names = others := by
  simpa [Location.descend] using same

theorem Location.moved_of_below {source target : Location} {names : List FileName}
    : moved source target (source.descend names) = target.descend names := by
  unfold moved
  rw [if_pos (source.descend_startsWith names)]
  simp [descend]

theorem Location.moved_of_not_below {source target path : Location}
    (apart : path.startsWith source = false)
    : moved source target path = path := by
  simp [moved, apart]

/-- The directories there are, each with its identity. Identities are never given out twice. -/
structure DirectoryTree where
  dirs : List (Location × WatchDescriptor)
  nextDir : WatchDescriptor
  paths_nodup : (dirs.map Prod.fst).Nodup
  ids_nodup : (dirs.map Prod.snd).Nodup
  older : ∀ dir ∈ dirs, dir.2 < nextDir

namespace DirectoryTree

variable {self : DirectoryTree} {path source target : Location} {id : WatchDescriptor}

def dirAt (self : DirectoryTree) (path : Location) : Option WatchDescriptor :=
  (self.dirs.find? fun dir => dir.1 == path).map (·.2)

def vacant (self : DirectoryTree) (path : Location) : Bool :=
  self.dirs.all fun dir => !dir.1.startsWith path

def childless (self : DirectoryTree) (path : Location) : Bool :=
  self.dirs.all fun dir => !dir.1.startsWith path || dir.1 == path

theorem path_unique {first second : WatchDescriptor} (one : (path, first) ∈ self.dirs)
    (other : (path, second) ∈ self.dirs)
    : first = second :=
  congrArg Prod.snd (List.inj_on_of_nodup_map self.paths_nodup one other rfl)

theorem id_unique {first second : Location} (one : (first, id) ∈ self.dirs)
    (other : (second, id) ∈ self.dirs)
    : first = second :=
  congrArg Prod.fst (List.inj_on_of_nodup_map self.ids_nodup one other rfl)

theorem dirAt_eq_some : self.dirAt path = some id ↔ (path, id) ∈ self.dirs := by
  unfold dirAt
  constructor
  · intro found
    obtain ⟨dir, search, rfl⟩ := Option.map_eq_some_iff.mp found
    have here : dir.1 = path := by simpa using List.find?_some search
    exact here ▸ List.mem_of_find?_eq_some search
  · intro member
    cases search : self.dirs.find? fun dir => dir.1 == path with
    | none => simpa using List.find?_eq_none.mp search _ member
    | some dir =>
        have here : dir.1 = path := by simpa using List.find?_some search
        have among : (path, dir.2) ∈ self.dirs := here ▸ List.mem_of_find?_eq_some search
        exact congrArg some (path_unique among member)

theorem vacant_iff
    : self.vacant path = true ↔ ∀ dir ∈ self.dirs, dir.1.startsWith path = false := by
  simp [vacant]

/-- A new directory where nothing is. -/
def add (self : DirectoryTree) (path : Location) (free : self.vacant path = true) : DirectoryTree where
  dirs := (path, self.nextDir) :: self.dirs
  nextDir := self.nextDir + 1
  paths_nodup := by
    refine List.nodup_cons.mpr ⟨?_, self.paths_nodup⟩
    intro member
    obtain ⟨dir, among, here⟩ := List.mem_map.mp member
    have apart := vacant_iff.mp free dir among
    rw [here, Location.startsWith_self] at apart
    cases apart
  ids_nodup := by
    refine List.nodup_cons.mpr ⟨?_, self.ids_nodup⟩
    intro member
    obtain ⟨dir, among, here⟩ := List.mem_map.mp member
    exact Nat.lt_irrefl _ (here ▸ self.older dir among)
  older := by
    intro dir member
    rcases List.mem_cons.mp member with rfl | among
    · exact Nat.lt_succ_self _
    · exact Nat.lt_succ_of_lt (self.older dir among)

def remove (self : DirectoryTree) (path : Location) : DirectoryTree where
  dirs := self.dirs.filter fun dir => dir.1 != path
  nextDir := self.nextDir
  paths_nodup := self.paths_nodup.sublist (List.filter_sublist.map _)
  ids_nodup := self.ids_nodup.sublist (List.filter_sublist.map _)
  older dir member := self.older dir (List.mem_of_mem_filter member)

/-- The directory at `source` and all below it, moved to where nothing is. -/
def move (self : DirectoryTree) (source target : Location) (free : self.vacant target = true)
    : DirectoryTree where
  dirs := self.dirs.map fun dir => (Location.moved source target dir.1, dir.2)
  nextDir := self.nextDir
  paths_nodup := by
    rw [List.map_map]
    have apart : ∀ dir ∈ self.dirs, ∀ names, dir.1 ≠ target.descend names := by
      intro dir member names here
      have outside := vacant_iff.mp free dir member
      rw [here, Location.descend_startsWith] at outside
      cases outside
    apply List.Nodup.map_on _ self.paths_nodup.of_map
    intro one oneMember other otherMember same
    simp only [Function.comp_apply] at same
    have paths : one.1 = other.1 := by
      by_cases oneBelow : one.1.startsWith source = true
      · obtain ⟨names, oneAt⟩ := Location.exists_descend oneBelow
        by_cases otherBelow : other.1.startsWith source = true
        · obtain ⟨others, otherAt⟩ := Location.exists_descend otherBelow
          rw [oneAt, otherAt, Location.moved_of_below, Location.moved_of_below] at same
          rw [oneAt, otherAt, Location.descend_injective same]
        · rw [oneAt, Location.moved_of_below,
            Location.moved_of_not_below (by simpa using otherBelow)] at same
          exact absurd same.symm (apart other otherMember names)
      · rw [Location.moved_of_not_below (by simpa using oneBelow)] at same
        by_cases otherBelow : other.1.startsWith source = true
        · obtain ⟨others, otherAt⟩ := Location.exists_descend otherBelow
          rw [otherAt, Location.moved_of_below] at same
          exact absurd same (apart one oneMember others)
        · rwa [Location.moved_of_not_below (by simpa using otherBelow)] at same
    exact List.inj_on_of_nodup_map self.paths_nodup oneMember otherMember paths
  ids_nodup := by
    rw [List.map_map]
    exact self.ids_nodup
  older := by
    intro dir member
    obtain ⟨old, among, rfl⟩ := List.mem_map.mp member
    exact self.older old among

def childName (dir path : Location) : Option FileName :=
  if path.startsWith dir then
    match path.names.drop dir.names.length with
    | [name] => some name
    | _ => none
  else none

theorem childName_descend {path : Location} {name : FileName}
    : childName path (path.descend [name]) = some name := by
  unfold childName
  rw [if_pos (path.descend_startsWith [name])]
  simp [Location.descend]

/-- What the kernel answers while the directories stay as they are. -/
def world (self : DirectoryTree) : WatchWorld where
  isPlainDir path :=
    if (self.dirAt path).isSome then .ok true else .error "No such file or directory"
  readDir path :=
    if (self.dirAt path).isSome then .ok (self.dirs.filterMap fun dir => childName path dir.1)
    else .error "No such file or directory"
  inotifyInit := .ok ()
  addWatch path :=
    match self.dirAt path with
    | some id => .ok id
    | none => .error "No such file or directory"
  readFailure := none

theorem addWatch_eq_ok : self.world.addWatch path = .ok id ↔ (path, id) ∈ self.dirs := by
  rw [← dirAt_eq_some]
  unfold world
  dsimp only
  cases self.dirAt path <;> simp

end DirectoryTree

def LinuxInotifyBackend.newWatch (self : LinuxInotifyBackend) (world : WatchWorld)
    (event : LinuxInotifyEvent) : Option WatchDescriptor :=
  if event.mask.contains .qOverflow then none
  else
    match bringsDirectory event.mask, self.pathForEvent event with
    | true, some path =>
        if self.maxWatches ≤ self.watchPaths.size then none else (world.addWatch path).toOption
    | _, _ => none

/-- The kernel's queue does not run over here. -/
structure WatchedTree where
  config : EventSourceConfig
  tree : DirectoryTree
  /-- The kernel's watches. -/
  live : List WatchDescriptor
  backend : LinuxInotifyBackend
  /-- Some event handled so far has called for a new generation. -/
  bumped : Bool

/-- What happens in the file system, or inside a drain. -/
inductive TreeStep where
  | mkdir (parent : Location) (name : FileName)
  | rmdir (path : Location)
  | rename (fromParent : Location) (fromName : FileName) (toParent : Location) (toName : FileName)
  | writeFile (parent : Location) (name : FileName)
  /-- The drain handles the first unread event. -/
  | handle
deriving DecidableEq, Repr

namespace WatchedTree

def tracker (self : WatchedTree) : DirtyRootTracker := .new self.config.rootPaths

def underRoots (self : WatchedTree) (path : Location) : Bool :=
  self.config.rootPaths.any path.startsWith

def hear (self : WatchedTree) (event : LinuxInotifyEvent) : WatchedTree :=
  { self with backend := { self.backend with unread := self.backend.unread ++ [event] } }

/-- The kernel tells of an event in a directory, or of the directory itself, if it is watched. -/
def report (self : WatchedTree) (watch : Option WatchDescriptor) (mask : EventMask)
    (name : Option FileName) : WatchedTree :=
  match watch with
  | some watch => if watch ∈ self.live then self.hear ⟨watch, mask, name⟩ else self
  | none => self

def mkdir (self : WatchedTree) (parent : Location) (name : FileName) : WatchedTree :=
  if free : self.tree.vacant (parent.descend [name]) = true then
    match self.tree.dirAt parent with
    | some id =>
        ({ self with tree := self.tree.add (parent.descend [name]) free }).report id
          [.create, .isDir] name
    | none => self
  else self

def tellRemoval (self : WatchedTree) (id : WatchDescriptor) (parent : Option WatchDescriptor)
    (name : Option FileName) : WatchedTree :=
  ((self.report id [.deleteSelf, .isDir] none).report id [.ignored] none).report parent
    [.delete, .isDir] name

/-- Only a directory without directories is removed, and the kernel forgets its watch. -/
def rmdir (self : WatchedTree) (path : Location) : WatchedTree :=
  match self.tree.dirAt path with
  | some id =>
      if self.tree.childless path then
        let told := ({ self with tree := self.tree.remove path }).tellRemoval id
          (path.parent.bind self.tree.dirAt) path.fileName
        { told with live := told.live.filter (· != id) }
      else self
  | none => self

/-- A directory is renamed to where nothing is. A rename onto an empty directory is the removal of
that one and then the rename.
-/
def rename (self : WatchedTree) (fromParent : Location) (fromName : FileName)
    (toParent : Location) (toName : FileName) : WatchedTree :=
  let source := fromParent.descend [fromName]
  let target := toParent.descend [toName]
  if free : self.tree.vacant target = true then
    match self.tree.dirAt source, self.tree.dirAt toParent with
    | some id, some toId =>
        if toParent.startsWith source then self
        else
          let moved := { self with tree := self.tree.move source target free }
          ((moved.report (self.tree.dirAt fromParent) [.movedFrom, .isDir] fromName).report toId
            [.movedTo, .isDir] toName).report id [.moveSelf, .isDir] none
    | _, _ => self
  else self

def writeFile (self : WatchedTree) (parent : Location) (name : FileName) : WatchedTree :=
  self.report (self.tree.dirAt parent) [.modify] name

def handleEvent (self : WatchedTree) (event : LinuxInotifyEvent)
    : EventInvalidation × WatchedTree :=
  let handled := self.backend.handleEvent self.tree.world self.tracker self.config event
  (handled.1,
    { self with
      backend := handled.2
      live := (self.backend.newWatch self.tree.world event).toList ++ self.live
      bumped := self.bumped || handled.1.generationBump })

def handle (self : WatchedTree) : EventInvalidation × WatchedTree :=
  match self.backend.unread with
  | [] => (.empty, self)
  | event :: rest =>
      ({ self with backend := { self.backend with unread := rest } }).handleEvent event

def step (self : WatchedTree) : TreeStep → WatchedTree
  | .mkdir parent name => self.mkdir parent name
  | .rmdir path => self.rmdir path
  | .rename fromParent fromName toParent toName =>
      self.rename fromParent fromName toParent toName
  | .writeFile parent name => self.writeFile parent name
  | .handle => self.handle.2

def handleAll : List LinuxInotifyEvent → EventInvalidation × WatchedTree
    → EventInvalidation × WatchedTree
  | [], done => done
  | _ :: rest, (invalidation, self) =>
      handleAll rest (invalidation.merge self.handle.1, self.handle.2)

def drain (self : WatchedTree) : EventInvalidation × WatchedTree :=
  handleAll self.backend.unread (.empty, self)

end WatchedTree

structure WatchStart where
  config : EventSourceConfig
  tree : DirectoryTree
  backend : LinuxInotifyBackend
  started
    : LinuxInotifyBackend.start tree.world (EventSourcePlan.forConfig tree.world config).watchedDirs
        config.watchBudget = .ok backend

def WatchStart.watching (self : WatchStart) : WatchedTree where
  config := self.config
  tree := self.tree
  live := self.backend.watchPaths.keys
  backend := self.backend
  bumped := false

end StorageBallast
