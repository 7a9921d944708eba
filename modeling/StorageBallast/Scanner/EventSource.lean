import Std.Data.TreeMap.Lemmas
import Std.Data.TreeSet.Lemmas
import StorageBallast.Core.Config

/-! The event source of the second scanner engine: the directories it watches, the roots that
the kernel's events make dirty, and what draining it gives. Paths are canonical locations.
-/

namespace StorageBallast

def Location.order (left right : Location) : Ordering :=
  compare (left.names.map (·.text)) (right.names.map (·.text))

abbrev PathSet := Std.TreeSet Location Location.order

/-- `sort` and then `dedup`. -/
def sortedRoots (paths : List Location) : List Location :=
  (Std.TreeSet.ofList paths Location.order).toList

inductive ScannerEventSourceMode where
  | auto
  | reconciliationOnly
deriving DecidableEq, Repr

inductive EventBackendKind where
  | fanotify
  | recursiveInotify
  | reconciliationOnly
deriving DecidableEq, Repr

structure EventScannerConfig where
  engine : ScannerEngineMode
  eventSource : ScannerEventSourceMode
  eventWatchBudget : Nat
deriving DecidableEq, Repr

structure EventSourceConfig where
  rootPaths : List Location
  mode : ScannerEventSourceMode
  watchBudget : Nat
deriving DecidableEq, Repr

def EventSourceConfig.fromScannerConfig (rootPaths : List Location)
    (scannerConfig : EventScannerConfig) : EventSourceConfig where
  rootPaths := sortedRoots rootPaths
  mode := scannerConfig.eventSource
  watchBudget := scannerConfig.eventWatchBudget

abbrev WatchDescriptor := Nat

inductive EventFlag where
  | attrib
  | closeWrite
  | create
  | delete
  | deleteSelf
  | ignored
  | isDir
  | modify
  | moveSelf
  | movedFrom
  | movedTo
  | qOverflow
  | unmount
deriving DecidableEq, Repr

abbrev EventMask := List EventFlag

def EventMask.intersects (mask : EventMask) (flags : List EventFlag) : Bool :=
  flags.any mask.contains

structure LinuxInotifyEvent where
  watch : WatchDescriptor
  mask : EventMask
  name : Option FileName
deriving DecidableEq, Repr

/-- What the file system and the kernel answer while a source is started or drained. -/
structure WatchWorld where
  /-- `symlink_metadata`: there is a plain directory, or something else. -/
  isPlainDir : Location → Except String Bool
  readDir : Location → Except String (List FileName)
  inotifyInit : Except String Unit
  /-- The descriptor of the directory at a path. -/
  addWatch : Location → Except String WatchDescriptor
  /-- How many events are read before reading fails, and why it does. -/
  readFailure : Option (Nat × String)

structure EventSourcePlan where
  backend : EventBackendKind
  complete : Bool
  watchedDirs : List Location
  dirtyRoots : PathSet
  reason : String

structure WatchPlanning where
  watchedDirs : List Location
  dirtyRoots : PathSet
  complete : Bool
  reason : String

namespace WatchPlanning

def start : WatchPlanning where
  watchedDirs := []
  dirtyRoots := ∅
  complete := true
  reason := "recursive inotify plan covers all current directories"

def leaveGap (self : WatchPlanning) (root : Location) (reason : String) : WatchPlanning :=
  { self with complete := false, dirtyRoots := self.dirtyRoots.insert root, reason }

def watchDir (self : WatchPlanning) (dir : Location) : WatchPlanning :=
  { self with watchedDirs := self.watchedDirs ++ [dir] }

/-- The children of one directory. Where the budget ends, so does the work on the root. -/
def visitChildren (world : WatchWorld) (budget : Nat) (root : Location)
    : List Location → List Location → WatchPlanning → WatchPlanning × Option (List Location)
  | [], queue, self => (self, some queue)
  | child :: rest, queue, self =>
      match world.isPlainDir child with
      | .error _ =>
          visitChildren world budget root rest queue
            (self.leaveGap root ("child metadata unavailable under " ++ root.text))
      | .ok false => visitChildren world budget root rest queue self
      | .ok true =>
          if budget ≤ self.watchedDirs.length then
            (self.leaveGap root "recursive inotify watch budget exhausted", none)
          else visitChildren world budget root rest (queue ++ [child]) (self.watchDir child)

/-- The names in a directory are distinct, so that no path is dropped here. -/
def sortedChildPaths (dir : Location) (names : List FileName) : List Location :=
  sortedRoots (names.map fun name => dir.descend [name])

/-- Breadth first through the watched directories. Each of them is taken from the queue once,
so the budget bounds the number of rounds.
-/
def visitQueue (world : WatchWorld) (budget : Nat) (root : Location)
    : Nat → List Location → WatchPlanning → WatchPlanning
  | 0, _, self => self
  | _ + 1, [], self => self
  | rounds + 1, dir :: queue, self =>
      match world.readDir dir with
      | .error err =>
          visitQueue world budget root rounds queue
            (self.leaveGap root ("directory unreadable for watch planning: " ++ err))
      | .ok names =>
          match visitChildren world budget root (sortedChildPaths dir names) queue self with
          | (self, none) => self
          | (self, some queue) => visitQueue world budget root rounds queue self

def visitRoot (world : WatchWorld) (budget : Nat) (self : WatchPlanning) (root : Location)
    : WatchPlanning :=
  if budget ≤ self.watchedDirs.length then
    self.leaveGap root "recursive inotify watch budget exhausted"
  else
    match world.isPlainDir root with
    | .error err =>
        self.leaveGap root ("root metadata unavailable for " ++ root.text ++ ": " ++ err)
    | .ok false => self.leaveGap root ("root is not a plain directory: " ++ root.text)
    | .ok true => visitQueue world budget root budget [root] (self.watchDir root)

end WatchPlanning

namespace EventSourcePlan

def ofReconciliationOnly (rootPaths : List Location) (reason : String) : EventSourcePlan where
  backend := .reconciliationOnly
  complete := false
  watchedDirs := []
  dirtyRoots := Std.TreeSet.ofList rootPaths Location.order
  reason := reason

def recursiveInotify (world : WatchWorld) (rootPaths : List Location) (watchBudget : Nat)
    : EventSourcePlan :=
  let planned := rootPaths.foldl (WatchPlanning.visitRoot world watchBudget) .start
  { backend := if planned.watchedDirs.isEmpty then .reconciliationOnly else .recursiveInotify
    complete := planned.complete
    watchedDirs := planned.watchedDirs
    dirtyRoots := planned.dirtyRoots
    reason := planned.reason }

/-- The plan on Linux. -/
def forConfig (world : WatchWorld) (config : EventSourceConfig) : EventSourcePlan :=
  if config.mode = .reconciliationOnly then
    .ofReconciliationOnly config.rootPaths "scanner.event_source forces reconciliation-only"
  else if config.watchBudget = 0 then
    .ofReconciliationOnly config.rootPaths "scanner.event_watch_budget is 0"
  else .recursiveInotify world config.rootPaths config.watchBudget

end EventSourcePlan

inductive FsEventKind where
  | create
  | modify
  | remove
  | rename
  | overflow
  | backendRestart
  | permissionLost
  | watchBudgetExceeded
deriving DecidableEq, Repr

def FsEventKind.name : FsEventKind → String
  | create => "Create"
  | modify => "Modify"
  | remove => "Remove"
  | rename => "Rename"
  | overflow => "Overflow"
  | backendRestart => "BackendRestart"
  | permissionLost => "PermissionLost"
  | watchBudgetExceeded => "WatchBudgetExceeded"

structure FsEvent where
  kind : FsEventKind
  path : Option Location
deriving DecidableEq, Repr

structure EventInvalidation where
  dirtyRoots : PathSet
  dirtyPaths : PathSet
  generationBump : Bool
  reasons : Std.TreeSet String

def rootForPath (roots : List Location) (path : Location) : Option Location :=
  roots.find? path.startsWith

namespace EventInvalidation

def empty : EventInvalidation := ⟨∅, ∅, false, ∅⟩

def markDirtyRoot (self : EventInvalidation) (root : Location) (reason : String)
    : EventInvalidation :=
  { self with dirtyRoots := self.dirtyRoots.insert root, reasons := self.reasons.insert reason }

def markAllRoots (self : EventInvalidation) (roots : List Location) (reason : String)
    (generationBump : Bool) : EventInvalidation :=
  { self with
    dirtyRoots := self.dirtyRoots.insertMany roots
    reasons := self.reasons.insert reason
    generationBump := self.generationBump || generationBump }

def markDirtyPath (self : EventInvalidation) (roots : List Location) (path : Location)
    (reason : String) : EventInvalidation :=
  let self := { self with dirtyPaths := self.dirtyPaths.insert path }
  match rootForPath roots path with
  | some root => self.markDirtyRoot root reason
  | none => self.markAllRoots roots reason true

def merge (self other : EventInvalidation) : EventInvalidation where
  dirtyRoots := self.dirtyRoots ∪ other.dirtyRoots
  dirtyPaths := self.dirtyPaths ∪ other.dirtyPaths
  generationBump := self.generationBump || other.generationBump
  reasons := self.reasons ∪ other.reasons

end EventInvalidation

structure DirtyRootTracker where
  roots : List Location

namespace DirtyRootTracker

def new (rootPaths : List Location) : DirtyRootTracker := ⟨sortedRoots rootPaths⟩

def applyEvent (self : DirtyRootTracker) (event : FsEvent) : EventInvalidation :=
  match event.kind, event.path with
  | .overflow, _ | .backendRestart, _ | .permissionLost, _ | .watchBudgetExceeded, _ =>
      EventInvalidation.empty.markAllRoots self.roots event.kind.name true
  | .create, some path | .modify, some path | .remove, some path | .rename, some path =>
      EventInvalidation.empty.markDirtyPath self.roots path event.kind.name
  | .create, none | .modify, none | .remove, none | .rename, none =>
      EventInvalidation.empty.markAllRoots self.roots event.kind.name true

end DirtyRootTracker

def eventKindFromInotifyMask (mask : EventMask) : FsEventKind :=
  if mask.intersects [.delete, .deleteSelf] then .remove
  else if mask.intersects [.movedFrom, .movedTo, .moveSelf] then .rename
  else if mask.contains .create then .create
  else .modify

structure LinuxInotifyBackend where
  /-- What the kernel has reported and nobody has read. -/
  unread : List LinuxInotifyEvent
  watchPaths : Std.TreeMap WatchDescriptor Location
  maxWatches : Nat

namespace LinuxInotifyBackend

def insertWatch (self : LinuxInotifyBackend) (watch : WatchDescriptor) (path : Location)
    : LinuxInotifyBackend :=
  { self with watchPaths := self.watchPaths.insert watch path }

def addWatch (self : LinuxInotifyBackend) (world : WatchWorld) (path : Location)
    : Except String LinuxInotifyBackend :=
  match world.addWatch path with
  | .error err => .error err
  | .ok watch => .ok (self.insertWatch watch path)

def start (world : WatchWorld) (paths : List Location) (maxWatches : Nat)
    : Except String LinuxInotifyBackend :=
  match world.inotifyInit with
  | .error err => .error err
  | .ok () => paths.foldlM (fun backend path => backend.addWatch world path) ⟨[], ∅, maxWatches⟩

def pathForEvent (self : LinuxInotifyBackend) (event : LinuxInotifyEvent) : Option Location :=
  match self.watchPaths[event.watch]? with
  | none => none
  | some base => some (base.descend event.name.toList)

def losesWatch (mask : EventMask) : Bool :=
  mask.intersects [.ignored, .unmount, .deleteSelf, .moveSelf]

def bringsDirectory (mask : EventMask) : Bool :=
  mask.contains .isDir && mask.intersects [.create, .movedTo]

def eventInvalidation (self : LinuxInotifyBackend) (tracker : DirtyRootTracker)
    (event : LinuxInotifyEvent) : EventInvalidation :=
  if losesWatch event.mask then tracker.applyEvent ⟨.permissionLost, self.pathForEvent event⟩
  else tracker.applyEvent ⟨eventKindFromInotifyMask event.mask, self.pathForEvent event⟩

def watchNewDirectory (self : LinuxInotifyBackend) (world : WatchWorld)
    (tracker : DirtyRootTracker) (config : EventSourceConfig) (invalidation : EventInvalidation)
    (path : Location) : EventInvalidation × LinuxInotifyBackend :=
  if self.maxWatches ≤ self.watchPaths.size then
    (invalidation.merge (tracker.applyEvent ⟨.watchBudgetExceeded, some path⟩), self)
  else
    match self.addWatch world path with
    | .ok watching => (invalidation, watching)
    | .error err =>
        let marked := invalidation.markDirtyPath config.rootPaths path
          ("recursive inotify add-watch failed: " ++ err)
        ({ marked with generationBump := true }, self)

def handleEvent (self : LinuxInotifyBackend) (world : WatchWorld) (tracker : DirtyRootTracker)
    (config : EventSourceConfig) (event : LinuxInotifyEvent)
    : EventInvalidation × LinuxInotifyBackend :=
  if event.mask.contains .qOverflow then (tracker.applyEvent ⟨.overflow, none⟩, self)
  else
    let invalidation := self.eventInvalidation tracker event
    match bringsDirectory event.mask, self.pathForEvent event with
    | true, some path => self.watchNewDirectory world tracker config invalidation path
    | _, _ => (invalidation, self)

def handleEvents (self : LinuxInotifyBackend) (world : WatchWorld) (tracker : DirtyRootTracker)
    (config : EventSourceConfig)
    : List LinuxInotifyEvent → EventInvalidation → EventInvalidation × LinuxInotifyBackend
  | [], invalidation => (invalidation, self)
  | event :: rest, invalidation =>
      let handled := self.handleEvent world tracker config event
      handled.2.handleEvents world tracker config rest (invalidation.merge handled.1)

def drain (self : LinuxInotifyBackend) (world : WatchWorld) (tracker : DirtyRootTracker)
    (config : EventSourceConfig) : EventInvalidation × LinuxInotifyBackend :=
  match world.readFailure with
  | none =>
      let read := self.handleEvents world tracker config self.unread .empty
      (read.1, { read.2 with unread := [] })
  | some (count, err) =>
      let read := self.handleEvents world tracker config (self.unread.take count) .empty
      (read.1.markAllRoots config.rootPaths ("recursive inotify read failed: " ++ err) true,
        { read.2 with unread := self.unread.drop count })

end LinuxInotifyBackend

inductive EventSourceBackend where
  | recursiveInotify (backend : LinuxInotifyBackend)
  | reconciliationOnly

structure ScannerEventSource where
  config : EventSourceConfig
  backend : EventSourceBackend
  pending : EventInvalidation

namespace ScannerEventSource

def start (world : WatchWorld) (config : EventSourceConfig) : ScannerEventSource :=
  let plan := EventSourcePlan.forConfig world config
  let pending :=
    if plan.complete then EventInvalidation.empty
    else EventInvalidation.empty.markAllRoots config.rootPaths plan.reason true
  match plan.backend with
  | .recursiveInotify =>
      match LinuxInotifyBackend.start world plan.watchedDirs config.watchBudget with
      | .ok backend => ⟨config, .recursiveInotify backend, pending⟩
      | .error err =>
          ⟨config, .reconciliationOnly,
            pending.markAllRoots config.rootPaths ("recursive inotify unavailable: " ++ err) true⟩
  | .fanotify | .reconciliationOnly => ⟨config, .reconciliationOnly, pending⟩

def tracker (self : ScannerEventSource) : DirtyRootTracker := .new self.config.rootPaths

def drain (self : ScannerEventSource) (world : WatchWorld)
    : EventInvalidation × ScannerEventSource :=
  match self.backend with
  | .recursiveInotify backend =>
      let drained := backend.drain world self.tracker self.config
      (self.pending.merge drained.1,
        { self with backend := .recursiveInotify drained.2, pending := .empty })
  | .reconciliationOnly => (self.pending, { self with pending := .empty })

end ScannerEventSource

end StorageBallast
