import StorageBallast.Scanner.ProtectionRegistry
import StorageBallast.Scanner.Walker

/-! The walker with its threads. They take directories from a shared queue, list them, queue
the directories found there, and stop when nothing is in flight any more. A step is one action
of one thread on what the threads share.
-/

namespace StorageBallast

variable {F : Type}

structure WorkItem (F : Type) where
  path : PathBuf
  depth : Nat
  rootDeviceId : Nat
  opaqueTree : Option (OpaqueTreeClassification F)

/-- An item together with the number of the root it comes from, which the program does not
keep.
-/
structure WorkTask (F : Type) where
  origin : Nat
  item : WorkItem F

/-- Where a thread is in its loop. -/
inductive WorkerPhase (F : Type) where
  /-- It waits for an item. -/
  | receiving
  /-- It has taken an item from the queue. -/
  | received (task : WorkTask F)
  /-- The directory has passed the checks. -/
  | opened (task : WorkTask F) (metadata : Option Metadata)
  /-- The directory is listed, and some of its children are still to be dispatched. -/
  | dispatching (task : WorkTask F) (metadata : Option Metadata) (listing : DirListing)
      (pending : List PathBuf)
  /-- A child is counted as in flight, but not in the queue yet. -/
  | announced (task : WorkTask F) (metadata : Option Metadata) (listing : DirListing)
      (child : WorkItem F) (pending : List PathBuf)
  /-- The directory is done with, and still counted. -/
  | finishing (task : WorkTask F) (entered : Bool)
  /-- Waiting timed out, and the count is not looked at yet. -/
  | timedOut
  | returned

structure SharedWork (F : Type) where
  queue : List (WorkTask F)
  inFlight : Nat
  registry : ProtectionRegistry
  results : List (WalkEntry F)
  processed : List (WorkTask F)

structure ThreadedWalk (F : Type) where
  work : SharedWork F
  threads : List (WorkerPhase F)

/-- The next action of a thread. A waiting thread may also time out. -/
structure WalkMove where
  thread : Nat
  timesOut : Bool
deriving DecidableEq, Repr

namespace DirectoryWalker

variable [Float64 F] (walker : DirectoryWalker) (env : PathEnv)

def under (registry : ProtectionRegistry) : DirectoryWalker :=
  { walker with isProtected := registry.isProtected env }

def childItem (item : WorkItem F) (listing : DirListing) (child : PathBuf)
    : Option (WorkItem F) :=
  match walker.childOpaqueTree listing child with
  | none => some ⟨child, item.depth + 1, item.rootDeviceId, none⟩
  | some verdict =>
      match verdict.disposition with
      | .candidateOpaque => none
      | .protectedOpaque => none
      | .signalOnly => some ⟨child, item.depth + 1, item.rootDeviceId, some verdict⟩

def childEntry (item : WorkItem F) (listing : DirListing) (child : PathBuf)
    : Option (WalkEntry F) :=
  match walker.childOpaqueTree listing child with
  | none => none
  | some verdict =>
      match verdict.disposition with
      | .candidateOpaque =>
          walker.opaqueEntry item.rootDeviceId (item.depth + 1) child verdict
      | .protectedOpaque => none
      | .signalOnly => none

def ownEntry (item : WorkItem F) (metadata : Option Metadata) (listing : DirListing)
    : Option (WalkEntry F) :=
  metadata.map fun metadata =>
    listedEntry item.depth item.path item.opaqueTree metadata listing

def check (work : SharedWork F) (task : WorkTask F) : WorkerPhase F :=
  match (walker.under env work.registry).checkDirectory task.item.rootDeviceId task.item.depth
      task.item.path with
  | none => .finishing task false
  | some metadata => .opened task metadata

/-- List a directory that passed the checks. A marker is registered, and nothing is done about
the children.
-/
def list (work : SharedWork F) (task : WorkTask F) (metadata : Option Metadata)
    : SharedWork F × WorkerPhase F :=
  match walker.world.readDir task.item.path with
  | none => (work, .finishing task true)
  | some entries =>
      match walker.listEntries task.item.depth task.item.path entries .start with
      | none =>
          ({ work with registry := work.registry.registerMarker env task.item.path },
            .finishing task true)
      | some listing => (work, .dispatching task metadata listing listing.pendingChildren)

/-- Count a child as in flight, or report it, or leave it out. Once there are no more children
the directory itself is reported.
-/
def dispatch (work : SharedWork F) (task : WorkTask F) (metadata : Option Metadata)
    (listing : DirListing) : List PathBuf → SharedWork F × WorkerPhase F
  | [] =>
      ({ work with
          results := work.results ++ (ownEntry task.item metadata listing).toList },
        .finishing task true)
  | child :: pending =>
      match walker.childItem task.item listing child with
      | some item =>
          ({ work with inFlight := work.inFlight + 1 },
            .announced task metadata listing item pending)
      | none =>
          ({ work with
              results := work.results ++ (walker.childEntry task.item listing child).toList },
            .dispatching task metadata listing pending)

/-- The next action of a thread in some phase, if it has one. -/
def act (work : SharedWork F) (timesOut : Bool)
    : WorkerPhase F → Option (SharedWork F × WorkerPhase F)
  | .receiving =>
      if timesOut then some (work, .timedOut)
      else
        match work.queue with
        | [] => none
        | task :: rest => some ({ work with queue := rest }, .received task)
  | .received task => some (work, walker.check env work task)
  | .opened task metadata => some (walker.list env work task metadata)
  | .dispatching task metadata listing pending =>
      some (walker.dispatch work task metadata listing pending)
  | .announced task metadata listing child pending =>
      some ({ work with queue := work.queue ++ [⟨task.origin, child⟩] },
        .dispatching task metadata listing pending)
  | .finishing task entered =>
      some ({ work with
          inFlight := work.inFlight - 1
          processed := work.processed ++ if entered then [task] else [] },
        .receiving)
  | .timedOut => some (work, if work.inFlight = 0 then .returned else .receiving)
  | .returned => none

def step (state : ThreadedWalk F) (move : WalkMove) : Option (ThreadedWalk F) :=
  match state.threads[move.thread]? with
  | none => none
  | some phase =>
      (walker.act env state.work move.timesOut phase).map fun (work, next) =>
        ⟨work, state.threads.set move.thread next⟩

/-- A walk as it starts: the roots are queued and counted, and no thread runs yet. -/
def start (registry : ProtectionRegistry) (parallelism : Nat) (seeds : List (PathBuf × Nat))
    : ThreadedWalk F where
  work := {
    queue := seeds.zipIdx.map fun ((root, rootDev), origin) => ⟨origin, root, 0, rootDev, none⟩
    inFlight := seeds.length
    registry
    results := []
    processed := []
  }
  threads := List.replicate (max parallelism 1) .receiving

def stream (registry : ProtectionRegistry) (parallelism : Nat)
    : Except SbhError (ThreadedWalk F) :=
  (walker.seeds walker.config.rootPaths).map (start registry parallelism)

def steps (state : ThreadedWalk F) (moves : List WalkMove) : Option (ThreadedWalk F) :=
  moves.foldlM (walker.step env) state

end DirectoryWalker

end StorageBallast
