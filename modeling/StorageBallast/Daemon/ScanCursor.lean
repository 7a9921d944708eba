import Mathlib.Data.List.Sort
import StorageBallast.Scanner.Candidates
import StorageBallast.Scanner.ExclusionWalks

/-! The incremental scan cursor: after a pass that timed out, directories without a classified
child are excluded from the next passes for a while.
-/

namespace StorageBallast

structure StreamedEntry where
  path : Location
  isDir : Bool
  /-- The verdict on a tree that was not gone into, if there is one. -/
  opaqueTree : Option OpaqueTreeDisposition
  category : ArtifactCategory
  /-- A `.git` exists in it. -/
  gitExists : Bool
deriving DecidableEq, Repr

structure PassTracking where
  visitedDirs : List Location
  dirsWithCandidates : List Location
  knownGitDirs : List Location
  /-- The entries that are classified and go on to be scored. -/
  candidates : List Location

namespace PassTracking

def start (knownGitDirs : List Location) : PassTracking := ⟨[], [], knownGitDirs, []⟩

def visit (self : PassTracking) (entry : StreamedEntry) : PassTracking :=
  if entry.isDir then { self with visitedDirs := entry.path :: self.visitedDirs } else self

/-- One entry of the stream, up to the point where its parent is marked. -/
def track (self : PassTracking) (entry : StreamedEntry) : PassTracking :=
  if entry.isDir && self.knownGitDirs.contains entry.path then self.visit entry
  else if entry.opaqueTree = some .signalOnly ∨ entry.opaqueTree = some .protectedOpaque then
    self.visit entry
  else if entry.category = .unknown then self.visit entry
  else if entry.isDir && entry.gitExists then
    { self.visit entry with knownGitDirs := entry.path :: self.knownGitDirs }
  else
    { self.visit entry with
      dirsWithCandidates := entry.path.parent.toList ++ self.dirsWithCandidates
      candidates := entry.path :: self.candidates }

def run (knownGitDirs : List Location) (entries : List StreamedEntry) : PassTracking :=
  entries.foldl track (start knownGitDirs)

end PassTracking

/-- An order in which a hash map may hand out its entries. -/
structure DrainOrder where
  arrange : List (Location × Instant) → List (Location × Instant)
  perm : ∀ entries, (arrange entries).Perm entries

def DrainOrder.asIs : DrainOrder := ⟨id, fun _ => .rfl⟩

structure ScanCursor where
  barrenDirs : List (Location × Instant)
  ttl : Duration
  maxEntries : Nat

namespace ScanCursor

def new : ScanCursor := ⟨[], .fromMins 30, 50000⟩

def isFresh (self : ScanCursor) (now : Instant) (entry : Location × Instant) : Bool :=
  decide (elapsed now entry.2 < self.ttl)

def barrenExclusions (self : ScanCursor) (now : Instant) : List Location :=
  (self.barrenDirs.filter (self.isFresh now)).map (·.1)

/-- `entry(dir).or_insert(now)`: an entry that is there keeps its time. -/
def orInsert (now : Instant) (barren : List (Location × Instant)) (dir : Location)
    : List (Location × Instant) :=
  if barren.any (·.1 == dir) then barren else (dir, now) :: barren

def capSize (self : ScanCursor) (order : DrainOrder) (barren : List (Location × Instant))
    : List (Location × Instant) :=
  if self.maxEntries < barren.length then
    ((order.arrange barren).mergeSort fun entry other => decide (other.2 ≤ entry.2)).take
      self.maxEntries
  else barren

def update (self : ScanCursor) (now : Instant) (order : DrainOrder)
    (visitedDirs dirsWithCandidates : List Location) (timedOut : Bool) : ScanCursor :=
  if !timedOut then { self with barrenDirs := [] }
  else
    let added := (visitedDirs.filter fun dir => !dirsWithCandidates.contains dir).foldl
      (orInsert now) self.barrenDirs
    let removed := added.filter fun entry => !dirsWithCandidates.contains entry.1
    let retained := removed.filter (self.isFresh now)
    { self with barrenDirs := self.capSize order retained }

end ScanCursor

end StorageBallast
