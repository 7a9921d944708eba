import Mathlib.Algebra.Order.BigOperators.Group.List
import Mathlib.Algebra.GroupWithZero.Nat
import StorageBallast.Scanner.SacredPaths

/-! The bounded scan for sacred entries inside a cleanup candidate: its rules, the directory
tree it reads together with the reads that fail, and the breadth-first walk itself.
-/

namespace StorageBallast

def markerFilename : String := ".sbh-protect"

inductive StowawayMatcher where
  | containsDirName (name : String)
  | containsRelativePath (path : String)
  | exactName (name : String)
  | globPath (regex : List Globs.Piece)
deriving DecidableEq, Repr

structure StowawayRule where
  pattern : String
  kind : SacredPathKind
  source : SacredPathSource
  reason : String
  matcher : StowawayMatcher
deriving DecidableEq, Repr

def pathSuffixMatches (path suffix : String) : Bool :=
  path == suffix || Texts.endsWith path ("/" ++ suffix)

def StowawayRule.matches (rule : StowawayRule) (fileName relativePath : String)
    (isDir : Bool) : Bool :=
  match rule.matcher with
  | .containsDirName name => isDir && fileName == name
  | .containsRelativePath path => isDir && pathSuffixMatches relativePath path
  | .exactName name => fileName == name || pathSuffixMatches relativePath name
  | .globPath regex => isMatch regex fileName || isMatch regex relativePath

def normalizedSacredPattern (pattern : String) : String :=
  Texts.trimEndMatches (Texts.slashed pattern) (· == '/')

/-- The matcher of a catalogue entry; exact and glob entries are not looked for inside. -/
def stowawayMatcher (entry : SacredPath) : Option StowawayMatcher :=
  let pattern := normalizedSacredPattern entry.pattern
  match entry.kind with
  | .containsAny =>
      if Texts.contains pattern "/" then some (.containsRelativePath pattern)
      else some (.containsDirName pattern)
  | .stowawayMarker =>
      if containsGlobMetachar pattern then some (.globPath (globToRegex pattern))
      else some (.exactName pattern)
  | .exactMatch | .globMatch => none

def stowawayRuleFromSacredPath (entry : SacredPath) : Option StowawayRule :=
  (stowawayMatcher entry).map fun matcher => {
    pattern := entry.pattern
    kind := entry.kind
    source := entry.source
    reason := entry.reason
    matcher
  }

def markerRule : StowawayRule where
  pattern := markerFilename
  kind := .stowawayMarker
  source := .marker
  reason := "Protection marker present inside cleanup candidate."
  matcher := .exactName markerFilename

def buildStowawayRules (catalog : List SacredPath) : List StowawayRule :=
  catalog.filterMap stowawayRuleFromSacredPath ++ [markerRule]

inductive EntryRead where
  /-- With its type. -/
  | typed
  /-- Without a type, which `lstat` then gives. -/
  | restated
  /-- Without a type, and `lstat` fails. -/
  | untyped
  /-- Not at all. -/
  | broken
deriving DecidableEq, Repr

def EntryRead.known : EntryRead → Bool
  | typed | restated => true
  | untyped | broken => false

/-- A finite directory tree as it is on disk, with the reads that fail in it. -/
inductive ScanTree where
  | file
  | symlink
  | special
  | directory (fault : Option ReadFault) (children : List (FileName × EntryRead × ScanTree))

def ScanTree.isDir : ScanTree → Bool
  | file | symlink | special => false
  | directory .. => true

abbrev ScanChild := FileName × EntryRead × ScanTree

structure ScanRoot where
  location : Location
  /-- How `lstat` of the root fails, if it does. -/
  fault : Option ReadFault
  tree : ScanTree

structure StowawayScanConfig where
  maxDepth : Nat
  stopAfterFirst : Bool
  /-- Entries to name-check at most; zero for no bound. -/
  maxEntries : Nat
  /-- Directories to open at most; zero for no bound. -/
  maxDirs : Nat
deriving DecidableEq, Repr

def StowawayScanConfig.default : StowawayScanConfig where
  maxDepth := 3
  stopAfterFirst := true
  maxEntries := 2000000
  maxDirs := 50000

structure StowawayMatch where
  path : Location
  depth : Nat
  pattern : String
  kind : SacredPathKind
  source : SacredPathSource
  reason : String
deriving DecidableEq, Repr

structure StowawayScanResult where
  «matches» : List StowawayMatch
  truncated : Bool
deriving DecidableEq, Repr

structure WalkState where
  found : List StowawayMatch
  entriesExamined : Nat
  dirsOpened : Nat
deriving DecidableEq, Repr

/-- How a walk ends: with its state, and an error or whether it was truncated. -/
structure WalkEnd where
  state : WalkState
  outcome : Except PathError Bool

/-- A directory waiting to be opened, by its names below the root. -/
structure QueuedDir where
  names : List FileName
  depth : Nat
  fault : Option ReadFault
  children : List ScanChild

structure ScanSetup where
  root : Location
  rules : List StowawayRule
  config : StowawayScanConfig

namespace ScanSetup

variable (setup : ScanSetup)

def relativeText (names : List FileName) : String :=
  Texts.slashed (String.intercalate "/" (names.map FileName.text))

def nameText (names : List FileName) : String :=
  match (setup.root.descend names).fileName with
  | some name => name.text
  | none => ""

def matchingRule (names : List FileName) (isDir : Bool) : Option StowawayRule :=
  setup.rules.find? fun rule =>
    rule.matches (setup.nameText names) (relativeText names) isDir

def recordMatch (names : List FileName) (depth : Nat) (isDir : Bool) (state : WalkState)
    : WalkState × Bool :=
  match setup.matchingRule names isDir with
  | none => (state, false)
  | some rule =>
      let found : StowawayMatch := {
        path := setup.root.descend names
        depth
        pattern := rule.pattern
        kind := rule.kind
        source := rule.source
        reason := rule.reason
      }
      ({ state with found := state.found ++ [found] }, setup.config.stopAfterFirst)

def entriesExhausted (state : WalkState) : Bool :=
  setup.config.maxEntries != 0 && decide (setup.config.maxEntries ≤ state.entriesExamined)

def dirsExhausted (state : WalkState) : Bool :=
  setup.config.maxDirs != 0 && decide (setup.config.maxDirs ≤ state.dirsOpened)

def enqueue (names : List FileName) (depth : Nat) : ScanTree → List QueuedDir
  | .directory fault children =>
      if depth < setup.config.maxDepth then [⟨names, depth, fault, children⟩] else []
  | .file | .symlink | .special => []

/-- Examine the entries of one open directory, in the order they are read. The walk ends
inside, or goes on with the directories found.
-/
def scanEntries (dir : List FileName) (depth : Nat)
    : List ScanChild → WalkState → WalkEnd ⊕ (WalkState × List QueuedDir)
  | [], state => .inr (state, [])
  | (name, read, child) :: rest, state =>
      if read = .broken then scanEntries dir depth rest state
      else if setup.entriesExhausted state then .inl ⟨state, .ok true⟩
      else
        let counted := { state with entriesExamined := state.entriesExamined + 1 }
        if read = .untyped then scanEntries dir depth rest counted
        else
          let names := dir ++ [name]
          let (recorded, stop) := setup.recordMatch names depth child.isDir counted
          if stop then .inl ⟨recorded, .ok false⟩
          else
            match scanEntries dir depth rest recorded with
            | .inl ended => .inl ended
            | .inr (final, found) => .inr (final, setup.enqueue names depth child ++ found)

end ScanSetup

mutual

def ScanTree.size : ScanTree → Nat
  | .file | .symlink | .special => 1
  | .directory _ children => 1 + childrenSize children

def childrenSize : List (FileName × EntryRead × ScanTree) → Nat
  | [] => 0
  | (_, _, child) :: rest => child.size + childrenSize rest

end

def QueuedDir.size (dir : QueuedDir) : Nat := 1 + childrenSize dir.children

def queueSize (queue : List QueuedDir) : Nat := (queue.map QueuedDir.size).sum

@[simp] theorem queueSize_nil : queueSize [] = 0 := rfl

@[simp] theorem queueSize_cons (dir : QueuedDir) (rest : List QueuedDir)
    : queueSize (dir :: rest) = dir.size + queueSize rest := by
  simp [queueSize]

@[simp] theorem queueSize_append (front back : List QueuedDir)
    : queueSize (front ++ back) = queueSize front + queueSize back := by
  simp [queueSize]

namespace ScanSetup

variable (setup : ScanSetup)

/-- What is queued for an entry waits with no more than the entry holds. -/
theorem queueSize_enqueue_le (names : List FileName) (depth : Nat) (tree : ScanTree)
    : queueSize (setup.enqueue names depth tree) ≤ tree.size := by
  cases tree with
  | file => simp [enqueue]
  | symlink => simp [enqueue]
  | special => simp [enqueue]
  | directory fault children =>
      simp only [enqueue]
      split
      · simp [QueuedDir.size, ScanTree.size]
      · simp

/-- The directories found among entries wait with no more than the entries hold, by
induction on the entries.
-/
theorem queueSize_scanEntries_le {dir : List FileName} {depth : Nat}
    {children : List ScanChild} {state final : WalkState} {found : List QueuedDir}
    (resumed : setup.scanEntries dir depth children state = .inr (final, found))
    : queueSize found ≤ childrenSize children := by
  induction children generalizing state final found with
  | nil =>
      cases resumed
      simp
  | cons entry rest ih =>
      obtain ⟨name, read, child⟩ := entry
      have room := setup.queueSize_enqueue_le (dir ++ [name]) depth child
      simp only [scanEntries] at resumed
      split at resumed
      · have tail := ih resumed
        simp only [childrenSize]
        omega
      · split at resumed
        · cases resumed
        · split at resumed
          · have tail := ih resumed
            simp only [childrenSize]
            omega
          · split at resumed
            · cases resumed
            · split at resumed
              · cases resumed
              · rename_i last later scanned
                have tail := ih scanned
                cases resumed
                simp only [childrenSize, queueSize_append]
                omega

/-- Work off the queue of directories, breadth first. A directory that is missing or may not
be read is skipped; any other failure ends the walk.
-/
def scanQueue : List QueuedDir → WalkState → WalkEnd
  | [], state => ⟨state, .ok false⟩
  | dir :: queue, state =>
      if setup.dirsExhausted state || setup.entriesExhausted state then ⟨state, .ok true⟩
      else
        match dir.fault with
        | some .notFound | some .permissionDenied => scanQueue queue state
        | some (.other message) =>
            ⟨state, .error ⟨(setup.root.descend dir.names).toPathBuf, message⟩⟩
        | none =>
            let opened := { state with dirsOpened := state.dirsOpened + 1 }
            match _scanned : setup.scanEntries dir.names (dir.depth + 1) dir.children opened with
            | .inl ended => ended
            | .inr (final, found) => scanQueue (queue ++ found) final
termination_by queue => queueSize queue
decreasing_by
  · simp only [queueSize_cons, QueuedDir.size]
    omega
  · have found := setup.queueSize_scanEntries_le _scanned
    simp only [queueSize_cons, queueSize_append, QueuedDir.size]
    omega

/-- The walk below a root that `lstat` describes. -/
def scanFrom (tree : ScanTree) : WalkEnd :=
  let counted : WalkState := { found := [], entriesExamined := 1, dirsOpened := 0 }
  let (recorded, stop) := setup.recordMatch [] 0 tree.isDir counted
  if stop then ⟨recorded, .ok false⟩
  else setup.scanQueue (setup.enqueue [] 0 tree) recorded

end ScanSetup

def ScanRoot.setup (root : ScanRoot) (catalog : List SacredPath)
    (config : StowawayScanConfig) : ScanSetup where
  root := root.location
  rules := buildStowawayRules catalog
  config

/-- The walk of a scan. A root that is missing or may not be read ends it at once. -/
def stowawayWalk (root : ScanRoot) (catalog : List SacredPath) (config : StowawayScanConfig)
    : WalkEnd :=
  let untouched : WalkState := { found := [], entriesExamined := 0, dirsOpened := 0 }
  match root.fault with
  | some .notFound | some .permissionDenied => ⟨untouched, .ok false⟩
  | some (.other message) => ⟨untouched, .error ⟨root.location.toPathBuf, message⟩⟩
  | none => (root.setup catalog config).scanFrom root.tree

def scanStowawaysBounded (root : ScanRoot) (catalog : List SacredPath)
    (config : StowawayScanConfig) : Except PathError StowawayScanResult :=
  let ended := stowawayWalk root catalog config
  match ended.outcome with
  | .error error => .error error
  | .ok truncated => .ok ⟨ended.state.found, truncated⟩

end StorageBallast
