import Std.Data.TreeMap.Lemmas
import StorageBallast.Foundations.Sorting
import StorageBallast.Scanner.Walker

/-! The incremental scan index: a snapshot of each walked entry, and a hash for it that covers
everything below. Later walks are compared with the snapshots, and the hashes of what changed
and of the directories above it are computed anew.
-/

namespace StorageBallast

open Sorting

def Component.rank : Component → Nat
  | .rootDir => 0
  | .curDir => 1
  | .parentDir => 2
  | .normal _ => 3

def Component.name : Component → String
  | .normal name => name
  | .rootDir | .curDir | .parentDir => ""

def Component.order : Component → Component → Ordering :=
  compareLex (compareOn Component.rank) (compareOn Component.name)

instance : Std.TransCmp Component.order := by
  unfold Component.order
  infer_instance

instance : Std.LawfulEqCmp Component.order where
  eq_of_compare {left right} same := by
    simp only [Component.order, compareLex, compareOn, Ordering.then_eq_eq,
      Std.LawfulEqOrd.compare_eq_iff_eq] at same
    obtain ⟨rank, name⟩ := same
    cases left <;> cases right <;> first | rfl | simp_all [Component.rank, Component.name]

abbrev PathKey : Type := List Component

namespace PathKey

instance : LawfulBEq PathKey := List.instLawfulBEq

def order : PathKey → PathKey → Ordering := List.compareLex Component.order

instance : Std.TransCmp order := by
  unfold order
  infer_instance

instance : Std.LawfulEqCmp order := by
  unfold order
  infer_instance

/-- `Path::parent`: the path without its last component, if that is not the root. -/
def parent (path : PathKey) : Option PathKey :=
  match path.getLast? with
  | none | some .rootDir => none
  | some _ => some path.dropLast

/-- `Path::starts_with`. -/
def startsWith (path above : PathKey) : Bool := above.isPrefixOf path

def depth (path : PathKey) : Nat := path.length - 1

end PathKey

def WalkEntry.key {F : Type} (entry : WalkEntry F) : PathKey := entry.path.components

inductive IndexHealth where
  | healthy
  | degraded
  | corrupt
  | uninitialized
deriving DecidableEq, Repr

structure EntrySnapshot where
  path : PathBuf
  sizeBytes : Nat
  modifiedNanos : Nat
  inode : Nat
  deviceId : Nat
  isDir : Bool
deriving DecidableEq, Repr

def EntrySnapshot.fromWalkEntry {F : Type} (entry : WalkEntry F) : EntrySnapshot where
  path := entry.path
  sizeBytes := entry.metadata.sizeBytes
  modifiedNanos := systemTimeNanos entry.metadata.modified
  inode := entry.metadata.inode
  deviceId := entry.metadata.deviceId
  isDir := entry.metadata.isDir

/-- The digests of the index: of a snapshot, of a metadata hash followed by the hashes of
children, and the one that stands for a missing node.
-/
structure MerkleHasher (Hash : Type) where
  zeroHash : Hash
  metadataHash : EntrySnapshot → Hash
  subtreeHash : Hash → List Hash → Hash

structure MerkleNode (Hash : Type) where
  metadataHash : Hash
  subtreeHash : Hash
  depth : Nat
  children : List PathKey
deriving DecidableEq, Repr

structure ScanBudget where
  maxSubtreeUpdates : Nat
  updatesUsed : Nat
deriving DecidableEq, Repr

namespace ScanBudget

def new (maxSubtreeUpdates : Nat) : ScanBudget := ⟨maxSubtreeUpdates, 0⟩

def tryConsume (budget : ScanBudget) : Bool × ScanBudget :=
  if budget.maxSubtreeUpdates ≤ budget.updatesUsed then (false, budget)
  else (true, { budget with updatesUsed := budget.updatesUsed + 1 })

def remaining (budget : ScanBudget) : Nat := budget.maxSubtreeUpdates - budget.updatesUsed

end ScanBudget

structure IncrementalDiff where
  changedPaths : List PathKey
  unchangedCount : Nat
  newPaths : List PathKey
  removedPaths : List PathKey
  budgetExhausted : Bool
  deferredPaths : List PathKey
  health : IndexHealth
deriving DecidableEq, Repr

abbrev Snapshots := Std.TreeMap PathKey EntrySnapshot PathKey.order

abbrev MerkleNodes (Hash : Type) := PathKey → Option (MerkleNode Hash)

structure MerkleScanIndex (Hash : Type) where
  nodes : MerkleNodes Hash
  snapshots : Snapshots
  rootPaths : List PathKey
  health : IndexHealth

def childrenMap (paths : List PathKey) (path : PathKey) : List PathKey :=
  sortBy PathKey.order (paths.filter fun child => child.parent = some path)

def Snapshots.insertEntries {F : Type} (snapshots : Snapshots) (entries : List (WalkEntry F))
    : Snapshots :=
  entries.foldl (fun snapshots entry => snapshots.insert entry.key (.fromWalkEntry entry)) snapshots

def deepestFirst (paths : List PathKey) : List PathKey :=
  sortBy (fun left right => compare right.length left.length) paths

section
variable {Hash : Type} (hasher : MerkleHasher Hash)

def computeSubtreeHash (metadataHash : Hash) (children : List PathKey)
    (nodes : MerkleNodes Hash) : Hash :=
  hasher.subtreeHash metadataHash <|
    children.map fun child => ((nodes child).map (·.subtreeHash)).getD hasher.zeroHash

def computeNode (snapshots : Snapshots) (children : PathKey → List PathKey) (path : PathKey)
    (nodes : MerkleNodes Hash) : MerkleNode Hash :=
  let metadataHash := (snapshots[path]?.map hasher.metadataHash).getD hasher.zeroHash
  {
    metadataHash
    subtreeHash := computeSubtreeHash hasher metadataHash (children path) nodes
    depth := path.depth
    children := children path
  }

end

/-- The loop that climbs from a path up to the first root above it. It notes each parent that
lies at, below or above some root. A path of `fuel` components has no more parents than that.
-/
def climb (rootPaths : List PathKey) : Nat → PathKey → List PathKey
  | 0, _ => []
  | fuel + 1, path =>
      match path.parent with
      | none => []
      | some parent =>
          let noted :=
            if rootPaths.any fun root => parent.startsWith root || root.startsWith parent then
              [parent]
            else []
          if parent ∈ rootPaths then noted else noted ++ climb rootPaths fuel parent

def ancestorsOf (rootPaths : List PathKey) (path : PathKey) : List PathKey :=
  climb rootPaths path.length path

namespace MerkleScanIndex

variable {F Hash : Type} (hasher : MerkleHasher Hash)

def new : MerkleScanIndex Hash where
  nodes := fun _ => none
  snapshots := ∅
  rootPaths := []
  health := .uninitialized

def trackedPaths (self : MerkleScanIndex Hash) : List PathKey := self.snapshots.keys

def subtreeHash (self : MerkleScanIndex Hash) (path : PathKey) : Option Hash :=
  (self.nodes path).map (·.subtreeHash)

def buildFromEntries (entries : List (WalkEntry F)) (rootPaths : List PathBuf)
    : MerkleScanIndex Hash :=
  let snapshots := Snapshots.insertEntries ∅ entries
  let children := childrenMap (entries.map (·.key))
  let entriesByDepth :=
    sortBy (fun left right => compare right.depth left.depth) (entries.map (·.key))
  {
    nodes := entriesByDepth.foldl
      (fun nodes path =>
        Function.update nodes path (some (computeNode hasher snapshots children path nodes)))
      fun _ => none
    snapshots
    rootPaths := rootPaths.map (·.components)
    health := .healthy
  }

def compareEntry [DecidableEq Hash] (self : MerkleScanIndex Hash)
    (state : IncrementalDiff × ScanBudget) (fresh : PathKey × EntrySnapshot)
    : IncrementalDiff × ScanBudget :=
  let (diff, budget) := state
  match self.snapshots[fresh.1]? with
  | none =>
      match budget.tryConsume with
      | (true, budget) => ({ diff with newPaths := diff.newPaths ++ [fresh.1] }, budget)
      | (false, budget) =>
          ({ diff with
              budgetExhausted := true
              deferredPaths := diff.deferredPaths ++ [fresh.1] }, budget)
  | some old =>
      if hasher.metadataHash old = hasher.metadataHash fresh.2 then
        ({ diff with unchangedCount := diff.unchangedCount + 1 }, budget)
      else
        match budget.tryConsume with
        | (true, budget) => ({ diff with changedPaths := diff.changedPaths ++ [fresh.1] }, budget)
        | (false, budget) =>
            ({ diff with
                budgetExhausted := true
                deferredPaths := diff.deferredPaths ++ [fresh.1] }, budget)

/-- Compare the index with the entries of a new walk, and take over the snapshots of what
changed.
-/
def diff [DecidableEq Hash] (self : MerkleScanIndex Hash) (freshEntries : List (WalkEntry F))
    (budget : ScanBudget) : MerkleScanIndex Hash × IncrementalDiff :=
  let empty : IncrementalDiff := ⟨[], 0, [], [], false, [], self.health⟩
  if self.health = .corrupt ∨ self.health = .uninitialized then
    (self, { empty with changedPaths := freshEntries.map (·.key) })
  else
    let freshSnapshots := Snapshots.insertEntries ∅ freshEntries
    let (found, _) := freshSnapshots.toList.foldl (self.compareEntry hasher) (empty, budget)
    let removed := self.snapshots.keys.filter fun path => !freshSnapshots.contains path
    let taken := (found.changedPaths ++ found.newPaths).foldl
      (fun snapshots path =>
        match freshSnapshots[path]? with
        | none => snapshots
        | some snapshot => snapshots.insert path snapshot)
      self.snapshots
    let health : IndexHealth := if found.budgetExhausted then .degraded else .healthy
    ({ self with
        snapshots := removed.foldl (fun snapshots path => snapshots.erase path) taken
        health },
      { found with removedPaths := removed, health })

def updateEntries (self : MerkleScanIndex Hash) (entries : List (WalkEntry F))
    : MerkleScanIndex Hash :=
  let snapshots := self.snapshots.insertEntries entries
  let children := childrenMap snapshots.keys
  let paths := entries.map (·.key)
    ++ entries.flatMap fun entry => ancestorsOf self.rootPaths entry.key
  let pathsToUpdate := deepestFirst (sortBy PathKey.order paths).dedup
  { self with
    snapshots
    nodes := pathsToUpdate.foldl
      (fun nodes path =>
        Function.update nodes path (some (computeNode hasher snapshots children path nodes)))
      self.nodes }

/-- Remove paths, and compute the nodes of the directories above them anew. A directory without
a snapshot and without children goes as well.
-/
def removePaths (self : MerkleScanIndex Hash) (paths : List PathKey) : MerkleScanIndex Hash :=
  let nodes := paths.foldl (fun nodes path => Function.update nodes path none) self.nodes
  let snapshots := paths.foldl (fun snapshots path => snapshots.erase path) self.snapshots
  let ancestors := paths.flatMap (ancestorsOf self.rootPaths)
  if ancestors = [] then { self with nodes, snapshots }
  else
    let children := childrenMap snapshots.keys
    let ancestorsToRefresh := deepestFirst (sortBy PathKey.order ancestors).dedup
    { self with
      snapshots
      nodes := ancestorsToRefresh.foldl
        (fun nodes path =>
          if !snapshots.contains path && (children path).isEmpty then
            Function.update nodes path none
          else
            Function.update nodes path (some (computeNode hasher snapshots children path nodes)))
        nodes }

def cycle [DecidableEq Hash] (self : MerkleScanIndex Hash) (freshEntries : List (WalkEntry F))
    (budget : ScanBudget) : MerkleScanIndex Hash :=
  let (compared, diff) := self.diff hasher freshEntries budget
  let touched := freshEntries.filter fun entry =>
    entry.key ∈ diff.changedPaths ++ diff.newPaths
  (compared.updateEntries hasher touched).removePaths hasher diff.removedPaths

end MerkleScanIndex

end StorageBallast
