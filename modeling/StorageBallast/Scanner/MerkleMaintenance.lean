import Mathlib.Data.List.Dedup
import StorageBallast.Foundations.LayeredTables
import StorageBallast.Foundations.Runs
import StorageBallast.Scanner.MerkleIndex

/-! The incremental index against the one that is built from scratch. A cycle leaves the hashes
of a rebuild for every tracked path, unless something changed below a root that itself lies
below a tracked directory: climbing ends at the first root, and that directory keeps its hash.
-/

namespace StorageBallast

open LayeredTables Runs Sorting

/-! Snapshots and children. -/

theorem Snapshots.getElem?_insert_key (snapshots : Snapshots) (stored path : PathKey)
    (snapshot : EntrySnapshot)
    : (snapshots.insert stored snapshot)[path]?
      = if stored = path then some snapshot else snapshots[path]? := by
  rw [Std.TreeMap.getElem?_insert]
  simp only [Std.LawfulEqCmp.compare_eq_iff_eq]

theorem Snapshots.getElem?_erase_key (snapshots : Snapshots) (erased path : PathKey)
    : (snapshots.erase erased)[path]? = if erased = path then none else snapshots[path]? := by
  rw [Std.TreeMap.getElem?_erase]
  simp only [Std.LawfulEqCmp.compare_eq_iff_eq]

theorem Snapshots.mem_keys_iff (snapshots : Snapshots) (path : PathKey)
    : path ∈ snapshots.keys ↔ (snapshots[path]?).isSome := by
  rw [Std.TreeMap.mem_keys, Std.TreeMap.mem_iff_isSome_getElem?]

theorem Snapshots.getElem?_foldl_erase (paths : List PathKey) (snapshots : Snapshots)
    (path : PathKey)
    : (paths.foldl (fun snapshots path => snapshots.erase path) snapshots)[path]?
      = if path ∈ paths then none else snapshots[path]? := by
  induction paths generalizing snapshots with
  | nil => rfl
  | cons first rest ih =>
      rw [List.foldl_cons, ih, getElem?_erase_key]
      by_cases here : path = first
      · simp [here]
      · simp [here, Ne.symm here]

section
variable {F : Type} {entries : List (WalkEntry F)}

/-- Inserting entries leaves the paths alone that they do not have. -/
theorem Snapshots.getElem?_insertEntries_of_not_mem
    {path : PathKey} (absent : path ∉ entries.map (·.key)) (snapshots : Snapshots)
    : (snapshots.insertEntries entries)[path]? = snapshots[path]? := by
  induction entries generalizing snapshots with
  | nil => rfl
  | cons first rest ih =>
      obtain ⟨apart, later⟩ : path ≠ first.key ∧ path ∉ rest.map (·.key) := by
        simpa using absent
      change (insertEntries (snapshots.insert first.key (.fromWalkEntry first)) rest)[path]? = _
      rw [ih later, getElem?_insert_key, if_neg apart.symm]

/-- Each of some entries with distinct paths has its snapshot inserted. -/
theorem Snapshots.getElem?_insertEntries
    (distinct : (entries.map (·.key)).Nodup) {entry : WalkEntry F} (member : entry ∈ entries)
    (snapshots : Snapshots)
    : (snapshots.insertEntries entries)[entry.key]? = some (.fromWalkEntry entry) := by
  induction entries generalizing snapshots with
  | nil => cases member
  | cons first rest ih =>
      obtain ⟨apart, distinctRest⟩ := List.nodup_cons.mp distinct
      change (insertEntries (snapshots.insert first.key (.fromWalkEntry first)) rest)[_]? = _
      rcases List.mem_cons.mp member with rfl | later
      · rw [getElem?_insertEntries_of_not_mem apart, getElem?_insert_key, if_pos rfl]
      · exact ih distinctRest later _

theorem Snapshots.mem_keys_insertEntries (distinct : (entries.map (·.key)).Nodup) (path : PathKey)
    : path ∈ (Snapshots.insertEntries ∅ entries).keys ↔ path ∈ entries.map (·.key) := by
  rw [mem_keys_iff]
  by_cases listed : path ∈ entries.map (·.key)
  · obtain ⟨entry, member, rfl⟩ := List.mem_map.mp listed
    rw [getElem?_insertEntries distinct member]
    exact iff_of_true rfl listed
  · rw [getElem?_insertEntries_of_not_mem listed]
    simp [listed]

theorem mem_childrenMap {paths : List PathKey} {path child : PathKey}
    : child ∈ childrenMap paths path ↔ child ∈ paths ∧ child.parent = some path := by
  unfold childrenMap
  rw [mem_sortBy, List.mem_filter, decide_eq_true_iff]

/-- Children are sorted, so the order in which the paths are listed does not matter. -/
theorem childrenMap_eq_of_perm {left right : List PathKey} (perm : left.Perm right)
    : childrenMap left = childrenMap right :=
  funext fun _ => sortBy_eq_of_perm (perm.filter _)

theorem PathKey.parent_length {path above : PathKey} (climbs : path.parent = some above)
    : path.length = above.length + 1 := by
  unfold PathKey.parent at climbs
  split at climbs
  · cases climbs
  · cases climbs
  · rename_i last kept
    cases climbs
    have nonempty : path ≠ [] := fun empty => by simp [empty] at kept
    have positive := List.length_pos_of_ne_nil nonempty
    rw [List.length_dropLast]
    omega

inductive PathKey.Above (above : PathKey) : PathKey → Prop where
  | parent {path : PathKey} (climbs : path.parent = some above) : Above above path
  | up {path middle : PathKey} (climbs : path.parent = some middle) (rest : Above above middle)
      : Above above path

theorem PathKey.Above.length_lt {above path : PathKey} (strictly : PathKey.Above above path)
    : above.length < path.length := by
  induction strictly with
  | parent climbs =>
      have longer := PathKey.parent_length climbs
      omega
  | up climbs _ ih =>
      have longer := PathKey.parent_length climbs
      omega

/-- The first path is above the second one, and all paths between them are tracked. -/
inductive PathKey.Linked (tracked : PathKey → Prop) (above : PathKey) : PathKey → Prop where
  | parent {path : PathKey} (climbs : path.parent = some above) : Linked tracked above path
  | up {path middle : PathKey} (climbs : path.parent = some middle) (known : tracked middle)
      (rest : Linked tracked above middle) : Linked tracked above path

theorem PathKey.Linked.above {tracked : PathKey → Prop} {above path : PathKey}
    (linked : PathKey.Linked tracked above path) : PathKey.Above above path := by
  induction linked with
  | parent climbs => exact .parent climbs
  | up climbs _ _ ih => exact .up climbs ih

/-- A link to a tracked path goes on to its parent, by induction on the link. -/
theorem PathKey.Linked.extend {tracked : PathKey → Prop} {above child path : PathKey}
    (linked : PathKey.Linked tracked child path) (known : tracked child)
    (isChild : child.parent = some above) : PathKey.Linked tracked above path := by
  induction linked with
  | parent climbs => exact .up climbs known (.parent isChild)
  | up climbs middleKnown _ ih => exact .up climbs middleKnown ih

/-- Climbing reaches every directory above that lies under a root, unless another root comes
first. By induction on how far above it lies.
-/
theorem mem_climb {rootPaths : List PathKey} {above path : PathKey}
    (strictly : PathKey.Above above path)
    (inside : ∃ root ∈ rootPaths, above.startsWith root = true)
    (noRoot : ∀ root ∈ rootPaths, PathKey.Above root path → ¬ PathKey.Above above root)
    {fuel : Nat} (enough : path.length ≤ fuel) : above ∈ climb rootPaths fuel path := by
  induction strictly generalizing fuel with
  | @parent path climbs =>
      have longer := PathKey.parent_length climbs
      obtain ⟨less, rfl⟩ : ∃ less, fuel = less + 1 := ⟨fuel - 1, by omega⟩
      have noted : (rootPaths.any fun root => above.startsWith root || root.startsWith above)
          = true := by
        obtain ⟨root, member, below⟩ := inside
        exact List.any_eq_true.mpr ⟨root, member, by simp [below]⟩
      unfold climb
      simp only [climbs, noted, if_true]
      split <;> simp
  | @up path middle climbs rest ih =>
      have longer := PathKey.parent_length climbs
      obtain ⟨less, rfl⟩ : ∃ less, fuel = less + 1 := ⟨fuel - 1, by omega⟩
      have notRoot : middle ∉ rootPaths := fun member => noRoot middle member (.parent climbs) rest
      have further := ih
        (fun root member isAbove => noRoot root member (.up climbs isAbove))
        (by omega : middle.length ≤ less)
      unfold climb
      simp only [climbs, if_neg notRoot]
      exact List.mem_append_right _ further

theorem deepestFirst_sorted (paths : List PathKey)
    : (deepestFirst paths).Pairwise fun left right => right.length ≤ left.length := by
  have sorted := sortBy_pairwise (Sorting.respects_descending List.length) paths
  exact sorted.imp fun ordered => ordered

theorem mem_deepestFirst {paths : List PathKey} {path : PathKey}
    : path ∈ deepestFirst (sortBy PathKey.order paths).dedup ↔ path ∈ paths := by
  unfold deepestFirst
  rw [mem_sortBy, List.mem_dedup, mem_sortBy]

structure WalkedEntries (F : Type) (rootPaths : List PathBuf) where
  entries : List (WalkEntry F)
  distinct : (entries.map (·.key)).Nodup
  named : ∀ entry ∈ entries, entry.key ≠ []
  underRoots : ∀ entry ∈ entries, ∃ root ∈ rootPaths, entry.key.startsWith root.components = true

namespace WalkedEntries

variable {rootPaths : List PathBuf} (walk : WalkedEntries F rootPaths)

def paths : List PathKey := walk.entries.map (·.key)

def snapshots : Snapshots := Snapshots.insertEntries ∅ walk.entries

theorem keys_perm : walk.snapshots.keys.Perm walk.paths :=
  (List.perm_ext_iff_of_nodup Std.TreeMap.nodup_keys walk.distinct).mpr
    (Snapshots.mem_keys_insertEntries walk.distinct)

end WalkedEntries

variable {Hash : Type} {hasher : MerkleHasher Hash}

def Snapshots.hashAt (hasher : MerkleHasher Hash) (snapshots : Snapshots) (path : PathKey)
    : Option Hash :=
  snapshots[path]?.map hasher.metadataHash

theorem Snapshots.keys_perm_of_hashAt {left right : Snapshots}
    (same : ∀ path, left.hashAt hasher path = right.hashAt hasher path)
    : left.keys.Perm right.keys := by
  refine (List.perm_ext_iff_of_nodup Std.TreeMap.nodup_keys Std.TreeMap.nodup_keys).mpr ?_
  intro path
  have known := congrArg Option.isSome (same path)
  simp only [hashAt, Option.isSome_map] at known
  rw [mem_keys_iff, mem_keys_iff, known]

/-- A node depends on the snapshots through the hash of its own path. -/
theorem computeNode_congr {left right : Snapshots}
    (same : ∀ path, left.hashAt hasher path = right.hashAt hasher path)
    (children : PathKey → List PathKey)
    : computeNode hasher left children = computeNode hasher right children := by
  funext path nodes
  have own : left[path]?.map hasher.metadataHash = right[path]?.map hasher.metadataHash :=
    same path
  simp only [computeNode, own]

/-- The nodes of a walk, layer by layer: that of a path is computed from those of its
children.
-/
def WalkedEntries.layering {rootPaths : List PathBuf} (walk : WalkedEntries F rootPaths)
    (hasher : MerkleHasher Hash) : Layering PathKey (MerkleNode Hash) where
  rank := List.length
  reads := childrenMap walk.paths
  value := computeNode hasher walk.snapshots (childrenMap walk.paths)
  deeper path child isChild := by
    have climbs := (mem_childrenMap.mp isChild).2
    have longer := PathKey.parent_length climbs
    omega
  value_congr path nodes nodes' same := by
    have hashes
        : (childrenMap walk.paths path).map
            (fun child => ((nodes child).map (·.subtreeHash)).getD hasher.zeroHash)
          = (childrenMap walk.paths path).map
            (fun child => ((nodes' child).map (·.subtreeHash)).getD hasher.zeroHash) :=
      List.map_congr_left fun child isChild => by rw [same child isChild]
    simp only [computeNode, computeSubtreeHash, hashes]

namespace MerkleScanIndex

variable {rootPaths : List PathBuf}

theorem buildFromEntries_nodes (walk : WalkedEntries F rootPaths)
    : (buildFromEntries hasher walk.entries rootPaths).nodes
      = (walk.layering hasher).sweep (fun _ => false) (fun _ => none)
          (sortBy (fun left right => compare right.depth left.depth) walk.paths) := rfl

/-- Sorting by depth sorts by length, as no entry has the empty path. -/
theorem byDepth_sorted (walk : WalkedEntries F rootPaths)
    : (sortBy (fun left right : PathKey => compare right.depth left.depth)
          walk.paths).Pairwise
        fun left right => right.length ≤ left.length := by
  have positive (path : PathKey)
      (member : path ∈ sortBy (fun left right : PathKey => compare right.depth left.depth)
        walk.paths)
      : 0 < path.length := by
    obtain ⟨entry, listed, rfl⟩ := List.mem_map.mp (mem_sortBy.mp member)
    exact List.length_pos_of_ne_nil (walk.named entry listed)
  have sorted := sortBy_pairwise (Sorting.respects_descending PathKey.depth) walk.paths
  refine sorted.imp_of_mem ?_
  intro left right leftMember rightMember ordered
  have depths : right.length - 1 ≤ left.length - 1 := ordered
  have leftPositive := positive left leftMember
  have rightPositive := positive right rightMember
  omega

/-- In a built index the node of every entry is what follows from the others. -/
theorem buildFromEntries_settled (walk : WalkedEntries F rootPaths) {path : PathKey}
    (member : path ∈ walk.paths)
    : (walk.layering hasher).Settled (buildFromEntries hasher walk.entries rootPaths).nodes
        path := by
  rw [buildFromEntries_nodes]
  exact Layering.settled_sweep (byDepth_sorted walk) (mem_sortBy.mpr member) rfl

/-! What a diff finds when its budget suffices. -/

section
variable [DecidableEq Hash]

def isNew (self : MerkleScanIndex Hash) (fresh : PathKey × EntrySnapshot) : Bool :=
  self.snapshots[fresh.1]?.isNone

def isChanged (hasher : MerkleHasher Hash) (self : MerkleScanIndex Hash)
    (fresh : PathKey × EntrySnapshot) : Bool :=
  self.snapshots[fresh.1]?.any fun old => hasher.metadataHash old ≠ hasher.metadataHash fresh.2

def needsUpdate (hasher : MerkleHasher Hash) (self : MerkleScanIndex Hash)
    (fresh : PathKey × EntrySnapshot) : Bool :=
  self.isNew fresh || isChanged hasher self fresh

theorem isNew_eq_not_isChanged {self : MerkleScanIndex Hash} {fresh : PathKey × EntrySnapshot}
    (needed : needsUpdate hasher self fresh = true)
    : self.isNew fresh = !isChanged hasher self fresh := by
  unfold needsUpdate isNew isChanged at *
  cases known : self.snapshots[fresh.1]? with
  | none => rfl
  | some old =>
      rw [known] at needed
      exact (Bool.not_eq_eq_eq_not.mpr (by simpa using needed)).symm

section
variable {self : MerkleScanIndex Hash} {found : IncrementalDiff} {budget : ScanBudget}
  {fresh : PathKey × EntrySnapshot}

theorem compareEntry_unchanged (unneeded : needsUpdate hasher self fresh = false)
    : self.compareEntry hasher (found, budget) fresh
      = ({ found with unchangedCount := found.unchangedCount + 1 }, budget) := by
  unfold needsUpdate isNew isChanged at unneeded
  unfold compareEntry
  cases known : self.snapshots[fresh.1]? with
  | none =>
      rw [known] at unneeded
      cases unneeded
  | some old =>
      rw [known] at unneeded
      exact if_pos (by simpa using unneeded)

theorem compareEntry_late (needed : needsUpdate hasher self fresh = true)
    (spent : budget.remaining = 0)
    : self.compareEntry hasher (found, budget) fresh
      = ({ found with
            budgetExhausted := true
            deferredPaths := found.deferredPaths ++ [fresh.1] }, budget) := by
  have refused : budget.tryConsume = (false, budget) := if_pos (Nat.sub_eq_zero_iff_le.mp spent)
  unfold needsUpdate isNew isChanged at needed
  unfold compareEntry
  cases known : self.snapshots[fresh.1]? with
  | none => simp only [refused]
  | some old =>
      rw [known] at needed
      have differs : hasher.metadataHash old ≠ hasher.metadataHash fresh.2 := by simpa using needed
      simp only [refused, if_neg differs]

theorem compareEntry_taken {left : Nat} (needed : needsUpdate hasher self fresh = true)
    (room : budget.remaining = left + 1)
    : ∃ less : ScanBudget, less.remaining = left
        ∧ self.compareEntry hasher (found, budget) fresh
          = ({ found with
                changedPaths :=
                  found.changedPaths ++ ([fresh].filter (isChanged hasher self)).map Prod.fst
                newPaths := found.newPaths ++ ([fresh].filter self.isNew).map Prod.fst },
              less) := by
  unfold ScanBudget.remaining at room
  have consumed : budget.tryConsume
      = (true, { budget with updatesUsed := budget.updatesUsed + 1 }) := if_neg (by omega)
  refine ⟨{ budget with updatesUsed := budget.updatesUsed + 1 }, ?_, ?_⟩
  · change budget.maxSubtreeUpdates - (budget.updatesUsed + 1) = left
    omega
  · unfold needsUpdate isNew isChanged at needed
    unfold compareEntry
    cases known : self.snapshots[fresh.1]? with
    | none => simp [consumed, isNew, isChanged, known]
    | some old =>
        rw [known] at needed
        have differs : hasher.metadataHash old ≠ hasher.metadataHash fresh.2 := by
          simpa using needed
        simp [consumed, isNew, isChanged, known, differs]

end

/-- Where the comparisons put the paths: the budget goes to the first of them that need an
update.
-/
structure Sifted (hasher : MerkleHasher Hash) (index : MerkleScanIndex Hash)
    (list : List (PathKey × EntrySnapshot)) (room : Nat) (before after : IncrementalDiff)
    : Prop where
  changed : after.changedPaths = before.changedPaths
    ++ (((list.filter (needsUpdate hasher index)).take room).filter
        (isChanged hasher index)).map Prod.fst
  new : after.newPaths = before.newPaths
    ++ (((list.filter (needsUpdate hasher index)).take room).filter index.isNew).map Prod.fst
  deferred : after.deferredPaths = before.deferredPaths
    ++ ((list.filter (needsUpdate hasher index)).drop room).map Prod.fst
  unchanged : after.unchangedCount + (list.filter (needsUpdate hasher index)).length
    = before.unchangedCount + list.length
  exhausted : after.budgetExhausted
    = (before.budgetExhausted || !((list.filter (needsUpdate hasher index)).drop room).isEmpty)

/-- All comparisons, by induction on the entries. -/
theorem compareEntries_sifted (hasher : MerkleHasher Hash) (self : MerkleScanIndex Hash)
    (list : List (PathKey × EntrySnapshot)) (found : IncrementalDiff) (budget : ScanBudget)
    : Sifted hasher self list budget.remaining found
        (list.foldl (self.compareEntry hasher) (found, budget)).1 := by
  induction list generalizing found budget with
  | nil => exact ⟨by simp, by simp, by simp, rfl, by simp⟩
  | cons fresh rest ih =>
      rw [List.foldl_cons]
      cases needed : needsUpdate hasher self fresh with
      | false =>
          rw [compareEntry_unchanged needed]
          have later := ih { found with unchangedCount := found.unchangedCount + 1 } budget
          have skipped : (fresh :: rest).filter (needsUpdate hasher self)
              = rest.filter (needsUpdate hasher self) := List.filter_cons_of_neg (by simp [needed])
          refine ⟨?_, ?_, ?_, ?_, ?_⟩
          · rw [skipped]
            exact later.changed
          · rw [skipped]
            exact later.new
          · rw [skipped]
            exact later.deferred
          · have unchanged := later.unchanged
            dsimp only at unchanged
            rw [skipped, unchanged, List.length_cons]
            omega
          · rw [skipped]
            exact later.exhausted
      | true =>
          have kept : (fresh :: rest).filter (needsUpdate hasher self)
              = fresh :: rest.filter (needsUpdate hasher self) := List.filter_cons_of_pos needed
          cases room : budget.remaining with
          | zero =>
              rw [compareEntry_late needed room]
              have later := ih
                { found with
                    budgetExhausted := true
                    deferredPaths := found.deferredPaths ++ [fresh.1] } budget
              rw [room] at later
              refine ⟨?_, ?_, ?_, ?_, ?_⟩
              · rw [later.changed, List.take_zero, List.take_zero]
              · rw [later.new, List.take_zero, List.take_zero]
              · rw [later.deferred, kept, List.drop_zero, List.drop_zero, List.map_cons,
                  List.append_assoc]
                rfl
              · have unchanged := later.unchanged
                dsimp only at unchanged
                rw [kept, List.length_cons, List.length_cons]
                omega
              · rw [later.exhausted, kept]
                simp
          | succ left =>
              obtain ⟨less, remaining, taken⟩ := @compareEntry_taken _ hasher _ self found _ _ _
                needed room
              rw [taken]
              have later := ih
                { found with
                    changedPaths :=
                      found.changedPaths ++ ([fresh].filter (isChanged hasher self)).map Prod.fst
                    newPaths := found.newPaths ++ ([fresh].filter self.isNew).map Prod.fst } less
              rw [remaining] at later
              refine ⟨?_, ?_, ?_, ?_, ?_⟩
              · rw [later.changed, kept, List.take_succ_cons, List.append_assoc, ← List.map_append,
                  ← List.filter_append]
                rfl
              · rw [later.new, kept, List.take_succ_cons, List.append_assoc, ← List.map_append,
                  ← List.filter_append]
                rfl
              · rw [kept, List.drop_succ_cons]
                exact later.deferred
              · have unchanged := later.unchanged
                dsimp only at unchanged
                rw [kept, List.length_cons, List.length_cons]
                omega
              · rw [kept, List.drop_succ_cons]
                exact later.exhausted

/-- With enough budget everything is noted that needs an update. -/
theorem compareEntries_spec (hasher : MerkleHasher Hash) (self : MerkleScanIndex Hash)
    (list : List (PathKey × EntrySnapshot)) (found : IncrementalDiff) (budget : ScanBudget)
    (room : list.length ≤ budget.remaining)
    : (list.foldl (self.compareEntry hasher) (found, budget)).1.changedPaths
        = found.changedPaths ++ (list.filter (isChanged hasher self)).map Prod.fst
      ∧ (list.foldl (self.compareEntry hasher) (found, budget)).1.newPaths
        = found.newPaths ++ (list.filter self.isNew).map Prod.fst
      ∧ (list.foldl (self.compareEntry hasher) (found, budget)).1.budgetExhausted
        = found.budgetExhausted := by
  have sifted := compareEntries_sifted hasher self list found budget
  have fits : (list.filter (needsUpdate hasher self)).length ≤ budget.remaining :=
    (List.length_filter_le _ _).trans room
  refine ⟨?_, ?_, ?_⟩
  · rw [sifted.changed, List.take_of_length_le fits, List.filter_filter]
    have inside : ∀ fresh, (isChanged hasher self fresh && needsUpdate hasher self fresh)
        = isChanged hasher self fresh := fun fresh => by simpa [needsUpdate] using Or.inr
    simp only [inside]
  · rw [sifted.new, List.take_of_length_le fits, List.filter_filter]
    have inside : ∀ fresh, (self.isNew fresh && needsUpdate hasher self fresh)
        = self.isNew fresh := fun fresh => by simpa [needsUpdate] using Or.inl
    simp only [inside]
  · rw [sifted.exhausted, List.drop_eq_nil_of_le fits]
    simp

/-- What a diff with enough budget comes to: the snapshots are those of the walk as far as
hashes tell, and every path is listed whose hash differs.
-/
structure Compared (hasher : MerkleHasher Hash) (before : MerkleScanIndex Hash)
    (walk : WalkedEntries F rootPaths) (result : MerkleScanIndex Hash × IncrementalDiff)
    : Prop where
  nodes : result.1.nodes = before.nodes
  rootPaths : result.1.rootPaths = before.rootPaths
  health : result.1.health = .healthy
  hashes : ∀ path, result.1.snapshots.hashAt hasher path = walk.snapshots.hashAt hasher path
  updated : ∀ path, path ∈ result.2.changedPaths ++ result.2.newPaths
    ↔ path ∈ walk.paths
      ∧ before.snapshots.hashAt hasher path ≠ walk.snapshots.hashAt hasher path
  removed : ∀ path, path ∈ result.2.removedPaths
    ↔ path ∈ before.snapshots.keys ∧ path ∉ walk.paths

/-- Taking over the snapshots of some paths, by induction on them. -/
theorem getElem?_taken (fresh : Snapshots) (paths : List PathKey) (snapshots : Snapshots)
    (path : PathKey)
    : (paths.foldl
        (fun snapshots path =>
          match fresh[path]? with
          | none => snapshots
          | some snapshot => snapshots.insert path snapshot)
        snapshots)[path]?
      = if path ∈ paths ∧ (fresh[path]?).isSome then fresh[path]? else snapshots[path]? := by
  induction paths generalizing snapshots with
  | nil => simp
  | cons first rest ih =>
      rw [List.foldl_cons, ih]
      by_cases later : path ∈ rest ∧ (fresh[path]?).isSome
      · rw [if_pos later, if_pos ⟨List.mem_cons_of_mem _ later.1, later.2⟩]
      · rw [if_neg later]
        by_cases here : path = first
        · subst here
          cases known : fresh[path]? with
          | none => simp
          | some snapshot => simp
        · have outside : ¬ (path ∈ first :: rest ∧ (fresh[path]?).isSome) := by
            simpa [here] using later
          rw [if_neg outside]
          cases known : fresh[first]? with
          | none => rfl
          | some snapshot =>
              dsimp only
              rw [Snapshots.getElem?_insert_key, if_neg (Ne.symm here)]

/-- What a diff of a usable index answers, and the index it leaves. -/
theorem diff_eq (self : MerkleScanIndex Hash)
    (usable : ¬ (self.health = .corrupt ∨ self.health = .uninitialized))
    (entries : List (WalkEntry F)) (budget : ScanBudget)
    : let fresh := Snapshots.insertEntries ∅ entries
      let found := (fresh.toList.foldl (self.compareEntry hasher)
        (⟨[], 0, [], [], false, [], self.health⟩, budget)).1
      let removed := self.snapshots.keys.filter fun path => !fresh.contains path
      let health := if found.budgetExhausted then .degraded else .healthy
      self.diff hasher entries budget
        = ({ self with
              snapshots := removed.foldl (fun snapshots path => snapshots.erase path)
                ((found.changedPaths ++ found.newPaths).foldl
                  (fun snapshots path =>
                    match fresh[path]? with
                    | none => snapshots
                    | some snapshot => snapshots.insert path snapshot)
                  self.snapshots)
              health },
            { found with removedPaths := removed, health }) := by
  unfold diff
  exact if_neg usable

variable {walk : WalkedEntries F rootPaths} {path : PathKey}

/-- A path among the snapshots of a walk that passes a test. -/
theorem mem_filtered_snapshots {test : PathKey × EntrySnapshot → Bool}
    : path ∈ (walk.snapshots.toList.filter test).map Prod.fst
      ↔ ∃ snapshot, walk.snapshots[path]? = some snapshot ∧ test (path, snapshot) = true := by
  constructor
  · intro listed
    obtain ⟨⟨found, snapshot⟩, member, rfl⟩ := List.mem_map.mp listed
    obtain ⟨stored, passes⟩ := List.mem_filter.mp member
    exact ⟨snapshot, Std.TreeMap.mem_toList_iff_getElem?_eq_some.mp stored, passes⟩
  · rintro ⟨snapshot, known, passes⟩
    refine List.mem_map.mpr ⟨(path, snapshot), List.mem_filter.mpr ⟨?_, passes⟩, rfl⟩
    exact Std.TreeMap.mem_toList_iff_getElem?_eq_some.mpr known

theorem mem_paths_iff
    : path ∈ walk.paths ↔ (walk.snapshots[path]?).isSome := by
  rw [← walk.keys_perm.mem_iff, Snapshots.mem_keys_iff]

theorem diff_compared (self : MerkleScanIndex Hash) (usable : self.health = .healthy)
    (walk : WalkedEntries F rootPaths) {budget : ScanBudget}
    (room : walk.entries.length ≤ budget.remaining)
    : Compared hasher self walk (self.diff hasher walk.entries budget) := by
  have size : walk.snapshots.toList.length ≤ budget.remaining := by
    have keys := walk.keys_perm.length_eq
    rw [← Std.TreeMap.map_fst_toList_eq_keys, List.length_map, WalkedEntries.paths,
      List.length_map] at keys
    omega
  obtain ⟨changed, new, exhausted⟩ := compareEntries_spec hasher self
    walk.snapshots.toList ⟨[], 0, [], [], false, [], self.health⟩ budget size
  have proceeds : ¬ (self.health = .corrupt ∨ self.health = .uninitialized) := by simp [usable]
  obtain ⟨found, same⟩
      : ∃ found, found = (walk.snapshots.toList.foldl (self.compareEntry hasher)
          (⟨[], 0, [], [], false, [], self.health⟩, budget)).1 := ⟨_, rfl⟩
  rw [← same] at changed new exhausted
  obtain ⟨removed, gone⟩
      : ∃ removed, removed = self.snapshots.keys.filter fun path => !walk.snapshots.contains path :=
    ⟨_, rfl⟩
  have shape : self.diff hasher walk.entries budget
      = ({ self with
            snapshots := removed.foldl (fun snapshots path => snapshots.erase path)
              ((found.changedPaths ++ found.newPaths).foldl
                (fun snapshots path =>
                  match walk.snapshots[path]? with
                  | none => snapshots
                  | some snapshot => snapshots.insert path snapshot)
                self.snapshots)
            health := if found.budgetExhausted then .degraded else .healthy },
          { found with
            removedPaths := removed
            health := if found.budgetExhausted then .degraded else .healthy }) := by
    rw [same, gone]
    exact self.diff_eq proceeds walk.entries budget
  have updated (path : PathKey)
      : path ∈ found.changedPaths ++ found.newPaths
        ↔ path ∈ walk.paths
          ∧ self.snapshots.hashAt hasher path ≠ walk.snapshots.hashAt hasher path := by
    rw [changed, new, List.nil_append, List.nil_append, List.mem_append, mem_filtered_snapshots,
      mem_filtered_snapshots, mem_paths_iff]
    cases known : walk.snapshots[path]? with
    | none => simp
    | some snapshot =>
        cases tracked : self.snapshots[path]? with
        | none => simp [isChanged, isNew, Snapshots.hashAt, known, tracked]
        | some old => simp [isChanged, isNew, Snapshots.hashAt, known, tracked]
  have notThere (path : PathKey)
      : path ∈ removed ↔ path ∈ self.snapshots.keys ∧ path ∉ walk.paths := by
    rw [gone, List.mem_filter, mem_paths_iff, Std.TreeMap.isSome_getElem?_eq_contains,
      Bool.not_eq_true, Bool.not_eq_true']
  rw [shape]
  refine ⟨rfl, rfl, by simp [exhausted], fun path => ?_, updated, notThere⟩
  change ((List.foldl _ (List.foldl _ self.snapshots _) removed)[path]?).map _ = _
  rw [Snapshots.getElem?_foldl_erase, getElem?_taken]
  by_cases listed : path ∈ walk.paths
  · have kept : path ∉ removed := fun member => ((notThere path).mp member).2 listed
    rw [if_neg kept]
    by_cases differs
        : self.snapshots.hashAt hasher path ≠ walk.snapshots.hashAt hasher path
    · rw [if_pos ⟨(updated path).mpr ⟨listed, differs⟩, mem_paths_iff.mp listed⟩]
      rfl
    · have unlisted : path ∉ found.changedPaths ++ found.newPaths :=
        fun member => differs ((updated path).mp member).2
      rw [if_neg fun both => unlisted both.1]
      exact not_not.mp differs
  · have absent : walk.snapshots[path]? = none := by
      rw [← Option.not_isSome_iff_eq_none, ← mem_paths_iff]
      exact listed
    have unlisted : path ∉ found.changedPaths ++ found.newPaths :=
      fun member => listed ((updated path).mp member).1
    rw [Snapshots.hashAt, absent]
    by_cases tracked : path ∈ self.snapshots.keys
    · rw [if_pos ((notThere path).mpr ⟨tracked, listed⟩)]
    · have untracked : self.snapshots[path]? = none := by
        rw [← Option.not_isSome_iff_eq_none, ← Snapshots.mem_keys_iff]
        exact tracked
      have kept : path ∉ removed := fun member => tracked ((notThere path).mp member).1
      rw [if_neg kept, if_neg fun both => unlisted both.1, untracked]

/-! The two sweeps of a cycle. -/

omit [DecidableEq Hash] in
theorem childrenMap_keys {snapshots : Snapshots}
    (hashes : ∀ path, snapshots.hashAt hasher path = walk.snapshots.hashAt hasher path)
    : childrenMap snapshots.keys = childrenMap walk.paths :=
  childrenMap_eq_of_perm ((Snapshots.keys_perm_of_hashAt hashes).trans walk.keys_perm)

variable {index : MerkleScanIndex Hash}

omit [DecidableEq Hash] in
/-- An update with entries of the walk leaves the hashes as they are and sweeps over the
entries and the directories above them.
-/
theorem updateEntries_sweeps
    (hashes : ∀ path, index.snapshots.hashAt hasher path = walk.snapshots.hashAt hasher path)
    (test : WalkEntry F → Bool)
    : (∀ path, (index.updateEntries hasher (walk.entries.filter test)).snapshots.hashAt hasher path
        = walk.snapshots.hashAt hasher path)
      ∧ (index.updateEntries hasher (walk.entries.filter test)).nodes
        = (walk.layering hasher).sweep (fun _ => false) index.nodes
            (deepestFirst (sortBy PathKey.order
              ((walk.entries.filter test).map (·.key)
                ++ (walk.entries.filter test).flatMap
                  fun entry => ancestorsOf index.rootPaths entry.key)).dedup) := by
  have distinct : ((walk.entries.filter test).map (·.key)).Nodup :=
    walk.distinct.sublist (List.filter_sublist.map _)
  have kept (path : PathKey)
      : (index.snapshots.insertEntries (walk.entries.filter test)).hashAt hasher path
        = walk.snapshots.hashAt hasher path := by
    by_cases listed : path ∈ (walk.entries.filter test).map (·.key)
    · obtain ⟨entry, member, rfl⟩ := List.mem_map.mp listed
      have own := Snapshots.getElem?_insertEntries walk.distinct (List.mem_filter.mp member).1 ∅
      rw [Snapshots.hashAt, Snapshots.hashAt, Snapshots.getElem?_insertEntries distinct member,
        WalkedEntries.snapshots, own]
    · rw [Snapshots.hashAt, Snapshots.getElem?_insertEntries_of_not_mem listed]
      exact hashes path
  refine ⟨kept, ?_⟩
  unfold updateEntries
  simp only [childrenMap_keys kept, computeNode_congr kept]
  rfl

omit [DecidableEq Hash] in
/-- Nodes that are dropped, by induction on their paths. -/
theorem nodes_erased (paths : List PathKey) (nodes : MerkleNodes Hash) (kept : path ∉ paths)
    : (paths.foldl (fun nodes path => Function.update nodes path none) nodes) path
      = nodes path := by
  induction paths generalizing nodes with
  | nil => rfl
  | cons first rest ih =>
      obtain ⟨apart, later⟩ : path ≠ first ∧ path ∉ rest := by simpa using kept
      rw [List.foldl_cons, ih _ later, Function.update_of_ne apart]

def drops (walk : WalkedEntries F rootPaths) (path : PathKey) : Bool :=
  !walk.paths.contains path && (childrenMap walk.paths path).isEmpty

omit [DecidableEq Hash] in
/-- Removing paths that the walk does not have leaves the hashes as they are. -/
theorem removePaths_hashes
    (hashes : ∀ path, index.snapshots.hashAt hasher path = walk.snapshots.hashAt hasher path)
    {removed : List PathKey} (gone : ∀ path ∈ removed, path ∉ walk.paths) (path : PathKey)
    : Snapshots.hashAt hasher
        (removed.foldl (fun snapshots path => snapshots.erase path) index.snapshots) path
      = walk.snapshots.hashAt hasher path := by
  rw [Snapshots.hashAt, Snapshots.getElem?_foldl_erase]
  by_cases member : path ∈ removed
  · have absent : walk.snapshots[path]? = none := by
      rw [← Option.not_isSome_iff_eq_none, ← mem_paths_iff]
      exact gone path member
    rw [if_pos member, Snapshots.hashAt, absent]
  · rw [if_neg member]
    exact hashes path

omit [DecidableEq Hash] in
/-- A removal drops the nodes of its paths and sweeps over the directories above them. -/
theorem removePaths_sweeps
    (hashes : ∀ path, index.snapshots.hashAt hasher path = walk.snapshots.hashAt hasher path)
    {removed : List PathKey} (gone : ∀ path ∈ removed, path ∉ walk.paths)
    : (∀ path, (index.removePaths hasher removed).snapshots.hashAt hasher path
        = walk.snapshots.hashAt hasher path)
      ∧ (index.removePaths hasher removed).nodes
        = (walk.layering hasher).sweep (drops walk)
            (removed.foldl (fun nodes path => Function.update nodes path none) index.nodes)
            (deepestFirst (sortBy PathKey.order
              (removed.flatMap (ancestorsOf index.rootPaths))).dedup) := by
  have kept := removePaths_hashes hashes gone
  have contains (path : PathKey)
      : (removed.foldl (fun snapshots path => snapshots.erase path) index.snapshots).contains path
        = walk.paths.contains path := by
    have perm := (Snapshots.keys_perm_of_hashAt kept).trans walk.keys_perm
    rw [Bool.eq_iff_iff, List.contains_iff_mem, ← perm.mem_iff, Std.TreeMap.mem_keys]
    rfl
  unfold removePaths
  dsimp only
  split
  next none =>
    refine ⟨kept, ?_⟩
    rw [none]
    rfl
  next =>
    refine ⟨kept, ?_⟩
    simp only [childrenMap_keys kept, computeNode_congr kept, contains]
    refine congrArg (fun step => List.foldl step _ _) (funext fun nodes => funext fun path => ?_)
    unfold Layering.refresh drops
    split <;> rfl

/-! One cycle. -/

/-- The index is what a build from the entries of the walk gives, as far as hashes and tracked
paths go.
-/
structure Mirrors (hasher : MerkleHasher Hash) (index : MerkleScanIndex Hash)
    (walk : WalkedEntries F rootPaths) : Prop where
  roots : index.rootPaths = rootPaths.map (·.components)
  health : index.health = .healthy
  hashes : ∀ path, index.snapshots.hashAt hasher path = walk.snapshots.hashAt hasher path
  nodes : ∀ path ∈ walk.paths,
    index.nodes path = (buildFromEntries hasher walk.entries rootPaths).nodes path

def Touched (hasher : MerkleHasher Hash) (index : MerkleScanIndex Hash)
    (walk : WalkedEntries F rootPaths) (path : PathKey) : Prop :=
  index.snapshots.hashAt hasher path ≠ walk.snapshots.hashAt hasher path

/-- Nothing changes below a root that itself lies below a tracked directory whose hash covers
the change.
-/
def Unhindered (hasher : MerkleHasher Hash) (index : MerkleScanIndex Hash)
    (walk : WalkedEntries F rootPaths) : Prop :=
  ∀ above path, above ∈ walk.paths → Touched hasher index walk path
    → PathKey.Linked (· ∈ walk.paths) above path
    → ∀ root ∈ rootPaths, PathKey.Above root.components path
      → ¬ PathKey.Above above root.components

omit [DecidableEq Hash] in
/-- A node is determined by its hash, its children and their nodes. -/
theorem computeNode_eq {left right : Snapshots} {children children' : PathKey → List PathKey}
    {nodes nodes' : MerkleNodes Hash}
    (sameHash : left.hashAt hasher path = right.hashAt hasher path)
    (sameChildren : children path = children' path)
    (sameNodes : ∀ child ∈ children' path, nodes child = nodes' child)
    : computeNode hasher left children path nodes
      = computeNode hasher right children' path nodes' := by
  have own : left[path]?.map hasher.metadataHash = right[path]?.map hasher.metadataHash :=
    sameHash
  have hashes
      : (children' path).map (fun child => ((nodes child).map (·.subtreeHash)).getD hasher.zeroHash)
        = (children' path).map
          (fun child => ((nodes' child).map (·.subtreeHash)).getD hasher.zeroHash) :=
    List.map_congr_left fun child isChild => by rw [sameNodes child isChild]
  simp only [computeNode, computeSubtreeHash, own, sameChildren, hashes]

/-- Some length exceeds those of all paths, by induction on them. -/
theorem lengths_bounded (paths : List PathKey)
    : ∃ bound, ∀ path ∈ paths, path.length < bound := by
  induction paths with
  | nil => exact ⟨0, fun path member => absurd member List.not_mem_nil⟩
  | cons first rest ih =>
      obtain ⟨bound, below⟩ := ih
      refine ⟨max bound (first.length + 1), fun path member => ?_⟩
      rcases List.mem_cons.mp member with rfl | later
      · exact Nat.lt_of_lt_of_le (Nat.lt_succ_self _) (Nat.le_max_right _ _)
      · exact Nat.lt_of_lt_of_le (below path later) (Nat.le_max_left _ _)

omit [DecidableEq Hash] in
/-- Induction over the paths of a walk, from the deepest up. -/
theorem walk_induction (hasher : MerkleHasher Hash) (holds : PathKey → Prop)
    (step : ∀ path ∈ walk.paths,
      (∀ child ∈ childrenMap walk.paths path, holds child) → holds path)
    (member : path ∈ walk.paths) : holds path := by
  obtain ⟨bound, bounded⟩ := lengths_bounded walk.paths
  exact Layering.layer_induction (walk.layering hasher) bounded
    (fun _ _ child isChild => (mem_childrenMap.mp isChild).1) step member

omit [DecidableEq Hash] in
/-- Two walks agree on the children of a path if each child has the same hash in both. -/
theorem childrenMap_eq_of_untouched {old walk : WalkedEntries F rootPaths}
    (hashes : ∀ path, index.snapshots.hashAt hasher path = old.snapshots.hashAt hasher path)
    (untouched : ∀ child, child.parent = some path → ¬ Touched hasher index walk child)
    : childrenMap old.paths path = childrenMap walk.paths path := by
  refine sortBy_eq_of_perm ((List.perm_ext_iff_of_nodup (old.distinct.filter _)
    (walk.distinct.filter _)).mpr fun child => ?_)
  change child ∈ old.paths.filter _ ↔ child ∈ walk.paths.filter _
  rw [List.mem_filter, List.mem_filter]
  refine and_congr_left fun isChild => ?_
  have same := not_not.mp (untouched child (of_decide_eq_true isChild))
  rw [hashes] at same
  have known := congrArg Option.isSome same
  simp only [Snapshots.hashAt, Option.isSome_map] at known
  rw [mem_paths_iff, mem_paths_iff, known]

omit [DecidableEq Hash] in
/-- Where nothing changed at a path and below, the node is already the one of a rebuild. -/
theorem node_of_untouched {old walk : WalkedEntries F rootPaths}
    (mirrors : Mirrors hasher index old) (member : path ∈ walk.paths)
    (own : ¬ Touched hasher index walk path)
    (below : ∀ changed, Touched hasher index walk changed
      → ¬ PathKey.Linked (· ∈ walk.paths) path changed)
    : index.nodes path = (buildFromEntries hasher walk.entries rootPaths).nodes path := by
  refine walk_induction hasher
    (fun path => ¬ Touched hasher index walk path
      → (∀ changed, Touched hasher index walk changed
          → ¬ PathKey.Linked (· ∈ walk.paths) path changed)
      → index.nodes path = (buildFromEntries hasher walk.entries rootPaths).nodes path)
    (fun path member ih own below => ?_) member own below
  have tracked : path ∈ old.paths := by
    have same := not_not.mp own
    rw [mirrors.hashes] at same
    have known := congrArg Option.isSome same
    simp only [Snapshots.hashAt, Option.isSome_map] at known
    rw [mem_paths_iff, known, ← mem_paths_iff]
    exact member
  have children : childrenMap old.paths path = childrenMap walk.paths path :=
    childrenMap_eq_of_untouched mirrors.hashes
      fun child isChild touched => below child touched (.parent isChild)
  have hash : old.snapshots.hashAt hasher path = walk.snapshots.hashAt hasher path :=
    (mirrors.hashes path).symm.trans (not_not.mp own)
  rw [mirrors.nodes path tracked, buildFromEntries_settled old tracked,
    buildFromEntries_settled walk member]
  refine congrArg some (computeNode_eq hash children fun child isChild => ?_)
  obtain ⟨childMember, climbs⟩ := mem_childrenMap.mp isChild
  have oldChild : child ∈ old.paths := (mem_childrenMap.mp (children ▸ isChild)).1
  rw [← mirrors.nodes child oldChild]
  exact ih child isChild (fun touched => below child touched (.parent climbs))
    fun changed touched linked => below changed touched (linked.extend childMember climbs)

omit [DecidableEq Hash] in
/-- After a sweep that settles every path for which the nodes do not yet agree with a rebuild,
all nodes agree with it.
-/
theorem sweep_agrees (among : PathKey → Prop)
    {drop : PathKey → Bool} {nodes : MerkleNodes Hash} {paths : List PathKey}
    (sorted : paths.Pairwise fun left right => right.length ≤ left.length)
    (kept : ∀ path ∈ walk.paths, drop path = false)
    (closed : ∀ path ∈ walk.paths, among path
      → ∀ child ∈ childrenMap walk.paths path, among child)
    (ready : ∀ path ∈ walk.paths, among path → path ∉ paths
      → nodes path = (buildFromEntries hasher walk.entries rootPaths).nodes path)
    (member : path ∈ walk.paths) (inside : among path)
    : (walk.layering hasher).sweep drop nodes paths path
      = (buildFromEntries hasher walk.entries rootPaths).nodes path := by
  refine walk_induction hasher
    (fun path => among path → (walk.layering hasher).sweep drop nodes paths path
      = (buildFromEntries hasher walk.entries rootPaths).nodes path)
    (fun path member ih inside => ?_) member inside
  by_cases comesUp : path ∈ paths
  · have settled : (walk.layering hasher).Settled
        ((walk.layering hasher).sweep drop nodes paths) path :=
      Layering.settled_sweep sorted comesUp (kept path member)
    exact settled.eq_of_reads (buildFromEntries_settled walk member)
      fun child isChild => ih child isChild (closed path member inside child isChild)
  · rw [Layering.sweep_of_not_mem comesUp]
    exact ready path member inside comesUp

omit [DecidableEq Hash] in
/-- The directories above a change whose hashes cover it are all climbed to. -/
theorem mem_ancestorsOf {old walk : WalkedEntries F rootPaths}
    (mirrors : Mirrors hasher index old) (unhindered : Unhindered hasher index walk)
    {above path : PathKey} (member : above ∈ walk.paths) (touched : Touched hasher index walk path)
    (linked : PathKey.Linked (· ∈ walk.paths) above path)
    : above ∈ ancestorsOf index.rootPaths path := by
  refine mem_climb linked.above ?_ ?_ le_rfl
  · obtain ⟨entry, listed, rfl⟩ := List.mem_map.mp member
    obtain ⟨root, isRoot, below⟩ := walk.underRoots entry listed
    rw [mirrors.roots]
    exact ⟨root.components, List.mem_map_of_mem isRoot, below⟩
  · intro root isRoot rootAbove
    rw [mirrors.roots] at isRoot
    obtain ⟨root, listed, rfl⟩ := List.mem_map.mp isRoot
    exact unhindered above path member touched linked root listed rootAbove

omit [DecidableEq Hash] in
/-- A change at a path that the walk does not have is a removal. -/
theorem tracked_of_touched (touched : Touched hasher index walk path) (absent : path ∉ walk.paths)
    : path ∈ index.snapshots.keys := by
  have unknown : walk.snapshots[path]? = none := by
    rw [← Option.not_isSome_iff_eq_none, ← mem_paths_iff]
    exact absent
  rw [Snapshots.mem_keys_iff, Option.isSome_iff_ne_none]
  intro untracked
  exact touched (by rw [Snapshots.hashAt, Snapshots.hashAt, untracked, unknown])

omit [DecidableEq Hash] in
/-- Updating and removing leave the roots and the health alone. -/
theorem removePaths_updateEntries_kept (hasher : MerkleHasher Hash)
    (index : MerkleScanIndex Hash) (entries : List (WalkEntry F)) (removed : List PathKey)
    : ((index.updateEntries hasher entries).removePaths hasher removed).rootPaths
        = index.rootPaths
      ∧ ((index.updateEntries hasher entries).removePaths hasher removed).health
        = index.health := by
  unfold removePaths
  dsimp only
  split
  · exact ⟨rfl, rfl⟩
  · exact ⟨rfl, rfl⟩

def updates (walk : WalkedEntries F rootPaths) (found : IncrementalDiff) : List (WalkEntry F) :=
  walk.entries.filter fun entry => entry.key ∈ found.changedPaths ++ found.newPaths

omit [DecidableEq Hash] in
theorem key_mem_updates
    {result : MerkleScanIndex Hash × IncrementalDiff} (compared : Compared hasher index walk result)
    (member : path ∈ walk.paths) (touched : Touched hasher index walk path)
    : ∃ entry ∈ updates walk result.2, entry.key = path := by
  obtain ⟨entry, listed, rfl⟩ := List.mem_map.mp member
  refine ⟨entry, List.mem_filter.mpr ⟨listed, decide_eq_true ?_⟩, rfl⟩
  exact (compared.updated entry.key).mpr ⟨member, touched⟩

omit [DecidableEq Hash] in
/-- The first sweep of a cycle gets every node right below which nothing was removed. -/
theorem updateEntries_agrees {old walk : WalkedEntries F rootPaths}
    (mirrors : Mirrors hasher index old) (unhindered : Unhindered hasher index walk)
    {result : MerkleScanIndex Hash × IncrementalDiff} (compared : Compared hasher index walk result)
    (member : path ∈ walk.paths)
    (nothingRemoved : ∀ changed, Touched hasher index walk changed → changed ∉ walk.paths
      → ¬ PathKey.Linked (· ∈ walk.paths) path changed)
    : (result.1.updateEntries hasher (updates walk result.2)).nodes path
      = (buildFromEntries hasher walk.entries rootPaths).nodes path := by
  obtain ⟨-, sweeps⟩ := updateEntries_sweeps compared.hashes
    fun entry => entry.key ∈ result.2.changedPaths ++ result.2.newPaths
  rw [updates, sweeps]
  refine sweep_agrees
    (fun path => ∀ changed, Touched hasher index walk changed → changed ∉ walk.paths
      → ¬ PathKey.Linked (· ∈ walk.paths) path changed)
    (deepestFirst_sorted _) (fun _ _ => rfl) ?_ ?_ member nothingRemoved
  · intro path member nothingRemoved child isChild changed touched absent linked
    obtain ⟨childMember, climbs⟩ := mem_childrenMap.mp isChild
    exact nothingRemoved changed touched absent (linked.extend childMember climbs)
  · intro path member nothingRemoved left
    rw [mem_deepestFirst, List.mem_append, not_or] at left
    obtain ⟨notUpdated, notClimbed⟩ := left
    rw [compared.nodes]
    refine node_of_untouched mirrors member ?_ ?_
    · intro touched
      obtain ⟨entry, listed, own⟩ := key_mem_updates compared member touched
      exact notUpdated (List.mem_map.mpr ⟨entry, listed, own⟩)
    · intro changed touched linked
      by_cases present : changed ∈ walk.paths
      · obtain ⟨entry, listed, rfl⟩ := key_mem_updates compared present touched
        refine notClimbed (List.mem_flatMap.mpr ⟨entry, listed, ?_⟩)
        rw [compared.rootPaths]
        exact mem_ancestorsOf mirrors unhindered member touched linked
      · exact nothingRemoved changed touched present linked

/-- A cycle leads from what one walk gives to what the next one gives. -/
theorem cycle_mirrors {old walk : WalkedEntries F rootPaths}
    (mirrors : Mirrors hasher index old) {budget : ScanBudget}
    (room : walk.entries.length ≤ budget.remaining) (unhindered : Unhindered hasher index walk)
    : Mirrors hasher (index.cycle hasher walk.entries budget) walk := by
  have compared : Compared hasher index walk (index.diff hasher walk.entries budget) :=
    diff_compared index mirrors.health walk room
  change Mirrors hasher (((index.diff hasher walk.entries budget).1.updateEntries hasher
    (updates walk (index.diff hasher walk.entries budget).2)).removePaths hasher
      (index.diff hasher walk.entries budget).2.removedPaths) walk
  generalize index.diff hasher walk.entries budget = result at compared
  have gone : ∀ path ∈ result.2.removedPaths, path ∉ walk.paths :=
    fun path member => ((compared.removed path).mp member).2
  obtain ⟨roots, health⟩ := removePaths_updateEntries_kept hasher result.1
    (updates walk result.2) result.2.removedPaths
  obtain ⟨hashes, -⟩ := updateEntries_sweeps compared.hashes
    fun entry => entry.key ∈ result.2.changedPaths ++ result.2.newPaths
  obtain ⟨finalHashes, sweeps⟩ := removePaths_sweeps hashes gone
  refine ⟨(roots.trans compared.rootPaths).trans mirrors.roots, health.trans compared.health,
    finalHashes, fun path member => ?_⟩
  rw [updates, sweeps]
  refine sweep_agrees (fun _ => True) (deepestFirst_sorted _) ?_ (fun _ _ _ _ _ => trivial) ?_
    member trivial
  · intro path member
    simp [drops, member]
  · intro path member _ left
    rw [nodes_erased _ _ fun removed => gone path removed member]
    refine updateEntries_agrees mirrors unhindered compared member ?_
    -- Directories above what was removed come up in the second sweep.
    intro changed touched absent linked
    have removed : changed ∈ result.2.removedPaths :=
      (compared.removed changed).mpr ⟨tracked_of_touched touched absent, absent⟩
    rw [mem_deepestFirst] at left
    refine left (List.mem_flatMap.mpr ⟨changed, removed, ?_⟩)
    change path ∈ ancestorsOf result.1.rootPaths changed
    rw [compared.rootPaths]
    exact mem_ancestorsOf mirrors unhindered member touched linked

def scan (hasher : MerkleHasher Hash) (index : MerkleScanIndex Hash)
    (input : WalkedEntries F rootPaths × ScanBudget) : MerkleScanIndex Hash :=
  index.cycle hasher input.1.entries input.2

def lastWalk (start : WalkedEntries F rootPaths)
    (inputs : List (WalkedEntries F rootPaths × ScanBudget)) : WalkedEntries F rootPaths :=
  (inputs.getLast?.map Prod.fst).getD start

/-- Cycles with enough budget and nothing in the way of climbing, by induction on them. -/
theorem scans_mirror {old : WalkedEntries F rootPaths} (mirrors : Mirrors hasher index old)
    {inputs : List (WalkedEntries F rootPaths × ScanBudget)}
    (unlimited : ∀ input ∈ inputs, input.1.entries.length ≤ input.2.remaining)
    (unhindered : Guarded (scan hasher) (fun index input => Unhindered hasher index input.1)
      index inputs)
    : Mirrors hasher (final (scan hasher) index inputs) (lastWalk old inputs) := by
  induction inputs generalizing index old with
  | nil => exact mirrors
  | cons first rest ih =>
      obtain ⟨here, later⟩ := unhindered
      have next := cycle_mirrors mirrors (unlimited first List.mem_cons_self) here
      have last : lastWalk old (first :: rest) = lastWalk first.1 rest := by
        unfold lastWalk
        rw [List.getLast?_cons]
        cases rest.getLast? <;> rfl
      rw [final_cons, last]
      exact ih next (fun input member => unlimited input (List.mem_cons_of_mem _ member)) later

/-- Whatever the walks report, as long as nothing changes below a root that lies below a tracked
directory, the subtree hash of every tracked path is the one of a rebuild.
-/
theorem maintained_eq_rebuilt (start : WalkedEntries F rootPaths)
    (inputs : List (WalkedEntries F rootPaths × ScanBudget))
    (unlimited : ∀ input ∈ inputs, input.1.entries.length ≤ input.2.remaining)
    (unhindered : Guarded (scan hasher) (fun index input => Unhindered hasher index input.1)
      (buildFromEntries hasher start.entries rootPaths) inputs)
    : ∀ path ∈ (final (scan hasher) (buildFromEntries hasher start.entries rootPaths)
          inputs).trackedPaths,
        (final (scan hasher) (buildFromEntries hasher start.entries rootPaths)
            inputs).subtreeHash path
          = (buildFromEntries hasher (lastWalk start inputs).entries rootPaths).subtreeHash path := by
  have built : Mirrors hasher (buildFromEntries hasher start.entries rootPaths) start :=
    ⟨rfl, rfl, fun _ => rfl, fun _ _ => rfl⟩
  have mirrors := scans_mirror built unlimited unhindered
  intro path tracked
  have member : path ∈ (lastWalk start inputs).paths := by
    have perm := (Snapshots.keys_perm_of_hashAt mirrors.hashes).trans
      (lastWalk start inputs).keys_perm
    exact perm.mem_iff.mp tracked
  rw [subtreeHash, subtreeHash, mirrors.nodes path member]

end

/-- Digests without collisions: a metadata hash closes a node, and each child covers what
follows it.
-/
inductive PlainDigest where
  | zero
  | metadata (snapshot : EntrySnapshot)
  | node (metadata : PlainDigest)
  | cover (child rest : PlainDigest)
deriving DecidableEq

def plainHasher : MerkleHasher PlainDigest where
  zeroHash := .zero
  metadataHash := .metadata
  subtreeHash metadata children := children.foldr .cover (.node metadata)

theorem plainHasher_metadata_injective : Function.Injective plainHasher.metadataHash :=
  fun _ _ same => PlainDigest.metadata.inj same

/-- Equal digests of nodes come from the same hashes, by induction on the children. -/
theorem plainHasher_subtree_injective {metadata metadata' : PlainDigest}
    {children children' : List PlainDigest}
    (same : plainHasher.subtreeHash metadata children
      = plainHasher.subtreeHash metadata' children')
    : metadata = metadata' ∧ children = children' := by
  induction children generalizing children' with
  | nil =>
      cases children' with
      | nil => exact ⟨PlainDigest.node.inj same, rfl⟩
      | cons first rest => cases same
  | cons first rest ih =>
      cases children' with
      | nil => cases same
      | cons first' rest' =>
          obtain ⟨rfl, further⟩ := PlainDigest.cover.inj same
          obtain ⟨rfl, rfl⟩ := ih further
          exact ⟨rfl, rfl⟩

def directoryEntry (text : String) (seconds : Nat) : WalkEntry ℚ where
  path := ⟨text⟩
  metadata := {
    sizeBytes := 4096
    contentSizeBytes := 4096
    modified := Duration.fromSecs seconds
    created := none
    isDir := true
    inode := 0
    deviceId := 0
    kind := .directory
    permissions := 0o755
  }
  depth := 1
  structuralSignals := .default
  isOpen := false
  opaqueTree := none

/-- A root, and a second root two directories further down. -/
def nestedRoots : List PathBuf := [⟨"/data"⟩, ⟨"/data/a/b"⟩]

def nestedEntries (seconds : Nat) : List (WalkEntry ℚ) :=
  [directoryEntry "/data/a" 1, directoryEntry "/data/a/b" 1, directoryEntry "/data/a/b/c" seconds]

def nestedStart : WalkedEntries ℚ nestedRoots where
  entries := nestedEntries 1
  distinct := by decide
  named := by decide
  underRoots := by decide

def nestedChange : WalkedEntries ℚ nestedRoots where
  entries := nestedEntries 2
  distinct := by decide
  named := by decide
  underRoots := by decide

def nestedInputs : List (WalkedEntries ℚ nestedRoots × ScanBudget) := [(nestedChange, .new 10)]

/-- A change below the second root does not reach the hash of the directory between the roots. -/
theorem nestedRoot_stale
    : (Function.Injective plainHasher.metadataHash
        ∧ ∀ metadata children metadata' children',
          plainHasher.subtreeHash metadata children = plainHasher.subtreeHash metadata' children'
          → metadata = metadata' ∧ children = children')
      ∧ (∀ input ∈ nestedInputs, input.1.entries.length ≤ input.2.remaining)
      ∧ ¬ ∀ path ∈ (final (scan plainHasher)
            (buildFromEntries plainHasher nestedStart.entries nestedRoots)
            nestedInputs).trackedPaths,
          (final (scan plainHasher)
              (buildFromEntries plainHasher nestedStart.entries nestedRoots)
              nestedInputs).subtreeHash path
            = (buildFromEntries plainHasher (lastWalk nestedStart nestedInputs).entries
              nestedRoots).subtreeHash path := by
  refine ⟨⟨plainHasher_metadata_injective, fun _ _ _ _ => plainHasher_subtree_injective⟩,
    by decide, fun same => ?_⟩
  have between := same [.rootDir, .normal "data", .normal "a"] (by decide)
  exact absurd between (by decide)

/-- Nothing is in the way when no root lies deeper than a tracked path. -/
theorem unhindered_of_shallow {hasher : MerkleHasher Hash} {rootPaths : List PathBuf}
    {index : MerkleScanIndex Hash} {walk : WalkedEntries F rootPaths}
    (shallow : ∀ root ∈ rootPaths, ∀ path ∈ walk.paths, root.components.length ≤ path.length)
    : Unhindered hasher index walk := by
  intro above path tracked touched linked root member rootAbove aboveRoot
  have shorter := aboveRoot.length_lt
  have longer := shallow root member above tracked
  omega

def singleStart : WalkedEntries ℚ [⟨"/data"⟩] where
  entries := nestedEntries 1
  distinct := by decide
  named := by decide
  underRoots := by decide

def singleChange : WalkedEntries ℚ [⟨"/data"⟩] where
  entries := nestedEntries 2
  distinct := by decide
  named := by decide
  underRoots := by decide

/-- Without the second root the same change reaches the directory's hash. -/
theorem singleRoot_maintained
    : (final (scan plainHasher) (buildFromEntries plainHasher singleStart.entries [⟨"/data"⟩])
          [(singleChange, .new 10)]).subtreeHash [.rootDir, .normal "data", .normal "a"]
        = (buildFromEntries plainHasher singleChange.entries [⟨"/data"⟩]).subtreeHash
            [.rootDir, .normal "data", .normal "a"] :=
  maintained_eq_rebuilt singleStart [(singleChange, .new 10)] (by decide)
    ⟨unhindered_of_shallow (by decide), trivial⟩ [.rootDir, .normal "data", .normal "a"]
    (by decide)

end MerkleScanIndex

end

end StorageBallast
