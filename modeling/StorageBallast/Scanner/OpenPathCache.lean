import Mathlib.Algebra.Order.BigOperators.Group.Finset
import Mathlib.Logic.Relation
import Mathlib.Algebra.GroupWithZero.Nat
import StorageBallast.Foundations.Paths
import StorageBallast.Foundations.Runs

/-! The check for open files below a path, with its memory of directories. Each search goes
through what is below the path, and a directory is remembered as free of open files only when a
search has been through everything it came across.
-/

namespace StorageBallast

open Runs

variable {Path : Type}

structure InodeMetadata where
  dev : Nat
  ino : Nat
  isDir : Bool
deriving DecidableEq, Repr

def InodeMetadata.key (metadata : InodeMetadata) : Nat × Nat := (metadata.dev, metadata.ino)

/-- The calls of a search. Links are not followed, and a directory is listed as paths. -/
structure OpenReads (Path : Type) where
  symlinkMetadata : Path → Option InodeMetadata
  readDir : Path → Option (List Path)

/-- Entries that one search may check. -/
def maxScan : Nat := 20000

/-- What is known of directories and of paths that were asked for: whether something at or below
them is open.
-/
abbrev DirCache (Path : Type) := Path → Option Bool

/-- Go through a stack of paths. The answer is the directories gone through, or nothing if the
search has to assume that something is open.
-/
def searchOpen (reads : OpenReads Path) (openInodes : Finset (Nat × Nat))
    (dirCache : DirCache Path) (stack : List Path) (checked : Nat) (visitedDirs : List Path)
    : Option (List Path) :=
  match stack with
  | [] => some visitedDirs
  | p :: rest =>
      match dirCache p with
      | some true => none
      | some false => searchOpen reads openInodes dirCache rest checked visitedDirs
      | none =>
          match reads.symlinkMetadata p with
          | none => searchOpen reads openInodes dirCache rest checked visitedDirs
          | some metadata =>
              if metadata.key ∈ openInodes then none
              else if maxScan ≤ checked + 1 then none
              else if metadata.isDir then
                searchOpen reads openInodes dirCache
                  (((reads.readDir p).getD []).reverse ++ rest) (checked + 1) (visitedDirs ++ [p])
              else searchOpen reads openInodes dirCache rest (checked + 1) visitedDirs
termination_by (maxScan - checked, stack.length)

section
variable [DecidableEq Path]

/-- `OpenPathCache::is_path_open`, with the memory it leaves. -/
def isPathOpenUnix (reads : OpenReads Path) (openInodes : Finset (Nat × Nat))
    (dirCache : DirCache Path) (path : Path) : Bool × DirCache Path :=
  match dirCache path with
  | some cached => (cached, dirCache)
  | none =>
      match searchOpen reads openInodes dirCache [path] 0 [] with
      | none => (true, Function.update dirCache path (some true))
      | some visitedDirs =>
          (false, Function.update
            (visitedDirs.foldl (fun cache dir => Function.update cache dir (some false)) dirCache)
            path (some false))

def isPathOpen (reads : OpenReads Path) (openInodes : Finset (Nat × Nat)) (path : Path) : Bool :=
  (isPathOpenUnix reads openInodes (fun _ => none) path).1

def dirCacheAfter (reads : OpenReads Path) (openInodes : Finset (Nat × Nat))
    (queries : List Path) : DirCache Path :=
  final (fun cache path => (isPathOpenUnix reads openInodes cache path).2) (fun _ => none) queries

end

section
variable {reads : OpenReads Path} {openInodes : Finset (Nat × Nat)} {dirCache : DirCache Path}

def OpenReads.Lists (reads : OpenReads Path) (dir entry : Path) : Prop :=
  ∃ metadata, reads.symlinkMetadata dir = some metadata ∧ metadata.isDir = true
    ∧ entry ∈ (reads.readDir dir).getD []

def OpenReads.Below (reads : OpenReads Path) (path entry : Path) : Prop :=
  Relation.ReflTransGen reads.Lists path entry

def OpenReads.HasOpen (reads : OpenReads Path) (openInodes : Finset (Nat × Nat)) (path : Path)
    : Prop :=
  ∃ entry metadata, reads.Below path entry ∧ reads.symlinkMetadata entry = some metadata
    ∧ metadata.key ∈ openInodes

/-- Nothing is open at a path that has no entry, since nothing is below it. -/
theorem OpenReads.not_hasOpen_of_absent {path : Path}
    (absent : reads.symlinkMetadata path = none) : ¬ reads.HasOpen openInodes path := by
  rintro ⟨entry, metadata, below, found, -⟩
  cases Relation.ReflTransGen.cases_head below with
  | inl same =>
      subst same
      rw [absent] at found
      cases found
  | inr further =>
      obtain ⟨next, ⟨other, listed, -⟩, -⟩ := further
      rw [absent] at listed
      cases listed

/-- Something is open below an entry exactly if the entry itself is open, or something in it. -/
theorem OpenReads.hasOpen_iff {path : Path} {metadata : InodeMetadata}
    (found : reads.symlinkMetadata path = some metadata)
    : reads.HasOpen openInodes path
      ↔ metadata.key ∈ openInodes
        ∨ metadata.isDir = true ∧ ∃ entry ∈ (reads.readDir path).getD [],
          reads.HasOpen openInodes entry := by
  constructor
  · rintro ⟨entry, other, below, stored, isOpen⟩
    cases Relation.ReflTransGen.cases_head below with
    | inl same =>
        subst same
        rw [found] at stored
        cases stored
        exact .inl isOpen
    | inr further =>
        obtain ⟨next, ⟨own, listed, isDir, member⟩, below⟩ := further
        rw [found] at listed
        cases listed
        exact .inr ⟨isDir, next, member, entry, other, below, stored, isOpen⟩
  · rintro (isOpen | ⟨isDir, next, member, entry, other, below, stored, isOpen⟩)
    · exact ⟨path, metadata, .refl, found, isOpen⟩
    · exact ⟨entry, other, .head ⟨metadata, found, isDir, member⟩ below, stored, isOpen⟩

def DirCache.Sound (reads : OpenReads Path) (openInodes : Finset (Nat × Nat))
    (dirCache : DirCache Path) : Prop :=
  ∀ path, dirCache path = some false → ¬ reads.HasOpen openInodes path

/-- A search that comes to its end has found nothing open below its stack, nor below the
directories it went through, by induction on the search: what a directory holds is on the stack
after it.
-/
theorem searchOpen_clear (sound : dirCache.Sound reads openInodes) {stack : List Path}
    {checked : Nat} {visitedDirs explored : List Path}
    (ended : searchOpen reads openInodes dirCache stack checked visitedDirs = some explored)
    : (∀ path ∈ stack, ¬ reads.HasOpen openInodes path)
      ∧ ∀ dir ∈ explored, dir ∈ visitedDirs ∨ ¬ reads.HasOpen openInodes dir := by
  fun_induction searchOpen reads openInodes dirCache stack checked visitedDirs with
  | case1 checked visitedDirs =>
      cases ended
      exact ⟨by simp, fun dir member => .inl member⟩
  | case2 => cases ended
  | case3 checked visitedDirs p rest free ih =>
      obtain ⟨others, through⟩ := ih ended
      exact ⟨List.forall_mem_cons.mpr ⟨sound p free, others⟩, through⟩
  | case4 checked visitedDirs p rest unknown absent ih =>
      obtain ⟨others, through⟩ := ih ended
      exact ⟨List.forall_mem_cons.mpr ⟨OpenReads.not_hasOpen_of_absent absent, others⟩, through⟩
  | case5 => cases ended
  | case6 => cases ended
  | case7 checked visitedDirs p rest unknown metadata found closed below isDir ih =>
      obtain ⟨others, through⟩ := ih ended
      rw [List.forall_mem_append] at others
      have clear : ¬ reads.HasOpen openInodes p := by
        rw [OpenReads.hasOpen_iff found]
        rintro (isOpen | ⟨-, entry, member, inside⟩)
        · exact closed isOpen
        · exact others.1 entry (List.mem_reverse.mpr member) inside
      refine ⟨List.forall_mem_cons.mpr ⟨clear, others.2⟩, fun dir member => ?_⟩
      rcases through dir member with earlier | free
      · rcases List.mem_append.mp earlier with earlier | own
        · exact .inl earlier
        · exact .inr ((List.mem_singleton.mp own) ▸ clear)
      · exact .inr free
  | case8 checked visitedDirs p rest unknown metadata found closed below file ih =>
      obtain ⟨others, through⟩ := ih ended
      have clear : ¬ reads.HasOpen openInodes p := by
        rw [OpenReads.hasOpen_iff found]
        rintro (isOpen | ⟨isDir, -⟩)
        · exact closed isOpen
        · exact file isDir
      exact ⟨List.forall_mem_cons.mpr ⟨clear, others⟩, through⟩

def DirCache.Exact (reads : OpenReads Path) (openInodes : Finset (Nat × Nat))
    (dirCache : DirCache Path) : Prop :=
  ∀ path answer, dirCache path = some answer
    → (answer = true ↔ reads.HasOpen openInodes path)

theorem DirCache.Exact.sound (exact : dirCache.Exact reads openInodes)
    : dirCache.Sound reads openInodes :=
  fun path known inside => Bool.false_ne_true ((exact path false known).mpr inside)

theorem DirCache.empty_exact : DirCache.Exact reads openInodes fun _ => none := by
  intro path answer known
  cases known

def OpenReads.Weighs (reads : OpenReads Path) (weight : Path → Nat) : Prop :=
  ∀ path metadata, reads.symlinkMetadata path = some metadata
    → (if metadata.isDir then (((reads.readDir path).getD []).map weight).sum else 0) + 1
      ≤ weight path

/-- A search whose stack weighs too little for it to reach the limit breaks off only over
something open, by induction on the search: what it has checked is made up for by what the stack
has lost.
-/
theorem searchOpen_broken (exact : dirCache.Exact reads openInodes) {weight : Path → Nat}
    (weighs : reads.Weighs weight) {stack : List Path} {checked : Nat} {visitedDirs : List Path}
    (light : (stack.map weight).sum + checked < maxScan)
    (broken : searchOpen reads openInodes dirCache stack checked visitedDirs = none)
    : ∃ path ∈ stack, reads.HasOpen openInodes path := by
  fun_induction searchOpen reads openInodes dirCache stack checked visitedDirs with
  | case1 => cases broken
  | case2 checked visitedDirs p rest known =>
      exact ⟨p, List.mem_cons_self, (exact p true known).mp rfl⟩
  | case3 checked visitedDirs p rest free ih =>
      rw [List.map_cons, List.sum_cons] at light
      obtain ⟨path, member, inside⟩ := ih (by omega) broken
      exact ⟨path, List.mem_cons_of_mem _ member, inside⟩
  | case4 checked visitedDirs p rest unknown absent ih =>
      rw [List.map_cons, List.sum_cons] at light
      obtain ⟨path, member, inside⟩ := ih (by omega) broken
      exact ⟨path, List.mem_cons_of_mem _ member, inside⟩
  | case5 checked visitedDirs p rest unknown metadata found isOpen =>
      exact ⟨p, List.mem_cons_self, (OpenReads.hasOpen_iff found).mpr (.inl isOpen)⟩
  | case6 checked visitedDirs p rest unknown metadata found closed full =>
      have heavy := weighs p metadata found
      rw [List.map_cons, List.sum_cons] at light
      omega
  | case7 checked visitedDirs p rest unknown metadata found closed below isDir ih =>
      have heavy := weighs p metadata found
      rw [if_pos isDir] at heavy
      rw [List.map_cons, List.sum_cons] at light
      have lighter : ((((reads.readDir p).getD []).reverse ++ rest).map weight).sum
          + (checked + 1) < maxScan := by
        rw [List.map_append, List.sum_append, List.map_reverse, List.sum_reverse]
        omega
      obtain ⟨path, member, inside⟩ := ih lighter broken
      rcases List.mem_append.mp member with child | other
      · have below := (OpenReads.hasOpen_iff found).mpr
          (.inr ⟨isDir, path, List.mem_reverse.mp child, inside⟩)
        exact ⟨p, List.mem_cons_self, below⟩
      · exact ⟨path, List.mem_cons_of_mem _ other, inside⟩
  | case8 checked visitedDirs p rest unknown metadata found closed below file ih =>
      have heavy := weighs p metadata found
      rw [List.map_cons, List.sum_cons] at light
      obtain ⟨path, member, inside⟩ := ih (by omega) broken
      exact ⟨path, List.mem_cons_of_mem _ member, inside⟩

section
variable [DecidableEq Path]

/-- Directories remembered as free after a search, by induction on them. -/
theorem foldl_free (dirs : List Path) (dirCache : DirCache Path) (path : Path)
    : (dirs.foldl (fun cache dir => Function.update cache dir (some false)) dirCache) path
      = if path ∈ dirs then some false else dirCache path := by
  induction dirs generalizing dirCache with
  | nil => simp
  | cons dir dirs ih =>
      rw [List.foldl_cons, ih]
      by_cases own : path = dir
      · subst own
        simp
      · simp [own]

/-- What the answer and the memory come to when the memory was sound. -/
theorem isPathOpenUnix_sound (sound : dirCache.Sound reads openInodes) (path : Path)
    : ((isPathOpenUnix reads openInodes dirCache path).1 = false
        → ¬ reads.HasOpen openInodes path)
      ∧ DirCache.Sound reads openInodes (isPathOpenUnix reads openInodes dirCache path).2 := by
  unfold isPathOpenUnix
  cases known : dirCache path with
  | some cached =>
      refine ⟨fun free => sound path ?_, sound⟩
      rw [known]
      exact congrArg some free
  | none =>
      cases search : searchOpen reads openInodes dirCache [path] 0 [] with
      | none =>
          refine ⟨fun free => absurd free.symm Bool.false_ne_true, fun other free => ?_⟩
          dsimp only at free
          by_cases own : other = path
          · subst own
            simp at free
          · rw [Function.update_of_ne own] at free
            exact sound other free
      | some explored =>
          obtain ⟨stack, through⟩ := searchOpen_clear sound search
          have clear := stack path List.mem_cons_self
          refine ⟨fun _ => clear, fun other free => ?_⟩
          dsimp only at free
          by_cases own : other = path
          · exact own ▸ clear
          · rw [Function.update_of_ne own, foldl_free] at free
            split at free
            · rename_i member
              exact (through other member).resolve_left List.not_mem_nil
            · exact sound other free

/-- What they come to when the memory was right and the path weighs too little to reach the
limit.
-/
theorem isPathOpenUnix_exact (exact : dirCache.Exact reads openInodes) {weight : Path → Nat}
    (weighs : reads.Weighs weight) {path : Path} (light : weight path < maxScan)
    : ((isPathOpenUnix reads openInodes dirCache path).1 = true
        ↔ reads.HasOpen openInodes path)
      ∧ DirCache.Exact reads openInodes (isPathOpenUnix reads openInodes dirCache path).2 := by
  have sound := isPathOpenUnix_sound exact.sound path
  unfold isPathOpenUnix at sound ⊢
  cases known : dirCache path with
  | some cached => exact ⟨exact path cached known, exact⟩
  | none =>
      rw [known] at sound
      cases search : searchOpen reads openInodes dirCache [path] 0 [] with
      | none =>
          obtain ⟨found, member, inside⟩ := searchOpen_broken exact weighs (by simpa using light)
            search
          obtain rfl := List.mem_singleton.mp member
          refine ⟨iff_of_true rfl inside, fun other answer stored => ?_⟩
          dsimp only at stored
          by_cases own : other = found
          · subst own
            rw [Function.update_self] at stored
            cases stored
            exact iff_of_true rfl inside
          · rw [Function.update_of_ne own] at stored
            exact exact other answer stored
      | some explored =>
          rw [search] at sound
          refine ⟨iff_of_false Bool.false_ne_true (sound.1 rfl), fun other answer stored => ?_⟩
          have kept := stored
          dsimp only at kept
          by_cases own : other = path
          · subst own
            rw [Function.update_self] at kept
            cases kept
            exact iff_of_false Bool.false_ne_true (sound.1 rfl)
          · rw [Function.update_of_ne own, foldl_free] at kept
            split at kept
            · cases kept
              exact iff_of_false Bool.false_ne_true (sound.2 other stored)
            · exact exact other answer kept

theorem dirCacheAfter_sound (queries : List Path)
    : (dirCacheAfter reads openInodes queries).Sound reads openInodes :=
  List.foldlRecOn queries _ DirCache.empty_exact.sound
    fun _ sound path _ => (isPathOpenUnix_sound sound path).2

/-- It is exact as long as nothing was asked that weighs enough to reach the limit. -/
theorem dirCacheAfter_exact {weight : Path → Nat} (weighs : reads.Weighs weight)
    {queries : List Path} (light : ∀ path ∈ queries, weight path < maxScan)
    : (dirCacheAfter reads openInodes queries).Exact reads openInodes := by
  exact List.foldlRecOn queries _ DirCache.empty_exact
    fun _ exact path member => (isPathOpenUnix_exact exact weighs (light path member)).2

end

end

/-- A finite file tree that does not change. What has an entry stands in a directory that lists
it, once, in the order of the file system.
-/
structure StaticTree where
  entries : Finset Location
  metadata : Location → InodeMetadata
  readDir : Location → List FileName
  listed : ∀ dir ∈ entries, (metadata dir).isDir = true
    → ∀ name, name ∈ readDir dir ↔ dir.descend [name] ∈ entries
  once : ∀ dir, (readDir dir).Nodup
  rooted : ∀ dir name, Location.descend dir [name] ∈ entries
    → dir ∈ entries ∧ (metadata dir).isDir = true

namespace StaticTree

def reads (tree : StaticTree) : OpenReads Location where
  symlinkMetadata path := if path ∈ tree.entries then some (tree.metadata path) else none
  readDir path :=
    if path ∈ tree.entries ∧ (tree.metadata path).isDir = true then
      some ((tree.readDir path).map fun name => path.descend [name])
    else none

def subtree (tree : StaticTree) (path : Location) : Finset Location :=
  tree.entries.filter fun entry => entry.startsWith path = true

variable {tree : StaticTree}

theorem mem_subtree {path entry : Location}
    : entry ∈ tree.subtree path ↔ entry ∈ tree.entries ∧ entry.startsWith path = true :=
  Finset.mem_filter

theorem symlinkMetadata_eq_some {path : Location} {metadata : InodeMetadata}
    : tree.reads.symlinkMetadata path = some metadata
      ↔ path ∈ tree.entries ∧ tree.metadata path = metadata := by
  simp [reads]

theorem readDir_dir {dir : Location} (entry : dir ∈ tree.entries)
    (isDir : (tree.metadata dir).isDir = true)
    : (tree.reads.readDir dir).getD [] = (tree.readDir dir).map fun name => dir.descend [name] := by
  simp [reads, entry, isDir]

theorem lists_iff {dir entry : Location}
    : tree.reads.Lists dir entry
      ↔ ∃ name, entry = dir.descend [name] ∧ entry ∈ tree.entries := by
  constructor
  · rintro ⟨metadata, found, isDir, member⟩
    obtain ⟨stored, rfl⟩ := symlinkMetadata_eq_some.mp found
    rw [readDir_dir stored isDir] at member
    obtain ⟨name, listed, rfl⟩ := List.mem_map.mp member
    exact ⟨name, rfl, (tree.listed dir stored isDir name).mp listed⟩
  · rintro ⟨name, rfl, stored⟩
    obtain ⟨dirStored, isDir⟩ := tree.rooted dir name stored
    refine ⟨_, symlinkMetadata_eq_some.mpr ⟨dirStored, rfl⟩, isDir, ?_⟩
    rw [readDir_dir dirStored isDir]
    exact List.mem_map_of_mem ((tree.listed dir dirStored isDir name).mpr stored)

theorem startsWith_of_below {path entry : Location}
    (below : tree.reads.Below path entry) : entry.startsWith path = true := by
  induction below with
  | refl => exact path.startsWith_self
  | tail _ step ih =>
      obtain ⟨name, rfl, -⟩ := lists_iff.mp step
      exact Location.startsWith_trans (Location.descend_startsWith _ _) ih

/-- An entry under a path is reached from it, by induction on the names in between. -/
theorem below_of_mem_subtree {path entry : Location}
    (member : entry ∈ tree.subtree path) : tree.reads.Below path entry := by
  obtain ⟨stored, under⟩ := mem_subtree.mp member
  obtain ⟨names, spelled⟩ := Location.startsWith_iff.mp under
  obtain rfl : entry = path.descend names := by
    cases entry
    exact congrArg Location.mk spelled.symm
  clear under spelled member
  induction names using List.reverseRecOn with
  | nil =>
      have same : path.descend [] = path := by simp [Location.descend]
      rw [same]
      exact .refl
  | append_singleton names name ih =>
      have split : path.descend (names ++ [name]) = (path.descend names).descend [name] := by
        simp [Location.descend]
      rw [split] at stored ⊢
      exact (ih (tree.rooted _ name stored).1).tail (lists_iff.mpr ⟨name, rfl, stored⟩)

theorem hasOpen_iff {openInodes : Finset (Nat × Nat)} {path : Location}
    : tree.reads.HasOpen openInodes path
      ↔ ∃ entry ∈ tree.subtree path, (tree.metadata entry).key ∈ openInodes := by
  constructor
  · rintro ⟨entry, metadata, below, found, isOpen⟩
    obtain ⟨stored, rfl⟩ := symlinkMetadata_eq_some.mp found
    exact ⟨entry, mem_subtree.mpr ⟨stored, startsWith_of_below below⟩, isOpen⟩
  · rintro ⟨entry, member, isOpen⟩
    have found := symlinkMetadata_eq_some.mpr ⟨(mem_subtree.mp member).1, rfl⟩
    exact ⟨entry, _, below_of_mem_subtree member, found, isOpen⟩

theorem subtree_disjoint (tree : StaticTree) (dir : Location) {name other : FileName}
    (differ : name ≠ other)
    : Disjoint (tree.subtree (dir.descend [name])) (tree.subtree (dir.descend [other])) := by
  refine Finset.disjoint_left.mpr fun entry left right => differ ?_
  have front := Location.startsWith_iff.mp (mem_subtree.mp left).2
  have front' := Location.startsWith_iff.mp (mem_subtree.mp right).2
  have prefixed := List.prefix_of_prefix_length_le front front' (by simp [Location.descend])
  have same := prefixed.eq_of_length (by simp [Location.descend])
  simpa [Location.descend] using same

/-- The entries under a path bound what a search of it checks: those under the names of a
directory are apart, and the directory is not one of them.
-/
theorem weighs (tree : StaticTree) : tree.reads.Weighs fun path => (tree.subtree path).card := by
  intro path metadata found
  obtain ⟨stored, rfl⟩ := symlinkMetadata_eq_some.mp found
  have own : path ∈ tree.subtree path := mem_subtree.mpr ⟨stored, path.startsWith_self⟩
  split
  · rename_i isDir
    rw [readDir_dir stored isDir, List.map_map]
    have apart : Set.PairwiseDisjoint ↑(tree.readDir path).toFinset
        fun name => tree.subtree (path.descend [name]) :=
      fun name _ other _ differ => tree.subtree_disjoint path differ
    have inside : ((tree.readDir path).toFinset.biUnion fun name =>
        tree.subtree (path.descend [name])) ⊆ (tree.subtree path).erase path := by
      intro entry member
      obtain ⟨name, -, under⟩ := Finset.mem_biUnion.mp member
      obtain ⟨entryStored, below⟩ := mem_subtree.mp under
      refine Finset.mem_erase.mpr ⟨?_, mem_subtree.mpr ⟨entryStored,
        Location.startsWith_trans below (Location.descend_startsWith _ _)⟩⟩
      rintro rfl
      have longer := (Location.startsWith_iff.mp below).length_le
      simp [Location.descend] at longer
    have counted := Finset.card_le_card inside
    rw [Finset.card_biUnion apart, List.sum_toFinset _ (tree.once path),
      Finset.card_erase_of_mem own] at counted
    have positive := Finset.card_pos.mpr ⟨path, own⟩
    change ((tree.readDir path).map fun name => (tree.subtree (path.descend [name])).card).sum + 1
      ≤ (tree.subtree path).card
    omega
  · exact Finset.card_pos.mpr ⟨path, own⟩

end StaticTree

end StorageBallast
