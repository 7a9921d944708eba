import Mathlib.Data.List.Induction
import Mathlib.Logic.Function.Basic
import Mathlib.Tactic.Common
import StorageBallast.Foundations.Clock

/-! File trees with symbolic links anywhere, and what a path leads to in them. A path is read
name by name; each link on the way is replaced by its target, forty times at most. Shortening
a file changes no path.
-/

namespace StorageBallast

inductive FileNode (Name : Type) where
  | directory (readable searchable : Bool) (parent : Nat) (entries : List (Name × Nat))
  | symlink (absolute : Bool) (target : List Name)
  | file (size : UInt64) (modified : SystemTime)
  /-- A socket, a pipe or a device. -/
  | special

structure FileTree (Name : Type) where
  root : Nat
  node : Nat → FileNode Name

/-- How far names lead before there is a link to follow. -/
inductive Walked (Name : Type) where
  | arrived (inode : Nat)
  | link (dir : Nat) (absolute : Bool) (target rest : List Name)

def mostLinks : Nat := 40

namespace FileTree

variable {Name : Type} [DecidableEq Name] (up : Name)

/-- The entry of a directory by its name. -/
def child (tree : FileTree Name) (dir : Nat) (name : Name) : Option Nat :=
  match tree.node dir with
  | .directory _ searchable parent entries =>
      if searchable then if name = up then some parent else entries.lookup name else none
  | .symlink _ _ => none
  | .file _ _ => none
  | .special => none

/-- Follow names to a link. One at the end counts only if it is to be followed. -/
def walk (tree : FileTree Name) (followLast : Bool) : Nat → List Name → Option (Walked Name)
  | here, [] => some (.arrived here)
  | here, name :: rest =>
      match tree.child up here name with
      | none => none
      | some next =>
          match tree.node next with
          | .symlink absolute target =>
              if rest.isEmpty && !followLast then some (.arrived next)
              else some (.link here absolute target rest)
          | .directory _ _ _ _ => tree.walk followLast next rest
          | .file _ _ => tree.walk followLast next rest
          | .special => tree.walk followLast next rest

/-- Follow names, and as many links. -/
def resolve (tree : FileTree Name) (followLast : Bool)
    : Nat → Nat → List Name → Option Nat
  | links, here, names =>
      match tree.walk up followLast here names with
      | none => none
      | some (.arrived inode) => some inode
      | some (.link dir absolute target rest) =>
          match links with
          | 0 => none
          | links + 1 =>
              tree.resolve followLast links (if absolute then tree.root else dir)
                (target ++ rest)

def lstat (tree : FileTree Name) (names : List Name) : Option Nat :=
  tree.resolve up false mostLinks tree.root names

/-- The names in the directory that an absolute path leads to. -/
def readDir (tree : FileTree Name) (names : List Name) : Option (List Name) :=
  match tree.resolve up true mostLinks tree.root names with
  | none => none
  | some inode =>
      match tree.node inode with
      | .directory readable _ _ entries => if readable then some (entries.map (·.1)) else none
      | .symlink _ _ => none
      | .file _ _ => none
      | .special => none

def Plain (tree : FileTree Name) (names : List Name) : Prop :=
  ∃ inode, tree.walk up false tree.root names = some (.arrived inode)

instance (tree : FileTree Name) (names : List Name) : Decidable (tree.Plain up names) :=
  match walked : tree.walk up false tree.root names with
  | some (.arrived inode) => .isTrue ⟨inode, walked⟩
  | some (.link ..) => .isFalse (by rintro ⟨inode, same⟩; rw [walked] at same; cases same)
  | none => .isFalse (by rintro ⟨inode, same⟩; rw [walked] at same; cases same)

omit [DecidableEq Name] in
def truncate (tree : FileTree Name) (inode : Nat) (now : SystemTime) : FileTree Name :=
  match tree.node inode with
  | .file _ _ => { tree with node := Function.update tree.node inode (.file 0 now) }
  | .directory _ _ _ _ => tree
  | .symlink _ _ => tree
  | .special => tree

omit [DecidableEq Name] in
/-- The trees differ at most in the size and time of files. -/
structure SameShape (tree other : FileTree Name) : Prop where
  root : other.root = tree.root
  node : ∀ inode, other.node inode = tree.node inode
    ∨ ∃ size modified size' modified', tree.node inode = .file size modified
      ∧ other.node inode = .file size' modified'

namespace SameShape

variable {up} {tree middle other : FileTree Name}

omit [DecidableEq Name] in
theorem refl (tree : FileTree Name) : SameShape tree tree := ⟨rfl, fun _ => .inl rfl⟩

theorem child (same : SameShape tree other) (dir : Nat) (name : Name)
    : other.child up dir name = tree.child up dir name := by
  unfold FileTree.child
  rcases same.node dir with equal | ⟨_, _, _, _, before, after⟩
  · rw [equal]
  · rw [before, after]

/-- Names lead as far in both trees, by induction on them. -/
theorem walk (same : SameShape tree other) (followLast : Bool) (here : Nat)
    (names : List Name)
    : other.walk up followLast here names = tree.walk up followLast here names := by
  induction names generalizing here with
  | nil => rfl
  | cons name rest ih =>
      unfold FileTree.walk
      rw [same.child here name]
      cases tree.child up here name with
      | none => rfl
      | some next =>
          dsimp only
          rcases same.node next with equal | ⟨_, _, _, _, before, after⟩
          · rw [equal]
            simp only [ih]
          · rw [before, after]
            exact ih next

theorem resolve (same : SameShape tree other) (followLast : Bool) (links here : Nat)
    (names : List Name)
    : other.resolve up followLast links here names
      = tree.resolve up followLast links here names := by
  induction links generalizing here names with
  | zero =>
      unfold FileTree.resolve
      rw [same.walk]
  | succ links ih =>
      unfold FileTree.resolve
      rw [same.walk, same.root]
      simp only [ih]

theorem lstat (same : SameShape tree other) (names : List Name)
    : other.lstat up names = tree.lstat up names := by
  unfold FileTree.lstat
  rw [same.root, same.resolve]

theorem readDir (same : SameShape tree other) (names : List Name)
    : other.readDir up names = tree.readDir up names := by
  unfold FileTree.readDir
  rw [same.root, same.resolve]
  cases tree.resolve up true mostLinks tree.root names with
  | none => rfl
  | some inode =>
      dsimp only
      rcases same.node inode with equal | ⟨_, _, _, _, before, after⟩
      · rw [equal]
      · rw [before, after]

end SameShape

variable {up} {tree : FileTree Name}

/-- A name behind others is looked up where these lead, every link among them followed. -/
theorem walk_concat (tree : FileTree Name) (here : Nat) (names : List Name) (name : Name)
    : tree.walk up false here (names ++ [name])
      = match tree.walk up true here names with
        | none => none
        | some (.arrived dir) => (tree.child up dir name).map .arrived
        | some (.link dir absolute target rest) =>
            some (.link dir absolute target (rest ++ [name])) := by
  induction names generalizing here with
  | nil =>
      rw [List.nil_append, walk, walk]
      cases found : tree.child up here name with
      | none => simp only [found, Option.map_none]
      | some next =>
          simp only [found, Option.map_some]
          cases tree.node next <;> simp [walk]
  | cons first names ih =>
      rw [List.cons_append, walk, walk]
      cases tree.child up here first with
      | none => rfl
      | some next =>
          dsimp only
          cases tree.node next with
          | symlink absolute target => simp
          | directory => exact ih next
          | file => exact ih next
          | special => exact ih next

theorem resolve_concat (tree : FileTree Name) (links here : Nat) (names : List Name) (name : Name)
    : tree.resolve up false links here (names ++ [name])
      = (tree.resolve up true links here names).bind fun dir => tree.child up dir name := by
  induction links generalizing here names with
  | zero =>
      rw [resolve, resolve, walk_concat]
      rcases tree.walk up true here names with _ | ⟨_ | _⟩
      · rfl
      · rename_i dir
        dsimp only [Option.bind_some]
        cases tree.child up dir name <;> rfl
      · rfl
  | succ links ih =>
      rw [resolve, resolve, walk_concat]
      rcases tree.walk up true here names with _ | ⟨_ | _⟩
      · rfl
      · rename_i dir
        dsimp only [Option.bind_some]
        cases tree.child up dir name <;> rfl
      · dsimp only
        rw [← List.append_assoc, ih]

/-- What is behind a path is an entry of the directory that the path leads to. -/
theorem lstat_concat (tree : FileTree Name) (names : List Name) (name : Name)
    : tree.lstat up (names ++ [name])
      = (tree.resolve up true mostLinks tree.root names).bind fun dir =>
          tree.child up dir name :=
  resolve_concat tree ..

/-- Not following a link at the end comes to at least as much, by induction on the names. -/
theorem walk_unfollowed (tree : FileTree Name) (here : Nat) (names : List Name)
    : tree.walk up false here names = tree.walk up true here names
      ∨ (∃ inode, tree.walk up false here names = some (.arrived inode)) := by
  induction names generalizing here with
  | nil => exact .inl rfl
  | cons name rest ih =>
      rw [walk, walk]
      cases tree.child up here name with
      | none => exact .inl rfl
      | some next =>
          dsimp only
          cases tree.node next with
          | symlink absolute target =>
              cases rest with
              | nil => exact .inr ⟨next, rfl⟩
              | cons => exact .inl rfl
          | directory => exact ih next
          | file => exact ih next
          | special => exact ih next

theorem resolve_unfollowed (links here : Nat) (names : List Name)
    (leads : (tree.resolve up true links here names).isSome = true)
    : (tree.resolve up false links here names).isSome = true := by
  induction links generalizing here names with
  | zero =>
      unfold resolve at leads ⊢
      rcases walk_unfollowed tree here names with same | ⟨inode, arrived⟩
      · rw [same]
        revert leads
        rcases tree.walk up true here names with _ | ⟨_ | _⟩ <;> exact id
      · rw [arrived]
        rfl
  | succ links ih =>
      unfold resolve at leads ⊢
      rcases walk_unfollowed tree here names with same | ⟨inode, arrived⟩
      · rw [same]
        revert leads
        rcases tree.walk up true here names with _ | ⟨_ | _⟩
        · exact id
        · exact id
        · exact ih _ _
      · rw [arrived]
        rfl

/-- What a path leads through exists, by induction on what follows it. -/
theorem lstat_of_append {names rest : List Name}
    (there : (tree.lstat up (names ++ rest)).isSome = true)
    : (tree.lstat up names).isSome = true := by
  induction rest using List.reverseRecOn with
  | nil => rwa [List.append_nil] at there
  | append_singleton rest name ih =>
      rw [← List.append_assoc, lstat_concat] at there
      apply ih
      apply resolve_unfollowed
      cases followed : tree.resolve up true mostLinks tree.root (names ++ rest) with
      | none => simp [followed] at there
      | some => rfl

omit [DecidableEq Name] in
def AllOpen (tree : FileTree Name) : Prop :=
  ∀ inode readable searchable parent entries,
    tree.node inode = .directory readable searchable parent entries
      → readable = true ∧ searchable = true

theorem lstat_of_listed (allOpen : tree.AllOpen) {names listed : List Name} {name : Name}
    (read : tree.readDir up names = some listed) (member : name ∈ listed)
    : (tree.lstat up (names ++ [name])).isSome = true := by
  unfold readDir at read
  rw [lstat_concat]
  cases followed : tree.resolve up true mostLinks tree.root names with
  | none => simp [followed] at read
  | some dir =>
      rw [followed] at read
      dsimp only [Option.bind_some] at read ⊢
      cases node : tree.node dir with
      | directory readable searchable parent entries =>
          obtain ⟨rfl, rfl⟩ := allOpen _ _ _ _ _ node
          simp only [node, if_true, Option.some.injEq] at read
          subst read
          unfold child
          simp only [node, if_true]
          split
          · rfl
          · obtain ⟨entry, among, rfl⟩ := List.mem_map.mp member
            rw [Option.isSome_iff_ne_none, Ne, List.lookup_eq_none_iff]
            intro absent
            simpa using absent entry among
      | symlink => simp [node] at read
      | file => simp [node] at read
      | special => simp [node] at read

/-- What exists in an open directory by a name of its own is listed there. -/
theorem listed_of_lstat (allOpen : tree.AllOpen) {names : List Name} {name : Name}
    (own : name ≠ up) (there : (tree.lstat up (names ++ [name])).isSome = true)
    : ∃ listed, tree.readDir up names = some listed ∧ name ∈ listed := by
  rw [lstat_concat] at there
  unfold readDir
  cases followed : tree.resolve up true mostLinks tree.root names with
  | none => simp [followed] at there
  | some dir =>
      rw [followed] at there
      dsimp only [Option.bind_some] at there ⊢
      unfold child at there
      cases node : tree.node dir with
      | directory readable searchable parent entries =>
          obtain ⟨rfl, rfl⟩ := allOpen _ _ _ _ _ node
          simp only [node, if_true, if_neg own] at there
          refine ⟨_, rfl, ?_⟩
          by_contra absent
          rw [Option.isSome_iff_ne_none, Ne, List.lookup_eq_none_iff] at there
          apply there
          intro entry among
          rw [bne_iff_ne]
          rintro rfl
          exact absent (List.mem_map_of_mem among)
      | symlink => simp [node] at there
      | file => simp [node] at there
      | special => simp [node] at there

end FileTree

end StorageBallast
