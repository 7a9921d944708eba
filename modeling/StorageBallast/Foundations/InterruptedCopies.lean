import Mathlib.Data.List.Basic
import Mathlib.Logic.Function.Basic

/-! Copying files into a directory that keeps what it has, where a call may fail. A file that is
being copied may be cut off, and the copying stops there.
-/

namespace StorageBallast.InterruptedCopies

variable {ν α : Type}

abbrev Files (ν α : Type) := ν → Option (List α)

/-- How writing a file goes. When it fails, it has left so much of the contents, or not even the
file.
-/
inductive WriteOutcome where
  | whole
  | cut (length : Nat)
  | nothing
deriving DecidableEq, Repr

namespace WriteOutcome

def left (content : List α) : WriteOutcome → Option (List α)
  | whole => some content
  | cut length => some (content.take length)
  | nothing => none

theorem left_prefix {content kept : List α} {outcome : WriteOutcome}
    (leaves : outcome.left content = some kept) : kept <+: content := by
  cases outcome with
  | whole =>
      cases leaves
      exact List.prefix_rfl
  | cut length =>
      cases leaves
      exact List.take_prefix length content
  | nothing => cases leaves

end WriteOutcome

variable [DecidableEq ν]

def write (outcome : WriteOutcome) (name : ν) (content : List α) (files : Files ν α)
    : Files ν α :=
  match outcome.left content with
  | some kept => Function.update files name (some kept)
  | none => files

@[simp] theorem write_same (outcome : WriteOutcome) (name : ν) (content : List α)
    (files : Files ν α)
    : write outcome name content files name = (outcome.left content).or (files name) := by
  cases outcome <;> simp [write, WriteOutcome.left]

@[simp] theorem write_other {name other : ν} (apart : other ≠ name) (outcome : WriteOutcome)
    (content : List α) (files : Files ν α)
    : write outcome name content files other = files other := by
  cases outcome <;> simp [write, WriteOutcome.left, apart]

/-- The named files of a source are copied unless they exist, up to the first failure. -/
def copyEach (outcomes : ν → WriteOutcome) (source : Files ν α)
    : List ν → Files ν α → Files ν α
  | [], files => files
  | name :: names, files =>
      match source name, files name with
      | some content, none =>
          match outcomes name with
          | .whole => copyEach outcomes source names (write .whole name content files)
          | outcome => write outcome name content files
      | _, _ => copyEach outcomes source names files

variable {outcomes : ν → WriteOutcome} {source : Files ν α} {files : Files ν α} {name : ν}

theorem copyEach_skip
    (idle : source name = none ∨ ∃ content, files name = some content) (names : List ν)
    : copyEach outcomes source (name :: names) files = copyEach outcomes source names files := by
  rcases idle with missing | ⟨content, held⟩
  · simp only [copyEach, missing]
  · cases has : source name <;> simp only [copyEach, has, held]

variable {content : List α}

theorem copyEach_copy (has : source name = some content) (missing : files name = none)
    (succeeds : outcomes name = .whole) (names : List ν)
    : copyEach outcomes source (name :: names) files
      = copyEach outcomes source names (write .whole name content files) := by
  simp only [copyEach, has, missing, succeeds]

theorem copyEach_stop (has : source name = some content) (missing : files name = none)
    (fails : outcomes name ≠ .whole) (names : List ν)
    : copyEach outcomes source (name :: names) files
      = write (outcomes name) name content files := by
  cases outcome : outcomes name with
  | whole => exact absurd outcome fails
  | cut length => simp only [copyEach, has, missing, outcome]
  | nothing => simp only [copyEach, has, missing, outcome]

/-- What each single copy preserves, the copying does; by induction on the names. -/
theorem copyEach_induction {P : Files ν α → Prop} {names : List ν}
    (copies : ∀ files, P files → ∀ name ∈ names, ∀ content, source name = some content →
      files name = none → P (write (outcomes name) name content files))
    (start : P files) : P (copyEach outcomes source names files) := by
  induction names generalizing files with
  | nil => exact start
  | cons name names ih =>
      have later : ∀ files, P files → ∀ name ∈ names, ∀ content, source name = some content →
          files name = none → P (write (outcomes name) name content files) :=
        fun files held other member => copies files held other (List.mem_cons_of_mem _ member)
      cases has : source name with
      | none =>
          rw [copyEach_skip (.inl has)]
          exact ih later start
      | some content =>
          cases held : files name with
          | some existing =>
              rw [copyEach_skip (.inr ⟨existing, held⟩)]
              exact ih later start
          | none =>
              have copied := copies files start name List.mem_cons_self content has held
              by_cases succeeds : outcomes name = .whole
              · rw [copyEach_copy has held succeeds]
                rw [succeeds] at copied
                exact ih later copied
              · rw [copyEach_stop has held succeeds]
                exact copied

theorem copyEach_kept (names : List ν) (held : files name = some content)
    : copyEach outcomes source names files name = some content := by
  refine copyEach_induction (P := fun files => files name = some content) ?_ held
  intro files kept other _ copied _ missing
  have apart : name ≠ other := by
    rintro rfl
    rw [missing] at kept
    cases kept
  rw [write_other apart]
  exact kept

theorem copyEach_origin {kept : List α} {names : List ν}
    (after : copyEach outcomes source names files name = some kept)
    : files name = some kept
      ∨ name ∈ names ∧ ∃ content, source name = some content ∧ kept <+: content := by
  revert after
  refine copyEach_induction (P := fun reached => reached name = some kept →
    files name = some kept
      ∨ name ∈ names ∧ ∃ content, source name = some content ∧ kept <+: content) ?_ .inl
  intro reached known other member content has missing after
  by_cases same : name = other
  · subst same
    rw [write_same, missing, Option.or_none] at after
    exact .inr ⟨member, content, has, WriteOutcome.left_prefix after⟩
  · rw [write_other same] at after
    exact known after

/-- If only a certain file may fail, then there will be what its copying leaves; by induction on
the names.
-/
theorem copyEach_at (others : ∀ other, other ≠ name → outcomes other = .whole)
    (has : source name = some content) {names : List ν}
    (member : name ∈ names) (missing : files name = none)
    : copyEach outcomes source names files name = (outcomes name).left content := by
  induction names generalizing files with
  | nil => cases member
  | cons first names ih =>
      by_cases same : name = first
      · subst same
        by_cases succeeds : outcomes name = .whole
        · rw [copyEach_copy has missing succeeds, succeeds]
          exact copyEach_kept names (by rw [write_same]; rfl)
        · rw [copyEach_stop has missing succeeds, write_same, missing, Option.or_none]
      · have later : name ∈ names := (List.mem_cons.mp member).resolve_left same
        cases sourceHas : source first with
        | none =>
            rw [copyEach_skip (.inl sourceHas)]
            exact ih later missing
        | some other =>
            cases held : files first with
            | some existing =>
                rw [copyEach_skip (.inr ⟨existing, held⟩)]
                exact ih later missing
            | none =>
                rw [copyEach_copy sourceHas held (others first (Ne.symm same))]
                refine ih later ?_
                rw [write_other same]
                exact missing

end StorageBallast.InterruptedCopies
