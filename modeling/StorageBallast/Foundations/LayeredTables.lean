import Mathlib.Data.List.Basic
import Mathlib.Logic.Function.Basic
import Mathlib.Tactic.Common

/-! Tables whose values are computed from one another, layer by layer: the value of a key is
read off the values of deeper keys. Going through some keys from the deepest up settles each
of them, and a table that is settled everywhere is unique.
-/

namespace StorageBallast.LayeredTables

variable {κ υ : Type} [DecidableEq κ]

/-- How the value of a key follows from a table. It depends on the keys that are read, and
these lie deeper.
-/
structure Layering (κ υ : Type) where
  rank : κ → Nat
  reads : κ → List κ
  value : κ → (κ → Option υ) → υ
  deeper : ∀ key, ∀ other ∈ reads key, rank key < rank other
  value_congr : ∀ key table table',
    (∀ other ∈ reads key, table other = table' other) → value key table = value key table'

namespace Layering

variable (layering : Layering κ υ)

def Settled (table : κ → Option υ) (key : κ) : Prop := table key = some (layering.value key table)

def refresh (drops : κ → Bool) (table : κ → Option υ) (key : κ) : κ → Option υ :=
  Function.update table key (if drops key then none else some (layering.value key table))

def sweep (drops : κ → Bool) (table : κ → Option υ) (keys : List κ) : κ → Option υ :=
  keys.foldl (layering.refresh drops) table

variable {layering} {drops : κ → Bool} {table : κ → Option υ}

omit [DecidableEq κ] in
/-- A settled key has the value that any other table gives it which agrees on what is read. -/
theorem Settled.eq_of_reads {table' : κ → Option υ} {key : κ}
    (settled : layering.Settled table key) (settled' : layering.Settled table' key)
    (agree : ∀ other ∈ layering.reads key, table other = table' other)
    : table key = table' key := by
  rw [settled, settled', layering.value_congr key table table' agree]

/-- A key that does not come up keeps its value, by induction on the keys that do. -/
theorem sweep_of_not_mem {keys : List κ} {key : κ} (absent : key ∉ keys)
    : layering.sweep drops table keys key = table key := by
  induction keys generalizing table with
  | nil => rfl
  | cons next rest ih =>
      obtain ⟨apart, later⟩ : key ≠ next ∧ key ∉ rest := by simpa using absent
      change layering.sweep drops (layering.refresh drops table next) rest key = table key
      rw [ih later]
      exact Function.update_of_ne apart _ _

/-- Every key that comes up and is not dropped is settled in the end, since the keys it reads
come up before it or not at all. By induction on the keys.
-/
theorem settled_sweep {keys : List κ}
    (sorted : keys.Pairwise fun left right => layering.rank right ≤ layering.rank left)
    {key : κ} (member : key ∈ keys) (kept : drops key = false)
    : layering.Settled (layering.sweep drops table keys) key := by
  induction keys generalizing table with
  | nil => cases member
  | cons next rest ih =>
      obtain ⟨least, sortedRest⟩ := List.pairwise_cons.mp sorted
      by_cases later : key ∈ rest
      · exact ih sortedRest later
      · obtain rfl := (List.mem_cons.mp member).resolve_right later
        have final (other : κ) (read : other ∈ layering.reads key)
            : layering.sweep drops table (key :: rest) other = table other := by
          have below := layering.deeper key other read
          refine sweep_of_not_mem fun comesUp => ?_
          rcases List.mem_cons.mp comesUp with rfl | behind
          · exact absurd below (Nat.lt_irrefl _)
          · exact absurd (least other behind) (Nat.not_le.mpr below)
        have own : layering.sweep drops table (key :: rest) key
            = some (layering.value key table) := by
          change layering.sweep drops (layering.refresh drops table key) rest key = _
          rw [sweep_of_not_mem later, refresh, Function.update_self, kept]
          rfl
        rw [Settled, own, layering.value_congr key _ _ fun other read => final other read]

variable (layering) in
omit [DecidableEq κ] in
/-- Induction along the layers, from the deepest keys up: a property passes from the keys that
are read to the key that reads them.
-/
theorem layer_induction {among holds : κ → Prop} {bound : Nat}
    (bounded : ∀ key, among key → layering.rank key < bound)
    (closed : ∀ key, among key → ∀ other ∈ layering.reads key, among other)
    (step : ∀ key, among key → (∀ other ∈ layering.reads key, holds other) → holds key)
    {key : κ} (member : among key) : holds key := by
  induction height : bound - layering.rank key using Nat.strongRecOn generalizing key with
  | ind height ih =>
      refine step key member fun other read => ?_
      have inside := closed key member other read
      have below := layering.deeper key other read
      have room := bounded other inside
      exact ih (bound - layering.rank other) (by omega) inside rfl

end Layering

end StorageBallast.LayeredTables
