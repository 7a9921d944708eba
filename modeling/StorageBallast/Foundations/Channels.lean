import Mathlib.Data.List.Basic
import Mathlib.Tactic.Common

/-! Bounded channels between one sender that does not wait and one receiver. What the receiver
knows once it has caught up is the last value that found room.
-/

namespace StorageBallast

/-- The values sent and not yet received, oldest first. -/
structure Channel (α : Type*) (capacity : Nat) where
  queue : List α
  bounded : queue.length ≤ capacity

namespace Channel

variable {α : Type*} {capacity : Nat}

def empty : Channel α capacity := ⟨[], Nat.zero_le _⟩

def trySend (self : Channel α capacity) (value : α) : Channel α capacity :=
  if room : self.queue.length < capacity then
    ⟨self.queue ++ [value], by rw [List.length_append]; exact room⟩
  else self

/-- The oldest value, if there is one, and the channel without it. -/
def tryRecv (self : Channel α capacity) : Option (α × Channel α capacity) :=
  match split : self.queue with
  | [] => none
  | value :: rest =>
      some (value, ⟨rest, by
        have bounded := self.bounded
        rw [split, List.length_cons] at bounded
        exact Nat.le_of_succ_le bounded⟩)

/-- The value last seen by a receiver that catches up, having seen `seen` so far. -/
def latest (self : Channel α capacity) (seen : α) : α :=
  self.queue.getLast?.getD seen

variable {self : Channel α capacity}

theorem latest_trySend_of_room (value seen : α) (room : self.queue.length < capacity)
    : (self.trySend value).latest seen = value := by
  simp [trySend, latest, room]

theorem trySend_of_full (value : α) (full : ¬ self.queue.length < capacity)
    : self.trySend value = self := by
  simp [trySend, full]

theorem queue_trySend (value : α)
    : (self.trySend value).queue
        = if self.queue.length < capacity then self.queue ++ [value] else self.queue := by
  unfold trySend
  split <;> rfl

theorem queue_tryRecv {self rest : Channel α capacity} {value : α}
    (received : self.tryRecv = some (value, rest))
    : self.queue = value :: rest.queue := by
  unfold tryRecv at received
  split at received
  · cases received
  · rename_i head tail split
    simp only [Option.some.injEq, Prod.mk.injEq] at received
    obtain ⟨rfl, rfl⟩ := received
    exact split

theorem queue_tryRecv_none (received : self.tryRecv = none)
    : self.queue = [] := by
  unfold tryRecv at received
  split at received
  · assumption
  · cases received

theorem latest_tryRecv {self rest : Channel α capacity} {value : α} (seen : α)
    (received : self.tryRecv = some (value, rest))
    : rest.latest value = self.latest seen := by
  simp [latest, queue_tryRecv received, List.getLast?_cons]

theorem tryRecv_none (received : self.tryRecv = none) (seen : α)
    : self.latest seen = seen := by
  simp [latest, queue_tryRecv_none received]

theorem length_tryRecv {self rest : Channel α capacity} {value : α}
    (received : self.tryRecv = some (value, rest))
    : rest.queue.length < self.queue.length := by
  simp [queue_tryRecv received]

def drain (self : Channel α capacity) (seen : α) : α :=
  match _taken : self.tryRecv with
  | none => seen
  | some (value, rest) => rest.drain value
termination_by self.queue.length
decreasing_by exact length_tryRecv ‹_›

/-- Draining ends with the latest value, by induction on the channel. -/
theorem drain_eq_latest (self : Channel α capacity) (seen : α)
    : self.drain seen = self.latest seen := by
  fun_induction drain self seen with
  | case1 channel seen received => exact (tryRecv_none received seen).symm
  | case2 channel seen value rest received ih => rw [ih, latest_tryRecv seen received]

end Channel

end StorageBallast
