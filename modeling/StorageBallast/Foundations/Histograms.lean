import Mathlib.Algebra.BigOperators.Group.List.Basic
import Mathlib.Algebra.GroupWithZero.Nat
import Std.Data.TreeMap.Lemmas

/-! Histograms kept in an ordered map: a key without an entry counts zero. -/

namespace StorageBallast.Histograms

variable {κ : Type*} {cmp : κ → κ → Ordering}

def count (histogram : Std.TreeMap κ Nat cmp) (key : κ) : Std.TreeMap κ Nat cmp :=
  histogram.insert key (histogram.getD key 0 + 1)

def total (histogram : Std.TreeMap κ Nat cmp) : Nat := (histogram.toList.map (·.2)).sum

variable [DecidableEq κ] [Std.TransCmp cmp] [Std.LawfulEqCmp cmp]

def totalApart (histogram : Std.TreeMap κ Nat cmp) (key : κ) : Nat :=
  ((histogram.toList.filter fun entry => ¬ key == entry.1).map (·.2)).sum

theorem total_insert (histogram : Std.TreeMap κ Nat cmp) (key : κ) (value : Nat)
    : total (histogram.insert key value) = value + totalApart histogram key := by
  unfold total totalApart
  rw [((Std.TreeMap.toList_insert_perm (t := histogram)).map (·.2)).sum_eq]
  simp

/-- Writing a key's own count again changes nothing, so the total is split at the key. -/
theorem total_eq (histogram : Std.TreeMap κ Nat cmp) (key : κ)
    : total histogram = histogram.getD key 0 + totalApart histogram key := by
  cases held : histogram[key]? with
  | some value =>
      have same : (histogram.insert key value).Equiv histogram := by
        apply Std.TreeMap.Equiv.of_forall_constGet?_eq
        intro other
        rw [Std.TreeMap.getElem?_insert]
        split
        · rename_i equal
          rw [← Std.LawfulEqCmp.eq_of_compare equal, held]
        · rfl
      have value_eq : histogram.getD key 0 = value := by
        simp [Std.TreeMap.getD_eq_getD_getElem?, held]
      rw [value_eq, ← total_insert]
      unfold total
      rw [same.toList_eq]
  | none =>
      have zero : histogram.getD key 0 = 0 := by
        simp [Std.TreeMap.getD_eq_getD_getElem?, held]
      have all : (histogram.toList.filter fun entry => ¬ key == entry.1) = histogram.toList := by
        refine List.filter_eq_self.mpr ?_
        rintro ⟨other, count⟩ member
        have found := Std.TreeMap.mem_toList_iff_getElem?_eq_some.mp member
        by_contra equal
        have same : key = other := by simpa using equal
        rw [← same, held] at found
        cases found
      rw [zero, Nat.zero_add, totalApart, all, total]

theorem total_count (histogram : Std.TreeMap κ Nat cmp) (key : κ)
    : total (count histogram key) = total histogram + 1 := by
  rw [count, total_insert, total_eq histogram key]
  omega

end StorageBallast.Histograms
