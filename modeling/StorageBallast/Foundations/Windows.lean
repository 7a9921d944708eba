import Mathlib.Data.List.Basic
import Mathlib.Data.List.Find
import Mathlib.Data.List.Nodup
import Mathlib.Data.Nat.ModEq
import Mathlib.Tactic.Common

/-! Positions taken one after the other around a circle. Windows that follow each other make one
long window, and a window passes each position as often as it goes round, or once more.
-/

namespace StorageBallast

/-- So many positions of a circle of `n`, from a start on. -/
def cyclic (n start count : Nat) : List Nat := (List.range count).map fun i => (start + i) % n

variable {n : Nat}

theorem cyclic_add (start first second : Nat)
    : cyclic n start (first + second)
      = cyclic n start first ++ cyclic n (start + first) second := by
  unfold cyclic
  rw [List.range_add, List.map_append, List.map_map]
  congr 1
  exact List.map_congr_left fun i _ => congrArg (· % n) (Nat.add_assoc ..).symm

theorem cyclic_mod (start count : Nat) : cyclic n (start % n) count = cyclic n start count :=
  List.map_congr_left fun i _ => Nat.mod_add_mod start n i

theorem lt_of_mem_cyclic (positive : 0 < n) {start count position : Nat}
    (member : position ∈ cyclic n start count) : position < n := by
  obtain ⟨i, _, rfl⟩ := List.mem_map.mp member
  exact Nat.mod_lt _ positive

theorem cyclic_nodup {count : Nat} (short : count ≤ n) (start : Nat)
    : (cyclic n start count).Nodup := by
  refine List.Nodup.map_on (fun i inRange j alsoInRange same => ?_) List.nodup_range
  have alike : i ≡ j [MOD n] := Nat.ModEq.add_left_cancel' start same
  rw [List.mem_range] at inRange alsoInRange
  exact alike.eq_of_lt_of_lt (by omega) (by omega)

theorem mem_cyclic_whole {position : Nat} (within : position < n) (start : Nat)
    : position ∈ cyclic n start n := by
  have startWithin : start % n < n := Nat.mod_lt _ (by omega)
  refine List.mem_map.mpr ⟨(position + (n - start % n)) % n,
    List.mem_range.mpr (Nat.mod_lt _ (by omega)), ?_⟩
  rw [← Nat.mod_add_mod, Nat.add_mod_mod]
  have around : start % n + (position + (n - start % n)) = position + n := by omega
  rw [around, Nat.add_mod_right, Nat.mod_eq_of_lt within]

/-- Once round, and a rest; by induction on the times round. -/
theorem count_cyclic_rounds {position rest : Nat} (within : position < n) (short : rest < n)
    (rounds start : Nat)
    : rounds ≤ (cyclic n start (n * rounds + rest)).count position
      ∧ (cyclic n start (n * rounds + rest)).count position ≤ rounds + 1 := by
  induction rounds generalizing start with
  | zero =>
      have once := List.nodup_iff_count_le_one.mp (cyclic_nodup short.le start) position
      rw [Nat.mul_zero, Nat.zero_add]
      omega
  | succ rounds ih =>
      have split : n * (rounds + 1) + rest = n + (n * rounds + rest) := by
        rw [Nat.mul_succ]
        omega
      have once : (cyclic n start n).count position = 1 :=
        List.count_eq_one_of_mem (cyclic_nodup le_rfl start) (mem_cyclic_whole within start)
      have later := ih (start + n)
      rw [split, cyclic_add, List.count_append, once]
      omega

theorem count_cyclic_bounds {position : Nat} (within : position < n) (start count : Nat)
    : count / n ≤ (cyclic n start count).count position
      ∧ (cyclic n start count).count position ≤ count / n + 1 := by
  have bounds := count_cyclic_rounds within (Nat.mod_lt count (by omega)) (count / n) start
  rwa [Nat.div_add_mod] at bounds

/-- Looking up positions in a list without repetitions finds each member as often as its position
comes.
-/
theorem count_lookups {α : Type} [DecidableEq α] {list : List α} (nodup : list.Nodup) {i : Nat}
    (within : i < list.length) (positions : List Nat)
    : (positions.filterMap fun position => list[position]?).count list[i]
      = positions.count i := by
  rw [List.count_filterMap, List.count]
  refine List.countP_congr fun position _ => ?_
  rw [beq_iff_eq, beq_iff_eq, List.getElem?_eq_some_iff]
  constructor
  · rintro ⟨_, same⟩
    exact (nodup.getElem_inj_iff).mp same
  · rintro rfl
    exact ⟨within, rfl⟩

end StorageBallast

/-! Rate limiting with a fixed window: grants are counted since the start of the window, and a
window that has lasted its full length is renewed when the limiter is next asked. No window
holds more grants than the limit, and no interval of one length more than twice as many.
-/

namespace StorageBallast.FixedWindows

structure Grant where
  windowStart : Nat
  time : Nat
deriving DecidableEq, Repr

/-- The grants of a limiter in order, with the start of its current window, the grants counted
in that window, and the time.
-/
inductive Granted (limit length : Nat) : List Grant → Nat → Nat → Nat → Prop
  | start (time : Nat) : Granted limit length [] time 0 time
  | wait {log : List Grant} {windowStart used clock now : Nat}
    : Granted limit length log windowStart used clock → clock ≤ now
      → Granted limit length log windowStart used now
  | renew {log : List Grant} {windowStart used now : Nat}
    : Granted limit length log windowStart used now → windowStart + length ≤ now
      → Granted limit length log now 0 now
  | grant {log : List Grant} {windowStart used now : Nat}
    : Granted limit length log windowStart used now → used < limit
      → Granted limit length (log ++ [⟨windowStart, now⟩]) windowStart (used + 1) now

def inWindow (log : List Grant) (windowStart : Nat) : Nat :=
  log.countP fun grant => decide (grant.windowStart = windowStart)

def within (log : List Grant) (origin length : Nat) : Nat :=
  log.countP fun grant => decide (origin ≤ grant.time ∧ grant.time < origin + length)

variable {limit length : Nat} {log : List Grant} {windowStart used clock : Nat}

theorem inWindow_append (log : List Grant) (windowStart time start : Nat)
    : inWindow (log ++ [⟨windowStart, time⟩]) start
      = inWindow log start + if windowStart = start then 1 else 0 := by
  simp [inWindow, List.countP_append, List.countP_singleton]

theorem within_append (log : List Grant) (windowStart time origin length : Nat)
    : within (log ++ [⟨windowStart, time⟩]) origin length
      = within log origin length
        + if origin ≤ time ∧ time < origin + length then 1 else 0 := by
  simp [within, List.countP_append, List.countP_singleton]

theorem Granted.start_le_clock (granted : Granted limit length log windowStart used clock)
    : windowStart ≤ clock := by
  induction granted with
  | start time => exact Nat.le_refl time
  | wait _ later ih => exact Nat.le_trans ih later
  | renew _ _ _ => exact Nat.le_refl _
  | grant _ _ ih => exact ih

theorem Granted.used_le_limit (granted : Granted limit length log windowStart used clock)
    : used ≤ limit := by
  induction granted with
  | start time => exact Nat.zero_le limit
  | wait _ _ ih => exact ih
  | renew _ _ _ => exact Nat.zero_le limit
  | grant _ room _ => exact room

/-- Every grant was counted in the current window, or in one that ended before it. -/
theorem Granted.window_le (granted : Granted limit length log windowStart used clock)
    : ∀ grant ∈ log,
        grant.windowStart = windowStart ∨ grant.windowStart + length ≤ windowStart := by
  induction granted with
  | start time => simp
  | wait _ _ ih => exact ih
  | renew before expired ih =>
      intro grant member
      right
      rcases ih grant member with same | earlier
      · rwa [same]
      · have started := before.start_le_clock
        omega
  | grant before room ih =>
      intro grant member
      rcases List.mem_append.mp member with earlier | new
      · exact ih grant earlier
      · left
        rw [List.mem_singleton.mp new]

/-- The windows of two grants are the same, or the later one starts a full length after the
earlier one.
-/
theorem Granted.windows_apart (granted : Granted limit length log windowStart used clock)
    : log.Pairwise fun earlier later =>
        earlier.windowStart = later.windowStart
        ∨ earlier.windowStart + length ≤ later.windowStart := by
  induction granted with
  | start time => exact .nil
  | wait _ _ ih => exact ih
  | renew _ _ ih => exact ih
  | grant before _ ih =>
      refine List.pairwise_append.mpr ⟨ih, List.pairwise_singleton _ _, ?_⟩
      intro earlier member later new
      rw [List.mem_singleton.mp new]
      exact before.window_le earlier member

/-- The current window holds the grants counted in it, and no window more than the limit. -/
theorem Granted.inWindow_le (positive : 0 < length)
    (granted : Granted limit length log windowStart used clock)
    : inWindow log windowStart = used ∧ ∀ start, inWindow log start ≤ limit := by
  induction granted with
  | start time => simp [inWindow]
  | wait _ _ ih => exact ih
  | @renew log windowStart used now before expired ih =>
      refine ⟨?_, ih.2⟩
      refine List.countP_eq_zero.mpr fun grant member => ?_
      have started := before.start_le_clock
      rcases before.window_le grant member with same | earlier
      · simp only [decide_eq_true_eq]
        omega
      · simp only [decide_eq_true_eq]
        omega
  | grant before room ih =>
      obtain ⟨current, all⟩ := ih
      refine ⟨?_, fun start => ?_⟩
      · rw [inWindow_append, current, if_pos rfl]
      · rw [inWindow_append]
        split
        · rename_i same
          subst same
          omega
        · exact all start

/-- The grants within an interval, as far as the current window tells: none before the
interval, those of the current window if it started before the interval, and those of one
more window if it started within.
-/
theorem Granted.within_cases (granted : Granted limit length log windowStart used clock)
    (origin : Nat)
    : (clock < origin → within log origin length = 0)
      ∧ (windowStart < origin → within log origin length ≤ used)
      ∧ (windowStart < origin + length → within log origin length ≤ limit + used)
      ∧ within log origin length ≤ 2 * limit := by
  induction granted with
  | start time => simp [within]
  | wait _ later ih =>
      obtain ⟨none, rest⟩ := ih
      exact ⟨fun early => none (Nat.lt_of_le_of_lt later early), rest⟩
  | renew before expired ih =>
      obtain ⟨none, current, _, all⟩ := ih
      have counted := before.used_le_limit
      refine ⟨none, fun early => ?_, fun early => ?_, all⟩
      · exact Nat.le_of_eq (none early)
      · have few := current (by omega)
        omega
  | grant before room ih =>
      obtain ⟨none, current, both, all⟩ := ih
      have started := before.start_le_clock
      rw [within_append]
      split
      · rename_i inside
        refine ⟨fun early => by omega, fun early => ?_, fun early => ?_, ?_⟩
        · have few := current early
          omega
        · have few := both early
          omega
        · have few := both (by omega)
          omega
      · refine ⟨fun early => none early, fun early => ?_, fun early => ?_, all⟩
        · have few := current early
          omega
        · have few := both early
          omega

theorem Granted.within_le (granted : Granted limit length log windowStart used clock)
    (origin : Nat)
    : within log origin length ≤ 2 * limit :=
  (granted.within_cases origin).2.2.2

end StorageBallast.FixedWindows

/-! The newest matches in a sequence, sought in the whole sequence or only in a window of its
newest entries. A window that is chosen before the matches are may hold too few of them.
-/

namespace StorageBallast.FilteredWindows

variable {α β : Type*} (keep : α → Bool) (limit window : Nat) {entries : List α}

def newest (entries : List α) : List α := (entries.filter keep).take limit

def windowed (entries : List α) : List α := newest keep limit (entries.take window)

def Suffices (entries : List α) : Prop :=
  limit ≤ (entries.take window).countP keep ∨ ∀ entry ∈ entries.drop window, keep entry = false

instance (entries : List α) : Decidable (Suffices keep limit window entries) :=
  inferInstanceAs (Decidable (_ ∨ _))

variable {keep limit window}

theorem head?_newest (positive : limit ≠ 0)
    : (newest keep limit entries).head? = entries.find? keep := by
  rw [newest, List.head?_take, if_neg positive, List.head?_filter]

theorem newest_append (newer older : List α)
    : newest keep limit (newer ++ older)
      = newest keep limit newer ++ newest keep (limit - newer.countP keep) older := by
  unfold newest
  rw [List.filter_append, List.take_append, List.countP_eq_length_filter]

theorem newest_eq_nil_iff
    : newest keep limit entries = [] ↔ limit = 0 ∨ ∀ entry ∈ entries, keep entry = false := by
  simp [newest, List.take_eq_nil_iff, List.filter_eq_nil_iff]

theorem suffices_iff
    : Suffices keep limit window entries
      ↔ newest keep (limit - (entries.take window).countP keep) (entries.drop window) = [] := by
  rw [newest_eq_nil_iff, Nat.sub_eq_zero_iff_le, Suffices]

theorem newest_eq_windowed_append (window : Nat)
    : newest keep limit entries
      = windowed keep limit window entries
        ++ newest keep (limit - (entries.take window).countP keep) (entries.drop window) := by
  conv_lhs => rw [← List.take_append_drop window entries]
  exact newest_append _ _

/-- Two readers of the same sequence, one of them through a window, return the same exactly if
the window suffices and each entry in it is read alike.
-/
theorem map_newest_eq_map_windowed_iff (keep : α → Bool) (limit window : Nat)
    (entries : List α) (whole through : α → β)
    : (newest keep limit entries).map whole = (windowed keep limit window entries).map through
      ↔ Suffices keep limit window entries
        ∧ ∀ entry ∈ windowed keep limit window entries, whole entry = through entry := by
  rw [suffices_iff, newest_eq_windowed_append window, List.map_append]
  constructor
  · intro same
    have lengths := congrArg List.length same
    rw [List.length_append, List.length_map, List.length_map, List.length_map] at lengths
    have rest := List.eq_nil_of_length_eq_zero (Nat.add_eq_left.mp lengths)
    rw [rest, List.map_nil, List.append_nil] at same
    exact ⟨rest, List.map_inj_left.mp same⟩
  · rintro ⟨rest, alike⟩
    rw [rest, List.map_nil, List.append_nil]
    exact List.map_inj_left.mpr alike

/-- If the first members of a list all match, they are the first matches, by induction on the
list.
-/
theorem take_filter_of_forall {entries : List α} {limit : Nat}
    (all : ∀ entry ∈ entries.take limit, keep entry = true)
    : (entries.filter keep).take limit = entries.take limit := by
  induction entries generalizing limit with
  | nil => rfl
  | cons entry rest ih =>
      cases limit with
      | zero => rfl
      | succ limit =>
          rw [List.take_succ_cons] at all ⊢
          obtain ⟨first, later⟩ := List.forall_mem_cons.mp all
          rw [List.filter_cons_of_pos first, List.take_succ_cons, ih later]

/-- A reader through a window whose condition is too wide returns the newest matches exactly if
what it returns matches and the window suffices. What is shown of an entry tells whether it
matches.
-/
theorem map_windowed_eq_map_newest_iff {wide : α → Bool} (narrow : ∀ entry, keep entry → wide entry)
    (shown : α → β) (told : β → Bool) (tells : ∀ entry, wide entry → told (shown entry) = keep entry)
    : (windowed wide limit window entries).map shown = (newest keep limit entries).map shown
      ↔ (∀ entry ∈ windowed wide limit window entries, keep entry = true)
        ∧ Suffices keep limit window entries := by
  have isWide : ∀ entry ∈ windowed wide limit window entries, wide entry = true := fun _ member =>
    (List.mem_filter.mp (List.mem_of_mem_take member)).2
  have matching : ∀ entry ∈ newest keep limit entries, keep entry = true := fun _ member =>
    (List.mem_filter.mp (List.mem_of_mem_take member)).2
  have narrowed (all : ∀ entry ∈ windowed wide limit window entries, keep entry = true)
      : windowed keep limit window entries = windowed wide limit window entries := by
    unfold windowed newest at all ⊢
    rw [← take_filter_of_forall all, List.filter_filter]
    refine congrArg (List.take limit) (List.filter_congr fun entry _ => ?_)
    rw [Bool.eq_iff_iff, Bool.and_eq_true]
    exact ⟨fun kept => ⟨kept, narrow entry kept⟩, And.left⟩
  have whole := map_newest_eq_map_windowed_iff keep limit window entries shown shown
  constructor
  · intro same
    have all : ∀ entry ∈ windowed wide limit window entries, keep entry = true := by
      intro entry member
      have inNewest : shown entry ∈ (newest keep limit entries).map shown :=
        same ▸ List.mem_map_of_mem member
      obtain ⟨other, isNewest, alike⟩ := List.mem_map.mp inNewest
      have kept := matching other isNewest
      rw [← tells entry (isWide entry member), ← alike, tells other (narrow other kept)]
      exact kept
    rw [← narrowed all] at same
    exact ⟨all, (whole.mp same.symm).1⟩
  · rintro ⟨all, suffices_⟩
    rw [← narrowed all]
    exact (whole.mpr ⟨suffices_, fun _ _ => rfl⟩).symm

/-- Matches among the rows that some entries have, by induction on the entries. -/
theorem map_some_filter_filterMap (row : α → Option β) (keep : β → Bool) (entries : List α)
    : ((entries.filterMap row).filter keep).map some
      = (entries.filter fun entry => (row entry).any keep).map row := by
  induction entries with
  | nil => rfl
  | cons entry rest ih =>
      cases same : row entry with
      | none => simp [same, ih]
      | some value =>
          by_cases kept : keep value
          · simp [same, kept, ih]
          · simp [same, kept, ih]

variable (limit) in
theorem map_some_take_filter_filterMap (row : α → Option β) (keep : β → Bool)
    (entries : List α)
    : (((entries.filterMap row).filter keep).take limit).map some
      = (newest (fun entry => (row entry).any keep) limit entries).map row := by
  rw [List.map_take, map_some_filter_filterMap, newest, List.map_take]

/-- Where a second condition holds of the newer entries only, the first match of both is the
first match of the first one.
-/
theorem find?_of_find?_and {newer older : List α} {also : α → Bool} {found : α}
    (isNewer : ∀ entry ∈ newer, also entry) (isOlder : ∀ entry ∈ older, also entry = false)
    (both : (newer ++ older).find? (fun entry => keep entry && also entry) = some found)
    : (newer ++ older).find? keep = some found := by
  have noOlder : older.find? (fun entry => keep entry && also entry) = none := by
    refine List.find?_eq_none.mpr fun entry member => ?_
    rw [isOlder entry member, Bool.and_false]
    exact Bool.false_ne_true
  have sameNewer : newer.find? (fun entry => keep entry && also entry) = newer.find? keep :=
    List.find?_congr fun entry member => by rw [isNewer entry member, Bool.and_true]
  rw [List.find?_append, noOlder, Option.or_none, sameNewer] at both
  rw [List.find?_append, both, Option.some_or]

end StorageBallast.FilteredWindows
