import StorageBallast.Scanner.MerkleMaintenance

/-! What a run of diffs reports when their budgets are short. What has been deferred keeps its
old snapshot, so that it differs again in the next diff.
-/

namespace StorageBallast

open Runs

/-- The entries of a walk, and the budget they are compared with. -/
structure DiffCall (F : Type) where
  entries : List (WalkEntry F)
  budget : ScanBudget

namespace DiffCall

variable {F : Type} (call : DiffCall F)

def paths : List PathKey := (call.entries.map (·.key)).dedup

def seen (path : PathKey) : Option EntrySnapshot :=
  (call.entries.reverse.find? fun entry => entry.key = path).map .fromWalkEntry

def fresh : Snapshots := Snapshots.insertEntries ∅ call.entries

theorem mem_paths {call : DiffCall F} {path : PathKey}
    : path ∈ call.paths ↔ path ∈ call.entries.map (·.key) :=
  List.mem_dedup

theorem getElem?_insertEntries (entries : List (WalkEntry F)) (snapshots : Snapshots)
    (path : PathKey)
    : (snapshots.insertEntries entries)[path]?
      = ((entries.reverse.find? fun entry => entry.key = path).map .fromWalkEntry).or
          snapshots[path]? := by
  induction entries generalizing snapshots with
  | nil => rfl
  | cons first rest ih =>
      change (Snapshots.insertEntries (snapshots.insert first.key (.fromWalkEntry first)) rest)[_]?
        = _
      rw [ih, List.reverse_cons, List.find?_append, Snapshots.getElem?_insert_key]
      cases rest.reverse.find? fun entry => entry.key = path with
      | some entry => rfl
      | none => by_cases here : first.key = path <;> simp [here]

theorem fresh_getElem? (path : PathKey) : call.fresh[path]? = call.seen path := by
  rw [fresh, getElem?_insertEntries]
  simp [seen]

theorem seen_isSome {call : DiffCall F} {path : PathKey}
    : (call.seen path).isSome ↔ path ∈ call.paths := by
  rw [mem_paths, seen, Option.isSome_map, List.find?_isSome]
  simp

theorem mem_fresh_toList {call : DiffCall F} {path : PathKey} {snapshot : EntrySnapshot}
    : (path, snapshot) ∈ call.fresh.toList ↔ call.seen path = some snapshot := by
  rw [Std.TreeMap.mem_toList_iff_getElem?_eq_some, fresh_getElem?]

theorem fresh_nodup : (call.fresh.toList.map Prod.fst).Nodup := by
  rw [Std.TreeMap.map_fst_toList_eq_keys]
  exact Std.TreeMap.nodup_keys

theorem fresh_perm : (call.fresh.toList.map Prod.fst).Perm call.paths := by
  refine (List.perm_ext_iff_of_nodup call.fresh_nodup (List.nodup_dedup _)).mpr fun path => ?_
  change _ ↔ path ∈ call.paths
  rw [← seen_isSome, Option.isSome_iff_exists, List.mem_map]
  constructor
  · rintro ⟨⟨_, snapshot⟩, member, rfl⟩
    exact ⟨snapshot, mem_fresh_toList.mp member⟩
  · rintro ⟨snapshot, seen⟩
    exact ⟨(path, snapshot), mem_fresh_toList.mpr seen, rfl⟩

end DiffCall

def IncrementalDiff.listed (found : IncrementalDiff) : List PathKey :=
  found.changedPaths ++ found.newPaths ++ found.deferredPaths

structure Reporting (Hash : Type) where
  index : MerkleScanIndex Hash
  reported : PathKey → Option EntrySnapshot

namespace Reporting

open MerkleScanIndex

variable {F Hash : Type}

def start (index : MerkleScanIndex Hash) : Reporting Hash where
  index
  reported path := index.snapshots[path]?

def differing (self : Reporting Hash) (call : DiffCall F) : List PathKey :=
  call.paths.filter fun path => call.seen path ≠ self.reported path

def Suffices (self : Reporting Hash) (call : DiffCall F) : Prop :=
  (self.differing call).length ≤ call.budget.remaining

/-- Each path of the walk is in one place, and what is tracked but absent is removed. -/
structure Accounted (before : Reporting Hash) (call : DiffCall F) (found : IncrementalDiff)
    : Prop where
  distinct : found.listed.Nodup
  fresh : ∀ path ∈ found.listed, path ∈ call.paths
  counted : found.unchangedCount + found.listed.length = call.paths.length
  changed : ∀ path ∈ found.changedPaths, path ∈ before.index.trackedPaths
  new : ∀ path ∈ found.newPaths, path ∉ before.index.trackedPaths
  removed : ∀ path, path ∈ found.removedPaths
    ↔ path ∈ before.index.trackedPaths ∧ path ∉ call.paths
  once : found.removedPaths.Nodup
  health : found.health = if found.deferredPaths = [] then .healthy else .degraded

/-- What differs is reported or deferred, and nothing is deferred when the budget suffices. -/
structure Noticed (before : Reporting Hash) (call : DiffCall F) (found : IncrementalDiff)
    : Prop where
  listed : ∀ path, path ∈ found.listed ↔ path ∈ before.differing call
  inTime : before.Suffices call → found.deferredPaths = []

/-- The index tells what has been reported. -/
structure Faithful (seen : Reporting Hash) : Prop where
  usable : ¬ (seen.index.health = .corrupt ∨ seen.index.health = .uninitialized)
  reported : ∀ path, seen.index.snapshots[path]? = seen.reported path

variable {path : PathKey}

theorem mem_differing {self : Reporting Hash} {call : DiffCall F}
    : path ∈ self.differing call ↔ path ∈ call.paths ∧ call.seen path ≠ self.reported path :=
  List.mem_filter.trans (and_congr_right fun _ => decide_eq_true_iff)

theorem nodup_differing (self : Reporting Hash) (call : DiffCall F)
    : (self.differing call).Nodup :=
  (List.nodup_dedup _).filter _

theorem mem_trackedPaths {index : MerkleScanIndex Hash}
    : path ∈ index.trackedPaths ↔ (index.snapshots[path]?).isSome :=
  Snapshots.mem_keys_iff _ _

variable [DecidableEq Hash] (hasher : MerkleHasher Hash)

def answer (self : Reporting Hash) (call : DiffCall F) : IncrementalDiff :=
  (self.index.diff hasher call.entries call.budget).2

/-- A path that is changed or new is reported as the walk has seen it. -/
def step (self : Reporting Hash) (call : DiffCall F) : Reporting Hash where
  index := (self.index.diff hasher call.entries call.budget).1
  reported path :=
    if path ∈ (self.answer hasher call).removedPaths then none
    else if path ∈ (self.answer hasher call).changedPaths ++ (self.answer hasher call).newPaths then
      call.seen path
    else self.reported path

variable {hasher} {self : Reporting Hash} {call : DiffCall F}

/-- The budget only divides what needs an update, so that nothing of it is lost. -/
theorem listed_perm {index : MerkleScanIndex Hash} {list : List (PathKey × EntrySnapshot)}
    {room : Nat} {before after : IncrementalDiff} (none : before.listed = [])
    (sifted : Sifted hasher index list room before after)
    : after.listed.Perm ((list.filter (needsUpdate hasher index)).map Prod.fst) := by
  obtain ⟨noneListed, noneDeferred⟩ := List.append_eq_nil_iff.mp none
  obtain ⟨noneChanged, noneNew⟩ := List.append_eq_nil_iff.mp noneListed
  obtain ⟨needed, isNeeded⟩
      : ∃ needed, needed = list.filter (needsUpdate hasher index) := ⟨_, rfl⟩
  have new : (needed.take room).filter index.isNew
      = (needed.take room).filter fun fresh => !isChanged hasher index fresh := by
    refine List.filter_congr fun fresh member => isNew_eq_not_isChanged ?_
    exact (List.mem_filter.mp (isNeeded ▸ List.mem_of_mem_take member)).2
  have taken : ((needed.take room).filter (isChanged hasher index)
      ++ (needed.take room).filter index.isNew).Perm (needed.take room) := by
    rw [new]
    exact List.filter_append_perm _ _
  unfold IncrementalDiff.listed
  rw [sifted.changed, sifted.new, sifted.deferred, noneChanged, noneNew, noneDeferred, ← isNeeded,
    List.nil_append, List.nil_append, List.nil_append, ← List.map_append, ← List.map_append]
  calc (((needed.take room).filter (isChanged hasher index)
          ++ (needed.take room).filter index.isNew) ++ needed.drop room).map Prod.fst
      |>.Perm ((needed.take room ++ needed.drop room).map Prod.fst) :=
        (taken.append_right _).map _
    _ = needed.map Prod.fst := by rw [List.take_append_drop]

/-- What a usable index answers, and what it remembers then. -/
theorem answer_sifted
    (usable : ¬ (self.index.health = .corrupt ∨ self.index.health = .uninitialized))
    : ∃ found, Sifted hasher self.index call.fresh.toList call.budget.remaining
          ⟨[], 0, [], [], false, [], self.index.health⟩ found
        ∧ self.answer hasher call
          = { found with
              removedPaths := self.index.snapshots.keys.filter fun path => !call.fresh.contains path
              health := if found.budgetExhausted then .degraded else .healthy }
        ∧ (self.step hasher call).index.health = (self.answer hasher call).health
        ∧ ∀ path, (self.step hasher call).index.snapshots[path]?
          = if path ∈ (self.answer hasher call).removedPaths then none
            else if path ∈ found.changedPaths ++ found.newPaths ∧ (call.seen path).isSome then
              call.seen path
            else self.index.snapshots[path]? := by
  have shape := @diff_eq F Hash hasher _ self.index usable call.entries call.budget
  refine ⟨_, compareEntries_sifted hasher self.index _ _ _, ?_, ?_, ?_⟩
  · rw [answer, shape]
    rfl
  · rw [step, answer, shape]
  · intro path
    have erased := Snapshots.getElem?_foldl_erase
      (self.index.snapshots.keys.filter fun path => !call.fresh.contains path)
    have taken := getElem?_taken (Snapshots.insertEntries ∅ call.entries)
    rw [step, answer, shape]
    refine (erased _ _).trans ?_
    rw [taken, ← DiffCall.fresh, call.fresh_getElem?]

theorem mem_filtered {test : PathKey × EntrySnapshot → Bool}
    : path ∈ (call.fresh.toList.filter test).map Prod.fst
      ↔ ∃ snapshot, call.seen path = some snapshot ∧ test (path, snapshot) = true := by
  constructor
  · intro listed
    obtain ⟨⟨found, snapshot⟩, member, rfl⟩ := List.mem_map.mp listed
    obtain ⟨stored, passes⟩ := List.mem_filter.mp member
    exact ⟨snapshot, DiffCall.mem_fresh_toList.mp stored, passes⟩
  · intro ⟨snapshot, seen, passes⟩
    have stored := DiffCall.mem_fresh_toList.mpr seen
    exact List.mem_map.mpr ⟨(path, snapshot), List.mem_filter.mpr ⟨stored, passes⟩, rfl⟩

theorem answer_accounted
    (usable : ¬ (self.index.health = .corrupt ∨ self.index.health = .uninitialized))
    : Accounted self call (self.answer hasher call) := by
  obtain ⟨found, sifted, answered, -, -⟩ := @answer_sifted F Hash _ hasher self call usable
  have perm := listed_perm rfl sifted
  have listed : (self.answer hasher call).listed = found.listed := by
    rw [answered]
    rfl
  have inside : ∀ {test : PathKey × EntrySnapshot → Bool} {path : PathKey},
      path ∈ (((call.fresh.toList.filter (needsUpdate hasher self.index)).take
          call.budget.remaining).filter test).map Prod.fst →
        ∃ snapshot, test (path, snapshot) = true := by
    intro test path member
    obtain ⟨⟨path, snapshot⟩, among, rfl⟩ := List.mem_map.mp member
    exact ⟨snapshot, (List.mem_filter.mp among).2⟩
  refine ⟨?_, ?_, ?_, ?_, ?_, ?_, ?_, ?_⟩
  · rw [listed]
    refine perm.nodup_iff.mpr ?_
    exact call.fresh_nodup.sublist (List.filter_sublist.map _)
  · intro path member
    rw [listed, perm.mem_iff, mem_filtered] at member
    obtain ⟨snapshot, seen, _⟩ := member
    exact DiffCall.seen_isSome.mp (by rw [seen]; rfl)
  · have unchanged := sifted.unchanged
    have paths := call.fresh_perm.length_eq
    have lists := perm.length_eq
    rw [List.length_map] at paths lists
    rw [listed, answered]
    dsimp only at unchanged ⊢
    omega
  · intro path member
    rw [answered] at member
    dsimp only at member
    rw [sifted.changed, List.nil_append] at member
    obtain ⟨snapshot, changed⟩ := inside member
    rw [mem_trackedPaths]
    exact Option.isSome_of_any changed
  · intro path member tracked
    rw [answered] at member
    dsimp only at member
    rw [sifted.new, List.nil_append] at member
    obtain ⟨snapshot, new⟩ := inside member
    rw [mem_trackedPaths] at tracked
    unfold isNew at new
    rw [Option.isNone_iff_eq_none.mp new] at tracked
    cases tracked
  · intro path
    rw [answered, ← DiffCall.seen_isSome, ← DiffCall.fresh_getElem?, List.mem_filter,
      Std.TreeMap.isSome_getElem?_eq_contains, Bool.not_eq_true, Bool.not_eq_true']
    rfl
  · rw [answered]
    exact Std.TreeMap.nodup_keys.filter _
  · rw [answered]
    dsimp only
    rw [sifted.exhausted, sifted.deferred]
    simp only [List.nil_append, Bool.false_or, List.map_eq_nil_iff, Bool.not_eq_true',
      List.isEmpty_eq_false_iff]
    split <;> simp_all

/-- Without collisions the paths that need an update are those that differ. -/
theorem needsUpdate_iff (injective : Function.Injective hasher.metadataHash)
    (faithful : self.Faithful) {snapshot : EntrySnapshot}
    : needsUpdate hasher self.index (path, snapshot) = true
      ↔ some snapshot ≠ self.reported path := by
  rw [← faithful.reported path, needsUpdate, isNew, isChanged]
  cases self.index.snapshots[path]? with
  | none => simp
  | some old =>
      simp only [Option.isNone_some, Option.any_some, Bool.false_or, decide_eq_true_eq, ne_eq,
        injective.eq_iff, Option.some.injEq]
      exact not_congr eq_comm

theorem needed_perm (injective : Function.Injective hasher.metadataHash)
    (faithful : self.Faithful)
    : ((call.fresh.toList.filter (needsUpdate hasher self.index)).map Prod.fst).Perm
        (self.differing call) := by
  have once := call.fresh_nodup.sublist
    ((List.filter_sublist (p := needsUpdate hasher self.index)).map Prod.fst)
  refine (List.perm_ext_iff_of_nodup once (self.nodup_differing call)).mpr fun path => ?_
  rw [mem_filtered, mem_differing, ← DiffCall.seen_isSome]
  constructor
  · intro ⟨snapshot, seen, needed⟩
    rw [seen]
    exact ⟨rfl, (needsUpdate_iff injective faithful).mp needed⟩
  · intro ⟨isSome, differs⟩
    obtain ⟨snapshot, seen⟩ := Option.isSome_iff_exists.mp isSome
    rw [seen] at differs
    exact ⟨snapshot, seen, (needsUpdate_iff injective faithful).mpr differs⟩

theorem answer_noticed (injective : Function.Injective hasher.metadataHash)
    (faithful : self.Faithful) : Noticed self call (self.answer hasher call) := by
  obtain ⟨found, sifted, answered, -, -⟩ :=
    @answer_sifted F Hash _ hasher self call faithful.usable
  have needed := @needed_perm F Hash _ hasher self call injective faithful
  constructor
  · intro path
    rw [← needed.mem_iff, ← (listed_perm rfl sifted).mem_iff, answered]
    rfl
  · intro enough
    have few := needed.length_eq
    rw [List.length_map] at few
    rw [answered]
    dsimp only
    rw [sifted.deferred, List.drop_eq_nil_of_le (few.trans_le enough)]
    rfl

theorem Faithful.step (faithful : self.Faithful) : (self.step hasher call).Faithful := by
  obtain ⟨found, -, answered, health, snapshots⟩ :=
    @answer_sifted F Hash _ hasher self call faithful.usable
  have accounted := @answer_accounted F Hash _ hasher self call faithful.usable
  constructor
  · rw [health, accounted.health]
    split <;> simp
  · intro path
    have lists : (self.answer hasher call).changedPaths ++ (self.answer hasher call).newPaths
        = found.changedPaths ++ found.newPaths := by rw [answered]
    rw [snapshots, Reporting.step]
    dsimp only
    rw [lists, faithful.reported]
    by_cases removed : path ∈ (self.answer hasher call).removedPaths
    · rw [if_pos removed, if_pos removed]
    rw [if_neg removed, if_neg removed]
    by_cases reported : path ∈ found.changedPaths ++ found.newPaths
    · have member : path ∈ (self.answer hasher call).listed :=
        List.mem_append_left _ (lists ▸ reported)
      have seen := DiffCall.seen_isSome.mpr (accounted.fresh path member)
      rw [if_pos reported, if_pos ⟨reported, seen⟩]
    · have outside : ¬ (path ∈ found.changedPaths ++ found.newPaths
          ∧ (call.seen path).isSome = true) := fun both => reported both.1
      rw [if_neg reported, if_neg outside]

variable {path : PathKey} {index : MerkleScanIndex Hash}

/-- A path is deferred for some calls and then reported. -/
def Delayed (hasher : MerkleHasher Hash) (path : PathKey)
    : Reporting Hash → List (DiffCall F) → Prop
  | _, [] => False
  | self, call :: rest =>
      path ∈ (self.answer hasher call).changedPaths ++ (self.answer hasher call).newPaths
      ∨ path ∈ (self.answer hasher call).deferredPaths
        ∧ Delayed hasher path (self.step hasher call) rest

/-- What stays different is reported by the time a budget suffices, by induction on the calls
before that.
-/
theorem delayed_of_differs (injective : Function.Injective hasher.metadataHash)
    (faithful : self.Faithful) {waiting : List (DiffCall F)}
    (differs : ∀ later ∈ waiting ++ [call],
      path ∈ later.paths ∧ later.seen path ≠ self.reported path)
    (enough : (final (step hasher) self waiting).Suffices call)
    : Delayed hasher path self (waiting ++ [call]) := by
  induction waiting generalizing self with
  | nil =>
      have noticed := @answer_noticed F Hash _ hasher self call injective faithful
      have member := (noticed.listed path).mpr (mem_differing.mpr (differs call (by simp)))
      rw [IncrementalDiff.listed, noticed.inTime enough, List.append_nil] at member
      exact Or.inl member
  | cons first rest ih =>
      have noticed := @answer_noticed F Hash _ hasher self first injective faithful
      have accounted := @answer_accounted F Hash _ hasher self first faithful.usable
      have here := differs first (by simp)
      have member := (noticed.listed path).mpr (mem_differing.mpr here)
      by_cases reported : path ∈ (self.answer hasher first).changedPaths
          ++ (self.answer hasher first).newPaths
      · exact Or.inl reported
      · have deferred := (List.mem_append.mp member).resolve_left reported
        have present : path ∉ (self.answer hasher first).removedPaths :=
          fun removed => ((accounted.removed path).mp removed).2 here.1
        have kept : (self.step hasher first).reported path = self.reported path := by
          rw [step]
          dsimp only
          rw [if_neg present, if_neg reported]
        refine Or.inr ⟨deferred, ih faithful.step ?_ enough⟩
        intro later member
        rw [kept]
        exact differs later (List.mem_cons_of_mem _ member)

theorem faithful_of_run (faithful : self.Faithful) (calls : List (DiffCall F))
    : (final (step hasher) self calls).Faithful :=
  invariant_of_kept (fun _ _ => Faithful.step) faithful _ (final_mem_states _ _)

/-- No change is lost in a run of diffs. -/
structure LosesNothing (hasher : MerkleHasher Hash) (index : MerkleScanIndex Hash)
    (calls : List (DiffCall F)) : Prop where
  accounted : ∀ taken ∈ steps (step hasher) (start index) calls,
    Accounted taken.1 taken.2 (taken.1.answer hasher taken.2)
  health : ∀ taken ∈ steps (step hasher) (start index) calls,
    (taken.1.step hasher taken.2).index.health = (taken.1.answer hasher taken.2).health
  noticed : ∀ taken ∈ steps (step hasher) (start index) calls,
    Noticed taken.1 taken.2 (taken.1.answer hasher taken.2)
  /-- What differs from its last report until a budget suffices is reported by then, and
  deferred before.
  -/
  inTime : ∀ past waiting call path, calls = past ++ (waiting ++ [call]) →
    (∀ later ∈ waiting ++ [call], path ∈ later.paths
      ∧ later.seen path ≠ (final (step hasher) (start index) past).reported path) →
    (final (step hasher) (start index) (past ++ waiting)).Suffices call →
      Delayed hasher path (final (step hasher) (start index) past) (waiting ++ [call])

/-- Whatever the budgets are, a run of diffs on a healthy index loses no change. -/
theorem diffs_lose_nothing (injective : Function.Injective hasher.metadataHash)
    (healthy : index.health = .healthy) (calls : List (DiffCall F))
    : LosesNothing hasher index calls := by
  have begun : (start index).Faithful := ⟨by simp [start, healthy], fun _ => rfl⟩
  have each : ∀ taken ∈ steps (step hasher) (start index) calls, taken.1.Faithful := by
    intro taken member
    obtain ⟨past, _, _, reached⟩ := mem_steps_iff.mp member
    exact reached ▸ faithful_of_run begun past
  refine ⟨?_, ?_, ?_, ?_⟩
  · intro taken member
    exact answer_accounted (each taken member).usable
  · intro taken member
    obtain ⟨_, _, _, health, _⟩ := @answer_sifted F Hash _ hasher taken.1 taken.2
      (each taken member).usable
    exact health
  · intro taken member
    exact answer_noticed injective (each taken member)
  · intro past waiting call path _ differs enough
    rw [final_append] at enough
    exact delayed_of_differs injective (faithful_of_run begun past) differs enough

/-- A change that waits for a second diff. -/
theorem change_delayed
    : LosesNothing plainHasher
          (buildFromEntries plainHasher (nestedEntries 1) MerkleScanIndex.nestedRoots)
          [(⟨nestedEntries 2, .new 0⟩ : DiffCall ℚ), ⟨nestedEntries 2, .new 1⟩]
        ∧ Delayed plainHasher [.rootDir, .normal "data", .normal "a", .normal "b", .normal "c"]
          (start (buildFromEntries plainHasher (nestedEntries 1) MerkleScanIndex.nestedRoots))
          [(⟨nestedEntries 2, .new 0⟩ : DiffCall ℚ), ⟨nestedEntries 2, .new 1⟩] := by
  refine ⟨diffs_lose_nothing plainHasher_metadata_injective rfl _, .inr ⟨by decide, .inl ?_⟩⟩
  decide

end Reporting

end StorageBallast
