import Mathlib.Data.List.Perm.Subperm
import StorageBallast.Scanner.WatchLabels

/-! The budget of watches while directories are created and removed. Nothing takes an entry out of
the backend, so each removal of a watched directory uses up a part of the budget for good.
-/

namespace StorageBallast

/-- Directories are created and removed, and drains handle one event after the other. -/
inductive ChurnStep where
  | mkdir (parent : Location) (name : FileName)
  | rmdir (path : Location)
  | handle
deriving DecidableEq, Repr

def ChurnStep.toTreeStep : ChurnStep → TreeStep
  | mkdir parent name => .mkdir parent name
  | rmdir path => .rmdir path
  | handle => .handle

namespace WatchedTree

def churn (self : WatchedTree) (input : ChurnStep) : WatchedTree := self.step input.toTreeStep

def Exact (self : WatchedTree) : Prop := ∀ id, id ∈ self.backend.watchPaths ↔ id ∈ self.live

def dirsUnderRoots (self : WatchedTree) : List (Location × WatchDescriptor) :=
  self.tree.dirs.filter fun dir => self.underRoots dir.1

def reportsBudgetExceeded (self : WatchedTree) : ChurnStep → Bool
  | .handle => self.handle.1.reasons.contains FsEventKind.watchBudgetExceeded.name
  | .mkdir .. | .rmdir .. => false

def ReportsRightly (self : WatchedTree) (input : ChurnStep) : Prop :=
  self.reportsBudgetExceeded input = true →
    self.backend.maxWatches < self.dirsUnderRoots.length

/-- No watched directory is removed, and where a directory comes in while the budget is used up,
some directory below the roots is not watched.
-/
def KeepsBudget (self : WatchedTree) : ChurnStep → Prop
  | .mkdir .. => True
  | .rmdir path => self.tree.childless path = true → self.watches path = false
  | .handle =>
      ∀ event rest, self.backend.unread = event :: rest →
        event.mask.contains .qOverflow = false →
        LinuxInotifyBackend.bringsDirectory event.mask = true →
        self.backend.maxWatches ≤ self.backend.watchPaths.size →
          ∃ dir ∈ self.dirsUnderRoots, dir.2 ∉ self.live

end WatchedTree

namespace EventInvalidation

variable {self other : EventInvalidation} {roots : List Location} {path : Location}
  {reason found : String} {generationBump : Bool}

@[simp] theorem mem_reasons_merge
    : found ∈ (self.merge other).reasons ↔ found ∈ self.reasons ∨ found ∈ other.reasons :=
  Std.TreeSet.mem_union_iff

@[simp] theorem mem_reasons_markAllRoots
    : found ∈ (self.markAllRoots roots reason generationBump).reasons
      ↔ reason = found ∨ found ∈ self.reasons := by
  simp [markAllRoots, Std.TreeSet.mem_insert]

@[simp] theorem mem_reasons_markDirtyPath
    : found ∈ (self.markDirtyPath roots path reason).reasons
      ↔ reason = found ∨ found ∈ self.reasons := by
  unfold markDirtyPath
  cases rootForPath roots path <;> simp [markDirtyRoot, Std.TreeSet.mem_insert]

end EventInvalidation

theorem DirtyRootTracker.mem_reasons_applyEvent {tracker : DirtyRootTracker} {event : FsEvent}
    {found : String}
    : found ∈ (tracker.applyEvent event).reasons ↔ event.kind.name = found := by
  obtain ⟨kind, path⟩ := event
  cases kind <;> cases path <;> simp [applyEvent, EventInvalidation.empty]

theorem addWatch_failure_ne (err : String)
    : "recursive inotify add-watch failed: " ++ err ≠ FsEventKind.watchBudgetExceeded.name := by
  intro same
  have texts := congrArg String.toList same
  rw [String.toList_append] at texts
  exact absurd (congrArg List.head? texts) (by simp [FsEventKind.name])

namespace LinuxInotifyBackend

variable {self : LinuxInotifyBackend} {world : WatchWorld} {tracker : DirtyRootTracker}
  {config : EventSourceConfig} {event : LinuxInotifyEvent}

/-- The report is made exactly where a directory comes in and the budget is used up. -/
theorem reports_iff
    : FsEventKind.watchBudgetExceeded.name
        ∈ (self.handleEvent world tracker config event).1.reasons
      ↔ event.mask.contains .qOverflow = false ∧ bringsDirectory event.mask = true
        ∧ (∃ path, self.pathForEvent event = some path)
        ∧ self.maxWatches ≤ self.watchPaths.size := by
  have plain : FsEventKind.watchBudgetExceeded.name
      ∉ (self.eventInvalidation tracker event).reasons := by
    unfold eventInvalidation
    split
    · simp [DirtyRootTracker.mem_reasons_applyEvent, FsEventKind.name]
    · rw [DirtyRootTracker.mem_reasons_applyEvent]
      dsimp only
      unfold eventKindFromInotifyMask
      split
      · simp [FsEventKind.name]
      · split
        · simp [FsEventKind.name]
        · split <;> simp [FsEventKind.name]
  unfold handleEvent
  split
  · rename_i flooded
    rw [flooded]
    simp [DirtyRootTracker.mem_reasons_applyEvent, FsEventKind.name]
  · rename_i room
    have room : event.mask.contains .qOverflow = false := by simpa using room
    rw [room]
    dsimp only
    split
    · rename_i path brings known
      rw [brings, known]
      unfold watchNewDirectory
      split
      · rename_i full
        simp [DirtyRootTracker.mem_reasons_applyEvent, full]
      · rename_i free
        cases answer : self.addWatch world path with
        | ok watching => simp [plain, free]
        | error err => simp [plain, free, addWatch_failure_ne]
    · rename_i other
      constructor
      · intro reported
        exact absurd reported plain
      · rintro ⟨_, brings, ⟨path, known⟩, _⟩
        exact absurd known (other path brings)

end LinuxInotifyBackend

namespace WatchedTree

open LinuxInotifyBackend

variable {self : WatchedTree} {path parent : Location} {childName : FileName}
  {id : WatchDescriptor} {input : ChurnStep}

/-- The entries are sound and within the budget, and each watch is on a directory below the
roots that exists.
-/
structure Standing (seen : WatchedTree) : Prop where
  sound : seen.Sound
  within : seen.backend.watchPaths.size ≤ seen.backend.maxWatches
  exist : ∀ id ∈ seen.live, ∃ path, (path, id) ∈ seen.dirsUnderRoots

theorem mem_dirsUnderRoots
    : (path, id) ∈ self.dirsUnderRoots
      ↔ (path, id) ∈ self.tree.dirs ∧ self.underRoots path = true :=
  List.mem_filter

theorem keys_nodup (backend : LinuxInotifyBackend) : backend.watchPaths.keys.Nodup := by
  refine List.Pairwise.imp ?_ backend.watchPaths.distinct_keys
  intro first second different same
  exact different (same ▸ Std.ReflCmp.compare_self)

theorem mem_keys_iff (sound : self.Sound) : id ∈ self.backend.watchPaths.keys ↔ id ∈ self.live :=
  Std.TreeMap.mem_keys.trans (sound.keys id)

/-- Where all directories below the roots are watched, there are no more than entries. -/
theorem dirs_le_size (sound : self.Sound) (all : ∀ dir ∈ self.dirsUnderRoots, dir.2 ∈ self.live)
    : self.dirsUnderRoots.length ≤ self.backend.watchPaths.size := by
  have distinct : (self.dirsUnderRoots.map Prod.snd).Nodup :=
    self.tree.ids_nodup.sublist (List.filter_sublist.map _)
  have among : self.dirsUnderRoots.map Prod.snd ⊆ self.backend.watchPaths.keys := by
    intro id member
    obtain ⟨dir, below, rfl⟩ := List.mem_map.mp member
    exact (mem_keys_iff sound).mpr (all dir below)
  have fewer := (List.Nodup.subperm distinct among).length_le
  rwa [List.length_map, Std.TreeMap.length_keys] at fewer

/-- A directory below the roots without a watch is one more than those with an entry. -/
theorem size_lt_dirs (standing : self.Standing) (member : (path, id) ∈ self.dirsUnderRoots)
    (unwatched : id ∉ self.live)
    : self.backend.watchPaths.size < self.dirsUnderRoots.length := by
  have distinct : (id :: self.backend.watchPaths.keys).Nodup :=
    List.nodup_cons.mpr
      ⟨fun entered => unwatched ((mem_keys_iff standing.sound).mp entered), keys_nodup _⟩
  have among : id :: self.backend.watchPaths.keys ⊆ self.dirsUnderRoots.map Prod.snd := by
    intro watch entered
    rcases List.mem_cons.mp entered with rfl | entered
    · exact List.mem_map_of_mem member
    · obtain ⟨path, below⟩ := standing.exist watch ((mem_keys_iff standing.sound).mp entered)
      exact List.mem_map_of_mem below
  have fewer := (List.Nodup.subperm distinct among).length_le
  rwa [List.length_cons, Std.TreeMap.length_keys, List.length_map] at fewer

theorem within_handle (within : self.backend.watchPaths.size ≤ self.backend.maxWatches)
    : self.handle.2.backend.watchPaths.size ≤ self.handle.2.backend.maxWatches := by
  cases unread : self.backend.unread with
  | nil =>
      rw [handle_nil unread]
      exact within
  | cons event rest =>
      rw [(handle_backend unread).2]
      dsimp only
      rw [maxWatches_handleEvent]
      cases asked : self.backend.newWatch self.tree.world event with
      | none =>
          rw [handleEvent_of_newWatch_none asked]
          exact within
      | some watch =>
          obtain ⟨path, _, _, room, _, entered⟩ := @handleEvent_of_newWatch self.backend
            self.tree.world self.tracker self.config event watch asked
          rw [entered]
          exact Nat.le_trans Std.TreeMap.size_insert_le room

/-- The kernel's watches after an event are those before it and the one asked for, which is for
a directory that exists, at or below one with an entry.
-/
theorem live_handle (live : id ∈ self.handle.2.live)
    : id ∈ self.live
      ∨ ∃ (path label : Location) (base : WatchDescriptor) (names : List FileName),
          (path, id) ∈ self.tree.dirs ∧ self.backend.watchPaths[base]? = some label
          ∧ path = label.descend names := by
  cases unread : self.backend.unread with
  | nil =>
      rw [handle_nil unread] at live
      exact Or.inl live
  | cons event rest =>
      rw [handle_cons unread] at live
      rcases List.mem_append.mp live with new | old
      · have asked := Option.mem_toList.mp new
        obtain ⟨path, _, known, _, answer, _⟩ := @handleEvent_of_newWatch _ self.tree.world
          self.tracker self.config event id asked
        unfold pathForEvent at known
        split at known
        · cases known
        · rename_i label entered
          cases known
          exact Or.inr ⟨_, label, _, _, DirectoryTree.addWatch_eq_ok.mp answer, entered, rfl⟩
      · exact Or.inl old

theorem Standing.handle (standing : self.Standing) : self.handle.2.Standing where
  sound := standing.sound.handle
  within := within_handle standing.within
  exist id live := by
    have frame := @handle_frame self
    have same : self.handle.2.dirsUnderRoots = self.dirsUnderRoots := by
      unfold dirsUnderRoots underRoots
      rw [frame.1, frame.2.1]
    rw [same]
    rcases live_handle live with old | ⟨path, label, base, names, here, entered, rfl⟩
    · exact standing.exist id old
    · exact ⟨_, mem_dirsUnderRoots.mpr
        ⟨here, underRoots_descend (standing.sound.rooted base label entered)⟩⟩

/-- More directories and a longer queue change nothing for the watches. -/
theorem Standing.of_changed (standing : self.Standing) {changed next : WatchedTree}
    (sound : next.Sound) (told : Told changed next) (config : changed.config = self.config)
    (live : changed.live = self.live) (backend : changed.backend = self.backend)
    (kept : ∀ path, ∀ id ∈ self.live, (path, id) ∈ self.tree.dirs → (path, id) ∈ changed.tree.dirs)
    : next.Standing where
  sound := sound
  within := by
    rw [told.watchPaths, told.maxWatches, backend]
    exact standing.within
  exist id watched := by
    rw [told.live, live] at watched
    obtain ⟨path, below⟩ := standing.exist id watched
    obtain ⟨here, below⟩ := mem_dirsUnderRoots.mp below
    refine ⟨path, mem_dirsUnderRoots.mpr ⟨?_, ?_⟩⟩
    · rw [told.tree]
      exact kept path id watched here
    · rw [underRoots, told.config, config]
      exact below

theorem Standing.mkdir (standing : self.Standing) : (self.mkdir parent childName).Standing := by
  have sound := @Sound.mkdir self parent childName standing.sound
  rcases self.mkdir_cases parent childName with same | ⟨free, id, _, told, _⟩
  · rw [same]
    exact standing
  · exact standing.of_changed sound told rfl rfl rfl fun _ _ _ here => List.mem_cons_of_mem _ here

theorem Standing.rmdir (standing : self.Standing)
    (unwatched : self.tree.childless path = true → self.watches path = false)
    : (self.rmdir path).Standing := by
  have sound := standing.sound.rmdir unwatched
  rcases self.rmdir_cases path with same | ⟨id, here, leaf⟩
  · rw [same]
    exact standing
  · obtain ⟨changed, told, result, _⟩ := rmdir_of_childless here leaf
    have live : self.live.filter (· != id) = changed.live := by
      rw [told.live]
      exact filter_live (unwatched leaf) here
    rw [result, live] at sound ⊢
    refine standing.of_changed sound told rfl rfl rfl ?_
    intro other watch watched member
    refine List.mem_filter.mpr ⟨member, ?_⟩
    have different : other ≠ path := by
      rintro rfl
      exact not_live_of_unwatched (unwatched leaf) member watched
    simpa using different

theorem Standing.churn (standing : self.Standing) (keeps : self.KeepsBudget input)
    : (self.churn input).Standing := by
  cases input with
  | mkdir parent childName => exact standing.mkdir
  | rmdir path => exact standing.rmdir keeps
  | handle => exact standing.handle

/-- The watch of a directory that is gone stays among the entries. -/
structure Leaked (id : WatchDescriptor) (seen : WatchedTree) : Prop where
  entered : id ∈ seen.backend.watchPaths
  dead : id ∉ seen.live
  gone : ∀ path, (path, id) ∉ seen.tree.dirs

theorem Leaked.handle (leaked : Leaked id self) : Leaked id self.handle.2 where
  entered := by
    cases unread : self.backend.unread with
    | nil =>
        rw [handle_nil unread]
        exact leaked.entered
    | cons event rest =>
        rw [(handle_backend unread).2]
        rcases self.backend.handleEvent_cases with same | ⟨path, watch, _, _, _, added⟩
        · rw [same]
          exact leaked.entered
        · rw [added]
          exact Std.TreeMap.mem_insert.mpr (Or.inr leaked.entered)
  dead live := by
    rcases live_handle live with old | ⟨path, _, _, _, here, _⟩
    · exact leaked.dead old
    · exact leaked.gone path here
  gone path here := by
    rw [handle_frame.2.1] at here
    exact leaked.gone path here

theorem leaked_rmdir (sound : self.Sound) (leaf : self.tree.childless path = true)
    (live : id ∈ self.live) (here : (path, id) ∈ self.tree.dirs)
    : Leaked id (self.rmdir path) := by
  obtain ⟨told, same, result, _⟩ := rmdir_of_childless here leaf
  rw [result]
  refine ⟨?_, ?_, ?_⟩
  · change id ∈ told.backend.watchPaths
    rw [same.watchPaths]
    exact (sound.keys id).mpr live
  · simp
  · intro other member
    change (other, id) ∈ told.tree.dirs at member
    rw [same.tree] at member
    obtain ⟨old, different⟩ := List.mem_filter.mp member
    rw [DirectoryTree.id_unique old here] at different
    simp at different

/-- Before a step that does not keep the budget, or after it, something is wrong. -/
theorem keepsBudget_of (standing : self.Standing) (matched : (self.churn input).drain.2.Exact)
    (reports : self.ReportsRightly input)
    : self.KeepsBudget input := by
  cases input with
  | mkdir => trivial
  | rmdir path =>
      intro leaf
      by_contra watched
      have watched : self.watches path = true := by simpa using watched
      obtain ⟨id, live, here⟩ := watches_iff.mp watched
      have leaked := drain_kept (fun _ => Leaked.handle) (leaked_rmdir standing.sound leaf live here)
      exact leaked.dead ((matched id).mp leaked.entered)
  | handle =>
      intro event rest unread room brings full
      by_contra none
      have all : ∀ dir ∈ self.dirsUnderRoots, dir.2 ∈ self.live := by
        intro dir member
        by_contra unwatched
        exact none ⟨dir, member, unwatched⟩
      have reported : self.reportsBudgetExceeded .handle = true := by
        have known : event.watch ∈ self.backend.watchPaths :=
          (standing.sound.keys _).mpr (standing.sound.known event (unread ▸ List.mem_cons_self))
        refine Std.TreeSet.contains_iff_mem.mpr ?_
        rw [(handle_backend unread).1, reports_iff]
        exact ⟨room, brings, exists_pathForEvent known, full⟩
      exact absurd (reports reported)
        (Nat.not_lt_of_le (Nat.le_trans (dirs_le_size standing.sound all) standing.within))

theorem reportsRightly_of (standing : self.Standing) (keeps : self.KeepsBudget input)
    : self.ReportsRightly input := by
  cases input with
  | mkdir => exact nofun
  | rmdir => exact nofun
  | handle =>
      intro reported
      have report := Std.TreeSet.contains_iff_mem.mp reported
      cases unread : self.backend.unread with
      | nil =>
          rw [handle_nil unread] at report
          simp [EventInvalidation.empty] at report
      | cons event rest =>
          rw [(handle_backend unread).1, reports_iff] at report
          obtain ⟨room, brings, _, full⟩ := report
          obtain ⟨dir, member, unwatched⟩ := keeps event rest unread room brings full
          exact Nat.lt_of_le_of_lt full (size_lt_dirs standing member unwatched)

end WatchedTree

theorem WatchStart.standing (self : WatchStart) : self.watching.Standing where
  sound := self.sound
  within := by
    obtain ⟨_, fewer, same⟩ := LinuxInotifyBackend.start_entries self.started
    change self.backend.watchPaths.size ≤ self.backend.maxWatches
    rw [same]
    exact Nat.le_trans fewer EventSourcePlan.watchedDirs_fits.within
  exist id live := by
    obtain ⟨path, label⟩ := label_of_live live
    exact ⟨path, WatchedTree.mem_dirsUnderRoots.mpr (mem_dirs label)⟩

open WatchedTree in
/-- In a run every drain leaves one entry per watch and every report is true exactly if each step
keeps the budget.
-/
theorem budgetAccounted_iff (start : WatchStart) (inputs : List ChurnStep)
    : (∀ tree ∈ Runs.states churn start.watching inputs, tree.drain.2.Exact)
        ∧ Runs.Guarded churn ReportsRightly start.watching inputs
      ↔ Runs.Guarded churn KeepsBudget start.watching inputs := by
  have kept : ∀ tree input, Standing tree → KeepsBudget tree input →
      Standing (tree.churn input) := fun _ _ standing keeps => standing.churn keeps
  constructor
  · rintro ⟨matched, rightly⟩
    have each : Runs.Guarded churn
        (fun tree input => (tree.churn input).drain.2.Exact ∧ tree.ReportsRightly input)
        start.watching inputs := by
      refine Runs.guarded_iff_steps.mpr ?_
      intro taken member
      exact ⟨matched _ (Runs.step_mem_states member).2,
        Runs.guarded_iff_steps.mp rightly taken member⟩
    have sharp : ∀ tree input, Standing tree →
        (tree.churn input).drain.2.Exact ∧ tree.ReportsRightly input → KeepsBudget tree input :=
      fun _ _ standing known => keepsBudget_of standing known.1 known.2
    exact Runs.guarded_of_each sharp kept start.standing each
  · intro keeps
    have standing := Runs.invariant_of_guarded kept start.standing keeps
    constructor
    · intro tree member
      have sound : Sound tree.drain.2 :=
        drain_kept (fun _ => Sound.handle) (standing tree member).sound
      exact sound.keys
    · refine Runs.guarded_iff_steps.mpr ?_
      intro taken member
      exact reportsRightly_of (standing _ (Runs.step_mem_states member).1)
        (Runs.guarded_iff_steps.mp keeps taken member)

def churnedRoot : Location := ⟨[⟨"data", .refl true⟩]⟩

def firstName : FileName := ⟨"first", by decide⟩

def secondName : FileName := ⟨"second", by decide⟩

def churnedStart : WatchStart where
  config := ⟨[churnedRoot], .auto, 2⟩
  tree := ⟨[(churnedRoot, 0)], 1, by decide, by decide, by decide⟩
  backend := ⟨[], (∅ : Std.TreeMap WatchDescriptor Location).insert 0 churnedRoot, 2⟩
  started := by rfl

def churnedInputs : List ChurnStep :=
  [.mkdir churnedRoot firstName, .handle, .rmdir (churnedRoot.descend [firstName]),
    .handle, .handle, .handle, .mkdir churnedRoot secondName, .handle]

open WatchedTree in
/-- The removed directory keeps its entry, and two directories exceed a budget of two. -/
theorem removed_directory_counted
    : ¬ (∀ tree ∈ Runs.states churn churnedStart.watching churnedInputs, tree.drain.2.Exact)
      ∧ ¬ Runs.Guarded churn ReportsRightly churnedStart.watching churnedInputs := by
  constructor
  · intro matched
    have last := matched _ (Runs.final_mem_states _ _) 1
    revert last
    decide
  · intro rightly
    have last := rightly.2.2.2.2.2.2.2.1
    refine absurd (last ?_) (by decide)
    refine Std.TreeSet.contains_iff_mem.mpr ?_
    rw [(handle_backend rfl).1, LinuxInotifyBackend.reports_iff]
    exact ⟨by decide, by decide, ⟨_, rfl⟩, by decide⟩

end StorageBallast
