import StorageBallast.Daemon.EventDrivenScan
import StorageBallast.Foundations.Runs
import StorageBallast.Scanner.WatchPlans

/-! When the event-driven scan loses no change. Marks are taken at the start of a pass and kept
nowhere else, so what they stand for is lost with a pass that is cut short, with a source that
is replaced, and where the kernel has nothing to report to.
-/

namespace StorageBallast

open Runs

namespace ScannerEventSource

variable {self : ScannerEventSource} {event : LinuxInotifyEvent} {change : EntryChange}
  {notice : KernelNotice} {root : Location}

def Reports (self : ScannerEventSource) (change : EntryChange) (root : Location) : Prop :=
  ∃ backend, self.backend = .recursiveInotify backend
    ∧ ∃ path, backend.pathForEvent change.event = some path
      ∧ DirtiedBy self.tracker.roots path root

def Hears (before after : ScannerEventSource) : Prop :=
  after = before
    ∨ ∃ event, after = before.hear event
      ∧ (LinuxInotifyBackend.bringsDirectory event.mask = true → before.watches event.watch = true)

theorem hears_observe (self : ScannerEventSource) (change : EntryChange)
    : self.Hears (self.observe change) := by
  by_cases watched : self.watches change.descriptor = true
  · exact Or.inr ⟨change.event, if_pos watched, fun _ => watched⟩
  · exact Or.inl (if_neg watched)

theorem hears_notify (self : ScannerEventSource) (notice : KernelNotice)
    : self.Hears (self.notify notice) := by
  cases notice with
  | overflow => exact Or.inr ⟨_, rfl, fun brings => absurd brings (by decide)⟩
  | watchedDir watch flag ofDirectory =>
      by_cases watched : self.watches watch = true
      · exact Or.inr ⟨⟨watch, [flag], none⟩, if_pos watched, fun _ => watched⟩
      · exact Or.inl (if_neg watched)

theorem hear_recursiveInotify {backend : LinuxInotifyBackend}
    (isBackend : self.backend = .recursiveInotify backend)
    : (self.hear event).backend
      = .recursiveInotify { backend with unread := backend.unread ++ [event] } := by
  rw [hear, isBackend]

theorem hear_config : (self.hear event).config = self.config := by
  unfold hear
  split <;> rfl

variable {after : ScannerEventSource}

theorem Hears.config (hears : self.Hears after)
    : after.config = self.config := by
  rcases hears with rfl | ⟨event, rfl, _⟩
  · rfl
  · exact hear_config

theorem hear_announces {backend : LinuxInotifyBackend}
    (isBackend : self.backend = .recursiveInotify backend) {found : LinuxInotifyEvent}
    (heard : found ∈ backend.unread ++ [event]) (announces : backend.Announces self.tracker found root)
    : (self.hear event).Announced root := by
  have same : (self.hear event).tracker = self.tracker := by rw [tracker, tracker, hear_config]
  refine ⟨_, hear_recursiveInotify isBackend, found, heard, ?_⟩
  rw [same]
  exact announces

theorem Announced.of_hears (announced : self.Announced root) (hears : self.Hears after)
    : after.Announced root := by
  rcases hears with rfl | ⟨event, rfl, _⟩
  · exact announced
  · obtain ⟨backend, isBackend, found, unread, announces⟩ := announced
    exact hear_announces isBackend (List.mem_append_left _ unread) announces

theorem Known.of_hears (known : self.Known) (hears : self.Hears after)
    : after.Known := by
  rcases hears with rfl | ⟨event, rfl, watched⟩
  · exact known
  · intro backend isBackend
    cases before : self.backend with
    | reconciliationOnly =>
        rw [hear, before] at isBackend
        cases before.symm.trans isBackend
    | recursiveInotify earlier =>
        rw [hear_recursiveInotify before] at isBackend
        cases isBackend
        intro heard unread brings
        rcases List.mem_append.mp unread with old | new
        · exact known earlier before heard old brings
        · cases List.mem_singleton.mp new
          have watched := watched brings
          rw [watches, before] at watched
          exact watched

theorem Reports.announced (reports : self.Reports change root)
    : (self.observe change).Announced root := by
  obtain ⟨backend, isBackend, path, known, dirty⟩ := reports
  have watched : self.watches change.descriptor = true := by
    rw [watches, isBackend]
    rw [LinuxInotifyBackend.pathForEvent] at known
    cases label : backend.watchPaths[change.event.watch]? with
    | none =>
        rw [label] at known
        cases known
    | some base =>
        apply Std.TreeMap.mem_iff_isSome_getElem?.mpr
        exact Option.isSome_iff_exists.mpr ⟨base, label⟩
  rw [observe, if_pos watched]
  have heard : change.event ∈ backend.unread ++ [change.event] :=
    List.mem_append_right _ (List.mem_singleton_self _)
  exact hear_announces isBackend heard (Or.inr ⟨path, known, dirty⟩)

end ScannerEventSource

def RequestedPass.followsMarks (self : RequestedPass) : Bool :=
  self.indexEnabled && !self.request.forceFullScan && !self.request.pressureLevel.atLeast .orange

theorem mem_v2ActiveScanPaths {request : RootScanRequest} {dirtyRoots : PathSet}
    {root : Location} (requested : root ∈ request.paths)
    (dirty : request.forceFullScan = false → request.pressureLevel.atLeast .orange = false →
      root ∈ dirtyRoots)
    : root ∈ (v2ActiveScanPaths request dirtyRoots).getD request.paths := by
  unfold v2ActiveScanPaths
  cases forced : request.forceFullScan with
  | true => exact requested
  | false =>
      have some_of_dirty (dirty : root ∈ dirtyRoots)
          : root ∈ (if dirtyRoots.isEmpty then some [] else some dirtyRoots.toList).getD
              request.paths := by
        rw [if_neg fun empty => Std.TreeSet.not_mem_of_isEmpty empty dirty]
        exact Std.TreeSet.mem_toList.mpr dirty
      have dirty := dirty forced
      cases level : request.pressureLevel <;> rw [level] at dirty
      · exact some_of_dirty (dirty rfl)
      · exact some_of_dirty (dirty rfl)
      all_goals exact requested

namespace EventDrivenScan

variable {self : EventDrivenScan} {pass : RequestedPass} {input : ScanInput} {root : Location}

def Current (self : EventDrivenScan) (pass : RequestedPass) : Prop :=
  ∀ root ∈ pass.request.paths, root ∈ self.upToDate

def Continues (self : EventDrivenScan) (pass : RequestedPass) (source : ScannerEventSource) : Prop :=
  self.eventSource = some source ∧ source.config = pass.eventConfig

/-- What a pass has to meet while a requested root is not up to date: a source started for
marks finds that it cannot watch everything, one that goes on knows where its directories are,
and the walk comes to its end.
-/
structure PassKeeps (scan : EventDrivenScan) (pass : RequestedPass) : Prop where
  started : pass.followsMarks = true → (¬ ∃ source, scan.Continues pass source) →
    ScannerEventSource.StartsDirty pass.world pass.eventConfig
  continued : pass.followsMarks = true → ∀ source, scan.Continues pass source →
    source.Steady pass.world
  walked : pass.walksToCompletion = true

/-- The condition under which no step of the loop loses a change. -/
def Keeps (self : EventDrivenScan) : ScanInput → Prop
  | .change change =>
      ∀ source, self.eventSource = some source → ∀ root ∈ source.config.rootPaths,
        change.dir.startsWith root = true → source.Announced root ∨ source.Reports change root
  | .notice _ => True
  | .pass pass =>
      pass.choosesPaths = true → pass.indexEnabled = true → ¬ self.Current pass →
        self.PassKeeps pass

/-- An unread event announces each root of the source that is not up to date. -/
structure Inv (scan : EventDrivenScan) : Prop where
  known : ∀ source, scan.eventSource = some source → source.Known
  announced : ∀ source, scan.eventSource = some source → ∀ root ∈ source.config.rootPaths,
    root ∉ scan.upToDate → source.Announced root

theorem inv_start : Inv .start where
  known _ none := nomatch none
  announced _ none := nomatch none

theorem sourceFor_continues {source : ScannerEventSource} (continues : self.Continues pass source)
    : self.sourceFor pass = source := by
  unfold sourceFor
  rw [continues.1]
  exact if_pos continues.2

theorem sourceFor_starts (fresh : ¬ ∃ source, self.Continues pass source)
    : self.sourceFor pass = .start pass.world pass.eventConfig := by
  unfold sourceFor
  cases atHand : self.eventSource with
  | none => rfl
  | some source => exact if_neg fun same => fresh ⟨source, atHand, same⟩

theorem sourceFor_config : (self.sourceFor pass).config = pass.eventConfig := by
  by_cases fresh : ∃ source, self.Continues pass source
  · obtain ⟨source, continues⟩ := fresh
    rw [sourceFor_continues continues]
    exact continues.2
  · rw [sourceFor_starts fresh]
    exact ScannerEventSource.start_config

theorem Inv.sourceFor_known (inv : self.Inv) : (self.sourceFor pass).Known := by
  by_cases fresh : ∃ source, self.Continues pass source
  · obtain ⟨source, continues⟩ := fresh
    rw [sourceFor_continues continues]
    exact inv.known source continues.1
  · rw [sourceFor_starts fresh]
    exact ScannerEventSource.start_known

/-- A pass that meets the condition goes to each requested root that is not up to date: the
marks of a continued source stand for it, and a new one has marked everything.
-/
theorem Inv.mem_activeScanPaths (inv : self.Inv)
    (keeps : pass.indexEnabled = true → ¬ self.Current pass → self.PassKeeps pass)
    (requested : root ∈ pass.request.paths) (outdated : root ∉ self.upToDate)
    : root ∈ self.activeScanPaths pass := by
  unfold activeScanPaths
  split
  · rename_i enabled
    have keeps := keeps enabled fun current => outdated (current root requested)
    apply mem_v2ActiveScanPaths requested
    intro unforced low
    have follows : pass.followsMarks = true := by
      simp [RequestedPass.followsMarks, enabled, unforced, low]
    have configured : root ∈ pass.eventConfig.rootPaths := mem_sortedRoots.mpr requested
    unfold drained
    by_cases fresh : ∃ source, self.Continues pass source
    · obtain ⟨source, continues⟩ := fresh
      rw [sourceFor_continues continues]
      rw [← continues.2] at configured
      exact ScannerEventSource.mem_drain_of_announced configured (inv.known source continues.1)
        (keeps.continued follows source continues)
        (inv.announced source continues.1 root configured outdated)
    · rw [sourceFor_starts fresh]
      apply ScannerEventSource.mem_drain_of_pending
      exact ScannerEventSource.mem_start_pending (keeps.started follows fresh) configured
  · exact requested

theorem Inv.observe (inv : self.Inv) {change : EntryChange} (keeps : self.Keeps (.change change))
    : (self.observe change).Inv := by
  constructor
  · intro source atHand
    obtain ⟨earlier, before, rfl⟩ := Option.map_eq_some_iff.mp atHand
    exact (inv.known earlier before).of_hears (earlier.hears_observe change)
  · intro source atHand root member outdated
    obtain ⟨earlier, before, rfl⟩ := Option.map_eq_some_iff.mp atHand
    have hears := earlier.hears_observe change
    rw [hears.config] at member
    by_cases inside : change.dir.startsWith root = true
    · rcases keeps earlier before root member inside with announced | reports
      · exact announced.of_hears hears
      · exact reports.announced
    · have outdated : root ∉ self.upToDate := fun current =>
        outdated (List.mem_filter.mpr ⟨current, by simpa using inside⟩)
      exact (inv.announced earlier before root member outdated).of_hears hears

theorem Inv.notify (inv : self.Inv) {notice : KernelNotice} : (self.notify notice).Inv := by
  constructor
  · intro source atHand
    obtain ⟨earlier, before, rfl⟩ := Option.map_eq_some_iff.mp atHand
    exact (inv.known earlier before).of_hears (earlier.hears_notify notice)
  · intro source atHand root member outdated
    obtain ⟨earlier, before, rfl⟩ := Option.map_eq_some_iff.mp atHand
    have hears := earlier.hears_notify notice
    rw [hears.config] at member
    exact (inv.announced earlier before root member outdated).of_hears hears

/-- After a pass that meets the condition every root of its source is up to date: it was so
before, or the pass has gone to it.
-/
theorem Inv.current_after (inv : self.Inv) (keeps : self.Keeps (.pass pass))
    (chooses : pass.choosesPaths = true) (enabled : pass.indexEnabled = true)
    (requested : root ∈ pass.request.paths)
    : root ∈ (self.runPass pass).upToDate := by
  have keeps := keeps chooses
  have awake : pass.coolingDown = false := by
    have both := (Bool.and_eq_true_iff.mp chooses).1
    simpa using both
  unfold runPass
  rw [if_neg (by simp [awake])]
  by_cases current : self.Current pass
  · dsimp only
    split
    · exact List.mem_append_right _ (current root requested)
    · exact current root requested
  · have walked := (keeps enabled current).walked
    dsimp only
    rw [if_pos (by simp [chooses, walked])]
    by_cases outdated : root ∈ self.upToDate
    · exact List.mem_append_right _ outdated
    · exact List.mem_append_left _ (inv.mem_activeScanPaths keeps requested outdated)

theorem Inv.runPass (inv : self.Inv) (keeps : self.Keeps (.pass pass)) : (self.runPass pass).Inv := by
  cases cooling : pass.coolingDown with
  | true =>
      have same : self.runPass pass = self := if_pos cooling
      rw [same]
      exact inv
  | false =>
      have source_of {source : ScannerEventSource}
          (atHand : (self.runPass pass).eventSource = some source)
          : pass.indexEnabled = true ∧ (self.drained pass).2 = source := by
        unfold EventDrivenScan.runPass at atHand
        rw [if_neg (by simp [cooling])] at atHand
        dsimp only at atHand
        split at atHand
        · rename_i enabled
          exact ⟨enabled, Option.some.inj atHand⟩
        · cases atHand
      constructor
      · intro source atHand
        obtain ⟨_, rfl⟩ := source_of atHand
        exact inv.sourceFor_known.drain
      · intro source atHand root member outdated
        obtain ⟨enabled, rfl⟩ := source_of atHand
        have config : (self.drained pass).2.config = pass.eventConfig :=
          ScannerEventSource.drain_config.trans sourceFor_config
        rw [config] at member
        have requested : root ∈ pass.request.paths := mem_sortedRoots.mp member
        have chooses : pass.choosesPaths = true := by
          have asked : pass.request.paths ≠ [] := List.ne_nil_of_mem requested
          simp [RequestedPass.choosesPaths, cooling, asked]
        exact absurd (inv.current_after keeps chooses enabled requested) outdated

theorem Inv.step (inv : self.Inv) (keeps : self.Keeps input) : (self.step input).Inv := by
  cases input with
  | change change => exact inv.observe keeps
  | notice notice => exact inv.notify
  | pass pass => exact inv.runPass keeps

theorem Inv.findsChanges (inv : self.Inv) (keeps : self.Keeps input) : self.FindsChanges input := by
  cases input with
  | change change => trivial
  | notice notice => trivial
  | pass pass =>
      intro chooses _ root requested outdated
      exact inv.mem_activeScanPaths (keeps chooses) requested outdated

/-- In every run whose steps meet the condition, each pass at green or yellow pressure goes to
all the requested roots with a change in them.
-/
theorem run_findsChanges (inputs : List ScanInput) (keeps : Guarded step Keeps start inputs)
    : ∀ taken ∈ steps step start inputs, FindsChanges taken.1 taken.2 := by
  have kept : ∀ scan input, Inv scan → Keeps scan input → Inv (scan.step input) :=
    fun _ _ inv keeps => inv.step keeps
  intro taken member
  have inv := invariant_of_guarded kept inv_start keeps taken.1 (step_mem_states member).1
  exact inv.findsChanges (guarded_iff_steps.mp keeps taken member)

/-- An empty directory that can be watched. -/
def sampleWorld : WatchWorld where
  isPlainDir _ := .ok true
  readDir _ := .ok []
  inotifyInit := .ok ()
  addWatch _ := .ok 1
  readFailure := none

def sampleRoot : Location := ⟨[⟨"data", .refl true⟩]⟩

def samplePass (pressureLevel : PressureLevel) (forceFullScan timedOut : Bool)
    : RequestedPass where
  coolingDown := false
  config := ⟨.v2, .auto, 16⟩
  request := ⟨[sampleRoot], pressureLevel, 10, forceFullScan⟩
  world := sampleWorld
  work := ⟨true, timedOut, 0⟩

/-- A file is created in the directory. -/
def sampleChange : EntryChange where
  dir := sampleRoot
  descriptor := 1
  name := ⟨"file", by decide⟩
  flag := .create
  isDir := false
  ofEntry := by decide

theorem created_file_found
    : (final step start [.pass (samplePass .green true false), .change sampleChange]).FindsChanges
        (.pass (samplePass .yellow false false)) := by
  refine run_findsChanges [.pass (samplePass .green true false), .change sampleChange,
    .pass (samplePass .yellow false false)] ⟨?_, ?_, ?_, trivial⟩ (_, _)
      (mem_steps_iff.mpr ⟨[_, _], [], rfl, rfl⟩)
  · intro _ _ _
    refine ⟨fun follows => absurd follows (by decide), fun follows => ?_, by decide⟩
    exact absurd follows (by decide)
  · intro source atHand root member _
    cases atHand
    right
    refine ⟨_, rfl, sampleRoot.descend [⟨"file", by decide⟩], by decide, ?_⟩
    cases List.mem_singleton.mp member
    exact Or.inl (by decide)
  · intro _ _ _
    refine ⟨fun _ fresh => ?_, fun _ source continues => ?_, by decide⟩
    · exact absurd ⟨_, rfl, by decide⟩ fresh
    · obtain ⟨atHand, _⟩ := continues
      cases atHand
      intro backend isBackend event unread brings
      cases isBackend
      cases List.mem_singleton.mp unread
      exact absurd brings (by decide)

end EventDrivenScan

namespace ScannerEventSource

variable {self : ScannerEventSource} {world : WatchWorld} {config : EventSourceConfig}
  {root : Location}

/-- Nothing is marked, and nothing waits to be read. -/
structure Silent (source : ScannerEventSource) : Prop where
  pending : source.pending = .empty
  unread : ∀ backend, source.backend = .recursiveInotify backend → backend.unread = []

theorem Silent.not_mem_drain (silent : self.Silent) (reads : world.readFailure = none)
    : root ∉ (self.drain world).1.dirtyRoots := by
  unfold ScannerEventSource.drain
  split
  · rename_i backend isBackend
    simp [LinuxInotifyBackend.drain, LinuxInotifyBackend.handleEvents, reads, silent.pending,
      silent.unread backend isBackend]
  · simp [silent.pending]

theorem drain_silent (reads : world.readFailure = none) : (self.drain world).2.Silent := by
  unfold drain
  split
  · refine ⟨rfl, ?_⟩
    intro backend isBackend
    cases isBackend
    simp [LinuxInotifyBackend.drain, reads]
  · rename_i isBackend
    refine ⟨rfl, ?_⟩
    intro backend after
    cases isBackend.symm.trans after

end ScannerEventSource

namespace EventDrivenScan

variable {self : EventDrivenScan} {pass next : RequestedPass} {root : Location}

/-- A pass that goes by the marks of a silent source goes nowhere. -/
theorem not_findsChanges_of_silent (silent : (self.sourceFor pass).Silent)
    (follows : pass.followsMarks = true) (awake : pass.coolingDown = false)
    (reads : pass.world.readFailure = none) (requested : root ∈ pass.request.paths)
    (outdated : root ∉ self.upToDate)
    : ¬ self.FindsChanges (.pass pass) := by
  intro finds
  simp only [RequestedPass.followsMarks, Bool.and_eq_true, Bool.not_eq_true'] at follows
  obtain ⟨⟨enabled, unforced⟩, low⟩ := follows
  have asked : pass.request.paths ≠ [] := List.ne_nil_of_mem requested
  have chooses : pass.choosesPaths = true := by simp [RequestedPass.choosesPaths, awake, asked]
  have found := finds chooses low root requested outdated
  have unmarked : (self.drained pass).1.dirtyRoots.isEmpty = true :=
    Std.TreeSet.isEmpty_iff_forall_not_mem.mpr fun _ => silent.not_mem_drain reads
  have nowhere : v2ActiveScanPaths pass.request (self.drained pass).1.dirtyRoots = some [] := by
    unfold v2ActiveScanPaths
    rw [if_neg (by simp [unforced])]
    cases level : pass.request.pressureLevel <;> rw [level] at low
    · exact if_pos unmarked
    · exact if_pos unmarked
    all_goals exact absurd low (by decide)
  unfold activeScanPaths at found
  rw [if_pos enabled, nowhere] at found
  exact List.not_mem_nil found

/-- A pass takes the marks and is cut short; the next one for the same roots goes nowhere. -/
theorem cut_pass_loses (enabled : pass.indexEnabled = true) (awake : pass.coolingDown = false)
    (cut : pass.walksToCompletion = false) (reads : pass.world.readFailure = none)
    (same : next.eventConfig = pass.eventConfig) (follows : next.followsMarks = true)
    (nextAwake : next.coolingDown = false) (nextReads : next.world.readFailure = none)
    (requested : root ∈ next.request.paths) (outdated : root ∉ self.upToDate)
    : ¬ (self.runPass pass).FindsChanges (.pass next) := by
  have after : self.runPass pass = ⟨some (self.drained pass).2, self.upToDate⟩ := by
    simp [runPass, awake, enabled, cut]
  rw [after]
  have config : (self.drained pass).2.config = next.eventConfig :=
    (ScannerEventSource.drain_config.trans sourceFor_config).trans same.symm
  have silent : (sourceFor ⟨some (self.drained pass).2, self.upToDate⟩ next).Silent := by
    rw [sourceFor_continues ⟨rfl, config⟩]
    exact ScannerEventSource.drain_silent reads
  exact not_findsChanges_of_silent silent follows nextAwake nextReads requested outdated

/-- A created file is marked, the pass for it times out, and the next pass goes nowhere. -/
theorem created_file_lost
    : ¬ ∀ inputs, ∀ taken ∈ steps step start inputs, FindsChanges taken.1 taken.2 := by
  intro all
  have lost : ¬ (final step start [.pass (samplePass .green true false), .change sampleChange,
      .pass (samplePass .yellow false true)]).FindsChanges
        (.pass (samplePass .yellow false true)) :=
    cut_pass_loses (by decide) rfl (by decide) rfl rfl (by decide) rfl rfl
      (List.mem_singleton_self sampleRoot) (by decide)
  apply lost
  refine all [.pass (samplePass .green true false), .change sampleChange,
    .pass (samplePass .yellow false true), .pass (samplePass .yellow false true)] (_, _) ?_
  exact mem_steps_iff.mpr ⟨[_, _, _], [], rfl, rfl⟩

end EventDrivenScan

end StorageBallast
