import StorageBallast.Scanner.EventSource

/-! What draining an event source marks. An unread event announces roots, by its mask or by the
path under which its directory is watched, and a drain marks every root that is announced.
-/

namespace StorageBallast

theorem Location.texts_injective
    : Function.Injective fun location : Location => location.names.map (·.text) := by
  intro left right same
  have names : left.names = right.names :=
    List.map_injective_iff.mpr (fun a b text => by cases a; cases b; simpa using text) same
  cases left
  cases right
  simpa using names

instance : Std.TransCmp Location.order :=
  inferInstanceAs (Std.TransCmp (compareOn fun location : Location => location.names.map (·.text)))

instance : Std.LawfulEqCmp Location.order where
  eq_of_compare same := Location.texts_injective (Std.LawfulEqCmp.eq_of_compare same)

@[simp] theorem mem_sortedRoots {root : Location} {paths : List Location}
    : root ∈ sortedRoots paths ↔ root ∈ paths := by
  simp [sortedRoots, Std.TreeSet.mem_toList, Std.TreeSet.mem_ofList]

def DirtiedBy (roots : List Location) (path root : Location) : Prop :=
  rootForPath roots path = some root ∨ (rootForPath roots path = none ∧ root ∈ roots)

namespace EventInvalidation

variable {self other : EventInvalidation} {roots : List Location} {root path : Location}
  {reason : String} {generationBump : Bool}

@[simp] theorem mem_markAllRoots
    : root ∈ (self.markAllRoots roots reason generationBump).dirtyRoots
      ↔ root ∈ self.dirtyRoots ∨ root ∈ roots := by
  simp [markAllRoots, Std.TreeSet.mem_insertMany_list]

@[simp] theorem mem_markDirtyRoot
    : root ∈ (self.markDirtyRoot path reason).dirtyRoots ↔ root ∈ self.dirtyRoots ∨ path = root := by
  simp only [markDirtyRoot, Std.TreeSet.mem_insert, Std.LawfulEqCmp.compare_eq_iff_eq]
  exact or_comm

@[simp] theorem mem_markDirtyPath
    : root ∈ (self.markDirtyPath roots path reason).dirtyRoots
      ↔ root ∈ self.dirtyRoots ∨ DirtiedBy roots path root := by
  unfold markDirtyPath DirtiedBy
  cases rootForPath roots path <;> simp

@[simp] theorem mem_merge
    : root ∈ (self.merge other).dirtyRoots ↔ root ∈ self.dirtyRoots ∨ root ∈ other.dirtyRoots :=
  Std.TreeSet.mem_union_iff

@[simp] theorem not_mem_empty : root ∉ empty.dirtyRoots := Std.TreeSet.not_mem_emptyc

end EventInvalidation

def dirtiesAll (mask : EventMask) : Bool :=
  mask.contains .qOverflow || LinuxInotifyBackend.losesWatch mask

namespace LinuxInotifyBackend

variable {self now : LinuxInotifyBackend} {world : WatchWorld} {tracker : DirtyRootTracker}
  {config : EventSourceConfig} {event : LinuxInotifyEvent} {events : List LinuxInotifyEvent}
  {invalidation : EventInvalidation} {root path : Location}

def Announces (self : LinuxInotifyBackend) (tracker : DirtyRootTracker)
    (event : LinuxInotifyEvent) (root : Location) : Prop :=
  dirtiesAll event.mask = true
    ∨ ∃ path, self.pathForEvent event = some path ∧ DirtiedBy tracker.roots path root

/-- Whatever the kind of an event with a path, that path is marked or everything is. -/
theorem mem_applyEvent_of_path (kind : FsEventKind) (member : root ∈ tracker.roots)
    (dirty : DirtiedBy tracker.roots path root)
    : root ∈ (tracker.applyEvent ⟨kind, some path⟩).dirtyRoots := by
  cases kind <;> simp [DirtyRootTracker.applyEvent, member, dirty]

theorem mem_eventInvalidation (member : root ∈ tracker.roots)
    (dirty : losesWatch event.mask = true
      ∨ ∃ path, self.pathForEvent event = some path ∧ DirtiedBy tracker.roots path root)
    : root ∈ (self.eventInvalidation tracker event).dirtyRoots := by
  unfold eventInvalidation
  split
  · simp [DirtyRootTracker.applyEvent, member]
  · rename_i keeps
    obtain ⟨path, known, dirty⟩ := dirty.resolve_left keeps
    rw [known]
    exact mem_applyEvent_of_path _ member dirty

theorem mem_watchNewDirectory (marked : root ∈ invalidation.dirtyRoots)
    : root ∈ (self.watchNewDirectory world tracker config invalidation path).1.dirtyRoots := by
  unfold watchNewDirectory
  split
  · exact EventInvalidation.mem_merge.mpr (Or.inl marked)
  · split
    · exact marked
    · exact EventInvalidation.mem_markDirtyPath.mpr (Or.inl marked)

theorem handleEvent_marks (member : root ∈ tracker.roots)
    (announced : self.Announces tracker event root)
    : root ∈ (self.handleEvent world tracker config event).1.dirtyRoots := by
  unfold handleEvent
  split
  · simp [DirtyRootTracker.applyEvent, member]
  · rename_i room
    have lost : dirtiesAll event.mask = true → losesWatch event.mask = true :=
      fun all => (Bool.or_eq_true_iff.mp all).resolve_left room
    have marked := mem_eventInvalidation member (announced.imp_left lost)
    dsimp only
    split
    · exact mem_watchNewDirectory marked
    · exact marked

/-- An event leaves the watches as they are, or adds one where a directory has come in. -/
theorem handleEvent_cases
    : (self.handleEvent world tracker config event).2 = self
      ∨ ∃ path watch,
          bringsDirectory event.mask = true ∧ self.pathForEvent event = some path
          ∧ world.addWatch path = .ok watch
          ∧ (self.handleEvent world tracker config event).2 = self.insertWatch watch path := by
  unfold handleEvent
  split
  · exact Or.inl rfl
  · dsimp only
    split
    · rename_i path brings known
      unfold watchNewDirectory addWatch
      split
      · exact Or.inl rfl
      · cases answer : world.addWatch path with
        | error err => exact Or.inl rfl
        | ok watch => exact Or.inr ⟨path, watch, brings, known, answer, rfl⟩
    · exact Or.inl rfl

/-- What is marked stays marked, by induction on the events. -/
theorem mem_handleEvents_of_mem (marked : root ∈ invalidation.dirtyRoots)
    : root ∈ (self.handleEvents world tracker config events invalidation).1.dirtyRoots := by
  induction events generalizing self invalidation with
  | nil => exact marked
  | cons event rest ih => exact ih (EventInvalidation.mem_merge.mpr (Or.inl marked))

theorem mem_handleEvents_cons
    (marked : root ∈ (self.handleEvent world tracker config event).1.dirtyRoots)
    : root ∈ (self.handleEvents world tracker config (event :: events) invalidation).1.dirtyRoots := by
  rw [handleEvents]
  exact mem_handleEvents_of_mem (EventInvalidation.mem_merge.mpr (Or.inr marked))

/-- One event after which nothing is known marks every root, by induction on the events. -/
theorem mem_handleEvents_of_dirtiesAll (member : root ∈ tracker.roots)
    (all : ∃ event ∈ events, dirtiesAll event.mask = true)
    : root ∈ (self.handleEvents world tracker config events invalidation).1.dirtyRoots := by
  induction events generalizing self invalidation with
  | nil =>
      obtain ⟨event, none, _⟩ := all
      exact absurd none List.not_mem_nil
  | cons event rest ih =>
      obtain ⟨found, among, all⟩ := all
      rcases List.mem_cons.mp among with rfl | later
      · exact mem_handleEvents_cons (handleEvent_marks member (Or.inl all))
      · exact ih ⟨found, later, all⟩

def Known (self : LinuxInotifyBackend) : Prop :=
  ∀ event ∈ self.unread, bringsDirectory event.mask = true → event.watch ∈ self.watchPaths

theorem exists_pathForEvent (watched : event.watch ∈ self.watchPaths)
    : ∃ path, self.pathForEvent event = some path := by
  unfold pathForEvent
  rw [Std.TreeMap.getElem?_eq_some_getElem watched]
  exact ⟨_, rfl⟩

/-- No directory that comes in is watched already under another path, unless an event after
which nothing is known waits as well.
-/
def Steady (self : LinuxInotifyBackend) (world : WatchWorld) : Prop :=
  ∀ event ∈ self.unread, bringsDirectory event.mask = true →
    ∀ path, self.pathForEvent event = some path → ∀ watch, world.addWatch path = .ok watch →
      ∀ other, self.watchPaths[watch]? = some other →
        other = path ∨ ∃ notice ∈ self.unread, dirtiesAll notice.mask = true

def Extends (now self : LinuxInotifyBackend) : Prop :=
  ∀ (watch : WatchDescriptor) (path : Location),
    self.watchPaths[watch]? = some path → now.watchPaths[watch]? = some path

theorem Extends.pathForEvent (same : now.Extends self) (known : self.pathForEvent event = some path)
    : now.pathForEvent event = some path := by
  unfold LinuxInotifyBackend.pathForEvent at known ⊢
  cases label : self.watchPaths[event.watch]? with
  | none =>
      rw [label] at known
      cases known
  | some base =>
      rw [label] at known
      rw [same _ _ label]
      exact known

/-- A steady backend keeps its paths while the events are handled. -/
theorem Extends.handleEvent (same : now.Extends self) (known : self.Known)
    (steady : self.Steady world)
    (calm : ¬ ∃ notice ∈ self.unread, dirtiesAll notice.mask = true)
    (unread : event ∈ self.unread)
    : (now.handleEvent world tracker config event).2.Extends self := by
  rcases now.handleEvent_cases with unchanged | ⟨path, watch, brings, found, answer, added⟩
  · rw [unchanged]
    exact same
  · obtain ⟨first, labelled⟩ := exists_pathForEvent (known event unread brings)
    have agrees : first = path := Option.some.inj ((same.pathForEvent labelled).symm.trans found)
    subst agrees
    rw [added]
    intro other base label
    unfold insertWatch
    rw [Std.TreeMap.getElem?_insert]
    split
    · rename_i equal
      have equal : watch = other := Std.LawfulEqCmp.eq_of_compare equal
      subst equal
      rcases steady event unread brings first labelled watch answer base label with rfl | loud
      · rfl
      · exact absurd loud calm
    · exact same other base label

/-- Among events of a steady backend, one that announces a root marks it, by induction on the
events.
-/
theorem mem_handleEvents_of_announced (member : root ∈ tracker.roots) (known : self.Known)
    (steady : self.Steady world)
    (calm : ¬ ∃ notice ∈ self.unread, dirtiesAll notice.mask = true)
    (same : now.Extends self) (unread : ∀ event ∈ events, event ∈ self.unread)
    (announced : ∃ event ∈ events, self.Announces tracker event root)
    : root ∈ (now.handleEvents world tracker config events invalidation).1.dirtyRoots := by
  induction events generalizing now invalidation with
  | nil =>
      obtain ⟨event, none, _⟩ := announced
      exact absurd none List.not_mem_nil
  | cons event rest ih =>
      have here := unread event (List.mem_cons_self ..)
      obtain ⟨found, among, announces⟩ := announced
      rcases List.mem_cons.mp among with rfl | later
      · have announces : now.Announces tracker found root := by
          apply announces.imp_right
          rintro ⟨path, labelled, dirty⟩
          exact ⟨path, same.pathForEvent labelled, dirty⟩
        exact mem_handleEvents_cons (handleEvent_marks member announces)
      · have rest_unread := fun event member => unread event (List.mem_cons_of_mem _ member)
        exact ih (same.handleEvent known steady calm here) rest_unread ⟨found, later, announces⟩

/-- A drain of a steady backend marks every root that an unread event announces. Where reading
fails, it marks them all.
-/
theorem mem_drain (member : root ∈ tracker.roots) (configured : root ∈ config.rootPaths)
    (known : self.Known) (steady : self.Steady world)
    (announced : ∃ event ∈ self.unread, self.Announces tracker event root)
    : root ∈ (self.drain world tracker config).1.dirtyRoots := by
  unfold drain
  cases world.readFailure with
  | some failure => exact EventInvalidation.mem_markAllRoots.mpr (Or.inr configured)
  | none =>
      by_cases loud : ∃ notice ∈ self.unread, dirtiesAll notice.mask = true
      · exact mem_handleEvents_of_dirtiesAll member loud
      · have same : self.Extends self := fun _ _ label => label
        exact mem_handleEvents_of_announced member known steady loud same (fun _ h => h) announced

/-- What is watched stays watched, by induction on the events. -/
theorem handleEvents_watches {watch : WatchDescriptor} (watched : watch ∈ self.watchPaths)
    : watch ∈ (self.handleEvents world tracker config events invalidation).2.watchPaths := by
  induction events generalizing self invalidation with
  | nil => exact watched
  | cons event rest ih =>
      rw [handleEvents]
      apply ih
      rcases self.handleEvent_cases with same | ⟨path, added, _, _, _, more⟩
      · rw [same]
        exact watched
      · rw [more]
        exact Std.TreeMap.mem_insert.mpr (Or.inr watched)

theorem Known.drain (known : self.Known) : (self.drain world tracker config).2.Known := by
  intro event unread brings
  unfold LinuxInotifyBackend.drain at unread ⊢
  cases failure : world.readFailure with
  | none =>
      rw [failure] at unread
      exact absurd unread List.not_mem_nil
  | some failed =>
      rw [failure] at unread
      exact handleEvents_watches (known event (List.mem_of_mem_drop unread) brings)

/-- What holds before the first watch and is kept by each further one holds of a backend with
all its watches, by induction on the paths that are left.
-/
theorem start_rule {paths : List Location} {maxWatches : Nat}
    {tied : List Location → LinuxInotifyBackend → Prop} (first : tied [] ⟨[], ∅, maxWatches⟩)
    (kept : ∀ done backend path watch, tied done backend → world.addWatch path = .ok watch →
      tied (done ++ [path]) (backend.insertWatch watch path))
    (started : start world paths maxWatches = .ok self)
    : tied paths self := by
  have rest (left : List Location) : ∀ done backend, tied done backend →
      left.foldlM (fun backend path => backend.addWatch world path) backend = .ok self →
        tied (done ++ left) self := by
    induction left with
    | nil =>
        intro done backend holds same
        cases same
        rw [List.append_nil]
        exact holds
    | cons path left ih =>
        intro done backend holds added
        rw [List.foldlM_cons] at added
        cases answer : world.addWatch path with
        | error err => simp [addWatch, answer, bind, Except.bind] at added
        | ok watch =>
            have further : left.foldlM (fun backend path => backend.addWatch world path)
                (backend.insertWatch watch path) = .ok self := by
              simpa [addWatch, answer, bind, Except.bind] using added
            have holds := ih _ _ (kept done backend path watch holds answer) further
            rwa [List.append_assoc] at holds
  unfold start at started
  split at started
  · cases started
  · exact rest paths [] _ first started

theorem unread_of_start {paths : List Location} {maxWatches : Nat}
    (started : start world paths maxWatches = .ok self)
    : self.unread = [] := by
  have kept : ∀ (done : List Location) (backend : LinuxInotifyBackend) path watch,
      backend.unread = [] → world.addWatch path = .ok watch →
        (backend.insertWatch watch path).unread = [] :=
    fun _ _ _ _ silent _ => silent
  exact start_rule rfl kept started

end LinuxInotifyBackend

namespace ScannerEventSource

variable {self : ScannerEventSource} {world : WatchWorld} {config : EventSourceConfig}
  {root : Location}

def Announced (self : ScannerEventSource) (root : Location) : Prop :=
  ∃ backend, self.backend = .recursiveInotify backend
    ∧ ∃ event ∈ backend.unread, backend.Announces self.tracker event root

def Known (self : ScannerEventSource) : Prop :=
  ∀ backend, self.backend = .recursiveInotify backend → backend.Known

def Steady (self : ScannerEventSource) (world : WatchWorld) : Prop :=
  ∀ backend, self.backend = .recursiveInotify backend → backend.Steady world

def StartsDirty (world : WatchWorld) (config : EventSourceConfig) : Prop :=
  let plan := EventSourcePlan.forConfig world config
  plan.complete = false
    ∨ (plan.backend = .recursiveInotify
      ∧ ∃ err, LinuxInotifyBackend.start world plan.watchedDirs config.watchBudget = .error err)

theorem mem_drain_of_pending (pending : root ∈ self.pending.dirtyRoots)
    : root ∈ (self.drain world).1.dirtyRoots := by
  unfold drain
  split
  · exact EventInvalidation.mem_merge.mpr (Or.inl pending)
  · exact pending

theorem mem_drain_of_announced (member : root ∈ self.config.rootPaths) (known : self.Known)
    (steady : self.Steady world) (announced : self.Announced root)
    : root ∈ (self.drain world).1.dirtyRoots := by
  obtain ⟨backend, isBackend, announced⟩ := announced
  have tracked : root ∈ self.tracker.roots := mem_sortedRoots.mpr member
  have marked := LinuxInotifyBackend.mem_drain tracked member (known backend isBackend)
    (steady backend isBackend) announced
  unfold drain
  rw [isBackend]
  exact EventInvalidation.mem_merge.mpr (Or.inr marked)

theorem drain_config : (self.drain world).2.config = self.config := by
  unfold drain
  split <;> rfl

theorem Known.drain (known : self.Known) : (self.drain world).2.Known := by
  intro backend isBackend
  unfold ScannerEventSource.drain at isBackend
  cases before : self.backend with
  | reconciliationOnly =>
      rw [before] at isBackend
      cases isBackend
  | recursiveInotify earlier =>
      rw [before] at isBackend
      cases isBackend
      exact (known earlier before).drain

theorem start_config : (start world config).config = config := by
  unfold start
  dsimp only
  split
  · split <;> rfl
  all_goals rfl

theorem start_known : (start world config).Known := by
  intro backend isBackend
  unfold start at isBackend
  dsimp only at isBackend
  split at isBackend
  · split at isBackend
    · rename_i started
      cases isBackend
      intro event unread
      rw [LinuxInotifyBackend.unread_of_start started] at unread
      exact absurd unread List.not_mem_nil
    · cases isBackend
  all_goals cases isBackend

theorem mem_start_pending (dirty : StartsDirty world config) (member : root ∈ config.rootPaths)
    : root ∈ (start world config).pending.dirtyRoots := by
  unfold start
  dsimp only
  rcases dirty with gap | ⟨kernel, err, failed⟩
  · rw [if_neg (by simp [gap])]
    split
    · split <;> simp [member]
    all_goals simp [member]
  · rw [kernel]
    dsimp only
    rw [failed]
    simp [member]

end ScannerEventSource

end StorageBallast
