import StorageBallast.Scanner.WatchPlans
import StorageBallast.Scanner.WatchedTree

/-! What the backend knows of the kernel's watches. While no watched directory is moved or removed,
its entries are exactly these watches, each under the path of its directory.
-/

namespace StorageBallast

namespace LinuxInotifyBackend

variable {self : LinuxInotifyBackend} {world : WatchWorld} {tracker : DirtyRootTracker}
  {config : EventSourceConfig} {event : LinuxInotifyEvent} {watch : WatchDescriptor}

theorem handleEvent_of_newWatch_none (none : self.newWatch world event = .none)
    : (self.handleEvent world tracker config event).2 = self := by
  unfold newWatch at none
  unfold handleEvent
  split
  · rfl
  · rename_i room
    rw [if_neg room] at none
    dsimp only at none ⊢
    split
    · rename_i path brings known
      simp only [brings, known] at none
      unfold watchNewDirectory
      split
      · rfl
      · rename_i free
        rw [if_neg free] at none
        unfold addWatch
        cases answer : world.addWatch path with
        | error err => rfl
        | ok watch => simp [answer, Except.toOption] at none
    · rfl

/-- A new watch is entered under the path that its event names. -/
theorem handleEvent_of_newWatch (some : self.newWatch world event = .some watch)
    : ∃ path, bringsDirectory event.mask = true ∧ self.pathForEvent event = .some path
        ∧ self.watchPaths.size < self.maxWatches ∧ world.addWatch path = .ok watch
        ∧ (self.handleEvent world tracker config event).2 = self.insertWatch watch path := by
  unfold newWatch at some
  split at some
  · cases some
  · rename_i room
    split at some
    · rename_i path brings known
      split at some
      · cases some
      · rename_i free
        cases answer : world.addWatch path with
        | error err => simp [answer, Except.toOption] at some
        | ok found =>
            simp only [answer, Except.toOption, Option.some.injEq] at some
            subst some
            refine ⟨path, brings, known, Nat.lt_of_not_le free, answer, ?_⟩
            unfold handleEvent
            rw [if_neg room, brings, known]
            simp [watchNewDirectory, free, addWatch, answer]
    · cases some

theorem unread_handleEvent
    : (self.handleEvent world tracker config event).2.unread = self.unread := by
  rcases self.handleEvent_cases with same | ⟨path, watch, _, _, _, added⟩
  · rw [same]
  · rw [added]
    rfl

theorem maxWatches_handleEvent
    : (self.handleEvent world tracker config event).2.maxWatches = self.maxWatches := by
  rcases self.handleEvent_cases with same | ⟨path, watch, _, _, _, added⟩
  · rw [same]
  · rw [added]
    rfl

theorem handleEvent_unread (unread : List LinuxInotifyEvent)
    : ({ self with unread } : LinuxInotifyBackend).handleEvent world tracker config event
      = ((self.handleEvent world tracker config event).1,
          { (self.handleEvent world tracker config event).2 with unread }) := by
  unfold handleEvent
  split
  · rfl
  · dsimp only [pathForEvent, eventInvalidation]
    split
    · unfold watchNewDirectory addWatch
      split
      · rfl
      · cases world.addWatch _ <;> rfl
    · rfl

theorem handleEvents_unread (unread : List LinuxInotifyEvent) {events : List LinuxInotifyEvent}
    {invalidation : EventInvalidation}
    : ({ self with unread } : LinuxInotifyBackend).handleEvents world tracker config events
          invalidation
      = ((self.handleEvents world tracker config events invalidation).1,
          { (self.handleEvents world tracker config events invalidation).2 with unread }) := by
  induction events generalizing self invalidation with
  | nil => rfl
  | cons event rest ih =>
      rw [handleEvents, handleEvent_unread]
      exact ih

theorem generationBump_of_losesWatch (loses : losesWatch event.mask = true)
    : (self.handleEvent world tracker config event).1.generationBump = true := by
  have bumps : (self.eventInvalidation tracker event).generationBump = true := by
    simp [eventInvalidation, loses, DirtyRootTracker.applyEvent, EventInvalidation.markAllRoots]
  unfold handleEvent
  split
  · rfl
  · dsimp only
    split
    · unfold watchNewDirectory
      split
      · simp [EventInvalidation.merge, bumps]
      · split
        · exact bumps
        · rfl
    · exact bumps

theorem generationBump_of_newWatch_none (none : self.newWatch world event = .none)
    (brings : bringsDirectory event.mask = true)
    : (self.handleEvent world tracker config event).1.generationBump = true := by
  unfold newWatch at none
  unfold handleEvent
  split
  · rfl
  · rename_i room
    rw [if_neg room, brings] at none
    rw [brings]
    dsimp only at none ⊢
    cases known : self.pathForEvent event with
    | none =>
        simp only [eventInvalidation, known]
        split
        · rfl
        · unfold DirtyRootTracker.applyEvent
          dsimp only
          cases eventKindFromInotifyMask event.mask <;> rfl
    | some path =>
        rw [known] at none
        dsimp only at none ⊢
        unfold watchNewDirectory
        split
        · simp [EventInvalidation.merge, DirtyRootTracker.applyEvent,
            EventInvalidation.markAllRoots]
        · rename_i free
          rw [if_neg free] at none
          unfold addWatch
          cases answer : world.addWatch path with
          | error err => rfl
          | ok watch => simp [answer, Except.toOption] at none

end LinuxInotifyBackend

namespace WatchedTree

open LinuxInotifyBackend

variable {self next : WatchedTree} {watch : Option WatchDescriptor} {mask : EventMask}
  {name : Option FileName} {path parent : Location} {id : WatchDescriptor}

/-- What the kernel has told further changes nothing but the queue. -/
structure Told (before after : WatchedTree) : Prop where
  config : after.config = before.config
  tree : after.tree = before.tree
  live : after.live = before.live
  watchPaths : after.backend.watchPaths = before.backend.watchPaths
  maxWatches : after.backend.maxWatches = before.backend.maxWatches
  bumped : after.bumped = before.bumped
  unread : before.backend.unread ⊆ after.backend.unread
  known : ∀ event ∈ after.backend.unread, event ∈ before.backend.unread ∨ event.watch ∈ before.live

theorem Told.refl (self : WatchedTree) : Told self self :=
  ⟨rfl, rfl, rfl, rfl, rfl, rfl, List.Subset.refl _, fun _ => Or.inl⟩

theorem Told.trans {first second third : WatchedTree} (one : Told first second)
    (two : Told second third)
    : Told first third where
  config := two.config.trans one.config
  tree := two.tree.trans one.tree
  live := two.live.trans one.live
  watchPaths := two.watchPaths.trans one.watchPaths
  maxWatches := two.maxWatches.trans one.maxWatches
  bumped := two.bumped.trans one.bumped
  unread := List.Subset.trans one.unread two.unread
  known := by
    intro event unread
    rcases two.known event unread with earlier | live
    · exact one.known event earlier
    · exact Or.inr (one.live ▸ live)

theorem told_report (self : WatchedTree) (watch : Option WatchDescriptor) (mask : EventMask)
    (name : Option FileName)
    : Told self (self.report watch mask name) := by
  unfold report
  split
  · rename_i watch
    split
    · rename_i live
      refine ⟨rfl, rfl, rfl, rfl, rfl, rfl, List.subset_append_left _ _, ?_⟩
      intro event unread
      rcases List.mem_append.mp unread with earlier | new
      · exact Or.inl earlier
      · exact Or.inr (List.mem_singleton.mp new ▸ live)
    · exact .refl self
  · exact .refl self

theorem mem_unread_report (live : id ∈ self.live)
    : ⟨id, mask, name⟩ ∈ (self.report (some id) mask name).backend.unread := by
  simp [report, live, hear]

theorem told_tellRemoval (self : WatchedTree) (id : WatchDescriptor)
    (parent : Option WatchDescriptor) (name : Option FileName)
    : Told self (self.tellRemoval id parent name) :=
  ((told_report ..).trans (told_report ..)).trans (told_report ..)

theorem mem_unread_tellRemoval {parent : Option WatchDescriptor} (live : id ∈ self.live)
    : ⟨id, [.ignored], none⟩ ∈ (self.tellRemoval id parent name).backend.unread := by
  refine (told_report ..).unread (mem_unread_report ?_)
  rw [(told_report ..).live]
  exact live

def watches (self : WatchedTree) (path : Location) : Bool :=
  (self.tree.dirAt path).any fun id => decide (id ∈ self.live)

theorem watches_iff : self.watches path = true ↔ ∃ id ∈ self.live, (path, id) ∈ self.tree.dirs := by
  unfold watches
  constructor
  · intro watched
    cases here : self.tree.dirAt path with
    | none => simp [here] at watched
    | some id =>
        have live : id ∈ self.live := by simpa [here] using watched
        exact ⟨id, live, DirectoryTree.dirAt_eq_some.mp here⟩
  · rintro ⟨id, live, member⟩
    rw [DirectoryTree.dirAt_eq_some.mpr member]
    exact decide_eq_true live

/-- The entries of the backend are the kernel's watches, labelled with paths below the roots,
and a watched directory below the roots has its own path for a label.
-/
structure Sound (seen : WatchedTree) : Prop where
  keys : ∀ id, id ∈ seen.backend.watchPaths ↔ id ∈ seen.live
  rooted : ∀ (id : WatchDescriptor) path, seen.backend.watchPaths[id]? = some path →
    seen.underRoots path = true
  labels : ∀ path id, (path, id) ∈ seen.tree.dirs → seen.underRoots path = true → id ∈ seen.live →
    seen.backend.watchPaths[id]? = some path
  older : ∀ id ∈ seen.live, id < seen.tree.nextDir
  known : ∀ event ∈ seen.backend.unread, event.watch ∈ seen.live

theorem underRoots_descend {names : List FileName} (below : self.underRoots path = true)
    : self.underRoots (path.descend names) = true := by
  obtain ⟨root, member, above⟩ := List.any_eq_true.mp below
  exact List.any_eq_true.mpr
    ⟨root, member, Location.startsWith_trans (path.descend_startsWith names) above⟩

/-- Other directories and a longer queue leave what is known sound, as long as every watched
directory below the roots was at its place before.
-/
theorem Sound.of_changed (sound : self.Sound) {changed : WatchedTree} (told : Told changed next)
    (config : changed.config = self.config) (live : changed.live = self.live)
    (backend : changed.backend = self.backend)
    (newer : self.tree.nextDir ≤ changed.tree.nextDir)
    (kept : ∀ path id, (path, id) ∈ changed.tree.dirs → self.underRoots path = true →
      id ∈ self.live → (path, id) ∈ self.tree.dirs)
    : next.Sound where
  keys id := by
    rw [told.watchPaths, told.live, backend, live]
    exact sound.keys id
  rooted id path label := by
    rw [told.watchPaths, backend] at label
    have below := sound.rooted id path label
    rw [underRoots, told.config, config]
    exact below
  labels path id member below watched := by
    rw [told.tree] at member
    rw [underRoots, told.config, config] at below
    rw [told.live, live] at watched
    rw [told.watchPaths, backend]
    exact sound.labels path id (kept path id member below watched) below watched
  older id watched := by
    rw [told.live, live] at watched
    rw [told.tree]
    exact Nat.lt_of_lt_of_le (sound.older id watched) newer
  known event unread := by
    rw [told.live, live]
    rcases told.known event unread with earlier | watched
    · rw [backend] at earlier
      exact sound.known event earlier
    · exact live ▸ watched

variable {source target toParent fromParent : Location} {childName fromName toName : FileName}

/-- Either nothing is created, or a new directory that a watch on its parent tells of. -/
theorem mkdir_cases (self : WatchedTree) (parent : Location) (name : FileName)
    : self.mkdir parent name = self
      ∨ ∃ free id, (parent, id) ∈ self.tree.dirs
          ∧ Told { self with tree := self.tree.add (parent.descend [name]) free }
              (self.mkdir parent name)
          ∧ (id ∈ self.live →
              ⟨id, [.create, .isDir], some name⟩ ∈ (self.mkdir parent name).backend.unread) := by
  unfold mkdir
  split
  · rename_i free
    split
    · rename_i id here
      refine Or.inr ⟨free, id, DirectoryTree.dirAt_eq_some.mp here, told_report .., ?_⟩
      intro live
      exact mem_unread_report live
    · exact Or.inl rfl
  · exact Or.inl rfl

/-- A directory without directories is removed, and a watch on it tells of that before it goes. -/
theorem rmdir_of_childless (here : (path, id) ∈ self.tree.dirs)
    (leaf : self.tree.childless path = true)
    : ∃ told, Told { self with tree := self.tree.remove path } told
        ∧ self.rmdir path = { told with live := self.live.filter (· != id) }
        ∧ (id ∈ self.live → ⟨id, [.ignored], none⟩ ∈ told.backend.unread) := by
  have told := told_tellRemoval { self with tree := self.tree.remove path } id
    (path.parent.bind self.tree.dirAt) path.fileName
  refine ⟨_, told, ?_, ?_⟩
  · have same := told.live
    unfold rmdir
    rw [DirectoryTree.dirAt_eq_some.mpr here]
    dsimp only at same ⊢
    rw [if_pos leaf, same]
  · intro live
    exact mem_unread_tellRemoval live

theorem rmdir_cases (self : WatchedTree) (path : Location)
    : self.rmdir path = self
      ∨ ∃ id, (path, id) ∈ self.tree.dirs ∧ self.tree.childless path = true := by
  unfold rmdir
  split
  · rename_i id here
    split
    · rename_i leaf
      exact Or.inr ⟨id, DirectoryTree.dirAt_eq_some.mp here, leaf⟩
    · exact Or.inl rfl
  · exact Or.inl rfl

/-- Either nothing is renamed, or a directory that watches on its new parent and on itself tell
of.
-/
theorem rename_cases (self : WatchedTree) (fromParent : Location) (fromName : FileName)
    (toParent : Location) (toName : FileName)
    : self.rename fromParent fromName toParent toName = self
      ∨ ∃ free id toId, (fromParent.descend [fromName], id) ∈ self.tree.dirs
          ∧ (toParent, toId) ∈ self.tree.dirs
          ∧ toParent.startsWith (fromParent.descend [fromName]) = false
          ∧ Told
              { self with
                tree := self.tree.move (fromParent.descend [fromName])
                  (toParent.descend [toName]) free }
              (self.rename fromParent fromName toParent toName)
          ∧ (toId ∈ self.live →
              ⟨toId, [.movedTo, .isDir], some toName⟩
                ∈ (self.rename fromParent fromName toParent toName).backend.unread)
          ∧ (id ∈ self.live →
              ⟨id, [.moveSelf, .isDir], none⟩
                ∈ (self.rename fromParent fromName toParent toName).backend.unread) := by
  unfold rename
  dsimp only
  split
  · rename_i free
    split
    · rename_i id toId here toHere
      split
      · exact Or.inl rfl
      · rename_i outside
        refine Or.inr ⟨free, id, toId, DirectoryTree.dirAt_eq_some.mp here,
          DirectoryTree.dirAt_eq_some.mp toHere, by simpa using outside,
          ((told_report ..).trans (told_report ..)).trans (told_report ..), ?_, ?_⟩
        · intro live
          refine (told_report ..).unread (mem_unread_report ?_)
          rw [(told_report ..).live]
          exact live
        · intro live
          refine mem_unread_report ?_
          rw [(told_report ..).live, (told_report ..).live]
          exact live
    · exact Or.inl rfl
  · exact Or.inl rfl

theorem handle_nil (none : self.backend.unread = []) : self.handle = (.empty, self) := by
  simp [handle, none]

variable {event : LinuxInotifyEvent}

theorem handle_cons {rest : List LinuxInotifyEvent} (some : self.backend.unread = event :: rest)
    : self.handle
      = ({ self with backend := { self.backend with unread := rest } }).handleEvent event := by
  simp [handle, some]

theorem not_live_of_unwatched (unwatched : self.watches path = false)
    (here : (path, id) ∈ self.tree.dirs)
    : id ∉ self.live := by
  intro live
  have watched := watches_iff.mpr ⟨id, live, here⟩
  rw [unwatched] at watched
  cases watched

theorem Sound.mkdir (sound : self.Sound) : (self.mkdir parent childName).Sound := by
  rcases self.mkdir_cases parent childName with same | ⟨free, id, _, told, _⟩
  · rw [same]
    exact sound
  · refine sound.of_changed told rfl rfl rfl (Nat.le_succ _) ?_
    intro path id member _ live
    rcases List.mem_cons.mp member with new | old
    · cases new
      exact absurd (sound.older _ live) (Nat.lt_irrefl _)
    · exact old

theorem filter_live (unwatched : self.watches path = false) (here : (path, id) ∈ self.tree.dirs)
    : self.live.filter (· != id) = self.live := by
  refine List.filter_eq_self.mpr ?_
  intro watch live
  have other : watch ≠ id := fun same => not_live_of_unwatched unwatched here (same ▸ live)
  simpa using other

theorem Sound.rmdir (sound : self.Sound)
    (unwatched : self.tree.childless path = true → self.watches path = false)
    : (self.rmdir path).Sound := by
  rcases self.rmdir_cases path with same | ⟨id, here, leaf⟩
  · rw [same]
    exact sound
  · obtain ⟨changed, told, result, _⟩ := rmdir_of_childless here leaf
    have kept : self.live.filter (· != id) = changed.live := by
      rw [told.live]
      exact filter_live (unwatched leaf) here
    rw [result, kept]
    exact sound.of_changed told rfl rfl rfl (Nat.le_refl _)
      fun _ _ member _ _ => List.mem_of_mem_filter member

theorem mem_move (free : self.tree.vacant target = true)
    (member : (path, id) ∈ (self.tree.move source target free).dirs)
    : ((path, id) ∈ self.tree.dirs ∧ path.startsWith source = false)
      ∨ ∃ names, (source.descend names, id) ∈ self.tree.dirs ∧ path = target.descend names := by
  obtain ⟨⟨old, _⟩, among, moved⟩ := List.mem_map.mp member
  simp only [Prod.mk.injEq] at moved
  obtain ⟨moved, rfl⟩ := moved
  by_cases below : old.startsWith source = true
  · obtain ⟨names, rfl⟩ := Location.exists_descend below
    rw [Location.moved_of_below] at moved
    exact Or.inr ⟨names, among, moved.symm⟩
  · have apart : old.startsWith source = false := by simpa using below
    rw [Location.moved_of_not_below apart] at moved
    subst moved
    exact Or.inl ⟨among, apart⟩

def MovesAlone (self : WatchedTree) (source target : Location) : Prop :=
  ∀ names id, names ≠ [] → (source.descend names, id) ∈ self.tree.dirs →
    self.underRoots (target.descend names) = false

@[simp] theorem descend_nil : path.descend [] = path := by simp [Location.descend]

theorem Sound.rename (sound : self.Sound)
    (unwatched : self.watches (fromParent.descend [fromName]) = false)
    (alone : self.MovesAlone (fromParent.descend [fromName]) (toParent.descend [toName]))
    : (self.rename fromParent fromName toParent toName).Sound := by
  rcases self.rename_cases fromParent fromName toParent toName with
    same | ⟨free, id, toId, here, _, _, told, _, _⟩
  · rw [same]
    exact sound
  · refine sound.of_changed told rfl rfl rfl (Nat.le_refl _) ?_
    intro path watch member below live
    rcases mem_move free member with ⟨same, _⟩ | ⟨names, moved, rfl⟩
    · exact same
    · by_cases none : names = []
      · subst none
        rw [descend_nil] at moved
        exact absurd live (not_live_of_unwatched unwatched moved)
      · rw [alone names watch none moved] at below
        cases below

theorem Sound.writeFile (sound : self.Sound) : (self.writeFile parent childName).Sound :=
  sound.of_changed (told_report ..) rfl rfl rfl (Nat.le_refl _) fun _ _ member _ _ => member

theorem Sound.handleEvent (sound : self.Sound)
    : (self.handleEvent event).2.Sound := by
  unfold WatchedTree.handleEvent
  cases asked : self.backend.newWatch self.tree.world event with
  | none =>
      have same := @handleEvent_of_newWatch_none self.backend self.tree.world self.tracker
        self.config event asked
      simp only [same]
      exact ⟨sound.keys, sound.rooted, sound.labels, sound.older, sound.known⟩
  | some watch =>
      obtain ⟨path, _, known, _, answer, entered⟩ := @handleEvent_of_newWatch self.backend
        self.tree.world self.tracker self.config event watch asked
      have here := DirectoryTree.addWatch_eq_ok.mp answer
      have below : self.underRoots path = true := by
        unfold pathForEvent at known
        split at known
        · cases known
        · rename_i base label
          cases known
          exact underRoots_descend (sound.rooted _ _ label)
      simp only [entered]
      refine ⟨?_, ?_, ?_, ?_, ?_⟩
      · intro id
        simp only [insertWatch, Std.TreeMap.mem_insert, Std.LawfulEqCmp.compare_eq_iff_eq,
          Option.toList_some, List.singleton_append, List.mem_cons]
        exact or_congr eq_comm (sound.keys id)
      · intro id other label
        simp only [insertWatch, Std.TreeMap.getElem?_insert] at label
        split at label
        · cases label
          exact below
        · exact sound.rooted id other label
      · intro other id member under live
        simp only [insertWatch, Std.TreeMap.getElem?_insert, Std.LawfulEqCmp.compare_eq_iff_eq]
        split
        · rename_i same
          subst same
          rw [DirectoryTree.id_unique here member]
        · rename_i different
          simp only [Option.toList_some, List.singleton_append, List.mem_cons] at live
          exact sound.labels other id member under (live.resolve_left fun same => different same.symm)
      · intro id live
        simp only [Option.toList_some, List.singleton_append, List.mem_cons] at live
        rcases live with rfl | live
        · exact self.tree.older _ here
        · exact sound.older id live
      · intro unread member
        exact List.mem_cons_of_mem _ (sound.known unread member)

/-- Handling the first unread event keeps the entries sound, whatever has happened before. -/
theorem Sound.handle (sound : self.Sound) : self.handle.2.Sound := by
  cases unread : self.backend.unread with
  | nil =>
      rw [handle_nil unread]
      exact sound
  | cons event rest =>
      rw [handle_cons unread]
      have known : ∀ later ∈ rest, later.watch ∈ self.live :=
        fun later member => sound.known later (unread ▸ List.mem_cons_of_mem event member)
      have remaining : Sound { self with backend := { self.backend with unread := rest } } :=
        ⟨sound.keys, sound.rooted, sound.labels, sound.older, known⟩
      exact remaining.handleEvent

theorem handle_frame : self.handle.2.config = self.config ∧ self.handle.2.tree = self.tree
    ∧ self.handle.2.backend.unread = self.backend.unread.tail
    ∧ self.handle.2.backend.maxWatches = self.backend.maxWatches
    ∧ self.handle.2.bumped = (self.bumped || self.handle.1.generationBump) := by
  cases unread : self.backend.unread with
  | nil =>
      rw [handle_nil unread]
      exact ⟨rfl, rfl, unread, rfl, by simp [EventInvalidation.empty]⟩
  | cons event rest =>
      rw [handle_cons unread]
      exact ⟨rfl, rfl, unread_handleEvent, maxWatches_handleEvent, rfl⟩

/-- What handling an event keeps holds after a drain, by induction on the events. -/
theorem drain_kept {inv : WatchedTree → Prop} (kept : ∀ tree, inv tree → inv tree.handle.2)
    (holds : inv self)
    : inv self.drain.2 := by
  have all : ∀ events invalidation (tree : WatchedTree), inv tree →
      inv (handleAll events (invalidation, tree)).2 := by
    intro events
    induction events with
    | nil => exact fun _ _ holds => holds
    | cons event rest ih => exact fun _ _ holds => ih _ _ (kept _ holds)
  exact all _ _ self holds

theorem drain_tree : self.drain.2.tree = self.tree :=
  @drain_kept self (fun tree => tree.tree = self.tree)
    (fun _ same => handle_frame.2.1.trans same) rfl

theorem drain_config : self.drain.2.config = self.config :=
  @drain_kept self (fun tree => tree.config = self.config)
    (fun _ same => handle_frame.1.trans same) rfl

theorem drain_unread : self.drain.2.backend.unread = [] := by
  have all : ∀ events invalidation (tree : WatchedTree), tree.backend.unread = events →
      (handleAll events (invalidation, tree)).2.backend.unread = [] := by
    intro events
    induction events with
    | nil => exact fun _ _ none => none
    | cons event rest ih =>
        intro _ tree unread
        refine ih _ _ ?_
        rw [handle_frame.2.2.1, unread, List.tail_cons]
  exact all _ _ self rfl

theorem handle_backend {rest : List LinuxInotifyEvent} (some : self.backend.unread = event :: rest)
    : self.handle.1
        = (self.backend.handleEvent self.tree.world self.tracker self.config event).1
      ∧ self.handle.2.backend
        = { (self.backend.handleEvent self.tree.world self.tracker self.config event).2 with
            unread := rest } := by
  rw [handle_cons some]
  have same := @handleEvent_unread self.backend self.tree.world self.tracker self.config event rest
  exact ⟨congrArg Prod.fst same, congrArg Prod.snd same⟩

/-- A drain does what the backend's own drain does, by induction on the events. -/
theorem drain_backend
    : self.drain.1 = (self.backend.drain self.tree.world self.tracker self.config).1
      ∧ self.drain.2.backend
        = (self.backend.drain self.tree.world self.tracker self.config).2 := by
  have all : ∀ events invalidation (tree : WatchedTree), tree.backend.unread = events →
      (handleAll events (invalidation, tree)).1
          = (tree.backend.handleEvents tree.tree.world tree.tracker tree.config events
              invalidation).1
        ∧ (handleAll events (invalidation, tree)).2.backend
          = { (tree.backend.handleEvents tree.tree.world tree.tracker tree.config events
              invalidation).2 with unread := [] } := by
    intro events
    induction events with
    | nil =>
        intro _ tree none
        refine ⟨rfl, ?_⟩
        show tree.backend = { tree.backend with unread := [] }
        rw [← none]
    | cons event rest ih =>
        intro invalidation tree unread
        obtain ⟨config, same, tail, _⟩ := @handle_frame tree
        obtain ⟨marked, backend⟩ := handle_backend unread
        rw [unread, List.tail_cons] at tail
        obtain ⟨first, second⟩ := ih (invalidation.merge tree.handle.1) tree.handle.2 tail
        simp only [tracker, config, same, backend, handleEvents_unread] at first second
        rw [marked] at first second
        rw [handleAll, LinuxInotifyBackend.handleEvents, marked]
        exact ⟨first, second⟩
  exact all _ _ self rfl

end WatchedTree

namespace WatchStart

variable {self : WatchStart} {watch : WatchDescriptor} {path : Location}

/-- At the start each entry is for a directory at or below a root. -/
theorem mem_dirs (label : self.backend.watchPaths[watch]? = some path)
    : (path, watch) ∈ self.tree.dirs ∧ self.watching.underRoots path = true := by
  have planned := (LinuxInotifyBackend.start_entries self.started).1 watch path label
  obtain ⟨root, member, below⟩ := EventSourcePlan.watchedDirs_fits.all path planned
  exact ⟨DirectoryTree.addWatch_eq_ok.mp (LinuxInotifyBackend.start_labels self.started label),
    List.any_eq_true.mpr ⟨root, member, below⟩⟩

theorem label_of_live (live : watch ∈ self.watching.live)
    : ∃ path, self.backend.watchPaths[watch]? = some path := by
  have entered : watch ∈ self.backend.watchPaths := Std.TreeMap.mem_keys.mp live
  exact ⟨_, Std.TreeMap.getElem?_eq_some_getElem entered⟩

theorem sound : self.watching.Sound where
  keys id := Std.TreeMap.mem_keys.symm
  rooted id path label := (mem_dirs label).2
  labels path id member _ live := by
    obtain ⟨other, label⟩ := label_of_live live
    rw [DirectoryTree.id_unique member (mem_dirs label).1]
    exact label
  older id live := by
    obtain ⟨path, label⟩ := label_of_live live
    exact self.tree.older _ (mem_dirs label).1
  known event unread := by
    have none := LinuxInotifyBackend.unread_of_start self.started
    change event ∈ self.backend.unread at unread
    rw [none] at unread
    cases unread

end WatchStart

end StorageBallast
