import StorageBallast.Scanner.WatchLabels

/-! Which directories a drain leaves unwatched. A watch is added for a directory that an event
names, so a directory is missed that comes without an event of its own.
-/

namespace StorageBallast

namespace WatchedTree

open LinuxInotifyBackend

variable {self : WatchedTree} {path parent : Location} {childName : FileName}
  {id : WatchDescriptor} {input : TreeStep}

/-- Unless a generation bump has been called for, a drain leaves each directory below the roots
watched under its path, and after a write in such a directory it marks a root above the file.
-/
structure Covers (seen : WatchedTree) : Prop where
  watched : seen.drain.2.bumped = false → ∀ path id, (path, id) ∈ seen.tree.dirs →
    seen.underRoots path = true →
      id ∈ seen.drain.2.live ∧ seen.drain.2.backend.watchPaths[id]? = some path
  reported : ∀ path id name, (path, id) ∈ seen.tree.dirs → seen.underRoots path = true →
    (seen.writeFile path name).drain.2.bumped = false →
      ∃ root ∈ seen.config.rootPaths, (path.descend [name]).startsWith root = true
        ∧ root ∈ (seen.writeFile path name).drain.1.dirtyRoots

def Lost (self : WatchedTree) : Prop :=
  self.bumped = true ∨ ∃ event ∈ self.backend.unread, losesWatch event.mask = true

def Heralds (self : WatchedTree) (parent : Location) (name : FileName) : Prop :=
  self.underRoots (parent.descend [name]) = true →
    self.underRoots parent = true ∧ self.watches parent = true

/-- What comes to a place below the roots comes alone, and into a watched directory. -/
def ArrivesAlone (self : WatchedTree) : TreeStep → Prop
  | .mkdir parent name =>
      self.tree.vacant (parent.descend [name]) = true → (self.tree.dirAt parent).isSome = true →
        self.Heralds parent name
  | .rename fromParent fromName toParent toName =>
      self.tree.vacant (toParent.descend [toName]) = true →
        (self.tree.dirAt (fromParent.descend [fromName])).isSome = true →
        (self.tree.dirAt toParent).isSome = true →
        toParent.startsWith (fromParent.descend [fromName]) = false →
          self.Heralds toParent toName
          ∧ self.MovesAlone (fromParent.descend [fromName]) (toParent.descend [toName])
  | .rmdir _ | .writeFile .. | .handle => True

def KeepsCoverage (self : WatchedTree) (input : TreeStep) : Prop :=
  self.Lost ∨ self.ArrivesAlone input

theorem Lost.of_told {changed next : WatchedTree} (lost : self.Lost) (told : Told changed next)
    (bumped : changed.bumped = self.bumped) (backend : changed.backend = self.backend)
    : next.Lost := by
  rcases lost with already | ⟨event, unread, loses⟩
  · exact Or.inl ((told.bumped.trans bumped).trans already)
  · refine Or.inr ⟨event, told.unread ?_, loses⟩
    rw [backend]
    exact unread

/-- An event that is a loss calls for the bump when it is handled. -/
theorem Lost.handle (lost : self.Lost) : self.handle.2.Lost := by
  have frame := @handle_frame self
  rcases lost with already | ⟨event, unread, loses⟩
  · exact Or.inl (by rw [frame.2.2.2.2, already, Bool.true_or])
  · cases queue : self.backend.unread with
    | nil =>
        rw [queue] at unread
        cases unread
    | cons first rest =>
        rw [queue] at unread
        rcases List.mem_cons.mp unread with rfl | later
        · refine Or.inl ?_
          rw [frame.2.2.2.2, (handle_backend queue).1, generationBump_of_losesWatch loses,
            Bool.or_true]
        · refine Or.inr ⟨event, ?_, loses⟩
          rw [frame.2.2.1, queue]
          exact later

theorem Lost.step (lost : self.Lost) : (self.step input).Lost := by
  cases input with
  | mkdir parent name =>
      change (self.mkdir parent name).Lost
      rcases self.mkdir_cases parent name with same | ⟨free, id, _, told, _⟩
      · rw [same]
        exact lost
      · exact lost.of_told told rfl rfl
  | rmdir path =>
      change (self.rmdir path).Lost
      rcases self.rmdir_cases path with same | ⟨id, here, leaf⟩
      · rw [same]
        exact lost
      · obtain ⟨changed, told, result, _⟩ := rmdir_of_childless here leaf
        have lost : changed.Lost := lost.of_told told rfl rfl
        rw [result]
        exact lost
  | rename fromParent fromName toParent toName =>
      change (self.rename fromParent fromName toParent toName).Lost
      rcases self.rename_cases fromParent fromName toParent toName with
        same | ⟨free, id, toId, _, _, _, told, _, _⟩
      · rw [same]
        exact lost
      · exact lost.of_told told rfl rfl
  | writeFile parent name => exact lost.of_told (told_report ..) rfl rfl
  | handle => exact lost.handle

theorem not_lost_of_drain (calm : self.drain.2.bumped = false) : ¬ self.Lost := by
  intro lost
  have after : self.drain.2.Lost := drain_kept (fun _ => Lost.handle) lost
  rcases after with bumped | ⟨event, unread, _⟩
  · rw [calm] at bumped
    cases bumped
  · rw [drain_unread] at unread
    cases unread

def Expected (self : WatchedTree) (path : Location) : Prop :=
  ∃ parent name mask id, path = parent.descend [name] ∧ self.underRoots parent = true
    ∧ (parent, id) ∈ self.tree.dirs ∧ id ∈ self.live
    ∧ ⟨id, mask, some name⟩ ∈ self.backend.unread ∧ bringsDirectory mask = true

/-- Each directory below the roots is watched, or will be once the queue is empty. -/
structure Covering (seen : WatchedTree) : Prop where
  sound : seen.Sound
  expected : ∀ path id, (path, id) ∈ seen.tree.dirs → seen.underRoots path = true →
    id ∈ seen.live ∨ seen.Expected path

/-- An expected directory stays expected as long as its parent stays where it is. -/
theorem Expected.of_changed {changed next : WatchedTree} (expected : self.Expected path)
    (told : Told changed next) (config : changed.config = self.config)
    (live : changed.live = self.live) (backend : changed.backend = self.backend)
    (kept : ∀ parent name id, path = parent.descend [name] → id ∈ self.live →
      (parent, id) ∈ self.tree.dirs → (parent, id) ∈ changed.tree.dirs)
    : next.Expected path := by
  obtain ⟨parent, name, mask, id, split, below, here, watched, unread, brings⟩ := expected
  refine ⟨parent, name, mask, id, split, ?_, ?_, ?_, ?_, brings⟩
  · rw [underRoots, told.config, config]
    exact below
  · rw [told.tree]
    exact kept parent name id split watched here
  · rw [told.live, live]
    exact watched
  · refine told.unread ?_
    rw [backend]
    exact unread

theorem expected_of_heralds {changed next : WatchedTree} {mask : EventMask}
    (heralds : self.Heralds parent childName) (told : Told changed next)
    (config : changed.config = self.config) (live : changed.live = self.live)
    (here : (parent, id) ∈ self.tree.dirs)
    (stays : (parent, id) ∈ changed.tree.dirs)
    (tells : id ∈ self.live → ⟨id, mask, some childName⟩ ∈ next.backend.unread)
    (brings : bringsDirectory mask = true)
    (below : self.underRoots (parent.descend [childName]) = true)
    : next.Expected (parent.descend [childName]) := by
  obtain ⟨above, watched⟩ := heralds below
  obtain ⟨other, watching, same⟩ := watches_iff.mp watched
  cases DirectoryTree.path_unique here same
  refine ⟨parent, childName, mask, id, rfl, ?_, ?_, ?_, tells watching, brings⟩
  · rw [underRoots, told.config, config]
    exact above
  · rw [told.tree]
    exact stays
  · rw [told.live, live]
    exact watching

/-- A directory that is not at or below the moved one stays where it is. -/
theorem mem_move_of_apart {source target : Location} (free : self.tree.vacant target = true)
    (member : (path, id) ∈ self.tree.dirs) (apart : path.startsWith source = false)
    : (path, id) ∈ (self.tree.move source target free).dirs := by
  refine List.mem_map.mpr ⟨_, member, ?_⟩
  rw [Location.moved_of_not_below apart]

theorem parent_apart {source : Location} {names : List FileName}
    (apart : (path.descend names).startsWith source = false)
    : path.startsWith source = false := by
  by_contra below
  have below : path.startsWith source = true := by simpa using below
  rw [Location.startsWith_trans (path.descend_startsWith names) below] at apart
  cases apart

theorem Covering.mkdir (covering : self.Covering)
    (alone : self.ArrivesAlone (.mkdir parent childName))
    : (self.mkdir parent childName).Covering := by
  have sound := @Sound.mkdir self parent childName covering.sound
  rcases self.mkdir_cases parent childName with same | ⟨free, id, here, told, tells⟩
  · rw [same]
    exact covering
  · refine ⟨sound, ?_⟩
    intro path watch member below
    rw [told.tree] at member
    rw [underRoots, told.config] at below
    rcases List.mem_cons.mp member with new | old
    · cases new
      have heralds := alone free (by rw [DirectoryTree.dirAt_eq_some.mpr here]; rfl)
      exact Or.inr (expected_of_heralds heralds told rfl rfl here (List.mem_cons_of_mem _ here)
        tells rfl below)
    · refine (covering.expected path watch old below).imp ?_ ?_
      · intro live
        rw [told.live]
        exact live
      · intro expected
        exact expected.of_changed told rfl rfl rfl fun _ _ _ _ _ among => List.mem_cons_of_mem _ among

/-- Removing a watched directory is a loss, and removing another one takes no parent away from
an expected one.
-/
theorem Covering.rmdir (covering : self.Covering)
    : (self.rmdir path).Lost ∨ (self.rmdir path).Covering := by
  rcases self.rmdir_cases path with same | ⟨id, here, leaf⟩
  · rw [same]
    exact Or.inr covering
  · obtain ⟨changed, told, result, tells⟩ := rmdir_of_childless here leaf
    cases watched : self.watches path with
    | true =>
        obtain ⟨other, live, same⟩ := watches_iff.mp watched
        cases DirectoryTree.path_unique here same
        rw [result]
        exact Or.inl (Or.inr ⟨_, tells live, rfl⟩)
    | false =>
        have sound := covering.sound.rmdir fun _ => watched
        have live : self.live.filter (· != id) = changed.live := by
          rw [told.live]
          exact filter_live watched here
        rw [result, live] at sound ⊢
        refine Or.inr ⟨sound, ?_⟩
        intro other watch member below
        change (other, watch) ∈ changed.tree.dirs at member
        change changed.underRoots other = true at below
        rw [told.tree] at member
        rw [underRoots, told.config] at below
        have old := List.mem_of_mem_filter member
        refine (covering.expected other watch old below).imp ?_ ?_
        · intro watching
          change watch ∈ changed.live
          rw [told.live]
          exact watching
        · intro expected
          have stays := expected.of_changed told rfl rfl rfl (by
            intro parent name parentId _ watching among
            refine List.mem_filter.mpr ⟨among, ?_⟩
            have different : parent ≠ path := by
              rintro rfl
              exact not_live_of_unwatched watched among watching
            simpa using different)
          exact stays

theorem Covering.rename {fromParent toParent : Location} {fromName toName : FileName}
    (covering : self.Covering)
    (alone : self.ArrivesAlone (.rename fromParent fromName toParent toName))
    : (self.rename fromParent fromName toParent toName).Lost
      ∨ (self.rename fromParent fromName toParent toName).Covering := by
  rcases self.rename_cases fromParent fromName toParent toName with
    same | ⟨free, id, toId, here, toHere, outside, told, tells, leaves⟩
  · rw [same]
    exact Or.inr covering
  · cases watched : self.watches (fromParent.descend [fromName]) with
    | true =>
        obtain ⟨other, live, same⟩ := watches_iff.mp watched
        cases DirectoryTree.path_unique here same
        exact Or.inl (Or.inr ⟨_, leaves live, rfl⟩)
    | false =>
        obtain ⟨heralds, moves⟩ := alone free
          (by rw [DirectoryTree.dirAt_eq_some.mpr here]; rfl)
          (by rw [DirectoryTree.dirAt_eq_some.mpr toHere]; rfl) outside
        refine Or.inr ⟨covering.sound.rename watched moves, ?_⟩
        intro path watch member below
        rw [told.tree] at member
        rw [underRoots, told.config] at below
        rcases mem_move free member with ⟨old, apart⟩ | ⟨names, moved, rfl⟩
        · refine (covering.expected path watch old below).imp ?_ ?_
          · intro live
            rw [told.live]
            exact live
          · intro expected
            refine expected.of_changed told rfl rfl rfl ?_
            rintro parent name parentId rfl _ among
            exact mem_move_of_apart free among (parent_apart apart)
        · by_cases none : names = []
          · subst none
            rw [descend_nil] at below ⊢
            exact Or.inr (expected_of_heralds heralds told rfl rfl toHere
              (mem_move_of_apart free toHere outside) tells rfl below)
          · have away := moves names watch none moved
            rw [underRoots] at away
            dsimp only at below
            rw [away] at below
            cases below

theorem Covering.writeFile (covering : self.Covering)
    : (self.writeFile parent childName).Covering := by
  have told : Told self (self.writeFile parent childName) := told_report ..
  refine ⟨covering.sound.writeFile, ?_⟩
  intro path watch member below
  rw [told.tree] at member
  rw [underRoots, told.config] at below
  refine (covering.expected path watch member below).imp ?_ ?_
  · intro live
    rw [told.live]
    exact live
  · intro expected
    exact expected.of_changed told rfl rfl rfl fun _ _ _ _ _ among => among

/-- The event that a directory is expected from leads to a watch on it, or to a bump. -/
theorem live_of_expected_event {event : LinuxInotifyEvent} {rest : List LinuxInotifyEvent}
    (unread : self.backend.unread = event :: rest) (calm : self.handle.2.bumped = false)
    (brings : bringsDirectory event.mask = true)
    (known : self.backend.pathForEvent event = some path) (member : (path, id) ∈ self.tree.dirs)
    : id ∈ self.handle.2.live := by
  rw [handle_cons unread]
  refine List.mem_append_left _ (Option.mem_toList.mpr ?_)
  change self.backend.newWatch self.tree.world event = some id
  cases asked : self.backend.newWatch self.tree.world event with
  | none =>
      have bump := @generationBump_of_newWatch_none self.backend self.tree.world self.tracker
        self.config event asked brings
      rw [handle_frame.2.2.2.2, (handle_backend unread).1, bump, Bool.or_true] at calm
      cases calm
  | some watch =>
      obtain ⟨found, _, same, _, answer, _⟩ := @handleEvent_of_newWatch self.backend
        self.tree.world self.tracker self.config event watch asked
      cases known.symm.trans same
      rw [DirectoryTree.path_unique member (DirectoryTree.addWatch_eq_ok.mp answer)]

theorem live_handle_of_live (live : id ∈ self.live) : id ∈ self.handle.2.live := by
  cases unread : self.backend.unread with
  | nil =>
      rw [handle_nil unread]
      exact live
  | cons event rest =>
      rw [handle_cons unread]
      exact List.mem_append_right _ live

theorem Covering.handle (covering : self.Covering)
    : self.handle.2.Lost ∨ self.handle.2.Covering := by
  cases calm : self.handle.2.bumped with
  | true => exact Or.inl (Or.inl calm)
  | false =>
      refine Or.inr ⟨covering.sound.handle, ?_⟩
      obtain ⟨config, same, tail, _⟩ := @handle_frame self
      intro path watch member below
      rw [same] at member
      rw [underRoots, config] at below
      rcases covering.expected path watch member below with live | expected
      · exact Or.inl (live_handle_of_live live)
      · obtain ⟨parent, name, mask, id, rfl, above, here, live, unread, brings⟩ := expected
        cases queue : self.backend.unread with
        | nil =>
            rw [queue] at unread
            cases unread
        | cons event rest =>
            rw [queue] at unread tail
            rcases List.mem_cons.mp unread with rfl | later
            · have known : self.backend.pathForEvent ⟨id, mask, some name⟩
                  = some (parent.descend [name]) := by
                unfold pathForEvent
                rw [covering.sound.labels parent id here above live]
                rfl
              exact Or.inl
                (live_of_expected_event queue calm brings known member)
            · refine Or.inr ⟨parent, name, mask, id, rfl, ?_, same ▸ here,
                live_handle_of_live live, ?_, brings⟩
              · rw [underRoots, config]
                exact above
              · rw [tail]
                exact later

/-- A step either loses sight, or keeps the directories covered. -/
theorem Covering.step (covering : self.Covering) (keeps : self.KeepsCoverage input)
    : (self.step input).Lost ∨ (self.step input).Covering := by
  rcases keeps with lost | alone
  · exact Or.inl lost.step
  · cases input with
    | mkdir parent name => exact Or.inr (covering.mkdir alone)
    | rmdir path => exact covering.rmdir
    | rename fromParent fromName toParent toName => exact covering.rename alone
    | writeFile parent name => exact Or.inr covering.writeFile
    | handle => exact covering.handle

theorem lost_or_covering_step (holds : self.Lost ∨ self.Covering)
    (keeps : self.KeepsCoverage input)
    : (self.step input).Lost ∨ (self.step input).Covering := by
  rcases holds with lost | covering
  · exact Or.inl lost.step
  · exact covering.step keeps

/-- Once the queue is empty, nothing is expected any more. -/
theorem watched_of_covering (holds : self.Lost ∨ self.Covering)
    (calm : self.drain.2.bumped = false) (member : (path, id) ∈ self.tree.dirs)
    (below : self.underRoots path = true)
    : id ∈ self.drain.2.live ∧ self.drain.2.backend.watchPaths[id]? = some path := by
  have kept : ∀ tree : WatchedTree, tree.Lost ∨ tree.Covering →
      tree.handle.2.Lost ∨ tree.handle.2.Covering :=
    fun tree holds => holds.elim (fun lost => Or.inl lost.handle) fun covering => covering.handle
  have after := drain_kept kept holds
  rcases after with (bumped | ⟨event, unread, _⟩) | covering
  · rw [calm] at bumped
    cases bumped
  · rw [drain_unread] at unread
    cases unread
  · have member : (path, id) ∈ self.drain.2.tree.dirs := by
      rw [drain_tree]
      exact member
    have below : self.drain.2.underRoots path = true := by
      rw [underRoots, drain_config]
      exact below
    rcases covering.expected path id member below with live | ⟨_, _, _, _, _, _, _, _, unread, _⟩
    · exact ⟨live, covering.sound.labels path id member below live⟩
    · rw [drain_unread] at unread
      cases unread

theorem Sound.backend_known (sound : self.Sound) : self.backend.Known :=
  fun event unread _ => (sound.keys _).mpr (sound.known event unread)

/-- No event brings in a directory that is entered under another path. -/
theorem Sound.backend_steady (sound : self.Sound) : self.backend.Steady self.tree.world := by
  intro event _ _ path known watch answer other label
  have entered : watch ∈ self.backend.watchPaths :=
    Std.TreeMap.mem_iff_isSome_getElem?.mpr (by rw [label]; rfl)
  have below : self.underRoots path = true := by
    unfold pathForEvent at known
    split at known
    · cases known
    · rename_i base labelled
      cases known
      exact underRoots_descend (sound.rooted _ _ labelled)
  have right := sound.labels path watch (DirectoryTree.addWatch_eq_ok.mp answer) below
    ((sound.keys watch).mp entered)
  exact Or.inl (Option.some.inj (label.symm.trans right))

/-- An unread event for a path below the roots makes the drain mark a root above that path. -/
theorem mem_drain_of_event (sound : self.Sound) {event : LinuxInotifyEvent}
    (unread : event ∈ self.backend.unread) (known : self.backend.pathForEvent event = some path)
    (below : self.underRoots path = true)
    : ∃ root ∈ self.config.rootPaths, path.startsWith root = true
        ∧ root ∈ self.drain.1.dirtyRoots := by
  obtain ⟨above, member, starts⟩ := List.any_eq_true.mp below
  cases found : rootForPath self.tracker.roots path with
  | none =>
      have none := List.find?_eq_none.mp found above (mem_sortedRoots.mpr member)
      exact absurd starts none
  | some root =>
      have tracked : root ∈ self.tracker.roots := List.mem_of_find?_eq_some found
      have configured : root ∈ self.config.rootPaths := mem_sortedRoots.mp tracked
      refine ⟨root, configured, List.find?_some found, ?_⟩
      rw [drain_backend.1]
      exact mem_drain tracked configured sound.backend_known sound.backend_steady
        ⟨event, unread, Or.inr ⟨path, known, Or.inl found⟩⟩

/-- A write is reported through the watch on its directory, or with the directory itself. -/
theorem reported_of_covering (covering : self.Covering) (member : (path, id) ∈ self.tree.dirs)
    (below : self.underRoots path = true) (name : FileName)
    : ∃ root ∈ self.config.rootPaths, (path.descend [name]).startsWith root = true
        ∧ root ∈ (self.writeFile path name).drain.1.dirtyRoots := by
  have told : Told self (self.writeFile path name) := told_report ..
  have covering' : (self.writeFile path name).Covering := covering.writeFile
  have under : ∀ {place}, self.underRoots place = true →
      (self.writeFile path name).underRoots place = true := by
    intro place inside
    rw [underRoots, told.config]
    exact inside
  rcases covering.expected path id member below with live | expected
  · have unread : ⟨id, [.modify], some name⟩ ∈ (self.writeFile path name).backend.unread := by
      unfold WatchedTree.writeFile
      rw [DirectoryTree.dirAt_eq_some.mpr member]
      exact mem_unread_report live
    have known : (self.writeFile path name).backend.pathForEvent ⟨id, [.modify], some name⟩
        = some (path.descend [name]) := by
      unfold pathForEvent
      rw [told.watchPaths, covering.sound.labels path id member below live]
      rfl
    obtain ⟨root, configured, starts, marked⟩ :=
      mem_drain_of_event covering'.sound unread known (under (underRoots_descend below))
    rw [told.config] at configured
    exact ⟨root, configured, starts, marked⟩
  · obtain ⟨parent, own, mask, parentId, rfl, above, here, live, unread, _⟩ := expected
    have known : (self.writeFile (parent.descend [own]) name).backend.pathForEvent
        ⟨parentId, mask, some own⟩ = some (parent.descend [own]) := by
      unfold pathForEvent
      rw [told.watchPaths, covering.sound.labels parent parentId here above live]
      rfl
    obtain ⟨root, configured, starts, marked⟩ :=
      mem_drain_of_event covering'.sound (told.unread unread) known (under below)
    rw [told.config] at configured
    exact ⟨root, configured,
      Location.startsWith_trans (Location.descend_startsWith _ _) starts, marked⟩

/-- What is lost or covered is as good as the coverage asks for. -/
theorem covers_of (holds : self.Lost ∨ self.Covering) : self.Covers where
  watched calm path id member below := watched_of_covering holds calm member below
  reported path id name member below calm := by
    have told : Told self (self.writeFile path name) := told_report ..
    have covering := holds.resolve_left fun lost =>
      not_lost_of_drain calm (lost.of_told told rfl rfl)
    exact reported_of_covering covering member below name

end WatchedTree

/-- A backend started with a complete plan. Every directory but the topmost ones is in another
one.
-/
structure CompleteStart extends WatchStart where
  complete : (EventSourcePlan.forConfig tree.world config).complete = true
  closed : ∀ path name id, (Location.descend path [name], id) ∈ tree.dirs →
    ∃ above, (path, above) ∈ tree.dirs

namespace CompleteStart

variable {self : CompleteStart} {root path : Location} {id : WatchDescriptor}

/-- Planning gets to each directory below a root, by induction on the way down. -/
theorem plainBelow (names : List FileName) (member : (root.descend names, id) ∈ self.tree.dirs)
    : PlainBelow self.tree.world root (root.descend names) := by
  induction names using List.reverseRecOn generalizing id with
  | nil =>
      rw [WatchedTree.descend_nil]
      exact .here
  | append_singleton names name ih =>
      have split : root.descend (names ++ [name]) = (root.descend names).descend [name] := by
        simp [Location.descend]
      rw [split] at member ⊢
      obtain ⟨above, parent⟩ := self.closed _ _ _ member
      let inside := self.tree.dirs.filterMap fun dir =>
        DirectoryTree.childName (root.descend names) dir.1
      have read : self.tree.world.readDir (root.descend names) = .ok inside := by
        simp only [DirectoryTree.world, DirectoryTree.dirAt_eq_some.mpr parent, Option.isSome_some,
          if_true, inside]
      have among : name ∈ inside := List.mem_filterMap.mpr ⟨_, member, DirectoryTree.childName_descend⟩
      have plain : self.tree.world.isPlainDir ((root.descend names).descend [name]) = .ok true := by
        simp only [DirectoryTree.world, DirectoryTree.dirAt_eq_some.mpr member, Option.isSome_some,
          if_true]
      exact .down (ih parent) read among plain

/-- A complete plan leaves no directory below the roots without a watch. -/
theorem covering (self : CompleteStart) : self.watching.Covering where
  sound := self.toWatchStart.sound
  expected path id member below := by
    obtain ⟨root, configured, starts⟩ := List.any_eq_true.mp below
    obtain ⟨names, rfl⟩ := Location.exists_descend starts
    have planned := EventSourcePlan.mem_watchedDirs self.complete configured
      (plainBelow names member)
    obtain ⟨watch, answer, entered⟩ :=
      LinuxInotifyBackend.start_watches self.started _ planned
    have same := DirectoryTree.path_unique member (DirectoryTree.addWatch_eq_ok.mp answer)
    subst same
    exact Or.inl (Std.TreeMap.mem_keys.mpr entered)

end CompleteStart

open WatchedTree in
/-- As long as what comes to a place below the roots comes alone and into a watched directory,
every drain leaves the directories below the roots covered.
-/
theorem coverage_kept (start : CompleteStart) (inputs : List TreeStep)
    (keeps : Runs.Guarded step KeepsCoverage start.watching inputs)
    : ∀ tree ∈ Runs.states step start.watching inputs, tree.Covers := by
  have kept : ∀ tree input, tree.Lost ∨ tree.Covering → KeepsCoverage tree input →
      (tree.step input).Lost ∨ (tree.step input).Covering :=
    fun _ _ holds keeps => lost_or_covering_step holds keeps
  intro tree member
  exact covers_of (Runs.invariant_of_guarded kept (Or.inr start.covering) keeps tree member)

def watchedRoot : Location := ⟨[⟨"data", .refl true⟩]⟩

def outerName : FileName := ⟨"outer", by decide⟩

def innerName : FileName := ⟨"inner", by decide⟩

def emptyRootStart : CompleteStart where
  config := ⟨[watchedRoot], .auto, 16⟩
  tree := ⟨[(.root, 0), (watchedRoot, 1)], 2, by decide, by decide, by decide⟩
  backend := ⟨[], (∅ : Std.TreeMap WatchDescriptor Location).insert 1 watchedRoot, 16⟩
  started := by rfl
  complete := by decide
  closed := by
    intro path name id member
    rcases List.mem_cons.mp member with topmost | member
    · have names := congrArg (fun dir => dir.1.names) topmost
      simp [Location.descend, Location.root] at names
    · have names := congrArg (fun dir => dir.1.names) (List.mem_singleton.mp member)
      have above : path.names = [] := (List.append_eq_singleton_iff.mp names).elim
        (fun split => split.1) fun split => by cases split.2
      exact ⟨0, List.mem_cons.mpr (Or.inl (by cases path; cases above; rfl))⟩

open WatchedTree in
/-- A directory in another one, with a drain in between. -/
theorem nested_directory_covered
    : (Runs.final step emptyRootStart.watching
        [.mkdir watchedRoot outerName, .handle,
          .mkdir (watchedRoot.descend [outerName]) innerName]).Covers := by
  refine coverage_kept emptyRootStart [.mkdir watchedRoot outerName, .handle,
    .mkdir (watchedRoot.descend [outerName]) innerName] ⟨?_, ?_, ?_, trivial⟩ _
      (Runs.final_mem_states _ _)
  · exact Or.inr fun _ _ _ => by decide
  · exact Or.inr trivial
  · exact Or.inr fun _ _ _ => by decide

open WatchedTree in
/-- Without the drain in between the inner directory stays unwatched. -/
theorem nested_directory_missed
    : ¬ (∀ tree ∈ Runs.states step emptyRootStart.watching
          [.mkdir watchedRoot outerName, .mkdir (watchedRoot.descend [outerName]) innerName,
            .handle],
          tree.Covers) := by
  intro covers
  have last := covers _ (Runs.final_mem_states _ _)
  have watched := last.watched (by decide)
    (watchedRoot.descend [outerName, innerName]) 3 (by decide) (by decide)
  exact absurd watched.1 (by decide)

end StorageBallast
