import StorageBallast.Scanner.EventDraining

/-! What a complete watch plan covers: every plain directory that the planning walk could come
to from one of the roots, so a source started from it leaves none of them unwatched.
-/

namespace StorageBallast

inductive PlainBelow (world : WatchWorld) (root : Location) : Location → Prop where
  | here : PlainBelow world root root
  | down {dir : Location} {names : List FileName} {name : FileName}
      : PlainBelow world root dir → world.readDir dir = .ok names → name ∈ names →
        world.isPlainDir (dir.descend [name]) = .ok true →
        PlainBelow world root (dir.descend [name])

/-- The directory has been read, and the directories in it are among the watched ones. -/
def Explored (world : WatchWorld) (watched : List Location) (dir : Location) : Prop :=
  ∃ names, world.readDir dir = .ok names
    ∧ ∀ name ∈ names, world.isPlainDir (dir.descend [name]) = .ok true →
        dir.descend [name] ∈ watched

theorem Explored.mono {world : WatchWorld} {watched more : List Location} {dir : Location}
    (explored : Explored world watched dir) (grown : watched ⊆ more)
    : Explored world more dir := by
  obtain ⟨names, read, inside⟩ := explored
  exact ⟨names, read, fun name member plain => grown (inside name member plain)⟩

namespace WatchPlanning

variable {world : WatchWorld} {budget rounds : Nat} {root : Location}
  {children queue roots : List Location} {self : WatchPlanning}

/-- A gap is never closed again, by induction on the children. -/
theorem visitChildren_gap (gap : self.complete = false)
    : (visitChildren world budget root children queue self).1.complete = false := by
  induction children generalizing queue self with
  | nil => exact gap
  | cons child rest ih =>
      unfold visitChildren
      split
      · exact ih rfl
      · exact ih gap
      · split
        · rfl
        · exact ih gap

/-- A gap is never closed again, by induction on the rounds. -/
theorem visitQueue_gap (gap : self.complete = false)
    : (visitQueue world budget root rounds queue self).complete = false := by
  induction rounds generalizing queue self with
  | zero => exact gap
  | succ rounds ih =>
      cases queue with
      | nil => exact gap
      | cons dir queue =>
          unfold visitQueue
          split
          · exact ih rfl
          · rename_i names _
            have after := @visitChildren_gap world budget root (sortedChildPaths dir names) queue
              self gap
            split
            · rename_i visited
              rw [visited] at after
              exact after
            · rename_i visited
              rw [visited] at after
              exact ih after

theorem visitRoot_gap (gap : self.complete = false)
    : (visitRoot world budget self root).complete = false := by
  unfold visitRoot
  split
  · rfl
  · split
    · rfl
    · rfl
    · exact visitQueue_gap gap

/-- Where no gap is left, the plain directories among the children are watched and queued, in
one order, within the budget. Witness: induction on the children.
-/
theorem visitChildren_complete (within : self.watchedDirs.length ≤ budget)
    (complete : (visitChildren world budget root children queue self).1.complete = true)
    : ∃ added,
        (visitChildren world budget root children queue self).2 = some (queue ++ added)
        ∧ (visitChildren world budget root children queue self).1.watchedDirs
          = self.watchedDirs ++ added
        ∧ (self.watchedDirs ++ added).length ≤ budget
        ∧ ∀ child ∈ children, world.isPlainDir child = .ok true → child ∈ added := by
  induction children generalizing queue self with
  | nil => exact ⟨[], by simp [visitChildren], by simp [visitChildren], by simpa, by simp⟩
  | cons child rest ih =>
      unfold visitChildren at complete ⊢
      cases kind : world.isPlainDir child with
      | error err =>
          rw [kind] at complete
          have gap := @visitChildren_gap world budget root rest queue
            (self.leaveGap root ("child metadata unavailable under " ++ root.text)) rfl
          cases gap.symm.trans complete
      | ok plain =>
          rw [kind] at complete
          cases plain with
          | false =>
              obtain ⟨added, queued, watched, bounded, inside⟩ := ih within complete
              refine ⟨added, queued, watched, bounded, ?_⟩
              intro found member isPlain
              rcases List.mem_cons.mp member with rfl | later
              · cases kind.symm.trans isPlain
              · exact inside found later isPlain
          | true =>
              dsimp only at complete ⊢
              by_cases full : budget ≤ self.watchedDirs.length
              · rw [if_pos full] at complete
                cases complete
              · rw [if_neg full] at complete ⊢
                have room : (self.watchDir child).watchedDirs.length ≤ budget := by
                  simp only [watchDir, List.length_append, List.length_singleton]
                  omega
                obtain ⟨added, queued, watched, bounded, inside⟩ := ih room complete
                refine ⟨child :: added, ?_, ?_, ?_, ?_⟩
                · simpa using queued
                · simpa [watchDir] using watched
                · simpa [watchDir] using bounded
                · intro found member isPlain
                  rcases List.mem_cons.mp member with rfl | later
                  · exact List.mem_cons_self ..
                  · exact List.mem_cons_of_mem _ (inside found later isPlain)

/-- What planning has got to: the budget is kept, and what is watched has been explored or is
still queued.
-/
structure Progress (world : WatchWorld) (budget : Nat) (queue : List Location)
    (planning : WatchPlanning) : Prop where
  within : planning.watchedDirs.length ≤ budget
  explored : ∀ dir ∈ planning.watchedDirs,
    dir ∈ queue ∨ Explored world planning.watchedDirs dir

/-- One directory is worked off, and its children come behind the others. -/
theorem Progress.next {dir : Location} {names : List FileName} {after : WatchPlanning}
    {result : Option (List Location)} (progress : Progress world budget (dir :: queue) self)
    (read : world.readDir dir = .ok names)
    (visited : visitChildren world budget root (sortedChildPaths dir names) queue self
      = (after, result))
    (complete : after.complete = true)
    : ∃ added, result = some (queue ++ added) ∧ after.watchedDirs = self.watchedDirs ++ added
        ∧ Progress world budget (queue ++ added) after := by
  have whole : (visitChildren world budget root (sortedChildPaths dir names) queue self).1.complete
      = true := by
    rw [visited]
    exact complete
  obtain ⟨added, queued, watched, bounded, inside⟩ := visitChildren_complete progress.within whole
  rw [visited] at queued watched
  refine ⟨added, queued, watched, by rw [watched]; exact bounded, ?_⟩
  intro old member
  have grown : self.watchedDirs ⊆ after.watchedDirs := by
    rw [watched]
    exact List.subset_append_left _ _
  rw [watched] at member
  rcases List.mem_append.mp member with before | new
  · rcases progress.explored old before with waiting | explored
    · rcases List.mem_cons.mp waiting with rfl | later
      · refine Or.inr ⟨names, read, fun name member plain => ?_⟩
        have child : old.descend [name] ∈ sortedChildPaths old names :=
          mem_sortedRoots.mpr (List.mem_map_of_mem member)
        rw [watched]
        exact List.mem_append_right _ (inside _ child plain)
      · exact Or.inl (List.mem_append_left _ later)
    · exact Or.inr (explored.mono grown)
  · exact Or.inl (List.mem_append_right _ new)

/-- A round without a gap reads its directory, goes through the children without a gap, and goes
on with what is queued then.
-/
theorem visitQueue_round {dir : Location}
    (complete : (visitQueue world budget root (rounds + 1) (dir :: queue) self).complete = true)
    : ∃ names after result,
        world.readDir dir = .ok names
        ∧ visitChildren world budget root (sortedChildPaths dir names) queue self = (after, result)
        ∧ after.complete = true
        ∧ ∀ more, result = some more →
            visitQueue world budget root (rounds + 1) (dir :: queue) self
              = visitQueue world budget root rounds more after := by
  cases read : world.readDir dir with
  | error err =>
      rw [visitQueue, read] at complete
      have gap := @visitQueue_gap world budget rounds root queue
        (self.leaveGap root ("directory unreadable for watch planning: " ++ err)) rfl
      cases gap.symm.trans complete
  | ok names =>
      rcases visited : visitChildren world budget root (sortedChildPaths dir names) queue self
        with ⟨after, result⟩
      rw [visitQueue, read] at complete
      dsimp only at complete
      rw [visited] at complete
      have whole : after.complete = true := by
        cases result with
        | none => exact complete
        | some more =>
            by_contra gap
            have gap : after.complete = false := by simpa using gap
            have later := @visitQueue_gap world budget rounds root more after gap
            cases later.symm.trans complete
      refine ⟨names, after, result, rfl, visited, whole, ?_⟩
      intro more some
      rw [visitQueue, read]
      dsimp only
      rw [visited, some]

/-- With enough rounds the queue is worked off, unless a gap is left. Each round takes one
directory from it, and each one put there takes from the budget. Witness: induction on the
rounds.
-/
theorem visitQueue_complete (progress : Progress world budget queue self)
    (enough : queue.length + (budget - self.watchedDirs.length) ≤ rounds)
    (complete : (visitQueue world budget root rounds queue self).complete = true)
    : self.watchedDirs ⊆ (visitQueue world budget root rounds queue self).watchedDirs
      ∧ Progress world budget [] (visitQueue world budget root rounds queue self) := by
  induction rounds generalizing queue self with
  | zero =>
      have empty : queue = [] := List.length_eq_zero_iff.mp (by omega)
      subst empty
      exact ⟨List.Subset.refl _, progress⟩
  | succ rounds ih =>
      cases queue with
      | nil => exact ⟨List.Subset.refl _, progress⟩
      | cons dir queue =>
          obtain ⟨names, after, result, read, visited, whole, goesOn⟩ := visitQueue_round complete
          obtain ⟨added, rfl, watched, progress⟩ := progress.next read visited whole
          rw [goesOn _ rfl] at complete ⊢
          have within := progress.within
          have shorter : (queue ++ added).length + (budget - after.watchedDirs.length)
              ≤ rounds := by
            rw [watched] at within ⊢
            simp only [List.length_append, List.length_cons] at enough within ⊢
            omega
          obtain ⟨grown, done⟩ := ih progress shorter complete
          rw [watched] at grown
          exact ⟨List.Subset.trans (List.subset_append_left _ _) grown, done⟩

/-- A root without a gap is watched and explored, beside what was before it. -/
theorem visitRoot_complete (progress : Progress world budget [] self)
    (complete : (visitRoot world budget self root).complete = true)
    : self.watchedDirs ⊆ (visitRoot world budget self root).watchedDirs
      ∧ root ∈ (visitRoot world budget self root).watchedDirs
      ∧ Progress world budget [] (visitRoot world budget self root) := by
  unfold visitRoot at complete ⊢
  by_cases full : budget ≤ self.watchedDirs.length
  · rw [if_pos full] at complete
    cases complete
  · rw [if_neg full] at complete ⊢
    cases kind : world.isPlainDir root with
    | error err =>
        rw [kind] at complete
        cases complete
    | ok plain =>
        rw [kind] at complete
        cases plain with
        | false => cases complete
        | true =>
            have watched : (self.watchDir root).watchedDirs = self.watchedDirs ++ [root] := rfl
            have begun : Progress world budget [root] (self.watchDir root) := by
              constructor
              · rw [watched, List.length_append, List.length_singleton]
                omega
              · intro dir member
                rcases List.mem_append.mp member with before | new
                · have explored := (progress.explored dir before).resolve_left List.not_mem_nil
                  exact Or.inr (explored.mono (List.subset_append_left _ _))
                · exact Or.inl new
            have enough : [root].length + (budget - (self.watchDir root).watchedDirs.length)
                ≤ budget := by
              rw [watched, List.length_append, List.length_singleton]
              omega
            obtain ⟨grown, done⟩ := visitQueue_complete begun enough complete
            rw [watched] at grown
            have ⟨before, new⟩ := List.append_subset.mp grown
            exact ⟨before, new (List.mem_singleton_self root), done⟩

/-- Without a gap all roots are watched and everything watched has been explored, by induction
on the roots.
-/
theorem visitRoots_complete (progress : Progress world budget [] self)
    (complete : (roots.foldl (visitRoot world budget) self).complete = true)
    : self.watchedDirs ⊆ (roots.foldl (visitRoot world budget) self).watchedDirs
      ∧ (∀ root ∈ roots, root ∈ (roots.foldl (visitRoot world budget) self).watchedDirs)
      ∧ Progress world budget [] (roots.foldl (visitRoot world budget) self) := by
  induction roots generalizing self with
  | nil => exact ⟨List.Subset.refl _, fun _ none => absurd none List.not_mem_nil, progress⟩
  | cons root rest ih =>
      rw [List.foldl_cons] at complete ⊢
      have whole : (visitRoot world budget self root).complete = true := by
        by_contra gap
        have gap : (visitRoot world budget self root).complete = false := by simpa using gap
        have later : ∀ (roots : List Location) (self : WatchPlanning), self.complete = false →
            (roots.foldl (visitRoot world budget) self).complete = false := by
          intro roots
          induction roots with
          | nil => exact fun _ gap => gap
          | cons root rest ih => exact fun _ gap => ih _ (visitRoot_gap gap)
        cases (later rest _ gap).symm.trans complete
      obtain ⟨grown, here, progress⟩ := visitRoot_complete progress whole
      obtain ⟨further, others, done⟩ := ih progress complete
      refine ⟨List.Subset.trans grown further, ?_, done⟩
      intro found member
      rcases List.mem_cons.mp member with rfl | later
      · exact further here
      · exact others found later

theorem start_progress : Progress world budget [] .start :=
  ⟨Nat.zero_le _, fun _ none => absurd none List.not_mem_nil⟩

/-- The watched directories keep the budget and a property. -/
structure Fits (property : Location → Prop) (budget : Nat) (watched : List Location) : Prop where
  within : watched.length ≤ budget
  all : ∀ dir ∈ watched, property dir

variable {property : Location → Prop}

theorem Fits.watchDir {dir : Location} (fits : Fits property budget self.watchedDirs)
    (room : ¬ budget ≤ self.watchedDirs.length) (holds : property dir)
    : Fits property budget (self.watchDir dir).watchedDirs := by
  constructor
  · simp only [WatchPlanning.watchDir, List.length_append, List.length_singleton]
    omega
  · intro found member
    rcases List.mem_append.mp member with before | new
    · exact fits.all found before
    · exact List.mem_singleton.mp new ▸ holds

/-- Children keep what they all have, by induction on them. -/
theorem visitChildren_fits (fits : Fits property budget self.watchedDirs)
    (queued : ∀ dir ∈ queue, property dir) (holds : ∀ child ∈ children, property child)
    : Fits property budget (visitChildren world budget root children queue self).1.watchedDirs
      ∧ ∀ more, (visitChildren world budget root children queue self).2 = some more →
          ∀ dir ∈ more, property dir := by
  induction children generalizing queue self with
  | nil =>
      refine ⟨fits, ?_⟩
      intro more same
      cases same
      exact queued
  | cons child rest ih =>
      have others : ∀ child ∈ rest, property child :=
        fun child member => holds child (List.mem_cons_of_mem _ member)
      unfold visitChildren
      split
      · exact ih fits queued others
      · exact ih fits queued others
      · split
        · exact ⟨fits, nofun⟩
        · rename_i room
          have here := holds child List.mem_cons_self
          refine ih (fits.watchDir room here) ?_ others
          intro dir member
          rcases List.mem_append.mp member with before | new
          · exact queued dir before
          · exact List.mem_singleton.mp new ▸ here

/-- What children inherit is kept, by induction on the rounds. -/
theorem visitQueue_fits (fits : Fits property budget self.watchedDirs)
    (inherited : ∀ dir name, property dir → property (dir.descend [name]))
    (queued : ∀ dir ∈ queue, property dir)
    : Fits property budget (visitQueue world budget root rounds queue self).watchedDirs := by
  induction rounds generalizing queue self with
  | zero => exact fits
  | succ rounds ih =>
      cases queue with
      | nil => exact fits
      | cons dir queue =>
          have later : ∀ dir ∈ queue, property dir :=
            fun dir member => queued dir (List.mem_cons_of_mem _ member)
          unfold visitQueue
          split
          · exact ih fits later
          · rename_i names _
            have holds : ∀ child ∈ sortedChildPaths dir names, property child := by
              intro child member
              obtain ⟨name, _, rfl⟩ := List.mem_map.mp (mem_sortedRoots.mp member)
              exact inherited dir name (queued dir List.mem_cons_self)
            obtain ⟨after, more⟩ := @visitChildren_fits world budget root _ queue self property
              fits later holds
            split
            · rename_i visited
              rw [visited] at after
              exact after
            · rename_i visited
              rw [visited] at after more
              exact ih after (more _ rfl)

theorem visitRoot_fits (fits : Fits property budget self.watchedDirs)
    (inherited : ∀ dir name, property dir → property (dir.descend [name])) (holds : property root)
    : Fits property budget (visitRoot world budget self root).watchedDirs := by
  unfold visitRoot
  split
  · exact fits
  · rename_i room
    split
    · exact fits
    · exact fits
    · refine visitQueue_fits (fits.watchDir room holds) inherited ?_
      intro dir member
      exact List.mem_singleton.mp member ▸ holds

end WatchPlanning

section

variable {world : WatchWorld} {config : EventSourceConfig} {root dir : Location}

/-- A complete plan watches every plain directory below its roots, by induction on the way to
it.
-/
theorem EventSourcePlan.mem_watchedDirs
    (complete : (EventSourcePlan.forConfig world config).complete = true)
    (member : root ∈ config.rootPaths) (below : PlainBelow world root dir)
    : dir ∈ (EventSourcePlan.forConfig world config).watchedDirs := by
  unfold forConfig at complete ⊢
  split at complete
  · cases complete
  · split at complete
    · cases complete
    · rename_i auto some
      rw [if_neg auto, if_neg some]
      obtain ⟨_, rootsWatched, progress⟩ :=
        WatchPlanning.visitRoots_complete WatchPlanning.start_progress complete
      induction below with
      | here => exact rootsWatched root member
      | down above read name plain ih =>
          have explored := (progress.explored _ ih).resolve_left List.not_mem_nil
          obtain ⟨names, readAgain, inside⟩ := explored
          cases read.symm.trans readAgain
          exact inside _ name plain

/-- A plan keeps the budget and stays at or below its roots. -/
theorem EventSourcePlan.watchedDirs_fits
    : WatchPlanning.Fits (fun dir => ∃ root ∈ config.rootPaths, dir.startsWith root = true)
        config.watchBudget (EventSourcePlan.forConfig world config).watchedDirs := by
  have rest : ∀ roots ⊆ config.rootPaths, ∀ self : WatchPlanning,
      WatchPlanning.Fits (fun dir => ∃ root ∈ config.rootPaths, dir.startsWith root = true)
        config.watchBudget self.watchedDirs →
      WatchPlanning.Fits (fun dir => ∃ root ∈ config.rootPaths, dir.startsWith root = true)
        config.watchBudget
        (roots.foldl (WatchPlanning.visitRoot world config.watchBudget) self).watchedDirs := by
    intro roots
    induction roots with
    | nil => exact fun _ _ fits => fits
    | cons root roots ih =>
        intro among self fits
        obtain ⟨here, others⟩ := List.cons_subset.mp among
        refine ih others _ (WatchPlanning.visitRoot_fits fits ?_ ⟨root, here, root.startsWith_self⟩)
        rintro dir name ⟨above, member, below⟩
        exact ⟨above, member, Location.startsWith_trans (dir.descend_startsWith [name]) below⟩
  unfold forConfig
  split
  · exact ⟨Nat.zero_le _, nofun⟩
  · split
    · exact ⟨Nat.zero_le _, nofun⟩
    · exact rest _ (List.Subset.refl _) _ ⟨Nat.zero_le _, nofun⟩

variable {backend : LinuxInotifyBackend}

theorem LinuxInotifyBackend.start_watches {paths : List Location} {maxWatches : Nat}
    (started : start world paths maxWatches = .ok backend)
    : ∀ path ∈ paths, ∃ watch, world.addWatch path = .ok watch ∧ watch ∈ backend.watchPaths := by
  let tied (done : List Location) (backend : LinuxInotifyBackend) : Prop :=
    ∀ path ∈ done, ∃ watch, world.addWatch path = .ok watch ∧ watch ∈ backend.watchPaths
  have kept : ∀ done backend path watch, tied done backend → world.addWatch path = .ok watch →
      tied (done ++ [path]) (backend.insertWatch watch path) := by
    intro done backend path watch watching answer found member
    rcases List.mem_append.mp member with earlier | new
    · obtain ⟨known, answered, watched⟩ := watching found earlier
      exact ⟨known, answered, Std.TreeMap.mem_insert.mpr (Or.inr watched)⟩
    · cases List.mem_singleton.mp new
      exact ⟨watch, answer, Std.TreeMap.mem_insert_self⟩
  have first : tied [] ⟨[], ∅, maxWatches⟩ := fun _ none => absurd none List.not_mem_nil
  exact start_rule first kept started

theorem LinuxInotifyBackend.start_labels {paths : List Location} {maxWatches : Nat}
    (started : start world paths maxWatches = .ok backend)
    {watch : WatchDescriptor} (label : backend.watchPaths[watch]? = some dir)
    : world.addWatch dir = .ok watch := by
  let tied (_ : List Location) (backend : LinuxInotifyBackend) : Prop :=
    ∀ (watch : WatchDescriptor) path, backend.watchPaths[watch]? = some path →
      world.addWatch path = .ok watch
  have kept : ∀ done backend path watch, tied done backend → world.addWatch path = .ok watch →
      tied (done ++ [path]) (backend.insertWatch watch path) := by
    intro _ backend path new right answer watch known label
    rw [insertWatch, Std.TreeMap.getElem?_insert] at label
    split at label
    · rename_i equal
      have equal : new = watch := Std.LawfulEqCmp.eq_of_compare equal
      cases label
      exact equal ▸ answer
    · exact right watch known label
  have first : tied [] ⟨[], ∅, maxWatches⟩ := by
    intro watch path none
    simp at none
  have right : tied paths backend := start_rule first kept started
  exact right watch dir label

/-- A backend has entries for nothing else, and no more than it was started for. -/
theorem LinuxInotifyBackend.start_entries {paths : List Location} {maxWatches : Nat}
    (started : start world paths maxWatches = .ok backend)
    : (∀ (watch : WatchDescriptor) path, backend.watchPaths[watch]? = some path → path ∈ paths)
      ∧ backend.watchPaths.size ≤ paths.length ∧ backend.maxWatches = maxWatches := by
  let tied (done : List Location) (backend : LinuxInotifyBackend) : Prop :=
    (∀ (watch : WatchDescriptor) path, backend.watchPaths[watch]? = some path → path ∈ done)
    ∧ backend.watchPaths.size ≤ done.length ∧ backend.maxWatches = maxWatches
  have kept : ∀ done backend path watch, tied done backend → world.addWatch path = .ok watch →
      tied (done ++ [path]) (backend.insertWatch watch path) := by
    rintro done backend path new ⟨among, fewer, same⟩ _
    refine ⟨?_, ?_, same⟩
    · intro watch known label
      rw [insertWatch, Std.TreeMap.getElem?_insert] at label
      split at label
      · cases label
        exact List.mem_append_right _ (List.mem_singleton_self _)
      · exact List.mem_append_left _ (among watch known label)
    · have grown := @Std.TreeMap.size_insert_le _ _ _ backend.watchPaths _ new path
      rw [List.length_append, List.length_singleton]
      exact Nat.le_trans grown (Nat.succ_le_succ fewer)
  have first : tied [] ⟨[], ∅, maxWatches⟩ :=
    ⟨fun watch path none => by simp at none, Nat.zero_le _, rfl⟩
  exact start_rule first kept started

end

end StorageBallast
