import StorageBallast.Daemon.PressureChecks

/-! Whether a mount in need gets its reserve back: its own response has to be the one that the
tick keeps, and a root path has to lie on it unless devices may be crossed.
-/

namespace StorageBallast

open scoped Float64

theorem statsByMount_nodup (collect : PathBuf → Option FsStats) (paths : List PathBuf)
    : ((statsByMount collect paths).map (·.mountPoint)).Nodup := by
  let distinctMounts (found : List FsStats) : Prop := (found.map (·.mountPoint)).Nodup
  unfold statsByMount
  refine List.foldlRecOn (motive := distinctMounts) paths _ List.nodup_nil
    fun found distinct path _ => ?_
  dsimp only [distinctMounts] at distinct ⊢
  split
  · exact distinct
  · split
    · exact distinct
    · rename_i fresh
      rw [List.map_append, List.map_singleton, List.nodup_append]
      refine ⟨distinct, List.nodup_singleton _, ?_⟩
      intro mount member other last same
      rw [List.mem_singleton.mp last] at same
      obtain ⟨earlier, listed, rfl⟩ := List.mem_map.mp member
      exact fresh (List.any_eq_true.mpr ⟨earlier, listed, decide_eq_true same⟩)

section responses

variable {F : Type} [Float64 F] [RoundingFloat64 F]

theorem MonitorTick.visits_nodup {F : Type} (tick : MonitorTick F)
    : (tick.visits.map (·.stats.mountPoint)).Nodup := by
  have same : (tick.visits.map (·.stats.mountPoint)).Perm
      ((statsByMount tick.collect (monitoredPaths tick.rootPaths)).map (·.mountPoint)) := by
    have mapped := tick.visited.map FsStats.mountPoint
    rwa [List.map_map] at mapped
  exact same.nodup_iff.mpr (statsByMount_nodup ..)

/-- What is kept is picked from the mounts' own responses, since no controller is updated
twice; by induction on the visits.
-/
theorem checkMounts_worst (now : Instant) {visits : List (MountVisit F)}
    (distinct : (visits.map (·.stats.mountPoint)).Nodup) (monitors : MountMonitors F)
    (worst : Option (PidResponse F))
    : (checkMounts now visits monitors worst).2
        = FirstMaxima.pick worseThan worst (visits.map (ownResponse monitors now)) := by
  induction visits generalizing monitors worst with
  | nil => rfl
  | cons visit rest ih =>
      obtain ⟨fresh, later⟩ := List.nodup_cons.mp distinct
      have kept (controller : PidPressureController F)
          : rest.map (ownResponse (Function.update monitors visit.mount controller) now)
            = rest.map (ownResponse monitors now) := by
        refine List.map_congr_left fun other member => ?_
        have apart : other.mount ≠ visit.mount :=
          fun same => fresh (List.mem_map.mpr ⟨other, member, same⟩)
        simp [ownResponse, apart]
      rw [checkMounts, ih later, kept]
      rfl

omit [RoundingFloat64 F] in
theorem worseThan_iff {response worst : PidResponse F}
    : worseThan response worst = true
      ↔ worst.level.rank < response.level.rank
        ∨ (response.level = worst.level
          ∧ Float64.lt worst.urgency response.urgency = true) := by
  simp [worseThan, Float64.gt]

omit [RoundingFloat64 F] in
theorem worseThan_weak [StrictFloat64 F]
    : FirstMaxima.StrictWeak
        (fun response : PidResponse F => Float64.le response.urgency response.urgency = true)
        worseThan where
  trans := by
    intro a b c upper lower
    rw [worseThan_iff] at upper lower ⊢
    rcases upper with upper | ⟨sameUpper, upper⟩ <;> rcases lower with lower | ⟨sameLower, lower⟩
    · exact Or.inl (lower.trans upper)
    · exact Or.inl (sameLower ▸ upper)
    · exact Or.inl (sameUpper ▸ lower)
    · exact Or.inr ⟨sameUpper.trans sameLower, StrictFloat64.lt_trans lower upper⟩
  split := by
    intro a b c _ orderedMiddle orderedTop worse
    by_contra neither
    simp only [worseThan_iff] at worse neither
    obtain ⟨notTop, notMiddle⟩ := not_or.mp neither
    obtain ⟨levelTop, urgencyTop⟩ := not_or.mp notTop
    obtain ⟨levelMiddle, urgencyMiddle⟩ := not_or.mp notMiddle
    rcases worse with higher | ⟨same, urgent⟩
    · omega
    · have rank : c.level.rank = a.level.rank := by rw [same]
      have sameTop : c.level = b.level := by
        revert levelTop levelMiddle rank
        cases a.level <;> cases b.level <;> cases c.level <;> decide
      have top : Float64.lt b.urgency c.urgency = false :=
        Bool.eq_false_iff.mpr fun below => urgencyTop ⟨sameTop, below⟩
      have middle : Float64.lt a.urgency b.urgency = false :=
        Bool.eq_false_iff.mpr fun below => urgencyMiddle ⟨sameTop.symm.trans same, below⟩
      have falls := LawfulFloat64.le_of_not_lt top orderedMiddle orderedTop
      have above := StrictFloat64.lt_of_lt_of_le urgent falls
      rw [middle] at above
      cases above

theorem ownResponse_ordered [StrictFloat64 F] {monitors : MountMonitors F} {now : Instant}
    {visits : List (MountVisit F)} {response : PidResponse F}
    (member : response ∈ visits.map (ownResponse monitors now))
    : Float64.le response.urgency response.urgency = true := by
  obtain ⟨visit, _, rfl⟩ := List.mem_map.mp member
  exact PidPressureController.response_urgency_ordered _ _

end responses

/-- If all its files can be unlinked, a pool gives as many as it is asked for and has. -/
theorem BallastPool.released_eq {pool : BallastPool} (unlinkable : pool.Unlinkable)
    (stocked : 0 < pool.manager.availableCount) (count : Nat)
    : pool.released count = some (min count pool.manager.availableCount) := by
  obtain ⟨earlier, scanned⟩ := pool.scanned
  have indices : pool.manager.inventory.map (·.index)
      = BallastManager.presentIndices pool.manager.config earlier := by
    rw [scanned, BallastManager.scanExisting_indices]
  have distinct : (pool.manager.releaseTargets count).Nodup := by
    unfold BallastManager.releaseTargets
    rw [indices]
    exact (List.take_sublist _ _).nodup
      (BallastManager.highestFirst_nodup (BallastManager.presentIndices_nodup ..))
  have present : ∀ index ∈ pool.manager.releaseTargets count,
      (pool.dir.files index).isSome = true := by
    intro index target
    obtain ⟨file, listed, rfl⟩ :=
      List.mem_map.mp (BallastManager.mem_highestFirst.mp (List.mem_of_mem_take target))
    exact unlinkable file listed
  have gone := BallastManager.releaseFiles_filesReleased distinct pool.dir ⟨0, 0, []⟩
  rw [List.filter_eq_self.mpr present, BallastManager.releaseTargets, List.length_take,
    BallastManager.highestFirst_length, List.length_map] at gone
  unfold released BallastManager.releaseForMount
  rw [if_neg (Nat.ne_of_gt stocked)]
  exact congrArg some (gone.trans (Nat.zero_add _))

theorem BallastPool.available_le (pool : BallastPool)
    : pool.manager.availableCount ≤ pool.manager.config.fileCount := by
  obtain ⟨earlier, scanned⟩ := pool.scanned
  rw [BallastManager.availableCount, ← List.length_map (·.index), scanned,
    BallastManager.scanExisting_indices]
  exact BallastManager.presentIndices_length ..

variable {F : Type} [Float64 F] [RoundingFloat64 F]

/-- The mount's own response is critical, and it has ballast left. -/
structure InNeed (monitors : MountMonitors F) (tick : MonitorTick F) (visit : MountVisit F)
    (pool : BallastPool) : Prop where
  visited : visit ∈ tick.visits
  pooled : tick.pools visit.mount = some pool
  critical : (ownResponse monitors tick.checkedAt visit).level = .critical
  stocked : 0 < pool.manager.availableCount

/-- Each mount in need has as many files released as its own response asks for. -/
def ReservesReleased (daemon : MountDaemon F) (tick : MonitorTick F) : Prop :=
  ∀ visit pool, InNeed daemon.monitors tick visit pool →
    ∃ time, .ballastReleased visit.mount
      (BallastReleaseController.filesToRelease
        (ownResponse daemon.monitors tick.checkedAt visit).toPressureResponse
        pool.counts.availableCount pool.counts.expectedCount) time ∈ daemon.events tick

def MostUrgent (monitors : MountMonitors F) (tick : MonitorTick F) (visit : MountVisit F)
    : Prop :=
  ∃ before after, tick.visits = before ++ visit :: after
    ∧ (∀ other ∈ before, (ownResponse monitors tick.checkedAt other).level = .critical →
        Float64.lt (ownResponse monitors tick.checkedAt other).urgency
          (ownResponse monitors tick.checkedAt visit).urgency = true)
    ∧ ∀ other ∈ after, (ownResponse monitors tick.checkedAt other).level = .critical →
        Float64.lt (ownResponse monitors tick.checkedAt visit).urgency
          (ownResponse monitors tick.checkedAt other).urgency = false

/-- Each mount in need is the most urgent one, and a root path lies on it or devices may be
crossed.
-/
def NeedsServed (monitors : MountMonitors F) (tick : MonitorTick F) : Prop :=
  ∀ visit pool, InNeed monitors tick visit pool →
    MostUrgent monitors tick visit
      ∧ (tick.crossDevices = true ∨ tick.noRootPathOn visit.mount = false)

variable {daemon : MountDaemon F} {tick : MonitorTick F} {visit : MountVisit F}
  {pool : BallastPool}

theorem checkMounts_tick (daemon : MountDaemon F) (tick : MonitorTick F)
    : (checkMounts tick.checkedAt tick.visits daemon.monitors none).2
        = FirstMaxima.pick worseThan none
          (tick.visits.map (ownResponse daemon.monitors tick.checkedAt)) :=
  checkMounts_worst tick.checkedAt tick.visits_nodup daemon.monitors none

/-- The worst response of a tick is that of the first of the worst mounts. -/
theorem worst_iff [StrictFloat64 F] {worst : PidResponse F}
    : (checkMounts tick.checkedAt tick.visits daemon.monitors none).2 = some worst
      ↔ FirstMaxima.IsFirst worseThan
          (tick.visits.map (ownResponse daemon.monitors tick.checkedAt)) worst := by
  rw [checkMounts_tick]
  exact FirstMaxima.pick_eq_some_iff worseThan_weak fun _ => ownResponse_ordered

/-- A critical mount has the worst response exactly if it is the most urgent one. -/
theorem mostUrgent_iff [StrictFloat64 F] (visited : visit ∈ tick.visits)
    (critical : (ownResponse daemon.monitors tick.checkedAt visit).level = .critical)
    : (checkMounts tick.checkedAt tick.visits daemon.monitors none).2
        = some (ownResponse daemon.monitors tick.checkedAt visit)
      ↔ MostUrgent daemon.monitors tick visit := by
  have worse (other : MountVisit F)
      : worseThan (ownResponse daemon.monitors tick.checkedAt visit)
          (ownResponse daemon.monitors tick.checkedAt other) = true
        ↔ ((ownResponse daemon.monitors tick.checkedAt other).level = .critical →
            Float64.lt (ownResponse daemon.monitors tick.checkedAt other).urgency
              (ownResponse daemon.monitors tick.checkedAt visit).urgency = true) := by
    rw [worseThan_iff, critical]
    cases (ownResponse daemon.monitors tick.checkedAt other).level <;>
      simp [PressureLevel.rank]
  have notWorse (other : MountVisit F)
      : worseThan (ownResponse daemon.monitors tick.checkedAt other)
          (ownResponse daemon.monitors tick.checkedAt visit) = false
        ↔ ((ownResponse daemon.monitors tick.checkedAt other).level = .critical →
            Float64.lt (ownResponse daemon.monitors tick.checkedAt visit).urgency
              (ownResponse daemon.monitors tick.checkedAt other).urgency = false) := by
    rw [Bool.eq_false_iff, ne_eq, worseThan_iff, critical]
    cases (ownResponse daemon.monitors tick.checkedAt other).level <;>
      simp [PressureLevel.rank]
  rw [worst_iff]
  constructor
  · rintro ⟨front, back, same, beaten, unbeaten⟩
    obtain ⟨before, rest, split, rfl, tail⟩ := List.map_eq_append_iff.mp same
    obtain ⟨first, after, rfl, response, rfl⟩ := List.map_eq_cons_iff.mp tail
    have mount : first.mount = visit.mount := congrArg (·.causingMount) response
    have here : first = visit := by
      have member : first ∈ tick.visits := by rw [split]; simp
      exact List.inj_on_of_nodup_map tick.visits_nodup member visited mount
    subst here
    refine ⟨before, after, split, ?_, ?_⟩
    · exact fun other member => (worse other).mp (beaten _ (List.mem_map_of_mem member))
    · exact fun other member => (notWorse other).mp (unbeaten _ (List.mem_map_of_mem member))
  · rintro ⟨before, after, split, less, notMore⟩
    refine ⟨before.map (ownResponse daemon.monitors tick.checkedAt),
      after.map (ownResponse daemon.monitors tick.checkedAt), by rw [split]; simp, ?_, ?_⟩
    · intro response member
      obtain ⟨other, listed, rfl⟩ := List.mem_map.mp member
      exact (worse other).mpr (less other listed)
    · intro response member
      obtain ⟨other, listed, rfl⟩ := List.mem_map.mp member
      exact (notWorse other).mpr (notMore other listed)

theorem worst_critical [StrictFloat64 F] (visited : visit ∈ tick.visits)
    (critical : (ownResponse daemon.monitors tick.checkedAt visit).level = .critical)
    : ∃ worst, (checkMounts tick.checkedAt tick.visits daemon.monitors none).2 = some worst
        ∧ worst.level = .critical := by
  have some_worst : (checkMounts tick.checkedAt tick.visits daemon.monitors none).2.isSome := by
    rw [checkMounts_tick]
    cases listed : tick.visits with
    | nil => simp [listed] at visited
    | cons first rest => exact FirstMaxima.pick_isSome _
  obtain ⟨worst, kept⟩ := Option.isSome_iff_exists.mp some_worst
  refine ⟨worst, kept, ?_⟩
  obtain ⟨before, after, same, beaten, unbeaten⟩ := worst_iff.mp kept
  have member : ownResponse daemon.monitors tick.checkedAt visit
      ∈ before ++ worst :: after := same ▸ List.mem_map_of_mem visited
  rcases List.mem_append.mp member with front | behind
  · have worse := worseThan_iff.mp (beaten _ front)
    rw [critical] at worse
    revert worse
    cases worst.level <;> simp [PressureLevel.rank]
  · rcases List.mem_cons.mp behind with here | back
    · rw [← here, critical]
    · have notWorse := Bool.eq_false_iff.mp (unbeaten _ back)
      rw [ne_eq, worseThan_iff, critical] at notWorse
      revert notWorse
      cases worst.level <;> simp [PressureLevel.rank]

omit [RoundingFloat64 F] in
/-- A critical tick goes on to a release, if it does not end at the check for root paths. -/
theorem handlePressure_critical (self : BallastDaemon) {pressed : PressureTick F}
    (critical : pressed.response.level = .critical)
    (asks : behaviorShouldReleaseBallast pressed.behavior = true)
    : self.handlePressure pressed
        = if pressed.crossDevices = true ∨ pressed.noRootPathOnPressuredDevice = false then
            ((self.wait pressed.startedAfter).record (.tick .critical)).releaseBallast
              pressed.response.causingMount pressed.response pressed.release
          else (self.wait pressed.startedAfter).record (.tick .critical) := by
  unfold BallastDaemon.handlePressure shouldSkipForDeviceAffinity
  simp only [critical, asks]
  cases pressed.crossDevices <;> cases pressed.noRootPathOnPressuredDevice <;> rfl

omit [RoundingFloat64 F] in
/-- A release adds at most one event, of the mount it is for. -/
theorem mem_releaseBallast {self : BallastDaemon} {mount other : Location}
    {response : PressureResponse F} {visit : ReleaseVisit} {count : Nat}
    (fresh : ∀ time, .ballastReleased other count time ∉ self.history)
    : (∃ time, .ballastReleased other count time
        ∈ (self.releaseBallast mount response visit).history)
      ↔ other = mount ∧ ∃ counts, visit.poolForMount mount = some counts
        ∧ 0 < BallastReleaseController.filesToRelease response counts.availableCount
            counts.expectedCount
        ∧ visit.releaseForMount (BallastReleaseController.filesToRelease response
            counts.availableCount counts.expectedCount) = some count := by
  unfold BallastDaemon.releaseBallast
  cases found : visit.poolForMount mount with
  | none => simpa using fresh
  | some counts =>
      dsimp only
      split
      · rename_i some_files
        cases gone : visit.releaseForMount (BallastReleaseController.filesToRelease response
            counts.availableCount counts.expectedCount) with
        | none => simpa [gone] using fresh
        | some released =>
            simp only [BallastDaemon.released, BallastDaemon.record, BallastDaemon.wait,
              List.mem_cons, fresh, or_false, BallastEvent.ballastReleased.injEq,
              Option.some.injEq, exists_eq_left', some_files, true_and, gone]
            constructor
            · rintro ⟨_, rfl, rfl, _⟩
              exact ⟨rfl, rfl⟩
            · rintro ⟨rfl, rfl⟩
              exact ⟨_, rfl, rfl, rfl⟩
      · rename_i no_files
        simpa [no_files] using fresh

/-- What a tick with a critical response does: the causing mount alone has its reserve
released, if the tick does not end at the check for root paths.
-/
theorem events_critical {worst : PidResponse F}
    (kept : (checkMounts tick.checkedAt tick.visits daemon.monitors none).2 = some worst)
    (critical : worst.level = .critical)
    (asks : behaviorShouldReleaseBallast tick.behavior = true)
    (unlinkable : ∀ mount pool, tick.pools mount = some pool → pool.Unlinkable)
    {mount : Location} {count : Nat}
    : (∃ time, .ballastReleased mount count time ∈ daemon.events tick)
      ↔ (tick.crossDevices = true ∨ tick.noRootPathOn worst.causingMount = false)
        ∧ mount = worst.causingMount
        ∧ ∃ pool, tick.pools mount = some pool ∧ 0 < pool.manager.availableCount
          ∧ count = pool.manager.availableCount := by
  have handled : daemon.events tick
      = (daemon.ballast.forget.handlePressure (tick.pressureTick worst)).history := by
    unfold MountDaemon.events MountDaemon.tick
    split
    · rename_i same
      rw [same] at kept
      cases kept
    · rename_i same
      rw [same] at kept
      cases kept
      rfl
  have target : tick.releaseMount worst = worst.causingMount := by
    simp [MonitorTick.releaseMount, critical]
  have nothing_yet : ∀ time, .ballastReleased mount count time
      ∉ ((daemon.ballast.forget.wait (tick.pressureTick worst).startedAfter).record
          (.tick .critical)).history := by
    intro time member
    simp [BallastDaemon.record, BallastDaemon.wait, BallastDaemon.forget] at member
  rw [handled, handlePressure_critical _ critical asks]
  split
  · rename_i scannable
    rw [mem_releaseBallast nothing_yet]
    simp only [MonitorTick.pressureTick] at scannable ⊢
    simp only [scannable, true_and, target]
    refine and_congr_right fun same => ?_
    subst same
    cases found : tick.pools worst.causingMount with
    | none => simp
    | some pool =>
        have all := BallastReleaseController.filesToRelease_critical critical
          pool.available_le
        simp only [Option.map_some, Option.some.injEq, exists_eq_left', BallastPool.counts, all,
          Option.bind_some]
        refine and_congr_right fun stocked => ?_
        rw [BallastPool.released_eq (unlinkable _ _ found) stocked, Nat.min_self,
          Option.some.injEq]
        exact eq_comm
  · rename_i unscannable
    simp only [MonitorTick.pressureTick] at unscannable
    simp only [unscannable, false_and, iff_false]
    rintro ⟨time, member⟩
    exact nothing_yet time member

/-- In every tick whose mode asks for ballast, every mount in need has its reserve released
exactly if each of them is the most urgent one and can be scanned.
-/
theorem reservesReleased_iff [StrictFloat64 F] (daemon : MountDaemon F) (tick : MonitorTick F)
    (asks : behaviorShouldReleaseBallast tick.behavior = true)
    (unlinkable : ∀ mount pool, tick.pools mount = some pool → pool.Unlinkable)
    : ReservesReleased daemon tick ↔ NeedsServed daemon.monitors tick := by
  refine forall₂_congr fun visit pool => forall_congr' fun need => ?_
  obtain ⟨worst, kept, critical⟩ := (worst_critical need.visited need.critical :
    ∃ worst, (checkMounts tick.checkedAt tick.visits daemon.monitors none).2 = some worst ∧ _)
  have all := BallastReleaseController.filesToRelease_critical need.critical pool.available_le
  simp only [BallastPool.counts, all]
  rw [events_critical kept critical asks unlinkable, ← mostUrgent_iff need.visited need.critical,
    kept]
  constructor
  · rintro ⟨served, mount, -⟩
    have own : worst = ownResponse daemon.monitors tick.checkedAt visit := by
      obtain ⟨before, after, same, -⟩ := worst_iff.mp kept
      have member : worst ∈ tick.visits.map (ownResponse daemon.monitors tick.checkedAt) := by
        rw [same]; simp
      obtain ⟨other, listed, rfl⟩ := List.mem_map.mp member
      have here := List.inj_on_of_nodup_map tick.visits_nodup listed need.visited mount.symm
      rw [here]
    exact ⟨congrArg some own, mount ▸ served⟩
  · rintro ⟨own, served⟩
    cases own
    exact ⟨served, rfl, pool, need.pooled, need.stocked, rfl⟩

/-- The pool of `/`, with its one file. -/
def rootPool : BallastPool where
  manager := ⟨⟨1, 4096⟩, [⟨1, 4096, true⟩]⟩
  dir := ⟨fun index => if index = 1 then some ⟨4096, true⟩ else none⟩
  scanned := ⟨⟨fun index => if index = 1 then some ⟨4096, true⟩ else none⟩, rfl⟩

/-- The mount of `/tmp`. -/
def tmpMount : Location := ⟨[⟨"tmp", by decide⟩]⟩

/-- `/` is almost full, and half of `/tmp` is free. -/
def rootAndTmp (path : PathBuf) : FsStats :=
  if path.sameAs ⟨"/"⟩ then ⟨100, 3, .root⟩ else ⟨100, 50, tmpMount⟩

theorem rootAndTmp_visited
    : [(⟨100, 3, .root⟩ : FsStats), ⟨100, 50, tmpMount⟩].Perm
        (statsByMount (fun path => some (rootAndTmp path)) (monitoredPaths [⟨"/tmp"⟩])) := by
  decide +kernel

def rootVisit (F : Type) [Float64 F] : MountVisit F := ⟨⟨100, 3, .root⟩, 0.0⟩

/-- The root of the file system comes up before `/tmp`, which alone is scanned. -/
def fullRoot (F : Type) [Float64 F] : MonitorTick F where
  rootPaths := [⟨"/tmp"⟩]
  crossDevices := false
  collect path := some (rootAndTmp path)
  visits := [rootVisit F, ⟨⟨100, 50, tmpMount⟩, 0.0⟩]
  visited := rootAndTmp_visited
  checkedAt := 0
  mountOf _ := some tmpMount
  behavior := BehaviorDispatchTable.default.modeFor .normal .critical
  pools mount := if mount = .root then some rootPool else none
  inventory := []
  predictiveBallastMount := none
  startedAfter := 0
  releasedAfter := 0
  recordedAfter := 0

def defaultDaemon (F : Type) [Float64 F] : MountDaemon F where
  monitors _ := .new 0.25 0.08 0.02 100.0 20.0 1.0 ⟨20.0, 14.0, 10.0, 6.0⟩ (.fromSecs 5)
  ballast := .start 30 0

theorem fullRoot_unlinkable (F : Type) [Float64 F]
    : ∀ mount pool, (fullRoot F).pools mount = some pool → pool.Unlinkable := by
  intro mount pool found
  change (if mount = .root then some rootPool else none) = some pool at found
  split at found
  · cases found
    unfold BallastPool.Unlinkable
    decide
  · cases found

theorem fullRoot_released
    : ReservesReleased (defaultDaemon ℝ) (fullRoot ℝ)
      ↔ NeedsServed (defaultDaemon ℝ).monitors (fullRoot ℝ) :=
  reservesReleased_iff _ _ (by decide) (fullRoot_unlinkable ℝ)

/-- The reserve of `/` stays, though its own response is critical and the mode asks for it. -/
theorem fullRoot_withheld
    : behaviorShouldReleaseBallast (fullRoot ℚ).behavior = true
      ∧ (∀ mount pool, (fullRoot ℚ).pools mount = some pool → pool.Unlinkable)
      ∧ ¬ ReservesReleased (defaultDaemon ℚ) (fullRoot ℚ) := by
  refine ⟨by decide, fullRoot_unlinkable ℚ, fun released => ?_⟩
  have need : InNeed (defaultDaemon ℚ).monitors (fullRoot ℚ) (rootVisit ℚ) rootPool :=
    ⟨List.mem_cons_self, rfl, by decide +kernel, by decide⟩
  obtain ⟨time, gone⟩ := released _ _ need
  have nothing : (defaultDaemon ℚ).events (fullRoot ℚ) = [.tick .critical 0] := by
    decide +kernel
  rw [nothing] at gone
  simp at gone

end StorageBallast
