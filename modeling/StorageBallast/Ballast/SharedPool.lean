import StorageBallast.Ballast.BallastManager
import StorageBallast.Ballast.ReleaseController
import StorageBallast.Foundations.Runs

/-! Two managers over one directory: the daemon's and the command line's. Their operations
take the directory's lock in turn, but each keeps an inventory of its own, and what a release
removes is right exactly as far as that inventory knows what is on disk.
-/

namespace StorageBallast

open BallastManager

inductive PoolUser where
  | daemon
  | cli
deriving DecidableEq, Repr

/-- One operation under the lock. -/
inductive PoolStep (F : Type) where
  | provision (user : PoolUser) (answers : ProvisionAnswers)
  | replenishOne (user : PoolUser) (answers : ProvisionAnswers)
  | release (user : PoolUser) (count : Nat)
  /-- The daemon's `release_ballast` on the mount of the pool. -/
  | releaseBallast (response : PressureResponse F)

structure SharedPool where
  dir : BallastDir
  managers : PoolUser → BallastManager

namespace SharedPool

def start (config : BallastConfig) (dir : BallastDir) : SharedPool :=
  let opened := BallastManager.new config dir
  ⟨opened.2, fun _ => opened.1⟩

def put (self : SharedPool) (user : PoolUser) (manager : BallastManager) (dir : BallastDir)
    : SharedPool :=
  ⟨dir, Function.update self.managers user manager⟩

def release (self : SharedPool) (user : PoolUser) (count : Nat) : SharedPool × ReleaseReport :=
  let released := (self.managers user).release count self.dir
  (self.put user released.1 released.2.1, released.2.2)

/-- The count that `files_to_release` gives for the daemon's inventory. -/
def filesToRelease {F : Type} [Float64 F] (self : SharedPool) (response : PressureResponse F)
    : Nat :=
  BallastReleaseController.filesToRelease response (self.managers .daemon).availableCount
    (self.managers .daemon).config.fileCount

def step {F : Type} [Float64 F] (self : SharedPool) : PoolStep F → SharedPool
  | .provision user answers =>
      let done := (self.managers user).provision answers self.dir
      self.put user done.1 done.2.1
  | .replenishOne user answers =>
      let done := (self.managers user).replenishOne answers self.dir
      self.put user done.1 done.2.1
  | .release user count => (self.release user count).1
  | .releaseBallast response =>
      let count := self.filesToRelease response
      if 0 < count then
        let done := (self.managers .daemon).releaseForMount count self.dir
        self.put .daemon done.1 done.2.1
      else self

/-- The `count` highest of the files that are there. -/
def highestPresent (self : SharedPool) (config : BallastConfig) (count : Nat) : List Nat :=
  (highestFirst (presentIndices config self.dir)).take count

/-- A release of `count` files by the user removes the highest of the files that are there, as
many as there are up to the count, and nothing else.
-/
structure ReleasesHighest (pool : SharedPool) (config : BallastConfig) (user : PoolUser)
    (count : Nat) : Prop where
  removed : ∀ index, (pool.release user count).1.dir.files index
    = if index ∈ pool.highestPresent config count then none else pool.dir.files index
  reported : (pool.release user count).2.filesReleased
    = min count (presentIndices config pool.dir).length

/-- What the releases of a step do, as far as it makes any: each removes the highest files, and
at critical pressure the daemon's leaves none.
-/
def ReleasesReal {F : Type} [Float64 F] (config : BallastConfig) (pool : SharedPool)
    : PoolStep F → Prop
  | .provision _ _ | .replenishOne _ _ => True
  | .release user count => pool.ReleasesHighest config user count
  | .releaseBallast response =>
      (response.level = .critical →
        ∀ index ∈ config.indices, (pool.step (.releaseBallast response)).dir.files index = none)
      ∧ (0 < pool.filesToRelease response →
          pool.ReleasesHighest config .daemon (pool.filesToRelease response))

/-- The `count` highest files that are there are among the `count` highest that the manager
remembers.
-/
def Remembers (pool : SharedPool) (config : BallastConfig) (user : PoolUser) (count : Nat)
    : Prop :=
  ∀ index ∈ pool.highestPresent config count,
    index ∈ (pool.managers user).releaseTargets count

/-- The manager of a release remembers the files that it is about, and at critical pressure
the daemon's remembers every file that is there.
-/
def RemembersReal {F : Type} [Float64 F] (config : BallastConfig) (pool : SharedPool)
    : PoolStep F → Prop
  | .provision _ _ | .replenishOne _ _ => True
  | .release user count => pool.Remembers config user count
  | .releaseBallast response =>
      (response.level = .critical →
        ∀ index ∈ presentIndices config pool.dir,
          index ∈ (pool.managers .daemon).inventory.map (·.index))
      ∧ (0 < pool.filesToRelease response →
          pool.Remembers config .daemon (pool.filesToRelease response))

/-- Each manager has the shared configuration, and an inventory of some earlier state of the
directory.
-/
def Scanned (config : BallastConfig) (pool : SharedPool) : Prop :=
  ∀ user, ∃ dir, pool.managers user = ⟨config, scanExisting config dir⟩

variable {F : Type} [Float64 F] {config : BallastConfig} {pool : SharedPool}

theorem scanned_start (config : BallastConfig) (dir : BallastDir)
    : Scanned config (start config dir) :=
  fun _ => ⟨_, rfl⟩

/-- What a manager writes back after a scan keeps the inventories as they should be. -/
theorem Scanned.put (scanned : Scanned config pool) (user : PoolUser)
    {manager : BallastManager} {dir : BallastDir}
    (rescanned : ∃ found, manager = ⟨config, scanExisting config found⟩)
    : Scanned config (pool.put user manager dir) := by
  intro other
  by_cases same : other = user
  · subst same
    obtain ⟨found, rescanned⟩ := rescanned
    exact ⟨found, by simp [SharedPool.put, rescanned]⟩
  · obtain ⟨earlier, known⟩ := scanned other
    exact ⟨earlier, by simp [SharedPool.put, same, known]⟩

theorem Scanned.step (scanned : Scanned config pool) (step : PoolStep F)
    : Scanned config (pool.step step) := by
  have own (user : PoolUser) : (pool.managers user).config = config := by
    obtain ⟨_, known⟩ := scanned user
    rw [known]
  cases step with
  | provision user answers =>
      exact scanned.put user
        ⟨((pool.managers user).provision answers pool.dir).2.1, by rw [← own user]; rfl⟩
  | replenishOne user answers =>
      exact scanned.put user
        ⟨((pool.managers user).replenishOne answers pool.dir).2.1, by rw [← own user]; rfl⟩
  | release user count =>
      exact scanned.put user
        ⟨((pool.managers user).release count pool.dir).2.1, by rw [← own user]; rfl⟩
  | releaseBallast response =>
      unfold SharedPool.step
      dsimp only
      split
      · unfold releaseForMount
        split
        · exact scanned.put .daemon (scanned .daemon)
        · exact scanned.put .daemon
            ⟨((pool.managers .daemon).release (pool.filesToRelease response) pool.dir).2.1,
              by rw [← own .daemon]; rfl⟩
      · exact scanned

theorem Scanned.inventory (scanned : Scanned config pool) (user : PoolUser)
    : ∃ dir, (pool.managers user).inventory.map (·.index) = presentIndices config dir := by
  obtain ⟨dir, known⟩ := scanned user
  exact ⟨dir, by rw [known, scanExisting_indices]⟩

theorem release_files (user : PoolUser) (count index : Nat)
    : (pool.release user count).1.dir.files index
        = if index ∈ (pool.managers user).releaseTargets count then none
          else pool.dir.files index :=
  releaseFiles_files _ _ _ index

/-- What the targets of a release are, for an inventory that lists no file twice. -/
theorem Scanned.targets (scanned : Scanned config pool) (user : PoolUser) (count : Nat)
    : ((pool.managers user).releaseTargets count).Nodup
      ∧ ((pool.managers user).releaseTargets count).length ≤ count
      ∧ ∀ index ∈ (pool.managers user).releaseTargets count, index ∈ config.indices := by
  obtain ⟨dir, known⟩ := scanned.inventory user
  unfold releaseTargets
  rw [known]
  refine ⟨?_, List.length_take_le _ _, fun index member => ?_⟩
  · exact (List.take_sublist _ _).nodup (highestFirst_nodup (presentIndices_nodup config dir))
  · exact (mem_presentIndices.mp (mem_highestFirst.mp (List.mem_of_mem_take member))).1

/-- A release that remembers the highest files goes for no other file that is there: it would
go for more than `count` files.
-/
theorem Remembers.target_present {user : PoolUser} {count : Nat}
    (remembers : pool.Remembers config user count) (scanned : Scanned config pool) {index : Nat}
    (target : index ∈ (pool.managers user).releaseTargets count)
    (present : (pool.dir.files index).isSome)
    : index ∈ pool.highestPresent config count := by
  obtain ⟨distinct, few, configured⟩ := scanned.targets user count
  by_contra missed
  have listed : index ∈ highestFirst (presentIndices config pool.dir) :=
    mem_highestFirst.mpr (mem_presentIndices.mpr ⟨configured index target, present⟩)
  have full : (pool.highestPresent config count).length = count := by
    unfold highestPresent at missed ⊢
    rw [List.length_take, min_eq_left_iff]
    by_contra short
    rw [List.take_of_length_le (Nat.le_of_not_le short)] at missed
    exact missed listed
  have fresh : (index :: pool.highestPresent config count).Nodup := by
    refine List.nodup_cons.mpr ⟨missed, ?_⟩
    exact (List.take_sublist _ _).nodup
      (highestFirst_nodup (presentIndices_nodup config pool.dir))
  have within : (index :: pool.highestPresent config count)
      ⊆ (pool.managers user).releaseTargets count := by
    intro other member
    rcases List.mem_cons.mp member with rfl | high
    · exact target
    · exact remembers other high
  have more := (List.subperm_of_subset fresh within).length_le
  rw [List.length_cons, full] at more
  omega

/-- A release does what it should exactly if its manager remembers the highest files. -/
theorem releasesHighest_iff (scanned : Scanned config pool) (user : PoolUser) (count : Nat)
    : pool.ReleasesHighest config user count ↔ pool.Remembers config user count := by
  obtain ⟨distinct, few, configured⟩ := scanned.targets user count
  constructor
  · intro releases index high
    have present := (mem_presentIndices.mp
      (mem_highestFirst.mp (List.mem_of_mem_take high))).2
    have gone := releases.removed index
    rw [if_pos high, release_files] at gone
    by_contra missed
    rw [if_neg missed] at gone
    rw [gone] at present
    cases present
  · intro remembers
    constructor
    · intro index
      rw [release_files]
      by_cases high : index ∈ pool.highestPresent config count
      · rw [if_pos high, if_pos (remembers index high)]
      · rw [if_neg high]
        split
        · rename_i target
          cases found : pool.dir.files index with
          | none => rfl
          | some file =>
              exact absurd (remembers.target_present scanned target (by simp [found])) high
        · rfl
    · have removed := releaseFiles_filesReleased distinct pool.dir ⟨0, 0, []⟩
      have same : (((pool.managers user).releaseTargets count).filter
          fun index => (pool.dir.files index).isSome).Perm (pool.highestPresent config count) := by
        refine (List.perm_ext_iff_of_nodup (distinct.filter _) ?_).mpr fun index => ?_
        · exact (List.take_sublist _ _).nodup
            (highestFirst_nodup (presentIndices_nodup config pool.dir))
        · rw [List.mem_filter]
          constructor
          · rintro ⟨target, present⟩
            exact remembers.target_present scanned target present
          · intro high
            exact ⟨remembers index high, (mem_presentIndices.mp
              (mem_highestFirst.mp (List.mem_of_mem_take high))).2⟩
      change (releaseFiles _ _ _).2.filesReleased = _
      rw [removed, same.length_eq, highestPresent, List.length_take, highestFirst_length]
      exact Nat.zero_add _

variable {response : PressureResponse F}

/-- A count of files to release is given only for an inventory that has some. -/
theorem releaseBallast_dir (index : Nat)
    : (pool.step (.releaseBallast response)).dir.files index
        = if 0 < pool.filesToRelease response then
            (pool.release .daemon (pool.filesToRelease response)).1.dir.files index
          else pool.dir.files index := by
  unfold SharedPool.step
  dsimp only
  split
  · rename_i some_files
    have stocked : (pool.managers .daemon).availableCount ≠ 0 := by
      intro none_left
      rw [SharedPool.filesToRelease, none_left] at some_files
      exact absurd some_files (Nat.lt_irrefl 0)
    rw [releaseForMount, if_neg stocked]
    rfl
  · rfl

/-- At critical pressure the daemon's release goes for its whole inventory. -/
theorem Scanned.critical_files (scanned : Scanned config pool)
    (critical : response.level = .critical) (index : Nat)
    : (pool.step (.releaseBallast response)).dir.files index
        = if index ∈ (pool.managers .daemon).inventory.map (·.index) then none
          else pool.dir.files index := by
  obtain ⟨dir, known⟩ := scanned .daemon
  have bounded : (pool.managers .daemon).availableCount
      ≤ (pool.managers .daemon).config.fileCount := by
    rw [known, availableCount, ← List.length_map (·.index), scanExisting_indices]
    exact presentIndices_length config dir
  have count : pool.filesToRelease response = (pool.managers .daemon).inventory.length :=
    BallastReleaseController.filesToRelease_critical critical bounded
  rw [releaseBallast_dir, count]
  split
  · rw [release_files, releaseTargets, List.take_of_length_le]
    · simp only [mem_highestFirst]
    · rw [highestFirst_length, List.length_map]
  · rename_i none_left
    have empty : (pool.managers .daemon).inventory = [] :=
      List.eq_nil_of_length_eq_zero (Nat.eq_zero_of_not_pos none_left)
    simp [empty]

/-- At critical pressure nothing is left exactly if everything was in the inventory. -/
theorem Scanned.critical_iff (scanned : Scanned config pool) (critical : response.level = .critical)
    : (∀ index ∈ config.indices, (pool.step (.releaseBallast response)).dir.files index = none)
      ↔ ∀ index ∈ presentIndices config pool.dir,
          index ∈ (pool.managers .daemon).inventory.map (·.index) := by
  constructor
  · intro gone index present
    obtain ⟨configured, there⟩ := mem_presentIndices.mp present
    have removed := gone index configured
    rw [scanned.critical_files critical] at removed
    by_contra missed
    rw [if_neg missed] at removed
    rw [removed] at there
    cases there
  · intro known index configured
    rw [scanned.critical_files critical]
    split
    · rfl
    · rename_i missed
      cases found : pool.dir.files index with
      | none => rfl
      | some file =>
          exact absurd (known index (mem_presentIndices.mpr ⟨configured, by simp [found]⟩)) missed

/-- One step releases what it should exactly if its manager remembers what it is about. -/
theorem releasesReal_step_iff (scanned : Scanned config pool) (step : PoolStep F)
    : pool.ReleasesReal config step ↔ pool.RemembersReal config step := by
  cases step with
  | provision user answers => exact Iff.rfl
  | replenishOne user answers => exact Iff.rfl
  | release user count => exact releasesHighest_iff scanned user count
  | releaseBallast response =>
      exact and_congr (imp_congr_right fun critical => scanned.critical_iff critical)
        (imp_congr_right fun _ => releasesHighest_iff scanned .daemon _)

end SharedPool

/-- In every run over a shared directory, all releases remove what they should exactly if each
is made by a manager that remembers the files it is about.
-/
theorem releasesReal_iff {F : Type} [Float64 F] (config : BallastConfig) (dir : BallastDir)
    (steps : List (PoolStep F))
    : Runs.Guarded SharedPool.step (SharedPool.ReleasesReal config) (.start config dir) steps
      ↔ Runs.Guarded SharedPool.step (SharedPool.RemembersReal config) (.start config dir)
          steps := by
  have scanned : ∀ pool ∈ Runs.states SharedPool.step (.start config dir) steps,
      SharedPool.Scanned config pool :=
    Runs.invariant_of_kept (fun pool step scanned => scanned.step step)
      (SharedPool.scanned_start config dir)
  rw [Runs.guarded_iff_steps, Runs.guarded_iff_steps]
  refine forall₂_congr fun taken member => ?_
  exact SharedPool.releasesReal_step_iff (scanned _ (Runs.step_mem_states member).1) taken.2

/-- The daemon releases nothing of a reserve that the command line has just provisioned. -/
theorem provisioned_reserve_kept
    : ¬ Runs.Guarded SharedPool.step (SharedPool.ReleasesReal ⟨2, 4096⟩)
        (.start ⟨2, 4096⟩ ⟨fun _ => none⟩)
        [.provision .cli ⟨fun _ => false, fun _ => .created ⟨4096, true⟩⟩,
          .releaseBallast (⟨.critical, 1, 0, .root⟩ : PressureResponse ℚ)] := by
  rintro ⟨-, ⟨releasesAll, -⟩, -⟩
  have gone := releasesAll rfl 1 (by decide)
  exact absurd gone (by decide)

end StorageBallast
