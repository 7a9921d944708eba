import Mathlib.Algebra.GroupWithZero.Nat
import StorageBallast.Ballast.BallastManager
import StorageBallast.Ballast.ReleaseController
import StorageBallast.Foundations.Runs

/-! Releases in stages. How many files are to be gone depends on the pressure, and how many are
gone already is read off the directory, so a target that is reached asks for no more.
-/

namespace StorageBallast

open BallastManager BallastReleaseController Runs
open scoped Float64

variable {F : Type} [Float64 F]

def BallastReleaseController.maybeRelease (self : BallastReleaseController)
    (mountPath : Location) (manager : BallastManager) (dir : BallastDir)
    (response : PressureResponse F) (now : Instant)
    : BallastReleaseController × BallastManager × BallastDir × Option ReleaseReport :=
  let toRelease := filesToRelease response manager.availableCount manager.config.fileCount
  if toRelease = 0 then (self, manager, dir, none)
  else
    let released := manager.release toRelease dir
    let report := released.2.2
    let told := if 0 < report.filesReleased then self.onReleased mountPath now else self
    (told, released.1, released.2.1, some report)

/-- A pool whose manager has seen everything that happened to its directory. -/
structure ReleasedPool where
  controller : BallastReleaseController
  manager : BallastManager
  dir : BallastDir
  known : manager.inventory = scanExisting manager.config dir

/-- A release cycle under some pressure, or the recreation of one file. -/
inductive PoolTick (F : Type) where
  | release (mountPath : Location) (response : PressureResponse F) (now : Instant)
  | replenish (answers : ProvisionAnswers)

def PoolTick.target (total : Nat) : PoolTick F → Nat
  | release _ response _ => targetReleased response total
  | replenish _ => 0

def PoolTick.AsksFor (response : PressureResponse F) (tick : PoolTick F) : Prop :=
  ∃ mountPath now, tick = release mountPath response now

namespace ReleasedPool

def new (controller : BallastReleaseController) (config : BallastConfig) (dir : BallastDir)
    : ReleasedPool :=
  let opened := BallastManager.new config dir
  ⟨controller, opened.1, opened.2, rfl⟩

def available (self : ReleasedPool) : Nat := self.manager.availableCount

def total (self : ReleasedPool) : Nat := self.manager.config.fileCount

theorem maybeRelease_known (self : ReleasedPool) (mountPath : Location)
    (response : PressureResponse F) (now : Instant)
    : let cycle := self.controller.maybeRelease mountPath self.manager self.dir response now
      cycle.2.1.inventory = scanExisting cycle.2.1.config cycle.2.2.1 := by
  simp only [maybeRelease]
  split
  · exact self.known
  · rfl

def step (self : ReleasedPool) : PoolTick F → ReleasedPool
  | .release mountPath response now =>
      let cycle := self.controller.maybeRelease mountPath self.manager self.dir response now
      ⟨cycle.1, cycle.2.1, cycle.2.2.1, self.maybeRelease_known mountPath response now⟩
  | .replenish answers =>
      let replenished := self.manager.replenishOne answers self.dir
      ⟨self.controller, replenished.1, replenished.2.1, rfl⟩

def released (self : ReleasedPool) : PoolTick F → Nat
  | .release mountPath response now =>
      let report :=
        (self.controller.maybeRelease mountPath self.manager self.dir response now).2.2.2
      (report.map (·.filesReleased)).getD 0
  | .replenish _ => 0

def releasedIn (self : ReleasedPool) (ticks : List (PoolTick F)) : Nat :=
  ((steps step self ticks).map fun taken => taken.1.released taken.2).sum

variable (self : ReleasedPool)

theorem available_eq : self.available = (presentIndices self.manager.config self.dir).length := by
  rw [available, availableCount, self.known, ← scanExisting_indices, List.length_map]

theorem available_le_total : self.available ≤ self.total := by
  rw [available_eq]
  exact presentIndices_length _ _

/-- A release goes for files that are there, as many as it is told if there are so many. -/
theorem releaseTargets_present (count : Nat)
    : (self.manager.releaseTargets count).Nodup
      ∧ (self.manager.releaseTargets count).length = min count self.available
      ∧ ∀ index ∈ self.manager.releaseTargets count,
          index ∈ presentIndices self.manager.config self.dir := by
  unfold releaseTargets
  rw [self.known, scanExisting_indices, available_eq]
  refine ⟨?_, ?_, fun index member => ?_⟩
  · exact (List.take_sublist _ _).nodup (highestFirst_nodup (presentIndices_nodup _ _))
  · rw [List.length_take, highestFirst_length]
  · exact mem_highestFirst.mp (List.mem_of_mem_take member)

/-- What is present afterwards is what was present and not gone for. -/
theorem release_available (count : Nat)
    : (self.manager.release count self.dir).1.availableCount
        = self.available - min count self.available := by
  obtain ⟨distinct, length, present⟩ := self.releaseTargets_present count
  have left : presentIndices self.manager.config (self.manager.release count self.dir).2.1
      = (presentIndices self.manager.config self.dir).filter
          fun index => index ∉ self.manager.releaseTargets count := by
    unfold presentIndices
    rw [List.filter_filter]
    refine List.filter_congr fun index _ => ?_
    have gone : (self.manager.release count self.dir).2.1.files index = _ :=
      releaseFiles_files _ self.dir ⟨0, 0, []⟩ index
    rw [gone]
    by_cases target : index ∈ self.manager.releaseTargets count <;> simp [target]
  have counted : (self.manager.release count self.dir).1.availableCount
      = (presentIndices self.manager.config (self.manager.release count self.dir).2.1).length := by
    rw [← scanExisting_indices, List.length_map]
    rfl
  have kept : ((presentIndices self.manager.config self.dir).filter
        fun index => index ∈ self.manager.releaseTargets count).length
      = (self.manager.releaseTargets count).length := by
    refine List.Perm.length_eq ((List.perm_ext_iff_of_nodup
      ((presentIndices_nodup _ _).filter _) distinct).mpr fun index => ?_)
    rw [List.mem_filter, decide_eq_true_iff]
    exact ⟨And.right, fun target => ⟨present index target, target⟩⟩
  have split := List.length_eq_length_filter_add
    (l := presentIndices self.manager.config self.dir)
    fun index => decide (index ∈ self.manager.releaseTargets count)
  have present_eq := self.available_eq
  rw [counted, left]
  simp only [decide_not] at split ⊢
  omega

theorem release_reported (count : Nat)
    : (self.manager.release count self.dir).2.2.filesReleased = min count self.available := by
  obtain ⟨distinct, length, present⟩ := self.releaseTargets_present count
  have reported : (self.manager.release count self.dir).2.2.filesReleased = _ :=
    releaseFiles_filesReleased distinct self.dir ⟨0, 0, []⟩
  have all : ((self.manager.releaseTargets count).filter
      fun index => (self.dir.files index).isSome) = self.manager.releaseTargets count := by
    refine List.filter_eq_self.mpr fun index target => ?_
    exact (mem_presentIndices.mp (present index target)).2
  rw [reported, all, length]
  exact Nat.zero_add _

/-- What the files to release leave: no more than the target lets stay. -/
theorem filesToRelease_left (response : PressureResponse F) {available total : Nat}
    (within : available ≤ total)
    : available - min (filesToRelease response available total) available
        = min available (total - min total (targetReleased response total)) := by
  unfold filesToRelease
  dsimp only
  split <;> omega

theorem step_total (tick : PoolTick F) : (self.step tick).total = self.total := by
  cases tick with
  | replenish answers => rfl
  | release mountPath response now =>
      unfold step maybeRelease total
      dsimp only
      split <;> rfl

/-- After a release tick no more files are left than the target lets stay. -/
theorem step_available (mountPath : Location) (response : PressureResponse F) (now : Instant)
    : (self.step (.release mountPath response now)).available
        = min self.available
          (self.total - min self.total (targetReleased response self.total)) := by
  rw [← filesToRelease_left response self.available_le_total]
  unfold step maybeRelease
  dsimp only
  split
  · rename_i none_needed
    change self.available = _
    rw [show filesToRelease response self.available self.total = 0 from none_needed]
    omega
  · exact self.release_available _

theorem released_add_available (mountPath : Location) (response : PressureResponse F)
    (now : Instant)
    : self.released (.release mountPath response now)
        + (self.step (.release mountPath response now)).available = self.available := by
  have both (count : Nat)
      : (self.manager.release count self.dir).2.2.filesReleased
          + (self.manager.release count self.dir).1.availableCount = self.available := by
    rw [release_reported, release_available]
    omega
  unfold released step maybeRelease
  dsimp only
  split
  · exact Nat.zero_add _
  · exact both _

def greatestTarget (total : Nat) (ticks : List (PoolTick F)) : Nat :=
  ticks.foldr (fun tick greatest => max (tick.target total) greatest) 0

/-- Ticks that are all release cycles release what the greatest of their targets does not let
stay, by induction on the ticks.
-/
theorem releasedIn_eq {ticks : List (PoolTick F)}
    (cycles : ∀ tick ∈ ticks, ∃ response, PoolTick.AsksFor response tick)
    : self.releasedIn ticks
        = self.available
          - min self.available (self.total - min self.total (greatestTarget self.total ticks)) := by
  induction ticks generalizing self with
  | nil =>
      have within := self.available_le_total
      change 0 = self.available - min self.available (self.total - min self.total 0)
      omega
  | cons tick rest ih =>
      obtain ⟨response, mountPath, now, rfl⟩ := cycles tick List.mem_cons_self
      have later := ih (self.step (.release mountPath response now))
        fun tick member => cycles tick (List.mem_cons_of_mem _ member)
      have here := self.released_add_available mountPath response now
      have left := self.step_available mountPath response now
      rw [step_total] at later
      have total : self.releasedIn (.release mountPath response now :: rest)
          = self.released (.release mountPath response now)
            + (self.step (.release mountPath response now)).releasedIn rest := by
        simp [releasedIn, steps]
      have target : greatestTarget self.total (.release mountPath response now :: rest)
          = max (targetReleased response self.total) (greatestTarget self.total rest) := rfl
      have within := self.available_le_total
      rw [total, target, later]
      omega

/-- A pool drains to the target and no further: after each release tick, over a row of ticks for
one response, and from a full pool over any ticks without replenishment.
-/
structure DrainsToTarget (pool : ReleasedPool) (ticks : List (PoolTick F)) : Prop where
  each : ∀ taken ∈ steps step pool ticks, ∀ mountPath response now,
    taken.2 = .release mountPath response now →
      (taken.1.step taken.2).available
        = min taken.1.available
          (pool.total - min pool.total (targetReleased response pool.total))
  steady : ∀ before row after response, ticks = before ++ row ++ after →
    (∀ tick ∈ row, PoolTick.AsksFor response tick) →
      (final step pool before).releasedIn row ≤ targetReleased response pool.total
  whole : pool.available = pool.total →
    (∀ tick ∈ ticks, ∃ response, PoolTick.AsksFor response tick) →
      pool.releasedIn ticks = min pool.total (greatestTarget pool.total ticks)

theorem final_total (ticks : List (PoolTick F))
    : (final step self ticks).total = self.total := by
  induction ticks generalizing self with
  | nil => rfl
  | cons tick rest ih => exact (ih _).trans (self.step_total tick)

theorem greatestTarget_le {response : PressureResponse F} {total : Nat}
    {row : List (PoolTick F)} (steady : ∀ tick ∈ row, PoolTick.AsksFor response tick)
    : greatestTarget total row ≤ targetReleased response total := by
  induction row with
  | nil => exact Nat.zero_le _
  | cons tick rest ih =>
      obtain ⟨mountPath, now, rfl⟩ := steady tick List.mem_cons_self
      exact max_le le_rfl (ih fun tick member => steady tick (List.mem_cons_of_mem _ member))

/-- Every run of release cycles and replenishments drains its pool to the targets. -/
theorem drainsToTarget (pool : ReleasedPool) (ticks : List (PoolTick F))
    : pool.DrainsToTarget ticks := by
  constructor
  · rintro ⟨state, tick⟩ taken mountPath response now rfl
    obtain ⟨front, back, -, rfl⟩ := mem_steps_iff.mp taken
    rw [step_available, final_total]
  · rintro before row after response - steady
    have released := (final step pool before).releasedIn_eq fun tick member =>
      ⟨response, steady tick member⟩
    have bound : greatestTarget pool.total row ≤ targetReleased response pool.total :=
      greatestTarget_le steady
    have within := (final step pool before).available_le_total
    rw [final_total] at released within
    omega
  · intro full cycles
    rw [releasedIn_eq pool cycles, full]
    omega

/-- Orange pressure takes one of five files and no more, red pressure then two others. -/
example
    : let pool := ReleasedPool.new (.new 0) ⟨5, 4096⟩ ⟨fun _ => some ⟨4096, true⟩⟩
      let orange : PoolTick ℚ := .release .root ⟨.orange, 1 / 2, 1, .root⟩ 0
      let red : PoolTick ℚ := .release .root ⟨.red, 7 / 10, 3, .root⟩ 0
      (states step pool [orange, orange, orange, red]).map (·.available) = [5, 4, 4, 4, 2] := by
  decide +kernel

end ReleasedPool

end StorageBallast
