import Mathlib.Data.List.Sort
import Mathlib.Logic.Function.Basic
import Mathlib.Tactic.Common

/-! One directory of ballast files, and a manager that creates and releases them. A release
goes by the inventory that the manager's last operation left, not by the directory.
-/

namespace StorageBallast

/-- A ballast file on disk, and whether `verify_single_file` accepts it. -/
structure FileOnDisk where
  size : Nat
  intact : Bool
deriving DecidableEq, Repr

structure BallastDir where
  files : Nat → Option FileOnDisk

namespace BallastDir

def remove (self : BallastDir) (index : Nat) : BallastDir :=
  ⟨Function.update self.files index none⟩

def create (self : BallastDir) (index : Nat) (file : FileOnDisk) : BallastDir :=
  ⟨Function.update self.files index (some file)⟩

end BallastDir

structure BallastConfig where
  fileCount : Nat
  fileSizeBytes : Nat
deriving DecidableEq, Repr

def BallastConfig.indices (config : BallastConfig) : List Nat := List.range' 1 config.fileCount

structure BallastFile where
  index : Nat
  size : Nat
  integrityOk : Bool
deriving DecidableEq, Repr

inductive ProvisionError where
  | lowSpace (index : Nat)
  | storageExhausted (index : Nat)
  | failed (index : Nat)
deriving DecidableEq, Repr

structure ProvisionReport where
  filesCreated : Nat
  filesSkipped : Nat
  totalBytes : Nat
  errors : List ProvisionError
deriving DecidableEq, Repr

structure ReleaseReport where
  filesReleased : Nat
  bytesFreed : Nat
  errors : List Nat
deriving DecidableEq, Repr

inductive CreateOutcome where
  | created (file : FileOnDisk)
  | storageExhausted
  | failed
deriving DecidableEq, Repr

/-- What creating files meets: too little free space, and how each creation ends. -/
structure ProvisionAnswers where
  lowSpace : Nat → Bool
  createBallastFile : Nat → CreateOutcome

structure BallastManager where
  config : BallastConfig
  inventory : List BallastFile
deriving DecidableEq, Repr

namespace BallastManager

def availableCount (self : BallastManager) : Nat := self.inventory.length

def pruneOrphans (config : BallastConfig) (dir : BallastDir) : BallastDir :=
  ⟨fun index => if config.fileCount < index ∨ index = 0 then none else dir.files index⟩

def scanExisting (config : BallastConfig) (dir : BallastDir) : List BallastFile :=
  config.indices.filterMap fun index =>
    (dir.files index).map fun file => ⟨index, file.size, file.intact⟩

def new (config : BallastConfig) (dir : BallastDir) : BallastManager × BallastDir :=
  let pruned := pruneOrphans config dir
  (⟨config, scanExisting config pruned⟩, pruned)

/-- The loop of `provision` over the indices, and of `replenish_one`, which ends with the first
file created.
-/
def provisionFiles (answers : ProvisionAnswers) (onlyOne : Bool)
    : List Nat → BallastDir → ProvisionReport → BallastDir × ProvisionReport
  | [], dir, report => (dir, report)
  | index :: rest, dir, report =>
      if (dir.files index).any (·.intact) then
        provisionFiles answers onlyOne rest dir
          { report with filesSkipped := report.filesSkipped + 1 }
      else
        -- a corrupted file is removed before it is recreated
        let cleared := dir.remove index
        if answers.lowSpace index then
          (cleared, { report with errors := report.errors ++ [.lowSpace index] })
        else
          match answers.createBallastFile index with
          | .created file =>
              let made := { report with
                filesCreated := report.filesCreated + 1
                totalBytes := report.totalBytes + file.size }
              if onlyOne then (cleared.create index file, made)
              else provisionFiles answers onlyOne rest (cleared.create index file) made
          | .storageExhausted =>
              (cleared, { report with errors := report.errors ++ [.storageExhausted index] })
          | .failed =>
              provisionFiles answers onlyOne rest cleared
                { report with errors := report.errors ++ [.failed index] }

/-- `provision` and `replenish_one`, which share all but the end of their loops. -/
def provisionWith (onlyOne : Bool) (self : BallastManager) (answers : ProvisionAnswers)
    (dir : BallastDir) : BallastManager × BallastDir × ProvisionReport :=
  let provisioned := provisionFiles answers onlyOne self.config.indices
    (pruneOrphans self.config dir) ⟨0, 0, 0, []⟩
  ({ self with inventory := scanExisting self.config provisioned.1 }, provisioned)

def provision (self : BallastManager) (answers : ProvisionAnswers) (dir : BallastDir)
    : BallastManager × BallastDir × ProvisionReport :=
  self.provisionWith false answers dir

def replenishOne (self : BallastManager) (answers : ProvisionAnswers) (dir : BallastDir)
    : BallastManager × BallastDir × ProvisionReport :=
  self.provisionWith true answers dir

def highestFirst (indices : List Nat) : List Nat := indices.insertionSort (· ≥ ·)

def releaseFiles : List Nat → BallastDir → ReleaseReport → BallastDir × ReleaseReport
  | [], dir, report => (dir, report)
  | index :: rest, dir, report =>
      match dir.files index with
      | some file =>
          releaseFiles rest (dir.remove index) { report with
            filesReleased := report.filesReleased + 1
            bytesFreed := report.bytesFreed + file.size }
      | none => releaseFiles rest dir { report with errors := report.errors ++ [index] }

def releaseTargets (self : BallastManager) (count : Nat) : List Nat :=
  (highestFirst (self.inventory.map (·.index))).take count

def release (self : BallastManager) (count : Nat) (dir : BallastDir)
    : BallastManager × BallastDir × ReleaseReport :=
  let released := releaseFiles (self.releaseTargets count) dir ⟨0, 0, []⟩
  ({ self with inventory := scanExisting self.config released.1 }, released)

/-- `release_for_mount` on the pool of the mount. -/
def releaseForMount (self : BallastManager) (count : Nat) (dir : BallastDir)
    : BallastManager × BallastDir × Option ReleaseReport :=
  if self.availableCount = 0 then (self, dir, none)
  else
    let released := self.release count dir
    (released.1, released.2.1, some released.2.2)

def presentIndices (config : BallastConfig) (dir : BallastDir) : List Nat :=
  config.indices.filter fun index => (dir.files index).isSome

/-- A scan lists what is present, by induction on the indices. -/
theorem scanExisting_indices (config : BallastConfig) (dir : BallastDir)
    : (scanExisting config dir).map (·.index) = presentIndices config dir := by
  unfold scanExisting presentIndices
  induction config.indices with
  | nil => rfl
  | cons index rest ih =>
      cases found : dir.files index with
      | none => simp [found, ih]
      | some file => simp [found, ih]

theorem mem_presentIndices {config : BallastConfig} {dir : BallastDir} {index : Nat}
    : index ∈ presentIndices config dir
      ↔ index ∈ config.indices ∧ (dir.files index).isSome :=
  List.mem_filter

theorem presentIndices_nodup (config : BallastConfig) (dir : BallastDir)
    : (presentIndices config dir).Nodup :=
  List.Nodup.filter _ List.nodup_range'

theorem presentIndices_length (config : BallastConfig) (dir : BallastDir)
    : (presentIndices config dir).length ≤ config.fileCount := by
  refine (List.length_filter_le _ _).trans ?_
  rw [BallastConfig.indices, List.length_range']

theorem mem_highestFirst {indices : List Nat} {index : Nat}
    : index ∈ highestFirst indices ↔ index ∈ indices :=
  (List.perm_insertionSort _ indices).mem_iff

theorem highestFirst_length (indices : List Nat)
    : (highestFirst indices).length = indices.length :=
  (List.perm_insertionSort _ indices).length_eq

theorem highestFirst_nodup {indices : List Nat} (distinct : indices.Nodup)
    : (highestFirst indices).Nodup :=
  (List.perm_insertionSort _ indices).nodup_iff.mpr distinct

/-- Exactly the targets are gone after a release, by induction on the targets. -/
theorem releaseFiles_files (targets : List Nat) (dir : BallastDir) (report : ReleaseReport)
    (index : Nat)
    : (releaseFiles targets dir report).1.files index
        = if index ∈ targets then none else dir.files index := by
  induction targets generalizing dir report with
  | nil => simp [releaseFiles]
  | cons target rest ih =>
      unfold releaseFiles
      by_cases here : index = target
      · subst here
        cases found : dir.files index with
        | none => simp [ih, found]
        | some file => simp [ih, BallastDir.remove]
      · cases found : dir.files target with
        | none => simp [ih, here]
        | some file => simp [ih, here, BallastDir.remove]

/-- A release reports the targets that were there, by induction on the targets. -/
theorem releaseFiles_filesReleased {targets : List Nat} (distinct : targets.Nodup)
    (dir : BallastDir) (report : ReleaseReport)
    : (releaseFiles targets dir report).2.filesReleased
        = report.filesReleased
          + (targets.filter fun index => (dir.files index).isSome).length := by
  induction targets generalizing dir report with
  | nil => rfl
  | cons target rest ih =>
      obtain ⟨fresh, distinctRest⟩ := List.nodup_cons.mp distinct
      unfold releaseFiles
      cases found : dir.files target with
      | none => simp [ih distinctRest, found]
      | some file =>
          have same : (rest.filter fun index => ((dir.remove target).files index).isSome)
              = rest.filter fun index => (dir.files index).isSome := by
            refine List.filter_congr fun index member => ?_
            have apart : index ≠ target := fun here => fresh (here ▸ member)
            simp [BallastDir.remove, apart]
          simp only [ih distinctRest, same, List.filter_cons, found, Option.isSome_some,
            if_true, List.length_cons]
          omega

end BallastManager

end StorageBallast
