import Mathlib.Data.List.MinMax
import StorageBallast.Ballast.BallastManager
import StorageBallast.Foundations.PathPieces
import StorageBallast.Scanner.ArtifactPatterns

/-! Discovery of the ballast pools: one for each mount that owns a watched path. A pool's
directory lies under its mount point by its name; the volume it is on is the one with the
longest mount point above it.
-/

namespace StorageBallast.PoolDiscovery

def ballastSubdir : String := ".sbh/ballast"

def cowFilesystems : List String := ["btrfs", "zfs", "bcachefs"]

def fallocateFriendly : List String := ["ext4", "xfs", "ext3", "ext2"]

def ramFilesystems : List String := ["tmpfs", "ramfs", "devtmpfs"]

def networkFilesystems : List String := ["nfs", "nfs4", "cifs", "smbfs", "fuse.sshfs"]

inductive ProvisionStrategy where
  | fallocate
  | randomData
  | skip
deriving DecidableEq, Repr

def provisionStrategy (fsType : String) : ProvisionStrategy :=
  if fsType ∈ ramFilesystems ∨ fsType ∈ networkFilesystems then .skip
  else if fsType ∈ cowFilesystems then .randomData
  else if fsType ∈ fallocateFriendly then .fallocate
  else .randomData

structure MountPoint where
  path : Location
  fsType : String
  isRamBacked : Bool
deriving DecidableEq, Repr

structure MountTable where
  mounts : List MountPoint
  distinct : (mounts.map (·.path)).Nodup

structure BallastVolumeOverride where
  enabled : Bool
  fileCount : Option Nat
  fileSizeBytes : Option Nat
deriving DecidableEq, Repr

structure BallastSettings where
  fileCount : Nat
  fileSizeBytes : Nat
  overrides : String → Option BallastVolumeOverride

def stripTrailingSeparator (text : String) : String :=
  ((Texts.stripSuffix text "/").orElse fun _ => Texts.stripSuffix text "\\").getD text

namespace BallastSettings

def effectiveFileCount (self : BallastSettings) (mountPath : String) : Nat :=
  ((self.overrides (stripTrailingSeparator mountPath)).bind (·.fileCount)).getD self.fileCount

def effectiveFileSizeBytes (self : BallastSettings) (mountPath : String) : Nat :=
  ((self.overrides (stripTrailingSeparator mountPath)).bind (·.fileSizeBytes)).getD
    self.fileSizeBytes

def isVolumeEnabled (self : BallastSettings) (mountPath : String) : Bool :=
  (self.overrides (stripTrailingSeparator mountPath)).all (·.enabled)

def perVolumeConfig (self : BallastSettings) (mountStr : String) : BallastConfig :=
  ⟨self.effectiveFileCount mountStr, self.effectiveFileSizeBytes mountStr⟩

end BallastSettings

/-- What the system answers during discovery: whether a mount is read-only, and whether a
manager comes up on a directory.
-/
structure DiscoveryPlatform where
  isReadonly : Location → Except SbhError Bool
  initManager : PathBuf → BallastConfig → Except SbhError Unit

structure SkippedPoolInfo where
  mountPoint : Location
  ballastDir : PathBuf
  fsType : String
  strategy : ProvisionStrategy
  reason : String
deriving DecidableEq, Repr

structure BallastPool where
  mountPoint : Location
  ballastDir : PathBuf
  fsType : String
  strategy : ProvisionStrategy
  config : BallastConfig
  skipFallocate : Bool
deriving DecidableEq, Repr

structure BallastPoolCoordinator where
  pools : List BallastPool
  skippedPools : List SkippedPoolInfo

def findMount (path : PathBuf) (mounts : List MountPoint) : Option MountPoint :=
  (mounts.filter fun mount => path.startsWith mount.path.toPathBuf).reverse.argmax
    fun mount => mount.path.text.utf8ByteSize

def noteOwner (mounts seen : List MountPoint) (path : PathBuf) : List MountPoint :=
  match findMount path mounts with
  | none => seen
  | some mount =>
      if seen.any fun earlier => earlier.path = mount.path then seen else seen ++ [mount]

def seenMounts (watchedPaths : List PathBuf) (mounts : List MountPoint) : List MountPoint :=
  watchedPaths.foldl (noteOwner mounts) []

def configuredOwnerMount (configuredBallastDir : Option PathBuf)
    (mounts seen : List MountPoint) : Option Location := do
  let dir ← configuredBallastDir
  let mount ← findMount dir mounts
  if seen.any fun earlier => earlier.path = mount.path then some mount.path else none

def resolveBallastDir (mountPath : Location) (configured : Option PathBuf) : PathBuf :=
  let fallback := mountPath.toPathBuf.join ballastSubdir
  match configured with
  | some dir => if dir.startsWith mountPath.toPathBuf then dir else fallback
  | none => fallback

section Discovery

variable (settings : BallastSettings) (platform : DiscoveryPlatform)

/-- Why a mount gets no pool. -/
def skipReason (mount : MountPoint) (ballastDir : PathBuf) : Option String :=
  let mountStr := mount.path.text
  if !settings.isVolumeEnabled mountStr then some "disabled via ballast volume override"
  else if mount.isRamBacked || mount.fsType ∈ ramFilesystems then
    some "ram-backed filesystem (ballast disabled)"
  else if mount.fsType ∈ networkFilesystems then
    some "network filesystem (ballast disabled)"
  else
    match platform.isReadonly mount.path with
    | .error err => some ("failed to stat filesystem: " ++ err.toString)
    | .ok isReadonly =>
        if isReadonly then some "read-only filesystem"
        else if provisionStrategy mount.fsType = .skip then
          some "filesystem strategy marked as skip"
        else
          match platform.initManager ballastDir (settings.perVolumeConfig mountStr) with
          | .error err => some ("failed to initialize ballast manager: " ++ err.toString)
          | .ok _ => none

def resolvedDir (configuredBallastDir : Option PathBuf) (owner : Option Location)
    (mount : MountPoint) : PathBuf :=
  resolveBallastDir mount.path (if owner = some mount.path then configuredBallastDir else none)

def poolOf (mount : MountPoint) (ballastDir : PathBuf) : BallastPool where
  mountPoint := mount.path
  ballastDir := ballastDir
  fsType := mount.fsType
  strategy := provisionStrategy mount.fsType
  config := settings.perVolumeConfig mount.path.text
  skipFallocate := provisionStrategy mount.fsType == .randomData

/-- Each seen mount gets a pool or is skipped with a reason, independently of the others. -/
def discoverInner (watchedPaths : List PathBuf) (configuredBallastDir : Option PathBuf)
    (mounts : List MountPoint) : BallastPoolCoordinator :=
  let seen := seenMounts watchedPaths mounts
  let dirOf := resolvedDir configuredBallastDir
    (configuredOwnerMount configuredBallastDir mounts seen)
  { pools := (seen.filter fun mount =>
        (skipReason settings platform mount (dirOf mount)).isNone).map fun mount =>
      poolOf settings mount (dirOf mount)
    skippedPools := seen.filterMap fun mount =>
      (skipReason settings platform mount (dirOf mount)).map fun reason =>
        ⟨mount.path, dirOf mount, mount.fsType, provisionStrategy mount.fsType, reason⟩ }

end Discovery

theorem startsWith_iff {path above : PathBuf}
    : path.startsWith above = true ↔ above.components <+: path.components :=
  List.isPrefixOf_iff_prefix

theorem text_longer (high : Location) {more : List FileName} (below : more ≠ [])
    : high.text.utf8ByteSize < (high.descend more).text.utf8ByteSize := by
  obtain ⟨name, rest, rfl⟩ := List.exists_cons_of_ne_nil below
  have named : 0 < name.text.utf8ByteSize := Nat.pos_of_ne_zero fun empty =>
    (Location.whole_of_fileName name).2 (String.utf8ByteSize_eq_zero_iff.mp empty)
  have slash : "/".utf8ByteSize = 1 := rfl
  have spelled : (high.descend (name :: rest)).text
      = String.join (high.names.map fun name => "/" ++ name.text) ++ ("/" ++ name.text)
        ++ String.join (rest.map fun name => "/" ++ name.text) := by
    obtain ⟨names⟩ := high
    cases names <;> simp [Location.text, Location.descend, String.join_append,
      String.append_assoc]
  rw [spelled]
  simp only [String.utf8ByteSize_append, slash]
  obtain ⟨names⟩ := high
  cases names with
  | nil =>
      simp only [Location.text, slash]
      omega
  | cons first others =>
      simp only [Location.text]
      omega

theorem components_prefix_iff {low high : Location}
    : high.toPathBuf.components <+: low.toPathBuf.components
      ↔ low.startsWith high = true := by
  have injective : Function.Injective fun name : FileName => Component.normal name.text := by
    intro left right same
    cases left
    cases right
    simpa using same
  rw [Location.components_toPathBuf, Location.components_toPathBuf, List.prefix_cons_inj,
    List.prefix_map_iff_of_injective injective, Location.startsWith_iff]

variable {mount : MountPoint}

/-- The owner is the mount that matches and is at or below every mount that matches. -/
theorem findMount_eq_some_iff (table : MountTable) {path : PathBuf}
    : findMount path table.mounts = some mount
      ↔ mount ∈ table.mounts ∧ path.startsWith mount.path.toPathBuf = true
        ∧ ∀ other ∈ table.mounts, path.startsWith other.path.toPathBuf = true →
          mount.path.startsWith other.path = true := by
  have lowest {found : MountPoint} (owner : findMount path table.mounts = some found)
      : found ∈ table.mounts ∧ path.startsWith found.path.toPathBuf = true
        ∧ ∀ other ∈ table.mounts, path.startsWith other.path.toPathBuf = true →
          found.path.startsWith other.path = true := by
    have matching := List.mem_filter.mp (List.mem_reverse.mp (List.argmax_mem owner))
    refine ⟨matching.1, matching.2, fun other listed above => ?_⟩
    rcases List.prefix_or_prefix_of_prefix (startsWith_iff.mp above)
      (startsWith_iff.mp matching.2) with upper | lower
    · exact components_prefix_iff.mp upper
    · -- a mount further down would have the longer text
      obtain ⟨more, names⟩ := Location.startsWith_iff.mp (components_prefix_iff.mp lower)
      have same : other.path = found.path.descend more := by
        cases other with
        | mk path fsType isRamBacked => exact congrArg Location.mk names.symm
      have listed : other ∈ (table.mounts.filter fun mount =>
          path.startsWith mount.path.toPathBuf).reverse :=
        List.mem_reverse.mpr (List.mem_filter.mpr ⟨listed, above⟩)
      have shorter := List.le_of_mem_argmax listed owner
      by_cases here : more = []
      · rw [same, here]
        exact Location.startsWith_iff.mpr (by simp [Location.descend])
      · rw [same] at shorter
        exact absurd (text_longer found.path here) (Nat.not_lt.mpr shorter)
  refine ⟨lowest, fun owns => ?_⟩
  obtain ⟨listed, above, below⟩ := owns
  cases owner : findMount path table.mounts with
  | none =>
      have empty := List.reverse_eq_nil_iff.mp (List.argmax_eq_none.mp owner)
      exact absurd above (Bool.eq_false_iff.mp (by
        simpa using List.filter_eq_nil_iff.mp empty mount listed))
  | some found =>
      obtain ⟨foundListed, foundAbove, foundBelow⟩ := lowest owner
      have samePath := Location.startsWith_antisymm (foundBelow mount listed above)
        (below found foundListed foundAbove)
      exact congrArg some (List.inj_on_of_nodup_map table.distinct foundListed listed samePath)

def sbhDir : FileName := ⟨".sbh", by decide⟩

def ballastName : FileName := ⟨"ballast", by decide⟩

theorem components_fallback (mountPath : Location)
    : (mountPath.toPathBuf.join ballastSubdir).components
      = (mountPath.descend [sbhDir, ballastName]).toPathBuf.components := by
  have twice : mountPath.toPathBuf.join ballastSubdir
      = (mountPath.toPathBuf.join sbhDir.text).join ballastName.text := by
    generalize mountPath.toPathBuf = path
    unfold PathBuf.join
    split
    · rw [if_neg (by simp [sbhDir])]
      simp [sbhDir, ballastName, ballastSubdir, String.append_assoc]
    · rw [if_neg (by simp [sbhDir])]
      simp [sbhDir, ballastName, ballastSubdir, String.append_assoc]
  rw [twice, PathBuf.components_join _ ballastName.valid,
    PathBuf.components_join _ sbhDir.valid, Location.components_toPathBuf,
    Location.components_toPathBuf]
  simp [Location.descend]

/-- A mount owns its subdirectory unless another mount lies on the way there. -/
theorem findMount_fallback (table : MountTable) (listed : mount ∈ table.mounts)
    : findMount (mount.path.toPathBuf.join ballastSubdir) table.mounts = some mount
      ↔ ∀ nested ∈ table.mounts, nested.path ≠ mount.path.descend [sbhDir]
        ∧ nested.path ≠ mount.path.descend [sbhDir, ballastName] := by
  have matching (other : MountPoint)
      : (mount.path.toPathBuf.join ballastSubdir).startsWith other.path.toPathBuf = true
        ↔ (mount.path.descend [sbhDir, ballastName]).startsWith other.path = true := by
    rw [startsWith_iff, components_fallback, components_prefix_iff]
  have cases_below {other : Location}
      : (mount.path.descend [sbhDir, ballastName]).startsWith other = true
        ↔ other = mount.path.descend [sbhDir, ballastName] ∨ other = mount.path.descend [sbhDir]
          ∨ mount.path.startsWith other = true := by
    obtain ⟨names⟩ := other
    have split : (mount.path.descend [sbhDir, ballastName]).names
        = (mount.path.names ++ [sbhDir]) ++ [ballastName] := by simp [Location.descend]
    rw [Location.startsWith_iff, split, List.prefix_concat_iff, List.prefix_concat_iff,
      Location.startsWith_iff]
    simp [Location.descend]
  rw [findMount_eq_some_iff]
  constructor
  · rintro ⟨_, _, lowest⟩ nested among
    have outside (more : List FileName) (below : more ≠ [])
        : ¬ mount.path.startsWith (mount.path.descend more) = true := by
      intro above
      have fits := (Location.startsWith_iff.mp above).length_le
      have longer := List.length_pos_of_ne_nil below
      rw [Location.descend, List.length_append] at fits
      omega
    constructor
    · intro same
      refine outside [sbhDir] (by simp) (same ▸ lowest nested among ?_)
      exact (matching nested).mpr (cases_below.mpr (.inr (.inl same)))
    · intro same
      refine outside [sbhDir, ballastName] (by simp) (same ▸ lowest nested among ?_)
      exact (matching nested).mpr (cases_below.mpr (.inl same))
  · intro clear
    refine ⟨listed, (matching mount).mpr (Location.descend_startsWith _ _),
      fun other among above => ?_⟩
    rcases cases_below.mp ((matching other).mp above) with same | same | below
    · exact absurd same (clear other among).2
    · exact absurd same (clear other among).1
    · exact below

theorem mem_noteOwner {table : MountTable} {seen : List MountPoint} {path : PathBuf}
    (listed : ∀ earlier ∈ seen, earlier ∈ table.mounts)
    : mount ∈ noteOwner table.mounts seen path
      ↔ mount ∈ seen ∨ findMount path table.mounts = some mount := by
  unfold noteOwner
  cases owner : findMount path table.mounts with
  | none => simp
  | some found =>
      dsimp only
      split
      next known =>
        -- what has the same mount point is the same mount
        obtain ⟨earlier, before, samePath⟩ := List.any_eq_true.mp known
        have among := ((findMount_eq_some_iff table).mp owner).1
        obtain rfl := List.inj_on_of_nodup_map table.distinct (listed earlier before) among
          (of_decide_eq_true samePath)
        refine ⟨.inl, fun either => either.elim id fun same => ?_⟩
        exact Option.some.inj same ▸ before
      next => simp [eq_comm]

theorem noteOwner_nodup {mounts seen : List MountPoint}
    (distinct : (seen.map (·.path)).Nodup) (path : PathBuf)
    : ((noteOwner mounts seen path).map (·.path)).Nodup := by
  unfold noteOwner
  split
  next => exact distinct
  next mount _ =>
    split
    next => exact distinct
    next fresh =>
      rw [List.map_append, List.map_singleton, List.nodup_append]
      refine ⟨distinct, List.nodup_singleton _, fun place member other last same => ?_⟩
      obtain ⟨earlier, before, rfl⟩ := List.mem_map.mp member
      rw [List.mem_singleton.mp last] at same
      exact fresh (List.any_eq_true.mpr ⟨earlier, before, decide_eq_true same⟩)

/-- Exactly the owners of the watched paths are seen, by induction on the paths. -/
theorem mem_seenMounts {table : MountTable} {watched : List PathBuf}
    : mount ∈ seenMounts watched table.mounts
      ↔ ∃ path ∈ watched, findMount path table.mounts = some mount := by
  suffices noted : ∀ seen : List MountPoint, (∀ earlier ∈ seen, earlier ∈ table.mounts) →
      (mount ∈ watched.foldl (noteOwner table.mounts) seen
        ↔ mount ∈ seen ∨ ∃ path ∈ watched, findMount path table.mounts = some mount) by
    simpa [seenMounts] using noted [] (by simp)
  induction watched with
  | nil => simp
  | cons path rest ih =>
      intro seen listed
      have listedNow : ∀ earlier ∈ noteOwner table.mounts seen path,
          earlier ∈ table.mounts := by
        intro earlier member
        rcases (mem_noteOwner listed).mp member with before | owner
        · exact listed earlier before
        · exact ((findMount_eq_some_iff table).mp owner).1
      rw [List.foldl_cons, ih _ listedNow, mem_noteOwner listed]
      simp [or_assoc]

theorem seenMounts_nodup (watched : List PathBuf) (mounts : List MountPoint)
    : ((seenMounts watched mounts).map (·.path)).Nodup := by
  let distinctPaths (seen : List MountPoint) : Prop := (seen.map (·.path)).Nodup
  exact List.foldlRecOn (motive := distinctPaths) watched _ List.nodup_nil
    fun _ distinct path _ => noteOwner_nodup distinct path

section Volumes

variable (settings : BallastSettings) (platform : DiscoveryPlatform) (watched : List PathBuf)
  (configured : Option PathBuf) (table : MountTable)

def dirOf (mount : MountPoint) : PathBuf :=
  resolvedDir configured
    (configuredOwnerMount configured table.mounts (seenMounts watched table.mounts)) mount

theorem mem_pools {pool : BallastPool}
    : pool ∈ (discoverInner settings platform watched configured table.mounts).pools
      ↔ ∃ mount ∈ seenMounts watched table.mounts,
        skipReason settings platform mount (dirOf watched configured table mount) = none
        ∧ poolOf settings mount (dirOf watched configured table mount) = pool := by
  simp [discoverInner, dirOf, and_assoc]

theorem mem_skippedPools {location : Location}
    : (∃ skipped ∈
          (discoverInner settings platform watched configured table.mounts).skippedPools,
        skipped.mountPoint = location)
      ↔ ∃ mount ∈ seenMounts watched table.mounts, mount.path = location
        ∧ skipReason settings platform mount (dirOf watched configured table mount) ≠ none := by
  constructor
  · rintro ⟨skipped, member, rfl⟩
    obtain ⟨mount, seen, made⟩ := List.mem_filterMap.mp member
    obtain ⟨reason, found, rfl⟩ := Option.map_eq_some_iff.mp made
    exact ⟨mount, seen, rfl, by simp [dirOf, found]⟩
  · rintro ⟨mount, seen, rfl, skips⟩
    obtain ⟨reason, found⟩ := Option.ne_none_iff_exists'.mp skips
    exact ⟨_, List.mem_filterMap.mpr ⟨mount, seen, Option.map_eq_some_iff.mpr
      ⟨reason, found, rfl⟩⟩, rfl⟩

def Redirected (mount : MountPoint) : Prop :=
  configured.bind (findMount · table.mounts) = some mount

theorem configuredOwnerMount_eq_iff {mount : MountPoint}
    (seen : mount ∈ seenMounts watched table.mounts)
    : configuredOwnerMount configured table.mounts (seenMounts watched table.mounts)
        = some mount.path ↔ Redirected configured table mount := by
  unfold configuredOwnerMount Redirected
  cases configured with
  | none => simp
  | some dir =>
      cases owner : findMount dir table.mounts with
      | none => simp [owner]
      | some found =>
          have among := ((findMount_eq_some_iff table).mp owner).1
          obtain ⟨path, _, owned⟩ := mem_seenMounts.mp seen
          have listed := ((findMount_eq_some_iff table).mp owned).1
          simp only [Option.bind_eq_bind, Option.bind_some, owner]
          constructor
          · intro named
            split at named
            next =>
              exact congrArg some (List.inj_on_of_nodup_map table.distinct among listed
                (Option.some.inj named))
            next => cases named
          · rintro same
            obtain rfl := Option.some.inj same
            exact if_pos (List.any_eq_true.mpr ⟨found, seen, decide_eq_true rfl⟩)

/-- A redirected mount uses the configured directory, any other one its subdirectory. -/
theorem findMount_dirOf {mount : MountPoint} (seen : mount ∈ seenMounts watched table.mounts)
    : findMount (dirOf watched configured table mount) table.mounts = some mount
      ↔ Redirected configured table mount ∨ ∀ nested ∈ table.mounts,
        nested.path ≠ mount.path.descend [sbhDir]
        ∧ nested.path ≠ mount.path.descend [sbhDir, ballastName] := by
  obtain ⟨path, _, owned⟩ := mem_seenMounts.mp seen
  have listed := ((findMount_eq_some_iff table).mp owned).1
  have redirect := configuredOwnerMount_eq_iff watched configured table seen
  unfold dirOf resolvedDir
  by_cases redirected : Redirected configured table mount
  · rw [if_pos (redirect.mpr redirected)]
    obtain ⟨dir, same, owner⟩ := Option.bind_eq_some_iff.mp redirected
    have above := ((findMount_eq_some_iff table).mp owner).2.1
    refine ⟨fun _ => .inl redirected, fun _ => ?_⟩
    simp only [same, resolveBallastDir, above, if_true, owner]
  · rw [if_neg (redirect.not.mpr redirected)]
    simp [resolveBallastDir, findMount_fallback table listed, redirected]

structure OwnVolumes (found : BallastPoolCoordinator) : Prop where
  disjoint : ∀ pool ∈ found.pools, ∀ skipped ∈ found.skippedPools,
    pool.mountPoint ≠ skipped.mountPoint
  owners : ∀ location, ((∃ pool ∈ found.pools, pool.mountPoint = location)
      ∨ ∃ skipped ∈ found.skippedPools, skipped.mountPoint = location)
    ↔ ∃ path ∈ watched, (findMount path table.mounts).map (·.path) = some location
  dirs_distinct : ∀ pool ∈ found.pools, ∀ other ∈ found.pools,
    pool.ballastDir.sameAs other.ballastDir = true → pool = other
  configured_once : ∀ dir, configured = some dir → ∀ pool ∈ found.pools,
    ∀ other ∈ found.pools, pool.ballastDir.sameAs dir = true →
      other.ballastDir.sameAs dir = true → pool = other
  at_home : ∀ pool ∈ found.pools,
    (findMount pool.ballastDir table.mounts).map (·.path) = some pool.mountPoint

/-- No mount that gets a pool in its own subdirectory has another one mounted on the way to
it.
-/
def SubdirsUnmounted : Prop :=
  ∀ mount ∈ table.mounts, (∃ path ∈ watched, findMount path table.mounts = some mount) →
    skipReason settings platform mount (resolveBallastDir mount.path none) = none →
    ¬ Redirected configured table mount →
    ∀ nested ∈ table.mounts, nested.path ≠ mount.path.descend [sbhDir]
      ∧ nested.path ≠ mount.path.descend [sbhDir, ballastName]

/-- Directories of one spelling by components have one owner. -/
theorem findMount_congr {path other : PathBuf} (same : path.sameAs other = true)
    (mounts : List MountPoint) : findMount path mounts = findMount other mounts := by
  have components : path.components = other.components := by simpa [PathBuf.sameAs] using same
  unfold findMount PathBuf.startsWith
  rw [components]

/-- The pools live on their own volumes exactly when no mount of a pool has another one
mounted on the way to its subdirectory.
-/
theorem ownVolumes_iff
    : OwnVolumes watched configured table
        (discoverInner settings platform watched configured table.mounts)
      ↔ SubdirsUnmounted settings platform watched configured table := by
  have once {mount other : MountPoint} (seen : mount ∈ seenMounts watched table.mounts)
      (seenOther : other ∈ seenMounts watched table.mounts) (same : mount.path = other.path)
      : mount = other :=
    List.inj_on_of_nodup_map (seenMounts_nodup watched table.mounts) seen seenOther same
  constructor
  · intro separate mount listed watches unskipped elsewhere
    have seen := mem_seenMounts.mpr watches
    have unnamed := (configuredOwnerMount_eq_iff watched configured table seen).not.mpr elsewhere
    have fallback : dirOf watched configured table mount
        = resolveBallastDir mount.path none := by
      unfold dirOf resolvedDir
      rw [if_neg unnamed]
    have pooled := (mem_pools settings platform watched configured table).mpr
      ⟨mount, seen, fallback ▸ unskipped, rfl⟩
    obtain ⟨home, owner, samePath⟩ := Option.map_eq_some_iff.mp (separate.at_home _ pooled)
    have among := ((findMount_eq_some_iff table).mp owner).1
    obtain rfl := List.inj_on_of_nodup_map table.distinct among listed samePath
    exact ((findMount_dirOf watched configured table seen).mp owner).resolve_left elsewhere
  · intro unmounted
    have home {mount : MountPoint} (seen : mount ∈ seenMounts watched table.mounts)
        (unskipped : skipReason settings platform mount
          (dirOf watched configured table mount) = none)
        : findMount (dirOf watched configured table mount) table.mounts = some mount := by
      refine (findMount_dirOf watched configured table seen).mpr (or_iff_not_imp_left.mpr ?_)
      intro elsewhere
      obtain ⟨_, _, owned⟩ := mem_seenMounts.mp seen
      have unnamed :=
        (configuredOwnerMount_eq_iff watched configured table seen).not.mpr elsewhere
      refine unmounted mount ((findMount_eq_some_iff table).mp owned).1
        (mem_seenMounts.mp seen) ?_ elsewhere
      rw [dirOf, resolvedDir, if_neg unnamed] at unskipped
      exact unskipped
    -- one owner for one directory makes the pools that use it one pool
    have sameDir {pool other : BallastPool}
        (among : pool ∈ (discoverInner settings platform watched configured table.mounts).pools)
        (amongOther : other ∈
          (discoverInner settings platform watched configured table.mounts).pools)
        (same : findMount pool.ballastDir table.mounts
          = findMount other.ballastDir table.mounts) : pool = other := by
      obtain ⟨mount, seen, unskipped, rfl⟩ :=
        (mem_pools settings platform watched configured table).mp among
      obtain ⟨mountOther, seenOther, unskippedOther, rfl⟩ :=
        (mem_pools settings platform watched configured table).mp amongOther
      have owners := (home seen unskipped).symm.trans
        (same.trans (home seenOther unskippedOther))
      rw [Option.some.inj owners]
    refine ⟨?_, ?_, ?_, ?_, ?_⟩
    · intro pool among skipped amongSkipped same
      obtain ⟨mount, seen, unskipped, rfl⟩ :=
        (mem_pools settings platform watched configured table).mp among
      obtain ⟨other, seenOther, samePath, skips⟩ :=
        (mem_skippedPools settings platform watched configured table).mp
          ⟨skipped, amongSkipped, same.symm⟩
      obtain rfl := once seenOther seen samePath
      exact skips unskipped
    · intro location
      have owned : (∃ path ∈ watched,
            (findMount path table.mounts).map (·.path) = some location)
          ↔ ∃ mount ∈ seenMounts watched table.mounts, mount.path = location := by
        simp only [mem_seenMounts, Option.map_eq_some_iff]
        constructor
        · rintro ⟨path, watches, mount, owner, same⟩
          exact ⟨mount, ⟨path, watches, owner⟩, same⟩
        · rintro ⟨mount, ⟨path, watches, owner⟩, same⟩
          exact ⟨path, watches, mount, owner, same⟩
      rw [mem_skippedPools, owned]
      constructor
      · rintro (⟨pool, among, rfl⟩ | ⟨mount, seen, same, _⟩)
        · obtain ⟨mount, seen, _, rfl⟩ :=
            (mem_pools settings platform watched configured table).mp among
          exact ⟨mount, seen, rfl⟩
        · exact ⟨mount, seen, same⟩
      · rintro ⟨mount, seen, rfl⟩
        by_cases unskipped : skipReason settings platform mount
            (dirOf watched configured table mount) = none
        · exact .inl ⟨_, (mem_pools settings platform watched configured table).mpr
            ⟨mount, seen, unskipped, rfl⟩, rfl⟩
        · exact .inr ⟨mount, seen, rfl, unskipped⟩
    · intro pool among other amongOther same
      exact sameDir among amongOther (findMount_congr same table.mounts)
    · intro dir _ pool among other amongOther uses usesOther
      exact sameDir among amongOther ((findMount_congr uses table.mounts).trans
        (findMount_congr usesOther table.mounts).symm)
    · intro pool among
      obtain ⟨mount, seen, unskipped, rfl⟩ :=
        (mem_pools settings platform watched configured table).mp among
      exact congrArg (Option.map (·.path)) (home seen unskipped)

end Volumes

def dataMount : MountPoint := ⟨⟨[⟨"data", by decide⟩]⟩, "ext4", false⟩

/-- A volume of its own is mounted under the first one's `.sbh`. -/
def sbhMount : MountPoint := ⟨⟨[⟨"data", by decide⟩, sbhDir]⟩, "ext4", false⟩

def nestedTable : MountTable := ⟨[dataMount, sbhMount], by decide⟩

def plainSettings : BallastSettings := ⟨10, 1073741824, fun _ => none⟩

def writablePlatform : DiscoveryPlatform := ⟨fun _ => .ok false, fun _ _ => .ok ()⟩

/-- The pool of `/data` lies on the volume that is mounted at `/data/.sbh`. -/
theorem nestedTable_shared
    : ¬ OwnVolumes [⟨"/data/projects"⟩] none nestedTable
        (discoverInner plainSettings writablePlatform [⟨"/data/projects"⟩] none
          nestedTable.mounts) := by
  intro separate
  have pools : (discoverInner plainSettings writablePlatform [⟨"/data/projects"⟩] none
      nestedTable.mounts).pools = [poolOf plainSettings dataMount ⟨"/data/.sbh/ballast"⟩] := by
    decide
  have home := separate.at_home (poolOf plainSettings dataMount ⟨"/data/.sbh/ballast"⟩)
    (by rw [pools]; exact List.mem_singleton_self _)
  revert home
  decide

end StorageBallast.PoolDiscovery
