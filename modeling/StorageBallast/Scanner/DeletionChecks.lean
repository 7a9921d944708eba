import StorageBallast.Core.Errors
import StorageBallast.Foundations.Checks
import StorageBallast.Foundations.Floats
import StorageBallast.Scanner.Candidates
import StorageBallast.Scanner.SourceFloor

/-! The checks before a deletion and the deletion of one path.
Other processes act between any two calls on the file system, so each call reads the world
of its own moment.
-/

namespace StorageBallast

/-- A directory entry as it is listed; reading its type may fail. -/
structure DirEntry where
  name : String
  kind : Option FsEntryKind
deriving DecidableEq, Repr

structure FileWorld where
  /-- `symlink_metadata`, by its identity. -/
  lstat : PathBuf → Except IoError FsIdentity
  /-- `Path::is_dir`, which follows links. -/
  isDir : PathBuf → Bool
  isWritable : PathBuf → Bool
  readDir : PathBuf → Option (List DirEntry)
  /-- The open paths under some roots with their ancestors, and whether the scan for them
  was complete.
  -/
  openPathAncestors : List PathBuf → List PathBuf × Bool
  removeDirAll : PathBuf → Except IoError Unit
  removeFile : PathBuf → Except IoError Unit

inductive CandidateCall where
  | targetFree
  | metadata
  | identity
  | parentAccess
  | nestedGit
  | manifest
  | sources
  | recheck
  | reidentify
  | removal
  | retry
  | confirm
deriving DecidableEq, Repr

structure DeletionConfig (F : Type) where
  maxBatchSize : Nat
  dryRun : Bool
  minScore : F
  circuitBreakerThreshold : Nat
  circuitBreakerCooldown : Duration
  checkOpenFiles : Bool
  requireIdentity : Bool
deriving DecidableEq, Repr

open Float64 in
def DeletionConfig.default {F : Type} [Float64 F] : DeletionConfig F where
  maxBatchSize := 10
  dryRun := false
  minScore := 0.5
  circuitBreakerThreshold := 5
  circuitBreakerCooldown := Duration.fromSecs 30
  checkOpenFiles := true
  requireIdentity := false

inductive SkipReason where
  | targetFreeReached
  | pathGone
  | fileOpen
  | containsGit
  | notWritable
  | vetoed
  | belowThreshold
  | symlink
  | identityUnavailable
  | identityMismatch
  | containsCargoManifest
  | hardcodedSourceTree
  | looksLikeSourceCode
  | userDeclined
deriving DecidableEq, Repr

namespace SkipReason

/-- Stable key of a reason in reports. -/
def asStr : SkipReason → String
  | targetFreeReached => "target_free_reached"
  | pathGone => "path_gone"
  | fileOpen => "file_open"
  | containsGit => "contains_git"
  | notWritable => "not_writable"
  | vetoed => "vetoed"
  | belowThreshold => "below_threshold"
  | symlink => "symlink"
  | identityUnavailable => "identity_unavailable"
  | identityMismatch => "identity_mismatch"
  | containsCargoManifest => "contains_cargo_manifest"
  | hardcodedSourceTree => "hardcoded_source_tree"
  | looksLikeSourceCode => "looks_like_source_code"
  | userDeclined => "user_declined"

def debugName : SkipReason → String
  | targetFreeReached => "TargetFreeReached"
  | pathGone => "PathGone"
  | fileOpen => "FileOpen"
  | containsGit => "ContainsGit"
  | notWritable => "NotWritable"
  | vetoed => "Vetoed"
  | belowThreshold => "BelowThreshold"
  | symlink => "Symlink"
  | identityUnavailable => "IdentityUnavailable"
  | identityMismatch => "IdentityMismatch"
  | containsCargoManifest => "ContainsCargoManifest"
  | hardcodedSourceTree => "HardcodedSourceTree"
  | looksLikeSourceCode => "LooksLikeSourceCode"
  | userDeclined => "UserDeclined"

end SkipReason

def shouldBackoffSkip : SkipReason → Bool
  | .pathGone | .belowThreshold | .userDeclined => false
  | _ => true

/-- A `.git` entry within the given number of levels. -/
def containsNestedGit (world : FileWorld) : Nat → PathBuf → Bool
  | 0, _ => false
  | depth + 1, path =>
      ((world.readDir path).getD []).any fun entry =>
        entry.name == ".git"
          || (entry.kind == some .directory
            && containsNestedGit world depth (path.join entry.name))

def cargoSignals (entries : List DirEntry) : StructuralSignals :=
  let has := fun name => entries.any fun entry => entry.name == name
  { StructuralSignals.default with
    hasCargoToml := entries.any fun entry => Texts.eqIgnoreAsciiCase entry.name "cargo.toml"
    hasIncremental := has "incremental"
    hasDeps := has "deps"
    hasBuild := has "build"
    hasFingerprint := has ".fingerprint" }

def containsCargoManifestWithoutArtifactMarkers (world : FileWorld) (path : PathBuf)
    : Bool :=
  let signals := cargoSignals ((world.readDir path).getD [])
  signals.hasCargoToml
    && !(signals.hasFingerprint
      || (signals.hasIncremental && signals.hasDeps)
      || (signals.hasBuild && signals.hasDeps))

def manifestFiles : List String :=
  ["Cargo.toml", "package.json", "pyproject.toml", "setup.py", "setup.cfg", "go.mod",
    "pom.xml", "build.gradle", "build.gradle.kts", "Gemfile", "Pipfile", "requirements.txt",
    "tsconfig.json", "deno.json", "mix.exs", "Project.toml"]

def sourceExts : List String :=
  ["rs", "py", "ts", "tsx", "js", "jsx", "go", "java", "kt", "rb", "ex", "exs", "ml", "hs",
    "cpp", "cc", "c", "h", "hpp", "swift", "scala", "clj", "cljs", "lua", "jl"]

/-- `Path::extension` of a name: what follows its last dot, unless the dot comes first. -/
def extension (name : String) : Option String :=
  match Texts.splitOnce '.' name.toList.reverse with
  | none => none
  | some (after, before) =>
      if before = [] ∨ name = ".." then none else some (String.ofList after.reverse)

def isSourceMarker (entry : DirEntry) : Bool :=
  manifestFiles.any (Texts.eqIgnoreAsciiCase entry.name)
    || (entry.kind == some .file
      && (extension entry.name).any fun ext => sourceExts.any (Texts.eqIgnoreAsciiCase ext))

def looksLikeSourceCode (world : FileWorld) (path : PathBuf) : Bool :=
  ((world.readDir path).getD []).any isSourceMarker

def isPathOpenByAncestor (path : PathBuf) (openAncestors : List PathBuf) : Bool :=
  openAncestors.any path.sameAs

section

variable {F : Type}

open Checks

def verifyCandidateIdentity (config : DeletionConfig F) (world : FileWorld)
    (candidate : CandidacyScore F) : Except SkipReason Unit :=
  match candidate.identity with
  | none => refuseWhen config.requireIdentity .identityUnavailable
  | some expected =>
      match world.lstat candidate.path with
      | .error _ => .error .pathGone
      | .ok current => refuseWhen (current != expected) .identityMismatch

def observeEntry (world : FileWorld) (path : PathBuf) : Except SkipReason FsIdentity :=
  match world.lstat path with
  | .error _ => .error .pathGone
  | .ok entry => .ok entry

def preflightCheck (config : DeletionConfig F) (worlds : CandidateCall → FileWorld)
    (candidate : CandidacyScore F) (openPaths : Option (List PathBuf))
    : Except SkipReason Unit := do
  let path := candidate.path
  refuseWhen (isHardcodedSourceTree path) .hardcodedSourceTree
  let entry ← observeEntry (worlds .metadata) path
  refuseWhen (entry.kind == .symlink) .symlink
  verifyCandidateIdentity config (worlds .identity) candidate
  refuseWhen (path.parent.any fun up => !(worlds .parentAccess).isWritable up) .notWritable
  refuseWhen (entry.kind == .directory && containsNestedGit (worlds .nestedGit) 3 path)
    .containsGit
  refuseWhen
    (entry.kind == .directory
      && containsCargoManifestWithoutArtifactMarkers (worlds .manifest) path)
    .containsCargoManifest
  refuseWhen
    (entry.kind == .directory && candidate.classification.category != .goCache
      && looksLikeSourceCode (worlds .sources) path)
    .looksLikeSourceCode
  refuseWhen (openPaths.any (isPathOpenByAncestor path)) .fileOpen

def preflightAt (config : DeletionConfig F) (world : FileWorld)
    (candidate : CandidacyScore F) (openPaths : Option (List PathBuf))
    : Except SkipReason Unit :=
  preflightCheck config (fun _ => world) candidate openPaths

def classificationAllowsForceRemove (classification : ArtifactClassification F) : Bool :=
  classification.category == .goCache
    || ["opaque-cargo-cache", "cargo-home-prefix", "rch-cargo-home", "tmp-cargo-home",
      "dot-cargo-prefix"].contains classification.patternName

structure RemovalCalls where
  calls : List CandidateCall
  outcome : Except IoError Unit

/-- Removal of a directory, tried again with write permission if permission was missing. -/
def removeDirAllForce (worlds : CandidateCall → FileWorld) (path : PathBuf)
    : RemovalCalls :=
  match (worlds .removal).removeDirAll path with
  | .ok () => ⟨[.removal], .ok ()⟩
  | .error fault =>
      if fault.kind = .permissionDenied then
        ⟨[.removal, .retry], (worlds .retry).removeDirAll path⟩
      else ⟨[.removal], .error fault⟩

def removeEntry (worlds : CandidateCall → FileWorld) (candidate : CandidacyScore F)
    (entry : FsIdentity) : RemovalCalls :=
  if entry.kind = .directory then
    if classificationAllowsForceRemove candidate.classification then
      removeDirAllForce worlds candidate.path
    else ⟨[.removal], (worlds .removal).removeDirAll candidate.path⟩
  else ⟨[.removal], (worlds .removal).removeFile candidate.path⟩

/-- The checks made again right before removal; they answer with the entry found. -/
def recheckEntry (config : DeletionConfig F) (worlds : CandidateCall → FileWorld)
    (candidate : CandidacyScore F) : Except SbhError FsIdentity := do
  let path := candidate.path
  let entry ← ((worlds .recheck).lstat path).mapError (SbhError.io path)
  refuseWhen (entry.kind == .symlink)
    (SbhError.runtime ("path became a symlink before deletion: " ++ path.text))
  (verifyCandidateIdentity config (worlds .reidentify) candidate).mapError fun skip =>
    SbhError.runtime ("path identity changed before deletion: " ++ path.text
      ++ " (" ++ skip.debugName ++ ")")
  return entry

def confirmGone (world : FileWorld) (path : PathBuf) : Except SbhError Unit :=
  refuseWhen ((world.lstat path).toOption.isSome)
    (SbhError.runtime ("path still exists after deletion: " ++ path.text))

/-- Outcome of deleting one path, with the calls that removed something. -/
structure DeletionAttempt where
  removals : List CandidateCall
  outcome : Except SbhError Unit

def deletePath (config : DeletionConfig F) (worlds : CandidateCall → FileWorld)
    (candidate : CandidacyScore F) : DeletionAttempt :=
  match recheckEntry config worlds candidate with
  | .error error => ⟨[], .error error⟩
  | .ok entry =>
      let removed := removeEntry worlds candidate entry
      ⟨removed.calls, do
        removed.outcome.mapError (SbhError.io candidate.path)
        confirmGone (worlds .confirm) candidate.path⟩

end

def emptyDirectories : FileWorld where
  lstat _ := .ok ⟨1, 2, .directory⟩
  isDir _ := true
  isWritable _ := true
  readDir _ := some []
  openPathAncestors _ := ([], true)
  removeDirAll _ := .ok ()
  removeFile _ := .ok ()

def candidateAt (path : String) : CandidacyScore ℚ :=
  { sampleCandidate .delete with path := ⟨path⟩, identity := some ⟨1, 2, .directory⟩ }

end StorageBallast
