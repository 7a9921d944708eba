import StorageBallast.Core.Config
import StorageBallast.Scanner.ArtifactPatterns
import StorageBallast.Scanner.SacredOverlaps

/-! The directory walker. Its worker threads share a queue of directories; here the
directories below one are gone through where it queues them, so that the entries come out in
one of the orders the threads may produce.
-/

namespace StorageBallast

variable {F : Type} [Float64 F]

/-- What the file system tells about one entry. -/
structure Metadata where
  kind : FsEntryKind
  device : Nat
  inode : Nat
  mode : Nat
  len : Nat
  blocks : Nat
  modified : Option SystemTime
  created : Option SystemTime
deriving DecidableEq, Repr

/-- The file system with the calls that traversals make. -/
structure TreeWorld extends FileWorld where
  /-- `fs::metadata` if links are followed, else `fs::symlink_metadata`. -/
  metadataForPath : PathBuf → Bool → Except IoError Metadata
  /-- `Path::exists`, which follows links. -/
  pathExists : PathBuf → Bool
  /-- Spellings of one path denote one entry. -/
  pathExists_congr : ∀ {path other}, path.sameAs other = true →
    pathExists path = pathExists other

structure EntryMetadata where
  sizeBytes : Nat
  contentSizeBytes : Nat
  modified : SystemTime
  created : Option SystemTime
  isDir : Bool
  inode : Nat
  deviceId : Nat
  kind : FsEntryKind
  permissions : Nat
deriving DecidableEq, Repr

def allocatedSize (metadata : Metadata) : Nat := min (metadata.blocks * 512) (2 ^ 64 - 1)

def entryMetadata (metadata : Metadata) : EntryMetadata where
  sizeBytes := allocatedSize metadata
  contentSizeBytes := allocatedSize metadata
  modified := metadata.modified.getD 0
  created := metadata.created
  isDir := metadata.kind == .directory
  inode := metadata.inode
  deviceId := metadata.device
  kind := metadata.kind
  permissions := metadata.mode

namespace EntryMetadata

def effectiveAgeTimestamp (self : EntryMetadata) : SystemTime :=
  if self.isDir then self.created.getD self.modified else self.modified

def identity (self : EntryMetadata) : FsIdentity := ⟨self.deviceId, self.inode, self.kind⟩

end EntryMetadata

def identityForPath (world : TreeWorld) (path : PathBuf) (followSymlinks : Bool)
    : Except IoError FsIdentity :=
  (world.metadataForPath path followSymlinks).map fun metadata =>
    (entryMetadata metadata).identity

structure WalkerConfig where
  rootPaths : List PathBuf
  maxDepth : Nat
  followSymlinks : Bool
  crossDevices : Bool
  excludedPaths : List PathBuf
  opaquePruning : Bool

structure WalkEntry (F : Type) where
  path : PathBuf
  metadata : EntryMetadata
  depth : Nat
  structuralSignals : StructuralSignals
  isOpen : Bool
  opaqueTree : Option (OpaqueTreeClassification F)

/-- A walker over one file system. The registry of protected paths grows while the walk
meets markers; the predicate is its answer when a directory comes up.
-/
structure DirectoryWalker where
  config : WalkerConfig
  world : TreeWorld
  isProtected : PathBuf → Bool

def maxEntriesPerDir : Nat := 65536

def opaqueCandidateSizeFloor : Nat := 100 * 1048576

def nodeManifests : List String :=
  ["package.json", "package-lock.json", "npm-shrinkwrap.json", "pnpm-lock.yaml", "yarn.lock",
    "bun.lock", "bun.lockb"]

structure DirListing where
  signals : StructuralSignals
  objectCount : Nat
  totalCount : Nat
  contentSize : Nat
  hasNodeManifest : Bool
  pendingChildren : List PathBuf
deriving DecidableEq, Repr

def DirListing.start : DirListing := ⟨.default, 0, 0, 0, false, []⟩

def StructuralSignals.noteName (signals : StructuralSignals) (name : String)
    : StructuralSignals :=
  if name = "incremental" then { signals with hasIncremental := true }
  else if name = "deps" then { signals with hasDeps := true }
  else if name = "build" then { signals with hasBuild := true }
  else if name = ".fingerprint" then { signals with hasFingerprint := true }
  else if name = ".git" then { signals with hasGit := true }
  else if name = "cargo.toml" ∨ name = "Cargo.toml" then { signals with hasCargoToml := true }
  else signals

def isObjectFile (name : String) : Bool :=
  (extension name).any fun ext =>
    ["o", "rlib", "rmeta", "d"].any (Texts.eqIgnoreAsciiCase ext)

namespace DirectoryWalker

def isExcluded (walker : DirectoryWalker) (path : PathBuf) : Bool :=
  walker.config.excludedPaths.any path.sameAs

def isChildDir (walker : DirectoryWalker) (path : PathBuf) (kind : FsEntryKind) : Bool :=
  if walker.config.followSymlinks && kind == .symlink then
    (walker.world.metadataForPath path true).toOption.any (·.kind == .directory)
  else kind == .directory

def noteName (listing : DirListing) (name : String) : DirListing :=
  { listing with
    signals := listing.signals.noteName name
    objectCount := listing.objectCount + if isObjectFile name then 1 else 0
    hasNodeManifest := listing.hasNodeManifest || nodeManifests.contains name }

/-- A child with a known type adds its size, or waits to be descended into. -/
def noteChild (walker : DirectoryWalker) (depth : Nat) (path : PathBuf) (kind : FsEntryKind)
    (listing : DirListing) : DirListing :=
  if !walker.config.followSymlinks && kind == .symlink then listing
  else if walker.isChildDir path kind then
    if depth < walker.config.maxDepth ∧ !walker.isExcluded path then
      { listing with pendingChildren := listing.pendingChildren ++ [path] }
    else listing
  else
    match walker.world.metadataForPath path false with
    | .ok metadata =>
        { listing with
          contentSize := min (listing.contentSize + allocatedSize metadata) (2 ^ 64 - 1) }
    | .error _ => listing

def noteEntry (walker : DirectoryWalker) (depth : Nat) (dir : PathBuf) (entry : DirEntry)
    (listing : DirListing) : DirListing :=
  let listing := noteName listing entry.name
  match entry.kind with
  | none => listing
  | some kind => walker.noteChild depth (dir.join entry.name) kind listing

/-- The entries of a directory in turn; a protection marker gives the directory up. -/
def listEntries (walker : DirectoryWalker) (depth : Nat) (dir : PathBuf)
    : List DirEntry → DirListing → Option DirListing
  | [], listing => some listing
  | entry :: rest, listing =>
      let listing := { listing with totalCount := listing.totalCount + 1 }
      if listing.totalCount ≥ maxEntriesPerDir then some listing
      else if entry.name = markerFilename then none
      else walker.listEntries depth dir rest (walker.noteEntry depth dir entry listing)

/-- Nothing is asked about a root again; anything else must be on the device of its root. -/
def checkDirectory (walker : DirectoryWalker) (rootDev depth : Nat) (dir : PathBuf)
    : Option (Option Metadata) :=
  if walker.isExcluded dir || walker.isProtected dir then none
  else if depth = 0 then some none
  else
    match walker.world.metadataForPath dir walker.config.followSymlinks with
    | .error _ => none
    | .ok metadata =>
        if !walker.config.crossDevices && metadata.device != rootDev then none
        else some (some metadata)

def openDirectory (walker : DirectoryWalker) (rootDev depth : Nat) (dir : PathBuf)
    : Option (Option Metadata × DirListing) := do
  let metadata ← walker.checkDirectory rootDev depth dir
  let entries ← walker.world.readDir dir
  let listing ← walker.listEntries depth dir entries .start
  return (metadata, listing)

def childOpaqueTree (walker : DirectoryWalker) (listing : DirListing) (path : PathBuf)
    : Option (OpaqueTreeClassification F) :=
  if walker.config.opaquePruning then
    classifyOpaqueTree walker.world.toFileWorld path
      ⟨listing.signals.hasCargoToml, listing.hasNodeManifest⟩
  else none

def opaqueEntry (walker : DirectoryWalker) (rootDev depth : Nat) (path : PathBuf)
    (opaqueTree : OpaqueTreeClassification F) : Option (WalkEntry F) :=
  match walker.world.metadataForPath path walker.config.followSymlinks with
  | .error _ => none
  | .ok metadata =>
      if !walker.config.crossDevices && metadata.device != rootDev then none
      else
        let entry := entryMetadata metadata
        some {
          path
          metadata := { entry with
            contentSizeBytes :=
              if entry.isDir then max entry.contentSizeBytes opaqueCandidateSizeFloor
              else entry.contentSizeBytes }
          depth
          structuralSignals := .default
          isOpen := false
          opaqueTree := some opaqueTree
        }

def listedEntry (depth : Nat) (dir : PathBuf)
    (opaqueTree : Option (OpaqueTreeClassification F)) (metadata : Metadata)
    (listing : DirListing) : WalkEntry F :=
  let entry := entryMetadata metadata
  { path := dir
    metadata := { entry with
      contentSizeBytes :=
        if entry.isDir && listing.contentSize > 0 then listing.contentSize
        else entry.contentSizeBytes }
    depth
    structuralSignals := { listing.signals with
      mostlyObjectFiles :=
        listing.totalCount > 0 && listing.objectCount > 0
          && listing.objectCount * 2 ≥ listing.totalCount }
    isOpen := false
    opaqueTree }

/-- One directory, given how its children are walked. Roots have no entry of their own. -/
def processDirectory (walker : DirectoryWalker) (rootDev depth : Nat)
    (walkChild : PathBuf → Option (OpaqueTreeClassification F) → List (WalkEntry F))
    (dir : PathBuf) (opaqueTree : Option (OpaqueTreeClassification F))
    : List (WalkEntry F) :=
  match walker.openDirectory rootDev depth dir with
  | none => []
  | some (metadata, listing) =>
      (listing.pendingChildren.flatMap fun child =>
        match walker.childOpaqueTree listing child with
        | none => walkChild child none
        | some verdict =>
            match verdict.disposition with
            | .candidateOpaque =>
                (walker.opaqueEntry rootDev (depth + 1) child verdict).toList
            | .protectedOpaque => []
            | .signalOnly => walkChild child (some verdict))
        ++ (metadata.map fun metadata =>
          listedEntry depth dir opaqueTree metadata listing).toList

def walkFrom (walker : DirectoryWalker) (rootDev : Nat)
    : Nat → PathBuf → Option (OpaqueTreeClassification F) → List (WalkEntry F)
  | 0 => walker.processDirectory rootDev walker.config.maxDepth fun _ _ => []
  | levels + 1 =>
      walker.processDirectory rootDev (walker.config.maxDepth - (levels + 1))
        (walker.walkFrom rootDev levels)

/-- The roots that are directories, with their devices; other faults than a missing root or
missing permission fail the walk.
-/
def seeds (walker : DirectoryWalker) : List PathBuf → Except SbhError (List (PathBuf × Nat))
  | [] => .ok []
  | root :: rest =>
      match walker.world.metadataForPath root walker.config.followSymlinks with
      | .ok metadata =>
          if metadata.kind = .directory then
            (walker.seeds rest).map ((root, metadata.device) :: ·)
          else walker.seeds rest
      | .error fault =>
          if fault.kind = .other then .error (.io root fault) else walker.seeds rest

def walk (walker : DirectoryWalker) : Except SbhError (List (WalkEntry F)) :=
  (walker.seeds walker.config.rootPaths).map fun seeds =>
    seeds.flatMap fun (root, rootDev) =>
      walker.walkFrom rootDev walker.config.maxDepth root none

end DirectoryWalker

abbrev Listings := List (PathBuf × List DirEntry)

namespace Listings

def entries? (dirs : Listings) (path : PathBuf) : Option (List DirEntry) :=
  (dirs.find? fun dir => path.sameAs dir.1).map (·.2)

def lists (dirs : Listings) (path : PathBuf) : Bool :=
  dirs.any fun dir => dir.2.any fun entry => path.sameAs (dir.1.join entry.name)

def noSuchFile : IoError := ⟨.notFound, "No such file or directory (os error 2)"⟩

/-- Everything is as old as the epoch and on one device; listed entries that are no
directories are files of one size.
-/
def metadata (dirs : Listings) (fileBlocks : Nat) (path : PathBuf) : Except IoError Metadata :=
  if (dirs.entries? path).isSome then
    .ok ⟨.directory, 1, 2, 0x41ed, 4096, 8, some 0, some 0⟩
  else if dirs.lists path then
    .ok ⟨.file, 1, 3, 0x81a4, fileBlocks * 512, fileBlocks, some 0, some 0⟩
  else .error noSuchFile

theorem entries?_congr (dirs : Listings) {path other : PathBuf}
    (same : path.sameAs other = true)
    : dirs.entries? path = dirs.entries? other := by
  have components : path.components = other.components := by simpa [PathBuf.sameAs] using same
  simp [entries?, PathBuf.sameAs, components]

def files (dirs : Listings) (fileBlocks : Nat) : TreeWorld where
  lstat path := (dirs.metadata fileBlocks path).map fun metadata =>
    (entryMetadata metadata).identity
  isDir path := (dirs.entries? path).isSome
  isWritable _ := true
  readDir := dirs.entries?
  openPathAncestors _ := ([], true)
  removeDirAll _ := .ok ()
  removeFile _ := .ok ()
  metadataForPath path _ := dirs.metadata fileBlocks path
  pathExists path := (dirs.entries? path).isSome || dirs.lists path
  pathExists_congr same := by
    have components := beq_iff_eq.mp same
    simp [entries?_congr dirs same, lists, PathBuf.sameAs, components]

def tree (dirs : Listings) : Nat → PathBuf → ScanTree
  | 0, _ => .directory none []
  | levels + 1, path =>
      .directory none <| ((dirs.entries? path).getD []).filterMap fun entry =>
        (FileName.ofText entry.name).map fun name =>
          (name, .typed,
            if entry.kind = some .directory then dirs.tree levels (path.join entry.name)
            else .file)

/-- No links, so that canonical paths are those without dots. -/
def protection (dirs : Listings) : ProtectionWorld where
  resolveAbsolutePath := Location.ofNames
  home := none
  scanRoot location := ⟨location, none, dirs.tree 4 location.toPathBuf⟩

end Listings

end StorageBallast
