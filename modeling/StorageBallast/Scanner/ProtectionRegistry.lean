import Mathlib.Algebra.GroupWithZero.Nat
import StorageBallast.Foundations.PathPieces
import StorageBallast.Scanner.DeletionChecks
import StorageBallast.Scanner.SacredOverlaps

/-! The registry of protected paths: directories with a marker file found so far, and the
patterns of the configuration.
-/

namespace StorageBallast

structure GlobPattern where
  original : String
  compiled : List Globs.Piece

structure ProtectionRegistry where
  markerPaths : List Location
  configPatterns : List GlobPattern

/-- A text cut at each of its separators; a cut at the front leaves the root. -/
def cutsAtSlashes (front : List Char) : List Char → List String
  | [] => []
  | c :: rest =>
      if c = '/' then
        (if front = [] then "/" else String.ofList front) :: cutsAtSlashes (front ++ [c]) rest
      else cutsAtSlashes (front ++ [c]) rest

def textAndAncestors (text : String) : List String :=
  (if text = "" then [] else [text]) ++ cutsAtSlashes [] text.toList

def pathMatchTexts (env : PathEnv) (path : PathBuf) : List String :=
  textAndAncestors (Texts.slashed path.text)
    ++ textAndAncestors (normalizePathForMatching (env.resolveAbsolutePath path))

def pushText (texts : List String) (text : String) : List String :=
  if text ∈ texts then texts else texts ++ [text]

/-- Add a text, and then always what stands before its last separator. -/
def pushTextAndAncestors (texts : List String) (text : List Char) : List String :=
  let texts := if text = [] then texts else pushText texts (String.ofList text)
  match _cut : Texts.beforeLast '/' text with
  | none => texts
  | some [] => pushText texts "/"
  | some (c :: front) => pushTextAndAncestors texts (c :: front)
termination_by text.length
decreasing_by
  obtain ⟨name, same, -⟩ := Texts.beforeLast_eq_some.mp _cut
  simp [same]

namespace ProtectionRegistry

def new (env : PathEnv) (patterns : List String) : ProtectionRegistry where
  markerPaths := []
  configPatterns := patterns.map fun pattern =>
    ⟨pattern, globToRegex (normalizeProtectedPatternForMatching env pattern)⟩

/-- The registry of emergency mode, which has no configuration. -/
def markerOnly : ProtectionRegistry := ⟨[], []⟩

def findMarkerAncestor (self : ProtectionRegistry) (env : PathEnv) (path : PathBuf)
    : Option Location :=
  let normalized := env.resolveAbsolutePath path
  (normalized :: normalized.properAncestors).find? self.markerPaths.contains

def matchesMarker (self : ProtectionRegistry) (env : PathEnv) (path : PathBuf) : Bool :=
  (self.findMarkerAncestor env path).isSome

def matchesConfigPattern (self : ProtectionRegistry) (env : PathEnv) (path : PathBuf) : Bool :=
  (pathMatchTexts env path).any fun text =>
    self.configPatterns.any fun pattern => isMatch pattern.compiled text

def isProtected (self : ProtectionRegistry) (env : PathEnv) (path : PathBuf) : Bool :=
  self.matchesMarker env path || self.matchesConfigPattern env path

def orderedMatchTexts (env : PathEnv) (path : PathBuf) : List String :=
  pushTextAndAncestors (pushTextAndAncestors [] (Texts.slashed path.text).toList)
    (normalizePathForMatching (env.resolveAbsolutePath path)).toList

def protectionReason (self : ProtectionRegistry) (env : PathEnv)
    (markerReason : PathBuf → Option String) (path : PathBuf) : Option String :=
  match self.findMarkerAncestor env path with
  | some markerDir =>
      match markerReason (markerDir.toPathBuf.join markerFilename) with
      | some reason => some ("protected by " ++ markerFilename ++ " marker: " ++ reason)
      | none => some ("protected by " ++ markerFilename ++ " in " ++ markerDir.text)
  | none =>
      (orderedMatchTexts env path).findSome? fun text =>
        (self.configPatterns.find? fun pattern => isMatch pattern.compiled text).map
          fun pattern => "protected by config pattern: " ++ pattern.original

def registerMarker (self : ProtectionRegistry) (env : PathEnv) (dir : PathBuf)
    : ProtectionRegistry :=
  let markerDir := env.resolveAbsolutePath dir
  if markerDir ∈ self.markerPaths then self
  else { self with markerPaths := self.markerPaths ++ [markerDir] }

def discoverMarkersIn (world : FileWorld) (env : PathEnv)
    : List Location → ProtectionRegistry → ProtectionRegistry × Except SbhError Unit
  | [], self => (self, .ok ())
  | dir :: rest, self =>
      let markerPath := dir.toPathBuf.join markerFilename
      match world.lstat markerPath with
      | .ok _ => discoverMarkersIn world env rest (self.registerMarker env dir.toPathBuf)
      | .error fault =>
          match fault.kind with
          | .notFound => discoverMarkersIn world env rest self
          | .permissionDenied => (self, .error (.permissionDenied markerPath))
          | .other => (self, .error (.io markerPath fault))

def discoverAncestorMarkers (self : ProtectionRegistry) (world : FileWorld) (env : PathEnv)
    (path : PathBuf) : ProtectionRegistry × Except SbhError Unit :=
  let normalized := env.resolveAbsolutePath path
  discoverMarkersIn world env (normalized :: normalized.properAncestors) self

/-- The entries of directories, with what is known of their type. -/
structure ListedWorld extends FileWorld where
  listing : PathBuf → Except IoError (List (Option (FileName × Option FsEntryKind)))

/-- The directories among some entries. -/
def childDirs (dir : PathBuf) (entries : List (Option (FileName × Option FsEntryKind)))
    : List PathBuf :=
  entries.filterMap fun entry =>
    match entry with
    | some (name, some .directory) => some (dir.join name.text)
    | some (_, some .file) | some (_, some .symlink) | some (_, some .other) => none
    | some (_, none) | none => none

/-- At most so many directories are visited from a directory on, with so many levels left. -/
def visits (world : ListedWorld) : Nat → PathBuf → Nat
  | 0, _ => 1
  | levels + 1, dir =>
      match world.listing dir with
      | .error _ => 1
      | .ok entries => 1 + ((childDirs dir entries).map (visits world levels)).sum

theorem visits_pos (world : ListedWorld) (levels : Nat) (dir : PathBuf)
    : 0 < visits world levels dir := by
  cases levels with
  | zero => exact Nat.one_pos
  | succ levels =>
      rw [visits]
      split
      · exact Nat.one_pos
      · exact Nat.add_pos_left Nat.one_pos _

/-- A directory is visited once more than all that is visited below it. -/
theorem visits_of_listing {world : ListedWorld} {maxDepth depth : Nat} {dir : PathBuf}
    {entries : List (Option (FileName × Option FsEntryKind))} (shallow : ¬ maxDepth ≤ depth)
    (listed : world.listing dir = .ok entries)
    : visits world (maxDepth - depth) dir
      = 1 + ((childDirs dir entries).map (visits world (maxDepth - (depth + 1)))).sum := by
  obtain ⟨levels, same⟩ : ∃ levels, maxDepth - depth = levels + 1 :=
    Nat.exists_eq_succ_of_ne_zero (by omega)
  have below : maxDepth - (depth + 1) = levels := by omega
  rw [same, below, visits, listed]

/-- Visit the directories of a stack, the next one in front, and count the new markers. -/
def discoverLoop (world : ListedWorld) (env : PathEnv) (maxDepth : Nat)
    (self : ProtectionRegistry) (found : Nat)
    : List (PathBuf × Nat) → ProtectionRegistry × Except SbhError Nat
  | [] => (self, .ok found)
  | (dir, depth) :: queue =>
      match world.lstat (dir.join markerFilename) with
      | .ok _ =>
          let found := if env.resolveAbsolutePath dir ∈ self.markerPaths then found else found + 1
          discoverLoop world env maxDepth (self.registerMarker env dir) found queue
      | .error _ =>
          if _deep : maxDepth ≤ depth then discoverLoop world env maxDepth self found queue
          else
            match _listed : world.listing dir with
            | .error fault =>
                match fault.kind with
                | .permissionDenied | .notFound =>
                    discoverLoop world env maxDepth self found queue
                | .other => (self, .error (.io dir fault))
            | .ok entries =>
                discoverLoop world env maxDepth self found
                  ((childDirs dir entries).reverse.map (·, depth + 1) ++ queue)
termination_by queue => (queue.map fun item => visits world (maxDepth - item.2) item.1).sum
decreasing_by
  · simpa using visits_pos world (maxDepth - depth) dir
  · simpa using visits_pos world (maxDepth - depth) dir
  · simpa using visits_pos world (maxDepth - depth) dir
  · simp only [List.map_cons, List.sum_cons, List.map_append, List.sum_append, List.map_reverse,
      List.sum_reverse, List.map_map, Function.comp_def]
    rw [visits_of_listing _deep _listed, Nat.one_add]
    exact Nat.add_lt_add_right (Nat.lt_succ_self _) _

def discoverMarkers (self : ProtectionRegistry) (world : ListedWorld) (env : PathEnv)
    (root : PathBuf) (maxDepth : Nat) : ProtectionRegistry × Except SbhError Nat :=
  discoverLoop world env maxDepth self 0 [((env.resolveAbsolutePath root).toPathBuf, 0)]

end ProtectionRegistry

def HasMarker (world : FileWorld) (dir : Location) : Prop :=
  ∃ entry, world.lstat (dir.toPathBuf.join markerFilename) = .ok entry

open ProtectionRegistry

theorem registerMarker_patterns (env : PathEnv) (dir : PathBuf) (registry : ProtectionRegistry)
    : (registry.registerMarker env dir).configPatterns = registry.configPatterns := by
  unfold registerMarker
  dsimp only
  split <;> rfl

theorem mem_registerMarker {env : PathEnv} {dir : PathBuf} {registry : ProtectionRegistry}
    {other : Location}
    : other ∈ (registry.registerMarker env dir).markerPaths
      ↔ other ∈ registry.markerPaths ∨ other = env.resolveAbsolutePath dir := by
  unfold registerMarker
  dsimp only
  split
  · grind
  · simp

namespace ProtectionRegistry

variable {registry : ProtectionRegistry} {env : PathEnv}

theorem isProtected_iff {path : PathBuf}
    : registry.isProtected env path = true
      ↔ (∃ dir ∈ env.resolveAbsolutePath path :: (env.resolveAbsolutePath path).properAncestors,
          dir ∈ registry.markerPaths)
        ∨ ∃ text ∈ pathMatchTexts env path,
          ∃ pattern ∈ registry.configPatterns, isMatch pattern.compiled text = true := by
  simp [isProtected, matchesMarker, matchesConfigPattern, findMarkerAncestor]

/-- The patterns are the same, and no marker is forgotten. -/
structure Extends (grown registry : ProtectionRegistry) : Prop where
  patterns : grown.configPatterns = registry.configPatterns
  markers : registry.markerPaths ⊆ grown.markerPaths

theorem Extends.refl (registry : ProtectionRegistry) : Extends registry registry :=
  ⟨rfl, List.Subset.refl _⟩

theorem Extends.trans {grown middle : ProtectionRegistry} (later : Extends grown middle)
    (first : Extends middle registry) : Extends grown registry :=
  ⟨later.patterns.trans first.patterns, List.Subset.trans first.markers later.markers⟩

theorem Extends.isProtected {grown : ProtectionRegistry} (growth : Extends grown registry)
    {path : PathBuf} (guarded : registry.isProtected env path = true)
    : grown.isProtected env path = true := by
  rw [isProtected_iff] at guarded ⊢
  rw [growth.patterns]
  exact guarded.imp_left fun ⟨dir, above, known⟩ => ⟨dir, above, growth.markers known⟩

theorem extends_registerMarker (registry : ProtectionRegistry) (env : PathEnv) (dir : PathBuf)
    : Extends (registry.registerMarker env dir) registry :=
  ⟨registerMarker_patterns env dir registry, fun _ known => mem_registerMarker.mpr (.inl known)⟩

end ProtectionRegistry

end StorageBallast
