import StorageBallast.Scanner.ProtectionRegistry
import StorageBallast.Scanner.Walker

/-! The protection check of single candidates in the daemon. It looks for markers itself and
remembers the ones it found; what it remembers never changes an answer.
-/

namespace StorageBallast

open ProtectionRegistry

/-- The file system with the resolution of paths and the trees that containment scans read.
What lies above a resolved path is resolved.
-/
structure DaemonWorld where
  files : TreeWorld
  protection : ProtectionWorld
  resolved : ∀ path, ∀ above ∈ protection.resolveAbsolutePath path
      :: (protection.resolveAbsolutePath path).properAncestors,
    protection.resolveAbsolutePath above.toPathBuf = above

def shouldSkipProtectedDaemonCandidate (world : DaemonWorld) (sacredPaths : List SacredPath)
    (registry : ProtectionRegistry) (path : PathBuf) : ProtectionRegistry × Bool :=
  let env := world.protection.toPathEnv
  let discovered := registry.discoverAncestorMarkers world.files.toFileWorld env path
  (discovered.1,
    match discovered.2 with
    | .error _ => true
    | .ok () =>
        if discovered.1.isProtected env path then true
        else
          match findSacredOverlaps world.protection path sacredPaths with
          | .error _ => true
          | .ok overlaps => !overlaps.isEmpty)

/-- The registry has the patterns of another one and remembers only real markers. -/
structure Remembers (world : FileWorld) (start registry : ProtectionRegistry) : Prop where
  patterns : registry.configPatterns = start.configPatterns
  markers : ∀ dir ∈ registry.markerPaths, HasMarker world dir

/-- Whether all directories could be looked into does not depend on what is remembered. -/
theorem discoverMarkersIn_outcome (world : FileWorld) (env : PathEnv) (dirs : List Location)
    (registry other : ProtectionRegistry)
    : (discoverMarkersIn world env dirs registry).2
      = (discoverMarkersIn world env dirs other).2 := by
  induction dirs generalizing registry other with
  | nil => rfl
  | cons dir rest ih =>
      simp only [discoverMarkersIn]
      split
      · exact ih ..
      · split
        · exact ih ..
        · rfl
        · rfl

/-- What a look into resolved directories adds: markers that are there, and all of them if
every directory could be looked into; by induction on the directories.
-/
theorem discoverMarkersIn_spec {world : FileWorld} {env : PathEnv} {dirs : List Location}
    (canonical : ∀ dir ∈ dirs, env.resolveAbsolutePath dir.toPathBuf = dir)
    (registry : ProtectionRegistry)
    : (discoverMarkersIn world env dirs registry).1.configPatterns = registry.configPatterns
      ∧ (∀ dir ∈ (discoverMarkersIn world env dirs registry).1.markerPaths,
        dir ∈ registry.markerPaths ∨ (dir ∈ dirs ∧ HasMarker world dir))
      ∧ ((discoverMarkersIn world env dirs registry).2 = .ok () →
        ∀ dir, dir ∈ registry.markerPaths ∨ (dir ∈ dirs ∧ HasMarker world dir) →
          dir ∈ (discoverMarkersIn world env dirs registry).1.markerPaths) := by
  induction dirs generalizing registry with
  | nil => simp [discoverMarkersIn]
  | cons first rest ih =>
      have later := ih fun dir member => canonical dir (List.mem_cons_of_mem _ member)
      have itself := canonical first List.mem_cons_self
      simp only [discoverMarkersIn]
      cases found : world.lstat (first.toPathBuf.join markerFilename) with
      | ok entry =>
          have marked : HasMarker world first := ⟨entry, found⟩
          obtain ⟨patterns, sound, complete⟩ :=
            later (registry.registerMarker env first.toPathBuf)
          simp only [mem_registerMarker, itself] at sound complete
          refine ⟨patterns.trans (registerMarker_patterns ..), ?_, ?_⟩
          · intro dir member
            have := sound dir member
            grind
          · intro ended dir member
            apply complete ended dir
            grind
      | error fault =>
          have unmarked : ¬ HasMarker world first := by
            rintro ⟨entry, same⟩
            simp [found] at same
          cases kind : fault.kind with
          | notFound =>
              obtain ⟨patterns, sound, complete⟩ := later registry
              simp only [kind]
              refine ⟨patterns, ?_, ?_⟩
              · intro dir member
                have := sound dir member
                grind
              · intro ended dir member
                apply complete ended dir
                grind
          | permissionDenied => simp only [kind]; grind
          | other => simp only [kind]; grind

/-- What the registry remembers after a look above a path is real, and without a fault a
marker at or above the path is known exactly if there is one.
-/
theorem discoverAncestorMarkers_spec {world : DaemonWorld}
    {start registry : ProtectionRegistry} (path : PathBuf)
    (remembers : Remembers world.files.toFileWorld start registry)
    : let env := world.protection.toPathEnv
      let discovered := registry.discoverAncestorMarkers world.files.toFileWorld env path
      let chain := env.resolveAbsolutePath path :: (env.resolveAbsolutePath path).properAncestors
      Remembers world.files.toFileWorld start discovered.1
      ∧ (discovered.2 = .ok () →
        (discovered.1.matchesMarker env path = true
          ↔ ∃ dir ∈ chain, HasMarker world.files.toFileWorld dir)) := by
  intro env discovered chain
  obtain ⟨patterns, sound, complete⟩ := discoverMarkersIn_spec (world.resolved path) registry
  have real : ∀ dir ∈ discovered.1.markerPaths, HasMarker world.files.toFileWorld dir := by
    intro dir member
    rcases sound dir member with before | ⟨_, marked⟩
    · exact remembers.markers dir before
    · exact marked
  refine ⟨⟨patterns.trans remembers.patterns, real⟩, fun ended => ?_⟩
  simp only [matchesMarker, findMarkerAncestor, List.find?_isSome]
  constructor
  · rintro ⟨dir, member, known⟩
    exact ⟨dir, member, real dir (by simpa using known)⟩
  · rintro ⟨dir, member, marked⟩
    exact ⟨dir, member, List.contains_iff_mem.mpr (complete ended dir (Or.inr ⟨member, marked⟩))⟩

theorem shouldSkip_remembering {world : DaemonWorld} {start registry : ProtectionRegistry}
    (sacredPaths : List SacredPath) (path : PathBuf)
    (fresh : Remembers world.files.toFileWorld start start)
    (remembers : Remembers world.files.toFileWorld start registry)
    : Remembers world.files.toFileWorld start
        (shouldSkipProtectedDaemonCandidate world sacredPaths registry path).1
      ∧ (shouldSkipProtectedDaemonCandidate world sacredPaths registry path).2
        = (shouldSkipProtectedDaemonCandidate world sacredPaths start path).2 := by
  obtain ⟨kept, known⟩ := discoverAncestorMarkers_spec path remembers
  obtain ⟨keptFresh, knownFresh⟩ := discoverAncestorMarkers_spec path fresh
  refine ⟨kept, ?_⟩
  have sameOutcome := discoverMarkersIn_outcome world.files.toFileWorld
    world.protection.toPathEnv
    (world.protection.resolveAbsolutePath path
      :: (world.protection.resolveAbsolutePath path).properAncestors) registry start
  simp only [shouldSkipProtectedDaemonCandidate, discoverAncestorMarkers] at *
  rw [← sameOutcome] at knownFresh ⊢
  split
  · rfl
  · rename_i ended
    have sameMarkers := Bool.eq_iff_iff.mpr ((known ended).trans (knownFresh ended).symm)
    simp only [isProtected, matchesConfigPattern, sameMarkers, kept.patterns,
      keptFresh.patterns]

end StorageBallast
