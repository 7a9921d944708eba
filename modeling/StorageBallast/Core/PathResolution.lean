import Mathlib.Data.Stream.Init
import StorageBallast.Foundations.Clock
import StorageBallast.Foundations.RealPaths

/-! Resolution of paths, with and without the memory of resolved directories. The memory has
one entry for each directory above a resolved path; whatever it has kept, the answer is the one
that would be found without it.
-/

namespace StorageBallast

structure PathSystem where
  currentDir : Option PathBuf
  canonicalize : PathBuf → Option PathBuf
  /-- `symlink_metadata` succeeds, on a link. -/
  isSymlink : PathBuf → Bool

structure ResolveCache where
  entries : List (PathBuf × PathBuf)
  seededAt : Instant
  /-- What the clock is going to read. -/
  clock : Stream' Instant

namespace PathResolution

def resolveCacheTtl : Duration := Duration.fromSecs 30

def resolveCacheMaxEntries : Nat := 32768

def clearResolveCache (cache : ResolveCache) : ResolveCache where
  entries := []
  seededAt := cache.clock.head
  clock := cache.clock.tail

def cacheLookup (key : PathBuf) (cache : ResolveCache) : Option PathBuf × ResolveCache :=
  let read := { cache with clock := cache.clock.tail }
  if resolveCacheTtl < elapsed cache.clock.head cache.seededAt then
    (none, clearResolveCache read)
  else ((read.entries.find? fun entry => entry.1.sameAs key).map (·.2), read)

def cacheStore (key value : PathBuf) (cache : ResolveCache) : ResolveCache :=
  let cache :=
    if resolveCacheMaxEntries ≤ cache.entries.length then clearResolveCache cache else cache
  { cache with
    entries := (key, value) :: cache.entries.filter fun entry => !entry.1.sameAs key }

/-- One more component: a name is kept, and `..` takes back a name. -/
def normalizeStep (components : List Component) (component : Component) : List Component :=
  match component with
  | .rootDir | .normal _ => components ++ [component]
  | .curDir => components
  | .parentDir =>
      match components.getLast? with
      | some (.normal _) => components.dropLast
      | some .rootDir | some .curDir | some .parentDir | none => components

def pushComponent (path : PathBuf) (component : Component) : PathBuf :=
  match component with
  | .rootDir => ⟨"/"⟩
  | .curDir => path.join "."
  | .parentDir => path.join ".."
  | .normal name => path.join name

def normalizeSyntactic (path : PathBuf) : PathBuf :=
  (path.components.foldl normalizeStep []).foldl pushComponent ⟨""⟩

/-- Go up to what exists. The missing names are kept with the highest in front. -/
def resolveFrom (system : PathSystem) (missing : List String) (probe : PathBuf)
    : Option PathBuf :=
  match system.canonicalize probe with
  | some canonical => some (normalizeSyntactic (missing.foldl PathBuf.join canonical))
  | none =>
      match probe.fileName with
      | none => none
      | some name =>
          match _above : probe.parent with
          | none => none
          | some parent => resolveFrom system (name :: missing) parent
termination_by probe.components.length
decreasing_by exact PathBuf.parent_shorter _above

def resolveExistingAncestor (system : PathSystem) (path : PathBuf) : Option PathBuf :=
  resolveFrom system [] (normalizeSyntactic path)

def resolveUncached (system : PathSystem) (absolute : PathBuf) : PathBuf :=
  match system.canonicalize absolute with
  | some canonical => canonical
  | none => (resolveExistingAncestor system absolute).getD (normalizeSyntactic absolute)

mutual

def resolveAncestorCached (system : PathSystem) (dir : PathBuf) (cache : ResolveCache)
    : PathBuf × ResolveCache :=
  match cacheLookup dir cache with
  | (some hit, cache) => (hit, cache)
  | (none, cache) =>
      match resolveViaParent system dir cache with
      | (some resolved, cache) => (resolved, cacheStore dir resolved cache)
      | (none, cache) =>
          let resolved := resolveUncached system dir
          (resolved, cacheStore dir resolved cache)
termination_by (dir.components.length, 1)

def resolveViaParent (system : PathSystem) (absolute : PathBuf) (cache : ResolveCache)
    : Option PathBuf × ResolveCache :=
  if .curDir ∈ absolute.components ∨ .parentDir ∈ absolute.components then (none, cache)
  else
    match _above : absolute.parent with
    | none => (none, cache)
    | some parent =>
        match absolute.fileName with
        | none => (none, cache)
        | some name =>
            match resolveAncestorCached system parent cache with
            | (resolved, cache) =>
                let candidate := resolved.join name
                if system.isSymlink candidate then (none, cache)
                else (some candidate, cache)
termination_by (absolute.components.length, 0)
decreasing_by exact Prod.Lex.left _ _ (PathBuf.parent_shorter _above)

end

def resolveAbsolutePath (system : PathSystem) (path : PathBuf) (cache : ResolveCache)
    : PathBuf × ResolveCache :=
  let absolute :=
    if path.isAbsolute then path
    else
      match system.currentDir with
      | none => path
      | some cwd => cwd.join path.text
  match resolveViaParent system absolute cache with
  | (some resolved, cache) => (resolved, cache)
  | (none, cache) => (resolveUncached system absolute, cache)

open Classical in
noncomputable def seenFrom (tree : LinkedTree) (workingDir : Option Location)
    : PathSystem where
  currentDir := workingDir.map Location.toPathBuf
  canonicalize path := (tree.canonicalize workingDir path).map Location.toPathBuf
  isSymlink path := decide (tree.IsLink workingDir path)

variable {tree : LinkedTree} {workingDir : Option Location} {path : PathBuf}

theorem isSymlink_of_isLink (link : tree.IsLink workingDir path)
    : (seenFrom tree workingDir).isSymlink path = true := by
  simp [seenFrom, link]

theorem foldl_normalizeStep (front : List Component) (names : List FileName)
    : (names.map fun name => Component.normal name.text).foldl normalizeStep front
      = front ++ names.map fun name => .normal name.text := by
  induction names generalizing front with
  | nil => simp
  | cons name names ih =>
      rw [List.map_cons, List.foldl_cons, ih, normalizeStep]
      simp

theorem foldl_join (location : Location) (names : List FileName)
    : (names.map FileName.text).foldl PathBuf.join location.toPathBuf
      = (location.descend names).toPathBuf := by
  obtain ⟨above⟩ := location
  induction names generalizing above with
  | nil => simp [Location.descend]
  | cons name names ih =>
      rw [List.map_cons, List.foldl_cons, ← Location.toPathBuf_below, ih]
      simp [Location.descend]

/-- Of a path that stands for a location without `..`, the location's spelling is left. -/
theorem normalizeSyntactic_of_components {location : Location}
    (same : path.components = location.toPathBuf.components)
    : normalizeSyntactic path = location.toPathBuf := by
  obtain ⟨names⟩ := location
  have pushed : (names.map fun name => Component.normal name.text).foldl pushComponent ⟨"/"⟩
      = (names.map FileName.text).foldl PathBuf.join ⟨"/"⟩ := by
    rw [List.foldl_map, List.foldl_map]
    rfl
  rw [normalizeSyntactic, same, Location.components_toPathBuf, List.foldl_cons, normalizeStep,
    foldl_normalizeStep]
  exact pushed.trans (foldl_join .root names)

/-- Components that are names of entries are those of the location they spell. -/
theorem normals_ofText (components : List Component)
    (names : ∀ component ∈ components, ∃ name, component = .normal name
      ∧ isFileName name = true)
    : components = (components.filterMap fun component =>
        match component with
        | .normal name => FileName.ofText name
        | .rootDir | .curDir | .parentDir => none).map fun name => .normal name.text := by
  induction components with
  | nil => rfl
  | cons component components ih =>
      obtain ⟨name, rfl, valid⟩ := names component List.mem_cons_self
      have later := ih fun other member => names other (List.mem_cons_of_mem _ member)
      have entry : FileName.ofText name = some ⟨name, valid⟩ := dif_pos valid
      rw [List.filterMap_cons]
      simp only [entry, List.map_cons]
      rw [← later]

/-- An absolute path that never goes up has the components of the location it spells. -/
theorem components_of_downward (absolute : path.isAbsolute = true)
    (downward : .parentDir ∉ path.components)
    : path.components = (Location.ofNames path).toPathBuf.components := by
  have rooted : path.components
      = .rootDir :: (PathBuf.splitSlashes path.text.toList).filterMap
        PathBuf.pieceComponent := by
    rw [PathBuf.components, if_pos absolute]
  have named := normals_ofText ((PathBuf.splitSlashes path.text.toList).filterMap
    PathBuf.pieceComponent) fun component member => by
    have within : component ∈ path.components := rooted ▸ List.mem_cons_of_mem _ member
    obtain ⟨piece, piece_mem, reads⟩ := List.mem_filterMap.mp member
    rcases LinkedTree.step_of_piece (PathBuf.whole_of_mem_splitSlashes piece_mem)
      with ⟨unnamed, -⟩ | ⟨up, -⟩ | ⟨name, normal, -⟩
    · rw [unnamed] at reads
      cases reads
    · rw [up] at reads
      obtain rfl := Option.some.inj reads
      exact absurd within downward
    · rw [normal] at reads
      obtain rfl := Option.some.inj reads
      exact ⟨name.text, rfl, name.valid⟩
  rw [Location.components_toPathBuf, Location.ofNames, rooted]
  exact congrArg _ named

/-- What is above exists, or the root does: going up from a location ends where its names
settle.
-/
theorem resolveFrom_of_settles {names missing : List FileName} {there : Location}
    (settles : tree.Settles names there)
    : resolveFrom (seenFrom tree workingDir) (missing.map FileName.text)
        (Location.mk names).toPathBuf
      = some (there.descend missing).toPathBuf := by
  induction settles generalizing missing with
  | real leads =>
      have canonical := (LinkedTree.canonicalize_toPathBuf.mpr leads
        : tree.canonicalize workingDir _ = _)
      rw [resolveFrom]
      simp only [seenFrom, canonical, Option.map_some, foldl_join]
      rw [normalizeSyntactic_of_components rfl]
  | @missing names name there absent above ih =>
      have none : tree.canonicalize workingDir (Location.mk (names ++ [name])).toPathBuf
          = none := by
        rw [Option.eq_none_iff_forall_ne_some]
        intro real canonical
        exact absent ⟨real, LinkedTree.canonicalize_toPathBuf.mp canonical⟩
      have later := @ih (name :: missing)
      rw [resolveFrom]
      simp only [seenFrom, none, Option.map_none, Location.fileName_toPathBuf] at later ⊢
      split
      next above => 
        rw [Location.parent_toPathBuf] at above
        cases above
      next parent above =>
        rw [Location.parent_toPathBuf] at above
        obtain rfl := Option.some.inj above
        simpa [Location.descend] using later

/-- Without a memory, an absolute path that never goes up comes to where its names settle. -/
theorem resolveUncached_of_settles {there : Location}
    (absolute : path.isAbsolute = true) (downward : .parentDir ∉ path.components)
    (settles : tree.Settles (Location.ofNames path).names there)
    : resolveUncached (seenFrom tree workingDir) path = there.toPathBuf := by
  unfold resolveUncached
  cases canonical : tree.canonicalize workingDir path with
  | some real =>
      obtain ⟨-, from', started, leads⟩ := LinkedTree.canonicalize_eq_some.mp canonical
      rw [LinkedTree.start, if_pos absolute] at started
      obtain rfl := Option.some.inj started
      have same := settles.unique (.real (LinkedTree.leads_ofNames absolute downward leads))
      simp only [seenFrom, canonical, Option.map_some, same]
  | none =>
      have spelled := normalizeSyntactic_of_components (components_of_downward absolute downward)
      have found : resolveFrom (seenFrom tree workingDir) [] (Location.ofNames path).toPathBuf
          = some there.toPathBuf := by
        simpa [Location.descend] using @resolveFrom_of_settles _ workingDir _ [] _ settles
      have canonical' : (seenFrom tree workingDir).canonicalize path = none :=
        congrArg (Option.map Location.toPathBuf) canonical
      rw [canonical']
      simp only [resolveExistingAncestor, spelled, found, Option.getD_some]

def Answers (tree : LinkedTree) (path answer : PathBuf) : Prop :=
  path.isAbsolute = true → .parentDir ∉ path.components →
    ∃ there, tree.Settles (Location.ofNames path).names there ∧ answer = there.toPathBuf

def Sound (tree : LinkedTree) (cache : ResolveCache) : Prop :=
  ∀ entry ∈ cache.entries, Answers tree entry.1 entry.2

theorem Answers.respell {path other answer : PathBuf} (answers : Answers tree path answer)
    (same : path.components = other.components) : Answers tree other answer := by
  intro absolute downward
  rw [PathBuf.isAbsolute_iff, ← same, ← PathBuf.isAbsolute_iff] at absolute
  rw [← same] at downward
  rw [← Location.ofNames_congr same]
  exact answers absolute downward

theorem answers_resolveUncached (path : PathBuf)
    : Answers tree path (resolveUncached (seenFrom tree workingDir) path) := by
  intro absolute downward
  obtain ⟨there, settles⟩ := tree.exists_settles (Location.ofNames path).names
  exact ⟨there, settles, resolveUncached_of_settles absolute downward settles⟩

theorem sound_clearResolveCache (cache : ResolveCache)
    : Sound tree (clearResolveCache cache) := nofun

variable {cache : ResolveCache}

theorem cacheLookup_sound (sound : Sound tree cache) (key : PathBuf)
    : Sound tree (cacheLookup key cache).2
      ∧ ∀ hit, (cacheLookup key cache).1 = some hit → Answers tree key hit := by
  unfold cacheLookup
  dsimp only
  split
  · exact ⟨sound_clearResolveCache _, nofun⟩
  · refine ⟨sound, fun hit found => ?_⟩
    obtain ⟨entry, first, rfl⟩ := Option.map_eq_some_iff.mp found
    have same := List.find?_some first
    exact (sound entry (List.mem_of_find?_eq_some first)).respell (eq_of_beq same)

theorem cacheStore_sound (sound : Sound tree cache)
    {key value : PathBuf} (answers : Answers tree key value)
    : Sound tree (cacheStore key value cache) := by
  have kept : Sound tree (if resolveCacheMaxEntries ≤ cache.entries.length
      then clearResolveCache cache else cache) := by
    split
    · exact sound_clearResolveCache cache
    · exact sound
  intro entry member
  rcases List.mem_cons.mp member with rfl | member
  · exact answers
  · exact kept entry (List.mem_of_mem_filter member)

/-- A name below the answer for the parent answers the path, unless it is that of a link. -/
theorem Answers.join {path up answer : PathBuf} {name : String}
    (above : Answers tree up answer) (same : path.components = up.components ++ [.normal name])
    (unlinked : ¬ tree.IsLink workingDir (answer.join name))
    : Answers tree path (answer.join name) := by
  intro absolute downward
  have named : .normal name ∈ path.components := same ▸ List.mem_append_right _ List.mem_cons_self
  have valid := PathBuf.isFileName_of_normal named
  have rooted : up.isAbsolute = true := by
    rw [PathBuf.isAbsolute_iff, same] at absolute
    rw [PathBuf.isAbsolute_iff]
    cases whole : up.components with
    | nil =>
        rw [whole] at absolute
        cases absolute
    | cons first rest =>
        rw [whole] at absolute
        exact absolute
  have below : .parentDir ∉ up.components := fun member =>
    downward (same ▸ List.mem_append_left _ member)
  obtain ⟨there, settles, rfl⟩ := above rooted below
  have names : (Location.ofNames path).names = (Location.ofNames up).names ++ [⟨name, valid⟩] := by
    have entry : FileName.ofText name = some ⟨name, valid⟩ := dif_pos valid
    simp [Location.ofNames, same, entry]
  rw [← Location.toPathBuf_below there.names ⟨name, valid⟩] at unlinked ⊢
  rw [names]
  exact ⟨_, settles.unlinked_child unlinked, rfl⟩

mutual

theorem resolveAncestorCached_sound (dir : PathBuf) (cache : ResolveCache)
    (sound : Sound tree cache)
    : Sound tree (resolveAncestorCached (seenFrom tree workingDir) dir cache).2
      ∧ Answers tree dir (resolveAncestorCached (seenFrom tree workingDir) dir cache).1 := by
  obtain ⟨looked, hits⟩ := cacheLookup_sound sound dir
  rw [resolveAncestorCached]
  rcases found : cacheLookup dir cache with ⟨_ | hit, read⟩
  · rw [found] at looked
    obtain ⟨walked, candidates⟩ := resolveViaParent_sound dir read looked
    dsimp only
    rcases resolved : resolveViaParent (seenFrom tree workingDir) dir read
      with ⟨_ | candidate, after⟩
    · rw [resolved] at walked
      exact ⟨cacheStore_sound walked (answers_resolveUncached dir), answers_resolveUncached dir⟩
    · rw [resolved] at walked candidates
      have answers := candidates candidate rfl
      exact ⟨cacheStore_sound walked answers, answers⟩
  · rw [found] at looked hits
    exact ⟨looked, hits hit rfl⟩
termination_by (dir.components.length, 1)

theorem resolveViaParent_sound (absolute : PathBuf) (cache : ResolveCache)
    (sound : Sound tree cache)
    : Sound tree (resolveViaParent (seenFrom tree workingDir) absolute cache).2
      ∧ ∀ candidate,
        (resolveViaParent (seenFrom tree workingDir) absolute cache).1 = some candidate →
          Answers tree absolute candidate := by
  rw [resolveViaParent]
  split
  · exact ⟨sound, nofun⟩
  split
  · exact ⟨sound, nofun⟩
  next parent above =>
    split
    · exact ⟨sound, nofun⟩
    next name last =>
      have _shorter := PathBuf.parent_shorter above
      obtain ⟨walked, answers⟩ := resolveAncestorCached_sound parent cache sound
      rcases resolved : resolveAncestorCached (seenFrom tree workingDir) parent cache
        with ⟨upper, after⟩
      rw [resolved] at walked answers
      dsimp only
      split
      next => exact ⟨walked, nofun⟩
      next unlinked =>
        refine ⟨walked, ?_⟩
        rintro _ ⟨⟩
        exact answers.join (PathBuf.components_of_fileName above last)
          fun link => unlinked (isSymlink_of_isLink link)
termination_by (absolute.components.length, 0)

end

/-- The parent is only asked for paths that never go up. -/
theorem downward_of_resolveViaParent {system : PathSystem} {path candidate : PathBuf}
    (resolved : (resolveViaParent system path cache).1 = some candidate)
    : .parentDir ∉ path.components := by
  intro up
  rw [resolveViaParent, if_pos (Or.inr up)] at resolved
  cases resolved

theorem resolveAbsolutePath_sound (sound : Sound tree cache) (path : PathBuf)
    : Sound tree (resolveAbsolutePath (seenFrom tree workingDir) path cache).2 := by
  unfold resolveAbsolutePath
  dsimp only
  generalize (if path.isAbsolute then path else _) = absolute
  obtain ⟨walked, -⟩ := @resolveViaParent_sound tree workingDir absolute cache sound
  split
  next same =>
    rw [same] at walked
    exact walked
  next same =>
    rw [same] at walked
    exact walked

inductive ResolveEvent where
  | resolve (workingDir : Option Location) (path : PathBuf)
  | clear

/-- An event of a process, whose working directory may have changed. Entries that are too old
go at the next lookup.
-/
noncomputable def afterEvent (tree : LinkedTree) (cache : ResolveCache)
    : ResolveEvent → ResolveCache
  | .resolve workingDir path =>
      (resolveAbsolutePath (seenFrom tree workingDir) path cache).2
  | .clear => clearResolveCache cache

def resolveCache (clock : Stream' Instant) : ResolveCache :=
  ⟨[], clock.head, clock.tail⟩

theorem afterEvents_sound (clock : Stream' Instant) (events : List ResolveEvent)
    : Sound tree (events.foldl (afterEvent tree) (resolveCache clock)) := by
  refine List.foldlRecOn events _ nofun fun cache sound event _ => ?_
  cases event with
  | resolve workingDir path => exact resolveAbsolutePath_sound sound path
  | clear => exact sound_clearResolveCache cache

/-- After every history, an absolute path is resolved as it is without the memory. -/
theorem resolveAbsolutePath_eq_resolveUncached (tree : LinkedTree) (clock : Stream' Instant)
    (events : List ResolveEvent) (workingDir : Option Location) (path : PathBuf)
    (absolute : path.isAbsolute = true)
    : (resolveAbsolutePath (seenFrom tree workingDir) path
        (events.foldl (afterEvent tree) (resolveCache clock))).1
      = resolveUncached (seenFrom tree workingDir) path := by
  have sound := @afterEvents_sound tree clock events
  generalize events.foldl (afterEvent tree) (resolveCache clock) = cache at sound ⊢
  obtain ⟨-, candidates⟩ := @resolveViaParent_sound tree workingDir path cache sound
  unfold resolveAbsolutePath
  rw [if_pos absolute]
  dsimp only
  split
  next resolved after same =>
    rw [same] at candidates
    have downward := downward_of_resolveViaParent (congrArg Prod.fst same)
    obtain ⟨there, settles, rfl⟩ := candidates resolved rfl absolute downward
    exact (resolveUncached_of_settles absolute downward settles).symm
  next => rfl

/-- A directory, a link to it, a link to nothing and a link to itself. -/
def aliasedTree : LinkedTree where
  node location :=
    if location.names.map FileName.text = [] then some (.directory true)
    else if location.names.map FileName.text = ["real"] then some (.directory true)
    else if location.names.map FileName.text = ["alias"] then some (.symlink ⟨"real/"⟩)
    else if location.names.map FileName.text = ["dangling"] then some (.symlink ⟨"/nope"⟩)
    else if location.names.map FileName.text = ["loop"] then some (.symlink ⟨"/loop/deeper"⟩)
    else none
  root := ⟨true, rfl⟩

theorem resolveAbsolutePath_eq_resolveUncached_aliased
    : (resolveAbsolutePath (seenFrom aliasedTree none) ⟨"/alias/./loop/missing"⟩
        ([.resolve none ⟨"/alias/dangling/child"⟩, .clear,
          .resolve (some .root) ⟨"loop/child"⟩].foldl (afterEvent aliasedTree)
            (resolveCache fun n => 20000000000 * n))).1
      = resolveUncached (seenFrom aliasedTree none) ⟨"/alias/./loop/missing"⟩ :=
  resolveAbsolutePath_eq_resolveUncached aliasedTree _ _ none _ (by decide)

theorem resolveAbsolutePath_answers (sound : Sound tree cache) {path : PathBuf}
    (absolute : path.isAbsolute = true)
    : Answers tree path (resolveAbsolutePath (seenFrom tree workingDir) path cache).1 := by
  obtain ⟨-, candidates⟩ := @resolveViaParent_sound tree workingDir path cache sound
  unfold resolveAbsolutePath
  rw [if_pos absolute]
  dsimp only
  split
  next resolved after same =>
    rw [same] at candidates
    exact candidates resolved rfl
  next => exact answers_resolveUncached path

/-- What a path was resolved to is resolved to itself from then on, after every history. -/
theorem resolution_stands (tree : LinkedTree) (clock laterClock : Stream' Instant)
    (events laterEvents : List ResolveEvent) (workingDir laterDir : Option Location)
    (path : PathBuf) {answer : PathBuf} (absolute : path.isAbsolute = true)
    (downward : .parentDir ∉ path.components)
    (resolved : (resolveAbsolutePath (seenFrom tree workingDir) path
      (events.foldl (afterEvent tree) (resolveCache clock))).1 = answer)
    : (resolveAbsolutePath (seenFrom tree laterDir) answer
        (laterEvents.foldl (afterEvent tree) (resolveCache laterClock))).1 = answer := by
  obtain ⟨there, settles, rfl⟩ :=
    resolved ▸ resolveAbsolutePath_answers (afterEvents_sound clock events) absolute absolute
      downward
  have stays : .parentDir ∉ there.toPathBuf.components := by
    simp [Location.components_toPathBuf]
  have here := LinkedTree.isAbsolute_toPathBuf there
  obtain ⟨other, again, same⟩ := @resolveAbsolutePath_answers tree laterDir _
    (afterEvents_sound laterClock laterEvents) _ here here stays
  rw [Location.ofNames_toPathBuf] at again
  rw [same, again.unique settles.again.1]

theorem resolution_stands_aliased
    : let world := seenFrom aliasedTree none
      let once := (resolveAbsolutePath world ⟨"/alias/missing"⟩ (resolveCache fun n => n)).1
      (resolveAbsolutePath world once ([.resolve none ⟨"/loop"⟩].foldl (afterEvent aliasedTree)
        (resolveCache fun n => 3 * n))).1 = once :=
  resolution_stands aliasedTree _ _ [] _ none none _ (by decide) (by decide) rfl

end PathResolution

end StorageBallast
