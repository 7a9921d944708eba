import StorageBallast.Daemon.ScanCursor
import StorageBallast.Foundations.Runs

/-! Which work the scan cursor hides: it records directories one by one, but the walker skips
an excluded directory together with everything below it.
-/

namespace StorageBallast

open Runs

namespace PassTracking

theorem track_candidates (self : PassTracking) (entry : StreamedEntry)
    : (self.track entry).candidates = self.candidates
      ∨ (self.track entry).candidates = entry.path :: self.candidates := by
  have visited : (self.visit entry).candidates = self.candidates := by
    unfold visit
    split <;> rfl
  unfold track
  split
  · exact Or.inl visited
  · split
    · exact Or.inl visited
    · split
      · exact Or.inl visited
      · split
        · exact Or.inl visited
        · exact Or.inr rfl

def Streamed (entries : List StreamedEntry) (tracking : PassTracking) : Prop :=
  ∀ candidate ∈ tracking.candidates, ∃ entry ∈ entries, entry.path = candidate

theorem run_streamed (knownGitDirs : List Location) (entries : List StreamedEntry)
    : Streamed entries (run knownGitDirs entries) := by
  have started : Streamed [] (start knownGitDirs) := fun _ none => nomatch none
  have kept : ∀ past entry, Streamed past (final track (start knownGitDirs) past) →
      Streamed (past ++ [entry]) ((final track (start knownGitDirs) past).track entry) := by
    intro past entry known candidate member
    rcases track_candidates (final track (start knownGitDirs) past) entry with same | added
    · rw [same] at member
      obtain ⟨earlier, streamed, path⟩ := known candidate member
      exact ⟨earlier, List.mem_append_left _ streamed, path⟩
    · rw [added] at member
      rcases List.mem_cons.mp member with rfl | member
      · exact ⟨entry, List.mem_append_right _ (List.mem_singleton_self _), rfl⟩
      · obtain ⟨earlier, streamed, path⟩ := known candidate member
        exact ⟨earlier, List.mem_append_left _ streamed, path⟩
  exact history_invariant started kept entries

end PassTracking

namespace ScanCursor

def keys (self : ScanCursor) : List Location := self.barrenDirs.map (·.1)

/-- Inserting directories adds those without an entry, by induction on them. -/
theorem mem_insertAll_iff {now : Instant} {dirs : List Location}
    {barren : List (Location × Instant)} {entry : Location × Instant}
    : entry ∈ dirs.foldl (orInsert now) barren
      ↔ entry ∈ barren
        ∨ (entry.2 = now ∧ entry.1 ∈ dirs ∧ entry.1 ∉ barren.map (·.1)) := by
  induction dirs generalizing barren with
  | nil => simp
  | cons dir rest ih =>
      rw [List.foldl_cons, ih]
      unfold orInsert
      by_cases known : dir ∈ barren.map (·.1)
      · have present : barren.any (·.1 == dir) = true := by
          simpa [List.any_eq_true] using known
        rw [if_pos present]
        refine or_congr_right (and_congr_right fun _ => ⟨?_, ?_⟩)
        · rintro ⟨member, unknown⟩
          exact ⟨List.mem_cons_of_mem _ member, unknown⟩
        · rintro ⟨member, unknown⟩
          rcases List.mem_cons.mp member with rfl | member
          · exact absurd known unknown
          · exact ⟨member, unknown⟩
      · have absent : ¬ barren.any (·.1 == dir) = true := by
          simpa [List.any_eq_true] using known
        rw [if_neg absent]
        obtain ⟨path, time⟩ := entry
        constructor
        · rintro (member | ⟨rfl, member, unknown⟩)
          · rcases List.mem_cons.mp member with same | member
            · obtain ⟨rfl, rfl⟩ := Prod.mk.inj same
              exact Or.inr ⟨rfl, List.mem_cons_self .., known⟩
            · exact Or.inl member
          · rw [List.map_cons, List.mem_cons, not_or] at unknown
            exact Or.inr ⟨rfl, List.mem_cons_of_mem _ member, unknown.2⟩
        · rintro (member | ⟨rfl, member, unknown⟩)
          · exact Or.inl (List.mem_cons_of_mem _ member)
          · by_cases same : path = dir
            · subst same
              exact Or.inl (List.mem_cons_self ..)
            · have later := (List.mem_cons.mp member).resolve_left same
              refine Or.inr ⟨rfl, later, ?_⟩
              rw [List.map_cons, List.mem_cons, not_or]
              exact ⟨same, unknown⟩

theorem mem_capSize {self : ScanCursor} {order : DrainOrder}
    {barren : List (Location × Instant)} {entry : Location × Instant}
    (member : entry ∈ self.capSize order barren)
    : entry ∈ barren := by
  unfold capSize at member
  split at member
  · have sorted := List.mem_of_mem_take member
    exact (order.perm barren).mem_iff.mp (List.mem_mergeSort.mp sorted)
  · exact member

/-- An entry after an update is an unexpired one from before, or new at a visited directory. -/
inductive Cached (self : ScanCursor) (now : Instant) (visitedDirs : List Location)
    (entry : Location × Instant) : Prop
  | still (member : entry ∈ self.barrenDirs) (fresh : self.isFresh now entry = true)
  | newly (visited : entry.1 ∈ visitedDirs) (unknown : entry.1 ∉ self.keys)
      (recorded : entry.2 = now)

section Update

variable {self : ScanCursor} {now : Instant} {order : DrainOrder}
  {visitedDirs dirsWithCandidates : List Location} {entry : Location × Instant}

def beforeCap (self : ScanCursor) (now : Instant) (visitedDirs dirsWithCandidates : List Location)
    : List (Location × Instant) :=
  (((visitedDirs.filter fun dir => !dirsWithCandidates.contains dir).foldl
      (orInsert now) self.barrenDirs).filter
        fun entry => !dirsWithCandidates.contains entry.1).filter (self.isFresh now)

theorem update_timedOut (self : ScanCursor) (now : Instant) (order : DrainOrder)
    (visitedDirs dirsWithCandidates : List Location)
    : (self.update now order visitedDirs dirsWithCandidates true).barrenDirs
      = self.capSize order (self.beforeCap now visitedDirs dirsWithCandidates) := rfl

theorem mem_beforeCap_iff (positive : 0 < self.ttl)
    : entry ∈ self.beforeCap now visitedDirs dirsWithCandidates
      ↔ entry.1 ∉ dirsWithCandidates ∧ self.Cached now visitedDirs entry := by
  unfold beforeCap
  rw [List.mem_filter, List.mem_filter, mem_insertAll_iff, List.mem_filter]
  simp only [Bool.not_eq_true', List.contains_eq_mem, decide_eq_false_iff_not]
  constructor
  · rintro ⟨⟨member | ⟨recorded, ⟨visited, -⟩, unknown⟩, barren⟩, fresh⟩
    · exact ⟨barren, .still member fresh⟩
    · exact ⟨barren, .newly visited unknown recorded⟩
  · rintro ⟨barren, ⟨member, fresh⟩ | ⟨visited, unknown, recorded⟩⟩
    · exact ⟨⟨Or.inl member, barren⟩, fresh⟩
    · refine ⟨⟨Or.inr ⟨recorded, ⟨visited, barren⟩, unknown⟩, barren⟩, ?_⟩
      unfold isFresh
      rw [recorded]
      simpa [elapsed] using positive

theorem length_insertAll_le (now : Instant) (dirs : List Location)
    (barren : List (Location × Instant))
    : (dirs.foldl (orInsert now) barren).length ≤ barren.length + dirs.length := by
  induction dirs generalizing barren with
  | nil => simp
  | cons dir rest ih =>
      have tail := ih (orInsert now barren dir)
      have one : (orInsert now barren dir).length ≤ barren.length + 1 := by
        unfold orInsert
        split <;> simp
      rw [List.foldl_cons, List.length_cons]
      omega

theorem capSize_of_room (order : DrainOrder)
    (room : self.barrenDirs.length + visitedDirs.length ≤ self.maxEntries)
    : self.capSize order (self.beforeCap now visitedDirs dirsWithCandidates)
      = self.beforeCap now visitedDirs dirsWithCandidates := by
  refine if_neg (Nat.not_lt.mpr ?_)
  have added := length_insertAll_le now
    (visitedDirs.filter fun dir => !dirsWithCandidates.contains dir) self.barrenDirs
  have visited := List.length_filter_le (fun dir => !dirsWithCandidates.contains dir) visitedDirs
  have filtered := ((List.length_filter_le (self.isFresh now) _).trans
    (List.length_filter_le (fun entry => !dirsWithCandidates.contains entry.1)
      ((visitedDirs.filter fun dir => !dirsWithCandidates.contains dir).foldl (orInsert now)
        self.barrenDirs)))
  exact filtered.trans (by omega)

end Update

end ScanCursor

/-- One pass of the scanner: the clock when it takes the exclusions and when it updates the
cursor, and what it streams in between.
-/
structure ScanPass where
  started : Instant
  knownGitDirs : List Location
  entries : List StreamedEntry
  timedOut : Bool
  finished : Instant
  order : DrainOrder

namespace ScanPass

def tracking (self : ScanPass) : PassTracking := .run self.knownGitDirs self.entries

end ScanPass

/-- The cursor, and every directory whose entry was streamed so far. -/
structure CursorRun where
  cursor : ScanCursor
  walked : List Location

namespace CursorRun

def start : CursorRun := ⟨.new, []⟩

def step (self : CursorRun) (pass : ScanPass) : CursorRun where
  cursor := self.cursor.update pass.finished pass.order pass.tracking.visitedDirs
    pass.tracking.dirsWithCandidates pass.timedOut
  walked := pass.tracking.visitedDirs ++ self.walked

variable (excludedPaths : List Location) (forest : DirForest)

/-- The pass streams nothing but what the walker comes to with the exclusions of the cursor. -/
structure Streams (run : CursorRun) (pass : ScanPass) : Prop where
  ordered : pass.started ≤ pass.finished
  reached : ∀ entry ∈ pass.entries,
    entry.path ∈ forest.walk (excludedPaths ++ run.cursor.barrenExclusions pass.started)

/-- After a pass that timed out the exclusions hide nothing that is known or not yet walked, at
any time from then on.
-/
structure HidesNothing (run : CursorRun) (pass : ScanPass) (later : Instant) : Prop where
  noCandidateBelow : ∀ barren ∈ (run.step pass).cursor.barrenExclusions later,
    ∀ candidate ∈ pass.tracking.candidates, ¬ candidate.StrictlyBelow barren
  subtreeWalked : ∀ barren ∈ (run.step pass).cursor.barrenExclusions later,
    ∀ dir ∈ forest.walk excludedPaths, dir.startsWith barren = true →
      dir ∈ (run.step pass).walked
  nextPassVisits : ∀ dir ∈ forest.walk excludedPaths,
    dir ∈ pass.tracking.candidates ∨ dir ∉ (run.step pass).walked →
      dir ∈ forest.walk (excludedPaths ++ (run.step pass).cursor.barrenExclusions later)

def Sound (self : CursorRun) (pass : ScanPass) : Prop :=
  pass.timedOut = true → ∀ later, pass.finished ≤ later →
    self.HidesNothing excludedPaths forest pass later

/-- A directory that the pass caches as barren has no candidate at or below it and nothing that
is not walked; one that stays barren has no candidate of the pass at or below it.
-/
structure Clean (run : CursorRun) (pass : ScanPass) : Prop where
  newlyBarren : ∀ dir ∈ pass.tracking.visitedDirs, dir ∉ pass.tracking.dirsWithCandidates →
    dir ∉ run.cursor.keys →
      (∀ candidate ∈ pass.tracking.candidates, candidate.startsWith dir = false)
      ∧ ∀ below ∈ forest.walk excludedPaths, below.startsWith dir = true →
          below ∈ pass.tracking.visitedDirs ++ run.walked
  stillBarren : ∀ dir ∈ run.cursor.barrenExclusions pass.finished,
    dir ∉ pass.tracking.dirsWithCandidates →
      ∀ candidate ∈ pass.tracking.candidates, candidate.startsWith dir = false

def CleanIfCut (self : CursorRun) (pass : ScanPass) : Prop :=
  pass.timedOut = true → self.Clean excludedPaths forest pass

def Roomy (self : CursorRun) (pass : ScanPass) : Prop :=
  self.cursor.barrenDirs.length + pass.tracking.visitedDirs.length ≤ self.cursor.maxEntries

/-- What every cursor of a run of clean passes keeps to. -/
structure Settled (run : CursorRun) : Prop where
  limits : run.cursor.ttl = ScanCursor.new.ttl
  walked : ∀ dir ∈ run.cursor.keys, ∀ below ∈ forest.walk excludedPaths,
    below.startsWith dir = true → below ∈ run.walked

variable {excludedPaths forest} {dir : Location}

theorem barrenExclusions_mem_keys {cursor : ScanCursor} {now : Instant}
    (member : dir ∈ cursor.barrenExclusions now)
    : dir ∈ cursor.keys := by
  obtain ⟨entry, fresh, rfl⟩ := List.mem_map.mp member
  exact List.mem_map_of_mem (List.mem_filter.mp fresh).1

variable {self : CursorRun}

theorem Settled.positive (settled : self.Settled excludedPaths forest)
    : 0 < self.cursor.ttl := by
  rw [settled.limits]
  decide

variable {pass : ScanPass}

/-- What the cursor has after a pass that timed out is still barren or newly so. -/
theorem step_keys (settled : self.Settled excludedPaths forest)
    (cut : pass.timedOut = true) (key : dir ∈ (self.step pass).cursor.keys)
    : dir ∉ pass.tracking.dirsWithCandidates
      ∧ (dir ∈ self.cursor.barrenExclusions pass.finished
        ∨ (dir ∈ pass.tracking.visitedDirs ∧ dir ∉ self.cursor.keys)) := by
  obtain ⟨entry, member, rfl⟩ := List.mem_map.mp key
  change entry ∈ (self.cursor.update pass.finished pass.order pass.tracking.visitedDirs
    pass.tracking.dirsWithCandidates pass.timedOut).barrenDirs at member
  rw [cut, ScanCursor.update_timedOut] at member
  obtain ⟨barren, cached⟩ :=
    (ScanCursor.mem_beforeCap_iff settled.positive).mp (ScanCursor.mem_capSize member)
  refine ⟨barren, ?_⟩
  cases cached with
  | still member fresh =>
      exact Or.inl (List.mem_map_of_mem (List.mem_filter.mpr ⟨member, fresh⟩))
  | newly visited unknown => exact Or.inr ⟨visited, unknown⟩

/-- A clean pass leaves only directories below which everything is walked. -/
theorem step_walked (settled : self.Settled excludedPaths forest)
    (cut : pass.timedOut = true) (clean : self.Clean excludedPaths forest pass)
    (key : dir ∈ (self.step pass).cursor.keys)
    {below : Location} (visible : below ∈ forest.walk excludedPaths)
    (lower : below.startsWith dir = true)
    : below ∈ (self.step pass).walked := by
  obtain ⟨barren, still | ⟨visited, unknown⟩⟩ := step_keys settled cut key
  · have walked := settled.walked dir (barrenExclusions_mem_keys still) below visible lower
    exact List.mem_append_right _ walked
  · exact (clean.newlyBarren dir visited barren unknown).2 below visible lower

/-- A clean pass leaves no candidate at or below what it leaves in the cursor. -/
theorem step_noCandidate (settled : self.Settled excludedPaths forest)
    (cut : pass.timedOut = true) (clean : self.Clean excludedPaths forest pass)
    (key : dir ∈ (self.step pass).cursor.keys)
    {candidate : Location} (found : candidate ∈ pass.tracking.candidates)
    : candidate.startsWith dir = false := by
  obtain ⟨barren, still | ⟨visited, unknown⟩⟩ := step_keys settled cut key
  · exact clean.stillBarren dir still barren candidate found
  · exact (clean.newlyBarren dir visited barren unknown).1 candidate found

theorem step_settled (settled : self.Settled excludedPaths forest)
    (clean : self.CleanIfCut excludedPaths forest pass)
    : (self.step pass).Settled excludedPaths forest := by
  have limits : (self.step pass).cursor.ttl = self.cursor.ttl := by
    unfold step ScanCursor.update
    cases pass.timedOut <;> rfl
  refine ⟨limits.trans settled.limits, ?_⟩
  intro dir key below visible lower
  cases cut : pass.timedOut with
  | false =>
      unfold step ScanCursor.update at key
      rw [cut] at key
      cases key
  | true => exact step_walked settled cut (clean cut) key visible lower

theorem mem_walk_append {added : List Location} (visible : dir ∈ forest.walk excludedPaths)
    (free : ∀ cover ∈ added, dir.startsWith cover = false)
    : dir ∈ forest.walk (excludedPaths ++ added) := by
  obtain ⟨root, member, below, unhidden⟩ := DirForest.mem_walk_iff.mp visible
  refine DirForest.mem_walk_iff.mpr ⟨root, member, below, ?_⟩
  intro cover covers lower
  rcases List.mem_append.mp covers with configured | barren
  · exact unhidden cover configured lower
  · exact free cover barren

theorem sound_of_clean (settled : self.Settled excludedPaths forest)
    (clean : self.CleanIfCut excludedPaths forest pass)
    : self.Sound excludedPaths forest pass := by
  intro cut later _
  have clean := clean cut
  refine ⟨?_, ?_, ?_⟩
  · intro barren excluded candidate found below
    have free := step_noCandidate settled cut clean (barrenExclusions_mem_keys excluded) found
    exact absurd below.1 (Bool.eq_false_iff.mp free)
  · intro barren excluded dir visible lower
    exact step_walked settled cut clean (barrenExclusions_mem_keys excluded) visible lower
  · intro dir visible wanted
    apply mem_walk_append visible
    intro cover excluded
    have key := barrenExclusions_mem_keys excluded
    rcases wanted with found | unwalked
    · exact step_noCandidate settled cut clean key found
    · rw [Bool.eq_false_iff]
      intro lower
      exact unwalked (step_walked settled cut clean key visible lower)

/-- With room for everything, what is still or newly barren is excluded. -/
theorem mem_step_exclusions {run : CursorRun} (settled : run.Settled excludedPaths forest)
    (cut : pass.timedOut = true) (room : run.Roomy pass)
    (barren : dir ∉ pass.tracking.dirsWithCandidates)
    (cached : dir ∈ run.cursor.barrenExclusions pass.finished
      ∨ (dir ∈ pass.tracking.visitedDirs ∧ dir ∉ run.cursor.keys))
    : dir ∈ (run.step pass).cursor.barrenExclusions pass.finished := by
  have entries : (run.step pass).cursor.barrenDirs
      = run.cursor.beforeCap pass.finished pass.tracking.visitedDirs
          pass.tracking.dirsWithCandidates := by
    unfold step
    rw [cut]
    exact ScanCursor.capSize_of_room pass.order room
  have found : ∃ entry, entry.1 = dir
      ∧ run.cursor.Cached pass.finished pass.tracking.visitedDirs entry := by
    rcases cached with still | ⟨visited, unknown⟩
    · obtain ⟨entry, member, rfl⟩ := List.mem_map.mp still
      obtain ⟨member, fresh⟩ := List.mem_filter.mp member
      exact ⟨entry, rfl, .still member fresh⟩
    · exact ⟨(dir, pass.finished), rfl, .newly visited unknown rfl⟩
  obtain ⟨entry, rfl, recorded⟩ := found
  have member := (ScanCursor.mem_beforeCap_iff settled.positive).mpr ⟨barren, recorded⟩
  have fresh := (List.mem_filter.mp member).2
  refine List.mem_map_of_mem (List.mem_filter.mpr ⟨entries ▸ member, ?_⟩)
  have same : (run.step pass).cursor.ttl = run.cursor.ttl := by
    unfold step ScanCursor.update
    cases pass.timedOut <;> rfl
  unfold ScanCursor.isFresh at fresh ⊢
  rw [same]
  exact fresh

/-- In a sound pass no candidate lies at or below an exclusion that follows it. -/
theorem HidesNothing.noCandidate {run : CursorRun} (streams : run.Streams excludedPaths forest pass)
    (hides : run.HidesNothing excludedPaths forest pass pass.finished)
    (excluded : dir ∈ (run.step pass).cursor.barrenExclusions pass.finished)
    {candidate : Location} (found : candidate ∈ pass.tracking.candidates)
    : candidate.startsWith dir = false := by
  rw [Bool.eq_false_iff]
  intro lower
  by_cases same : candidate = dir
  · subst same
    obtain ⟨entry, streamed, path⟩ :=
      PassTracking.run_streamed pass.knownGitDirs pass.entries candidate found
    obtain ⟨root, member, below, unhidden⟩ :=
      DirForest.mem_walk_iff.mp (path ▸ streams.reached entry streamed)
    have visible : candidate ∈ forest.walk excludedPaths := by
      refine DirForest.mem_walk_iff.mpr ⟨root, member, below, ?_⟩
      intro cover covers
      exact unhidden cover (List.mem_append_left _ covers)
    obtain ⟨root, _, below, unhidden⟩ :=
      DirForest.mem_walk_iff.mp (hides.nextPassVisits candidate visible (Or.inl found))
    have hidden := unhidden candidate (List.mem_append_right _ excluded)
      (root.2.walkBelow_startsWith below)
    exact absurd candidate.startsWith_self (Bool.eq_false_iff.mp hidden)
  · exact hides.noCandidateBelow dir excluded candidate found ⟨lower, same⟩

theorem clean_of_sound {run : CursorRun}
    (settled : run.Settled excludedPaths forest) (streams : run.Streams excludedPaths forest pass)
    (room : run.Roomy pass) (sound : run.Sound excludedPaths forest pass)
    : run.CleanIfCut excludedPaths forest pass := by
  intro cut
  have hides := sound cut pass.finished (Nat.le_refl _)
  constructor
  · intro dir visited barren unknown
    have excluded := mem_step_exclusions settled cut room barren (Or.inr ⟨visited, unknown⟩)
    refine ⟨fun candidate found => hides.noCandidate streams excluded found, ?_⟩
    intro below visible lower
    exact hides.subtreeWalked dir excluded below visible lower
  · intro dir still barren candidate found
    have excluded := mem_step_exclusions settled cut room barren (Or.inl still)
    exact hides.noCandidate streams excluded found

theorem start_settled : start.Settled excludedPaths forest :=
  ⟨rfl, fun _ none => nomatch none⟩

/-- In a run whose cut passes are all clean, the cursor hides nothing after any pass; and as
long as its limit is out of reach, only such runs are sound. By induction on the passes.
-/
theorem sound_iff_clean (excludedPaths : List Location) (forest : DirForest)
    (passes : List ScanPass)
    (streams : Guarded step (Streams excludedPaths forest) start passes)
    : (Guarded step (CleanIfCut excludedPaths forest) start passes →
        ∀ taken ∈ steps step start passes, taken.1.Sound excludedPaths forest taken.2)
      ∧ (Guarded step Roomy start passes →
          (∀ taken ∈ steps step start passes, taken.1.Sound excludedPaths forest taken.2) →
          Guarded step (CleanIfCut excludedPaths forest) start passes) := by
  have kept : ∀ run pass, Settled excludedPaths forest run →
      CleanIfCut excludedPaths forest run pass → Settled excludedPaths forest (run.step pass) :=
    fun _ _ settled clean => step_settled settled clean
  constructor
  · intro clean taken member
    have settled := invariant_of_guarded kept start_settled clean _ (step_mem_states member).1
    exact sound_of_clean settled (guarded_iff_steps.mp clean taken member)
  · intro room sound
    have sharp : ∀ run pass, Settled excludedPaths forest run →
        (Streams excludedPaths forest run pass ∧ Roomy run pass
          ∧ Sound excludedPaths forest run pass) →
        CleanIfCut excludedPaths forest run pass :=
      fun _ _ settled known => clean_of_sound settled known.1 known.2.1 known.2.2
    refine guarded_of_each sharp kept start_settled (guarded_iff_steps.mpr ?_)
    intro taken member
    exact ⟨guarded_iff_steps.mp streams taken member, guarded_iff_steps.mp room taken member,
      sound taken member⟩

def letters (text : String) : Location :=
  ⟨text.toList.filterMap fun letter => FileName.ofText (String.singleton letter)⟩

def leafTree : DirTree := .node []

/-- The trees of `/r/a` and `/r/a/b/c`. -/
def flatForest : DirForest := [(letters "r", .node [(⟨"a", by decide⟩, leafTree)])]

def nestedForest : DirForest :=
  [(letters "r", .node [(⟨"a", by decide⟩, .node [(⟨"b", by decide⟩,
    .node [(⟨"c", by decide⟩, leafTree)])])])]

def plainEntry (path : Location) : StreamedEntry := ⟨path, true, none, .unknown, false⟩

def plainPass : ScanPass := ⟨0, [], [plainEntry (letters "ra")], true, 1, .asIs⟩

def candidatePass : ScanPass :=
  ⟨0, [], [plainEntry (letters "ra"), plainEntry (letters "rab"),
    ⟨letters "rabc", true, none, .nodeModules, false⟩], true, 1, .asIs⟩

theorem flat_streams : Guarded step (Streams [] flatForest) start [plainPass] := by
  refine ⟨⟨by decide, ?_⟩, trivial⟩
  decide +kernel

theorem flat_sound_iff
    : (Guarded step (CleanIfCut [] flatForest) start [plainPass] →
        ∀ taken ∈ steps step start [plainPass], taken.1.Sound [] flatForest taken.2)
      ∧ (Guarded step Roomy start [plainPass] →
          (∀ taken ∈ steps step start [plainPass], taken.1.Sound [] flatForest taken.2) →
          Guarded step (CleanIfCut [] flatForest) start [plainPass]) :=
  sound_iff_clean [] flatForest [plainPass] flat_streams

/-- The first directory is not the parent of the candidate, so the next pass skips it together
with the candidate.
-/
theorem candidate_hidden
    : Guarded step (Streams [] nestedForest) start [candidatePass]
      ∧ ¬ ∀ taken ∈ steps step start [candidatePass], taken.1.Sound [] nestedForest taken.2 := by
  constructor
  · refine ⟨⟨by decide, ?_⟩, trivial⟩
    decide +kernel
  · intro sound
    have hides := sound _ (List.mem_singleton_self _) rfl 1 (Nat.le_refl _)
    refine hides.noCandidateBelow (letters "ra") (by decide +kernel) (letters "rabc")
      (by decide +kernel) ⟨by decide +kernel, by decide +kernel⟩

end CursorRun

end StorageBallast
