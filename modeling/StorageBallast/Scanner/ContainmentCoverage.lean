import StorageBallast.Scanner.ContainmentScan

/-! What a containment scan that found nothing has looked at. The walk reaches the entries
it can read and the listings that fail on it; a scan under every budget is sound exactly
when each sacred entry is accompanied by something the walk reaches and reports.
-/

namespace StorageBallast

structure ScanEntry where
  names : List FileName
  isDir : Bool

/-- What the walk comes across: an entry it examines, or a listing that fails on it. -/
inductive Reached where
  | entry (entry : ScanEntry)
  | fault (message : String)

def entriesBelow : Nat → List FileName → ScanTree → List ScanEntry
  | levels + 1, dir, .directory _ children =>
      children.flatMap fun child =>
        ⟨dir ++ [child.1], child.2.2.isDir⟩
          :: entriesBelow levels (dir ++ [child.1]) child.2.2
  | _, _, _ => []

def reachedBelow : Nat → List FileName → ScanTree → List Reached
  | levels + 1, dir, .directory none children =>
      (children.filter (·.2.1.known)).flatMap fun child =>
        .entry ⟨dir ++ [child.1], child.2.2.isDir⟩
          :: reachedBelow levels (dir ++ [child.1]) child.2.2
  | _ + 1, _, .directory (some (.other message)) _ => [.fault message]
  | _, _, _ => []

def ScanRoot.entries (root : ScanRoot) (maxDepth : Nat) : List ScanEntry :=
  ⟨[], root.tree.isDir⟩ :: entriesBelow maxDepth [] root.tree

def ScanRoot.reached (root : ScanRoot) (maxDepth : Nat) : List Reached :=
  match root.fault with
  | none => .entry ⟨[], root.tree.isDir⟩ :: reachedBelow maxDepth [] root.tree
  | some (.other message) => [.fault message]
  | some .notFound | some .permissionDenied => []

namespace ScanSetup

variable {setup : ScanSetup}

def Matches (setup : ScanSetup) (entry : ScanEntry) : Prop :=
  ∃ rule ∈ setup.rules,
    rule.matches (setup.nameText entry.names) (relativeText entry.names) entry.isDir = true

def Reports (setup : ScanSetup) : Reached → Prop
  | .entry entry => setup.Matches entry
  | .fault _ => True

def Quiet (setup : ScanSetup) (reached : List Reached) : Prop :=
  ∀ event ∈ reached, ¬ setup.Reports event

@[simp] theorem quiet_nil : setup.Quiet [] := by
  simp [Quiet]

@[simp] theorem quiet_cons {event : Reached} {rest : List Reached}
    : setup.Quiet (event :: rest) ↔ ¬ setup.Reports event ∧ setup.Quiet rest := by
  simp [Quiet]

@[simp] theorem quiet_append {front back : List Reached}
    : setup.Quiet (front ++ back) ↔ setup.Quiet front ∧ setup.Quiet back := by
  simp [Quiet, or_imp, forall_and]

def reachedIn (setup : ScanSetup) (dir : QueuedDir) : List Reached :=
  reachedBelow (setup.config.maxDepth - dir.depth) dir.names
    (.directory dir.fault dir.children)

def reachedFrom (setup : ScanSetup) (queue : List QueuedDir) : List Reached :=
  queue.flatMap setup.reachedIn

@[simp] theorem reachedFrom_nil : setup.reachedFrom [] = [] := rfl

@[simp] theorem reachedFrom_cons (dir : QueuedDir) (queue : List QueuedDir)
    : setup.reachedFrom (dir :: queue) = setup.reachedIn dir ++ setup.reachedFrom queue :=
  rfl

@[simp] theorem reachedFrom_append (front back : List QueuedDir)
    : setup.reachedFrom (front ++ back)
      = setup.reachedFrom front ++ setup.reachedFrom back := by
  simp [reachedFrom]

def Openable (setup : ScanSetup) (queue : List QueuedDir) : Prop :=
  ∀ dir ∈ queue, dir.depth < setup.config.maxDepth

theorem enqueue_openable (names : List FileName) (depth : Nat) (tree : ScanTree)
    : setup.Openable (setup.enqueue names depth tree) := by
  intro dir member
  cases tree with
  | directory fault children =>
      simp only [enqueue] at member
      split at member
      · rename_i above
        obtain rfl := List.mem_singleton.mp member
        exact above
      · cases member
  | file => cases member
  | symlink => cases member
  | special => cases member

/-- Queueing an entry loses nothing the walk could reach below it: a directory that is not
queued is at the depth limit.
-/
theorem reachedFrom_enqueue (names : List FileName) (depth : Nat) (tree : ScanTree)
    : setup.reachedFrom (setup.enqueue names depth tree)
      = reachedBelow (setup.config.maxDepth - depth) names tree := by
  cases levels : setup.config.maxDepth - depth with
  | zero =>
      have atLimit : ¬ depth < setup.config.maxDepth := by omega
      cases tree <;> simp [enqueue, atLimit, reachedBelow]
  | succ n =>
      have above : depth < setup.config.maxDepth := by omega
      cases tree <;> simp [enqueue, above, reachedBelow, reachedIn, levels]

theorem matchingRule_eq_none_iff (names : List FileName) (isDir : Bool)
    : setup.matchingRule names isDir = none ↔ ¬ setup.Matches ⟨names, isDir⟩ := by
  simp [matchingRule, Matches]

variable {state : WalkState} {depth : Nat} {names : List FileName}

theorem recordMatch_of_unmatched {isDir : Bool} (unmatched : ¬ setup.Matches ⟨names, isDir⟩)
    : setup.recordMatch names depth isDir state = (state, false) := by
  simp [recordMatch, (matchingRule_eq_none_iff names isDir).mpr unmatched]

theorem recordMatch_of_matches {isDir : Bool} (matched : setup.Matches ⟨names, isDir⟩)
    : (setup.recordMatch names depth isDir state).1.found ≠ [] := by
  unfold recordMatch
  split
  · rename_i none
    exact absurd matched ((matchingRule_eq_none_iff names isDir).mp none)
  · simp

/-- Nothing found after an entry means nothing found before it, and no match. -/
theorem recordMatch_found_eq_nil {isDir : Bool}
    (nothing : (setup.recordMatch names depth isDir state).1.found = [])
    : state.found = [] ∧ ¬ setup.Matches ⟨names, isDir⟩ := by
  have unmatched : ¬ setup.Matches ⟨names, isDir⟩ :=
    fun matched => recordMatch_of_matches matched nothing
  rw [recordMatch_of_unmatched unmatched] at nothing
  exact ⟨nothing, unmatched⟩

theorem recordMatch_stop {isDir : Bool}
    (stop : (setup.recordMatch names depth isDir state).2 = true)
    : (setup.recordMatch names depth isDir state).1.found ≠ [] := by
  intro nothing
  obtain ⟨_, unmatched⟩ := recordMatch_found_eq_nil nothing
  rw [recordMatch_of_unmatched unmatched] at stop
  exact Bool.false_ne_true stop

def reachedThrough (setup : ScanSetup) (dir : List FileName) (depth : Nat)
    (children : List ScanChild) : List Reached :=
  (children.filter (·.2.1.known)).flatMap fun child =>
    .entry ⟨dir ++ [child.1], child.2.2.isDir⟩
      :: reachedBelow (setup.config.maxDepth - depth) (dir ++ [child.1]) child.2.2

variable {dir : List FileName}

/-- An entry that stays unknown hides everything below it. -/
theorem reachedThrough_cons_unknown {name : FileName}
    {read : EntryRead} {tree : ScanTree} {rest : List ScanChild} (unknown : read.known = false)
    : setup.reachedThrough dir depth ((name, read, tree) :: rest)
      = setup.reachedThrough dir depth rest := by
  simp [reachedThrough, unknown]

theorem reachedThrough_cons_known {name : FileName}
    {read : EntryRead} {tree : ScanTree} {rest : List ScanChild} (known : read.known = true)
    : setup.reachedThrough dir depth ((name, read, tree) :: rest)
      = .entry ⟨dir ++ [name], tree.isDir⟩
          :: (reachedBelow (setup.config.maxDepth - depth) (dir ++ [name]) tree
            ++ setup.reachedThrough dir depth rest) := by
  simp [reachedThrough, known]

/-- A directory that opens leads to what is reached through its entries. -/
theorem reachedIn_of_listed {dir : QueuedDir} (above : dir.depth < setup.config.maxDepth)
    (listed : dir.fault = none)
    : setup.reachedIn dir = setup.reachedThrough dir.names (dir.depth + 1) dir.children := by
  have levels : setup.config.maxDepth - dir.depth
      = (setup.config.maxDepth - (dir.depth + 1)) + 1 := by omega
  rw [reachedIn, levels, listed]
  rfl

variable {children : List ScanChild}

/-- A walk that ends inside a directory was truncated or has found a match, by induction on
the entries.
-/
theorem scanEntries_ended
    {ended : WalkEnd} (stopped : setup.scanEntries dir depth children state = .inl ended)
    : ended.outcome = .ok true ∨ ended.state.found ≠ [] := by
  induction children generalizing state with
  | nil => cases stopped
  | cons entry rest ih =>
      obtain ⟨name, read, tree⟩ := entry
      simp only [scanEntries] at stopped
      split at stopped
      · exact ih stopped
      · split at stopped
        · cases stopped
          exact Or.inl rfl
        · split at stopped
          · exact ih stopped
          · split at stopped
            · rename_i stop
              cases stopped
              exact Or.inr (recordMatch_stop stop)
            · split at stopped
              · rename_i later scanned
                cases stopped
                exact ih scanned
              · cases stopped

/-- Directories found among entries may be opened, by induction on the entries. -/
theorem scanEntries_openable {state final : WalkState} {found : List QueuedDir}
    (resumed : setup.scanEntries dir depth children state = .inr (final, found))
    : setup.Openable found := by
  induction children generalizing state final found with
  | nil =>
      cases resumed
      intro dir member
      cases member
  | cons entry rest ih =>
      obtain ⟨name, read, tree⟩ := entry
      simp only [scanEntries] at resumed
      split at resumed
      · exact ih resumed
      · split at resumed
        · cases resumed
        · split at resumed
          · exact ih resumed
          · split at resumed
            · cases resumed
            · split at resumed
              · cases resumed
              · rename_i last later scanned
                cases resumed
                intro dir member
                rcases List.mem_append.mp member with own | others
                · exact enqueue_openable _ _ _ dir own
                · exact ih scanned dir others

/-- When a directory was gone through and nothing is found, nothing was found before and all
that is reached through it is quiet, provided the directories found are; by induction on
the entries.
-/
theorem scanEntries_resumed {state final : WalkState} {found : List QueuedDir}
    (resumed : setup.scanEntries dir depth children state = .inr (final, found))
    (nothing : final.found = [])
    : state.found = []
      ∧ (setup.Quiet (setup.reachedFrom found)
          → setup.Quiet (setup.reachedThrough dir depth children)) := by
  induction children generalizing state final found with
  | nil =>
      cases resumed
      exact ⟨nothing, fun _ => quiet_nil⟩
  | cons entry rest ih =>
      obtain ⟨name, read, tree⟩ := entry
      simp only [scanEntries] at resumed
      split at resumed
      · rename_i broken
        rw [reachedThrough_cons_unknown (by rw [broken]; rfl)]
        exact ih resumed nothing
      · rename_i intact
        split at resumed
        · cases resumed
        · split at resumed
          · rename_i untyped
            rw [reachedThrough_cons_unknown (by rw [untyped]; rfl)]
            have counted := ih resumed nothing
            exact counted
          · rename_i typed
            have known : read.known = true := by
              cases read <;> first | rfl | contradiction
            split at resumed
            · cases resumed
            · split at resumed
              · cases resumed
              · rename_i last later scanned
                cases resumed
                obtain ⟨before, others⟩ := ih scanned nothing
                obtain ⟨earlier, unmatched⟩ := recordMatch_found_eq_nil before
                refine ⟨earlier, fun quiet => ?_⟩
                rw [reachedFrom_append, quiet_append, reachedFrom_enqueue] at quiet
                rw [reachedThrough_cons_known known, quiet_cons, quiet_append]
                exact ⟨unmatched, quiet.1, others quiet.2⟩

/-- Without an entry bound, a directory through which all is quiet is gone through without
finding anything, and so are the directories found; by induction on the entries.
-/
theorem scanEntries_quiet (unbounded : setup.config.maxEntries = 0) (state : WalkState)
    (quiet : setup.Quiet (setup.reachedThrough dir depth children))
    : ∃ final found,
        setup.scanEntries dir depth children state = .inr (final, found)
        ∧ final.found = state.found
        ∧ setup.Quiet (setup.reachedFrom found) := by
  induction children generalizing state with
  | nil => exact ⟨state, [], rfl, rfl, quiet_nil⟩
  | cons entry rest ih =>
      obtain ⟨name, read, tree⟩ := entry
      have room : ∀ state, setup.entriesExhausted state = false := by
        simp [entriesExhausted, unbounded]
      cases read with
      | broken =>
          rw [reachedThrough_cons_unknown rfl] at quiet
          simpa [scanEntries] using ih state quiet
      | untyped =>
          rw [reachedThrough_cons_unknown rfl] at quiet
          obtain ⟨final, found, scanned, same, later⟩ :=
            ih { state with entriesExamined := state.entriesExamined + 1 } quiet
          exact ⟨final, found, by simpa [scanEntries, room] using scanned, same, later⟩
      | typed | restated =>
          rw [reachedThrough_cons_known rfl, quiet_cons, quiet_append] at quiet
          obtain ⟨unmatched, below, others⟩ := quiet
          obtain ⟨final, found, scanned, same, later⟩ :=
            ih { state with entriesExamined := state.entriesExamined + 1 } others
          refine ⟨final, setup.enqueue (dir ++ [name]) depth tree ++ found, ?_, same, ?_⟩
          · simp [scanEntries, room, recordMatch_of_unmatched unmatched, scanned]
          · rw [reachedFrom_append, quiet_append, reachedFrom_enqueue]
            exact ⟨below, later⟩

/-- A directory that cannot be listed hides everything below it. -/
theorem reachedIn_of_skipped {dir : QueuedDir}
    (skipped : dir.fault = some .notFound ∨ dir.fault = some .permissionDenied)
    : setup.reachedIn dir = [] := by
  unfold reachedIn
  cases setup.config.maxDepth - dir.depth with
  | zero => rfl
  | succ levels => rcases skipped with missing | denied <;> simp [reachedBelow, *]

variable {queue : List QueuedDir}

theorem Openable.uncons {dir : QueuedDir} (openable : setup.Openable (dir :: queue))
    : dir.depth < setup.config.maxDepth ∧ setup.Openable queue :=
  List.forall_mem_cons.mp openable

theorem Openable.append {front back : List QueuedDir} (first : setup.Openable front)
    (second : setup.Openable back)
    : setup.Openable (front ++ back) :=
  List.forall_mem_append.mpr ⟨first, second⟩

/-- A completed walk that found nothing has reached only quiet things from its queue, by
induction along the walk.
-/
theorem scanQueue_sound (openable : setup.Openable queue)
    (completed : (setup.scanQueue queue state).outcome = .ok false)
    (nothing : (setup.scanQueue queue state).state.found = [])
    : state.found = [] ∧ setup.Quiet (setup.reachedFrom queue) := by
  fun_induction setup.scanQueue queue state with
  | case1 state => exact ⟨nothing, quiet_nil⟩
  | case2 dir queue state exhausted => cases completed
  | case3 dir queue state room missing ih =>
      rw [reachedFrom_cons, reachedIn_of_skipped (Or.inl missing)]
      exact ih openable.uncons.2 completed nothing
  | case4 dir queue state room denied ih =>
      rw [reachedFrom_cons, reachedIn_of_skipped (Or.inr denied)]
      exact ih openable.uncons.2 completed nothing
  | case5 dir queue state room message failed => cases completed
  | case6 dir queue state room listed opened ended stopped =>
      rcases scanEntries_ended stopped with truncated | found
      · rw [truncated] at completed
        cases completed
      · exact absurd nothing found
  | case7 dir queue state room listed opened final found scanned ih =>
      obtain ⟨above, rest⟩ := openable.uncons
      obtain ⟨after, quiet⟩ := ih (rest.append (scanEntries_openable scanned)) completed nothing
      rw [reachedFrom_append, quiet_append] at quiet
      obtain ⟨before, through⟩ := scanEntries_resumed scanned after
      refine ⟨before, ?_⟩
      rw [reachedFrom_cons, quiet_append, reachedIn_of_listed above listed]
      exact ⟨through quiet.2, quiet.1⟩

/-- Without bounds, a walk from whose queue only quiet things are reached completes and
finds nothing new, by induction along the walk.
-/
theorem scanQueue_quiet (entries : setup.config.maxEntries = 0)
    (dirs : setup.config.maxDirs = 0) (state : WalkState)
    (openable : setup.Openable queue) (quiet : setup.Quiet (setup.reachedFrom queue))
    : (setup.scanQueue queue state).outcome = .ok false
      ∧ (setup.scanQueue queue state).state.found = state.found := by
  fun_induction setup.scanQueue queue state with
  | case1 state => exact ⟨rfl, rfl⟩
  | case2 dir queue state exhausted =>
      simp [dirsExhausted, entriesExhausted, entries, dirs] at exhausted
  | case3 dir queue state room missing ih =>
      rw [reachedFrom_cons, quiet_append] at quiet
      exact ih openable.uncons.2 quiet.2
  | case4 dir queue state room denied ih =>
      rw [reachedFrom_cons, quiet_append] at quiet
      exact ih openable.uncons.2 quiet.2
  | case5 dir queue state room message failed =>
      obtain ⟨above, _⟩ := openable.uncons
      have levels : setup.config.maxDepth - dir.depth
          = (setup.config.maxDepth - (dir.depth + 1)) + 1 := by omega
      rw [reachedFrom_cons, quiet_append, reachedIn, levels, failed] at quiet
      exact absurd trivial (quiet.1 _ (List.mem_singleton.mpr rfl))
  | case6 dir queue state room listed opened ended stopped =>
      obtain ⟨above, _⟩ := openable.uncons
      rw [reachedFrom_cons, quiet_append, reachedIn_of_listed above listed] at quiet
      obtain ⟨final, found, scanned, _⟩ :=
        scanEntries_quiet entries opened quiet.1
      rw [scanned] at stopped
      cases stopped
  | case7 dir queue state room listed opened final found scanned ih =>
      obtain ⟨above, rest⟩ := openable.uncons
      rw [reachedFrom_cons, quiet_append, reachedIn_of_listed above listed] at quiet
      obtain ⟨final', found', scanned', same, later⟩ :=
        scanEntries_quiet entries opened quiet.1
      rw [scanned] at scanned'
      cases scanned'
      have joined : setup.Quiet (setup.reachedFrom (queue ++ found)) := by
        rw [reachedFrom_append, quiet_append]
        exact ⟨quiet.2, later⟩
      obtain ⟨completed, unchanged⟩ :=
        ih (rest.append (scanEntries_openable scanned)) joined
      exact ⟨completed, unchanged.trans same⟩

structure WithinBudgets (config : StowawayScanConfig) (state : WalkState) : Prop where
  entries : config.maxEntries ≠ 0 → state.entriesExamined ≤ config.maxEntries
  dirs : config.maxDirs ≠ 0 → state.dirsOpened ≤ config.maxDirs

theorem recordMatch_within (names : List FileName) (depth : Nat) (isDir : Bool)
    (within : WithinBudgets setup.config state)
    : WithinBudgets setup.config (setup.recordMatch names depth isDir state).1 := by
  unfold recordMatch
  split
  · exact within
  · exact ⟨within.entries, within.dirs⟩

/-- Counting one more entry stays within bounds that are not exhausted. -/
theorem WithinBudgets.count (within : WithinBudgets setup.config state)
    (room : ¬ setup.entriesExhausted state = true)
    : WithinBudgets setup.config { state with entriesExamined := state.entriesExamined + 1 } := by
  refine ⟨fun bounded => ?_, within.dirs⟩
  simp only [entriesExhausted, bounded, bne_iff_ne, ne_eq, not_false_eq_true, Bool.and_eq_true,
    decide_eq_true_eq, true_and, not_le] at room
  exact room

/-- Opening one more directory stays within bounds that are not exhausted. -/
theorem WithinBudgets.open (within : WithinBudgets setup.config state)
    (room : ¬ setup.dirsExhausted state = true)
    : WithinBudgets setup.config { state with dirsOpened := state.dirsOpened + 1 } := by
  refine ⟨within.entries, fun bounded => ?_⟩
  simp only [dirsExhausted, bounded, bne_iff_ne, ne_eq, not_false_eq_true, Bool.and_eq_true,
    decide_eq_true_eq, true_and, not_le] at room
  exact room

def leftState : WalkEnd ⊕ (WalkState × List QueuedDir) → WalkState
  | .inl ended => ended.state
  | .inr resumed => resumed.1

/-- Going through a directory stays within the bounds, by induction on the entries. -/
theorem scanEntries_within (dir : List FileName) (depth : Nat) (children : List ScanChild)
    (within : WithinBudgets setup.config state)
    : WithinBudgets setup.config (leftState (setup.scanEntries dir depth children state)) := by
  induction children generalizing state with
  | nil => exact within
  | cons entry rest ih =>
      obtain ⟨name, read, tree⟩ := entry
      simp only [scanEntries]
      split
      · exact ih within
      · split
        · exact within
        · rename_i room
          have counted := within.count room
          split
          · exact ih counted
          · have recorded := recordMatch_within (dir ++ [name]) depth tree.isDir counted
            split
            · exact recorded
            · have left := ih recorded
              split
              · rename_i scanned
                rw [scanned] at left
                exact left
              · rename_i scanned
                rw [scanned] at left
                exact left

/-- A walk stays within the bounds, by induction along it. -/
theorem scanQueue_within (within : WithinBudgets setup.config state)
    : WithinBudgets setup.config (setup.scanQueue queue state).state := by
  fun_induction setup.scanQueue queue state with
  | case1 state => exact within
  | case2 dir queue state exhausted => exact within
  | case3 dir queue state room missing ih => exact ih within
  | case4 dir queue state room denied ih => exact ih within
  | case5 dir queue state room message failed => exact within
  | case6 dir queue state room listed opened ended stopped =>
      simp only [Bool.or_eq_true, not_or] at room
      have left := scanEntries_within dir.names (dir.depth + 1) dir.children
        (within.open room.1)
      rw [stopped] at left
      exact left
  | case7 dir queue state room listed opened final found scanned ih =>
      simp only [Bool.or_eq_true, not_or] at room
      have left := scanEntries_within dir.names (dir.depth + 1) dir.children
        (within.open room.1)
      rw [scanned] at left
      exact ih left

end ScanSetup

namespace ScanRoot

def Sacred (root : ScanRoot) (catalog : List SacredPath) (entry : ScanEntry) : Prop :=
  (root.setup catalog .default).Matches entry

def Reports (root : ScanRoot) (catalog : List SacredPath) (event : Reached) : Prop :=
  (root.setup catalog .default).Reports event

/-- A scan that reports neither a match nor truncation vouches for the whole tree down to
its depth.
-/
def FailsClosed (root : ScanRoot) (catalog : List SacredPath) (config : StowawayScanConfig)
    : Prop :=
  ∀ result, scanStowawaysBounded root catalog config = .ok result
    → result.matches = []
    → result.truncated = false
    → ∀ entry ∈ root.entries config.maxDepth, ¬ root.Sacred catalog entry

def StaysWithin (root : ScanRoot) (catalog : List SacredPath) (config : StowawayScanConfig)
    : Prop :=
  ScanSetup.WithinBudgets config (stowawayWalk root catalog config).state

theorem reports_iff (root : ScanRoot) (catalog : List SacredPath)
    (config : StowawayScanConfig) (event : Reached)
    : (root.setup catalog config).Reports event ↔ root.Reports catalog event := by
  cases event <;> exact Iff.rfl

/-- Every scan stays within its bounds: the root counts as one entry, and the walk stays
within what is left.
-/
theorem staysWithin (root : ScanRoot) (catalog : List SacredPath)
    (config : StowawayScanConfig) : root.StaysWithin catalog config := by
  have start : ScanSetup.WithinBudgets (root.setup catalog config).config
      { found := [], entriesExamined := 1, dirsOpened := 0 } :=
    ⟨fun bounded => Nat.one_le_iff_ne_zero.mpr bounded, fun _ => Nat.zero_le _⟩
  unfold StaysWithin stowawayWalk
  split
  · exact ⟨fun _ => Nat.zero_le _, fun _ => Nat.zero_le _⟩
  · exact ⟨fun _ => Nat.zero_le _, fun _ => Nat.zero_le _⟩
  · exact ⟨fun _ => Nat.zero_le _, fun _ => Nat.zero_le _⟩
  · have recorded := ScanSetup.recordMatch_within [] 0 root.tree.isDir start
    simp only [ScanSetup.scanFrom]
    split
    · exact recorded
    · exact ScanSetup.scanQueue_within recorded

/-- A scan that reports nothing has reached only quiet things. -/
theorem quiet_of_scan {root : ScanRoot} {catalog : List SacredPath}
    {config : StowawayScanConfig} {result : StowawayScanResult}
    (scanned : scanStowawaysBounded root catalog config = .ok result)
    (nothing : result.matches = []) (complete : result.truncated = false)
    : (root.setup catalog config).Quiet (root.reached config.maxDepth) := by
  unfold scanStowawaysBounded at scanned
  simp only at scanned
  split at scanned
  · cases scanned
  · rename_i truncated outcome
    cases scanned
    simp only at nothing complete
    rw [complete] at outcome
    unfold stowawayWalk at outcome nothing
    unfold reached
    cases failed : root.fault with
    | some fault =>
        cases fault with
        | notFound => exact ScanSetup.quiet_nil
        | permissionDenied => exact ScanSetup.quiet_nil
        | other message => simp [failed] at outcome
    | none =>
        simp only [failed, ScanSetup.scanFrom] at outcome nothing
        split at nothing
        · rename_i stop
          exact absurd nothing (ScanSetup.recordMatch_stop stop)
        · rename_i goes
          rw [if_neg goes] at outcome
          obtain ⟨before, quiet⟩ := ScanSetup.scanQueue_sound
            (ScanSetup.enqueue_openable _ _ _) outcome nothing
          rw [ScanSetup.reachedFrom_enqueue] at quiet
          exact ScanSetup.quiet_cons.mpr
            ⟨(ScanSetup.recordMatch_found_eq_nil before).2, quiet⟩

/-- An unbounded scan that reaches only quiet things reports nothing. -/
theorem scan_of_quiet {root : ScanRoot} {catalog : List SacredPath}
    {config : StowawayScanConfig} (entries : config.maxEntries = 0)
    (dirs : config.maxDirs = 0)
    (quiet : (root.setup catalog config).Quiet (root.reached config.maxDepth))
    : scanStowawaysBounded root catalog config = .ok ⟨[], false⟩ := by
  unfold scanStowawaysBounded stowawayWalk
  unfold reached at quiet
  cases failed : root.fault with
  | some fault =>
      cases fault with
      | notFound => rfl
      | permissionDenied => rfl
      | other message =>
          rw [failed] at quiet
          exact absurd trivial (quiet _ (List.mem_singleton.mpr rfl))
  | none =>
      simp only [failed, ScanSetup.quiet_cons] at quiet
      obtain ⟨unmatched, below⟩ := quiet
      have queued : (root.setup catalog config).reachedFrom
            ((root.setup catalog config).enqueue [] 0 root.tree)
          = reachedBelow (config.maxDepth - 0) [] root.tree :=
        ScanSetup.reachedFrom_enqueue [] 0 root.tree
      obtain ⟨completed, unchanged⟩ := ScanSetup.scanQueue_quiet entries dirs
        { found := [], entriesExamined := 1, dirsOpened := 0 }
        (ScanSetup.enqueue_openable [] 0 root.tree) (queued ▸ below)
      simp only [ScanSetup.scanFrom, ScanSetup.recordMatch_of_unmatched unmatched,
        Bool.false_eq_true, if_false, completed, unchanged]

/-- A scan fails closed and stays within its bounds under every configuration of a depth,
exactly when a tree with something sacred down to that depth shows the walk something to
report. Witness: a silent scan has reached only quiet things, and an unbounded scan is
silent when it reaches only quiet things.
-/
theorem scan_failsClosed_iff (root : ScanRoot) (catalog : List SacredPath) (maxDepth : Nat)
    : (∀ config : StowawayScanConfig, config.maxDepth = maxDepth
        → root.FailsClosed catalog config ∧ root.StaysWithin catalog config)
      ↔ ((∃ entry ∈ root.entries maxDepth, root.Sacred catalog entry)
          → ∃ event ∈ root.reached maxDepth, root.Reports catalog event) := by
  constructor
  · rintro holds ⟨entry, member, sacred⟩
    by_contra silent
    have quiet : (root.setup catalog ⟨maxDepth, true, 0, 0⟩).Quiet (root.reached maxDepth) :=
      fun event reached reports => silent ⟨event, reached, reports⟩
    have closed := (holds ⟨maxDepth, true, 0, 0⟩ rfl).1
    exact closed _ (scan_of_quiet rfl rfl quiet) rfl rfl entry member sacred
  · rintro exposed config rfl
    refine ⟨?_, root.staysWithin catalog config⟩
    intro result scanned nothing complete entry member sacred
    obtain ⟨event, reached, reports⟩ := exposed ⟨entry, member, sacred⟩
    have quiet := quiet_of_scan scanned nothing complete
    exact quiet event reached ((root.reports_iff catalog config event).mpr reports)

/-- A cache whose protected part may not be listed. -/
def lockedCache : ScanRoot where
  location := ⟨[⟨"tmp", .refl true⟩, ⟨"cache", by decide⟩]⟩
  fault := none
  tree := .directory none [(⟨"private", by decide⟩, .typed,
    .directory (some .permissionDenied) [(⟨".sbh-protect", by decide⟩, .typed, .file)])]

/-- The default scan vouches for the cache although a protection marker lies in it. -/
theorem scan_vouches_for_lockedCache : ¬ lockedCache.FailsClosed [] .default := by
  intro closed
  have silent : (scanStowawaysBounded lockedCache [] .default).toOption
      = some ⟨[], false⟩ := by decide +kernel
  have marker : (⟨[⟨"private", by decide⟩, ⟨".sbh-protect", by decide⟩], false⟩ : ScanEntry)
      ∈ lockedCache.entries 3 := by
    simp [ScanRoot.entries, entriesBelow, lockedCache, ScanTree.isDir]
  cases scanned : scanStowawaysBounded lockedCache [] .default with
  | error error =>
      rw [scanned] at silent
      cases silent
  | ok result =>
      rw [scanned] at silent
      cases silent
      exact closed _ scanned rfl rfl _ marker ⟨markerRule, by decide, by decide⟩

end ScanRoot

end StorageBallast
