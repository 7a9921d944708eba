import Mathlib.Algebra.GroupWithZero.Nat
import StorageBallast.Scanner.WalkRoutes
import StorageBallast.Scanner.WalkerThreads

/-! When the walker's threads stop. What is in flight is queued, being processed or announced,
in every order of steps, and a thread that finds nothing in flight has come to the end of the
whole walk: each directory that a root leads to was gone into once for that root.
-/

namespace StorageBallast

variable {F : Type}

/-- The thread has an item that is counted as in flight. -/
def WorkerPhase.isProcessing : WorkerPhase F → Bool
  | .receiving => false
  | .received _ => true
  | .opened _ _ => true
  | .dispatching _ _ _ _ => true
  | .announced _ _ _ _ _ => true
  | .finishing _ _ => true
  | .timedOut => false
  | .returned => false

def WorkerPhase.isAnnouncing : WorkerPhase F → Bool
  | .announced _ _ _ _ _ => true
  | _ => false

namespace ThreadedWalk

def processing (state : ThreadedWalk F) : Nat := state.threads.countP (·.isProcessing)

def announcing (state : ThreadedWalk F) : Nat := state.threads.countP (·.isAnnouncing)

end ThreadedWalk

namespace DirectoryWalker

variable [Float64 F]

/-- What a thread can do in one action. -/
inductive Turn (walker : DirectoryWalker) (env : PathEnv) (work : SharedWork F)
    : WorkerPhase F → SharedWork F → WorkerPhase F → Prop where
  | timeOut : Turn walker env work .receiving work .timedOut
  | receive (task : WorkTask F) (rest : List (WorkTask F)) (queued : work.queue = task :: rest)
      : Turn walker env work .receiving { work with queue := rest } (.received task)
  | skip (task : WorkTask F)
      (barred : (walker.under env work.registry).checkDirectory task.item.rootDeviceId
        task.item.depth task.item.path = none)
      : Turn walker env work (.received task) work (.finishing task false)
  | enter (task : WorkTask F) (metadata : Option Metadata)
      (passed : (walker.under env work.registry).checkDirectory task.item.rootDeviceId
        task.item.depth task.item.path = some metadata)
      : Turn walker env work (.received task) work (.opened task metadata)
  | unreadable (task : WorkTask F) (metadata : Option Metadata)
      (closed : walker.world.readDir task.item.path = none)
      : Turn walker env work (.opened task metadata) work (.finishing task true)
  | marker (task : WorkTask F) (metadata : Option Metadata) (entries : List DirEntry)
      (read : walker.world.readDir task.item.path = some entries)
      (marked : walker.listEntries task.item.depth task.item.path entries .start = none)
      : Turn walker env work (.opened task metadata)
          { work with registry := work.registry.registerMarker env task.item.path }
          (.finishing task true)
  | list (task : WorkTask F) (metadata : Option Metadata) (entries : List DirEntry)
      (listing : DirListing) (read : walker.world.readDir task.item.path = some entries)
      (listed : walker.listEntries task.item.depth task.item.path entries .start = some listing)
      : Turn walker env work (.opened task metadata) work
          (.dispatching task metadata listing listing.pendingChildren)
  | announce (task : WorkTask F) (metadata : Option Metadata) (listing : DirListing)
      (child : PathBuf) (pending : List PathBuf) (item : WorkItem F)
      (queues : walker.childItem task.item listing child = some item)
      : Turn walker env work (.dispatching task metadata listing (child :: pending))
          { work with inFlight := work.inFlight + 1 }
          (.announced task metadata listing item pending)
  | leaveOut (task : WorkTask F) (metadata : Option Metadata) (listing : DirListing)
      (child : PathBuf) (pending : List PathBuf)
      (notQueued : walker.childItem task.item listing child = none)
      : Turn walker env work (.dispatching task metadata listing (child :: pending))
          { work with
            results := work.results ++ (walker.childEntry task.item listing child).toList }
          (.dispatching task metadata listing pending)
  | send (task : WorkTask F) (metadata : Option Metadata) (listing : DirListing)
      (child : WorkItem F) (pending : List PathBuf)
      : Turn walker env work (.announced task metadata listing child pending)
          { work with queue := work.queue ++ [⟨task.origin, child⟩] }
          (.dispatching task metadata listing pending)
  | report (task : WorkTask F) (metadata : Option Metadata) (listing : DirListing)
      : Turn walker env work (.dispatching task metadata listing [])
          { work with results := work.results ++ (ownEntry task.item metadata listing).toList }
          (.finishing task true)
  | finish (task : WorkTask F) (entered : Bool)
      : Turn walker env work (.finishing task entered)
          { work with
            inFlight := work.inFlight - 1
            processed := work.processed ++ if entered then [task] else [] }
          .receiving
  | leave (empty : work.inFlight = 0) : Turn walker env work .timedOut work .returned
  | stay (busy : work.inFlight ≠ 0) : Turn walker env work .timedOut work .receiving

theorem act_turn {walker : DirectoryWalker} {env : PathEnv} {work next : SharedWork F}
    {timesOut : Bool} {phase nextPhase : WorkerPhase F}
    (acted : walker.act env work timesOut phase = some (next, nextPhase))
    : Turn walker env work phase next nextPhase := by
  cases phase with
  | receiving =>
      simp only [act] at acted
      cases timesOut with
      | true =>
          cases acted
          exact .timeOut
      | false =>
          cases queued : work.queue with
          | nil => simp [queued] at acted
          | cons task rest =>
              simp only [queued, Bool.false_eq_true, if_false] at acted
              cases acted
              exact .receive task rest queued
  | received task =>
      obtain ⟨rfl, rfl⟩ : work = next ∧ walker.check env work task = nextPhase := by
        simpa [act] using acted
      unfold check
      split
      · rename_i barred
        exact .skip task barred
      · rename_i metadata passed
        exact .enter task metadata passed
  | opened task metadata =>
      obtain listed : walker.list env work task metadata = (next, nextPhase) :=
        Option.some.inj acted
      unfold DirectoryWalker.list at listed
      split at listed
      · rename_i closed
        cases listed
        exact .unreadable task metadata closed
      · rename_i entries read
        split at listed
        · rename_i marked
          cases listed
          exact .marker task metadata entries read marked
        · rename_i listing counted
          cases listed
          exact .list task metadata entries listing read counted
  | dispatching task metadata listing pending =>
      have dispatched : walker.dispatch work task metadata listing pending = (next, nextPhase) :=
        Option.some.inj acted
      cases pending with
      | nil =>
          cases dispatched
          exact .report task metadata listing
      | cons child pending =>
          cases queues : walker.childItem task.item listing child with
          | some item =>
              simp only [dispatch, queues] at dispatched
              cases dispatched
              exact .announce task metadata listing child pending item queues
          | none =>
              simp only [dispatch, queues] at dispatched
              cases dispatched
              exact .leaveOut task metadata listing child pending queues
  | announced task metadata listing child pending =>
      cases acted
      exact .send task metadata listing child pending
  | finishing task entered =>
      cases acted
      exact .finish task entered
  | timedOut =>
      simp only [act, Option.some.injEq, Prod.mk.injEq] at acted
      obtain ⟨rfl, rfl⟩ := acted
      split
      · rename_i empty
        exact .leave empty
      · rename_i busy
        exact .stay busy
  | returned => cases acted

theorem step_turn {walker : DirectoryWalker} {env : PathEnv} {state next : ThreadedWalk F}
    {move : WalkMove} (stepped : walker.step env state move = some next)
    : ∃ phase nextPhase, state.threads[move.thread]? = some phase
        ∧ Turn walker env state.work phase next.work nextPhase
        ∧ next.threads = state.threads.set move.thread nextPhase := by
  unfold step at stepped
  split at stepped
  · cases stepped
  · rename_i phase running
    obtain ⟨⟨work, nextPhase⟩, acted, rfl⟩ := Option.map_eq_some_iff.mp stepped
    exact ⟨phase, nextPhase, running, act_turn acted, rfl⟩

end DirectoryWalker

/-- A sum over a list in which one element is replaced, by induction on the list. -/
theorem sum_map_set {α : Type} (weight : α → Nat) {list : List α} {i : Nat} {old : α} (new : α)
    (held : list[i]? = some old)
    : ((list.set i new).map weight).sum + weight old = (list.map weight).sum + weight new := by
  induction list generalizing i with
  | nil => cases held
  | cons first rest ih =>
      cases i with
      | zero =>
          cases held
          simp only [List.set_cons_zero, List.map_cons, List.sum_cons]
          omega
      | succ i =>
          have later := ih held
          simp only [List.set_cons_succ, List.map_cons, List.sum_cons]
          omega

theorem le_sum_map {α : Type} (weight : α → Nat) {list : List α} {i : Nat} {held : α}
    (present : list[i]? = some held) : weight held ≤ (list.map weight).sum := by
  have replaced := sum_map_set weight held present
  induction list generalizing i with
  | nil => cases present
  | cons first rest ih =>
      rw [List.map_cons, List.sum_cons]
      cases i with
      | zero =>
          cases present
          omega
      | succ i =>
          have later := ih present (sum_map_set weight held present)
          omega

theorem countP_eq_sum {α : Type} (test : α → Bool) (list : List α)
    : list.countP test = (list.map fun a => (test a).toNat).sum := by
  induction list with
  | nil => rfl
  | cons first rest ih =>
      rw [List.countP_cons, ih, List.map_cons, List.sum_cons]
      cases test first <;> simp [Nat.add_comm]

namespace DirectoryWalker

variable [Float64 F] {walker : DirectoryWalker} {env : PathEnv}

def load (phase : WorkerPhase F) : Nat := phase.isProcessing.toNat + phase.isAnnouncing.toNat

omit [Float64 F] in
theorem processing_add_announcing (state : ThreadedWalk F)
    : state.processing + state.announcing = (state.threads.map load).sum := by
  unfold ThreadedWalk.processing ThreadedWalk.announcing
  rw [countP_eq_sum, countP_eq_sum]
  induction state.threads with
  | nil => rfl
  | cons first rest ih =>
      simp only [List.map_cons, List.sum_cons, load] at ih ⊢
      omega

/-- One turn changes the count as it changes the queue and what the thread accounts for. -/
theorem Turn.counts {work next : SharedWork F} {phase nextPhase : WorkerPhase F}
    (turn : Turn walker env work phase next nextPhase) (counted : load phase ≤ work.inFlight)
    : next.inFlight + work.queue.length + load phase
      = work.inFlight + next.queue.length + load nextPhase := by
  cases turn with
  | receive task rest queued =>
      simp [queued, load, WorkerPhase.isProcessing, WorkerPhase.isAnnouncing]
      omega
  | announce => simp [load, WorkerPhase.isProcessing, WorkerPhase.isAnnouncing]; omega
  | send => simp [load, WorkerPhase.isProcessing, WorkerPhase.isAnnouncing]; omega
  | finish =>
      simp [load, WorkerPhase.isProcessing, WorkerPhase.isAnnouncing] at counted ⊢
      omega
  | _ => simp [load, WorkerPhase.isProcessing, WorkerPhase.isAnnouncing]

def Counted (state : ThreadedWalk F) : Prop :=
  state.work.inFlight = state.work.queue.length + state.processing + state.announcing

theorem counted_step {state next : ThreadedWalk F} {move : WalkMove} (counted : Counted state)
    (stepped : walker.step env state move = some next) : Counted next := by
  obtain ⟨phase, nextPhase, running, turn, threads⟩ := step_turn stepped
  have total := processing_add_announcing state
  have nextTotal := processing_add_announcing next
  have own := le_sum_map load running
  have replaced := sum_map_set load nextPhase running
  have flow := turn.counts (by
    unfold Counted at counted
    omega)
  rw [threads] at nextTotal
  unfold Counted at counted ⊢
  omega

/-- A run is some steps, by induction on the moves. -/
theorem steps_induction {holds : ThreadedWalk F → Prop}
    (kept : ∀ state move next, holds state → walker.step env state move = some next → holds next)
    {first last : ThreadedWalk F} {moves : List WalkMove} (initially : holds first)
    (ran : walker.steps env first moves = some last) : holds last := by
  induction moves generalizing first with
  | nil =>
      cases ran
      exact initially
  | cons move rest ih =>
      obtain ⟨next, stepped, later⟩ := Option.bind_eq_some_iff.mp ran
      exact ih (kept first move next initially stepped) later

omit [Float64 F] in
theorem counted_start (registry : ProtectionRegistry) (parallelism : Nat)
    (seeds : List (PathBuf × Nat))
    : Counted (start registry parallelism seeds : ThreadedWalk F) := by
  unfold Counted ThreadedWalk.processing ThreadedWalk.announcing start
  simp [List.countP_replicate, WorkerPhase.isProcessing, WorkerPhase.isAnnouncing]

/-! What is left to be gone into below an item. -/

def goesInto (walker : DirectoryWalker) (item : WorkItem F) : Bool :=
  (walker.checkDirectory item.rootDeviceId item.depth item.path).isSome

/-- The items that listing a directory leads to. -/
def expand (walker : DirectoryWalker) (item : WorkItem F) : List (WorkItem F) :=
  match walker.world.readDir item.path with
  | none => []
  | some entries =>
      match walker.listEntries item.depth item.path entries .start with
      | none => []
      | some listing => listing.pendingChildren.filterMap (walker.childItem item listing)

/-- All items at and below an item that are gone into, some levels down. -/
def reachFrom (walker : DirectoryWalker) : Nat → WorkItem F → List (WorkItem F)
  | 0, item => if walker.goesInto item then [item] else []
  | levels + 1, item =>
      if walker.goesInto item then
        item :: (walker.expand item).flatMap (walker.reachFrom levels)
      else []

def reach (walker : DirectoryWalker) (item : WorkItem F) : List (WorkItem F) :=
  walker.reachFrom (walker.config.maxDepth - item.depth) item

/-- A child is one level deeper, on the same device, and has the path it was listed with. -/
theorem childItem_eq_some {item child : WorkItem F} {listing : DirListing} {path : PathBuf}
    (queued : walker.childItem item listing path = some child)
    : child.path = path ∧ child.depth = item.depth + 1
      ∧ child.rootDeviceId = item.rootDeviceId
      ∧ child.opaqueTree = walker.childOpaqueTree listing path
      ∧ descends (walker.childOpaqueTree listing path : Option (OpaqueTreeClassification F)) := by
  unfold childItem at queued
  split at queued
  · rename_i decided
    cases queued
    exact ⟨rfl, rfl, rfl, decided.symm, by rw [decided]; trivial⟩
  · rename_i verdict decided
    split at queued
    · cases queued
    · cases queued
    · rename_i signal
      cases queued
      exact ⟨rfl, rfl, rfl, decided.symm, by rw [decided]; exact signal⟩

/-- No children wait in the deepest directories that are listed. -/
theorem expand_deepest {item : WorkItem F} (deep : walker.config.maxDepth ≤ item.depth)
    : walker.expand item = [] := by
  unfold expand
  split
  · rfl
  · rename_i entries read
    split
    · rfl
    · rename_i listing listed
      have spec := listEntries_spec walker item.depth item.path entries .start
        (maxEntriesPerDir - 1) rfl
      rw [listed] at spec
      have none : listing.pendingChildren = [] := by
        refine List.eq_nil_iff_forall_not_mem.mpr fun path waiting => ?_
        rcases (spec.2.children path).mp waiting with impossible | ⟨_, _, _, shallow, _⟩
        · cases impossible
        · omega
      rw [none]
      rfl

theorem mem_expand_depth {item child : WorkItem F} (member : child ∈ walker.expand item)
    : child.depth = item.depth + 1 := by
  unfold expand at member
  split at member
  · cases member
  · split at member
    · cases member
    · obtain ⟨path, _, queued⟩ := List.mem_filterMap.mp member
      exact (childItem_eq_some queued).2.1

/-- What an item leads to is the item and what its children lead to. -/
theorem reach_eq (item : WorkItem F)
    : walker.reach item
      = if walker.goesInto item then item :: (walker.expand item).flatMap walker.reach
        else [] := by
  unfold reach
  cases left : walker.config.maxDepth - item.depth with
  | zero =>
      rw [expand_deepest (by omega)]
      rfl
  | succ levels =>
      have below : (walker.expand item).flatMap (walker.reachFrom levels)
          = (walker.expand item).flatMap
              fun child => walker.reachFrom (walker.config.maxDepth - child.depth) child := by
        refine List.flatMap_congr fun child member => ?_
        have deeper := mem_expand_depth member
        rw [show walker.config.maxDepth - child.depth = levels by omega]
      rw [reachFrom, below]

omit [Float64 F] in
/-- Listing does not ask the registry, by induction on the entries. -/
theorem listEntries_under (registry : ProtectionRegistry) (depth : Nat) (dir : PathBuf)
    (entries : List DirEntry) (listing : DirListing)
    : (walker.under env registry).listEntries depth dir entries listing
      = walker.listEntries depth dir entries listing := by
  induction entries generalizing listing with
  | nil => rfl
  | cons entry rest ih =>
      simp only [listEntries, ih]
      rfl

theorem expand_under (registry : ProtectionRegistry) (item : WorkItem F)
    : (walker.under env registry).expand item = walker.expand item := by
  unfold expand
  simp only [listEntries_under]
  rfl

/-! Accounting for the items that pass some test, under a registry that stays fixed. -/

def Covers (env : PathEnv) (registry other : ProtectionRegistry) : Prop :=
  ∀ path, other.isProtected env path = true → registry.isProtected env path = true

omit [Float64 F] in
/-- Whoever passes the checks under a registry passes them under one that protects less. -/
theorem goesInto_of_covers {registry other : ProtectionRegistry}
    (covers : Covers env registry other) {item : WorkItem F}
    (passes : (walker.under env registry).goesInto item = true)
    : (walker.under env other).goesInto item = true := by
  obtain ⟨metadata, checked⟩ := Option.isSome_iff_exists.mp passes
  obtain ⟨notExcluded, notProtected, placed⟩ := checkDirectory_eq_some.mp checked
  refine Option.isSome_iff_exists.mpr ⟨metadata, checkDirectory_eq_some.mpr
    ⟨notExcluded, ?_, placed⟩⟩
  change other.isProtected env item.path = false
  change registry.isProtected env item.path = false at notProtected
  by_contra guarded
  rw [covers item.path (by simpa using guarded)] at notProtected
  cases notProtected

omit [Float64 F] in
theorem covers_registerMarker (registry : ProtectionRegistry) (dir : PathBuf)
    : Covers env (registry.registerMarker env dir) registry :=
  fun _ guarded => (ProtectionRegistry.extends_registerMarker registry env dir).isProtected guarded

theorem Turn.covers {work next : SharedWork F} {phase nextPhase : WorkerPhase F}
    (turn : Turn walker env work phase next nextPhase)
    : Covers env next.registry work.registry := by
  cases turn with
  | marker => exact covers_registerMarker _ _
  | _ => exact fun _ guarded => guarded

def due (walker : DirectoryWalker) (env : PathEnv) (registry : ProtectionRegistry)
    (test : WorkTask F → Bool) (task : WorkTask F) : Nat :=
  (((walker.under env registry).reach task.item).map (WorkTask.mk task.origin)).countP test

variable {registry : ProtectionRegistry} {test : WorkTask F → Bool}

def dueBelow (walker : DirectoryWalker) (env : PathEnv) (registry : ProtectionRegistry)
    (test : WorkTask F → Bool) (task : WorkTask F) (children : List (WorkItem F)) : Nat :=
  (children.map fun child => due walker env registry test ⟨task.origin, child⟩).sum

theorem due_eq (task : WorkTask F)
    : due walker env registry test task
      = if (walker.under env registry).goesInto task.item then
          (test task).toNat + dueBelow walker env registry test task (walker.expand task.item)
        else 0 := by
  unfold due
  rw [reach_eq, expand_under]
  split
  · rw [List.map_cons, List.countP_cons, List.map_flatMap, List.countP_flatMap, dueBelow]
    cases test task <;> simp [due, Function.comp_def, Nat.add_comm]
  · rfl

/-- What a thread still has to account for. -/
def phaseDue (walker : DirectoryWalker) (env : PathEnv) (registry : ProtectionRegistry)
    (test : WorkTask F → Bool) : WorkerPhase F → Nat
  | .receiving => 0
  | .received task => due walker env registry test task
  | .opened task _ =>
      (test task).toNat + dueBelow walker env registry test task (walker.expand task.item)
  | .dispatching task _ listing pending =>
      (test task).toNat + dueBelow walker env registry test task
        (pending.filterMap (walker.childItem task.item listing))
  | .announced task _ listing child pending =>
      (test task).toNat + dueBelow walker env registry test task
        (child :: pending.filterMap (walker.childItem task.item listing))
  | .finishing task entered => if entered then (test task).toNat else 0
  | .timedOut => 0
  | .returned => 0

def sharedDue (walker : DirectoryWalker) (env : PathEnv) (registry : ProtectionRegistry)
    (test : WorkTask F → Bool) (work : SharedWork F) : Nat :=
  work.processed.countP test + (work.queue.map (due walker env registry test)).sum

/-- A turn never adds to the account under a registry that protects no more than the one of the
walk, and never takes from it under one that protects all that the walk's does. Only the checks
make a difference.
-/
theorem Turn.account {work next : SharedWork F} {phase nextPhase : WorkerPhase F}
    (turn : Turn walker env work phase next nextPhase) (registry : ProtectionRegistry)
    (test : WorkTask F → Bool)
    : (Covers env work.registry registry →
        sharedDue walker env registry test next + phaseDue walker env registry test nextPhase
          ≤ sharedDue walker env registry test work + phaseDue walker env registry test phase)
      ∧ (Covers env registry work.registry →
        sharedDue walker env registry test work + phaseDue walker env registry test phase
          ≤ sharedDue walker env registry test next
            + phaseDue walker env registry test nextPhase) := by
  cases turn with
  | timeOut => exact ⟨fun _ => le_rfl, fun _ => le_rfl⟩
  | receive task rest queued =>
      have moved : sharedDue walker env registry test work
          = sharedDue walker env registry test { work with queue := rest }
            + due walker env registry test task := by
        simp only [sharedDue, queued, List.map_cons, List.sum_cons]
        omega
      rw [moved]
      exact ⟨fun _ => le_rfl, fun _ => le_rfl⟩
  | skip task barred =>
      refine ⟨fun _ => by simp [phaseDue], fun covers => ?_⟩
      -- What is barred is barred under every registry that protects more.
      have closed : (walker.under env registry).goesInto task.item = false := by
        by_contra passes
        have passesToo := goesInto_of_covers covers (by simpa using passes)
        simp [goesInto, barred] at passesToo
      simp [phaseDue, due_eq, closed]
  | enter task metadata passed =>
      have passes : (walker.under env work.registry).goesInto task.item = true := by
        simp [goesInto, passed]
      refine ⟨fun covers => ?_, fun _ => ?_⟩
      · have own := goesInto_of_covers covers passes
        simp [phaseDue, due_eq, own]
      · simp only [phaseDue, due_eq]
        split <;> omega
  | unreadable task metadata closed =>
      simp [phaseDue, expand, closed, dueBelow]
  | marker task metadata entries read marked =>
      simp [phaseDue, expand, read, marked, dueBelow, sharedDue]
  | list task metadata entries listing read listed =>
      simp [phaseDue, expand, read, listed]
  | announce task metadata listing child pending item queues =>
      simp [phaseDue, queues, sharedDue]
  | leaveOut task metadata listing child pending notQueued =>
      simp [phaseDue, notQueued, sharedDue]
  | send task metadata listing child pending =>
      simp only [phaseDue, sharedDue, dueBelow, List.map_append, List.sum_append, List.map_cons,
        List.sum_cons, List.map_nil, List.sum_nil]
      omega
  | report task metadata listing =>
      simp [phaseDue, dueBelow, sharedDue]
  | finish task entered =>
      cases entered with
      | false => simp [phaseDue, sharedDue]
      | true =>
          simp only [phaseDue, sharedDue, if_true, List.countP_append, List.countP_singleton]
          cases test task
          · simp
          · simp
            omega
  | leave => exact ⟨fun _ => le_rfl, fun _ => le_rfl⟩
  | stay => exact ⟨fun _ => le_rfl, fun _ => le_rfl⟩

def account (walker : DirectoryWalker) (env : PathEnv) (registry : ProtectionRegistry)
    (test : WorkTask F → Bool) (state : ThreadedWalk F) : Nat :=
  sharedDue walker env registry test state.work
    + (state.threads.map (phaseDue walker env registry test)).sum

theorem step_account (registry : ProtectionRegistry) (test : WorkTask F → Bool)
    {state next : ThreadedWalk F} {move : WalkMove}
    (stepped : walker.step env state move = some next)
    : Covers env next.work.registry state.work.registry
      ∧ (Covers env state.work.registry registry →
        account walker env registry test next ≤ account walker env registry test state)
      ∧ (Covers env registry state.work.registry →
        account walker env registry test state ≤ account walker env registry test next) := by
  obtain ⟨phase, nextPhase, running, turn, threads⟩ := step_turn stepped
  have replaced := sum_map_set (phaseDue walker env registry test) nextPhase running
  obtain ⟨noMore, noLess⟩ := turn.account registry test
  refine ⟨turn.covers, fun covers => ?_, fun covers => ?_⟩
  · have bound := noMore covers
    unfold account
    rw [threads]
    omega
  · have bound := noLess covers
    unfold account
    rw [threads]
    omega

/-- Along a run the account never grows under a registry that protects no more than the first
one, by induction on the moves.
-/
theorem steps_account_le (registry : ProtectionRegistry) (test : WorkTask F → Bool)
    {first last : ThreadedWalk F} {moves : List WalkMove}
    (ran : walker.steps env first moves = some last)
    (covers : Covers env first.work.registry registry)
    : account walker env registry test last ≤ account walker env registry test first := by
  induction moves generalizing first with
  | nil =>
      cases ran
      exact le_rfl
  | cons move rest ih =>
      obtain ⟨next, stepped, later⟩ := Option.bind_eq_some_iff.mp ran
      obtain ⟨grows, noMore, -⟩ := step_account registry test stepped
      have further := ih later fun path guarded => grows path (covers path guarded)
      exact further.trans (noMore covers)

/-- It never shrinks under a registry that protects all that the last one does. -/
theorem le_steps_account (registry : ProtectionRegistry) (test : WorkTask F → Bool)
    {first last : ThreadedWalk F} {moves : List WalkMove}
    (ran : walker.steps env first moves = some last)
    (covers : Covers env registry last.work.registry)
    : Covers env registry first.work.registry
      ∧ account walker env registry test first ≤ account walker env registry test last := by
  induction moves generalizing first with
  | nil =>
      cases ran
      exact ⟨covers, le_rfl⟩
  | cons move rest ih =>
      obtain ⟨next, stepped, later⟩ := Option.bind_eq_some_iff.mp ran
      obtain ⟨grows, -, noLess⟩ := step_account registry test stepped
      obtain ⟨coversNext, further⟩ := ih later
      have coversFirst : Covers env registry first.work.registry :=
        fun path guarded => coversNext path (grows path guarded)
      exact ⟨coversFirst, (noLess coversFirst).trans further⟩

theorem phaseDue_of_not_processing {phase : WorkerPhase F} (idle : phase.isProcessing = false)
    : phaseDue walker env registry test phase = 0 := by
  cases phase <;> first | rfl | cases idle

/-- With nothing in flight, all that is accounted for is done. -/
theorem account_of_idle {state : ThreadedWalk F} (counted : Counted state)
    (idle : state.work.inFlight = 0)
    : account walker env registry test state = state.work.processed.countP test := by
  unfold Counted at counted
  have queue : state.work.queue = [] := List.length_eq_zero_iff.mp (by omega)
  have processing : state.processing = 0 := by omega
  have threads : (state.threads.map (phaseDue walker env registry test)).sum = 0 := by
    refine List.sum_eq_zero fun due member => ?_
    obtain ⟨phase, running, rfl⟩ := List.mem_map.mp member
    have quiet := List.countP_eq_zero.mp processing phase running
    exact phaseDue_of_not_processing (by simpa using quiet)
  rw [account, sharedDue, queue, threads]
  simp

/-- In a numbered list only one number counts, by induction on the list. -/
theorem sum_zipIdx_single {α : Type} {weight : α × Nat → Nat} {list : List α} {shift i : Nat}
    {held : α} (present : list[i]? = some held)
    (others : ∀ a j, j ≠ shift + i → weight (a, j) = 0)
    : ((list.zipIdx shift).map weight).sum = weight (held, shift + i) := by
  induction list generalizing shift i with
  | nil => cases present
  | cons first rest ih =>
      rw [List.zipIdx_cons, List.map_cons, List.sum_cons]
      cases i with
      | zero =>
          cases present
          have later : ((rest.zipIdx (shift + 1)).map weight).sum = 0 := by
            refine List.sum_eq_zero fun n member => ?_
            obtain ⟨⟨a, j⟩, numbered, rfl⟩ := List.mem_map.mp member
            have beyond := List.le_snd_of_mem_zipIdx numbered
            exact others a j (by omega)
          rw [later]
          rfl
      | succ i =>
          have next : ((rest.zipIdx (shift + 1)).map weight).sum
              = weight (held, shift + 1 + i) :=
            ih present fun a j apart => others a j (by omega)
          rw [others first shift (by omega), next, Nat.zero_add, Nat.add_right_comm,
            Nat.add_assoc]

end DirectoryWalker

end StorageBallast
