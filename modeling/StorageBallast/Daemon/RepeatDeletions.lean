import StorageBallast.Foundations.Floats
import StorageBallast.Foundations.Runs
import StorageBallast.Monitor.Diagnostics
import StorageBallast.Scanner.Candidates

/-! Dampening of repeated deletions: a path that keeps coming back is left alone for a while
that doubles with each deletion, as long as the disk allows it.
-/

namespace StorageBallast

open scoped Float64

structure DeletionRecord where
  lastDeleted : Instant
  cycleCount : Nat
deriving DecidableEq, Repr

structure Cooldowns where
  base : Duration
  max : Duration
  base_le : base ≤ max
  max_le : max ≤ Duration.max

/-- The records by path; two paths with the same components are one key. -/
structure RepeatDeletionTracker where
  history : List Component → Option DeletionRecord

/-- `1u64.checked_shl`. -/
def checkedShlOne (places : Nat) : Option Nat :=
  if places < 64 then some (2 ^ places) else none

def saturatingSucc (count : Nat) : Nat := min (count + 1) (2 ^ 32 - 1)

namespace RepeatDeletionTracker

def new : RepeatDeletionTracker := ⟨fun _ => none⟩

def cooldownOf (cooldowns : Cooldowns) (cycleCount : Nat) : Duration :=
  let multiplier := (checkedShlOne (cycleCount - 1)).getD (2 ^ 64 - 1)
  let cooldown := Duration.saturatingMul cooldowns.base
    (if multiplier < 2 ^ 32 then multiplier else 2 ^ 32 - 1)
  min cooldown cooldowns.max

/-- Remaining cooldown for a path, or `none` if no cooldown applies. -/
def cooldownFor (cooldowns : Cooldowns) (self : RepeatDeletionTracker) (now : Instant)
    (path : PathBuf) : Option Duration :=
  match self.history path.components with
  | none => none
  | some record =>
      if record.cycleCount = 0 then none
      else
        let cooldown := cooldownOf cooldowns record.cycleCount
        let passed := elapsed now record.lastDeleted
        if cooldown ≤ passed then none else some (cooldown - passed)

def recordDeletion (self : RepeatDeletionTracker) (now : Instant) (path : PathBuf)
    : RepeatDeletionTracker where
  history := Function.update self.history path.components
    (some ⟨now, saturatingSucc (((self.history path.components).map (·.cycleCount)).getD 0)⟩)

def recordDeletions (self : RepeatDeletionTracker) (now : Instant) (paths : List PathBuf)
    : RepeatDeletionTracker :=
  paths.foldl (·.recordDeletion now) self

def bypasses {F : Type} [Float64 F] (pressure : PressureLevel) (urgency : F) : Bool :=
  pressure.atLeast .red || Float64.ge urgency (0.85 : F)

def filterCandidates {F : Type} [Float64 F] (cooldowns : Cooldowns)
    (self : RepeatDeletionTracker) (now : Instant) (candidates : List (CandidacyScore F))
    (pressure : PressureLevel) (urgency : F)
    : List (CandidacyScore F) × List (CandidacyScore F) :=
  if bypasses pressure urgency then (candidates, [])
  else candidates.partition fun candidate =>
    (self.cooldownFor cooldowns now candidate.path).isNone

def pruneExpired (cooldowns : Cooldowns) (self : RepeatDeletionTracker) (now : Instant)
    : RepeatDeletionTracker where
  history key := (self.history key).filter fun record =>
    elapsed now record.lastDeleted < cooldowns.max

end RepeatDeletionTracker

inductive TrackerEvent where
  | recorded (now : Instant) (paths : List PathBuf)
  | pruned (now : Instant)
deriving DecidableEq, Repr

def TrackerEvent.Records (path : PathBuf) : TrackerEvent → Prop
  | .recorded _ paths => 0 < paths.countP path.sameAs
  | .pruned _ => False

namespace RepeatDeletionTracker

def step (cooldowns : Cooldowns) (self : RepeatDeletionTracker)
    : TrackerEvent → RepeatDeletionTracker
  | .recorded now paths => self.recordDeletions now paths
  | .pruned now => self.pruneExpired cooldowns now

end RepeatDeletionTracker

structure PathDeletions where
  times : Nat
  last : Instant
deriving DecidableEq, Repr

namespace PathDeletions

def after (cooldowns : Cooldowns) (path : PathBuf) (past : Option PathDeletions)
    : TrackerEvent → Option PathDeletions
  | .recorded now paths =>
      let here := paths.countP path.sameAs
      if here = 0 then past else some ⟨(past.map (·.times)).getD 0 + here, now⟩
  | .pruned now => past.filter fun deletions => elapsed now deletions.last < cooldowns.max

def ofRun (cooldowns : Cooldowns) (path : PathBuf) (run : List TrackerEvent)
    : Option PathDeletions :=
  Runs.final (after cooldowns path) none run

def toRecord (self : PathDeletions) : DeletionRecord := ⟨self.last, min self.times (2 ^ 32 - 1)⟩

end PathDeletions

/-- Deletions of a path move its counter by their number, by induction on the paths. -/
theorem RepeatDeletionTracker.recordDeletions_history (self : RepeatDeletionTracker)
    (now : Instant) (paths : List PathBuf) (path : PathBuf)
    : (self.recordDeletions now paths).history path.components
      = if paths.countP path.sameAs = 0 then self.history path.components
        else some ⟨now, min (((self.history path.components).map (·.cycleCount)).getD 0
          + paths.countP path.sameAs) (2 ^ 32 - 1)⟩ := by
  induction paths generalizing self with
  | nil => rfl
  | cons first rest ih =>
      rw [recordDeletions, List.foldl_cons, ← recordDeletions, ih, List.countP_cons]
      by_cases here : path.components = first.components
      · have same : path.sameAs first = true := by simpa [PathBuf.sameAs] using here
        have noted : (self.recordDeletion now first).history path.components
            = some ⟨now, saturatingSucc
              (((self.history path.components).map (·.cycleCount)).getD 0)⟩ := by
          simp [recordDeletion, here]
        rw [noted, if_pos same, if_neg (Nat.succ_ne_zero _)]
        split
        next none =>
          rw [none]
          rfl
        next =>
          simp only [Option.map_some, Option.getD_some, saturatingSucc]
          refine congrArg some (congrArg (DeletionRecord.mk now) ?_)
          omega
      · have apart : ¬ path.sameAs first = true := by simpa [PathBuf.sameAs] using here
        have kept : (self.recordDeletion now first).history path.components
            = self.history path.components := Function.update_of_ne here _ _
        rw [kept, if_neg apart, Nat.add_zero]

/-- The tracker's record of a path stands for the path's deletions in the run. -/
theorem history_of_run (cooldowns : Cooldowns) (path : PathBuf) (run : List TrackerEvent)
    : (Runs.final (RepeatDeletionTracker.step cooldowns) .new run).history path.components
      = (PathDeletions.ofRun cooldowns path run).map PathDeletions.toRecord := by
  induction run using List.reverseRecOn with
  | nil => rfl
  | append_singleton past event ih =>
      unfold PathDeletions.ofRun at ih ⊢
      rw [Runs.final_append, Runs.final_append, Runs.final_cons, Runs.final_cons, Runs.final_nil,
        Runs.final_nil]
      cases event with
      | recorded now paths =>
          rw [RepeatDeletionTracker.step, RepeatDeletionTracker.recordDeletions_history, ih,
            PathDeletions.after]
          cases Runs.final (PathDeletions.after cooldowns path) none past with
          | none => split <;> simp [PathDeletions.toRecord]
          | some deletions =>
              split
              next => rfl
              next =>
                simp only [Option.map_some, Option.getD_some, PathDeletions.toRecord]
                refine congrArg some (congrArg (DeletionRecord.mk now) ?_)
                omega
      | pruned now =>
          simp only [RepeatDeletionTracker.step, RepeatDeletionTracker.pruneExpired, ih,
            PathDeletions.after, Option.filter_map]
          rfl

theorem times_pos {cooldowns : Cooldowns} {path : PathBuf} {run : List TrackerEvent}
    {deletions : PathDeletions}
    (remembered : PathDeletions.ofRun cooldowns path run = some deletions)
    : 0 < deletions.times := by
  induction run using List.reverseRecOn generalizing deletions with
  | nil => cases remembered
  | append_singleton past event ih =>
      unfold PathDeletions.ofRun at ih remembered
      rw [Runs.final_append, Runs.final_cons, Runs.final_nil] at remembered
      cases event with
      | recorded now paths =>
          unfold PathDeletions.after at remembered
          dsimp only at remembered
          split at remembered
          next => exact ih remembered
          next here =>
            obtain rfl := Option.some.inj remembered
            exact Nat.add_pos_right _ (Nat.pos_of_ne_zero here)
      | pruned now => exact ih (Option.filter_eq_some_iff.mp remembered).1

def requiredCooldown (cooldowns : Cooldowns) (times : Nat) : Duration :=
  min (cooldowns.base * 2 ^ (times - 1)) cooldowns.max

def FactorSuffices (cooldowns : Cooldowns) (times : Nat) : Prop :=
  times ≤ 32 ∨ cooldowns.base = 0 ∨ cooldowns.max ≤ cooldowns.base * (2 ^ 32 - 1)

theorem factor_eq (places : Nat)
    : (if (checkedShlOne places).getD (2 ^ 64 - 1) < 2 ^ 32
        then (checkedShlOne places).getD (2 ^ 64 - 1) else 2 ^ 32 - 1)
      = min (2 ^ places) (2 ^ 32 - 1) := by
  unfold checkedShlOne
  split
  next =>
    rw [Option.getD_some]
    split <;> omega
  next far =>
    have large : 2 ^ 32 ≤ 2 ^ places := Nat.pow_le_pow_right (by decide) (by omega)
    rw [Option.getD_none, if_neg (by decide)]
    omega

theorem cooldownOf_eq (cooldowns : Cooldowns) (cycleCount : Nat)
    : RepeatDeletionTracker.cooldownOf cooldowns cycleCount
      = min (cooldowns.base * min (2 ^ (cycleCount - 1)) (2 ^ 32 - 1)) cooldowns.max := by
  unfold RepeatDeletionTracker.cooldownOf Duration.saturatingMul
  dsimp only
  rw [factor_eq, min_assoc, min_eq_right cooldowns.max_le]

/-- The tracker's cooldown is as long as required exactly when its factor suffices. -/
theorem requiredCooldown_le_iff (cooldowns : Cooldowns) (times : Nat)
    : requiredCooldown cooldowns times
        ≤ RepeatDeletionTracker.cooldownOf cooldowns (min times (2 ^ 32 - 1))
      ↔ FactorSuffices cooldowns times := by
  unfold requiredCooldown FactorSuffices
  rw [cooldownOf_eq]
  by_cases few : times ≤ 32
  · have small : 2 ^ (times - 1) ≤ 2 ^ 31 := Nat.pow_le_pow_right (by decide) (by omega)
    have counted : min times (2 ^ 32 - 1) = times := by omega
    have factor : min (2 ^ (times - 1)) (2 ^ 32 - 1) = 2 ^ (times - 1) := by omega
    rw [counted, factor]
    exact iff_of_true le_rfl (.inl few)
  · have large : 2 ^ 32 ≤ 2 ^ (times - 1) := Nat.pow_le_pow_right (by decide) (by omega)
    have largeCount : 2 ^ 32 ≤ 2 ^ (min times (2 ^ 32 - 1) - 1) :=
      Nat.pow_le_pow_right (by decide) (by omega)
    have factor : min (2 ^ (min times (2 ^ 32 - 1) - 1)) (2 ^ 32 - 1) = 2 ^ 32 - 1 := by omega
    rw [factor, le_min_iff, or_iff_right few, min_le_iff]
    simp only [min_le_right, and_true]
    refine or_congr ⟨fun fits => ?_, fun zero => by simp [zero]⟩ Iff.rfl
    by_contra positive
    have longer := Nat.mul_lt_mul_of_pos_left (show 2 ^ 32 - 1 < 2 ^ (times - 1) by omega)
      (Nat.pos_of_ne_zero positive)
    exact absurd fits (Nat.not_le.mpr longer)

section Filtering

variable {F : Type} [Float64 F] (cooldowns : Cooldowns) {tracker : RepeatDeletionTracker}
variable {path : PathBuf}

/-- A path with deletions is approved without pressure exactly when the cooldown has passed. -/
theorem cooldownFor_eq_none_iff {deletions : PathDeletions} (positive : 0 < deletions.times)
    (found : tracker.history path.components = some deletions.toRecord) (now : Instant)
    : tracker.cooldownFor cooldowns now path = none
      ↔ RepeatDeletionTracker.cooldownOf cooldowns (min deletions.times (2 ^ 32 - 1))
        ≤ elapsed now deletions.last := by
  have counted : ¬ min deletions.times (2 ^ 32 - 1) = 0 := by omega
  simp only [RepeatDeletionTracker.cooldownFor, found, PathDeletions.toRecord, counted,
    if_false]
  split
  next passed => exact iff_of_true rfl passed
  next early => exact iff_of_false (by simp) early

/-- A filter approves and dampens by one test of each candidate. -/
theorem filterCandidates_eq (tracker : RepeatDeletionTracker) (now : Instant)
    (candidates : List (CandidacyScore F)) (pressure : PressureLevel) (urgency : F)
    : tracker.filterCandidates cooldowns now candidates pressure urgency
      = (candidates.filter fun candidate => RepeatDeletionTracker.bypasses pressure urgency
            || (tracker.cooldownFor cooldowns now candidate.path).isNone,
        candidates.filter fun candidate => !(RepeatDeletionTracker.bypasses pressure urgency
            || (tracker.cooldownFor cooldowns now candidate.path).isNone)) := by
  unfold RepeatDeletionTracker.filterCandidates
  cases RepeatDeletionTracker.bypasses pressure urgency with
  | true => simp
  | false =>
      simp only [Bool.false_eq_true, if_false, Bool.false_or]
      rw [List.partition_eq_filter_filter]
      rfl

omit [Float64 F] in
/-- A record that is as old as the longest cooldown holds nothing back. -/
theorem cooldownFor_of_spent {now : Instant}
    (spent : ∀ record, tracker.history path.components = some record →
      cooldowns.max ≤ elapsed now record.lastDeleted)
    : tracker.cooldownFor cooldowns now path = none := by
  unfold RepeatDeletionTracker.cooldownFor
  cases found : tracker.history path.components with
  | none => rfl
  | some record =>
      have capped : RepeatDeletionTracker.cooldownOf cooldowns record.cycleCount
          ≤ cooldowns.max := min_le_right _ _
      dsimp only
      split
      · rfl
      · rw [if_pos (capped.trans (spent record found))]

/-- What is known of a path in two runs that differ by a pruning: the same, or nothing that
holds it back any more.
-/
def SameOrSpent (now : Instant) (path : PathBuf) (pruned kept : RepeatDeletionTracker) : Prop :=
  pruned.history path.components = kept.history path.components
  ∨ ∀ tracker ∈ [pruned, kept], ∀ record, tracker.history path.components = some record →
    cooldowns.max ≤ elapsed now record.lastDeleted

omit [Float64 F] in
/-- An event that does not record a path can at most make the tracker forget it. -/
theorem step_history_of_not_records {event : TrackerEvent}
    (elsewhere : ¬ event.Records path) {record : DeletionRecord}
    (found : (tracker.step cooldowns event).history path.components = some record)
    : tracker.history path.components = some record := by
  cases event with
  | recorded now paths =>
      rw [RepeatDeletionTracker.step, RepeatDeletionTracker.recordDeletions_history,
        if_pos (Nat.eq_zero_of_not_pos elsewhere)] at found
      exact found
  | pruned now => exact (Option.filter_eq_some_iff.mp found).1

omit [Float64 F] in
/-- What an event makes of a path depends on nothing else that is known. -/
theorem step_history_congr {pruned kept : RepeatDeletionTracker}
    (same : pruned.history path.components = kept.history path.components) (event : TrackerEvent)
    : (pruned.step cooldowns event).history path.components
      = (kept.step cooldowns event).history path.components := by
  cases event with
  | recorded now paths =>
      rw [RepeatDeletionTracker.step, RepeatDeletionTracker.step,
        RepeatDeletionTracker.recordDeletions_history,
        RepeatDeletionTracker.recordDeletions_history, same]
  | pruned now =>
      simp only [RepeatDeletionTracker.step, RepeatDeletionTracker.pruneExpired, same]

omit [Float64 F] in
/-- Two runs stay alike for a path until one of them is told of another deletion of it, by
induction on the events.
-/
theorem sameOrSpent_final {now : Instant} {later : List TrackerEvent}
    {pruned kept : RepeatDeletionTracker} (alike : SameOrSpent cooldowns now path pruned kept)
    (unrecorded : pruned.history path.components ≠ kept.history path.components →
      ∀ event ∈ later, ¬ event.Records path)
    : SameOrSpent cooldowns now path
        (Runs.final (RepeatDeletionTracker.step cooldowns) pruned later)
        (Runs.final (RepeatDeletionTracker.step cooldowns) kept later) := by
  induction later generalizing pruned kept with
  | nil => exact alike
  | cons event rest ih =>
      by_cases same : pruned.history path.components = kept.history path.components
      · have stepped := step_history_congr cooldowns same event
        exact ih (.inl stepped) fun differs => absurd stepped differs
      · have elsewhere := unrecorded same event List.mem_cons_self
        have spent := alike.resolve_left same
        refine ih (.inr ?_) fun _ other member =>
          unrecorded same other (List.mem_cons_of_mem _ member)
        intro tracker member record found
        simp only [List.mem_cons, List.not_mem_nil, or_false] at member
        rcases member with rfl | rfl
        · exact spent pruned (by simp) record
            (step_history_of_not_records cooldowns elsewhere found)
        · exact spent kept (by simp) record
            (step_history_of_not_records cooldowns elsewhere found)

/-- A pruning goes unnoticed by the filters after it, for every path that is not recorded
before them or that it did not touch.
-/
theorem filterCandidates_after_prune (tracker : RepeatDeletionTracker) {pruneTime now : Instant}
    (ordered : pruneTime ≤ now) (later : List TrackerEvent)
    {candidates : List (CandidacyScore F)}
    (unrecorded : ∀ candidate ∈ candidates,
      (tracker.pruneExpired cooldowns pruneTime).history candidate.path.components
        ≠ tracker.history candidate.path.components →
      ∀ event ∈ later, ¬ event.Records candidate.path)
    (pressure : PressureLevel) (urgency : F)
    : (Runs.final (RepeatDeletionTracker.step cooldowns)
          (tracker.pruneExpired cooldowns pruneTime) later).filterCandidates cooldowns now
          candidates pressure urgency
      = (Runs.final (RepeatDeletionTracker.step cooldowns) tracker later).filterCandidates
          cooldowns now candidates pressure urgency := by
  have sameTest : ∀ candidate ∈ candidates,
      ((Runs.final (RepeatDeletionTracker.step cooldowns)
          (tracker.pruneExpired cooldowns pruneTime) later).cooldownFor cooldowns now
          candidate.path).isNone
        = ((Runs.final (RepeatDeletionTracker.step cooldowns) tracker later).cooldownFor
          cooldowns now candidate.path).isNone := by
    intro candidate member
    have alike : SameOrSpent cooldowns now candidate.path
        (tracker.pruneExpired cooldowns pruneTime) tracker := by
      simp only [SameOrSpent, RepeatDeletionTracker.pruneExpired]
      cases found : tracker.history candidate.path.components with
      | none => exact .inl rfl
      | some record =>
          by_cases fresh : elapsed pruneTime record.lastDeleted < cooldowns.max
          · exact .inl (by simp [fresh])
          · refine .inr ?_
            have old : cooldowns.max ≤ elapsed now record.lastDeleted :=
              (Nat.not_lt.mp fresh).trans (Nat.sub_le_sub_right ordered _)
            simp [found, fresh, old]
    rcases sameOrSpent_final cooldowns alike (unrecorded candidate member) with same | spent
    · unfold RepeatDeletionTracker.cooldownFor
      rw [same]
    · rw [cooldownFor_of_spent cooldowns (spent _ (by simp)),
        cooldownFor_of_spent cooldowns (spent _ (by simp))]
  rw [filterCandidates_eq, filterCandidates_eq]
  refine Prod.ext (List.filter_congr fun candidate member => ?_)
    (List.filter_congr fun candidate member => ?_)
  · rw [sameTest candidate member]
  · rw [sameTest candidate member]

/-- After every run, a path is let through too early without pressure exactly when the factor
of its cooldown saturated below what is required; a filter splits the candidates in order;
and a pruning is not noticed before the next deletion of what it made the tracker forget.
-/
theorem repeatDeletions_dampened_iff (run : List TrackerEvent)
    : (∀ (candidate : CandidacyScore F) (deletions : PathDeletions),
          PathDeletions.ofRun cooldowns candidate.path run = some deletions →
          ∀ (pressure : PressureLevel) (urgency : F),
          RepeatDeletionTracker.bypasses pressure urgency = false →
          ((∀ (now : Instant) (candidates : List (CandidacyScore F)),
              candidate ∈ ((Runs.final (RepeatDeletionTracker.step cooldowns) .new
                run).filterCandidates cooldowns now candidates pressure urgency).1 →
              requiredCooldown cooldowns deletions.times ≤ elapsed now deletions.last)
            ↔ FactorSuffices cooldowns deletions.times))
      ∧ (∀ (now : Instant) (candidates : List (CandidacyScore F)) (pressure : PressureLevel)
          (urgency : F), ∃ approves : CandidacyScore F → Bool,
          (Runs.final (RepeatDeletionTracker.step cooldowns) .new run).filterCandidates
              cooldowns now candidates pressure urgency
            = (candidates.filter approves, candidates.filter fun candidate =>
                !approves candidate))
      ∧ ∀ (pruneTime now : Instant), pruneTime ≤ now → ∀ (later : List TrackerEvent)
          (candidates : List (CandidacyScore F)),
          (∀ candidate ∈ candidates,
            (Runs.final (RepeatDeletionTracker.step cooldowns) .new
                (run ++ [.pruned pruneTime])).history candidate.path.components
              ≠ (Runs.final (RepeatDeletionTracker.step cooldowns) .new run).history
                candidate.path.components →
            ∀ event ∈ later, ¬ event.Records candidate.path) →
          ∀ (pressure : PressureLevel) (urgency : F),
          (Runs.final (RepeatDeletionTracker.step cooldowns) .new
              (run ++ .pruned pruneTime :: later)).filterCandidates cooldowns now candidates
              pressure urgency
            = (Runs.final (RepeatDeletionTracker.step cooldowns) .new
              (run ++ later)).filterCandidates cooldowns now candidates pressure urgency := by
  refine ⟨fun candidate deletions remembered pressure urgency calm => ?_,
    fun now candidates pressure urgency => ⟨_, filterCandidates_eq ..⟩,
    fun pruneTime now ordered later candidates unrecorded pressure urgency => ?_⟩
  · have found := history_of_run cooldowns candidate.path run
    rw [remembered, Option.map_some] at found
    have approved (now : Instant) (candidates : List (CandidacyScore F))
        : candidate ∈ ((Runs.final (RepeatDeletionTracker.step cooldowns) .new
            run).filterCandidates cooldowns now candidates pressure urgency).1
          ↔ candidate ∈ candidates ∧ RepeatDeletionTracker.cooldownOf cooldowns
            (min deletions.times (2 ^ 32 - 1)) ≤ elapsed now deletions.last := by
      rw [filterCandidates_eq, calm, List.mem_filter, Bool.false_or, Option.isNone_iff_eq_none,
        cooldownFor_eq_none_iff cooldowns (times_pos remembered) found]
    simp only [approved]
    rw [← requiredCooldown_le_iff]
    constructor
    · intro early
      -- the moment when the tracker's cooldown has just passed
      have passed := early (deletions.last + RepeatDeletionTracker.cooldownOf cooldowns
        (min deletions.times (2 ^ 32 - 1))) [candidate] ⟨List.mem_singleton_self _, by
          simp [elapsed]⟩
      simpa [elapsed] using passed
    · intro long now candidates passed
      exact long.trans passed.2
  · rw [Runs.final_append, Runs.final_append, Runs.final_cons]
    refine filterCandidates_after_prune cooldowns _ ordered later ?_ pressure urgency
    intro candidate member differs
    refine unrecorded candidate member ?_
    rw [Runs.final_append]
    exact differs

end Filtering

/-- One second at first, and more than 270 years at most. -/
def longCooldowns : Cooldowns :=
  ⟨Duration.fromSecs 1, Duration.fromSecs (2 ^ 33), by decide, by decide⟩

/-- One path is deleted 33 times at once, as under red pressure. -/
def rapidRun : List TrackerEvent :=
  List.replicate 33 (.recorded 0 [(sampleCandidate .delete).path])

/-- The path is let through after 2^32 - 1 seconds, one second too early. -/
theorem churn_approved_early
    : sampleCandidate .delete
        ∈ ((Runs.final (RepeatDeletionTracker.step longCooldowns) .new rapidRun).filterCandidates
          longCooldowns (Duration.fromSecs (2 ^ 32 - 1)) [sampleCandidate .delete] .orange
          (0 : ℚ)).1
      ∧ PathDeletions.ofRun longCooldowns (sampleCandidate .delete).path rapidRun = some ⟨33, 0⟩
      ∧ elapsed (Duration.fromSecs (2 ^ 32 - 1)) 0 < requiredCooldown longCooldowns 33 := by
  have remembered : PathDeletions.ofRun longCooldowns (sampleCandidate .delete).path rapidRun
      = some ⟨33, 0⟩ := by decide +kernel
  have found := history_of_run longCooldowns (sampleCandidate .delete).path rapidRun
  rw [remembered, Option.map_some] at found
  refine ⟨?_, remembered, by decide⟩
  rw [filterCandidates_eq, List.mem_filter, Bool.or_eq_true, Option.isNone_iff_eq_none,
    cooldownFor_eq_none_iff longCooldowns (by decide) found]
  exact ⟨List.mem_singleton_self _, .inr (by decide)⟩

end StorageBallast
