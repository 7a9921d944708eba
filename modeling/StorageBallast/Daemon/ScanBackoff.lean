import Mathlib.Data.List.Chain
import StorageBallast.Daemon.ScannerPass
import StorageBallast.Foundations.Runs

/-! The accounting for passes behind the cooldown of the scanner. It stands at the end of the
loop's body, so that a pass which leaves the body early is accounted for only by chance.
-/

namespace StorageBallast

variable {F : Type} [Float64 F]

namespace PassRecord

/-- A pass without progress is remembered with its end, and one with progress clears the
memory.
-/
def Accounted (record : PassRecord) : Prop :=
  (record.startedWalking = true → record.dispatched = 0 →
    record.pacing.lastEmptyPassAt = some record.ended)
  ∧ (0 < record.dispatched → record.pacing = .reset)

instance (record : PassRecord) : Decidable record.Accounted :=
  inferInstanceAs (Decidable (_ ∧ _))

def counts (record : PassRecord) : Bool :=
  record.startedWalking || decide (0 < record.dispatched)

def idle (record : PassRecord) : Bool :=
  record.routine && record.startedWalking && record.dispatched == 0

def Separated (later earlier : PassRecord) : Prop :=
  later.idle = true → earlier.idle = true →
    earlier.ended + later.minRescanInterval ≤ later.began

instance : DecidableRel Separated := fun later earlier => by
  unfold Separated
  infer_instance

end PassRecord

/-- All passes are accounted for, and no two idle ones follow each other too closely. -/
structure PacedScan.BacksOff (loop : PacedScan) : Prop where
  accounted : ∀ record ∈ loop.passes, record.Accounted
  separated : (loop.passes.filter PassRecord.counts).IsChain PassRecord.Separated

namespace ScannerPass

variable (pass : ScannerPass F)

def triesIndex : Bool := pass.consultsIndex && !pass.indexedCandidates.isEmpty

def indexHandsOver : Bool := pass.triesIndex && pass.executor 0 == .sent

/-- The pre-scan found something, and there is room for it. -/
def prescanHandsOver : Bool :=
  !pass.priorityCandidates.isEmpty && decide (0 < pass.request.maxDeleteBatch)
    && pass.executor (if pass.triesIndex then 1 else 0) == .sent

def handsOverBefore : EarlyExit → Bool
  | .indexedTargetReached | .protectionFailed => pass.indexHandsOver
  | .prescanTimedOut | .byteTargetReached | .walkerFailed =>
      pass.indexHandsOver || pass.prescanHandsOver

/-- A batch is never empty, so that sending it is progress. -/
theorem dispatched_pos_iff (progress : PassProgress F)
    : 0 < (pass.dispatchTopCandidates progress).1.dispatchedThisPass
      ↔ 0 < progress.dispatchedThisPass
        ∨ (progress.scored ≠ [] ∧ 0 < pass.request.maxDeleteBatch
          ∧ pass.executor progress.attempts = .sent) := by
  unfold dispatchTopCandidates
  by_cases none : progress.scored = []
  · simp [none]
  · by_cases zero : pass.request.maxDeleteBatch = 0
    · simp [none, zero]
    · have some : 0 < progress.scored.length := List.length_pos_iff.mpr none
      cases outcome : pass.executor progress.attempts
      · simp [none, zero, List.length_insertionSort]
        omega
      · simp [none, zero]
      · simp [none, zero]

theorem attempts_dispatchTopCandidates (progress : PassProgress F)
    : (pass.dispatchTopCandidates progress).1.attempts
      = progress.attempts
        + if progress.scored ≠ [] ∧ 0 < pass.request.maxDeleteBatch then 1 else 0 := by
  unfold dispatchTopCandidates
  by_cases none : progress.scored = []
  · simp [none]
  · by_cases zero : pass.request.maxDeleteBatch = 0
    · simp [none, zero]
    · have batch : 0 < pass.request.maxDeleteBatch := Nat.pos_of_ne_zero zero
      cases outcome : pass.executor progress.attempts <;> simp [none, zero, batch]

omit [Float64 F] in
theorem batch_of_consultsIndex {pass : ScannerPass F} (consults : pass.consultsIndex = true)
    : 0 < pass.request.maxDeleteBatch := by
  simp only [consultsIndex, Bool.and_eq_true, decide_eq_true_eq] at consults
  exact consults.2

/-- The index makes progress exactly if it hands something over. -/
theorem afterIndex_dispatched_pos_iff
    : 0 < pass.afterIndex.1.dispatchedThisPass ↔ pass.indexHandsOver = true := by
  unfold afterIndex indexHandsOver triesIndex
  by_cases consults : pass.consultsIndex = true
  · have batch := batch_of_consultsIndex consults
    simp [consults, dispatched_pos_iff, batch]
  · simp [consults]

theorem afterIndex_attempts
    : pass.afterIndex.1.attempts = if pass.triesIndex then 1 else 0 := by
  unfold afterIndex triesIndex
  by_cases consults : pass.consultsIndex = true
  · have batch := batch_of_consultsIndex consults
    simp [consults, attempts_dispatchTopCandidates, batch]
  · simp [consults]

theorem insertionSort_ne_nil (candidates : List (CandidacyScore F))
    : candidates.insertionSort scoresBefore ≠ [] ↔ candidates ≠ [] := by
  rw [← List.length_pos_iff, List.length_insertionSort, List.length_pos_iff]

/-- The pre-scan makes progress on top of the index's exactly if it hands something over. -/
theorem afterPrescan_dispatched_iff
    : 0 < pass.afterPrescan.1.dispatchedThisPass
      ↔ 0 < pass.afterIndex.1.dispatchedThisPass
        ∨ (pass.priorityCandidates ≠ [] ∧ 0 < pass.request.maxDeleteBatch
          ∧ pass.executor pass.afterIndex.1.attempts = .sent) := by
  unfold afterPrescan
  by_cases none : pass.priorityCandidates = []
  · simp [none]
  · by_cases zero : pass.request.maxDeleteBatch = 0
    · simp [zero]
    · have batch : 0 < pass.request.maxDeleteBatch := Nat.pos_of_ne_zero zero
      simp [none, zero, dispatched_pos_iff, insertionSort_ne_nil]

/-- Before the walk there is progress exactly if the index or the pre-scan hands something
over.
-/
theorem afterPrescan_dispatched_pos_iff
    : 0 < pass.afterPrescan.1.dispatchedThisPass
      ↔ (pass.indexHandsOver || pass.prescanHandsOver) = true := by
  rw [afterPrescan_dispatched_iff, afterIndex_dispatched_pos_iff, afterIndex_attempts]
  simp [prescanHandsOver, and_assoc]

/-- A pass that leaves early has made progress exactly if something was handed over before. -/
theorem dispatched_pos_of_early {pass : ScannerPass F} {exit : EarlyExit}
    (ends : pass.ending = .early exit)
    : 0 < pass.dispatchedThisPass ↔ pass.handsOverBefore exit = true := by
  unfold dispatchedThisPass handsOverBefore
  cases exit <;> simp only [ends]
  · exact pass.afterIndex_dispatched_pos_iff
  · exact pass.afterIndex_dispatched_pos_iff
  · exact pass.afterPrescan_dispatched_pos_iff
  · exact pass.afterPrescan_dispatched_pos_iff
  · exact pass.afterPrescan_dispatched_pos_iff

end ScannerPass

def EarlyExit.walks : EarlyExit → Bool
  | .indexedTargetReached | .protectionFailed => false
  | .prescanTimedOut | .byteTargetReached | .walkerFailed => true

namespace PacedScan

/-- A pass that leaves early has handed something over if it looked at its roots, and finds
nothing to clear if it handed something over.
-/
def StaysAccounted (loop : PacedScan) (input : PacedPass F) : Prop :=
  ∀ exit, loop.runsPass input = true → input.pass.ending = .early exit →
    (exit.walks = true → input.pass.handsOverBefore exit = true)
    ∧ (input.pass.handsOverBefore exit = true → loop.pacing = .reset)

/-- What the loop remembers lies in the past, and it remembers it since the last pass that
counts.
-/
structure Remembers (loop : PacedScan) : Prop where
  past : ∀ last, loop.pacing.lastEmptyPassAt = some last → last ≤ loop.now
  latest
    : ∀ record, (loop.passes.filter PassRecord.counts).head? = some record →
        loop.pacing = record.pacing ∧ record.ended ≤ loop.now

variable {loop : PacedScan} {input : PacedPass F}

omit [Float64 F] in
theorem now_lt_ended : loop.now < loop.ended input := by
  unfold ended began
  exact Nat.lt_succ_of_le (Nat.le_add_right_of_le (Nat.le_add_right _ _))

theorem startedWalking_of_early {pass : ScannerPass F} {exit : EarlyExit}
    (ends : pass.ending = .early exit)
    : pass.startedWalking = exit.walks := by
  unfold ScannerPass.startedWalking EarlyExit.walks
  cases exit <;> simp only [ends]

theorem accounted_of_completed (ends : input.pass.ending = .completed)
    : (loop.record input).Accounted := by
  unfold PassRecord.Accounted record pacingAfter
  simp only [ends, ScanPacing.afterPass]
  constructor
  · intro _ nothing
    simp [nothing]
  · intro something
    simp [Nat.ne_of_gt something]

/-- For a pass that leaves early, the memory of an earlier one has to do. -/
theorem accounted_of_early (remembers : loop.Remembers) {exit : EarlyExit}
    (ends : input.pass.ending = .early exit)
    : (loop.record input).Accounted
      ↔ (exit.walks = true → input.pass.handsOverBefore exit = true)
        ∧ (input.pass.handsOverBefore exit = true → loop.pacing = .reset) := by
  have handed := ScannerPass.dispatched_pos_of_early ends
  have walks := startedWalking_of_early ends
  have stale : loop.pacing.lastEmptyPassAt ≠ some (loop.ended input) := by
    intro remembered
    exact Nat.not_le_of_lt now_lt_ended (remembers.past _ remembered)
  have some : ¬ input.pass.dispatchedThisPass = 0 ↔ input.pass.handsOverBefore exit = true :=
    Nat.pos_iff_ne_zero.symm.trans handed
  simp only [PassRecord.Accounted, record, pacingAfter, ends, walks, handed, stale, imp_false,
    some]

/-- The record of a pass that counts carries what the loop remembers next. -/
theorem pacingAfter_of_not_counts (skipped : (loop.record input).counts = false)
    : loop.pacingAfter input = loop.pacing := by
  unfold pacingAfter
  cases ends : input.pass.ending with
  | noPaths | threadEnded | early => rfl
  | completed =>
      simp [PassRecord.counts, record, ScannerPass.startedWalking, ends] at skipped

theorem past_pacingAfter (remembers : loop.Remembers) {last : Instant}
    (remembered : (loop.pacingAfter input).lastEmptyPassAt = some last)
    : last ≤ loop.ended input := by
  unfold pacingAfter at remembered
  split at remembered
  · unfold ScanPacing.afterPass at remembered
    split at remembered
    · cases remembered
      exact Nat.le_refl _
    · cases remembered
  · exact Nat.le_trans (remembers.past last remembered) (Nat.le_of_lt now_lt_ended)

/-- Every step keeps the memory of the last pass that counts. -/
theorem remembers_step (remembers : loop.Remembers) : (loop.step input).Remembers := by
  have before : loop.now ≤ loop.ended input := Nat.le_of_lt now_lt_ended
  unfold step
  split
  · refine ⟨fun last => past_pacingAfter remembers, ?_⟩
    dsimp only
    split
    next ends =>
      have kept : loop.pacingAfter input = loop.pacing := by simp [pacingAfter, ends]
      intro record head
      obtain ⟨same, earlier⟩ := remembers.latest record head
      exact ⟨kept.trans same, Nat.le_trans earlier before⟩
    next =>
      intro record head
      cases counted : (loop.record input).counts with
      | true =>
          rw [List.filter_cons_of_pos counted, List.head?_cons, Option.some.injEq] at head
          subst head
          exact ⟨rfl, Nat.le_refl _⟩
      | false =>
          rw [List.filter_cons_of_neg (by simp [counted])] at head
          obtain ⟨same, earlier⟩ := remembers.latest record head
          exact ⟨(pacingAfter_of_not_counts counted).trans same, Nat.le_trans earlier before⟩
  · have waited : loop.now ≤ loop.began input := Nat.le_add_right _ _
    refine ⟨fun last remembered => Nat.le_trans (remembers.past last remembered) waited, ?_⟩
    intro record head
    obtain ⟨same, earlier⟩ := remembers.latest record head
    exact ⟨same, Nat.le_trans earlier waited⟩

theorem base_le_effectiveEmptyPassCooldown (baseSecs : UInt64) (consecutiveEmptyPasses : Nat)
    : Duration.fromSecs baseSecs.toNat
      ≤ effectiveEmptyPassCooldown baseSecs consecutiveEmptyPasses := by
  unfold effectiveEmptyPassCooldown
  split
  next zero => simp [zero, Duration.fromSecs]
  next =>
    have fits : baseSecs.toNat ≤ 2 ^ 64 - 1 := Nat.le_sub_one_of_lt baseSecs.toNat_lt
    have grows : baseSecs.toNat ≤ baseSecs.toNat * 2 ^ min (consecutiveEmptyPasses - 1) 5 :=
      Nat.le_mul_of_pos_right _ (Nat.two_pow_pos _)
    exact Nat.mul_le_mul_right _ (le_min grows fits)

omit [Float64 F] in
/-- A routine pass gets past the cooldown only once the interval is over. -/
theorem interval_le_of_routine {pacing : ScanPacing} {pass : ScannerPass F} {now last : Instant}
    (routine : pass.routine = true) (passes : pacing.holdsBack pass now = false)
    (remembered : pacing.lastEmptyPassAt = some last) (past : last ≤ now)
    : last + Duration.fromSecs pass.minRescanIntervalSecs.toNat ≤ now := by
  have base := base_le_effectiveEmptyPassCooldown pass.minRescanIntervalSecs
    pacing.consecutiveEmptyPasses
  simp only [ScannerPass.routine, Bool.and_eq_true, Bool.not_eq_true'] at routine
  obtain ⟨⟨⟨unforced, unchanged⟩, known⟩, belowRed⟩ := routine
  simp only [ScanPacing.holdsBack, emptyPassCooldownActive, unforced, unchanged, known, belowRed,
    remembered, Bool.not_true, Bool.or_self, Bool.false_eq_true, if_false, Option.any_some]
    at passes
  split at passes
  next zero =>
    have none : Duration.fromSecs pass.minRescanIntervalSecs.toNat = 0 :=
      Nat.le_zero.mp (zero ▸ base)
    rw [none]
    exact past
  next positive =>
    have waited := Nat.le_of_not_lt (of_decide_eq_false passes)
    rw [le_elapsed_iff (Nat.pos_of_ne_zero positive)] at waited
    exact Nat.le_trans (Nat.add_le_add_left base last) waited

/-- A pass keeps its distance from an idle one that is accounted for. -/
theorem separated_of_runsPass {earlier : PassRecord} (remembers : loop.Remembers)
    (latest : (loop.passes.filter PassRecord.counts).head? = some earlier)
    (accounted : earlier.Accounted) (runs : loop.runsPass input = true)
    : (loop.record input).Separated earlier := by
  intro idle idleBefore
  obtain ⟨same, past⟩ := remembers.latest earlier latest
  simp only [PassRecord.idle, Bool.and_eq_true, beq_iff_eq] at idle idleBefore
  have remembered : loop.pacing.lastEmptyPassAt = some earlier.ended := by
    rw [same]
    exact accounted.1 idleBefore.1.2 idleBefore.2
  simp only [runsPass, Bool.and_eq_true, Bool.not_eq_true'] at runs
  exact interval_le_of_routine idle.1.1 runs.2 remembered
    (Nat.le_trans past (Nat.le_add_right _ _))

theorem backsOff_cons_iff (remembers : loop.Remembers) (backsOff : loop.BacksOff)
    (runs : loop.runsPass input = true) {next : PacedScan}
    (passes : next.passes = loop.record input :: loop.passes)
    : next.BacksOff ↔ (loop.record input).Accounted := by
  constructor
  · intro holds
    exact holds.accounted _ (passes ▸ List.mem_cons_self)
  · intro accounted
    refine ⟨?_, ?_⟩
    · rw [passes]
      exact List.forall_mem_cons.mpr ⟨accounted, backsOff.accounted⟩
    · rw [passes]
      cases counted : (loop.record input).counts with
      | true =>
          rw [List.filter_cons_of_pos counted, List.isChain_cons]
          refine ⟨?_, backsOff.separated⟩
          intro earlier latest
          have member := List.mem_of_mem_filter (List.mem_of_mem_head? latest)
          exact separated_of_runsPass remembers latest (backsOff.accounted _ member) runs
      | false =>
          rw [List.filter_cons_of_neg (by simp [counted])]
          exact backsOff.separated

theorem backsOff_step_iff (remembers : loop.Remembers) (backsOff : loop.BacksOff)
    : (loop.step input).BacksOff ↔ loop.StaysAccounted input := by
  unfold StaysAccounted
  cases runs : loop.runsPass input with
  | false =>
      have same : (loop.step input).passes = loop.passes := by simp [step, runs]
      have kept : (loop.step input).BacksOff :=
        ⟨same ▸ backsOff.accounted, same ▸ backsOff.separated⟩
      simp [kept]
  | true =>
      cases ends : input.pass.ending with
      | threadEnded =>
          have same : (loop.step input).passes = loop.passes := by simp [step, runs, ends]
          have kept : (loop.step input).BacksOff :=
            ⟨same ▸ backsOff.accounted, same ▸ backsOff.separated⟩
          simp [kept]
      | noPaths =>
          have added : (loop.step input).passes = loop.record input :: loop.passes := by
            simp [step, runs, ends]
          rw [backsOff_cons_iff remembers backsOff runs added]
          simp [PassRecord.Accounted, record, ScannerPass.startedWalking,
            ScannerPass.dispatchedThisPass, ends]
      | early exit =>
          have added : (loop.step input).passes = loop.record input :: loop.passes := by
            simp [step, runs, ends]
          rw [backsOff_cons_iff remembers backsOff runs added,
            accounted_of_early remembers ends]
          simp
      | completed =>
          have added : (loop.step input).passes = loop.record input :: loop.passes := by
            simp [step, runs, ends]
          rw [backsOff_cons_iff remembers backsOff runs added]
          simp [accounted_of_completed ends]

theorem remembers_start : start.Remembers :=
  ⟨nofun, nofun⟩

theorem backsOff_start : start.BacksOff := by
  constructor
  · intro record none
    cases none
  · exact .nil

/-- The loop backs off throughout a run exactly if each pass stays accounted for. -/
theorem backsOff_iff (inputs : List (PacedPass F))
    : (∀ loop ∈ Runs.states step start inputs, loop.BacksOff)
      ↔ Runs.Guarded step StaysAccounted start inputs := by
  have remembers : ∀ loop ∈ Runs.states step start inputs, loop.Remembers :=
    Runs.invariant_of_kept (fun _ _ => remembers_step) remembers_start
  have sharp : ∀ (loop : PacedScan) (input : PacedPass F), loop.Remembers ∧ loop.BacksOff →
      ((loop.step input).Remembers ∧ (loop.step input).BacksOff
        ↔ loop.StaysAccounted input) := by
    intro loop input holds
    rw [← backsOff_step_iff holds.1 holds.2, and_iff_right (remembers_step holds.1)]
  rw [← Runs.invariant_iff_guarded sharp ⟨remembers_start, backsOff_start⟩]
  constructor
  · intro backsOff loop member
    exact ⟨remembers loop member, backsOff loop member⟩
  · intro both loop member
    exact (both loop member).2

def timedOutPass : PacedPass ℚ where
  waited := 0
  took := .fromSecs 60
  pass := {
    request := {
      paths := [⟨[⟨"data", .refl true⟩]⟩]
      pressureLevel := .yellow
      maxDeleteBatch := 10
      forceFullScan := false
      hasFreePct := true
      configUpdate := false
    }
    engine := .v1
    minRescanIntervalSecs := 90
    dirtyRoots := ∅
    indexedCandidates := []
    executor := fun _ => .sent
    protectionReady := true
    priorityCandidates := []
    prescanTimedOut := true
    prescanShutdown := false
    walk := none
  }

/-- A pre-scan without time or result is forgotten, and the next one follows on its heels. -/
theorem timedOut_prescan_forgotten
    : ¬ (∀ loop ∈ Runs.states step start [timedOutPass, timedOutPass],
          ∀ record ∈ loop.passes, record.Accounted)
      ∧ ¬ (∀ loop ∈ Runs.states step start [timedOutPass, timedOutPass],
          (loop.passes.filter PassRecord.counts).IsChain PassRecord.Separated) := by
  decide

end PacedScan

end StorageBallast
