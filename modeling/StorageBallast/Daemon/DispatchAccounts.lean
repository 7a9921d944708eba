import StorageBallast.Daemon.ScannerPass
import StorageBallast.Foundations.FloatRounding
import StorageBallast.Foundations.Sorting

/-! Where the candidates of a pass are. A call hands the best of them to the executor, or finds no
room and takes them back behind the others, so over any number of calls none is lost and none
is handed over twice.
-/

namespace StorageBallast

open scoped Float64

variable {F : Type} [Float64 F]

structure ScoresComparable (candidates : List (CandidacyScore F)) : Prop where
  asymm : ∀ a ∈ candidates, ∀ b ∈ candidates,
    Float64.lt a.totalScore b.totalScore = true → Float64.lt b.totalScore a.totalScore = false
  le_iff : ∀ a ∈ candidates, ∀ b ∈ candidates,
    Float64.le a.totalScore b.totalScore = true ↔ Float64.lt b.totalScore a.totalScore = false
  le_trans : ∀ a ∈ candidates, ∀ b ∈ candidates, ∀ c ∈ candidates,
    Float64.le a.totalScore b.totalScore = true → Float64.le b.totalScore c.totalScore = true →
      Float64.le a.totalScore c.totalScore = true

namespace ScoresComparable

variable {candidates other : List (CandidacyScore F)}

theorem of_subset (comparable : ScoresComparable candidates) (part : other ⊆ candidates)
    : ScoresComparable other where
  asymm a found b present := comparable.asymm a (part found) b (part present)
  le_iff a found b present := comparable.le_iff a (part found) b (part present)
  le_trans a found b present c remaining :=
    comparable.le_trans a (part found) b (part present) c (part remaining)

/-- The order of a plan is the order of the scores, the best first. -/
theorem scoresBefore_iff (comparable : ScoresComparable candidates) {left right : CandidacyScore F}
    (found : left ∈ candidates) (present : right ∈ candidates)
    : scoresBefore left right ↔ Float64.le right.totalScore left.totalScore = true := by
  rw [comparable.le_iff right present left found]
  unfold scoresBefore Float64.partialCmp Float64.gt
  split
  · rename_i below
    rw [comparable.asymm right present left found below]
    simp
  · split
    · rename_i above
      rw [above]
      simp
    · rename_i notAbove
      rw [Bool.not_eq_true] at notAbove
      rw [notAbove, if_pos ((comparable.le_iff right present left found).mpr notAbove)]
      simp

theorem pairwise_sorted (comparable : ScoresComparable candidates)
    : (candidates.insertionSort scoresBefore).Pairwise fun first second =>
        Float64.le second.totalScore first.totalScore = true := by
  have sorted : (candidates.insertionSort scoresBefore).Pairwise scoresBefore := by
    apply Sorting.pairwise_insertionSort_of_mem
    · intro a found b present
      rw [comparable.scoresBefore_iff found present, comparable.scoresBefore_iff present found,
        comparable.le_iff b present a found]
      cases above : Float64.lt a.totalScore b.totalScore with
      | false => exact Or.inl rfl
      | true =>
          exact Or.inr ((comparable.le_iff a found b present).mpr
            (comparable.asymm a found b present above))
    · intro a found b present c remaining
      rw [comparable.scoresBefore_iff found present, comparable.scoresBefore_iff present remaining,
        comparable.scoresBefore_iff found remaining]
      exact fun first second =>
        comparable.le_trans c remaining b present a found second first
  refine sorted.imp_of_mem fun {first second} found present before => ?_
  rw [List.mem_insertionSort] at found present
  exact (comparable.scoresBefore_iff found present).mp before

end ScoresComparable

/-- A batch that the executor took, and the candidates left pending at that moment. -/
structure Handover (F : Type) where
  batch : List (CandidacyScore F)
  pending : List (CandidacyScore F)

namespace ScannerPass

variable (pass : ScannerPass F)

def handover (progress : PassProgress F) : Option (Handover F) :=
  if progress.scored.isEmpty || pass.request.maxDeleteBatch = 0 then none
  else if pass.executor progress.attempts = .sent then
    some {
      batch := (progress.scored.insertionSort scoresBefore).take pass.request.maxDeleteBatch
      pending := (pass.dispatchTopCandidates progress).1.scored }
  else none

def calls : Nat → PassProgress F → PassProgress F × List (Handover F)
  | 0, progress => (progress, [])
  | count + 1, progress =>
      let rest := calls count (pass.dispatchTopCandidates progress).1
      (rest.1, (pass.handover progress).toList ++ rest.2)

variable {pass}

/-- What a call does to candidates while the executor is there. -/
inductive Dispatched (pass : ScannerPass F) (progress : PassProgress F) : Prop where
  /-- There is nothing to hand over. -/
  | idle (empty : progress.scored = []) (none : pass.handover progress = none)
      (same : pass.dispatchTopCandidates progress = (progress, true))
  | deferred (full : pass.executor progress.attempts = .full)
      (none : pass.handover progress = none)
      (back : pass.dispatchTopCandidates progress
        = ({ progress with
              scored := (progress.scored.insertionSort scoresBefore).drop
                  pass.request.maxDeleteBatch
                ++ (progress.scored.insertionSort scoresBefore).take pass.request.maxDeleteBatch
              attempts := progress.attempts + 1 }, true))
  | handed (present : progress.scored ≠ [])
      (taken : pass.handover progress
        = some ⟨(progress.scored.insertionSort scoresBefore).take pass.request.maxDeleteBatch,
            (progress.scored.insertionSort scoresBefore).drop pass.request.maxDeleteBatch⟩)
      (rest : pass.dispatchTopCandidates progress
        = ({ progress with
              scored := (progress.scored.insertionSort scoresBefore).drop
                pass.request.maxDeleteBatch
              attempts := progress.attempts + 1
              dispatchedThisPass := progress.dispatchedThisPass
                + ((progress.scored.insertionSort scoresBefore).take
                  pass.request.maxDeleteBatch).length }, true))

theorem dispatched (batch : 1 ≤ pass.request.maxDeleteBatch) (progress : PassProgress F)
    (connected : pass.executor progress.attempts ≠ .disconnected)
    : Dispatched pass progress := by
  have some_ : pass.request.maxDeleteBatch ≠ 0 := Nat.one_le_iff_ne_zero.mp batch
  cases scored : progress.scored with
  | nil =>
      refine .idle scored ?_ ?_
      · simp [handover, scored]
      · simp [dispatchTopCandidates, scored]
  | cons first rest =>
      have present : progress.scored.isEmpty = false := by rw [scored]; rfl
      cases outcome : pass.executor progress.attempts with
      | sent =>
          refine .handed (by simp [scored]) ?_ ?_
          · simp [handover, dispatchTopCandidates, present, some_, outcome]
          · simp [dispatchTopCandidates, present, some_, outcome]
      | full =>
          refine .deferred outcome ?_ ?_
          · simp [handover, present, some_, outcome]
          · simp [dispatchTopCandidates, present, some_, outcome]
      | disconnected => exact absurd outcome connected

section call

variable {progress : PassProgress F}

/-- The batch and what is left of the candidates are the candidates. -/
theorem Dispatched.perm (call : Dispatched pass progress)
    : ((pass.handover progress).toList.flatMap (·.batch)
        ++ (pass.dispatchTopCandidates progress).1.scored).Perm progress.scored := by
  have whole := List.take_append_drop pass.request.maxDeleteBatch
    (progress.scored.insertionSort scoresBefore)
  have sorted := List.perm_insertionSort scoresBefore progress.scored
  cases call with
  | idle empty none same =>
      rw [none, same]
      exact List.Perm.refl _
  | deferred full none back =>
      rw [none, back]
      have swapped : ((progress.scored.insertionSort scoresBefore).drop
            pass.request.maxDeleteBatch
          ++ (progress.scored.insertionSort scoresBefore).take pass.request.maxDeleteBatch).Perm
            _ := List.perm_append_comm
      rw [whole] at swapped
      exact swapped.trans sorted
  | handed present taken rest =>
      rw [taken, rest]
      simpa [whole] using sorted

theorem Dispatched.counts (call : Dispatched pass progress)
    : (pass.dispatchTopCandidates progress).1.dispatchedThisPass
      = progress.dispatchedThisPass
        + ((pass.handover progress).toList.map (·.batch.length)).sum := by
  cases call with
  | idle empty none same => rw [none, same]; rfl
  | deferred full none back => rw [none, back]; rfl
  | handed present taken rest => rw [taken, rest]; simp

end call

variable {progress : PassProgress F}

theorem handover_eq_of_mem {handed : Handover F} (taken : handed ∈ pass.handover progress)
    : handed = ⟨(progress.scored.insertionSort scoresBefore).take pass.request.maxDeleteBatch,
        (progress.scored.insertionSort scoresBefore).drop pass.request.maxDeleteBatch⟩ := by
  unfold handover at taken
  split at taken
  · cases taken
  · rename_i some_
    split at taken
    · rename_i sent
      rw [Bool.or_eq_true, not_or, Bool.not_eq_true, decide_eq_true_iff] at some_
      rw [← Option.some.inj taken]
      simp [dispatchTopCandidates, some_.1, some_.2, sent]
    · cases taken

theorem length_batch_le {handed : Handover F} (taken : handed ∈ pass.handover progress)
    : handed.batch.length ≤ pass.request.maxDeleteBatch := by
  rw [handover_eq_of_mem taken]
  exact List.length_take_le _ _

theorem batch_best {handed : Handover F}
    (taken : handed ∈ pass.handover progress) (comparable : ScoresComparable progress.scored)
    {sent : CandidacyScore F} (inBatch : sent ∈ handed.batch)
    {left : CandidacyScore F} (pending : left ∈ handed.pending)
    : Float64.le left.totalScore sent.totalScore = true := by
  rw [handover_eq_of_mem taken] at inBatch pending
  have sorted := comparable.pairwise_sorted
  rw [← List.take_append_drop pass.request.maxDeleteBatch
    (progress.scored.insertionSort scoresBefore), List.pairwise_append] at sorted
  exact sorted.2.2 sent inBatch left pending

section calls

variable (batch : 1 ≤ pass.request.maxDeleteBatch)
  (connected : ∀ attempt, pass.executor attempt ≠ .disconnected)

include batch connected

/-- No candidate is lost and none handed over twice, by induction on the calls. -/
theorem calls_perm (count : Nat) (progress : PassProgress F)
    : ((pass.calls count progress).2.flatMap (·.batch)
        ++ (pass.calls count progress).1.scored).Perm progress.scored := by
  induction count generalizing progress with
  | zero => exact List.Perm.refl _
  | succ count ih =>
      have first := (dispatched batch progress (connected _)).perm
      have others := ih (pass.dispatchTopCandidates progress).1
      unfold calls
      rw [List.flatMap_append, List.append_assoc]
      exact (others.append_left _).trans first

theorem calls_dispatchedThisPass (count : Nat) (progress : PassProgress F)
    : (pass.calls count progress).1.dispatchedThisPass
      = progress.dispatchedThisPass
        + ((pass.calls count progress).2.map (·.batch.length)).sum := by
  induction count generalizing progress with
  | zero => rfl
  | succ count ih =>
      have first := (dispatched batch progress (connected _)).counts
      unfold calls
      dsimp only
      rw [ih, first, List.map_append, List.sum_append, Nat.add_assoc]

/-- Each handover of the calls is one of a call with a part of the candidates. -/
theorem handover_of_mem_calls {count : Nat} {progress : PassProgress F} {handed : Handover F}
    (taken : handed ∈ (pass.calls count progress).2)
    : ∃ meanwhile : PassProgress F, handed ∈ pass.handover meanwhile
      ∧ meanwhile.scored.Subperm progress.scored := by
  induction count generalizing progress with
  | zero => cases taken
  | succ count ih =>
      unfold calls at taken
      rcases List.mem_append.mp taken with first | later
      · exact ⟨progress, Option.mem_toList.mp first, List.Subperm.refl _⟩
      · obtain ⟨meanwhile, among, part⟩ := ih later
        have call := (dispatched batch progress (connected _)).perm
        refine ⟨meanwhile, among, part.trans ?_⟩
        exact (List.sublist_append_right _ _).subperm.trans call.subperm

end calls

theorem batches_drop {length batch : Nat} (some_ : 1 ≤ batch) (present : 1 ≤ length)
    : (length - batch + (batch - 1)) / batch + 1 ≤ (length + (batch - 1)) / batch := by
  rcases Nat.le_total batch length with more | last
  · have whole : length + (batch - 1) = length - batch + (batch - 1) + batch := by omega
    rw [whole, Nat.add_div_right _ some_]
  · have none : length - batch = 0 := Nat.sub_eq_zero_of_le last
    rw [none, Nat.zero_add, Nat.div_eq_of_lt (by omega)]
    exact (Nat.one_le_div_iff some_).mpr (by omega)

/-- The flush makes no more calls than there are batches in what is left, by induction on them. A
call that finds no room is the last one.
-/
theorem flush_attempts_le (batch : 1 ≤ pass.request.maxDeleteBatch)
    (connected : ∀ attempt, pass.executor attempt ≠ .disconnected) (rounds : Nat)
    (progress : PassProgress F)
    : (pass.flush rounds progress).1.attempts
      ≤ progress.attempts
        + (progress.scored.length + (pass.request.maxDeleteBatch - 1))
          / pass.request.maxDeleteBatch := by
  induction rounds generalizing progress with
  | zero => exact Nat.le_add_right _ _
  | succ rounds ih =>
      unfold flush
      split
      · exact Nat.le_add_right _ _
      · rename_i some_
        rw [List.isEmpty_iff] at some_
        have present : 1 ≤ progress.scored.length := List.length_pos_iff.mpr some_
        have fewer := batches_drop batch present
        have once := (Nat.le_add_left 1 _).trans fewer
        cases dispatched batch progress (connected _) with
        | idle empty _ _ => exact absurd empty some_
        | deferred full none back =>
            rw [back]
            dsimp only
            have same : progress.scored.length
                ≤ ((progress.scored.insertionSort scoresBefore).drop pass.request.maxDeleteBatch
                  ++ (progress.scored.insertionSort scoresBefore).take
                    pass.request.maxDeleteBatch).length := by
              simp
              omega
            rw [if_neg (by simp), if_pos same]
            dsimp only
            omega
        | handed _ taken rest =>
            rw [rest]
            dsimp only
            rw [if_neg (by simp)]
            split
            · dsimp only
              omega
            · have after := ih { progress with
                scored := (progress.scored.insertionSort scoresBefore).drop
                  pass.request.maxDeleteBatch
                attempts := progress.attempts + 1
                dispatchedThisPass := progress.dispatchedThisPass
                  + ((progress.scored.insertionSort scoresBefore).take
                    pass.request.maxDeleteBatch).length }
              dsimp only at after
              rw [List.length_drop, List.length_insertionSort] at after
              omega

end ScannerPass

/-- Over any number of calls, whether they find room or not: the batches and what is pending are
the candidates there were, every batch is within its bound and holds the best of what was there,
the count grows by what was handed over, and a flush makes no more calls than it takes batches.
-/
theorem dispatch_conserves {pass : ScannerPass F} (batch : 1 ≤ pass.request.maxDeleteBatch)
    (connected : ∀ attempt, pass.executor attempt ≠ .disconnected) (progress : PassProgress F)
    : (∀ count,
        ((pass.calls count progress).2.flatMap (·.batch)
            ++ (pass.calls count progress).1.scored).Perm progress.scored
        ∧ (∀ handed ∈ (pass.calls count progress).2,
            handed.batch.length ≤ pass.request.maxDeleteBatch
            ∧ (ScoresComparable progress.scored →
                ∀ sent ∈ handed.batch, ∀ left ∈ handed.pending,
                  Float64.le left.totalScore sent.totalScore = true))
        ∧ (pass.calls count progress).1.dispatchedThisPass
          = progress.dispatchedThisPass
            + ((pass.calls count progress).2.map (·.batch.length)).sum)
      ∧ ∀ rounds, (pass.flush rounds progress).1.attempts
          ≤ progress.attempts
            + ((progress.scored.length + (pass.request.maxDeleteBatch - 1))
              / pass.request.maxDeleteBatch + 1) := by
  constructor
  · intro count
    refine ⟨ScannerPass.calls_perm batch connected count progress, ?_,
      ScannerPass.calls_dispatchedThisPass batch connected count progress⟩
    intro handed taken
    obtain ⟨meanwhile, among, part⟩ :=
      ScannerPass.handover_of_mem_calls batch connected taken
    refine ⟨ScannerPass.length_batch_le among, fun comparable sent inBatch left pending => ?_⟩
    exact ScannerPass.batch_best among (comparable.of_subset part.subset) inBatch pending
  · intro rounds
    have bounded := ScannerPass.flush_attempts_le batch connected rounds progress
    omega

/-- A pass whose second batch of two finds no room. -/
def congestedPass : ScannerPass ℚ where
  request := ⟨⟨[.root], .orange, 2, false⟩, true, false⟩
  engine := .v1
  minRescanIntervalSecs := 0
  dirtyRoots := ∅
  indexedCandidates := []
  executor attempt := if attempt = 1 then .full else .sent
  protectionReady := true
  priorityCandidates := []
  prescanTimedOut := false
  prescanShutdown := false
  walk := none

/-- Five candidates, each worse than the one behind it. -/
def backlog : PassProgress ℚ where
  scored := [1, 2, 3, 4, 5].map fun score =>
    { sampleCandidate .delete with totalScore := score }
  dispatchedThisPass := 0
  attempts := 0
  candidateBytesSeen := 0

/-- Three calls hand over four of them, the best first. -/
example
    : (congestedPass.calls 3 backlog).2.map (fun handed => handed.batch.map (·.totalScore))
        = [[5, 4], [3, 2]]
      ∧ (congestedPass.calls 3 backlog).1.scored.map (·.totalScore) = [1] := by
  decide +kernel

theorem congested_dispatch_conserves
    : ((congestedPass.calls 3 backlog).2.flatMap (·.batch)
        ++ (congestedPass.calls 3 backlog).1.scored).Perm backlog.scored := by
  have connected (attempt : Nat) : congestedPass.executor attempt ≠ .disconnected := by
    unfold congestedPass
    dsimp only
    split <;> decide
  exact ((dispatch_conserves (by decide) connected backlog).1 3).1

end StorageBallast
