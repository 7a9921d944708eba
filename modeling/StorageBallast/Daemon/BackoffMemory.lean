import StorageBallast.Daemon.BackoffLoop
import StorageBallast.Scanner.ArtifactPatterns
import StorageBallast.Scanner.FailureBackoff

/-! When the scanner heeds a back-off for as long as it was set: what a pass has to keep of the
failed record, what every new sighting of the candidate has to agree with, and the runs in which
both are the case.
-/

namespace StorageBallast

variable {F : Type}

open Runs

def BackoffSetup.due (setup : BackoffSetup F) (number : Nat) : Duration :=
  min (setup.base * 2 ^ (number - 1)) setup.max

def BackoffSetup.rest (setup : BackoffSetup F) (failCount : Nat) : Duration :=
  min (setup.base.saturatingMul (2 ^ min (failCount - 1) 31)) setup.max

/-- The program doubles the rest 31 times at most, which is enough for 32 back-offs, or for
rests that do not grow longer anyway.
-/
def BackoffSetup.Bounded (setup : BackoffSetup F) (number : Nat) : Prop :=
  number ≤ 32 ∨ setup.max ≤ setup.base * 2 ^ 31

theorem BackoffSetup.due_le_rest (setup : BackoffSetup F) {number count failCount : Nat}
    (some : 0 < number) (within : number ≤ count) (bounded : setup.Bounded count)
    (counted : min count 32 ≤ failCount)
    : setup.due number ≤ setup.rest failCount := by
  have representable : setup.max ≤ Duration.max := by
    have limit := setup.maxRepresentable
    change setup.repeatDeletionMaxCooldownSecs * 1000000000
      ≤ (2 ^ 64 - 1) * 1000000000 + 999999999
    omega
  have growing : setup.base * 2 ^ (number - 1) ≤ setup.base * 2 ^ min (failCount - 1) 31
      ∨ setup.max ≤ setup.base * 2 ^ min (failCount - 1) 31 := by
    by_cases few : number ≤ 32
    · left
      exact Nat.mul_le_mul_left _ (Nat.pow_le_pow_right (by decide) (by omega))
    · right
      have many : min (failCount - 1) 31 = 31 := by omega
      rw [many]
      rcases bounded with few' | capped
      · omega
      · exact capped
  unfold due rest Duration.saturatingMul
  refine le_min (le_min ?_ ((min_le_right _ _).trans representable)) (min_le_right _ _)
  rcases growing with short | long
  · exact (min_le_left _ _).trans short
  · exact (min_le_right _ _).trans long

namespace BackoffLoop

open ScannerCandidateIndex

/-- What draining the channel makes of the record that its messages are about. -/
structure Drained (setup : BackoffSetup F) (now messages : Nat)
    (before after : CandidateIndexRecord F) : Prop where
  counted : min (before.failCount + messages) 32 ≤ after.failCount
  resting : 0 < messages
    → after.cooldownUntilNanos = some (now + setup.rest after.failCount)
  untouched : messages = 0 → after = before

theorem drained_failedRecord (setup : BackoffSetup F) (now : Nat)
    (record : CandidateIndexRecord F)
    : Drained setup now 1 record
        (failedRecord record (now : Int) setup.base setup.max) where
  counted := by
    simp only [failedRecord, maxU32]
    omega
  resting := by
    intro _
    simp only [failedRecord, BackoffSetup.rest, systemTimeNanos, Option.some.injEq]
    omega
  untouched := by
    intro none
    cases none

theorem Drained.trans {setup : BackoffSetup F} {now first second : Nat}
    {before between after : CandidateIndexRecord F}
    (one : Drained setup now first before between)
    (other : Drained setup now second between after)
    : Drained setup now (first + second) before after where
  counted := by
    have counted := one.counted
    have counted' := other.counted
    omega
  resting := by
    intro some
    by_cases later : 0 < second
    · exact other.resting later
    · have same := other.untouched (by omega)
      rw [same]
      exact one.resting (by omega)
  untouched := by
    intro none
    rw [other.untouched (by omega)]
    exact one.untouched (by omega)

/-- By induction on the messages, of which only those about the record matter. -/
theorem drainFeedback_spec {setup : BackoffSetup F} {now : Nat} {identity : IndexedIdentity}
    (identities : List IndexedIdentity) {index : ScannerCandidateIndex F}
    {record : CandidateIndexRecord F} (found : index.get identity = some record)
    : ∃ drained, (drainFeedback setup now identities index).get identity = some drained
        ∧ Drained setup now (identities.count identity) record drained := by
  induction identities generalizing index record with
  | nil => exact ⟨record, found, by simp, by simp, fun _ => rfl⟩
  | cons head rest ih =>
      have next := get_recordFailure index identity head now setup.base setup.max
      by_cases about : head = identity
      · rw [if_pos about, found] at next
        obtain ⟨drained, isDrained, spec⟩ := ih next
        refine ⟨drained, isDrained, ?_⟩
        rw [about, List.count_cons_self, Nat.add_comm]
        exact (drained_failedRecord setup now record).trans spec
      · rw [if_neg about, found] at next
        obtain ⟨drained, isDrained, spec⟩ := ih next
        refine ⟨drained, isDrained, ?_⟩
        rw [List.count_cons_of_ne about]
        exact spec

end BackoffLoop

/-- A directory entry that does not change. -/
structure CandidateOnDisk where
  path : PathBuf
  identity : IndexedIdentity

namespace CandidateOnDisk

def IsFor (disk : CandidateOnDisk) (candidate : CandidacyScore F) : Prop :=
  candidate.path.components = disk.path.components
    ∧ ∀ identity ∈ candidate.identity, IndexedIdentity.ofFsIdentity identity = disk.identity

instance (disk : CandidateOnDisk) (candidate : CandidacyScore F)
    : Decidable (disk.IsFor candidate) :=
  inferInstanceAs (Decidable (_ ∧ _))

def backOffTimes (disk : CandidateOnDisk) (backedOff : List (CandidacyScore F × Nat))
    : List Nat :=
  (backedOff.filter fun report => disk.IsFor report.1).map Prod.snd

@[simp] theorem backOffTimes_append (disk : CandidateOnDisk)
    (earlier later : List (CandidacyScore F × Nat))
    : disk.backOffTimes (earlier ++ later)
      = disk.backOffTimes earlier ++ disk.backOffTimes later := by
  simp [backOffTimes]

end CandidateOnDisk

namespace BackoffLoop

open ScannerCandidateIndex

variable (setup : BackoffSetup F) (disk : CandidateOnDisk)

def BackOffsOver (times : List Nat) (moment : Nat) : Prop :=
  ∀ index time, times[index]? = some time → time + setup.due (index + 1) ≤ moment

def HeedsBackOffs [Float64 F] (self : BackoffLoop F) (step : BackoffStep F) : Prop :=
  ∀ candidate ∈ self.handedOver step, disk.IsFor candidate
    → BackOffsOver setup (disk.backOffTimes self.heeded) self.now

def failedRecord? (self : BackoffLoop F) : Option (CandidateIndexRecord F) :=
  (self.scannerIndex.bind (·.get disk.identity)).filter fun record => 0 < record.failCount

/-- The index that a pass takes up has the failed record of the entry as the index before it
had it, and has a record of it when there is a message about it.
-/
def TakesUp (self : BackoffLoop F) (context : ScannerIndexContext) : Prop :=
  (∀ failed ∈ self.failedRecord? disk,
    ∃ record ∈ (self.taken setup context).get disk.identity,
      record.failCount = failed.failCount
        ∧ record.cooldownUntilNanos = failed.cooldownUntilNanos)
  ∧ (disk.identity ∈ self.indexFeedback.queue
    → ((self.taken setup context).get disk.identity).isSome)

/-- A sighting of the entry makes a record, and what is recorded under its identity has the
evidence of the failed record.
-/
def SeesAgain (self : BackoffLoop F) (sighting : Sighting F) : Prop :=
  (disk.IsFor sighting.score → (sighting.record self.eventGeneration).isSome)
  ∧ ∀ record ∈ sighting.record self.eventGeneration, record.identity = disk.identity
    → ∀ failed ∈ self.failedRecord? disk, record.evidence = failed.evidence

/-- The message about a back-off of the entry can be sent, and the back-off can be kept. -/
def CanReport (self : BackoffLoop F) (candidate : CandidacyScore F) : Prop :=
  disk.IsFor candidate
    → candidate.identity.isSome
      ∧ self.indexFeedback.queue.length < executorChannelCap
      ∧ setup.Bounded ((disk.backOffTimes self.backedOff).length + 1)

/-- The step leaves what the scanner knows of the entry's back-offs in place. -/
def Remembers (self : BackoffLoop F) : BackoffStep F → Prop
  | .startPass context _ => self.TakesUp setup disk context
  | .sight sighting => sighting.isRecorded = true → self.SeesAgain disk sighting
  | .backOff candidate => self.CanReport setup disk candidate
  | .wait _ | .dispatchIndexed _ _ | .dispatchPriority _ _ | .dispatchScored _ _ | .persist
  | .abandon => True

structure RestsFor (times : List Nat) (record : CandidateIndexRecord F) : Prop where
  counted : min times.length 32 ≤ record.failCount
  resting : ∃ until?, record.cooldownUntilNanos = some until? ∧ BackOffsOver setup times until?

/-- What the scanner and the channel hold about the back-offs of the entry. -/
structure Kept (loop : BackoffLoop F) : Prop where
  sent : ∃ waiting, loop.backedOff = loop.heeded ++ waiting
    ∧ (disk.backOffTimes waiting).length ≤ loop.indexFeedback.queue.count disk.identity
  past : ∀ time ∈ disk.backOffTimes loop.backedOff, time ≤ loop.now
  bounded : setup.Bounded (disk.backOffTimes loop.backedOff).length
  rests : disk.backOffTimes loop.heeded ≠ [] → ∃ failed ∈ loop.failedRecord? disk,
    RestsFor setup (disk.backOffTimes loop.heeded) failed
  recorded : ∀ failed ∈ loop.failedRecord? disk, ∀ record ∈ loop.scannerIndexRecords,
    record.identity = disk.identity → record.evidence = failed.evidence
  rested : ∀ candidate ∈ loop.priorityCandidates ++ loop.scored, disk.IsFor candidate
    → BackOffsOver setup (disk.backOffTimes loop.heeded) loop.now

variable {setup disk}

theorem start_kept (saved : Option (ScannerIndexCheckpoint F)) (now : Nat)
    : (start saved now).Kept setup disk where
  sent := ⟨[], rfl, by simp [CandidateOnDisk.backOffTimes]⟩
  past := by simp [start, CandidateOnDisk.backOffTimes]
  bounded := Or.inl (by simp [start, CandidateOnDisk.backOffTimes])
  rests := by simp [start, CandidateOnDisk.backOffTimes]
  recorded := by simp [start]
  rested := by simp [start]

theorem backOffsOver_nil (moment : Nat) : BackOffsOver setup [] moment := by
  intro index time found
  simp at found

theorem BackOffsOver.mono {times : List Nat} {moment later : Nat}
    (passed : BackOffsOver setup times moment) (after : moment ≤ later)
    : BackOffsOver setup times later :=
  fun index time found => (passed index time found).trans after

variable {self : BackoffLoop F}

theorem mem_failedRecord? {failed : CandidateIndexRecord F}
    : failed ∈ self.failedRecord? disk
      ↔ (∃ index, self.scannerIndex = some index ∧ index.get disk.identity = some failed)
        ∧ 0 < failed.failCount := by
  simp [failedRecord?, Option.mem_def, Option.filter_eq_some_iff, Option.bind_eq_some_iff]

/-- A record that rests from now on, for as many failures as there were back-offs, rests until
all of them are over.
-/
theorem backOffsOver_rest {times : List Nat} {now failCount : Nat}
    (past : ∀ time ∈ times, time ≤ now) (bounded : setup.Bounded times.length)
    (counted : min times.length 32 ≤ failCount)
    : BackOffsOver setup times (now + setup.rest failCount) := by
  intro index time found
  have inside : index + 1 ≤ times.length := (List.getElem?_eq_some_iff.mp found).1
  exact Nat.add_le_add (past time (List.mem_of_getElem? found))
    (setup.due_le_rest index.succ_pos inside bounded counted)

/-- The index that a pass takes up has a record of the entry once there is a back-off, which
rests as the failed one did.
-/
theorem taken_rests {context : ScannerIndexContext}
    (kept : self.Kept setup disk) (takesUp : self.TakesUp setup disk context)
    (any : disk.backOffTimes self.backedOff ≠ [])
    : ∃ record, (self.taken setup context).get disk.identity = some record
        ∧ (disk.backOffTimes self.heeded ≠ []
          → RestsFor setup (disk.backOffTimes self.heeded) record) := by
  by_cases heard : disk.backOffTimes self.heeded = []
  · obtain ⟨waiting, split, sent⟩ := kept.sent
    rw [split, CandidateOnDisk.backOffTimes_append, heard, List.nil_append] at any
    have pending : 0 < (disk.backOffTimes waiting).length := List.length_pos_iff.mpr any
    have message := List.count_pos_iff.mp (pending.trans_le sent)
    obtain ⟨record, found⟩ := Option.isSome_iff_exists.mp (takesUp.2 message)
    exact ⟨record, found, fun heard' => absurd heard heard'⟩
  · obtain ⟨failed, isFailed, counted, resting⟩ := kept.rests heard
    obtain ⟨record, found, count, cooldown⟩ := takesUp.1 failed isFailed
    refine ⟨record, found, fun _ => ⟨?_, ?_⟩⟩
    · rw [count]
      exact counted
    · rw [cooldown]
      exact resting

/-- After draining the channel the record of the entry rests until all back-offs are over. -/
theorem drained_rests {record drained : CandidateIndexRecord F}
    (kept : self.Kept setup disk) (any : disk.backOffTimes self.backedOff ≠ [])
    (rested : disk.backOffTimes self.heeded ≠ []
      → RestsFor setup (disk.backOffTimes self.heeded) record)
    (spec : Drained setup self.now (self.indexFeedback.queue.count disk.identity) record drained)
    : RestsFor setup (disk.backOffTimes self.backedOff) drained := by
  obtain ⟨waiting, split, sent⟩ := kept.sent
  have times : disk.backOffTimes self.backedOff
      = disk.backOffTimes self.heeded ++ disk.backOffTimes waiting := by
    rw [split, CandidateOnDisk.backOffTimes_append]
  have counted : min (disk.backOffTimes self.backedOff).length 32 ≤ drained.failCount := by
    have drains := spec.counted
    have before : min (disk.backOffTimes self.heeded).length 32 ≤ record.failCount := by
      by_cases heard : disk.backOffTimes self.heeded = []
      · simp [heard]
      · exact (rested heard).counted
    rw [times, List.length_append]
    omega
  refine ⟨counted, ?_⟩
  by_cases messages : 0 < self.indexFeedback.queue.count disk.identity
  · exact ⟨_, spec.resting messages, backOffsOver_rest kept.past kept.bounded counted⟩
  · have quiet : disk.backOffTimes waiting = [] := List.length_eq_zero_iff.mp (by omega)
    rw [quiet, List.append_nil] at times
    rw [times] at any ⊢
    rw [spec.untouched (by omega)]
    exact (rested any).resting

theorem startPass_kept {context : ScannerIndexContext}
    (eventOverflow : Bool) (kept : self.Kept setup disk) (takesUp : self.TakesUp setup disk context)
    : (self.startPass setup context eventOverflow).Kept setup disk where
  sent := ⟨[], (List.append_nil _).symm, Nat.zero_le _⟩
  past := kept.past
  bounded := kept.bounded
  rests := by
    intro any
    change disk.backOffTimes self.backedOff ≠ [] at any
    obtain ⟨record, found, rested⟩ := taken_rests kept takesUp any
    have bumped : (if eventOverflow then (self.taken setup context).markEventOverflow
        else self.taken setup context).get disk.identity = some record := by
      cases eventOverflow <;> exact found
    obtain ⟨drained, isDrained, spec⟩ := drainFeedback_spec self.indexFeedback.queue bumped
    have rests := drained_rests kept any rested spec
    refine ⟨drained, mem_failedRecord?.mpr ⟨⟨_, rfl, isDrained⟩, ?_⟩, rests⟩
    have counted := rests.counted
    have pending := List.length_pos_iff.mpr any
    omega
  recorded := by simp [startPass]
  rested := by simp [startPass]

/-- The back-offs of a record that the index does not hold back any more are over. -/
theorem backOffsOver_of_rested {index : ScannerCandidateIndex F} {times : List Nat} {now : Nat}
    {failed : CandidateIndexRecord F} (found : index.get disk.identity = some failed)
    (rests : RestsFor setup times failed)
    (rested : index.inCooldown disk.identity (now : Int) = false)
    : BackOffsOver setup times now := by
  obtain ⟨until?, cooldown, passed⟩ := rests.resting
  simp only [inCooldown, found, cooldown, Option.any_some] at rested
  exact passed.mono (not_lt.mp (of_decide_eq_false rested))

/-- What is seen of the entry and not held back has no back-off left. -/
theorem backOffsOver_of_sight {sighting : Sighting F}
    (kept : self.Kept setup disk) (seesAgain : self.SeesAgain disk sighting)
    (isFor : disk.IsFor sighting.score)
    (inactive : self.backoffActive (sighting.record self.eventGeneration) = false)
    : BackOffsOver setup (disk.backOffTimes self.heeded) self.now := by
  by_cases heard : disk.backOffTimes self.heeded = []
  · rw [heard]
    exact backOffsOver_nil self.now
  · obtain ⟨record, made⟩ := Option.isSome_iff_exists.mp (seesAgain.1 isFor)
    have own : record.identity = disk.identity := by
      unfold Sighting.record at made
      split at made
      · rename_i built
        subst made
        obtain ⟨_, _, identity, known, same⟩ := TrackedIndex.fromCandidateScore_spec built
        exact same.trans (isFor.2 identity known)
      · cases made
    obtain ⟨failed, isFailed, rests⟩ := kept.rests heard
    have same := seesAgain.2 record made own failed isFailed
    obtain ⟨⟨index, atHand, found⟩, _⟩ := mem_failedRecord?.mp isFailed
    refine backOffsOver_of_rested found rests ?_
    have matched : failed.evidenceMatches record = true :=
      CandidateIndexRecord.evidenceMatches_iff.mpr same.symm
    simpa [backoffActive, made, atHand, candidateInCooldown, own, found, matched] using inactive

theorem sight_kept {sighting : Sighting F} (kept : self.Kept setup disk)
    (seesAgain : sighting.isRecorded = true → self.SeesAgain disk sighting)
    : (self.sight sighting).Kept setup disk := by
  unfold sight
  split
  case isFalse => exact kept
  case isTrue taken =>
  have sees := seesAgain taken
  have recorded : ∀ failed ∈ self.failedRecord? disk,
      ∀ record ∈ self.scannerIndexRecords ++ (sighting.record self.eventGeneration).toList,
        record.identity = disk.identity → record.evidence = failed.evidence := by
    intro failed isFailed record member own
    rcases List.mem_append.mp member with before | new
    · exact kept.recorded failed isFailed record before own
    · exact sees.2 record (Option.mem_toList.mp new) own failed isFailed
  have rested : ∀ candidate ∈
      (if !self.backoffActive (sighting.record self.eventGeneration) && sighting.isWanted then
        [sighting.score] else []),
      disk.IsFor candidate → BackOffsOver setup (disk.backOffTimes self.heeded) self.now := by
    intro candidate member isFor
    split at member
    · rename_i free
      rw [List.mem_singleton.mp member] at isFor
      have inactive := (Bool.and_eq_true_iff.mp free).1
      exact backOffsOver_of_sight kept sees isFor (by simpa using inactive)
    · cases member
  dsimp only
  split
  · refine ⟨kept.sent, kept.past, kept.bounded, kept.rests, recorded, ?_⟩
    intro candidate member isFor
    simp only [List.mem_append] at member
    rcases member with (priority | new) | scored
    · exact kept.rested candidate (List.mem_append_left _ priority) isFor
    · exact rested candidate new isFor
    · exact kept.rested candidate (List.mem_append_right _ scored) isFor
  · refine ⟨kept.sent, kept.past, kept.bounded, kept.rests, recorded, ?_⟩
    intro candidate member isFor
    simp only [List.mem_append] at member
    rcases member with priority | (scored | new)
    · exact kept.rested candidate (List.mem_append_left _ priority) isFor
    · exact kept.rested candidate (List.mem_append_right _ scored) isFor
    · exact rested candidate new isFor

theorem persist_kept (kept : self.Kept setup disk)
    : (self.persist setup).Kept setup disk := by
  unfold persist
  cases atHand : self.scannerIndex with
  | none => exact kept
  | some index =>
  dsimp only
  split
  case isTrue => exact kept
  case isFalse =>
  refine ⟨kept.sent, kept.past, kept.bounded, ?_, by simp, kept.rested⟩
  intro heard
  obtain ⟨failed, isFailed, rests⟩ := kept.rests heard
  obtain ⟨⟨index', atHand', found⟩, positive⟩ := mem_failedRecord?.mp isFailed
  cases atHand.symm.trans atHand'
  obtain ⟨record, stored, count, cooldown, _⟩ :=
    failsAs_upserts ⟨failed, found, rfl, rfl, rfl⟩ (kept.recorded failed isFailed)
  refine ⟨record, mem_failedRecord?.mpr ⟨⟨_, rfl, stored⟩, count ▸ positive⟩, ?_, ?_⟩
  · rw [count]
    exact rests.counted
  · rw [cooldown]
    exact rests.resting

theorem backOff_kept {candidate : CandidacyScore F}
    (kept : self.Kept setup disk) (canReport : self.CanReport setup disk candidate)
    : (self.backOff candidate).Kept setup disk := by
  obtain ⟨waiting, split, sent⟩ := kept.sent
  refine ⟨⟨waiting ++ [(candidate, self.now)], ?_, ?_⟩, ?_, ?_, kept.rests, kept.recorded,
    kept.rested⟩
  · simp [backOff, split]
  · rw [CandidateOnDisk.backOffTimes_append, List.length_append]
    by_cases isFor : disk.IsFor candidate
    · obtain ⟨known, room, _⟩ := canReport isFor
      obtain ⟨identity, isKnown⟩ := Option.isSome_iff_exists.mp known
      have own := isFor.2 identity isKnown
      simp only [backOff, isKnown, own, Channel.queue_trySend, if_pos room, List.count_append]
      simpa [CandidateOnDisk.backOffTimes, isFor] using sent
    · have more : self.indexFeedback.queue.count disk.identity
          ≤ (self.backOff candidate).indexFeedback.queue.count disk.identity := by
        unfold backOff
        cases candidate.identity with
        | none => exact le_rfl
        | some identity =>
            simp only [Channel.queue_trySend]
            split
            · rw [List.count_append]
              exact Nat.le_add_right _ _
            · exact le_rfl
      simpa [CandidateOnDisk.backOffTimes, isFor] using sent.trans more
  · intro time member
    change time ∈ disk.backOffTimes (self.backedOff ++ [(candidate, self.now)]) at member
    rw [CandidateOnDisk.backOffTimes_append, List.mem_append] at member
    rcases member with before | new
    · exact kept.past time before
    · obtain ⟨report, found, rfl⟩ := List.mem_map.mp new
      rw [List.mem_singleton.mp (List.mem_of_mem_filter found)]
      exact le_rfl
  · change setup.Bounded (disk.backOffTimes (self.backedOff ++ [(candidate, self.now)])).length
    rw [CandidateOnDisk.backOffTimes_append, List.length_append]
    by_cases isFor : disk.IsFor candidate
    · simpa [CandidateOnDisk.backOffTimes, isFor] using (canReport isFor).2.2
    · simpa [CandidateOnDisk.backOffTimes, isFor] using kept.bounded

variable [Float64 F]

theorem step_kept {step : BackoffStep F} (kept : self.Kept setup disk)
    (remembers : self.Remembers setup disk step)
    : (self.step setup step).Kept setup disk := by
  cases step with
  | wait span =>
      exact ⟨kept.sent, fun time member => (kept.past time member).trans (Nat.le_add_right _ _),
        kept.bounded, kept.rests, kept.recorded,
        fun candidate member isFor =>
          (kept.rested candidate member isFor).mono (Nat.le_add_right _ _)⟩
  | startPass context eventOverflow => exact startPass_kept eventOverflow kept remembers
  | dispatchIndexed maxDeleteBatch room => exact kept
  | sight sighting => exact sight_kept kept remembers
  | dispatchPriority maxDeleteBatch room =>
      refine ⟨kept.sent, kept.past, kept.bounded, kept.rests, kept.recorded, ?_⟩
      intro candidate member isFor
      refine kept.rested candidate (List.mem_append.mpr ?_) isFor
      exact (List.mem_append.mp member).imp_left fun left => mem_dispatchTop (Or.inr left)
  | dispatchScored maxDeleteBatch room =>
      refine ⟨kept.sent, kept.past, kept.bounded, kept.rests, kept.recorded, ?_⟩
      intro candidate member isFor
      refine kept.rested candidate (List.mem_append.mpr ?_) isFor
      exact (List.mem_append.mp member).imp_right fun left => mem_dispatchTop (Or.inr left)
  | persist => exact persist_kept kept
  | abandon =>
      exact ⟨kept.sent, kept.past, kept.bounded, kept.rests, by simp [step], kept.rested⟩
  | backOff candidate => exact backOff_kept kept remembers

/-- A ranked candidate is the record of its identity, and not held back. -/
theorem mem_indexedCandidates {maxDeleteBatch : Nat}
    {candidate : CandidacyScore F} (member : candidate ∈ self.indexedCandidates maxDeleteBatch)
    : ∃ index identity, self.scannerIndex = some index
        ∧ candidate.identity = some identity.toFsIdentity
        ∧ index.inCooldown identity (self.now : Int) = false := by
  unfold indexedCandidates at member
  cases atHand : self.scannerIndex with
  | none => simp [atHand] at member
  | some index =>
      simp only [atHand, Option.map_some, Option.getD_some, rankedCandidateScores] at member
      obtain ⟨record, ranked, rfl⟩ := List.mem_map.mp member
      have sorted := (List.perm_insertionSort _ _).mem_iff.mp (List.mem_of_mem_take ranked)
      have ready := (Bool.and_eq_true_iff.mp (List.mem_filter.mp sorted).2).2
      exact ⟨index, record.identity, rfl, rfl, by simpa using ready⟩

theorem heedsBackOffs_of_kept (kept : self.Kept setup disk) (step : BackoffStep F)
    : self.HeedsBackOffs setup disk step := by
  intro candidate handed isFor
  cases step with
  | dispatchIndexed maxDeleteBatch room =>
      by_cases heard : disk.backOffTimes self.heeded = []
      · rw [heard]
        exact backOffsOver_nil self.now
      · obtain ⟨index, identity, atHand, known, rested⟩ :=
          mem_indexedCandidates (mem_dispatchTop (Or.inl handed))
        have own := isFor.2 _ known
        rw [IndexedIdentity.ofFsIdentity_toFsIdentity] at own
        obtain ⟨failed, isFailed, rests⟩ := kept.rests heard
        obtain ⟨⟨index', atHand', found⟩, _⟩ := mem_failedRecord?.mp isFailed
        cases atHand.symm.trans atHand'
        exact backOffsOver_of_rested found rests (own ▸ rested)
  | dispatchPriority maxDeleteBatch room =>
      have member := mem_dispatchTop (Or.inl handed)
      exact kept.rested candidate (List.mem_append_left _ member) isFor
  | dispatchScored maxDeleteBatch room =>
      have member := mem_dispatchTop (Or.inl handed)
      exact kept.rested candidate (List.mem_append_right _ member) isFor
  | _ => cases handed

/-- In a run whose steps all remember the entry's back-offs, no step hands it over before its
back-offs are over.
-/
theorem backOffs_heeded (saved : Option (ScannerIndexCheckpoint F)) (now : Nat)
    (run : List (BackoffStep F))
    (remembered : Guarded (step setup) (Remembers setup disk) (start saved now) run)
    : ∀ taken ∈ steps (step setup) (start saved now) run,
        taken.1.HeedsBackOffs setup disk taken.2 := by
  intro taken member
  have each (self : BackoffLoop F) (step : BackoffStep F) (kept : self.Kept setup disk)
      (remembers : self.Remembers setup disk step)
      : (self.step setup step).Kept setup disk :=
    step_kept kept remembers
  have kept := invariant_of_guarded each (start_kept saved now) remembered
  exact heedsBackOffs_of_kept (kept taken.1 (step_mem_states member).1) taken.2

instance (context : ScannerIndexContext) (self : BackoffLoop F)
    : Decidable (self.TakesUp setup disk context) :=
  inferInstanceAs (Decidable (_ ∧ _))

instance (sighting : Sighting F) (self : BackoffLoop F)
    : Decidable (self.SeesAgain disk sighting) :=
  inferInstanceAs (Decidable (_ ∧ _))

instance (number : Nat) : Decidable (setup.Bounded number) :=
  inferInstanceAs (Decidable (_ ∨ _))

instance (candidate : CandidacyScore F) (self : BackoffLoop F)
    : Decidable (self.CanReport setup disk candidate) :=
  inferInstanceAs (Decidable (_ → _))

instance (self : BackoffLoop F) : DecidablePred (self.Remembers setup disk)
  | .startPass context _ => inferInstanceAs (Decidable (self.TakesUp setup disk context))
  | .sight sighting =>
      inferInstanceAs (Decidable (sighting.isRecorded = true → self.SeesAgain disk sighting))
  | .backOff candidate => inferInstanceAs (Decidable (self.CanReport setup disk candidate))
  | .wait _ | .dispatchIndexed _ _ | .dispatchPriority _ _ | .dispatchScored _ _ | .persist
  | .abandon => isTrue trivial

def defaultBackoff : BackoffSetup ℚ := ⟨TrackedIndex.exactCodec, 300, 3600, by decide⟩

def stuckTarget : CandidateOnDisk := ⟨⟨"/tmp/x-target"⟩, ⟨7, 1, .directory⟩⟩

def stuckScore : CandidacyScore ℚ :=
  { sampleCandidate .delete with
    path := ⟨"/tmp/x-target"⟩
    identity := some ⟨7, 1, .directory⟩
    sizeBytes := 104857600 }

def stuckSnapshot : RecordSnapshot := ⟨.ok (some 200), some 300, none⟩

/-- The directory as the pre-scan comes to it. -/
def prescanOfStuck : Sighting ℚ := ⟨.prescan, stuckScore, stuckSnapshot⟩

def walkOfStuck : Sighting ℚ where
  route := .walked (some (.candidate "cargo/build target with regenerable context"
    "opaque-cargo-target" .rustTarget 0.93))
  score := stuckScore
  snapshot := stuckSnapshot

def oneContext : ScannerIndexContext := ⟨"root-same", "config-same"⟩

def stuckPass (prescan : Bool) : List (BackoffStep ℚ) :=
  [.startPass oneContext false] ++ (if prescan then [.sight prescanOfStuck] else [])
    ++ [.dispatchPriority 10 true, .sight walkOfStuck, .dispatchScored 10 true, .persist]

def stuckPasses (prescan : Bool) : List (BackoffStep ℚ) :=
  stuckPass prescan ++ [.backOff stuckScore, .wait (.fromSecs 1)] ++ stuckPass prescan

/-- Found by the walker alone, the directory is let rest when its second pass dispatches. -/
theorem walked_target_heeded
    : (final (step defaultBackoff) (start none 0) ((stuckPasses false).take 10)).HeedsBackOffs
        defaultBackoff stuckTarget (.dispatchScored 10 true) := by
  have remembered : Guarded (step defaultBackoff) (Remembers defaultBackoff stuckTarget)
      (start none 0) (stuckPasses false) :=
    guarded_iff_steps.mpr (by decide)
  exact backOffs_heeded none 0 (stuckPasses false) remembered _
    (mem_steps_iff.mpr ⟨(stuckPasses false).take 10, (stuckPasses false).drop 11, rfl, rfl⟩)

def secondPrescan : BackoffLoop ℚ :=
  final (step defaultBackoff) (start none 0) ((stuckPasses true).take 10)

/-- Found by the pre-scan as well, it is handed over again a second after a back-off that was
meant to last five minutes, since the index keeps the walker's record of it.
-/
theorem prescanned_target_repeated
    : ¬ ∀ taken ∈ steps (step defaultBackoff) (start none 0) (stuckPasses true),
        taken.1.HeedsBackOffs defaultBackoff stuckTarget taken.2 := by
  intro heeds
  have taken : (secondPrescan, BackoffStep.dispatchPriority 10 true)
      ∈ steps (step defaultBackoff) (start none 0) (stuckPasses true) :=
    mem_steps_iff.mpr ⟨(stuckPasses true).take 10, (stuckPasses true).drop 11, rfl, rfl⟩
  have handed : stuckScore ∈ secondPrescan.handedOver (.dispatchPriority 10 true) := by
    have batch : secondPrescan.handedOver (.dispatchPriority 10 true) = [stuckScore] := rfl
    rw [batch]
    exact List.mem_cons_self
  have isFor : stuckTarget.IsFor stuckScore := by decide
  have times : (stuckTarget.backOffTimes secondPrescan.heeded)[0]? = some 0 := by decide
  have now : secondPrescan.now = 1000000000 := by decide
  have due : 0 + defaultBackoff.due 1 ≤ secondPrescan.now :=
    heeds _ taken stuckScore handed isFor 0 0 times
  rw [now] at due
  exact absurd due (by decide)

end BackoffLoop

end StorageBallast
