import StorageBallast.Foundations.Runs
import StorageBallast.Scanner.CandidateIndex

/-! Where ranked candidates come from. Runs of the index are tracked together with the score
each identity was last upserted from, and the steps after which the ranking can offer a
candidate the scorer did not let go are singled out exactly.
-/

namespace StorageBallast

open Runs

/-- The index, its checkpoint on disk, and the latest score upserted for each identity. -/
structure TrackedIndex (F : Type) where
  index : ScannerCandidateIndex F
  saved : Option (ScannerIndexCheckpoint F)
  latest : IndexedIdentity → Option (CandidacyScore F)

/-- One operation on the index, with what the file system answers during it. -/
inductive IndexOp (F : Type) where
  | upsert (score : CandidacyScore F) (opaqueTree : Option (OpaqueTreeClassification F))
      (eventGeneration : Nat) (snapshot : RecordSnapshot)
  | recordFailure (identity : IndexedIdentity) (now : SystemTime)
      (baseCooldown maxCooldown : Duration)
  | markEventOverflow
  | saveCheckpoint (fault : Option String)
  | loadCheckpoint (expectedContext : ScannerIndexContext) (fault : Option CheckpointFault)

namespace TrackedIndex

variable {F : Type}

def start (context : ScannerIndexContext) : TrackedIndex F where
  index := .new context
  saved := none
  latest := fun _ => none

def upsert (self : TrackedIndex F) (score : CandidacyScore F)
    (record : CandidateIndexRecord F) : TrackedIndex F :=
  { self with
    index := self.index.upsert record
    latest := Function.update self.latest record.identity (some score) }

def upsertBuilt (self : TrackedIndex F) (score : CandidacyScore F)
    : Except PathError (Option (CandidateIndexRecord F)) → TrackedIndex F
  | .ok (some record) => self.upsert score record
  | .ok none | .error _ => self

def recordFailure (self : TrackedIndex F) (identity : IndexedIdentity) (now : SystemTime)
    (baseCooldown maxCooldown : Duration) : TrackedIndex F :=
  { self with index := self.index.recordFailure identity now baseCooldown maxCooldown }

/-- The checkpoint file after a save, which replaces it only when everything succeeds. -/
def savedAfter (codec : CheckpointCodec F) (self : TrackedIndex F) (fault : Option String)
    : Option (ScannerIndexCheckpoint F) :=
  match fault, self.index.checkpoint codec with
  | none, .ok checkpoint => some checkpoint
  | _, _ => self.saved

def readSaved (codec : CheckpointCodec F) (self : TrackedIndex F)
    (fault : Option CheckpointFault) : Except CheckpointFault (ScannerIndexCheckpoint F) :=
  match fault, self.saved with
  | some fault, _ => .error fault
  | none, none => .error .missing
  | none, some checkpoint => .ok (checkpoint.reread codec)

def loaded (codec : CheckpointCodec F) (self : TrackedIndex F)
    (expectedContext : ScannerIndexContext) (fault : Option CheckpointFault)
    : ScannerCandidateIndex F :=
  (ScannerCandidateIndex.loadCheckpoint codec expectedContext (self.readSaved codec fault)).1

def step (codec : CheckpointCodec F) (self : TrackedIndex F)
    : IndexOp F → TrackedIndex F
  | .upsert score opaqueTree eventGeneration snapshot =>
      self.upsertBuilt score
        (CandidateIndexRecord.fromCandidateScore score opaqueTree eventGeneration snapshot)
  | .recordFailure identity now baseCooldown maxCooldown =>
      self.recordFailure identity now baseCooldown maxCooldown
  | .markEventOverflow => { self with index := self.index.markEventOverflow }
  | .saveCheckpoint fault => { self with saved := self.savedAfter codec fault }
  | .loadCheckpoint expectedContext fault =>
      { self with index := self.loaded codec expectedContext fault }

def LatestDeletable (self : TrackedIndex F) (identity : IndexedIdentity) : Prop :=
  ∃ score, self.latest identity = some score ∧ score.Deletable

/-- At every time and limit, each ranked candidate belongs to an identity whose latest
upserted score let it be deleted.
-/
def RanksOnlyDeletable [Float64 F] (self : TrackedIndex F) : Prop :=
  ∀ now limit, ∀ candidate ∈ self.index.rankedCandidateScores now limit,
    ∃ identity : IndexedIdentity,
      candidate.identity = some identity.toFsIdentity ∧ self.LatestDeletable identity

def Backed (self : TrackedIndex F) : Prop :=
  ∀ identity record, self.index.get identity = some record → record.rankable = true
    → self.LatestDeletable identity

def carriesFailure (index : ScannerCandidateIndex F) (record : CandidateIndexRecord F)
    : Bool :=
  (index.get record.identity).any fun existing =>
    existing.evidenceMatches record && existing.safetyState == .failed

def isWithheld (record : CandidateIndexRecord F) : Bool :=
  record.score.isSome && !record.rankable

/-- The operation puts nothing into the ranking that the scorer did not let go: an upserted
score is deletable unless it is vetoed and meets no failed record of the same evidence, a
failure does not reach a withheld record, and a load restores no rankable record, of an
identity whose latest score was not deletable.
-/
def OffersNothingWithheld (codec : CheckpointCodec F) (self : TrackedIndex F)
    : IndexOp F → Prop
  | .upsert score opaqueTree eventGeneration snapshot =>
      ∀ record,
        CandidateIndexRecord.fromCandidateScore score opaqueTree eventGeneration snapshot
          = .ok (some record)
        → score.vetoed = false ∨ carriesFailure self.index record = true
        → score.Deletable
  | .recordFailure identity _ _ _ =>
      ∀ record, self.index.get identity = some record → isWithheld record = true
        → self.LatestDeletable identity
  | .markEventOverflow => True
  | .saveCheckpoint _ => True
  | .loadCheckpoint expectedContext fault =>
      ∀ identity record,
        (self.loaded codec expectedContext fault).get identity = some record
        → record.rankable = true
        → self.LatestDeletable identity

theorem get_insert (index : ScannerCandidateIndex F) (record : CandidateIndexRecord F)
    (identity : IndexedIdentity)
    : (index.insert record).get identity
      = if record.identity = identity then some record else index.get identity :=
  getElem?_insert_record index.records record.identity identity record

/-- Storing changes only the failure history and the generation, and makes a record failed
exactly when it carries a failure over.
-/
theorem prepared_spec (index : ScannerCandidateIndex F) (record : CandidateIndexRecord F)
    : (index.prepared record).identity = record.identity
      ∧ (index.prepared record).score = record.score
      ∧ (index.prepared record).safetyState
        = if carriesFailure index record then .failed else record.safetyState := by
  unfold ScannerCandidateIndex.prepared ScannerCandidateIndex.mergeExisting carriesFailure
  cases lookup : index.get record.identity with
  | none => simp
  | some existing =>
      have evidence :
          existing.evidenceMatches { record with eventGeneration := index.eventGeneration }
            = existing.evidenceMatches record := rfl
      cases same : existing.evidenceMatches record with
      | false => simp [evidence, same]
      | true => simp [evidence, same]

/-- A scored candidate is recorded as safe exactly when it is not vetoed. -/
theorem safetyStateFromScore_eq_safe_iff (score : CandidacyScore F)
    : safetyStateFromScore score = .safe ↔ score.vetoed = false := by
  unfold safetyStateFromScore
  cases score.vetoed with
  | false => simp
  | true =>
      simp only [Bool.not_true, Bool.false_eq_true, if_false, reduceCtorEq, iff_false]
      split <;> simp

theorem safetyStateFromScore_ne_failed (score : CandidacyScore F)
    : safetyStateFromScore score ≠ .failed := by
  unfold safetyStateFromScore
  split
  · simp
  · split <;> simp

variable {record : CandidateIndexRecord F} {opaqueTree : Option (OpaqueTreeClassification F)}
variable {snapshot : RecordSnapshot} {score : CandidacyScore F}

/-- A built record carries the score and the state read off it. -/
theorem fromCandidateScore_spec {eventGeneration : Nat}
    (built : CandidateIndexRecord.fromCandidateScore score opaqueTree eventGeneration snapshot
      = .ok (some record))
    : record.score = some score.totalScore
      ∧ record.safetyState = safetyStateFromScore score
      ∧ (∃ identity, score.identity = some identity
          ∧ record.identity = .ofFsIdentity identity) := by
  unfold CandidateIndexRecord.fromCandidateScore at built
  split at built
  · cases built
  · split at built
    · cases built
    · cases built
      exact ⟨rfl, rfl, _, by assumption, rfl⟩

/-- The stored form of a built record is rankable exactly when the score is not vetoed or
a failure is carried over.
-/
theorem prepared_rankable_iff {eventGeneration : Nat} (index : ScannerCandidateIndex F)
    (built : CandidateIndexRecord.fromCandidateScore score opaqueTree eventGeneration snapshot
      = .ok (some record))
    : (index.prepared record).rankable = true
      ↔ score.vetoed = false ∨ carriesFailure index record = true := by
  obtain ⟨_, scored, state⟩ := prepared_spec index record
  obtain ⟨recordScored, recordState, _⟩ := fromCandidateScore_spec built
  rw [CandidateIndexRecord.rankable, scored, state, recordScored, recordState]
  cases carriesFailure index record with
  | true => simp
  | false =>
      have neverFailed := safetyStateFromScore_ne_failed score
      simpa [neverFailed] using safetyStateFromScore_eq_safe_iff score

theorem mem_records_iff (index : ScannerCandidateIndex F) (record : CandidateIndexRecord F)
    : record ∈ index.records.toList.map Prod.snd
      ↔ index.get record.identity = some record := by
  constructor
  · intro member
    obtain ⟨⟨identity, found⟩, stored, rfl⟩ := List.mem_map.mp member
    have lookup := Std.TreeMap.mem_toList_iff_getElem?_eq_some.mp stored
    rw [index.keyed identity found lookup]
    exact lookup
  · intro lookup
    exact List.mem_map.mpr
      ⟨(record.identity, record), Std.TreeMap.mem_toList_iff_getElem?_eq_some.mpr lookup, rfl⟩

section
variable [Float64 F]

/-- Ranked candidates are stored rankable records, since sorting and truncating add
nothing.
-/
theorem mem_rankedCandidateScores {index : ScannerCandidateIndex F} {now : SystemTime}
    {limit : Nat} {candidate : CandidacyScore F}
    (member : candidate ∈ index.rankedCandidateScores now limit)
    : ∃ record, index.get record.identity = some record ∧ record.rankable = true
        ∧ candidate = record.toCandidateScore := by
  obtain ⟨record, taken, rfl⟩ := List.mem_map.mp member
  have sorted := (List.perm_insertionSort _ _).mem_iff.mp (List.mem_of_mem_take taken)
  obtain ⟨stored, ready⟩ := List.mem_filter.mp sorted
  have rankable := (Bool.and_eq_true_iff.mp ready).1
  exact ⟨record, (mem_records_iff index record).mp stored, rankable, rfl⟩

/-- Once its cooldown is over, a stored rankable record is offered under a large enough
limit.
-/
theorem rankable_mem_ranked {index : ScannerCandidateIndex F}
    {record : CandidateIndexRecord F} (lookup : index.get record.identity = some record)
    (rankable : record.rankable = true)
    : ∃ now limit, record.toCandidateScore ∈ index.rankedCandidateScores now limit := by
  let now : SystemTime := (record.cooldownUntilNanos.getD 0 : Nat)
  have rested : index.inCooldown record.identity now = false := by
    unfold ScannerCandidateIndex.inCooldown
    rw [lookup]
    cases until? : record.cooldownUntilNanos with
    | none => simp [until?]
    | some untilNanos => simp [until?, now, systemTimeNanos]
  refine ⟨now, (((index.records.toList.map Prod.snd).filter fun record =>
    record.rankable && !index.inCooldown record.identity now).insertionSort
      ScannerCandidateIndex.ranksBefore).length, ?_⟩
  refine List.mem_map.mpr ⟨record, ?_, rfl⟩
  rw [List.take_length]
  refine (List.perm_insertionSort _ _).mem_iff.mpr (List.mem_filter.mpr ⟨?_, ?_⟩)
  · exact (mem_records_iff index record).mpr lookup
  · simp [rankable, rested]

/-- The ranking is sound at all times and limits exactly when every rankable record is
backed.
-/
theorem ranksOnlyDeletable_iff_backed (self : TrackedIndex F)
    : self.RanksOnlyDeletable ↔ self.Backed := by
  constructor
  · intro sound identity record lookup rankable
    obtain rfl := self.index.keyed identity record lookup
    obtain ⟨now, limit, member⟩ := rankable_mem_ranked lookup rankable
    obtain ⟨identity, same, deletable⟩ := sound now limit _ member
    have equal := IndexedIdentity.toFsIdentity_injective (Option.some.inj same)
    rw [equal]
    exact deletable
  · intro backed now limit candidate member
    obtain ⟨record, lookup, rankable, rfl⟩ := mem_rankedCandidateScores member
    exact ⟨record.identity, rfl, backed _ record lookup rankable⟩

end

/-- Replacing the record of one identity keeps a backed index backed exactly when the new
record is itself backed.
-/
theorem backed_insert_iff {self after : TrackedIndex F} (h : self.Backed)
    (index : after.index = self.index.insert record)
    (others : ∀ identity, identity ≠ record.identity
      → after.latest identity = self.latest identity)
    : after.Backed ↔ (record.rankable = true → after.LatestDeletable record.identity) := by
  constructor
  · intro backed rankable
    refine backed record.identity record ?_ rankable
    rw [index, get_insert, if_pos rfl]
  · intro own identity found lookup rankable
    rw [index, get_insert] at lookup
    by_cases same : record.identity = identity
    · rw [if_pos same] at lookup
      cases lookup
      exact same ▸ own rankable
    · rw [if_neg same] at lookup
      obtain ⟨score, latest, deletable⟩ := h identity found lookup rankable
      exact ⟨score, (others identity (Ne.symm same)).trans latest, deletable⟩

/-- An upsert keeps the index backed exactly when it offers nothing withheld. -/
theorem upsert_backed_iff {self : TrackedIndex F} (h : self.Backed) {eventGeneration : Nat}
    (built : CandidateIndexRecord.fromCandidateScore score opaqueTree eventGeneration snapshot
      = .ok (some record))
    : (self.upsert score record).Backed
      ↔ (score.vetoed = false ∨ carriesFailure self.index record = true
          → score.Deletable) := by
  have same := (prepared_spec self.index record).1
  have others : ∀ identity, identity ≠ record.identity
      → (self.upsert score record).latest identity = self.latest identity := by
    intro identity different
    exact Function.update_of_ne different _ _
  rw [backed_insert_iff h rfl (by simpa only [same] using others), same,
    prepared_rankable_iff self.index built]
  refine imp_congr_right fun _ => ?_
  simp [LatestDeletable, upsert]

/-- Recording a failure keeps the index backed exactly when it does not release a withheld
record.
-/
theorem recordFailure_backed_iff {self : TrackedIndex F} (h : self.Backed)
    (identity : IndexedIdentity) (now : SystemTime) (baseCooldown maxCooldown : Duration)
    : (self.recordFailure identity now baseCooldown maxCooldown).Backed
      ↔ ∀ record, self.index.get identity = some record → isWithheld record = true
          → self.LatestDeletable identity := by
  cases lookup : self.index.get identity with
  | none =>
      have unchanged : self.recordFailure identity now baseCooldown maxCooldown = self := by
        simp [recordFailure, ScannerCandidateIndex.recordFailure, lookup]
      rw [unchanged]
      simpa using h
  | some record =>
      obtain rfl := self.index.keyed identity record lookup
      have replaced :
          (self.recordFailure record.identity now baseCooldown maxCooldown).index
            = self.index.insert
              (ScannerCandidateIndex.failedRecord record now baseCooldown maxCooldown) := by
        simp [recordFailure, ScannerCandidateIndex.recordFailure, lookup]
      rw [backed_insert_iff h replaced fun _ _ => rfl]
      constructor
      · intro own found same withheld
        cases same
        have scored : record.score.isSome = true := (Bool.and_eq_true_iff.mp withheld).1
        exact own (by
          simp [ScannerCandidateIndex.failedRecord, CandidateIndexRecord.rankable, scored])
      · intro released rankable
        have scored : record.score.isSome = true := (Bool.and_eq_true_iff.mp rankable).2
        cases already : record.rankable with
        | true => exact h _ record lookup already
        | false => exact released record rfl (by simp [isWithheld, scored, already])

/-- One operation keeps the index backed exactly when it offers nothing withheld, by cases
on the operation.
-/
theorem step_backed_iff (codec : CheckpointCodec F) (self : TrackedIndex F)
    (op : IndexOp F) (h : self.Backed)
    : (self.step codec op).Backed ↔ self.OffersNothingWithheld codec op := by
  cases op with
  | upsert score opaqueTree eventGeneration snapshot =>
      simp only [step, OffersNothingWithheld]
      cases built : CandidateIndexRecord.fromCandidateScore score opaqueTree eventGeneration
          snapshot with
      | error error => simpa [upsertBuilt] using h
      | ok record? =>
          cases record? with
          | none => simpa [upsertBuilt] using h
          | some record => simpa [upsertBuilt] using upsert_backed_iff h built
  | recordFailure identity now baseCooldown maxCooldown =>
      exact recordFailure_backed_iff h identity now baseCooldown maxCooldown
  | markEventOverflow => exact iff_of_true h trivial
  | saveCheckpoint fault => exact iff_of_true h trivial
  | loadCheckpoint expectedContext fault => exact Iff.rfl

/-- Along a run the ranking offers only candidates whose latest score let them be deleted,
exactly when no operation of the run offers a withheld one. Witness: the exact step law for
backed indices, which an empty index satisfies.
-/
theorem ranked_latest_deletable_iff [Float64 F] (codec : CheckpointCodec F)
    (context : ScannerIndexContext) (ops : List (IndexOp F))
    : (∀ state ∈ states (step codec) (start context) ops, state.RanksOnlyDeletable)
      ↔ Guarded (step codec) (OffersNothingWithheld codec) (start context) ops := by
  have empty : (start context : TrackedIndex F).Backed := by
    intro identity record lookup
    simp [start, ScannerCandidateIndex.get, ScannerCandidateIndex.new] at lookup
  simp only [ranksOnlyDeletable_iff_backed]
  exact invariant_iff_guarded (step_backed_iff codec) empty

def reviewedCandidate : CandidacyScore ℚ :=
  { sampleCandidate .review with identity := some ⟨7, 1, .directory⟩ }

def reviewedScan : IndexOp ℚ :=
  .upsert reviewedCandidate none 0 ⟨.ok (some 200), some 300, none⟩

def exactCodec : CheckpointCodec ℚ where
  reread := some
  integrityHash _ _ _ := .ok []

/-- The index offers a candidate for deletion that was scored for review. -/
theorem ranked_offers_reviewed_candidate
    : ¬ ∀ state ∈ states (step exactCodec) (start ⟨"root-same", "config-same"⟩) [reviewedScan],
        state.RanksOnlyDeletable := by
  intro sound
  have last := sound _ (final_mem_states _ _)
  have backed := (ranksOnlyDeletable_iff_backed _).mp last
  obtain ⟨score, latest, deletable⟩ := backed ⟨7, 1, .directory⟩ _ rfl (by decide)
  have reviewed : score = reviewedCandidate := Option.some.inj (latest.symm.trans rfl)
  rw [reviewed] at deletable
  exact absurd deletable (by decide)

end TrackedIndex

end StorageBallast
