import StorageBallast.Scanner.CheckpointRoundTrip

/-! How long a failed candidate rests in the index. A record keeps its failures for as long as
the candidate looks the same, through new sightings, event overflows and restarts, and loses
them as soon as it looks different.
-/

namespace StorageBallast

variable {F : Type}

open Runs

/-- What has to be the same for two records to describe one unchanged directory entry. -/
structure CandidateEvidence where
  components : List Component
  identity : IndexedIdentity
  mtimeNanos : Nat
  ctimeNanos : Option Nat
  sizeEstimateBytes : Nat
  pruneDecision : IndexedPruneDecision
deriving DecidableEq, Repr

namespace CandidateIndexRecord

def evidence (record : CandidateIndexRecord F) : CandidateEvidence where
  components := record.path.components
  identity := record.identity
  mtimeNanos := record.candidateMtimeNanos
  ctimeNanos := record.candidateCtimeNanos
  sizeEstimateBytes := record.sizeEstimateBytes
  pruneDecision := record.pruneDecision

theorem evidenceMatches_iff {record other : CandidateIndexRecord F}
    : record.evidenceMatches other = true ↔ record.evidence = other.evidence := by
  simp [evidenceMatches, evidence, and_assoc]

end CandidateIndexRecord

namespace ScannerCandidateIndex

def FailsAs (index : ScannerCandidateIndex F) (identity : IndexedIdentity)
    (failed : CandidateIndexRecord F) : Prop :=
  ∃ record, index.get identity = some record ∧ record.failCount = failed.failCount
    ∧ record.cooldownUntilNanos = failed.cooldownUntilNanos ∧ record.evidence = failed.evidence

theorem failsAs_upsert {index : ScannerCandidateIndex F} {identity : IndexedIdentity}
    {failed record : CandidateIndexRecord F} (fails : index.FailsAs identity failed)
    (same : record.identity = identity → record.evidence = failed.evidence)
    : (index.upsert record).FailsAs identity failed := by
  obtain ⟨existing, found, count, cooldown, evidence⟩ := fails
  by_cases own : record.identity = identity
  · have matched : existing.evidenceMatches record = true :=
      CandidateIndexRecord.evidenceMatches_iff.mpr (evidence.trans (same own).symm)
    have stored : (index.prepared record).identity = identity :=
      (TrackedIndex.prepared_spec index record).1.trans own
    refine ⟨index.prepared record, ?_, ?_⟩
    · rw [upsert, TrackedIndex.get_insert, if_pos stored]
    · rw [← own] at found
      have stamped : existing.evidenceMatches
          { record with eventGeneration := index.eventGeneration } = true :=
        matched
      simp only [prepared, mergeExisting, found, stamped, if_true]
      exact ⟨count, cooldown, same own⟩
  · have other : (index.prepared record).identity ≠ identity := by
      rw [(TrackedIndex.prepared_spec index record).1]
      exact own
    refine ⟨existing, ?_, count, cooldown, evidence⟩
    rw [upsert, TrackedIndex.get_insert, if_neg other]
    exact found

theorem failsAs_upserts {index : ScannerCandidateIndex F} {identity : IndexedIdentity}
    {failed : CandidateIndexRecord F} {records : List (CandidateIndexRecord F)}
    (fails : index.FailsAs identity failed)
    (same : ∀ record ∈ records, record.identity = identity
      → record.evidence = failed.evidence)
    : (records.foldl upsert index).FailsAs identity failed := by
  induction records generalizing index with
  | nil => exact fails
  | cons record rest ih =>
      exact ih (failsAs_upsert fails (same record List.mem_cons_self))
        fun later member => same later (List.mem_cons_of_mem _ member)

theorem get_recordFailure (index : ScannerCandidateIndex F) (identity other : IndexedIdentity)
    (now : SystemTime) (base max : Duration)
    : (index.recordFailure other now base max).get identity
      = if other = identity then
          (index.get identity).map fun record => failedRecord record now base max
        else index.get identity := by
  have keyed (record : CandidateIndexRecord F) (found : index.get other = some record)
      : (failedRecord record now base max).identity = other :=
    index.keyed other record found
  by_cases same : other = identity
  · subst same
    rw [if_pos rfl]
    unfold recordFailure
    cases found : index.get other with
    | none => exact found
    | some record => exact (TrackedIndex.get_insert ..).trans (if_pos (keyed record found))
  · rw [if_neg same]
    unfold recordFailure
    cases found : index.get other with
    | none => rfl
    | some record =>
        have elsewhere : (failedRecord record now base max).identity ≠ identity := by
          rw [keyed record found]
          exact same
        exact (TrackedIndex.get_insert ..).trans (if_neg elsewhere)

end ScannerCandidateIndex

def restAfter (failures : Nat) (baseCooldown maxCooldown : Duration) : Duration :=
  min (baseCooldown * 2 ^ min (failures - 1) 31) maxCooldown

/-- One event in the life of an index: an operation, or a restart that loads a checkpoint file
under the context of the index.
-/
inductive IndexEvent (F : Type) where
  | edited (edit : IndexEdit F)
  | reloaded (file : Except CheckpointFault (List UInt8))

/-- An index, and how often in a row the candidate of each identity has failed while it looked
the same.
-/
structure FailureTally (F : Type) where
  index : ScannerCandidateIndex F
  failures : IndexedIdentity → Nat

def CheckpointJson.ReadsBack (json : CheckpointJson F) : Prop :=
  ∀ checkpoint bytes, json.toWriter checkpoint = .ok bytes
    → json.fromReader bytes = .ok (checkpoint.reread json.codec)

namespace FailureTally

open ScannerCandidateIndex

def ofIndex (index : ScannerCandidateIndex F) : FailureTally F where
  index
  failures identity := (index.get identity).elim 0 (·.failCount)

def knows (self : FailureTally F) (record : CandidateIndexRecord F) : Bool :=
  (self.index.get record.identity).any (·.evidenceMatches record)

/-- The failures after an operation. A record that looks different brings its own. -/
def countEdit (self : FailureTally F) : IndexEdit F → IndexedIdentity → Nat
  | .upsert record =>
      if self.knows record then self.failures
      else Function.update self.failures record.identity record.failCount
  | .recordFailure identity _ _ _ =>
      if (self.index.get identity).isSome then
        Function.update self.failures identity (self.failures identity + 1)
      else self.failures
  | .markEventOverflow => self.failures

def step (json : CheckpointJson F) (self : FailureTally F) : IndexEvent F → FailureTally F
  | .edited edit => ⟨self.index.edit edit, self.countEdit edit⟩
  | .reloaded file => ⟨(loadFile json self.index.context file).1, self.failures⟩

def RoundTrips (json : CheckpointJson F) (self : FailureTally F) : IndexEvent F → Prop
  | .edited _ => True
  | .reloaded file =>
      ∃ bytes, self.index.saveCheckpoint json = .ok bytes ∧ file = .ok bytes
        ∧ (loadFile json self.index.context file).2 = .loaded

/-- The event neither shows the candidate of the identity as anything else nor fails it. -/
def Spares (json : CheckpointJson F) (identity : IndexedIdentity) (evidence : CandidateEvidence)
    (self : FailureTally F) : IndexEvent F → Prop
  | .edited (.upsert record) => record.identity = identity → record.evidence = evidence
  | .edited (.recordFailure other _ _ _) => other ≠ identity
  | .edited .markEventOverflow => True
  | .reloaded file => self.RoundTrips json (.reloaded file)

def Counted (self : FailureTally F) : Prop :=
  ∀ identity record, self.index.get identity = some record
    → min record.failCount 32 = min (self.failures identity) 32

variable {json : CheckpointJson F}

/-- After a round trip each record is there again, with its score read from a text. -/
theorem get_reloaded (readsBack : json.ReadsBack)
    {self : FailureTally F} {file : Except CheckpointFault (List UInt8)}
    (trip : self.RoundTrips json (.reloaded file)) (identity : IndexedIdentity)
    : (self.step json (.reloaded file)).index.get identity
      = (self.index.get identity).map fun record =>
          { record with score := record.score.bind json.reread } := by
  obtain ⟨bytes, written, rfl, loaded⟩ := trip
  unfold saveCheckpoint at written
  cases made : self.index.checkpoint json.codec with
  | error details => simp [made] at written
  | ok checkpoint =>
      cases text : json.toWriter checkpoint with
      | error details => simp [made, text] at written
      | ok stored =>
          simp only [made, text, Except.ok.injEq] at written
          obtain rfl := written
          have records : checkpoint.records = self.index.records.toList.map Prod.snd := by
            unfold ScannerCandidateIndex.checkpoint at made
            dsimp only at made
            split at made
            · cases made
            · cases made
              rfl
          obtain ⟨-, fresh⟩ | ⟨bytes, read, same, parsed, -, -, -, outcome⟩ :=
            loadFile_trusted json self.index.context (.ok stored)
          · exact absurd loaded fresh
          · cases same
            rw [readsBack checkpoint stored text] at parsed
            cases parsed
            change (loadFile json self.index.context (.ok stored)).1.get identity = _
            rw [outcome]
            dsimp only [ScannerIndexCheckpoint.reread]
            rw [records]
            have absent (generation : Nat)
                : get { new self.index.context with eventGeneration := generation } identity
                  = (none : Option (CandidateIndexRecord F)) := Std.TreeMap.getElem?_emptyc
            exact get_rebuilt self.index _ (fun record =>
              { record with score := record.score.bind json.reread }) (fun _ => rfl) identity
                (absent _)

theorem get_upsert (index : ScannerCandidateIndex F) (record : CandidateIndexRecord F)
    (identity : IndexedIdentity)
    : (index.upsert record).get identity
      = if record.identity = identity then some (index.prepared record)
        else index.get identity := by
  rw [upsert, TrackedIndex.get_insert, (TrackedIndex.prepared_spec index record).1]

theorem get_failed (json : CheckpointJson F) (self : FailureTally F) (identity : IndexedIdentity)
    (now : SystemTime) (baseCooldown maxCooldown : Duration)
    : (self.step json (.edited (.recordFailure identity now baseCooldown maxCooldown))).index.get
        identity
      = (self.index.get identity).map fun record =>
          failedRecord record now baseCooldown maxCooldown :=
  (get_recordFailure self.index identity identity now baseCooldown maxCooldown).trans (if_pos rfl)

/-- What is stored of a record that the index knows, and of one that it does not. -/
theorem prepared_history (self : FailureTally F) (record : CandidateIndexRecord F)
    : (∃ existing, self.index.get record.identity = some existing ∧ self.knows record = true
        ∧ (self.index.prepared record).failCount = existing.failCount)
      ∨ self.knows record = false
        ∧ self.index.prepared record
          = { record with eventGeneration := self.index.eventGeneration } := by
  unfold knows prepared mergeExisting
  cases found : self.index.get record.identity with
  | none => exact .inr ⟨rfl, rfl⟩
  | some existing =>
      have stamped : existing.evidenceMatches
          { record with eventGeneration := self.index.eventGeneration }
            = existing.evidenceMatches record := rfl
      cases same : existing.evidenceMatches record with
      | true => exact .inl ⟨existing, rfl, same, by simp [stamped, same]⟩
      | false => exact .inr ⟨same, by simp [stamped, same]⟩

/-- Each event keeps the failures counted, by cases on the event. -/
theorem step_counted (readsBack : json.ReadsBack)
    (self : FailureTally F) (event : IndexEvent F) (counted : self.Counted)
    (trip : self.RoundTrips json event) : (self.step json event).Counted := by
  intro identity record found
  cases event with
  | reloaded file =>
      rw [get_reloaded readsBack trip identity] at found
      obtain ⟨before, stored, rfl⟩ := Option.map_eq_some_iff.mp found
      exact counted identity before stored
  | edited edit =>
  cases edit with
  | markEventOverflow => exact counted identity record found
  | upsert upserted =>
      change (self.index.upsert upserted).get identity = some record at found
      change min record.failCount 32 = min (self.countEdit (.upsert upserted) identity) 32
      rw [get_upsert] at found
      simp only [countEdit]
      by_cases own : upserted.identity = identity
      · rw [if_pos own] at found
        obtain rfl := own
        obtain ⟨existing, stored, known, kept⟩ | ⟨unknown, fresh⟩ :=
          self.prepared_history upserted
        · cases found
          rw [known, if_pos rfl, kept]
          exact counted _ existing stored
        · rw [fresh] at found
          cases found
          rw [unknown, if_neg Bool.false_ne_true, Function.update_self]
      · rw [if_neg own] at found
        have untouched := counted identity record found
        split
        · exact untouched
        · rw [Function.update_of_ne (Ne.symm own)]
          exact untouched
  | recordFailure failing now baseCooldown maxCooldown =>
      change (self.index.recordFailure failing now baseCooldown maxCooldown).get identity
        = some record at found
      change min record.failCount 32
        = min (self.countEdit (.recordFailure failing now baseCooldown maxCooldown) identity) 32
      rw [get_recordFailure] at found
      simp only [countEdit]
      by_cases own : failing = identity
      · rw [if_pos own] at found
        obtain ⟨before, stored, rfl⟩ := Option.map_eq_some_iff.mp found
        have former := counted identity before stored
        have range : maxU32 = 4294967295 := by decide
        rw [own, stored, Option.isSome_some, if_pos rfl, Function.update_self]
        simp only [failedRecord]
        omega
      · rw [if_neg own] at found
        have untouched := counted identity record found
        split
        · rw [Function.update_of_ne (Ne.symm own)]
          exact untouched
        · exact untouched

/-- A failure sets the rest that the failures in a row call for. -/
theorem failedRecord_cooldown {record : CandidateIndexRecord F} {failures : Nat}
    (counted : min record.failCount 32 = min failures 32) (now : SystemTime)
    (baseCooldown : Duration) {maxCooldown : Duration} (ranged : maxCooldown ≤ Duration.max)
    : (failedRecord record now baseCooldown maxCooldown).cooldownUntilNanos
      = some (systemTimeNanos
          (now + (restAfter (failures + 1) baseCooldown maxCooldown : Nat))) := by
  have range : maxU32 = 4294967295 := by decide
  have shift : min (min (record.failCount + 1) maxU32 - 1) 31 = min (failures + 1 - 1) 31 := by
    omega
  simp only [failedRecord, restAfter, Duration.saturatingMul, shift]
  rw [min_assoc, min_eq_right ranged]

variable {failed : CandidateIndexRecord F} {identity : IndexedIdentity}

/-- Events that spare a candidate leave its failures as they are. -/
theorem step_failsAs (readsBack : json.ReadsBack) (self : FailureTally F)
    (event : IndexEvent F) (fails : self.index.FailsAs identity failed)
    (spared : self.Spares json identity failed.evidence event)
    : (self.step json event).index.FailsAs identity failed := by
  cases event with
  | reloaded file =>
      obtain ⟨record, stored, count, cooldown, evidence⟩ := fails
      refine ⟨{ record with score := record.score.bind json.reread }, ?_, count, cooldown, evidence⟩
      rw [get_reloaded readsBack spared identity, stored, Option.map_some]
  | edited edit =>
  cases edit with
  | markEventOverflow => exact fails
  | upsert record => exact failsAs_upsert fails spared
  | recordFailure other now baseCooldown maxCooldown =>
      obtain ⟨record, stored, history⟩ := fails
      refine ⟨record, ?_, history⟩
      change (self.index.recordFailure other now baseCooldown maxCooldown).get identity
        = some record
      rw [get_recordFailure, if_neg spared, stored]

/-- Until the end the index holds the candidate back, whatever it is asked. -/
structure RestsUntil [Float64 F] (index : ScannerCandidateIndex F) (identity : IndexedIdentity)
    (evidence : CandidateEvidence) (restEnd : SystemTime) : Prop where
  inCooldown : ∀ now < restEnd, index.inCooldown identity now = true
  candidateInCooldown : ∀ now < restEnd, ∀ record : CandidateIndexRecord F,
    record.identity = identity → record.evidence = evidence
    → index.candidateInCooldown record now = true
  unranked : ∀ now < restEnd, ∀ limit, ∀ candidate ∈ index.rankedCandidateScores now limit,
    candidate.identity ≠ some identity.toFsIdentity

def IsBuilt (record : CandidateIndexRecord F) : Prop :=
  ∃ score opaqueTree eventGeneration snapshot,
    CandidateIndexRecord.fromCandidateScore score opaqueTree eventGeneration snapshot
      = .ok (some record)

/-- A record of the identity that looks different takes the place of the old one with its own
history of failures, and with none if it was built from a score.
-/
structure ClearsOn (index : ScannerCandidateIndex F) (identity : IndexedIdentity)
    (evidence : CandidateEvidence) : Prop where
  replaced : ∀ record, record.identity = identity → record.evidence ≠ evidence
    → (index.upsert record).get identity
      = some { record with eventGeneration := index.eventGeneration }
  cleared : ∀ record, record.identity = identity → record.evidence ≠ evidence → IsBuilt record
    → (∃ stored, (index.upsert record).get identity = some stored ∧ stored.failCount = 0)
      ∧ ∀ now, (index.upsert record).inCooldown identity now = false
        ∧ (index.upsert record).candidateInCooldown record now = false

theorem IsBuilt.unfailed {record : CandidateIndexRecord F} (built : IsBuilt record)
    : record.failCount = 0 ∧ record.cooldownUntilNanos = none := by
  obtain ⟨score, opaqueTree, eventGeneration, snapshot, made⟩ := built
  unfold CandidateIndexRecord.fromCandidateScore at made
  split at made
  · cases made
  · split at made
    · cases made
    · cases made
      exact ⟨rfl, rfl⟩

/-- A record that fails rests until its cooldown is over, if that is after the epoch. -/
theorem restsUntil_of_failsAs [Float64 F] {index : ScannerCandidateIndex F}
    {restEnd : SystemTime} (fails : index.FailsAs identity failed)
    (set : failed.cooldownUntilNanos = some (systemTimeNanos restEnd)) (after : 0 < restEnd)
    : RestsUntil index identity failed.evidence restEnd := by
  obtain ⟨record, stored, -, cooldown, evidence⟩ := fails
  have resting (now : SystemTime) (early : now < restEnd)
      : index.inCooldown identity now = true := by
    have sooner : systemTimeNanos now < systemTimeNanos restEnd :=
      (Int.toNat_lt_toNat after).mpr early
    simp only [ScannerCandidateIndex.inCooldown, stored, cooldown, set, Option.any_some]
    exact decide_eq_true sooner
  refine ⟨resting, ?_, ?_⟩
  · intro now early sighted own same
    have matched : record.evidenceMatches sighted = true :=
      CandidateIndexRecord.evidenceMatches_iff.mpr (evidence.trans same.symm)
    subst own
    simp only [ScannerCandidateIndex.candidateInCooldown, stored, Option.any_some, matched,
      Bool.true_and]
    exact resting now early
  · intro now early limit candidate member own
    -- What is ranked has passed the filter, and so its identity is not resting.
    obtain ⟨ranked, taken, rfl⟩ := List.mem_map.mp member
    have sorted := (List.perm_insertionSort _ _).mem_iff.mp (List.mem_of_mem_take taken)
    have ready := (Bool.and_eq_true_iff.mp (List.mem_filter.mp sorted).2).2
    have same : ranked.identity = identity :=
      IndexedIdentity.toFsIdentity_injective (Option.some.inj own)
    rw [same, resting now early] at ready
    cases ready

/-- A record that looks different is not known, so it is stored as it is. -/
theorem clearsOn_of_failsAs {index : ScannerCandidateIndex F}
    (fails : index.FailsAs identity failed)
    : ClearsOn index identity failed.evidence := by
  have replaced (record : CandidateIndexRecord F) (own : record.identity = identity)
      (differs : record.evidence ≠ failed.evidence)
      : (index.upsert record).get identity
        = some { record with eventGeneration := index.eventGeneration } := by
    rw [get_upsert, if_pos own]
    obtain ⟨existing, stored, known, -⟩ | ⟨-, fresh⟩ := (ofIndex index).prepared_history record
    · obtain ⟨held, found, -, -, evidence⟩ := fails
      subst own
      have matched : held.evidenceMatches record = true := by
        have known : (index.get record.identity).any (·.evidenceMatches record) = true := known
        rwa [found] at known
      exact absurd ((CandidateIndexRecord.evidenceMatches_iff.mp matched).symm.trans evidence)
        differs
    · exact congrArg some fresh
  refine ⟨replaced, fun record own differs built => ?_⟩
  obtain ⟨none, rested⟩ := built.unfailed
  have stored := replaced record own differs
  have awake (now : SystemTime) : (index.upsert record).inCooldown identity now = false := by
    simp only [ScannerCandidateIndex.inCooldown, stored, rested, Option.any_none]
  refine ⟨⟨_, stored, none⟩, fun now => ⟨awake now, ?_⟩⟩
  subst own
  simp only [ScannerCandidateIndex.candidateInCooldown, stored, Option.any_some, awake,
    Bool.and_false]

/-- After a failure of a candidate the index rests it for as long as its failures in a row call
for, through whatever spares it, and forgets about them when it looks different.
-/
theorem failure_rests [Float64 F] {json : CheckpointJson F} (readsBack : json.ReadsBack)
    {start : ScannerCandidateIndex F} {before : List (IndexEvent F)}
    (trips : Guarded (step json) (RoundTrips json) (ofIndex start) before)
    {identity : IndexedIdentity} {existing : CandidateIndexRecord F}
    (present : (final (step json) (ofIndex start) before).index.get identity = some existing)
    (now : SystemTime) (baseCooldown : Duration) {maxCooldown : Duration}
    (ranged : maxCooldown ≤ Duration.max) {later : List (IndexEvent F)}
    (spared : Guarded (step json) (Spares json identity existing.evidence)
      ((final (step json) (ofIndex start) before).step json
        (.edited (.recordFailure identity now baseCooldown maxCooldown))) later)
    : let failed := (final (step json) (ofIndex start) before).step json
        (.edited (.recordFailure identity now baseCooldown maxCooldown))
      let index := (final (step json) failed later).index
      let restEnd := now + (restAfter (failed.failures identity) baseCooldown maxCooldown : Nat)
      (0 < restEnd → RestsUntil index identity existing.evidence restEnd)
        ∧ ClearsOn index identity existing.evidence := by
  intro failed index restEnd
  have empty : (ofIndex start).Counted := by
    intro identity record found
    simp only [ofIndex] at found ⊢
    rw [found, Option.elim_some]
  have counted := invariant_of_guarded (step_counted readsBack) empty trips _
    (final_mem_states _ _)
  let record := failedRecord existing now baseCooldown maxCooldown
  have number : failed.failures identity
      = (final (step json) (ofIndex start) before).failures identity + 1 := by
    simp only [failed, step, countEdit, present, Option.isSome_some, if_true,
      Function.update_self]
  have fails : failed.index.FailsAs identity record := by
    refine ⟨record, ?_, rfl, rfl, rfl⟩
    rw [get_failed, present, Option.map_some]
  have kept : index.FailsAs identity record :=
    @invariant_of_guarded _ _ (step json) _ (fun self => self.index.FailsAs identity record) _ _
      (fun self event => step_failsAs readsBack self event) fails spared _
      (final_mem_states _ _)
  have set : record.cooldownUntilNanos = some (systemTimeNanos restEnd) := by
    have cooldown := failedRecord_cooldown (counted identity existing present) now baseCooldown
      ranged
    rw [← number] at cooldown
    exact cooldown
  have same : record.evidence = existing.evidence := rfl
  rw [← same]
  exact ⟨restsUntil_of_failsAs kept set, clearsOn_of_failsAs kept⟩

def sampleRestart : List (IndexEvent ℚ) :=
  [.edited (.upsert sampleRecord), .reloaded (.ok (utf8 sampleCheckpointText))]

def sampleFailure (now : SystemTime) : IndexEvent ℚ :=
  .edited (.recordFailure sampleRecord.identity now (.fromSecs 5) (.fromSecs 3600))

def failedSample (now : SystemTime) : FailureTally ℚ :=
  (final (step sampleJson) (ofIndex (new sampleContext)) sampleRestart).step sampleJson
    (sampleFailure now)

def sampleRescan : List (IndexEvent ℚ) :=
  [.edited .markEventOverflow, .edited (.upsert sampleRecord)]

theorem sampleJson_readsBack : sampleJson.ReadsBack := sampleJson_lawful.readBack

theorem sampleRestart_trips
    : Guarded (step sampleJson) (RoundTrips sampleJson) (ofIndex (new sampleContext))
        sampleRestart := by
  obtain ⟨loaded, trusted, -⟩ := sample_roundTrips
  have status : (loadFile sampleJson sampleContext (.ok (utf8 sampleCheckpointText))).2
      = .loaded := by
    rw [trusted]
  exact ⟨trivial, ⟨_, sample_saved, rfl, status⟩, trivial⟩

theorem sampleRestart_present
    : (final (step sampleJson) (ofIndex (new sampleContext)) sampleRestart).index.get
        sampleRecord.identity = some sampleRecord := by
  have trip := sampleRestart_trips.2.1
  exact (get_reloaded sampleJson_readsBack trip sampleRecord.identity).trans rfl

theorem sampleRescan_spared (now : SystemTime)
    : Guarded (step sampleJson) (Spares sampleJson sampleRecord.identity sampleRecord.evidence)
        (failedSample now) sampleRescan :=
  ⟨trivial, fun _ => rfl, trivial⟩

/-- The sample fails ten seconds after the epoch and is seen again. -/
theorem failedSample_rests
    : let failed := failedSample 10000000000
      let index := (final (step sampleJson) failed sampleRescan).index
      let restEnd : SystemTime := 10000000000
        + (restAfter (failed.failures sampleRecord.identity) (.fromSecs 5) (.fromSecs 3600) : Nat)
      (0 < restEnd → RestsUntil index sampleRecord.identity sampleRecord.evidence restEnd)
        ∧ ClearsOn index sampleRecord.identity sampleRecord.evidence :=
  failure_rests sampleJson_readsBack sampleRestart_trips sampleRestart_present 10000000000
    (.fromSecs 5) (by decide) (sampleRescan_spared 10000000000)

/-- Ten seconds before the epoch the sample fails for the first time. It should rest for five
seconds, but two seconds later it does not.
-/
theorem failedSample_unrested
    : ¬ RestsUntil (failedSample (-10000000000)).index sampleRecord.identity sampleRecord.evidence
        (-10000000000 + (restAfter 1 (.fromSecs 5) (.fromSecs 3600) : Nat)) := by
  intro rests
  have resting := rests.inCooldown (-8000000000) (by decide +kernel)
  have stored : (failedSample (-10000000000)).index.get sampleRecord.identity
      = some (failedRecord sampleRecord (-10000000000) (.fromSecs 5) (.fromSecs 3600)) := by
    rw [failedSample, sampleFailure, get_failed, sampleRestart_present, Option.map_some]
  simp only [ScannerCandidateIndex.inCooldown, stored] at resting
  exact absurd resting (by decide)

end FailureTally

end StorageBallast
