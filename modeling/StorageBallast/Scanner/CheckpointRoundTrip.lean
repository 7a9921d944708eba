import StorageBallast.Core.Errors
import StorageBallast.Scanner.IndexProvenance

/-! Checkpoints of the candidate index, from the bytes that are written to the index that is
loaded. The records leave the map as a list and come back into it one by one, and a file is
trusted only under its version, its context and its digest.
-/

namespace StorageBallast

open Runs

/-- The low bytes of a number, least significant first, as `to_le_bytes` gives them. -/
def leBytes : Nat → Nat → List UInt8
  | 0, _ => []
  | count + 1, value => UInt8.ofNat (value % 256) :: leBytes count (value / 256)

@[simp] theorem leBytes_length (count value : Nat) : (leBytes count value).length = count := by
  induction count generalizing value with
  | zero => rfl
  | succ count ih => rw [leBytes, List.length_cons, ih]

/-- Numbers that fit are told apart by their bytes, by induction on how many there are. -/
theorem leBytes_injective {count left right : Nat} (leftFits : left < 256 ^ count)
    (rightFits : right < 256 ^ count) (same : leBytes count left = leBytes count right)
    : left = right := by
  induction count generalizing left right with
  | zero =>
      rw [Nat.pow_zero] at leftFits rightFits
      omega
  | succ count ih =>
      rw [Nat.pow_succ] at leftFits rightFits
      obtain ⟨low, high⟩ := List.cons.inj same
      have remainder : left % 256 = right % 256 := by
        have bytes := congrArg UInt8.toNat low
        rw [UInt8.toNat_ofNat', UInt8.toNat_ofNat'] at bytes
        omega
      have quotient : left / 256 = right / 256 := ih (by omega) (by omega) high
      omega

/-- The JSON texts of checkpoints and the digest over them, which the program takes from
libraries.
-/
structure CheckpointJson (F : Type) where
  contextToVec : ScannerIndexContext → Except String (List UInt8)
  recordsToVec : List (CandidateIndexRecord F) → Except String (List UInt8)
  toWriter : ScannerIndexCheckpoint F → Except String (List UInt8)
  fromReader : List UInt8 → Except String (ScannerIndexCheckpoint F)
  sha256 : List UInt8 → List UInt8
  /-- A score as reading its JSON text gives it back. -/
  reread : F → Option F

namespace CheckpointJson

variable {F : Type}

/-- The digest over the context, the generation and the records, in this order. -/
def checkpointIntegrityHash (json : CheckpointJson F) (context : ScannerIndexContext)
    (eventGeneration : Nat) (records : List (CandidateIndexRecord F))
    : Except String (List UInt8) :=
  let failure (details : String) :=
    (SbhError.serialization "scanner_candidate_index_integrity" details).toString
  match json.contextToVec context with
  | .error details => .error (failure details)
  | .ok contextBytes =>
      match json.recordsToVec records with
      | .error details => .error (failure details)
      | .ok recordsBytes =>
          .ok (json.sha256 (contextBytes ++ leBytes 8 eventGeneration ++ recordsBytes))

def codec (json : CheckpointJson F) : CheckpointCodec F where
  reread := json.reread
  integrityHash := json.checkpointIntegrityHash

end CheckpointJson

def CandidateIndexRecord.HasFiniteScore {F : Type} [Float64 F]
    (record : CandidateIndexRecord F) : Prop :=
  ∀ score, record.score = some score → Float64.isFinite score = true

/-- The libraries do what is asked of them. A written checkpoint reads back with its scores
read again, and finite scores survive that. Equal texts come from records that read alike,
the text of a context ends where it ends whatever follows it, and no two byte strings share
their digest. What is read has a 64-bit generation and finite scores, since JSON has no other
numbers.
-/
structure CheckpointJson.Lawful {F : Type} [Float64 F] (json : CheckpointJson F) : Prop where
  readBack : ∀ checkpoint bytes,
    json.toWriter checkpoint = .ok bytes
    → json.fromReader bytes = .ok (checkpoint.reread json.codec)
  exact : ∀ score, Float64.isFinite score = true → json.reread score = some score
  recordsDiffer : ∀ left right bytes,
    json.recordsToVec left = .ok bytes → json.recordsToVec right = .ok bytes
    → left.map (fun record => { record with score := record.score.bind json.reread })
      = right.map (fun record => { record with score := record.score.bind json.reread })
  contextDelimited : ∀ left right leftBytes rightBytes leftRest rightRest,
    json.contextToVec left = .ok leftBytes → json.contextToVec right = .ok rightBytes
    → leftBytes ++ leftRest = rightBytes ++ rightRest → left = right ∧ leftRest = rightRest
  sha256_injective : Function.Injective json.sha256
  readGeneration : ∀ bytes checkpoint,
    json.fromReader bytes = .ok checkpoint
    → checkpoint.eventGeneration ≤ ScannerCandidateIndex.maxU64
  readFinite : ∀ bytes checkpoint,
    json.fromReader bytes = .ok checkpoint
    → ∀ record ∈ checkpoint.records, record.HasFiniteScore

inductive IndexEdit (F : Type) where
  | upsert (record : CandidateIndexRecord F)
  | recordFailure (identity : IndexedIdentity) (now : SystemTime)
      (baseCooldown maxCooldown : Duration)
  | markEventOverflow

namespace ScannerCandidateIndex

variable {F : Type}

def edit (self : ScannerCandidateIndex F) : IndexEdit F → ScannerCandidateIndex F
  | .upsert record => self.upsert record
  | .recordFailure identity now baseCooldown maxCooldown =>
      self.recordFailure identity now baseCooldown maxCooldown
  | .markEventOverflow => self.markEventOverflow

def edited (context : ScannerIndexContext) (edits : List (IndexEdit F))
    : ScannerCandidateIndex F :=
  final edit (new context) edits

/-- What a save leaves in the checkpoint file, which takes the place of the old one only when
it is complete.
-/
def saveCheckpoint (json : CheckpointJson F) (self : ScannerCandidateIndex F)
    : Except String (List UInt8) :=
  match self.checkpoint json.codec with
  | .error details => .error details
  | .ok checkpoint =>
      match json.toWriter checkpoint with
      | .error details =>
          .error (SbhError.serialization "scanner_candidate_index_write" details).toString
      | .ok bytes => .ok bytes

def loadFile (json : CheckpointJson F) (expectedContext : ScannerIndexContext)
    (file : Except CheckpointFault (List UInt8))
    : ScannerCandidateIndex F × ScannerIndexLoadStatus :=
  loadCheckpoint json.codec expectedContext <|
    match file with
    | .error fault => .error fault
    | .ok bytes =>
        match json.fromReader bytes with
        | .error error => .error (.malformed error)
        | .ok checkpoint => .ok checkpoint

def SameAs (self other : ScannerCandidateIndex F) : Prop :=
  self.context = other.context ∧ self.eventGeneration = other.eventGeneration
    ∧ self.records.toList = other.records.toList

theorem records_nodup (self : ScannerCandidateIndex F) : self.records.toList.Nodup := by
  refine Std.TreeMap.distinct_keys_toList.imp fun {left right} apart same => apart ?_
  rw [same]
  exact Std.LawfulEqCmp.compare_eq_iff_eq.mpr rfl

theorem toList_eq_of_get {self other : ScannerCandidateIndex F}
    (alike : ∀ identity, self.get identity = other.get identity)
    : self.records.toList = other.records.toList := by
  refine Std.TreeMap.equiv_iff_toList_eq.mp (Std.TreeMap.Equiv.of_toList_perm ?_)
  refine (List.perm_ext_iff_of_nodup self.records_nodup other.records_nodup).mpr ?_
  rintro ⟨identity, record⟩
  rw [Std.TreeMap.mem_toList_iff_getElem?_eq_some, Std.TreeMap.mem_toList_iff_getElem?_eq_some]
  change self.get identity = some record ↔ other.get identity = some record
  rw [alike identity]

/-- Records stored one after the other, by induction on them: each identity reads back the last
record stored under it.
-/
theorem get_foldl_insert (records : List (CandidateIndexRecord F))
    (index : ScannerCandidateIndex F) (identity : IndexedIdentity)
    : (records.foldl insert index).get identity
      = ((records.reverse.find? (·.identity = identity)).or (index.get identity)) := by
  induction records generalizing index with
  | nil => rfl
  | cons record rest ih =>
      rw [List.foldl_cons, ih, TrackedIndex.get_insert, List.reverse_cons, List.find?_append]
      by_cases own : record.identity = identity
      · simp [own]
      · simp [own]

/-- Storing leaves the generation and the context as they are. -/
theorem foldl_insert_kept (records : List (CandidateIndexRecord F))
    (index : ScannerCandidateIndex F)
    : (records.foldl insert index).context = index.context
      ∧ (records.foldl insert index).eventGeneration = index.eventGeneration := by
  induction records generalizing index with
  | nil => exact ⟨rfl, rfl⟩
  | cons record rest ih => exact ih (index.insert record)

/-- Records stored one after the other into an empty index, each changed on its way but for its
identity.
-/
theorem get_rebuilt (self empty : ScannerCandidateIndex F)
    (change : CandidateIndexRecord F → CandidateIndexRecord F)
    (kept : ∀ record, (change record).identity = record.identity)
    (identity : IndexedIdentity) (absent : empty.get identity = none)
    : (((self.records.toList.map Prod.snd).map change).foldl insert empty).get identity
      = (self.get identity).map change := by
  rw [get_foldl_insert, absent, Option.or_none, ← List.map_reverse, List.find?_map]
  have alike : (fun record : CandidateIndexRecord F => decide (record.identity = identity)) ∘ change
      = fun record => decide (record.identity = identity) := by
    funext record
    simp [kept record]
  rw [alike]
  congr 1
  refine Option.ext fun record => ?_
  constructor
  · intro found
    have own : record.identity = identity := by simpa using List.find?_some found
    have member := List.mem_reverse.mp (List.mem_of_find?_eq_some found)
    rw [← own]
    exact (TrackedIndex.mem_records_iff self record).mp member
  · intro lookup
    have own := self.keyed identity record lookup
    have member : record ∈ self.records.toList.map Prod.snd := by
      rw [TrackedIndex.mem_records_iff, own, lookup]
    -- Whatever is found first has the identity, and so it is what the map holds there.
    cases found : (self.records.toList.map Prod.snd).reverse.find? (·.identity = identity) with
    | none =>
        have apart := List.find?_eq_none.mp found record (List.mem_reverse.mpr member)
        simp [own] at apart
    | some other =>
        have otherOwn : other.identity = identity := by simpa using List.find?_some found
        have stored := List.mem_reverse.mp (List.mem_of_find?_eq_some found)
        rw [TrackedIndex.mem_records_iff, otherOwn, lookup] at stored
        exact stored.symm ▸ rfl

theorem rebuilt_same (self : ScannerCandidateIndex F)
    : SameAs ((self.records.toList.map Prod.snd).foldl insert
        { new self.context with eventGeneration := self.eventGeneration }) self := by
  obtain ⟨context, generation⟩ := foldl_insert_kept (self.records.toList.map Prod.snd)
    { new self.context with eventGeneration := self.eventGeneration }
  refine ⟨context, generation, toList_eq_of_get fun identity => ?_⟩
  have rebuilt := get_rebuilt self { new self.context with eventGeneration := self.eventGeneration }
    id (fun _ => rfl) identity Std.TreeMap.getElem?_emptyc
  rw [List.map_id, Option.map_id] at rebuilt
  exact rebuilt

/-- What operations keep true of an index: its generation is a 64-bit number, and its records
have finite scores.
-/
structure Storable [Float64 F] (index : ScannerCandidateIndex F) : Prop where
  generation : index.eventGeneration ≤ maxU64
  finite : ∀ identity record, index.get identity = some record → record.HasFiniteScore

section
variable [Float64 F] {self : ScannerCandidateIndex F}

theorem Storable.insert (storable : self.Storable)
    {record : CandidateIndexRecord F} (finite : record.HasFiniteScore)
    : (self.insert record).Storable := by
  refine ⟨storable.generation, fun identity found lookup => ?_⟩
  rw [TrackedIndex.get_insert] at lookup
  split at lookup
  · cases lookup
    exact finite
  · exact storable.finite identity found lookup

def FiniteEdit : IndexEdit F → Prop
  | .upsert record => record.HasFiniteScore
  | .recordFailure _ _ _ _ => True
  | .markEventOverflow => True

/-- Each operation keeps an index storable: a merge and a failure leave the score alone, and
the generation saturates.
-/
theorem Storable.edit (storable : self.Storable)
    {edit : IndexEdit F} (finite : FiniteEdit edit) : (self.edit edit).Storable := by
  cases edit with
  | upsert record =>
      have scored : (self.prepared record).score = record.score :=
        (TrackedIndex.prepared_spec self record).2.1
      exact storable.insert fun score kept => finite score (scored ▸ kept)
  | recordFailure identity now baseCooldown maxCooldown =>
      change (self.recordFailure identity now baseCooldown maxCooldown).Storable
      unfold recordFailure
      cases lookup : self.get identity with
      | none => exact storable
      | some record =>
          have scored : (failedRecord record now baseCooldown maxCooldown).score = record.score :=
            rfl
          exact storable.insert
            fun score kept => storable.finite identity record lookup score (scored ▸ kept)
  | markEventOverflow => exact ⟨Nat.min_le_right _ _, storable.finite⟩

theorem edited_storable (context : ScannerIndexContext) {edits : List (IndexEdit F)}
    (finite : ∀ edit ∈ edits, FiniteEdit edit) : (edited context edits).Storable := by
  have start : (new context : ScannerCandidateIndex F).Storable :=
    ⟨Nat.zero_le _, fun identity record lookup => by simp [get, new] at lookup⟩
  exact List.foldlRecOn edits edit start
    fun self storable edit member => storable.edit (finite edit member)

omit [Float64 F] in
theorem edited_context (context : ScannerIndexContext) (edits : List (IndexEdit F))
    : (edited context edits).context = context := by
  have start : (new context : ScannerCandidateIndex F).context = context := rfl
  refine List.foldlRecOn (motive := fun self => self.context = context) edits edit start ?_
  intro self kept operation member
  cases operation with
  | upsert record => exact kept
  | recordFailure identity now baseCooldown maxCooldown =>
      change (self.recordFailure identity now baseCooldown maxCooldown).context = context
      unfold recordFailure
      split
      · exact kept
      · exact kept
  | markEventOverflow => exact kept

/-- The scores of storable records survive being written and read. -/
theorem Storable.reread {json : CheckpointJson F} (lawful : json.Lawful)
    {records : List (CandidateIndexRecord F)}
    (finite : ∀ record ∈ records, record.HasFiniteScore)
    : records.map (fun record => { record with score := record.score.bind json.reread })
      = records := by
  refine (List.map_congr_left fun record member => ?_).trans (List.map_id records)
  have same : record.score.bind json.reread = record.score := by
    cases scored : record.score with
    | none => rfl
    | some score => exact lawful.exact score (finite record member score scored)
  rw [same, id_eq]

theorem Storable.mem_finite (storable : self.Storable)
    {record : CandidateIndexRecord F} (member : record ∈ self.records.toList.map Prod.snd)
    : record.HasFiniteScore :=
  storable.finite record.identity record ((TrackedIndex.mem_records_iff self record).mp member)

/-- Equal digests come from the same context, generation and records. -/
theorem integrityHash_injective {json : CheckpointJson F} (lawful : json.Lawful)
    {context context' : ScannerIndexContext} {generation generation' : Nat}
    {records records' : List (CandidateIndexRecord F)} {digest : List UInt8}
    (fits : generation ≤ maxU64) (fits' : generation' ≤ maxU64)
    (finite : ∀ record ∈ records, record.HasFiniteScore)
    (finite' : ∀ record ∈ records', record.HasFiniteScore)
    (hashed : json.checkpointIntegrityHash context generation records = .ok digest)
    (hashed' : json.checkpointIntegrityHash context' generation' records' = .ok digest)
    : context = context' ∧ generation = generation' ∧ records = records' := by
  unfold CheckpointJson.checkpointIntegrityHash at hashed hashed'
  dsimp only at hashed hashed'
  cases contextText : json.contextToVec context with
  | error details => simp [contextText] at hashed
  | ok contextBytes =>
  cases contextText' : json.contextToVec context' with
  | error details => simp [contextText'] at hashed'
  | ok contextBytes' =>
  cases recordsText : json.recordsToVec records with
  | error details => simp [contextText, recordsText] at hashed
  | ok recordsBytes =>
  cases recordsText' : json.recordsToVec records' with
  | error details => simp [contextText', recordsText'] at hashed'
  | ok recordsBytes' =>
  simp only [contextText, recordsText, Except.ok.injEq] at hashed
  simp only [contextText', recordsText', Except.ok.injEq] at hashed'
  have bytes := lawful.sha256_injective (hashed.trans hashed'.symm)
  rw [List.append_assoc, List.append_assoc] at bytes
  obtain ⟨sameContext, rest⟩ :=
    lawful.contextDelimited _ _ _ _ _ _ contextText contextText' bytes
  obtain ⟨low, high⟩ := List.append_inj rest (by rw [leBytes_length, leBytes_length])
  have room : maxU64 < 256 ^ 8 := by decide
  refine ⟨sameContext, leBytes_injective (by omega) (by omega) low, ?_⟩
  rw [← high] at recordsText'
  have alike := lawful.recordsDiffer _ _ _ recordsText recordsText'
  rwa [Storable.reread lawful finite, Storable.reread lawful finite'] at alike

end

variable {checkpoint : ScannerIndexCheckpoint F}

/-- A checkpoint of another version or context gives an empty index. -/
theorem restore_stale (codec : CheckpointCodec F) {expectedContext : ScannerIndexContext}
    (foreign : checkpoint.version ≠ checkpointVersion ∨ checkpoint.context ≠ expectedContext)
    : ∃ reason, restore codec expectedContext checkpoint
        = (new expectedContext, .stale reason) := by
  unfold restore
  split
  · exact ⟨_, rfl⟩
  · rename_i version
    rw [if_pos (foreign.resolve_left version)]
    exact ⟨_, rfl⟩

/-- A checkpoint whose digest is not the one recomputed for it gives an empty index. -/
theorem restore_corrupt (codec : CheckpointCodec F)
    (current : checkpoint.version = checkpointVersion)
    (altered : codec.integrityHash checkpoint.context checkpoint.eventGeneration
        checkpoint.records ≠ .ok checkpoint.integrityHash)
    : ∃ reason, restore codec checkpoint.context checkpoint
        = (new checkpoint.context, .corrupt reason) := by
  unfold restore
  rw [if_neg (not_not_intro current), if_neg (not_not_intro rfl)]
  cases hashed : codec.integrityHash checkpoint.context checkpoint.eventGeneration
      checkpoint.records with
  | error details => exact ⟨_, rfl⟩
  | ok computed =>
      have differs : computed ≠ checkpoint.integrityHash :=
        fun same => altered (same ▸ hashed)
      exact ⟨_, if_pos differs⟩

/-- A checkpoint with the right version, context and digest is taken as it is. -/
theorem restore_loaded (codec : CheckpointCodec F)
    (current : checkpoint.version = checkpointVersion)
    (intact : codec.integrityHash checkpoint.context checkpoint.eventGeneration
        checkpoint.records = .ok checkpoint.integrityHash)
    : restore codec checkpoint.context checkpoint
      = (checkpoint.records.foldl insert
          { new checkpoint.context with eventGeneration := checkpoint.eventGeneration },
        .loaded) := by
  unfold restore
  rw [if_neg (not_not_intro current), if_neg (not_not_intro rfl), intact]
  exact if_neg (not_not_intro rfl)

theorem loadFile_read {json : CheckpointJson F} {bytes : List UInt8}
    (read : json.fromReader bytes = .ok checkpoint) (expectedContext : ScannerIndexContext)
    : loadFile json expectedContext (.ok bytes)
      = restore json.codec expectedContext checkpoint := by
  simp only [loadFile, read, loadCheckpoint]

/-- Nothing of a file is used unless all of it is trusted: either an empty index is returned, or
the file holds a checkpoint of this version and context whose digest is right, and the index is
built from it.
-/
theorem loadFile_trusted (json : CheckpointJson F) (expectedContext : ScannerIndexContext)
    (file : Except CheckpointFault (List UInt8))
    : (loadFile json expectedContext file).1 = new expectedContext
        ∧ (loadFile json expectedContext file).2 ≠ .loaded
      ∨ ∃ bytes checkpoint, file = .ok bytes ∧ json.fromReader bytes = .ok checkpoint
        ∧ checkpoint.version = checkpointVersion ∧ checkpoint.context = expectedContext
        ∧ json.checkpointIntegrityHash expectedContext checkpoint.eventGeneration
            checkpoint.records = .ok checkpoint.integrityHash
        ∧ loadFile json expectedContext file
          = (checkpoint.records.foldl insert
              { new expectedContext with eventGeneration := checkpoint.eventGeneration },
            .loaded) := by
  cases file with
  | error fault => cases fault <;> exact .inl ⟨rfl, by simp [loadFile, loadCheckpoint]⟩
  | ok bytes =>
      cases read : json.fromReader bytes with
      | error error =>
          refine .inl ?_
          simp [loadFile, read, loadCheckpoint]
      | ok checkpoint =>
          rw [loadFile_read read]
          by_cases foreign : checkpoint.version ≠ checkpointVersion
              ∨ checkpoint.context ≠ expectedContext
          · obtain ⟨reason, stale⟩ := restore_stale json.codec foreign
            rw [stale]
            exact .inl ⟨rfl, by simp⟩
          · obtain ⟨current, rfl⟩ : checkpoint.version = checkpointVersion
                ∧ checkpoint.context = expectedContext := by simpa [not_or] using foreign
            by_cases intact : json.checkpointIntegrityHash checkpoint.context
                checkpoint.eventGeneration checkpoint.records = .ok checkpoint.integrityHash
            · exact .inr ⟨bytes, checkpoint, rfl, read, current, rfl, intact,
                restore_loaded json.codec current intact⟩
            · obtain ⟨reason, corrupt⟩ := restore_corrupt json.codec current intact
              rw [corrupt]
              exact .inl ⟨rfl, by simp⟩

variable [Float64 F]

/-- A saved checkpoint reads back as the one that was made for the index. -/
theorem Storable.saved {json : CheckpointJson F} (lawful : json.Lawful)
    {index : ScannerCandidateIndex F} (storable : index.Storable) {bytes : List UInt8}
    (written : index.saveCheckpoint json = .ok bytes)
    : ∃ checkpoint, json.fromReader bytes = .ok checkpoint
        ∧ checkpoint.version = checkpointVersion ∧ checkpoint.context = index.context
        ∧ checkpoint.eventGeneration = index.eventGeneration
        ∧ checkpoint.records = index.records.toList.map Prod.snd
        ∧ json.checkpointIntegrityHash index.context index.eventGeneration
            (index.records.toList.map Prod.snd) = .ok checkpoint.integrityHash := by
  unfold saveCheckpoint checkpoint at written
  dsimp only at written
  cases hashed : json.codec.integrityHash index.context index.eventGeneration
      (index.records.toList.map Prod.snd) with
  | error details => simp [hashed] at written
  | ok integrityHash =>
      simp only [hashed] at written
      split at written
      · cases written
      · rename_i text stored
        cases written
        have records := Storable.reread lawful fun record member => storable.mem_finite member
        exact ⟨_, lawful.readBack _ _ stored, rfl, rfl, rfl, records, hashed⟩

/-- Whatever operations with finite scores an index has been through, its saved checkpoint loads
as the same index under its own context and is stale under any other. A file of another version
or context is stale, and one of this version and context with the digest of the index but
another generation or other records is corrupt.
-/
theorem checkpoint_roundTrips {json : CheckpointJson F} (lawful : json.Lawful)
    {context : ScannerIndexContext} {edits : List (IndexEdit F)}
    (finite : ∀ edit ∈ edits, FiniteEdit edit) {bytes : List UInt8}
    (written : (edited context edits).saveCheckpoint json = .ok bytes)
    : (∃ loaded, loadFile json context (.ok bytes) = (loaded, .loaded)
        ∧ loaded.SameAs (edited context edits))
      ∧ (∀ expectedContext, expectedContext ≠ context →
          ∃ reason, loadFile json expectedContext (.ok bytes)
            = (new expectedContext, .stale reason))
      ∧ (∀ stored checkpoint expectedContext, json.fromReader stored = .ok checkpoint →
          checkpoint.version ≠ checkpointVersion ∨ checkpoint.context ≠ expectedContext →
          ∃ reason, loadFile json expectedContext (.ok stored)
            = (new expectedContext, .stale reason))
      ∧ ∀ stored checkpoint, json.fromReader stored = .ok checkpoint →
          checkpoint.version = checkpointVersion →
          json.checkpointIntegrityHash context (edited context edits).eventGeneration
              ((edited context edits).records.toList.map Prod.snd)
            = .ok checkpoint.integrityHash →
          checkpoint.eventGeneration ≠ (edited context edits).eventGeneration
            ∨ checkpoint.records ≠ (edited context edits).records.toList.map Prod.snd →
          ∃ reason, loadFile json checkpoint.context (.ok stored)
            = (new checkpoint.context, .corrupt reason) := by
  have storable := edited_storable context finite
  have own := edited_context context edits
  obtain ⟨checkpoint, read, version, sameContext, generation, records, hashed⟩ :=
    storable.saved lawful written
  refine ⟨?loaded, ?otherContext, ?foreign, ?altered⟩
  case loaded =>
    have intact : json.codec.integrityHash checkpoint.context checkpoint.eventGeneration
        checkpoint.records = .ok checkpoint.integrityHash := by
      rw [sameContext, generation, records]
      exact hashed
    have restored := restore_loaded json.codec version intact
    rw [sameContext, generation, records] at restored
    refine ⟨_, ?_, rebuilt_same (edited context edits)⟩
    rw [loadFile_read read, ← restored, own]
  case otherContext =>
    intro expectedContext differs
    have foreign : checkpoint.context ≠ expectedContext := by
      rw [sameContext, own]
      exact differs.symm
    rw [loadFile_read read]
    exact restore_stale json.codec (.inr foreign)
  case foreign =>
    intro stored other expectedContext readOther foreign
    rw [loadFile_read readOther]
    exact restore_stale json.codec foreign
  case altered =>
    intro stored other readOther current digest differs
    rw [loadFile_read readOther]
    refine restore_corrupt json.codec current fun recomputed => ?_
    -- The digest in the file is that of the index, so the contents would have to agree.
    obtain ⟨-, sameGeneration, sameRecords⟩ := integrityHash_injective lawful
      (lawful.readGeneration stored other readOther) storable.generation
      (lawful.readFinite stored other readOther)
      (fun record member => storable.mem_finite member) recomputed digest
    exact differs.elim (fun apart => apart sameGeneration) fun apart => apart sameRecords

def sampleRecord : CandidateIndexRecord ℚ where
  path := ⟨"/tmp/target-1"⟩
  identity := ⟨7, 1, .directory⟩
  parentIdentity := none
  parentMtimeNanos := none
  candidateMtimeNanos := 200
  candidateCtimeNanos := some 300
  sizeEstimateBytes := 1024
  pruneDecision := .none
  score := some (9 / 10)
  safetyState := .safe
  failCount := 0
  cooldownUntilNanos := none
  eventGeneration := 0

def sampleContext : ScannerIndexContext := ⟨"root-same", "config-same"⟩

def sampleContextText : String :=
  "\x7b\"root_fingerprint\":\"root-same\",\"config_fingerprint\":\"config-same\"\x7d"

def sampleRecordsText : String :=
  "[\x7b\"path\":\"/tmp/target-1\",\"identity\":"
    ++ "\x7b\"device_id\":7,\"inode\":1,\"kind\":\"Directory\"\x7d,"
    ++ "\"parent_identity\":null,\"parent_mtime_nanos\":null,\"candidate_mtime_nanos\":200,"
    ++ "\"candidate_ctime_nanos\":300,\"size_estimate_bytes\":1024,"
    ++ "\"prune_decision\":\"None\",\"score\":0.9,\"safety_state\":\"Safe\","
    ++ "\"fail_count\":0,\"cooldown_until_nanos\":null,\"event_generation\":0\x7d]"

def sampleDigest : List UInt8 :=
  [29, 240, 172, 69, 131, 93, 12, 190, 77, 210, 59, 146, 214, 177, 132, 23, 90, 70, 175, 214, 77,
    55, 15, 24, 144, 171, 218, 26, 216, 171, 228, 211]

def sampleCheckpoint : ScannerIndexCheckpoint ℚ where
  version := checkpointVersion
  context := sampleContext
  eventGeneration := 0
  records := [sampleRecord]
  integrityHash := sampleDigest

def sampleCheckpointText : String :=
  "\x7b\"version\":1,\"context\":" ++ sampleContextText
    ++ ",\"event_generation\":0,\"records\":" ++ sampleRecordsText
    ++ ",\"integrity_hash\":[29,240,172,69,131,93,12,190,77,210,59,146,214,177,132,23,90,70,175,"
    ++ "214,77,55,15,24,144,171,218,26,216,171,228,211]\x7d"

def utf8 (text : String) : List UInt8 := text.toByteArray.data.toList

def sampleJson : CheckpointJson ℚ where
  contextToVec context :=
    if context = sampleContext then .ok (utf8 sampleContextText) else .error "unknown"
  recordsToVec records :=
    if records = [sampleRecord] then .ok (utf8 sampleRecordsText) else .error "unknown"
  toWriter checkpoint :=
    if checkpoint = sampleCheckpoint then .ok (utf8 sampleCheckpointText) else .error "unknown"
  fromReader bytes :=
    if bytes = utf8 sampleCheckpointText then .ok sampleCheckpoint else .error "unknown"
  sha256 bytes :=
    if bytes = utf8 sampleContextText ++ leBytes 8 0 ++ utf8 sampleRecordsText then sampleDigest
    else sampleDigest ++ 0 :: bytes
  reread := some

theorem sampleRecord_finite : sampleRecord.HasFiniteScore := fun _ _ => rfl

theorem sampleJson_lawful : sampleJson.Lawful where
  readBack checkpoint bytes written := by
    simp only [sampleJson] at written ⊢
    split at written
    · rename_i same
      cases written
      rw [if_pos rfl, same]
      rfl
    · cases written
  exact _ _ := rfl
  recordsDiffer left right bytes leftText rightText := by
    simp only [sampleJson] at leftText rightText
    split at leftText
    · split at rightText
      · rename_i leftSame rightSame
        rw [leftSame, rightSame]
      · cases rightText
    · cases leftText
  contextDelimited left right leftBytes rightBytes leftRest rightRest leftText rightText same := by
    simp only [sampleJson] at leftText rightText
    split at leftText
    · split at rightText
      · rename_i leftSame rightSame
        cases leftText
        cases rightText
        exact ⟨leftSame.trans rightSame.symm, List.append_cancel_left same⟩
      · cases rightText
    · cases leftText
  sha256_injective left right same := by
    simp only [sampleJson] at same
    split at same <;> split at same
    · rename_i leftSame rightSame
      exact leftSame.trans rightSame.symm
    · exact absurd (congrArg List.length same) (by simp)
    · exact absurd (congrArg List.length same) (by simp)
    · exact (List.cons.inj (List.append_cancel_left same)).2
  readGeneration bytes checkpoint read := by
    simp only [sampleJson] at read
    split at read
    · cases read
      exact Nat.zero_le _
    · cases read
  readFinite bytes checkpoint read record member := by
    simp only [sampleJson] at read
    split at read
    · cases read
      rw [List.mem_singleton.mp member]
      exact sampleRecord_finite
    · cases read

theorem sample_hashed
    : sampleJson.checkpointIntegrityHash sampleContext 0 [sampleRecord] = .ok sampleDigest := by
  simp [CheckpointJson.checkpointIntegrityHash, sampleJson]

theorem sample_checkpoint
    : (edited sampleContext [.upsert sampleRecord]).checkpoint sampleJson.codec
      = .ok sampleCheckpoint := by
  have records : (edited sampleContext [.upsert sampleRecord]).records.toList.map Prod.snd
      = [sampleRecord] := rfl
  have context : (edited sampleContext [.upsert sampleRecord]).context = sampleContext := rfl
  have generation : (edited sampleContext [.upsert sampleRecord]).eventGeneration = 0 := rfl
  have hashed : sampleJson.codec.integrityHash sampleContext 0 [sampleRecord]
      = .ok sampleDigest := sample_hashed
  simp only [checkpoint, records, context, generation, hashed]
  rfl

theorem sample_saved
    : (edited sampleContext [.upsert sampleRecord]).saveCheckpoint sampleJson
      = .ok (utf8 sampleCheckpointText) := by
  unfold saveCheckpoint
  rw [sample_checkpoint]
  simp [sampleJson]

/-- The saved sample loads, and its one record with it. -/
theorem sample_roundTrips
    : ∃ loaded, loadFile sampleJson sampleContext (.ok (utf8 sampleCheckpointText))
        = (loaded, .loaded)
      ∧ loaded.SameAs (edited sampleContext [.upsert sampleRecord]) := by
  have finite : ∀ edit ∈ [IndexEdit.upsert sampleRecord], FiniteEdit edit := by
    intro edit member
    rw [List.mem_singleton.mp member]
    exact sampleRecord_finite
  exact (checkpoint_roundTrips sampleJson_lawful finite sample_saved).1

end ScannerCandidateIndex

end StorageBallast
