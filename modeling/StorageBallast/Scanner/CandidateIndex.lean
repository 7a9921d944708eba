import Mathlib.Data.List.Sort
import Std.Data.TreeMap.Lemmas
import StorageBallast.Foundations.Floats
import StorageBallast.Foundations.Texts
import StorageBallast.Scanner.Candidates

/-! The persistent candidate index: one record per file-system identity, built from scored
candidates, ranked under pressure, and kept across restarts through a checkpoint file.
-/

namespace StorageBallast

inductive IndexedEntryKind where
  | file
  | directory
  | symlink
  | other
deriving DecidableEq, Repr

namespace IndexedEntryKind

def rank : IndexedEntryKind → Nat
  | file => 0
  | directory => 1
  | symlink => 2
  | other => 3

def ofFsEntryKind : FsEntryKind → IndexedEntryKind
  | .file => file
  | .directory => directory
  | .symlink => symlink
  | .other => other

def toFsEntryKind : IndexedEntryKind → FsEntryKind
  | file => .file
  | directory => .directory
  | symlink => .symlink
  | other => .other

end IndexedEntryKind

structure IndexedIdentity where
  deviceId : Nat
  inode : Nat
  kind : IndexedEntryKind
deriving DecidableEq, Repr

namespace IndexedIdentity

def ofFsIdentity (identity : FsIdentity) : IndexedIdentity :=
  ⟨identity.deviceId, identity.inode, .ofFsEntryKind identity.kind⟩

def toFsIdentity (identity : IndexedIdentity) : FsIdentity :=
  ⟨identity.deviceId, identity.inode, identity.kind.toFsEntryKind⟩

def order : IndexedIdentity → IndexedIdentity → Ordering :=
  compareLex (compareOn deviceId) (compareLex (compareOn inode) (compareOn (·.kind.rank)))

instance : Std.TransCmp order := by
  unfold order
  infer_instance

/-- Identities that compare equal are equal, since their ranks determine their kinds. -/
instance : Std.LawfulEqCmp order where
  eq_of_compare {left right} same := by
    obtain ⟨device, inode, kind⟩ := left
    obtain ⟨device', inode', kind'⟩ := right
    simp only [order, compareLex, compareOn, Ordering.then_eq_eq, Nat.compare_eq_eq] at same
    obtain ⟨rfl, rfl, rank⟩ := same
    cases kind <;> cases kind' <;> first | rfl | simp [IndexedEntryKind.rank] at rank

@[simp] theorem ofFsIdentity_toFsIdentity (identity : IndexedIdentity)
    : ofFsIdentity identity.toFsIdentity = identity := by
  obtain ⟨_, _, kind⟩ := identity
  cases kind <;> rfl

theorem toFsIdentity_injective : Function.Injective toFsIdentity :=
  Function.LeftInverse.injective ofFsIdentity_toFsIdentity

end IndexedIdentity

inductive IndexedPruneDecision where
  | none
  | candidateOpaque
  | protectedOpaque
  | signalOnly
deriving DecidableEq, Repr

def IndexedPruneDecision.fromOpaqueTree {F : Type}
    : Option (OpaqueTreeClassification F) → IndexedPruneDecision
  | .none => none
  | some opaqueTree =>
      match opaqueTree.disposition with
      | .candidateOpaque => candidateOpaque
      | .protectedOpaque => protectedOpaque
      | .signalOnly => signalOnly

inductive CandidateSafetyState where
  | unknown
  | safe
  | activeReference
  | vetoed
  | failed
deriving DecidableEq, Repr

def safetyStateFromScore {F : Type} (score : CandidacyScore F) : CandidateSafetyState :=
  if !score.vetoed then .safe
  else if score.vetoReason.any fun reason =>
      Texts.contains reason "active reference"
        || Texts.contains reason "currently open"
        || Texts.contains reason "Cannot reclaim safely" then
    .activeReference
  else .vetoed

/-- What `lstat` answers while a record is built: for the candidate, its modification time
if the call succeeds; its status-change time; and its parent, when that can be read.
-/
structure RecordSnapshot where
  candidate : Except String (Option SystemTime)
  statusChanged : Option SystemTime
  parent : Option (IndexedIdentity × Option SystemTime)
deriving Repr

structure CandidateIndexRecord (F : Type) where
  path : PathBuf
  identity : IndexedIdentity
  parentIdentity : Option IndexedIdentity
  parentMtimeNanos : Option Nat
  candidateMtimeNanos : Nat
  candidateCtimeNanos : Option Nat
  sizeEstimateBytes : Nat
  pruneDecision : IndexedPruneDecision
  score : Option F
  safetyState : CandidateSafetyState
  failCount : Nat
  cooldownUntilNanos : Option Nat
  eventGeneration : Nat
deriving DecidableEq, Repr

namespace CandidateIndexRecord

variable {F : Type}

/-- The record of a scored candidate. A candidate without identity has none, and the
scored action is not recorded.
-/
def fromCandidateScore (score : CandidacyScore F)
    (opaqueTree : Option (OpaqueTreeClassification F)) (eventGeneration : Nat)
    (snapshot : RecordSnapshot) : Except PathError (Option (CandidateIndexRecord F)) :=
  match score.identity with
  | none => .ok none
  | some identity =>
      match snapshot.candidate with
      | .error message => .error ⟨score.path, message⟩
      | .ok modified => .ok <| some {
          path := score.path
          identity := .ofFsIdentity identity
          parentIdentity := snapshot.parent.map (·.1)
          parentMtimeNanos := snapshot.parent.bind fun parent => parent.2.map systemTimeNanos
          candidateMtimeNanos := systemTimeNanos (modified.getD 0)
          candidateCtimeNanos := snapshot.statusChanged.map systemTimeNanos
          sizeEstimateBytes := score.sizeBytes
          pruneDecision := .fromOpaqueTree opaqueTree
          score := some score.totalScore
          safetyState := safetyStateFromScore score
          failCount := 0
          cooldownUntilNanos := none
          eventGeneration
        }

/-- The two records describe the same unchanged directory entry. Paths are compared by
their components.
-/
def evidenceMatches (record other : CandidateIndexRecord F) : Bool :=
  record.path.components == other.path.components
    && record.identity == other.identity
    && record.candidateMtimeNanos == other.candidateMtimeNanos
    && record.candidateCtimeNanos == other.candidateCtimeNanos
    && record.sizeEstimateBytes == other.sizeEstimateBytes
    && record.pruneDecision == other.pruneDecision

open scoped Float64 in
/-- The candidate a record is dispatched as, always with the action to delete. -/
def toCandidateScore [Float64 F] (record : CandidateIndexRecord F) : CandidacyScore F :=
  let totalScore := Float64.clamp (record.score.getD 0.0) 0.0 1.0
  {
    path := record.path
    identity := some record.identity.toFsIdentity
    totalScore
    factors := {
      location := totalScore
      name := totalScore
      age := totalScore
      size := totalScore
      «structure» := totalScore
      pressureMultiplier := 1.0
    }
    vetoed := false
    vetoReason := none
    classification := {
      patternName := "indexed-v2-candidate"
      category := .unknown
      nameConfidence := totalScore
      structuralConfidence := totalScore
      combinedConfidence := totalScore
    }
    sizeBytes := record.sizeEstimateBytes
    age := 0
    decision := {
      action := .delete
      posteriorAbandoned := totalScore
      expectedLossKeep := totalScore
      expectedLossDelete := Float64.sub 1.0 totalScore
      calibrationScore := totalScore
      fallbackActive := false
    }
    ledger := { terms := [], summary := "v2 persistent index candidate" }
  }

def rankable (record : CandidateIndexRecord F) : Bool :=
  (record.safetyState == .safe || record.safetyState == .failed) && record.score.isSome

end CandidateIndexRecord

structure ScannerIndexContext where
  rootFingerprint : String
  configFingerprint : String
deriving DecidableEq, Repr

abbrev IndexRecords (F : Type) :=
  Std.TreeMap IndexedIdentity (CandidateIndexRecord F) IndexedIdentity.order

theorem getElem?_insert_record {F : Type} (records : IndexRecords F)
    (stored identity : IndexedIdentity) (record : CandidateIndexRecord F)
    : (records.insert stored record)[identity]?
      = if stored = identity then some record else records[identity]? := by
  rw [Std.TreeMap.getElem?_insert]
  simp only [Std.LawfulEqCmp.compare_eq_iff_eq]

structure ScannerCandidateIndex (F : Type) where
  context : ScannerIndexContext
  eventGeneration : Nat
  records : IndexRecords F
  keyed
    : ∀ (identity : IndexedIdentity) (record : CandidateIndexRecord F),
        records[identity]? = some record → record.identity = identity

namespace ScannerCandidateIndex

variable {F : Type}

def new (context : ScannerIndexContext) : ScannerCandidateIndex F where
  context
  eventGeneration := 0
  records := ∅
  keyed := by simp

def get (self : ScannerCandidateIndex F) (identity : IndexedIdentity)
    : Option (CandidateIndexRecord F) :=
  self.records[identity]?

/-- Store a record under its identity. -/
def insert (self : ScannerCandidateIndex F) (record : CandidateIndexRecord F)
    : ScannerCandidateIndex F :=
  { self with
    records := self.records.insert record.identity record
    keyed := by
      intro identity found lookup
      rw [getElem?_insert_record] at lookup
      split at lookup
      · cases lookup
        assumption
      · exact self.keyed identity found lookup }

/-- Carry the failure history of an existing record with the same evidence over. -/
def mergeExisting (self : ScannerCandidateIndex F) (record : CandidateIndexRecord F)
    : CandidateIndexRecord F :=
  match self.get record.identity with
  | none => record
  | some existing =>
      if existing.evidenceMatches record then
        { record with
          failCount := existing.failCount
          cooldownUntilNanos := existing.cooldownUntilNanos
          safetyState :=
            if existing.safetyState = .failed then .failed else record.safetyState }
      else record

def prepared (self : ScannerCandidateIndex F) (record : CandidateIndexRecord F)
    : CandidateIndexRecord F :=
  self.mergeExisting { record with eventGeneration := self.eventGeneration }

def upsert (self : ScannerCandidateIndex F) (record : CandidateIndexRecord F)
    : ScannerCandidateIndex F :=
  self.insert (self.prepared record)

def inCooldown (self : ScannerCandidateIndex F) (identity : IndexedIdentity)
    (now : SystemTime) : Bool :=
  match self.get identity with
  | none => false
  | some record =>
      record.cooldownUntilNanos.any fun untilNanos => decide (systemTimeNanos now < untilNanos)

def candidateInCooldown (self : ScannerCandidateIndex F) (record : CandidateIndexRecord F)
    (now : SystemTime) : Bool :=
  (self.get record.identity).any fun existing =>
    existing.evidenceMatches record && self.inCooldown record.identity now

/-- The ranking does not place `right` before `left`: higher scores first, larger
candidates first among scores that do not differ.
-/
def ranksBefore [Float64 F] (left right : CandidateIndexRecord F) : Prop :=
  let byScore :=
    match right.score, left.score with
    | some ours, some theirs => (Float64.partialCmp ours theirs).getD .eq
    | none, some _ => .lt
    | some _, none => .gt
    | none, none => .eq
  (byScore.then (compare right.sizeEstimateBytes left.sizeEstimateBytes)).isLE

instance [Float64 F] : DecidableRel (@ranksBefore F _) :=
  fun left right => by
    unfold ranksBefore
    infer_instance

def rankedCandidateScores [Float64 F] (self : ScannerCandidateIndex F) (now : SystemTime)
    (limit : Nat) : List (CandidacyScore F) :=
  let records := (self.records.toList.map Prod.snd).filter fun record =>
    record.rankable && !self.inCooldown record.identity now
  ((records.insertionSort ranksBefore).take limit).map (·.toCandidateScore)

def maxU64 : Nat := 2 ^ 64 - 1

def maxU32 : Nat := 2 ^ 32 - 1

def markEventOverflow (self : ScannerCandidateIndex F) : ScannerCandidateIndex F :=
  { self with eventGeneration := min (self.eventGeneration + 1) maxU64 }

def failedRecord (record : CandidateIndexRecord F) (now : SystemTime)
    (baseCooldown maxCooldown : Duration) : CandidateIndexRecord F :=
  let failCount := min (record.failCount + 1) maxU32
  let multiplier := 2 ^ min (failCount - 1) 31
  let cooldown : Duration := min (baseCooldown.saturatingMul multiplier) maxCooldown
  { record with
    failCount
    safetyState := .failed
    cooldownUntilNanos := some (systemTimeNanos (now + (cooldown : Int))) }

def recordFailure (self : ScannerCandidateIndex F) (identity : IndexedIdentity)
    (now : SystemTime) (baseCooldown maxCooldown : Duration) : ScannerCandidateIndex F :=
  match self.get identity with
  | none => self
  | some record => self.insert (failedRecord record now baseCooldown maxCooldown)

def checkpointVersion : Nat := 1

end ScannerCandidateIndex

structure ScannerIndexCheckpoint (F : Type) where
  version : Nat
  context : ScannerIndexContext
  eventGeneration : Nat
  records : List (CandidateIndexRecord F)
  integrityHash : List UInt8
deriving DecidableEq, Repr

structure CheckpointCodec (F : Type) where
  /-- A score as reading its JSON text gives it back; JSON has no text for some floats. -/
  reread : F → Option F
  /-- Digest over context, generation and records, in their JSON text. -/
  integrityHash : ScannerIndexContext → Nat → List (CandidateIndexRecord F)
    → Except String (List UInt8)

inductive CheckpointFault where
  | missing
  | unreadable (error : String)
  | malformed (error : String)
deriving DecidableEq, Repr

inductive ScannerIndexLoadStatus where
  | loaded
  | missing
  | stale (reason : String)
  | corrupt (reason : String)
deriving DecidableEq, Repr

def ScannerIndexCheckpoint.reread {F : Type} (codec : CheckpointCodec F)
    (checkpoint : ScannerIndexCheckpoint F) : ScannerIndexCheckpoint F :=
  { checkpoint with
    records := checkpoint.records.map fun record =>
      { record with score := record.score.bind codec.reread } }

namespace ScannerCandidateIndex

variable {F : Type}

def checkpoint (self : ScannerCandidateIndex F) (codec : CheckpointCodec F)
    : Except String (ScannerIndexCheckpoint F) :=
  let records := self.records.toList.map Prod.snd
  match codec.integrityHash self.context self.eventGeneration records with
  | .error details => .error details
  | .ok integrityHash => .ok {
      version := checkpointVersion
      context := self.context
      eventGeneration := self.eventGeneration
      records
      integrityHash
    }

/-- The index restored from a parsed checkpoint, or the reason for starting over. -/
def restore (codec : CheckpointCodec F) (expectedContext : ScannerIndexContext)
    (checkpoint : ScannerIndexCheckpoint F)
    : ScannerCandidateIndex F × ScannerIndexLoadStatus :=
  if checkpoint.version ≠ checkpointVersion then
    (new expectedContext, .stale ("unsupported scanner index version "
      ++ toString checkpoint.version ++ " (expected " ++ toString checkpointVersion ++ ")"))
  else if checkpoint.context ≠ expectedContext then
    (new expectedContext, .stale "root or scanner config fingerprint changed")
  else
    match codec.integrityHash checkpoint.context checkpoint.eventGeneration
        checkpoint.records with
    | .error details => (new expectedContext, .corrupt details)
    | .ok computed =>
        if computed ≠ checkpoint.integrityHash then
          (new expectedContext, .corrupt "integrity hash mismatch")
        else
          let empty : ScannerCandidateIndex F :=
            { new checkpoint.context with eventGeneration := checkpoint.eventGeneration }
          (checkpoint.records.foldl insert empty, .loaded)

def loadCheckpoint (codec : CheckpointCodec F) (expectedContext : ScannerIndexContext)
    : Except CheckpointFault (ScannerIndexCheckpoint F)
      → ScannerCandidateIndex F × ScannerIndexLoadStatus
  | .error .missing => (new expectedContext, .missing)
  | .error (.unreadable error) | .error (.malformed error) =>
      (new expectedContext, .corrupt error)
  | .ok checkpoint => restore codec expectedContext checkpoint

end ScannerCandidateIndex

end StorageBallast
