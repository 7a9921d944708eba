import StorageBallast.Foundations.Channels
import StorageBallast.Scanner.DeletionExecutor
import StorageBallast.Scanner.IndexProvenance

/-! The way of a back-off from the executor to the scanner: the channel of failed candidates, the
candidate index that every pass takes up, and the three ways on which a pass hands candidates
over.
-/

namespace StorageBallast

variable {F : Type}

def executorChannelCap : Nat := 64

/-- What stays fixed while the scanner configuration does. -/
structure BackoffSetup (F : Type) where
  codec : CheckpointCodec F
  repeatDeletionBaseCooldownSecs : Nat
  repeatDeletionMaxCooldownSecs : Nat
  maxRepresentable : repeatDeletionMaxCooldownSecs < 2 ^ 64

namespace BackoffSetup

def base (setup : BackoffSetup F) : Duration := .fromSecs setup.repeatDeletionBaseCooldownSecs

def max (setup : BackoffSetup F) : Duration := .fromSecs setup.repeatDeletionMaxCooldownSecs

end BackoffSetup

inductive SightingRoute (F : Type) where
  | prescan
  | walked (opaqueTree : Option (OpaqueTreeClassification F))

/-- A candidate as the pre-scan or the walker comes to it. -/
structure Sighting (F : Type) where
  route : SightingRoute F
  score : CandidacyScore F
  snapshot : RecordSnapshot

namespace Sighting

def opaqueTree (sighting : Sighting F) : Option (OpaqueTreeClassification F) :=
  match sighting.route with
  | .prescan => none
  | .walked opaqueTree => opaqueTree

def isRecorded (sighting : Sighting F) : Bool :=
  match sighting.route with
  | .prescan => sighting.score.decision.action == .delete
  | .walked _ => true

def isWanted (sighting : Sighting F) : Bool :=
  match sighting.route with
  | .prescan => sighting.score.decision.action == .delete
  | .walked _ => decide sighting.score.Deletable

def record (sighting : Sighting F) (eventGeneration : Nat) : Option (CandidateIndexRecord F) :=
  match CandidateIndexRecord.fromCandidateScore sighting.score sighting.opaqueTree
      eventGeneration sighting.snapshot with
  | .ok record => record
  | .error _ => none

end Sighting

/-- The scanner's index, its file and the pass under way, the channel from the executor, and the
wall clock in nanoseconds since the epoch. What the executor put in back-off, and how much of
that the scanner had a chance to hear of, is noted for the proofs only.
-/
structure BackoffLoop (F : Type) where
  scannerIndex : Option (ScannerCandidateIndex F)
  saved : Option (ScannerIndexCheckpoint F)
  scannerIndexRecords : List (CandidateIndexRecord F)
  priorityCandidates : List (CandidacyScore F)
  scored : List (CandidacyScore F)
  indexFeedback : Channel IndexedIdentity executorChannelCap
  now : Nat
  backedOff : List (CandidacyScore F × Nat)
  heeded : List (CandidacyScore F × Nat)

inductive BackoffStep (F : Type) where
  | wait (span : Duration)
  /-- A pass begins for a request whose roots have this context. -/
  | startPass (context : ScannerIndexContext) (eventOverflow : Bool)
  | dispatchIndexed (maxDeleteBatch : Nat) (room : Bool)
  | sight (sighting : Sighting F)
  | dispatchPriority (maxDeleteBatch : Nat) (room : Bool)
  | dispatchScored (maxDeleteBatch : Nat) (room : Bool)
  | persist
  /-- The walk cannot start, and the pass ends. -/
  | abandon
  /-- The executor reports one back-off candidate. -/
  | backOff (candidate : CandidacyScore F)

namespace BackoffLoop

def start (saved : Option (ScannerIndexCheckpoint F)) (now : Nat) : BackoffLoop F where
  scannerIndex := none
  saved
  scannerIndexRecords := []
  priorityCandidates := []
  scored := []
  indexFeedback := .empty
  now
  backedOff := []
  heeded := []

def savedOf (setup : BackoffSetup F) (self : BackoffLoop F) (index : ScannerCandidateIndex F)
    : Option (ScannerIndexCheckpoint F) :=
  match index.checkpoint setup.codec with
  | .ok checkpoint => some checkpoint
  | .error _ => self.saved

def restored (setup : BackoffSetup F) (self : BackoffLoop F) (context : ScannerIndexContext)
    : ScannerCandidateIndex F :=
  (ScannerCandidateIndex.loadCheckpoint setup.codec context
    (match self.saved with
    | none => .error .missing
    | some checkpoint => .ok (checkpoint.reread setup.codec))).1

def taken (setup : BackoffSetup F) (self : BackoffLoop F) (context : ScannerIndexContext)
    : ScannerCandidateIndex F :=
  match self.scannerIndex with
  | some index => if index.context = context then index else self.restored setup context
  | none => self.restored setup context

def drainFeedback (setup : BackoffSetup F) (now : Nat) (identities : List IndexedIdentity)
    (index : ScannerCandidateIndex F) : ScannerCandidateIndex F :=
  identities.foldl
    (fun index identity => index.recordFailure identity now setup.base setup.max) index

def startPass (setup : BackoffSetup F) (self : BackoffLoop F) (context : ScannerIndexContext)
    (eventOverflow : Bool) : BackoffLoop F :=
  let taken := self.taken setup context
  let index := drainFeedback setup self.now self.indexFeedback.queue
    (if eventOverflow then taken.markEventOverflow else taken)
  { self with
    scannerIndex := some index
    saved := if self.indexFeedback.queue.isEmpty then self.saved else self.savedOf setup index
    scannerIndexRecords := []
    priorityCandidates := []
    scored := []
    indexFeedback := .empty
    heeded := self.backedOff }

def eventGeneration (self : BackoffLoop F) : Nat :=
  (self.scannerIndex.map (·.eventGeneration)).getD 0

def backoffActive (self : BackoffLoop F) (record : Option (CandidateIndexRecord F)) : Bool :=
  record.any fun record =>
    self.scannerIndex.any fun index => index.candidateInCooldown record self.now

def sight (self : BackoffLoop F) (sighting : Sighting F) : BackoffLoop F :=
  if sighting.isRecorded then
    let record := sighting.record self.eventGeneration
    let kept := if !self.backoffActive record && sighting.isWanted then [sighting.score] else []
    let noted := { self with scannerIndexRecords := self.scannerIndexRecords ++ record.toList }
    match sighting.route with
    | .prescan => { noted with priorityCandidates := self.priorityCandidates ++ kept }
    | .walked _ => { noted with scored := self.scored ++ kept }
  else self

def persist (setup : BackoffSetup F) (self : BackoffLoop F) : BackoffLoop F :=
  match self.scannerIndex with
  | none => self
  | some index =>
      if self.scannerIndexRecords.isEmpty then self
      else
        let index := self.scannerIndexRecords.foldl .upsert index
        { self with
          scannerIndex := some index
          saved := self.savedOf setup index
          scannerIndexRecords := [] }

def backOff (self : BackoffLoop F) (candidate : CandidacyScore F) : BackoffLoop F :=
  { self with
    indexFeedback :=
      match candidate.identity with
      | none => self.indexFeedback
      | some identity => self.indexFeedback.trySend (.ofFsIdentity identity)
    backedOff := self.backedOff ++ [(candidate, self.now)] }

variable [Float64 F]

/-- A batch of the best candidates, and what is left of them after trying to send it. -/
def dispatchTop (candidates : List (CandidacyScore F)) (maxDeleteBatch : Nat) (room : Bool)
    : List (CandidacyScore F) × List (CandidacyScore F) :=
  if maxDeleteBatch = 0 then ([], [])
  else
    let sorted := candidates.insertionSort scoresBefore
    let batch := sorted.take maxDeleteBatch
    let overflow := sorted.drop maxDeleteBatch
    if room then (batch, overflow) else ([], overflow ++ batch)

def indexedCandidates (self : BackoffLoop F) (maxDeleteBatch : Nat)
    : List (CandidacyScore F) :=
  (self.scannerIndex.map (·.rankedCandidateScores self.now maxDeleteBatch)).getD []

def handedOver (self : BackoffLoop F) : BackoffStep F → List (CandidacyScore F)
  | .dispatchIndexed maxDeleteBatch room =>
      (dispatchTop (self.indexedCandidates maxDeleteBatch) maxDeleteBatch room).1
  | .dispatchPriority maxDeleteBatch room =>
      (dispatchTop self.priorityCandidates maxDeleteBatch room).1
  | .dispatchScored maxDeleteBatch room => (dispatchTop self.scored maxDeleteBatch room).1
  | .wait _ | .startPass _ _ | .sight _ | .persist | .abandon | .backOff _ => []

def step (setup : BackoffSetup F) (self : BackoffLoop F) : BackoffStep F → BackoffLoop F
  | .wait span => { self with now := self.now + span }
  | .startPass context eventOverflow => self.startPass setup context eventOverflow
  | .dispatchIndexed _ _ => self
  | .sight sighting => self.sight sighting
  | .dispatchPriority maxDeleteBatch room =>
      { self with
        priorityCandidates := (dispatchTop self.priorityCandidates maxDeleteBatch room).2 }
  | .dispatchScored maxDeleteBatch room =>
      { self with scored := (dispatchTop self.scored maxDeleteBatch room).2 }
  | .persist => self.persist setup
  | .abandon => { self with scannerIndexRecords := [] }
  | .backOff candidate => self.backOff candidate

theorem mem_dispatchTop {candidates : List (CandidacyScore F)} {maxDeleteBatch : Nat}
    {room : Bool} {candidate : CandidacyScore F}
    (member : candidate ∈ (dispatchTop candidates maxDeleteBatch room).1
      ∨ candidate ∈ (dispatchTop candidates maxDeleteBatch room).2)
    : candidate ∈ candidates := by
  have sorted (found : candidate ∈ candidates.insertionSort scoresBefore)
      : candidate ∈ candidates :=
    (List.perm_insertionSort ..).mem_iff.mp found
  unfold dispatchTop at member
  split at member
  · simp at member
  · split at member
    · rcases member with batch | overflow
      · exact sorted (List.mem_of_mem_take batch)
      · exact sorted (List.mem_of_mem_drop overflow)
    · rcases member with none | left
      · cases none
      · rcases List.mem_append.mp left with overflow | batch
        · exact sorted (List.mem_of_mem_drop overflow)
        · exact sorted (List.mem_of_mem_take batch)

end BackoffLoop

end StorageBallast
