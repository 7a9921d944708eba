import StorageBallast.Foundations.Floats
import StorageBallast.Monitor.Diagnostics
import StorageBallast.Scanner.Candidates

/-! Evidence records the policy engine builds for each candidate it evaluates. -/

namespace StorageBallast

inductive PolicyMode where
  | live
  | shadow
  | canary
  | dryRun
deriving DecidableEq, Repr

structure GuardStatusRecord (F : Type) where
  status : String
  observationCount : Nat
  eProcessValue : F
  eProcessAlarm : Bool
deriving DecidableEq, Repr

def GuardStatusRecord.fromDiagnostics {F : Type} (diag : GuardDiagnostics F)
    : GuardStatusRecord F where
  status := diag.status.toString
  observationCount := diag.observationCount
  eProcessValue := diag.eProcessValue
  eProcessAlarm := diag.eProcessAlarm

structure ClassificationRecord (F : Type) where
  patternName : String
  category : String
  combinedConfidence : F
deriving DecidableEq, Repr

structure DecisionRecord (F : Type) where
  decisionId : Nat
  policyMode : PolicyMode
  path : PathBuf
  sizeBytes : Nat
  ageSecs : Nat
  classification : ClassificationRecord F
  factors : ScoreFactors F
  factorContributions : List (EvidenceTerm F)
  totalScore : F
  posteriorAbandoned : F
  expectedLossKeep : F
  expectedLossDelete : F
  calibrationScore : F
  fallbackActive : Bool
  fallbackReason : Option String
  vetoed : Bool
  vetoReason : Option String
  action : DecisionAction
  effectiveAction : Option DecisionAction
  guardStatus : Option (GuardStatusRecord F)
  comparatorAction : Option DecisionAction
  summary : String
deriving DecidableEq, Repr

structure DecisionRecordBuilder where
  nextId : Nat
deriving DecidableEq, Repr

def DecisionRecordBuilder.new : DecisionRecordBuilder := ⟨1⟩

def DecisionRecordBuilder.build {F : Type} [Float64 F] (self : DecisionRecordBuilder)
    (score : CandidacyScore F) (policyMode : PolicyMode)
    (guardStatus : Option (GuardDiagnostics F))
    (comparatorAction effectiveAction : Option DecisionAction)
    : DecisionRecord F × DecisionRecordBuilder :=
  let fallbackReason :=
    if score.decision.fallbackActive then
      some ("calibration " ++ Float64.toFixed 3 score.decision.calibrationScore
        ++ " below floor")
    else none
  ({
    decisionId := self.nextId
    policyMode
    path := score.path
    sizeBytes := score.sizeBytes
    ageSecs := Duration.asSecs score.age
    classification := {
      patternName := score.classification.patternName
      category := score.classification.category.debugName
      combinedConfidence := score.classification.combinedConfidence
    }
    factors := score.factors
    factorContributions := score.ledger.terms
    totalScore := score.totalScore
    posteriorAbandoned := score.decision.posteriorAbandoned
    expectedLossKeep := score.decision.expectedLossKeep
    expectedLossDelete := score.decision.expectedLossDelete
    calibrationScore := score.decision.calibrationScore
    fallbackActive := score.decision.fallbackActive
    fallbackReason
    vetoed := score.vetoed
    vetoReason := score.vetoReason
    action := score.decision.action
    effectiveAction
    guardStatus := guardStatus.map GuardStatusRecord.fromDiagnostics
    comparatorAction
    summary := score.ledger.summary
  }, ⟨self.nextId + 1⟩)

end StorageBallast

/-! Modes of the policy engine, the reasons it falls back for, and its configuration. -/

namespace StorageBallast

inductive ActiveMode where
  | observe
  | canary
  | enforce
  | fallbackSafe
deriving DecidableEq, Repr

namespace ActiveMode

def allowsDeletion : ActiveMode → Bool
  | canary | enforce => true
  | observe | fallbackSafe => false

def toPolicyMode : ActiveMode → PolicyMode
  | observe | fallbackSafe => .shadow
  | canary => .canary
  | enforce => .live

def toString : ActiveMode → String
  | observe => "observe"
  | canary => "canary"
  | enforce => "enforce"
  | fallbackSafe => "fallback_safe"

end ActiveMode

inductive FallbackReason where
  | calibrationBreach (consecutiveWindows : Nat)
  | guardrailDrift
  | canaryBudgetExhausted
  | policyError (details : String)
  | serializationFailure
  | killSwitch
deriving DecidableEq, Repr

namespace FallbackReason

def toString : FallbackReason → String
  | calibrationBreach consecutiveWindows =>
      "calibration breach (" ++ Nat.repr consecutiveWindows ++ " windows)"
  | guardrailDrift => "guardrail drift alarm"
  | canaryBudgetExhausted => "canary budget exhausted"
  | policyError details => "policy error: " ++ details
  | serializationFailure => "evidence serialization failure"
  | killSwitch => "kill-switch engaged"

def isCalibrationBreach : FallbackReason → Bool
  | calibrationBreach _ => true
  | _ => false

end FallbackReason

structure PolicyConfig (F : Type) where
  initialMode : ActiveMode
  maxCandidatesPerLoop : Nat
  maxHypotheticalDeletes : Nat
  maxCanaryDeletesPerHour : Nat
  recoveryCleanWindows : Nat
  calibrationBreachWindows : Nat
  guardPenalty : F
  lossDeleteUseful : F
  lossKeepAbandoned : F
  lossReview : F
  minFallbackSecs : Nat
  killSwitch : Bool
  observeMinIntervalSecs : Nat
deriving DecidableEq, Repr

def minObserveIntervalSecs : Nat := 10

open scoped Float64 in
def PolicyConfig.default {F : Type} [Float64 F] : PolicyConfig F where
  initialMode := .enforce
  maxCandidatesPerLoop := 100
  maxHypotheticalDeletes := 25
  maxCanaryDeletesPerHour := 10
  recoveryCleanWindows := 10
  calibrationBreachWindows := 25
  guardPenalty := 50.0
  lossDeleteUseful := 100.0
  lossKeepAbandoned := 30.0
  lossReview := 5.0
  minFallbackSecs := 300
  killSwitch := false
  observeMinIntervalSecs := minObserveIntervalSecs

structure TransitionEntry where
  transition : String
  fromMode : String
  toMode : String
  atDecision : Nat
  reason : Option String
deriving DecidableEq, Repr

/-- Result of evaluating one batch of candidates. -/
structure PolicyDecision (F : Type) where
  records : List (DecisionRecord F)
  approvedForDeletion : List (CandidacyScore F)
  hypotheticalDeletes : Nat
  hypotheticalKeeps : Nat
  hypotheticalReviews : Nat
  budgetExhausted : Bool
  mode : ActiveMode
deriving DecidableEq, Repr

end StorageBallast
