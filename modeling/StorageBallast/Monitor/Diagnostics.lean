/-! Readings the monitor hands to the policy engine: disk pressure and guard diagnostics. -/

namespace StorageBallast

inductive PressureLevel where
  | green
  | yellow
  | orange
  | red
  | critical
deriving DecidableEq, Repr

namespace PressureLevel

def rank : PressureLevel → Nat
  | green => 0
  | yellow => 1
  | orange => 2
  | red => 3
  | critical => 4

/-- `self >= other` in the derived order. -/
def atLeast (self other : PressureLevel) : Bool := decide (other.rank ≤ self.rank)

end PressureLevel

inductive GuardStatus where
  | pass
  | unknown
  | fail
deriving DecidableEq, Repr

namespace GuardStatus

def adaptiveAllowed (self : GuardStatus) : Bool := self == pass

def toString : GuardStatus → String
  | pass => "PASS"
  | unknown => "UNKNOWN"
  | fail => "FAIL"

end GuardStatus

structure GuardDiagnostics (F : Type) where
  status : GuardStatus
  observationCount : Nat
  medianRateError : F
  conservativeFraction : F
  eProcessValue : F
  eProcessAlarm : Bool
  consecutiveClean : Nat
  reason : String
deriving DecidableEq, Repr

end StorageBallast
