import StorageBallast.Foundations.Sorting
import StorageBallast.Monitor.PidController
import StorageBallast.Scanner.EventSource

/-! The scheduler that divides a scan budget: most of it goes to the paths of the highest
utility, and a quota to those that were scanned the least.
-/

namespace StorageBallast

open scoped Float64
open Sorting (sortBy)

/-- `f64::min`: an unordered operand yields to the other one. -/
def Float64.min {F : Type} [Float64 F] (a b : F) : F :=
  if Float64.le a b then a else if Float64.le b a then b
  else if Float64.le a a then a else b

/-- `saturating_add` of 32-bit numbers. -/
def saturatingAddU32 (a b : Nat) : Nat := min (a + b) (2 ^ 32 - 1)

structure VoiConfig (F : Type) where
  /-- Master switch. -/
  enabled : Bool
  scanBudgetPerInterval : Nat
  explorationQuotaFraction : F
  ioCostWeight : F
  fpRiskWeight : F
  explorationWeight : F
  forecastErrorThreshold : F
  fallbackTriggerWindows : Nat
  recoveryTriggerWindows : Nat
  minObservationsForForecast : Nat
  ewmaAlpha : F

structure PathStats (F : Type) where
  totalReclaimedBytes : Nat
  scanCount : Nat
  totalItemsDeleted : Nat
  falsePositiveCount : Nat
  lastScanned : Option Instant
  ewmaReclaimPerScan : F
  ewmaIoCostPerScan : F
  forecastReclaim : F
  lastPreScanForecast : F
  lastActualReclaim : Nat

structure ScanResult (F : Type) where
  path : Location
  reclaimedBytes : Nat
  itemsDeleted : Nat
  falsePositives : Nat
  ioCostEstimate : F
  now : Instant

section stats

variable {F : Type} [Float64 F]

def ewma (alpha prev current : F) : F := Float64.mulAdd (current - prev) alpha prev

namespace PathStats

def new : PathStats F where
  totalReclaimedBytes := 0
  scanCount := 0
  totalItemsDeleted := 0
  falsePositiveCount := 0
  lastScanned := none
  ewmaReclaimPerScan := 0.0
  ewmaIoCostPerScan := 1000.0
  forecastReclaim := 0.0
  lastPreScanForecast := 0.0
  lastActualReclaim := 0

def recordScan (self : PathStats F) (result : ScanResult F) (alpha : F) : PathStats F :=
  let reclaim := ewma alpha self.ewmaReclaimPerScan (Float64.ofNat result.reclaimedBytes)
  { totalReclaimedBytes :=
      Min.min (self.totalReclaimedBytes + result.reclaimedBytes) (2 ^ 64 - 1)
    scanCount := saturatingAddU32 self.scanCount 1
    totalItemsDeleted := saturatingAddU32 self.totalItemsDeleted result.itemsDeleted
    falsePositiveCount := saturatingAddU32 self.falsePositiveCount result.falsePositives
    lastScanned := some result.now
    ewmaReclaimPerScan := reclaim
    ewmaIoCostPerScan := ewma alpha self.ewmaIoCostPerScan result.ioCostEstimate
    forecastReclaim := reclaim
    lastPreScanForecast := self.forecastReclaim
    lastActualReclaim := result.reclaimedBytes }

def forecastError (self : PathStats F) : Option F :=
  if self.scanCount < 2 then none
  else
    let actual : F := Float64.ofNat self.lastActualReclaim
    let forecast := self.lastPreScanForecast
    if !Float64.isFinite actual || !Float64.isFinite forecast then none
    else if Float64.lt (Float64.abs actual) 1.0 && Float64.lt (Float64.abs forecast) 1.0 then
      some 0.0
    else
      let denominator :=
        Float64.max (Float64.max (Float64.abs actual) (Float64.abs forecast)) 1.0
      some (Float64.abs (actual - forecast) / denominator)

/-- Seconds since the last scan; `none` stands for infinity. -/
def staleness (self : PathStats F) (now : Instant) : Option F :=
  self.lastScanned.map fun last => Duration.asSecsF64 (elapsed now last)

def fpRate (self : PathStats F) : F :=
  if self.scanCount = 0 then 0.0
  else Float64.ofNat self.falsePositiveCount / Float64.ofNat self.scanCount

end PathStats

end stats

structure ScanPlanEntry (F : Type) where
  path : Location
  utility : F
  isExploration : Bool
  forecastReclaimBytes : F

structure ScanPlan (F : Type) where
  entries : List (ScanPlanEntry F)
  fallbackActive : Bool
  budgetUsed : Nat
  budgetTotal : Nat

def ScanPlan.paths {F : Type} (self : ScanPlan F) : List Location := self.entries.map (·.path)

/-- Tracks forecast accuracy to trigger and recover from fallback mode. -/
structure CalibrationState (F : Type) where
  consecutiveBadWindows : Nat
  consecutiveGoodWindows : Nat
  fallbackActive : Bool
  /-- The last 50 windows, the oldest first. -/
  windowMapes : List F

def CalibrationState.new {F : Type} : CalibrationState F where
  consecutiveBadWindows := 0
  consecutiveGoodWindows := 0
  fallbackActive := false
  windowMapes := []

def CalibrationState.recordWindow {F : Type} [Float64 F] (self : CalibrationState F) (mape : F)
    (config : VoiConfig F) : CalibrationState F :=
  let pushed := self.windowMapes ++ [mape]
  let mapes := if 50 < pushed.length then pushed.tail else pushed
  if Float64.gt mape config.forecastErrorThreshold then
    let bad := saturatingAddU32 self.consecutiveBadWindows 1
    { consecutiveBadWindows := bad
      consecutiveGoodWindows := 0
      fallbackActive := self.fallbackActive || decide (config.fallbackTriggerWindows ≤ bad)
      windowMapes := mapes }
  else
    let good := saturatingAddU32 self.consecutiveGoodWindows 1
    { consecutiveBadWindows := 0
      consecutiveGoodWindows := good
      fallbackActive := self.fallbackActive && decide (good < config.recoveryTriggerWindows)
      windowMapes := mapes }

/-- The registered paths, each once, with their statistics. -/
structure VoiScheduler (F : Type) where
  config : VoiConfig F
  paths : List Location
  pathStats : Location → PathStats F
  calibration : CalibrationState F
  /-- Errors observed in the current window. -/
  pendingErrors : List F
  /-- Round-robin cursor of the fallback. -/
  rrCursor : Nat
  distinct : paths.Nodup

namespace VoiScheduler

variable {F : Type} [Float64 F]

def new (config : VoiConfig F) : VoiScheduler F where
  config
  paths := []
  pathStats _ := .new
  calibration := .new
  pendingErrors := []
  rrCursor := 0
  distinct := List.nodup_nil

def registerPath (self : VoiScheduler F) (path : Location) : VoiScheduler F :=
  if listed : path ∈ self.paths then self
  else
    { self with
      paths := self.paths ++ [path]
      pathStats := Function.update self.pathStats path .new
      distinct := List.nodup_append.mpr ⟨self.distinct, List.nodup_singleton path,
        fun _ among _ added same =>
          listed (List.mem_singleton.mp added ▸ same ▸ among)⟩ }

omit [Float64 F] in
def updateConfig (self : VoiScheduler F) (config : VoiConfig F) : VoiScheduler F :=
  { self with config }

def recordScanResult (self : VoiScheduler F) (result : ScanResult F) : VoiScheduler F :=
  if result.path ∈ self.paths then
    let stats := (self.pathStats result.path).recordScan result self.config.ewmaAlpha
    { self with
      pathStats := Function.update self.pathStats result.path stats
      pendingErrors :=
        if self.config.minObservationsForForecast ≤ stats.scanCount then
          self.pendingErrors ++ stats.forecastError.toList
        else self.pendingErrors }
  else self

def endWindow (self : VoiScheduler F) : VoiScheduler F :=
  if self.pendingErrors = [] then self
  else
    let mape := self.pendingErrors.foldl (· + ·) 0.0
      / Float64.ofNat self.pendingErrors.length
    { self with
      calibration := self.calibration.recordWindow mape self.config
      pendingErrors := [] }

def isFallbackActive (self : VoiScheduler F) : Bool :=
  !self.config.enabled || self.calibration.fallbackActive

/-- The VOI utility score of a path, never negative. -/
def computeUtility (self : VoiScheduler F) (path : Location) (now : Instant) : F :=
  if path ∈ self.paths then
    let stats := self.pathStats path
    let expectedReclaim := stats.ewmaReclaimPerScan
    let observationRatio := Float64.min
      (Float64.ofNat stats.scanCount / Float64.ofNat self.config.minObservationsForForecast) 1.0
    let uncertaintyDiscount := Float64.mulAdd 0.5 observationRatio 0.5
    let ioPenalty := stats.ewmaIoCostPerScan * self.config.ioCostWeight
    let fpPenalty := stats.fpRate * expectedReclaim * self.config.fpRiskWeight
    -- a path that was never scanned counts as stale for longer than a day
    let staleHours := match stats.staleness now with
      | none => 24.0
      | some seconds => Float64.min (seconds / 3600.0) 24.0
    let explorationBonus := self.config.explorationWeight * staleHours
      * (1.0 / (Float64.ofNat stats.scanCount + 1.0))
    let utility := Float64.mulAdd expectedReclaim uncertaintyDiscount (-ioPenalty) - fpPenalty
      + explorationBonus
    Float64.max utility 0.0
  else 0.0

def byUtility (left right : Location × F) : Ordering :=
  ((Float64.partialCmp right.2 left.2).getD .eq).then (Location.order left.1 right.1)

def compareStaleness : Option F → Option F → Ordering
  | none, none => .eq
  | none, some _ => .gt
  | some _, none => .lt
  | some left, some right => (Float64.partialCmp left right).getD .eq

structure ExplorationCandidate (F : Type) where
  path : Location
  scanCount : Nat
  staleness : Option F

def byScanCount (left right : ExplorationCandidate F) : Ordering :=
  (compare left.scanCount right.scanCount).then
    (compareStaleness right.staleness left.staleness)

def planEntry (self : VoiScheduler F) (path : Location) (utility : F) (isExploration : Bool)
    : ScanPlanEntry F where
  path := path
  utility := utility
  isExploration := isExploration
  forecastReclaimBytes :=
    if path ∈ self.paths then (self.pathStats path).forecastReclaim else 0.0

variable [RoundingFloat64 F]

def explorationBudget (self : VoiScheduler F) (budget : Nat) : Nat :=
  Min.min (RoundingFloat64.toNat (RoundingFloat64.ceil
    (Float64.ofNat budget * self.config.explorationQuotaFraction))) (budget - 1)

omit [RoundingFloat64 F] in
def scoredPaths (self : VoiScheduler F) (paths : List Location) (now : Instant)
    : List (Location × F) :=
  sortBy byUtility (paths.map fun path => (path, self.computeUtility path now))

omit [RoundingFloat64 F] in
def explorationCandidates (self : VoiScheduler F) (paths selected : List Location)
    (now : Instant) : List (ExplorationCandidate F) :=
  sortBy byScanCount ((paths.filter fun path => !decide (path ∈ selected)).map fun path =>
    if path ∈ self.paths then
      ⟨path, (self.pathStats path).scanCount, (self.pathStats path).staleness now⟩
    else ⟨path, 0, none⟩)

/-- VOI-prioritized scheduler with exploration quota. The paths come in the order in which
the table of statistics is iterated.
-/
def scheduleVoi (self : VoiScheduler F) (paths : List Location) (budget : Nat) (now : Instant)
    : ScanPlan F :=
  let explorationBudget := self.explorationBudget budget
  let exploited := (self.scoredPaths paths now).take (budget - explorationBudget)
  let explored := (self.explorationCandidates paths (exploited.map (·.1)) now).take
    explorationBudget
  let selected := exploited.map (fun scored => self.planEntry scored.1 scored.2 false)
    ++ explored.map fun candidate =>
      self.planEntry candidate.path (self.computeUtility candidate.path now) true
  { entries := selected
    fallbackActive := false
    budgetUsed := selected.length
    budgetTotal := budget }

omit [RoundingFloat64 F] in
def scheduleRoundRobin (self : VoiScheduler F) (paths : List Location) (budget : Nat)
    : VoiScheduler F × ScanPlan F :=
  let sorted := sortBy Location.order paths
  let count := Min.min budget sorted.length
  let entries := (List.range count).filterMap fun i =>
    (sorted[(self.rrCursor + i) % sorted.length]?).map fun path =>
      self.planEntry path 0.0 false
  ({ self with rrCursor := (self.rrCursor + count) % Max.max sorted.length 1 },
    { entries := entries
      fallbackActive := true
      budgetUsed := count
      budgetTotal := budget })

def schedule (self : VoiScheduler F) (iteration : List Location) (now : Instant)
    : VoiScheduler F × ScanPlan F :=
  let budget := self.config.scanBudgetPerInterval
  if self.paths = [] ∨ budget = 0 then (self, ⟨[], self.isFallbackActive, 0, budget⟩)
  else if self.isFallbackActive then self.scheduleRoundRobin iteration budget
  else (self, self.scheduleVoi iteration budget now)

end VoiScheduler

end StorageBallast
