import StorageBallast.Foundations.BufferedOutput
import StorageBallast.Logger.LogEntries

/-! The dual-write logger. Each event is encoded twice: as an entry of the JSONL log, and for
some events as a row of a database table. The two encodings are made by separate case
analyses.
-/

namespace StorageBallast

variable {F : Type}

structure ScanCompletionTelemetry where
  engine : String
  dispatch : String
  scanReason : String
  opaquePruning : Bool
  opaquePrunedDirs : UInt64
  eventDirtyRoots : UInt64
  indexEventGeneration : UInt64
  indexRecords : UInt64
  candidateBytesSeen : UInt64
  timedOut : Bool
deriving DecidableEq

inductive ActivityEvent (F : Type) where
  | daemonStarted (version configHash : String)
  | daemonStopped (reason : String) (uptimeSecs : UInt64)
  | pressureChanged (from_ to_ : String) (freePct : F) (rateBps : Option F)
      (mountPoint : String) (totalBytes freeBytes : Int) (ewmaRate pidOutput : Option F)
  | ballastReleased (path : String) (sizeBytes : UInt64) (pressure : String) (freePct : F)
  | ballastReplenished (path : String) (sizeBytes : UInt64)
  | ballastProvisioned (path : String) (sizeBytes : UInt64)
  | artifactDeleted (path : String) (sizeBytes : UInt64) (score : F)
      (factors : ScoreFactorsRecord F) (pressure : String) (freePct : F) (durationMs : UInt64)
  | artifactDeletionFailed (path errorCode errorMessage : String)
  | scanCompleted (pathsScanned candidatesFound durationMs : UInt64)
      (telemetry : ScanCompletionTelemetry)
  | configReloaded (details : String)
  | info (message : String)
  | error (code message : String)
  | emergency (details : String) (freePct : F)
  /-- The sentinel that ends the logger thread. -/
  | shutdown
deriving DecidableEq

def ActivityEvent.isShutdown : ActivityEvent F → Bool
  | .shutdown => true
  | _ => false

def boolText (b : Bool) : String := if b then "true" else "false"

def scanCompletionDetails (pathsScanned candidatesFound : UInt64)
    (telemetry : ScanCompletionTelemetry) : String :=
  "paths_scanned=" ++ toString pathsScanned
    ++ " candidates=" ++ toString candidatesFound
    ++ " engine=" ++ telemetry.engine
    ++ " dispatch=" ++ telemetry.dispatch
    ++ " reason=" ++ telemetry.scanReason
    ++ " opaque_pruning=" ++ boolText telemetry.opaquePruning
    ++ " opaque_pruned_dirs=" ++ toString telemetry.opaquePrunedDirs
    ++ " event_dirty_roots=" ++ toString telemetry.eventDirtyRoots
    ++ " index_event_generation=" ++ toString telemetry.indexEventGeneration
    ++ " index_records=" ++ toString telemetry.indexRecords
    ++ " candidate_bytes_seen=" ++ toString telemetry.candidateBytesSeen
    ++ " timed_out=" ++ boolText telemetry.timedOut

def eventToLogEntry (ts : String) : ActivityEvent F → LogEntry F
  | .daemonStarted version configHash =>
      { ts, event := .daemonStart, severity := .info
        details := some ("version=" ++ version ++ " config_hash=" ++ configHash)
        ok := some true }
  | .daemonStopped reason uptimeSecs =>
      { ts, event := .daemonStop, severity := .info
        details := some ("reason=" ++ reason ++ " uptime=" ++ toString uptimeSecs ++ "s")
        ok := some true }
  | .pressureChanged from_ to_ freePct rateBps mountPoint _ _ _ _ =>
      { ts, event := .pressureChange, severity := .info
        pressure := some (from_ ++ "->" ++ to_)
        freePct := some freePct
        rateBps
        mountPoint := some mountPoint }
  | .ballastReleased path sizeBytes pressure freePct =>
      { ts, event := .ballastRelease, severity := .info
        path := some path
        size := some sizeBytes
        pressure := some pressure
        freePct := some freePct
        ok := some true }
  | .ballastReplenished path sizeBytes =>
      { ts, event := .ballastReplenish, severity := .info
        path := some path
        size := some sizeBytes
        ok := some true }
  | .ballastProvisioned path sizeBytes =>
      { ts, event := .ballastProvision, severity := .info
        path := some path
        size := some sizeBytes
        ok := some true }
  | .artifactDeleted path sizeBytes score factors pressure freePct durationMs =>
      { ts, event := .artifactDelete, severity := .info
        path := some path
        size := some sizeBytes
        score := some score
        factors := some factors
        pressure := some pressure
        freePct := some freePct
        durationMs := some durationMs
        ok := some true }
  | .artifactDeletionFailed path errorCode errorMessage =>
      { ts, event := .artifactDelete, severity := .warning
        path := some path
        ok := some false
        errorCode := some errorCode
        errorMessage := some errorMessage }
  | .scanCompleted pathsScanned candidatesFound durationMs telemetry =>
      { ts, event := .scanComplete, severity := .info
        durationMs := some durationMs
        details := some (scanCompletionDetails pathsScanned candidatesFound telemetry)
        ok := some true }
  | .configReloaded details =>
      { ts, event := .configReload, severity := .info
        details := some details
        ok := some true }
  | .info message =>
      { ts, event := .info, severity := .info
        details := some message
        ok := some true }
  | .error code message =>
      { ts, event := .error, severity := .critical
        errorCode := some code
        errorMessage := some message
        ok := some false }
  | .emergency details freePct =>
      { ts, event := .emergency, severity := .critical
        details := some details
        freePct := some freePct }
  | .shutdown => { ts, event := .daemonStop, severity := .info }

/-- A row of the `activity_log` table. -/
structure ActivityRow (F : Type) where
  timestamp : String
  eventType : String
  severity : String
  path : Option String := none
  sizeBytes : Option Int := none
  score : Option F := none
  scoreFactors : Option String := none
  pressureLevel : Option String := none
  freePct : Option F := none
  durationMs : Option Int := none
  success : Int
  errorCode : Option String := none
  errorMessage : Option String := none
  details : Option String := none
deriving DecidableEq

/-- A row of the `pressure_history` table. -/
structure PressureRow (F : Type) where
  timestamp : String
  mountPoint : String
  totalBytes : Int
  freeBytes : Int
  freePct : F
  rateBytesPerSec : Option F
  pressureLevel : String
  ewmaRate : Option F
  pidOutput : Option F
deriving DecidableEq

def i64Max : Int := 2 ^ 63 - 1

/-- `i64::try_from`, at most the greatest value. -/
def toI64 (n : UInt64) : Int := if (n.toNat : Int) ≤ i64Max then n.toNat else i64Max

def eventToActivityRow (factorsText : ScoreFactorsRecord F → String) (timestamp : String)
    : ActivityEvent F → Option (ActivityRow F)
  | .daemonStarted version configHash =>
      some { timestamp, eventType := "daemon_start", severity := "info"
             success := 1
             details := some ("version=" ++ version ++ " config_hash=" ++ configHash) }
  | .artifactDeleted path sizeBytes score factors pressure freePct durationMs =>
      some { timestamp, eventType := "artifact_delete", severity := "info"
             path := some path
             sizeBytes := some (toI64 sizeBytes)
             score := some score
             scoreFactors := some (factorsText factors)
             pressureLevel := some pressure
             freePct := some freePct
             durationMs := some (toI64 durationMs)
             success := 1 }
  | .artifactDeletionFailed path errorCode errorMessage =>
      some { timestamp, eventType := "artifact_delete", severity := "warning"
             path := some path
             success := 0
             errorCode := some errorCode
             errorMessage := some errorMessage }
  | .ballastReleased path sizeBytes pressure freePct =>
      some { timestamp, eventType := "ballast_release", severity := "info"
             path := some path
             sizeBytes := some (toI64 sizeBytes)
             pressureLevel := some pressure
             freePct := some freePct
             success := 1 }
  | .scanCompleted pathsScanned candidatesFound durationMs telemetry =>
      some { timestamp, eventType := "scan_complete", severity := "info"
             durationMs := some (toI64 durationMs)
             success := 1
             details := some (scanCompletionDetails pathsScanned candidatesFound telemetry) }
  | .error code message =>
      some { timestamp, eventType := "error", severity := "critical"
             success := 0
             errorCode := some code
             errorMessage := some message }
  | .info message =>
      some { timestamp, eventType := "info", severity := "info"
             success := 1
             details := some message }
  | .ballastReplenished path sizeBytes =>
      some { timestamp, eventType := "ballast_replenish", severity := "info"
             path := some path
             sizeBytes := some (toI64 sizeBytes)
             success := 1 }
  | .ballastProvisioned path sizeBytes =>
      some { timestamp, eventType := "ballast_provision", severity := "info"
             path := some path
             sizeBytes := some (toI64 sizeBytes)
             success := 1 }
  | .emergency details freePct =>
      some { timestamp, eventType := "emergency", severity := "critical"
             freePct := some freePct
             success := 1
             details := some details }
  | _ => none

def eventToPressureRow (timestamp : String) : ActivityEvent F → Option (PressureRow F)
  | .pressureChanged _ to_ freePct rateBps mountPoint totalBytes freeBytes ewmaRate pidOutput =>
      some { timestamp, mountPoint, totalBytes, freeBytes, freePct
             rateBytesPerSec := rateBps
             pressureLevel := to_
             ewmaRate, pidOutput }
  | _ => none

/-- Floats in a database column: what is read for a float that is stored. The unordered value
is stored as `NULL`.
-/
class SqliteFloat64 (F : Type) where
  column : F → Option F

open SqliteFloat64 (column)

variable [SqliteFloat64 F]

/-- The tables, as they are read, in the order of their rows. -/
structure Database (F : Type) where
  activityLog : List (ActivityRow F) := []
  pressureHistory : List (PressureRow F) := []
deriving DecidableEq

def ActivityRow.column (row : ActivityRow F) : ActivityRow F :=
  { row with
    score := row.score.bind SqliteFloat64.column
    freePct := row.freePct.bind SqliteFloat64.column }

/-- A row as it is read from its table, unless a column that must not be `NULL` would be. -/
def PressureRow.column (row : PressureRow F) : Option (PressureRow F) :=
  (SqliteFloat64.column row.freePct).map fun freePct =>
    { row with
      freePct
      rateBytesPerSec := row.rateBytesPerSec.bind SqliteFloat64.column
      ewmaRate := row.ewmaRate.bind SqliteFloat64.column
      pidOutput := row.pidOutput.bind SqliteFloat64.column }

namespace Database

def logActivity (db : Database F) (row : ActivityRow F) : Database F :=
  { db with activityLog := db.activityLog ++ [row.column] }

def logPressure (db : Database F) (row : PressureRow F) : Option (Database F) :=
  row.column.map fun row => { db with pressureHistory := db.pressureHistory ++ [row] }

end Database

structure LoggedEvent (F : Type) where
  event : ActivityEvent F
  entryTs : String
  rowTs : String
deriving DecidableEq

namespace LoggedEvent

def entry (logged : LoggedEvent F) : LogEntry F := eventToLogEntry logged.entryTs logged.event

def activityRow (text : JsonText F) (logged : LoggedEvent F) : Option (ActivityRow F) :=
  eventToActivityRow (text.toString ·.toJson) logged.rowTs logged.event

def pressureRow (logged : LoggedEvent F) : Option (PressureRow F) :=
  eventToPressureRow logged.rowTs logged.event

end LoggedEvent

/-- The two backends. -/
structure LogStore (F : Type) where
  jsonl : List UInt8 := []
  db : Database F := {}
deriving DecidableEq

namespace LogStore

def lineOf (text : JsonText F) (entry : LogEntry F) : List UInt8 :=
  Texts.bytes (text.toString entry.toJson) ++ [10]

def write (text : JsonText F) (store : LogStore F) (logged : LoggedEvent F)
    : Option (LogStore F) := do
  let store := { store with jsonl := store.jsonl ++ lineOf text logged.entry }
  let db := match logged.activityRow text with
    | none => store.db
    | some row => store.db.logActivity row
  let db ← match logged.pressureRow with
    | none => some db
    | some row => db.logPressure row
  return { store with db }

def writeAll (text : JsonText F) (store : LogStore F)
    : List (LoggedEvent F) → Option (LogStore F)
  | [] => some store
  | logged :: rest =>
      if logged.event.isShutdown then some store
      else (store.write text logged).bind fun store => store.writeAll text rest

end LogStore

end StorageBallast
