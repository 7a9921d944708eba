import StorageBallast.Logger.DualLogger

/-! The telemetry sources of the dashboard. The primary one queries the tables of the database,
the fallback reads the last lines of the JSONL log. Both give the same views of what was
logged: events, decisions and points of pressure.
-/

namespace StorageBallast

open scoped Float64

variable {F : Type}

structure TimelineEvent (F : Type) where
  timestamp : String
  eventType : String
  severity : String
  path : Option String
  sizeBytes : Option UInt64
  score : Option F
  pressureLevel : Option String
  freePct : Option F
  success : Option Bool
  errorCode : Option String
  errorMessage : Option String
  durationMs : Option UInt64
  details : Option String
deriving DecidableEq

structure FactorBreakdown (F : Type) where
  location : F
  name : F
  age : F
  size : F
  structure_ : F
  pressureMultiplier : F
deriving DecidableEq

structure DecisionEvidence (F : Type) where
  decisionId : Nat
  timestamp : String
  path : String
  sizeBytes : UInt64
  ageSecs : UInt64
  action : String
  effectiveAction : Option String
  policyMode : String
  factors : FactorBreakdown F
  totalScore : F
  posteriorAbandoned : F
  expectedLossKeep : F
  expectedLossDelete : F
  calibrationScore : F
  vetoed : Bool
  vetoReason : Option String
  guardStatus : Option String
  summary : String
  rawJson : Option String
deriving DecidableEq

structure PressurePoint (F : Type) where
  timestamp : String
  mountPoint : String
  freePct : F
  pressureLevel : String
  ewmaRate : Option F
  pidOutput : Option F
deriving DecidableEq

structure EventFilter where
  severities : List String := []
  eventTypes : List String := []
deriving DecidableEq

namespace EventFilter

def isEmpty (filter : EventFilter) : Bool :=
  filter.severities.isEmpty && filter.eventTypes.isEmpty

def admits (names : List String) (name : String) : Bool := names.isEmpty || names.contains name

def matches_ (filter : EventFilter) (severity eventType : String) : Bool :=
  admits filter.severities severity && admits filter.eventTypes eventType

end EventFilter

inductive DataSource where
  | sqlite
  | jsonl
  | none
deriving DecidableEq, Repr

structure TelemetryResult (α : Type) where
  data : α
  source : DataSource
  isPartial : Bool
  diagnostics : String
deriving DecidableEq

/-- A decision as far as the activity log tells it. -/
def timelineToEvidence [Float64 F] (id : Nat) (ev : TimelineEvent F) : DecisionEvidence F where
  decisionId := id
  timestamp := ev.timestamp
  path := ev.path.getD ""
  sizeBytes := ev.sizeBytes.getD 0
  ageSecs := 0
  action := if ev.success = some true then "delete" else "keep"
  effectiveAction := none
  policyMode := "live"
  factors := {
    location := 0.0
    name := 0.0
    age := 0.0
    size := 0.0
    structure_ := 0.0
    pressureMultiplier := 1.0
  }
  totalScore := ev.score.getD 0.0
  posteriorAbandoned := 0.0
  expectedLossKeep := 0.0
  expectedLossDelete := 0.0
  calibrationScore := 0.0
  vetoed := false
  vetoReason := none
  guardStatus := none
  summary := ev.details.getD ""
  rawJson := none

def timelinesToEvidence [Float64 F] (events : List (TimelineEvent F))
    : List (DecisionEvidence F) := events.mapIdx timelineToEvidence

namespace SqliteTelemetryAdapter

/-- `LIMIT` with the limit as an `i64`. A negative limit is none. -/
def limited {α : Type} (limit : UInt64) (rows : List α) : List α :=
  if limit.toNat < 2 ^ 63 then rows.take limit.toNat else rows

def unsignedColumn (n : Int) : UInt64 := UInt64.ofNat (max n 0).toNat

def rowToTimeline (row : ActivityRow F) : TimelineEvent F where
  timestamp := row.timestamp
  eventType := row.eventType
  severity := row.severity
  path := row.path
  sizeBytes := row.sizeBytes.map unsignedColumn
  score := row.score
  pressureLevel := row.pressureLevel
  freePct := row.freePct
  success := some (row.success != 0)
  errorCode := row.errorCode
  errorMessage := row.errorMessage
  durationMs := row.durationMs.map unsignedColumn
  details := row.details

def conditions (filter : EventFilter) : List (ActivityRow F → Bool) :=
  (if filter.severities.isEmpty then []
    else [fun row => filter.severities.contains row.severity])
  ++ (if filter.eventTypes.isEmpty then []
    else [fun row => filter.eventTypes.contains row.eventType])

def queryRecentActivity (db : Database F) (limit : UInt64) (filter : EventFilter)
    : List (TimelineEvent F) :=
  let selected := db.activityLog.reverse.filter fun row => (conditions filter).all (· row)
  (limited limit selected).map rowToTimeline

def rowToPoint (row : PressureRow F) : PressurePoint F where
  timestamp := row.timestamp
  mountPoint := row.mountPoint
  freePct := row.freePct
  pressureLevel := row.pressureLevel
  ewmaRate := row.ewmaRate
  pidOutput := row.pidOutput

def queryPressureHistory (db : Database F) (mount since : String) (limit : UInt64)
    : List (PressurePoint F) :=
  let selected := db.pressureHistory.reverse.filter fun row =>
    row.mountPoint == mount && decide (since ≤ row.timestamp)
  (limited limit selected).map rowToPoint

def answered {α : Type} (data : α) : TelemetryResult α :=
  { data, source := .sqlite, isPartial := false, diagnostics := "" }

def recentEvents (db : Database F) (limit : UInt64) (filter : EventFilter)
    : TelemetryResult (List (TimelineEvent F)) :=
  answered (queryRecentActivity db limit filter)

def recentDecisions [Float64 F] (db : Database F) (limit : UInt64)
    : TelemetryResult (List (DecisionEvidence F)) :=
  let filter : EventFilter := { eventTypes := ["artifact_delete"] }
  answered (timelinesToEvidence (queryRecentActivity db limit filter))

def pressureHistory (db : Database F) (mount since : String) (limit : UInt64)
    : TelemetryResult (List (PressurePoint F)) :=
  answered (queryPressureHistory db mount since limit)

end SqliteTelemetryAdapter

namespace JsonlTelemetryAdapter

inductive ParseOutcome (F : Type) where
  | exact (entry : LogEntry F)
  | recovered (entry : LogEntry F)
  | dropped
deriving DecidableEq

def normalizeToken (input : String) : String :=
  String.ofList ((Texts.toAsciiLowercase (Texts.trim input)).toList.map fun c =>
    if c = '-' ∨ c = ' ' then '_' else c)

def parseEventType (input : String) : Option EventType :=
  let normalized := normalizeToken input
  match EventType.ofName normalized with
  | some event => some event
  | none =>
      match String.ofList (normalized.toList.filter (· ≠ '_')) with
      | "artifactdelete" => some .artifactDelete
      | "ballastrelease" => some .ballastRelease
      | "ballastreplenish" => some .ballastReplenish
      | "ballastprovision" => some .ballastProvision
      | "pressurechange" => some .pressureChange
      | "scancomplete" => some .scanComplete
      | "daemonstart" => some .daemonStart
      | "daemonstop" => some .daemonStop
      | "configreload" => some .configReload
      | "info" => some .info
      | _ => none

def parseSeverity (input : String) : Option Severity :=
  match normalizeToken input with
  | "info" => some .info
  | "warning" => some .warning
  | "warn" => some .warning
  | "critical" => some .critical
  | "error" => some .critical
  | "fatal" => some .critical
  | _ => none

section Fields

variable [Float64 F] [JsonFloat64 F] (object : List (String × JsonValue F)) (keys : List String)

def readValue : Option (JsonValue F) := keys.findSome? (JsonValue.get object)

def readStringField : Option String :=
  (readValue object keys).bind fun
    | .string text => some text
    | .number n => some n.toText
    | .bool flag => some (boolText flag)
    | _ => none

def readU64Field : Option UInt64 :=
  (readValue object keys).bind fun
    | .number n =>
        n.asU64.orElse fun _ =>
          (n.asI64.bind fun signed =>
            if 0 ≤ signed then some (UInt64.ofNat signed.toNat) else none).orElse fun _ =>
          if JsonFloat64.isSignNegative n.asF64 || !Float64.isFinite n.asF64 then none
          else some (JsonFloat64.roundToU64 n.asF64)
    | .string text => parseU64 text
    | _ => none

def readF64Field : Option F :=
  (readValue object keys).bind fun
    | .number n => some n.asF64
    | .string text => JsonFloat64.ofText text
    | _ => none

omit [Float64 F] [JsonFloat64 F] in
def readBoolField : Option Bool :=
  (readValue object keys).bind fun
    | .bool flag => some flag
    | .string text =>
        match normalizeToken text with
        | "true" => some true
        | "1" => some true
        | "yes" => some true
        | "false" => some false
        | "0" => some false
        | "no" => some false
        | _ => none
    | _ => none

end Fields

section Shield

variable [Float64 F] [JsonFloat64 F]

/-- What can be made of an object that is no entry, if it has a time. -/
def recover (object : List (String × JsonValue F)) : ParseOutcome F :=
  match readStringField object ["ts", "timestamp", "time"] with
  | none => .dropped
  | some ts =>
      let rawEvent := readStringField object ["event", "event_type", "kind"]
      let details := readStringField object ["details", "summary", "message"]
      .recovered {
        ts
        event := (rawEvent.bind parseEventType).getD .error
        severity :=
          ((readStringField object ["severity", "level"]).bind parseSeverity).getD .warning
        path := readStringField object ["path", "target_path"]
        size := readU64Field object ["size", "size_bytes"]
        score := readF64Field object ["score", "total_score"]
        factors := none
        pressure := readStringField object ["pressure", "pressure_level"]
        freePct := readF64Field object ["free_pct", "free_percent"]
        rateBps := readF64Field object ["rate_bps", "ewma_rate"]
        durationMs := readU64Field object ["duration_ms", "durationMillis"]
        ok := readBoolField object ["ok", "success"]
        errorCode := readStringField object ["error_code"]
        errorMessage := readStringField object ["error_message", "error"]
        mountPoint := readStringField object ["mount_point", "mount"]
        details :=
          match rawEvent.filter fun token => (parseEventType token).isNone with
          | none => details
          | some raw =>
              match details with
              | none => some ("schema-shield unknown-event=" ++ raw)
              | some existing =>
                  some ("schema-shield unknown-event=" ++ raw ++ "; " ++ existing)
      }

def ofValue (value : JsonValue F) : ParseOutcome F :=
  match LogEntry.ofJson value with
  | some entry => .exact entry
  | none =>
      match value with
      | .object entries => recover entries
      | _ => .dropped

def parseJsonlEntryWithSchemaShield (text : JsonText F) (line : String) : ParseOutcome F :=
  match text.fromStr line with
  | some value => ofValue value
  | none => .dropped

end Shield

def decodeUtf8 (bytes : List UInt8) : Option String := String.fromUTF8? bytes.toByteArray

def stripCarriageReturn (line : List UInt8) : List UInt8 :=
  if line.getLast? = some 13 then line.dropLast else line

/-- `BufRead::lines`. -/
def readLines (content : List UInt8) : List (List UInt8) :=
  let (lines, rest) := WholeLines.splitLines 10 content
  lines.map stripCarriageReturn ++ if rest = [] then [] else [rest]

def chunkSize : Nat := 256 * 1024

structure TailEntries (F : Type) where
  entries : List (LogEntry F)
  recoveredLines : Nat
  droppedLines : Nat
  truncatedTailWindow : Bool
deriving DecidableEq

/-- The lines of the chunk at the end of the file. Those that are no texts are passed over,
and so are blank ones.
-/
def rawLines (content : List UInt8) : List String :=
  let startPos := content.length - chunkSize
  let lines := (readLines (content.drop startPos)).filterMap decodeUtf8
  let lines := lines.filter fun line => (Texts.trim line) != ""
  -- The first line of a chunk is likely to be cut.
  if 0 < startPos then lines.drop 1 else lines

variable [Float64 F] [JsonFloat64 F]

/-- The last lines of the log, the newest first. -/
def tailEntries (text : JsonText F) (content : List UInt8) (n : UInt64) : TailEntries F :=
  let lines := rawLines content
  let tail := (lines.drop (lines.length - n.toNat)).reverse
  let outcomes := tail.map (parseJsonlEntryWithSchemaShield text)
  { entries := outcomes.filterMap fun
      | .exact entry => some entry
      | .recovered entry => some entry
      | .dropped => none
    recoveredLines := outcomes.countP fun
      | .recovered _ => true
      | _ => false
    droppedLines := outcomes.countP fun
      | .dropped => true
      | _ => false
    truncatedTailWindow :=
      decide (chunkSize < content.length) && decide (lines.length < n.toNat) }

def schemaShieldDiagnostics (recovered dropped : Nat) (tailTruncated : Bool) : String :=
  if recovered = 0 ∧ dropped = 0 ∧ tailTruncated = false then ""
  else
    "jsonl schema-shield recovered=" ++ toString recovered
      ++ " dropped=" ++ toString dropped
      ++ if tailTruncated then " tail-window-truncated" else ""

omit [Float64 F] [JsonFloat64 F] in
def logentryToTimeline (entry : LogEntry F) : TimelineEvent F where
  timestamp := entry.ts
  eventType := entry.event.name
  severity := entry.severity.name
  path := entry.path
  sizeBytes := entry.size
  score := entry.score
  pressureLevel := entry.pressure
  freePct := entry.freePct
  success := entry.ok
  errorCode := entry.errorCode
  errorMessage := entry.errorMessage
  durationMs := entry.durationMs
  details := entry.details

omit [JsonFloat64 F] in
def entryToPoint (entry : LogEntry F) : PressurePoint F where
  timestamp := entry.ts
  mountPoint := entry.mountPoint.getD ""
  freePct := entry.freePct.getD 0.0
  pressureLevel := entry.pressure.getD ""
  ewmaRate := entry.rateBps
  pidOutput := none

omit [Float64 F] [JsonFloat64 F] in
def answered {α : Type} (tail : TailEntries F) (data : α) : TelemetryResult α where
  data
  source := .jsonl
  isPartial := decide (0 < tail.droppedLines) || tail.truncatedTailWindow
  diagnostics :=
    schemaShieldDiagnostics tail.recoveredLines tail.droppedLines tail.truncatedTailWindow

variable (text : JsonText F) (content : List UInt8)

def recentEvents (limit : UInt64) (filter : EventFilter)
    : TelemetryResult (List (TimelineEvent F)) :=
  let readCount := if filter.isEmpty then limit else limit * 4
  let tail := tailEntries text content readCount
  let selected := tail.entries.filter fun entry =>
    filter.matches_ entry.severity.name entry.event.name
  answered tail ((selected.take limit.toNat).map logentryToTimeline)

def recentDecisions (limit : UInt64) : TelemetryResult (List (DecisionEvidence F)) :=
  let tail := tailEntries text content (limit * 4)
  let selected := tail.entries.filter fun entry => entry.event == .artifactDelete
  answered tail (timelinesToEvidence ((selected.take limit.toNat).map logentryToTimeline))

/-- The time since when is not looked at. -/
def pressureHistory (mount _since : String) (limit : UInt64)
    : TelemetryResult (List (PressurePoint F)) :=
  let tail := tailEntries text content (limit * 4)
  let selected := tail.entries.filter fun entry =>
    entry.event == .pressureChange && entry.mountPoint == some mount
  answered tail ((selected.take limit.toNat).map entryToPoint)

end JsonlTelemetryAdapter

end StorageBallast
