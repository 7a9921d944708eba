import StorageBallast.Foundations.JsonValues
import Mathlib.Data.Option.Basic

/-! Entries of the JSONL log as records: how an entry is written as a JSON object and what is
read from that object. An entry comes back as it was but for the floats in it, and not at all
if one of its factors cannot be read.
-/

namespace StorageBallast

variable {F : Type}

inductive Severity where
  | info
  | warning
  | critical
deriving DecidableEq, Repr

inductive EventType where
  | artifactDelete
  | ballastRelease
  | ballastReplenish
  | ballastProvision
  | pressureChange
  | scanComplete
  | daemonStart
  | daemonStop
  | configReload
  | info
  | error
  | emergency
deriving DecidableEq, Repr

structure ScoreFactorsRecord (F : Type) where
  location : F
  name : F
  age : F
  size : F
  structure_ : F
deriving DecidableEq

structure LogEntry (F : Type) where
  ts : String
  event : EventType
  severity : Severity
  path : Option String := none
  size : Option UInt64 := none
  score : Option F := none
  factors : Option (ScoreFactorsRecord F) := none
  pressure : Option String := none
  freePct : Option F := none
  rateBps : Option F := none
  durationMs : Option UInt64 := none
  ok : Option Bool := none
  errorCode : Option String := none
  errorMessage : Option String := none
  mountPoint : Option String := none
  details : Option String := none
deriving DecidableEq

namespace Severity

def name : Severity → String
  | info => "info"
  | warning => "warning"
  | critical => "critical"

def ofName : String → Option Severity
  | "info" => some info
  | "warning" => some warning
  | "critical" => some critical
  | _ => none

@[simp] theorem ofName_name (severity : Severity) : ofName severity.name = some severity := by
  cases severity <;> rfl

end Severity

namespace EventType

def name : EventType → String
  | artifactDelete => "artifact_delete"
  | ballastRelease => "ballast_release"
  | ballastReplenish => "ballast_replenish"
  | ballastProvision => "ballast_provision"
  | pressureChange => "pressure_change"
  | scanComplete => "scan_complete"
  | daemonStart => "daemon_start"
  | daemonStop => "daemon_stop"
  | configReload => "config_reload"
  | info => "info"
  | error => "error"
  | emergency => "emergency"

def ofName : String → Option EventType
  | "artifact_delete" => some artifactDelete
  | "ballast_release" => some ballastRelease
  | "ballast_replenish" => some ballastReplenish
  | "ballast_provision" => some ballastProvision
  | "pressure_change" => some pressureChange
  | "scan_complete" => some scanComplete
  | "daemon_start" => some daemonStart
  | "daemon_stop" => some daemonStop
  | "config_reload" => some configReload
  | "info" => some info
  | "error" => some error
  | "emergency" => some emergency
  | _ => none

@[simp] theorem ofName_name (event : EventType) : ofName event.name = some event := by
  cases event <;> rfl

theorem name_injective : Function.Injective name :=
  fun event other same => Option.some.inj (by rw [← ofName_name event, same, ofName_name])

end EventType

open JsonValue (present)

def JsonValue.ofFloat (x : F) : JsonValue F := .number (.float x)

def JsonValue.ofU64 (n : UInt64) : JsonValue F := .number (.posInt n)

namespace ScoreFactorsRecord

def fieldNames : List String := ["location", "name", "age", "size", "structure"]

def fields (factors : ScoreFactorsRecord F) : List (String × Option (JsonValue F)) := [
  ("location", some (.ofFloat factors.location)),
  ("name", some (.ofFloat factors.name)),
  ("age", some (.ofFloat factors.age)),
  ("size", some (.ofFloat factors.size)),
  ("structure", some (.ofFloat factors.structure_))]

def toJson (factors : ScoreFactorsRecord F) : JsonValue F := .object (present factors.fields)

end ScoreFactorsRecord

namespace LogEntry

def fieldNames : List String := [
  "ts", "event", "severity", "path", "size", "score", "factors", "pressure", "free_pct",
  "rate_bps", "duration_ms", "ok", "error_code", "error_message", "mount_point", "details"]

def fields (entry : LogEntry F) : List (String × Option (JsonValue F)) := [
  ("ts", some (.string entry.ts)),
  ("event", some (.string entry.event.name)),
  ("severity", some (.string entry.severity.name)),
  ("path", entry.path.map .string),
  ("size", entry.size.map .ofU64),
  ("score", entry.score.map .ofFloat),
  ("factors", entry.factors.map ScoreFactorsRecord.toJson),
  ("pressure", entry.pressure.map .string),
  ("free_pct", entry.freePct.map .ofFloat),
  ("rate_bps", entry.rateBps.map .ofFloat),
  ("duration_ms", entry.durationMs.map .ofU64),
  ("ok", entry.ok.map .bool),
  ("error_code", entry.errorCode.map .string),
  ("error_message", entry.errorMessage.map .string),
  ("mount_point", entry.mountPoint.map .string),
  ("details", entry.details.map .string)]

def toJson (entry : LogEntry F) : JsonValue F := .object (present entry.fields)

end LogEntry

open JsonValue (recordFields requiredField optionalField)

section Reading

variable [Float64 F]

def ScoreFactorsRecord.ofJson (value : JsonValue F) : Option (ScoreFactorsRecord F) := do
  let entries ← recordFields fieldNames value
  let location ← requiredField entries JsonValue.asF64 "location"
  let name ← requiredField entries JsonValue.asF64 "name"
  let age ← requiredField entries JsonValue.asF64 "age"
  let size ← requiredField entries JsonValue.asF64 "size"
  let structure_ ← requiredField entries JsonValue.asF64 "structure"
  return { location, name, age, size, structure_ }

def LogEntry.ofJson (value : JsonValue F) : Option (LogEntry F) := do
  let entries ← recordFields fieldNames value
  let ts ← requiredField entries JsonValue.asStr "ts"
  let event ← requiredField entries (·.asUnitVariant.bind EventType.ofName) "event"
  let severity ← requiredField entries (·.asUnitVariant.bind Severity.ofName) "severity"
  let path ← optionalField entries JsonValue.asStr "path"
  let size ← optionalField entries JsonValue.asU64 "size"
  let score ← optionalField entries JsonValue.asF64 "score"
  let factors ← optionalField entries ScoreFactorsRecord.ofJson "factors"
  let pressure ← optionalField entries JsonValue.asStr "pressure"
  let freePct ← optionalField entries JsonValue.asF64 "free_pct"
  let rateBps ← optionalField entries JsonValue.asF64 "rate_bps"
  let durationMs ← optionalField entries JsonValue.asU64 "duration_ms"
  let ok ← optionalField entries JsonValue.asBool "ok"
  let errorCode ← optionalField entries JsonValue.asStr "error_code"
  let errorMessage ← optionalField entries JsonValue.asStr "error_message"
  let mountPoint ← optionalField entries JsonValue.asStr "mount_point"
  let details ← optionalField entries JsonValue.asStr "details"
  return { ts, event, severity, path, size, score, factors, pressure, freePct, rateBps,
           durationMs, ok, errorCode, errorMessage, mountPoint, details }

end Reading

section RoundTrips

def ScoreFactorsRecord.floats (factors : ScoreFactorsRecord F) : List F :=
  [factors.location, factors.name, factors.age, factors.size, factors.structure_]

def LogEntry.floats (entry : LogEntry F) : List F :=
  entry.score.toList ++ entry.factors.elim [] ScoreFactorsRecord.floats
    ++ entry.freePct.toList ++ entry.rateBps.toList

variable [JsonFloat64 F]

def ScoreFactorsRecord.reread (factors : ScoreFactorsRecord F)
    : Option (ScoreFactorsRecord F) := do
  let location ← JsonFloat64.reread factors.location
  let name ← JsonFloat64.reread factors.name
  let age ← JsonFloat64.reread factors.age
  let size ← JsonFloat64.reread factors.size
  let structure_ ← JsonFloat64.reread factors.structure_
  return { location, name, age, size, structure_ }

def LogEntry.reread (entry : LogEntry F) : LogEntry F :=
  { entry with
    score := entry.score.bind JsonFloat64.reread
    factors := entry.factors.bind ScoreFactorsRecord.reread
    freePct := entry.freePct.bind JsonFloat64.reread
    rateBps := entry.rateBps.bind JsonFloat64.reread }

def LogEntry.factorsLost (entry : LogEntry F) : Bool :=
  entry.factors.any fun factors => factors.reread.isNone

theorem ScoreFactorsRecord.reread_eq_some_iff (factors : ScoreFactorsRecord F)
    : factors.reread = some factors ↔ ∀ x ∈ factors.floats, JsonFloat64.reread x = some x := by
  obtain ⟨location, name, age, size, structure_⟩ := factors
  simp only [floats, List.forall_mem_cons, List.not_mem_nil, false_implies, implies_true,
    and_true, reread, Option.bind_eq_bind, Option.bind_eq_some_iff, Option.some.injEq, mk.injEq,
    Option.pure_def]
  constructor
  · rintro ⟨_, first, _, second, _, third, _, fourth, _, fifth, rfl, rfl, rfl, rfl, rfl⟩
    exact ⟨first, second, third, fourth, fifth⟩
  · intro ⟨first, second, third, fourth, fifth⟩
    exact ⟨_, first, _, second, _, third, _, fourth, _, fifth, rfl, rfl, rfl, rfl, rfl⟩

theorem LogEntry.reread_eq_iff (entry : LogEntry F)
    : entry.reread = entry ↔ ∀ x ∈ entry.floats, JsonFloat64.reread x = some x := by
  have single (x : Option F)
      : x.bind JsonFloat64.reread = x ↔ ∀ y ∈ x.toList, JsonFloat64.reread y = some y := by
    cases x <;> simp
  have factors : entry.factors.bind ScoreFactorsRecord.reread = entry.factors
      ↔ ∀ x ∈ entry.factors.elim [] ScoreFactorsRecord.floats,
        JsonFloat64.reread x = some x := by
    cases entry.factors with
    | none => simp
    | some factors => exact factors.reread_eq_some_iff
  simp only [floats, List.forall_mem_append, ← single, ← factors]
  obtain ⟨ts, event, severity⟩ := entry
  simp [reread, and_assoc]

theorem asF64_ofReread [Float64 F] (x : F)
    : JsonValue.asF64 (JsonValue.ofReread x) = JsonFloat64.reread x := by
  unfold JsonValue.ofReread
  cases JsonFloat64.reread x <;> rfl

theorem ScoreFactorsRecord.ofJson_reread [Float64 F] (factors : ScoreFactorsRecord F)
    : ofJson factors.toJson.reread = factors.reread := by
  have distinct : (factors.fields.map Prod.fst).Nodup := by
    change fieldNames.Nodup
    decide
  have field {key : String} {x : F}
      (written : Entries.get key factors.fields.reverse = some (some (.ofFloat x)))
      : requiredField (JsonValue.reread.rereadEntries (present factors.fields))
          JsonValue.asF64 key
        = JsonFloat64.reread x := by
    rw [requiredField, JsonValue.get_reread_present distinct, written]
    exact asF64_ofReread x
  rw [ofJson, toJson, JsonValue.recordFields_reread distinct, reread]
  simp only [Option.bind_eq_bind, Option.bind_some]
  rw [field (x := factors.location) rfl, field (x := factors.name) rfl,
    field (x := factors.age) rfl, field (x := factors.size) rfl,
    field (x := factors.structure_) rfl]

namespace LogEntry

variable {α : Type} {entry : LogEntry F} {key : String} {decode : JsonValue F → Option α}

def rereadFields (entry : LogEntry F) : List (String × JsonValue F) :=
  JsonValue.reread.rereadEntries (present entry.fields)

omit [JsonFloat64 F] in
theorem fields_nodup (entry : LogEntry F) : (entry.fields.map Prod.fst).Nodup := by
  change fieldNames.Nodup
  decide

theorem get_rereadFields {value : Option (JsonValue F)}
    (written : Entries.get key entry.fields.reverse = some value)
    : JsonValue.get entry.rereadFields key = value.map JsonValue.reread := by
  rw [rereadFields, JsonValue.get_reread_present entry.fields_nodup, written]
  rfl

theorem get_rereadFields_of_absent (absent : Entries.get key entry.fields.reverse = none)
    : JsonValue.get entry.rereadFields key = none := by
  rw [rereadFields, JsonValue.get_reread_present entry.fields_nodup, absent]
  rfl

theorem optional_rereadFields {value : Option α} {write : α → JsonValue F}
    (written : Entries.get key entry.fields.reverse = some (value.map write))
    (kept : ∀ a, JsonValue.orNull decode (write a).reread = some (some a))
    : optionalField entry.rereadFields decode key = some value :=
  JsonValue.optionalField_eq_self ((get_rereadFields written).trans (Option.map_map ..)) kept

theorem optional_float [Float64 F] {x : Option F}
    (written : Entries.get key entry.fields.reverse = some (x.map .ofFloat))
    : optionalField entry.rereadFields JsonValue.asF64 key
      = some (x.bind JsonFloat64.reread) :=
  JsonValue.optionalField_eq ((get_rereadFields written).trans (Option.map_map ..))
    JsonValue.orNull_asF64_ofReread

theorem required_rereadFields (value : JsonValue F)
    (written : Entries.get key entry.fields.reverse = some (some value))
    : requiredField entry.rereadFields decode key = decode value.reread :=
  congrArg (Option.bind · decode) (get_rereadFields written)

/-- The factors are read if all of them are; otherwise the whole entry is refused. -/
theorem optional_factors [Float64 F] (entry : LogEntry F)
    : optionalField entry.rereadFields ScoreFactorsRecord.ofJson "factors"
      = if entry.factorsLost then none
        else some (entry.factors.bind ScoreFactorsRecord.reread) := by
  have found : JsonValue.get entry.rereadFields "factors"
      = (entry.factors.map ScoreFactorsRecord.toJson).map JsonValue.reread :=
    get_rereadFields rfl
  rw [optionalField, found, factorsLost]
  cases entry.factors with
  | none => rfl
  | some factors =>
      change (ScoreFactorsRecord.ofJson factors.toJson.reread).map some = _
      rw [ScoreFactorsRecord.ofJson_reread]
      cases same : factors.reread <;> simp [same]

/-- An entry that was written is read up to its floats, or refused for its factors. -/
theorem ofJson_reread [Float64 F] (entry : LogEntry F)
    : ofJson entry.toJson.reread
      = if entry.factorsLost then none else some entry.reread := by
  have andThen {α β : Type} {o : Option α} {f : α → Option β} {a : α} (same : o = some a)
      : o >>= f = f a := by rw [same]; rfl
  have fields : recordFields fieldNames entry.toJson.reread = some entry.rereadFields :=
    JsonValue.recordFields_reread entry.fields_nodup _
  have ts : requiredField entry.rereadFields JsonValue.asStr "ts" = some entry.ts :=
    required_rereadFields (.string entry.ts) rfl
  have event
      : requiredField entry.rereadFields (·.asUnitVariant.bind EventType.ofName) "event"
        = some entry.event :=
    (required_rereadFields (.string entry.event.name) rfl).trans
      (EventType.ofName_name entry.event)
  have severity
      : requiredField entry.rereadFields (·.asUnitVariant.bind Severity.ofName) "severity"
        = some entry.severity :=
    (required_rereadFields (.string entry.severity.name) rfl).trans
      (Severity.ofName_name entry.severity)
  have string {key : String} {text : Option String}
      (written : Entries.get key entry.fields.reverse = some (text.map .string))
      : optionalField entry.rereadFields JsonValue.asStr key = some text :=
    optional_rereadFields written fun _ => rfl
  have u64 {key : String} {n : Option UInt64}
      (written : Entries.get key entry.fields.reverse = some (n.map .ofU64))
      : optionalField entry.rereadFields JsonValue.asU64 key = some n :=
    optional_rereadFields written fun _ => rfl
  have ok : optionalField entry.rereadFields JsonValue.asBool "ok" = some entry.ok := by
    have written : Entries.get "ok" entry.fields.reverse = some (entry.ok.map .bool) := rfl
    exact optional_rereadFields written fun _ => rfl
  rw [ofJson]
  refine (andThen fields).trans ((andThen ts).trans ((andThen event).trans ?_))
  refine (andThen severity).trans ((andThen (string rfl)).trans ((andThen (u64 rfl)).trans ?_))
  refine (andThen (optional_float rfl)).trans ?_
  have factors := optional_factors entry
  by_cases lost : entry.factorsLost
  · rw [if_pos lost] at factors ⊢
    rw [factors]
    rfl
  · rw [if_neg lost] at factors ⊢
    refine (andThen factors).trans ((andThen (string rfl)).trans ?_)
    refine (andThen (optional_float rfl)).trans ((andThen (optional_float rfl)).trans ?_)
    refine (andThen (u64 rfl)).trans ((andThen ok).trans ((andThen (string rfl)).trans ?_))
    exact (andThen (string rfl)).trans ((andThen (string rfl)).trans (andThen (string rfl)))

end LogEntry

end RoundTrips

end StorageBallast
