import StorageBallast.Core.ConfigFile
import StorageBallast.Foundations.TomlShapes

/-! All fields of a configuration: the kinds of their values, the variables that override them,
and loading a document with them.
-/

namespace StorageBallast.ConfigFile

open PoolDiscovery (stripTrailingSeparator)

variable {F : Type}

def fieldsOf (kinds : List (FieldKind × List String)) (tables : String → Shape) : Shape :=
  .table fun name =>
    match kinds.find? fun (_, names) => name ∈ names with
    | some (kind, _) => .field kind
    | none => tables name

def noTables (_ : String) : Shape := .ignored

def pressureShape : Shape :=
  fieldsOf
    [(.float,
        ["green_min_free_pct", "yellow_min_free_pct", "orange_min_free_pct", "red_min_free_pct"]),
      (.unsigned 64, ["poll_interval_ms", "behavior_hysteresis_secs"])]
    fun
      | "prediction" =>
          fieldsOf
            [(.bool, ["enabled"]), (.unsigned 64, ["min_samples"]),
              (.float,
                ["action_horizon_minutes", "warning_horizon_minutes", "min_confidence",
                  "imminent_danger_minutes", "critical_danger_minutes", "burst_min_confidence"])]
            noTables
      | _ => .ignored

def scannerShape : Shape :=
  fieldsOf
    [(.name ["v1", "v2"], ["engine"]), (.name ["auto", "reconciliation-only"], ["event_source"]),
      (.texts, ["root_paths", "excluded_paths", "protected_paths"]),
      (.bool, ["follow_symlinks", "cross_devices", "dry_run"]),
      (.unsigned 64,
        ["event_watch_budget", "min_file_age_minutes", "max_depth", "parallelism",
          "max_delete_batch", "repeat_deletion_base_cooldown_secs",
          "repeat_deletion_max_cooldown_secs", "min_rescan_interval_secs",
          "scan_time_budget_secs", "active_reference_cache_ttl_secs",
          "active_reference_min_size_bytes"])]
    fun
      | "log_truncation" =>
          fieldsOf
            [(.bool, ["enabled"]), (.texts, ["paths"]),
              (.unsigned 64, ["min_size_bytes", "min_age_minutes"]),
              (.unsigned 8, ["pressure_free_pct_ceiling"])]
            noTables
      | _ => .ignored

def ballastShape : Shape :=
  fieldsOf
    [(.unsigned 64, ["file_count", "file_size_bytes", "replenish_cooldown_minutes"]),
      (.bool, ["auto_provision"])]
    fun
      | "overrides" => .table fun _ =>
          fieldsOf [(.bool, ["enabled"]), (.unsigned 64, ["file_count", "file_size_bytes"])]
            noTables
      | _ => .ignored

def notificationsShape : Shape :=
  let level := FieldKind.name ["info", "warning", "orange", "red", "critical"]
  fieldsOf
    [(.bool, ["enabled"]), (.texts, ["channels"]),
      (.unsigned 64, ["min_notify_interval_secs", "urgent_notify_interval_secs"])]
    fun
      | "desktop" => fieldsOf [(.bool, ["enabled"]), (level, ["min_level"])] noTables
      | "webhook" =>
          fieldsOf [(.bool, ["enabled"]), (.text, ["url", "template"]), (level, ["min_level"])]
            noTables
      | "file" => fieldsOf [(.text, ["path"])] noTables
      | "journal" => fieldsOf [(level, ["min_level"])] noTables
      | _ => .ignored

def configShape : Shape :=
  .table fun
    | "pressure" => pressureShape
    | "scanner" => scannerShape
    | "scoring" =>
        fieldsOf
          [(.float,
            ["min_score", "location_weight", "name_weight", "age_weight", "size_weight",
              "structure_weight", "false_positive_loss", "false_negative_loss",
              "calibration_floor"])]
          noTables
    | "ballast" => ballastShape
    | "scheduler" =>
        fieldsOf
          [(.bool, ["enabled"]), (.unsigned 64, ["scan_budget_per_interval"]),
            (.float,
              ["exploration_quota_fraction", "io_cost_weight", "fp_risk_weight",
                "exploration_weight", "forecast_error_threshold", "ewma_alpha"]),
            (.unsigned 32,
              ["fallback_trigger_windows", "recovery_trigger_windows",
                "min_observations_for_forecast"])]
          noTables
    | "update" =>
        fieldsOf
          [(.bool, ["enabled", "background_refresh", "notices_enabled"]),
            (.unsigned 64, ["metadata_cache_ttl_seconds"]), (.text, ["metadata_cache_file"])]
          noTables
    | "telemetry" =>
        fieldsOf
          [(.float, ["ewma_base_alpha", "ewma_min_alpha", "ewma_max_alpha"]),
            (.unsigned 64,
              ["fs_cache_ttl_ms", "ewma_min_samples", "ewma_rate_history_size",
                "guardrail_window_size", "guardrail_min_observations",
                "daemon_rss_warning_bytes", "daemon_rss_hard_limit_bytes"])]
          noTables
    | "paths" =>
        fieldsOf
          [(.text, ["config_file", "ballast_dir", "state_file", "sqlite_db", "jsonl_log"])]
          noTables
    | "notifications" => notificationsShape
    | "dashboard" =>
        fieldsOf [(.name ["legacy", "new"], ["mode"]), (.bool, ["kill_switch"])] noTables
    | "policy" =>
        fieldsOf
          [(.name ["observe", "canary", "enforce", "fallback_safe"], ["initial_mode"]),
            (.bool, ["kill_switch"]),
            (.float,
              ["guard_penalty", "loss_delete_useful", "loss_keep_abandoned", "loss_review"]),
            (.unsigned 64,
              ["max_candidates_per_loop", "max_hypothetical_deletes",
                "max_canary_deletes_per_hour", "recovery_clean_windows",
                "calibration_breach_windows", "min_fallback_secs",
                "observe_min_interval_secs"])]
          noTables
    | "system_tuning" =>
        fieldsOf
          [(.bool,
              ["writeback_enabled", "writeback_auto_apply_on_install",
                "writeback_benchmark_enabled"]),
            (.float, ["writeback_target_drain_secs"]),
            (.unsigned 64,
              ["writeback_hard_ratio", "writeback_min_background_bytes",
                "writeback_max_background_bytes", "writeback_benchmark_bytes",
                "writeback_pool_warn_bytes"]),
            (.text, ["writeback_sysctl_path"])]
          noTables
    | _ => .ignored

abbrev Environment := String → Option String

def envVar (env : Environment) (name : String) : Option String :=
  (env name).filter fun raw => Texts.trim raw != ""

/-- How the text of a variable is read for a field. -/
def FieldKind.parse [DecimalFloat64 F] : FieldKind → String → Option (TomlValue F)
  | .bool, raw => (parseBool raw).map .boolean
  | .unsigned _, raw => (parseU64 raw).map fun n => .integer n.toNat
  | .float, raw => (DecimalFloat64.ofText raw).map .float
  | .text, raw => some (.string raw)
  | .name accepted, raw =>
      let word := Texts.toAsciiLowercase (Texts.trim raw)
      let word := if word = "reconciliation_only" then "reconciliation-only" else word
      if word ∈ accepted then some (.string word) else none
  | .texts, _ => none

/-- A variable with the fields that it overrides. Its text may ask for no change. -/
structure EnvOverride (F : Type) where
  variable_ : String
  paths : List (List String)
  parse : String → Option (Option (TomlValue F))

/-- Fields of a table that variables override, in the order of the program. -/
abbrev FieldGroup := List String × List String

def fieldGroups : List FieldGroup :=
  [(["pressure"],
      ["green_min_free_pct", "yellow_min_free_pct", "orange_min_free_pct", "red_min_free_pct",
        "poll_interval_ms", "behavior_hysteresis_secs"]),
    (["pressure", "prediction"],
      ["enabled", "action_horizon_minutes", "warning_horizon_minutes", "min_confidence",
        "min_samples", "imminent_danger_minutes", "critical_danger_minutes"]),
    (["scanner"],
      ["min_file_age_minutes", "engine", "event_source", "event_watch_budget", "max_depth",
        "parallelism", "follow_symlinks", "cross_devices", "dry_run", "max_delete_batch",
        "repeat_deletion_base_cooldown_secs", "repeat_deletion_max_cooldown_secs",
        "min_rescan_interval_secs", "active_reference_cache_ttl_secs",
        "active_reference_min_size_bytes"]),
    (["scoring"],
      ["min_score", "location_weight", "name_weight", "age_weight", "size_weight",
        "structure_weight", "false_positive_loss", "false_negative_loss", "calibration_floor"]),
    (["telemetry"],
      ["fs_cache_ttl_ms", "ewma_base_alpha", "ewma_min_alpha", "ewma_max_alpha",
        "ewma_min_samples", "daemon_rss_warning_bytes", "daemon_rss_hard_limit_bytes"]),
    (["update"],
      ["enabled", "metadata_cache_ttl_seconds", "metadata_cache_file", "background_refresh",
        "notices_enabled"])]

def laterFieldGroups : List FieldGroup :=
  [(["dashboard"], ["mode", "kill_switch"]), (["policy"], ["kill_switch"]),
    (["system_tuning"],
      ["writeback_enabled", "writeback_auto_apply_on_install", "writeback_target_drain_secs",
        "writeback_hard_ratio", "writeback_min_background_bytes",
        "writeback_max_background_bytes", "writeback_benchmark_enabled",
        "writeback_benchmark_bytes", "writeback_pool_warn_bytes"])]

/-- The variable is named after the table and the field. -/
def overrideOf [DecimalFloat64 F] (table : List String) (name : String) : EnvOverride F where
  variable_ := "SBH_" ++ (table.getLastD "" ++ "_" ++ name).toUpper
  paths := [table ++ [name]]
  parse raw :=
    match configShape.under (table ++ [name]) with
    | .field kind => (FieldKind.parse kind raw).map some
    | _ => some none

def overridesOf [DecimalFloat64 F] (groups : List FieldGroup) : List (EnvOverride F) :=
  groups.flatMap fun (table, names) => names.map (overrideOf table)

def optOut : EnvOverride F where
  variable_ := "SBH_UPDATE_OPT_OUT"
  paths := [["update", "enabled"], ["update", "background_refresh"], ["update", "notices_enabled"]]
  parse raw := (parseBool raw).map fun b => if b then some (.boolean false) else none

def envOverrides [DecimalFloat64 F] : List (EnvOverride F) :=
  overridesOf fieldGroups ++ optOut :: overridesOf laterFieldGroups

/-- A file by its directory and its name. -/
structure FilePlace where
  directory : PathBuf
  name : String

def sacredConfigPathFor (configFile : FilePlace) : FilePlace :=
  { configFile with name := "sacred.toml" }

/-- What a file is loaded beside, by the place of the supplemental file, and the text for a
variable that cannot be read.
-/
structure LoadHost where
  beside : FilePlace → LoadContext
  envError : String → String → String

/-- A loaded configuration: where it is from, the settings of the document as they are read and
overridden, and the fields that are checked, with their defaults.
-/
structure Loaded (F : Type) where
  configFile : FilePlace
  settings : TomlValue F
  config : Config F

section loading

variable [DecimalFloat64 F]

def applyOverride (host : LoadHost) (env : Environment) (typed : TomlValue F)
    (ov : EnvOverride F) : Except SbhError (TomlValue F) :=
  match envVar env ov.variable_ with
  | none => .ok typed
  | some raw =>
      match ov.parse raw with
      | none => .error (.configParse "env" (host.envError ov.variable_ raw))
      | some none => .ok typed
      | some (some value) => .ok (ov.paths.foldl (fun typed path => value.put typed path) typed)

def applyEnvOverrides (host : LoadHost) (env : Environment) (typed : TomlValue F)
    : Except SbhError (TomlValue F) :=
  envOverrides.foldlM (applyOverride host env) typed

/-- Mount points of overrides lose their trailing separator; the last of those that are then
the same stays.
-/
def normalizeMounts (typed : TomlValue F) : TomlValue F :=
  match typed.valueAt ["ballast", "overrides"] with
  | some (.table mounts) =>
      TomlValue.put
        (.table (mounts.foldl
          (fun table (mount, ovr) => Entries.insert (stripTrailingSeparator mount) ovr table) []))
        typed ["ballast", "overrides"]
  | _ => typed

/-- `Config::load` with an explicit path, after the document was parsed. -/
def Config.loadFrom [Float64 F] (host : LoadHost) (env : Environment) (file : FilePlace)
    (document : TomlValue F) : Except SbhError (Loaded F) := do
  let context := host.beside (sacredConfigPathFor file)
  let tomlError name := SbhError.configParse "toml" (context.tomlError name)
  let typed ← (configShape.read "" document).mapError tomlError
  match ← applyEnvOverrides host env typed with
  | .table root => do
      let parsed ← (Config.fromTable context root).mapError tomlError
      let sacred ← context.sacred
      let config := (parsed.mergeSacredConfig sacred).normalizePaths
      config.validate context.validateGlobPattern
      pure ⟨file, normalizeMounts (.table root), config⟩
  | _ => .error (tomlError "")

def loadedPath : List String → List String
  | "ballast" :: "overrides" :: mount :: rest =>
      "ballast" :: "overrides" :: stripTrailingSeparator mount :: rest
  | path => path

/-- What is read back of a field: the file's own path is not taken from the document, and what
is no field is not kept.
-/
def Loaded.get (self : Loaded F) (path : List String) : Option (TomlValue F) :=
  if path = ["paths", "config_file"] then
    some (.string (self.configFile.directory.join self.configFile.name).text)
  else if (configShape.under path).isField then self.settings.valueAt (loadedPath path)
  else none

def Overrides (env : Environment) (path : List String) : Prop :=
  ∃ ov ∈ (envOverrides : List (EnvOverride F)), path ∈ ov.paths ∧ (envVar env ov.variable_).isSome

/-- The mount point of an override is no other one's but for trailing separators. -/
def MountAlone (document : TomlValue F) (path : List String) : Prop :=
  ∀ mount rest entries, path = "ballast" :: "overrides" :: mount :: rest
    → document.valueAt ["ballast", "overrides"] = some (.table entries)
    → ∀ entry ∈ entries, ∀ other ∈ entries,
      stripTrailingSeparator entry.1 = stripTrailingSeparator mount
      → stripTrailingSeparator other.1 = stripTrailingSeparator mount → entry = other

variable {path : List String}

theorem overridden_fields {ov : EnvOverride F} (member : ov ∈ envOverrides)
    (overridden : path ∈ ov.paths)
    : (∃ kind, configShape.under path = .field kind) ∧ path.head? ≠ some "ballast" := by
  have checked : ((fieldGroups ++ laterFieldGroups).all fun (table, names) =>
      names.all fun name => (configShape.under (table ++ [name])).isField
        && (table ++ [name]).head? != some "ballast") = true := by
    decide +kernel
  have ofGroups {groups : List FieldGroup} (within : groups ⊆ fieldGroups ++ laterFieldGroups)
      (member : ov ∈ overridesOf groups)
      : (∃ kind, configShape.under path = .field kind) ∧ path.head? ≠ some "ballast" := by
    obtain ⟨⟨table, names⟩, group, member⟩ := List.mem_flatMap.mp member
    obtain ⟨name, named, rfl⟩ := List.mem_map.mp member
    obtain rfl : path = table ++ [name] := List.mem_singleton.mp overridden
    have ok := List.all_eq_true.mp (List.all_eq_true.mp checked _ (within group)) name named
    rw [Bool.and_eq_true, bne_iff_ne] at ok
    exact ⟨Shape.isField_iff.mp ok.1, ok.2⟩
  rcases List.mem_append.mp member with member | member
  · exact ofGroups (List.subset_append_left _ _) member
  · rcases List.mem_cons.mp member with rfl | member
    · simp only [optOut, List.mem_cons, List.not_mem_nil, or_false] at overridden
      rcases overridden with rfl | rfl | rfl <;> exact ⟨⟨_, rfl⟩, by decide⟩
    · exact ofGroups (List.subset_append_right _ _) member

omit [DecimalFloat64 F] in
/-- Overrides change nothing at a path apart from the fields that they are for. -/
theorem valueAt_applyOverrides {host : LoadHost} {env : Environment}
    {overrides : List (EnvOverride F)} {typed new : TomlValue F}
    (applied : overrides.foldlM (applyOverride host env) typed = .ok new)
    (apart : ∀ ov ∈ overrides, (envVar env ov.variable_).isSome → ∀ field ∈ ov.paths,
      TomlValue.Apart field path)
    : new.valueAt path = typed.valueAt path := by
  induction overrides generalizing typed with
  | nil =>
      cases applied
      rfl
  | cons ov rest ih =>
      rw [List.foldlM_cons] at applied
      obtain ⟨middle, step, applied⟩ := Checks.bind_eq_ok.mp applied
      rw [ih applied fun other member => apart other (List.mem_cons_of_mem _ member)]
      have puts {value : TomlValue F} {paths : List (List String)} (typed : TomlValue F)
          (apart : ∀ field ∈ paths, TomlValue.Apart field path)
          : (paths.foldl (fun typed field => value.put typed field) typed).valueAt path
            = typed.valueAt path := by
        induction paths generalizing typed with
        | nil => rfl
        | cons field rest ih =>
            rw [List.foldl_cons, ih _ fun other member => apart other (.tail _ member),
              TomlValue.valueAt_put_of_apart (apart field (.head _))]
      unfold applyOverride at step
      split at step
      · cases step
        rfl
      · next raw set =>
          split at step
          · cases step
          · cases step
            rfl
          · cases step
            exact puts typed (apart ov (.head _) (by rw [set]; rfl))

/-- Collecting under other names finds the only entry that gets a name. -/
theorem get_foldl_insert {υ : Type} {rename : String → String} {name : String} {value : υ}
    {entries : Entries υ} (start : Entries υ)
    (only : ∀ entry ∈ entries, rename entry.1 = name → entry.2 = value)
    (there : start.get name = some value ∨ ∃ entry ∈ entries, rename entry.1 = name)
    : Entries.get name (entries.foldl (fun table (key, v) => table.insert (rename key) v) start)
      = some value := by
  induction entries generalizing start with
  | nil => simpa using there
  | cons entry rest ih =>
      obtain ⟨key, v⟩ := entry
      refine ih _ (fun other member => only other (.tail _ member)) ?_
      by_cases same : rename key = name
      · left
        rw [← only _ (.head _) same, ← same]
        exact Entries.get_insert_self start
      · rcases there with found | ⟨other, member, named⟩
        · left
          rw [Entries.get_insert_of_ne _ (Ne.symm same), found]
        · rcases List.mem_cons.mp member with rfl | member
          · exact absurd named same
          · exact .inr ⟨other, member, named⟩

theorem loadedPath_eq_self (fixed : ∀ mount rest, path ≠ "ballast" :: "overrides" :: mount :: rest)
    : loadedPath path = path := by
  unfold loadedPath
  split
  · exact absurd rfl (fixed _ _)
  · rfl

omit [DecimalFloat64 F] in
theorem valueAt_normalizeMounts {typed value : TomlValue F}
    {kind : FieldKind} (field : configShape.under path = .field kind)
    (alone : MountAlone typed path) (found : typed.valueAt path = some value)
    : (normalizeMounts typed).valueAt (loadedPath path) = some value := by
  by_cases mounted : ∃ mount rest, path = "ballast" :: "overrides" :: mount :: rest
  · obtain ⟨mount, rest, rfl⟩ := mounted
    have split := TomlValue.valueAt_append typed ["ballast", "overrides"] (mount :: rest)
    obtain ⟨mounts, atMounts, found⟩ := Option.bind_eq_some_iff.mp (split.symm.trans found)
    cases mounts with
    | string _ | integer _ | float _ | boolean _ | datetime _ | array _ => cases found
    | table entries =>
        obtain ⟨ovr, there, found⟩ := Option.bind_eq_some_iff.mp found
        have member := Entries.mem_of_get there
        have collected := @get_foldl_insert _ stripTrailingSeparator _ ovr entries []
          (fun entry listed same => congrArg Prod.snd
            (alone mount rest entries rfl atMounts entry listed (mount, ovr) member same rfl))
          (.inr ⟨_, member, rfl⟩)
        have put := @TomlValue.valueAt_put_self F (.table (entries.foldl (fun table (key, v) =>
          Entries.insert (stripTrailingSeparator key) v table) [])) _ _ _ atMounts (by decide)
        rw [normalizeMounts, atMounts]
        change TomlValue.valueAt _
          (["ballast", "overrides"] ++ stripTrailingSeparator mount :: rest) = _
        rw [TomlValue.valueAt_append, put]
        simp [TomlValue.valueAt, collected, found]
  · push Not at mounted
    have apart : TomlValue.Apart ["ballast", "overrides"] path := by
      constructor
      · rintro ⟨rest, rfl⟩
        cases rest with
        | nil => cases field
        | cons mount rest => exact mounted mount rest rfl
      · intro before
        have upper : path = [] ∨ path = ["ballast"] ∨ path = ["ballast", "overrides"] := by
          simpa [List.inits] using (List.mem_inits path _).mpr before
        rcases upper with rfl | rfl | rfl <;> cases field
    rw [loadedPath_eq_self mounted, ← found]
    unfold normalizeMounts
    split
    · exact TomlValue.valueAt_put_of_apart apart
    · rfl

omit [DecimalFloat64 F] in
theorem MountAlone.read [Float64 F] {document typed value : TomlValue F} {mount : String}
    {rest : List String} {entries : TomlTable F}
    (alone : MountAlone document ("ballast" :: "overrides" :: mount :: rest))
    (read : configShape.read "" document = .ok typed)
    (atMounts : typed.valueAt ["ballast", "overrides"] = some (.table entries))
    (found : document.valueAt ("ballast" :: "overrides" :: mount :: rest) = some value)
    : ∀ entry ∈ entries, ∀ other ∈ entries,
      stripTrailingSeparator entry.1 = stripTrailingSeparator mount
      → stripTrailingSeparator other.1 = stripTrailingSeparator mount → entry = other := by
  have split := TomlValue.valueAt_append document ["ballast", "overrides"] (mount :: rest)
  obtain ⟨mounts, there, found⟩ := Option.bind_eq_some_iff.mp (split.symm.trans found)
  obtain ⟨name, table, readMounts, typedAt⟩ :=
    Shape.read_valueAt read (by exact Shape.noConfusion) there
  cases typedAt.symm.trans atMounts
  cases mounts with
  | string _ | integer _ | float _ | boolean _ | datetime _ | array _ => cases found
  | table before =>
      obtain ⟨_, reads, made⟩ := Checks.bind_eq_ok.mp readMounts
      cases made
      rintro ⟨key, v⟩ listed ⟨key', v'⟩ listed' one two
      obtain ⟨old, known, readOld⟩ := Shape.exists_of_readEntries reads listed
      obtain ⟨old', known', readOld'⟩ := Shape.exists_of_readEntries reads listed'
      cases alone mount rest before rfl there _ known _ known' one two
      cases readOld.symm.trans readOld'
      rfl

/-- Whether a document is accepted depends on the place of the supplemental file only. -/
theorem Config.loadFrom_elsewhere [Float64 F] {host : LoadHost} {env : Environment}
    {file other : FilePlace} {document : TomlValue F} {loaded : Loaded F}
    (loads : Config.loadFrom host env file document = .ok loaded)
    (beside : sacredConfigPathFor other = sacredConfigPathFor file)
    : Config.loadFrom host env other document = .ok { loaded with configFile := other } := by
  unfold Config.loadFrom at loads ⊢
  rw [beside]
  obtain ⟨typed, read, loads⟩ := Checks.bind_eq_ok.mp loads
  obtain ⟨overridden, applied, loads⟩ := Checks.bind_eq_ok.mp loads
  refine Checks.bind_eq_ok.mpr ⟨typed, read, Checks.bind_eq_ok.mpr ⟨overridden, applied, ?_⟩⟩
  cases overridden with
  | string _ | integer _ | float _ | boolean _ | datetime _ | array _ => cases loads
  | table root =>
      obtain ⟨parsed, known, loads⟩ := Checks.bind_eq_ok.mp loads
      obtain ⟨sacred, there, loads⟩ := Checks.bind_eq_ok.mp loads
      obtain ⟨u, valid, loads⟩ := Checks.bind_eq_ok.mp loads
      cases loads
      exact Checks.bind_eq_ok.mpr ⟨parsed, known, Checks.bind_eq_ok.mpr ⟨sacred, there,
        Checks.bind_eq_ok.mpr ⟨u, valid, rfl⟩⟩⟩

/-- A field that a document has is read back, unless it is the file's own path, a variable
overrides it or its mount point is spelled twice.
-/
theorem Config.loadFrom_get [Float64 F] {host : LoadHost} {env : Environment} {file : FilePlace}
    {document value : TomlValue F} {loaded : Loaded F} {kind : FieldKind}
    (loads : Config.loadFrom host env file document = .ok loaded)
    (field : configShape.under path = .field kind) (notPlace : path ≠ ["paths", "config_file"])
    (free : ¬ Overrides (F := F) env path) (alone : MountAlone document path)
    (found : document.valueAt path = some value)
    : ∃ v, kind.decode value = some v ∧ loaded.get path = some v := by
  obtain ⟨typed, read, loads⟩ := Checks.bind_eq_ok.mp loads
  obtain ⟨overridden, applied, loads⟩ := Checks.bind_eq_ok.mp loads
  rw [Checks.mapError_eq_ok] at read
  obtain ⟨name, v, readValue, typedAt⟩ :=
    Shape.read_valueAt read (by rw [field]; exact Shape.noConfusion) found
  rw [field] at readValue
  refine ⟨v, Shape.read_field readValue, ?_⟩
  have kept : overridden.valueAt path = some v := by
    rw [← typedAt]
    refine valueAt_applyOverrides applied fun ov member set other overridden => ?_
    obtain ⟨_, isField⟩ := (overridden_fields member overridden).1
    exact Shape.apart_of_fields isField field
      fun same => free ⟨ov, member, same ▸ overridden, set⟩
  have aloneTyped : MountAlone overridden path := by
    rintro mount rest entries rfl atMounts
    refine alone.read read ?_ found
    rw [← atMounts]
    refine (valueAt_applyOverrides applied fun ov member _ other overridden => ?_).symm
    obtain ⟨⟨kind, isField⟩, elsewhere⟩ := overridden_fields member overridden
    cases other with
    | nil => cases isField
    | cons part rest =>
        have ne : part ≠ "ballast" := fun same => elsewhere (congrArg some same)
        exact ⟨fun before => ne (List.cons_prefix_cons.mp before).1,
          fun before => ne (List.cons_prefix_cons.mp before).1.symm⟩
  cases overridden with
  | string _ | integer _ | float _ | boolean _ | datetime _ | array _ => cases loads
  | table root =>
      obtain ⟨_, _, loads⟩ := Checks.bind_eq_ok.mp loads
      obtain ⟨_, _, loads⟩ := Checks.bind_eq_ok.mp loads
      obtain ⟨_, _, loads⟩ := Checks.bind_eq_ok.mp loads
      cases loads
      rw [Loaded.get, if_neg notPlace, if_pos (by rw [field]; rfl)]
      exact valueAt_normalizeMounts field aloneTyped kept

end loading

end StorageBallast.ConfigFile
