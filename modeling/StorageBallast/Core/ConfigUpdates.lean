import StorageBallast.Core.ConfigFile

/-! Changing single keys of a configuration document: the configuration that is read from it
changes in these fields only, and the checks see no more of the change than the values.
-/

namespace StorageBallast.ConfigFile

open scoped Float64
open TomlTable

variable {F : Type}

/-- The keys that the tuning command writes. -/
inductive TunedKey where
  | fileCount
  | greenMinFreePct
  | yellowMinFreePct
  | minScore
  | minFileAgeMinutes
deriving DecidableEq, Repr

namespace TunedKey

def section_ : TunedKey → String
  | fileCount => "ballast"
  | greenMinFreePct | yellowMinFreePct => "pressure"
  | minScore => "scoring"
  | minFileAgeMinutes => "scanner"

def name : TunedKey → String
  | fileCount => "file_count"
  | greenMinFreePct => "green_min_free_pct"
  | yellowMinFreePct => "yellow_min_free_pct"
  | minScore => "min_score"
  | minFileAgeMinutes => "min_file_age_minutes"

def text (key : TunedKey) : String := key.section_ ++ "." ++ key.name

theorem dottedParts_text (key : TunedKey) : dottedParts key.text = [key.section_, key.name] := by
  cases key <;> decide

theorem text_injective {key other : TunedKey} (same : key.text = other.text) : key = other := by
  revert same
  cases key <;> cases other <;> decide

def Fits : TunedKey → TomlValue F → Prop
  | fileCount, .integer n | minFileAgeMinutes, .integer n => 0 ≤ n ∧ n < 2 ^ 64
  | greenMinFreePct, .float _ | yellowMinFreePct, .float _ | minScore, .float _ => True
  | _, _ => False

end TunedKey

structure TunedValues (F : Type) where
  fileCount : Nat
  greenMinFreePct : F
  yellowMinFreePct : F
  minScore : F
  minFileAgeMinutes : Nat

namespace TunedValues

def get (self : TunedValues F) : TunedKey → TomlValue F
  | .fileCount => .integer self.fileCount
  | .greenMinFreePct => .float self.greenMinFreePct
  | .yellowMinFreePct => .float self.yellowMinFreePct
  | .minScore => .float self.minScore
  | .minFileAgeMinutes => .integer self.minFileAgeMinutes

def put (self : TunedValues F) : TunedKey → TomlValue F → TunedValues F
  | .fileCount, .integer n => { self with fileCount := n.toNat }
  | .greenMinFreePct, .float x => { self with greenMinFreePct := x }
  | .yellowMinFreePct, .float x => { self with yellowMinFreePct := x }
  | .minScore, .float x => { self with minScore := x }
  | .minFileAgeMinutes, .integer n => { self with minFileAgeMinutes := n.toNat }
  | _, _ => self

variable {key other : TunedKey} {value : TomlValue F} (self : TunedValues F)

theorem get_put_self (fits : key.Fits value) : (self.put key value).get key = value := by
  cases key <;> cases value <;> simp_all [TunedKey.Fits, put, get]

theorem get_put_of_ne (ne : other ≠ key) : (self.put key value).get other = self.get other := by
  cases key <;> cases value <;> cases other <;> first | rfl | exact absurd rfl ne

end TunedValues

namespace Config

def tunedValues (self : Config F) : TunedValues F where
  fileCount := self.ballast.fileCount
  greenMinFreePct := self.pressure.greenMinFreePct
  yellowMinFreePct := self.pressure.yellowMinFreePct
  minScore := self.scoring.minScore
  minFileAgeMinutes := self.scanner.minFileAgeMinutes

def withTuned (self : Config F) (values : TunedValues F) : Config F :=
  { self with
    ballast := { self.ballast with fileCount := values.fileCount }
    pressure :=
      { self.pressure with
        greenMinFreePct := values.greenMinFreePct
        yellowMinFreePct := values.yellowMinFreePct }
    scoring := { self.scoring with minScore := values.minScore }
    scanner := { self.scanner with minFileAgeMinutes := values.minFileAgeMinutes } }

@[simp] theorem withTuned_withTuned (self : Config F) (first second : TunedValues F)
    : (self.withTuned first).withTuned second = self.withTuned second := rfl

end Config

section reading

open TomlValue

variable [Float64 F] {table root : TomlTable F}

theorem PressureConfig.fromTable_eq_ok {pressure : PressureConfig F}
    : PressureConfig.fromTable table = .ok pressure
      ↔ field "pressure" table "green_min_free_pct" asF64 20.0 = .ok pressure.greenMinFreePct
        ∧ field "pressure" table "yellow_min_free_pct" asF64 14.0 = .ok pressure.yellowMinFreePct
        ∧ field "pressure" table "orange_min_free_pct" asF64 10.0 = .ok pressure.orangeMinFreePct
        ∧ field "pressure" table "red_min_free_pct" asF64 6.0 = .ok pressure.redMinFreePct
        ∧ field "pressure" table "poll_interval_ms" (asUnsigned 64) 5000
          = .ok pressure.pollIntervalMs
        ∧ (sectionTable table "prediction" >>= PredictionConfig.fromTable)
          = .ok pressure.prediction := by
  simp only [PressureConfig.fromTable, Checks.bind_eq_ok]
  constructor
  · rintro ⟨_, h1, _, h2, _, h3, _, h4, _, h5, _, h6, ⟨⟩⟩
    exact ⟨h1, h2, h3, h4, h5, h6⟩
  · rintro ⟨h1, h2, h3, h4, h5, h6⟩
    exact ⟨_, h1, _, h2, _, h3, _, h4, _, h5, _, h6, rfl⟩

omit [Float64 F] in
theorem ScannerConfig.fromTable_eq_ok {processors : Option Nat} {scanner : ScannerConfig}
    : ScannerConfig.fromTable processors table = .ok scanner
      ↔ field "scanner" table "protected_paths" asStrings [] = .ok scanner.protectedPaths
        ∧ field "scanner" table "min_file_age_minutes" (asUnsigned 64) 5
          = .ok scanner.minFileAgeMinutes
        ∧ field "scanner" table "max_depth" (asUnsigned 64) 10 = .ok scanner.maxDepth
        ∧ field "scanner" table "parallelism" (asUnsigned 64) (defaultParallelism processors)
          = .ok scanner.parallelism
        ∧ field "scanner" table "max_delete_batch" (asUnsigned 64) 20
          = .ok scanner.maxDeleteBatch
        ∧ field "scanner" table "repeat_deletion_base_cooldown_secs" (asUnsigned 64) 300
          = .ok scanner.repeatDeletionBaseCooldownSecs
        ∧ field "scanner" table "repeat_deletion_max_cooldown_secs" (asUnsigned 64) 3600
          = .ok scanner.repeatDeletionMaxCooldownSecs := by
  simp only [ScannerConfig.fromTable, Checks.bind_eq_ok]
  constructor
  · rintro ⟨_, h1, _, h2, _, h3, _, h4, _, h5, _, h6, _, h7, ⟨⟩⟩
    exact ⟨h1, h2, h3, h4, h5, h6, h7⟩
  · rintro ⟨h1, h2, h3, h4, h5, h6, h7⟩
    exact ⟨_, h1, _, h2, _, h3, _, h4, _, h5, _, h6, _, h7, rfl⟩

theorem scoringFromTable_eq_ok {scoring : ScoringConfig F}
    : scoringFromTable table = .ok scoring
      ↔ field "scoring" table "min_score" asF64 0.35 = .ok scoring.minScore
        ∧ field "scoring" table "location_weight" asF64 0.25 = .ok scoring.locationWeight
        ∧ field "scoring" table "name_weight" asF64 0.25 = .ok scoring.nameWeight
        ∧ field "scoring" table "age_weight" asF64 0.20 = .ok scoring.ageWeight
        ∧ field "scoring" table "size_weight" asF64 0.15 = .ok scoring.sizeWeight
        ∧ field "scoring" table "structure_weight" asF64 0.15 = .ok scoring.structureWeight
        ∧ field "scoring" table "false_positive_loss" asF64 50.0 = .ok scoring.falsePositiveLoss
        ∧ field "scoring" table "false_negative_loss" asF64 30.0 = .ok scoring.falseNegativeLoss
        ∧ field "scoring" table "calibration_floor" asF64 0.40 = .ok scoring.calibrationFloor
    := by
  simp only [scoringFromTable, Checks.bind_eq_ok]
  constructor
  · rintro ⟨_, h1, _, h2, _, h3, _, h4, _, h5, _, h6, _, h7, _, h8, _, h9, ⟨⟩⟩
    exact ⟨h1, h2, h3, h4, h5, h6, h7, h8, h9⟩
  · rintro ⟨h1, h2, h3, h4, h5, h6, h7, h8, h9⟩
    exact ⟨_, h1, _, h2, _, h3, _, h4, _, h5, _, h6, _, h7, _, h8, _, h9, rfl⟩

omit [Float64 F] in
theorem BallastConfig.fromTable_eq_ok {ballast : BallastConfig}
    : BallastConfig.fromTable table = .ok ballast
      ↔ field "ballast" table "file_count" (asUnsigned 64) 10 = .ok ballast.fileCount
        ∧ field "ballast" table "file_size_bytes" (asUnsigned 64) 1073741824
          = .ok ballast.fileSizeBytes
        ∧ (sectionTable table "overrides" >>= overridesFromTable) = .ok ballast.overrides := by
  simp only [BallastConfig.fromTable, Checks.bind_eq_ok]
  constructor
  · rintro ⟨_, h1, _, h2, _, h3, ⟨⟩⟩
    exact ⟨h1, h2, h3⟩
  · rintro ⟨h1, h2, h3⟩
    exact ⟨_, h1, _, h2, _, h3, rfl⟩

theorem Config.fromTable_eq_ok {context : LoadContext} {config : Config F}
    : Config.fromTable context root = .ok config
      ↔ (sectionTable root "pressure" >>= PressureConfig.fromTable) = .ok config.pressure
        ∧ (sectionTable root "scanner"
            >>= ScannerConfig.fromTable context.availableParallelism) = .ok config.scanner
        ∧ (sectionTable root "scoring" >>= scoringFromTable) = .ok config.scoring
        ∧ (sectionTable root "ballast" >>= BallastConfig.fromTable) = .ok config.ballast
        ∧ (sectionTable root "scheduler" >>= schedulerFromTable) = .ok config.scheduler
        ∧ (sectionTable root "update" >>= UpdateConfig.fromTable) = .ok config.update
        ∧ (sectionTable root "telemetry" >>= TelemetryConfig.fromTable) = .ok config.telemetry
        ∧ (sectionTable root "system_tuning" >>= SystemTuningConfig.fromTable)
          = .ok config.systemTuning := by
  constructor
  · intro read
    obtain ⟨_, h1, read⟩ := Checks.bind_eq_ok.mp read
    obtain ⟨_, h2, read⟩ := Checks.bind_eq_ok.mp read
    obtain ⟨_, h3, read⟩ := Checks.bind_eq_ok.mp read
    obtain ⟨_, h4, read⟩ := Checks.bind_eq_ok.mp read
    obtain ⟨_, h5, read⟩ := Checks.bind_eq_ok.mp read
    obtain ⟨_, h6, read⟩ := Checks.bind_eq_ok.mp read
    obtain ⟨_, h7, read⟩ := Checks.bind_eq_ok.mp read
    obtain ⟨_, h8, read⟩ := Checks.bind_eq_ok.mp read
    cases read
    exact ⟨h1, h2, h3, h4, h5, h6, h7, h8⟩
  · rintro ⟨h1, h2, h3, h4, h5, h6, h7, h8⟩
    simp only [Config.fromTable, h1, h2, h3, h4, h5, h6, h7, h8]
    rfl

theorem TunedKey.fromTable_setAt {context : LoadContext} {config : Config F} {key : TunedKey}
    {value : TomlValue F} (parsed : Config.fromTable context root = .ok config)
    (fits : key.Fits value)
    : ∃ changed, TomlValue.setAt value (.table root) [key.section_, key.name]
          = .ok (.table changed)
        ∧ Config.fromTable context changed
          = .ok (config.withTuned (config.tunedValues.put key value)) := by
  rw [Config.fromTable_eq_ok] at parsed
  obtain ⟨pressure, scanner, scoring, ballast, rest⟩ := parsed
  cases key with
  | fileCount =>
      cases value <;> try exact fits.elim
      rename_i n
      obtain ⟨entries, found, read⟩ := Checks.bind_eq_ok.mp ballast
      have decodes : asUnsigned 64 (.integer n : TomlValue F) = some n.toNat := if_pos fits
      rw [BallastConfig.fromTable_eq_ok] at read
      have changed : BallastConfig.fromTable
          (Entries.insert "file_count" (.integer n : TomlValue F) entries)
          = .ok { config.ballast with fileCount := n.toNat } := by
        simp [BallastConfig.fromTable_eq_ok, field_insert_self decodes, field_insert_of_ne,
          sectionTable_insert_of_ne, read]
      refine ⟨_, TomlValue.setAt_section found, ?_⟩
      simp [Config.fromTable_eq_ok, TunedKey.section_, TunedKey.name,
        sectionTable_insert_self, sectionTable_insert_of_ne, pressure, scanner, scoring, rest]
      exact ⟨rfl, rfl, rfl, changed, rfl, rfl, rfl, rfl⟩
  | greenMinFreePct =>
      cases value <;> try exact fits.elim
      rename_i x
      obtain ⟨entries, found, read⟩ := Checks.bind_eq_ok.mp pressure
      rw [PressureConfig.fromTable_eq_ok] at read
      have changed : PressureConfig.fromTable
          (Entries.insert "green_min_free_pct" (.float x) entries)
          = .ok { config.pressure with greenMinFreePct := x } := by
        simp [PressureConfig.fromTable_eq_ok, field_insert_self (rfl : asF64 (.float x) = some x),
          field_insert_of_ne, sectionTable_insert_of_ne, read]
      refine ⟨_, TomlValue.setAt_section found, ?_⟩
      simp [Config.fromTable_eq_ok, TunedKey.section_, TunedKey.name,
        sectionTable_insert_self, sectionTable_insert_of_ne, scanner, scoring, ballast, rest]
      exact ⟨changed, rfl, rfl, rfl, rfl, rfl, rfl, rfl⟩
  | yellowMinFreePct =>
      cases value <;> try exact fits.elim
      rename_i x
      obtain ⟨entries, found, read⟩ := Checks.bind_eq_ok.mp pressure
      rw [PressureConfig.fromTable_eq_ok] at read
      have changed : PressureConfig.fromTable
          (Entries.insert "yellow_min_free_pct" (.float x) entries)
          = .ok { config.pressure with yellowMinFreePct := x } := by
        simp [PressureConfig.fromTable_eq_ok, field_insert_self (rfl : asF64 (.float x) = some x),
          field_insert_of_ne, sectionTable_insert_of_ne, read]
      refine ⟨_, TomlValue.setAt_section found, ?_⟩
      simp [Config.fromTable_eq_ok, TunedKey.section_, TunedKey.name,
        sectionTable_insert_self, sectionTable_insert_of_ne, scanner, scoring, ballast, rest]
      exact ⟨changed, rfl, rfl, rfl, rfl, rfl, rfl, rfl⟩
  | minScore =>
      cases value <;> try exact fits.elim
      rename_i x
      obtain ⟨entries, found, read⟩ := Checks.bind_eq_ok.mp scoring
      rw [scoringFromTable_eq_ok] at read
      have changed : scoringFromTable (Entries.insert "min_score" (.float x) entries)
          = .ok { config.scoring with minScore := x } := by
        simp [scoringFromTable_eq_ok, field_insert_self (rfl : asF64 (.float x) = some x),
          field_insert_of_ne, read]
      refine ⟨_, TomlValue.setAt_section found, ?_⟩
      simp [Config.fromTable_eq_ok, TunedKey.section_, TunedKey.name,
        sectionTable_insert_self, sectionTable_insert_of_ne, pressure, scanner, ballast, rest]
      exact ⟨rfl, rfl, changed, rfl, rfl, rfl, rfl, rfl⟩
  | minFileAgeMinutes =>
      cases value <;> try exact fits.elim
      rename_i n
      obtain ⟨entries, found, read⟩ := Checks.bind_eq_ok.mp scanner
      have decodes : asUnsigned 64 (.integer n : TomlValue F) = some n.toNat := if_pos fits
      rw [ScannerConfig.fromTable_eq_ok] at read
      have changed : ScannerConfig.fromTable context.availableParallelism
          (Entries.insert "min_file_age_minutes" (.integer n : TomlValue F) entries)
          = .ok { config.scanner with minFileAgeMinutes := n.toNat } := by
        simp [ScannerConfig.fromTable_eq_ok, field_insert_self decodes, field_insert_of_ne, read]
      refine ⟨_, TomlValue.setAt_section found, ?_⟩
      simp [Config.fromTable_eq_ok, TunedKey.section_, TunedKey.name,
        sectionTable_insert_self, sectionTable_insert_of_ne, pressure, scoring, ballast, rest]
      exact ⟨rfl, changed, rfl, rfl, rfl, rfl, rfl, rfl⟩

end reading

section checks

variable [Float64 F] [DecimalFloat64 F]

theorem refuse_eq_ok {condition : Bool} {details : String} {u : Unit}
    : refuse condition details = .ok u ↔ condition = false :=
  Checks.refuseWhen_eq_ok

theorem PressureConfig.validate_eq_ok {pressure : PressureConfig F} {u : Unit}
    : pressure.validate = .ok u
      ↔ (withinRange 0.0 100.0 pressure.greenMinFreePct = true
          ∧ withinRange 0.0 100.0 pressure.yellowMinFreePct = true
          ∧ withinRange 0.0 100.0 pressure.orangeMinFreePct = true
          ∧ withinRange 0.0 100.0 pressure.redMinFreePct = true)
        ∧ pressure.descending = true
        ∧ 100 ≤ pressure.pollIntervalMs
        ∧ pressure.prediction.validate = .ok u := by
  simp [PressureConfig.validate, PressureConfig.validateRanges, Checks.bind_eq_ok,
    refuse_eq_ok, and_assoc, pure, Except.pure]

theorem validateScores_eq_ok {scoring : ScoringConfig F} {u : Unit}
    : validateScores scoring = .ok u
      ↔ withinRange 0.0 1.0 scoring.minScore = true
        ∧ withinRange 0.0 1.0 scoring.calibrationFloor = true
        ∧ Float64.gt scoring.minScore scoring.calibrationFloor = false := by
  simp [validateScores, validateProb, Checks.bind_eq_ok, refuse_eq_ok]

theorem BallastConfig.validate_eq_ok {ballast : BallastConfig} {u : Unit}
    : ballast.validate = .ok u
      ↔ (ballast.fileCount ≠ 0 ∧ ballast.fileSizeBytes ≠ 0)
        ∧ ballast.fileCount ≤ maxBallastFileCount
        ∧ minBallastFileSize ≤ ballast.fileSizeBytes
        ∧ (ballast.overrides.forM fun (mount, ovr) => validateOverride mount ovr) = .ok u := by
  simp [BallastConfig.validate, Checks.bind_eq_ok, refuse_eq_ok]

theorem Config.validate_eq_ok {compile : String → Except SbhError Unit} {config : Config F}
    {u : Unit}
    : config.validate compile = .ok u
      ↔ config.pressure.validate = .ok ()
        ∧ config.scanner.validate = .ok ()
        ∧ validateScores config.scoring = .ok ()
        ∧ validateScoringWeights config.scoring = .ok ()
        ∧ validateScheduler config.scheduler = .ok ()
        ∧ validateWeightSum config.scoring = .ok ()
        ∧ config.telemetry.validate = .ok ()
        ∧ config.ballast.validate = .ok ()
        ∧ config.update.validate = .ok ()
        ∧ config.scanner.protectedPaths.forM compile = .ok ()
        ∧ config.systemTuning.validate = .ok u := by
  simp only [Config.validate, Checks.bind_eq_ok]
  constructor
  · rintro ⟨_, h1, _, h2, _, h3, _, h4, _, h5, _, h6, _, h7, _, h8, _, h9, _, h10, h11⟩
    exact ⟨h1, h2, h3, h4, h5, h6, h7, h8, h9, h10, h11⟩
  · rintro ⟨h1, h2, h3, h4, h5, h6, h7, h8, h9, h10, h11⟩
    exact ⟨_, h1, _, h2, _, h3, _, h4, _, h5, _, h6, _, h7, _, h8, _, h9, _, h10, h11⟩

structure TunedValues.Acceptable (values : TunedValues F) (config : Config F) : Prop where
  green : withinRange 0.0 100.0 values.greenMinFreePct = true
  yellow : withinRange 0.0 100.0 values.yellowMinFreePct = true
  green_above : Float64.gt values.greenMinFreePct values.yellowMinFreePct = true
  yellow_above : Float64.gt values.yellowMinFreePct config.pressure.orangeMinFreePct = true
  score : withinRange 0.0 1.0 values.minScore = true
  below_floor : Float64.gt values.minScore config.scoring.calibrationFloor = false
  count_pos : values.fileCount ≠ 0
  count_le : values.fileCount ≤ maxBallastFileCount

theorem Config.validate_withTuned {compile : String → Except SbhError Unit} {config : Config F}
    {values : TunedValues F} (valid : config.validate compile = .ok ())
    : (config.withTuned values).validate compile = .ok () ↔ values.Acceptable config := by
  obtain ⟨pressure, scanner, scores, weights, scheduler, sum, telemetry, ballast, update,
    patterns, tuning⟩ := Config.validate_eq_ok.mp valid
  obtain ⟨⟨_, _, orange, red⟩, descending, poll, prediction⟩ :=
    PressureConfig.validate_eq_ok.mp pressure
  have orangeAbove
      : Float64.gt config.pressure.orangeMinFreePct config.pressure.redMinFreePct = true := by
    simp only [PressureConfig.descending, Bool.and_eq_true] at descending
    exact descending.2
  obtain ⟨_, floor, _⟩ := validateScores_eq_ok.mp scores
  obtain ⟨⟨_, size⟩, _, header, overrides⟩ := BallastConfig.validate_eq_ok.mp ballast
  rw [Config.validate_eq_ok, PressureConfig.validate_eq_ok, validateScores_eq_ok,
    BallastConfig.validate_eq_ok]
  constructor
  · rintro ⟨⟨⟨green, yellow, _, _⟩, order, _⟩, _, ⟨score, _, below⟩, _, _, _, _,
      ⟨⟨positive, _⟩, count, _⟩, _⟩
    simp only [PressureConfig.descending, Bool.and_eq_true] at order
    exact ⟨green, yellow, order.1.1, order.1.2, score, below, positive, count⟩
  · intro ok
    refine ⟨⟨⟨ok.green, ok.yellow, orange, red⟩, ?_, poll, prediction⟩, scanner,
      ⟨ok.score, floor, ok.below_floor⟩, weights, scheduler, sum, telemetry,
      ⟨⟨ok.count_pos, size⟩, ok.count_le, header, overrides⟩, update, patterns, tuning⟩
    simp only [PressureConfig.descending, Bool.and_eq_true]
    exact ⟨⟨ok.green_above, ok.yellow_above⟩, orangeAbove⟩

theorem Config.load_eq_ok {context : LoadContext} {root : TomlTable F} {config : Config F}
    : Config.load context (.table root) = .ok config
      ↔ ∃ parsed, Config.fromTable context root = .ok parsed
          ∧ ∃ sacred, context.sacred = .ok sacred
          ∧ config = (parsed.mergeSacredConfig sacred).normalizePaths
          ∧ config.validate context.validateGlobPattern = .ok () := by
  simp only [Config.load, Checks.bind_eq_ok, Checks.mapError_eq_ok]
  constructor
  · rintro ⟨parsed, read, sacred, known, _, valid, ⟨⟩⟩
    exact ⟨parsed, read, sacred, known, rfl, valid⟩
  · rintro ⟨parsed, read, sacred, known, rfl, valid⟩
    exact ⟨parsed, read, sacred, known, (), valid, rfl⟩

end checks

end StorageBallast.ConfigFile
