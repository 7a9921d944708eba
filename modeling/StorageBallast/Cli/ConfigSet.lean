import StorageBallast.Cli.TuningSafety
import StorageBallast.Core.ConfigFields
import Mathlib.Logic.Function.Basic

/-! Setting one key of the configuration file: the changed document is written beside the file,
loaded from there, and renamed onto it.
-/

namespace StorageBallast.ConfigSet

open ConfigFile
open Tuning (parseTomlValue setTomlValue plainContext)

variable {F : Type}

inductive CliError where
  | user (message : String)
  | runtime (message : String)

/-- The TOML library. -/
structure Toml (F : Type) where
  parse : String → Except String (TomlValue F)
  print : TomlValue F → Except String String

def Toml.RoundTrips (self : Toml F) : Prop :=
  ∀ document text, self.print document = .ok text → self.parse text = .ok document

/-- The operations on files, and the report at the end. -/
inductive SetOp where
  | stat
  | read
  | createDirAll
  | write
  | load
  | remove
  | rename
  | report

structure SetHost (F : Type) extends LoadHost where
  toml : Toml F
  fails : SetOp → Option IoError
  /-- What a failed write leaves. -/
  torn : Option String

abbrev Files := String → Option String

/-- `Path::with_extension` of a name. -/
def withExtension (name ext : String) : String :=
  match Texts.splitOnce '.' name.toList.reverse with
  | none => name ++ "." ++ ext
  | some (_, before) =>
      (if before = [] then name else String.ofList before.reverse) ++ "." ++ ext

def tmpPath (file : FilePlace) : FilePlace :=
  { file with name := withExtension file.name "toml.tmp" }

/-- The files after each change, and the result. -/
structure SetRun where
  states : List Files
  result : Except CliError Unit

section run

variable [Float64 F] [DecimalFloat64 F] (host : SetHost F) (env : Environment) (files : Files)
  (file : FilePlace) (key rawValue : String)

/-- The document of the file, or an empty one where there is no file. -/
def existingDocument : Except CliError (TomlValue F) :=
  match if (host.fails .stat).isSome then none else files file.name with
  | none => .ok (.table [])
  | some raw =>
      match host.fails .read with
      | some e => .error (.runtime ("read config: " ++ e.text))
      | none => (host.toml.parse raw).mapError fun e => .runtime ("parse config: " ++ e)

/-- The text to be written. -/
def changedText : Except CliError String := do
  let document ← existingDocument host files file
  let changed ← (setTomlValue document key rawValue).mapError .user
  let text ← (host.toml.print changed).mapError fun e => .runtime ("serialize config: " ++ e)
  match host.fails .createDirAll with
  | some e => .error (.runtime ("create config dir: " ++ e.text))
  | none => pure text

/-- `Config::load` of the file that was written. -/
def loadTmp (text : String) : Except SbhError (Loaded F) := do
  let tmp := tmpPath file
  if let some e := host.fails .load then .error (.io (tmp.directory.join tmp.name) e)
  let document ← (host.toml.parse text).mapError (.configParse "toml")
  Config.loadFrom host.toLoadHost env tmp document

def runConfigSet : SetRun :=
  match changedText host files file key rawValue with
  | .error e => ⟨[], .error e⟩
  | .ok text =>
      let tmp := (tmpPath file).name
      match host.fails .write with
      | some e =>
          ⟨[Function.update files tmp host.torn],
            .error (.runtime ("write temp config: " ++ e.text))⟩
      | none =>
          let written := Function.update files tmp (some text)
          match loadTmp host env file text with
          | .error e =>
              let removed :=
                if (host.fails .remove).isSome then written
                else Function.update written tmp none
              ⟨[written, removed],
                .error (.user ("refusing to write invalid config: " ++ e.toString))⟩
          | .ok _ =>
              match host.fails .rename with
              | some e => ⟨[written], .error (.runtime ("rename config: " ++ e.text))⟩
              | none =>
                  ⟨[written,
                      Function.update (Function.update written tmp none) file.name (some text)],
                    match host.fails .report with
                    | some e => .error (.runtime e.text)
                    | none => .ok ()⟩

end run

theorem withExtension_ne (name : String) : withExtension name "toml.tmp" ≠ name := by
  intro same
  unfold withExtension at same
  have longer : name ++ "." ++ "toml.tmp" ≠ name := fun same => by
    have length := congrArg String.length same
    have dot : ".".length = 1 := rfl
    rw [String.length_append, String.length_append] at length
    omega
  split at same
  · exact longer same
  · next after before split =>
      split_ifs at same
      · exact longer same
      · obtain ⟨noDot, chars⟩ := Texts.splitOnce_eq_some.mp split
        have whole := congrArg String.toList same
        have reversed : name.toList = before.reverse ++ '.' :: after.reverse := by
          rw [← List.reverse_reverse name.toList, chars]
          simp
        rw [reversed] at whole
        have tails : "toml.tmp".toList = after.reverse := by simpa using whole
        exact noDot (List.mem_reverse.mp (tails ▸ by decide))

/-- The value of a field that a text stands for. A float may be written as an integer. -/
def Denotes [Float64 F] [DecimalFloat64 F] (raw : String) : FieldKind → TomlValue F → Prop
  | .bool, .boolean b => raw = if b then "true" else "false"
  | .unsigned bits, .integer n => parseI64 raw = some n ∧ 0 ≤ n ∧ n < 2 ^ bits
  | .float, .float x =>
      (∃ n, parseI64 raw = some n ∧ TomlValue.asF64 (.integer n) = some x)
      ∨ parseI64 raw = none ∧ DecimalFloat64.ofText raw = some x
  | .text, .string text => text = raw
  | .name accepted, .string text => text = raw ∧ raw ∈ accepted
  | _, _ => False

/-- A guessed value that fits a field is the one that its text stands for. -/
theorem denotes_of_decode [Float64 F] [DecimalFloat64 F] {raw : String} {kind : FieldKind}
    {value : TomlValue F} (decoded : kind.decode (parseTomlValue raw) = some value)
    : Denotes raw kind value := by
  unfold parseTomlValue at decoded
  cases isBool : parseBool raw with
  | some b =>
      have text : raw = if b then "true" else "false" := by
        unfold parseBool at isBool
        split_ifs at isBool <;> cases isBool <;> assumption
      rw [isBool] at decoded
      cases kind <;> cases decoded
      exact text
  | none =>
      rw [isBool] at decoded
      cases isInt : parseI64 raw with
      | some n =>
          rw [isInt] at decoded
          cases kind <;> try cases decoded
          · obtain ⟨m, fits, rfl⟩ := Option.map_eq_some_iff.mp decoded
            simp only [TomlValue.asUnsigned, Option.ite_none_right_eq_some] at fits
            obtain ⟨⟨nonneg, small⟩, same⟩ := fits
            cases same
            rw [Denotes, Int.toNat_of_nonneg nonneg]
            exact ⟨isInt, nonneg, small⟩
          · exact .inl ⟨n, isInt, rfl⟩
      | none =>
          rw [isInt] at decoded
          cases isFloat : (DecimalFloat64.ofText raw : Option F) with
          | some x =>
              rw [isFloat] at decoded
              cases kind <;> cases decoded
              exact .inr ⟨isInt, isFloat⟩
          | none =>
              rw [isFloat] at decoded
              cases kind <;> try cases decoded
              · rfl
              · obtain ⟨text, known, rfl⟩ := Option.map_eq_some_iff.mp decoded
                obtain ⟨same, accepted⟩ := Option.filter_eq_some_iff.mp known
                cases same
                exact ⟨rfl, of_decide_eq_true accepted⟩

section claim

variable [Float64 F] [DecimalFloat64 F] (host : SetHost F) (env : Environment) (files : Files)
  (file : FilePlace) (key rawValue : String)

def SetRun.Keeps (run : SetRun) : Prop := ∀ state ∈ run.states, state file.name = files file.name

/-- The file is replaced in the last step by a document with the value at the key, which is
accepted in its place.
-/
structure Replaces (old new : TomlValue F) : Prop where
  before : files file.name = none ∧ old = .table []
    ∨ ∃ raw, files file.name = some raw ∧ host.toml.parse raw = .ok old
  swapped : ∃ earlier last text,
    (runConfigSet host env files file key rawValue).states = earlier ++ [last]
      ∧ (∀ state ∈ earlier, state file.name = files file.name)
      ∧ last file.name = some text ∧ host.toml.parse text = .ok new
  written : TomlValue.Written (parseTomlValue rawValue) old new (dottedParts key)
  accepted : ∃ loaded, Config.loadFrom host.toLoadHost env file new = .ok loaded

def ignoring (path : List String) : Environment := fun name =>
  if (envOverrides : List (EnvOverride F)).any fun ov => path ∈ ov.paths && ov.variable_ == name
  then none
  else env name

/-- Either nothing changes, or the key does and is read back, and the file is accepted with and
without the environment.
-/
def SetsOneKey : Prop :=
  let run := runConfigSet host env files file key rawValue
  ((∃ e, run.result = .error e) ∧ run.Keeps files file)
  ∨ ∃ old new, run.result = .ok () ∧ Replaces host env files file key rawValue old new
    ∧ (∃ loaded kind value,
        Config.loadFrom host.toLoadHost (ignoring (F := F) env (dottedParts key)) file new
          = .ok loaded
        ∧ loaded.get (dottedParts key) = some value ∧ Denotes rawValue kind value)
    ∧ ∃ loaded, Config.loadFrom host.toLoadHost (fun _ => none) file new = .ok loaded

/-- Either nothing changes, or the key does and is read back under every environment that does
not override it, if the configuration has such a field.
-/
def SetsField : Prop :=
  let run := runConfigSet host env files file key rawValue
  ((∃ e, run.result = .error e) ∧ run.Keeps files file)
  ∨ ∃ old new, (run.result = .ok () ∨ (host.fails .report).isSome)
    ∧ Replaces host env files file key rawValue old new
    ∧ ∀ kind env' loaded, configShape.under (dottedParts key) = .field kind
      → dottedParts key ≠ ["paths", "config_file"] → MountAlone new (dottedParts key)
      → ¬ Overrides (F := F) env' (dottedParts key)
      → Config.loadFrom host.toLoadHost env' file new = .ok loaded
      → ∃ value, loaded.get (dottedParts key) = some value ∧ Denotes rawValue kind value

variable {host env files file key rawValue}

theorem runConfigSet_cases
    : ((∃ e, (runConfigSet host env files file key rawValue).result = .error e)
        ∧ (runConfigSet host env files file key rawValue).Keeps files file)
      ∨ ∃ text loaded earlier last, changedText host files file key rawValue = .ok text
        ∧ loadTmp host env file text = .ok loaded
        ∧ (runConfigSet host env files file key rawValue).states = earlier ++ [last]
        ∧ (∀ state ∈ earlier, state file.name = files file.name) ∧ last file.name = some text
        ∧ ((runConfigSet host env files file key rawValue).result = .ok ()
          ∨ (host.fails .report).isSome) := by
  have apart : file.name ≠ (tmpPath file).name := (withExtension_ne file.name).symm
  have elsewhere (content : Option String) (files : Files)
      : Function.update files (tmpPath file).name content file.name = files file.name :=
    Function.update_of_ne apart content files
  unfold runConfigSet
  cases changed : changedText host files file key rawValue with
  | error e => exact .inl ⟨⟨e, rfl⟩, fun _ none => nomatch none⟩
  | ok text =>
      dsimp only
      cases host.fails .write with
      | some e =>
          refine .inl ⟨⟨_, rfl⟩, fun state member => ?_⟩
          rw [List.mem_singleton.mp member]
          exact elsewhere host.torn files
      | none =>
          dsimp only
          cases loads : loadTmp host env file text with
          | error e =>
              refine .inl ⟨⟨_, rfl⟩, fun state member => ?_⟩
              rcases List.mem_pair.mp member with rfl | rfl
              · exact elsewhere _ files
              · split
                · exact elsewhere _ files
                · rw [elsewhere, elsewhere]
          | ok loaded =>
              dsimp only
              cases host.fails .rename with
              | some e =>
                  refine .inl ⟨⟨_, rfl⟩, fun state member => ?_⟩
                  rw [List.mem_singleton.mp member]
                  exact elsewhere _ files
              | none =>
                  refine .inr ⟨text, loaded, [_], _, rfl, loads, rfl, fun state member => ?_,
                    Function.update_self .., ?_⟩
                  · rw [List.mem_singleton.mp member]
                    exact elsewhere _ files
                  · cases host.fails .report with
                    | some e => exact .inr rfl
                    | none => exact .inl rfl

/-- A key is set by one replacement of the file or not at all. -/
theorem setsField (lawful : host.toml.RoundTrips) (seen : host.fails .stat = none)
    : SetsField host env files file key rawValue := by
  rcases @runConfigSet_cases F _ _ host env files file key rawValue with
    refused | ⟨text, loaded, earlier, last, changed, loads, states, kept, holds, reported⟩
  · exact .inl refused
  obtain ⟨old, existing, changed⟩ := Checks.bind_eq_ok.mp changed
  obtain ⟨new, set, changed⟩ := Checks.bind_eq_ok.mp changed
  obtain ⟨text', printed, created⟩ := Checks.bind_eq_ok.mp changed
  rw [Checks.mapError_eq_ok] at set printed
  obtain rfl : text' = text := by
    split at created <;> cases created
    rfl
  have parses := lawful new text' printed
  have written := TomlValue.setAt_written set
  have before : files file.name = none ∧ old = .table []
      ∨ ∃ raw, files file.name = some raw ∧ host.toml.parse raw = .ok old := by
    rw [existingDocument, seen, Option.isSome_none, if_neg Bool.false_ne_true] at existing
    split at existing
    · next absent =>
        cases existing
        exact .inl ⟨absent, rfl⟩
    · next raw there =>
        split at existing
        · cases existing
        · exact .inr ⟨raw, there, Checks.mapError_eq_ok.mp existing⟩
  have accepted : ∃ loaded, Config.loadFrom host.toLoadHost env file new = .ok loaded := by
    unfold loadTmp at loads
    split at loads
    · cases loads
    · obtain ⟨document, parsed, loads⟩ := Checks.bind_eq_ok.mp loads
      rw [Checks.mapError_eq_ok] at parsed
      cases parses.symm.trans parsed
      exact ⟨_, Config.loadFrom_elsewhere loads rfl⟩
  refine .inr ⟨old, new, reported,
    ⟨before, ⟨earlier, last, text', states, kept, holds, parses⟩, written, accepted⟩, ?_⟩
  intro kind env' loaded field notPlace alone free loads
  obtain ⟨value, decoded, got⟩ :=
    Config.loadFrom_get loads field notPlace free alone written.holds
  exact ⟨value, got, denotes_of_decode decoded⟩

end claim

/-! A key that the configuration does not have is written all the same. -/

/-- A library that knows one text. -/
noncomputable def oneText (text : String) (document : TomlValue ℚ) : Toml ℚ where
  parse raw := if raw = text then .ok document else .error "unexpected text"
  print value := open Classical in if value = document then .ok text else .error "unsupported"

theorem oneText_roundTrips (text : String) (document : TomlValue ℚ)
    : (oneText text document).RoundTrips := by
  intro value printed print
  unfold oneText at print ⊢
  dsimp only at print ⊢
  split_ifs at print with same
  cases print
  rw [if_pos rfl, same]

/-- A host where nothing fails and no file is there. -/
noncomputable def quietHost (text : String) (document : TomlValue ℚ) : SetHost ℚ where
  beside _ := plainContext
  envError name raw := name ++ "=" ++ raw
  toml := oneText text document
  fails _ := none
  torn := none

def userFile : FilePlace := ⟨⟨"/home/user/.config/sbh"⟩, "config.toml"⟩

def misspelled : TomlValue ℚ := .table [("pressure", .table [("green_min_free", .integer 25)])]

def misspelledText : String := "[pressure]\ngreen_min_free = 25\n"

theorem misspelled_key_set
    : ¬ SetsOneKey (quietHost misspelledText misspelled) (fun _ => none) (fun _ => none) userFile
        "pressure.green_min_free" "25" := by
  have parts : dottedParts "pressure.green_min_free" = ["pressure", "green_min_free"] := by decide
  have number : parseI64 "25" = some 25 := by decide +kernel
  have guessed : (parseTomlValue "25" : TomlValue ℚ) = .integer 25 := by
    rw [parseTomlValue, number]
    rfl
  have text : changedText (quietHost misspelledText misspelled) (fun _ => none) userFile
      "pressure.green_min_free" "25" = .ok misspelledText := by
    refine Checks.bind_eq_ok.mpr ⟨.table [], rfl, Checks.bind_eq_ok.mpr ⟨misspelled, ?_,
      Checks.bind_eq_ok.mpr ⟨misspelledText, ?_, rfl⟩⟩⟩
    · rw [setTomlValue, parts, guessed]
      rfl
    · simp [quietHost, oneText, Except.mapError]
  have loads : ∃ loaded, loadTmp (quietHost misspelledText misspelled) (fun _ => none) userFile
      misspelledText = .ok loaded := by
    have accepts : (Config.loadFrom ⟨fun _ => plainContext, fun name raw => name ++ "=" ++ raw⟩
        (fun _ => none) (tmpPath userFile) misspelled).isOk = true := by
      decide +kernel
    cases loads : Config.loadFrom ⟨fun _ => plainContext, fun name raw => name ++ "=" ++ raw⟩
        (fun _ => none) (tmpPath userFile) misspelled with
    | error e =>
        rw [loads] at accepts
        cases accepts
    | ok loaded =>
        refine ⟨loaded, Checks.bind_eq_ok.mpr ⟨misspelled, ?_, loads⟩⟩
        simp [quietHost, oneText, Except.mapError]
  obtain ⟨loaded, loads⟩ := loads
  have done : (runConfigSet (quietHost misspelledText misspelled) (fun _ => none) (fun _ => none)
      userFile "pressure.green_min_free" "25").result = .ok () := by
    rw [runConfigSet, text]
    dsimp only [quietHost] at loads ⊢
    rw [loads]
  rintro (⟨⟨e, refused⟩, -⟩ | ⟨_, _, _, _, ⟨loaded, kind, value, -, got, -⟩, -⟩)
  · cases done.symm.trans refused
  · rw [parts, Loaded.get, if_neg (by decide), if_neg (by decide)] at got
    cases got

theorem setsField_notices
    : SetsField (quietHost "[update]\nnotices_enabled = false\n"
          (.table [("update", .table [("notices_enabled", .boolean false)])]))
        (fun _ => none) (fun _ => none) userFile "update.notices_enabled" "false" :=
  setsField (oneText_roundTrips _ _) rfl

end StorageBallast.ConfigSet
