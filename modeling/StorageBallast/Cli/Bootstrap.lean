import StorageBallast.Foundations.InterruptedCopies
import StorageBallast.Foundations.Paths

/-! The migration of data from legacy directories. Footprints are scanned, an action is planned
for each that has an issue, and the actions are applied one after the other: a missing state
file is initialized, and each legacy directory is copied into the canonical one, file by file.
-/

namespace StorageBallast

open InterruptedCopies

abbrev DataFiles := Files String UInt8

inductive MigrationReason where
  | legacyDataPath
  | missingStateFile
deriving DecidableEq, Repr

inductive FootprintKind where
  | dataDirectory
  | stateFile
  | sqliteDb
  | jsonlLog
deriving DecidableEq, Repr

structure Footprint where
  kind : FootprintKind
  path : PathBuf
  healthy : Bool
  issue : Option MigrationReason
  detail : Option String
deriving DecidableEq, Repr

inductive ActionKind where
  | copyLegacyState
  | initStateFile
deriving DecidableEq, Repr

structure MigrationAction where
  kind : ActionKind
  reason : MigrationReason
  target : PathBuf
  description : String
deriving DecidableEq, Repr

def migratableDataFiles : List String :=
  ["state.json", "activity.sqlite3", "activity.sqlite3-wal", "activity.sqlite3-shm",
    "activity.jsonl", "update-metadata.json", "notifications.jsonl"]

/-- A file's text is plain ASCII. -/
def initialState : List UInt8 :=
  "\x7b\"version\":\"0.1.0\",\"pid\":0,\"started_at\":\"\",\"uptime_seconds\":0\x7d".toList.map
    fun c => UInt8.ofNat c.toNat

/-- The canonical data directory, if it exists, and the legacy directories, where one that does
not exist has no files.
-/
structure DataDirs where
  dataDir : PathBuf
  canonical : Option DataFiles
  legacy : PathBuf → DataFiles

/-- Where footprints of data are looked for. -/
inductive MigrationPlace where
  | canonical
  | legacy (source : PathBuf)
deriving DecidableEq, Repr

structure ActionOutcomes where
  createsDir : Bool
  writes : String → WriteOutcome

def ActionOutcomes.success : ActionOutcomes := ⟨true, fun _ => .whole⟩

def legacyDataNeedsMigration (source destination : DataFiles) : Bool :=
  migratableDataFiles.any fun name => (source name).isSome && (destination name).isNone

def planAction (dataDir : PathBuf) (footprint : Footprint) : Option MigrationAction :=
  match footprint.kind, footprint.issue with
  | .dataDirectory, some .legacyDataPath => some {
      kind := .copyLegacyState
      reason := .legacyDataPath
      target := footprint.path
      description := "copy legacy state/log files from " ++ footprint.path.text
        ++ " to canonical data directory " ++ dataDir.text }
  | .stateFile, some .missingStateFile => some {
      kind := .initStateFile
      reason := .missingStateFile
      target := footprint.path
      description := "initialize missing state file at " ++ footprint.path.text }
  | _, _ => none

namespace DataDirs

def files (dirs : DataDirs) : DataFiles := dirs.canonical.getD fun _ => none

def fileFootprint (dirs : DataDirs) (kind : FootprintKind) (name : String) : List Footprint :=
  if (dirs.files name).isSome then [⟨kind, dirs.dataDir.join name, true, none, none⟩] else []

/-- What `scan_config_and_data_paths` finds of data. -/
def scanDataPaths (dirs : DataDirs) : List Footprint :=
  if dirs.canonical.isSome then
    [⟨.dataDirectory, dirs.dataDir, true, none, none⟩]
      ++ (if (dirs.files "state.json").isSome then dirs.fileFootprint .stateFile "state.json"
        else [⟨.stateFile, dirs.dataDir.join "state.json", false, some .missingStateFile,
          some "data directory exists but state.json is missing"⟩])
      ++ dirs.fileFootprint .sqliteDb "activity.sqlite3"
      ++ dirs.fileFootprint .jsonlLog "activity.jsonl"
  else []

/-- What `scan_legacy_path_migrations` finds in one directory. -/
def scanLegacyPath (dirs : DataDirs) (source : PathBuf) : List Footprint :=
  if legacyDataNeedsMigration (dirs.legacy source) dirs.files then
    [⟨.dataDirectory, source, false, some .legacyDataPath,
      some ("legacy state/log files under " ++ source.text
        ++ " should be copied to canonical data directory " ++ dirs.dataDir.text)⟩]
  else []

def footprintsAt (dirs : DataDirs) : MigrationPlace → List Footprint
  | .canonical => dirs.scanDataPaths
  | .legacy source => dirs.scanLegacyPath source

def scanFootprints (dirs : DataDirs) (places : List MigrationPlace) : List Footprint :=
  places.flatMap dirs.footprintsAt

def planActions (dirs : DataDirs) (footprints : List Footprint) : List MigrationAction :=
  footprints.filterMap (planAction dirs.dataDir)

/-- `apply_init_state_file`: whatever there is gets replaced. -/
def applyInitStateFile (outcomes : ActionOutcomes) (dirs : DataDirs) : DataDirs :=
  if outcomes.createsDir then
    { dirs with
      canonical := some
        (write (outcomes.writes "state.json") "state.json" initialState dirs.files) }
  else dirs

/-- `apply_copy_legacy_state`: the canonical directory is every legacy one's destination. -/
def applyCopyLegacyState (outcomes : ActionOutcomes) (source : PathBuf) (dirs : DataDirs)
    : DataDirs :=
  if outcomes.createsDir then
    { dirs with
      canonical := some
        (copyEach outcomes.writes (dirs.legacy source) migratableDataFiles dirs.files) }
  else dirs

def applyAction (outcomes : ActionOutcomes) (action : MigrationAction) (dirs : DataDirs)
    : DataDirs :=
  match action.kind with
  | .initStateFile => dirs.applyInitStateFile outcomes
  | .copyLegacyState => dirs.applyCopyLegacyState outcomes action.target

def applyActions (outcomes : MigrationAction → ActionOutcomes) (actions : List MigrationAction)
    (dirs : DataDirs) : DataDirs :=
  actions.foldl (fun reached action => reached.applyAction (outcomes action) action) dirs

def actions (dirs : DataDirs) (places : List MigrationPlace) : List MigrationAction :=
  dirs.planActions (dirs.scanFootprints places)

/-- `run_migration`, as far as it is about data. -/
def runMigration (places : List MigrationPlace) (outcomes : MigrationAction → ActionOutcomes)
    (dirs : DataDirs) : DataDirs :=
  dirs.applyActions outcomes (dirs.actions places)

/-! What is planned -/

def missesStateFile (dirs : DataDirs) : Bool :=
  dirs.canonical.isSome && (dirs.files "state.json").isNone

def initAction (dirs : DataDirs) : MigrationAction where
  kind := .initStateFile
  reason := .missingStateFile
  target := dirs.dataDir.join "state.json"
  description := "initialize missing state file at " ++ (dirs.dataDir.join "state.json").text

def copyAction (dirs : DataDirs) (source : PathBuf) : MigrationAction where
  kind := .copyLegacyState
  reason := .legacyDataPath
  target := source
  description := "copy legacy state/log files from " ++ source.text
    ++ " to canonical data directory " ++ dirs.dataDir.text

def actionsAt (dirs : DataDirs) : MigrationPlace → List MigrationAction
  | .canonical => if dirs.missesStateFile then [dirs.initAction] else []
  | .legacy source =>
      if legacyDataNeedsMigration (dirs.legacy source) dirs.files then [dirs.copyAction source]
      else []

theorem planActions_footprintsAt (dirs : DataDirs) (place : MigrationPlace)
    : dirs.planActions (dirs.footprintsAt place) = dirs.actionsAt place := by
  have healthy (kind : FootprintKind) (path : PathBuf)
      : planAction dirs.dataDir ⟨kind, path, true, none, none⟩ = none := by
    cases kind <;> rfl
  cases place with
  | canonical =>
      unfold footprintsAt scanDataPaths actionsAt missesStateFile planActions fileFootprint
      cases dirs.canonical.isSome with
      | false => rfl
      | true =>
          cases held : dirs.files "state.json" <;>
            cases dirs.files "activity.sqlite3" <;>
            cases dirs.files "activity.jsonl" <;>
            simp [healthy] <;> rfl
  | legacy source =>
      simp only [footprintsAt, scanLegacyPath, actionsAt, planActions]
      split <;> rfl

theorem actions_eq (dirs : DataDirs) (places : List MigrationPlace)
    : dirs.actions places = places.flatMap dirs.actionsAt := by
  unfold actions scanFootprints planActions
  rw [List.filterMap_flatMap]
  congr 1
  funext place
  exact dirs.planActions_footprintsAt place

theorem mem_actions {dirs : DataDirs} {places : List MigrationPlace} {action : MigrationAction}
    : action ∈ dirs.actions places
      ↔ (MigrationPlace.canonical ∈ places ∧ dirs.missesStateFile = true
          ∧ action = dirs.initAction)
        ∨ ∃ source, MigrationPlace.legacy source ∈ places
          ∧ legacyDataNeedsMigration (dirs.legacy source) dirs.files = true
          ∧ action = dirs.copyAction source := by
  rw [actions_eq, List.mem_flatMap]
  constructor
  · intro ⟨place, among, planned⟩
    cases place with
    | canonical =>
        simp only [actionsAt] at planned
        split at planned
        next misses => exact .inl ⟨among, misses, List.mem_singleton.mp planned⟩
        next => cases planned
    | legacy source =>
        simp only [actionsAt] at planned
        split at planned
        next needs => exact .inr ⟨source, among, needs, List.mem_singleton.mp planned⟩
        next => cases planned
  · rintro (⟨among, misses, rfl⟩ | ⟨source, among, needs, rfl⟩)
    · refine ⟨_, among, ?_⟩
      simp only [actionsAt]
      rw [if_pos misses]
      exact List.mem_singleton_self _
    · refine ⟨_, among, ?_⟩
      simp only [actionsAt]
      rw [if_pos needs]
      exact List.mem_singleton_self _

theorem needsMigration_iff {source destination : DataFiles}
    : legacyDataNeedsMigration source destination = true
      ↔ ∃ name ∈ migratableDataFiles, ∃ content, source name = some content
        ∧ destination name = none := by
  unfold legacyDataNeedsMigration
  rw [List.any_eq_true]
  refine exists_congr fun name => and_congr_right fun _ => ?_
  rw [Bool.and_eq_true, Option.isSome_iff_exists, Option.isNone_iff_eq_none]
  exact ⟨fun ⟨⟨content, has⟩, missing⟩ => ⟨content, has, missing⟩,
    fun ⟨content, has, missing⟩ => ⟨⟨content, has⟩, missing⟩⟩

/-! What the actions do to one file -/

section Applying

variable {outcomes : MigrationAction → ActionOutcomes} {name : String}

@[simp] theorem legacy_applyAction (dirs : DataDirs) (outcome : ActionOutcomes)
    (action : MigrationAction) : (dirs.applyAction outcome action).legacy = dirs.legacy := by
  unfold applyAction applyInitStateFile applyCopyLegacyState
  split <;> split <;> rfl

theorem legacy_applyActions (actions : List MigrationAction) (dirs : DataDirs)
    : (dirs.applyActions outcomes actions).legacy = dirs.legacy := by
  induction actions generalizing dirs with
  | nil => rfl
  | cons action actions ih =>
      exact (ih _).trans (dirs.legacy_applyAction _ action)

theorem applyActions_nil (dirs : DataDirs) : dirs.applyActions outcomes [] = dirs := rfl

theorem applyActions_cons (action : MigrationAction) (actions : List MigrationAction)
    (dirs : DataDirs)
    : dirs.applyActions outcomes (action :: actions)
      = (dirs.applyAction (outcomes action) action).applyActions outcomes actions :=
  rfl

theorem applyActions_append (first second : List MigrationAction) (dirs : DataDirs)
    : dirs.applyActions outcomes (first ++ second)
      = (dirs.applyActions outcomes first).applyActions outcomes second :=
  List.foldl_append ..

variable {outcome : ActionOutcomes}

/-- An action that cannot create the canonical directory changes nothing. -/
theorem applyAction_refused (refused : outcome.createsDir = false)
    (action : MigrationAction) (dirs : DataDirs) : dirs.applyAction outcome action = dirs := by
  unfold applyAction applyInitStateFile applyCopyLegacyState
  rw [refused]
  cases action.kind <;> rfl

theorem files_init (creates : outcome.createsDir = true)
    {action : MigrationAction} (isInit : action.kind = .initStateFile) (dirs : DataDirs)
    : (dirs.applyAction outcome action).files
      = write (outcome.writes "state.json") "state.json" initialState dirs.files := by
  unfold applyAction applyInitStateFile
  rw [isInit]
  dsimp only
  rw [if_pos creates]
  rfl

theorem files_copy (creates : outcome.createsDir = true)
    {action : MigrationAction} (isCopy : action.kind = .copyLegacyState) (dirs : DataDirs)
    : (dirs.applyAction outcome action).files
      = copyEach outcome.writes (dirs.legacy action.target) migratableDataFiles dirs.files := by
  unfold applyAction applyCopyLegacyState
  rw [isCopy]
  dsimp only
  rw [if_pos creates]
  rfl

def Spares (outcomes : MigrationAction → ActionOutcomes) (name : String)
    (actions : List MigrationAction) : Prop :=
  ∀ action ∈ actions, action.kind = .initStateFile → name = "state.json" →
    (outcomes action).writes name = .nothing

/-- An initialization that spares a file leaves it as it is. -/
theorem files_spared {action : MigrationAction} (isInit : action.kind = .initStateFile)
    (spares : name = "state.json" → (outcomes action).writes name = .nothing) (dirs : DataDirs)
    : (dirs.applyAction (outcomes action) action).files name = dirs.files name := by
  cases creates : (outcomes action).createsDir with
  | false => rw [applyAction_refused creates]
  | true =>
      rw [files_init creates isInit]
      by_cases same : name = "state.json"
      · have nothing := spares same
        subst same
        rw [write_same, nothing]
        rfl
      · exact write_other same ..

variable {dirs : DataDirs}

/-- What exists is not overwritten, by induction on the actions. -/
theorem applyActions_kept {actions : List MigrationAction} (spares : Spares outcomes name actions)
    {content : List UInt8} (held : dirs.files name = some content)
    : (dirs.applyActions outcomes actions).files name = some content := by
  induction actions generalizing dirs with
  | nil => exact held
  | cons action actions ih =>
      rw [applyActions_cons]
      refine ih (fun later member => spares later (List.mem_cons_of_mem _ member)) ?_
      cases kind : action.kind with
      | initStateFile =>
          rw [files_spared kind (spares action List.mem_cons_self kind)]
          exact held
      | copyLegacyState =>
          cases creates : (outcomes action).createsDir with
          | false => rwa [applyAction_refused creates]
          | true =>
              rw [files_copy creates kind]
              exact copyEach_kept _ held

/-- What is copied comes from a directory that is copied from, by induction on the actions. -/
theorem applyActions_origin {actions : List MigrationAction}
    (spares : Spares outcomes name actions) {kept : List UInt8}
    (after : (dirs.applyActions outcomes actions).files name = some kept)
    : dirs.files name = some kept
      ∨ name ∈ migratableDataFiles
        ∧ ∃ action ∈ actions, action.kind = .copyLegacyState
          ∧ ∃ content, dirs.legacy action.target name = some content ∧ kept <+: content := by
  induction actions generalizing dirs with
  | nil => exact .inl after
  | cons action actions ih =>
      rw [applyActions_cons] at after
      have later := ih (fun later member => spares later (List.mem_cons_of_mem _ member)) after
      rcases later with before | ⟨migratable, other, member, isCopy, content, has, front⟩
      · cases kind : action.kind with
        | initStateFile =>
            rw [files_spared kind (spares action List.mem_cons_self kind)] at before
            exact .inl before
        | copyLegacyState =>
            cases creates : (outcomes action).createsDir with
            | false =>
                rw [applyAction_refused creates] at before
                exact .inl before
            | true =>
                rw [files_copy creates kind] at before
                rcases copyEach_origin before with same | ⟨migratable, content, has, front⟩
                · exact .inl same
                · exact .inr ⟨migratable, action, List.mem_cons_self, kind, content, has, front⟩
      · rw [legacy_applyAction] at has
        exact .inr ⟨migratable, other, List.mem_cons_of_mem _ member, isCopy, content, has,
          front⟩

def leavesFrom (outcomes : MigrationAction → ActionOutcomes) (planned : DataDirs) (name : String)
    : MigrationPlace → Option (List UInt8)
  | .canonical => none
  | .legacy source => (planned.legacy source name).bind fun content =>
      ((outcomes (planned.copyAction source)).writes name).left content

/-- If only a certain missing file may fail, it is there as the first copy of it to leave
anything has left it; by induction on the places.
-/
theorem applyActions_missing (creates : ∀ action, (outcomes action).createsDir = true)
    (others : ∀ action other, other ≠ name → (outcomes action).writes other = .whole)
    (migratable : name ∈ migratableDataFiles) {planned : DataDirs}
    (missing : planned.files name = none) {places : List MigrationPlace}
    (spares : Spares outcomes name (places.flatMap planned.actionsAt)) {reached : DataDirs}
    (sameLegacy : reached.legacy = planned.legacy) (still : reached.files name = none)
    : (reached.applyActions outcomes (places.flatMap planned.actionsAt)).files name
      = places.findSome? (planned.leavesFrom outcomes name) := by
  induction places generalizing reached with
  | nil => exact still
  | cons place places ih =>
      rw [List.flatMap_cons] at spares
      have sparesLater : Spares outcomes name (places.flatMap planned.actionsAt) :=
        fun action member => spares action (List.mem_append_right _ member)
      rw [List.flatMap_cons, applyActions_append]
      have onward {next : DataDirs} (legacyNext : next.legacy = planned.legacy)
          (missingNext : next.files name = none)
          (leaves : planned.leavesFrom outcomes name place = none)
          : (next.applyActions outcomes (places.flatMap planned.actionsAt)).files name
            = (place :: places).findSome? (planned.leavesFrom outcomes name) := by
        rw [List.findSome?_cons, leaves]
        exact ih sparesLater legacyNext missingNext
      cases place with
      | canonical =>
          refine onward ((legacy_applyActions _ _).trans sameLegacy) ?_ rfl
          have sparesHere := fun action member => spares action (List.mem_append_left _ member)
          simp only [actionsAt] at sparesHere ⊢
          split at sparesHere
          next misses =>
            rw [if_pos misses, applyActions_cons]
            exact (files_spared rfl (sparesHere _ List.mem_cons_self rfl) reached).trans still
          next present =>
            rw [if_neg present]
            exact still
      | legacy source =>
          have copied := @files_copy _ (creates (planned.copyAction source))
            (planned.copyAction source) rfl reached
          rw [sameLegacy] at copied
          change _ = copyEach _ (planned.legacy source) _ _ at copied
          cases has : planned.legacy source name with
          | none =>
              refine onward ((legacy_applyActions _ _).trans sameLegacy) ?_
                (by simp only [leavesFrom, has, Option.bind_none])
              simp only [actionsAt]
              split
              · rw [applyActions_cons, applyActions_nil, copied]
                cases after : copyEach (outcomes (planned.copyAction source)).writes
                    (planned.legacy source) migratableDataFiles reached.files name with
                | none => rfl
                | some kept =>
                    rcases copyEach_origin after with before | ⟨-, content, from_, -⟩
                    · rw [still] at before
                      cases before
                    · rw [has] at from_
                      cases from_
              · exact still
          | some content =>
              have needs : legacyDataNeedsMigration (planned.legacy source) planned.files
                  = true :=
                needsMigration_iff.mpr ⟨name, migratable, content, has, missing⟩
              have here : (reached.applyActions outcomes
                  (planned.actionsAt (.legacy source))).files name
                  = planned.leavesFrom outcomes name (.legacy source) := by
                simp only [actionsAt, leavesFrom, has, Option.bind_some]
                rw [if_pos needs, applyActions_cons, applyActions_nil, copied]
                exact copyEach_at (others _) has migratable still
              cases leaves : planned.leavesFrom outcomes name (.legacy source) with
              | none =>
                  exact onward ((legacy_applyActions _ _).trans sameLegacy)
                    (here.trans leaves) leaves
              | some kept =>
                  rw [List.findSome?_cons, leaves]
                  exact applyActions_kept sparesLater (here.trans leaves)

/-- An initial state file stays as it is, by induction on the actions. -/
theorem applyActions_initial (succeeds : ∀ action, outcomes action = .success)
    (actions : List MigrationAction) (initial : dirs.files "state.json" = some initialState)
    : (dirs.applyActions outcomes actions).files "state.json" = some initialState := by
  induction actions generalizing dirs with
  | nil => exact initial
  | cons action actions ih =>
      rw [applyActions_cons, succeeds action]
      apply ih
      cases kind : action.kind with
      | initStateFile =>
          rw [files_init rfl kind, write_same]
          rfl
      | copyLegacyState =>
          rw [files_copy rfl kind]
          exact copyEach_kept _ initial

theorem applyActions_exists (actions : List MigrationAction)
    (exists_ : dirs.canonical.isSome = true)
    : (dirs.applyActions outcomes actions).canonical.isSome = true := by
  induction actions generalizing dirs with
  | nil => exact exists_
  | cons action actions ih =>
      rw [applyActions_cons]
      apply ih
      unfold applyAction applyInitStateFile applyCopyLegacyState
      split <;> split <;> first | rfl | exact exists_

/-- An action that can create the canonical directory has it there. -/
theorem applyAction_creates (creates : outcome.createsDir = true)
    (action : MigrationAction) (dirs : DataDirs)
    : (dirs.applyAction outcome action).canonical.isSome = true := by
  unfold applyAction applyInitStateFile applyCopyLegacyState
  rw [if_pos creates, if_pos creates]
  split <;> rfl

end Applying

/-! What a migration is to reach -/

def databaseFiles : List String :=
  ["activity.sqlite3", "activity.sqlite3-wal", "activity.sqlite3-shm"]

structure PlaceOrder where
  places : List MigrationPlace
  canonical_mem : .canonical ∈ places

def filesAt (dirs : DataDirs) : MigrationPlace → DataFiles
  | .canonical => dirs.files
  | .legacy source => dirs.legacy source

def firstHolding (dirs : DataDirs) (order : PlaceOrder) (name : String) : Option (List UInt8) :=
  order.places.findSome? fun
    | .canonical => none
    | .legacy source => dirs.legacy source name

def merged (dirs : DataDirs) (order : PlaceOrder) (name : String) : Option (List UInt8) :=
  (dirs.files name).or (dirs.firstHolding order name)

structure Migrated (order : PlaceOrder) (before after : DataDirs) : Prop where
  complete : ∀ name ∈ migratableDataFiles, before.files name = none → ∀ content,
    before.firstHolding order name = some content → after.files name = some content
  kept : ∀ name content, before.files name = some content → after.files name = some content
  together : ∃ place ∈ order.places, ∀ name ∈ databaseFiles,
    after.files name = before.filesAt place name
  settled : ∀ action ∈ after.actions order.places, action.kind ≠ .copyLegacyState

def migrate (order : PlaceOrder) (dirs : DataDirs) : DataDirs :=
  dirs.runMigration order.places fun _ => .success

/-- A run reaches the state, also after one in which calls have failed in whatever way. -/
structure Migrates (order : PlaceOrder) (dirs : DataDirs) : Prop where
  atOnce : Migrated order dirs (dirs.migrate order)
  afterFaults : ∀ outcomes,
    Migrated order dirs ((dirs.runMigration order.places outcomes).migrate order)

def OneDatabase (order : PlaceOrder) (dirs : DataDirs) : Prop :=
  ∃ place ∈ order.places, ∀ name ∈ databaseFiles,
    dirs.merged order name = dirs.filesAt place name

def StateSafe (order : PlaceOrder) (dirs : DataDirs) : Prop :=
  dirs.missesStateFile = true →
    ∀ content, dirs.firstHolding order "state.json" = some content → content = initialState

def NothingToLose (order : PlaceOrder) (dirs : DataDirs) : Prop :=
  ∀ source, .legacy source ∈ order.places → ∀ name ∈ migratableDataFiles,
    dirs.files name = none → ∀ content, dirs.legacy source name = some content →
      content = [] ∧ name ≠ "state.json"

/-! Runs -/

section Running

variable {order : PlaceOrder} {dirs : DataDirs} {outcomes : MigrationAction → ActionOutcomes}
  {name : String}

theorem firstHolding_congr {other : DataDirs} (same : other.legacy = dirs.legacy)
    (order : PlaceOrder) (name : String)
    : other.firstHolding order name = dirs.firstHolding order name := by
  unfold firstHolding
  rw [same]

theorem legacy_runMigration (dirs : DataDirs) (places : List MigrationPlace)
    : (dirs.runMigration places outcomes).legacy = dirs.legacy :=
  legacy_applyActions _ dirs

variable {content : List UInt8}

/-- Some legacy directory has what the first one to have it has. -/
theorem mem_of_firstHolding (holds : dirs.firstHolding order name = some content)
    : ∃ source, .legacy source ∈ order.places ∧ dirs.legacy source name = some content := by
  obtain ⟨place, among, has⟩ := List.exists_of_findSome?_eq_some holds
  cases place with
  | canonical => cases has
  | legacy source => exact ⟨source, among, has⟩

theorem firstHolding_of_mem {source : PathBuf} (among : .legacy source ∈ order.places)
    (has : dirs.legacy source name = some content)
    : ∃ first, dirs.firstHolding order name = some first := by
  cases holds : dirs.firstHolding order name with
  | some first => exact ⟨first, rfl⟩
  | none =>
      have nowhere := List.findSome?_eq_none_iff.mp holds (.legacy source) among
      dsimp only at nowhere
      rw [has] at nowhere
      cases nowhere

theorem spares_of_unplanned (places : List MigrationPlace)
    (unplanned : name = "state.json" → dirs.missesStateFile = false)
    : Spares outcomes name (dirs.actions places) := by
  intro action member isInit isState
  rcases mem_actions.mp member with ⟨-, misses, -⟩ | ⟨source, -, -, rfl⟩
  · rw [unplanned isState] at misses
    cases misses
  · cases isInit

theorem unplanned_of_held (held : dirs.files name = some content)
    (isState : name = "state.json") : dirs.missesStateFile = false := by
  unfold missesStateFile
  rw [← isState, held]
  exact Bool.and_false _

theorem runMigration_kept (held : dirs.files name = some content) (places : List MigrationPlace)
    : (dirs.runMigration places outcomes).files name = some content :=
  applyActions_kept (spares_of_unplanned places (unplanned_of_held held)) held

/-- A run without failures fills in each file from the first directory that has it. -/
theorem migrate_missing (migratable : name ∈ migratableDataFiles)
    (missing : dirs.files name = none)
    (unplanned : name = "state.json" → dirs.missesStateFile = false)
    : (dirs.migrate order).files name = dirs.firstHolding order name := by
  have spares : Spares (fun _ => ActionOutcomes.success) name (dirs.actions order.places) :=
    spares_of_unplanned order.places unplanned
  unfold migrate runMigration
  rw [actions_eq] at spares ⊢
  rw [applyActions_missing (fun _ => rfl) (fun _ _ _ => rfl) migratable missing spares rfl
    missing]
  unfold firstHolding
  congr 1
  funext place
  cases place with
  | canonical => rfl
  | legacy source =>
      simp only [leavesFrom]
      cases dirs.legacy source name <;> rfl

theorem migrate_merged (migratable : name ∈ migratableDataFiles)
    (unplanned : name = "state.json" → dirs.missesStateFile = false)
    : (dirs.migrate order).files name = dirs.merged order name := by
  unfold merged
  cases held : dirs.files name with
  | some content => exact runMigration_kept held order.places
  | none => exact migrate_missing migratable held unplanned

/-- Where the state file is missing, a run without failures has it initialized. -/
theorem migrate_initialized (order : PlaceOrder) (misses : dirs.missesStateFile = true)
    : (dirs.migrate order).files "state.json" = some initialState := by
  have planned : dirs.initAction ∈ dirs.actions order.places :=
    mem_actions.mpr (.inl ⟨order.canonical_mem, misses, rfl⟩)
  obtain ⟨before, after, split⟩ := List.append_of_mem planned
  unfold migrate runMigration
  rw [split, applyActions_append, applyActions_cons]
  apply applyActions_initial (fun _ => rfl)
  rw [files_init rfl rfl, write_same]
  rfl

/-- After a run without failures there is nothing to copy. -/
theorem migrate_settled (order : PlaceOrder) (dirs : DataDirs)
    : ∀ action ∈ (dirs.migrate order).actions order.places, action.kind ≠ .copyLegacyState := by
  intro action member isCopy
  rcases mem_actions.mp member with ⟨-, -, rfl⟩ | ⟨source, among, needs, rfl⟩
  · cases isCopy
  · obtain ⟨name, migratable, content, has, missing⟩ := needsMigration_iff.mp needs
    unfold migrate at has
    rw [legacy_runMigration] at has
    obtain ⟨first, holds⟩ := firstHolding_of_mem among has
    have somewhere : dirs.merged order name ≠ none := by
      unfold merged
      rw [holds]
      cases dirs.files name <;> nofun
    by_cases initializes : name = "state.json" ∧ dirs.missesStateFile = true
    · obtain ⟨rfl, misses⟩ := initializes
      rw [migrate_initialized order misses] at missing
      cases missing
    · rw [migrate_merged migratable fun isState =>
        Bool.eq_false_iff.mpr fun misses => initializes ⟨isState, misses⟩] at missing
      exact somewhere missing

theorem migratable_of_database (member : name ∈ databaseFiles)
    : name ∈ migratableDataFiles ∧ name ≠ "state.json" := by
  have both : ∀ name ∈ databaseFiles, name ∈ migratableDataFiles ∧ name ≠ "state.json" := by
    decide
  exact both name member

theorem migrate_database (member : name ∈ databaseFiles)
    : (dirs.migrate order).files name = dirs.merged order name :=
  migrate_merged (migratable_of_database member).1 fun isState =>
    absurd isState (migratable_of_database member).2

theorem files_of_misses (misses : dirs.missesStateFile = true)
    : dirs.files "state.json" = none := by
  unfold missesStateFile at misses
  exact Option.isNone_iff_eq_none.mp (Bool.and_eq_true _ _ ▸ misses).2

/-- One run without failures reaches the state exactly if no state file is lost and one place
has the database.
-/
theorem migrated_migrate_iff (order : PlaceOrder) (dirs : DataDirs)
    : Migrated order dirs (dirs.migrate order)
      ↔ dirs.StateSafe order ∧ dirs.OneDatabase order := by
  constructor
  · intro migrated
    refine ⟨fun misses content holds => ?_, ?_⟩
    · have copied := migrated.complete "state.json" (by decide) (files_of_misses misses) content
        holds
      rw [migrate_initialized order misses] at copied
      exact (Option.some.inj copied).symm
    · obtain ⟨place, among, same⟩ := migrated.together
      refine ⟨place, among, fun name member => ?_⟩
      rw [← migrate_database member]
      exact same name member
  · intro ⟨safe, place, among, same⟩
    refine ⟨?_, fun name content held => runMigration_kept held order.places, ?_,
      migrate_settled order dirs⟩
    · intro name migratable missing content holds
      by_cases initializes : name = "state.json" ∧ dirs.missesStateFile = true
      · obtain ⟨rfl, misses⟩ := initializes
        rw [migrate_initialized order misses, safe misses content holds]
      · rw [← holds]
        exact migrate_missing migratable missing fun isState =>
          Bool.eq_false_iff.mpr fun misses => initializes ⟨isState, misses⟩
    · refine ⟨place, among, fun name member => ?_⟩
      rw [migrate_database member]
      exact same name member

/-! Runs after failed calls -/

/-- The calls to copy a certain file fail without leaving it, but for its copy from one
directory.
-/
def faultsBefore (dirs : DataDirs) (name : String) (source : PathBuf) (outcome : WriteOutcome)
    (action : MigrationAction) : ActionOutcomes where
  createsDir := true
  writes other :=
    if other = name then if action = dirs.copyAction source then outcome else .nothing
    else .whole

/-- Any directory that has a missing file can be the only one whose copy leaves something. -/
theorem files_faultsBefore (migratable : name ∈ migratableDataFiles)
    (missing : dirs.files name = none) {source : PathBuf} (among : .legacy source ∈ order.places)
    (has : dirs.legacy source name = some content) (outcome : WriteOutcome)
    : (dirs.runMigration order.places (dirs.faultsBefore name source outcome)).files name
      = outcome.left content := by
  have spares : Spares (dirs.faultsBefore name source outcome) name
      (dirs.actions order.places) := by
    intro action _ isInit _
    have differs : action ≠ dirs.copyAction source := by
      rintro rfl
      cases isInit
    simp only [faultsBefore, if_true, if_neg differs]
  have only (place : MigrationPlace) (apart : place ≠ .legacy source)
      : dirs.leavesFrom (dirs.faultsBefore name source outcome) name place = none := by
    cases place with
    | canonical => rfl
    | legacy other =>
        have differs : dirs.copyAction other ≠ dirs.copyAction source := fun same =>
          apart (congrArg MigrationPlace.legacy (congrArg MigrationAction.target same))
        simp only [leavesFrom, faultsBefore, if_true, if_neg differs]
        cases dirs.legacy other name <;> rfl
  have own : dirs.leavesFrom (dirs.faultsBefore name source outcome) name (.legacy source)
      = outcome.left content := by
    simp only [leavesFrom, faultsBefore, has, Option.bind_some, if_true]
  unfold runMigration
  rw [actions_eq] at spares ⊢
  rw [applyActions_missing (fun _ => rfl) (fun _ _ apart => if_neg apart) migratable missing
    spares rfl missing]
  cases leaves : outcome.left content with
  | none =>
      refine List.findSome?_eq_none_iff.mpr fun place _ => ?_
      by_cases same : place = .legacy source
      · rw [same, own, leaves]
      · exact only place same
  | some kept =>
      cases found : order.places.findSome?
          (dirs.leavesFrom (dirs.faultsBefore name source outcome) name) with
      | none =>
          have nothing := List.findSome?_eq_none_iff.mp found _ among
          rw [own, leaves] at nothing
          cases nothing
      | some other =>
          obtain ⟨place, -, gives⟩ := List.exists_of_findSome?_eq_some found
          by_cases same : place = .legacy source
          · rw [same, own, leaves] at gives
            exact gives.symm
          · rw [only place same] at gives
            cases gives

/-- Where failed calls can be made up for, there is nothing to lose. -/
theorem Migrates.nothingToLose (migrates : Migrates order dirs) : dirs.NothingToLose order := by
  intro source among name migratable missing content has
  obtain ⟨first, holds⟩ := firstHolding_of_mem among has
  have stays {outcome : WriteOutcome} {kept : List UInt8}
      (leaves : outcome.left content = some kept) : first = kept := by
    have interrupted := files_faultsBefore migratable missing among has outcome
    rw [leaves] at interrupted
    have made := (migrates.afterFaults (dirs.faultsBefore name source outcome)).complete name
      migratable missing first holds
    rw [migrate, runMigration_kept interrupted] at made
    exact (Option.some.inj made).symm
  have whole : first = content := @stays .whole content rfl
  have cut : first = [] := @stays (.cut 0) [] rfl
  refine ⟨whole.symm.trans cut, ?_⟩
  rintro rfl
  -- The copy of the state file fails without leaving it, and the next run initializes it.
  have interrupted := files_faultsBefore migratable missing among has .nothing
  have planned : dirs.copyAction source ∈ dirs.actions order.places :=
    mem_actions.mpr (.inr ⟨source, among,
      needsMigration_iff.mpr ⟨_, migratable, content, has, missing⟩, rfl⟩)
  have created : (dirs.runMigration order.places
      (dirs.faultsBefore "state.json" source .nothing)).canonical.isSome = true := by
    unfold runMigration
    cases actions : dirs.actions order.places with
    | nil =>
        rw [actions] at planned
        cases planned
    | cons action rest =>
        rw [applyActions_cons]
        exact applyActions_exists rest (applyAction_creates rfl action dirs)
  have misses : (dirs.runMigration order.places
      (dirs.faultsBefore "state.json" source .nothing)).missesStateFile = true := by
    unfold missesStateFile
    rw [created, interrupted]
    rfl
  have made := (migrates.afterFaults (dirs.faultsBefore "state.json" source .nothing)).complete
    "state.json" migratable missing first holds
  rw [migrate_initialized order misses, cut] at made
  exact absurd made (by decide +kernel)

/-- Where there is nothing to lose, a run fills in what an interrupted one has not. -/
theorem NothingToLose.migrate_files (nothing : dirs.NothingToLose order)
    (migratable : name ∈ migratableDataFiles) (notState : name ≠ "state.json")
    : ((dirs.runMigration order.places outcomes).migrate order).files name
      = dirs.merged order name := by
  have unplanned (before : DataDirs) (isState : name = "state.json")
      : before.missesStateFile = false := absurd isState notState
  rw [migrate_merged migratable (unplanned _)]
  unfold merged
  rw [firstHolding_congr (dirs.legacy_runMigration order.places) order name]
  cases held : dirs.files name with
  | some content =>
      rw [runMigration_kept held order.places]
  | none =>
      cases reached : (dirs.runMigration order.places outcomes).files name with
      | none => rfl
      | some kept =>
          rcases applyActions_origin (spares_of_unplanned order.places (unplanned dirs)) reached
            with before | ⟨-, action, planned, isCopy, content, has, front⟩
          · rw [held] at before
            cases before
          · rcases mem_actions.mp planned with ⟨-, -, rfl⟩ | ⟨source, among, -, rfl⟩
            · cases isCopy
            obtain ⟨rfl, -⟩ := nothing source among name migratable held content has
            obtain ⟨first, holds⟩ := firstHolding_of_mem among has
            obtain ⟨other, amongOther, hasOther⟩ := mem_of_firstHolding holds
            obtain ⟨rfl, -⟩ := nothing other amongOther name migratable held first hasOther
            rw [holds, List.prefix_nil.mp front]
            rfl

end Running

/-- Without failures, a migration does what it is to do exactly if no legacy state file is lost
to a new one and one place has the whole database. That a failure can be made up for as well
takes that there is nothing to lose.
-/
theorem migrates_iff (order : PlaceOrder) (dirs : DataDirs)
    : (Migrated order dirs (dirs.migrate order)
        ↔ dirs.StateSafe order ∧ dirs.OneDatabase order)
      ∧ (Migrates order dirs ↔ dirs.NothingToLose order ∧ dirs.OneDatabase order) := by
  refine ⟨migrated_migrate_iff order dirs, ?_⟩
  constructor
  · intro migrates
    exact ⟨migrates.nothingToLose, ((migrated_migrate_iff order dirs).mp migrates.atOnce).2⟩
  · intro ⟨nothing, together⟩
    have noState {content : List UInt8} (missing : dirs.files "state.json" = none)
        (holds : dirs.firstHolding order "state.json" = some content) : False := by
      obtain ⟨source, among, has⟩ := mem_of_firstHolding holds
      exact (nothing source among _ (by decide) missing content has).2 rfl
    refine ⟨(migrated_migrate_iff order dirs).mpr ⟨fun misses content holds =>
      (noState (files_of_misses misses) holds).elim, together⟩, fun outcomes => ?_⟩
    refine ⟨?_, fun name content held =>
      runMigration_kept (runMigration_kept held order.places) order.places, ?_,
      migrate_settled order _⟩
    · intro name migratable missing content holds
      by_cases isState : name = "state.json"
      · subst isState
        exact (noState missing holds).elim
      · rw [nothing.migrate_files migratable isState]
        unfold merged
        rw [missing]
        exact holds
    · obtain ⟨place, among, same⟩ := together
      refine ⟨place, among, fun name member => ?_⟩
      obtain ⟨migratable, notState⟩ := migratable_of_database member
      rw [nothing.migrate_files migratable notState]
      exact same name member

/-- Two legacy directories behind the canonical one, as they are scanned. -/
def homeOrder : PlaceOrder where
  places := [.canonical, .legacy ⟨"/home/user/.sbh"⟩, .legacy ⟨"/usr/local/var/sbh"⟩]
  canonical_mem := List.mem_cons_self

/-- The directories of a user, with at most one file in each legacy one. -/
def homeDirs (canonical : Option DataFiles) (dotSbh varSbh : Option (String × List UInt8))
    : DataDirs where
  dataDir := ⟨"/home/user/.local/share/sbh"⟩
  canonical
  legacy source name :=
    let has := if source = ⟨"/home/user/.sbh"⟩ then dotSbh
      else if source = ⟨"/usr/local/var/sbh"⟩ then varSbh else none
    (has.filter fun file => file.1 = name).map Prod.snd

/-- An existing data directory gets an initial state file in place of the legacy one, a log goes
with the database of another directory, and a copy that was cut off is never completed.
-/
theorem legacy_data_lost
    : ¬ Migrates homeOrder (homeDirs (some fun _ => none) (some ("state.json", [123, 125])) none)
      ∧ ¬ Migrates homeOrder
        (homeDirs none (some ("activity.sqlite3-wal", [2])) (some ("activity.sqlite3", [1])))
      ∧ ¬ Migrates homeOrder (homeDirs none (some ("activity.jsonl", [123, 125])) none) := by
  refine ⟨fun migrates => ?_, fun migrates => ?_, fun migrates => ?_⟩
  · have copied := migrates.atOnce.complete "state.json" (by decide) rfl [123, 125] rfl
    exact absurd copied (by decide +kernel)
  · obtain ⟨place, among, same⟩ := migrates.atOnce.together
    have database := same "activity.sqlite3" (by decide)
    have log := same "activity.sqlite3-wal" (by decide)
    have mixed : ∀ place ∈ homeOrder.places,
        (homeDirs none (some ("activity.sqlite3-wal", [2]))
          (some ("activity.sqlite3", [1]))).filesAt place "activity.sqlite3" = none
        ∨ (homeDirs none (some ("activity.sqlite3-wal", [2]))
          (some ("activity.sqlite3", [1]))).filesAt place "activity.sqlite3-wal" = none := by
      decide +kernel
    rcases mixed place among with noDatabase | noLog
    · rw [noDatabase] at database
      exact absurd database (by decide +kernel)
    · rw [noLog] at log
      exact absurd log (by decide +kernel)
  · have cutOff := migrates.afterFaults fun _ => ⟨true, fun _ => .cut 1⟩
    have copied := cutOff.complete "activity.jsonl" (by decide) rfl [123, 125] rfl
    exact absurd copied (by decide +kernel)

end DataDirs

end StorageBallast
