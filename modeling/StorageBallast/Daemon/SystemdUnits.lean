import StorageBallast.Foundations.Paths
import StorageBallast.Foundations.UnitFiles

/-! The unit that the service is installed with, and what systemd reads from it. -/

namespace StorageBallast

open Texts UnitFiles

structure SystemdConfig where
  userScope : Bool
  binaryPath : PathBuf
  readWritePaths : List PathBuf

namespace SystemdConfig

def quotedPath (path : PathBuf) : List Char :=
  let s := path.text.toList
  if s.contains ' ' || s.contains '"' then
    '"' :: (s.flatMap fun c => if c = '"' then ['\\', '"'] else [c]) ++ ['"']
  else s

def openingLines (userScope : Bool) : List (List Char) :=
  ["[Unit]".toList,
    "Description=Storage Ballast Helper - Disk Space Guardian".toList,
    "Documentation=https://github.com/Dicklesworthstone/storage_ballast_helper".toList,
    "After=local-fs.target".toList,
    "Wants=local-fs.target".toList,
    [],
    "[Service]".toList]
  ++ if userScope then ["Type=simple".toList] else ["Type=notify".toList, "WatchdogSec=60".toList]

def runtimeLines (userScope : Bool) : List (List Char) :=
  ["ExecReload=/bin/kill -HUP $MAINPID".toList,
    "Restart=on-failure".toList,
    "RestartSec=10".toList,
    "TimeoutStopSec=30".toList,
    [],
    "# Low priority - never compete with build workloads".toList,
    "Nice=19".toList,
    "IOSchedulingClass=idle".toList,
    "IOSchedulingPriority=7".toList,
    [],
    "# Security hardening".toList,
    "NoNewPrivileges=true".toList]
  ++ if userScope then [] else ["ProtectSystem=strict".toList]

def closingLines (userScope : Bool) : List (List Char) :=
  (if userScope then []
    else
      ["ProtectHome=false".toList,
        "PrivateTmp=false".toList,
        "ProtectKernelTunables=true".toList,
        "ProtectControlGroups=true".toList,
        "RestrictSUIDSGID=true".toList,
        "LimitNOFILE=4096".toList])
  ++ [[],
    "# Resource limits".toList,
    "MemoryMax=256M".toList,
    "CPUQuota=10%".toList,
    []]
  ++ (if userScope then []
    else
      ["# Logging".toList,
        "StandardOutput=journal".toList,
        "StandardError=journal".toList,
        "SyslogIdentifier=sbh".toList,
        []])
  ++ ["[Install]".toList,
    if userScope then "WantedBy=default.target".toList
    else "WantedBy=multi-user.target".toList]

variable (self : SystemdConfig)

def execStart : List Char := self.binaryPath.text.toList ++ " daemon".toList

def rwPaths : List Char := [' '].intercalate (self.readWritePaths.map quotedPath)

def unitLines : List (List Char) :=
  openingLines self.userScope
  ++ ("ExecStart=".toList ++ self.execStart) :: runtimeLines self.userScope
  ++ (if self.userScope then [] else ["ReadWritePaths=".toList ++ self.rwPaths])
  ++ closingLines self.userScope

def generateUnitFile : String := String.ofList (self.unitLines.flatMap (· ++ ['\n']))

end SystemdConfig

inductive UnitSetting where
  | plain (assignment : Assignment)
  | command (words : List (List Char))
  | readWrite (paths : List (List Char))
deriving DecidableEq

def readSetting (host : Host) (assignment : Assignment) : Option UnitSetting :=
  if assignment.key = "ExecStart" then
    (readCommand host assignment.value.toList).map .command
  else if assignment.key = "ReadWritePaths" then
    (readPaths host assignment.value.toList).map .readWrite
  else some (.plain assignment)

def unitSettings (host : Host) (unit : String) : Option (List UnitSetting) :=
  (readUnit unit.toList).bind fun assignments => assignments.mapM (readSetting host)

def UnitSetting.listed : UnitSetting → List (List Char)
  | .readWrite paths => paths
  | _ => []

namespace SystemdConfig

def openingSettings (userScope : Bool) : List Assignment :=
  [⟨"Unit", "Description", "Storage Ballast Helper - Disk Space Guardian"⟩,
    ⟨"Unit", "Documentation", "https://github.com/Dicklesworthstone/storage_ballast_helper"⟩,
    ⟨"Unit", "After", "local-fs.target"⟩,
    ⟨"Unit", "Wants", "local-fs.target"⟩]
  ++ if userScope then [⟨"Service", "Type", "simple"⟩]
    else [⟨"Service", "Type", "notify"⟩, ⟨"Service", "WatchdogSec", "60"⟩]

def runtimeSettings (userScope : Bool) : List Assignment :=
  [⟨"Service", "ExecReload", "/bin/kill -HUP $MAINPID"⟩,
    ⟨"Service", "Restart", "on-failure"⟩,
    ⟨"Service", "RestartSec", "10"⟩,
    ⟨"Service", "TimeoutStopSec", "30"⟩,
    ⟨"Service", "Nice", "19"⟩,
    ⟨"Service", "IOSchedulingClass", "idle"⟩,
    ⟨"Service", "IOSchedulingPriority", "7"⟩,
    ⟨"Service", "NoNewPrivileges", "true"⟩]
  ++ if userScope then [] else [⟨"Service", "ProtectSystem", "strict"⟩]

def closingSettings (userScope : Bool) : List Assignment :=
  (if userScope then []
    else
      [⟨"Service", "ProtectHome", "false"⟩,
        ⟨"Service", "PrivateTmp", "false"⟩,
        ⟨"Service", "ProtectKernelTunables", "true"⟩,
        ⟨"Service", "ProtectControlGroups", "true"⟩,
        ⟨"Service", "RestrictSUIDSGID", "true"⟩,
        ⟨"Service", "LimitNOFILE", "4096"⟩])
  ++ [⟨"Service", "MemoryMax", "256M"⟩, ⟨"Service", "CPUQuota", "10%"⟩]
  ++ (if userScope then []
    else
      [⟨"Service", "StandardOutput", "journal"⟩,
        ⟨"Service", "StandardError", "journal"⟩,
        ⟨"Service", "SyslogIdentifier", "sbh"⟩])
  ++ [⟨"Install", "WantedBy", if userScope then "default.target" else "multi-user.target"⟩]

variable (self : SystemdConfig)

def templateSettings : List UnitSetting :=
  (openingSettings self.userScope).map .plain
  ++ .command [self.binaryPath.text.toList, "daemon".toList]
    :: (runtimeSettings self.userScope).map .plain
  ++ (if self.userScope then [] else [.readWrite (self.readWritePaths.map (·.text.toList))])
  ++ (closingSettings self.userScope).map .plain

def Denoted (host : Host) : Prop :=
  unitSettings host self.generateUnitFile = some self.templateSettings
  ∧ self.templateSettings.flatMap UnitSetting.listed = self.readWritePaths.map (·.text.toList)

theorem readLines_opening : ∀ userScope : Bool, readLines "" [] (openingLines userScope)
    = some ("Service", openingSettings userScope) := by
  decide +kernel

theorem readLines_runtime : ∀ userScope : Bool, readLines "Service" [] (runtimeLines userScope)
    = some ("Service", runtimeSettings userScope) := by
  decide +kernel

theorem readLines_closing : ∀ userScope : Bool,
    readLines "Service" [] (closingLines userScope ++ [[]])
    = some ("Install", closingSettings userScope) := by
  decide +kernel

theorem fixedLines_whole : ∀ userScope : Bool,
    (openingLines userScope ++ runtimeLines userScope ++ closingLines userScope).all isWhole
      = true := by
  decide +kernel

theorem fixedSettings_plain : ∀ userScope : Bool,
    ∀ assignment ∈ openingSettings userScope ++ runtimeSettings userScope
        ++ closingSettings userScope,
      assignment.key ≠ "ExecStart" ∧ assignment.key ≠ "ReadWritePaths" := by
  decide +kernel

/-- Settings that are not lists of words are read as they stand. -/
theorem mapM_readSetting {host : Host} {assignments : List Assignment}
    (plain : ∀ assignment ∈ assignments,
      assignment.key ≠ "ExecStart" ∧ assignment.key ≠ "ReadWritePaths")
    : assignments.mapM (readSetting host) = some (assignments.map .plain) := by
  refine mapM_eq_map fun assignment member => ?_
  rw [readSetting, if_neg (plain assignment member).1, if_neg (plain assignment member).2]

structure ListablePath (path : PathBuf) : Prop where
  absolute : path.isAbsolute = true
  whole : isWhole path.text.toList = true
  unescaped : '\\' ∉ path.text.toList ∧ '%' ∉ path.text.toList
  unquoted : ' ' ∈ path.text.toList ∨ '"' ∈ path.text.toList
    ∨ '\'' ∉ path.text.toList ∧ '\t' ∉ path.text.toList

variable {path : PathBuf}

theorem eq_slash_cons (absolute : path.isAbsolute = true)
    : ∃ rest, path.text.toList = '/' :: rest := by
  unfold PathBuf.isAbsolute at absolute
  cases chars : path.text.toList with
  | nil => simp [chars] at absolute
  | cons c rest =>
      rw [chars, List.head?_cons, beq_iff_eq, Option.some.injEq] at absolute
      exact ⟨rest, by rw [absolute]⟩

theorem ListablePath.quotedPath_cases (listable : ListablePath path)
    : (quotedPath path
        = '"' :: (path.text.toList.flatMap fun c => if c = '"' then ['\\', '"'] else [c]) ++ ['"'])
      ∨ quotedPath path = path.text.toList ∧ ∀ c ∈ path.text.toList, isPlain c = true := by
  unfold quotedPath
  dsimp only
  split
  · exact .inl rfl
  · rename_i unquoted
    simp only [List.contains_iff_mem, Bool.or_eq_true, not_or] at unquoted
    have bare := (listable.unquoted.resolve_left unquoted.1).resolve_left unquoted.2
    refine .inr ⟨rfl, fun c member => ?_⟩
    have whole := List.all_eq_true.mp listable.whole c member
    have other {d : Char} (absent : d ∉ path.text.toList) : c ≠ d :=
      fun same => absent (same ▸ member)
    simp [isPlain, isSeparator, isQuote, (Bool.not_eq_true' _).mp whole, other listable.unescaped.1,
      other unquoted.1, other unquoted.2, other bare.1, other bare.2]

theorem ListablePath.scanWords_quotedPath (listable : ListablePath path) (tail : List Char)
    (words : List (List Char)) (ends : EndsWord tail words)
    : scanWords .between 0 (quotedPath path ++ tail) = some (path.text.toList :: words) := by
  rcases listable.quotedPath_cases with quoted | ⟨bare, plain⟩
  · rw [quoted, List.append_assoc]
    exact scanWords_quoted listable.unescaped.1 ends
  · obtain ⟨rest, chars⟩ := eq_slash_cons listable.absolute
    rw [bare]
    exact scanWords_word (by simp [chars]) plain ends

theorem ListablePath.quotedPath_first (listable : ListablePath path)
    : ∃ c rest, quotedPath path = c :: rest ∧ isSeparator c = false := by
  rcases listable.quotedPath_cases with quoted | ⟨bare, -⟩
  · exact ⟨_, _, quoted, rfl⟩
  · obtain ⟨rest, chars⟩ := eq_slash_cons listable.absolute
    exact ⟨'/', rest, bare.trans chars, rfl⟩

theorem ListablePath.quotedPath_last (listable : ListablePath path)
    : ∃ rest c, quotedPath path = rest ++ [c] ∧ isSeparator c = false ∧ c ≠ '\\' := by
  rcases listable.quotedPath_cases with quoted | ⟨bare, plain⟩
  · exact ⟨_, _, quoted, rfl, by decide⟩
  · obtain ⟨rest, chars⟩ := eq_slash_cons listable.absolute
    have some_ : path.text.toList ≠ [] := by simp [chars]
    have last := plain _ (List.getLast_mem some_)
    simp only [isPlain, Bool.and_eq_true, Bool.not_eq_true', bne_iff_ne] at last
    exact ⟨_, _, bare.trans (List.dropLast_append_getLast some_).symm, last.1.1, last.2⟩

theorem ListablePath.quotedPath_whole (listable : ListablePath path)
    : isWhole (quotedPath path) = true := by
  rcases listable.quotedPath_cases with quoted | ⟨bare, -⟩
  · rw [quoted]
    simp only [isWhole, List.cons_append, List.all_cons, List.all_append, List.all_flatMap]
    have inside : (path.text.toList.all fun c =>
        (if c = '"' then ['\\', '"'] else [c]).all fun c => ! isLineEnd c) = true := by
      rw [List.all_eq_true]
      intro c member
      have whole := List.all_eq_true.mp listable.whole c member
      split
      · rfl
      · simpa using whole
    rw [inside]
    rfl
  · exact bare ▸ listable.whole

/-- What a command and a list of paths have to be made of for the unit to say them. -/
structure Sayable (config : SystemdConfig) : Prop where
  absolute : config.binaryPath.isAbsolute = true
  plain : config.binaryPath.text.toList.all isPlain = true
  unspecified : '%' ∉ config.binaryPath.text.toList
  undoubled : ¬ ['$', '$'] <:+: config.binaryPath.text.toList
  unnamed : ¬ ['$', '\x7b'] <:+: config.binaryPath.text.toList
  paths : ∀ path ∈ config.readWritePaths, ListablePath path

variable {config : SystemdConfig}

theorem Sayable.readPaths_rwPaths (sayable : config.Sayable) (host : Host)
    : readPaths host config.rwPaths = some (config.readWritePaths.map (·.text.toList)) := by
  have scanned := scanWords_intercalate
    (config.readWritePaths.map fun path => (quotedPath path, path.text.toList))
    (by simpa using fun path listed => (sayable.paths path listed).scanWords_quotedPath)
  rw [List.map_map, List.map_map] at scanned
  refine (congrArg (·.bind fun words => words.mapM (expandSpecifiers host)) scanned).trans ?_
  apply mapM_expandSpecifiers
  intro word member
  obtain ⟨path, listed, rfl⟩ := List.mem_map.mp member
  exact (sayable.paths path listed).unescaped.2

theorem Sayable.readCommand_execStart (sayable : config.Sayable) (host : Host)
    : readCommand host config.execStart
      = some [config.binaryPath.text.toList, "daemon".toList] := by
  obtain ⟨rest, chars⟩ := eq_slash_cons sayable.absolute
  have scanned : scanWords .between 0 config.execStart
      = some [config.binaryPath.text.toList, "daemon".toList] :=
    scanWords_word (by simp [chars]) (List.all_eq_true.mp sayable.plain)
      (.inr ⟨"daemon".toList, rfl, by decide +kernel⟩)
  have expanded : readPaths host config.execStart
      = some [config.binaryPath.text.toList, "daemon".toList] := by
    refine (congrArg (·.bind fun words => words.mapM (expandSpecifiers host)) scanned).trans ?_
    apply mapM_expandSpecifiers
    intro word member
    rcases List.mem_pair.mp member with rfl | rfl
    · exact sayable.unspecified
    · decide +kernel
  have command : expandWord host config.binaryPath.text.toList
      = some [config.binaryPath.text.toList] := by
    have itself := @expandVariables_eq_self host _ sayable.undoubled sayable.unnamed
    rw [chars] at itself ⊢
    exact congrArg (Option.map fun word => [word]) itself
  have argument : expandWord host "daemon".toList = some ["daemon".toList] := rfl
  unfold readCommand
  rw [expanded, Option.bind_eq_bind, Option.bind_some, List.mapM_cons, command, List.mapM_cons,
    argument]
  rfl

theorem Sayable.execStart_line (sayable : config.Sayable) (rest : List (List Char))
    : readLines "Service" [] (("ExecStart=".toList ++ config.execStart) :: rest)
      = (readLines "Service" [] rest).map
          (Prod.map id (⟨"Service", "ExecStart", String.ofList config.execStart⟩ :: ·)) := by
  obtain ⟨letters, chars⟩ := eq_slash_cons sayable.absolute
  refine readLines_assignment 'E' "xecStart".toList config.execStart (by decide +kernel)
    (by decide) ?_ ?_ rest
  · intro c first
    simp only [execStart, chars, List.cons_append, List.head?_cons, Option.mem_some_iff] at first
    rw [← first]
    rfl
  · intro c last
    have ending : config.execStart.getLast? = some 'n' := by
      simp [execStart]
    rw [ending] at last
    cases last
    decide

theorem Sayable.rwPaths_line (sayable : config.Sayable) (rest : List (List Char))
    : readLines "Service" [] (("ReadWritePaths=".toList ++ config.rwPaths) :: rest)
      = (readLines "Service" [] rest).map
          (Prod.map id (⟨"Service", "ReadWritePaths", String.ofList config.rwPaths⟩ :: ·)) := by
  refine readLines_assignment 'R' "eadWritePaths".toList config.rwPaths
    (by decide +kernel) (by decide) ?_ ?_ rest
  · apply forall_head?_intercalate
    simpa using fun path listed => (sayable.paths path listed).quotedPath_first
  · apply forall_getLast?_intercalate
    simpa using fun path listed => (sayable.paths path listed).quotedPath_last

theorem Sayable.whole (sayable : config.Sayable) : config.unitLines.all isWhole = true := by
  have fixed := fixedLines_whole config.userScope
  have exec : isWhole ("ExecStart=".toList ++ config.execStart) = true := by
    have command : isWhole config.binaryPath.text.toList = true := by
      refine List.all_eq_true.mpr fun c member => ?_
      have plain := List.all_eq_true.mp sayable.plain c member
      simp only [isPlain, isSeparator, Bool.and_eq_true, Bool.not_eq_true', Bool.or_eq_false_iff]
        at plain
      exact (Bool.not_eq_true' _).mpr plain.1.1.2
    unfold isWhole execStart at *
    rw [List.all_append, List.all_append, command]
    decide +kernel
  have listed : isWhole ("ReadWritePaths=".toList ++ config.rwPaths) = true := by
    have paths : isWhole config.rwPaths = true := by
      refine List.all_eq_true.mpr (forall_mem_intercalate rfl ?_)
      simpa using fun path listed =>
        List.all_eq_true.mp (sayable.paths path listed).quotedPath_whole
    unfold isWhole at *
    rw [List.all_append, paths]
    decide +kernel
  rw [List.all_append, List.all_append, Bool.and_eq_true, Bool.and_eq_true] at fixed
  unfold unitLines
  rw [List.all_append, List.all_append, List.all_append, List.all_cons, fixed.1.1, fixed.1.2, exec,
    fixed.2]
  cases config.userScope with
  | true => rfl
  | false =>
      rw [if_neg Bool.false_ne_true, List.all_cons, listed]
      rfl

theorem Sayable.readUnit_generateUnitFile (sayable : config.Sayable)
    : readUnit config.generateUnitFile.toList
      = some (openingSettings config.userScope
        ++ ⟨"Service", "ExecStart", String.ofList config.execStart⟩
          :: runtimeSettings config.userScope
        ++ (if config.userScope then []
          else [⟨"Service", "ReadWritePaths", String.ofList config.rwPaths⟩])
        ++ closingSettings config.userScope) := by
  unfold readUnit generateUnitFile
  rw [String.toList_ofList, splitLines_unlines sayable.whole]
  unfold unitLines
  rw [List.append_assoc, List.append_assoc, List.append_assoc,
    readLines_append (readLines_opening config.userScope), List.cons_append, sayable.execStart_line,
    readLines_append (readLines_runtime config.userScope)]
  have closing := readLines_closing config.userScope
  cases scope : config.userScope with
  | true =>
      rw [scope] at closing
      simp [closing]
  | false =>
      rw [scope] at closing
      have listed := sayable.rwPaths_line (closingLines false ++ [[]])
      rw [closing] at listed
      simp only [Bool.false_eq_true, if_false, List.cons_append, List.nil_append, listed]
      simp

/-- A unit says what it is made from, up to the list of paths, which only the system's has. -/
theorem unit_denotes (sayable : config.Sayable) (host : Host)
    : unitSettings host config.generateUnitFile = some config.templateSettings
      ∧ config.templateSettings.flatMap UnitSetting.listed
        = if config.userScope then [] else config.readWritePaths.map (·.text.toList) := by
  have plain := fixedSettings_plain config.userScope
  rw [List.forall_mem_append, List.forall_mem_append] at plain
  have listedPlain (assignments : List Assignment)
      : (assignments.map UnitSetting.plain).flatMap UnitSetting.listed = [] := by
    simp [List.flatMap_eq_nil_iff, UnitSetting.listed]
  have exec : readSetting host ⟨"Service", "ExecStart", String.ofList config.execStart⟩
      = some (.command [config.binaryPath.text.toList, "daemon".toList]) := by
    rw [readSetting, if_pos rfl, String.toList_ofList, sayable.readCommand_execStart]
    rfl
  have paths : readSetting host ⟨"Service", "ReadWritePaths", String.ofList config.rwPaths⟩
      = some (.readWrite (config.readWritePaths.map (·.text.toList))) := by
    have key : "ReadWritePaths" ≠ "ExecStart" := by decide
    rw [readSetting, if_neg key, if_pos rfl, String.toList_ofList, sayable.readPaths_rwPaths]
    rfl
  have listed : (if config.userScope then []
        else [⟨"Service", "ReadWritePaths", String.ofList config.rwPaths⟩]).mapM (readSetting host)
      = some (if config.userScope then []
        else [.readWrite (config.readWritePaths.map (·.text.toList))]) := by
    split
    · rfl
    · rw [List.mapM_cons, paths]
      rfl
  constructor
  · unfold unitSettings templateSettings
    rw [sayable.readUnit_generateUnitFile, Option.bind_some, List.mapM_append, List.mapM_append,
      List.mapM_append, List.mapM_cons, mapM_readSetting plain.1.1, mapM_readSetting plain.1.2,
      mapM_readSetting plain.2, exec, listed]
    rfl
  · unfold templateSettings
    cases config.userScope <;> simp [listedPlain, UnitSetting.listed]

/-- A system without specifiers and variables of its own. -/
def bareHost : Host := ⟨fun _ => none, fun _ => []⟩

/-- The daemon of the system, which also cleans a directory with a space in its name. -/
def spacedPaths : SystemdConfig :=
  ⟨false, ⟨"/usr/local/bin/sbh"⟩, [⟨"/tmp"⟩, ⟨"/data/old builds"⟩]⟩

theorem unit_denotes_spacedPaths
    : spacedPaths.Sayable
      ∧ unitSettings bareHost spacedPaths.generateUnitFile = some spacedPaths.templateSettings
      ∧ spacedPaths.templateSettings.flatMap UnitSetting.listed
        = ["/tmp".toList, "/data/old builds".toList] := by
  have sayable : spacedPaths.Sayable := {
    absolute := by decide +kernel
    plain := by decide +kernel
    unspecified := by decide +kernel
    undoubled := by decide +kernel
    unnamed := by decide +kernel
    paths := by
      simp only [spacedPaths, List.forall_mem_cons]
      refine ⟨⟨by decide +kernel, by decide +kernel, by decide +kernel, by decide +kernel⟩,
        ⟨by decide +kernel, by decide +kernel, by decide +kernel, by decide +kernel⟩, nofun⟩ }
  obtain ⟨settings, listed⟩ := unit_denotes sayable bareHost
  exact ⟨sayable, settings, listed.trans (by decide +kernel)⟩

/-- The unit of a user has no list of paths, and a command in a directory with a space in its name
is read as two words.
-/
theorem units_not_denoted
    : ¬ (⟨true, ⟨"/usr/local/bin/sbh"⟩, [⟨"/tmp"⟩]⟩ : SystemdConfig).Denoted bareHost
      ∧ ¬ (⟨false, ⟨"/opt/my tools/sbh"⟩, [⟨"/tmp"⟩]⟩ : SystemdConfig).Denoted bareHost := by
  unfold Denoted unitSettings generateUnitFile
  rw [String.toList_ofList, String.toList_ofList]
  constructor
  · rintro ⟨-, listed⟩
    revert listed
    decide +kernel
  · decide +kernel

end SystemdConfig

end StorageBallast
