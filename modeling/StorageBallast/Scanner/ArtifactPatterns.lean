import StorageBallast.Platform.CleanupCatalog
import StorageBallast.Scanner.DeletionChecks

/-! Classification of directories by name, structure and cleanup catalog, and the verdict on
directory trees that are decided before the walker descends into them.
-/

namespace StorageBallast

variable {F : Type} [Float64 F]

open Float64

/-- Two Rust-specific markers, mostly object files, or a build with dependencies. -/
def StructuralSignals.hasStrongSignal (signals : StructuralSignals) : Bool :=
  let rustMarkers := [signals.hasIncremental, signals.hasDeps, signals.hasFingerprint].count true
  rustMarkers ≥ 2 || signals.mostlyObjectFiles || (signals.hasBuild && signals.hasDeps)

def ArtifactClassification.unknown : ArtifactClassification F :=
  ⟨"unknown", .unknown, 0.0, 0.0, 0.0⟩

namespace OpaqueTreeClassification

def candidate (reason patternName : String) (category : ArtifactCategory) (confidence : F)
    : OpaqueTreeClassification F :=
  ⟨.candidateOpaque, reason, ⟨patternName, category, confidence, 1.0, confidence⟩⟩

def protectedTree (reason : String) : OpaqueTreeClassification F :=
  ⟨.protectedOpaque, reason, .unknown⟩

def signalOnly (reason : String) : OpaqueTreeClassification F :=
  ⟨.signalOnly, reason, .unknown⟩

end OpaqueTreeClassification

/-- Evidence of the parent directory. -/
structure OpaqueTreeContext where
  parentHasCargoToml : Bool
  parentHasNodeManifest : Bool
deriving DecidableEq, Repr

inductive GoCacheKind where
  | build
  | module
deriving DecidableEq, Repr

def isTwoHexChar (name : String) : Bool :=
  name.toList.length == 2
    && name.toList.all fun c => c.isDigit || ('a' ≤ c && c ≤ 'f')

/-- Entries are read in order until a marker of a Go cache is complete. -/
def goCacheAmong (world : FileWorld) (path : PathBuf)
    : List DirEntry → Bool → Bool → Option GoCacheKind
  | [], _, _ => none
  | entry :: rest, hasTrimTxt, hasHexShard =>
      if entry.name = "cache" ∧ world.isDir ((path.join entry.name).join "download") then
        some .module
      else
        let hasTrimTxt := hasTrimTxt || entry.name == "trim.txt"
        let hasHexShard := hasHexShard
          || (isTwoHexChar entry.name && entry.kind == some .directory)
        if hasTrimTxt && hasHexShard then some .build
        else goCacheAmong world path rest hasTrimTxt hasHexShard

def detectGoCache (world : FileWorld) (path : PathBuf) : Option GoCacheKind :=
  goCacheAmong world path ((world.readDir path).getD []) false false

/-- `Path::starts_with`: a path at or below another one, by components. -/
def PathBuf.startsWith (path above : PathBuf) : Bool :=
  above.components.isPrefixOf path.components

def isTmpLikePath (path : PathBuf) : Bool :=
  ["/tmp", "/var/tmp", "/data/tmp", "/private/tmp"].any fun root => path.startsWith ⟨root⟩

def isCargoCacheRoot (path : PathBuf) : Bool :=
  (path.fileName == some "registry" || path.fileName == some "git")
    && path.parent.any fun parent => parent.fileName == some ".cargo"

def isContextGatedDependencyTreeName (name : String) : Bool :=
  ["vendor", "site-packages", ".venv", "venv", "env", ".pnpm-store", ".yarn",
    ".cargo"].contains name

def bareRchTargets : List String := [".rch-target", ".rch_target", "rch-target", "rch_target"]

def rchTargetStarts : List String :=
  ["rch_target_", ".rch_target_", "rch-target-", ".rch-target-"]

def isAgentBuildTargetName (name : String) : Bool :=
  rchTargetStarts.any (Texts.startsWith name) || bareRchTargets.contains name

def isCargoTargetName (name : String) : Bool :=
  name == "target"
    || [".target", "_target_", "target-", "target_", "cargo-target-"].any
      (Texts.startsWith name)
    || Texts.endsWith name "-target" || Texts.endsWith name "_target"
    || isAgentBuildTargetName name

/-- The verdict on a directory before descending into it. -/
def classifyOpaqueTree (world : FileWorld) (path : PathBuf) (context : OpaqueTreeContext)
    : Option (OpaqueTreeClassification F) := do
  let name := Texts.toAsciiLowercase (← path.fileName)
  let goCache :=
    if Texts.contains name "go" || Texts.contains name "mod" then detectGoCache world path
    else none
  let tmpLike := isTmpLikePath path
  if name = ".git" then
    some (.protectedTree "git metadata is always protected opaque")
  else if goCache = some .build then
    some (.candidate "go build cache (GOCACHE) root: regenerable, toolchain-readonly"
      "opaque-go-build-cache" .goCache 0.93)
  else if goCache = some .module then
    some (.candidate "go module cache (GOMODCACHE) root: regenerable, toolchain-readonly"
      "opaque-go-mod-cache" .goCache 0.93)
  else if isContextGatedDependencyTreeName name then
    some (.signalOnly "dependency tree requires stronger context before opaque cleanup")
  else if isCargoTargetName name then
    if (name == "target" && context.parentHasCargoToml) || tmpLike
        || isAgentBuildTargetName name || hasDescriptiveTargetSuffix name then
      some (.candidate "cargo/build target with regenerable context" "opaque-cargo-target"
        .rustTarget 0.93)
    else some (.signalOnly "target-like directory lacks cargo/temp context")
  else if name = "node_modules" then
    if context.parentHasNodeManifest || tmpLike then
      some (.candidate "node_modules with package manifest or temp context"
        "opaque-node-modules" .nodeModules 0.94)
    else some (.signalOnly "node_modules lacks package/temp context")
  else if isCargoCacheRoot path then
    some (.candidate "cargo registry/cache root" "opaque-cargo-cache" .cacheDir 0.92)
  else if [".next", "dist", "build"].contains name
      && (context.parentHasNodeManifest || tmpLike) then
    some (.candidate "build output with project/temp context" "opaque-build-output"
      .buildOutput 0.88)
  else none

inductive MatchKind where
  | exact (token : String)
  | prefixed (token : String)
  | suffixed (token : String)
  | containing (token : String)
deriving DecidableEq, Repr

def matchesBuiltin (normalized : String) : MatchKind → Bool
  | .exact token => normalized == token
  | .prefixed token => Texts.startsWith normalized token
  | .suffixed token => Texts.endsWith normalized token
  | .containing token => Texts.contains normalized token

structure ArtifactPattern (F : Type) where
  name : String
  kind : MatchKind
  confidence : F
  category : ArtifactCategory

structure CustomPattern (F : Type) where
  name : String
  needle : String
  confidence : F
  category : ArtifactCategory

def builtinPatterns : List (ArtifactPattern F) :=
  [⟨"cargo-target", .exact "target", 0.70, .rustTarget⟩,
    ⟨"dot-target-prefix", .prefixed ".target", 0.92, .rustTarget⟩,
    ⟨"underscore-target-prefix", .prefixed "_target_", 0.88, .rustTarget⟩,
    ⟨"cargo-target-prefix", .prefixed "cargo-target-", 0.94, .rustTarget⟩,
    ⟨"target-prefix", .prefixed "target-", 0.82, .rustTarget⟩,
    ⟨"target-underscore-prefix", .prefixed "target_", 0.82, .rustTarget⟩,
    ⟨"target-suffix", .suffixed "-target", 0.88, .rustTarget⟩,
    ⟨"tmp-target-prefix", .prefixed ".tmp_target", 0.90, .rustTarget⟩,
    ⟨"tmp-cargo-home", .prefixed ".tmp_cargo_home_", 0.90, .tempDir⟩,
    ⟨"tmp-codex", .prefixed ".tmp-codex-", 0.86, .agentWorkspace⟩,
    ⟨"tmp-pijs", .prefixed ".tmp-pijs-", 0.86, .agentWorkspace⟩,
    ⟨"tmp-ext", .prefixed ".tmp-ext-", 0.82, .agentWorkspace⟩,
    ⟨"pi-agent", .prefixed "pi_agent_", 0.85, .agentWorkspace⟩,
    ⟨"pi-target", .prefixed "pi_target_", 0.85, .rustTarget⟩,
    ⟨"pi-opus", .prefixed "pi_opus_", 0.84, .agentWorkspace⟩,
    ⟨"br-build", .prefixed "br-build", 0.82, .rustTarget⟩,
    ⟨"frankenterm-prefix", .prefixed "frankenterm-", 0.90, .agentWorkspace⟩,
    ⟨"cargo-home-prefix", .prefixed "cargo-home-", 0.88, .tempDir⟩,
    ⟨"rch-cargo-home", .prefixed "rch-cargo-home-", 0.92, .tempDir⟩,
    ⟨"dot-cargo-prefix", .prefixed ".cargo_", 0.86, .cacheDir⟩,
    ⟨"agent-ft-suffix", .suffixed "-ft", 0.65, .agentWorkspace⟩,
    ⟨"cass-target", .prefixed "cass-target", 0.94, .rustTarget⟩,
    ⟨"node-modules", .exact "node_modules", 0.97, .nodeModules⟩,
    ⟨"next-build", .exact ".next", 0.90, .buildOutput⟩,
    ⟨"python-pycache", .exact "__pycache__", 0.96, .pythonCache⟩,
    ⟨"python-venv", .exact ".venv", 0.85, .pythonCache⟩,
    ⟨"pytest-cache", .exact ".pytest_cache", 0.84, .pythonCache⟩,
    ⟨"generic-cache-prefix-hyphen", .prefixed "cache-", 0.45, .cacheDir⟩,
    ⟨"generic-cache-prefix-underscore", .prefixed "cache_", 0.45, .cacheDir⟩,
    ⟨"generic-cache-exact", .exact "cache", 0.45, .cacheDir⟩,
    ⟨"dot-cache", .prefixed ".cache", 0.62, .cacheDir⟩,
    ⟨"generic-tmp-prefix-hyphen", .prefixed "tmp-", 0.45, .tempDir⟩,
    ⟨"generic-tmp-prefix-underscore", .prefixed "tmp_", 0.45, .tempDir⟩,
    ⟨"generic-tmp-exact", .exact "tmp", 0.45, .tempDir⟩,
    ⟨"dot-tmp", .prefixed ".tmp", 0.60, .tempDir⟩,
    ⟨"rch-target-underscore", .prefixed "rch_target_", 0.92, .rustTarget⟩,
    ⟨"rch-target-dot", .prefixed ".rch_target_", 0.92, .rustTarget⟩,
    ⟨"rch-target-hyphen", .prefixed "rch-target-", 0.92, .rustTarget⟩,
    ⟨"dot-rch-target-hyphen", .prefixed ".rch-target-", 0.92, .rustTarget⟩,
    ⟨"rch-target-bare-dot", .exact ".rch-target", 0.95, .rustTarget⟩,
    ⟨"rch-target-bare-dot-underscore", .exact ".rch_target", 0.94, .rustTarget⟩,
    ⟨"rch-target-bare-hyphen", .exact "rch-target", 0.93, .rustTarget⟩,
    ⟨"rch-target-bare-underscore", .exact "rch_target", 0.93, .rustTarget⟩,
    ⟨"target-codex", .prefixed "target_codex", 0.88, .rustTarget⟩,
    ⟨"claude-session-cache", .prefixed "claude-", 0.88, .cacheDir⟩,
    ⟨"cass-prefix-underscore", .prefixed "cass_", 0.86, .agentWorkspace⟩,
    ⟨"cass-prefix-hyphen", .prefixed "cass-", 0.86, .agentWorkspace⟩,
    ⟨"underscore-target-suffix", .suffixed "_target", 0.92, .rustTarget⟩,
    ⟨"frankentui-prefix-hyphen", .prefixed "frankentui-", 0.90, .agentWorkspace⟩,
    ⟨"frankentui-prefix-underscore", .prefixed "frankentui_", 0.90, .agentWorkspace⟩]

structure ArtifactPatternRegistry (F : Type) where
  builtins : List (ArtifactPattern F)
  custom : List (CustomPattern F)

namespace ArtifactPatternRegistry

def default : ArtifactPatternRegistry F := ⟨builtinPatterns, []⟩

def withCustom (self : ArtifactPatternRegistry F) (custom : List (CustomPattern F))
    : ArtifactPatternRegistry F :=
  { self with custom }

end ArtifactPatternRegistry

def cleanupRuleNameConfidence (rule : CleanupRule) : F :=
  match rule.confidence with
  | .definite => 0.96
  | .likely => 0.92
  | .unclear => 0.56
  | .reportOnly | .sacred => 0.0

def cleanupRuleCategory (rule : CleanupRule) : ArtifactCategory :=
  let name := rule.name
  if Texts.contains name "target" then .rustTarget
  else if Texts.startsWith name "electron" || Texts.contains name "cache"
      || Texts.contains name "logs" || Texts.contains name "ipsw" then .cacheDir
  else if Texts.contains name "derived-data" || Texts.contains name "buildroot" then
    .buildOutput
  else if rule.reclaimCommand = .promptBeforeRemove then .tempDir
  else .unknown

/-- The platform the program runs on: its cleanup rules and the home directory set in its
environment.
-/
structure PlatformContext where
  cleanupRules : List CleanupRule
  home : Option String

def cleanupCatalogPathClassification (platform : PlatformContext) (path : PathBuf)
    : Option (ArtifactClassification F) :=
  (matchScanVisibleRule ⟨none, platform.home⟩ path platform.cleanupRules).map fun rule =>
    let confidence := cleanupRuleNameConfidence rule
    ⟨rule.scannerLabel, cleanupRuleCategory rule, confidence, 0.0, confidence⟩

def structuralScore (category : ArtifactCategory) (signals : StructuralSignals) : F :=
  if signals.hasGit then 0.0
  else
    match category with
    | .rustTarget =>
        if signals.hasFingerprint then 0.98
        else if signals.hasIncremental && signals.hasDeps then 0.92
        else if signals.hasBuild && signals.hasDeps then 0.85
        else if signals.hasCargoToml then 0.05
        else if signals.mostlyObjectFiles then 0.90
        else 0.40
    | .nodeModules => 0.80
    | .pythonCache => 0.75
    | .buildOutput | .cacheDir | .tempDir => if signals.mostlyObjectFiles then 0.80 else 0.40
    | .goCache => 0.90
    | .agentWorkspace => 0.78
    | .unknown =>
        if signals.hasFingerprint || (signals.hasIncremental && signals.hasDeps) then 0.75
        else 0.0

def preferMatch (name : String) (category : ArtifactCategory) (confidence : F)
    (best : ArtifactClassification F) : ArtifactClassification F :=
  if Float64.gt confidence best.nameConfidence then ⟨name, category, confidence, 0.0, confidence⟩
  else best

/-- An unknown name over the layout of a Cargo build directory. -/
def structuralRescue (signals : StructuralSignals) (best : ArtifactClassification F)
    : ArtifactClassification F :=
  if best.category = .unknown
      ∧ (signals.hasFingerprint || (signals.hasIncremental && signals.hasDeps)) then
    let markerCount :=
      [signals.hasFingerprint, signals.hasIncremental, signals.hasDeps, signals.hasBuild].count
        true
    let confidence := if markerCount ≥ 3 then 0.75 else 0.55
    ⟨"structural-rust-target", .rustTarget, confidence, 0.0, confidence⟩
  else best

def ArtifactPatternRegistry.bestMatch (self : ArtifactPatternRegistry F)
    (platform : PlatformContext) (path : PathBuf) (normalized : String)
    : ArtifactClassification F :=
  match cleanupCatalogPathClassification platform path with
  | some classification => classification
  | none =>
      let builtin := self.builtins.foldl
        (fun best pattern =>
          if matchesBuiltin normalized pattern.kind then
            preferMatch pattern.name pattern.category pattern.confidence best
          else best)
        .unknown
      self.custom.foldl
        (fun best pattern =>
          if Texts.contains normalized (Texts.toLowercase pattern.needle) then
            preferMatch pattern.name pattern.category pattern.confidence best
          else best)
        builtin

def ArtifactPatternRegistry.classify (self : ArtifactPatternRegistry F)
    (platform : PlatformContext) (path : PathBuf) (signals : StructuralSignals)
    : ArtifactClassification F :=
  match path.fileName with
  | none => .unknown
  | some name =>
      let best := structuralRescue signals
        (self.bestMatch platform path (Texts.toLowercase name))
      let structural := structuralScore best.category signals
      let combined :=
        clamp (mulAdd 0.70 best.nameConfidence (0.30 * structural)) 0.0 1.0
      { best with
        structuralConfidence := structural
        combinedConfidence := if Float64.lt structural 0.1 then combined * 0.1 else combined }

end StorageBallast
