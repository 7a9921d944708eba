import Mathlib.Data.List.Nodup
import Mathlib.Order.WithBot
import StorageBallast.Foundations.Clock
import StorageBallast.Foundations.Paths
import StorageBallast.Foundations.Texts

/-! Cleanup rules and the matching of paths against their globs. -/

namespace StorageBallast

inductive CleanupConfidence where
  | definite
  | likely
  | unclear
  | reportOnly
  | sacred
deriving DecidableEq, Repr

inductive CheckRequirement where
  | required
  | notRequired
deriving DecidableEq, Repr

inductive ReclaimCommand where
  | removeTree
  | removeMatchingFiles
  | thinLocalSnapshots
  | promptBeforeRemove
  | reportOnly
  | refuse
deriving DecidableEq, Repr

structure CleanupRule where
  name : String
  pathGlob : String
  ageThreshold : Duration
  fdCheck : CheckRequirement
  parentCheck : CheckRequirement
  sacredOverlapsCheck : CheckRequirement
  reclaimCommand : ReclaimCommand
  confidence : CleanupConfidence
deriving DecidableEq, Repr

namespace CleanupRule

def isPathScannerCandidate (rule : CleanupRule) : Bool :=
  match rule.reclaimCommand with
  | .removeTree | .removeMatchingFiles | .promptBeforeRemove => true
  | .thinLocalSnapshots | .reportOnly | .refuse => false

def isReportOnly (rule : CleanupRule) : Bool := rule.reclaimCommand == .reportOnly

def isScanVisibleCandidate (rule : CleanupRule) : Bool :=
  rule.isPathScannerCandidate || rule.isReportOnly

def sharedLabels : List (String × String) :=
  [("user-named-trash", "user-named-trash"),
    ("electron-cache-root", "electron-cache"),
    ("electron-code-cache-root", "electron-code-cache"),
    ("electron-gpu-cache-root", "electron-gpu-cache"),
    ("electron-indexed-db-root", "electron-indexed-db"),
    ("electron-vm-bundles-root", "electron-vm-bundles"),
    ("electron-service-worker-cache-root", "electron-service-worker-cache")]

def scannerLabel (rule : CleanupRule) : String :=
  ((sharedLabels.find? fun label => Texts.startsWith rule.name label.1).map Prod.snd).getD
    rule.name

end CleanupRule

def findRule (rules : List CleanupRule) (name : String) : Option CleanupRule :=
  rules.find? fun rule => rule.name == name || rule.scannerLabel == name

def collapseSlashes : List Char → List Char
  | '/' :: '/' :: rest => collapseSlashes ('/' :: rest)
  | c :: rest => c :: collapseSlashes rest
  | [] => []

def normalizeText (text : String) : String :=
  Texts.toAsciiLowercase (String.ofList (collapseSlashes (Texts.slashed text).toList))

/-- Matching of bytes: `*` and `?` and classes stay within one name, a run of stars acts as
one star, and an unclosed class is a literal bracket.
-/
def globMatchBytes (pattern text : List UInt8) : Bool :=
  match pattern with
  | [] => text.isEmpty
  | 42 :: rest =>
      let rest := rest.dropWhile (· == 42)
      let name := text.takeWhile (· != 47)
      (List.range (name.length + 1)).any fun offset =>
        globMatchBytes rest (text.drop offset)
  | 63 :: rest =>
      match text with
      | [] => false
      | byte :: text => byte != 47 && globMatchBytes rest text
  | 91 :: rest =>
      if rest.contains 93 then
        match text with
        | [] => false
        | byte :: text =>
            byte != 47 && (rest.takeWhile (· != 93)).contains byte
              && globMatchBytes ((rest.dropWhile (· != 93)).drop 1) text
      else
        match text with
        | [] => false
        | byte :: text => byte == 91 && globMatchBytes rest text
  | expected :: rest =>
      match text with
      | [] => false
      | byte :: text => byte == expected && globMatchBytes rest text
termination_by pattern.length
decreasing_by
  · exact Nat.lt_succ_of_le (List.dropWhile_sublist _).length_le
  · exact Nat.lt_succ_self _
  · exact Nat.lt_succ_of_le ((List.drop_sublist _ _).trans (List.dropWhile_sublist _)).length_le
  · exact Nat.lt_succ_self _
  · exact Nat.lt_succ_self _

def globMatch (pattern text : String) : Bool :=
  globMatchBytes (Texts.bytes pattern) (Texts.bytes text)

/-- `/tmp` is also known as `/private/tmp`. -/
def pathAliases (pathText : String) : List String :=
  if pathText = "/tmp" then [pathText, "/private/tmp"]
  else
    match Texts.stripPrefix pathText "/tmp/" with
    | some suffix => [pathText, "/private/tmp/" ++ suffix]
    | none => [pathText]

def stripHomePrefix (pathText home : String) : Option String :=
  if pathText = home then some "" else Texts.stripPrefix pathText (home ++ "/")

/-- Home directories a rule may refer to: one given by the caller, and the environment's. -/
structure Homes where
  explicit : Option PathBuf
  environment : Option String

def Homes.candidates (homes : Homes) : List String :=
  (homes.explicit.map fun home => normalizeText home.text).toList
    ++ (homes.environment.map fun home =>
      Texts.toAsciiLowercase (Texts.slashed home)).toList

/-- The part of a path below a home directory; without a known one, below `/users/NAME` or
`/home/NAME`.
-/
def homeRelativePath (homes : Homes) (pathText : String) : Option String :=
  (homes.candidates.findSome? (stripHomePrefix pathText)).orElse fun _ => do
    let relative ← (Texts.stripPrefix pathText "/users/").orElse fun _ =>
      Texts.stripPrefix pathText "/home/"
    let (_, rest) ← Texts.splitOnce '/' relative.toList
    return String.ofList rest

def pathMatchesGlob (homes : Homes) (path : PathBuf) (pathGlob : String) : Bool :=
  let candidates := pathAliases (normalizeText path.text)
  match Texts.stripPrefix pathGlob "~/" with
  | some homeGlob =>
      (candidates.filterMap (homeRelativePath homes)).any (globMatch (normalizeText homeGlob))
  | none => candidates.any (globMatch (normalizeText pathGlob))

def matchScanVisibleRule (homes : Homes) (path : PathBuf) (rules : List CleanupRule)
    : Option CleanupRule :=
  rules.find? fun rule =>
    rule.isScanVisibleCandidate && pathMatchesGlob homes path rule.pathGlob

end StorageBallast

/-! The cleanup rules of the supported platforms. -/

namespace StorageBallast

/-- A rule whose reclaim checks the parent and overlaps with sacred paths. -/
def cleanupRule (name pathGlob : String) (ageThreshold : Duration)
    (fdCheck : CheckRequirement) (reclaimCommand : ReclaimCommand)
    (confidence : CleanupConfidence) : CleanupRule where
  name
  pathGlob
  ageThreshold
  fdCheck
  parentCheck := .required
  sacredOverlapsCheck := .required
  reclaimCommand
  confidence

def sacredRule (name pathGlob : String) : CleanupRule where
  name
  pathGlob
  ageThreshold := 0
  fdCheck := .notRequired
  parentCheck := .notRequired
  sacredOverlapsCheck := .required
  reclaimCommand := .refuse
  confidence := .sacred

def macCleanupRules : List CleanupRule :=
  [cleanupRule "xcode-derived-data" "~/Library/Developer/Xcode/DerivedData/*"
      (.fromHours 24) .required .removeTree .definite,
    cleanupRule "core-simulator-caches" "~/Library/Developer/CoreSimulator/Caches/*"
      (.fromHours 24) .required .removeTree .definite,
    cleanupRule "electron-cache" "~/Library/Application Support/*/Cache/*"
      (.fromHours 1) .required .removeTree .likely,
    cleanupRule "electron-cache-root" "~/Library/Application Support/*/Cache"
      (.fromHours 1) .required .removeTree .likely,
    cleanupRule "electron-service-worker-cache"
      "~/Library/Application Support/*/Service Worker/CacheStorage/*"
      (.fromHours 1) .required .removeTree .likely,
    cleanupRule "electron-service-worker-cache-root"
      "~/Library/Application Support/*/Service Worker/CacheStorage"
      (.fromHours 1) .required .removeTree .likely,
    cleanupRule "electron-code-cache" "~/Library/Application Support/*/Code Cache/*"
      (.fromHours 1) .required .removeTree .likely,
    cleanupRule "electron-code-cache-root" "~/Library/Application Support/*/Code Cache"
      (.fromHours 1) .required .removeTree .likely,
    cleanupRule "electron-gpu-cache" "~/Library/Application Support/*/GPUCache/*"
      (.fromHours 1) .required .removeTree .likely,
    cleanupRule "electron-gpu-cache-root" "~/Library/Application Support/*/GPUCache"
      (.fromHours 1) .required .removeTree .likely,
    cleanupRule "electron-indexed-db" "~/Library/Application Support/*/IndexedDB/*"
      (.fromHours 1) .required .removeTree .likely,
    cleanupRule "electron-indexed-db-root" "~/Library/Application Support/*/IndexedDB"
      (.fromHours 1) .required .removeTree .likely,
    cleanupRule "electron-vm-bundles" "~/Library/Application Support/*/vm_bundles/*"
      (.fromHours 24) .required .removeTree .likely,
    cleanupRule "electron-vm-bundles-root" "~/Library/Application Support/*/vm_bundles"
      (.fromHours 24) .required .removeTree .likely,
    cleanupRule "tmp-dash-target" "/private/tmp/*-target"
      (.fromHours 24) .required .removeTree .likely,
    cleanupRule "tmp-underscore-target" "/private/tmp/*_target"
      (.fromHours 24) .required .removeTree .likely,
    cleanupRule "tmp-target-underscore-prefix" "/private/tmp/target_*"
      (.fromHours 24) .required .removeTree .likely,
    cleanupRule "user-named-trash-exact" "/private/tmp/trash"
      0 .required .promptBeforeRemove .unclear,
    cleanupRule "user-named-trashed-exact" "/private/tmp/trashed"
      0 .required .promptBeforeRemove .unclear,
    cleanupRule "user-named-trash" "/private/tmp/*-trash-*"
      0 .required .promptBeforeRemove .unclear,
    cleanupRule "release-work-buildroot" "~/release-work/*[-_]buildroot"
      (.fromHours (7 * 24)) .required .removeTree .likely,
    cleanupRule "user-logs" "~/Library/Logs/*"
      (.fromHours (7 * 24)) .required .removeMatchingFiles .likely,
    cleanupRule "ipsw-software-updates" "~/Library/iTunes/iPhone Software Updates/*.ipsw"
      (.fromHours (30 * 24)) .notRequired .removeMatchingFiles .definite,
    cleanupRule "home-trash-report" "~/.Trash/*" 0 .notRequired .reportOnly .reportOnly,
    cleanupRule "icloud-trash-report"
      "~/Library/Mobile Documents/com~apple~CloudDocs/.Trash/*"
      0 .notRequired .reportOnly .reportOnly,
    cleanupRule "time-machine-local-snapshots" "/" 0 .notRequired .thinLocalSnapshots .likely,
    cleanupRule "spotlight-index-report" "/.Spotlight-V100"
      0 .notRequired .reportOnly .reportOnly,
    sacredRule "photos-library-sacred" "~/Pictures/Photos Library.photoslibrary",
    sacredRule "mail-library-sacred" "~/Library/Mail/*",
    sacredRule "messages-library-sacred" "~/Library/Messages/*",
    sacredRule "final-cut-library-sacred" "~/Movies/*.fcpbundle"]

def linuxCleanupRules : List CleanupRule :=
  [cleanupRule "linux-tmp-dash-target" "/tmp/*-target"
      (.fromHours 24) .required .removeTree .likely,
    cleanupRule "linux-tmp-underscore-target" "/tmp/*_target"
      (.fromHours 24) .required .removeTree .likely,
    cleanupRule "linux-data-tmp-dash-target" "/data/tmp/*-target"
      (.fromHours 24) .required .removeTree .likely,
    cleanupRule "linux-data-tmp-underscore-target" "/data/tmp/*_target"
      (.fromHours 24) .required .removeTree .likely,
    cleanupRule "linux-var-tmp-dash-target" "/var/tmp/*-target"
      (.fromHours 24) .required .removeTree .likely,
    cleanupRule "linux-var-tmp-underscore-target" "/var/tmp/*_target"
      (.fromHours 24) .required .removeTree .likely]

end StorageBallast

/-! Cleanup rules under the labels of scan results: a catalog whose labels are unique hands out
a rule under its own label, and every rule holds its paths up to some age.
-/

namespace StorageBallast

namespace CleanupRule

/-- The labels that several rules share are no starts of one another's names. -/
theorem scannerLabel_of_shared {label : String} (shared : label ∈ sharedLabels.map Prod.snd)
    {rule : CleanupRule} (named : rule.name = label)
    : rule.scannerLabel = label := by
  simp only [sharedLabels, List.map_cons, List.map_nil, List.mem_cons, List.not_mem_nil,
    or_false] at shared
  unfold scannerLabel
  rw [named]
  rcases shared with rfl | rfl | rfl | rfl | rfl | rfl | rfl <;> decide

/-- A rule called as another one is labeled has that label itself. -/
theorem scannerLabel_of_name {rule other : CleanupRule}
    (named : other.name = rule.scannerLabel)
    : other.scannerLabel = rule.scannerLabel := by
  cases found : sharedLabels.find? fun label => Texts.startsWith rule.name label.1 with
  | none =>
      have own : rule.scannerLabel = rule.name := by simp [scannerLabel, found]
      rw [own] at named
      simp only [scannerLabel, named]
  | some label =>
      have shared : rule.scannerLabel = label.2 := by simp [scannerLabel, found]
      rw [shared] at named ⊢
      exact scannerLabel_of_shared
        (List.mem_map_of_mem (List.mem_of_find?_eq_some found)) named

def heldUntil (rule : CleanupRule) : WithTop Duration :=
  match rule.reclaimCommand with
  | .reportOnly | .refuse | .thinLocalSnapshots => ⊤
  | .removeTree | .removeMatchingFiles | .promptBeforeRemove => .some rule.ageThreshold

/-- A rule that scans match holds a path if it only reports or refuses, or by age. -/
theorem lt_heldUntil_iff {rule : CleanupRule} (visible : rule.isScanVisibleCandidate = true)
    {age : Duration}
    : WithTop.some age < rule.heldUntil
      ↔ rule.reclaimCommand = .reportOnly ∨ rule.reclaimCommand = .refuse
        ∨ age < rule.ageThreshold := by
  unfold isScanVisibleCandidate isPathScannerCandidate isReportOnly at visible
  unfold heldUntil
  cases command : rule.reclaimCommand <;> simp_all

end CleanupRule

/-- Rules that no two of them have the same label in scan results. -/
structure LabeledCatalog where
  rules : List CleanupRule
  labelsUnique : (rules.map CleanupRule.scannerLabel).Nodup

namespace LabeledCatalog

def ruleFor (catalog : LabeledCatalog) (label : String) : Option CleanupRule :=
  findRule catalog.rules label

def heldUntil (catalog : LabeledCatalog) (label : String) : WithTop Duration :=
  (catalog.ruleFor label).elim (.some 0) CleanupRule.heldUntil

theorem ruleFor_scannerLabel (catalog : LabeledCatalog) {rule : CleanupRule}
    (listed : rule ∈ catalog.rules)
    : catalog.ruleFor rule.scannerLabel = some rule := by
  obtain ⟨found, isFound⟩ : ∃ found, catalog.ruleFor rule.scannerLabel = some found := by
    apply Option.isSome_iff_exists.mp
    simp only [ruleFor, findRule, List.find?_isSome]
    exact ⟨rule, listed, by simp⟩
  have fits := List.find?_some isFound
  have labeled : found.scannerLabel = rule.scannerLabel := by
    rcases Bool.or_eq_true_iff.mp fits with named | labeled
    · exact CleanupRule.scannerLabel_of_name (eq_of_beq named)
    · exact eq_of_beq labeled
  have same := List.inj_on_of_nodup_map catalog.labelsUnique
    (List.mem_of_find?_eq_some isFound) listed labeled
  rw [isFound, same]

theorem heldUntil_scannerLabel (catalog : LabeledCatalog) {rule : CleanupRule}
    (listed : rule ∈ catalog.rules)
    : catalog.heldUntil rule.scannerLabel = rule.heldUntil := by
  rw [heldUntil, ruleFor_scannerLabel catalog listed]
  rfl

end LabeledCatalog

/-- Looking a rule up in one list after another is looking it up in both of them together. -/
theorem findRule_append (rules others : List CleanupRule) (name : String)
    : findRule (rules ++ others) name
      = (findRule rules name).orElse fun _ => findRule others name := by
  unfold findRule
  rw [List.find?_append]
  cases rules.find? fun rule => rule.name == name || rule.scannerLabel == name <;> rfl

theorem matchScanVisibleRule_eq_some {homes : Homes} {path : PathBuf}
    {rules : List CleanupRule} {rule : CleanupRule}
    (matched : matchScanVisibleRule homes path rules = some rule)
    : rule ∈ rules ∧ rule.isScanVisibleCandidate = true := by
  have fits := List.find?_some matched
  rw [Bool.and_eq_true] at fits
  exact ⟨List.mem_of_find?_eq_some matched, fits.1⟩

end StorageBallast
