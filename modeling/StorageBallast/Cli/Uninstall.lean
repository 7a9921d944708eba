import StorageBallast.Cli.ShellProfiles
import StorageBallast.Foundations.Runs

/-! Uninstalling: a plan of removals, some of them after a backup, carried out one after the other.
What a mode keeps, and what was backed up, is to be there at the end.
-/

namespace StorageBallast.Uninstall

open Runs Texts

abbrev FilePath := List String

inductive FileNode where
  | dir
  | file (content : List UInt8)
deriving DecidableEq, Repr

abbrev FileTree := FilePath → Option FileNode

def isFile : Option FileNode → Bool
  | some (.file _) => true
  | _ => false

def put (path : FilePath) (content : List UInt8) (tree : FileTree) : FileTree := fun p =>
  if p = path then some (.file content) else tree p

inductive CleanupMode where
  | conservative
  | keepData
  | keepConfig
  | keepAssets
  | purge
deriving DecidableEq, Repr

inductive RemovalCategory where
  | binary
  | configFile
  | dataDirectory
  | stateFile
  | sqliteDb
  | jsonlLog
  | assetCache
  | systemdUnit
  | launchdPlist
  | shellCompletion
  | shellProfileEntry
deriving DecidableEq, Repr

inductive RemovalError where
  | backupFailed
  | removalFailed
deriving DecidableEq, Repr

/-- An action as it is planned. -/
structure RemovalAction where
  category : RemovalCategory
  path : FilePath
  isDirectory : Bool
  backupFirst : Bool
deriving DecidableEq, Repr

/-- An action as it is reported. -/
structure ExecutedAction extends RemovalAction where
  executed : Bool
  backupPath : Option FilePath
  error : Option RemovalError
deriving DecidableEq, Repr

structure KeptItem where
  category : RemovalCategory
  path : FilePath
deriving DecidableEq, Repr

structure UninstallOptions where
  mode : CleanupMode
  backupDir : Option FilePath
  binaryPath : Option FilePath

/-- What `discover_paths` finds; the files that the configuration names need not exist. -/
structure DiscoveredPaths where
  binaries : List FilePath
  configFile : Option FilePath
  dataDir : Option FilePath
  stateFile : Option FilePath
  sqliteDb : Option FilePath
  jsonlLog : Option FilePath
  assetCache : Option FilePath
  systemdUnits : List FilePath
  launchdPlists : List FilePath
  completions : List FilePath
  profileEntries : List FilePath

section plan

variable (opts : UninstallOptions) (paths : DiscoveredPaths) (tree : FileTree)

def existing (path : Option FilePath) : List FilePath :=
  path.toList.filter fun path => (tree path).isSome

def planned (keeps : List CleanupMode) (category : RemovalCategory) (path : Option FilePath)
    (isDirectory backupFirst : Bool) : List (KeptItem ⊕ RemovalAction) :=
  (existing tree path).map fun path =>
    if opts.mode ∈ keeps then .inl { category, path }
    else .inr { category, path, isDirectory, backupFirst }

def removals (category : RemovalCategory) (backupFirst : Bool) (paths : List FilePath)
    : List (KeptItem ⊕ RemovalAction) :=
  paths.map fun path => .inr { category, path, isDirectory := false, backupFirst }

def planUninstall : List (KeptItem ⊕ RemovalAction) :=
  removals .binary false (paths.binaries.filter fun bin => opts.binaryPath.all (· == bin))
  ++ removals .systemdUnit true paths.systemdUnits
  ++ removals .launchdPlist true paths.launchdPlists
  ++ removals .shellCompletion false paths.completions
  ++ removals .shellProfileEntry true paths.profileEntries
  ++ planned opts tree [.keepConfig, .conservative] .configFile paths.configFile false true
  ++ planned opts tree [.keepData, .conservative] .stateFile paths.stateFile false false
  ++ planned opts tree [.keepData, .conservative] .sqliteDb paths.sqliteDb false true
  ++ planned opts tree [.keepData, .conservative] .jsonlLog paths.jsonlLog false false
  ++ planned opts tree [.keepAssets, .conservative] .assetCache paths.assetCache true false
  ++ if opts.mode = .purge then
      (existing tree paths.dataDir).map fun path =>
        .inr { category := .dataDirectory, path, isDirectory := true, backupFirst := false }
    else []

def keptItems : List KeptItem := (planUninstall opts paths tree).filterMap Sum.getLeft?

def actions : List RemovalAction := (planUninstall opts paths tree).filterMap Sum.getRight?

end plan

/-- What the operating system makes of the calls for one action: what a failing one leaves. -/
structure Attempt where
  second : Nat
  dirCreated : Bool
  copyLeft : Option (Option (List UInt8))
  removalLeft : Option (FilePath → Bool)
  writeLeft : Option (Option (List UInt8))

def createDirAll (dir : FilePath) (tree : FileTree) : Option FileTree :=
  if dir.inits.any fun above => isFile (tree above) then none
  else some fun p => if (tree p).isNone && p.isPrefixOf dir then some .dir else tree p

def backupTarget (path : FilePath) (backupDir : Option FilePath) (second : Nat) : FilePath :=
  backupDir.getD path.dropLast
    ++ [path.getLast?.getD "" ++ ".sbh-uninstall-backup-" ++ toString second]

def withBackupDir (backupDir : Option FilePath) (attempt : Attempt) (tree : FileTree)
    : Option FileTree :=
  match backupDir with
  | none => some tree
  | some dir => if attempt.dirCreated then createDirAll dir tree else none

def createBackup (backupDir : Option FilePath) (attempt : Attempt) (path : FilePath)
    (tree : FileTree) : FileTree × Option FilePath :=
  match withBackupDir backupDir attempt tree with
  | none => (tree, none)
  | some tree =>
      let target := backupTarget path backupDir attempt.second
      match tree path with
      | some (.file content) =>
          if tree target = some .dir then (tree, none)
          else
            match attempt.copyLeft with
            | none => (put target content tree, some target)
            | some none => (tree, none)
            | some (some left) => (put target left tree, none)
      | _ => (tree, none)

def removeFile (attempt : Attempt) (path : FilePath) (tree : FileTree) : FileTree × Bool :=
  match tree path with
  | none => (tree, true)
  | some .dir => (tree, false)
  | some (.file _) =>
      if attempt.removalLeft.isNone then (fun p => if p = path then none else tree p, true)
      else (tree, false)

def removeDirectory (attempt : Attempt) (path : FilePath) (tree : FileTree) : FileTree × Bool :=
  match tree path with
  | none => (tree, true)
  | some (.file _) => (tree, false)
  | some .dir =>
      match attempt.removalLeft with
      | none => (fun p => if path.isPrefixOf p then none else tree p, true)
      | some gone => (fun p => if path.isPrefixOf p && gone p then none else tree p, false)

def withoutSbhLines (contents : String) : String :=
  let filtered := (ShellProfile.lines contents.toList).filter fun line =>
    ! (contains (String.ofList line) "sbh" && contains (String.ofList line) "PATH")
  "\n".intercalate (filtered.map String.ofList) ++ "\n"

def removeProfileSbhLines (attempt : Attempt) (path : FilePath) (tree : FileTree)
    : FileTree × Bool :=
  match tree path with
  | some (.file content) =>
      match String.fromUTF8? ⟨content.toArray⟩ with
      | none => (tree, false)
      | some contents =>
          match attempt.writeLeft with
          | none => (put path (bytes (withoutSbhLines contents)) tree, true)
          | some none => (tree, false)
          | some (some left) => (put path left tree, false)
  | _ => (tree, false)

def carryOut (attempt : Attempt) (action : RemovalAction) (tree : FileTree) : FileTree × Bool :=
  if action.category = .shellProfileEntry then removeProfileSbhLines attempt action.path tree
  else if action.isDirectory then removeDirectory attempt action.path tree
  else removeFile attempt action.path tree

/-- The body of the loop of `execute_uninstall`. -/
def perform (backupDir : Option FilePath) (attempt : Attempt) (action : RemovalAction)
    (tree : FileTree) : FileTree × ExecutedAction :=
  if action.backupFirst && (tree action.path).isSome then
    let (saved, backup) := createBackup backupDir attempt action.path tree
    match backup with
    | none =>
        (saved, { action with
          executed := false, backupPath := none, error := some .backupFailed })
    | some _ => remove backup saved
  else remove none tree
where
  remove (backup : Option FilePath) (tree : FileTree) : FileTree × ExecutedAction :=
    let (left, executed) := carryOut attempt action tree
    (left, { action with
      executed, backupPath := backup, error := if executed then none else some .removalFailed })

structure Progress where
  tree : FileTree
  done : List ExecutedAction
  pending : List RemovalAction
  removedCount : Nat
  failedCount : Nat

def Progress.step (backupDir : Option FilePath) (self : Progress) (attempt : Attempt)
    : Progress :=
  match self.pending with
  | [] => self
  | action :: pending =>
      let (tree, performed) := perform backupDir attempt action self.tree
      { tree
        done := self.done ++ [performed]
        pending
        removedCount := self.removedCount + if performed.executed then 1 else 0
        failedCount := self.failedCount + if performed.executed then 0 else 1 }

def Progress.start (tree : FileTree) (actions : List RemovalAction) : Progress :=
  ⟨tree, [], actions, 0, 0⟩

section effects

variable {backupDir : Option FilePath} {attempt : Attempt} {path p : FilePath} {tree : FileTree}
  {node : FileNode}

/-- Making the directory for the backups only adds directories. -/
theorem withBackupDir_keeps {ready : FileTree}
    (prepared : withBackupDir backupDir attempt tree = some ready)
    : (∀ p node, tree p = some node → ready p = some node)
      ∧ ∀ p content, ready p = some (.file content) → tree p = some (.file content) := by
  unfold withBackupDir createDirAll at prepared
  split at prepared
  · cases prepared
    exact ⟨fun p node => id, fun p content => id⟩
  · split at prepared
    · split at prepared
      · contradiction
      · cases prepared
        refine ⟨fun p node present => by simp [present], fun p content found => ?_⟩
        dsimp only at found
        split at found
        · cases found
        · exact found
    · contradiction

theorem backupTarget_ne (path : FilePath) (backupDir : Option FilePath) (second : Nat)
    : backupTarget path backupDir second ≠ path := by
  intro same
  have last := congrArg List.getLast? same
  rw [backupTarget, List.getLast?_concat] at last
  rw [← last, Option.getD_some] at last
  have sizes := congrArg String.length (Option.some.inj last)
  have longer : ".sbh-uninstall-backup-".length = 22 := rfl
  simp only [String.length_append] at sizes
  omega

/-- Making a backup leaves what is there, other than under the backup's name; if it succeeds, the
backup holds what its original did.
-/
theorem createBackup_spec (backupDir : Option FilePath) (attempt : Attempt) (path : FilePath)
    (tree : FileTree)
    : (∀ p node, tree p = some node → p ≠ backupTarget path backupDir attempt.second
        → (createBackup backupDir attempt path tree).1 p = some node)
      ∧ ∀ backup, (createBackup backupDir attempt path tree).2 = some backup →
          backup = backupTarget path backupDir attempt.second
          ∧ ∃ content, tree path = some (.file content)
            ∧ (createBackup backupDir attempt path tree).1 backup = some (.file content) := by
  unfold createBackup
  cases prepared : withBackupDir backupDir attempt tree with
  | none => exact ⟨fun p node present _ => present, nofun⟩
  | some ready =>
      obtain ⟨keeps, files⟩ := withBackupDir_keeps prepared
      dsimp only
      split
      · rename_i content found
        split
        · exact ⟨fun p node present _ => keeps p node present, nofun⟩
        · split
          · refine ⟨fun p node present apart => ?_, fun backup made => ?_⟩
            · simp [put, apart, keeps p node present]
            · cases made
              exact ⟨rfl, content, files path content found, by simp [put]⟩
          · exact ⟨fun p node present _ => keeps p node present, nofun⟩
          · exact ⟨fun p node present apart => by simp [put, apart, keeps p node present], nofun⟩
      · exact ⟨fun p node present _ => keeps p node present, nofun⟩

theorem carryOut_keeps {action : RemovalAction} (present : tree p = some node)
    (apart : p ≠ action.path)
    (outside : action.isDirectory = true → action.path.isPrefixOf p = true
      → isFile (tree action.path) = true)
    : (carryOut attempt action tree).1 p = some node := by
  unfold carryOut
  split
  · unfold removeProfileSbhLines
    repeat' split
    all_goals simp [put, apart, present]
  · split
    · rename_i directory
      unfold removeDirectory
      split
      · exact present
      · exact present
      · rename_i found
        have low : action.path.isPrefixOf p = false := by
          refine Bool.eq_false_iff.mpr fun above => ?_
          have single := outside directory above
          rw [found] at single
          cases single
        split <;> simp [low, present]
    · unfold removeFile
      repeat' split
      all_goals simp [apart, present]

/-- The paths that an action may change: what it removes, and where it puts the backup. -/
def Touches (backupDir : Option FilePath) (attempt : Attempt) (action : RemovalAction)
    (p : FilePath) : Prop :=
  p = action.path ∨ (action.isDirectory = true ∧ action.path.isPrefixOf p = true)
    ∨ (action.backupFirst = true ∧ p = backupTarget action.path backupDir attempt.second)

variable {action : RemovalAction}

theorem perform_keeps (present : tree p = some node)
    (untouched : ¬ Touches backupDir attempt action p)
    : (perform backupDir attempt action tree).1 p = some node := by
  simp only [Touches, not_or, not_and] at untouched
  obtain ⟨apart, outside, notBackup⟩ := untouched
  unfold perform
  split
  · rename_i wanted
    rw [Bool.and_eq_true] at wanted
    have saved := (createBackup_spec backupDir attempt action.path tree).1 p node present
      (notBackup wanted.1)
    dsimp only
    split
    · exact saved
    · exact carryOut_keeps saved apart fun directory above => absurd above (outside directory)
  · exact carryOut_keeps present apart fun directory above => absurd above (outside directory)

/-- An item to be backed up that was there has its backup, or failed to get one and is left. -/
theorem perform_backedUp (wanted : action.backupFirst = true)
    (present : tree action.path = some node)
    : (∃ content, node = .file content
        ∧ (perform backupDir attempt action tree).2.backupPath
          = some (backupTarget action.path backupDir attempt.second)
        ∧ (perform backupDir attempt action tree).1
            (backupTarget action.path backupDir attempt.second) = some (.file content)
        ∧ (perform backupDir attempt action tree).2.error ≠ some .backupFailed)
      ∨ (perform backupDir attempt action tree).2.error = some .backupFailed
        ∧ (perform backupDir attempt action tree).1 action.path = some node := by
  obtain ⟨keeps, makes⟩ := createBackup_spec backupDir attempt action.path tree
  have apart := backupTarget_ne action.path backupDir attempt.second
  have still := keeps action.path node present (Ne.symm apart)
  unfold perform
  rw [if_pos (by simp [wanted, present])]
  dsimp only
  split
  · exact .inr ⟨rfl, still⟩
  · rename_i backup made
    obtain ⟨rfl, content, found, held⟩ := makes _ made
    rw [present, Option.some.injEq] at found
    refine .inl ⟨content, found, made, ?_, ?_⟩
    · exact carryOut_keeps held apart fun _ _ => by rw [still, found]; rfl
    · unfold perform.remove
      dsimp only
      split <;> simp

/-- An item that nothing was to be backed up of is not reported to have failed that. -/
theorem perform_unfailed (absent : action.backupFirst = false ∨ tree action.path = none)
    : (perform backupDir attempt action tree).2.error ≠ some .backupFailed := by
  unfold perform
  rw [if_neg (by rcases absent with unwanted | gone <;> simp [*])]
  unfold perform.remove
  dsimp only
  split <;> simp

theorem perform_same : (perform backupDir attempt action tree).2.toRemovalAction = action := by
  unfold perform
  split
  · dsimp only
    split <;> rfl
  · rfl

end effects

/-- What an uninstall is to keep in each state: the items of the report's `kept`, the originals of
backups, in place or under their backup's path, the items whose backup failed, and the counts.
-/
structure KeepsPromises (initial : FileTree) (kept : List KeptItem) (planned : Nat)
    (progress : Progress) : Prop where
  kept : ∀ item ∈ kept, ∀ p node, item.path.isPrefixOf p = true → initial p = some node
    → progress.tree p = some node
  backedUp : ∀ action ∈ progress.done, action.backupFirst = true
    → ∀ node, initial action.path = some node → progress.tree action.path = some node
      ∨ ∃ content backup, node = .file content ∧ action.backupPath = some backup
        ∧ progress.tree backup = some (.file content)
  present : ∀ action ∈ progress.done, action.error = some .backupFailed
    → (progress.tree action.path).isSome = true
  counted : progress.pending = [] → progress.removedCount + progress.failedCount = planned

/-- A path where something lies that the report, or an action still to come, relies on. -/
def Progress.ReliesOn (self : Progress) (kept : List KeptItem) (p : FilePath) : Prop :=
  (self.tree p).isSome = true
  ∧ ((∃ item ∈ kept, item.path.isPrefixOf p = true)
    ∨ (∃ action ∈ self.done,
        action.backupPath = some p ∨ action.error = some .backupFailed ∧ action.path = p)
    ∨ ∃ action ∈ self.pending.tail, action.backupFirst = true ∧ action.path = p)

def Progress.Spares (self : Progress) (kept : List KeptItem) (backupDir : Option FilePath)
    (attempt : Attempt) : Prop :=
  ∀ action ∈ self.pending.head?, ∀ p, self.ReliesOn kept p → ¬ Touches backupDir attempt action p

/-- The invariant behind the promises. -/
structure Sound (initial : FileTree) (kept : List KeptItem) (planned : Nat) (progress : Progress)
    : Prop where
  kept : ∀ item ∈ kept, ∀ p node, item.path.isPrefixOf p = true → initial p = some node
    → progress.tree p = some node
  pending : ∀ action ∈ progress.pending, action.backupFirst = true
    → ∀ node, initial action.path = some node → progress.tree action.path = some node
  backedUp : ∀ action ∈ progress.done, action.backupFirst = true
    → ∀ node, initial action.path = some node
      → (action.error = some .backupFailed ∧ progress.tree action.path = some node)
        ∨ ∃ content backup, node = .file content ∧ action.backupPath = some backup
          ∧ progress.tree backup = some (.file content)
  present : ∀ action ∈ progress.done, action.error = some .backupFailed
    → (progress.tree action.path).isSome = true
  counted : progress.removedCount + progress.failedCount = progress.done.length
  planned : progress.done.length + progress.pending.length = planned

variable {initial : FileTree} {kept : List KeptItem} {planned : Nat} {self : Progress}
  {backupDir : Option FilePath}

theorem Sound.keepsPromises (sound : Sound initial kept planned self)
    : KeepsPromises initial kept planned self where
  kept := sound.kept
  backedUp action member wanted node present :=
    (sound.backedUp action member wanted node present).imp_left And.right
  present := sound.present
  counted finished := by
    have total := sound.planned
    rw [finished, List.length_nil, Nat.add_zero] at total
    exact sound.counted.trans total

theorem Sound.step (sound : Sound initial kept planned self) (attempt : Attempt)
    (spares : self.Spares kept backupDir attempt)
    : Sound initial kept planned (self.step backupDir attempt) := by
  obtain ⟨tree, done, pending, removed, failed⟩ := self
  cases pending with
  | nil => exact sound
  | cons action pending =>
      have keeps {p : FilePath} {node : FileNode} (there : tree p = some node)
          (relied : (∃ item ∈ kept, item.path.isPrefixOf p = true)
            ∨ (∃ earlier ∈ done, earlier.backupPath = some p
                ∨ earlier.error = some .backupFailed ∧ earlier.path = p)
            ∨ ∃ later ∈ pending, later.backupFirst = true ∧ later.path = p)
          : (perform backupDir attempt action tree).1 p = some node :=
        perform_keeps there (spares action rfl p ⟨by simp [there], relied⟩)
      obtain ⟨kept, waiting, backedUp, present, counted, planned⟩ := sound
      rw [List.forall_mem_cons] at waiting
      have same := @perform_same backupDir attempt tree action
      have stepped
          : Progress.step backupDir ⟨tree, done, action :: pending, removed, failed⟩ attempt
          = ⟨(perform backupDir attempt action tree).1,
            done ++ [(perform backupDir attempt action tree).2], pending,
            removed + if (perform backupDir attempt action tree).2.executed then 1 else 0,
            failed + if (perform backupDir attempt action tree).2.executed then 0 else 1⟩ := rfl
      rw [stepped]
      refine {
        kept := fun item member p node below was =>
          keeps (kept item member p node below was) (.inl ⟨item, member, below⟩)
        pending := fun later member wanted node was =>
          keeps (waiting.2 later member wanted node was)
            (.inr (.inr ⟨later, member, wanted, rfl⟩))
        backedUp := ?_
        present := ?_
        counted := ?_
        planned := ?_ }
      · intro reported member wanted node was
        rcases List.mem_append.mp member with earlier | new
        · rcases backedUp reported earlier wanted node was with
            ⟨failed, there⟩ | ⟨content, backup, rfl, made, held⟩
          · exact .inl ⟨failed, keeps there (.inr (.inl ⟨reported, earlier, .inr ⟨failed, rfl⟩⟩))⟩
          · exact .inr ⟨content, backup, rfl, made,
              keeps held (.inr (.inl ⟨reported, earlier, .inl made⟩))⟩
        · obtain rfl : reported = (perform backupDir attempt action tree).2 :=
            List.mem_singleton.mp new
          rw [same] at wanted was ⊢
          rcases perform_backedUp wanted (waiting.1 wanted node was) with
            ⟨content, rfl, made, held, -⟩ | failed
          · exact .inr ⟨content, _, rfl, made, held⟩
          · exact .inl failed
      · intro reported member failed
        rcases List.mem_append.mp member with earlier | new
        · obtain ⟨node, there⟩ := Option.isSome_iff_exists.mp (present reported earlier failed)
          exact Option.isSome_iff_exists.mpr
            ⟨node, keeps there (.inr (.inl ⟨reported, earlier, .inr ⟨failed, rfl⟩⟩))⟩
        · obtain rfl : reported = (perform backupDir attempt action tree).2 :=
            List.mem_singleton.mp new
          rw [same]
          cases found : tree action.path with
          | none => exact absurd failed (perform_unfailed (.inr found))
          | some node =>
              cases wanted : action.backupFirst with
              | false => exact absurd failed (perform_unfailed (.inl wanted))
              | true =>
                  rcases perform_backedUp wanted found with
                    ⟨-, -, -, -, unfailed⟩ | ⟨-, there⟩
                  · exact absurd failed unfailed
                  · exact Option.isSome_iff_exists.mpr ⟨node, there⟩
      · have before : removed + failed = done.length := counted
        dsimp only
        rw [List.length_append, List.length_singleton]
        split <;> omega
      · rw [← planned]
        dsimp only
        rw [List.length_append, List.length_singleton, List.length_cons]
        omega

/-- In an uninstall whose actions each touch nothing that is relied on, every state keeps the
promises.
-/
theorem keepsPromises_of_spares (opts : UninstallOptions) (paths : DiscoveredPaths)
    (initial : FileTree) (attempts : List Attempt)
    (spared : ∀ taken ∈ steps (Progress.step opts.backupDir)
        (.start initial (actions opts paths initial)) attempts,
      taken.1.Spares (keptItems opts paths initial) opts.backupDir taken.2)
    : ∀ progress ∈ states (Progress.step opts.backupDir)
        (.start initial (actions opts paths initial)) attempts,
      KeepsPromises initial (keptItems opts paths initial) (actions opts paths initial).length
        progress := by
  intro progress reached
  have start : Sound initial (keptItems opts paths initial) (actions opts paths initial).length
      (.start initial (actions opts paths initial)) :=
    { kept := fun _ _ _ _ _ was => was
      pending := fun _ _ _ _ was => was
      backedUp := nofun
      present := nofun
      counted := rfl
      planned := Nat.zero_add _ }
  exact (invariant_of_guarded (fun _ attempt sound spares => sound.step attempt spares) start
    (guarded_iff_steps.mpr spared) progress reached).keepsPromises

def systemUnit : FilePath := ["etc", "systemd", "system", "sbh.service"]

def userUnit : FilePath := ["home", "me", ".config", "systemd", "user", "sbh.service"]

def twoUnits : FileTree := fun p =>
  if p = systemUnit then some (.file [1]) else if p = userUnit then some (.file [2]) else none

def onlyUnits (units : List FilePath) : DiscoveredPaths where
  binaries := []
  configFile := none
  dataDir := none
  stateFile := none
  sqliteDb := none
  jsonlLog := none
  assetCache := none
  systemdUnits := units
  launchdPlists := []
  completions := []
  profileEntries := []

/-- All calls succeed within one second. -/
def smooth : Attempt := ⟨1700000000, true, none, none, none⟩

/-- Removing the service of the system, with a backup beside it, touches nothing else. -/
theorem keepsPromises_systemUnit
    : KeepsPromises twoUnits [] 1
        (final (Progress.step none) (.start twoUnits (actions ⟨.conservative, none, none⟩
          (onlyUnits [systemUnit]) twoUnits)) [smooth]) := by
  refine keepsPromises_of_spares ⟨.conservative, none, none⟩ (onlyUnits [systemUnit]) twoUnits
    [smooth] ?_ _ (final_mem_states _ _)
  intro taken member action next p relied
  cases List.mem_singleton.mp member
  obtain ⟨-, ⟨item, listed, -⟩ | ⟨earlier, listed, -⟩ | ⟨later, listed, -⟩⟩ := relied
  · cases listed
  · cases listed
  · cases listed

/-- The backup of the user's service replaces that of the system's. -/
theorem units_share_backup
    : ¬ ∀ (opts : UninstallOptions) (paths : DiscoveredPaths) (initial : FileTree)
        (attempts : List Attempt),
        KeepsPromises initial (keptItems opts paths initial) (actions opts paths initial).length
          (final (Progress.step opts.backupDir) (.start initial (actions opts paths initial))
            attempts) := by
  intro always
  have promised := always ⟨.conservative, some ["var", "backups"], none⟩
    (onlyUnits [systemUnit, userUnit]) twoUnits [smooth, smooth]
  rcases promised.backedUp
    { category := .systemdUnit, path := systemUnit, isDirectory := false, backupFirst := true
      executed := true
      backupPath := some ["var", "backups", "sbh.service.sbh-uninstall-backup-1700000000"]
      error := none } (by decide +kernel) rfl (.file [1]) (by decide) with
    unmoved | ⟨content, backup, same, made, held⟩
  · exact absurd unmoved (by decide +kernel)
  · cases same
    cases made
    exact absurd held (by decide +kernel)

end StorageBallast.Uninstall
