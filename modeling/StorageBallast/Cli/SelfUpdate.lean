import Mathlib.Logic.Function.Basic
import Mathlib.Tactic.Common
import StorageBallast.Foundations.Runs

/-! The installation of a downloaded update. The install directory is a map from names to
contents. A step is one call on the file system or on another program with its answer, so that
every state of a run is a point where the host may crash.
-/

namespace StorageBallast

abbrev BinaryContent := List UInt8

/-- The install path, the backup of the binary that is replaced, and the copy that is tested. -/
structure InstallNames where
  install : String
  backup : String
  temp : String
  backup_ne : backup ≠ install
  temp_ne : temp ≠ install
  apart : temp ≠ backup

inductive BinaryTrustPolicy where
  | enforce
  | bypassNoVerify
deriving DecidableEq, Repr

/-- What is left to do after a failure. -/
inductive UndoStep where
  | removeTemp
  | removeExtractDir
  /-- Rename the backup back to the install path if there is one. -/
  | restore
deriving DecidableEq, Repr

inductive InstallPhase where
  | creatingExtractDir
  | extracting
  | finding
  | creatingParent
  | movingAside
  | creatingTemp
  | copying (copied : Nat)
  | settingMode
  | selfTesting
  | checkingTrust
  | swapping
  | settingInstalledMode
  | removingBackup
  | removingExtractDir
  | undoing (steps : List UndoStep) (error : String)
  | returned (result : Except String Unit)

/-- The answer to one call: whether a program could be started, whether the call succeeded, how
much was copied, and the message of a failure.
-/
structure InstallAnswer where
  starts : Bool
  ok : Bool
  chunk : Nat
  message : String
deriving DecidableEq, Repr

structure InstallWorld where
  names : InstallNames
  policy : BinaryTrustPolicy
  /-- The platform has a check of signatures. -/
  signed : Bool
  /-- What the archive has as the new binary. -/
  archived : Option BinaryContent
  dir : String → Option BinaryContent
  extractDir : Bool
  /-- The new binary has run. -/
  selfTested : Bool
  phase : InstallPhase

namespace InstallWorld

def fail (world : InstallWorld) (steps : List UndoStep) (error : String) : InstallWorld :=
  { world with phase := .undoing steps error }

/-- `rename`: whatever has the new name is replaced. -/
def rename (world : InstallWorld) (source target : String) : InstallWorld :=
  { world with
    dir := Function.update (Function.update world.dir source none) target (world.dir source) }

def undo (world : InstallWorld) (answer : InstallAnswer) : UndoStep → InstallWorld
  | .removeTemp =>
      if answer.ok then { world with dir := Function.update world.dir world.names.temp none }
      else world
  | .removeExtractDir =>
      if answer.ok then { world with extractDir := false } else world
  | .restore =>
      if (world.dir world.names.backup).isSome && answer.ok then
        world.rename world.names.backup world.names.install
      else world

def newBinary (world : InstallWorld) : BinaryContent := world.archived.getD []

def trusts (world : InstallWorld) (answer : InstallAnswer) : Bool :=
  world.policy = .bypassNoVerify || !world.signed || answer.ok

/-- One call of `extract_and_install`. -/
def step (world : InstallWorld) (answer : InstallAnswer) : InstallWorld :=
  match world.phase with
  | .creatingExtractDir =>
      if answer.ok then { world with extractDir := true, phase := .extracting }
      else world.fail [] ("failed to create extract dir: " ++ answer.message)
  | .extracting =>
      if !answer.starts then world.fail [] ("failed to run tar: " ++ answer.message)
      else if answer.ok then { world with phase := .finding }
      else world.fail [.removeExtractDir] "tar extraction failed"
  | .finding =>
      if world.archived.isSome then { world with phase := .creatingParent }
      else world.fail [.removeExtractDir] "extracted archive does not contain sbh binary"
  | .creatingParent =>
      if answer.ok then { world with phase := .movingAside }
      else world.fail [] ("failed to create install dir: " ++ answer.message)
  | .movingAside =>
      if (world.dir world.names.install).isNone then { world with phase := .creatingTemp }
      else if answer.ok then
        { world.rename world.names.install world.names.backup with phase := .creatingTemp }
      else
        world.fail [] ("failed to move current binary to backup location: " ++ answer.message)
  | .creatingTemp =>
      if answer.ok then
        { world with
          dir := Function.update world.dir world.names.temp (some [])
          phase := .copying 0 }
      else
        world.fail [.removeExtractDir, .restore]
          ("failed to copy new binary to temp location: " ++ answer.message)
  | .copying copied =>
      if answer.ok then
        { world with
          dir := Function.update world.dir world.names.temp
            (some (world.newBinary.take (copied + answer.chunk)))
          phase :=
            if world.newBinary.length ≤ copied + answer.chunk then .settingMode
            else .copying (copied + answer.chunk) }
      else
        world.fail [.removeExtractDir, .restore]
          ("failed to copy new binary to temp location: " ++ answer.message)
  | .settingMode => { world with phase := .selfTesting }
  | .selfTesting =>
      if !answer.starts then
        world.fail [.removeTemp, .removeExtractDir, .restore]
          ("new binary failed self-test: failed to execute binary: " ++ answer.message)
      else if answer.ok then { world with selfTested := true, phase := .checkingTrust }
      else
        world.fail [.removeTemp, .removeExtractDir, .restore]
          ("new binary failed self-test: binary exited with status " ++ answer.message)
  | .checkingTrust =>
      if world.trusts answer then { world with phase := .swapping }
      else
        world.fail [.removeTemp, .removeExtractDir, .restore]
          ("new binary failed trust verification: " ++ answer.message)
  | .swapping =>
      if answer.ok then
        { world.rename world.names.temp world.names.install with
          phase := .settingInstalledMode }
      else
        world.fail [.restore, .removeTemp, .removeExtractDir]
          ("failed to atomically replace binary (rolled back): " ++ answer.message)
  | .settingInstalledMode => { world with phase := .removingBackup }
  | .removingBackup =>
      { world with
        dir :=
          if answer.ok then Function.update world.dir world.names.backup none else world.dir
        phase := .removingExtractDir }
  | .removingExtractDir =>
      { world with extractDir := world.extractDir && !answer.ok, phase := .returned (.ok ()) }
  | .undoing [] error => { world with phase := .returned (.error error) }
  | .undoing (first :: steps) error =>
      { world.undo answer first with phase := .undoing steps error }
  | .returned _ => world

def start (names : InstallNames) (policy : BinaryTrustPolicy) (signed : Bool)
    (archived : Option BinaryContent) (dir : String → Option BinaryContent) : InstallWorld where
  names
  policy
  signed
  archived
  dir
  extractDir := false
  selfTested := false
  phase := .creatingExtractDir

end InstallWorld

/-- The names beside the binary `sbh`. -/
def sbhNames (nonce : UInt32) : InstallNames where
  install := "sbh"
  backup := "sbh.old." ++ toString nonce.toNat
  temp := "sbh.new"
  backup_ne := by
    intro same
    have lengths := congrArg String.length same
    rw [String.length_append] at lengths
    have short : "sbh".length = 3 := rfl
    have long : "sbh.old.".length = 8 := rfl
    omega
  temp_ne := by decide
  apart := by
    intro same
    have lengths := congrArg String.length same
    rw [String.length_append] at lengths
    have short : "sbh.new".length = 7 := rfl
    have long : "sbh.old.".length = 8 := rfl
    omega

end StorageBallast

/-! What is at the install path while an update is installed. The old binary is moved aside
before the new one is copied and tested, and until it is put back or the new one is renamed into
its place the install path is empty.
-/

namespace StorageBallast

/-- Where the binary that was installed before has gone. -/
inductive Whereabouts where
  | home
  | aside
  | restored
  | replaced
deriving DecidableEq, Repr

namespace InstallWorld

def MovesAside (world : InstallWorld) (answer : InstallAnswer) : Prop :=
  match world.phase with
  | .movingAside => (world.dir world.names.install).isSome = true ∧ answer.ok = true
  | _ => False

def PutsBack (world : InstallWorld) (answer : InstallAnswer) : Prop :=
  match world.phase with
  | .undoing (.restore :: _) _ =>
      (world.dir world.names.backup).isSome = true ∧ answer.ok = true
  | _ => False

def Swaps (world : InstallWorld) (answer : InstallAnswer) : Prop :=
  match world.phase with
  | .swapping => answer.ok = true
  | _ => False

/-- The binary has not been touched, and nothing is left that would. -/
def Untouched (world : InstallWorld) : Prop :=
  match world.phase with
  | .creatingExtractDir => True
  | .extracting => True
  | .finding => True
  | .creatingParent => world.archived.isSome = true
  | .movingAside => world.archived.isSome = true
  | .undoing steps _ => .restore ∉ steps
  | .returned (.error _) => True
  | _ => False

/-- The binary is aside, and the copy of the new one is as far as the phase says. -/
def Aside (world : InstallWorld) (new : BinaryContent) : Prop :=
  match world.phase with
  | .creatingTemp => True
  | .copying _ => True
  | .settingMode => world.dir world.names.temp = some new
  | .selfTesting => world.dir world.names.temp = some new
  | .checkingTrust => world.dir world.names.temp = some new ∧ world.selfTested = true
  | .swapping => world.dir world.names.temp = some new ∧ world.selfTested = true
  | .undoing steps _ => steps.Nodup
  | .returned (.error _) => True
  | _ => False

def Undone (world : InstallWorld) : Prop :=
  match world.phase with
  | .undoing steps _ => .restore ∉ steps
  | .returned (.error _) => True
  | _ => False

/-- The new binary is installed. -/
def Swapped (world : InstallWorld) : Prop :=
  match world.phase with
  | .settingInstalledMode => True
  | .removingBackup => True
  | .removingExtractDir => True
  | .returned (.ok _) => True
  | _ => False

/-- The directory is as the whereabouts of the old binary say. -/
def Keeps (old : BinaryContent) (world : InstallWorld) : Whereabouts → Prop
  | .home => world.dir world.names.install = some old ∧ world.Untouched
  | .aside =>
      world.dir world.names.install = none ∧ world.dir world.names.backup = some old
        ∧ ∃ new ∈ world.archived, world.Aside new
  | .restored => world.dir world.names.install = some old ∧ world.Undone
  | .replaced =>
      (∃ new ∈ world.archived, world.dir world.names.install = some new)
        ∧ world.selfTested = true ∧ world.Swapped

variable {world : InstallWorld} {answer : InstallAnswer} {old : BinaryContent}

/-- An undoing step that is no restoring keeps the install path and the backup. -/
theorem undo_dir (world : InstallWorld) (answer : InstallAnswer) {undoStep : UndoStep}
    (other : undoStep ≠ .restore)
    : (world.undo answer undoStep).dir world.names.install = world.dir world.names.install
      ∧ (world.undo answer undoStep).dir world.names.backup = world.dir world.names.backup := by
  cases undoStep with
  | restore => exact absurd rfl other
  | removeExtractDir => cases ok : answer.ok <;> simp [undo, ok]
  | removeTemp =>
      have install := world.names.temp_ne.symm
      have backup := world.names.apart.symm
      cases ok : answer.ok <;> simp [undo, ok, install, backup]

theorem undo_names (world : InstallWorld) (answer : InstallAnswer) (undoStep : UndoStep)
    : (world.undo answer undoStep).names = world.names
      ∧ (world.undo answer undoStep).archived = world.archived := by
  cases undoStep <;> dsimp only [undo] <;> split <;> exact ⟨rfl, rfl⟩

variable {steps : List UndoStep}

theorem untouched_fail (unmoved : .restore ∉ steps) (error : String)
    : (world.fail steps error).Untouched := unmoved

/-- Before it is moved aside nothing happens to the binary. -/
theorem step_home (answer : InstallAnswer) (home : world.Keeps old .home)
    : (world.MovesAside answer ∧ (world.step answer).Keeps old .aside)
      ∨ (¬ world.MovesAside answer ∧ (world.step answer).Keeps old .home) := by
  obtain ⟨installed, untouched⟩ := home
  unfold Untouched at untouched
  unfold MovesAside step
  cases phase : world.phase with
  | creatingExtractDir =>
      refine .inr ⟨id, ?_⟩
      dsimp only
      split
      · exact ⟨installed, trivial⟩
      · exact ⟨installed, List.not_mem_nil⟩
  | extracting =>
      refine .inr ⟨id, ?_⟩
      dsimp only
      split
      · exact ⟨installed, List.not_mem_nil⟩
      · split
        · exact ⟨installed, trivial⟩
        · exact ⟨installed, untouched_fail (by decide) _⟩
  | finding =>
      refine .inr ⟨id, ?_⟩
      dsimp only
      split
      · rename_i found
        exact ⟨installed, found⟩
      · exact ⟨installed, untouched_fail (by decide) _⟩
  | creatingParent =>
      rw [phase] at untouched
      refine .inr ⟨id, ?_⟩
      dsimp only
      split
      · exact ⟨installed, untouched⟩
      · exact ⟨installed, List.not_mem_nil⟩
  | movingAside =>
      rw [phase] at untouched
      obtain ⟨new, found⟩ := Option.isSome_iff_exists.mp untouched
      dsimp only
      rw [installed]
      cases moved : answer.ok with
      | true =>
          refine .inl ⟨⟨rfl, rfl⟩, ?_, ?_, new, found, trivial⟩
          · simp [rename, Function.update_of_ne world.names.backup_ne.symm]
          · simp [rename, installed]
      | false =>
          have still : ¬ ((some old).isSome = true ∧ false = true) := fun both => nomatch both.2
          exact .inr ⟨still, installed, untouched_fail List.not_mem_nil _⟩
  | undoing steps error =>
      rw [phase] at untouched
      refine .inr ⟨id, ?_⟩
      cases steps with
      | nil => exact ⟨installed, trivial⟩
      | cons first steps =>
          obtain ⟨other, rest⟩ := not_or.mp (List.mem_cons.not.mp untouched)
          refine ⟨?_, rest⟩
          dsimp only
          rw [(undo_names world answer first).1, (undo_dir world answer (Ne.symm other)).1]
          exact installed
  | returned result =>
      rw [phase] at untouched
      cases result with
      | ok => cases untouched
      | error message =>
          refine .inr ⟨id, installed, ?_⟩
          unfold Untouched
          rw [phase]
          trivial
  | creatingTemp | copying | settingMode | selfTesting | checkingTrust | swapping
  | settingInstalledMode | removingBackup | removingExtractDir =>
      rw [phase] at untouched
      cases untouched

theorem aside_temp (aside : world.Keeps old .aside) {content : Option BinaryContent}
    {phase : InstallPhase} {new : BinaryContent} (archived : world.archived = some new)
    (along : ({ world with
        dir := Function.update world.dir world.names.temp content
        phase } : InstallWorld).Aside new)
    : ({ world with
        dir := Function.update world.dir world.names.temp content
        phase } : InstallWorld).Keeps old .aside := by
  obtain ⟨gone, kept, -⟩ := aside
  refine ⟨?_, ?_, new, archived, along⟩
  · exact (Function.update_of_ne world.names.temp_ne.symm ..).trans gone
  · exact (Function.update_of_ne world.names.apart.symm ..).trans kept

theorem aside_fail (aside : world.Keeps old .aside)
    (once : steps.Nodup) (error : String) : (world.fail steps error).Keeps old .aside := by
  obtain ⟨gone, kept, new, archived, -⟩ := aside
  exact ⟨gone, kept, new, archived, once⟩

theorem aside_undo (aside : world.Keeps old .aside) (answer : InstallAnswer)
    {undoStep : UndoStep} (other : undoStep ≠ .restore) (once : steps.Nodup) (error : String)
    : ({ world.undo answer undoStep with phase := .undoing steps error }
        : InstallWorld).Keeps old .aside := by
  obtain ⟨gone, kept, new, archived, -⟩ := aside
  obtain ⟨names, same⟩ := undo_names world answer undoStep
  obtain ⟨install, backup⟩ := undo_dir world answer other
  refine ⟨?_, ?_, new, ?_, once⟩
  · dsimp only
    rw [names, install, gone]
  · dsimp only
    rw [names, backup, kept]
  · dsimp only
    rw [same]
    exact archived

theorem restore_restored (aside : world.Keeps old .aside) (renamed : answer.ok = true)
    (last : .restore ∉ steps) (error : String)
    : ({ world.undo answer .restore with phase := .undoing steps error }
        : InstallWorld).Keeps old .restored := by
  obtain ⟨gone, kept, -⟩ := aside
  refine ⟨?_, last⟩
  simp [undo, rename, kept, renamed]

theorem restore_refused (aside : world.Keeps old .aside) (refused : answer.ok = false)
    (once : steps.Nodup) (error : String)
    : ({ world.undo answer .restore with phase := .undoing steps error }
        : InstallWorld).Keeps old .aside := by
  have stays : world.undo answer .restore = world := by
    simp [undo, refused]
  rw [stays]
  exact aside_fail aside once error

/-- While the binary is aside it is put back, or replaced, or stays there. -/
theorem step_aside (answer : InstallAnswer) (aside : world.Keeps old .aside)
    : (world.PutsBack answer ∧ (world.step answer).Keeps old .restored)
      ∨ (world.Swaps answer ∧ (world.step answer).Keeps old .replaced)
      ∨ (¬ world.PutsBack answer ∧ ¬ world.Swaps answer
        ∧ (world.step answer).Keeps old .aside) := by
  obtain ⟨gone, kept, new, archived, along⟩ := id aside
  unfold Aside at along
  unfold PutsBack Swaps step
  cases phase : world.phase with
  | creatingTemp =>
      refine .inr (.inr ⟨id, id, ?_⟩)
      dsimp only
      split
      · exact aside_temp aside archived trivial
      · exact aside_fail aside (by decide) _
  | copying copied =>
      refine .inr (.inr ⟨id, id, ?_⟩)
      dsimp only
      split
      · apply aside_temp aside archived
        have whole : world.newBinary = new := by
          unfold newBinary
          rw [show world.archived = some new from archived]
          rfl
        rw [whole]
        by_cases done : new.length ≤ copied + answer.chunk
        · rw [if_pos done, List.take_of_length_le done]
          exact Function.update_self ..
        · rw [if_neg done]
          trivial
      · exact aside_fail aside (by decide) _
  | settingMode =>
      rw [phase] at along
      exact .inr (.inr ⟨id, id, gone, kept, new, archived, along⟩)
  | selfTesting =>
      rw [phase] at along
      refine .inr (.inr ⟨id, id, ?_⟩)
      dsimp only
      split
      · exact aside_fail aside (by decide) _
      · split
        · exact ⟨gone, kept, new, archived, along, rfl⟩
        · exact aside_fail aside (by decide) _
  | checkingTrust =>
      rw [phase] at along
      refine .inr (.inr ⟨id, id, ?_⟩)
      dsimp only
      split
      · exact ⟨gone, kept, new, archived, along⟩
      · exact aside_fail aside (by decide) _
  | swapping =>
      rw [phase] at along
      obtain ⟨copied, tested⟩ := along
      dsimp only
      cases renamed : answer.ok with
      | true =>
          refine .inr (.inl ⟨rfl, ⟨new, archived, ?_⟩, tested, trivial⟩)
          simp [rename, copied]
      | false => exact .inr (.inr ⟨id, nofun, aside_fail aside (by decide) _⟩)
  | undoing steps error =>
      rw [phase] at along
      dsimp only
      cases steps with
      | nil => exact .inr (.inr ⟨id, id, gone, kept, new, archived, trivial⟩)
      | cons first steps =>
          obtain ⟨fresh, once⟩ := List.nodup_cons.mp along
          cases first with
          | removeTemp =>
              have other : UndoStep.removeTemp ≠ .restore := by decide
              exact .inr (.inr ⟨id, id, aside_undo aside answer other once error⟩)
          | removeExtractDir =>
              have other : UndoStep.removeExtractDir ≠ .restore := by decide
              exact .inr (.inr ⟨id, id, aside_undo aside answer other once error⟩)
          | restore =>
              cases renamed : answer.ok with
              | true =>
                  refine .inl ⟨⟨?_, rfl⟩, restore_restored aside renamed fresh error⟩
                  rw [kept]
                  rfl
              | false =>
                  have refused : ¬ ((world.dir world.names.backup).isSome = true
                      ∧ false = true) := fun both => nomatch both.2
                  exact .inr (.inr ⟨refused, id, restore_refused aside renamed once error⟩)
  | returned result =>
      rw [phase] at along
      cases result with
      | ok => cases along
      | error message => exact .inr (.inr ⟨id, id, aside⟩)
  | creatingExtractDir | extracting | finding | creatingParent | movingAside
  | settingInstalledMode | removingBackup | removingExtractDir =>
      rw [phase] at along
      cases along

/-- What is left to undo after the binary is back does not move it. -/
theorem step_restored (answer : InstallAnswer) (restored : world.Keeps old .restored)
    : ¬ world.MovesAside answer ∧ (world.step answer).Keeps old .restored := by
  obtain ⟨installed, undone⟩ := id restored
  unfold Undone at undone
  unfold MovesAside step
  cases phase : world.phase with
  | undoing steps error =>
      rw [phase] at undone
      refine ⟨id, ?_⟩
      cases steps with
      | nil => exact ⟨installed, trivial⟩
      | cons first steps =>
          obtain ⟨other, rest⟩ := not_or.mp (List.mem_cons.not.mp undone)
          refine ⟨?_, rest⟩
          dsimp only
          rw [(undo_names world answer first).1, (undo_dir world answer (Ne.symm other)).1]
          exact installed
  | returned result => exact ⟨id, restored⟩
  | creatingExtractDir | extracting | finding | creatingParent | movingAside | creatingTemp
  | copying | settingMode | selfTesting | checkingTrust | swapping
  | settingInstalledMode | removingBackup | removingExtractDir =>
      rw [phase] at undone
      cases undone

theorem step_replaced (answer : InstallAnswer) (replaced : world.Keeps old .replaced)
    : (world.step answer).Keeps old .replaced := by
  obtain ⟨⟨new, archived, installed⟩, tested, swapped⟩ := id replaced
  unfold Swapped at swapped
  unfold step
  cases phase : world.phase with
  | settingInstalledMode => exact ⟨⟨new, archived, installed⟩, tested, trivial⟩
  | removingBackup =>
      refine ⟨⟨new, archived, ?_⟩, tested, trivial⟩
      dsimp only
      split
      · exact (Function.update_of_ne world.names.backup_ne.symm ..).trans installed
      · exact installed
  | removingExtractDir => exact ⟨⟨new, archived, installed⟩, tested, trivial⟩
  | returned result => exact replaced
  | creatingExtractDir | extracting | finding | creatingParent | movingAside | creatingTemp
  | copying | settingMode | selfTesting | checkingTrust | swapping | undoing =>
      rw [phase] at swapped
      cases swapped

/-- Before the binary is moved aside it is neither put back nor replaced. -/
theorem home_idle (answer : InstallAnswer) (home : world.Keeps old .home)
    : ¬ (world.PutsBack answer ∨ world.Swaps answer) := by
  obtain ⟨-, untouched⟩ := home
  unfold Untouched at untouched
  rintro (back | swaps)
  · unfold PutsBack at back
    split at back
    · rename_i phase
      rw [phase] at untouched
      exact untouched List.mem_cons_self
    · exact back
  · unfold Swaps at swaps
    split at swaps
    · rename_i phase
      rw [phase] at untouched
      exact untouched
    · exact swaps

variable {world : InstallWorld}

/-- Once the binary is back it stays, by induction on the answers. -/
theorem run_restored (answers : List InstallAnswer) (restored : world.Keeps old .restored)
    : (Runs.final step world answers).Keeps old .restored := by
  induction answers generalizing world with
  | nil => exact restored
  | cons answer answers ih => exact ih (step_restored answer restored).2

theorem run_replaced (answers : List InstallAnswer) (replaced : world.Keeps old .replaced)
    : (Runs.final step world answers).Keeps old .replaced := by
  induction answers generalizing world with
  | nil => exact replaced
  | cons answer answers ih => exact ih (step_replaced answer replaced)

/-- The old binary is at the install path, or the new one, whole and tested. -/
def Intact (old : BinaryContent) (world : InstallWorld) : Prop :=
  (world.dir world.names.install = some old
      ∨ (∃ new ∈ world.archived, world.dir world.names.install = some new)
        ∧ world.selfTested = true)
    ∧ ∀ error, world.phase = .returned (.error error) →
        world.dir world.names.install = some old

theorem intact_of_installed (installed : world.dir world.names.install = some old)
    : world.Intact old := ⟨.inl installed, fun _ _ => installed⟩

theorem intact_of_restored (restored : world.Keeps old .restored) : world.Intact old :=
  intact_of_installed restored.1

theorem intact_of_replaced (replaced : world.Keeps old .replaced) : world.Intact old := by
  obtain ⟨found, tested, swapped⟩ := replaced
  refine ⟨.inr ⟨found, tested⟩, fun error returned => ?_⟩
  unfold Swapped at swapped
  rw [returned] at swapped
  cases swapped

theorem not_intact_of_aside (aside : world.Keeps old .aside) : ¬ world.Intact old := by
  obtain ⟨gone, -⟩ := aside
  rintro ⟨installed | ⟨⟨new, -, installed⟩, -⟩, -⟩ <;> rw [gone] at installed <;> cases installed

/-- From aside, all is well again once the backup is put back or the new binary is swapped in. -/
theorem run_aside (answers : List InstallAnswer) (aside : world.Keeps old .aside)
    : (Runs.final step world answers).Intact old
      ↔ ∃ taken ∈ Runs.steps step world answers,
          taken.1.PutsBack taken.2 ∨ taken.1.Swaps taken.2 := by
  induction answers generalizing world with
  | nil =>
      refine iff_of_false (not_intact_of_aside aside) ?_
      rintro ⟨taken, member, -⟩
      exact List.not_mem_nil member
  | cons answer answers ih =>
      rw [Runs.final_cons]
      simp only [Runs.steps, List.exists_mem_cons_iff]
      rcases step_aside answer aside
        with ⟨back, restored⟩ | ⟨swaps, replaced⟩ | ⟨still, unswapped, next⟩
      · exact iff_of_true (intact_of_restored (run_restored answers restored)) (.inl (.inl back))
      · exact iff_of_true (intact_of_replaced (run_replaced answers replaced)) (.inl (.inr swaps))
      · rw [ih next, or_iff_right (not_or.mpr ⟨still, unswapped⟩)]

/-- From home, all is well unless the binary is moved aside and neither comes back nor is
replaced.
-/
theorem run_home (answers : List InstallAnswer) (home : world.Keeps old .home)
    : (Runs.final step world answers).Intact old
      ↔ (∀ taken ∈ Runs.steps step world answers, ¬ taken.1.MovesAside taken.2)
        ∨ ∃ taken ∈ Runs.steps step world answers,
            taken.1.PutsBack taken.2 ∨ taken.1.Swaps taken.2 := by
  induction answers generalizing world with
  | nil =>
      exact iff_of_true (intact_of_installed home.1)
        (.inl fun _ member => absurd member List.not_mem_nil)
  | cons answer answers ih =>
      rw [Runs.final_cons]
      simp only [Runs.steps, List.exists_mem_cons_iff, List.forall_mem_cons]
      rw [or_iff_right (home_idle answer home)]
      rcases step_home answer home with ⟨moved, aside⟩ | ⟨unmoved, next⟩
      · rw [run_aside answers aside, or_iff_right fun none => none.1 moved]
      · rw [ih next, and_iff_right unmoved]

/-- A run of the installation, wherever it ends, leaves the old binary or the new one, and on an
error the old one, exactly if it did not move the old one aside or then put it back or renamed
the new one into its place.
-/
theorem installed_iff (names : InstallNames) (policy : BinaryTrustPolicy) (signed : Bool)
    (archived : Option BinaryContent) (dir : String → Option BinaryContent)
    {old : BinaryContent} (installed : dir names.install = some old)
    (answers : List InstallAnswer)
    : let first := start names policy signed archived dir
      (Runs.final step first answers).Intact old
        ↔ (∀ taken ∈ Runs.steps step first answers, ¬ taken.1.MovesAside taken.2)
          ∨ ∃ taken ∈ Runs.steps step first answers,
              taken.1.PutsBack taken.2 ∨ taken.1.Swaps taken.2 :=
  run_home answers ⟨installed, trivial⟩

-- An update from one version to the next, with calls that succeed and calls that fail.

def oldInstalled : String → Option BinaryContent :=
  Function.update (fun _ => none) "sbh" (some [1])

def updateStart : InstallWorld :=
  start (sbhNames 7) .enforce false (some [2]) oldInstalled

def fineAnswer : InstallAnswer := ⟨true, true, 1, ""⟩

def fullDisk : InstallAnswer := ⟨true, false, 0, "No space left on device"⟩

theorem smooth_update_intact
    : (Runs.final step updateStart (List.replicate 14 fineAnswer)).Intact [1] := by
  have swapped : ∃ taken ∈ Runs.steps step updateStart (List.replicate 14 fineAnswer),
      taken.1.PutsBack taken.2 ∨ taken.1.Swaps taken.2 :=
    ⟨(Runs.final step updateStart (List.replicate 10 fineAnswer), fineAnswer),
      Runs.mem_steps_iff.mpr
        ⟨List.replicate 10 fineAnswer, List.replicate 3 fineAnswer, rfl, rfl⟩,
      .inr rfl⟩
  exact (installed_iff (sbhNames 7) .enforce false (some [2]) oldInstalled rfl
    (List.replicate 14 fineAnswer)).mpr (.inr swapped)

/-- After a crash while the new binary is copied there is no binary. There is none either after
an error that is said to have been rolled back.
-/
theorem update_leaves_no_binary
    : ¬ (Runs.final step updateStart (List.replicate 5 fineAnswer)).Intact [1]
      ∧ (let world := Runs.final step updateStart
            (List.replicate 10 fineAnswer ++ List.replicate 5 fullDisk)
        world.phase = .returned
            (.error "failed to atomically replace binary (rolled back): No space left on device")
          ∧ world.dir "sbh" = none) := by
  have crashed : (Runs.final step updateStart (List.replicate 5 fineAnswer)).Keeps [1] .aside :=
    ⟨by decide +kernel, by decide +kernel, [2], rfl, trivial⟩
  refine ⟨not_intact_of_aside crashed, ?_, ?_⟩
  · rfl
  · decide +kernel

end InstallWorld

end StorageBallast
