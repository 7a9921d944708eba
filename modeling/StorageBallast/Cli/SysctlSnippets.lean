import StorageBallast.Foundations.NamedFiles
import StorageBallast.Foundations.Runs
import StorageBallast.Foundations.Texts
import Mathlib.Data.String.Basic

/-! The persisted snippet of kernel limits: applying a plan backs up what is under the snippet's
name and replaces it, and reverting puts back the newest backup. Backups are named by the second
they are made in, and they are never removed.
-/

namespace StorageBallast.Sysctl

open NamedFiles Texts

abbrev SysctlDir := Directory String String

structure UtcTime where
  year : Nat
  month : Nat
  day : Nat
  hour : Nat
  minute : Nat
  second : Nat
deriving DecidableEq, Repr

def padded (width n : Nat) : String :=
  let digits := toString n
  String.ofList (List.replicate (width - digits.toList.length) '0') ++ digits

/-- `%Y%m%dT%H%M%SZ`, where years of more than four digits have a sign. -/
def UtcTime.stamp (time : UtcTime) : String :=
  (if 9999 < time.year then "+" else "") ++ padded 4 time.year ++ padded 2 time.month
    ++ padded 2 time.day ++ "T" ++ padded 2 time.hour ++ padded 2 time.minute
    ++ padded 2 time.second ++ "Z"

/-- The file name of `writeback_sysctl_path`, which the checks make end in `.conf`. -/
structure SnippetName where
  stem : String

namespace SnippetName

variable (snippet : SnippetName)

def name : String := snippet.stem ++ ".conf"

def tmpName : String := snippet.stem ++ ".conf.tmp"

def backupName (now : UtcTime) : String := snippet.name ++ ".bak-" ++ now.stamp

def isBackup (name : String) : Bool := startsWith name (snippet.name ++ ".bak-")

def backupExistingFile (now : UtcTime) (dir : SysctlDir) : SysctlDir :=
  match lookup snippet.name dir with
  | some content => put (snippet.backupName now) content dir
  | none => dir

/-- What `apply_writeback_tuning` does to the directory: the text is written beside the snippet
and renamed.
-/
def applyWritebackTuning (now : UtcTime) (body : String) (dir : SysctlDir) : SysctlDir :=
  let written := put snippet.tmpName body (snippet.backupExistingFile now dir)
  put snippet.name body (remove snippet.tmpName written)

def latestBackup (dir : SysctlDir) : Option String := newest snippet.isBackup dir

def runWritebackRevert (dir : SysctlDir) : SysctlDir :=
  match snippet.latestBackup dir with
  | some backup =>
      match lookup backup dir with
      | some content => put snippet.name content dir
      | none => dir
  | none => remove snippet.name dir

end SnippetName

/-- What happens to the directory: a plan is applied as a text, the tuning is reverted, or the
administrator writes or removes a file.
-/
inductive SysctlAction where
  | apply (now : UtcTime) (body : String)
  | revert
  | edit (name : String) (content : Option String)
deriving DecidableEq, Repr

/-- The directory, with what was under the snippet's name before the first plan that was applied
since the tuning was last reverted, if one was, and with the texts of all plans.
-/
structure SnippetState where
  files : SysctlDir
  before : Option (Option String)
  written : List String

def SnippetState.start (files : SysctlDir) : SnippetState := ⟨files, none, []⟩

def edited (name : String) (content : Option String) (dir : SysctlDir) : SysctlDir :=
  match content with
  | some text => put name text dir
  | none => remove name dir

def step (snippet : SnippetName) (state : SnippetState) : SysctlAction → SnippetState
  | .apply now body => {
      files := snippet.applyWritebackTuning now body state.files
      before := some (state.before.getD (lookup snippet.name state.files))
      written := body :: state.written }
  | .revert => { state with
      files := snippet.runWritebackRevert state.files
      before := none }
  | .edit name content => { state with files := edited name content state.files }

def RevertsWell (snippet : SnippetName) (state : SnippetState) : Prop :=
  ∀ before, state.before = some before
    → lookup snippet.name (step snippet state .revert).files = before

/-- A plan that is applied takes no content out of the directory that is not from a plan. -/
def KeepsForeign (snippet : SnippetName) (state : SnippetState) : SysctlAction → Prop
  | .apply now body =>
      ∀ content, content ∉ body :: state.written → Held content state.files
        → Held content (step snippet state (.apply now body)).files
  | .revert | .edit .. => True

/-- In every state the history reaches reverting undoes what was applied, and no plan that is
applied on the way loses anything.
-/
def UndoesTuning (snippet : SnippetName) (state : SnippetState) (history : List SysctlAction)
    : Prop :=
  (∀ reached ∈ Runs.states (step snippet) state history, RevertsWell snippet reached)
    ∧ ∀ taken ∈ Runs.steps (step snippet) state history,
      KeepsForeign snippet taken.1 taken.2

def SnippetName.Outdated (snippet : SnippetName) (now : UtcTime) (dir : SysctlDir) : Prop :=
  ∃ other, snippet.isBackup other = true ∧ (lookup other dir).isSome = true
    ∧ snippet.backupName now < other

/-- Before the first plan there is no backup if there is no snippet, and else none with a greater
name than the one that is made, unless it holds the same. Later plans make no backup that is the
newest, unless it holds the same. The administrator leaves the newest backup as it is.
-/
def UndoableStep (snippet : SnippetName) (state : SnippetState) : SysctlAction → Prop
  | .apply now _ =>
      match state.before, lookup snippet.name state.files with
      | none, none => ∀ other, snippet.isBackup other = true → lookup other state.files = none
      | none, some content =>
          ¬snippet.Outdated now state.files
            ∨ newestContent snippet.isBackup state.files = some content
      | some _, none => True
      | some before, some content =>
          snippet.Outdated now state.files ∨ before = some content
  | .revert => True
  | .edit name content =>
      state.before = none
        ∨ newestContent snippet.isBackup (edited name content state.files)
          = newestContent snippet.isBackup state.files

def SnippetName.Overwrites (snippet : SnippetName) (now : UtcTime) (dir : SysctlDir)
    (name : String) : Prop :=
  name = snippet.tmpName
    ∨ (lookup snippet.name dir).isSome = true ∧ name = snippet.backupName now

/-- What a plan overwrites is from a plan, or is also in the snippet or in another file. -/
def LosslessStep (snippet : SnippetName) (state : SnippetState) : SysctlAction → Prop
  | .apply now body =>
      ∀ content, content ∉ body :: state.written → ∀ name,
        snippet.Overwrites now state.files name → lookup name state.files = some content
        → lookup snippet.name state.files = some content
          ∨ ∃ other, other ≠ snippet.name ∧ ¬snippet.Overwrites now state.files other
            ∧ lookup other state.files = some content
  | .revert | .edit .. => True

section names

variable (snippet : SnippetName)

theorem isBackup_backupName (now : UtcTime) : snippet.isBackup (snippet.backupName now) = true := by
  simp [SnippetName.isBackup, SnippetName.backupName, startsWith]

theorem isBackup_name : snippet.isBackup snippet.name = false := by
  rw [Bool.eq_false_iff]
  intro starts
  have short := (List.isPrefixOf_iff_prefix.mp starts).length_le
  simp at short

theorem isBackup_tmpName : snippet.isBackup snippet.tmpName = false := by
  rw [Bool.eq_false_iff]
  intro starts
  have front : snippet.stem.toList ++ ".conf.bak-".toList
      <+: snippet.stem.toList ++ ".conf.tmp".toList := by
    simpa [SnippetName.name, SnippetName.tmpName] using List.isPrefixOf_iff_prefix.mp starts
  rw [List.prefix_append_right_inj] at front
  exact absurd front (by decide)

theorem tmpName_ne_name : snippet.tmpName ≠ snippet.name := by
  intro same
  have lengths := congrArg (fun text => text.toList.length) same
  simp [SnippetName.tmpName, SnippetName.name] at lengths

theorem ne_of_isBackup {backup other : String} (isBackup : snippet.isBackup backup = true)
    (no : snippet.isBackup other = false) : backup ≠ other := by
  rintro rfl
  rw [isBackup] at no
  cases no

end names

section actions

variable {snippet : SnippetName} {now : UtcTime} {body : String} {dir : SysctlDir}

theorem lookup_apply_name
    : lookup snippet.name (snippet.applyWritebackTuning now body dir) = some body :=
  lookup_put_same

theorem lookup_apply_tmpName
    : lookup snippet.tmpName (snippet.applyWritebackTuning now body dir) = none := by
  rw [SnippetName.applyWritebackTuning, lookup_put_other (tmpName_ne_name snippet)]
  exact lookup_remove_same

/-- Beside the snippet and the text before it is renamed only a backup is written. -/
theorem lookup_apply_other {name : String} (notName : name ≠ snippet.name)
    (notTmp : name ≠ snippet.tmpName)
    : lookup name (snippet.applyWritebackTuning now body dir)
      = lookup name (snippet.backupExistingFile now dir) := by
  rw [SnippetName.applyWritebackTuning, lookup_put_other notName, lookup_remove_other notTmp,
    lookup_put_other notTmp]

theorem lookup_apply_kept {name : String} (notName : name ≠ snippet.name)
    (kept : ¬snippet.Overwrites now dir name)
    : lookup name (snippet.applyWritebackTuning now body dir) = lookup name dir := by
  obtain ⟨notTmp, notBackup⟩ := not_or.mp kept
  rw [lookup_apply_other notName notTmp, SnippetName.backupExistingFile]
  cases held : lookup snippet.name dir with
  | none => rfl
  | some content =>
      refine lookup_put_other fun same => notBackup ⟨?_, same⟩
      rw [held]
      rfl

theorem lookup_apply_backupName {content : String} (held : lookup snippet.name dir = some content)
    : lookup (snippet.backupName now) (snippet.applyWritebackTuning now body dir)
      = some content := by
  have backup := isBackup_backupName snippet now
  rw [lookup_apply_other (ne_of_isBackup snippet backup (isBackup_name snippet))
    (ne_of_isBackup snippet backup (isBackup_tmpName snippet)), SnippetName.backupExistingFile, held]
  exact lookup_put_same

theorem newestContent_apply
    : newestContent snippet.isBackup (snippet.applyWritebackTuning now body dir)
      = newestContent snippet.isBackup (snippet.backupExistingFile now dir) :=
  newestContent_congr fun _ backup =>
    lookup_apply_other (ne_of_isBackup snippet backup (isBackup_name snippet))
      (ne_of_isBackup snippet backup (isBackup_tmpName snippet))

theorem newestContent_apply_absent (absent : lookup snippet.name dir = none)
    : newestContent snippet.isBackup (snippet.applyWritebackTuning now body dir)
      = newestContent snippet.isBackup dir := by
  rw [newestContent_apply, SnippetName.backupExistingFile, absent]

theorem newestContent_apply_outdated (outdated : snippet.Outdated now dir)
    : newestContent snippet.isBackup (snippet.applyWritebackTuning now body dir)
      = newestContent snippet.isBackup dir := by
  rw [newestContent_apply, SnippetName.backupExistingFile]
  cases lookup snippet.name dir with
  | none => rfl
  | some content =>
      obtain ⟨other, backup, present, less⟩ := outdated
      exact newestContent_put_of_below backup present less

theorem newestContent_apply_top {content : String} (held : lookup snippet.name dir = some content)
    (top : ¬snippet.Outdated now dir)
    : newestContent snippet.isBackup (snippet.applyWritebackTuning now body dir)
      = some content := by
  rw [newestContent_apply, SnippetName.backupExistingFile, held]
  refine newestContent_put_of_top (isBackup_backupName snippet now) ?_
  intro other backup present
  exact not_lt.mp fun less => top ⟨other, backup, present, less⟩

/-- Reverting puts back what the newest backup holds, and removes the snippet if there is none. -/
theorem lookup_revert
    : lookup snippet.name (snippet.runWritebackRevert dir)
      = newestContent snippet.isBackup dir := by
  unfold SnippetName.runWritebackRevert SnippetName.latestBackup newestContent
  cases found : newest snippet.isBackup dir with
  | none => exact @lookup_remove_same String String _ snippet.name dir
  | some backup =>
      obtain ⟨⟨present, _⟩, _⟩ := newest_eq_some_iff.mp found
      cases held : lookup backup dir with
      | none =>
          rw [held] at present
          cases present
      | some content =>
          simp only [Option.bind_some, held]
          exact @lookup_put_same String String _ snippet.name content dir

end actions

variable {snippet : SnippetName} {state : SnippetState}

theorem revertsWell_iff
    : RevertsWell snippet state
      ↔ ∀ before, state.before = some before
        → newestContent snippet.isBackup state.files = before := by
  simp only [RevertsWell, step, lookup_revert]

/-- A step leads from a state that would be reverted well to another one if and only if it is
undoable.
-/
theorem revertsWell_step_iff (well : RevertsWell snippet state) (action : SysctlAction)
    : RevertsWell snippet (step snippet state action) ↔ UndoableStep snippet state action := by
  rw [revertsWell_iff] at well ⊢
  cases action with
  | revert => exact iff_of_true nofun trivial
  | edit name content =>
      simp only [step, UndoableStep]
      cases pending : state.before with
      | none => exact iff_of_true nofun (.inl rfl)
      | some before =>
          have held := well before pending
          simp [held]
  | apply now body =>
      simp only [step, UndoableStep, Option.some.injEq, forall_eq']
      cases pending : state.before with
      | none =>
          cases found : lookup snippet.name state.files with
          | none =>
              rw [newestContent_apply_absent found]
              exact newestContent_eq_none_iff
          | some content =>
              simp only [Option.getD_none]
              by_cases outdated : snippet.Outdated now state.files
              · rw [newestContent_apply_outdated outdated]
                exact (or_iff_right (not_not_intro outdated)).symm
              · exact iff_of_true (newestContent_apply_top found outdated) (.inl outdated)
      | some before =>
          have held := well before pending
          cases found : lookup snippet.name state.files with
          | none => exact iff_of_true ((newestContent_apply_absent found).trans held) trivial
          | some content =>
              simp only [Option.getD_some]
              by_cases outdated : snippet.Outdated now state.files
              · exact iff_of_true ((newestContent_apply_outdated outdated).trans held)
                  (.inl outdated)
              · rw [newestContent_apply_top found outdated, or_iff_right outdated]
                exact eq_comm

/-- A plan that is applied loses nothing if and only if what it overwrites is to be found elsewhere,
in a file that stays or in the snippet, which is backed up.
-/
theorem keepsForeign_iff (action : SysctlAction)
    : KeepsForeign snippet state action ↔ LosslessStep snippet state action := by
  cases action with
  | revert => exact Iff.rfl
  | edit name content => exact Iff.rfl
  | apply now body =>
      simp only [KeepsForeign, LosslessStep, step]
      refine forall_congr' fun content => imp_congr_right fun foreign => ?_
      have backedUp (held : lookup snippet.name state.files = some content)
          : Held content (snippet.applyWritebackTuning now body state.files) :=
        ⟨snippet.backupName now, lookup_apply_backupName held⟩
      constructor
      · intro keeps name overwritten held
        obtain ⟨after, holds⟩ := keeps ⟨name, held⟩
        by_cases isName : after = snippet.name
        · subst isName
          rw [lookup_apply_name] at holds
          exact absurd (Option.some.inj holds ▸ List.mem_cons_self) foreign
        · by_cases target : snippet.Overwrites now state.files after
          · rcases target with rfl | ⟨present, rfl⟩
            · rw [lookup_apply_tmpName] at holds
              cases holds
            · obtain ⟨old, known⟩ := Option.isSome_iff_exists.mp present
              rw [lookup_apply_backupName known] at holds
              exact .inl (known.trans holds)
          · rw [lookup_apply_kept isName target] at holds
            exact .inr ⟨after, isName, target, holds⟩
      · rintro lossless ⟨name, held⟩
        by_cases isName : name = snippet.name
        · exact backedUp (isName ▸ held)
        · by_cases target : snippet.Overwrites now state.files name
          · rcases lossless name target held with inSnippet | ⟨other, notName, kept, same⟩
            · exact backedUp inSnippet
            · exact ⟨other, (lookup_apply_kept notName kept).trans same⟩
          · exact ⟨name, (lookup_apply_kept isName target).trans held⟩

/-- Tuning is undone throughout a history if and only if each of its steps is undoable and loses
nothing.
-/
theorem undoesTuning_iff (snippet : SnippetName) (files : SysctlDir) (history : List SysctlAction)
    : UndoesTuning snippet (.start files) history
      ↔ Runs.Guarded (step snippet)
          (fun state action => UndoableStep snippet state action
            ∧ LosslessStep snippet state action)
          (.start files) history := by
  have start : RevertsWell snippet (.start files) := nofun
  have undone
      : (∀ reached ∈ Runs.states (step snippet) (.start files) history,
          RevertsWell snippet reached)
        ↔ Runs.Guarded (step snippet) (UndoableStep snippet) (.start files) history :=
    Runs.invariant_iff_guarded (fun _ action well => revertsWell_step_iff well action) start
  rw [UndoesTuning, undone, Runs.guarded_iff_steps, Runs.guarded_iff_steps, ← forall_and]
  refine forall_congr' fun taken => ?_
  rw [← imp_and, keepsForeign_iff]

/-- Two plans on two days, with no snippet before. -/
def appliedTwice : List SysctlAction :=
  [.apply ⟨2026, 3, 1, 12, 0, 0⟩ "vm.dirty_bytes = 2147483648",
    .apply ⟨2026, 3, 2, 12, 0, 0⟩ "vm.dirty_bytes = 8589934592"]

/-- The second plan backs up the first one, which is what reverting puts back. -/
theorem first_plan_put_back
    : ¬ ∀ (snippet : SnippetName) (files : SysctlDir) (history : List SysctlAction),
      UndoesTuning snippet (.start files) history := by
  intro undoes
  have well := (undoes ⟨"99-sbh-writeback"⟩ [] appliedTwice).1 _ (Runs.final_mem_states _ _)
  have restored := well none rfl
  revert restored
  decide +kernel

end StorageBallast.Sysctl
