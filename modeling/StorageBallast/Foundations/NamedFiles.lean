import Mathlib.Data.List.MinMax
import Mathlib.Tactic.Common

/-! A directory of files with names in an order, some of which are backups. The newest backup is
the one with the greatest name, whenever it was written.
-/

namespace StorageBallast.NamedFiles

variable {ν κ : Type*}

abbrev Directory (ν κ : Type*) := List (ν × κ)

variable [DecidableEq ν]

def lookup (name : ν) (dir : Directory ν κ) : Option κ :=
  (dir.find? fun file => file.1 = name).map Prod.snd

def remove (name : ν) (dir : Directory ν κ) : Directory ν κ :=
  dir.filter fun file => file.1 ≠ name

def put (name : ν) (content : κ) (dir : Directory ν κ) : Directory ν κ :=
  (name, content) :: remove name dir

variable {name other : ν} {content : κ} {dir : Directory ν κ}

@[simp] theorem lookup_remove_same : lookup name (remove name dir) = none := by
  simp [lookup, remove, List.find?_filter]

@[simp] theorem lookup_remove_other (apart : other ≠ name)
    : lookup other (remove name dir) = lookup other dir := by
  unfold lookup remove
  rw [List.find?_filter]
  congr 2
  funext file
  by_cases same : file.1 = other
  · simp [same, apart]
  · simp [same]

@[simp] theorem lookup_put_same : lookup name (put name content dir) = some content := by
  simp [lookup, put]

@[simp] theorem lookup_put_other (apart : other ≠ name)
    : lookup other (put name content dir) = lookup other dir := by
  have passed : (put name content dir).find? (fun file => file.1 = other)
      = (remove name dir).find? fun file => file.1 = other :=
    List.find?_cons_of_neg (by simpa using Ne.symm apart)
  rw [lookup, passed]
  exact lookup_remove_other apart

theorem lookup_isSome_iff : (lookup name dir).isSome = true ↔ name ∈ dir.map Prod.fst := by
  simp [lookup]

def Held (content : κ) (dir : Directory ν κ) : Prop := ∃ name, lookup name dir = some content

section newest

variable {ν : Type*} [LinearOrder ν] {isBackup : ν → Bool} {name : ν} {content : κ}
  {dir : Directory ν κ}

def newest (isBackup : ν → Bool) (dir : Directory ν κ) : Option ν :=
  ((dir.map Prod.fst).filter isBackup).max?

def newestContent (isBackup : ν → Bool) (dir : Directory ν κ) : Option κ :=
  (newest isBackup dir).bind fun name => lookup name dir

theorem newest_eq_some_iff
    : newest isBackup dir = some name
      ↔ ((lookup name dir).isSome = true ∧ isBackup name = true)
        ∧ ∀ other, (lookup other dir).isSome = true → isBackup other = true → other ≤ name := by
  rw [newest, List.max?_eq_some_iff]
  simp only [List.mem_filter, lookup_isSome_iff, and_imp]

theorem newest_eq_none_iff
    : newest isBackup dir = none
      ↔ ∀ other, (lookup other dir).isSome = true → isBackup other = false := by
  simp only [newest, List.max?_eq_none_iff, List.filter_eq_nil_iff, lookup_isSome_iff,
    Bool.not_eq_true]

/-- The newest backup depends only on what is under the names of backups. -/
theorem newestContent_congr {dir' : Directory ν κ}
    (same : ∀ name, isBackup name = true → lookup name dir' = lookup name dir)
    : newestContent isBackup dir' = newestContent isBackup dir := by
  unfold newestContent
  cases found : newest isBackup dir with
  | none =>
      have none_ : newest isBackup dir' = none := by
        rw [newest_eq_none_iff] at found ⊢
        intro other present
        cases backup : isBackup other with
        | false => rfl
        | true =>
            rw [same other backup] at present
            rw [← backup]
            exact found other present
      rw [none_]
      rfl
  | some name =>
      obtain ⟨⟨present, backup⟩, greatest⟩ := newest_eq_some_iff.mp found
      have found' : newest isBackup dir' = some name := by
        refine newest_eq_some_iff.mpr ⟨⟨by rwa [same name backup], backup⟩, ?_⟩
        intro other presentOther backupOther
        rw [same other backupOther] at presentOther
        exact greatest other presentOther backupOther
      rw [found']
      exact same name backup

/-- No backup at all is what the newest one being absent means. -/
theorem newestContent_eq_none_iff
    : newestContent isBackup dir = none
      ↔ ∀ other, isBackup other = true → lookup other dir = none := by
  unfold newestContent
  cases found : newest isBackup dir with
  | none =>
      rw [newest_eq_none_iff] at found
      refine iff_of_true rfl fun other backup => ?_
      cases present : lookup other dir with
      | none => rfl
      | some content =>
          rw [found other (by rw [present]; rfl)] at backup
          cases backup
  | some name =>
      obtain ⟨⟨present, backup⟩, _⟩ := newest_eq_some_iff.mp found
      refine iff_of_false ?_ fun absent => ?_
      · rw [Option.bind_some]
        intro absent
        rw [absent] at present
        cases present
      · rw [absent name backup] at present
        cases present

/-- A backup that is written below another one is not the newest. -/
theorem newestContent_put_of_below {greater : ν} (backup : isBackup greater = true)
    (present : (lookup greater dir).isSome = true) (less : name < greater)
    : newestContent isBackup (put name content dir) = newestContent isBackup dir := by
  cases found : newest isBackup dir with
  | none =>
      rw [newest_eq_none_iff.mp found greater present] at backup
      cases backup
  | some top =>
      obtain ⟨⟨presentTop, backupTop⟩, greatest⟩ := newest_eq_some_iff.mp found
      have aboveName : name < top := lt_of_lt_of_le less (greatest greater present backup)
      have stays : lookup top (put name content dir) = lookup top dir :=
        lookup_put_other aboveName.ne'
      have found' : newest isBackup (put name content dir) = some top := by
        refine newest_eq_some_iff.mpr ⟨⟨by rwa [stays], backupTop⟩, ?_⟩
        intro other presentOther backupOther
        by_cases same : other = name
        · exact same ▸ aboveName.le
        · rw [lookup_put_other same] at presentOther
          exact greatest other presentOther backupOther
      rw [newestContent, found', newestContent, found, Option.bind_some, Option.bind_some, stays]

/-- A backup that no other one is above is the newest once it is written. -/
theorem newestContent_put_of_top (backup : isBackup name = true)
    (top : ∀ other, isBackup other = true → (lookup other dir).isSome = true → other ≤ name)
    : newestContent isBackup (put name content dir) = some content := by
  have found : newest isBackup (put name content dir) = some name := by
    refine newest_eq_some_iff.mpr ⟨⟨by rw [lookup_put_same]; rfl, backup⟩, ?_⟩
    intro other presentOther backupOther
    by_cases same : other = name
    · exact same.le
    · rw [lookup_put_other same] at presentOther
      exact top other backupOther presentOther
  rw [newestContent, found, Option.bind_some, lookup_put_same]

end newest

end StorageBallast.NamedFiles
