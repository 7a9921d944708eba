import StorageBallast.Ballast.BallastFiles

/-! Provisioning of a pool, file by file: intact files stay, orphans go, and what is missing
is created while there is space for it.
-/

namespace StorageBallast.PoolFiles

open scoped Float64

/-- An entry of the report's errors. -/
inductive ProvisionFault (F : Type) where
  | lowSpace (index : Nat) (free : F)
  | storageExhausted (index : Nat) (path : PathBuf) (error : CreateError)
  | failed (index : Nat) (error : CreateError)

namespace ProvisionFault

variable {F : Type}

def index : ProvisionFault F → Nat
  | lowSpace index _ => index
  | storageExhausted index _ _ => index
  | failed index _ => index

def Aborts : ProvisionFault F → Prop
  | lowSpace _ _ => True
  | storageExhausted _ _ _ => True
  | failed _ _ => False

def text [Float64 F] : ProvisionFault F → String
  | lowSpace index free =>
      "aborted at file " ++ toString index ++ ": free space " ++ Float64.toFixed 1 free
        ++ "% < 20%"
  | storageExhausted index path error =>
      "file " ++ toString index ++ ": storage exhausted while creating ballast at "
        ++ path.text ++ "; skipping remaining ballast provisioning so scanner and cleanup "
        ++ "defenses can continue. Reduce ballast.file_count or ballast.file_size_bytes, "
        ++ "free space, or run `sbh ballast replenish` after pressure clears: "
        ++ error.toSbhError.toString
  | failed index error => "file " ++ toString index ++ ": " ++ error.toSbhError.toString

end ProvisionFault

structure ProvisionReport (F : Type) where
  filesCreated : Nat
  filesSkipped : Nat
  totalBytes : Nat
  errors : List (ProvisionFault F)

/-- What provisioning meets: a codec, the free-space check if there is one, and what the
system answers for each file.
-/
structure ProvisionWorld (F : Type) where
  codec : HeaderCodec
  freePctCheck : Option (Nat → F)
  answers : Nat → CreationAnswers

def isOrphan (config : PoolConfig) (index : Nat) : Bool :=
  decide (config.fileCount < index) || index == 0

def pruneOrphans (config : PoolConfig) (dir : PoolDir) : PoolDir := fun name =>
  if (ballastFileIndex name).any (isOrphan config) then none else dir name

def isValid (codec : HeaderCodec) (config : PoolConfig) (dir : PoolDir) (index : Nat) : Bool :=
  (dir (ballastFileName index)).any fun file =>
    (verifySingleFile codec config file index).toBool

def scanExisting (codec : HeaderCodec) (config : PoolConfig) (dir : PoolDir)
    : List BallastFile :=
  config.indices.filterMap fun index =>
    (dir (ballastFileName index)).map fun file =>
      ⟨index, file.bytes.length, (verifySingleFile codec config file index).toBool⟩

namespace ProvisionWorld

variable {F : Type} [Float64 F]

def lowSpace (self : ProvisionWorld F) (index : Nat) : Option F :=
  (self.freePctCheck.map (· index)).filter fun free => Float64.lt free (20.0 : F)

end ProvisionWorld

inductive Visit (F : Type) where
  | skipped
  | created (dir : PoolDir) (size : Nat)
  | faulted (dir : PoolDir) (fault : ProvisionFault F) (aborts : Bool)

/-- `record_create_error`, with whether the loop breaks. -/
def recordCreateError {F : Type} (config : PoolConfig) (index : Nat) (error : CreateError)
    : ProvisionFault F × Bool :=
  if isStorageExhaustedError error then
    (.storageExhausted index (config.filePath index) error, true)
  else (.failed index error, false)

section Loop

variable {F : Type} [Float64 F] (world : ProvisionWorld F) (config : PoolConfig)

/-- The body of the loop for one index. -/
def visit (dir : PoolDir) (index : Nat) : Visit F :=
  if isValid world.codec config dir index then .skipped
  else
    -- a corrupted file is removed before it is recreated
    let cleared := dir.remove (ballastFileName index)
    match world.lowSpace index with
    | some free => .faulted cleared (.lowSpace index free) true
    | none =>
        match createBallastFile world.codec config (world.answers index) index with
        | .ok file =>
            .created (cleared.write (ballastFileName index) file) file.bytes.length
        | .error error =>
            let recorded := recordCreateError config index error
            .faulted cleared recorded.1 recorded.2

/-- The loop of `provision` over the indices, and of `replenish_one`, which ends with the first
file created.
-/
def provisionFiles (onlyOne : Bool)
    : List Nat → PoolDir → ProvisionReport F → PoolDir × ProvisionReport F
  | [], dir, report => (dir, report)
  | index :: rest, dir, report =>
      match visit world config dir index with
      | .skipped =>
          provisionFiles onlyOne rest dir
            { report with filesSkipped := report.filesSkipped + 1 }
      | .created made size =>
          let grown := { report with
            filesCreated := report.filesCreated + 1
            totalBytes := report.totalBytes + size }
          if onlyOne then (made, grown) else provisionFiles onlyOne rest made grown
      | .faulted cleared fault aborts =>
          let reported := { report with errors := report.errors ++ [fault] }
          if aborts then (cleared, reported)
          else provisionFiles onlyOne rest cleared reported

/-- `provision` and `replenish_one`, which share all but the end of their loops: the inventory
that is left, the directory and the report.
-/
def provisionWith (onlyOne : Bool) (dir : PoolDir)
    : List BallastFile × PoolDir × ProvisionReport F :=
  let done := provisionFiles world config onlyOne config.indices (pruneOrphans config dir)
    ⟨0, 0, 0, []⟩
  (scanExisting world.codec config done.1, done)

def provision (dir : PoolDir) : List BallastFile × PoolDir × ProvisionReport F :=
  provisionWith world config false dir

def replenishOne (dir : PoolDir) : List BallastFile × PoolDir × ProvisionReport F :=
  provisionWith world config true dir

/-! One visit -/

/-- A visit skips a valid file, creates the file, or reports a fault at the index with the
file gone.
-/
theorem visit_cases (dir : PoolDir) (index : Nat)
    : (visit world config dir index = .skipped
        ∧ isValid world.codec config dir index = true)
      ∨ (∃ file, visit world config dir index
            = .created (dir.write (ballastFileName index) file) file.bytes.length
          ∧ createBallastFile world.codec config (world.answers index) index = .ok file
          ∧ world.lowSpace index = none)
      ∨ ∃ fault aborts, visit world config dir index
            = .faulted (dir.remove (ballastFileName index)) fault aborts
          ∧ fault.index = index ∧ (aborts = true → fault.Aborts) := by
  unfold visit
  split
  next valid => exact .inl ⟨rfl, valid⟩
  next =>
    refine .inr ?_
    cases low : world.lowSpace index with
    | some free => exact .inr ⟨.lowSpace index free, true, rfl, rfl, fun _ => trivial⟩
    | none =>
        cases made : createBallastFile world.codec config (world.answers index) index with
        | ok file =>
            refine .inl ⟨file, ?_, rfl, rfl⟩
            simp only [PoolDir.remove, PoolDir.write, Function.update_idem]
        | error error =>
            refine .inr ⟨_, _, rfl, ?_⟩
            unfold recordCreateError
            split
            · exact ⟨rfl, fun _ => trivial⟩
            · exact ⟨rfl, fun stops => by cases stops⟩

omit [Float64 F] in
theorem isValid_congr {dir later : PoolDir} {index : Nat}
    (same : later (ballastFileName index) = dir (ballastFileName index))
    : isValid world.codec config later index = isValid world.codec config dir index := by
  unfold isValid
  rw [same]

/-- A visit changes no file but the one at its index, and that one only if it is not valid. -/
theorem visit_frame {dir made : PoolDir} {index : Nat} {name : String}
    (kept : name = ballastFileName index → isValid world.codec config dir index = true)
    (visited : (∃ size, visit world config dir index = .created made size)
      ∨ ∃ fault aborts, visit world config dir index = .faulted made fault aborts)
    : made name = dir name := by
  have apart : name ≠ ballastFileName index := by
    intro same
    have skips : visit world config dir index = .skipped := if_pos (kept same)
    simp [skips] at visited
  rcases visit_cases world config dir index with ⟨skips, _⟩ | ⟨file, creates, _⟩
    | ⟨fault, aborts, faults, _⟩
  · simp [skips] at visited
  · simp only [creates, Visit.created.injEq, reduceCtorEq, exists_false, or_false] at visited
    obtain ⟨_, rfl, _⟩ := visited
    exact Function.update_of_ne apart _ _
  · simp only [faults, Visit.faulted.injEq, reduceCtorEq, exists_false, false_or] at visited
    obtain ⟨_, _, rfl, _⟩ := visited
    exact Function.update_of_ne apart _ _

/-! A run over the indices -/

variable {indices : List Nat} {report : ProvisionReport F}

/-- What is not visited or is valid stays as it is, by induction on the indices. -/
theorem provisionFiles_frame (onlyOne : Bool) {dir : PoolDir} {name : String}
    (kept : ∀ index ∈ indices, name = ballastFileName index →
      isValid world.codec config dir index = true)
    : (provisionFiles world config onlyOne indices dir report).1 name = dir name := by
  induction indices generalizing dir report with
  | nil => rfl
  | cons index rest ih =>
      have keptRest := fun other member => kept other (List.mem_cons_of_mem _ member)
      -- what the visit leaves is as good for the name
      have onward {made : PoolDir} (same : made name = dir name) : ∀ other ∈ rest,
          name = ballastFileName other → isValid world.codec config made other = true := by
        intro other member named
        have sameFile : made (ballastFileName other) = dir (ballastFileName other) :=
          named ▸ same
        rw [isValid_congr world config sameFile]
        exact keptRest other member named
      unfold provisionFiles
      split
      next => exact ih keptRest
      next made size visited =>
        have same := visit_frame world config (kept index List.mem_cons_self)
          (.inl ⟨size, visited⟩)
        dsimp only
        split
        · exact same
        · exact (ih (onward same)).trans same
      next cleared fault aborts visited =>
        have same := visit_frame world config (kept index List.mem_cons_self)
          (.inr ⟨fault, aborts, visited⟩)
        dsimp only
        split
        · exact same
        · exact (ih (onward same)).trans same

theorem provisionFiles_errors (onlyOne : Bool) {dir : PoolDir}
    {fault : ProvisionFault F} (reported : fault ∈ report.errors)
    : fault ∈ (provisionFiles world config onlyOne indices dir report).2.errors := by
  induction indices generalizing dir report with
  | nil => exact reported
  | cons index rest ih =>
      unfold provisionFiles
      split
      next => exact ih reported
      next =>
        dsimp only
        split
        · exact reported
        · exact ih reported
      next =>
        dsimp only
        split
        · exact List.mem_append_left _ reported
        · exact ih (List.mem_append_left _ reported)

/-- An index is settled by a valid file, by a fault reported at it, or by one that aborted the
run before it.
-/
def Settled (codec : HeaderCodec) (config : PoolConfig) (dir : PoolDir)
    (report : ProvisionReport F) (index : Nat) : Prop :=
  isValid codec config dir index = true
  ∨ (∃ fault ∈ report.errors, fault.index = index)
  ∨ ∃ fault ∈ report.errors, fault.Aborts ∧ fault.index < index

/-- Every visited index is settled, by induction on the indices in their order. -/
theorem provisionFiles_settled (lawful : world.codec.Lawful)
    (backed : ∀ index ∈ indices, (world.answers index).Backed config.fileSizeBytes)
    (small : ∀ index ∈ indices, index < 2 ^ 32) (ordered : indices.Pairwise (· < ·))
    (dir : PoolDir) (report : ProvisionReport F)
    : ∀ index ∈ indices,
        Settled world.codec config (provisionFiles world config false indices dir report).1
          (provisionFiles world config false indices dir report).2 index := by
  induction indices generalizing dir report with
  | nil => simp
  | cons head rest ih =>
      obtain ⟨below, orderedRest⟩ := List.pairwise_cons.mp ordered
      have ihRest := ih (fun other member => backed other (List.mem_cons_of_mem _ member))
        (fun other member => small other (List.mem_cons_of_mem _ member)) orderedRest
      -- the rest of the run does not come back to the file of the head
      have stays (made : PoolDir) (grown : ProvisionReport F)
          (valid : isValid world.codec config made head = true) : isValid world.codec config
            (provisionFiles world config false rest made grown).1 head = true := by
        rw [isValid_congr world config (provisionFiles_frame world config false
          fun other member same => ?_)]
        · exact valid
        · have apart := below other member
          have same := ballastFileName_injective (small head List.mem_cons_self)
            (small other (List.mem_cons_of_mem _ member)) same
          omega
      have later {made : PoolDir} {grown : ProvisionReport F}
          (first : Settled world.codec config
            (provisionFiles world config false rest made grown).1
            (provisionFiles world config false rest made grown).2 head)
          : ∀ index ∈ head :: rest, Settled world.codec config
            (provisionFiles world config false rest made grown).1
            (provisionFiles world config false rest made grown).2 index := by
        intro index member
        rcases List.mem_cons.mp member with rfl | member
        · exact first
        · exact ihRest made grown index member
      rcases visit_cases world config dir head with ⟨visited, valid⟩
        | ⟨file, visited, made, _⟩ | ⟨fault, aborts, visited, located, stops⟩
      · simp only [provisionFiles, visited]
        exact later (.inl (stays _ _ valid))
      · simp only [provisionFiles, visited, Bool.false_eq_true, if_false]
        refine later (.inl (stays _ _ ?_))
        have intact := verifySingleFile_created lawful (backed head List.mem_cons_self) made
        simp [isValid, PoolDir.write, intact, Except.toBool]
      · simp only [provisionFiles, visited]
        split
        next aborted =>
          intro index member
          have reported : fault ∈ report.errors ++ [fault] := List.mem_append_right _ (by simp)
          rcases List.mem_cons.mp member with rfl | member
          · exact .inr (.inl ⟨fault, reported, located⟩)
          · exact .inr (.inr ⟨fault, reported, stops aborted, located ▸ below index member⟩)
        next =>
          refine later (.inr (.inl ⟨fault, ?_, located⟩))
          exact provisionFiles_errors world config false (List.mem_append_right _ (by simp))

def Created (before after : PoolDir) (name : String) : Prop :=
  after name ≠ none ∧ after name ≠ before name

/-- What is created has the name of a visited index before which there was space, by induction
on the indices.
-/
theorem provisionFiles_created (onlyOne : Bool) {dir : PoolDir} {name : String}
    (created : Created dir (provisionFiles world config onlyOne indices dir report).1 name)
    : ∃ index ∈ indices, name = ballastFileName index ∧ world.lowSpace index = none := by
  induction indices generalizing dir report with
  | nil => exact absurd rfl created.2
  | cons index rest ih =>
      -- a file that differs from what the visit left is created by the rest of the run
      have onward {made : PoolDir} {grown : ProvisionReport F}
          (there : (provisionFiles world config onlyOne rest made grown).1 name ≠ none)
          (differs : (provisionFiles world config onlyOne rest made grown).1 name ≠ made name)
          : ∃ other ∈ index :: rest,
              name = ballastFileName other ∧ world.lowSpace other = none := by
        obtain ⟨other, member, found⟩ := ih ⟨there, differs⟩
        exact ⟨other, List.mem_cons_of_mem _ member, found⟩
      rcases visit_cases world config dir index with ⟨visited, _⟩
        | ⟨file, visited, _, space⟩ | ⟨fault, aborts, visited, _⟩
      · simp only [provisionFiles, visited] at created
        exact onward created.1 created.2
      · by_cases here : name = ballastFileName index
        · exact ⟨index, List.mem_cons_self, here, space⟩
        have kept : dir.write (ballastFileName index) file name = dir name :=
          Function.update_of_ne here _ _
        simp only [provisionFiles, visited] at created
        split at created
        · exact absurd kept created.2
        · exact onward created.1 (kept ▸ created.2)
      · have gone : dir.remove (ballastFileName index) name = none
            ∨ dir.remove (ballastFileName index) name = dir name := by
          by_cases here : name = ballastFileName index
          · exact .inl (here ▸ Function.update_self _ _ _)
          · exact .inr (Function.update_of_ne here _ _)
        simp only [provisionFiles, visited] at created
        split at created
        · exact (gone.elim created.1 created.2).elim
        · refine onward created.1 fun same => ?_
          exact gone.elim (fun absent => created.1 (same.trans absent))
            fun kept => created.2 (same.trans kept)

/-- Without space before any file, none is counted as created, by induction on the indices. -/
theorem provisionFiles_without_space (onlyOne : Bool)
    (low : ∀ index ∈ indices, world.lowSpace index ≠ none) (dir : PoolDir)
    (report : ProvisionReport F)
    : (provisionFiles world config onlyOne indices dir report).2.filesCreated
        = report.filesCreated := by
  induction indices generalizing dir report with
  | nil => rfl
  | cons index rest ih =>
      have ihRest := ih fun other member => low other (List.mem_cons_of_mem _ member)
      rcases visit_cases world config dir index with ⟨visited, _⟩
        | ⟨_, _, _, space⟩ | ⟨fault, aborts, visited, _⟩
      · simp only [provisionFiles, visited, ihRest]
      · exact absurd space (low index List.mem_cons_self)
      · cases aborts <;> simp [provisionFiles, visited, ihRest]

/-- A run that ends with the first file created creates and counts at most that one. -/
theorem provisionFiles_only_one (indices : List Nat) (dir : PoolDir)
    (report : ProvisionReport F)
    : (provisionFiles world config true indices dir report).2.filesCreated
        ≤ report.filesCreated + 1
      ∧ ∃ only, ∀ name,
        Created dir (provisionFiles world config true indices dir report).1 name
          → name = only := by
  induction indices generalizing dir report with
  | nil => exact ⟨Nat.le_succ _, "", fun _ created => absurd rfl created.2⟩
  | cons index rest ih =>
      rcases visit_cases world config dir index with ⟨visited, _⟩
        | ⟨file, visited, _⟩ | ⟨fault, aborts, visited, _⟩
      · simp only [provisionFiles, visited]
        exact ih dir _
      · simp only [provisionFiles, visited, if_true]
        refine ⟨le_rfl, ballastFileName index, fun name created => ?_⟩
        by_contra elsewhere
        exact created.2 (Function.update_of_ne elsewhere _ _)
      · simp only [provisionFiles, visited]
        split
        · refine ⟨Nat.le_succ _, "", fun name created => ?_⟩
          by_cases here : name = ballastFileName index
          · exact absurd (here ▸ Function.update_self _ _ _) created.1
          · exact absurd (Function.update_of_ne here _ _) created.2
        · obtain ⟨counted, only, unique⟩ := ih (dir.remove (ballastFileName index)) _
          refine ⟨counted, only, fun name created => unique name ⟨created.1, fun same => ?_⟩⟩
          -- what the fault left was there before, or is nothing
          by_cases here : name = ballastFileName index
          · exact created.1 (same.trans (here ▸ Function.update_self _ _ _))
          · exact created.2 (same.trans (Function.update_of_ne here _ _))

/-- Where every file is valid nothing happens but the count, by induction on the indices. -/
theorem provisionFiles_of_valid (onlyOne : Bool) {dir : PoolDir}
    (valid : ∀ index ∈ indices, isValid world.codec config dir index = true)
    (report : ProvisionReport F)
    : provisionFiles world config onlyOne indices dir report
        = (dir, { report with filesSkipped := report.filesSkipped + indices.length }) := by
  induction indices generalizing report with
  | nil => rfl
  | cons index rest ih =>
      have skips : visit world config dir index = .skipped :=
        if_pos (valid index List.mem_cons_self)
      simp only [provisionFiles, skips,
        ih fun other member => valid other (List.mem_cons_of_mem _ member)]
      rw [List.length_cons, Nat.add_assoc, Nat.add_comm 1]

end Loop

/-! The whole operations -/

variable {config : PoolConfig}

theorem indices_bounds {index : Nat} (member : index ∈ config.indices)
    : 1 ≤ index ∧ index ≤ config.fileCount := by
  have bounds := List.mem_range'_1.mp member
  omega

theorem indices_small {index : Nat} (member : index ∈ config.indices)
    : index < 2 ^ 32 :=
  lt_of_le_of_lt (indices_bounds member).2 config.fileCount_lt

theorem isOrphan_of_mem {index : Nat} (member : index ∈ config.indices)
    : isOrphan config index = false := by
  have := indices_bounds member
  simp only [isOrphan, Bool.or_eq_false_iff, decide_eq_false_iff_not, beq_eq_false_iff_ne]
  omega

theorem pruneOrphans_of_mem {index : Nat} (member : index ∈ config.indices) (dir : PoolDir)
    : pruneOrphans config dir (ballastFileName index) = dir (ballastFileName index) := by
  unfold pruneOrphans
  rw [ballastFileIndex_ballastFileName (indices_small member), Option.any_some,
    isOrphan_of_mem member, if_neg Bool.false_ne_true]

theorem pruneOrphans_of_absent {dir : PoolDir}
    (absent : ∀ name index, ballastFileIndex name = some index →
      isOrphan config index = true → dir name = none)
    : pruneOrphans config dir = dir := by
  funext name
  unfold pruneOrphans
  split
  next found =>
    cases read : ballastFileIndex name with
    | none => simp [read] at found
    | some index =>
        rw [read, Option.any_some] at found
        exact (absent name index read found).symm
  next => rfl

section Operations

variable {F : Type} [Float64 F] (world : ProvisionWorld F) (config : PoolConfig)

/-- Whatever is created over the pruned directory is created over the directory itself, with
the name of a configured index.
-/
theorem provisionWith_created {onlyOne : Bool} {dir : PoolDir} {name : String}
    (created : Created dir (provisionWith world config onlyOne dir).2.1 name)
    : Created (pruneOrphans config dir) (provisionWith world config onlyOne dir).2.1 name := by
  refine ⟨created.1, fun same => ?_⟩
  rcases (inferInstance : Decidable ((ballastFileIndex name).any (isOrphan config) = true))
    with kept | pruned
  · exact created.2 (same.trans (if_neg kept))
  · exact created.1 (same.trans (if_pos pruned))

theorem provisionWith_orphans (onlyOne : Bool) (dir : PoolDir) {name : String} {index : Nat}
    (read : ballastFileIndex name = some index) (orphan : isOrphan config index = true)
    : (provisionWith world config onlyOne dir).2.1 name = none := by
  have pruned : pruneOrphans config dir name = none := if_pos (by simp [read, orphan])
  by_contra there
  obtain ⟨other, member, rfl, _⟩ := provisionFiles_created world config onlyOne
    ⟨there, fun same => there (same.trans pruned)⟩
  rw [ballastFileIndex_ballastFileName (indices_small member)] at read
  obtain rfl := Option.some.inj read
  exact Bool.false_ne_true ((isOrphan_of_mem member).symm.trans orphan)

/-- Provisioning settles every configured index, leaves no orphan and no valid file changed,
and has nothing left to do once it ended without errors; a gradual replenishment creates at
most one file; and neither creates a file without the space for it.
-/
theorem provision_settles (lawful : world.codec.Lawful)
    (backed : ∀ index ∈ config.indices,
      (world.answers index).Backed config.fileSizeBytes) (dir : PoolDir)
    : (∀ index ∈ config.indices, Settled world.codec config (provision world config dir).2.1
          (provision world config dir).2.2 index)
      ∧ (∀ name index, ballastFileIndex name = some index →
          index = 0 ∨ config.fileCount < index → (provision world config dir).2.1 name = none)
      ∧ (∀ index ∈ config.indices, isValid world.codec config dir index = true →
          (provision world config dir).2.1 (ballastFileName index)
            = dir (ballastFileName index))
      ∧ ((provision world config dir).2.2.errors = [] →
          ∀ again : ProvisionWorld F, again.codec = world.codec →
            (provision again config (provision world config dir).2.1).2
              = ((provision world config dir).2.1, ⟨0, config.fileCount, 0, []⟩))
      ∧ ((replenishOne world config dir).2.2.filesCreated ≤ 1
        ∧ ∃ only, ∀ name, Created dir (replenishOne world config dir).2.1 name → name = only)
      ∧ (∀ onlyOne index, index < 2 ^ 32 → world.lowSpace index ≠ none →
          ¬ Created dir (provisionWith world config onlyOne dir).2.1 (ballastFileName index))
      ∧ ∀ onlyOne, (∀ index ∈ config.indices, world.lowSpace index ≠ none) →
          (provisionWith world config onlyOne dir).2.2.filesCreated = 0 := by
  have settled : ∀ index ∈ config.indices, Settled world.codec config
      (provision world config dir).2.1 (provision world config dir).2.2 index :=
    provisionFiles_settled world config lawful backed (fun _ => indices_small)
      List.pairwise_lt_range' _ _
  have orphans (name : String) (index : Nat) (read : ballastFileIndex name = some index)
      (orphan : isOrphan config index = true) : (provision world config dir).2.1 name = none :=
    provisionWith_orphans world config false dir read orphan
  refine ⟨settled, fun name index read beyond => ?_, fun index member valid => ?_,
    fun clean again sameCodec => ?_, ?_, fun onlyOne index small low created => ?_,
    fun onlyOne low => provisionFiles_without_space world config onlyOne low _ _⟩
  · refine orphans name index read ?_
    simp only [isOrphan, Bool.or_eq_true, decide_eq_true_eq, beq_iff_eq]
    exact beyond.symm
  · refine (provisionFiles_frame world config false fun other among same => ?_).trans
      (pruneOrphans_of_mem member dir)
    obtain rfl := ballastFileName_injective (indices_small member) (indices_small among) same
    rw [isValid_congr world config (pruneOrphans_of_mem member dir)]
    exact valid
  · -- without an error every index is settled by a valid file
    have valid (index : Nat) (member : index ∈ config.indices)
        : isValid again.codec config (provision world config dir).2.1 index = true := by
      rcases settled index member with valid | ⟨fault, reported, _⟩ | ⟨fault, reported, _⟩
      · exact sameCodec ▸ valid
      · simp [clean] at reported
      · simp [clean] at reported
    unfold provision at orphans valid ⊢
    rw [provisionWith, pruneOrphans_of_absent orphans,
      provisionFiles_of_valid again config false valid, PoolConfig.indices,
      List.length_range', Nat.zero_add]
  · obtain ⟨counted, only, unique⟩ := provisionFiles_only_one world config config.indices
      (pruneOrphans config dir) ⟨0, 0, 0, []⟩
    exact ⟨counted, only, fun name created =>
      unique name (provisionWith_created world config created)⟩
  · obtain ⟨other, member, same, space⟩ := provisionFiles_created world config onlyOne
      (provisionWith_created world config created)
    obtain rfl := ballastFileName_injective small (indices_small member) same
    exact low space

end Operations

def firstHeader : BallastHeader := .new "2026-05-07T01:02:03.000Z" 1 12288

def firstHeaderJson : String :=
  "\x7b\"magic\":\"SBH_BALLAST_v1\",\"file_index\":1,"
    ++ "\"created_at\":\"2026-05-07T01:02:03.000Z\",\"file_size\":12288,"
    ++ "\"purpose\":\"Storage ballast for emergency space recovery\"\x7d"

def firstHeaderCodec : HeaderCodec where
  toJson header :=
    if header = firstHeader then .ok firstHeaderJson else .error "unknown header"
  fromJson text :=
    if text = firstHeaderJson then .ok firstHeader
    else .error "expected value at line 1 column 1"

theorem firstHeaderCodec_lawful : firstHeaderCodec.Lawful := by
  constructor
  · intro header text written
    by_cases known : header = firstHeader
    · subst known
      obtain rfl : firstHeaderJson = text := by simpa [firstHeaderCodec] using written
      simp [firstHeaderCodec]
    · simp [firstHeaderCodec, known] at written
  · intro header text written
    by_cases known : header = firstHeader
    · subst known
      obtain rfl : firstHeaderJson = text := by simpa [firstHeaderCodec] using written
      decide +kernel
    · simp [firstHeaderCodec, known] at written

/-- One file of 12 KiB on a platform without preallocation, at 60 percent free. -/
def onePool : PoolConfig := ⟨⟨"/data/.sbh/ballast"⟩, 1, 12288, false, by decide⟩

def oneFileWorld : ProvisionWorld ℚ where
  codec := firstHeaderCodec
  freePctCheck := some fun _ => 60
  answers _ :=
    { createdAt := "2026-05-07T01:02:03.000Z"
      osName := "linux"
      reserve := .error (.pal (.notImplemented "linux" "preallocate_file" none))
      writeHeader := .ok ()
      openTruncated := .ok ()
      randomByte := fun offset => UInt8.ofNat (offset * 37 + 11)
      writeChunk := fun _ => .ok ()
      syncChunk := fun _ => .ok ()
      syncAll := .ok ()
      blocks := 24 }

theorem onePool_settles
    : Settled firstHeaderCodec onePool
        (provision oneFileWorld onePool fun _ => none).2.1
        (provision oneFileWorld onePool fun _ => none).2.2 1 := by
  have counted : allocatedBytes 24 = some 12288 := by decide
  have settles := provision_settles oneFileWorld onePool firstHeaderCodec_lawful
    (fun _ _ => ⟨12288, counted, le_rfl⟩) fun _ => none
  exact settles.1 1 (by decide)

/-! The pool as a manager sees it, by its indices -/

def indexedFile (codec : HeaderCodec) (config : PoolConfig) (index : Nat)
    (file : RegularFile) : FileOnDisk :=
  ⟨file.bytes.length, (verifySingleFile codec config file index).toBool⟩

def indexedDir (codec : HeaderCodec) (config : PoolConfig) (dir : PoolDir) : BallastDir where
  files index :=
    if index < 2 ^ 32 then (dir (ballastFileName index)).map (indexedFile codec config index)
    else none

def indexedFault {F : Type} : ProvisionFault F → ProvisionError
  | .lowSpace index _ => .lowSpace index
  | .storageExhausted index _ _ => .storageExhausted index
  | .failed index _ => .failed index

def indexedReport {F : Type} (report : ProvisionReport F) : StorageBallast.ProvisionReport where
  filesCreated := report.filesCreated
  filesSkipped := report.filesSkipped
  totalBytes := report.totalBytes
  errors := report.errors.map indexedFault

section Refinement

variable {F : Type} [Float64 F] (world : ProvisionWorld F) (config : PoolConfig)

def indexedAnswers : ProvisionAnswers where
  lowSpace index := (world.lowSpace index).isSome
  createBallastFile index :=
    match createBallastFile world.codec config (world.answers index) index with
    | .ok file => .created (indexedFile world.codec config index file)
    | .error error => if isStorageExhaustedError error then .storageExhausted else .failed

theorem indexedDir_files {codec : HeaderCodec} {dir : PoolDir} {index : Nat}
    (small : index < 2 ^ 32) : (indexedDir codec config dir).files index
      = (dir (ballastFileName index)).map (indexedFile codec config index) :=
  if_pos small

theorem indexedDir_update {codec : HeaderCodec} (dir : PoolDir) {index : Nat}
    (small : index < 2 ^ 32) (file : Option RegularFile)
    : indexedDir codec config (Function.update dir (ballastFileName index) file)
      = ⟨Function.update (indexedDir codec config dir).files index
          (file.map (indexedFile codec config index))⟩ := by
  refine congrArg BallastDir.mk (funext fun other => ?_)
  by_cases here : other = index
  · subst here
    rw [if_pos small, Function.update_self, Function.update_self]
  · rw [Function.update_of_ne here]
    unfold indexedDir
    dsimp only
    split
    next fits =>
      have apart : ballastFileName other ≠ ballastFileName index :=
        fun same => here (ballastFileName_injective fits small same)
      rw [Function.update_of_ne apart]
    next => rfl

/-- The loop over names and bytes is the manager's loop over indices, by induction on the
indices.
-/
theorem provisionFiles_refines (onlyOne : Bool) {indices : List Nat}
    (small : ∀ index ∈ indices, index < 2 ^ 32) (dir : PoolDir) (report : ProvisionReport F)
    : BallastManager.provisionFiles (indexedAnswers world config) onlyOne indices
        (indexedDir world.codec config dir) (indexedReport report)
      = (indexedDir world.codec config
          (provisionFiles world config onlyOne indices dir report).1,
        indexedReport (provisionFiles world config onlyOne indices dir report).2) := by
  induction indices generalizing dir report with
  | nil => rfl
  | cons index rest ih =>
      have smallIndex := small index List.mem_cons_self
      have ihRest := ih fun other member => small other (List.mem_cons_of_mem _ member)
      have intact : ((indexedDir world.codec config dir).files index).any (·.intact)
          = isValid world.codec config dir index := by
        rw [indexedDir_files config smallIndex, Option.any_map]
        rfl
      have removed : (indexedDir world.codec config dir).remove index
          = indexedDir world.codec config (dir.remove (ballastFileName index)) :=
        (indexedDir_update config dir smallIndex none).symm
      have written (made : PoolDir) (file : RegularFile)
          : (indexedDir world.codec config made).create index
              (indexedFile world.codec config index file)
            = indexedDir world.codec config (made.write (ballastFileName index) file) :=
        (indexedDir_update config made smallIndex (some file)).symm
      -- The ways through one turn of the loop, in the order of its checks.
      by_cases valid : isValid world.codec config dir index = true
      · simp only [BallastManager.provisionFiles, provisionFiles, visit, intact, valid, if_true]
        exact ihRest dir { report with filesSkipped := report.filesSkipped + 1 }
      cases low : world.lowSpace index with
      | some free =>
          simp [BallastManager.provisionFiles, provisionFiles, visit, intact, valid, removed,
            indexedAnswers, low, indexedReport, indexedFault]
      | none =>
          cases made : createBallastFile world.codec config (world.answers index) index with
          | ok file =>
              simp only [BallastManager.provisionFiles, provisionFiles, visit, intact, valid,
                removed, indexedAnswers, low, made, written, Bool.false_eq_true, if_false,
                Option.isSome_none]
              split
              next => rfl
              next =>
                exact ihRest _ { report with
                  filesCreated := report.filesCreated + 1
                  totalBytes := report.totalBytes + file.bytes.length }
          | error error =>
              cases exhausted : isStorageExhaustedError error with
              | true =>
                  simp [BallastManager.provisionFiles, provisionFiles, visit, intact, valid,
                    removed, indexedAnswers, low, made, recordCreateError, exhausted,
                    indexedReport, indexedFault]
              | false =>
                  simp only [BallastManager.provisionFiles, provisionFiles, visit, intact,
                    valid, removed, indexedAnswers, low, made, recordCreateError, exhausted,
                    Bool.false_eq_true, if_false, Option.isSome_none]
                  rw [← ihRest]
                  simp [indexedReport, indexedFault, indexedAnswers]

theorem pruneOrphans_refines (codec : HeaderCodec) (dir : PoolDir)
    : BallastManager.pruneOrphans config.toBallastConfig (indexedDir codec config dir)
      = indexedDir codec config (pruneOrphans config dir) := by
  refine congrArg BallastDir.mk (funext fun index => ?_)
  have bound := config.fileCount_lt
  by_cases small : index < 2 ^ 32
  · rw [indexedDir_files config small, if_pos small, pruneOrphans,
      ballastFileIndex_ballastFileName small]
    by_cases orphan : config.fileCount < index ∨ index = 0
    · have named : isOrphan config index = true := by simpa [isOrphan] using orphan
      rw [Option.any_some, named, if_pos rfl, Option.map_none]
      exact if_pos orphan
    · have named : isOrphan config index = false := by simpa [isOrphan] using orphan
      rw [Option.any_some, named, if_neg Bool.false_ne_true]
      exact if_neg orphan
  · have beyond : config.fileCount < index := by omega
    rw [if_neg small]
    exact if_pos (.inl beyond)

/-- A pool's files, read by their indices, do what the manager does. -/
theorem provisionWith_refines (onlyOne : Bool) (dir : PoolDir) (inventory : List BallastFile)
    : BallastManager.provisionWith onlyOne ⟨config.toBallastConfig, inventory⟩
        (indexedAnswers world config) (indexedDir world.codec config dir)
      = (⟨config.toBallastConfig, (provisionWith world config onlyOne dir).1⟩,
        indexedDir world.codec config (provisionWith world config onlyOne dir).2.1,
        indexedReport (provisionWith world config onlyOne dir).2.2) := by
  have small : ∀ index ∈ config.indices, index < 2 ^ 32 := fun _ => indices_small
  have looped := provisionFiles_refines world config onlyOne small (pruneOrphans config dir)
    ⟨0, 0, 0, []⟩
  have scanned (left : PoolDir)
      : BallastManager.scanExisting config.toBallastConfig
          (indexedDir world.codec config left) = scanExisting world.codec config left := by
    refine List.filterMap_congr fun index member => ?_
    rw [indexedDir_files config (small index member), Option.map_map]
    rfl
  rw [← pruneOrphans_refines] at looped
  unfold provisionWith
  dsimp only
  rw [← scanned]
  exact congrArg (fun done : BallastDir × StorageBallast.ProvisionReport =>
    (BallastManager.mk config.toBallastConfig
      (BallastManager.scanExisting config.toBallastConfig done.1), done)) looped

end Refinement

end StorageBallast.PoolFiles
