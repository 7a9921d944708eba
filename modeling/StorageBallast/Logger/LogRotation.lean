import StorageBallast.Logger.LineAccounting

/-! Rotation while the file system does what it is asked to. The files are a row that is moved on
by one place for each new file; the last place drops what it holds.
-/

namespace StorageBallast

structure LogFile where
  content : List UInt8
  written : Bool

/-- The current file, the earlier ones by their numbers, and what has been dropped. -/
structure FileRow where
  current : LogFile
  rotated : Nat → Option LogFile
  dropped : List LogFile

namespace FileRow

def found (family : LogFamily) : FileRow where
  current := ⟨family.current.getD [], false⟩
  rotated number := (family.rotated number).map (⟨·, false⟩)
  dropped := family.aged.map (⟨·, false⟩)

/-- Each file moves on by one, up to the last number. What has that number is dropped. -/
def rotate (row : FileRow) (kept : Nat) : FileRow where
  current := ⟨[], false⟩
  rotated number :=
    if number = 1 then some row.current
    else if 1 < number ∧ number ≤ kept then row.rotated (number - 1)
    else row.rotated number
  dropped := row.dropped ++ (row.rotated kept).toList

def Crowded (config : JsonlConfig) (row : FileRow) (line : LogLine) : Prop :=
  config.maxSizeBytes < row.current.content.length + line.bytes.length
    ∧ 0 < row.current.content.length

instance (config : JsonlConfig) (row : FileRow) (line : LogLine)
    : Decidable (row.Crowded config line) :=
  inferInstanceAs (Decidable (_ ∧ _))

def makeRoom (config : JsonlConfig) (row : FileRow) (line : LogLine) : FileRow :=
  if row.Crowded config line then row.rotate config.maxRotatedFiles else row

def append (row : FileRow) (line : LogLine) : FileRow :=
  { row with current := ⟨row.current.content ++ line.bytes, true⟩ }

def write (config : JsonlConfig) (row : FileRow) (line : LogLine) : FileRow :=
  (row.makeRoom config line).append line

def writeLines (config : JsonlConfig) (row : FileRow) (lines : List LogLine) : FileRow :=
  lines.foldl (write config) row

theorem writeLines_concat (config : JsonlConfig) (row : FileRow) (lines : List LogLine)
    (line : LogLine)
    : row.writeLines config (lines ++ [line]) = (row.writeLines config lines).write config line :=
  List.foldl_concat ..

def files (row : FileRow) : Set LogFile :=
  { file | file = row.current ∨ (∃ number, row.rotated number = some file) ∨ file ∈ row.dropped }

def Bounded (config : JsonlConfig) (lines : List LogLine) (row : FileRow) : Prop :=
  ∀ file ∈ row.files, file.written = true →
    file.content.length ≤ config.maxSizeBytes ∨ ∃ line ∈ lines, file.content = line.bytes

variable {config : JsonlConfig} {row : FileRow} {lines : List LogLine}

theorem files_rotate {kept : Nat} {file : LogFile} (member : file ∈ (row.rotate kept).files)
    : file = ⟨[], false⟩ ∨ file ∈ row.files := by
  rcases member with fresh | ⟨number, place⟩ | gone
  · exact .inl fresh
  · refine .inr ?_
    unfold rotate at place
    dsimp only at place
    split at place
    · exact .inl (Option.some.inj place).symm
    · split at place
      · exact .inr (.inl ⟨_, place⟩)
      · exact .inr (.inl ⟨_, place⟩)
  · refine .inr (.inr ?_)
    rcases List.mem_append.mp gone with before | last
    · exact .inr before
    · exact .inl ⟨kept, Option.mem_toList.mp last⟩

theorem Bounded.concat (bounded : row.Bounded config lines) (line : LogLine)
    : row.Bounded config (lines ++ [line]) := by
  intro file member written
  refine (bounded file member written).imp_right ?_
  intro ⟨other, among, same⟩
  exact ⟨other, List.mem_append_left _ among, same⟩

theorem Bounded.makeRoom (bounded : row.Bounded config lines) (line : LogLine)
    : (row.makeRoom config line).Bounded config lines := by
  unfold FileRow.makeRoom
  split
  · intro file member written
    rcases files_rotate member with rfl | before
    · cases written
    · exact bounded file before written
  · exact bounded

/-- There is room for the line, or the current file is empty. -/
theorem room_of_makeRoom (row : FileRow) (line : LogLine)
    : (row.makeRoom config line).current.content.length + line.bytes.length
          ≤ config.maxSizeBytes
        ∨ (row.makeRoom config line).current.content = [] := by
  unfold makeRoom
  by_cases crowded : row.Crowded config line
  · rw [if_pos crowded]
    exact .inr rfl
  · rw [if_neg crowded]
    rw [Crowded, not_and_or] at crowded
    rcases crowded with fits | empty
    · exact .inl (by omega)
    · exact .inr (List.length_eq_zero_iff.mp (by omega))

theorem Bounded.write (bounded : row.Bounded config lines) (line : LogLine)
    : (row.write config line).Bounded config (lines ++ [line]) := by
  intro file member written
  rcases member with rfl | elsewhere
  · rcases @room_of_makeRoom config row line with room | empty
    · refine .inl ?_
      simp only [FileRow.write, append, List.length_append]
      exact room
    · refine .inr ⟨line, List.mem_append_right _ (List.mem_singleton_self _), ?_⟩
      simp only [FileRow.write, append, empty, List.nil_append]
  · exact (bounded.makeRoom line).concat line file (.inr elsewhere) written

theorem Bounded.writeLines (bounded : row.Bounded config []) (lines : List LogLine)
    : (row.writeLines config lines).Bounded config lines := by
  induction lines using List.reverseRecOn with
  | nil => exact bounded
  | append_singleton lines line ih =>
      rw [writeLines_concat]
      exact ih.write line

/-- Nothing has been written to the files that the writer finds. -/
theorem bounded_found (family : LogFamily) : (found family).Bounded config [] := by
  intro file member written
  rcases member with rfl | ⟨number, place⟩ | gone
  · cases written
  · obtain ⟨content, _, rfl⟩ := Option.map_eq_some_iff.mp place
    cases written
  · obtain ⟨content, _, rfl⟩ := List.mem_map.mp gone
    cases written

def midway (row : FileRow) (kept left : Nat) : Nat → Option LogFile :=
  fun number =>
    if number ≤ left ∨ kept < number then row.rotated number
    else if number = left + 1 then none
    else row.rotated (number - 1)

end FileRow

namespace LogFamily

/-- The family has these files in their places. -/
structure Holds (family : LogFamily) (rotated : Nat → Option LogFile) (dropped : List LogFile)
    : Prop where
  rotated : ∀ number, family.rotated number = (rotated number).map (·.content)
  aged : family.aged = dropped.map (·.content)

variable {family : LogFamily} {row : FileRow} {dropped : List LogFile} {kept left : Nat}

theorem holds_found (family : LogFamily)
    : family.Holds (FileRow.found family).rotated (FileRow.found family).dropped := by
  constructor
  · intro number
    simp only [FileRow.found]
    cases family.rotated number <;> rfl
  · simp only [FileRow.found, List.map_map]
    exact (List.map_id _).symm

theorem tryRemove_of_none (gone : family.rotated left = none) (removes : Bool)
    : family.tryRemove kept left removes = family := by
  unfold tryRemove remove
  rw [gone]
  exact ite_self _

theorem Holds.age (holds : family.Holds row.rotated row.dropped) (positive : 1 ≤ kept)
    : (family.tryRemove kept kept true).Holds (row.midway kept (kept - 1))
        (row.dropped ++ (row.rotated kept).toList) := by
  have oldest := holds.rotated kept
  unfold tryRemove remove
  rw [if_pos rfl]
  constructor
  · intro number
    have place := holds.rotated number
    unfold FileRow.midway
    by_cases here : number = kept
    · subst here
      rw [if_neg (by omega), if_pos (by omega)]
      split
      · assumption
      · exact Function.update_self ..
    · rw [if_pos (by omega)]
      split
      · exact place
      · exact (Function.update_of_ne here ..).trans place
  · rw [List.map_append, ← holds.aged]
    cases former : row.rotated kept with
    | none =>
        rw [former] at oldest
        simp only [oldest, Option.map_none, Option.toList_none, List.map_nil, List.append_nil]
    | some file =>
        rw [former] at oldest
        simp [oldest]

theorem Holds.shift (holds : family.Holds (row.midway kept (left + 1)) dropped)
    (below : left + 1 < kept)
    : (family.shift kept (left + 1) true true).Holds (row.midway kept left) dropped := by
  have free : family.rotated (left + 1 + 1) = none := by
    rw [holds.rotated, FileRow.midway, if_neg (by omega), if_pos rfl]
    rfl
  have moved := holds.rotated (left + 1)
  rw [FileRow.midway, if_pos (by omega)] at moved
  have elsewhere : ∀ number, number ≠ left + 1 → number ≠ left + 1 + 1 →
      row.midway kept (left + 1) number = row.midway kept left number := by
    intro number notHere notAbove
    unfold FileRow.midway
    by_cases outside : number ≤ left ∨ kept < number
    · rw [if_pos outside, if_pos (by omega)]
    · rw [if_neg outside, if_neg (by omega), if_neg notAbove, if_neg notHere]
  have emptied : row.midway kept left (left + 1) = none := by
    rw [FileRow.midway, if_neg (by omega), if_pos rfl]
  have filled : row.midway kept left (left + 1 + 1) = row.rotated (left + 1) := by
    rw [FileRow.midway, if_neg (by omega), if_neg (by omega), Nat.add_sub_cancel]
  unfold LogFamily.shift
  cases former : family.rotated (left + 1) with
  | none =>
      refine ⟨fun number => ?_, holds.aged⟩
      rw [former] at moved
      by_cases here : number = left + 1
      · rw [here, emptied, former]
        rfl
      · by_cases above : number = left + 1 + 1
        · rw [above, filled, free, ← moved]
        · rw [holds.rotated, elsewhere number here above]
  | some content =>
      rw [former] at moved
      dsimp only
      rw [tryRemove_of_none free, if_pos rfl, renameShift, former]
      dsimp only
      have whole : family.remove kept (left + 1 + 1) = family := by
        rw [remove, free]
      rw [whole]
      refine ⟨fun number => ?_, holds.aged⟩
      dsimp only
      by_cases above : number = left + 1 + 1
      · rw [above, filled, Function.update_self, ← moved]
      · rw [Function.update_of_ne above]
        by_cases here : number = left + 1
        · rw [here, emptied, Function.update_self]
          rfl
        · rw [Function.update_of_ne here, holds.rotated, elsewhere number here above]

theorem Holds.retire (holds : family.Holds (row.midway kept 0) dropped) (positive : 1 ≤ kept)
    (current : family.current = some row.current.content)
    : (family.retire kept true true).Holds (row.rotate kept).rotated dropped
      ∧ (family.retire kept true true).current = none := by
  have free : family.rotated 1 = none := by
    rw [holds.rotated, FileRow.midway, if_neg (by omega), if_pos rfl]
    rfl
  have whole : family.remove kept 1 = family := by
    rw [remove, free]
  unfold LogFamily.retire
  rw [tryRemove_of_none free, if_pos rfl, renameCurrent, current]
  dsimp only
  rw [whole]
  refine ⟨⟨fun number => ?_, holds.aged⟩, rfl⟩
  unfold FileRow.rotate
  dsimp only
  by_cases first : number = 1
  · rw [first, Function.update_self, if_pos rfl]
    rfl
  · rw [Function.update_of_ne first, if_neg first, holds.rotated, FileRow.midway]
    by_cases inside : 1 < number ∧ number ≤ kept
    · rw [if_neg (by omega), if_neg (by omega), if_pos inside]
    · rw [if_pos (by omega), if_neg inside]

end LogFamily

/-- All that the file system is asked for is done. -/
structure LogInput.Succeeds (input : LogInput) : Prop where
  opens : ∀ slot, input.opens slot = true
  measures : input.measures = true
  flushes : input.flushReach = none
  writes : input.directReach = none
  drops : input.dropReach = none
  removes : input.removes = true
  renames : input.renames = true

namespace LogWorld

variable {config : JsonlConfig} {row : FileRow} {world : LogWorld} {input : LogInput}
  {line : LogLine}

/-! Between rotations -/

/-- The writer has the primary file open, and the row is what the files hold, with what is still
buffered for the current one.
-/
structure Standing (config : JsonlConfig) (row : FileRow) (world : LogWorld) : Prop where
  settings : world.self.config = config
  normal : world.self.state = .normal
  writer : ∃ buffer, world.self.writer = some ⟨.primary, buffer⟩
  present : (world.files .primary).current.isSome = true
  stream : world.stream .primary = row.current.content
  counted : world.self.bytesWritten = row.current.content.length
  holds : (world.files .primary).Holds row.rotated row.dropped

theorem Standing.with_phase (standing : world.Standing config row) (phase : LogPhase)
    : { world with phase }.Standing config row :=
  ⟨standing.settings, standing.normal, standing.writer, standing.present, standing.stream,
    standing.counted, standing.holds⟩

theorem Standing.with_accepted (standing : world.Standing config row)
    (accepted : List LogLine) (phase : LogPhase)
    : { world with phase, accepted }.Standing config row :=
  ⟨standing.settings, standing.normal, standing.writer, standing.present, standing.stream,
    standing.counted, standing.holds⟩

/-- The file and what is buffered for it make up the current file of the row. -/
theorem Standing.opened (standing : world.Standing config row)
    : ∃ buffer, world.self.writer = some ⟨.primary, buffer⟩
        ∧ world.content .primary ++ buffer = row.current.content := by
  obtain ⟨buffer, writer⟩ := standing.writer
  have stream := standing.stream
  exact ⟨buffer, writer, by simpa [LogWorld.stream, buffered, writer] using stream⟩

/-- Whatever keeps the stream of a standing writer leaves it standing. -/
theorem Standing.of_keeps {after : LogWorld} (standing : world.Standing config row)
    (keeps : Keeps world after) (normal : after.self.state = world.self.state)
    (writer : ∃ buffer, after.self.writer = some ⟨.primary, buffer⟩)
    (present : (after.files .primary).current.isSome = true)
    (counted : after.self.bytesWritten = world.self.bytesWritten)
    : after.Standing config row where
  settings := keeps.config.trans standing.settings
  normal := normal.trans standing.normal
  writer := writer
  present := present
  stream := (keeps.stream .primary).trans standing.stream
  counted := counted.trans standing.counted
  holds :=
    { rotated := fun number => by rw [keeps.rotated, standing.holds.rotated]
      aged := by rw [keeps.aged, standing.holds.aged] }

theorem Standing.flush (standing : world.Standing config row) (input : LogInput)
    : (world.flush input).Standing config row := by
  obtain ⟨buffer, writer⟩ := standing.writer
  have keeps := flush_keeps world input
  have shape : world.flush input = world.stored .primary
      (BufferedOutput.flush input.flushReach (world.content .primary) buffer).1
      (BufferedOutput.flush input.flushReach (world.content .primary) buffer).2 := by
    rw [LogWorld.flush, writer]
  rw [shape] at keeps ⊢
  exact standing.of_keeps keeps rfl ⟨_, rfl⟩ (by simp [stored]) rfl

theorem Standing.fsync (standing : world.Standing config row) (input : LogInput)
    : (world.fsync input).Standing config row := by
  obtain ⟨buffer, writer⟩ := standing.writer
  have flushed := standing.flush input
  unfold LogWorld.fsync
  rw [writer]
  exact ⟨flushed.settings, flushed.normal, flushed.writer, flushed.present, flushed.stream,
    flushed.counted, flushed.holds⟩

theorem Standing.maybeFsync (standing : world.Standing config row) (input : LogInput)
    : (world.maybeFsync input).Standing config row := by
  unfold LogWorld.maybeFsync
  split
  · exact standing.fsync input
  · exact standing

theorem Standing.tryRecover (standing : world.Standing config row) (input : LogInput)
    : world.tryRecover input = world :=
  if_pos standing.normal

theorem Standing.maybeTryRecover (standing : world.Standing config row) (input : LogInput)
    : world.maybeTryRecover input = world := by
  have notDue : world.recoveryDue input = false := by
    simp [recoveryDue, standing.normal]
  rw [LogWorld.maybeTryRecover, notDue]
  rfl

theorem Standing.needsRotation_iff (standing : world.Standing config row)
    : world.needsRotation line = true ↔ row.Crowded config line := by
  unfold needsRotation FileRow.Crowded
  rw [standing.settings, standing.counted, standing.normal]
  simp

theorem Standing.writeToFile (standing : world.Standing config row) (succeeds : input.Succeeds)
    : (world.writeToFile input line).Standing config (row.append line)
      ∧ (world.writeToFile input line).phase = .syncing := by
  obtain ⟨buffer, writer, whole⟩ := standing.opened
  have written := @BufferedOutput.writeAll_stream UInt8 bufferCapacity (by decide)
    input.flushReach input.directReach (world.content .primary) buffer line.bytes
  have works : (BufferedOutput.writeAll bufferCapacity input.flushReach input.directReach
      (world.content .primary) buffer line.bytes).ok = true := by
    rw [succeeds.flushes, succeeds.writes]
    unfold BufferedOutput.writeAll
    split
    · rfl
    · split
      · rename_i both
        cases both.2
      · dsimp only
        split <;> rfl
  rcases written with ⟨_, stream⟩ | ⟨fails, _⟩
  · unfold LogWorld.writeToFile
    rw [writer]
    dsimp only
    rw [if_pos works]
    refine ⟨⟨standing.settings, standing.normal, ⟨_, rfl⟩, by simp [stored], ?_, ?_, ?_⟩, rfl⟩
    · rw [whole] at stream
      simpa [LogWorld.stream, content, buffered, stored, FileRow.append] using stream
    · simp only [stored, FileRow.append, List.length_append, standing.counted]
    · simp only [stored, Function.update_self]
      exact ⟨standing.holds.rotated, standing.holds.aged⟩
  · rw [fails] at works
    cases works

/-! In a rotation -/

/-- Files are being moved, and no writer has one open. -/
structure Moving (config : JsonlConfig) (current : Option (List UInt8))
    (rotated : Nat → Option LogFile) (dropped : List LogFile) (world : LogWorld) : Prop where
  settings : world.self.config = config
  normal : world.self.state = .normal
  unused : world.self.writer = none
  current : (world.files .primary).current = current
  holds : (world.files .primary).Holds rotated dropped

variable {current : Option (List UInt8)} {rotated : Nat → Option LogFile}
  {dropped : List LogFile} {left : Nat}

theorem Moving.with_phase (moving : world.Moving config current rotated dropped)
    (phase : LogPhase) : { world with phase }.Moving config current rotated dropped :=
  ⟨moving.settings, moving.normal, moving.unused, moving.current, moving.holds⟩

theorem Standing.dropWriter (standing : world.Standing config row) (succeeds : input.Succeeds)
    : (world.dropWriter input).Moving config (some row.current.content) row.rotated
        row.dropped := by
  obtain ⟨buffer, writer, whole⟩ := standing.opened
  unfold LogWorld.dropWriter
  rw [writer]
  refine ⟨standing.settings, standing.normal, rfl, ?_, ?_⟩
  · simp only [Function.update_self, succeeds.drops]
    exact congrArg some whole
  · simp only [Function.update_self]
    exact ⟨standing.holds.rotated, standing.holds.aged⟩

/-- A change of the files on the disk is all that happens in a family. -/
theorem Moving.inFamily (moving : world.Moving config current rotated dropped)
    {change : LogFamily → LogFamily} {later : Option (List UInt8)}
    {places : Nat → Option LogFile} {gone : List LogFile}
    (changed : (change (world.files .primary)).current = later)
    (holds : (change (world.files .primary)).Holds places gone)
    : (world.inFamily .primary change).Moving config later places gone where
  settings := moving.settings
  normal := moving.normal
  unused := moving.unused
  current := by simpa [LogWorld.inFamily] using changed
  holds := by simpa [LogWorld.inFamily] using holds

theorem Moving.age (moving : world.Moving config current row.rotated row.dropped) {kept : Nat}
    (positive : 1 ≤ kept)
    : (world.inFamily .primary (·.tryRemove kept kept true)).Moving config current
        (row.midway kept (kept - 1)) (row.dropped ++ (row.rotated kept).toList) := by
  refine moving.inFamily ?_ (moving.holds.age positive)
  rw [LogFamily.tryRemove_current, moving.current]

theorem Moving.shift {kept : Nat}
    (moving : world.Moving config current (row.midway kept (left + 1)) dropped)
    (below : left + 1 < kept)
    : (world.inFamily .primary (·.shift kept (left + 1) true true)).Moving config current
        (row.midway kept left) dropped := by
  refine moving.inFamily ?_ (moving.holds.shift below)
  rw [← moving.current]
  unfold LogFamily.shift
  split
  · rfl
  · rw [if_pos rfl, LogFamily.renameShift]
    split
    · exact LogFamily.tryRemove_current ..
    · dsimp only
      rw [LogFamily.remove_current, LogFamily.tryRemove_current]

theorem Moving.retire {kept : Nat}
    (moving : world.Moving config (some row.current.content) (row.midway kept 0) dropped)
    (positive : 1 ≤ kept)
    : (world.inFamily .primary (·.retire kept true true)).Moving config none
        (row.rotate kept).rotated dropped := by
  obtain ⟨holds, gone⟩ := moving.holds.retire positive moving.current
  exact moving.inFamily gone holds

theorem Moving.reopen (moving : world.Moving config none rotated dropped)
    (succeeds : input.Succeeds)
    : (world.reopen input .primary).Standing config ⟨⟨[], false⟩, rotated, dropped⟩ := by
  unfold LogWorld.reopen
  rw [succeeds.opens, if_pos rfl]
  refine ⟨moving.settings, moving.normal, ⟨[], rfl⟩, ?_, ?_, rfl, ?_⟩
  · simp [LogWorld.inFamily, LogFamily.openAppend]
  · simp [stream, content, buffered, LogWorld.inFamily, LogFamily.openAppend, moving.current]
  · simp only [LogWorld.inFamily, Function.update_self]
    exact ⟨moving.holds.rotated, moving.holds.aged⟩

/-! Runs -/

def Handling (config : JsonlConfig) (start : FileRow) (world : LogWorld) (line : LogLine)
    (holds : FileRow → Prop) : Prop :=
  ∃ done, world.accepted = done ++ [line] ∧ holds (start.writeLines config done)

/-- In each phase the files are those of a row, on which the lines so far have been written. -/
def Follows (config : JsonlConfig) (start : FileRow) (world : LogWorld) : Prop :=
  let kept := config.maxRotatedFiles
  match world.phase with
  | .idle | .syncing => world.Standing config (start.writeLines config world.accepted)
  | .entering line | .sizing line => world.Handling config start line (world.Standing config)
  | .flushing line | .closing line =>
      world.Handling config start line fun row =>
        row.Crowded config line ∧ world.Standing config row
  | .ageing line slot =>
      slot = .primary ∧ world.Handling config start line fun row =>
        row.Crowded config line
          ∧ world.Moving config (some row.current.content) row.rotated row.dropped
  | .shifting line slot left =>
      slot = .primary ∧ left < kept ∧ world.Handling config start line fun row =>
        row.Crowded config line
          ∧ world.Moving config (some row.current.content) (row.midway kept left)
            (row.dropped ++ (row.rotated kept).toList)
  | .retiring line slot =>
      slot = .primary ∧ world.Handling config start line fun row =>
        row.Crowded config line
          ∧ world.Moving config (some row.current.content) (row.midway kept 0)
            (row.dropped ++ (row.rotated kept).toList)
  | .reopening line slot =>
      slot = .primary ∧ world.Handling config start line fun row =>
        row.Crowded config line
          ∧ world.Moving config none (row.rotate kept).rotated (row.rotate kept).dropped
  | .writing line =>
      world.Handling config start line fun row =>
        world.Standing config (row.makeRoom config line)
  | .degrading _ => False

variable {start : FileRow}

/-- Each step follows the row, by cases on the phase. -/
theorem Follows.step (positive : 1 ≤ config.maxRotatedFiles)
    (follows : world.Follows config start) (succeeds : input.Succeeds)
    : (world.step input).Follows config start := by
  unfold Follows at follows
  unfold LogWorld.step
  cases phase : world.phase with
  | idle =>
      rw [phase] at follows
      have standing : world.Standing config (start.writeLines config world.accepted) := follows
      dsimp only
      unfold answer
      cases input.call with
      | writeEntry line => exact ⟨world.accepted, rfl, standing.with_accepted _ _⟩
      | flush =>
          have keeps := flush_keeps world input
          dsimp only
          rw [Follows, keeps.phase, phase, keeps.accepted]
          exact standing.flush input
      | fsync =>
          have keeps := fsync_keeps world input
          dsimp only
          rw [Follows, keeps.phase, phase, keeps.accepted]
          exact standing.fsync input
      | tryRecover =>
          dsimp only
          rw [standing.tryRecover, Follows, phase]
          exact standing
  | entering line =>
      rw [phase] at follows
      obtain ⟨done, accepted, standing⟩ := follows
      dsimp only
      rw [standing.maybeTryRecover]
      exact ⟨done, accepted, standing.with_phase _⟩
  | sizing line =>
      rw [phase] at follows
      obtain ⟨done, accepted, standing⟩ := follows
      dsimp only
      by_cases crowded : (start.writeLines config done).Crowded config line
      · rw [if_pos (standing.needsRotation_iff.mpr crowded)]
        exact ⟨done, accepted, crowded, standing.with_phase _⟩
      · rw [if_neg (mt standing.needsRotation_iff.mp crowded)]
        refine ⟨done, accepted, ?_⟩
        dsimp only
        rw [FileRow.makeRoom, if_neg crowded]
        exact standing.with_phase _
  | flushing line =>
      rw [phase] at follows
      obtain ⟨done, accepted, crowded, standing⟩ := follows
      have keeps := flush_keeps world input
      exact ⟨done, keeps.accepted.trans accepted, crowded, (standing.flush input).with_phase _⟩
  | closing line =>
      rw [phase] at follows
      obtain ⟨done, accepted, crowded, standing⟩ := follows
      have moving := standing.dropWriter succeeds
      have base : (world.dropWriter input).rotationBase = some .primary := by
        rw [rotationBase, moving.normal]
      have same : (world.dropWriter input).accepted = world.accepted := by
        unfold dropWriter
        split <;> rfl
      dsimp only
      rw [base]
      exact ⟨rfl, done, same.trans accepted, crowded, moving.with_phase _⟩
  | ageing line slot =>
      rw [phase] at follows
      obtain ⟨rfl, done, accepted, crowded, moving⟩ := follows
      dsimp only
      rw [succeeds.removes, moving.settings]
      exact ⟨rfl, by omega, done, accepted, crowded, (moving.age positive).with_phase _⟩
  | shifting line slot left =>
      rw [phase] at follows
      obtain ⟨rfl, below, done, accepted, crowded, moving⟩ := follows
      cases left with
      | zero => exact ⟨rfl, done, accepted, crowded, moving.with_phase _⟩
      | succ left =>
          dsimp only
          rw [succeeds.removes, succeeds.renames, moving.settings]
          exact ⟨rfl, by omega, done, accepted, crowded, (moving.shift below).with_phase _⟩
  | retiring line slot =>
      rw [phase] at follows
      obtain ⟨rfl, done, accepted, crowded, moving⟩ := follows
      dsimp only
      rw [succeeds.removes, succeeds.renames, moving.settings]
      exact ⟨rfl, done, accepted, crowded, (moving.retire positive).with_phase _⟩
  | reopening line slot =>
      rw [phase] at follows
      obtain ⟨rfl, done, accepted, crowded, moving⟩ := follows
      refine ⟨done, ?_, ?_⟩
      · dsimp only
        rw [reopen, succeeds.opens, if_pos rfl]
        exact accepted
      · dsimp only
        rw [FileRow.makeRoom, if_pos crowded]
        exact (moving.reopen succeeds).with_phase _
  | writing line =>
      rw [phase] at follows
      obtain ⟨done, accepted, standing⟩ := follows
      obtain ⟨written, syncing⟩ := @Standing.writeToFile _ _ _ _ line standing succeeds
      have same : (world.writeToFile input line).accepted = world.accepted := by
        unfold writeToFile
        split
        · rfl
        · dsimp only
          split <;> rfl
      dsimp only
      rw [writeOut, standing.normal]
      dsimp only
      rw [Follows, syncing, same, accepted, FileRow.writeLines_concat]
      exact written
  | syncing =>
      rw [phase] at follows
      have standing : world.Standing config (start.writeLines config world.accepted) := follows
      have synced := (standing.maybeFsync input).with_phase .idle
      rw [← (maybeFsync_keeps world input).accepted] at synced
      exact synced
  | degrading line =>
      rw [phase] at follows
      exact follows.elim

theorem follows_open (config : JsonlConfig) (files : LogSlot → LogFamily) {opening : LogInput}
    (succeeds : opening.Succeeds)
    : (open_ config files opening).Follows config (FileRow.found (files .primary)) := by
  have found := LogFamily.holds_found (files .primary)
  unfold open_ tryOpenPrimary adopt
  rw [succeeds.opens, if_pos rfl]
  refine ⟨rfl, rfl, ⟨[], rfl⟩, ?_, ?_, ?_, ?_⟩
  · simp [dropWriter, inFamily, LogFamily.openAppend]
  · simp [stream, content, buffered, dropWriter, inFamily, LogFamily.openAppend,
      FileRow.writeLines, FileRow.found]
  · simp [succeeds.measures, content, dropWriter, inFamily, LogFamily.openAppend,
      FileRow.writeLines, FileRow.found]
  · simp only [dropWriter, inFamily, Function.update_self, LogFamily.openAppend]
    exact ⟨found.rotated, found.aged⟩

/-- How many steps a rotation takes to the point where the line is written. -/
def Rotates (kept : Nat) (line : LogLine) (left : Nat) : LogPhase → Prop
  | .flushing other => other = line ∧ left = kept + 5
  | .closing other => other = line ∧ left = kept + 4
  | .ageing other _ => other = line ∧ left = kept + 3
  | .shifting other _ most => other = line ∧ left = most + 3
  | .retiring other _ => other = line ∧ left = 2
  | .reopening other _ => other = line ∧ left = 1
  | .writing other => other = line ∧ left = 0
  | .idle | .entering _ | .sizing _ | .syncing | .degrading _ => False

theorem Rotates.writing {kept : Nat} {phase : LogPhase} (rotates : Rotates kept line 0 phase)
    : phase = .writing line := by
  cases phase with
  | idle | entering | sizing | syncing | degrading => exact rotates.elim
  | flushing | closing | ageing | shifting | retiring | reopening => cases rotates.2
  | writing other => exact congrArg _ rotates.1

theorem Rotates.step (positive : 1 ≤ config.maxRotatedFiles)
    (rotates : Rotates config.maxRotatedFiles line (left + 1) world.phase)
    (follows : world.Follows config start) (succeeds : input.Succeeds)
    : Rotates config.maxRotatedFiles line left (world.step input).phase
      ∧ (world.step input).accepted = world.accepted := by
  unfold LogWorld.step
  unfold Follows at follows
  cases phase : world.phase with
  | idle | entering | sizing | syncing | degrading =>
      rw [phase] at rotates
      exact rotates.elim
  | flushing other =>
      rw [phase] at rotates
      obtain ⟨rfl, steps⟩ := rotates
      exact ⟨⟨rfl, by omega⟩, (flush_keeps world input).accepted⟩
  | closing other =>
      rw [phase] at rotates follows
      obtain ⟨rfl, steps⟩ := rotates
      obtain ⟨_, _, _, standing⟩ := follows
      have base : (world.dropWriter input).rotationBase = some .primary := by
        rw [rotationBase, dropWriter_state, standing.normal]
      dsimp only
      rw [base]
      refine ⟨⟨rfl, by omega⟩, ?_⟩
      unfold dropWriter
      split <;> rfl
  | ageing other slot =>
      rw [phase] at rotates follows
      obtain ⟨rfl, steps⟩ := rotates
      obtain ⟨_, _, _, _, moving⟩ := follows
      refine ⟨⟨rfl, ?_⟩, rfl⟩
      rw [moving.settings]
      omega
  | shifting other slot most =>
      rw [phase] at rotates
      obtain ⟨rfl, steps⟩ := rotates
      cases most with
      | zero => exact ⟨⟨rfl, by omega⟩, rfl⟩
      | succ most => exact ⟨⟨rfl, by omega⟩, rfl⟩
  | retiring other slot =>
      rw [phase] at rotates
      obtain ⟨rfl, steps⟩ := rotates
      exact ⟨⟨rfl, by omega⟩, rfl⟩
  | reopening other slot =>
      rw [phase] at rotates
      obtain ⟨rfl, steps⟩ := rotates
      refine ⟨⟨rfl, by omega⟩, ?_⟩
      dsimp only
      rw [reopen, succeeds.opens, if_pos rfl]
      rfl
  | writing other =>
      rw [phase] at rotates
      cases rotates.2

theorem Rotates.run (positive : 1 ≤ config.maxRotatedFiles) {inputs : List LogInput}
    (rotates : Rotates config.maxRotatedFiles line inputs.length world.phase)
    (follows : world.Follows config start) (succeed : ∀ input ∈ inputs, input.Succeeds)
    : (Runs.final LogWorld.step world inputs).phase = .writing line
      ∧ (Runs.final LogWorld.step world inputs).accepted = world.accepted
      ∧ (Runs.final LogWorld.step world inputs).Follows config start := by
  induction inputs generalizing world with
  | nil =>
      exact ⟨rotates.writing, rfl, follows⟩
  | cons first rest ih =>
      have here := succeed first List.mem_cons_self
      obtain ⟨next, same⟩ := rotates.step positive follows here
      obtain ⟨phase, accepted, after⟩ := ih next (follows.step positive here)
        fun input member => succeed input (List.mem_cons_of_mem _ member)
      exact ⟨phase, accepted.trans same, after⟩

/-- A rotation is complete: every file has moved on by one, and the current file is empty. -/
structure Rotated (config : JsonlConfig) (line : LogLine) (before after : LogWorld) : Prop where
  phase : after.phase = .writing line
  moved : ∀ number, 1 ≤ number → number < config.maxRotatedFiles →
    (after.files .primary).rotated (number + 1) = (before.files .primary).rotated number
  first : (after.files .primary).rotated 1 = some (before.stream .primary)
  above : ∀ number, config.maxRotatedFiles < number →
    (after.files .primary).rotated number = (before.files .primary).rotated number
  dropped : (after.files .primary).aged = (before.files .primary).aged
    ++ ((before.files .primary).rotated config.maxRotatedFiles).toList
  fresh : after.stream .primary = []
  counted : after.self.bytesWritten = 0

/-- From its first step to the line that called for it a rotation does what it is to do. -/
theorem rotated_of_flushing (positive : 1 ≤ config.maxRotatedFiles)
    (follows : world.Follows config start) (flushing : world.phase = .flushing line)
    {inputs : List LogInput} (steps : inputs.length = config.maxRotatedFiles + 5)
    (succeed : ∀ input ∈ inputs, input.Succeeds)
    : Rotated config line world (Runs.final step world inputs) := by
  have rotates : Rotates config.maxRotatedFiles line inputs.length world.phase := by
    rw [flushing]
    exact ⟨rfl, steps⟩
  obtain ⟨phase, same, after⟩ := rotates.run positive follows succeed
  unfold Follows at follows after
  rw [flushing] at follows
  rw [phase] at after
  obtain ⟨done, accepted, crowded, before⟩ := follows
  obtain ⟨again, also, after⟩ := after
  obtain rfl := List.append_cancel_right (accepted.symm.trans (same.symm.trans also))
  have row : (start.writeLines config done).makeRoom config line
      = (start.writeLines config done).rotate config.maxRotatedFiles := if_pos crowded
  rw [row] at after
  refine ⟨phase, ?_, ?_, ?_, ?_, after.stream, after.counted⟩
  · intro number first below
    rw [after.holds.rotated, before.holds.rotated, FileRow.rotate]
    dsimp only
    rw [if_neg (by omega), if_pos (by omega), Nat.add_sub_cancel]
  · rw [after.holds.rotated, before.stream]
    rfl
  · intro number above
    rw [after.holds.rotated, before.holds.rotated, FileRow.rotate]
    dsimp only
    rw [if_neg (by omega), if_neg (by omega)]
  · rw [after.holds.aged, before.holds.aged, before.holds.rotated, FileRow.rotate,
      List.map_append]
    cases (start.writeLines config done).rotated config.maxRotatedFiles <;> rfl

def LogPhase.moving : LogPhase → Bool
  | .ageing .. | .shifting .. | .retiring .. | .reopening .. => true
  | .idle | .entering _ | .sizing _ | .flushing _ | .closing _ | .writing _ | .syncing
  | .degrading _ => false

/-- While no files are moved they are those of a row in which none is too long. -/
theorem Follows.standing (follows : world.Follows config start)
    (bounded : start.Bounded config []) (still : LogPhase.moving world.phase = false)
    : ∃ row, world.Standing config row ∧ row.Bounded config world.accepted := by
  unfold Follows at follows
  cases phase : world.phase with
  | idle | syncing =>
      rw [phase] at follows
      exact ⟨_, follows, bounded.writeLines _⟩
  | entering line | sizing line =>
      rw [phase] at follows
      obtain ⟨done, accepted, standing⟩ := follows
      rw [accepted]
      exact ⟨_, standing, (bounded.writeLines done).concat line⟩
  | flushing line | closing line =>
      rw [phase] at follows
      obtain ⟨done, accepted, _, standing⟩ := follows
      rw [accepted]
      exact ⟨_, standing, (bounded.writeLines done).concat line⟩
  | writing line =>
      rw [phase] at follows
      obtain ⟨done, accepted, standing⟩ := follows
      rw [accepted]
      exact ⟨_, standing, ((bounded.writeLines done).makeRoom line).concat line⟩
  | ageing | shifting | retiring | reopening =>
      rw [phase] at still
      cases still
  | degrading =>
      rw [phase] at follows
      exact follows.elim

/-- What holds in each state of a writer that was opened on some files. -/
structure RotatesInOrder (config : JsonlConfig) (files : LogFamily) (world : LogWorld)
    : Prop where
  rotation : ∀ line, world.phase = .flushing line → ∀ inputs : List LogInput,
    inputs.length = config.maxRotatedFiles + 5 → (∀ input ∈ inputs, input.Succeeds) →
      Rotated config line world (Runs.final step world inputs)
  counted : LogPhase.moving world.phase = false →
    world.self.bytesWritten = (world.stream .primary).length
  bounded : LogPhase.moving world.phase = false →
    ∃ row, world.Standing config row ∧ row.Bounded config world.accepted
  row : world.phase = .idle →
    world.Standing config ((FileRow.found files).writeLines config world.accepted)

/-- As long as all file operations succeed, a rotation moves each file on by one, the writer
knows the size of its file, and no file is too long but for a single line.
-/
theorem rotation_in_order (positive : 1 ≤ config.maxRotatedFiles) (files : LogSlot → LogFamily)
    {opening : LogInput} (opens : opening.Succeeds) {inputs : List LogInput}
    (succeed : ∀ input ∈ inputs, input.Succeeds)
    : ∀ world ∈ Runs.states step (open_ config files opening) inputs,
        world.RotatesInOrder config (files .primary) := by
  intro world reached
  obtain ⟨past, rest, rfl, rfl⟩ := Runs.mem_states_iff.mp reached
  have follows : (Runs.final step (open_ config files opening) past).Follows config
      (FileRow.found (files .primary)) := by
    have guarded : Runs.Guarded step (fun _ input => input.Succeeds)
        (open_ config files opening) past := by
      refine Runs.guarded_iff_steps.mpr fun taken member => ?_
      obtain ⟨front, back, same, _⟩ := Runs.mem_steps_iff.mp member
      exact succeed taken.2 (by simp [same])
    have kept : ∀ (world : LogWorld) (input : LogInput),
        world.Follows config (FileRow.found (files .primary)) → input.Succeeds →
        (world.step input).Follows config (FileRow.found (files .primary)) :=
      fun _ _ follows succeeds => follows.step positive succeeds
    exact Runs.invariant_of_guarded kept (follows_open config files opens) guarded _
      (Runs.final_mem_states _ past)
  have unwritten := @FileRow.bounded_found config (files .primary)
  generalize Runs.final step (open_ config files opening) past = world at follows
  refine ⟨?_, ?_, follows.standing unwritten, ?_⟩
  · intro line flushing inputs steps succeed
    exact rotated_of_flushing positive follows flushing steps succeed
  · intro still
    obtain ⟨row, standing, _⟩ := follows.standing unwritten still
    rw [standing.counted, standing.stream]
  · intro idle
    unfold Follows at follows
    rw [idle] at follows
    exact follows

theorem smooth_succeeds (call : LogCall) : (smooth call).Succeeds :=
  ⟨fun _ => rfl, rfl, rfl, rfl, rfl, rfl, rfl⟩

def fullFiles (_ : LogSlot) : LogFamily where
  current := some [97, 98, 10]
  rotated number := if number = 1 then some [99, 10] else none
  aged := []

def entryOnFullFile : List LogInput :=
  smooth (.writeEntry ⟨[100], by decide⟩) :: List.replicate 10 (smooth .flush)

/-- The first line already calls for a rotation. -/
theorem first_rotation_in_order
    : let world := Runs.final step (open_ tinyLog fullFiles (smooth .flush)) entryOnFullFile
      world.RotatesInOrder tinyLog (fullFiles .primary)
        ∧ (world.files .primary).rotated 1 = some [97, 98, 10]
        ∧ (world.files .primary).aged = [[99, 10]]
        ∧ world.stream .primary = [100, 10] := by
  refine ⟨?_, by decide +kernel, by decide +kernel, by decide +kernel⟩
  have succeed : ∀ input ∈ entryOnFullFile, input.Succeeds := by
    intro input member
    rcases List.mem_cons.mp member with rfl | later
    · exact smooth_succeeds _
    · rw [List.eq_of_mem_replicate later]
      exact smooth_succeeds _
  exact @rotation_in_order tinyLog (by decide) fullFiles _ (smooth_succeeds .flush) _ succeed _
    (Runs.final_mem_states ..)

end LogWorld

end StorageBallast
