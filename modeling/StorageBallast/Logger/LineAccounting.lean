import Mathlib.Algebra.BigOperators.Group.Finset.Basic
import Mathlib.Algebra.BigOperators.Group.Finset.Piecewise
import Mathlib.Algebra.GroupWithZero.Nat
import StorageBallast.Foundations.Runs
import StorageBallast.Logger.JsonlWriter

/-! Where the lines that the JSONL logger takes on go. Each text is counted as a whole line of
the files with what is buffered for them, of the rotated files and of stderr; a step that loses
no buffered symbol, continues no torn line and replaces no rotated file too early keeps the
account.
-/

namespace StorageBallast

open BufferedOutput (Reach)
open WholeLines (wholeLines EndsWhole)

def linesOf (text stream : List UInt8) : Nat := (wholeLines lineEnd stream).count text

@[simp] theorem linesOf_nil (text : List UInt8) : linesOf text [] = 0 := rfl

theorem linesOf_append_line {stream : List UInt8} (whole : EndsWhole lineEnd stream)
    (line : LogLine) (text : List UInt8)
    : linesOf text (stream ++ line.bytes) = linesOf text stream + [line.text].count text := by
  unfold linesOf LogLine.bytes
  rw [WholeLines.wholeLines_append whole, WholeLines.wholeLines_line line.unended,
    List.count_append]

theorem linesOf_append_front (stream : List UInt8) (line : LogLine) {most : Nat}
    (short : most = 0 ∨ most < line.bytes.length) (text : List UInt8)
    : linesOf text (stream ++ line.bytes.take most) = linesOf text stream := by
  have unended : lineEnd ∉ line.bytes.take most := by
    rcases short with rfl | short
    · simp
    · exact WholeLines.not_mem_take_line line.unended short
  unfold linesOf
  rw [WholeLines.wholeLines_append_of_not_mem unended]

/-! Files -/

namespace LogFamily

def rotatedLines (family : LogFamily) (text : List UInt8) (number : Nat) : Nat :=
  linesOf text ((family.rotated number).getD [])

def pastLines (family : LogFamily) (maxRotated : Nat) (text : List UInt8) : Nat :=
  ∑ number ∈ Finset.range (maxRotated + 2), family.rotatedLines text number
    + (family.aged.map (linesOf text)).sum

def lines (family : LogFamily) (maxRotated : Nat) (text : List UInt8) : Nat :=
  linesOf text (family.current.getD []) + family.pastLines maxRotated text

def Spares (family : LogFamily) (maxRotated number : Nat) : Prop :=
  maxRotated ≤ number ∨ wholeLines lineEnd ((family.rotated number).getD []) = []

instance (family : LogFamily) (maxRotated number : Nat)
    : Decidable (family.Spares maxRotated number) :=
  inferInstanceAs (Decidable (_ ∨ _))

variable {family : LogFamily} {maxRotated number : Nat}

/-- A rotated file that is put in the place of another is counted in its place. -/
theorem sum_update (family : LogFamily) (content : Option (List UInt8)) (text : List UInt8)
    (within : number < maxRotated + 2)
    : (∑ n ∈ Finset.range (maxRotated + 2),
          linesOf text ((Function.update family.rotated number content n).getD []))
        + family.rotatedLines text number
      = ∑ n ∈ Finset.range (maxRotated + 2), family.rotatedLines text n
        + linesOf text (content.getD []) := by
  have member : number ∈ Finset.range (maxRotated + 2) := Finset.mem_range.mpr within
  have after := Finset.add_sum_erase _ (fun n =>
    linesOf text ((Function.update family.rotated number content n).getD [])) member
  have before := Finset.add_sum_erase _ (fun n => family.rotatedLines text n) member
  have others : ∑ n ∈ (Finset.range (maxRotated + 2)).erase number,
        linesOf text ((Function.update family.rotated number content n).getD [])
      = ∑ n ∈ (Finset.range (maxRotated + 2)).erase number, family.rotatedLines text n := by
    refine Finset.sum_congr rfl fun n other => ?_
    rw [Function.update_of_ne (Finset.ne_of_mem_erase other), rotatedLines]
  rw [others, Function.update_self] at after
  omega

/-- What a number holds goes nowhere or is aged out, and its place is empty then. -/
theorem remove_lines (spared : family.Spares maxRotated number)
    (within : number < maxRotated + 2) (text : List UInt8)
    : (family.remove maxRotated number).lines maxRotated text
      = family.lines maxRotated text := by
  unfold remove
  split
  · rfl
  · rename_i content found
    have replaced := sum_update family none text within
    simp only [rotatedLines, found, Option.getD_none, linesOf_nil, Option.getD_some] at replaced
    simp only [lines, pastLines, rotatedLines]
    split
    · simp only [List.map_append, List.map_cons, List.map_nil, List.sum_append,
        List.sum_cons, List.sum_nil]
      omega
    · rename_i young
      have empty : linesOf text content = 0 := by
        have lineless := spared.resolve_left young
        rw [found, Option.getD_some] at lineless
        rw [linesOf, lineless, List.count_nil]
      omega

theorem remove_rotated_self (family : LogFamily) (maxRotated number : Nat)
    : (family.remove maxRotated number).rotated number = none := by
  unfold remove
  split
  · assumption
  · exact Function.update_self ..

theorem remove_rotated_of_ne (family : LogFamily) {other : Nat} (distinct : other ≠ number)
    : (family.remove maxRotated number).rotated other = family.rotated other := by
  unfold remove
  split
  · rfl
  · exact Function.update_of_ne distinct ..

theorem remove_current (family : LogFamily) (maxRotated number : Nat)
    : (family.remove maxRotated number).current = family.current := by
  unfold remove
  split <;> rfl

theorem spares_of_none (gone : family.rotated number = none)
    : family.Spares maxRotated number := .inr (by rw [gone]; rfl)

theorem tryRemove_lines {removes : Bool}
    (spared : removes = true → family.Spares maxRotated number)
    (within : number < maxRotated + 2) (text : List UInt8)
    : (family.tryRemove maxRotated number removes).lines maxRotated text
      = family.lines maxRotated text := by
  unfold tryRemove
  split
  · rename_i removed
    exact remove_lines (spared removed) within text
  · rfl

/-- After an attempt to remove it a number is spared if it was before. -/
theorem Spares.tryRemove {removes : Bool} (spared : family.Spares maxRotated number)
    : (family.tryRemove maxRotated number removes).Spares maxRotated number := by
  unfold LogFamily.tryRemove
  split
  · exact spares_of_none (remove_rotated_self ..)
  · exact spared

theorem renameShift_lines (spared : family.Spares maxRotated (number + 1))
    (within : number < maxRotated) (text : List UInt8)
    : (family.renameShift maxRotated number).lines maxRotated text
      = family.lines maxRotated text := by
  unfold renameShift
  split
  · rfl
  · rename_i content found
    have removed := remove_lines spared (by omega) text
    generalize same : family.remove maxRotated (number + 1) = family' at removed ⊢
    have kept : family'.rotated number = some content := by
      rw [← same, remove_rotated_of_ne family (by omega), found]
    have free : family'.rotated (number + 1) = none := by
      rw [← same]
      exact remove_rotated_self ..
    have emptied := sum_update family' none text
      (show number < maxRotated + 2 by omega)
    have filled := sum_update
      { family' with rotated := Function.update family'.rotated number none }
      (some content) text (show number + 1 < maxRotated + 2 by omega)
    simp only [rotatedLines, kept, free, Function.update_of_ne (Nat.succ_ne_self number),
      Option.getD_none, Option.getD_some, linesOf_nil] at emptied filled
    simp only [lines, pastLines, rotatedLines] at removed ⊢
    omega

/-- A turn of the loop keeps the lines if the number above is spared. -/
theorem shift_lines {removes renames : Bool}
    (spared : family.rotated number ≠ none → removes = true ∨ renames = true →
      family.Spares maxRotated (number + 1))
    (within : number < maxRotated) (text : List UInt8)
    : (family.shift maxRotated number removes renames).lines maxRotated text
      = family.lines maxRotated text := by
  unfold shift
  split
  · rfl
  · rename_i content found
    have present : family.rotated number ≠ none := by rw [found]; exact nofun
    have first : (family.tryRemove maxRotated (number + 1) removes).lines maxRotated text
        = family.lines maxRotated text :=
      tryRemove_lines (fun removed => spared present (.inl removed)) (by omega) text
    dsimp only
    split
    · rename_i renamed
      rw [renameShift_lines (spared present (.inr renamed)).tryRemove within text, first]
    · exact first

theorem renameCurrent_lines (spared : family.current ≠ none → family.Spares maxRotated 1)
    (text : List UInt8)
    : (family.renameCurrent maxRotated).lines maxRotated text
      = family.lines maxRotated text := by
  unfold renameCurrent
  split
  · rfl
  · rename_i content found
    have removed := remove_lines (spared (by rw [found]; exact nofun))
      (show 1 < maxRotated + 2 by omega) text
    have current := remove_current family maxRotated 1
    have free := remove_rotated_self family maxRotated 1
    generalize family.remove maxRotated 1 = family' at removed current free ⊢
    have filled := sum_update family' (some content) text
      (show 1 < maxRotated + 2 by omega)
    simp only [rotatedLines, free, Option.getD_none, Option.getD_some, linesOf_nil] at filled
    simp only [lines, pastLines, rotatedLines, current, found, Option.getD_none,
      Option.getD_some, linesOf_nil] at removed ⊢
    omega

theorem tryRemove_current (family : LogFamily) (maxRotated number : Nat) (removes : Bool)
    : (family.tryRemove maxRotated number removes).current = family.current := by
  unfold tryRemove
  split
  · exact remove_current ..
  · rfl

/-- The current file takes the first place without loss if that is spared. -/
theorem retire_lines {removes renames : Bool}
    (spared : removes = true ∨ (renames = true ∧ family.current ≠ none) →
      family.Spares maxRotated 1)
    (text : List UInt8)
    : (family.retire maxRotated removes renames).lines maxRotated text
      = family.lines maxRotated text := by
  have first : (family.tryRemove maxRotated 1 removes).lines maxRotated text
      = family.lines maxRotated text :=
    tryRemove_lines (fun removed => spared (.inl removed)) (by omega) text
  unfold retire
  dsimp only
  split
  · rename_i renamed
    rw [renameCurrent_lines _ text, first]
    intro present
    rw [tryRemove_current] at present
    exact (spared (.inr ⟨renamed, present⟩)).tryRemove
  · exact first

end LogFamily

/-! The writer -/

/-- The line that is still to be written. -/
def LogPhase.pending : LogPhase → List LogLine
  | .idle => []
  | .entering line => [line]
  | .sizing line => [line]
  | .flushing line => [line]
  | .closing line => [line]
  | .ageing line _ => [line]
  | .shifting line _ _ => [line]
  | .retiring line _ => [line]
  | .reopening line _ => [line]
  | .writing line => [line]
  | .syncing => []
  | .degrading line => [line]

namespace LogWorld

def buffered (world : LogWorld) (slot : LogSlot) : List UInt8 :=
  match world.self.writer with
  | none => []
  | some writer => if writer.slot = slot then writer.buffer else []

def stream (world : LogWorld) (slot : LogSlot) : List UInt8 :=
  world.content slot ++ world.buffered slot

def linesAt (world : LogWorld) (text : List UInt8) (slot : LogSlot) : Nat :=
  linesOf text (world.stream slot)
    + (world.files slot).pastLines world.self.config.maxRotatedFiles text

def lines (world : LogWorld) (text : List UInt8) : Nat :=
  world.linesAt text .primary + world.linesAt text .fallback + world.stderr.count text

def storedLines (world : LogWorld) (text : List UInt8) : Nat :=
  (world.files .primary).lines world.self.config.maxRotatedFiles text
    + (world.files .fallback).lines world.self.config.maxRotatedFiles text
    + world.stderr.count text

/-- Before anything is written a text is so often a line as the files have it, and each line
that is taken on adds one.
-/
structure Balanced (config : JsonlConfig) (files : LogSlot → LogFamily) (world : LogWorld)
    (text : List UInt8) : Prop where
  settings : world.self.config = config
  lines : world.lines text + (world.phase.pending.map (·.text)).count text
    = (files .primary).lines config.maxRotatedFiles text
      + (files .fallback).lines config.maxRotatedFiles text
      + (world.accepted.map (·.text)).count text

/-- Bytes may have moved from the buffer to the file, but all is where it was. -/
structure Keeps (before after : LogWorld) : Prop where
  config : after.self.config = before.self.config
  stream : ∀ slot, after.stream slot = before.stream slot
  rotated : ∀ slot, (after.files slot).rotated = (before.files slot).rotated
  aged : ∀ slot, (after.files slot).aged = (before.files slot).aged
  stderr : after.stderr = before.stderr
  phase : after.phase = before.phase
  accepted : after.accepted = before.accepted

namespace Keeps

variable {before middle after : LogWorld}

theorem refl (world : LogWorld) : Keeps world world :=
  ⟨rfl, fun _ => rfl, fun _ => rfl, fun _ => rfl, rfl, rfl, rfl⟩

theorem trans (first : Keeps before middle) (second : Keeps middle after)
    : Keeps before after where
  config := second.config.trans first.config
  stream slot := (second.stream slot).trans (first.stream slot)
  rotated slot := (second.rotated slot).trans (first.rotated slot)
  aged slot := (second.aged slot).trans (first.aged slot)
  stderr := second.stderr.trans first.stderr
  phase := second.phase.trans first.phase
  accepted := second.accepted.trans first.accepted

theorem linesAt (keeps : Keeps before after) (text : List UInt8) (slot : LogSlot)
    : after.linesAt text slot = before.linesAt text slot := by
  simp only [LogWorld.linesAt, LogFamily.pastLines, LogFamily.rotatedLines,
    keeps.stream slot, keeps.rotated slot, keeps.aged slot, keeps.config]

theorem lines (keeps : Keeps before after) (text : List UInt8)
    : after.lines text = before.lines text := by
  unfold LogWorld.lines
  rw [keeps.linesAt, keeps.linesAt, keeps.stderr]

end Keeps

variable {world : LogWorld}

/-- A change of the writer's own fields that leaves its buffer alone keeps all. -/
theorem keeps_of_self {self : JsonlWriter}
    (config : self.config = world.self.config) (writer : self.writer = world.self.writer)
    : Keeps world { world with self } where
  config := config
  stream slot := by simp only [stream, content, buffered, writer]
  rotated _ := rfl
  aged _ := rfl
  stderr := rfl
  phase := rfl
  accepted := rfl

/-- A file and its buffer may be exchanged for others that hold the same together. -/
theorem keeps_stored {writer : BufWriter}
    (using_ : world.self.writer = some writer) {file buffer : List UInt8}
    (same : file ++ buffer = world.content writer.slot ++ writer.buffer)
    : Keeps world (world.stored writer.slot file buffer) where
  config := rfl
  stream slot := by
    by_cases this : writer.slot = slot
    · subst this
      simp [stream, content, buffered, stored, using_, same]
    · have other : slot ≠ writer.slot := Ne.symm this
      simp [stream, content, buffered, stored, using_, this, Function.update_of_ne other]
  rotated slot := by
    by_cases this : slot = writer.slot
    · subst this
      simp [stored]
    · simp [stored, Function.update_of_ne this]
  aged slot := by
    by_cases this : slot = writer.slot
    · subst this
      simp [stored]
    · simp [stored, Function.update_of_ne this]
  stderr := rfl
  phase := rfl
  accepted := rfl

theorem flush_keeps (world : LogWorld) (input : LogInput) : Keeps world (world.flush input) := by
  unfold flush
  split
  · exact .refl world
  · rename_i writer using_
    exact keeps_stored using_ (BufferedOutput.flush_stream ..)

theorem fsync_keeps (world : LogWorld) (input : LogInput) : Keeps world (world.fsync input) := by
  unfold fsync
  split
  · exact .refl world
  · exact (flush_keeps world input).trans (keeps_of_self rfl rfl)

def Drains (world : LogWorld) (input : LogInput) : Prop :=
  ∀ writer ∈ world.self.writer, input.dropReach.covers writer.buffer = true

instance (world : LogWorld) (input : LogInput) : Decidable (world.Drains input) :=
  inferInstanceAs (Decidable (∀ writer ∈ world.self.writer, _))

theorem drains_of_none (unused : world.self.writer = none)
    (input : LogInput) : world.Drains input := by
  intro writer using_
  rw [unused] at using_
  cases using_

variable {input : LogInput}

theorem dropWriter_keeps (drains : world.Drains input)
    : Keeps world (world.dropWriter input) := by
  unfold dropWriter
  split
  · exact .refl world
  · rename_i writer using_
    have covered := drains writer using_
    have same : world.content writer.slot ++ writer.buffer ++ []
        = world.content writer.slot ++ writer.buffer := List.append_nil _
    simp only [BufferedOutput.flush_of_covers covered]
    refine (keeps_stored using_ same).trans ?_
    exact ⟨rfl, fun slot => by simp [stream, content, buffered, stored], fun _ => rfl,
      fun _ => rfl, rfl, rfl, rfl⟩

theorem openAppend_keeps (world : LogWorld) (slot : LogSlot)
    : Keeps world (world.inFamily slot .openAppend) where
  config := rfl
  stream other := by
    by_cases same : other = slot
    · subst same
      simp [stream, content, buffered, inFamily, LogFamily.openAppend]
    · simp [stream, content, buffered, inFamily, Function.update_of_ne same]
  rotated other := by
    by_cases same : other = slot
    · subst same
      simp [inFamily, LogFamily.openAppend]
    · simp [inFamily, Function.update_of_ne same]
  aged other := by
    by_cases same : other = slot
    · subst same
      simp [inFamily, LogFamily.openAppend]
    · simp [inFamily, Function.update_of_ne same]
  stderr := rfl
  phase := rfl
  accepted := rfl

variable {slot : LogSlot}

/-- A fresh writer has nothing buffered, and may stand where there is none. -/
theorem keeps_fresh (unused : world.self.writer = none) {self : JsonlWriter}
    (config : self.config = world.self.config)
    (fresh : self.writer = some ⟨slot, []⟩) : Keeps world { world with self } where
  config := config
  stream _ := by simp only [stream, content, buffered, fresh, unused, ite_self]
  rotated _ := rfl
  aged _ := rfl
  stderr := rfl
  phase := rfl
  accepted := rfl

@[simp] theorem dropWriter_writer (world : LogWorld) (input : LogInput)
    : (world.dropWriter input).self.writer = none := by
  unfold dropWriter
  split
  · assumption
  · rfl

@[simp] theorem dropWriter_state (world : LogWorld) (input : LogInput)
    : (world.dropWriter input).self.state = world.self.state := by
  unfold dropWriter
  split <;> rfl

@[simp] theorem dropWriter_phase (world : LogWorld) (input : LogInput)
    : (world.dropWriter input).phase = world.phase := by
  unfold dropWriter
  split <;> rfl

theorem adopt_keeps (drains : world.Drains input)
    (slot : LogSlot) (state : WriterState) : Keeps world (world.adopt input slot state) := by
  have opened := openAppend_keeps world slot
  have dropped : Keeps (world.inFamily slot .openAppend)
      ((world.inFamily slot .openAppend).dropWriter input) := dropWriter_keeps drains
  exact (opened.trans dropped).trans (keeps_fresh (dropWriter_writer ..) rfl rfl)

theorem tryOpenFallback_keeps
    (drains : world.Drains input) : Keeps world (world.tryOpenFallback input) := by
  unfold tryOpenFallback
  split
  · exact adopt_keeps drains ..
  · exact keeps_of_self rfl rfl

theorem degrade_keeps (drains : world.Drains input)
    : Keeps world (world.degrade input) := by
  have dropped := dropWriter_keeps drains
  unfold degrade
  dsimp only
  split
  · exact dropped.trans (tryOpenFallback_keeps (drains_of_none (dropWriter_writer ..) input))
  · exact dropped.trans (keeps_of_self rfl rfl)
  · exact dropped.trans (keeps_of_self rfl rfl)
  · exact dropped

def recovers (world : LogWorld) (input : LogInput) : Bool :=
  world.self.state != .normal
    && (input.opens .primary || (world.self.config.hasFallback && input.opens .fallback))

theorem tryRecover_keeps (drains : world.recovers input = true → world.Drains input)
    : Keeps world (world.tryRecover input) := by
  unfold recovers at drains
  unfold tryRecover
  split
  · exact .refl world
  · rename_i degraded
    split
    · rename_i opened
      exact adopt_keeps (drains (by simp [degraded, opened])) ..
    · split
      · rename_i opened
        rw [Bool.and_eq_true] at opened
        exact adopt_keeps (drains (by simp [degraded, opened.1, opened.2])) ..
      · exact .refl world

theorem maybeTryRecover_keeps
    (drains : world.recoveryDue input = true → world.recovers input = true →
      world.Drains input)
    : Keeps world (world.maybeTryRecover input) := by
  unfold maybeTryRecover
  split
  · rename_i due
    have noted : Keeps world
        { world with self := { world.self with lastRecoverAttempt := input.now } } :=
      keeps_of_self rfl rfl
    exact noted.trans (tryRecover_keeps (drains due))
  · exact .refl world

theorem maybeFsync_keeps (world : LogWorld) (input : LogInput)
    : Keeps world (world.maybeFsync input) := by
  unfold maybeFsync
  split
  · exact fsync_keeps world input
  · exact .refl world

theorem reopen_keeps (unused : world.self.writer = none)
    (input : LogInput) (slot : LogSlot) : Keeps world (world.reopen input slot) := by
  unfold reopen
  split
  · have opened : (world.inFamily slot .openAppend).self.writer = none := unused
    exact (openAppend_keeps world slot).trans (keeps_fresh opened rfl rfl)
  · exact degrade_keeps (drains_of_none unused input)

/-- Without a writer a family that keeps its lines is all that counts. -/
theorem inFamily_lines (unused : world.self.writer = none)
    {change : LogFamily → LogFamily} {text : List UInt8}
    (kept : (change (world.files slot)).lines world.self.config.maxRotatedFiles text
      = (world.files slot).lines world.self.config.maxRotatedFiles text)
    : (world.inFamily slot change).lines text = world.lines text := by
  have each : ∀ other, (world.inFamily slot change).linesAt text other
      = world.linesAt text other := by
    intro other
    by_cases same : other = slot
    · subst same
      simpa [linesAt, stream, content, buffered, inFamily, unused, LogFamily.lines] using kept
    · simp [linesAt, stream, content, buffered, inFamily, Function.update_of_ne same]
  unfold LogWorld.lines
  rw [each, each]
  rfl

/-! Runs -/

def ToFile (world : LogWorld) : Prop :=
  world.self.state = .normal ∨ world.self.state = .fallback

/-- While files are rotated there is no writer, and a writer that has no file any more writes
to stderr.
-/
def Placed (world : LogWorld) : Prop :=
  match world.phase with
  | .flushing _ => world.ToFile
  | .closing _ => world.ToFile
  | .degrading _ => world.ToFile
  | .ageing _ _ => world.ToFile ∧ world.self.writer = none
  | .shifting _ _ left =>
      world.ToFile ∧ world.self.writer = none ∧ left ≤ world.self.config.maxRotatedFiles - 1
  | .retiring _ _ => world.ToFile ∧ world.self.writer = none
  | .reopening _ _ => world.ToFile ∧ world.self.writer = none
  | _ => world.self.state ≠ .discard

/-- The file system and the clock do no harm in this step: a writer goes out of use only if
its buffer gets to the file, a line goes to a file only behind a whole line, a rotated file
is removed or replaced only if it is the oldest or has no whole line, and stderr takes what
is printed.
-/
def Harmless (world : LogWorld) (input : LogInput) : Prop :=
  match world.phase with
  | .idle =>
      match input.call with
      | .tryRecover => world.recovers input = true → world.Drains input
      | _ => True
  | .entering _ =>
      world.recoveryDue input = true → world.recovers input = true → world.Drains input
  | .closing _ => world.Drains input
  | .degrading _ => world.Drains input
  | .shifting _ slot (left + 1) =>
      (world.files slot).rotated (left + 1) ≠ none →
        input.removes = true ∨ input.renames = true →
        (world.files slot).Spares world.self.config.maxRotatedFiles (left + 2)
  | .retiring _ slot =>
      input.removes = true ∨ (input.renames = true ∧ (world.files slot).current ≠ none) →
        (world.files slot).Spares world.self.config.maxRotatedFiles 1
  | .writing line =>
      if world.self.state = .stderr then input.prints = true
      else ∀ writer ∈ world.self.writer,
        (BufferedOutput.writeAll bufferCapacity input.flushReach input.directReach
          (world.content writer.slot) writer.buffer line.bytes).ok = true →
        EndsWhole lineEnd (world.stream writer.slot)
  | _ => True

variable {config : JsonlConfig} {files : LogSlot → LogFamily} {world before after : LogWorld}
  {text : List UInt8}

theorem Balanced.of_keeps (balanced : before.Balanced config files text)
    (keeps : Keeps before after)
    : after.Balanced config files text := by
  refine ⟨keeps.config.trans balanced.settings, ?_⟩
  rw [keeps.lines, keeps.phase, keeps.accepted]
  exact balanced.lines

theorem Balanced.with_phase (balanced : world.Balanced config files text) {phase : LogPhase}
    (same : phase.pending = world.phase.pending)
    : ({ world with phase } : LogWorld).Balanced config files text := by
  refine ⟨balanced.settings, ?_⟩
  rw [same]
  exact balanced.lines

theorem Balanced.in_family (balanced : world.Balanced config files text)
    (unused : world.self.writer = none) {change : LogFamily → LogFamily}
    (kept : (change (world.files slot)).lines world.self.config.maxRotatedFiles text
      = (world.files slot).lines world.self.config.maxRotatedFiles text)
    : (world.inFamily slot change).Balanced config files text := by
  refine ⟨balanced.settings, ?_⟩
  rw [inFamily_lines unused kept]
  exact balanced.lines

/-! One step -/

theorem ToFile.not_discard (placed : world.ToFile)
    : world.self.state ≠ .discard := by
  rcases placed with same | same <;> rw [same] <;> exact nofun

@[simp] theorem adopt_state (world : LogWorld) (input : LogInput) (slot : LogSlot)
    (state : WriterState) : (world.adopt input slot state).self.state = state := rfl

@[simp] theorem flush_state (world : LogWorld) (input : LogInput)
    : (world.flush input).self.state = world.self.state := by
  unfold flush
  split <;> rfl

theorem fsync_state (world : LogWorld) (input : LogInput)
    : (world.fsync input).self.state = world.self.state := by
  unfold fsync
  split
  · rfl
  · exact flush_state world input

theorem maybeFsync_state (world : LogWorld) (input : LogInput)
    : (world.maybeFsync input).self.state = world.self.state := by
  unfold maybeFsync
  split
  · exact fsync_state world input
  · rfl

theorem tryOpenFallback_state (world : LogWorld) (input : LogInput)
    : (world.tryOpenFallback input).self.state ≠ .discard := by
  unfold tryOpenFallback
  split
  · rw [adopt_state]
    exact nofun
  · exact nofun

theorem tryRecover_state (input : LogInput) (placed : world.self.state ≠ .discard)
    : (world.tryRecover input).self.state ≠ .discard := by
  unfold tryRecover
  split
  · exact placed
  · split
    · rw [adopt_state]
      exact nofun
    · split
      · rw [adopt_state]
        exact nofun
      · exact placed

theorem tryRecover_phase (world : LogWorld) (input : LogInput)
    : (world.tryRecover input).phase = world.phase := by
  have adopted : ∀ slot state, (world.adopt input slot state).phase = world.phase :=
    fun slot _ => dropWriter_phase (world.inFamily slot .openAppend) input
  unfold tryRecover
  split
  · rfl
  · split
    · exact adopted ..
    · split
      · exact adopted ..
      · rfl

theorem maybeTryRecover_state (input : LogInput) (placed : world.self.state ≠ .discard)
    : (world.maybeTryRecover input).self.state ≠ .discard := by
  unfold maybeTryRecover
  split
  · exact tryRecover_state input placed
  · exact placed

/-- From a file the writer degrades to the fallback file or to stderr. -/
theorem degrade_state (placed : world.ToFile) (input : LogInput)
    : (world.degrade input).self.state ≠ .discard := by
  unfold degrade
  dsimp only
  rw [dropWriter_state]
  rcases placed with same | same
  · rw [same]
    exact tryOpenFallback_state (world.dropWriter input) input
  · rw [same]
    exact nofun

theorem toFile_of_needsRotation {line : LogLine} (full : world.needsRotation line = true)
    : world.ToFile := by
  unfold needsRotation at full
  rw [Bool.and_eq_true, Bool.or_eq_true, beq_iff_eq, beq_iff_eq] at full
  exact full.2

theorem toFile_of_rotationBase (base : world.rotationBase = some slot)
    : world.ToFile := by
  unfold rotationBase at base
  unfold ToFile
  split at base
  · exact .inl ‹_›
  · exact .inr ‹_›
  · cases base
  · cases base

/-- A file that could not be opened after the rotation is given up. -/
theorem reopen_state (placed : world.ToFile) (input : LogInput) (slot : LogSlot)
    : (world.reopen input slot).self.state ≠ .discard := by
  unfold reopen
  split
  · exact placed.not_discard
  · exact degrade_state placed input

theorem writeToFile_placed (placed : world.ToFile) (input : LogInput) (line : LogLine)
    : (world.writeToFile input line).Placed := by
  unfold writeToFile
  split
  · exact placed
  · dsimp only
    split
    · exact placed.not_discard
    · exact placed

theorem step_placed (input : LogInput) (placed : world.Placed) : (world.step input).Placed := by
  unfold step
  unfold Placed at placed
  cases phase : world.phase with
  | idle =>
      rw [phase] at placed
      dsimp only [answer]
      cases input.call with
      | writeEntry line => exact placed
      | flush =>
          unfold Placed
          rw [(flush_keeps world input).phase, phase]
          dsimp only
          rw [flush_state]
          exact placed
      | fsync =>
          unfold Placed
          rw [(fsync_keeps world input).phase, phase]
          dsimp only
          rw [fsync_state]
          exact placed
      | tryRecover =>
          unfold Placed
          dsimp only
          rw [tryRecover_phase, phase]
          exact tryRecover_state input placed
  | entering line =>
      rw [phase] at placed
      exact maybeTryRecover_state input placed
  | sizing line =>
      rw [phase] at placed
      unfold Placed
      dsimp only
      by_cases full : world.needsRotation line = true
      · rw [if_pos full]
        exact toFile_of_needsRotation full
      · rw [if_neg full]
        exact placed
  | flushing line =>
      rw [phase] at placed
      unfold Placed ToFile
      dsimp only
      rw [flush_state]
      exact placed
  | closing line =>
      rw [phase] at placed
      unfold Placed
      dsimp only
      cases base : (world.dropWriter input).rotationBase with
      | none =>
          dsimp only
          rw [dropWriter_state]
          exact placed.not_discard
      | some slot => exact ⟨toFile_of_rotationBase base, dropWriter_writer ..⟩
  | ageing line slot =>
      rw [phase] at placed
      exact ⟨placed.1, placed.2, le_rfl⟩
  | shifting line slot left =>
      rw [phase] at placed
      cases left with
      | zero => exact ⟨placed.1, placed.2.1⟩
      | succ left => exact ⟨placed.1, placed.2.1, Nat.le_of_succ_le placed.2.2⟩
  | retiring line slot =>
      rw [phase] at placed
      exact placed
  | reopening line slot =>
      rw [phase] at placed
      exact reopen_state placed.1 input slot
  | writing line =>
      rw [phase] at placed
      dsimp only [writeOut]
      split
      · rename_i same
        exact writeToFile_placed (.inl same) input line
      · rename_i same
        exact writeToFile_placed (.inr same) input line
      · exact placed
      · exact placed
  | syncing =>
      rw [phase] at placed
      unfold Placed
      dsimp only
      rw [maybeFsync_state]
      exact placed
  | degrading line =>
      rw [phase] at placed
      exact degrade_state placed input

/-- What a write adds to the stream of its file is all it adds. -/
theorem stored_lines {writer : BufWriter} (using_ : world.self.writer = some writer)
    {file buffer : List UInt8} {added : Nat}
    (grown : linesOf text (file ++ buffer) = linesOf text (world.stream writer.slot) + added)
    : (world.stored writer.slot file buffer).lines text = world.lines text + added := by
  have here : (world.stored writer.slot file buffer).linesAt text writer.slot
      = world.linesAt text writer.slot + added := by
    have stream : (world.stored writer.slot file buffer).stream writer.slot
        = file ++ buffer := by
      simp [LogWorld.stream, content, buffered, stored]
    unfold linesAt
    rw [stream, grown]
    simp only [stored, Function.update_self, LogFamily.pastLines, LogFamily.rotatedLines]
    omega
  have there : ∀ other ≠ writer.slot,
      (world.stored writer.slot file buffer).linesAt text other
        = world.linesAt text other := by
    intro other distinct
    have unused : writer.slot ≠ other := Ne.symm distinct
    simp [linesAt, stream, content, buffered, stored, using_, unused,
      Function.update_of_ne distinct]
  unfold lines
  cases slot : writer.slot with
  | primary =>
      rw [slot] at here there
      rw [here, there .fallback nofun]
      simp only [stored]
      omega
  | fallback =>
      rw [slot] at here there
      rw [here, there .primary nofun]
      simp only [stored]
      omega

/-- A line that is written whole joins those of its file, and one that is not stays to be
written.
-/
theorem writeToFile_balanced {line : LogLine} (phase : world.phase = .writing line)
    (whole : ∀ writer ∈ world.self.writer,
      (BufferedOutput.writeAll bufferCapacity input.flushReach input.directReach
        (world.content writer.slot) writer.buffer line.bytes).ok = true →
      EndsWhole lineEnd (world.stream writer.slot))
    (balanced : world.Balanced config files text)
    : (world.writeToFile input line).Balanced config files text := by
  unfold writeToFile
  split
  · apply balanced.with_phase
    rw [phase]
    rfl
  · rename_i writer using_
    have outcome := BufferedOutput.writeAll_stream (show 0 < bufferCapacity by decide)
      input.flushReach input.directReach (world.content writer.slot) writer.buffer line.bytes
    have endsWhole := whole writer using_
    dsimp only at outcome ⊢
    generalize BufferedOutput.writeAll bufferCapacity input.flushReach input.directReach
      (world.content writer.slot) writer.buffer line.bytes = written at outcome endsWhole ⊢
    have stream : world.stream writer.slot = world.content writer.slot ++ writer.buffer := by
      simp [LogWorld.stream, buffered, using_]
    rw [← stream] at outcome
    have before := balanced.lines
    rw [phase] at before
    rcases outcome with ⟨done, added⟩ | ⟨failed, most, short, added⟩
    · have grown := linesOf_append_line (endsWhole done) line text
      rw [← added] at grown
      have counted := stored_lines using_ grown
      rw [if_pos done]
      exact ⟨balanced.settings, counted.trans before⟩
    · have grown := linesOf_append_front (world.stream writer.slot) line short text
      rw [← added] at grown
      have counted := stored_lines using_ (grown.trans (Nat.add_zero _).symm)
      rw [failed, if_neg nofun]
      exact ⟨balanced.settings, (congrArg (· + [line.text].count text) counted).trans before⟩

theorem writeOut_balanced {line : LogLine}
    (phase : world.phase = .writing line) (placed : world.self.state ≠ .discard)
    (harmless : world.Harmless input) (balanced : world.Balanced config files text)
    : (world.writeOut input line).Balanced config files text := by
  unfold Harmless at harmless
  rw [phase] at harmless
  dsimp only at harmless
  unfold writeOut
  split
  · rename_i same
    rw [same, if_neg nofun] at harmless
    exact writeToFile_balanced phase harmless balanced
  · rename_i same
    rw [same, if_neg nofun] at harmless
    exact writeToFile_balanced phase harmless balanced
  · rename_i same
    rw [if_pos same] at harmless
    rw [if_pos harmless]
    have before := balanced.lines
    rw [phase] at before
    refine ⟨balanced.settings, ?_⟩
    unfold lines linesAt at before ⊢
    simp only [LogPhase.pending, List.map_cons, List.map_nil, List.count_append,
      List.count_nil] at before ⊢
    simp only [stream, content, buffered] at before ⊢
    omega
  · exact absurd ‹_› placed

theorem step_balanced (placed : world.Placed)
    (harmless : world.Harmless input) (balanced : world.Balanced config files text)
    : (world.step input).Balanced config files text := by
  have given := harmless
  unfold Placed at placed
  unfold Harmless at harmless
  unfold step
  cases phase : world.phase with
  | idle =>
      rw [phase] at harmless
      dsimp only [answer] at harmless ⊢
      cases call : input.call with
      | writeEntry line =>
          have before := balanced.lines
          rw [phase] at before
          refine ⟨balanced.settings, ?_⟩
          simp only [LogPhase.pending, List.map_append, List.map_cons, List.map_nil,
            List.count_append, List.count_nil] at before ⊢
          exact (congrArg (· + _) before).trans (Nat.add_assoc ..)
      | flush => exact balanced.of_keeps (flush_keeps world input)
      | fsync => exact balanced.of_keeps (fsync_keeps world input)
      | tryRecover =>
          rw [call] at harmless
          exact balanced.of_keeps (tryRecover_keeps harmless)
  | entering line =>
      rw [phase] at harmless
      have keeps := maybeTryRecover_keeps harmless
      apply (balanced.of_keeps keeps).with_phase
      rw [keeps.phase, phase]
      rfl
  | sizing line =>
      apply balanced.with_phase
      rw [phase]
      split <;> rfl
  | flushing line =>
      have keeps := flush_keeps world input
      apply (balanced.of_keeps keeps).with_phase
      rw [keeps.phase, phase]
      rfl
  | closing line =>
      rw [phase] at harmless
      have keeps := dropWriter_keeps harmless
      apply (balanced.of_keeps keeps).with_phase
      rw [keeps.phase, phase]
      split <;> rfl
  | ageing line slot =>
      rw [phase] at placed
      refine (balanced.in_family placed.2 ?_).with_phase ?_
      · exact LogFamily.tryRemove_lines (fun _ => .inl le_rfl) (by omega) text
      · exact (congrArg LogPhase.pending phase).symm
  | shifting line slot left =>
      rw [phase] at placed harmless
      cases left with
      | zero =>
          apply balanced.with_phase
          rw [phase]
          rfl
      | succ left =>
          obtain ⟨-, unused, below⟩ := placed
          refine (balanced.in_family unused ?_).with_phase ?_
          · exact LogFamily.shift_lines harmless (by omega) text
          · exact (congrArg LogPhase.pending phase).symm
  | retiring line slot =>
      rw [phase] at placed harmless
      refine (balanced.in_family placed.2 ?_).with_phase ?_
      · exact LogFamily.retire_lines harmless text
      · exact (congrArg LogPhase.pending phase).symm
  | reopening line slot =>
      rw [phase] at placed
      have keeps := reopen_keeps placed.2 input slot
      apply (balanced.of_keeps keeps).with_phase
      rw [keeps.phase, phase]
      rfl
  | writing line =>
      rw [phase] at placed
      exact writeOut_balanced phase placed given balanced
  | syncing =>
      have keeps := maybeFsync_keeps world input
      apply (balanced.of_keeps keeps).with_phase
      rw [keeps.phase, phase]
      rfl
  | degrading line =>
      rw [phase] at harmless
      have keeps := degrade_keeps harmless
      apply (balanced.of_keeps keeps).with_phase
      rw [keeps.phase, phase]
      rfl

/-! Whole runs -/

theorem tryOpenPrimary_state (world : LogWorld) (input : LogInput)
    : (world.tryOpenPrimary input).self.state ≠ .discard := by
  unfold tryOpenPrimary
  split
  · rw [adopt_state]
    exact nofun
  · exact tryOpenFallback_state world input

theorem tryOpenPrimary_keeps (drains : world.Drains input)
    : Keeps world (world.tryOpenPrimary input) := by
  unfold tryOpenPrimary
  split
  · exact adopt_keeps drains ..
  · exact tryOpenFallback_keeps drains

theorem open_balanced (config : JsonlConfig) (files : LogSlot → LogFamily)
    (opening : LogInput) (text : List UInt8)
    : (open_ config files opening).Placed
      ∧ (open_ config files opening).Balanced config files text := by
  unfold open_
  generalize blank : ({ self := _, files, stderr := _, phase := _, accepted := _ }
    : LogWorld) = world
  have drains : world.Drains opening := by
    subst blank
    exact nofun
  have keeps := tryOpenPrimary_keeps drains
  constructor
  · unfold Placed
    rw [keeps.phase]
    subst blank
    exact tryOpenPrimary_state _ opening
  · refine Balanced.of_keeps ⟨?_, ?_⟩ keeps <;> subst blank
    · rfl
    · simp [lines, linesAt, stream, content, buffered, LogPhase.pending, LogFamily.lines]

/-- With nothing left in the buffer the lines are those on the disk and on stderr. -/
theorem storedLines_flush
    (covered : ∀ writer ∈ world.self.writer, input.flushReach.covers writer.buffer = true)
    (text : List UInt8)
    : (world.flush input).storedLines text = world.lines text := by
  rw [← (flush_keeps world input).lines text]
  have unbuffered : ∀ slot, (world.flush input).buffered slot = [] := by
    intro slot
    unfold flush
    split
    · rename_i unused
      simp [buffered, unused]
    · rename_i writer using_
      rw [BufferedOutput.flush_of_covers (covered writer using_)]
      simp [buffered, stored]
  simp [lines, storedLines, linesAt, stream, unbuffered, content, LogFamily.lines]

/-- In a run without harm, what is on the disk and on stderr after a flush that succeeds is what
was there at the start and every line that was taken on, each as often as it was.
-/
theorem lines_kept_while_harmless (config : JsonlConfig) (files : LogSlot → LogFamily)
    (opening : LogInput) {inputs : List LogInput}
    (harmless : Runs.Guarded step Harmless (open_ config files opening) inputs)
    {world : LogWorld}
    (reached : world ∈ Runs.states step (open_ config files opening) inputs)
    (idle : world.phase = .idle) {last : LogInput} (flushes : last.call = .flush)
    (covered : ∀ writer ∈ world.self.writer, last.flushReach.covers writer.buffer = true)
    (text : List UInt8)
    : (world.step last).storedLines text
      = (files .primary).lines config.maxRotatedFiles text
        + (files .fallback).lines config.maxRotatedFiles text
        + (world.accepted.map (·.text)).count text := by
  have kept : ∀ world ∈ Runs.states step (open_ config files opening) inputs,
      world.Placed ∧ world.Balanced config files text :=
    Runs.invariant_of_guarded
      (fun _ input both safe => ⟨step_placed input both.1, step_balanced both.1 safe both.2⟩)
      (open_balanced config files opening text) harmless
  have account := (kept world reached).2.lines
  rw [idle] at account
  have answered : world.step last = world.flush last := by
    unfold step answer
    rw [idle, flushes]
  rw [answered, storedLines_flush covered]
  exact account

-- A run in which all works, and one with a disk that is full while the file is rotated.

def emptyFamily : LogFamily where
  current := none
  rotated _ := none
  aged := []

def smooth (call : LogCall) : LogInput where
  call
  now := 0
  opens _ := true
  measures := true
  flushReach := none
  directReach := none
  dropReach := none
  removes := true
  renames := true
  prints := true

def diskFull : LogInput :=
  { smooth .flush with flushReach := some 0, directReach := some 0, dropReach := some 0 }

def tinyLog : JsonlConfig := ⟨false, 3, 1, 10⟩

def oneEntry (byte : UInt8) (unended : lineEnd ∉ [byte]) : List LogInput :=
  smooth (.writeEntry ⟨[byte], unended⟩) :: List.replicate 4 (smooth .flush)

theorem lines_kept_of_one_entry
    : ((Runs.final step (open_ tinyLog (fun _ => emptyFamily) (smooth .flush))
          (oneEntry 97 (by decide))).step (smooth .flush)).storedLines [97] = 1 := by
  have harmless : Runs.Guarded step Harmless
      (open_ tinyLog (fun _ => emptyFamily) (smooth .flush)) (oneEntry 97 (by decide)) := by
    refine ⟨trivial, fun due => absurd due (by decide +kernel), trivial, ?_, trivial, trivial⟩
    rintro writer using_ -
    obtain rfl := Option.some.inj using_
    decide +kernel
  exact (lines_kept_while_harmless tinyLog (fun _ => emptyFamily) (smooth .flush) harmless
    (Runs.final_mem_states ..) rfl rfl (fun _ _ => rfl) [97]).trans (by decide +kernel)

/-- The first line is buffered. The second would exceed the size, and the rotation drops the
buffer on the full disk.
-/
def rotationOnFullDisk : List LogInput :=
  oneEntry 97 (by decide) ++ (oneEntry 98 (by decide)).take 3
    ++ List.replicate 2 diskFull ++ List.replicate 6 (smooth .flush)

/-- The line before a rotation is gone although the flush at the end succeeds, and the writer
was never in the state of discarding.
-/
theorem line_lost_on_full_disk
    : let start := open_ tinyLog (fun _ => emptyFamily) (smooth .flush)
      let world := Runs.final step start rotationOnFullDisk
      world.phase = .idle
      ∧ (∀ world ∈ Runs.states step start rotationOnFullDisk, world.self.state ≠ .discard)
      ∧ (world.accepted.map (·.text)).count [97] = 1
      ∧ (∀ writer ∈ world.self.writer, (smooth .flush).flushReach.covers writer.buffer = true)
      ∧ (world.step (smooth .flush)).storedLines [97] = 0 := by
  refine ⟨rfl, ?_, ?_, ?_, ?_⟩ <;> decide +kernel

end LogWorld

end StorageBallast
