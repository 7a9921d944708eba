import StorageBallast.Foundations.BufferedOutput
import StorageBallast.Foundations.Clock

/-! The JSONL logger. Lines go to the primary file, or to a fallback file, or to stderr, or
nowhere, and a file that is full is rotated. A step is one operation of the writer with what
the file system answers, as anything may fail between two of them.
-/

namespace StorageBallast

open BufferedOutput (Reach)

def lineEnd : UInt8 := 10

structure LogLine where
  text : List UInt8
  unended : lineEnd ∉ text

def LogLine.bytes (line : LogLine) : List UInt8 := line.text ++ [lineEnd]

/-- The two files that are written to. -/
inductive LogSlot where
  | primary
  | fallback
deriving DecidableEq, Repr

/-- A log file and its rotated predecessors by their numbers, as far as they exist. What was
rotated out is not on the disk any more.
-/
structure LogFamily where
  current : Option (List UInt8)
  rotated : Nat → Option (List UInt8)
  aged : List (List UInt8)

structure JsonlConfig where
  hasFallback : Bool
  maxSizeBytes : Nat
  maxRotatedFiles : Nat
  fsyncIntervalSecs : Nat
deriving DecidableEq, Repr

inductive WriterState where
  | normal
  | fallback
  | stderr
  | discard
deriving DecidableEq, Repr

structure BufWriter where
  slot : LogSlot
  buffer : List UInt8
deriving DecidableEq, Repr

structure JsonlWriter where
  config : JsonlConfig
  writer : Option BufWriter
  state : WriterState
  bytesWritten : Nat
  lastFsync : SystemTime
  lastRecoverAttempt : SystemTime

/-- What the writer is in the middle of, with the line that it is to write. -/
inductive LogPhase where
  | idle
  /-- At the start of `write_line`. -/
  | entering (line : LogLine)
  /-- Before the check for rotation. -/
  | sizing (line : LogLine)
  /-- In `rotate`, from the flush to the new file. -/
  | flushing (line : LogLine)
  | closing (line : LogLine)
  | ageing (line : LogLine) (slot : LogSlot)
  | shifting (line : LogLine) (slot : LogSlot) (left : Nat)
  | retiring (line : LogLine) (slot : LogSlot)
  | reopening (line : LogLine) (slot : LogSlot)
  /-- Before the line is written. -/
  | writing (line : LogLine)
  /-- The line is written. -/
  | syncing
  /-- The line could not be written. -/
  | degrading (line : LogLine)

/-- The writer, the files, the lines on stderr, and the lines handed over so far. -/
structure LogWorld where
  self : JsonlWriter
  files : LogSlot → LogFamily
  stderr : List (List UInt8)
  phase : LogPhase
  accepted : List LogLine

inductive LogCall where
  | writeEntry (line : LogLine)
  | flush
  | fsync
  | tryRecover

/-- What the clock and the file system answer in one step, and the call that comes next when
the writer is idle.
-/
structure LogInput where
  call : LogCall
  now : SystemTime
  opens : LogSlot → Bool
  measures : Bool
  flushReach : Reach
  directReach : Reach
  dropReach : Reach
  removes : Bool
  renames : Bool
  prints : Bool

def bufferCapacity : Nat := 64 * 1024

/-- `SystemTime::duration_since` of the time now, or nothing if the clock went back. -/
def sinceOrZero (now earlier : SystemTime) : Duration := (now - earlier).toNat

namespace LogFamily

def openAppend (family : LogFamily) : LogFamily :=
  { family with current := some (family.current.getD []) }

def remove (family : LogFamily) (maxRotated number : Nat) : LogFamily :=
  match family.rotated number with
  | none => family
  | some content =>
      { family with
        rotated := Function.update family.rotated number none
        aged := if maxRotated ≤ number then family.aged ++ [content] else family.aged }

def tryRemove (family : LogFamily) (maxRotated number : Nat) (removes : Bool) : LogFamily :=
  if removes then family.remove maxRotated number else family

/-- `rename` of a rotated file to the next number, over what is there. -/
def renameShift (family : LogFamily) (maxRotated number : Nat) : LogFamily :=
  match family.rotated number with
  | none => family
  | some content =>
      let family := family.remove maxRotated (number + 1)
      { family with
        rotated := Function.update (Function.update family.rotated number none) (number + 1)
          (some content) }

def shift (family : LogFamily) (maxRotated number : Nat) (removes renames : Bool) : LogFamily :=
  match family.rotated number with
  | none => family
  | some _ =>
      let family := family.tryRemove maxRotated (number + 1) removes
      if renames then family.renameShift maxRotated number else family

/-- `rename` of the current file to the first number, over what is there. -/
def renameCurrent (family : LogFamily) (maxRotated : Nat) : LogFamily :=
  match family.current with
  | none => family
  | some content =>
      let family := family.remove maxRotated 1
      { family with
        current := none
        rotated := Function.update family.rotated 1 (some content) }

def retire (family : LogFamily) (maxRotated : Nat) (removes renames : Bool) : LogFamily :=
  let family := family.tryRemove maxRotated 1 removes
  if renames then family.renameCurrent maxRotated else family

end LogFamily

namespace LogWorld

def inFamily (world : LogWorld) (slot : LogSlot) (change : LogFamily → LogFamily) : LogWorld :=
  { world with files := Function.update world.files slot (change (world.files slot)) }

def stored (world : LogWorld) (slot : LogSlot) (file buffer : List UInt8) : LogWorld :=
  { world with
    self := { world.self with writer := some ⟨slot, buffer⟩ }
    files := Function.update world.files slot
      { world.files slot with current := some file } }

def content (world : LogWorld) (slot : LogSlot) : List UInt8 :=
  ((world.files slot).current).getD []

def flush (world : LogWorld) (input : LogInput) : LogWorld :=
  match world.self.writer with
  | none => world
  | some writer =>
      let (file, buffer) :=
        BufferedOutput.flush input.flushReach (world.content writer.slot) writer.buffer
      world.stored writer.slot file buffer

def fsync (world : LogWorld) (input : LogInput) : LogWorld :=
  match world.self.writer with
  | none => world
  | some _ =>
      let world := world.flush input
      { world with self := { world.self with lastFsync := input.now } }

/-- A buffered writer that goes out of use tries to flush once more. -/
def dropWriter (world : LogWorld) (input : LogInput) : LogWorld :=
  match world.self.writer with
  | none => world
  | some writer =>
      let (file, _) :=
        BufferedOutput.flush input.dropReach (world.content writer.slot) writer.buffer
      { world with
        self := { world.self with writer := none }
        files := Function.update world.files writer.slot
          { world.files writer.slot with current := some file } }

/-- A writer for a file that was opened, in place of the one before. -/
def adopt (world : LogWorld) (input : LogInput) (slot : LogSlot) (state : WriterState)
    : LogWorld :=
  let opened := world.inFamily slot .openAppend
  let size := if input.measures then (opened.content slot).length else 0
  let world := opened.dropWriter input
  { world with
    self := { world.self with writer := some ⟨slot, []⟩, state, bytesWritten := size } }

def tryOpenFallback (world : LogWorld) (input : LogInput) : LogWorld :=
  if world.self.config.hasFallback && input.opens .fallback then
    world.adopt input .fallback .fallback
  else { world with self := { world.self with state := .stderr } }

def tryOpenPrimary (world : LogWorld) (input : LogInput) : LogWorld :=
  if input.opens .primary then world.adopt input .primary .normal
  else world.tryOpenFallback input

def degrade (world : LogWorld) (input : LogInput) : LogWorld :=
  let world := world.dropWriter input
  match world.self.state with
  | .normal => world.tryOpenFallback input
  | .fallback => { world with self := { world.self with state := .stderr } }
  | .stderr => { world with self := { world.self with state := .discard } }
  | .discard => world

def tryRecover (world : LogWorld) (input : LogInput) : LogWorld :=
  if world.self.state = .normal then world
  else if input.opens .primary then world.adopt input .primary .normal
  else if world.self.config.hasFallback && input.opens .fallback then
    world.adopt input .fallback .fallback
  else world

def recoveryDue (world : LogWorld) (input : LogInput) : Bool :=
  world.self.state != .normal
    && decide (Duration.fromSecs 30 ≤ sinceOrZero input.now world.self.lastRecoverAttempt)

def maybeTryRecover (world : LogWorld) (input : LogInput) : LogWorld :=
  if world.recoveryDue input then
    { world with self := { world.self with lastRecoverAttempt := input.now } }.tryRecover input
  else world

def needsRotation (world : LogWorld) (line : LogLine) : Bool :=
  decide (world.self.config.maxSizeBytes < world.self.bytesWritten + line.bytes.length)
    && decide (0 < world.self.bytesWritten)
    && (world.self.state == .normal || world.self.state == .fallback)

def rotationBase (world : LogWorld) : Option LogSlot :=
  match world.self.state with
  | .normal => some .primary
  | .fallback => if world.self.config.hasFallback then some .fallback else none
  | .stderr => none
  | .discard => none

def maybeFsync (world : LogWorld) (input : LogInput) : LogWorld :=
  if (sinceOrZero input.now world.self.lastFsync).asSecs ≥ world.self.config.fsyncIntervalSecs
  then world.fsync input
  else world

/-- The line goes to the file, and if that fails to the next level. -/
def writeToFile (world : LogWorld) (input : LogInput) (line : LogLine) : LogWorld :=
  match world.self.writer with
  | none => { world with phase := .degrading line }
  | some writer =>
      let written := BufferedOutput.writeAll bufferCapacity input.flushReach input.directReach
        (world.content writer.slot) writer.buffer line.bytes
      let world := world.stored writer.slot written.file written.buffer
      if written.ok then
        { world with
          self := { world.self with
            bytesWritten := world.self.bytesWritten + line.bytes.length }
          phase := .syncing }
      else { world with phase := .degrading line }

/-- The line goes where the state has it go. -/
def writeOut (world : LogWorld) (input : LogInput) (line : LogLine) : LogWorld :=
  match world.self.state with
  | .normal => world.writeToFile input line
  | .fallback => world.writeToFile input line
  | .stderr =>
      { world with
        stderr := if input.prints then world.stderr ++ [line.text] else world.stderr
        phase := .idle }
  | .discard => { world with phase := .idle }

def reopen (world : LogWorld) (input : LogInput) (slot : LogSlot) : LogWorld :=
  if input.opens slot then
    let world := world.inFamily slot .openAppend
    { world with
      self := { world.self with writer := some ⟨slot, []⟩, bytesWritten := 0 } }
  else world.degrade input

def answer (world : LogWorld) (input : LogInput) : LogWorld :=
  match input.call with
  | .writeEntry line =>
      { world with phase := .entering line, accepted := world.accepted ++ [line] }
  | .flush => world.flush input
  | .fsync => world.fsync input
  | .tryRecover => world.tryRecover input

/-- The next operation. -/
def step (world : LogWorld) (input : LogInput) : LogWorld :=
  let maxRotated := world.self.config.maxRotatedFiles
  match world.phase with
  | .idle => world.answer input
  | .entering line => { world.maybeTryRecover input with phase := .sizing line }
  | .sizing line =>
      { world with phase := if world.needsRotation line then .flushing line else .writing line }
  | .flushing line => { world.flush input with phase := .closing line }
  | .closing line =>
      let world := world.dropWriter input
      { world with
        phase := match world.rotationBase with
          | none => .writing line
          | some slot => .ageing line slot }
  | .ageing line slot =>
      { world.inFamily slot (·.tryRemove maxRotated maxRotated input.removes) with
        phase := .shifting line slot (maxRotated - 1) }
  | .shifting line slot 0 => { world with phase := .retiring line slot }
  | .shifting line slot (left + 1) =>
      { world.inFamily slot (·.shift maxRotated (left + 1) input.removes input.renames) with
        phase := .shifting line slot left }
  | .retiring line slot =>
      { world.inFamily slot (·.retire maxRotated input.removes input.renames) with
        phase := .reopening line slot }
  | .reopening line slot => { world.reopen input slot with phase := .writing line }
  | .writing line => world.writeOut input line
  | .syncing => { world.maybeFsync input with phase := .idle }
  | .degrading line => { world.degrade input with phase := .entering line }

def open_ (config : JsonlConfig) (files : LogSlot → LogFamily) (input : LogInput) : LogWorld :=
  tryOpenPrimary
    { self := {
        config
        writer := none
        state := .discard
        bytesWritten := 0
        lastFsync := input.now
        lastRecoverAttempt := 0
      }
      files
      stderr := []
      phase := .idle
      accepted := [] }
    input

end LogWorld

end StorageBallast
