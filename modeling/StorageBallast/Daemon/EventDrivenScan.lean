import Mathlib.Algebra.Group.Nat.Defs
import StorageBallast.Monitor.Diagnostics
import StorageBallast.Scanner.EventSource

/-! The scanner loop as far as it decides which roots a pass walks: the event source kept from
pass to pass, the active paths of a pass, and the ways in which a pass ends early.
-/

namespace StorageBallast

structure RootScanRequest where
  paths : List Location
  pressureLevel : PressureLevel
  maxDeleteBatch : Nat
  forceFullScan : Bool
deriving DecidableEq, Repr

def v2PressureReclaimBytesPerCandidate : Nat := 256 * 1024 * 1024

def v2PressureCandidateByteTarget (request : RootScanRequest) : Option Nat :=
  if !request.pressureLevel.atLeast .orange || request.maxDeleteBatch == 0 then none
  else
    some (min (v2PressureReclaimBytesPerCandidate * max request.maxDeleteBatch 1) (2 ^ 64 - 1))

/-- The roots to walk, if these are not all the requested ones. -/
def v2ActiveScanPaths (request : RootScanRequest) (dirtyRoots : PathSet)
    : Option (List Location) :=
  if request.forceFullScan then none
  else
    match request.pressureLevel with
    | .green | .yellow => if dirtyRoots.isEmpty then some [] else some dirtyRoots.toList
    | .orange | .red | .critical => none

structure PassWork where
  /-- The protection registry and the walker could be set up. -/
  started : Bool
  timedOut : Bool
  /-- Candidate bytes from the index, the pre-scan and the walk. -/
  candidateBytesSeen : Nat
deriving DecidableEq, Repr

structure RequestedPass where
  /-- The pause after passes without any progress is not over. -/
  coolingDown : Bool
  config : EventScannerConfig
  request : RootScanRequest
  world : WatchWorld
  work : PassWork

namespace RequestedPass

def indexEnabled (self : RequestedPass) : Bool := self.config.engine == .v2

def candidateByteTarget (self : RequestedPass) : Option Nat :=
  if self.indexEnabled then v2PressureCandidateByteTarget self.request else none

def walksToCompletion (self : RequestedPass) : Bool :=
  self.work.started && !self.work.timedOut
    && !self.candidateByteTarget.any (· ≤ self.work.candidateBytesSeen)

def eventConfig (self : RequestedPass) : EventSourceConfig :=
  .fromScannerConfig self.request.paths self.config

def choosesPaths (self : RequestedPass) : Bool := !self.coolingDown && !self.request.paths.isEmpty

end RequestedPass

/-- An entry of a directory is created, modified, moved or removed. -/
structure EntryChange where
  dir : Location
  descriptor : WatchDescriptor
  name : FileName
  flag : EventFlag
  isDir : Bool
  ofEntry : flag ∈ [.attrib, .closeWrite, .create, .delete, .modify, .movedFrom, .movedTo]

def EntryChange.event (change : EntryChange) : LinuxInotifyEvent where
  watch := change.descriptor
  mask := if change.isDir then [change.flag, .isDir] else [change.flag]
  name := some change.name

/-- What the kernel tells besides: its queue has run over, or something has happened to a
watched directory itself.
-/
inductive KernelNotice where
  | overflow
  | watchedDir (watch : WatchDescriptor) (flag : EventFlag)
      (ofDirectory : flag ∈ [.attrib, .deleteSelf, .ignored, .moveSelf, .unmount])

namespace ScannerEventSource

def watches (self : ScannerEventSource) (watch : WatchDescriptor) : Bool :=
  match self.backend with
  | .recursiveInotify backend => backend.watchPaths.contains watch
  | .reconciliationOnly => false

def hear (self : ScannerEventSource) (event : LinuxInotifyEvent) : ScannerEventSource :=
  match self.backend with
  | .recursiveInotify backend =>
      { self with
        backend := .recursiveInotify { backend with unread := backend.unread ++ [event] } }
  | .reconciliationOnly => self

def observe (self : ScannerEventSource) (change : EntryChange) : ScannerEventSource :=
  if self.watches change.descriptor then self.hear change.event else self

def notify (self : ScannerEventSource) : KernelNotice → ScannerEventSource
  | .overflow => self.hear ⟨0, [.qOverflow], none⟩
  | .watchedDir watch flag _ =>
      if self.watches watch then self.hear ⟨watch, [flag], none⟩ else self

end ScannerEventSource

/-- The loop between two inputs. Which roots are up to date is known to nobody: they have been
walked to completion, and nothing in them has changed since.
-/
structure EventDrivenScan where
  eventSource : Option ScannerEventSource
  upToDate : List Location

inductive ScanInput where
  | change (change : EntryChange)
  | notice (notice : KernelNotice)
  | pass (pass : RequestedPass)

namespace EventDrivenScan

def start : EventDrivenScan := ⟨none, []⟩

def sourceFor (self : EventDrivenScan) (pass : RequestedPass) : ScannerEventSource :=
  match self.eventSource with
  | some source =>
      if source.config = pass.eventConfig then source
      else .start pass.world pass.eventConfig
  | none => .start pass.world pass.eventConfig

def drained (self : EventDrivenScan) (pass : RequestedPass)
    : EventInvalidation × ScannerEventSource :=
  (self.sourceFor pass).drain pass.world

def activeScanPaths (self : EventDrivenScan) (pass : RequestedPass) : List Location :=
  if pass.indexEnabled then
    (v2ActiveScanPaths pass.request (self.drained pass).1.dirtyRoots).getD pass.request.paths
  else pass.request.paths

/-- Marks are taken before anything is known of the walk. -/
def runPass (self : EventDrivenScan) (pass : RequestedPass) : EventDrivenScan :=
  if pass.coolingDown then self
  else
    { eventSource := if pass.indexEnabled then some (self.drained pass).2 else none
      upToDate :=
        if pass.choosesPaths && pass.walksToCompletion then
          self.activeScanPaths pass ++ self.upToDate
        else self.upToDate }

def observe (self : EventDrivenScan) (change : EntryChange) : EventDrivenScan where
  eventSource := self.eventSource.map (·.observe change)
  upToDate := self.upToDate.filter fun root => !change.dir.startsWith root

def notify (self : EventDrivenScan) (notice : KernelNotice) : EventDrivenScan :=
  { self with eventSource := self.eventSource.map (·.notify notice) }

def step (self : EventDrivenScan) : ScanInput → EventDrivenScan
  | .change change => self.observe change
  | .notice notice => self.notify notice
  | .pass pass => self.runPass pass

/-- A pass at green or yellow pressure goes to each requested root that is not up to date. -/
def FindsChanges (self : EventDrivenScan) : ScanInput → Prop
  | .change _ | .notice _ => True
  | .pass pass =>
      pass.choosesPaths = true → pass.request.pressureLevel.atLeast .orange = false →
        ∀ root ∈ pass.request.paths, root ∉ self.upToDate → root ∈ self.activeScanPaths pass

end EventDrivenScan

end StorageBallast
