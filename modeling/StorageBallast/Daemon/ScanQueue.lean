import Mathlib.Logic.Function.Basic
import StorageBallast.Daemon.EventDrivenScan
import StorageBallast.Foundations.Channels
import StorageBallast.Foundations.Runs

/-! The bounded channel of scan requests, with any number of producers and the scanner as its
receiver. A producer that makes room takes the oldest request out, whatever it is, and
between its attempts the others go on.
-/

namespace StorageBallast

inductive ScanEnqueueStatus where
  | queued
  | replacedStale
  | deferredFull
deriving DecidableEq, Repr

/-- `enqueue_scan_request` when nobody interferes. The channel is never disconnected, since the
monitor holds a receiver of its own.
-/
def enqueueScanRequest {α : Type} {capacity : Nat} (channel : Channel α capacity) (request : α)
    (replaceOnFull : Bool) : Channel α capacity × ScanEnqueueStatus :=
  if channel.queue.length < capacity then (channel.trySend request, .queued)
  else if !replaceOnFull then (channel, .deferredFull)
  else
    match channel.tryRecv with
    | some (_, rest) =>
        if rest.queue.length < capacity then (rest.trySend request, .replacedStale)
        else (rest, .deferredFull)
    | none => (channel, .deferredFull)

/-- A request as made by one call, told apart from those of all other calls. -/
structure QueuedRequest where
  id : Nat
  request : RootScanRequest
deriving DecidableEq, Repr

/-- Where a producer stands in `enqueue_scan_request` or `trigger_forced_scan`. -/
inductive ProducerPhase where
  | idle
  /-- The channel was full, and the oldest request is to make room. -/
  | popping (request : QueuedRequest)
  | resending (request : QueuedRequest)
  /-- Waits for room, for as long as `send_timeout` allows. -/
  | waiting (request : QueuedRequest)
deriving DecidableEq, Repr

/-- Why a request left the channel. -/
inductive PopFate where
  | received
  | replacedFor (request : QueuedRequest)
deriving DecidableEq, Repr

/-- The channel and its producers, with all requests that were accepted and all that left it,
each in order.
-/
structure ScanQueue (capacity : Nat) where
  channel : Channel QueuedRequest capacity
  producers : Nat → ProducerPhase
  nextId : Nat
  accepted : List QueuedRequest
  popped : List (QueuedRequest × PopFate)

inductive QueueStep where
  /-- The first `try_send` of `enqueue_scan_request`. -/
  | enqueue (producer : Nat) (request : RootScanRequest) (replaceOnFull : Bool)
  /-- Its `try_recv`. -/
  | makeRoom (producer : Nat)
  /-- Its second `try_send`. -/
  | enqueueAgain (producer : Nat)
  /-- The `send_timeout` of `trigger_forced_scan` begins, sends, or gives up. -/
  | triggerForcedScan (producer : Nat) (request : RootScanRequest)
  | sendDelivered (producer : Nat)
  | sendTimedOut (producer : Nat)
  /-- The scanner receives. -/
  | receive
deriving DecidableEq, Repr

namespace ScanQueue

variable {capacity : Nat}

def start : ScanQueue capacity := ⟨.empty, fun _ => .idle, 0, [], []⟩

def isFull (self : ScanQueue capacity) : Bool := !decide (self.channel.queue.length < capacity)

def setPhase (self : ScanQueue capacity) (producer : Nat) (phase : ProducerPhase)
    : ScanQueue capacity :=
  { self with producers := Function.update self.producers producer phase }

def fresh (self : ScanQueue capacity) (request : RootScanRequest) : QueuedRequest :=
  ⟨self.nextId, request⟩

def called (self : ScanQueue capacity) : ScanQueue capacity :=
  { self with nextId := self.nextId + 1 }

def accept (self : ScanQueue capacity) (request : QueuedRequest) : ScanQueue capacity :=
  { self with
    channel := self.channel.trySend request
    accepted := self.accepted ++ [request] }

def pop (self : ScanQueue capacity) (fate : PopFate) : ScanQueue capacity :=
  match self.channel.tryRecv with
  | some (request, rest) =>
      { self with channel := rest, popped := self.popped ++ [(request, fate)] }
  | none => self

def step (self : ScanQueue capacity) : QueueStep → ScanQueue capacity
  | .enqueue producer request replaceOnFull =>
      match self.producers producer with
      | .idle =>
          if !self.isFull then (self.accept (self.fresh request)).called
          else if !replaceOnFull then self.called
          else (self.setPhase producer (.popping (self.fresh request))).called
      | _ => self
  | .makeRoom producer =>
      match self.producers producer with
      | .popping request =>
          if self.channel.queue.isEmpty then self.setPhase producer .idle
          else (self.pop (.replacedFor request)).setPhase producer (.resending request)
      | _ => self
  | .enqueueAgain producer =>
      match self.producers producer with
      | .resending request =>
          if !self.isFull then (self.accept request).setPhase producer .idle
          else self.setPhase producer .idle
      | _ => self
  | .triggerForcedScan producer request =>
      match self.producers producer with
      | .idle =>
          (self.setPhase producer
            (.waiting (self.fresh { request with forceFullScan := true }))).called
      | _ => self
  | .sendDelivered producer =>
      match self.producers producer with
      | .waiting request =>
          if !self.isFull then (self.accept request).setPhase producer .idle
          else self
      | _ => self
  | .sendTimedOut producer =>
      match self.producers producer with
      | .waiting _ => self.setPhase producer .idle
      | _ => self
  | .receive => self.pop .received

/-- A producer that nobody interrupts does what `enqueue_scan_request` does. -/
theorem enqueue_uninterrupted {self : ScanQueue capacity} {producer : Nat}
    (idle : self.producers producer = .idle) (request : RootScanRequest) (replaceOnFull : Bool)
    : (Runs.final step self [.enqueue producer request replaceOnFull, .makeRoom producer,
        .enqueueAgain producer]).channel
        = (enqueueScanRequest self.channel (self.fresh request) replaceOnFull).1 := by
  simp only [Runs.final_cons, Runs.final_nil]
  unfold enqueueScanRequest
  by_cases room : self.channel.queue.length < capacity
  · simp [step, idle, isFull, room, called, accept]
  · cases replaceOnFull with
    | false => simp [step, idle, isFull, room, called]
    | true =>
        cases received : self.channel.tryRecv with
        | none =>
            have empty : self.channel.queue.isEmpty = true := by
              rw [Channel.queue_tryRecv_none received]
              rfl
            simp [step, idle, isFull, room, called, setPhase, empty]
        | some pair =>
            obtain ⟨oldest, rest⟩ := pair
            have stocked : self.channel.queue.isEmpty = false := by
              rw [Channel.queue_tryRecv received]
              rfl
            by_cases again : rest.queue.length < capacity
            · simp [step, idle, isFull, room, called, setPhase, stocked, pop, received, again,
                accept]
            · simp [step, idle, isFull, room, called, setPhase, stocked, pop, received, again]

end ScanQueue

end StorageBallast
