import StorageBallast.Daemon.BehaviorModes
import StorageBallast.Foundations.Channels

/-! The way of a memory pressure level from the sampler to the daemon: the subscription loop
reports changes against its own last level, the callback sends without waiting, and the
daemon receives.
-/

namespace StorageBallast

open Runs

structure EpollFlags where
  epollpri : Bool
  epollerr : Bool
  epollhup : Bool
deriving DecidableEq, Repr

/-- How `epoll.wait` returns. -/
inductive EpollWait where
  | interrupted
  | failed
  | timedOut
  | ready (flags : EpollFlags)
deriving DecidableEq, Repr

inductive SubscriptionSource where
  | psiEpoll
  | poll
deriving DecidableEq, Repr

/-- A subscription thread: the level it last saw, and whether it still runs. -/
structure SubscriptionLoop where
  lastLevel : MemoryPressureLevel
  running : Bool
deriving DecidableEq, Repr

namespace SubscriptionLoop

def sampleOnce (self : SubscriptionLoop) (sampler : Option MemoryPressureLevel)
    : SubscriptionLoop × Option MemoryPressureLevel :=
  match sampler with
  | none => (self, none)
  | some level =>
      if level ≠ self.lastLevel then ({ self with lastLevel := level }, some level)
      else (self, none)

/-- One turn of the loop around the kernel's pressure trigger. -/
def epollIteration (self : SubscriptionLoop) (wait : EpollWait)
    (sampler : Option MemoryPressureLevel)
    : SubscriptionLoop × Option MemoryPressureLevel :=
  match wait with
  | .interrupted => (self, none)
  | .failed => ({ self with running := false }, none)
  | .timedOut => (self, none)
  | .ready flags =>
      if flags.epollerr || flags.epollhup then ({ self with running := false }, none)
      else if !flags.epollpri then (self, none)
      else self.sampleOnce sampler

def iteration (source : SubscriptionSource) (self : SubscriptionLoop) (wait : EpollWait)
    (sampler : Option MemoryPressureLevel)
    : SubscriptionLoop × Option MemoryPressureLevel :=
  match source with
  | .psiEpoll => self.epollIteration wait sampler
  | .poll => self.sampleOnce sampler

end SubscriptionLoop

/-- `subscribe_memory_pressure`: polling is the fallback when the first sample or the trigger
of the other loop fails, and takes an initial sample of its own.
-/
def subscribeMemoryPressure (epollInitial : Option MemoryPressureLevel) (triggerOpens : Bool)
    (pollInitial : Option MemoryPressureLevel)
    : Option (SubscriptionSource × SubscriptionLoop) :=
  match epollInitial, triggerOpens with
  | some level, true => some (.psiEpoll, ⟨level, true⟩)
  | _, _ => pollInitial.map fun level => (.poll, ⟨level, true⟩)

def memoryPressureChannelCap : Nat := 16

structure MemoryPath where
  loop : SubscriptionLoop
  channel : Channel MemoryPressureLevel memoryPressureChannelCap
  /-- The level the daemon was last given, by its seed sample or by an event. -/
  delivered : MemoryPressureLevel

inductive MemoryPathInput where
  | iteration (wait : EpollWait) (sampler : Option MemoryPressureLevel)
  | receive
deriving DecidableEq, Repr

namespace MemoryPath

def start (loop : SubscriptionLoop) (seed : Option MemoryPressureLevel) : MemoryPath :=
  ⟨loop, .empty, seed.getD .unknown⟩

def callback (self : MemoryPath) (reported : Option MemoryPressureLevel) : MemoryPath :=
  match reported with
  | none => self
  | some level => { self with channel := self.channel.trySend level }

def iterate (source : SubscriptionSource) (self : MemoryPath) (wait : EpollWait)
    (sampler : Option MemoryPressureLevel) : MemoryPath :=
  if self.loop.running then
    let turn := self.loop.iteration source wait sampler
    { self with loop := turn.1 }.callback turn.2
  else self

/-- One event of `drain_memory_pressure_events` or of the wait between two ticks. -/
def receive (self : MemoryPath) : MemoryPath :=
  match self.channel.tryRecv with
  | none => self
  | some (level, channel) => { self with channel, delivered := level }

def step (source : SubscriptionSource) (self : MemoryPath) : MemoryPathInput → MemoryPath
  | .iteration wait sampler => self.iterate source wait sampler
  | .receive => self.receive

def drained (self : MemoryPath) : MemoryPressureLevel :=
  self.channel.drain self.delivered

def lastSent (self : MemoryPath) : MemoryPressureLevel :=
  self.channel.latest self.delivered

theorem drained_eq_lastSent (self : MemoryPath) : self.drained = self.lastSent :=
  self.channel.drain_eq_latest self.delivered

/-- Only a trigger without an error makes the epoll loop sample; the polling loop always does. -/
def samples (source : SubscriptionSource) (wait : EpollWait) : Bool :=
  match source, wait with
  | .poll, _ => true
  | .psiEpoll, .ready flags => flags.epollpri && !flags.epollerr && !flags.epollhup
  | .psiEpoll, .interrupted | .psiEpoll, .failed | .psiEpoll, .timedOut => false

/-- A turn that samples is one of the sampler, and any other reports nothing and changes at most
whether the loop still runs. Witness: the kinds of a wait and the flags of an event.
-/
theorem iteration_cases (source : SubscriptionSource) (self : SubscriptionLoop) (wait : EpollWait)
    (sampler : Option MemoryPressureLevel)
    : if samples source wait then self.iteration source wait sampler = self.sampleOnce sampler
      else ∃ running, self.iteration source wait sampler = ({ self with running }, none) := by
  cases source with
  | poll => exact rfl
  | psiEpoll =>
      cases wait with
      | interrupted => exact ⟨self.running, rfl⟩
      | failed => exact ⟨false, rfl⟩
      | timedOut => exact ⟨self.running, rfl⟩
      | ready flags =>
          obtain ⟨pri, err, hup⟩ := flags
          cases err <;> cases hup <;> cases pri <;>
            first | exact rfl | exact ⟨self.running, rfl⟩ | exact ⟨false, rfl⟩

/-- An iteration either sends a level that is new to the loop, or changes at most whether the
loop still runs.
-/
theorem iterate_cases (source : SubscriptionSource) (self : MemoryPath) (wait : EpollWait)
    (sampler : Option MemoryPressureLevel)
    : (∃ level, samples source wait = true ∧ sampler = some level
        ∧ level ≠ self.loop.lastLevel
        ∧ self.iterate source wait sampler
          = { self with
              loop := { self.loop with lastLevel := level }
              channel := self.channel.trySend level })
      ∨ ((∀ level, self.loop.running = true → samples source wait = true →
          sampler = some level → level = self.loop.lastLevel)
        ∧ ∃ running, self.iterate source wait sampler
          = { self with loop := { self.loop with running } }) := by
  have turn := iteration_cases source self.loop wait sampler
  unfold iterate
  by_cases running : self.loop.running = true
  case neg =>
    rw [if_neg running]
    exact Or.inr ⟨fun _ runs => absurd runs running, self.loop.running, rfl⟩
  rw [if_pos running]
  cases sampled : samples source wait with
  | false =>
      rw [if_neg (by simp [sampled])] at turn
      obtain ⟨runs, turn⟩ := turn
      exact Or.inr ⟨fun _ _ does => absurd does (by decide), runs, by rw [turn]; rfl⟩
  | true =>
      rw [if_pos sampled] at turn
      rw [turn]
      cases sampler with
      | none => exact Or.inr ⟨fun _ _ _ given => (nomatch given), self.loop.running, rfl⟩
      | some level =>
          unfold SubscriptionLoop.sampleOnce
          by_cases changed : level ≠ self.loop.lastLevel
          · exact Or.inl ⟨level, rfl, rfl, changed, by simp [changed, callback]⟩
          · refine Or.inr ⟨?_, self.loop.running, by simp [changed, callback]⟩
            rintro _ - - ⟨⟩
            exact not_not.mp changed

def Reports (source : SubscriptionSource) (self : MemoryPath) (wait : EpollWait)
    (level : MemoryPressureLevel) : Prop :=
  samples source wait = true
  ∧ level ≠ self.loop.lastLevel
  ∧ self.channel.queue.length < memoryPressureChannelCap

/-- An iteration that reports the level makes it the last one sent, any other leaves the last
one as it is.
-/
theorem iterate_lastSent {source : SubscriptionSource} {self : MemoryPath}
    (running : self.loop.running = true) (wait : EpollWait) (level : MemoryPressureLevel)
    : (Reports source self wait level
        ∧ (self.iterate source wait (some level)).lastSent = level)
      ∨ (¬ Reports source self wait level
        ∧ (self.iterate source wait (some level)).lastSent = self.lastSent) := by
  rcases self.iterate_cases source wait (some level) with
    ⟨_, sampled, ⟨⟩, changed, after⟩ | ⟨seen, _, after⟩
  · rw [after]
    by_cases room : self.channel.queue.length < memoryPressureChannelCap
    · exact Or.inl ⟨⟨sampled, changed, room⟩, Channel.latest_trySend_of_room _ _ room⟩
    · refine Or.inr ⟨fun reports => room reports.2.2, ?_⟩
      exact congrArg (·.latest self.delivered) (Channel.trySend_of_full level room)
  · rw [after]
    exact Or.inr ⟨fun reports => reports.2.1 (seen level running reports.1 rfl), rfl⟩

/-- At the end of an iteration whose sampler would succeed, draining delivers its level. -/
def TracksSource (source : SubscriptionSource) (taken : MemoryPath × MemoryPathInput) : Prop :=
  match taken.2 with
  | .iteration _ (some level) =>
      taken.1.loop.running = true → (taken.1.step source taken.2).drained = level
  | .iteration _ none | .receive => True

def Carries (source : SubscriptionSource) (self : MemoryPath) (input : MemoryPathInput) : Prop :=
  match input with
  | .iteration wait (some level) =>
      self.loop.running = true → self.lastSent = level ∨ Reports source self wait level
  | .iteration _ none | .receive => True

theorem tracksSource_iff (source : SubscriptionSource) (taken : MemoryPath × MemoryPathInput)
    : TracksSource source taken ↔ Carries source taken.1 taken.2 := by
  obtain ⟨path, input⟩ := taken
  cases input with
  | receive => exact Iff.rfl
  | iteration wait sampler =>
      cases sampler with
      | none => exact Iff.rfl
      | some level =>
          apply imp_congr_right
          intro running
          rw [drained_eq_lastSent]
          change (path.iterate source wait (some level)).lastSent = level ↔ _
          have sending := @iterate_lastSent source path running wait level
          rcases sending with ⟨reports, sent⟩ | ⟨silent, sent⟩
          · exact iff_of_true sent (Or.inr reports)
          · rw [sent]
            exact ⟨Or.inl, fun carried => carried.resolve_right silent⟩

/-- Every step of a daemon's run with the source of its subscription; without a subscription
there is none.
-/
def subscribedSteps (epollInitial : Option MemoryPressureLevel) (triggerOpens : Bool)
    (pollInitial seed : Option MemoryPressureLevel) (inputs : List MemoryPathInput)
    : List (SubscriptionSource × MemoryPath × MemoryPathInput) :=
  match subscribeMemoryPressure epollInitial triggerOpens pollInitial with
  | none => []
  | some (source, loop) =>
      (steps (step source) (start loop seed) inputs).map fun taken => (source, taken)

/-- Over a whole run the source is tracked exactly if each successful sample finds its level
sent before already or is reported.
-/
theorem tracked_iff_carried (epollInitial : Option MemoryPressureLevel) (triggerOpens : Bool)
    (pollInitial seed : Option MemoryPressureLevel) (inputs : List MemoryPathInput)
    : (∀ taken ∈ subscribedSteps epollInitial triggerOpens pollInitial seed inputs,
        TracksSource taken.1 taken.2)
      ↔ ∀ taken ∈ subscribedSteps epollInitial triggerOpens pollInitial seed inputs,
          Carries taken.1 taken.2.1 taken.2.2 :=
  forall₂_congr fun taken _ => tracksSource_iff taken.1 taken.2

/-- After a trigger reports critical pressure and the daemon has received it, pressure falls to
normal; the epoll loop times out without a sample, and the daemon stays at critical.
-/
theorem return_to_normal_lost
    : ¬ ∀ taken ∈ subscribedSteps (some .normal) true none (some .normal)
        [.iteration (.ready ⟨true, false, false⟩) (some .critical), .receive,
          .iteration .timedOut (some .normal)],
        TracksSource taken.1 taken.2 := by
  intro tracks
  have last := tracks (.psiEpoll, ⟨⟨.critical, true⟩, .empty, .critical⟩,
    .iteration .timedOut (some .normal))
    (by
      simp only [subscribedSteps, subscribeMemoryPressure, steps, List.map_cons, List.mem_cons]
      exact Or.inr (Or.inr (Or.inl rfl)))
  rcases (tracksSource_iff _ _).mp last rfl with sent | ⟨sampled, -⟩
  · cases sent
  · cases sampled

end MemoryPath

end StorageBallast
