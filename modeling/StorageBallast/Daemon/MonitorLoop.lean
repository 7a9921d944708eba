import Mathlib.Tactic.Common
import StorageBallast.Foundations.Clock
import StorageBallast.Foundations.Runs

/-! Pace of the monitoring loop: each tick checks the pressure, beats the watchdog and sleeps,
and the sleep can be cut short.
-/

namespace StorageBallast

structure SelfMonitorTick where
  rssBytes : Nat
  rssWarningBytes : Nat
  rssHardLimitExceeded : Bool
deriving DecidableEq, Repr

inductive TickThrottleReason where
  | rssWarning
  | slowTick
deriving DecidableEq, Repr

inductive TickThrottleStage where
  | normal
  | backoff30s
  | backoff60s
deriving DecidableEq, Repr

def tickThrottleSlowTickThreshold : Duration := 200000000

def tickThrottleSustainedTicks : Nat := 3

def tickThrottleEscalateTicks : Nat := tickThrottleSustainedTicks * 2

def TickThrottleStage.interval : TickThrottleStage → Option Duration
  | .normal => none
  | .backoff30s => some (.fromSecs 30)
  | .backoff60s => some (.fromMins 1)

structure TickThrottleDecision where
  interval : Duration
  stage : TickThrottleStage
  reason : Option TickThrottleReason
  stageChanged : Bool
deriving DecidableEq, Repr

structure AdaptiveTickThrottle where
  consecutivePressureTicks : Nat
  stage : TickThrottleStage
deriving DecidableEq, Repr

namespace AdaptiveTickThrottle

def default : AdaptiveTickThrottle := ⟨0, .normal⟩

/-- The counter is a byte that stays at its largest value. -/
def observe (self : AdaptiveTickThrottle) (requestedInterval : Duration)
    (selfMonitorTick : SelfMonitorTick) (tickDuration : Duration)
    : AdaptiveTickThrottle × TickThrottleDecision :=
  let reason : Option TickThrottleReason :=
    if selfMonitorTick.rssWarningBytes < selfMonitorTick.rssBytes then some .rssWarning
    else if tickThrottleSlowTickThreshold < tickDuration then some .slowTick
    else none
  let next : AdaptiveTickThrottle :=
    if reason.isSome then
      let ticks := min (self.consecutivePressureTicks + 1) 255
      { consecutivePressureTicks := ticks
        stage :=
          if tickThrottleEscalateTicks ≤ ticks then .backoff60s
          else if tickThrottleSustainedTicks ≤ ticks then .backoff30s
          else .normal }
    else default
  let interval :=
    match next.stage.interval with
    | none => requestedInterval
    | some minimum => max requestedInterval minimum
  (next, ⟨interval, next.stage, reason, next.stage != self.stage⟩)

end AdaptiveTickThrottle

structure WatchdogHeartbeat where
  interval : Duration
  lastBeat : Instant
  enabled : Bool
deriving DecidableEq, Repr

namespace WatchdogHeartbeat

def new (watchdogSec : Nat) (watchdogEnabled : Nat → Bool) (now : Instant)
    : WatchdogHeartbeat :=
  ⟨.fromSecs (watchdogSec / 2), now, watchdogEnabled watchdogSec⟩

def maybeNotify (self : WatchdogHeartbeat) (now : Instant) : WatchdogHeartbeat × Bool :=
  if !self.enabled then (self, false)
  else if elapsed now self.lastBeat < self.interval then (self, false)
  else ({ self with lastBeat := now }, true)

end WatchdogHeartbeat

/-- How a wait on the memory pressure channel ends; the channel is disconnected once the
subscription is gone and its events are received.
-/
inductive RecvOutcome where
  | event
  | timeout
  | disconnected (returnedAt : Instant)
deriving DecidableEq, Repr

/-- What one turn of the sleep observes: the clock, the signals (a status dump requested since
the last look at them) and the wait.
-/
structure SleepLook where
  now : Instant
  shouldShutdown : Bool
  statusDumpRequested : Bool
  received : RecvOutcome
deriving DecidableEq, Repr

inductive SleepEnd where
  | shutdown
  | deadline
  | statusDump
  | disconnected
deriving DecidableEq, Repr

/-- Why and when a sleep ended, whether a status dump is then pending, and whether one was
requested during the sleep.
-/
structure SleepOutcome where
  cause : SleepEnd
  endedAt : Instant
  statusDump : Bool
  requested : Bool
deriving DecidableEq, Repr

/-- `sleep_with_memory_pressure_events`; nothing while the sleep lasts beyond what was
observed.
-/
def sleepWithMemoryPressureEvents (deadline : Instant) (statusDump : Bool)
    : List SleepLook → Option SleepOutcome
  | [] => none
  | look :: rest =>
      let pending := statusDump || look.statusDumpRequested
      if look.shouldShutdown then
        some ⟨.shutdown, look.now, pending, look.statusDumpRequested⟩
      else if deadline ≤ look.now then
        some ⟨.deadline, look.now, pending, look.statusDumpRequested⟩
      else if pending then
        some ⟨.statusDump, look.now, pending, look.statusDumpRequested⟩
      else
        match look.received with
        | .event | .timeout => sleepWithMemoryPressureEvents deadline pending rest
        | .disconnected returnedAt =>
            some ⟨.disconnected, returnedAt, pending, look.statusDumpRequested⟩

structure MonitorLoop where
  tickThrottle : AdaptiveTickThrottle
  watchdog : WatchdogHeartbeat
  statusDump : Bool
  running : Bool
deriving DecidableEq, Repr

structure TickInput where
  tickStart : Instant
  shouldShutdown : Bool
  /-- The scan interval asked for; nothing when the check fails. -/
  checkPressure : Option Duration
  selfMonitorTick : SelfMonitorTick
  watchdogAt : Instant
  /-- A worker thread is gone for good. -/
  workerLost : Bool
  tickEnd : Instant
  sleepStart : Instant
  looks : List SleepLook
deriving DecidableEq, Repr

/-- The loop at the end of a tick's work, the sleep it asks for, and whether the watchdog was
notified.
-/
structure TickWork where
  loop : MonitorLoop
  interval : Option Duration
  notified : Bool
deriving DecidableEq, Repr

namespace MonitorLoop

def start (watchdogSec : Nat) (watchdogEnabled : Nat → Bool) (now : Instant) : MonitorLoop :=
  ⟨.default, .new watchdogSec watchdogEnabled now, false, true⟩

def stop (self : MonitorLoop) : MonitorLoop := { self with running := false }

/-- A tick up to its sleep. A failed check goes straight to a sleep of one second. -/
def work (self : MonitorLoop) (input : TickInput) : TickWork :=
  if !self.running then ⟨self, none, false⟩
  else if input.shouldShutdown then ⟨self.stop, none, false⟩
  else
    match input.checkPressure with
    | none => ⟨self, some (.fromSecs 1), false⟩
    | some scanInterval =>
        -- a pending status dump is answered here and cleared
        let dumped := { self with statusDump := false }
        if input.selfMonitorTick.rssHardLimitExceeded then ⟨dumped.stop, none, false⟩
        else
          let beat := self.watchdog.maybeNotify input.watchdogAt
          let beaten := { dumped with watchdog := beat.1 }
          if input.workerLost then ⟨beaten.stop, none, beat.2⟩
          else
            let throttled := self.tickThrottle.observe scanInterval input.selfMonitorTick
              (elapsed input.tickEnd input.tickStart)
            ⟨{ beaten with tickThrottle := throttled.1 }, some throttled.2.interval, beat.2⟩

def slept (self : MonitorLoop) (input : TickInput) : Option (Duration × SleepOutcome) :=
  (self.work input).interval.bind fun interval =>
    (sleepWithMemoryPressureEvents (input.sleepStart + interval) (self.work input).loop.statusDump
      input.looks).map (interval, ·)

def tick (self : MonitorLoop) (input : TickInput) : MonitorLoop :=
  match self.slept input with
  | none => (self.work input).loop.stop
  | some (_, outcome) => { (self.work input).loop with statusDump := outcome.statusDump }

end MonitorLoop

end StorageBallast

/-! Neither spinning nor stalling: how long the sleeps between ticks last, and how far apart
the watchdog notifications are.
-/

namespace StorageBallast

open Runs

namespace SleepLook

def Quiet (deadline : Instant) (look : SleepLook) : Prop :=
  look.shouldShutdown = false ∧ look.now < deadline ∧ look.statusDumpRequested = false

end SleepLook

/-- The channel is found disconnected before the deadline, in a sleep that nothing else ends. -/
def DisconnectsEarly (deadline : Instant) : List SleepLook → Prop
  | [] => False
  | look :: rest =>
      look.Quiet deadline
      ∧ match look.received with
        | .event | .timeout => DisconnectsEarly deadline rest
        | .disconnected returnedAt => returnedAt < deadline

def FindsOnlyOldDump (deadline : Instant) (looks : List SleepLook) : Prop :=
  ∃ look ∈ looks.head?, look.Quiet deadline

def SleepOutcome.LastsOrWoken (deadline : Instant) (outcome : SleepOutcome) : Prop :=
  deadline ≤ outcome.endedAt ∨ outcome.cause = .shutdown
  ∨ (outcome.cause = .statusDump ∧ outcome.requested = true)

/-- The first look of a sleep ends it rightly, finds an old dump, waits on or loses the
channel.
-/
inductive Slept (deadline : Instant) (statusDump : Bool) (look : SleepLook)
    (rest : List SleepLook) : Option SleepOutcome → Prop
  | woken (outcome : SleepOutcome)
    : ¬ look.Quiet deadline → outcome.LastsOrWoken deadline
      → Slept deadline statusDump look rest (some outcome)
  | pending
    : look.Quiet deadline → statusDump = true
      → Slept deadline statusDump look rest (some ⟨.statusDump, look.now, true, false⟩)
  | waits
    : look.Quiet deadline → statusDump = false
      → look.received = .event ∨ look.received = .timeout
      → Slept deadline statusDump look rest
          (sleepWithMemoryPressureEvents deadline false rest)
  | disconnected (returnedAt : Instant)
    : look.Quiet deadline → statusDump = false → look.received = .disconnected returnedAt
      → Slept deadline statusDump look rest (some ⟨.disconnected, returnedAt, false, false⟩)

theorem sleep_slept (deadline : Instant) (statusDump : Bool) (look : SleepLook)
    (rest : List SleepLook)
    : Slept deadline statusDump look rest
        (sleepWithMemoryPressureEvents deadline statusDump (look :: rest)) := by
  unfold sleepWithMemoryPressureEvents
  cases shutdown : look.shouldShutdown with
  | true =>
      refine .woken _ (fun quiet => ?_) (Or.inr (Or.inl rfl))
      exact absurd (shutdown.symm.trans quiet.1) (by decide)
  | false =>
      simp only [Bool.false_eq_true, if_false]
      by_cases late : deadline ≤ look.now
      · rw [if_pos late]
        exact .woken _ (fun quiet => Nat.not_lt.mpr late quiet.2.1) (Or.inl late)
      · rw [if_neg late]
        cases requested : look.statusDumpRequested with
        | true =>
            simp only [Bool.or_true, if_true]
            refine .woken _ (fun quiet => ?_) (Or.inr (Or.inr ⟨rfl, rfl⟩))
            exact absurd (requested.symm.trans quiet.2.2) (by decide)
        | false =>
            have quiet : look.Quiet deadline := ⟨shutdown, Nat.lt_of_not_le late, requested⟩
            simp only [Bool.or_false]
            cases statusDump with
            | true => exact .pending quiet rfl
            | false =>
                simp only [Bool.false_eq_true, if_false]
                cases received : look.received with
                | event => exact .waits quiet rfl (Or.inl received)
                | timeout => exact .waits quiet rfl (Or.inr received)
                | disconnected returnedAt => exact .disconnected returnedAt quiet rfl received

variable {looks : List SleepLook} {deadline : Instant}

/-- Without a pending dump a sleep is cut short only by a channel that disconnects early, by
induction on what it looks at.
-/
theorem sleep_lasts_iff
    : (∀ outcome, sleepWithMemoryPressureEvents deadline false looks = some outcome →
        outcome.LastsOrWoken deadline)
      ↔ ¬ DisconnectsEarly deadline looks := by
  induction looks with
  | nil => simp [sleepWithMemoryPressureEvents, DisconnectsEarly]
  | cons look rest ih =>
      have slept := sleep_slept deadline false look rest
      generalize sleepWithMemoryPressureEvents deadline false (look :: rest) = result at slept ⊢
      cases slept with
      | woken outcome loud lasts =>
          refine iff_of_true ?_ (fun early => loud early.1)
          rintro _ ⟨⟩
          exact lasts
      | pending _ old => cases old
      | waits quiet _ received =>
          have same : DisconnectsEarly deadline (look :: rest) ↔ DisconnectsEarly deadline rest := by
            rcases received with received | received <;> simp [DisconnectsEarly, received, quiet]
          rw [same]
          exact ih
      | disconnected returnedAt quiet _ received =>
          have here : DisconnectsEarly deadline (look :: rest) ↔ returnedAt < deadline := by
            simp [DisconnectsEarly, received, quiet]
          rw [here, Nat.not_lt]
          simp [SleepOutcome.LastsOrWoken]

/-- A sleep with an old pending dump is cut short by it exactly if its first look finds nothing
else.
-/
theorem sleep_pending_iff
    : (∀ outcome, sleepWithMemoryPressureEvents deadline true looks = some outcome →
        outcome.LastsOrWoken deadline)
      ↔ ¬ FindsOnlyOldDump deadline looks := by
  cases looks with
  | nil => simp [sleepWithMemoryPressureEvents, FindsOnlyOldDump]
  | cons look rest =>
      have first : FindsOnlyOldDump deadline (look :: rest) ↔ look.Quiet deadline := by
        simp [FindsOnlyOldDump]
      rw [first]
      have slept := sleep_slept deadline true look rest
      generalize sleepWithMemoryPressureEvents deadline true (look :: rest) = result at slept ⊢
      cases slept with
      | woken outcome loud lasts =>
          refine iff_of_true ?_ loud
          rintro _ ⟨⟩
          exact lasts
      | pending quiet =>
          refine iff_of_false ?_ (not_not.mpr quiet)
          have short := Nat.not_le.mpr quiet.2.1
          simp [SleepOutcome.LastsOrWoken, short]
      | waits _ old => cases old
      | disconnected _ _ old => cases old

/-- Whatever ends a sleep with an old pending dump too early is that dump. -/
theorem sleep_pending_cause {outcome : SleepOutcome}
    (ended : sleepWithMemoryPressureEvents deadline true looks = some outcome)
    : outcome.LastsOrWoken deadline ∨ outcome.cause = .statusDump := by
  cases looks with
  | nil => cases ended
  | cons look rest =>
      have slept := sleep_slept deadline true look rest
      rw [ended] at slept
      generalize result : some outcome = other at slept
      cases slept with
      | woken _ _ lasts => exact Or.inl (Option.some.inj result ▸ lasts)
      | pending => exact Or.inr (by rw [Option.some.inj result])
      | waits _ old => cases old
      | disconnected _ _ old => cases old

/-- Without a pending dump only a newly requested one ends a sleep, by induction on what the
sleep looks at.
-/
theorem sleep_dump_requested {outcome : SleepOutcome}
    (ended : sleepWithMemoryPressureEvents deadline false looks = some outcome)
    (cause : outcome.cause = .statusDump)
    : outcome.LastsOrWoken deadline := by
  induction looks with
  | nil => cases ended
  | cons look rest ih =>
      have slept := sleep_slept deadline false look rest
      rw [ended] at slept
      generalize result : some outcome = other at slept
      cases slept with
      | woken _ _ lasts => exact Option.some.inj result ▸ lasts
      | pending _ old => cases old
      | waits => exact ih result.symm
      | disconnected =>
          rw [Option.some.inj result] at cause
          cases cause

/-- The loop with what its history decides: whether the last status dump that cut a sleep
short is still the newest one, and whether the watchdog was notified before.
-/
structure MonitorRun where
  loop : MonitorLoop
  dumpSpent : Bool
  notified : Bool

namespace MonitorRun

def start (watchdogSec : Nat) (watchdogEnabled : Nat → Bool) (now : Instant) : MonitorRun :=
  ⟨.start watchdogSec watchdogEnabled now, false, false⟩

def step (self : MonitorRun) (input : TickInput) : MonitorRun where
  loop := self.loop.tick input
  dumpSpent :=
    match self.loop.slept input with
    | none => self.dumpSpent
    | some (_, outcome) =>
        outcome.cause == .statusDump || (self.dumpSpent && !outcome.requested)
  notified := self.notified || (self.loop.work input).notified

/-- Another tick follows only after a sleep that lasts as long as asked for, or is cut short
by a shutdown or by a status dump that cut no sleep short before.
-/
def SleepsLongEnough (self : MonitorRun) (input : TickInput) : Prop :=
  (self.loop.tick input).running = true →
    ∃ interval outcome, self.loop.slept input = some (interval, outcome)
      ∧ (outcome.LastsOrWoken (input.sleepStart + interval)
        ∨ (outcome.cause = .statusDump ∧ self.dumpSpent = false))

/-- The sleep of a tick, if there is one, does not lose its channel early; where a failed check
leaves a status dump pending that cut a sleep short before, that is not all it finds.
-/
def Undisturbed (self : MonitorRun) (input : TickInput) : Prop :=
  ∀ interval, (self.loop.work input).interval = some interval →
    if input.checkPressure = none ∧ self.loop.statusDump = true then
      ¬ (self.dumpSpent = true ∧ FindsOnlyOldDump (input.sleepStart + interval) input.looks)
    else ¬ DisconnectsEarly (input.sleepStart + interval) input.looks

end MonitorRun

namespace MonitorLoop

def ReachesWatchdog (self : MonitorLoop) (input : TickInput) : Prop :=
  self.running = true ∧ input.shouldShutdown = false ∧ input.checkPressure.isSome = true
  ∧ input.selfMonitorTick.rssHardLimitExceeded = false

/-- The work halts the loop before the watchdog, fails its check, or reaches the watchdog. -/
inductive Worked (self : MonitorLoop) (input : TickInput) : TickWork → Prop
  | halts (work : TickWork)
    : ¬ self.ReachesWatchdog input → work.interval = none → work.loop.running = false
      → work.loop.watchdog = self.watchdog → work.notified = false → Worked self input work
  | fails
    : ¬ self.ReachesWatchdog input → self.running = true → input.checkPressure = none
      → Worked self input ⟨self, some (.fromSecs 1), false⟩
  | beats (work : TickWork)
    : self.ReachesWatchdog input → work.loop.statusDump = false
      → work.loop.running = work.interval.isSome
      → work.loop.watchdog = (self.watchdog.maybeNotify input.watchdogAt).1
      → work.notified = (self.watchdog.maybeNotify input.watchdogAt).2
      → Worked self input work

theorem work_worked (self : MonitorLoop) (input : TickInput)
    : Worked self input (self.work input) := by
  unfold work
  cases running : self.running with
  | false =>
      refine .halts _ ?_ rfl running rfl rfl
      intro reaches
      exact absurd (running.symm.trans reaches.1) (by decide)
  | true =>
      cases shutdown : input.shouldShutdown with
      | true =>
          refine .halts _ ?_ rfl rfl rfl rfl
          intro reaches
          exact absurd (shutdown.symm.trans reaches.2.1) (by decide)
      | false =>
          cases check : input.checkPressure with
          | none =>
              refine .fails ?_ running check
              intro reaches
              simp [ReachesWatchdog, check] at reaches
          | some scanInterval =>
              cases limit : input.selfMonitorTick.rssHardLimitExceeded with
              | true =>
                  refine .halts _ ?_ rfl rfl rfl rfl
                  intro reaches
                  exact absurd (limit.symm.trans reaches.2.2.2) (by decide)
              | false =>
                  have reaches : self.ReachesWatchdog input :=
                    ⟨running, shutdown, by rw [check]; rfl, limit⟩
                  cases input.workerLost with
                  | true => exact .beats _ reaches rfl rfl rfl rfl
                  | false => exact .beats _ reaches rfl rfl rfl rfl

/-- A tick that sleeps finds a status dump pending exactly if its check has failed and one was
pending before.
-/
theorem work_statusDump {self : MonitorLoop} {input : TickInput} {interval : Duration}
    (sleeps : (self.work input).interval = some interval)
    : (self.work input).loop.statusDump = true
      ↔ input.checkPressure = none ∧ self.statusDump = true := by
  have worked := self.work_worked input
  generalize self.work input = work at worked sleeps ⊢
  cases worked with
  | halts _ _ none => exact absurd (none.symm.trans sleeps) (by simp)
  | fails _ _ failed => simp [failed]
  | beats _ reaches cleared =>
      have checked := reaches.2.2.1
      rw [cleared]
      apply iff_of_false (by decide)
      rintro ⟨failed, -⟩
      simp [failed] at checked

theorem work_running (self : MonitorLoop) (input : TickInput)
    : (self.work input).loop.running = (self.work input).interval.isSome := by
  have worked := self.work_worked input
  generalize self.work input = work at worked ⊢
  cases worked with
  | halts _ _ none stopped => rw [none, stopped]; rfl
  | fails _ running => exact running
  | beats _ _ _ running => exact running

/-- A sleep of a tick is one of the length its work asked for. -/
theorem slept_some {self : MonitorLoop} {input : TickInput} {slept : Duration × SleepOutcome}
    (ended : self.slept input = some slept)
    : (self.work input).interval = some slept.1
      ∧ sleepWithMemoryPressureEvents (input.sleepStart + slept.1)
          (self.work input).loop.statusDump input.looks = some slept.2 := by
  obtain ⟨interval, asked, outcome⟩ := Option.bind_eq_some_iff.mp ended
  obtain ⟨result, sleeps, rfl⟩ := Option.map_eq_some_iff.mp outcome
  exact ⟨asked, sleeps⟩

/-- The loop goes on after a tick exactly if its sleep has ended. -/
theorem tick_running (self : MonitorLoop) (input : TickInput)
    : (self.tick input).running = (self.slept input).isSome := by
  unfold tick
  cases ended : self.slept input with
  | none => rfl
  | some pair =>
      obtain ⟨interval, -⟩ := slept_some ended
      have asked : (self.work input).interval.isSome = true := by simp [interval]
      exact (self.work_running input).trans asked

end MonitorLoop

namespace MonitorRun

theorem sleepsLongEnough_of_asked {self : MonitorRun} {input : TickInput}
    {interval : Duration} (asked : (self.loop.work input).interval = some interval)
    : self.SleepsLongEnough input
      ↔ ∀ outcome, sleepWithMemoryPressureEvents (input.sleepStart + interval)
            (self.loop.work input).loop.statusDump input.looks = some outcome →
          outcome.LastsOrWoken (input.sleepStart + interval)
          ∨ (outcome.cause = .statusDump ∧ self.dumpSpent = false) := by
  have slept : self.loop.slept input
      = (sleepWithMemoryPressureEvents (input.sleepStart + interval)
          (self.loop.work input).loop.statusDump input.looks).map (interval, ·) := by
    rw [MonitorLoop.slept, asked, Option.bind_some]
  unfold SleepsLongEnough
  rw [self.loop.tick_running input, slept]
  cases sleepWithMemoryPressureEvents (input.sleepStart + interval)
      (self.loop.work input).loop.statusDump input.looks with
  | none => simp
  | some outcome =>
      constructor
      · rintro long _ ⟨⟩
        obtain ⟨_, _, ⟨⟩, lasts⟩ := long rfl
        exact lasts
      · intro long _
        exact ⟨interval, outcome, rfl, long outcome rfl⟩

/-- A sleep is long enough exactly if it is undisturbed. -/
theorem sleepsLongEnough_iff (self : MonitorRun) (input : TickInput)
    : self.SleepsLongEnough input ↔ self.Undisturbed input := by
  unfold Undisturbed
  cases asked : (self.loop.work input).interval with
  | none =>
      refine iff_of_true ?_ (fun _ none => nomatch none)
      intro running
      have stopped := self.loop.work_running input
      have sleeps : (self.loop.slept input).isSome = true :=
        (self.loop.tick_running input).symm.trans running
      simp [MonitorLoop.slept, asked] at sleeps
  | some interval =>
      rw [sleepsLongEnough_of_asked asked]
      have pending := MonitorLoop.work_statusDump asked
      simp only [Option.some.injEq, forall_eq']
      by_cases old : input.checkPressure = none ∧ self.loop.statusDump = true
      · rw [if_pos old, pending.mpr old, not_and]
        cases self.dumpSpent with
        | true =>
            simp only [Bool.true_eq_false, and_false, or_false, forall_const]
            exact sleep_pending_iff
        | false =>
            refine iff_of_true ?_ (fun spent => nomatch spent)
            intro outcome ended
            exact (sleep_pending_cause ended).imp_right fun cause => ⟨cause, rfl⟩
      · rw [if_neg old, Bool.eq_false_iff.mpr (mt pending.mp old), ← sleep_lasts_iff]
        refine forall₂_congr fun outcome ended => ?_
        exact or_iff_left_of_imp fun dumped => sleep_dump_requested ended dumped.1

def BeatsInTime (watchdogSec : Nat) (self : MonitorRun) (input : TickInput) : Prop :=
  self.notified = true → (self.loop.work input).notified = true →
    elapsed input.watchdogAt self.loop.watchdog.lastBeat < .fromSecs watchdogSec

/-- A tick that comes as far as the watchdog does so in less than the watchdog time-out since
the last notification, whether or not it notifies.
-/
def ReachesInTime (watchdogSec : Nat) (self : MonitorRun) (input : TickInput) : Prop :=
  self.notified = true → self.loop.watchdog.enabled = true → self.loop.ReachesWatchdog input →
    elapsed input.watchdogAt self.loop.watchdog.lastBeat < .fromSecs watchdogSec

def Configured (watchdogSec : Nat) (self : MonitorRun) : Prop :=
  self.loop.watchdog.interval = .fromSecs (watchdogSec / 2)

theorem step_configured {watchdogSec : Nat} {self : MonitorRun}
    (configured : self.Configured watchdogSec) (input : TickInput)
    : (self.step input).Configured watchdogSec := by
  have work : (self.loop.work input).loop.watchdog.interval = self.loop.watchdog.interval := by
    have worked := self.loop.work_worked input
    generalize self.loop.work input = work at worked ⊢
    cases worked with
    | halts _ _ _ _ watchdog => rw [watchdog]
    | fails => rfl
    | beats _ _ _ _ watchdog =>
        rw [watchdog]
        unfold WatchdogHeartbeat.maybeNotify
        split
        · rfl
        · split <;> rfl
  have tick : (self.loop.tick input).watchdog = (self.loop.work input).loop.watchdog := by
    unfold MonitorLoop.tick
    split <;> rfl
  unfold Configured step
  rw [tick, work]
  exact configured

/-- Notifications are in time exactly if the watchdog is reached in time. -/
theorem beatsInTime_iff {watchdogSec : Nat} {self : MonitorRun}
    (configured : self.Configured watchdogSec) (input : TickInput)
    : self.BeatsInTime watchdogSec input ↔ self.ReachesInTime watchdogSec input := by
  refine imp_congr_right fun _ => ?_
  have worked := self.loop.work_worked input
  generalize self.loop.work input = work at worked ⊢
  cases worked with
  | halts _ misses _ _ _ silent =>
      simp [silent, misses]
  | fails misses =>
      simp [misses]
  | beats _ reaches _ _ _ notified =>
      rw [notified]
      unfold WatchdogHeartbeat.maybeNotify
      cases enabled : self.loop.watchdog.enabled with
      | false => simp
      | true =>
          simp only [Bool.not_true, Bool.false_eq_true, if_false]
          by_cases soon : elapsed input.watchdogAt self.loop.watchdog.lastBeat
              < self.loop.watchdog.interval
          · rw [if_pos soon]
            refine iff_of_true (fun silent => nomatch silent) (fun _ _ => ?_)
            rw [configured] at soon
            exact Nat.lt_of_lt_of_le soon
              (Nat.mul_le_mul_right _ (Nat.div_le_self watchdogSec 2))
          · rw [if_neg soon]
            exact ⟨fun beats _ _ => beats rfl, fun reached _ => reached trivial reaches⟩

def ShortWork (watchdogSec : Nat) (inputs : List TickInput) : Prop :=
  ∀ input ∈ inputs, 2 * elapsed input.sleepStart input.tickStart < .fromSecs watchdogSec

/-- The sleeps of a run are long enough, and as long as its work is short the notifications
of a positive watchdog time-out are in time.
-/
def Paced (watchdogSec : Nat) (watchdogEnabled : Nat → Bool) (now : Instant)
    (inputs : List TickInput) : Prop :=
  (∀ taken ∈ steps step (start watchdogSec watchdogEnabled now) inputs,
    taken.1.SleepsLongEnough taken.2)
  ∧ (0 < watchdogSec → ShortWork watchdogSec inputs →
      ∀ taken ∈ steps step (start watchdogSec watchdogEnabled now) inputs,
        taken.1.BeatsInTime watchdogSec taken.2)

/-- A run is paced exactly if its sleeps are undisturbed and, as long as its work is short, its
ticks reach the watchdog in time.
-/
theorem paced_iff (watchdogSec : Nat) (watchdogEnabled : Nat → Bool) (now : Instant)
    (inputs : List TickInput)
    : Paced watchdogSec watchdogEnabled now inputs
      ↔ (∀ taken ∈ steps step (start watchdogSec watchdogEnabled now) inputs,
          taken.1.Undisturbed taken.2)
        ∧ (0 < watchdogSec → ShortWork watchdogSec inputs →
            ∀ taken ∈ steps step (start watchdogSec watchdogEnabled now) inputs,
              taken.1.ReachesInTime watchdogSec taken.2) := by
  have configured : ∀ taken ∈ steps step (start watchdogSec watchdogEnabled now) inputs,
      taken.1.Configured watchdogSec := by
    intro taken member
    have first : (start watchdogSec watchdogEnabled now).Configured watchdogSec := rfl
    have kept : ∀ run input, Configured watchdogSec run → Configured watchdogSec (run.step input) :=
      fun _ input configured => step_configured configured input
    exact invariant_of_kept kept first _ (step_mem_states member).1
  refine and_congr ?_ (imp_congr_right fun _ => imp_congr_right fun _ => ?_)
  · exact forall₂_congr fun taken _ => taken.1.sleepsLongEnough_iff taken.2
  · exact forall₂_congr fun taken member => beatsInTime_iff (configured taken member) taken.2

open Duration (fromSecs)

def plainTick (start : Instant) (checkPressure : Option Duration) (looks : List SleepLook)
    : TickInput :=
  ⟨start, false, checkPressure, ⟨0, 1, false⟩, start, false, start, start, looks⟩

def halfSecondLooks (start : Instant) (count : Nat) : List SleepLook :=
  (List.range (count + 1)).map fun turn => ⟨start + turn * 500000000, false, false, .timeout⟩

/-- Without a subscription the first wait of a five-second sleep ends at once. -/
def unsubscribed : List TickInput :=
  [plainTick 0 (some (fromSecs 5)) [⟨0, false, false, .disconnected 0⟩]]

/-- A status dump wakes the first sleep; the next check fails, and the dump is still pending. -/
def unansweredDump : List TickInput :=
  [plainTick 0 (some (fromSecs 5)) [⟨0, false, false, .timeout⟩, ⟨500000000, false, true, .timeout⟩],
    plainTick 500000000 none [⟨500000000, false, false, .timeout⟩]]

def minuteApart : List TickInput :=
  [plainTick (fromSecs 30) (some (fromSecs 60)) (halfSecondLooks (fromSecs 30) 120),
    plainTick (fromSecs 90) (some (fromSecs 60)) (halfSecondLooks (fromSecs 90) 120)]

/-- Each of the three runs is out of pace: the first two do not sleep, the third notifies a
watchdog of one minute a minute after its last notification.
-/
theorem unpaced
    : ¬ Paced 0 (fun sec => decide (0 < sec)) 0 unsubscribed
      ∧ ¬ Paced 0 (fun sec => decide (0 < sec)) 0 unansweredDump
      ∧ ¬ Paced 60 (fun sec => decide (0 < sec)) 0 minuteApart := by
  refine ⟨?_, ?_, ?_⟩
  · rintro ⟨long, -⟩
    obtain ⟨_, _, ⟨⟩, lasts⟩ := long _ (List.mem_cons_self ..) rfl
    revert lasts
    unfold SleepOutcome.LastsOrWoken
    decide
  · rintro ⟨long, -⟩
    obtain ⟨_, _, ⟨⟩, lasts⟩ :=
      long _ (List.mem_cons_of_mem _ (List.mem_cons_self ..)) rfl
    revert lasts
    unfold SleepOutcome.LastsOrWoken
    decide
  · rintro ⟨-, beats⟩
    have short : ShortWork 60 minuteApart := by
      unfold ShortWork
      decide
    have second := beats (by decide) short _ (List.mem_cons_of_mem _ (List.mem_cons_self ..))
      (by decide +kernel) (by decide +kernel)
    revert second
    decide +kernel

end MonitorRun

end StorageBallast
