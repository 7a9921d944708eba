import StorageBallast.Daemon.BehaviorModes

/-! Whether a run of memory events and disk ticks still ends at the level of its last memory
event. A target that hysteresis holds back is parked, but the next disk tick asks for the
stored level again and drops it.
-/

namespace StorageBallast

open Runs

namespace BehaviorCall

def requestedMemory (self : BehaviorCall) (state : PressureBehaviorState)
    : MemoryPressureLevel :=
  match self with
  | .memoryEvent memoryLevel _ => memoryLevel
  | .diskTick _ => state.memoryLevel

def diskLevel : BehaviorCall → PressureLevel
  | .memoryEvent _ diskLevel | .diskTick diskLevel => diskLevel

end BehaviorCall

namespace PressureBehaviorState

def lastAt (self : PressureBehaviorState) : BehaviorTransitionDirection → Option Instant
  | .escalating => self.lastEscalationAt
  | .recovering => self.lastRecoveryAt

def HoldsBack (self : PressureBehaviorState) (memoryLevel : MemoryPressureLevel)
    (diskLevel : PressureLevel) (now : Instant) (minInterval : Duration) : Prop :=
  ∃ direction remaining,
    transitionDirection self.memoryLevel memoryLevel self.diskLevel diskLevel = some direction
    ∧ self.hysteresisRemaining direction now minInterval = some remaining

/-- What an update can do: confirm the levels, move to them, or park them. -/
inductive Updated (self : PressureBehaviorState) (memoryLevel : MemoryPressureLevel)
    (diskLevel : PressureLevel) (now : Instant) (minInterval : Duration)
    : PressureBehaviorState × BehaviorUpdate → Prop
  | unchanged
    : self.memoryLevel = memoryLevel → self.diskLevel = diskLevel
      → self.mode = self.table.modeFor memoryLevel diskLevel
      → Updated self memoryLevel diskLevel now minInterval
          ({ self with pendingTarget := none }, .unchanged)
  | applied (after : PressureBehaviorState) (transition : BehaviorTransition)
    : ¬ self.HoldsBack memoryLevel diskLevel now minInterval
      → after.memoryLevel = memoryLevel
      → after.mode = self.table.modeFor memoryLevel diskLevel → after.table = self.table
      → (∀ direction moment, after.lastAt direction = some moment →
          self.lastAt direction = some moment ∨ moment = now)
      → Updated self memoryLevel diskLevel now minInterval (after, .applied transition)
  | deferred (direction : BehaviorTransitionDirection) (remaining : Duration)
    : self.HoldsBack memoryLevel diskLevel now minInterval
      → Updated self memoryLevel diskLevel now minInterval
          ({ self with
              pendingTarget :=
                some ⟨memoryLevel, diskLevel, self.table.modeFor memoryLevel diskLevel⟩ },
            .deferred direction remaining)

/-- Dropping a stale target leaves everything but the target. -/
theorem dropStaleTarget_eq (self : PressureBehaviorState) (target : PendingBehaviorTarget)
    : ∃ pendingTarget, self.dropStaleTarget target = { self with pendingTarget } := by
  unfold dropStaleTarget
  split
  · split
    · exact ⟨none, rfl⟩
    · exact ⟨self.pendingTarget, rfl⟩
  · exact ⟨self.pendingTarget, rfl⟩

theorem updateWithHysteresis_updated (self : PressureBehaviorState)
    (memoryLevel : MemoryPressureLevel) (diskLevel : PressureLevel) (now : Instant)
    (minInterval : Duration)
    : Updated self memoryLevel diskLevel now minInterval
        (self.updateWithHysteresis memoryLevel diskLevel now minInterval) := by
  unfold updateWithHysteresis
  obtain ⟨dropped, drop⟩ := self.dropStaleTarget_eq
    ⟨memoryLevel, diskLevel, self.table.modeFor memoryLevel diskLevel⟩
  simp only [drop]
  split
  · rename_i same
    exact .unchanged same.1 same.2.1 same.2.2
  · split
    · rename_i undirected
      refine .applied _ _ ?_ rfl rfl rfl (fun _ _ held => Or.inl held)
      rintro ⟨direction, remaining, directed, -⟩
      exact absurd (undirected.symm.trans directed) (by simp)
    · rename_i direction directed
      split
      · rename_i remaining waiting
        exact .deferred direction remaining ⟨direction, remaining, directed, waiting⟩
      · rename_i free
        refine .applied _ _ ?_ ?_ ?_ ?_ ?_
        · rintro ⟨other, remaining, otherDirected, waiting⟩
          obtain rfl : direction = other :=
            Option.some.inj (directed.symm.trans otherDirected)
          exact absurd (free.symm.trans waiting) (by simp)
        all_goals cases direction
        any_goals rfl
        · intro direction moment held
          cases direction with
          | escalating => exact Or.inr (Option.some.inj held).symm
          | recovering => exact Or.inl held
        · intro direction moment held
          cases direction with
          | escalating => exact Or.inl held
          | recovering => exact Or.inr (Option.some.inj held).symm

def appliedAt (update : BehaviorUpdate) (now : Instant) : List Instant :=
  match update with
  | .applied _ => [now]
  | .unchanged | .deferred _ _ => []

def appliedTimes (hysteresis : Duration)
    : PressureBehaviorState → List TimedBehaviorCall → List Instant
  | _, [] => []
  | self, timed :: rest =>
      appliedAt (self.updateBehaviorMode hysteresis timed).2 timed.now
        ++ appliedTimes hysteresis (self.step hysteresis timed) rest

theorem updateBehaviorMode_updated (hysteresis : Duration) (self : PressureBehaviorState)
    (timed : TimedBehaviorCall)
    : Updated self (timed.call.requestedMemory self) timed.call.diskLevel timed.now hysteresis
        (self.updateBehaviorMode hysteresis timed) := by
  unfold updateBehaviorMode
  cases timed.call with
  | memoryEvent memoryLevel diskLevel => exact self.updateWithHysteresis_updated ..
  | diskTick diskLevel => exact self.updateWithHysteresis_updated ..

/-- A disk tick never changes the memory level, whatever becomes of it. -/
theorem step_diskTick_memoryLevel (hysteresis : Duration) (self : PressureBehaviorState)
    (now : Instant) (diskLevel : PressureLevel)
    : (self.step hysteresis ⟨now, .diskTick diskLevel⟩).memoryLevel = self.memoryLevel := by
  have updated := self.updateBehaviorMode_updated hysteresis ⟨now, .diskTick diskLevel⟩
  unfold step
  generalize self.updateBehaviorMode hysteresis ⟨now, .diskTick diskLevel⟩ = result
    at updated ⊢
  cases updated with
  | unchanged => rfl
  | applied _ _ _ memory => exact memory
  | deferred => rfl

variable {self : PressureBehaviorState}

/-- Nor does any number of them, by induction on the ticks. -/
theorem ticks_memoryLevel {hysteresis : Duration} {ticks : List (Instant × PressureLevel)}
    : (final (step hysteresis) self
        (ticks.map fun tick => ⟨tick.1, .diskTick tick.2⟩)).memoryLevel
      = self.memoryLevel := by
  induction ticks generalizing self with
  | nil => rfl
  | cons tick rest ih =>
      rw [List.map_cons, final_cons, ih]
      exact self.step_diskTick_memoryLevel hysteresis tick.1 tick.2

/-- A memory event sets the level unless it is held back. -/
theorem step_memoryEvent_memoryLevel (hysteresis : Duration) (self : PressureBehaviorState)
    (now : Instant) (memoryLevel : MemoryPressureLevel) (diskLevel : PressureLevel)
    : (self.step hysteresis ⟨now, .memoryEvent memoryLevel diskLevel⟩).memoryLevel = memoryLevel
      ↔ self.memoryLevel = memoryLevel
        ∨ ¬ self.HoldsBack memoryLevel diskLevel now hysteresis := by
  have updated :=
    self.updateBehaviorMode_updated hysteresis ⟨now, .memoryEvent memoryLevel diskLevel⟩
  unfold step
  generalize self.updateBehaviorMode hysteresis ⟨now, .memoryEvent memoryLevel diskLevel⟩
    = result at updated ⊢
  cases updated with
  | unchanged memory => exact iff_of_true memory (Or.inl memory)
  | applied _ _ free memory => exact iff_of_true memory (Or.inr free)
  | deferred _ _ held => exact ⟨Or.inl, fun stored => stored.resolve_right (not_not.mpr held)⟩

theorem step_table (hysteresis : Duration) (self : PressureBehaviorState)
    (timed : TimedBehaviorCall)
    : (self.step hysteresis timed).table = self.table := by
  have updated := self.updateBehaviorMode_updated hysteresis timed
  unfold step
  generalize self.updateBehaviorMode hysteresis timed = result at updated ⊢
  cases updated with
  | unchanged => rfl
  | applied _ _ _ _ _ table => exact table
  | deferred => rfl

/-- The recorded times stem from the transitions applied so far, by induction on the calls. -/
theorem lastAt_mem_appliedTimes {hysteresis : Duration} {calls : List TimedBehaviorCall}
    {direction : BehaviorTransitionDirection} {moment : Instant}
    (last : (final (step hysteresis) self calls).lastAt direction = some moment)
    : self.lastAt direction = some moment ∨ moment ∈ appliedTimes hysteresis self calls := by
  induction calls generalizing self with
  | nil => exact Or.inl last
  | cons timed rest ih =>
      have updated := self.updateBehaviorMode_updated hysteresis timed
      have later := ih last
      unfold appliedTimes
      unfold step at later ⊢
      generalize self.updateBehaviorMode hysteresis timed = result at updated later ⊢
      cases updated with
      | unchanged => exact later
      | deferred => exact later
      | applied after transition _ _ _ _ recorded =>
          rcases later with held | member
          · rcases recorded direction moment held with before | rfl
            · exact Or.inl before
            · exact Or.inr (List.mem_append_left _ (List.mem_singleton_self _))
          · exact Or.inr (List.mem_append_right _ member)

/-- Hysteresis does not defer anything once every recorded transition is old enough. -/
theorem not_holdsBack {now : Instant} {minInterval : Duration}
    (settled : ∀ direction moment, self.lastAt direction = some moment →
      moment + minInterval ≤ now)
    (memoryLevel : MemoryPressureLevel) (diskLevel : PressureLevel)
    : ¬ self.HoldsBack memoryLevel diskLevel now minInterval := by
  rintro ⟨direction, remaining, -, waiting⟩
  unfold hysteresisRemaining at waiting
  split at waiting
  · cases waiting
  · rename_i positive
    have old (last : Instant) (recorded : self.lastAt direction = some last)
        : minInterval ≤ elapsed now last :=
      (le_elapsed_iff (Nat.pos_of_ne_zero positive)).mpr (settled direction last recorded)
    cases direction with
    | escalating =>
        dsimp only at waiting
        split at waiting
        · cases waiting
        · rename_i last recorded
          rw [if_pos (old last recorded)] at waiting
          cases waiting
    | recovering =>
        dsimp only at waiting
        split at waiting
        · cases waiting
        · rename_i last recorded
          rw [if_pos (old last recorded)] at waiting
          cases waiting

/-- A disk tick that nothing holds back leaves the mode of its levels. -/
theorem step_diskTick_mode {hysteresis : Duration} {now : Instant} {diskLevel : PressureLevel}
    (free : ¬ self.HoldsBack self.memoryLevel diskLevel now hysteresis)
    : (self.step hysteresis ⟨now, .diskTick diskLevel⟩).mode
      = self.table.modeFor self.memoryLevel diskLevel := by
  have updated := self.updateBehaviorMode_updated hysteresis ⟨now, .diskTick diskLevel⟩
  unfold step
  generalize self.updateBehaviorMode hysteresis ⟨now, .diskTick diskLevel⟩ = result
    at updated ⊢
  cases updated with
  | unchanged _ _ mode => exact mode
  | applied _ _ _ _ mode => exact mode
  | deferred _ _ held => exact absurd held free

section Started

variable (sample : Option MemoryPressureLevel) (startDisk : PressureLevel)
  (startTime : Instant) (hysteresis : Duration)

def stateAfter (calls : List TimedBehaviorCall) : PressureBehaviorState :=
  final (step hysteresis) (seeded sample startDisk startTime).1 calls

def transitionTimes (calls : List TimedBehaviorCall) : List Instant :=
  appliedAt (seeded sample startDisk startTime).2 startTime
    ++ appliedTimes hysteresis (seeded sample startDisk startTime).1 calls

def eventThenTicks (eventAt : Instant) (level : MemoryPressureLevel)
    (eventDisk : PressureLevel) (ticks : List (Instant × PressureLevel))
    : List TimedBehaviorCall :=
  ⟨eventAt, .memoryEvent level eventDisk⟩
    :: ticks.map fun tick => ⟨tick.1, .diskTick tick.2⟩

theorem lastAt_mem_transitionTimes {calls : List TimedBehaviorCall}
    {direction : BehaviorTransitionDirection} {moment : Instant}
    (last : (stateAfter sample startDisk startTime hysteresis calls).lastAt direction
      = some moment)
    : moment ∈ transitionTimes sample startDisk startTime hysteresis calls := by
  rcases lastAt_mem_appliedTimes last with seed | member
  · apply List.mem_append_left
    unfold seeded at seed ⊢
    have updated := (new .unknown .green).updateWithHysteresis_updated
      (sample.getD .unknown) startDisk startTime 0
    generalize (new .unknown .green).updateWithHysteresis (sample.getD .unknown) startDisk
      startTime 0 = result at updated seed ⊢
    cases updated with
    | unchanged => cases direction <;> cases seed
    | deferred => cases direction <;> cases seed
    | applied _ _ _ _ _ _ recorded =>
        rcases recorded direction moment seed with before | rfl
        · cases direction <;> cases before
        · exact List.mem_singleton_self _
  · exact List.mem_append_right _ member

theorem stateAfter_table (calls : List TimedBehaviorCall)
    : (stateAfter sample startDisk startTime hysteresis calls).table = .default := by
  have seed : (seeded sample startDisk startTime).1.table = .default := by
    have updated := (new .unknown .green).updateWithHysteresis_updated
      (sample.getD .unknown) startDisk startTime 0
    unfold seeded
    generalize (new .unknown .green).updateWithHysteresis (sample.getD .unknown) startDisk
      startTime 0 = result at updated ⊢
    cases updated with
    | unchanged => rfl
    | applied _ _ _ _ _ table => exact table
    | deferred => rfl
  have kept : ∀ state timed, state.table = .default → (step hysteresis state timed).table = .default :=
    fun state timed table => (state.step_table hysteresis timed).trans table
  exact invariant_of_kept kept seed _ (final_mem_states _ _)

/-- The level after an event and any number of ticks is the one right after the event. -/
theorem eventThenTicks_memoryLevel (past : List TimedBehaviorCall) (eventAt : Instant)
    (level : MemoryPressureLevel) (eventDisk : PressureLevel)
    (ticks : List (Instant × PressureLevel))
    : (stateAfter sample startDisk startTime hysteresis
        (past ++ eventThenTicks eventAt level eventDisk ticks)).memoryLevel = level
      ↔ (stateAfter sample startDisk startTime hysteresis past).memoryLevel = level
        ∨ ¬ (stateAfter sample startDisk startTime hysteresis past).HoldsBack level eventDisk
            eventAt hysteresis := by
  unfold stateAfter eventThenTicks
  rw [final_append, final_cons, ticks_memoryLevel]
  exact step_memoryEvent_memoryLevel ..

/-- Once the interval has passed since every transition, the next disk tick shows the level
of the last memory event exactly if that level was stored before the event already, or
hysteresis did not hold the event back.
-/
theorem last_event_kept_iff {past : List TimedBehaviorCall} {eventAt : Instant}
    {level : MemoryPressureLevel} {eventDisk : PressureLevel}
    {ticks : List (Instant × PressureLevel)} {now : Instant} {disk : PressureLevel}
    (elapsed : ∀ moment ∈ transitionTimes sample startDisk startTime hysteresis
        (past ++ eventThenTicks eventAt level eventDisk ticks),
      moment + hysteresis ≤ now)
    : ((stateAfter sample startDisk startTime hysteresis
          (past ++ eventThenTicks eventAt level eventDisk (ticks ++ [(now, disk)]))).memoryLevel
          = level
        ∧ (stateAfter sample startDisk startTime hysteresis
          (past ++ eventThenTicks eventAt level eventDisk (ticks ++ [(now, disk)]))).mode
          = BehaviorDispatchTable.default.modeFor level disk)
      ↔ (stateAfter sample startDisk startTime hysteresis past).memoryLevel = level
        ∨ ¬ (stateAfter sample startDisk startTime hysteresis past).HoldsBack level eventDisk
            eventAt hysteresis := by
  let before := stateAfter sample startDisk startTime hysteresis
    (past ++ eventThenTicks eventAt level eventDisk ticks)
  have tick : stateAfter sample startDisk startTime hysteresis
        (past ++ eventThenTicks eventAt level eventDisk (ticks ++ [(now, disk)]))
      = before.step hysteresis ⟨now, .diskTick disk⟩ := by
    have calls : past ++ eventThenTicks eventAt level eventDisk (ticks ++ [(now, disk)])
        = (past ++ eventThenTicks eventAt level eventDisk ticks) ++ [⟨now, .diskTick disk⟩] := by
      simp [eventThenTicks]
    rw [calls]
    exact final_append ..
  have free : ¬ before.HoldsBack before.memoryLevel disk now hysteresis := by
    refine not_holdsBack ?_ before.memoryLevel disk
    intro direction moment last
    exact elapsed moment
      (lastAt_mem_transitionTimes sample startDisk startTime hysteresis last)
  have memory := before.step_diskTick_memoryLevel hysteresis now disk
  have mode : (before.step hysteresis ⟨now, .diskTick disk⟩).mode
      = BehaviorDispatchTable.default.modeFor before.memoryLevel disk := by
    rw [step_diskTick_mode free, stateAfter_table]
  rw [tick, memory, mode]
  rw [← eventThenTicks_memoryLevel sample startDisk startTime hysteresis past eventAt level
    eventDisk ticks]
  constructor
  · exact And.left
  · intro kept
    exact ⟨kept, congrArg (BehaviorDispatchTable.default.modeFor · disk) kept⟩

end Started

open Duration (fromSecs)

def calmStart : List TimedBehaviorCall → PressureBehaviorState :=
  stateAfter (some .normal) .green 0 (fromSecs 5)

/-- A warning at ten seconds shows in the tick at one minute. -/
theorem warning_kept
    : ((calmStart ([] ++ eventThenTicks (fromSecs 10) .warn .green
              ([] ++ [(fromSecs 60, .green)]))).memoryLevel = .warn
        ∧ (calmStart ([] ++ eventThenTicks (fromSecs 10) .warn .green
              ([] ++ [(fromSecs 60, .green)]))).mode
          = BehaviorDispatchTable.default.modeFor .warn .green)
      ↔ (calmStart []).memoryLevel = .warn
        ∨ ¬ (calmStart []).HoldsBack .warn .green (fromSecs 10) (fromSecs 5) :=
  last_event_kept_iff (some .normal) .green 0 (fromSecs 5) (by decide)

/-- One second after the warning the level turns critical: the event is held back, and the
tick at one minute still shows the warning.
-/
theorem critical_lost
    : (∀ moment ∈ transitionTimes (some .normal) .green 0 (fromSecs 5)
          ([⟨fromSecs 10, .memoryEvent .warn .green⟩]
            ++ eventThenTicks (fromSecs 11) .critical .green []),
        moment + fromSecs 5 ≤ fromSecs 60)
      ∧ (calmStart ([⟨fromSecs 10, .memoryEvent .warn .green⟩]
            ++ eventThenTicks (fromSecs 11) .critical .green
              ([] ++ [(fromSecs 60, .green)]))).memoryLevel
        = .warn := by
  decide

end PressureBehaviorState

end StorageBallast
