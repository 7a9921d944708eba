import StorageBallast.Daemon.BallastTicks

/-! How calm it was before a file of ballast is recreated. A release or a recreation on the
mount is always long enough ago; how many ticks were not green is known only while no green
period of the mount outlives its third interruption.
-/

namespace StorageBallast

namespace BallastEvent

def time : BallastEvent → Instant
  | tick _ time => time
  | ballastReplenished _ _ time => time
  | ballastReleased _ _ time => time

def nonGreenAfter (since : Instant) : BallastEvent → Bool
  | tick level time => level != .green && decide (since < time)
  | _ => false

def nonGreenWithin (cooldown : Duration) (created : Instant) : BallastEvent → Bool
  | tick level time => level != .green && decide (created < time + cooldown)
  | _ => false

end BallastEvent

/-- What went before the recreation of a file on the mount, by what happened earlier. -/
structure CalmBefore (mount : Location) (cooldown interval : Duration) (created : Instant)
    (earlier : List BallastEvent) : Prop where
  fewInterruptions : earlier.countP (BallastEvent.nonGreenWithin cooldown created) ≤ 3
  unreleased : ∀ files time, .ballastReleased mount files time ∈ earlier →
    time + cooldown ≤ created
  spaced : ∀ files time, .ballastReplenished mount files time ∈ earlier →
    time + interval ≤ created

def WaitsForCalm (mount : Location) (cooldown interval : Duration)
    (history : List BallastEvent) : Prop :=
  ∀ later files created earlier,
    history = later ++ .ballastReplenished mount files created :: earlier →
      CalmBefore mount cooldown interval created earlier

/-- An event that is no recreation on the mount needs no calm. -/
theorem WaitsForCalm.cons {mount : Location} {cooldown interval : Duration}
    {event : BallastEvent} {history : List BallastEvent}
    (waits : WaitsForCalm mount cooldown interval history)
    (calm : ∀ files created, event = .ballastReplenished mount files created →
      CalmBefore mount cooldown interval created history)
    : WaitsForCalm mount cooldown interval (event :: history) := by
  intro later files created earlier split
  cases later with
  | nil =>
      obtain ⟨rfl, rfl⟩ := List.cons_eq_cons.mp split
      exact calm files created rfl
  | cons head later =>
      obtain ⟨rfl, rfl⟩ := List.cons_eq_cons.mp split
      exact waits later files created earlier rfl

/-- A tick that is not green comes in a green period of the mount only as one of its first
three interruptions.
-/
def WithinThreeInterruptions {F : Type} (mount : Location) (daemon : BallastDaemon)
    (tick : PressureTick F) : Prop :=
  tick.response.level ≠ .green →
    ∀ since, (daemon.releaseController.states mount).greenSince = some since →
      daemon.history.countP (BallastEvent.nonGreenAfter since) < 3

structure RemembersMount (mount : Location) (cooldown interval : Duration)
    (daemon : BallastDaemon) : Prop where
  sameCooldown : daemon.releaseController.replenishCooldown = cooldown
  sameInterval : daemon.releaseController.replenishInterval = interval
  past : ∀ event ∈ daemon.history, event.time ≤ daemon.now
  begun : ∀ since, (daemon.releaseController.states mount).greenSince = some since →
    since ≤ daemon.now
  interruptions : ∀ since, (daemon.releaseController.states mount).greenSince = some since →
    daemon.history.countP (BallastEvent.nonGreenAfter since) ≤ 3
  releases : ∀ since, (daemon.releaseController.states mount).greenSince = some since →
    ∀ files time, .ballastReleased mount files time ∈ daemon.history → time ≤ since
  recreations : ∀ files time, .ballastReplenished mount files time ∈ daemon.history →
    ∃ last, (daemon.releaseController.states mount).lastReplenishTime = some last ∧ time ≤ last
  waits : WaitsForCalm mount cooldown interval daemon.history

namespace RemembersMount

variable {mount : Location} {cooldown interval : Duration} {daemon : BallastDaemon}

theorem wait (remembers : RemembersMount mount cooldown interval daemon) (duration : Duration)
    : RemembersMount mount cooldown interval (daemon.wait duration) where
  sameCooldown := remembers.sameCooldown
  sameInterval := remembers.sameInterval
  past event member := (remembers.past event member).trans (Nat.le_add_right _ _)
  begun since green := (remembers.begun since green).trans (Nat.le_add_right _ _)
  interruptions := remembers.interruptions
  releases := remembers.releases
  recreations := remembers.recreations
  waits := remembers.waits

theorem setEntry_other (remembers : RemembersMount mount cooldown interval daemon)
    {other : Location} (state : MountReleaseState) (apart : mount ≠ other)
    : RemembersMount mount cooldown interval
        { daemon with releaseController := daemon.releaseController.setEntry other state } := by
  have same := daemon.releaseController.setEntry_other state apart
  exact {
    sameCooldown := remembers.sameCooldown
    sameInterval := remembers.sameInterval
    past := remembers.past
    begun := fun since green => remembers.begun since (same ▸ green)
    interruptions := fun since green => remembers.interruptions since (same ▸ green)
    releases := fun since green => remembers.releases since (same ▸ green)
    recreations := fun files time member => same ▸ remembers.recreations files time member
    waits := remembers.waits }

/-- A tick is remembered if it is green or an early interruption. -/
theorem record_tick (remembers : RemembersMount mount cooldown interval daemon)
    {level : PressureLevel}
    (few : level ≠ .green →
      ∀ since, (daemon.releaseController.states mount).greenSince = some since →
        daemon.history.countP (BallastEvent.nonGreenAfter since) < 3)
    : RemembersMount mount cooldown interval (daemon.record (.tick level)) where
  sameCooldown := remembers.sameCooldown
  sameInterval := remembers.sameInterval
  past event member := by
    rcases List.mem_cons.mp member with rfl | earlier
    · exact Nat.le_refl _
    · exact remembers.past event earlier
  begun := remembers.begun
  interruptions since green := by
    change (BallastEvent.tick level daemon.now :: daemon.history).countP _ ≤ 3
    rw [List.countP_cons]
    by_cases calm : level = .green
    · have known := remembers.interruptions since green
      simpa [calm, BallastEvent.nonGreenAfter] using known
    · have known := few calm since green
      split <;> omega
  releases since green files time member := by
    rcases List.mem_cons.mp member with same | earlier
    · cases same
    · exact remembers.releases since green files time earlier
  recreations files time member := by
    rcases List.mem_cons.mp member with same | earlier
    · cases same
    · exact remembers.recreations files time earlier
  waits := remembers.waits.cons fun files created same => by cases same

/-- An event of ballast on another mount leaves what is known of this one. -/
theorem record_other (remembers : RemembersMount mount cooldown interval daemon)
    (event : Instant → BallastEvent) (timed : ∀ now, (event now).time = now)
    (quiet : ∀ since now, (event now).nonGreenAfter since = false)
    (unreleased : ∀ files time now, event now ≠ .ballastReleased mount files time)
    (unreplenished : ∀ files time now, event now ≠ .ballastReplenished mount files time)
    : RemembersMount mount cooldown interval (daemon.record event) where
  sameCooldown := remembers.sameCooldown
  sameInterval := remembers.sameInterval
  past seen member := by
    rcases List.mem_cons.mp member with rfl | earlier
    · exact (timed daemon.now).le
    · exact remembers.past seen earlier
  begun := remembers.begun
  interruptions since green := by
    change (event daemon.now :: daemon.history).countP _ ≤ 3
    rw [List.countP_cons, if_neg (by simp [quiet])]
    exact remembers.interruptions since green
  releases since green files time member := by
    rcases List.mem_cons.mp member with same | earlier
    · exact absurd same.symm (unreleased files time daemon.now)
    · exact remembers.releases since green files time earlier
  recreations files time member := by
    rcases List.mem_cons.mp member with same | earlier
    · exact absurd same.symm (unreplenished files time daemon.now)
    · exact remembers.recreations files time earlier
  waits := remembers.waits.cons fun files created same =>
    absurd same (unreplenished files created daemon.now)

/-- A release on the mount ends its green period, and with it all that must be known. -/
theorem released_here (remembers : RemembersMount mount cooldown interval daemon)
    (visit : ReleaseVisit) (filesReleased : Nat)
    : RemembersMount mount cooldown interval (daemon.released mount visit filesReleased) := by
  have state := daemon.released_states mount visit filesReleased
  have ended : ((daemon.released mount visit filesReleased).releaseController.states
      mount).greenSince = none := by rw [state]
  have waited := remembers.wait visit.releasedAfter
  exact {
    sameCooldown := remembers.sameCooldown
    sameInterval := remembers.sameInterval
    past := by
      intro event member
      rcases List.mem_cons.mp member with rfl | earlier
      · exact Nat.le_add_right _ _
      · exact (waited.past event earlier).trans (Nat.le_add_right _ _)
    begun := fun since green => by rw [ended] at green; cases green
    interruptions := fun since green => by rw [ended] at green; cases green
    releases := fun since green => by rw [ended] at green; cases green
    recreations := by
      intro files time member
      rw [state]
      rcases List.mem_cons.mp member with same | earlier
      · cases same
      · exact remembers.recreations files time earlier
    waits := remembers.waits.cons fun files created same => by cases same }

theorem released (remembers : RemembersMount mount cooldown interval daemon)
    (other : Location) (visit : ReleaseVisit) (filesReleased : Nat)
    : RemembersMount mount cooldown interval (daemon.released other visit filesReleased) := by
  by_cases here : other = mount
  · subst here
    exact remembers.released_here visit filesReleased
  · have gone := (remembers.wait visit.releasedAfter).record_other
      (.ballastReleased other filesReleased) (fun _ => rfl) (fun _ _ => rfl)
      (fun _ _ _ same => by cases same; exact here rfl) (fun _ _ _ same => by cases same)
    exact (gone.wait visit.recordedAfter).setEntry_other _ (Ne.symm here)

/-- A release by the controller's count, whether or not it comes about. -/
theorem releaseBallast {F : Type} [Float64 F]
    (remembers : RemembersMount mount cooldown interval daemon) (other : Location)
    (response : PressureResponse F) (visit : ReleaseVisit)
    : RemembersMount mount cooldown interval (daemon.releaseBallast other response visit) := by
  unfold BallastDaemon.releaseBallast
  split
  · exact remembers
  · dsimp only
    split
    · split
      · exact remembers.released other visit _
      · exact remembers
    · exact remembers

/-- A green tick begins a green period of the mount, unless there is one. -/
theorem enterGreen (remembers : RemembersMount mount cooldown interval daemon)
    : RemembersMount mount cooldown interval
        { daemon with
          releaseController := daemon.releaseController.setEntry mount
            ((daemon.releaseController.states mount).enterGreen daemon.now) } := by
  have state : (daemon.releaseController.setEntry mount
      ((daemon.releaseController.states mount).enterGreen daemon.now)).states mount
      = (daemon.releaseController.states mount).enterGreen daemon.now :=
    daemon.releaseController.setEntry_same _
  -- a period that begins now is later than everything that happened
  have since_cases : ∀ since,
      ((daemon.releaseController.states mount).enterGreen daemon.now).greenSince = some since →
        (daemon.releaseController.states mount).greenSince = some since ∨ since = daemon.now := by
    intro since green
    unfold MountReleaseState.enterGreen at green
    cases period : (daemon.releaseController.states mount).greenSince with
    | none => exact Or.inr (by simpa [period] using green.symm)
    | some begun => exact Or.inl (by simpa [period] using green)
  exact {
    sameCooldown := remembers.sameCooldown
    sameInterval := remembers.sameInterval
    past := remembers.past
    begun := by
      intro since green
      rw [state] at green
      rcases since_cases since green with old | rfl
      · exact remembers.begun since old
      · exact Nat.le_refl _
    interruptions := by
      intro since green
      rw [state] at green
      rcases since_cases since green with old | rfl
      · exact remembers.interruptions since old
      · have none_later : daemon.history.countP (BallastEvent.nonGreenAfter daemon.now) = 0 := by
          refine List.countP_eq_zero.mpr fun event member => ?_
          have past := remembers.past event member
          cases event with
          | tick level time =>
              change time ≤ daemon.now at past
              simp [BallastEvent.nonGreenAfter, past]
          | ballastReplenished other files time => simp [BallastEvent.nonGreenAfter]
          | ballastReleased other files time => simp [BallastEvent.nonGreenAfter]
        rw [none_later]
        exact Nat.zero_le _
    releases := by
      intro since green files time member
      rw [state] at green
      rcases since_cases since green with old | rfl
      · exact remembers.releases since old files time member
      · exact remembers.past _ member
    recreations := by
      intro files time member
      rw [state]
      exact remembers.recreations files time member
    waits := remembers.waits }

/-- Asking about a pool is remembered, whichever mount it is on. -/
theorem ask (remembers : RemembersMount mount cooldown interval daemon) (visit : PoolVisit)
    : RemembersMount mount cooldown interval (daemon.ask .green visit).1 := by
  rw [BallastDaemon.ask_green]
  have waited := remembers.wait visit.askedAfter
  by_cases here : visit.pool.mountPoint = mount
  · subst here
    exact waited.enterGreen
  · exact waited.setEntry_other _ (Ne.symm here)

/-- What a positive answer of the controller means for a mount. -/
theorem ready {visit : PoolVisit} (positive : 0 < interval)
    (remembers : RemembersMount visit.pool.mountPoint cooldown interval daemon)
    (answered : (daemon.ask .green visit).2 = true)
    : ∃ since,
        ((daemon.ask .green visit).1.releaseController.states
          visit.pool.mountPoint).greenSince = some since
        ∧ since + cooldown ≤ (daemon.ask .green visit).1.now
        ∧ ∀ last,
            ((daemon.ask .green visit).1.releaseController.states
              visit.pool.mountPoint).lastReplenishTime = some last →
            last + interval ≤ (daemon.ask .green visit).1.now := by
  have waited := remembers.wait visit.askedAfter
  obtain ⟨cooled, -, rested⟩ := (BallastReleaseController.ready_iff _).mp answered
  rw [waited.sameCooldown] at cooled
  rw [waited.sameInterval] at rested
  rw [BallastDaemon.ask_green]
  simp only [BallastReleaseController.setEntry_same]
  refine ⟨_, rfl, ?_, fun last known => (le_elapsed_iff positive).mp (rested last known)⟩
  cases period : (daemon.releaseController.states visit.pool.mountPoint).greenSince with
  | none =>
      rw [BallastDaemon.wait_releaseController, period] at cooled
      have none_left : cooldown ≤ 0 := by simpa [elapsed] using cooled
      simp [Nat.le_zero.mp none_left, BallastDaemon.wait]
  | some since =>
      have begun := waited.begun since period
      rw [BallastDaemon.wait_releaseController, period] at cooled
      exact Nat.add_le_of_le_sub' begun cooled

/-- Once the controller finds the mount ready, a file created at any time from then on follows
a calm: what happened since the green period began is known, and all else is long past.
-/
theorem calmBefore (remembers : RemembersMount mount cooldown interval daemon)
    {since created : Instant}
    (green : (daemon.releaseController.states mount).greenSince = some since)
    (cooled : since + cooldown ≤ created)
    (rested : ∀ last, (daemon.releaseController.states mount).lastReplenishTime = some last →
      last + interval ≤ created)
    : CalmBefore mount cooldown interval created daemon.history where
  fewInterruptions := by
    refine le_trans (List.countP_mono_left fun event _ within => ?_)
      (remembers.interruptions since green)
    cases event with
    | tick level time =>
        simp only [BallastEvent.nonGreenWithin, BallastEvent.nonGreenAfter,
          Bool.and_eq_true, decide_eq_true_eq] at within ⊢
        have later : since + cooldown < time + cooldown := lt_of_le_of_lt cooled within.2
        exact ⟨within.1, Nat.lt_of_add_lt_add_right later⟩
    | ballastReplenished other files time => exact within
    | ballastReleased other files time => exact within
  unreleased files time member := by
    have before := remembers.releases since green files time member
    exact (Nat.add_le_add_right before cooldown).trans cooled
  spaced files time member := by
    obtain ⟨last, known, before⟩ := remembers.recreations files time member
    exact (Nat.add_le_add_right before interval).trans (rested last known)

theorem replenished_other (remembers : RemembersMount mount cooldown interval daemon)
    {visit : PoolVisit} (apart : visit.pool.mountPoint ≠ mount) (filesCreated : Nat)
    : RemembersMount mount cooldown interval (daemon.replenished visit filesCreated) := by
  have made := (remembers.wait visit.createdAfter).record_other
    (.ballastReplenished visit.pool.mountPoint filesCreated) (fun _ => rfl) (fun _ _ => rfl)
    (fun _ _ _ same => by cases same)
    (fun _ _ _ same => by injection same with sameMount; exact apart sameMount)
  exact (made.wait visit.recordedAfter).setEntry_other _ (Ne.symm apart)

/-- A file recreated on a mount that is ready follows a calm, and is remembered. -/
theorem replenished_here {visit : PoolVisit}
    (remembers : RemembersMount visit.pool.mountPoint cooldown interval daemon)
    {since : Instant}
    (green : (daemon.releaseController.states visit.pool.mountPoint).greenSince = some since)
    (cooled : since + cooldown ≤ daemon.now)
    (rested : ∀ last,
      (daemon.releaseController.states visit.pool.mountPoint).lastReplenishTime = some last →
        last + interval ≤ daemon.now)
    (filesCreated : Nat)
    : RemembersMount visit.pool.mountPoint cooldown interval
        (daemon.replenished visit filesCreated) := by
  have state := daemon.replenished_states visit filesCreated
  have waited := remembers.wait visit.createdAfter
  have later : daemon.now ≤ daemon.now + visit.createdAfter := Nat.le_add_right _ _
  have calm := remembers.calmBefore green (cooled.trans later)
    (fun last known => (rested last known).trans later)
  exact {
    sameCooldown := remembers.sameCooldown
    sameInterval := remembers.sameInterval
    past := by
      intro event member
      rcases List.mem_cons.mp member with rfl | earlier
      · exact Nat.le_add_right _ _
      · exact (waited.past event earlier).trans (Nat.le_add_right _ _)
    begun := by
      intro begun period
      rw [state] at period
      exact (waited.begun begun period).trans (Nat.le_add_right _ _)
    interruptions := by
      intro begun period
      rw [state] at period
      change (BallastEvent.ballastReplenished visit.pool.mountPoint filesCreated
        (daemon.now + visit.createdAfter) :: daemon.history).countP _ ≤ 3
      rw [List.countP_cons, if_neg (by simp [BallastEvent.nonGreenAfter])]
      exact remembers.interruptions begun period
    releases := by
      intro begun period files time member
      rw [state] at period
      rcases List.mem_cons.mp member with same | earlier
      · cases same
      · exact remembers.releases begun period files time earlier
    recreations := by
      intro files time member
      rw [state]
      refine ⟨_, rfl, ?_⟩
      rcases List.mem_cons.mp member with same | earlier
      · cases same
        exact Nat.le_add_right _ _
      · exact (waited.past _ earlier).trans (Nat.le_add_right _ _)
    waits := by
      refine remembers.waits.cons fun files created same => ?_
      cases same
      exact calm }

/-- The visits of a green tick are remembered, by induction on the pools still to ask about. -/
theorem replenishOne (positive : 0 < interval)
    (remembers : RemembersMount mount cooldown interval daemon) (visits : List PoolVisit)
    : RemembersMount mount cooldown interval (daemon.replenishOne .green visits) := by
  induction visits generalizing daemon with
  | nil => exact remembers
  | cons visit rest ih =>
      have asked := remembers.ask visit
      have go_on := ih asked
      unfold BallastDaemon.replenishOne
      dsimp only
      split
      · rename_i ready
        split
        · split
          · by_cases here : visit.pool.mountPoint = mount
            · subst here
              obtain ⟨since, green, cooled, rested⟩ := remembers.ready positive ready
              exact asked.replenished_here green cooled rested _
            · exact asked.replenished_other here _
          · exact go_on
        · exact go_on
      · exact go_on

/-- A whole tick is remembered if it is green or an early interruption. -/
theorem handlePressure {F : Type} [Float64 F] (positive : 0 < interval)
    (remembers : RemembersMount mount cooldown interval daemon) (tick : PressureTick F)
    (few : WithinThreeInterruptions mount daemon tick)
    : RemembersMount mount cooldown interval (daemon.handlePressure tick) := by
  have started := (remembers.wait tick.startedAfter).record_tick few
  unfold BallastDaemon.handlePressure
  dsimp only
  split
  · exact started
  · have pressed : RemembersMount mount cooldown interval
        (if behaviorShouldReleaseBallast tick.behavior then
          ((daemon.wait tick.startedAfter).record (.tick tick.response.level)).releaseBallast
            tick.response.causingMount tick.response tick.release
        else (daemon.wait tick.startedAfter).record (.tick tick.response.level)) := by
      split
      · exact started.releaseBallast _ _ _
      · exact started
    cases level : tick.response.level with
    | green =>
        rw [level] at started
        have replenished := started.replenishOne positive tick.inventory
        dsimp only
        split
        · exact replenished.releaseBallast _ _ _
        · exact replenished
    | yellow | orange | red | critical =>
        rw [level] at pressed
        exact pressed

end RemembersMount

/-- In every run of ticks in which a green period of the mount meets no more than three ticks
that are not green, each recreation on the mount follows a calm: few interruptions and no
release within the cooldown, and no recreation within five minutes. Witness: the step
lemma of a tick, carried along the run.
-/
theorem replenishes_afterCalm {F : Type} [Float64 F] (mount : Location)
    (replenishCooldownMinutes : Nat) (now : Instant) (ticks : List (PressureTick F))
    (few : Runs.Guarded BallastDaemon.handlePressure (WithinThreeInterruptions mount)
      (.start replenishCooldownMinutes now) ticks)
    : WaitsForCalm mount (.fromSecs (replenishCooldownMinutes * 60)) (.fromMins 5)
        (Runs.final BallastDaemon.handlePressure (.start replenishCooldownMinutes now)
          ticks).history := by
  have positive : 0 < Duration.fromMins 5 := by decide
  have first : RemembersMount mount (.fromSecs (replenishCooldownMinutes * 60)) (.fromMins 5)
      (.start replenishCooldownMinutes now) := {
    sameCooldown := rfl
    sameInterval := rfl
    past := fun _ member => by cases member
    begun := fun _ green => by cases green
    interruptions := fun _ green => by cases green
    releases := fun _ green => by cases green
    recreations := fun _ _ member => by cases member
    waits := fun later _ _ _ split => by cases later <;> cases split }
  have kept : ∀ (daemon : BallastDaemon) (tick : PressureTick F),
      RemembersMount mount (.fromSecs (replenishCooldownMinutes * 60)) (.fromMins 5) daemon →
      WithinThreeInterruptions mount daemon tick →
      RemembersMount mount (.fromSecs (replenishCooldownMinutes * 60)) (.fromMins 5)
        (daemon.handlePressure tick) :=
    fun daemon tick remembers few => remembers.handlePressure positive tick few
  exact (Runs.invariant_of_guarded kept first few _ (Runs.final_mem_states _ _)).waits

def onePoolTick (level : PressureLevel) (startedAfter : Duration) : PressureTick ℚ where
  startedAfter := startedAfter
  response := ⟨level, 0, 0, .root⟩
  behavior := BehaviorDispatchTable.default.modeFor .normal level
  noRootPathOnPressuredDevice := false
  crossDevices := false
  inventory := [⟨⟨.root, 0, 1⟩, 0, some 1, 0, 0⟩]
  predictiveBallastMount := none
  release := ⟨fun _ => none, fun _ => none, 0, 0⟩

/-- After a minute of green the missing file is recreated. -/
theorem replenishes_afterMinute
    : (Runs.final BallastDaemon.handlePressure (.start 1 0)
          [onePoolTick .green 0, onePoolTick .green (.fromMins 1)]).history.head?
        = some (.ballastReplenished .root 1 (Duration.fromMins 1))
      ∧ WaitsForCalm .root (.fromSecs (1 * 60)) (.fromMins 5)
        (Runs.final BallastDaemon.handlePressure (.start 1 0)
          [onePoolTick .green 0, onePoolTick .green (.fromMins 1)]).history :=
  ⟨rfl, replenishes_afterCalm .root 1 0
    [onePoolTick .green 0, onePoolTick .green (.fromMins 1)]
    ⟨fun pressed => absurd rfl pressed, fun pressed => absurd rfl pressed, trivial⟩⟩

/-- Four yellow ticks in the minute before do not keep the file from being recreated. -/
theorem replenishes_withoutCalm
    : ¬ WaitsForCalm .root (.fromSecs (1 * 60)) (.fromMins 5)
        (Runs.final BallastDaemon.handlePressure (.start 1 0)
          [onePoolTick .green 0, onePoolTick .yellow (.fromSecs 10),
            onePoolTick .yellow (.fromSecs 10), onePoolTick .yellow (.fromSecs 10),
            onePoolTick .yellow (.fromSecs 10), onePoolTick .green (.fromSecs 20)]).history := by
  intro waits
  have calm := waits [] 1 (Duration.fromMins 1) _ rfl
  exact absurd calm.fewInterruptions (by decide)

end StorageBallast
