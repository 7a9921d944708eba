import StorageBallast.Daemon.Notifications
import StorageBallast.Foundations.Runs

/-! Alerts for changes of the overall pressure: the monitoring loop has a cooldown of its own,
and the notification manager behind it throttles by event type.
-/

namespace StorageBallast

open Runs Float64

variable {F : Type} [Float64 F]

structure PressureAlerts where
  manager : NotificationManager
  lastPressureLevel : PressureLevel
  lastNotifiedPressureLevel : PressureLevel
  lastPressureNotifyTime : Option Instant

namespace PressureAlerts

def start (config : NotificationConfig) : PressureAlerts :=
  ⟨.fromConfig config, .green, .green, none⟩

def inCooldown (self : PressureAlerts) (now : Instant) : Bool :=
  match self.lastPressureNotifyTime with
  | none => false
  | some last => decide (elapsed now last < .fromMins 5)

def shouldNotify (self : PressureAlerts) (level : PressureLevel) (now : Instant) : Bool :=
  if self.inCooldown now then decide (self.lastNotifiedPressureLevel.rank < level.rank) else true

/-- The event of `log_pressure_change`; without statistics it names the root mount. -/
def pressureChange (self : PressureAlerts) (level : PressureLevel) (stats : Option (String × F))
    : NotificationEvent F :=
  .pressureChanged self.lastPressureLevel.debugText level.debugText (stats.getD ("/", 0.0)).1
    (stats.getD ("/", 0.0)).2

/-- The pressure transition of a tick, and the event it passed to the channels. -/
def transition (self : PressureAlerts) (level : PressureLevel) (stats : Option (String × F))
    (now : Instant) : PressureAlerts × Option (NotificationEvent F) :=
  if level = self.lastPressureLevel then (self, none)
  else if self.shouldNotify level now then
    let event := self.pressureChange level stats
    let sent := self.manager.notify event now
    let notified := if self.inCooldown now then self.lastNotifiedPressureLevel else .green
    ({ manager := sent.1
       lastPressureLevel := level
       lastNotifiedPressureLevel := if notified.rank < level.rank then level else notified
       lastPressureNotifyTime := some now },
      if sent.2 then some event else none)
  else ({ self with lastPressureLevel := level }, none)

def KeyFree (self : PressureAlerts) (now : Instant) : Prop :=
  self.manager.urgentMinInterval = 0
  ∨ ∀ last, self.manager.lastSendByType "pressure_changed" = some last →
      self.manager.urgentMinInterval ≤ elapsed now last

theorem throttled_iff (self : PressureAlerts) {level : PressureLevel}
    (urgent : level = .red ∨ level = .critical) (stats : Option (String × F)) (now : Instant)
    : self.manager.throttled (self.pressureChange level stats) now = false
      ↔ self.KeyFree now := by
  have interval : self.manager.intervalFor (self.pressureChange level stats)
      = self.manager.urgentMinInterval := by
    unfold NotificationManager.intervalFor pressureChange
    rw [NotificationEvent.level_pressureChanged, NotificationLevel.rank_fromPressure, if_pos]
    rcases urgent with rfl | rfl <;> decide
  unfold NotificationManager.throttled KeyFree
  rw [interval]
  change (_ && match self.manager.lastSendByType "pressure_changed" with
    | none => false
    | some last => decide (elapsed now last < self.manager.urgentMinInterval)) = false ↔ _
  cases self.manager.lastSendByType "pressure_changed" with
  | none => simp
  | some last => by_cases none : self.manager.urgentMinInterval = 0 <;> simp [none]

/-- A changed urgent level passes exactly if the loop finds it worth a notification and the
manager lets it through.
-/
theorem transition_passes_iff (self : PressureAlerts) {level : PressureLevel}
    (urgent : level = .red ∨ level = .critical) (changed : level ≠ self.lastPressureLevel)
    (stats : Option (String × F)) (now : Instant)
    : (self.transition level stats now).2 = some (self.pressureChange level stats)
      ↔ self.shouldNotify level now = true ∧ self.manager.enabled = true
        ∧ self.KeyFree now := by
  rw [← self.throttled_iff urgent stats now, ← NotificationManager.notify_passes_iff]
  unfold transition
  rw [if_neg changed]
  cases self.shouldNotify level now with
  | false => simp
  | true =>
      simp only [if_true, true_and]
      cases (self.manager.notify (self.pressureChange level stats) now).2 <;> simp

end PressureAlerts

/-- An event passed to the channels; overall ones stem from the loop's own transitions. -/
structure PassedAlert (F : Type) where
  time : Instant
  event : NotificationEvent F
  overall : Bool

/-- A successful check, or any other notification of the daemon, such as the pressure of a
special location.
-/
inductive AlertInput (F : Type) where
  | check (now : Instant) (level : PressureLevel) (stats : Option (String × F))
  | other (now : Instant) (event : NotificationEvent F)

structure AlertRun (F : Type) where
  alerts : PressureAlerts
  passed : List (PassedAlert F)

namespace AlertRun

def start (config : NotificationConfig) : AlertRun F := ⟨.start config, []⟩

def step (self : AlertRun F) : AlertInput F → AlertRun F
  | .check now level stats =>
      let result := self.alerts.transition level stats now
      ⟨result.1, (result.2.map fun event => ⟨now, event, true⟩).toList ++ self.passed⟩
  | .other now event =>
      let sent := self.alerts.manager.notify event now
      ⟨{ self.alerts with manager := sent.1 },
        if sent.2 then ⟨now, event, false⟩ :: self.passed else self.passed⟩

def Escalates (self : AlertRun F) (level : PressureLevel) : Prop :=
  (level = .red ∨ level = .critical) ∧ self.alerts.lastPressureLevel.rank < level.rank

/-- An overall event at least as severe was passed within the urgent interval or the last five
minutes.
-/
def RecentlyPassed (self : AlertRun F) (level : PressureLevel) (now : Instant) : Prop :=
  ∃ alert ∈ self.passed, alert.overall = true
    ∧ (NotificationLevel.fromPressure level).rank ≤ alert.event.level.rank
    ∧ (elapsed now alert.time ≤ self.alerts.manager.urgentMinInterval
      ∨ elapsed now alert.time ≤ .fromMins 5)

/-- An escalation is passed to the channels at once, or as severe an event was recently. -/
def NotMasked (self : AlertRun F) : AlertInput F → Prop
  | .check now level stats =>
      self.Escalates level →
        (self.alerts.transition level stats now).2
            = some (self.alerts.pressureChange level stats)
        ∨ self.RecentlyPassed level now
  | .other _ _ => True

/-- At an escalation the loop finds it worth a notification and nothing under the key of
pressure changes was passed within the urgent interval, or as severe an event was recently.
-/
def Unhindered (self : AlertRun F) : AlertInput F → Prop
  | .check now level _ =>
      self.Escalates level →
        (self.alerts.shouldNotify level now = true ∧ self.alerts.manager.enabled = true
          ∧ self.alerts.KeyFree now)
        ∨ self.RecentlyPassed level now
  | .other _ _ => True

omit [Float64 F] in
theorem Escalates.changed {self : AlertRun F} {level : PressureLevel}
    (escalates : self.Escalates level)
    : level ≠ self.alerts.lastPressureLevel := by
  rintro rfl
  exact Nat.lt_irrefl _ escalates.2

theorem notMasked_iff (self : AlertRun F) (input : AlertInput F)
    : self.NotMasked input ↔ self.Unhindered input := by
  cases input with
  | other => exact Iff.rfl
  | check now level stats =>
      refine imp_congr_right fun escalates => or_congr_left ?_
      exact self.alerts.transition_passes_iff escalates.1 escalates.changed stats now

/-- Over a whole run no escalation is masked exactly if each one is unhindered. -/
theorem notMasked_iff_unhindered (config : NotificationConfig) (inputs : List (AlertInput F))
    : (∀ taken ∈ steps step (start config) inputs, taken.1.NotMasked taken.2)
      ↔ Guarded step Unhindered (start config) inputs := by
  rw [guarded_iff_steps]
  exact forall₂_congr fun taken _ => taken.1.notMasked_iff taken.2

open Duration (fromSecs)

def yellowThenRed : List (AlertInput ℚ) :=
  [.check (fromSecs 10) .yellow none, .check (fromSecs 20) .red none]

/-- With the default intervals the alert for red is dropped on account of the one for yellow. -/
theorem red_masked
    : ¬ ∀ taken ∈ steps step (start .default) yellowThenRed, taken.1.NotMasked taken.2 := by
  intro all
  have last := all _ (List.mem_cons_of_mem _ (List.mem_cons_self ..))
  have dropped : (((start .default).step
      (.check (fromSecs 10) .yellow none : AlertInput ℚ)).alerts.transition .red
        (none : Option (String × ℚ)) (fromSecs 20)).2.isSome = false := by decide +kernel
  rcases last ⟨Or.inl rfl, by decide⟩ with passed | ⟨alert, member, -, severe, -⟩
  · rw [passed] at dropped
    cases dropped
  · obtain rfl := List.mem_singleton.mp member
    revert severe
    decide

end AlertRun

end StorageBallast
