import StorageBallast.Foundations.Clock
import StorageBallast.Foundations.Floats
import StorageBallast.Monitor.Diagnostics

/-! Notification events with their severity, and the manager that throttles them by type. -/

namespace StorageBallast

open Float64

inductive NotificationLevel where
  | info
  | warning
  | orange
  | red
  | critical
deriving DecidableEq, Repr

namespace NotificationLevel

def rank : NotificationLevel → Nat
  | info => 0
  | warning => 1
  | orange => 2
  | red => 3
  | critical => 4

def fromPressure : PressureLevel → NotificationLevel
  | .green => info
  | .yellow => warning
  | .orange => orange
  | .red => red
  | .critical => critical

@[simp] theorem rank_fromPressure (level : PressureLevel)
    : (fromPressure level).rank = level.rank := by
  cases level <;> rfl

end NotificationLevel

def PressureLevel.debugText : PressureLevel → String
  | .green => "Green"
  | .yellow => "Yellow"
  | .orange => "Orange"
  | .red => "Red"
  | .critical => "Critical"

inductive NotificationEvent (F : Type) where
  | pressureChanged (fromLevel toLevel mount : String) (freePct : F)
  | predictiveWarning (mount : String) (minutesRemaining confidence : F)
  | cleanupCompleted (itemsDeleted bytesFreed : Nat) (mount : String)
  | ballastReleased (mount : String) (filesReleased bytesFreed : Nat)
  | ballastReplenished (mount : String) (filesReplenished : Nat)
  | behaviorEmergency (source memoryLevel diskLevel action : String)
  | daemonStarted (version : String) (volumesMonitored : Nat)
  | daemonStopped (reason : String) (uptimeSecs : Nat)
  | error (code message : String)

namespace NotificationEvent

variable {F : Type} [Float64 F]

def level : NotificationEvent F → NotificationLevel
  | daemonStarted .. | daemonStopped .. | ballastReplenished .. => .info
  | pressureChanged _ toLevel _ _ =>
      match toLevel with
      | "Critical" | "critical" => .critical
      | "Red" | "red" => .red
      | "Orange" | "orange" => .orange
      | "Yellow" | "yellow" => .warning
      | _ => .info
  | predictiveWarning _ minutesRemaining confidence =>
      let timeLevel : NotificationLevel :=
        if Float64.lt minutesRemaining 2.0 then .critical
        else if Float64.lt minutesRemaining 5.0 then .red
        else if Float64.lt minutesRemaining 30.0 then .orange
        else .warning
      let confidenceCap : NotificationLevel :=
        if Float64.lt confidence 0.3 then .info
        else if Float64.lt confidence 0.5 then .warning
        else if Float64.lt confidence 0.7 then .orange
        else .critical
      if timeLevel.rank ≤ confidenceCap.rank then timeLevel else confidenceCap
  | cleanupCompleted itemsDeleted bytesFreed _ =>
      if 10 < itemsDeleted ∨ 10 * 1073741824 < bytesFreed then .warning else .info
  | ballastReleased .. => .orange
  | behaviorEmergency .. => .critical
  | error .. => .red

omit [Float64 F] in
def typeKey : NotificationEvent F → String
  | pressureChanged .. => "pressure_changed"
  | predictiveWarning .. => "predictive_warning"
  | cleanupCompleted .. => "cleanup_completed"
  | ballastReleased .. => "ballast_released"
  | ballastReplenished .. => "ballast_replenished"
  | behaviorEmergency .. => "behavior_emergency"
  | daemonStarted .. => "daemon_started"
  | daemonStopped .. => "daemon_stopped"
  | error .. => "error"

theorem level_pressureChanged (fromLevel mount : String) (toLevel : PressureLevel) (freePct : F)
    : (pressureChanged fromLevel toLevel.debugText mount freePct).level
      = .fromPressure toLevel := by
  cases toLevel <;> rfl

end NotificationEvent

structure NotificationConfig where
  enabled : Bool
  minNotifyIntervalSecs : Nat
  urgentNotifyIntervalSecs : Nat

def NotificationConfig.default : NotificationConfig := ⟨true, 60, 300⟩

structure NotificationManager where
  enabled : Bool
  lastSendByType : String → Option Instant
  minInterval : Duration
  urgentMinInterval : Duration

namespace NotificationManager

def fromConfig (config : NotificationConfig) : NotificationManager :=
  if !config.enabled then ⟨false, fun _ => none, 0, 0⟩
  else
    ⟨true, fun _ => none, .fromSecs config.minNotifyIntervalSecs,
      .fromSecs config.urgentNotifyIntervalSecs⟩

variable {F : Type} [Float64 F]

def intervalFor (self : NotificationManager) (event : NotificationEvent F) : Duration :=
  if NotificationLevel.red.rank ≤ event.level.rank then self.urgentMinInterval
  else self.minInterval

def throttled (self : NotificationManager) (event : NotificationEvent F) (now : Instant)
    : Bool :=
  self.intervalFor event != 0
  && match self.lastSendByType event.typeKey with
    | none => false
    | some last => decide (elapsed now last < self.intervalFor event)

/-- The manager afterwards, and whether the event was passed to the channels. -/
def notify (self : NotificationManager) (event : NotificationEvent F) (now : Instant)
    : NotificationManager × Bool :=
  if !self.enabled then (self, false)
  else if self.throttled event now then (self, false)
  else
    ({ self with
        lastSendByType := fun key =>
          if key = event.typeKey then some now else self.lastSendByType key },
      true)

/-- An event passes exactly if notifications are enabled and its type is not throttled. -/
theorem notify_passes_iff (self : NotificationManager) (event : NotificationEvent F)
    (now : Instant)
    : (self.notify event now).2 = true
      ↔ self.enabled = true ∧ self.throttled event now = false := by
  unfold notify
  cases self.enabled <;> cases self.throttled event now <;> simp

/-- A manager that remembers the newest notification of each type. -/
def remembering (config : NotificationConfig) (sent : List (NotificationEvent F × Instant))
    : NotificationManager :=
  { fromConfig config with
    lastSendByType := fun key => (sent.find? (·.1.typeKey = key)).map Prod.snd }

omit [Float64 F] in
theorem remembering_nil (config : NotificationConfig)
    : remembering (F := F) config [] = fromConfig config := by
  unfold remembering fromConfig
  split <;> rfl

def spacing (config : NotificationConfig) (event : NotificationEvent F) : Duration :=
  .fromSecs (if NotificationLevel.red.rank ≤ event.level.rank then config.urgentNotifyIntervalSecs
    else config.minNotifyIntervalSecs)

theorem notify_remembering (config : NotificationConfig)
    (sent : List (NotificationEvent F × Instant)) (event : NotificationEvent F) (now : Instant)
    : ((remembering config sent).notify event now).1
      = remembering config
          (if ((remembering config sent).notify event now).2 then (event, now) :: sent
            else sent) := by
  unfold notify
  split
  · rfl
  split
  · rfl
  · simp only [remembering, if_pos, mk.injEq, true_and, and_true]
    funext key
    by_cases same : key = event.typeKey
    · simp [same]
    · simp [same, Ne.symm same]

theorem remembering_passes_iff (config : NotificationConfig)
    {sent : List (NotificationEvent F × Instant)} {event : NotificationEvent F} {now : Instant}
    (sorted : (now :: sent.map Prod.snd).Pairwise (· ≥ ·))
    : ((remembering config sent).notify event now).2 = true
      ↔ config.enabled = true
        ∧ ∀ earlier ∈ sent, earlier.1.typeKey = event.typeKey →
          earlier.2 + spacing config event ≤ now := by
  obtain ⟨before, sorted⟩ := List.pairwise_cons.mp sorted
  rw [notify_passes_iff]
  cases enabled : config.enabled with
  | false => simp [remembering, fromConfig, enabled]
  | true =>
      have interval : (remembering config sent).intervalFor event = spacing config event := by
        simp only [intervalFor, remembering, fromConfig, enabled, spacing]
        split <;> rfl
      have on : (remembering config sent).enabled = true := by
        simp [remembering, fromConfig, enabled]
      simp only [throttled, interval, on, true_and]
      change (_ && match (sent.find? (·.1.typeKey = event.typeKey)).map Prod.snd with
        | none => false
        | some last => decide (elapsed now last < spacing config event)) = false ↔ _
      cases found : sent.find? (·.1.typeKey = event.typeKey) with
      | none =>
          refine iff_of_true (by simp) fun earlier member typed => ?_
          exact absurd (decide_eq_true typed) (List.find?_eq_none.mp found earlier member)
      | some last =>
          obtain ⟨typed, newer, older, rfl, apart⟩ := List.find?_eq_some_iff_append.mp found
          have there : last.2 ≤ now := before _ (List.mem_map_of_mem (by simp))
          -- What went out stands newest first, so the first of the type is the latest.
          have newest (earlier) (member : earlier ∈ newer ++ last :: older)
              (same : earlier.1.typeKey = event.typeKey) : earlier.2 ≤ last.2 := by
            rw [List.map_append, List.map_cons] at sorted
            rcases List.mem_append.mp member with ahead | rest
            · exact absurd same (by simpa using apart earlier ahead)
            · rcases List.mem_cons.mp rest with rfl | behind
              · exact le_rfl
              · exact (List.pairwise_cons.mp (List.pairwise_append.mp sorted).2.1).1 _
                  (List.mem_map_of_mem behind)
          have gone : (spacing config event != 0
              && decide (elapsed now last.2 < spacing config event)) = false
              ↔ last.2 + spacing config event ≤ now := by
            rw [Bool.and_eq_false_iff, bne_eq_false_iff_eq, decide_eq_false_iff_not, not_lt]
            rcases Nat.eq_zero_or_pos (spacing config event) with zero | positive
            · rw [zero]
              exact iff_of_true (.inl rfl) there
            · rw [le_elapsed_iff positive]
              exact or_iff_right positive.ne'
          rw [Option.map_some, gone]
          exact ⟨fun passed earlier member same => (Nat.add_le_add_right
            (newest earlier member same) _).trans passed,
            fun all => all last (by simp) (of_decide_eq_true typed)⟩

end NotificationManager

end StorageBallast
