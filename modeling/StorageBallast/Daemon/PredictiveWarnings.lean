import StorageBallast.Daemon.Notifications
import StorageBallast.Monitor.PredictiveActions

/-! Warnings of a disk that is predicted to fill up. The loop remembers a level of each, which the
next one has to exceed or else waits for, and the event has a level of its own, by which it is
throttled and filtered. The one goes by the horizons of the configuration, the other by fixed
ones and by the confidence.
-/

namespace StorageBallast

open scoped Float64

variable {F : Type} [Float64 F]

structure PredictiveWarnings (F : Type) where
  prediction : ConfigFile.PredictionConfig F
  lastPredictiveAction : PredictiveAction F
  lastEwmaConfidence : F
  lastPredictiveWarning : Option Instant
  lastPredictiveLevel : Option NotificationLevel
  notificationManager : NotificationManager

def ConfigFile.PredictionConfig.currentLevel (self : PredictionConfig F) (minutes : F)
    : NotificationLevel :=
  if Float64.lt minutes self.criticalDangerMinutes then .critical
  else if Float64.lt minutes self.imminentDangerMinutes then .red
  else if Float64.lt minutes self.actionHorizonMinutes then .orange
  else .warning

namespace PredictiveWarnings

/-- The seconds of a prediction that passes the gates: pressure above yellow, an action in force,
enough confidence, and an end within the warning horizon.
-/
def passing (self : PredictiveWarnings F) (response : PidResponse F) : Option F :=
  if response.level.rank ≤ PressureLevel.yellow.rank then none
  else if self.lastPredictiveAction.isClear then none
  else
    match response.predictedSeconds with
    | none => none
    | some seconds =>
        if Float64.lt self.lastEwmaConfidence self.prediction.minConfidence then none
        else if Float64.gt seconds (self.prediction.warningHorizonMinutes * 60.0) then none
        else some seconds

omit [Float64 F] in
/-- A level above the last one is worth a warning, any other only after five minutes. -/
def shouldNotify (self : PredictiveWarnings F) (currentLevel : NotificationLevel) (now : Instant)
    : Bool :=
  match self.lastPredictiveLevel with
  | none => true
  | some lastLevel =>
      if lastLevel.rank < currentLevel.rank then true
      else
        match self.lastPredictiveWarning with
        | none => true
        | some lastTime => decide (Duration.fromMins 5 ≤ elapsed now lastTime)

/-- The daemon afterwards, and the event it handed to the notification manager. -/
def checkPredictiveWarning (self : PredictiveWarnings F) (response : PidResponse F)
    (now : Instant)
    : PredictiveWarnings F × Option (NotificationEvent F) :=
  match self.passing response with
  | none => (self, none)
  | some seconds =>
      let currentLevel := self.prediction.currentLevel (seconds / 60.0)
      if self.shouldNotify currentLevel now then
        let event : NotificationEvent F :=
          .predictiveWarning response.causingMount.text (seconds / 60.0) self.lastEwmaConfidence
        ({ self with
            lastPredictiveWarning := some now
            lastPredictiveLevel := some currentLevel
            notificationManager := (self.notificationManager.notify event now).1 },
          some event)
      else (self, none)

end PredictiveWarnings

def reachesAll (x : F) (bounds : List F) : Bool := bounds.all fun bound => !Float64.lt x bound

/-- When the remembered level is that of the event. A critical or red one has to lie between the
fixed bounds of that level, at full confidence. An orange one may also lie below them, and a
warning anywhere, where the confidence holds the event down.
-/
def ConfigFile.PredictionConfig.levelsAgree (self : PredictionConfig F) (minutes confidence : F)
    : Bool :=
  if Float64.lt minutes self.criticalDangerMinutes then
    Float64.lt minutes 2.0 && reachesAll confidence [0.3, 0.5, 0.7]
  else if Float64.lt minutes self.imminentDangerMinutes then
    reachesAll minutes [2.0] && Float64.lt minutes 5.0 && reachesAll confidence [0.3, 0.5, 0.7]
  else if Float64.lt minutes self.actionHorizonMinutes then
    reachesAll confidence [0.3, 0.5]
      && (reachesAll minutes [2.0, 5.0] && Float64.lt minutes 30.0
        || !reachesAll minutes [2.0, 5.0] && Float64.lt confidence 0.7)
  else
    reachesAll confidence [0.3]
      && (reachesAll minutes [2.0, 5.0, 30.0] || Float64.lt confidence 0.5)

section event

variable (mount : String) (minutes confidence : F)

open NotificationEvent

/-- When the event is at each of the levels that are remembered. Only the order of the
comparisons matters, so this is settled on their outcomes.
-/
theorem level_predictiveWarning_iff
    : ((predictiveWarning mount minutes confidence).level = .critical
        ↔ (Float64.lt minutes 2.0 && reachesAll confidence [0.3, 0.5, 0.7]) = true)
      ∧ ((predictiveWarning mount minutes confidence).level = .red
        ↔ (reachesAll minutes [2.0] && Float64.lt minutes 5.0
            && reachesAll confidence [0.3, 0.5, 0.7]) = true)
      ∧ ((predictiveWarning mount minutes confidence).level = .orange
        ↔ (reachesAll confidence [0.3, 0.5]
            && (reachesAll minutes [2.0, 5.0] && Float64.lt minutes 30.0
              || !reachesAll minutes [2.0, 5.0] && Float64.lt confidence 0.7)) = true)
      ∧ ((predictiveWarning mount minutes confidence).level = .warning
        ↔ (reachesAll confidence [0.3]
            && (reachesAll minutes [2.0, 5.0, 30.0] || Float64.lt confidence 0.5)) = true) := by
  simp only [level, reachesAll, List.all_cons, List.all_nil]
  generalize Float64.lt minutes 2.0 = two, Float64.lt minutes 5.0 = five,
    Float64.lt minutes 30.0 = thirty, Float64.lt confidence 0.3 = low,
    Float64.lt confidence 0.5 = medium, Float64.lt confidence 0.7 = high
  revert two five thirty low medium high
  decide

/-- The two tables compared, one remembered level at a time. -/
theorem level_eq_currentLevel_iff (prediction : ConfigFile.PredictionConfig F)
    : (predictiveWarning mount minutes confidence).level = prediction.currentLevel minutes
      ↔ prediction.levelsAgree minutes confidence = true := by
  obtain ⟨critical, red, orange, warning⟩ := level_predictiveWarning_iff mount minutes confidence
  unfold ConfigFile.PredictionConfig.currentLevel ConfigFile.PredictionConfig.levelsAgree
  split
  · exact critical
  · split
    · exact red
    · split
      · exact orange
      · exact warning

end event

namespace PredictiveWarnings

variable {self : PredictiveWarnings F} {response : PidResponse F}

theorem passing_predicted {seconds : F} (passes : self.passing response = some seconds)
    : response.predictedSeconds = some seconds := by
  unfold passing at passes
  split at passes
  · cases passes
  · split at passes
    · cases passes
    · split at passes
      · cases passes
      · rename_i predicted
        split at passes
        · cases passes
        · split at passes
          · cases passes
          · rw [predicted, passes]

theorem checkPredictiveWarning_sends {now : Instant} {event : NotificationEvent F}
    (sent : (self.checkPredictiveWarning response now).2 = some event)
    : ∃ seconds, self.passing response = some seconds
      ∧ event = .predictiveWarning response.causingMount.text (seconds / 60.0)
          self.lastEwmaConfidence
      ∧ (self.checkPredictiveWarning response now).1.lastPredictiveLevel
        = some (self.prediction.currentLevel (seconds / 60.0)) := by
  unfold checkPredictiveWarning at sent ⊢
  cases passes : self.passing response with
  | none =>
      rw [passes] at sent
      cases sent
  | some seconds =>
      rw [passes] at sent
      dsimp only at sent ⊢
      split at sent
      · rename_i worth
        rw [if_pos worth]
        exact ⟨seconds, rfl, (Option.some.inj sent).symm, rfl⟩
      · cases sent

/-- The first prediction that passes the gates is handed over. -/
theorem checkPredictiveWarning_first {seconds : F} (passes : self.passing response = some seconds)
    (first : self.lastPredictiveLevel = none) (now : Instant)
    : (self.checkPredictiveWarning response now).2
      = some (.predictiveWarning response.causingMount.text (seconds / 60.0)
        self.lastEwmaConfidence) := by
  have worth : self.shouldNotify (self.prediction.currentLevel (seconds / 60.0)) now = true := by
    unfold shouldNotify
    rw [first]
  unfold checkPredictiveWarning
  rw [passes]
  dsimp only
  rw [if_pos worth]

/-- A warning is handed over at the level that is remembered of it exactly if the levels agree
at the minutes and the confidence it names.
-/
theorem announced_as_remembered_iff {self : PredictiveWarnings F} {response : PidResponse F}
    {now : Instant} {event : NotificationEvent F}
    (sent : (self.checkPredictiveWarning response now).2 = some event)
    : (self.checkPredictiveWarning response now).1.lastPredictiveLevel = some event.level
      ↔ ∀ seconds ∈ response.predictedSeconds,
          self.prediction.levelsAgree (seconds / 60.0) self.lastEwmaConfidence = true := by
  obtain ⟨seconds, passes, rfl, remembered⟩ := checkPredictiveWarning_sends sent
  rw [remembered, Option.some_inj, eq_comm, level_eq_currentLevel_iff, passing_predicted passes]
  constructor
  · intro agree other predicted
    cases predicted
    exact agree
  · intro agree
    exact agree seconds rfl

/-- A warning at orange pressure, with ten minutes left and nothing remembered. -/
def foreseeing (prediction : ConfigFile.PredictionConfig F) (confidence : F)
    : PredictiveWarnings F where
  prediction
  lastPredictiveAction := .imminentDanger .root 10.0 false
  lastEwmaConfidence := confidence
  lastPredictiveWarning := none
  lastPredictiveLevel := none
  notificationManager := .fromConfig .default

/-- Pressure that is predicted to fill the disk after so many seconds. -/
def foreseen (seconds : F) : PidResponse F where
  level := .orange
  urgency := 0.5
  releaseBallastFiles := 0
  causingMount := .root
  scanInterval := 0
  maxDeleteBatch := 10
  fallbackActive := false
  freePct := 12.0
  predictedSeconds := some seconds

end PredictiveWarnings

def ConfigFile.PredictionConfig.acting (actionHorizonMinutes : F) : PredictionConfig F where
  enabled := true
  actionHorizonMinutes
  warningHorizonMinutes := 60.0
  minConfidence := 0.7
  minSamples := 5
  imminentDangerMinutes := 5.0
  criticalDangerMinutes := 2.0
  burstMinConfidence := 0.85

/-- By default ten minutes are remembered as they are announced. -/
theorem default_warning_remembered
    : ((PredictiveWarnings.foreseeing (.acting 30.0) (0.9 : ℚ)).checkPredictiveWarning
        (PredictiveWarnings.foreseen 600.0) 0).1.lastPredictiveLevel
      = ((PredictiveWarnings.foreseeing (.acting 30.0) (0.9 : ℚ)).checkPredictiveWarning
        (PredictiveWarnings.foreseen 600.0) 0).2.map (·.level) := by
  have passes : (PredictiveWarnings.foreseeing (.acting 30.0) (0.9 : ℚ)).passing
      (PredictiveWarnings.foreseen 600.0) = some 600.0 := by
    decide +kernel
  have sent := PredictiveWarnings.checkPredictiveWarning_first passes rfl 0
  rw [sent]
  refine (PredictiveWarnings.announced_as_remembered_iff sent).mpr ?_
  intro seconds predicted
  cases predicted
  decide +kernel

/-- With a horizon of 45 minutes for actions, 40 minutes are remembered as orange and announced
as a warning.
-/
theorem distant_action_underrated
    : (ConfigFile.PredictionConfig.acting (45.0 : ℚ)).validate = .ok ()
      ∧ ((PredictiveWarnings.foreseeing (.acting 45.0) (0.9 : ℚ)).checkPredictiveWarning
        (PredictiveWarnings.foreseen 2400.0) 0).1.lastPredictiveLevel = some .orange
      ∧ (((PredictiveWarnings.foreseeing (.acting 45.0) (0.9 : ℚ)).checkPredictiveWarning
        (PredictiveWarnings.foreseen 2400.0) 0).2.map (·.level)) = some .warning := by
  decide +kernel

end StorageBallast
