import Mathlib.Logic.Function.Basic
import StorageBallast.Foundations.Clock
import StorageBallast.Foundations.Floats
import StorageBallast.Foundations.Paths
import StorageBallast.Monitor.Diagnostics

/-! The controller behind ballast files: how many to release under pressure, and when a mount
has been calm for long enough that a file may be recreated. Every reading of the clock is an
argument.
-/

namespace StorageBallast

open scoped Float64

/-- What the pressure controller answers, as far as ballast depends on it. -/
structure PressureResponse (F : Type) where
  level : PressureLevel
  urgency : F
  releaseBallastFiles : Nat
  causingMount : Location

structure MountReleaseState where
  lastReleaseTime : Option Instant
  greenSince : Option Instant
  lastReplenishTime : Option Instant
  /-- Non-green ticks since `greenSince` was set. -/
  nonGreenInterruptions : Nat
deriving DecidableEq, Repr

namespace MountReleaseState

def default : MountReleaseState := ⟨none, none, none, 0⟩

/-- Up to three interruptions are forgiven; the fourth ends the green period. -/
def interrupt (self : MountReleaseState) : MountReleaseState :=
  if self.greenSince.isSome then
    let interruptions := self.nonGreenInterruptions + 1
    if 3 < interruptions then { self with greenSince := none, nonGreenInterruptions := 0 }
    else { self with nonGreenInterruptions := interruptions }
  else self

/-- `green_since.get_or_insert(now)` -/
def enterGreen (self : MountReleaseState) (now : Instant) : MountReleaseState :=
  { self with greenSince := some (self.greenSince.getD now) }

variable {state : MountReleaseState}

/-- An interruption ends a green period exactly as its fourth. -/
theorem interrupt_greenSince (period : state.greenSince.isSome)
    : state.interrupt.greenSince = none ↔ 3 ≤ state.nonGreenInterruptions := by
  have set : state.greenSince ≠ none := Option.isSome_iff_ne_none.mp period
  unfold interrupt
  rw [if_pos period]
  dsimp only
  split
  · simp; omega
  · simp [set]; omega

theorem interrupt_nonGreenInterruptions (period : state.greenSince.isSome)
    : state.interrupt.nonGreenInterruptions
        = if 3 ≤ state.nonGreenInterruptions then 0 else state.nonGreenInterruptions + 1 := by
  unfold interrupt
  rw [if_pos period]
  dsimp only
  split <;> split <;> first | rfl | omega

theorem interrupt_of_none (period : state.greenSince = none)
    : state.interrupt = state := by
  simp [interrupt, period]

theorem interrupt_le_three (forgiven : state.nonGreenInterruptions ≤ 3)
    : state.interrupt.nonGreenInterruptions ≤ 3 := by
  cases period : state.greenSince with
  | none => rw [interrupt_of_none period]; exact forgiven
  | some since =>
      rw [interrupt_nonGreenInterruptions (by simp [period])]
      split <;> omega

end MountReleaseState

/-- A mount without an entry has the default state. -/
structure BallastReleaseController where
  states : Location → MountReleaseState
  replenishCooldown : Duration
  replenishInterval : Duration

namespace BallastReleaseController

def new (replenishCooldownMinutes : Nat) : BallastReleaseController where
  states _ := .default
  replenishCooldown := .fromSecs (replenishCooldownMinutes * 60)
  replenishInterval := .fromMins 5

def reset (self : BallastReleaseController) : BallastReleaseController :=
  { self with states := fun _ => .default }

/-- `states.entry(mount_path).or_default()`, written back. -/
def setEntry (self : BallastReleaseController) (mountPath : Location)
    (state : MountReleaseState) : BallastReleaseController :=
  { self with states := Function.update self.states mountPath state }

/-- The cumulative number of released files that a response asks for. -/
def targetReleased {F : Type} [Float64 F] (response : PressureResponse F) (totalPool : Nat)
    : Nat :=
  let urgencyRecommendation :=
    if Float64.lt response.urgency 0.3 then 0
    else if Float64.lt response.urgency 0.6 then 1
    else if Float64.lt response.urgency 0.9 then 3
    else totalPool
  let levelFloor :=
    match response.level with
    | .critical => totalPool
    | .red => 3
    | .orange => 1
    | .yellow | .green => 0
  max (max response.releaseBallastFiles urgencyRecommendation) levelFloor

def filesToRelease {F : Type} [Float64 F] (response : PressureResponse F)
    (available configuredTotal : Nat) : Nat :=
  if available = 0 then 0
  else
    let alreadyReleased := configuredTotal - available
    min (targetReleased response configuredTotal - alreadyReleased) available

theorem filesToRelease_critical {F : Type} [Float64 F] {response : PressureResponse F}
    (critical : response.level = .critical) {available configuredTotal : Nat}
    (configured : available ≤ configuredTotal)
    : filesToRelease response available configuredTotal = available := by
  have target : configuredTotal ≤ targetReleased response configuredTotal := by
    unfold targetReleased
    rw [critical]
    exact le_max_right _ _
  unfold filesToRelease
  split
  · omega
  · exact Nat.min_eq_right (by omega)

def onReleased (self : BallastReleaseController) (mountPath : Location) (now : Instant)
    : BallastReleaseController :=
  self.setEntry mountPath
    { self.states mountPath with lastReleaseTime := some now, greenSince := none }

/-- The controller afterwards, and whether a file may be recreated on the mount. -/
def isReadyForReplenish (self : BallastReleaseController) (mountPath : Location)
    (currentLevel : PressureLevel) (currentFiles targetFiles : Nat) (now : Instant)
    : BallastReleaseController × Bool :=
  if currentLevel ≠ .green then
    (self.setEntry mountPath (self.states mountPath).interrupt, false)
  else
    let state := (self.states mountPath).enterGreen now
    let ready :=
      if elapsed now ((self.states mountPath).greenSince.getD now) < self.replenishCooldown then
        false
      else if targetFiles ≤ currentFiles then false
      else
        match state.lastReplenishTime with
        | some last => !decide (elapsed now last < self.replenishInterval)
        | none => true
    (self.setEntry mountPath state, ready)

def onReplenished (self : BallastReleaseController) (mountPath : Location) (now : Instant)
    : BallastReleaseController :=
  self.setEntry mountPath { self.states mountPath with lastReplenishTime := some now }

variable (self : BallastReleaseController) {mount other : Location} {now : Instant}

@[simp] theorem setEntry_same (state : MountReleaseState)
    : (self.setEntry mount state).states mount = state := by
  simp [setEntry]

@[simp] theorem setEntry_other (state : MountReleaseState) (apart : mount ≠ other)
    : (self.setEntry other state).states mount = self.states mount := by
  simp [setEntry, apart]

theorem isReadyForReplenish_interrupted {level : PressureLevel} (currentFiles targetFiles : Nat)
    (pressed : level ≠ .green)
    : self.isReadyForReplenish mount level currentFiles targetFiles now
        = (self.setEntry mount (self.states mount).interrupt, false) := by
  simp [isReadyForReplenish, pressed]

/-- A mount is ready only after a full cooldown of green, with a file missing, and a full
interval after the last recreation.
-/
theorem ready_iff {currentFiles targetFiles : Nat}
    : (self.isReadyForReplenish mount .green currentFiles targetFiles now).2 = true
      ↔ self.replenishCooldown ≤ elapsed now ((self.states mount).greenSince.getD now)
        ∧ currentFiles < targetFiles
        ∧ ∀ last, (self.states mount).lastReplenishTime = some last →
            self.replenishInterval ≤ elapsed now last := by
  simp only [isReadyForReplenish, ne_eq, not_true_eq_false, if_false]
  split
  · rename_i early
    simp [Nat.not_le.mpr early]
  · rename_i cooled
    split
    · rename_i complete
      simp [Nat.not_lt.mpr complete]
    · rename_i missing
      simp only [MountReleaseState.enterGreen]
      cases (self.states mount).lastReplenishTime <;>
        simp [Nat.not_lt.mp cooled, Nat.not_le.mp missing]

end BallastReleaseController

end StorageBallast
