import StorageBallast.Ballast.ReleaseController
import StorageBallast.Foundations.Runs

/-! What the release controller remembers of interruptions of a green period, against the
interruptions that there were. A release ends the green period and leaves the count behind, so
the two agree exactly as long as no release finds an interruption counted.
-/

namespace StorageBallast

inductive ControllerCall where
  | isReadyForReplenish (mountPath : Location) (currentLevel : PressureLevel)
      (currentFiles targetFiles : Nat) (now : Instant)
  | onReleased (mountPath : Location) (now : Instant)
  | onReplenished (mountPath : Location) (now : Instant)
deriving DecidableEq, Repr

namespace ControllerCall

def mount : ControllerCall → Location
  | isReadyForReplenish mountPath _ _ _ _ => mountPath
  | onReleased mountPath _ => mountPath
  | onReplenished mountPath _ => mountPath

def nonGreen : ControllerCall → Bool
  | isReadyForReplenish _ currentLevel _ _ _ => currentLevel != .green
  | _ => false

def release : ControllerCall → Bool
  | onReleased _ _ => true
  | _ => false

end ControllerCall

def BallastReleaseController.call (self : BallastReleaseController)
    : ControllerCall → BallastReleaseController
  | .isReadyForReplenish mountPath currentLevel currentFiles targetFiles now =>
      (self.isReadyForReplenish mountPath currentLevel currentFiles targetFiles now).1
  | .onReleased mountPath now => self.onReleased mountPath now
  | .onReplenished mountPath now => self.onReplenished mountPath now

/-- The controller, and the non-green calls there were on one mount since its green period
began; none without a green period.
-/
structure ObservedMount where
  controller : BallastReleaseController
  nonGreenCalls : Nat

def MountReleaseState.afterCall (self : MountReleaseState) : ControllerCall → MountReleaseState
  | .isReadyForReplenish _ currentLevel _ _ now =>
      if currentLevel = .green then self.enterGreen now else self.interrupt
  | .onReleased _ now => { self with lastReleaseTime := some now, greenSince := none }
  | .onReplenished _ now => { self with lastReplenishTime := some now }

theorem BallastReleaseController.call_eq (self : BallastReleaseController)
    (call : ControllerCall)
    : self.call call
        = self.setEntry call.mount ((self.states call.mount).afterCall call) := by
  cases call with
  | isReadyForReplenish mountPath currentLevel currentFiles targetFiles now =>
      by_cases green : currentLevel = .green
      · subst green
        rfl
      · rw [BallastReleaseController.call, isReadyForReplenish_interrupted _ _ _ green,
          MountReleaseState.afterCall, if_neg green]
        rfl
  | onReleased mountPath now => rfl
  | onReplenished mountPath now => rfl

theorem BallastReleaseController.call_states (self : BallastReleaseController)
    (call : ControllerCall) (mount : Location)
    : (self.call call).states mount
        = if call.mount = mount then (self.states mount).afterCall call
          else self.states mount := by
  rw [call_eq]
  by_cases here : call.mount = mount
  · simp [here]
  · simp [here, Ne.symm here]

namespace ObservedMount

variable (mount : Location)

def start (controller : BallastReleaseController) : ObservedMount := ⟨controller, 0⟩

def state (self : ObservedMount) : MountReleaseState := self.controller.states mount

def step (self : ObservedMount) (call : ControllerCall) : ObservedMount :=
  let next := self.controller.call call
  { controller := next
    nonGreenCalls :=
      match (self.state mount).greenSince, (next.states mount).greenSince with
      | some _, some _ =>
          if call.mount = mount ∧ call.nonGreen then self.nonGreenCalls + 1
          else self.nonGreenCalls
      | _, _ => 0 }

def Counted (self : ObservedMount) : Prop :=
  (self.state mount).nonGreenInterruptions = self.nonGreenCalls

instance (self : ObservedMount) : Decidable (self.Counted mount) :=
  inferInstanceAs (Decidable (_ = _))

/-- A call in a green period ends it exactly as a release, or as its fourth interruption. -/
def ClearedOnCause (self : ObservedMount) (call : ControllerCall) : Prop :=
  (self.state mount).greenSince.isSome →
    (((self.step mount call).state mount).greenSince = none
      ↔ call.mount = mount ∧ (call.release ∨ call.nonGreen ∧ self.nonGreenCalls = 3))

def NoPendingInterruption (self : ObservedMount) (call : ControllerCall) : Prop :=
  call.mount = mount → call.release → (self.state mount).nonGreenInterruptions = 0

/-- What holds with or without such releases: a green period that is not there has no
interruptions, and the controller counts at most three.
-/
structure Sane (seen : ObservedMount) : Prop where
  unset : (seen.state mount).greenSince = none → seen.nonGreenCalls = 0
  forgiven : (seen.state mount).nonGreenInterruptions ≤ 3

variable {mount : Location} {self : ObservedMount} {call : ControllerCall}

theorem state_step
    : (self.step mount call).state mount
        = if call.mount = mount then (self.state mount).afterCall call
          else self.state mount :=
  self.controller.call_states call mount

theorem nonGreenCalls_step
    : (self.step mount call).nonGreenCalls
        = match (self.state mount).greenSince,
            ((self.step mount call).state mount).greenSince with
          | some _, some _ =>
              if call.mount = mount ∧ call.nonGreen then self.nonGreenCalls + 1
              else self.nonGreenCalls
          | _, _ => 0 := rfl

theorem step_of_apart (apart : call.mount ≠ mount) (sane : self.Sane mount)
    : (self.step mount call).state mount = self.state mount
      ∧ (self.step mount call).nonGreenCalls = self.nonGreenCalls := by
  have same : (self.step mount call).state mount = self.state mount := by
    rw [state_step, if_neg apart]
  refine ⟨same, ?_⟩
  rw [nonGreenCalls_step, same]
  cases period : (self.state mount).greenSince with
  | none => exact (sane.unset period).symm
  | some since => simp [apart]

/-- A green period that ends starts the count again, by the definition of the count. -/
theorem unset_step
    : ((self.step mount call).state mount).greenSince = none →
        (self.step mount call).nonGreenCalls = 0 := by
  intro period
  rw [nonGreenCalls_step, period]
  cases (self.state mount).greenSince <;> rfl

theorem Sane.step (sane : self.Sane mount) (call : ControllerCall)
    : (self.step mount call).Sane mount := by
  refine ⟨unset_step, ?_⟩
  rw [state_step]
  split
  · cases call with
    | isReadyForReplenish mountPath currentLevel currentFiles targetFiles now =>
        simp only [MountReleaseState.afterCall]
        split
        · exact sane.forgiven
        · exact MountReleaseState.interrupt_le_three sane.forgiven
    | onReleased mountPath now => exact sane.forgiven
    | onReplenished mountPath now => exact sane.forgiven
  · exact sane.forgiven

/-- One call keeps the count right exactly if it is no release that finds an interruption
counted: the other calls count what they meet, and a release leaves behind what it finds.
-/
theorem counted_step_iff (sane : self.Sane mount) (counted : self.Counted mount)
    : (self.step mount call).Counted mount ↔ self.NoPendingInterruption mount call := by
  by_cases here : call.mount = mount
  · unfold Counted NoPendingInterruption
    unfold Counted at counted
    rw [nonGreenCalls_step, state_step, if_pos here]
    cases call with
    | isReadyForReplenish mountPath currentLevel currentFiles targetFiles now =>
        simp only [ControllerCall.release, MountReleaseState.afterCall]
        by_cases green : currentLevel = .green
        · cases period : (self.state mount).greenSince with
          | none =>
              simp [green, MountReleaseState.enterGreen, counted, sane.unset period]
          | some since =>
              simp [green, MountReleaseState.enterGreen, counted, ControllerCall.nonGreen]
        · cases period : (self.state mount).greenSince with
          | none =>
              simp [green, MountReleaseState.interrupt_of_none period, counted,
                sane.unset period]
          | some since =>
              have set : (self.state mount).greenSince.isSome := by simp [period]
              have ended := MountReleaseState.interrupt_greenSince set
              have kept := MountReleaseState.interrupt_nonGreenInterruptions set
              simp only [green, if_false, kept]
              cases after : (self.state mount).interrupt.greenSince with
              | none => simp [ended.mp after]
              | some later =>
                  have few : ¬ 3 ≤ (self.state mount).nonGreenInterruptions := by
                    intro many
                    rw [ended.mpr many] at after
                    cases after
                  rw [if_neg few, counted]
                  simp [here, ControllerCall.nonGreen, green]
    | onReleased mountPath now =>
        simp only [MountReleaseState.afterCall, ControllerCall.release, here]
        cases (self.state mount).greenSince <;> simp
    | onReplenished mountPath now =>
        simp only [MountReleaseState.afterCall, ControllerCall.release]
        cases period : (self.state mount).greenSince with
        | none => simp [counted, sane.unset period]
        | some since => simp [counted, ControllerCall.nonGreen]
  · obtain ⟨sameState, sameCalls⟩ := step_of_apart here sane
    unfold Counted NoPendingInterruption
    rw [sameState, sameCalls]
    exact ⟨fun _ same => absurd same here, fun _ => counted⟩

/-- While the count is right, a green period ends as its causes say. -/
theorem clearedOnCause (sane : self.Sane mount) (counted : self.Counted mount)
    : self.ClearedOnCause mount call := by
  intro period
  have set : (self.state mount).greenSince ≠ none := Option.isSome_iff_ne_none.mp period
  unfold Counted at counted
  rw [state_step]
  by_cases here : call.mount = mount
  · rw [if_pos here]
    simp only [here, true_and]
    cases call with
    | isReadyForReplenish mountPath currentLevel currentFiles targetFiles now =>
        by_cases green : currentLevel = .green
        · simp [green, MountReleaseState.afterCall, MountReleaseState.enterGreen,
            ControllerCall.release, ControllerCall.nonGreen]
        · have ended := MountReleaseState.interrupt_greenSince period
          have bound := sane.forgiven
          simp only [green, MountReleaseState.afterCall, ControllerCall.release,
            ControllerCall.nonGreen, if_false, ended]
          simp [green]
          omega
    | onReleased mountPath now =>
        simp [MountReleaseState.afterCall, ControllerCall.release]
    | onReplenished mountPath now =>
        simp [MountReleaseState.afterCall, ControllerCall.release, ControllerCall.nonGreen,
          set]
  · simp [here, set]

end ObservedMount

/-- The controller's count of interruptions on a mount is right in every state of a run, and
each green period ends for a cause.
-/
structure InterruptionsCounted (mount : Location) (start : ObservedMount)
    (calls : List ControllerCall) : Prop where
  counted : ∀ seen ∈ Runs.states (ObservedMount.step mount) start calls, seen.Counted mount
  cleared : ∀ taken ∈ Runs.steps (ObservedMount.step mount) start calls,
    taken.1.ClearedOnCause mount taken.2

/-- The bookkeeping is right along a run exactly if no release on the mount comes while an
interruption is counted. Witness: one call at a time, carried along the run.
-/
theorem interruptionsCounted_iff (mount : Location) (replenishCooldownMinutes : Nat)
    (calls : List ControllerCall)
    : InterruptionsCounted mount (.start (.new replenishCooldownMinutes)) calls
      ↔ Runs.Guarded (ObservedMount.step mount)
          (ObservedMount.NoPendingInterruption mount)
          (.start (.new replenishCooldownMinutes)) calls := by
  have sane : ∀ seen ∈ Runs.states (ObservedMount.step mount)
      (.start (.new replenishCooldownMinutes)) calls, seen.Sane mount :=
    Runs.invariant_of_kept (fun seen call sane => sane.step call) ⟨fun _ => rfl, Nat.zero_le _⟩
  have sharp : ∀ (seen : ObservedMount) (call : ControllerCall),
      seen.Sane mount ∧ seen.Counted mount →
      ((seen.step mount call).Sane mount ∧ (seen.step mount call).Counted mount
        ↔ seen.NoPendingInterruption mount call) := by
    rintro seen call ⟨sane, counted⟩
    rw [← ObservedMount.counted_step_iff sane counted]
    exact and_iff_right (sane.step call)
  have first : (ObservedMount.start (.new replenishCooldownMinutes)).Sane mount
      ∧ (ObservedMount.start (.new replenishCooldownMinutes)).Counted mount :=
    ⟨⟨fun _ => rfl, Nat.zero_le _⟩, rfl⟩
  have along := @Runs.invariant_iff_guarded _ _ _ _ _ calls _ sharp first
  rw [← along]
  constructor
  · intro right seen member
    exact ⟨sane seen member, right.counted seen member⟩
  · intro right
    refine ⟨fun seen member => (right seen member).2, ?_⟩
    rintro ⟨seen, call⟩ taken
    obtain ⟨sane, counted⟩ := right seen (Runs.step_mem_states taken).1
    exact ObservedMount.clearedOnCause sane counted

/-- An interruption from before a release is counted against the green period after it. -/
theorem release_keeps_interruption
    : ¬ InterruptionsCounted .root (.start (.new 30))
        [.isReadyForReplenish .root .green 10 10 0,
          .isReadyForReplenish .root .yellow 10 10 1,
          .onReleased .root 2,
          .isReadyForReplenish .root .green 9 10 3] := by
  intro right
  have counted := right.counted _ (Runs.final_mem_states _ _)
  exact absurd counted (by decide)

end StorageBallast
