import StorageBallast.Daemon.PolicyTransitions
import StorageBallast.Foundations.Runs

/-! When an engaged kill switch holds the engine in fallback-safe mode. Clean-window recovery
and timed escalation look at the recorded fallback and not at the switch, so they are the two
steps that can release an engine whose switch is still engaged.
-/

namespace StorageBallast.PolicyEngine

open Runs

variable {F : Type}

def KillSwitchHolds (self : PolicyEngine F) : Prop :=
  self.config.killSwitch = true → self.mode = .fallbackSafe

/-- The call does not release an engaged kill switch: a clean window completes no recovery to
another mode, and no flagged check escalates a fallback recorded for another reason.
-/
def ReleasesNothing (self : PolicyEngine F) (timed : TimedCall F) : Prop :=
  self.config.killSwitch = true →
    match timed.call with
    | .observeWindow guard =>
        self.recoveryDue guard timed.now → self.preFallbackMode = .fallbackSafe
    | .checkEmergencyEscalation flag => flag = true → self.escalationDue timed.now = false
    | _ => True

variable {self : PolicyEngine F}

theorem KillSwitchHolds.of_inside (inside : self.mode = .fallbackSafe)
    : self.KillSwitchHolds := fun _ => inside

/-- Keeping mode and configuration keeps the switch effective. -/
theorem KillSwitchHolds.keeps {before after : PolicyEngine F} (h : before.KillSwitchHolds)
    (kept : KeepsMode before after) : after.KillSwitchHolds := by
  intro engaged
  rw [kept.config] at engaged
  rw [kept.mode]
  exact h engaged

theorem new_killSwitchHolds (config : PolicyConfig F) (now : Instant)
    : (new config now).KillSwitchHolds := by
  unfold new
  dsimp only
  split
  · split
    · rename_i inside
      exact .of_inside inside
    · rename_i outside
      exact .of_inside (enterFallback_killSwitch _ now outside).mode
  · rename_i released
    intro engaged
    exact absurd engaged released

theorem updateConfig_killSwitchHolds (h : self.KillSwitchHolds)
    (config : PolicyConfig F) (now : Instant)
    : (self.updateConfig config now).KillSwitchHolds := by
  rcases updateConfig_cases self config now with
    ⟨same, covered⟩ | ⟨_, _, entry⟩ | ⟨_, _, inside, recorded⟩ | ⟨_, released, _, recovery⟩
  · rw [same]
    intro engaged
    rcases covered engaged with before | inside
    · exact h before
    · exact inside
  · exact .of_inside entry.mode
  · rw [recorded]
    exact .of_inside inside
  · intro engaged
    rw [recovery.config] at engaged
    simp [released] at engaged

/-- A promotion or demotion finds an engaged engine in fallback-safe mode and does nothing;
otherwise it keeps the switch released.
-/
theorem manual_killSwitchHolds {before after : PolicyEngine F} (h : before.KillSwitchHolds)
    (config : after.config = before.config)
    (inert : before.mode = .fallbackSafe → after = before)
    : after.KillSwitchHolds := by
  intro engaged
  rw [config] at engaged
  have inside := h engaged
  rw [inert inside]
  exact inside

theorem promote_inside (inside : self.mode = .fallbackSafe)
    : self.promote.1 = self := by
  simp [promote, inside]

theorem demote_inside (inside : self.mode = .fallbackSafe)
    : self.demote.1 = self := by
  simp [demote, inside]

/-- An observation keeps the switch effective exactly if it releases nothing. -/
theorem observeWindow_killSwitchHolds_iff (h : self.KillSwitchHolds)
    (guard : GuardDiagnostics F) (now : Instant)
    : (self.observeWindow guard now).KillSwitchHolds
      ↔ (self.config.killSwitch = true → self.recoveryDue guard now
          → self.preFallbackMode = .fallbackSafe) := by
  rcases observeWindow_cases self guard now with ⟨due, recovery⟩ | ⟨idle, kept⟩
  · rw [KillSwitchHolds, recovery.config, recovery.mode, recoveryTarget_eq_fallbackSafe_iff]
    exact imp_congr_right fun _ => ⟨fun target _ => target, fun target => target due⟩
  · exact iff_of_true (h.keeps kept) fun _ due => absurd due idle

/-- An escalation check keeps the switch effective exactly if it does not escalate an
engaged engine.
-/
theorem checkEmergencyEscalation_killSwitchHolds_iff
    (h : self.KillSwitchHolds) (flag : Bool) (now : Instant)
    : (self.checkEmergencyEscalation flag now).1.KillSwitchHolds
      ↔ (self.config.killSwitch = true → flag = true → self.escalationDue now = false) := by
  rcases checkEmergencyEscalation_cases self flag now with
    ⟨flagged, due, done⟩ | ⟨unready, done⟩
  · rw [done]
    refine imp_congr_right fun engaged => iff_of_false (by simp [escalate]) ?_
    intro early
    simp [early flagged] at due
  · rw [done]
    refine iff_of_true h fun _ flagged => ?_
    rcases unready with low | early
    · simp [low] at flagged
    · exact early

variable [Float64 F]

/-- One call keeps the switch effective exactly if it releases nothing, by cases on the call.
-/
theorem step_killSwitchHolds_iff (self : PolicyEngine F) (timed : TimedCall F)
    (h : self.KillSwitchHolds)
    : (self.step timed).KillSwitchHolds ↔ self.ReleasesNothing timed := by
  obtain ⟨now, call⟩ := timed
  cases call with
  | evaluate candidates guard =>
      refine iff_of_true ?_ fun _ => trivial
      rcases evaluate_cases self candidates guard now with kept | ⟨_, entry⟩
      · exact h.keeps kept
      · exact .of_inside entry.mode
  | observeWindow guard => exact observeWindow_killSwitchHolds_iff h guard now
  | enterFallback reason =>
      refine iff_of_true ?_ fun _ => trivial
      rcases enterFallback_cases self reason now with kept | entry
      · exact h.keeps kept
      · exact .of_inside entry.mode
  | checkEmergencyEscalation flag =>
      exact checkEmergencyEscalation_killSwitchHolds_iff h flag now
  | setPressureLevel level =>
      exact iff_of_true (h.keeps ⟨rfl, rfl, rfl, rfl, rfl⟩) fun _ => trivial
  | promote =>
      exact iff_of_true (manual_killSwitchHolds h (promote_frame self).1 promote_inside)
        fun _ => trivial
  | demote =>
      exact iff_of_true (manual_killSwitchHolds h (demote_frame self).1 demote_inside)
        fun _ => trivial
  | updateConfig config =>
      exact iff_of_true (updateConfig_killSwitchHolds h config now) fun _ => trivial

omit [Float64 F] in
def isRelease (timed : TimedCall F) : Prop :=
  ∃ config, timed.call = .updateConfig config ∧ config.killSwitch = false

/-- Along the run an engaged switch implies fallback-safe mode, and an engine held by it
leaves fallback-safe mode only through an update that disengages it.
-/
structure KillSwitchAbsorbs (engine : PolicyEngine F) (calls : List (TimedCall F))
    : Prop where
  held : ∀ state ∈ states step engine calls, state.KillSwitchHolds
  released
    : ∀ taken ∈ steps step engine calls,
        taken.1.config.killSwitch = true
        → taken.1.mode = .fallbackSafe
        → (taken.1.step taken.2).mode ≠ .fallbackSafe
        → isRelease taken.2

theorem step_config (self : PolicyEngine F) (timed : TimedCall F)
    : (self.step timed).config = self.config
      ∨ ∃ config, timed.call = .updateConfig config
          ∧ (self.step timed).config = config := by
  obtain ⟨now, call⟩ := timed
  cases call with
  | evaluate candidates guard =>
      left
      rcases evaluate_cases self candidates guard now with kept | ⟨_, entry⟩
      · exact kept.config
      · exact entry.config
  | observeWindow guard =>
      left
      rcases observeWindow_cases self guard now with ⟨_, recovery⟩ | ⟨_, kept⟩
      · exact recovery.config
      · exact kept.config
  | enterFallback reason =>
      left
      rcases enterFallback_cases self reason now with kept | entry
      · exact kept.config
      · exact entry.config
  | checkEmergencyEscalation flag =>
      left
      rcases checkEmergencyEscalation_cases self flag now with ⟨_, _, done⟩ | ⟨_, done⟩
      · exact congrArg (fun result => result.1.config) done
      · exact congrArg (fun result => result.1.config) done
  | setPressureLevel level => exact Or.inl rfl
  | promote => exact Or.inl (promote_frame self).1
  | demote => exact Or.inl (demote_frame self).1
  | updateConfig config => exact Or.inr ⟨config, rfl, self.updateConfig_config config now⟩

/-- The kill switch is absorbing in a run exactly when no call of the run releases an engaged
engine by clean-window recovery or by escalation. Witness: the exact step law along the run;
a mode left under an effective switch means the configuration was changed to release it.
-/
theorem killSwitch_absorbs_iff (config : PolicyConfig F) (start : Instant)
    (calls : List (TimedCall F))
    : KillSwitchAbsorbs (new config start) calls
      ↔ Guarded step ReleasesNothing (new config start) calls := by
  have sharp : (∀ state ∈ states step (new config start) calls, KillSwitchHolds state)
      ↔ Guarded step ReleasesNothing (new config start) calls :=
    invariant_iff_guarded (fun state timed h => step_killSwitchHolds_iff state timed h)
      (new_killSwitchHolds config start)
  refine ⟨fun absorbs => sharp.mp absorbs.held, fun guarded => ⟨sharp.mpr guarded, ?_⟩⟩
  rintro ⟨state, timed⟩ member engaged _ left
  have held := sharp.mpr guarded _ (step_mem_states member).2
  rcases step_config state timed with same | ⟨updated, updating, changed⟩
  · exact absurd (held (by rw [same]; exact engaged)) left
  · refine ⟨updated, updating, ?_⟩
    rw [← changed]
    exact Bool.eq_false_iff.mpr fun stillEngaged => left (held stillEngaged)

def engagedConfig : PolicyConfig ℚ :=
  { testConfig with killSwitch := true, recoveryCleanWindows := 1 }

/-- An engaged engine is released by one passing guard window. -/
theorem killSwitch_lifted_by_cleanWindow
    : ¬ KillSwitchAbsorbs (new engagedConfig 0) [⟨0, .observeWindow passingGuard⟩] := by
  intro absorbs
  have last : final step (new engagedConfig 0) [⟨0, .observeWindow passingGuard⟩]
      ∈ states step (new engagedConfig 0) [⟨0, .observeWindow passingGuard⟩] :=
    final_mem_states _ _
  have inside := absorbs.held _ last (by decide)
  have outside : (final step (new engagedConfig 0)
      [⟨0, .observeWindow passingGuard⟩]).mode = .observe := by decide
  rw [outside] at inside
  exact absurd inside (by decide)

end StorageBallast.PolicyEngine
