import StorageBallast.Daemon.PolicyTransitions
import StorageBallast.Foundations.Runs

/-! Where deletion rights come from in a run that starts in observe mode. Without a promotion
the only way out of observe and fallback-safe mode is an emergency escalation, which needs a
fallback that is old enough and was not made for the kill switch.
-/

namespace StorageBallast.PolicyEngine

open Runs

variable {F : Type}

/-- The engine has no deletion rights, and a recovery would not give it any. -/
structure Unprivileged (engine : PolicyEngine F) : Prop where
  mode : engine.mode = .observe ∨ engine.mode = .fallbackSafe
  preFallbackMode : engine.preFallbackMode = .observe

namespace Unprivileged

theorem denied {self : PolicyEngine F} (h : self.Unprivileged)
    : self.mode.allowsDeletion = false := by
  rcases h.mode with mode | mode <;> rw [mode] <;> rfl

theorem keeps {before after : PolicyEngine F} (h : before.Unprivileged)
    (kept : KeepsMode before after) : after.Unprivileged :=
  ⟨kept.mode ▸ h.mode, kept.preFallbackMode.trans h.preFallbackMode⟩

/-- A fallback of an unprivileged engine was entered from observe mode. -/
theorem fallsBack {before after : PolicyEngine F} {reason now} (h : before.Unprivileged)
    (entry : FallsBack before after reason now) : after.Unprivileged := by
  refine ⟨Or.inr entry.mode, entry.preFallbackMode.trans ?_⟩
  rcases h.mode with mode | mode
  · exact mode
  · exact absurd mode entry.outside

theorem recovers {before after : PolicyEngine F} (h : before.Unprivileged)
    (recovery : Recovers before after) : after.Unprivileged := by
  refine ⟨Or.inl (recovery.mode.trans ?_), recovery.preFallbackMode.trans h.preFallbackMode⟩
  rw [recoveryTarget, h.preFallbackMode]

/-- A new engine configured to observe is unprivileged, kill switch or not. -/
theorem new {config : PolicyConfig F} (observing : config.initialMode = .observe)
    (now : Instant) : (PolicyEngine.new config now).Unprivileged := by
  unfold PolicyEngine.new
  dsimp only
  split
  · rw [if_neg (by simp [observing])]
    rcases enterFallback_cases _ .killSwitch now with kept | entry
    · exact (⟨Or.inl observing, observing⟩ : Unprivileged _).keeps kept
    · exact (⟨Or.inl observing, observing⟩ : Unprivileged _).fallsBack entry
  · exact ⟨Or.inl observing, observing⟩

/-- A configuration update leaves an unprivileged engine unprivileged. -/
theorem updateConfig {self : PolicyEngine F} (h : self.Unprivileged)
    (config : PolicyConfig F) (now : Instant)
    : (self.updateConfig config now).Unprivileged := by
  have configured : ({ self with config } : PolicyEngine F).Unprivileged :=
    ⟨h.mode, h.preFallbackMode⟩
  rcases updateConfig_cases self config now with
    ⟨same, _⟩ | ⟨_, _, entry⟩ | ⟨_, _, inside, recorded⟩ | ⟨_, _, _, recovery⟩
  · rw [same]
    exact configured
  · exact configured.fallsBack entry
  · rw [recorded]
    exact ⟨Or.inr inside, h.preFallbackMode⟩
  · exact configured.recovers recovery

variable [Float64 F]

/-- Every call but a promotion and an escalation leaves the engine unprivileged. -/
theorem step {self : PolicyEngine F} (h : self.Unprivileged) (timed : TimedCall F)
    (unpromoted : timed.call ≠ .promote) (calm : self.escalates timed = false)
    : (self.step timed).Unprivileged := by
  obtain ⟨now, call⟩ := timed
  cases call with
  | evaluate candidates guard =>
      rcases evaluate_cases self candidates guard now with kept | ⟨_, entry⟩
      · exact h.keeps kept
      · exact h.fallsBack entry
  | observeWindow guard =>
      rcases observeWindow_cases self guard now with ⟨_, recovery⟩ | ⟨_, kept⟩
      · exact h.recovers recovery
      · exact h.keeps kept
  | enterFallback reason =>
      rcases enterFallback_cases self reason now with kept | entry
      · exact h.keeps kept
      · exact h.fallsBack entry
  | checkEmergencyEscalation flag =>
      rcases checkEmergencyEscalation_cases self flag now with ⟨_, _, done⟩ | ⟨_, done⟩
      · simp [escalates, done] at calm
      · simpa only [PolicyEngine.step, done] using h
  | setPressureLevel level => exact h.keeps ⟨rfl, rfl, rfl, rfl, rfl⟩
  | promote => exact absurd rfl unpromoted
  | demote =>
      rcases demote_cases self with ⟨mode, _⟩ | ⟨mode, _⟩ | ⟨_, done⟩
      · rcases h.mode with other | other <;> simp [mode] at other
      · rcases h.mode with other | other <;> simp [mode] at other
      · simpa only [PolicyEngine.step, done] using h
  | updateConfig config => exact h.updateConfig config now

end Unprivileged

variable [Float64 F]

/-- Along the run no mode grants deletion and no decision approves one. -/
structure WithholdsRights (engine : PolicyEngine F) (calls : List (TimedCall F)) : Prop where
  modes : ∀ state ∈ states step engine calls, state.mode ≠ .canary ∧ state.mode ≠ .enforce
  decisions
    : ∀ taken ∈ steps step engine calls,
        ∀ decision, taken.1.decision? taken.2 = some decision
          → decision.approvedForDeletion = []

/-- What the source requires of an escalation: a flagged check in fallback-safe mode, on an
entry recorded at least five minutes ago for another reason than the kill switch.
-/
def EscalationAllowed (self : PolicyEngine F) (timed : TimedCall F) : Prop :=
  timed.call = .checkEmergencyEscalation true
  ∧ self.mode = .fallbackSafe
  ∧ self.fallbackReason ≠ some .killSwitch
  ∧ ∃ enteredAt, self.fallbackEnteredAt = some enteredAt
      ∧ Duration.fromSecs fallbackEmergencyEscalationSecs ≤ elapsed timed.now enteredAt

omit [Float64 F] in
/-- A call escalates exactly when the source's conditions for it hold. -/
theorem escalates_iff (self : PolicyEngine F) (timed : TimedCall F)
    : self.escalates timed = true ↔ self.EscalationAllowed timed := by
  obtain ⟨now, call⟩ := timed
  cases call with
  | checkEmergencyEscalation flag =>
      have due := escalationDue_iff self now
      rcases checkEmergencyEscalation_cases self flag now with
        ⟨flagged, ready, done⟩ | ⟨unready, done⟩
      · subst flagged
        exact iff_of_true (by simp [escalates, done]) ⟨rfl, due.mp ready⟩
      · apply iff_of_false (by simp [escalates, done])
        rintro ⟨flagged, allowed⟩
        have ready := due.mpr allowed
        rcases unready with low | early
        · simp [low] at flagged
        · simp [early] at ready
  | _ => simp [escalates, EscalationAllowed]

/-- A run of a non-escalating, unpromoted engine withholds deletion rights throughout.
Witness: unprivileged states along the run; an evaluation that ends in one approved nothing.
-/
theorem Unprivileged.withholdsRights {engine : PolicyEngine F} (h : engine.Unprivileged)
    {calls : List (TimedCall F)}
    (unpromoted : ∀ timed ∈ calls, timed.call ≠ .promote)
    (calm : Guarded PolicyEngine.step (fun state timed => state.escalates timed = false)
      engine calls)
    : WithholdsRights engine calls := by
  have guarded : Guarded PolicyEngine.step
      (fun state timed => timed.call ≠ .promote ∧ state.escalates timed = false)
      engine calls := by
    refine guarded_iff_steps.mpr fun taken member => ⟨?_, guarded_iff_steps.mp calm _ member⟩
    obtain ⟨front, back, rfl, _⟩ := mem_steps_iff.mp member
    exact unpromoted taken.2 (by simp)
  have reached : ∀ state ∈ states PolicyEngine.step engine calls, state.Unprivileged :=
    invariant_of_guarded (fun _ timed state ready => state.step timed ready.1 ready.2)
      h guarded
  constructor
  · intro state member
    rcases (reached state member).mode with mode | mode <;> simp [mode]
  · rintro ⟨state, now, call⟩ member decision returned
    have after := (reached _ (step_mem_states member).2).denied
    cases call with
    | evaluate candidates guard =>
        obtain rfl := Option.some.inj returned
        exact evaluate_without_rights state candidates guard now after
    | _ => simp [decision?] at returned

/-- An engine created in observe mode and never promoted approves nothing and stays out of
canary and enforce mode as long as no emergency escalation happens, and an escalation happens
only on an aged fallback that was not made for the kill switch, under flagged pressure.
-/
theorem observe_run_withholdsRights_until_escalation (config : PolicyConfig F)
    (start : Instant) (calls : List (TimedCall F))
    (observing : config.initialMode = .observe)
    (unpromoted : ∀ timed ∈ calls, timed.call ≠ .promote)
    : (Guarded step (fun state timed => state.escalates timed = false)
        (new config start) calls
        → WithholdsRights (new config start) calls)
      ∧ ∀ taken ∈ steps step (new config start) calls,
          taken.1.escalates taken.2 = true → taken.1.EscalationAllowed taken.2 :=
  ⟨(Unprivileged.new observing start).withholdsRights unpromoted,
    fun taken _ escalated => (escalates_iff taken.1 taken.2).mp escalated⟩

/-- A drift alarm at orange pressure puts an observing engine in fallback-safe mode; five
minutes later a flagged check escalates it and the next batch is approved.
-/
def driftThenEscalation : List (TimedCall ℚ) := [
  ⟨0, .setPressureLevel .orange⟩,
  ⟨0, .evaluate [] (some failingGuard)⟩,
  ⟨Duration.fromSecs 300, .checkEmergencyEscalation true⟩,
  ⟨Duration.fromSecs 301, .evaluate [sampleCandidate .delete] (some passingGuard)⟩
]

/-- Without a promotion an engine created in observe mode can still end in enforce mode and
approve a deletion.
-/
theorem observe_run_grants_rights_by_escalation
    : ¬ ∀ (config : PolicyConfig ℚ) (start : Instant) (calls : List (TimedCall ℚ)),
        config.initialMode = .observe
        → (∀ timed ∈ calls, timed.call ≠ .promote)
        → WithholdsRights (new config start) calls := by
  intro withheld
  have granted : (final step (new testConfig 0) driftThenEscalation).mode = .enforce := by
    decide
  have reached := (withheld testConfig 0 driftThenEscalation rfl
    (by simp [driftThenEscalation])).modes _ (final_mem_states _ _)
  exact reached.2 granted

/-- A run of the source's observing test engine with a batch, a fallback and a calm check. -/
theorem observe_run_withholdsRights_until_escalation_drift
    : WithholdsRights (new testConfig 0) (driftThenEscalation.take 2)
      ∧ ∀ taken ∈ steps step (new testConfig 0) driftThenEscalation,
          taken.1.escalates taken.2 = true → taken.1.EscalationAllowed taken.2 :=
  ⟨(observe_run_withholdsRights_until_escalation testConfig 0 (driftThenEscalation.take 2)
      rfl (by simp [driftThenEscalation])).1 ⟨by decide, by decide, trivial⟩,
    (observe_run_withholdsRights_until_escalation testConfig 0 driftThenEscalation rfl
      (by simp [driftThenEscalation])).2⟩

end StorageBallast.PolicyEngine
