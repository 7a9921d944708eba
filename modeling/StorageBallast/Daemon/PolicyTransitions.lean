import StorageBallast.Daemon.PolicyEngine
import Mathlib.Tactic.Common

/-! What each engine operation can do to the mode. Every operation either leaves the control
fields alone or makes one of five moves; later results use these facts and never unfold an
operation again.
-/

namespace StorageBallast.PolicyEngine

variable {F : Type}

/-- Configuration, mode and the record of the current fallback are unchanged. -/
structure KeepsMode (before after : PolicyEngine F) : Prop where
  config : after.config = before.config
  mode : after.mode = before.mode
  preFallbackMode : after.preFallbackMode = before.preFallbackMode
  fallbackReason : after.fallbackReason = before.fallbackReason
  fallbackEnteredAt : after.fallbackEnteredAt = before.fallbackEnteredAt

/-- Fallback-safe mode is entered from another mode, which is remembered. -/
structure FallsBack (before after : PolicyEngine F) (reason : FallbackReason)
    (now : Instant) : Prop where
  config : after.config = before.config
  outside : before.mode ≠ .fallbackSafe
  mode : after.mode = .fallbackSafe
  preFallbackMode : after.preFallbackMode = before.mode
  fallbackReason : after.fallbackReason = some reason
  fallbackEnteredAt : after.fallbackEnteredAt = some now

/-- The engine lands in the recovery target and forgets the fallback. -/
structure Recovers (before after : PolicyEngine F) : Prop where
  config : after.config = before.config
  inside : before.mode = .fallbackSafe
  mode : after.mode = before.recoveryTarget
  preFallbackMode : after.preFallbackMode = before.preFallbackMode
  fallbackReason : after.fallbackReason = none
  fallbackEnteredAt : after.fallbackEnteredAt = none

theorem KeepsMode.refl (self : PolicyEngine F) : KeepsMode self self :=
  ⟨rfl, rfl, rfl, rfl, rfl⟩

theorem KeepsMode.trans {first second third : PolicyEngine F}
    (front : KeepsMode first second) (back : KeepsMode second third)
    : KeepsMode first third :=
  ⟨back.config.trans front.config, back.mode.trans front.mode,
    back.preFallbackMode.trans front.preFallbackMode,
    back.fallbackReason.trans front.fallbackReason,
    back.fallbackEnteredAt.trans front.fallbackEnteredAt⟩

/-- A fallback followed by steps that keep the mode is still that fallback. -/
theorem FallsBack.keeps {before middle after : PolicyEngine F} {reason now}
    (entry : FallsBack before middle reason now) (kept : KeepsMode middle after)
    : FallsBack before after reason now :=
  ⟨kept.config.trans entry.config, entry.outside, kept.mode.trans entry.mode,
    kept.preFallbackMode.trans entry.preFallbackMode,
    kept.fallbackReason.trans entry.fallbackReason,
    kept.fallbackEnteredAt.trans entry.fallbackEnteredAt⟩

/-- Steps that keep the mode, followed by a fallback, are that fallback. -/
theorem KeepsMode.fallsBack {before middle after : PolicyEngine F} {reason now}
    (kept : KeepsMode before middle) (entry : FallsBack middle after reason now)
    : FallsBack before after reason now :=
  ⟨entry.config.trans kept.config, kept.mode ▸ entry.outside, entry.mode,
    entry.preFallbackMode.trans kept.mode, entry.fallbackReason, entry.fallbackEnteredAt⟩

/-- Stamping the suppression log keeps the control fields, stamped or not. -/
theorem noteSuppression_keepsMode (self : PolicyEngine F) (now : Instant)
    : KeepsMode self (self.noteSuppression now) := by
  unfold noteSuppression
  split <;> exact ⟨rfl, rfl, rfl, rfl, rfl⟩

theorem commitFallback_fallsBack (self : PolicyEngine F) (reason : FallbackReason)
    (now : Instant) (outside : self.mode ≠ .fallbackSafe)
    : FallsBack self (self.commitFallback reason now) reason now :=
  ⟨rfl, outside, rfl, rfl, rfl, rfl⟩

/-- Past the emergency grace an entry is suppressed by the startup grace or committed. -/
theorem enterFallbackAfterGrace_cases (self : PolicyEngine F) (reason : FallbackReason)
    (now : Instant) (outside : self.mode ≠ .fallbackSafe)
    : KeepsMode self (self.enterFallbackAfterGrace reason now)
      ∨ FallsBack self (self.enterFallbackAfterGrace reason now) reason now := by
  unfold enterFallbackAfterGrace
  split
  · left
    obtain ⟨config, mode, previous, cause, entered⟩ := self.noteSuppression_keepsMode now
    exact ⟨config, mode, previous, cause, entered⟩
  · exact Or.inr (commitFallback_fallsBack self reason now outside)

/-- An entry keeps the mode when it is already fallback-safe or a grace period suppresses
it, and is a fallback with the given reason otherwise.
-/
theorem enterFallback_cases (self : PolicyEngine F) (reason : FallbackReason)
    (now : Instant)
    : KeepsMode self (self.enterFallback reason now)
      ∨ FallsBack self (self.enterFallback reason now) reason now := by
  unfold enterFallback
  split
  · exact Or.inl (.refl self)
  · rename_i outside
    split
    · exact Or.inr (commitFallback_fallsBack self reason now outside)
    · split
      · split
        · exact Or.inl (noteSuppression_keepsMode self now)
        · have cleared : KeepsMode self { self with emergencyEscalatedAt := none } :=
            ⟨rfl, rfl, rfl, rfl, rfl⟩
          rcases enterFallbackAfterGrace_cases { self with emergencyEscalatedAt := none }
            reason now outside with kept | entry
          · exact Or.inl (cleared.trans kept)
          · exact Or.inr (cleared.fallsBack entry)
      · exact enterFallbackAfterGrace_cases self reason now outside

theorem enterFallback_killSwitch (self : PolicyEngine F) (now : Instant)
    (outside : self.mode ≠ .fallbackSafe)
    : FallsBack self (self.enterFallback .killSwitch now) .killSwitch now := by
  rw [enterFallback, if_neg outside, if_pos rfl]
  exact commitFallback_fallsBack self .killSwitch now outside

theorem enterFallback_inside (self : PolicyEngine F) (reason : FallbackReason)
    (now : Instant) (inside : self.mode = .fallbackSafe)
    : self.enterFallback reason now = self := by
  rw [enterFallback, if_pos inside]

theorem recoverFromFallback_recovers (self : PolicyEngine F)
    (inside : self.mode = .fallbackSafe) : Recovers self self.recoverFromFallback :=
  ⟨rfl, inside, rfl, rfl, rfl, rfl⟩

theorem recoveryTarget_ne_enforce (self : PolicyEngine F)
    : self.recoveryTarget ≠ .enforce := by
  unfold recoveryTarget
  cases self.preFallbackMode <;> simp

/-- Recovery stays inside fallback-safe mode only for an engine configured to start there. -/
theorem recoveryTarget_eq_fallbackSafe_iff (self : PolicyEngine F)
    : self.recoveryTarget = .fallbackSafe ↔ self.preFallbackMode = .fallbackSafe := by
  unfold recoveryTarget
  cases self.preFallbackMode <;> simp

def recoveryDue (self : PolicyEngine F) (guard : GuardDiagnostics F) (now : Instant) : Prop :=
  self.observationTooSoon now = false
  ∧ self.isCleanWindow guard = true
  ∧ self.mode = .fallbackSafe
  ∧ self.config.recoveryCleanWindows ≤ self.consecutiveCleanWindows + 1
  ∧ self.fallbackCooldownOver now = true

/-- Stamping an observation keeps the control fields, and all that recovery looks at. -/
theorem stampObservation_eq (self : PolicyEngine F) (now : Instant)
    : ∃ stamp, self.stampObservation now = { self with lastObserveTime := stamp } := by
  unfold stampObservation
  split
  · exact ⟨some now, rfl⟩
  · exact ⟨self.lastObserveTime, rfl⟩

theorem uncleanWindow_keepsMode (self : PolicyEngine F) (guard : GuardDiagnostics F)
    : KeepsMode self (self.uncleanWindow guard) := by
  unfold uncleanWindow
  split
  · split <;> exact ⟨rfl, rfl, rfl, rfl, rfl⟩
  · exact ⟨rfl, rfl, rfl, rfl, rfl⟩

/-- An observation recovers when recovery is due and keeps the mode otherwise. -/
theorem observeWindow_cases (self : PolicyEngine F) (guard : GuardDiagnostics F)
    (now : Instant)
    : (self.recoveryDue guard now ∧ Recovers self (self.observeWindow guard now))
      ∨ (¬ self.recoveryDue guard now ∧ KeepsMode self (self.observeWindow guard now)) := by
  unfold observeWindow
  split
  · rename_i soon
    exact Or.inr ⟨fun due => by simp [due.1] at soon, .refl self⟩
  · rename_i processed
    obtain ⟨stamp, stamped⟩ := stampObservation_eq self now
    rw [stamped]
    simp only
    split
    · rename_i clean
      unfold cleanWindow
      simp only
      split
      · rename_i recovering
        refine Or.inl ⟨⟨by simpa using processed, clean, recovering⟩, ?_⟩
        exact ⟨rfl, recovering.1, rfl, rfl, rfl, rfl⟩
      · rename_i waiting
        exact Or.inr ⟨fun due => waiting due.2.2, ⟨rfl, rfl, rfl, rfl, rfl⟩⟩
    · rename_i unclean
      have stampedMode : KeepsMode self { self with lastObserveTime := stamp } :=
        ⟨rfl, rfl, rfl, rfl, rfl⟩
      exact Or.inr ⟨fun due => unclean due.2.1,
        stampedMode.trans (uncleanWindow_keepsMode _ guard)⟩

/-- An escalation check escalates exactly when it is flagged and escalation is due. -/
theorem checkEmergencyEscalation_cases (self : PolicyEngine F) (flag : Bool)
    (now : Instant)
    : (flag = true ∧ self.escalationDue now = true
        ∧ self.checkEmergencyEscalation flag now = (self.escalate now, true))
      ∨ ((flag = false ∨ self.escalationDue now = false)
        ∧ self.checkEmergencyEscalation flag now = (self, false)) := by
  unfold checkEmergencyEscalation
  cases flag <;> cases self.escalationDue now <;> simp

/-- Escalation is due in fallback-safe mode, on a recorded entry that is old enough and was
not made for the kill switch.
-/
theorem escalationDue_iff (self : PolicyEngine F) (now : Instant)
    : self.escalationDue now = true
      ↔ self.mode = .fallbackSafe
        ∧ self.fallbackReason ≠ some .killSwitch
        ∧ ∃ enteredAt, self.fallbackEnteredAt = some enteredAt
            ∧ Duration.fromSecs fallbackEmergencyEscalationSecs ≤ elapsed now enteredAt := by
  unfold escalationDue
  cases self.fallbackEnteredAt <;> simp [and_assoc]

/-- A demotion steps down one mode; in observe and fallback-safe mode it does nothing. -/
theorem demote_cases (self : PolicyEngine F)
    : (self.mode = .enforce ∧ self.demote.1.mode = .canary)
      ∨ (self.mode = .canary ∧ self.demote.1.mode = .observe)
      ∨ ((self.mode = .observe ∨ self.mode = .fallbackSafe) ∧ self.demote.1 = self) := by
  unfold demote
  cases self.mode <;> simp [applyTransition]

/-- A promotion steps up one mode; in enforce and fallback-safe mode it does nothing. -/
theorem promote_cases (self : PolicyEngine F)
    : (self.mode = .observe ∧ self.promote.1.mode = .canary)
      ∨ (self.mode = .canary ∧ self.promote.1.mode = .enforce)
      ∨ ((self.mode = .enforce ∨ self.mode = .fallbackSafe) ∧ self.promote.1 = self) := by
  unfold promote
  cases self.mode <;> simp [applyTransition]

/-- A demotion keeps the configuration and the record of the last fallback. -/
theorem demote_frame (self : PolicyEngine F)
    : self.demote.1.config = self.config
      ∧ self.demote.1.preFallbackMode = self.preFallbackMode
      ∧ self.demote.1.fallbackReason = self.fallbackReason
      ∧ self.demote.1.fallbackEnteredAt = self.fallbackEnteredAt := by
  unfold demote
  cases self.mode <;> exact ⟨rfl, rfl, rfl, rfl⟩

/-- A promotion keeps the configuration and the record of the last fallback. -/
theorem promote_frame (self : PolicyEngine F)
    : self.promote.1.config = self.config
      ∧ self.promote.1.preFallbackMode = self.preFallbackMode
      ∧ self.promote.1.fallbackReason = self.fallbackReason
      ∧ self.promote.1.fallbackEnteredAt = self.fallbackEnteredAt := by
  unfold promote
  cases self.mode <;> exact ⟨rfl, rfl, rfl, rfl⟩

/-- A configuration update only replaces the configuration, unless it engages the kill
switch (entering fallback-safe mode, or recording the cause of a fallback that has none)
or releases it from the fallback recorded for it.
-/
theorem updateConfig_cases (self : PolicyEngine F) (newConfig : PolicyConfig F)
    (now : Instant)
    : (self.updateConfig newConfig now = { self with config := newConfig }
        ∧ (newConfig.killSwitch = true
          → self.config.killSwitch = true ∨ self.mode = .fallbackSafe))
      ∨ (self.config.killSwitch = false ∧ newConfig.killSwitch = true
        ∧ FallsBack { self with config := newConfig } (self.updateConfig newConfig now)
            .killSwitch now)
      ∨ (self.config.killSwitch = false ∧ newConfig.killSwitch = true
        ∧ self.mode = .fallbackSafe
        ∧ self.updateConfig newConfig now
          = { self with config := newConfig }.recordKillSwitch (self.totalFallbackEntries + 1))
      ∨ (self.config.killSwitch = true ∧ newConfig.killSwitch = false
        ∧ self.fallbackReason = some .killSwitch
        ∧ Recovers { self with config := newConfig } (self.updateConfig newConfig now)) := by
  unfold updateConfig engageKillSwitch disengageKillSwitch
  cases old : self.config.killSwitch <;> cases new : newConfig.killSwitch
  · exact Or.inl ⟨by simp, by simp⟩
  · by_cases inside : self.mode = .fallbackSafe
    · by_cases uncaused : self.fallbackReason = none
      · exact Or.inr (Or.inr (Or.inl ⟨rfl, rfl, inside, by simp [inside, uncaused]⟩))
      · exact Or.inl ⟨by simp [inside, uncaused], fun _ => Or.inr inside⟩
    · refine Or.inr (Or.inl ⟨rfl, rfl, ?_⟩)
      simpa [inside] using
        enterFallback_killSwitch { self with config := newConfig } now inside
  · by_cases held : self.mode = .fallbackSafe ∧ self.fallbackReason = some .killSwitch
    · refine Or.inr (Or.inr (Or.inr ⟨rfl, rfl, held.2, ?_⟩))
      simpa [held] using recoverFromFallback_recovers { self with config := newConfig } held.1
    · exact Or.inl ⟨by simp [held], by simp⟩
  · exact Or.inl ⟨by simp, fun _ => Or.inl rfl⟩

theorem new_config (config : PolicyConfig F) (start : Instant)
    : (new config start).config = config := by
  unfold new
  dsimp only
  split
  · split
    · rfl
    · rename_i outside
      exact (enterFallback_killSwitch _ start outside).config
  · rfl

/-- It takes up every configuration it is given later, whatever the kill switch does. -/
theorem updateConfig_config (self : PolicyEngine F) (newConfig : PolicyConfig F) (now : Instant)
    : (self.updateConfig newConfig now).config = newConfig := by
  rcases self.updateConfig_cases newConfig now with
    ⟨replaced, _⟩ | ⟨_, _, entry⟩ | ⟨_, _, _, recorded⟩ | ⟨_, _, _, recovery⟩
  · exact congrArg PolicyEngine.config replaced
  · exact entry.config
  · exact congrArg PolicyEngine.config recorded
  · exact recovery.config

/-- The guard triggers keep the mode or fall back for drift. -/
theorem checkGuardTriggers_cases (self : PolicyEngine F) (diag : GuardDiagnostics F)
    (now : Instant)
    : KeepsMode self (self.checkGuardTriggers diag now)
      ∨ FallsBack self (self.checkGuardTriggers diag now) .guardrailDrift now := by
  unfold checkGuardTriggers
  split
  · exact enterFallback_cases self .guardrailDrift now
  · exact Or.inl (.refl self)

theorem checkGuardTriggers_inside (self : PolicyEngine F) (diag : GuardDiagnostics F)
    (now : Instant) (inside : self.mode = .fallbackSafe)
    : self.checkGuardTriggers diag now = self := by
  simp [checkGuardTriggers, inside]

/-- The checks before a batch keep the mode or fall back. -/
theorem beforeEvaluation_cases (self : PolicyEngine F)
    (guard : Option (GuardDiagnostics F)) (now : Instant)
    : KeepsMode self (self.beforeEvaluation guard now)
      ∨ ∃ reason, FallsBack self (self.beforeEvaluation guard now) reason now := by
  unfold beforeEvaluation
  split
  · rename_i engaged
    have outside : self.mode ≠ .fallbackSafe := by
      intro inside
      simp [inside] at engaged
    have entry := enterFallback_killSwitch self now outside
    cases guard with
    | none => exact Or.inr ⟨_, entry⟩
    | some diag =>
        simp only [checkGuardTriggers_inside _ diag now entry.mode]
        exact Or.inr ⟨_, entry⟩
  · cases guard with
    | none => exact Or.inl (.refl self)
    | some diag => exact (checkGuardTriggers_cases self diag now).imp_right fun entry => ⟨_, entry⟩

variable [Float64 F]

/-- The effective action never moves the mode; canary mode only counts. -/
theorem enforcePolicy_keepsMode (self : PolicyEngine F) (candidate : CandidacyScore F)
    (guard : Option (GuardDiagnostics F)) (now : Instant)
    : KeepsMode self (self.enforcePolicy candidate guard now).1 := by
  have rotated : KeepsMode self (self.rotateCanaryHour now) := by
    unfold rotateCanaryHour
    split <;> exact ⟨rfl, rfl, rfl, rfl, rfl⟩
  unfold enforcePolicy
  split
  · exact .refl self
  · split
    · exact .refl self
    · split
      · exact .refl self
      · split
        · dsimp only
          split
          · exact rotated
          · exact rotated.trans ⟨rfl, rfl, rfl, rfl, rfl⟩
        · exact .refl self

theorem enforcePolicy_without_rights (self : PolicyEngine F) (candidate : CandidacyScore F)
    (guard : Option (GuardDiagnostics F)) (now : Instant)
    (denied : self.mode.allowsDeletion = false)
    : (self.enforcePolicy candidate guard now).2 ≠ .delete := by
  unfold enforcePolicy
  split
  · assumption
  · simp [denied]

theorem evaluateOne_keepsMode (self : PolicyEngine F) (policyMode : PolicyMode)
    (guard : Option (GuardDiagnostics F)) (now : Instant) (candidate : CandidacyScore F)
    : KeepsMode self (self.evaluateOne policyMode guard now candidate).1 :=
  (enforcePolicy_keepsMode self candidate guard now).trans ⟨rfl, rfl, rfl, rfl, rfl⟩

/-- What each evaluated candidate keeps the whole loop keeps, by induction on the candidates.
-/
theorem evaluateLoop_invariant {inv : PolicyEngine F → Tally F → Prop}
    {policyMode : PolicyMode} {guard : Option (GuardDiagnostics F)} {now : Instant}
    (kept : ∀ engine tally candidate, inv engine tally →
      let evaluated := engine.evaluateOne policyMode guard now candidate
      inv evaluated.1 (tally.add candidate evaluated.2.1 evaluated.2.2))
    (budget : Nat) (candidates : List (CandidacyScore F))
    {engine : PolicyEngine F} {tally : Tally F} (start : inv engine tally)
    : let looped := evaluateLoop policyMode guard now budget engine tally candidates
      inv looped.1 looped.2.1 := by
  induction candidates generalizing budget engine tally with
  | nil => cases budget <;> exact start
  | cons candidate rest ih =>
      cases budget with
      | zero => exact start
      | succ budget =>
          have one := kept engine tally candidate start
          simp only [evaluateLoop]
          split
          · exact one
          · exact ih budget one

theorem evaluateLoop_keepsMode (policyMode : PolicyMode)
    (guard : Option (GuardDiagnostics F)) (now : Instant) (budget : Nat)
    (engine : PolicyEngine F) (tally : Tally F) (candidates : List (CandidacyScore F))
    : KeepsMode engine (evaluateLoop policyMode guard now budget engine tally candidates).1 :=
  @evaluateLoop_invariant F _ (fun later _ => KeepsMode engine later) policyMode guard now
    (fun later _ candidate same =>
      same.trans (evaluateOne_keepsMode later policyMode guard now candidate))
    budget candidates engine tally (.refl engine)

/-- Without deletion rights the loop approves nothing beyond what was approved before it. -/
theorem evaluateLoop_without_rights (policyMode : PolicyMode)
    (guard : Option (GuardDiagnostics F)) (now : Instant) (budget : Nat)
    (engine : PolicyEngine F) (tally : Tally F) (candidates : List (CandidacyScore F))
    (denied : engine.mode.allowsDeletion = false)
    : (evaluateLoop policyMode guard now budget engine tally candidates).2.1.approved
      = tally.approved := by
  refine (@evaluateLoop_invariant F _
    (fun later counted =>
      later.mode.allowsDeletion = false ∧ counted.approved = tally.approved)
    policyMode guard now ?_ budget candidates engine tally ⟨denied, rfl⟩).2
  rintro later counted candidate ⟨denied, same⟩
  have kept := evaluateOne_keepsMode later policyMode guard now candidate
  refine ⟨kept.mode ▸ denied, ?_⟩
  have unapproved : (counted.add candidate
      (later.evaluateOne policyMode guard now candidate).2.1
      (later.evaluateOne policyMode guard now candidate).2.2).approved = counted.approved :=
    if_neg (enforcePolicy_without_rights later candidate guard now denied)
  exact unapproved.trans same

theorem evaluate_cases (self : PolicyEngine F) (candidates : List (CandidacyScore F))
    (guard : Option (GuardDiagnostics F)) (now : Instant)
    : KeepsMode self (self.evaluate candidates guard now).1
      ∨ ∃ reason, FallsBack self (self.evaluate candidates guard now).1 reason now := by
  have looped : KeepsMode (self.beforeEvaluation guard now)
      (self.evaluate candidates guard now).1 := evaluateLoop_keepsMode _ _ _ _ _ _ _
  rcases beforeEvaluation_cases self guard now with kept | ⟨reason, entry⟩
  · exact Or.inl (kept.trans looped)
  · exact Or.inr ⟨reason, entry.keeps looped⟩

/-- An evaluation that ends without deletion rights approved nothing. -/
theorem evaluate_without_rights (self : PolicyEngine F)
    (candidates : List (CandidacyScore F)) (guard : Option (GuardDiagnostics F))
    (now : Instant)
    (denied : (self.evaluate candidates guard now).1.mode.allowsDeletion = false)
    : (self.evaluate candidates guard now).2.approvedForDeletion = [] := by
  have looped : KeepsMode (self.beforeEvaluation guard now)
      (self.evaluate candidates guard now).1 := evaluateLoop_keepsMode _ _ _ _ _ _ _
  exact evaluateLoop_without_rights _ _ _ _ _ _ _ (looped.mode ▸ denied)

end StorageBallast.PolicyEngine
