import StorageBallast.Daemon.PolicyTransitions
import StorageBallast.Foundations.Runs

/-! The way back to enforce mode. A run is looked at from its most recent fallback entry on:
the engine's own record of that entry and its count of clean windows agree with what happened.
-/

namespace StorageBallast.PolicyEngine

open Runs

variable {F : Type}

/-- An entry into fallback-safe mode: when, from which mode, and the guard windows observed
since, clean or not.
-/
structure FallbackEntry where
  enteredAt : Instant
  leftMode : ActiveMode
  windows : List Bool

def window? (self : PolicyEngine F) (timed : TimedCall F) : Option Bool :=
  match timed.call with
  | .observeWindow guard =>
      if self.observationTooSoon timed.now then none else some (self.isCleanWindow guard)
  | _ => none

variable [Float64 F]

def Enters (self : PolicyEngine F) (timed : TimedCall F) : Prop :=
  self.mode ≠ .fallbackSafe ∧ (self.step timed).mode = .fallbackSafe

/-- The most recent fallback entry of a run from a new engine. The constructor of an engine
with an engaged kill switch is an entry as well.
-/
inductive LastEntry (config : PolicyConfig F) (start : Instant)
    : List (TimedCall F) → FallbackEntry → Prop
  | construction
    : config.initialMode ≠ .fallbackSafe
      → (new config start).mode = .fallbackSafe
      → LastEntry config start [] ⟨start, config.initialMode, []⟩
  | entered {past : List (TimedCall F)} {timed : TimedCall F}
    : (final step (new config start) past).Enters timed
      → LastEntry config start (past ++ [timed])
          ⟨timed.now, (final step (new config start) past).mode, []⟩
  | later {past : List (TimedCall F)} {timed : TimedCall F} {entry : FallbackEntry}
    : LastEntry config start past entry
      → ¬ (final step (new config start) past).Enters timed
      → LastEntry config start (past ++ [timed])
          { entry with
            windows := entry.windows
              ++ ((final step (new config start) past).window? timed).toList }

/-- In fallback-safe mode the count of clean windows is kept, and an entry starts it over. -/
def KeepsCount (before after : PolicyEngine F) : Prop :=
  after.mode = .fallbackSafe →
    after.consecutiveCleanWindows
      = if before.mode = .fallbackSafe then before.consecutiveCleanWindows else 0

omit [Float64 F] in
theorem KeepsCount.of_eq {before after : PolicyEngine F} (mode : after.mode = before.mode)
    (count : after.consecutiveCleanWindows = before.consecutiveCleanWindows)
    : KeepsCount before after := by
  intro inside
  rw [mode] at inside
  rw [if_pos inside, count]

omit [Float64 F] in
theorem noteSuppression_count (self : PolicyEngine F) (now : Instant)
    : (self.noteSuppression now).consecutiveCleanWindows = self.consecutiveCleanWindows := by
  unfold noteSuppression
  split <;> rfl

omit [Float64 F] in
theorem enterFallbackAfterGrace_count (self : PolicyEngine F) (reason : FallbackReason)
    (now : Instant) (outside : self.mode ≠ .fallbackSafe)
    : KeepsCount self (self.enterFallbackAfterGrace reason now) := by
  unfold enterFallbackAfterGrace
  split
  · exact .of_eq (self.noteSuppression_keepsMode now).mode (self.noteSuppression_count now)
  · intro _
    rw [if_neg outside]
    rfl

omit [Float64 F] in
theorem enterFallback_count (self : PolicyEngine F) (reason : FallbackReason)
    (now : Instant)
    : KeepsCount self (self.enterFallback reason now) := by
  unfold enterFallback
  split
  · exact .of_eq rfl rfl
  · rename_i outside
    split
    · intro _
      rw [if_neg outside]
      rfl
    · split
      · split
        · exact .of_eq (self.noteSuppression_keepsMode now).mode (self.noteSuppression_count now)
        · exact enterFallbackAfterGrace_count { self with emergencyEscalatedAt := none } reason
            now outside
      · exact enterFallbackAfterGrace_count self reason now outside

omit [Float64 F] in
theorem checkGuardTriggers_count (self : PolicyEngine F) (diag : GuardDiagnostics F)
    (now : Instant)
    : KeepsCount self (self.checkGuardTriggers diag now) := by
  unfold checkGuardTriggers
  split
  · exact enterFallback_count self .guardrailDrift now
  · exact .of_eq rfl rfl

omit [Float64 F] in
theorem beforeEvaluation_count (self : PolicyEngine F) (guard : Option (GuardDiagnostics F))
    (now : Instant)
    : KeepsCount self (self.beforeEvaluation guard now) := by
  unfold beforeEvaluation
  split
  · rename_i engaged
    have outside : self.mode ≠ .fallbackSafe := by
      intro inside
      simp [inside] at engaged
    have entry := enterFallback_killSwitch self now outside
    cases guard with
    | none => exact enterFallback_count self .killSwitch now
    | some diag =>
        simp only [checkGuardTriggers_inside _ diag now entry.mode]
        exact enterFallback_count self .killSwitch now
  · cases guard with
    | none => exact .of_eq rfl rfl
    | some diag => exact checkGuardTriggers_count self diag now

theorem evaluateOne_count (self : PolicyEngine F) (policyMode : PolicyMode)
    (guard : Option (GuardDiagnostics F)) (now : Instant) (candidate : CandidacyScore F)
    : (self.evaluateOne policyMode guard now candidate).1.consecutiveCleanWindows
      = self.consecutiveCleanWindows := by
  change (self.enforcePolicy candidate guard now).1.consecutiveCleanWindows = _
  have rotated : (self.rotateCanaryHour now).consecutiveCleanWindows
      = self.consecutiveCleanWindows := by
    unfold rotateCanaryHour
    split <;> rfl
  unfold enforcePolicy
  dsimp only
  split_ifs
  · rfl
  · rfl
  · rfl
  · exact rotated
  · exact rotated
  · rfl

theorem evaluate_count (self : PolicyEngine F) (candidates : List (CandidacyScore F))
    (guard : Option (GuardDiagnostics F)) (now : Instant)
    : KeepsCount self (self.evaluate candidates guard now).1 := by
  let ready := self.beforeEvaluation guard now
  have looped : (self.evaluate candidates guard now).1.mode = ready.mode
      ∧ (self.evaluate candidates guard now).1.consecutiveCleanWindows
        = ready.consecutiveCleanWindows :=
    @evaluateLoop_invariant F _
      (fun later _ => later.mode = ready.mode
        ∧ later.consecutiveCleanWindows = ready.consecutiveCleanWindows)
      ready.mode.toPolicyMode guard now
      (fun later _ candidate same =>
        ⟨(evaluateOne_keepsMode later _ guard now candidate).mode.trans same.1,
          (evaluateOne_count later _ guard now candidate).trans same.2⟩)
      _ candidates ready .empty ⟨rfl, rfl⟩
  intro inside
  rw [looped.2]
  exact beforeEvaluation_count self guard now (looped.1.symm.trans inside)

omit [Float64 F] in
theorem updateConfig_count (self : PolicyEngine F) (config : PolicyConfig F) (now : Instant)
    : KeepsCount self (self.updateConfig config now) := by
  let replaced := { self with config }
  have engaged (old new : Bool) : KeepsCount self (replaced.engageKillSwitch old new now) := by
    unfold engageKillSwitch
    split
    · split
      · exact enterFallback_count replaced .killSwitch now
      · split <;> exact .of_eq rfl rfl
    · exact .of_eq rfl rfl
  unfold updateConfig disengageKillSwitch
  dsimp only
  split
  · rename_i held
    intro _
    exact engaged _ _ held.2.2.1
  · exact engaged _ _

/-- The engine's record agrees with an entry: its time, the mode it left, and as many clean
windows at the end as the engine counts.
-/
structure Tracks (engine : PolicyEngine F) (entry : FallbackEntry) : Prop where
  enteredAt : engine.fallbackEnteredAt = some entry.enteredAt
  leftMode : engine.preFallbackMode = entry.leftMode
  outside : entry.leftMode ≠ .fallbackSafe
  clean : ∃ earlier,
    entry.windows = earlier ++ List.replicate engine.consecutiveCleanWindows true

/-- An engine that was configured to start in fallback-safe mode has no entry, and no mode to
recover to.
-/
structure NeverEntered (engine : PolicyEngine F) : Prop where
  enteredAt : engine.fallbackEnteredAt = none
  preFallbackMode : engine.preFallbackMode = .fallbackSafe

theorem step_enterFallback (self : PolicyEngine F) (reason : FallbackReason) (now : Instant)
    : self.step ⟨now, .enterFallback reason⟩ = self.enterFallback reason now := rfl

theorem step_checkEmergencyEscalation (self : PolicyEngine F) (flag : Bool) (now : Instant)
    : self.step ⟨now, .checkEmergencyEscalation flag⟩
      = (self.checkEmergencyEscalation flag now).1 := rfl

theorem step_promote (self : PolicyEngine F) (now : Instant)
    : self.step ⟨now, .promote⟩ = self.promote.1 := rfl

theorem step_demote (self : PolicyEngine F) (now : Instant)
    : self.step ⟨now, .demote⟩ = self.demote.1 := rfl

theorem step_updateConfig (self : PolicyEngine F) (config : PolicyConfig F) (now : Instant)
    : self.step ⟨now, .updateConfig config⟩ = self.updateConfig config now := rfl

theorem step_count (self : PolicyEngine F) (timed : TimedCall F)
    (other : ∀ guard, timed.call ≠ .observeWindow guard)
    : KeepsCount self (self.step timed) := by
  obtain ⟨now, call⟩ := timed
  cases call with
  | evaluate candidates guard => exact evaluate_count self candidates guard now
  | observeWindow guard => exact absurd rfl (other guard)
  | enterFallback reason => exact enterFallback_count self reason now
  | checkEmergencyEscalation flag =>
      rcases checkEmergencyEscalation_cases self flag now with ⟨_, _, done⟩ | ⟨_, done⟩
      · intro inside
        rw [step_checkEmergencyEscalation, done] at inside
        cases inside
      · rw [step_checkEmergencyEscalation, done]
        exact .of_eq rfl rfl
  | setPressureLevel level => exact .of_eq rfl rfl
  | promote =>
      intro inside
      rcases promote_cases self with ⟨_, moved⟩ | ⟨_, moved⟩ | ⟨_, same⟩
      · cases moved.symm.trans inside
      · cases moved.symm.trans inside
      · rw [step_promote, same] at inside ⊢
        rw [if_pos inside]
  | demote =>
      intro inside
      rcases demote_cases self with ⟨_, moved⟩ | ⟨_, moved⟩ | ⟨_, same⟩
      · cases moved.symm.trans inside
      · cases moved.symm.trans inside
      · rw [step_demote, same] at inside ⊢
        rw [if_pos inside]
  | updateConfig config => exact updateConfig_count self config now

omit [Float64 F] in
/-- A clean window is counted, one that is not starts the count over. -/
theorem observeWindow_count (self : PolicyEngine F) (guard : GuardDiagnostics F)
    (now : Instant)
    : (self.observeWindow guard now).consecutiveCleanWindows
      = match self.window? ⟨now, .observeWindow guard⟩ with
        | none => self.consecutiveCleanWindows
        | some true => self.consecutiveCleanWindows + 1
        | some false => 0 := by
  unfold observeWindow window?
  dsimp only
  cases soon : self.observationTooSoon now with
  | true => rfl
  | false =>
      obtain ⟨stamp, stamped⟩ := stampObservation_eq self now
      simp only [stamped, Bool.false_eq_true, if_false]
      change (if self.isCleanWindow guard then _ else _ : PolicyEngine F).consecutiveCleanWindows
        = _
      cases clean : self.isCleanWindow guard with
      | true =>
          simp only [if_true]
          unfold cleanWindow
          dsimp only
          split <;> rfl
      | false =>
          simp only [Bool.false_eq_true, if_false]
          unfold uncleanWindow
          split
          · split <;> rfl
          · rfl

def KeepsRecord (before after : PolicyEngine F) : Prop :=
  after.preFallbackMode = before.preFallbackMode
  ∧ (after.fallbackEnteredAt = before.fallbackEnteredAt
    ∨ (before.preFallbackMode = .fallbackSafe ∧ after.fallbackEnteredAt = none))

omit [Float64 F] in
theorem KeepsMode.record {before after : PolicyEngine F} (kept : KeepsMode before after)
    : KeepsRecord before after :=
  ⟨kept.preFallbackMode, Or.inl kept.fallbackEnteredAt⟩

omit [Float64 F] in
/-- A recovery that stays in fallback-safe mode had no mode to recover to. -/
theorem Recovers.record {before after : PolicyEngine F} (recovery : Recovers before after)
    (inside : after.mode = .fallbackSafe)
    : KeepsRecord before after := by
  have target := recovery.mode.symm.trans inside
  exact ⟨recovery.preFallbackMode,
    Or.inr ⟨before.recoveryTarget_eq_fallbackSafe_iff.mp target, recovery.fallbackEnteredAt⟩⟩

/-- A call that stays in fallback-safe mode keeps the record, by cases on the call. -/
theorem step_inside (self : PolicyEngine F) (timed : TimedCall F)
    (before : self.mode = .fallbackSafe) (after : (self.step timed).mode = .fallbackSafe)
    : KeepsRecord self (self.step timed) := by
  obtain ⟨now, call⟩ := timed
  cases call with
  | evaluate candidates guard =>
      rcases evaluate_cases self candidates guard now with kept | ⟨_, entry⟩
      · exact kept.record
      · exact absurd before entry.outside
  | observeWindow guard =>
      rcases observeWindow_cases self guard now with ⟨_, recovery⟩ | ⟨_, kept⟩
      · exact recovery.record after
      · exact kept.record
  | enterFallback reason =>
      rw [step_enterFallback, enterFallback_inside self reason now before]
      exact (KeepsMode.refl self).record
  | checkEmergencyEscalation flag =>
      rcases checkEmergencyEscalation_cases self flag now with ⟨_, _, done⟩ | ⟨_, done⟩
      · rw [step_checkEmergencyEscalation, done] at after
        cases after
      · rw [step_checkEmergencyEscalation, done]
        exact (KeepsMode.refl self).record
  | setPressureLevel level => exact ⟨rfl, Or.inl rfl⟩
  | promote =>
      obtain ⟨_, previous, _, entered⟩ := promote_frame self
      exact ⟨previous, Or.inl entered⟩
  | demote =>
      obtain ⟨_, previous, _, entered⟩ := demote_frame self
      exact ⟨previous, Or.inl entered⟩
  | updateConfig config =>
      rcases updateConfig_cases self config now with
        ⟨same, _⟩ | ⟨_, _, entry⟩ | ⟨_, _, _, recorded⟩ | ⟨_, _, _, recovery⟩
      · rw [step_updateConfig, same]
        exact ⟨rfl, Or.inl rfl⟩
      · exact absurd before entry.outside
      · rw [step_updateConfig, recorded]
        exact ⟨rfl, Or.inl rfl⟩
      · exact recovery.record after

/-- A call that enters fallback-safe mode is a fallback, by cases on the call. -/
theorem step_enters {self : PolicyEngine F} {timed : TimedCall F} (enters : self.Enters timed)
    : (self.step timed).preFallbackMode = self.mode
      ∧ (self.step timed).fallbackEnteredAt = some timed.now
      ∧ (self.step timed).consecutiveCleanWindows = 0 := by
  obtain ⟨outside, inside⟩ := enters
  have fallen {reason : FallbackReason} {middle : PolicyEngine F}
      (sameMode : middle.mode = self.mode)
      (entry : FallsBack middle (self.step timed) reason timed.now)
      : (self.step timed).preFallbackMode = self.mode
        ∧ (self.step timed).fallbackEnteredAt = some timed.now :=
    ⟨entry.preFallbackMode.trans sameMode, entry.fallbackEnteredAt⟩
  have stays {middle : PolicyEngine F} (kept : KeepsMode middle (self.step timed))
      (sameMode : middle.mode = self.mode) : False :=
    outside (sameMode.symm.trans (kept.mode.symm.trans inside))
  have count (other : ∀ guard, timed.call ≠ .observeWindow guard)
      : (self.step timed).consecutiveCleanWindows = 0 := by
    rw [step_count self timed other inside, if_neg outside]
  obtain ⟨now, call⟩ := timed
  cases call with
  | evaluate candidates guard =>
      rcases evaluate_cases self candidates guard now with kept | ⟨_, entry⟩
      · exact (stays kept rfl).elim
      · obtain ⟨previous, entered⟩ := fallen rfl entry
        exact ⟨previous, entered, count (by simp)⟩
  | observeWindow guard =>
      rcases observeWindow_cases self guard now with ⟨due, _⟩ | ⟨_, kept⟩
      · exact absurd due.2.2.1 outside
      · exact (stays kept rfl).elim
  | enterFallback reason =>
      rcases enterFallback_cases self reason now with kept | entry
      · exact (stays kept rfl).elim
      · obtain ⟨previous, entered⟩ := fallen rfl entry
        exact ⟨previous, entered, count (by simp)⟩
  | checkEmergencyEscalation flag =>
      rcases checkEmergencyEscalation_cases self flag now with ⟨_, _, done⟩ | ⟨_, done⟩
      · rw [step_checkEmergencyEscalation, done] at inside
        cases inside
      · rw [step_checkEmergencyEscalation, done] at inside
        exact absurd inside outside
  | setPressureLevel level => exact absurd inside outside
  | promote =>
      rcases promote_cases self with ⟨_, moved⟩ | ⟨_, moved⟩ | ⟨_, same⟩
      · cases moved.symm.trans inside
      · cases moved.symm.trans inside
      · rw [step_promote, same] at inside
        exact absurd inside outside
  | demote =>
      rcases demote_cases self with ⟨_, moved⟩ | ⟨_, moved⟩ | ⟨_, same⟩
      · cases moved.symm.trans inside
      · cases moved.symm.trans inside
      · rw [step_demote, same] at inside
        exact absurd inside outside
  | updateConfig config =>
      rcases updateConfig_cases self config now with
        ⟨same, _⟩ | ⟨_, _, entry⟩ | ⟨_, _, within, _⟩ | ⟨_, _, _, recovery⟩
      · rw [step_updateConfig, same] at inside
        exact absurd inside outside
      · obtain ⟨previous, entered⟩ := @fallen .killSwitch { self with config } rfl entry
        exact ⟨previous, entered, count (by simp)⟩
      · exact absurd within outside
      · exact absurd recovery.inside outside

/-- In fallback-safe mode the engine tracks the run's last entry, if there ever was one. -/
def RecordAgrees (config : PolicyConfig F) (start : Instant) (past : List (TimedCall F))
    (self : PolicyEngine F) : Prop :=
  self.mode = .fallbackSafe →
    (∃ entry, LastEntry config start past entry ∧ self.Tracks entry) ∨ self.NeverEntered

omit [Float64 F] in
theorem enterFallback_killSwitch_tracks (self : PolicyEngine F) (now : Instant)
    (outside : self.mode ≠ .fallbackSafe)
    : (self.enterFallback .killSwitch now).Tracks ⟨now, self.mode, []⟩ := by
  have entry := enterFallback_killSwitch self now outside
  have count := enterFallback_count self .killSwitch now entry.mode
  rw [if_neg outside] at count
  refine ⟨entry.fallbackEnteredAt, entry.preFallbackMode, outside, [], ?_⟩
  rw [count]
  rfl

theorem new_recordAgrees (config : PolicyConfig F) (start : Instant)
    : RecordAgrees config start [] (new config start) := by
  intro inside
  by_cases outside : config.initialMode = .fallbackSafe
  · right
    unfold new
    dsimp only
    split
    · exact ⟨rfl, outside⟩
    · exact ⟨rfl, outside⟩
  · left
    refine ⟨_, .construction outside inside, ?_⟩
    unfold new at inside ⊢
    cases engaged : config.killSwitch with
    | true =>
        simp only [if_true, if_neg outside]
        exact enterFallback_killSwitch_tracks _ start outside
    | false =>
        simp only [engaged, Bool.false_eq_true, if_false] at inside
        exact absurd inside outside

omit [Float64 F] in
/-- The windows of an entry follow the engine's count through one more window. -/
theorem tracks_window {self after : PolicyEngine F} {entry : FallbackEntry} {window : Option Bool}
    (tracks : self.Tracks entry)
    (previous : after.preFallbackMode = self.preFallbackMode)
    (entered : after.fallbackEnteredAt = self.fallbackEnteredAt)
    (count : after.consecutiveCleanWindows
      = match window with
        | none => self.consecutiveCleanWindows
        | some true => self.consecutiveCleanWindows + 1
        | some false => 0)
    : after.Tracks { entry with windows := entry.windows ++ window.toList } := by
  obtain ⟨enteredAt, leftMode, outside, earlier, windows⟩ := tracks
  refine ⟨entered.trans enteredAt, previous.trans leftMode, outside, ?_⟩
  rw [count]
  rcases window with _ | _ | _
  · exact ⟨earlier, by simp [windows]⟩
  · exact ⟨entry.windows ++ [false], by simp⟩
  · exact ⟨earlier, by simp [windows, List.replicate_succ']⟩

/-- Every call keeps the record in agreement, by cases on whether it enters. -/
theorem step_recordAgrees {config : PolicyConfig F} {start : Instant}
    {past : List (TimedCall F)} {timed : TimedCall F}
    (agrees : RecordAgrees config start past (final step (new config start) past))
    : RecordAgrees config start (past ++ [timed])
        ((final step (new config start) past).step timed) := by
  let engine := final step (new config start) past
  intro inside
  by_cases outside : engine.mode = .fallbackSafe
  · have stays : ¬ engine.Enters timed := fun enters => enters.1 outside
    obtain ⟨previous, record⟩ := step_inside engine timed outside inside
    rcases agrees outside with ⟨entry, last, tracks⟩ | never
    · left
      refine ⟨_, .later last stays, ?_⟩
      have entered : (engine.step timed).fallbackEnteredAt = engine.fallbackEnteredAt := by
        rcases record with same | ⟨nowhere, _⟩
        · exact same
        · exact absurd (tracks.leftMode.symm.trans nowhere) tracks.outside
      apply tracks_window tracks previous entered
      cases observed : timed.call with
      | observeWindow guard =>
          obtain ⟨now, call⟩ := timed
          cases observed
          exact observeWindow_count engine guard now
      | _ =>
          have other : ∀ guard, timed.call ≠ .observeWindow guard := by simp [observed]
          have quiet : engine.window? timed = none := by simp [window?, observed]
          have count := step_count engine timed other inside
          rw [if_pos outside] at count
          simp only [engine] at quiet
          rw [quiet]
          exact count
    · right
      refine ⟨?_, previous.trans never.preFallbackMode⟩
      rcases record with same | ⟨_, none⟩
      · exact same.trans never.enteredAt
      · exact none
  · left
    have enters : engine.Enters timed := ⟨outside, inside⟩
    obtain ⟨previous, entered, count⟩ := step_enters enters
    refine ⟨_, .entered enters, entered, previous, outside, [], ?_⟩
    rw [count]
    rfl

theorem recordAgrees (config : PolicyConfig F) (start : Instant) (past : List (TimedCall F))
    : RecordAgrees config start past (final step (new config start) past) :=
  history_invariant (new_recordAgrees config start)
    (fun _ _ agrees => step_recordAgrees agrees) past

def cappedAtCanary : ActiveMode → ActiveMode
  | .enforce => .canary
  | other => other

/-- The last `count` windows observed since an entry were all clean. -/
def EndsClean (windows : List Bool) (count : Nat) : Prop :=
  ∃ earlier, windows = earlier ++ List.replicate count true

/-- What is asked of the call that follows a run. A call into enforce mode is a promotion
from canary mode or a late enough escalation; an observation out of fallback-safe mode
completes the clean windows and comes late enough after the entry, and lands below enforce.
-/
structure KeepsGate (config : PolicyConfig F) (start : Instant) (past : List (TimedCall F))
    (timed : TimedCall F) : Prop where
  enforce
    : (final step (new config start) past).mode ≠ .enforce
      → ((final step (new config start) past).step timed).mode = .enforce
      → (timed.call = .promote ∧ (final step (new config start) past).mode = .canary)
        ∨ ((∃ flag, timed.call = .checkEmergencyEscalation flag)
          ∧ (final step (new config start) past).mode = .fallbackSafe
          ∧ ∃ entry, LastEntry config start past entry
              ∧ Duration.fromSecs 300 ≤ elapsed timed.now entry.enteredAt)
  recover
    : (final step (new config start) past).mode = .fallbackSafe
      → (∃ guard, timed.call = .observeWindow guard)
      → ((final step (new config start) past).step timed).mode ≠ .fallbackSafe
      → ∃ entry, LastEntry config start past entry
          ∧ EndsClean
              (entry.windows ++ ((final step (new config start) past).window? timed).toList)
              (final step (new config start) past).config.recoveryCleanWindows
          ∧ Duration.fromSecs (final step (new config start) past).config.minFallbackSecs
              ≤ elapsed timed.now entry.enteredAt
          ∧ ((final step (new config start) past).step timed).mode
              = cappedAtCanary entry.leftMode

/-- Only a promotion and an escalation lead into enforce mode, by cases on the call. -/
theorem step_enforce {self : PolicyEngine F} {timed : TimedCall F}
    (before : self.mode ≠ .enforce) (after : (self.step timed).mode = .enforce)
    : (timed.call = .promote ∧ self.mode = .canary)
      ∨ ((∃ flag, timed.call = .checkEmergencyEscalation flag)
        ∧ self.escalationDue timed.now = true) := by
  obtain ⟨now, call⟩ := timed
  cases call with
  | evaluate candidates guard =>
      rcases evaluate_cases self candidates guard now with kept | ⟨_, entry⟩
      · exact absurd (kept.mode.symm.trans after) before
      · cases entry.mode.symm.trans after
  | observeWindow guard =>
      rcases observeWindow_cases self guard now with ⟨_, recovery⟩ | ⟨_, kept⟩
      · exact absurd (recovery.mode.symm.trans after) self.recoveryTarget_ne_enforce
      · exact absurd (kept.mode.symm.trans after) before
  | enterFallback reason =>
      rcases enterFallback_cases self reason now with kept | entry
      · exact absurd (kept.mode.symm.trans after) before
      · cases entry.mode.symm.trans after
  | checkEmergencyEscalation flag =>
      rcases checkEmergencyEscalation_cases self flag now with ⟨_, due, _⟩ | ⟨_, done⟩
      · exact Or.inr ⟨⟨flag, rfl⟩, due⟩
      · rw [step_checkEmergencyEscalation, done] at after
        exact absurd after before
  | setPressureLevel level => exact absurd after before
  | promote =>
      rcases promote_cases self with ⟨_, moved⟩ | ⟨canary, _⟩ | ⟨_, same⟩
      · cases moved.symm.trans after
      · exact Or.inl ⟨rfl, canary⟩
      · rw [step_promote, same] at after
        exact absurd after before
  | demote =>
      rcases demote_cases self with ⟨_, moved⟩ | ⟨_, moved⟩ | ⟨_, same⟩
      · cases moved.symm.trans after
      · cases moved.symm.trans after
      · rw [step_demote, same] at after
        exact absurd after before
  | updateConfig config =>
      rcases updateConfig_cases self config now with
        ⟨same, _⟩ | ⟨_, _, entry⟩ | ⟨_, _, inside, recorded⟩ | ⟨_, _, _, recovery⟩
      · rw [step_updateConfig, same] at after
        exact absurd after before
      · cases entry.mode.symm.trans after
      · rw [step_updateConfig, recorded] at after
        cases inside.symm.trans after
      · exact absurd (recovery.mode.symm.trans after) (recoveryTarget_ne_enforce _)

omit [Float64 F] in
theorem recoveryDue_window {self : PolicyEngine F} {guard : GuardDiagnostics F} {now : Instant}
    (due : self.recoveryDue guard now)
    : self.window? ⟨now, .observeWindow guard⟩ = some true := by
  obtain ⟨processed, clean, _⟩ := due
  simp [window?, processed, clean]

/-- Every call of every run keeps the gate: the record the engine decides by agrees with what
happened since the last entry.
-/
theorem keepsGate (config : PolicyConfig F) (start : Instant) (past : List (TimedCall F))
    (timed : TimedCall F)
    : KeepsGate config start past timed := by
  let engine := final step (new config start) past
  have agrees := recordAgrees config start past
  constructor
  · intro before after
    rcases step_enforce before after with promoted | ⟨call, due⟩
    · exact Or.inl promoted
    · obtain ⟨inside, _, enteredAt, known, late⟩ := (escalationDue_iff engine timed.now).mp due
      rcases agrees inside with ⟨entry, last, tracks⟩ | never
      · cases known.symm.trans tracks.enteredAt
        exact Or.inr ⟨call, inside, entry, last, late⟩
      · cases known.symm.trans never.enteredAt
  · rintro inside ⟨guard, observed⟩ outside
    obtain ⟨now, call⟩ := timed
    cases observed
    rcases observeWindow_cases engine guard now with ⟨due, recovery⟩ | ⟨_, kept⟩
    · have window := recoveryDue_window due
      obtain ⟨_, _, _, enough, cooled⟩ := due
      rcases agrees inside with ⟨entry, last, tracks⟩ | never
      · refine ⟨entry, last, ?_, ?_, ?_⟩
        · obtain ⟨earlier, windows⟩ := tracks.clean
          have longer : List.replicate (engine.consecutiveCleanWindows + 1) true
              = List.replicate (engine.consecutiveCleanWindows + 1
                  - engine.config.recoveryCleanWindows) true
                ++ List.replicate engine.config.recoveryCleanWindows true := by
            rw [List.replicate_append_replicate, Nat.sub_add_cancel enough]
          refine ⟨earlier ++ List.replicate (engine.consecutiveCleanWindows + 1
            - engine.config.recoveryCleanWindows) true, ?_⟩
          rw [List.append_assoc, ← longer, List.replicate_succ', ← List.append_assoc, ← windows]
          exact congrArg (entry.windows ++ ·.toList) window
        · have known : engine.fallbackEnteredAt = some entry.enteredAt := tracks.enteredAt
          rw [fallbackCooldownOver, known] at cooled
          exact of_decide_eq_true cooled
        · apply recovery.mode.trans
          rw [recoveryTarget, tracks.leftMode]
          cases entry.leftMode <;> rfl
      · refine absurd (recovery.mode.trans ?_) outside
        exact engine.recoveryTarget_eq_fallbackSafe_iff.mpr never.preFallbackMode
    · exact absurd (kept.mode.trans inside) outside

end StorageBallast.PolicyEngine
