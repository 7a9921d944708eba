import StorageBallast.Daemon.KillSwitch
import StorageBallast.Foundations.Windows

/-! The hourly budget of canary mode: a limiter with a fixed window, which is renewed by the
first canary deletion looked at once it has lasted an hour.
-/

namespace StorageBallast.PolicyEngine

open Runs FixedWindows

variable {F : Type}

def SameHour (before after : PolicyEngine F) : Prop :=
  after.canaryHourStart = before.canaryHourStart
  ∧ after.canaryDeletesThisHour = before.canaryDeletesThisHour

theorem noteSuppression_sameHour (self : PolicyEngine F) (now : Instant)
    : SameHour self (self.noteSuppression now) := by
  unfold noteSuppression
  split <;> exact ⟨rfl, rfl⟩

theorem enterFallbackAfterGrace_sameHour (self : PolicyEngine F) (reason : FallbackReason)
    (now : Instant)
    : SameHour self (self.enterFallbackAfterGrace reason now) := by
  unfold enterFallbackAfterGrace
  split
  · exact noteSuppression_sameHour self now
  · exact ⟨rfl, rfl⟩

theorem enterFallback_sameHour (self : PolicyEngine F) (reason : FallbackReason)
    (now : Instant)
    : SameHour self (self.enterFallback reason now) := by
  unfold enterFallback
  split
  · exact ⟨rfl, rfl⟩
  · split
    · exact ⟨rfl, rfl⟩
    · split
      · split
        · exact noteSuppression_sameHour self now
        · exact enterFallbackAfterGrace_sameHour { self with emergencyEscalatedAt := none } reason
            now
      · exact enterFallbackAfterGrace_sameHour self reason now

theorem checkGuardTriggers_sameHour (self : PolicyEngine F) (diag : GuardDiagnostics F)
    (now : Instant)
    : SameHour self (self.checkGuardTriggers diag now) := by
  unfold checkGuardTriggers
  split
  · exact enterFallback_sameHour self .guardrailDrift now
  · exact ⟨rfl, rfl⟩

theorem SameHour.trans {first second third : PolicyEngine F} (front : SameHour first second)
    (back : SameHour second third)
    : SameHour first third :=
  ⟨back.1.trans front.1, back.2.trans front.2⟩

theorem beforeEvaluation_sameHour (self : PolicyEngine F)
    (guard : Option (GuardDiagnostics F)) (now : Instant)
    : SameHour self (self.beforeEvaluation guard now) := by
  let checked :=
    if self.config.killSwitch && self.mode != .fallbackSafe then
      self.enterFallback .killSwitch now
    else self
  have kept : SameHour self checked := by
    unfold checked
    split
    · exact enterFallback_sameHour self .killSwitch now
    · exact ⟨rfl, rfl⟩
  cases guard with
  | none => exact kept
  | some diag => exact kept.trans (checkGuardTriggers_sameHour checked diag now)

theorem observeWindow_sameHour (self : PolicyEngine F) (guard : GuardDiagnostics F)
    (now : Instant)
    : SameHour self (self.observeWindow guard now) := by
  unfold observeWindow
  split
  · exact ⟨rfl, rfl⟩
  · obtain ⟨stamp, stamped⟩ := stampObservation_eq self now
    rw [stamped]
    dsimp only
    split
    · unfold cleanWindow
      dsimp only
      split <;> exact ⟨rfl, rfl⟩
    · unfold uncleanWindow
      split
      · split <;> exact ⟨rfl, rfl⟩
      · exact ⟨rfl, rfl⟩

theorem updateConfig_sameHour (self : PolicyEngine F) (config : PolicyConfig F)
    (now : Instant)
    : SameHour self (self.updateConfig config now) := by
  have engaged (old new : Bool)
      : SameHour self ({ self with config }.engageKillSwitch old new now) := by
    unfold engageKillSwitch
    split
    · split
      · exact enterFallback_sameHour { self with config } .killSwitch now
      · split <;> exact ⟨rfl, rfl⟩
    · exact ⟨rfl, rfl⟩
  unfold updateConfig disengageKillSwitch
  dsimp only
  split <;> exact engaged _ _

theorem new_hour (config : PolicyConfig F) (start : Instant)
    : (new config start).canaryHourStart = start
      ∧ (new config start).canaryDeletesThisHour = 0 := by
  unfold new
  dsimp only
  split
  · split
    · exact ⟨rfl, rfl⟩
    · exact enterFallback_sameHour _ .killSwitch start
  · exact ⟨rfl, rfl⟩

variable [Float64 F]

/-- Every call but an evaluation leaves the canary hour alone, by cases on the call. -/
theorem step_sameHour (self : PolicyEngine F) (timed : TimedCall F)
    (other : ∀ candidates guard, timed.call ≠ .evaluate candidates guard)
    : SameHour self (self.step timed) := by
  obtain ⟨now, call⟩ := timed
  cases call with
  | evaluate candidates guard => exact absurd rfl (other candidates guard)
  | observeWindow guard => exact observeWindow_sameHour self guard now
  | enterFallback reason => exact enterFallback_sameHour self reason now
  | checkEmergencyEscalation flag =>
      rcases checkEmergencyEscalation_cases self flag now with ⟨_, _, done⟩ | ⟨_, done⟩
      · change SameHour self (self.checkEmergencyEscalation flag now).1
        rw [done]
        exact ⟨rfl, rfl⟩
      · change SameHour self (self.checkEmergencyEscalation flag now).1
        rw [done]
        exact ⟨rfl, rfl⟩
  | setPressureLevel level => exact ⟨rfl, rfl⟩
  | promote =>
      change SameHour self self.promote.1
      unfold promote
      split <;> exact ⟨rfl, rfl⟩
  | demote =>
      change SameHour self self.demote.1
      unfold demote
      split <;> exact ⟨rfl, rfl⟩
  | updateConfig config => exact updateConfig_sameHour self config now

/-- The deletions a call approves in canary mode, each with the start of its canary hour. -/
def canaryGrants (self : PolicyEngine F) (timed : TimedCall F) : List Grant :=
  match self.decision? timed with
  | some decision =>
      if decision.mode = .canary then
        List.replicate decision.approvedForDeletion.length
          ⟨(self.step timed).canaryHourStart, timed.now⟩
      else []
  | none => []

/-- Outside canary mode the effective action leaves the engine as it is. -/
theorem enforcePolicy_outside (self : PolicyEngine F) (candidate : CandidacyScore F)
    (guard : Option (GuardDiagnostics F)) (now : Instant) (outside : self.mode ≠ .canary)
    : (self.enforcePolicy candidate guard now).1 = self := by
  unfold enforcePolicy
  split_ifs <;> rfl

/-- In canary mode a deletion is let through if there is budget left after the renewal that
may be due, and nothing else is counted.
-/
theorem enforcePolicy_canary (self : PolicyEngine F) (candidate : CandidacyScore F)
    (guard : Option (GuardDiagnostics F)) (now : Instant) (inside : self.mode = .canary)
    : let rotated := self.rotateCanaryHour now
      let enforced := self.enforcePolicy candidate guard now
      (enforced.2 ≠ .delete ∧ (enforced.1 = self ∨ enforced.1 = rotated))
      ∨ (enforced.2 = .delete
        ∧ rotated.canaryDeletesThisHour < rotated.config.maxCanaryDeletesPerHour
        ∧ enforced.1
          = { rotated with canaryDeletesThisHour := rotated.canaryDeletesThisHour + 1 }) := by
  unfold enforcePolicy
  dsimp only
  split_ifs with proposed allowed vetoed spent
  · exact Or.inl ⟨proposed, Or.inl rfl⟩
  · exact Or.inl ⟨by simp, Or.inl rfl⟩
  · exact Or.inl ⟨by simp, Or.inl rfl⟩
  · exact Or.inl ⟨by simp, Or.inr rfl⟩
  · exact Or.inr ⟨rfl, Nat.lt_of_not_le spent, rfl⟩

/-- The state of a canary evaluation that has let some deletions through, after the grants in
the log. Once it has, its canary hour is not over.
-/
structure HourLog (limit : Nat) (log : List Grant) (now : Instant) (engine : PolicyEngine F)
    (count : Nat) : Prop where
  inside : engine.mode = .canary
  limited : engine.config.maxCanaryDeletesPerHour = limit
  granted : Granted limit (Duration.fromHours 1)
    (log ++ List.replicate count ⟨engine.canaryHourStart, now⟩)
    engine.canaryHourStart engine.canaryDeletesThisHour now
  fresh : count ≠ 0 → now < engine.canaryHourStart + Duration.fromHours 1

variable {log : List Grant} {engine : PolicyEngine F}

omit [Float64 F] in
theorem rotateCanaryHour_log {limit count : Nat} {now : Instant}
    (before : HourLog limit log now engine count)
    : HourLog limit log now (engine.rotateCanaryHour now) count
      ∧ now < (engine.rotateCanaryHour now).canaryHourStart + Duration.fromHours 1 := by
  obtain ⟨inside, same, granted, fresh⟩ := before
  have positive : 0 < Duration.fromHours 1 := by decide
  unfold rotateCanaryHour
  split
  · rename_i expired
    rw [le_elapsed_iff positive] at expired
    have none : count = 0 := by
      by_contra some
      exact Nat.not_lt.mpr expired (fresh some)
    subst none
    refine ⟨⟨inside, same, ?_, fun some => absurd rfl some⟩, Nat.lt_add_of_pos_right positive⟩
    rw [List.replicate_zero, List.append_nil] at granted ⊢
    exact granted.renew expired
  · rename_i running
    rw [le_elapsed_iff positive] at running
    exact ⟨⟨inside, same, granted, fresh⟩, Nat.lt_of_not_le running⟩

/-- One more candidate is let through within the budget or not at all. -/
theorem evaluateOne_log {limit : Nat} {now : Instant} {tally : Tally F} {policyMode : PolicyMode}
    {guard : Option (GuardDiagnostics F)} (candidate : CandidacyScore F)
    (before : HourLog limit log now engine tally.approved.length)
    : let evaluated := engine.evaluateOne policyMode guard now candidate
      HourLog limit log now evaluated.1
        (tally.add candidate evaluated.2.1 evaluated.2.2).approved.length := by
  obtain ⟨rotated, running⟩ := rotateCanaryHour_log before
  have counted {enforced : PolicyEngine F} {count : Nat}
      (kept : HourLog limit log now enforced count) (builder : DecisionRecordBuilder)
      (decisions : Nat)
      : HourLog limit log now { enforced with builder, totalDecisions := decisions } count :=
    ⟨kept.inside, kept.limited, kept.granted, kept.fresh⟩
  refine counted ?_ _ _
  change HourLog limit log now (engine.enforcePolicy candidate guard now).1
    (if (engine.enforcePolicy candidate guard now).2 = .delete then
      tally.approved ++ [candidate] else tally.approved).length
  rcases enforcePolicy_canary engine candidate guard now before.inside with
    ⟨refused, same | same⟩ | ⟨allowed, room, same⟩
  · rw [if_neg refused, same]
    exact before
  · rw [if_neg refused, same]
    exact rotated
  · rw [if_pos allowed, same, List.length_append, List.length_singleton]
    refine ⟨rotated.inside, rotated.limited, ?_, fun _ => running⟩
    rw [List.replicate_succ', ← List.append_assoc]
    exact rotated.granted.grant (rotated.limited ▸ room)

/-- An evaluation in another mode leaves the canary hour alone. -/
theorem evaluateLoop_outside (policyMode : PolicyMode) (guard : Option (GuardDiagnostics F))
    (now : Instant) (budget : Nat) (engine : PolicyEngine F) (tally : Tally F)
    (candidates : List (CandidacyScore F)) (outside : engine.mode ≠ .canary)
    : SameHour engine (evaluateLoop policyMode guard now budget engine tally candidates).1 := by
  refine (@evaluateLoop_invariant F _
    (fun later _ => later.mode ≠ .canary ∧ SameHour engine later)
    policyMode guard now ?_ budget candidates engine tally ⟨outside, rfl, rfl⟩).2
  rintro later counted candidate ⟨elsewhere, same⟩
  have kept := evaluateOne_keepsMode later policyMode guard now candidate
  have unchanged := enforcePolicy_outside later candidate guard now elsewhere
  refine ⟨kept.mode ▸ elsewhere, same.trans ?_⟩
  change SameHour later (later.enforcePolicy candidate guard now).1
  rw [unchanged]
  exact ⟨rfl, rfl⟩

theorem evaluate_granted {self : PolicyEngine F} {now : Instant}
    {limit : Nat} (limited : self.config.maxCanaryDeletesPerHour = limit)
    (granted : Granted limit (Duration.fromHours 1) log self.canaryHourStart
      self.canaryDeletesThisHour now)
    (candidates : List (CandidacyScore F)) (guard : Option (GuardDiagnostics F))
    : Granted limit (Duration.fromHours 1)
        (log ++ self.canaryGrants ⟨now, .evaluate candidates guard⟩)
        (self.evaluate candidates guard now).1.canaryHourStart
        (self.evaluate candidates guard now).1.canaryDeletesThisHour now := by
  let ready := self.beforeEvaluation guard now
  have sameHour : SameHour self ready := beforeEvaluation_sameHour self guard now
  have sameConfig : ready.config = self.config := by
    rcases beforeEvaluation_cases self guard now with kept | ⟨_, entry⟩
    · exact kept.config
    · exact entry.config
  have looped : KeepsMode ready (self.evaluate candidates guard now).1 :=
    evaluateLoop_keepsMode _ _ _ _ _ _ _
  have started : Granted limit (Duration.fromHours 1) log ready.canaryHourStart
      ready.canaryDeletesThisHour now := by
    rw [sameHour.1, sameHour.2]
    exact granted
  change Granted limit _ (log ++ if (self.evaluate candidates guard now).1.mode = .canary then
    _ else []) _ _ now
  by_cases inside : ready.mode = .canary
  · rw [if_pos (looped.mode.trans inside)]
    have logged := @evaluateLoop_invariant F _
      (fun later tally => HourLog limit log now later tally.approved.length)
      ready.mode.toPolicyMode guard now
      (fun later tally candidate before => evaluateOne_log candidate before)
      (min ready.config.maxCandidatesPerLoop candidates.length) candidates ready .empty
      ⟨inside, sameConfig ▸ limited, by simpa [Tally.empty] using started,
        fun some => absurd rfl some⟩
    exact logged.granted
  · rw [if_neg (fun canary => inside (looped.mode.symm.trans canary)), List.append_nil]
    obtain ⟨hour, count⟩ := evaluateLoop_outside ready.mode.toPolicyMode guard now
      (min ready.config.maxCandidatesPerLoop candidates.length) ready .empty candidates inside
    change Granted limit _ log (evaluateLoop _ guard now _ ready .empty candidates).1.canaryHourStart
      (evaluateLoop _ guard now _ ready .empty candidates).1.canaryDeletesThisHour now
    rw [hour, count]
    exact started

def canaryLog : PolicyEngine F → List (TimedCall F) → List Grant
  | _, [] => []
  | engine, timed :: rest => engine.canaryGrants timed ++ canaryLog (engine.step timed) rest

def KeepsLimit (limit : Nat) (timed : TimedCall F) : Prop :=
  ∀ config, timed.call = .updateConfig config → config.maxCanaryDeletesPerHour = limit

theorem step_granted {self : PolicyEngine F} {timed : TimedCall F}
    {limit : Nat} (limited : self.config.maxCanaryDeletesPerHour = limit)
    (granted : Granted limit (Duration.fromHours 1) log self.canaryHourStart
      self.canaryDeletesThisHour timed.now)
    : Granted limit (Duration.fromHours 1) (log ++ self.canaryGrants timed)
        (self.step timed).canaryHourStart (self.step timed).canaryDeletesThisHour timed.now := by
  cases called : timed.call with
  | evaluate candidates guard =>
      obtain ⟨now, call⟩ := timed
      cases called
      exact evaluate_granted limited granted candidates guard
  | _ =>
      have other : ∀ candidates guard, timed.call ≠ .evaluate candidates guard := by
        simp [called]
      have quiet : self.canaryGrants timed = [] := by simp [canaryGrants, decision?, called]
      obtain ⟨hour, count⟩ := step_sameHour self timed other
      rw [quiet, List.append_nil, hour, count]
      exact granted

/-- The limiter follows the run, by induction on the calls. -/
theorem canaryLog_granted {limit : Nat} {clock : Instant} {calls : List (TimedCall F)}
    (limited : engine.config.maxCanaryDeletesPerHour = limit)
    (fixed : ∀ timed ∈ calls, KeepsLimit limit timed)
    (ordered : (clock :: calls.map (·.now)).Pairwise (· ≤ ·))
    (granted : Granted limit (Duration.fromHours 1) log engine.canaryHourStart
      engine.canaryDeletesThisHour clock)
    : ∃ windowStart used now,
        Granted limit (Duration.fromHours 1) (log ++ canaryLog engine calls) windowStart used
          now := by
  induction calls generalizing engine log clock with
  | nil => exact ⟨_, _, _, by simpa [canaryLog] using granted⟩
  | cons timed rest ih =>
      obtain ⟨first, later⟩ := List.pairwise_cons.mp ordered
      have waited := granted.wait (first timed.now (by simp))
      have next : (engine.step timed).config.maxCanaryDeletesPerHour = limit := by
        rcases step_config engine timed with same | ⟨config, updating, changed⟩
        · rw [same, limited]
        · rw [changed]
          exact fixed timed (by simp) config updating
      obtain ⟨windowStart, used, now, done⟩ := ih next
        (fun timed member => fixed timed (List.mem_cons_of_mem _ member)) later
        (step_granted limited waited)
      exact ⟨windowStart, used, now, by simpa [canaryLog, List.append_assoc] using done⟩

def HourlyLimited (limit : Nat) (config : PolicyConfig F) (start : Instant)
    (calls : List (TimedCall F)) : Prop :=
  ∀ origin, within (canaryLog (new config start) calls) origin (Duration.fromHours 1) ≤ limit

/-- With a fixed limit no canary hour has more deletions than the limit, different canary
hours start at least an hour apart, and no interval of an hour has more than twice as many.
-/
theorem canary_hours_limited {config : PolicyConfig F} {start : Instant}
    {calls : List (TimedCall F)} {limit : Nat}
    (limited : config.maxCanaryDeletesPerHour = limit)
    (fixed : ∀ timed ∈ calls, KeepsLimit limit timed)
    (ordered : (start :: calls.map (·.now)).Pairwise (· ≤ ·))
    : HourlyLimited (2 * limit) config start calls
      ∧ (∀ hourStart, inWindow (canaryLog (new config start) calls) hourStart ≤ limit)
      ∧ (canaryLog (new config start) calls).Pairwise fun earlier later =>
          earlier.windowStart = later.windowStart
          ∨ earlier.windowStart + Duration.fromHours 1 ≤ later.windowStart := by
  obtain ⟨hour, count⟩ := new_hour config start
  have initial : Granted limit (Duration.fromHours 1) [] (new config start).canaryHourStart
      (new config start).canaryDeletesThisHour start := by
    rw [hour, count]
    exact .start start
  have sameLimit : (new config start).config.maxCanaryDeletesPerHour = limit := by
    rw [new_config]
    exact limited
  obtain ⟨windowStart, used, now, granted⟩ := canaryLog_granted sameLimit fixed ordered initial
  exact ⟨granted.within_le, (granted.inWindow_le (by decide)).2, granted.windows_apart⟩

def canaryConfig : PolicyConfig ℚ :=
  { testConfig with initialMode := .canary, maxCanaryDeletesPerHour := 1 }

def straddlingCalls : List (TimedCall ℚ) := [
  ⟨Duration.fromSecs 3599, .evaluate [sampleCandidate .delete] none⟩,
  ⟨Duration.fromSecs 3600, .evaluate [sampleCandidate .delete] none⟩]

theorem straddlingCalls_fixed : ∀ timed ∈ straddlingCalls, KeepsLimit 1 timed := by
  intro timed member config updating
  simp only [straddlingCalls, List.mem_cons, List.not_mem_nil, or_false] at member
  rcases member with rfl | rfl
  · cases updating
  · cases updating

theorem straddlingCalls_ordered
    : (0 :: straddlingCalls.map (·.now)).Pairwise (· ≤ ·) := by decide

/-- Two deletions are approved a second apart, although one an hour is allowed. -/
theorem straddling_exceeds_limit
    : canaryConfig.maxCanaryDeletesPerHour = 1
      ∧ (∀ timed ∈ straddlingCalls, KeepsLimit 1 timed)
      ∧ (0 :: straddlingCalls.map (·.now)).Pairwise (· ≤ ·)
      ∧ ¬ HourlyLimited 1 canaryConfig 0 straddlingCalls := by
  refine ⟨rfl, straddlingCalls_fixed, straddlingCalls_ordered, fun limited => ?_⟩
  have two : within (canaryLog (new canaryConfig 0) straddlingCalls) (Duration.fromSecs 3599)
      (Duration.fromHours 1) = 2 := by decide +kernel
  have one := limited (Duration.fromSecs 3599)
  rw [two] at one
  exact absurd one (by decide)

theorem straddling_hours_limited
    : HourlyLimited (2 * 1) canaryConfig 0 straddlingCalls :=
  (canary_hours_limited rfl straddlingCalls_fixed straddlingCalls_ordered).1

end StorageBallast.PolicyEngine
