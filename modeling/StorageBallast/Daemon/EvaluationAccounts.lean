import Mathlib.Data.List.Forall2
import StorageBallast.Daemon.PolicyTransitions

/-! What an evaluation accounts for: the candidates it has looked at, which are the first ones of
the batch, each with one record, one decision counted and at most one approval.
-/

namespace StorageBallast.PolicyEngine

variable {F : Type} [Float64 F]

def BuiltFor (policyMode : PolicyMode) (guard : Option (GuardDiagnostics F))
    (candidate : CandidacyScore F) (record : DecisionRecord F)
    : Prop :=
  ∃ (builder : DecisionRecordBuilder) (comparator : Option DecisionAction)
    (effective : DecisionAction),
    record = (builder.build candidate policyMode guard comparator (some effective)).1

def effectiveDeletes (examined : List (CandidacyScore F)) (records : List (DecisionRecord F))
    : List (CandidacyScore F) :=
  ((examined.zip records).filter fun pair => pair.2.effectiveAction == some .delete).map (·.1)

def deleteCount (candidates : List (CandidacyScore F)) : Nat :=
  candidates.countP fun candidate => candidate.decision.action == .delete

/-- A batch that is cut in what was examined and what was not, and what the decision says of the
first part.
-/
structure Accounts (before after : PolicyEngine F) (guard : Option (GuardDiagnostics F))
    (decision : PolicyDecision F) (examined unexamined : List (CandidacyScore F))
    : Prop where
  recorded : List.Forall₂ (BuiltFor decision.mode.toPolicyMode guard) examined decision.records
  withinLoop : examined.length ≤ before.config.maxCandidatesPerLoop
  counted
    : decision.hypotheticalDeletes + decision.hypotheticalKeeps + decision.hypotheticalReviews
      = examined.length
  decisions : after.totalDecisions = before.totalDecisions + examined.length
  approved : decision.approvedForDeletion = effectiveDeletes examined decision.records
  approvedDeletes
    : ∀ candidate ∈ decision.approvedForDeletion, candidate.decision.action = .delete
  approvedInOrder : decision.approvedForDeletion.Sublist examined
  approvedMode
    : decision.approvedForDeletion ≠ [] → decision.mode = .canary ∨ decision.mode = .enforce
  withinObserve
    : decision.mode = .observe → 1 ≤ before.config.maxHypotheticalDeletes →
      deleteCount examined ≤ before.config.maxHypotheticalDeletes
  exhausted : unexamined ≠ [] → decision.budgetExhausted = true

variable {guard : Option (GuardDiagnostics F)}

/-- Only a candidate with the decision to delete is deleted. -/
theorem enforcePolicy_delete {self : PolicyEngine F} {candidate : CandidacyScore F} {now : Instant}
    (deleted : (self.enforcePolicy candidate guard now).2 = .delete)
    : candidate.decision.action = .delete := by
  unfold enforcePolicy at deleted
  split at deleted
  · exact deleted
  · rename_i proposed
    exact not_not.mp proposed

theorem enforcePolicy_totalDecisions (self : PolicyEngine F) (candidate : CandidacyScore F)
    (guard : Option (GuardDiagnostics F)) (now : Instant)
    : (self.enforcePolicy candidate guard now).1.totalDecisions = self.totalDecisions := by
  have rotated : (self.rotateCanaryHour now).totalDecisions = self.totalDecisions := by
    unfold rotateCanaryHour
    split <;> rfl
  unfold enforcePolicy
  split_ifs
  · rfl
  · rfl
  · rfl
  · dsimp only
    split
    · exact rotated
    · exact rotated
  · rfl

structure EvaluatesOne (policyMode : PolicyMode) (guard : Option (GuardDiagnostics F))
    (candidate : CandidacyScore F) (before : PolicyEngine F)
    (evaluated : PolicyEngine F × DecisionAction × DecisionRecord F)
    : Prop where
  keepsMode : KeepsMode before evaluated.1
  decisions : evaluated.1.totalDecisions = before.totalDecisions + 1
  built : BuiltFor policyMode guard candidate evaluated.2.2
  effective : evaluated.2.2.effectiveAction = some evaluated.2.1
  deletes : evaluated.2.1 = .delete → candidate.decision.action = .delete

theorem evaluateOne_evaluates (self : PolicyEngine F) (policyMode : PolicyMode)
    (guard : Option (GuardDiagnostics F)) (now : Instant) (candidate : CandidacyScore F)
    : EvaluatesOne policyMode guard candidate self
        (self.evaluateOne policyMode guard now candidate) where
  keepsMode := evaluateOne_keepsMode self policyMode guard now candidate
  decisions := congrArg (· + 1) (enforcePolicy_totalDecisions self candidate guard now)
  built := ⟨_, _, _, rfl⟩
  effective := rfl
  deletes := enforcePolicy_delete

omit [Float64 F] in
theorem add_counted (tally : Tally F) (candidate : CandidacyScore F)
    (effective : DecisionAction) (record : DecisionRecord F)
    : let added := tally.add candidate effective record
      added.hypotheticalDeletes + added.hypotheticalKeeps + added.hypotheticalReviews
        = tally.hypotheticalDeletes + tally.hypotheticalKeeps + tally.hypotheticalReviews + 1 := by
  unfold Tally.add
  cases candidate.decision.action <;> simp <;> omega

structure LoopAccounts (policyMode : PolicyMode) (guard : Option (GuardDiagnostics F))
    (budget : Nat) (before : PolicyEngine F) (tally : Tally F)
    (looped : PolicyEngine F × Tally F × Bool) (examined unexamined : List (CandidacyScore F))
    : Prop where
  keepsMode : KeepsMode before looped.1
  withinBudget : examined.length ≤ budget
  decisions : looped.1.totalDecisions = before.totalDecisions + examined.length
  counted
    : looped.2.1.hypotheticalDeletes + looped.2.1.hypotheticalKeeps
        + looped.2.1.hypotheticalReviews
      = tally.hypotheticalDeletes + tally.hypotheticalKeeps + tally.hypotheticalReviews
        + examined.length
  deletes : looped.2.1.hypotheticalDeletes = tally.hypotheticalDeletes + deleteCount examined
  records
    : ∃ added, looped.2.1.records = tally.records ++ added
      ∧ List.Forall₂ (BuiltFor policyMode guard) examined added
      ∧ looped.2.1.approved = tally.approved ++ effectiveDeletes examined added
      ∧ ∀ candidate ∈ effectiveDeletes examined added, candidate.decision.action = .delete
  withinObserve
    : before.mode = .observe →
      tally.hypotheticalDeletes < before.config.maxHypotheticalDeletes →
      looped.2.1.hypotheticalDeletes ≤ before.config.maxHypotheticalDeletes
  exhausted : unexamined ≠ [] → looped.2.2 = true

theorem LoopAccounts.stopped {policyMode : PolicyMode}
    {engine : PolicyEngine F} {tally : Tally F} {budget : Nat} {flag : Bool}
    {unexamined : List (CandidacyScore F)} (exhausted : unexamined ≠ [] → flag = true)
    : LoopAccounts policyMode guard budget engine tally (engine, tally, flag) [] unexamined where
  keepsMode := .refl engine
  withinBudget := Nat.zero_le _
  decisions := rfl
  counted := rfl
  deletes := rfl
  records := ⟨[], by simp, .nil, by simp [effectiveDeletes], by simp [effectiveDeletes]⟩
  withinObserve _ room := room.le
  exhausted := exhausted

/-- One examined candidate in front of what the rest of the loop examines. -/
theorem LoopAccounts.cons {policyMode : PolicyMode}
    {engine : PolicyEngine F} {tally : Tally F} {budget : Nat} {candidate : CandidacyScore F}
    {evaluated : PolicyEngine F × DecisionAction × DecisionRecord F}
    {looped : PolicyEngine F × Tally F × Bool} {examined unexamined : List (CandidacyScore F)}
    (one : EvaluatesOne policyMode guard candidate engine evaluated)
    (rest : LoopAccounts policyMode guard budget evaluated.1
      (tally.add candidate evaluated.2.1 evaluated.2.2) looped examined unexamined)
    (observed : engine.mode = .observe →
      tally.hypotheticalDeletes < engine.config.maxHypotheticalDeletes →
      looped.2.1.hypotheticalDeletes ≤ engine.config.maxHypotheticalDeletes)
    : LoopAccounts policyMode guard (budget + 1) engine tally looped (candidate :: examined)
        unexamined where
  keepsMode := one.keepsMode.trans rest.keepsMode
  withinBudget := Nat.succ_le_succ rest.withinBudget
  decisions := by
    have later := rest.decisions
    rw [one.decisions] at later
    rw [later, List.length_cons]
    omega
  counted := by
    have later := rest.counted
    have here := add_counted tally candidate evaluated.2.1 evaluated.2.2
    rw [List.length_cons]
    omega
  deletes := by
    have later := rest.deletes
    rw [later, deleteCount, deleteCount, List.countP_cons]
    simp only [Tally.add, beq_iff_eq]
    omega
  records := by
    obtain ⟨added, records, built, approved, deletes⟩ := rest.records
    refine ⟨evaluated.2.2 :: added, ?_, .cons one.built built, ?_, ?_⟩
    · rw [records]
      simp [Tally.add]
    · rw [approved]
      by_cases deleted : evaluated.2.1 = .delete
      · simp [Tally.add, effectiveDeletes, one.effective, deleted]
      · simp [Tally.add, effectiveDeletes, one.effective, deleted]
    · intro other member
      by_cases deleted : evaluated.2.1 = .delete
      · simp only [effectiveDeletes, List.zip_cons_cons, one.effective, deleted, beq_self_eq_true,
          List.filter_cons_of_pos, List.map_cons, List.mem_cons] at member
        rcases member with rfl | among
        · exact one.deletes deleted
        · exact deletes other among
      · simp only [effectiveDeletes, List.zip_cons_cons, one.effective, beq_iff_eq,
          Option.some.injEq, deleted, not_false_eq_true, List.filter_cons_of_neg] at member
        exact deletes other member
  withinObserve := observed
  exhausted := rest.exhausted

/-- The loop examines the first candidates, by induction on the candidates: it stops at the end
of its budget, in observe mode at the count of hypothetical deletes, or at the end.
-/
theorem evaluateLoop_accounts (policyMode : PolicyMode) (guard : Option (GuardDiagnostics F))
    (now : Instant) (budget : Nat) (engine : PolicyEngine F) (tally : Tally F)
    (candidates : List (CandidacyScore F))
    : ∃ examined unexamined, candidates = examined ++ unexamined
      ∧ LoopAccounts policyMode guard budget engine tally
        (evaluateLoop policyMode guard now budget engine tally candidates) examined unexamined := by
  induction candidates generalizing budget engine tally with
  | nil =>
      refine ⟨[], [], rfl, ?_⟩
      cases budget <;> exact .stopped fun absent => absurd rfl absent
  | cons candidate rest ih =>
      cases budget with
      | zero => exact ⟨[], candidate :: rest, rfl, .stopped fun _ => rfl⟩
      | succ budget =>
          have one := evaluateOne_evaluates engine policyMode guard now candidate
          have mode := one.keepsMode.mode
          have config := one.keepsMode.config
          have counted : (tally.add candidate
              (engine.evaluateOne policyMode guard now candidate).2.1
              (engine.evaluateOne policyMode guard now candidate).2.2).hypotheticalDeletes
                ≤ tally.hypotheticalDeletes + 1 := by
            simp only [Tally.add]
            split <;> omega
          simp only [evaluateLoop]
          split
          · refine ⟨[candidate], rest, rfl, .cons one (.stopped fun _ => rfl) ?_⟩
            intro observing room
            exact counted.trans room
          · rename_i open_
            obtain ⟨examined, unexamined, split, accounts⟩ := ih budget
              (engine.evaluateOne policyMode guard now candidate).1
              (tally.add candidate (engine.evaluateOne policyMode guard now candidate).2.1
                (engine.evaluateOne policyMode guard now candidate).2.2)
            refine ⟨candidate :: examined, unexamined, by rw [split]; rfl, .cons one accounts ?_⟩
            intro observing room
            have still := mode.trans observing
            rw [← config]
            refine accounts.withinObserve still ?_
            by_contra full
            exact open_ ⟨still, not_lt.mp full⟩

omit [Float64 F] in
theorem enterFallback_totalDecisions (self : PolicyEngine F) (reason : FallbackReason)
    (now : Instant)
    : (self.enterFallback reason now).totalDecisions = self.totalDecisions := by
  have noted (engine : PolicyEngine F)
      : (engine.noteSuppression now).totalDecisions = engine.totalDecisions := by
    unfold noteSuppression
    split <;> rfl
  have graced (engine : PolicyEngine F)
      : (engine.enterFallbackAfterGrace reason now).totalDecisions = engine.totalDecisions := by
    unfold enterFallbackAfterGrace
    split
    · exact noted engine
    · rfl
  unfold enterFallback
  split_ifs
  · rfl
  · rfl
  · split
    · split
      · exact noted self
      · exact graced { self with emergencyEscalatedAt := none }
    · exact graced self

omit [Float64 F] in
theorem beforeEvaluation_frame (self : PolicyEngine F) (guard : Option (GuardDiagnostics F))
    (now : Instant)
    : (self.beforeEvaluation guard now).totalDecisions = self.totalDecisions
      ∧ (self.beforeEvaluation guard now).config = self.config := by
  constructor
  · unfold beforeEvaluation
    dsimp only
    split
    · split
      · exact enterFallback_totalDecisions self .killSwitch now
      · rfl
    · unfold checkGuardTriggers
      split <;> split
      · exact (enterFallback_totalDecisions ..).trans (enterFallback_totalDecisions ..)
      · exact enterFallback_totalDecisions ..
      · exact enterFallback_totalDecisions ..
      · rfl
  · rcases beforeEvaluation_cases self guard now with kept | ⟨reason, entry⟩
    · exact kept.config
    · exact entry.config

/-- An evaluation examines the first candidates of the batch, and its decision and counters
account for exactly these.
-/
theorem evaluate_accounts (self : PolicyEngine F) (candidates : List (CandidacyScore F))
    (guard : Option (GuardDiagnostics F)) (now : Instant)
    : ∃ examined unexamined, candidates = examined ++ unexamined
      ∧ Accounts self (self.evaluate candidates guard now).1 guard
        (self.evaluate candidates guard now).2 examined unexamined := by
  obtain ⟨decisions, config⟩ := beforeEvaluation_frame self guard now
  let ready := self.beforeEvaluation guard now
  obtain ⟨examined, unexamined, split, accounts⟩ := evaluateLoop_accounts
    ready.mode.toPolicyMode guard now (min ready.config.maxCandidatesPerLoop candidates.length)
    ready .empty candidates
  obtain ⟨added, records, built, approved, deletes⟩ := accounts.records
  have mode := accounts.keepsMode.mode
  have recorded : (self.evaluate candidates guard now).2.records = added := records
  have listed : (self.evaluate candidates guard now).2.approvedForDeletion
      = effectiveDeletes examined added := approved
  refine ⟨examined, unexamined, split, ?_⟩
  constructor
  · rw [recorded]
    change List.Forall₂ (BuiltFor (PolicyEngine.mode (evaluateLoop ..).1).toPolicyMode guard) _ _
    rw [mode]
    exact built
  · rw [← config]
    exact accounts.withinBudget.trans (Nat.min_le_left ..)
  · exact accounts.counted.trans (by simp [Tally.empty])
  · exact accounts.decisions.trans (congrArg (· + examined.length) decisions)
  · rw [listed, recorded]
  · rw [listed]
    exact deletes
  · rw [listed]
    unfold effectiveDeletes
    have pairs := (List.filter_sublist (p := fun pair : CandidacyScore F × DecisionRecord F =>
      pair.2.effectiveAction == some .delete) (l := examined.zip added)).map (·.1)
    rwa [List.map_fst_zip (Nat.le_of_eq built.length_eq)] at pairs
  · intro some_
    by_contra neither
    refine some_ (evaluate_without_rights self candidates guard now ?_)
    revert neither
    change ¬ ((self.evaluate candidates guard now).1.mode = .canary
      ∨ (self.evaluate candidates guard now).1.mode = .enforce) → _
    cases (self.evaluate candidates guard now).1.mode <;> simp [ActiveMode.allowsDeletion]
  · intro observing room
    have still : ready.mode = .observe := mode.symm.trans observing
    have counted := accounts.deletes
    rw [← config] at room ⊢
    have within := accounts.withinObserve still room
    rw [counted] at within
    exact (Nat.le_add_left ..).trans within
  · exact accounts.exhausted

end StorageBallast.PolicyEngine
