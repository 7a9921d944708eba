import StorageBallast.Scanner.DeletionExecutor

/-! Deletion with required identities: whatever other processes do between any two calls of
the executor, it removes only what it found to be the recorded entry at its last check.
-/

namespace StorageBallast

open Checks

variable {F : Type}

def Removal.linkChecked (removal : Removal F) : Nat := momentOf removal.turn .recheck

def Removal.identityChecked (removal : Removal F) : Nat := momentOf removal.turn .reidentify

structure Removal.IdentityChecked (history : Nat → FileWorld) (removal : Removal F)
    (expected : FsIdentity) : Prop where
  recorded : removal.candidate.identity = some expected
  ordered : removal.linkChecked < removal.identityChecked
    ∧ removal.identityChecked < removal.moment
  noLink : ∃ entry, (history removal.linkChecked).lstat removal.candidate.path = .ok entry
    ∧ entry.kind ≠ .symlink
  same : (history removal.identityChecked).lstat removal.candidate.path = .ok expected

variable {candidate : CandidacyScore F}

/-- An identity check that passes although identities are required compared the entry with
a recorded identity.
-/
theorem verifyCandidateIdentity_eq_ok {config : DeletionConfig F} {world : FileWorld}
    (required : config.requireIdentity = true)
    (passed : verifyCandidateIdentity config world candidate = .ok ())
    : ∃ expected, candidate.identity = some expected
        ∧ world.lstat candidate.path = .ok expected := by
  unfold verifyCandidateIdentity at passed
  cases identity : candidate.identity with
  | none => simp [identity, required] at passed
  | some expected =>
      cases found : world.lstat candidate.path with
      | error fault => simp [identity, found] at passed
      | ok current =>
          simp only [identity, found, refuseWhen_eq_ok, bne_eq_false_iff_eq] at passed
          exact ⟨expected, rfl, by rw [passed]⟩

/-- The checks made again before a removal pass only for a recorded entry that is no link. -/
theorem recheckEntry_eq_ok {config : DeletionConfig F}
    {worlds : CandidateCall → FileWorld} {entry : FsIdentity}
    (required : config.requireIdentity = true)
    (passed : recheckEntry config worlds candidate = .ok entry)
    : ((worlds .recheck).lstat candidate.path = .ok entry ∧ entry.kind ≠ .symlink)
      ∧ ∃ expected, candidate.identity = some expected
        ∧ (worlds .reidentify).lstat candidate.path = .ok expected := by
  unfold recheckEntry at passed
  cases found : (worlds .recheck).lstat candidate.path with
  | error fault => simp [found, Except.mapError, bind, Except.bind] at passed
  | ok current =>
      cases verified : verifyCandidateIdentity config (worlds .reidentify) candidate with
      | error reason =>
          simp [found, verified, Except.mapError, bind_eq_ok] at passed
      | ok =>
          simp only [found, verified, Except.mapError, bind_eq_ok, refuseWhen_eq_ok] at passed
          obtain ⟨_, same, _, noLink, _, _, result⟩ := passed
          cases same
          cases result
          exact ⟨⟨rfl, by simpa using noLink⟩, verifyCandidateIdentity_eq_ok required verified⟩

theorem removeEntry_calls {worlds : CandidateCall → FileWorld}
    {entry : FsIdentity} {call : CandidateCall}
    (made : call ∈ (removeEntry worlds candidate entry).calls)
    : CandidateCall.reidentify.index < call.index := by
  have afterwards : call = .removal ∨ call = .retry := by
    unfold removeEntry removeDirAllForce at made
    split at made
    · split at made
      · split at made
        · simp_all
        · split at made <;> simp_all
      · simp_all
    · simp_all
  rcases afterwards with rfl | rfl <;> decide

namespace BatchSetup

variable {setup : BatchSetup F}

/-- Every removal of a candidate follows an identity check of its own. -/
theorem removalsOf_checked {candidate : CandidacyScore F}
    {turn : Nat} (required : setup.config.requireIdentity = true)
    : ∀ removal ∈ setup.removalsOf candidate turn,
        removal.candidate = candidate ∧ removal.turn = turn
        ∧ ∃ expected, removal.IdentityChecked setup.history expected := by
  intro removal member
  obtain ⟨call, made, rfl⟩ := List.mem_map.mp member
  refine ⟨rfl, rfl, ?_⟩
  unfold deletePath at made
  cases rechecked : recheckEntry setup.config (worldsAt setup.history turn) candidate with
  | error error => simp [rechecked] at made
  | ok entry =>
      simp only [rechecked] at made
      obtain ⟨unlinked, expected, recorded, same⟩ := recheckEntry_eq_ok required rechecked
      refine ⟨expected, recorded, ?_, ⟨entry, unlinked⟩, same⟩
      have later := removeEntry_calls made
      constructor
      · simp [Removal.linkChecked, Removal.identityChecked, momentOf, CandidateCall.index]
      · simpa [Removal.moment, Removal.identityChecked, momentOf] using later

theorem executeCandidate_removals
    {openPaths : Option (List PathBuf)} {candidate : CandidacyScore F} {turn : Nat}
    {state : BatchState F} {removal : Removal F}
    (made : removal ∈ (setup.executeCandidate openPaths candidate turn state).removals)
    : removal ∈ state.removals ∨ removal ∈ setup.removalsOf candidate turn := by
  unfold executeCandidate at made
  split at made
  · exact Or.inl made
  · split at made
    · exact Or.inl made
    · split at made
      · exact Or.inl made
      · unfold deleteCandidate at made
        split at made <;> exact List.mem_append.mp made

/-- A batch removes only its own candidates, by induction on the candidates left. -/
theorem executeLoop_removals {openPaths : Option (List PathBuf)}
    {inputs : List (CandidacyScore F × Nat)} {state : BatchState F} {removal : Removal F}
    (made : removal ∈ (setup.executeLoop openPaths inputs state).removals)
    : removal ∈ state.removals
      ∨ ∃ input ∈ inputs, removal ∈ setup.removalsOf input.1 input.2 := by
  induction inputs generalizing state with
  | nil => exact Or.inl made
  | cons input rest ih =>
      obtain ⟨candidate, turn⟩ := input
      rw [executeLoop] at made
      split at made
      · exact Or.inl made
      · rcases ih made with earlier | ⟨later, member, removed⟩
        · rcases executeCandidate_removals earlier with before | now
          · exact Or.inl before
          · exact Or.inr ⟨_, List.mem_cons_self, now⟩
        · exact Or.inr ⟨later, List.mem_cons_of_mem _ member, removed⟩

/-- Whatever a plan removes is one of its candidates, at its place. -/
theorem execute_removals {plan : DeletionPlan F}
    {removal : Removal F} (made : removal ∈ (setup.execute plan).removals)
    : ∃ candidate turn, plan.candidates[turn]? = some candidate
        ∧ removal ∈ setup.removalsOf candidate turn := by
  have fromBatch : ∃ input ∈ (plan.candidates.take
        (min plan.candidates.length setup.config.maxBatchSize)).zipIdx,
      removal ∈ setup.removalsOf input.1 input.2 := by
    unfold execute at made
    dsimp only at made
    split at made
    · split at made
      · exact (executeLoop_removals made).resolve_left List.not_mem_nil
      · cases made
    · exact (executeLoop_removals made).resolve_left List.not_mem_nil
  obtain ⟨⟨candidate, turn⟩, member, removed⟩ := fromBatch
  refine ⟨candidate, turn, ?_, removed⟩
  have taken := List.mem_zipIdx_iff_getElem?.mp member
  simp only [List.getElem?_take] at taken
  grind

/-- With identities required, under any changes other processes make between any two
calls: a removed candidate has a recorded identity, its path was no link and its entry the
recorded one when last checked, and an entry that was replaced for good before that check
is never removed.
-/
theorem execute_identityChecked (config : DeletionConfig F) (history : Nat → FileWorld)
    (shouldSkip : Option (Nat → PathBuf → Bool)) (plan : DeletionPlan F)
    : ∀ removal ∈ (execute ⟨{ config with requireIdentity := true }, history, shouldSkip⟩
          plan).removals,
        plan.candidates[removal.turn]? = some removal.candidate
        ∧ ∃ expected, removal.IdentityChecked history expected
          ∧ ¬ ∃ since ≤ removal.identityChecked, ∀ moment ≥ since,
              (history moment).lstat removal.candidate.path ≠ .ok expected := by
  intro removal made
  obtain ⟨candidate, turn, placed, removed⟩ := execute_removals made
  obtain ⟨rfl, rfl, expected, checked⟩ := removalsOf_checked rfl removal removed
  refine ⟨placed, expected, checked, ?_⟩
  rintro ⟨since, before, replaced⟩
  exact replaced removal.identityChecked before checked.same

/-- A build cache that nothing touches is removed after its identity check. -/
theorem execute_identityChecked_buildCache
    : ∃ expected, Removal.IdentityChecked (fun _ => emptyDirectories)
        ⟨candidateAt "/tmp/build-cache", 0, .removal⟩ expected := by
  have planned := execute_identityChecked DeletionConfig.default (fun _ => emptyDirectories)
    none ⟨[candidateAt "/tmp/build-cache"], 5, 1⟩
    ⟨candidateAt "/tmp/build-cache", 0, .removal⟩
  have removed : (⟨candidateAt "/tmp/build-cache", 0, .removal⟩ : Removal ℚ)
      ∈ (execute ⟨{ DeletionConfig.default with requireIdentity := true },
          fun _ => emptyDirectories, none⟩
          ⟨[candidateAt "/tmp/build-cache"], 5, 1⟩).removals := List.mem_singleton.mpr rfl
  obtain ⟨_, expected, checked, _⟩ := planned removed
  exact ⟨expected, checked⟩

end BatchSetup

end StorageBallast
