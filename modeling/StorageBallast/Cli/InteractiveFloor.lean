import StorageBallast.Cli.InteractiveCleanup
import StorageBallast.Foundations.Runs

/-! What the interactive commands remove, against the safety floor of batch cleanup.
They make none of its checks, so a run stays above the floor exactly when every candidate it
deletes happens to satisfy them at that moment.
-/

namespace StorageBallast

open Checks Runs

variable {F : Type}

/-- Batch cleanup would let the candidate through in this world: its scan for open files is
complete and its check before deletion passes.
-/
def BatchWouldDelete (config : DeletionConfig F) (world : FileWorld)
    (candidate : CandidacyScore F) : Prop :=
  (world.openPathAncestors [candidate.path]).2 = true
  ∧ preflightAt config world candidate (some (world.openPathAncestors [candidate.path]).1)
    = .ok ()

def IdentityKept (config : DeletionConfig F) (candidate : CandidacyScore F)
    (entry : FsIdentity) : Prop :=
  match candidate.identity with
  | none => config.requireIdentity = false
  | some expected => entry = expected

structure NothingVetoes (world : FileWorld) (candidate : CandidacyScore F) : Prop where
  noGit : containsNestedGit world 3 candidate.path = false
  noManifest : containsCargoManifestWithoutArtifactMarkers world candidate.path = false
  noSources : candidate.classification.category ≠ .goCache →
    looksLikeSourceCode world candidate.path = false

structure AboveFloor (config : DeletionConfig F) (world : FileWorld)
    (candidate : CandidacyScore F) : Prop where
  noSourceTree : isHardcodedSourceTree candidate.path = false
  entry : ∃ entry, world.lstat candidate.path = .ok entry
    ∧ entry.kind ≠ .symlink
    ∧ IdentityKept config candidate entry
    ∧ (entry.kind = .directory → NothingVetoes world candidate)
  writable : ∀ up, candidate.path.parent = some up → world.isWritable up = true
  scanned : (world.openPathAncestors [candidate.path]).2 = true
  closed : isPathOpenByAncestor candidate.path
    (world.openPathAncestors [candidate.path]).1 = false

variable {config : DeletionConfig F}

theorem verifyCandidateIdentity_eq_ok_iff {world : FileWorld}
    {candidate : CandidacyScore F} {entry : FsIdentity}
    (found : world.lstat candidate.path = .ok entry)
    : verifyCandidateIdentity config world candidate = .ok ()
      ↔ IdentityKept config candidate entry := by
  unfold verifyCandidateIdentity IdentityKept
  cases candidate.identity with
  | none => simp
  | some expected => simp [found]

/-- The check before deletion of an existing entry, one condition for each of its tests. -/
theorem preflightAt_eq_ok_iff {world : FileWorld}
    {candidate : CandidacyScore F} {openPaths : List PathBuf} {entry : FsIdentity}
    (found : world.lstat candidate.path = .ok entry)
    : preflightAt config world candidate (some openPaths) = .ok ()
      ↔ isHardcodedSourceTree candidate.path = false
        ∧ entry.kind ≠ .symlink
        ∧ IdentityKept config candidate entry
        ∧ (∀ up, candidate.path.parent = some up → world.isWritable up = true)
        ∧ (entry.kind = .directory → NothingVetoes world candidate)
        ∧ isPathOpenByAncestor candidate.path openPaths = false := by
  have vetoes : NothingVetoes world candidate
      ↔ containsNestedGit world 3 candidate.path = false
        ∧ containsCargoManifestWithoutArtifactMarkers world candidate.path = false
        ∧ (candidate.classification.category ≠ .goCache →
          looksLikeSourceCode world candidate.path = false) :=
    ⟨fun h => ⟨h.noGit, h.noManifest, h.noSources⟩, fun ⟨git, manifest, sources⟩ =>
      ⟨git, manifest, sources⟩⟩
  have writable : candidate.path.parent.any (fun up => !world.isWritable up) = false
      ↔ ∀ up, candidate.path.parent = some up → world.isWritable up = true := by
    cases candidate.path.parent <;> simp
  simp only [preflightAt, preflightCheck, observeEntry, found, bind_eq_ok, refuseWhen_eq_ok,
    verifyCandidateIdentity_eq_ok_iff found, writable, vetoes, Except.ok.injEq,
    Option.any_some, Bool.and_eq_false_imp, beq_iff_eq, beq_eq_false_iff_ne]
  grind

/-- Batch cleanup lets a candidate through exactly if it is above the floor. -/
theorem batchWouldDelete_iff {world : FileWorld} {candidate : CandidacyScore F}
    : BatchWouldDelete config world candidate ↔ AboveFloor config world candidate := by
  unfold BatchWouldDelete
  cases found : world.lstat candidate.path with
  | error fault =>
      constructor
      · rintro ⟨_, passed⟩
        simp [preflightAt, preflightCheck, observeEntry, found, bind_eq_ok] at passed
      · intro above
        obtain ⟨entry, same, _⟩ := above.entry
        simp [found] at same
  | ok entry =>
      rw [preflightAt_eq_ok_iff found]
      constructor
      · rintro ⟨scanned, noSourceTree, noLink, kept, writable, unvetoed, closed⟩
        exact ⟨noSourceTree, ⟨entry, found, noLink, kept, unvetoed⟩, writable, scanned, closed⟩
      · intro above
        obtain ⟨other, same, noLink, kept, unvetoed⟩ := above.entry
        cases found.symm.trans same
        exact ⟨above.scanned, above.noSourceTree, noLink, kept, above.writable, unvetoed,
          above.closed⟩

def FloorKept (config : DeletionConfig F) (state : InteractiveState F) : Prop :=
  ∀ removal ∈ state.removed, BatchWouldDelete config removal.2 removal.1

def Approved (state : InteractiveState F) (turn : Turn F) : Prop :=
  state.answer turn = some .yes ∨ state.answer turn = some .all

def CleanRemoves [Float64 F] (args : CleanArgs F) (state : InteractiveState F)
    (input : CandidacyScore F × Turn F) : Prop :=
  state.stopped = false
  ∧ args.targetFree.any (reaches input.2) = false
  ∧ Approved state input.2
  ∧ nowInUse input.2 input.1 = false
  ∧ deleteSingleCandidate input.2 input.1 = .ok ()

def EmergencyRemoves [Float64 F] (args : EmergencyArgs F) (state : InteractiveState F)
    (input : CandidacyScore F × Turn F) : Prop :=
  state.stopped = false
  ∧ reaches input.2 args.targetFree = false
  ∧ Approved state input.2
  ∧ deleteSingleCandidate input.2 input.1 = .ok ()

theorem delete_removed {state : InteractiveState F} {turn : Turn F}
    {candidate : CandidacyScore F}
    : (deleteSingleCandidate turn candidate = .ok ()
        ∧ (state.delete turn candidate).removed
          = state.removed ++ [(candidate, turn.atRemoval)])
      ∨ (deleteSingleCandidate turn candidate ≠ .ok ()
        ∧ (state.delete turn candidate).removed = state.removed) := by
  unfold InteractiveState.delete
  split
  · rename_i succeeded
    exact Or.inl ⟨succeeded, rfl⟩
  · rename_i failed
    exact Or.inr ⟨by simp [failed], rfl⟩

/-- A round of the clean command removes its candidate or nothing. -/
theorem interactiveCleanStep_removed [Float64 F] (args : CleanArgs F)
    (state : InteractiveState F) (input : CandidacyScore F × Turn F)
    : (CleanRemoves args state input
        ∧ (interactiveCleanStep args state input).removed
          = state.removed ++ [(input.1, input.2.atRemoval)])
      ∨ (¬ CleanRemoves args state input
        ∧ (interactiveCleanStep args state input).removed = state.removed) := by
  obtain ⟨candidate, turn⟩ := input
  unfold CleanRemoves Approved interactiveCleanStep
  cases stopped : state.stopped with
  | true => simp
  | false =>
      cases reached : args.targetFree.any (reaches turn) with
      | true => simp [reached, InteractiveState.skip]
      | false =>
          have deletes := @delete_removed F state turn candidate
          have deletesAll := @delete_removed F { state with deleteAll := true } turn candidate
          cases answered : state.answer turn with
          | none => simp [reached, answered, InteractiveState.stop]
          | some answer =>
              cases used : nowInUse turn candidate <;> cases answer <;>
                simp [reached, used, answered, InteractiveState.skip, InteractiveState.stop]
              · simpa [stopped] using deletes
              · simpa [stopped] using deletesAll

/-- A round of the emergency command removes its candidate or nothing. -/
theorem interactiveEmergencyStep_removed [Float64 F] (args : EmergencyArgs F)
    (state : InteractiveState F) (input : CandidacyScore F × Turn F)
    : (EmergencyRemoves args state input
        ∧ (interactiveEmergencyStep args state input).removed
          = state.removed ++ [(input.1, input.2.atRemoval)])
      ∨ (¬ EmergencyRemoves args state input
        ∧ (interactiveEmergencyStep args state input).removed = state.removed) := by
  obtain ⟨candidate, turn⟩ := input
  unfold EmergencyRemoves Approved interactiveEmergencyStep
  cases stopped : state.stopped with
  | true => simp
  | false =>
      cases reached : reaches turn args.targetFree with
      | true => simp [reached, InteractiveState.stop]
      | false =>
          have deletes := @delete_removed F state turn candidate
          have deletesAll := @delete_removed F { state with deleteAll := true } turn candidate
          cases answered : state.answer turn with
          | none => simp [reached, answered, InteractiveState.stop]
          | some answer =>
              cases answer <;>
                simp [reached, answered, InteractiveState.skip, InteractiveState.stop]
              · simpa [stopped] using deletes
              · simpa [stopped] using deletesAll

/-- After a round that removed its candidate or nothing, the floor is kept exactly if a
removed candidate was above it.
-/
theorem floorKept_after_iff {removes : Prop}
    {before after : InteractiveState F} {input : CandidacyScore F × Turn F}
    (removed : (removes ∧ after.removed = before.removed ++ [(input.1, input.2.atRemoval)])
      ∨ (¬ removes ∧ after.removed = before.removed))
    (kept : FloorKept config before)
    : FloorKept config after
      ↔ (removes → AboveFloor config input.2.atRemoval input.1) := by
  unfold FloorKept at kept ⊢
  rcases removed with ⟨holds, same⟩ | ⟨fails, same⟩
  · rw [same, ← batchWouldDelete_iff]
    constructor
    · intro all _
      exact all _ (List.mem_append_right _ List.mem_cons_self)
    · intro last removal member
      rcases List.mem_append.mp member with earlier | now
      · exact kept removal earlier
      · cases List.mem_singleton.mp now
        exact last holds
  · rw [same]
    exact ⟨fun _ holds => absurd holds fails, fun _ => kept⟩

theorem start_floorKept (config : DeletionConfig F)
    : FloorKept config InteractiveState.start :=
  fun _ member => absurd member List.not_mem_nil

/-- Whatever the plan, the answers and the changes other processes make, an interactive
command removes only what batch cleanup would let through at that moment exactly when each
candidate it removes is above the floor then; the command itself sees to none of it.
-/
theorem interactive_floorKept_iff [Float64 F] (settings : CleanupSettings F)
    (clean : CleanArgs F) (emergency : EmergencyArgs F)
    (inputs : List (CandidacyScore F × Turn F))
    : ((∀ state ∈ states (interactiveCleanStep clean) .start inputs,
          FloorKept (cleanDeletionConfig settings clean) state)
        ↔ Guarded (interactiveCleanStep clean)
            (fun state input => CleanRemoves clean state input →
              AboveFloor (cleanDeletionConfig settings clean) input.2.atRemoval input.1)
            .start inputs)
      ∧ ((∀ state ∈ states (interactiveEmergencyStep emergency) .start inputs,
          FloorKept (emergencyDeletionConfig settings) state)
        ↔ Guarded (interactiveEmergencyStep emergency)
            (fun state input => EmergencyRemoves emergency state input →
              AboveFloor (emergencyDeletionConfig settings) input.2.atRemoval input.1)
            .start inputs) := by
  constructor
  · exact invariant_iff_guarded
      (fun state input kept =>
        floorKept_after_iff (interactiveCleanStep_removed clean state input) kept)
      (start_floorKept _)
  · exact invariant_iff_guarded
      (fun state input kept =>
        floorKept_after_iff (interactiveEmergencyStep_removed emergency state input) kept)
      (start_floorKept _)

def sampleSettings : CleanupSettings ℚ := ⟨10, .v2, 1 / 2⟩

def sampleCleanArgs : CleanArgs ℚ := ⟨none, 7 / 10, none, false⟩

/-- The operator answers "y" and nothing changes on the way. -/
def quietTurn : Turn ℚ :=
  ⟨some 5, some "y\n", emptyDirectories, emptyDirectories, emptyDirectories⟩

/-- Batch cleanup refuses a project under `/data/projects`, both interactive commands remove
it on a plain "y".
-/
theorem interactive_removes_project
    : (¬ ∀ state ∈ states (interactiveCleanStep sampleCleanArgs) .start
          [(candidateAt "/data/projects/foo", quietTurn)],
        FloorKept (cleanDeletionConfig sampleSettings sampleCleanArgs) state)
      ∧ ¬ ∀ state ∈ states (interactiveEmergencyStep ⟨10⟩) .start
          [(candidateAt "/data/projects/foo", quietTurn)],
        FloorKept (emergencyDeletionConfig sampleSettings) state := by
  have removed : (candidateAt "/data/projects/foo", emptyDirectories)
        ∈ (interactiveCleanStep sampleCleanArgs .start
          (candidateAt "/data/projects/foo", quietTurn)).removed
      ∧ (candidateAt "/data/projects/foo", emptyDirectories)
        ∈ (interactiveEmergencyStep ⟨10⟩ .start
          (candidateAt "/data/projects/foo", quietTurn)).removed := by
    constructor
    · exact List.mem_cons_self
    · exact List.mem_cons_self
  have refused : isHardcodedSourceTree (candidateAt "/data/projects/foo").path = true := by
    decide
  constructor
  · intro kept
    have passes := kept _ (final_mem_states _ _) _ removed.1
    exact absurd (batchWouldDelete_iff.mp passes).noSourceTree (by simp [refused])
  · intro kept
    have passes := kept _ (final_mem_states _ _) _ removed.2
    exact absurd (batchWouldDelete_iff.mp passes).noSourceTree (by simp [refused])

end StorageBallast
