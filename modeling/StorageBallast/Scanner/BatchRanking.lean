import StorageBallast.Foundations.FloatOrder
import StorageBallast.Scanner.MerkleIndex
import StorageBallast.Scanner.Scoring

/-! The ranking of a batch of candidates. The sort is not stable, so that the result does not
depend on the order of the batch rests on no two of its members comparing as equal.
-/

namespace StorageBallast

open scoped Float64
open Sorting (OrdersTotally UnstableSort)

variable {F : Type} [Float64 F]

def CandidacyScore.rankingOrder (left right : CandidacyScore F) : Ordering :=
  ((Float64.partialCmp right.totalScore left.totalScore).getD .eq).then
    (PathKey.order left.path.components right.path.components)

def ScoringEngine.scoreBatch (self : ScoringEngine F) (sort : UnstableSort (CandidacyScore F))
    (candidates : List (CandidateInput F)) (urgency : F) : List (CandidacyScore F) :=
  sort.run CandidacyScore.rankingOrder
    (candidates.map fun candidate => self.scoreCandidate candidate urgency)

def CandidacyScore.RanksAbove (left right : CandidacyScore F) : Prop :=
  Float64.le right.totalScore left.totalScore = true
    ∧ (Float64.le left.totalScore right.totalScore = true →
      PathKey.order left.path.components right.path.components = .lt)

namespace CandidacyScore

variable [StrictFloat64 F] {scores : List (CandidacyScore F)}

theorem ordersTotally_ranking
    (ordered : ∀ score ∈ scores, Float64.le score.totalScore score.totalScore = true)
    : OrdersTotally rankingOrder scores :=
  (StrictFloat64.ordersTotally_descending ordered).then
    (.of_key PathKey.order (fun score => score.path.components) scores)

omit [StrictFloat64 F] in
theorem path_of_ranking_eq {left right : CandidacyScore F} (same : left.rankingOrder right = .eq)
    : left.path.components = right.path.components := by
  rw [rankingOrder, Ordering.then_eq_eq] at same
  exact Std.LawfulEqCmp.eq_of_compare same.2

theorem ranksAbove_of_order {left right : CandidacyScore F}
    (ordered : Float64.le left.totalScore left.totalScore = true)
    (alsoOrdered : Float64.le right.totalScore right.totalScore = true)
    (apart : left.path.components ≠ right.path.components)
    (before : left.rankingOrder right ≠ .gt) : left.RanksAbove right := by
  rw [rankingOrder, Sorting.then_ne_gt_iff] at before
  obtain ⟨byScore, byPath⟩ := before
  have atLeast := (StrictFloat64.partialCmp_ne_gt_iff alsoOrdered ordered).mp byScore
  refine ⟨atLeast, fun atMost => ?_⟩
  -- Neither score is greater, so the paths decide, and they differ.
  have equal : (Float64.partialCmp right.totalScore left.totalScore).getD .eq = .eq := by
    cases compared : (Float64.partialCmp right.totalScore left.totalScore).getD .eq with
    | eq => rfl
    | gt => exact absurd compared byScore
    | lt =>
        have below := StrictFloat64.partialCmp_eq_lt_iff.mp compared
        rw [LawfulFloat64.not_le_of_lt below] at atMost
        cases atMost
  cases compared : PathKey.order left.path.components right.path.components with
  | lt => rfl
  | gt => exact absurd compared (byPath equal)
  | eq => exact absurd (Std.LawfulEqCmp.eq_of_compare compared) apart

end CandidacyScore

/-- Distinct paths with scores that can be compared are ranked by score and then by path, and the
order in which the candidates come does not matter.
-/
theorem scoreBatch_ranked [StrictFloat64 F] (self : ScoringEngine F)
    (sort : UnstableSort (CandidacyScore F)) (candidates : List (CandidateInput F)) (urgency : F)
    (distinct : candidates.Pairwise fun left right =>
      left.path.components ≠ right.path.components)
    (comparable : ∀ left ∈ candidates, ∀ right ∈ candidates,
      (Float64.partialCmp (self.scoreCandidate left urgency).totalScore
        (self.scoreCandidate right urgency).totalScore).isSome)
    : let ranked := self.scoreBatch sort candidates urgency
      ranked.Perm (candidates.map fun candidate => self.scoreCandidate candidate urgency)
        ∧ ranked.Pairwise CandidacyScore.RanksAbove
        ∧ ∀ (other : UnstableSort (CandidacyScore F)) (reordered : List (CandidateInput F)),
            reordered.Perm candidates → self.scoreBatch other reordered urgency = ranked := by
  intro ranked
  have subject (candidate : CandidateInput F)
      : (self.scoreCandidate candidate urgency).path = candidate.path :=
    (self.scoreCandidateWithSacredOverlaps_subject candidate urgency []).1
  set scores := candidates.map fun candidate => self.scoreCandidate candidate urgency with eq
  have ordered (score : CandidacyScore F) (member : score ∈ scores)
      : Float64.le score.totalScore score.totalScore = true := by
    obtain ⟨candidate, inBatch, rfl⟩ := List.mem_map.mp member
    exact StrictFloat64.ordered_of_partialCmp (comparable candidate inBatch candidate inBatch)
  have apart : scores.Pairwise fun left right =>
      left.path.components ≠ right.path.components := by
    rw [eq, List.pairwise_map]
    refine distinct.imp fun {left right} differ => ?_
    rw [subject, subject]
    exact differ
  have total := CandidacyScore.ordersTotally_ranking ordered
  have perm : ranked.Perm scores := sort.perm _ scores
  refine ⟨perm, ?_, fun other reordered same => ?_⟩
  · have sorted := sort.sorted _ scores total
    have rankedApart : ranked.Pairwise fun left right =>
        left.path.components ≠ right.path.components :=
      apart.perm perm.symm fun differ => differ.symm
    refine (sorted.and rankedApart).imp_of_mem fun {left right} inLeft inRight both => ?_
    exact CandidacyScore.ranksAbove_of_order (ordered left (perm.mem_iff.mp inLeft))
      (ordered right (perm.mem_iff.mp inRight)) both.2 both.1
  · refine (sort.run_eq_of_perm other (same.symm.map _) total fun left inLeft right inRight alike =>
      ?_).symm
    -- Members with one path are one member.
    by_contra differ
    have symmetric : Std.Symm fun (one two : CandidacyScore F) =>
        one.path.components ≠ two.path.components := ⟨fun _ _ apart => apart.symm⟩
    exact apart.forall inLeft inRight differ (CandidacyScore.path_of_ranking_eq alike)

def buildDirectories : List (CandidateInput ℝ) :=
  ["/work/a/target", "/work/b/target"].map fun path => {
    path := ⟨path⟩
    sizeBytes := 1024
    age := Duration.fromSecs 86400
    classification := {
      patternName := "rust-target"
      category := .rustTarget
      nameConfidence := 1
      structuralConfidence := 1
      combinedConfidence := 1 }
    signals := .default
    activeReferences := .default
    isOpen := false
    excluded := false }

theorem buildDirectories_ranked
    : let engine : ScoringEngine ℝ := .fromConfig .default 60
      let ranked := engine.scoreBatch (Sorting.stableSort _) buildDirectories 0.5
      ranked.Perm (buildDirectories.map fun candidate => engine.scoreCandidate candidate 0.5)
        ∧ ranked.Pairwise CandidacyScore.RanksAbove
        ∧ ∀ (other : UnstableSort (CandidacyScore ℝ)) (reordered : List (CandidateInput ℝ)),
            reordered.Perm buildDirectories → engine.scoreBatch other reordered 0.5 = ranked :=
  scoreBatch_ranked _ _ _ _
    (by
      have apart : (⟨"/work/a/target"⟩ : PathBuf).components
          ≠ (⟨"/work/b/target"⟩ : PathBuf).components := by decide
      exact List.pairwise_pair.mpr apart)
    fun _ _ _ _ =>
      StrictFloat64.partialCmp_ordered (real_le_iff.mpr le_rfl) (real_le_iff.mpr le_rfl)

end StorageBallast
