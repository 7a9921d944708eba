import Mathlib.Data.List.Basic
import Mathlib.Data.List.Sort
import Mathlib.Tactic.Common

/-! The loop that keeps the best value seen so far, and gives way only to a strictly better
one. What it ends with is the first of the best.
-/

namespace StorageBallast.FirstMaxima

variable {α : Type*}

def keep (beats : α → α → Bool) (best : Option α) (next : α) : Option α :=
  match best with
  | none => some next
  | some held => if beats next held then some next else some held

def pick (beats : α → α → Bool) (best : Option α) (values : List α) : Option α :=
  values.foldl (keep beats) best

/-- On the valid values, beating is a strict order, and values that do not beat each other are
alike.
-/
structure StrictWeak (valid : α → Prop) (beats : α → α → Bool) : Prop where
  trans : ∀ {a b c}, beats c b = true → beats b a = true → beats c a = true
  split : ∀ {a b c}, valid a → valid b → valid c →
    beats c a = true → beats c b = true ∨ beats b a = true

def IsFirst (beats : α → α → Bool) (values : List α) (winner : α) : Prop :=
  ∃ before after, values = before ++ winner :: after
    ∧ (∀ other ∈ before, beats winner other = true)
    ∧ ∀ other ∈ after, beats other winner = false

variable {valid : α → Prop} {beats : α → α → Bool} {values : List α}

theorem pick_isSome (held : α) : (pick beats (some held) values).isSome := by
  induction values generalizing held with
  | nil => rfl
  | cons next rest ih =>
      change (pick beats (keep beats (some held) next) rest).isSome
      unfold keep
      dsimp only
      split <;> exact ih _

/-- The loop ends with the first of the best, by induction on what is left. -/
theorem isFirst_of_pick (weak : StrictWeak valid beats) {held winner : α}
    (all : ∀ value ∈ held :: values, valid value)
    (picked : pick beats (some held) values = some winner)
    : IsFirst beats (held :: values) winner := by
  induction values generalizing held with
  | nil =>
      cases picked
      exact ⟨[], [], rfl, by simp, by simp⟩
  | cons next rest ih =>
      have validHeld := all held List.mem_cons_self
      have validNext := all next (List.mem_cons_of_mem _ List.mem_cons_self)
      have validRest : ∀ value ∈ rest, valid value := fun value member =>
        all value (List.mem_cons_of_mem _ (List.mem_cons_of_mem _ member))
      change pick beats (keep beats (some held) next) rest = some winner at picked
      unfold keep at picked
      dsimp only at picked
      split at picked
      · rename_i better
        obtain ⟨before, after, same, beaten, unbeaten⟩ :=
          ih (List.forall_mem_cons.mpr ⟨validNext, validRest⟩) picked
        refine ⟨held :: before, after, by rw [same]; rfl, ?_, unbeaten⟩
        refine List.forall_mem_cons.mpr ⟨?_, beaten⟩
        cases before with
        | nil =>
            obtain ⟨rfl, -⟩ := List.cons_eq_cons.mp same
            exact better
        | cons first before =>
            obtain ⟨rfl, -⟩ := List.cons_eq_cons.mp same
            exact weak.trans (beaten _ List.mem_cons_self) better
      · rename_i notBetter
        obtain ⟨before, after, same, beaten, unbeaten⟩ :=
          ih (List.forall_mem_cons.mpr ⟨validHeld, validRest⟩) picked
        cases before with
        | nil =>
            obtain ⟨rfl, rfl⟩ := List.cons_eq_cons.mp same
            refine ⟨[], next :: rest, rfl, by simp, ?_⟩
            exact List.forall_mem_cons.mpr ⟨by simpa using notBetter, unbeaten⟩
        | cons first before =>
            obtain ⟨rfl, rest_eq⟩ := List.cons_eq_cons.mp same
            refine ⟨held :: next :: before, after, by rw [rest_eq]; rfl, ?_, unbeaten⟩
            have beatsHeld := beaten held List.mem_cons_self
            refine List.forall_mem_cons.mpr ⟨beatsHeld, List.forall_mem_cons.mpr ⟨?_, ?_⟩⟩
            · have validWinner : valid winner := validRest winner (by rw [rest_eq]; simp)
              exact (weak.split validHeld validNext validWinner beatsHeld).resolve_right
                notBetter
            · exact fun other member => beaten other (List.mem_cons_of_mem _ member)

/-- Only one position of a list is that of the first of the best. -/
theorem IsFirst.unique {winner other : α}
    (first : IsFirst beats values winner) (also : IsFirst beats values other)
    : winner = other := by
  obtain ⟨before, after, rfl, beaten, unbeaten⟩ := first
  obtain ⟨front, back, same, beatenAlso, unbeatenAlso⟩ := also
  rcases List.append_eq_append_iff.mp same with ⟨middle, rfl, tail⟩ | ⟨middle, rfl, tail⟩
  · cases middle with
    | nil => exact (List.cons_eq_cons.mp tail).1
    | cons head middle =>
        obtain ⟨rfl, rfl⟩ := List.cons_eq_cons.mp tail
        have won := beatenAlso winner (by simp)
        rw [unbeaten other (by simp)] at won
        cases won
  · cases middle with
    | nil => exact (List.cons_eq_cons.mp tail).1.symm
    | cons head middle =>
        obtain ⟨rfl, rfl⟩ := List.cons_eq_cons.mp tail
        have won := beaten other (by simp)
        rw [unbeatenAlso winner (by simp)] at won
        cases won

/-- From nothing, the loop ends with a value exactly if it is the first of the best. -/
theorem pick_eq_some_iff (weak : StrictWeak valid beats) {winner : α}
    (all : ∀ value ∈ values, valid value)
    : pick beats none values = some winner ↔ IsFirst beats values winner := by
  cases values with
  | nil => simp [pick, IsFirst]
  | cons held rest =>
      change pick beats (some held) rest = some winner ↔ _
      refine ⟨isFirst_of_pick weak all, fun first => ?_⟩
      obtain ⟨other, picked⟩ := Option.isSome_iff_exists.mp (@pick_isSome _ beats _ held)
      rw [picked, first.unique (isFirst_of_pick weak all picked)]

end StorageBallast.FirstMaxima

/-! Stable sorting by a comparison of which nothing need be known. What the comparison decides
first of all is sorted by it, even if it answers at random where that is equal.
-/

namespace StorageBallast.Sorting

variable {α κ : Type}

/-- `sort_by`, which keeps the order of what compares as equal. -/
def sortBy (order : α → α → Ordering) (list : List α) : List α :=
  list.insertionSort fun left right => order left right ≠ .gt

theorem sortBy_perm (order : α → α → Ordering) (list : List α)
    : (sortBy order list).Perm list :=
  List.perm_insertionSort _ list

variable {list : List α}

theorem mem_sortBy {order : α → α → Ordering} {a : α}
    : a ∈ sortBy order list ↔ a ∈ list :=
  (sortBy_perm order list).mem_iff

/-- A rearrangement of what is found in a list is what is found in a rearrangement of the list;
by induction on what is found.
-/
theorem exists_perm_filterMap {β : Type} (f : β → Option α) {found : List α} {list : List β}
    (perm : found.Perm (list.filterMap f))
    : ∃ reading : List β, reading.Perm list ∧ reading.filterMap f = found := by
  induction found generalizing list with
  | nil => exact ⟨list, .refl _, List.perm_nil.mp perm.symm⟩
  | cons first rest ih =>
      obtain ⟨entry, member, leads⟩ := List.mem_filterMap.mp (perm.subset List.mem_cons_self)
      obtain ⟨before, after, rfl⟩ := List.append_of_mem member
      have front : (entry :: (before ++ after)).Perm (before ++ entry :: after) :=
        List.perm_middle.symm
      have permRest : (first :: rest).Perm (first :: (before ++ after).filterMap f) := by
        have found := perm.trans (front.filterMap f).symm
        rwa [List.filterMap_cons_some leads] at found
      obtain ⟨reading, permReading, same⟩ := ih ((List.perm_cons first).mp permRest)
      refine ⟨entry :: reading, (permReading.cons entry).trans front, ?_⟩
      rw [List.filterMap_cons_some leads, same]

/-- A listing is what sorting gives for some order of reading exactly if it has what there is to
find and is sorted.
-/
theorem exists_reading_iff {order : α → α → Ordering} {β : Type} (f : β → Option α)
    {list : List β} {listing : List α}
    (sorts : ∀ found : List α, (sortBy order found).Pairwise fun left right =>
      order left right ≠ .gt)
    : (∃ reading : List β, reading.Perm list ∧ sortBy order (reading.filterMap f) = listing)
      ↔ listing.Perm (list.filterMap f)
        ∧ listing.Pairwise fun left right => order left right ≠ .gt := by
  constructor
  · intro ⟨reading, perm, same⟩
    rw [← same]
    exact ⟨(sortBy_perm order _).trans (perm.filterMap f), sorts _⟩
  · intro ⟨perm, sorted⟩
    obtain ⟨reading, permReading, same⟩ := exists_perm_filterMap f perm
    refine ⟨reading, permReading, ?_⟩
    rw [same]
    exact List.Pairwise.insertionSort_eq sorted

/-- The comparison of a total order sorts the permutations of a list alike. -/
theorem sortBy_eq_of_perm {order : α → α → Ordering} [Std.TransCmp order]
    [Std.LawfulEqCmp order] {left right : List α} (perm : left.Perm right)
    : sortBy order left = sortBy order right := by
  have notGt (a b : α) : order a b ≠ .gt ↔ (order a b).isLE = true := Ordering.isLE_iff_ne_gt.symm
  have total : Std.Total fun a b => order a b ≠ .gt := by
    refine ⟨fun a b => ?_⟩
    have swapped : order b a = (order a b).swap := Std.OrientedCmp.eq_swap
    rw [swapped]
    cases order a b <;> simp
  have trans : IsTrans α fun a b => order a b ≠ .gt := by
    refine ⟨fun a b c low high => ?_⟩
    rw [notGt] at low high ⊢
    exact Std.TransCmp.isLE_trans low high
  refine List.Perm.eq_of_pairwise (fun a b _ _ low high => ?_)
    (List.pairwise_insertionSort _ left) (List.pairwise_insertionSort _ right)
    ((sortBy_perm order left).trans (perm.trans (sortBy_perm order right).symm))
  rw [notGt] at low high
  exact Std.LawfulEqCmp.eq_of_compare (Std.OrientedCmp.isLE_antisymm low high)

/-- A list is sorted by any relation that is total and transitive on its own members. -/
theorem pairwise_insertionSort_of_mem {before : α → α → Prop} [DecidableRel before]
    (total : ∀ a ∈ list, ∀ b ∈ list, before a b ∨ before b a)
    (trans : ∀ a ∈ list, ∀ b ∈ list, ∀ c ∈ list, before a b → before b c → before a c)
    : (list.insertionSort before).Pairwise before := by
  let among (left right : { a // a ∈ list }) : Prop := before left.1 right.1
  have decides : DecidableRel among := fun left right => inferInstanceAs (Decidable (before _ _))
  have totalAmong : Std.Total among := ⟨fun left right => total _ left.2 _ right.2⟩
  have transAmong : IsTrans _ among :=
    ⟨fun left middle right => trans _ left.2 _ middle.2 _ right.2⟩
  have sorted := List.pairwise_insertionSort among list.attach
  have image : (list.attach.insertionSort among).map Subtype.val = list.insertionSort before := by
    rw [List.map_insertionSort among before Subtype.val list.attach fun _ _ _ _ => Iff.rfl,
      List.attach_map_subtype_val]
  rw [← image]
  exact List.pairwise_map.mpr sorted

structure OrdersTotally (order : α → α → Ordering) (list : List α) : Prop where
  oriented : ∀ a ∈ list, ∀ b ∈ list, order b a = (order a b).swap
  trans
    : ∀ a ∈ list, ∀ b ∈ list, ∀ c ∈ list,
        order a b ≠ .gt → order b c ≠ .gt → order a c ≠ .gt

theorem OrdersTotally.subset {order : α → α → Ordering} {left right : List α}
    (total : OrdersTotally order left) (subset : right ⊆ left) : OrdersTotally order right where
  oriented a inA b inB := total.oriented a (subset inA) b (subset inB)
  trans a inA b inB c inC := total.trans a (subset inA) b (subset inB) c (subset inC)

theorem OrdersTotally.of_key (compare : κ → κ → Ordering) [Std.TransCmp compare] (key : α → κ)
    (list : List α)
    : OrdersTotally (fun left right => compare (key left) (key right)) list where
  oriented _ _ _ _ := Std.OrientedCmp.eq_swap
  trans a _ b _ c _ low high := by
    have notGt (x y : κ) : compare x y ≠ .gt ↔ (compare x y).isLE = true :=
      Ordering.isLE_iff_ne_gt.symm
    rw [notGt] at low high ⊢
    exact Std.TransCmp.isLE_trans low high

theorem then_ne_gt_iff (first second : Ordering)
    : first.then second ≠ .gt ↔ first ≠ .gt ∧ (first = .eq → second ≠ .gt) := by
  cases first <;> simp

/-- A second comparison where the first one decides nothing. -/
theorem OrdersTotally.then {first second : α → α → Ordering}
    (one : OrdersTotally first list) (two : OrdersTotally second list)
    : OrdersTotally (fun left right => (first left right).then (second left right)) list where
  oriented a inA b inB := by
    rw [one.oriented a inA b inB, two.oriented a inA b inB, Ordering.swap_then]
  trans a inA b inB c inC low high := by
    rw [then_ne_gt_iff] at low high ⊢
    refine ⟨one.trans a inA b inB c inC low.1 high.1, fun same => ?_⟩
    -- Where the ends are equal, both halves are.
    have back : first c a ≠ .gt := by
      rw [one.oriented a inA c inC, same]
      decide
    have equalOf {x y : α} (inX : x ∈ list) (inY : y ∈ list) (below : first x y ≠ .gt)
        (above : first y x ≠ .gt) : first x y = .eq := by
      rw [one.oriented x inX y inY] at above
      cases compared : first x y with
      | eq => rfl
      | lt => exact absurd (congrArg Ordering.swap compared) above
      | gt => exact absurd compared below
    have lowEq := equalOf inA inB low.1 (one.trans b inB c inC a inA high.1 back)
    have highEq := equalOf inB inC high.1 (one.trans c inC a inA b inB back low.1)
    exact two.trans a inA b inB c inC (low.2 lowEq) (high.2 highEq)

/-- `sort_unstable_by`: all members stay, and a total order sorts them. Nothing else is said, in
particular not in which order those come that compare as equal.
-/
structure UnstableSort (α : Type) where
  run : (α → α → Ordering) → List α → List α
  perm : ∀ order list, (run order list).Perm list
  sorted
    : ∀ order list, OrdersTotally order list
      → (run order list).Pairwise fun left right => order left right ≠ .gt

def stableSort (α : Type) : UnstableSort α where
  run := sortBy
  perm := sortBy_perm
  sorted order list total := by
    refine pairwise_insertionSort_of_mem (fun a inA b inB => ?_) total.trans
    rw [total.oriented a inA b inB]
    cases order a b <;> simp

/-- Where only equal members compare as equal, unstable sorts agree, whatever the order of the
list is to begin with.
-/
theorem UnstableSort.run_eq_of_perm {α : Type} {order : α → α → Ordering} {left right : List α}
    (sort other : UnstableSort α) (perm : left.Perm right) (total : OrdersTotally order left)
    (strict : ∀ a ∈ left, ∀ b ∈ left, order a b = .eq → a = b)
    : sort.run order left = other.run order right := by
  have keptLeft := sort.perm order left
  have keptRight := other.perm order right
  refine List.Perm.eq_of_pairwise (fun a b inA inB low high => ?_) (sort.sorted order left total)
    (other.sorted order right (total.subset perm.symm.subset))
    (keptLeft.trans (perm.trans keptRight.symm))
  have inLeft := keptLeft.mem_iff.mp inA
  have alsoInLeft := perm.mem_iff.mpr (keptRight.mem_iff.mp inB)
  have swapped := total.oriented a inLeft b alsoInLeft
  refine strict a inLeft b alsoInLeft ?_
  cases compared : order a b with
  | eq => rfl
  | lt => exact absurd (swapped.trans (congrArg Ordering.swap compared)) high
  | gt => exact absurd compared low

variable {order : α → α → Ordering}

def TiesBehind (order : α → α → Ordering) (count : Nat) (list : List α) : Prop :=
  ∀ a ∈ list, ∀ b ∈ list, a ≠ b → order a b = .eq
    → count ≤ list.countP fun before => order before a = .lt

theorem TiesBehind.perm {count : Nat} {left right : List α}
    (behind : TiesBehind order count left) (perm : left.Perm right)
    : TiesBehind order count right := by
  intro a inA b inB apart tied
  rw [← perm.countP_eq]
  exact behind a (perm.mem_iff.mpr inA) b (perm.mem_iff.mpr inB) apart tied

/-- Sorted lists of the same members agree as far as no tie reaches. By induction on how far: the
first members are both least, so they are one unless they are tied, and behind them there is
one member less before each tie.
-/
theorem take_eq_of_tiesBehind {count : Nat} {left right : List α} (perm : left.Perm right)
    (total : OrdersTotally order left)
    (leftSorted : left.Pairwise fun a b => order a b ≠ .gt)
    (rightSorted : right.Pairwise fun a b => order a b ≠ .gt)
    (behind : TiesBehind order count left) : left.take count = right.take count := by
  induction count generalizing left right with
  | zero => simp
  | succ count ih =>
      cases left with
      | nil => rw [List.nil_perm.mp perm]
      | cons a rest =>
          cases right with
          | nil => exact absurd perm.length_eq (by simp)
          | cons b others =>
              obtain ⟨least, restSorted⟩ := List.pairwise_cons.mp leftSorted
              obtain ⟨alsoLeast, othersSorted⟩ := List.pairwise_cons.mp rightSorted
              have same : a = b := by
                by_contra apart
                have inRest : b ∈ rest :=
                  (List.mem_cons.mp (perm.mem_iff.mpr List.mem_cons_self)).resolve_left
                    (Ne.symm apart)
                have inOthers : a ∈ others :=
                  (List.mem_cons.mp (perm.mem_iff.mp List.mem_cons_self)).resolve_left apart
                have swapped := total.oriented a List.mem_cons_self b
                  (List.mem_cons_of_mem _ inRest)
                have tied : order a b = .eq := by
                  have low := least b inRest
                  have high := alsoLeast a inOthers
                  rw [swapped] at high
                  cases compared : order a b with
                  | eq => rfl
                  | lt => exact absurd (congrArg Ordering.swap compared) high
                  | gt => exact absurd compared low
                have before := behind a List.mem_cons_self b (List.mem_cons_of_mem _ inRest) apart
                  tied
                have none : (a :: rest).countP (fun before => order before a = .lt) = 0 := by
                  refine List.countP_eq_zero.mpr fun other member => ?_
                  rw [decide_eq_true_eq]
                  intro below
                  have above := total.oriented other member a List.mem_cons_self
                  rw [below] at above
                  rcases List.mem_cons.mp member with rfl | later
                  · rw [below] at above
                    cases above
                  · exact least other later above
                omega
              subst same
              have permRest := (List.perm_cons a).mp perm
              have totalRest := total.subset (List.subset_cons_self a rest)
              have behindRest : TiesBehind order count rest := by
                intro x inX y inY apart tied
                have before := behind x (List.mem_cons_of_mem _ inX) y
                  (List.mem_cons_of_mem _ inY) apart tied
                rw [List.countP_cons] at before
                split at before <;> omega
              rw [List.take_succ_cons, List.take_succ_cons,
                ih permRest totalRest restSorted othersSorted behindRest]

theorem takeWhile_eq_filter {keep : α → Bool}
    (closed : list.Pairwise fun a b => keep b = true → keep a = true)
    : list.takeWhile keep = list.filter keep := by
  induction list with
  | nil => rfl
  | cons first rest ih =>
      obtain ⟨head, tail⟩ := List.pairwise_cons.mp closed
      by_cases kept : keep first = true
      · rw [List.takeWhile_cons_of_pos kept, List.filter_cons_of_pos kept, ih tail]
      · have none : rest.filter keep = [] :=
          List.filter_eq_nil_iff.mpr fun other member also => kept (head other member also)
        rw [List.takeWhile_cons_of_neg kept, List.filter_cons_of_neg kept, none]

/-- A stable sort places the first member of a list ahead of what it is tied with. -/
theorem sortBy_first {a : α} (total : OrdersTotally order (a :: list))
    : (sortBy order (a :: list))[list.countP fun before => order before a = .lt]? = some a := by
  have inList {x : α} (member : x ∈ sortBy order list) : x ∈ a :: list :=
    List.mem_cons_of_mem _ (mem_sortBy.mp member)
  have sorted := (stableSort α).sorted order list (total.subset (List.subset_cons_self a list))
  change (sortBy order list).Pairwise _ at sorted
  have below {x : α} (member : x ∈ sortBy order list)
      : order a x = .gt ↔ order x a = .lt := by
    rw [total.oriented a List.mem_cons_self x (inList member)]
    cases order a x <;> simp
  have closed : (sortBy order list).Pairwise fun x y =>
      decide (¬ order a y ≠ .gt) = true → decide (¬ order a x ≠ .gt) = true := by
    refine sorted.imp_of_mem fun {x y} inX inY low => ?_
    rw [decide_eq_true_eq, decide_eq_true_eq, not_not, not_not]
    intro above
    by_contra reached
    exact total.trans a List.mem_cons_self x (inList inX) y (inList inY) reached low above
  have split : sortBy order (a :: list)
      = (sortBy order list).takeWhile (fun x => decide (¬ order a x ≠ .gt))
        ++ a :: (sortBy order list).dropWhile (fun x => decide (¬ order a x ≠ .gt)) :=
    List.orderedInsert_eq_take_drop ..
  have length : ((sortBy order list).filter fun x => decide (¬ order a x ≠ .gt)).length
      = list.countP fun before => order before a = .lt := by
    rw [← List.countP_eq_length_filter, ← (sortBy_perm order list).countP_eq]
    refine List.countP_congr fun x member => ?_
    rw [decide_eq_true_eq, decide_eq_true_eq, not_not]
    exact below member
  rw [split, takeWhile_eq_filter closed, ← length, List.getElem?_append_right le_rfl,
    Nat.sub_self]
  rfl

/-- What is before one of two tied members is before the other one. -/
theorem OrdersTotally.lt_of_tied (total : OrdersTotally order list) {x a b : α}
    (inX : x ∈ list) (inA : a ∈ list) (inB : b ∈ list) (tied : order a b = .eq)
    (below : order x a = .lt) : order x b = .lt := by
  have back : order b a = .eq := by
    rw [total.oriented a inA b inB, tied]
    rfl
  have reached : order x b ≠ .gt :=
    total.trans x inX a inA b inB (by simp [below]) (by simp [tied])
  cases compared : order x b with
  | lt => rfl
  | gt => exact absurd compared reached
  | eq =>
      have above : order b x ≠ .gt := by
        rw [total.oriented x inX b inB, compared]
        decide
      have around := total.trans a inA b inB x inX (by simp [tied]) above
      rw [total.oriented x inX a inA, below] at around
      exact absurd rfl around

/-- A tie that is not behind so many members shows in them: each of its members can be placed
first.
-/
theorem sortBy_take_ne {a b : α} {rest others : List α} {count : Nat}
    (perm : (a :: rest).Perm (b :: others)) (total : OrdersTotally order (a :: rest))
    (apart : a ≠ b) (tied : order a b = .eq)
    (early : (a :: rest).countP (fun before => order before a = .lt) < count)
    : (sortBy order (a :: rest)).take count ≠ (sortBy order (b :: others)).take count := by
  have irrefl {x : α} (inX : x ∈ a :: rest) : order x x ≠ .lt := by
    intro below
    have above := total.oriented x inX x inX
    rw [below] at above
    cases above
  have inB : b ∈ a :: rest := perm.mem_iff.mpr List.mem_cons_self
  have back : order b a = .eq := by
    rw [total.oriented a List.mem_cons_self b inB, tied]
    rfl
  have alike : (a :: rest).countP (fun before => order before a = .lt)
      = (b :: others).countP (fun before => order before b = .lt) := by
    rw [← perm.countP_eq]
    refine List.countP_congr fun x inX => ?_
    rw [decide_eq_true_eq, decide_eq_true_eq]
    exact ⟨total.lt_of_tied inX List.mem_cons_self inB tied,
      total.lt_of_tied inX inB List.mem_cons_self back⟩
  have first := sortBy_first total
  have second := sortBy_first (total.subset perm.symm.subset)
  rw [List.countP_cons_of_neg (by simpa using irrefl List.mem_cons_self)] at early alike
  rw [List.countP_cons_of_neg (by simpa using irrefl inB)] at alike
  intro same
  have lookups := congrArg (fun taken => taken[rest.countP fun before => order before a = .lt]?)
    same
  simp only [List.getElem?_take_of_lt early] at lookups
  rw [first, alike, second] at lookups
  exact apart (Option.some.inj lookups)

variable [LinearOrder κ] {order : α → α → Ordering} {key : α → κ}

def Respects (order : α → α → Ordering) (key : α → κ) : Prop :=
  ∀ left right, (key left < key right → order left right = .lt)
    ∧ (key right < key left → order left right = .gt)

/-- Comparing the other way round respects the key in the dual order. -/
theorem respects_descending (key : α → Nat)
    : Respects (fun left right => compare (key right) (key left))
        fun a => OrderDual.toDual (key a) := by
  intro left right
  constructor
  · exact fun below => Nat.compare_eq_lt.mpr below
  · exact fun above => Nat.compare_eq_gt.mpr above

theorem Respects.le_of_ne_gt (respects : Respects order key) {left right : α}
    (ordered : order left right ≠ .gt) : key left ≤ key right :=
  not_lt.mp fun above => ordered ((respects left right).2 above)

theorem Respects.le_of_gt (respects : Respects order key) {left right : α}
    (ordered : order left right = .gt) : key right ≤ key left :=
  not_lt.mp fun below => by
    have less := (respects left right).1 below
    rw [ordered] at less
    cases less

/-- Inserting keeps a list sorted by the key, by induction on the list. -/
theorem orderedInsert_pairwise (respects : Respects order key) (a : α)
    (sorted : list.Pairwise fun left right => key left ≤ key right)
    : (list.orderedInsert (fun left right => order left right ≠ .gt) a).Pairwise
        fun left right => key left ≤ key right := by
  induction list with
  | nil => simp
  | cons first rest ih =>
      obtain ⟨least, sortedRest⟩ := List.pairwise_cons.mp sorted
      rw [List.orderedInsert_cons]
      split
      next ordered =>
        have below := respects.le_of_ne_gt ordered
        refine List.pairwise_cons.mpr ⟨fun other member => ?_, sorted⟩
        rcases List.mem_cons.mp member with rfl | later
        · exact below
        · exact below.trans (least other later)
      next behind =>
        refine List.pairwise_cons.mpr ⟨fun other member => ?_, ih sortedRest⟩
        rcases (List.mem_orderedInsert _).mp member with rfl | later
        · exact respects.le_of_gt (not_not.mp behind)
        · exact least other later

/-- What is sorted by the comparison is sorted by the key, by induction on the list. -/
theorem sortBy_pairwise (respects : Respects order key) (list : List α)
    : (sortBy order list).Pairwise fun left right => key left ≤ key right := by
  unfold sortBy
  induction list with
  | nil => simp
  | cons first rest ih => exact orderedInsert_pairwise respects first ih

theorem head_le_of_mem (respects : Respects order key) {list rest : List α} {first a : α}
    (sorted : sortBy order list = first :: rest) (member : a ∈ list) : key first ≤ key a := by
  have pairs := sortBy_pairwise respects list
  rw [sorted] at pairs
  have among : a ∈ first :: rest := sorted ▸ mem_sortBy.mpr member
  rcases List.mem_cons.mp among with rfl | later
  · exact le_rfl
  · exact (List.pairwise_cons.mp pairs).1 a later

variable (key) in
/-- A list in an order that its keys allow, the greatest first. -/
structure Arranged (listing list : List α) : Prop where
  perm : listing.Perm list
  sorted : listing.Pairwise fun left right => key right ≤ key left

theorem exists_arranged (key : α → κ) (list : List α) : ∃ listing, Arranged key listing list := by
  have total : Std.Total fun left right : α => key right ≤ key left :=
    ⟨fun left right => le_total (key right) (key left)⟩
  have trans : IsTrans α fun left right => key right ≤ key left :=
    ⟨fun _ _ _ first second => second.trans first⟩
  exact ⟨_, List.perm_insertionSort _ list, List.pairwise_insertionSort _ list⟩

theorem Arranged.of_sublist {part listing : List α} (sub : part.Sublist listing)
    (sorted : listing.Pairwise fun left right => key right ≤ key left)
    : Arranged key part part :=
  ⟨.refl _, sorted.sublist sub⟩

theorem Arranged.ahead {listing list front behind : List α} {a : α}
    (arranged : Arranged key listing list) (split : listing = front ++ a :: behind)
    : ∀ other ∈ front, key a ≤ key other := by
  have sorted := arranged.sorted
  rw [split] at sorted
  intro other member
  exact (List.pairwise_append.mp sorted).2.2 other member a List.mem_cons_self

variable (key) in
/-- A new member is among the first, whatever the order, exactly if there is room for it behind
all others with no smaller key.
-/
theorem kept_iff {a : α} {others : List α} {keep : Nat} (isNew : a ∉ others)
    : (∀ listing, Arranged key listing (a :: others) → a ∈ listing.take keep)
      ↔ others.countP (fun other => key a ≤ key other) < keep := by
  constructor
  · intro always
    by_contra! full
    obtain ⟨ahead, arrangedAhead⟩ :=
      exists_arranged key (others.filter fun other => key a ≤ key other)
    obtain ⟨behind, arrangedBehind⟩ :=
      exists_arranged key (others.filter fun other => !decide (key a ≤ key other))
    have isAhead {other : α} (member : other ∈ ahead) : other ∈ others ∧ key a ≤ key other := by
      have filtered := List.mem_filter.mp (arrangedAhead.perm.subset member)
      exact ⟨filtered.1, of_decide_eq_true filtered.2⟩
    have isBehind {other : α} (member : other ∈ behind) : key other ≤ key a := by
      have filtered := (List.mem_filter.mp (arrangedBehind.perm.subset member)).2
      simp only [Bool.not_eq_true', decide_eq_false_iff_not, not_le] at filtered
      exact filtered.le
    have arranged : Arranged key (ahead ++ a :: behind) (a :: others) := by
      refine ⟨?_, List.pairwise_append.mpr ⟨arrangedAhead.sorted,
        List.pairwise_cons.mpr ⟨fun other => isBehind, arrangedBehind.sorted⟩, ?_⟩⟩
      · have both := (arrangedAhead.perm.append arrangedBehind.perm).trans
          (List.filter_append_perm _ others)
        exact List.perm_middle.trans (both.cons a)
      · intro left inAhead right later
        rcases List.mem_cons.mp later with rfl | inBehind
        · exact (isAhead inAhead).2
        · exact (isBehind inBehind).trans (isAhead inAhead).2
    have enough : keep ≤ ahead.length := by
      rw [arrangedAhead.perm.length_eq, ← List.countP_eq_length_filter]
      exact full
    have taken := always _ arranged
    rw [List.take_append_of_le_length enough] at taken
    exact isNew (isAhead (List.mem_of_mem_take taken)).1
  · intro room listing arranged
    obtain ⟨front, behind, rfl⟩ :=
      List.append_of_mem (arranged.perm.mem_iff.mpr List.mem_cons_self)
    have rest : (front ++ behind).Perm others :=
      (List.perm_cons a).mp (List.perm_middle.symm.trans arranged.perm)
    have counted : front.countP (fun other => key a ≤ key other) = front.length :=
      List.countP_eq_length.mpr fun other member =>
        decide_eq_true (arranged.ahead rfl other member)
    have short : front.length < keep := by
      rw [← rest.countP_eq, List.countP_append] at room
      omega
    rw [List.take_append, List.mem_append]
    right
    obtain ⟨more, count⟩ : ∃ more, keep - front.length = more + 1 :=
      ⟨keep - front.length - 1, by omega⟩
    rw [count, List.take_succ_cons]
    exact List.mem_cons_self

variable (key) in
/-- Where a new member is always kept, what stands first among the kept ones, in any order again,
is the new member or one of the greatest of the others with no smaller key.
-/
theorem leads_iff {a : α} {others : List α} {keep : Nat} {P : α → Prop} (isNew : a ∉ others)
    (room : others.countP (fun other => key a ≤ key other) < keep) (holds : P a)
    : (∀ listing, Arranged key listing (a :: others) → ∀ first rest,
          Arranged key (first :: rest) (listing.take keep) → P first)
      ↔ ∀ other ∈ others, key a ≤ key other
          → (∀ another ∈ others, key another ≤ key other) → P other := by
  constructor
  · intro always other member noLess greatest
    obtain ⟨front, behind, split⟩ := List.append_of_mem member
    obtain ⟨rest, arranged⟩ := exists_arranged key (a :: (front ++ behind))
    have whole : Arranged key (other :: rest) (a :: others) := by
      refine ⟨?_, List.pairwise_cons.mpr ⟨fun next later => ?_, arranged.sorted⟩⟩
      · have turned : (other :: a :: (front ++ behind)).Perm (a :: others) := by
          rw [split]
          exact (List.Perm.swap a other _).trans (List.perm_middle.symm.cons a)
        exact (arranged.perm.cons other).trans turned
      · rcases List.mem_cons.mp (arranged.perm.subset later) with rfl | among
        · exact noLess
        · rw [split] at greatest
          apply greatest next
          rcases List.mem_append.mp among with inFront | inBehind
          · exact List.mem_append_left _ inFront
          · exact List.mem_append_right _ (List.mem_cons_of_mem _ inBehind)
    obtain ⟨more, count⟩ : ∃ more, keep = more + 1 := ⟨keep - 1, by omega⟩
    refine always _ whole other (rest.take more) ?_
    have taken : (other :: rest).take keep = other :: rest.take more := by
      rw [count, List.take_succ_cons]
    rw [← taken]
    exact .of_sublist (List.take_sublist ..) whole.sorted
  · intro greatest listing arranged first rest kept
    have newKept := (kept_iff key isNew).mpr room listing arranged
    have least {next : α} (member : next ∈ listing.take keep) : key next ≤ key first := by
      rcases List.mem_cons.mp (kept.perm.mem_iff.mpr member) with rfl | later
      · exact le_rfl
      · exact (List.pairwise_cons.mp kept.sorted).1 next later
    have firstKept : first ∈ listing.take keep := kept.perm.subset List.mem_cons_self
    rcases List.mem_cons.mp (arranged.perm.subset (List.mem_of_mem_take firstKept)) with
      rfl | among
    · exact holds
    refine greatest first among (least newKept) fun another member => ?_
    have listed : another ∈ listing.take keep ++ listing.drop keep := by
      rw [List.take_append_drop]
      exact arranged.perm.mem_iff.mpr (List.mem_cons_of_mem _ member)
    have apart := arranged.sorted
    rw [← List.take_append_drop keep listing] at apart
    rcases List.mem_append.mp listed with early | late
    · exact least early
    · exact (List.pairwise_append.mp apart).2.2 first firstKept another late

end StorageBallast.Sorting
