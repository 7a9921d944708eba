import StorageBallast.Foundations.Paths

/-! What excluded paths leave of a walk: a directory is reached exactly if no excluded path
lies on the way from the root of the walk down to it.
-/

namespace StorageBallast

inductive DirTree where
  | node (children : List (FileName × DirTree))

mutual

def DirTree.walkBelow (excluded : List Location) (path : Location) : DirTree → List Location
  | .node children =>
      if excluded.contains path then [] else walkChildren excluded path children

def walkChildren (excluded : List Location) (path : Location)
    : List (FileName × DirTree) → List Location
  | [] => []
  | (name, child) :: rest =>
      (if excluded.contains (path.descend [name]) then []
        else path.descend [name] :: child.walkBelow excluded (path.descend [name]))
      ++ walkChildren excluded path rest

end

def Unhidden (excluded : List Location) (path dir : Location) : Prop :=
  ∀ cover ∈ excluded, cover.startsWith path = true → dir.startsWith cover = false

variable {excluded : List Location}

/-- Below a child that is not excluded itself, only what lies below the child hides. -/
theorem unhidden_child_iff {path dir : Location} {name : FileName}
    (free : path ∉ excluded) (below : dir.startsWith (path.descend [name]) = true)
    : Unhidden excluded path dir ↔ Unhidden excluded (path.descend [name]) dir := by
  constructor
  · intro unhidden cover member lower
    exact unhidden cover member
      (Location.startsWith_trans lower (path.descend_startsWith [name]))
  · intro unhidden cover member lower
    rw [Bool.eq_false_iff]
    intro inside
    rcases Location.startsWith_child lower inside below with rfl | under
    · exact free member
    · exact absurd inside (Bool.eq_false_iff.mp (unhidden cover member under))

/-- A directory that is not excluded is not hidden from itself. -/
theorem unhidden_self {dir : Location} (free : dir ∉ excluded)
    : Unhidden excluded dir dir := by
  intro cover member lower
  rw [Bool.eq_false_iff]
  intro inside
  exact free (Location.startsWith_antisymm lower inside ▸ member)

mutual

theorem DirTree.walkBelow_startsWith {excluded : List Location} {path dir : Location}
    : (tree : DirTree) → dir ∈ tree.walkBelow excluded path → dir.startsWith path = true
  | .node children, member => by
      unfold DirTree.walkBelow at member
      split at member
      · cases member
      · exact walkChildren_startsWith children member

theorem walkChildren_startsWith {excluded : List Location} {path dir : Location}
    : (children : List (FileName × DirTree)) → dir ∈ walkChildren excluded path children →
      dir.startsWith path = true
  | [], member => nomatch member
  | (name, child) :: rest, member => by
      have down := path.descend_startsWith [name]
      unfold walkChildren at member
      rcases List.mem_append.mp member with here | later
      · split at here
        · cases here
        · rcases List.mem_cons.mp here with rfl | below
          · exact down
          · exact Location.startsWith_trans (child.walkBelow_startsWith below) down
      · exact walkChildren_startsWith rest later

end

mutual

/-- The walk comes to the directories of the tree that nothing excluded hides. -/
theorem DirTree.mem_walkBelow_iff {excluded : List Location} {path dir : Location}
    : (tree : DirTree) →
      (dir ∈ tree.walkBelow excluded path
        ↔ dir ∈ tree.walkBelow [] path ∧ Unhidden excluded path dir)
  | .node children => by
      have everything : DirTree.walkBelow [] path (.node children) = walkChildren [] path children := by
        simp [DirTree.walkBelow]
      rw [everything]
      unfold DirTree.walkBelow
      by_cases free : path ∈ excluded
      · rw [if_pos (by simpa using free)]
        apply iff_of_false List.not_mem_nil
        rintro ⟨member, unhidden⟩
        have below := walkChildren_startsWith children member
        have hidden := unhidden path free path.startsWith_self
        exact absurd below (Bool.eq_false_iff.mp hidden)
      · rw [if_neg (by simpa using free)]
        exact mem_walkChildren_iff free children

theorem mem_walkChildren_iff {excluded : List Location} {path dir : Location}
    (free : path ∉ excluded)
    : (children : List (FileName × DirTree)) →
      (dir ∈ walkChildren excluded path children
        ↔ dir ∈ walkChildren [] path children ∧ Unhidden excluded path dir)
  | [] => by simp [walkChildren]
  | (name, child) :: rest => by
      have later : dir ∈ walkChildren excluded path rest
          ↔ dir ∈ walkChildren [] path rest ∧ Unhidden excluded path dir :=
        mem_walkChildren_iff free rest
      have below : dir ∈ child.walkBelow excluded (path.descend [name])
          ↔ dir ∈ child.walkBelow [] (path.descend [name])
            ∧ Unhidden excluded (path.descend [name]) dir :=
        child.mem_walkBelow_iff
      have first : dir ∈ (if excluded.contains (path.descend [name]) then []
            else path.descend [name] :: child.walkBelow excluded (path.descend [name]))
          ↔ dir ∈ path.descend [name] :: child.walkBelow [] (path.descend [name])
            ∧ Unhidden excluded path dir := by
        have low : dir ∈ path.descend [name] :: child.walkBelow [] (path.descend [name]) →
            dir.startsWith (path.descend [name]) = true := by
          intro member
          rcases List.mem_cons.mp member with rfl | deeper
          · exact Location.startsWith_self _
          · exact child.walkBelow_startsWith deeper
        by_cases childFree : path.descend [name] ∈ excluded
        · rw [if_pos (by simpa using childFree)]
          apply iff_of_false List.not_mem_nil
          rintro ⟨member, unhidden⟩
          have hidden := unhidden _ childFree (path.descend_startsWith [name])
          exact absurd (low member) (Bool.eq_false_iff.mp hidden)
        · rw [if_neg (by simpa using childFree), List.mem_cons, below]
          constructor
          · rintro (rfl | ⟨member, unhidden⟩)
            · exact ⟨List.mem_cons_self .., (unhidden_child_iff free
                (Location.startsWith_self _)).mpr (unhidden_self childFree)⟩
            · have member := List.mem_cons_of_mem (path.descend [name]) member
              exact ⟨member, (unhidden_child_iff free (low member)).mpr unhidden⟩
          · rintro ⟨member, unhidden⟩
            have unhidden := (unhidden_child_iff free (low member)).mp unhidden
            exact (List.mem_cons.mp member).imp_right fun deeper => ⟨deeper, unhidden⟩
      simp only [walkChildren, List.mem_append, first, later]
      simp [or_and_right]

end

/-- The directories to walk, each with what lies below it; the walk reports what it comes to
below them.
-/
abbrev DirForest := List (Location × DirTree)

def DirForest.walk (excluded : List Location) (forest : DirForest) : List Location :=
  forest.flatMap fun root => root.2.walkBelow excluded root.1

/-- Something is reported exactly if a walk from one of the roots comes to it unhidden. -/
theorem DirForest.mem_walk_iff {forest : DirForest} {dir : Location}
    : dir ∈ forest.walk excluded
      ↔ ∃ root ∈ forest, dir ∈ root.2.walkBelow [] root.1 ∧ Unhidden excluded root.1 dir := by
  simp only [DirForest.walk, List.mem_flatMap]
  refine exists_congr fun root => and_congr_right fun _ => ?_
  exact root.2.mem_walkBelow_iff

end StorageBallast
