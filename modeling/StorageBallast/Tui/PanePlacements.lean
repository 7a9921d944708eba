import StorageBallast.Tui.DashboardCards

/-! Whether the panes of a screen are drawn apart from each other, and whether those of the first
priority are drawn at all. A list is given a row even where the body has none left for it, and
the narrow diagnostics give the performance panel the row of the footer.
-/

namespace StorageBallast.Tui

open DashboardModel (saturatingAddU16_eq)

def Rect.Disjoint (a b : Rect) : Prop := ∀ x y, ¬ (a.Contains x y ∧ b.Contains x y)

/-- The visible panes are disjoint as far as they are in the body. Of those of the first priority
something is left if the body has nine rows.
-/
structure WellPlaced {Pane : Type} (body : Rect) (placements : List (PanePlacement Pane))
    : Prop where
  disjoint
    : (placements.filter (·.visible)).Pairwise fun a b =>
        (rectInBody body a.rect).Disjoint (rectInBody body b.rect)
  kept
    : 9 ≤ body.height → ∀ placement ∈ placements, placement.priority = .p0
      → placement.visible = true ∧ 0 < (rectInBody body placement.rect).width
        ∧ 0 < (rectInBody body placement.rect).height

def ListPanes.Fit {Pane : Type} (panes : ListPanes Pane) (rows : Nat) : Prop :=
  rows = 0 ∨ panes.topRows + 2 ≤ rows

namespace DashboardModel

variable {F : Type}

def PanesWellPlaced (self : DashboardModel F) : Prop :=
  let body := self.bodyArea
  match self.screen with
  | .overview => WellPlaced body (buildOverviewLayout body.width body.height).placements
  | .timeline => WellPlaced body (buildTimelineLayout body.width body.height).placements
  | .explainability => WellPlaced body (buildExplainabilityLayout body.width body.height).placements
  | .candidates => WellPlaced body (buildCandidatesLayout body.width body.height).placements
  | .ballast => WellPlaced body (buildBallastLayout body.width body.height).placements
  | .logSearch => WellPlaced body (buildLogSearchLayout body.width body.height).placements
  | .diagnostics => WellPlaced body (buildDiagnosticsLayout body.width body.height).placements

/-- The body has rows for the panes of the current screen. The performance panel of the narrow
diagnostics is not among them.
-/
def PanesFit (self : DashboardModel F) : Prop :=
  let rows := self.bodyArea.height
  match self.screen with
  | .overview => True
  | .timeline => timelinePanes.Fit rows
  | .explainability => explainabilityPanes.Fit rows
  | .candidates => candidatesPanes.Fit rows
  | .ballast => ballastPanes.Fit rows
  | .logSearch => logSearchPanes.Fit rows
  | .diagnostics => diagnosticsPanes.Fit rows ∧ ¬ (self.terminalSize.1 < 100 ∧ 20 ≤ rows)

end DashboardModel

structure ListPanes.Composed {Pane : Type} (panes : ListPanes Pane) : Prop where
  topApart : panes.top ≠ some panes.list
  footerApart : panes.footer ≠ panes.list
  top : panes.top = none ↔ panes.topRows = 0
  low : panes.topRows ≤ 3
  wide : panes.topRows + 2 ≤ panes.wideDetailRows
  ultra : panes.topRows + 2 ≤ panes.ultraDetailRows

theorem timelinePanes_composed : timelinePanes.Composed := by constructor <;> decide

theorem explainabilityPanes_composed : explainabilityPanes.Composed := by constructor <;> decide

theorem candidatesPanes_composed : candidatesPanes.Composed := by constructor <;> decide

theorem ballastPanes_composed : ballastPanes.Composed := by constructor <;> decide

theorem logSearchPanes_composed : logSearchPanes.Composed := by constructor <;> decide

theorem diagnosticsPanes_composed : diagnosticsPanes.Composed := by constructor <;> decide

section lists

variable {Pane : Type} {panes : ListPanes Pane} {cols rows : Nat}

def placedList (panes : ListPanes Pane) (cols rows : Nat) : PanePlacement Pane :=
  ⟨panes.list, .p0, ⟨0, panes.topRows, listWidth cols, max (rows - 1 - panes.topRows) 1⟩, true⟩

def placedFooter (panes : ListPanes Pane) (cols rows : Nat) : PanePlacement Pane :=
  ⟨panes.footer, .p0, ⟨0, rows - 1, cols, 1⟩, true⟩

/-- The details are beside the list, and only shown in a body of some rows. -/
structure DetailPlaced (panes : ListPanes Pane) (cols rows : Nat) (detail : PanePlacement Pane)
    : Prop where
  priority : detail.priority ≠ .p0
  width : detail.rect.col + detail.rect.width ≤ cols
  row : detail.rect.row ≤ max rows 4
  beside : detail.visible = true → listWidth cols ≤ detail.rect.col
  under : detail.visible = true → detail.rect.row = panes.topRows
  height : detail.visible = true → detail.rect.row + detail.rect.height ≤ rows - 1
  room : detail.visible = true → panes.topRows + 2 ≤ rows

theorem detailPlaced_narrow
    : DetailPlaced panes cols rows ⟨panes.detail, .p2, ⟨0, 0, 0, 0⟩, false⟩ :=
  ⟨nofun, Nat.zero_le _, Nat.zero_le _, nofun, nofun, nofun, nofun⟩

theorem detailPlaced_beside {col width from_ : Nat} (low : panes.topRows ≤ 3)
    (right : col + width ≤ cols) (beside : listWidth cols ≤ col)
    (room : panes.topRows + 2 ≤ from_)
    : DetailPlaced panes cols rows
        ⟨panes.detail, .p1, ⟨col, panes.topRows, width, max (rows - 1 - panes.topRows) 1⟩,
          decide (from_ ≤ rows)⟩ where
  priority := nofun
  width := right
  row := by dsimp only; omega
  beside _ := beside
  under _ := rfl
  height shown := by
    have enough := of_decide_eq_true shown
    dsimp only
    omega
  room shown := room.trans (of_decide_eq_true shown)

/-- In every class of layouts there are the bar, the list, the details and the footer. -/
theorem buildListLayout_placements (composed : panes.Composed) (large : 40 ≤ cols)
    (small : cols < 2 ^ 16)
    : ∃ detail, DetailPlaced panes cols rows detail
        ∧ (buildListLayout panes cols rows).placements
          = (panes.placeTop cols ++ [placedList panes cols rows, detail])
            ++ [placedFooter panes cols rows] := by
  have full : max cols 1 = cols := by omega
  unfold buildListLayout placedList placedFooter listWidth
  cases class_ : classifyLayout cols with
  | narrow =>
      refine ⟨_, detailPlaced_narrow, ?_⟩
      simp [buildNarrowList, full]
  | wide =>
      have widths := splitColumns_bounds (by omega : 10 ≤ cols) small
      refine ⟨⟨panes.detail, .p1, ⟨(splitColumns cols 1).1 + 1, panes.topRows,
        (splitColumns cols 1).2, max (rows - 1 - panes.topRows) 1⟩,
        decide (panes.wideDetailRows ≤ rows)⟩,
        detailPlaced_beside composed.low (by omega) ?_ composed.wide, ?_⟩
      · rw [listWidth, class_, full]
        exact Nat.le_succ _
      · rw [buildWideList, full]
        dsimp only
        rw [saturatingAddU16_eq (by omega)]
        simp
  | ultraWide =>
      have widths : (splitColumnsRatio cols 2 11 20).1 + 2 + (splitColumnsRatio cols 2 11 20).2
          = cols := by
        dsimp only [splitColumnsRatio, saturatingMulU16]
        rw [if_neg (by decide)]
        dsimp only
        unfold classifyLayout at class_
        split_ifs at class_
        omega
      refine ⟨⟨panes.detail, .p1, ⟨(splitColumnsRatio cols 2 11 20).1 + 2, panes.topRows,
        (splitColumnsRatio cols 2 11 20).2, max (rows - 1 - panes.topRows) 1⟩,
        decide (panes.ultraDetailRows ≤ rows)⟩,
        detailPlaced_beside composed.low (by omega) ?_ composed.ultra, ?_⟩
      · rw [listWidth, class_, full]
        exact Nat.le_add_right _ _
      · rw [buildUltraList, full]
        dsimp only
        rw [saturatingAddU16_eq (by omega)]
        simp

end lists

section bodies

variable {F : Type} {self : DashboardModel F} {Pane : Type}
  {placements : List (PanePlacement Pane)}

/-- A pane is drawn over the cells of the body that it covers. -/
theorem rectInBody_contains (usable : self.Usable) {rect : PaneRect}
    (right : rect.col + rect.width ≤ self.terminalSize.1) (low : rect.row < 2 ^ 16 - 4)
    {x y : Nat}
    : (rectInBody self.bodyArea rect).Contains x y
      ↔ (4 ≤ y ∧ y - 4 < self.bodyArea.height) ∧ rect.Covers x (y - 4) := by
  have cols := usable.cols_lt
  have rows := usable.body_lt
  have left : self.bodyArea.x = 0 := rfl
  have top : self.bodyArea.y = 4 := rfl
  have full : self.bodyArea.width = self.terminalSize.1 := rfl
  unfold rectInBody
  rw [saturatingAddU16_eq (by omega), saturatingAddU16_eq (by omega),
    saturatingAddU16_eq (by omega), saturatingAddU16_eq (by omega), left, top, full]
  dsimp only
  split
  · unfold Rect.Contains PaneRect.Covers
    dsimp only
    omega
  · unfold Rect.Contains PaneRect.Covers
    dsimp only
    omega

theorem rectInBody_nonempty (usable : self.Usable) {rect : PaneRect}
    (right : rect.col + rect.width ≤ self.terminalSize.1) (wide : 0 < rect.width)
    (high : 0 < rect.height) (inside : rect.row < self.bodyArea.height)
    : 0 < (rectInBody self.bodyArea rect).width ∧ 0 < (rectInBody self.bodyArea rect).height := by
  have rows := usable.body_lt
  have corner := (rectInBody_contains usable right (by omega)
    (x := rect.col) (y := rect.row + 4)).mpr ⟨by omega, by unfold PaneRect.Covers; omega⟩
  unfold Rect.Contains at corner
  omega

/-- Panes that are beside or below each other are disjoint in every body. -/
theorem disjoint_of_apart (usable : self.Usable)
    (within : ∀ placement ∈ placements, placement.visible = true →
      placement.rect.col + placement.rect.width ≤ self.terminalSize.1
        ∧ placement.rect.row < 2 ^ 16 - 4)
    (apart : (placements.filter (·.visible)).Pairwise fun a b => a.rect.Apart b.rect)
    : (placements.filter (·.visible)).Pairwise fun a b =>
        (rectInBody self.bodyArea a.rect).Disjoint (rectInBody self.bodyArea b.rect) := by
  refine apart.imp_of_mem fun {a b} inA inB ab x y both => ?_
  obtain ⟨memberA, visibleA⟩ := List.mem_filter.mp inA
  obtain ⟨memberB, visibleB⟩ := List.mem_filter.mp inB
  have withinA := within a memberA visibleA
  have withinB := within b memberB visibleB
  exact ab.not_covers ((rectInBody_contains usable withinB.1 withinB.2).mp both.2).2
    ((rectInBody_contains usable withinA.1 withinA.2).mp both.1).2

theorem disjoint_of_empty (usable : self.Usable) (empty : self.bodyArea.height = 0)
    (within : ∀ placement ∈ placements, placement.visible = true →
      placement.rect.col + placement.rect.width ≤ self.terminalSize.1
        ∧ placement.rect.row < 2 ^ 16 - 4)
    : (placements.filter (·.visible)).Pairwise fun a b =>
        (rectInBody self.bodyArea a.rect).Disjoint (rectInBody self.bodyArea b.rect) := by
  refine List.Pairwise.imp_of_mem (R := fun _ _ => True) (fun {a b} inA _ _ x y both => ?_)
    (List.pairwise_of_forall fun _ _ => trivial)
  obtain ⟨member, visible⟩ := List.mem_filter.mp inA
  have inBody := ((rectInBody_contains usable (within a member visible).1
    (within a member visible).2).mp both.1).1
  omega

/-- Two visible panes over one cell, of which one is the last, are not disjoint. -/
theorem not_disjoint_of_shared {front : List (PanePlacement Pane)} {pane last : PanePlacement Pane}
    {body : Rect} {x y : Nat} (member : pane ∈ front) (visible : pane.visible = true)
    (lastVisible : last.visible = true) (covers : (rectInBody body pane.rect).Contains x y)
    (lastCovers : (rectInBody body last.rect).Contains x y)
    : ¬ WellPlaced body (front ++ [last]) := by
  intro wellPlaced
  have disjoint := wellPlaced.disjoint
  rw [List.filter_append, List.pairwise_append] at disjoint
  exact disjoint.2.2 pane (List.mem_filter.mpr ⟨member, visible⟩) last
    (List.mem_filter.mpr ⟨List.mem_singleton_self last, lastVisible⟩) x y ⟨covers, lastCovers⟩

theorem mem_placeTop {panes : ListPanes Pane} {width : Nat} {placement : PanePlacement Pane}
    : placement ∈ panes.placeTop width
      ↔ ∃ pane, panes.top = some pane
        ∧ placement = ⟨pane, .p0, ⟨0, 0, width, panes.topRows⟩, true⟩ := by
  unfold ListPanes.placeTop
  cases panes.top with
  | none => simp
  | some pane => simp

variable {panes : ListPanes Pane} {cols rows : Nat} {detail : PanePlacement Pane}

theorem listPanes_within (composed : panes.Composed) (large : 40 ≤ cols) (low : rows < 2 ^ 16 - 4)
    (placed : DetailPlaced panes cols rows detail)
    : ∀ placement ∈ (panes.placeTop cols ++ [placedList panes cols rows, detail])
          ++ [placedFooter panes cols rows],
        placement.rect.col + placement.rect.width ≤ cols
          ∧ placement.rect.row < 2 ^ 16 - 4 := by
  have width := listWidth_bounds large
  have topLow := composed.low
  intro placement member
  rw [List.mem_append, List.mem_append, List.mem_pair, List.mem_singleton, mem_placeTop] at member
  rcases member with (⟨pane, _, rfl⟩ | rfl | rfl) | rfl
  · dsimp only
    omega
  · unfold placedList
    dsimp only
    omega
  · exact ⟨placed.width, by have row := placed.row; omega⟩
  · unfold placedFooter
    dsimp only
    omega

/-- With rows for the bar, an item and the footer the panes of a list are apart. -/
theorem listPanes_apart (room : panes.topRows + 2 ≤ rows)
    (placed : DetailPlaced panes cols rows detail)
    : (((panes.placeTop cols ++ [placedList panes cols rows, detail])
          ++ [placedFooter panes cols rows]).filter (·.visible)).Pairwise
        fun a b => a.rect.Apart b.rect := by
  have beside := placed.beside
  have under := placed.under
  have height := placed.height
  have top : ∀ placement ∈ panes.placeTop cols, placement.rect = ⟨0, 0, cols, panes.topRows⟩ := by
    intro placement member
    obtain ⟨pane, _, rfl⟩ := mem_placeTop.mp member
    rfl
  have single : (panes.placeTop cols).Pairwise fun a b =>
      a.visible = true → b.visible = true → a.rect.Apart b.rect := by
    unfold ListPanes.placeTop
    cases panes.top <;> simp
  rw [List.pairwise_filter, List.pairwise_append, List.pairwise_append]
  refine ⟨⟨single, ?_, ?_⟩, List.pairwise_singleton _ _, ?_⟩
  · rw [List.pairwise_pair]
    intro _ shown
    have col := beside shown
    unfold placedList PaneRect.Apart
    dsimp only
    omega
  · intro a inTop b member shownA shownB
    rw [top a inTop]
    rcases List.mem_pair.mp member with rfl | rfl
    · unfold placedList PaneRect.Apart
      dsimp only
      omega
    · have row := under shownB
      unfold PaneRect.Apart
      dsimp only
      omega
  · intro a inFront b member shownA shownB
    rw [List.mem_singleton.mp member]
    rcases List.mem_append.mp inFront with inTop | inPair
    · rw [top a inTop]
      unfold placedFooter PaneRect.Apart
      dsimp only
      omega
    · rcases List.mem_pair.mp inPair with rfl | rfl
      · unfold placedList placedFooter PaneRect.Apart
        dsimp only
        omega
      · have under := height shownA
        unfold placedFooter PaneRect.Apart
        dsimp only
        omega

end bodies

namespace DashboardModel

variable {F : Type} {self : DashboardModel F}

section lists

variable {Pane : Type} {panes : ListPanes Pane}

/-- The panes of a list are well placed exactly if they fit. Otherwise the footer is drawn over the
list, or over the bar.
-/
theorem wellPlaced_listPanes_iff {detail : PanePlacement Pane} (usable : self.Usable)
    (composed : panes.Composed)
    (placed : DetailPlaced panes self.terminalSize.1 self.bodyArea.height detail)
    : WellPlaced self.bodyArea ((panes.placeTop self.terminalSize.1
          ++ [placedList panes self.terminalSize.1 self.bodyArea.height, detail])
        ++ [placedFooter panes self.terminalSize.1 self.bodyArea.height])
      ↔ panes.Fit self.bodyArea.height := by
  have low := usable.body_lt
  have width := listWidth_bounds usable.bounds.1
  have topLow := composed.low
  have within := listPanes_within composed usable.bounds.1 low placed
  have contains := fun placement member => @rectInBody_contains F self usable placement.rect
    (within placement member).1 (within placement member).2
  constructor
  · intro wellPlaced
    by_contra unfit
    obtain ⟨nonempty, few⟩ := not_or.mp unfit
    -- The first cell of the footer is the list's where one row is missing, and else the bar's.
    have footer : (rectInBody self.bodyArea (placedFooter panes self.terminalSize.1
        self.bodyArea.height).rect).Contains 0 (self.bodyArea.height + 3) := by
      rw [contains _ (List.mem_append_right _ (List.mem_singleton_self _))]
      unfold placedFooter PaneRect.Covers
      dsimp only
      omega
    by_cases noRow : self.bodyArea.height = panes.topRows + 1
    · have inFront : placedList panes self.terminalSize.1 self.bodyArea.height
          ∈ panes.placeTop self.terminalSize.1
            ++ [placedList panes self.terminalSize.1 self.bodyArea.height, detail] :=
        List.mem_append_right _ List.mem_cons_self
      refine not_disjoint_of_shared inFront rfl rfl ?_ footer wellPlaced
      rw [contains _ (List.mem_append_left _ inFront)]
      unfold placedList PaneRect.Covers
      dsimp only
      omega
    · obtain ⟨bar, isTop⟩ := Option.ne_none_iff_exists'.mp (mt composed.top.mp (by omega))
      have inFront : ⟨bar, .p0, ⟨0, 0, self.terminalSize.1, panes.topRows⟩, true⟩
          ∈ panes.placeTop self.terminalSize.1
            ++ [placedList panes self.terminalSize.1 self.bodyArea.height, detail] :=
        List.mem_append_left _ (mem_placeTop.mpr ⟨bar, isTop, rfl⟩)
      refine not_disjoint_of_shared inFront rfl rfl ?_ footer wellPlaced
      rw [contains _ (List.mem_append_left _ inFront)]
      unfold PaneRect.Covers
      dsimp only
      omega
  · intro fit
    constructor
    · rcases fit with empty | room
      · exact disjoint_of_empty usable empty fun placement member _ => within placement member
      · exact disjoint_of_apart usable (fun placement member _ => within placement member)
          (listPanes_apart room placed)
    · intro nine placement member first
      have inside := (within placement member).1
      rw [List.mem_append, List.mem_append, List.mem_pair, List.mem_singleton, mem_placeTop]
        at member
      rcases member with (⟨bar, isTop, rfl⟩ | rfl | rfl) | rfl
      · have some_ := mt composed.top.mpr (by rw [isTop]; nofun)
        refine ⟨rfl, rectInBody_nonempty usable inside ?_ ?_ ?_⟩ <;> dsimp only <;> omega
      · refine ⟨rfl, rectInBody_nonempty usable inside ?_ ?_ ?_⟩ <;> unfold placedList
          <;> dsimp only <;> omega
      · exact absurd first placed.priority
      · refine ⟨rfl, rectInBody_nonempty usable inside ?_ ?_ ?_⟩ <;> unfold placedFooter
          <;> dsimp only <;> omega

theorem wellPlaced_list_iff (usable : self.Usable) (composed : panes.Composed)
    : WellPlaced self.bodyArea
        (buildListLayout panes self.bodyArea.width self.bodyArea.height).placements
      ↔ panes.Fit self.bodyArea.height := by
  obtain ⟨detail, placed, placements⟩ := @buildListLayout_placements _ _ _ self.bodyArea.height
    composed usable.bounds.1 usable.cols_lt
  have full : self.bodyArea.width = self.terminalSize.1 := rfl
  rw [full, placements]
  exact wellPlaced_listPanes_iff usable composed placed

end lists

theorem buildOverviewLayout_first {cols rows : Nat}
    : ∀ card ∈ (buildOverviewLayout cols rows).placements, card.priority = .p0
      → card.visible = true ∧ card.rect.row ≤ 6 := by
  unfold buildOverviewLayout
  cases classifyOverviewDensity cols rows <;>
    simp [buildOverviewSm, buildOverviewMd, buildOverviewLg, buildOverviewXl]

theorem wellPlaced_overview (usable : self.Usable)
    : WellPlaced self.bodyArea
        (buildOverviewLayout self.bodyArea.width self.bodyArea.height).placements := by
  have low := usable.body_lt
  have full : self.bodyArea.width = self.terminalSize.1 := rfl
  have arranged := buildOverviewLayout_arranged usable.bounds.1 usable.cols_lt
    (by omega : self.bodyArea.height < 2 ^ 16)
  rw [full]
  constructor
  · refine disjoint_of_apart usable (fun card member visible => ?_) (arranged.apart.filter _)
    have height := arranged.height card member
    have tall := height.2 visible
    exact ⟨(arranged.width card member).2, by omega⟩
  · intro nine card member first
    obtain ⟨visible, row⟩ := buildOverviewLayout_first card member first
    have width := arranged.width card member
    have height := (arranged.height card member).2 visible
    exact ⟨visible, rectInBody_nonempty usable width.2 (by omega) (by omega) (by omega)⟩

/-- The performance panel of the narrow diagnostics. The table takes all rows over the footer, so
the panel has the row after them, which is the footer's.
-/
def placedPerf (cols rows : Nat) : PanePlacement DiagnosticsPane :=
  ⟨.perfPanel, .p2, ⟨0, max (rows - 1) 4, cols, if 20 ≤ rows then 1 else 0⟩, decide (20 ≤ rows)⟩

theorem buildNarrowDiagnostics_placements {cols rows : Nat} (large : 40 ≤ cols)
    (narrow : cols < 100) (low : rows < 2 ^ 16 - 4)
    : (buildNarrowDiagnostics cols rows).placements
      = (diagnosticsPanes.placeTop cols
          ++ [placedList diagnosticsPanes cols rows, placedPerf cols rows])
        ++ [placedFooter diagnosticsPanes cols rows] := by
  have full : max cols 1 = cols := by omega
  have width : listWidth cols = cols := by
    unfold listWidth classifyLayout
    rw [if_pos narrow]
    exact full
  have perfRow : 3 + max (rows - 1 - 3) 1 = max (rows - 1) 4 := by omega
  unfold buildNarrowDiagnostics placedList placedPerf placedFooter
  rw [full, width]
  dsimp only
  rw [saturatingAddU16_eq (by omega), perfRow]
  by_cases visible : 20 ≤ rows
  · simp [visible, ListPanes.placeTop, diagnosticsPanes]
  · simp [visible, ListPanes.placeTop, diagnosticsPanes]

/-- In the narrow diagnostics the performance panel, once it is visible, is on the footer. -/
theorem wellPlaced_narrowDiagnostics_iff (usable : self.Usable)
    (narrow : self.terminalSize.1 < 100)
    : WellPlaced self.bodyArea
        (buildNarrowDiagnostics self.bodyArea.width self.bodyArea.height).placements
      ↔ diagnosticsPanes.Fit self.bodyArea.height ∧ ¬ 20 ≤ self.bodyArea.height := by
  have low := usable.body_lt
  have full : self.bodyArea.width = self.terminalSize.1 := rfl
  rw [full, buildNarrowDiagnostics_placements usable.bounds.1 narrow low]
  by_cases visible : 20 ≤ self.bodyArea.height
  · refine iff_of_false ?_ fun fit => fit.2 visible
    have contains {rect : PaneRect} := @rectInBody_contains F self usable rect
    refine not_disjoint_of_shared (x := 0) (y := self.bodyArea.height + 3)
      (List.mem_append_right _ (List.mem_cons_of_mem _ (List.mem_singleton_self _)))
      (decide_eq_true visible) rfl ?_ ?_
    · unfold placedPerf
      rw [if_pos visible, contains (by simp) (by dsimp only; omega)]
      unfold PaneRect.Covers
      dsimp only
      have bounds := usable.bounds
      omega
    · unfold placedFooter
      rw [contains (by simp) (by dsimp only; omega)]
      unfold PaneRect.Covers
      dsimp only
      have bounds := usable.bounds
      omega
  · rw [and_iff_left visible]
    refine wellPlaced_listPanes_iff usable diagnosticsPanes_composed ⟨nofun, ?_, ?_, ?_, ?_, ?_, ?_⟩
    · simp [placedPerf]
    · dsimp only [placedPerf]
      omega
    all_goals exact fun shown => absurd (of_decide_eq_true shown) visible

theorem wellPlaced_diagnostics_iff (usable : self.Usable)
    : WellPlaced self.bodyArea
        (buildDiagnosticsLayout self.bodyArea.width self.bodyArea.height).placements
      ↔ diagnosticsPanes.Fit self.bodyArea.height
        ∧ ¬ (self.terminalSize.1 < 100 ∧ 20 ≤ self.bodyArea.height) := by
  have full : self.bodyArea.width = self.terminalSize.1 := rfl
  have list := wellPlaced_list_iff usable diagnosticsPanes_composed
  unfold buildDiagnosticsLayout
  unfold buildListLayout at list
  by_cases narrow : self.terminalSize.1 < 100
  · have class_ : classifyLayout self.bodyArea.width = .narrow := by
      rw [full, classifyLayout, if_pos narrow]
    rw [class_]
    simp only [narrow, true_and]
    exact wellPlaced_narrowDiagnostics_iff usable narrow
  · have class_ : classifyLayout self.bodyArea.width ≠ .narrow := by
      rw [full, classifyLayout, if_neg narrow]
      split <;> nofun
    rw [and_iff_left fun both => narrow both.1]
    cases found : classifyLayout self.bodyArea.width with
    | narrow => exact absurd found class_
    | wide => simpa only [found] using list
    | ultraWide => simpa only [found] using list

/-- The panes of a screen are well placed exactly if they fit the body. -/
theorem panesWellPlaced_iff (usable : self.Usable) : self.PanesWellPlaced ↔ self.PanesFit := by
  unfold PanesWellPlaced PanesFit
  dsimp only
  cases self.screen with
  | overview => exact iff_of_true (wellPlaced_overview usable) trivial
  | timeline => exact wellPlaced_list_iff usable timelinePanes_composed
  | explainability => exact wellPlaced_list_iff usable explainabilityPanes_composed
  | candidates => exact wellPlaced_list_iff usable candidatesPanes_composed
  | ballast => exact wellPlaced_list_iff usable ballastPanes_composed
  | logSearch => exact wellPlaced_list_iff usable logSearchPanes_composed
  | diagnostics => exact wellPlaced_diagnostics_iff usable

def diagnosticsOn (cols rows : Nat) : DashboardModel ℚ :=
  { DashboardModel.new 0 (cols, rows) with screen := .diagnostics }

theorem diagnosticsOn_usable : (diagnosticsOn 80 30).Usable :=
  ⟨by decide, by decide, by decide⟩

theorem panesWellPlaced_iff_diagnostics
    : (diagnosticsOn 80 30).PanesWellPlaced ↔ (diagnosticsOn 80 30).PanesFit :=
  panesWellPlaced_iff diagnosticsOn_usable

/-- On a terminal of 80 columns and 30 rows the performance panel has the row of the footer. -/
theorem performance_on_footer
    : ¬ ∀ model : DashboardModel ℚ, model.Usable → model.PanesWellPlaced := by
  intro all
  have wellPlaced := all (diagnosticsOn 80 30) diagnosticsOn_usable
  have disjoint := (wellPlaced_narrowDiagnostics_iff diagnosticsOn_usable (by decide)).mp wellPlaced
  exact disjoint.2 (by decide)

end DashboardModel

end StorageBallast.Tui
