import StorageBallast.Tui.DashboardFrame

/-! The cards of the overview. No two of them overlap, all are within the width of the body, and
each has room for what is drawn in it, whatever the density.
-/

namespace StorageBallast.Tui

open DashboardModel (saturatingAddU16_eq)

namespace PaneRect

def Covers (rect : PaneRect) (x y : Nat) : Prop :=
  rect.col ≤ x ∧ x < rect.col + rect.width ∧ rect.row ≤ y ∧ y < rect.row + rect.height

instance (rect : PaneRect) (x y : Nat) : Decidable (rect.Covers x y) :=
  inferInstanceAs (Decidable (_ ∧ _))

def Apart (a b : PaneRect) : Prop :=
  a.col + a.width ≤ b.col ∨ b.col + b.width ≤ a.col
    ∨ a.row + a.height ≤ b.row ∨ b.row + b.height ≤ a.row

theorem Apart.not_covers {a b : PaneRect} (apart : a.Apart b) {x y : Nat}
    (inSecond : b.Covers x y) : ¬ a.Covers x y := by
  unfold Apart Covers at *
  omega

end PaneRect

/-- Cards in a body of so many columns and rows. -/
structure Arranged (cols rows : Nat) (cards : List (PanePlacement OverviewPane)) : Prop where
  apart : cards.Pairwise fun a b => a.rect.Apart b.rect
  width : ∀ card ∈ cards, 2 ≤ card.rect.width ∧ card.rect.col + card.rect.width ≤ cols
  height
    : ∀ card ∈ cards, card.rect.row + card.rect.height ≤ max rows 24
        ∧ (card.visible = true → 2 ≤ card.rect.height)

/-- Of cards that are apart the one that covers a cell is found, by induction on the cards before
it.
-/
theorem find_of_covers {cards : List (PanePlacement OverviewPane)}
    (apart : cards.Pairwise fun a b => a.rect.Apart b.rect)
    {found : PanePlacement OverviewPane → Bool} {x y : Nat}
    (finds : ∀ card ∈ cards, found card = true ↔ card.rect.Covers x y)
    {card : PanePlacement OverviewPane} (member : card ∈ cards) (covers : card.rect.Covers x y)
    : cards.find? found = some card := by
  induction cards with
  | nil => cases member
  | cons first rest ih =>
      obtain ⟨front, later⟩ := List.pairwise_cons.mp apart
      obtain ⟨findsFirst, findsLater⟩ := List.forall_mem_cons.mp finds
      rcases List.mem_cons.mp member with rfl | inRest
      · exact List.find?_cons_of_pos (findsFirst.mpr covers)
      · have other := (front card inRest).not_covers covers
        rw [List.find?_cons_of_neg (mt findsFirst.mp other)]
        exact ih later findsLater inRest

theorem splitColumns_bounds {cols : Nat} (large : 10 ≤ cols) (small : cols < 2 ^ 16)
    : 2 ≤ (splitColumns cols 1).1 ∧ 2 ≤ (splitColumns cols 1).2
        ∧ (splitColumns cols 1).1 + 1 + (splitColumns cols 1).2 = cols := by
  dsimp only [splitColumns, saturatingMulU16]
  omega

theorem overviewBands_bounds {rows : Nat} (large : 34 ≤ rows)
    : 2 ≤ (overviewBands rows).1 ∧ 2 ≤ (overviewBands rows).2.1
        ∧ (overviewBands rows).1 + (overviewBands rows).2.1 + (overviewBands rows).2.2 = rows := by
  dsimp only [overviewBands, saturatingMulU16]
  omega

theorem buildOverviewSm_arranged {cols : Nat} (large : 40 ≤ cols) (rows : Nat)
    : Arranged cols rows (buildOverviewSm cols rows).placements := by
  have full : max cols 1 = cols := by omega
  unfold buildOverviewSm
  rw [full]
  constructor
  · simp [PaneRect.Apart]
  · simp
    omega
  · simp

theorem buildOverviewMd_arranged {cols : Nat} (large : 120 ≤ cols) (small : cols < 2 ^ 16)
    (rows : Nat) : Arranged cols rows (buildOverviewMd cols rows).placements := by
  have full : max cols 1 = cols := by omega
  have widths := splitColumns_bounds (by omega : 10 ≤ cols) small
  unfold buildOverviewMd
  rw [full]
  dsimp only
  generalize (splitColumns cols 1).1 = leftWidth at widths ⊢
  generalize (splitColumns cols 1).2 = rightWidth at widths ⊢
  rw [saturatingAddU16_eq (by omega)]
  constructor
  · simp [PaneRect.Apart]
  · simp
    omega
  · simp

theorem buildOverviewLg_arranged {cols : Nat} (large : 170 ≤ cols) (small : cols < 2 ^ 16)
    (rows : Nat) : Arranged cols rows (buildOverviewLg cols rows).placements := by
  have full : max cols 1 = cols := by omega
  obtain ⟨left, leftEq⟩ : ∃ left, max ((cols - 2) / 3) 1 = left := ⟨_, rfl⟩
  unfold buildOverviewLg
  rw [full]
  dsimp only
  rw [leftEq, saturatingAddU16_eq (by omega : left + 1 < 2 ^ 16),
    saturatingAddU16_eq (by omega : left + left < 2 ^ 16), saturatingAddU16_eq (by omega)]
  constructor
  · simp [PaneRect.Apart]
    omega
  · simp
    omega
  · simp

/-- The columns of the densest overview, with a gap after each but the last. -/
theorem overviewColumns_bounds {usable : Nat} (large : 237 ≤ usable) (small : usable < 2 ^ 16)
    : let c1 := max (saturatingMulU16 usable 5 / 24) 1
      let c3 := max (saturatingMulU16 usable 6 / 24) 1
      let c4 := max (usable - (c1 + c1 + c3)) 1
      2 ≤ c1 ∧ 2 ≤ c3 ∧ 2 ≤ c4 ∧ c1 + c1 + c3 + c4 = usable := by
  dsimp only [saturatingMulU16]
  omega

theorem buildOverviewXl_arranged {cols rows : Nat} (large : 240 ≤ cols) (small : cols < 2 ^ 16)
    (high : 34 ≤ rows) (low : rows < 2 ^ 16)
    : Arranged cols rows (buildOverviewXl cols rows).placements := by
  have full : max cols 1 = cols := by omega
  have bands := overviewBands_bounds high
  have columns := overviewColumns_bounds (by omega : 237 ≤ cols - 3) (by omega)
  unfold buildOverviewXl
  rw [full]
  dsimp only at columns ⊢
  generalize (overviewBands rows).1 = topHeight at bands ⊢
  generalize (overviewBands rows).2.1 = middleHeight at bands ⊢
  generalize (overviewBands rows).2.2 = bottomHeight at bands ⊢
  generalize max (saturatingMulU16 (cols - 3) 5 / 24) 1 = c1 at columns ⊢
  generalize max (saturatingMulU16 (cols - 3) 6 / 24) 1 = c3 at columns ⊢
  generalize max (cols - 3 - (c1 + c1 + c3)) 1 = c4 at columns ⊢
  rw [saturatingAddU16_eq (by omega : c1 + 1 < 2 ^ 16),
    saturatingAddU16_eq (by omega : c1 + c1 < 2 ^ 16),
    saturatingAddU16_eq (by omega : c1 + (c1 + c3) < 2 ^ 16),
    saturatingAddU16_eq (by omega : c1 + c1 + 2 < 2 ^ 16),
    saturatingAddU16_eq (by omega : c1 + (c1 + c3) + 3 < 2 ^ 16),
    saturatingAddU16_eq (by omega : topHeight + middleHeight < 2 ^ 16)]
  constructor
  · simp [PaneRect.Apart]
    omega
  · simp
    omega
  · simp
    omega

theorem buildOverviewLayout_arranged {cols rows : Nat} (large : 40 ≤ cols)
    (small : cols < 2 ^ 16) (low : rows < 2 ^ 16)
    : Arranged cols rows (buildOverviewLayout cols rows).placements := by
  unfold buildOverviewLayout classifyOverviewDensity
  split_ifs with xl lg md
  · exact buildOverviewXl_arranged xl.1 small xl.2 low
  · exact buildOverviewLg_arranged lg.1 small rows
  · exact buildOverviewMd_arranged md.1 small rows
  · exact buildOverviewSm_arranged large rows

def CardAt (cols rows : Nat) (pane : OverviewPane) (x row : Nat) : Prop :=
  ∃ card ∈ (buildOverviewLayout cols rows).placements,
    card.visible = true ∧ card.pane = pane ∧ card.rect.Covers x row

def CardShown (cols rows : Nat) (pane : OverviewPane) (x row : Nat) : Prop :=
  ∃ card ∈ (buildOverviewLayout cols rows).placements,
    card.visible = true ∧ card.pane = pane ∧ card.rect.Covers x row ∧ card.rect.row + 2 ≤ rows

namespace DashboardModel

variable {F : Type} {self : DashboardModel F}

/-- The mouse handlers find the card that is over the cell in a body of two rows less. -/
theorem overviewPaneAt_eq_some_iff (usable : self.Usable) {x y : Nat} {pane : OverviewPane}
    : self.overviewPaneAt x y = some pane
      ↔ (6 ≤ y ∧ y - 6 < self.bodyArea.height - 2)
        ∧ CardAt self.terminalSize.1 (self.bodyArea.height - 2) pane x (y - 6) := by
  have rows := usable.body_lt
  have header : mouseHeaderRows = 6 := rfl
  have arranged := buildOverviewLayout_arranged usable.bounds.1 usable.cols_lt
    (by omega : self.bodyArea.height - 2 < 2 ^ 16)
  have cols := usable.cols_lt
  unfold overviewPaneAt overviewVisiblePlacements CardAt
  rw [dashboardBodyHeight_eq, header, saturatingAddU16_eq (by omega)]
  by_cases inBody : 6 ≤ y ∧ y - 6 < self.bodyArea.height - 2
  · rw [if_neg (by omega), and_iff_right inBody, Option.map_eq_some_iff]
    dsimp only
    generalize (buildOverviewLayout self.terminalSize.1 (self.bodyArea.height - 2)).placements
      = cards at arranged ⊢
    have finds : ∀ card ∈ cards.filter (·.visible),
        (decide (card.rect.col ≤ x)
          && decide (x < saturatingAddU16 card.rect.col card.rect.width)
          && decide (card.rect.row ≤ y - 6)
          && decide (y - 6 < saturatingAddU16 card.rect.row card.rect.height)) = true
          ↔ card.rect.Covers x (y - 6) := by
      intro card member
      have inCards := (List.mem_filter.mp member).1
      have width := arranged.width card inCards
      have height := arranged.height card inCards
      rw [saturatingAddU16_eq (by omega), saturatingAddU16_eq (by omega)]
      simp [PaneRect.Covers, and_assoc]
    constructor
    · rintro ⟨card, found, rfl⟩
      have member := List.mem_of_find?_eq_some found
      have holds := List.find?_some found
      exact ⟨card, (List.mem_filter.mp member).1, (List.mem_filter.mp member).2, rfl,
        (finds card member).mp holds⟩
    · rintro ⟨card, inCards, visible, rfl, covers⟩
      have member : card ∈ cards.filter (·.visible) := List.mem_filter.mpr ⟨inCards, visible⟩
      exact ⟨card, find_of_covers (arranged.apart.filter _) finds member covers, rfl⟩
  · rw [if_pos (by omega)]
    exact iff_of_false (Option.some_ne_none pane).symm fun found => inBody found.1

theorem rectInBody_card (usable : self.Usable) {card : PanePlacement OverviewPane}
    (wide : card.rect.col + card.rect.width ≤ self.terminalSize.1)
    (nonempty : 0 < card.rect.width)
    (low : card.rect.row < 2 ^ 16 - 4)
    : rectInBody self.bodyArea card.rect
        = if self.bodyArea.height ≤ card.rect.row then ⟨0, 4, 0, 0⟩
          else ⟨card.rect.col, card.rect.row + 4, card.rect.width,
            min card.rect.height (self.bodyArea.height - card.rect.row)⟩ := by
  have cols := usable.cols_lt
  have rows := usable.body_lt
  have left : self.bodyArea.x = 0 := rfl
  have top : self.bodyArea.y = 4 := rfl
  have full : self.bodyArea.width = self.terminalSize.1 := rfl
  unfold rectInBody
  rw [saturatingAddU16_eq (by omega), saturatingAddU16_eq (by omega),
    saturatingAddU16_eq (by omega), saturatingAddU16_eq (by omega), left, top, full]
  dsimp only
  by_cases room : self.bodyArea.height ≤ card.rect.row
  · rw [if_pos room, if_pos (by omega)]
  · rw [if_neg room, if_neg (by omega)]
    congr 1 <;> omega

/-- A card is drawn over the cells that it covers in the whole body. -/
theorem cardCovers_iff (usable : self.Usable) {x y : Nat} {pane : OverviewPane}
    : self.CardCovers pane x y
      ↔ (4 ≤ y ∧ y - 4 < self.bodyArea.height)
        ∧ CardShown self.terminalSize.1 self.bodyArea.height pane x (y - 4) := by
  have rows := usable.body_lt
  have full : self.bodyArea.width = self.terminalSize.1 := rfl
  have arranged := buildOverviewLayout_arranged usable.bounds.1 usable.cols_lt
    (by omega : self.bodyArea.height < 2 ^ 16)
  unfold CardCovers CardShown
  rw [full]
  generalize (buildOverviewLayout self.terminalSize.1 self.bodyArea.height).placements = cards
    at arranged ⊢
  have drawn : ∀ card ∈ cards, card.visible = true →
      (2 ≤ (rectInBody self.bodyArea card.rect).width
          ∧ 2 ≤ (rectInBody self.bodyArea card.rect).height
          ∧ (rectInBody self.bodyArea card.rect).Contains x y
        ↔ (4 ≤ y ∧ y - 4 < self.bodyArea.height)
          ∧ card.rect.Covers x (y - 4) ∧ card.rect.row + 2 ≤ self.bodyArea.height) := by
    intro card member visible
    have width := arranged.width card member
    have height := arranged.height card member
    have tall := height.2 visible
    rw [rectInBody_card usable width.2 (by omega) (by omega)]
    unfold Rect.Contains PaneRect.Covers
    split
    · dsimp only
      omega
    · dsimp only
      omega
  constructor
  · rintro ⟨card, member, visible, rfl, shown⟩
    obtain ⟨inBody, covers, cut⟩ := (drawn card member visible).mp shown
    exact ⟨inBody, card, member, visible, rfl, covers, cut⟩
  · rintro ⟨inBody, card, member, visible, rfl, covers, cut⟩
    exact ⟨card, member, visible, rfl, (drawn card member visible).mpr ⟨inBody, covers, cut⟩⟩

end DashboardModel

end StorageBallast.Tui
