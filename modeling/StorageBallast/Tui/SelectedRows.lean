import StorageBallast.Tui.DashboardClicks
import StorageBallast.Tui.DashboardCursors
import StorageBallast.Tui.PanePlacements

/-! Whether the selected item of a list is on the screen. The window of items has as many rows as
the pane has for text, so it is cut off under the line that the timeline has over its events, and
the range in that line counts what is cut off.
-/

namespace StorageBallast.Tui

namespace DashboardModel

variable {F : Type}

def paneOnTop {Pane : Type} (self : DashboardModel F) (layout : PaneLayout Pane) (x y : Nat)
    : Option Pane :=
  (layout.placements.reverse.find? fun placement =>
    placement.visible && decide ((rectInBody self.bodyArea placement.rect).Contains x y)).map
      (·.pane)

def listOnTop (self : DashboardModel F) (x y : Nat) : Bool :=
  let cols := self.bodyArea.width
  let rows := self.bodyArea.height
  match self.screen with
  | .timeline => self.paneOnTop (buildTimelineLayout cols rows) x y == some .eventList
  | .explainability =>
      self.paneOnTop (buildExplainabilityLayout cols rows) x y == some .factorBreakdown
  | .candidates => self.paneOnTop (buildCandidatesLayout cols rows) x y == some .candidateList
  | .ballast => self.paneOnTop (buildBallastLayout cols rows) x y == some .volumeList
  | .logSearch => self.paneOnTop (buildLogSearchLayout cols rows) x y == some .logList
  | .overview | .diagnostics => false

/-- The item that is to be seen at a cell. Overlays are left out, which are drawn over the body as
a whole.
-/
def shownItem (self : DashboardModel F) (x y : Nat) : Option Nat :=
  if self.listOnTop x y then self.drawnItem x y else none

def ItemShown (self : DashboardModel F) (index : Nat) : Prop :=
  ∃ x y, self.shownItem x y = some index

/-- The range of rows in the line over the events, if there is one: `(rows start+1..end)`. -/
def timelineHeadingRange (self : DashboardModel F) (rows : Nat) : Option (Nat × Nat) :=
  let filtered := self.timelineFilteredEvents.length
  if filtered = 0 then none
  else
    let (start, end_) := centeredWindow self.timelineSelected filtered rows
    some (start + 1, end_)

def headingRange (self : DashboardModel F) : Option (Nat × Nat) :=
  match self.screen with
  | .timeline => do
      let list ← (buildTimelineLayout self.bodyArea.width
        self.bodyArea.height).placements.find? fun placement =>
          placement.visible && decide (placement.pane = .eventList)
      self.timelineHeadingRange (paneBodyRows (rectInBody self.bodyArea list.rect))
  | _ => none

/-- The item under the cursor of the current screen's list is shown, and the rows that are named
over the items are those of the items that are shown.
-/
structure SelectionShown (model : DashboardModel F) : Prop where
  cursor : ∀ view ∈ model.currentList, view.selected < view.total → model.ItemShown view.selected
  heading
    : ∀ range, model.headingRange = some range
      → ∀ index, model.ItemShown index ↔ range.1 ≤ index + 1 ∧ index + 1 ≤ range.2

def ListHasRow (self : DashboardModel F) : Prop :=
  ∀ view ∈ self.currentList, view.headRows < (paneTextArea view.area).height

end DashboardModel

namespace ListView

/-- The footer is not on the list, and the window fits under what stands over the items: nothing
does, or it is a window of one row without a border, or all items have room.
-/
def WindowFits (view : ListView) : Prop :=
  view.topRows + 2 ≤ view.bodyRows
    ∧ (view.headRows = 0 ∨ view.bodyRows < view.topRows + 4
      ∨ view.headRows + view.total ≤ view.drawnRows)

def itemsDrawn (view : ListView) : Nat :=
  if view.bodyRows < view.topRows + 4 then
    if view.topRows < view.bodyRows ∧ view.headRows < max (view.bodyRows - 1 - view.topRows) 1 then
      min 1 view.total
    else 0
  else min view.drawnRows (view.headRows + view.total) - view.headRows

def windowStart (view : ListView) : Nat :=
  (centeredWindow view.selected view.total view.drawnRows).1

/-- The cells over which items are drawn are as many rows as items. -/
theorem exists_itemDrawn_iff {view : ListView} (wide : 6 ≤ view.width) (row : Nat)
    : (∃ x y, view.ItemDrawn x y ∧ y - view.firstItemRow = row) ↔ row < view.itemsDrawn := by
  unfold ItemDrawn itemsDrawn firstItemRow
  by_cases short : view.bodyRows < view.topRows + 4
  · simp only [if_pos short]
    unfold ItemDrawnUnbordered
    constructor
    · rintro ⟨x, y, drawn, rfl⟩
      rw [if_pos ⟨drawn.2.1, drawn.2.2.2.1⟩]
      omega
    · intro within
      split at within
      · rename_i room
        exact ⟨0, view.topRows + 4 + view.headRows, ⟨by omega, room.1, rfl, room.2, by omega⟩,
          by omega⟩
      · cases within
  · simp only [if_neg short]
    unfold ItemDrawnBordered
    constructor
    · rintro ⟨x, y, drawn, rfl⟩
      omega
    · intro within
      exact ⟨1, view.topRows + 5 + view.headRows + row, by omega, by omega⟩

/-- Where a row for items is left, the whole window is drawn exactly if it fits, but for the
footer.
-/
theorem itemsDrawn_eq_iff {view : ListView} (few : view.headRows ≤ 1)
    (row : view.headRows < (paneTextArea view.area).height) (wide : 6 ≤ view.width)
    (nonempty : 0 < view.total)
    : view.itemsDrawn = min (max view.drawnRows 1) view.total
      ↔ view.headRows = 0 ∨ view.bodyRows < view.topRows + 4
        ∨ view.headRows + view.total ≤ view.drawnRows := by
  have drawnRows : view.drawnRows = view.bodyRows - (view.topRows + 3) := rfl
  rw [area_text wide] at row
  unfold itemsDrawn
  by_cases short : view.bodyRows < view.topRows + 4
  · rw [if_pos short] at row ⊢
    unfold area at row
    split at row
    · cases row
    · rw [if_pos ⟨by omega, row⟩]
      omega
  · rw [if_neg short] at row ⊢
    dsimp only at row
    omega

end ListView

theorem centeredWindow_end {selected total : Nat} (rows : Nat) (nonempty : total ≠ 0)
    : (centeredWindow selected total rows).2
      = (centeredWindow selected total rows).1 + min (max rows 1) total := by
  unfold centeredWindow
  rw [if_neg nonempty]
  dsimp only
  omega

theorem centeredWindow_contains {selected total : Nat} (rows : Nat) (inRange : selected < total)
    : (centeredWindow selected total rows).1 ≤ selected
      ∧ selected < (centeredWindow selected total rows).1 + min (max rows 1) total := by
  unfold centeredWindow
  rw [if_neg (by omega)]
  dsimp only
  omega

theorem paneTextArea_contains {area : Rect} {x y : Nat}
    (inText : (paneTextArea area).Contains x y) : area.Contains x y := by
  unfold paneTextArea at inText
  split at inText
  · exact inText
  · unfold Rect.inner Rect.Contains at *
    dsimp only at inText
    omega

namespace DashboardModel

section lists

variable {F : Type} {self : DashboardModel F} {Pane : Type} [DecidableEq Pane]
  {panes : ListPanes Pane}

omit [DecidableEq Pane] in
/-- Over a cell of the list nothing else is drawn, but for the footer if there is no row for it. -/
theorem paneOnTop_eq_list_iff (usable : self.Usable) (composed : panes.Composed) {x y : Nat}
    (inList : (rectInBody self.bodyArea
      (placedList panes self.terminalSize.1 self.bodyArea.height).rect).Contains x y)
    : self.paneOnTop (buildListLayout panes self.bodyArea.width self.bodyArea.height) x y
        = some panes.list
      ↔ panes.topRows + 2 ≤ self.bodyArea.height := by
  have low := usable.body_lt
  have full : self.bodyArea.width = self.terminalSize.1 := rfl
  have width := listWidth_bounds usable.bounds.1
  obtain ⟨detail, placed, placements⟩ := @buildListLayout_placements _ _ _ self.bodyArea.height
    composed usable.bounds.1 usable.cols_lt
  have within := listPanes_within composed usable.bounds.1 low placed
  have contains := fun placement member => @rectInBody_contains F self usable placement.rect
    (within placement member).1 (within placement member).2 x y
  have inFooter := contains _ (List.mem_append_right _ (List.mem_singleton_self _))
  have inDetail := contains detail (List.mem_append_left _ (List.mem_append_right _
    (List.mem_cons_of_mem _ (List.mem_singleton_self _))))
  have cell := (contains _ (List.mem_append_left _ (List.mem_append_right _
    List.mem_cons_self))).mp inList
  have reversed : ((panes.placeTop self.terminalSize.1
        ++ [placedList panes self.terminalSize.1 self.bodyArea.height, detail])
      ++ [placedFooter panes self.terminalSize.1 self.bodyArea.height]).reverse
      = placedFooter panes self.terminalSize.1 self.bodyArea.height :: detail
        :: placedList panes self.terminalSize.1 self.bodyArea.height
        :: (panes.placeTop self.terminalSize.1).reverse := by simp
  unfold paneOnTop
  rw [full, placements, reversed]
  set drawnOver : PanePlacement Pane → Bool := fun placement =>
    placement.visible && decide ((rectInBody self.bodyArea placement.rect).Contains x y)
  have drawnOver_iff (placement : PanePlacement Pane)
      : drawnOver placement = true ↔ placement.visible = true
        ∧ (rectInBody self.bodyArea placement.rect).Contains x y := by
    simp only [drawnOver, Bool.and_eq_true, decide_eq_true_iff]
  by_cases room : panes.topRows + 2 ≤ self.bodyArea.height
  · refine iff_of_true ?_ room
    have notFooter : ¬ (rectInBody self.bodyArea (placedFooter panes self.terminalSize.1
        self.bodyArea.height).rect).Contains x y := by
      rw [inFooter]
      unfold placedFooter placedList PaneRect.Covers at *
      dsimp only at *
      omega
    have notDetail : ¬ (detail.visible = true
        ∧ (rectInBody self.bodyArea detail.rect).Contains x y) := by
      rintro ⟨shown, inside⟩
      have beside := placed.beside shown
      have covers := (inDetail.mp inside).2
      unfold placedList PaneRect.Covers at *
      dsimp only at *
      omega
    rw [List.find?_cons_of_neg (mt (drawnOver_iff _).mp fun footer => notFooter footer.2),
      List.find?_cons_of_neg (mt (drawnOver_iff _).mp notDetail),
      List.find?_cons_of_pos ((drawnOver_iff _).mpr ⟨rfl, inList⟩)]
    rfl
  · refine iff_of_false ?_ room
    have covered : (rectInBody self.bodyArea (placedFooter panes self.terminalSize.1
        self.bodyArea.height).rect).Contains x y := by
      rw [inFooter]
      unfold placedFooter placedList PaneRect.Covers at *
      dsimp only at *
      omega
    rw [List.find?_cons_of_pos ((drawnOver_iff _).mpr ⟨rfl, covered⟩)]
    exact fun same => composed.footerApart (Option.some.inj same)

/-- The items of a list that are shown are those at the start of its window, as many as are drawn
under what stands over them.
-/
theorem exists_shown_iff (usable : self.Usable) (composed : panes.Composed)
    (headRows selected total : Nat) {lines : Nat → List ListLine}
    (styled : ∀ rows, lines rows = listLines headRows selected total rows) (index : Nat)
    : let view := self.listView panes headRows selected total
      let layout := buildListLayout panes self.bodyArea.width self.bodyArea.height
      (∃ x y, (if self.paneOnTop layout x y == some panes.list then
          self.drawnListItem layout panes.list lines x y else none) = some index)
        ↔ panes.topRows + 2 ≤ self.bodyArea.height ∧ view.windowStart ≤ index
          ∧ index < view.windowStart + view.itemsDrawn := by
  intro view layout
  have wide : 6 ≤ view.width := (listWidth_bounds usable.bounds.1).1
  have drawn := drawnListItem_eq usable composed.topApart composed.low styled
  have onTop {x y : Nat} (isDrawn : view.ItemDrawn x y)
      : self.paneOnTop layout x y = some panes.list
        ↔ panes.topRows + 2 ≤ self.bodyArea.height := by
    refine paneOnTop_eq_list_iff usable composed ?_
    have inText := ((view.itemDrawn_iff wide x y).mpr isDrawn).1
    have inArea := paneTextArea_contains inText
    have area := rectInBody_list usable composed.low headRows selected total
    exact area ▸ inArea
  have rows (row : Nat) := view.exists_itemDrawn_iff wide row
  constructor
  · rintro ⟨x, y, shown⟩
    rw [drawn x y] at shown
    split at shown
    · rename_i top
      split at shown
      · rename_i isDrawn
        have within := (rows _).mp ⟨x, y, isDrawn, rfl⟩
        have start : view.windowStart + (y - view.firstItemRow) = index := Option.some.inj shown
        exact ⟨(onTop isDrawn).mp (beq_iff_eq.mp top), by omega, by omega⟩
      · cases shown
    · cases shown
  · rintro ⟨room, start, end_⟩
    obtain ⟨x, y, isDrawn, row⟩ := (rows (index - view.windowStart)).mpr (by omega)
    refine ⟨x, y, ?_⟩
    rw [drawn x y, if_pos (beq_iff_eq.mpr ((onTop isDrawn).mpr room)), if_pos isDrawn, row]
    exact congrArg some (Nat.add_sub_cancel' start)

end lists

variable {F : Type} {self : DashboardModel F}

def rangeOf (view : ListView) : Option (Nat × Nat) :=
  if view.headRows = 0 ∨ view.total = 0 then none
  else some (view.windowStart + 1, view.windowStart + min (max view.drawnRows 1) view.total)

theorem rangeOf_empty {view : ListView} (empty : view.total = 0) : rangeOf view = none :=
  if_pos (.inr empty)

theorem rangeOf_nonempty {view : ListView} (head : view.headRows ≠ 0) (nonempty : view.total ≠ 0)
    : rangeOf view
      = some (view.windowStart + 1, view.windowStart + min (max view.drawnRows 1) view.total) :=
  if_neg (not_or.mpr ⟨head, nonempty⟩)

theorem selectionShown_iff_of_view {view : ListView} (current : self.currentList = some view)
    (few : view.headRows ≤ 1) (wide : 6 ≤ view.width)
    (row : view.headRows < (paneTextArea view.area).height)
    (inRange : view.selected = 0 ∨ view.selected < view.total)
    (range : self.headingRange = rangeOf view)
    (shown : ∀ index, self.ItemShown index
      ↔ view.topRows + 2 ≤ view.bodyRows ∧ view.windowStart ≤ index
        ∧ index < view.windowStart + view.itemsDrawn)
    : self.SelectionShown ↔ view.total = 0 ∨ view.WindowFits := by
  by_cases empty : view.total = 0
  · refine iff_of_true ⟨?_, ?_⟩ (.inl empty)
    · intro other isCurrent less
      rw [current] at isCurrent
      cases isCurrent
      omega
    · intro named isRange
      rw [range, rangeOf_empty empty] at isRange
      cases isRange
  · rw [or_iff_right empty]
    have less : view.selected < view.total := by omega
    have whole := view.itemsDrawn_eq_iff few row wide (Nat.pos_of_ne_zero empty)
    have window : view.windowStart ≤ view.selected
        ∧ view.selected < view.windowStart + min (max view.drawnRows 1) view.total :=
      centeredWindow_contains view.drawnRows less
    constructor
    · rintro ⟨cursor, heading⟩
      have room := ((shown _).mp (cursor view current less)).1
      refine ⟨room, ?_⟩
      by_cases noHead : view.headRows = 0
      · exact .inl noHead
      · have named := heading _ (range.trans (rangeOf_nonempty noHead empty))
        -- The item after those that are drawn and the one after the window are not shown.
        have afterDrawn := (named (view.windowStart + view.itemsDrawn)).symm.trans (shown _)
        have afterWindow := (named (view.windowStart
          + min (max view.drawnRows 1) view.total)).symm.trans (shown _)
        exact whole.mp (by omega)
    · rintro ⟨room, fits⟩
      have drawn := whole.mpr fits
      constructor
      · intro other isCurrent _
        rw [current] at isCurrent
        cases isCurrent
        exact (shown _).mpr ⟨room, window.1, by omega⟩
      · intro named isRange index
        rw [range, rangeOf] at isRange
        split at isRange
        · cases isRange
        · cases isRange
          rw [shown]
          dsimp only
          omega

theorem headingRange_timeline (usable : self.Usable) (screen : self.screen = .timeline)
    : self.headingRange = rangeOf (self.listView timelinePanes 1 self.timelineSelected
        self.timelineFilteredEvents.length) := by
  have rows : (paneBodyRows (self.listView timelinePanes 1 self.timelineSelected
      self.timelineFilteredEvents.length).area)
      = max (self.listView timelinePanes 1 self.timelineSelected
        self.timelineFilteredEvents.length).drawnRows 1 := ListView.area_rows _
  have found := @find_list _ _ timelinePanes (by decide) self.bodyArea.width
    self.bodyArea.height
  unfold headingRange buildTimelineLayout
  rw [screen]
  dsimp only
  have pane : TimelinePane.eventList = timelinePanes.list := rfl
  rw [pane, found]
  dsimp only [Option.bind_eq_bind, Option.bind_some]
  rw [rectInBody_list usable (by decide) 1 self.timelineSelected
    self.timelineFilteredEvents.length, rows]
  unfold timelineHeadingRange
  dsimp only
  by_cases empty : self.timelineFilteredEvents.length = 0
  · rw [if_pos empty]
    exact (rangeOf_empty empty).symm
  · rw [if_neg empty, centeredWindow_max, centeredWindow_end _ empty]
    exact (@rangeOf_nonempty (self.listView timelinePanes 1 self.timelineSelected
      self.timelineFilteredEvents.length) Nat.one_ne_zero empty).symm

theorem itemShown_timeline_iff (usable : self.Usable) (screen : self.screen = .timeline)
    (index : Nat)
    : let view := self.listView timelinePanes 1 self.timelineSelected
        self.timelineFilteredEvents.length
      self.ItemShown index
        ↔ view.topRows + 2 ≤ view.bodyRows ∧ view.windowStart ≤ index
          ∧ index < view.windowStart + view.itemsDrawn := by
  unfold ItemShown shownItem listOnTop drawnItem
  simp only [screen]
  exact exists_shown_iff usable timelinePanes_composed 1 _ _ (fun _ => rfl) index

/-- The timeline hides the last event when it is selected, which it is in follow mode, as soon as
there are as many events as the pane has rows.
-/
theorem last_event_hidden (usable : self.Usable) (screen : self.screen = .timeline)
    (bordered : 5 ≤ self.bodyArea.height)
    (full : self.bodyArea.height - 4 ≤ self.timelineFilteredEvents.length)
    (last : self.timelineSelected + 1 = self.timelineFilteredEvents.length)
    : ¬ self.ItemShown self.timelineSelected := by
  intro shown
  obtain ⟨_, _, less⟩ := (itemShown_timeline_iff usable screen _).mp shown
  have topRows : timelinePanes.topRows = 1 := rfl
  unfold ListView.windowStart ListView.itemsDrawn ListView.drawnRows centeredWindow listView at less
  dsimp only at less
  rw [topRows, if_neg (by omega), if_neg (by omega)] at less
  dsimp only at less
  omega

/-- The selection is shown exactly if the list is empty or its window fits. -/
theorem selectionShown_iff (usable : self.Usable) (row : self.ListHasRow)
    (inRange : self.CursorInRange)
    : self.SelectionShown ↔ ∀ view ∈ self.currentList, view.total = 0 ∨ view.WindowFits := by
  have wide := (listWidth_bounds usable.bounds.1).1
  unfold ListHasRow at row
  unfold CursorInRange at inRange
  have noRange (other : self.screen ≠ .timeline) : self.headingRange = none := by
    unfold headingRange
    cases screen : self.screen with
    | timeline => exact absurd screen other
    | overview | explainability | candidates | ballast | logSearch | diagnostics => rfl
  cases screen : self.screen with
  | overview | diagnostics =>
      have current : self.currentList = none := by
        unfold currentList
        rw [screen]
      have named : self.headingRange = none := noRange (by rw [screen]; decide)
      refine iff_of_true ⟨?_, ?_⟩ ?_
      · rw [current]
        intro view shown
        cases shown
      · rw [named]
        intro range shown
        cases shown
      · rw [current]
        intro view shown
        cases shown
  | timeline =>
      have current : self.currentList = some (self.listView timelinePanes 1
          self.timelineSelected self.timelineFilteredEvents.length) := by
        unfold currentList
        rw [screen]
      simp only [current, Option.mem_some_iff, forall_eq'] at row inRange ⊢
      refine selectionShown_iff_of_view current le_rfl wide row inRange
        (headingRange_timeline usable screen) (itemShown_timeline_iff usable screen)
  | explainability =>
      have current : self.currentList = some (self.listView explainabilityPanes 0
          self.explainabilitySelected self.explainabilityDecisions.length) := by
        unfold currentList
        rw [screen]
      simp only [current, Option.mem_some_iff, forall_eq'] at row inRange ⊢
      refine selectionShown_iff_of_view current (Nat.zero_le 1) wide row inRange
        (noRange (by rw [screen]; decide)) fun index => ?_
      unfold ItemShown shownItem listOnTop drawnItem
      simp only [screen]
      exact exists_shown_iff usable explainabilityPanes_composed 0 _ _
        (fun rows => listStyled_eq _ _ rows) index
  | candidates =>
      have current : self.currentList = some (self.listView candidatesPanes 0
          self.candidatesSelected self.candidatesList.length) := by
        unfold currentList
        rw [screen]
      simp only [current, Option.mem_some_iff, forall_eq'] at row inRange ⊢
      refine selectionShown_iff_of_view current (Nat.zero_le 1) wide row inRange
        (noRange (by rw [screen]; decide)) fun index => ?_
      unfold ItemShown shownItem listOnTop drawnItem
      simp only [screen]
      exact exists_shown_iff usable candidatesPanes_composed 0 _ _
        (fun rows => listStyled_eq _ _ rows) index
  | ballast =>
      have current : self.currentList = some (self.listView ballastPanes 0
          self.ballastSelected self.ballastVolumes.length) := by
        unfold currentList
        rw [screen]
      simp only [current, Option.mem_some_iff, forall_eq'] at row inRange ⊢
      refine selectionShown_iff_of_view current (Nat.zero_le 1) wide row inRange
        (noRange (by rw [screen]; decide)) fun index => ?_
      unfold ItemShown shownItem listOnTop drawnItem
      simp only [screen]
      exact exists_shown_iff usable ballastPanes_composed 0 _ _
        (fun rows => listStyled_eq _ _ rows) index
  | logSearch =>
      have current : self.currentList = some (self.listView logSearchPanes 0
          self.timelineSelected self.timelineEvents.length) := by
        unfold currentList
        rw [screen]
      simp only [current, Option.mem_some_iff, forall_eq'] at row inRange ⊢
      refine selectionShown_iff_of_view current (Nat.zero_le 1) wide row inRange
        (noRange (by rw [screen]; decide)) fun index => ?_
      unfold ItemShown shownItem listOnTop drawnItem
      simp only [screen]
      refine exists_shown_iff usable logSearchPanes_composed 0 _ _ (fun rows => ?_) index
      -- A cursor in range stays where it is when it is brought into the list.
      have cursor : self.timelineSelected = 0
          ∨ self.timelineSelected < self.timelineEvents.length := inRange
      unfold frameLogSearchListStyled
      dsimp only
      rw [listStyled_eq]
      unfold listLines
      rw [centeredWindow_clamped rows cursor]

/-- The timeline of a common terminal, with as many events as its pane has rows, which it follows.
-/
def followedEvents : DashboardModel ℚ :=
  let event : TimelineEvent ℚ := severeEvent "info"
  { DashboardModel.new 0 (80, 24) with screen := .timeline }.telemetryTimeline
    ⟨List.replicate 15 event, .jsonl, false, ""⟩

theorem followedEvents_regular
    : followedEvents.Usable ∧ followedEvents.ListHasRow ∧ followedEvents.CursorInRange := by
  refine ⟨⟨by decide, by decide, by decide⟩, ?_, ?_⟩
  · rintro view ⟨⟩
    decide
  · rintro view ⟨⟩
    exact .inr (by decide)

theorem selectionShown_iff_followed
    : followedEvents.SelectionShown
      ↔ ∀ view ∈ followedEvents.currentList, view.total = 0 ∨ view.WindowFits :=
  selectionShown_iff followedEvents_regular.1 followedEvents_regular.2.1
    followedEvents_regular.2.2

/-- The event that is followed is cut off. -/
theorem followed_event_cut_off
    : ¬ ∀ model : DashboardModel ℚ, model.Usable → model.ListHasRow → model.CursorInRange
        → model.SelectionShown := by
  intro all
  have regular := followedEvents_regular
  have shown := (all followedEvents regular.1 regular.2.1 regular.2.2).cursor _ rfl (by decide)
  exact last_event_hidden regular.1 rfl (by decide) (by decide) (by decide) shown

end DashboardModel

end StorageBallast.Tui
