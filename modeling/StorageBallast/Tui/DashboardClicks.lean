import StorageBallast.Tui.DashboardCards

/-! Where a click goes, and where it should go by what is drawn. Both know the same screens and
panes, but the handlers reckon with a body that starts two rows lower and ends at the same row,
and with no line over the events of the timeline.
-/

namespace StorageBallast.Tui

/-- What the mouse handlers take a cell to belong to. -/
inductive ClickTarget where
  | tab (screen : Screen)
  | item (index : Nat)
  | card (pane : OverviewPane)
  | nothing
deriving DecidableEq, Repr

namespace DashboardModel

variable {F : Type}

/-- The item of the current screen's list that the mouse handlers take a cell to be on. -/
def rowHit (self : DashboardModel F) (x y : Nat) : Option Nat :=
  match self.screen with
  | .timeline => self.timelineRowHit x y
  | .explainability => self.explainabilityRowHit x y
  | .candidates => self.candidatesRowHit x y
  | .ballast => self.ballastRowHit x y
  | .logSearch => self.logSearchRowHit x y
  | .overview | .diagnostics => none

def clickTarget (self : DashboardModel F) (x y : Nat) : ClickTarget :=
  match self.headerTabHitScreen x y with
  | some screen => .tab screen
  | none =>
      if self.screen = .overview then (self.overviewPaneAt x y).elim .nothing .card
      else (self.rowHit x y).elim .nothing .item

def selectItem (self : DashboardModel F) (index : Nat) : DashboardModel F :=
  match self.screen with
  | .timeline | .logSearch => { self with timelineSelected := index, timelineFollow := false }
  | .explainability => { self with explainabilitySelected := index, explainabilityDetail := true }
  | .candidates => { self with candidatesSelected := index, candidatesDetail := true }
  | .ballast => { self with ballastSelected := index, ballastDetail := true }
  | .overview | .diagnostics => self

def openCard (self : DashboardModel F) (pane : OverviewPane) : DashboardModel F :=
  let focused := (self.overviewSetHover (some pane)).overviewSetFocus pane
  focused.navigateTo focused.overviewFocusTargetScreen

def follow (self : DashboardModel F) : ClickTarget → DashboardModel F
  | .tab screen => self.navigateTo screen
  | .item index => self.selectItem index
  | .card pane => self.openCard pane
  | .nothing => if self.screen = .overview then self.overviewSetHover none else self

variable {self : DashboardModel F}

theorem handleMouseEvent_click (plain : self.activeOverlay = none) (x y : Nat)
    : self.handleMouseEvent ⟨.leftDown, x, y⟩ = self.follow (self.clickTarget x y) := by
  unfold handleMouseEvent clickedTab clickTarget
  rw [plain]
  cases self.headerTabHitScreen x y with
  | some screen => rfl
  | none =>
      unfold handleScreenMouse follow selectItem rowHit
      cases screen : self.screen with
      | overview =>
          unfold handleOverviewMouse
          cases self.overviewPaneAt x y <;> rfl
      | timeline =>
          unfold handleTimelineMouse
          cases self.timelineRowHit x y <;> simp [screen]
      | explainability =>
          unfold handleExplainabilityMouse
          cases self.explainabilityRowHit x y <;> simp [screen]
      | candidates =>
          unfold handleCandidatesMouse
          cases self.candidatesRowHit x y <;> simp [screen]
      | ballast =>
          unfold handleBallastMouse
          cases self.ballastRowHit x y <;> simp [screen]
      | logSearch =>
          unfold handleLogSearchMouse
          cases self.logSearchRowHit x y <;> simp [screen]
      | diagnostics => rfl

/-- A left click on a cell selects the item that is drawn there, and goes to a tab or to a card
only where they are.
-/
structure ClickAgrees (model : DashboardModel F) (x y : Nat) : Prop where
  item : ∀ index, model.clickTarget x y = .item index ↔ model.drawnItem x y = some index
  tab : ∀ screen, model.clickTarget x y = .tab screen → model.TabCovers screen x y
  card : model.screen = .overview
    → ∀ pane, model.overviewPaneAt x y = some pane → model.CardCovers pane x y

def currentList (self : DashboardModel F) : Option ListView :=
  match self.screen with
  | .timeline =>
      some (self.listView timelinePanes 1 self.timelineSelected
        self.timelineFilteredEvents.length)
  | .explainability =>
      some (self.listView explainabilityPanes 0 self.explainabilitySelected
        self.explainabilityDecisions.length)
  | .candidates =>
      some (self.listView candidatesPanes 0 self.candidatesSelected self.candidatesList.length)
  | .ballast =>
      some (self.listView ballastPanes 0 self.ballastSelected self.ballastVolumes.length)
  | .logSearch =>
      some (self.listView logSearchPanes 0 self.timelineSelected self.timelineEvents.length)
  | .overview | .diagnostics => none

/-- The list of the screen is aligned at the cell. On the overview, a card that a body of two rows
less has over the cell two rows further up is the one that the whole body has over the cell.
-/
structure ClickAligned (model : DashboardModel F) (x y : Nat) : Prop where
  list : ∀ view ∈ model.currentList, view.Aligned x y
  card : model.screen = .overview → 6 ≤ y → y - 6 < model.bodyArea.height - 2
    → ∀ pane, CardAt model.terminalSize.1 (model.bodyArea.height - 2) pane x (y - 6)
      → CardShown model.terminalSize.1 model.bodyArea.height pane x (y - 4)

def CursorInRange (self : DashboardModel F) : Prop :=
  ∀ view ∈ self.currentList, view.selected = 0 ∨ view.selected < view.total

theorem listStyled_eq (selected total rows : Nat)
    : listStyled selected total rows = listLines 0 selected total rows := by
  unfold listStyled listLines
  rw [List.replicate_zero, List.nil_append]

/-- The handlers find the item that is drawn exactly where the list is aligned. -/
theorem rowHit_eq_drawn_iff (usable : self.Usable) (inRange : self.CursorInRange) (x y : Nat)
    : self.rowHit x y = self.drawnItem x y ↔ ∀ view ∈ self.currentList, view.Aligned x y := by
  unfold CursorInRange currentList at inRange
  unfold rowHit drawnItem currentList
  cases screen : self.screen with
  | overview | diagnostics => simp
  | timeline =>
      simp only [Option.mem_some_iff, forall_eq']
      exact listRowHit_eq_drawn_iff usable (by decide) (by decide) le_rfl (fun _ => rfl) x y
  | explainability =>
      simp only [Option.mem_some_iff, forall_eq']
      exact listRowHit_eq_drawn_iff usable (by decide) (by decide) (by decide)
        (fun rows => listStyled_eq _ _ rows) x y
  | candidates =>
      simp only [Option.mem_some_iff, forall_eq']
      exact listRowHit_eq_drawn_iff usable (by decide) (by decide) (by decide)
        (fun rows => listStyled_eq _ _ rows) x y
  | ballast =>
      simp only [Option.mem_some_iff, forall_eq']
      exact listRowHit_eq_drawn_iff usable (by decide) (by decide) (by decide)
        (fun rows => listStyled_eq _ _ rows) x y
  | logSearch =>
      simp only [screen, Option.mem_some_iff, forall_eq'] at inRange ⊢
      refine listRowHit_eq_drawn_iff usable (by decide) (by decide) (by decide) (fun rows => ?_)
        x y
      -- A cursor in range stays where it is when it is brought into the list.
      have cursor : self.timelineSelected = 0
          ∨ self.timelineSelected < self.timelineEvents.length := inRange
      unfold frameLogSearchListStyled
      dsimp only
      rw [listStyled_eq]
      unfold listLines
      rw [centeredWindow_clamped rows cursor]

theorem listRowHit_above {Pane : Type} [DecidableEq Pane] (self : DashboardModel F)
    (layout : PaneLayout Pane) (pane : Pane) (selected total x : Nat) {y : Nat} (above : y < 6)
    : self.listRowHit layout pane selected total x y = none := by
  unfold listRowHit bodyLocalY
  rw [if_pos (by exact above)]
  rfl

theorem rowHit_of_tab {x y : Nat} {screen : Screen}
    (hit : self.headerTabHitScreen x y = some screen) : self.rowHit x y = none := by
  have row := (headerTabHitScreen_covers hit).1
  have above (Pane : Type) [DecidableEq Pane] (layout : PaneLayout Pane) (pane : Pane)
      (selected total : Nat) := self.listRowHit_above layout pane selected total x
        (by omega : y < 6)
  unfold rowHit
  cases self.screen with
  | overview | diagnostics => rfl
  | timeline | explainability | candidates | ballast | logSearch => exact above ..

theorem clickTarget_item_iff {x y index : Nat}
    : self.clickTarget x y = .item index ↔ self.rowHit x y = some index := by
  unfold clickTarget
  cases tab : self.headerTabHitScreen x y with
  | some screen => simp [rowHit_of_tab tab]
  | none =>
      dsimp only
      split
      · rename_i overview
        unfold rowHit
        rw [overview]
        cases self.overviewPaneAt x y <;> simp
      · cases self.rowHit x y <;> simp

theorem clickTarget_tab {x y : Nat} {screen : Screen}
    (tab : self.clickTarget x y = .tab screen) : self.TabCovers screen x y := by
  unfold clickTarget at tab
  cases hit : self.headerTabHitScreen x y with
  | some clicked =>
      rw [hit] at tab
      cases tab
      exact headerTabHitScreen_covers hit
  | none =>
      rw [hit] at tab
      dsimp only at tab
      split at tab
      · cases pane : self.overviewPaneAt x y <;> rw [pane] at tab <;> cases tab
      · cases row : self.rowHit x y <;> rw [row] at tab <;> cases tab

/-- A left click goes to its target, and agrees with what is drawn exactly if the list and the
cards are aligned at the cell.
-/
theorem click_agrees_iff (usable : self.Usable) (plain : self.activeOverlay = none)
    (inRange : self.CursorInRange) (x y : Nat)
    : self.handleMouseEvent ⟨.leftDown, x, y⟩ = self.follow (self.clickTarget x y)
      ∧ (self.ClickAgrees x y ↔ self.ClickAligned x y) := by
  refine ⟨handleMouseEvent_click plain x y, ?_⟩
  have rows := rowHit_eq_drawn_iff usable inRange x y
  rw [Option.ext_iff] at rows
  constructor
  · intro agrees
    refine ⟨rows.mp fun index => clickTarget_item_iff.symm.trans (agrees.item index), ?_⟩
    intro overview below inBody pane shorter
    have found := (overviewPaneAt_eq_some_iff usable).mpr ⟨⟨below, inBody⟩, shorter⟩
    exact ((cardCovers_iff usable).mp (agrees.card overview pane found)).2
  · intro aligned
    refine ⟨fun index => clickTarget_item_iff.trans (rows.mpr aligned.list index),
      fun _ => clickTarget_tab, ?_⟩
    intro overview pane found
    obtain ⟨⟨below, inBody⟩, shorter⟩ := (overviewPaneAt_eq_some_iff usable).mp found
    exact (cardCovers_iff usable).mpr
      ⟨⟨by omega, by omega⟩, aligned.card overview below inBody pane shorter⟩

def fourVolumes : DashboardModel ℚ :=
  { DashboardModel.new 0 (80, 24) with
    screen := .ballast
    ballastVolumes := ["/", "/home", "/srv", "/tmp"].map fun mount =>
      ⟨mount, "", "ext4", "fallocate", 5, 5, 1000, false, none⟩ }

theorem fourVolumes_usable
    : fourVolumes.Usable ∧ fourVolumes.activeOverlay = none ∧ fourVolumes.CursorInRange := by
  refine ⟨⟨by decide, by decide, by decide⟩, rfl, ?_⟩
  rintro view ⟨⟩
  exact .inl rfl

theorem fourVolumes_click
    : fourVolumes.handleMouseEvent ⟨.leftDown, 5, 7⟩
        = fourVolumes.follow (fourVolumes.clickTarget 5 7)
      ∧ (fourVolumes.ClickAgrees 5 7 ↔ fourVolumes.ClickAligned 5 7) :=
  click_agrees_iff fourVolumes_usable.1 fourVolumes_usable.2.1 fourVolumes_usable.2.2 5 7

/-- It selects the first one. -/
theorem fourVolumes_misclicked
    : (fourVolumes.Usable ∧ fourVolumes.activeOverlay = none ∧ fourVolumes.CursorInRange)
      ∧ fourVolumes.handleMouseEvent ⟨.leftDown, 5, 7⟩
        = { fourVolumes with ballastSelected := 0, ballastDetail := true }
      ∧ fourVolumes.drawnItem 5 7 = some 2 ∧ ¬ fourVolumes.ClickAgrees 5 7 := by
  have target : fourVolumes.clickTarget 5 7 = .item 0 := by decide
  have drawn : fourVolumes.drawnItem 5 7 = some 2 := by decide
  refine ⟨fourVolumes_usable, ?_, drawn, fun agrees => ?_⟩
  · rw [handleMouseEvent_click rfl, target]
    rfl
  · have shown := (agrees.item 0).mp target
    rw [drawn] at shown
    cases shown

end DashboardModel

end StorageBallast.Tui
