import StorageBallast.Tui.DashboardUpdate

/-! What the dashboard draws where, as far as items of lists, tabs and cards go. Of the widgets it
is assumed that fixed rows are laid out from top to bottom and the rest fills what they leave,
and that a pane draws line k of its text on its k-th inner row. The code's own header constant
is another one here than for the mouse.
-/

namespace StorageBallast.Tui

/-- An area of the frame. -/
structure Rect where
  x : Nat
  y : Nat
  width : Nat
  height : Nat
deriving DecidableEq, Repr

namespace Rect

def Contains (area : Rect) (x y : Nat) : Prop :=
  area.x ≤ x ∧ x < area.x + area.width ∧ area.y ≤ y ∧ y < area.y + area.height

instance (area : Rect) (x y : Nat) : Decidable (area.Contains x y) :=
  inferInstanceAs (Decidable (_ ∧ _))

def inner (area : Rect) : Rect :=
  ⟨area.x + 1, area.y + 1, area.width - 2, area.height - 2⟩

end Rect

/-- A pane within the body, cut off where the body ends. -/
def rectInBody (body : Rect) (pane : PaneRect) : Rect :=
  let x := saturatingAddU16 body.x pane.col
  let y := saturatingAddU16 body.y pane.row
  let bodyRight := saturatingAddU16 body.x body.width
  let bodyBottom := saturatingAddU16 body.y body.height
  if bodyRight ≤ x ∨ bodyBottom ≤ y then ⟨body.x, body.y, 0, 0⟩
  else ⟨x, y, min pane.width (bodyRight - x), min pane.height (bodyBottom - y)⟩

inductive ListLine where
  | heading
  | message
  | item (index : Nat)
deriving DecidableEq, Repr

def ListLine.index : ListLine → Option Nat
  | item index => some index
  | heading | message => none

def paneTextArea (area : Rect) : Rect :=
  if area.height < 3 ∨ area.width < 6 then area else area.inner

def paneLineAt (area : Rect) (lines : List ListLine) (x y : Nat) : Option ListLine :=
  let text := paneTextArea area
  if text.Contains x y then lines[y - text.y]? else none

def paneBodyRows (area : Rect) : Nat := max (area.height - 2) 1

def itemLines (window : Nat × Nat) : List ListLine :=
  (List.range' window.1 (window.2 - window.1)).map .item

namespace DashboardModel

variable {F : Type}

def frameHeaderRows : Nat := 4

def frameFooterRows : Nat := 1

def bodyArea (self : DashboardModel F) : Rect where
  x := 0
  y := frameHeaderRows
  width := self.terminalSize.1
  height := self.terminalSize.2 - frameHeaderRows - frameFooterRows
    - min self.notifications.length 3

def frameTimelineListStyled (self : DashboardModel F) (rows : Nat) : List ListLine :=
  let filtered := self.timelineFilteredEvents.length
  if filtered = 0 then [.message]
  else .heading :: itemLines (centeredWindow self.timelineSelected filtered rows)

def listStyled (selected total rows : Nat) : List ListLine :=
  if total = 0 then [.message] else itemLines (centeredWindow selected total rows)

def frameExplainabilityListStyled (self : DashboardModel F) (rows : Nat) : List ListLine :=
  listStyled self.explainabilitySelected self.explainabilityDecisions.length rows

def frameCandidatesListStyled (self : DashboardModel F) (rows : Nat) : List ListLine :=
  listStyled self.candidatesSelected self.candidatesList.length rows

def frameBallastListStyled (self : DashboardModel F) (rows : Nat) : List ListLine :=
  listStyled self.ballastSelected self.ballastVolumes.length rows

def frameLogSearchListStyled (self : DashboardModel F) (rows : Nat) : List ListLine :=
  let entries := self.timelineEvents.length
  listStyled (min self.timelineSelected (entries - 1)) entries rows

def drawnListItem {Pane : Type} [DecidableEq Pane] (self : DashboardModel F)
    (layout : PaneLayout Pane) (pane : Pane) (lines : Nat → List ListLine) (x y : Nat)
    : Option Nat := do
  let list ← layout.placements.find? fun placement =>
    placement.visible && decide (placement.pane = pane)
  let area := rectInBody self.bodyArea list.rect
  let line ← paneLineAt area (lines (paneBodyRows area)) x y
  line.index

def drawnItem (self : DashboardModel F) (x y : Nat) : Option Nat :=
  let cols := self.bodyArea.width
  let rows := self.bodyArea.height
  match self.screen with
  | .timeline =>
      self.drawnListItem (buildTimelineLayout cols rows) .eventList
        self.frameTimelineListStyled x y
  | .explainability =>
      self.drawnListItem (buildExplainabilityLayout cols rows) .factorBreakdown
        self.frameExplainabilityListStyled x y
  | .candidates =>
      self.drawnListItem (buildCandidatesLayout cols rows) .candidateList
        self.frameCandidatesListStyled x y
  | .ballast =>
      self.drawnListItem (buildBallastLayout cols rows) .volumeList
        self.frameBallastListStyled x y
  | .logSearch =>
      self.drawnListItem (buildLogSearchLayout cols rows) .logList
        self.frameLogSearchListStyled x y
  | .overview | .diagnostics => none

def tabSpans (screen : Screen) : List (Option Screen) :=
  List.replicate (" " ++ toString screen.number ++ ":").length (some screen)
    ++ List.replicate (screenTabLabel screen ++ " ").length (some screen)

def tabsSpans : List Screen → List (Option Screen)
  | [] => []
  | [last] => tabSpans last
  | screen :: rest => tabSpans screen ++ none :: tabsSpans rest

def navSpans : List (Option Screen) := none :: tabsSpans tabScreens

def TabCovers (self : DashboardModel F) (screen : Screen) (x y : Nat) : Prop :=
  y = 2 ∧ x < self.terminalSize.1 ∧ navSpans[x]? = some (some screen)

def CardCovers (self : DashboardModel F) (pane : OverviewPane) (x y : Nat) : Prop :=
  ∃ placement ∈ (buildOverviewLayout self.bodyArea.width self.bodyArea.height).placements,
    placement.visible = true ∧ placement.pane = pane
      ∧ 2 ≤ (rectInBody self.bodyArea placement.rect).width
      ∧ 2 ≤ (rectInBody self.bodyArea placement.rect).height
      ∧ (rectInBody self.bodyArea placement.rect).Contains x y

end DashboardModel

end StorageBallast.Tui

/-! Whether a click selects what is drawn under it. The mouse handlers take the body to start two
rows lower than it is drawn and to be two rows shorter, so they find another item than the one
drawn there, unless the windows of the list happen to be shifted by as much.
-/

namespace StorageBallast.Tui

theorem centeredWindow_length (selected total rows : Nat)
    : (centeredWindow selected total rows).2 - (centeredWindow selected total rows).1
        = min (max rows 1) total := by
  unfold centeredWindow
  split
  · omega
  · dsimp only
    omega

theorem centeredWindow_max (selected total rows : Nat)
    : centeredWindow selected total (max rows 1) = centeredWindow selected total rows := by
  unfold centeredWindow
  rw [max_assoc, max_self]

theorem centeredWindow_clamped {selected total : Nat} (rows : Nat)
    (inRange : selected = 0 ∨ selected < total)
    : centeredWindow (min selected (total - 1)) total rows
        = centeredWindow selected total rows := by
  unfold centeredWindow
  split
  · rfl
  · have same : min selected (total - 1) = selected := by omega
    rw [same]

def listWidth (cols : Nat) : Nat :=
  match classifyLayout cols with
  | .narrow => max cols 1
  | .wide => (splitColumns (max cols 1) 1).1
  | .ultraWide => (splitColumnsRatio (max cols 1) 2 11 20).1

theorem listWidth_bounds {cols : Nat} (usable : 40 ≤ cols)
    : 6 ≤ listWidth cols ∧ listWidth cols ≤ cols := by
  unfold listWidth classifyLayout
  split_ifs with narrow wide
  · dsimp only
    omega
  · dsimp only [splitColumns, saturatingMulU16]
    omega
  · dsimp only [splitColumnsRatio, saturatingMulU16]
    rw [if_neg (by decide)]
    dsimp only
    omega

theorem find_list {Pane : Type} [DecidableEq Pane] {panes : ListPanes Pane}
    (apart : panes.top ≠ some panes.list) (cols rows : Nat)
    : ((buildListLayout panes cols rows).placements.find? fun placement =>
        placement.visible && decide (placement.pane = panes.list))
      = some ⟨panes.list, .p0,
          ⟨0, panes.topRows, listWidth cols, max (rows - 1 - panes.topRows) 1⟩, true⟩ := by
  have top (width : Nat) : (panes.placeTop width).find? (fun placement =>
      placement.visible && decide (placement.pane = panes.list)) = none := by
    unfold ListPanes.placeTop
    cases placed : panes.top with
    | none => rfl
    | some pane =>
        have other : pane ≠ panes.list := fun same => apart (placed.trans (congrArg some same))
        simp [other]
  unfold buildListLayout listWidth
  cases classifyLayout cols with
  | narrow => simp [buildNarrowList, List.find?_append, top]
  | wide => simp [buildWideList, List.find?_append, top]
  | ultraWide => simp [buildUltraList, List.find?_append, top]

/-- A list in a pane of a body of so many rows: what stands over the pane and over the items, the
columns of the pane, the cursor and the items.
-/
structure ListView where
  bodyRows : Nat
  topRows : Nat
  headRows : Nat
  width : Nat
  selected : Nat
  total : Nat

namespace ListView

def hitRows (view : ListView) : Nat := view.bodyRows - (view.topRows + 5)

def drawnRows (view : ListView) : Nat := view.bodyRows - (view.topRows + 3)

def ItemHit (view : ListView) (x y : Nat) : Prop :=
  1 ≤ x ∧ x + 1 < view.width
    ∧ view.topRows + 7 ≤ y ∧ y < view.topRows + 7 + min view.hitRows view.total

def ItemDrawnUnbordered (view : ListView) (x y : Nat) : Prop :=
  x < view.width ∧ view.topRows < view.bodyRows
    ∧ y = view.topRows + 4 + view.headRows
    ∧ view.headRows < max (view.bodyRows - 1 - view.topRows) 1 ∧ 0 < view.total

def ItemDrawnBordered (view : ListView) (x y : Nat) : Prop :=
  1 ≤ x ∧ x + 1 < view.width ∧ view.topRows + 5 + view.headRows ≤ y
    ∧ y < view.topRows + 5 + min view.drawnRows (view.headRows + view.total)

def ItemDrawn (view : ListView) (x y : Nat) : Prop :=
  if view.bodyRows < view.topRows + 4 then view.ItemDrawnUnbordered x y
  else view.ItemDrawnBordered x y

/-- The window that the mouse handlers see starts as much later than the one that is drawn as its
first item is drawn over the row where they expect theirs.
-/
def WindowsAligned (view : ListView) : Prop :=
  (centeredWindow view.selected view.total view.hitRows).1 + view.headRows
    = (centeredWindow view.selected view.total view.drawnRows).1 + 2

def firstItemRow (view : ListView) : Nat :=
  view.topRows + view.headRows + if view.bodyRows < view.topRows + 4 then 4 else 5

def Aligned (view : ListView) (x y : Nat) : Prop :=
  (¬ view.ItemHit x y ∧ ¬ view.ItemDrawn x y)
    ∨ (view.ItemHit x y ∧ view.ItemDrawn x y ∧ view.WindowsAligned)

instance (view : ListView) (x y : Nat) : Decidable (view.ItemHit x y) :=
  inferInstanceAs (Decidable (_ ∧ _))

instance (view : ListView) (x y : Nat) : Decidable (view.ItemDrawnUnbordered x y) :=
  inferInstanceAs (Decidable (_ ∧ _))

instance (view : ListView) (x y : Nat) : Decidable (view.ItemDrawnBordered x y) :=
  inferInstanceAs (Decidable (_ ∧ _))

instance (view : ListView) (x y : Nat) : Decidable (view.ItemDrawn x y) :=
  inferInstanceAs (Decidable (if view.bodyRows < view.topRows + 4
    then view.ItemDrawnUnbordered x y else view.ItemDrawnBordered x y))

def area (view : ListView) : Rect :=
  if view.bodyRows ≤ view.topRows then ⟨0, 4, 0, 0⟩
  else ⟨0, view.topRows + 4, view.width, max (view.bodyRows - 1 - view.topRows) 1⟩

theorem area_rows (view : ListView) : paneBodyRows view.area = max view.drawnRows 1 := by
  unfold area paneBodyRows drawnRows
  split
  · dsimp only
    omega
  · dsimp only
    omega

theorem area_text {view : ListView} (wide : 6 ≤ view.width)
    : paneTextArea view.area
        = if view.bodyRows < view.topRows + 4 then view.area
          else ⟨1, view.topRows + 5, view.width - 2, view.drawnRows⟩ := by
  unfold paneTextArea area drawnRows
  by_cases room : view.bodyRows ≤ view.topRows
  · rw [if_pos room, if_pos (Or.inl (by decide)), if_pos (by omega)]
  · rw [if_neg room]
    dsimp only
    by_cases short : view.bodyRows < view.topRows + 4
    · rw [if_pos short, if_pos (by omega)]
    · rw [if_neg short, if_neg (by omega)]
      unfold Rect.inner
      dsimp only
      congr 1
      omega

/-- An item is drawn over a cell if the cell is in the text of the pane, behind the lines over
the items and before the end of the window.
-/
theorem itemDrawn_iff {view : ListView} (wide : 6 ≤ view.width) (x y : Nat)
    : let text := paneTextArea view.area
      (text.Contains x y ∧ view.headRows ≤ y - text.y
          ∧ y - text.y - view.headRows < min (paneBodyRows view.area) view.total)
        ↔ view.ItemDrawn x y := by
  intro text
  have text_eq : text = if view.bodyRows < view.topRows + 4 then view.area
    else ⟨1, view.topRows + 5, view.width - 2, view.drawnRows⟩ := area_text wide
  have drawnRows : view.drawnRows = view.bodyRows - (view.topRows + 3) := rfl
  rw [view.area_rows, text_eq]
  unfold ItemDrawn
  by_cases short : view.bodyRows < view.topRows + 4
  · rw [if_pos short, if_pos short]
    unfold area ItemDrawnUnbordered Rect.Contains
    split
    · dsimp only
      omega
    · dsimp only
      omega
  · rw [if_neg short, if_neg short]
    unfold ItemDrawnBordered Rect.Contains
    dsimp only
    omega

theorem itemDrawn_row {view : ListView} (wide : 6 ≤ view.width) {x y : Nat}
    (drawn : view.ItemDrawn x y)
    : y - (paneTextArea view.area).y - view.headRows = y - view.firstItemRow := by
  rw [area_text wide]
  unfold ItemDrawn ItemDrawnUnbordered at drawn
  unfold firstItemRow area
  split_ifs at drawn ⊢ <;> dsimp only <;> omega

end ListView

namespace DashboardModel

variable {F : Type}

/-- A terminal that is not too small, with a size of two 16-bit numbers. -/
structure Usable (model : DashboardModel F) : Prop where
  large : isTerminalTooSmall model.terminalSize.1 model.terminalSize.2 = false
  cols_lt : model.terminalSize.1 < 2 ^ 16
  rows_lt : model.terminalSize.2 < 2 ^ 16

variable {self : DashboardModel F}

theorem Usable.bounds (usable : self.Usable)
    : 40 ≤ self.terminalSize.1 ∧ 8 ≤ self.terminalSize.2 := by
  have large := usable.large
  rw [isTerminalTooSmall, Bool.or_eq_false_iff, decide_eq_false_iff_not,
    decide_eq_false_iff_not] at large
  exact ⟨not_lt.mp large.1, not_lt.mp large.2⟩

/-- The mouse handlers count two rows less than the renderer. -/
theorem dashboardBodyHeight_eq (self : DashboardModel F)
    : self.dashboardBodyHeight = self.bodyArea.height - 2 := by
  simp only [dashboardBodyHeight, bodyArea, mouseHeaderRows, mouseFooterRows, frameHeaderRows,
    frameFooterRows]
  omega

theorem Usable.body_lt (usable : self.Usable) : self.bodyArea.height < 2 ^ 16 - 4 := by
  have rows := usable.rows_lt
  simp only [bodyArea, frameHeaderRows, frameFooterRows]
  omega

variable {Pane : Type} [DecidableEq Pane] {panes : ListPanes Pane}

def listView (self : DashboardModel F) (panes : ListPanes Pane) (headRows selected total : Nat)
    : ListView where
  bodyRows := self.bodyArea.height
  topRows := panes.topRows
  headRows := headRows
  width := listWidth self.terminalSize.1
  selected := selected
  total := total

theorem saturatingAddU16_eq {a b : Nat} (small : a + b < 2 ^ 16) : saturatingAddU16 a b = a + b :=
  Nat.min_eq_left (by omega)

theorem bodyLocalY_eq (self : DashboardModel F) (y : Nat)
    : self.bodyLocalY y
        = if 6 ≤ y ∧ y - 6 < self.bodyArea.height - 2 then some (y - 6) else none := by
  have header : mouseHeaderRows = 6 := rfl
  unfold bodyLocalY
  rw [dashboardBodyHeight_eq]
  split
  · rw [if_neg (by omega)]
  · dsimp only
    rw [header]
    split
    · rw [if_pos (by omega)]
    · rw [if_neg (by omega)]

omit [DecidableEq Pane] in
theorem paneContentRow_eq {x localY row width height : Nat} (narrow : width < 2 ^ 16)
    (low : row + height < 2 ^ 16)
    : paneContentRow x localY ⟨0, row, width, height⟩
        = if 3 ≤ height ∧ 1 ≤ x ∧ x + 1 < width ∧ row + 1 ≤ localY ∧ localY + 1 < row + height
          then some (localY - (row + 1)) else none := by
  unfold paneContentRow
  dsimp only
  split
  · rw [if_neg (by omega)]
  · rename_i large
    rw [saturatingAddU16_eq (by omega), saturatingAddU16_eq (by omega),
      saturatingAddU16_eq (by omega), saturatingAddU16_eq (by omega)]
    split
    · rw [if_neg (by omega)]
    · rw [if_pos (by omega)]

theorem listRowHit_eq (usable : self.Usable) (apart : panes.top ≠ some panes.list)
    (low : panes.topRows ≤ 3) (headRows selected total x y : Nat)
    : let view := self.listView panes headRows selected total
      self.listRowHit (buildListLayout panes self.terminalSize.1 self.dashboardBodyHeight)
          panes.list selected total x y
        = if view.ItemHit x y then
            some ((centeredWindow selected total view.hitRows).1 + (y - (panes.topRows + 7)))
          else none := by
  intro view
  have width := listWidth_bounds usable.bounds.1
  have cols := usable.cols_lt
  have rows := usable.body_lt
  have length := centeredWindow_length selected total view.hitRows
  have hitRows : view.hitRows = self.bodyArea.height - (panes.topRows + 5) := rfl
  have hit : view.ItemHit x y ↔ 1 ≤ x ∧ x + 1 < listWidth self.terminalSize.1
      ∧ panes.topRows + 7 ≤ y ∧ y < panes.topRows + 7 + min view.hitRows total := Iff.rfl
  unfold listRowHit
  rw [find_list apart, dashboardBodyHeight_eq, bodyLocalY_eq]
  dsimp only [Option.bind_eq_bind]
  by_cases inBody : 6 ≤ y ∧ y - 6 < self.bodyArea.height - 2
  · rw [if_pos inBody]
    dsimp only [Option.bind_some]
    rw [paneContentRow_eq (by omega) (by omega)]
    by_cases content : 3 ≤ max (self.bodyArea.height - 2 - 1 - panes.topRows) 1 ∧ 1 ≤ x
        ∧ x + 1 < listWidth self.terminalSize.1 ∧ panes.topRows + 1 ≤ y - 6
        ∧ y - 6 + 1 < panes.topRows + max (self.bodyArea.height - 2 - 1 - panes.topRows) 1
    · have sameRows : max (max (self.bodyArea.height - 2 - 1 - panes.topRows) 1 - 2) 1
          = view.hitRows := by omega
      have sameLine : y - 6 - (panes.topRows + 1) = y - (panes.topRows + 7) := by omega
      rw [if_pos content]
      dsimp only [Option.bind_some]
      rw [sameRows, sameLine, length]
      by_cases found : view.ItemHit x y
      · rw [if_pos found, if_pos]
        rw [hit] at found
        omega
      · rw [if_neg found, if_neg]
        rw [hit] at found
        omega
    · rw [if_neg content, if_neg]
      · rfl
      · rw [hit]
        omega
  · rw [if_neg inBody, if_neg (by rw [hit]; omega)]
    rfl

def listLines (headRows selected total rows : Nat) : List ListLine :=
  if total = 0 then [.message]
  else List.replicate headRows .heading ++ itemLines (centeredWindow selected total rows)

theorem itemLines_index (window : Nat × Nat) (k : Nat)
    : (itemLines window)[k]?.bind ListLine.index
        = if k < window.2 - window.1 then some (window.1 + k) else none := by
  unfold itemLines
  rw [List.getElem?_map]
  by_cases within : k < window.2 - window.1
  · rw [if_pos within, List.getElem?_range' within, Nat.one_mul]
    rfl
  · rw [if_neg within, List.getElem?_eq_none (by rw [List.length_range']; omega)]
    rfl

theorem listLines_index (headRows selected total rows k : Nat)
    : (listLines headRows selected total rows)[k]?.bind ListLine.index
        = if headRows ≤ k ∧ k - headRows < min (max rows 1) total then
            some ((centeredWindow selected total rows).1 + (k - headRows))
          else none := by
  unfold listLines
  by_cases empty : total = 0
  · rw [if_pos empty, if_neg (by omega)]
    cases k <;> rfl
  · rw [if_neg empty, ← centeredWindow_length selected total rows]
    by_cases head : k < headRows
    · rw [List.getElem?_append_left (by rw [List.length_replicate]; exact head),
        List.getElem?_replicate_of_lt head, if_neg (by omega)]
      rfl
    · rw [List.getElem?_append_right (by rw [List.length_replicate]; omega),
        List.length_replicate, itemLines_index]
      by_cases within : k - headRows
          < (centeredWindow selected total rows).2 - (centeredWindow selected total rows).1
      · rw [if_pos within, if_pos ⟨by omega, within⟩]
      · rw [if_neg within, if_neg (by omega)]

omit [DecidableEq Pane] in
/-- The pane of a list within the body. It only sticks out of a body that has no room for it. -/
theorem rectInBody_list (usable : self.Usable) (low : panes.topRows ≤ 3)
    (headRows selected total : Nat)
    : rectInBody self.bodyArea ⟨0, panes.topRows, listWidth self.bodyArea.width,
          max (self.bodyArea.height - 1 - panes.topRows) 1⟩
        = (self.listView panes headRows selected total).area := by
  have width := listWidth_bounds usable.bounds.1
  have cols := usable.cols_lt
  have rows := usable.body_lt
  have left : self.bodyArea.x = 0 := rfl
  have top : self.bodyArea.y = 4 := rfl
  have full : self.bodyArea.width = self.terminalSize.1 := rfl
  unfold rectInBody ListView.area listView
  dsimp only
  rw [saturatingAddU16_eq (by omega), saturatingAddU16_eq (by omega),
    saturatingAddU16_eq (by omega), saturatingAddU16_eq (by omega), left, top, full]
  by_cases room : self.bodyArea.height ≤ panes.topRows
  · rw [if_pos room, if_pos (by omega)]
  · rw [if_neg room, if_neg (by omega)]
    congr 1 <;> omega

omit [DecidableEq Pane] in
/-- The item at a cell of a pane: the line there, without those over the items. -/
theorem paneLineAt_index (area : Rect) (headRows selected total x y : Nat)
    : let text := paneTextArea area
      (paneLineAt area (listLines headRows selected total (paneBodyRows area)) x y).bind
          ListLine.index
        = if text.Contains x y ∧ headRows ≤ y - text.y
            ∧ y - text.y - headRows < min (paneBodyRows area) total then
            some ((centeredWindow selected total (paneBodyRows area)).1
              + (y - text.y - headRows))
          else none := by
  intro text
  have rows : max (paneBodyRows area) 1 = paneBodyRows area := by
    unfold paneBodyRows
    omega
  unfold paneLineAt
  dsimp only
  by_cases inside : text.Contains x y
  · rw [if_pos inside, listLines_index, rows]
    simp only [inside, true_and]
    rfl
  · rw [if_neg inside, if_neg fun found => inside found.1]
    rfl

theorem drawnListItem_eq (usable : self.Usable) (apart : panes.top ≠ some panes.list)
    (low : panes.topRows ≤ 3) {headRows selected total : Nat} {lines : Nat → List ListLine}
    (styled : ∀ rows, lines rows = listLines headRows selected total rows) (x y : Nat)
    : let view := self.listView panes headRows selected total
      self.drawnListItem (buildListLayout panes self.bodyArea.width self.bodyArea.height)
          panes.list lines x y
        = if view.ItemDrawn x y then
            some ((centeredWindow selected total view.drawnRows).1 + (y - view.firstItemRow))
          else none := by
  intro view
  have wide : 6 ≤ view.width := (listWidth_bounds usable.bounds.1).1
  unfold drawnListItem
  rw [find_list apart]
  dsimp only [Option.bind_eq_bind, Option.bind_some]
  rw [rectInBody_list usable low headRows selected total, styled]
  refine (paneLineAt_index view.area view.headRows view.selected view.total x y).trans ?_
  by_cases drawn : view.ItemDrawn x y
  · rw [if_pos ((view.itemDrawn_iff wide x y).mpr drawn), if_pos drawn, view.area_rows,
      centeredWindow_max]
    exact congrArg (fun row => some (_ + row)) (view.itemDrawn_row wide drawn)
  · rw [if_neg (mt (view.itemDrawn_iff wide x y).mp drawn), if_neg drawn]

/-- The mouse handlers find the item that is drawn exactly where the view of the list is aligned.
-/
theorem listRowHit_eq_drawn_iff (usable : self.Usable) (apart : panes.top ≠ some panes.list)
    (low : panes.topRows ≤ 3) {headRows selected total : Nat} {lines : Nat → List ListLine}
    (few : headRows ≤ 1) (styled : ∀ rows, lines rows = listLines headRows selected total rows)
    (x y : Nat)
    : self.listRowHit (buildListLayout panes self.terminalSize.1 self.dashboardBodyHeight)
          panes.list selected total x y
        = self.drawnListItem (buildListLayout panes self.bodyArea.width self.bodyArea.height)
            panes.list lines x y
      ↔ (self.listView panes headRows selected total).Aligned x y := by
  set view := self.listView panes headRows selected total with view_eq
  have hitRow : view.ItemHit x y → panes.topRows + 7 ≤ y
      ∧ view.firstItemRow = panes.topRows + headRows + 5 := by
    rw [view_eq]
    unfold ListView.ItemHit ListView.firstItemRow ListView.hitRows listView
    dsimp only
    intro hit
    rw [if_neg (by omega)]
    omega
  rw [listRowHit_eq usable apart low headRows, drawnListItem_eq usable apart low styled, ← view_eq]
  unfold ListView.Aligned
  by_cases hit : view.ItemHit x y <;> by_cases drawn : view.ItemDrawn x y
  · obtain ⟨below, first⟩ := hitRow hit
    rw [if_pos hit, if_pos drawn, Option.some_inj, first]
    have windows : view.WindowsAligned ↔ (centeredWindow selected total view.hitRows).1 + headRows
        = (centeredWindow selected total view.drawnRows).1 + 2 := Iff.rfl
    rw [windows]
    simp only [hit, drawn, not_true, false_and, false_or, true_and]
    omega
  · simp [hit, drawn]
  · simp [hit, drawn]
  · simp [hit, drawn]

theorem tabSpans_eq (screen : Screen)
    : tabSpans screen = List.replicate (tabText screen).length (some screen) := by
  unfold tabSpans tabText
  rw [List.replicate_append_replicate]
  congr 1
  simp only [String.length_append]
  omega

theorem tabsSpans_first {k : Nat} {first : Screen} (rest : List Screen)
    (within : k < (tabText first).length)
    : (tabsSpans (first :: rest))[k]? = some (some first) := by
  have spans : (tabSpans first)[k]? = some (some first) := by
    rw [tabSpans_eq, List.getElem?_replicate_of_lt within]
  cases rest with
  | nil => exact spans
  | cons next rest =>
      have inFirst : k < (tabSpans first).length := by
        rw [tabSpans_eq, List.length_replicate]
        exact within
      exact (List.getElem?_append_left inFirst).trans spans

theorem tabsSpans_cons (first next : Screen) (rest : List Screen)
    : tabsSpans (first :: next :: rest)
        = tabSpans first ++ none :: tabsSpans (next :: rest) := by
  rw [tabsSpans]
  intro last
  cases last

theorem tabsSpans_rest (k : Nat) (first next : Screen) (rest : List Screen)
    : (tabsSpans (first :: next :: rest))[(tabText first).length + 1 + k]?
        = (tabsSpans (next :: rest))[k]? := by
  have size : (tabSpans first).length = (tabText first).length := by
    rw [tabSpans_eq, List.length_replicate]
  rw [tabsSpans_cons, List.getElem?_append_right (by omega)]
  have shift : (tabText first).length + 1 + k - (tabSpans first).length = k + 1 := by omega
  rw [shift, List.getElem?_cons_succ]

theorem tabsSpans_length (first next : Screen) (rest : List Screen)
    : (tabsSpans (first :: next :: rest)).length
        = (tabText first).length + 1 + (tabsSpans (next :: rest)).length := by
  rw [tabsSpans_cons, List.length_append, List.length_cons, tabSpans_eq, List.length_replicate]
  omega

/-- A tab that is hit covers the column. By induction on the tabs. -/
theorem tabHit_covers {x cursor : Nat} {screens : List Screen} {screen : Screen}
    (short : cursor + (tabsSpans screens).length + 1 < 2 ^ 16)
    (hit : tabHit x screens cursor = some screen)
    : cursor ≤ x ∧ (tabsSpans screens)[x - cursor]? = some (some screen) := by
  induction screens generalizing cursor with
  | nil => cases hit
  | cons first rest ih =>
      have fits : cursor + (tabText first).length + 1 < 2 ^ 16 := by
        cases rest with
        | nil =>
            rw [tabsSpans, tabSpans_eq, List.length_replicate] at short
            exact short
        | cons next rest =>
            rw [tabsSpans_length] at short
            omega
      unfold tabHit at hit
      rw [saturatingAddU16_eq (by omega)] at hit
      dsimp only at hit
      rw [saturatingAddU16_eq (by omega)] at hit
      split at hit
      · rename_i inFirst
        cases hit
        exact ⟨inFirst.1, tabsSpans_first rest (by omega)⟩
      · cases rest with
        | nil => cases hit
        | cons next rest =>
            rw [tabsSpans_length] at short
            obtain ⟨after, covered⟩ := ih (by omega) hit
            have column : x - cursor
                = (tabText first).length + 1 + (x - (cursor + (tabText first).length + 1)) := by
              omega
            rw [column, tabsSpans_rest]
            exact ⟨by omega, covered⟩

theorem headerTabHitScreen_covers {x y : Nat} {screen : Screen}
    (hit : self.headerTabHitScreen x y = some screen) : self.TabCovers screen x y := by
  have short : 1 + (tabsSpans tabScreens).length + 1 < 2 ^ 16 := by decide
  unfold headerTabHitScreen at hit
  split at hit
  · cases hit
  · rename_i within
    have tabRow : headerTabRow = 2 := rfl
    obtain ⟨inFrame, covered⟩ := tabHit_covers short hit
    refine ⟨by omega, by omega, ?_⟩
    obtain ⟨k, rfl⟩ : ∃ k, x = k + 1 := ⟨x - 1, by omega⟩
    exact covered

end DashboardModel

end StorageBallast.Tui
