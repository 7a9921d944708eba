import Mathlib.Data.List.Basic
import Mathlib.Algebra.Group.Nat.Defs

/-! Where the panes of a dashboard screen are, in cells of the body of the frame. Screens with a
list share one composition: a bar over the list, the details beside it, a footer below. So does
the diagnostics screen, but for its narrow layout. The overview has cards at four densities.
Coordinates are 16-bit numbers and saturate.
-/

namespace StorageBallast.Tui

/-- `u16::saturating_add`. -/
def saturatingAddU16 (a b : Nat) : Nat := min (a + b) (2 ^ 16 - 1)

/-- `u16::saturating_mul`. -/
def saturatingMulU16 (a b : Nat) : Nat := min (a * b) (2 ^ 16 - 1)

def minUsableCols : Nat := 40

def minUsableRows : Nat := 8

def isTerminalTooSmall (cols rows : Nat) : Bool :=
  decide (cols < minUsableCols) || decide (rows < minUsableRows)

inductive LayoutClass where
  | narrow
  | wide
  | ultraWide
deriving DecidableEq, Repr

inductive PanePriority where
  | p0
  | p1
  | p2
deriving DecidableEq, Repr

structure PaneRect where
  col : Nat
  row : Nat
  width : Nat
  height : Nat
deriving DecidableEq, Repr

structure PanePlacement (Pane : Type) where
  pane : Pane
  priority : PanePriority
  rect : PaneRect
  visible : Bool
deriving DecidableEq, Repr

structure PaneLayout (Pane : Type) where
  layoutClass : LayoutClass
  placements : List (PanePlacement Pane)
deriving DecidableEq, Repr

def classifyLayout (cols : Nat) : LayoutClass :=
  if cols < 100 then .narrow else if cols < 180 then .wide else .ultraWide

def splitColumns (cols gutter : Nat) : Nat × Nat :=
  let usable := cols - gutter
  let left := max (saturatingMulU16 usable 3 / 5) 1
  (left, max (usable - left) 1)

def splitColumnsRatio (cols gutter leftNumerator denominator : Nat) : Nat × Nat :=
  if denominator = 0 then splitColumns cols gutter
  else
    let usable := cols - gutter
    let left := max (saturatingMulU16 usable leftNumerator / denominator) 1
    (left, max (usable - left) 1)

/-- The panes of a screen with a list: what stands over the list and the rows that it takes,
and the rows from which on the details are shown in the wide and in the ultra-wide layout.
-/
structure ListPanes (Pane : Type) where
  top : Option Pane
  topRows : Nat
  list : Pane
  detail : Pane
  footer : Pane
  wideDetailRows : Nat
  ultraDetailRows : Nat

section ListLayouts

variable {Pane : Type} (panes : ListPanes Pane)

def ListPanes.placeTop (width : Nat) : List (PanePlacement Pane) :=
  (panes.top.map fun pane => ⟨pane, .p0, ⟨0, 0, width, panes.topRows⟩, true⟩).toList

def buildNarrowList (cols rows : Nat) : PaneLayout Pane :=
  let width := max cols 1
  let footerRow := rows - 1
  let listHeight := max (footerRow - panes.topRows) 1
  { layoutClass := .narrow
    placements := panes.placeTop width ++ [
      ⟨panes.list, .p0, ⟨0, panes.topRows, width, listHeight⟩, true⟩,
      ⟨panes.detail, .p2, ⟨0, 0, 0, 0⟩, false⟩,
      ⟨panes.footer, .p0, ⟨0, footerRow, width, 1⟩, true⟩] }

def buildWideList (cols rows : Nat) : PaneLayout Pane :=
  let fullWidth := max cols 1
  let (listWidth, detailWidth) := splitColumns fullWidth 1
  let detailCol := saturatingAddU16 listWidth 1
  let footerRow := rows - 1
  let bodyHeight := max (footerRow - panes.topRows) 1
  { layoutClass := .wide
    placements := panes.placeTop fullWidth ++ [
      ⟨panes.list, .p0, ⟨0, panes.topRows, listWidth, bodyHeight⟩, true⟩,
      ⟨panes.detail, .p1, ⟨detailCol, panes.topRows, detailWidth, bodyHeight⟩,
        decide (panes.wideDetailRows ≤ rows)⟩,
      ⟨panes.footer, .p0, ⟨0, footerRow, fullWidth, 1⟩, true⟩] }

def buildUltraList (cols rows : Nat) : PaneLayout Pane :=
  let fullWidth := max cols 1
  let (listWidth, detailWidth) := splitColumnsRatio fullWidth 2 11 20
  let detailCol := saturatingAddU16 listWidth 2
  let footerRow := rows - 1
  let bodyHeight := max (footerRow - panes.topRows) 1
  { layoutClass := .ultraWide
    placements := panes.placeTop fullWidth ++ [
      ⟨panes.list, .p0, ⟨0, panes.topRows, listWidth, bodyHeight⟩, true⟩,
      ⟨panes.detail, .p1, ⟨detailCol, panes.topRows, detailWidth, bodyHeight⟩,
        decide (panes.ultraDetailRows ≤ rows)⟩,
      ⟨panes.footer, .p0, ⟨0, footerRow, fullWidth, 1⟩, true⟩] }

def buildListLayout (cols rows : Nat) : PaneLayout Pane :=
  match classifyLayout cols with
  | .narrow => buildNarrowList panes cols rows
  | .wide => buildWideList panes cols rows
  | .ultraWide => buildUltraList panes cols rows

end ListLayouts

inductive TimelinePane where
  | filterBar
  | eventList
  | eventDetail
  | statusFooter
deriving DecidableEq, Repr

def timelinePanes : ListPanes TimelinePane :=
  { top := some .filterBar, topRows := 1, list := .eventList, detail := .eventDetail,
    footer := .statusFooter, wideDetailRows := 10, ultraDetailRows := 8 }

def buildTimelineLayout (cols rows : Nat) : PaneLayout TimelinePane :=
  buildListLayout timelinePanes cols rows

inductive BallastPane where
  | volumeList
  | volumeDetail
  | statusFooter
deriving DecidableEq, Repr

def ballastPanes : ListPanes BallastPane :=
  { top := none, topRows := 0, list := .volumeList, detail := .volumeDetail,
    footer := .statusFooter, wideDetailRows := 10, ultraDetailRows := 8 }

def buildBallastLayout (cols rows : Nat) : PaneLayout BallastPane :=
  buildListLayout ballastPanes cols rows

inductive ExplainabilityPane where
  | decisionHeader
  | factorBreakdown
  | vetoDetail
  | statusFooter
deriving DecidableEq, Repr

def explainabilityPanes : ListPanes ExplainabilityPane :=
  { top := some .decisionHeader, topRows := 3, list := .factorBreakdown,
    detail := .vetoDetail, footer := .statusFooter, wideDetailRows := 12,
    ultraDetailRows := 10 }

def buildExplainabilityLayout (cols rows : Nat) : PaneLayout ExplainabilityPane :=
  buildListLayout explainabilityPanes cols rows

inductive CandidatesPane where
  | summaryBar
  | candidateList
  | scoreDetail
  | statusFooter
deriving DecidableEq, Repr

def candidatesPanes : ListPanes CandidatesPane :=
  { top := some .summaryBar, topRows := 1, list := .candidateList, detail := .scoreDetail,
    footer := .statusFooter, wideDetailRows := 10, ultraDetailRows := 8 }

def buildCandidatesLayout (cols rows : Nat) : PaneLayout CandidatesPane :=
  buildListLayout candidatesPanes cols rows

inductive LogSearchPane where
  | searchBar
  | logList
  | entryDetail
  | statusFooter
deriving DecidableEq, Repr

def logSearchPanes : ListPanes LogSearchPane :=
  { top := some .searchBar, topRows := 1, list := .logList, detail := .entryDetail,
    footer := .statusFooter, wideDetailRows := 10, ultraDetailRows := 8 }

def buildLogSearchLayout (cols rows : Nat) : PaneLayout LogSearchPane :=
  buildListLayout logSearchPanes cols rows

inductive DiagnosticsPane where
  | healthHeader
  | threadTable
  | perfPanel
  | statusFooter
deriving DecidableEq, Repr

def diagnosticsPanes : ListPanes DiagnosticsPane :=
  { top := some .healthHeader, topRows := 3, list := .threadTable, detail := .perfPanel,
    footer := .statusFooter, wideDetailRows := 12, ultraDetailRows := 10 }

/-- The narrow layout has the performance panel under the table, not beside it. -/
def buildNarrowDiagnostics (cols rows : Nat) : PaneLayout DiagnosticsPane :=
  let width := max cols 1
  let footerRow := rows - 1
  let tableHeight := max (footerRow - 3) 1
  let perfVisible := decide (20 ≤ rows)
  let perfRow := saturatingAddU16 3 tableHeight
  let perfHeight := if perfVisible then max (footerRow - perfRow) 1 else 0
  { layoutClass := .narrow
    placements := [
      ⟨.healthHeader, .p0, ⟨0, 0, width, 3⟩, true⟩,
      ⟨.threadTable, .p0, ⟨0, 3, width, tableHeight⟩, true⟩,
      ⟨.perfPanel, .p2, ⟨0, perfRow, width, perfHeight⟩, perfVisible⟩,
      ⟨.statusFooter, .p0, ⟨0, footerRow, width, 1⟩, true⟩] }

def buildDiagnosticsLayout (cols rows : Nat) : PaneLayout DiagnosticsPane :=
  match classifyLayout cols with
  | .narrow => buildNarrowDiagnostics cols rows
  | .wide => buildWideList diagnosticsPanes cols rows
  | .ultraWide => buildUltraList diagnosticsPanes cols rows

inductive OverviewPane where
  | pressureSummary
  | forecastHorizon
  | actionLane
  | ewmaTrend
  | decisionPulse
  | candidateHotlist
  | ballastQuick
  | specialLocations
  | extendedCounters
deriving DecidableEq, Repr

inductive OverviewDensity where
  | sm
  | md
  | lg
  | xl
deriving DecidableEq, Repr

structure OverviewLayout where
  layoutClass : LayoutClass
  density : OverviewDensity
  placements : List (PanePlacement OverviewPane)
deriving DecidableEq, Repr

def classifyOverviewDensity (cols rows : Nat) : OverviewDensity :=
  if 240 ≤ cols ∧ 34 ≤ rows then .xl
  else if 170 ≤ cols ∧ 28 ≤ rows then .lg
  else if 120 ≤ cols ∧ 22 ≤ rows then .md
  else .sm

def buildOverviewSm (cols rows : Nat) : OverviewLayout :=
  let fullWidth := max cols 1
  { layoutClass := .narrow
    density := .sm
    placements := [
      ⟨.pressureSummary, .p0, ⟨0, 0, fullWidth, 3⟩, true⟩,
      ⟨.forecastHorizon, .p0, ⟨0, 3, fullWidth, 3⟩, true⟩,
      ⟨.actionLane, .p0, ⟨0, 6, fullWidth, 3⟩, true⟩,
      ⟨.ewmaTrend, .p1, ⟨0, 9, fullWidth, 3⟩, decide (12 ≤ rows)⟩,
      ⟨.decisionPulse, .p1, ⟨0, 12, fullWidth, 3⟩, decide (15 ≤ rows)⟩,
      ⟨.candidateHotlist, .p1, ⟨0, 15, fullWidth, 3⟩, decide (18 ≤ rows)⟩,
      ⟨.ballastQuick, .p1, ⟨0, 18, fullWidth, 2⟩, decide (20 ≤ rows)⟩,
      ⟨.specialLocations, .p2, ⟨0, 20, fullWidth, 2⟩, decide (22 ≤ rows)⟩,
      ⟨.extendedCounters, .p2, ⟨0, 22, fullWidth, 2⟩, decide (24 ≤ rows)⟩] }

def buildOverviewMd (cols rows : Nat) : OverviewLayout :=
  let fullWidth := max cols 1
  let (leftWidth, rightWidth) := splitColumns fullWidth 1
  let rightCol := saturatingAddU16 leftWidth 1
  let bottomRow := decide (24 ≤ rows)
  let extraRow := decide (30 ≤ rows)
  { layoutClass := .wide
    density := .md
    placements := [
      ⟨.pressureSummary, .p0, ⟨0, 0, leftWidth, 5⟩, true⟩,
      ⟨.forecastHorizon, .p0, ⟨rightCol, 0, rightWidth, 5⟩, true⟩,
      ⟨.actionLane, .p0, ⟨0, 5, leftWidth, 5⟩, true⟩,
      ⟨.ewmaTrend, .p1, ⟨rightCol, 5, rightWidth, 5⟩, true⟩,
      ⟨.decisionPulse, .p1, ⟨0, 10, leftWidth, 4⟩, bottomRow⟩,
      ⟨.candidateHotlist, .p1, ⟨rightCol, 10, rightWidth, 4⟩, bottomRow⟩,
      ⟨.ballastQuick, .p1, ⟨0, 14, leftWidth, 4⟩, bottomRow⟩,
      ⟨.specialLocations, .p2, ⟨rightCol, 14, rightWidth, 4⟩, extraRow⟩,
      ⟨.extendedCounters, .p2, ⟨0, 18, fullWidth, 3⟩, extraRow⟩] }

def buildOverviewLg (cols rows : Nat) : OverviewLayout :=
  let fullWidth := max cols 1
  let usable := fullWidth - 2
  let left := max (usable / 3) 1
  let mid := max (usable / 3) 1
  let right := max (usable - (left + mid)) 1
  let colMid := saturatingAddU16 left 1
  let colRight := saturatingAddU16 (saturatingAddU16 left mid) 2
  let bottomVisible := decide (26 ≤ rows)
  let p2Visible := decide (32 ≤ rows)
  { layoutClass := .wide
    density := .lg
    placements := [
      ⟨.pressureSummary, .p0, ⟨0, 0, left, 6⟩, true⟩,
      ⟨.forecastHorizon, .p0, ⟨colMid, 0, mid, 6⟩, true⟩,
      ⟨.actionLane, .p0, ⟨colRight, 0, right, 6⟩, true⟩,
      ⟨.ewmaTrend, .p1, ⟨0, 6, left, 6⟩, true⟩,
      ⟨.decisionPulse, .p1, ⟨colMid, 6, mid, 6⟩, true⟩,
      ⟨.candidateHotlist, .p1, ⟨colRight, 6, right, 6⟩, true⟩,
      ⟨.ballastQuick, .p1, ⟨0, 12, left + 1 + mid, 5⟩, bottomVisible⟩,
      ⟨.specialLocations, .p2, ⟨colRight, 12, right, 5⟩, bottomVisible⟩,
      ⟨.extendedCounters, .p2, ⟨0, 17, fullWidth, 4⟩, p2Visible⟩] }

def overviewBands (rows : Nat) : Nat × Nat × Nat :=
  let top := min (max (saturatingMulU16 rows 3 / 10) 6) (max (rows - 8) 6)
  let remaining := rows - top
  let middle := min (max (saturatingMulU16 remaining 11 / 20) 7) (max (remaining - 4) 7)
  (top, middle, remaining - middle)

def buildOverviewXl (cols rows : Nat) : OverviewLayout :=
  let fullWidth := max cols 1
  let usable := fullWidth - 3
  let c1 := max (saturatingMulU16 usable 5 / 24) 1
  let c2 := max (saturatingMulU16 usable 5 / 24) 1
  let c3 := max (saturatingMulU16 usable 6 / 24) 1
  let c4 := max (usable - (c1 + c2 + c3)) 1
  let colB := saturatingAddU16 c1 1
  let colC := saturatingAddU16 (saturatingAddU16 c1 c2) 2
  let colD := saturatingAddU16 (saturatingAddU16 c1 (c2 + c3)) 3
  let (topHeight, middleHeight, bottomHeight) := overviewBands rows
  let middleTop := topHeight
  let bottomTop := saturatingAddU16 topHeight middleHeight
  { layoutClass := .ultraWide
    density := .xl
    placements := [
      ⟨.pressureSummary, .p0, ⟨0, 0, c1, topHeight⟩, true⟩,
      ⟨.forecastHorizon, .p0, ⟨colB, 0, c2, topHeight⟩, true⟩,
      ⟨.actionLane, .p0, ⟨colC, 0, c3, topHeight⟩, true⟩,
      ⟨.decisionPulse, .p1, ⟨colD, 0, c4, topHeight⟩, true⟩,
      ⟨.ewmaTrend, .p1, ⟨0, middleTop, c1 + 1 + c2, middleHeight⟩, true⟩,
      ⟨.candidateHotlist, .p1, ⟨colC, middleTop, c3, middleHeight⟩, true⟩,
      ⟨.ballastQuick, .p1, ⟨colD, middleTop, c4, middleHeight⟩, true⟩,
      ⟨.specialLocations, .p2, ⟨0, bottomTop, c1 + 1 + c2 + 1 + c3, bottomHeight⟩,
        decide (4 ≤ bottomHeight)⟩,
      ⟨.extendedCounters, .p2, ⟨colD, bottomTop, c4, bottomHeight⟩,
        decide (6 ≤ bottomHeight)⟩] }

def buildOverviewLayout (cols rows : Nat) : OverviewLayout :=
  match classifyOverviewDensity cols rows with
  | .sm => buildOverviewSm cols rows
  | .md => buildOverviewMd cols rows
  | .lg => buildOverviewLg cols rows
  | .xl => buildOverviewXl cols rows

/-- The part of a list that is shown in so many rows: around the selected item, as far as the
ends of the list allow.
-/
def centeredWindow (selected total rows : Nat) : Nat × Nat :=
  if total = 0 then (0, 0)
  else
    let rows := min (max rows 1) total
    let start := min (selected - rows / 2) (total - rows)
    (start, min (start + rows) total)

theorem centeredWindow_end_le (selected total rows : Nat)
    : (centeredWindow selected total rows).2 ≤ total := by
  unfold centeredWindow
  split
  · exact Nat.zero_le total
  · exact Nat.min_le_right _ _

end StorageBallast.Tui
