import StorageBallast.Foundations.Clock
import StorageBallast.Tui.DashboardInput
import StorageBallast.Tui.DashboardLayout
import StorageBallast.Tui.Telemetry

/-! The state of the dashboard: the screens with their lists and cursors, and which item, tab or
pane a cell of the terminal belongs to. The log screen shares its cursor with the timeline.
-/

namespace StorageBallast.Tui

open scoped Float64

variable {F : Type}

inductive PreferenceAction where
  | setStartScreen (startScreen : StartScreen)
  | setDensity (density : DensityMode)
  | setHintVerbosity (hintVerbosity : HintVerbosity)
  | resetToPersisted
  | revertToDefaults
deriving DecidableEq, Repr

inductive CandidatesSortOrder where
  | score
  | size
  | age
  | path
deriving DecidableEq, Repr

def CandidatesSortOrder.cycle : CandidatesSortOrder → CandidatesSortOrder
  | score => size
  | size => age
  | age => path
  | path => score

structure BallastVolume where
  mountPoint : String
  ballastDir : String
  fsType : String
  strategy : String
  filesAvailable : Nat
  filesTotal : Nat
  releasableBytes : Nat
  skipped : Bool
  skipReason : Option String
deriving DecidableEq, Repr

inductive SeverityFilter where
  | all
  | info
  | warning
  | critical
deriving DecidableEq, Repr

namespace SeverityFilter

def cycle : SeverityFilter → SeverityFilter
  | all => info
  | info => warning
  | warning => critical
  | critical => all

def matches_ : SeverityFilter → String → Bool
  | all, _ => true
  | info, severity => severity == "info"
  | warning, severity => severity == "warning"
  | critical, severity => severity == "critical"

end SeverityFilter

inductive NotificationLevel where
  | info
  | warning
  | error
deriving DecidableEq, Repr

structure Notification where
  id : Nat
  level : NotificationLevel
  message : String
deriving DecidableEq, Repr

structure MountPressure where
  path : String
deriving DecidableEq, Repr

structure PressureState where
  overall : String
  mounts : List MountPressure
deriving DecidableEq, Repr

structure BallastState where
  available : Nat
  total : Nat
deriving DecidableEq, Repr

structure DaemonState where
  pressure : PressureState
  ballast : BallastState
deriving DecidableEq, Repr

def IncidentSeverity.fromDaemonState (state : Option DaemonState) : IncidentSeverity :=
  (state.map fun state => fromPressureLevel state.pressure.overall).getD .normal

structure DashboardModel (F : Type) where
  screen : Screen
  screenHistory : List Screen
  activeOverlay : Option Overlay
  overviewFocusPane : OverviewPane
  overviewHoverPane : Option OverviewPane
  daemonState : Option DaemonState
  terminalSize : Nat × Nat
  degraded : Bool
  tick : Nat
  refresh : Duration
  quit : Bool
  notifications : List Notification
  nextNotificationId : Nat
  timelineEvents : List (TimelineEvent F)
  timelineFilter : SeverityFilter
  timelineSelected : Nat
  timelineFollow : Bool
  timelineSource : DataSource
  timelinePartial : Bool
  timelineDiagnostics : String
  explainabilityDecisions : List (DecisionEvidence F)
  explainabilitySelected : Nat
  explainabilityDetail : Bool
  explainabilitySource : DataSource
  explainabilityPartial : Bool
  explainabilityDiagnostics : String
  candidatesList : List (DecisionEvidence F)
  candidatesSelected : Nat
  candidatesDetail : Bool
  candidatesSource : DataSource
  candidatesPartial : Bool
  candidatesDiagnostics : String
  candidatesSort : CandidatesSortOrder
  ballastVolumes : List BallastVolume
  ballastSelected : Nat
  ballastDetail : Bool
  ballastSource : DataSource
  ballastPartial : Bool
  ballastDiagnostics : String
  paletteQuery : String
  paletteSelected : Nat
  incidentPlaybookSelected : Nat
  diagnosticsVerbose : Bool
deriving DecidableEq

/-- The effects that an update asks for. -/
inductive DashboardCmd where
  | none
  | fetchData
  | scheduleTick (after : Duration)
  | quit
  | batch (commands : List DashboardCmd)
  | fetchTelemetry
  | scheduleNotificationExpiry (id : Nat) (after : Duration)
  | executePreferenceAction (action : PreferenceAction)

inductive MouseEventKind where
  | leftDown
  | scrollUp
  | scrollDown
  | other
deriving DecidableEq, Repr

structure MouseEvent where
  kind : MouseEventKind
  x : Nat
  y : Nat
deriving DecidableEq, Repr

structure DashboardError where
  message : String
deriving DecidableEq, Repr

inductive DashboardMsg (F : Type) where
  | tick
  | key (key : KeyEvent)
  | mouse (event : MouseEvent)
  | resize (cols rows : Nat)
  | dataUpdate (state : Option DaemonState)
  | navigate (screen : Screen)
  | navigateBack
  | toggleOverlay (overlay : Overlay)
  | closeOverlay
  | forceRefresh
  | notificationExpired (id : Nat)
  | error (err : DashboardError)
  | telemetryTimeline (result : TelemetryResult (List (TimelineEvent F)))
  | telemetryDecisions (result : TelemetryResult (List (DecisionEvidence F)))
  | telemetryCandidates (result : TelemetryResult (List (DecisionEvidence F)))
  | frameMetrics (durationMs : F)
  | telemetryBallast (result : TelemetryResult (List BallastVolume))
deriving DecidableEq

namespace DashboardModel

def new (refresh : Duration) (terminalSize : Nat × Nat) : DashboardModel F where
  screen := .overview
  screenHistory := []
  activeOverlay := none
  overviewFocusPane := .pressureSummary
  overviewHoverPane := none
  daemonState := none
  terminalSize := terminalSize
  degraded := true
  tick := 0
  refresh := refresh
  quit := false
  notifications := []
  nextNotificationId := 0
  timelineEvents := []
  timelineFilter := .all
  timelineSelected := 0
  timelineFollow := true
  timelineSource := .none
  timelinePartial := false
  timelineDiagnostics := ""
  explainabilityDecisions := []
  explainabilitySelected := 0
  explainabilityDetail := false
  explainabilitySource := .none
  explainabilityPartial := false
  explainabilityDiagnostics := ""
  candidatesList := []
  candidatesSelected := 0
  candidatesDetail := false
  candidatesSource := .none
  candidatesPartial := false
  candidatesDiagnostics := ""
  candidatesSort := .score
  ballastVolumes := []
  ballastSelected := 0
  ballastDetail := false
  ballastSource := .none
  ballastPartial := false
  ballastDiagnostics := ""
  paletteQuery := ""
  paletteSelected := 0
  incidentPlaybookSelected := 0
  diagnosticsVerbose := false

/-- At most three notifications are kept, the latest ones. The counter of their ids wraps. -/
def pushNotification (self : DashboardModel F) (level : NotificationLevel) (message : String)
    : DashboardModel F × Nat :=
  let id := self.nextNotificationId
  let pushed := self.notifications ++ [⟨id, level, message⟩]
  ({ self with
      nextNotificationId := (id + 1) % 2 ^ 64
      notifications := pushed.drop (pushed.length - 3) }, id)

def enterScreen (self : DashboardModel F) (target : Screen) : DashboardModel F :=
  { self with
    screen := target
    overviewHoverPane := if target = .overview then none else self.overviewHoverPane }

def navigateTo (self : DashboardModel F) (target : Screen) : DashboardModel F :=
  if target = self.screen then self
  else { self with screenHistory := self.screenHistory ++ [self.screen] }.enterScreen target

def navigateBack (self : DashboardModel F) : DashboardModel F × Bool :=
  match self.screenHistory.getLast? with
  | some previous =>
      ({ self with screenHistory := self.screenHistory.dropLast }.enterScreen previous, true)
  | none => (self, false)

def timelineFilteredEvents (self : DashboardModel F) : List (TimelineEvent F) :=
  self.timelineEvents.filter fun event => self.timelineFilter.matches_ event.severity

def timelineCursorUp (self : DashboardModel F) : DashboardModel F :=
  if 0 < self.timelineSelected then
    { self with timelineSelected := self.timelineSelected - 1, timelineFollow := false }
  else self

def timelineCursorDown (self : DashboardModel F) : DashboardModel F :=
  if self.timelineSelected < self.timelineFilteredEvents.length - 1 then
    { self with timelineSelected := self.timelineSelected + 1, timelineFollow := false }
  else self

def timelineCycleFilter (self : DashboardModel F) : DashboardModel F :=
  { self with timelineFilter := self.timelineFilter.cycle, timelineSelected := 0 }

def timelineToggleFollow (self : DashboardModel F) : DashboardModel F :=
  if self.timelineFollow then { self with timelineFollow := false }
  else
    { self with
      timelineFollow := true
      timelineSelected := self.timelineFilteredEvents.length - 1 }

def cursorUp (selected : Nat) : Nat := if 0 < selected then selected - 1 else selected

def cursorDown (selected length : Nat) : Nat :=
  if 0 < length ∧ selected < length - 1 then selected + 1 else selected

def explainabilityCursorUp (self : DashboardModel F) : DashboardModel F :=
  { self with explainabilitySelected := cursorUp self.explainabilitySelected }

def explainabilityCursorDown (self : DashboardModel F) : DashboardModel F :=
  { self with explainabilitySelected :=
      cursorDown self.explainabilitySelected self.explainabilityDecisions.length }

def explainabilityToggleDetail (self : DashboardModel F) : DashboardModel F :=
  { self with explainabilityDetail := !self.explainabilityDetail }

def candidatesCursorUp (self : DashboardModel F) : DashboardModel F :=
  { self with candidatesSelected := cursorUp self.candidatesSelected }

def candidatesCursorDown (self : DashboardModel F) : DashboardModel F :=
  { self with candidatesSelected :=
      cursorDown self.candidatesSelected self.candidatesList.length }

def candidatesToggleDetail (self : DashboardModel F) : DashboardModel F :=
  { self with candidatesDetail := !self.candidatesDetail }

def CandidatesSortOrder.compare [Float64 F]
    : CandidatesSortOrder → DecisionEvidence F → DecisionEvidence F → Ordering
  | .score, a, b => (Float64.partialCmp b.totalScore a.totalScore).getD .eq
  | .size, a, b => Ord.compare b.sizeBytes a.sizeBytes
  | .age, a, b => Ord.compare b.ageSecs a.ageSecs
  | .path, a, b => Ord.compare a.path b.path

def candidatesApplySort [Float64 F] (self : DashboardModel F) : DashboardModel F :=
  { self with candidatesList :=
      Sorting.sortBy (CandidatesSortOrder.compare self.candidatesSort) self.candidatesList }

def candidatesCycleSort [Float64 F] (self : DashboardModel F) : DashboardModel F :=
  { self with candidatesSort := self.candidatesSort.cycle }.candidatesApplySort

def ballastCursorUp (self : DashboardModel F) : DashboardModel F :=
  { self with ballastSelected := cursorUp self.ballastSelected }

def ballastCursorDown (self : DashboardModel F) : DashboardModel F :=
  { self with ballastSelected := cursorDown self.ballastSelected self.ballastVolumes.length }

def ballastToggleDetail (self : DashboardModel F) : DashboardModel F :=
  { self with ballastDetail := !self.ballastDetail }

def paletteResultLimit : Nat := 10

def paletteResults (self : DashboardModel F) : List PaletteAction :=
  searchPaletteActions self.paletteQuery paletteResultLimit

def paletteReset (self : DashboardModel F) : DashboardModel F :=
  { self with paletteQuery := "", paletteSelected := 0 }

def clampCursor (selected length : Nat) : Nat :=
  if length = 0 then 0 else if length ≤ selected then length - 1 else selected

def paletteClampCursor (self : DashboardModel F) : DashboardModel F :=
  { self with paletteSelected := clampCursor self.paletteSelected self.paletteResults.length }

def playbookEntries (self : DashboardModel F) : List PlaybookEntry :=
  playbookForSeverity (.fromDaemonState self.daemonState)

def mouseHeaderRows : Nat := 6

def mouseFooterRows : Nat := 1

def headerTabRow : Nat := 2

def dashboardBodyHeight (self : DashboardModel F) : Nat :=
  self.terminalSize.2 - mouseHeaderRows - mouseFooterRows - min self.notifications.length 3

def bodyLocalY (self : DashboardModel F) (y : Nat) : Option Nat :=
  if y < mouseHeaderRows then none
  else
    let localY := y - mouseHeaderRows
    if localY < self.dashboardBodyHeight then some localY else none

def pointInBody (self : DashboardModel F) (x y : Nat) : Bool :=
  decide (x < self.terminalSize.1) && (self.bodyLocalY y).isSome

def paneContentRow (x localY : Nat) (rect : PaneRect) : Option Nat :=
  if rect.width < 3 ∨ rect.height < 3 then none
  else
    let colStart := saturatingAddU16 rect.col 1
    let colEnd := saturatingAddU16 rect.col rect.width - 1
    let rowStart := saturatingAddU16 rect.row 1
    let rowEnd := saturatingAddU16 rect.row rect.height - 1
    if x < colStart ∨ colEnd ≤ x ∨ localY < rowStart ∨ rowEnd ≤ localY then none
    else some (localY - rowStart)

def listRowHit {Pane : Type} [DecidableEq Pane] (self : DashboardModel F)
    (layout : PaneLayout Pane) (pane : Pane) (selected total x y : Nat) : Option Nat := do
  let localY ← self.bodyLocalY y
  let list ← layout.placements.find? fun placement =>
    placement.visible && decide (placement.pane = pane)
  let relRow ← paneContentRow x localY list.rect
  let rows := max (list.rect.height - 2) 1
  let (start, end_) := centeredWindow selected total rows
  if relRow < end_ - start then some (start + relRow) else none

def timelineRowHit (self : DashboardModel F) (x y : Nat) : Option Nat :=
  self.listRowHit (buildTimelineLayout self.terminalSize.1 self.dashboardBodyHeight) .eventList
    self.timelineSelected self.timelineFilteredEvents.length x y

def explainabilityRowHit (self : DashboardModel F) (x y : Nat) : Option Nat :=
  self.listRowHit (buildExplainabilityLayout self.terminalSize.1 self.dashboardBodyHeight)
    .factorBreakdown self.explainabilitySelected self.explainabilityDecisions.length x y

def candidatesRowHit (self : DashboardModel F) (x y : Nat) : Option Nat :=
  self.listRowHit (buildCandidatesLayout self.terminalSize.1 self.dashboardBodyHeight)
    .candidateList self.candidatesSelected self.candidatesList.length x y

def ballastRowHit (self : DashboardModel F) (x y : Nat) : Option Nat :=
  self.listRowHit (buildBallastLayout self.terminalSize.1 self.dashboardBodyHeight) .volumeList
    self.ballastSelected self.ballastVolumes.length x y

def logSearchRowHit (self : DashboardModel F) (x y : Nat) : Option Nat :=
  self.listRowHit (buildLogSearchLayout self.terminalSize.1 self.dashboardBodyHeight) .logList
    self.timelineSelected self.timelineEvents.length x y

def screenTabLabel : Screen → String
  | .overview => "Overview"
  | .timeline => "Timeline"
  | .explainability => "Explain"
  | .candidates => "Candidates"
  | .ballast => "Ballast"
  | .logSearch => "Logs"
  | .diagnostics => "Diagnostics"

def tabScreens : List Screen :=
  [.overview, .timeline, .explainability, .candidates, .ballast, .logSearch, .diagnostics]

def tabText (screen : Screen) : String :=
  " " ++ toString screen.number ++ ":" ++ screenTabLabel screen ++ " "

/-- The tab that covers a column, where each tab starts one column after the end of the one
before it.
-/
def tabHit (x : Nat) : List Screen → Nat → Option Screen
  | [], _ => none
  | screen :: rest, cursor =>
      let end_ := saturatingAddU16 cursor (tabText screen).length
      if cursor ≤ x ∧ x < end_ then some screen
      else tabHit x rest (saturatingAddU16 end_ 1)

def headerTabHitScreen (self : DashboardModel F) (x y : Nat) : Option Screen :=
  if y ≠ headerTabRow ∨ x < 1 ∨ self.terminalSize.1 - 1 ≤ x then none
  else tabHit x tabScreens 1

def overviewVisiblePlacements (self : DashboardModel F) : List (PanePlacement OverviewPane) :=
  (buildOverviewLayout self.terminalSize.1 self.dashboardBodyHeight).placements.filter (·.visible)

def overviewVisiblePanes (self : DashboardModel F) : List OverviewPane :=
  self.overviewVisiblePlacements.map (·.pane)

def overviewPaneAt (self : DashboardModel F) (x y : Nat) : Option OverviewPane :=
  if y < mouseHeaderRows
      ∨ saturatingAddU16 mouseHeaderRows self.dashboardBodyHeight ≤ y then none
  else
    let localY := y - mouseHeaderRows
    (self.overviewVisiblePlacements.find? fun placement =>
      let rect := placement.rect
      decide (rect.col ≤ x) && decide (x < saturatingAddU16 rect.col rect.width)
        && decide (rect.row ≤ localY)
        && decide (localY < saturatingAddU16 rect.row rect.height)).map (·.pane)

def overviewSetFocus (self : DashboardModel F) (pane : OverviewPane) : DashboardModel F :=
  { self with overviewFocusPane := pane }

def overviewSetHover (self : DashboardModel F) (pane : Option OverviewPane)
    : DashboardModel F :=
  { self with overviewHoverPane := pane }

def overviewFocusTargetScreen (self : DashboardModel F) : Screen :=
  match self.overviewFocusPane with
  | .actionLane | .decisionPulse => .explainability
  | .candidateHotlist => .candidates
  | .ballastQuick => .ballast
  | .extendedCounters => .diagnostics
  | .pressureSummary | .forecastHorizon | .ewmaTrend | .specialLocations => .timeline

def overviewEnsureFocusVisible (self : DashboardModel F) : DashboardModel F :=
  match self.overviewVisiblePanes with
  | [] => self
  | first :: rest =>
      if self.overviewFocusPane ∈ first :: rest then self else self.overviewSetFocus first

def overviewFocusStep (self : DashboardModel F) (forward : Bool) : DashboardModel F :=
  let visible := self.overviewVisiblePanes
  let next :=
    match visible.idxOf? self.overviewFocusPane, forward with
    | some index, true => (index + 1) % visible.length
    | some 0, false | none, false => visible.length - 1
    | some (index + 1), false => index
    | none, true => 0
  match visible[next]? with
  | some pane => self.overviewSetFocus pane
  | none => self

end DashboardModel

end StorageBallast.Tui
