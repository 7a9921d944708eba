import StorageBallast.Tui.Dashboard

/-! The update function of the dashboard. A message changes the state and asks for effects. A key
that neither an overlay nor a global binding takes goes to the screen; a mouse event goes to the
overlay, the tabs or the screen.
-/

namespace StorageBallast.Tui.DashboardModel

open scoped Float64

variable {F : Type} [Float64 F]

/-- What is closed first is an open detail pane; then the screen is left, then the dashboard. -/
def backOrQuit (self : DashboardModel F) : DashboardModel F × DashboardCmd :=
  if self.explainabilityDetail then ({ self with explainabilityDetail := false }, .none)
  else if self.candidatesDetail then ({ self with candidatesDetail := false }, .none)
  else if self.ballastDetail then ({ self with ballastDetail := false }, .none)
  else
    match self.navigateBack with
    | (back, true) => (back, .none)
    | (back, false) => ({ back with quit := true }, .quit)

def toggleOverlayAction (self : DashboardModel F) (overlay : Overlay) : DashboardModel F :=
  if self.activeOverlay = some overlay then { self.paletteReset with activeOverlay := none }
  else { self.paletteReset with activeOverlay := some overlay }

def paletteCursorUp (self : DashboardModel F) : DashboardModel F :=
  { self with paletteSelected := cursorUp self.paletteSelected }

def paletteCursorDown (self : DashboardModel F) : DashboardModel F :=
  { self with paletteSelected := cursorDown self.paletteSelected self.paletteResults.length }

def incidentQuickRelease (self : DashboardModel F) : DashboardModel F :=
  let shown := { self.navigateTo .ballast with
    activeOverlay := some (.confirmation .ballastRelease) }
  (shown.pushNotification .warning
    "Quick-release: confirm ballast release on selected volume").1

def incidentPlaybookNavigate (self : DashboardModel F) : DashboardModel F :=
  match self.playbookEntries[self.incidentPlaybookSelected]? with
  | some entry => { self with activeOverlay := none }.navigateTo entry.target
  | none => self

def applyPlainAction (self : DashboardModel F) (action : InputAction)
    : DashboardModel F × DashboardCmd :=
  match action with
  | .quit => ({ self with quit := true }, .quit)
  | .backOrQuit => self.backOrQuit
  | .closeOverlay => ({ self.paletteReset with activeOverlay := none }, .none)
  | .navigate screen => (self.navigateTo screen, .none)
  | .navigatePrev => (self.navigateTo self.screen.prev, .none)
  | .navigateNext => (self.navigateTo self.screen.next, .none)
  | .openOverlay overlay => ({ self.paletteReset with activeOverlay := some overlay }, .none)
  | .toggleOverlay overlay => (self.toggleOverlayAction overlay, .none)
  | .forceRefresh => (self, .fetchData)
  | .jumpBallast => (self.navigateTo .ballast, .none)
  | .setStartScreen startScreen =>
      (self, .executePreferenceAction (.setStartScreen startScreen))
  | .setDensity density => (self, .executePreferenceAction (.setDensity density))
  | .setHintVerbosity hintVerbosity =>
      (self, .executePreferenceAction (.setHintVerbosity hintVerbosity))
  | .resetPreferencesToPersisted => (self, .executePreferenceAction .resetToPersisted)
  | .revertPreferencesToDefaults => (self, .executePreferenceAction .revertToDefaults)
  | .overviewFocusNext =>
      (if self.screen = .overview then self.overviewFocusStep true else self, .none)
  | .overviewFocusPrev =>
      (if self.screen = .overview then self.overviewFocusStep false else self, .none)
  | .overviewActivateFocused =>
      if self.screen = .overview then
        let focused := self.overviewEnsureFocusVisible
        (focused.navigateTo focused.overviewFocusTargetScreen, .none)
      else (self, .none)
  | .paletteType c =>
      ({ self with paletteQuery := self.paletteQuery.push c }.paletteClampCursor, .none)
  | .paletteBackspace =>
      ({ self with paletteQuery := String.ofList self.paletteQuery.toList.dropLast
          }.paletteClampCursor, .none)
  | .paletteExecute => (self, .none)
  | .paletteCursorUp => (self.paletteCursorUp, .none)
  | .paletteCursorDown => (self.paletteCursorDown, .none)
  | .incidentShowPlaybook =>
      ({ self with incidentPlaybookSelected := 0, activeOverlay := some .incidentPlaybook },
        .none)
  | .incidentQuickRelease => (self.incidentQuickRelease, .none)
  | .incidentPlaybookNavigate => (self.incidentPlaybookNavigate, .none)
  | .incidentPlaybookUp =>
      ({ self with incidentPlaybookSelected := cursorUp self.incidentPlaybookSelected }, .none)
  | .incidentPlaybookDown =>
      ({ self with incidentPlaybookSelected :=
          cursorDown self.incidentPlaybookSelected self.playbookEntries.length }, .none)

/-- Executing an action of the palette closes it and applies the action, which is never the
execution of another one.
-/
def applyInputAction (self : DashboardModel F) (action : InputAction)
    : DashboardModel F × DashboardCmd :=
  match action with
  | .paletteExecute =>
      match self.paletteResults[self.paletteSelected]? with
      | some entry =>
          { self with activeOverlay := none }.paletteReset.applyPlainAction entry.action
      | none => (self, .none)
  | action => self.applyPlainAction action

def handleTimelineKey (self : DashboardModel F) (key : KeyEvent) : DashboardModel F :=
  match key.code with
  | .up | .char 'k' => self.timelineCursorUp
  | .down | .char 'j' => self.timelineCursorDown
  | .char 'f' => self.timelineCycleFilter
  | .char 'F' => self.timelineToggleFollow
  | _ => self

def handleExplainabilityKey (self : DashboardModel F) (key : KeyEvent) : DashboardModel F :=
  match key.code with
  | .up | .char 'k' => self.explainabilityCursorUp
  | .down | .char 'j' => self.explainabilityCursorDown
  | .enter | .char ' ' => self.explainabilityToggleDetail
  | .char 'd' => { self with explainabilityDetail := false }
  | _ => self

def handleCandidatesKey (self : DashboardModel F) (key : KeyEvent) : DashboardModel F :=
  match key.code with
  | .up | .char 'k' => self.candidatesCursorUp
  | .down | .char 'j' => self.candidatesCursorDown
  | .enter | .char ' ' => self.candidatesToggleDetail
  | .char 'd' => { self with candidatesDetail := false }
  | .char 's' => self.candidatesCycleSort
  | _ => self

def handleBallastKey (self : DashboardModel F) (key : KeyEvent) : DashboardModel F :=
  match key.code with
  | .up | .char 'k' => self.ballastCursorUp
  | .down | .char 'j' => self.ballastCursorDown
  | .enter | .char ' ' => self.ballastToggleDetail
  | .char 'd' => { self with ballastDetail := false }
  | _ => self

def handleDiagnosticsKey (self : DashboardModel F) (key : KeyEvent) : DashboardModel F :=
  match key.code with
  | .char 'V' => { self with diagnosticsVerbose := !self.diagnosticsVerbose }
  | _ => self

def handleScreenKey (self : DashboardModel F) (key : KeyEvent) : DashboardModel F :=
  match self.screen with
  | .timeline => self.handleTimelineKey key
  | .explainability => self.handleExplainabilityKey key
  | .candidates => self.handleCandidatesKey key
  | .diagnostics => self.handleDiagnosticsKey key
  | .ballast => self.handleBallastKey key
  | .overview | .logSearch => self

def handleOverlayMouse (self : DashboardModel F) (event : MouseEvent) : DashboardModel F :=
  if event.kind = .leftDown then { self.paletteReset with activeOverlay := none } else self

def handleOverviewMouse (self : DashboardModel F) (event : MouseEvent) : DashboardModel F :=
  let hovered := self.overviewPaneAt event.x event.y
  let hovering := self.overviewSetHover hovered
  match event.kind with
  | .leftDown =>
      match hovered with
      | some pane =>
          let focused := hovering.overviewSetFocus pane
          focused.navigateTo focused.overviewFocusTargetScreen
      | none => hovering
  | .scrollUp =>
      if hovered = some .candidateHotlist then hovering.candidatesCursorUp else hovering
  | .scrollDown =>
      if hovered = some .candidateHotlist then hovering.candidatesCursorDown else hovering
  | .other => hovering

def handleTimelineMouse (self : DashboardModel F) (event : MouseEvent) : DashboardModel F :=
  match event.kind with
  | .leftDown =>
      match self.timelineRowHit event.x event.y with
      | some index => { self with timelineSelected := index, timelineFollow := false }
      | none => self
  | .scrollUp => if self.pointInBody event.x event.y then self.timelineCursorUp else self
  | .scrollDown => if self.pointInBody event.x event.y then self.timelineCursorDown else self
  | .other => self

def handleExplainabilityMouse (self : DashboardModel F) (event : MouseEvent)
    : DashboardModel F :=
  match event.kind with
  | .leftDown =>
      match self.explainabilityRowHit event.x event.y with
      | some index =>
          { self with explainabilitySelected := index, explainabilityDetail := true }
      | none => self
  | .scrollUp => if self.pointInBody event.x event.y then self.explainabilityCursorUp else self
  | .scrollDown =>
      if self.pointInBody event.x event.y then self.explainabilityCursorDown else self
  | .other => self

def handleCandidatesMouse (self : DashboardModel F) (event : MouseEvent) : DashboardModel F :=
  match event.kind with
  | .leftDown =>
      match self.candidatesRowHit event.x event.y with
      | some index => { self with candidatesSelected := index, candidatesDetail := true }
      | none => self
  | .scrollUp => if self.pointInBody event.x event.y then self.candidatesCursorUp else self
  | .scrollDown => if self.pointInBody event.x event.y then self.candidatesCursorDown else self
  | .other => self

def handleBallastMouse (self : DashboardModel F) (event : MouseEvent) : DashboardModel F :=
  match event.kind with
  | .leftDown =>
      match self.ballastRowHit event.x event.y with
      | some index => { self with ballastSelected := index, ballastDetail := true }
      | none => self
  | .scrollUp => if self.pointInBody event.x event.y then self.ballastCursorUp else self
  | .scrollDown => if self.pointInBody event.x event.y then self.ballastCursorDown else self
  | .other => self

/-- A click selects among all events, in the cursor of the timeline. -/
def handleLogSearchMouse (self : DashboardModel F) (event : MouseEvent) : DashboardModel F :=
  match event.kind with
  | .leftDown =>
      match self.logSearchRowHit event.x event.y with
      | some index => { self with timelineSelected := index, timelineFollow := false }
      | none => self
  | .scrollUp => if self.pointInBody event.x event.y then self.timelineCursorUp else self
  | .scrollDown => if self.pointInBody event.x event.y then self.timelineCursorDown else self
  | .other => self

def clickedTab (self : DashboardModel F) (event : MouseEvent) : Option Screen :=
  if event.kind = .leftDown then self.headerTabHitScreen event.x event.y else none

def handleScreenMouse (self : DashboardModel F) (event : MouseEvent) : DashboardModel F :=
  match self.screen with
  | .overview => self.handleOverviewMouse event
  | .timeline => self.handleTimelineMouse event
  | .explainability => self.handleExplainabilityMouse event
  | .candidates => self.handleCandidatesMouse event
  | .ballast => self.handleBallastMouse event
  | .logSearch => self.handleLogSearchMouse event
  | .diagnostics => self

def handleMouseEvent (self : DashboardModel F) (event : MouseEvent) : DashboardModel F :=
  if self.activeOverlay.isSome then self.handleOverlayMouse event
  else
    match self.clickedTab event with
    | some screen => self.navigateTo screen
    | none => self.handleScreenMouse event

/-- Without an inventory of the ballast the daemon's counts stand for one volume. -/
def synthesizeVolumes (self : DashboardModel F) : DashboardModel F :=
  match self.daemonState with
  | some state =>
      if 0 < state.ballast.total ∧ self.ballastVolumes.isEmpty then
        { self with
          ballastVolumes := [{
            mountPoint := (state.pressure.mounts.head?.map (·.path)).getD "/"
            ballastDir := ""
            fsType := ""
            strategy := ""
            filesAvailable := state.ballast.available
            filesTotal := state.ballast.total
            releasableBytes := 0
            skipped := false
            skipReason := none
          }]
          ballastSource := .none }
      else self
  | none => self

def dataUpdate (self : DashboardModel F) (state : Option DaemonState) : DashboardModel F :=
  { self with degraded := state.isNone, daemonState := state }.synthesizeVolumes

/-- While the timeline is followed its cursor is at the latest event. -/
def telemetryTimeline (self : DashboardModel F)
    (result : TelemetryResult (List (TimelineEvent F))) : DashboardModel F :=
  let fresh := { self with
    timelineSource := result.source
    timelinePartial := result.isPartial
    timelineDiagnostics := result.diagnostics
    timelineEvents := result.data }
  let filteredLen := fresh.timelineFilteredEvents.length
  { fresh with timelineSelected :=
      if fresh.timelineFollow ∧ 0 < filteredLen then filteredLen - 1
      else clampCursor fresh.timelineSelected filteredLen }

def telemetryDecisions (self : DashboardModel F)
    (result : TelemetryResult (List (DecisionEvidence F))) : DashboardModel F :=
  { self with
    explainabilitySource := result.source
    explainabilityPartial := result.isPartial
    explainabilityDiagnostics := result.diagnostics
    explainabilityDecisions := result.data
    explainabilitySelected := clampCursor self.explainabilitySelected result.data.length
    explainabilityDetail := !result.data.isEmpty && self.explainabilityDetail }

def telemetryCandidates (self : DashboardModel F)
    (result : TelemetryResult (List (DecisionEvidence F))) : DashboardModel F :=
  let sorted := { self with
    candidatesSource := result.source
    candidatesPartial := result.isPartial
    candidatesDiagnostics := result.diagnostics
    candidatesList := result.data }.candidatesApplySort
  { sorted with
    candidatesSelected := clampCursor sorted.candidatesSelected sorted.candidatesList.length
    candidatesDetail := !sorted.candidatesList.isEmpty && sorted.candidatesDetail }

def telemetryBallast (self : DashboardModel F)
    (result : TelemetryResult (List BallastVolume)) : DashboardModel F :=
  { self with
    ballastSource := result.source
    ballastPartial := result.isPartial
    ballastDiagnostics := result.diagnostics
    ballastVolumes := result.data
    ballastSelected := clampCursor self.ballastSelected result.data.length
    ballastDetail := !result.data.isEmpty && self.ballastDetail }

def fetchesTelemetry : Screen → Bool
  | .overview | .timeline | .explainability | .candidates | .ballast => true
  | .logSearch | .diagnostics => false

def handleKey (self : DashboardModel F) (key : KeyEvent) : DashboardModel F × DashboardCmd :=
  let resolution := resolveKeyEvent key ⟨self.screen, self.activeOverlay⟩
  match resolution.action with
  | some action => self.applyInputAction action
  | none => if resolution.consumed then (self, .none) else (self.handleScreenKey key, .none)

def update (self : DashboardModel F) (msg : DashboardMsg F) : DashboardModel F × DashboardCmd :=
  match msg with
  | .tick =>
      ({ self with tick := (self.tick + 1) % 2 ^ 64 },
        .batch ([.fetchData, .scheduleTick self.refresh]
          ++ if fetchesTelemetry self.screen then [.fetchTelemetry] else []))
  | .key key => self.handleKey key
  | .mouse event => (self.handleMouseEvent event, .none)
  | .resize cols rows => ({ self with terminalSize := (max cols 1, max rows 1) }, .none)
  | .dataUpdate state => (self.dataUpdate state, .none)
  | .navigate screen => (self.navigateTo screen, .none)
  | .navigateBack => (self.navigateBack.1, .none)
  | .toggleOverlay overlay =>
      ({ self with activeOverlay :=
          if self.activeOverlay = some overlay then none else some overlay }, .none)
  | .closeOverlay => ({ self with activeOverlay := none }, .none)
  | .forceRefresh => (self, .fetchData)
  | .notificationExpired id =>
      ({ self with notifications := self.notifications.filter fun shown => shown.id ≠ id }, .none)
  | .error err =>
      let (pushed, id) := self.pushNotification .error err.message
      (pushed, .scheduleNotificationExpiry id (Duration.fromSecs 10))
  | .telemetryTimeline result => (self.telemetryTimeline result, .none)
  | .telemetryDecisions result => (self.telemetryDecisions result, .none)
  | .telemetryCandidates result => (self.telemetryCandidates result, .none)
  | .frameMetrics _ => (self, .none)
  | .telemetryBallast result => (self.telemetryBallast result, .none)

def step (self : DashboardModel F) (msg : DashboardMsg F) : DashboardModel F :=
  (self.update msg).1

end StorageBallast.Tui.DashboardModel
