import StorageBallast.Foundations.Sorting
import StorageBallast.Foundations.Texts

/-! Keys of the dashboard. A key goes to the open overlay or else to the global bindings, and
only what neither takes is left to the screen. The command palette finds actions by their
names, best match first.
-/

namespace StorageBallast.Tui

open Texts (startsWith contains trim toAsciiLowercase)

inductive Screen where
  | overview
  | timeline
  | explainability
  | candidates
  | ballast
  | logSearch
  | diagnostics
deriving DecidableEq, Repr

namespace Screen

def number : Screen → Nat
  | overview => 1
  | timeline => 2
  | explainability => 3
  | candidates => 4
  | ballast => 5
  | logSearch => 6
  | diagnostics => 7

def fromNumber : Nat → Option Screen
  | 1 => some overview
  | 2 => some timeline
  | 3 => some explainability
  | 4 => some candidates
  | 5 => some ballast
  | 6 => some logSearch
  | 7 => some diagnostics
  | _ => none

def next (screen : Screen) : Screen := (fromNumber (screen.number % 7 + 1)).getD overview

def prev (screen : Screen) : Screen :=
  (fromNumber (if screen.number = 1 then 7 else screen.number - 1)).getD diagnostics

end Screen

inductive ConfirmAction where
  | ballastRelease
  | ballastReleaseAll
deriving DecidableEq, Repr

/-- What lies over the screen. One at a time. -/
inductive Overlay where
  | commandPalette
  | help
  | voi
  | confirmation (action : ConfirmAction)
  | incidentPlaybook
deriving DecidableEq, Repr

inductive StartScreen where
  | overview
  | timeline
  | explainability
  | candidates
  | ballast
  | logSearch
  | diagnostics
  | remember
deriving DecidableEq, Repr

inductive DensityMode where
  | compact
  | comfortable
deriving DecidableEq, Repr

inductive HintVerbosity where
  | full
  | minimal
  | off
deriving DecidableEq, Repr

/-- The keys that something is bound to. Nothing is bound to the other ones. -/
inductive KeyCode where
  | char (c : Char)
  | enter
  | escape
  | backspace
  | tab
  | backTab
  | up
  | down
  | other
deriving DecidableEq, Repr

structure KeyEvent where
  code : KeyCode
  ctrl : Bool
deriving DecidableEq, Repr

structure InputContext where
  screen : Screen
  activeOverlay : Option Overlay
deriving DecidableEq, Repr

inductive InputAction where
  | quit
  | backOrQuit
  | closeOverlay
  | navigate (screen : Screen)
  | navigatePrev
  | navigateNext
  | openOverlay (overlay : Overlay)
  | toggleOverlay (overlay : Overlay)
  | forceRefresh
  | jumpBallast
  | setStartScreen (startScreen : StartScreen)
  | setDensity (density : DensityMode)
  | setHintVerbosity (hintVerbosity : HintVerbosity)
  | resetPreferencesToPersisted
  | revertPreferencesToDefaults
  | overviewFocusNext
  | overviewFocusPrev
  | overviewActivateFocused
  | paletteType (c : Char)
  | paletteBackspace
  | paletteExecute
  | paletteCursorUp
  | paletteCursorDown
  | incidentShowPlaybook
  | incidentQuickRelease
  | incidentPlaybookNavigate
  | incidentPlaybookUp
  | incidentPlaybookDown
deriving DecidableEq, Repr

/-- What becomes of a key: an action, nothing, or it is left to the screen. -/
structure InputResolution where
  action : Option InputAction
  consumed : Bool
deriving DecidableEq, Repr

namespace InputResolution

def ofAction (action : InputAction) : InputResolution := ⟨some action, true⟩

def consumedWithoutAction : InputResolution := ⟨none, true⟩

def passthrough : InputResolution := ⟨none, false⟩

end InputResolution

open InputResolution

def resolveOverlayKey (key : KeyEvent) (overlay : Overlay) : InputResolution :=
  let palette := overlay = .commandPalette
  let playbook := overlay = .incidentPlaybook
  if key.code = .char 'c' ∧ key.ctrl then ofAction .quit
  else if key.code = .escape then ofAction .closeOverlay
  else if key.code = .char '?' ∧ overlay = .help then ofAction (.toggleOverlay .help)
  else if key.code = .char 'v' ∧ overlay = .voi then ofAction (.toggleOverlay .voi)
  else if key.code = .char 'p' ∧ key.ctrl ∧ palette then ofAction (.toggleOverlay .commandPalette)
  else if key.code = .char '!' ∧ playbook then ofAction (.toggleOverlay .incidentPlaybook)
  else
    match key.code with
    | .enter =>
        if palette then ofAction .paletteExecute
        else if playbook then ofAction .incidentPlaybookNavigate
        else consumedWithoutAction
    | .backspace => if palette then ofAction .paletteBackspace else consumedWithoutAction
    | .up =>
        if palette then ofAction .paletteCursorUp
        else if playbook then ofAction .incidentPlaybookUp
        else consumedWithoutAction
    | .down =>
        if palette then ofAction .paletteCursorDown
        else if playbook then ofAction .incidentPlaybookDown
        else consumedWithoutAction
    | .char c =>
        if palette then ofAction (.paletteType c)
        else if c = 'k' ∧ playbook then ofAction .incidentPlaybookUp
        else if c = 'j' ∧ playbook then ofAction .incidentPlaybookDown
        else consumedWithoutAction
    | _ => consumedWithoutAction

def resolveGlobalChar (c : Char) (ctrl : Bool) (screen : Screen) : InputResolution :=
  if c = 'c' ∧ ctrl then ofAction .quit
  else if c = 'q' then ofAction .quit
  else if '1' ≤ c ∧ c ≤ '7' then
    ((Screen.fromNumber (c.toNat - '0'.toNat)).map fun target =>
      ofAction (.navigate target)).getD passthrough
  else if c = '[' then ofAction .navigatePrev
  else if c = ']' then ofAction .navigateNext
  else if c = '?' then ofAction (.openOverlay .help)
  else if c = 'v' then ofAction (.openOverlay .voi)
  else if c = 'p' ∧ ctrl then ofAction (.openOverlay .commandPalette)
  else if c = ':' then ofAction (.openOverlay .commandPalette)
  else if c = 'b' then ofAction .jumpBallast
  else if c = 'r' then ofAction .forceRefresh
  else if c = '!' then ofAction .incidentShowPlaybook
  else if c = 'x' then ofAction .incidentQuickRelease
  else if c = ' ' ∧ screen = .overview then ofAction .overviewActivateFocused
  else passthrough

def resolveGlobalKey (key : KeyEvent) (screen : Screen) : InputResolution :=
  match key.code with
  | .char c => resolveGlobalChar c key.ctrl screen
  | .escape => ofAction .backOrQuit
  | .tab => if screen = .overview then ofAction .overviewFocusNext else passthrough
  | .backTab => if screen = .overview then ofAction .overviewFocusPrev else passthrough
  | .enter => if screen = .overview then ofAction .overviewActivateFocused else passthrough
  | _ => passthrough

def resolveKeyEvent (key : KeyEvent) (context : InputContext) : InputResolution :=
  match context.activeOverlay with
  | some overlay => resolveOverlayKey key overlay
  | none => resolveGlobalKey key context.screen

structure PaletteAction where
  id : String
  title : String
  shortcut : String
  action : InputAction
deriving DecidableEq, Repr

def paletteActions : List PaletteAction := [
    ⟨"nav.overview", "Go to Overview", "1", .navigate .overview⟩,
    ⟨"nav.timeline", "Go to Timeline", "2", .navigate .timeline⟩,
    ⟨"nav.explainability", "Go to Explainability", "3", .navigate .explainability⟩,
    ⟨"nav.candidates", "Go to Candidates", "4", .navigate .candidates⟩,
    ⟨"nav.ballast", "Go to Ballast", "5", .navigate .ballast⟩,
    ⟨"nav.logs", "Go to Log Search", "6", .navigate .logSearch⟩,
    ⟨"nav.diagnostics", "Go to Diagnostics", "7", .navigate .diagnostics⟩,
    ⟨"nav.prev", "Previous screen", "[", .navigatePrev⟩,
    ⟨"nav.next", "Next screen", "]", .navigateNext⟩,
    ⟨"overlay.help", "Open help overlay", "?", .openOverlay .help⟩,
    ⟨"overlay.voi", "Open VOI overlay", "v", .openOverlay .voi⟩,
    ⟨"overlay.palette", "Open command palette", "Ctrl-P / :", .openOverlay .commandPalette⟩,
    ⟨"action.refresh", "Force refresh", "r", .forceRefresh⟩,
    ⟨"action.jump_ballast", "Jump to ballast quick-actions", "b", .jumpBallast⟩,
    ⟨"action.overview.focus-next", "Overview pane focus next", "Tab", .overviewFocusNext⟩,
    ⟨"action.overview.focus-prev", "Overview pane focus previous", "Shift-Tab",
        .overviewFocusPrev⟩,
    ⟨"action.overview.open-focused", "Open focused overview pane", "Enter",
        .overviewActivateFocused⟩,
    ⟨"action.quit", "Quit dashboard", "q", .quit⟩,
    ⟨"pref.start.overview", "Set default start screen: Overview", "prefs",
        .setStartScreen .overview⟩,
    ⟨"pref.start.timeline", "Set default start screen: Timeline", "prefs",
        .setStartScreen .timeline⟩,
    ⟨"pref.start.explainability", "Set default start screen: Explainability", "prefs",
        .setStartScreen .explainability⟩,
    ⟨"pref.start.candidates", "Set default start screen: Candidates", "prefs",
        .setStartScreen .candidates⟩,
    ⟨"pref.start.ballast", "Set default start screen: Ballast", "prefs",
        .setStartScreen .ballast⟩,
    ⟨"pref.start.logs", "Set default start screen: Log Search", "prefs",
        .setStartScreen .logSearch⟩,
    ⟨"pref.start.diagnostics", "Set default start screen: Diagnostics", "prefs",
        .setStartScreen .diagnostics⟩,
    ⟨"pref.start.remember", "Set default start screen: Remember Last", "prefs",
        .setStartScreen .remember⟩,
    ⟨"pref.density.compact", "Set density: Compact", "prefs", .setDensity .compact⟩,
    ⟨"pref.density.comfortable", "Set density: Comfortable", "prefs", .setDensity .comfortable⟩,
    ⟨"pref.hints.full", "Set hints: Full", "prefs", .setHintVerbosity .full⟩,
    ⟨"pref.hints.minimal", "Set hints: Minimal", "prefs", .setHintVerbosity .minimal⟩,
    ⟨"pref.hints.off", "Set hints: Off", "prefs", .setHintVerbosity .off⟩,
    ⟨"pref.reset.persisted", "Reset session to persisted preferences", "prefs",
        .resetPreferencesToPersisted⟩,
    ⟨"pref.reset.defaults", "Revert preferences to defaults", "prefs",
        .revertPreferencesToDefaults⟩,
    ⟨"incident.playbook", "Show incident triage playbook", "!", .incidentShowPlaybook⟩,
    ⟨"incident.quick-release", "Quick-release ballast (incident)", "x", .incidentQuickRelease⟩,
    ⟨"incident.triage", "Start incident triage (overview)", "!", .incidentShowPlaybook⟩]

def normalize (raw : String) : String := toAsciiLowercase (trim raw)

def isFuzzySubsequence (haystack needle : String) : Bool :=
  needle.toList.isSublist haystack.toList

def matchScore (action : PaletteAction) (query : String) : Option Nat :=
  let id := normalize action.id
  let title := normalize action.title
  let shortcut := normalize action.shortcut
  if id = query then some 70
  else if title = query then some 60
  else if shortcut = query then some 50
  else if startsWith id query then some 40
  else if startsWith title query then some 30
  else if contains id query then some 20
  else if contains title query then some 10
  else if isFuzzySubsequence id query || isFuzzySubsequence title query then some 5
  else none

/-- The actions that match, best ones first, and by their names where they match alike. -/
def searchPaletteActions (query : String) (limit : Nat) : List PaletteAction :=
  if limit = 0 then []
  else
    let query := normalize query
    if query.isEmpty then paletteActions.take limit
    else
      let matched := paletteActions.filterMap fun action =>
        (matchScore action query).map fun score => (score, action)
      let ranked := Sorting.sortBy (fun (leftScore, left) (rightScore, right) =>
        (compare rightScore leftScore).then (compare left.id right.id)) matched
      (ranked.map (·.2)).take limit

inductive IncidentSeverity where
  | normal
  | elevated
  | high
  | critical
deriving DecidableEq, Repr

namespace IncidentSeverity

def rank : IncidentSeverity → Nat
  | normal => 0
  | elevated => 1
  | high => 2
  | critical => 3

def fromPressureLevel (level : String) : IncidentSeverity :=
  let level := toAsciiLowercase level
  if level ∈ ["critical", "red", "emergency"] then .critical
  else if level ∈ ["high", "orange"] then .high
  else if level ∈ ["elevated", "yellow", "warning"] then .elevated
  else .normal

end IncidentSeverity

structure PlaybookEntry where
  target : Screen
  minSeverity : IncidentSeverity
deriving DecidableEq, Repr

/-- The steps in the order in which they are urgent. -/
def incidentPlaybook : List PlaybookEntry := [
  ⟨.ballast, .high⟩,
  ⟨.overview, .elevated⟩,
  ⟨.timeline, .elevated⟩,
  ⟨.explainability, .high⟩,
  ⟨.candidates, .high⟩,
  ⟨.diagnostics, .elevated⟩,
  ⟨.logSearch, .elevated⟩]

def playbookForSeverity (severity : IncidentSeverity) : List PlaybookEntry :=
  incidentPlaybook.filter fun entry => decide (entry.minSeverity.rank ≤ severity.rank)

end StorageBallast.Tui
