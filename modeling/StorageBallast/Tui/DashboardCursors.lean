import StorageBallast.Foundations.Runs
import StorageBallast.Tui.DashboardUpdate

/-! Whether the cursors of the dashboard stay within their lists. Every message keeps them there
but for two kinds: a key that opens the details of an empty list, and a click on the log screen
that selects an event beyond those that the filter of the timeline lets through.
-/

namespace StorageBallast.Tui

open scoped Float64

def InRange (selected length : Nat) : Prop := selected = 0 ∨ selected < length

theorem inRange_last (length : Nat) : InRange (length - 1) length := by
  unfold InRange
  omega

namespace DashboardModel

-- What is sought in the palette is never computed below.
attribute [local irreducible] searchPaletteActions

variable {F : Type} {self : DashboardModel F}

theorem clampCursor_inRange (selected length : Nat)
    : InRange (clampCursor selected length) length := by
  unfold clampCursor InRange
  split_ifs <;> omega

theorem cursorUp_inRange {selected length : Nat} (inRange : InRange selected length)
    : InRange (cursorUp selected) length := by
  unfold cursorUp InRange at *
  split_ifs <;> omega

theorem cursorDown_inRange {selected length : Nat} (inRange : InRange selected length)
    : InRange (cursorDown selected length) length := by
  unfold cursorDown InRange at *
  split_ifs <;> omega

/-- A list with a cursor, and with details that may only be open if it has items. -/
structure ListSound (selected length : Nat) (detail : Bool) : Prop where
  inRange : InRange selected length
  filled : detail = true → 0 < length

/-- At most three notifications, with increasing ids below the next one. -/
structure NotificationsSound (shown : List Notification) (nextId : Nat) : Prop where
  few : shown.length ≤ 3
  increasing : (shown.map (·.id)).Pairwise (· < ·)
  below : ∀ notification ∈ shown, notification.id < nextId

structure Sound (model : DashboardModel F) : Prop where
  timeline : InRange model.timelineSelected model.timelineFilteredEvents.length
  explainability : ListSound model.explainabilitySelected model.explainabilityDecisions.length
    model.explainabilityDetail
  candidates : ListSound model.candidatesSelected model.candidatesList.length
    model.candidatesDetail
  ballast : ListSound model.ballastSelected model.ballastVolumes.length model.ballastDetail
  palette : InRange model.paletteSelected model.paletteResults.length
  notifications : NotificationsSound model.notifications model.nextNotificationId

theorem sound_new (refresh : Duration) (terminalSize : Nat × Nat)
    : (new refresh terminalSize : DashboardModel F).Sound where
  timeline := Or.inl rfl
  explainability := ⟨Or.inl rfl, nofun⟩
  candidates := ⟨Or.inl rfl, nofun⟩
  ballast := ⟨Or.inl rfl, nofun⟩
  palette := Or.inl rfl
  notifications := ⟨Nat.zero_le 3, List.Pairwise.nil, nofun⟩

/-! Navigation, notifications and the palette -/

theorem Sound.navigateTo (sound : self.Sound) (target : Screen)
    : (self.navigateTo target).Sound := by
  unfold DashboardModel.navigateTo
  split
  · exact sound
  · exact { sound with }

theorem Sound.navigateBack (sound : self.Sound) : self.navigateBack.1.Sound := by
  unfold DashboardModel.navigateBack
  split
  · exact { sound with }
  · exact sound

theorem Sound.paletteReset (sound : self.Sound) : self.paletteReset.Sound :=
  { sound with palette := Or.inl rfl }

theorem Sound.paletteClampCursor {query : String} (sound : self.Sound)
    : ({ self with paletteQuery := query } : DashboardModel F).paletteClampCursor.Sound :=
  { sound with palette := clampCursor_inRange _ _ }

theorem Sound.overviewSetFocus (sound : self.Sound) (pane : OverviewPane)
    : (self.overviewSetFocus pane).Sound := { sound with }

theorem Sound.overviewSetHover (sound : self.Sound) (pane : Option OverviewPane)
    : (self.overviewSetHover pane).Sound := { sound with }

theorem Sound.overviewFocusStep (sound : self.Sound) (forward : Bool)
    : (self.overviewFocusStep forward).Sound := by
  unfold DashboardModel.overviewFocusStep
  dsimp only
  split
  · exact sound.overviewSetFocus _
  · exact sound

theorem Sound.overviewEnsureFocusVisible (sound : self.Sound)
    : self.overviewEnsureFocusVisible.Sound := by
  unfold DashboardModel.overviewEnsureFocusVisible
  split
  · exact sound
  · split
    · exact sound
    · exact sound.overviewSetFocus _

/-- A notification keeps the ids in order exactly if their counter does not run over. -/
theorem pushed_notificationsSound_iff {shown : List Notification} {nextId : Nat}
    (sound : NotificationsSound shown nextId) (level : NotificationLevel) (message : String)
    : let pushed := shown ++ [(⟨nextId, level, message⟩ : Notification)]
      NotificationsSound (pushed.drop (pushed.length - 3)) ((nextId + 1) % 2 ^ 64)
        ↔ nextId + 1 < 2 ^ 64 := by
  intro pushed
  have pushed_eq : pushed = shown ++ [⟨nextId, level, message⟩] := rfl
  have last : (⟨nextId, level, message⟩ : Notification) ∈ pushed.drop (pushed.length - 3) := by
    have kept : pushed.length - 3 ≤ shown.length := by
      rw [pushed_eq, List.length_append, List.length_singleton]
      omega
    rw [pushed_eq, List.drop_append_of_le_length kept]
    exact List.mem_append_right _ (List.mem_singleton_self _)
  constructor
  · intro kept
    have below := kept.below _ last
    dsimp only at below
    omega
  · intro room
    rw [Nat.mod_eq_of_lt room]
    have increasing : (pushed.map (·.id)).Pairwise (· < ·) := by
      rw [pushed_eq, List.map_append, List.pairwise_append]
      refine ⟨sound.increasing, List.pairwise_singleton _ _, ?_⟩
      intro earlier member later new
      obtain ⟨notification, listed, rfl⟩ := List.mem_map.mp member
      rw [List.map_singleton, List.mem_singleton] at new
      rw [new]
      exact sound.below notification listed
    constructor
    · rw [List.length_drop]
      omega
    · rw [List.map_drop]
      exact increasing.drop
    · intro notification member
      rcases List.mem_append.mp (List.mem_of_mem_drop member) with old | new
      · exact (sound.below notification old).trans (Nat.lt_succ_self nextId)
      · rw [List.mem_singleton.mp new]
        exact Nat.lt_succ_self nextId

theorem NotificationsSound.sublist {shown kept : List Notification} {nextId : Nat}
    (sound : NotificationsSound shown nextId) (part : kept.Sublist shown)
    : NotificationsSound kept nextId where
  few := part.length_le.trans sound.few
  increasing := sound.increasing.sublist (part.map _)
  below notification member := sound.below notification (part.subset member)

theorem pushNotification_sound_iff (sound : self.Sound) (level : NotificationLevel)
    (message : String)
    : (self.pushNotification level message).1.Sound ↔ self.nextNotificationId + 1 < 2 ^ 64 := by
  have exact_ := pushed_notificationsSound_iff sound.notifications level message
  exact ⟨fun pushed => exact_.mp pushed.notifications,
    fun room => { sound with notifications := exact_.mpr room }⟩

/-! Actions -/

theorem incidentQuickRelease_sound_iff (sound : self.Sound)
    : self.incidentQuickRelease.Sound ↔ self.nextNotificationId + 1 < 2 ^ 64 := by
  have shown : ({ self.navigateTo .ballast with
      activeOverlay := some (.confirmation .ballastRelease) } : DashboardModel F).Sound :=
    { sound.navigateTo .ballast with }
  have same : (self.navigateTo .ballast).nextNotificationId = self.nextNotificationId := by
    unfold DashboardModel.navigateTo
    split <;> rfl
  rw [← same]
  exact pushNotification_sound_iff shown _ _

theorem Sound.backOrQuit (sound : self.Sound) : self.backOrQuit.1.Sound := by
  unfold DashboardModel.backOrQuit
  split
  · exact { sound with explainability := ⟨sound.explainability.inRange, nofun⟩ }
  · split
    · exact { sound with candidates := ⟨sound.candidates.inRange, nofun⟩ }
    · split
      · exact { sound with ballast := ⟨sound.ballast.inRange, nofun⟩ }
      · have back := sound.navigateBack
        split
        · rename_i left
          rw [left] at back
          exact back
        · rename_i left
          rw [left] at back
          exact { back with }

/-- Only the quick release notifies. By cases on the action. -/
theorem applyPlainAction_sound_iff (sound : self.Sound) (action : InputAction)
    : (self.applyPlainAction action).1.Sound
        ↔ (action = .incidentQuickRelease → self.nextNotificationId + 1 < 2 ^ 64) := by
  by_cases quick : action = .incidentQuickRelease
  · subst quick
    exact (incidentQuickRelease_sound_iff sound).trans (by simp)
  · refine iff_of_true ?_ fun isQuick => absurd isQuick quick
    cases action with
    | quit => exact { sound with }
    | backOrQuit => exact sound.backOrQuit
    | closeOverlay => exact { sound.paletteReset with }
    | navigate screen => exact sound.navigateTo screen
    | navigatePrev => exact sound.navigateTo _
    | navigateNext => exact sound.navigateTo _
    | openOverlay overlay => exact { sound.paletteReset with }
    | toggleOverlay overlay =>
        unfold applyPlainAction toggleOverlayAction
        dsimp only
        split
        · exact { sound.paletteReset with }
        · exact { sound.paletteReset with }
    | overviewFocusNext =>
        unfold applyPlainAction
        dsimp only
        split
        · exact sound.overviewFocusStep true
        · exact sound
    | overviewFocusPrev =>
        unfold applyPlainAction
        dsimp only
        split
        · exact sound.overviewFocusStep false
        · exact sound
    | overviewActivateFocused =>
        unfold applyPlainAction
        dsimp only
        split
        · exact sound.overviewEnsureFocusVisible.navigateTo _
        · exact sound
    | jumpBallast => exact sound.navigateTo .ballast
    | paletteType c => exact sound.paletteClampCursor
    | paletteBackspace => exact sound.paletteClampCursor
    | paletteCursorUp => exact { sound with palette := cursorUp_inRange sound.palette }
    | paletteCursorDown => exact { sound with palette := cursorDown_inRange sound.palette }
    | incidentQuickRelease => exact absurd rfl quick
    | incidentPlaybookNavigate =>
        unfold applyPlainAction incidentPlaybookNavigate
        dsimp only
        split
        · have closed : ({ self with activeOverlay := none } : DashboardModel F).Sound :=
            { sound with }
          exact closed.navigateTo _
        · exact sound
    | incidentShowPlaybook => exact { sound with }
    | incidentPlaybookUp => exact { sound with }
    | incidentPlaybookDown => exact { sound with }
    | forceRefresh => exact sound
    | setStartScreen startScreen => exact sound
    | setDensity density => exact sound
    | setHintVerbosity hintVerbosity => exact sound
    | resetPreferencesToPersisted => exact sound
    | revertPreferencesToDefaults => exact sound
    | paletteExecute => exact sound

def keyAction (self : DashboardModel F) (key : KeyEvent) : Option InputAction :=
  match (resolveKeyEvent key ⟨self.screen, self.activeOverlay⟩).action with
  | some .paletteExecute => (self.paletteResults[self.paletteSelected]?).map (·.action)
  | action => action

theorem applyInputAction_sound_iff (sound : self.Sound) {key : KeyEvent} {action : InputAction}
    (resolved : (resolveKeyEvent key ⟨self.screen, self.activeOverlay⟩).action = some action)
    : (self.applyInputAction action).1.Sound
        ↔ (self.keyAction key = some .incidentQuickRelease →
            self.nextNotificationId + 1 < 2 ^ 64) := by
  unfold keyAction
  rw [resolved]
  unfold applyInputAction
  split
  · split
    · rename_i entry selected
      have shut : ({ self with activeOverlay := none } : DashboardModel F).Sound := { sound with }
      have closed := shut.paletteReset
      rw [applyPlainAction_sound_iff closed, selected]
      simp [DashboardModel.paletteReset]
    · rename_i nothing
      rw [nothing]
      exact iff_of_true sound nofun
  · rename_i plain
    rw [applyPlainAction_sound_iff sound]
    cases action with
    | paletteExecute => exact absurd rfl plain
    | _ => simp

/-! Keys of the screens -/

/-- Toggling details keeps them closed for an empty list exactly if they are open already or the
list has items.
-/
theorem toggled_listSound_iff {selected length : Nat} {detail : Bool}
    (sound : ListSound selected length detail)
    : ListSound selected length (!detail) ↔ (detail = true ∨ 0 < length) := by
  constructor
  · intro toggled
    cases detail with
    | true => exact Or.inl rfl
    | false => exact Or.inr (toggled.filled rfl)
  · intro ready
    refine ⟨sound.inRange, fun opened => ?_⟩
    rcases ready with rfl | filled
    · cases opened
    · exact filled

theorem Sound.timelineCursorUp (sound : self.Sound) : self.timelineCursorUp.Sound := by
  unfold DashboardModel.timelineCursorUp
  split
  · refine { sound with timeline := ?_ }
    have inRange := sound.timeline
    unfold InRange at *
    dsimp only [timelineFilteredEvents] at *
    omega
  · exact sound

theorem Sound.timelineCursorDown (sound : self.Sound) : self.timelineCursorDown.Sound := by
  unfold DashboardModel.timelineCursorDown
  split
  · rename_i below
    refine { sound with timeline := Or.inr ?_ }
    dsimp only [timelineFilteredEvents] at *
    omega
  · exact sound

theorem Sound.timelineToggleFollow (sound : self.Sound) : self.timelineToggleFollow.Sound := by
  unfold DashboardModel.timelineToggleFollow
  split
  · exact { sound with }
  · exact { sound with timeline := inRange_last _ }

theorem Sound.handleTimelineKey (sound : self.Sound) (key : KeyEvent)
    : (self.handleTimelineKey key).Sound := by
  unfold DashboardModel.handleTimelineKey
  split
  · exact sound.timelineCursorUp
  · exact sound.timelineCursorUp
  · exact sound.timelineCursorDown
  · exact sound.timelineCursorDown
  · exact { sound with timeline := Or.inl rfl }
  · exact sound.timelineToggleFollow
  · exact sound

variable [Float64 F]

theorem Sound.candidatesApplySort (sound : self.Sound) : self.candidatesApplySort.Sound := by
  have same : self.candidatesApplySort.candidatesList.length = self.candidatesList.length :=
    (Sorting.sortBy_perm _ _).length_eq
  refine { sound with candidates := ?_ }
  rw [same]
  exact sound.candidates

def togglesDetail (key : KeyEvent) : Prop := key.code = .enter ∨ key.code = .char ' '

/-- The details of the screen are open already, or its list has items. -/
def DetailReady (self : DashboardModel F) : Prop :=
  match self.screen with
  | .explainability =>
      self.explainabilityDetail = true ∨ 0 < self.explainabilityDecisions.length
  | .candidates => self.candidatesDetail = true ∨ 0 < self.candidatesList.length
  | .ballast => self.ballastDetail = true ∨ 0 < self.ballastVolumes.length
  | .overview | .timeline | .logSearch | .diagnostics => True

omit [Float64 F] in
theorem handleExplainabilityKey_sound_iff (sound : self.Sound) (key : KeyEvent)
    : (self.handleExplainabilityKey key).Sound
        ↔ (togglesDetail key → self.explainabilityDetail = true
            ∨ 0 < self.explainabilityDecisions.length) := by
  by_cases toggles : togglesDetail key
  · have handled : self.handleExplainabilityKey key = self.explainabilityToggleDetail := by
      unfold handleExplainabilityKey
      rcases toggles with code | code <;> simp [code]
    have toggled := toggled_listSound_iff sound.explainability
    rw [handled]
    exact ⟨fun kept _ => toggled.mp kept.explainability,
      fun ready => { sound with explainability := toggled.mpr (ready toggles) }⟩
  · refine iff_of_true ?_ fun isToggle => absurd isToggle toggles
    have list := sound.explainability
    unfold handleExplainabilityKey
    split
    · exact { sound with explainability := ⟨cursorUp_inRange list.1, list.2⟩ }
    · exact { sound with explainability := ⟨cursorUp_inRange list.1, list.2⟩ }
    · exact { sound with explainability := ⟨cursorDown_inRange list.1, list.2⟩ }
    · exact { sound with explainability := ⟨cursorDown_inRange list.1, list.2⟩ }
    · rename_i code
      exact absurd (Or.inl code) toggles
    · rename_i code
      exact absurd (Or.inr code) toggles
    · exact { sound with explainability := ⟨sound.explainability.inRange, nofun⟩ }
    · exact sound

theorem handleCandidatesKey_sound_iff (sound : self.Sound) (key : KeyEvent)
    : (self.handleCandidatesKey key).Sound
        ↔ (togglesDetail key → self.candidatesDetail = true ∨ 0 < self.candidatesList.length) := by
  by_cases toggles : togglesDetail key
  · have handled : self.handleCandidatesKey key = self.candidatesToggleDetail := by
      unfold handleCandidatesKey
      rcases toggles with code | code <;> simp [code]
    have toggled := toggled_listSound_iff sound.candidates
    rw [handled]
    exact ⟨fun kept _ => toggled.mp kept.candidates,
      fun ready => { sound with candidates := toggled.mpr (ready toggles) }⟩
  · refine iff_of_true ?_ fun isToggle => absurd isToggle toggles
    unfold handleCandidatesKey
    split
    · exact { sound with candidates := ⟨cursorUp_inRange sound.candidates.1, sound.candidates.2⟩ }
    · exact { sound with candidates := ⟨cursorUp_inRange sound.candidates.1, sound.candidates.2⟩ }
    · exact { sound with candidates := ⟨cursorDown_inRange sound.candidates.1, sound.candidates.2⟩ }
    · exact { sound with candidates := ⟨cursorDown_inRange sound.candidates.1, sound.candidates.2⟩ }
    · rename_i code
      exact absurd (Or.inl code) toggles
    · rename_i code
      exact absurd (Or.inr code) toggles
    · exact { sound with candidates := ⟨sound.candidates.inRange, nofun⟩ }
    · have cycled : ({ self with candidatesSort := self.candidatesSort.cycle }
          : DashboardModel F).Sound := { sound with }
      exact cycled.candidatesApplySort
    · exact sound

omit [Float64 F] in
theorem handleBallastKey_sound_iff (sound : self.Sound) (key : KeyEvent)
    : (self.handleBallastKey key).Sound
        ↔ (togglesDetail key → self.ballastDetail = true ∨ 0 < self.ballastVolumes.length) := by
  by_cases toggles : togglesDetail key
  · have handled : self.handleBallastKey key = self.ballastToggleDetail := by
      unfold handleBallastKey
      rcases toggles with code | code <;> simp [code]
    have toggled := toggled_listSound_iff sound.ballast
    rw [handled]
    exact ⟨fun kept _ => toggled.mp kept.ballast,
      fun ready => { sound with ballast := toggled.mpr (ready toggles) }⟩
  · refine iff_of_true ?_ fun isToggle => absurd isToggle toggles
    unfold handleBallastKey
    split
    · exact { sound with ballast := ⟨cursorUp_inRange sound.ballast.1, sound.ballast.2⟩ }
    · exact { sound with ballast := ⟨cursorUp_inRange sound.ballast.1, sound.ballast.2⟩ }
    · exact { sound with ballast := ⟨cursorDown_inRange sound.ballast.1, sound.ballast.2⟩ }
    · exact { sound with ballast := ⟨cursorDown_inRange sound.ballast.1, sound.ballast.2⟩ }
    · rename_i code
      exact absurd (Or.inl code) toggles
    · rename_i code
      exact absurd (Or.inr code) toggles
    · exact { sound with ballast := ⟨sound.ballast.inRange, nofun⟩ }
    · exact sound

/-- Only opening details can go wrong. By cases on the screen. -/
theorem handleScreenKey_sound_iff (sound : self.Sound) (key : KeyEvent)
    : (self.handleScreenKey key).Sound ↔ (togglesDetail key → self.DetailReady) := by
  unfold handleScreenKey DetailReady
  cases self.screen with
  | timeline => exact iff_of_true (sound.handleTimelineKey key) fun _ => trivial
  | explainability => exact handleExplainabilityKey_sound_iff sound key
  | candidates => exact handleCandidatesKey_sound_iff sound key
  | ballast => exact handleBallastKey_sound_iff sound key
  | overview => exact iff_of_true sound fun _ => trivial
  | logSearch => exact iff_of_true sound fun _ => trivial
  | diagnostics =>
      refine iff_of_true ?_ fun _ => trivial
      unfold handleDiagnosticsKey
      dsimp only
      split
      · exact { sound with }
      · exact sound

/-! Mouse events -/

omit [Float64 F] in
theorem listRowHit_lt {Pane : Type} [DecidableEq Pane] {layout : PaneLayout Pane} {pane : Pane}
    {selected total x y index : Nat}
    (hit : self.listRowHit layout pane selected total x y = some index) : index < total := by
  unfold listRowHit at hit
  simp only [Option.bind_eq_bind, Option.bind_eq_some_iff] at hit
  obtain ⟨localY, _, list, _, relRow, _, shown⟩ := hit
  have end_le := centeredWindow_end_le selected total (max (list.rect.height - 2) 1)
  split at shown
  · rename_i within
    cases shown
    omega
  · cases shown

section MouseEvents

omit [Float64 F]

theorem Sound.candidatesCursorUp (sound : self.Sound) : self.candidatesCursorUp.Sound :=
  { sound with candidates := ⟨cursorUp_inRange sound.candidates.1, sound.candidates.2⟩ }

theorem Sound.candidatesCursorDown (sound : self.Sound) : self.candidatesCursorDown.Sound :=
  { sound with candidates := ⟨cursorDown_inRange sound.candidates.1, sound.candidates.2⟩ }

theorem Sound.handleOverlayMouse (sound : self.Sound) (event : MouseEvent)
    : (self.handleOverlayMouse event).Sound := by
  unfold DashboardModel.handleOverlayMouse
  split
  · exact { sound.paletteReset with }
  · exact sound

theorem Sound.handleOverviewMouse (sound : self.Sound) (event : MouseEvent)
    : (self.handleOverviewMouse event).Sound := by
  have hovering := sound.overviewSetHover (self.overviewPaneAt event.x event.y)
  unfold DashboardModel.handleOverviewMouse
  dsimp only
  split
  · split
    · exact (hovering.overviewSetFocus _).navigateTo _
    · exact hovering
  · split
    · exact hovering.candidatesCursorUp
    · exact hovering
  · split
    · exact hovering.candidatesCursorDown
    · exact hovering
  · exact hovering

theorem Sound.handleTimelineMouse (sound : self.Sound) (event : MouseEvent)
    : (self.handleTimelineMouse event).Sound := by
  unfold DashboardModel.handleTimelineMouse
  split
  · split
    · rename_i index hit
      exact { sound with timeline := Or.inr (listRowHit_lt hit) }
    · exact sound
  · split
    · exact sound.timelineCursorUp
    · exact sound
  · split
    · exact sound.timelineCursorDown
    · exact sound
  · exact sound

theorem Sound.handleExplainabilityMouse (sound : self.Sound) (event : MouseEvent)
    : (self.handleExplainabilityMouse event).Sound := by
  have list := sound.explainability
  unfold DashboardModel.handleExplainabilityMouse
  split
  · split
    · rename_i index hit
      have below := listRowHit_lt hit
      exact { sound with explainability := ⟨Or.inr below, fun _ => Nat.zero_lt_of_lt below⟩ }
    · exact sound
  · split
    · exact { sound with explainability := ⟨cursorUp_inRange list.1, list.2⟩ }
    · exact sound
  · split
    · exact { sound with explainability := ⟨cursorDown_inRange list.1, list.2⟩ }
    · exact sound
  · exact sound

theorem Sound.handleCandidatesMouse (sound : self.Sound) (event : MouseEvent)
    : (self.handleCandidatesMouse event).Sound := by
  unfold DashboardModel.handleCandidatesMouse
  split
  · split
    · rename_i index hit
      have below := listRowHit_lt hit
      exact { sound with candidates := ⟨Or.inr below, fun _ => Nat.zero_lt_of_lt below⟩ }
    · exact sound
  · split
    · exact sound.candidatesCursorUp
    · exact sound
  · split
    · exact sound.candidatesCursorDown
    · exact sound
  · exact sound

theorem Sound.handleBallastMouse (sound : self.Sound) (event : MouseEvent)
    : (self.handleBallastMouse event).Sound := by
  have list := sound.ballast
  unfold DashboardModel.handleBallastMouse
  split
  · split
    · rename_i index hit
      have below := listRowHit_lt hit
      exact { sound with ballast := ⟨Or.inr below, fun _ => Nat.zero_lt_of_lt below⟩ }
    · exact sound
  · split
    · exact { sound with ballast := ⟨cursorUp_inRange list.1, list.2⟩ }
    · exact sound
  · split
    · exact { sound with ballast := ⟨cursorDown_inRange list.1, list.2⟩ }
    · exact sound
  · exact sound

def clickedLogEntry (self : DashboardModel F) (event : MouseEvent) : Option Nat :=
  if event.kind = .leftDown then self.logSearchRowHit event.x event.y else none

/-- The log screen selects among all events, the timeline reads among those that its filter lets
through.
-/
theorem handleLogSearchMouse_sound_iff (sound : self.Sound) (event : MouseEvent)
    : (self.handleLogSearchMouse event).Sound
        ↔ ∀ index ∈ self.clickedLogEntry event,
            InRange index self.timelineFilteredEvents.length := by
  unfold handleLogSearchMouse clickedLogEntry
  cases event.kind with
  | leftDown =>
      cases self.logSearchRowHit event.x event.y with
      | some index =>
          simp only [if_true, Option.mem_some_iff, forall_eq']
          exact ⟨fun kept => kept.timeline, fun inRange => { sound with timeline := inRange }⟩
      | none => exact iff_of_true sound nofun
  | scrollUp =>
      refine iff_of_true ?_ nofun
      dsimp only
      split
      · exact sound.timelineCursorUp
      · exact sound
  | scrollDown =>
      refine iff_of_true ?_ nofun
      dsimp only
      split
      · exact sound.timelineCursorDown
      · exact sound
  | other => exact iff_of_true sound nofun

def selectedLogEntry (self : DashboardModel F) : DashboardMsg F → Option Nat
  | .mouse event =>
      if self.activeOverlay = none ∧ self.clickedTab event = none ∧ self.screen = .logSearch
      then self.clickedLogEntry event
      else none
  | _ => none

theorem handleMouseEvent_sound_iff (sound : self.Sound) (event : MouseEvent)
    : (self.handleMouseEvent event).Sound
        ↔ ∀ index ∈ self.selectedLogEntry (.mouse event),
            InRange index self.timelineFilteredEvents.length := by
  unfold handleMouseEvent selectedLogEntry
  cases overlay : self.activeOverlay with
  | some shown => exact iff_of_true (sound.handleOverlayMouse event) (by simp)
  | none =>
      cases tab : self.clickedTab event with
      | some screen => exact iff_of_true (sound.navigateTo screen) (by simp [tab])
      | none =>
          unfold handleScreenMouse
          cases screen : self.screen with
          | overview => exact iff_of_true (sound.handleOverviewMouse event) (by simp)
          | timeline => exact iff_of_true (sound.handleTimelineMouse event) (by simp)
          | explainability =>
              exact iff_of_true (sound.handleExplainabilityMouse event) (by simp)
          | candidates => exact iff_of_true (sound.handleCandidatesMouse event) (by simp)
          | ballast => exact iff_of_true (sound.handleBallastMouse event) (by simp)
          | diagnostics => exact iff_of_true sound (by simp)
          | logSearch => simpa [tab] using handleLogSearchMouse_sound_iff sound event

end MouseEvents

/-! New data -/

/-- New items keep a list sound whose cursor is clamped and whose details close if it is empty. -/
theorem clamped_listSound {α : Type} (selected : Nat) (items : List α) (detail : Bool)
    : ListSound (clampCursor selected items.length) items.length (!items.isEmpty && detail) := by
  refine ⟨clampCursor_inRange _ _, fun opened => ?_⟩
  cases items with
  | nil => cases opened
  | cons first rest => exact Nat.zero_lt_succ _

omit [Float64 F] in
theorem Sound.dataUpdate (sound : self.Sound) (state : Option DaemonState)
    : (self.dataUpdate state).Sound := by
  unfold DashboardModel.dataUpdate synthesizeVolumes
  dsimp only
  split
  · split
    · rename_i counted
      have start : self.ballastSelected = 0 := by
        have none_ : self.ballastVolumes = [] := List.isEmpty_iff.mp counted.2
        have inRange := sound.ballast.inRange
        rw [none_] at inRange
        exact inRange.resolve_right (Nat.not_lt_zero _)
      exact { sound with ballast := ⟨Or.inl start, fun _ => Nat.one_pos⟩ }
    · exact { sound with }
  · exact { sound with }

omit [Float64 F] in
theorem Sound.telemetryTimeline (sound : self.Sound)
    (result : TelemetryResult (List (TimelineEvent F)))
    : (self.telemetryTimeline result).Sound := by
  refine { sound with timeline := ?_ }
  unfold DashboardModel.telemetryTimeline
  dsimp only [timelineFilteredEvents]
  split
  · exact inRange_last _
  · exact clampCursor_inRange _ _

/-! Messages -/

def screenKey (self : DashboardModel F) : DashboardMsg F → Option KeyEvent
  | .key key =>
      if resolveKeyEvent key ⟨self.screen, self.activeOverlay⟩ = .passthrough then some key
      else none
  | _ => none

def Notifies (self : DashboardModel F) : DashboardMsg F → Prop
  | .error _ => True
  | .key key => self.keyAction key = some .incidentQuickRelease
  | _ => False

/-- A message opens no details of an empty list, selects nothing on the log screen that the
filter of the timeline hides, and does not let the counter of notifications run over.
-/
structure Harmless (model : DashboardModel F) (msg : DashboardMsg F) : Prop where
  filled : ∀ key ∈ model.screenKey msg, togglesDetail key → model.DetailReady
  unfiltered : ∀ index ∈ model.selectedLogEntry msg,
    InRange index model.timelineFilteredEvents.length
  room : model.Notifies msg → model.nextNotificationId + 1 < 2 ^ 64

theorem Sound.telemetryCandidates (sound : self.Sound)
    (result : TelemetryResult (List (DecisionEvidence F)))
    : (self.telemetryCandidates result).Sound :=
  { sound with candidates := clamped_listSound _ _ _ }

theorem handleKey_sound_iff (sound : self.Sound) (key : KeyEvent)
    : (self.handleKey key).1.Sound
        ↔ (∀ left ∈ self.screenKey (.key key), togglesDetail left → self.DetailReady)
          ∧ (self.Notifies (.key key) → self.nextNotificationId + 1 < 2 ^ 64) := by
  unfold handleKey screenKey Notifies
  cases resolved : resolveKeyEvent key ⟨self.screen, self.activeOverlay⟩ with
  | mk action consumed =>
      cases action with
      | some action =>
          have asked : (resolveKeyEvent key ⟨self.screen, self.activeOverlay⟩).action
              = some action := by rw [resolved]
          have applied := applyInputAction_sound_iff sound asked
          simpa [resolved, InputResolution.passthrough] using applied
      | none =>
          have idle : self.keyAction key = none := by
            unfold keyAction
            rw [resolved]
          cases consumed with
          | true =>
              have harmless : ∀ left ∈ self.screenKey (.key key),
                  togglesDetail left → self.DetailReady := by
                simp [screenKey, resolved, InputResolution.passthrough]
              refine iff_of_true sound ⟨harmless, fun quick => ?_⟩
              have release : self.keyAction key = some .incidentQuickRelease := quick
              rw [idle] at release
              cases release
          | false =>
              simpa [resolved, InputResolution.passthrough, idle]
                using handleScreenKey_sound_iff sound key

/-- A message keeps the cursors where they belong exactly if it is harmless. By cases on the
message.
-/
theorem step_sound_iff (self : DashboardModel F) (msg : DashboardMsg F) (sound : self.Sound)
    : (self.step msg).Sound ↔ self.Harmless msg := by
  have idle (kept : (self.step msg).Sound) (screenKey : self.screenKey msg = none)
      (selected : self.selectedLogEntry msg = none) (silent : ¬ self.Notifies msg)
      : (self.step msg).Sound ↔ self.Harmless msg := by
    refine iff_of_true kept ⟨?_, ?_, fun notifies => absurd notifies silent⟩
    · rw [screenKey]
      exact nofun
    · rw [selected]
      exact nofun
  cases msg with
  | key key =>
      have handled := handleKey_sound_iff sound key
      exact handled.trans ⟨fun both => ⟨both.1, nofun, both.2⟩,
        fun harmless => ⟨harmless.filled, harmless.room⟩⟩
  | mouse event =>
      have handled := handleMouseEvent_sound_iff sound event
      exact handled.trans ⟨fun unfiltered => ⟨nofun, unfiltered, nofun⟩, Harmless.unfiltered⟩
  | error err =>
      have pushed := pushNotification_sound_iff sound .error err.message
      exact pushed.trans ⟨fun room => ⟨nofun, nofun, fun _ => room⟩,
        fun harmless => harmless.room trivial⟩
  | notificationExpired id =>
      exact idle
        { sound with notifications := sound.notifications.sublist List.filter_sublist }
        rfl rfl (fun notifies => notifies)
  | tick => exact idle { sound with } rfl rfl id
  | resize cols rows => exact idle { sound with } rfl rfl id
  | dataUpdate state => exact idle (sound.dataUpdate state) rfl rfl id
  | navigate screen => exact idle (sound.navigateTo screen) rfl rfl id
  | navigateBack => exact idle sound.navigateBack rfl rfl id
  | toggleOverlay overlay => exact idle { sound with } rfl rfl id
  | closeOverlay => exact idle { sound with } rfl rfl id
  | forceRefresh => exact idle sound rfl rfl id
  | telemetryTimeline result => exact idle (sound.telemetryTimeline result) rfl rfl id
  | telemetryDecisions result =>
      exact idle { sound with explainability := clamped_listSound _ _ _ } rfl rfl id
  | telemetryCandidates result => exact idle (sound.telemetryCandidates result) rfl rfl id
  | frameMetrics durationMs => exact idle sound rfl rfl id
  | telemetryBallast result =>
      exact idle { sound with ballast := clamped_listSound _ _ _ } rfl rfl id

/-- In a run of messages from the start of the dashboard the cursors, the details and the
notifications are as they should be throughout, exactly if each message is harmless where it
comes.
-/
theorem cursors_kept_iff (refresh : Duration) (terminalSize : Nat × Nat)
    (msgs : List (DashboardMsg F))
    : (∀ state ∈ Runs.states step (new refresh terminalSize) msgs, state.Sound)
        ↔ Runs.Guarded step Harmless (new refresh terminalSize) msgs :=
  Runs.invariant_iff_guarded step_sound_iff (sound_new refresh terminalSize)

def severeEvent (severity : String) : TimelineEvent ℚ where
  timestamp := ""
  eventType := ""
  severity := severity
  path := none
  sizeBytes := none
  score := none
  pressureLevel := none
  freePct := none
  success := none
  errorCode := none
  errorMessage := none
  durationMs := none
  details := none

def earlyDetails : List (DashboardMsg ℚ) := [.key ⟨.char '4', false⟩, .key ⟨.enter, false⟩]

/-- With the filter of the timeline at `info` the second entry of the log is clicked. -/
def filteredClick : List (DashboardMsg ℚ) := [
  .telemetryTimeline ⟨[severeEvent "critical", severeEvent "info"], .jsonl, false, ""⟩,
  .key ⟨.char '2', false⟩,
  .key ⟨.char 'f', false⟩,
  .key ⟨.char '6', false⟩,
  .mouse ⟨.leftDown, 5, 9⟩]

theorem early_details_and_filtered_click_unsound
    : (¬ ∀ state ∈ Runs.states step (new (Duration.fromSecs 1) (80, 24)) earlyDetails, state.Sound)
      ∧ ¬ ∀ state ∈ Runs.states step (new (Duration.fromSecs 1) (80, 24)) filteredClick,
          state.Sound := by
  constructor
  · intro kept
    have filled := (kept _ (Runs.final_mem_states _ _)).candidates.filled
    exact absurd (filled (by decide)) (by decide)
  · intro kept
    have inRange := (kept _ (Runs.final_mem_states _ _)).timeline
    have selected : (Runs.final step (new (Duration.fromSecs 1) (80, 24)) filteredClick
        ).timelineSelected = 1 := by decide
    have passed : (Runs.final step (new (Duration.fromSecs 1) (80, 24)) filteredClick
        ).timelineFilteredEvents.length = 1 := by decide
    rw [selected, passed] at inRange
    exact absurd inRange (by unfold InRange; decide)

end DashboardModel

end StorageBallast.Tui
