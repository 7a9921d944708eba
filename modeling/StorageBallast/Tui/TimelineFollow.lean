import StorageBallast.Tui.DashboardCursors
import StorageBallast.Tui.TelemetryTails

/-! Which event the timeline selects while it is followed. Both telemetry sources give the newest
event first, and the dashboard takes the last one of the list for the latest.
-/

namespace StorageBallast.Tui

variable {F : Type}

/-- Where the events of the timeline come from: the database, where a query may fail, or the end
of the JSONL log.
-/
inductive EventSource (F : Type) where
  | sqlite (db : Database F)
  | failing (error : String)
  | jsonl (text : JsonText F) (content : List UInt8)

namespace EventSource

variable [Float64 F] [JsonFloat64 F]

def recentEvents (limit : UInt64) (filter : EventFilter)
    : EventSource F → TelemetryResult (List (TimelineEvent F))
  | sqlite db => SqliteTelemetryAdapter.recentEvents db limit filter
  | failing error => {
      data := []
      source := .sqlite
      isPartial := true
      diagnostics := "SQLite query failed: " ++ error }
  | jsonl text content => JsonlTelemetryAdapter.recentEvents text content limit filter

def logged : EventSource F → List (TimelineEvent F)
  | sqlite db => db.activityLog.map SqliteTelemetryAdapter.rowToTimeline
  | failing _ => []
  | jsonl text content =>
      ((JsonlTelemetryAdapter.rawLines content).filterMap
        (JsonlTelemetryAdapter.entryOf text)).map JsonlTelemetryAdapter.logentryToTimeline

end EventSource

namespace DashboardModel

def timelineSelectedEvent (self : DashboardModel F) : Option (TimelineEvent F) :=
  self.timelineFilteredEvents[self.timelineSelected]?

variable [Float64 F] [JsonFloat64 F]

/-- If there are events that pass the filter of the timeline, the one is selected that was logged
last among them.
-/
def SelectsNewest (self : DashboardModel F) (source : EventSource F) (filter : EventFilter)
    : Prop :=
  self.timelineFilteredEvents ≠ []
    → self.timelineSelectedEvent
      = (source.logged.filter fun event => filter.matches_ event.severity event.eventType
          && self.timelineFilter.matches_ event.severity).getLast?

end DashboardModel

theorem head?_of_initial {α : Type} {front whole : List α} (isFront : front <+: whole)
    (nonempty : front ≠ []) : front.head? = whole.head? := by
  obtain ⟨rest, rfl⟩ := isFront
  exact (List.head?_append_of_ne_nil front nonempty).symm

namespace EventSource

/-- A row meets the conditions of the query if the event that is read from it matches. -/
theorem conditions_all (filter : EventFilter) (row : ActivityRow F)
    : (SqliteTelemetryAdapter.conditions filter).all (· row)
      = filter.matches_ row.severity row.eventType := by
  unfold SqliteTelemetryAdapter.conditions EventFilter.matches_ EventFilter.admits
  cases filter.severities.isEmpty <;> cases filter.eventTypes.isEmpty <;> simp

theorem limited_initial {α : Type} (limit : UInt64) (rows : List α)
    : SqliteTelemetryAdapter.limited limit rows <+: rows := by
  unfold SqliteTelemetryAdapter.limited
  split
  · exact List.take_prefix _ _
  · exact List.prefix_rfl

variable [Float64 F] [JsonFloat64 F]

/-- The entries at the end of the log, the newest first. -/
theorem tailEntries_initial (text : JsonText F) (content : List UInt8) (n : UInt64)
    : (JsonlTelemetryAdapter.tailEntries text content n).entries
      <+: ((JsonlTelemetryAdapter.rawLines content).filterMap
          (JsonlTelemetryAdapter.entryOf text)).reverse := by
  rw [JsonlTelemetryAdapter.tailEntries_entries_eq, ← List.filterMap_reverse]
  exact (List.take_prefix n.toNat _).filterMap _

/-- What a source returns are its newest matching events, the newest first. -/
theorem recentEvents_prefix (source : EventSource F) (limit : UInt64) (filter : EventFilter)
    : (source.recentEvents limit filter).data
      <+: (source.logged.filter fun event =>
          filter.matches_ event.severity event.eventType).reverse := by
  cases source with
  | failing error => exact List.nil_prefix
  | sqlite db =>
      have rows : (fun row : ActivityRow F =>
            (SqliteTelemetryAdapter.conditions filter).all (· row))
          = fun row => filter.matches_ row.severity row.eventType :=
        funext fun row => conditions_all filter row
      have front := (limited_initial limit (db.activityLog.reverse.filter fun row =>
        filter.matches_ row.severity row.eventType)).map SqliteTelemetryAdapter.rowToTimeline
      unfold logged recentEvents SqliteTelemetryAdapter.recentEvents
        SqliteTelemetryAdapter.answered SqliteTelemetryAdapter.queryRecentActivity
      dsimp only
      rw [rows, List.filter_map, ← List.map_reverse, ← List.filter_reverse]
      exact front
  | jsonl text content =>
      unfold logged recentEvents JsonlTelemetryAdapter.recentEvents
        JsonlTelemetryAdapter.answered
      dsimp only
      rw [List.filter_map, ← List.map_reverse, ← List.filter_reverse]
      refine List.IsPrefix.map _ ((List.take_prefix _ _).trans ?_)
      exact (tailEntries_initial text content _).filter _

/-- Of the returned events that pass a second filter the first was logged last. -/
theorem head?_passing (source : EventSource F) (limit : UInt64) (filter : EventFilter)
    (passes : TimelineEvent F → Bool)
    (nonempty : (source.recentEvents limit filter).data.filter passes ≠ [])
    : ((source.recentEvents limit filter).data.filter passes).head?
      = (source.logged.filter fun event =>
          filter.matches_ event.severity event.eventType && passes event).getLast? := by
  have front := (source.recentEvents_prefix limit filter).filter passes
  rw [head?_of_initial front nonempty, List.filter_reverse, List.head?_reverse, List.filter_filter]
  exact congrArg (fun keep => (source.logged.filter keep).getLast?)
    (funext fun event => Bool.and_comm _ _)

end EventSource

namespace DashboardModel

def EndsAlike (filter : SeverityFilter) (events : List (TimelineEvent F)) : Prop :=
  let passing := events.filter fun event => filter.matches_ event.severity
  passing.head? = passing.getLast?

/-- A timeline that is followed selects the last event of its list. -/
theorem selected_of_follow {self : DashboardModel F} (followed : self.timelineFollow = true)
    {result : TelemetryResult (List (TimelineEvent F))}
    (nonempty : (self.telemetryTimeline result).timelineFilteredEvents ≠ [])
    : (self.telemetryTimeline result).timelineSelectedEvent
      = (self.telemetryTimeline result).timelineFilteredEvents.getLast? := by
  have positive : 0 < (self.telemetryTimeline result).timelineFilteredEvents.length :=
    List.length_pos_iff.mpr nonempty
  have selected : (self.telemetryTimeline result).timelineSelected
      = (self.telemetryTimeline result).timelineFilteredEvents.length - 1 :=
    if_pos ⟨followed, positive⟩
  rw [timelineSelectedEvent, selected, List.getLast?_eq_getElem?]

variable [Float64 F] [JsonFloat64 F]

/-- In a run from the start of the dashboard, a timeline that is followed selects the newest event
of a result exactly if the newest and the oldest one that pass its filter are alike.
-/
theorem selectsNewest_iff (refresh : Duration) (terminalSize : Nat × Nat)
    (msgs : List (DashboardMsg F)) (source : EventSource F) (limit : UInt64)
    (filter : EventFilter)
    (followed : (Runs.final step (new refresh terminalSize) msgs).timelineFollow = true)
    : ((Runs.final step (new refresh terminalSize) msgs).step
          (.telemetryTimeline (source.recentEvents limit filter))).SelectsNewest source filter
      ↔ EndsAlike (Runs.final step (new refresh terminalSize) msgs).timelineFilter
          (source.recentEvents limit filter).data := by
  set model := Runs.final step (new refresh terminalSize) msgs
  set result := source.recentEvents limit filter with result_eq
  have filtered : (model.telemetryTimeline result).timelineFilteredEvents
      = result.data.filter fun event => model.timelineFilter.matches_ event.severity := rfl
  change (model.telemetryTimeline result).SelectsNewest source filter ↔ _
  unfold SelectsNewest EndsAlike
  by_cases empty : (model.telemetryTimeline result).timelineFilteredEvents = []
  · refine iff_of_true (fun nonempty => absurd empty nonempty) ?_
    rw [filtered] at empty
    rw [empty]
    rfl
  · rw [selected_of_follow followed empty, filtered, imp_iff_right (filtered ▸ empty)]
    have newest := source.head?_passing limit filter
      (fun event => model.timelineFilter.matches_ event.severity) (filtered ▸ empty)
    rw [← result_eq] at newest
    dsimp only
    rw [newest]
    exact eq_comm

def twoEvents : EventSource ℚ :=
  .sqlite ⟨[⟨"2026-03-01T12:00:00Z", "daemon_start", "info", none, none, none, none, none, none,
      none, 1, none, none, none⟩,
    ⟨"2026-03-01T12:05:00Z", "pressure_change", "warning", none, none, none, none, none, none,
      none, 1, none, none, none⟩], []⟩

theorem selectsNewest_iff_twoEvents
    : ((Runs.final step (new (Duration.fromSecs 1) (80, 24)) []).step
          (.telemetryTimeline (twoEvents.recentEvents 80 {}))).SelectsNewest twoEvents {}
      ↔ EndsAlike (Runs.final step (new (F := ℚ) (Duration.fromSecs 1) (80, 24))
            []).timelineFilter
          (twoEvents.recentEvents 80 {}).data :=
  selectsNewest_iff (Duration.fromSecs 1) (80, 24) [] twoEvents 80 {} rfl

/-- The first of two events is selected after the second one was logged. -/
theorem first_event_followed
    : ¬ ∀ (refresh : Duration) (terminalSize : Nat × Nat) (msgs : List (DashboardMsg ℚ))
        (source : EventSource ℚ) (limit : UInt64) (filter : EventFilter),
        (Runs.final step (new refresh terminalSize) msgs).timelineFollow = true
        → ((Runs.final step (new refresh terminalSize) msgs).step
            (.telemetryTimeline (source.recentEvents limit filter))).SelectsNewest source filter := by
  intro newest
  have selected := newest (Duration.fromSecs 1) (80, 24) [] twoEvents 80 {} rfl (by decide)
  revert selected
  decide

end DashboardModel

end StorageBallast.Tui
