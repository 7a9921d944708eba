import StorageBallast.Tui.TelemetrySources

/-! Whether the fallback source agrees with the primary one. It does not in general: it seeks
matches only among the last lines of the log, its entries differ from the rows in some fields,
and its points of pressure are never those of the database.
-/

namespace StorageBallast

open FilteredWindows (newest windowed Suffices)
open LoggedEvent (recent)
open scoped Float64

variable {F : Type}

def TimelineEvent.untimed (ev : TimelineEvent F) : TimelineEvent F := { ev with timestamp := "" }

def DecisionEvidence.untimed (evidence : DecisionEvidence F) : DecisionEvidence F :=
  { evidence with timestamp := "" }

def PressurePoint.untimed (point : PressurePoint F) : PressurePoint F :=
  { point with timestamp := "" }

def ResultsAgree {α : Type} (untimed : α → α) (left right : TelemetryResult (List α)) : Prop :=
  left.data.map untimed = right.data.map untimed ∧ left.isPartial = right.isPartial

def EventType.inTable : EventType → Bool
  | .pressureChange => false
  | .daemonStop => false
  | .configReload => false
  | _ => true

def EventFilter.NamesStored (filter : EventFilter) : Prop :=
  filter.eventTypes ≠ []
    ∧ ∀ name ∈ filter.eventTypes, ∃ event : EventType, event.inTable ∧ event.name = name

/-- The rows of the newer events were made since then, those of the older ones before. -/
def FallsBetween (since : String) (events : List (LoggedEvent F)) : Prop :=
  ∃ newer older, recent events = newer ++ older
    ∧ (∀ logged ∈ newer, since ≤ logged.rowTs) ∧ ∀ logged ∈ older, ¬ since ≤ logged.rowTs

structure AdaptersAgree [Float64 F] [JsonFloat64 F] (text : JsonText F)
    (events : List (LoggedEvent F)) (store : LogStore F) (limit : UInt64)
    (filter : EventFilter) (mount since : String) : Prop where
  onDecisions : ResultsAgree DecisionEvidence.untimed
    (SqliteTelemetryAdapter.recentDecisions store.db limit)
    (JsonlTelemetryAdapter.recentDecisions text store.jsonl limit)
  onPressure : FallsBetween since events
    → ResultsAgree PressurePoint.untimed
        (SqliteTelemetryAdapter.pressureHistory store.db mount since limit)
        (JsonlTelemetryAdapter.pressureHistory text store.jsonl mount since limit)
  onEvents : filter.NamesStored
    → ResultsAgree TimelineEvent.untimed
        (SqliteTelemetryAdapter.recentEvents store.db limit filter)
        (JsonlTelemetryAdapter.recentEvents text store.jsonl limit filter)

namespace ActivityEvent

def isDeletion : ActivityEvent F → Bool
  | artifactDeleted .. => true
  | artifactDeletionFailed .. => true
  | _ => false

def isPressureOf (mount : String) : ActivityEvent F → Bool
  | pressureChanged _ _ _ _ mountPoint _ _ _ _ => mountPoint == mount
  | _ => false

/-- A number that an `i64` holds. -/
def Signed (n : UInt64) : Prop := n.toNat < 2 ^ 63

variable [JsonFloat64 F] [SqliteFloat64 F]

def KeptAlike (x : F) : Prop := SqliteFloat64.column x = JsonFloat64.reread x

def DecisionAlike [Float64 F] : ActivityEvent F → Prop
  | artifactDeleted _ sizeBytes score _ _ _ _ =>
      Signed sizeBytes
        ∧ (SqliteFloat64.column score).getD 0.0 = (JsonFloat64.reread score).getD 0.0
  | _ => True

/-- The event is read alike from both backends. That of an emergency never is, as its entry
does not tell whether anything succeeded.
-/
def EventAlike : ActivityEvent F → Prop
  | ballastReleased _ sizeBytes _ freePct => Signed sizeBytes ∧ KeptAlike freePct
  | ballastReplenished _ sizeBytes => Signed sizeBytes
  | ballastProvisioned _ sizeBytes => Signed sizeBytes
  | artifactDeleted _ sizeBytes score _ _ freePct durationMs =>
      Signed sizeBytes ∧ KeptAlike score ∧ KeptAlike freePct ∧ Signed durationMs
  | scanCompleted _ _ durationMs _ => Signed durationMs
  | emergency .. => False
  | _ => True

end ActivityEvent

def ActivityEvent.kind : ActivityEvent F → EventType × Severity
  | daemonStarted .. => (.daemonStart, .info)
  | daemonStopped .. => (.daemonStop, .info)
  | pressureChanged .. => (.pressureChange, .info)
  | ballastReleased .. => (.ballastRelease, .info)
  | ballastReplenished .. => (.ballastReplenish, .info)
  | ballastProvisioned .. => (.ballastProvision, .info)
  | artifactDeleted .. => (.artifactDelete, .info)
  | artifactDeletionFailed .. => (.artifactDelete, .warning)
  | scanCompleted .. => (.scanComplete, .info)
  | configReloaded .. => (.configReload, .info)
  | info .. => (.info, .info)
  | error .. => (.error, .critical)
  | emergency .. => (.emergency, .critical)
  | shutdown => (.daemonStop, .info)

def EventFilter.selects (filter : EventFilter) (logged : LoggedEvent F) : Bool :=
  filter.matches_ logged.event.kind.2.name logged.event.kind.1.name

/-- What the agreement takes. The last lines hold enough matches, or the rest of the log has
none, and each of these matches is read alike. Points of pressure are not to be found.
-/
structure ReadAlike [Float64 F] [JsonFloat64 F] [SqliteFloat64 F]
    (events : List (LoggedEvent F)) (limit : UInt64) (filter : EventFilter)
    (mount since : String) : Prop where
  decisions :
    Suffices (·.event.isDeletion) limit.toNat (limit * 4).toNat (recent events)
      ∧ ∀ logged ∈ windowed (·.event.isDeletion) limit.toNat (limit * 4).toNat (recent events),
        logged.event.DecisionAlike
  points : FallsBetween since events
    → limit = 0
      ∨ (∀ logged ∈ recent events, logged.event.isPressureOf mount → ¬ since ≤ logged.rowTs)
        ∧ ∀ logged ∈ (recent events).take (limit * 4).toNat,
            logged.event.isPressureOf mount = false
  listed : filter.NamesStored
    → Suffices filter.selects limit.toNat (limit * 4).toNat (recent events)
      ∧ ∀ logged ∈ windowed filter.selects limit.toNat (limit * 4).toNat (recent events),
        logged.event.EventAlike

theorem toI64_eq_iff {n : UInt64}
    : SqliteTelemetryAdapter.unsignedColumn (toI64 n) = n ↔ ActivityEvent.Signed n := by
  have bound := n.toNat_lt
  have number (k : Nat) (small : k < 2 ^ 64) : UInt64.ofNat k = n ↔ k = n.toNat := by
    constructor
    · rintro rfl
      exact (UInt64.toNat_ofNat_of_lt small).symm
    · rintro rfl
      exact UInt64.ofNat_toNat
  unfold SqliteTelemetryAdapter.unsignedColumn toI64 ActivityEvent.Signed i64Max
  split_ifs with small
  · rw [number _ (by omega)]
    omega
  · rw [number _ (by omega)]
    omega

def TimelineEvent.decision [Float64 F] (ev : TimelineEvent F) : DecisionEvidence F :=
  (timelineToEvidence 0 ev).untimed

namespace LoggedEvent

variable [SqliteFloat64 F] {text : JsonText F} {logged : LoggedEvent F} {row : ActivityRow F}

omit [SqliteFloat64 F] in
theorem entry_kind (logged : LoggedEvent F)
    : (logged.entry.event, logged.entry.severity) = logged.event.kind := by
  obtain ⟨event, entryTs, rowTs⟩ := logged
  cases event <;> rfl

theorem storedRow_names (stored : logged.storedRow text = some row)
    : row.eventType = logged.event.kind.1.name ∧ row.severity = logged.event.kind.2.name := by
  obtain ⟨event, entryTs, rowTs⟩ := logged
  obtain ⟨written, made, rfl⟩ := Option.map_eq_some_iff.mp stored
  cases event <;> cases made <;> exact ⟨rfl, rfl⟩

/-- There are rows of the types that are stored, and of no other. -/
theorem inTable_eq_false_of_none (noRow : logged.storedRow text = none)
    : logged.event.kind.1.inTable = false := by
  obtain ⟨event, entryTs, rowTs⟩ := logged
  have unmade := Option.map_eq_none_iff.mp noRow
  cases event <;> first | rfl | cases unmade

/-- A filter that names stored types selects the same events in both backends. -/
theorem storedRow_selected {filter : EventFilter} (stored : filter.NamesStored)
    (logged : LoggedEvent F)
    : (logged.storedRow text).any
        (fun row => (SqliteTelemetryAdapter.conditions filter).all (· row))
      = filter.selects logged := by
  have conditions (row : ActivityRow F)
      : (SqliteTelemetryAdapter.conditions filter).all (· row)
        = filter.matches_ row.severity row.eventType := by
    unfold SqliteTelemetryAdapter.conditions EventFilter.matches_ EventFilter.admits
    cases filter.severities.isEmpty <;> cases filter.eventTypes.isEmpty <;> simp
  cases row : logged.storedRow text with
  | some row =>
      obtain ⟨eventType, severity⟩ := storedRow_names row
      rw [Option.any_some, conditions, eventType, severity, EventFilter.selects]
  | none =>
      have unnamed : filter.eventTypes.contains logged.event.kind.1.name = false := by
        refine Bool.eq_false_iff.mpr fun named => ?_
        obtain ⟨event, inTable, same⟩ := stored.2 _ (List.contains_iff_mem.mp named)
        rw [EventType.name_injective same, inTable_eq_false_of_none row] at inTable
        cases inTable
      have someType : filter.eventTypes.isEmpty = false := List.isEmpty_eq_false_iff.mpr stored.1
      rw [Option.any_none, EventFilter.selects, EventFilter.matches_,
        EventFilter.admits.eq_1 filter.eventTypes, unnamed, someType]
      simp

variable [JsonFloat64 F]

/-- A row and an entry are read as the same event exactly if the event is read alike. -/
theorem eventAlike_iff (stored : logged.storedRow text = some row)
    : (SqliteTelemetryAdapter.rowToTimeline row).untimed
        = (JsonlTelemetryAdapter.logentryToTimeline logged.entry.reread).untimed
      ↔ logged.event.EventAlike := by
  obtain ⟨event, entryTs, rowTs⟩ := logged
  obtain ⟨written, made, rfl⟩ := Option.map_eq_some_iff.mp stored
  cases event <;> cases made <;>
    simp [ActivityEvent.EventAlike, ActivityEvent.KeptAlike, TimelineEvent.untimed,
      SqliteTelemetryAdapter.rowToTimeline, ActivityRow.column,
      JsonlTelemetryAdapter.logentryToTimeline, LogEntry.reread, LoggedEvent.entry,
      eventToLogEntry, EventType.name, Severity.name, toI64_eq_iff]

theorem decisionAlike_iff [Float64 F] (stored : logged.storedRow text = some row)
    (deletion : logged.event.isDeletion)
    : TimelineEvent.decision (SqliteTelemetryAdapter.rowToTimeline row)
        = TimelineEvent.decision (JsonlTelemetryAdapter.logentryToTimeline logged.entry.reread)
      ↔ logged.event.DecisionAlike := by
  obtain ⟨event, entryTs, rowTs⟩ := logged
  obtain ⟨written, made, rfl⟩ := Option.map_eq_some_iff.mp stored
  cases event <;> cases deletion <;> cases made <;>
    simp [ActivityEvent.DecisionAlike, TimelineEvent.decision, timelineToEvidence,
      DecisionEvidence.untimed, SqliteTelemetryAdapter.rowToTimeline, ActivityRow.column,
      JsonlTelemetryAdapter.logentryToTimeline, LogEntry.reread, LoggedEvent.entry,
      eventToLogEntry, toI64_eq_iff]

end LoggedEvent

def DecisionEvidence.placed (evidence : DecisionEvidence F) (id : Nat) : DecisionEvidence F :=
  { evidence with decisionId := id }

variable [Float64 F]

theorem timelinesToEvidence_untimed (events : List (TimelineEvent F))
    : (timelinesToEvidence events).map DecisionEvidence.untimed
      = (events.map TimelineEvent.decision).mapIdx fun id evidence => evidence.placed id := by
  apply List.ext_getElem?
  intro i
  simp only [timelinesToEvidence, List.getElem?_map, List.getElem?_mapIdx, Option.map_map]
  rfl

theorem timelinesToEvidence_eq_iff {left right : List (TimelineEvent F)}
    : (timelinesToEvidence left).map DecisionEvidence.untimed
        = (timelinesToEvidence right).map DecisionEvidence.untimed
      ↔ left.map TimelineEvent.decision = right.map TimelineEvent.decision := by
  have unplaced (events : List (TimelineEvent F))
      : ((timelinesToEvidence events).map DecisionEvidence.untimed).map (·.placed 0)
        = events.map TimelineEvent.decision := by
    rw [timelinesToEvidence_untimed]
    apply List.ext_getElem?
    intro i
    simp only [List.getElem?_map, List.getElem?_mapIdx, Option.map_map]
    rfl
  constructor
  · intro same
    rw [← unplaced left, same, unplaced]
  · intro same
    rw [timelinesToEvidence_untimed, timelinesToEvidence_untimed, same]

namespace WrittenShort

variable [JsonFloat64 F] [SqliteFloat64 F] {text : JsonText F}
  {events : List (LoggedEvent F)} {store : LogStore F}
  (short : WrittenShort text events store)

include short

/-- The newest rows of a kind are seen as the newest entries of that kind exactly if none of
these is missed and each of them is seen alike.
-/
theorem map_view_eq_iff {β : Type} (view : TimelineEvent F → β) (limit : UInt64)
    (filter : EventFilter) (keep : LoggedEvent F → Bool) (keepEntry : LogEntry F → Bool)
    (alike : LoggedEvent F → Prop)
    (sameRows : ∀ logged : LoggedEvent F, (logged.storedRow text).any
      (fun row => (SqliteTelemetryAdapter.conditions filter).all (· row)) = keep logged)
    (sameEntries : ∀ logged : LoggedEvent F, keepEntry logged.entry.reread = keep logged)
    (seen : ∀ logged : LoggedEvent F, keep logged → ∀ row, logged.storedRow text = some row
      → (view (SqliteTelemetryAdapter.rowToTimeline row)
          = view (JsonlTelemetryAdapter.logentryToTimeline logged.entry.reread)
        ↔ alike logged))
    : (SqliteTelemetryAdapter.queryRecentActivity store.db limit filter).map view
        = ((((JsonlTelemetryAdapter.tailEntries text store.jsonl (limit * 4)).entries.filter
            keepEntry).take limit.toNat).map JsonlTelemetryAdapter.logentryToTimeline).map view
      ↔ Suffices keep limit.toNat (limit * 4).toNat (recent events)
        ∧ ∀ logged ∈ windowed keep limit.toNat (limit * 4).toNat (recent events),
          alike logged := by
  have left
      : (SqliteTelemetryAdapter.queryRecentActivity store.db limit filter).map (some ∘ view)
        = (newest keep limit.toNat (recent events)).map fun logged =>
            (logged.storedRow text).map (view ∘ SqliteTelemetryAdapter.rowToTimeline) := by
    have rows := congrArg (List.map (Option.map view))
      (short.queryRecentActivity_map_some limit filter)
    rw [funext sameRows, List.map_map, List.map_map] at rows
    exact rows.trans (List.map_congr_left fun logged _ => Option.map_map ..)
  have right := short.tailEntries_filter (limit * 4) limit keepEntry
    fun entry => some (view (JsonlTelemetryAdapter.logentryToTimeline entry))
  rw [funext sameEntries] at right
  have lists := FilteredWindows.map_newest_eq_map_windowed_iff keep limit.toNat
    (limit * 4).toNat (recent events)
    (fun logged => (logged.storedRow text).map (view ∘ SqliteTelemetryAdapter.rowToTimeline))
    fun logged => some (view (JsonlTelemetryAdapter.logentryToTimeline logged.entry.reread))
  rw [← left, ← right] at lists
  rw [← (List.map_injective_iff.mpr (Option.some_injective β)).eq_iff, List.map_map,
    List.map_map, List.map_map]
  refine lists.trans (and_congr_right fun _ => forall₂_congr fun logged member => ?_)
  -- A selected event has a row.
  have kept : keep logged := List.of_mem_filter (List.mem_of_mem_take member)
  have hasRow := sameRows logged
  cases stored : logged.storedRow text with
  | none =>
      rw [stored, kept] at hasRow
      cases hasRow
  | some row =>
      rw [Option.map_some, Option.some_inj]
      exact seen logged kept row stored

/-- Decisions agree exactly if those that are selected do and none is missed. -/
theorem decisionsAgree_iff (limit : UInt64)
    : ResultsAgree DecisionEvidence.untimed
        (SqliteTelemetryAdapter.recentDecisions store.db limit)
        (JsonlTelemetryAdapter.recentDecisions text store.jsonl limit)
      ↔ Suffices (·.event.isDeletion) limit.toNat (limit * 4).toNat (recent events)
        ∧ ∀ logged ∈ windowed (·.event.isDeletion) limit.toNat (limit * 4).toNat (recent events),
          logged.event.DecisionAlike := by
  have complete : (SqliteTelemetryAdapter.recentDecisions store.db limit).isPartial
      = (JsonlTelemetryAdapter.recentDecisions text store.jsonl limit).isPartial :=
    (short.tailEntries_whole ..).symm
  rw [ResultsAgree, and_iff_left complete]
  refine timelinesToEvidence_eq_iff.trans (short.map_view_eq_iff TimelineEvent.decision limit
    _ _ (fun entry => entry.event == .artifactDelete) _ ?_ ?_ ?_)
  · rintro ⟨event, entryTs, rowTs⟩
    cases event <;> rfl
  · rintro ⟨event, entryTs, rowTs⟩
    cases event <;> rfl
  · exact fun logged deletion row stored => LoggedEvent.decisionAlike_iff stored deletion

/-- Events of stored types agree exactly if those that are selected do and none is missed. -/
theorem eventsAgree_iff (limit : UInt64) {filter : EventFilter} (named : filter.NamesStored)
    : ResultsAgree TimelineEvent.untimed
        (SqliteTelemetryAdapter.recentEvents store.db limit filter)
        (JsonlTelemetryAdapter.recentEvents text store.jsonl limit filter)
      ↔ Suffices filter.selects limit.toNat (limit * 4).toNat (recent events)
        ∧ ∀ logged ∈ windowed filter.selects limit.toNat (limit * 4).toNat (recent events),
          logged.event.EventAlike := by
  have count : (if filter.isEmpty then limit else limit * 4) = limit * 4 := by
    have someType : filter.eventTypes.isEmpty = false := List.isEmpty_eq_false_iff.mpr named.1
    rw [EventFilter.isEmpty, someType, Bool.and_false, if_neg Bool.false_ne_true]
  have complete : (SqliteTelemetryAdapter.recentEvents store.db limit filter).isPartial
      = (JsonlTelemetryAdapter.recentEvents text store.jsonl limit filter).isPartial :=
    (short.tailEntries_whole ..).symm
  rw [ResultsAgree, and_iff_left complete, JsonlTelemetryAdapter.recentEvents, count]
  refine short.map_view_eq_iff TimelineEvent.untimed limit filter filter.selects
    (fun entry => filter.matches_ entry.severity.name entry.event.name) _ ?_ ?_ ?_
  · exact LoggedEvent.storedRow_selected named
  · intro logged
    rw [EventFilter.selects, ← logged.entry_kind]
    rfl
  · exact fun logged _ row stored => LoggedEvent.eventAlike_iff stored

omit [Float64 F] [JsonFloat64 F] short in
/-- The rows of a mount since some time are those of its pressure events since then. -/
theorem storedPressure_selected {mount since : String} {logged : LoggedEvent F}
    (stored : logged.pressureRow.isSome → logged.storedPressure.isSome)
    : logged.storedPressure.any (fun row =>
        row.mountPoint == mount && decide (since ≤ row.timestamp))
      = (logged.event.isPressureOf mount && decide (since ≤ logged.rowTs)) := by
  obtain ⟨event, entryTs, rowTs⟩ := logged
  cases event with
  | pressureChanged from_ to_ freePct rateBps mountPoint totalBytes freeBytes ewmaRate pidOutput =>
      obtain ⟨row, same⟩ := Option.isSome_iff_exists.mp (stored rfl)
      rw [same, Option.any_some]
      obtain ⟨kept, column, rfl⟩ := Option.map_eq_some_iff.mp same
      rfl
  | _ => rfl

omit [Float64 F] [JsonFloat64 F] short in
/-- The level of a row is the one that was reached, that of an entry tells the change. -/
theorem level_ne [Float64 F] [JsonFloat64 F] {mount : String} {logged : LoggedEvent F}
    (isPressure : logged.event.isPressureOf mount)
    : logged.storedPressure.map (fun row => (SqliteTelemetryAdapter.rowToPoint row).pressureLevel)
      ≠ some (JsonlTelemetryAdapter.entryToPoint logged.entry.reread).pressureLevel := by
  obtain ⟨event, entryTs, rowTs⟩ := logged
  cases event with
  | pressureChanged from_ to_ freePct rateBps mountPoint totalBytes freeBytes ewmaRate pidOutput =>
      intro same
      obtain ⟨row, stored, level⟩ := Option.map_eq_some_iff.mp same
      obtain ⟨kept, column, rfl⟩ := Option.map_eq_some_iff.mp stored
      have lengths := congrArg String.length (show to_ = from_ ++ "->" ++ to_ from level)
      rw [String.length_append, String.length_append] at lengths
      have arrow : "->".length = 2 := by decide
      omega
  | _ => cases isPressure

omit [Float64 F] in
theorem queryPressureHistory_map_some (mount since : String) (limit : UInt64)
    : (SqliteTelemetryAdapter.queryPressureHistory store.db mount since limit).map some
      = (newest
            (fun logged => logged.event.isPressureOf mount && decide (since ≤ logged.rowTs))
            limit.toNat (recent events)).map
          fun logged => logged.storedPressure.map SqliteTelemetryAdapter.rowToPoint := by
  have rows := FilteredWindows.map_some_take_filter_filterMap limit.toNat
    LoggedEvent.storedPressure
    (fun row : PressureRow F => row.mountPoint == mount && decide (since ≤ row.timestamp))
    (recent events)
  have sameRows : (recent events).filter (fun logged => logged.storedPressure.any fun row =>
        row.mountPoint == mount && decide (since ≤ row.timestamp))
      = (recent events).filter fun logged =>
          logged.event.isPressureOf mount && decide (since ≤ logged.rowTs) :=
    List.filter_congr fun logged member => storedPressure_selected
      (LogStore.writeAll_stored short.wrote (List.mem_reverse.mp member))
  rw [newest, sameRows, ← newest] at rows
  rw [SqliteTelemetryAdapter.queryPressureHistory, short.pressureHistory_reverse,
    short.limited_eq_take (le_trans (List.length_filter_le ..) (List.length_filterMap_le ..)),
    List.map_map]
  have shown := congrArg (List.map (Option.map SqliteTelemetryAdapter.rowToPoint)) rows
  rw [List.map_map, List.map_map] at shown
  exact shown

theorem pressureHistory_data (mount since : String) (limit : UInt64)
    : (JsonlTelemetryAdapter.pressureHistory text store.jsonl mount since limit).data
      = (windowed (·.event.isPressureOf mount) limit.toNat (limit * 4).toNat
          (recent events)).map fun logged =>
            JsonlTelemetryAdapter.entryToPoint logged.entry.reread := by
  have sameEntries (logged : LoggedEvent F)
      : (logged.entry.reread.event == .pressureChange
          && logged.entry.reread.mountPoint == some mount)
        = logged.event.isPressureOf mount := by
    obtain ⟨event, entryTs, rowTs⟩ := logged
    cases event <;> rfl
  have lines := short.tailEntries_filter (limit * 4) limit
    (fun entry => entry.event == .pressureChange && entry.mountPoint == some mount)
    JsonlTelemetryAdapter.entryToPoint
  rw [funext sameEntries] at lines
  exact lines

/-- If points of pressure agree, then neither source has a first one: it would be the same
event in both, with different levels.
-/
theorem no_points_of_agree {limit : UInt64} {mount since : String}
    (between : FallsBetween since events) (positive : limit.toNat ≠ 0)
    (same : (SqliteTelemetryAdapter.queryPressureHistory store.db mount since limit).map
        PressurePoint.untimed
      = (JsonlTelemetryAdapter.pressureHistory text store.jsonl mount since limit).data.map
        PressurePoint.untimed)
    : (recent events).find? (fun logged =>
          logged.event.isPressureOf mount && decide (since ≤ logged.rowTs)) = none
      ∧ ((recent events).take (limit * 4).toNat).find? (·.event.isPressureOf mount) = none := by
  have levels := congrArg (List.map fun point => some point.pressureLevel) same
  have rows := congrArg (List.map (Option.map PressurePoint.pressureLevel))
    (short.queryPressureHistory_map_some mount since limit)
  rw [short.pressureHistory_data, List.map_map, List.map_map, List.map_map] at levels
  rw [List.map_map, List.map_map] at rows
  have heads := congrArg List.head? (rows.symm.trans levels)
  rw [List.head?_map, List.head?_map, windowed, FilteredWindows.head?_newest positive,
    FilteredWindows.head?_newest positive] at heads
  cases line : ((recent events).take (limit * 4).toNat).find? (·.event.isPressureOf mount) with
  | none =>
      rw [line] at heads
      exact ⟨Option.map_eq_none_iff.mp heads, rfl⟩
  | some logged =>
      rw [line] at heads
      obtain ⟨other, row, level⟩ := Option.map_eq_some_iff.mp heads
      obtain ⟨newer, older, split, isNewer, isOlder⟩ := between
      have first : (recent events).find? (·.event.isPressureOf mount) = some logged := by
        rw [← List.take_append_drop (limit * 4).toNat (recent events), List.find?_append, line,
          Option.some_or]
      rw [split] at row first
      have firstOther := FilteredWindows.find?_of_find?_and
        (fun entry member => decide_eq_true (isNewer entry member))
        (fun entry member => decide_eq_false (isOlder entry member)) row
      obtain rfl := Option.some.inj (firstOther.symm.trans first)
      have isPressure : other.event.isPressureOf mount := by
        have held := List.find?_some first
        exact held
      rw [Function.comp, Option.map_map] at level
      exact absurd level (level_ne isPressure)

theorem pressureAgrees_iff (limit : UInt64) {mount since : String}
    (between : FallsBetween since events)
    : ResultsAgree PressurePoint.untimed
        (SqliteTelemetryAdapter.pressureHistory store.db mount since limit)
        (JsonlTelemetryAdapter.pressureHistory text store.jsonl mount since limit)
      ↔ limit = 0
        ∨ (∀ logged ∈ recent events,
            logged.event.isPressureOf mount → ¬ since ≤ logged.rowTs)
          ∧ ∀ logged ∈ (recent events).take (limit * 4).toNat,
              logged.event.isPressureOf mount = false := by
  have complete : (SqliteTelemetryAdapter.pressureHistory store.db mount since limit).isPartial
      = (JsonlTelemetryAdapter.pressureHistory text store.jsonl mount since limit).isPartial :=
    (short.tailEntries_whole ..).symm
  have isZero : limit.toNat = 0 ↔ limit = 0 := UInt64.toNat_inj (b := 0)
  rw [ResultsAgree, and_iff_left complete]
  constructor
  · intro same
    refine or_iff_not_imp_left.mpr fun nonzero => ?_
    have none_ := short.no_points_of_agree between (fun zero => nonzero (isZero.mp zero)) same
    constructor
    · intro logged member isPressure later
      have absent := List.find?_eq_none.mp none_.1 logged member
      rw [isPressure, decide_eq_true later] at absent
      exact absent rfl
    · exact fun logged member =>
        Bool.eq_false_iff.mpr (List.find?_eq_none.mp none_.2 logged member)
  · intro nothing
    have noRows : newest
        (fun logged => logged.event.isPressureOf mount && decide (since ≤ logged.rowTs))
        limit.toNat (recent events) = [] := by
      refine FilteredWindows.newest_eq_nil_iff.mpr (nothing.imp isZero.mpr ?_)
      intro none_ logged member
      refine Bool.eq_false_iff.mpr fun both => ?_
      rw [Bool.and_eq_true, decide_eq_true_eq] at both
      exact none_.1 logged member both.1 both.2
    have noLines : windowed (fun logged => logged.event.isPressureOf mount) limit.toNat
        (limit * 4).toNat (recent events) = [] :=
      FilteredWindows.newest_eq_nil_iff.mpr (nothing.imp isZero.mpr And.right)
    have rows := short.queryPressureHistory_map_some mount since limit
    rw [noRows] at rows
    rw [short.pressureHistory_data, noLines, SqliteTelemetryAdapter.pressureHistory,
      SqliteTelemetryAdapter.answered, List.map_eq_nil_iff.mp rows]
    rfl

/-- The fallback source agrees with the primary one exactly under these conditions. -/
theorem adaptersAgree_iff_readAlike (limit : UInt64) (filter : EventFilter)
    (mount since : String)
    : AdaptersAgree text events store limit filter mount since
      ↔ ReadAlike events limit filter mount since := by
  constructor
  · intro agree
    exact {
      decisions := (short.decisionsAgree_iff limit).mp agree.onDecisions
      points := fun between =>
        (short.pressureAgrees_iff limit between).mp (agree.onPressure between)
      listed := fun named => (short.eventsAgree_iff limit named).mp (agree.onEvents named)
    }
  · intro alike
    exact {
      onDecisions := (short.decisionsAgree_iff limit).mpr alike.decisions
      onPressure := fun between =>
        (short.pressureAgrees_iff limit between).mpr (alike.points between)
      onEvents := fun named => (short.eventsAgree_iff limit named).mpr (alike.listed named)
    }

end WrittenShort

/-- For every sequence of events that was written to both backends without failure, and every
query, the two sources agree exactly if what is sought lies in the last lines, is read alike,
and is no point of pressure.
-/
theorem fallback_agrees_iff {F : Type} [Float64 F] [JsonFloat64 F] [SqliteFloat64 F]
    {text : JsonText F} {events : List (LoggedEvent F)} {store : LogStore F}
    (short : WrittenShort text events store) (limit : UInt64) (filter : EventFilter)
    (mount since : String)
    : AdaptersAgree text events store limit filter mount since
      ↔ ReadAlike events limit filter mount since :=
  short.adaptersAgree_iff_readAlike limit filter mount since

section Exact

/-- Exact numbers that come back as they were. -/
instance : JsonFloat64 ℚ where
  reread := some
  isSignNegative x := x < 0
  roundToU64 x := UInt64.ofNat (min (⌊x + 1 / 2⌋).toNat (2 ^ 64 - 1))
  ofText := DecimalFloat64.ofText
  numeral := DecimalFloat64.display

instance : SqliteFloat64 ℚ where
  column := some

def oneText (value : JsonValue ℚ) (line : String) : JsonText ℚ where
  toString _ := line
  fromStr _ := some value.reread

def noonTs : String := "2026-01-01T12:00:00.000Z"

def oneEvent (event : ActivityEvent ℚ) : LoggedEvent ℚ :=
  { event, entryTs := noonTs, rowTs := noonTs }

def startFields : String :=
  "\"ts\":\"2026-01-01T12:00:00.000Z\",\"event\":\"info\",\"severity\":\"info\","
    ++ "\"ok\":true,\"details\":\"started\""

def startText : String := "\x7b" ++ startFields ++ "\x7d"

def emergencyFields : String :=
  "\"ts\":\"2026-01-01T12:00:00.000Z\",\"event\":\"emergency\","
    ++ "\"severity\":\"critical\",\"free_pct\":2.0,\"details\":\"disk full\""

def emergencyText : String := "\x7b" ++ emergencyFields ++ "\x7d"

def oneEventText (event : ActivityEvent ℚ) (line : String) : JsonText ℚ :=
  oneText (oneEvent event).entry.toJson line

def oneEventStore (event : ActivityEvent ℚ) (line : String) : LogStore ℚ :=
  (({} : LogStore ℚ).writeAll (oneEventText event line) [oneEvent event]).getD {}

theorem writtenShort_started
    : WrittenShort (oneEventText (.info "started") startText) [oneEvent (.info "started")]
        (oneEventStore (.info "started") startText) where
  wrote := rfl
  transcribes logged member := by
    obtain rfl := List.mem_singleton.mp ((List.takeWhile_sublist _).subset member)
    exact ⟨⟨startFields, rfl⟩, by decide +kernel, rfl⟩
  fits := by decide +kernel

theorem writtenShort_emergency
    : WrittenShort (oneEventText (.emergency "disk full" 2) emergencyText)
        [oneEvent (.emergency "disk full" 2)]
        (oneEventStore (.emergency "disk full" 2) emergencyText) where
  wrote := rfl
  transcribes logged member := by
    obtain rfl := List.mem_singleton.mp ((List.takeWhile_sublist _).subset member)
    exact ⟨⟨emergencyFields, rfl⟩, by decide +kernel, rfl⟩
  fits := by decide +kernel

theorem fallback_agrees_on_message
    : AdaptersAgree (oneEventText (.info "started") startText) [oneEvent (.info "started")]
        (oneEventStore (.info "started") startText) 1 { eventTypes := ["info"] } "/" noonTs := by
  refine (fallback_agrees_iff writtenShort_started 1 _ "/" noonTs).mpr ?_
  exact {
    decisions := ⟨.inr (by decide), List.forall_mem_nil _⟩
    points := fun _ => .inr ⟨by decide, by decide⟩
    listed := fun _ => ⟨.inl (by decide), fun logged member => by
      obtain rfl := List.mem_singleton.mp member
      trivial⟩
  }

/-- An emergency counts as a success in the database and as neither in the log. -/
theorem emergency_differs
    : WrittenShort (oneEventText (.emergency "disk full" 2) emergencyText)
          [oneEvent (.emergency "disk full" 2)]
          (oneEventStore (.emergency "disk full" 2) emergencyText)
      ∧ ¬ AdaptersAgree (oneEventText (.emergency "disk full" 2) emergencyText)
          [oneEvent (.emergency "disk full" 2)]
          (oneEventStore (.emergency "disk full" 2) emergencyText) 1
          { eventTypes := ["emergency"] } "/" noonTs := by
  refine ⟨writtenShort_emergency, fun agree => ?_⟩
  have named : ({ eventTypes := ["emergency"] } : EventFilter).NamesStored :=
    ⟨by decide, List.forall_mem_singleton.mpr ⟨.emergency, rfl, rfl⟩⟩
  have listed := (writtenShort_emergency.eventsAgree_iff 1 named).mp (agree.onEvents named)
  exact listed.2 (oneEvent (.emergency "disk full" 2)) (List.mem_singleton.mpr rfl)

/-- The newest entries are read as they were written exactly if all of their floats come back. -/
theorem tailEntries_written_iff {F : Type} [Float64 F] [JsonFloat64 F] [SqliteFloat64 F]
    {text : JsonText F} {events : List (LoggedEvent F)} {store : LogStore F}
    (short : WrittenShort text events store) (n : UInt64)
    : (JsonlTelemetryAdapter.tailEntries text store.jsonl n).entries
        = ((recent events).take n.toNat).map (·.entry)
      ↔ ∀ logged ∈ (recent events).take n.toNat, ∀ x ∈ logged.entry.floats,
        JsonFloat64.reread x = some x := by
  rw [short.tailEntries_entries, List.map_inj_left]
  exact forall₂_congr fun logged _ => logged.entry.reread_eq_iff

theorem emergency_tailEntries_written
    : (JsonlTelemetryAdapter.tailEntries (oneEventText (.emergency "disk full" 2) emergencyText)
          (oneEventStore (.emergency "disk full" 2) emergencyText).jsonl 1).entries
        = [(oneEvent (.emergency "disk full" 2)).entry] :=
  (tailEntries_written_iff writtenShort_emergency 1).mpr fun _ _ _ _ => rfl

end Exact

end StorageBallast
