import StorageBallast.Foundations.Windows
import StorageBallast.Tui.TelemetryLines

/-! What the two telemetry sources read of a sequence of events that was written to both
backends without failure: the newest matching rows, and the newest matching entries among the
last lines of the log.
-/

namespace StorageBallast

open FilteredWindows (newest windowed)

variable {F : Type}

namespace LoggedEvent

def written (events : List (LoggedEvent F)) : List (LoggedEvent F) :=
  events.takeWhile fun logged => !logged.event.isShutdown

def recent (events : List (LoggedEvent F)) : List (LoggedEvent F) := (written events).reverse

def storedRow [SqliteFloat64 F] (text : JsonText F) (logged : LoggedEvent F)
    : Option (ActivityRow F) := (logged.activityRow text).map ActivityRow.column

def storedPressure [SqliteFloat64 F] (logged : LoggedEvent F) : Option (PressureRow F) :=
  logged.pressureRow.bind PressureRow.column

end LoggedEvent

open LoggedEvent (written recent)

namespace LogStore

variable [SqliteFloat64 F] {text : JsonText F} {store final : LogStore F}
  {events : List (LoggedEvent F)} {logged : LoggedEvent F}

theorem write_eq_some (wrote : store.write text logged = some final)
    : final.jsonl = store.jsonl ++ lineOf text logged.entry
      ∧ final.db.activityLog
        = store.db.activityLog ++ (logged.storedRow text).toList
      ∧ final.db.pressureHistory
        = store.db.pressureHistory ++ logged.storedPressure.toList := by
  unfold write LoggedEvent.storedRow LoggedEvent.storedPressure at *
  cases activity : logged.activityRow text <;> cases pressure : logged.pressureRow with
  | none =>
      simp only [activity, pressure] at wrote
      obtain rfl := Option.some.inj wrote
      simp [Database.logActivity]
  | some row =>
      simp only [activity, pressure] at wrote
      obtain ⟨db, logs, same⟩ := Option.bind_eq_some_iff.mp wrote
      obtain ⟨stored, column, rfl⟩ := Option.map_eq_some_iff.mp logs
      obtain rfl := Option.some.inj same
      simp [Database.logActivity, column]

/-- Rows of what was written, by induction on the events. -/
theorem writeAll_eq_some (wrote : store.writeAll text events = some final)
    : final.jsonl
        = store.jsonl ++ (written events).flatMap (fun logged => lineOf text logged.entry)
      ∧ final.db.activityLog
        = store.db.activityLog ++ (written events).filterMap (LoggedEvent.storedRow text)
      ∧ final.db.pressureHistory
        = store.db.pressureHistory
          ++ (written events).filterMap LoggedEvent.storedPressure := by
  induction events generalizing store with
  | nil =>
      obtain rfl := Option.some.inj wrote
      simp [written]
  | cons logged rest ih =>
      rw [writeAll] at wrote
      unfold written at ih ⊢
      split_ifs at wrote with last
      · obtain rfl := Option.some.inj wrote
        simp [last]
      · obtain ⟨next, wroteOne, wroteRest⟩ := Option.bind_eq_some_iff.mp wrote
        obtain ⟨line, rows, pressures⟩ := write_eq_some wroteOne
        obtain ⟨lines, moreRows, morePressures⟩ := ih wroteRest
        rw [List.takeWhile_cons_of_pos (by simpa using last), lines, moreRows, morePressures,
          line, rows, pressures]
        refine ⟨?_, ?_, ?_⟩
        · simp
        · cases same : logged.storedRow text <;> simp [same]
        · cases same : logged.storedPressure <;> simp [same]

/-- A row that was to be written to the table of pressures is in it. -/
theorem write_stored (wrote : store.write text logged = some final)
    (row : logged.pressureRow.isSome) : logged.storedPressure.isSome := by
  obtain ⟨pressure, same⟩ := Option.isSome_iff_exists.mp row
  unfold write at wrote
  simp only [same] at wrote
  obtain ⟨db, logs, -⟩ := Option.bind_eq_some_iff.mp wrote
  obtain ⟨stored, column, -⟩ := Option.map_eq_some_iff.mp logs
  simp [LoggedEvent.storedPressure, same, column]

theorem writeAll_stored (wrote : store.writeAll text events = some final)
    {logged : LoggedEvent F} (member : logged ∈ written events)
    (row : logged.pressureRow.isSome) : logged.storedPressure.isSome := by
  induction events generalizing store with
  | nil => cases member
  | cons first rest ih =>
      rw [writeAll] at wrote
      unfold written at ih member
      split_ifs at wrote with last
      · simp [last] at member
      · obtain ⟨next, wroteOne, wroteRest⟩ := Option.bind_eq_some_iff.mp wrote
        rw [List.takeWhile_cons_of_pos (by simpa using last), List.mem_cons] at member
        rcases member with rfl | later
        · exact write_stored wroteOne row
        · exact ih wroteRest later

end LogStore

/-- Events that were written without failure, with lines that can be read back, to a log that
fits into the chunk at its end.
-/
structure WrittenShort [JsonFloat64 F] [SqliteFloat64 F] (text : JsonText F)
    (events : List (LoggedEvent F)) (store : LogStore F) : Prop where
  wrote : ({} : LogStore F).writeAll text events = some store
  transcribes : ∀ logged ∈ written events, text.Transcribes logged.entry.toJson
  fits : store.jsonl.length ≤ JsonlTelemetryAdapter.chunkSize

namespace WrittenShort

variable [JsonFloat64 F] [SqliteFloat64 F] {text : JsonText F}
  {events : List (LoggedEvent F)} {store : LogStore F}
  (short : WrittenShort text events store)

include short

theorem jsonl_eq
    : store.jsonl
      = ((written events).map fun logged => text.toString logged.entry.toJson).flatMap
          fun line => Texts.bytes line ++ [10] := by
  rw [(LogStore.writeAll_eq_some short.wrote).1, List.flatMap_map]
  rfl

theorem activityLog_reverse
    : store.db.activityLog.reverse
      = (recent events).filterMap (LoggedEvent.storedRow text) := by
  rw [(LogStore.writeAll_eq_some short.wrote).2.1, recent, List.filterMap_reverse]
  rfl

theorem pressureHistory_reverse
    : store.db.pressureHistory.reverse
      = (recent events).filterMap LoggedEvent.storedPressure := by
  rw [(LogStore.writeAll_eq_some short.wrote).2.2, recent, List.filterMap_reverse]
  rfl

/-- Each event has a line, so that there are fewer than any limit that is not in force. -/
theorem length_recent_lt : (recent events).length < 2 ^ 63 := by
  have lines : (written events).length ≤ store.jsonl.length := by
    rw [short.jsonl_eq, List.length_flatMap]
    refine le_trans (le_of_eq (by simp)) (List.length_le_sum_of_one_le _ fun n member => ?_)
    obtain ⟨line, -, rfl⟩ := List.mem_map.mp member
    simp
  have fits := short.fits
  rw [recent, List.length_reverse]
  unfold JsonlTelemetryAdapter.chunkSize at fits
  omega

theorem rawLines_eq
    : JsonlTelemetryAdapter.rawLines store.jsonl
      = (written events).map fun logged => text.toString logged.entry.toJson := by
  have fits := short.fits
  rw [short.jsonl_eq] at fits ⊢
  refine JsonlTelemetryAdapter.rawLines_flatMap ?_ ?_ fits
  · exact List.forall_mem_map.mpr fun logged member =>
      (short.transcribes logged member).braced
  · exact List.forall_mem_map.mpr fun logged member =>
      (short.transcribes logged member).oneLine

theorem tailEntries_entries [Float64 F] (n : UInt64)
    : (JsonlTelemetryAdapter.tailEntries text store.jsonl n).entries
      = ((recent events).take n.toNat).map fun logged => logged.entry.reread := by
  have tail (lines : List String)
      : (lines.drop (lines.length - n.toNat)).reverse = lines.reverse.take n.toNat :=
    List.take_reverse.symm
  rw [JsonlTelemetryAdapter.tailEntries, short.rawLines_eq]
  simp only [tail]
  rw [← List.map_reverse, ← List.map_take, List.map_map, List.filterMap_map,
    ← List.filterMap_eq_map]
  refine List.filterMap_congr fun logged member => ?_
  have parsed := JsonlTelemetryAdapter.parse_eq_of_transcribes
    (short.transcribes logged (List.mem_reverse.mp (List.mem_of_mem_take member)))
  simp only [Function.comp, parsed]
  cases logged.entry.factorsLost <;> rfl

theorem tailEntries_whole [Float64 F] (n : UInt64) {α : Type} (data : α)
    : (JsonlTelemetryAdapter.answered
        (JsonlTelemetryAdapter.tailEntries text store.jsonl n) data).isPartial = false := by
  have dropped : (JsonlTelemetryAdapter.tailEntries text store.jsonl n).droppedLines = 0 := by
    rw [JsonlTelemetryAdapter.tailEntries, short.rawLines_eq]
    refine List.countP_eq_zero.mpr fun outcome member => ?_
    obtain ⟨line, inTail, rfl⟩ := List.mem_map.mp member
    obtain ⟨logged, isWritten, rfl⟩ :=
      List.mem_map.mp (List.mem_of_mem_drop (List.mem_reverse.mp inTail))
    rw [JsonlTelemetryAdapter.parse_eq_of_transcribes (short.transcribes logged isWritten)]
    cases logged.entry.factorsLost <;> exact Bool.false_ne_true
  have truncated
      : (JsonlTelemetryAdapter.tailEntries text store.jsonl n).truncatedTailWindow = false := by
    rw [JsonlTelemetryAdapter.tailEntries, Bool.and_eq_false_iff]
    exact .inl (decide_eq_false (Nat.not_lt.mpr short.fits))
  rw [JsonlTelemetryAdapter.answered, dropped, truncated]
  rfl

theorem limited_eq_take {α : Type} {limit : UInt64} {rows : List α}
    (few : rows.length ≤ (recent events).length)
    : SqliteTelemetryAdapter.limited limit rows = rows.take limit.toNat := by
  have bound := short.length_recent_lt
  unfold SqliteTelemetryAdapter.limited
  split_ifs with signed
  · rfl
  · exact (List.take_of_length_le (by omega)).symm

theorem queryRecentActivity_map_some (limit : UInt64) (filter : EventFilter)
    : (SqliteTelemetryAdapter.queryRecentActivity store.db limit filter).map some
      = (newest
            (fun logged => (logged.storedRow text).any fun row =>
              (SqliteTelemetryAdapter.conditions filter).all (· row))
            limit.toNat (recent events)).map
          fun logged => (logged.storedRow text).map SqliteTelemetryAdapter.rowToTimeline := by
  rw [SqliteTelemetryAdapter.queryRecentActivity, short.activityLog_reverse]
  rw [short.limited_eq_take (le_trans (List.length_filter_le ..) (List.length_filterMap_le ..)),
    List.map_map]
  have rows := FilteredWindows.map_some_take_filter_filterMap limit.toNat
    (LoggedEvent.storedRow text)
    (fun row => (SqliteTelemetryAdapter.conditions filter).all (· row)) (recent events)
  have shown := congrArg (List.map (Option.map SqliteTelemetryAdapter.rowToTimeline)) rows
  rw [List.map_map, List.map_map] at shown
  exact shown

/-- The fallback returns the newest matching entries among the last lines. -/
theorem tailEntries_filter [Float64 F] {α : Type} (n limit : UInt64)
    (keep : LogEntry F → Bool) (show_ : LogEntry F → α)
    : (((JsonlTelemetryAdapter.tailEntries text store.jsonl n).entries.filter keep).take
          limit.toNat).map show_
      = (windowed (fun logged => keep logged.entry.reread) limit.toNat n.toNat
          (recent events)).map fun logged => show_ logged.entry.reread := by
  rw [short.tailEntries_entries, List.filter_map, ← List.map_take, List.map_map]
  rfl

end WrittenShort

end StorageBallast
