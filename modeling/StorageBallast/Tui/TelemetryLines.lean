import StorageBallast.Tui.Telemetry

/-! The lines of the JSONL log as they are read back. A line that was written for an entry is
read as that entry up to its floats; one that is no entry because its factors are lost is
recovered field by field, which comes to the same.
-/

namespace StorageBallast

variable {F : Type}

namespace JsonlTelemetryAdapter

theorem parseEventType_name (event : EventType) : parseEventType event.name = some event := by
  cases event <;> decide

theorem parseSeverity_name (severity : Severity)
    : parseSeverity severity.name = some severity := by
  cases severity <;> decide

section Shield

variable [JsonFloat64 F] {entry : LogEntry F} {key : String} {keys : List String}

theorem readValue_rereadFields {value : Option (JsonValue F)}
    (written : Entries.get key entry.fields.reverse = some value)
    (absent : keys.all fun other => (Entries.get other entry.fields.reverse).isNone)
    : readValue entry.rereadFields (key :: keys) = value.map JsonValue.reread := by
  have others : keys.findSome? (JsonValue.get entry.rereadFields) = none := by
    refine List.findSome?_eq_none_iff.mpr fun other member => ?_
    exact LogEntry.get_rereadFields_of_absent
      (Option.isNone_iff_eq_none.mp (List.all_eq_true.mp absent other member))
  rw [readValue, List.findSome?_cons, LogEntry.get_rereadFields written, others]
  cases value <;> rfl

theorem readStringField_rereadFields {text : Option String}
    (written : Entries.get key entry.fields.reverse = some (text.map .string))
    (absent : keys.all fun other => (Entries.get other entry.fields.reverse).isNone)
    : readStringField entry.rereadFields (key :: keys) = text := by
  rw [readStringField, readValue_rereadFields written absent]
  cases text <;> rfl

theorem readU64Field_rereadFields [Float64 F] {n : Option UInt64}
    (written : Entries.get key entry.fields.reverse = some (n.map .ofU64))
    (absent : keys.all fun other => (Entries.get other entry.fields.reverse).isNone)
    : readU64Field entry.rereadFields (key :: keys) = n := by
  rw [readU64Field, readValue_rereadFields written absent]
  cases n <;> rfl

theorem readF64Field_rereadFields [Float64 F] {x : Option F}
    (written : Entries.get key entry.fields.reverse = some (x.map .ofFloat))
    (absent : keys.all fun other => (Entries.get other entry.fields.reverse).isNone)
    : readF64Field entry.rereadFields (key :: keys) = x.bind JsonFloat64.reread := by
  rw [readF64Field, readValue_rereadFields written absent]
  cases x with
  | none => rfl
  | some x =>
      change (some (JsonValue.ofReread x)).bind _ = JsonFloat64.reread x
      unfold JsonValue.ofReread
      cases JsonFloat64.reread x <;> rfl

theorem readBoolField_rereadFields {flag : Option Bool}
    (written : Entries.get key entry.fields.reverse = some (flag.map .bool))
    (absent : keys.all fun other => (Entries.get other entry.fields.reverse).isNone)
    : readBoolField entry.rereadFields (key :: keys) = flag := by
  rw [readBoolField, readValue_rereadFields written absent]
  cases flag <;> rfl

theorem reread_factors_of_lost (lost : entry.factorsLost) : entry.reread.factors = none := by
  unfold LogEntry.factorsLost at lost
  unfold LogEntry.reread
  cases same : entry.factors with
  | none => rfl
  | some factors =>
      rw [same] at lost
      exact Option.isNone_iff_eq_none.mp lost

/-- An entry whose factors are lost is recovered without them. -/
theorem recover_rereadFields [Float64 F] (lost : entry.factorsLost)
    : recover entry.rereadFields = .recovered entry.reread := by
  have string {key : String} {keys : List String} {text : Option String}
      (written : Entries.get key entry.fields.reverse = some (text.map .string))
      (absent : keys.all fun other => (Entries.get other entry.fields.reverse).isNone)
      : readStringField entry.rereadFields (key :: keys) = text :=
    readStringField_rereadFields written absent
  have ts : readStringField entry.rereadFields ["ts", "timestamp", "time"] = some entry.ts :=
    string rfl rfl
  have event : readStringField entry.rereadFields ["event", "event_type", "kind"]
      = some entry.event.name := string rfl rfl
  have severity : readStringField entry.rereadFields ["severity", "level"]
      = some entry.severity.name := string rfl rfl
  have path : readStringField entry.rereadFields ["path", "target_path"] = entry.path :=
    string rfl rfl
  have size : readU64Field entry.rereadFields ["size", "size_bytes"] = entry.size :=
    readU64Field_rereadFields rfl rfl
  have score : readF64Field entry.rereadFields ["score", "total_score"]
      = entry.score.bind JsonFloat64.reread := readF64Field_rereadFields rfl rfl
  have pressure : readStringField entry.rereadFields ["pressure", "pressure_level"]
      = entry.pressure := string rfl rfl
  have freePct : readF64Field entry.rereadFields ["free_pct", "free_percent"]
      = entry.freePct.bind JsonFloat64.reread := readF64Field_rereadFields rfl rfl
  have rateBps : readF64Field entry.rereadFields ["rate_bps", "ewma_rate"]
      = entry.rateBps.bind JsonFloat64.reread := readF64Field_rereadFields rfl rfl
  have durationMs : readU64Field entry.rereadFields ["duration_ms", "durationMillis"]
      = entry.durationMs := readU64Field_rereadFields rfl rfl
  have ok : readBoolField entry.rereadFields ["ok", "success"] = entry.ok :=
    readBoolField_rereadFields rfl rfl
  have errorCode : readStringField entry.rereadFields ["error_code"] = entry.errorCode :=
    string rfl rfl
  have errorMessage : readStringField entry.rereadFields ["error_message", "error"]
      = entry.errorMessage := string rfl rfl
  have mountPoint : readStringField entry.rereadFields ["mount_point", "mount"]
      = entry.mountPoint := string rfl rfl
  have details : readStringField entry.rereadFields ["details", "summary", "message"]
      = entry.details := string rfl rfl
  have known : (some entry.event.name).filter (fun token => (parseEventType token).isNone)
      = none := by
    rw [Option.filter, parseEventType_name]
    rfl
  have noFactors := reread_factors_of_lost lost
  simp only [recover, ts, event, severity, path, size, score, pressure, freePct, rateBps,
    durationMs, ok, errorCode, errorMessage, mountPoint, details, known, Option.bind_some,
    parseEventType_name, parseSeverity_name, Option.getD_some]
  rw [← noFactors]
  rfl

theorem ofValue_reread [Float64 F] (entry : LogEntry F)
    : ofValue entry.toJson.reread
      = if entry.factorsLost then .recovered entry.reread else .exact entry.reread := by
  unfold ofValue
  rw [LogEntry.ofJson_reread]
  by_cases lost : entry.factorsLost
  · rw [if_pos lost, if_pos lost]
    exact recover_rereadFields lost
  · rw [if_neg lost, if_neg lost]

theorem parse_eq_of_transcribes [Float64 F] {text : JsonText F}
    (transcribes : text.Transcribes entry.toJson)
    : parseJsonlEntryWithSchemaShield text (text.toString entry.toJson)
      = if entry.factorsLost then .recovered entry.reread else .exact entry.reread := by
  rw [parseJsonlEntryWithSchemaShield, transcribes.rereads]
  exact ofValue_reread entry

end Shield

theorem decodeUtf8_bytes (text : String) : decodeUtf8 (Texts.bytes text) = some text := by
  have encoded : (Texts.bytes text).toByteArray = text.toByteArray :=
    String.utf8Encode_toList
  rw [decodeUtf8, encoded]
  exact dif_pos text.isValidUTF8

def Braced (text : String) : Prop := ∃ inner, text = "\x7b" ++ inner ++ "\x7d"

theorem Braced.toList {text : String} (braced : Braced text)
    : ∃ inner, text.toList = '\x7b' :: (inner ++ ['\x7d']) := by
  obtain ⟨inner, rfl⟩ := braced
  exact ⟨inner.toList, by simp⟩

theorem Braced.trim_eq {text : String} (braced : Braced text) : Texts.trim text = text := by
  obtain ⟨inner, chars⟩ := braced.toList
  have first : Texts.isWhitespace '\x7b' = false := by decide
  have last : Texts.isWhitespace '\x7d' = false := by decide
  have start : text.toList.dropWhile Texts.isWhitespace = text.toList := by
    rw [chars, List.dropWhile_cons_of_neg (by simp [first])]
  have back : text.toList.reverse.dropWhile Texts.isWhitespace = text.toList.reverse := by
    rw [chars]
    simp [last]
  rw [Texts.trim, start, String.ofList_toList, Texts.trimEndMatches, back,
    List.reverse_reverse, String.ofList_toList]

theorem Braced.stripCarriageReturn_bytes {text : String} (braced : Braced text)
    : stripCarriageReturn (Texts.bytes text) = Texts.bytes text := by
  obtain ⟨inner, chars⟩ := braced.toList
  have last : (Texts.bytes text).getLast? = some 125 := by
    have closing : String.utf8EncodeChar '\x7d' = [125] := by decide
    simp [Texts.bytes, chars, closing]
  exact if_neg (by simp [last])

theorem Braced.ne_empty {text : String} (braced : Braced text) : text ≠ "" := by
  rintro rfl
  obtain ⟨inner, chars⟩ := braced.toList
  cases chars

/-- A log that fits into the chunk is read as the texts that were written as lines. -/
theorem rawLines_flatMap {texts : List String} (braced : ∀ text ∈ texts, Braced text)
    (oneLine : ∀ text ∈ texts, 10 ∉ Texts.bytes text)
    (fits : (texts.flatMap fun text => Texts.bytes text ++ [10]).length ≤ chunkSize)
    : rawLines (texts.flatMap fun text => Texts.bytes text ++ [10]) = texts := by
  have start := Nat.sub_eq_zero_of_le fits
  have lines : WholeLines.splitLines 10 (texts.flatMap fun text => Texts.bytes text ++ [10])
      = (texts.map Texts.bytes, []) := by
    rw [← WholeLines.splitLines_flatMap (List.forall_mem_map.mpr oneLine), List.flatMap_map]
  have strips : (texts.map Texts.bytes).map stripCarriageReturn = texts.map Texts.bytes := by
    rw [List.map_map]
    exact List.map_congr_left fun text member => (braced text member).stripCarriageReturn_bytes
  have decodes : (texts.map Texts.bytes).filterMap decodeUtf8 = texts := by
    rw [List.filterMap_map]
    exact (List.filterMap_congr fun text _ => decodeUtf8_bytes text).trans List.filterMap_some
  have shown : texts.filter (fun line => Texts.trim line != "") = texts := by
    refine List.filter_eq_self.mpr fun text member => ?_
    rw [(braced text member).trim_eq]
    exact bne_iff_ne.mpr (braced text member).ne_empty
  rw [rawLines, start, List.drop_zero, readLines, lines]
  simp only [if_true, List.append_nil, strips, decodes, shown]
  rfl

end JsonlTelemetryAdapter

end StorageBallast
