import StorageBallast.Tui.TelemetryAgreement

/-! Whether the answers from the end of the JSONL log are complete if they are not said to be
partial. Only so many lines are looked at, before they are searched for what was asked for, and
the first line of the chunk that can be shown is given up as a cut one.
-/

namespace StorageBallast.JsonlTelemetryAdapter

open FilteredWindows (newest windowed Suffices)

variable {F : Type}

def shownLines (bytes : List UInt8) : List String :=
  ((readLines bytes).filterMap decodeUtf8).filter fun line => (Texts.trim line) != ""

def fromLineAt : Nat → List UInt8 → List UInt8
  | 0, content => content
  | start + 1, content => WholeLines.afterEnd 10 (content.drop start)

def isBlank (line : List UInt8) : Bool := (decodeUtf8 line).any fun text => Texts.trim text == ""

def chunkStart (content : List UInt8) : Nat := content.length - chunkSize

def chunkLines (content : List UInt8) : List (List UInt8) :=
  (readLines (fromLineAt (chunkStart content) content)).filter fun line => !isBlank line

def chunkTexts (content : List UInt8) : List String :=
  shownLines (fromLineAt (chunkStart content) content)

def NoneDiscarded (content : List UInt8) : Prop :=
  (chunkLines content).map decodeUtf8 = (rawLines content).map some

/-- The chunk starts inside a line, and what it has of this line is a text that is not blank. -/
def CutInside (content : List UInt8) : Prop :=
  content[chunkStart content - 1]? ≠ some 10
    ∧ ∃ line ∈ (readLines (content.drop (chunkStart content))).head?,
      ∃ text ∈ decodeUtf8 line, Texts.trim text ≠ ""

/-- The whole lines in the chunk are texts, and the first line that can be shown is a cut one, if
the file is longer than the chunk.
-/
structure ChunkKept (content : List UInt8) : Prop where
  texts : ∀ line ∈ chunkLines content, decodeUtf8 line ≠ none
  cut : content.length ≤ chunkSize ∨ chunkTexts content = [] ∨ CutInside content

inductive TailQuery where
  | events (filter : EventFilter)
  | decisions
  | pressure (mount since : String)
deriving DecidableEq

namespace TailQuery

def readCount (limit : UInt64) : TailQuery → UInt64
  | events filter => if filter.isEmpty then limit else limit * 4
  | decisions | pressure .. => limit * 4

def reads : TailQuery → LogEntry F → Bool
  | events filter, entry => filter.matches_ entry.severity.name entry.event.name
  | decisions, entry => entry.event == .artifactDelete
  | pressure mount _, entry => entry.event == .pressureChange && entry.mountPoint == some mount

def selects : TailQuery → LogEntry F → Bool
  | pressure mount since, entry =>
      (pressure mount since).reads entry && decide (since ≤ entry.ts)
  | query, entry => query.reads entry

end TailQuery

section queries

variable [Float64 F] [JsonFloat64 F] (text : JsonText F) (content : List UInt8) (limit : UInt64)

def entryOf (line : String) : Option (LogEntry F) :=
  match parseJsonlEntryWithSchemaShield text line with
  | .exact entry => some entry
  | .recovered entry => some entry
  | .dropped => none

def fileEntries : List (LogEntry F) := (shownLines content).reverse.filterMap (entryOf text)

/-- An answer that is not said to be partial has the newest entries that were asked for. -/
def AnswerComplete (query : TailQuery) : Prop :=
  let entries := newest query.selects limit.toNat (fileEntries text content)
  match query with
  | .events filter =>
      let result := recentEvents text content limit filter
      result.isPartial = false → result.data = entries.map logentryToTimeline
  | .decisions =>
      let result := recentDecisions text content limit
      result.isPartial = false
        → result.data = timelinesToEvidence (entries.map logentryToTimeline)
  | .pressure mount since =>
      let result := pressureHistory text content mount since limit
      result.isPartial = false → result.data = entries.map entryToPoint

/-- The lines that are looked at all have entries, and there are no fewer than there should be,
unless there are none before the chunk.
-/
def ReadWell (n : Nat) : Prop :=
  (∀ line ∈ (chunkTexts content).reverse.take n, (entryOf text line).isSome = true)
    ∧ (content.length ≤ chunkSize ∨ n ≤ (chunkTexts content).length)

def linesRead (query : TailQuery) : Nat :=
  min (query.readCount limit).toNat (chunkTexts content).length

/-- If the lines that are looked at are read well, then all entries found in them were asked for,
and they are enough or there are no more.
-/
def LinesSuffice (query : TailQuery) : Prop :=
  ReadWell text content (query.readCount limit).toNat →
    (∀ entry ∈ windowed query.reads limit.toNat (linesRead content limit query)
        (fileEntries text content), query.selects entry = true)
      ∧ Suffices query.selects limit.toNat (linesRead content limit query)
        (fileEntries text content)

end queries

theorem readLines_nil : readLines [] = [] := rfl

theorem readLines_eq_cons {bytes : List UInt8} (nonempty : bytes ≠ [])
    : ∃ first, readLines bytes = first :: readLines (WholeLines.afterEnd 10 bytes) := by
  by_cases ended : 10 ∈ bytes
  · obtain ⟨line, unended, split⟩ := WholeLines.eq_line_append_afterEnd ended
    generalize WholeLines.afterEnd 10 bytes = rest at split ⊢
    subst split
    have lines := WholeLines.splitLines_append (WholeLines.endsWhole_line unended) rest
    rw [List.append_assoc, List.singleton_append, WholeLines.wholeLines_line unended] at lines
    refine ⟨stripCarriageReturn line, ?_⟩
    simp [readLines, lines, WholeLines.wholeLines]
  · rw [WholeLines.afterEnd_of_not_mem ended, readLines_nil, readLines,
      WholeLines.splitLines_of_not_mem ended]
    exact ⟨bytes, by simp [nonempty]⟩

theorem readLines_append {front : List UInt8} (rest : List UInt8)
    : ∃ before, readLines (front ++ 10 :: rest) = before ++ readLines rest := by
  have whole : WholeLines.EndsWhole 10 (front ++ [10]) := WholeLines.endsWhole_concat front
  have lines := WholeLines.splitLines_append whole rest
  rw [List.append_assoc, List.singleton_append] at lines
  refine ⟨(WholeLines.wholeLines 10 (front ++ [10])).map stripCarriageReturn, ?_⟩
  simp [readLines, lines, WholeLines.wholeLines]

theorem shownLines_of_cons {bytes rest first : List UInt8}
    (lines : readLines bytes = first :: readLines rest)
    : shownLines bytes
      = ((decodeUtf8 first).filter fun text => (Texts.trim text) != "").toList
        ++ shownLines rest := by
  unfold shownLines
  rw [lines, List.filterMap_cons]
  cases decodeUtf8 first with
  | none => rfl
  | some text =>
      by_cases blank : Texts.trim text = ""
      · simp [blank, Option.filter]
      · simp [blank, Option.filter]

theorem chunkTexts_suffix (content : List UInt8) : chunkTexts content <:+ shownLines content := by
  unfold chunkTexts
  cases chunkStart content with
  | zero => exact List.suffix_rfl
  | succ start =>
      change shownLines (WholeLines.afterEnd 10 (content.drop start)) <:+ _
      by_cases ended : 10 ∈ content.drop start
      · obtain ⟨line, _, split⟩ := WholeLines.eq_line_append_afterEnd ended
        have whole : content = (content.take start ++ line)
            ++ 10 :: WholeLines.afterEnd 10 (content.drop start) := by
          rw [List.append_assoc, ← split, List.take_append_drop]
        generalize WholeLines.afterEnd 10 (content.drop start) = rest at whole ⊢
        obtain ⟨before, lines⟩ := @readLines_append (content.take start ++ line) rest
        rw [whole]
        unfold shownLines
        rw [lines, List.filterMap_append, List.filter_append]
        exact List.suffix_append _ _
      · rw [WholeLines.afterEnd_of_not_mem ended]
        exact List.nil_suffix

variable {content : List UInt8}

theorem chunkTexts_of_short (short : content.length ≤ chunkSize)
    : chunkTexts content = shownLines content := by
  have start : chunkStart content = 0 := Nat.sub_eq_zero_of_le short
  rw [chunkTexts, start]
  rfl

def cutText (content : List UInt8) : Option String :=
  if content[chunkStart content - 1]? = some 10 then none
  else
    ((readLines (content.drop (chunkStart content))).head?.bind decodeUtf8).filter
      fun text => (Texts.trim text) != ""

theorem cutText_isSome_iff (content : List UInt8)
    : (cutText content).isSome = true ↔ CutInside content := by
  unfold cutText CutInside
  split
  · rename_i lineEnd
    exact iff_of_false Bool.false_ne_true fun cut => cut.1 lineEnd
  · rename_i inside
    cases first : (readLines (content.drop (chunkStart content))).head? with
    | none => simp [inside]
    | some line =>
        cases read : decodeUtf8 line with
        | none => simp [inside, read]
        | some text => simp [inside, read, Option.filter, apply_ite]

/-- Before the whole lines the chunk has at most one that it cuts. -/
theorem shownLines_chunk (longer : 0 < chunkStart content)
    : shownLines (content.drop (chunkStart content))
      = (cutText content).toList ++ chunkTexts content := by
  have short : chunkStart content < content.length := by
    unfold chunkStart chunkSize at *
    omega
  unfold cutText chunkTexts
  generalize chunkStart content = start at longer short ⊢
  obtain ⟨start, rfl⟩ := Nat.exists_eq_add_one_of_ne_zero longer.ne'
  rw [Nat.add_sub_cancel]
  change _ = _ ++ shownLines (WholeLines.afterEnd 10 (content.drop start))
  have before : content[start]? = some content[start] := List.getElem?_eq_getElem _
  rw [before, List.drop_eq_getElem_cons (by omega : start < content.length)]
  by_cases lineEnd : content[start] = 10
  · rw [if_pos (congrArg some lineEnd), lineEnd, WholeLines.afterEnd_cons_newline]
    rfl
  · have nonempty : content.drop (start + 1) ≠ [] := by
      intro empty
      have past := List.drop_eq_nil_iff.mp empty
      omega
    obtain ⟨first, lines⟩ := readLines_eq_cons nonempty
    rw [if_neg fun same => lineEnd (Option.some.inj same), WholeLines.afterEnd_cons_of_ne lineEnd,
      shownLines_of_cons lines, lines]
    rfl

/-- One more line is given up with no loss if there is one, or nothing to lose. -/
theorem drop_one_eq_iff {α : Type} (cut : Option α) (rest : List α)
    : (cut.toList ++ rest).drop 1 = rest ↔ rest = [] ∨ cut.isSome = true := by
  cases cut with
  | none =>
      cases rest with
      | nil => simp
      | cons first rest => simp
  | some value => simp

theorem rawLines_eq_chunkTexts_iff
    : rawLines content = chunkTexts content
      ↔ content.length ≤ chunkSize ∨ chunkTexts content = [] ∨ CutInside content := by
  have lines : rawLines content = if 0 < chunkStart content then
      (shownLines (content.drop (chunkStart content))).drop 1
    else shownLines (content.drop (chunkStart content)) := by
    unfold rawLines shownLines chunkStart
    rfl
  by_cases longer : 0 < chunkStart content
  · have long : ¬ content.length ≤ chunkSize := by
      unfold chunkStart at longer
      omega
    rw [lines, if_pos longer, shownLines_chunk longer, ← cutText_isSome_iff, or_iff_right long]
    exact drop_one_eq_iff _ _
  · have start : chunkStart content = 0 := Nat.eq_zero_of_not_pos longer
    have short : content.length ≤ chunkSize := by
      unfold chunkStart at start
      omega
    refine iff_of_true ?_ (.inl short)
    rw [lines, if_neg longer, start, chunkTexts, start]
    rfl

theorem map_eq_map_some_iff {α β : Type} {f : α → Option β} {members : List α} {values : List β}
    : members.map f = values.map some
      ↔ (∀ member ∈ members, f member ≠ none) ∧ values = members.filterMap f := by
  induction members generalizing values with
  | nil => cases values <;> simp
  | cons member members ih =>
      cases values with
      | nil => cases same : f member <;> simp [same]
      | cons value values =>
          rw [List.map_cons, List.map_cons, List.cons.injEq, ih, List.forall_mem_cons]
          cases same : f member with
          | none => simp
          | some found => simp [same, and_left_comm, eq_comm]

theorem filterMap_chunkLines (content : List UInt8)
    : (chunkLines content).filterMap decodeUtf8 = chunkTexts content := by
  unfold chunkLines chunkTexts shownLines
  rw [List.filterMap_filter, List.filter_filterMap]
  refine List.filterMap_congr fun line _ => ?_
  unfold isBlank
  cases decodeUtf8 line with
  | none => simp
  | some text => simp [Option.filter, bne]

theorem noneDiscarded_iff
    : NoneDiscarded content ↔ ChunkKept content := by
  rw [NoneDiscarded, map_eq_map_some_iff, filterMap_chunkLines, rawLines_eq_chunkTexts_iff]
  exact ⟨fun both => ⟨both.1, both.2⟩, fun kept => ⟨kept.texts, kept.cut⟩⟩

section answers

variable [Float64 F] [JsonFloat64 F] {text : JsonText F} {content : List UInt8}

theorem tailEntries_entries_eq (text : JsonText F) (content : List UInt8) (n : UInt64)
    : (tailEntries text content n).entries
      = ((rawLines content).reverse.take n.toNat).filterMap (entryOf text) := by
  unfold tailEntries
  dsimp only
  rw [← List.take_reverse, List.filterMap_map]
  rfl

/-- Nothing is said to be partial where the lines are read well. -/
theorem isPartial_eq_false_iff {α : Type} (raw : rawLines content = chunkTexts content)
    (n : UInt64) (data : α)
    : (answered (tailEntries text content n) data).isPartial = false
      ↔ ReadWell text content n.toNat := by
  unfold answered tailEntries ReadWell
  dsimp only
  rw [Bool.or_eq_false_iff, decide_eq_false_iff_not, Nat.not_lt, Nat.le_zero,
    List.countP_eq_zero, List.forall_mem_map, ← List.take_reverse, raw, Bool.and_eq_false_iff,
    decide_eq_false_iff_not, decide_eq_false_iff_not, Nat.not_lt, Nat.not_lt]
  refine and_congr_left fun _ => forall₂_congr fun line _ => ?_
  unfold entryOf
  cases parseJsonlEntryWithSchemaShield text line <;> simp

/-- Lines that are read well have the newest entries of the file. -/
theorem tailEntries_eq_take (raw : rawLines content = chunkTexts content) {n : UInt64}
    (well : ReadWell text content n.toNat)
    : (tailEntries text content n).entries
      = (fileEntries text content).take (min n.toNat (chunkTexts content).length) := by
  obtain ⟨before, lines⟩ := chunkTexts_suffix content
  have length : ((((chunkTexts content).reverse.take n.toNat)).filterMap (entryOf text)).length
      = min n.toNat (chunkTexts content).length := by
    rw [List.filterMap_length_eq_length.mpr well.1, List.length_take, List.length_reverse]
  have split : (shownLines content).reverse = (chunkTexts content).reverse.take n.toNat
      ++ ((chunkTexts content).reverse.drop n.toNat ++ before.reverse) := by
    rw [← lines, List.reverse_append, ← List.append_assoc, List.take_append_drop]
  rw [tailEntries_entries_eq, raw, fileEntries, split, List.filterMap_append, ← length,
    List.take_left]

theorem found_eq_windowed (raw : rawLines content = chunkTexts content) {query : TailQuery}
    {limit : UInt64} (well : ReadWell text content (query.readCount limit).toNat)
    : ((tailEntries text content (query.readCount limit)).entries.filter query.reads).take
        limit.toNat
      = windowed query.reads limit.toNat (linesRead content limit query)
          (fileEntries text content) := by
  rw [tailEntries_eq_take raw well]
  rfl

omit [Float64 F] [JsonFloat64 F] in
theorem selects_narrow (query : TailQuery) (entry : LogEntry F)
    (selected : query.selects entry = true) : query.reads entry = true := by
  cases query with
  | events | decisions => exact selected
  | pressure mount since => exact (Bool.and_eq_true_iff.mp selected).1

omit [JsonFloat64 F] in
theorem lengths_of_timelinesToEvidence {α : Type} {view : α → TimelineEvent F}
    {left right : List α} (same : timelinesToEvidence (left.map view)
      = timelinesToEvidence (right.map view))
    : left.map (fun _ => ()) = right.map fun _ => () := by
  have lengths := congrArg List.length same
  simp only [timelinesToEvidence, List.length_mapIdx, List.length_map] at lengths
  rw [List.map_const', List.map_const', lengths]

/-- Where no line is discarded, an answer is complete exactly if the lines suffice. -/
theorem answerComplete_iff (raw : rawLines content = chunkTexts content) (limit : UInt64)
    (query : TailQuery)
    : AnswerComplete text content limit query ↔ LinesSuffice text content limit query := by
  have narrow := fun entry : LogEntry F => selects_narrow query entry
  have found (well : ReadWell text content (query.readCount limit).toNat) :=
    found_eq_windowed raw well
  cases query with
  | events filter =>
      have shape : recentEvents text content limit filter
          = answered (tailEntries text content ((TailQuery.events filter).readCount limit))
            ((((tailEntries text content ((TailQuery.events filter).readCount limit)).entries.filter
              (TailQuery.events filter).reads).take limit.toNat).map logentryToTimeline) := rfl
      refine Iff.trans (imp_congr_left ?_) (imp_congr_right fun well => ?_)
      · rw [shape]
        exact isPartial_eq_false_iff raw _ _
      · rw [shape, answered, found well]
        exact FilteredWindows.map_windowed_eq_map_newest_iff narrow logentryToTimeline
          (fun _ => true) fun _ wide => wide.symm
  | decisions =>
      have shape : recentDecisions text content limit
          = answered (tailEntries text content (TailQuery.decisions.readCount limit))
            (timelinesToEvidence ((((tailEntries text content
              (TailQuery.decisions.readCount limit)).entries.filter
                TailQuery.decisions.reads).take limit.toNat).map logentryToTimeline)) := rfl
      refine Iff.trans (imp_congr_left ?_) (imp_congr_right fun well => ?_)
      · rw [shape]
        exact isPartial_eq_false_iff raw _ _
      · rw [shape, answered, found well]
        constructor
        · intro same
          exact (FilteredWindows.map_windowed_eq_map_newest_iff narrow (fun _ => ())
            (fun _ => true) fun _ wide => wide.symm).mp (lengths_of_timelinesToEvidence same)
        · intro enough
          have same := (FilteredWindows.map_windowed_eq_map_newest_iff narrow logentryToTimeline
            (fun _ => true) fun _ wide => wide.symm).mpr enough
          exact congrArg timelinesToEvidence same
  | pressure mount since =>
      have shape : pressureHistory text content mount since limit
          = answered (tailEntries text content ((TailQuery.pressure mount since).readCount limit))
            ((((tailEntries text content
              ((TailQuery.pressure mount since).readCount limit)).entries.filter
                (TailQuery.pressure mount since).reads).take limit.toNat).map entryToPoint) := rfl
      refine Iff.trans (imp_congr_left ?_) (imp_congr_right fun well => ?_)
      · rw [shape]
        exact isPartial_eq_false_iff raw _ _
      · rw [shape, answered, found well]
        -- The time of a point tells whether it was asked for.
        refine FilteredWindows.map_windowed_eq_map_newest_iff narrow entryToPoint
          (fun point => decide (since ≤ point.timestamp)) fun entry wide => ?_
        exact (Bool.and_eq_right_iff_imp.mpr fun _ => wide).symm

/-- No line is discarded and the answer is complete exactly if the chunk is kept and its lines
suffice.
-/
theorem answerComplete_and_noneDiscarded_iff (text : JsonText F) (content : List UInt8)
    (limit : UInt64) (query : TailQuery)
    : AnswerComplete text content limit query ∧ NoneDiscarded content
      ↔ ChunkKept content ∧ LinesSuffice text content limit query := by
  rw [and_comm, noneDiscarded_iff]
  exact and_congr_right fun kept =>
    answerComplete_iff (rawLines_eq_chunkTexts_iff.mpr kept.cut) limit query

end answers

def twoTexts : JsonText ℚ where
  toString _ := startText
  fromStr line :=
    if line = emergencyText then some (oneEvent (.emergency "disk full" 2)).entry.toJson.reread
    else if line = startText then some (oneEvent (.info "started")).entry.toJson.reread
    else none

def emergencyLines : List String := emergencyText :: List.replicate 4 startText

def emergencyLog : List UInt8 := emergencyLines.flatMap fun line => Texts.bytes line ++ [10]

theorem rawLines_emergencyLog : rawLines emergencyLog = emergencyLines := by
  refine rawLines_flatMap ?_ ?_ (by decide +kernel)
  · intro line member
    rcases List.mem_cons.mp member with rfl | later
    · exact ⟨emergencyFields, rfl⟩
    · rw [List.eq_of_mem_replicate later]
      exact ⟨startFields, rfl⟩
  · intro line member
    rcases List.mem_cons.mp member with rfl | later
    · decide +kernel
    · rw [List.eq_of_mem_replicate later]
      decide +kernel

theorem chunkTexts_emergencyLog : chunkTexts emergencyLog = emergencyLines := by
  have short : emergencyLog.length ≤ chunkSize := by decide +kernel
  rw [← rawLines_emergencyLog]
  exact (rawLines_eq_chunkTexts_iff.mpr (.inl short)).symm

/-- The latest critical event is not among the last four lines, and the answer does not tell. -/
theorem emergency_not_found
    : ¬ ∀ (text : JsonText ℚ) (content : List UInt8) (limit : UInt64) (query : TailQuery),
      AnswerComplete text content limit query ∧ NoneDiscarded content := by
  intro all
  have complete := (all twoTexts emergencyLog 1 (.events { severities := ["critical"] })).1
  have raw : rawLines emergencyLog = chunkTexts emergencyLog :=
    rawLines_emergencyLog.trans chunkTexts_emergencyLog.symm
  have short : emergencyLog.length ≤ chunkSize := by decide +kernel
  have lines : shownLines emergencyLog = emergencyLines :=
    (chunkTexts_of_short short).symm.trans chunkTexts_emergencyLog
  have suffices_ := (answerComplete_iff raw 1 _).mp complete
  unfold LinesSuffice ReadWell linesRead fileEntries at suffices_
  rw [chunkTexts_emergencyLog, lines] at suffices_
  have found := (suffices_ ⟨by decide +kernel, .inl short⟩).2
  revert found
  decide +kernel

end StorageBallast.JsonlTelemetryAdapter
