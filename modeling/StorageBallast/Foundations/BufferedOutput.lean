import Mathlib.Data.List.Basic
import Mathlib.Tactic.Common

/-! Lines in a stream of symbols. A line is whole once its end has been written; what stands
behind the last end is the rest, which whatever is appended next would continue.
-/

namespace StorageBallast.WholeLines

variable {α : Type*} [DecidableEq α] (newline : α)

/-- The lines that are ended, and what stands behind the last end. -/
def splitLines : List α → List (List α) × List α
  | [] => ([], [])
  | symbol :: rest =>
      if symbol = newline then ([] :: (splitLines rest).1, (splitLines rest).2)
      else
        match splitLines rest with
        | ([], open_) => ([], symbol :: open_)
        | (first :: more, open_) => ((symbol :: first) :: more, open_)

def wholeLines (stream : List α) : List (List α) := (splitLines newline stream).1

def allLines (stream : List α) : List (List α) :=
  wholeLines newline stream
    ++ if (splitLines newline stream).2 = [] then [] else [(splitLines newline stream).2]

def joinLines (lines : List (List α)) : List α := [newline].intercalate lines ++ [newline]

def afterEnd (stream : List α) : List α := (stream.dropWhile (· ≠ newline)).drop 1

/-- A line without what stands right before its end, if that is `ret`. -/
def stripReturn (ret : α) (line : List α) : List α :=
  if line.getLast? = some ret then line.dropLast else line

def EndsWhole (stream : List α) : Prop := (splitLines newline stream).2 = []

instance (stream : List α) : Decidable (EndsWhole newline stream) :=
  inferInstanceAs (Decidable (_ = _))

variable {newline}

theorem splitLines_of_not_mem {part : List α} (unended : newline ∉ part)
    : splitLines newline part = ([], part) := by
  induction part with
  | nil => rfl
  | cons symbol part ih =>
      have other : symbol ≠ newline := fun same => unended (same ▸ List.mem_cons_self)
      have later := ih fun member => unended (List.mem_cons_of_mem _ member)
      rw [splitLines, if_neg other, later]

@[simp] theorem afterEnd_cons_newline (rest : List α)
    : afterEnd newline (newline :: rest) = rest := by
  simp [afterEnd]

theorem afterEnd_cons_of_ne {symbol : α} (other : symbol ≠ newline) (rest : List α)
    : afterEnd newline (symbol :: rest) = afterEnd newline rest := by
  simp [afterEnd, other]

theorem afterEnd_of_not_mem {part : List α} (unended : newline ∉ part)
    : afterEnd newline part = [] := by
  induction part with
  | nil => rfl
  | cons symbol part ih =>
      rw [List.mem_cons, not_or] at unended
      rw [afterEnd_cons_of_ne fun same => unended.1 same.symm]
      exact ih unended.2

variable {stream : List α}

/-- A stream with an end of a line is its first line, the end, and what stands behind it. -/
theorem eq_line_append_afterEnd (ended : newline ∈ stream)
    : ∃ line, newline ∉ line ∧ stream = line ++ newline :: afterEnd newline stream := by
  induction stream with
  | nil => cases ended
  | cons symbol rest ih =>
      by_cases first : symbol = newline
      · subst first
        exact ⟨[], List.not_mem_nil, by simp⟩
      · have later := (List.mem_cons.mp ended).resolve_left fun same => first same.symm
        obtain ⟨line, unended, split⟩ := ih later
        refine ⟨symbol :: line, ?_, ?_⟩
        · rw [List.mem_cons, not_or]
          exact ⟨fun same => first same.symm, unended⟩
        · rw [afterEnd_cons_of_ne first, List.cons_append, ← split]

/-- What follows a whole stream does not touch its lines, by induction on the stream. -/
theorem splitLines_append (whole : EndsWhole newline stream) (more : List α)
    : splitLines newline (stream ++ more)
      = (wholeLines newline stream ++ wholeLines newline more,
          (splitLines newline more).2) := by
  unfold EndsWhole at whole
  unfold wholeLines
  induction stream with
  | nil => simp [splitLines]
  | cons symbol stream ih =>
      rw [List.cons_append]
      by_cases ended : symbol = newline
      · simp only [splitLines, if_pos ended] at whole ⊢
        rw [ih whole]
        rfl
      · simp only [splitLines, if_neg ended] at whole ⊢
        cases same : splitLines newline stream with
        | mk lines rest =>
            rw [same] at whole ih
            cases lines with
            | nil => simp at whole
            | cons first lines =>
                rw [ih whole]
                rfl

theorem wholeLines_append (whole : EndsWhole newline stream) (more : List α)
    : wholeLines newline (stream ++ more)
      = wholeLines newline stream ++ wholeLines newline more :=
  congrArg Prod.fst (splitLines_append whole more)

/-- Symbols that end no line change none, by induction on the stream before them. -/
theorem wholeLines_append_of_not_mem {part : List α} (unended : newline ∉ part)
    (stream : List α)
    : wholeLines newline (stream ++ part) = wholeLines newline stream := by
  unfold wholeLines
  induction stream with
  | nil => rw [List.nil_append, splitLines_of_not_mem unended, splitLines]
  | cons symbol stream ih =>
      rw [List.cons_append]
      by_cases ended : symbol = newline
      · simp only [splitLines, if_pos ended, ih]
      · simp only [splitLines, if_neg ended]
        cases longer : splitLines newline (stream ++ part) with
        | mk linesLonger restLonger =>
            cases shorter : splitLines newline stream with
            | mk lines rest =>
                rw [longer, shorter] at ih
                obtain rfl : linesLonger = lines := ih
                cases linesLonger with
                | nil => rfl
                | cons first more => rfl

theorem splitLines_line {text : List α} (unended : newline ∉ text)
    : splitLines newline (text ++ [newline]) = ([text], []) := by
  induction text with
  | nil => simp [splitLines]
  | cons symbol text ih =>
      have other : symbol ≠ newline := fun same => unended (same ▸ List.mem_cons_self)
      have later := ih fun member => unended (List.mem_cons_of_mem _ member)
      rw [List.cons_append, splitLines, if_neg other, later]

theorem wholeLines_line {text : List α} (unended : newline ∉ text)
    : wholeLines newline (text ++ [newline]) = [text] :=
  congrArg Prod.fst (splitLines_line unended)

theorem endsWhole_line {text : List α} (unended : newline ∉ text)
    : EndsWhole newline (text ++ [newline]) :=
  congrArg Prod.snd (splitLines_line unended)

/-- A stream that ends with an end has a last line, by induction on what is before it. -/
theorem splitLines_concat (stream : List α)
    : ∃ first more, splitLines newline (stream ++ [newline]) = (first :: more, []) := by
  induction stream with
  | nil => exact ⟨[], [], splitLines_line List.not_mem_nil⟩
  | cons symbol stream ih =>
      obtain ⟨first, more, split⟩ := ih
      rw [List.cons_append, splitLines, split]
      by_cases ended : symbol = newline
      · exact ⟨[], first :: more, if_pos ended⟩
      · exact ⟨symbol :: first, more, if_neg ended⟩

theorem endsWhole_concat (stream : List α) : EndsWhole newline (stream ++ [newline]) := by
  obtain ⟨first, more, split⟩ := @splitLines_concat α _ newline stream
  exact congrArg Prod.snd split

/-- Texts that were written as lines are the lines that are read, by induction on the texts. -/
theorem splitLines_flatMap {texts : List (List α)} (unended : ∀ text ∈ texts, newline ∉ text)
    : splitLines newline (texts.flatMap (· ++ [newline])) = (texts, []) := by
  induction texts with
  | nil => rfl
  | cons text texts ih =>
      obtain ⟨first, later⟩ := List.forall_mem_cons.mp unended
      rw [List.flatMap_cons, splitLines_append (endsWhole_line first), wholeLines_line first,
        wholeLines, ih later]
      rfl

/-- No line contains an end, by induction on the stream. -/
theorem not_mem_of_mem_splitLines
    : (∀ line ∈ (splitLines newline stream).1, newline ∉ line)
      ∧ newline ∉ (splitLines newline stream).2 := by
  induction stream with
  | nil => exact ⟨fun _ member => absurd member List.not_mem_nil, List.not_mem_nil⟩
  | cons symbol stream ih =>
      obtain ⟨wholeUnended, restUnended⟩ := ih
      by_cases ended : symbol = newline
      · simp only [splitLines, if_pos ended]
        exact ⟨List.forall_mem_cons.mpr ⟨List.not_mem_nil, wholeUnended⟩, restUnended⟩
      · have extended {line : List α} (unended : newline ∉ line)
            : newline ∉ symbol :: line := by
          intro member
          rcases List.mem_cons.mp member with same | inside
          · exact ended same.symm
          · exact unended inside
        simp only [splitLines, if_neg ended]
        cases parts : splitLines newline stream with
        | mk lines rest =>
            rw [parts] at wholeUnended restUnended
            cases lines with
            | nil => exact ⟨wholeUnended, extended restUnended⟩
            | cons first lines =>
                obtain ⟨firstUnended, later⟩ := List.forall_mem_cons.mp wholeUnended
                exact ⟨List.forall_mem_cons.mpr ⟨extended firstUnended, later⟩, restUnended⟩

omit [DecidableEq α] in
theorem joinLines_eq_flatMap {lines : List (List α)} (nonempty : lines ≠ [])
    : joinLines newline lines = lines.flatMap (· ++ [newline]) := by
  unfold joinLines
  induction lines with
  | nil => exact absurd rfl nonempty
  | cons line lines ih =>
      cases lines with
      | nil => simp
      | cons next lines =>
          have later := ih (List.cons_ne_nil next lines)
          rw [List.flatMap_cons, ← later]
          simp [List.intercalate, List.intersperse]

/-- What was put together is read again, where no lines at all are read as an empty one. -/
theorem splitLines_joinLines {lines : List (List α)} (unended : ∀ line ∈ lines, newline ∉ line)
    : splitLines newline (joinLines newline lines)
      = (if lines = [] then [[]] else lines, []) := by
  by_cases nonempty : lines = []
  · subst nonempty
    simp [joinLines, splitLines]
  · rw [joinLines_eq_flatMap nonempty, splitLines_flatMap unended, if_neg nonempty]

section Returns

variable {ret : α}

theorem stripReturn_concat (line : List α) : stripReturn ret (line ++ [ret]) = line := by
  simp [stripReturn]

theorem stripReturn_eq_self_iff {line : List α}
    : stripReturn ret line = line ↔ line.getLast? ≠ some ret := by
  unfold stripReturn
  split
  next returned =>
    have nonempty : line ≠ [] := by
      intro empty
      rw [empty] at returned
      cases returned
    refine iff_of_false (fun same => ?_) (not_not_intro returned)
    have shorter := congrArg List.length same
    rw [List.length_dropLast] at shorter
    have := List.length_pos_iff.mpr nonempty
    omega
  next plain => exact iff_of_true rfl plain

/-- Every line is one that the function does not tell from its stripped form, if that holds of the
lines with a return.
-/
theorem apply_stripReturn {β : Type*} {f : List α → β}
    (blind : ∀ line, f (line ++ [ret]) = f line) (line : List α)
    : f (stripReturn ret line) = f line := by
  unfold stripReturn
  split
  next returned =>
    obtain ⟨front, rfl⟩ := List.getLast?_eq_some_iff.mp returned
    rw [List.dropLast_concat, blind]
  next => rfl

theorem stripReturn_stripReturn_eq_self_iff {line : List α}
    : stripReturn ret (stripReturn ret line) = line ↔ line.getLast? ≠ some ret := by
  constructor
  · intro same returned
    obtain ⟨front, rfl⟩ := List.getLast?_eq_some_iff.mp returned
    rw [stripReturn_concat] at same
    have short : (stripReturn ret front).length ≤ front.length := by
      unfold stripReturn
      split <;> simp
    rw [same, List.length_append, List.length_singleton] at short
    omega
  · intro plain
    have same := stripReturn_eq_self_iff.mpr plain
    rw [same, same]

theorem not_mem_stripReturn {line : List α} (unended : newline ∉ line)
    : newline ∉ stripReturn ret line := by
  unfold stripReturn
  split
  next => exact fun member => unended (List.dropLast_subset _ member)
  next => exact unended

end Returns

omit [DecidableEq α] in
theorem not_mem_take_line {text : List α} (unended : newline ∉ text) {n : Nat}
    (short : n < (text ++ [newline]).length) : newline ∉ (text ++ [newline]).take n := by
  rw [List.length_append, List.length_singleton] at short
  rw [List.take_append_of_le_length (by omega)]
  exact fun member => unended (List.mem_of_mem_take member)

end StorageBallast.WholeLines

/-! Output to a file behind a buffer of some capacity. Writing to the file may stop half way,
and then what did not get there stays in the buffer; what file and buffer hold together is the
stream, which only writing changes.
-/

namespace StorageBallast.BufferedOutput

variable {α : Type*}

abbrev Reach := Option Nat

namespace Reach

def covers : Reach → List α → Bool
  | none, _ => true
  | some most, data => decide (data.length ≤ most)

def reached : Reach → List α → List α
  | none, data => data
  | some most, data => data.take most

def unreached : Reach → List α → List α
  | none, _ => []
  | some most, data => data.drop most

theorem reached_append_unreached (reach : Reach) (data : List α)
    : reach.reached data ++ reach.unreached data = data := by
  cases reach with
  | none => exact List.append_nil data
  | some most => exact List.take_append_drop most data

theorem unreached_eq_nil_iff {reach : Reach} {data : List α}
    : reach.unreached data = [] ↔ reach.covers data = true := by
  cases reach with
  | none => simp [unreached, covers]
  | some most => simp [unreached, covers]

theorem reached_of_covers {reach : Reach} {data : List α} (covered : reach.covers data = true)
    : reach.reached data = data := by
  have whole := reached_append_unreached reach data
  rwa [unreached_eq_nil_iff.mpr covered, List.append_nil] at whole

/-- Writing that does not get to the end leaves a proper front of the data. -/
theorem exists_take_of_not_covers {reach : Reach} {data : List α}
    (stopped : reach.covers data = false)
    : ∃ most, most < data.length ∧ reach.reached data = data.take most := by
  cases reach with
  | none => cases stopped
  | some most => exact ⟨most, by simpa [covers] using stopped, rfl⟩

end Reach

def flush (reach : Reach) (file buffer : List α) : List α × List α :=
  (file ++ reach.reached buffer, reach.unreached buffer)

structure Written (α : Type*) where
  file : List α
  buffer : List α
  ok : Bool

/-- Data that fits goes into the buffer. Else the buffer is flushed first, and what exceeds
the capacity goes to the file directly.
-/
def writeAll (capacity : Nat) (flushReach directReach : Reach) (file buffer data : List α)
    : Written α :=
  if data.length < capacity - buffer.length then ⟨file, buffer ++ data, true⟩
  else if capacity - buffer.length < data.length ∧ flushReach.covers buffer = false then
    ⟨(flush flushReach file buffer).1, (flush flushReach file buffer).2, false⟩
  else
    let (file, buffer) :=
      if capacity - buffer.length < data.length then flush flushReach file buffer
      else (file, buffer)
    if capacity ≤ data.length then
      ⟨file ++ directReach.reached data, buffer, directReach.covers data⟩
    else ⟨file, buffer ++ data, true⟩

theorem flush_stream (reach : Reach) (file buffer : List α)
    : (flush reach file buffer).1 ++ (flush reach file buffer).2 = file ++ buffer := by
  rw [flush, List.append_assoc, Reach.reached_append_unreached]

theorem flush_of_covers {reach : Reach} {file buffer : List α}
    (covered : reach.covers buffer = true)
    : flush reach file buffer = (file ++ buffer, []) := by
  rw [flush, Reach.reached_of_covers covered, Reach.unreached_eq_nil_iff.mpr covered]

/-- A write either adds the data to the stream, or fails and adds a proper front of it. -/
theorem writeAll_stream {capacity : Nat} (room : 0 < capacity)
    (flushReach directReach : Reach) (file buffer data : List α)
    : let written := writeAll capacity flushReach directReach file buffer data
      (written.ok = true ∧ written.file ++ written.buffer = file ++ buffer ++ data)
      ∨ (written.ok = false ∧ ∃ most,
          (most = 0 ∨ most < data.length)
          ∧ written.file ++ written.buffer = file ++ buffer ++ data.take most) := by
  unfold writeAll
  split
  · exact .inl ⟨rfl, (List.append_assoc ..).symm⟩
  · rename_i big
    split
    · exact .inr ⟨rfl, 0, .inl rfl, by simp [flush_stream]⟩
    · rename_i flushed
      -- Before data goes to the file directly the buffer is empty.
      have before : ∃ file' buffer' : List α, file' ++ buffer' = file ++ buffer
          ∧ (capacity ≤ data.length → buffer' = [])
          ∧ (if capacity - buffer.length < data.length then flush flushReach file buffer
              else (file, buffer)) = (file', buffer') := by
        by_cases exceeds : capacity - buffer.length < data.length
        · have covered : flushReach.covers buffer = true := by
            by_contra stopped
            exact flushed ⟨exceeds, by simpa using stopped⟩
          rw [if_pos exceeds, flush_of_covers covered]
          exact ⟨file ++ buffer, [], List.append_nil _, fun _ => rfl, rfl⟩
        · rw [if_neg exceeds]
          refine ⟨file, buffer, rfl, fun long => ?_, rfl⟩
          exact List.length_eq_zero_iff.mp (by omega)
      obtain ⟨file', buffer', stream, emptied, same⟩ := before
      rw [same]
      dsimp only
      split
      · rename_i long
        rw [← stream, emptied long, List.append_nil, List.append_nil]
        cases covered : directReach.covers data with
        | true => exact .inl ⟨rfl, by rw [Reach.reached_of_covers covered]⟩
        | false =>
            obtain ⟨most, short, taken⟩ := Reach.exists_take_of_not_covers covered
            exact .inr ⟨rfl, most, .inr short, by rw [taken]⟩
      · exact .inl ⟨rfl, by rw [← List.append_assoc, stream]⟩

end StorageBallast.BufferedOutput
