import StorageBallast.Core.ConfigFile

/-! The tuning command: recommendations from the statistics of time windows, and writing them
into the configuration document.
-/

namespace StorageBallast.Tuning

open scoped Float64
open ConfigFile (Config)
open Sorting (sortBy)

structure DeletionStats (F : Type) where
  count : Nat
  avgScore : F
  failures : Nat

structure BallastStats where
  filesReleased : Nat
  currentInventory : Nat

structure PressureStats (F : Type) where
  timeInYellowPct : F
  timeInOrangePct : F
  timeInRedPct : F
  timeInCriticalPct : F
  transitions : Nat

structure WindowStats (F : Type) where
  window : Duration
  deletions : DeletionStats F
  ballast : BallastStats
  pressure : PressureStats F

def windowOf {F : Type} (stats : List (WindowStats F)) (secs : Nat) : Option (WindowStats F) :=
  stats.find? fun ws => ws.window.asSecs == secs

inductive TuningCategory where
  | ballast
  | threshold
  | scoring
  | kernelWriteback
deriving DecidableEq, Repr

inductive TuningRisk where
  | low
  | medium
  | high
deriving DecidableEq, Repr

structure Recommendation (F : Type) where
  category : TuningCategory
  configKey : String
  currentValue : String
  suggestedValue : String
  rationale : String
  confidence : F
  risk : TuningRisk

def ballastTotalPoolBytes (fileCount fileSizeBytes : Nat) : Nat :=
  if fileCount * fileSizeBytes < 2 ^ 64 then fileCount * fileSizeBytes else 2 ^ 64 - 1

section rules

variable {F : Type} [Float64 F] [RoundingFloat64 F]

def BallastStats.exhausted (self : BallastStats) : Bool :=
  0 < self.filesReleased && self.currentInventory == 0

def WindowStats.ballastIdle (self : WindowStats F) : Bool :=
  self.ballast.filesReleased == 0 && 0 < self.pressure.transitions

def PressureStats.elevatedPct (self : PressureStats F) : F :=
  self.timeInYellowPct + self.timeInOrangePct + self.timeInRedPct + self.timeInCriticalPct

def PressureStats.elevated (self : PressureStats F) : Bool := Float64.gt self.elevatedPct 40.0

def PressureStats.oscillating (self : PressureStats F) : Bool := 10 < self.transitions

def DeletionStats.lowScores (self : DeletionStats F) : Bool :=
  5 < self.count && Float64.lt self.avgScore 0.5

def DeletionStats.failRate (self : DeletionStats F) : F :=
  Float64.ofNat self.failures / Float64.ofNat ((self.count + self.failures) % 2 ^ 64)

def DeletionStats.failing (self : DeletionStats F) : Bool :=
  0 < self.count && Float64.gt self.failRate 0.2

def gibibytes (bytes : Nat) : F := Float64.ofNat bytes / 1073741824.0

def grownFileCount (F : Type) [Float64 F] [RoundingFloat64 F] (fileCount : Nat) : Nat :=
  RoundingFloat64.toNat (RoundingFloat64.ceil (Float64.ofNat fileCount * (1.5 : F)))

def growBallast (config : Config F) (ws : WindowStats F) : Option (Recommendation F) :=
  let suggested := grownFileCount F config.ballast.fileCount
  if ws.ballast.exhausted then
    some {
      category := .ballast
      configKey := "ballast.file_count"
      currentValue := toString config.ballast.fileCount
      suggestedValue := toString suggested
      rationale :=
        "Ballast exhausted — all " ++ toString config.ballast.fileCount
          ++ " files released with no reserve. Increasing to " ++ toString suggested
          ++ " provides buffer for sustained pressure."
      confidence := 0.85
      risk := .low }
  else none

def shrunkFileCount (fileCount : Nat) : Nat := max (fileCount / 2) 3

def shrinkBallast (config : Config F) (week : WindowStats F) : Option (Recommendation F) :=
  let fileCount := config.ballast.fileCount
  let fileSize := config.ballast.fileSizeBytes
  let suggested := shrunkFileCount fileCount
  let poolGb : F := gibibytes (ballastTotalPoolBytes fileCount fileSize)
  let freedGb : F := gibibytes (ballastTotalPoolBytes (fileCount - suggested) fileSize)
  if week.ballastIdle && 3 < fileCount then
    some {
      category := .ballast
      configKey := "ballast.file_count"
      currentValue := toString fileCount
      suggestedValue := toString suggested
      rationale :=
        "Ballast never released in 7 days despite " ++ toString week.pressure.transitions
          ++ " pressure transitions. " ++ Float64.toFixed 1 poolGb
          ++ " GB is reserved but unused. Reducing to " ++ toString suggested
          ++ " files frees " ++ Float64.toFixed 1 freedGb ++ " GB."
      confidence := 0.7
      risk := .medium }
  else none

def steppedDown (x step bottom : F) : F := Float64.max (x - step) bottom

def lowerGreen (config : Config F) (ws : WindowStats F) : Option (Recommendation F) :=
  let green := config.pressure.greenMinFreePct
  let suggested := steppedDown green 3.0 8.0
  if ws.pressure.elevated then
    some {
      category := .threshold
      configKey := "pressure.green_min_free_pct"
      currentValue := Float64.toFixed 1 green
      suggestedValue := Float64.toFixed 1 suggested
      rationale :=
        "System spent " ++ Float64.toFixed 0 ws.pressure.elevatedPct
          ++ "% of the past 24h in elevated pressure. Lowering green threshold from "
          ++ Float64.toFixed 1 green ++ "% to " ++ Float64.toFixed 1 suggested
          ++ "% reduces false alarms while still providing early warning."
      confidence := 0.75
      risk := .medium }
  else none

def lowerYellow (config : Config F) (ws : WindowStats F) : Option (Recommendation F) :=
  let yellow := config.pressure.yellowMinFreePct
  if ws.pressure.oscillating then
    some {
      category := .threshold
      configKey := "pressure.yellow_min_free_pct"
      currentValue := Float64.toFixed 1 yellow
      suggestedValue := Float64.toFixed 1 (steppedDown yellow 2.0 5.0)
      rationale :=
        "Detected " ++ toString ws.pressure.transitions
          ++ " pressure transitions in 24h — likely oscillation. "
          ++ "Widening the gap between thresholds adds hysteresis."
      confidence := 0.7
      risk := .low }
  else none

def steppedUp (x : F) : F := Float64.min (x + 0.1) 0.9

def raiseMinScore (config : Config F) (ws : WindowStats F) : Option (Recommendation F) :=
  let suggested := steppedUp config.scoring.minScore
  if ws.deletions.lowScores then
    some {
      category := .scoring
      configKey := "scoring.min_score"
      currentValue := Float64.toFixed 2 config.scoring.minScore
      suggestedValue := Float64.toFixed 2 suggested
      rationale :=
        "Average deletion score is only " ++ Float64.toFixed 2 ws.deletions.avgScore
          ++ " across " ++ toString ws.deletions.count ++ " recent deletions. Raising min_score to "
          ++ Float64.toFixed 2 suggested ++ " avoids deleting marginal candidates."
      confidence := 0.65
      risk := .medium }
  else none

def raiseMinFileAge (config : Config F) (ws : WindowStats F) : Option (Recommendation F) :=
  let suggested := max config.scanner.minFileAgeMinutes 45
  if ws.deletions.failing && config.scanner.minFileAgeMinutes < suggested then
    some {
      category := .scoring
      configKey := "scanner.min_file_age_minutes"
      currentValue := toString config.scanner.minFileAgeMinutes
      suggestedValue := toString suggested
      rationale :=
        Float64.toFixed 0 (ws.deletions.failRate * 100.0)
          ++ "% of deletion attempts failed (likely in-use files). Increasing min_file_age to "
          ++ toString suggested ++ " minutes gives builds more time to complete."
      confidence := 0.8
      risk := .low }
  else none

/-- What the rules find, in their order: the day for most of them, the week for idle ballast,
the hour for deletions.
-/
def ruleFindings (config : Config F) (stats : List (WindowStats F))
    : List (Recommendation F) :=
  let day := windowOf stats 86400
  let week := windowOf stats 604800
  let hour := windowOf stats 3600
  [ day.bind (growBallast config),
    day.bind fun _ => week.bind (shrinkBallast config),
    day.bind (lowerGreen config),
    day.bind (lowerYellow config),
    hour.bind (raiseMinScore config),
    hour.bind (raiseMinFileAge config) ].reduceOption

def byConfidence (a b : Recommendation F) : Ordering :=
  (Float64.partialCmp b.confidence a.confidence).getD .eq

def generateRecommendations (config : Config F) (stats : List (WindowStats F))
    : List (Recommendation F) :=
  sortBy byConfidence (ruleFindings config stats)

end rules

variable {F : Type} [DecimalFloat64 F]

def parseTomlValue (raw : String) : TomlValue F :=
  match parseBool raw with
  | some b => .boolean b
  | none =>
      match parseI64 raw with
      | some n => .integer n
      | none => (DecimalFloat64.ofText raw).elim (.string raw) .float

def setTomlValue (root : TomlValue F) (dotPath rawValue : String) : Except String (TomlValue F) :=
  TomlValue.setAt (parseTomlValue rawValue) root (dottedParts dotPath)

def applyRecommendations (recs : List (Recommendation F)) (document : TomlValue F)
    : Except String (TomlValue F) :=
  (recs.filter fun rec => rec.category != .kernelWriteback).foldlM
    (fun root rec => setTomlValue root rec.configKey rec.suggestedValue) document

end StorageBallast.Tuning

/-! How far a recommendation moves a value: the steps of thresholds, scores and file counts,
with the rounding of the text in which the new value is written.
-/

namespace StorageBallast.Tuning

open scoped Float64
open ConfigFile (withinRange)

variable {F : Type} [Float64 F] [RoundingFloat64 F] [DecimalFloat64 F] [RoundedFloat64 F]
variable {x : F} {p : ℚ}

theorem value_min {a b : F} {q : ℚ}
    (left : DecimalFloat64.value a = some p) (right : DecimalFloat64.value b = some q)
    : DecimalFloat64.value (Float64.min a b) = some (min p q) := by
  unfold Float64.min
  by_cases below : p ≤ q
  · rw [if_pos ((RoundedFloat64.le_iff left right).mpr below), left, min_eq_left below]
  · have above := (not_le.mp below).le
    rw [if_neg fun le => below ((RoundedFloat64.le_iff left right).mp le),
      if_pos ((RoundedFloat64.le_iff right left).mpr above), right, min_eq_right above]

theorem withinRange_iff {low high : F} {l h : ℚ} (lowValue : DecimalFloat64.value low = some l)
    (highValue : DecimalFloat64.value high = some h)
    : withinRange low high x = true
      ↔ ∃ p, DecimalFloat64.value x = some p ∧ l ≤ p ∧ p ≤ h := by
  rw [withinRange, Bool.and_eq_true]
  constructor
  · rintro ⟨above, below⟩
    obtain ⟨p, value⟩ := RoundedFloat64.value_of_between lowValue highValue above below
    exact ⟨p, value, (RoundedFloat64.le_iff lowValue value).mp above,
      (RoundedFloat64.le_iff value highValue).mp below⟩
  · rintro ⟨p, value, above, below⟩
    exact ⟨(RoundedFloat64.le_iff lowValue value).mpr above,
      (RoundedFloat64.le_iff value highValue).mpr below⟩

theorem value_zero : DecimalFloat64.value (0.0 : F) = some 0 := by
  have zero : decimalValue 0 true 1 = (0 : Nat) := by norm_num [decimalValue]
  have value := value_literal_nat (F := F) zero (by norm_num)
  rw [Nat.cast_zero] at value
  exact value

theorem withinRange_percent
    : withinRange 0.0 100.0 x = true
      ↔ ∃ p, DecimalFloat64.value x = some p ∧ 0 ≤ p ∧ p ≤ 100 := by
  have hundred : decimalValue 1000 true 1 = (100 : Nat) := by norm_num [decimalValue]
  exact withinRange_iff value_zero (value_literal_nat hundred (by norm_num))

theorem withinRange_unit
    : withinRange 0.0 1.0 x = true ↔ ∃ p, DecimalFloat64.value x = some p ∧ 0 ≤ p ∧ p ≤ 1 := by
  have one : decimalValue 10 true 1 = (1 : Nat) := by norm_num [decimalValue]
  have value := value_literal_nat (F := F) one (by norm_num)
  rw [Nat.cast_one] at value
  exact withinRange_iff value_zero value

/-- A percentage that is stepped down and rewritten is smaller exactly if it was above the
bottom of its range.
-/
theorem steppedDown_spec {step bottom : F} {s b : Nat} (number : DecimalFloat64.value x = some p)
    (stepValue : DecimalFloat64.value step = some (s : ℚ))
    (bottomValue : DecimalFloat64.value bottom = some (b : ℚ))
    (nonneg : 0 ≤ p) (percent : p ≤ 100) (stepPos : 1 ≤ s) (stepSmall : s ≤ 100)
    (bottomPos : 1 ≤ b) (bottomSmall : b ≤ 100)
    : ∃ q r, DecimalFloat64.value (steppedDown x step bottom) = some q ∧ 0 < q ∧ q ≤ 100
        ∧ DecimalFloat64.value (rewritten 1 (steppedDown x step bottom)) = some r
        ∧ 0 ≤ r ∧ r ≤ 100 ∧ (r < p ↔ (b : ℚ) < p) := by
  have stepPos' : (1 : ℚ) ≤ s := by exact_mod_cast stepPos
  have stepSmall' : (s : ℚ) ≤ 100 := by exact_mod_cast stepSmall
  have bottomPos' : (1 : ℚ) ≤ b := by exact_mod_cast bottomPos
  -- the whole number next above the difference; it is less than the number itself
  obtain ⟨m, top⟩ : ∃ m : Nat, m = ⌈p - s⌉.toNat := ⟨_, rfl⟩
  have reaches : p - s ≤ m := by
    rw [top]
    exact (Int.le_ceil _).trans (by exact_mod_cast Int.self_le_toNat _)
  have mSmall : m ≤ 100 := by
    have : ⌈p - s⌉ ≤ 100 := Int.ceil_le.mpr (by push_cast; linarith)
    omega
  obtain ⟨d, difference, dAbove, dBelow⟩ : ∃ d, DecimalFloat64.value (x - step) = some d
      ∧ gridPoint (-100 * 2 ^ 20) ≤ d ∧ d ≤ gridPoint (m * 2 ^ 20) := by
    rw [RoundedFloat64.value_sub number stepValue]
    refine round_between (by decide) (by omega) ?_ ?_
    · norm_num [gridPoint]
      linarith
    · rw [gridPoint]
      push_cast
      linarith
  have dBelow' : d ≤ m := by
    rw [gridPoint] at dBelow
    push_cast at dBelow
    linarith
  have stepped : DecimalFloat64.value (steppedDown x step bottom) = some (max d b) :=
    value_max difference bottomValue
  have positive : 0 < max d (b : ℚ) := lt_max_of_lt_right (by linarith)
  have bounded : max d (b : ℚ) ≤ (max m b : Nat) := by
    rw [Nat.cast_max]
    exact max_le_max_right _ dBelow'
  obtain ⟨r, value, above, below⟩ := rewritten_between stepped positive
    (le_max_right d (b : ℚ)) bounded (by omega) (by norm_num : 0 < 1)
  have small : ((max m b : Nat) : ℚ) ≤ 100 := by exact_mod_cast (by omega : max m b ≤ 100)
  refine ⟨_, r, stepped, positive, bounded.trans small, value, by linarith,
    below.trans small, ?_, ?_⟩
  · exact above.trans_lt
  · intro room
    have mLess : (m : ℚ) < p := by
      rw [top]
      rcases le_or_gt ⌈p - s⌉ 0 with negative | positive
      · rw [Int.toNat_of_nonpos negative, Nat.cast_zero]
        linarith
      · have same : ((⌈p - s⌉.toNat : Nat) : ℚ) = ⌈p - s⌉ := by
          exact_mod_cast congrArg (Int.cast (R := ℚ)) (Int.toNat_of_nonneg positive.le)
        have := Int.ceil_lt_add_one (p - s)
        rw [same]
        linarith
    rw [Nat.cast_max] at below
    exact below.trans_lt (max_lt mLess room)

/-- The grid points around the top of the range of scores, and around the step. -/
theorem value_scoreTop
    : ∃ n, DecimalFloat64.value (0.9 : F) = some n
        ∧ gridPoint 943718 ≤ n ∧ n ≤ gridPoint 943719 := by
  have above : gridPoint 943718 ≤ decimalValue 9 true 1 := by norm_num [gridPoint, decimalValue]
  have below : decimalValue 9 true 1 ≤ gridPoint 943719 := by norm_num [gridPoint, decimalValue]
  obtain ⟨n, value, bounds⟩ := round_between (F := F) (by decide) (by decide) above below
  exact ⟨n, (RoundedFloat64.value_decimal 9 true 1).trans value, bounds⟩

theorem value_scoreStep
    : ∃ t, DecimalFloat64.value (0.1 : F) = some t
        ∧ gridPoint 104857 ≤ t ∧ t ≤ gridPoint 104858 := by
  have above : gridPoint 104857 ≤ decimalValue 1 true 1 := by norm_num [gridPoint, decimalValue]
  have below : decimalValue 1 true 1 ≤ gridPoint 104858 := by norm_num [gridPoint, decimalValue]
  obtain ⟨t, value, bounds⟩ := round_between (F := F) (by decide) (by decide) above below
  exact ⟨t, (RoundedFloat64.value_decimal 1 true 1).trans value, bounds⟩

theorem rewritten_scoreTop {q n r : ℚ} (top : DecimalFloat64.value (0.9 : F) = some n)
    (same : q = n) (number : DecimalFloat64.value x = some q)
    (value : DecimalFloat64.value (rewritten 2 x) = some r) : r = n := by
  obtain ⟨n', top', low, high⟩ := value_scoreTop (F := F)
  cases top.symm.trans top'
  subst same
  norm_num [gridPoint] at low high
  obtain ⟨numeral, r', _, _, nearest, value', rounded⟩ :=
    rewritten_spec number (by linarith) (by linarith) (by norm_num : 0 < 2)
  cases value.symm.trans value'
  have halfway := abs_le.mp nearest
  have ninety : numeral = 90 := by
    have upper : (numeral : ℚ) < 91 := by linarith
    have lower : (89 : ℚ) < numeral := by linarith
    have upper' : numeral < 91 := by exact_mod_cast upper
    have lower' : 89 < numeral := by exact_mod_cast lower
    omega
  have literal : (numeral / 10 ^ 2 : ℚ) = decimalValue 9 true 1 := by
    norm_num [ninety, decimalValue]
  rw [literal, ← RoundedFloat64.value_decimal] at rounded
  exact Option.some.inj (rounded.symm.trans top)

/-- A score that is stepped up and rewritten is greater exactly if it was below the top of its
range.
-/
theorem steppedUp_spec (number : DecimalFloat64.value x = some p) (nonneg : 0 ≤ p)
    (probability : p ≤ 1)
    : ∃ q r n, DecimalFloat64.value (steppedUp x) = some q ∧ 0 < q ∧ q ≤ 1
        ∧ DecimalFloat64.value (rewritten 2 (steppedUp x)) = some r ∧ 0 ≤ r ∧ r ≤ 1
        ∧ DecimalFloat64.value (0.9 : F) = some n ∧ (p < r ↔ p < n) := by
  obtain ⟨n, top, topLow, topHigh⟩ := value_scoreTop (F := F)
  obtain ⟨t, step, stepLow, stepHigh⟩ := value_scoreStep (F := F)
  norm_num [gridPoint] at topLow topHigh stepLow stepHigh
  obtain ⟨s, sum, sumAbove, _⟩ : ∃ s, DecimalFloat64.value (x + 0.1) = some s
      ∧ gridPoint ⌊(p + t) * 2 ^ 20⌋ ≤ s ∧ s ≤ gridPoint (2 * 2 ^ 20) := by
    rw [RoundedFloat64.value_add number step]
    have floorNonneg : 0 ≤ ⌊(p + t) * 2 ^ 20⌋ := Int.floor_nonneg.mpr (by positivity)
    have floorSmall : ⌊(p + t) * 2 ^ 20⌋ ≤ 2 * 2 ^ 20 := by
      refine Int.floor_le_iff.mpr ?_
      push_cast
      linarith
    refine round_between (by omega) (by decide) ?_ ?_
    · rw [gridPoint, div_le_iff₀ (by positivity)]
      exact Int.floor_le _
    · norm_num [gridPoint]
      linarith
  have near : p + t - 1 / 2 ^ 20 < s := by
    have next := Int.lt_floor_add_one ((p + t) * 2 ^ 20)
    rw [gridPoint, div_le_iff₀ (by positivity)] at sumAbove
    linarith
  have stepped : DecimalFloat64.value (steppedUp x) = some (min s n) := value_min sum top
  have positive : 0 < min s n := lt_min (by linarith) (by linarith)
  have below : min s n ≤ 1 := (min_le_right _ _).trans (by linarith)
  have above : ((0 : Nat) : ℚ) ≤ min s n := by simpa using positive.le
  have below' : min s n ≤ (1 : Nat) := by simpa using below
  obtain ⟨r, value, above, bounded⟩ :=
    rewritten_between stepped positive above below' (by norm_num) (by norm_num : 0 < 2)
  refine ⟨_, r, n, stepped, positive, below, value, by simpa using above,
    by simpa using bounded, top, ?_⟩
  rcases le_or_gt n s with reached | short
  · have kept := rewritten_scoreTop top (min_eq_right reached) stepped value
    rw [kept]
  · rw [min_eq_left short.le] at stepped positive below
    obtain ⟨numeral, r', _, _, nearest, value', rounded⟩ :=
      rewritten_spec stepped positive (by linarith) (by norm_num : 0 < 2)
    cases value.symm.trans value'
    have halfway := (abs_le.mp nearest).1
    -- the grid point next above the score is not above the numeral that is written
    have floorNonneg : 0 ≤ ⌊p * 2 ^ 20⌋ := Int.floor_nonneg.mpr (by positivity)
    have floorSmall : ⌊p * 2 ^ 20⌋ ≤ 2 ^ 20 := by
      refine Int.floor_le_iff.mpr ?_
      push_cast
      linarith
    have floorBelow := Int.floor_le (p * 2 ^ 20)
    have floorAbove := Int.lt_floor_add_one (p * 2 ^ 20)
    have stone : gridPoint (⌊p * 2 ^ 20⌋ + 1) ≤ (numeral / 10 ^ 2 : ℚ) := by
      rw [gridPoint, div_le_div_iff₀ (by positivity) (by positivity)]
      push_cast
      norm_num at *
      linarith
    have pointValue := RoundedFloat64.round_grid (F := F) (n := ⌊p * 2 ^ 20⌋ + 1) (by omega)
    have raised := (RoundedFloat64.le_iff pointValue rounded).mp (RoundedFloat64.round_mono stone)
    have less : p < gridPoint (⌊p * 2 ^ 20⌋ + 1) := by
      rw [gridPoint, lt_div_iff₀ (by positivity)]
      push_cast
      exact floorAbove
    exact iff_of_true (less.trans_le raised) (by linarith)

theorem grownFileCount_eq {n : Nat} (small : n ≤ 2 ^ 30)
    : grownFileCount F n = (3 * n + 1) / 2 := by
  have factor : DecimalFloat64.value (1.5 : F) = some (3 / 2) := by
    have half : decimalValue 15 true 1 = 3 / 2 := by norm_num [decimalValue]
    have point : (3 / 2 : ℚ) = gridPoint (3 * 2 ^ 19) := by norm_num [gridPoint]
    refine (RoundedFloat64.value_decimal 15 true 1).trans ?_
    rw [half]
    exact round_gridPoint (by decide) point
  have count : DecimalFloat64.value (Float64.ofNat n : F) = some (n : ℚ) := by
    rw [RoundedFloat64.value_ofNat]
    exact round_nat (small.trans (by norm_num))
  have product : DecimalFloat64.value (Float64.ofNat n * (1.5 : F)) = some (n * (3 / 2) : ℚ) := by
    rw [RoundedFloat64.value_mul count factor]
    refine round_gridPoint (n := 3 * n * 2 ^ 19) (by omega) ?_
    rw [gridPoint]
    push_cast
    ring
  have real : (n : ℚ) ≤ 2 ^ 30 := by exact_mod_cast small
  have ceiling : ⌈(n * (3 / 2) : ℚ)⌉ = ((3 * n + 1) / 2 : Nat) := by
    obtain ⟨half, halves⟩ : ∃ half, half = (3 * n + 1) / 2 := ⟨_, rfl⟩
    have twice : 2 * half = 3 * n ∨ 2 * half = 3 * n + 1 := by omega
    rw [← halves, Int.ceil_eq_iff]
    push_cast
    rcases twice with even | odd
    · have even' : (2 : ℚ) * half = 3 * n := by exact_mod_cast even
      constructor <;> linarith
    · have odd' : (2 : ℚ) * half = 3 * n + 1 := by exact_mod_cast odd
      constructor <;> linarith
  rw [grownFileCount, RoundedFloat64.toNat_ceil product (by linarith), ceiling]
  exact Int.toNat_natCast _

end StorageBallast.Tuning
