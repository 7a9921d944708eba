import StorageBallast.Cli.Tuning
import StorageBallast.Core.ConfigUpdates

/-! What applying the recommendations does to a valid configuration. A rule looks at one key,
and the checks relate keys to each other, so the outcome depends on how far the keys are
apart and on which rules fire together.
-/

namespace StorageBallast.Tuning

open scoped Float64
open ConfigFile (Config LoadContext TunedKey TunedValues)

variable {F : Type} [Float64 F] [RoundingFloat64 F] [DecimalFloat64 F]

/-! What is asked of the recommendations -/

def tunedKeys : List TunedKey :=
  [.fileCount, .greenMinFreePct, .yellowMinFreePct, .minScore, .minFileAgeMinutes]

def valueAt {F : Type} (config : Config F) (key : String) : Option (TomlValue F) :=
  (tunedKeys.find? fun tuned => tuned.text == key).map config.tunedValues.get

inductive Direction where
  | up
  | down
deriving DecidableEq, Repr

def Recommendation.statedDirection {F : Type} (rec : Recommendation F) : Direction :=
  if rec.configKey = "scoring.min_score" ∨ rec.configKey = "scanner.min_file_age_minutes" then .up
  else if Texts.startsWith rec.rationale "Ballast exhausted" then .up
  else .down

def lessThan : TomlValue F → TomlValue F → Prop
  | .integer m, .integer n => m < n
  | .float x, .float y => Float64.lt x y = true
  | _, _ => False

def Recommendation.ChangesAsStated (config : Config F) (rec : Recommendation F) : Prop :=
  ∃ current, valueAt config rec.configKey = some current
    ∧ match rec.statedDirection with
      | .up => lessThan current (parseTomlValue rec.suggestedValue)
      | .down => lessThan (parseTomlValue rec.suggestedValue) current

/-- The recommendations for a configuration can be applied to its document: each key comes up
once and moves as stated, and the document that results loads with every suggested value.
-/
structure AppliesCleanly (context : LoadContext) (document : TomlValue F) (config : Config F)
    (stats : List (WindowStats F)) : Prop where
  distinct : ((generateRecommendations config stats).map (·.configKey)).Nodup
  as_stated : ∀ rec ∈ generateRecommendations config stats, rec.ChangesAsStated config
  accepted : ∃ changed loaded,
    applyRecommendations (generateRecommendations config stats) document = .ok changed
    ∧ Config.load context changed = .ok loaded
    ∧ ∀ rec ∈ generateRecommendations config stats,
        valueAt loaded rec.configKey = some (parseTomlValue rec.suggestedValue)

/-! Rules -/

inductive Rule where
  | growBallast
  | shrinkBallast
  | lowerGreen
  | lowerYellow
  | raiseMinScore
  | raiseMinFileAge
deriving DecidableEq, Repr

namespace Rule

def all : List Rule :=
  [growBallast, shrinkBallast, lowerGreen, lowerYellow, raiseMinScore, raiseMinFileAge]

theorem mem_all (rule : Rule) : rule ∈ all := by
  cases rule <;> decide

def key : Rule → TunedKey
  | growBallast | shrinkBallast => .fileCount
  | lowerGreen => .greenMinFreePct
  | lowerYellow => .yellowMinFreePct
  | raiseMinScore => .minScore
  | raiseMinFileAge => .minFileAgeMinutes

theorem eq_of_key_eq {rule other : Rule} (same : rule.key = other.key)
    : rule = other ∨ (rule = growBallast ∧ other = shrinkBallast)
      ∨ (rule = shrinkBallast ∧ other = growBallast) := by
  revert same
  cases rule <;> cases other <;> decide

def direction : Rule → Direction
  | growBallast | raiseMinScore | raiseMinFileAge => .up
  | shrinkBallast | lowerGreen | lowerYellow => .down

/-- When a rule speaks up. -/
def fires {F : Type} [Float64 F] (config : Config F) (stats : List (WindowStats F))
    : Rule → Bool
  | growBallast => (windowOf stats 86400).any fun day => day.ballast.exhausted
  | shrinkBallast =>
      (windowOf stats 86400).isSome
        && (windowOf stats 604800).any fun week =>
            week.ballastIdle && 3 < config.ballast.fileCount
  | lowerGreen => (windowOf stats 86400).any fun day => day.pressure.elevated
  | lowerYellow => (windowOf stats 86400).any fun day => day.pressure.oscillating
  | raiseMinScore => (windowOf stats 3600).any fun hour => hour.deletions.lowScores
  | raiseMinFileAge =>
      (windowOf stats 3600).any fun hour =>
        hour.deletions.failing && config.scanner.minFileAgeMinutes < 45

def find (config : Config F) (stats : List (WindowStats F)) : Rule → Option (Recommendation F)
  | growBallast => (windowOf stats 86400).bind (Tuning.growBallast config)
  | shrinkBallast =>
      (windowOf stats 86400).bind fun _ =>
        (windowOf stats 604800).bind (Tuning.shrinkBallast config)
  | lowerGreen => (windowOf stats 86400).bind (Tuning.lowerGreen config)
  | lowerYellow => (windowOf stats 86400).bind (Tuning.lowerYellow config)
  | raiseMinScore => (windowOf stats 3600).bind (Tuning.raiseMinScore config)
  | raiseMinFileAge => (windowOf stats 3600).bind (Tuning.raiseMinFileAge config)

def suggestedText (config : Config F) : Rule → String
  | growBallast => toString (grownFileCount F config.ballast.fileCount)
  | shrinkBallast => toString (shrunkFileCount config.ballast.fileCount)
  | lowerGreen => Float64.toFixed 1 (steppedDown config.pressure.greenMinFreePct 3.0 8.0)
  | lowerYellow => Float64.toFixed 1 (steppedDown config.pressure.yellowMinFreePct 2.0 5.0)
  | raiseMinScore => Float64.toFixed 2 (steppedUp config.scoring.minScore)
  | raiseMinFileAge => toString (max config.scanner.minFileAgeMinutes 45)

variable {config : Config F} {stats : List (WindowStats F)}

omit [DecimalFloat64 F] in
theorem ruleFindings_eq : ruleFindings config stats = all.filterMap (find config stats) := rfl

structure Speaks (config : Config F) (rule : Rule) (rec : Recommendation F) : Prop where
  configKey : rec.configKey = rule.key.text
  category : rec.category ≠ .kernelWriteback
  direction : rec.statedDirection = rule.direction
  suggestedValue : rec.suggestedValue = rule.suggestedText config

omit [Float64 F] [RoundingFloat64 F] [DecimalFloat64 F] in
theorem startsWith_append {front back start : String}
    (long : start.toList.length ≤ front.toList.length)
    : Texts.startsWith (front ++ back) start = Texts.startsWith front start := by
  unfold Texts.startsWith
  rw [Bool.eq_iff_iff, List.isPrefixOf_iff_prefix, List.isPrefixOf_iff_prefix,
    String.toList_append]
  constructor
  · exact fun pre => List.prefix_of_prefix_length_le pre (List.prefix_append _ _) long
  · exact fun pre => pre.trans (List.prefix_append _ _)

omit [Float64 F] [RoundingFloat64 F] [DecimalFloat64 F] in
theorem not_startsWith_append {front back start : String}
    (short : front.toList.length ≤ start.toList.length)
    (other : ¬ front.toList <+: start.toList)
    : Texts.startsWith (front ++ back) start = false := by
  rw [Bool.eq_false_iff, Ne, Texts.startsWith, List.isPrefixOf_iff_prefix, String.toList_append]
  exact fun pre =>
    other (List.prefix_of_prefix_length_le (List.prefix_append _ _) pre short)

omit [DecimalFloat64 F] in
/-- A rule that looks at one window speaks exactly if the window shows what it looks for. -/
theorem speaks_of_guard {α : Type} {rule : Rule} (window : Option α) (guard : α → Bool)
    {make : α → Recommendation F} (speaks : ∀ w, rule.Speaks config (make w))
    : (window.any guard = false
        ∧ (window.bind fun w => if guard w then some (make w) else none) = none)
      ∨ (window.any guard = true
        ∧ ∃ rec, (window.bind fun w => if guard w then some (make w) else none) = some rec
          ∧ rule.Speaks config rec) := by
  cases window with
  | none => exact .inl ⟨rfl, rfl⟩
  | some w =>
      cases shown : guard w with
      | false => simp [shown]
      | true => simpa [shown] using speaks w

variable (config stats) in
omit [DecimalFloat64 F] in
theorem find_spec (rule : Rule)
    : (rule.fires config stats = false ∧ rule.find config stats = none)
      ∨ (rule.fires config stats = true
        ∧ ∃ rec, rule.find config stats = some rec ∧ rule.Speaks config rec) := by
  cases rule with
  | growBallast =>
      refine speaks_of_guard (windowOf stats 86400) _ fun day => ⟨rfl, nofun, ?_, rfl⟩
      simp only [Recommendation.statedDirection, String.append_assoc]
      rw [startsWith_append (by decide)]
      rfl
  | shrinkBallast =>
      unfold fires find
      cases windowOf stats 86400 with
      | none => exact .inl ⟨rfl, rfl⟩
      | some day =>
          refine speaks_of_guard (windowOf stats 604800) _ fun week => ⟨rfl, nofun, ?_, rfl⟩
          simp only [Recommendation.statedDirection, String.append_assoc]
          rw [startsWith_append (by decide)]
          rfl
  | lowerGreen =>
      refine speaks_of_guard (windowOf stats 86400) _ fun day => ⟨rfl, nofun, ?_, rfl⟩
      simp only [Recommendation.statedDirection, String.append_assoc]
      rw [not_startsWith_append (by decide) (by decide)]
      rfl
  | lowerYellow =>
      refine speaks_of_guard (windowOf stats 86400) _ fun day => ⟨rfl, nofun, ?_, rfl⟩
      simp only [Recommendation.statedDirection, String.append_assoc]
      rw [not_startsWith_append (by decide) (by decide)]
      rfl
  | raiseMinScore =>
      exact speaks_of_guard (windowOf stats 3600) _ fun hour => ⟨rfl, nofun, rfl, rfl⟩
  | raiseMinFileAge =>
      have older : config.scanner.minFileAgeMinutes < max config.scanner.minFileAgeMinutes 45
          ↔ config.scanner.minFileAgeMinutes < 45 := by omega
      unfold fires find Tuning.raiseMinFileAge
      simp only [older]
      exact speaks_of_guard (windowOf stats 3600) _ fun hour => ⟨rfl, nofun, rfl, rfl⟩

end Rule

/-! Suggested values -/

omit [Float64 F] [RoundingFloat64 F] [DecimalFloat64 F] in
theorem valueAt_text (config : Config F) (key : TunedKey)
    : valueAt config key.text = some (config.tunedValues.get key) := by
  cases key <;> rfl

omit [Float64 F] [RoundingFloat64 F] in
theorem parseTomlValue_toString {n : Nat} (small : n < 2 ^ 63)
    : parseTomlValue (toString n) = (.integer n : TomlValue F) := by
  rw [parseTomlValue, parseBool_toString, parseI64_toString small]

section numbers

variable [RoundedFloat64 F]

theorem parseTomlValue_toFixed {digits : Nat} {x : F} {p : ℚ}
    (number : DecimalFloat64.value x = some p) (positive : 0 < p) (small : p ≤ 2 ^ 20)
    (point : 0 < digits)
    : parseTomlValue (Float64.toFixed digits x) = .float (rewritten digits x) := by
  obtain ⟨numeral, _, text, read, _⟩ := rewritten_spec number positive small point
  have dot := dot_mem_decimalText digits numeral
  rw [parseTomlValue, text, parseBool_of_dot dot, parseI64_of_dot dot, read]
  rfl

structure Numbers (config : Config F) (green yellow orange score : ℚ) : Prop where
  green_value : DecimalFloat64.value config.pressure.greenMinFreePct = some green
  yellow_value : DecimalFloat64.value config.pressure.yellowMinFreePct = some yellow
  orange_value : DecimalFloat64.value config.pressure.orangeMinFreePct = some orange
  score_value : DecimalFloat64.value config.scoring.minScore = some score
  green_le : green ≤ 100
  yellow_lt : yellow < green
  orange_lt : orange < yellow
  orange_nonneg : 0 ≤ orange
  score_nonneg : 0 ≤ score
  score_le : score ≤ 1
  count_pos : 0 < config.ballast.fileCount
  count_le : config.ballast.fileCount ≤ 100000
  below_floor : Float64.gt config.scoring.minScore config.scoring.calibrationFloor = false

theorem exists_numbers {compile : String → Except SbhError Unit} {config : Config F}
    (valid : config.validate compile = .ok ())
    : ∃ green yellow orange score, Numbers config green yellow orange score := by
  obtain ⟨pressure, _, scores, _, _, _, _, ballast, _⟩ :=
    ConfigFile.Config.validate_eq_ok.mp valid
  obtain ⟨⟨green, yellow, orange, _⟩, descending, _⟩ :=
    ConfigFile.PressureConfig.validate_eq_ok.mp pressure
  obtain ⟨score, _, floor⟩ := ConfigFile.validateScores_eq_ok.mp scores
  obtain ⟨⟨count, _⟩, few, _⟩ := ConfigFile.BallastConfig.validate_eq_ok.mp ballast
  obtain ⟨g, gValue, _, gLe⟩ := withinRange_percent.mp green
  obtain ⟨y, yValue, _, _⟩ := withinRange_percent.mp yellow
  obtain ⟨o, oValue, oNonneg, _⟩ := withinRange_percent.mp orange
  obtain ⟨m, mValue, mNonneg, mLe⟩ := withinRange_unit.mp score
  simp only [ConfigFile.PressureConfig.descending, Bool.and_eq_true] at descending
  exact ⟨g, y, o, m, gValue, yValue, oValue, mValue, gLe,
    (RoundedFloat64.lt_iff yValue gValue).mp descending.1.1,
    (RoundedFloat64.lt_iff oValue yValue).mp descending.1.2,
    oNonneg, mNonneg, mLe, Nat.pos_of_ne_zero count, few, floor⟩

variable {config : Config F} {stats : List (WindowStats F)} {green yellow orange score : ℚ}

def loweredGreen (config : Config F) : F :=
  rewritten 1 (steppedDown config.pressure.greenMinFreePct 3.0 8.0)

def loweredYellow (config : Config F) : F :=
  rewritten 1 (steppedDown config.pressure.yellowMinFreePct 2.0 5.0)

def raisedMinScore (config : Config F) : F := rewritten 2 (steppedUp config.scoring.minScore)

def Rule.suggested (config : Config F) : Rule → TomlValue F
  | growBallast => .integer ((3 * config.ballast.fileCount + 1) / 2 : Nat)
  | shrinkBallast => .integer (shrunkFileCount config.ballast.fileCount : Nat)
  | lowerGreen => .float (loweredGreen config)
  | lowerYellow => .float (loweredYellow config)
  | raiseMinScore => .float (raisedMinScore config)
  | raiseMinFileAge => .integer (max config.scanner.minFileAgeMinutes 45 : Nat)

/-- A value can move in the direction of a rule: it is not at the end of the rule's range yet.
-/
def Rule.hasRoom (config : Config F) : Rule → Bool
  | lowerGreen => Float64.lt 8.0 config.pressure.greenMinFreePct
  | lowerYellow => Float64.lt 5.0 config.pressure.yellowMinFreePct
  | raiseMinScore => Float64.lt config.scoring.minScore 0.9
  | growBallast | shrinkBallast | raiseMinFileAge => true

namespace Numbers

variable (numbers : Numbers config green yellow orange score)

include numbers

theorem loweredGreen_spec
    : ∃ q r, DecimalFloat64.value (steppedDown config.pressure.greenMinFreePct 3.0 8.0) = some q
        ∧ 0 < q ∧ q ≤ 100 ∧ DecimalFloat64.value (loweredGreen config) = some r
        ∧ 0 ≤ r ∧ r ≤ 100 ∧ (r < green ↔ 8 < green) := by
  have three : decimalValue 30 true 1 = (3 : Nat) := by norm_num [decimalValue]
  have eight : decimalValue 80 true 1 = (8 : Nat) := by norm_num [decimalValue]
  have nonneg : 0 ≤ green := by
    linarith [numbers.orange_nonneg, numbers.orange_lt, numbers.yellow_lt]
  exact steppedDown_spec numbers.green_value (value_literal_nat three (by norm_num))
    (value_literal_nat eight (by norm_num)) nonneg numbers.green_le (by norm_num) (by norm_num)
    (by norm_num) (by norm_num)

theorem loweredYellow_spec
    : ∃ q r, DecimalFloat64.value (steppedDown config.pressure.yellowMinFreePct 2.0 5.0) = some q
        ∧ 0 < q ∧ q ≤ 100 ∧ DecimalFloat64.value (loweredYellow config) = some r
        ∧ 0 ≤ r ∧ r ≤ 100 ∧ (r < yellow ↔ 5 < yellow) := by
  have two : decimalValue 20 true 1 = (2 : Nat) := by norm_num [decimalValue]
  have five : decimalValue 50 true 1 = (5 : Nat) := by norm_num [decimalValue]
  have nonneg : 0 ≤ yellow := by linarith [numbers.orange_nonneg, numbers.orange_lt]
  have percent : yellow ≤ 100 := by linarith [numbers.green_le, numbers.yellow_lt]
  exact steppedDown_spec numbers.yellow_value (value_literal_nat two (by norm_num))
    (value_literal_nat five (by norm_num)) nonneg percent (by norm_num) (by norm_num)
    (by norm_num) (by norm_num)

theorem grownFileCount_eq
    : grownFileCount F config.ballast.fileCount = (3 * config.ballast.fileCount + 1) / 2 :=
  Tuning.grownFileCount_eq (numbers.count_le.trans (by norm_num))

omit numbers [RoundingFloat64 F] [DecimalFloat64 F] [RoundedFloat64 F] in
theorem young_of_fires (fires : Rule.raiseMinFileAge.fires config stats = true)
    : config.scanner.minFileAgeMinutes < 45 := by
  unfold Rule.fires at fires
  cases windowed : windowOf stats 3600 with
  | none => simp [windowed] at fires
  | some hour =>
      simp only [windowed, Option.any_some, Bool.and_eq_true, decide_eq_true_eq] at fires
      exact fires.2

omit numbers [RoundingFloat64 F] [DecimalFloat64 F] [RoundedFloat64 F] in
theorem many_of_fires (fires : Rule.shrinkBallast.fires config stats = true)
    : 3 < config.ballast.fileCount := by
  unfold Rule.fires at fires
  cases windowed : windowOf stats 604800 with
  | none => simp [windowed] at fires
  | some week =>
      simp only [windowed, Option.any_some, Bool.and_eq_true, decide_eq_true_eq] at fires
      exact fires.2.2

theorem parse_suggestedText {rule : Rule} (fires : rule.fires config stats = true)
    : parseTomlValue (rule.suggestedText config) = rule.suggested config := by
  have count := numbers.count_le
  cases rule with
  | growBallast =>
      rw [Rule.suggestedText, numbers.grownFileCount_eq]
      exact parseTomlValue_toString (by omega)
  | shrinkBallast => exact parseTomlValue_toString (by unfold shrunkFileCount; omega)
  | lowerGreen =>
      obtain ⟨q, r, value, positive, small, _⟩ := numbers.loweredGreen_spec
      exact parseTomlValue_toFixed value positive (by linarith) (by norm_num)
  | lowerYellow =>
      obtain ⟨q, r, value, positive, small, _⟩ := numbers.loweredYellow_spec
      exact parseTomlValue_toFixed value positive (by linarith) (by norm_num)
  | raiseMinScore =>
      obtain ⟨q, r, n, value, positive, small, _⟩ :=
        steppedUp_spec numbers.score_value numbers.score_nonneg numbers.score_le
      exact parseTomlValue_toFixed value positive (by linarith) (by norm_num)
  | raiseMinFileAge =>
      have young := young_of_fires fires
      exact parseTomlValue_toString (by omega)

omit [RoundingFloat64 F] [RoundedFloat64 F] in
theorem fits {rule : Rule} (fires : rule.fires config stats = true)
    : rule.key.Fits (rule.suggested config) := by
  have count := numbers.count_le
  cases rule with
  | growBallast =>
      simp only [Rule.key, Rule.suggested, TunedKey.Fits]
      omega
  | shrinkBallast =>
      simp only [Rule.key, Rule.suggested, TunedKey.Fits, shrunkFileCount]
      omega
  | lowerGreen | lowerYellow | raiseMinScore => trivial
  | raiseMinFileAge =>
      have young := young_of_fires fires
      simp only [Rule.key, Rule.suggested, TunedKey.Fits]
      omega

/-- A suggestion lies on the stated side of the present value, if the rule has room to move
that value.
-/
theorem changesAsStated_iff {rule : Rule} {rec : Recommendation F}
    (fires : rule.fires config stats = true) (speaks : rule.Speaks config rec)
    : rec.ChangesAsStated config ↔ rule.hasRoom config = true := by
  have count := numbers.count_pos
  rw [Recommendation.ChangesAsStated, speaks.configKey, valueAt_text, speaks.direction,
    speaks.suggestedValue, numbers.parse_suggestedText fires]
  simp only [Option.some.injEq, exists_eq_left']
  cases rule with
  | growBallast =>
      refine iff_of_true ?_ rfl
      simp only [Rule.direction, Rule.key, Rule.suggested, TunedValues.get, lessThan,
        Config.tunedValues]
      omega
  | shrinkBallast =>
      have many := many_of_fires fires
      refine iff_of_true ?_ rfl
      simp only [Rule.direction, Rule.key, Rule.suggested, TunedValues.get, lessThan,
        Config.tunedValues, shrunkFileCount]
      omega
  | lowerGreen =>
      obtain ⟨q, r, _, _, _, value, _, _, moves⟩ := numbers.loweredGreen_spec
      have eight : decimalValue 80 true 1 = (8 : Nat) := by norm_num [decimalValue]
      have bottom := value_literal_nat (F := F) eight (by norm_num)
      exact (RoundedFloat64.lt_iff value numbers.green_value).trans
        (moves.trans (RoundedFloat64.lt_iff bottom numbers.green_value).symm)
  | lowerYellow =>
      obtain ⟨q, r, _, _, _, value, _, _, moves⟩ := numbers.loweredYellow_spec
      have five : decimalValue 50 true 1 = (5 : Nat) := by norm_num [decimalValue]
      have bottom := value_literal_nat (F := F) five (by norm_num)
      exact (RoundedFloat64.lt_iff value numbers.yellow_value).trans
        (moves.trans (RoundedFloat64.lt_iff bottom numbers.yellow_value).symm)
  | raiseMinScore =>
      obtain ⟨q, r, n, _, _, _, value, _, _, top, moves⟩ :=
        steppedUp_spec numbers.score_value numbers.score_nonneg numbers.score_le
      exact (RoundedFloat64.lt_iff numbers.score_value value).trans
        (moves.trans (RoundedFloat64.lt_iff numbers.score_value top).symm)
  | raiseMinFileAge =>
      have young := young_of_fires fires
      refine iff_of_true ?_ rfl
      simp only [Rule.direction, Rule.key, Rule.suggested, TunedValues.get, lessThan,
        Config.tunedValues]
      omega

end Numbers

end numbers

/-! Keys that come up -/

section keys

variable {config : Config F} {stats : List (WindowStats F)}

omit [DecimalFloat64 F] in
theorem mem_generateRecommendations {rec : Recommendation F}
    : rec ∈ generateRecommendations config stats
      ↔ ∃ rule : Rule, rule.fires config stats = true ∧ rule.find config stats = some rec
          ∧ rule.Speaks config rec := by
  rw [generateRecommendations, Sorting.mem_sortBy, Rule.ruleFindings_eq, List.mem_filterMap]
  constructor
  · rintro ⟨rule, _, found⟩
    rcases Rule.find_spec config stats rule with ⟨_, silent⟩ | ⟨fires, rec', found', speaks⟩
    · rw [silent] at found
      cases found
    · cases found.symm.trans found'
      exact ⟨rule, fires, found, speaks⟩
  · rintro ⟨rule, _, found, _⟩
    exact ⟨rule, rule.mem_all, found⟩

omit [DecimalFloat64 F] in
theorem keys_filterMap (rules : List Rule)
    : (rules.filterMap (Rule.find config stats)).map (·.configKey)
      = (rules.filter (Rule.fires config stats)).map (·.key.text) := by
  induction rules with
  | nil => rfl
  | cons rule rest ih =>
      rcases Rule.find_spec config stats rule with ⟨quiet, silent⟩ | ⟨fires, rec, found, speaks⟩
      · rw [List.filterMap_cons_none silent, List.filter_cons_of_neg (by simp [quiet]), ih]
      · rw [List.filterMap_cons_some found, List.filter_cons_of_pos fires, List.map_cons,
          List.map_cons, ih, speaks.configKey]

omit [DecimalFloat64 F] in
/-- A key comes up twice exactly if ballast is found exhausted and idle at once. -/
theorem nodup_keys_iff
    : ((generateRecommendations config stats).map (·.configKey)).Nodup
      ↔ ¬ (Rule.growBallast.fires config stats = true
          ∧ Rule.shrinkBallast.fires config stats = true) := by
  have perm := (Sorting.sortBy_perm byConfidence (ruleFindings config stats)).map (·.configKey)
  have rulesNodup : (Rule.all.filter (Rule.fires config stats)).Nodup :=
    List.Nodup.filter _ (by decide)
  rw [generateRecommendations, perm.nodup_iff, Rule.ruleFindings_eq, keys_filterMap,
    List.nodup_map_iff_inj_on rulesNodup]
  constructor
  · rintro injective ⟨grow, shrink⟩
    have same := injective .growBallast (List.mem_filter.mpr ⟨by decide, grow⟩) .shrinkBallast
      (List.mem_filter.mpr ⟨by decide, shrink⟩) rfl
    cases same
  · intro apart rule member other member' same
    have fires := (List.mem_filter.mp member).2
    have fires' := (List.mem_filter.mp member').2
    rcases Rule.eq_of_key_eq (TunedKey.text_injective same) with equal | ⟨rfl, rfl⟩ | ⟨rfl, rfl⟩
    · exact equal
    · exact absurd ⟨fires, fires'⟩ apart
    · exact absurd ⟨fires', fires⟩ apart

end keys

/-! Writing them -/

section writing

variable {context : LoadContext} {root : TomlTable F} {parsed : Config F}

omit [RoundingFloat64 F] in
/-- Recommendations of different keys are all written, and no other key changes, by induction
on the recommendations.
-/
theorem applyRecommendations_spec {recs : List (Recommendation F)}
    (suits : ∀ rec ∈ recs, ∃ key : TunedKey, rec.configKey = key.text
      ∧ rec.category ≠ .kernelWriteback ∧ key.Fits (parseTomlValue rec.suggestedValue : TomlValue F))
    (distinct : (recs.map (·.configKey)).Nodup)
    (read : Config.fromTable context root = .ok parsed)
    : ∃ changed values, applyRecommendations recs (.table root) = .ok (.table changed)
        ∧ Config.fromTable context changed = .ok (parsed.withTuned values)
        ∧ (∀ rec ∈ recs, ∀ key : TunedKey, rec.configKey = key.text →
            values.get key = parseTomlValue rec.suggestedValue)
        ∧ ∀ key : TunedKey, key.text ∉ recs.map (·.configKey) →
            values.get key = parsed.tunedValues.get key := by
  induction recs generalizing root parsed with
  | nil => exact ⟨root, parsed.tunedValues, rfl, read, by simp, fun _ _ => rfl⟩
  | cons rec rest ih =>
      obtain ⟨key, keyText, category, fits⟩ := suits rec (by simp)
      obtain ⟨fresh, distinct⟩ := List.nodup_cons.mp distinct
      obtain ⟨next, written, readNext⟩ := key.fromTable_setAt read fits
      obtain ⟨changed, values, applied, readChanged, suggested, others⟩ :=
        ih (fun rec member => suits rec (List.mem_cons_of_mem _ member)) distinct readNext
      rw [Config.withTuned_withTuned] at readChanged
      have written : setTomlValue (.table root) rec.configKey rec.suggestedValue
          = .ok (.table next) := by
        rw [setTomlValue, keyText, TunedKey.dottedParts_text, written]
      refine ⟨changed, values, ?_, readChanged, ?_, ?_⟩
      · rw [applyRecommendations, List.filter_cons_of_pos (by simp [category]),
          List.foldlM_cons, written]
        exact applied
      · intro other member otherKey otherText
        rcases List.mem_cons.mp member with rfl | member
        · cases TunedKey.text_injective (keyText.symm.trans otherText)
          rw [others key (by rwa [← keyText])]
          exact TunedValues.get_put_self _ fits
        · exact suggested other member otherKey otherText
      · intro other absent
        simp only [List.map_cons, List.mem_cons, not_or] at absent
        rw [others other absent.2]
        refine TunedValues.get_put_of_ne _ fun same => absent.1 ?_
        rw [same, keyText]

end writing

/-! The outcome -/

section outcome

variable [RoundedFloat64 F] {context : LoadContext} {config : Config F}
  {stats : List (WindowStats F)} {values : TunedValues F} {green yellow orange score : ℚ}

/-- When the recommendations do no harm: ballast is not found exhausted and idle at once, a
growing pool stays below the limit, no value is at the end of its range, the thresholds keep
their order after their steps, and the score stays below the calibration floor.
-/
structure Harmless (config : Config F) (stats : List (WindowStats F)) : Prop where
  one_resize : ¬ (Rule.growBallast.fires config stats = true
    ∧ Rule.shrinkBallast.fires config stats = true)
  growth_fits : Rule.growBallast.fires config stats = true → config.ballast.fileCount ≤ 66666
  has_room : ∀ rule : Rule, rule.fires config stats = true → rule.hasRoom config = true
  green_above : Rule.lowerGreen.fires config stats = true
    → Rule.lowerYellow.fires config stats = false
    → Float64.lt config.pressure.yellowMinFreePct
        (rewritten 1 (Float64.max (config.pressure.greenMinFreePct - 3.0) 8.0)) = true
  yellow_above : Rule.lowerYellow.fires config stats = true
    → Float64.lt config.pressure.orangeMinFreePct
        (rewritten 1 (Float64.max (config.pressure.yellowMinFreePct - 2.0) 5.0)) = true
  steps_apart : Rule.lowerGreen.fires config stats = true
    → Rule.lowerYellow.fires config stats = true
    → Float64.lt (rewritten 1 (Float64.max (config.pressure.yellowMinFreePct - 2.0) 5.0))
        (rewritten 1 (Float64.max (config.pressure.greenMinFreePct - 3.0) 8.0)) = true
  below_floor : Rule.raiseMinScore.fires config stats = true
    → Float64.gt (rewritten 2 (Float64.min (config.scoring.minScore + 0.1) 0.9))
        config.scoring.calibrationFloor = false

/-- The values after all rules that fire have moved theirs. -/
structure Outcome (config : Config F) (stats : List (WindowStats F)) (values : TunedValues F)
    : Prop where
  suggested : ∀ rule : Rule, rule.fires config stats = true
    → values.get rule.key = rule.suggested config
  kept : ∀ key : TunedKey, (∀ rule : Rule, rule.fires config stats = true → rule.key ≠ key)
    → values.get key = config.tunedValues.get key

namespace Outcome

variable (outcome : Outcome config stats values)

include outcome

omit [RoundingFloat64 F] [RoundedFloat64 F] in
theorem green_eq
    : values.greenMinFreePct
      = if Rule.lowerGreen.fires config stats then loweredGreen config
        else config.pressure.greenMinFreePct := by
  split
  · rename_i fires
    exact TomlValue.float.inj (outcome.suggested .lowerGreen fires)
  · rename_i quiet
    refine TomlValue.float.inj (outcome.kept .greenMinFreePct fun rule fires same => quiet ?_)
    cases rule <;> first | exact fires | cases same

omit [RoundingFloat64 F] [RoundedFloat64 F] in
theorem yellow_eq
    : values.yellowMinFreePct
      = if Rule.lowerYellow.fires config stats then loweredYellow config
        else config.pressure.yellowMinFreePct := by
  split
  · rename_i fires
    exact TomlValue.float.inj (outcome.suggested .lowerYellow fires)
  · rename_i quiet
    refine TomlValue.float.inj (outcome.kept .yellowMinFreePct fun rule fires same => quiet ?_)
    cases rule <;> first | exact fires | cases same

omit [RoundingFloat64 F] [RoundedFloat64 F] in
theorem score_eq
    : values.minScore
      = if Rule.raiseMinScore.fires config stats then raisedMinScore config
        else config.scoring.minScore := by
  split
  · rename_i fires
    exact TomlValue.float.inj (outcome.suggested .raiseMinScore fires)
  · rename_i quiet
    refine TomlValue.float.inj (outcome.kept .minScore fun rule fires same => quiet ?_)
    cases rule <;> first | exact fires | cases same

omit [RoundingFloat64 F] [RoundedFloat64 F] in
theorem count_eq
    : values.fileCount
      = if Rule.growBallast.fires config stats then (3 * config.ballast.fileCount + 1) / 2
        else if Rule.shrinkBallast.fires config stats then
          shrunkFileCount config.ballast.fileCount
        else config.ballast.fileCount := by
  split
  · rename_i fires
    exact Int.ofNat.inj (TomlValue.integer.inj (outcome.suggested .growBallast fires))
  · rename_i notGrown
    split
    · rename_i fires
      exact Int.ofNat.inj (TomlValue.integer.inj (outcome.suggested .shrinkBallast fires))
    · rename_i notShrunk
      refine Int.ofNat.inj (TomlValue.integer.inj (outcome.kept .fileCount fun rule fires same => ?_))
      cases rule <;> first | exact notGrown fires | exact notShrunk fires | cases same

omit [RoundingFloat64 F] [RoundedFloat64 F] in
theorem harmless
    (one_resize : ¬ (Rule.growBallast.fires config stats = true
      ∧ Rule.shrinkBallast.fires config stats = true))
    (has_room : ∀ rule : Rule, rule.fires config stats = true → rule.hasRoom config = true)
    (acceptable : values.Acceptable config) : Harmless config stats where
  one_resize := one_resize
  growth_fits := by
    intro fires
    have count := acceptable.count_le
    rw [outcome.count_eq, if_pos fires, ConfigFile.maxBallastFileCount] at count
    omega
  has_room := has_room
  green_above := by
    intro fires quiet
    have above := acceptable.green_above
    rw [outcome.green_eq, if_pos fires, outcome.yellow_eq, if_neg (by simp [quiet])] at above
    exact above
  yellow_above := by
    intro fires
    have above := acceptable.yellow_above
    rw [outcome.yellow_eq, if_pos fires] at above
    exact above
  steps_apart := by
    intro firesGreen firesYellow
    have above := acceptable.green_above
    rw [outcome.green_eq, if_pos firesGreen, outcome.yellow_eq, if_pos firesYellow] at above
    exact above
  below_floor := by
    intro fires
    have below := acceptable.below_floor
    rw [outcome.score_eq, if_pos fires] at below
    exact below

/-- Where the recommendations do no harm, the checks accept their outcome. -/
theorem acceptable (numbers : Numbers config green yellow orange score)
    (harmless : Harmless config stats) : values.Acceptable config := by
  obtain ⟨_, g, _, _, _, gValue, gNonneg, gLe, _⟩ := numbers.loweredGreen_spec
  obtain ⟨_, y, _, _, _, yValue, yNonneg, yLe, yMoves⟩ := numbers.loweredYellow_spec
  obtain ⟨_, m, _, _, _, _, mValue, mNonneg, mLe, _⟩ :=
    steppedUp_spec numbers.score_value numbers.score_nonneg numbers.score_le
  have greenNonneg : 0 ≤ green := by
    linarith [numbers.orange_nonneg, numbers.orange_lt, numbers.yellow_lt]
  have yellowNonneg : 0 ≤ yellow := by linarith [numbers.orange_nonneg, numbers.orange_lt]
  have yellowPercent : yellow ≤ 100 := by linarith [numbers.green_le, numbers.yellow_lt]
  have countPos := numbers.count_pos
  have countLe := numbers.count_le
  refine ⟨?green, ?yellow, ?greenAbove, ?yellowAbove, ?score, ?floor, ?countPos, ?countLe⟩
  case green =>
    rw [outcome.green_eq, withinRange_percent]
    split
    · exact ⟨g, gValue, gNonneg, gLe⟩
    · exact ⟨green, numbers.green_value, greenNonneg, numbers.green_le⟩
  case yellow =>
    rw [outcome.yellow_eq, withinRange_percent]
    split
    · exact ⟨y, yValue, yNonneg, yLe⟩
    · exact ⟨yellow, numbers.yellow_value, yellowNonneg, yellowPercent⟩
  case greenAbove =>
    rw [outcome.green_eq, outcome.yellow_eq, Float64.gt]
    split_ifs with firesYellow firesGreen firesGreen
    · exact harmless.steps_apart firesGreen firesYellow
    · -- the yellow threshold went down, and the green one is where it was
      have five : decimalValue 50 true 1 = (5 : Nat) := by norm_num [decimalValue]
      have room := (RoundedFloat64.lt_iff (value_literal_nat five (by norm_num))
        numbers.yellow_value).mp (harmless.has_room .lowerYellow firesYellow)
      have lower := yMoves.mpr room
      exact (RoundedFloat64.lt_iff yValue numbers.green_value).mpr
        (lower.trans numbers.yellow_lt)
    · exact harmless.green_above firesGreen (Bool.eq_false_iff.mpr firesYellow)
    · exact (RoundedFloat64.lt_iff numbers.yellow_value numbers.green_value).mpr numbers.yellow_lt
  case yellowAbove =>
    rw [outcome.yellow_eq]
    split
    · rename_i fires
      exact harmless.yellow_above fires
    · exact (RoundedFloat64.lt_iff numbers.orange_value numbers.yellow_value).mpr
        numbers.orange_lt
  case score =>
    rw [outcome.score_eq, withinRange_unit]
    split
    · exact ⟨m, mValue, mNonneg, mLe⟩
    · exact ⟨score, numbers.score_value, numbers.score_nonneg, numbers.score_le⟩
  case floor =>
    rw [outcome.score_eq]
    split
    · rename_i fires
      exact harmless.below_floor fires
    · exact numbers.below_floor
  case countPos =>
    rw [outcome.count_eq, shrunkFileCount]
    split_ifs <;> omega
  case countLe =>
    rw [outcome.count_eq, shrunkFileCount, ConfigFile.maxBallastFileCount]
    split_ifs with grows
    · have fits := harmless.growth_fits grows
      omega
    · omega
    · omega

end Outcome

/-- Each recommendation writes the value of its rule under the key of its rule. -/
theorem suits_of_mem (numbers : Numbers config green yellow orange score)
    {rec : Recommendation F} (member : rec ∈ generateRecommendations config stats)
    : ∃ key : TunedKey, rec.configKey = key.text ∧ rec.category ≠ .kernelWriteback
        ∧ key.Fits (parseTomlValue rec.suggestedValue : TomlValue F) := by
  obtain ⟨rule, fires, _, speaks⟩ := mem_generateRecommendations.mp member
  refine ⟨rule.key, speaks.configKey, speaks.category, ?_⟩
  rw [speaks.suggestedValue, numbers.parse_suggestedText fires]
  exact numbers.fits fires

/-- Recommendations of different keys lead to the outcome of the rules. -/
theorem outcome_of_values (numbers : Numbers config green yellow orange score)
    (suggested : ∀ rec ∈ generateRecommendations config stats, ∀ key : TunedKey,
      rec.configKey = key.text → values.get key = parseTomlValue rec.suggestedValue)
    (kept : ∀ key : TunedKey,
      key.text ∉ (generateRecommendations config stats).map (·.configKey)
        → values.get key = config.tunedValues.get key)
    : Outcome config stats values where
  suggested := by
    intro rule fires
    rcases Rule.find_spec config stats rule with ⟨quiet, _⟩ | ⟨_, rec, found, speaks⟩
    · rw [quiet] at fires
      cases fires
    · rw [suggested rec (mem_generateRecommendations.mpr ⟨rule, fires, found, speaks⟩) rule.key
        speaks.configKey, speaks.suggestedValue, numbers.parse_suggestedText fires]
  kept := by
    intro key absent
    refine kept key fun present => ?_
    obtain ⟨rec, member, text⟩ := List.mem_map.mp present
    obtain ⟨rule, fires, _, speaks⟩ := mem_generateRecommendations.mp member
    exact absent rule fires (TunedKey.text_injective (speaks.configKey.symm.trans text))

theorem AppliesCleanly.harmless {document : TomlValue F}
    (clean : AppliesCleanly context document config stats)
    (loads : Config.load context document = .ok config)
    : Harmless config stats := by
  cases document with
  | table root =>
      obtain ⟨parsed, read, sacred, known, rfl, valid⟩ := ConfigFile.Config.load_eq_ok.mp loads
      obtain ⟨green, yellow, orange, score, numbers⟩ := exists_numbers valid
      obtain ⟨changed, values, applied, readChanged, suggested, kept⟩ :=
        applyRecommendations_spec (fun _ => suits_of_mem numbers) clean.distinct read
      have outcome := outcome_of_values numbers suggested kept
      obtain ⟨changed', loaded, applied', loads', _⟩ := clean.accepted
      cases applied.symm.trans applied'
      obtain ⟨parsed', read', sacred', known', rfl, valid'⟩ :=
        ConfigFile.Config.load_eq_ok.mp loads'
      cases readChanged.symm.trans read'
      cases known.symm.trans known'
      have acceptable := (ConfigFile.Config.validate_withTuned valid).mp valid'
      refine outcome.harmless (nodup_keys_iff.mp clean.distinct) ?_ acceptable
      intro rule fires
      rcases Rule.find_spec _ stats rule with ⟨quiet, _⟩ | ⟨_, rec, found, speaks⟩
      · rw [quiet] at fires
        cases fires
      · exact (numbers.changesAsStated_iff fires speaks).mp
          (clean.as_stated rec (mem_generateRecommendations.mpr ⟨rule, fires, found, speaks⟩))
  | string _ | integer _ | float _ | boolean _ | datetime _ | array _ => cases loads

theorem Harmless.appliesCleanly {document : TomlValue F} (harmless : Harmless config stats)
    (loads : Config.load context document = .ok config)
    : AppliesCleanly context document config stats := by
  cases document with
  | table root =>
      obtain ⟨parsed, read, sacred, known, rfl, valid⟩ := ConfigFile.Config.load_eq_ok.mp loads
      obtain ⟨green, yellow, orange, score, numbers⟩ := exists_numbers valid
      have distinct := nodup_keys_iff.mpr harmless.one_resize
      obtain ⟨changed, values, applied, readChanged, suggested, kept⟩ :=
        applyRecommendations_spec (fun _ => suits_of_mem numbers) distinct read
      have outcome := outcome_of_values numbers suggested kept
      have acceptable := outcome.acceptable numbers harmless
      refine ⟨distinct, ?_, .table changed, _, applied,
        ConfigFile.Config.load_eq_ok.mpr ⟨_, readChanged, sacred, known, rfl,
          (ConfigFile.Config.validate_withTuned valid).mpr acceptable⟩, ?_⟩
      · intro rec member
        obtain ⟨rule, fires, _, speaks⟩ := mem_generateRecommendations.mp member
        exact (numbers.changesAsStated_iff fires speaks).mpr (harmless.has_room rule fires)
      · intro rec member
        obtain ⟨key, text, _⟩ := suits_of_mem numbers member
        rw [text, valueAt_text, ← suggested rec member key text]
        rfl
  | string _ | integer _ | float _ | boolean _ | datetime _ | array _ => cases loads

/-- Applying the recommendations keeps a loaded configuration valid, key by key as stated,
exactly if they do no harm.
-/
theorem applies_cleanly_iff {document : TomlValue F}
    (loads : Config.load context document = .ok config)
    : AppliesCleanly context document config stats ↔ Harmless config stats :=
  ⟨fun clean => clean.harmless loads, fun harmless => harmless.appliesCleanly loads⟩

end outcome

/-! The defaults -/

/-- A host with two processors, without a supplemental file, and with patterns that compile.
-/
def plainContext : LoadContext where
  sacred := .ok []
  availableParallelism := some 2
  tomlError name := "invalid type for " ++ name
  validateGlobPattern _ := .ok ()

def defaultConfig : Config ℚ := Config.default plainContext

theorem defaults_valid : defaultConfig.validate plainContext.validateGlobPattern = .ok () := by
  have passes : (defaultConfig.validate plainContext.validateGlobPattern).isOk = true := by
    decide +kernel
  cases checked : defaultConfig.validate plainContext.validateGlobPattern with
  | error reason =>
      rw [checked] at passes
      cases passes
  | ok _ => rfl

theorem defaults_load : Config.load plainContext (.table []) = .ok defaultConfig :=
  ConfigFile.Config.load_eq_ok.mpr ⟨defaultConfig, Config.fromTable_nil _, [], rfl, rfl, defaults_valid⟩

def lowScoreHour : WindowStats ℚ where
  window := .fromHours 1
  deletions := ⟨6, 0.3, 0⟩
  ballast := ⟨0, 10⟩
  pressure := ⟨0.0, 0.0, 0.0, 0.0, 0⟩

theorem low_scores_break_defaults
    : Config.load plainContext (.table []) = .ok defaultConfig
      ∧ ¬ AppliesCleanly plainContext (.table []) defaultConfig [lowScoreHour] := by
  refine ⟨defaults_load, fun clean => ?_⟩
  have below := (clean.harmless defaults_load).below_floor (by decide +kernel)
  revert below
  decide +kernel

def oscillatingDay : WindowStats ℚ where
  window := .fromHours 24
  deletions := ⟨0, 0.0, 0⟩
  ballast := ⟨0, 10⟩
  pressure := ⟨0.0, 0.0, 0.0, 0.0, 12⟩

theorem oscillation_spares_defaults
    : Config.load plainContext (.table []) = .ok defaultConfig
      ∧ AppliesCleanly plainContext (.table []) defaultConfig [oscillatingDay] := by
  refine ⟨defaults_load, (applies_cleanly_iff defaults_load).mpr ?_⟩
  exact {
    one_resize := by decide +kernel
    growth_fits := by decide +kernel
    has_room := fun rule => by cases rule <;> decide +kernel
    green_above := by decide +kernel
    yellow_above := by decide +kernel
    steps_apart := by decide +kernel
    below_floor := by decide +kernel }

end StorageBallast.Tuning
