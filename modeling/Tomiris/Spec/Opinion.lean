import Mathlib.Tactic.NormNum
import Tomiris.ForStd.FloatFunctions
import Tomiris.ForStd.Smoothing
import Tomiris.Spec.Technical

/-!
# The aggregated opinion

The weighted score is a mean with positive weights, so it stays between -1 and 1, and reaches the
neutral threshold only if a timeframe does. A directional bias so means that no timeframe scores
against it, and negating the scores negates the opinion.

## Key results

- `opinion_eq`: the opinion in closed form
- `opinion_sound`: what its bias and its confidence mean, and its symmetry
-/

namespace Tomiris

open Smoothing

namespace TechnicalAnalysisEngine

section ClosedForm

variable (c : TechnicalFields) (states : List TimeframeAnalysis)

/-- The weighted score of a nonempty list of states. -/
def weightedOf : Rat :=
  weightedMean (fun state : TimeframeAnalysis => c.weight state.val.timeframe)
    (fun state => state.val.score) states

/-- The states that score beyond the neutral threshold. -/
def positives : Nat := states.countP fun state => c.neutralThreshold < state.val.score

def negatives : Nat := states.countP fun state => state.val.score < -c.neutralThreshold

/-- The timeframes point in opposite directions. -/
def Conflict : Prop := 0 < positives c states ∧ 0 < negatives c states

instance : Decidable (Conflict c states) := inferInstanceAs (Decidable (_ ∧ _))

/-- The reason codes that do not depend on the bias. -/
def stateReasons : List String :=
  (if Conflict c states then ["TIMEFRAME_CONFLICT"] else []) ++
  (if states.any (fun state => state.val.volatility == .high || state.val.volatility == .extreme)
    then ["HIGH_VOLATILITY"] else [])

/-- The opinion that is concluded from the states. -/
def concluded : Bias × Rat × List String :=
  let weighted := weightedOf c states
  if |weighted| < c.neutralThreshold ∨ Conflict c states then
    (.neutral, min (60 / 100) (max 0 (1 - |weighted| / c.neutralThreshold) * (60 / 100)),
      stateReasons c states ++ ["NO_CLEAR_EDGE"])
  else
    let matching := if 0 < weighted then positives c states else negatives c states
    (if 0 < weighted then .long else .short,
      min 1 (min 1 (|weighted| / c.strongTrendThreshold) * (65 / 100) +
        matching / states.length * (35 / 100)), stateReasons c states)

end ClosedForm

variable {config : TechnicalRoleConfig} {states : List TimeframeAnalysis}

/-- The sum of the weights is not zero. -/
theorem weightedScore_eq (hne : states ≠ []) :
    weightedScore config.toTechnicalFields states = .ok (weightedOf config.toTechnicalFields states) := by
  have hsum := weights_pos (fun state : TimeframeAnalysis =>
    weight_pos config state.val.timeframe) hne
  unfold weightedScore
  simp only [List.zipWith_map_right, List.zipWith_self]
  exact divide_ok hsum.ne'

/-- The opinion in closed form. -/
theorem opinion_eq (hne : states ≠ []) :
    opinion config.toTechnicalFields states = .ok (concluded config.toTechnicalFields states) := by
  have hlength : (states.length : Rat) ≠ 0 := by
    exact_mod_cast (List.length_pos_of_ne_nil hne).ne'
  unfold opinion concluded
  rw [weightedScore_eq hne]
  simp only [bind, Except.bind]
  -- the branches of the source, with the divisors that its thresholds keep from 0
  by_cases hneutral : |weightedOf config.toTechnicalFields states| < config.neutralThreshold ∨
      Conflict config.toTechnicalFields states
  · rw [if_pos hneutral]
    rw [Conflict, positives, negatives] at hneutral
    rw [if_pos hneutral, divide_ok config.valid.neutral.1.ne']
    rfl
  · rw [if_neg hneutral]
    rw [Conflict, positives, negatives] at hneutral
    rw [if_neg hneutral, divide_ok hlength, divide_ok config.valid.strong_trend.1.ne']
    rfl

/-! ### The mirrored states -/

/-- The bounds of a score are symmetric. -/
theorem negate_valid (state : TimeframeAnalysis) :
    TimeframeFields.Valid { state.val with score := -state.val.score } :=
  ⟨neg_le_neg state.property.2, neg_le.mp state.property.1⟩

/-- The same timeframe with the opposite score. -/
def negate (state : TimeframeAnalysis) : TimeframeAnalysis :=
  ⟨{ state.val with score := -state.val.score }, negate_valid state⟩

/-- The opposite direction. -/
def mirror : Bias → Bias
  | .long => .short
  | .short => .long
  | .neutral => .neutral
  | .abstain => .abstain

section Mirror

variable (c : TechnicalFields) (states : List TimeframeAnalysis)

/-- The weighted score changes its sign. -/
theorem weightedOf_negate : weightedOf c (states.map negate) = -weightedOf c states := by
  unfold weightedOf
  rw [← weightedMean_neg]
  unfold weightedMean
  rw [List.map_map, List.map_map]
  rfl

/-- What was positive is negative. -/
theorem positives_negate : positives c (states.map negate) = negatives c states := by
  unfold positives negatives
  rw [List.countP_map]
  congr 1
  funext state
  simp only [Function.comp_apply, negate, lt_neg]

/-- And the other way round. -/
theorem negatives_negate : negatives c (states.map negate) = positives c states := by
  unfold positives negatives
  rw [List.countP_map]
  congr 1
  funext state
  simp only [Function.comp_apply, negate, neg_lt_neg_iff]

/-- So a conflict stays one. -/
theorem conflict_negate : Conflict c (states.map negate) ↔ Conflict c states := by
  unfold Conflict
  rw [positives_negate, negatives_negate, and_comm]

/-- The reasons look at the volatility and the conflict. -/
theorem stateReasons_negate : stateReasons c (states.map negate) = stateReasons c states := by
  unfold stateReasons
  simp only [conflict_negate, List.any_map]
  rfl

end Mirror

section Sound

/-- The weighted score is between the least and the greatest score a state can have. -/
theorem weightedOf_mem (config : TechnicalRoleConfig) (hne : states ≠ []) :
    -1 ≤ weightedOf config.toTechnicalFields states ∧
      weightedOf config.toTechnicalFields states ≤ 1 :=
  ⟨le_weightedMean (fun state => weight_pos config state.val.timeframe) hne
      fun state _ => state.property.1,
    weightedMean_le (fun state => weight_pos config state.val.timeframe) hne
      fun state _ => state.property.2⟩

/-- A state below the threshold on the other side would have to be outweighed by one above it, and
    that is a conflict. -/
theorem above_of_threshold_le (h : config.neutralThreshold ≤
    weightedOf config.toTechnicalFields states) (hconflict : ¬ Conflict config.toTechnicalFields states) :
    ∀ state ∈ states, -config.neutralThreshold ≤ state.val.score := by
  intro state hmem
  by_contra hbelow
  rw [not_le] at hbelow
  -- the state is against the direction, so without a conflict none is for it
  have hnegatives : 0 < negatives config.toTechnicalFields states :=
    List.countP_pos_iff.mpr ⟨state, hmem, decide_eq_true hbelow⟩
  have hall : ∀ state ∈ states, state.val.score ≤ config.neutralThreshold := by
    intro other hother
    by_contra habove
    rw [not_le] at habove
    exact hconflict ⟨List.countP_pos_iff.mpr ⟨other, hother, decide_eq_true habove⟩, hnegatives⟩
  have hpos := config.valid.neutral.1
  -- all are at most the threshold and one is below it, and so is the mean
  have hlt := weightedMean_lt (fun state : TimeframeAnalysis =>
    weight_pos config state.val.timeframe) hall ⟨state, hmem, by linarith⟩
  exact absurd h (not_le.mpr hlt)

/-- The same on the other side. -/
theorem below_of_le_threshold (h : weightedOf config.toTechnicalFields states ≤
    -config.neutralThreshold) (hconflict : ¬ Conflict config.toTechnicalFields states) :
    ∀ state ∈ states, state.val.score ≤ config.neutralThreshold := by
  have hmirror := @above_of_threshold_le config (states.map negate)
    (by rw [weightedOf_negate]; linarith) (by rwa [conflict_negate])
  intro state hmem
  exact neg_le_neg_iff.mp (hmirror (negate state) (List.mem_map_of_mem hmem))

/-- Opposite states have the opposite opinion. -/
theorem concluded_negate (config : TechnicalRoleConfig) (states : List TimeframeAnalysis) :
    concluded config.toTechnicalFields (states.map negate) =
      (mirror (concluded config.toTechnicalFields states).1,
        (concluded config.toTechnicalFields states).2) := by
  unfold concluded
  simp only [weightedOf_negate, abs_neg, conflict_negate, stateReasons_negate, positives_negate,
    negatives_negate, List.length_map]
  split
  · rfl
  · rename_i hdirected
    rw [not_or, not_lt] at hdirected
    have hpos := config.valid.neutral.1
    -- a directed opinion has a score, and its sign tells the direction
    have hne : weightedOf config.toTechnicalFields states ≠ 0 := by
      intro hzero
      rw [hzero, abs_zero] at hdirected
      linarith [hdirected.1]
    rcases hne.lt_or_gt with hlt | hgt
    · have hnot : ¬ 0 < weightedOf config.toTechnicalFields states := not_lt.mpr hlt.le
      have hmirror : 0 < -weightedOf config.toTechnicalFields states := neg_pos.mpr hlt
      simp only [if_neg hnot, if_pos hmirror, mirror]
    · have hnot : ¬ 0 < -weightedOf config.toTechnicalFields states := by linarith
      simp only [if_neg hnot, if_pos hgt, mirror]

/-- What the bias, the confidence and the weighted score of states mean. -/
structure OpinionSound (c : TechnicalFields) (states : List TimeframeAnalysis) (weighted : Rat)
    (bias : Bias) (confidence : Rat) : Prop where
  weighted_mem : -1 ≤ weighted ∧ weighted ≤ 1
  confidence_mem : (0 ≤ confidence ∧ confidence ≤ 1) ∧
    0 ≤ roundDigits confidence 6 ∧ roundDigits confidence 6 ≤ 1
  bias_mem : bias ∈ [Bias.long, .short, .neutral]
  long : bias = .long →
    (∀ state ∈ states, -c.neutralThreshold ≤ state.val.score) ∧ c.neutralThreshold ≤ weighted
  short : bias = .short →
    (∀ state ∈ states, state.val.score ≤ c.neutralThreshold) ∧ weighted ≤ -c.neutralThreshold
  neutral : bias = .neutral →
    (confidence ≤ 60 / 100 ∧ roundDigits confidence 6 ≤ 60 / 100) ∧
    ((∃ state ∈ states, c.neutralThreshold < state.val.score) ∧
        (∃ state ∈ states, state.val.score < -c.neutralThreshold) ∨
      -c.neutralThreshold < weighted ∧ weighted < c.neutralThreshold)

/-- Rounding to six digits does not pass zero or one. -/
theorem round_confidence_mem {confidence : Rat} (h : 0 ≤ confidence ∧ confidence ≤ 1) :
    0 ≤ roundDigits confidence 6 ∧ roundDigits confidence 6 ≤ 1 := by
  have hlo := @le_roundDigits confidence 6 0 (by simpa using h.1)
  have hhi := @roundDigits_le confidence 6 1000000 (by norm_num; exact h.2)
  norm_num at hlo hhi
  exact ⟨hlo, hhi⟩

/-- Nor the greatest confidence of a neutral opinion. -/
theorem round_confidence_le {confidence : Rat} (h : confidence ≤ 60 / 100) :
    roundDigits confidence 6 ≤ 60 / 100 := by
  have hhi := @roundDigits_le confidence 6 600000 (by norm_num at h ⊢; exact h)
  norm_num at hhi ⊢
  exact hhi

/-- A conflict is two states that point apart. -/
theorem conflict_iff (c : TechnicalFields) (states : List TimeframeAnalysis) :
    Conflict c states ↔ (∃ state ∈ states, c.neutralThreshold < state.val.score) ∧
      ∃ state ∈ states, state.val.score < -c.neutralThreshold := by
  unfold Conflict positives negatives
  rw [List.countP_pos_iff, List.countP_pos_iff]
  simp

/-- The confidence of a directed opinion is a mean of two shares. -/
theorem directed_confidence_mem {strength agreement : Rat} (hstrength : 0 ≤ strength)
    (hagreement : 0 ≤ agreement) :
    0 ≤ min 1 (min 1 strength * (65 / 100) + agreement * (35 / 100)) ∧
      min 1 (min 1 strength * (65 / 100) + agreement * (35 / 100)) ≤ 1 := by
  have hmin : 0 ≤ min 1 strength := le_min zero_le_one hstrength
  exact ⟨le_min zero_le_one (by positivity), min_le_left _ _⟩

/-- What is concluded from the states. -/
theorem concluded_sound (config : TechnicalRoleConfig) (hne : states ≠ []) :
    OpinionSound config.toTechnicalFields states (weightedOf config.toTechnicalFields states)
      (concluded config.toTechnicalFields states).1
      (concluded config.toTechnicalFields states).2.1 := by
  have hpos := config.valid.neutral.1
  have hmem := weightedOf_mem config hne
  unfold concluded
  by_cases hneutral : |weightedOf config.toTechnicalFields states| < config.neutralThreshold ∨
      Conflict config.toTechnicalFields states
  -- neutral: the confidence is capped at 0.60
  · simp only [if_pos hneutral]
    have hle : min (60 / 100) (max 0 (1 - |weightedOf config.toTechnicalFields states| /
        config.neutralThreshold) * (60 / 100)) ≤ (60 / 100 : Rat) := min_le_left _ _
    have hnonneg : (0 : Rat) ≤ min (60 / 100) (max 0 (1 - |weightedOf config.toTechnicalFields
        states| / config.neutralThreshold) * (60 / 100)) :=
      le_min (by norm_num) (mul_nonneg (le_max_left _ _) (by norm_num))
    have hunit : min (60 / 100) (max 0 (1 - |weightedOf config.toTechnicalFields states| /
        config.neutralThreshold) * (60 / 100)) ≤ (1 : Rat) := hle.trans (by norm_num)
    refine ⟨hmem, ⟨⟨hnonneg, hunit⟩, round_confidence_mem ⟨hnonneg, hunit⟩⟩, by simp, by simp,
      by simp, fun _ => ⟨⟨hle, round_confidence_le hle⟩, ?_⟩⟩
    rcases hneutral with hweak | hconflict
    · exact .inr (abs_lt.mp hweak)
    · exact .inl ((conflict_iff _ _).mp hconflict)
  · simp only [if_neg hneutral]
    rw [not_or, not_lt] at hneutral
    obtain ⟨hstrong, hconflict⟩ := hneutral
    -- directed: strength and agreement are shares, so the confidence is one too
    have hconfidence := @directed_confidence_mem
      (|weightedOf config.toTechnicalFields states| / config.strongTrendThreshold) _
      (div_nonneg (abs_nonneg _) config.valid.strong_trend.1.le)
      (div_nonneg (Nat.cast_nonneg (α := Rat)
        (if 0 < weightedOf config.toTechnicalFields states then
          positives config.toTechnicalFields states
        else negatives config.toTechnicalFields states))
        (Nat.cast_nonneg (α := Rat) states.length))
    -- long or short, by the sign of the score
    rcases le_abs.mp hstrong with hup | hdown
    · have hgt : 0 < weightedOf config.toTechnicalFields states := hpos.trans_le hup
      simp only [if_pos hgt] at hconfidence ⊢
      exact ⟨hmem, ⟨hconfidence, round_confidence_mem hconfidence⟩, by simp,
        fun _ => ⟨above_of_threshold_le hup hconflict, hup⟩, by simp, by simp⟩
    · have hnot : ¬ 0 < weightedOf config.toTechnicalFields states := by linarith
      have hbelow : weightedOf config.toTechnicalFields states ≤ -config.neutralThreshold := by
        linarith
      simp only [if_neg hnot] at hconfidence ⊢
      exact ⟨hmem, ⟨hconfidence, round_confidence_mem hconfidence⟩, by simp, by simp,
        fun _ => ⟨below_of_le_threshold hbelow hconflict, hbelow⟩, by simp⟩

/-- **The opinion is sound and symmetric.** A direction has no timeframe against it and a weighted
    score beyond the threshold, `NEUTRAL` has a conflict or a score within it, and the opposite
    scores give the opposite bias with the same confidence for the same reasons. -/
theorem opinion_sound (config : TechnicalRoleConfig) {states : List TimeframeAnalysis}
    (hne : states ≠ []) :
    ∃ weighted bias confidence reasonCodes,
      weightedScore config.toTechnicalFields states = .ok weighted ∧
      opinion config.toTechnicalFields states = .ok (bias, confidence, reasonCodes) ∧
      OpinionSound config.toTechnicalFields states weighted bias confidence ∧
      opinion config.toTechnicalFields (states.map negate) =
        .ok (mirror bias, confidence, reasonCodes) := by
  have hmapped : states.map negate ≠ [] := fun h => hne (List.map_eq_nil_iff.mp h)
  refine ⟨weightedOf config.toTechnicalFields states,
    (concluded config.toTechnicalFields states).1, (concluded config.toTechnicalFields states).2.1,
    (concluded config.toTechnicalFields states).2.2, weightedScore_eq hne, opinion_eq hne,
    concluded_sound config hne, ?_⟩
  rw [opinion_eq hmapped, concluded_negate]

end Sound

end TechnicalAnalysisEngine

/-- The defaults pass their validators. -/
theorem defaults_valid (pipeline : FeaturePipelineConfig) :
    TechnicalFields.Valid (TechnicalFields.defaults id pipeline) where
  weights := by
    refine ⟨by simp [TechnicalFields.defaults], ?_⟩
    simp only [TechnicalFields.defaults, List.forall_mem_cons]
    norm_num
  weight_keys := show [Timeframe.d1, .h4, .h1, .m15].Nodup by decide
  neutral := by norm_num [TechnicalFields.defaults]
  strong_trend := by norm_num [TechnicalFields.defaults]
  rsi_bullish := by norm_num [TechnicalFields.defaults]
  rsi_bearish := by norm_num [TechnicalFields.defaults]
  high_atr := by norm_num [TechnicalFields.defaults]
  extreme_atr := by norm_num [TechnicalFields.defaults]
  high_volatility := by norm_num [TechnicalFields.defaults]
  extreme_volatility := by norm_num [TechnicalFields.defaults]
  range_ratio := by norm_num [TechnicalFields.defaults]
  swing := show 2 ≤ 10 ∧ 10 ≤ 100 by decide
  rsi_order := by norm_num [TechnicalFields.defaults]
  atr_order := by norm_num [TechnicalFields.defaults]
  volatility_order := by norm_num [TechnicalFields.defaults]

/-- The pipeline with the other parameters of `TechnicalRoleConfig` at their defaults. -/
def TechnicalRoleConfig.defaults (pipeline : FeaturePipelineConfig) : TechnicalRoleConfig where
  toTechnicalFields := TechnicalFields.defaults id pipeline
  valid := defaults_valid pipeline

namespace Deployment

/-- The shortest periods pass theirs. -/
theorem smallPipeline_valid : PipelineFields.Valid
    { emaFast := 2, emaSlow := 3, rsiPeriod := 2, macdFast := 2, macdSlow := 3, macdSignal := 2,
      atrPeriod := 2, volatilityPeriod := 2, volumeShortPeriod := 1, volumeLongPeriod := 2 } := by
  constructor <;> decide

/-- The text of a float has its digits and at most eight characters more. -/
def exactOps : FloatOps where
  log := FloatFunctions.log
  pstdev := FloatFunctions.pstdev
  general := fun digits x =>
    String.ofList ((FloatFunctions.general digits x).toList.take (digits + 8))

/-- The shortest periods that are allowed. -/
def smallPipeline : FeaturePipelineConfig where
  emaFast := 2
  emaSlow := 3
  rsiPeriod := 2
  macdFast := 2
  macdSlow := 3
  macdSignal := 2
  atrPeriod := 2
  volatilityPeriod := 2
  volumeShortPeriod := 1
  volumeLongPeriod := 2
  valid := smallPipeline_valid

/-- A state with a score in tenths. -/
def scored (timeframe : Timeframe) (tenths : Int)
    (h : -1 ≤ (tenths / 10 : Rat) ∧ (tenths / 10 : Rat) ≤ 1) : TimeframeAnalysis :=
  ⟨{ timeframe := timeframe, trend := .up, momentum := .neutral, volatility := .normal,
     volumeState := .normal, score := tenths / 10 }, h⟩

end Deployment

open Deployment TechnicalAnalysisEngine in
/-- An opinion on two timeframes. -/
theorem opinion_sound_twoTimeframes :
    let config := TechnicalRoleConfig.defaults smallPipeline
    let states := [scored .d1 5 (by norm_num), scored .h1 (-1) (by norm_num)]
    ∃ weighted bias confidence reasonCodes,
      weightedScore config.toTechnicalFields states = .ok weighted ∧
      opinion config.toTechnicalFields states = .ok (bias, confidence, reasonCodes) ∧
      OpinionSound config.toTechnicalFields states weighted bias confidence ∧
      opinion config.toTechnicalFields (states.map negate) =
        .ok (mirror bias, confidence, reasonCodes) :=
  opinion_sound _ (List.cons_ne_nil _ _)

end Tomiris
