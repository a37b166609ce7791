import Tomiris.Spec.Analysis

/-!
# Ranging markets

The range filter reports a neutral trend and divides the score by four. That keeps a score within
the neutral threshold of 0.18 only if it was below 0.72, and a trend, a momentum and a return that
agree have 0.85. So a market in which the filter fires on every timeframe is `NEUTRAL` unless the
scores before the filter are as one-sided as that.

## Key results

- `stateOf_ranging`: the state of a timeframe on which the filter fires
- `ranging_neutral_iff`: when the opinion on a ranging market is `NEUTRAL`
- `undirected_of_not_aligned`: it is, unless the indicators of a timeframe agree
- `ranging_long`: a ranging market with a directional opinion
-/

namespace Tomiris

open Except Smoothing

namespace TechnicalAnalysisEngine

section Timeframe

variable (engine : TechnicalAnalysisEngine) (s : MarketDataSeries)

/-- What the engine measures on a series. -/
abbrev measured : Indicators := measure engine.ops engine.config.pipeline.toPipelineFields s

/-- The averages are close to each other, and the last close is within the highs and lows before
    it. -/
def RangeFires : Prop :=
  |(engine.measured s).fast - (engine.measured s).slow| <
      (engine.measured s).atr * engine.config.rangeEmaAtrRatio ∧
    swingOf (nthLast s.closes 0) (priorCandles engine.config.toTechnicalFields s) = 0

instance : Decidable (engine.RangeFires s) := inferInstanceAs (Decidable (_ ∧ _))

/-- Where the trend, the momentum and the return point to, without the range filter. -/
def direction : Rat :=
  (trendOf (nthLast s.closes 0) (engine.measured s).fast (engine.measured s).slow).2 * (45 / 100) +
    (momentumOf engine.config.toTechnicalFields (engine.measured s).rsi
      (engine.measured s).histogram).2 * (30 / 100) +
    returnOf (engine.measured s).latestReturn * (10 / 100)

/-- All of the indicators point up. -/
def PointsUp : Prop :=
  let x := engine.measured s
  (x.fast < nthLast s.closes 0 ∧ x.slow < x.fast) ∧
    (engine.config.rsiBullish ≤ x.rsi ∧ 0 < x.histogram) ∧ 0 ≤ x.latestReturn

/-- All of them point down. -/
def PointsDown : Prop :=
  let x := engine.measured s
  (nthLast s.closes 0 < x.fast ∧ x.fast < x.slow) ∧
    (x.rsi ≤ engine.config.rsiBearish ∧ x.histogram < 0) ∧ x.latestReturn ≤ 0

variable {engine s}

/-- The trend is full in one direction only if the averages are in order, and weak otherwise. -/
theorem trendOf_cases (close fast slow : Rat) :
    (fast < close ∧ slow < fast) ∧ trendOf close fast slow = (.strongUp, 1) ∨
    (close < fast ∧ fast < slow) ∧ trendOf close fast slow = (.strongDown, -1) ∨
    -(6 / 10) ≤ (trendOf close fast slow).2 ∧ (trendOf close fast slow).2 ≤ 6 / 10 := by
  unfold trendOf
  split_ifs with hstrongUp hup hstrongDown hdown
  · exact .inl ⟨hstrongUp, rfl⟩
  · exact .inr (.inr (by norm_num))
  · exact .inr (.inl ⟨hstrongDown, rfl⟩)
  · exact .inr (.inr (by norm_num))
  · exact .inr (.inr (by norm_num))

/-- The momentum is full only if RSI and histogram agree, and zero otherwise. -/
theorem momentumOf_cases (config : TechnicalFields) (rsi histogram : Rat) :
    (config.rsiBullish ≤ rsi ∧ 0 < histogram) ∧ (momentumOf config rsi histogram).2 = 1 ∨
    (rsi ≤ config.rsiBearish ∧ histogram < 0) ∧ (momentumOf config rsi histogram).2 = -1 ∨
    (momentumOf config rsi histogram).2 = 0 := by
  unfold momentumOf
  split_ifs with hbullish hbearish
  · exact .inl ⟨hbullish, rfl⟩
  · exact .inr (.inl ⟨hbearish, rfl⟩)
  · exact .inr (.inr rfl)

/-- The return counts by its sign. -/
theorem returnOf_cases (latestReturn : Rat) :
    0 < latestReturn ∧ returnOf latestReturn = 1 ∨
    latestReturn < 0 ∧ returnOf latestReturn = -1 ∨
    latestReturn = 0 ∧ returnOf latestReturn = 0 := by
  unfold returnOf
  rcases lt_trichotomy latestReturn 0 with hneg | hzero | hpos
  · exact .inr (.inl ⟨hneg, by rw [if_neg (not_lt.mpr hneg.le), if_pos hneg]⟩)
  · exact .inr (.inr ⟨hzero, by simp [hzero]⟩)
  · exact .inl ⟨hpos, if_pos hpos⟩

/-- Each of the three is between -1 and 1. -/
theorem parts_mem (engine : TechnicalAnalysisEngine) (s : MarketDataSeries) :
    (-1 ≤ (trendOf (nthLast s.closes 0) (engine.measured s).fast (engine.measured s).slow).2 ∧
      (trendOf (nthLast s.closes 0) (engine.measured s).fast (engine.measured s).slow).2 ≤ 1) ∧
    (-1 ≤ (momentumOf engine.config.toTechnicalFields (engine.measured s).rsi
        (engine.measured s).histogram).2 ∧
      (momentumOf engine.config.toTechnicalFields (engine.measured s).rsi
        (engine.measured s).histogram).2 ≤ 1) ∧
    -1 ≤ returnOf (engine.measured s).latestReturn ∧
      returnOf (engine.measured s).latestReturn ≤ 1 := by
  -- trend, momentum and return
  refine ⟨?_, ?_, ?_⟩
  · rcases trendOf_cases (nthLast s.closes 0) (engine.measured s).fast (engine.measured s).slow with
      ⟨-, htrend⟩ | ⟨-, htrend⟩ | htrend
    · rw [htrend]
      norm_num
    · rw [htrend]
      norm_num
    · exact ⟨by linarith, by linarith⟩
  · rcases momentumOf_cases engine.config.toTechnicalFields (engine.measured s).rsi
      (engine.measured s).histogram with ⟨-, h⟩ | ⟨-, h⟩ | h <;> rw [h] <;> norm_num
  · rcases returnOf_cases (engine.measured s).latestReturn with
      ⟨-, h⟩ | ⟨-, h⟩ | ⟨-, h⟩ <;> rw [h] <;> norm_num

/-- The three parts together stay between -0.85 and 0.85. -/
theorem direction_mem : -(85 / 100) ≤ engine.direction s ∧ engine.direction s ≤ 85 / 100 := by
  obtain ⟨htrend, hmomentum, hreturn⟩ := parts_mem engine s
  unfold direction
  exact ⟨by linarith, by linarith⟩

/-- Without one of the three the direction is at most 0.67. -/
theorem pointsUp_of_lt (h : 67 / 100 < engine.direction s) : engine.PointsUp s := by
  obtain ⟨htrend, hmomentum, hreturn⟩ := parts_mem engine s
  unfold direction at h
  -- 0.27 + 0.30 + 0.10, 0.45 + 0.10 and 0.45 + 0.30 - 0.10 are all at most 0.67
  refine ⟨?_, ?_, ?_⟩
  · rcases trendOf_cases (nthLast s.closes 0) (engine.measured s).fast (engine.measured s).slow with
      ⟨hup, -⟩ | ⟨-, hdown⟩ | hweak
    · exact hup
    · rw [hdown] at htrend h
      linarith
    · linarith
  · rcases momentumOf_cases engine.config.toTechnicalFields (engine.measured s).rsi
      (engine.measured s).histogram with ⟨hup, -⟩ | ⟨-, hdown⟩ | hweak
    · exact hup
    · linarith
    · linarith
  · rcases returnOf_cases (engine.measured s).latestReturn with
      ⟨hup, -⟩ | ⟨-, hdown⟩ | ⟨hzero, -⟩
    · exact hup.le
    · linarith
    · exact hzero.ge

/-- Below -0.67 all three parts point down. -/
theorem pointsDown_of_lt (h : engine.direction s < -(67 / 100)) : engine.PointsDown s := by
  obtain ⟨htrend, hmomentum, hreturn⟩ := parts_mem engine s
  unfold direction at h
  -- two parts in full cannot make up for the third
  refine ⟨?_, ?_, ?_⟩
  · rcases trendOf_cases (nthLast s.closes 0) (engine.measured s).fast (engine.measured s).slow with
      ⟨-, hup⟩ | ⟨hdown, -⟩ | hweak
    · rw [hup] at htrend h
      linarith
    · exact hdown
    · linarith
  · rcases momentumOf_cases engine.config.toTechnicalFields (engine.measured s).rsi
      (engine.measured s).histogram with ⟨-, hup⟩ | ⟨hdown, -⟩ | hweak
    · linarith
    · exact hdown
    · linarith
  · rcases returnOf_cases (engine.measured s).latestReturn with
      ⟨-, hup⟩ | ⟨hdown, -⟩ | ⟨hzero, -⟩
    · linarith
    · exact hdown.le
    · exact hzero.le

/-- The state of a timeframe on which the range filter fires: a quarter of its direction. -/
theorem stateOf_ranging (h : engine.RangeFires s) :
    (engine.stateOf s).val.trend = .neutral ∧
      (engine.stateOf s).val.score = engine.direction s * (25 / 100) := by
  obtain ⟨hnear, hswing⟩ := h
  have hmem := @direction_mem engine s
  have hstate : (engine.stateOf s).val.score =
      min 1 (max (-1) (engine.direction s * (25 / 100))) ∧
      (engine.stateOf s).val.trend = .neutral := by
    unfold stateOf timeframeState direction
    simp only [hswing, rangeFilter, hnear, and_self, if_true, zero_mul, add_zero]
  refine ⟨hstate.2, ?_⟩
  -- a quarter of the direction needs no clamping
  rw [hstate.1, max_eq_right (by linarith), min_eq_right (by linarith)]

end Timeframe

section Market

variable {engine : TechnicalAnalysisEngine} {definition : AgentDefinition} {roleInput : RoleInput}
variable {roleVersion : String} {r : AgentAnalysisResult} {series : List MarketDataSeries}

/-- The directions of the timeframes are below 0.72 in the mean, or beyond it on both sides. -/
def Undirected (engine : TechnicalAnalysisEngine) (series : List MarketDataSeries) : Prop :=
  |weightedMean (fun s : MarketDataSeries => engine.config.weight s.timeframe) engine.direction
    series| < 72 / 100 ∨
  (∃ s ∈ series, 72 / 100 < engine.direction s) ∧ ∃ s ∈ series, engine.direction s < -(72 / 100)

/-- It takes a timeframe on which all indicators agree to direct the opinion. -/
theorem undirected_of_not_aligned (hne : series ≠ [])
    (h : ∀ s ∈ series, ¬ engine.PointsUp s ∧ ¬ engine.PointsDown s) :
    Undirected engine series := by
  have hweight := fun s : MarketDataSeries => weight_pos engine.config s.timeframe
  have hle : ∀ s ∈ series, engine.direction s ≤ 67 / 100 := by
    intro s hs
    by_contra hlt
    exact (h s hs).1 (pointsUp_of_lt (not_le.mp hlt))
  have hge : ∀ s ∈ series, -(67 / 100) ≤ engine.direction s := by
    intro s hs
    by_contra hlt
    exact (h s hs).2 (pointsDown_of_lt (not_le.mp hlt))
  -- then the mean is within 0.67 as well
  refine .inl (abs_lt.mpr ⟨?_, ?_⟩)
  · exact lt_of_lt_of_le (by norm_num) (le_weightedMean hweight hne hge)
  · exact lt_of_le_of_lt (weightedMean_le hweight hne hle) (by norm_num)

/-- If every series ranges, the score is a quarter of the mean direction. -/
theorem weightedOf_ranging (hrange : ∀ s ∈ series, engine.RangeFires s) :
    weightedOf engine.config.toTechnicalFields (series.map engine.stateOf) =
      weightedMean (fun s : MarketDataSeries => engine.config.weight s.timeframe)
        engine.direction series * (25 / 100) := by
  -- each state has a quarter of its direction as score
  have hscores : series.map (fun s => (engine.stateOf s).val.score *
        engine.config.weight (engine.stateOf s).val.timeframe) =
      series.map (fun s => 25 / 100 * (engine.direction s * engine.config.weight s.timeframe)) := by
    refine List.map_congr_left fun s hs => ?_
    rw [(stateOf_ranging (hrange s hs)).2]
    change engine.direction s * (25 / 100) * engine.config.weight s.timeframe = _
    ring
  unfold weightedOf weightedMean
  rw [List.map_map, List.map_map]
  change (series.map (fun s => (engine.stateOf s).val.score *
      engine.config.weight (engine.stateOf s).val.timeframe)).sum /
    (series.map (fun s => engine.config.weight s.timeframe)).sum = _
  rw [hscores, List.sum_map_mul_left]
  ring

/-- The opinion is neutral for a weak score or a conflict, and only then. -/
theorem concluded_neutral_iff (config : TechnicalFields) (states : List TimeframeAnalysis) :
    (concluded config states).1 = .neutral ↔
      |weightedOf config states| < config.neutralThreshold ∨ Conflict config states := by
  unfold concluded
  simp only
  split
  · rename_i hneutral
    exact iff_of_true rfl hneutral
  · rename_i hdirected
    refine iff_of_false ?_ hdirected
    split
    · exact fun h => by cases h
    · exact fun h => by cases h

/-- The threshold of the default configuration. -/
theorem neutralThreshold_eq {pipeline : FeaturePipelineConfig}
    (hconfig : engine.config = TechnicalRoleConfig.defaults pipeline) :
    engine.config.neutralThreshold = 18 / 100 := by
  rw [hconfig]
  rfl

/-- A quarter of the direction is beyond 0.18 where the direction is beyond 0.72. -/
theorem conflict_ranging {pipeline : FeaturePipelineConfig}
    (hconfig : engine.config = TechnicalRoleConfig.defaults pipeline)
    (hrange : ∀ s ∈ series, engine.RangeFires s) :
    Conflict engine.config.toTechnicalFields (series.map engine.stateOf) ↔
      (∃ s ∈ series, 72 / 100 < engine.direction s) ∧
        ∃ s ∈ series, engine.direction s < -(72 / 100) := by
  rw [conflict_iff, neutralThreshold_eq hconfig]
  simp only [List.mem_map, exists_exists_and_eq_and]
  refine and_congr (exists_congr fun s => and_congr_right fun hs => ?_)
    (exists_congr fun s => and_congr_right fun hs => ?_)
  · rw [(stateOf_ranging (hrange s hs)).2]
    constructor <;> intro h <;> linarith
  · rw [(stateOf_ranging (hrange s hs)).2]
    constructor <;> intro h <;> linarith

/-- The opinion on a market in which the range filter fires on every timeframe, with the default
    parameters and any pipeline. Every trend is reported as neutral, and the opinion is `NEUTRAL`
    exactly if the market is undirected before the filter. -/
theorem ranging_neutral_iff (pipeline : FeaturePipelineConfig)
    (hconfig : engine.config = TechnicalRoleConfig.defaults pipeline)
    (h : engine.analyze definition roleInput roleVersion = .ok r) (hbias : r.val.bias ≠ .abstain)
    (hrange : ∀ s ∈ roleInput.marketData.series, engine.RangeFires s) :
    (∀ state ∈ r.val.timeframeStates, state.val.trend = .neutral) ∧
      (r.val.bias = .neutral ↔ Undirected engine roleInput.marketData.series) := by
  obtain ⟨evidence, ranges, -, -, hfields⟩ := (opines_of_bias h hbias).formed
  rw [hfields]
  constructor
  · change ∀ state ∈ roleInput.marketData.series.map engine.stateOf, _
    rw [List.forall_mem_map]
    exact fun s hs => (stateOf_ranging (hrange s hs)).1
  · change (concluded engine.config.toTechnicalFields
      (roleInput.marketData.series.map engine.stateOf)).1 = .neutral ↔ _
    rw [concluded_neutral_iff, weightedOf_ranging hrange, conflict_ranging hconfig hrange,
      neutralThreshold_eq hconfig, abs_mul, abs_of_pos (show (0 : Rat) < 25 / 100 by norm_num)]
    -- 0.18 is a quarter of 0.72
    refine or_congr ?_ Iff.rfl
    constructor <;> intro h <;> linarith

end Market

end TechnicalAnalysisEngine

namespace Deployment

/-- A candle that closes a tenth higher than the one before, in a range from 90 to 120. -/
def risingCandle (hour : Nat) : BarFields Rat :=
  candle hour (100 + hour / 10) 120 90 (100 + (hour + 1) / 10)

theorem rising_valid : ∀ hour < 5, (risingCandle hour).Valid := by decide +kernel

theorem risingHours_valid : SeriesFields.Valid
    { provider := "binance-public"
      instrument := "ETHUSDT"
      timeframe := .h1
      asOf := seconds 18000
      bars := (List.finRange 5).map fun i : Fin 5 => ⟨risingCandle i, rising_valid i i.isLt⟩ } := by
  decide +kernel

/-- Five hours of a slow rise within wide ranges. -/
def risingHours : MarketDataSeries where
  provider := "binance-public"
  instrument := "ETHUSDT"
  timeframe := .h1
  asOf := seconds 18000
  bars := (List.finRange 5).map fun i : Fin 5 => ⟨risingCandle i, rising_valid i i.isLt⟩
  valid := risingHours_valid

theorem risingHours_ranging : (smallEngine exactOps).RangeFires risingHours := by
  decide +kernel

theorem risingHours_long :
    (((smallEngine exactOps).analyze (hourlyDefinition 5 (by decide))
      (ethInput risingHours) "1.0.0").map fun r => r.val.bias) = .ok .long := by
  decide +kernel

end Deployment

open Deployment TechnicalAnalysisEngine in
/-- The rising series: every state is neutral, and the opinion is neutral exactly if it is
    undirected. -/
theorem ranging_neutral_iff_rising :
    ∃ r, (smallEngine exactOps).analyze (hourlyDefinition 5 (by decide))
        (ethInput risingHours) "1.0.0" = .ok r ∧
      (∀ state ∈ r.val.timeframeStates, state.val.trend = .neutral) ∧
      (r.val.bias = .neutral ↔
        Undirected (smallEngine exactOps) (ethInput risingHours).marketData.series) := by
  obtain ⟨r, hr, hbias⟩ := Except.map_eq_ok.mp risingHours_long
  exact ⟨r, hr, ranging_neutral_iff smallPipeline rfl hr (by rw [hbias]; decide)
    fun s hs => List.mem_singleton.mp hs ▸ risingHours_ranging⟩

open Deployment in
/-- Closes that rise from 100.1 to 100.5 within ranges of 30: the filter fires, the trend is
    reported as neutral, and the opinion is `LONG`. -/
theorem ranging_long :
    (∀ s ∈ (ethInput risingHours).marketData.series,
      (smallEngine exactOps).RangeFires s) ∧
    ∃ r, (smallEngine exactOps).analyze (hourlyDefinition 5 (by decide))
        (ethInput risingHours) "1.0.0" = .ok r ∧ r.val.bias = .long := by
  refine ⟨fun s hs => List.mem_singleton.mp hs ▸ risingHours_ranging, ?_⟩
  exact Except.map_eq_ok.mp risingHours_long

end Tomiris
