import Tomiris.Spec.Analysis

/-!
# The price unit

Prices in another unit are all multiplied by one factor. The averages, the ranges and the histogram
are then multiplied by it as well, the RSI, the returns and the shares stay what they are, and each
comparison of the engine has the factor on both sides or on neither.

## Key results

- `emaValues_mul`, `wilder_mul`, `trueRanges_mul`: the loops in another unit
- `measure_scale`: what the pipeline measures
- `opinion_price_unit`: the opinion does not depend on the unit
-/

namespace Tomiris

open Except Smoothing

section Loops

variable {c : Rat}

/-- A look-up from the end. -/
theorem nthLast_mul (l : List Rat) (back : Nat) :
    nthLast (l.map (c * ·)) back = c * nthLast l back := by
  unfold nthLast
  rw [← List.map_reverse, List.getD_eq_getElem?_getD, List.getD_eq_getElem?_getD,
    List.getElem?_map]
  cases l.reverse[back]? with
  | none => simp
  | some x => rfl

/-- Smoothing is linear, so it scales from its start on. -/
theorem emaFrom_mul (multiplier last : Rat) (values : List Rat) :
    emaFrom multiplier (c * last) (values.map (c * ·)) =
      (emaFrom multiplier last values).map (c * ·) := by
  induction values generalizing last with
  | nil => rfl
  | cons value rest ih =>
    -- the step of the loop is a blend
    have hnext : (c * value - c * last) * multiplier + c * last =
        c * ((value - last) * multiplier + last) := blend_mul value
    simp only [List.map_cons, emaFrom]
    rw [hnext, ih]

/-- All values of an average scale. -/
theorem emaValues_mul (values : List Rat) (period : Nat) :
    emaValues (values.map (c * ·)) period = (emaValues values period).map (c * ·) := by
  cases values with
  | nil => rfl
  | cons value rest => simp only [List.map_cons, emaValues, emaFrom_mul]

/-- So does the difference of two averages. -/
theorem macdLine_mul (fast slow : Nat) (closes : List Rat) :
    macdLine fast slow (closes.map (c * ·)) = (macdLine fast slow closes).map (c * ·) := by
  unfold macdLine
  rw [emaValues_mul, emaValues_mul, List.zipWith_map, List.map_zipWith]
  simp only [mul_sub]

/-- Wilder's average is linear too. -/
theorem wilder_mul {period : Nat} (hperiod : 1 ≤ period) (values : List Rat) :
    wilder period (values.map (c * ·)) = c * wilder period values := by
  have hmean : ((values.map (c * ·)).take period).sum / (period : Rat) =
      c * ((values.take period).sum / period) := by
    rw [← List.map_take, List.sum_map_mul_left, List.map_id', mul_div_assoc]
  rw [wilder_eq hperiod, wilder_eq hperiod, hmean, ← List.map_drop, foldl_blend_mul]

/-- The changes of prices scale like prices. -/
theorem changes_mul (values : List Rat) :
    changes (values.map (c * ·)) = (changes values).map (c * ·) := by
  unfold changes
  rw [← List.map_tail, List.zip_map, List.map_map, List.map_map]
  refine List.map_congr_left fun pair _ => ?_
  simp [mul_sub]

/-- High, low and close in another unit. -/
def scaleCandle (c : Rat) (candle : Rat × Rat × Rat) : Rat × Rat × Rat :=
  (c * candle.1, c * candle.2.1, c * candle.2.2)

/-- A true range is a maximum of distances, which keeps a positive factor. -/
theorem trueRanges_mul (hc : 0 < c) (previousClose : Option Rat)
    (candles : List (Rat × Rat × Rat)) :
    ATRFeature.trueRanges (previousClose.map (c * ·)) (candles.map (scaleCandle c)) =
      (ATRFeature.trueRanges previousClose candles).map (c * ·) := by
  induction candles generalizing previousClose with
  | nil => rfl
  | cons candle rest ih =>
    obtain ⟨high, low, close⟩ := candle
    have hrest := ih (some close)
    rw [Option.map_some] at hrest
    -- a distance keeps a positive factor
    have hdist : ∀ a b : Rat, |c * a - c * b| = c * |a - b| := by
      intro a b
      rw [← mul_sub, abs_mul, abs_of_pos hc]
    cases previousClose with
    | none =>
      simp only [List.map_cons, scaleCandle, Option.map_none, ATRFeature.trueRanges, hrest, mul_sub]
    | some previous =>
      simp only [List.map_cons, scaleCandle, Option.map_some, ATRFeature.trueRanges, hrest, hdist,
        mul_max_of_nonneg _ _ hc.le, mul_sub]

/-- Wilder's average of a part of each change that has the unit of the change. -/
theorem wilder_changes_mul {part : Rat → Rat} (hpart : ∀ change, part (c * change) = c * part change)
    {period : Nat} (hperiod : 1 ≤ period) (closes : List Rat) :
    wilder period ((changes (closes.map (c * ·))).map part) =
      c * wilder period ((changes closes).map part) := by
  rw [changes_mul, ← wilder_mul hperiod, List.map_map, List.map_map]
  congr 1
  exact List.map_congr_left fun change _ => hpart change

/-- Gains are cut off at zero, which a positive factor does not move. -/
theorem averageGain_mul (hc : 0 < c) {period : Nat} (hperiod : 1 ≤ period) (closes : List Rat) :
    averageGain period (closes.map (c * ·)) = c * averageGain period closes :=
  wilder_changes_mul (fun _ => by simp [mul_max_of_nonneg _ _ hc.le]) hperiod closes

/-- So are losses. -/
theorem averageLoss_mul (hc : 0 < c) {period : Nat} (hperiod : 1 ≤ period) (closes : List Rat) :
    averageLoss period (closes.map (c * ·)) = c * averageLoss period closes :=
  wilder_changes_mul (fun _ => by simp [mul_max_of_nonneg _ _ hc.le]) hperiod closes

/-- A share has no unit. -/
theorem gainShare_mul (hc : 0 < c) (gain loss : Rat) :
    gainShare (c * gain) (c * loss) = gainShare gain loss := by
  have hzero : c * (gain + loss) = 0 ↔ gain + loss = 0 := mul_eq_zero_iff_left hc.ne'
  have hshare : 100 * (c * gain) / (c * (gain + loss)) = 100 * gain / (gain + loss) := by
    rw [mul_left_comm, mul_div_mul_left _ _ hc.ne']
  unfold gainShare
  rw [← mul_add, hshare]
  simp only [hzero]

/-- Neither has a ratio of closes. -/
theorem logRatios_mul (hc : 0 < c) (ops : FloatOps) (closes : List Rat) :
    logRatios ops (closes.map (c * ·)) = logRatios ops closes := by
  unfold logRatios
  rw [← List.map_tail, List.zip_map, List.map_map]
  refine List.map_congr_left fun pair _ => ?_
  simp [mul_div_mul_left _ _ hc.ne']

/-- A positive factor keeps the greatest price the greatest. -/
theorem max?_mul (hc : 0 < c) (l : List Rat) : (l.map (c * ·)).max? = l.max?.map (c * ·) := by
  cases l with
  | nil => rfl
  | cons x rest =>
    rw [List.map_cons, List.max?_cons', List.max?_cons', Option.map_some]
    congr 1
    exact List.foldl_map_hom fun a b => (mul_max_of_nonneg a b hc.le).symm

/-- And the least the least. -/
theorem min?_mul (hc : 0 < c) (l : List Rat) : (l.map (c * ·)).min? = l.min?.map (c * ·) := by
  cases l with
  | nil => rfl
  | cons x rest =>
    rw [List.map_cons, List.min?_cons', List.min?_cons', Option.map_some]
    congr 1
    exact List.foldl_map_hom fun a b => (mul_min_of_nonneg a b hc.le).symm

end Loops

/-- The text of a float has its digits, a sign, a point, and an exponent of at most five characters
    or at most four zeros. -/
def FloatOps.Short (ops : FloatOps) : Prop :=
  ∀ digits x, (ops.general digits x).length ≤ digits + 8

section Units

variable (c : Rat) (hc : 0 < c)

/-- The validators of a bar compare prices with each other and with zero. -/
theorem scaled_bar_valid (hc : 0 < c) (b : OHLCVBar) : BarFields.Valid
    { b.toBarFields with
      «open» := c * b.open, high := c * b.high, low := c * b.low, close := c * b.close } where
  provider := b.valid.provider
  instrument := b.valid.instrument
  freshness := b.valid.freshness
  provenance := b.valid.provenance
  datetimes := b.valid.datetimes
  times := b.valid.times
  -- order and sign of the prices keep a positive factor
  positive :=
    have hpositive := b.valid.positive
    ⟨mul_pos hc hpositive.1, mul_pos hc hpositive.2.1, mul_pos hc hpositive.2.2.1,
      mul_pos hc hpositive.2.2.2⟩
  high_max :=
    have hmax := b.valid.high_max
    ⟨mul_le_mul_of_nonneg_left hmax.1 hc.le, mul_le_mul_of_nonneg_left hmax.2.1 hc.le,
      mul_le_mul_of_nonneg_left hmax.2.2 hc.le⟩
  low_min :=
    have hmin := b.valid.low_min
    ⟨mul_le_mul_of_nonneg_left hmin.1 hc.le, mul_le_mul_of_nonneg_left hmin.2.1 hc.le,
      mul_le_mul_of_nonneg_left hmin.2.2 hc.le⟩
  volume := b.valid.volume

/-- The bar in another price unit. -/
def OHLCVBar.scale (b : OHLCVBar) : OHLCVBar where
  toBarFields := { b.toBarFields with
    «open» := c * b.open, high := c * b.high, low := c * b.low, close := c * b.close }
  valid := scaled_bar_valid c hc b

/-- The ones of a series look at no price. -/
theorem scaled_series_valid (s : MarketDataSeries) : SeriesFields.Valid
    { s.toSeriesFields with bars := s.bars.map (OHLCVBar.scale c hc) } where
  provider := s.valid.provider
  instrument := s.valid.instrument
  bars := by
    rw [List.length_map]
    exact s.valid.bars
  identity := by
    rw [List.forall_mem_map]
    exact s.valid.identity

/-- The series in another price unit. -/
def MarketDataSeries.scale (s : MarketDataSeries) : MarketDataSeries where
  toSeriesFields := { s.toSeriesFields with bars := s.bars.map (OHLCVBar.scale c hc) }
  valid := scaled_series_valid c hc s

/-- A bundle keeps its number of series. -/
theorem scaled_series_bounds (bundle : MarketDataBundle) :
    1 ≤ (bundle.series.map (MarketDataSeries.scale c hc)).length ∧
      (bundle.series.map (MarketDataSeries.scale c hc)).length ≤ 50 := by
  rw [List.length_map]
  exact bundle.series_bounds

/-- The input with all prices in another unit. -/
def RoleInput.scale (roleInput : RoleInput) : RoleInput where
  context := roleInput.context
  marketData := { roleInput.marketData with
    series := roleInput.marketData.series.map (MarketDataSeries.scale c hc)
    series_bounds := scaled_series_bounds c hc roleInput.marketData }
  matching_snapshot := roleInput.matching_snapshot
  matching_cutoff := roleInput.matching_cutoff

variable {c : Rat} {hc : 0 < c} {s : MarketDataSeries}

/-- The closes are scaled. -/
theorem closes_scale : (s.scale c hc).closes = s.closes.map (c * ·) := by
  unfold MarketDataSeries.closes MarketDataSeries.scale
  rw [List.map_map, List.map_map]
  rfl

/-- So are the candles. -/
theorem candles_scale : (s.scale c hc).candles = s.candles.map (scaleCandle c) := by
  unfold MarketDataSeries.candles MarketDataSeries.scale
  rw [List.map_map, List.map_map]
  rfl

/-- Volumes are counted in another unit. -/
theorem volumes_scale : (s.scale c hc).volumes = s.volumes := by
  unfold MarketDataSeries.volumes MarketDataSeries.scale
  rw [List.map_map]
  rfl

/-- The bars are as many. -/
theorem length_scale : (s.scale c hc).bars.length = s.bars.length := List.length_map _

/-- The first bar is the first one, scaled. -/
theorem firstBar_scale : (s.scale c hc).firstBar = s.firstBar.scale c hc := List.head_map ..

/-- The last bar is the last one, scaled. -/
theorem lastBar_scale : (s.scale c hc).lastBar = s.lastBar.scale c hc := List.getLast_map ..

/-- The numbers that are prices, in another unit. -/
def TechnicalAnalysisEngine.Indicators.scale (c : Rat) (x : TechnicalAnalysisEngine.Indicators) :
    TechnicalAnalysisEngine.Indicators :=
  { x with fast := c * x.fast, slow := c * x.slow, histogram := c * x.histogram, atr := c * x.atr }

/-- What the engine measures: averages, histogram and range scale, ratios do not. -/
theorem measure_scale (ops : FloatOps) (config : FeaturePipelineConfig) :
    measure ops config.toPipelineFields (s.scale c hc) =
      (measure ops config.toPipelineFields s).scale c := by
  have hvalid := config.valid
  have hrsi : 1 ≤ config.rsiPeriod := by
    have hbounds := hvalid.rsi.1
    omega
  have hatr : 1 ≤ config.atrPeriod := by
    have hbounds := hvalid.atr.1
    omega
  have hranges := trueRanges_mul hc none s.candles
  rw [Option.map_none] at hranges
  unfold measure TechnicalAnalysisEngine.Indicators.scale
  -- prices in the first group of numbers, quotients of prices in the other
  simp only [closes_scale, candles_scale, volumes_scale, emaValues_mul, macdLine_mul, nthLast_mul,
    averageGain_mul hc hrsi, averageLoss_mul hc hrsi, gainShare_mul hc, hranges, wilder_mul hatr,
    logRatios_mul hc, mul_div_mul_left _ _ hc.ne', mul_sub]

end Units

namespace TechnicalAnalysisEngine

section States

variable {c : Rat}

/-- The trend compares prices with each other only. -/
theorem trendOf_mul (hc : 0 < c) (close fast slow : Rat) :
    trendOf (c * close) (c * fast) (c * slow) = trendOf close fast slow := by
  simp only [trendOf, mul_lt_mul_iff_right₀ hc]

/-- The momentum looks at the sign of the histogram. -/
theorem momentumOf_mul (hc : 0 < c) (config : TechnicalFields) (rsi histogram : Rat) :
    momentumOf config rsi (c * histogram) = momentumOf config rsi histogram := by
  have hneg : c * histogram < 0 ↔ histogram < 0 := by
    rw [← mul_lt_mul_iff_right₀ hc (b := histogram), mul_zero]
  simp only [momentumOf, mul_pos_iff_of_pos_left hc, hneg]

/-- The swing compares the close with earlier highs and lows. -/
theorem swingOf_mul (hc : 0 < c) (close : Rat) (prior : List (Rat × Rat × Rat)) :
    swingOf (c * close) (prior.map (scaleCandle c)) = swingOf close prior := by
  -- the highs and lows are those of the prior candles, times `c`
  have hhighs : (prior.map (scaleCandle c)).map (fun candle => candle.1) =
      (prior.map (fun candle => candle.1)).map (c * ·) := by
    rw [List.map_map, List.map_map]
    rfl
  have hlows : (prior.map (scaleCandle c)).map (fun candle => candle.2.1) =
      (prior.map (fun candle => candle.2.1)).map (c * ·) := by
    rw [List.map_map, List.map_map]
    rfl
  unfold swingOf
  rw [hhighs, hlows, max?_mul hc, min?_mul hc]
  cases (prior.map (fun candle => candle.1)).max? with
  | none => rfl
  -- both comparisons keep a positive factor
  | some high =>
    cases (prior.map (fun candle => candle.2.1)).min? with
    | none => rfl
    | some low => simp only [Option.map_some, mul_lt_mul_iff_right₀ hc]

/-- The window of earlier candles is chosen by number. -/
theorem priorCandles_scale (hc : 0 < c) (config : TechnicalFields) (s : MarketDataSeries) :
    priorCandles config (s.scale c hc) = (priorCandles config s).map (scaleCandle c) := by
  unfold priorCandles List.rtake
  rw [candles_scale, length_scale, ← List.map_dropLast, List.length_map, List.map_drop]

/-- The range filter compares two distances. -/
theorem rangeLike_mul (hc : 0 < c) (fast slow atr ratio : Rat) :
    |c * fast - c * slow| < c * atr * ratio ↔ |fast - slow| < atr * ratio := by
  rw [← mul_sub, abs_mul, abs_of_pos hc, mul_assoc, mul_lt_mul_iff_right₀ hc]

/-- The state of a timeframe has no unit. -/
theorem timeframeState_scale (hc : 0 < c) (config : TechnicalFields) (s : MarketDataSeries)
    (close : Rat) (x : Indicators) :
    timeframeState config (s.scale c hc) (c * close) (x.scale c) =
      timeframeState config s close x := by
  unfold timeframeState Indicators.scale
  simp only [trendOf_mul hc, momentumOf_mul hc, priorCandles_scale, swingOf_mul hc, rangeLike_mul hc]
  rfl

variable {engine : TechnicalAnalysisEngine}

/-- The state of a timeframe has no price in it. -/
theorem stateOf_scale (hc : 0 < c) (s : MarketDataSeries) :
    engine.stateOf (s.scale c hc) = engine.stateOf s := by
  apply Subtype.ext
  change timeframeState _ _ _ _ = timeframeState _ _ _ _
  rw [closes_scale, nthLast_mul, measure_scale, timeframeState_scale]

end States

section Evidence

variable {engine : TechnicalAnalysisEngine} {s : MarketDataSeries}

/-- The features that the evidence names, whether they are valid or not. -/
theorem reported_found (engine : TechnicalAnalysisEngine) (s : MarketDataSeries) :
    let config := engine.config.pipeline
    let features := reportedFeatures engine.ops config.toPipelineFields s
    (∃ ema, emaResult features config.emaSlow = .ok ema ∧
      (EMAFeature.feature config.emaSlow).Reports s ema) ∧
    (∃ rsi, feature features "rsi" = .ok rsi ∧
      (RSIFeature.feature config.rsiPeriod).Reports s rsi) ∧
    (∃ macd, feature features "macd" = .ok macd ∧
      (MACDFeature.feature config.macdFast config.macdSlow config.macdSignal).Reports s macd) ∧
    ∃ atr, feature features "atr" = .ok atr ∧
      (ATRFeature.feature config.atrPeriod).Reports s atr := by
  intro config features
  obtain ⟨emaFast, emaSlow, rsi, macd, atr, return', volatility, volume, hfeatures, hreports⟩ :=
    pipeline_reports engine.ops config s
  rw [pipeline_eq] at hfeatures
  have hlist : features = [emaFast, emaSlow, rsi, macd, atr, return', volatility, volume] :=
    Except.ok.inj hfeatures
  rw [hlist]
  obtain ⟨hrsi, hmacd, hatr, -, -, -⟩ := feature_found hreports
  obtain ⟨-, hslow⟩ := emaResult_found hreports
  exact ⟨⟨emaSlow, hslow, hreports.ema_slow⟩, ⟨rsi, hrsi, hreports.rsi⟩,
    ⟨macd, hmacd, hreports.macd⟩, ⟨atr, hatr, hreports.atr⟩⟩

/-- A feature reports its own version. -/
theorem Feature.Reports.version {feature : Feature} {f : FeatureResult}
    (h : feature.Reports s f) : f.featureVersion = feature.featureVersion := by
  cases h <;> rfl

/-- A piece of evidence with an observation that fits. -/
theorem bind_evidence_ok {β : Type} (htype : boundedText 64 engine.evidenceType = true)
    {feature : Feature} {f : FeatureResult} (hreports : feature.Reports s f)
    (hname : boundedText 64 feature.featureName = true)
    (hversion : boundedText 32 feature.featureVersion = true) {observation : String}
    (hobservation : boundedText 500 observation = true)
    {rest : AnalyticalEvidence → Except ComputeError β} (hrest : ∀ item, ∃ b, rest item = .ok b) :
    ∃ b, (evidence engine.evidenceType s f observation >>= rest) = .ok b := by
  have hinstrument := s.valid.instrument
  simp only [isAsset, Bool.and_eq_true, decide_eq_true_eq] at hinstrument
  -- instrument, timeframe and two blanks in front of the observation
  have hsummary : boundedText 1000
      (s.instrument ++ " " ++ s.timeframe.value ++ " " ++ observation) = true := by
    rw [boundedText_iff] at hobservation ⊢
    have hblank : " ".length = 1 := rfl
    have htimeframe : s.timeframe.value.length ≤ 3 := by cases s.timeframe <;> decide
    simp only [String.length_append, hblank]
    omega
  have hname' : boundedText 64 f.featureName = true := by rwa [hreports.name]
  have hversion' : boundedText 32 f.featureVersion = true := by
    rwa [Feature.Reports.version hreports]
  exact bind_ok (construct_ok ⟨htype, hsummary, s.valid.provider,
    ⟨hinstrument.1.2, hinstrument.2⟩, hname', hversion', hobservation⟩) (hrest _)

/-- `STRONG_DOWN` is the longest. -/
theorem TrendState.value_length (trend : TrendState) : trend.value.length ≤ 11 := by
  cases trend <;> decide

/-- `BULLISH` is as long as `BEARISH` and `NEUTRAL`. -/
theorem MomentumState.value_length (momentum : MomentumState) : momentum.value.length ≤ 7 := by
  cases momentum <;> decide

/-- `EXTREME` is the longest. -/
theorem VolatilityState.value_length (volatility : VolatilityState) :
    volatility.value.length ≤ 7 := by
  cases volatility <;> decide

/-- The observations fit, whatever the numbers are. -/
theorem timeframeEvidence_ok (hshort : engine.ops.Short)
    (htype : boundedText 64 engine.evidenceType = true) (s : MarketDataSeries)
    (close slow rsi histogram atrPercent realizedVolatility : Rat) (trend : TrendState)
    (momentum : MomentumState) (volatility : VolatilityState) :
    ∃ items, timeframeEvidence engine.evidenceType engine.ops.general engine.config.pipeline s
      (reportedFeatures engine.ops engine.config.pipeline.toPipelineFields s) close slow rsi
      histogram atrPercent realizedVolatility trend momentum volatility = .ok items := by
  obtain ⟨⟨ema, hema, hema'⟩, ⟨rsiItem, hrsi, hrsi'⟩, ⟨macd, hmacd, hmacd'⟩, ⟨atr, hatr, hatr'⟩⟩ :=
    reported_found engine s
  -- each observation is its labels, at most two floats and a name
  refine bind_ok hema (bind_evidence_ok htype hema' (show boundedText 64 "ema" = true by decide)
    (show boundedText 32 "ema.v1" = true by decide) ?_ fun _ => ?_)
  · have hclose := hshort 8 close
    have hslow := hshort 8 slow
    have htrend := TrendState.value_length trend
    have hlabels : "close=".length = 6 ∧ "; ema_slow=".length = 11 ∧ "; trend=".length = 8 :=
      ⟨rfl, rfl, rfl⟩
    rw [boundedText_iff]
    simp only [String.length_append, hlabels]
    omega
  refine bind_ok hrsi (bind_evidence_ok htype hrsi' (show boundedText 64 "rsi" = true by decide)
    (show boundedText 32 "rsi.wilder.v1" = true by decide) ?_ fun _ => ?_)
  · have hindex := hshort 6 rsi
    have hmomentum := MomentumState.value_length momentum
    have hlabels : "rsi=".length = 4 ∧ "; momentum=".length = 11 := ⟨rfl, rfl⟩
    rw [boundedText_iff]
    simp only [String.length_append, hlabels]
    omega
  refine bind_ok hmacd (bind_evidence_ok htype hmacd' (show boundedText 64 "macd" = true by decide)
    (show boundedText 32 "macd.v1" = true by decide) ?_ fun _ => ?_)
  · have hhistogram := hshort 8 histogram
    have hlabel : "macd_histogram=".length = 15 := rfl
    rw [boundedText_iff]
    simp only [String.length_append, hlabel]
    omega
  refine bind_ok hatr (bind_evidence_ok htype hatr' (show boundedText 64 "atr" = true by decide)
    (show boundedText 32 "atr.wilder.v1" = true by decide) ?_ fun _ => ⟨_, rfl⟩)
  · have hpercent := hshort 8 atrPercent
    have hrealized := hshort 8 realizedVolatility
    have hregime := VolatilityState.value_length volatility
    have hlabels : "atr_percent=".length = 12 ∧ "; realized_volatility=".length = 22 ∧
        "; volatility=".length = 13 := ⟨rfl, rfl, rfl⟩
    rw [boundedText_iff]
    simp only [String.length_append, hlabels]
    omega

/-- The evidence for a series is made if the engine has a type for it. -/
theorem evidenceOf_ok (hshort : engine.ops.Short)
    (htype : boundedText 64 engine.evidenceType = true) (s : MarketDataSeries) :
    ∃ items, engine.evidenceOf s = .ok items :=
  timeframeEvidence_ok hshort htype s _ _ _ _ _ _ _ _ _

/-- The type of the evidence was checked with the first piece. -/
theorem evidenceType_of_ok {items : List AnalyticalEvidence} (h : engine.evidenceOf s = .ok items) :
    boundedText 64 engine.evidenceType = true := by
  obtain ⟨⟨ema, hema, -⟩, -, -, -⟩ := reported_found engine s
  unfold evidenceOf timeframeEvidence at h
  obtain ⟨f, -, h⟩ := bind_eq_ok.mp h
  obtain ⟨item, hitem, -⟩ := bind_eq_ok.mp h
  -- the piece was built, so its fields are valid
  have hvalid := item.property
  rw [construct_val hitem] at hvalid
  exact hvalid.1

end Evidence

section Engine

variable {engine : TechnicalAnalysisEngine} {definition : AgentDefinition} {roleInput : RoleInput}
variable {roleVersion : String} {r : AgentAnalysisResult} {c : Rat} {hc : 0 < c}

/-- The bundle of the scaled input. -/
theorem series_scale : (roleInput.scale c hc).marketData.series =
    roleInput.marketData.series.map (MarketDataSeries.scale c hc) := rfl

/-- The ranges tell times and numbers of bars. -/
theorem dataRanges_scale : dataRanges (roleInput.scale c hc) = dataRanges roleInput := by
  unfold dataRanges
  rw [series_scale, List.mapM_map]
  congr 1
  funext s
  rw [Function.comp_apply, firstBar_scale, lastBar_scale, length_scale]
  rfl

/-- A series keeps its instrument and timeframe. -/
theorem actualSeries_scale : actualSeries (roleInput.scale c hc) = actualSeries roleInput := by
  unfold actualSeries
  rw [series_scale, List.map_map]
  rfl

/-- So the bundle is as complete. -/
theorem complete_scale : Complete definition (roleInput.scale c hc) ↔
    Complete definition roleInput := by
  unfold Complete
  rw [actualSeries_scale, series_scale, List.length_map]

/-- And as isolated. -/
theorem isolated_scale : Isolated (roleInput.scale c hc) ↔ Isolated roleInput := by
  unfold Isolated
  rw [series_scale, List.forall_mem_map]
  rfl

/-- The providers are the same. -/
theorem joinProviders_scale (series : List MarketDataSeries) :
    joinProviders (series.map (MarketDataSeries.scale c hc)) = joinProviders series := by
  unfold joinProviders
  rw [List.map_map]
  rfl

/-- And so are the closing times. -/
theorem latestClose_scale (series : List MarketDataSeries) (default : Int) :
    latestClose (series.map (MarketDataSeries.scale c hc)) default =
      latestClose series default := by
  have hclose : (fun s : MarketDataSeries => s.lastBar.closeTime) ∘ MarketDataSeries.scale c hc =
      fun s => s.lastBar.closeTime := by
    funext s
    rw [Function.comp_apply, lastBar_scale]
    rfl
  unfold latestClose
  rw [List.map_map, hclose]

/-- Only the texts of the evidence have the unit in them. -/
theorem opinedFields_scale (evidence evidence' : List (List AnalyticalEvidence))
    (ranges : List AnalysisDataRange) :
    opinedFields engine definition (roleInput.scale c hc) roleVersion evidence' ranges =
      { opinedFields engine definition roleInput roleVersion evidence ranges with
        evidence := evidence'.flatten.take definition.maxEvidenceItems.toNat } := by
  have hstates : (roleInput.scale c hc).marketData.series.map engine.stateOf =
      roleInput.marketData.series.map engine.stateOf := by
    rw [series_scale, List.map_map]
    exact List.map_congr_left fun s _ => stateOf_scale hc s
  unfold opinedFields
  rw [hstates, series_scale, joinProviders_scale, latestClose_scale]
  rfl

/-- An opinion has evidence, and evidence has been validated. -/
theorem evidenceType_of_opines {fields : ResultFields}
    (h : Opines engine definition roleInput roleVersion fields) :
    boundedText 64 engine.evidenceType = true := by
  obtain ⟨evidence, -, hevidence, -, -⟩ := h.formed
  obtain ⟨s, rest, hseries⟩ := List.exists_cons_of_ne_nil (series_ne_nil roleInput.marketData)
  rw [hseries] at hevidence
  obtain ⟨items, _, hitems, -, -⟩ := List.forall₂_cons_left_iff.mp hevidence
  exact evidenceType_of_ok hitems

/-- An opinion that is formed in one unit is formed in every other. -/
theorem opines_scale (hshort : engine.ops.Short)
    (h : Opines engine definition roleInput roleVersion r.val) :
    ∃ r' : AgentAnalysisResult,
      Opines engine definition (roleInput.scale c hc) roleVersion r'.val ∧
      r'.val = { r.val with evidence := r'.val.evidence } := by
  have htype := evidenceType_of_opines h
  obtain ⟨evidence, ranges, -, hranges, hfields⟩ := h.formed
  obtain ⟨evidence', hevidence'⟩ : ∃ evidence',
      (roleInput.scale c hc).marketData.series.mapM engine.evidenceOf = .ok evidence' :=
    mapM_ok fun s _ => evidenceOf_ok hshort htype s
  -- the checks are passed as before: identities, lengths and times have no unit
  have hhistory : ∀ s ∈ (roleInput.scale c hc).marketData.series,
      engine.config.pipeline.requiredHistory ≤ s.bars.length := by
    rw [series_scale, List.forall_mem_map]
    intro s hs
    rw [length_scale]
    exact h.history s hs
  have hscaled := @opinedFields_scale engine definition roleInput roleVersion c hc evidence
    evidence' ranges
  rw [← hfields] at hscaled
  have hevidence : (evidence'.flatten.take definition.maxEvidenceItems.toNat).length ≤ 20 := by
    have hmax := definition.valid.evidence.2
    rw [List.length_take]
    omega
  have hvalid : (opinedFields engine definition (roleInput.scale c hc) roleVersion evidence'
      ranges).Valid := by
    rw [hscaled]
    exact { r.property with evidence := hevidence }
  refine ⟨⟨_, hvalid⟩, ⟨isolated_scale.mpr h.isolated, complete_scale.mpr h.complete, hhistory,
    evidence', ranges, mapM_eq_ok.mp hevidence', ?_, rfl⟩, ?_⟩
  · rw [dataRanges_scale, hranges]
  · exact hscaled

/-- **The opinion does not depend on the price unit.** Multiplying all prices by a positive factor
    changes neither the bias nor the confidence, the reasons or the states. -/
theorem opinion_price_unit (hshort : engine.ops.Short)
    (h : engine.analyze definition roleInput roleVersion = .ok r) (hbias : r.val.bias ≠ .abstain)
    (c : Rat) (hc : 0 < c) :
    ∃ r', engine.analyze definition (roleInput.scale c hc) roleVersion = .ok r' ∧
      r'.val.bias = r.val.bias ∧ r'.val.confidence = r.val.confidence ∧
      r'.val.reasonCodes = r.val.reasonCodes ∧
      r'.val.timeframeStates = r.val.timeframeStates := by
  obtain ⟨r', hopines, hsame⟩ := @opines_scale engine definition roleInput roleVersion r c hc hshort
    (opines_of_bias h hbias)
  refine ⟨r', analyze_of_opines hopines, ?_⟩
  rw [hsame]
  exact ⟨rfl, rfl, rfl, rfl⟩

end Engine

end TechnicalAnalysisEngine

namespace Deployment

/-- No text of a number is longer than its digits, a sign, a point and an exponent. -/
theorem exactOps_short : exactOps.Short := by
  intro digits x
  simp only [exactOps, String.length_ofList, List.length_take]
  omega

/-- Candles that close higher each hour. -/
theorem climb_valid : ∀ hour < 5,
    (candle hour (100 + hour) (103 + hour) (99 + hour) (102 + hour)).Valid := by
  decide +kernel

/-- Five hours of them. -/
theorem climbingHours_valid : SeriesFields.Valid
    { provider := "binance-public"
      instrument := "ETHUSDT"
      timeframe := .h1
      asOf := seconds 18000
      bars := (List.finRange 5).map fun i : Fin 5 =>
        ⟨candle i (100 + i) (103 + i) (99 + i) (102 + i), climb_valid i i.isLt⟩ } := by
  decide +kernel

/-- Five hours, each a dollar above the one before. -/
def climbingHours : MarketDataSeries where
  provider := "binance-public"
  instrument := "ETHUSDT"
  timeframe := .h1
  asOf := seconds 18000
  bars := (List.finRange 5).map fun i : Fin 5 =>
    ⟨candle i (100 + i) (103 + i) (99 + i) (102 + i), climb_valid i i.isLt⟩
  valid := climbingHours_valid

/-- What the engine makes of them. -/
theorem climbingHours_bias :
    (((smallEngine exactOps).analyze (hourlyDefinition 5 (by decide)) (ethInput climbingHours)
      "1.0.0").map fun r => r.val.bias) = .ok .long := by
  decide +kernel

end Deployment

open Deployment in
/-- In cents instead of dollars. -/
theorem opinion_price_unit_cents :
    ∃ r r', (smallEngine exactOps).analyze (hourlyDefinition 5 (by decide)) (ethInput climbingHours)
        "1.0.0" = .ok r ∧
      (smallEngine exactOps).analyze (hourlyDefinition 5 (by decide))
        ((ethInput climbingHours).scale 100 (by decide)) "1.0.0" = .ok r' ∧
      r'.val.bias = .long ∧ r'.val.timeframeStates = r.val.timeframeStates := by
  obtain ⟨r, hr, hbias⟩ := Except.map_eq_ok.mp climbingHours_bias
  obtain ⟨r', hr', hsame, -, -, hstates⟩ :=
    @TechnicalAnalysisEngine.opinion_price_unit (smallEngine exactOps) _ _ _ _ exactOps_short hr
      (by rw [hbias]; decide) 100 (by decide)
  exact ⟨r, r', hr, hr', hsame.trans hbias, hstates⟩

end Tomiris
