import Tomiris.Spec.FloatTechnical

/-!
# Floats that are not rounded

The engine in exact arithmetic is the engine on floats whose format rounds nothing: the features,
the states of the timeframes and the opinion are the same, and so is every exception. Numbers stay
numbers, since no operation overflows and a quotient by zero is raised before it is formed.

## Key results

- `Floats.pipeline_exact`: the features of a series are the same
- `Floats.TechnicalAnalysisEngine.opinion_exact`: so is the opinion that is made of the states
- `Floats.TechnicalAnalysisEngine.analyze_exact`: the engines answer alike
-/

namespace Tomiris

open Except FloatFormat

/-- What Python would compute with if its floats were exact. -/
def FloatOps.tools (ops : FloatOps) : FloatTools where
  format := .exact
  sum := FloatFormat.exact.total
  sum_notNeg := fun _ => total_notNeg
  sum_ne_zero := fun _ => total_ne_zero
  log := fun q => .finite (ops.log q)
  pstdev := fun data => .finite (ops.pstdev data)
  general := fun
    | digits, .finite q => ops.general digits q
    | _, .nan => "nan"
    | _, .posInf => "inf"
    | _, .negInf => "-inf"

namespace Floats

section Operations

variable (ops : FloatOps) (p q : Rat) (l : List Rat)

@[simp] theorem tools_float : ops.tools.float q = .finite q := rfl

@[simp] theorem tools_add :
    ops.tools.format.add (.finite p) (.finite q) = .finite (p + q) := rfl

@[simp] theorem tools_sub :
    ops.tools.format.sub (.finite p) (.finite q) = .finite (p - q) := exact_sub p q

@[simp] theorem tools_mul :
    ops.tools.format.mul (.finite p) (.finite q) = .finite (p * q) := rfl

@[simp] theorem tools_sum : ops.tools.sum (l.map .finite) = .finite l.sum := exact_total l

/-- A quotient raises what it does in exact arithmetic. -/
@[simp] theorem tools_divide :
    ops.tools.divide (.finite p) (.finite q) = (divide p q).map .finite := by
  have hdiv : ops.tools.format.div (.finite p) (.finite q) =
      if q = 0 then none else some (.finite (p / q)) := exact_div p q
  unfold FloatTools.divide divide
  rw [hdiv]
  split_ifs <;> rfl

/-- By what is not zero it is a number. -/
theorem tools_divide_ok (h : q ≠ 0) :
    ops.tools.divide (.finite p) (.finite q) = .ok (.finite (p / q)) := by
  rw [tools_divide, divide, if_neg h]
  rfl

/-- So does a logarithm. -/
theorem tools_mathLog : ops.tools.mathLog (.finite q) = (ops.mathLog q).map .finite := by
  unfold FloatTools.mathLog FloatOps.mathLog
  simp only
  split_ifs <;> rfl

/-- And a standard deviation. -/
theorem tools_pstdev :
    ops.tools.statisticsPstdev (l.map .finite) = (ops.statisticsPstdev l).map .finite := by
  have hnumbers : (l.map PyFloat.finite).mapM PyFloat.finite? = some l := by
    induction l with
    | nil => rfl
    | cons x l ih =>
      rw [List.map_cons, List.mapM_cons, ih]
      rfl
  unfold FloatTools.statisticsPstdev FloatOps.statisticsPstdev
  rw [List.isEmpty_map, hnumbers]
  split_ifs <;> rfl

end Operations

section Series

variable (ops : FloatOps) (s : MarketDataSeries)

@[simp] theorem tools_closes : ops.tools.closes s = s.closes.map .finite := by
  simp [FloatTools.closes, MarketDataSeries.closes]

@[simp] theorem tools_volumes : ops.tools.volumes s = s.volumes.map .finite := by
  simp [FloatTools.volumes, MarketDataSeries.volumes]

/-- The numbers of a candle. -/
def finiteCandle (candle : Rat × Rat × Rat) : PyFloat × PyFloat × PyFloat :=
  (.finite candle.1, .finite candle.2.1, .finite candle.2.2)

@[simp] theorem tools_candles : ops.tools.candles s = s.candles.map finiteCandle := by
  simp [FloatTools.candles, MarketDataSeries.candles, finiteCandle]

/-- The last close. -/
theorem tools_fromEnd (back : Nat) :
    fromEnd (ops.tools.closes s) back = (fromEnd s.closes back).map .finite := by
  rw [tools_closes, fromEnd_map]

end Series

/-! ## Features -/

section Features

variable (ops : FloatOps) (s : MarketDataSeries)

/-- The loop keeps numbers. -/
theorem emaFrom_exact (multiplier last : Rat) (values : List Rat) :
    emaFrom ops.tools (.finite multiplier) (.finite last) (values.map .finite) =
      (Tomiris.emaFrom multiplier last values).map .finite := by
  induction values generalizing last with
  | nil => rfl
  | cons value values ih => simp [emaFrom, Tomiris.emaFrom, ih]

/-- Where nothing is rounded, the averages of the float loop are those of the exact one. -/
theorem emaValues_exact (values : List Rat) (period : Nat) :
    emaValues ops.tools (values.map .finite) period =
      (Tomiris.emaValues values period).map .finite := by
  cases values with
  | nil => rfl
  | cons value values => simp [emaValues, Tomiris.emaValues, emaFrom_exact]

/-- The exponential average of a series. -/
theorem ema_exact (period : Nat) :
    EMAFeature.compute ops.tools period s = Tomiris.EMAFeature.compute period s := by
  unfold EMAFeature.compute Tomiris.EMAFeature.compute
  split_ifs
  · rfl
  · rw [tools_closes, emaValues_exact, fromEnd_map, map_bind]
    rfl

/-- A smoothed average: its period is not zero. -/
theorem wilder_exact {period : Nat} (h : 2 ≤ period) (values : List Rat) :
    wilder ops.tools period (values.map .finite) =
      .ok (.finite (Tomiris.wilder period values)) := by
  have hne : (period : Rat) ≠ 0 := by
    have hpos : 0 < period := by omega
    exact_mod_cast hpos.ne'
  have hfold (average : Rat) (rest : List Rat) :
      (rest.map PyFloat.finite).foldlM (fun average value =>
        ops.tools.divide (ops.tools.format.add (ops.tools.format.mul average
          (ops.tools.float (period - 1))) value) (ops.tools.float period)) (.finite average) =
      .ok (.finite (rest.foldl
        (fun average value => (average * (period - 1) + value) / period) average)) := by
    induction rest generalizing average with
    | nil => rfl
    | cons value rest ih =>
      simp only [List.map_cons, List.foldlM_cons, List.foldl_cons, tools_float, tools_mul,
        tools_add]
      rw [tools_divide_ok ops _ _ hne]
      exact ih _
  unfold wilder Tomiris.wilder
  rw [← List.map_take, ← List.map_drop, tools_sum, tools_float, tools_divide_ok ops _ _ hne]
  exact hfold _ _

/-- The changes from close to close, which the RSI smooths. -/
theorem changes_exact (values : List Rat) :
    changes ops.tools (values.map .finite) = (Tomiris.changes values).map .finite := by
  simp [changes, Tomiris.changes, ← List.map_tail, List.zip_map, Function.comp_def]

/-- The index of two averages. -/
theorem index_exact (avgGain avgLoss : Rat) :
    RSIFeature.index ops.tools (.finite avgGain) (.finite avgLoss) =
      (Tomiris.RSIFeature.index avgGain avgLoss).map .finite := by
  unfold RSIFeature.index Tomiris.RSIFeature.index
  simp only [PyFloat.finite_isZero, decide_eq_true_eq, tools_float, tools_divide]
  split_ifs
  · rfl
  · rfl
  · cases divide avgGain avgLoss with
    | error e => rfl
    | ok ratio =>
      simp only [Except.map, ok_bind, tools_add, tools_divide]
      cases divide 100 (1 + ratio) <;> simp

/-- The RSI of a series, clamped as in the source. -/
theorem rsi_exact (period : Nat) :
    RSIFeature.compute ops.tools period s = Tomiris.RSIFeature.compute period s := by
  unfold RSIFeature.compute Tomiris.RSIFeature.compute
  simp only [tools_closes, List.length_map, changes_exact, List.map_map]
  split_ifs with h
  · rfl
  have hperiod : 2 ≤ period := by omega
  -- gains and losses are cut off at zero as numbers are
  have hgains : (fun change => change.max (ops.tools.float 0)) ∘ PyFloat.finite =
      PyFloat.finite ∘ fun change => max change 0 :=
    funext fun change => PyFloat.finite_max change 0
  have hlosses : (fun change => change.neg.max (ops.tools.float 0)) ∘ PyFloat.finite =
      PyFloat.finite ∘ fun change => max (-change) 0 :=
    funext fun change => PyFloat.finite_max (-change) 0
  rw [hgains, hlosses, ← List.map_map, ← List.map_map, wilder_exact ops hperiod,
    wilder_exact ops hperiod, ok_bind, ok_bind, index_exact, map_bind]
  simp only [tools_float, PyFloat.finite_max, PyFloat.finite_min]
  rfl

/-- The MACD, its signal line and its histogram. -/
theorem macd_exact (fast slow signal : Nat) :
    MACDFeature.compute ops.tools fast slow signal s =
      Tomiris.MACDFeature.compute fast slow signal s := by
  have hzip (l l' : List Rat) :
      List.zipWith ops.tools.format.sub (l.map .finite) (l'.map .finite) =
        (List.zipWith (· - ·) l l').map .finite := by
    simp [List.zipWith_map, List.map_zipWith]
  unfold MACDFeature.compute Tomiris.MACDFeature.compute
  simp only [tools_closes, List.length_map, emaValues_exact, hzip, fromEnd_map, map_bind]
  split_ifs
  · rfl
  · simp only [tools_sub]
    rfl

/-- The ranges of the bars, with or without one before them. -/
theorem trueRanges_exact (previousClose : Option Rat) (candles : List (Rat × Rat × Rat)) :
    ATRFeature.trueRanges ops.tools (previousClose.map .finite) (candles.map finiteCandle) =
      (Tomiris.ATRFeature.trueRanges previousClose candles).map .finite := by
  induction candles generalizing previousClose with
  | nil => rfl
  | cons candle candles ih =>
    obtain ⟨high, low, close⟩ := candle
    have hrest := ih (some close)
    rw [Option.map_some] at hrest
    cases previousClose <;>
      simp [ATRFeature.trueRanges, Tomiris.ATRFeature.trueRanges, finiteCandle, hrest, max_assoc]

/-- The ATR, and its percentage of the last close. -/
theorem atr_exact (period : Nat) :
    ATRFeature.compute ops.tools period s = Tomiris.ATRFeature.compute period s := by
  unfold ATRFeature.compute Tomiris.ATRFeature.compute
  split_ifs with h
  · rfl
  have hperiod : 2 ≤ period := by omega
  have hranges := trueRanges_exact ops none s.candles
  rw [Option.map_none] at hranges
  rw [tools_candles, hranges, wilder_exact ops hperiod, ok_bind, tools_fromEnd, map_bind]
  simp only [tools_divide, map_bind]
  rfl

/-- The return over the look-back. -/
theorem return_exact (lookback : Nat) :
    ReturnFeature.compute ops.tools lookback s = Tomiris.ReturnFeature.compute lookback s := by
  unfold ReturnFeature.compute Tomiris.ReturnFeature.compute
  simp only [tools_fromEnd, map_bind, tools_divide, tools_float, tools_sub]
  split_ifs <;> rfl

/-- The loop over the pairs of closes. -/
theorem logReturns_exact (closes : List Rat) :
    VolatilityFeature.logReturns ops.tools (closes.map .finite) =
      (Tomiris.VolatilityFeature.logReturns ops closes).map (List.map .finite) := by
  unfold VolatilityFeature.logReturns Tomiris.VolatilityFeature.logReturns
  rw [← List.map_tail, List.zip_map]
  induction closes.zip closes.tail with
  | nil => rfl
  | cons pair pairs ih =>
    rw [List.map_cons, List.mapM_cons, List.mapM_cons, ih]
    simp only [Prod.map, tools_divide, map_bind]
    cases divide pair.2 pair.1 with
    | error e => rfl
    | ok ratio =>
      simp only [ok_bind, tools_mathLog]
      cases ops.mathLog ratio with
      | error e => rfl
      | ok x =>
        cases List.mapM (fun pair => do ops.mathLog (← divide pair.2 pair.1)) pairs <;> rfl

/-- The volatility, with the same `log` and `pstdev` on both sides. -/
theorem volatility_exact (period : Nat) :
    VolatilityFeature.compute ops.tools period s =
      Tomiris.VolatilityFeature.compute ops period s := by
  unfold VolatilityFeature.compute Tomiris.VolatilityFeature.compute
  simp only [tools_closes, List.length_map, logReturns_exact, map_bind, ← List.map_rtake,
    tools_pstdev]
  split_ifs <;> rfl

/-- A mean of volumes over at least one bar. -/
theorem mean_exact {period : Nat} (h : 1 ≤ period) (values : List Rat) :
    VolumeTrendFeature.mean ops.tools period (values.map .finite) =
      .ok (.finite (Tomiris.VolumeTrendFeature.mean period values)) := by
  have hne : (period : Rat) ≠ 0 := by
    have hpos : 0 < period := by omega
    exact_mod_cast hpos.ne'
  unfold VolumeTrendFeature.mean Tomiris.VolumeTrendFeature.mean
  rw [← List.map_rtake, tools_sum, tools_float, tools_divide_ok ops _ _ hne]

/-- The ratio of the two means of the volume. -/
theorem volume_exact (shortPeriod longPeriod : Nat) :
    VolumeTrendFeature.compute ops.tools shortPeriod longPeriod s =
      Tomiris.VolumeTrendFeature.compute shortPeriod longPeriod s := by
  unfold VolumeTrendFeature.compute Tomiris.VolumeTrendFeature.compute
  by_cases h : shortPeriod < 1 ∨ longPeriod ≤ shortPeriod ∨ s.bars.length < longPeriod
  · simp only [if_pos h]
  · have hshort : 1 ≤ shortPeriod := by omega
    have hlong : 1 ≤ longPeriod := by omega
    simp only [if_neg h, tools_volumes, mean_exact ops hshort, mean_exact ops hlong, ok_bind,
      PyFloat.finite_isZero, decide_eq_true_eq, tools_float, tools_divide, map_bind]
    split_ifs <;> rfl

/-- The pipeline computes the same features, or raises the same exception. -/
theorem pipeline_exact (config : FeaturePipelineConfig) :
    TechnicalFeaturePipeline.compute ops.tools config s =
      Tomiris.TechnicalFeaturePipeline.compute ops config s := by
  unfold TechnicalFeaturePipeline.compute Tomiris.TechnicalFeaturePipeline.compute
  simp only [ema_exact, rsi_exact, macd_exact, atr_exact, return_exact, volatility_exact,
    volume_exact]

end Features

end Floats

/-! ## The engine -/

/-- A configuration whose numbers are floats. -/
def TechnicalFields.floats (c : TechnicalFields) : TechnicalFields PyFloat where
  pipeline := c.pipeline
  timeframeWeights := c.timeframeWeights.map (fun entry => (entry.1, .finite entry.2))
  neutralThreshold := .finite c.neutralThreshold
  strongTrendThreshold := .finite c.strongTrendThreshold
  rsiBullish := .finite c.rsiBullish
  rsiBearish := .finite c.rsiBearish
  highAtrPercent := .finite c.highAtrPercent
  extremeAtrPercent := .finite c.extremeAtrPercent
  highRealizedVolatility := .finite c.highRealizedVolatility
  extremeRealizedVolatility := .finite c.extremeRealizedVolatility
  rangeEmaAtrRatio := .finite c.rangeEmaAtrRatio
  swingLookback := c.swingLookback

/-- It passes the validators. -/
theorem TechnicalFields.Valid.floats {c : TechnicalFields} (h : c.Valid) :
    c.floats.ValidFloats .exact where
  weights := by
    refine ⟨fun hnil => h.weights.1 (List.map_eq_nil_iff.mp hnil), fun entry hentry => ?_⟩
    obtain ⟨weight, hweight, rfl⟩ := List.mem_map.mp hentry
    exact ⟨fun q hq => hq ▸ rfl, by simpa using h.weights.2 weight hweight⟩
  weight_keys := by simpa [TechnicalFields.floats, Function.comp_def] using h.weight_keys
  neutral := by simpa [TechnicalFields.floats] using h.neutral
  strong_trend := by simpa [TechnicalFields.floats] using h.strong_trend
  rsi_bullish := by simpa [TechnicalFields.floats] using h.rsi_bullish
  rsi_bearish := by simpa [TechnicalFields.floats] using h.rsi_bearish
  high_atr := by simpa [TechnicalFields.floats] using h.high_atr
  extreme_atr := by simpa [TechnicalFields.floats] using h.extreme_atr
  high_volatility := by simpa [TechnicalFields.floats] using h.high_volatility
  extreme_volatility := by simpa [TechnicalFields.floats] using h.extreme_volatility
  range_ratio := by simpa [TechnicalFields.floats] using h.range_ratio
  swing := h.swing
  rsi_order := by simpa [TechnicalFields.floats] using h.rsi_order
  atr_order := by simpa [TechnicalFields.floats] using h.atr_order
  volatility_order := by simpa [TechnicalFields.floats] using h.volatility_order

/-- The engine on floats that are not rounded. -/
def TechnicalAnalysisEngine.floats (engine : TechnicalAnalysisEngine) :
    Floats.TechnicalAnalysisEngine where
  tools := engine.ops.tools
  config := ⟨engine.config.toTechnicalFields.floats, engine.config.valid.floats⟩
  evidenceType := engine.evidenceType

namespace Floats.TechnicalAnalysisEngine

open Tomiris.TechnicalAnalysisEngine (Indicators)

section Timeframe

variable (ops : FloatOps) (config : TechnicalFields)

/-- The trend, and its score. -/
theorem trendOf_exact (close fast slow : Rat) :
    trendOf ops.tools (.finite close) (.finite fast) (.finite slow) =
      (Tomiris.TechnicalAnalysisEngine.trendOf close fast slow).map id .finite := by
  simp only [trendOf, Tomiris.TechnicalAnalysisEngine.trendOf, PyFloat.finite_lt, decide_eq_true_eq]
  split_ifs <;> rfl

/-- The momentum, and its score. -/
theorem momentumOf_exact (rsi histogram : Rat) :
    momentumOf ops.tools config.floats (.finite rsi) (.finite histogram) =
      (Tomiris.TechnicalAnalysisEngine.momentumOf config rsi histogram).map id .finite := by
  simp only [momentumOf, Tomiris.TechnicalAnalysisEngine.momentumOf, TechnicalFields.floats,
    PyFloat.finite_lt, PyFloat.finite_le, decide_eq_true_eq]
  split_ifs <;> rfl

/-- A third of a threshold is no division by zero. -/
theorem volatilityOf_exact (atrPercent realizedVolatility : Rat) :
    volatilityOf ops.tools config.floats (.finite atrPercent) (.finite realizedVolatility) =
      .ok (Tomiris.TechnicalAnalysisEngine.volatilityOf config atrPercent realizedVolatility) := by
  simp only [volatilityOf, Tomiris.TechnicalAnalysisEngine.volatilityOf, TechnicalFields.floats,
    PyFloat.finite_lt, PyFloat.finite_le, decide_eq_true_eq, tools_float,
    tools_divide_ok ops _ 3 (by norm_num), ok_bind]
  split_ifs <;> rfl

/-- The state of the volume. -/
theorem volumeStateOf_exact (volumeRatio : Rat) :
    volumeStateOf ops.tools (.finite volumeRatio) =
      Tomiris.TechnicalAnalysisEngine.volumeStateOf volumeRatio := by
  simp only [volumeStateOf, Tomiris.TechnicalAnalysisEngine.volumeStateOf, tools_float,
    PyFloat.finite_lt, decide_eq_true_eq]

/-- The sign of the return. -/
theorem returnOf_exact (latestReturn : Rat) :
    returnOf ops.tools (.finite latestReturn) =
      .finite (Tomiris.TechnicalAnalysisEngine.returnOf latestReturn) := by
  simp only [returnOf, Tomiris.TechnicalAnalysisEngine.returnOf, PyFloat.finite_lt,
    decide_eq_true_eq]
  split_ifs <;> rfl

/-- The candles of the swing window. -/
theorem priorCandles_exact (s : MarketDataSeries) :
    priorCandles ops.tools config.floats s =
      (Tomiris.TechnicalAnalysisEngine.priorCandles config s).map finiteCandle := by
  unfold priorCandles Tomiris.TechnicalAnalysisEngine.priorCandles
  rw [tools_candles, ← List.map_dropLast, List.map_rtake]
  rfl

/-- The highest high and the lowest low, by a loop on floats. -/
theorem swingOf_exact (close : Rat) (prior : List (Rat × Rat × Rat)) :
    swingOf ops.tools (.finite close) (prior.map finiteCandle) =
      .finite (Tomiris.TechnicalAnalysisEngine.swingOf close prior) := by
  have hhigh (rest : List (Rat × Rat × Rat)) (high : Rat) :
      (rest.map finiteCandle).foldl (fun (high : PyFloat) other => high.max other.1)
        (.finite high) =
      .finite ((rest.map (fun candle => candle.1)).foldl max high) := by
    induction rest generalizing high with
    | nil => rfl
    | cons candle rest ih => simp [finiteCandle, ih]
  have hlow (rest : List (Rat × Rat × Rat)) (low : Rat) :
      (rest.map finiteCandle).foldl (fun (low : PyFloat) other => low.min other.2.1)
        (.finite low) =
      .finite ((rest.map (fun candle => candle.2.1)).foldl min low) := by
    induction rest generalizing low with
    | nil => rfl
    | cons candle rest ih => simp [finiteCandle, ih]
  cases prior with
  | nil => rfl
  | cons candle rest =>
    have hfirst : finiteCandle candle =
        (.finite candle.1, .finite candle.2.1, .finite candle.2.2) := rfl
    simp only [List.map_cons, swingOf, Tomiris.TechnicalAnalysisEngine.swingOf, List.max?_cons',
      List.min?_cons', hfirst, hhigh, hlow, PyFloat.finite_lt, decide_eq_true_eq]
    split_ifs <;> rfl

/-- The range filter on equal comparisons. -/
theorem rangeFilter_exact (rangeLike : Prop) [Decidable rangeLike] (trend : TrendState)
    (swingScore rawScore : Rat) :
    rangeFilter ops.tools (decide rangeLike) trend (.finite swingScore) (.finite rawScore) =
      (Tomiris.TechnicalAnalysisEngine.rangeFilter rangeLike trend swingScore rawScore).map id
        .finite := by
  simp only [rangeFilter, Tomiris.TechnicalAnalysisEngine.rangeFilter, PyFloat.finite_isZero,
    decide_eq_true_eq]
  split_ifs <;> rfl

/-- A number is finite. -/
theorem checkFinite_exact (message : String) (q : Rat) :
    checkFinite message (.finite q) = .ok q := rfl

/-- The state of a timeframe: the range filter compares as before, and its score is a number. -/
theorem timeframeState_exact (s : MarketDataSeries) (close : Rat) (x : Indicators) :
    timeframeState ops.tools config.floats s (.finite close) x =
      construct TimeframeFields.Valid
        (Tomiris.TechnicalAnalysisEngine.timeframeState config s close x) := by
  have hratio : config.floats.rangeEmaAtrRatio = .finite config.rangeEmaAtrRatio := rfl
  unfold timeframeState Tomiris.TechnicalAnalysisEngine.timeframeState
  simp only [trendOf_exact, momentumOf_exact, volatilityOf_exact, priorCandles_exact,
    swingOf_exact, returnOf_exact, volumeStateOf_exact, Prod.map, id_eq, ok_bind, hratio,
    tools_float, tools_sub, tools_mul, tools_add, PyFloat.finite_abs, PyFloat.finite_lt,
    rangeFilter_exact, PyFloat.finite_max, PyFloat.finite_min, checkFinite_exact]

/-- The analysis of a series, with its evidence. -/
theorem analyzeTimeframe_exact (engine : Tomiris.TechnicalAnalysisEngine) (s : MarketDataSeries) :
    engine.floats.analyzeTimeframe s = engine.analyzeTimeframe s := by
  have hcompute : TechnicalFeaturePipeline.compute engine.floats.tools
      engine.floats.config.pipeline s =
      Tomiris.TechnicalFeaturePipeline.compute engine.ops engine.config.pipeline s :=
    pipeline_exact engine.ops s engine.config.pipeline
  have hclose : fromEnd (engine.floats.tools.closes s) 0 = (fromEnd s.closes 0).map .finite :=
    tools_fromEnd engine.ops s 0
  have hstate (close : Rat) (x : Indicators) :
      timeframeState engine.floats.tools engine.floats.config.toTechnicalFields s
        (.finite close) x =
      construct TimeframeFields.Valid
        (Tomiris.TechnicalAnalysisEngine.timeframeState engine.config.toTechnicalFields s close x) :=
    timeframeState_exact engine.ops engine.config.toTechnicalFields s close x
  unfold analyzeTimeframe Tomiris.TechnicalAnalysisEngine.analyzeTimeframe
  rw [hcompute]
  simp only [hclose, map_bind, hstate]
  rfl

end Timeframe

section Opinion

variable (ops : FloatOps) (config : TechnicalFields) (states : List TimeframeAnalysis)

/-- The weight of a timeframe, one if the configuration names none. -/
theorem weight_exact (timeframe : Timeframe) :
    weight ops.tools config.floats timeframe = .finite (config.weight timeframe) := by
  -- the map of the weights commutes with the look-up of a timeframe
  have hlookup (weights : List (Timeframe × Rat)) :
      (weights.map (fun entry => (entry.1, PyFloat.finite entry.2))).lookup timeframe =
        (weights.lookup timeframe).map .finite := by
    induction weights with
    | nil => rfl
    | cons entry weights ih =>
      rw [List.map_cons, List.lookup_cons, List.lookup_cons, ih]
      cases timeframe == entry.1 <;> rfl
  have hweights : config.floats.timeframeWeights =
      config.timeframeWeights.map (fun entry => (entry.1, PyFloat.finite entry.2)) := rfl
  unfold weight TechnicalFields.weight
  rw [hweights, hlookup]
  cases config.timeframeWeights.lookup timeframe <;> rfl

/-- The weighted score is divided by the same sum of weights. -/
theorem weightedScore_exact :
    weightedScore ops.tools config.floats states =
      (Tomiris.TechnicalAnalysisEngine.weightedScore config states).map .finite := by
  -- both lists that the sums run over are images of the exact ones
  have hweights : states.map (fun state => weight ops.tools config.floats state.val.timeframe) =
      (states.map (fun state => config.weight state.val.timeframe)).map .finite := by
    rw [List.map_map]
    exact List.map_congr_left fun state _ => weight_exact ops config state.val.timeframe
  have hscores (weights : List Rat) :
      List.zipWith (fun state weight => ops.tools.format.mul (.finite state.val.score) weight)
        states (weights.map .finite) =
      (List.zipWith (fun (state : TimeframeAnalysis) weight => state.val.score * weight) states
        weights).map .finite := by
    simp [List.zipWith_map_right, List.map_zipWith]
  unfold weightedScore Tomiris.TechnicalAnalysisEngine.weightedScore
  rw [hweights]
  simp only [hscores, tools_sum, tools_divide]

/-- The opinion of the states: bias and reasons are the same, and the confidence is the number. -/
theorem opinion_exact :
    opinion ops.tools config.floats states =
      (Tomiris.TechnicalAnalysisEngine.opinion config states).map
        (fun opinion => (opinion.1, .finite opinion.2.1, opinion.2.2)) := by
  have hneutral : config.floats.neutralThreshold = .finite config.neutralThreshold := rfl
  have hstrong : config.floats.strongTrendThreshold = .finite config.strongTrendThreshold := rfl
  unfold opinion Tomiris.TechnicalAnalysisEngine.opinion
  rw [weightedScore_exact, map_bind]
  cases Tomiris.TechnicalAnalysisEngine.weightedScore config states with
  | error e => rfl
  | ok weighted =>
    simp only [ok_bind, hneutral, hstrong, PyFloat.finite_neg, PyFloat.finite_abs,
      PyFloat.finite_lt, decide_eq_true_eq, tools_divide, map_bind, tools_float, tools_sub,
      tools_mul, tools_add, PyFloat.finite_max, PyFloat.finite_min]
    rw [apply_ite (Except.map _)]
    congr 1
    -- no edge or a conflict: one quotient
    · cases divide |weighted| config.neutralThreshold <;> rfl
    -- an edge: the agreement of the states, then the strength of the trend
    · cases divide _ (states.length : Rat) with
      | error e => rfl
      | ok agreement => cases divide |weighted| config.strongTrendThreshold <;> rfl

/-- What is concluded from the states: bias, confidence and reason codes. -/
theorem conclude_exact (engine : Tomiris.TechnicalAnalysisEngine) :
    engine.floats.conclude states = engine.conclude states := by
  have hopinion : opinion engine.floats.tools engine.floats.config.toTechnicalFields states =
      (Tomiris.TechnicalAnalysisEngine.opinion engine.config.toTechnicalFields states).map
        (fun opinion => (opinion.1, .finite opinion.2.1, opinion.2.2)) :=
    opinion_exact engine.ops engine.config.toTechnicalFields states
  unfold conclude Tomiris.TechnicalAnalysisEngine.conclude
  rw [hopinion, map_bind]
  rfl

end Opinion

/-- **Exact arithmetic is a format of floats.** The engine in exact arithmetic answers as the engine
    on floats does whose format rounds nothing. -/
theorem analyze_exact (engine : Tomiris.TechnicalAnalysisEngine) (definition : AgentDefinition)
    (roleInput : RoleInput) (roleVersion : String) :
    engine.floats.analyze definition roleInput roleVersion =
      engine.analyze definition roleInput roleVersion := by
  have htimeframe : engine.floats.analyzeTimeframe = engine.analyzeTimeframe :=
    funext (analyzeTimeframe_exact engine)
  have hconclude : engine.floats.conclude = engine.conclude :=
    funext fun states => conclude_exact states engine
  unfold analyze Tomiris.TechnicalAnalysisEngine.analyze
  rw [htimeframe, hconclude]

end Floats.TechnicalAnalysisEngine

end Tomiris
