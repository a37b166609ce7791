import Mathlib.Data.Finset.Card
import Mathlib.Data.List.Dedup
import Mathlib.Data.Rat.Floor
import Tomiris.Roles.Models

/-!
# The technical analysis engine

`TechnicalAnalysisEngine`, in exact arithmetic: the features of each timeframe become a state with a
score, and the weighted scores an opinion. What is raised on the way and caught ends in `abstain`.
What does not depend on the arithmetic is shared with the engine on floats: the texts of the
evidence, and `analyze` around what is computed for a series and concluded from the states.
-/

namespace Tomiris

/-- `round(q, digits)` -/
def roundDigits (q : Rat) (digits : Nat) : Rat := roundHalfEven (q * 10 ^ digits) / 10 ^ digits

/-- The fields of `TechnicalRoleConfig`, with numbers of type `N`. -/
structure TechnicalFields (N : Type := Rat) where
  pipeline : FeaturePipelineConfig
  timeframeWeights : List (Timeframe × N)
  neutralThreshold : N
  strongTrendThreshold : N
  rsiBullish : N
  rsiBearish : N
  highAtrPercent : N
  extremeAtrPercent : N
  highRealizedVolatility : N
  extremeRealizedVolatility : N
  rangeEmaAtrRatio : N
  swingLookback : Nat

/-- The defaults, for a reading of the literals. -/
def TechnicalFields.defaults {N : Type} (literal : Rat → N) (pipeline : FeaturePipelineConfig) :
    TechnicalFields N where
  pipeline := pipeline
  timeframeWeights := [(.d1, literal (35 / 100)), (.h4, literal (30 / 100)),
    (.h1, literal (20 / 100)), (.m15, literal (15 / 100))]
  neutralThreshold := literal (18 / 100)
  strongTrendThreshold := literal (65 / 100)
  rsiBullish := literal 55
  rsiBearish := literal 45
  highAtrPercent := literal (4 / 100)
  extremeAtrPercent := literal (8 / 100)
  highRealizedVolatility := literal (3 / 100)
  extremeRealizedVolatility := literal (7 / 100)
  rangeEmaAtrRatio := literal (25 / 100)
  swingLookback := 10

/-- The field constraints, `validate_weights` and `validate_thresholds` of
    `TechnicalRoleConfig`. -/
structure TechnicalFields.Valid (c : TechnicalFields) : Prop where
  weights : c.timeframeWeights ≠ [] ∧ ∀ entry ∈ c.timeframeWeights, 0 < entry.2
  weight_keys : (c.timeframeWeights.map (·.1)).Nodup
  neutral : 0 < c.neutralThreshold ∧ c.neutralThreshold < 1
  strong_trend : 0 < c.strongTrendThreshold ∧ c.strongTrendThreshold ≤ 1
  rsi_bullish : 50 < c.rsiBullish ∧ c.rsiBullish < 100
  rsi_bearish : 0 < c.rsiBearish ∧ c.rsiBearish < 50
  high_atr : 0 < c.highAtrPercent ∧ c.highAtrPercent < 1
  extreme_atr : 0 < c.extremeAtrPercent ∧ c.extremeAtrPercent < 2
  high_volatility : 0 < c.highRealizedVolatility ∧ c.highRealizedVolatility < 1
  extreme_volatility : 0 < c.extremeRealizedVolatility ∧ c.extremeRealizedVolatility < 2
  range_ratio : 0 < c.rangeEmaAtrRatio ∧ c.rangeEmaAtrRatio ≤ 2
  swing : 2 ≤ c.swingLookback ∧ c.swingLookback ≤ 100
  rsi_order : c.rsiBearish < c.rsiBullish
  atr_order : c.highAtrPercent < c.extremeAtrPercent
  volatility_order : c.highRealizedVolatility < c.extremeRealizedVolatility

/-- `TechnicalRoleConfig`: a configuration that passed its validators. -/
structure TechnicalRoleConfig extends TechnicalFields where
  valid : toTechnicalFields.Valid

/-- `self.config.timeframe_weights.get(timeframe, 1.0)` -/
def TechnicalFields.weight (c : TechnicalFields) (timeframe : Timeframe) : Rat :=
  (c.timeframeWeights.lookup timeframe).getD 1

/-- A `TechnicalAnalysisEngine`. -/
structure TechnicalAnalysisEngine where
  ops : FloatOps
  config : TechnicalRoleConfig
  evidenceType : String

namespace TechnicalAnalysisEngine

/-- `_feature` -/
def feature (features : List FeatureResult) (name : String) : Except ComputeError FeatureResult :=
  match features.find? (fun f => f.featureName == name) with
  | none => .error .stopIteration
  | some f => .ok f

/-- `_ema_result` -/
def emaResult (features : List FeatureResult) (period : Nat) : Except ComputeError FeatureResult :=
  match features.find? (fun f => f.featureName == "ema" &&
    f.parameters.lookup "period" == some period) with
  | none => .error .stopIteration
  | some f => .ok f

/-- The trend of a close and the two averages, with its score. -/
def trendOf (close fast slow : Rat) : TrendState × Rat :=
  if fast < close ∧ slow < fast then (.strongUp, 1)
  else if fast < close ∧ slow < close then (.up, 6 / 10)
  else if close < fast ∧ fast < slow then (.strongDown, -1)
  else if close < fast ∧ close < slow then (.down, -6 / 10)
  else (.neutral, 0)

/-- The momentum of an index and a histogram, with its score. -/
def momentumOf (config : TechnicalFields) (rsi histogram : Rat) : MomentumState × Rat :=
  if config.rsiBullish ≤ rsi ∧ 0 < histogram then (.bullish, 1)
  else if rsi ≤ config.rsiBearish ∧ histogram < 0 then (.bearish, -1)
  else (.neutral, 0)

def volatilityOf (config : TechnicalFields) (atrPercent realizedVolatility : Rat) :
    VolatilityState :=
  if config.extremeAtrPercent ≤ atrPercent ∨
      config.extremeRealizedVolatility ≤ realizedVolatility then .extreme
  else if config.highAtrPercent ≤ atrPercent ∨
      config.highRealizedVolatility ≤ realizedVolatility then .high
  else if atrPercent < config.highAtrPercent / 3 then .low
  else .normal

def volumeStateOf (volumeRatio : Rat) : VolumeState :=
  if 110 / 100 < volumeRatio then .rising
  else if volumeRatio < 90 / 100 then .falling
  else .normal

/-- `bars[-1 - min(swing_lookback, len(bars) - 1) : -1]` -/
def priorCandles (config : TechnicalFields) (series : MarketDataSeries) : List (Rat × Rat × Rat) :=
  series.candles.dropLast.rtake (min config.swingLookback (series.bars.length - 1))

/-- The score of a close against the highs and lows before it. -/
def swingOf (close : Rat) (prior : List (Rat × Rat × Rat)) : Rat :=
  match (prior.map (fun candle => candle.1)).max?, (prior.map (fun candle => candle.2.1)).min? with
  | some high, some low => if high < close then 1 else if close < low then -1 else 0
  | _, _ => 0

def returnOf (latestReturn : Rat) : Rat :=
  if 0 < latestReturn then 1 else if latestReturn < 0 then -1 else 0

/-- The trend that is reported and the score, after the range filter. -/
def rangeFilter (rangeLike : Prop) [Decidable rangeLike] (trend : TrendState)
    (swingScore rawScore : Rat) : TrendState × Rat :=
  if rangeLike ∧ swingScore = 0 then (.neutral, rawScore * (25 / 100)) else (trend, rawScore)

/-- `_evidence` -/
def evidence (evidenceType : String) (series : MarketDataSeries) (feature : FeatureResult)
    (observation : String) : Except ComputeError AnalyticalEvidence :=
  construct EvidenceFields.Valid
    { evidenceType := evidenceType
      summary := series.instrument ++ " " ++ series.timeframe.value ++ " " ++ observation
      provider := series.provider
      instrument := series.instrument
      timeframe := series.timeframe
      featureName := feature.featureName
      featureVersion := feature.featureVersion
      observedAt := series.lastBar.closeTime
      sourceTimestamp := series.lastBar.closeTime
      observation := observation }

/-- The evidence of a timeframe, from numbers of type `N`. -/
def timeframeEvidence {N : Type} (evidenceType : String) (general : Nat → N → String)
    (config : FeaturePipelineConfig) (series : MarketDataSeries) (features : List FeatureResult)
    (close slow rsi histogram atrPercent realizedVolatility : N) (trend : TrendState)
    (momentum : MomentumState) (volatility : VolatilityState) :
    Except ComputeError (List AnalyticalEvidence) := do
  let ema ← evidence evidenceType series (← emaResult features config.emaSlow)
    ("close=" ++ general 8 close ++ "; ema_slow=" ++ general 8 slow ++ "; trend=" ++ trend.value)
  let rsiItem ← evidence evidenceType series (← feature features "rsi")
    ("rsi=" ++ general 6 rsi ++ "; momentum=" ++ momentum.value)
  let macd ← evidence evidenceType series (← feature features "macd")
    ("macd_histogram=" ++ general 8 histogram)
  let atr ← evidence evidenceType series (← feature features "atr")
    ("atr_percent=" ++ general 8 atrPercent ++ "; realized_volatility=" ++
      general 8 realizedVolatility ++ "; volatility=" ++ volatility.value)
  pure [ema, rsiItem, macd, atr]

/-- The numbers that `_analyze_timeframe` takes from the features. -/
structure Indicators where
  fast : Rat
  slow : Rat
  rsi : Rat
  histogram : Rat
  atr : Rat
  atrPercent : Rat
  realizedVolatility : Rat
  latestReturn : Rat
  volumeRatio : Rat

/-- The look-ups of `_analyze_timeframe`. -/
def readIndicators (config : FeaturePipelineConfig) (features : List FeatureResult) :
    Except ComputeError Indicators := do
  let fast ← (← emaResult features config.emaFast).value "ema"
  let slow ← (← emaResult features config.emaSlow).value "ema"
  let rsi ← (← feature features "rsi").value "rsi"
  let histogram ← (← feature features "macd").value "histogram"
  let atr ← (← feature features "atr").value "atr"
  let atrPercent ← (← feature features "atr").value "atr_percent"
  let realizedVolatility ← (← feature features "realized_volatility").value "volatility"
  let latestReturn ← (← feature features "return").value "return"
  let volumeRatio ← (← feature features "volume_trend").value "ratio"
  pure { fast, slow, rsi, histogram, atr, atrPercent, realizedVolatility, latestReturn, volumeRatio }

/-- The state of a timeframe from its numbers. -/
def timeframeState (config : TechnicalFields) (series : MarketDataSeries) (close : Rat)
    (x : Indicators) : TimeframeFields :=
  let (trend, trendScore) := trendOf close x.fast x.slow
  let (momentum, momentumScore) := momentumOf config x.rsi x.histogram
  let swingScore := swingOf close (priorCandles config series)
  let rawScore := trendScore * (45 / 100) + momentumScore * (30 / 100) + swingScore * (15 / 100) +
    returnOf x.latestReturn * (10 / 100)
  let (trend, rawScore) :=
    rangeFilter (|x.fast - x.slow| < x.atr * config.rangeEmaAtrRatio) trend swingScore rawScore
  { timeframe := series.timeframe
    trend := trend
    momentum := momentum
    volatility := volatilityOf config x.atrPercent x.realizedVolatility
    volumeState := volumeStateOf x.volumeRatio
    score := min 1 (max (-1) rawScore) }

/-- `_analyze_timeframe` -/
def analyzeTimeframe (engine : TechnicalAnalysisEngine) (series : MarketDataSeries) :
    Except ComputeError (TimeframeAnalysis × List AnalyticalEvidence) := do
  let features ← TechnicalFeaturePipeline.compute engine.ops engine.config.pipeline series
  match features.find? (fun f => ! f.valid) with
  | some f => .error (.valueError (f.reasonCode.getD "FEATURE_FAILURE"))
  | none =>
    let x ← readIndicators engine.config.pipeline features
    let close ← fromEnd series.closes 0
    let state ← construct TimeframeFields.Valid
      (timeframeState engine.config.toTechnicalFields series close x)
    let evidence ← timeframeEvidence engine.evidenceType engine.ops.general engine.config.pipeline
      series features close x.slow x.rsi x.histogram x.atrPercent x.realizedVolatility
      state.val.trend state.val.momentum state.val.volatility
    pure (state, evidence)

/-- `_data_ranges` -/
def dataRanges (roleInput : RoleInput) : Except ComputeError (List AnalysisDataRange) :=
  roleInput.marketData.series.mapM (fun series => construct DataRangeFields.Valid
    { provider := series.provider
      instrument := series.instrument
      timeframe := series.timeframe
      firstBarAt := series.firstBar.openTime
      lastBarAt := series.lastBar.closeTime
      barCount := series.bars.length })

/-- `",".join(sorted({series.provider for series in ...}))` -/
def joinProviders (series : List MarketDataSeries) : String :=
  ",".intercalate ((series.map (fun s => s.provider)).dedup.mergeSort (fun p p' => p ≤ p'))

/-- `max(...)` of the last closing times, or the default. -/
def latestClose (series : List MarketDataSeries) (default : Int) : Int :=
  ((series.map (fun s => s.lastBar.closeTime)).max?).getD default

/-- `abstain` -/
def abstain (definition : AgentDefinition) (roleInput : RoleInput) (roleVersion reason : String)
    (quality : DataQualityOutcome) : Except ComputeError AgentAnalysisResult := do
  let series := roleInput.marketData.series
  let providers := joinProviders series
  let ranges ← dataRanges roleInput
  construct ResultFields.Valid
    { analysisSchemaVersion := definition.analysisSchemaVersion
      roleId := definition.roleId
      roleVersion := roleVersion
      configVersion := definition.configVersion
      featurePipelineVersion := TechnicalFeaturePipeline.pipelineVersion
      snapshotId := roleInput.context.snapshotId
      asset := roleInput.context.task.asset
      bias := .abstain
      confidence := 0
      dataQuality := quality
      reasonCodes := [reason]
      dataRanges := ranges
      dataProvider := if providers.isEmpty then "unavailable" else providers
      dataAsOf := latestClose series roleInput.context.asOf
      analysisAsOf := roleInput.context.asOf }

/-- The weighted score of the states. -/
def weightedScore (config : TechnicalFields) (states : List TimeframeAnalysis) :
    Except ComputeError Rat :=
  let weights := states.map (fun state => config.weight state.val.timeframe)
  divide (List.zipWith (fun state weight => state.val.score * weight) states weights).sum weights.sum

/-- The bias, the confidence before it is rounded, and the reason codes of the states. -/
def opinion (config : TechnicalFields) (states : List TimeframeAnalysis) :
    Except ComputeError (Bias × Rat × List String) := do
  let weighted ← weightedScore config states
  let positives := states.countP (fun state => config.neutralThreshold < state.val.score)
  let negatives := states.countP (fun state => state.val.score < -config.neutralThreshold)
  let conflict := 0 < positives ∧ 0 < negatives
  let reasonCodes :=
    (if conflict then ["TIMEFRAME_CONFLICT"] else []) ++
    (if states.any (fun state => state.val.volatility == .high || state.val.volatility == .extreme)
      then ["HIGH_VOLATILITY"] else [])
  if |weighted| < config.neutralThreshold ∨ conflict then
    let ratio ← divide |weighted| config.neutralThreshold
    pure (.neutral, min (60 / 100) (max 0 (1 - ratio) * (60 / 100)), reasonCodes ++ ["NO_CLEAR_EDGE"])
  else
    let matching := if 0 < weighted then positives else negatives
    let agreement ← divide matching states.length
    let strength ← divide |weighted| config.strongTrendThreshold
    pure (if 0 < weighted then .long else .short,
      min 1 (min 1 strength * (65 / 100) + agreement * (35 / 100)), reasonCodes)

/-- What a result says: the bias, the rounded confidence and the reason codes. -/
def conclude (engine : TechnicalAnalysisEngine) (states : List TimeframeAnalysis) :
    Except ComputeError (Bias × Rat × List String) := do
  let (bias, confidence, reasonCodes) ← opinion engine.config.toTechnicalFields states
  pure (bias, roundDigits confidence 6, reasonCodes)

section Analyze

variable (analyzeTimeframe : MarketDataSeries →
  Except ComputeError (TimeframeAnalysis × List AnalyticalEvidence))
variable (conclude : List TimeframeAnalysis → Except ComputeError (Bias × Rat × List String))
variable (definition : AgentDefinition) (roleInput : RoleInput) (roleVersion : String)

/-- The body of the `try` of `analyze`, for what is computed for a series and concluded from the
    states. -/
def analyzeSeriesBy : Except ComputeError AgentAnalysisResult := do
  let asset := roleInput.context.task.asset
  let series := roleInput.marketData.series
  if series.any (fun s => s.instrument != asset) then
    .error (.valueError "market-data asset isolation failure")
  else
    let expected := (definition.requiredData.map (fun r => (r.instrument, r.timeframe))).toFinset
    let actual := (series.map (fun s => (s.instrument, s.timeframe))).toFinset
    if actual ≠ expected ∨ actual.card ≠ series.length then
      abstain definition roleInput roleVersion "INSUFFICIENT_HISTORY" .insufficient
    else
      let computations ← series.mapM analyzeTimeframe
      let states := computations.map (fun item => item.1)
      let evidence := (computations.flatMap (fun item => item.2)).take
        definition.maxEvidenceItems.toNat
      if states.isEmpty then
        abstain definition roleInput roleVersion "INSUFFICIENT_HISTORY" .insufficient
      else
        let (bias, confidence, reasonCodes) ← conclude states
        let ranges ← dataRanges roleInput
        construct ResultFields.Valid
          { analysisSchemaVersion := definition.analysisSchemaVersion
            roleId := definition.roleId
            roleVersion := roleVersion
            configVersion := definition.configVersion
            featurePipelineVersion := TechnicalFeaturePipeline.pipelineVersion
            snapshotId := roleInput.context.snapshotId
            asset := asset
            bias := bias
            confidence := confidence
            dataQuality := .valid
            reasonCodes := reasonCodes.eraseDups
            timeframeStates := states
            evidence := evidence
            dataRanges := ranges
            dataProvider := joinProviders series
            dataAsOf := latestClose series roleInput.context.asOf
            analysisAsOf := roleInput.context.asOf }

/-- `analyze` around such a body. -/
def analyzeBy : Except ComputeError AgentAnalysisResult :=
  match analyzeSeriesBy analyzeTimeframe conclude definition roleInput roleVersion with
  | .ok result => .ok result
  | .error e =>
    if e.isCaught then abstain definition roleInput roleVersion "FEATURE_FAILURE" .invalid
    else .error e

end Analyze

/-- The body of the `try` of `analyze`. -/
def analyzeSeries (engine : TechnicalAnalysisEngine) (definition : AgentDefinition)
    (roleInput : RoleInput) (roleVersion : String) : Except ComputeError AgentAnalysisResult :=
  analyzeSeriesBy engine.analyzeTimeframe engine.conclude definition roleInput roleVersion

/-- `analyze` -/
def analyze (engine : TechnicalAnalysisEngine) (definition : AgentDefinition)
    (roleInput : RoleInput) (roleVersion : String) : Except ComputeError AgentAnalysisResult :=
  analyzeBy engine.analyzeTimeframe engine.conclude definition roleInput roleVersion

end TechnicalAnalysisEngine

end Tomiris
