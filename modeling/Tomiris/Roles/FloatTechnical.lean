import Tomiris.Features.FloatIndicators
import Tomiris.Roles.Technical

/-!
# The technical analysis engine on floats

`TechnicalAnalysisEngine` as Python computes it. The comparisons are false on NaN, and `min` and
`max` keep their first argument then, so that a score is finite whatever it is made of.
-/

namespace Tomiris

/-- The field constraints, `validate_weights` and `validate_thresholds` of `TechnicalRoleConfig`. A
    bound refuses what is beyond it, so NaN passes. -/
structure TechnicalFields.ValidFloats (format : FloatFormat) (c : TechnicalFields PyFloat) :
    Prop where
  weights : c.timeframeWeights ≠ [] ∧
    ∀ entry ∈ c.timeframeWeights, format.IsFloat entry.2 ∧ entry.2.le (.finite 0) = false
  weight_keys : (c.timeframeWeights.map (·.1)).Nodup
  neutral : c.neutralThreshold.le (.finite 0) = false ∧
    (PyFloat.finite 1).le c.neutralThreshold = false
  strong_trend : c.strongTrendThreshold.le (.finite 0) = false ∧
    (PyFloat.finite 1).lt c.strongTrendThreshold = false
  rsi_bullish : c.rsiBullish.le (.finite 50) = false ∧ (PyFloat.finite 100).le c.rsiBullish = false
  rsi_bearish : c.rsiBearish.le (.finite 0) = false ∧ (PyFloat.finite 50).le c.rsiBearish = false
  high_atr : c.highAtrPercent.le (.finite 0) = false ∧ (PyFloat.finite 1).le c.highAtrPercent = false
  extreme_atr : c.extremeAtrPercent.le (.finite 0) = false ∧
    (PyFloat.finite 2).le c.extremeAtrPercent = false
  high_volatility : c.highRealizedVolatility.le (.finite 0) = false ∧
    (PyFloat.finite 1).le c.highRealizedVolatility = false
  extreme_volatility : c.extremeRealizedVolatility.le (.finite 0) = false ∧
    (PyFloat.finite 2).le c.extremeRealizedVolatility = false
  range_ratio : c.rangeEmaAtrRatio.le (.finite 0) = false ∧
    (PyFloat.finite 2).lt c.rangeEmaAtrRatio = false
  swing : 2 ≤ c.swingLookback ∧ c.swingLookback ≤ 100
  rsi_order : c.rsiBullish.le c.rsiBearish = false
  atr_order : c.extremeAtrPercent.le c.highAtrPercent = false
  volatility_order : c.extremeRealizedVolatility.le c.highRealizedVolatility = false

/-- A validator that refuses what is not finite. -/
def checkFinite (message : String) (x : PyFloat) : Except ComputeError Rat :=
  match x.finite? with
  | none => .error (.valueError message)
  | some q => .ok q

namespace Floats

/-- `TechnicalRoleConfig`: a configuration that passed its validators. -/
structure TechnicalRoleConfig (format : FloatFormat) extends TechnicalFields PyFloat where
  valid : toTechnicalFields.ValidFloats format

/-- A `TechnicalAnalysisEngine`. -/
structure TechnicalAnalysisEngine where
  tools : FloatTools
  config : TechnicalRoleConfig tools.format
  evidenceType : String

namespace TechnicalAnalysisEngine

open Tomiris.TechnicalAnalysisEngine (Indicators readIndicators timeframeEvidence analyzeSeriesBy
  analyzeBy)

section Timeframe

variable (tools : FloatTools) (config : TechnicalFields PyFloat)

/-- The trend of a close and the two averages, with its score. -/
def trendOf (close fast slow : PyFloat) : TrendState × PyFloat :=
  if fast.lt close ∧ slow.lt fast then (.strongUp, tools.float 1)
  else if fast.lt close ∧ slow.lt close then (.up, tools.float (6 / 10))
  else if close.lt fast ∧ fast.lt slow then (.strongDown, tools.float (-1))
  else if close.lt fast ∧ close.lt slow then (.down, tools.float (-6 / 10))
  else (.neutral, tools.float 0)

/-- The momentum of an index and a histogram, with its score. -/
def momentumOf (rsi histogram : PyFloat) : MomentumState × PyFloat :=
  if config.rsiBullish.le rsi ∧ (PyFloat.finite 0).lt histogram then (.bullish, tools.float 1)
  else if rsi.le config.rsiBearish ∧ histogram.lt (.finite 0) then (.bearish, tools.float (-1))
  else (.neutral, tools.float 0)

def volatilityOf (atrPercent realizedVolatility : PyFloat) : Except ComputeError VolatilityState :=
  if config.extremeAtrPercent.le atrPercent ∨
      config.extremeRealizedVolatility.le realizedVolatility then .ok .extreme
  else if config.highAtrPercent.le atrPercent ∨
      config.highRealizedVolatility.le realizedVolatility then .ok .high
  else do
    let third ← tools.divide config.highAtrPercent (tools.float 3)
    pure (if atrPercent.lt third then .low else .normal)

def volumeStateOf (volumeRatio : PyFloat) : VolumeState :=
  if (tools.float (110 / 100)).lt volumeRatio then .rising
  else if volumeRatio.lt (tools.float (90 / 100)) then .falling
  else .normal

/-- `bars[-1 - min(swing_lookback, len(bars) - 1) : -1]` -/
def priorCandles (series : MarketDataSeries) : List (PyFloat × PyFloat × PyFloat) :=
  (tools.candles series).dropLast.rtake (min config.swingLookback (series.bars.length - 1))

/-- The score of a close against the highs and lows before it. -/
def swingOf (close : PyFloat) : List (PyFloat × PyFloat × PyFloat) → PyFloat
  | [] => tools.float 0
  | candle :: rest =>
    if (rest.foldl (fun high other => high.max other.1) candle.1).lt close then tools.float 1
    else if close.lt (rest.foldl (fun low other => low.min other.2.1) candle.2.1) then
      tools.float (-1)
    else tools.float 0

def returnOf (latestReturn : PyFloat) : PyFloat :=
  if (PyFloat.finite 0).lt latestReturn then tools.float 1
  else if latestReturn.lt (.finite 0) then tools.float (-1)
  else tools.float 0

/-- The trend that is reported and the score, after the range filter. -/
def rangeFilter (rangeLike : Bool) (trend : TrendState) (swingScore rawScore : PyFloat) :
    TrendState × PyFloat :=
  if rangeLike ∧ swingScore.isZero then
    (.neutral, tools.format.mul rawScore (tools.float (25 / 100)))
  else (trend, rawScore)

/-- The state of a timeframe from its numbers. -/
def timeframeState (series : MarketDataSeries) (close : PyFloat) (x : Indicators) :
    Except ComputeError TimeframeAnalysis := do
  let fast := PyFloat.finite x.fast
  let slow := PyFloat.finite x.slow
  let (trend, trendScore) := trendOf tools close fast slow
  let (momentum, momentumScore) := momentumOf tools config (.finite x.rsi) (.finite x.histogram)
  let volatility ← volatilityOf tools config (.finite x.atrPercent) (.finite x.realizedVolatility)
  let swingScore := swingOf tools close (priorCandles tools config series)
  let times (score : PyFloat) (weight : Rat) := tools.format.mul score (tools.float weight)
  let rawScore := tools.format.add (tools.format.add (tools.format.add
    (times trendScore (45 / 100)) (times momentumScore (30 / 100)))
    (times swingScore (15 / 100)))
    (times (returnOf tools (.finite x.latestReturn)) (10 / 100))
  let rangeLike := (tools.format.sub fast slow).abs.lt
    (tools.format.mul (.finite x.atr) config.rangeEmaAtrRatio)
  let (trend, rawScore) := rangeFilter tools rangeLike trend swingScore rawScore
  let score ← checkFinite "score must be finite"
    ((tools.float 1).min ((tools.float (-1)).max rawScore))
  construct TimeframeFields.Valid
    { timeframe := series.timeframe
      trend := trend
      momentum := momentum
      volatility := volatility
      volumeState := volumeStateOf tools (.finite x.volumeRatio)
      score := score }

end Timeframe

/-- `_analyze_timeframe` -/
def analyzeTimeframe (engine : TechnicalAnalysisEngine) (series : MarketDataSeries) :
    Except ComputeError (TimeframeAnalysis × List AnalyticalEvidence) := do
  let features ← TechnicalFeaturePipeline.compute engine.tools engine.config.pipeline series
  match features.find? (fun f => ! f.valid) with
  | some f => .error (.valueError (f.reasonCode.getD "FEATURE_FAILURE"))
  | none =>
    let x ← readIndicators engine.config.pipeline features
    let close ← fromEnd (engine.tools.closes series) 0
    let state ← timeframeState engine.tools engine.config.toTechnicalFields series close x
    let evidence ← timeframeEvidence engine.evidenceType engine.tools.general
      engine.config.pipeline series features close (.finite x.slow) (.finite x.rsi)
      (.finite x.histogram) (.finite x.atrPercent) (.finite x.realizedVolatility)
      state.val.trend state.val.momentum state.val.volatility
    pure (state, evidence)

section Opinion

variable (tools : FloatTools) (config : TechnicalFields PyFloat)

/-- `self.config.timeframe_weights.get(timeframe, 1.0)` -/
def weight (timeframe : Timeframe) : PyFloat :=
  (config.timeframeWeights.lookup timeframe).getD (tools.float 1)

/-- The weighted score of the states. -/
def weightedScore (states : List TimeframeAnalysis) : Except ComputeError PyFloat :=
  let weights := states.map (fun state => weight tools config state.val.timeframe)
  tools.divide (tools.sum (List.zipWith (fun state weight =>
    tools.format.mul (.finite state.val.score) weight) states weights)) (tools.sum weights)

/-- The bias, the confidence before it is rounded, and the reason codes of the states. -/
def opinion (states : List TimeframeAnalysis) :
    Except ComputeError (Bias × PyFloat × List String) := do
  let weighted ← weightedScore tools config states
  let positives := states.countP (fun state => config.neutralThreshold.lt (.finite state.val.score))
  let negatives := states.countP (fun state =>
    (PyFloat.finite state.val.score).lt config.neutralThreshold.neg)
  let conflict := 0 < positives ∧ 0 < negatives
  let reasonCodes :=
    (if conflict then ["TIMEFRAME_CONFLICT"] else []) ++
    (if states.any (fun state => state.val.volatility == .high || state.val.volatility == .extreme)
      then ["HIGH_VOLATILITY"] else [])
  if weighted.abs.lt config.neutralThreshold ∨ conflict then
    let ratio ← tools.divide weighted.abs config.neutralThreshold
    let distance := (tools.float 0).max (tools.format.sub (tools.float 1) ratio)
    pure (.neutral, (tools.float (60 / 100)).min
      (tools.format.mul distance (tools.float (60 / 100))), reasonCodes ++ ["NO_CLEAR_EDGE"])
  else
    let upwards := (PyFloat.finite 0).lt weighted
    let matching := if upwards then positives else negatives
    let agreement ← tools.divide (tools.float matching) (tools.float states.length)
    let quotient ← tools.divide weighted.abs config.strongTrendThreshold
    let strength := (tools.float 1).min quotient
    pure (if upwards then .long else .short, (tools.float 1).min (tools.format.add
      (tools.format.mul strength (tools.float (65 / 100)))
      (tools.format.mul agreement (tools.float (35 / 100)))), reasonCodes)

end Opinion

/-- What a result says: the bias, the rounded confidence and the reason codes. The confidence is
    checked to be finite with the result. -/
def conclude (engine : TechnicalAnalysisEngine) (states : List TimeframeAnalysis) :
    Except ComputeError (Bias × Rat × List String) := do
  let (bias, confidence, reasonCodes) ← opinion engine.tools engine.config.toTechnicalFields states
  let confidence ← checkFinite "confidence must be finite" confidence
  let rounded ← checkFinite "confidence must be finite"
    (engine.tools.float (roundDigits confidence 6))
  pure (bias, rounded, reasonCodes)

/-- `analyze` -/
def analyze (engine : TechnicalAnalysisEngine) (definition : AgentDefinition)
    (roleInput : RoleInput) (roleVersion : String) : Except ComputeError AgentAnalysisResult :=
  analyzeBy engine.analyzeTimeframe engine.conclude definition roleInput roleVersion

end TechnicalAnalysisEngine

end Floats

end Tomiris
