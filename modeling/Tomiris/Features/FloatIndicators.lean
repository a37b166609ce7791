import Tomiris.Features.Pipeline

/-!
# Indicators on floats

The features of `tomiris_features.indicators` as Python computes them: every operation is rounded,
prices too small for a float are zero, and what is too great is infinite. `FeatureResult` lets only
finite values pass. A float is divided by zero only where the source does not look first.
-/

namespace Tomiris

/-- What Python computes with: the format of its floats, `sum`, `math.log` of a positive number,
    `statistics.pstdev` of finite numbers, and `f"{x:.{n}g}"`. How `sum` makes up for its rounding
    is not documented, so that only the sign of the total is known. -/
structure FloatTools where
  format : FloatFormat
  sum : List PyFloat → PyFloat
  sum_notNeg : ∀ l, (∀ x ∈ l, x.NotNeg) → (sum l).NotNeg
  sum_ne_zero : ∀ l, l ≠ [] → (∀ x ∈ l, format.IsFloat x ∧ FloatFormat.Positive x) →
    (sum l).isZero = false
  log : Rat → PyFloat
  pstdev : List Rat → PyFloat
  general : Nat → PyFloat → String

namespace FloatTools

variable (tools : FloatTools)

/-- A float literal, or `float(Decimal)`. -/
abbrev float (q : Rat) : PyFloat := tools.format.round q

/-- `x / y` -/
def divide (x y : PyFloat) : Except ComputeError PyFloat :=
  match tools.format.div x y with
  | none => .error .zeroDivisionError
  | some z => .ok z

/-- `math.log(x)` -/
def mathLog : PyFloat → Except ComputeError PyFloat
  | .finite q => if q ≤ 0 then .error (.valueError "math domain error") else .ok (tools.log q)
  | .nan => .ok .nan
  | .posInf => .ok .posInf
  | .negInf => .error (.valueError "math domain error")

/-- `statistics.pstdev(data)`. It sums fractions, and an infinity or NaN has none: the sum is then a
    float without the `numerator` that is read from it. -/
def statisticsPstdev (data : List PyFloat) : Except ComputeError PyFloat :=
  if data.isEmpty then .error (.valueError "pstdev requires at least one data point")
  else match data.mapM PyFloat.finite? with
    | none => .error .attributeError
    | some numbers => .ok (tools.pstdev numbers)

/-- The prices and volumes of a series, oldest first. -/
def closes (s : MarketDataSeries) : List PyFloat := s.bars.map (fun bar => tools.float bar.close)

def volumes (s : MarketDataSeries) : List PyFloat := s.bars.map (fun bar => tools.float bar.volume)

/-- High, low and close of the bars. -/
def candles (s : MarketDataSeries) : List (PyFloat × PyFloat × PyFloat) :=
  s.bars.map (fun bar => (tools.float bar.high, tools.float bar.low, tools.float bar.close))

end FloatTools

/-- `FeatureResult(...)` with `finite_values`. -/
def Feature.checked (feature : Feature) (series : MarketDataSeries)
    (values : List (String × PyFloat)) : Except ComputeError FeatureResult :=
  match values.mapM (fun entry => entry.2.finite?.map (fun q => (entry.1, q))) with
  | none => .error (.valueError "feature values must be bounded and finite")
  | some values => .ok (feature.result series values)

namespace Floats

variable (tools : FloatTools)

/-- The loop of `_ema_values` from the second value on. -/
def emaFrom (multiplier last : PyFloat) : List PyFloat → List PyFloat
  | [] => []
  | value :: rest =>
    let next := tools.format.add (tools.format.mul (tools.format.sub value last) multiplier) last
    next :: emaFrom multiplier next rest

/-- `_ema_values` -/
def emaValues (values : List PyFloat) (period : Nat) : List PyFloat :=
  match values with
  | [] => []
  | value :: rest => value :: emaFrom tools (tools.float (2 / (period + 1))) value rest

/-- Wilder's average: the mean of the first `period` values, smoothed with the others. -/
def wilder (period : Nat) (values : List PyFloat) : Except ComputeError PyFloat := do
  let mean ← tools.divide (tools.sum (values.take period)) (tools.float period)
  (values.drop period).foldlM (fun average value =>
    tools.divide (tools.format.add (tools.format.mul average (tools.float (period - 1))) value)
      (tools.float period)) mean

namespace EMAFeature

def compute (period : Nat) (series : MarketDataSeries) : Except ComputeError FeatureResult :=
  if period < 2 ∨ series.bars.length < period then
    .ok ((Tomiris.EMAFeature.feature period).invalid series)
  else do
    let ema ← fromEnd (emaValues tools (tools.closes series) period) 0
    (Tomiris.EMAFeature.feature period).checked series [("ema", ema)]

end EMAFeature

/-- `[current - previous for previous, current in zip(values, values[1:])]` -/
def changes (values : List PyFloat) : List PyFloat :=
  (values.zip values.tail).map (fun pair => tools.format.sub pair.2 pair.1)

namespace RSIFeature

/-- The index of the two averages, before it is clamped. -/
def index (avgGain avgLoss : PyFloat) : Except ComputeError PyFloat :=
  if avgLoss.isZero ∧ avgGain.isZero then .ok (tools.float 50)
  else if avgLoss.isZero then .ok (tools.float 100)
  else do
    let ratio ← tools.divide avgGain avgLoss
    let share ← tools.divide (tools.float 100) (tools.format.add (tools.float 1) ratio)
    pure (tools.format.sub (tools.float 100) share)

def compute (period : Nat) (series : MarketDataSeries) : Except ComputeError FeatureResult :=
  let closes := tools.closes series
  if period < 2 ∨ closes.length ≤ period then
    .ok ((Tomiris.RSIFeature.feature period).invalid series)
  else do
    let gains := (changes tools closes).map (fun change => change.max (tools.float 0))
    let losses := (changes tools closes).map (fun change => change.neg.max (tools.float 0))
    let avgGain ← wilder tools period gains
    let avgLoss ← wilder tools period losses
    let rsi ← index tools avgGain avgLoss
    (Tomiris.RSIFeature.feature period).checked series
      [("rsi", (tools.float 100).min ((tools.float 0).max rsi))]

end RSIFeature

namespace MACDFeature

def compute (fast slow signal : Nat) (series : MarketDataSeries) :
    Except ComputeError FeatureResult :=
  let closes := tools.closes series
  if fast < 2 ∨ slow ≤ fast ∨ signal < 2 ∨ closes.length < slow + signal then
    .ok ((Tomiris.MACDFeature.feature fast slow signal).invalid series)
  else do
    let macdValues :=
      List.zipWith tools.format.sub (emaValues tools closes fast) (emaValues tools closes slow)
    let macd ← fromEnd macdValues 0
    let signalValue ← fromEnd (emaValues tools macdValues signal) 0
    (Tomiris.MACDFeature.feature fast slow signal).checked series
      [("macd", macd), ("signal", signalValue), ("histogram", tools.format.sub macd signalValue)]

end MACDFeature

namespace ATRFeature

/-- The loop over the bars, with the close of the one before. -/
def trueRanges (previousClose : Option PyFloat) : List (PyFloat × PyFloat × PyFloat) → List PyFloat
  | [] => []
  | (high, low, close) :: rest =>
    let trueRange :=
      match previousClose with
      | none => tools.format.sub high low
      | some previous => ((tools.format.sub high low).max (tools.format.sub high previous).abs).max
          (tools.format.sub low previous).abs
    trueRange :: trueRanges (some close) rest

def compute (period : Nat) (series : MarketDataSeries) : Except ComputeError FeatureResult :=
  if period < 2 ∨ series.bars.length ≤ period then
    .ok ((Tomiris.ATRFeature.feature period).invalid series)
  else do
    let atr ← wilder tools period (trueRanges tools none (tools.candles series))
    let atrPercent ← tools.divide atr (← fromEnd (tools.closes series) 0)
    (Tomiris.ATRFeature.feature period).checked series [("atr", atr), ("atr_percent", atrPercent)]

end ATRFeature

namespace ReturnFeature

def compute (lookback : Nat) (series : MarketDataSeries) : Except ComputeError FeatureResult :=
  if lookback < 1 ∨ series.bars.length ≤ lookback then
    .ok ((Tomiris.ReturnFeature.feature lookback).invalid series)
  else do
    let previous ← fromEnd (tools.closes series) lookback
    let current ← fromEnd (tools.closes series) 0
    let quotient ← tools.divide current previous
    (Tomiris.ReturnFeature.feature lookback).checked series
      [("return", tools.format.sub quotient (tools.float 1))]

end ReturnFeature

namespace VolatilityFeature

/-- `[math.log(current / previous) for previous, current in zip(closes, closes[1:])]` -/
def logReturns (closes : List PyFloat) : Except ComputeError (List PyFloat) :=
  (closes.zip closes.tail).mapM (fun pair => do tools.mathLog (← tools.divide pair.2 pair.1))

def compute (period : Nat) (series : MarketDataSeries) : Except ComputeError FeatureResult :=
  let closes := tools.closes series
  if period < 2 ∨ closes.length ≤ period then
    .ok ((Tomiris.VolatilityFeature.feature period).invalid series)
  else do
    let returns ← logReturns tools closes
    let volatility ← tools.statisticsPstdev (returns.rtake period)
    (Tomiris.VolatilityFeature.feature period).checked series [("volatility", volatility)]

end VolatilityFeature

namespace VolumeTrendFeature

/-- The mean of the last `period` values. -/
def mean (period : Nat) (values : List PyFloat) : Except ComputeError PyFloat :=
  tools.divide (tools.sum (values.rtake period)) (tools.float period)

def compute (shortPeriod longPeriod : Nat) (series : MarketDataSeries) :
    Except ComputeError FeatureResult :=
  let feature := Tomiris.VolumeTrendFeature.feature shortPeriod longPeriod
  if shortPeriod < 1 ∨ longPeriod ≤ shortPeriod ∨ series.bars.length < longPeriod then
    .ok (feature.invalid series)
  else do
    let volumes := tools.volumes series
    let shortMean ← mean tools shortPeriod volumes
    let longMean ← mean tools longPeriod volumes
    let ratio ← if longMean.isZero then .ok (tools.float 1) else tools.divide shortMean longMean
    feature.checked series [("ratio", ratio)]

end VolumeTrendFeature

namespace TechnicalFeaturePipeline

/-- `compute` -/
def compute (config : FeaturePipelineConfig) (series : MarketDataSeries) :
    Except ComputeError (List FeatureResult) := do
  let emaFast ← EMAFeature.compute tools config.emaFast series
  let emaSlow ← EMAFeature.compute tools config.emaSlow series
  let rsi ← RSIFeature.compute tools config.rsiPeriod series
  let macd ← MACDFeature.compute tools config.macdFast config.macdSlow config.macdSignal series
  let atr ← ATRFeature.compute tools config.atrPeriod series
  let return' ← ReturnFeature.compute tools config.returnLookback series
  let volatility ← VolatilityFeature.compute tools config.volatilityPeriod series
  let volume ← VolumeTrendFeature.compute tools config.volumeShortPeriod config.volumeLongPeriod
    series
  pure [emaFast, emaSlow, rsi, macd, atr, return', volatility, volume]

end TechnicalFeaturePipeline

end Floats

end Tomiris
