import Mathlib.Data.List.DropRight
import Tomiris.MarketData.Models

/-!
# Indicators

The features of `tomiris_features.indicators`, in exact arithmetic: a Python float is a rational
number here. What the standard library computes beyond the field operations is given, and what
Python raises is an error value.
-/

namespace Tomiris

/-- The exceptions of a computation on floats. -/
inductive ComputeError where
  | zeroDivisionError
  | attributeError
  | indexError
  | keyError
  | stopIteration
  | valueError (message : String)
deriving DecidableEq

/-- `except (KeyError, ValueError)` -/
def ComputeError.isCaught : ComputeError → Bool
  | keyError => true
  | valueError _ => true
  | zeroDivisionError => false
  | attributeError => false
  | indexError => false
  | stopIteration => false

/-- What the standard library computes: `math.log` of a positive number, `statistics.pstdev` of a
    nonempty list, and `f"{x:.{n}g}"`. -/
structure FloatOps where
  log : Rat → Rat
  pstdev : List Rat → Rat
  general : Nat → Rat → String

/-- `a / b` -/
def divide (a b : Rat) : Except ComputeError Rat :=
  if b = 0 then .error .zeroDivisionError else .ok (a / b)

/-- `l[-1 - back]` -/
def fromEnd {α : Type} (l : List α) (back : Nat) : Except ComputeError α :=
  match l.reverse[back]? with
  | none => .error .indexError
  | some a => .ok a

/-- `math.log(x)` -/
def FloatOps.mathLog (ops : FloatOps) (x : Rat) : Except ComputeError Rat :=
  if x ≤ 0 then .error (.valueError "math domain error") else .ok (ops.log x)

/-- `statistics.pstdev(data)` -/
def FloatOps.statisticsPstdev (ops : FloatOps) (data : List Rat) : Except ComputeError Rat :=
  if data.isEmpty then .error (.valueError "pstdev requires at least one data point")
  else .ok (ops.pstdev data)

/-- `FeatureResult`. Its values passed `finite_values`, so they are finite numbers. -/
structure FeatureResult where
  featureName : String
  featureVersion : String
  parameters : List (String × Nat)
  values : List (String × Rat)
  timeframe : Timeframe
  asOf : Int
  valid : Bool
  reasonCode : Option String := none

/-- `feature.values[key]` -/
def FeatureResult.value (feature : FeatureResult) (key : String) : Except ComputeError Rat :=
  match feature.values.lookup key with
  | none => .error .keyError
  | some x => .ok x

/-- The prices and volumes of a series, oldest first. -/
def MarketDataSeries.closes (s : MarketDataSeries) : List Rat := s.bars.map (fun bar => bar.close)

def MarketDataSeries.volumes (s : MarketDataSeries) : List Rat :=
  s.bars.map (fun bar => bar.volume)

/-- High, low and close of the bars. -/
def MarketDataSeries.candles (s : MarketDataSeries) : List (Rat × Rat × Rat) :=
  s.bars.map (fun bar => (bar.high, bar.low, bar.close))

/-- The fields that the results of a feature share. -/
structure Feature where
  featureName : String
  featureVersion : String
  parameters : List (String × Nat)

/-- `_invalid` -/
def Feature.invalid (feature : Feature) (series : MarketDataSeries) : FeatureResult where
  featureName := feature.featureName
  featureVersion := feature.featureVersion
  parameters := feature.parameters
  values := []
  timeframe := series.timeframe
  asOf := series.lastBar.closeTime
  valid := false
  reasonCode := some "INSUFFICIENT_HISTORY"

def Feature.result (feature : Feature) (series : MarketDataSeries) (values : List (String × Rat)) :
    FeatureResult where
  featureName := feature.featureName
  featureVersion := feature.featureVersion
  parameters := feature.parameters
  values := values
  timeframe := series.timeframe
  asOf := series.lastBar.closeTime
  valid := true

/-- The loop of `_ema_values` from the second value on. -/
def emaFrom (multiplier last : Rat) : List Rat → List Rat
  | [] => []
  | value :: rest =>
    let next := (value - last) * multiplier + last
    next :: emaFrom multiplier next rest

/-- `_ema_values` -/
def emaValues (values : List Rat) (period : Nat) : List Rat :=
  match values with
  | [] => []
  | value :: rest => value :: emaFrom (2 / (period + 1)) value rest

/-- Wilder's average: the mean of the first `period` values, smoothed with the others. -/
def wilder (period : Nat) (values : List Rat) : Rat :=
  (values.drop period).foldl (fun average value => (average * (period - 1) + value) / period)
    ((values.take period).sum / period)

namespace EMAFeature

def feature (period : Nat) : Feature := ⟨"ema", "ema.v1", [("period", period)]⟩

def compute (period : Nat) (series : MarketDataSeries) : Except ComputeError FeatureResult :=
  if period < 2 ∨ series.bars.length < period then .ok ((feature period).invalid series)
  else do
    let ema ← fromEnd (emaValues series.closes period) 0
    pure ((feature period).result series [("ema", ema)])

end EMAFeature

/-- `[current - previous for previous, current in zip(values, values[1:])]` -/
def changes (values : List Rat) : List Rat :=
  (values.zip values.tail).map (fun pair => pair.2 - pair.1)

namespace RSIFeature

def feature (period : Nat) : Feature := ⟨"rsi", "rsi.wilder.v1", [("period", period)]⟩

/-- The index of the two averages, before it is clamped. -/
def index (avgGain avgLoss : Rat) : Except ComputeError Rat :=
  if avgLoss = 0 ∧ avgGain = 0 then .ok 50
  else if avgLoss = 0 then .ok 100
  else do
    let ratio ← divide avgGain avgLoss
    let share ← divide 100 (1 + ratio)
    pure (100 - share)

def compute (period : Nat) (series : MarketDataSeries) : Except ComputeError FeatureResult :=
  if period < 2 ∨ series.closes.length ≤ period then .ok ((feature period).invalid series)
  else do
    let gains := (changes series.closes).map (fun change => max change 0)
    let losses := (changes series.closes).map (fun change => max (-change) 0)
    let rsi ← index (wilder period gains) (wilder period losses)
    pure ((feature period).result series [("rsi", min 100 (max 0 rsi))])

end RSIFeature

namespace MACDFeature

def feature (fast slow signal : Nat) : Feature :=
  ⟨"macd", "macd.v1", [("fast", fast), ("slow", slow), ("signal", signal)]⟩

def compute (fast slow signal : Nat) (series : MarketDataSeries) :
    Except ComputeError FeatureResult :=
  let closes := series.closes
  if fast < 2 ∨ slow ≤ fast ∨ signal < 2 ∨ closes.length < slow + signal then
    .ok ((feature fast slow signal).invalid series)
  else do
    let macdValues := List.zipWith (· - ·) (emaValues closes fast) (emaValues closes slow)
    let macd ← fromEnd macdValues 0
    let signalValue ← fromEnd (emaValues macdValues signal) 0
    pure ((feature fast slow signal).result series
      [("macd", macd), ("signal", signalValue), ("histogram", macd - signalValue)])

end MACDFeature

namespace ATRFeature

def feature (period : Nat) : Feature := ⟨"atr", "atr.wilder.v1", [("period", period)]⟩

/-- The loop over the bars, with the close of the one before. -/
def trueRanges (previousClose : Option Rat) : List (Rat × Rat × Rat) → List Rat
  | [] => []
  | (high, low, close) :: rest =>
    let trueRange :=
      match previousClose with
      | none => high - low
      | some previous => max (high - low) (max |high - previous| |low - previous|)
    trueRange :: trueRanges (some close) rest

def compute (period : Nat) (series : MarketDataSeries) : Except ComputeError FeatureResult :=
  if period < 2 ∨ series.bars.length ≤ period then .ok ((feature period).invalid series)
  else do
    let atr := wilder period (trueRanges none series.candles)
    let atrPercent ← divide atr (← fromEnd series.closes 0)
    pure ((feature period).result series [("atr", atr), ("atr_percent", atrPercent)])

end ATRFeature

namespace ReturnFeature

def feature (lookback : Nat) : Feature := ⟨"return", "return.simple.v1", [("lookback", lookback)]⟩

def compute (lookback : Nat) (series : MarketDataSeries) : Except ComputeError FeatureResult :=
  if lookback < 1 ∨ series.bars.length ≤ lookback then .ok ((feature lookback).invalid series)
  else do
    let previous ← fromEnd series.closes lookback
    let current ← fromEnd series.closes 0
    let quotient ← divide current previous
    pure ((feature lookback).result series [("return", quotient - 1)])

end ReturnFeature

namespace VolatilityFeature

def feature (period : Nat) : Feature :=
  ⟨"realized_volatility", "realized-volatility.v1", [("period", period)]⟩

/-- `[math.log(current / previous) for previous, current in zip(closes, closes[1:])]` -/
def logReturns (ops : FloatOps) (closes : List Rat) : Except ComputeError (List Rat) :=
  (closes.zip closes.tail).mapM (fun pair => do ops.mathLog (← divide pair.2 pair.1))

def compute (ops : FloatOps) (period : Nat) (series : MarketDataSeries) :
    Except ComputeError FeatureResult :=
  if period < 2 ∨ series.closes.length ≤ period then .ok ((feature period).invalid series)
  else do
    let returns ← logReturns ops series.closes
    let volatility ← ops.statisticsPstdev (returns.rtake period)
    pure ((feature period).result series [("volatility", volatility)])

end VolatilityFeature

namespace VolumeTrendFeature

def feature (shortPeriod longPeriod : Nat) : Feature :=
  ⟨"volume_trend", "volume-trend.v1", [("short_period", shortPeriod), ("long_period", longPeriod)]⟩

/-- The mean of the last `period` values. -/
def mean (period : Nat) (values : List Rat) : Rat := (values.rtake period).sum / period

def compute (shortPeriod longPeriod : Nat) (series : MarketDataSeries) :
    Except ComputeError FeatureResult :=
  if shortPeriod < 1 ∨ longPeriod ≤ shortPeriod ∨ series.bars.length < longPeriod then
    .ok ((feature shortPeriod longPeriod).invalid series)
  else do
    let shortMean := mean shortPeriod series.volumes
    let longMean := mean longPeriod series.volumes
    let ratio ← if longMean = 0 then .ok 1 else divide shortMean longMean
    pure ((feature shortPeriod longPeriod).result series [("ratio", ratio)])

end VolumeTrendFeature

end Tomiris
