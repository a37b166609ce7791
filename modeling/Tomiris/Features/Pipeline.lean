import Tomiris.Features.Indicators

/-!
# The feature pipeline

`TechnicalFeaturePipeline`: eight features of a series, with the periods of a validated
configuration.
-/

namespace Tomiris

/-- The fields of `FeaturePipelineConfig`. -/
structure PipelineFields where
  emaFast : Nat := 20
  emaSlow : Nat := 50
  rsiPeriod : Nat := 14
  macdFast : Nat := 12
  macdSlow : Nat := 26
  macdSignal : Nat := 9
  atrPeriod : Nat := 14
  volatilityPeriod : Nat := 20
  volumeShortPeriod : Nat := 5
  volumeLongPeriod : Nat := 20
  returnLookback : Nat := 1

/-- The field constraints and `validate_periods` of `FeaturePipelineConfig`. -/
structure PipelineFields.Valid (c : PipelineFields) : Prop where
  ema_fast : 2 ≤ c.emaFast ∧ c.emaFast ≤ 500
  ema_slow : 3 ≤ c.emaSlow ∧ c.emaSlow ≤ 800
  rsi : 2 ≤ c.rsiPeriod ∧ c.rsiPeriod ≤ 100
  macd_fast : 2 ≤ c.macdFast ∧ c.macdFast ≤ 100
  macd_slow : 3 ≤ c.macdSlow ∧ c.macdSlow ≤ 200
  macd_signal : 2 ≤ c.macdSignal ∧ c.macdSignal ≤ 100
  atr : 2 ≤ c.atrPeriod ∧ c.atrPeriod ≤ 100
  volatility : 2 ≤ c.volatilityPeriod ∧ c.volatilityPeriod ≤ 200
  volume_short : 1 ≤ c.volumeShortPeriod ∧ c.volumeShortPeriod ≤ 100
  volume_long : 2 ≤ c.volumeLongPeriod ∧ c.volumeLongPeriod ≤ 500
  return_lookback : 1 ≤ c.returnLookback ∧ c.returnLookback ≤ 100
  ema_order : c.emaFast < c.emaSlow
  macd_order : c.macdFast < c.macdSlow
  volume_order : c.volumeShortPeriod < c.volumeLongPeriod

/-- `FeaturePipelineConfig`: periods that passed their validators. -/
structure FeaturePipelineConfig extends PipelineFields where
  valid : toPipelineFields.Valid

namespace TechnicalFeaturePipeline

def pipelineVersion : String := "technical-pipeline.v1"

/-- `compute` -/
def compute (ops : FloatOps) (config : FeaturePipelineConfig) (series : MarketDataSeries) :
    Except ComputeError (List FeatureResult) := do
  let emaFast ← EMAFeature.compute config.emaFast series
  let emaSlow ← EMAFeature.compute config.emaSlow series
  let rsi ← RSIFeature.compute config.rsiPeriod series
  let macd ← MACDFeature.compute config.macdFast config.macdSlow config.macdSignal series
  let atr ← ATRFeature.compute config.atrPeriod series
  let return' ← ReturnFeature.compute config.returnLookback series
  let volatility ← VolatilityFeature.compute ops config.volatilityPeriod series
  let volume ← VolumeTrendFeature.compute config.volumeShortPeriod config.volumeLongPeriod series
  pure [emaFast, emaSlow, rsi, macd, atr, return', volatility, volume]

end TechnicalFeaturePipeline

end Tomiris
