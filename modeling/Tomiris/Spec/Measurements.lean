import Tomiris.Spec.Envelopes
import Tomiris.Spec.Technical

/-!
# What the pipeline measures

Each feature of a valid series in closed form: its values if the series has the bars it needs, and
nothing else makes it invalid. The guards differ by one bar here and there, but on a validated
configuration each of them is a bound on the number of bars.

## Key results

- `ema_eq` and its siblings: the features in closed form
- `pipeline_valid_iff`: the pipeline is total, and when its features are valid
- `readIndicators_measure`: what the engine reads off the features
-/

namespace Tomiris

open Except

/-- What a feature reports that needs the bars: its values, or that there are too few. -/
def Feature.reported (feature : Feature) (s : MarketDataSeries) (history : Nat)
    (values : List (String × Rat)) : FeatureResult :=
  if history ≤ s.bars.length then feature.result s values else feature.invalid s

/-- A feature is valid if the series is long enough. -/
theorem Feature.reported_valid {feature : Feature} {s : MarketDataSeries} {history : Nat}
    {values : List (String × Rat)} :
    (feature.reported s history values).valid = true ↔ history ≤ s.bars.length := by
  unfold reported
  split
  · rename_i h
    simp [result, h]
  · rename_i h
    simp [invalid, h]

/-- Then it reports its values. -/
theorem Feature.reported_of_le {feature : Feature} {s : MarketDataSeries} {history : Nat}
    {values : List (String × Rat)} (h : history ≤ s.bars.length) :
    feature.reported s history values = feature.result s values := if_pos h

/-- The values of the MACD before they are smoothed. -/
def macdLine (fast slow : Nat) (closes : List Rat) : List Rat :=
  List.zipWith (· - ·) (emaValues closes fast) (emaValues closes slow)

/-- The line has a value for each close. -/
@[simp] theorem macdLine_length (fast slow : Nat) (closes : List Rat) :
    (macdLine fast slow closes).length = closes.length := by
  simp [macdLine]

/-- The logarithms of the returns. -/
def logRatios (ops : FloatOps) (closes : List Rat) : List Rat :=
  (closes.zip closes.tail).map fun pair => ops.log (pair.2 / pair.1)

/-- The last mean volume in terms of the longer one. -/
def volumeRatioOf (shortPeriod longPeriod : Nat) (volumes : List Rat) : Rat :=
  if VolumeTrendFeature.mean longPeriod volumes = 0 then 1
  else VolumeTrendFeature.mean shortPeriod volumes / VolumeTrendFeature.mean longPeriod volumes

/-- What the pipeline measures on a series with enough bars. -/
def measure (ops : FloatOps) (c : PipelineFields) (s : MarketDataSeries) :
    TechnicalAnalysisEngine.Indicators where
  fast := nthLast (emaValues s.closes c.emaFast) 0
  slow := nthLast (emaValues s.closes c.emaSlow) 0
  rsi := gainShare (averageGain c.rsiPeriod s.closes) (averageLoss c.rsiPeriod s.closes)
  histogram := nthLast (macdLine c.macdFast c.macdSlow s.closes) 0 -
    nthLast (emaValues (macdLine c.macdFast c.macdSlow s.closes) c.macdSignal) 0
  atr := wilder c.atrPeriod (ATRFeature.trueRanges none s.candles)
  atrPercent := wilder c.atrPeriod (ATRFeature.trueRanges none s.candles) / nthLast s.closes 0
  realizedVolatility := ops.pstdev ((logRatios ops s.closes).rtake c.volatilityPeriod)
  latestReturn := nthLast s.closes 0 / nthLast s.closes c.returnLookback - 1
  volumeRatio := volumeRatioOf c.volumeShortPeriod c.volumeLongPeriod s.volumes

section Features

variable (s : MarketDataSeries)

/-- A computation whose guard is a bound on the number of bars. -/
theorem reported_eq {s : MarketDataSeries} {feature : Feature} {history : Nat}
    {values : List (String × Rat)} {x : Except ComputeError FeatureResult}
    (hresult : history ≤ s.bars.length → x = .ok (feature.result s values))
    (hinvalid : ¬ history ≤ s.bars.length → x = .ok (feature.invalid s)) :
    x = .ok (feature.reported s history values) := by
  unfold Feature.reported
  by_cases h : history ≤ s.bars.length
  · rw [if_pos h, hresult h]
  · rw [if_neg h, hinvalid h]

/-- The same where the guard comes first. -/
theorem guarded_eq {s : MarketDataSeries} {guard : Prop} [Decidable guard] {feature : Feature}
    {history : Nat} {values : List (String × Rat)} {rest : Except ComputeError FeatureResult}
    (hguard : guard ↔ ¬ history ≤ s.bars.length)
    (hrest : history ≤ s.bars.length → rest = .ok (feature.result s values)) :
    (if guard then .ok (feature.invalid s) else rest) =
      .ok (feature.reported s history values) := by
  refine reported_eq (fun h => ?_) fun h => if_pos (hguard.mpr h)
  rw [if_neg fun hg => hguard.mp hg h, hrest h]

/-- What the average is. -/
theorem ema_eq {period : Nat} (hperiod : 2 ≤ period) : EMAFeature.compute period s =
    .ok ((EMAFeature.feature period).reported s period
      [("ema", nthLast (emaValues s.closes period) 0)]) := by
  refine guarded_eq (by omega) fun _ => ?_
  rw [fromEnd_eq (by simpa using s.bars_pos)]
  rfl

/-- What the index is. -/
theorem rsi_eq {period : Nat} (hperiod : 2 ≤ period) : RSIFeature.compute period s =
    .ok ((RSIFeature.feature period).reported s (period + 1)
      [("rsi", gainShare (averageGain period s.closes) (averageLoss period s.closes))]) := by
  refine reported_eq (rsi_result s hperiod) fun hshort => if_pos ?_
  rw [s.closes_length]
  omega

/-- What the difference of averages is. -/
theorem macd_eq {fast slow signal : Nat} (hfast : 2 ≤ fast) (hslow : fast < slow)
    (hsignal : 2 ≤ signal) : MACDFeature.compute fast slow signal s =
    .ok ((MACDFeature.feature fast slow signal).reported s (slow + signal)
      [("macd", nthLast (macdLine fast slow s.closes) 0),
        ("signal", nthLast (emaValues (macdLine fast slow s.closes) signal) 0),
        ("histogram", nthLast (macdLine fast slow s.closes) 0 -
          nthLast (emaValues (macdLine fast slow s.closes) signal) 0)]) := by
  have hline : 0 < (macdLine fast slow s.closes).length := by simpa using s.bars_pos
  have hsmoothed : 0 < (emaValues (macdLine fast slow s.closes) signal).length := by
    rwa [emaValues_length]
  refine guarded_eq (by rw [s.closes_length]; omega) fun _ => ?_
  have hmacd := fromEnd_eq hline
  have hsignalValue := fromEnd_eq hsmoothed
  unfold macdLine at hmacd hsignalValue ⊢
  rw [hmacd]
  simp only [bind, Except.bind]
  rw [hsignalValue]
  rfl

/-- What the true range is. -/
theorem atr_eq {period : Nat} (hperiod : 2 ≤ period) : ATRFeature.compute period s =
    .ok ((ATRFeature.feature period).reported s (period + 1)
      [("atr", wilder period (ATRFeature.trueRanges none s.candles)),
        ("atr_percent", wilder period (ATRFeature.trueRanges none s.candles) /
          nthLast s.closes 0)]) :=
  reported_eq (atr_result s hperiod) fun hshort => if_pos (by omega)

/-- What the return is. -/
theorem return_eq {lookback : Nat} (hlookback : 1 ≤ lookback) :
    ReturnFeature.compute lookback s =
    .ok ((ReturnFeature.feature lookback).reported s (lookback + 1)
      [("return", nthLast s.closes 0 / nthLast s.closes lookback - 1)]) := by
  refine guarded_eq (by omega) fun hhistory => ?_
  rw [fromEnd_eq (by rw [s.closes_length]; omega), fromEnd_eq (by simpa using s.bars_pos)]
  simp only [bind, Except.bind]
  rw [divide_ok (s.close_ne_zero (by omega))]
  rfl

/-- No quotient raises, and no logarithm does. -/
theorem logReturns_eq (ops : FloatOps) :
    VolatilityFeature.logReturns ops s.closes = .ok (logRatios ops s.closes) := by
  unfold VolatilityFeature.logReturns logRatios
  rw [mapM_eq_ok, List.forall₂_map_right_iff, List.forall₂_same]
  intro pair hpair
  obtain ⟨hprevious, hcurrent⟩ := List.of_mem_zip hpair
  -- prices are positive, so the quotient is defined and has a logarithm
  have hpos : 0 < pair.1 := s.closes_pos _ hprevious
  have hpos' : 0 < pair.2 := s.closes_pos _ (List.mem_of_mem_tail hcurrent)
  rw [divide_ok hpos.ne']
  exact if_neg (not_le.mpr (div_pos hpos' hpos))

/-- What the volatility is. -/
theorem volatility_eq (ops : FloatOps) {period : Nat} (hperiod : 2 ≤ period) :
    VolatilityFeature.compute ops period s =
    .ok ((VolatilityFeature.feature period).reported s (period + 1)
      [("volatility", ops.pstdev ((logRatios ops s.closes).rtake period))]) := by
  refine guarded_eq (by rw [s.closes_length]; omega) fun hhistory => ?_
  have hne : ((logRatios ops s.closes).rtake period).isEmpty = false := by
    rw [List.isEmpty_eq_false_iff, ← List.length_pos_iff, List.rtake, List.length_drop, logRatios,
      List.length_map, List.length_zip, List.length_tail, s.closes_length]
    omega
  rw [logReturns_eq]
  simp only [bind, Except.bind, FloatOps.statisticsPstdev, hne]
  rfl

/-- What the volume feature is. -/
theorem volume_eq {shortPeriod longPeriod : Nat} (hshort : 1 ≤ shortPeriod)
    (hlong : shortPeriod < longPeriod) : VolumeTrendFeature.compute shortPeriod longPeriod s =
    .ok ((VolumeTrendFeature.feature shortPeriod longPeriod).reported s longPeriod
      [("ratio", volumeRatioOf shortPeriod longPeriod s.volumes)]) := by
  refine guarded_eq (by omega) fun _ => ?_
  unfold volumeRatioOf
  -- no volume at all is a ratio of 1
  by_cases hzero : VolumeTrendFeature.mean longPeriod s.volumes = 0
  · simp only [hzero, if_true]
    rfl
  · simp only [hzero, if_false, divide_ok hzero]
    rfl

end Features

/-- The bars that each feature of a pipeline needs, in their order. -/
def PipelineFields.histories (c : PipelineFields) : List Nat :=
  [c.emaFast, c.emaSlow, c.rsiPeriod + 1, c.macdSlow + c.macdSignal, c.atrPeriod + 1,
    c.returnLookback + 1, c.volatilityPeriod + 1, c.volumeLongPeriod]

/-- The bars that all of them need. -/
def PipelineFields.requiredHistory (c : PipelineFields) : Nat :=
  max c.emaSlow (max (c.rsiPeriod + 1) (max (c.macdSlow + c.macdSignal) (max (c.atrPeriod + 1)
    (max (c.returnLookback + 1) (max (c.volatilityPeriod + 1) c.volumeLongPeriod)))))

/-- The fast average needs fewer bars than the slow one. -/
theorem histories_le_iff (config : FeaturePipelineConfig) (n : Nat) :
    (∀ history ∈ config.histories, history ≤ n) ↔ config.requiredHistory ≤ n := by
  have horder := config.valid.ema_order
  simp only [PipelineFields.histories, PipelineFields.requiredHistory, List.forall_mem_cons,
    List.not_mem_nil, false_implies, implies_true, max_le_iff, and_true]
  omega

/-- The features of a series, in closed form. -/
def reportedFeatures (ops : FloatOps) (c : PipelineFields) (s : MarketDataSeries) :
    List FeatureResult :=
  let x := measure ops c s
  let line := macdLine c.macdFast c.macdSlow s.closes
  [(EMAFeature.feature c.emaFast).reported s c.emaFast [("ema", x.fast)],
    (EMAFeature.feature c.emaSlow).reported s c.emaSlow [("ema", x.slow)],
    (RSIFeature.feature c.rsiPeriod).reported s (c.rsiPeriod + 1) [("rsi", x.rsi)],
    (MACDFeature.feature c.macdFast c.macdSlow c.macdSignal).reported s (c.macdSlow + c.macdSignal)
      [("macd", nthLast line 0), ("signal", nthLast (emaValues line c.macdSignal) 0),
        ("histogram", x.histogram)],
    (ATRFeature.feature c.atrPeriod).reported s (c.atrPeriod + 1)
      [("atr", x.atr), ("atr_percent", x.atrPercent)],
    (ReturnFeature.feature c.returnLookback).reported s (c.returnLookback + 1)
      [("return", x.latestReturn)],
    (VolatilityFeature.feature c.volatilityPeriod).reported s (c.volatilityPeriod + 1)
      [("volatility", x.realizedVolatility)],
    (VolumeTrendFeature.feature c.volumeShortPeriod c.volumeLongPeriod).reported s
      c.volumeLongPeriod [("ratio", x.volumeRatio)]]

/-- So the pipeline returns eight features. -/
theorem pipeline_eq (ops : FloatOps) (config : FeaturePipelineConfig) (s : MarketDataSeries) :
    TechnicalFeaturePipeline.compute ops config s =
      .ok (reportedFeatures ops config.toPipelineFields s) := by
  have hvalid := config.valid
  -- the guards of the features never fire for a validated configuration
  have hslow : 2 ≤ config.emaSlow := by
    have hbounds := hvalid.ema_slow.1
    omega
  unfold TechnicalFeaturePipeline.compute
  rw [ema_eq s hvalid.ema_fast.1, ema_eq s hslow, rsi_eq s hvalid.rsi.1,
    macd_eq s hvalid.macd_fast.1 hvalid.macd_order hvalid.macd_signal.1, atr_eq s hvalid.atr.1,
    return_eq s hvalid.return_lookback.1, volatility_eq s ops hvalid.volatility.1,
    volume_eq s hvalid.volume_short.1 hvalid.volume_order]
  rfl

/-- Each is valid from its own length on. -/
theorem reportedFeatures_valid (ops : FloatOps) (c : PipelineFields) (s : MarketDataSeries) :
    List.Forall₂ (fun feature history => feature.valid = true ↔ history ≤ s.bars.length)
      (reportedFeatures ops c s) c.histories :=
  .cons Feature.reported_valid <| .cons Feature.reported_valid <|
  .cons Feature.reported_valid <| .cons Feature.reported_valid <|
  .cons Feature.reported_valid <| .cons Feature.reported_valid <|
  .cons Feature.reported_valid <| .cons Feature.reported_valid .nil

/-- All features are valid exactly if the series has the bars that all of them need. -/
theorem reportedFeatures_all (ops : FloatOps) (config : FeaturePipelineConfig)
    (s : MarketDataSeries) :
    (∀ feature ∈ reportedFeatures ops config.toPipelineFields s, feature.valid = true) ↔
      config.requiredHistory ≤ s.bars.length := by
  rw [← histories_le_iff]
  exact List.forall_mem_iff_of_forall₂ (reportedFeatures_valid ops config.toPipelineFields s)

/-- **The pipeline is total.** Every feature of a valid series is computed without an exception, and
    is valid exactly if the series has the bars that it needs. -/
theorem pipeline_valid_iff (ops : FloatOps) (config : FeaturePipelineConfig)
    (s : MarketDataSeries) :
    ∃ features, TechnicalFeaturePipeline.compute ops config s = .ok features ∧
      List.Forall₂ (fun feature history => feature.valid = true ↔ history ≤ s.bars.length)
        features config.histories ∧
      ((∀ feature ∈ features, feature.valid = true) ↔ config.requiredHistory ≤ s.bars.length) :=
  ⟨_, pipeline_eq ops config s, reportedFeatures_valid ops config.toPipelineFields s,
    reportedFeatures_all ops config s⟩

namespace TechnicalAnalysisEngine

/-- Each number is looked up in the feature that has it. -/
theorem readIndicators_eq {config : FeaturePipelineConfig} {s : MarketDataSeries}
    {emaFast emaSlow rsi macd atr return' volatility volume : FeatureResult}
    (h : PipelineReports config s emaFast emaSlow rsi macd atr return' volatility volume) :
    readIndicators config [emaFast, emaSlow, rsi, macd, atr, return', volatility, volume] = (do
      let fast ← emaFast.value "ema"
      let slow ← emaSlow.value "ema"
      let rsi ← rsi.value "rsi"
      let histogram ← macd.value "histogram"
      let atrValue ← atr.value "atr"
      let atrPercent ← atr.value "atr_percent"
      let realizedVolatility ← volatility.value "volatility"
      let latestReturn ← return'.value "return"
      let volumeRatio ← volume.value "ratio"
      pure ⟨fast, slow, rsi, histogram, atrValue, atrPercent, realizedVolatility, latestReturn,
        volumeRatio⟩) := by
  obtain ⟨hrsi, hmacd, hatr, hreturn, hvolatility, hvolume⟩ := feature_found h
  obtain ⟨hfast, hslow⟩ := emaResult_found h
  unfold readIndicators
  rw [hfast, hslow, hrsi, hmacd, hatr, hreturn, hvolatility, hvolume]
  rfl

/-- What the engine reads off valid features. -/
theorem readIndicators_measure (ops : FloatOps) (config : FeaturePipelineConfig)
    (s : MarketDataSeries) (h : config.requiredHistory ≤ s.bars.length) :
    readIndicators config (reportedFeatures ops config.toPipelineFields s) =
      .ok (measure ops config.toPipelineFields s) := by
  -- with enough bars all eight features report their values
  have hhistories := (histories_le_iff config s.bars.length).mpr h
  simp only [PipelineFields.histories, List.forall_mem_cons] at hhistories
  obtain ⟨h₁, h₂, h₃, h₄, h₅, h₆, h₇, h₈, -⟩ := hhistories
  unfold reportedFeatures
  simp only [Feature.reported_of_le h₁, Feature.reported_of_le h₂, Feature.reported_of_le h₃,
    Feature.reported_of_le h₄, Feature.reported_of_le h₅, Feature.reported_of_le h₆,
    Feature.reported_of_le h₇, Feature.reported_of_le h₈]
  rw [readIndicators_eq ⟨.valid _, .valid _, .valid _, .valid _, .valid _, .valid _, .valid _,
    .valid _⟩]
  rfl

end TechnicalAnalysisEngine

end Tomiris
