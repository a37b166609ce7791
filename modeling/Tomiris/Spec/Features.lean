import Mathlib.Algebra.Order.BigOperators.Group.List
import Mathlib.Algebra.Order.Field.Rat
import Mathlib.Tactic.Positivity
import Tomiris.Features.Pipeline
import Tomiris.ForStd.Except

/-!
# Features of a valid series

In exact arithmetic no feature of a series that passed its validators divides by zero, takes the
logarithm of a number that is not positive, or looks at a bar that is not there. The prices of a
bar are positive, and smoothed averages of numbers that are not negative are not negative.

## Key results

- `wilder_nonneg`: the invariant of Wilder's average
- `pipeline_reports`: every feature is computed, under its name and with its parameters
-/

namespace Tomiris

open Except

/-- By what is not zero can be divided. -/
theorem divide_ok {a b : Rat} (h : b ≠ 0) : divide a b = .ok (a / b) := if_neg h

/-- A look-up within the list. -/
theorem fromEnd_ok {α : Type} {l : List α} {back : Nat} (h : back < l.length) :
    ∃ a ∈ l, fromEnd l back = .ok a := by
  have hback : back < l.reverse.length := by rwa [List.length_reverse]
  refine ⟨l.reverse[back], ?_, ?_⟩
  · exact List.mem_reverse.mp (List.getElem_mem hback)
  · rw [fromEnd, List.getElem?_eq_getElem hback]

/-- `l[-1 - back]`, where there is one. -/
def nthLast (l : List Rat) (back : Nat) : Rat := l.reverse.getD back 0

/-- The number that is found. -/
theorem fromEnd_eq {l : List Rat} {back : Nat} (h : back < l.length) :
    fromEnd l back = .ok (nthLast l back) := by
  have hback : back < l.reverse.length := by rwa [List.length_reverse]
  rw [fromEnd, nthLast, List.getD_eq_getElem?_getD, List.getElem?_eq_getElem hback]
  rfl

/-- It is one of the list. -/
theorem nthLast_mem {l : List Rat} {back : Nat} (h : back < l.length) : nthLast l back ∈ l := by
  obtain ⟨a, ha, hfrom⟩ := fromEnd_ok h
  rw [fromEnd_eq h] at hfrom
  cases hfrom
  exact ha

namespace MarketDataSeries

variable (s : MarketDataSeries)

/-- There is a close for each bar. -/
@[simp] theorem closes_length : s.closes.length = s.bars.length := List.length_map ..

/-- A series has bars. -/
theorem bars_pos : 0 < s.bars.length := s.valid.bars.1

/-- The prices of a validated bar are positive. -/
theorem closes_pos : ∀ close ∈ s.closes, 0 < close := by
  intro close h
  obtain ⟨bar, -, rfl⟩ := List.mem_map.mp h
  exact bar.valid.positive.2.2.2

/-- Closes are positive, so they can be divided by. -/
theorem close_ne_zero {back : Nat} (h : back < s.bars.length) : nthLast s.closes back ≠ 0 :=
  (s.closes_pos _ (nthLast_mem (by rwa [s.closes_length]))).ne'

end MarketDataSeries

section Averages

variable {period : Nat} {values : List Rat}

/-- There is one value for each one that is smoothed. -/
theorem emaFrom_length (multiplier last : Rat) (values : List Rat) :
    (emaFrom multiplier last values).length = values.length := by
  induction values generalizing last with
  | nil => rfl
  | cons value rest ih => simp [emaFrom, ih]

/-- And one for the first. -/
@[simp] theorem emaValues_length (values : List Rat) (period : Nat) :
    (emaValues values period).length = values.length := by
  cases values with
  | nil => rfl
  | cons value rest => simp [emaValues, emaFrom_length]

/-- One turn of Wilder's loop. -/
theorem smooth_nonneg (hperiod : 1 ≤ period) {average value : Rat} (haverage : 0 ≤ average)
    (hvalue : 0 ≤ value) : 0 ≤ (average * (period - 1) + value) / period := by
  have hweight : (0 : Rat) ≤ period - 1 := by
    have : (1 : Rat) ≤ period := by exact_mod_cast hperiod
    linarith
  positivity

/-- All of them. -/
theorem foldl_smooth_nonneg (hperiod : 1 ≤ period) (h : ∀ value ∈ values, 0 ≤ value)
    {average : Rat} (haverage : 0 ≤ average) :
    0 ≤ values.foldl (fun (average value : Rat) => (average * (period - 1) + value) / period)
      average := by
  induction values generalizing average with
  | nil => exact haverage
  | cons value rest ih =>
    rw [List.forall_mem_cons] at h
    exact ih h.2 (smooth_nonneg hperiod haverage h.1)

/-- Wilder's average of numbers that are not negative is not negative. -/
theorem wilder_nonneg (hperiod : 1 ≤ period) (h : ∀ value ∈ values, 0 ≤ value) :
    0 ≤ wilder period values := by
  have hsum : 0 ≤ (values.take period).sum :=
    List.sum_nonneg fun value hvalue => h value (List.mem_of_mem_take hvalue)
  have hstart : 0 ≤ (values.take period).sum / period := by positivity
  exact foldl_smooth_nonneg hperiod (fun value hvalue => h value (List.mem_of_mem_drop hvalue))
    hstart

end Averages

/-- What a feature reports: that the history is too short, or values. -/
inductive Feature.Reports (feature : Feature) (s : MarketDataSeries) : FeatureResult → Prop
  | invalid : feature.Reports s (feature.invalid s)
  | valid (values : List (String × Rat)) : feature.Reports s (feature.result s values)

/-- A feature reports under its name. -/
theorem Feature.Reports.name {feature : Feature} {s : MarketDataSeries} {f : FeatureResult}
    (h : feature.Reports s f) : f.featureName = feature.featureName := by
  cases h <;> rfl

/-- And with its periods. -/
theorem Feature.Reports.parameters {feature : Feature} {s : MarketDataSeries} {f : FeatureResult}
    (h : feature.Reports s f) : f.parameters = feature.parameters := by
  cases h <;> rfl

section Indicators

variable (s : MarketDataSeries)

/-- The average never raises. -/
theorem ema_reports (period : Nat) :
    ∃ f, EMAFeature.compute period s = .ok f ∧ (EMAFeature.feature period).Reports s f := by
  unfold EMAFeature.compute
  split
  · exact ⟨_, rfl, .invalid⟩
  · obtain ⟨ema, -, hema⟩ : ∃ ema ∈ emaValues s.closes period,
        fromEnd (emaValues s.closes period) 0 = .ok ema :=
      fromEnd_ok (by simpa using s.bars_pos)
    rw [hema]
    exact ⟨_, rfl, .valid _⟩

/-- The divisors are not zero: the average loss by the case, the sum since the averages are not
    negative. -/
theorem index_ok {avgGain avgLoss : Rat} (hgain : 0 ≤ avgGain) (hloss : 0 ≤ avgLoss) :
    ∃ rsi, RSIFeature.index avgGain avgLoss = .ok rsi := by
  unfold RSIFeature.index
  split
  · exact ⟨50, rfl⟩
  split
  · exact ⟨100, rfl⟩
  -- both quotients have a divisor that is not zero
  · rename_i hne
    have hratio : 0 ≤ avgGain / avgLoss := div_nonneg hgain hloss
    have hsum : 1 + avgGain / avgLoss ≠ 0 := by linarith
    rw [divide_ok hne]
    simp only [bind, Except.bind]
    rw [divide_ok hsum]
    exact ⟨_, rfl⟩

/-- Nor does the index: one more than a ratio is not zero. -/
theorem rsi_reports (period : Nat) :
    ∃ f, RSIFeature.compute period s = .ok f ∧ (RSIFeature.feature period).Reports s f := by
  unfold RSIFeature.compute
  split
  · exact ⟨_, rfl, .invalid⟩
  · rename_i hguard
    have hperiod : 1 ≤ period := by omega
    -- gains and losses are not negative, nor are their averages
    have hgains : 0 ≤ wilder period ((changes s.closes).map (fun change => max change 0)) :=
      wilder_nonneg hperiod (by simp)
    have hlosses : 0 ≤ wilder period ((changes s.closes).map (fun change => max (-change) 0)) :=
      wilder_nonneg hperiod (by simp)
    obtain ⟨rsi, hrsi⟩ := index_ok hgains hlosses
    simp only [hrsi]
    exact ⟨_, rfl, .valid _⟩

/-- Nor does the difference of averages. -/
theorem macd_reports (fast slow signal : Nat) :
    ∃ f, MACDFeature.compute fast slow signal s = .ok f ∧
      (MACDFeature.feature fast slow signal).Reports s f := by
  unfold MACDFeature.compute
  simp only
  split
  · exact ⟨_, rfl, .invalid⟩
  -- there is a difference for each bar, and at least one bar
  · have hvalues : 0 < (List.zipWith (· - ·) (emaValues s.closes fast)
        (emaValues s.closes slow)).length := by
      simpa using s.bars_pos
    have hsignals : 0 < (emaValues (List.zipWith (· - ·) (emaValues s.closes fast)
        (emaValues s.closes slow)) signal).length := by
      rwa [emaValues_length]
    obtain ⟨macd, -, hmacd⟩ := fromEnd_ok hvalues
    obtain ⟨signalValue, -, hsignal⟩ := fromEnd_ok hsignals
    rw [hmacd]
    simp only [bind, Except.bind]
    rw [hsignal]
    exact ⟨_, rfl, .valid _⟩

/-- Nor does the true range. -/
theorem atr_reports (period : Nat) :
    ∃ f, ATRFeature.compute period s = .ok f ∧ (ATRFeature.feature period).Reports s f := by
  unfold ATRFeature.compute
  split
  · exact ⟨_, rfl, .invalid⟩
  · obtain ⟨close, hmem, hclose⟩ : ∃ close ∈ s.closes, fromEnd s.closes 0 = .ok close :=
      fromEnd_ok (by simpa using s.bars_pos)
    have hne : close ≠ 0 := (s.closes_pos close hmem).ne'
    simp only [hclose, bind, Except.bind]
    rw [divide_ok hne]
    exact ⟨_, rfl, .valid _⟩

/-- Nor does the return. -/
theorem return_reports (lookback : Nat) :
    ∃ f, ReturnFeature.compute lookback s = .ok f ∧
      (ReturnFeature.feature lookback).Reports s f := by
  unfold ReturnFeature.compute
  split
  · exact ⟨_, rfl, .invalid⟩
  · rename_i hguard
    obtain ⟨previous, hmem, hprevious⟩ : ∃ close ∈ s.closes,
        fromEnd s.closes lookback = .ok close :=
      fromEnd_ok (by rw [s.closes_length]; omega)
    obtain ⟨current, -, hcurrent⟩ : ∃ close ∈ s.closes, fromEnd s.closes 0 = .ok close :=
      fromEnd_ok (by simpa using s.bars_pos)
    -- a close is positive
    have hne : previous ≠ 0 := (s.closes_pos previous hmem).ne'
    simp only [hprevious, hcurrent, bind, Except.bind]
    rw [divide_ok hne]
    exact ⟨_, rfl, .valid _⟩

/-- The ratio of two closes is positive. -/
theorem logReturns_ok (ops : FloatOps) :
    ∃ returns, VolatilityFeature.logReturns ops s.closes = .ok returns ∧
      returns.length = s.bars.length - 1 := by
  -- a ratio of closes is positive, so its logarithm is defined
  have hone : ∀ pair ∈ s.closes.zip s.closes.tail,
      ∃ r, (do ops.mathLog (← divide pair.2 pair.1) : Except ComputeError Rat) = .ok r := by
    intro pair hpair
    obtain ⟨hprevious, hcurrent⟩ := List.of_mem_zip hpair
    have hpos : 0 < pair.1 := s.closes_pos _ hprevious
    have hpos' : 0 < pair.2 := s.closes_pos _ (List.mem_of_mem_tail hcurrent)
    rw [divide_ok hpos.ne']
    simp only [bind, Except.bind, FloatOps.mathLog]
    rw [if_neg (not_le.mpr (div_pos hpos' hpos))]
    exact ⟨_, rfl⟩
  obtain ⟨returns, hreturns⟩ := mapM_ok hone
  refine ⟨returns, hreturns, ?_⟩
  have hlength := (mapM_eq_ok.mp hreturns).length_eq
  rw [← hlength, List.length_zip, List.length_tail, s.closes_length]
  omega

/-- Nor does the volatility: quotients of prices are positive. -/
theorem volatility_reports (ops : FloatOps) (period : Nat) :
    ∃ f, VolatilityFeature.compute ops period s = .ok f ∧
      (VolatilityFeature.feature period).Reports s f := by
  unfold VolatilityFeature.compute
  split
  · exact ⟨_, rfl, .invalid⟩
  · rename_i hguard
    rw [s.closes_length] at hguard
    obtain ⟨returns, hreturns, hlength⟩ := logReturns_ok s ops
    have hne : (returns.rtake period).isEmpty = false := by
      rw [List.isEmpty_eq_false_iff, ← List.length_pos_iff, List.rtake, List.length_drop]
      omega
    simp only [hreturns, bind, Except.bind, FloatOps.statisticsPstdev, hne]
    exact ⟨_, rfl, .valid _⟩

/-- Nor does the volume feature. -/
theorem volume_reports (shortPeriod longPeriod : Nat) :
    ∃ f, VolumeTrendFeature.compute shortPeriod longPeriod s = .ok f ∧
      (VolumeTrendFeature.feature shortPeriod longPeriod).Reports s f := by
  unfold VolumeTrendFeature.compute
  split
  · exact ⟨_, rfl, .invalid⟩
  · by_cases hzero : VolumeTrendFeature.mean longPeriod s.volumes = 0
    · simp only [hzero, if_true]
      exact ⟨_, rfl, .valid _⟩
    · simp only [hzero, if_false, divide_ok hzero]
      exact ⟨_, rfl, .valid _⟩

end Indicators

/-- What the pipeline returns for a series: the eight features in their order. -/
structure PipelineReports (config : FeaturePipelineConfig) (s : MarketDataSeries)
    (emaFast emaSlow rsi macd atr return' volatility volume : FeatureResult) : Prop where
  ema_fast : (EMAFeature.feature config.emaFast).Reports s emaFast
  ema_slow : (EMAFeature.feature config.emaSlow).Reports s emaSlow
  rsi : (RSIFeature.feature config.rsiPeriod).Reports s rsi
  macd : (MACDFeature.feature config.macdFast config.macdSlow config.macdSignal).Reports s macd
  atr : (ATRFeature.feature config.atrPeriod).Reports s atr
  return' : (ReturnFeature.feature config.returnLookback).Reports s return'
  volatility : (VolatilityFeature.feature config.volatilityPeriod).Reports s volatility
  volume : (VolumeTrendFeature.feature config.volumeShortPeriod config.volumeLongPeriod).Reports s
    volume

/-- Every feature of a valid series is computed. -/
theorem pipeline_reports (ops : FloatOps) (config : FeaturePipelineConfig) (s : MarketDataSeries) :
    ∃ emaFast emaSlow rsi macd atr return' volatility volume,
      TechnicalFeaturePipeline.compute ops config s =
        .ok [emaFast, emaSlow, rsi, macd, atr, return', volatility, volume] ∧
      PipelineReports config s emaFast emaSlow rsi macd atr return' volatility volume := by
  obtain ⟨emaFast, hemaFast, hemaFast'⟩ := ema_reports s config.emaFast
  obtain ⟨emaSlow, hemaSlow, hemaSlow'⟩ := ema_reports s config.emaSlow
  obtain ⟨rsi, hrsi, hrsi'⟩ := rsi_reports s config.rsiPeriod
  obtain ⟨macd, hmacd, hmacd'⟩ :=
    macd_reports s config.macdFast config.macdSlow config.macdSignal
  obtain ⟨atr, hatr, hatr'⟩ := atr_reports s config.atrPeriod
  obtain ⟨return', hreturn, hreturn'⟩ := return_reports s config.returnLookback
  obtain ⟨volatility, hvolatility, hvolatility'⟩ :=
    volatility_reports s ops config.volatilityPeriod
  obtain ⟨volume, hvolume, hvolume'⟩ :=
    volume_reports s config.volumeShortPeriod config.volumeLongPeriod
  -- the eight features, one after the other
  refine ⟨emaFast, emaSlow, rsi, macd, atr, return', volatility, volume, ?_,
    ⟨hemaFast', hemaSlow', hrsi', hmacd', hatr', hreturn', hvolatility', hvolume'⟩⟩
  unfold TechnicalFeaturePipeline.compute
  rw [hemaFast, hemaSlow, hrsi, hmacd, hatr, hreturn, hvolatility, hvolume]
  rfl

end Tomiris
