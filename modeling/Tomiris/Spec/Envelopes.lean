import Tomiris.ForStd.Smoothing
import Tomiris.Spec.Features

/-!
# Smoothed indicators

The loops of `_ema_values`, of Wilder's averages and of the true ranges smooth their values, so
that no average leaves the range of the values that went into it. Since no value is forgotten
entirely, the average loss is zero exactly if no close ever fell, which is what the two zero tests
of the RSI take it for.

## Key results

- `emaValues_enveloped`, `wilder_enveloped`: the averages stay in their envelopes
- `wilder_pos_iff`: when Wilder's average is positive
- `index_eq`: the RSI as the share of the gains
- `smoothing_enveloped`: all of it, for a valid series
-/

namespace Tomiris

open Smoothing

section Ema

variable {period : Nat} {closes : List Rat}

/-- An average is smoothed from the values up to its own. -/
theorem emaFrom_getElem? (multiplier last : Rat) (values : List Rat) (i : Nat) {ema : Rat}
    (h : (emaFrom multiplier last values)[i]? = some ema) :
    ema = (values.take (i + 1)).foldl (blend multiplier) last := by
  induction values generalizing last i with
  | nil => cases h
  | cons value rest ih =>
    cases i with
    | zero =>
      cases h
      simp [blend]
    | succ i =>
      rw [List.take_succ_cons, List.foldl_cons]
      exact ih _ i h

/-- A smoothing factor is a weight. -/
theorem multiplier_mem (hperiod : 1 ≤ period) :
    (0 : Rat) ≤ 2 / (period + 1) ∧ (2 : Rat) / (period + 1) ≤ 1 := by
  have hle : (1 : Rat) ≤ period := by exact_mod_cast hperiod
  have hpos : (0 : Rat) < period + 1 := by linarith
  refine ⟨by positivity, ?_⟩
  rw [div_le_one hpos]
  linarith

/-- Every average is between the least and the greatest of the closes so far. -/
theorem emaValues_enveloped (hperiod : 1 ≤ period) {i : Nat} {ema : Rat}
    (h : (emaValues closes period)[i]? = some ema) : Enveloped (closes.take (i + 1)) ema := by
  cases closes with
  | nil => cases h
  | cons close rest =>
    rw [List.take_succ_cons]
    refine enveloped_of_forall (List.cons_ne_nil _ _) fun lo hi hbounds => ?_
    -- the first average is the first close, each later one a blend of the closes up to it
    rw [List.forall_mem_cons] at hbounds
    cases i with
    | zero =>
      cases h
      exact hbounds.1
    | succ i =>
      rw [emaFrom_getElem? _ _ _ _ h]
      obtain ⟨hnonneg, hle⟩ := multiplier_mem hperiod
      exact foldl_blend_mem hnonneg hle hbounds.1 hbounds.2

end Ema

section Wilder

variable {period : Nat} {values : List Rat}

/-- Wilder's step smooths by one part in `period`. -/
theorem wilder_eq (hperiod : 1 ≤ period) (values : List Rat) : wilder period values =
    (values.drop period).foldl (blend (1 / (period : Rat)))
      ((values.take period).sum / (period : Rat)) := by
  have hne : (period : Rat) ≠ 0 := by
    have : (1 : Rat) ≤ period := by exact_mod_cast hperiod
    linarith
  have hstep : (fun average value : Rat => (average * (period - 1) + value) / period) =
      blend (1 / (period : Rat)) := by
    funext average value
    unfold blend
    field_simp
    ring
  rw [wilder, hstep]

/-- So is Wilder's. -/
theorem weight_mem (hperiod : 2 ≤ period) :
    (0 : Rat) < 1 / period ∧ (1 : Rat) / period < 1 := by
  have hle : (2 : Rat) ≤ period := by exact_mod_cast hperiod
  have hpos : (0 : Rat) < period := by linarith
  refine ⟨by positivity, ?_⟩
  rw [div_lt_one hpos]
  linarith

/-- Wilder's average is between the least and the greatest of its values. -/
theorem wilder_enveloped (hperiod : 2 ≤ period) (hlength : period ≤ values.length) :
    Enveloped values (wilder period values) := by
  have hne : values ≠ [] := by
    rintro rfl
    simp only [List.length_nil] at hlength
    omega
  obtain ⟨hpos, hlt⟩ := weight_mem hperiod
  -- it is enough that every interval with the values in it has the average in it
  refine enveloped_of_forall hne fun lo hi hbounds => ?_
  rw [wilder_eq (by omega)]
  refine foldl_blend_mem hpos.le hlt.le ?_ fun value hvalue =>
    hbounds value (List.mem_of_mem_drop hvalue)
  exact mean_mem (List.length_take_of_le hlength) (by omega) fun value hvalue =>
    hbounds value (List.mem_of_mem_take hvalue)

/-- A positive value anywhere makes Wilder's average positive. -/
theorem wilder_pos_iff (hperiod : 2 ≤ period) (h : ∀ value ∈ values, 0 ≤ value) :
    0 < wilder period values ↔ ∃ value ∈ values, 0 < value := by
  obtain ⟨hpos, hlt⟩ := weight_mem hperiod
  have hfirst : ∀ value ∈ values.take period, 0 ≤ value :=
    fun value hvalue => h value (List.mem_of_mem_take hvalue)
  have hmean : 0 ≤ (values.take period).sum / (period : Rat) :=
    div_nonneg (List.sum_nonneg hfirst) (Nat.cast_nonneg period)
  rw [wilder_eq (by omega), foldl_blend_pos_iff hpos hlt hmean fun value hvalue =>
    h value (List.mem_of_mem_drop hvalue), mean_pos_iff (by omega) hfirst]
  constructor
  · rintro (⟨value, hvalue, hgt⟩ | ⟨value, hvalue, hgt⟩)
    · exact ⟨value, List.mem_of_mem_take hvalue, hgt⟩
    · exact ⟨value, List.mem_of_mem_drop hvalue, hgt⟩
  · rintro ⟨value, hvalue, hgt⟩
    -- the value is in the first mean or is smoothed in later
    rw [← List.take_append_drop period values, List.mem_append] at hvalue
    rcases hvalue with hvalue | hvalue
    · exact .inl ⟨value, hvalue, hgt⟩
    · exact .inr ⟨value, hvalue, hgt⟩

end Wilder

section Rsi

/-- A close is above the one before. -/
def Rises (closes : List Rat) : Prop := ∃ pair ∈ closes.zip closes.tail, pair.1 < pair.2

/-- A close is below the one before. -/
def Falls (closes : List Rat) : Prop := ∃ pair ∈ closes.zip closes.tail, pair.2 < pair.1

/-- The averages that the RSI is computed from. -/
def averageGain (period : Nat) (closes : List Rat) : Rat :=
  wilder period ((changes closes).map (fun change => max change 0))

def averageLoss (period : Nat) (closes : List Rat) : Rat :=
  wilder period ((changes closes).map (fun change => max (-change) 0))

variable {period : Nat} {closes : List Rat}

/-- Gains are cut off at zero. -/
theorem averageGain_nonneg (hperiod : 1 ≤ period) : 0 ≤ averageGain period closes :=
  wilder_nonneg hperiod (by simp)

/-- So are losses. -/
theorem averageLoss_nonneg (hperiod : 1 ≤ period) : 0 ≤ averageLoss period closes :=
  wilder_nonneg hperiod (by simp)

/-- One gain is never forgotten completely. -/
theorem averageGain_pos_iff (hperiod : 2 ≤ period) :
    0 < averageGain period closes ↔ Rises closes := by
  unfold averageGain
  rw [wilder_pos_iff hperiod (by simp)]
  simp [changes, Rises]

/-- Nor is one loss. -/
theorem averageLoss_pos_iff (hperiod : 2 ≤ period) :
    0 < averageLoss period closes ↔ Falls closes := by
  unfold averageLoss
  rw [wilder_pos_iff hperiod (by simp)]
  simp [changes, Falls]

/-- The share of the gains in percent, and 50 if there is no change. -/
def gainShare (avgGain avgLoss : Rat) : Rat :=
  if avgGain + avgLoss = 0 then 50 else 100 * avgGain / (avgGain + avgLoss)

/-- The index is the share of the gains. -/
theorem index_eq {avgGain avgLoss : Rat} (hgain : 0 ≤ avgGain) (hloss : 0 ≤ avgLoss) :
    RSIFeature.index avgGain avgLoss = .ok (gainShare avgGain avgLoss) := by
  unfold RSIFeature.index gainShare
  -- the three branches of the source: no change at all, no loss, and the ratio
  by_cases hnoLoss : avgLoss = 0
  · by_cases hnoGain : avgGain = 0
    · simp [hnoLoss, hnoGain]
    · have hshare : 100 * avgGain / avgGain = 100 := by field_simp
      simp [hnoLoss, hnoGain, hshare]
  · have hlossPos : 0 < avgLoss := lt_of_le_of_ne hloss (Ne.symm hnoLoss)
    have hsum : avgGain + avgLoss ≠ 0 := by linarith
    -- the second division is by at least 1
    have hratio : 1 + avgGain / avgLoss ≠ 0 := by
      have hnonneg : 0 ≤ avgGain / avgLoss := div_nonneg hgain hloss
      linarith
    have hshare : 100 - 100 / (1 + avgGain / avgLoss) = 100 * avgGain / (avgGain + avgLoss) := by
      field_simp
      ring
    have hfirst : ¬ (avgLoss = 0 ∧ avgGain = 0) := fun h => hnoLoss h.1
    rw [if_neg hfirst, if_neg hnoLoss, if_neg hsum, divide_ok hnoLoss]
    simp only [bind, Except.bind]
    rw [divide_ok hratio]
    simp only [pure, Except.pure, hshare]

section Share

variable {gain loss : Rat}

/-- The index is the share of the gains. -/
theorem gainShare_of_pos (hsum : 0 < gain + loss) :
    gainShare gain loss = 100 * gain / (gain + loss) := if_neg hsum.ne'

/-- A share is between 0 and 100. -/
theorem gainShare_bounds (hgain : 0 ≤ gain) (hloss : 0 ≤ loss) :
    0 ≤ gainShare gain loss ∧ gainShare gain loss ≤ 100 := by
  unfold gainShare
  split
  · norm_num
  · rename_i hne
    have hsum : 0 < gain + loss := lt_of_le_of_ne (add_nonneg hgain hloss) (Ne.symm hne)
    refine ⟨by positivity, ?_⟩
    rw [div_le_iff₀ hsum]
    linarith

/-- All of the change is a gain. -/
theorem gainShare_eq_hundred (hgain : 0 ≤ gain) (hloss : 0 ≤ loss) :
    gainShare gain loss = 100 ↔ ¬ 0 < loss ∧ 0 < gain := by
  rw [not_lt]
  unfold gainShare
  split
  · rename_i hzero
    -- no change at all: the share is 50, and there is no gain
    have hgain' : gain = 0 := by linarith
    norm_num [hgain']
  · rename_i hne
    have hsum : 0 < gain + loss := lt_of_le_of_ne (add_nonneg hgain hloss) (Ne.symm hne)
    rw [div_eq_iff hne]
    constructor
    · intro h
      exact ⟨by linarith, by linarith⟩
    · rintro ⟨hloss', -⟩
      linarith

/-- None of it is. -/
theorem gainShare_eq_zero (hgain : 0 ≤ gain) (hloss : 0 ≤ loss) :
    gainShare gain loss = 0 ↔ ¬ 0 < gain ∧ 0 < loss := by
  rw [not_lt]
  unfold gainShare
  split
  -- no change at all: the index is 50, and no loss is positive
  · rename_i hzero
    have hloss' : loss = 0 := by linarith
    norm_num [hloss']
  · rename_i hne
    have hsum : 0 < gain + loss := lt_of_le_of_ne (add_nonneg hgain hloss) (Ne.symm hne)
    rw [div_eq_iff hne]
    constructor
    · intro h
      exact ⟨by linarith, by linarith⟩
    · rintro ⟨hgain', -⟩
      linarith

end Share

/-- What is known of the index of a series before it is clamped. -/
structure RsiSound (period : Nat) (closes : List Rat) (rsi : Rat) : Prop where
  bounds : 0 ≤ rsi ∧ rsi ≤ 100
  share : 0 < averageGain period closes + averageLoss period closes →
    rsi = 100 * averageGain period closes /
      (averageGain period closes + averageLoss period closes)
  hundred : rsi = 100 ↔ ¬ Falls closes ∧ Rises closes
  zero : rsi = 0 ↔ ¬ Rises closes ∧ Falls closes
  flat : (∀ a ∈ closes, ∀ b ∈ closes, a = b) → rsi = 50

/-- Flat prices neither rise nor fall. -/
theorem not_rises_of_flat (h : ∀ a ∈ closes, ∀ b ∈ closes, a = b) :
    ¬ Rises closes ∧ ¬ Falls closes := by
  have hpair : ∀ pair ∈ closes.zip closes.tail, pair.1 = pair.2 := by
    intro pair hpair
    obtain ⟨hprevious, hcurrent⟩ := List.of_mem_zip hpair
    exact h _ hprevious _ (List.mem_of_mem_tail hcurrent)
  constructor
  · rintro ⟨pair, hmem, hlt⟩
    exact absurd (hpair pair hmem) hlt.ne
  · rintro ⟨pair, hmem, hlt⟩
    exact absurd (hpair pair hmem) hlt.ne'

/-- What the index says of the closes. -/
theorem gainShare_sound (hperiod : 2 ≤ period) :
    RsiSound period closes (gainShare (averageGain period closes) (averageLoss period closes)) := by
  have hgain : 0 ≤ averageGain period closes := averageGain_nonneg (by omega)
  have hloss : 0 ≤ averageLoss period closes := averageLoss_nonneg (by omega)
  -- bounds, 50 and above, 100, 0, and a flat series
  constructor
  · exact gainShare_bounds hgain hloss
  · exact gainShare_of_pos
  · rw [gainShare_eq_hundred hgain hloss, averageLoss_pos_iff hperiod,
      averageGain_pos_iff hperiod]
  · rw [gainShare_eq_zero hgain hloss, averageLoss_pos_iff hperiod,
      averageGain_pos_iff hperiod]
  · intro hflat
    obtain ⟨hrises, hfalls⟩ := not_rises_of_flat hflat
    rw [← averageGain_pos_iff hperiod, not_lt] at hrises
    rw [← averageLoss_pos_iff hperiod, not_lt] at hfalls
    exact if_pos (by linarith)

end Rsi

section Series

variable (s : MarketDataSeries) {period : Nat}

/-- There is one for each candle. -/
theorem trueRanges_length (previousClose : Option Rat) (candles : List (Rat × Rat × Rat)) :
    (ATRFeature.trueRanges previousClose candles).length = candles.length := by
  induction candles generalizing previousClose with
  | nil => rfl
  | cons candle rest ih => simp [ATRFeature.trueRanges, ih]

/-- A range is as wide as its bar, whose high is not below its low. -/
theorem trueRanges_nonneg {previousClose : Option Rat} {candles : List (Rat × Rat × Rat)}
    (h : ∀ candle ∈ candles, candle.2.1 ≤ candle.1) :
    ∀ range ∈ ATRFeature.trueRanges previousClose candles, 0 ≤ range := by
  induction candles generalizing previousClose with
  | nil => simp [ATRFeature.trueRanges]
  | cons candle rest ih =>
    obtain ⟨high, low, close⟩ := candle
    rw [List.forall_mem_cons] at h
    have hwidth : 0 ≤ high - low := sub_nonneg.mpr h.1
    -- the first bar has no close before it
    cases previousClose with
    | none =>
      rw [ATRFeature.trueRanges, List.forall_mem_cons]
      exact ⟨hwidth, ih h.2⟩
    | some previous =>
      rw [ATRFeature.trueRanges, List.forall_mem_cons]
      exact ⟨le_max_of_le_left hwidth, ih h.2⟩

/-- A low is not above its high. -/
theorem candles_ordered : ∀ candle ∈ s.candles, candle.2.1 ≤ candle.1 := by
  intro candle hcandle
  obtain ⟨bar, -, rfl⟩ := List.mem_map.mp hcandle
  exact bar.valid.high_max.2.1

/-- The ATR of a series with more bars than the period. -/
theorem atr_result {period : Nat} (hperiod : 2 ≤ period) (h : period < s.bars.length) :
    ATRFeature.compute period s = .ok ((ATRFeature.feature period).result s
      [("atr", wilder period (ATRFeature.trueRanges none s.candles)),
        ("atr_percent", wilder period (ATRFeature.trueRanges none s.candles) /
          nthLast s.closes 0)]) := by
  have hguard : ¬ (period < 2 ∨ s.bars.length ≤ period) := by omega
  unfold ATRFeature.compute
  rw [if_neg hguard, fromEnd_eq (by simpa using s.bars_pos)]
  simp only [bind, Except.bind]
  rw [divide_ok (s.close_ne_zero s.bars_pos)]
  rfl

/-- Its RSI, which clamping leaves alone. -/
theorem rsi_result {period : Nat} (hperiod : 2 ≤ period) (h : period < s.bars.length) :
    RSIFeature.compute period s = .ok ((RSIFeature.feature period).result s
      [("rsi", gainShare (averageGain period s.closes) (averageLoss period s.closes))]) := by
  -- the series is long enough
  have hguard : ¬ (period < 2 ∨ s.closes.length ≤ period) := by
    rw [s.closes_length]
    omega
  have hgain : 0 ≤ averageGain period s.closes := averageGain_nonneg (by omega)
  have hloss : 0 ≤ averageLoss period s.closes := averageLoss_nonneg (by omega)
  obtain ⟨hnonneg, hle⟩ := gainShare_bounds hgain hloss
  have hindex := index_eq hgain hloss
  unfold RSIFeature.compute
  rw [if_neg hguard]
  simp only [averageGain, averageLoss] at hindex hnonneg hle ⊢
  simp only [hindex, bind, Except.bind, max_eq_right hnonneg, min_eq_right hle]
  rfl

/-- The indicators of a series that are smoothed, each in its envelope. -/
structure SmoothingEnveloped (s : MarketDataSeries) (period : Nat) : Prop where
  ema : ∀ i ema, (emaValues s.closes period)[i]? = some ema →
    Enveloped (s.closes.take (i + 1)) ema
  atr : period < s.bars.length → ∃ atrPercent, ATRFeature.compute period s =
      .ok ((ATRFeature.feature period).result s
        [("atr", wilder period (ATRFeature.trueRanges none s.candles)),
          ("atr_percent", atrPercent)]) ∧
    Enveloped (ATRFeature.trueRanges none s.candles)
      (wilder period (ATRFeature.trueRanges none s.candles)) ∧
    0 ≤ wilder period (ATRFeature.trueRanges none s.candles)
  averages : 0 ≤ averageGain period s.closes ∧ 0 ≤ averageLoss period s.closes
  rsi : period < s.bars.length → ∃ rsi,
    RSIFeature.index (averageGain period s.closes) (averageLoss period s.closes) = .ok rsi ∧
    RSIFeature.compute period s = .ok ((RSIFeature.feature period).result s [("rsi", rsi)]) ∧
    RsiSound period s.closes rsi

/-- **Smoothing stays in its envelope.** Averages stay between the least and the greatest of their
    values, and the RSI is the share of the gains, which clamping leaves alone. -/
theorem smoothing_enveloped (s : MarketDataSeries) {period : Nat} (hperiod : 2 ≤ period) :
    SmoothingEnveloped s period := by
  -- EMA, ATR, the two averages of the RSI, and the RSI
  constructor
  · exact fun i ema h => emaValues_enveloped (by omega) h
  · intro hlength
    have hranges : period ≤ (ATRFeature.trueRanges none s.candles).length := by
      rw [trueRanges_length, MarketDataSeries.candles, List.length_map]
      omega
    exact ⟨_, atr_result s hperiod hlength, wilder_enveloped hperiod hranges,
      wilder_nonneg (by omega) (trueRanges_nonneg (candles_ordered s))⟩
  · exact ⟨averageGain_nonneg (by omega), averageLoss_nonneg (by omega)⟩
  · intro hlength
    have hgain : 0 ≤ averageGain period s.closes := averageGain_nonneg (by omega)
    have hloss : 0 ≤ averageLoss period s.closes := averageLoss_nonneg (by omega)
    exact ⟨_, index_eq hgain hloss, rsi_result s hperiod hlength, gainShare_sound hperiod⟩

end Series

namespace Deployment

/-- An hourly candle of ETH, `hour` hours after the epoch. -/
def candle (hour : Nat) (openPrice high low close : Rat) : BarFields Rat where
  provider := "binance-public"
  instrument := "ETHUSDT"
  timeframe := .h1
  openTime := seconds (3600 * hour)
  closeTime := seconds (3600 * hour + 3600)
  «open» := openPrice
  high := high
  low := low
  close := close
  volume := 7
  receivedAt := seconds (3600 * hour + 3600)
  sourceTimestamp := seconds (3600 * hour + 3600)
  freshnessSeconds := 0
  provenance := "binance:/api/v3/klines"

/-- Three of them. -/
def threeHours : MarketDataSeries where
  provider := "binance-public"
  instrument := "ETHUSDT"
  timeframe := .h1
  asOf := seconds 10800
  bars := [⟨candle 0 100 101 99 100, by decide +kernel⟩, ⟨candle 1 100 104 98 103, by decide +kernel⟩,
    ⟨candle 2 103 103 100 101, by decide +kernel⟩]
  valid := by decide +kernel

end Deployment

open Deployment in
/-- Three hours of prices. -/
theorem smoothing_enveloped_threeHours : SmoothingEnveloped threeHours 2 :=
  smoothing_enveloped threeHours (le_refl 2)

end Tomiris
