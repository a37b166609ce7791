import Mathlib.Tactic.NormNum
import Tomiris.ForStd.List
import Tomiris.Spec.QualityGate

/-!
# Clean series

Which series the quality gate accepts. Its checks shadow each other, and together they ask for one
thing, with a slip: the distance of two bars is cut off to whole seconds before it is compared with
the length of the timeframe. A bar that opens up to a second late is no gap.

## Key results

- `validate_valid_iff`: what the gate accepts, as one predicate
- `accepts_clean_iff`: when it accepts exactly the clean series
- `late_candle_accepted`: a series with a late bar that it accepts
-/

namespace Tomiris

namespace MarketDataValidator

/-- What a clean series meets besides the distances of its bars. -/
structure Fitting (series : MarketDataSeries) (request : RequestFields) : Prop where
  instrument : series.instrument = request.instrument
  timeframe : series.timeframe = request.timeframe
  as_of : series.asOf = request.asOf
  enough : request.minimumBars ≤ series.bars.length
  closed_by : ∀ bar ∈ series.bars, bar.closeTime ≤ request.asOf
  closed : request.closedOnly = true → ∀ bar ∈ series.bars, bar.closed = true
  not_future : 0 ≤ request.asOf - series.lastBar.closeTime
  not_stale : request.asOf - series.lastBar.closeTime ≤ seconds request.maxDataAgeSeconds

/-- Neighbouring bars open at distances with this property. -/
def Spaced (d : Int → Prop) (series : MarketDataSeries) : Prop :=
  series.bars.IsChain fun previous current => d (current.openTime - previous.openTime)

/-- A series without a flaw. -/
structure Clean (series : MarketDataSeries) (request : RequestFields) : Prop where
  fitting : Fitting series request
  spaced : Spaced (· = seconds request.timeframe.seconds) series

theorem Spaced.mono {d e : Int → Prop} {series : MarketDataSeries} (h : Spaced d series)
    (hde : ∀ n, d n → e n) : Spaced e series :=
  h.imp fun _ _ => hde _

theorem timeframe_pos (timeframe : Timeframe) : 1 ≤ timeframe.seconds := by
  cases timeframe <;> decide

/-- The distances that are no gap: up to a second more than the timeframe. -/
theorem isGap_eq_false {timeframe : Timeframe} {previous current : OHLCVBar} :
    isGap timeframe previous current = false ↔
      seconds timeframe.seconds ≤ current.openTime - previous.openTime ∧
        current.openTime - previous.openTime < seconds timeframe.seconds + second := by
  have hpos := timeframe_pos timeframe
  simp only [isGap, bne_eq_false_iff_eq, seconds, second]
  constructor
  · intro h
    -- truncation towards zero, of a distance that is then positive
    have hnonneg : 0 ≤ current.openTime - previous.openTime := by
      by_contra hneg
      have hflip := Int.tdiv_nonneg (show 0 ≤ -(current.openTime - previous.openTime) by omega)
        (show (0 : Int) ≤ 1000000 by decide)
      rw [Int.neg_tdiv] at hflip
      omega
    rw [Int.tdiv_eq_ediv_of_nonneg hnonneg] at h
    omega
  · intro h
    -- both bounds are multiples of a second, so the quotient is the timeframe
    rw [Int.tdiv_eq_ediv_of_nonneg (by omega)]
    omega

/-- The distances that the gate takes for the length of a timeframe. -/
def Near (timeframe : Timeframe) (d : Int) : Prop :=
  seconds timeframe.seconds ≤ d ∧ d < seconds timeframe.seconds + second

variable {series : MarketDataSeries} {request : RequestFields}

/-- Bars at such distances open one after the other. -/
theorem Spaced.sorted {timeframe : Timeframe} (h : Spaced (Near timeframe) series) :
    (series.bars.map (fun bar => bar.openTime)).Nodup ∧
      (series.bars.map (fun bar => bar.openTime)).mergeSort =
        series.bars.map (fun bar => bar.openTime) := by
  apply List.IsChain.sorted_of_lt
  rw [List.isChain_map]
  refine List.IsChain.imp ?_ h
  intro previous current hnear
  have hpos := seconds_pos (timeframe_pos timeframe)
  have := hnear.1
  omega

/-- What the gate accepts. -/
theorem validate_valid_iff : (validate series request).outcome = .valid ↔
    Fitting series request ∧ Spaced (Near request.timeframe) series := by
  have hgaps : (series.bars.zip series.bars.tail).any
      (fun pair => isGap request.timeframe pair.1 pair.2) = false ↔
        Spaced (Near request.timeframe) series := by
    rw [List.any_zip_tail]
    simp only [isGap_eq_false]
    exact Iff.rfl
  rw [validate_passes, hgaps]
  constructor
  · -- what the checks say about duplicates and the order is not needed, since bars at such
    -- distances are sorted
    rintro ⟨⟨hinstrument, htimeframe⟩, hasOf, henough, -, -, hclosedBy, hclosed, hspaced, hpast,
      hfresh⟩
    exact ⟨⟨hinstrument, htimeframe, hasOf, henough, hclosedBy, hclosed, hpast, hfresh⟩, hspaced⟩
  · rintro ⟨hfit, hspaced⟩
    obtain ⟨hnodup, hsorted⟩ := hspaced.sorted
    exact ⟨⟨hfit.instrument, hfit.timeframe⟩, hfit.as_of, hfit.enough, hnodup, hsorted.symm,
      hfit.closed_by, hfit.closed, hspaced, hfit.not_future, hfit.not_stale⟩

/-- The gate accepts the series if it is clean, and otherwise rejects it with a reason. -/
def AcceptsClean (series : MarketDataSeries) (request : RequestFields) : Prop :=
  ((validate series request).outcome = .valid ↔ Clean series request) ∧
    ((validate series request).outcome ≠ .valid →
      ((validate series request).outcome = .invalid ∨
        (validate series request).outcome = .insufficient) ∧
      (validate series request).reasonCodes ≠ [])

/-- A series that is not accepted is rejected with a reason. -/
theorem validate_rejects (hne : (validate series request).outcome ≠ .valid) :
    ((validate series request).outcome = .invalid ∨
      (validate series request).outcome = .insufficient) ∧
    (validate series request).reasonCodes ≠ [] := by
  rcases validate_cases series request with hvalid | ⟨-, hdegraded, code, hcodes, -⟩
  · exact absurd hvalid hne
  · refine ⟨?_, by rw [hcodes]; exact List.cons_ne_nil code []⟩
    cases houtcome : (validate series request).outcome with
    | valid => exact absurd houtcome hne
    -- the gate has no such verdict, though the type has
    | degraded => exact absurd houtcome hdegraded
    | invalid => exact .inl rfl
    | insufficient => exact .inr rfl

/-- The gate accepts exactly the clean series, except for those whose one flaw is that bars open
    less than a second late. -/
theorem accepts_clean_iff (series : MarketDataSeries) (request : RequestFields) :
    AcceptsClean series request ↔
      (Fitting series request → Spaced (Near request.timeframe) series →
        Spaced (· = seconds request.timeframe.seconds) series) := by
  constructor
  · rintro ⟨hiff, -⟩ hfit hnear
    exact (hiff.mp (validate_valid_iff.mpr ⟨hfit, hnear⟩)).spaced
  · intro hexact
    refine ⟨?_, validate_rejects⟩
    rw [validate_valid_iff]
    constructor
    · rintro ⟨hfit, hnear⟩
      exact ⟨hfit, hexact hfit hnear⟩
    · intro hclean
      -- the exact distance is one of those that are no gap
      refine ⟨hclean.fitting, hclean.spaced.mono ?_⟩
      rintro d rfl
      refine ⟨le_refl _, ?_⟩
      simp only [second]
      omega

/-- An hourly candle of one price that opens at the time. -/
def flatCandle (openTime : Int) (h : isDatetime openTime = true ∧
    isDatetime (openTime + 3599999000) = true) : OHLCVBar where
  provider := "binance-public"
  instrument := "BTCUSDT"
  timeframe := .h1
  openTime := openTime
  closeTime := openTime + 3599999000
  «open» := 100
  high := 100
  low := 100
  close := 100
  volume := 7
  receivedAt := 9000000000
  sourceTimestamp := openTime + 3599999000
  freshnessSeconds := 0
  provenance := "binance:/api/v3/klines"
  closed := true
  valid :=
    { provider := show boundedText 64 "binance-public" = true by decide
      instrument := show isAsset "BTCUSDT" = true by decide
      freshness := le_refl 0
      provenance := show boundedText 256 "binance:/api/v3/klines" = true by decide
      datetimes := h
      times := show openTime < openTime + 3599999000 by omega
      positive := by norm_num
      high_max := by norm_num
      low_min := by norm_num
      volume := by norm_num }

/-- Two candles, the second of which opens half a second late. -/
def lateSeries : MarketDataSeries where
  provider := "binance-public"
  instrument := "BTCUSDT"
  timeframe := .h1
  asOf := 9000000000
  bars := [flatCandle 0 (by decide), flatCandle 3600500000 (by decide)]
  valid :=
    { provider := show boundedText 64 "binance-public" = true by decide
      instrument := show isAsset "BTCUSDT" = true by decide
      bars := show 1 ≤ 2 ∧ 2 ≤ 1000 by decide
      identity := by
        intro bar hbar
        simp only [List.mem_cons, List.not_mem_nil, or_false] at hbar
        rcases hbar with rfl | rfl <;> exact ⟨rfl, rfl, rfl⟩ }

/-- The request that it was fetched for. -/
def lateRequest : MarketDataRequest where
  instrument := "BTCUSDT"
  timeframe := .h1
  minimumBars := 2
  asOf := 9000000000
  maxDataAgeSeconds := 7200
  valid := ⟨show isAsset "BTCUSDT" = true by decide, show 2 ≤ 2 ∧ 2 ≤ 999 by decide,
    show isDatetime 9000000000 = true by decide, show 1 ≤ 7200 ∧ 7200 ≤ 604800 by decide⟩

/-- The gate takes the half second for nothing. -/
theorem late_candle_accepted :
    (validate lateSeries lateRequest.toRequestFields).outcome = .valid ∧
      ¬ Clean lateSeries lateRequest.toRequestFields ∧
      ¬ AcceptsClean lateSeries lateRequest.toRequestFields := by
  have hfitting : Fitting lateSeries lateRequest.toRequestFields :=
    { instrument := rfl
      timeframe := rfl
      as_of := rfl
      enough := show 2 ≤ 2 by decide
      closed_by := by decide
      closed := by decide
      not_future := by decide
      not_stale := by decide }
  -- `int()` cuts the half second off the distance
  have hnear : Spaced (Near .h1) lateSeries := by
    refine List.isChain_cons_cons.mpr ⟨?_, List.isChain_singleton _⟩
    exact ⟨by decide, by decide⟩
  have hvalid := validate_valid_iff.mpr ⟨hfitting, hnear⟩
  have hflawed : ¬ Clean lateSeries lateRequest.toRequestFields := by
    intro hclean
    -- the exact distance is longer than the timeframe
    have hlate := (List.isChain_cons_cons.mp hclean.spaced).1
    exact absurd hlate (by decide)
  exact ⟨hvalid, hflawed, fun haccepts => hflawed (haccepts.1.mp hvalid)⟩

end MarketDataValidator

end Tomiris
