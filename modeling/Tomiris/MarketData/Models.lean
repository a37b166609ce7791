import Tomiris.Contracts.Orchestration

/-!
# Market-data models

`tomiris_market_data.models`. A bar, a series and a request carry the validators of their
Pydantic models as a field.
-/

namespace Tomiris

/-- `Timeframe`. -/
inductive Timeframe where
  | m15
  | h1
  | h4
  | d1
deriving DecidableEq

namespace Timeframe

def value : Timeframe → String
  | m15 => "15m"
  | h1 => "1h"
  | h4 => "4h"
  | d1 => "1d"

def seconds : Timeframe → Nat
  | m15 => 900
  | h1 => 3600
  | h4 => 14400
  | d1 => 86400

theorem value_inj {tf tf' : Timeframe} (h : tf.value = tf'.value) : tf = tf' := by
  cases tf <;> cases tf' <;> first | rfl | exact absurd h (by decide)

end Timeframe

/-- `DataQualityOutcome`. -/
inductive DataQualityOutcome where
  | valid
  | degraded
  | invalid
  | insufficient
deriving DecidableEq

def DataQualityOutcome.value : DataQualityOutcome → String
  | valid => "VALID"
  | degraded => "DEGRADED"
  | invalid => "INVALID"
  | insufficient => "INSUFFICIENT"

/-- A Python `Decimal`: a finite number, or an infinity or NaN. -/
inductive PyDecimal where
  | finite (q : Rat)
  | nonFinite
deriving DecidableEq

/-- `finite_decimal` -/
def PyDecimal.finite? : PyDecimal → Option Rat
  | finite q => some q
  | nonFinite => none

/-- The UTC times that a `datetime` can hold, in microseconds. -/
def isDatetime (t : Int) : Bool := -62135596800000000 ≤ t && t ≤ 253402300799999999

theorem isDatetime_iff {t : Int} : isDatetime t = true ↔
    -62135596800000000 ≤ t ∧ t ≤ 253402300799999999 := by
  simp only [isDatetime, Bool.and_eq_true, decide_eq_true_eq]

/-- The fields of `OHLCVBar`, with prices and volume of type `N`. -/
structure BarFields (N : Type) where
  provider : String
  instrument : String
  timeframe : Timeframe
  openTime : Int
  closeTime : Int
  «open» : N
  high : N
  low : N
  close : N
  volume : N
  receivedAt : Int
  sourceTimestamp : Int
  freshnessSeconds : Rat
  provenance : String
  closed : Bool := true
deriving DecidableEq

/-- `finite_decimal` on the five numbers. -/
def BarFields.finite? (b : BarFields PyDecimal) : Option (BarFields Rat) := do
  pure { b with
    «open» := ← b.open.finite?
    high := ← b.high.finite?
    low := ← b.low.finite?
    close := ← b.close.finite?
    volume := ← b.volume.finite? }

/-- The field constraints and `validate_ohlcv` of `OHLCVBar`. Of its times the two that order the
    bars are known to be `datetime`s. -/
structure BarFields.Valid (b : BarFields Rat) : Prop where
  provider : boundedText 64 b.provider = true
  instrument : isAsset b.instrument = true
  freshness : 0 ≤ b.freshnessSeconds
  provenance : boundedText 256 b.provenance = true
  datetimes : isDatetime b.openTime = true ∧ isDatetime b.closeTime = true
  times : b.openTime < b.closeTime
  positive : 0 < b.open ∧ 0 < b.high ∧ 0 < b.low ∧ 0 < b.close
  high_max : b.open ≤ b.high ∧ b.low ≤ b.high ∧ b.close ≤ b.high
  low_min : b.low ≤ b.open ∧ b.low ≤ b.high ∧ b.low ≤ b.close
  volume : 0 ≤ b.volume

instance BarFields.decidableValid (b : BarFields Rat) : Decidable b.Valid :=
  decidable_of_iff (boundedText 64 b.provider = true ∧ isAsset b.instrument = true ∧
      0 ≤ b.freshnessSeconds ∧ boundedText 256 b.provenance = true ∧
      (isDatetime b.openTime = true ∧ isDatetime b.closeTime = true) ∧ b.openTime < b.closeTime ∧
      (0 < b.open ∧ 0 < b.high ∧ 0 < b.low ∧ 0 < b.close) ∧
      (b.open ≤ b.high ∧ b.low ≤ b.high ∧ b.close ≤ b.high) ∧
      (b.low ≤ b.open ∧ b.low ≤ b.high ∧ b.low ≤ b.close) ∧ 0 ≤ b.volume)
    ⟨fun ⟨h₁, h₂, h₃, h₄, h₅, h₆, h₇, h₈, h₉, h₁₀⟩ => ⟨h₁, h₂, h₃, h₄, h₅, h₆, h₇, h₈, h₉, h₁₀⟩,
      fun ⟨h₁, h₂, h₃, h₄, h₅, h₆, h₇, h₈, h₉, h₁₀⟩ => ⟨h₁, h₂, h₃, h₄, h₅, h₆, h₇, h₈, h₉, h₁₀⟩⟩

/-- `OHLCVBar`: a bar that passed its validators. -/
structure OHLCVBar extends BarFields Rat where
  valid : toBarFields.Valid

/-- The fields of `MarketDataSeries`. -/
structure SeriesFields where
  provider : String
  instrument : String
  timeframe : Timeframe
  asOf : Int
  bars : List OHLCVBar

/-- The field constraints and `validate_identity` of `MarketDataSeries`. -/
structure SeriesFields.Valid (s : SeriesFields) : Prop where
  provider : boundedText 64 s.provider = true
  instrument : isAsset s.instrument = true
  bars : 1 ≤ s.bars.length ∧ s.bars.length ≤ 1000
  identity : ∀ b ∈ s.bars, b.provider = s.provider ∧ b.instrument = s.instrument ∧
    b.timeframe = s.timeframe

instance SeriesFields.decidableValid (s : SeriesFields) : Decidable s.Valid :=
  decidable_of_iff (boundedText 64 s.provider = true ∧ isAsset s.instrument = true ∧
      (1 ≤ s.bars.length ∧ s.bars.length ≤ 1000) ∧
      ∀ b ∈ s.bars, b.provider = s.provider ∧ b.instrument = s.instrument ∧
        b.timeframe = s.timeframe)
    ⟨fun ⟨h₁, h₂, h₃, h₄⟩ => ⟨h₁, h₂, h₃, h₄⟩, fun ⟨h₁, h₂, h₃, h₄⟩ => ⟨h₁, h₂, h₃, h₄⟩⟩

/-- `MarketDataSeries`: a series that passed its validators. -/
structure MarketDataSeries extends SeriesFields where
  valid : toSeriesFields.Valid

namespace MarketDataSeries

theorem bars_ne_nil (s : MarketDataSeries) : s.bars ≠ [] :=
  List.length_pos_iff.mp s.valid.bars.1

/-- `bars[0]` -/
def firstBar (s : MarketDataSeries) : OHLCVBar := s.bars.head s.bars_ne_nil

/-- `bars[-1]` -/
def lastBar (s : MarketDataSeries) : OHLCVBar := s.bars.getLast s.bars_ne_nil

end MarketDataSeries

/-- The fields of `MarketDataRequest`. -/
structure RequestFields where
  instrument : String
  timeframe : Timeframe
  minimumBars : Nat
  asOf : Int
  maxDataAgeSeconds : Nat
  closedOnly : Bool := true
deriving DecidableEq

/-- The field constraints of `MarketDataRequest`. -/
structure RequestFields.Valid (r : RequestFields) : Prop where
  instrument : isAsset r.instrument = true
  minimum_bars : 2 ≤ r.minimumBars ∧ r.minimumBars ≤ 999
  as_of : isDatetime r.asOf = true
  max_age : 1 ≤ r.maxDataAgeSeconds ∧ r.maxDataAgeSeconds ≤ 604800

/-- `MarketDataRequest`: a request that passed its validators. -/
structure MarketDataRequest extends RequestFields where
  valid : toRequestFields.Valid

/-- `ProviderMetadata`, of the last bar of a series. -/
structure ProviderMetadata where
  provider : String
  receivedAt : Int
  sourceTimestamp : Int
  freshnessSeconds : Rat
  provenance : String

/-- `MarketDataBundle`. -/
structure MarketDataBundle where
  snapshotId : UUID
  asOf : Int
  series : List MarketDataSeries
  providers : List ProviderMetadata
  series_bounds : 1 ≤ series.length ∧ series.length ≤ 50
  providers_bounds : 1 ≤ providers.length ∧ providers.length ≤ 50

/-- `DataQualityReport`. -/
structure DataQualityReport where
  outcome : DataQualityOutcome
  reasonCodes : List String := []
  acceptedBars : Nat := 0
deriving DecidableEq

end Tomiris
