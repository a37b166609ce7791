import Tomiris.MarketData.Models

/-!
# The quality gate

`MarketDataValidator.validate`: the checks that a series has to pass before any feature is
computed from it, in their order.
-/

namespace Tomiris

namespace MarketDataValidator

/-- A report that the series is `INVALID` for one reason. -/
def invalid (reason : String) (acceptedBars : Nat) : DataQualityReport where
  outcome := .invalid
  reasonCodes := [reason]
  acceptedBars := acceptedBars

/-- `int((current.open_time - previous.open_time).total_seconds())` is not the length of the
    timeframe. -/
def isGap (timeframe : Timeframe) (previous current : OHLCVBar) : Bool :=
  (current.openTime - previous.openTime).tdiv second != timeframe.seconds

/-- `validate` -/
def validate (series : MarketDataSeries) (request : RequestFields) : DataQualityReport :=
  let bars := series.bars
  let openTimes := bars.map (fun bar => bar.openTime)
  if series.instrument ≠ request.instrument ∨ series.timeframe ≠ request.timeframe then
    invalid "PROVIDER_MISMATCH" 0
  else if series.asOf ≠ request.asOf then invalid "CUTOFF_MISMATCH" 0
  else if bars.length < request.minimumBars then
    { outcome := .insufficient
      reasonCodes := ["INSUFFICIENT_HISTORY"]
      acceptedBars := bars.length }
  else if ¬ openTimes.Nodup then invalid "DUPLICATE_BAR" 0
  else if openTimes ≠ openTimes.mergeSort then invalid "NON_MONOTONIC_TIME" 0
  else if bars.any (fun bar => request.asOf < bar.closeTime) then invalid "FUTURE_DATA" 0
  else if request.closedOnly && bars.any (fun bar => ! bar.closed) then invalid "OPEN_CANDLE" 0
  else if (bars.zip bars.tail).any (fun pair => isGap request.timeframe pair.1 pair.2) then
    invalid "DATA_GAP" 0
  else
    let age := request.asOf - series.lastBar.closeTime
    if age < 0 then invalid "FUTURE_DATA" 0
    else if seconds request.maxDataAgeSeconds < age then invalid "DATA_STALE" bars.length
    else { outcome := .valid, acceptedBars := bars.length }

end MarketDataValidator

end Tomiris
