import Tomiris.MarketData.Validation

/-!
# The market-data collector

`MarketDataCollector.collect`: the series of all requests, each one through the quality gate, as a
bundle.
-/

namespace Tomiris

/-- `MarketDataError`, with its subclasses `ProviderError` and `DataValidationError`. -/
structure MarketDataError where
  code : String
  message : String
deriving DecidableEq

/-- `d[k] = v` on a dictionary in insertion order. -/
def assign {κ ν : Type} [DecidableEq κ] (d : List (κ × ν)) (k : κ) (v : ν) : List (κ × ν) :=
  if (d.lookup k).isSome then d.map (fun e => if e.1 = k then (k, v) else e) else d ++ [(k, v)]

/-- `CollectedMarketData`. -/
structure CollectedMarketData where
  bundle : MarketDataBundle
  qualityByRequest : List (String × DataQualityOutcome)

/-- What the loop of `collect` fills. -/
structure Collecting where
  series : List MarketDataSeries := []
  quality : List (String × DataQualityOutcome) := []
  providers : List ((String × Int) × ProviderMetadata) := []

namespace MarketDataCollector

/-- What `asyncio.gather` returns for the requests. -/
abbrev Fetched (requests : List MarketDataRequest) :=
  { l : List (MarketDataRequest × MarketDataSeries) // l.map Prod.fst = requests }

/-- The `ProviderMetadata` of a series. -/
def metadata (series : MarketDataSeries) : ProviderMetadata where
  provider := series.provider
  receivedAt := series.lastBar.receivedAt
  sourceTimestamp := series.lastBar.sourceTimestamp
  freshnessSeconds := series.lastBar.freshnessSeconds
  provenance := series.lastBar.provenance

/-- One turn of the loop. -/
def collectOne (st : Collecting) (request : MarketDataRequest) (series : MarketDataSeries) :
    Except MarketDataError Collecting :=
  let report := MarketDataValidator.validate series request.toRequestFields
  let key := request.instrument ++ ":" ++ request.timeframe.value
  let quality := assign st.quality key report.outcome
  if report.outcome ≠ .valid ∧ report.outcome ≠ .degraded then
    .error ⟨report.reasonCodes.head?.getD "INVALID_MARKET_DATA",
      "market data failed quality gate for " ++ key⟩
  else
    .ok { series := st.series ++ [series]
          quality := quality
          providers := assign st.providers (series.provider, series.lastBar.sourceTimestamp)
            (metadata series) }

/-- The loop over the fetched series. -/
def collectAll (st : Collecting) :
    List (MarketDataRequest × MarketDataSeries) → Except MarketDataError Collecting
  | [] => .ok st
  | (request, series) :: rest =>
    match collectOne st request series with
    | .error e => .error e
    | .ok st => collectAll st rest

/-- `MarketDataBundle(...)`, `none` where it raises a `ValueError`. -/
def makeBundle (snapshotId : UUID) (asOf : Int) (st : Collecting) : Option MarketDataBundle :=
  let providers := st.providers.map (fun e => e.2)
  if h : (1 ≤ st.series.length ∧ st.series.length ≤ 50) ∧
      (1 ≤ providers.length ∧ providers.length ≤ 50) then
    some ⟨snapshotId, asOf, st.series, providers, h.1, h.2⟩
  else none

/-- `collect` from the answer of `asyncio.gather` on. -/
def collect (snapshotId : UUID) (asOf : Int)
    (fetched : Except MarketDataError (List (MarketDataRequest × MarketDataSeries))) :
    Except MarketDataError (Option CollectedMarketData) :=
  match fetched with
  | .error e => .error e
  | .ok fetched =>
    match collectAll {} fetched with
    | .error e => .error e
    | .ok st => .ok ((makeBundle snapshotId asOf st).map (fun bundle => ⟨bundle, st.quality⟩))

end MarketDataCollector

end Tomiris
