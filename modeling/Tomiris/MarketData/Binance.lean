import Tomiris.Common.Validation
import Tomiris.ForStd.Calendar
import Tomiris.MarketData.Cache
import Tomiris.MarketData.Models

/-!
# The Binance provider

`BinancePublicMarketDataProvider.get_ohlcv`: the cache in front, the answer parsed row by row, the
open candles left out, and the newest rows as a series. `Conversions` are the conversions of
Python's standard library, each with the exceptions that it documents.
-/

namespace Tomiris

/-- The classes of the exceptions that conversions raise, and the one of `httpx` for a content that
    is not in the encoding its response names. -/
inductive PyError where
  | typeError
  | valueError
  | overflowError
  | osError
  | recursionError
  | invalidOperation
  | decodingError
deriving DecidableEq

/-- `except (InvalidOperation, TypeError, ValueError)` -/
def PyError.isCaught : PyError → Bool
  | typeError => true
  | valueError => true
  | invalidOperation => true
  | overflowError => false
  | osError => false
  | recursionError => false
  | decodingError => false

/-- The standard library's conversions of a JSON value. -/
structure Conversions where
  /-- `int(raw)` -/
  int : PyValue → Except PyError Int
  /-- `datetime.fromtimestamp(n / 1_000, tz=UTC)` -/
  fromtimestamp : Int → Except PyError Int
  /-- `Decimal(str(raw))` -/
  decimal : PyValue → Except PyError PyDecimal
  fromtimestamp_isDatetime : ∀ n t, fromtimestamp n = .ok t → isDatetime t = true
  decimal_caught : ∀ raw e, decimal raw = .error e → e.isCaught = true

/-- `ProviderError`. -/
structure ProviderError where
  code : String
  message : String
deriving DecidableEq

/-- What `get_ohlcv` raises. -/
inductive Raised where
  | provider (e : ProviderError)
  | other (e : PyError)
deriving DecidableEq

/-- `raise ProviderError("PROVIDER_SCHEMA_ERROR", message)` -/
def schemaError (message : String) : Raised := .provider ⟨"PROVIDER_SCHEMA_ERROR", message⟩

/-- The parameters of a `/api/v3/klines` request. -/
structure KlineParams where
  symbol : String
  interval : String
  limit : String
  endTime : String
deriving DecidableEq

namespace Binance

/-- `BinancePublicMarketDataProvider.name` -/
def name : String := "binance-public"

/-- `cache_key` -/
def cacheKey (request : RequestFields) : String :=
  ":".intercalate ["ohlcv", request.instrument, request.timeframe.value,
    toString request.minimumBars, Calendar.isoformat request.asOf]

/-- The parameters of a request. `int(...)` cuts the microseconds off towards zero. -/
def klineParams (request : RequestFields) : KlineParams where
  symbol := request.instrument
  interval := request.timeframe.value
  limit := toString (min 1000 (request.minimumBars + 1))
  endTime := toString (request.asOf.tdiv 1000)

/-- The arguments of the `OHLCVBar` of a row. -/
def barFields (request : RequestFields) (receivedAt openTime closeTime : Int)
    (prices : PyDecimal × PyDecimal × PyDecimal × PyDecimal) (volume : PyDecimal) :
    BarFields PyDecimal where
  provider := name
  instrument := request.instrument
  timeframe := request.timeframe
  openTime := openTime
  closeTime := closeTime
  «open» := prices.1
  high := prices.2.1
  low := prices.2.2.1
  close := prices.2.2.2
  volume := volume
  receivedAt := receivedAt
  sourceTimestamp := closeTime
  freshnessSeconds := max 0 ((request.asOf - closeTime : Int) / (second : Rat))
  provenance := "binance:/api/v3/klines"
  closed := closeTime ≤ request.asOf

/-- `OHLCVBar(...)`, where a validator raises a `ValueError`. -/
def makeBar (fields : BarFields PyDecimal) : Except PyError OHLCVBar :=
  match fields.finite? with
  | none => .error .valueError
  | some b => if h : b.Valid then .ok ⟨b, h⟩ else .error .valueError

/-- The time of a cell in milliseconds. -/
def cellTime (conv : Conversions) (raw : PyValue) : Except PyError Int := do
  conv.fromtimestamp (← conv.int raw)

/-- The two times of a row. -/
def rowTimes (conv : Conversions) (cells : List PyValue) : Except PyError (Int × Int) := do
  let openTime ← cellTime conv (cells.getD 0 .none)
  let closeTime ← cellTime conv (cells.getD 6 .none)
  pure (openTime, closeTime)

/-- The bar of a row. -/
def rowBar (conv : Conversions) (request : RequestFields) (receivedAt openTime closeTime : Int)
    (cells : List PyValue) : Except PyError OHLCVBar := do
  let «open» ← conv.decimal (cells.getD 1 .none)
  let high ← conv.decimal (cells.getD 2 .none)
  let low ← conv.decimal (cells.getD 3 .none)
  let close ← conv.decimal (cells.getD 4 .none)
  let volume ← conv.decimal (cells.getD 5 .none)
  makeBar (barFields request receivedAt openTime closeTime («open», high, low, close) volume)

/-- The `except` clause around the conversion of a row. -/
def onConversionError (e : PyError) : Raised :=
  if e.isCaught then schemaError "invalid kline value" else .other e

/-- One turn of the loop over the rows: the bar, or `none` for a row that is left out. -/
def parseRow (conv : Conversions) (request : RequestFields) (receivedAt : Int) (raw : PyValue) :
    Except Raised (Option OHLCVBar) :=
  match raw with
  | .sequence cells =>
    if cells.length < 7 then .error (schemaError "malformed kline row")
    else match rowTimes conv cells with
    | .error e => .error (onConversionError e)
    | .ok (openTime, closeTime) =>
      -- the prices of an open candle are not looked at
      if request.closedOnly && !(closeTime ≤ request.asOf : Bool) then .ok none
      else match rowBar conv request receivedAt openTime closeTime cells with
      | .error e => .error (onConversionError e)
      | .ok bar => .ok (some bar)
  | _ => .error (schemaError "malformed kline row")

/-- The loop over the rows. -/
def parseRows (conv : Conversions) (request : RequestFields) (receivedAt : Int) :
    List PyValue → Except Raised (List OHLCVBar)
  | [] => .ok []
  | raw :: rest =>
    match parseRow conv request receivedAt raw with
    | .error e => .error e
    | .ok bar =>
      match parseRows conv request receivedAt rest with
      | .error e => .error e
      | .ok bars => .ok (bar.toList ++ bars)

/-- The arguments of the `MarketDataSeries`, with `bars[-minimum_bars:]`. -/
def seriesFields (request : RequestFields) (bars : List OHLCVBar) : SeriesFields where
  provider := name
  instrument := request.instrument
  timeframe := request.timeframe
  asOf := request.asOf
  bars := bars.rtake request.minimumBars

/-- `MarketDataSeries(...)`, outside the `try`. -/
def makeSeries (request : RequestFields) (bars : List OHLCVBar) : Except Raised MarketDataSeries :=
  if h : (seriesFields request bars).Valid then .ok ⟨seriesFields request bars, h⟩
  else .error (.other .valueError)

/-- `get_ohlcv` from the answer on. -/
def readKlines (conv : Conversions) (request : RequestFields) (payload : PyValue)
    (receivedAt : Int) : Except Raised MarketDataSeries :=
  match payload with
  | .sequence rows =>
    match parseRows conv request receivedAt rows with
    | .error e => .error e
    | .ok bars =>
      if bars.isEmpty then .error (.provider ⟨"PROVIDER_EMPTY_RESPONSE", "no closed candles returned"⟩)
      else makeSeries request bars
  | _ => .error (schemaError "klines response must be a list")

/-- `get_ohlcv` without a cached series. `answer` is what `_request_json` returns or raises for
    the parameters. -/
def fetch (conv : Conversions) (request : RequestFields)
    (answer : KlineParams → Except Raised (PyValue × Int)) : Except Raised MarketDataSeries :=
  match answer (klineParams request) with
  | .error e => .error e
  | .ok (payload, receivedAt) => readKlines conv request payload receivedAt

/-- `get_ohlcv`. The time that the cache is given is the cutoff of the request. -/
def getOhlcv (conv : Conversions) (cacheTtlSeconds : Nat)
    (cache : InMemoryMarketDataCache MarketDataSeries) (request : RequestFields)
    (answer : KlineParams → Except Raised (PyValue × Int)) :
    InMemoryMarketDataCache MarketDataSeries × Except Raised MarketDataSeries :=
  match cache.get (cacheKey request) request.asOf with
  | (cache, some series) => (cache, .ok series)
  | (cache, none) =>
    match fetch conv request answer with
    | .error e => (cache, .error e)
    | .ok series =>
      (cache.put (cacheKey request) series request.asOf cacheTtlSeconds, .ok series)

end Binance

/-- `BinancePublicMarketDataProvider`: what it converts with, the setting that its cache needs,
    and the size of that cache. -/
structure BinancePublicMarketDataProvider where
  conv : Conversions
  cacheTtlSeconds : Nat
  maxEntries : Nat
  cache_ttl : 1 ≤ cacheTtlSeconds ∧ cacheTtlSeconds ≤ 300
  max_entries : 1 ≤ maxEntries

end Tomiris
