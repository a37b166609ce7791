import Mathlib.Algebra.Field.Rat
import Tomiris.MarketData.Binance

/-!
# Requests to Binance

`BinancePublicMarketDataProvider._request_json`: the attempts at a request, which of their failures
are tried again, and how long the provider sleeps in between. And `get_ohlcv` over it, with the one
exception that a cache raises.
-/

namespace Tomiris

/-- `BinanceProviderSettings`, without the endpoint, its timeouts and the concurrency. -/
structure BinanceProviderSettings where
  maxAttempts : Nat := 3
  retryBaseSeconds : Rat := 1 / 4
  retryMaxSeconds : Rat := 2
  maxResponseBytes : Nat := 2000000
  cacheTtlSeconds : Nat := 10
  max_attempts : 1 ≤ maxAttempts ∧ maxAttempts ≤ 5
  retry_base : 0 < retryBaseSeconds ∧ retryBaseSeconds ≤ 10
  retry_max : 0 < retryMaxSeconds ∧ retryMaxSeconds ≤ 30
  max_response_bytes : 1024 ≤ maxResponseBytes ∧ maxResponseBytes ≤ 10000000
  cache_ttl : 1 ≤ cacheTtlSeconds ∧ cacheTtlSeconds ≤ 300

/-- `random.random()` -/
def RandomValue : Type := { r : Rat // 0 ≤ r ∧ r < 1 }

/-- What becomes of an HTTP attempt: an `httpx.TimeoutException`, another `httpx.TransportError`, or
    a response with the bytes that `aiter_bytes` yields. It yields all of them if the content
    `decodes` as its `Content-Encoding` says, and else raises an `httpx.DecodingError` behind
    them. -/
inductive HttpOutcome where
  | timeout
  | transportError
  | response (statusCode : Nat) (retryAfter : Option String) (content : List UInt8) (decodes : Bool)

/-- The exceptions after which the loop goes on. -/
inductive RetriedError where
  | timeout
  | transport
  | status (statusCode : Nat) (retryAfter : Option String)

/-- What `json.loads` raises. A `UnicodeDecodeError` is a `ValueError`, but no `JSONDecodeError`. -/
inductive LoadsError where
  | jsonDecodeError
  | other (e : PyError)

/-- The standard library's functions on a response. -/
structure Decoders where
  /-- `json.loads` -/
  loads : List UInt8 → Except LoadsError PyValue
  /-- `float`, `none` for a `ValueError` -/
  float : String → Option PyFloat

/-- How the body of the loop ends. -/
inductive Attempt where
  | returned (payload : PyValue)
  | raised (e : Raised)
  | failed (e : RetriedError)

/-- What the provider does in the course of a call. -/
inductive HttpEvent where
  | request
  | sleep (delay : Rat)

/-- A call of `_request_json`: what it does, and what it returns or raises, unless an attempt is
    left unanswered. -/
structure RequestCall where
  events : List HttpEvent := []
  result : Option (Except Raised PyValue)

namespace Binance

/-- `response.raise_for_status()` raises. -/
def isErrorStatus (statusCode : Nat) : Bool := !(200 ≤ statusCode && statusCode ≤ 299)

/-- `json.loads(content)` within its `try`. -/
def readJson (decoders : Decoders) (content : List UInt8) : Except Raised PyValue :=
  match decoders.loads content with
  | .ok payload => .ok payload
  | .error .jsonDecodeError => .error (schemaError "provider returned malformed JSON")
  | .error (.other e) => .error (.other e)

/-- One attempt. -/
def attempt (settings : BinanceProviderSettings) (decoders : Decoders) : HttpOutcome → Attempt
  | .timeout => .failed .timeout
  | .transportError => .failed .transport
  | .response statusCode retryAfter content decodes =>
    if 400 ≤ statusCode ∧ statusCode ≤ 499 ∧ statusCode ≠ 429 then
      .raised (.provider ⟨"PROVIDER_NON_RETRYABLE", "HTTP " ++ toString statusCode⟩)
    else if statusCode = 429 ∨ (500 ≤ statusCode ∧ statusCode ≤ 599) then
      .failed (.status statusCode retryAfter)
    else if isErrorStatus statusCode then .failed (.status statusCode retryAfter)
    else if settings.maxResponseBytes < content.length then
      .raised (.provider
        ⟨"PROVIDER_RESPONSE_TOO_LARGE", "provider response exceeds configured limit"⟩)
    -- a `RequestError` that is no `TransportError`: no clause names it
    else if decodes = false then .raised (.other .decodingError)
    else match readJson decoders content with
      | .ok payload => .returned payload
      | .error e => .raised e

/-- `min(limit, max(delay, value))` of floats: a NaN is not greater than anything. -/
def retryAfterDelay (limit delay : Rat) : PyFloat → Rat
  | .finite value => min limit (max delay value)
  | .posInf => limit
  | .negInf => min limit delay
  | .nan => min limit delay

/-- `delay` after a failed attempt. -/
def retryDelay (settings : BinanceProviderSettings) (decoders : Decoders) (attempt : Nat)
    (random : RandomValue) (e : RetriedError) : Rat :=
  let bounded := min settings.retryMaxSeconds (settings.retryBaseSeconds * 2 ^ (attempt - 1))
  let delay := bounded * (1 / 2 + 1 / 2 * random.val)
  match e with
  | .status 429 (some retryAfter) =>
    match decoders.float retryAfter with
    | some value => retryAfterDelay settings.retryMaxSeconds delay value
    | none => delay
  | _ => delay

/-- The exception after the last attempt. -/
def requestFailed : RetriedError → Raised
  | .timeout => .provider ⟨"PROVIDER_TIMEOUT", "public market-data request failed"⟩
  | _ => .provider ⟨"PROVIDER_ERROR", "public market-data request failed"⟩

/-- The loop over the attempts that are left, counted from `number` on. -/
def attempts (settings : BinanceProviderSettings) (decoders : Decoders)
    (outcomes : Nat → Option HttpOutcome) (random : Nat → RandomValue) :
    (number left : Nat) → RequestCall
  -- not reached: the last attempt breaks
  | _, 0 => { result := some (.error (requestFailed .transport)) }
  | number, left + 1 =>
    match outcomes number with
    | none => { events := [.request], result := none }
    | some outcome =>
      match attempt settings decoders outcome with
      | .returned payload => { events := [.request], result := some (.ok payload) }
      | .raised e => { events := [.request], result := some (.error e) }
      | .failed e =>
        if number = settings.maxAttempts then
          { events := [.request], result := some (.error (requestFailed e)) }
        else
          let delay := retryDelay settings decoders number (random number) e
          let call := attempts settings decoders outcomes random (number + 1) left
          { call with events := .request :: .sleep delay :: call.events }

/-- `_request_json`, without the time of receipt. `outcomes` tells what becomes of each attempt,
    the first of which is number one. -/
def requestJson (settings : BinanceProviderSettings) (decoders : Decoders)
    (outcomes : Nat → Option HttpOutcome) (random : Nat → RandomValue) : RequestCall :=
  attempts settings decoders outcomes random 1 settings.maxAttempts

/-- `put` of the cache, which raises an `OverflowError` when no `datetime` is late enough for the
    entry to expire. -/
def putChecked (cacheTtlSeconds : Nat) (cache : InMemoryMarketDataCache MarketDataSeries)
    (request : RequestFields) (series : MarketDataSeries) :
    InMemoryMarketDataCache MarketDataSeries × Except Raised MarketDataSeries :=
  let key := cacheKey request
  if isDatetime (request.asOf + seconds cacheTtlSeconds) then
    (cache.put key series request.asOf cacheTtlSeconds, .ok series)
  -- the oldest entry has made room by then
  else if (cache.entries.lookup key).isNone ∧ cache.maxEntries ≤ cache.entries.length then
    ({ cache with entries := cache.entries.tail }, .error (.other .overflowError))
  else (cache, .error (.other .overflowError))

/-- `get_ohlcv` up to year 9999. -/
def getOhlcvChecked (conv : Conversions) (cacheTtlSeconds : Nat)
    (cache : InMemoryMarketDataCache MarketDataSeries) (request : RequestFields)
    (answer : KlineParams → Except Raised (PyValue × Int)) :
    InMemoryMarketDataCache MarketDataSeries × Except Raised MarketDataSeries :=
  match cache.get (cacheKey request) request.asOf with
  | (cache, some series) => (cache, .ok series)
  | (cache, none) =>
    match fetch conv request answer with
    | .error e => (cache, .error e)
    | .ok series => putChecked cacheTtlSeconds cache request series

/-- Before the last five minutes of year 9999 it is `get_ohlcv`. -/
theorem getOhlcvChecked_eq {conv : Conversions} {cacheTtlSeconds : Nat} {request : RequestFields}
    (h : isDatetime (request.asOf + seconds cacheTtlSeconds) = true)
    (cache : InMemoryMarketDataCache MarketDataSeries)
    (answer : KlineParams → Except Raised (PyValue × Int)) :
    getOhlcvChecked conv cacheTtlSeconds cache request answer =
      getOhlcv conv cacheTtlSeconds cache request answer := by
  unfold getOhlcvChecked getOhlcv
  cases cache.get (cacheKey request) request.asOf with
  | mk cache found =>
    cases found with
    | some series => rfl
    | none =>
      cases fetch conv request answer with
      | error e => rfl
      | ok series => exact if_pos h

/-- `get_ohlcv` over HTTP, where `now` is the time of receipt. -/
def getOhlcvHttp (conv : Conversions) (settings : BinanceProviderSettings) (decoders : Decoders)
    (cache : InMemoryMarketDataCache MarketDataSeries) (request : RequestFields)
    (outcomes : Nat → Option HttpOutcome) (random : Nat → RandomValue) (now : Int) :
    Option (Except Raised MarketDataSeries) :=
  match (cache.get (cacheKey request) request.asOf).2 with
  | some series => some (.ok series)
  | none =>
    (requestJson settings decoders outcomes random).result.map fun result =>
      (getOhlcvChecked conv settings.cacheTtlSeconds cache request fun _ =>
        result.map fun payload => (payload, now)).2

end Binance

end Tomiris
