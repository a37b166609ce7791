import Mathlib.Data.List.DropRight
import Tomiris.Spec.Klines

/-!
# The cache of the Binance provider

One provider that serves call after call. Next to the cache stands the log of the series that were
fetched. A key tells the window of a request, and with it the time that the cache is given, so no
entry expires and the cache holds the newest `max_entries` series of the log. What it serves then
differs from what the upstream would answer in two ways: `closed_only` is not in the key, and the
age of a series is not looked at.

## Key results

- `cacheKey_eq_iff`: what a key tells of a request
- `served_entries`: the cache holds the newest fetches
- `cache_transparent_iff`: when every call returns what a cold cache would
- `cache_ages_out_iff`: when no call is served an old series
-/

namespace Tomiris

namespace Binance

section Key

/-- The requests have one key. -/
structure SameWindow (r r' : RequestFields) : Prop where
  instrument : r.instrument = r'.instrument
  timeframe : r.timeframe = r'.timeframe
  minimum_bars : r.minimumBars = r'.minimumBars
  as_of : r.asOf = r'.asOf

instance SameWindow.decidable (r r' : RequestFields) : Decidable (SameWindow r r') :=
  decidable_of_iff (r.instrument = r'.instrument ∧ r.timeframe = r'.timeframe ∧
      r.minimumBars = r'.minimumBars ∧ r.asOf = r'.asOf)
    ⟨fun ⟨h₁, h₂, h₃, h₄⟩ => ⟨h₁, h₂, h₃, h₄⟩, fun ⟨h₁, h₂, h₃, h₄⟩ => ⟨h₁, h₂, h₃, h₄⟩⟩

/-- An asset has no colon, so the key can be taken apart. -/
theorem isAsset_colon {s : String} (h : isAsset s = true) : ':' ∉ s.toList := by
  intro hmem
  simp only [isAsset, Bool.and_eq_true] at h
  have hcolon := List.all_eq_true.mp h.1.1 ':' hmem
  revert hcolon
  decide

/-- The date of a valid request is in the calendar. -/
theorem asOf_day {r : RequestFields} (h : r.Valid) : -719468 ≤ r.asOf / Calendar.dayLength := by
  have hdatetime := h.as_of
  rw [isDatetime_iff] at hdatetime
  unfold Calendar.dayLength
  omega

/-- The fields of a key before the cutoff, which contains colons itself. -/
theorem keyFields_colon {r : RequestFields} (h : r.Valid) :
    ∀ field ∈ ["ohlcv", r.instrument, r.timeframe.value, toString r.minimumBars],
      ':' ∉ field.toList := by
  simp only [List.forall_mem_cons]
  refine ⟨by decide, isAsset_colon h.instrument, ?_, ?_, by simp⟩
  · cases r.timeframe <;> decide
  · rw [Calendar.toString_eq_zfill]
    exact Calendar.zfill_not_mem (by decide)

/-- A key tells the window of its request, and nothing else. -/
theorem cacheKey_eq_iff {r r' : RequestFields} (h : r.Valid) (h' : r'.Valid) :
    cacheKey r = cacheKey r' ↔ SameWindow r r' := by
  constructor
  · intro hkey
    -- the fields before the cutoff have no colon, so the text can be taken apart
    have hconcat : ":".intercalate (["ohlcv", r.instrument, r.timeframe.value,
          toString r.minimumBars] ++ [Calendar.isoformat r.asOf]) =
        ":".intercalate (["ohlcv", r'.instrument, r'.timeframe.value,
          toString r'.minimumBars] ++ [Calendar.isoformat r'.asOf]) := hkey
    obtain ⟨hfields, hcutoff⟩ := Separated.string_intercalate_concat_inj rfl (by rfl)
      (keyFields_colon h) (keyFields_colon h') hconcat
    simp only [List.cons.injEq, true_and, and_true] at hfields
    obtain ⟨hinstrument, htimeframe, hminimum⟩ := hfields
    rw [Calendar.toString_eq_zfill, Calendar.toString_eq_zfill] at hminimum
    exact ⟨hinstrument, Timeframe.value_inj htimeframe, Calendar.zfill_inj hminimum,
      Calendar.isoformat_inj (asOf_day h) (asOf_day h') hcutoff⟩
  · intro hwindow
    unfold cacheKey
    rw [hwindow.instrument, hwindow.timeframe, hwindow.minimum_bars, hwindow.as_of]

/-- Requests for one window ask the exchange for the same. -/
theorem klineParams_congr {r r' : RequestFields} (h : SameWindow r r') :
    klineParams r = klineParams r' := by
  unfold klineParams
  rw [h.instrument, h.timeframe, h.minimum_bars, h.as_of]

end Key

end Binance

open Binance

/-- A call of `get_ohlcv` at `calledAt`, and what `_request_json` answers it. -/
structure OhlcvCall where
  request : MarketDataRequest
  calledAt : Int
  answer : KlineParams → Except Raised (PyValue × Int)

/-- A series that was fetched: the request, the answer that was read for it, and the time of
    that answer. -/
structure Fetched where
  request : MarketDataRequest
  payload : PyValue
  receivedAt : Int
  series : MarketDataSeries

namespace BinancePublicMarketDataProvider

variable {p : BinancePublicMarketDataProvider}

/-- A provider between two calls, with the log of the series that it has fetched. -/
structure Serving where
  cache : InMemoryMarketDataCache MarketDataSeries
  fetches : List Fetched := []

/-- The provider before its first call. -/
def start (p : BinancePublicMarketDataProvider) : Serving where
  cache := { maxEntries := p.maxEntries }

/-- What the upstream answers to a call, if a series can be read from it. -/
def fetched (p : BinancePublicMarketDataProvider) (c : OhlcvCall) : Option Fetched :=
  match c.answer (klineParams c.request.toRequestFields) with
  | .error _ => none
  | .ok (payload, receivedAt) =>
    match readKlines p.conv c.request.toRequestFields payload receivedAt with
    | .error _ => none
    | .ok series => some ⟨c.request, payload, receivedAt, series⟩

/-- The series that a call finds in the cache. -/
def cached (st : Serving) (c : OhlcvCall) : Option MarketDataSeries :=
  (st.cache.get (cacheKey c.request.toRequestFields) c.request.asOf).2

/-- `get_ohlcv` on the provider's cache. -/
def call (p : BinancePublicMarketDataProvider) (st : Serving) (c : OhlcvCall) :
    InMemoryMarketDataCache MarketDataSeries × Except Raised MarketDataSeries :=
  getOhlcv p.conv p.cacheTtlSeconds st.cache c.request.toRequestFields c.answer

/-- The provider after a call. -/
def after (p : BinancePublicMarketDataProvider) (st : Serving) (c : OhlcvCall) : Serving where
  cache := (p.call st c).1
  fetches :=
    match cached st c with
    | some _ => st.fetches
    | none => st.fetches ++ (p.fetched c).toList

/-- The provider after all of the calls. -/
def served (p : BinancePublicMarketDataProvider) (calls : List OhlcvCall) : Serving :=
  calls.foldl p.after p.start

/-- The calls are served one after the other. -/
theorem served_concat (calls : List OhlcvCall) (c : OhlcvCall) :
    p.served (calls ++ [c]) = p.after (p.served calls) c := by
  simp [served]

/-- The fetch for the window of a request, if it is one of the newest ones that there is room
    for. -/
def held (p : BinancePublicMarketDataProvider) (st : Serving) (request : MarketDataRequest) :
    Option Fetched :=
  (st.fetches.rtake p.maxEntries).find? (fun f =>
    SameWindow f.request.toRequestFields request.toRequestFields)

/-- The entry of a fetched series. -/
def entry (p : BinancePublicMarketDataProvider) (f : Fetched) :
    String × CacheEntry MarketDataSeries :=
  (cacheKey f.request.toRequestFields, ⟨f.series, f.request.asOf + seconds p.cacheTtlSeconds⟩)

/-- The cache holds the newest fetches, and each of them was read from the answer to a call. -/
structure Serving.Logged (p : BinancePublicMarketDataProvider) (calls : List OhlcvCall)
    (st : Serving) : Prop where
  max_entries : st.cache.maxEntries = p.maxEntries
  entries : st.cache.entries = (st.fetches.map p.entry).rtake p.maxEntries
  read : ∀ f ∈ st.fetches, ∃ c ∈ calls, p.fetched c = some f

/-- A key is found if its window was fetched. -/
theorem lookup_entry (fetches : List Fetched) (request : MarketDataRequest) :
    (fetches.map p.entry).lookup (cacheKey request.toRequestFields) =
      (fetches.find? (fun f => SameWindow f.request.toRequestFields request.toRequestFields)).map
        (fun f => (p.entry f).2) := by
  induction fetches with
  | nil => rfl
  | cons f rest ih =>
    rw [List.map_cons, List.lookup_cons, ih, List.find?_cons]
    -- a fetch of the same window has the same key
    by_cases hwindow : SameWindow f.request.toRequestFields request.toRequestFields
    · have hkey := (cacheKey_eq_iff f.request.valid request.valid).mpr hwindow
      simp [entry, hkey, hwindow]
    · have hkey : (cacheKey request.toRequestFields == cacheKey f.request.toRequestFields) = false :=
        beq_false_of_ne fun h =>
          hwindow ((cacheKey_eq_iff f.request.valid request.valid).mp h.symm)
      simp only [entry] at hkey ⊢
      simp [hkey, hwindow]

/-- The cache finds what is held. -/
theorem lookup_held {calls : List OhlcvCall} {st : Serving} (h : st.Logged p calls)
    (request : MarketDataRequest) : st.cache.entries.lookup (cacheKey request.toRequestFields) =
      (p.held st request).map (fun f => (p.entry f).2) := by
  have hlookup := lookup_entry (p := p) (st.fetches.rtake p.maxEntries) request
  rw [h.entries, held, ← hlookup, List.map_rtake]

/-- No entry expires: the time that the cache is given is the one that the entry was stored at. -/
theorem get_held {calls : List OhlcvCall} {st : Serving} (h : st.Logged p calls)
    (request : MarketDataRequest) :
    st.cache.get (cacheKey request.toRequestFields) request.asOf =
      (st.cache, (p.held st request).map Fetched.series) := by
  unfold InMemoryMarketDataCache.get
  rw [lookup_held h request]
  cases hheld : p.held st request with
  | none => rfl
  | some f =>
    have hwindow := List.find?_some hheld
    simp only [decide_eq_true_eq] at hwindow
    -- both times are cutoffs of the same window, and the lifetime is positive
    have hlive : ¬ f.request.asOf + seconds p.cacheTtlSeconds ≤ request.asOf := by
      have hpos := seconds_pos p.cache_ttl.1
      have hcutoff := hwindow.as_of
      omega
    simp [entry, hlive]

/-- And returns it while it is fresh. -/
theorem cached_eq_held {calls : List OhlcvCall} {st : Serving} (h : st.Logged p calls)
    (c : OhlcvCall) : cached st c = (p.held st c.request).map Fetched.series := by
  unfold cached
  rw [get_held h]

/-- What a call reads from its answer. -/
theorem fetched_some {c : OhlcvCall} {f : Fetched} (h : p.fetched c = some f) :
    f.request = c.request ∧
      c.answer (klineParams c.request.toRequestFields) = .ok (f.payload, f.receivedAt) ∧
      readKlines p.conv c.request.toRequestFields f.payload f.receivedAt = .ok f.series := by
  unfold fetched at h
  split at h
  · cases h
  · rename_i payload receivedAt hanswer
    split at h
    · cases h
    · rename_i series hread
      cases h
      exact ⟨rfl, hanswer, hread⟩

/-- A call that is served from the cache. -/
theorem call_hit {calls : List OhlcvCall} {st : Serving} (h : st.Logged p calls) {c : OhlcvCall}
    {f : Fetched} (hheld : p.held st c.request = some f) :
    p.call st c = (st.cache, .ok f.series) := by
  unfold call getOhlcv
  rw [get_held h, hheld]
  rfl

/-- One that is not fetches, and the oldest entry makes room. -/
theorem call_miss {calls : List OhlcvCall} {st : Serving} (h : st.Logged p calls) {c : OhlcvCall}
    (hheld : p.held st c.request = none) :
    (p.call st c).2 = fetch p.conv c.request.toRequestFields c.answer ∧
      (p.call st c).1.maxEntries = p.maxEntries ∧
      (p.call st c).1.entries =
        ((st.fetches ++ (p.fetched c).toList).map p.entry).rtake p.maxEntries := by
  have habsent : st.cache.entries.lookup (cacheKey c.request.toRequestFields) = none := by
    rw [lookup_held h, hheld]
    rfl
  unfold call getOhlcv fetched fetch
  rw [get_held h, hheld]
  simp only [Option.map_none]
  cases c.answer (klineParams c.request.toRequestFields) with
  -- nothing is stored unless a series was read
  | error e => exact ⟨rfl, h.max_entries, by simpa using h.entries⟩
  | ok answered =>
    obtain ⟨payload, receivedAt⟩ := answered
    simp only
    cases readKlines p.conv c.request.toRequestFields payload receivedAt with
    | error e => exact ⟨rfl, h.max_entries, by simpa using h.entries⟩
    | ok series =>
      refine ⟨rfl, ?_, ?_⟩
      · simp [InMemoryMarketDataCache.put, habsent, h.max_entries]
      · simp only [InMemoryMarketDataCache.put, habsent, Option.isSome_none, Bool.false_eq_true,
          if_false, Option.toList_some, List.map_append, List.map_singleton]
        rw [h.max_entries, h.entries, BoundedMap.add_rtake p.max_entries]
        rfl

/-- So the log tells what is in the cache. -/
theorem after_logged {calls : List OhlcvCall} {st : Serving} (h : st.Logged p calls)
    (c : OhlcvCall) : (p.after st c).Logged p (calls ++ [c]) := by
  have hread : ∀ f ∈ st.fetches, ∃ c' ∈ calls ++ [c], p.fetched c' = some f := by
    intro f hf
    obtain ⟨c', hc', hfetched⟩ := h.read f hf
    exact ⟨c', List.mem_append_left _ hc', hfetched⟩
  unfold after
  rw [cached_eq_held h]
  -- a hit leaves the cache as it was; a miss adds what it fetched
  cases hheld : p.held st c.request with
  | some f =>
    rw [call_hit h hheld]
    exact ⟨h.max_entries, h.entries, hread⟩
  | none =>
    obtain ⟨-, hmax, hentries⟩ := call_miss h hheld
    refine ⟨hmax, hentries, ?_⟩
    intro f hf
    rcases List.mem_append.mp hf with hf | hf
    · exact hread f hf
    · exact ⟨c, by simp, by simpa using hf⟩

/-- After every run of calls the cache holds the newest fetches. -/
theorem served_logged (calls : List OhlcvCall) : (p.served calls).Logged p calls := by
  induction calls using List.reverseRecOn with
  | nil => exact ⟨rfl, by simp [served, start, List.rtake], by simp [served, start]⟩
  | append_singleton calls c ih =>
    rw [served_concat]
    exact after_logged ih c

/-- Nothing is held at the start. -/
theorem start_held (request : MarketDataRequest) : p.held p.start request = none := by
  simp [held, start, List.rtake]

/-- The calls of a list of requests, with one upstream that always gives the same answer to the
    same parameters, and the times of its answers. -/
def asked (upstream : KlineParams → Except Raised PyValue) (c : MarketDataRequest × Int) :
    OhlcvCall where
  request := c.1
  calledAt := c.2
  answer := fun params => (upstream params).map (fun payload => (payload, c.2))

/-- The age that a request allows is not looked at by the provider. -/
theorem parseRows_maxAge (conv : Conversions) (request : RequestFields) (age : Nat)
    (receivedAt : Int) (rows : List PyValue) :
    parseRows conv { request with maxDataAgeSeconds := age } receivedAt rows =
      parseRows conv request receivedAt rows := by
  induction rows with
  | nil => rfl
  | cons raw rest ih =>
    rw [parseRows, parseRows, ih]
    rfl

/-- The limit on the age of the data is for the validator only. -/
theorem readKlines_maxAge (conv : Conversions) (request : RequestFields) (age : Nat)
    (payload : PyValue) (receivedAt : Int) :
    readKlines conv { request with maxDataAgeSeconds := age } payload receivedAt =
      readKlines conv request payload receivedAt := by
  cases payload with
  | sequence rows =>
    unfold readKlines
    simp only [parseRows_maxAge]
    rfl
  | _ => rfl

/-- The series of a fetch, as one that is read for another request for the window. -/
theorem readKlines_window {conv : Conversions} {r r' : RequestFields} (h : SameWindow r r')
    (payload : PyValue) (receivedAt : Int) : readKlines conv r payload receivedAt =
      readKlines conv (withClosedOnly r' r.closedOnly) payload receivedAt := by
  have hfields : r = { withClosedOnly r' r.closedOnly with
      maxDataAgeSeconds := r.maxDataAgeSeconds } := by
    obtain ⟨h₁, h₂, h₃, h₄⟩ := h
    cases r
    simp_all [withClosedOnly]
  rw [hfields, readKlines_maxAge]
  rfl

section Transparent

variable {upstream : KlineParams → Except Raised PyValue} {requests : List (MarketDataRequest × Int)}
variable {st : Serving}

/-- What a held series was read from is what the upstream answers to the call. -/
theorem upstream_of_held (h : st.Logged p (requests.map (asked upstream)))
    {request : MarketDataRequest} {f : Fetched} (hheld : p.held st request = some f) :
    SameWindow f.request.toRequestFields request.toRequestFields ∧
      upstream (klineParams request.toRequestFields) = .ok f.payload ∧
      readKlines p.conv f.request.toRequestFields f.payload 0 = .ok f.series.erase := by
  have hwindow := List.find?_some hheld
  simp only [decide_eq_true_eq] at hwindow
  -- an earlier call of the run has fetched it from the same upstream
  obtain ⟨c, hc, hfetched⟩ := h.read f (List.mem_of_mem_drop (List.mem_of_find?_eq_some hheld))
  obtain ⟨asked, -, rfl⟩ := List.mem_map.mp hc
  obtain ⟨hrequest, hanswer, hread⟩ := fetched_some hfetched
  rw [← hrequest] at hanswer hread
  refine ⟨hwindow, ?_, ?_⟩
  · rw [← klineParams_congr hwindow]
    simp only [BinancePublicMarketDataProvider.asked] at hanswer
    cases hup : upstream (klineParams f.request.toRequestFields) with
    | error e =>
      rw [hup] at hanswer
      cases hanswer
    | ok payload =>
      rw [hup] at hanswer
      rw [(Prod.mk.inj (Except.ok.inj hanswer)).1]
  · rw [readKlines_erase f.receivedAt, hread]
    rfl

/-- A call on any cache of the run compared with a call on a cold one. -/
theorem call_transparent_iff (h : st.Logged p (requests.map (asked upstream)))
    (c : MarketDataRequest × Int) :
    (p.call st (asked upstream c)).2.map MarketDataSeries.erase =
        (p.call p.start (asked upstream c)).2.map MarketDataSeries.erase ↔
      ∀ f, p.held st c.1 = some f → f.request.closedOnly ≠ c.1.closedOnly →
        Settled p.conv c.1.toRequestFields f.payload := by
  have hcold : (p.call p.start (asked upstream c)).2 =
      fetch p.conv c.1.toRequestFields (asked upstream c).answer :=
    (call_miss (served_logged []) (start_held c.1)).1
  rw [hcold]
  cases hheld : p.held st c.1 with
  | none =>
    rw [(call_miss h hheld).1]
    simp [asked]
  | some f =>
    obtain ⟨hwindow, hup, hread⟩ := upstream_of_held h hheld
    have hfetch : (fetch p.conv c.1.toRequestFields (asked upstream c).answer).map
        MarketDataSeries.erase = readKlines p.conv c.1.toRequestFields f.payload 0 := by
      rw [readKlines_erase c.2]
      simp [fetch, asked, hup, Except.map]
    rw [hfetch, call_hit h hheld]
    rw [readKlines_window hwindow] at hread
    have hflag : c.1.toRequestFields = withClosedOnly c.1.toRequestFields c.1.closedOnly := rfl
    -- only the flag may differ, since it is no part of the key
    have hsame : (.ok f.series.erase = readKlines p.conv c.1.toRequestFields f.payload 0) ↔
        (f.request.closedOnly ≠ c.1.closedOnly →
          Settled p.conv c.1.toRequestFields f.payload) := by
      by_cases hclosed : f.request.closedOnly = c.1.closedOnly
      · rw [hclosed, ← hflag] at hread
        simp [hread, hclosed]
      · have hnot : c.1.closedOnly = !f.request.closedOnly := by
          revert hclosed
          cases f.request.closedOnly <;> cases c.1.closedOnly <;> simp
        have hminimum := c.1.valid.minimum_bars
        have hiff := readKlines_closedOnly_iff (by omega) hread
        rw [← hnot, ← hflag] at hiff
        rw [eq_comm, hiff]
        simp [hclosed]
    simpa [Except.map] using hsame

/-- Every call of every run returns what it would on a cold cache, up to the time of receipt,
    exactly if no series that is held for the window of a call was fetched with another
    `closed_only`, or the answer it was read from is the same with both. -/
theorem cache_transparent_iff (p : BinancePublicMarketDataProvider)
    (upstream : KlineParams → Except Raised PyValue) (requests : List (MarketDataRequest × Int)) :
    (∀ before c rest, requests = before ++ c :: rest →
      (p.call (p.served (before.map (asked upstream))) (asked upstream c)).2.map
          MarketDataSeries.erase =
        (p.call p.start (asked upstream c)).2.map MarketDataSeries.erase) ↔
    ∀ before c rest, requests = before ++ c :: rest →
      ∀ f, p.held (p.served (before.map (asked upstream))) c.1 = some f →
        f.request.closedOnly ≠ c.1.closedOnly →
        Settled p.conv c.1.toRequestFields f.payload := by
  refine forall_congr' fun before => forall_congr' fun c => forall_congr' fun rest =>
    imp_congr_right fun _ => ?_
  exact call_transparent_iff (served_logged _) c

end Transparent

section OpenCandle

/-- The conversions on answers whose values are integers. -/
def ofInts : Conversions where
  int
    | .int n => .ok n
    | _ => .error .typeError
  fromtimestamp n := if isDatetime (n * 1000) then .ok (n * 1000) else .error .overflowError
  decimal
    | .int n => .ok (.finite n)
    | _ => .error .invalidOperation
  fromtimestamp_isDatetime := by
    intro n t h
    split at h
    · rename_i hdatetime
      cases h
      exact hdatetime
    · cases h
  decimal_caught := by
    intro raw e h
    split at h
    · cases h
    · cases h
      rfl

def smallProvider : BinancePublicMarketDataProvider where
  conv := ofInts
  cacheTtlSeconds := 10
  maxEntries := 256
  cache_ttl := by decide
  max_entries := by decide

/-- Half an hour into the third of three hourly candles. -/
def halfPastTwo (closedOnly : Bool) : MarketDataRequest where
  instrument := "BTCUSDT"
  timeframe := .h1
  minimumBars := 2
  asOf := 9000000000
  maxDataAgeSeconds := 7200
  closedOnly := closedOnly
  valid := ⟨show isAsset "BTCUSDT" = true by decide, show 2 ≤ 2 ∧ 2 ≤ 999 by decide,
    show isDatetime 9000000000 = true by decide, show 1 ≤ 7200 ∧ 7200 ≤ 604800 by decide⟩

/-- An hourly candle that opens after the given milliseconds. -/
def hourCandle (openTime : Int) : PyValue :=
  .sequence [.int openTime, .int 100, .int 110, .int 90, .int 105, .int 7,
    .int (openTime + 3599999)]

def threeCandles : KlineParams → Except Raised PyValue :=
  fun _ => .ok (.sequence [hourCandle 0, hourCandle 3600000, hourCandle 7200000])

/-- Which bars of a series are closed. -/
def closedBars (result : Except Raised MarketDataSeries) : Option (List Bool) :=
  result.toOption.map (fun series => series.bars.map (fun b => b.closed))

/-- Which bars are closed does not depend on when they were received. -/
theorem closedBars_erase (result : Except Raised MarketDataSeries) :
    closedBars (result.map MarketDataSeries.erase) = closedBars result := by
  cases result with
  | error e => rfl
  | ok series => simp [closedBars, Except.map, MarketDataSeries.erase, SeriesFields.erase,
      OHLCVBar.erase, BarFields.erase, Except.toOption]

/-- A request for closed bars is served the open one of an earlier request. -/
theorem open_candle_served :
    let later := asked threeCandles (halfPastTwo true, 9002000000)
    let st := smallProvider.served [asked threeCandles (halfPastTwo false, 9001000000)]
    closedBars (smallProvider.call st later).2 = some [true, false] ∧
      closedBars (smallProvider.call smallProvider.start later).2 = some [true, true] ∧
      (smallProvider.call st later).2.map MarketDataSeries.erase ≠
        (smallProvider.call smallProvider.start later).2.map MarketDataSeries.erase := by
  have hwarm : closedBars (smallProvider.call
      (smallProvider.served [asked threeCandles (halfPastTwo false, 9001000000)])
      (asked threeCandles (halfPastTwo true, 9002000000))).2 = some [true, false] := by decide +kernel
  have hcold : closedBars (smallProvider.call smallProvider.start
      (asked threeCandles (halfPastTwo true, 9002000000))).2 = some [true, true] := by decide +kernel
  refine ⟨hwarm, hcold, ?_⟩
  intro hsame
  have hclosed := congrArg closedBars hsame
  rw [closedBars_erase, closedBars_erase, hwarm, hcold] at hclosed
  cases hclosed

end OpenCandle

section Age

/-- The bars of a fetched series carry the time of the answer. -/
theorem fetched_receivedAt {c : OhlcvCall} {f : Fetched} (h : p.fetched c = some f) :
    f.series.bars ≠ [] ∧ ∀ b ∈ f.series.bars, b.receivedAt = f.receivedAt := by
  obtain ⟨-, -, hread⟩ := fetched_some h
  obtain ⟨rows, bars, -, hparsed, -, hfields⟩ := readKlines_ok hread
  refine ⟨List.length_pos_iff.mp f.series.valid.bars.1, ?_⟩
  intro b hb
  rw [hfields] at hb
  exact (parseRows_fields hparsed b (List.mem_of_mem_drop hb)).2.2.2.2

/-- What is served is as young as what was fetched. -/
theorem cached_young_iff {calls : List OhlcvCall} {st : Serving} (h : st.Logged p calls)
    (c : OhlcvCall) :
    (∀ series, cached st c = some series →
      ∀ b ∈ series.bars, c.calledAt ≤ b.receivedAt + seconds p.cacheTtlSeconds) ↔
    ∀ f, p.held st c.request = some f →
      c.calledAt ≤ f.receivedAt + seconds p.cacheTtlSeconds := by
  rw [cached_eq_held h]
  cases hheld : p.held st c.request with
  | none => simp
  | some f =>
    obtain ⟨c', -, hfetched⟩ :=
      h.read f (List.mem_of_mem_drop (List.mem_of_find?_eq_some hheld))
    -- all bars of a fetch were received at one time
    obtain ⟨hne, hreceived⟩ := fetched_receivedAt hfetched
    simp only [Option.map_some, Option.some.injEq, forall_eq']
    constructor
    · intro hyoung
      obtain ⟨b, hb⟩ := List.exists_mem_of_ne_nil _ hne
      rw [← hreceived b hb]
      exact hyoung b hb
    · intro hyoung b hb
      rw [hreceived b hb]
      exact hyoung

/-- No call of a run is served a series more than `cache_ttl_seconds` after it was fetched,
    exactly if every call for the window of a held series comes in that time. -/
theorem cache_ages_out_iff (p : BinancePublicMarketDataProvider) (calls : List OhlcvCall) :
    (∀ before c rest, calls = before ++ c :: rest →
      ∀ series, cached (p.served before) c = some series →
      ∀ b ∈ series.bars, c.calledAt ≤ b.receivedAt + seconds p.cacheTtlSeconds) ↔
    ∀ before c rest, calls = before ++ c :: rest →
      ∀ f, p.held (p.served before) c.request = some f →
        c.calledAt ≤ f.receivedAt + seconds p.cacheTtlSeconds := by
  refine forall_congr' fun before => forall_congr' fun c => forall_congr' fun rest =>
    imp_congr_right fun _ => ?_
  exact cached_young_iff (served_logged _) c

/-- A series is served an hour after it was fetched, with a lifetime of ten seconds. -/
theorem old_series_served :
    let first := asked threeCandles (halfPastTwo true, 9001000000)
    let later := asked threeCandles (halfPastTwo true, 12601000000)
    let st := smallProvider.served [first]
    first.calledAt ≤ later.calledAt ∧
      ∃ series, cached st later = some series ∧ (smallProvider.call st later).2 = .ok series ∧
        ∃ b ∈ series.bars, b.receivedAt + seconds smallProvider.cacheTtlSeconds < later.calledAt := by
  intro first later st
  have hreceived : (cached st later).map (fun series => series.bars.map (fun b => b.receivedAt)) =
      some [9001000000, 9001000000] := by decide +kernel
  -- what is served an hour later is the first fetch
  have hlogged : st.Logged smallProvider [first] := served_logged [first]
  rw [cached_eq_held hlogged, Option.map_map, Option.map_eq_some_iff] at hreceived
  obtain ⟨f, hheld, hreceived⟩ := hreceived
  refine ⟨by decide, f.series, ?_, by rw [call_hit hlogged hheld], ?_⟩
  · rw [cached_eq_held hlogged, hheld]
    rfl
  · have hmem : (9001000000 : Int) ∈ f.series.bars.map (fun b => b.receivedAt) := by
      have hbars : f.series.bars.map (fun b => b.receivedAt) = [9001000000, 9001000000] := hreceived
      simp [hbars]
    obtain ⟨b, hb, hb'⟩ := List.mem_map.mp hmem
    refine ⟨b, hb, ?_⟩
    rw [hb']
    decide

end Age


end BinancePublicMarketDataProvider

end Tomiris
