import Mathlib.Algebra.Order.Group.Nat
import Tomiris.Spec.CleanSeries
import Tomiris.Spec.MarketDataCache

/-!
# The fetched window

An exchange numbers its candles: candle `k` of a timeframe opens at `k` times its length and closes
a millisecond before candle `k + 1` opens. It answers with the last `limit` candles that open by
`endTime`, the newest of which may still be open. One candle more than needed is asked for, so that
enough are left without it.

## Key results

- `parseRows_candles`: the loop over the rows of such an answer keeps the closed candles
- `newest_closed_candles`: the series is the newest `minimum_bars` closed candles
-/

namespace Tomiris

/-! ## Consecutive integers -/

/-- `n` integers from `first` on. -/
def consecutive (first : Int) (n : Nat) : List Int := (List.range n).map (fun i => first + (i : Nat))

/-- There are `n` of them. -/
@[simp] theorem consecutive_length (first : Int) (n : Nat) : (consecutive first n).length = n := by
  simp [consecutive]

/-- None. -/
theorem consecutive_zero (first : Int) : consecutive first 0 = [] := rfl

/-- One more at the end. -/
theorem consecutive_succ (first : Int) (n : Nat) :
    consecutive first (n + 1) = consecutive first n ++ [first + n] := by
  simp [consecutive, List.range_succ]

/-- Each is one more than the one before. -/
theorem consecutive_isChain (first : Int) (n : Nat) :
    (consecutive first n).IsChain fun k k' => k' = k + 1 := by
  rw [List.isChain_iff_getElem]
  intro i hi
  simp only [consecutive, List.getElem_map, List.getElem_range]
  omega

/-- The integers between the first and the one behind the last. -/
theorem mem_consecutive {first k : Int} {n : Nat} :
    k ∈ consecutive first n ↔ first ≤ k ∧ k < first + n := by
  simp only [consecutive, List.mem_map, List.mem_range]
  constructor
  · rintro ⟨i, hi, rfl⟩
    omega
  · rintro ⟨hfirst, hlast⟩
    exact ⟨(k - first).toNat, by omega, by omega⟩

/-- The last `m` of them. -/
theorem consecutive_rtake {first : Int} {n m : Nat} (h : m ≤ n) :
    (consecutive first n).rtake m = consecutive (first + n - m) m := by
  induction m generalizing n with
  | zero => simp [consecutive_zero]
  | succ m ih =>
    obtain ⟨n, rfl⟩ : ∃ n', n = n' + 1 := ⟨n - 1, by omega⟩
    have hstart : first + (n + 1 : Nat) - (m + 1 : Nat) = first + n - m := by omega
    have hlast : first + n - m + m = first + n := by omega
    rw [consecutive_succ, List.rtake_concat_succ, ih (by omega), hstart, consecutive_succ, hlast]

/-- As many of the last ones as there are. -/
theorem consecutive_rtake_min (first : Int) (n m : Nat) :
    (consecutive first n).rtake m = consecutive (first + (n - m : Nat)) (min m n) := by
  by_cases hle : m ≤ n
  · have hstart : first + n - m = first + (n - m : Nat) := by omega
    rw [consecutive_rtake hle, hstart, Nat.min_eq_left hle]
  · have hzero : n - m = 0 := by omega
    have hmin : min m n = n := by omega
    rw [List.rtake, consecutive_length, hzero, hmin]
    simp

/-- The ones up to a bound. -/
theorem consecutive_filter {first bound : Int} {n : Nat} (h : first + n ≤ bound + 2) :
    (consecutive first n).filter (fun k => k ≤ bound) =
      consecutive first (min n (bound + 1 - first).toNat) := by
  by_cases hall : first + n ≤ bound + 1
  · have hmin : min n (bound + 1 - first).toNat = n := by omega
    rw [hmin, List.filter_eq_self]
    intro k hk
    have := (mem_consecutive.mp hk).2
    exact decide_eq_true (by omega)
  · -- only the last one is beyond the bound, if there is any
    cases n with
    | zero => simp [consecutive_zero]
    | succ n =>
      have hmin : min (n + 1) (bound + 1 - first).toNat = n := by omega
      have hrest : (consecutive first n).filter (fun k => k ≤ bound) = consecutive first n := by
        rw [List.filter_eq_self]
        intro k hk
        have := (mem_consecutive.mp hk).2
        exact decide_eq_true (by omega)
      have hlast : ¬ first + n ≤ bound := by omega
      rw [hmin, consecutive_succ, List.filter_append, hrest]
      simp [hlast]

/-! ## The candles of an exchange -/

/-- The length of a candle in microseconds. -/
def Timeframe.length (timeframe : Timeframe) : Int := Tomiris.seconds timeframe.seconds

/-- When candle `k` opens. -/
def candleOpen (timeframe : Timeframe) (k : Int) : Int := k * timeframe.length

/-- When it closes, a millisecond before the next one opens. -/
def candleClose (timeframe : Timeframe) (k : Int) : Int := (k + 1) * timeframe.length - 1000

/-- The latest candle that closes by a time. -/
def latestClosed (timeframe : Timeframe) (t : Int) : Int := (t + 1000) / timeframe.length - 1

section Grid

variable {timeframe : Timeframe} {k t : Int}

/-- A candle takes time. -/
theorem Timeframe.length_pos (timeframe : Timeframe) : 0 < timeframe.length := by
  cases timeframe <;> decide

/-- The candles that are closed at a time. -/
theorem candleClose_le_iff : candleClose timeframe k ≤ t ↔ k ≤ latestClosed timeframe t := by
  have hle : k + 1 ≤ (t + 1000) / timeframe.length ↔ (k + 1) * timeframe.length ≤ t + 1000 :=
    Int.le_ediv_iff_mul_le timeframe.length_pos
  unfold candleClose latestClosed
  omega

/-- The candle that a `datetime` falls into closes within the range of `datetime`, and so do the
    ones before it that open within the range. -/
theorem isDatetime_candle {first : Int} (hfirst : isDatetime (candleOpen timeframe first) = true)
    (ht : isDatetime t = true) (hk : first ≤ k) (hopen : candleOpen timeframe k ≤ t) :
    isDatetime (candleOpen timeframe k) = true ∧ isDatetime (candleClose timeframe k) = true := by
  rw [isDatetime_iff] at hfirst ht
  rw [isDatetime_iff, isDatetime_iff]
  unfold candleOpen at hfirst hopen ⊢
  unfold candleClose
  -- the range of `datetime` ends with a candle of every timeframe
  cases timeframe with
  | m15 =>
    have hlength : Timeframe.m15.length = 900000000 := rfl
    rw [hlength] at hfirst hopen ⊢
    omega
  | h1 =>
    have hlength : Timeframe.h1.length = 3600000000 := rfl
    rw [hlength] at hfirst hopen ⊢
    omega
  | h4 =>
    have hlength : Timeframe.h4.length = 14400000000 := rfl
    rw [hlength] at hfirst hopen ⊢
    omega
  | d1 =>
    have hlength : Timeframe.d1.length = 86400000000 := rfl
    rw [hlength] at hfirst hopen ⊢
    omega

end Grid

/-- The values of a candle. -/
structure Ohlcv where
  «open» : Rat
  high : Rat
  low : Rat
  close : Rat
  volume : Rat
  positive : 0 < «open» ∧ 0 < high ∧ 0 < low ∧ 0 < close
  high_max : «open» ≤ high ∧ low ≤ high ∧ close ≤ high
  low_min : low ≤ «open» ∧ low ≤ high ∧ low ≤ close
  volume_nonneg : 0 ≤ volume

/-- The cells are the row of candle `k`. -/
structure CandleRow (conv : Conversions) (timeframe : Timeframe) (k : Int) (cells : List PyValue)
    (values : Ohlcv) : Prop where
  width : 7 ≤ cells.length
  openTime : Binance.cellTime conv (cells.getD 0 .none) = .ok (candleOpen timeframe k)
  «open» : conv.decimal (cells.getD 1 .none) = .ok (.finite values.open)
  high : conv.decimal (cells.getD 2 .none) = .ok (.finite values.high)
  low : conv.decimal (cells.getD 3 .none) = .ok (.finite values.low)
  close : conv.decimal (cells.getD 4 .none) = .ok (.finite values.close)
  volume : conv.decimal (cells.getD 5 .none) = .ok (.finite values.volume)
  closeTime : Binance.cellTime conv (cells.getD 6 .none) = .ok (candleClose timeframe k)

/-- What a klines request asks for, with `endTime` in milliseconds. -/
structure KlineQuery where
  symbol : String
  timeframe : Timeframe
  limit : Nat
  endTime : Int

/-- The parameters of a request spell the query. -/
def KlineParams.Asks (params : KlineParams) (query : KlineQuery) : Prop :=
  params = ⟨query.symbol, query.timeframe.value, toString query.limit, toString query.endTime⟩

/-- Integers are spelled in one way. -/
theorem toString_int_inj {n n' : Int} (h : toString n = toString n') : n = n' := by
  -- a negative number begins with a minus, a natural one has none
  have hsign : ∀ k : Nat, '-' ∉ (toString k).toList := by
    intro k
    rw [Calendar.toString_eq_zfill]
    exact Calendar.zfill_not_mem (by decide)
  have hnegative : ∀ k : Nat, toString (Int.negSucc k) = "-" ++ toString (k + 1) := fun _ => rfl
  have hnat : ∀ {k k' : Nat}, toString k = toString k' → k = k' := by
    intro k k' hk
    rw [Calendar.toString_eq_zfill, Calendar.toString_eq_zfill] at hk
    exact Calendar.zfill_inj hk
  cases n with
  | ofNat k =>
    cases n' with
    | ofNat k' => rw [hnat h]
    | negSucc k' =>
      have htext : toString k = "-" ++ toString (k' + 1) := h
      exact absurd (by simp [htext]) (hsign k)
  | negSucc k =>
    cases n' with
    | ofNat k' =>
      have htext : "-" ++ toString (k + 1) = toString k' := h
      exact absurd (by simp [← htext]) (hsign k')
    | negSucc k' =>
      rw [hnegative, hnegative] at h
      have htext : toString (k + 1) = toString (k' + 1) := by
        rw [← String.toList_inj] at h ⊢
        simpa using h
      have hsucc := hnat htext
      rw [Nat.succ.inj hsucc]

/-- They spell no other one. -/
theorem KlineParams.Asks.unique {params : KlineParams} {query query' : KlineQuery}
    (h : params.Asks query) (h' : params.Asks query') : query = query' := by
  obtain ⟨symbol, timeframe, limit, endTime⟩ := query
  obtain ⟨symbol', timeframe', limit', endTime'⟩ := query'
  have heq := h.symm.trans h'
  simp only [KlineParams.mk.injEq] at heq
  obtain ⟨hsymbol, htimeframe, hlimit, hend⟩ := heq
  have hlimit' : (limit : Int) = limit' := toString_int_inj hlimit
  rw [hsymbol, Timeframe.value_inj htimeframe, toString_int_inj hend, Int.ofNat_inj.mp hlimit']

/-- An exchange with the candles from `listed` on, their rows and their values. -/
structure Exchange (conv : Conversions) where
  listed : String → Timeframe → Int
  cells : String → Timeframe → Int → List PyValue
  values : String → Timeframe → Int → Ohlcv
  listed_datetime : ∀ symbol timeframe,
    isDatetime (candleOpen timeframe (listed symbol timeframe)) = true

namespace Exchange

variable {conv : Conversions} (x : Exchange conv)

/-- The candles that open by `endTime`, in order. -/
def upTo (query : KlineQuery) : List Int :=
  let first := x.listed query.symbol query.timeframe
  consecutive first (query.endTime * 1000 / query.timeframe.length + 1 - first).toNat

/-- The candles of an answer: the last `limit` of them. -/
def candles (query : KlineQuery) : List Int := (x.upTo query).rtake query.limit

def klines (query : KlineQuery) : List PyValue :=
  (x.candles query).map fun k => .sequence (x.cells query.symbol query.timeframe k)

/-- The rows of an answer say what its candles are. Their times are converted exactly, as
    `datetime.fromtimestamp` does with a float of less than `2 ^ 33` seconds. -/
def Rows (query : KlineQuery) : Prop :=
  ∀ k ∈ x.candles query, CandleRow conv query.timeframe k
    (x.cells query.symbol query.timeframe k) (x.values query.symbol query.timeframe k)

/-- The candles that are listed and open by `endTime`. -/
theorem mem_upTo {query : KlineQuery} {k : Int} : k ∈ x.upTo query ↔
    x.listed query.symbol query.timeframe ≤ k ∧
      candleOpen query.timeframe k ≤ query.endTime * 1000 := by
  have hle : k ≤ query.endTime * 1000 / query.timeframe.length ↔
      k * query.timeframe.length ≤ query.endTime * 1000 :=
    Int.le_ediv_iff_mul_le query.timeframe.length_pos
  simp only [upTo, mem_consecutive, candleOpen]
  omega

/-- The times of the candles of an answer are datetimes. -/
theorem datetime_of_mem {query : KlineQuery} (hend : isDatetime (query.endTime * 1000) = true)
    {k : Int} (hk : k ∈ x.candles query) :
    isDatetime (candleOpen query.timeframe k) = true ∧
      isDatetime (candleClose query.timeframe k) = true := by
  obtain ⟨hlisted, hopen⟩ := x.mem_upTo.mp (List.mem_of_mem_drop hk)
  exact isDatetime_candle (x.listed_datetime query.symbol query.timeframe) hend hlisted hopen

end Exchange

/-! ## Reading them -/

namespace Binance

variable {conv : Conversions} {request : RequestFields} {receivedAt : Int}

/-- The bar of candle `k`. -/
def candleFields (request : RequestFields) (receivedAt k : Int) (values : Ohlcv) : BarFields Rat where
  provider := name
  instrument := request.instrument
  timeframe := request.timeframe
  openTime := candleOpen request.timeframe k
  closeTime := candleClose request.timeframe k
  «open» := values.open
  high := values.high
  low := values.low
  close := values.close
  volume := values.volume
  receivedAt := receivedAt
  sourceTimestamp := candleClose request.timeframe k
  freshnessSeconds :=
    max 0 ((request.asOf - candleClose request.timeframe k : Int) / (second : Rat))
  provenance := "binance:/api/v3/klines"
  closed := candleClose request.timeframe k ≤ request.asOf

/-- A candle is longer than the millisecond that its closing time lacks. -/
theorem candleOpen_lt_close (timeframe : Timeframe) (k : Int) :
    candleOpen timeframe k < candleClose timeframe k := by
  have hlength : 1000 < timeframe.length := by
    cases timeframe <;> decide
  unfold candleOpen candleClose
  rw [add_mul]
  omega

/-- The validators of a bar accept the values of a candle. -/
theorem candleFields_valid (hinstrument : isAsset request.instrument = true) {k : Int}
    (hopens : isDatetime (candleOpen request.timeframe k) = true)
    (hcloses : isDatetime (candleClose request.timeframe k) = true) (values : Ohlcv) :
    (candleFields request receivedAt k values).Valid where
  provider := show boundedText 64 name = true by decide
  instrument := hinstrument
  freshness := le_max_left _ _
  provenance := show boundedText 256 "binance:/api/v3/klines" = true by decide
  datetimes := ⟨hopens, hcloses⟩
  times := candleOpen_lt_close request.timeframe k
  positive := values.positive
  high_max := values.high_max
  low_min := values.low_min
  volume := values.volume_nonneg

/-- Both times of a row are read. -/
theorem rowTimes_candle {k : Int} {cells : List PyValue} {values : Ohlcv}
    (h : CandleRow conv request.timeframe k cells values) : rowTimes conv cells =
      .ok (candleOpen request.timeframe k, candleClose request.timeframe k) := by
  unfold rowTimes
  rw [h.openTime, h.closeTime]
  rfl

/-- The row of a candle is read as its bar. -/
theorem rowBar_candle (hinstrument : isAsset request.instrument = true) {k : Int}
    {cells : List PyValue} {values : Ohlcv}
    (hopens : isDatetime (candleOpen request.timeframe k) = true)
    (hcloses : isDatetime (candleClose request.timeframe k) = true)
    (h : CandleRow conv request.timeframe k cells values) :
    rowBar conv request receivedAt (candleOpen request.timeframe k)
        (candleClose request.timeframe k) cells =
      .ok ⟨candleFields request receivedAt k values,
        candleFields_valid hinstrument hopens hcloses values⟩ := by
  unfold rowBar
  rw [h.open, h.high, h.low, h.close, h.volume]
  exact dif_pos (candleFields_valid hinstrument hopens hcloses values)

/-- One turn of the loop. -/
theorem parseRow_candle (hinstrument : isAsset request.instrument = true)
    (honly : request.closedOnly = true) {k : Int} {cells : List PyValue} {values : Ohlcv}
    (hopens : isDatetime (candleOpen request.timeframe k) = true)
    (hcloses : isDatetime (candleClose request.timeframe k) = true)
    (h : CandleRow conv request.timeframe k cells values) :
    parseRow conv request receivedAt (.sequence cells) =
      if k ≤ latestClosed request.timeframe request.asOf then
        .ok (some ⟨candleFields request receivedAt k values,
          candleFields_valid hinstrument hopens hcloses values⟩)
      else .ok none := by
  unfold parseRow
  simp only [if_neg (not_lt.mpr h.width), rowTimes_candle h, honly, Bool.true_and,
    candleClose_le_iff, rowBar_candle hinstrument hopens hcloses h]
  by_cases hk : k ≤ latestClosed request.timeframe request.asOf
  · simp [hk]
  · simp [hk]

/-- The loop keeps the closed candles. -/
theorem parseRows_candles (receivedAt : Int) (hinstrument : isAsset request.instrument = true)
    (honly : request.closedOnly = true) {cells : Int → List PyValue} {values : Int → Ohlcv}
    {candles : List Int}
    (h : ∀ k ∈ candles, isDatetime (candleOpen request.timeframe k) = true ∧
      isDatetime (candleClose request.timeframe k) = true ∧
      CandleRow conv request.timeframe k (cells k) (values k)) :
    ∃ bars, parseRows conv request receivedAt (candles.map fun k => .sequence (cells k)) = .ok bars ∧
      bars.map OHLCVBar.toBarFields =
        (candles.filter fun k => k ≤ latestClosed request.timeframe request.asOf).map fun k =>
          candleFields request receivedAt k (values k) := by
  -- on the candles, since every row is read by itself
  induction candles with
  | nil => exact ⟨[], rfl, rfl⟩
  | cons k rest ih =>
    rw [List.forall_mem_cons] at h
    obtain ⟨⟨hopens, hcloses, hrow⟩, hrest⟩ := h
    obtain ⟨bars, hparsed, hbars⟩ := ih hrest
    rw [List.map_cons, parseRows, parseRow_candle hinstrument honly hopens hcloses hrow, hparsed]
    by_cases hk : k ≤ latestClosed request.timeframe request.asOf
    · rw [if_pos hk, List.filter_cons_of_pos (by simpa using hk)]
      exact ⟨_, rfl, by simp [hbars]⟩
    · rw [if_neg hk, List.filter_cons_of_neg (by simpa using hk)]
      exact ⟨bars, rfl, hbars⟩

/-- The query of a request. -/
def klineQuery (request : RequestFields) : KlineQuery where
  symbol := request.instrument
  timeframe := request.timeframe
  limit := min 1000 (request.minimumBars + 1)
  endTime := request.asOf.tdiv 1000

/-- A request asks for what it should. -/
theorem klineParams_asks (request : RequestFields) :
    (klineParams request).Asks (klineQuery request) := rfl

/-- The cutoff is cut off to a millisecond, towards zero. -/
theorem endTime_cases (asOf : Int) : 0 ≤ asOf ∧ asOf.tdiv 1000 = asOf / 1000 ∨
    asOf ≤ 0 ∧ asOf.tdiv 1000 = -(-asOf / 1000) := by
  rcases Int.le_total 0 asOf with hnonneg | hneg
  · exact .inl ⟨hnonneg, Int.tdiv_eq_ediv_of_nonneg hnonneg⟩
  · refine .inr ⟨hneg, ?_⟩
    rw [← Int.tdiv_eq_ediv_of_nonneg (by omega), Int.neg_tdiv, neg_neg]

/-- Cutting off the microseconds moves a time by less than a millisecond. -/
theorem endTime_near (asOf : Int) :
    asOf - 1000 < asOf.tdiv 1000 * 1000 ∧ asOf.tdiv 1000 * 1000 < asOf + 1000 := by
  have hcases := endTime_cases asOf
  omega

/-- It stays a datetime. -/
theorem endTime_datetime {asOf : Int} (h : isDatetime asOf = true) :
    isDatetime (asOf.tdiv 1000 * 1000) = true := by
  rw [isDatetime_iff] at h ⊢
  have hcases := endTime_cases asOf
  omega

/-- At most one of the candles of an answer is open. -/
theorem endTime_candle (timeframe : Timeframe) (asOf : Int) :
    let last := asOf.tdiv 1000 * 1000 / timeframe.length
    last = latestClosed timeframe asOf ∨ last = latestClosed timeframe asOf + 1 := by
  intro last
  obtain ⟨hlow, hhigh⟩ := endTime_near asOf
  have hlength : 2000 ≤ timeframe.length := by
    cases timeframe <;> decide
  -- the cut-off millisecond and the one before a closing time are less than a candle together
  have hle : last ≤ (asOf + 1000) / timeframe.length :=
    Int.ediv_le_ediv timeframe.length_pos (by omega)
  have hge : (asOf + 1000 - timeframe.length) / timeframe.length ≤ last :=
    Int.ediv_le_ediv timeframe.length_pos (by omega)
  rw [Int.sub_ediv_of_dvd _ (dvd_refl _), Int.ediv_self timeframe.length_pos.ne'] at hge
  unfold latestClosed
  omega

/-- The newest closed candles of an answer. -/
theorem klines_window (x : Exchange conv) (hvalid : request.Valid)
    (hhistory : x.listed request.instrument request.timeframe ≤
      latestClosed request.timeframe request.asOf + 1 - request.minimumBars) :
    let latest := latestClosed request.timeframe request.asOf
    ((x.candles (klineQuery request)).filter fun k => k ≤ latest).rtake request.minimumBars =
      consecutive (latest + 1 - request.minimumBars) request.minimumBars := by
  intro latest
  have hminimum := hvalid.minimum_bars
  have hlast := endTime_candle request.timeframe request.asOf
  simp only [Exchange.candles, Exchange.upTo, klineQuery]
  generalize x.listed request.instrument request.timeframe = first at hhistory ⊢
  generalize request.asOf.tdiv 1000 * 1000 / request.timeframe.length = last at hlast ⊢
  -- the candle that may be open is the one that was asked for in addition
  rw [consecutive_rtake_min, consecutive_filter (by omega), consecutive_rtake (by omega)]
  congr 1
  omega

variable {x : Exchange conv}

/-- The series has the candles of an exchange, newest last. -/
structure Candles (x : Exchange conv) (request : RequestFields) (receivedAt first : Int) (n : Nat)
    (series : MarketDataSeries) : Prop where
  instrument : series.instrument = request.instrument
  timeframe : series.timeframe = request.timeframe
  as_of : series.asOf = request.asOf
  bars : series.bars.map OHLCVBar.toBarFields = (consecutive first n).map fun k =>
    candleFields request receivedAt k (x.values request.instrument request.timeframe k)

namespace Candles

variable {first : Int} {n : Nat} {series : MarketDataSeries}

/-- There is a bar for each candle. -/
theorem length_eq (h : Candles x request receivedAt first n series) : series.bars.length = n := by
  simpa using congrArg List.length h.bars

/-- Consecutive candles open one length apart. -/
theorem spaced (h : Candles x request receivedAt first n series) :
    MarketDataValidator.Spaced (· = request.timeframe.length) series := by
  have hchain : (series.bars.map OHLCVBar.toBarFields).IsChain fun previous current =>
      current.openTime - previous.openTime = request.timeframe.length := by
    rw [h.bars, List.isChain_map]
    refine (consecutive_isChain first n).imp ?_
    rintro k k' rfl
    simp only [candleFields, candleOpen, add_mul]
    omega
  rwa [List.isChain_map] at hchain

/-- Every bar is one of a candle. -/
theorem mem_bar (h : Candles x request receivedAt first n series) {bar : OHLCVBar}
    (hbar : bar ∈ series.bars) : ∃ k, k < first + n ∧ bar.toBarFields =
      candleFields request receivedAt k (x.values request.instrument request.timeframe k) := by
  have hmem := List.mem_map_of_mem (f := OHLCVBar.toBarFields) hbar
  rw [h.bars] at hmem
  obtain ⟨k, hk, heq⟩ := List.mem_map.mp hmem
  exact ⟨k, (mem_consecutive.mp hk).2, heq.symm⟩

/-- The last bar is the one of the newest candle. -/
theorem last_bar (h : Candles x request receivedAt first (n + 1) series) :
    series.lastBar.toBarFields = candleFields request receivedAt (first + n)
      (x.values request.instrument request.timeframe (first + n)) := by
  have hlast := List.getLast_map (f := OHLCVBar.toBarFields) (l := series.bars)
    (by simpa using series.bars_ne_nil)
  have hbars := h.bars
  rw [consecutive_succ, List.map_append] at hbars
  rw [MarketDataSeries.lastBar, ← hlast]
  simp [hbars]

end Candles

/-- The gate accepts the newest closed candles if they may be a candle old. -/
theorem validate_candles {n : Nat} {series : MarketDataSeries}
    (h : Candles x request receivedAt (latestClosed request.timeframe request.asOf - n) (n + 1)
      series) (henough : request.minimumBars ≤ n + 1)
    (hage : request.timeframe.seconds ≤ request.maxDataAgeSeconds) :
    (MarketDataValidator.validate series request).outcome = .valid := by
  -- the newest closed candle ends the series
  have hlast : series.lastBar.closeTime =
      candleClose request.timeframe (latestClosed request.timeframe request.asOf) := by
    have hbar := congrArg BarFields.closeTime h.last_bar
    rwa [Int.sub_add_cancel] at hbar
  have hclosed : candleClose request.timeframe (latestClosed request.timeframe request.asOf) ≤
      request.asOf := candleClose_le_iff.mpr (le_refl _)
  have hopen : request.asOf <
      candleClose request.timeframe (latestClosed request.timeframe request.asOf + 1) := by
    rw [← not_le, candleClose_le_iff]
    omega
  have hlimit : request.timeframe.length ≤ seconds request.maxDataAgeSeconds := by
    unfold Timeframe.length seconds second
    omega
  -- every candle of the window has closed by the cutoff
  have hbars : ∀ bar ∈ series.bars, bar.closeTime ≤ request.asOf ∧ bar.closed = true := by
    intro bar hbar
    obtain ⟨k, hk, heq⟩ := h.mem_bar hbar
    have hcloses : candleClose request.timeframe k ≤ request.asOf := by
      rw [candleClose_le_iff]
      omega
    rw [heq]
    exact ⟨hcloses, decide_eq_true hcloses⟩
  rw [MarketDataValidator.validate_valid_iff]
  constructor
  · exact
      { instrument := h.instrument
        timeframe := h.timeframe
        as_of := h.as_of
        enough := by
          rw [h.length_eq]
          exact henough
        closed_by := fun bar hbar => (hbars bar hbar).1
        closed := fun _ bar hbar => (hbars bar hbar).2
        not_future := by
          rw [hlast]
          omega
        not_stale := by
          rw [hlast]
          unfold candleClose at hopen ⊢
          rw [add_mul] at hopen
          omega }
  · refine h.spaced.mono ?_
    rintro d rfl
    unfold MarketDataValidator.Near Timeframe.length second
    omega

/-- What the provider makes of an answer whose rows can be read. -/
theorem fetch_rows {answer : KlineParams → Except Raised (PyValue × Int)} {rows : List PyValue}
    {bars : List OHLCVBar} (hanswer : answer (klineParams request) = .ok (.sequence rows, receivedAt))
    (hparsed : parseRows conv request receivedAt rows = .ok bars) (hne : bars ≠ []) :
    fetch conv request answer = makeSeries request bars := by
  have hnonempty : bars.isEmpty = false := by simpa using hne
  unfold fetch
  rw [hanswer]
  simp only [readKlines, hparsed, hnonempty]
  simp

/-- A miss of the cache returns what was fetched. -/
theorem getOhlcv_of_miss {cacheTtlSeconds : Nat} {cache : InMemoryMarketDataCache MarketDataSeries}
    {answer : KlineParams → Except Raised (PyValue × Int)} {series : MarketDataSeries}
    (hmiss : (cache.get (cacheKey request) request.asOf).2 = none)
    (hfetch : fetch conv request answer = .ok series) :
    (getOhlcv conv cacheTtlSeconds cache request answer).2 = .ok series := by
  unfold getOhlcv
  cases hget : cache.get (cacheKey request) request.asOf with
  | mk cache' found =>
    rw [hget] at hmiss
    cases hmiss
    simp only [hfetch]

end Binance

open Binance

/-- A fetched series has the newest `minimum_bars` closed candles, whether the newest candle of the
    answer is closed or not, and the gate accepts it. -/
theorem newest_closed_candles (p : BinancePublicMarketDataProvider) (x : Exchange p.conv)
    (request : MarketDataRequest) (honly : request.closedOnly = true) (receivedAt : Int)
    (hhistory : x.listed request.instrument request.timeframe ≤
      latestClosed request.timeframe request.asOf + 1 - request.minimumBars)
    (answer : KlineParams → Except Raised (PyValue × Int))
    (hanswer : ∀ query, (klineParams request.toRequestFields).Asks query →
      answer (klineParams request.toRequestFields) = .ok (.sequence (x.klines query), receivedAt))
    (hrows : ∀ query, (klineParams request.toRequestFields).Asks query → x.Rows query)
    (cache : InMemoryMarketDataCache MarketDataSeries)
    (hmiss : (cache.get (cacheKey request.toRequestFields) request.asOf).2 = none) :
    let latest := latestClosed request.timeframe request.asOf
    candleClose request.timeframe latest ≤ request.asOf ∧
      request.asOf < candleClose request.timeframe (latest + 1) ∧
      ∃ series, (getOhlcv p.conv p.cacheTtlSeconds cache request.toRequestFields answer).2 =
          .ok series ∧
        series.bars.length = request.minimumBars ∧
        Candles x request.toRequestFields receivedAt (latest + 1 - request.minimumBars)
          request.minimumBars series ∧
        (request.timeframe.seconds ≤ request.maxDataAgeSeconds →
          (MarketDataValidator.validate series request.toRequestFields).outcome = .valid) := by
  intro latest
  obtain ⟨n, hn⟩ : ∃ n, request.minimumBars = n + 1 :=
    ⟨request.minimumBars - 1, by have := request.valid.minimum_bars; omega⟩
  refine ⟨candleClose_le_iff.mpr (le_refl _), ?_, ?_⟩
  · rw [← not_le, candleClose_le_iff]
    omega
  -- every row of the answer can be read, and the closed candles among them are kept
  have hend := endTime_datetime request.valid.as_of
  have hread := hrows _ (klineParams_asks request.toRequestFields)
  have hcandle : ∀ k ∈ x.candles (klineQuery request.toRequestFields),
      isDatetime (candleOpen request.timeframe k) = true ∧
        isDatetime (candleClose request.timeframe k) = true ∧
        CandleRow p.conv request.timeframe k (x.cells request.instrument request.timeframe k)
          (x.values request.instrument request.timeframe k) := by
    intro k hk
    obtain ⟨hopens, hcloses⟩ := x.datetime_of_mem hend hk
    exact ⟨hopens, hcloses, hread k hk⟩
  obtain ⟨bars, hparsed, hbars⟩ :=
    parseRows_candles receivedAt request.valid.instrument honly hcandle
  -- the newest of these are the window, since at most one candle of the answer was open
  have hwindow : (bars.rtake request.minimumBars).map OHLCVBar.toBarFields =
      (consecutive (latest + 1 - request.minimumBars) request.minimumBars).map fun k =>
        candleFields request.toRequestFields receivedAt k
          (x.values request.instrument request.timeframe k) := by
    rw [← klines_window x request.valid hhistory, List.map_rtake, hbars, ← List.map_rtake]
  have hne : bars ≠ [] := by
    rintro rfl
    have hlength := congrArg List.length hwindow
    simp [hn] at hlength
  obtain ⟨hfields, hseries⟩ := makeSeries_ok request.valid hparsed hne
  have hcandles : Candles x request.toRequestFields receivedAt (latest + 1 - request.minimumBars)
      request.minimumBars ⟨seriesFields request.toRequestFields bars, hfields⟩ :=
    ⟨rfl, rfl, rfl, hwindow⟩
  refine ⟨_, ?_, hcandles.length_eq, hcandles, ?_⟩
  · have hfetch := fetch_rows (hanswer _ (klineParams_asks request.toRequestFields)) hparsed hne
    exact getOhlcv_of_miss hmiss (hfetch.trans hseries)
  · intro hage
    rw [hn] at hcandles
    have hfirst : latest + 1 - (n + 1 : Nat) = latest - n := by omega
    rw [hfirst] at hcandles
    exact validate_candles hcandles hn.le hage

namespace BinancePublicMarketDataProvider

theorem evenExchange_positive :
    (0 : Rat) < 100 ∧ (0 : Rat) < 110 ∧ (0 : Rat) < 90 ∧ (0 : Rat) < 105 := by
  norm_num

theorem evenExchange_high : (100 : Rat) ≤ 110 ∧ (90 : Rat) ≤ 110 ∧ (105 : Rat) ≤ 110 := by
  norm_num

theorem evenExchange_low : (90 : Rat) ≤ 100 ∧ (90 : Rat) ≤ 110 ∧ (90 : Rat) ≤ 105 := by
  norm_num

theorem evenExchange_volume : (0 : Rat) ≤ 7 := by norm_num

/-- The first candle opens in 1970. -/
theorem evenExchange_listed (timeframe : Timeframe) :
    isDatetime (candleOpen timeframe 0) = true := by
  simp [candleOpen, isDatetime]

/-- Each row is read as its candle. -/
theorem evenExchange_row {timeframe : Timeframe} {k : Int}
    (hopens : isDatetime (candleOpen timeframe k) = true)
    (hcloses : isDatetime (candleClose timeframe k) = true) :
    CandleRow ofInts timeframe k
      [.int (k * (timeframe.seconds * 1000)), .int 100, .int 110, .int 90, .int 105, .int 7,
        .int ((k + 1) * (timeframe.seconds * 1000) - 1)]
      { «open» := 100
        high := 110
        low := 90
        close := 105
        volume := 7
        positive := evenExchange_positive
        high_max := evenExchange_high
        low_min := evenExchange_low
        volume_nonneg := evenExchange_volume } := by
  have hlength : timeframe.length = timeframe.seconds * 1000 * 1000 := by
    unfold Timeframe.length seconds second
    omega
  -- the times of the row in milliseconds, and those of the candle in microseconds
  have hopen : k * (timeframe.seconds * 1000) * 1000 = candleOpen timeframe k := by
    rw [candleOpen, hlength, mul_assoc k]
  have hclose : ((k + 1) * (timeframe.seconds * 1000) - 1) * 1000 = candleClose timeframe k := by
    rw [candleClose, hlength, ← mul_assoc (k + 1), sub_mul, one_mul,
      mul_assoc (k + 1), mul_assoc (k + 1), mul_assoc]
  exact
    { width := show 7 ≤ 7 by decide
      openTime := by
        show ofInts.fromtimestamp _ = _
        simp only [ofInts, hopen, hopens, if_true]
      «open» := rfl
      high := rfl
      low := rfl
      close := rfl
      volume := rfl
      closeTime := by
        show ofInts.fromtimestamp _ = _
        simp only [ofInts, hclose, hcloses, if_true] }

/-- The exchange whose candles all have the same values, from 1970 on. -/
def evenExchange : Exchange ofInts where
  listed _ _ := 0
  cells _ timeframe k :=
    [.int (k * (timeframe.seconds * 1000)), .int 100, .int 110, .int 90, .int 105, .int 7,
      .int ((k + 1) * (timeframe.seconds * 1000) - 1)]
  values _ _ _ :=
    { «open» := 100
      high := 110
      low := 90
      close := 105
      volume := 7
      positive := evenExchange_positive
      high_max := evenExchange_high
      low_min := evenExchange_low
      volume_nonneg := evenExchange_volume }
  listed_datetime _ timeframe := evenExchange_listed timeframe

/-- So the rows of every answer are read. -/
theorem evenExchange_rows {query : KlineQuery} (hend : isDatetime (query.endTime * 1000) = true) :
    evenExchange.Rows query := by
  intro k hk
  obtain ⟨hopens, hcloses⟩ := evenExchange.datetime_of_mem hend hk
  exact evenExchange_row hopens hcloses

/-- What it answers to a request. -/
def evenAnswer (request : RequestFields) : KlineParams → Except Raised (PyValue × Int) :=
  fun _ => .ok (.sequence (evenExchange.klines (klineQuery request)), 9001000000)

/-- Two closed candles are found of three. -/
theorem newest_closed_candles_halfPastTwo :
    ∃ series, (getOhlcv ofInts 10 {} (halfPastTwo true).toRequestFields
        (evenAnswer (halfPastTwo true).toRequestFields)).2 = .ok series ∧
      series.bars.length = 2 ∧
      Candles evenExchange (halfPastTwo true).toRequestFields 9001000000 0 2 series ∧
      (MarketDataValidator.validate series (halfPastTwo true).toRequestFields).outcome = .valid := by
  -- candle 1 closes at two, so the window is candles 0 and 1
  have hlatest : latestClosed .h1 9000000000 = 1 := by decide
  have hanswer : ∀ query, (klineParams (halfPastTwo true).toRequestFields).Asks query →
      evenAnswer (halfPastTwo true).toRequestFields
        (klineParams (halfPastTwo true).toRequestFields) =
          .ok (.sequence (evenExchange.klines query), 9001000000) := by
    intro query hasks
    rw [hasks.unique (klineParams_asks _)]
    rfl
  have hrows : ∀ query, (klineParams (halfPastTwo true).toRequestFields).Asks query →
      evenExchange.Rows query := by
    intro query hasks
    rw [hasks.unique (klineParams_asks _)]
    exact evenExchange_rows (endTime_datetime (halfPastTwo true).valid.as_of)
  have hhistory : evenExchange.listed (halfPastTwo true).instrument (halfPastTwo true).timeframe ≤
      latestClosed (halfPastTwo true).timeframe (halfPastTwo true).asOf + 1 -
        (halfPastTwo true).minimumBars := by
    show (0 : Int) ≤ latestClosed .h1 9000000000 + 1 - 2
    rw [hlatest]
    decide
  obtain ⟨-, -, series, hseries, hlength, hcandles, hvalid⟩ :=
    newest_closed_candles smallProvider evenExchange (halfPastTwo true) rfl 9001000000 hhistory
      (evenAnswer (halfPastTwo true).toRequestFields) hanswer hrows {} rfl
  have hfirst : latestClosed (halfPastTwo true).timeframe (halfPastTwo true).asOf + 1 -
      (halfPastTwo true).minimumBars = 0 := by
    show latestClosed .h1 9000000000 + 1 - 2 = 0
    rw [hlatest]
    decide
  rw [hfirst] at hcandles
  exact ⟨series, hseries, hlength, hcandles, hvalid (show 3600 ≤ 7200 by decide)⟩

end BinancePublicMarketDataProvider

end Tomiris
