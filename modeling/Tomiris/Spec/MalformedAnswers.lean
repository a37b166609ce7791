import Tomiris.Contracts.Json
import Tomiris.Spec.Lookahead
import Tomiris.Spec.Retries

/-!
# Malformed answers

Which answers make `get_ohlcv` raise something else than a `ProviderError`. The conversions of a row
are within a `try`, but its clause names neither the `OverflowError` nor the `OSError` of a time. The
clause around `json.loads` names its `JSONDecodeError` alone, so bytes that are no text escape. The
clauses around the response name no `DecodingError`, so a content escapes that is not in its
`Content-Encoding`. And the cache cannot tell when an entry expires that no `datetime` is late
enough for.

## Key results

- `parseRows_escapes_iff`: the first row that raises what is not caught
- `normalised_iff`: when nothing but a `ProviderError` is raised
- `undecodable_escapes`: a byte that is no text
-/

namespace Tomiris

namespace Binance

variable {conv : Conversions} {request : RequestFields} {receivedAt : Int}

section Rows

/-- A time of the row is converted with an exception that is not caught. -/
def TimesEscape (conv : Conversions) (raw : PyValue) : Prop :=
  ∃ cells e, raw = .sequence cells ∧ 7 ≤ cells.length ∧ rowTimes conv cells = .error e ∧
    e.isCaught = false

/-- The row is an open candle that is not asked for. -/
def LeftOut (conv : Conversions) (request : RequestFields) (raw : PyValue) : Prop :=
  ∃ cells openTime closeTime, raw = .sequence cells ∧ 7 ≤ cells.length ∧
    rowTimes conv cells = .ok (openTime, closeTime) ∧ request.closedOnly = true ∧
    request.asOf < closeTime

/-- The row is one of a bar that is asked for. -/
def Kept (conv : Conversions) (request : RequestFields) (receivedAt : Int) (raw : PyValue) : Prop :=
  ∃ cells openTime closeTime bar, raw = .sequence cells ∧ 7 ≤ cells.length ∧
    rowTimes conv cells = .ok (openTime, closeTime) ∧
    (request.closedOnly = true → closeTime ≤ request.asOf) ∧
    rowBar conv request receivedAt openTime closeTime cells = .ok bar

/-- The row is read, or left out. -/
def Sound (conv : Conversions) (request : RequestFields) (receivedAt : Int) (raw : PyValue) : Prop :=
  LeftOut conv request raw ∨ Kept conv request receivedAt raw

/-- A row whose times escape ends the call with that exception. -/
theorem parseRow_escapes {raw : PyValue} (h : TimesEscape conv raw) :
    ∃ e, parseRow conv request receivedAt raw = .error (.other e) := by
  obtain ⟨cells, e, rfl, hwidth, htimes, he⟩ := h
  refine ⟨e, ?_⟩
  simp only [parseRow, if_neg (not_lt.mpr hwidth), htimes, onConversionError, he]
  rfl

/-- A row that is left out gives no bar. -/
theorem parseRow_leftOut {raw : PyValue} (h : LeftOut conv request raw) :
    parseRow conv request receivedAt raw = .ok none := by
  obtain ⟨cells, openTime, closeTime, rfl, hwidth, htimes, honly, hopen⟩ := h
  have hnot : ¬ closeTime ≤ request.asOf := not_le.mpr hopen
  simp [parseRow, if_neg (not_lt.mpr hwidth), htimes, honly, hnot]

/-- A row that is kept gives a bar. -/
theorem parseRow_kept {raw : PyValue} (h : Kept conv request receivedAt raw) :
    ∃ bar, parseRow conv request receivedAt raw = .ok (some bar) := by
  obtain ⟨cells, openTime, closeTime, bar, rfl, hwidth, htimes, hclosed, hbar⟩ := h
  refine ⟨bar, ?_⟩
  have hread : ¬ (request.closedOnly && !(decide (closeTime ≤ request.asOf))) = true := by
    simpa using hclosed
  simp only [parseRow, if_neg (not_lt.mpr hwidth), htimes, if_neg hread, hbar]

/-- What one turn of the loop can make of a row. -/
inductive RowFate (conv : Conversions) (request : RequestFields) (receivedAt : Int) (raw : PyValue) :
    Except Raised (Option OHLCVBar) → Prop
  | escapes (e : PyError) : TimesEscape conv raw →
      RowFate conv request receivedAt raw (.error (.other e))
  | rejected (e : ProviderError) : RowFate conv request receivedAt raw (.error (.provider e))
  | leftOut : LeftOut conv request raw → RowFate conv request receivedAt raw (.ok none)
  | kept (bar : OHLCVBar) : Kept conv request receivedAt raw →
      RowFate conv request receivedAt raw (.ok (some bar))

variable (conv request receivedAt) in
/-- Every row has one of the four fates. -/
theorem parseRow_fate (raw : PyValue) :
    RowFate conv request receivedAt raw (parseRow conv request receivedAt raw) := by
  cases raw with
  | sequence cells =>
    -- too short, times that fail, open when only closed ones are wanted, or a bar
    by_cases hwidth : cells.length < 7
    · simp only [parseRow, if_pos hwidth]
      exact .rejected _
    have hwide : 7 ≤ cells.length := not_lt.mp hwidth
    cases htimes : rowTimes conv cells with
    | error e =>
      cases he : e.isCaught with
      | true =>
        simp only [parseRow, if_neg hwidth, htimes, onConversionError, he, if_true]
        exact .rejected _
      | false =>
        simp only [parseRow, if_neg hwidth, htimes, onConversionError, he]
        exact .escapes e ⟨cells, e, rfl, hwide, htimes, he⟩
    | ok times =>
      obtain ⟨openTime, closeTime⟩ := times
      by_cases hopen : (request.closedOnly && !(decide (closeTime ≤ request.asOf))) = true
      · simp only [parseRow, if_neg hwidth, htimes, if_pos hopen]
        simp only [Bool.and_eq_true, Bool.not_eq_true', decide_eq_false_iff_not, not_le] at hopen
        exact .leftOut ⟨cells, openTime, closeTime, rfl, hwide, htimes, hopen⟩
      · simp only [parseRow, if_neg hwidth, htimes, if_neg hopen]
        cases hbar : rowBar conv request receivedAt openTime closeTime cells with
        | error e =>
          simp only [onConversionError, rowBar_error hbar, if_true]
          exact .rejected _
        | ok bar =>
          -- what was not left out has closed
          have hclosed : request.closedOnly = true → closeTime ≤ request.asOf := by
            simpa using hopen
          exact .kept bar ⟨cells, openTime, closeTime, bar, rfl, hwide, htimes, hclosed, hbar⟩
  | none => exact .rejected _
  | bool b => exact .rejected _
  | int i => exact .rejected _
  | float f => exact .rejected _
  | str s => exact .rejected _
  | bytes b => exact .rejected _
  | mapping items => exact .rejected _

/-- An exception leaves a row for its times, and only for them. -/
theorem parseRow_escapes_iff {raw : PyValue} :
    (∃ e, parseRow conv request receivedAt raw = .error (.other e)) ↔ TimesEscape conv raw := by
  constructor
  · rintro ⟨e, h⟩
    have hfate := parseRow_fate conv request receivedAt raw
    rw [h] at hfate
    cases hfate with
    | escapes _ hescapes => exact hescapes
  · exact parseRow_escapes

/-- A row is read without an exception if it is sound, and only then. -/
theorem parseRow_sound_iff {raw : PyValue} :
    (∃ bar, parseRow conv request receivedAt raw = .ok bar) ↔
      Sound conv request receivedAt raw := by
  constructor
  · rintro ⟨bar, h⟩
    have hfate := parseRow_fate conv request receivedAt raw
    rw [h] at hfate
    cases hfate with
    | leftOut hleft => exact .inl hleft
    | kept _ hkept => exact .inr hkept
  · rintro (hleft | hkept)
    · exact ⟨none, parseRow_leftOut hleft⟩
    · obtain ⟨bar, hbar⟩ := parseRow_kept hkept
      exact ⟨some bar, hbar⟩

/-- Of the rows that are read, the kept ones give bars. -/
theorem parseRow_kept_iff {raw : PyValue} {bar : Option OHLCVBar}
    (h : parseRow conv request receivedAt raw = .ok bar) :
    bar.isSome = true ↔ Kept conv request receivedAt raw := by
  have hfate := parseRow_fate conv request receivedAt raw
  rw [h] at hfate
  cases hfate with
  | leftOut hleft =>
    constructor
    · intro hsome
      cases hsome
    -- a row cannot be both left out and kept
    · intro hkept
      obtain ⟨bar, hbar⟩ := parseRow_kept hkept
      rw [hbar] at h
      cases h
  | kept bar hkept => exact ⟨fun _ => hkept, fun _ => rfl⟩

/-- The first row that is not sound raises what is not caught. -/
def RowsEscape (conv : Conversions) (request : RequestFields) (receivedAt : Int)
    (rows : List PyValue) : Prop :=
  ∃ before raw rest, rows = before ++ raw :: rest ∧
    (∀ r ∈ before, Sound conv request receivedAt r) ∧ TimesEscape conv raw

/-- The loop stops at the first row that escapes, behind sound ones. -/
theorem rowsEscape_cons {raw : PyValue} {rest : List PyValue} :
    RowsEscape conv request receivedAt (raw :: rest) ↔ TimesEscape conv raw ∨
      Sound conv request receivedAt raw ∧ RowsEscape conv request receivedAt rest := by
  constructor
  · rintro ⟨before, raw', rest', hrows, hsound, hescapes⟩
    -- the row that escapes is the first one, or one behind sound rows
    cases before with
    | nil =>
      cases hrows
      exact .inl hescapes
    | cons first before =>
      cases hrows
      rw [List.forall_mem_cons] at hsound
      exact .inr ⟨hsound.1, before, raw', rest', rfl, hsound.2, hescapes⟩
  · rintro (hescapes | ⟨hraw, before, raw', rest', rfl, hsound, hescapes⟩)
    · exact ⟨[], raw, rest, rfl, by simp, hescapes⟩
    · exact ⟨raw :: before, raw', rest', rfl, List.forall_mem_cons.mpr ⟨hraw, hsound⟩, hescapes⟩

/-- Which rows make the loop raise what is not caught. -/
theorem parseRows_escapes_iff {rows : List PyValue} :
    (∃ e, parseRows conv request receivedAt rows = .error (.other e)) ↔
      RowsEscape conv request receivedAt rows := by
  induction rows with
  | nil =>
    constructor
    · intro h
      simp [parseRows] at h
    · rintro ⟨before, raw, rest, h, -⟩
      simp at h
  | cons raw rest ih =>
    have hraw : TimesEscape conv raw ↔ ∃ e, parseRow conv request receivedAt raw = .error (.other e) :=
      parseRow_escapes_iff.symm
    rw [rowsEscape_cons, ← ih, hraw, ← parseRow_sound_iff, parseRows]
    -- the first row raises, or the loop goes on
    cases parseRow conv request receivedAt raw with
    | error e => simp
    | ok bar =>
      cases parseRows conv request receivedAt rest with
      | error e => simp
      | ok bars => simp

/-- Which rows make the loop come to its end. -/
theorem parseRows_ok_iff {rows : List PyValue} :
    (∃ bars, parseRows conv request receivedAt rows = .ok bars) ↔
      ∀ raw ∈ rows, Sound conv request receivedAt raw := by
  induction rows with
  | nil => simp [parseRows]
  | cons raw rest ih =>
    rw [List.forall_mem_cons, ← ih, ← parseRow_sound_iff, parseRows]
    cases parseRow conv request receivedAt raw with
    | error e => simp
    | ok bar =>
      cases parseRows conv request receivedAt rest with
      | error e => simp
      | ok bars => simp

/-- Which of them leave it with bars. -/
theorem parseRows_bars_iff {rows : List PyValue} {bars : List OHLCVBar}
    (h : parseRows conv request receivedAt rows = .ok bars) :
    bars ≠ [] ↔ ∃ raw ∈ rows, Kept conv request receivedAt raw := by
  induction rows generalizing bars with
  | nil =>
    cases h
    simp
  | cons raw rest ih =>
    rw [parseRows] at h
    split at h
    · cases h
    rename_i bar hbar
    split at h
    · cases h
    rename_i bars' hrest
    cases h
    rw [List.exists_mem_cons_iff, ← ih hrest, ← parseRow_kept_iff hbar]
    -- the first row is left out, or its bar is kept
    cases bar with
    | none => simp
    | some bar => simp

end Rows

section Answer

variable {settings : BinanceProviderSettings} {decoders : Decoders}

/-- Nothing is raised on the content but `ProviderError`s. -/
structure Normalised (conv : Conversions) (settings : BinanceProviderSettings) (decoders : Decoders)
    (request : RequestFields) (receivedAt : Int) (content : List UInt8) (decodes : Bool) :
    Prop where
  decodes : decodes = true
  loads : ∀ e, decoders.loads content ≠ .error (.other e)
  times : ∀ rows, decoders.loads content = .ok (.sequence rows) →
    ¬ RowsEscape conv request receivedAt rows
  expires : ∀ rows, decoders.loads content = .ok (.sequence rows) →
    (∀ raw ∈ rows, Sound conv request receivedAt raw) →
    (∃ raw ∈ rows, Kept conv request receivedAt raw) →
    isDatetime (request.asOf + seconds settings.cacheTtlSeconds) = true

/-- On a list of rows. -/
theorem normalised_rows_iff {rows : List PyValue} {content : List UInt8}
    (hloads : decoders.loads content = .ok (.sequence rows)) :
    Normalised conv settings decoders request receivedAt content true ↔
      ¬ RowsEscape conv request receivedAt rows ∧
        ((∀ raw ∈ rows, Sound conv request receivedAt raw) →
          (∃ raw ∈ rows, Kept conv request receivedAt raw) →
          isDatetime (request.asOf + seconds settings.cacheTtlSeconds) = true) := by
  constructor
  · intro h
    exact ⟨h.times rows hloads, h.expires rows hloads⟩
  -- the content decodes and loads as these rows
  · rintro ⟨htimes, hexpires⟩
    refine ⟨rfl, ?_, ?_, ?_⟩
    · intro e he
      rw [hloads] at he
      cases he
    · intro rows' h
      rw [hloads] at h
      cases h
      exact htimes
    · intro rows' h
      rw [hloads] at h
      cases h
      exact hexpires

/-- On everything else. -/
theorem normalised_of_loads {content : List UInt8}
    (hrows : ∀ rows, decoders.loads content ≠ .ok (.sequence rows))
    (hloads : ∀ e, decoders.loads content ≠ .error (.other e)) :
    Normalised conv settings decoders request receivedAt content true :=
  ⟨rfl, hloads, fun rows h => absurd h (hrows rows), fun rows h => absurd h (hrows rows)⟩

/-- What the first attempt makes of a 200 with a content that is not too long. -/
def readContent (decoders : Decoders) (content : List UInt8) (decodes : Bool) :
    Except Raised PyValue :=
  if decodes = false then .error (.other .decodingError) else readJson decoders content

/-- The call ends with it. -/
theorem requestJson_content {outcomes : Nat → Option HttpOutcome} {random : Nat → RandomValue}
    {retryAfter : Option String} {content : List UInt8} {decodes : Bool}
    (houtcome : outcomes 1 = some (.response 200 retryAfter content decodes))
    (hsize : content.length ≤ settings.maxResponseBytes) :
    (requestJson settings decoders outcomes random).result =
      some (readContent decoders content decodes) := by
  -- the first attempt decides, and there is one
  obtain ⟨left, hleft⟩ : ∃ left, settings.maxAttempts = left + 1 :=
    ⟨settings.maxAttempts - 1, by have := settings.max_attempts; omega⟩
  unfold requestJson readContent
  rw [hleft, attempts, houtcome]
  -- bytes that do not decode, and JSON that is read or not
  cases decodes with
  | false =>
    have hattempt : attempt settings decoders (.response 200 retryAfter content false) =
        .raised (.other .decodingError) := by
      simp [attempt, isErrorStatus, not_lt.mpr hsize]
    simp only [hattempt, if_true]
  | true =>
    simp only [Bool.true_eq_false, if_false]
    cases hread : readJson decoders content with
    | ok payload =>
      have hattempt : attempt settings decoders (.response 200 retryAfter content true) =
          .returned payload := by
        simp [attempt, isErrorStatus, not_lt.mpr hsize, hread]
      simp only [hattempt]
    | error e =>
      have hattempt : attempt settings decoders (.response 200 retryAfter content true) =
          .raised e := by
        simp [attempt, isErrorStatus, not_lt.mpr hsize, hread]
      simp only [hattempt]

/-- The cache raises if the expiry of the entry is no datetime. -/
theorem putChecked_raises_iff (cache : InMemoryMarketDataCache MarketDataSeries)
    (series : MarketDataSeries) {cacheTtlSeconds : Nat} :
    (∀ e, (putChecked cacheTtlSeconds cache request series).2 ≠ .error (.other e)) ↔
      isDatetime (request.asOf + seconds cacheTtlSeconds) = true := by
  unfold putChecked
  simp only
  split
  · rename_i hdatetime
    simp [hdatetime]
  · rename_i hdatetime
    split
    · simp [hdatetime]
    · simp [hdatetime]

/-- What can be read from the rows. -/
inductive KlinesFate (conv : Conversions) (request : RequestFields) (receivedAt : Int)
    (rows : List PyValue) : Except Raised MarketDataSeries → Prop
  | escapes (e : PyError) : RowsEscape conv request receivedAt rows →
      KlinesFate conv request receivedAt rows (.error (.other e))
  | rejected (e : ProviderError) : ¬ RowsEscape conv request receivedAt rows →
      ((∀ raw ∈ rows, Sound conv request receivedAt raw) →
        ¬ ∃ raw ∈ rows, Kept conv request receivedAt raw) →
      KlinesFate conv request receivedAt rows (.error (.provider e))
  | read (series : MarketDataSeries) : ¬ RowsEscape conv request receivedAt rows →
      (∀ raw ∈ rows, Sound conv request receivedAt raw) →
      (∃ raw ∈ rows, Kept conv request receivedAt raw) →
      KlinesFate conv request receivedAt rows (.ok series)

/-- Every list of rows has one of the fates. -/
theorem readKlines_fate (hvalid : request.Valid) (rows : List PyValue) :
    KlinesFate conv request receivedAt rows
      (readKlines conv request (.sequence rows) receivedAt) := by
  have hescapes := @parseRows_escapes_iff conv request receivedAt rows
  have hsound := @parseRows_ok_iff conv request receivedAt rows
  unfold readKlines
  cases hparsed : parseRows conv request receivedAt rows with
  | error e =>
    rw [hparsed] at hescapes hsound
    simp only [hparsed]
    cases e with
    | provider e =>
      refine .rejected e (by rw [← hescapes]; simp) ?_
      intro hall
      obtain ⟨bars, h⟩ := hsound.mpr hall
      cases h
    | other e => exact .escapes e (hescapes.mp ⟨e, rfl⟩)
  | ok bars =>
    rw [hparsed] at hescapes
    have hbars := parseRows_bars_iff hparsed
    have hnone : ¬ RowsEscape conv request receivedAt rows := by
      rw [← hescapes]
      simp
    simp only [hparsed]
    -- the loop may drop every row, and an empty series is turned down
    by_cases hempty : bars = []
    · rw [if_pos (by simpa using hempty)]
      exact .rejected _ hnone fun _ hkept => hbars.mpr hkept hempty
    · obtain ⟨hfields, hmade⟩ := makeSeries_ok hvalid hparsed hempty
      rw [if_neg (by simpa using hempty), hmade]
      exact .read _ hnone (hsound.mp ⟨bars, hparsed⟩) (hbars.mp hempty)

/-- When `get_ohlcv` raises nothing but `ProviderError`s on a cold cache. -/
theorem normalised_iff (conv : Conversions) (settings : BinanceProviderSettings)
    (decoders : Decoders) (cache : InMemoryMarketDataCache MarketDataSeries)
    (request : MarketDataRequest)
    (hcold : (cache.get (cacheKey request.toRequestFields) request.asOf).2 = none)
    (outcomes : Nat → Option HttpOutcome) (retryAfter : Option String) (content : List UInt8)
    (decodes : Bool) (houtcome : outcomes 1 = some (.response 200 retryAfter content decodes))
    (hsize : content.length ≤ settings.maxResponseBytes) (random : Nat → RandomValue) (now : Int) :
    (∃ result, getOhlcvHttp conv settings decoders cache request.toRequestFields outcomes random now =
        some result ∧ ∀ e, result ≠ .error (.other e)) ↔
      Normalised conv settings decoders request.toRequestFields now content decodes := by
  have hcache : cache.get (cacheKey request.toRequestFields) request.asOf =
      ((cache.get (cacheKey request.toRequestFields) request.asOf).1, none) := by
    rw [← hcold]
  -- the one attempt answers, and what is left is the content
  unfold getOhlcvHttp
  rw [hcold, requestJson_content houtcome hsize]
  simp only [Option.map_some, Option.some.injEq, exists_eq_left']
  unfold getOhlcvChecked fetch
  rw [hcache]
  by_cases hdecodes : decodes = false
  · subst hdecodes
    have hescapes :
        ¬ Normalised conv settings decoders request.toRequestFields now content false :=
      fun h => Bool.false_ne_true h.decodes
    simp [readContent, Except.map, hescapes]
  rw [Bool.not_eq_false] at hdecodes
  subst hdecodes
  simp only [readContent, Bool.true_eq_false, if_false]
  unfold readJson
  cases hloads : decoders.loads content with
  | error e =>
    cases e with
    | jsonDecodeError =>
      have hnormalised : Normalised conv settings decoders request.toRequestFields now content true :=
        normalised_of_loads (by simp [hloads]) (by simp [hloads])
      simp [Except.map, schemaError, hnormalised]
    | other e =>
      have hescapes : ¬ Normalised conv settings decoders request.toRequestFields now content true :=
        fun h => h.loads e hloads
      simp [Except.map, hescapes]
  | ok payload =>
    simp only [Except.map]
    cases payload with
    | sequence rows =>
      -- the rows raise, or are turned down, or the series goes into the cache
      rw [normalised_rows_iff hloads]
      have hfate := @readKlines_fate conv request.toRequestFields now request.valid rows
      revert hfate
      cases readKlines conv request.toRequestFields (.sequence rows) now with
      | error e =>
        intro hfate
        cases hfate with
        | escapes e hescapes => simp [hescapes]
        | rejected e hnone hunread =>
          constructor
          · intro _
            exact ⟨hnone, fun hall hkept => absurd hkept (hunread hall)⟩
          · intro _ e' he'
            cases he'
      | ok series =>
        intro hfate
        cases hfate with
        | read _ hnone hall hkept =>
          rw [putChecked_raises_iff]
          constructor
          · intro hexpires
            exact ⟨hnone, fun _ _ => hexpires⟩
          · rintro ⟨-, hexpires⟩
            exact hexpires hall hkept
    | _ =>
      -- no list: `PROVIDER_SCHEMA_ERROR`
      have hnormalised : Normalised conv settings decoders request.toRequestFields now content true :=
        normalised_of_loads (by simp [hloads]) (by simp [hloads])
      simp [readKlines, schemaError, hnormalised]

open BinancePublicMarketDataProvider

/-- A good row, and one without prices. -/
def brokenRows : List PyValue :=
  [hourCandle 0, .sequence [.int 3600000, .none, .none, .none, .none, .none, .int 7199999]]

/-- The body that they are sent as. -/
def brokenBody : List UInt8 := Json.utf8 (PyValue.json (fun _ => "") (.sequence brokenRows))

/-- A standard library that reads this body, and knows bytes that are no text. -/
def klineDecoders : Decoders where
  loads content :=
    if content = brokenBody then .ok (.sequence brokenRows)
    else if content.any (fun byte => 128 ≤ byte) then .error (.other .valueError)
    else .error .jsonDecodeError
  float _ := none

/-- A server that answers with the content, which it does not encode. -/
def answers200 (content : List UInt8) : Nat → Option HttpOutcome :=
  fun _ => some (.response 200 none content true)

/-- A body with a broken row: `get_ohlcv` ends without another exception. -/
theorem normalised_iff_brokenRows :
    ∃ result, getOhlcvHttp ofInts defaultSettings klineDecoders {}
        (halfPastTwo true).toRequestFields (answers200 brokenBody) noJitter 9001000000 =
          some result ∧
      ∀ e, result ≠ .error (.other e) := by
  have hloads : klineDecoders.loads brokenBody = .ok (.sequence brokenRows) := by
    simp only [klineDecoders, if_true]
  have hescapes : ¬ RowsEscape ofInts (halfPastTwo true).toRequestFields 9001000000 brokenRows := by
    rw [← parseRows_escapes_iff]
    rintro ⟨e, he⟩
    -- `Decimal("None")` is what the clause around a row is there for
    have hrejected : (parseRows ofInts (halfPastTwo true).toRequestFields 9001000000
        brokenRows).map List.length = .error (schemaError "invalid kline value") := by
      decide +kernel
    rw [he] at hrejected
    cases hrejected
  exact (normalised_iff ofInts defaultSettings klineDecoders {} (halfPastTwo true) rfl
    (answers200 brokenBody) none brokenBody true rfl (by decide +kernel) noJitter
    9001000000).mpr ((normalised_rows_iff hloads).mpr ⟨hescapes, fun _ _ => by decide⟩)

/-- A content that is no gzip, as its `Content-Encoding` says, is raised by no clause. -/
example : getOhlcvHttp ofInts defaultSettings klineDecoders {} (halfPastTwo true).toRequestFields
    (fun _ => some (.response 200 none [] false)) noJitter 9001000000 =
      some (.error (.other .decodingError)) := rfl

/-- A byte that is no text. -/
theorem undecodable_escapes :
    getOhlcvHttp ofInts defaultSettings klineDecoders {} (halfPastTwo true).toRequestFields
        (answers200 [255]) noJitter 9001000000 = some (.error (.other .valueError)) ∧
      ¬ ∃ result, getOhlcvHttp ofInts defaultSettings klineDecoders {}
          (halfPastTwo true).toRequestFields (answers200 [255]) noJitter 9001000000 = some result ∧
        ∀ e, result ≠ .error (.other e) := by
  have hescapes : getOhlcvHttp ofInts defaultSettings klineDecoders {}
      (halfPastTwo true).toRequestFields (answers200 [255]) noJitter 9001000000 =
        some (.error (.other .valueError)) := rfl
  refine ⟨hescapes, ?_⟩
  rintro ⟨result, hresult, hnormalised⟩
  rw [hescapes] at hresult
  cases hresult
  exact hnormalised .valueError rfl

end Answer

end Binance

end Tomiris
