import Mathlib.Data.List.Induction
import Tomiris.ForStd.Except
import Tomiris.MarketData.Binance

/-!
# Reading klines

What the loop over the rows of an answer depends on. The time of receipt goes through it
unchanged; with `closed_only` a row that closes after the cutoff leaves no trace, whatever its
prices are; and without it the same loop finds the same bars, the open ones among them.

## Key results

- `readKlines_erase`: series of one answer are equal up to `received_at`
- `parseRows_closed`: only the rows that close by the cutoff are read
- `parseRows_filter`: the closed bars of all bars
- `readKlines_closedOnly_iff`: when `closed_only` makes no difference
-/

namespace Tomiris

/-- The fields without the time of receipt. -/
def BarFields.erase {N : Type} (b : BarFields N) : BarFields N := { b with receivedAt := 0 }

/-- No validator of a bar looks at the time of receipt. -/
theorem BarFields.Valid.erase {b : BarFields Rat} (h : b.Valid) : b.erase.Valid :=
  ⟨h.provider, h.instrument, h.freshness, h.provenance, h.datetimes, h.times, h.positive, h.high_max,
    h.low_min, h.volume⟩

/-- In either direction. -/
theorem BarFields.Valid.of_erase {b : BarFields Rat} (h : b.erase.Valid) : b.Valid :=
  ⟨h.provider, h.instrument, h.freshness, h.provenance, h.datetimes, h.times, h.positive, h.high_max,
    h.low_min, h.volume⟩

/-- A bar without its time of receipt. -/
def OHLCVBar.erase (b : OHLCVBar) : OHLCVBar := ⟨b.toBarFields.erase, b.valid.erase⟩

def SeriesFields.erase (s : SeriesFields) : SeriesFields :=
  { s with bars := s.bars.map OHLCVBar.erase }

/-- Nor does one of a series. -/
theorem SeriesFields.Valid.erase {s : SeriesFields} (h : s.Valid) : s.erase.Valid := by
  refine ⟨h.provider, h.instrument, ?_, ?_⟩
  · have hbars := h.bars
    rwa [SeriesFields.erase, List.length_map]
  · intro b hb
    obtain ⟨bar, hbar, rfl⟩ := List.mem_map.mp hb
    exact h.identity bar hbar

/-- In either direction. -/
theorem SeriesFields.Valid.of_erase {s : SeriesFields} (h : s.erase.Valid) : s.Valid := by
  refine ⟨h.provider, h.instrument, ?_, ?_⟩
  · have hbars := h.bars
    rwa [SeriesFields.erase, List.length_map] at hbars
  · intro b hb
    exact h.identity b.erase (List.mem_map_of_mem hb)

/-- A series without its times of receipt. -/
def MarketDataSeries.erase (s : MarketDataSeries) : MarketDataSeries :=
  ⟨s.toSeriesFields.erase, s.valid.erase⟩

namespace Binance

variable {conv : Conversions} {request : RequestFields} {receivedAt : Int}

section Erase

/-- Nor does the check for finite prices. -/
theorem finite?_erase (fields : BarFields PyDecimal) :
    fields.erase.finite? = fields.finite?.map BarFields.erase := by
  simp [BarFields.finite?, BarFields.erase, Option.map_bind, Function.comp_def]

/-- So a bar is made or refused alike. -/
theorem makeBar_erase (fields : BarFields PyDecimal) :
    makeBar fields.erase = (makeBar fields).map OHLCVBar.erase := by
  unfold makeBar
  rw [finite?_erase]
  cases fields.finite? with
  | none => rfl
  | some b =>
    simp only [Option.map_some]
    by_cases h : b.Valid
    · rw [dif_pos h, dif_pos h.erase]
      rfl
    · rw [dif_neg h, dif_neg fun h' => h h'.of_erase]
      rfl

variable (receivedAt)

/-- A row is read alike. -/
theorem rowBar_erase (openTime closeTime : Int) (cells : List PyValue) :
    rowBar conv request 0 openTime closeTime cells =
      (rowBar conv request receivedAt openTime closeTime cells).map OHLCVBar.erase := by
  have hmake : ∀ prices volume, makeBar (barFields request 0 openTime closeTime prices volume) =
      (makeBar (barFields request receivedAt openTime closeTime prices volume)).map
        OHLCVBar.erase := fun prices volume =>
    makeBar_erase (barFields request receivedAt openTime closeTime prices volume)
  unfold rowBar
  simp only [hmake]
  -- the five cells are converted in order, and the first failure is the row's
  cases conv.decimal (cells.getD 1 .none) with
  | error e => rfl
  | ok «open» =>
  cases conv.decimal (cells.getD 2 .none) with
  | error e => rfl
  | ok high =>
  cases conv.decimal (cells.getD 3 .none) with
  | error e => rfl
  | ok low =>
  cases conv.decimal (cells.getD 4 .none) with
  | error e => rfl
  | ok close =>
  cases conv.decimal (cells.getD 5 .none) with
  | error e => rfl
  | ok volume => rfl

/-- Or left out. -/
theorem parseRow_erase (raw : PyValue) : parseRow conv request 0 raw =
    (parseRow conv request receivedAt raw).map (Option.map OHLCVBar.erase) := by
  unfold parseRow
  split
  · split
    · rfl
    · split
      · rfl
      -- only the bar has a time of receipt
      · rename_i openTime closeTime _
        split
        · rfl
        · rw [rowBar_erase receivedAt]
          cases rowBar conv request receivedAt openTime closeTime _ <;> rfl
  · rfl

/-- So are all rows. -/
theorem parseRows_erase (rows : List PyValue) : parseRows conv request 0 rows =
    (parseRows conv request receivedAt rows).map (List.map OHLCVBar.erase) := by
  induction rows with
  | nil => rfl
  | cons raw rest ih =>
    rw [parseRows, parseRows, parseRow_erase receivedAt, ih]
    cases parseRow conv request receivedAt raw with
    | error e => rfl
    | ok bar =>
      cases parseRows conv request receivedAt rest with
      | error e => rfl
      | ok bars => cases bar <;> rfl

/-- The last of them are the same ones. -/
theorem seriesFields_erase (bars : List OHLCVBar) :
    seriesFields request (bars.map OHLCVBar.erase) = (seriesFields request bars).erase := by
  unfold seriesFields SeriesFields.erase
  rw [List.map_rtake]

/-- And the series is. -/
theorem makeSeries_erase (bars : List OHLCVBar) : makeSeries request (bars.map OHLCVBar.erase) =
    (makeSeries request bars).map MarketDataSeries.erase := by
  unfold makeSeries
  simp only [seriesFields_erase]
  by_cases h : (seriesFields request bars).Valid
  · rw [dif_pos h, dif_pos h.erase]
    rfl
  · rw [dif_neg h, dif_neg fun h' => h h'.of_erase]
    rfl

/-- Series of one answer are equal up to the time of receipt. -/
theorem readKlines_erase (payload : PyValue) : readKlines conv request payload 0 =
    (readKlines conv request payload receivedAt).map MarketDataSeries.erase := by
  unfold readKlines
  split
  · rename_i rows
    rw [parseRows_erase receivedAt]
    cases parseRows conv request receivedAt rows with
    | error e => rfl
    -- the bars differ in their time of receipt
    | ok bars =>
      simp only [Except.map, List.isEmpty_map]
      split
      · rfl
      · exact makeSeries_erase bars
  · rfl

end Erase

section Rows

/-- What a row is that is parsed. -/
inductive RowParsed (conv : Conversions) (request : RequestFields) (receivedAt : Int)
    (raw : PyValue) : Option OHLCVBar → Prop
  | skipped {cells : List PyValue} {openTime closeTime : Int} :
      raw = .sequence cells → rowTimes conv cells = .ok (openTime, closeTime) →
      request.closedOnly = true → request.asOf < closeTime → RowParsed conv request receivedAt raw none
  | bar {cells : List PyValue} {openTime closeTime : Int} {bar : OHLCVBar} :
      raw = .sequence cells → rowTimes conv cells = .ok (openTime, closeTime) →
      (request.closedOnly = true → closeTime ≤ request.asOf) →
      rowBar conv request receivedAt openTime closeTime cells = .ok bar →
      RowParsed conv request receivedAt raw (some bar)

/-- What is known of a row that was read. -/
theorem parseRow_ok {raw : PyValue} {bar : Option OHLCVBar}
    (h : parseRow conv request receivedAt raw = .ok bar) :
    RowParsed conv request receivedAt raw bar := by
  unfold parseRow at h
  split at h
  · rename_i cells
    split at h
    · cases h
    split at h
    · cases h
    rename_i openTime closeTime htimes
    split at h
    -- open, and only closed ones are wanted
    · rename_i hopen
      cases h
      simp only [Bool.and_eq_true, Bool.not_eq_true', decide_eq_false_iff_not, not_le] at hopen
      exact .skipped rfl htimes hopen.1 hopen.2
    · rename_i hclosed
      split at h
      · cases h
      rename_i b hb
      cases h
      refine .bar rfl htimes ?_ hb
      intro honly
      simpa [honly] using hclosed
  · cases h

/-- The conversion of prices keeps the other fields. -/
theorem finite?_fields {fields : BarFields PyDecimal} {b : BarFields Rat}
    (h : fields.finite? = some b) : b.provider = fields.provider ∧
      b.instrument = fields.instrument ∧ b.timeframe = fields.timeframe ∧
      b.closeTime = fields.closeTime ∧ b.closed = fields.closed ∧
      b.receivedAt = fields.receivedAt := by
  simp only [BarFields.finite?, Option.bind_eq_bind, Option.bind_eq_some_iff, pure,
    Option.some.injEq] at h
  obtain ⟨_, _, _, _, _, _, _, _, _, _, rfl⟩ := h
  exact ⟨rfl, rfl, rfl, rfl, rfl, rfl⟩

/-- A bar carries the data of its request and its answer. -/
theorem rowBar_fields {openTime closeTime : Int} {cells : List PyValue} {bar : OHLCVBar}
    (h : rowBar conv request receivedAt openTime closeTime cells = .ok bar) :
    bar.provider = name ∧ bar.instrument = request.instrument ∧
      bar.timeframe = request.timeframe ∧ bar.closeTime = closeTime ∧
      bar.closed = decide (closeTime ≤ request.asOf) ∧ bar.receivedAt = receivedAt := by
  unfold rowBar at h
  -- the five cells were converted, and the bar was validated
  obtain ⟨«open», -, h⟩ := Except.bind_eq_ok.mp h
  obtain ⟨high, -, h⟩ := Except.bind_eq_ok.mp h
  obtain ⟨low, -, h⟩ := Except.bind_eq_ok.mp h
  obtain ⟨close, -, h⟩ := Except.bind_eq_ok.mp h
  obtain ⟨volume, -, h⟩ := Except.bind_eq_ok.mp h
  unfold makeBar at h
  split at h
  · cases h
  · rename_i b hb
    split at h
    · cases h
      exact finite?_fields hb
    · cases h

/-- What all bars of an answer have in common. -/
theorem parseRows_fields {rows : List PyValue} {bars : List OHLCVBar}
    (h : parseRows conv request receivedAt rows = .ok bars) : ∀ bar ∈ bars,
      bar.provider = name ∧ bar.instrument = request.instrument ∧
        bar.timeframe = request.timeframe ∧
        bar.closed = decide (bar.closeTime ≤ request.asOf) ∧ bar.receivedAt = receivedAt := by
  -- over the rows: a bar is of the first one or of a later one
  induction rows generalizing bars with
  | nil =>
    cases h
    simp
  | cons raw rest ih =>
    rw [parseRows] at h
    split at h
    · cases h
    rename_i parsed hparsed
    split at h
    · cases h
    rename_i bars' hrest
    cases h
    intro bar hbar
    rcases List.mem_append.mp hbar with hbar | hbar
    · cases parseRow_ok hparsed with
      | skipped => cases hbar
      | bar _ _ _ hrow =>
        rw [Option.toList_some, List.mem_singleton] at hbar
        subst hbar
        obtain ⟨h₁, h₂, h₃, rfl, h₅, h₆⟩ := rowBar_fields hrow
        exact ⟨h₁, h₂, h₃, h₅, h₆⟩
    · exact ih hrest bar hbar

/-- A series is built from any bars, so `MarketDataSeries` raises nothing. -/
theorem makeSeries_ok (hvalid : request.Valid) {rows : List PyValue} {bars : List OHLCVBar}
    (h : parseRows conv request receivedAt rows = .ok bars) (hne : bars ≠ []) :
    ∃ hfields, makeSeries request bars = .ok ⟨seriesFields request bars, hfields⟩ := by
  have hfields : (seriesFields request bars).Valid := by
    have hminimum := hvalid.minimum_bars
    have hpos : 0 < bars.length := List.length_pos_of_ne_nil hne
    refine ⟨show boundedText 64 name = true by decide, hvalid.instrument, ?_, ?_⟩
    · rw [seriesFields, List.rtake, List.length_drop]
      omega
    · intro b hb
      obtain ⟨h₁, h₂, h₃, -, -⟩ := parseRows_fields h b (List.mem_of_mem_drop hb)
      exact ⟨h₁, h₂, h₃⟩
  exact ⟨hfields, dif_pos hfields⟩

end Rows

section Cutoff

/-- The row names both of its times. -/
def isTimed (conv : Conversions) : PyValue → Bool
  | .sequence cells => 7 ≤ cells.length && (rowTimes conv cells).toBool
  | _ => false

/-- The row closes at or before the cutoff. -/
def closesBy (conv : Conversions) (asOf : Int) : PyValue → Bool
  | .sequence cells =>
    match rowTimes conv cells with
    | .ok (_, closeTime) => closeTime ≤ asOf
    | .error _ => false
  | _ => false

/-- A row that closes later is left out, whatever its prices are. -/
theorem parseRow_open (honly : request.closedOnly = true) {raw : PyValue}
    (htimed : isTimed conv raw = true) (hopen : closesBy conv request.asOf raw = false) :
    parseRow conv request receivedAt raw = .ok none := by
  cases raw with
  | sequence cells =>
    simp only [isTimed, Bool.and_eq_true, decide_eq_true_eq] at htimed
    obtain ⟨hlen, htimes⟩ := htimed
    simp only [parseRow, if_neg (not_lt.mpr hlen)]
    -- its times are there, and the comparison stops before the prices
    cases hrow : rowTimes conv cells with
    | error e =>
      rw [hrow] at htimes
      cases htimes
    | ok times =>
      obtain ⟨openTime, closeTime⟩ := times
      simp only [closesBy, hrow] at hopen
      simp [honly, hopen]
  | _ => cases htimed

/-- Only the rows that close by the cutoff are read. -/
theorem parseRows_closed (honly : request.closedOnly = true) {rows : List PyValue}
    (htimed : ∀ raw ∈ rows, isTimed conv raw = true) : parseRows conv request receivedAt rows =
      parseRows conv request receivedAt (rows.filter (closesBy conv request.asOf)) := by
  induction rows with
  | nil => rfl
  | cons raw rest ih =>
    rw [List.forall_mem_cons] at htimed
    rw [parseRows, ih htimed.2]
    cases hcloses : closesBy conv request.asOf raw with
    | false =>
      rw [parseRow_open honly htimed.1 hcloses, List.filter_cons_of_neg (by simp [hcloses])]
      cases parseRows conv request receivedAt (rest.filter (closesBy conv request.asOf)) <;> rfl
    | true =>
      rw [List.filter_cons_of_pos hcloses, parseRows]

end Cutoff

section ClosedOnly

/-- The request with another `closed_only`. -/
def withClosedOnly (request : RequestFields) (closedOnly : Bool) : RequestFields :=
  { request with closedOnly := closedOnly }

/-- With `closed_only` the bars are the closed ones of those without. -/
theorem parseRow_filter {raw : PyValue} {bar : Option OHLCVBar}
    (h : parseRow conv (withClosedOnly request false) receivedAt raw = .ok bar) :
    parseRow conv (withClosedOnly request true) receivedAt raw =
      .ok (bar.filter (fun b => b.closed)) := by
  cases parseRow_ok h with
  | skipped _ _ honly => cases honly
  | @bar cells openTime closeTime b hraw htimes _ hrow =>
    subst hraw
    have hclosed : b.closed = decide (closeTime ≤ request.asOf) := (rowBar_fields hrow).2.2.2.2.1
    -- the bar itself does not depend on `closed_only`
    have hrow' : rowBar conv (withClosedOnly request true) receivedAt openTime closeTime cells =
        .ok b := hrow
    unfold parseRow at h ⊢
    simp only at h ⊢
    split at h
    · cases h
    · rename_i hlen
      rw [if_neg hlen, htimes]
      simp only [hrow']
      -- closed by the cutoff: kept by both; otherwise skipped, or filtered out
      by_cases hle : closeTime ≤ request.asOf
      · simp [withClosedOnly, hle, Option.filter_some, hclosed]
      · simp [withClosedOnly, hle, Option.filter_some, hclosed]

/-- With `closed_only` the loop finds the closed ones of all bars. -/
theorem parseRows_filter {rows : List PyValue} {bars : List OHLCVBar}
    (h : parseRows conv (withClosedOnly request false) receivedAt rows = .ok bars) :
    parseRows conv (withClosedOnly request true) receivedAt rows =
      .ok (bars.filter (fun b => b.closed)) := by
  induction rows generalizing bars with
  | nil =>
    cases h
    rfl
  | cons raw rest ih =>
    rw [parseRows] at h
    split at h
    · cases h
    rename_i parsed hparsed
    split at h
    · cases h
    rename_i bars' hrest
    cases h
    rw [parseRows, parseRow_filter hparsed, ih hrest]
    -- the bar of the first row passes the filter or not
    cases parsed with
    | none => rfl
    | some b =>
      cases hb : b.closed with
      | false => simp [Option.filter_some, hb]
      | true => simp [Option.filter_some, hb]

/-- All rows of the answer are well formed, and the bars that are taken are closed. -/
def Settled (conv : Conversions) (request : RequestFields) (payload : PyValue) : Prop :=
  ∃ rows bars, payload = .sequence rows ∧
    parseRows conv (withClosedOnly request false) 0 rows = .ok bars ∧
    ∀ b ∈ bars.rtake request.minimumBars, b.closed = true

/-- An answer whose newest bars are closed is the same with and without `closed_only`. -/
theorem settled_same {payload : PyValue} (h : Settled conv request payload)
    (hminimum : 1 ≤ request.minimumBars) :
    readKlines conv (withClosedOnly request true) payload 0 =
      readKlines conv (withClosedOnly request false) payload 0 := by
  obtain ⟨rows, bars, rfl, hparsed, hclosed⟩ := h
  unfold readKlines
  simp only [hparsed, parseRows_filter hparsed]
  have htaken := List.rtake_filter hclosed
  -- the newest bar is closed, so the filter leaves something
  have hempty : (bars.filter (fun b => b.closed)).isEmpty = bars.isEmpty := by
    cases bars using List.reverseRecOn with
    | nil => rfl
    | append_singleton front b =>
      have hb : b.closed = true := by
        refine hclosed b ?_
        rw [List.rtake, List.length_append, List.length_singleton,
          List.drop_append_of_le_length (by omega)]
        simp
      have hlast : [b].filter (fun b => b.closed) = [b] := List.filter_cons_of_pos hb
      rw [List.filter_append, hlast, List.isEmpty_eq_false_iff.mpr (by simp),
        List.isEmpty_eq_false_iff.mpr (by simp)]
  rw [hempty]
  split
  · rfl
  · have hfields : seriesFields (withClosedOnly request true) (bars.filter (fun b => b.closed)) =
        seriesFields (withClosedOnly request false) bars := by
      unfold seriesFields
      simp only [withClosedOnly, htaken]
    simp only [makeSeries, hfields]

/-- A series that was read is made of the last bars of its answer. -/
theorem readKlines_ok {payload : PyValue} {series : MarketDataSeries}
    (h : readKlines conv request payload receivedAt = .ok series) :
    ∃ rows bars, payload = .sequence rows ∧
      parseRows conv request receivedAt rows = .ok bars ∧ bars ≠ [] ∧
      series.toSeriesFields = seriesFields request bars := by
  unfold readKlines at h
  split at h
  · rename_i rows
    split at h
    · cases h
    -- not empty, and valid as a series
    rename_i bars hparsed
    split at h
    · cases h
    rename_i hne
    unfold makeSeries at h
    split at h
    · cases h
      exact ⟨rows, bars, rfl, hparsed, by simpa using hne, rfl⟩
    · cases h
  · cases h

/-- A series that comes out with both values of `closed_only` is built from closed bars. -/
theorem settled_of_same {payload : PyValue} {series : MarketDataSeries}
    (hopen : readKlines conv (withClosedOnly request false) payload 0 = .ok series)
    (hclosed : readKlines conv (withClosedOnly request true) payload 0 = .ok series) :
    Settled conv request payload := by
  obtain ⟨rows, bars, rfl, hparsed, -, hfields⟩ := readKlines_ok hopen
  obtain ⟨rows', bars', hrows, hparsed', -, hfields'⟩ := readKlines_ok hclosed
  cases hrows
  rw [parseRows_filter hparsed] at hparsed'
  cases hparsed'
  refine ⟨rows, bars, rfl, hparsed, ?_⟩
  intro b hb
  rw [hfields] at hfields'
  -- the kept bars are those of the filtered list, which are closed
  have hbars : bars.rtake request.minimumBars =
      (bars.filter (fun b => b.closed)).rtake request.minimumBars :=
    congrArg SeriesFields.bars hfields'
  rw [hbars] at hb
  exact (List.mem_filter.mp (List.mem_of_mem_drop hb)).2

/-- When `closed_only` makes no difference to a series. -/
theorem readKlines_closedOnly_iff {payload : PyValue} {series : MarketDataSeries}
    (hminimum : 1 ≤ request.minimumBars) {flag : Bool}
    (h : readKlines conv (withClosedOnly request flag) payload 0 = .ok series) :
    readKlines conv (withClosedOnly request (!flag)) payload 0 = .ok series ↔
      Settled conv request payload := by
  constructor
  · intro h'
    cases flag with
    | false => exact settled_of_same h h'
    | true => exact settled_of_same h' h
  · intro hsettled
    have hsame := settled_same hsettled hminimum
    cases flag with
    | false => exact hsame.trans h
    | true => exact hsame.symm.trans h

end ClosedOnly

end Binance

end Tomiris
