import Tomiris.MarketData.Validation
import Tomiris.Roles.Technical
import Tomiris.Spec.MarketDataCache

/-!
# No lookahead

Two answers to one request that agree on the rows that close by the cutoff. With `closed_only` the
provider reads one series from both, up to `received_at`, or fails in one way. Nothing behind it
looks at `received_at`: the quality gate and the engine come out the same.

## Key results

- `validate_erase`, `analyze_erase`: the gate and the engine do not see the time of receipt
- `no_lookahead`: rows that close after the cutoff have no influence
-/

namespace Tomiris

open Binance

namespace MarketDataSeries

variable (s : MarketDataSeries)

@[simp] theorem erase_provider : s.erase.provider = s.provider := rfl

@[simp] theorem erase_instrument : s.erase.instrument = s.instrument := rfl

@[simp] theorem erase_timeframe : s.erase.timeframe = s.timeframe := rfl

@[simp] theorem erase_asOf : s.erase.asOf = s.asOf := rfl

@[simp] theorem erase_bars : s.erase.bars = s.bars.map OHLCVBar.erase := rfl

@[simp] theorem erase_closes : s.erase.closes = s.closes := by
  simp [closes, OHLCVBar.erase, BarFields.erase]

@[simp] theorem erase_volumes : s.erase.volumes = s.volumes := by
  simp [volumes, OHLCVBar.erase, BarFields.erase]

@[simp] theorem erase_candles : s.erase.candles = s.candles := by
  simp [candles, OHLCVBar.erase, BarFields.erase]

@[simp] theorem erase_firstBar : s.erase.firstBar = s.firstBar.erase := by
  simp [firstBar]

@[simp] theorem erase_lastBar : s.erase.lastBar = s.lastBar.erase := by
  simp [lastBar]

end MarketDataSeries

@[simp] theorem OHLCVBar.erase_openTime (b : OHLCVBar) : b.erase.openTime = b.openTime := rfl

@[simp] theorem OHLCVBar.erase_closeTime (b : OHLCVBar) : b.erase.closeTime = b.closeTime := rfl

@[simp] theorem OHLCVBar.erase_closed (b : OHLCVBar) : b.erase.closed = b.closed := rfl

/-- The quality gate does not see the time of receipt. -/
theorem validate_erase (s : MarketDataSeries) (request : RequestFields) :
    MarketDataValidator.validate s.erase request = MarketDataValidator.validate s request := by
  -- what the gate reads of the bars: times, the closed flag, gaps and their number
  have hopenTimes : s.erase.bars.map (fun bar => bar.openTime) =
      s.bars.map (fun bar => bar.openTime) := by
    simp
  have hfuture : s.erase.bars.any (fun bar => request.asOf < bar.closeTime) =
      s.bars.any (fun bar => request.asOf < bar.closeTime) := by
    rw [MarketDataSeries.erase_bars, List.any_map]
    rfl
  have hopen : s.erase.bars.any (fun bar => ! bar.closed) =
      s.bars.any (fun bar => ! bar.closed) := by
    rw [MarketDataSeries.erase_bars, List.any_map]
    rfl
  have hgaps : (s.erase.bars.zip s.erase.bars.tail).any
        (fun pair => MarketDataValidator.isGap request.timeframe pair.1 pair.2) =
      (s.bars.zip s.bars.tail).any
        (fun pair => MarketDataValidator.isGap request.timeframe pair.1 pair.2) := by
    rw [MarketDataSeries.erase_bars, ← List.map_tail, List.zip_map, List.any_map]
    rfl
  have hlength : s.erase.bars.length = s.bars.length := by
    simp
  unfold MarketDataValidator.validate
  simp only [hopenTimes, hfuture, hopen, hgaps, hlength, MarketDataSeries.erase_instrument,
    MarketDataSeries.erase_timeframe, MarketDataSeries.erase_asOf, MarketDataSeries.erase_lastBar,
    OHLCVBar.erase_closeTime]

section Features

variable (s : MarketDataSeries)

/-- An invalid result tells the last closing time. -/
theorem invalid_erase (feature : Feature) : feature.invalid s.erase = feature.invalid s := by
  simp [Feature.invalid]

/-- So does a valid one. -/
theorem result_erase (feature : Feature) (values : List (String × Rat)) :
    feature.result s.erase values = feature.result s values := by
  simp [Feature.result]

/-- The features are computed from prices, volumes and the last closing time. -/
theorem compute_erase (ops : FloatOps) (config : FeaturePipelineConfig) :
    TechnicalFeaturePipeline.compute ops config s.erase =
      TechnicalFeaturePipeline.compute ops config s := by
  unfold TechnicalFeaturePipeline.compute EMAFeature.compute RSIFeature.compute
    MACDFeature.compute ATRFeature.compute ReturnFeature.compute VolatilityFeature.compute
    VolumeTrendFeature.compute
  simp only [invalid_erase, result_erase, MarketDataSeries.erase_closes,
    MarketDataSeries.erase_volumes, MarketDataSeries.erase_candles, MarketDataSeries.erase_bars,
    List.length_map]

end Features

namespace TechnicalAnalysisEngine

section Erase

variable (engine : TechnicalAnalysisEngine) (s : MarketDataSeries)

/-- Evidence names the series and its last closing time. -/
theorem evidence_erase (evidenceType : String) (feature : FeatureResult) (observation : String) :
    evidence evidenceType s.erase feature observation =
      evidence evidenceType s feature observation := by
  simp [evidence]

/-- The state of a timeframe looks at closes and candles. -/
theorem timeframeState_erase (config : TechnicalFields) (close : Rat) (x : Indicators) :
    timeframeState config s.erase close x = timeframeState config s close x := by
  simp [timeframeState, priorCandles]

/-- Nothing of a timeframe depends on when its bars were received. -/
theorem analyzeTimeframe_erase : engine.analyzeTimeframe s.erase = engine.analyzeTimeframe s := by
  unfold analyzeTimeframe timeframeEvidence
  simp only [compute_erase, evidence_erase, timeframeState_erase, MarketDataSeries.erase_closes]

end Erase

section Bundles

variable {roleInput roleInput' : RoleInput}

/-- The two inputs hold the same series, up to the time of receipt. -/
structure SameSeries (roleInput roleInput' : RoleInput) : Prop where
  context : roleInput.context = roleInput'.context
  series : roleInput.marketData.series.map MarketDataSeries.erase =
    roleInput'.marketData.series.map MarketDataSeries.erase

/-- What is computed for each series does not tell the two inputs apart. -/
theorem SameSeries.map_eq (h : SameSeries roleInput roleInput') {β : Type}
    {f : MarketDataSeries → β} (hf : ∀ s, f s.erase = f s) :
    roleInput.marketData.series.map f = roleInput'.marketData.series.map f := by
  have hmap : ∀ series : List MarketDataSeries,
      series.map f = (series.map MarketDataSeries.erase).map f := by
    intro series
    simp [hf]
  rw [hmap, h.series, ← hmap]

/-- The same of a loop that may raise. -/
theorem SameSeries.mapM_eq (h : SameSeries roleInput roleInput') {β : Type}
    {f : MarketDataSeries → Except ComputeError β} (hf : ∀ s, f s.erase = f s) :
    roleInput.marketData.series.mapM f = roleInput'.marketData.series.mapM f := by
  have hmap : ∀ series : List MarketDataSeries, series.mapM f = (series.map f).mapM id := by
    intro series
    rw [List.mapM_map]
    rfl
  rw [hmap, hmap, h.map_eq hf]

/-- There are as many series. -/
theorem SameSeries.length_eq (h : SameSeries roleInput roleInput') :
    roleInput.marketData.series.length = roleInput'.marketData.series.length := by
  have hlength := congrArg List.length h.series
  rwa [List.length_map, List.length_map] at hlength

/-- Of the same providers, instruments, times and numbers of bars. -/
theorem dataRanges_erase (h : SameSeries roleInput roleInput') :
    dataRanges roleInput = dataRanges roleInput' :=
  h.mapM_eq fun s => by simp

/-- With the same providers. -/
theorem joinProviders_erase (h : SameSeries roleInput roleInput') :
    joinProviders roleInput.marketData.series = joinProviders roleInput'.marketData.series := by
  unfold joinProviders
  rw [h.map_eq fun s => s.erase_provider]

/-- And the same closing times. -/
theorem latestClose_erase (h : SameSeries roleInput roleInput') (default : Int) :
    latestClose roleInput.marketData.series default =
      latestClose roleInput'.marketData.series default := by
  unfold latestClose
  rw [h.map_eq fun s => by simp]

/-- So an abstention is the same. -/
theorem abstain_erase (h : SameSeries roleInput roleInput') (definition : AgentDefinition)
    (roleVersion reason : String) (quality : DataQualityOutcome) :
    abstain definition roleInput roleVersion reason quality =
      abstain definition roleInput' roleVersion reason quality := by
  unfold abstain
  simp only [dataRanges_erase h, joinProviders_erase h, latestClose_erase h, h.context]

/-- The engine does not see the time of receipt. -/
theorem analyze_erase (h : SameSeries roleInput roleInput') (engine : TechnicalAnalysisEngine)
    (definition : AgentDefinition) (roleVersion : String) :
    engine.analyze definition roleInput roleVersion =
      engine.analyze definition roleInput' roleVersion := by
  -- the engine looks at instruments and timeframes before it computes
  have hassets : roleInput.marketData.series.any
        (fun s => s.instrument != roleInput'.context.task.asset) =
      roleInput'.marketData.series.any
        (fun s => s.instrument != roleInput'.context.task.asset) := by
    have hmap : roleInput.marketData.series.map (fun s => s.instrument) =
        roleInput'.marketData.series.map (fun s => s.instrument) :=
      h.map_eq fun s => s.erase_instrument
    have hany := congrArg
      (fun l => l.any (fun instrument => instrument != roleInput'.context.task.asset)) hmap
    simpa [Function.comp_def] using hany
  have hpairs : roleInput.marketData.series.map (fun s => (s.instrument, s.timeframe)) =
      roleInput'.marketData.series.map (fun s => (s.instrument, s.timeframe)) :=
    h.map_eq fun s => rfl
  -- what is computed for a series is the same, so the rest is fed the same
  have hcomputed := h.mapM_eq engine.analyzeTimeframe_erase
  unfold analyze analyzeBy analyzeSeriesBy
  simp only [abstain_erase h, hassets, hpairs, hcomputed, h.length_eq, dataRanges_erase h,
    joinProviders_erase h, latestClose_erase h, h.context]

end Bundles

end TechnicalAnalysisEngine

namespace Binance

section Timed

variable {conv : Conversions} {request : RequestFields} {receivedAt : Int}

/-- The clause around a row names all that the values of a row raise. -/
theorem rowBar_error {openTime closeTime : Int} {cells : List PyValue} {e : PyError}
    (h : rowBar conv request receivedAt openTime closeTime cells = .error e) :
    e.isCaught = true := by
  unfold rowBar at h
  simp only [bind, Except.bind] at h
  -- the five cells, each of which `Decimal` may refuse
  split at h
  · cases h
    exact conv.decimal_caught _ _ ‹_›
  split at h
  · cases h
    exact conv.decimal_caught _ _ ‹_›
  split at h
  · cases h
    exact conv.decimal_caught _ _ ‹_›
  split at h
  · cases h
    exact conv.decimal_caught _ _ ‹_›
  split at h
  · cases h
    exact conv.decimal_caught _ _ ‹_›
  -- the validators of the bar
  unfold makeBar at h
  split at h
  · cases h
    rfl
  · split at h
    · cases h
    · cases h
      rfl

/-- A row that names its times fails with a `ProviderError` only. -/
theorem parseRow_error {raw : PyValue} (htimed : isTimed conv raw = true) {e : Raised}
    (h : parseRow conv request receivedAt raw = .error e) : ∃ pe, e = .provider pe := by
  cases raw with
  | sequence cells =>
    simp only [isTimed, Bool.and_eq_true, decide_eq_true_eq] at htimed
    obtain ⟨hlen, htimes⟩ := htimed
    simp only [parseRow, if_neg (not_lt.mpr hlen)] at h
    -- the times are there, so only the cells behind them are left to fail
    split at h
    · rename_i e' hrow
      rw [hrow] at htimes
      cases htimes
    · split at h
      · cases h
      · split at h
        · rename_i e' hbar
          cases h
          exact ⟨_, if_pos (rowBar_error hbar)⟩
        · cases h
  | _ => cases htimed

/-- The first row that fails decides. -/
theorem parseRows_error {rows : List PyValue} (htimed : ∀ raw ∈ rows, isTimed conv raw = true)
    {e : Raised} (h : parseRows conv request receivedAt rows = .error e) :
    ∃ pe, e = .provider pe := by
  induction rows with
  | nil => cases h
  | cons raw rest ih =>
    rw [List.forall_mem_cons] at htimed
    rw [parseRows] at h
    -- the first row fails, or one of the rest
    split at h
    · rename_i e' hrow
      cases h
      exact parseRow_error htimed.1 hrow
    · split at h
      · rename_i e' hrest
        cases h
        exact ih htimed.2 hrest
      · cases h

/-- An answer whose rows name their times fails with a `ProviderError` only. -/
theorem readKlines_error (hvalid : request.Valid) {rows : List PyValue}
    (htimed : ∀ raw ∈ rows, isTimed conv raw = true) {e : Raised}
    (h : readKlines conv request (.sequence rows) receivedAt = .error e) :
    ∃ pe, e = .provider pe := by
  unfold readKlines at h
  simp only at h
  -- a row fails, or the series that is made of them: it is empty or valid
  split at h
  · rename_i e' hparsed
    cases h
    exact parseRows_error htimed hparsed
  · rename_i bars hparsed
    split at h
    · cases h
      exact ⟨_, rfl⟩
    · rename_i hne
      obtain ⟨hfields, hmade⟩ := makeSeries_ok hvalid hparsed (by simpa using hne)
      rw [hmade] at h
      cases h

end Timed

end Binance

/-- Two answers to one request for closed bars. All rows name their times, and the ones that close
    by the cutoff are the same. -/
structure TwinAnswers (p : BinancePublicMarketDataProvider) where
  request : MarketDataRequest
  rows : List PyValue
  rows' : List PyValue
  receivedAt : Int
  receivedAt' : Int
  closed_only : request.closedOnly = true
  timed : ∀ raw ∈ rows, isTimed p.conv raw = true
  timed' : ∀ raw ∈ rows', isTimed p.conv raw = true
  same : rows.filter (closesBy p.conv request.asOf) = rows'.filter (closesBy p.conv request.asOf)

/-- `get_ohlcv` on a cold cache, with an answer of these rows. -/
def BinancePublicMarketDataProvider.cold (p : BinancePublicMarketDataProvider)
    (request : MarketDataRequest) (rows : List PyValue) (receivedAt : Int) :
    Except Raised MarketDataSeries :=
  (getOhlcv p.conv p.cacheTtlSeconds { maxEntries := p.maxEntries } request.toRequestFields
    (fun _ => .ok (.sequence rows, receivedAt))).2

/-- With nothing in the cache the answer is read. -/
theorem BinancePublicMarketDataProvider.cold_eq (p : BinancePublicMarketDataProvider)
    (request : MarketDataRequest) (rows : List PyValue) (receivedAt : Int) :
    p.cold request rows receivedAt =
      readKlines p.conv request.toRequestFields (.sequence rows) receivedAt := by
  unfold cold getOhlcv InMemoryMarketDataCache.get fetch
  simp only [List.lookup_nil]
  cases readKlines p.conv request.toRequestFields (.sequence rows) receivedAt <;> rfl

namespace TwinAnswers

variable {p : BinancePublicMarketDataProvider}

def first (t : TwinAnswers p) : Except Raised MarketDataSeries := p.cold t.request t.rows t.receivedAt

def second (t : TwinAnswers p) : Except Raised MarketDataSeries :=
  p.cold t.request t.rows' t.receivedAt'

/-- The rows that close later are not read. -/
theorem cold_closed (t : TwinAnswers p) :
    t.first.map MarketDataSeries.erase = t.second.map MarketDataSeries.erase := by
  unfold first second
  rw [p.cold_eq, p.cold_eq, ← readKlines_erase, ← readKlines_erase]
  unfold readKlines
  simp only
  rw [parseRows_closed t.closed_only t.timed, parseRows_closed t.closed_only t.timed', t.same]

/-- The rows of the first answer name their times, so it fails with a `ProviderError` only. -/
theorem first_error (t : TwinAnswers p) {e : Raised} (h : t.first = .error e) :
    ∃ pe, e = .provider pe := by
  unfold first at h
  rw [p.cold_eq] at h
  exact readKlines_error t.request.valid t.timed h

end TwinAnswers

/-- Both calls fail with one provider error code, or return one series up to `received_at`. -/
inductive SameOutcome : Except Raised MarketDataSeries → Except Raised MarketDataSeries → Prop
  | failed {e e' : ProviderError} : e.code = e'.code →
      SameOutcome (.error (.provider e)) (.error (.provider e'))
  | returned {s s' : MarketDataSeries} : s.erase = s'.erase → SameOutcome (.ok s) (.ok s')

/-- Equal series up to the time of receipt, or one error: the rows that differ are not read. -/
theorem TwinAnswers.sameOutcome {p : BinancePublicMarketDataProvider} (t : TwinAnswers p) :
    SameOutcome t.first t.second := by
  have hsame := t.cold_closed
  -- both fail alike or both return, since they are equal up to the time of receipt
  cases hfirst : t.first with
  | error e =>
    obtain ⟨pe, rfl⟩ := t.first_error hfirst
    rw [hfirst] at hsame
    cases hsecond : t.second with
    | error e' =>
      rw [hsecond] at hsame
      cases hsame
      exact .failed rfl
    | ok s' =>
      rw [hsecond] at hsame
      cases hsame
  | ok s =>
    rw [hfirst] at hsame
    cases hsecond : t.second with
    | error e' =>
      rw [hsecond] at hsame
      cases hsame
    | ok s' =>
      rw [hsecond] at hsame
      exact .returned (Except.ok.inj hsame)

/-- The two series, if there are two. -/
theorem TwinAnswers.erase_eq {p : BinancePublicMarketDataProvider} (t : TwinAnswers p)
    {s s' : MarketDataSeries} (h : t.first = .ok s) (h' : t.second = .ok s') :
    s.erase = s'.erase := by
  have hsame := t.cold_closed
  rw [h, h'] at hsame
  exact Except.ok.inj hsame

/-- Rows that close after the cutoff have no influence, whatever they contain. The calls come out
    the same, the quality gate reports the same, and so does the engine on any bundle that is
    fetched with the one or the other answers. -/
theorem no_lookahead (p : BinancePublicMarketDataProvider) :
    (∀ t : TwinAnswers p, SameOutcome t.first t.second) ∧
    (∀ (t : TwinAnswers p) (s s' : MarketDataSeries), t.first = .ok s → t.second = .ok s' →
      ∀ request : RequestFields,
        MarketDataValidator.validate s request = MarketDataValidator.validate s' request) ∧
    ∀ (twins : List (TwinAnswers p)) (roleInput roleInput' : RoleInput),
      roleInput.context = roleInput'.context →
      twins.map TwinAnswers.first = roleInput.marketData.series.map .ok →
      twins.map TwinAnswers.second = roleInput'.marketData.series.map .ok →
      ∀ (engine : TechnicalAnalysisEngine) (definition : AgentDefinition) (roleVersion : String),
        engine.analyze definition roleInput roleVersion =
          engine.analyze definition roleInput' roleVersion := by
  refine ⟨fun t => t.sameOutcome, ?_, ?_⟩
  · intro t s s' h h' request
    rw [← validate_erase s, t.erase_eq h h', validate_erase]
  · intro twins roleInput roleInput' hcontext hfirst hsecond engine definition roleVersion
    -- the fetched series are equal up to the time of receipt, pair by pair
    have hsame : twins.map (fun t => t.first.map MarketDataSeries.erase) =
        twins.map (fun t => t.second.map MarketDataSeries.erase) :=
      List.map_congr_left fun t _ => t.cold_closed
    have hseries : roleInput.marketData.series.map MarketDataSeries.erase =
        roleInput'.marketData.series.map MarketDataSeries.erase := by
      have hmap := congrArg (List.map (Except.map MarketDataSeries.erase)) hfirst
      have hmap' := congrArg (List.map (Except.map MarketDataSeries.erase)) hsecond
      rw [List.map_map, List.map_map] at hmap hmap'
      have hok : (roleInput.marketData.series.map MarketDataSeries.erase).map
            (@Except.ok Raised MarketDataSeries) =
          (roleInput'.marketData.series.map MarketDataSeries.erase).map Except.ok := by
        rw [List.map_map, List.map_map]
        exact hmap.symm.trans (hsame.trans hmap')
      exact (List.map_inj_right fun _ _ h => Except.ok.inj h).mp hok
    exact TechnicalAnalysisEngine.analyze_erase ⟨hcontext, hseries⟩ engine definition roleVersion

open BinancePublicMarketDataProvider in
/-- A second answer with a row without prices for the hour that is still open. -/
def malformedFuture : TwinAnswers smallProvider where
  request := halfPastTwo true
  rows := [hourCandle 0, hourCandle 3600000]
  rows' := [hourCandle 0, hourCandle 3600000, .sequence
    [.int 7200000, .none, .none, .none, .none, .none, .int 10799999]]
  receivedAt := 9001000000
  receivedAt' := 9002000000
  closed_only := rfl
  timed := by decide +kernel
  timed' := by decide +kernel
  same := rfl

/-- An answer that has been read. -/
theorem ok_of_closedBars {result : Except Raised MarketDataSeries} {closed : List Bool}
    (h : BinancePublicMarketDataProvider.closedBars result = some closed) :
    ∃ s, result = .ok s ∧ s.bars.length = closed.length := by
  cases result with
  | error e => cases h
  | ok s =>
    cases h
    exact ⟨s, rfl, by simp⟩

open BinancePublicMarketDataProvider in
/-- The row without prices shows nowhere: not in the series, the gate's report or the analysis. -/
theorem no_lookahead_malformedFuture :
    SameOutcome malformedFuture.first malformedFuture.second ∧
      ∃ s s', malformedFuture.first = .ok s ∧ malformedFuture.second = .ok s' ∧
        s.bars.length = 2 ∧ s'.bars.length = 2 ∧
        MarketDataValidator.validate s (halfPastTwo true).toRequestFields =
          MarketDataValidator.validate s' (halfPastTwo true).toRequestFields ∧
        ∀ (roleInput roleInput' : RoleInput) (engine : TechnicalAnalysisEngine)
          (definition : AgentDefinition) (roleVersion : String),
          roleInput.context = roleInput'.context → roleInput.marketData.series = [s] →
          roleInput'.marketData.series = [s'] →
          engine.analyze definition roleInput roleVersion =
            engine.analyze definition roleInput' roleVersion := by
  obtain ⟨hsame, hgate, hengine⟩ := no_lookahead smallProvider
  have hfirst : closedBars malformedFuture.first = some [true, true] := by decide +kernel
  have hsecond : closedBars malformedFuture.second = some [true, true] := by decide +kernel
  -- both answers make a series of the two closed bars
  obtain ⟨s, hs, hlength⟩ := ok_of_closedBars hfirst
  obtain ⟨s', hs', hlength'⟩ := ok_of_closedBars hsecond
  refine ⟨hsame malformedFuture, s, s', hs, hs', hlength, hlength',
    hgate malformedFuture s s' hs hs' _, ?_⟩
  intro roleInput roleInput' engine definition roleVersion hcontext hseries hseries'
  have htwins : [malformedFuture].map TwinAnswers.first = roleInput.marketData.series.map .ok := by
    rw [hseries, List.map_singleton, List.map_singleton, hs]
  have htwins' : [malformedFuture].map TwinAnswers.second =
      roleInput'.marketData.series.map .ok := by
    rw [hseries', List.map_singleton, List.map_singleton, hs']
  exact hengine [malformedFuture] roleInput roleInput' hcontext htwins htwins' engine definition
    roleVersion

end Tomiris
