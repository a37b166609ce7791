import Tomiris.Spec.Forgetting
import Tomiris.Spec.PriceUnit

/-!
# Settled opinions

Every state is concluded from comparisons of the measured numbers with each other and with
thresholds. Where each comparison is decided by more than the bars can add that are not shared, the
state does not depend on them, and neither does an opinion that is concluded from such states.

## Key results

- `Near.timeframeState_eq`: decided comparisons give one state
- `stateOf_settled`: the state of a series with more or less history
- `opinion_settled`: the opinion with more or less history
-/

namespace Tomiris

namespace TechnicalAnalysisEngine

section Comparisons

variable {x y x' y' t : Rat}

/-- Numbers that are further apart than they may move keep their order. -/
theorem order_kept (hmove : |(x - y) - (x' - y')| ≤ t) (hapart : t < |x - y|) :
    (x < y ↔ x' < y') ∧ (y < x ↔ y' < x') ∧ (x ≤ y ↔ x' ≤ y') := by
  rw [abs_le] at hmove
  obtain ⟨hlow, hhigh⟩ := hmove
  rcases lt_abs.mp hapart with hpos | hneg
  -- `y` is the smaller one, before and after
  · have hy : y < x := by linarith
    have hy' : y' < x' := by linarith
    exact ⟨⟨fun h => absurd h hy.asymm, fun h => absurd h hy'.asymm⟩, ⟨fun _ => hy', fun _ => hy⟩,
      ⟨fun h => absurd hy h.not_gt, fun h => absurd hy' h.not_gt⟩⟩
  · have hx : x < y := by linarith
    have hx' : x' < y' := by linarith
    exact ⟨⟨fun _ => hx', fun _ => hx⟩, ⟨fun h => absurd h hx.asymm, fun h => absurd h hx'.asymm⟩,
      ⟨fun _ => hx'.le, fun _ => hx.le⟩⟩

/-- So does one that is further from a limit. -/
theorem limit_kept (hmove : |x - x'| ≤ t) {limit : Rat} (hapart : t < |x - limit|) :
    (x < limit ↔ x' < limit) ∧ (limit < x ↔ limit < x') ∧ (x ≤ limit ↔ x' ≤ limit) ∧
      (limit ≤ x ↔ limit ≤ x') := by
  have hdiff : |(x - limit) - (x' - limit)| ≤ t := by rwa [sub_sub_sub_cancel_right]
  obtain ⟨hlt, hgt, hle⟩ := order_kept hdiff hapart
  exact ⟨hlt, hgt, hle, by rw [← not_lt, hlt, not_lt]⟩

end Comparisons

/-- Every comparison behind a state is decided by more than the tolerance. -/
structure Decided (c : TechnicalFields) (close : Rat) (t : Tolerance) (x : Indicators) : Prop where
  fast : t.fast < |x.fast - close|
  slow : t.slow < |x.slow - close|
  order : t.fast + t.slow < |x.fast - x.slow|
  rsi : t.rsi < |x.rsi - c.rsiBullish| ∧ t.rsi < |x.rsi - c.rsiBearish|
  histogram : t.histogram < |x.histogram|
  atr_percent : t.atrPercent < |x.atrPercent - c.extremeAtrPercent| ∧
    t.atrPercent < |x.atrPercent - c.highAtrPercent| ∧
    t.atrPercent < |x.atrPercent - c.highAtrPercent / 3|
  range : t.fast + t.slow + t.atr * c.rangeEmaAtrRatio <
    |(|x.fast - x.slow| - x.atr * c.rangeEmaAtrRatio)|

section States

variable {c : TechnicalFields} {close : Rat} {t : Tolerance} {x y : Indicators}

/-- The trend is the same for values within the tolerance. -/
theorem trendOf_near (h : Decided c close t x) (hnear : x.Near t y) :
    trendOf close x.fast x.slow = trendOf close y.fast y.slow := by
  obtain ⟨hfast, hfast', -, -⟩ := limit_kept hnear.fast h.fast
  obtain ⟨hslow, hslow', -, -⟩ := limit_kept hnear.slow h.slow
  have hmove : |(x.fast - x.slow) - (y.fast - y.slow)| ≤ t.fast + t.slow := by
    rw [sub_sub_sub_comm]
    exact (abs_sub _ _).trans (add_le_add hnear.fast hnear.slow)
  obtain ⟨horder, horder', -⟩ := order_kept hmove h.order
  simp only [trendOf, hfast, hfast', hslow, hslow', horder, horder']

/-- The momentum is the same for values within the tolerance. -/
theorem momentumOf_near (h : Decided c close t x) (hnear : x.Near t y) :
    momentumOf c x.rsi x.histogram = momentumOf c y.rsi y.histogram := by
  obtain ⟨-, -, -, hbullish⟩ := limit_kept hnear.rsi h.rsi.1
  obtain ⟨-, -, hbearish, -⟩ := limit_kept hnear.rsi h.rsi.2
  have hapart : t.histogram < |x.histogram - 0| := by
    rw [sub_zero]
    exact h.histogram
  obtain ⟨hneg, hpos, -, -⟩ := limit_kept hnear.histogram hapart
  simp only [momentumOf, hbullish, hbearish, hneg, hpos]

/-- The volatility is the same for values within the tolerance. -/
theorem volatilityOf_near (h : Decided c close t x) (hnear : x.Near t y) :
    volatilityOf c x.atrPercent x.realizedVolatility =
      volatilityOf c y.atrPercent y.realizedVolatility := by
  obtain ⟨-, -, -, hextreme⟩ := limit_kept hnear.atr_percent h.atr_percent.1
  obtain ⟨-, -, -, hhigh⟩ := limit_kept hnear.atr_percent h.atr_percent.2.1
  obtain ⟨hlow, -, -, -⟩ := limit_kept hnear.atr_percent h.atr_percent.2.2
  simp only [volatilityOf, hextreme, hhigh, hlow, hnear.volatility]

/-- The range filter fires for both or for neither. -/
theorem rangeLike_near (hratio : 0 ≤ c.rangeEmaAtrRatio) (h : Decided c close t x)
    (hnear : x.Near t y) :
    |x.fast - x.slow| < x.atr * c.rangeEmaAtrRatio ↔
      |y.fast - y.slow| < y.atr * c.rangeEmaAtrRatio := by
  have haverages : |(|x.fast - x.slow| - |y.fast - y.slow|)| ≤ t.fast + t.slow := by
    apply (abs_abs_sub_abs_le_abs_sub _ _).trans
    rw [sub_sub_sub_comm]
    exact (abs_sub _ _).trans (add_le_add hnear.fast hnear.slow)
  have hranges : |x.atr * c.rangeEmaAtrRatio - y.atr * c.rangeEmaAtrRatio| ≤
      t.atr * c.rangeEmaAtrRatio := by
    rw [← sub_mul, abs_mul, abs_of_nonneg hratio]
    exact mul_le_mul_of_nonneg_right hnear.atr hratio
  -- neither side moves the comparison by more than it is decided by
  have hmove : |(|x.fast - x.slow| - x.atr * c.rangeEmaAtrRatio) -
      (|y.fast - y.slow| - y.atr * c.rangeEmaAtrRatio)| ≤
        t.fast + t.slow + t.atr * c.rangeEmaAtrRatio := by
    rw [sub_sub_sub_comm]
    exact (abs_sub _ _).trans (add_le_add haverages hranges)
  exact (order_kept hmove h.range).1

/-- Decided comparisons give the same state for two series with the same candles before the last. -/
theorem Indicators.Near.timeframeState_eq {a b : MarketDataSeries} (hnear : x.Near t y)
    (hratio : 0 ≤ c.rangeEmaAtrRatio) (h : Decided c close t x)
    (htimeframe : b.timeframe = a.timeframe) (hprior : priorCandles c b = priorCandles c a) :
    timeframeState c b close y = timeframeState c a close x := by
  have hrange := rangeLike_near hratio h hnear
  unfold timeframeState
  simp only [htimeframe, hprior, trendOf_near h hnear, momentumOf_near h hnear,
    volatilityOf_near h hnear, hrange, hnear.latest_return, hnear.volume]

end States

section Series

variable {a b : MarketDataSeries} {n : Nat} {lo hi : Rat}

/-- The two series end with enough of the same bars to decide every comparison. -/
structure Settled (engine : TechnicalAnalysisEngine) (a b : MarketDataSeries) : Prop where
  shared : ∃ n lo hi, SharedEnd a b n lo hi ∧ engine.config.pipeline.requiredHistory ≤ n ∧
    engine.config.swingLookback < n ∧
    Decided engine.config.toTechnicalFields (nthLast a.closes 0)
      (tolerance engine.config.pipeline.toPipelineFields a n (hi - lo))
      (measure engine.ops engine.config.pipeline.toPipelineFields a)

/-- Its bars say what a series is about, and one of them is shared. -/
theorem SharedEnd.identity_eq (h : SharedEnd a b n lo hi) (hn : 0 < n) :
    b.instrument = a.instrument ∧ b.timeframe = a.timeframe := by
  obtain ⟨⟨earlier, earlier', common, ha, hb, hcommon⟩, -⟩ := h
  obtain ⟨bar, hbar⟩ := List.exists_mem_of_length_pos (l := common) (by omega)
  obtain ⟨-, hinstrument, htimeframe⟩ := a.valid.identity bar (by
    rw [ha]
    exact List.mem_append_right _ hbar)
  obtain ⟨-, hinstrument', htimeframe'⟩ := b.valid.identity bar (by
    rw [hb]
    exact List.mem_append_right _ hbar)
  exact ⟨hinstrument'.symm.trans hinstrument, htimeframe'.symm.trans htimeframe⟩

/-- The window of the candles before the last one is within the shared bars. -/
theorem priorCandles_shared {c : TechnicalFields} (h : SharedEnd a b n lo hi)
    (hn : c.swingLookback < n) : priorCandles c b = priorCandles c a := by
  -- a window shorter than the common end lies within it
  have hwindow : ∀ (s : MarketDataSeries) (earlier common : List OHLCVBar),
      s.bars = earlier ++ common → common.length = n → priorCandles c s =
        (common.map fun bar => (bar.high, bar.low, bar.close)).dropLast.rtake c.swingLookback := by
    intro s earlier common hs hcommon
    have hne : (common.map fun bar => (bar.high, bar.low, bar.close)) ≠ [] := by
      rw [← List.length_pos_iff, List.length_map]
      omega
    have hlookback : min c.swingLookback (s.bars.length - 1) = c.swingLookback := by
      rw [hs, List.length_append]
      omega
    rw [priorCandles, hlookback, MarketDataSeries.candles, hs, List.map_append,
      List.dropLast_append_of_ne_nil hne, rtake_append]
    rw [List.length_dropLast, List.length_map]
    omega
  obtain ⟨⟨earlier, earlier', common, ha, hb, hcommon⟩, -⟩ := h
  rw [hwindow b earlier' common hb hcommon, hwindow a earlier common ha hcommon]

/-- The last close is one of the shared bars. -/
theorem lastClose_shared (h : SharedEnd a b n lo hi) (hn : 0 < n) :
    nthLast b.closes 0 = nthLast a.closes 0 := by
  obtain ⟨⟨earlier, earlier', common, ha, hb, hcommon⟩, -⟩ := h
  have hlength : 0 < (common.map fun bar => bar.close).length := by
    rw [List.length_map]
    omega
  rw [MarketDataSeries.closes, MarketDataSeries.closes, ha, hb, List.map_append, List.map_append,
    nthLast_append hlength, nthLast_append hlength]

/-- The state of a series whose comparisons are decided by the shared bars. -/
theorem stateOf_settled {engine : TechnicalAnalysisEngine} (h : Settled engine a b) :
    engine.stateOf b = engine.stateOf a := by
  obtain ⟨n, lo, hi, hshared, hhistory, hswing, hdecided⟩ := h.shared
  have hnear := measure_near engine.ops engine.config.pipeline hshared hhistory
  obtain ⟨-, htimeframe⟩ := SharedEnd.identity_eq hshared (by omega)
  apply Subtype.ext
  show timeframeState _ b (nthLast b.closes 0) _ = timeframeState _ a (nthLast a.closes 0) _
  rw [lastClose_shared hshared (by omega)]
  exact hnear.timeframeState_eq engine.config.valid.range_ratio.1.le hdecided htimeframe
    (priorCandles_shared hshared hswing)

end Series

section Engine

variable {engine : TechnicalAnalysisEngine} {definition : AgentDefinition}
variable {roleInput roleInput' : RoleInput} {roleVersion : String} {r : AgentAnalysisResult}

/-- Settled series are for the same instrument and timeframe. -/
theorem Settled.identity_eq {a b : MarketDataSeries} (h : Settled engine a b) :
    b.instrument = a.instrument ∧ b.timeframe = a.timeframe := by
  obtain ⟨n, lo, hi, hshared, -, hswing, -⟩ := h.shared
  exact SharedEnd.identity_eq hshared (by omega)

/-- The other series is long enough for the features, too. -/
theorem Settled.history {a b : MarketDataSeries} (h : Settled engine a b) :
    engine.config.pipeline.requiredHistory ≤ b.bars.length := by
  obtain ⟨n, lo, hi, hshared, hhistory, -, -⟩ := h.shared
  exact hhistory.trans hshared.symm.length_le

/-- What is the same for settled series is the same for lists of them. -/
theorem map_settled {β : Type} {f : MarketDataSeries → β} {series series' : List MarketDataSeries}
    (h : List.Forall₂ (Settled engine) series series')
    (hf : ∀ a b, Settled engine a b → f b = f a) : series'.map f = series.map f := by
  induction h with
  | nil => rfl
  | cons hone _ ih => rw [List.map_cons, List.map_cons, hf _ _ hone, ih]

/-- Only the evidence, the ranges and what is said about the provider know of the history. -/
theorem opines_settled (hshort : engine.ops.Short)
    (hasset : roleInput'.context.task.asset = roleInput.context.task.asset)
    (hseries : List.Forall₂ (Settled engine) roleInput.marketData.series
      roleInput'.marketData.series)
    (hordered : ∀ s ∈ roleInput'.marketData.series, s.firstBar.openTime ≤ s.lastBar.closeTime)
    (h : Opines engine definition roleInput roleVersion r.val) :
    ∃ r' : AgentAnalysisResult, Opines engine definition roleInput' roleVersion r'.val ∧
      r'.val.bias = r.val.bias ∧ r'.val.confidence = r.val.confidence ∧
      r'.val.reasonCodes = r.val.reasonCodes ∧
      r'.val.timeframeStates = r.val.timeframeStates := by
  have htype := evidenceType_of_opines h
  obtain ⟨evidence, ranges, -, -, hfields⟩ := h.formed
  obtain ⟨evidence', hevidence'⟩ : ∃ evidence',
      roleInput'.marketData.series.mapM engine.evidenceOf = .ok evidence' :=
    Except.mapM_ok fun s _ => evidenceOf_ok hshort htype s
  obtain ⟨ranges', hranges', hlength'⟩ := dataRanges_ok hordered
  have hstates := map_settled hseries fun _ _ => stateOf_settled
  have hidentities : roleInput'.marketData.series.map (fun s => (s.instrument, s.timeframe)) =
      roleInput.marketData.series.map fun s => (s.instrument, s.timeframe) := by
    apply map_settled hseries
    intro a b hsettled
    rw [hsettled.identity_eq.1, hsettled.identity_eq.2]
  have hactual : actualSeries roleInput' = actualSeries roleInput := by
    rw [actualSeries, hidentities, actualSeries]
  have hisolated : Isolated roleInput' := by
    intro s hs
    obtain ⟨a, ha, hsettled⟩ := hseries.exists_of_mem_right hs
    rw [hsettled.identity_eq.1, h.isolated a ha, hasset]
  have hcomplete : Complete definition roleInput' := by
    obtain ⟨hexpected, hcard⟩ := h.complete
    refine ⟨hactual.trans hexpected, ?_⟩
    rw [hactual, hcard, hseries.length_eq]
  have hhistory : ∀ s ∈ roleInput'.marketData.series,
      engine.config.pipeline.requiredHistory ≤ s.bars.length := by
    intro s hs
    obtain ⟨a, -, hsettled⟩ := hseries.exists_of_mem_right hs
    exact hsettled.history
  -- the new result differs from the valid one in fields that are bounded by themselves
  have hvalid : (opinedFields engine definition roleInput' roleVersion evidence' ranges').Valid := by
    have hresult := r.property
    rw [hfields] at hresult
    have hmax := definition.valid.evidence.2
    have hbounds := roleInput'.marketData.series_bounds.2
    unfold opinedFields at hresult ⊢
    rw [hstates]
    exact { hresult with
      evidence := by
        show (evidence'.flatten.take definition.maxEvidenceItems.toNat).length ≤ 20
        rw [List.length_take]
        omega
      ranges := by
        show ranges'.length ≤ 50
        omega }
  have hsame : ∀ r' : ResultFields,
      r' = opinedFields engine definition roleInput' roleVersion evidence' ranges' →
        r'.bias = r.val.bias ∧ r'.confidence = r.val.confidence ∧
        r'.reasonCodes = r.val.reasonCodes ∧ r'.timeframeStates = r.val.timeframeStates := by
    intro r' hr'
    rw [hr', hfields]
    unfold opinedFields
    rw [hstates]
    exact ⟨rfl, rfl, rfl, rfl⟩
  exact ⟨⟨_, hvalid⟩, ⟨hisolated, hcomplete, hhistory, evidence', ranges',
    Except.mapM_eq_ok.mp hevidence', hranges', rfl⟩, hsame _ rfl⟩

/-- **A settled opinion does not depend on the history.** With other bars before the shared ones,
    of which there may be any number, the engine comes to the same opinion. -/
theorem opinion_settled (hshort : engine.ops.Short)
    (h : engine.analyze definition roleInput roleVersion = .ok r) (hbias : r.val.bias ≠ .abstain)
    (hasset : roleInput'.context.task.asset = roleInput.context.task.asset)
    (hseries : List.Forall₂ (Settled engine) roleInput.marketData.series
      roleInput'.marketData.series)
    (hordered : ∀ s ∈ roleInput'.marketData.series, s.firstBar.openTime ≤ s.lastBar.closeTime) :
    ∃ r', engine.analyze definition roleInput' roleVersion = .ok r' ∧
      r'.val.bias = r.val.bias ∧ r'.val.confidence = r.val.confidence ∧
      r'.val.reasonCodes = r.val.reasonCodes ∧
      r'.val.timeframeStates = r.val.timeframeStates := by
  obtain ⟨r', hopines, hsame⟩ := opines_settled hshort hasset hseries hordered
    (opines_of_bias h hbias)
  exact ⟨r', analyze_of_opines hopines, hsame⟩

end Engine

end TechnicalAnalysisEngine

namespace Deployment

theorem surgeHours_decided : TechnicalAnalysisEngine.Decided
    (smallEngine exactOps).config.toTechnicalFields (nthLast (surgeHours 0).closes 0)
    (tolerance (smallEngine exactOps).config.pipeline.toPipelineFields (surgeHours 0) 24 (120 - 90))
    (measure exactOps (smallEngine exactOps).config.pipeline.toPipelineFields (surgeHours 0)) := by
  constructor <;> decide +kernel

theorem surgeHours_settled :
    TechnicalAnalysisEngine.Settled (smallEngine exactOps) (surgeHours 0) (surgeHours 2) :=
  ⟨24, 90, 120, surgeHours_shared, by decide, by decide, surgeHours_decided⟩

theorem surgeHours_long :
    (((smallEngine exactOps).analyze (hourlyDefinition 5 (by decide)) (ethInput (surgeHours 0))
      "1.0.0").map fun r => r.val.bias) = .ok .long := by
  decide +kernel

end Deployment

open Deployment in
/-- Two histories of a surge that share their last 24 hours: both opinions are long. -/
theorem opinion_settled_surge :
    ∃ r r', (smallEngine exactOps).analyze (hourlyDefinition 5 (by decide))
        (ethInput (surgeHours 0)) "1.0.0" = .ok r ∧
      (smallEngine exactOps).analyze (hourlyDefinition 5 (by decide)) (ethInput (surgeHours 2))
        "1.0.0" = .ok r' ∧
      r.val.bias = .long ∧ r'.val.bias = .long ∧ r'.val.confidence = r.val.confidence := by
  obtain ⟨r, hr, hbias⟩ := Except.map_eq_ok.mp surgeHours_long
  obtain ⟨r', hr', hbias', hconfidence, -, -⟩ :=
    @TechnicalAnalysisEngine.opinion_settled (smallEngine exactOps) _ (ethInput (surgeHours 0))
      (ethInput (surgeHours 2)) _ _ exactOps_short hr
      (by rw [hbias]; decide) rfl (.cons surgeHours_settled .nil) (by decide +kernel)
  exact ⟨r, r', hr, hr', hbias, hbias'.trans hbias, hconfidence⟩

end Tomiris
