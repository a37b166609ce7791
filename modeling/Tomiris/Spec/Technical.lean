import Mathlib.Tactic.Linarith
import Tomiris.ForStd.BoundedMap
import Tomiris.ForStd.Smoothing
import Tomiris.Roles.Technical
import Tomiris.Spec.Features

/-!
# The engine never raises

What the body of `analyze` can raise on valid series is a `ValueError` or a `KeyError`, and the
`except` clause around it turns these into an abstention. So for a bundle whose ranges are in order
the engine returns a result, an abstention if need be, and the result names the role, the reasons
and the data in texts of bounded length.

## Key results

- `analyzeTimeframe_caught`, `opinion_caught`: the parts raise what is caught
- `roundDigits_le`, `le_roundDigits`: rounding stays within decimal bounds
- `analyze_ok`: the engine returns a result
- `Concludes`: what every result of the engine carries
-/

namespace Tomiris

open Except

section Rounding

variable {q : Rat} {digits : Nat}

/-- Rounding does not pass a number with so few digits. -/
theorem roundDigits_le {k : Int} (h : q ≤ k / 10 ^ digits) :
    roundDigits q digits ≤ k / 10 ^ digits := by
  have hpos : (0 : Rat) < 10 ^ digits := by positivity
  rw [le_div_iff₀ hpos] at h
  unfold roundDigits
  rw [div_le_div_iff_of_pos_right hpos]
  exact_mod_cast roundHalfEven_le h

/-- From below either. -/
theorem le_roundDigits {k : Int} (h : (k : Rat) / 10 ^ digits ≤ q) :
    (k : Rat) / 10 ^ digits ≤ roundDigits q digits := by
  have hpos : (0 : Rat) < 10 ^ digits := by positivity
  rw [div_le_iff₀ hpos] at h
  unfold roundDigits
  rw [div_le_div_iff_of_pos_right hpos]
  exact_mod_cast le_roundHalfEven h

end Rounding

namespace TechnicalAnalysisEngine

/-- What is raised is caught by `except (KeyError, ValueError)`. -/
abbrev Caught {α : Type} (x : Except ComputeError α) : Prop :=
  FailsWith (fun e => e.isCaught = true) x

/-- Valid fields are accepted. -/
theorem construct_ok {F : Type} {P : F → Prop} [DecidablePred P] {fields : F} (h : P fields) :
    construct P fields = .ok ⟨fields, h⟩ := dif_pos h

/-- And kept. -/
theorem construct_val {F : Type} {P : F → Prop} [DecidablePred P] {fields : F}
    {made : { f : F // P f }} (h : construct P fields = .ok made) : made.val = fields := by
  unfold construct at h
  split at h
  · cases h
    rfl
  · cases h

/-- A validator raises a `ValueError`. -/
theorem construct_caught {F : Type} (P : F → Prop) [DecidablePred P] (fields : F) :
    Caught (construct P fields) := by
  unfold construct
  split
  · exact failsWith_ok _
  · exact failsWith_error rfl

/-- A look-up raises a `KeyError`. -/
theorem value_caught (f : FeatureResult) (key : String) : Caught (f.value key) := by
  unfold FeatureResult.value
  split
  · exact failsWith_error rfl
  · exact failsWith_ok _

/-- A number of a feature that is looked up. -/
theorem read_caught {β : Type} {x : Except ComputeError FeatureResult} {key : String}
    {f : Rat → Except ComputeError β} (hx : Caught x) (hf : ∀ value, Caught (f value)) :
    Caught (do let feature ← x; let value ← feature.value key; f value) :=
  failsWith_bind hx fun feature _ => failsWith_bind (value_caught feature key) fun value _ => hf value

section Timeframe

variable {config : FeaturePipelineConfig} {s : MarketDataSeries}
variable {emaFast emaSlow rsi macd atr return' volatility volume : FeatureResult}

/-- Every name that the engine looks up is there. -/
theorem feature_found (h : PipelineReports config s emaFast emaSlow rsi macd atr return' volatility
    volume) :
    let features := [emaFast, emaSlow, rsi, macd, atr, return', volatility, volume]
    feature features "rsi" = .ok rsi ∧ feature features "macd" = .ok macd ∧
      feature features "atr" = .ok atr ∧ feature features "return" = .ok return' ∧
      feature features "realized_volatility" = .ok volatility ∧
      feature features "volume_trend" = .ok volume := by
  have h₁ : emaFast.featureName = "ema" := h.ema_fast.name
  have h₂ : emaSlow.featureName = "ema" := h.ema_slow.name
  have h₃ : rsi.featureName = "rsi" := h.rsi.name
  have h₄ : macd.featureName = "macd" := h.macd.name
  have h₅ : atr.featureName = "atr" := h.atr.name
  have h₆ : return'.featureName = "return" := h.return'.name
  have h₇ : volatility.featureName = "realized_volatility" := h.volatility.name
  have h₈ : volume.featureName = "volume_trend" := h.volume.name
  simp [feature, h₁, h₂, h₃, h₄, h₅, h₆, h₇, h₈]

/-- The two averages are told apart by their periods. -/
theorem emaResult_found (h : PipelineReports config s emaFast emaSlow rsi macd atr return'
    volatility volume) :
    let features := [emaFast, emaSlow, rsi, macd, atr, return', volatility, volume]
    emaResult features config.emaFast = .ok emaFast ∧
      emaResult features config.emaSlow = .ok emaSlow := by
  have hname : emaFast.featureName = "ema" := h.ema_fast.name
  have hname' : emaSlow.featureName = "ema" := h.ema_slow.name
  have hperiod : emaFast.parameters = [("period", config.emaFast)] := h.ema_fast.parameters
  have hperiod' : emaSlow.parameters = [("period", config.emaSlow)] := h.ema_slow.parameters
  have hne : config.emaFast ≠ config.emaSlow := (Nat.ne_of_lt config.valid.ema_order)
  simp [emaResult, hname, hname', hperiod, hperiod', hne]

/-- Evidence is validated. -/
theorem evidence_caught (evidenceType : String) (s : MarketDataSeries) (feature : FeatureResult)
    (observation : String) : Caught (evidence evidenceType s feature observation) :=
  construct_caught _ _

/-- The pieces of evidence name features that are there. -/
theorem timeframeEvidence_caught {N : Type} (h : PipelineReports config s emaFast emaSlow rsi macd
    atr return' volatility volume) (evidenceType : String) (general : Nat → N → String)
    (close slow rsiValue histogram atrPercent realizedVolatility : N) (trend : TrendState)
    (momentum : MomentumState) (regime : VolatilityState) :
    Caught (timeframeEvidence evidenceType general config s
      [emaFast, emaSlow, rsi, macd, atr, return', volatility, volume] close slow rsiValue histogram
      atrPercent realizedVolatility trend momentum regime) := by
  obtain ⟨hrsi, hmacd, hatr, -, -, -⟩ := feature_found h
  obtain ⟨-, hslow⟩ := emaResult_found h
  unfold timeframeEvidence
  rw [hslow, hrsi, hmacd, hatr]
  iterate 4
    refine failsWith_bind (failsWith_ok _) fun _ _ => ?_
    refine failsWith_bind (evidence_caught _ _ _ _) fun _ _ => ?_
  exact failsWith_ok _

/-- Every number that the engine looks up is there. -/
theorem readIndicators_caught (h : PipelineReports config s emaFast emaSlow rsi macd atr return'
    volatility volume) :
    Caught (readIndicators config
      [emaFast, emaSlow, rsi, macd, atr, return', volatility, volume]) := by
  obtain ⟨hrsi, hmacd, hatr, hreturn, hvolatility, hvolume⟩ := feature_found h
  obtain ⟨hfast, hslow⟩ := emaResult_found h
  unfold readIndicators
  rw [hfast, hslow, hrsi, hmacd, hatr, hvolatility, hreturn, hvolume]
  iterate 9 refine read_caught (failsWith_ok _) fun _ => ?_
  exact failsWith_ok _

/-- Nothing else is raised for a timeframe, in exact arithmetic. -/
theorem analyzeTimeframe_caught (engine : TechnicalAnalysisEngine) (s : MarketDataSeries) :
    Caught (engine.analyzeTimeframe s) := by
  obtain ⟨emaFast, emaSlow, rsi, macd, atr, return', volatility, volume, hfeatures, hreports⟩ :=
    pipeline_reports engine.ops engine.config.pipeline s
  obtain ⟨close, -, hclose⟩ : ∃ close ∈ s.closes, fromEnd s.closes 0 = .ok close :=
    fromEnd_ok (by simpa using s.bars_pos)
  unfold analyzeTimeframe
  rw [hfeatures]
  refine failsWith_bind (failsWith_ok _) fun features hok => ?_
  cases hok
  -- an invalid feature is a ValueError
  split
  · exact failsWith_error rfl
  · refine failsWith_bind (readIndicators_caught hreports) fun x _ => ?_
    -- the look-ups find their features, and there is a last close
    rw [hclose]
    refine failsWith_bind (failsWith_ok _) fun _ _ => ?_
    refine failsWith_bind (construct_caught _ _) fun state _ => ?_
    exact failsWith_bind (timeframeEvidence_caught hreports _ _ _ _ _ _ _ _ _ _ _)
      fun _ _ => failsWith_ok _

end Timeframe

section Opinion

/-- Weights are positive, the default included. -/
theorem weight_pos (config : TechnicalRoleConfig) (timeframe : Timeframe) :
    0 < config.weight timeframe := by
  unfold TechnicalFields.weight
  cases hlookup : config.timeframeWeights.lookup timeframe with
  | none => exact one_pos
  | some weight => exact config.valid.weights.2 _ (BoundedMap.mem_of_lookup hlookup)

/-- So their sum can be divided by. -/
theorem weightedScore_ok (config : TechnicalRoleConfig) {states : List TimeframeAnalysis}
    (hne : states ≠ []) : ∃ weighted, weightedScore config.toTechnicalFields states = .ok weighted := by
  have hpos := Smoothing.weights_pos (fun state : TimeframeAnalysis =>
    weight_pos config state.val.timeframe) hne
  exact ⟨_, divide_ok hpos.ne'⟩

/-- The thresholds and the number of states are not zero. -/
theorem opinion_caught (config : TechnicalRoleConfig) {states : List TimeframeAnalysis}
    (hne : states ≠ []) : Caught (opinion config.toTechnicalFields states) := by
  have hlength : (states.length : Rat) ≠ 0 := by
    exact_mod_cast (List.length_pos_of_ne_nil hne).ne'
  unfold opinion
  refine failsWith_bind (failsWith_of_ok (weightedScore_ok config hne)) fun weighted _ => ?_
  simp only
  split
  · rw [divide_ok config.valid.neutral.1.ne']
    exact failsWith_bind (failsWith_ok _) fun _ _ => failsWith_ok _
  · rw [divide_ok hlength, divide_ok config.valid.strong_trend.1.ne']
    refine failsWith_bind (failsWith_ok _) fun _ _ => ?_
    exact failsWith_bind (failsWith_ok _) fun _ _ => failsWith_ok _

/-- The reasons that come before that for no edge. -/
theorem named_reasons (conflict volatile : Prop) [Decidable conflict] [Decidable volatile] :
    ∀ code ∈ (if conflict then ["TIMEFRAME_CONFLICT"] else []) ++
      (if volatile then ["HIGH_VOLATILITY"] else []),
    code ∈ ["TIMEFRAME_CONFLICT", "HIGH_VOLATILITY", "NO_CLEAR_EDGE"] := by
  intro code hcode
  rcases List.mem_append.mp hcode with hcode | hcode
  · split at hcode
    · rw [List.mem_singleton.mp hcode]
      exact List.mem_cons_self ..
    · cases hcode
  · split at hcode
    · rw [List.mem_singleton.mp hcode]
      exact List.mem_cons_of_mem _ (List.mem_cons_self ..)
    · cases hcode

/-- The reason codes of an opinion. -/
theorem opinion_reasons {config : TechnicalFields} {states : List TimeframeAnalysis} {bias : Bias}
    {confidence : Rat} {reasonCodes : List String}
    (h : opinion config states = .ok (bias, confidence, reasonCodes)) :
    ∀ code ∈ reasonCodes, code ∈ ["TIMEFRAME_CONFLICT", "HIGH_VOLATILITY", "NO_CLEAR_EDGE"] := by
  unfold opinion at h
  obtain ⟨weighted, -, h⟩ := Except.bind_eq_ok.mp h
  simp only at h
  -- no clear edge, which adds its code, or an edge
  split at h
  · obtain ⟨ratio, -, h⟩ := Except.bind_eq_ok.mp h
    cases h
    intro code hcode
    rcases List.mem_append.mp hcode with hcode | hcode
    · exact named_reasons _ _ code hcode
    · exact List.mem_cons_of_mem _ (List.mem_cons_of_mem _ hcode)
  · obtain ⟨agreement, -, h⟩ := Except.bind_eq_ok.mp h
    obtain ⟨strength, -, h⟩ := Except.bind_eq_ok.mp h
    cases h
    exact named_reasons _ _

end Opinion

section Results

variable {definition : AgentDefinition} {roleInput : RoleInput} {roleVersion : String}

/-- What every result of the engine carries. -/
structure Concludes (definition : AgentDefinition) (roleInput : RoleInput) (roleVersion : String)
    (r : ResultFields) : Prop where
  role : r.roleId = definition.roleId
  role_version : r.roleVersion = roleVersion
  config_version : r.configVersion = definition.configVersion
  pipeline_version : r.featurePipelineVersion = TechnicalFeaturePipeline.pipelineVersion
  reasons : ∀ code ∈ r.reasonCodes, code.length ≤ 128
  provider : r.dataProvider = joinProviders roleInput.marketData.series ∨
    joinProviders roleInput.marketData.series = "" ∧ r.dataProvider = "unavailable"
  data_as_of : r.dataAsOf = latestClose roleInput.marketData.series roleInput.context.asOf
  analysis_as_of : r.analysisAsOf = roleInput.context.asOf

/-- The ranges of series whose first bar does not open after the last one closes. -/
theorem dataRanges_ok (h : ∀ s ∈ roleInput.marketData.series,
    s.firstBar.openTime ≤ s.lastBar.closeTime) :
    ∃ ranges, dataRanges roleInput = .ok ranges ∧
      ranges.length = roleInput.marketData.series.length := by
  -- a range is refused only if it ends before it begins
  have hone : ∀ s ∈ roleInput.marketData.series, ∃ range, construct DataRangeFields.Valid
      { provider := s.provider
        instrument := s.instrument
        timeframe := s.timeframe
        firstBarAt := s.firstBar.openTime
        lastBarAt := s.lastBar.closeTime
        barCount := s.bars.length } = .ok range := by
    intro s hs
    have hinstrument := s.valid.instrument
    simp only [isAsset, Bool.and_eq_true, decide_eq_true_eq] at hinstrument
    exact ⟨_, construct_ok ⟨s.valid.provider, ⟨hinstrument.1.2, hinstrument.2⟩,
      ⟨s.firstBar.valid.datetimes.1, s.lastBar.valid.datetimes.2⟩, s.valid.bars, h s hs⟩⟩
  obtain ⟨ranges, hranges⟩ := mapM_ok hone
  exact ⟨ranges, hranges, (mapM_eq_ok.mp hranges).length_eq.symm⟩

/-- An abstention is validated as well. -/
theorem abstain_caught (reason : String) (quality : DataQualityOutcome) :
    Caught (abstain definition roleInput roleVersion reason quality) :=
  failsWith_bind (failsWith_mapM fun _ _ => construct_caught _ _) fun _ _ => construct_caught _ _

/-- It says what an abstention has to say. -/
theorem abstain_concludes {reason : String} {quality : DataQualityOutcome}
    {r : AgentAnalysisResult} (hreason : reason.length ≤ 128)
    (h : abstain definition roleInput roleVersion reason quality = .ok r) :
    Concludes definition roleInput roleVersion r.val := by
  obtain ⟨ranges, -, h⟩ := Except.bind_eq_ok.mp h
  rw [construct_val h]
  refine ⟨rfl, rfl, rfl, rfl, by simpa using hreason, ?_, rfl, rfl⟩
  simp only
  split
  · rename_i hempty
    exact .inr ⟨String.isEmpty_iff.mp hempty, rfl⟩
  · exact .inl rfl

/-- And is made if the ranges of its data are. -/
theorem abstain_of_ranges {ranges : List AnalysisDataRange} (h : dataRanges roleInput = .ok ranges)
    (reason : String) (quality : DataQualityOutcome) :
    ∃ r, abstain definition roleInput roleVersion reason quality = .ok r := by
  have hlength := (mapM_eq_ok.mp h).length_eq.symm
  unfold abstain
  rw [h]
  -- an abstention has no confidence, no states and no evidence to check
  refine ⟨_, construct_ok ?_⟩
  exact
    { schema := definition.valid.schema
      confidence := by simp
      reason_codes := by simp
      states := by simp
      evidence := by simp
      ranges := by rw [hlength]; exact roleInput.marketData.series_bounds.2
      invalid_abstains := by simp
      abstain_reason := by simp }

/-- Which takes series that do not close before they open. -/
theorem abstain_ok (hranges : ∀ s ∈ roleInput.marketData.series,
    s.firstBar.openTime ≤ s.lastBar.closeTime) (reason : String) (quality : DataQualityOutcome) :
    ∃ r, abstain definition roleInput roleVersion reason quality = .ok r := by
  obtain ⟨ranges, hok, -⟩ := dataRanges_ok hranges
  exact abstain_of_ranges hok reason quality

section Engines

variable {analyzeTimeframe : MarketDataSeries →
  Except ComputeError (TimeframeAnalysis × List AnalyticalEvidence)}
variable {conclude : List TimeframeAnalysis → Except ComputeError (Bias × Rat × List String)}

/-- What the engine says are reasons of its own. -/
def NamesReasons (conclude : List TimeframeAnalysis → Except ComputeError (Bias × Rat × List String)) :
    Prop :=
  ∀ states bias confidence reasonCodes, conclude states = .ok (bias, confidence, reasonCodes) →
    ∀ code ∈ reasonCodes, code ∈ ["TIMEFRAME_CONFLICT", "HIGH_VOLATILITY", "NO_CLEAR_EDGE"]

/-- The body raises what its parts do. -/
theorem analyzeSeriesBy_caught
    (htimeframe : ∀ s ∈ roleInput.marketData.series, Caught (analyzeTimeframe s))
    (hconclude : ∀ states, states ≠ [] → Caught (conclude states)) :
    Caught (analyzeSeriesBy analyzeTimeframe conclude definition roleInput roleVersion) := by
  unfold analyzeSeriesBy
  simp only
  -- assets, completeness, features, opinion, ranges and result, in this order
  split
  · exact failsWith_error rfl
  split
  · exact abstain_caught _ _
  refine failsWith_bind (failsWith_mapM htimeframe) fun computations _ => ?_
  split
  · exact abstain_caught _ _
  · rename_i hne
    refine failsWith_bind (hconclude _ (by simpa using hne)) fun _ _ => ?_
    refine failsWith_bind (failsWith_mapM fun _ _ => construct_caught _ _) fun _ _ => ?_
    exact construct_caught _ _

/-- It returns an abstention, or an opinion with its data. -/
theorem analyzeSeriesBy_concludes (hreasons : NamesReasons conclude) {r : AgentAnalysisResult}
    (h : analyzeSeriesBy analyzeTimeframe conclude definition roleInput roleVersion = .ok r) :
    Concludes definition roleInput roleVersion r.val := by
  unfold analyzeSeriesBy at h
  simp only at h
  split at h
  · cases h
  split at h
  -- incomplete data or no states: an abstention
  · exact abstain_concludes (by decide) h
  obtain ⟨computations, -, h⟩ := Except.bind_eq_ok.mp h
  split at h
  · exact abstain_concludes (by decide) h
  -- an opinion, whose reasons are named
  · obtain ⟨⟨bias, confidence, reasonCodes⟩, hopinion, h⟩ := Except.bind_eq_ok.mp h
    obtain ⟨ranges, -, h⟩ := Except.bind_eq_ok.mp h
    rw [construct_val h]
    refine ⟨rfl, rfl, rfl, rfl, ?_, .inl rfl, rfl, rfl⟩
    intro code hcode
    have hmem := hreasons _ _ _ _ hopinion code (List.mem_eraseDups.mp hcode)
    simp only [List.mem_cons, List.not_mem_nil, or_false] at hmem
    rcases hmem with rfl | rfl | rfl <;> decide

/-- On a bundle whose ranges are in order the engine returns a result, or it raises what its body
    raised and the clause around it does not catch. -/
theorem analyzeBy_cases (hreasons : NamesReasons conclude)
    (hranges : ∀ s ∈ roleInput.marketData.series, s.firstBar.openTime ≤ s.lastBar.closeTime) :
    (∃ r, analyzeBy analyzeTimeframe conclude definition roleInput roleVersion = .ok r ∧
      Concludes definition roleInput roleVersion r.val) ∨
    ∃ e, analyzeSeriesBy analyzeTimeframe conclude definition roleInput roleVersion = .error e ∧
      e.isCaught = false ∧
      analyzeBy analyzeTimeframe conclude definition roleInput roleVersion = .error e := by
  unfold analyzeBy
  cases hseries : analyzeSeriesBy analyzeTimeframe conclude definition roleInput roleVersion with
  | ok r => exact .inl ⟨r, rfl, analyzeSeriesBy_concludes hreasons hseries⟩
  | error e =>
    cases hcaught : e.isCaught with
    | true =>
      obtain ⟨r, hr⟩ := @abstain_ok definition roleInput roleVersion hranges
        "FEATURE_FAILURE" .invalid
      refine .inl ⟨r, ?_, abstain_concludes (by decide) hr⟩
      simp only [if_true, hr, hcaught]
    | false => exact .inr ⟨e, rfl, hcaught, by simp [hcaught]⟩

end Engines

/-- The opinion of some states raises nothing that escapes. -/
theorem conclude_caught (engine : TechnicalAnalysisEngine) {states : List TimeframeAnalysis}
    (hne : states ≠ []) : Caught (engine.conclude states) :=
  failsWith_bind (opinion_caught engine.config hne) fun _ _ => failsWith_ok _

/-- Its reasons are known texts. -/
theorem conclude_reasons (engine : TechnicalAnalysisEngine) : NamesReasons engine.conclude := by
  intro states bias confidence reasonCodes h
  obtain ⟨⟨_, _, _⟩, hopinion, h⟩ := Except.bind_eq_ok.mp h
  cases h
  exact opinion_reasons hopinion

/-- So the body of `analyze` lets nothing escape, in exact arithmetic. -/
theorem analyzeSeries_caught (engine : TechnicalAnalysisEngine) :
    Caught (engine.analyzeSeries definition roleInput roleVersion) :=
  analyzeSeriesBy_caught (fun s _ => engine.analyzeTimeframe_caught s)
    fun _ hne => engine.conclude_caught hne

/-- The engine returns a result on a bundle whose ranges are in order. -/
theorem analyze_ok (hranges : ∀ s ∈ roleInput.marketData.series,
    s.firstBar.openTime ≤ s.lastBar.closeTime) (engine : TechnicalAnalysisEngine) :
    ∃ r, engine.analyze definition roleInput roleVersion = .ok r ∧
      Concludes definition roleInput roleVersion r.val := by
  rcases analyzeBy_cases engine.conclude_reasons hranges with hok | ⟨e, he, hcaught, -⟩
  · exact hok
  · rw [engine.analyzeSeries_caught e he] at hcaught
    cases hcaught

end Results

end TechnicalAnalysisEngine

end Tomiris
