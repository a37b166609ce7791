import Tomiris.Roles.FloatTechnical
import Tomiris.Spec.Bundles
import Tomiris.Spec.FloatFeatures

/-!
# What the engine raises on floats

The weights and thresholds of a configuration are positive, so nothing in the opinion divides by
zero, and what is not finite is refused by a validator. Only the features of a series let an
exception pass that the clause around `analyze` does not catch.

## Key results

- `Floats.TechnicalAnalysisEngine.analyzeTimeframe_caught_iff`: what the analysis of a series raises
- `Floats.TechnicalAnalysisEngine.conclude_caught`: an opinion raises only what is caught
- `Floats.TechnicalAnalysisEngine.analyze_caught_iff`: what the engine raises on a planned bundle
-/

namespace Tomiris

open Except FloatFormat
open TechnicalAnalysisEngine (Caught Isolated Complete Concludes Indicators NamesReasons
  analyzeBy analyzeBy_cases analyzeSeriesBy analyzeSeriesBy_caught_iff construct_caught
  named_reasons readIndicators_caught timeframeEvidence_caught)

/-- The check of a finite value raises a `ValueError`. -/
theorem checkFinite_caught (message : String) (x : PyFloat) : Caught (checkFinite message x) := by
  unfold checkFinite
  split
  · exact failsWith_error rfl
  · exact failsWith_ok _

namespace Floats

/-- A positive float is not zero. -/
theorem isZero_of_positive {x : PyFloat} (h : x.le (.finite 0) = false) : x.isZero = false := by
  cases x with
  | finite q =>
    have hpos : 0 < q := by simpa [PyFloat.le] using h
    simp [PyFloat.isZero, hpos.ne']
  | nan => rfl
  | posInf => rfl
  | negInf => rfl

namespace TechnicalAnalysisEngine

section Timeframe

variable (tools : FloatTools)

/-- The state of the volatility raises nothing that is not caught. -/
theorem volatilityOf_caught (config : TechnicalFields PyFloat) (atrPercent volatility : PyFloat) :
    Caught (volatilityOf tools config atrPercent volatility) := by
  unfold volatilityOf
  split
  · exact failsWith_ok _
  split
  · exact failsWith_ok _
  · have hthree : (tools.float 3).isZero = false := by
      simpa using @float_ne_zero tools 3 (by decide)
    exact (divide_bind_caught_iff fun _ => failsWith_ok _).mpr hthree

/-- Nor does the state of a timeframe. -/
theorem timeframeState_caught (config : TechnicalFields PyFloat) (s : MarketDataSeries)
    (close : PyFloat) (x : Indicators) :
    Caught (timeframeState tools config s close x) := by
  unfold timeframeState
  simp only
  refine failsWith_bind (volatilityOf_caught tools config _ _) fun _ _ => ?_
  refine failsWith_bind (checkFinite_caught _ _) fun _ _ => ?_
  exact construct_caught _ _

/-- Behind its features the analysis of a series raises only what is caught. -/
theorem analyzeTimeframe_caught_iff (engine : TechnicalAnalysisEngine) (s : MarketDataSeries) :
    Caught (engine.analyzeTimeframe s) ↔ ¬ Escapes engine.tools engine.config.pipeline s := by
  rw [← pipeline_caught_iff]
  unfold analyzeTimeframe
  refine failsWith_bind_iff.trans (and_iff_left fun features hfeatures => ?_)
  -- behind the pipeline, only `KeyError` and `ValueError`
  obtain ⟨emaFast, emaSlow, rsi, macd, atr, return', volatility, volume, rfl, hreports⟩ :=
    pipeline_reports hfeatures
  split
  · exact failsWith_error rfl
  · refine failsWith_bind (readIndicators_caught hreports)
      fun x _ => ?_
    rw [fromEnd_lastClose, ok_bind]
    refine failsWith_bind (timeframeState_caught _ _ s _ x) fun state _ => ?_
    exact failsWith_bind (timeframeEvidence_caught hreports
      _ _ _ _ _ _ _ _ _ _ _) fun _ _ => failsWith_ok _

end Timeframe

section Opinion

variable (engine : TechnicalAnalysisEngine) {states : List TimeframeAnalysis}

/-- A weight is a positive float. -/
theorem weight_positive (timeframe : Timeframe) :
    engine.tools.format.IsFloat (weight engine.tools engine.config.toTechnicalFields timeframe) ∧
      Positive (weight engine.tools engine.config.toTechnicalFields timeframe) := by
  unfold weight
  cases hlookup : engine.config.timeframeWeights.lookup timeframe with
  | none =>
    have hone : engine.tools.float 1 = .finite 1 := isFloat_one 1 rfl
    rw [Option.getD_none, hone]
    exact ⟨isFloat_one, by decide⟩
  | some weight => exact engine.config.valid.weights.2 _ (BoundedMap.mem_of_lookup hlookup)

/-- The weighted score divides by weights that do not add up to zero. -/
theorem weightedScore_ok (hne : states ≠ []) :
    ∃ weighted, weightedScore engine.tools engine.config.toTechnicalFields states =
      .ok weighted := by
  refine divide_ok (engine.tools.sum_ne_zero _ ?_ ?_)
  · exact fun hnil => hne (List.map_eq_nil_iff.mp hnil)
  · intro x hx
    obtain ⟨state, -, rfl⟩ := List.mem_map.mp hx
    exact weight_positive engine state.val.timeframe

/-- The thresholds and the number of states are not zero. -/
theorem opinion_caught (hne : states ≠ []) :
    Caught (opinion engine.tools engine.config.toTechnicalFields states) := by
  unfold opinion
  refine failsWith_bind (failsWith_of_ok (weightedScore_ok engine hne)) fun weighted _ => ?_
  simp only
  split
  · exact (divide_bind_caught_iff fun _ => failsWith_ok _).mpr
      (isZero_of_positive engine.config.valid.neutral.1)
  · refine failsWith_bind (divide_caught_iff.mpr ?_) fun _ _ => ?_
    · exact float_ne_zero (List.length_pos_of_ne_nil hne)
    · exact (divide_bind_caught_iff fun _ => failsWith_ok _).mpr
        (isZero_of_positive engine.config.valid.strong_trend.1)

/-- The conclusion raises nothing that is not caught. -/
theorem conclude_caught (hne : states ≠ []) : Caught (engine.conclude states) := by
  refine failsWith_bind (opinion_caught engine hne) fun _ _ => ?_
  refine failsWith_bind (checkFinite_caught _ _) fun _ _ => ?_
  exact failsWith_bind (checkFinite_caught _ _) fun _ _ => failsWith_ok _

/-- Its reason codes are codes of the engine. -/
theorem conclude_reasons : NamesReasons engine.conclude := by
  intro states bias confidence reasonCodes h
  obtain ⟨⟨_, _, _⟩, hopinion, h⟩ := bind_eq_ok.mp h
  obtain ⟨_, -, h⟩ := bind_eq_ok.mp h
  obtain ⟨_, -, h⟩ := bind_eq_ok.mp h
  cases h
  unfold opinion at hopinion
  obtain ⟨weighted, -, hopinion⟩ := bind_eq_ok.mp hopinion
  simp only at hopinion
  split at hopinion
  · obtain ⟨ratio, -, hopinion⟩ := bind_eq_ok.mp hopinion
    cases hopinion
    intro code hcode
    -- neutral adds one code of its own
    rcases List.mem_append.mp hcode with hcode | hcode
    · exact named_reasons _ _ code hcode
    · exact List.mem_cons_of_mem _ (List.mem_cons_of_mem _ hcode)
  · obtain ⟨agreement, -, hopinion⟩ := bind_eq_ok.mp hopinion
    obtain ⟨strength, -, hopinion⟩ := bind_eq_ok.mp hopinion
    cases hopinion
    exact named_reasons _ _

end Opinion

section Results

variable {engine : TechnicalAnalysisEngine} {definition : AgentDefinition} {roleInput : RoleInput}
variable {roleVersion : String}

/-- No exception leaves the features of the series that are reached: those before which every series
    is analysed. -/
def NoneEscapes (engine : TechnicalAnalysisEngine) (series : List MarketDataSeries) : Prop :=
  ∀ before s after, series = before ++ s :: after →
    (∀ earlier ∈ before, ∃ computation, engine.analyzeTimeframe earlier = .ok computation) →
    ¬ Escapes engine.tools engine.config.pipeline s

/-- The engine returns a result on a bundle that passes its checks, or it raises what leaves the
    features of a series. -/
theorem analyze_cases (hranges : ∀ s ∈ roleInput.marketData.series,
    s.firstBar.openTime ≤ s.lastBar.closeTime) (hisolated : Isolated roleInput)
    (hcomplete : Complete definition roleInput) :
    NoneEscapes engine roleInput.marketData.series ∧
      (∃ r, engine.analyze definition roleInput roleVersion = .ok r ∧
        Concludes definition roleInput roleVersion r.val) ∨
    ¬ NoneEscapes engine roleInput.marketData.series ∧
      ∃ e, engine.analyze definition roleInput roleVersion = .error e := by
  have hcaught : Caught (analyzeSeriesBy engine.analyzeTimeframe
      engine.conclude definition roleInput roleVersion) ↔
      NoneEscapes engine roleInput.marketData.series := by
    refine (analyzeSeriesBy_caught_iff hisolated hcomplete
      fun _ hne => engine.conclude_caught hne).trans (failsWith_mapM_iff.trans ?_)
    simp only [← analyzeTimeframe_caught_iff, NoneEscapes]
  by_cases hnone : NoneEscapes engine roleInput.marketData.series
  · refine .inl ⟨hnone, ?_⟩
    rcases analyzeBy_cases engine.conclude_reasons hranges with
      hok | ⟨e, he, hfalse, -⟩
    · exact hok
    · rw [hcaught.mpr hnone e he] at hfalse
      cases hfalse
  · refine .inr ⟨hnone, ?_⟩
    -- what the body raises is not caught
    cases hbody : analyzeSeriesBy engine.analyzeTimeframe
        engine.conclude definition roleInput roleVersion with
    | ok r => exact absurd (hcaught.mp (failsWith_of_ok ⟨r, hbody⟩)) hnone
    | error e =>
      refine ⟨e, ?_⟩
      cases hfalse : e.isCaught with
      | true =>
        refine absurd (hcaught.mp ?_) hnone
        rw [hbody]
        exact failsWith_error hfalse
      | false => simp [analyze, analyzeBy, hbody, hfalse]

end Results

end TechnicalAnalysisEngine

end Floats

end Tomiris
