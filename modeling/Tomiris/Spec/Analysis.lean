import Tomiris.Spec.HonestEnvelope
import Tomiris.Spec.Measurements
import Tomiris.Spec.Opinion

/-!
# What an analysis concludes

`analyze` on a valid input in closed form. A series with enough bars has a state, and one without
raises what is caught. What the engine returns is an abstention, or it has passed its checks, every
series has its state, and the opinion is the one that is concluded from the states.

## Key results

- `analyzeTimeframe_eq`: the analysis of one series
- `analyzeSeries_eq_ok`: when the body of `analyze` returns an opinion
- `analyze_cases`, `analyze_of_opines`: what the engine returns
-/

namespace Tomiris

open Except

namespace TechnicalAnalysisEngine

section Timeframe

variable (engine : TechnicalAnalysisEngine) (s : MarketDataSeries)

/-- The state of a timeframe passes its validators. -/
theorem timeframeState_valid (c : TechnicalFields) (close : Rat) (x : Indicators) :
    TimeframeFields.Valid (timeframeState c s close x) :=
  ⟨le_min (by norm_num) (le_max_left _ _), min_le_left _ _⟩

/-- The state of a series with enough bars. -/
def stateOf : TimeframeAnalysis :=
  ⟨timeframeState engine.config.toTechnicalFields s (nthLast s.closes 0)
    (measure engine.ops engine.config.pipeline.toPipelineFields s),
    timeframeState_valid s engine.config.toTechnicalFields _ _⟩

/-- The evidence for it. -/
def evidenceOf : Except ComputeError (List AnalyticalEvidence) :=
  let x := measure engine.ops engine.config.pipeline.toPipelineFields s
  let state := (engine.stateOf s).val
  timeframeEvidence engine.evidenceType engine.ops.general engine.config.pipeline s
    (reportedFeatures engine.ops engine.config.pipeline.toPipelineFields s) (nthLast s.closes 0)
    x.slow x.rsi x.histogram x.atrPercent x.realizedVolatility state.trend state.momentum
    state.volatility

/-- Features that are not valid all have the same reason. -/
theorem reported_reason {feature : FeatureResult} (ops : FloatOps) (c : PipelineFields)
    (h : feature ∈ reportedFeatures ops c s) (hinvalid : feature.valid = false) :
    feature.reasonCode = some "INSUFFICIENT_HISTORY" := by
  have hone : ∀ (f : Feature) (history : Nat) (values : List (String × Rat)),
      (f.reported s history values).valid = false →
        (f.reported s history values).reasonCode = some "INSUFFICIENT_HISTORY" := by
    intro f history values hfalse
    unfold Feature.reported at hfalse ⊢
    split
    · rename_i hle
      rw [if_pos hle] at hfalse
      cases hfalse
    · rfl
  -- it is one of the eight
  simp only [reportedFeatures, List.mem_cons, List.not_mem_nil, or_false] at h
  rcases h with rfl | rfl | rfl | rfl | rfl | rfl | rfl | rfl <;> exact hone _ _ _ hinvalid

/-- The analysis of a series: its state with the evidence, or that it is too short. -/
theorem analyzeTimeframe_eq : engine.analyzeTimeframe s =
    if engine.config.pipeline.requiredHistory ≤ s.bars.length then
      (engine.evidenceOf s).map fun evidence => (engine.stateOf s, evidence)
    else .error (.valueError "INSUFFICIENT_HISTORY") := by
  unfold analyzeTimeframe
  rw [pipeline_eq]
  simp only [bind, Except.bind]
  have hall := reportedFeatures_all engine.ops engine.config.pipeline s
  by_cases hhistory : engine.config.pipeline.requiredHistory ≤ s.bars.length
  -- enough bars: no feature is invalid, and the state passes its validator
  · have hnone : (reportedFeatures engine.ops engine.config.pipeline.toPipelineFields s).find?
        (fun f => ! f.valid) = none := by
      rw [List.find?_eq_none]
      intro f hf
      simp [hall.mpr hhistory f hf]
    have hclose := @fromEnd_eq s.closes 0 (by simpa using s.bars_pos)
    have hstate := construct_ok (timeframeState_valid s engine.config.toTechnicalFields
      (nthLast s.closes 0) (measure engine.ops engine.config.pipeline.toPipelineFields s))
    rw [hnone, if_pos hhistory]
    simp only [readIndicators_measure engine.ops engine.config.pipeline s hhistory, hclose, hstate]
    unfold evidenceOf stateOf
    cases timeframeEvidence engine.evidenceType engine.ops.general engine.config.pipeline s _ _ _ _
      _ _ _ _ _ _ with
    | error e => rfl
    | ok evidence => rfl
  -- too few: the first invalid feature names the reason
  · rw [if_neg hhistory]
    cases hfind : (reportedFeatures engine.ops engine.config.pipeline.toPipelineFields s).find?
        (fun f => ! f.valid) with
    | none =>
      rw [List.find?_eq_none] at hfind
      exact absurd (hall.mp fun f hf => by simpa using hfind f hf) hhistory
    | some f =>
      have hinvalid : f.valid = false := by simpa using List.find?_some hfind
      simp only [reported_reason s _ _ (List.mem_of_find?_eq_some hfind) hinvalid,
        Option.getD_some]

end Timeframe

section Engine

variable {engine : TechnicalAnalysisEngine} {definition : AgentDefinition} {roleInput : RoleInput}
variable {roleVersion : String} {r : AgentAnalysisResult}

/-- The result for the evidence and the ranges that were made. -/
def opinedFields (engine : TechnicalAnalysisEngine) (definition : AgentDefinition)
    (roleInput : RoleInput) (roleVersion : String) (evidence : List (List AnalyticalEvidence))
    (ranges : List AnalysisDataRange) : ResultFields :=
  let states := roleInput.marketData.series.map engine.stateOf
  let concluded := concluded engine.config.toTechnicalFields states
  { analysisSchemaVersion := definition.analysisSchemaVersion
    roleId := definition.roleId
    roleVersion := roleVersion
    configVersion := definition.configVersion
    featurePipelineVersion := TechnicalFeaturePipeline.pipelineVersion
    snapshotId := roleInput.context.snapshotId
    asset := roleInput.context.task.asset
    bias := concluded.1
    confidence := roundDigits concluded.2.1 6
    dataQuality := .valid
    reasonCodes := concluded.2.2.eraseDups
    timeframeStates := states
    evidence := evidence.flatten.take definition.maxEvidenceItems.toNat
    dataRanges := ranges
    dataProvider := joinProviders roleInput.marketData.series
    dataAsOf := latestClose roleInput.marketData.series roleInput.context.asOf
    analysisAsOf := roleInput.context.asOf }

/-- The engine comes to an opinion. -/
structure Opines (engine : TechnicalAnalysisEngine) (definition : AgentDefinition)
    (roleInput : RoleInput) (roleVersion : String) (r : ResultFields) : Prop where
  isolated : Isolated roleInput
  complete : Complete definition roleInput
  history : ∀ s ∈ roleInput.marketData.series,
    engine.config.pipeline.requiredHistory ≤ s.bars.length
  formed : ∃ evidence ranges,
    List.Forall₂ (fun s items => engine.evidenceOf s = .ok items) roleInput.marketData.series
      evidence ∧
    dataRanges roleInput = .ok ranges ∧
    r = opinedFields engine definition roleInput roleVersion evidence ranges

/-- The analyses of the series, one after the other. -/
theorem mapM_analyzeTimeframe {series : List MarketDataSeries}
    {computations : List (TimeframeAnalysis × List AnalyticalEvidence)} :
    series.mapM engine.analyzeTimeframe = .ok computations ↔
      (∀ s ∈ series, engine.config.pipeline.requiredHistory ≤ s.bars.length) ∧
      ∃ evidence, List.Forall₂ (fun s items => engine.evidenceOf s = .ok items) series evidence ∧
        computations = (series.map engine.stateOf).zip evidence := by
  rw [mapM_eq_ok]
  constructor
  · intro hall
    -- series by series: long enough, and its evidence is built
    induction hall with
    | nil => exact ⟨by simp, [], .nil, rfl⟩
    | cons hone _ ih =>
      obtain ⟨hhistory, evidence, hevidence, rfl⟩ := ih
      rw [analyzeTimeframe_eq] at hone
      split at hone
      · rename_i hle
        obtain ⟨items, hitems, rfl⟩ := map_eq_ok.mp hone
        exact ⟨List.forall_mem_cons.mpr ⟨hle, hhistory⟩, items :: evidence,
          .cons hitems hevidence, rfl⟩
      · cases hone
  · rintro ⟨hhistory, evidence, hevidence, rfl⟩
    induction hevidence with
    | nil => exact .nil
    | cons hone _ ih =>
      rw [List.forall_mem_cons] at hhistory
      refine .cons ?_ (ih hhistory.2)
      rw [analyzeTimeframe_eq, if_pos hhistory.1, hone]
      rfl

/-- The states of the analyses. -/
theorem analyses_fst {evidence : List (List AnalyticalEvidence)} {series : List MarketDataSeries}
    (h : List.Forall₂ (fun s items => engine.evidenceOf s = .ok items) series evidence) :
    ((series.map engine.stateOf).zip evidence).map (fun item => item.1) =
      series.map engine.stateOf :=
  List.map_fst_zip (by rw [List.length_map, h.length_eq])

/-- The evidence of the analyses. -/
theorem analyses_snd {evidence : List (List AnalyticalEvidence)} {series : List MarketDataSeries}
    (h : List.Forall₂ (fun s items => engine.evidenceOf s = .ok items) series evidence) :
    ((series.map engine.stateOf).zip evidence).flatMap (fun item => item.2) = evidence.flatten := by
  rw [List.flatMap_def, List.map_snd_zip (by rw [List.length_map, h.length_eq])]

/-- What is concluded from at least one state. -/
theorem conclude_eq {states : List TimeframeAnalysis} (hne : states ≠ []) :
    engine.conclude states =
      .ok ((concluded engine.config.toTechnicalFields states).1,
        roundDigits (concluded engine.config.toTechnicalFields states).2.1 6,
        (concluded engine.config.toTechnicalFields states).2.2) := by
  unfold conclude
  rw [opinion_eq hne]
  rfl

/-- The body of `analyze` on a bundle with a series of another asset. -/
theorem analyzeSeries_foreign (h : ¬ Isolated roleInput) :
    engine.analyzeSeries definition roleInput roleVersion =
      .error (.valueError "market-data asset isolation failure") := by
  have hguard : roleInput.marketData.series.any
      (fun s => s.instrument != roleInput.context.task.asset) = true := by
    by_contra hnot
    simp only [List.any_eq_true, bne_iff_ne, not_exists, not_and, not_not] at hnot
    exact h hnot
  unfold analyzeSeries analyzeSeriesBy
  simp only
  rw [if_pos hguard]

/-- On a bundle with other series than the definition expects. -/
theorem analyzeSeries_incomplete (hisolated : Isolated roleInput)
    (h : ¬ Complete definition roleInput) :
    engine.analyzeSeries definition roleInput roleVersion =
      abstain definition roleInput roleVersion "INSUFFICIENT_HISTORY" .insufficient := by
  have hchecks : actualSeries roleInput ≠ expectedSeries definition ∨
      (actualSeries roleInput).card ≠ roleInput.marketData.series.length := by
    rwa [Complete, not_and_or] at h
  rw [actualSeries, expectedSeries] at hchecks
  unfold analyzeSeries analyzeSeriesBy
  simp only
  rw [if_neg (not_any_of_isolated hisolated), if_pos hchecks]

/-- On a bundle that passes the checks the body of `analyze` returns an opinion. -/
theorem analyzeSeries_eq_ok (hisolated : Isolated roleInput)
    (hcomplete : Complete definition roleInput) :
    engine.analyzeSeries definition roleInput roleVersion = .ok r ↔
      Opines engine definition roleInput roleVersion r.val := by
  have hguard := not_any_of_isolated hisolated
  have hchecks : ¬ (actualSeries roleInput ≠ expectedSeries definition ∨
      (actualSeries roleInput).card ≠ roleInput.marketData.series.length) := by
    rw [not_or, not_not, not_not]
    exact hcomplete
  have hstates : roleInput.marketData.series.map engine.stateOf ≠ [] :=
    fun h => series_ne_nil roleInput.marketData (List.map_eq_nil_iff.mp h)
  have hnotEmpty : (roleInput.marketData.series.map engine.stateOf).isEmpty = false := by
    simpa using series_ne_nil roleInput.marketData
  rw [actualSeries, expectedSeries] at hchecks
  unfold analyzeSeries analyzeSeriesBy
  simp only
  rw [if_neg hguard, if_neg hchecks, bind_eq_ok]
  constructor
  · rintro ⟨computations, hcomputations, h⟩
    obtain ⟨hhistory, evidence, hevidence, rfl⟩ := mapM_analyzeTimeframe.mp hcomputations
    rw [analyses_fst hevidence, analyses_snd hevidence, hnotEmpty, conclude_eq hstates] at h
    obtain ⟨_, hopinion, h⟩ := bind_eq_ok.mp h
    cases hopinion
    obtain ⟨ranges, hranges, h⟩ := bind_eq_ok.mp h
    exact ⟨hisolated, hcomplete, hhistory, evidence, ranges, hevidence, hranges, construct_val h⟩
  · rintro ⟨-, -, hhistory, evidence, ranges, hevidence, hranges, hfields⟩
    refine ⟨_, mapM_analyzeTimeframe.mpr ⟨hhistory, evidence, hevidence, rfl⟩, ?_⟩
    rw [analyses_fst hevidence, analyses_snd hevidence, hnotEmpty, conclude_eq hstates]
    refine bind_eq_ok.mpr ⟨_, rfl, bind_eq_ok.mpr ⟨ranges, hranges, ?_⟩⟩
    -- the fields are those of a result, so they pass its validator
    have hvalid : (opinedFields engine definition roleInput roleVersion evidence ranges).Valid :=
      hfields ▸ r.property
    exact (construct_ok hvalid).trans (congrArg Except.ok (Subtype.ext hfields.symm))

/-- An abstention has one reason and no states. -/
theorem abstain_fields {reason : String} {quality : DataQualityOutcome}
    (h : abstain definition roleInput roleVersion reason quality = .ok r) :
    r.val.bias = .abstain ∧ r.val.reasonCodes = [reason] ∧ r.val.timeframeStates = [] := by
  obtain ⟨ranges, -, h⟩ := bind_eq_ok.mp h
  rw [construct_val h]
  exact ⟨rfl, rfl, rfl⟩

/-- Whether the engine can abstain does not depend on the reason. -/
theorem abstain_ok_of_abstain {reason reason' : String} {quality quality' : DataQualityOutcome}
    (h : abstain definition roleInput roleVersion reason quality = .ok r) :
    ∃ r', abstain definition roleInput roleVersion reason' quality' = .ok r' := by
  obtain ⟨ranges, hranges, -⟩ := bind_eq_ok.mp h
  exact abstain_of_ranges hranges reason' quality'

/-- What the engine returns: an opinion, or an abstention for the reason that applies. -/
theorem analyze_cases (h : engine.analyze definition roleInput roleVersion = .ok r) :
    Opines engine definition roleInput roleVersion r.val ∨
    (Isolated roleInput ∧ ¬ Complete definition roleInput) ∧
      abstain definition roleInput roleVersion "INSUFFICIENT_HISTORY" .insufficient = .ok r ∨
    ¬ (Isolated roleInput ∧ ¬ Complete definition roleInput) ∧
      abstain definition roleInput roleVersion "FEATURE_FAILURE" .invalid = .ok r := by
  unfold analyze analyzeBy at h
  rw [← analyzeSeries] at h
  by_cases hisolated : Isolated roleInput
  · by_cases hcomplete : Complete definition roleInput
    · cases hseries : engine.analyzeSeries definition roleInput roleVersion with
      | ok r' =>
        rw [hseries] at h
        cases h
        exact .inl ((analyzeSeries_eq_ok hisolated hcomplete).mp hseries)
      -- what is raised is caught, and the bundle passed the checks
      | error e =>
        simp only [hseries, analyzeSeries_caught engine e hseries, if_true] at h
        exact .inr (.inr ⟨fun hchecks => hchecks.2 hcomplete, h⟩)
    · rw [analyzeSeries_incomplete hisolated hcomplete] at h
      cases habstain : abstain definition roleInput roleVersion "INSUFFICIENT_HISTORY"
          .insufficient with
      | ok r' =>
        rw [habstain] at h
        cases h
        exact .inr (.inl ⟨⟨hisolated, hcomplete⟩, rfl⟩)
      -- the second attempt to abstain fails like the first
      | error e =>
        simp only [habstain, abstain_caught _ _ e habstain, if_true] at h
        obtain ⟨r', hr'⟩ := abstain_ok_of_abstain h
        rw [hr'] at habstain
        cases habstain
  · simp only [analyzeSeries_foreign hisolated, ComputeError.isCaught, if_true] at h
    exact .inr (.inr ⟨fun hchecks => hisolated hchecks.1, h⟩)

/-- Every opinion is returned. -/
theorem analyze_of_opines (h : Opines engine definition roleInput roleVersion r.val) :
    engine.analyze definition roleInput roleVersion = .ok r := by
  unfold analyze analyzeBy
  rw [← analyzeSeries, (analyzeSeries_eq_ok h.isolated h.complete).mpr h]

/-- A result that is no abstention is an opinion. -/
theorem opines_of_bias (h : engine.analyze definition roleInput roleVersion = .ok r)
    (hbias : r.val.bias ≠ .abstain) : Opines engine definition roleInput roleVersion r.val := by
  rcases analyze_cases h with hopines | ⟨-, habstain⟩ | ⟨-, habstain⟩
  · exact hopines
  · exact absurd (abstain_fields habstain).1 hbias
  · exact absurd (abstain_fields habstain).1 hbias

end Engine

end TechnicalAnalysisEngine

namespace Deployment

theorem singleton_bounds {α : Type} (a : α) : 1 ≤ [a].length ∧ [a].length ≤ 50 :=
  ⟨le_refl 1, show 1 ≤ 50 by decide⟩

/-- A definition with one hourly requirement. -/
theorem hourlyDefinition_valid {minimumBars : Nat} (h : 2 ≤ minimumBars ∧ minimumBars ≤ 999) :
    DefinitionFields.Valid { ethDefinition.toDefinitionFields with
      requiredData := [⟨"ETHUSDT", .h1, minimumBars, 7200⟩] } :=
  { ethDefinition.valid with
    required_data := singleton_bounds _
    requirements := by
      intro r hr
      rw [List.mem_singleton] at hr
      subst hr
      exact ⟨show isAsset "ETHUSDT" = true by decide, h, show 1 ≤ 7200 by decide,
        show 7200 ≤ 604800 by decide⟩
    instruments := by
      intro r hr
      rw [List.mem_singleton] at hr
      subst hr
      exact List.mem_singleton.mpr rfl
    unique := List.nodup_singleton _ }

/-- The definition of the agent for ETH with these many hours of data. -/
def hourlyDefinition (minimumBars : Nat) (h : 2 ≤ minimumBars ∧ minimumBars ≤ 999) :
    AgentDefinition where
  toDefinitionFields := { ethDefinition.toDefinitionFields with
    requiredData := [⟨"ETHUSDT", .h1, minimumBars, 7200⟩] }
  valid := hourlyDefinition_valid h

/-- An engine with the shortest periods. -/
def smallEngine (ops : FloatOps) : TechnicalAnalysisEngine where
  ops := ops
  config := TechnicalRoleConfig.defaults smallPipeline
  evidenceType := "technical_feature"

/-- The task for ETH with the series as its market data. -/
def ethInput (s : MarketDataSeries) : RoleInput where
  context :=
    { task := ethTask 0 86400
      snapshotId := 300
      asOf := s.asOf
      matching_snapshot := rfl }
  marketData :=
    { snapshotId := 300
      asOf := s.asOf
      series := [s]
      providers := [⟨s.provider, s.lastBar.receivedAt, s.lastBar.sourceTimestamp,
        s.lastBar.freshnessSeconds, s.lastBar.provenance⟩]
      series_bounds := singleton_bounds _
      providers_bounds := singleton_bounds _ }
  matching_snapshot := rfl
  matching_cutoff := rfl

end Deployment

end Tomiris
