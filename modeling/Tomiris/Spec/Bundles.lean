import Tomiris.Roles.Registry
import Tomiris.Spec.Technical

/-!
# The bundle of a role

The planner takes the requirements for the asset of a task, where the engine expects all of them.
A bundle with one series for each planned request is of the asset, and complete exactly if the
definition asks for nothing else. The engines analyse such a bundle series by series.

## Key results

- `plan_eq_ok`, `plan_ok`: what is planned
- `isolated_of_planned`, `complete_of_planned`: when a planned bundle passes the engine's checks
- `analyzeSeriesBy_caught_iff`: what the analysis of such a bundle raises
-/

namespace Tomiris

open Except TechnicalAnalysisEngine

section Plans

/-- The request for a data requirement. -/
def plannedFields (item : RoleDataRequirement) (asOf : Int) : RequestFields where
  instrument := item.instrument
  timeframe := item.timeframe
  minimumBars := item.minimumBars
  asOf := asOf
  maxDataAgeSeconds := item.maxDataAgeSeconds
  closedOnly := true

theorem makeRequest_eq_ok {fields : RequestFields} {request : MarketDataRequest}
    (h : makeRequest fields = .ok request) : request.toRequestFields = fields := by
  unfold makeRequest at h
  split at h
  · cases h
    rfl
  · cases h

/-- What is planned: a request for each requirement that is for the asset. -/
theorem plan_eq_ok {definition : AgentDefinition} {asset : String} {asOf : Int}
    {requests : List MarketDataRequest}
    (h : RoleDataPlanner.plan definition asset asOf = .ok requests) :
    List.Forall₂ (fun item request => request.toRequestFields = plannedFields item asOf)
      (definition.requiredData.filter (fun item => item.instrument == asset)) requests := by
  unfold RoleDataPlanner.plan at h
  simp only at h
  split at h
  · cases h
  split at h
  · cases h
  exact (mapM_eq_ok.mp h).imp fun item request hmade => makeRequest_eq_ok hmade

/-- There is a plan for the asset of every requirement. -/
theorem plan_of_mem {definition : AgentDefinition} {item : RoleDataRequirement} {asOf : Int}
    (hitem : item ∈ definition.requiredData) (hcutoff : isDatetime asOf = true) :
    ∃ requests, RoleDataPlanner.plan definition item.instrument asOf = .ok requests := by
  have hrelevant : item ∈ definition.requiredData.filter
      (fun other => other.instrument == item.instrument) :=
    List.mem_filter.mpr ⟨hitem, beq_self_eq_true _⟩
  have hne : (definition.requiredData.filter
      (fun other => other.instrument == item.instrument)).isEmpty = false :=
    List.isEmpty_eq_false_iff.mpr (List.ne_nil_of_mem hrelevant)
  -- a requirement of a definition makes a valid request
  have hone : ∀ other ∈ definition.requiredData.filter
      (fun other => other.instrument == item.instrument),
      ∃ request, makeRequest (plannedFields other asOf) = .ok request := by
    intro other hother
    obtain ⟨hinstrument, hbars, hage⟩ :=
      definition.valid.requirements other (List.mem_filter.mp hother).1
    exact ⟨_, dif_pos ⟨hinstrument, hbars, hcutoff, hage⟩⟩
  obtain ⟨requests, hrequests⟩ := mapM_ok hone
  refine ⟨requests, ?_⟩
  unfold RoleDataPlanner.plan
  simp only [definition.valid.instruments item hitem, not_true_eq_false, if_false, hne]
  exact hrequests

/-- A definition with one asset asks for no other. -/
theorem requirements_of_asset {definition : AgentDefinition} {asset : String}
    (h : definition.supportedAssets = [asset]) :
    ∀ item ∈ definition.requiredData, item.instrument = asset := by
  intro item hitem
  have hmem := definition.valid.instruments item hitem
  rwa [h, List.mem_singleton] at hmem

/-- A definition with one asset plans a request for each of its data requirements. -/
theorem plan_ok {definition : AgentDefinition} {asset : String} {asOf : Int}
    (hasset : definition.supportedAssets = [asset]) (hcutoff : isDatetime asOf = true) :
    ∃ requests, RoleDataPlanner.plan definition asset asOf = .ok requests ∧
      (1 ≤ requests.length ∧ requests.length ≤ 50) ∧ ∀ r ∈ requests, r.asOf = asOf := by
  have hall := requirements_of_asset hasset
  -- all the requirements are for the one asset
  have hrelevant : definition.requiredData.filter (fun item => item.instrument == asset) =
      definition.requiredData := by
    refine List.filter_eq_self.mpr fun item hitem => ?_
    simpa using hall item hitem
  obtain ⟨item, hitem⟩ := List.exists_mem_of_length_pos definition.valid.required_data.1
  obtain ⟨requests, hrequests⟩ := plan_of_mem hitem hcutoff
  rw [hall item hitem] at hrequests
  have hplanned := plan_eq_ok hrequests
  rw [hrelevant] at hplanned
  refine ⟨requests, hrequests, ?_, ?_⟩
  · rw [← hplanned.length_eq]
    exact definition.valid.required_data
  · intro r hr
    obtain ⟨item, -, hfields⟩ := hplanned.exists_of_mem_right hr
    rw [hfields]
    rfl

end Plans

namespace TechnicalAnalysisEngine

section Bundles

variable {definition : AgentDefinition} {asset : String} {asOf : Int}
variable {requests : List MarketDataRequest} {roleInput : RoleInput}

/-- The series that the bundle has. -/
def actualSeries (roleInput : RoleInput) : Finset (String × Timeframe) :=
  (roleInput.marketData.series.map (fun s => (s.instrument, s.timeframe))).toFinset

/-- The series that the definition expects. -/
def expectedSeries (definition : AgentDefinition) : Finset (String × Timeframe) :=
  (definition.requiredData.map (fun r => (r.instrument, r.timeframe))).toFinset

/-- Every series is of the asset of the task. -/
def Isolated (roleInput : RoleInput) : Prop :=
  ∀ s ∈ roleInput.marketData.series, s.instrument = roleInput.context.task.asset

/-- No series is missing, none is surplus and none is there twice. -/
def Complete (definition : AgentDefinition) (roleInput : RoleInput) : Prop :=
  actualSeries roleInput = expectedSeries definition ∧
    (actualSeries roleInput).card = roleInput.marketData.series.length

theorem series_ne_nil (bundle : MarketDataBundle) : bundle.series ≠ [] :=
  List.length_pos_iff.mp bundle.series_bounds.1

theorem not_any_of_isolated (h : Isolated roleInput) : ¬ roleInput.marketData.series.any
    (fun s => s.instrument != roleInput.context.task.asset) = true := by
  simp only [List.any_eq_true, bne_iff_ne, not_exists, not_and, not_not]
  exact h

/-- What a series and a request are told apart by. -/
abbrev seriesKey (s : MarketDataSeries) : String × Timeframe := (s.instrument, s.timeframe)

abbrev requestKey (request : MarketDataRequest) : String × Timeframe :=
  (request.instrument, request.timeframe)

abbrev requirementKey (item : RoleDataRequirement) : String × Timeframe :=
  (item.instrument, item.timeframe)

/-- The requirements that are planned for an asset. -/
abbrev relevant (definition : AgentDefinition) (asset : String) : List RoleDataRequirement :=
  definition.requiredData.filter (fun item => item.instrument == asset)

/-- The bundle has exactly one series for each request. -/
def OnePerRequest (roleInput : RoleInput) (requests : List MarketDataRequest) : Prop :=
  (roleInput.marketData.series.map seriesKey).Perm (requests.map requestKey)

theorem requests_keys (hplan : RoleDataPlanner.plan definition asset asOf = .ok requests) :
    requests.map requestKey = (relevant definition asset).map requirementKey := by
  have hall := plan_eq_ok hplan
  have hkeys : List.Forall₂ (fun item request => requirementKey item = requestKey request)
      (relevant definition asset) requests := by
    refine hall.imp fun item request hfields => ?_
    rw [requestKey, hfields]
    rfl
  rw [← List.forall₂_eq_eq_eq, List.forall₂_map_left_iff, List.forall₂_map_right_iff]
  exact hkeys.flip.imp fun _ _ h => h.symm

theorem mem_relevant {item : RoleDataRequirement} :
    item ∈ relevant definition asset ↔
      item ∈ definition.requiredData ∧ item.instrument = asset := by
  simp [relevant]

/-- A bundle of the planned series is of the asset. -/
theorem isolated_of_planned (hplan : RoleDataPlanner.plan definition asset asOf = .ok requests)
    (htask : roleInput.context.task.asset = asset) (hone : OnePerRequest roleInput requests) :
    Isolated roleInput := by
  intro s hs
  have hkey : seriesKey s ∈ (relevant definition asset).map requirementKey := by
    rw [← requests_keys hplan]
    exact hone.mem_iff.mp (List.mem_map_of_mem hs)
  obtain ⟨item, hitem, heq⟩ := List.mem_map.mp hkey
  have hinstrument : item.instrument = s.instrument := congrArg Prod.fst heq
  rw [← hinstrument, htask]
  exact (mem_relevant.mp hitem).2

/-- It is complete exactly if the definition asks for nothing else. -/
theorem complete_of_planned (hplan : RoleDataPlanner.plan definition asset asOf = .ok requests)
    (hone : OnePerRequest roleInput requests) :
    Complete definition roleInput ↔ ∀ item ∈ definition.requiredData, item.instrument = asset := by
  have hactual : actualSeries roleInput =
      ((relevant definition asset).map requirementKey).toFinset := by
    rw [← requests_keys hplan]
    exact List.toFinset_eq_of_perm _ _ hone
  -- requirements differ in instrument or timeframe, so no series is there twice
  have hcard : (actualSeries roleInput).card = roleInput.marketData.series.length := by
    have hnodup : (roleInput.marketData.series.map seriesKey).Nodup := by
      rw [hone.nodup_iff, requests_keys hplan]
      exact definition.valid.unique.sublist (List.filter_sublist.map _)
    have hlength := List.toFinset_card_of_nodup hnodup
    rwa [List.length_map] at hlength
  unfold Complete
  rw [hactual] at hcard ⊢
  constructor
  · rintro ⟨hsame, -⟩ item hitem
    have hexpected : requirementKey item ∈ expectedSeries definition :=
      List.mem_toFinset.mpr (List.mem_map_of_mem hitem)
    rw [← hsame, List.mem_toFinset] at hexpected
    obtain ⟨other, hother, heq⟩ := List.mem_map.mp hexpected
    have hinstrument : other.instrument = item.instrument := congrArg Prod.fst heq
    rw [← hinstrument]
    exact (mem_relevant.mp hother).2
  · intro hall
    -- the planner's filter keeps everything
    have hrelevant : relevant definition asset = definition.requiredData :=
      List.filter_eq_self.mpr fun item hitem => by simpa using hall item hitem
    refine ⟨?_, hcard⟩
    rw [hrelevant]
    rfl

/-- An engine that analyses such a bundle raises what the clause does not catch exactly if it does so
    on one of the series. -/
theorem analyzeSeriesBy_caught_iff
    {analyzeTimeframe : MarketDataSeries →
      Except ComputeError (TimeframeAnalysis × List AnalyticalEvidence)}
    {conclude : List TimeframeAnalysis → Except ComputeError (Bias × Rat × List String)}
    {roleVersion : String} (hisolated : Isolated roleInput)
    (hcomplete : Complete definition roleInput)
    (hconclude : ∀ states, states ≠ [] → Caught (conclude states)) :
    Caught (analyzeSeriesBy analyzeTimeframe conclude definition roleInput roleVersion) ↔
      Caught (roleInput.marketData.series.mapM analyzeTimeframe) := by
  have hchecks : ¬ (actualSeries roleInput ≠ expectedSeries definition ∨
      (actualSeries roleInput).card ≠ roleInput.marketData.series.length) := by
    rw [not_or, not_not, not_not]
    exact hcomplete
  rw [actualSeries, expectedSeries] at hchecks
  unfold analyzeSeriesBy
  simp only
  rw [if_neg (not_any_of_isolated hisolated), if_neg hchecks]
  refine failsWith_bind_iff.trans (and_iff_left fun computations _ => ?_)
  -- behind the series nothing is raised that is not caught
  split
  · exact abstain_caught _ _
  · rename_i hne
    refine failsWith_bind (hconclude _ (by simpa using hne)) fun _ _ => ?_
    exact failsWith_bind (failsWith_mapM fun _ _ => construct_caught _ _)
      fun _ _ => construct_caught _ _

end Bundles

end TechnicalAnalysisEngine

end Tomiris
