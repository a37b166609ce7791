import Tomiris.Spec.Analysis
import Tomiris.Spec.CleanSeries

/-!
# The data that a role asks for

A definition names the series that its role needs, with the bars of each. The planner takes the
requirements for the asset of a task, where the engine expects all of them. Nothing compares the
bars with the ones that the indicators need, so a definition for fewer bars is built and planned,
and its shortest bundles are approved.

## Key results

- `planned_complete_iff`: when the engine accepts the series that were planned
- `enough_history_iff`: when approved series have the bars that the features need
- `shortestSeries_approved`: the shortest series that the quality gate approves
-/

namespace Tomiris

open Except

namespace TechnicalAnalysisEngine

section Series

variable {definition : AgentDefinition} {asset : String} {asOf : Int}
variable {requests : List MarketDataRequest} {roleInput : RoleInput}

/-- An opinion gives other reasons than a missing history. -/
theorem concluded_reasons (config : TechnicalRoleConfig) {states : List TimeframeAnalysis}
    (hne : states ≠ []) :
    (concluded config.toTechnicalFields states).2.2.eraseDups ≠ ["INSUFFICIENT_HISTORY"] := by
  intro hreasons
  -- an opinion has reasons of its own
  have hmem : "INSUFFICIENT_HISTORY" ∈ (concluded config.toTechnicalFields states).2.2 := by
    rw [← List.mem_eraseDups, hreasons]
    exact List.mem_singleton.mpr rfl
  have hcodes := opinion_reasons (opinion_eq hne) _ hmem
  revert hcodes
  decide

/-- The reason for which the engine abstains from a bundle of series of the asset. -/
theorem insufficient_iff {engine : TechnicalAnalysisEngine} {roleVersion : String}
    {r : AgentAnalysisResult} (hisolated : Isolated roleInput)
    (h : engine.analyze definition roleInput roleVersion = .ok r) :
    r.val.reasonCodes = ["INSUFFICIENT_HISTORY"] ↔ ¬ Complete definition roleInput := by
  rcases analyze_cases h with hopines | ⟨hchecks, habstain⟩ | ⟨hchecks, habstain⟩
  · obtain ⟨evidence, ranges, -, -, hfields⟩ := hopines.formed
    refine iff_of_false ?_ (not_not.mpr hopines.complete)
    rw [hfields]
    exact concluded_reasons engine.config
      fun hnil => series_ne_nil roleInput.marketData (List.map_eq_nil_iff.mp hnil)
  · exact iff_of_true (abstain_fields habstain).2.1 hchecks.2
  · refine iff_of_false ?_ fun hincomplete => hchecks ⟨hisolated, hincomplete⟩
    rw [(abstain_fields habstain).2.1]
    decide

/-- The engine accepts the series that were planned for the asset of the task, and does not abstain
    for a missing one, exactly if the definition asks for no other asset. -/
theorem planned_complete_iff (hplan : RoleDataPlanner.plan definition asset asOf = .ok requests)
    (htask : roleInput.context.task.asset = asset) (hone : OnePerRequest roleInput requests) :
    (Isolated roleInput ∧ Complete definition roleInput ↔
      ∀ item ∈ definition.requiredData, item.instrument = asset) ∧
    ∀ (engine : TechnicalAnalysisEngine) (roleVersion : String) (r : AgentAnalysisResult),
      engine.analyze definition roleInput roleVersion = .ok r →
        (r.val.reasonCodes ≠ ["INSUFFICIENT_HISTORY"] ↔
          ∀ item ∈ definition.requiredData, item.instrument = asset) := by
  have hisolated := isolated_of_planned hplan htask hone
  have hcomplete := complete_of_planned hplan hone
  refine ⟨(and_iff_right hisolated).trans hcomplete, ?_⟩
  intro engine roleVersion r hr
  rw [Ne, insufficient_iff hisolated hr, not_not, hcomplete]

end Series

end TechnicalAnalysisEngine

namespace MarketDataValidator

section Shortest

variable {request : RequestFields}

/-- A bar of one price, so many bars before a cutoff of 0. -/
def pastBar (request : RequestFields) (back : Nat) : BarFields Rat where
  provider := "binance-public"
  instrument := request.instrument
  timeframe := request.timeframe
  openTime := -(back * seconds request.timeframe.seconds)
  closeTime := -(back * seconds request.timeframe.seconds) + seconds request.timeframe.seconds
  «open» := 1
  high := 1
  low := 1
  close := 1
  volume := 0
  receivedAt := 0
  sourceTimestamp := 0
  freshnessSeconds := 0
  provenance := "binance:/api/v3/klines"

/-- A candle takes at most a day. -/
theorem length_bounds (timeframe : Timeframe) :
    0 < seconds timeframe.seconds ∧ seconds timeframe.seconds ≤ 86400000000 := by
  cases timeframe <;> decide

/-- A candle some lengths before the cutoff. -/
theorem pastBar_valid (hvalid : request.Valid) {back : Nat} (h : 1 ≤ back ∧ back ≤ 999) :
    (pastBar request back).Valid := by
  have hlength := length_bounds request.timeframe
  have hback : seconds request.timeframe.seconds ≤ back * seconds request.timeframe.seconds := by
    nlinarith
  -- at most 999 days before the epoch
  have hpast : back * seconds request.timeframe.seconds ≤ 86313600000000 := by
    nlinarith
  exact
    { provider := show boundedText 64 "binance-public" = true by decide
      instrument := hvalid.instrument
      freshness := le_refl 0
      provenance := show boundedText 256 "binance:/api/v3/klines" = true by decide
      datetimes := by
        rw [isDatetime_iff, isDatetime_iff]
        simp only [pastBar]
        omega
      times := by
        simp only [pastBar]
        omega
      positive := by norm_num [pastBar]
      high_max := by norm_num [pastBar]
      low_min := by norm_num [pastBar]
      volume := by norm_num [pastBar] }

/-- The last bars before the cutoff. -/
def pastBars (request : RequestFields) (hvalid : request.Valid) :
    (count : Nat) → count ≤ 999 → List OHLCVBar
  | 0, _ => []
  | count + 1, h => ⟨pastBar request (count + 1), pastBar_valid hvalid ⟨Nat.le_add_left 1 count, h⟩⟩ ::
      pastBars request hvalid count (Nat.le_of_succ_le h)

/-- As many of them as are asked for. -/
theorem pastBars_length (hvalid : request.Valid) {count : Nat} (h : count ≤ 999) :
    (pastBars request hvalid count h).length = count := by
  induction count with
  | zero => rfl
  | succ count ih => rw [pastBars, List.length_cons, ih]

/-- Each is one of these. -/
theorem mem_pastBars (hvalid : request.Valid) {count : Nat} (h : count ≤ 999) {bar : OHLCVBar}
    (hbar : bar ∈ pastBars request hvalid count h) :
    ∃ back, 1 ≤ back ∧ bar.toBarFields = pastBar request back := by
  induction count with
  | zero => cases hbar
  | succ count ih =>
    rw [pastBars] at hbar
    rcases List.mem_cons.mp hbar with rfl | hbar
    · exact ⟨count + 1, Nat.le_add_left 1 count, rfl⟩
    · exact ih _ hbar

/-- Each of them opens a length after the one before. -/
theorem pastBars_isChain (hvalid : request.Valid) {count : Nat} (h : count ≤ 999) :
    (pastBars request hvalid count h).IsChain fun previous current =>
      current.openTime - previous.openTime = seconds request.timeframe.seconds := by
  induction count with
  | zero => exact List.isChain_nil
  | succ count ih =>
    cases count with
    | zero => exact List.isChain_singleton _
    | succ count =>
      refine List.isChain_cons_cons.mpr ⟨?_, ih (Nat.le_of_succ_le h)⟩
      simp only [pastBar]
      push_cast
      ring

/-- The last one closes at the cutoff. -/
theorem pastBars_getLast? (hvalid : request.Valid) {count : Nat} (h : count ≤ 999) :
    ∀ bar ∈ (pastBars request hvalid count h).getLast?, bar.closeTime = 0 := by
  induction count with
  | zero => simp [pastBars]
  | succ count ih =>
    cases count with
    | zero =>
      simp only [pastBars, List.getLast?_singleton, Option.mem_some_iff, forall_eq', pastBar]
      push_cast
      ring
    | succ count =>
      -- the last of two or more bars is the last of the rest
      have hrest := ih (Nat.le_of_succ_le h)
      rw [pastBars] at hrest
      rw [pastBars, pastBars, List.getLast?_cons_cons]
      exact hrest

/-- They make a series. -/
theorem shortestSeries_valid (hvalid : request.Valid) : SeriesFields.Valid
    { provider := "binance-public"
      instrument := request.instrument
      timeframe := request.timeframe
      asOf := 0
      bars := pastBars request hvalid request.minimumBars hvalid.minimum_bars.2 } where
  provider := show boundedText 64 "binance-public" = true by decide
  instrument := hvalid.instrument
  bars := by
    have hbounds := hvalid.minimum_bars
    rw [pastBars_length]
    omega
  identity := by
    intro bar hbar
    obtain ⟨back, -, hfields⟩ := mem_pastBars hvalid _ hbar
    rw [hfields]
    exact ⟨rfl, rfl, rfl⟩

/-- The series of as few bars as the request asks for. -/
def shortestSeries (request : MarketDataRequest) : MarketDataSeries where
  provider := "binance-public"
  instrument := request.instrument
  timeframe := request.timeframe
  asOf := 0
  bars := pastBars request.toRequestFields request.valid request.minimumBars
    request.valid.minimum_bars.2
  valid := shortestSeries_valid request.valid

/-- With just as many bars as the gate asks for. -/
theorem shortestSeries_length (request : MarketDataRequest) :
    (shortestSeries request).bars.length = request.minimumBars :=
  pastBars_length request.valid _

/-- The quality gate approves it at a cutoff of 0. -/
theorem shortestSeries_approved {request : MarketDataRequest} (hcutoff : request.asOf = 0) :
    (validate (shortestSeries request) request.toRequestFields).outcome = .valid := by
  -- the bars end at the cutoff, one length of the timeframe apart
  have hlast : (shortestSeries request).lastBar.closeTime = 0 :=
    pastBars_getLast? request.valid _ _ (List.getLast?_eq_some_getLast _)
  have hlength := length_bounds request.timeframe
  refine validate_valid_iff.mpr ⟨?_, ?_⟩
  · exact
      { instrument := rfl
        timeframe := rfl
        as_of := hcutoff.symm
        enough := (shortestSeries_length request).ge
        closed_by := by
          intro bar hbar
          obtain ⟨back, hback, hfields⟩ := mem_pastBars request.valid _ hbar
          have hle : seconds request.timeframe.seconds ≤
              back * seconds request.timeframe.seconds := by nlinarith
          rw [hfields, hcutoff]
          simp only [pastBar]
          omega
        closed := by
          intro _ bar hbar
          obtain ⟨back, -, hfields⟩ := mem_pastBars request.valid _ hbar
          rw [hfields]
          rfl
        not_future := by rw [hlast, hcutoff, sub_zero]
        not_stale := by
          rw [hlast, hcutoff, sub_zero]
          exact mul_nonneg (Int.natCast_nonneg _) (by decide) }
  -- neither gap nor overlap
  · refine List.IsChain.imp ?_ (pastBars_isChain request.valid request.valid.minimum_bars.2)
    intro previous current hdistance
    refine ⟨hdistance.ge, ?_⟩
    rw [hdistance]
    simp only [second]
    omega

end Shortest

end MarketDataValidator

section History

variable {tools : RoleTools TechnicalAnalysisEngine} {plugins : List RolePlugin}
variable {definition : AgentDefinition} {role : ConfiguredTechnicalRole TechnicalAnalysisEngine}
variable {item : RoleDataRequirement}

/-- Every request has a series that the quality gate approves. -/
def Approves (requests : List MarketDataRequest) (series : List MarketDataSeries) : Prop :=
  List.Forall₂ (fun request s =>
    (MarketDataValidator.validate s request.toRequestFields).outcome = .valid) requests series

/-- All features of the series are valid. -/
def FeaturesValid (role : ConfiguredTechnicalRole TechnicalAnalysisEngine)
    (s : MarketDataSeries) : Prop :=
  ∃ features, TechnicalFeaturePipeline.compute role.engine.ops role.engine.config.pipeline s =
    .ok features ∧ ∀ feature ∈ features, feature.valid = true

/-- The features are valid if the series is long enough for all. -/
theorem featuresValid_iff {s : MarketDataSeries} : FeaturesValid role s ↔
    role.engine.config.pipeline.requiredHistory ≤ s.bars.length := by
  unfold FeaturesValid
  rw [pipeline_eq]
  constructor
  · rintro ⟨features, hfeatures, hall⟩
    cases hfeatures
    exact (reportedFeatures_all role.engine.ops role.engine.config.pipeline s).mp hall
  · intro hhistory
    exact ⟨_, rfl, (reportedFeatures_all role.engine.ops role.engine.config.pipeline s).mpr hhistory⟩

/-- For every requirement there is an approved bundle with a series that is no longer. -/
theorem shortest_bundle (hitem : item ∈ definition.requiredData) :
    ∃ requests series, RoleDataPlanner.plan definition item.instrument 0 = .ok requests ∧
      Approves requests series ∧ ∃ s ∈ series, s.bars.length = item.minimumBars := by
  obtain ⟨requests, hplan⟩ := @plan_of_mem definition item 0 hitem (by decide)
  have hplanned := plan_eq_ok hplan
  refine ⟨requests, requests.map MarketDataValidator.shortestSeries, hplan, ?_, ?_⟩
  -- every request of the plan gets its shortest series
  · unfold Approves
    rw [List.forall₂_map_right_iff, List.forall₂_same]
    intro request hrequest
    obtain ⟨other, -, hfields⟩ := hplanned.exists_of_mem_right hrequest
    exact MarketDataValidator.shortestSeries_approved (congrArg RequestFields.asOf hfields)
  -- the request of the requirement has its minimum
  · have hrelevant : item ∈ definition.requiredData.filter
        (fun other => other.instrument == item.instrument) :=
      List.mem_filter.mpr ⟨hitem, beq_self_eq_true _⟩
    obtain ⟨request, hrequest, hfields⟩ := hplanned.exists_of_mem_left hrelevant
    refine ⟨_, List.mem_map_of_mem hrequest, ?_⟩
    rw [MarketDataValidator.shortestSeries_length]
    exact congrArg RequestFields.minimumBars hfields

/-- A role is built for its definition. -/
theorem build_definition (h : AgentRoleRegistry.build tools plugins definition = .ok role) :
    role.definition = definition := by
  unfold AgentRoleRegistry.build at h
  -- registered, and of the role of its plugin
  split at h
  · cases h
  split at h
  · cases h
  unfold RolePlugin.build at h
  split at h
  · cases h
  split at h
  · cases h
  cases h
  rfl

/-- Approved series for what is planned for the role always make all features valid. -/
def AsksEnough (role : ConfiguredTechnicalRole TechnicalAnalysisEngine) : Prop :=
  ∀ asset asOf requests series,
    RoleDataPlanner.plan role.definition asset asOf = .ok requests → Approves requests series →
      ∀ s ∈ series, FeaturesValid role s

/-- A definition that the registry builds a role of asks for enough exactly if each requirement has
    the bars that the features need. -/
theorem enough_history_iff (hbuild : AgentRoleRegistry.build tools plugins definition = .ok role) :
    AsksEnough role ↔ ∀ item ∈ definition.requiredData,
      role.engine.config.pipeline.requiredHistory ≤ item.minimumBars := by
  unfold AsksEnough
  rw [build_definition hbuild]
  constructor
  · intro hall item hitem
    -- the shortest bundle for the requirement has to be enough
    obtain ⟨requests, series, hplan, happroves, s, hs, hlength⟩ := shortest_bundle hitem
    rw [← hlength]
    exact featuresValid_iff.mp (hall _ _ requests series hplan happroves s hs)
  · intro hbars asset asOf requests series hplan happroves s hs
    -- an approved series has the bars of its request, and the request those of its requirement
    obtain ⟨request, hrequest, hvalid⟩ := happroves.exists_of_mem_right hs
    obtain ⟨item, hitem, hfields⟩ := (plan_eq_ok hplan).exists_of_mem_right hrequest
    have henough := (MarketDataValidator.validate_valid_iff.mp hvalid).1.enough
    rw [hfields] at henough
    exact featuresValid_iff.mpr ((hbars item (List.mem_filter.mp hitem).1).trans henough)

end History

namespace Deployment

open TechnicalAnalysisEngine

/-- A definition for two assets passes the validators. -/
theorem pairDefinition_valid : DefinitionFields.Valid { ethDefinition.toDefinitionFields with
    supportedAssets := ["ETHUSDT", "BTCUSDT"]
    requiredData := [⟨"ETHUSDT", .h1, 60, 7200⟩, ⟨"BTCUSDT", .h1, 60, 7200⟩] } :=
  { ethDefinition.valid with
    assets := by decide
    required_data := by decide
    requirements := by
      intro item hitem
      simp only [List.mem_cons, List.not_mem_nil, or_false] at hitem
      rcases hitem with rfl | rfl
      · exact ⟨by decide, by decide, by decide, by decide⟩
      · exact ⟨by decide, by decide, by decide, by decide⟩
    instruments := by decide
    unique := by decide }

/-- The definition of an agent for two assets. -/
def pairDefinition : AgentDefinition where
  toDefinitionFields := { ethDefinition.toDefinitionFields with
    supportedAssets := ["ETHUSDT", "BTCUSDT"]
    requiredData := [⟨"ETHUSDT", .h1, 60, 7200⟩, ⟨"BTCUSDT", .h1, 60, 7200⟩] }
  valid := pairDefinition_valid

/-- The series of ETH is all that is planned for it. -/
theorem threeHours_planned {definition : AgentDefinition} {asOf : Int}
    {requests : List MarketDataRequest}
    (hplan : RoleDataPlanner.plan definition "ETHUSDT" asOf = .ok requests)
    (hkeys : (relevant definition "ETHUSDT").map requirementKey = [("ETHUSDT", .h1)]) :
    OnePerRequest (ethInput threeHours) requests := by
  unfold OnePerRequest
  rw [requests_keys hplan, hkeys]
  exact List.Perm.refl _

/-- A bundle of one of them is not complete. -/
theorem pairDefinition_abstains :
    (((smallEngine exactOps).analyze pairDefinition (ethInput threeHours) "1.0.0").map
      fun r => r.val.reasonCodes) = .ok ["INSUFFICIENT_HISTORY"] := by
  decide +kernel

/-- The engine with the default parameters, in exact arithmetic. -/
def exactEngine (evidenceType : String) : TechnicalAnalysisEngine where
  ops := exactOps
  config := TechnicalRoleConfig.defaults defaultPipeline
  evidenceType := evidenceType

/-- A definition without parameters has the defaults. -/
def exactTools : RoleTools TechnicalAnalysisEngine where
  engine := fun parameters =>
    match parameters with
    | .mapping [] => some exactEngine
    | _ => none

/-- The role of a definition for these many hours, with the default parameters. -/
def hourlyRole (minimumBars : Nat) (h : 2 ≤ minimumBars ∧ minimumBars ≤ 999) :
    ConfiguredTechnicalRole TechnicalAnalysisEngine where
  definition := hourlyDefinition minimumBars h
  roleVersion := "1.0.0"
  engine := exactEngine "technical_feature"

/-- A role for one hourly series is built. -/
theorem hourlyRole_built (minimumBars : Nat) (h : 2 ≤ minimumBars ∧ minimumBars ≤ 999) :
    AgentRoleRegistry.build exactTools builtinRolePlugins (hourlyDefinition minimumBars h) =
      .ok (hourlyRole minimumBars h) := rfl

end Deployment

open Deployment in
/-- Sixty hours are enough for the default parameters. -/
theorem enough_history_iff_sixty : AsksEnough (hourlyRole 60 (by decide)) := by
  refine (enough_history_iff (hourlyRole_built 60 (by decide))).mpr ?_
  intro item hitem
  rw [List.mem_singleton.mp hitem]
  decide

open Deployment in
/-- A definition that asks for two hours is built with the default parameters, which need 50, and
    two hours are approved for it. -/
theorem short_definition_built :
    AgentRoleRegistry.build exactTools builtinRolePlugins (hourlyDefinition 2 (by decide)) =
      .ok (hourlyRole 2 (by decide)) ∧
    ¬ AsksEnough (hourlyRole 2 (by decide)) := by
  obtain ⟨requests, series, hplan, happroves, s, hs, hlength⟩ :=
    @shortest_bundle (hourlyDefinition 2 (by decide)) ⟨"ETHUSDT", .h1, 2, 7200⟩
      (List.mem_singleton.mpr rfl)
  refine ⟨hourlyRole_built 2 (by decide), fun henough => ?_⟩
  have hvalid := henough "ETHUSDT" 0 requests series hplan happroves s hs
  rw [featuresValid_iff, hlength] at hvalid
  exact absurd hvalid (by decide)

open Deployment TechnicalAnalysisEngine in
/-- A bundle that is planned for one asset is complete. -/
theorem planned_complete_iff_eth :
    Isolated (ethInput threeHours) ∧ Complete ethDefinition (ethInput threeHours) := by
  obtain ⟨requests, hplan⟩ := @plan_of_mem ethDefinition ⟨"ETHUSDT", .h1, 60, 7200⟩ 0
    (List.mem_singleton.mpr rfl) (by decide)
  exact (planned_complete_iff hplan rfl (threeHours_planned hplan (by decide))).1.mpr (by decide)

open Deployment TechnicalAnalysisEngine in
/-- A definition for two assets: the bundle for a task on one of them is the planned one, and the
    engine abstains because the series of the other is missing. -/
theorem planned_bundle_incomplete :
    ∃ requests r, RoleDataPlanner.plan pairDefinition "ETHUSDT" 0 = .ok requests ∧
      OnePerRequest (ethInput threeHours) requests ∧
      (smallEngine exactOps).analyze pairDefinition (ethInput threeHours) "1.0.0" = .ok r ∧
      r.val.reasonCodes = ["INSUFFICIENT_HISTORY"] := by
  obtain ⟨requests, hplan⟩ := @plan_of_mem pairDefinition ⟨"ETHUSDT", .h1, 60, 7200⟩ 0
    (List.mem_cons_self ..) (by decide)
  obtain ⟨r, hr, hreasons⟩ := Except.map_eq_ok.mp pairDefinition_abstains
  exact ⟨requests, r, hplan, threeHours_planned hplan (by decide), hr, hreasons⟩

end Tomiris
