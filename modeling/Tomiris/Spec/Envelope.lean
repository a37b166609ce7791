import Tomiris.Runtime.Analytical
import Tomiris.Spec.FloatTechnical
import Tomiris.Spec.QualityGate
import Tomiris.Spec.Replay

/-!
# The envelope of a result

What `AnalyticalRoleHandler.analyze` makes of a cutoff. The collector either raises a
`MarketDataError` or hands over approved series, so the abstention or the role returns a result,
unless an exception leaves the features of a series. The envelope of a result is valid if its data
are not newer than the clock and its texts fit.

## Key results

- `signalFields_valid_iff`: when the envelope of a result passes its validators
- `roleResult_cases`: when the role or the abstention returns a result
-/

namespace Tomiris

open Except TechnicalAnalysisEngine

section Metadata

variable {lim : JsonLimits} {depth : Nat}

/-- A mapping with short keys passes if its values do. -/
theorem walk_dict {items : List (String × PyValue)} (hdepth : depth ≤ lim.maxDepth)
    (hitems : items.length ≤ lim.maxItems)
    (h : ∀ item ∈ items, item.1.length ≤ 128 ∧ walk lim item.2 (depth + 1) = .ok ()) :
    walk lim (dict items) depth = .ok () := by
  refine walk_mapping hdepth (by simpa using hitems) ?_
  intro item hitem
  obtain ⟨item', hitem', rfl⟩ := List.mem_map.mp hitem
  exact ⟨decide_eq_true (h item' hitem').1, (h item' hitem').2⟩

/-- A datetime lies on a day of the year 9999 at the latest. -/
theorem isDatetime_day {t : Int} (h : isDatetime t = true) : t / Calendar.dayLength ≤ 2932896 := by
  rw [isDatetime_iff] at h
  unfold Calendar.dayLength
  omega

/-- The text of a datetime passes as metadata. -/
theorem walk_isoformat {t : Int} (h : isDatetime t = true) (hdepth : depth ≤ 4) :
    walk {} (.str (Calendar.isoformat t)) depth = .ok () := by
  have hlength := Calendar.isoformat_length_le (isDatetime_day h)
  exact walk_str hdepth (show _ ≤ 2000 by omega)

/-- So does the text that pydantic dumps. -/
theorem walk_isoformatZ {t : Int} (h : isDatetime t = true) (hdepth : depth ≤ 4) :
    walk {} (.str (Calendar.isoformatZ t)) depth = .ok () := by
  have hlength := Calendar.isoformat_length_le (isDatetime_day h)
  have hlengthZ := Calendar.isoformatZ_length_le t
  exact walk_str hdepth (show _ ≤ 2000 by omega)

/-- A dumped state of a timeframe passes as metadata. -/
theorem walk_state (state : TimeframeAnalysis) :
    walk {} state.val.modelDump 2 = .ok () := by
  refine walk_dict (by decide) (show 6 ≤ 50 by decide) ?_
  simp only [List.forall_mem_cons]
  refine ⟨⟨by decide, walk_str (by decide) ?_⟩, ⟨by decide, walk_str (by decide) ?_⟩,
    ⟨by decide, walk_str (by decide) ?_⟩, ⟨by decide, walk_str (by decide) ?_⟩,
    ⟨by decide, walk_str (by decide) ?_⟩, ⟨by decide, by simp [walk]⟩, by simp⟩
  · cases state.val.timeframe <;> decide
  · cases state.val.trend <;> decide
  · cases state.val.momentum <;> decide
  · cases state.val.volatility <;> decide
  · cases state.val.volumeState <;> decide

/-- A dumped data range passes as metadata. -/
theorem walk_range (range : AnalysisDataRange) : walk {} range.val.modelDump 2 = .ok () := by
  obtain ⟨hprovider, hinstrument, ⟨hfirst, hlast⟩, -, -⟩ := range.property
  simp only [boundedText, Bool.and_eq_true, decide_eq_true_eq] at hprovider
  refine walk_dict (by decide) (show 6 ≤ 50 by decide) ?_
  simp only [List.forall_mem_cons]
  refine ⟨⟨by decide, walk_str (by decide) (show _ ≤ 2000 by omega)⟩,
    ⟨by decide, walk_str (by decide) (show _ ≤ 2000 by omega)⟩,
    ⟨by decide, walk_str (by decide) ?_⟩, ⟨by decide, walk_isoformatZ hfirst (by decide)⟩,
    ⟨by decide, walk_isoformatZ hlast (by decide)⟩, ⟨by decide, by simp [walk]⟩, by simp⟩
  cases range.val.timeframe <;> decide

/-- The metadata of a signal pass `validate_bounded_json`. -/
theorem signalMetadata_bounded {r : AgentAnalysisResult}
    (hreasons : ∀ code ∈ r.val.reasonCodes, code.length ≤ 128)
    (hcutoff : isDatetime r.val.analysisAsOf = true) :
    (AnalyticalRoleHandler.signalMetadata r.val).Bounded {} = true := by
  have hcodes : r.val.reasonCodes.length ≤ 50 := r.property.reason_codes.trans (by decide)
  have hstates : r.val.timeframeStates.length ≤ 50 := r.property.states.trans (by decide)
  have hwalk : walk {} (AnalyticalRoleHandler.signalMetadata r.val) 0 = .ok () := by
    -- quality, reasons, states, ranges, cutoff and a flag: each within the limits
    refine walk_dict (by decide) (show 6 ≤ 50 by decide) ?_
    simp only [List.forall_mem_cons]
    refine ⟨⟨by decide, walk_str (by decide) ?_⟩,
      ⟨by decide, walk_sequence (by decide) (by simpa using hcodes) ?_⟩,
      ⟨by decide, walk_sequence (by decide) (by simpa using hstates) ?_⟩,
      ⟨by decide, walk_sequence (by decide) (by simpa using r.property.ranges) ?_⟩,
      ⟨by decide, walk_isoformat hcutoff (by decide)⟩, ⟨by decide, by simp [walk]⟩, by simp⟩
    · cases r.val.dataQuality <;> decide
    · intro item hitem
      obtain ⟨code, hcode, rfl⟩ := List.mem_map.mp hitem
      exact walk_str (by decide) ((hreasons code hcode).trans (by decide))
    · intro item hitem
      obtain ⟨state, -, rfl⟩ := List.mem_map.mp hitem
      exact walk_state state
    · intro item hitem
      obtain ⟨range, -, rfl⟩ := List.mem_map.mp hitem
      exact walk_range range
  unfold PyValue.Bounded
  rw [hwalk]

end Metadata

section Signal

/-- The strength of an envelope is at most one. -/
theorem maxStrength_le (r : AgentAnalysisResult) : AnalyticalRoleHandler.maxStrength r.val ≤ 1 := by
  unfold AnalyticalRoleHandler.maxStrength
  cases hmax : (r.val.timeframeStates.map (fun item => |item.val.score|)).max? with
  | none => exact zero_le_one
  | some strength =>
    obtain ⟨state, -, rfl⟩ := List.mem_map.mp (List.max?_mem hmax)
    exact abs_le.mpr state.property

/-- A hundred is a float, so a product that is not greater is not rounded past it. -/
theorem percent_le (tools : FloatTools) {q : Rat} (h : q ≤ 1) :
    (AnalyticalRoleHandler.percent tools q).toNat ≤ 100 := by
  have hhundred : tools.float 100 = .finite 100 := by
    simpa using @Floats.float_natCast tools 100 (by norm_num)
  have hround := tools.format.round_mono (q * 100) 100 (by linarith)
  rw [← FloatTools.float, ← FloatTools.float, hhundred] at hround
  -- rounding is monotone and 100 is a float
  have hround' : roundHalfEven ((tools.float (q * 100)).finite?.getD 0) ≤ 100 := by
    cases hproduct : tools.float (q * 100) with
    | finite r =>
      rw [hproduct] at hround
      have hle : r ≤ (100 : Int) := by simpa [PyFloat.le] using hround
      exact roundHalfEven_le hle
    | _ => exact roundHalfEven_le (by norm_num [PyFloat.finite?])
  unfold AnalyticalRoleHandler.percent
  rw [hhundred]
  exact Int.toNat_le.mpr hround'

/-- The evidence of a role is valid evidence of a signal. -/
theorem evidenceItem_valid (item : AnalyticalEvidence) :
    (AnalyticalRoleHandler.evidenceItem item.val).Valid := by
  obtain ⟨htype, hsummary, hprovider, hinstrument, hname, hversion, hobservation⟩ := item.property
  have htimeframe : item.val.timeframe.value.length ≤ 3 := by
    cases item.val.timeframe <;> decide
  -- provider, instrument and timeframe, joined by colons
  have hsource : boundedText 256 (item.val.provider ++ ":" ++ item.val.instrument ++ ":" ++
      item.val.timeframe.value) = true := by
    have hcolon : ":".length = 1 := rfl
    rw [boundedText_iff] at hprovider ⊢
    simp only [String.length_append]
    omega
  have hprovider' : boundedText 128 item.val.provider = true := by
    rw [boundedText_iff] at hprovider ⊢
    omega
  exact ⟨htype, hsummary, show boundedText 64 "public_market_data" = true by decide, hsource,
    hprovider', rfl, optionalText_some.mpr hinstrument.2,
    optionalText_some.mpr (htimeframe.trans (by decide)),
    optionalText_some.mpr (boundedText_iff.mp hname).2,
    optionalText_some.mpr (boundedText_iff.mp hversion).2,
    optionalText_some.mpr (boundedText_iff.mp hobservation).2,
    show (PyValue.mapping []).Bounded {} = true by decide⟩

/-- The texts that a result takes from its role fit into an envelope. -/
structure ShortLineage (r : ResultFields) : Prop where
  role : r.roleId.length ≤ 64
  role_version : r.roleVersion.length ≤ 32
  config_version : r.configVersion.length ≤ 32
  pipeline_version : r.featurePipelineVersion.length ≤ 64

/-- The envelope of a result passes its validators exactly if the data are not newer than the clock
    and the texts that come from outside fit. -/
theorem signalFields_valid_iff {task : AnalysisTaskRequest} (htask : task.Valid)
    {r : AgentAnalysisResult} (hlineage : ShortLineage r.val)
    (hcutoff : isDatetime r.val.analysisAsOf = true) (tools : FloatTools) (ids : UUID × UUID)
    (now : Int) :
    (AnalyticalRoleHandler.signalFields tools ids now task r.val).Valid ↔
      r.val.dataAsOf ≤ now ∧ r.val.dataProvider.length ≤ 128 ∧
        ∀ code ∈ r.val.reasonCodes, code.length ≤ 128 := by
  constructor
  · intro h
    -- three of the validators look at what the role has computed
    have hprovider : optionalText 128 (some r.val.dataProvider) = true :=
      h.versions.2.2.2.2.2.1
    exact ⟨h.data_cutoff r.val.dataAsOf rfl, optionalText_some.mp hprovider, h.risk_flags.2⟩
  · rintro ⟨hnow, hprovider, hreasons⟩
    -- the others hold by the construction of the result
    have hschema : r.val.analysisSchemaVersion.length ≤ 16 := by
      rw [r.property.schema]
      decide
    exact
      { protocol := rfl
        agent := htask.agent
        asset := htask.asset
        confidence_le := percent_le tools r.property.confidence.2
        impact_le := percent_le tools (maxStrength_le r)
        horizon := show boundedText 64 "multi-timeframe-context" = true by decide
        evidence_le := by simpa [AnalyticalRoleHandler.signalFields] using r.property.evidence
        evidence_valid := by
          intro e he
          obtain ⟨item, -, rfl⟩ := List.mem_map.mp he
          exact evidenceItem_valid item
        risk_flags := ⟨r.property.reason_codes, hreasons⟩
        ttl_pos := by
          simp only [AnalyticalRoleHandler.signalFields]
          omega
        versions := ⟨optionalText_some.mpr hlineage.role,
          optionalText_some.mpr hlineage.role_version,
          optionalText_some.mpr hlineage.config_version,
          optionalText_some.mpr hlineage.pipeline_version, optionalText_some.mpr hschema,
          optionalText_some.mpr hprovider,
          show optionalText 32 (some "deterministic-agreement.v1") = true by decide⟩
        metadata := signalMetadata_bounded hreasons hcutoff
        task_lineage := rfl
        analytical_lineage := by
          simp [AnalyticalRoleHandler.signalFields, SignalFields.analytical]
        data_cutoff := by
          intro t ht
          cases ht
          exact hnow }

end Signal

section Building

/-- What `build_analytical_handler` has checked of a handler. -/
structure Built (tools : HandlerTools) (settings : AgentRuntimeSettings)
    (handler : AnalyticalRoleHandler) : Prop where
  agent : handler.role.definition.agentId = settings.tomirisAgentId
  assets : handler.role.definition.supportedAssets.toFinset =
    (settings.supportedAssets tools.upper).toFinset
  asset : ∃ asset, handler.role.definition.supportedAssets = [asset]
  role_version : handler.role.roleVersion = "1.0.0"

/-- A role of the registry is for one asset, in version 1.0.0. -/
theorem registry_build_ok {E : Type} {tools : RoleTools E} {definition : AgentDefinition}
    {role : ConfiguredTechnicalRole E}
    (h : AgentRoleRegistry.build tools builtinRolePlugins definition = .ok role) :
    role.definition = definition ∧ role.roleVersion = "1.0.0" ∧
      ∃ asset, definition.supportedAssets = [asset] := by
  unfold AgentRoleRegistry.build at h
  -- no plugin, a plugin that refuses, or the role
  split at h
  · cases h
  rename_i plugin hplugin
  split at h
  · cases h
  unfold RolePlugin.build at h
  split at h
  · cases h
  rename_i hmatches
  split at h
  · cases h
  cases h
  rw [not_or, not_not, not_not] at hmatches
  have hversion : ∀ plugin ∈ builtinRolePlugins, plugin.roleVersion = "1.0.0" := by decide
  exact ⟨rfl, hversion plugin (List.mem_of_find?_eq_some hplugin), plugin.asset, hmatches.2⟩

/-- What a handler that was built has checked. -/
theorem buildAnalyticalHandler_ok {tools : HandlerTools} {settings : AgentRuntimeSettings}
    {handler : AnalyticalRoleHandler}
    (h : buildAnalyticalHandler tools settings = .ok handler) : Built tools settings handler := by
  unfold buildAnalyticalHandler at h
  split at h
  · cases h
  split at h
  · cases h
  rename_i definition _
  obtain ⟨role, hrole, h⟩ := Except.bind_eq_ok.mp h
  obtain ⟨rfl, hversion, hasset⟩ := registry_build_ok hrole
  split at h
  · cases h
  -- the agent, the role, the capabilities and the assets of the definition are compared
  rename_i hagent
  split at h
  · cases h
  split at h
  · cases h
  split at h
  · cases h
  rename_i hassets
  cases h
  exact ⟨not_not.mp hagent, not_not.mp hassets, hasset, hversion⟩

end Building

section Results

/-- The lineage of a result fits into the envelope. -/
theorem shortLineage_of {definition : AgentDefinition} {r : ResultFields}
    (hrole : r.roleId = definition.roleId) (hversion : r.roleVersion = "1.0.0")
    (hconfig : r.configVersion = definition.configVersion)
    (hpipeline : r.featurePipelineVersion = "technical-pipeline.v1") : ShortLineage r where
  role := by
    have hpattern := definition.valid.role
    rw [hrole, ← String.length_toList]
    unfold isRoleId at hpattern
    split at hpattern
    · cases hpattern
    -- the pattern of a role id bounds its length
    · rename_i c rest hlist
      simp only [Bool.and_eq_true, decide_eq_true_eq] at hpattern
      rw [hlist, List.length_cons]
      omega
  role_version := by
    rw [hversion]
    decide
  config_version := by
    rw [hconfig]
    exact (boundedText_iff.mp definition.valid.config_version).2
  pipeline_version := by
    rw [hpipeline]
    decide

/-- The texts of what the provider answers fit into an envelope: the code of its error, its own
    name, or the names in the series that the gate accepts. -/
def TextsFit (providerName : String) {requests : List MarketDataRequest}
    (outcome : Except MarketDataError (MarketDataCollector.Fetched requests)) : Prop :=
  match outcome with
  | .error e => e.code.length ≤ 128 ∧ providerName.length ≤ 128
  | .ok fetched =>
    if MarketDataCollector.Accepted fetched.val then
      (joinProviders (fetched.val.map Prod.snd)).length ≤ 128
    else providerName.length ≤ 128

/-- The features of the series that the gate accepts let no exception escape. -/
def Computes (engine : Floats.TechnicalAnalysisEngine) {requests : List MarketDataRequest}
    (outcome : Except MarketDataError (MarketDataCollector.Fetched requests)) : Prop :=
  match outcome with
  | .error _ => True
  | .ok fetched => MarketDataCollector.Accepted fetched.val →
      engine.NoneEscapes (fetched.val.map Prod.snd)

/-- A result of the handler for a cutoff: its data are not newer, and its texts fit if the given
    condition holds. -/
structure ResultFor (asOf : Int) (fits : Prop) (r : ResultFields) : Prop where
  lineage : ShortLineage r
  analysis_as_of : r.analysisAsOf = asOf
  data_as_of : r.dataAsOf ≤ asOf
  texts : (r.dataProvider.length ≤ 128 ∧ ∀ code ∈ r.reasonCodes, code.length ≤ 128) ↔ fits

/-- An abstention for an error of the provider can always be built; its texts fit if the code and
    the name do. -/
theorem providerAbstention_ok {handler : AnalyticalRoleHandler}
    (hversion : handler.role.roleVersion = "1.0.0") (task : AnalysisTaskRequest) (asOf : Int)
    (code : String) :
    ∃ r, handler.providerAbstention task asOf code = .ok r ∧ r.val.bias = .abstain ∧
      ResultFor asOf (code.length ≤ 128 ∧ handler.providerName.length ≤ 128) r.val := by
  refine ⟨_, construct_ok ?_, rfl, ?_⟩
  · exact
      { schema := rfl
        confidence := by simp
        reason_codes := by simp
        states := by simp
        evidence := by simp
        ranges := by simp
        invalid_abstains := fun _ => rfl
        abstain_reason := by simp }
  -- its reasons and its provider are the texts that may be too long
  · refine ⟨@shortLineage_of handler.role.definition _ rfl hversion rfl rfl, rfl,
      le_refl asOf, ?_⟩
    simp [and_comm]

/-- Data that close by the cutoff. -/
theorem latestClose_le {series : List MarketDataSeries} {asOf : Int}
    (h : ∀ s ∈ series, s.lastBar.closeTime ≤ asOf) : latestClose series asOf ≤ asOf := by
  unfold latestClose
  cases hmax : (series.map (fun s => s.lastBar.closeTime)).max? with
  | none => exact le_refl asOf
  | some latest =>
    obtain ⟨s, hs, rfl⟩ := List.mem_map.mp (List.max?_mem hmax)
    exact h s hs

/-- Approved series are for the instruments and timeframes that were asked for. -/
theorem seriesKeys_of_approved {fetched : List (MarketDataRequest × MarketDataSeries)}
    (h : ∀ pair ∈ fetched, MarketDataValidator.Approved pair.2 pair.1.toRequestFields) :
    (fetched.map Prod.snd).map seriesKey = (fetched.map Prod.fst).map requestKey := by
  rw [List.map_map, List.map_map]
  refine List.map_congr_left fun pair hpair => ?_
  exact Prod.ext (h pair hpair).identity.1 (h pair hpair).identity.2

/-- The role returns a result on the approved series that were planned for its only asset, unless an
    exception leaves their features. -/
theorem roleAnalyze_cases {role : ConfiguredTechnicalRole Floats.TechnicalAnalysisEngine}
    (hversion : role.roleVersion = "1.0.0") {roleInput : RoleInput}
    (hasset : role.definition.supportedAssets = [roleInput.context.task.asset])
    {fetched : List (MarketDataRequest × MarketDataSeries)}
    (hplan : RoleDataPlanner.plan role.definition roleInput.context.task.asset
      roleInput.context.asOf = .ok (fetched.map Prod.fst))
    (hseries : roleInput.marketData.series = fetched.map Prod.snd)
    (happroved : ∀ pair ∈ fetched, MarketDataValidator.Approved pair.2 pair.1.toRequestFields)
    (hcutoff : ∀ pair ∈ fetched, pair.1.asOf = roleInput.context.asOf) :
    role.engine.NoneEscapes (fetched.map Prod.snd) ∧
      (∃ r, role.analyze roleInput = .ok r ∧ ResultFor roleInput.context.asOf
        ((joinProviders (fetched.map Prod.snd)).length ≤ 128) r.val) ∨
    ¬ role.engine.NoneEscapes (fetched.map Prod.snd) ∧
      ∃ e, role.analyze roleInput = .error e := by
  have hall : ∀ s ∈ roleInput.marketData.series, s.firstBar.openTime ≤ s.lastBar.closeTime ∧
      s.lastBar.closeTime ≤ roleInput.context.asOf := by
    intro s hs
    rw [hseries] at hs
    obtain ⟨pair, hpair, rfl⟩ := List.mem_map.mp hs
    rw [← hcutoff pair hpair]
    exact ⟨(happroved pair hpair).range,
      (happroved pair hpair).closed_by _ (List.getLast_mem pair.2.bars_ne_nil)⟩
  -- the bundle is the planned one, and the definition asks for no other asset
  have hone : OnePerRequest roleInput (fetched.map Prod.fst) := by
    unfold OnePerRequest
    rw [hseries, seriesKeys_of_approved happroved]
  have hcomplete := (complete_of_planned hplan hone).mpr (requirements_of_asset hasset)
  rcases @Floats.TechnicalAnalysisEngine.analyze_cases role.engine role.definition roleInput
    role.roleVersion (fun s hs => (hall s hs).1) (isolated_of_planned hplan rfl hone) hcomplete with
    ⟨hnone, r, hr, hconcludes⟩ | ⟨hescapes, e, he⟩
  · rw [hseries] at hnone
    refine .inl ⟨hnone, r, hr, shortLineage_of hconcludes.role
      (hconcludes.role_version.trans hversion) hconcludes.config_version
      hconcludes.pipeline_version, hconcludes.analysis_as_of, ?_, ?_⟩
    · rw [hconcludes.data_as_of]
      exact latestClose_le fun s hs => (hall s hs).2
    · rw [← hseries]
      constructor
      · rintro ⟨hprovider, -⟩
        rcases hconcludes.provider with heq | ⟨hempty, -⟩
        · rwa [heq] at hprovider
        · rw [hempty]
          decide
      · intro hjoined
        refine ⟨?_, hconcludes.reasons⟩
        rcases hconcludes.provider with heq | ⟨-, heq⟩
        · rwa [heq]
        · rw [heq]
          decide
  · rw [hseries] at hescapes
    exact .inr ⟨hescapes, e, he⟩

/-- The role or the abstention returns a result, whatever the provider answers, unless an exception
    leaves the features. -/
theorem roleResult_cases {handler : AnalyticalRoleHandler} {task : AnalysisTaskRequest} {asOf : Int}
    {requests : List MarketDataRequest} (hversion : handler.role.roleVersion = "1.0.0")
    (hasset : handler.role.definition.supportedAssets = [task.asset])
    (hplan : RoleDataPlanner.plan handler.role.definition task.asset asOf = .ok requests)
    (hbounds : 1 ≤ requests.length ∧ requests.length ≤ 50) (hasOf : ∀ r ∈ requests, r.asOf = asOf)
    (fetch : AnalyticalRoleHandler.Fetch) :
    Computes handler.role.engine (fetch requests) ∧
      (∃ r, handler.roleResult fetch task asOf = .ok r ∧
        ResultFor asOf (TextsFit handler.providerName (fetch requests)) r.val ∧
        ∀ e, MarketDataCollector.collect task.snapshotId asOf ((fetch requests).map Subtype.val) =
          .error e → r.val.bias = .abstain) ∨
    ¬ Computes handler.role.engine (fetch requests) ∧
      ∃ e, handler.roleResult fetch task asOf = .error e := by
  unfold AnalyticalRoleHandler.roleResult
  rw [hplan]
  simp only [bind, Except.bind]
  cases hfetch : fetch requests with
  -- the provider failed: the role abstains with its code
  | error e =>
    obtain ⟨r, hr, hbias, hanswers⟩ := providerAbstention_ok hversion task asOf e.code
    exact .inl ⟨trivial, r, hr, hanswers, fun _ _ => hbias⟩
  | ok fetched =>
    obtain ⟨l, hl⟩ := fetched
    by_cases haccepted : MarketDataCollector.Accepted l
    · obtain ⟨st, hst, hseries, ⟨-, hless⟩, hpos⟩ :=
        MarketDataCollector.collectAll_approved haccepted {}
      have hlength : l.length = requests.length := by
        rw [← hl, List.length_map]
      have hne : l ≠ [] := by
        intro hnil
        rw [hnil, List.length_nil] at hlength
        omega
      simp only [List.nil_append, List.length_nil, Nat.zero_add] at hseries hless
      -- a bundle holds a series and a provider for each request
      have hbundle : (1 ≤ st.series.length ∧ st.series.length ≤ 50) ∧
          (1 ≤ (st.providers.map (fun e => e.2)).length ∧
            (st.providers.map (fun e => e.2)).length ≤ 50) := by
        have := hpos hne
        rw [hseries, List.length_map, List.length_map]
        omega
      have hcutoff : ∀ pair ∈ l, pair.1.asOf = asOf := by
        intro pair hpair
        refine hasOf pair.1 ?_
        rw [← hl]
        exact List.mem_map_of_mem hpair
      have hcomputes : Computes handler.role.engine (.ok ⟨l, hl⟩) ↔
          handler.role.engine.NoneEscapes (l.map Prod.snd) := imp_iff_right haccepted
      rw [hcomputes]
      simp only [MarketDataCollector.collect, Except.map, hst, MarketDataCollector.makeBundle,
        dif_pos hbundle, Option.map_some, and_self, dite_true]
      rcases @roleAnalyze_cases handler.role hversion
        ⟨⟨task, task.snapshotId, asOf, rfl⟩, ⟨task.snapshotId, asOf, st.series,
          st.providers.map (fun e => e.2), hbundle.1, hbundle.2⟩, rfl, rfl⟩ hasset l
        (by rw [hl]; exact hplan) hseries
        (fun pair hpair => MarketDataValidator.validate_approved (haccepted pair hpair)) hcutoff with
        ⟨hnone, r, hr, hanswers⟩ | hescapes
      · refine .inl ⟨hnone, r, hr, ?_, by simp⟩
        simpa only [TextsFit, if_pos haccepted] using hanswers
      · exact .inr hescapes
    -- a series failed the quality gate: the role abstains with the code of the report
    · obtain ⟨e, he, hshort⟩ := MarketDataCollector.collectAll_rejected haccepted {}
      obtain ⟨r, hr, hbias, hanswers⟩ := providerAbstention_ok hversion task asOf e.code
      simp only [MarketDataCollector.collect, Except.map, he]
      refine .inl ⟨fun hall => absurd hall haccepted, r, hr, ?_, fun _ _ => hbias⟩
      simpa only [TextsFit, if_neg haccepted, hshort, true_and] using hanswers

end Results

end Tomiris
