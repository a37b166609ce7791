import Tomiris.MarketData.Binance
import Tomiris.Spec.Envelope
import Tomiris.Spec.Opinion

/-!
# When an accepted task yields an honest envelope

The endpoint checks the deadline of a task against the clock, not its `created_at`, and the handler
takes that for its cutoff. A task from a clock that runs ahead is so analysed with a cutoff in the
future, and an abstention for it fails the contract. The quality gate compares times and not prices:
a close that is zero as a float passes it, and the division by it leaves the handler.

## Key results

- `honest_envelope_iff`: the tasks and market data for which the envelope is honest
- `future_task_raises`: an accepted task for which the handler raises
-/

namespace Tomiris

open TechnicalAnalysisEngine

/-- The endpoint accepts the request and hands a new task to the handler. -/
def AgentRuntime.Accepts {Sig : Type} [DecidableEq Sig] (app : AgentRuntime Sig)
    (st : RuntimeTaskStore) (clock : Readings) (request : RawRequest Sig) (task : ValidTask) : Prop :=
  ∃ ack, (app.analyze st clock request).2 = .ok (ack, some task)

/-- The cutoff is not later than the clock, and an envelope is returned, which abstains if the
    market data were refused. -/
def HonestEnvelope (handler : AnalyticalRoleHandler) (fetch : AnalyticalRoleHandler.Fetch)
    (ids : UUID × UUID) (atCutoff atSignal : Int) (task : AnalysisTaskRequest) : Prop :=
  (∃ asOf, handler.analysisCutoff atCutoff task = .ok asOf ∧ asOf ≤ atCutoff) ∧
  ∃ envelope, handler.analyze fetch ids atCutoff atSignal task = .ok envelope ∧
    ∀ requests e,
      RoleDataPlanner.plan handler.role.definition task.asset task.createdAt = .ok requests →
      MarketDataCollector.collect task.snapshotId task.createdAt
        ((fetch requests).map Subtype.val) = .error e →
      envelope.bias = .abstain

/-- A request that passes the checks, for a new task, is accepted. -/
theorem accepts_of_prepare {Sig : Type} [DecidableEq Sig] {app : AgentRuntime Sig}
    {st : RuntimeTaskStore} {clock : Readings} {request : RawRequest Sig} {task : ValidTask}
    {sub : RuntimeTaskStore.Submission} (hprepare : app.prepare clock request = .ok (task, sub))
    (hnew : (st.accept sub).2 = .ok (sub.ack, true)) : app.Accepts st clock request task := by
  refine ⟨sub.ack, ?_⟩
  unfold AgentRuntime.analyze
  rw [hprepare]
  simp only
  -- the store answers a new task, not an error
  split
  · rename_i heq
    rw [heq] at hnew
    cases hnew
  · rename_i heq
    rw [heq] at hnew
    cases hnew
    rfl

/-- An accepted task is for the agent, and for an asset that it supports. -/
theorem accepts_serves {Sig : Type} [DecidableEq Sig] {app : AgentRuntime Sig}
    {st : RuntimeTaskStore} {clock : Readings} {request : RawRequest Sig} {task : ValidTask}
    (h : app.Accepts st clock request task) :
    task.val.agentId = app.settings.tomirisAgentId ∧
      task.val.asset ∈ app.settings.supportedAssets app.crypto.upper := by
  obtain ⟨ack, h⟩ := h
  unfold AgentRuntime.analyze at h
  split at h
  · cases h
  -- the checks before the store have passed
  rename_i task' sub hprepare
  obtain ⟨auth, body, -, hadmitted⟩ := AgentRuntime.prepare_ok hprepare
  split at h
  · cases h
  rename_i st' ack' isNew haccept
  -- a new task is the one that was admitted
  have hpair := Except.ok.inj h
  have hsome := (Prod.mk.inj hpair).2
  split at hsome
  · cases hsome
    exact ⟨hadmitted.serves.agent, hadmitted.serves.asset⟩
  · cases hsome

/-- Every task that the endpoint accepts, without `analysis_as_of`, at any two readings of the
    clock and for every answer of the provider: the envelope is honest exactly if the task was not
    created in the future, the texts of the answer fit, and no exception leaves the features of the
    series that the quality gate lets pass. -/
theorem honest_envelope_iff {Sig : Type} [DecidableEq Sig] {app : AgentRuntime Sig}
    {tools : HandlerTools} {handler : AnalyticalRoleHandler}
    (hupper : tools.upper = app.crypto.upper)
    (hbuilt : buildAnalyticalHandler tools app.settings = .ok handler)
    {st : RuntimeTaskStore} {clock : Readings} {request : RawRequest Sig} {task : ValidTask}
    (haccepts : app.Accepts st clock request task)
    (hcontext : contextGet task.val.context "analysis_as_of" = .none)
    (hcreated : isDatetime task.val.createdAt = true) (fetch : AnalyticalRoleHandler.Fetch)
    (ids : UUID × UUID) {atCutoff atSignal : Int} (hclock : atCutoff ≤ atSignal) :
    HonestEnvelope handler fetch ids atCutoff atSignal task.val ↔
      task.val.createdAt ≤ atCutoff ∧
        ∀ requests, RoleDataPlanner.plan handler.role.definition task.val.asset
          task.val.createdAt = .ok requests →
          TextsFit handler.providerName (fetch requests) ∧
            Computes handler.role.engine (fetch requests) := by
  have hb := buildAnalyticalHandler_ok hbuilt
  obtain ⟨hagent, hasset⟩ := accepts_serves haccepts
  have hcutoff : handler.analysisCutoff atCutoff task.val = .ok task.val.createdAt := by
    unfold AnalyticalRoleHandler.analysisCutoff
    rw [hcontext]
  -- the role is built for one asset, which is the task's
  obtain ⟨asset, hsupported⟩ := hb.asset
  have hmem : task.val.asset ∈ handler.role.definition.supportedAssets := by
    rw [← List.mem_toFinset, hb.assets, List.mem_toFinset, hupper]
    exact hasset
  rw [hsupported, List.mem_singleton] at hmem
  rw [← hmem] at hsupported
  obtain ⟨requests, hplan, hbounds, hasOf⟩ := plan_ok hsupported hcreated
  have hanalyze : ∀ result, handler.roleResult fetch task.val task.val.createdAt = result →
      handler.analyze fetch ids atCutoff atSignal task.val = result >>= fun r =>
        AnalyticalRoleHandler.toSignal handler.role.engine.tools ids atSignal task.val r := by
    rintro result rfl
    unfold AnalyticalRoleHandler.analyze
    rw [if_neg (not_not.mpr (hagent.trans hb.agent.symm)), hcutoff]
    rfl
  rcases roleResult_cases hb.role_version hsupported hplan hbounds hasOf fetch with
    ⟨hcomputes, r, hr, hanswers, habstains⟩ | ⟨hescapes, e, he⟩
  · have hvalid := signalFields_valid_iff task.property hanswers.lineage
      (by rw [hanswers.analysis_as_of]; exact hcreated) handler.role.engine.tools ids atSignal
    constructor
    · rintro ⟨⟨asOf, hcut, hle⟩, envelope, hok, -⟩
      rw [hcutoff] at hcut
      cases hcut
      refine ⟨hle, ?_⟩
      intro requests' hplan'
      rw [hplan] at hplan'
      cases hplan'
      refine ⟨?_, hcomputes⟩
      rw [hanalyze _ hr, Except.ok_bind] at hok
      unfold AnalyticalRoleHandler.toSignal at hok
      simp only at hok
      split at hok
      · rename_i hfields
        exact hanswers.texts.mp (hvalid.mp hfields).2
      · cases hok
    · rintro ⟨hle, hfits⟩
      have hnow : r.val.dataAsOf ≤ atSignal := (hanswers.data_as_of.trans hle).trans hclock
      have hfields := hvalid.mpr ⟨hnow, hanswers.texts.mpr (hfits requests hplan).1⟩
      refine ⟨⟨_, hcutoff, hle⟩, ⟨_, hfields⟩, ?_, ?_⟩
      · rw [hanalyze _ hr]
        exact dif_pos hfields
      · intro requests' e hplan' hcollect
        rw [hplan] at hplan'
        cases hplan'
        exact habstains e hcollect
  -- what leaves the features leaves the handler
  · refine iff_of_false ?_ fun hcond => hescapes (hcond.2 requests hplan).2
    rintro ⟨-, envelope, hok, -⟩
    rw [hanalyze _ he] at hok
    cases hok

/-- A definition that agrees with the settings is built. -/
theorem buildAnalyticalHandler_eq {tools : HandlerTools} {settings : AgentRuntimeSettings}
    {path : String} {definition : AgentDefinition}
    {role : ConfiguredTechnicalRole Floats.TechnicalAnalysisEngine}
    (hpath : settings.tomirisAgentDefinitionPath = some path)
    (hload : tools.loadDefinition path = some definition)
    (hrole : AgentRoleRegistry.build tools.role builtinRolePlugins definition = .ok role)
    (hagent : definition.agentId = settings.tomirisAgentId)
    (hroleId : definition.roleId = settings.tomirisAgentRole)
    (hcapabilities : definition.capabilities.toFinset = settings.capabilities.toFinset)
    (hassets : definition.supportedAssets.toFinset =
      (settings.supportedAssets tools.upper).toFinset) :
    buildAnalyticalHandler tools settings =
      .ok ⟨role, tools.providerName, tools.parseUtc⟩ := by
  unfold buildAnalyticalHandler
  simp only [hpath, hload, hrole, bind, Except.bind]
  rw [if_neg (not_not.mpr hagent), if_neg (not_not.mpr hroleId),
    if_neg (not_not.mpr hcapabilities), if_neg (not_not.mpr hassets)]
  rfl

namespace Deployment

/-- A task of agent `ETH_AGENT` that is created and expires at these seconds. -/
def ethTask (created deadline : Nat) : AnalysisTaskRequest where
  protocolVersion := "1.0"
  taskId := 200
  orchestrationRunId := 100
  snapshotId := 300
  agentId := "ETH_AGENT"
  asset := "ETHUSDT"
  requiredCapability := "technical_analysis"
  priority := 50
  createdAt := seconds created
  deadline := seconds deadline
  correlationId := 100
  causationId := none
  context := .mapping []

theorem ethTask_valid {created deadline : Nat} (h : created < deadline) :
    (ethTask created deadline).Valid where
  protocol := rfl
  agent := show isAgentId "ETH_AGENT" = true by decide
  asset := show isAsset "ETHUSDT" = true by decide
  capability := show boundedText 64 "technical_analysis" = true by decide
  priority_le := show 50 ≤ 100 by decide
  context_mapping := rfl
  context := show (PyValue.mapping []).Bounded contextLimits = true by decide
  deadline := by
    simp only [ethTask, seconds, second]
    omega

/-- The settings of the agent. -/
def ethSettings : AgentRuntimeSettings where
  tomirisAgentId := "ETH_AGENT"
  tomirisAgentRole := "eth.technical.v1"
  tomirisAgentCapabilities := "technical_analysis"
  tomirisAgentSupportedAssets := "ETHUSDT"
  tomirisHubUrl := "https://hub"
  tomirisHubAgentSecret := "the-derived-hub-secret-of-the-eth-agent"
  tomirisOrchestratorCommandSecret := "the-derived-command-secret-of-the-eth-agent"
  tomirisAgentDefinitionPath := some "eth.yaml"

/-- A runtime that parses the body of a task. -/
def ethRuntime (task : ValidTask) : AgentRuntime (String × String) where
  settings := ethSettings
  crypto := terms
  modelValidateJson := fun body => if body = task.val.json jsonFloat then some task else none
  settings_valid :=
    { agent := by decide
      role := by decide
      orchestrator := by decide
      command_key := by decide
      skew := by decide
      nonce_ttl := by decide
      request_bytes := by decide
      hub_secret := by decide
      command_secret := by decide
      secrets_differ := by decide
      hub_url := .inr (by decide +kernel) }

/-- The definition of the agent, with one data requirement. -/
def ethDefinition : AgentDefinition where
  agentId := "ETH_AGENT"
  roleId := "eth.technical.v1"
  configVersion := "1"
  supportedAssets := ["ETHUSDT"]
  capabilities := ["technical_analysis"]
  requiredData := [⟨"ETHUSDT", .h1, 60, 7200⟩]
  valid :=
    { agent := by decide
      role := by decide
      config_version := by decide
      schema := rfl
      assets := by decide
      capabilities := by decide
      required_data := by decide
      requirements := by
        intro r hr
        rw [List.mem_singleton] at hr
        subst hr
        exact ⟨by decide, by decide, by decide, by decide⟩
      parameters := by decide
      lifecycle := by decide
      instruments := by decide
      unique := by decide
      evidence := by decide }

/-- The defaults of `FeaturePipelineConfig`. -/
def defaultPipeline : FeaturePipelineConfig where
  valid := ⟨by decide, by decide, by decide, by decide, by decide, by decide, by decide, by decide,
    by decide, by decide, by decide, by decide, by decide, by decide⟩

theorem floatDefaults_valid :
    (TechnicalFields.defaults FloatFormat.binary64.round defaultPipeline).ValidFloats
      .binary64 where
  weights := by decide +kernel
  weight_keys := by decide
  neutral := by decide +kernel
  strong_trend := by decide +kernel
  rsi_bullish := by decide +kernel
  rsi_bearish := by decide +kernel
  high_atr := by decide +kernel
  extreme_atr := by decide +kernel
  high_volatility := by decide +kernel
  extreme_volatility := by decide +kernel
  range_ratio := by decide +kernel
  swing := by decide
  rsi_order := by decide +kernel
  atr_order := by decide +kernel
  volatility_order := by decide +kernel

/-- The floats of Python. -/
def floatTools : FloatTools where
  format := .binary64
  sum := FloatFormat.binary64.total
  sum_notNeg := fun _ => FloatFormat.total_notNeg
  sum_ne_zero := fun _ => FloatFormat.total_ne_zero
  log := fun q => FloatFormat.binary64.round (FloatFunctions.log q)
  pstdev := fun data => FloatFormat.binary64.round (FloatFunctions.pstdev data)
  general := fun digits x =>
    match x with
    | .finite q => FloatFunctions.general digits q
    | .nan => "nan"
    | .posInf => "inf"
    | .negInf => "-inf"

/-- The engine with the defaults of `TechnicalRoleConfig`. -/
def defaultEngine (evidenceType : String) : Floats.TechnicalAnalysisEngine where
  tools := floatTools
  config := { TechnicalFields.defaults FloatFormat.binary64.round defaultPipeline with
    valid := floatDefaults_valid }
  evidenceType := evidenceType

/-- A definition without parameters has the defaults. -/
def ethTools : HandlerTools where
  upper := terms.upper
  role := ⟨fun parameters =>
    match parameters with
    | .mapping [] => some defaultEngine
    | _ => none⟩
  loadDefinition := fun path => if path = "eth.yaml" then some ethDefinition else none
  providerName := Binance.name
  parseUtc := fun _ => none

def ethHandler : AnalyticalRoleHandler where
  role := ⟨ethDefinition, "1.0.0", defaultEngine "technical_feature"⟩
  providerName := Binance.name
  parseUtc := ethTools.parseUtc

/-- The handler that the runtime builds. -/
theorem ethHandler_built (task : ValidTask) :
    buildAnalyticalHandler ethTools (ethRuntime task).settings = .ok ethHandler :=
  @buildAnalyticalHandler_eq ethTools (ethRuntime task).settings "eth.yaml" ethDefinition
    ethHandler.role rfl rfl rfl rfl rfl
    (show ethDefinition.capabilities.toFinset = ethSettings.capabilities.toFinset by
      decide +kernel)
    (show ethDefinition.supportedAssets.toFinset =
        (ethSettings.supportedAssets ethTools.upper).toFinset by decide +kernel)

/-- The clock reads `n` seconds throughout. -/
def still (n : Nat) : Readings := ⟨seconds n, seconds n, seconds n, seconds n, seconds n⟩

/-- The runtime parses what the orchestrator dumps. -/
theorem ethRuntime_parses (task : ValidTask) :
    (ethRuntime task).modelValidateJson (task.val.json jsonFloat) = some task := by
  simp [ethRuntime]

/-- A command for the task with timestamp 0 is accepted in its window, whatever the `created_at`. -/
theorem ethRuntime_accepts {created deadline n : Nat} (h : created < deadline)
    (hfits : ((ethTask created deadline).json jsonFloat).length ≤ 65536) (hn : n ≤ 60)
    (hlive : n < deadline) :
    (ethRuntime ⟨ethTask created deadline, ethTask_valid h⟩).Accepts {} (still n)
      ((ethRuntime ⟨ethTask created deadline, ethTask_valid h⟩).command 0
        ((ethTask created deadline).json jsonFloat))
      ⟨ethTask created deadline, ethTask_valid h⟩ := by
  have hserves : (ethRuntime ⟨ethTask created deadline, ethTask_valid h⟩).Serves
      ((ethTask created deadline).json jsonFloat) ⟨ethTask created deadline, ethTask_valid h⟩ :=
    { body_fits := hfits
      parsed := ethRuntime_parses ⟨ethTask created deadline, ethTask_valid h⟩
      agent := rfl
      capability := show "technical_analysis" ∈ ethSettings.capabilities by decide +kernel
      asset := show "ETHUSDT" ∈ ethSettings.supportedAssets terms.upper by decide +kernel
      version := show boundedText 32 ethSettings.runtimeVersion = true by decide }
  -- the window of the timestamp in microseconds, and the deadline
  have hold : seconds n - 0 * second ≤ seconds 60 := by
    simp only [seconds, second]
    omega
  have hfuture : -seconds 60 ≤ seconds n - 0 * second := by
    simp only [seconds, second]
    omega
  have hdeadline : seconds n < seconds deadline := by
    simp only [seconds, second]
    omega
  obtain ⟨sub, hprepare⟩ := AgentRuntime.prepare_command (by decide) hserves (still n) hold hfuture
    hdeadline
  exact accepts_of_prepare hprepare rfl

/-- The provider does not answer in time. -/
def timedOut : AnalyticalRoleHandler.Fetch :=
  fun _ => .error ⟨"PROVIDER_TIMEOUT", "market-data request timed out"⟩

theorem timedOut_fits (requests : List MarketDataRequest) :
    TextsFit ethHandler.providerName (timedOut requests) ∧
      Computes ethHandler.role.engine (timedOut requests) :=
  ⟨show "PROVIDER_TIMEOUT".length ≤ 128 ∧ Binance.name.length ≤ 128 by decide, trivial⟩

end Deployment

open Deployment in
/-- A task that was created before the clock: the provider's timeout becomes an abstention. -/
theorem honest_envelope_eth :
    HonestEnvelope ethHandler timedOut (1, 2) (seconds 1) (seconds 1) (ethTask 0 300) :=
  (honest_envelope_iff rfl (ethHandler_built ⟨ethTask 0 300, ethTask_valid (by decide)⟩)
    (ethRuntime_accepts (by decide) (by decide +kernel) (show 1 ≤ 60 by decide) (by decide)) rfl
    (by decide) timedOut (1, 2) (le_refl (seconds 1))).mpr
    ⟨by decide, fun requests _ => timedOut_fits requests⟩

open Deployment in
/-- An accepted task from a clock that is 29 s ahead. The abstention for it is newer than the
    envelope, so that `analyze` raises. -/
theorem future_task_raises :
    let task : ValidTask := ⟨ethTask 30 330, ethTask_valid (by decide)⟩
    (ethRuntime task).Accepts {} (still 1) ((ethRuntime task).command 0 (task.val.json jsonFloat)) task ∧
      buildAnalyticalHandler ethTools (ethRuntime task).settings = .ok ethHandler ∧
      contextGet task.val.context "analysis_as_of" = .none ∧
      ¬ HonestEnvelope ethHandler timedOut (1, 2) (seconds 1) (seconds 1) task.val := by
  intro task
  refine ⟨ethRuntime_accepts (by decide) (by decide +kernel) (by decide) (by decide),
    ethHandler_built task, rfl, ?_⟩
  rintro ⟨-, envelope, henvelope, -⟩
  have hraises : (ethHandler.analyze timedOut (1, 2) (seconds 1) (seconds 1)
      (ethTask 30 330)).isOk = false := by
    decide +kernel
  rw [henvelope] at hraises
  cases hraises

end Tomiris
