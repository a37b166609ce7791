import Tomiris.ForStd.Calendar
import Tomiris.MarketData.Service
import Tomiris.Roles.Registry
import Tomiris.Runtime.Config

/-!
# The analytical handler

`AnalyticalRoleHandler`: a task becomes a cutoff, the market data up to it, the opinion of the role,
and a signal envelope. A `MarketDataError` on the way becomes an abstention; every other exception
leaves the handler.
-/

namespace Tomiris

/-- A dictionary with text keys. -/
def dict (items : List (String × PyValue)) : PyValue :=
  .mapping (items.map (fun item => (.str item.1, item.2)))

/-- `context.get(key)` -/
def contextGet (context : PyValue) (key : String) : PyValue :=
  match context with
  | .mapping items =>
    match items.find? (fun item => match item.1 with | .str s => s == key | _ => false) with
    | some item => item.2
    | none => .none
  | _ => .none

/-- `model_dump(mode="json")` of a `TimeframeAnalysis`. -/
def TimeframeFields.modelDump (t : TimeframeFields) : PyValue :=
  dict [("timeframe", .str t.timeframe.value), ("trend", .str t.trend.value),
    ("momentum", .str t.momentum.value), ("volatility", .str t.volatility.value),
    ("volume_state", .str t.volumeState.value), ("score", .float (.finite t.score))]

/-- `model_dump(mode="json")` of an `AnalysisDataRange`. -/
def DataRangeFields.modelDump (r : DataRangeFields) : PyValue :=
  dict [("provider", .str r.provider), ("instrument", .str r.instrument),
    ("timeframe", .str r.timeframe.value), ("first_bar_at", .str (Calendar.isoformatZ r.firstBarAt)),
    ("last_bar_at", .str (Calendar.isoformatZ r.lastBarAt)), ("bar_count", .int r.barCount)]

/-- `AnalyticalRoleHandler`: the role, the name of the collector's provider, and
    `datetime.fromisoformat(raw.replace("Z", "+00:00"))` with `require_utc`, `none` where one of them
    raises. -/
structure AnalyticalRoleHandler where
  role : ConfiguredTechnicalRole Floats.TechnicalAnalysisEngine
  providerName : String
  parseUtc : String → Option Int

namespace AnalyticalRoleHandler

/-- `confidence_model_version` -/
def confidenceModelVersion : String := "deterministic-agreement.v1"

/-- `_analysis_cutoff` -/
def analysisCutoff (handler : AnalyticalRoleHandler) (now : Int) (task : AnalysisTaskRequest) :
    Except ComputeError Int :=
  match contextGet task.context "analysis_as_of" with
  -- the clock is not asked here
  | .none => .ok task.createdAt
  | .str raw =>
    match handler.parseUtc raw with
    | none => .error (.valueError "timestamp must be UTC")
    | some value =>
      if now < value then .error (.valueError "analysis_as_of cannot be in the future")
      else .ok value
  | _ => .error (.valueError "analysis_as_of must be an ISO-8601 string")

/-- `_provider_abstention` -/
def providerAbstention (handler : AnalyticalRoleHandler) (task : AnalysisTaskRequest) (asOf : Int)
    (reason : String) : Except ComputeError AgentAnalysisResult :=
  construct ResultFields.Valid
    { analysisSchemaVersion := ConfiguredTechnicalRole.analysisSchemaVersion
      roleId := handler.role.roleId
      roleVersion := handler.role.roleVersion
      configVersion := handler.role.definition.configVersion
      featurePipelineVersion := ConfiguredTechnicalRole.featurePipelineVersion
      snapshotId := task.snapshotId
      asset := task.asset
      bias := .abstain
      confidence := 0
      dataQuality := if reason = "INSUFFICIENT_HISTORY" then .insufficient else .invalid
      reasonCodes := [reason]
      dataProvider := handler.providerName
      dataAsOf := asOf
      analysisAsOf := asOf }

/-- The `EvidenceItem` of a role's evidence. -/
def evidenceItem (item : EvidenceFields) : EvidenceItem where
  evidenceType := item.evidenceType
  summary := item.summary
  sourceType := "public_market_data"
  sourceId := item.provider ++ ":" ++ item.instrument ++ ":" ++ item.timeframe.value
  provider := item.provider
  observedAt := item.observedAt
  sourceTimestamp := item.sourceTimestamp
  instrument := some item.instrument
  timeframe := some item.timeframe.value
  featureName := some item.featureName
  featureVersion := some item.featureVersion
  observation := some item.observation

/-- The `metadata` of a signal. -/
def signalMetadata (result : ResultFields) : PyValue :=
  dict [("data_quality", .str result.dataQuality.value),
    ("reason_codes", .sequence (result.reasonCodes.map .str)),
    ("timeframe_states", .sequence (result.timeframeStates.map (fun item => item.val.modelDump))),
    ("data_ranges", .sequence (result.dataRanges.map (fun item => item.val.modelDump))),
    ("analysis_as_of", .str (Calendar.isoformat result.analysisAsOf)),
    ("agent_signal_is_trade_decision", .bool false)]

/-- The greatest absolute score of the states. -/
def maxStrength (result : ResultFields) : Rat :=
  ((result.timeframeStates.map (fun item => |item.val.score|)).max?).getD 0

/-- `round(x * 100)` of a float up to 1, where the product is finite. -/
def percent (tools : FloatTools) (x : Rat) : Int :=
  roundHalfEven ((tools.format.mul (.finite x) (tools.float 100)).finite?.getD 0)

/-- The arguments of the `SignalEnvelope` in `_to_signal`. `ids` are the two `uuid4()`. -/
def signalFields (tools : FloatTools) (ids : UUID × UUID) (now : Int) (task : AnalysisTaskRequest)
    (result : ResultFields) : SignalFields where
  protocolVersion := "1.0"
  messageId := ids.1
  agentId := task.agentId
  agentRunId := ids.2
  snapshotId := task.snapshotId
  taskId := some task.taskId
  orchestrationRunId := some task.orchestrationRunId
  correlationId := some task.correlationId
  causationId := some task.taskId
  asset := task.asset
  bias := result.bias
  -- a result's confidence and scores are bounded, so neither rounds below zero
  confidence := (percent tools result.confidence).toNat
  impact := (percent tools (maxStrength result)).toNat
  timeHorizon := "multi-timeframe-context"
  evidence := result.evidence.map (fun item => evidenceItem item.val)
  riskFlags := result.reasonCodes
  dataTimestamp := result.dataAsOf
  analysisTimestamp := now
  signalTtlSeconds := (min 300 (max 1 ((task.deadline - now).tdiv second))).toNat
  roleId := some result.roleId
  roleVersion := some result.roleVersion
  configVersion := some result.configVersion
  featurePipelineVersion := some result.featurePipelineVersion
  analysisSchemaVersion := some result.analysisSchemaVersion
  dataProvider := some result.dataProvider
  dataAsOf := some result.dataAsOf
  confidenceModelVersion := some confidenceModelVersion
  metadata := signalMetadata result

/-- `_to_signal`: the validators of the envelope and of its evidence raise a `ValueError`. -/
def toSignal (tools : FloatTools) (ids : UUID × UUID) (now : Int) (task : AnalysisTaskRequest)
    (result : AgentAnalysisResult) : Except ComputeError SignalEnvelope :=
  let fields := signalFields tools ids now task result.val
  if h : fields.Valid then .ok ⟨fields, h⟩ else .error (.valueError "validation error")

/-- What the collector's provider and `asyncio.gather` answer to the requests. -/
abbrev Fetch : Type :=
  (requests : List MarketDataRequest) →
    Except MarketDataError (MarketDataCollector.Fetched requests)

/-- The `try` of `analyze`. -/
def roleResult (handler : AnalyticalRoleHandler) (fetch : Fetch) (task : AnalysisTaskRequest)
    (asOf : Int) : Except ComputeError AgentAnalysisResult := do
  let context : AnalysisContext := ⟨task, task.snapshotId, asOf, rfl⟩
  let requests ← RoleDataPlanner.plan handler.role.definition task.asset asOf
  match MarketDataCollector.collect task.snapshotId asOf ((fetch requests).map Subtype.val) with
  | .error e => handler.providerAbstention task asOf e.code
  | .ok none => .error (.valueError "validation error")
  | .ok (some collected) =>
    if h : collected.bundle.snapshotId = context.snapshotId ∧ collected.bundle.asOf = context.asOf
    then handler.role.analyze ⟨context, collected.bundle, h.1, h.2⟩
    else .error (.valueError "market-data bundle mismatch")

/-- `analyze`, with the clock at the cutoff and at the signal. -/
def analyze (handler : AnalyticalRoleHandler) (fetch : Fetch) (ids : UUID × UUID)
    (atCutoff atSignal : Int) (task : AnalysisTaskRequest) : Except ComputeError SignalEnvelope :=
  if task.agentId ≠ handler.role.definition.agentId then
    .error (.valueError "task agent does not match analytical role definition")
  else do
    let asOf ← handler.analysisCutoff atCutoff task
    let result ← handler.roleResult fetch task asOf
    toSignal handler.role.engine.tools ids atSignal task result

end AnalyticalRoleHandler

/-- What `build_analytical_handler` is given besides the settings: `str.upper`, what a role is built
    with, the YAML file and `AgentDefinition.model_validate`, and the name of the provider. -/
structure HandlerTools where
  upper : String → String
  role : RoleTools Floats.TechnicalAnalysisEngine
  loadDefinition : String → Option AgentDefinition
  providerName : String
  parseUtc : String → Option Int

/-- `build_analytical_handler`. The loader builds the role once before the checks. -/
def buildAnalyticalHandler (tools : HandlerTools) (settings : AgentRuntimeSettings) :
    Except ComputeError AnalyticalRoleHandler :=
  match settings.tomirisAgentDefinitionPath with
  | none => .error (.valueError "TOMIRIS_AGENT_DEFINITION_PATH is required for analytical roles")
  | some path =>
    match tools.loadDefinition path with
    | none => .error (.valueError "validation error")
    | some definition => do
      let role ← AgentRoleRegistry.build tools.role builtinRolePlugins definition
      if definition.agentId ≠ settings.tomirisAgentId then
        .error (.valueError "runtime AGENT_ID does not match agent definition")
      else if definition.roleId ≠ settings.tomirisAgentRole then
        .error (.valueError "runtime ROLE does not match agent definition")
      else if definition.capabilities.toFinset ≠ settings.capabilities.toFinset then
        .error (.valueError "runtime capabilities do not match agent definition")
      else if definition.supportedAssets.toFinset ≠
          (settings.supportedAssets tools.upper).toFinset then
        .error (.valueError "runtime assets do not match agent definition")
      else pure ⟨role, tools.providerName, tools.parseUtc⟩

end Tomiris
