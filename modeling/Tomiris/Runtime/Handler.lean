import Tomiris.Runtime.Analytical

/-!
# The analysis handlers

`AnalysisHandler` with its two implementations: `TestAnalysisHandler`, which abstains without
looking at any market, and the analytical one.
-/

namespace Tomiris

/-- What a handler reads from the outside: the market data, its two `uuid4()`, and the clock. -/
structure HandlerInput where
  fetch : AnalyticalRoleHandler.Fetch
  ids : UUID × UUID
  atCutoff : Int
  atSignal : Int

/-- The arguments of the `SignalEnvelope` in `TestAnalysisHandler.analyze`. -/
def testSignalFields (ids : UUID × UUID) (now : Int) (task : AnalysisTaskRequest) :
    SignalFields where
  protocolVersion := "1.0"
  messageId := ids.1
  agentId := task.agentId
  agentRunId := ids.2
  snapshotId := task.snapshotId
  taskId := some task.taskId
  orchestrationRunId := some task.orchestrationRunId
  correlationId := some task.correlationId
  causationId := some task.taskId
  asset := task.asset
  bias := .abstain
  confidence := 0
  impact := 0
  timeHorizon := "phase-02-system-test"
  evidence := []
  riskFlags := ["TEST_ONLY_NO_MARKET_ANALYSIS"]
  dataTimestamp := now
  analysisTimestamp := now
  signalTtlSeconds := (min 300 (max 1 ((task.deadline - now).tdiv second))).toNat
  metadata := dict [("handler", .str "TestAnalysisHandler"), ("test_only", .bool true)]

/-- `TestAnalysisHandler.analyze`: the validators of the envelope raise a `ValueError`. -/
def testAnalyze (ids : UUID × UUID) (now : Int) (task : AnalysisTaskRequest) :
    Except ComputeError SignalEnvelope :=
  let fields := testSignalFields ids now task
  if h : fields.Valid then .ok ⟨fields, h⟩ else .error (.valueError "validation error")

/-- The handler of a runtime. -/
inductive AnalysisHandler where
  | test
  | analytical (handler : AnalyticalRoleHandler)

/-- `AnalysisHandler.analyze`. -/
def AnalysisHandler.analyze (input : HandlerInput) (task : AnalysisTaskRequest) :
    AnalysisHandler → Except ComputeError SignalEnvelope
  | .test => testAnalyze input.ids input.atSignal task
  | .analytical handler =>
    handler.analyze input.fetch input.ids input.atCutoff input.atSignal task

end Tomiris
