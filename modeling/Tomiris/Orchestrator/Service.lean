import Tomiris.Hub.Settings
import Tomiris.Orchestrator.Client
import Tomiris.Runtime.Application

/-!
# The orchestrator service

`OrchestratorService`: the dispatch worker and the dispatch client of one process, built from the
settings. The client signs every command for its agent, so that a dispatch is a request on the
wire and the runtime's HTTP answer to it.
-/

namespace Tomiris

/-- `OrchestratorService`: its dispatch worker, and what its dispatch client signs and checks
    endpoints with. -/
structure OrchestratorService where
  dispatcher : DispatchWorker
  orchestratorId : String
  commandKeyId : String
  secretProvider : DerivedPerAgentSecretProvider
  client : AgentDispatchClient

/-- The `ValueError` of `OrchestratorService.__init__`. -/
inductive ServiceError where
  | masterSecretMissing
deriving DecidableEq

/-- `EndpointValidator.__init__`, with `str.lower` given. -/
def EndpointValidator.ofSuffixes (lower : String → String) (suffixes : List String) :
    EndpointValidator where
  allowedHostSuffixes := suffixes.map fun item =>
    lower (String.ofList (item.toList.dropWhile (· == '.')))

/-- `OrchestratorService.__init__`. -/
def orchestratorService (lower : String → String) (s : SettingsFields) :
    Except ServiceError OrchestratorService :=
  match s.tomirisOrchestratorAgentMasterSecret with
  | none => .error .masterSecretMissing
  | some root =>
    .ok {
      dispatcher := {
        workerId := s.orchestratorInstanceId
        batchSize := min s.orchestratorDispatchBatchSize s.orchestratorMaxInFlight
        leaseTime := timedelta (s.agentConnectTimeoutSeconds + s.agentAckTimeoutSeconds +
          s.agentColdStartGraceSeconds + 5)
        maxAttempts := s.agentMaxDispatchAttempts
        backoff := ⟨s.agentRetryBaseSeconds, s.agentRetryMaxSeconds⟩
        circuitFailureThreshold := s.agentCircuitFailureThreshold
        circuitOpenSeconds := s.agentCircuitOpenSeconds }
      orchestratorId := s.orchestratorInstanceId
      commandKeyId := s.orchestratorCommandKeyId
      secretProvider := {
        masterSecret := root
        currentKeyId := s.orchestratorCommandKeyId
        purpose := "orchestrator-command" }
      client := ⟨.ofSuffixes lower (s.allowedAgentHostSuffixes lower)⟩ }

/-- A command as the dispatch client posts it. -/
structure SentCommand (Sig : Type) where
  agentId : String
  url : String
  headers : CommandAuthHeaders Sig
  body : List UInt8

/-- The request on the wire. -/
def SentCommand.raw {Sig : Type} (m : SentCommand Sig) : RawRequest Sig where
  contentLength := some (some m.body.length)
  chunks := [m.body]
  orchestratorId := some m.headers.orchestratorId
  timestamp := some m.headers.timestamp
  nonce := some m.headers.nonce
  keyId := some m.headers.keyId
  signature := some m.headers.signature

/-- The HTTP answer of the command endpoint; a rejection has no ACK in its body. -/
def AgentRuntime.response :
    Except HubError (AnalysisTaskAck × Option ValidTask) → Response
  | .ok (ack, _) => ⟨202, .ack ack⟩
  | .error e => ⟨e.statusCode, .invalid⟩

namespace OrchestratorService

variable {Sig : Type}

/-- The secret that a command for the agent is signed with. -/
def secret (c : Crypto Sig) (service : OrchestratorService) (agentId : String) : Option String :=
  match service.secretProvider.getSecretForAgent c agentId service.commandKeyId with
  | .ok secret => secret
  -- a root that is too short never gets past the settings
  | .error _ => none

/-- The request that `dispatch` posts for a command, with `body` dumped from it. `generated` is what
    `generate_nonce()` returns. -/
def message (c : Crypto Sig) (service : OrchestratorService) (timestamp : Int)
    (generated agentId url : String) (body : List UInt8) : SentCommand Sig where
  agentId := agentId
  url := url
  headers := buildCommandHeaders c generated service.orchestratorId agentId service.commandKeyId
    ((service.secret c agentId).getD "") body timestamp none
  body := body

/-- `AgentDispatchClient.dispatch` over HTTP: `send` is the network with the runtime behind it, and
    `modelDump` is `request.model_dump_json().encode()`. -/
def dispatch (c : Crypto Sig) (modelDump : AnalysisTaskRequest → List UInt8)
    (service : OrchestratorService) (net : Network)
    (send : SentCommand Sig → Except HttpError Response) (timestamp : Int) (generated : String)
    (command : DispatchCommand) : Except DispatchError DispatchResult :=
  service.client.dispatch
    { net with
      secret := service.secret c
      post := fun url request =>
        send (service.message c timestamp generated command.agentId url (modelDump request)) }
    command

/-- The request that a dispatch posts, if it comes to that. -/
def outgoing (c : Crypto Sig) (modelDump : AnalysisTaskRequest → List UInt8)
    (service : OrchestratorService) (net : Network) (timestamp : Int) (generated : String)
    (command : DispatchCommand) : Option (SentCommand Sig) :=
  match service.client.endpointValidator.validate net command.endpointUrl
      command.endpointEnvironment with
  | .error _ => none
  | .ok endpoint =>
    if (service.secret c command.agentId).isSome ∧ command.request.Valid then
      some (service.message c timestamp generated command.agentId (endpoint ++ "/v1/analyze")
        (modelDump command.request))
    else none

end OrchestratorService

end Tomiris
