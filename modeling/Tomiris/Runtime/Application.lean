import Tomiris.Runtime.Config
import Tomiris.Runtime.Security
import Tomiris.Runtime.State

/-!
# The command endpoint

`POST /v1/analyze` of the agent runtime: the body is read up to its limit, the command is
authenticated and checked against the settings, and the task store decides whether it is new.
The handler reads the clock five times on the way.
-/

namespace Tomiris

/-- `AnalysisTaskRequest`: a body that passed its validators. -/
abbrev ValidTask := { t : AnalysisTaskRequest // t.Valid }

/-- A request as it arrives. `contentLength` is `int(...)` of that header, `some none` where it
    is no integer. -/
structure RawRequest (Sig : Type) where
  contentLength : Option (Option Int)
  chunks : List (List UInt8)
  orchestratorId : Option String
  timestamp : Option String
  nonce : Option String
  keyId : Option String
  signature : Option Sig

/-- The clock readings that one request is served with, in their order. -/
structure Readings where
  verified : Int
  checked : Int
  acked : Int
  expiry : Int
  stored : Int

/-- The loop of `read_limited_task_body`. -/
def collectChunks (maximumBytes : Nat) (collected : List UInt8) :
    List (List UInt8) → Except HubError (List UInt8)
  | [] => .ok collected
  | chunk :: rest =>
    if collected.length + chunk.length > maximumBytes then .error ⟨"TASK_REQUEST_TOO_LARGE", 413⟩
    else collectChunks maximumBytes (collected ++ chunk) rest

/-- `read_limited_task_body`. -/
def readLimitedTaskBody {Sig : Type} (request : RawRequest Sig) (maximumBytes : Nat) :
    Except HubError (List UInt8) :=
  match request.contentLength with
  | none => collectChunks maximumBytes [] request.chunks
  | some none => .error ⟨"INVALID_CONTENT_LENGTH", 400⟩
  | some (some declared) =>
    if declared < 0 then .error ⟨"INVALID_CONTENT_LENGTH", 400⟩
    else if declared > maximumBytes then .error ⟨"TASK_REQUEST_TOO_LARGE", 413⟩
    else collectChunks maximumBytes [] request.chunks

/-- The five headers, if none is missing. -/
def RawRequest.authHeaders {Sig : Type} (r : RawRequest Sig) : Option (CommandAuthHeaders Sig) := do
  pure ⟨← r.orchestratorId, ← r.timestamp, ← r.nonce, ← r.keyId, ← r.signature⟩

/-- What the runtime is built from: the settings, the primitives and `model_validate_json` of
    `AnalysisTaskRequest`. -/
structure AgentRuntime (Sig : Type) where
  settings : AgentRuntimeSettings
  crypto : Crypto Sig
  modelValidateJson : List UInt8 → Option ValidTask
  settings_valid : settings.Valid

namespace AgentRuntime

variable {Sig : Type}

def authenticator (app : AgentRuntime Sig) : CommandAuthenticator where
  orchestratorId := app.settings.tomirisOrchestratorId
  targetAgentId := app.settings.tomirisAgentId
  keyId := app.settings.tomirisOrchestratorCommandKeyId
  secret := app.settings.tomirisOrchestratorCommandSecret
  maxSkewSeconds := app.settings.commandMaxClockSkewSeconds

/-- The checks of the task against the settings, and the ACK. -/
def checkTask (app : AgentRuntime Sig) (clock : Readings) (task : AnalysisTaskRequest) :
    Except HubError AnalysisTaskAck :=
  if task.agentId ≠ app.settings.tomirisAgentId then .error ⟨"TASK_AGENT_MISMATCH", 403⟩
  else if task.deadline ≤ clock.checked then .error ⟨"TASK_EXPIRED", 422⟩
  else if task.requiredCapability ∉ app.settings.capabilities then
    .error ⟨"AGENT_CAPABILITY_MISMATCH", 422⟩
  else if task.asset ∉ app.settings.supportedAssets app.crypto.upper then
    .error ⟨"AGENT_ASSET_MISMATCH", 422⟩
  -- the version is bounded by the ACK only
  else if boundedText 32 app.settings.runtimeVersion = false then
    .error ⟨"INVALID_TASK_SCHEMA", 422⟩
  else .ok ⟨task.taskId, app.settings.tomirisAgentId, clock.acked, app.settings.runtimeVersion⟩

/-- `analyze` up to the task store: the task and the arguments of `accept`. -/
def prepare [DecidableEq Sig] (app : AgentRuntime Sig) (clock : Readings)
    (request : RawRequest Sig) : Except HubError (ValidTask × RuntimeTaskStore.Submission) :=
  match readLimitedTaskBody request app.settings.maxTaskRequestBytes with
  | .error e => .error e
  | .ok body =>
    match request.authHeaders with
    | none => .error ⟨"MISSING_COMMAND_AUTH_HEADERS", 401⟩
    | some auth =>
      match app.authenticator.verify app.crypto clock.verified auth body with
      | .error e => .error e
      | .ok () =>
        match app.modelValidateJson body with
        | none => .error ⟨"INVALID_TASK_SCHEMA", 422⟩
        | some task =>
          match app.checkTask clock task.val with
          | .error e => .error e
          | .ok ack =>
            .ok (task,
              { nonce := auth.nonce
                nonceExpiresAt := clock.expiry + seconds app.settings.commandNonceTtlSeconds
                now := clock.stored
                taskId := task.val.taskId
                bodyHash := app.crypto.sha256 body
                ack := ack })

/-- The error of `accept` as an HTTP answer. -/
def acceptFailure : AcceptError → HubError
  | .commandReplay => ⟨"COMMAND_REPLAY", 409⟩
  | .taskDuplicateConflict => ⟨"TASK_DUPLICATE_CONFLICT", 409⟩

/-- `analyze`: the store, and the ACK with the task that is handed to the handler, if any. -/
def analyze [DecidableEq Sig] (app : AgentRuntime Sig) (st : RuntimeTaskStore) (clock : Readings)
    (request : RawRequest Sig) :
    RuntimeTaskStore × Except HubError (AnalysisTaskAck × Option ValidTask) :=
  match app.prepare clock request with
  | .error e => (st, .error e)
  | .ok (task, sub) =>
    match st.accept sub with
    | (st, .error e) => (st, .error (acceptFailure e))
    | (st, .ok (ack, isNew)) => (st, .ok (ack, if isNew then some task else none))

end AgentRuntime

end Tomiris
