import Mathlib.Data.Finset.Dedup
import Tomiris.Orchestrator.Service
import Tomiris.System

/-!
# Health probes

`AgentHealthProber.probe` up to its last transaction (which is `recordProbe`), with the three
endpoints of the agent runtime that it asks.
-/

namespace Tomiris

/-- `RuntimeCapabilities`, without `analytical_role_api_version`, which nothing reads. -/
structure RuntimeCapabilities where
  agentId : String
  runtimeVersion : String
  role : String
  capabilities : List String
  supportedAssets : List String
  protocolVersions : List String

/-- The field constraints of `RuntimeCapabilities`. -/
structure RuntimeCapabilities.Valid (r : RuntimeCapabilities) : Prop where
  agent : isAgentId r.agentId = true
  version : boundedText 32 r.runtimeVersion = true
  role : boundedText 64 r.role = true
  capabilities : r.capabilities.length ≤ 50
  supported_assets : r.supportedAssets.length ≤ 100
  protocols : 1 ≤ r.protocolVersions.length ∧ r.protocolVersions.length ≤ 10

instance (r : RuntimeCapabilities) : Decidable r.Valid :=
  decidable_of_iff (isAgentId r.agentId = true ∧ boundedText 32 r.runtimeVersion = true ∧
      boundedText 64 r.role = true ∧ r.capabilities.length ≤ 50 ∧
      r.supportedAssets.length ≤ 100 ∧ 1 ≤ r.protocolVersions.length ∧
      r.protocolVersions.length ≤ 10)
    ⟨fun ⟨h₁, h₂, h₃, h₄, h₅, h₆, h₇⟩ => ⟨h₁, h₂, h₃, h₄, h₅, h₆, h₇⟩,
      fun ⟨h₁, h₂, h₃, h₄, h₅, h₆, h₇⟩ => ⟨h₁, h₂, h₃, h₄, h₅, h₆, h₇⟩⟩

/-! ## The prober -/

/-- The body of an answer, as `RuntimeCapabilities.model_validate(response.json())` reads it. -/
inductive HealthBody where
  | capabilities (r : RuntimeCapabilities)
  /-- Reading it raises a `ValueError` or a `TypeError`. -/
  | invalid
  /-- Reading it raises anything else. -/
  | unreadable

structure HealthResponse where
  statusCode : Nat
  body : HealthBody

/-- What `client.get` raises. -/
inductive GetError where
  /-- An `httpx.HTTPError`, a `ValueError` or a `TypeError`. -/
  | caught
  | escapes

/-- The library and network functions that one probe uses. -/
structure HealthNetwork extends Network where
  get : String → Except GetError HealthResponse
  /-- What the resolver raises beyond `OSError` is a `ValueError`, as `UnicodeError` is. -/
  resolverValueError : Bool := true

namespace AgentHealthProber

/-- The agent could not be asked, or did not answer as it should. -/
def unavailable (code : String) (latencyMs : Option Rat := none) : ProbeResult :=
  ⟨.unavailable, some code, latencyMs⟩

/-- `drift` -/
def drift (agent : Agent) (runtime : RuntimeCapabilities) : Bool :=
  runtime.agentId != agent.agentId || runtime.role != agent.role ||
    runtime.capabilities.toFinset != agent.capabilities.toFinset ||
    runtime.supportedAssets.toFinset != agent.supportedAssets.toFinset ||
    !runtime.protocolVersions.contains agent.protocolVersion

/-- The part of `probe` after the three answers have come back. -/
def readAnswers (agent : Agent) (latencyMs : Rat) (live ready capabilities : HealthResponse) :
    Except DispatchError ProbeResult :=
  if live.statusCode ≠ 200 ∨ ready.statusCode ≠ 200 then
    .ok (unavailable "AGENT_UNAVAILABLE" (some latencyMs))
  else if capabilities.statusCode ≠ 200 then
    .ok ⟨.degraded, some "AGENT_CAPABILITY_MISMATCH", some latencyMs⟩
  else match capabilities.body with
    -- the latency has been measured by then, and stays
    | .invalid => .ok (unavailable "AGENT_UNAVAILABLE" (some latencyMs))
    | .unreadable => .error .body
    | .capabilities runtime =>
      if drift agent runtime then
        .ok ⟨.degraded, some "AGENT_CAPABILITY_MISMATCH", some latencyMs⟩
      else .ok ⟨.healthy, none, some latencyMs⟩

/-- The three requests, one after the other. -/
def ask (net : HealthNetwork) (origin : String) :
    Except GetError (HealthResponse × HealthResponse × HealthResponse) := do
  let live ← net.get (origin ++ "/health/live")
  let ready ← net.get (origin ++ "/health/ready")
  let capabilities ← net.get (origin ++ "/v1/capabilities")
  pure (live, ready, capabilities)

/-- `probe` up to its last transaction, for the rows that its first session has read. -/
def observe (v : EndpointValidator) (net : HealthNetwork) (agent : Option Agent)
    (endpoint : Option AgentEndpoint) : Except DispatchError ProbeResult :=
  match agent, endpoint with
  | some agent, some endpoint =>
    if endpoint.enabled = false then .ok (unavailable "AGENT_ENDPOINT_MISSING")
    else match v.validate net.toNetwork endpoint.endpointUrl endpoint.environment with
      | .error (.security e) => .ok (unavailable e.code)
      -- `ip_address` raises a `ValueError`, which `dispatch` does not catch
      | .error (.escapes .address) => .ok (unavailable "AGENT_UNAVAILABLE")
      | .error (.escapes e) =>
        if net.resolverValueError then .ok (unavailable "AGENT_UNAVAILABLE") else .error e
      | .ok origin =>
        match ask net origin with
        | .error .caught => .ok (unavailable "AGENT_UNAVAILABLE")
        | .error .escapes => .error .http
        | .ok (live, ready, capabilities) =>
          readAnswers agent (max 0 net.latencyMs) live ready capabilities
  | _, _ => .ok (unavailable "AGENT_ENDPOINT_MISSING")

end AgentHealthProber

/-- `AgentHealthProber.probe`: the rows are read from `before`, and the result is written to what the
    store is by then. -/
def probe (v : EndpointValidator) (net : HealthNetwork) (now : Int) (agentId : String)
    (before s : Store) : Except DispatchError (Availability × Store) :=
  match AgentHealthProber.observe v net (before.agents.get? agentId)
      (before.endpoints.get? agentId) with
  | .error e => .error e
  | .ok r => .ok (r.availability, recordProbe now agentId r s)

/-! ## The runtime -/

namespace AgentRuntime

variable {Sig : Type}

/-- The document of `GET /v1/capabilities`. -/
def capabilitiesDocument (app : AgentRuntime Sig) : RuntimeCapabilities where
  agentId := app.settings.tomirisAgentId
  runtimeVersion := app.settings.runtimeVersion
  role := app.settings.tomirisAgentRole
  capabilities := app.settings.capabilities
  supportedAssets := app.settings.supportedAssets app.crypto.upper
  protocolVersions := ["1.0"]

/-- The answer of the runtime to a `GET` of the path. -/
def healthAnswer (app : AgentRuntime Sig) (path : String) : HealthResponse :=
  if path = "/health/live" ∨ path = "/health/ready" then ⟨200, .invalid⟩
  else if path = "/v1/capabilities" then
    -- a document that breaks its own model is an internal error
    if app.capabilitiesDocument.Valid then ⟨200, .capabilities app.capabilitiesDocument⟩
    else ⟨500, .invalid⟩
  else ⟨404, .invalid⟩

end AgentRuntime

end Tomiris
