import Tomiris.Orchestrator.Health
import Tomiris.Spec.Handshake
import Tomiris.Spec.Planner

/-!
# What a healthy agent promises

The health prober compares what an agent runtime says about itself with the registry that plans are
made from. The runtime itself turns commands down by its own settings. The two agree: an agent that
a probe finds healthy turns no planned task down for what it asks for, and what is left open are
the keys of the two sides and the moment of the dispatch.

## Key results

- `observe_served`: the verdict of a probe on a runtime that answers
- `healthy_agents_serve`: what stands between a healthy agent and its ACK
-/

namespace Tomiris

open AgentHealthProber

section Observed

variable {Sig : Type} {app : AgentRuntime Sig} {net : HealthNetwork} {origin : String}

/-- The runtime answers the requests of a probe to the origin. -/
def AgentRuntime.AnswersAt (app : AgentRuntime Sig) (net : HealthNetwork) (origin : String) :
    Prop :=
  ∀ path ∈ ["/health/live", "/health/ready", "/v1/capabilities"],
    net.get (origin ++ path) = .ok (app.healthAnswer path)

/-- The registry says about the agent what the runtime is set up for. -/
structure AgentRuntime.Agrees (app : AgentRuntime Sig) (agent : Agent) : Prop where
  agent_id : app.settings.tomirisAgentId = agent.agentId
  role : app.settings.tomirisAgentRole = agent.role
  capabilities : ∀ c, c ∈ app.settings.capabilities ↔ c ∈ agent.capabilities
  supported_assets : ∀ a, a ∈ app.settings.supportedAssets app.crypto.upper ↔
    a ∈ agent.supportedAssets
  protocol : agent.protocolVersion = "1.0"
  version : boundedText 32 app.settings.runtimeVersion = true
  lengths : app.settings.capabilities.length ≤ 50 ∧
    (app.settings.supportedAssets app.crypto.upper).length ≤ 100

/-- The document of a runtime is valid for a version of the right length and not too many entries.
    -/
theorem capabilitiesDocument_valid : app.capabilitiesDocument.Valid ↔
    boundedText 32 app.settings.runtimeVersion = true ∧ app.settings.capabilities.length ≤ 50 ∧
      (app.settings.supportedAssets app.crypto.upper).length ≤ 100 := by
  constructor
  · exact fun h => ⟨h.version, h.capabilities, h.supported_assets⟩
  · -- the settings have bounded the other fields already
    intro ⟨hversion, hcapabilities, hassets⟩
    exact ⟨app.settings_valid.agent, hversion, app.settings_valid.role, hcapabilities, hassets,
      by simp [AgentRuntime.capabilitiesDocument]⟩

/-- No drift: the same names, the same sets, and the protocol of the registry among those spoken. -/
theorem drift_eq_false {agent : Agent} {runtime : RuntimeCapabilities} :
    drift agent runtime = false ↔ runtime.agentId = agent.agentId ∧ runtime.role = agent.role ∧
      (∀ c, c ∈ runtime.capabilities ↔ c ∈ agent.capabilities) ∧
      (∀ a, a ∈ runtime.supportedAssets ↔ a ∈ agent.supportedAssets) ∧
      agent.protocolVersion ∈ runtime.protocolVersions := by
  simp only [drift, Bool.or_eq_false_iff, bne_eq_false_iff_eq, Bool.not_eq_false',
    List.contains_iff_mem, Finset.ext_iff, List.mem_toFinset, and_assoc]

/-- A runtime agrees with the registry if its document is valid and shows no drift. -/
theorem agrees_iff {agent : Agent} : app.Agrees agent ↔
    app.capabilitiesDocument.Valid ∧ drift agent app.capabilitiesDocument = false := by
  rw [capabilitiesDocument_valid, drift_eq_false]
  have hprotocol : agent.protocolVersion ∈ app.capabilitiesDocument.protocolVersions ↔
      agent.protocolVersion = "1.0" := by simp [AgentRuntime.capabilitiesDocument]
  rw [hprotocol]
  constructor
  · exact fun h => ⟨⟨h.version, h.lengths⟩, h.agent_id, h.role, h.capabilities, h.supported_assets,
      h.protocol⟩
  · intro ⟨⟨hversion, hlengths⟩, hagent, hrole, hcapabilities, hassets, hprotocol⟩
    exact ⟨hagent, hrole, hcapabilities, hassets, hprotocol, hversion, hlengths⟩

/-- The three answers of a runtime that is up. -/
theorem ask_answers (h : app.AnswersAt net origin) : ask net origin =
    .ok (⟨200, .invalid⟩, ⟨200, .invalid⟩, app.healthAnswer "/v1/capabilities") := by
  unfold ask
  rw [h "/health/live" (by simp), h "/health/ready" (by simp), h "/v1/capabilities" (by simp)]
  rfl

/-- A runtime that answers is healthy if it agrees with the registry, and degraded if not. -/
theorem observe_served [DecidableEq Sig] {v : EndpointValidator} (agent : Agent)
    {endpoint : AgentEndpoint} (henabled : endpoint.enabled = true)
    (hvalidate : v.validate net.toNetwork endpoint.endpointUrl endpoint.environment = .ok origin)
    (hup : app.AnswersAt net origin) : ∃ r, observe v net (some agent) (some endpoint) = .ok r ∧
      (r.availability = .healthy ↔ app.Agrees agent) ∧
      (r.availability = .degraded ↔ ¬ app.Agrees agent) := by
  have hread : observe v net (some agent) (some endpoint) = readAnswers agent
      (max 0 net.latencyMs) ⟨200, .invalid⟩ ⟨200, .invalid⟩
        (app.healthAnswer "/v1/capabilities") := by
    simp only [observe, henabled, hvalidate, ask_answers hup]
    rfl
  -- a runtime whose document is invalid answers 500
  have hanswer : app.healthAnswer "/v1/capabilities" =
      if app.capabilitiesDocument.Valid then ⟨200, .capabilities app.capabilitiesDocument⟩
      else ⟨500, .invalid⟩ := by
    unfold AgentRuntime.healthAnswer
    rw [if_neg (by decide), if_pos rfl]
  rw [hread, hanswer, agrees_iff]
  by_cases hvalid : app.capabilitiesDocument.Valid
  · rw [if_pos hvalid]
    -- the document is valid: healthy unless it differs from the row
    cases hdrift : drift agent app.capabilitiesDocument with
    | true =>
      refine ⟨⟨.degraded, some "AGENT_CAPABILITY_MISMATCH", some (max 0 net.latencyMs)⟩, ?_, ?_⟩
      · simp [readAnswers, hdrift]
      · simp
    | false =>
      refine ⟨⟨.healthy, none, some (max 0 net.latencyMs)⟩, ?_, ?_⟩
      · simp [readAnswers, hdrift]
      · simp [hvalid]
  · rw [if_neg hvalid]
    refine ⟨⟨.degraded, some "AGENT_CAPABILITY_MISMATCH", some (max 0 net.latencyMs)⟩, ?_, ?_⟩
    · simp [readAnswers]
    · simp [hvalid]

end Observed

/-! ## From a probe to an ACK -/

/-- What a healthy agent leaves open: the keys of both sides, and the moment of the dispatch. -/
structure Arranged {Sig : Type} (app : AgentRuntime Sig) (service : OrchestratorService)
    (modelDump : AnalysisTaskRequest → List UInt8) (st : RuntimeTaskStore) (clock : Readings)
    (timestamp : Int) (generated : String) (command : DispatchCommand) : Prop where
  request : command.request.Valid
  orchestrator : service.orchestratorId = app.settings.tomirisOrchestratorId
  key : service.commandKeyId = app.settings.tomirisOrchestratorCommandKeyId
  secret : service.secret app.crypto command.agentId =
    some app.settings.tomirisOrchestratorCommandSecret
  timely : clock.verified - timestamp * second ≤ seconds app.settings.commandMaxClockSkewSeconds ∧
    -seconds app.settings.commandMaxClockSkewSeconds ≤ clock.verified - timestamp * second
  deadline : clock.checked < command.signalDeadline
  body_fits : (modelDump command.request).length ≤ app.settings.maxTaskRequestBytes
  fresh : (RuntimeTaskStore.prune clock.stored st.nonces).lookup generated = none
  unchanged : ∀ known, st.tasks.lookup command.taskId = some known →
    known.bodyHash = app.crypto.sha256 (modelDump command.request)

/-- A planned task asks its agent for what the registry row of the agent offers. -/
theorem PlannedTask.offered {now : Int} {args : CreateArgs} {s : Store} {run : OrchestrationRun}
    {t : AgentTask} (h : PlannedTask now args s run t) {agent : Agent}
    (hagent : s.agents.get? t.agentId = some agent) :
    t.requiredCapability ∈ agent.capabilities ∧ t.asset ∈ agent.supportedAssets := by
  obtain ⟨id, requirement, routed, rfl, hassigned⟩ := h
  obtain ⟨requirement', hrequirement, hselected⟩ := List.mem_flatMap.mp hassigned
  obtain ⟨routed', hrouted, hpair⟩ := List.mem_map.mp hselected
  cases hpair
  obtain ⟨agent', hrow, -, hcapability, hasset⟩ := mem_select hrouted
  have heq : agent = agent' := Option.some_inj.mp (hagent.symm.trans hrow)
  rw [heq]
  exact ⟨hcapability, hasset⟩

/-- An agent that agrees with the registry leaves nothing else open. -/
theorem Arranged.handshake_iff {Sig : Type} {app : AgentRuntime Sig} {agent : Agent}
    {service : OrchestratorService} {modelDump : AnalysisTaskRequest → List UInt8} {net : Network}
    {st : RuntimeTaskStore} {clock : Readings} {timestamp : Int} {generated : String}
    {command : DispatchCommand} {t : AgentTask} (hagree : app.Agrees agent)
    (hendpoint : ∃ o, service.client.endpointValidator.validate net command.endpointUrl
      command.endpointEnvironment = .ok o)
    (hoffered : t.requiredCapability ∈ agent.capabilities ∧ t.asset ∈ agent.supportedAssets)
    (hissued : IssuedFor command t.columns) (hkey : agent.agentId = t.agentId) :
    Handshake app service modelDump net st clock timestamp generated command ↔
      Arranged app service modelDump st clock timestamp generated command := by
  constructor
  · exact fun h => ⟨h.request, h.orchestrator, h.key, h.secret, h.timely, h.deadline, h.body_fits,
      h.fresh, h.unchanged⟩
  · intro h
    exact
      -- agent, capability, asset and version are what the agreement says
      { endpoint := hendpoint
        request := h.request
        orchestrator := h.orchestrator
        key := h.key
        secret := h.secret
        agent := by
          rw [show command.agentId = t.agentId from hissued.agent, ← hkey, hagree.agent_id]
        timely := h.timely
        deadline := h.deadline
        capability := by
          rw [show command.requiredCapability = t.requiredCapability from hissued.capability,
            hagree.capabilities]
          exact hoffered.1
        asset := by
          rw [show command.asset = t.asset from hissued.asset, hagree.supported_assets]
          exact hoffered.2
        version := hagree.version
        body_fits := h.body_fits
        fresh := h.fresh
        unchanged := h.unchanged }

/-- **A healthy agent serves what is planned for it.** A probe of a runtime that answers at the
    endpoint finds it healthy exactly if it agrees with the registry, and degraded otherwise. Once
    it is found healthy, a dispatch for any task that was planned with the same registry row, to the
    runtime with any history behind it, is acknowledged exactly if the keys of both sides match, the
    command is in time, and neither its nonce nor its task is taken. -/
theorem healthy_agents_serve {Sig : Type} [DecidableEq Sig] {app : AgentRuntime Sig}
    (hc : app.crypto.Symbolic) {net : HealthNetwork} {origin : String}
    {service : OrchestratorService} {agent : Agent} {endpoint : AgentEndpoint}
    (henabled : endpoint.enabled = true)
    (hvalidate : service.client.endpointValidator.validate net.toNetwork endpoint.endpointUrl
      endpoint.environment = .ok origin) (hup : app.AnswersAt net origin) :
    (∃ r, observe service.client.endpointValidator net (some agent) (some endpoint) = .ok r ∧
      (r.availability = .healthy ↔ app.Agrees agent) ∧
      (r.availability = .degraded ↔ ¬ app.Agrees agent)) ∧
    ∀ r, observe service.client.endpointValidator net (some agent) (some endpoint) = .ok r →
      r.availability = .healthy → ∀ (now : Int) (args : CreateArgs) (s : Store)
        (run : OrchestrationRun) (t : AgentTask) (command : DispatchCommand),
        PlannedTask now args s run t → s.agents.get? t.agentId = some agent →
        IssuedFor command t.columns → command.endpointUrl = endpoint.endpointUrl →
        command.endpointEnvironment = endpoint.environment →
        ∀ (calls : List (AgentRuntime.Call Sig)) (modelDump : AnalysisTaskRequest → List UInt8)
          (clock : Readings) (timestamp : Int) (generated : String) (task : ValidTask),
          representable timestamp = true → isNonce generated = true →
          app.modelValidateJson (modelDump command.request) = some task →
          SameButContext task.val command.request →
          ((∃ r, service.dispatch app.crypto modelDump net.toNetwork
              (app.answers (app.serve {} calls) clock) timestamp generated command = .ok r ∧
              r.disposition = .acknowledged) ↔
            Arranged app service modelDump (app.serve {} calls) clock timestamp generated
              command) := by
  have hobserved := observe_served agent henabled hvalidate hup
  refine ⟨hobserved, ?_⟩
  intro r hr hhealthy now args s run t command hplan hagent hissued hurl henvironment calls
    modelDump clock timestamp generated task hclock hnonce hparsed hsame
  -- what was observed is the one result, so healthy means that the two agree
  obtain ⟨r', hr', hagrees, -⟩ := hobserved
  obtain rfl : r' = r := Except.ok.inj (hr'.symm.trans hr)
  -- the command goes to the endpoint that was asked
  have hendpoint : ∃ o, service.client.endpointValidator.validate net.toNetwork
      command.endpointUrl command.endpointEnvironment = .ok o := by
    rw [hurl, henvironment]
    exact ⟨origin, hvalidate⟩
  -- the store holds only acknowledgements of the runtime itself
  have hown : (app.serve {} calls).AcksOwn app.settings.tomirisAgentId :=
    app.serve_acksOwn calls fun entry hentry => by cases hentry
  rw [acknowledged_iff hc hown hclock hnonce hparsed hsame]
  exact Arranged.handshake_iff (hagrees.mp hhealthy) hendpoint (hplan.offered hagent) hissued
    (Table.key_of_get? hagent)

namespace Deployment

/-- The registry row of `ALPHA`, with the capability and the asset of its runtime. -/
def alphaRow : Agent where
  agentId := "ALPHA"
  role := "technical"
  protocolVersion := "1.0"
  capabilities := ["technical_analysis"]
  supportedAssets := ["BTCUSDT"]

def alphaEndpoint : AgentEndpoint where
  agentId := "ALPHA"
  endpointUrl := "https://alpha.hf.space"
  environment := "DEVELOPMENT"

/-- The network of `originsOnly`, with the runtime of `ALPHA` behind its origin. -/
def alphaUp : HealthNetwork :=
  { originsOnly with
    get := fun url => .ok (alphaRuntime.healthAnswer
      (String.ofList (url.toList.drop "https://alpha.hf.space".length))) }

/-- A policy that asks for a technical analysis. -/
def technicalPolicy : OrchestrationPolicy where
  policyVersion := "1"
  requirements := [{ capability := "technical_analysis" }]
  collectionTimeoutSeconds := 300
  dispatchTimeoutSeconds := 60
  signalTimeoutSeconds := 300
  valid := by constructor <;> decide

def technicalArgs : CreateArgs where
  snapshotId := 300
  asset := "BTCUSDT"
  triggerType := "MANUAL"
  policy := technicalPolicy

def alphaStore : Store :=
  { agents := (Table.empty).upsert alphaRow, endpoints := (Table.empty).upsert alphaEndpoint }

/-- The run of a plan at time 0, and its task for `ALPHA`. -/
def technicalRun : OrchestrationRun :=
  Planner.planRun 0 technicalArgs 100 100 (.mapping []) alphaStore

def technicalTask : AgentTask :=
  Planner.planTask 0 technicalArgs technicalRun 200 { capability := "technical_analysis" }
    { agentId := "ALPHA", capability := "technical_analysis", criticality := .normal
      endpointUrl := "https://alpha.hf.space", environment := "DEVELOPMENT" }

theorem technicalTask_planned :
    PlannedTask 0 technicalArgs alphaStore technicalRun technicalTask :=
  ⟨200, _, _, rfl, by
    rw [show Planner.assignments technicalArgs alphaStore = [(_, _)] from rfl]
    exact List.mem_singleton.mpr rfl⟩

end Deployment

open Deployment in
/-- `ALPHA` is found healthy, and a command for its task is acknowledged. -/
theorem healthy_agents_serve_alpha :
    (∃ r, observe tomirisOrchestrator.client.endpointValidator alphaUp (some alphaRow)
      (some alphaEndpoint) = .ok r ∧ r.availability = .healthy) ∧
    ∃ r, tomirisOrchestrator.dispatch terms (fun request => request.json jsonFloat)
        alphaUp.toNetwork (alphaRuntime.answers {} (still 6)) 5 "AAAAAAAAAAAAAAAAAAAAAA"
        (Dispatch.command technicalTask technicalRun alphaEndpoint) = .ok r ∧
      r.disposition = .acknowledged := by
  -- the URL of the endpoint passes the rules of its environment
  have hvalidate : tomirisOrchestrator.client.endpointValidator.validate alphaUp.toNetwork
      alphaEndpoint.endpointUrl alphaEndpoint.environment = .ok "https://alpha.hf.space" := by
    have hrule : tomirisOrchestrator.client.endpointValidator.brokenRule
        { scheme := "https", hostname := some "alpha.hf.space" } alphaEndpoint.environment =
          none := by decide +kernel
    have horigin : EndpointValidator.rstrip '/' "https://alpha.hf.space" =
        "https://alpha.hf.space" := by decide +kernel
    have hparse : alphaUp.toNetwork.urlsplit alphaEndpoint.endpointUrl =
        some { scheme := "https", hostname := some "alpha.hf.space" } := rfl
    simp only [EndpointValidator.validate, hparse, hrule]
    exact congrArg Except.ok horigin
  -- the three paths of the probe
  have hup : alphaRuntime.AnswersAt alphaUp "https://alpha.hf.space" := by
    intro path hpath
    simp only [List.mem_cons, List.not_mem_nil, or_false] at hpath
    rcases hpath with rfl | rfl | rfl <;> rfl
  -- the row and the settings name the same agent, capabilities and assets
  have hagrees : alphaRuntime.Agrees alphaRow :=
    agrees_iff.mpr ⟨by decide +kernel, by decide +kernel⟩
  obtain ⟨⟨r, hr, hhealthy, -⟩, hserve⟩ := @healthy_agents_serve _ _ alphaRuntime terms_symbolic
    alphaUp "https://alpha.hf.space" tomirisOrchestrator alphaRow alphaEndpoint rfl hvalidate hup
  refine ⟨⟨r, hr, hhealthy.mpr hagrees⟩, ?_⟩
  obtain ⟨hparsed, hfits⟩ := @alphaRuntime_parses
    (Dispatch.command technicalTask technicalRun alphaEndpoint).request rfl
  refine (hserve r hr (hhealthy.mpr hagrees) 0 technicalArgs alphaStore technicalRun technicalTask
    (Dispatch.command technicalTask technicalRun alphaEndpoint) technicalTask_planned rfl
    ⟨rfl, rfl, rfl, rfl, rfl, rfl, rfl, rfl, rfl, rfl, rfl⟩ rfl rfl []
    (fun request => request.json jsonFloat) (still 6) 5 "AAAAAAAAAAAAAAAAAAAAAA"
    ⟨alphaTask, alphaTask_valid⟩ (by decide) (by decide) hparsed rfl).mpr ?_
  exact
    { request := alphaTask_valid
      orchestrator := rfl
      key := rfl
      secret := rfl
      timely := by decide
      deadline := by decide
      body_fits := hfits
      fresh := rfl
      unchanged := fun known hknown => by cases hknown }

end Tomiris
