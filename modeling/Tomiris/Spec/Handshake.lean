import Tomiris.Orchestrator.Service
import Tomiris.Spec.Api
import Tomiris.Spec.HonestEnvelope
import Tomiris.Spec.Replay
import Tomiris.Spec.SignalStore

/-!
# The command handshake

A dispatch of the orchestrator over HTTP, with the runtime of the agent on the other side and an
arbitrary history of requests behind it: when exactly the answer is the ACK, which ACK that is, and
what every other answer becomes.

## Key results

- `prepare_ok_iff`, `accept_ok_iff`: what the runtime accepts
- `dispatch_eq`: a dispatch is its outgoing request and the answer to it
- `handshake_exact`
-/

namespace Tomiris

/-! ## The task store -/

namespace RuntimeTaskStore

/-- A submission is accepted with a nonce that is not remembered, unless its task is remembered with
    another body; the ACK of a remembered task is the first one. -/
theorem accept_ok_iff {st : RuntimeTaskStore} {sub : Submission} {ack : AnalysisTaskAck}
    {isNew : Bool} :
    (st.accept sub).2 = .ok (ack, isNew) ↔
      (prune sub.now st.nonces).lookup sub.nonce = none ∧
        match st.tasks.lookup sub.taskId with
        | some known => known.bodyHash = sub.bodyHash ∧ ack = known.ack ∧ isNew = false
        | none => ack = sub.ack ∧ isNew = true := by
  unfold accept
  simp only
  cases hnonce : (prune sub.now st.nonces).lookup sub.nonce with
  -- a remembered nonce is refused before the task is looked up
  | some expiry => simp
  | none =>
    simp only [Option.isSome_none, Bool.false_eq_true, if_false, true_and]
    cases htask : st.tasks.lookup sub.taskId with
    | none => simp [eq_comm]
    | some known =>
      by_cases hbody : known.bodyHash = sub.bodyHash
      · simp [hbody, eq_comm]
      · simp [hbody]

/-- Every remembered ACK is for its task, and from this agent. -/
def AcksOwn (agentId : String) (st : RuntimeTaskStore) : Prop :=
  ∀ entry ∈ st.tasks, entry.2.ack.taskId = entry.1 ∧ entry.2.ack.agentId = agentId

/-- A store that holds acknowledgements of its agent only keeps doing so. -/
theorem AcksOwn.accept {agentId : String} {st : RuntimeTaskStore} {sub : Submission}
    (h : AcksOwn agentId st) (htask : sub.ack.taskId = sub.taskId)
    (hagent : sub.ack.agentId = agentId) : AcksOwn agentId (st.accept sub).1 := by
  intro entry hentry
  obtain hold | rfl := accept_tasks hentry
  · exact h entry hold
  · exact ⟨htask, hagent⟩

/-- What is remembered for a task acknowledges that task. -/
theorem AcksOwn.lookup {agentId : String} {st : RuntimeTaskStore} {taskId : UUID}
    {known : AcceptedTask} (h : AcksOwn agentId st) (hknown : st.tasks.lookup taskId = some known) :
    known.ack.taskId = taskId ∧ known.ack.agentId = agentId := by
  obtain ⟨before, after, htasks, -⟩ := List.lookup_eq_some_iff.mp hknown
  apply h (taskId, known)
  rw [htasks]
  exact List.mem_append_right before (List.mem_cons_self ..)

end RuntimeTaskStore

/-! ## The endpoint -/

namespace AgentRuntime

variable {Sig : Type} [DecidableEq Sig]

/-- What a command is submitted to the store with. -/
def submission (app : AgentRuntime Sig) (clock : Readings) (auth : CommandAuthHeaders Sig)
    (body : List UInt8) (task : ValidTask) : RuntimeTaskStore.Submission where
  nonce := auth.nonce
  nonceExpiresAt := clock.expiry + seconds app.settings.commandNonceTtlSeconds
  now := clock.stored
  taskId := task.val.taskId
  bodyHash := app.crypto.sha256 body
  ack := ⟨task.val.taskId, app.settings.tomirisAgentId, clock.acked, app.settings.runtimeVersion⟩

/-- The requests that reach the task store, and with what. -/
theorem prepare_ok_iff {app : AgentRuntime Sig} {clock : Readings} {request : RawRequest Sig}
    {task : ValidTask} {sub : RuntimeTaskStore.Submission} :
    app.prepare clock request = .ok (task, sub) ↔
      ∃ auth body, app.captured request = some (auth, body) ∧
        CommandVerified app.crypto app.authenticator clock.verified auth body ∧
        app.Serves body task ∧ clock.checked < task.val.deadline ∧
        sub = app.submission clock auth body task := by
  constructor
  · intro h
    obtain ⟨auth, body, hcaptured, hadmitted⟩ := prepare_ok h
    refine ⟨auth, body, hcaptured, hadmitted.verified, hadmitted.serves, hadmitted.deadline, ?_⟩
    -- the submission can be read off the successful branch
    unfold captured at hcaptured
    split at hcaptured
    · rename_i hauth hbody
      cases hcaptured
      unfold prepare at h
      simp only [hauth, hbody, command_verify_ok_iff.mpr hadmitted.verified,
        hadmitted.serves.parsed] at h
      split at h
      · cases h
      · rename_i ack hcheck
        cases h
        unfold checkTask at hcheck
        rw [if_neg (not_not.mpr hadmitted.serves.agent),
          if_neg (not_le.mpr hadmitted.deadline), if_neg (not_not.mpr hadmitted.serves.capability),
          if_neg (not_not.mpr hadmitted.serves.asset),
          if_neg (by simp [hadmitted.serves.version])] at hcheck
        cases hcheck
        rfl
    · cases hcaptured
  · intro h
    obtain ⟨auth, body, hcaptured, hverified, hserves, hdeadline, rfl⟩ := h
    unfold captured at hcaptured
    split at hcaptured
    · rename_i hauth hbody
      cases hcaptured
      have hcheck : app.checkTask clock task.val = .ok ⟨task.val.taskId,
          app.settings.tomirisAgentId, clock.acked, app.settings.runtimeVersion⟩ := by
        unfold checkTask
        rw [if_neg (not_not.mpr hserves.agent), if_neg (not_le.mpr hdeadline),
          if_neg (not_not.mpr hserves.capability), if_neg (not_not.mpr hserves.asset),
          if_neg (by simp [hserves.version])]
      unfold prepare
      simp only [hauth, hbody, command_verify_ok_iff.mpr hverified, hserves.parsed, hcheck]
      rfl
    · cases hcaptured

/-- The status codes of the answers that are no ACK. -/
def rejections : List Nat := [400, 401, 403, 409, 413, 422]

omit [DecidableEq Sig] in
/-- The body is refused with one of the statuses. -/
theorem readLimitedTaskBody_status {request : RawRequest Sig} {limit : Nat} {e : HubError}
    (h : readLimitedTaskBody request limit = .error e) : e.statusCode ∈ rejections := by
  -- over the chunks of the body
  have hchunks : ∀ {chunks : List (List UInt8)} {collected : List UInt8},
      collectChunks limit collected chunks = .error e → e.statusCode ∈ rejections := by
    intro chunks
    induction chunks with
    | nil =>
      intro collected h
      cases h
    | cons chunk rest ih =>
      intro collected h
      simp only [collectChunks] at h
      split at h
      · cases h
        decide
      · exact ih h
  -- no Content-Length, one that is no number, or one to compare with the limit
  unfold readLimitedTaskBody at h
  split at h
  · exact hchunks h
  · cases h
    decide
  · split at h
    · cases h
      decide
    · split at h
      · cases h
        decide
      · exact hchunks h

/-- The authenticator refuses with 401. -/
theorem verify_status {c : Crypto Sig} {a : CommandAuthenticator} {now : Int}
    {headers : CommandAuthHeaders Sig} {body : List UInt8} {e : HubError}
    (h : a.verify c now headers body = .error e) : e.statusCode = 401 := by
  unfold CommandAuthenticator.verify at h
  -- every branch but the last raises an authentication error
  grind

/-- The checks before the store refuse with one of the statuses. -/
theorem prepare_status {app : AgentRuntime Sig} {clock : Readings} {request : RawRequest Sig}
    {e : HubError} (h : app.prepare clock request = .error e) : e.statusCode ∈ rejections := by
  unfold prepare at h
  -- the body, the headers, the signature, the model, and what `checkTask` compares
  split at h
  · rename_i hbody
    cases h
    exact readLimitedTaskBody_status hbody
  · split at h
    · cases h
      decide
    · split at h
      · rename_i hverify
        cases h
        rw [verify_status hverify]
        decide
      · split at h
        · cases h
          decide
        · split at h
          · rename_i hcheck
            cases h
            unfold checkTask at hcheck
            grind [rejections]
          · cases h

/-- A request that passes them is answered with what the store says. -/
theorem analyze_ok {app : AgentRuntime Sig} {st : RuntimeTaskStore} {clock : Readings}
    {request : RawRequest Sig} {task : ValidTask} {sub : RuntimeTaskStore.Submission}
    {ack : AnalysisTaskAck} {isNew : Bool} (hprepare : app.prepare clock request = .ok (task, sub))
    (haccept : (st.accept sub).2 = .ok (ack, isNew)) :
    (app.analyze st clock request).2 = .ok (ack, if isNew then some task else none) := by
  unfold analyze
  rcases hst : st.accept sub with ⟨st', e | ⟨ack', isNew'⟩⟩
  · rw [hst] at haccept
    cases haccept
  · rw [hst] at haccept
    cases haccept
    simp only [hprepare, hst]

/-- The answer to a request: the ACK of the store for a command that is admitted, or a rejection
    that the dispatch client does not retry. -/
theorem analyze_cases (app : AgentRuntime Sig) (st : RuntimeTaskStore) (clock : Readings)
    (request : RawRequest Sig) :
    (∃ task sub ack isNew, app.prepare clock request = .ok (task, sub) ∧
      (st.accept sub).2 = .ok (ack, isNew) ∧
      (app.analyze st clock request).2 = .ok (ack, if isNew then some task else none)) ∨
    ∃ e, (app.analyze st clock request).2 = .error e ∧ e.statusCode ∈ rejections := by
  unfold analyze
  cases hprepare : app.prepare clock request with
  -- refused before the store was asked
  | error e => exact .inr ⟨e, rfl, prepare_status hprepare⟩
  | ok admitted =>
    obtain ⟨task, sub⟩ := admitted
    rcases haccept : st.accept sub with ⟨st', e | ⟨ack, isNew⟩⟩
    -- refused by the store: another body, or no room
    · refine .inr ⟨acceptFailure e, ?_, ?_⟩
      · simp only [haccept]
      · cases e <;> decide
    · have hok : (st.accept sub).2 = .ok (ack, isNew) := by rw [haccept]
      have hanswer := analyze_ok hprepare hok
      unfold analyze at hanswer
      rw [hprepare] at hanswer
      exact .inl ⟨task, sub, ack, isNew, rfl, hok, hanswer⟩

/-- The ACKs that a runtime remembers are its own, whatever it has been sent. -/
theorem serve_acksOwn (app : AgentRuntime Sig) (calls : List (Call Sig)) {st : RuntimeTaskStore}
    (h : st.AcksOwn app.settings.tomirisAgentId) :
    (app.serve st calls).AcksOwn app.settings.tomirisAgentId := by
  induction calls generalizing st with
  | nil => exact h
  | cons call rest ih =>
    refine ih ?_
    obtain heq | ⟨task, sub, hprepare, heq⟩ := app.analyze_store st call.1 call.2
    · rw [heq]
      exact h
    · rw [heq]
      obtain ⟨auth, body, -, -, -, -, rfl⟩ := prepare_ok_iff.mp hprepare
      exact h.accept rfl rfl

end AgentRuntime

/-! ## One dispatch -/

/-- The two requests differ in their context at most. -/
def SameButContext (r r' : AnalysisTaskRequest) : Prop := { r with context := r'.context } = r'

namespace EndpointValidator

/-- The loop over the addresses depends on how they are parsed only. -/
theorem anyNotPublic_congr {net net' : Network} (h : net'.ipAddress = net.ipAddress)
    (addresses : List String) : anyNotPublic net' addresses = anyNotPublic net addresses := by
  induction addresses with
  | nil => rfl
  | cons address rest ih =>
    simp only [anyNotPublic, h, ih]

/-- The validator asks the network for names and addresses only. -/
theorem validate_wired {v : EndpointValidator} {net : Network} (secret : String → Option String)
    (post : String → AnalysisTaskRequest → Except HttpError Response) (url environment : String) :
    v.validate { net with secret, post } url environment = v.validate net url environment := by
  unfold validate checkAddresses
  have haddresses : anyNotPublic { net with secret, post } = anyNotPublic net :=
    funext (anyNotPublic_congr rfl)
  simp only [haddresses]

end EndpointValidator

namespace OrchestratorService

variable {Sig : Type} {c : Crypto Sig} {modelDump : AnalysisTaskRequest → List UInt8}
variable {service : OrchestratorService} {net : Network} {timestamp : Int} {generated : String}
variable {command : DispatchCommand} {send : SentCommand Sig → Except HttpError Response}

/-- What becomes of the answer to a posted command. -/
def received (command : DispatchCommand) (latencyMs : Rat) :
    Except HttpError Response → Except DispatchError DispatchResult
  | .error .timeout | .error .network =>
    .ok { disposition := .retryable, errorCode := some "AGENT_ACK_TIMEOUT" }
  | .error .other => .error .http
  | .ok response => AgentDispatchClient.readResponse command latencyMs response

/-- A dispatch that posts its request is the answer to it. -/
theorem dispatch_eq {m : SentCommand Sig}
    (h : service.outgoing c modelDump net timestamp generated command = some m) :
    service.dispatch c modelDump net send timestamp generated command =
      received command net.latencyMs (send m) := by
  unfold outgoing at h
  split at h
  · cases h
  · rename_i endpoint hvalidate
    split at h
    · rename_i hsigned
      cases h
      obtain ⟨secret, hsecret⟩ := Option.isSome_iff_exists.mp hsigned.1
      unfold dispatch AgentDispatchClient.dispatch
      simp only [EndpointValidator.validate_wired, hvalidate, hsecret, if_pos hsigned.2]
      rfl
    · cases h

/-- A dispatch that posts nothing fails for good. -/
theorem dispatch_unposted
    (h : service.outgoing c modelDump net timestamp generated command = none)
    {r : DispatchResult}
    (hr : service.dispatch c modelDump net send timestamp generated command = .ok r) :
    r.disposition = .permanent := by
  unfold dispatch AgentDispatchClient.dispatch at hr
  rw [EndpointValidator.validate_wired] at hr
  -- the endpoint, the secret and the request are checked in this order
  split at hr
  · cases hr
    rfl
  · cases hr
  · rename_i endpoint hvalidate
    split at hr
    · cases hr
      rfl
    · rename_i secret hsecret
      split at hr
      -- all three are there, so that something would have been posted
      · rename_i hrequest
        have hsecret' : service.secret c command.agentId = some secret := hsecret
        unfold outgoing at h
        rw [hvalidate] at h
        simp only [hsecret', Option.isSome_some, true_and, if_pos hrequest] at h
        cases h
      · cases hr

/-- A message goes out if the endpoint validates, the secret is there and the request is valid. -/
theorem outgoing_eq_some {m : SentCommand Sig} :
    service.outgoing c modelDump net timestamp generated command = some m ↔
      ∃ endpoint, service.client.endpointValidator.validate net command.endpointUrl
          command.endpointEnvironment = .ok endpoint ∧
        (service.secret c command.agentId).isSome = true ∧ command.request.Valid ∧
        m = service.message c timestamp generated command.agentId (endpoint ++ "/v1/analyze")
          (modelDump command.request) := by
  unfold outgoing
  split
  · rename_i e hvalidate
    simp [hvalidate]
  · rename_i endpoint hvalidate
    simp only [hvalidate, Except.ok.injEq, exists_eq_left']
    split
    · rename_i hsigned
      simp [hsigned, eq_comm]
    · rename_i hsigned
      simp only [reduceCtorEq, false_iff]
      intro h
      exact hsigned ⟨h.1, h.2.1⟩

end OrchestratorService

/-! ## The two sides together -/

section Wired

variable {Sig : Type} [DecidableEq Sig]

/-- The runtime behind the network, with the tasks and nonces that it remembers. -/
def AgentRuntime.answers (app : AgentRuntime Sig) (st : RuntimeTaskStore) (clock : Readings)
    (m : SentCommand Sig) : Except HttpError Response :=
  .ok (AgentRuntime.response (app.analyze st clock m.raw).2)

/-- The ACK for a task: the remembered one, if the task is remembered. -/
def AgentRuntime.ackFor (app : AgentRuntime Sig) (st : RuntimeTaskStore) (clock : Readings)
    (taskId : UUID) : AnalysisTaskAck :=
  match st.tasks.lookup taskId with
  | some known => known.ack
  | none => ⟨taskId, app.settings.tomirisAgentId, clock.acked, app.settings.runtimeVersion⟩

/-- What both sides and the moment of the dispatch have to agree on. -/
structure Handshake (app : AgentRuntime Sig) (service : OrchestratorService)
    (modelDump : AnalysisTaskRequest → List UInt8) (net : Network) (st : RuntimeTaskStore)
    (clock : Readings) (timestamp : Int) (generated : String) (command : DispatchCommand) :
    Prop where
  endpoint : ∃ o, service.client.endpointValidator.validate net command.endpointUrl
    command.endpointEnvironment = .ok o
  request : command.request.Valid
  orchestrator : service.orchestratorId = app.settings.tomirisOrchestratorId
  key : service.commandKeyId = app.settings.tomirisOrchestratorCommandKeyId
  secret : service.secret app.crypto command.agentId =
    some app.settings.tomirisOrchestratorCommandSecret
  agent : command.agentId = app.settings.tomirisAgentId
  timely : clock.verified - timestamp * second ≤ seconds app.settings.commandMaxClockSkewSeconds ∧
    -seconds app.settings.commandMaxClockSkewSeconds ≤ clock.verified - timestamp * second
  deadline : clock.checked < command.signalDeadline
  capability : command.requiredCapability ∈ app.settings.capabilities
  asset : command.asset ∈ app.settings.supportedAssets app.crypto.upper
  version : boundedText 32 app.settings.runtimeVersion = true
  body_fits : (modelDump command.request).length ≤ app.settings.maxTaskRequestBytes
  fresh : (RuntimeTaskStore.prune clock.stored st.nonces).lookup generated = none
  unchanged : ∀ known, st.tasks.lookup command.taskId = some known →
    known.bodyHash = app.crypto.sha256 (modelDump command.request)

namespace AgentRuntime

variable {app : AgentRuntime Sig} {service : OrchestratorService}
variable {modelDump : AnalysisTaskRequest → List UInt8} {net : Network} {st : RuntimeTaskStore}
variable {clock : Readings} {timestamp : Int} {generated : String} {command : DispatchCommand}

omit [DecidableEq Sig] in
/-- A posted command arrives as it was sent, unless it is too large. -/
theorem captured_raw (m : SentCommand Sig) :
    app.captured m.raw =
      if m.body.length ≤ app.settings.maxTaskRequestBytes then some (m.headers, m.body)
      else none := by
  have hneg : ¬ (m.body.length : Int) < 0 := by omega
  have hauth : m.raw.authHeaders = some m.headers := rfl
  unfold captured
  rw [hauth]
  simp only [readLimitedTaskBody, SentCommand.raw, collectChunks, List.length_nil, List.nil_append,
    if_neg hneg, Nat.zero_add]
  by_cases hfits : m.body.length ≤ app.settings.maxTaskRequestBytes
  · have hdeclared : ¬ (m.body.length : Int) > app.settings.maxTaskRequestBytes := by omega
    simp only [if_neg hdeclared, if_neg (Nat.not_lt.mpr hfits), if_pos hfits]
  · have hdeclared : (m.body.length : Int) > app.settings.maxTaskRequestBytes := by omega
    simp only [if_pos hdeclared, if_neg hfits]

omit [DecidableEq Sig] in
/-- The runtime authenticates a command that is signed for it in time. -/
theorem verified_message {url : String} {body : List UInt8} {now : Int}
    (hclock : representable timestamp = true) (hnonce : isNonce generated = true)
    (hagent : command.agentId = app.settings.tomirisAgentId)
    (horchestrator : service.orchestratorId = app.settings.tomirisOrchestratorId)
    (hkey : service.commandKeyId = app.settings.tomirisOrchestratorCommandKeyId)
    (hsecret : service.secret app.crypto command.agentId =
      some app.settings.tomirisOrchestratorCommandSecret)
    (htimely : now - timestamp * second ≤ seconds app.settings.commandMaxClockSkewSeconds ∧
      -seconds app.settings.commandMaxClockSkewSeconds ≤ now - timestamp * second) :
    CommandVerified app.crypto app.authenticator now
      (service.message app.crypto timestamp generated command.agentId url body).headers body where
  orchestrator := horchestrator
  key := hkey
  nonce := hnonce
  skew := ⟨timestamp * second, headerTimestamp_toString hclock, htimely⟩
  signature := by
    show signHmac app.crypto ((service.secret app.crypto command.agentId).getD "") _ = _
    rw [hsecret, hagent]
    rfl

omit [DecidableEq Sig] in
/-- A command that the runtime authenticates was signed in time, with its own secret. -/
theorem of_verified_message (hc : app.crypto.Symbolic) {url : String} {body : List UInt8}
    {now : Int} (hclock : representable timestamp = true)
    (h : CommandVerified app.crypto app.authenticator now
      (service.message app.crypto timestamp generated command.agentId url body).headers body) :
    service.orchestratorId = app.settings.tomirisOrchestratorId ∧
      service.commandKeyId = app.settings.tomirisOrchestratorCommandKeyId ∧
      (service.secret app.crypto command.agentId).getD "" =
        app.settings.tomirisOrchestratorCommandSecret ∧
      now - timestamp * second ≤ seconds app.settings.commandMaxClockSkewSeconds ∧
      -seconds app.settings.commandMaxClockSkewSeconds ≤ now - timestamp * second := by
  obtain ⟨t, ht, hskew⟩ := h.skew
  have ht' : t = timestamp * second :=
    Option.some_inj.mp (ht.symm.trans (headerTimestamp_toString hclock))
  exact ⟨h.orchestrator, h.key, (hc.hmac h.signature).1, ht' ▸ hskew⟩

/-- The client takes an ACK, and gives up on every other answer of a runtime. -/
theorem readResponse_response {answer : Except HubError (AnalysisTaskAck × Option ValidTask)}
    (hanswer : ∀ e, answer = .error e → e.statusCode ∈ rejections) {latencyMs : Rat}
    {r : DispatchResult}
    (h : AgentDispatchClient.readResponse command latencyMs (response answer) = .ok r) :
    (r.disposition = .acknowledged ∧ ∃ ack handed, answer = .ok (ack, handed) ∧
      r.ack = some ack) ∨ r.disposition = .permanent := by
  cases answer with
  | ok taken =>
    obtain ⟨ack, handed⟩ := taken
    simp only [AgentDispatchClient.readResponse, response, if_true] at h
    split at h <;> cases h
    · exact .inr rfl
    · exact .inl ⟨rfl, ack, handed, rfl, rfl⟩
  | error e =>
    have hstatus := hanswer e rfl
    obtain ⟨code, statusCode⟩ := e
    simp only [rejections, List.mem_cons, List.not_mem_nil, or_false] at hstatus
    -- no status of a rejection is in the list of those that are retried
    obtain rfl | rfl | rfl | rfl | rfl | rfl := hstatus <;> cases h <;> exact .inr rfl

end AgentRuntime

variable {app : AgentRuntime Sig} {service : OrchestratorService}
variable {modelDump : AnalysisTaskRequest → List UInt8} {net : Network} {st : RuntimeTaskStore}
variable {clock : Readings} {timestamp : Int} {generated : String} {command : DispatchCommand}
variable {task : ValidTask}

/-- In a handshake the store answers with its ACK for the task. -/
theorem Handshake.analyze
    (h : Handshake app service modelDump net st clock timestamp generated command)
    (hclock : representable timestamp = true) (hnonce : isNonce generated = true)
    (hparsed : app.modelValidateJson (modelDump command.request) = some task)
    (hsame : SameButContext task.val command.request) (url : String) :
    (app.analyze st clock (service.message app.crypto timestamp generated command.agentId url
        (modelDump command.request)).raw).2 =
      .ok (app.ackFor st clock command.taskId,
        if (st.tasks.lookup command.taskId).isSome then none else some task) := by
  let m := service.message app.crypto timestamp generated command.agentId url
    (modelDump command.request)
  have htask : task.val.taskId = command.taskId := congrArg AnalysisTaskRequest.taskId hsame
  -- the runtime compares the parsed task, which is the request but for its context
  have hserves : app.Serves (modelDump command.request) task :=
    { body_fits := h.body_fits
      parsed := hparsed
      agent := (congrArg AnalysisTaskRequest.agentId hsame).trans h.agent
      capability := by
        rw [show task.val.requiredCapability = command.requiredCapability from
          congrArg AnalysisTaskRequest.requiredCapability hsame]
        exact h.capability
      asset := by
        rw [show task.val.asset = command.asset from congrArg AnalysisTaskRequest.asset hsame]
        exact h.asset
      version := h.version }
  have hdeadline : clock.checked < task.val.deadline := by
    rw [show task.val.deadline = command.signalDeadline from
      congrArg AnalysisTaskRequest.deadline hsame]
    exact h.deadline
  have hprepare : app.prepare clock m.raw =
      .ok (task, app.submission clock m.headers m.body task) :=
    AgentRuntime.prepare_ok_iff.mpr ⟨m.headers, m.body,
      (AgentRuntime.captured_raw m).trans (if_pos h.body_fits),
      AgentRuntime.verified_message hclock hnonce h.agent h.orchestrator h.key h.secret h.timely,
      hserves, hdeadline, rfl⟩
  -- the store has no entry for the nonce, and none with another body for the task
  have haccept : (st.accept (app.submission clock m.headers m.body task)).2 =
      .ok (app.ackFor st clock command.taskId, (st.tasks.lookup command.taskId).isNone) := by
    refine RuntimeTaskStore.accept_ok_iff.mpr ⟨h.fresh, ?_⟩
    show match st.tasks.lookup task.val.taskId with
      | some known => _
      | none => _
    unfold AgentRuntime.ackFor
    rw [htask]
    cases hknown : st.tasks.lookup command.taskId with
    | some known => exact ⟨h.unchanged known hknown, rfl, rfl⟩
    | none =>
      refine ⟨?_, rfl⟩
      simp only [AgentRuntime.submission, htask]
  refine (AgentRuntime.analyze_ok hprepare haccept).trans ?_
  cases st.tasks.lookup command.taskId <;> rfl

omit [DecidableEq Sig] in
/-- A handshake sends its message. -/
theorem Handshake.outgoing
    (h : Handshake app service modelDump net st clock timestamp generated command) :
    ∃ endpoint, service.outgoing app.crypto modelDump net timestamp generated command =
      some (service.message app.crypto timestamp generated command.agentId
        (endpoint ++ "/v1/analyze") (modelDump command.request)) := by
  obtain ⟨endpoint, hvalidate⟩ := h.endpoint
  exact ⟨endpoint, OrchestratorService.outgoing_eq_some.mpr ⟨endpoint, hvalidate,
    Option.isSome_iff_exists.mpr ⟨_, h.secret⟩, h.request, rfl⟩⟩

omit [DecidableEq Sig] in
/-- The ACK names the task and the agent of the command. -/
theorem Handshake.ackFor_ids
    (h : Handshake app service modelDump net st clock timestamp generated command)
    (hown : st.AcksOwn app.settings.tomirisAgentId) :
    (app.ackFor st clock command.taskId).taskId = command.taskId ∧
      (app.ackFor st clock command.taskId).agentId = command.agentId := by
  unfold AgentRuntime.ackFor
  split
  · rename_i known hknown
    rw [h.agent]
    exact hown.lookup hknown
  · exact ⟨rfl, h.agent.symm⟩

/-- An ACK is only given in a handshake. -/
theorem Handshake.of_ack (hc : app.crypto.Symbolic) (hclock : representable timestamp = true)
    (hparsed : app.modelValidateJson (modelDump command.request) = some task)
    (hsame : SameButContext task.val command.request)
    (hendpoint : ∃ o, service.client.endpointValidator.validate net command.endpointUrl
      command.endpointEnvironment = .ok o)
    (hsigned : (service.secret app.crypto command.agentId).isSome = true)
    (hrequest : command.request.Valid) {url : String} {ack : AnalysisTaskAck}
    {handed : Option ValidTask}
    (hack : (app.analyze st clock (service.message app.crypto timestamp generated command.agentId
      url (modelDump command.request)).raw).2 = .ok (ack, handed)) :
    Handshake app service modelDump net st clock timestamp generated command := by
  obtain ⟨task', sub, ack', isNew, hprepare, haccept, -⟩ | ⟨e, herror, -⟩ :=
    app.analyze_cases st clock (service.message app.crypto timestamp generated command.agentId url
      (modelDump command.request)).raw
  · obtain ⟨auth, body, hcaptured, hverified, hserves, hdeadline, rfl⟩ :=
      AgentRuntime.prepare_ok_iff.mp hprepare
    rw [AgentRuntime.captured_raw] at hcaptured
    split at hcaptured
    · rename_i hfits
      cases hcaptured
      obtain ⟨horchestrator, hkey, hsecret, htimely⟩ :=
        AgentRuntime.of_verified_message hc hclock hverified
      obtain ⟨secret, hsome⟩ := Option.isSome_iff_exists.mp hsigned
      rw [hsome, Option.getD_some] at hsecret
      -- the runtime parses the body to the task that was dumped
      obtain rfl : task' = task := Option.some_inj.mp (hserves.parsed.symm.trans hparsed)
      have htask : task'.val.taskId = command.taskId := congrArg AnalysisTaskRequest.taskId hsame
      obtain ⟨hfresh, hknown⟩ := RuntimeTaskStore.accept_ok_iff.mp haccept
      exact
        { endpoint := hendpoint
          request := hrequest
          orchestrator := horchestrator
          key := hkey
          secret := hsome.trans (congrArg some hsecret)
          agent := (congrArg AnalysisTaskRequest.agentId hsame).symm.trans hserves.agent
          timely := htimely
          deadline := by
            rw [show command.signalDeadline = task'.val.deadline from
              (congrArg AnalysisTaskRequest.deadline hsame).symm]
            exact hdeadline
          capability := by
            rw [show command.requiredCapability = task'.val.requiredCapability from
              (congrArg AnalysisTaskRequest.requiredCapability hsame).symm]
            exact hserves.capability
          asset := by
            rw [show command.asset = task'.val.asset from
              (congrArg AnalysisTaskRequest.asset hsame).symm]
            exact hserves.asset
          version := hserves.version
          body_fits := hfits
          fresh := hfresh
          unchanged := by
            intro known hlookup
            have hsub : st.tasks.lookup task'.val.taskId = some known := htask ▸ hlookup
            simp only [AgentRuntime.submission, hsub] at hknown
            exact hknown.1 }
    · cases hcaptured
  · rw [herror] at hack
    cases hack

/-- Every result is read from an answer of the runtime, or nothing was posted. -/
theorem dispatch_wired_cases (hc : app.crypto.Symbolic) (hclock : representable timestamp = true)
    (hnonce : isNonce generated = true)
    (hparsed : app.modelValidateJson (modelDump command.request) = some task)
    (hsame : SameButContext task.val command.request) {r : DispatchResult}
    (hr : service.dispatch app.crypto modelDump net (app.answers st clock) timestamp generated
      command = .ok r) :
    (r.disposition = .acknowledged ∧
      Handshake app service modelDump net st clock timestamp generated command ∧
      r.ack = some (app.ackFor st clock command.taskId)) ∨ r.disposition = .permanent := by
  cases hout : service.outgoing app.crypto modelDump net timestamp generated command with
  | none => exact .inr (OrchestratorService.dispatch_unposted hout hr)
  | some m =>
    obtain ⟨endpoint, hvalidate, hsigned, hrequest, rfl⟩ :=
      OrchestratorService.outgoing_eq_some.mp hout
    -- what is read is the answer of the runtime to the message that was posted
    have hanswer : AgentDispatchClient.readResponse command net.latencyMs
        (AgentRuntime.response (app.analyze st clock (service.message app.crypto timestamp
          generated command.agentId (endpoint ++ "/v1/analyze")
          (modelDump command.request)).raw).2) = .ok r :=
      (OrchestratorService.dispatch_eq hout).symm.trans hr
    -- a runtime rejects only with status codes that are final
    have hrejections : ∀ e, (app.analyze st clock (service.message app.crypto timestamp generated
        command.agentId (endpoint ++ "/v1/analyze") (modelDump command.request)).raw).2 =
          .error e → e.statusCode ∈ AgentRuntime.rejections := by
      intro e he
      obtain ⟨_, _, _, _, -, -, hok⟩ | ⟨e', herror, hstatus⟩ := app.analyze_cases st clock
        (service.message app.crypto timestamp generated command.agentId
          (endpoint ++ "/v1/analyze") (modelDump command.request)).raw
      · rw [hok] at he
        cases he
      · rw [herror] at he
        cases he
        exact hstatus
    obtain ⟨hacked, ack, handed, hack, hr'⟩ | hpermanent :=
      AgentRuntime.readResponse_response hrejections hanswer
    -- an ACK for the right ids shows that every check was passed
    · have hshake : Handshake app service modelDump net st clock timestamp generated command :=
        .of_ack hc hclock hparsed hsame ⟨endpoint, hvalidate⟩ hsigned hrequest hack
      have hown' := hshake.analyze hclock hnonce hparsed hsame (endpoint ++ "/v1/analyze")
      rw [hack] at hown'
      cases hown'
      exact .inl ⟨hacked, hshake, hr'⟩
    · exact .inr hpermanent

/-- A dispatch to a runtime that only remembers its own ACKs is acknowledged exactly in a
    handshake. -/
theorem acknowledged_iff (hc : app.crypto.Symbolic) (hown : st.AcksOwn app.settings.tomirisAgentId)
    (hclock : representable timestamp = true) (hnonce : isNonce generated = true)
    (hparsed : app.modelValidateJson (modelDump command.request) = some task)
    (hsame : SameButContext task.val command.request) :
    (∃ r, service.dispatch app.crypto modelDump net (app.answers st clock) timestamp generated
        command = .ok r ∧ r.disposition = .acknowledged) ↔
      Handshake app service modelDump net st clock timestamp generated command := by
  constructor
  -- an ACK is no permanent failure
  · intro ⟨r, hr, hacked⟩
    obtain ⟨-, hshake, -⟩ | hpermanent := dispatch_wired_cases hc hclock hnonce hparsed hsame hr
    · exact hshake
    · rw [hacked] at hpermanent
      cases hpermanent
  -- all checks pass, so the answer is an ACK, and its ids are those of the command
  · intro hshake
    obtain ⟨endpoint, hout⟩ := hshake.outgoing
    have hack := hshake.analyze hclock hnonce hparsed hsame (endpoint ++ "/v1/analyze")
    obtain ⟨htask, hagent⟩ := hshake.ackFor_ids hown
    refine ⟨{ disposition := .acknowledged
              ack := some (app.ackFor st clock command.taskId)
              latencyMs := some net.latencyMs }, ?_, rfl⟩
    refine (OrchestratorService.dispatch_eq hout).trans ?_
    show AgentDispatchClient.readResponse command net.latencyMs (AgentRuntime.response _) = _
    rw [hack]
    simp [AgentRuntime.response, AgentDispatchClient.readResponse, htask, hagent]

end Wired

/-- **The command handshake.** A dispatch to a runtime with any history behind it, over a network
    that delivers, is acknowledged exactly if both sides agree on their identities and secrets, the
    command is in time, the runtime serves it, and neither its nonce nor its task is taken. The ACK
    is then the one that the runtime remembers for the task, and the task is handed to the handler
    if and only if it is not remembered. Nothing that the runtime answers is ever retried. -/
theorem handshake_exact {Sig : Type} [DecidableEq Sig] {app : AgentRuntime Sig}
    (hc : app.crypto.Symbolic) (calls : List (AgentRuntime.Call Sig)) {service : OrchestratorService}
    {modelDump : AnalysisTaskRequest → List UInt8} {net : Network} {clock : Readings}
    {timestamp : Int} {generated : String} {command : DispatchCommand} {task : ValidTask}
    (hclock : representable timestamp = true) (hnonce : isNonce generated = true)
    (hparsed : app.modelValidateJson (modelDump command.request) = some task)
    (hsame : SameButContext task.val command.request) :
    let st := app.serve {} calls
    let result := service.dispatch app.crypto modelDump net (app.answers st clock) timestamp
      generated command
    ((∃ r, result = .ok r ∧ r.disposition = .acknowledged) ↔
      Handshake app service modelDump net st clock timestamp generated command) ∧
    (∀ r, result = .ok r → r.disposition = .acknowledged →
      r.ack = some (app.ackFor st clock command.taskId) ∧
      ∀ url, (app.analyze st clock (service.message app.crypto timestamp generated command.agentId
          url (modelDump command.request)).raw).2 =
        .ok (app.ackFor st clock command.taskId,
          if (st.tasks.lookup command.taskId).isSome then none else some task)) ∧
    ∀ r, result = .ok r → r.disposition ≠ .retryable := by
  intro st result
  -- the store holds only acknowledgements of the runtime itself
  have hown : st.AcksOwn app.settings.tomirisAgentId :=
    app.serve_acksOwn calls fun entry hentry => by cases hentry
  refine ⟨acknowledged_iff hc hown hclock hnonce hparsed hsame, ?_, ?_⟩
  -- an acknowledged dispatch comes from a request that met the handshake
  · intro r hr hacked
    obtain ⟨-, hshake, hack⟩ | hpermanent := dispatch_wired_cases hc hclock hnonce hparsed hsame hr
    · exact ⟨hack, hshake.analyze hclock hnonce hparsed hsame⟩
    · rw [hacked] at hpermanent
      cases hpermanent
  · intro r hr
    obtain ⟨hacked, -⟩ | hpermanent := dispatch_wired_cases hc hclock hnonce hparsed hsame hr
    · simp [hacked]
    · simp [hpermanent]

namespace Deployment

def masterSecret : String := "the-root-of-all-orchestrator-command-secrets"

/-- The service of an orchestrator under the id that the runtimes expect. -/
def tomirisOrchestrator : OrchestratorService where
  dispatcher := workerNamed "TOMIRIS_ORCHESTRATOR"
  orchestratorId := "TOMIRIS_ORCHESTRATOR"
  commandKeyId := "current"
  secretProvider := ⟨masterSecret, "current", "orchestrator-command", none, none⟩
  client := ⟨⟨["hf.space"]⟩⟩

/-- The runtime of `ALPHA` with the secret that is derived for it. -/
def alphaRuntime : AgentRuntime (String × String) where
  settings := { forgetfulSettings with
    tomirisOrchestratorCommandSecret :=
      terms.hkdf masterSecret (secretInfo "orchestrator-command" "ALPHA" "current") }
  crypto := terms
  modelValidateJson := forgetful.modelValidateJson
  settings_valid := { forgetful.settings_valid with
    command_secret := by decide +kernel
    secrets_differ := by decide +kernel }

/-- Every URL is an `https` origin, and nothing is resolved. -/
def originsOnly : Network where
  urlsplit := fun _ => some { scheme := "https", hostname := some "alpha.hf.space" }
  resolver := fun _ _ => .ok []
  ipAddress := fun _ => none
  secret := fun _ => none
  post := fun _ _ => .error .timeout

/-- The command for `alphaTask`. -/
def alphaCommand : DispatchCommand where
  taskId := 200
  orchestrationRunId := 100
  snapshotId := 300
  agentId := "ALPHA"
  asset := "BTCUSDT"
  requiredCapability := "technical_analysis"
  priority := 50
  createdAt := 0
  signalDeadline := seconds 300
  correlationId := 100
  causationId := none
  context := .mapping []
  endpointUrl := "https://alpha.hf.space"
  endpointEnvironment := "DEVELOPMENT"

/-- The runtime parses the body of `alphaTask`, and reads it whole. -/
theorem alphaRuntime_parses {request : AnalysisTaskRequest} (h : request = alphaTask) :
    alphaRuntime.modelValidateJson (request.json jsonFloat) = some ⟨alphaTask, alphaTask_valid⟩ ∧
      (request.json jsonFloat).length ≤ alphaRuntime.settings.maxTaskRequestBytes := by
  have hruntime : alphaRuntime.modelValidateJson = forgetful.modelValidateJson := rfl
  rw [h, hruntime]
  exact ⟨forgetful_parses, alphaBody_fits⟩

end Deployment

open Deployment in
/-- A command that is signed at second 5 and arrives at second 6 is acknowledged. -/
theorem handshake_exact_alpha :
    ∃ r, tomirisOrchestrator.dispatch terms (fun request => request.json jsonFloat) originsOnly
        (alphaRuntime.answers {} (still 6)) 5 "AAAAAAAAAAAAAAAAAAAAAA" alphaCommand = .ok r ∧
      r.disposition = .acknowledged := by
  have hsame : SameButContext alphaTask alphaCommand.request := rfl
  obtain ⟨hparsed, hfits⟩ := @alphaRuntime_parses alphaCommand.request rfl
  have hvalid : (tomirisOrchestrator.client.endpointValidator.validate originsOnly
      alphaCommand.endpointUrl alphaCommand.endpointEnvironment).isOk = true := by decide +kernel
  -- the conditions, one by one
  have hshake : Handshake alphaRuntime tomirisOrchestrator (fun request => request.json jsonFloat)
      originsOnly {} (still 6) 5 "AAAAAAAAAAAAAAAAAAAAAA" alphaCommand :=
    { endpoint := by
        cases h : tomirisOrchestrator.client.endpointValidator.validate originsOnly
            alphaCommand.endpointUrl alphaCommand.endpointEnvironment with
        | ok o => exact ⟨o, rfl⟩
        | error e =>
          rw [h] at hvalid
          cases hvalid
      request := alphaTask_valid
      orchestrator := rfl
      key := rfl
      secret := rfl
      agent := rfl
      timely := by decide
      deadline := by decide
      capability := by decide +kernel
      asset := by decide +kernel
      version := by decide
      body_fits := hfits
      fresh := rfl
      unchanged := fun known hknown => by cases hknown }
  exact (@handshake_exact _ _ alphaRuntime terms_symbolic [] _ _ _ _ _ _ _
    ⟨alphaTask, alphaTask_valid⟩ (by decide) (by decide) hparsed hsame).1.mpr hshake

end Tomiris
