import Mathlib.Data.Rat.Floor
import Tomiris.Orchestrator.Planner

/-!
# Dispatch

`DispatchWorker`: the claim transaction that leases due tasks, the recording of one
command's result, the loop of `dispatch_once` around the two, and the expiry of dispatch
deadlines, with the command and result types of `tomiris_orchestrator.client` and the backoff
of `tomiris_orchestrator.backoff`. In the whole system (`Tomiris.System`) the sends between a
claim and its results are steps of their own, which other processes interleave with.
-/

namespace Tomiris

/-! ## Commands, results, backoff -/

inductive DispatchDisposition where
  | acknowledged
  | retryable
  | permanent
deriving DecidableEq

/-- `DispatchCommand`. -/
structure DispatchCommand where
  taskId : UUID
  orchestrationRunId : UUID
  snapshotId : UUID
  agentId : String
  asset : String
  requiredCapability : String
  priority : Nat
  createdAt : Int
  signalDeadline : Int
  correlationId : UUID
  causationId : Option UUID
  context : PyValue
  endpointUrl : String
  endpointEnvironment : String

/-- The `AnalysisTaskRequest` that `AgentDispatchClient.dispatch` builds from a command. -/
def DispatchCommand.request (c : DispatchCommand) : AnalysisTaskRequest where
  protocolVersion := "1.0"
  taskId := c.taskId
  orchestrationRunId := c.orchestrationRunId
  snapshotId := c.snapshotId
  agentId := c.agentId
  asset := c.asset
  requiredCapability := c.requiredCapability
  priority := c.priority
  createdAt := c.createdAt
  deadline := c.signalDeadline
  correlationId := c.correlationId
  causationId := c.causationId
  context := c.context

/-- `DispatchResult`. -/
structure DispatchResult where
  disposition : DispatchDisposition
  errorCode : Option String := none
  ack : Option AnalysisTaskAck := none
  latencyMs : Option Rat := none

/-- `ExponentialBackoff`; the random value is drawn at each call. -/
structure ExponentialBackoff where
  baseSeconds : Rat
  maxSeconds : Rat

/-- `ExponentialBackoff.delay`, in seconds. -/
def ExponentialBackoff.delay (b : ExponentialBackoff) (randomValue : Rat) (attempt : Nat) : Rat :=
  -- `attempt` counts from 1; the jitter halves the delay at most
  min b.maxSeconds (b.baseSeconds * 2 ^ (attempt - 1)) * (1 / 2 + 1 / 2 * randomValue)

/-- The settings of a `DispatchWorker`. `leaseTime` is `timedelta(seconds=lease_seconds)`. -/
structure DispatchWorker where
  workerId : String
  batchSize : Nat
  leaseTime : Int
  maxAttempts : Nat
  backoff : ExponentialBackoff
  circuitFailureThreshold : Nat
  circuitOpenSeconds : Nat

namespace Dispatch

/-! ## Claiming -/

/-- The `WHERE` clause of the claim query. -/
def claimable (now : Int) (t : AgentTask) : Bool :=
  -- waiting for its time, or left behind by a worker whose lease has run out
  ((t.status = .pending || t.status = .retry) && t.dispatchAfter ≤ now ||
    t.status = .dispatching && t.leaseUntil.any (· < now)) && now < t.dispatchDeadline

/-- `ORDER BY priority DESC, created_at`. -/
def claimOrder (a b : AgentTask) : Prop :=
  b.priority < a.priority ∨ b.priority = a.priority ∧ a.createdAt ≤ b.createdAt

instance (a b : AgentTask) : Decidable (claimOrder a b) :=
  inferInstanceAs (Decidable (_ ∨ _ ∧ _))

/-- What the claim query may return: due rows in claim order, at most `batchSize` of them.
    It skips rows that another transaction has locked and leaves the order of equal rows
    open, so several batches satisfy this. -/
structure ClaimBatch (s : Store) (now : Int) (batchSize : Nat) (ids : List UUID) : Prop where
  distinct : ids.Nodup
  due : ∀ t ∈ s.tasksAt ids, claimable now t = true
  ordered : (s.tasksAt ids).Pairwise claimOrder
  limit : ids.length ≤ batchSize

instance (s : Store) (now : Int) (batchSize : Nat) (ids : List UUID) :
    Decidable (ClaimBatch s now batchSize ids) :=
  decidable_of_iff (ids.Nodup ∧ (∀ t ∈ s.tasksAt ids, claimable now t = true) ∧
      (s.tasksAt ids).Pairwise claimOrder ∧ ids.length ≤ batchSize)
    ⟨fun ⟨h₁, h₂, h₃, h₄⟩ => ⟨h₁, h₂, h₃, h₄⟩, fun ⟨h₁, h₂, h₃, h₄⟩ => ⟨h₁, h₂, h₃, h₄⟩⟩

/-- The runtime state of an agent seen for the first time. -/
def freshRuntimeState (now : Int) (agentId : String) : AgentRuntimeState where
  agentId := agentId
  availability := .unknown
  consecutiveFailures := 0
  circuitState := .closed
  updatedAt := now

/-- The run statuses in which a claim cancels the task. -/
def closedToClaims : RunStatus → Bool
  | .full | .degraded | .critical | .failed | .timedOut | .cancelled => true
  | .created | .dispatching | .collecting => false

/-- The open circuit keeps the agent from being called until this time. -/
def circuitBlocks (now : Int) (state : AgentRuntimeState) : Option Int :=
  if state.circuitState = .opened then state.circuitOpenUntil.filter (now < ·) else none

def cancelledTask (now : Int) (t : AgentTask) : AgentTask :=
  { t with status := .cancelled, updatedAt := now }

def endpointMissingTask (now : Int) (t : AgentTask) : AgentTask :=
  { t with
    status := .failed
    lastErrorCode := some "AGENT_ENDPOINT_MISSING"
    updatedAt := now }

def circuitOpenTask (now openUntil : Int) (t : AgentTask) : AgentTask :=
  { t with
    status := .retry
    dispatchAfter := openUntil
    lastErrorCode := some "AGENT_CIRCUIT_OPEN"
    updatedAt := now }

def leasedTask (w : DispatchWorker) (now : Int) (t : AgentTask) : AgentTask :=
  { t with
    status := .dispatching
    attemptCount := t.attemptCount + 1
    leaseOwner := some w.workerId
    leaseUntil := some (now + w.leaseTime)
    updatedAt := now }

/-- `OPEN` becomes `HALF_OPEN` once its cool-down is over; any other state stays. -/
def probedState (now : Int) (state : AgentRuntimeState) : AgentRuntimeState :=
  if state.circuitState = .opened then
    { state with circuitState := .halfOpen, updatedAt := now }
  else state

/-- The command sent for a leased task. -/
def command (t : AgentTask) (run : OrchestrationRun) (endpoint : AgentEndpoint) :
    DispatchCommand where
  taskId := t.taskId
  orchestrationRunId := t.orchestrationRunId
  snapshotId := t.snapshotId
  agentId := t.agentId
  asset := t.asset
  requiredCapability := t.requiredCapability
  priority := t.priority
  createdAt := t.createdAt
  signalDeadline := t.signalDeadline
  correlationId := run.correlationId
  causationId := t.causationId
  context := t.context
  endpointUrl := endpoint.endpointUrl
  endpointEnvironment := endpoint.environment

def dispatchStartedEvent (w : DispatchWorker) (now : Int) (t : AgentTask)
    (run : OrchestrationRun) : AuditEvent :=
  orchestrationEvent now .taskDispatchStarted run.correlationId t.causationId
    run.orchestrationRunId (some t.taskId) (some t.agentId) (some t.snapshotId) .accepted none
    [("attempt", .nat t.attemptCount), ("worker_id", .text w.workerId)]

/-- The agent's runtime state, with the row inserted when it is missing. -/
def lockRuntimeState (now : Int) (agentId : String) (s : Store) : Store × AgentRuntimeState :=
  match s.runtimeStates.get? agentId with
  | some state => (s, state)
  | none => (s.putRuntimeState (freshRuntimeState now agentId), freshRuntimeState now agentId)

/-- What `_claim` decides about one task, before it writes. -/
inductive ClaimDecision where
  | cancel
  | endpointMissing
  | circuitOpen (openUntil : Int)
  | lease (run : OrchestrationRun) (endpoint : AgentEndpoint)

/-- The branches of the loop body of `_claim`. -/
def decideClaim (now : Int) (run : Option OrchestrationRun) (endpoint : Option AgentEndpoint)
    (state : AgentRuntimeState) : ClaimDecision :=
  match run with
  | none => .cancel
  | some run =>
    -- the run first: a closed one cancels even a task whose endpoint is gone
    if closedToClaims run.status then .cancel
    else match endpoint with
      | none => .endpointMissing
      | some endpoint =>
        if endpoint.enabled = false then .endpointMissing
        else match circuitBlocks now state with
          | some openUntil => .circuitOpen openUntil
          | none => .lease run endpoint

/-- The loop body of `_claim`: the store after one task and the command it yields. -/
def claimTask (w : DispatchWorker) (now : Int) (t : AgentTask) (s : Store) :
    Store × Option DispatchCommand :=
  -- the runtime state is created before any branch is looked at
  let (s, state) := lockRuntimeState now t.agentId s
  match decideClaim now (s.runs.get? t.orchestrationRunId) (s.endpoints.get? t.agentId) state with
  | .cancel => (s.setTask (cancelledTask now t), none)
  | .endpointMissing => (s.setTask (endpointMissingTask now t), none)
  -- no attempt is counted: the task waits for the circuit
  | .circuitOpen openUntil => (s.setTask (circuitOpenTask now openUntil t), none)
  | .lease run endpoint =>
    let s := s.putRuntimeState (probedState now state)
    let leased := leasedTask w now t
    let s := s.setTask leased
    -- event and command are written from the leased row
    (s.addEvent (dispatchStartedEvent w now leased run), some (command leased run endpoint))

/-- `_claim` for the tasks that its query returned. -/
def claim (w : DispatchWorker) (now : Int) : List AgentTask → Store → Store × List DispatchCommand
  | [], s => (s, [])
  | t :: rest, s =>
    let (s₁, c) := claimTask w now t s
    let (s₂, cs) := claim w now rest s₁
    (s₂, c.toList ++ cs)

/-! ## Recording a result -/

def ackedTask (now : Int) (result : DispatchResult) (t : AgentTask) : AgentTask :=
  { t with
    leaseOwner := none
    leaseUntil := none
    updatedAt := now
    status := .waitingSignal
    acknowledgedAt := some ((result.ack.map (·.acceptedAt)).getD now)
    lastErrorCode := none }

def retriedTask (now retryAt : Int) (result : DispatchResult) (t : AgentTask) : AgentTask :=
  { t with
    leaseOwner := none
    leaseUntil := none
    updatedAt := now
    status := .retry
    dispatchAfter := retryAt
    lastErrorCode := result.errorCode }

def failedTask (now : Int) (result : DispatchResult) (t : AgentTask) : AgentTask :=
  { t with
    leaseOwner := none
    leaseUntil := none
    updatedAt := now
    status := .failed
    lastErrorCode := result.errorCode }

/-- The part of the runtime state that every result updates. -/
def touchedState (now : Int) (result : DispatchResult) (state : AgentRuntimeState) :
    AgentRuntimeState :=
  { state with
    updatedAt := now
    -- a result without a measurement keeps the last one
    latencyMs := if result.latencyMs.isSome then result.latencyMs else state.latencyMs }

def ackedState (now : Int) (state : AgentRuntimeState) : AgentRuntimeState :=
  { state with
    availability := .healthy
    lastSeenAt := some now
    lastAckAt := some now
    lastSuccessAt := some now
    consecutiveFailures := 0
    circuitState := .closed
    circuitOpenUntil := none }

/-- One more consecutive failure, which opens the circuit at the threshold. -/
def failureState (w : DispatchWorker) (now : Int) (result : DispatchResult)
    (state : AgentRuntimeState) : AgentRuntimeState :=
  let state :=
    { state with
      consecutiveFailures := state.consecutiveFailures + 1
      lastErrorCode := result.errorCode
      availability := .degraded }
  -- the count already includes this failure
  if state.consecutiveFailures ≥ w.circuitFailureThreshold then
    { state with
      circuitState := .opened
      circuitOpenUntil := some (now + seconds w.circuitOpenSeconds) }
  else state

/-- `can_retry`. -/
def canRetry (w : DispatchWorker) (now : Int) (result : DispatchResult) (t : AgentTask) : Bool :=
  result.disposition = .retryable && t.attemptCount < w.maxAttempts && now < t.dispatchDeadline

/-- `retry_at`: the backoff, or the end of the open circuit when that is later. -/
def retryAt (w : DispatchWorker) (now : Int) (randomValue : Rat) (t : AgentTask)
    (state : AgentRuntimeState) : Int :=
  let at_ := now + timedelta (w.backoff.delay randomValue t.attemptCount)
  match state.circuitState, state.circuitOpenUntil with
  | .opened, some openUntil => max at_ openUntil
  | _, _ => at_

/-- The audit events of a recorded result name the run, the task and its agent. -/
def resultEvent (now : Int) (eventType : EventType) (causationId : Option UUID)
    (run : OrchestrationRun) (t : AgentTask) (outcome : EventOutcome) (reasonCode : Option String)
    (metadata : List (String × MetaValue)) : AuditEvent :=
  orchestrationEvent now eventType run.correlationId causationId run.orchestrationRunId
    (some t.taskId) (some t.agentId) (some t.snapshotId) outcome reasonCode metadata

/-- The `ACKNOWLEDGED` branch of `_record_result`. -/
def recordAck (now : Int) (result : DispatchResult) (t : AgentTask) (state : AgentRuntimeState)
    (run : OrchestrationRun) (s : Store) : Store :=
  (((s.setTask (ackedTask now result t)).putRuntimeState
      (ackedState now (touchedState now result state))).setRun
      -- whatever the run's status was
      { run with status := .collecting }).addEvent
    (resultEvent now .taskAcknowledged t.causationId run t .accepted none
      [("attempt", .nat t.attemptCount), ("latency_ms", .num (result.latencyMs.getD 0))])

/-- The `AGENT_CIRCUIT_OPENED` event, when this failure reaches the threshold. -/
def circuitOpenedEvents (now : Int) (result : DispatchResult) (t : AgentTask)
    (state : AgentRuntimeState) (run : OrchestrationRun) (threshold : Nat) : List AuditEvent :=
  if state.consecutiveFailures + 1 ≥ threshold then
    -- the only event of a result that is caused by the task itself
    [resultEvent now .agentCircuitOpened (some t.taskId) run t .rejected result.errorCode []]
  else []

/-- The failure branches of `_record_result`. -/
def recordFailure (w : DispatchWorker) (now : Int) (randomValue : Rat) (result : DispatchResult)
    (t : AgentTask) (state : AgentRuntimeState) (run : OrchestrationRun) (s : Store) : Store :=
  let failed := failureState w now result (touchedState now result state)
  let opened := circuitOpenedEvents now result t state run w.circuitFailureThreshold
  if canRetry w now result t then
    let at_ := retryAt w now randomValue t failed
    { (s.setTask (retriedTask now at_ result t)).putRuntimeState failed with
      auditEvents := s.auditEvents ++ opened ++
        [resultEvent now .taskRetryScheduled t.causationId run t .rejected result.errorCode
          [("attempt", .nat t.attemptCount), ("dispatch_after", .time at_)]] }
  else
    -- a final failure is worse than the `DEGRADED` of a retry
    { (s.setTask (failedTask now result t)).putRuntimeState
        { failed with availability := .unavailable } with
      auditEvents := s.auditEvents ++ opened ++
        [resultEvent now .taskFailed t.causationId run t .rejected result.errorCode
          [("attempt", .nat t.attemptCount)]] }

/-- The guard of `_record_result`: the task is in dispatch under this worker's lease. -/
def ownsLease (w : DispatchWorker) (t : AgentTask) : Bool :=
  t.status = .dispatching && t.leaseOwner = some w.workerId

/-- `_record_result`. -/
def recordResult (w : DispatchWorker) (now : Int) (randomValue : Rat) (c : DispatchCommand)
    (result : DispatchResult) (s : Store) : Store :=
  match s.tasks.get? c.taskId, s.runtimeStates.get? c.agentId, s.runs.get? c.orchestrationRunId with
  | some t, some state, some run =>
    if ownsLease w t then
      if result.disposition = .acknowledged then recordAck now result t state run s
      else recordFailure w now randomValue result t state run s
    else s
  -- a row is gone: the result is dropped
  | _, _, _ => s

/-! ## Working through a batch -/

/-- What the outside decides about one command of a batch. -/
structure Turn (ε : Type) where
  /-- What `transport.dispatch` comes to: a result, or the exception that escapes it. -/
  outcome : Except ε DispatchResult
  /-- The clock of `_record_result`. -/
  now : Int
  randomValue : Rat

/-- A `dispatch_once` under way: the database, with the calls made so far. -/
structure BatchRun where
  store : Store
  sent : List DispatchCommand := []
  recorded : List (DispatchCommand × DispatchResult) := []

section Batch

variable {ε : Type}

/-- The loop body of `dispatch_once`. -/
def sendCommand (w : DispatchWorker) (turn : DispatchCommand → Turn ε) (c : DispatchCommand) :
    Tx BatchRun ε Unit := do
  Tx.modify fun run => { run with sent := run.sent ++ [c] }
  -- nothing here catches what the transport raises
  let result ← Tx.attemptValue (turn c).outcome
  Tx.modify fun run =>
    { run with
      store := recordResult w (turn c).now (turn c).randomValue c result run.store
      recorded := run.recorded ++ [(c, result)] }

/-- `for command in commands`. -/
def sendAll (w : DispatchWorker) (turn : DispatchCommand → Turn ε) :
    List DispatchCommand → Tx BatchRun ε Unit
  | [] => pure ()
  | c :: rest => do
    sendCommand w turn c
    sendAll w turn rest

/-- `dispatch_once`, whose claim query returned the tasks `ids`, with no other transaction in
    between. Each command has its own task, so its turn is a function of the command. -/
def dispatchOnce (w : DispatchWorker) (now : Int) (ids : List UUID)
    (turn : DispatchCommand → Turn ε) (s : Store) : Except ε Nat × BatchRun :=
  let (s, commands) := claim w now (s.tasksAt ids) s
  let run : Tx BatchRun ε Nat := do
    sendAll w turn commands
    pure commands.length
  run { store := s }

end Batch

/-! ## Expiring dispatch deadlines -/

/-- The `WHERE` clause of `expire_dispatch_deadlines`. -/
def overdueForDispatch (now : Int) (t : AgentTask) : Bool :=
  (t.status = .pending || t.status = .retry || t.status = .dispatching) && t.dispatchDeadline ≤ now

def expiredTask (now : Int) (t : AgentTask) : AgentTask :=
  { t with
    status := .timedOut
    lastErrorCode := some "AGENT_ACK_TIMEOUT"
    leaseOwner := none
    leaseUntil := none
    updatedAt := now }

/-- What the expiry query may return: overdue rows that no other transaction has locked. -/
structure ExpiryBatch (s : Store) (now : Int) (ids : List UUID) : Prop where
  distinct : ids.Nodup
  due : ∀ t ∈ s.tasksAt ids, overdueForDispatch now t = true

instance (s : Store) (now : Int) (ids : List UUID) : Decidable (ExpiryBatch s now ids) :=
  decidable_of_iff (ids.Nodup ∧ ∀ t ∈ s.tasksAt ids, overdueForDispatch now t = true)
    ⟨fun ⟨h₁, h₂⟩ => ⟨h₁, h₂⟩, fun ⟨h₁, h₂⟩ => ⟨h₁, h₂⟩⟩

/-- The loop body of `expire_dispatch_deadlines`. -/
def expireTask (now : Int) (t : AgentTask) (s : Store) : Store :=
  let s := s.setTask (expiredTask now t)
  match s.runs.get? t.orchestrationRunId with
  -- without its run the event has no correlation id to carry
  | none => s
  | some run => s.addEvent (resultEvent now .taskTimedOut t.causationId run t .rejected
      (some "AGENT_ACK_TIMEOUT") [])

/-- `expire_dispatch_deadlines` for the tasks that its query returned. -/
def expireDispatchDeadlines (now : Int) (tasks : List AgentTask) (s : Store) : Store :=
  tasks.foldl (fun s t => expireTask now t s) s

end Dispatch

end Tomiris
