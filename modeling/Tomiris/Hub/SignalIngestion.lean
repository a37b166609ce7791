import Tomiris.ForStd.Transaction
import Tomiris.Hub.Errors
import Tomiris.Hub.Models

/-!
# Signal ingestion

`SignalIngestionService` of the Hub: the checks of `ingest` in their order, the nonce
flushed before the task is looked at, and the single transaction that stores the signal
and completes the task. `record_rejection` writes the audit row of a refused request in a
transaction of its own.
-/

namespace Tomiris

/-- `body_sha256`: a SHA-256 digest written in hexadecimal. -/
structure Sha256 where
  hex : String
  length_hex : hex.length = 64

/-- What ends an `ingest` call early: a `HubError`, or a database error that the caller
    turns into `DATABASE_UNAVAILABLE`. -/
inductive IngestFailure where
  | hub (e : HubError)
  | db (e : DbError)
deriving DecidableEq

namespace Ingest

/-- `raise ValidationError(code, status)` or `ConflictError(code, status)`. -/
def reject (code : String) (statusCode : Nat) : IngestFailure := .hub ⟨code, statusCode⟩

/-- `except IntegrityError`. -/
def onIntegrityError : IngestFailure → IngestFailure
  | .db (.integrity _) => reject "REPLAY_OR_DUPLICATE" 409
  | e => e

/-- The checks made before the transaction. -/
def checkTimestamps (maxTtlSeconds : Nat) (now : Int) (envelope : SignalEnvelope) :
    Tx Store IngestFailure Unit := do
  Tx.raiseIf (envelope.signalTtlSeconds > maxTtlSeconds) (reject "SIGNAL_TTL_EXCEEDS_MAXIMUM" 422)
  Tx.raiseIf (envelope.analysisTimestamp > now ∨
      envelope.dataTimestamp > envelope.analysisTimestamp)
    (reject "INVALID_SIGNAL_TIMESTAMPS" 422)
  -- the time to live counts from the analysis, not from the arrival
  Tx.raiseIf (envelope.analysisTimestamp + seconds envelope.signalTtlSeconds < now)
    (reject "SIGNAL_EXPIRED" 422)

/-- The checks against the `agents` row. -/
def checkRegistry (envelope : SignalEnvelope) : Tx Store IngestFailure Unit := do
  let agent ← Tx.need (fun s => s.agents.get? envelope.agentId) (reject "UNKNOWN_AGENT" 403)
  Tx.raiseIf (agent.enabled = false) (reject "AGENT_DISABLED" 403)
  Tx.raiseIf ("signal_ingestion" ∉ agent.capabilities) (reject "AGENT_NOT_AUTHORIZED" 403)
  Tx.raiseIf (agent.protocolVersion ≠ envelope.protocolVersion)
    (reject "UNSUPPORTED_PROTOCOL_VERSION" 422)
  -- an empty list of assets or evidence types allows all of them
  Tx.raiseIf (agent.supportedAssets ≠ [] ∧ envelope.asset ∉ agent.supportedAssets)
    (reject "UNSUPPORTED_ASSET" 422)
  Tx.raiseIf (agent.supportedEvidenceTypes ≠ [] ∧
      ¬ ∀ e ∈ envelope.evidence, e.evidenceType ∈ agent.supportedEvidenceTypes)
    (reject "UNSUPPORTED_EVIDENCE_TYPE" 422)

/-- The checks against the `market_snapshots` row. -/
def checkSnapshot (now : Int) (envelope : SignalEnvelope) : Tx Store IngestFailure Unit := do
  let snapshot ← Tx.need (fun s => s.snapshots.get? envelope.snapshotId)
    (reject "UNKNOWN_SNAPSHOT" 422)
  Tx.raiseIf (snapshot.status ≠ .opened ∨ snapshot.expiresAt ≤ now)
    (reject "SNAPSHOT_NOT_OPEN" 422)
  Tx.raiseIf (envelope.analysisTimestamp < snapshot.createdAt ∨
      envelope.analysisTimestamp > snapshot.expiresAt)
    (reject "SIGNAL_SNAPSHOT_TIME_MISMATCH" 422)

/-- The checks against the `agent_tasks` row of a task-bound signal. -/
def checkTask (now : Int) (envelope : SignalEnvelope) (taskId : UUID) :
    Tx Store IngestFailure AgentTask := do
  let task ← Tx.need (fun s => s.tasks.get? taskId) (reject "TASK_UNKNOWN" 422)
  Tx.raiseIf (task.agentId ≠ envelope.agentId) (reject "TASK_AGENT_MISMATCH" 403)
  -- a task-bound signal always carries a run id
  Tx.raiseIf (some task.orchestrationRunId ≠ envelope.orchestrationRunId)
    (reject "TASK_RUN_MISMATCH" 422)
  Tx.raiseIf (task.snapshotId ≠ envelope.snapshotId) (reject "TASK_SNAPSHOT_MISMATCH" 422)
  Tx.raiseIf (task.asset ≠ envelope.asset) (reject "TASK_ASSET_MISMATCH" 422)
  Tx.raiseIf (task.signalDeadline ≤ now ∨ task.status = .timedOut) (reject "TASK_EXPIRED" 422)
  -- from here on by status; `PENDING` and `RETRY` are left for the last check
  Tx.raiseIf (task.status = .signalReceived) (reject "DUPLICATE_TASK_RESULT" 409)
  Tx.raiseIf (task.status ∈ [.cancelled, .failed, .skipped])
    (reject "TASK_NOT_ACCEPTING_RESULTS" 409)
  Tx.raiseIf (task.status ∉ [.dispatching, .acknowledged, .waitingSignal])
    (reject "TASK_NOT_DISPATCHED" 409)
  pure task

/-- The task of a task-bound signal, or `none`. -/
def findTask (now : Int) (envelope : SignalEnvelope) : Tx Store IngestFailure (Option AgentTask) :=
  match envelope.taskId with
  | none => pure none
  | some taskId => do
    let task ← checkTask now envelope taskId
    pure (some task)

/-- `envelope.correlation_id or envelope.message_id`. -/
def correlationId (envelope : SignalEnvelope) : UUID :=
  envelope.correlationId.getD envelope.messageId

/-- The `signals` row of an envelope. -/
def signalRow (now : Int) (envelope : SignalEnvelope) (payloadHash : Sha256) : Signal where
  messageId := envelope.messageId
  agentId := envelope.agentId
  agentRunId := envelope.agentRunId
  snapshotId := envelope.snapshotId
  taskId := envelope.taskId
  orchestrationRunId := envelope.orchestrationRunId
  correlationId := correlationId envelope
  causationId := envelope.causationId
  protocolVersion := envelope.protocolVersion
  asset := envelope.asset
  bias := envelope.bias
  confidence := envelope.confidence
  impact := envelope.impact
  timeHorizon := envelope.timeHorizon
  dataTimestamp := envelope.dataTimestamp
  analysisTimestamp := envelope.analysisTimestamp
  signalTtlSeconds := envelope.signalTtlSeconds
  roleId := envelope.roleId
  roleVersion := envelope.roleVersion
  configVersion := envelope.configVersion
  featurePipelineVersion := envelope.featurePipelineVersion
  analysisSchemaVersion := envelope.analysisSchemaVersion
  dataProvider := envelope.dataProvider
  dataAsOf := envelope.dataAsOf
  confidenceModelVersion := envelope.confidenceModelVersion
  payload := envelope.toSignalFields
  payloadHash := payloadHash.hex
  receivedAt := now

/-- The `SIGNAL_INGESTION` audit row of an accepted signal. -/
def acceptedEvent (now : Int) (envelope : SignalEnvelope) (payloadHash : Sha256)
    (requestId : UUID) : AuditEvent where
  occurredAt := now
  eventType := .signalIngestion
  outcome := .accepted
  reasonCode := none
  requestId := some requestId
  agentId := some envelope.agentId
  messageId := some envelope.messageId
  snapshotId := some envelope.snapshotId
  correlationId := correlationId envelope
  causationId := envelope.causationId
  payloadHash := some payloadHash.hex
  metadata := [("snapshot_id", .uuid envelope.snapshotId)]

/-- The `TASK_SIGNAL_RECEIVED` audit row of a completed task. -/
def taskReceivedEvent (now : Int) (envelope : SignalEnvelope) (task : AgentTask)
    (payloadHash : Sha256) (requestId : UUID) : AuditEvent where
  occurredAt := now
  eventType := .taskSignalReceived
  outcome := .accepted
  reasonCode := none
  requestId := some requestId
  agentId := some envelope.agentId
  messageId := some envelope.messageId
  snapshotId := some envelope.snapshotId
  correlationId := correlationId envelope
  causationId := envelope.taskId
  payloadHash := some payloadHash.hex
  metadata := [("task_id", .uuid task.taskId), ("orchestration_run_id", .uuid task.orchestrationRunId)]

/-- The task row once its signal is stored. -/
def receivedTask (now : Int) (task : AgentTask) : AgentTask :=
  { task with
    status := .signalReceived
    signalReceivedAt := some now
    leaseOwner := none
    leaseUntil := none
    updatedAt := now }

/-- What a signal tells about its agent. -/
def seenRuntime (now : Int) (state : AgentRuntimeState) : AgentRuntimeState :=
  { state with
    lastSignalAt := some now
    lastSuccessAt := some now
    lastSeenAt := some now
    availability := .healthy
    updatedAt := now }

/-- The task, runtime-state and audit writes that go with a stored signal. -/
def completeTask (now : Int) (envelope : SignalEnvelope) (payloadHash : Sha256)
    (requestId : UUID) (task : Option AgentTask) (s : Store) : Store :=
  match task with
  -- an unbound signal touches neither task nor runtime state
  | none => s
  | some task =>
    let s := s.setTask (receivedTask now task)
    let s := match s.runtimeStates.get? envelope.agentId with
      | none => s
      | some state => s.putRuntimeState (seenRuntime now state)
    s.addEvent (taskReceivedEvent now envelope task payloadHash requestId)

/-- The body of the ingestion transaction. -/
def ingestBody (now : Int) (envelope : SignalEnvelope) (nonce : String) (payloadHash : Sha256)
    (requestId : UUID) : Tx Store IngestFailure Unit := do
  checkRegistry envelope
  checkSnapshot now envelope
  -- flushed here, so that a replay fails before the task is looked at
  Tx.attempt fun s => (s.insertNonce ⟨envelope.agentId, nonce, now⟩).mapError .db
  let task ← findTask now envelope
  let existing ← Tx.read fun s => s.signals.get? envelope.messageId
  -- the insert would fail on the same key, with a less precise code
  Tx.raiseIf (existing.isSome = true) (reject "DUPLICATE_MESSAGE_ID" 409)
  Tx.attempt fun s => (s.insertSignal (signalRow now envelope payloadHash)).mapError .db
  Tx.modify fun s => s.addEvent (acceptedEvent now envelope payloadHash requestId)
  Tx.modify (completeTask now envelope payloadHash requestId task)

end Ingest

open Ingest in
/-- `SignalIngestionService.ingest`. `payloadHash` is `body_sha256(body)`. -/
def ingest (maxTtlSeconds : Nat) (now : Int) (envelope : SignalEnvelope)
    (nonce : String) (payloadHash : Sha256) (requestId : UUID) : Tx Store IngestFailure Unit := do
  checkTimestamps maxTtlSeconds now envelope
  Tx.mapError onIntegrityError (Tx.begin (ingestBody now envelope nonce payloadHash requestId))

/-- `SignalIngestionService.record_rejection`. -/
def recordRejection (now : Int) (requestId : UUID) (reason : String)
    (payloadHash : Option Sha256) (agentId : Option String) (s : Store) : Store :=
  s.addEvent
    { occurredAt := now
      eventType := .signalIngestion
      outcome := .rejected
      reasonCode := some reason
      requestId := some requestId
      agentId := agentId
      messageId := none
      snapshotId := none
      correlationId := requestId
      causationId := none
      payloadHash := payloadHash.map (·.hex)
      metadata := [] }

end Tomiris
