import Mathlib.Logic.Function.Basic
import Tomiris.ForStd.Transition
import Tomiris.Hub.SignalIngestion
import Tomiris.Orchestrator.Recovery
import Tomiris.Runtime.State

/-!
# The whole system

Any number of orchestrator processes, the Hub and one runtime per agent over one database.
Every database transaction is one action. Between the claim of a batch and the recording of
its results a process works through `dispatch_once` command by command, so starting a send,
its return and the recording of the result are actions of their own, and a process can
crash at any point in between.

An action carries everything the outside decides: the clock reading, the rows a locking
query returned, drawn identifiers, the result of an HTTP call. `step` is partial: an action
that the state does not allow is not enabled.
-/

namespace Tomiris

/-! ## Processes -/

/-- A command in the hands of a process, with what its claim wrote to the task row. The two
    extra fields are history: the process itself only holds the command. -/
structure Claimed where
  command : DispatchCommand
  attempt : Nat
  leaseUntil : Option Int

/-- A process inside `dispatch_once`. -/
structure Process where
  queue : List Claimed := []
  sending : Option Claimed := none
  returned : Option (Claimed × DispatchResult) := none

namespace Process

/-- Not inside `dispatch_once`. -/
def idle (p : Process) : Bool := p.queue.isEmpty && p.sending.isNone && p.returned.isNone

/-- The commands a process may still send or record a result for. -/
def held (p : Process) : List Claimed :=
  p.queue ++ p.sending.toList ++ (p.returned.map (·.1)).toList

end Process

/-- The settings of the system. Process `i` runs with `worker i`. -/
structure Config where
  worker : Nat → DispatchWorker
  maxTtlSeconds : Nat := 300
  recoveryBatchSize : Nat := 500
  /-- `body_sha256(request.model_dump_json())`. -/
  requestHash : AnalysisTaskRequest → String

structure System where
  store : Store := {}
  processes : Nat → Process := fun _ => {}
  runtimes : String → RuntimeTaskStore := fun _ => {}

/-- Nothing stored, every process idle, every runtime empty. -/
def System.initial : System := {}

/-! ## Actions -/

/-- What a health probe observed. -/
structure ProbeResult where
  availability : Availability
  errorCode : Option String
  latencyMs : Option Rat

/-- The columns that a probe writes. -/
def probedRuntime (now : Int) (r : ProbeResult) (state : AgentRuntimeState) : AgentRuntimeState :=
  { state with
    availability := r.availability
    lastProbeAt := some now
    -- a degraded agent has answered, so it was seen
    lastSeenAt := if r.availability = .healthy ∨ r.availability = .degraded then some now
      else state.lastSeenAt
    latencyMs := r.latencyMs
    lastErrorCode := r.errorCode
    updatedAt := now }

/-- The transaction at the end of `AgentHealthProber.probe`. A runtime state cannot be added
    for an agent that is not registered. -/
def recordProbe (now : Int) (agentId : String) (r : ProbeResult) (s : Store) : Store :=
  match s.runtimeStates.get? agentId with
  | some state => s.putRuntimeState (probedRuntime now r state)
  | none =>
    if (s.agents.get? agentId).isSome then
      s.putRuntimeState (probedRuntime now r (Dispatch.freshRuntimeState now agentId))
    -- the foreign key rejects the insert and the transaction is rolled back
    else s

/-- A signal request as it reaches `ingest`. -/
structure SignalRequest where
  envelope : SignalEnvelope
  nonce : String
  payloadHash : Sha256
  requestId : UUID

inductive Action where
  /-- `sync_agent_registry` writes an `agents` row. -/
  | syncAgent (agent : Agent)
  /-- An operator writes an `agent_endpoints` row. -/
  | syncEndpoint (endpoint : AgentEndpoint)
  /-- A producer writes a `market_snapshots` row. -/
  | syncSnapshot (snapshot : MarketSnapshot)
  /-- `OrchestrationPlanner.create`. -/
  | create (now : Int) (args : CreateArgs) (draws : PlanDraws)
  /-- `DispatchWorker._claim` of process `p`, whose query returned the tasks `ids`. -/
  | claim (p : Nat) (now : Int) (ids : List UUID)
  /-- Process `p` enters `transport.dispatch` with its next command. -/
  | startSend (p : Nat)
  /-- The command that process `p` is sending reaches the agent runtime. -/
  | deliver (p : Nat) (now : Int) (nonce : String) (nonceExpiresAt : Int) (ack : AnalysisTaskAck)
  /-- `transport.dispatch` of process `p` returns; the answer may have been lost. -/
  | endSend (p : Nat) (result : DispatchResult)
  /-- `DispatchWorker._record_result` of process `p`. -/
  | record (p : Nat) (now : Int) (randomValue : Rat)
  /-- Process `p` dies, or an exception escapes its `dispatch_once`. -/
  | crash (p : Nat)
  /-- `DispatchWorker.expire_dispatch_deadlines`, whose query returned the tasks `ids`. -/
  | expire (now : Int) (ids : List UUID)
  /-- The first transaction of `RecoveryService.reconcile`, whose query returned the runs
      `ids`. -/
  | recover (now : Int) (ids : List UUID)
  /-- `CompletenessEvaluator.evaluate`. -/
  | evaluate (now : Int) (runId : UUID)
  /-- `SignalIngestionService.ingest`. -/
  | ingest (now : Int) (request : SignalRequest)
  /-- `SignalIngestionService.record_rejection`. -/
  | recordRejection (now : Int) (requestId : UUID) (reason : String)
      (payloadHash : Option Sha256) (agentId : Option String)
  /-- `AgentHealthProber.probe`. -/
  | probe (now : Int) (agentId : String) (result : ProbeResult)

namespace System

/-- `ingest` as a change of the store; a rejected request is rolled back. -/
def ingested (cfg : Config) (now : Int) (r : SignalRequest) (s : Store) : Store :=
  (ingest cfg.maxTtlSeconds now r.envelope r.nonce r.payloadHash r.requestId s).2

/-- Replace the state of one process. -/
def setProcess (sys : System) (p : Nat) (proc : Process) : System :=
  { sys with processes := Function.update sys.processes p proc }

/-- The commands of a claim with the attempt and lease that the claim stored. -/
def claimedCommands (s : Store) (commands : List DispatchCommand) : List Claimed :=
  commands.map fun c =>
    match s.tasks.get? c.taskId with
    | some t => ⟨c, t.attemptCount, t.leaseUntil⟩
    -- not reached: a claim builds commands from the rows it leased
    | none => ⟨c, 0, none⟩

/-- `_claim` of an idle process. -/
def stepClaim (cfg : Config) (sys : System) (p : Nat) (now : Int) (ids : List UUID) :
    Option System :=
  if (sys.processes p).idle = true ∧
      Dispatch.ClaimBatch sys.store now (cfg.worker p).batchSize ids then
    let (s, commands) := Dispatch.claim (cfg.worker p) now (sys.store.tasksAt ids) sys.store
    -- the batch is sent in the order of its rows
    some ({ sys with store := s }.setProcess p { queue := claimedCommands s commands })
  else none

/-- The next command of the batch goes out, once the one before it is recorded. -/
def stepStartSend (sys : System) (p : Nat) : Option System :=
  match sys.processes p with
  | ⟨c :: rest, none, none⟩ => some (sys.setProcess p ⟨rest, some c, none⟩)
  | _ => none

def stepDeliver (cfg : Config) (sys : System) (p : Nat) (now : Int) (nonce : String)
    (nonceExpiresAt : Int) (ack : AnalysisTaskAck) : Option System :=
  match (sys.processes p).sending with
  | none => none
  | some c =>
    -- the command stays in flight: the network may deliver it again
    let agent := c.command.agentId
    let sub : RuntimeTaskStore.Submission :=
      { nonce, nonceExpiresAt, now, ack
        taskId := c.command.taskId
        bodyHash := cfg.requestHash c.command.request }
    some { sys with
      runtimes := Function.update sys.runtimes agent ((sys.runtimes agent).accept sub).1 }

def stepEndSend (sys : System) (p : Nat) (result : DispatchResult) : Option System :=
  match sys.processes p with
  | ⟨queue, some c, none⟩ => some (sys.setProcess p ⟨queue, none, some (c, result)⟩)
  | _ => none

def stepRecord (cfg : Config) (sys : System) (p : Nat) (now : Int) (randomValue : Rat) :
    Option System :=
  match (sys.processes p).returned with
  | none => none
  | some (c, result) =>
    -- the worker trusts the ids of its command; the history columns are not read
    let s := Dispatch.recordResult (cfg.worker p) now randomValue c.command result sys.store
    some ({ sys with store := s }.setProcess p { sys.processes p with returned := none })

/-- The state after an action, if it is enabled. -/
def step (cfg : Config) (sys : System) : Action → Option System
  | .syncAgent a => some { sys with store.agents := sys.store.agents.upsert a }
  | .syncEndpoint e => some { sys with store.endpoints := sys.store.endpoints.upsert e }
  | .syncSnapshot m => some { sys with store.snapshots := sys.store.snapshots.upsert m }
  | .create now args draws => some { sys with store := (Tomiris.create now args draws sys.store).2 }
  | .claim p now ids => stepClaim cfg sys p now ids
  | .startSend p => stepStartSend sys p
  | .deliver p now nonce expires ack => stepDeliver cfg sys p now nonce expires ack
  | .endSend p result => stepEndSend sys p result
  | .record p now randomValue => stepRecord cfg sys p now randomValue
  | .crash p => some (sys.setProcess p {})
  | .expire now ids =>
    if Dispatch.ExpiryBatch sys.store now ids then
      some { sys with
        store := Dispatch.expireDispatchDeadlines now (sys.store.tasksAt ids) sys.store }
    else none
  | .recover now ids =>
    if Recovery.RunBatch sys.store cfg.recoveryBatchSize ids then
      some { sys with store := (Recovery.recoverRuns now (sys.store.runsAt ids) sys.store).1 }
    else none
  | .evaluate now runId => some { sys with store := Recovery.evaluated now runId sys.store }
  | .ingest now r => some { sys with store := ingested cfg now r sys.store }
  | .recordRejection now requestId reason payloadHash agentId =>
    some { sys with
      store := Tomiris.recordRejection now requestId reason payloadHash agentId sys.store }
  | .probe now agentId r => some { sys with store := recordProbe now agentId r sys.store }

/-- The states that some run of the system leads to. -/
def Reachable (cfg : Config) (sys : System) : Prop :=
  Transition.Exec (step cfg) Transition.Any initial sys

end System

/-! ## Rows that an action works on -/

open Dispatch in
/-- The run that the action sets to `COLLECTING`, when it records an ACK under the lease of
    its worker. -/
def ackedRun (cfg : Config) (sys : System) : Action → Option OrchestrationRun
  | .record p _ _ =>
    match (sys.processes p).returned with
    | none => none
    | some (c, result) =>
      match sys.store.tasks.get? c.command.taskId, sys.store.runtimeStates.get? c.command.agentId,
        sys.store.runs.get? c.command.orchestrationRunId with
      | some t, some _, some run =>
        if ownsLease (cfg.worker p) t = true ∧ result.disposition = .acknowledged then some run
        else none
      | _, _, _ => none
  | _ => none

open Dispatch in
/-- The result that the action records under the lease of its worker, with the agent whose
    runtime state it updates. -/
def appliedResult (cfg : Config) (sys : System) : Action → Option (String × DispatchResult)
  | .record p _ _ =>
    match (sys.processes p).returned with
    | none => none
    | some (c, result) =>
      match sys.store.tasks.get? c.command.taskId, sys.store.runtimeStates.get? c.command.agentId,
        sys.store.runs.get? c.command.orchestrationRunId with
      | some t, some _, some _ =>
        if ownsLease (cfg.worker p) t = true then some (c.command.agentId, result) else none
      | _, _, _ => none
  | _ => none

end Tomiris
