import Mathlib.Data.List.Sort
import Tomiris.ForStd.Transaction
import Tomiris.Hub.Models

/-!
# Planning

`CapabilityRouter.select` and `OrchestrationPlanner.create`: routing a policy to the
agents of the registry, and the one transaction that stores the run, its tasks and their
audit events. A repeated run id only reads.
-/

namespace Tomiris

/-- `add_orchestration_event`. The run and task ids open the metadata of every event. -/
def orchestrationEvent (now : Int) (eventType : EventType) (correlationId : UUID)
    (causationId : Option UUID) (runId : UUID) (taskId : Option UUID := none)
    (agentId : Option String := none) (snapshotId : Option UUID := none)
    (outcome : EventOutcome := .accepted) (reasonCode : Option String := none)
    (metadata : List (String × MetaValue) := []) : AuditEvent where
  occurredAt := now
  eventType := eventType
  outcome := outcome
  reasonCode := reasonCode
  requestId := none
  agentId := agentId
  messageId := none
  snapshotId := snapshotId
  correlationId := correlationId
  causationId := causationId
  payloadHash := none
  metadata := ("orchestration_run_id", .uuid runId) ::
    (taskId.map (fun id => ("task_id", MetaValue.uuid id))).toList ++ metadata

/-! ## Routing -/

/-- `RoutedAgent`. -/
structure RoutedAgent where
  agentId : String
  capability : String
  criticality : Criticality
  endpointUrl : String
  environment : String

/-- The join of enabled agents with their enabled endpoints, in `agent_id` order. -/
def enabledAgents (s : Store) : List (Agent × AgentEndpoint) :=
  (s.agents.rows.insertionSort (fun a b => a.agentId ≤ b.agentId)).filterMap fun agent =>
    match s.endpoints.get? agent.agentId with
    | some endpoint => if agent.enabled && endpoint.enabled then some (agent, endpoint) else none
    -- an inner join: an agent without an endpoint row is not routed
    | none => none

/-- `CapabilityRouter.select`. -/
def select (asset capability : String) (limit : Option Nat) (s : Store) : List RoutedAgent :=
  let routed := (enabledAgents s).filterMap fun (agent, endpoint) =>
    if capability ∈ agent.capabilities ∧ asset ∈ agent.supportedAssets then
      some
        { agentId := agent.agentId
          capability := capability
          criticality := agent.criticality
          endpointUrl := endpoint.endpointUrl
          environment := endpoint.environment : RoutedAgent }
    else none
  -- `if limit is not None`: a limit of zero routes nobody
  match limit with
  | none => routed
  | some n => routed.take n

/-! ## Creating a run -/

/-- `OrchestrationPlan`. -/
structure OrchestrationPlan where
  orchestrationRunId : UUID
  taskIds : List UUID
  missingRequired : List String
  missingOptional : List String
  status : RunStatus

/-- What `create` raises: a `PlanningError`, the `ValueError` of an unbounded context, or
    a database error. -/
inductive PlanFailure where
  | planning (code detail : String)
  | context (e : MetadataError)
  | db (e : DbError)

/-- The keyword arguments of `create`. -/
structure CreateArgs where
  snapshotId : UUID
  asset : String
  triggerType : String
  policy : OrchestrationPolicy
  context : Option PyValue := none
  orchestrationRunId : Option UUID := none
  correlationId : Option UUID := none
  causationId : Option UUID := none

/-- The values `uuid4` returns during one call of `create`. -/
structure PlanDraws where
  runId : UUID
  correlationId : UUID
  taskId : Nat → UUID

namespace Planner

/-- The agents routed to each requirement. -/
def assignments (args : CreateArgs) (s : Store) : List (CapabilityRequirement × RoutedAgent) :=
  args.policy.requirements.flatMap fun requirement =>
    (select args.asset requirement.capability requirement.maxAgents s).map (requirement, ·)

/-- The requirement cannot be met by the agents routed to it. -/
def unmet (args : CreateArgs) (s : Store) (r : CapabilityRequirement) : Bool :=
  (select args.asset r.capability r.maxAgents s).length < r.minimumResponses

/-- `missing_required`. -/
def missingRequired (args : CreateArgs) (s : Store) : List String :=
  (args.policy.requirements.filter (fun r => unmet args s r && r.required)).map (·.capability)

/-- `missing_optional`. -/
def missingOptional (args : CreateArgs) (s : Store) : List String :=
  (args.policy.requirements.filter (fun r => unmet args s r && !r.required)).map (·.capability)

/-- The `orchestration_runs` row. -/
def planRun (now : Int) (args : CreateArgs) (runId correlationId : UUID) (context : PyValue)
    (s : Store) : OrchestrationRun :=
  let missing := missingRequired args s
  -- with a required capability missing the run is born finished
  { orchestrationRunId := runId
    snapshotId := args.snapshotId
    asset := args.asset
    triggerType := args.triggerType
    status := if missing ≠ [] then .critical else .dispatching
    outcome := if missing ≠ [] then some .insufficientData else none
    createdAt := now
    startedAt := some now
    collectionDeadline := now + seconds args.policy.collectionTimeoutSeconds
    completedAt := if missing ≠ [] then some now else none
    correlationId := correlationId
    policyVersion := args.policy.policyVersion
    metadata :=
      { policy := args.policy
        context := context
        missingRequired := missing
        missingOptional := missingOptional args s } }

/-- The `agent_tasks` row of one assignment. -/
def planTask (now : Int) (args : CreateArgs) (run : OrchestrationRun) (taskId : UUID)
    (requirement : CapabilityRequirement) (routed : RoutedAgent) : AgentTask where
  taskId := taskId
  orchestrationRunId := run.orchestrationRunId
  snapshotId := args.snapshotId
  agentId := routed.agentId
  asset := args.asset
  requiredCapability := requirement.capability
  required := requirement.required
  priority := if requirement.critical then 100 else 50
  -- the requirement can raise the agent's own criticality, never lower it
  criticality := if requirement.critical then .critical else routed.criticality
  status := if run.metadata.missingRequired ≠ [] then .cancelled else .pending
  attemptCount := 0
  dispatchAfter := now
  dispatchDeadline := now + seconds args.policy.dispatchTimeoutSeconds
  -- no task may outlive the collection of its run
  signalDeadline := min (now + seconds args.policy.signalTimeoutSeconds) run.collectionDeadline
  context := run.metadata.context
  causationId := args.causationId
  createdAt := now
  updatedAt := now

/-- The `TASK_CREATED` event of one assignment. -/
def taskCreatedEvent (now : Int) (args : CreateArgs) (run : OrchestrationRun) (task : AgentTask) :
    AuditEvent :=
  orchestrationEvent now .taskCreated run.correlationId args.causationId run.orchestrationRunId
    (some task.taskId) (some task.agentId) (some args.snapshotId) .accepted none
    [("capability", .text task.requiredCapability)]

/-- The `ORCHESTRATION_CREATED` event. -/
def runCreatedEvent (now : Int) (args : CreateArgs) (run : OrchestrationRun) : AuditEvent :=
  orchestrationEvent now .orchestrationCreated run.correlationId args.causationId
    run.orchestrationRunId none none (some args.snapshotId) .accepted none
    [("asset", .text args.asset), ("trigger_type", .text args.triggerType)]

/-- The `ORCHESTRATION_CRITICAL` event of a plan without a required capability. -/
def planFailedEvent (now : Int) (args : CreateArgs) (run : OrchestrationRun) : AuditEvent :=
  orchestrationEvent now .orchestrationCritical run.correlationId args.causationId
    run.orchestrationRunId none none (some args.snapshotId) .rejected (some "RUN_QUORUM_FAILED")
    [("missing_capabilities", .texts run.metadata.missingRequired)]

/-- `for requirement, routed in assignments`, numbering the drawn task ids from `i`. -/
def createTasks (now : Int) (args : CreateArgs) (run : OrchestrationRun) (taskId : Nat → UUID) :
    Nat → List (CapabilityRequirement × RoutedAgent) → Tx Store PlanFailure Unit
  | _, [] => pure ()
  | i, (requirement, routed) :: rest => do
    let task := planTask now args run (taskId i) requirement routed
    Tx.attempt fun s => (s.insertTask task).mapError .db
    Tx.modify fun s => s.addEvent (taskCreatedEvent now args run task)
    createTasks now args run taskId (i + 1) rest

/-- The plan of a run that already exists. -/
def existingPlan (run : OrchestrationRun) (s : Store) : OrchestrationPlan where
  orchestrationRunId := run.orchestrationRunId
  taskIds := ((s.tasksOf run.orchestrationRunId).map (·.taskId)).insertionSort (· ≤ ·)
  missingRequired := run.metadata.missingRequired
  missingOptional := run.metadata.missingOptional
  status := run.status

/-- The plan of a run that was just stored. -/
def newPlan (run : OrchestrationRun) (taskId : Nat → UUID) (count : Nat) : OrchestrationPlan where
  orchestrationRunId := run.orchestrationRunId
  taskIds := (List.range count).map taskId
  missingRequired := run.metadata.missingRequired
  missingOptional := run.metadata.missingOptional
  status := run.status

/-- The transaction of `create` for a run id that is not taken. -/
def createRun (now : Int) (args : CreateArgs) (runId correlationId : UUID) (context : PyValue)
    (taskId : Nat → UUID) : Tx Store PlanFailure OrchestrationPlan := do
  let snapshot ← Tx.need (fun s => s.snapshots.get? args.snapshotId)
    (.planning "SNAPSHOT_NOT_FOUND" "snapshot does not exist")
  Tx.raiseIf (snapshot.status ≠ .opened ∨ snapshot.expiresAt ≤ now)
    (.planning "SNAPSHOT_NOT_ELIGIBLE" "snapshot is not open and current")
  let assigned ← Tx.read (assignments args)
  let run ← Tx.read (planRun now args runId correlationId context)
  -- the run is flushed first: its tasks refer to it
  Tx.attempt fun s => (s.insertRun run).mapError .db
  Tx.modify fun s => s.addEvent (runCreatedEvent now args run)
  createTasks now args run taskId 0 assigned
  Tx.modify fun s =>
    if run.metadata.missingRequired ≠ [] then s.addEvent (planFailedEvent now args run) else s
  pure (newPlan run taskId assigned.length)

end Planner

open Planner in
/-- `OrchestrationPlanner.create`. -/
def create (now : Int) (args : CreateArgs) (draws : PlanDraws) :
    Tx Store PlanFailure OrchestrationPlan := do
  Tx.raiseIf (args.triggerType ≠ "MANUAL" ∧ args.triggerType ≠ "TEST")
    (.planning "INVALID_TRIGGER" "Phase 02 supports MANUAL and TEST only")
  let context ← Tx.attemptValue
    ((validateBoundedJson contextLimits (args.context.getD (.mapping []))).mapError .context)
  let runId := args.orchestrationRunId.getD draws.runId
  let correlationId := args.correlationId.getD draws.correlationId
  -- only a database or planning error can leave this block, and rolls all of it back
  Tx.begin do
    let existing ← Tx.read fun s => s.runs.get? runId
    match existing with
    | some run => Tx.read (existingPlan run)
    | none => createRun now args runId correlationId context draws.taskId

end Tomiris
