import Tomiris.Orchestrator.Planner

/-!
# Completeness

`CompletenessEvaluator`: the verdict over a run's tasks and its policy, the finalisation
of the run row, and the result that later calls rebuild from the stored row.
-/

namespace Tomiris

/-- `CompletenessResult`. -/
structure CompletenessResult where
  status : RunStatus
  outcome : Option RunOutcome
  completed : Bool
  received : Nat
  expected : Nat
  missingCapabilities : List String
deriving DecidableEq

namespace Quorum

/-- `TERMINAL_TASK_STATES`. -/
def terminal : TaskStatus → Bool
  | .signalReceived | .timedOut | .failed | .cancelled | .skipped => true
  | .pending | .dispatching | .acknowledged | .waitingSignal | .retry => false

/-- The terminal states without a result. -/
def lost : TaskStatus → Bool
  | .timedOut | .failed | .cancelled | .skipped => true
  | _ => false

/-- The run statuses in which `evaluate` reports the stored row. -/
def finalised : RunStatus → Bool
  | .full | .degraded | .critical | .failed | .cancelled => true
  | .created | .dispatching | .collecting | .timedOut => false

/-- `sum(task.status == "SIGNAL_RECEIVED" for task in tasks)`. -/
def received (tasks : List AgentTask) : Nat := tasks.countP (·.status = .signalReceived)

/-- The tasks that may still turn into a result. -/
def unfinished (tasks : List AgentTask) : Nat := tasks.countP (fun t => !terminal t.status)

/-- `capability_tasks`. -/
def capabilityTasks (tasks : List AgentTask) (r : CapabilityRequirement) : List AgentTask :=
  tasks.filter (·.requiredCapability = r.capability)

/-- A required capability is below its minimum. -/
def short (tasks : List AgentTask) (r : CapabilityRequirement) : Bool :=
  r.required && received (capabilityTasks tasks r) < r.minimumResponses

/-- `missing`. -/
def missing (tasks : List AgentTask) (reqs : List CapabilityRequirement) : List String :=
  (reqs.filter (short tasks)).map (·.capability)

/-- `impossible`: a missing capability cannot reach its minimum any more. -/
def impossible (tasks : List AgentTask) (reqs : List CapabilityRequirement) : Bool :=
  reqs.any fun r => short tasks r &&
    received (capabilityTasks tasks r) + unfinished (capabilityTasks tasks r) < r.minimumResponses

/-- `critical_failure`: a task of a critical requirement ended without a result. -/
def criticalFailure (tasks : List AgentTask) (reqs : List CapabilityRequirement) : Bool :=
  reqs.any fun r => r.critical && (capabilityTasks tasks r).any (fun t => lost t.status)

/-- `all_terminal`. -/
def allTerminal (tasks : List AgentTask) : Bool := tasks.all (fun t => terminal t.status)

/-- `all_received`. -/
def allReceived (tasks : List AgentTask) : Bool := tasks.all (·.status = .signalReceived)

/-- What `evaluate` finalises a run with. -/
structure Verdict where
  status : RunStatus
  outcome : RunOutcome
  reason : Option String
  eventType : EventType
deriving DecidableEq

/-- `CRITICAL` for a failed quorum. -/
def criticalVerdict : Verdict :=
  ⟨.critical, .insufficientData, some "RUN_QUORUM_FAILED", .orchestrationCritical⟩

def fullVerdict : Verdict := ⟨.full, .full, none, .orchestrationFull⟩

def degradedVerdict : Verdict :=
  ⟨.degraded, .degraded, some "RUN_DEADLINE_EXCEEDED", .orchestrationDegraded⟩

/-- The decision of `evaluate`, or `none` while the run goes on. -/
def decide (now : Int) (run : OrchestrationRun) (tasks : List AgentTask) : Option Verdict :=
  let reqs := run.metadata.policy.requirements
  let deadlineReached := run.collectionDeadline ≤ now
  -- a missing capability is fatal once waiting cannot help
  if missing tasks reqs ≠ [] ∧
      (impossible tasks reqs = true ∨ deadlineReached ∨ allTerminal tasks = true) then
    some criticalVerdict
  -- a lost critical task is fatal even where the minimum is met without it
  else if criticalFailure tasks reqs = true then some criticalVerdict
  else if allReceived tasks = true ∧ run.metadata.missingOptional = [] then some fullVerdict
  -- quorum is met, but some task or optional capability is missing
  else if allTerminal tasks = true ∨ deadlineReached then some degradedVerdict
  else none

/-- The run row after finalisation. -/
def finalisedRun (now : Int) (v : Verdict) (run : OrchestrationRun) : OrchestrationRun :=
  { run with status := v.status, outcome := some v.outcome, completedAt := some now }

/-- The audit row of a finalisation. -/
def finalisationEvent (now : Int) (v : Verdict) (run : OrchestrationRun) (tasks : List AgentTask) :
    AuditEvent :=
  orchestrationEvent now v.eventType run.correlationId none run.orchestrationRunId none none
    (some run.snapshotId) (if v.status = .critical then .rejected else .accepted) v.reason
    [("received", .nat (received tasks)), ("expected", .nat tasks.length),
      ("missing_capabilities", .texts (missing tasks run.metadata.policy.requirements))]

/-- `_result_from_run`. -/
def resultFromRun (run : OrchestrationRun) (tasks : List AgentTask) : CompletenessResult where
  status := run.status
  outcome := run.outcome
  completed := run.completedAt.isSome
  received := received tasks
  expected := tasks.length
  -- as planned: the verdict's own list of missing capabilities is not stored in the run
  missingCapabilities := run.metadata.missingRequired

/-- The result of a call that computes the verdict. -/
def computedResult (run : OrchestrationRun) (tasks : List AgentTask) (v : Option Verdict) :
    CompletenessResult where
  status := (v.map (·.status)).getD run.status
  outcome := match v with
    | some v => some v.outcome
    | none => run.outcome
  completed := v.isSome
  received := received tasks
  expected := tasks.length
  missingCapabilities := missing tasks run.metadata.policy.requirements

end Quorum

open Quorum in
/-- `CompletenessEvaluator.evaluate`; `none` is the `LookupError` of an unknown run. -/
def evaluate (now : Int) (runId : UUID) (s : Store) : Option (CompletenessResult × Store) :=
  match s.runs.get? runId with
  | none => none
  | some run =>
    let tasks := s.tasksOf runId
    -- counts over today's tasks, the rest from the row
    if finalised run.status then some (resultFromRun run tasks, s)
    else match Quorum.decide now run tasks with
      | none => some (computedResult run tasks none, s)
      | some v => some (computedResult run tasks (some v),
          (s.setRun (finalisedRun now v run)).addEvent (finalisationEvent now v run tasks))

end Tomiris
