import Tomiris.Orchestrator.Quorum
import Tomiris.Orchestrator.Dispatch

/-!
# Recovery

`RecoveryService.reconcile`: one transaction that repairs the tasks of unfinished runs,
then an evaluation of each of these runs.
-/

namespace Tomiris

namespace Recovery

/-- The run statuses that `reconcile` selects. -/
def recoverable : RunStatus → Bool
  | .created | .dispatching | .collecting | .timedOut => true
  | .full | .degraded | .critical | .failed | .cancelled => false

/-- What the run query may return: unfinished runs in order of creation, at most
    `batchSize` of them, without those that another transaction has locked. -/
structure RunBatch (s : Store) (batchSize : Nat) (ids : List UUID) : Prop where
  distinct : ids.Nodup
  unfinished : ∀ r ∈ s.runsAt ids, recoverable r.status = true
  ordered : (s.runsAt ids).Pairwise (fun a b => a.createdAt ≤ b.createdAt)
  limit : ids.length ≤ batchSize

instance (s : Store) (batchSize : Nat) (ids : List UUID) : Decidable (RunBatch s batchSize ids) :=
  decidable_of_iff (ids.Nodup ∧ (∀ r ∈ s.runsAt ids, recoverable r.status = true) ∧
      (s.runsAt ids).Pairwise (fun a b => a.createdAt ≤ b.createdAt) ∧ ids.length ≤ batchSize)
    ⟨fun ⟨h₁, h₂, h₃, h₄⟩ => ⟨h₁, h₂, h₃, h₄⟩, fun ⟨h₁, h₂, h₃, h₄⟩ => ⟨h₁, h₂, h₃, h₄⟩⟩

/-- `signal_task_ids` of a run. -/
def signalTaskIds (s : Store) (runId : UUID) : List UUID :=
  -- `task_id IS NOT NULL` in the query
  s.signals.rows.filterMap (fun g => if g.orchestrationRunId = some runId then g.taskId else none)

/-- A task whose signal is already stored. -/
def repairedTask (now : Int) (t : AgentTask) : AgentTask :=
  { t with
    status := .signalReceived
    signalReceivedAt := some (t.signalReceivedAt.getD now)
    leaseOwner := none
    leaseUntil := none
    updatedAt := now }

/-- A task whose worker's lease has run out. -/
def releasedTask (now : Int) (t : AgentTask) : AgentTask :=
  { t with
    -- the error code stays the same for both, as in the source
    status := if now < t.dispatchDeadline then .retry else .timedOut
    dispatchAfter := now
    leaseOwner := none
    leaseUntil := none
    lastErrorCode := some "WORKER_LEASE_EXPIRED"
    updatedAt := now }

/-- A task whose signal did not come in time. -/
def signalTimeoutTask (now : Int) (t : AgentTask) : AgentTask :=
  { t with
    status := .timedOut
    lastErrorCode := some "AGENT_SIGNAL_TIMEOUT"
    updatedAt := now }

/-- The loop body over tasks: the repaired task, or `none` when no branch is taken. -/
def recoverTask (now : Int) (signalled : List UUID) (t : AgentTask) : Option AgentTask :=
  -- a stored signal wins over every status, the terminal ones included
  if t.taskId ∈ signalled ∧ t.status ≠ .signalReceived then some (repairedTask now t)
  -- `lease_until <= now`, where the claim query asks for `lease_until < now`
  else if t.status = .dispatching ∧ t.leaseUntil.any (· ≤ now) = true then
    some (releasedTask now t)
  else if (t.status = .acknowledged ∨ t.status = .waitingSignal) ∧ t.signalDeadline ≤ now then
    some (signalTimeoutTask now t)
  else none

/-- `for task in tasks` of one run. -/
def recoverTasks (now : Int) (signalled : List UUID) (tasks : List AgentTask) (s : Store) : Store :=
  tasks.foldl (fun s t =>
    match recoverTask now signalled t with
    | some t' => s.setTask t'
    | none => s) s

/-- `changed`. -/
def changed (now : Int) (signalled : List UUID) (tasks : List AgentTask) : Bool :=
  tasks.any (fun t => (recoverTask now signalled t).isSome)

/-- A run left in `TIMED_OUT` goes back to collecting. -/
def reopenedRun (run : OrchestrationRun) : OrchestrationRun :=
  if run.status = .timedOut then { run with status := .collecting } else run

def recoveredEvent (now : Int) (run : OrchestrationRun) (taskCount : Nat) : AuditEvent :=
  orchestrationEvent now .orchestrationRecovered run.correlationId none run.orchestrationRunId
    none none (some run.snapshotId) .accepted none [("reconciled_tasks", .nat taskCount)]

/-- The loop body over runs. -/
def recoverRun (now : Int) (run : OrchestrationRun) (s : Store) : Store × Bool :=
  let tasks := s.tasksOf run.orchestrationRunId
  let signalled := signalTaskIds s run.orchestrationRunId
  let s := recoverTasks now signalled tasks s
  -- a run that needed no repair is not reported, but still evaluated
  if changed now signalled tasks = true ∨ run.status = .timedOut then
    ((s.setRun (reopenedRun run)).addEvent (recoveredEvent now run tasks.length), true)
  else (s, false)

/-- The first transaction of `reconcile`, for the runs that its query returned, and the
    ids it reports as recovered. -/
def recoverRuns (now : Int) : List OrchestrationRun → Store → Store × List UUID
  | [], s => (s, [])
  | run :: rest, s =>
    let (s₁, recovered) := recoverRun now run s
    let (s₂, ids) := recoverRuns now rest s₁
    (s₂, (if recovered then [run.orchestrationRunId] else []) ++ ids)

/-- `evaluate`, for its effect on the store. -/
def evaluated (now : Int) (runId : UUID) (s : Store) : Store :=
  match evaluate now runId s with
  | some (_, s') => s'
  | none => s

end Recovery

open Recovery in
/-- `RecoveryService.reconcile` for the runs that its query returned. `clock i` is what the
    clock shows when the `i`-th evaluation starts. -/
def reconcile (now : Int) (clock : Nat → Int) (ids : List UUID) (s : Store) : Store × List UUID :=
  -- every selected run is evaluated, each in a transaction of its own
  let (s, recovered) := recoverRuns now (s.runsAt ids) s
  (ids.zipIdx.foldl (fun s p => evaluated (clock p.2) p.1 s) s, recovered)

end Tomiris
