import Tomiris.System

/-!
# Recovery under READ COMMITTED

In `System` a recovery transaction is one step. Here it is as long as PostgreSQL makes it:
`begin` locks the selected runs, each `read` loads the tasks and signals of the next run with
plain queries, and `commit` writes the columns that the session has changed, by primary key,
to whatever rows are there by then. The other transactions lock the task rows that they
write as they read them, so each of them stays one step (`act`), which waits for the locks
of the open passes:

- the runs of a pass are locked from `begin` on. `evaluate` locks its run, a stored signal
  refers to one, and an ACK updates one unless it is `COLLECTING` already
- the query for the next run flushes the task updates of the runs before, and locks these rows
-/

namespace Tomiris

/-! ## The session of a recovery pass -/

/-- What a pass has loaded for one run. -/
structure ReadRun where
  run : OrchestrationRun
  tasks : List AgentTask
  signalled : List UUID

/-- The value that an `UPDATE` leaves in a column: columns that the session has not changed
    are not written. -/
def written {α : Type} [DecidableEq α] (old new cur : α) : α := if new = old then cur else new

/-- `UPDATE agent_tasks` of the columns that differ between the row as it was loaded and as the
    session left it. Recovery assigns to these columns only. -/
def changedColumns (old new cur : AgentTask) : AgentTask :=
  { cur with
    status := written old.status new.status cur.status
    dispatchAfter := written old.dispatchAfter new.dispatchAfter cur.dispatchAfter
    leaseOwner := written old.leaseOwner new.leaseOwner cur.leaseOwner
    leaseUntil := written old.leaseUntil new.leaseUntil cur.leaseUntil
    signalReceivedAt := written old.signalReceivedAt new.signalReceivedAt cur.signalReceivedAt
    lastErrorCode := written old.lastErrorCode new.lastErrorCode cur.lastErrorCode
    updatedAt := written old.updatedAt new.updatedAt cur.updatedAt }

/-- The changed rows of a run, as loaded and as the session left them. -/
def ReadRun.writes (now : Int) (r : ReadRun) : List (AgentTask × AgentTask) :=
  r.tasks.filterMap fun t => (Recovery.recoverTask now r.signalled t).map (t, ·)

/-- The `UPDATE` of one task row. -/
def writeTask (tasks : Table AgentTask) (w : AgentTask × AgentTask) : Table AgentTask :=
  match tasks.get? w.1.taskId with
  -- `cur` may have been committed after the session read `w.1`
  | some cur => tasks.set (changedColumns w.1 w.2 cur)
  | none => tasks

open Recovery in
/-- What a pass writes for one run. The run itself is locked and still as it was loaded. -/
def ReadRun.commit (now : Int) (s : Store) (r : ReadRun) : Store :=
  let s := { s with tasks := (r.writes now).foldl writeTask s.tasks }
  if changed now r.signalled r.tasks = true ∨ r.run.status = .timedOut then
    (s.setRun (reopenedRun r.run)).addEvent (recoveredEvent now r.run r.tasks.length)
  else s

/-- An open recovery transaction. -/
structure Pass where
  now : Int
  pending : List OrchestrationRun
  reads : List ReadRun := []

/-- The locked runs. -/
def Pass.runIds (pass : Pass) : List UUID :=
  pass.reads.map (·.run.orchestrationRunId) ++ pass.pending.map (·.orchestrationRunId)

/-- The task rows that are updated already, though not committed. -/
def Pass.flushed (pass : Pass) : List UUID :=
  -- the last run's updates wait for the next query or the commit
  pass.reads.dropLast.flatMap fun r => (r.writes pass.now).map (·.1.taskId)

/-! ## Steps -/

/-- The run row that the transaction locks, refers to or updates. -/
def lockedRun (cfg : Config) (sys : System) : Action → Option UUID
  | .evaluate _ runId => some runId
  | .ingest _ r => r.envelope.orchestrationRunId
  -- an unchanged status is not written, so a `COLLECTING` run needs no lock
  | .record p now rv => ((ackedRun cfg sys (.record p now rv)).filter
      (·.status ≠ .collecting)).map (·.orchestrationRunId)
  | _ => none

/-- The task rows that the transaction locks. -/
def lockedTasks (sys : System) : Action → List UUID
  | .claim _ _ ids | .expire _ ids => ids
  | .record p _ _ => ((sys.processes p).returned.map (·.1.command.taskId)).toList
  | .ingest _ r => r.envelope.taskId.toList
  | _ => []

/-- The system with its open recovery passes. -/
structure Concurrent where
  sys : System := {}
  passes : List Pass := []

inductive ConcurrentAction where
  /-- A transaction of another component, or a step of a process outside the database. -/
  | act (a : Action)
  /-- The run query of a pass returns the runs `ids`. -/
  | begin (now : Int) (ids : List UUID)
  /-- Pass `k` loads the tasks and signals of its next run. -/
  | read (k : Nat)
  | commit (k : Nat)
  /-- Pass `k` dies, or is rolled back. -/
  | abort (k : Nat)

namespace Concurrent

def lockedRuns (τ : Concurrent) : List UUID := τ.passes.flatMap (·.runIds)

def flushedTasks (τ : Concurrent) : List UUID := τ.passes.flatMap (·.flushed)

/-- The action is not a recovery transaction and waits for no lock. -/
structure Free (cfg : Config) (τ : Concurrent) (a : Action) : Prop where
  notRecover : ∀ now ids, a ≠ .recover now ids
  run : ∀ id ∈ lockedRun cfg τ.sys a, id ∉ τ.lockedRuns
  tasks : ∀ id ∈ lockedTasks τ.sys a, id ∉ τ.flushedTasks

instance decidableNotRecover : ∀ a : Action, Decidable (∀ now ids, a ≠ .recover now ids)
  | .recover now ids => .isFalse fun h => h now ids rfl
  | .syncAgent _ | .syncEndpoint _ | .syncSnapshot _ | .create .. | .claim .. | .startSend _
  | .deliver .. | .endSend .. | .record .. | .crash _ | .expire .. | .evaluate .. | .ingest ..
  | .recordRejection .. | .probe .. => .isTrue fun _ _ h => by cases h

instance (cfg : Config) (τ : Concurrent) (a : Action) : Decidable (Free cfg τ a) :=
  decidable_of_iff ((∀ now ids, a ≠ .recover now ids) ∧
      (∀ id ∈ lockedRun cfg τ.sys a, id ∉ τ.lockedRuns) ∧
      ∀ id ∈ lockedTasks τ.sys a, id ∉ τ.flushedTasks)
    ⟨fun ⟨h₁, h₂, h₃⟩ => ⟨h₁, h₂, h₃⟩, fun ⟨h₁, h₂, h₃⟩ => ⟨h₁, h₂, h₃⟩⟩

/-- The run query skips the runs that another pass has locked. -/
def stepBegin (cfg : Config) (τ : Concurrent) (now : Int) (ids : List UUID) : Option Concurrent :=
  if Recovery.RunBatch τ.sys.store cfg.recoveryBatchSize ids ∧ ∀ id ∈ ids, id ∉ τ.lockedRuns then
    some { τ with passes := τ.passes ++ [{ now := now, pending := τ.sys.store.runsAt ids }] }
  else none

def stepRead (τ : Concurrent) (k : Nat) : Option Concurrent :=
  match τ.passes[k]? with
  | some ⟨now, run :: rest, reads⟩ =>
    -- plain queries: what is committed by now, locked or not
    let loaded : ReadRun :=
      { run := run
        tasks := τ.sys.store.tasksOf run.orchestrationRunId
        signalled := Recovery.signalTaskIds τ.sys.store run.orchestrationRunId }
    some { τ with passes := τ.passes.set k ⟨now, rest, reads ++ [loaded]⟩ }
  | _ => none

def stepCommit (τ : Concurrent) (k : Nat) : Option Concurrent :=
  match τ.passes[k]? with
  -- every selected run has been read
  | some ⟨now, [], reads⟩ =>
    some { sys := { τ.sys with store := reads.foldl (ReadRun.commit now) τ.sys.store }
           passes := τ.passes.eraseIdx k }
  | _ => none

/-- The state after an action, if it is enabled. -/
def step (cfg : Config) (τ : Concurrent) : ConcurrentAction → Option Concurrent
  | .act a =>
    if Free cfg τ a then (System.step cfg τ.sys a).map fun sys => { τ with sys := sys } else none
  | .begin now ids => stepBegin cfg τ now ids
  | .read k => stepRead τ k
  | .commit k => stepCommit τ k
  | .abort k => some { τ with passes := τ.passes.eraseIdx k }

/-- The states that some run leads to. -/
def Reachable (cfg : Config) (τ : Concurrent) : Prop :=
  Transition.Exec (step cfg) Transition.Any {} τ

end Concurrent

end Tomiris
