import Tomiris.Spec.Overdue
import Mathlib.Logic.Relation

/-!
# What the audit log says about a step

Every transaction is a sequence of changes to the tables of runs and tasks, each of which is
accounted for by the audit rows written with it, or needs none. `Entry` lists these changes with
their rows exactly as the code writes them, and with what the code has found in the
tables before.

## Key results

- `planned_entry`, `claim_entries`, `record_entry`, `expire_entries`, `recover_entries`,
  `evaluate_entry`, `ingest_entries`: the transactions one by one
- `entries_of_step`: every action of the system
-/

namespace Tomiris

open Dispatch Recovery Quorum Planner

/-- A change of a task row that the log passes over. -/
structure Unlogged (t t' : AgentTask) : Prop where
  columns : t'.columns = t.columns
  attempts : t'.attemptCount = t.attemptCount
  dispatching : t'.status = .dispatching → t.status = .dispatching
  terminal : terminal t.status = true → terminal t'.status = true

/-- A task that does not change needs no entry. -/
theorem Unlogged.refl (t : AgentTask) : Unlogged t t := ⟨rfl, rfl, id, id⟩

/-- The audit rows of a new run. -/
def planEvents (now : Int) (args : CreateArgs) (run : OrchestrationRun) (new : List AgentTask) :
    List AuditEvent :=
  runCreatedEvent now args run :: new.map (taskCreatedEvent now args run) ++
    if run.metadata.missingRequired ≠ [] then [planFailedEvent now args run] else []

/-- A change with the audit rows that account for it. -/
inductive Entry (s s' : Store) : Prop
  | unlogged : s'.runs = s.runs → s.tasks.Moves Unlogged s'.tasks →
      s'.auditEvents = s.auditEvents → Entry s s'
  /-- An event that is about no run. -/
  | foreign {e : AuditEvent} : s'.runs = s.runs → s'.tasks = s.tasks →
      s'.auditEvents = s.auditEvents ++ [e] → e.metadata.lookup "orchestration_run_id" = none →
      e.metadata.lookup "task_id" = none → Entry s s'
  | planned {now : Int} {args : CreateArgs} {run : OrchestrationRun} {new : List AgentTask} :
      Planned now args s s' run new →
      s'.auditEvents = s.auditEvents ++ planEvents now args run new → Entry s s'
  | started {w : DispatchWorker} {now : Int} {t : AgentTask} {run : OrchestrationRun} :
      s.tasks.get? t.taskId = some t → terminal t.status = false →
      s.runs.get? run.orchestrationRunId = some run →
      s'.runs = s.runs → s'.tasks = s.tasks.set (leasedTask w now t) →
      s'.auditEvents = s.auditEvents ++ [dispatchStartedEvent w now (leasedTask w now t) run] →
      Entry s s'
  | acknowledged {now : Int} {result : DispatchResult} {t : AgentTask} {run : OrchestrationRun} :
      s.tasks.get? t.taskId = some t → t.status = .dispatching →
      s.runs.get? run.orchestrationRunId = some run →
      s'.runs = s.runs.set { run with status := .collecting } →
      s'.tasks = s.tasks.set (ackedTask now result t) →
      s'.auditEvents = s.auditEvents ++ [resultEvent now .taskAcknowledged t.causationId run t
        .accepted none [("attempt", .nat t.attemptCount),
          ("latency_ms", .num (result.latencyMs.getD 0))]] → Entry s s'
  | retried {now at_ : Int} {result : DispatchResult} {t : AgentTask} {state : AgentRuntimeState}
      {run : OrchestrationRun} {threshold : Nat} :
      s.tasks.get? t.taskId = some t → t.status = .dispatching →
      s.runs.get? run.orchestrationRunId = some run → s'.runs = s.runs →
      s'.tasks = s.tasks.set (retriedTask now at_ result t) →
      s'.auditEvents = s.auditEvents ++ (circuitOpenedEvents now result t state run threshold ++
        [resultEvent now .taskRetryScheduled t.causationId run t .rejected result.errorCode
          [("attempt", .nat t.attemptCount), ("dispatch_after", .time at_)]]) → Entry s s'
  | failed {now : Int} {result : DispatchResult} {t : AgentTask} {state : AgentRuntimeState}
      {run : OrchestrationRun} {threshold : Nat} :
      s.tasks.get? t.taskId = some t → t.status = .dispatching →
      s.runs.get? run.orchestrationRunId = some run → s'.runs = s.runs →
      s'.tasks = s.tasks.set (failedTask now result t) →
      s'.auditEvents = s.auditEvents ++ (circuitOpenedEvents now result t state run threshold ++
        [resultEvent now .taskFailed t.causationId run t .rejected result.errorCode
          [("attempt", .nat t.attemptCount)]]) → Entry s s'
  | expired {now : Int} {t : AgentTask} {run : OrchestrationRun} :
      s.tasks.get? t.taskId = some t → terminal t.status = false →
      s.runs.get? run.orchestrationRunId = some run → s'.runs = s.runs →
      s'.tasks = s.tasks.set (expiredTask now t) →
      s'.auditEvents = s.auditEvents ++ [resultEvent now .taskTimedOut t.causationId run t
        .rejected (some "AGENT_ACK_TIMEOUT") []] → Entry s s'
  | recovered {now : Int} {run : OrchestrationRun} {count : Nat} :
      s.runs.get? run.orchestrationRunId = some run → finalised run.status = false →
      s.tasks.Moves Unlogged s'.tasks → s'.runs = s.runs.set (reopenedRun run) →
      s'.auditEvents = s.auditEvents ++ [recoveredEvent now run count] → Entry s s'
  | finalised {now : Int} {run : OrchestrationRun} {v : Verdict} :
      Finalises now run.orchestrationRunId s run v →
      s' = finalisedStore now run.orchestrationRunId s run v → Entry s s'
  | received {now : Int} {e : SignalEnvelope} {t : AgentTask} {hash : Sha256} {requestId : UUID} :
      s.tasks.get? t.taskId = some t → terminal t.status = false → t.agentId = e.agentId →
      (s.runs.get? t.orchestrationRunId).isSome → s'.runs = s.runs →
      s'.tasks = s.tasks.set (Ingest.receivedTask now t) →
      s'.auditEvents = s.auditEvents ++ [Ingest.taskReceivedEvent now e t hash requestId] →
      Entry s s'

/-- A sequence of such changes. -/
abbrev Entries : Store → Store → Prop := Relation.ReflTransGen Entry

/-- A change outside of the tables of runs, tasks and events. -/
theorem Entry.of_same {s s' : Store} (ht : s'.tasks = s.tasks) (hr : s'.runs = s.runs)
    (he : s'.auditEvents = s.auditEvents) : Entry s s' :=
  .unlogged hr (.of_eq ht Unlogged.refl) he

/-- A task that changes without one. -/
theorem Entry.set_task {s s' : Store} {t t' : AgentTask} (hrow : s.tasks.get? t.taskId = some t)
    (h : Unlogged t t') (ht : s'.tasks = s.tasks.set t') (hr : s'.runs = s.runs)
    (he : s'.auditEvents = s.auditEvents) : Entry s s' := by
  refine .unlogged hr ?_ he
  rw [ht]
  exact .set_of_get? hrow (taskId_of_columns h.columns) h Unlogged.refl

/-! ## Planning -/

/-- Each task of a plan has its entry. -/
private theorem createTasks_entries {now : Int} {args : CreateArgs} {run : OrchestrationRun}
    {taskId : Nat → UUID} {i : Nat} {assigned : List (CapabilityRequirement × RoutedAgent)}
    {s s' : Store} {u : Unit} (h : createTasks now args run taskId i assigned s = (.ok u, s')) :
    ∃ new, s'.tasks.rows = s.tasks.rows ++ new ∧ s'.runs = s.runs ∧
      s'.auditEvents = s.auditEvents ++ new.map (taskCreatedEvent now args run) := by
  -- over the assignments: a row and its event, then the rest
  induction assigned generalizing i s with
  | nil =>
    simp only [createTasks, Tx.pure_ok] at h
    obtain ⟨-, rfl⟩ := h
    exact ⟨[], by simp, rfl, by simp⟩
  | cons pair rest ih =>
    obtain ⟨requirement, routed⟩ := pair
    simp only [createTasks, Tx.bind_ok, Tx.attempt_mapError_ok, Tx.modify_ok] at h
    obtain ⟨_, s₁, hins, _, s₂, rfl, hrest⟩ := h
    obtain ⟨-, tasks, htab, rfl⟩ := Store.insertTask_ok.mp hins
    obtain ⟨-, hrows⟩ := Table.insert?_eq_some.mp htab
    obtain ⟨new, htasks, hruns, hevents⟩ := ih hrest
    refine ⟨planTask now args run (taskId i) requirement routed :: new, ?_, hruns, ?_⟩
    · rw [htasks, Store.addEvent_tasks, hrows, List.append_assoc, List.singleton_append]
    · rw [hevents, Store.addEvent_auditEvents, List.append_assoc, List.singleton_append,
        List.map_cons]

/-- The run of a plan has one, and then its tasks. -/
private theorem createRun_entries {now : Int} {args : CreateArgs} {runId correlationId : UUID}
    {context : PyValue} {taskId : Nat → UUID} {s s' : Store} {plan : OrchestrationPlan}
    (h : createRun now args runId correlationId context taskId s = (.ok plan, s')) :
    ∃ run new, s'.runs.rows = s.runs.rows ++ [run] ∧ s'.tasks.rows = s.tasks.rows ++ new ∧
      s'.auditEvents = s.auditEvents ++ planEvents now args run new := by
  simp only [createRun, Tx.bind_ok, Tx.need_ok, Tx.raiseIf_ok, Tx.read_ok,
    Tx.attempt_mapError_ok, Tx.modify_ok, Tx.pure_ok] at h
  obtain ⟨_, _, ⟨-, rfl⟩, _, _, ⟨-, rfl⟩, _, _, ⟨rfl, rfl⟩, run, s, ⟨hrun, rfl⟩, _, s₁, hins, _, s₂,
    rfl, _, s₃, htasks, _, s₄, hlast, -, rfl⟩ := h
  obtain ⟨-, runs, htab, rfl⟩ := Store.insertRun_ok.mp hins
  obtain ⟨-, hrows⟩ := Table.insert?_eq_some.mp htab
  obtain ⟨new, hnew, hruns, hevents⟩ := createTasks_entries htasks
  -- the last event is there only if a capability is missing
  have hruns' : s'.runs.rows = s.runs.rows ++ [run] := by
    rw [hlast]
    split <;> simp [hruns, hrows]
  have htasks' : s'.tasks.rows = s.tasks.rows ++ new := by
    rw [hlast]
    split <;> simp [hnew]
  refine ⟨run, new, hruns', htasks', ?_⟩
  rw [hlast, planEvents]
  split <;> simp [hevents]

/-- `create` stores nothing, or a run with the audit rows of `planEvents`. -/
theorem planned_entry (now : Int) (args : CreateArgs) (draws : PlanDraws) (s : Store) :
    Entry s (Tomiris.create now args draws s).2 := by
  have hcases := create_cases now args draws s
  cases h : Tomiris.create now args draws s with
  | mk r s' =>
    rw [h] at hcases
    rcases hcases with heq | ⟨run, new, hplanned⟩
    · rw [show (r, s').2 = s from heq]
      exact .of_same rfl rfl rfl
    · cases r with
      | error e =>
        rw [show (Except.error e, s').2 = s from create_restores now args draws s s' e h]
        exact .of_same rfl rfl rfl
      | ok plan =>
        simp only [Tomiris.create, Tx.bind_ok, Tx.raiseIf_ok, Tx.attemptValue_ok, Tx.begin_ok,
          Tx.read_ok] at h
        obtain ⟨_, _, ⟨-, rfl⟩, context, _, ⟨-, rfl⟩, existing, _, ⟨hex, rfl⟩, h⟩ := h
        cases existing with
        | some run =>
          rw [Tx.read_ok] at h
          exact .of_same (by rw [h.2]) (by rw [h.2]) (by rw [h.2])
        | none =>
          -- the rows are those of the specification
          obtain ⟨run', new', hruns, htasks, hevents⟩ := createRun_entries h
          have hrun : run' = run := by
            have := hruns.symm.trans hplanned.runs
            simpa using this
          have hnew : new' = new := List.append_cancel_left (htasks.symm.trans hplanned.tasks)
          rw [hrun, hnew] at hevents
          exact .planned hplanned hevents

/-! ## Claiming -/

/-- A task is leased for the run that was read. -/
private theorem decideClaim_run {now : Int} {run : Option OrchestrationRun}
    {endpoint : Option AgentEndpoint} {state : AgentRuntimeState} {r : OrchestrationRun}
    {e : AgentEndpoint} (h : decideClaim now run endpoint state = .lease r e) : run = some r := by
  unfold decideClaim at h
  split at h
  · cases h
  · repeat' split at h
    all_goals cases h
    rfl

/-- A claim logs an attempt, a cancelled task, or nothing. -/
theorem claimTask_entry (w : DispatchWorker) (now : Int) {t : AgentTask} {s : Store}
    (hrow : s.tasks.get? t.taskId = some t) (hopen : terminal t.status = false) :
    Entry s (claimTask w now t s).1 := by
  simp only [claimTask, lockRuntimeState_runs]
  -- cancelled, without an endpoint, or behind an open circuit: no attempt is logged
  split
  · have hcancel : Unlogged t (cancelledTask now t) :=
      ⟨rfl, rfl, fun h => (by cases h), fun _ => rfl⟩
    exact .set_task hrow hcancel (by simp) (by simp) (by simp)
  · have hfail : Unlogged t (endpointMissingTask now t) :=
      ⟨rfl, rfl, fun h => (by cases h), fun _ => rfl⟩
    exact .set_task hrow hfail (by simp) (by simp) (by simp)
  · rename_i openUntil _
    have hwait : Unlogged t (circuitOpenTask now openUntil t) :=
      ⟨rfl, rfl, fun h => (by cases h), fun h => by rw [hopen] at h; cases h⟩
    exact .set_task hrow hwait (by simp) (by simp) (by simp)
  -- leased: the attempt is numbered
  · rename_i run endpoint hlease
    have hrun := decideClaim_run hlease
    exact @Entry.started _ _ w now t run hrow hopen
      (Table.get?_of_mem (Table.mem_of_get? hrun)) (by simp) (by simp) (by simp)

/-- The rows of the later turns are as the query returned them. -/
private theorem claimTask_keeps (w : DispatchWorker) (now : Int) {t u : AgentTask} {s : Store}
    (hne : t.taskId ≠ u.taskId) (hrow : s.tasks.get? u.taskId = some u) :
    (claimTask w now t s).1.tasks.get? u.taskId = some u := by
  obtain ⟨t', h⟩ := claimTask_spec w now t s
  have hkey : t'.taskId = t.taskId := by cases h.move <;> rfl
  rw [h.tasks, Table.get?_set_ne (by rw [key_task, hkey]; exact hne)]
  exact hrow

/-- A batch of claims, one entry after the other. -/
theorem claim_entries (w : DispatchWorker) (now : Int) {picked : List AgentTask} {s : Store}
    (hrows : ∀ t ∈ picked, s.tasks.get? t.taskId = some t)
    (hopen : ∀ t ∈ picked, terminal t.status = false) (hnd : (picked.map (·.taskId)).Nodup) :
    Entries s (claim w now picked s).1 := by
  induction picked generalizing s with
  | nil => exact .refl
  | cons t rest ih =>
    rw [List.map_cons, List.nodup_cons] at hnd
    have hfirst := claimTask_entry w now (hrows t (List.mem_cons_self ..))
      (hopen t (List.mem_cons_self ..))
    have hrest := ih (s := (claimTask w now t s).1) (fun u hu => by
      refine claimTask_keeps w now (fun heq => ?_) (hrows u (List.mem_cons_of_mem _ hu))
      exact hnd.1 (heq ▸ List.mem_map_of_mem hu))
      (fun u hu => hopen u (List.mem_cons_of_mem _ hu)) hnd.2
    exact .head hfirst hrest

/-! ## Recording a result -/

/-- A result logs how its attempt ended. -/
theorem record_entry (w : DispatchWorker) (now : Int) (rv : Rat) (c : DispatchCommand)
    (result : DispatchResult) (s : Store) : Entry s (recordResult w now rv c result s) := by
  rcases recordResult_cases w now rv c result s with h | ⟨t, state, run, hrec, h⟩
  · rw [h]
    exact .of_same rfl rfl rfl
  · have hrow : s.tasks.get? t.taskId = some t := Table.get?_of_mem (Table.mem_of_get? hrec.task)
    have hrun : s.runs.get? run.orchestrationRunId = some run :=
      Table.get?_of_mem (Table.mem_of_get? hrec.run)
    rw [h]
    -- an ACK, another attempt or the end
    by_cases hack : result.disposition = .acknowledged
    · rw [if_pos hack]
      exact .acknowledged hrow hrec.dispatching hrun rfl rfl rfl
    · rw [if_neg hack]
      unfold recordFailure
      simp only []
      split
      · exact .retried hrow hrec.dispatching hrun rfl rfl (List.append_assoc ..)
      · exact .failed hrow hrec.dispatching hrun rfl rfl (List.append_assoc ..)

/-! ## Expiring dispatch deadlines -/

/-- A task that expires has not ended. -/
theorem not_terminal_of_overdue {now : Int} {t : AgentTask}
    (h : overdueForDispatch now t = true) : terminal t.status = false := by
  simp only [overdueForDispatch, Bool.and_eq_true, Bool.or_eq_true, decide_eq_true_eq] at h
  rcases h.1 with (hs | hs) | hs <;> rw [hs] <;> rfl

/-- Expiry logs a failure. -/
theorem expireTask_entry (now : Int) {t : AgentTask} {s : Store}
    (hrow : s.tasks.get? t.taskId = some t) (hopen : terminal t.status = false) :
    Entry s (expireTask now t s) := by
  unfold expireTask
  simp only [Store.setTask_runs]
  split
  · have hexpire : Unlogged t (expiredTask now t) :=
      ⟨rfl, rfl, fun h => (by cases h), fun _ => rfl⟩
    exact .set_task hrow hexpire rfl rfl rfl
  · rename_i run hrun
    exact .expired hrow hopen (Table.get?_of_mem (Table.mem_of_get? hrun)) rfl rfl rfl

/-- The other tasks of the batch are as they were. -/
private theorem expireTask_keeps (now : Int) {t u : AgentTask} {s : Store}
    (hne : t.taskId ≠ u.taskId) (hrow : s.tasks.get? u.taskId = some u) :
    (expireTask now t s).tasks.get? u.taskId = some u := by
  have htasks : (expireTask now t s).tasks = s.tasks.set (expiredTask now t) := by
    unfold expireTask
    simp only []
    split <;> rfl
  rw [htasks, Table.get?_set_ne (by exact hne)]
  exact hrow

/-- A batch of them. -/
theorem expire_entries (now : Int) {picked : List AgentTask} {s : Store}
    (hrows : ∀ t ∈ picked, s.tasks.get? t.taskId = some t)
    (hopen : ∀ t ∈ picked, terminal t.status = false) (hnd : (picked.map (·.taskId)).Nodup) :
    Entries s (expireDispatchDeadlines now picked s) := by
  induction picked generalizing s with
  | nil => exact .refl
  | cons t rest ih =>
    rw [List.map_cons, List.nodup_cons] at hnd
    have hfirst := expireTask_entry now (hrows t (List.mem_cons_self ..))
      (hopen t (List.mem_cons_self ..))
    have hrest := ih (s := expireTask now t s) (fun u hu => by
      refine expireTask_keeps now (fun heq => ?_) (hrows u (List.mem_cons_of_mem _ hu))
      exact hnd.1 (heq ▸ List.mem_map_of_mem hu))
      (fun u hu => hopen u (List.mem_cons_of_mem _ hu)) hnd.2
    exact .head hfirst hrest

/-! ## Recovery and evaluation -/

/-- A recovered task is logged with its run. -/
theorem recoveredTask_unlogged (now : Int) (s : Store) (t : AgentTask) :
    Unlogged t (recoveredTask now s t) := by
  refine ⟨recoveredTask_columns now s t, ?_, fun h => ?_, fun h => ?_⟩
  · -- no branch counts an attempt
    unfold recoveredTask recoverTask
    repeat' split
    all_goals rfl
  · rwa [recoveredTask_dispatching h] at h
  · rcases (recoveredTask_move now s t).status_of_terminal h with heq | ⟨heq, -⟩
    · rwa [heq]
    · rw [heq]
      rfl

/-- Its tasks are written first. -/
private theorem recoverTasks_keeps (now : Int) (signalled : List UUID) (picked : List AgentTask)
    (s : Store) : (recoverTasks now signalled picked s).runs = s.runs ∧
      (recoverTasks now signalled picked s).auditEvents = s.auditEvents := by
  unfold recoverTasks
  induction picked generalizing s with
  | nil => exact ⟨rfl, rfl⟩
  | cons t rest ih =>
    rw [List.foldl_cons]
    cases recoverTask now signalled t with
    | none => exact ih s
    | some t' => exact ih (s.setTask t')

/-- And then one row for the run. -/
theorem recoverRun_entry (now : Int) {run : OrchestrationRun} {s : Store}
    (hrow : s.runs.get? run.orchestrationRunId = some run)
    (hopen : Quorum.finalised run.status = false) : Entry s (recoverRun now run s).1 := by
  -- repairing logs nothing for a task
  have htasks : s.tasks.Moves Unlogged (recoverRun now run s).1.tasks := by
    apply (recoverRun_tasks now run s).mono
    intro t _ t' ht'
    rw [ht']
    split
    · exact recoveredTask_unlogged now s t
    · exact .refl t
  obtain ⟨hruns, hevents⟩ := recoverTasks_keeps now (signalTaskIds s run.orchestrationRunId)
    (s.tasksOf run.orchestrationRunId) s
  unfold recoverRun at htasks ⊢
  simp only [] at htasks ⊢
  split
  -- one event for the run, if anything changed
  · rename_i hchanged
    rw [if_pos hchanged] at htasks
    refine @Entry.recovered _ _ now run (s.tasksOf run.orchestrationRunId).length hrow hopen
      htasks ?_ ?_
    · rw [Store.addEvent_runs, Store.setRun_runs, hruns]
    · rw [Store.addEvent_auditEvents, Store.setRun_auditEvents, hevents]
  · rename_i hsame
    rw [if_neg hsame] at htasks
    exact .unlogged hruns htasks hevents

/-- The other runs of the pass are as they were. -/
private theorem recoverRun_keeps (now : Int) {run r : OrchestrationRun} {s : Store}
    (hne : run.orchestrationRunId ≠ r.orchestrationRunId)
    (hrow : s.runs.get? r.orchestrationRunId = some r) :
    (recoverRun now run s).1.runs.get? r.orchestrationRunId = some r := by
  obtain ⟨hruns, -⟩ := recoverTasks_keeps now (signalTaskIds s run.orchestrationRunId)
    (s.tasksOf run.orchestrationRunId) s
  have hid : (reopenedRun run).orchestrationRunId = run.orchestrationRunId := by
    unfold reopenedRun
    -- the only run that is written is another one
    split <;> rfl
  unfold recoverRun
  simp only []
  split
  · rw [Store.addEvent_runs, Store.setRun_runs, hruns,
      Table.get?_set_ne (by rw [key_run, hid]; exact hne)]
    exact hrow
  · rw [hruns]
    exact hrow

/-- A recovery pass. -/
theorem recover_entries (now : Int) {picked : List OrchestrationRun} {s : Store}
    (hrows : ∀ r ∈ picked, s.runs.get? r.orchestrationRunId = some r)
    (hopen : ∀ r ∈ picked, Quorum.finalised r.status = false)
    (hnd : (picked.map (·.orchestrationRunId)).Nodup) :
    Entries s (recoverRuns now picked s).1 := by
  induction picked generalizing s with
  | nil => exact .refl
  | cons run rest ih =>
    rw [List.map_cons, List.nodup_cons] at hnd
    have hfirst := recoverRun_entry now (hrows run (List.mem_cons_self ..))
      (hopen run (List.mem_cons_self ..))
    have hrest := ih (s := (recoverRun now run s).1) (fun r hr => by
      refine recoverRun_keeps now (fun heq => ?_) (hrows r (List.mem_cons_of_mem _ hr))
      exact hnd.1 (heq ▸ List.mem_map_of_mem hr))
      (fun r hr => hopen r (List.mem_cons_of_mem _ hr)) hnd.2
    exact .head hfirst hrest

/-- A verdict logs itself. -/
theorem evaluate_entry (now : Int) (id : UUID) (s : Store) : Entry s (evaluated now id s) := by
  rcases evaluated_cases now id s with h | ⟨run, v, hv, h⟩
  · rw [h]
    exact .of_same rfl rfl rfl
  · rw [h]
    obtain rfl : run.orchestrationRunId = id := Table.key_of_get? hv.row
    exact .finalised hv rfl

/-! ## Ingestion -/

/-- A signal logs its task and its ingestion. -/
theorem completeTask_entry (now : Int) {e : SignalEnvelope} (hash : Sha256) (requestId : UUID)
    {t : AgentTask} {s : Store} (hrow : s.tasks.get? t.taskId = some t)
    (hopen : terminal t.status = false) (hagent : t.agentId = e.agentId)
    (hrun : (s.runs.get? t.orchestrationRunId).isSome) :
    Entry s (Ingest.completeTask now e hash requestId (some t) s) := by
  have hstores : (Ingest.completeTask now e hash requestId (some t) s).runs = s.runs ∧
      (Ingest.completeTask now e hash requestId (some t) s).tasks =
        s.tasks.set (Ingest.receivedTask now t) ∧
      (Ingest.completeTask now e hash requestId (some t) s).auditEvents =
        s.auditEvents ++ [Ingest.taskReceivedEvent now e t hash requestId] := by
    unfold Ingest.completeTask
    simp only []
    split <;> exact ⟨rfl, rfl, rfl⟩
  exact .received hrow hopen hagent hrun hstores.1 hstores.2.1 hstores.2.2

/-- Ingestion logs what it stores, or nothing. -/
theorem ingest_entries (maxTtl : Nat) (now : Int) (e : SignalEnvelope) (nonce : String)
    (hash : Sha256) (requestId : UUID) {s : Store} (hplan : Planning s) :
    Entries s (ingest maxTtl now e nonce hash requestId s).2 := by
  cases h : ingest maxTtl now e nonce hash requestId s with
  | mk r s' =>
    cases r with
    | error err =>
      rw [show (Except.error err, s').2 = s from
        Ingest.ingest_restores maxTtl now e nonce hash requestId s s' err h]
    | ok u =>
      obtain ⟨task, nonces, signals, hadm, -, -, rfl⟩ := Ingest.ingest_ok.mp h
      -- the row of the signal first, then that of its task
      have hfirst : Entry s (({ s with nonces, signals } : Store).addEvent
          (Ingest.acceptedEvent now e hash requestId)) := .foreign rfl rfl rfl rfl rfl
      cases task with
      | none => exact .single hfirst
      | some t =>
        obtain ⟨hrow, hcarries, -, hwaits⟩ := hadm.get?_task
        obtain ⟨run, hrun, -⟩ := hplan.run t (Table.mem_of_get? hrow)
        exact .tail (.single hfirst) (completeTask_entry now hash requestId hrow
          (Ingest.awaitsResult_not_terminal hwaits) hcarries.agent
          (Option.isSome_iff_exists.mpr ⟨run, hrun⟩))

/-! ## The system -/

/-- Every action is a sequence of entries. -/
theorem System.entries_of_step {cfg : Config} {sys sys' : System} {a : Action}
    (hplan : Planning sys.store) (hstep : step cfg sys a = some sys') :
    Entries sys.store sys'.store := by
  cases a with
  -- transactions that write rows with events
  | create now args draws =>
    cases hstep
    exact .single (planned_entry now args draws sys.store)
  | ingest now r =>
    cases hstep
    exact ingest_entries _ now r.envelope r.nonce r.payloadHash r.requestId hplan
  | syncAgent _ | syncEndpoint _ | syncSnapshot _ | crash _ =>
    cases hstep
    exact .single (.of_same rfl rfl rfl)
  | claim p now ids =>
    obtain ⟨-, hbatch, rfl⟩ := stepClaim_eq hstep
    exact claim_entries _ now (fun _ ht => Store.get?_of_mem_tasksAt ht)
      (fun t ht => not_terminal_of_claimable (hbatch.due t ht))
      (Store.nodup_tasksAt hbatch.distinct)
  -- actions without a transaction
  | startSend p =>
    obtain ⟨_, _, _, rfl⟩ := stepStartSend_eq hstep
    exact .single (.of_same rfl rfl rfl)
  | deliver p now nonce expires ack => rw [(stepDeliver_eq hstep).1]
  | endSend p result =>
    obtain ⟨_, _, _, rfl⟩ := stepEndSend_eq hstep
    exact .single (.of_same rfl rfl rfl)
  | record p now rv =>
    obtain ⟨c, result, -, rfl⟩ := stepRecord_eq hstep
    exact .single (record_entry (cfg.worker p) now rv c.command result sys.store)
  | expire now ids =>
    simp only [step] at hstep
    split at hstep
    · rename_i hbatch
      cases hstep
      exact expire_entries now (fun _ ht => Store.get?_of_mem_tasksAt ht)
        (fun t ht => not_terminal_of_overdue (hbatch.due t ht))
        (Store.nodup_tasksAt hbatch.distinct)
    · cases hstep
  | recover now ids =>
    simp only [step] at hstep
    split at hstep
    · rename_i hbatch
      cases hstep
      refine recover_entries now (fun _ hr => Store.get?_of_mem_runsAt hr) (fun r hr => ?_)
        (Store.nodup_runsAt hbatch.distinct)
      have hopen := hbatch.unfinished r hr
      rwa [recoverable_eq, Bool.not_eq_true'] at hopen
    · cases hstep
  | evaluate now id =>
    cases hstep
    exact .single (evaluate_entry now id sys.store)
  | recordRejection now requestId reason payloadHash agentId =>
    cases hstep
    exact .single (.foreign rfl rfl rfl rfl rfl)
  | probe now agentId r =>
    cases hstep
    have hsame := recordProbe_same now agentId r sys.store
    exact .single (.of_same hsame.tasks hsame.runs hsame.auditEvents)

end Tomiris
