import Tomiris.Orchestrator.Planner
import Tomiris.Spec.Moves

/-!
# Specification of planning

`create` either leaves the store alone (a repeated run id, or an error) or stores one new
run with one task per assignment.

## Key results

- `create_restores`: an error leaves the store as it was
- `create_cases`: the two outcomes, with the rows of the second one
- `create_snapshot`, `mem_select`: what the second one has found in the other tables
-/

namespace Tomiris

open Planner

/-- A task row that planning wrote for `run`. -/
def PlannedTask (now : Int) (args : CreateArgs) (s : Store) (run : OrchestrationRun)
    (t : AgentTask) : Prop :=
  ∃ id requirement routed, t = planTask now args run id requirement routed ∧
    (requirement, routed) ∈ assignments args s

/-- The tasks `new` are added to `s`, without repeating a key or an assignment. -/
structure TasksAdded (new : List AgentTask) (s s' : Store) : Prop where
  tasks : s'.tasks.rows = s.tasks.rows ++ new
  runs : s'.runs = s.runs
  signals : s'.signals = s.signals
  nonces : s'.nonces = s.nonces
  distinct : (s.tasks.rows.map AgentTask.assignment).Nodup →
    (s'.tasks.rows.map AgentTask.assignment).Nodup
  events : Appends (·.eventType.routine = true) s s'

/-- The effect of storing a new run. -/
structure Planned (now : Int) (args : CreateArgs) (s s' : Store) (run : OrchestrationRun)
    (new : List AgentTask) : Prop where
  fresh : s.runs.get? run.orchestrationRunId = none
  row : ∃ runId correlationId context, run = planRun now args runId correlationId context s
  planned : ∀ t ∈ new, PlannedTask now args s run t
  runs : s'.runs.rows = s.runs.rows ++ [run]
  tasks : s'.tasks.rows = s.tasks.rows ++ new
  signals : s'.signals = s.signals
  nonces : s'.nonces = s.nonces
  distinct : (s.tasks.rows.map AgentTask.assignment).Nodup →
    (s'.tasks.rows.map AgentTask.assignment).Nodup
  events : ∃ es, (∀ e ∈ es, e.eventType.routine = true) ∧
    s'.auditEvents = s.auditEvents ++ es ++
      (if run.metadata.missingRequired ≠ [] then [planFailedEvent now args run] else [])

/-- An insert adds one task, and its event. -/
theorem insertTask_added {now : Int} {args : CreateArgs} {run : OrchestrationRun}
    {t : AgentTask} {s s' : Store} (h : s.insertTask t = .ok s') :
    TasksAdded [t] s (s'.addEvent (taskCreatedEvent now args run t)) := by
  obtain ⟨hadm, tasks, htab, rfl⟩ := Store.insertTask_ok.mp h
  obtain ⟨_, hrows⟩ := Table.insert?_eq_some.mp htab
  refine ⟨hrows, rfl, rfl, rfl, fun hnd => ?_, .one rfl rfl⟩
  simp only [Store.addEvent_tasks, hrows, List.map_append, List.map_singleton]
  refine hnd.append (List.nodup_singleton _) ?_
  simpa using hadm.unique

/-- Inserts one after the other add their tasks. -/
private theorem TasksAdded.cons {t : AgentTask} {new : List AgentTask} {s s' s'' : Store}
    (h : TasksAdded [t] s s') (h' : TasksAdded new s' s'') : TasksAdded (t :: new) s s'' where
  tasks := by rw [h'.tasks, h.tasks, List.append_assoc, List.singleton_append]
  runs := h'.runs.trans h.runs
  signals := h'.signals.trans h.signals
  nonces := h'.nonces.trans h.nonces
  distinct := fun hnd => h'.distinct (h.distinct hnd)
  events := h.events.trans h'.events

/-- The loop of `create` over its assignments. -/
private theorem createTasks_ok {now : Int} {args : CreateArgs} {run : OrchestrationRun}
    {taskId : Nat → UUID} {i : Nat} {assigned : List (CapabilityRequirement × RoutedAgent)}
    {s s' : Store} {u : Unit} (h : createTasks now args run taskId i assigned s = (.ok u, s')) :
    ∃ new, TasksAdded new s s' ∧ ∀ t ∈ new, ∃ id requirement routed,
      t = planTask now args run id requirement routed ∧ (requirement, routed) ∈ assigned := by
  induction assigned generalizing i s with
  | nil =>
    simp only [createTasks, Tx.pure_ok] at h
    obtain ⟨-, rfl⟩ := h
    exact ⟨[], ⟨by simp, rfl, rfl, rfl, id, .none rfl⟩, by simp⟩
  | cons pair rest ih =>
    obtain ⟨requirement, routed⟩ := pair
    simp only [createTasks, Tx.bind_ok, Tx.attempt_mapError_ok, Tx.modify_ok] at h
    obtain ⟨_, s₁, hins, _, s₂, rfl, hrest⟩ := h
    -- the task of this assignment, then those of the rest
    obtain ⟨new, hadd, hnew⟩ := ih hrest
    refine ⟨_, (insertTask_added hins).cons hadd, fun t ht => ?_⟩
    rcases List.mem_cons.mp ht with rfl | ht
    · exact ⟨taskId i, requirement, routed, rfl, List.mem_cons_self ..⟩
    · obtain ⟨id, q, r, hq, hmem⟩ := hnew t ht
      exact ⟨id, q, r, hq, List.mem_cons_of_mem _ hmem⟩

/-- A new run is stored with its tasks. -/
private theorem createRun_ok {now : Int} {args : CreateArgs} {runId correlationId : UUID}
    {context : PyValue} {taskId : Nat → UUID} {s s' : Store} {plan : OrchestrationPlan}
    (h : createRun now args runId correlationId context taskId s = (.ok plan, s')) :
    ∃ run new, Planned now args s s' run new := by
  simp only [createRun, Tx.bind_ok, Tx.need_ok, Tx.raiseIf_ok, Tx.read_ok,
    Tx.attempt_mapError_ok, Tx.modify_ok, Tx.pure_ok] at h
  obtain ⟨_, _, ⟨-, rfl⟩, _, _, ⟨-, rfl⟩, _, _, ⟨rfl, rfl⟩, run, s, ⟨hrun, rfl⟩, _, s₁, hins, _, s₂,
    rfl, _, s₃, htasks, _, s₄, hlast, -, rfl⟩ := h
  -- the run is inserted first, then its tasks, and the status is set last
  obtain ⟨-, runs, htab, rfl⟩ := Store.insertRun_ok.mp hins
  obtain ⟨hfresh, hrows⟩ := Table.insert?_eq_some.mp htab
  obtain ⟨new, hadd, hnew⟩ := createTasks_ok htasks
  obtain ⟨es, hes, hroutine⟩ := hadd.events
  -- the last write touches the run row and the log only
  refine ⟨run, new, ?_⟩
  exact
    { fresh := hfresh
      row := ⟨runId, correlationId, context, hrun⟩
      planned := hnew
      runs := by
        rw [hlast]
        split <;> simp [hadd.runs, hrows]
      tasks := by
        rw [hlast]
        split <;> simp [hadd.tasks]
      signals := by
        rw [hlast]
        split <;> simp [hadd.signals]
      nonces := by
        rw [hlast]
        split <;> simp [hadd.nonces]
      distinct := fun hnd => by
        rw [hlast]
        split <;> exact hadd.distinct hnd
      events := by
        refine ⟨runCreatedEvent now args run :: es, fun e he => ?_, ?_⟩
        · rcases List.mem_cons.mp he with rfl | he
          · exact rfl
          · exact hroutine e he
        · rw [hlast]
          split <;> simp [*] }

/-- A run is only stored for a snapshot that is open and current. -/
private theorem createRun_snapshot {now : Int} {args : CreateArgs} {runId correlationId : UUID}
    {context : PyValue} {taskId : Nat → UUID} {s s' : Store} {plan : OrchestrationPlan}
    (h : createRun now args runId correlationId context taskId s = (.ok plan, s')) :
    ∃ m, s.snapshots.get? args.snapshotId = some m ∧ m.status = .opened ∧ now < m.expiresAt := by
  simp only [createRun, Tx.bind_ok, Tx.need_ok, Tx.raiseIf_ok] at h
  obtain ⟨m, _, ⟨hm, rfl⟩, _, _, ⟨hcurrent, -⟩, -⟩ := h
  rw [not_or, not_not] at hcurrent
  exact ⟨m, hm, hcurrent.1, by omega⟩

/-- An error leaves the store as it was. -/
theorem create_restores (now : Int) (args : CreateArgs) (draws : PlanDraws) :
    (Tomiris.create now args draws).Restores :=
  Tx.restores_bind Tx.keeps_raiseIf fun _ => Tx.restores_bind Tx.keeps_attemptValue fun _ =>
    Tx.restores_begin _

/-- `create` stores nothing or one new run. -/
theorem create_cases (now : Int) (args : CreateArgs) (draws : PlanDraws) (s : Store) :
    (Tomiris.create now args draws s).2 = s ∨
      ∃ run new, Planned now args s (Tomiris.create now args draws s).2 run new := by
  cases h : Tomiris.create now args draws s with
  | mk r s' =>
    cases r with
    | error e => exact .inl (create_restores now args draws s s' e h)
    | ok plan =>
      simp only [Tomiris.create, Tx.bind_ok, Tx.raiseIf_ok, Tx.attemptValue_ok, Tx.begin_ok,
        Tx.read_ok] at h
      -- without an error: the checks, then the run of the same key or a new one
      obtain ⟨_, _, ⟨-, rfl⟩, context, _, ⟨-, rfl⟩, existing, _, ⟨hex, rfl⟩, h⟩ := h
      cases existing with
      | some run =>
        rw [Tx.read_ok] at h
        exact .inl h.2
      | none => exact .inr (createRun_ok h)

/-- `create` stores nothing, or it has found the snapshot open and current. -/
theorem create_snapshot (now : Int) (args : CreateArgs) (draws : PlanDraws) (s : Store) :
    (Tomiris.create now args draws s).2 = s ∨
      ∃ m, s.snapshots.get? args.snapshotId = some m ∧ m.status = .opened ∧ now < m.expiresAt := by
  cases h : Tomiris.create now args draws s with
  | mk r s' =>
    cases r with
    | error e => exact .inl (create_restores now args draws s s' e h)
    | ok plan =>
      simp only [Tomiris.create, Tx.bind_ok, Tx.raiseIf_ok, Tx.attemptValue_ok, Tx.begin_ok,
        Tx.read_ok] at h
      -- a repeated call stores nothing; a first one has read the snapshot
      obtain ⟨_, _, ⟨-, rfl⟩, context, _, ⟨-, rfl⟩, existing, _, ⟨hex, rfl⟩, h⟩ := h
      cases existing with
      | some run =>
        rw [Tx.read_ok] at h
        exact .inl h.2
      | none => exact .inr (createRun_snapshot h)

/-- An agent is only routed if its row enables it for the capability and the asset. -/
theorem mem_select {asset capability : String} {limit : Option Nat} {s : Store}
    {routed : RoutedAgent} (h : routed ∈ select asset capability limit s) :
    ∃ agent, s.agents.get? routed.agentId = some agent ∧ agent.enabled = true ∧
      capability ∈ agent.capabilities ∧ asset ∈ agent.supportedAssets := by
  -- the limit only cuts the list
  have hrouted : routed ∈ select asset capability none s := by
    unfold select at h ⊢
    cases limit with
    | none => exact h
    | some n => exact List.mem_of_mem_take h
  obtain ⟨pair, hpair, hselected⟩ := List.mem_filterMap.mp hrouted
  obtain ⟨agent, endpoint⟩ := pair
  obtain ⟨agent', hrow, hjoin⟩ := List.mem_filterMap.mp hpair
  rw [List.mem_insertionSort] at hrow
  -- the join keeps enabled agents with an enabled endpoint
  split at hjoin
  · split at hjoin
    · rename_i henabled
      cases hjoin
      rw [Bool.and_eq_true] at henabled
      dsimp only at hselected
      split at hselected
      · rename_i hserves
        cases hselected
        exact ⟨agent, Table.get?_of_mem hrow, henabled.1, hserves.1, hserves.2⟩
      · cases hselected
    · cases hjoin
  · cases hjoin

end Tomiris
