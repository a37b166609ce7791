import Tomiris.Spec.Claim
import Tomiris.Spec.Steps

/-!
# The schema of the database

What `tomiris_hub.database.models` asks of a row: column lengths, `CHECK`, `FOREIGN KEY` and
`UNIQUE` constraints. An insert of the model looks at them, an update does not, as the code relies
on PostgreSQL. `Schema` says that they hold of every row, and each transaction keeps them, because
what it writes over a row are the columns of a lease, an error code, times and a status.

## Key results

- `Schema.setTask`, `Schema.setRun`, `Schema.putRuntimeState`: the updates
- `Schema.create`, `Schema.claim`, `Schema.recordResult`, `Schema.expireDispatchDeadlines`,
  `Schema.recoverRuns`, `Schema.evaluated`, `Schema.ingest`, `Schema.recordProbe`: the transactions
-/

namespace Tomiris

open Dispatch Recovery Quorum Planner

/-! ## The rows that the schema admits -/

/-- The column lengths of `agents`. -/
def Agent.columnsOk (a : Agent) : Bool :=
  a.agentId.length ≤ 64 && a.role.length ≤ 64 && a.protocolVersion.length ≤ 16

/-- The column length of `agent_endpoints` and its `ck_agent_endpoint_environment`. -/
def AgentEndpoint.columnsOk (e : AgentEndpoint) : Bool :=
  e.endpointUrl.length ≤ 2048 && ["TEST", "DEVELOPMENT", "PRODUCTION"].contains e.environment

/-- The column length of `agent_runtime_states`. -/
def AgentRuntimeState.columnsOk (state : AgentRuntimeState) : Bool :=
  optionalText 64 state.lastErrorCode

/-- The lengths of the columns of `agent_tasks` that are written after planning. -/
def AgentTask.leaseOk (t : AgentTask) : Bool :=
  optionalText 128 t.leaseOwner && optionalText 64 t.lastErrorCode

/-- The two columns that a lease and its result are written to. -/
theorem leaseOk_iff {t : AgentTask} : t.leaseOk = true ↔
    optionalText 128 t.leaseOwner = true ∧ optionalText 64 t.lastErrorCode = true := by
  simp [AgentTask.leaseOk]

/-- The column lengths of `audit_events`. -/
def AuditEvent.columnsOk (e : AuditEvent) : Bool :=
  optionalText 64 e.reasonCode && optionalText 64 e.agentId && optionalText 64 e.payloadHash

/-- A row of `agent_tasks` whose values fit and whose foreign keys exist. -/
structure AgentTask.Stands (s : Store) (t : AgentTask) : Prop where
  columns : t.columnsOk = true
  lease : t.leaseOk = true
  checks : t.checksOk = true
  run : (s.runs.get? t.orchestrationRunId).isSome
  snapshot : (s.snapshots.get? t.snapshotId).isSome
  agent : (s.agents.get? t.agentId).isSome

/-- A row of `signals` whose values fit and whose foreign keys exist. -/
structure Signal.Stands (s : Store) (g : Signal) : Prop where
  columns : g.columnsOk = true
  checks : g.checksOk = true
  agent : (s.agents.get? g.agentId).isSome
  snapshot : (s.snapshots.get? g.snapshotId).isSome
  task : ∀ id, g.taskId = some id → (s.tasks.get? id).isSome
  run : ∀ id, g.orchestrationRunId = some id → (s.runs.get? id).isSome

/-- The constraints of a task row look at its planned columns and at these two. -/
theorem AgentTask.Stands.of_columns {s : Store} {t t' : AgentTask} (h : t.Stands s)
    (hcols : t'.columns = t.columns) (hlease : t'.leaseOk = true) : t'.Stands s where
  columns := by
    unfold AgentTask.columnsOk
    rw [asset_of_columns hcols, capability_of_columns hcols]
    exact h.columns
  lease := hlease
  checks := by
    -- the deadlines are read from the planned columns too
    have hpriority : t'.priority = t.priority := congrArg TaskColumns.priority hcols
    have hcreated : t'.createdAt = t.createdAt := congrArg TaskColumns.createdAt hcols
    have hdispatch : t'.dispatchDeadline = t.dispatchDeadline :=
      congrArg TaskColumns.dispatchDeadline hcols
    unfold AgentTask.checksOk
    rw [hpriority, hcreated, hdispatch, signalDeadline_of_columns hcols]
    exact h.checks
  run := by
    rw [runId_of_columns hcols]
    exact h.run
  snapshot := by
    rw [snapshotId_of_columns hcols]
    exact h.snapshot
  agent := by
    rw [agentId_of_columns hcols]
    exact h.agent

/-- Every constraint of `models.py`, the primary keys apart, which a `Table` has by itself:
    column lengths, `CHECK`, `FOREIGN KEY` and `UNIQUE`. -/
structure Schema (s : Store) : Prop where
  agents : ∀ a ∈ s.agents.rows, a.columnsOk = true
  endpoints : ∀ e ∈ s.endpoints.rows, e.columnsOk = true ∧ (s.agents.get? e.agentId).isSome
  states : ∀ r ∈ s.runtimeStates.rows, r.columnsOk = true ∧ (s.agents.get? r.agentId).isSome
  runs : ∀ r ∈ s.runs.rows,
    r.columnsOk = true ∧ r.checksOk = true ∧ (s.snapshots.get? r.snapshotId).isSome
  tasks : ∀ t ∈ s.tasks.rows, t.Stands s
  assignments : (s.tasks.rows.map AgentTask.assignment).Nodup
  nonces : ∀ n ∈ s.nonces.rows, n.nonce.length ≤ 256 ∧ (s.agents.get? n.agentId).isSome
  signals : ∀ g ∈ s.signals.rows, g.Stands s
  answers : (s.signals.rows.filterMap (·.taskId)).Nodup
  events : ∀ e ∈ s.auditEvents, e.columnsOk = true

/-- The row with the id of `t` has the columns that planning gave `t`: what the transaction has read
    may be older than the row, but not in these. -/
def Store.HasTask (s : Store) (t : AgentTask) : Prop :=
  ∃ u, s.tasks.get? t.taskId = some u ∧ u.columns = t.columns

/-- The row with the id of `r` has the columns that planning gave `r`. -/
def Store.HasRun (s : Store) (r : OrchestrationRun) : Prop :=
  ∃ u, s.runs.get? r.orchestrationRunId = some u ∧ u.columns = r.columns

namespace Schema

variable {s s' : Store}

/-- An empty database violates nothing. -/
theorem empty : Schema {} where
  agents _ h := by cases h
  endpoints _ h := by cases h
  states _ h := by cases h
  runs _ h := by cases h
  tasks _ h := by cases h
  assignments := List.nodup_nil
  nonces _ h := by cases h
  signals _ h := by cases h
  answers := List.nodup_nil
  events _ h := by cases h

/-- An agent that a row refers to has an id that fits every column. -/
theorem agentId_length (h : Schema s) {id : String} (hid : (s.agents.get? id).isSome) :
    id.length ≤ 64 := by
  obtain ⟨a, ha⟩ := Option.isSome_iff_exists.mp hid
  have hcols := h.agents a (Table.mem_of_get? ha)
  have hkey : a.agentId = id := Table.key_of_get? ha
  simp only [Agent.columnsOk, Bool.and_eq_true, decide_eq_true_eq] at hcols
  rw [← hkey]
  exact hcols.1.1

/-! ## Statements that keep it -/

/-- Rows may be added to the audit table, which refers to no other. -/
theorem log (h : Schema s) {es : List AuditEvent} (hes : ∀ e ∈ es, e.columnsOk = true) :
    Schema { s with auditEvents := s.auditEvents ++ es } :=
  { h with
    tasks := fun t ht => { h.tasks t ht with }
    signals := fun g hg => { h.signals g hg with }
    events := fun e he => by
      rcases List.mem_append.mp he with he | he
      · exact h.events e he
      · exact hes e he }

/-- One row of the audit table. -/
theorem addEvent (h : Schema s) {e : AuditEvent} (he : e.columnsOk = true) :
    Schema (s.addEvent e) := by
  apply h.log
  intro e' he'
  rw [List.mem_singleton.mp he']
  exact he

/-- Agents are never removed, so the rows that refer to one still find it. -/
theorem syncAgent (h : Schema s) {a : Agent} (ha : a.columnsOk = true) :
    Schema { s with agents := s.agents.upsert a } :=
  { h with
    agents := fun b hb => by
      -- the row that was written, or an old one
      rcases Table.mem_of_mem_upsert hb with rfl | hb
      · exact ha
      · exact h.agents b hb
    endpoints := fun e he => ⟨(h.endpoints e he).1, Table.isSome_upsert (h.endpoints e he).2⟩
    states := fun r hr => ⟨(h.states r hr).1, Table.isSome_upsert (h.states r hr).2⟩
    tasks := fun t ht =>
      { h.tasks t ht with agent := Table.isSome_upsert (h.tasks t ht).agent }
    nonces := fun n hn => ⟨(h.nonces n hn).1, Table.isSome_upsert (h.nonces n hn).2⟩
    signals := fun g hg =>
      { h.signals g hg with agent := Table.isSome_upsert (h.signals g hg).agent } }

/-- An endpoint belongs to a registered agent. -/
theorem syncEndpoint (h : Schema s) {e : AgentEndpoint} (he : e.columnsOk = true)
    (hagent : (s.agents.get? e.agentId).isSome) :
    Schema { s with endpoints := s.endpoints.upsert e } :=
  { h with
    endpoints := fun b hb => by
      rcases Table.mem_of_mem_upsert hb with rfl | hb
      · exact ⟨he, hagent⟩
      · exact h.endpoints b hb
    tasks := fun t ht => { h.tasks t ht with }
    signals := fun g hg => { h.signals g hg with } }

/-- Snapshots are never removed either. -/
theorem syncSnapshot (h : Schema s) (m : MarketSnapshot) :
    Schema { s with snapshots := s.snapshots.upsert m } :=
  { h with
    runs := fun r hr => ⟨(h.runs r hr).1, (h.runs r hr).2.1, Table.isSome_upsert (h.runs r hr).2.2⟩
    tasks := fun t ht =>
      { h.tasks t ht with snapshot := Table.isSome_upsert (h.tasks t ht).snapshot }
    signals := fun g hg =>
      { h.signals g hg with snapshot := Table.isSome_upsert (h.signals g hg).snapshot } }

/-- The one runtime state of an agent is written or overwritten. -/
theorem putRuntimeState (h : Schema s) (state : AgentRuntimeState) (hcols : state.columnsOk = true)
    (hagent : (s.agents.get? state.agentId).isSome) : Schema (s.putRuntimeState state) :=
  { h with
    states := fun r hr => by
      rcases Table.mem_of_mem_upsert hr with rfl | hr
      · exact ⟨hcols, hagent⟩
      · exact h.states r hr
    tasks := fun t ht => { h.tasks t ht with }
    signals := fun g hg => { h.signals g hg with } }

/-- An insert that PostgreSQL accepts has passed its constraints. -/
theorem insertRun (h : Schema s) {r : OrchestrationRun} (hins : s.insertRun r = .ok s') :
    Schema s' := by
  obtain ⟨hrow, runs, htab, rfl⟩ := Store.insertRun_ok.mp hins
  obtain ⟨-, hrows⟩ := Table.insert?_eq_some.mp htab
  exact
    { h with
      runs := fun b hb => by
        -- the new run, or an old one
        rcases Table.mem_of_mem_insert htab hb with rfl | hb
        · exact hrow
        · exact h.runs b hb
      tasks := fun t ht =>
        { h.tasks t ht with run := Table.isSome_append hrows (h.tasks t ht).run }
      signals := fun g hg =>
        { h.signals g hg with
          run := fun id hid => Table.isSome_append hrows ((h.signals g hg).run id hid) } }

/-- A task is new, so only its lease is not looked at by the insert. -/
theorem insertTask (h : Schema s) {t : AgentTask} (hlease : t.leaseOk = true)
    (hins : s.insertTask t = .ok s') : Schema s' := by
  obtain ⟨hadm, tasks, htab, rfl⟩ := Store.insertTask_ok.mp hins
  obtain ⟨-, hrows⟩ := Table.insert?_eq_some.mp htab
  exact
    { h with
      tasks := fun b hb => by
        rcases Table.mem_of_mem_insert htab hb with rfl | hb
        · exact ⟨hadm.columns, hlease, hadm.checks, hadm.run, hadm.snapshot, hadm.agent⟩
        · exact { h.tasks b hb with }
      -- the unique index over run, agent, asset and capability
      assignments := by
        rw [hrows, List.map_append, List.map_singleton]
        apply h.assignments.append (List.nodup_singleton _)
        simpa using hadm.unique
      -- the tasks that signals refer to are still there
      signals := fun g hg =>
        { h.signals g hg with
          task := fun id hid => Table.isSome_append hrows ((h.signals g hg).task id hid) } }

/-- A nonce has not been used by its agent. -/
theorem insertNonce (h : Schema s) {n : Nonce} (hins : s.insertNonce n = .ok s') : Schema s' := by
  obtain ⟨hrow, nonces, htab, rfl⟩ := Store.insertNonce_ok.mp hins
  exact
    { h with
      nonces := fun b hb => by
        rcases Table.mem_of_mem_insert htab hb with rfl | hb
        · exact hrow
        · exact h.nonces b hb
      tasks := fun t ht => { h.tasks t ht with }
      signals := fun g hg => { h.signals g hg with } }

/-- A signal is the only one of its task and message. -/
theorem insertSignal (h : Schema s) {g : Signal} (hins : s.insertSignal g = .ok s') :
    Schema s' := by
  obtain ⟨hadm, signals, htab, rfl⟩ := Store.insertSignal_ok.mp hins
  obtain ⟨-, hrows⟩ := Table.insert?_eq_some.mp htab
  exact
    { h with
      tasks := fun t ht => { h.tasks t ht with }
      signals := fun b hb => by
        rcases Table.mem_of_mem_insert htab hb with rfl | hb
        · exact ⟨hadm.columns, hadm.checks, hadm.agent, hadm.snapshot, hadm.task, hadm.run⟩
        · exact { h.signals b hb with }
      answers := by
        rw [hrows, List.filterMap_append]
        cases htask : g.taskId with
        | none => simpa [htask] using h.answers
        | some id =>
          simp only [List.filterMap_cons, htask, List.filterMap_nil]
          apply h.answers.append (List.nodup_singleton _)
          -- the partial unique index: no stored signal answers this task
          simpa using hadm.unique id htask }

/-! ## Updates of rows that the transaction has read -/

/-- A row that is found. -/
theorem hasTask_of_get? {id : UUID} {t : AgentTask} (h : s.tasks.get? id = some t) :
    s.HasTask t :=
  ⟨t, Table.get?_of_mem (Table.mem_of_get? h), rfl⟩

/-- A run that is found. -/
theorem hasRun_of_get? {id : UUID} {r : OrchestrationRun} (h : s.runs.get? id = some r) :
    s.HasRun r :=
  ⟨r, Table.get?_of_mem (Table.mem_of_get? h), rfl⟩

/-- A task that is written over keeps the planned columns that others are compared with. -/
theorem hasTask_set {t t' u : AgentTask} (hu : s.HasTask u) (ht : s.HasTask t)
    (hcols : t'.columns = t.columns) : (s.setTask t').HasTask u :=
  Table.exists_get?_set (taskId_of_columns hcols) hcols ht hu

/-- The same of a run. -/
theorem hasRun_set {r r' u : OrchestrationRun} (hu : s.HasRun u) (hr : s.HasRun r)
    (hcols : r'.columns = r.columns) : (s.setRun r').HasRun u :=
  Table.exists_get?_set (congrArg RunColumns.orchestrationRunId hcols) hcols hr hu

/-- The agent of a task is registered. -/
theorem agent_of_hasTask (h : Schema s) {t : AgentTask} (ht : s.HasTask t) :
    (s.agents.get? t.agentId).isSome := by
  obtain ⟨u, hu, hcols⟩ := ht
  rw [← agentId_of_columns hcols]
  exact (h.tasks u (Table.mem_of_get? hu)).agent

/-- An update of a task may write its lease and error columns, its times and its status. -/
theorem setTask (h : Schema s) (t' : AgentTask) {t : AgentTask} (ht : s.HasTask t)
    (hcols : t'.columns = t.columns) (hlease : t'.leaseOk = true) : Schema (s.setTask t') := by
  obtain ⟨u, hu, hut⟩ := ht
  have hcols' : t'.columns = u.columns := hcols.trans hut.symm
  have hrow := (h.tasks u (Table.mem_of_get? hu)).of_columns hcols' hlease
  -- no row changes its part of the unique index
  have hmoves : s.tasks.Moves (fun a b => b.assignment = a.assignment) (s.tasks.set t') := by
    refine .set_of_get? hu (taskId_of_columns hcols) ?_ fun _ => rfl
    unfold AgentTask.assignment
    rw [runId_of_columns hcols', agentId_of_columns hcols', asset_of_columns hcols',
      capability_of_columns hcols']
  exact
    { h with
      -- the row that is written, or one that stays
      tasks := fun b hb => by
        rcases Table.mem_of_mem_set hb with rfl | hb
        · exact { hrow with }
        · exact { h.tasks b hb with }
      assignments := by
        rw [Store.setTask_tasks, hmoves.map_eq fun _ _ hab => hab]
        exact h.assignments
      signals := fun g hg =>
        { h.signals g hg with
          task := fun id hid => Table.isSome_set ((h.signals g hg).task id hid) } }

/-- An update of a run may write its times, its status and its outcome. -/
theorem setRun (h : Schema s) (r' : OrchestrationRun) {r : OrchestrationRun} (hr : s.HasRun r)
    (hcols : r'.columns = r.columns) : Schema (s.setRun r') := by
  obtain ⟨u, hu, hur⟩ := hr
  have hcols' : r'.columns = u.columns := hcols.trans hur.symm
  -- the constraints of a run look at columns that an update leaves alone
  have hrow : r'.columnsOk = true ∧ r'.checksOk = true ∧
      (s.snapshots.get? r'.snapshotId).isSome := by
    have hold := h.runs u (Table.mem_of_get? hu)
    have hasset : r'.asset = u.asset := congrArg RunColumns.asset hcols'
    have htrigger : r'.triggerType = u.triggerType := congrArg RunColumns.triggerType hcols'
    have hpolicy : r'.policyVersion = u.policyVersion := congrArg RunColumns.policyVersion hcols'
    have hcreated : r'.createdAt = u.createdAt := congrArg RunColumns.createdAt hcols'
    have hdeadline : r'.collectionDeadline = u.collectionDeadline :=
      congrArg RunColumns.collectionDeadline hcols'
    have hsnapshot : r'.snapshotId = u.snapshotId := congrArg RunColumns.snapshotId hcols'
    unfold OrchestrationRun.columnsOk OrchestrationRun.checksOk
    rw [hasset, htrigger, hpolicy, hcreated, hdeadline, hsnapshot]
    exact hold
  exact
    { h with
      runs := fun b hb => by
        rcases Table.mem_of_mem_set hb with rfl | hb
        · exact hrow
        · exact h.runs b hb
      -- a run that is updated is still found by what refers to it
      tasks := fun t ht => { h.tasks t ht with run := Table.isSome_set (h.tasks t ht).run }
      signals := fun g hg =>
        { h.signals g hg with
          run := fun id hid => Table.isSome_set ((h.signals g hg).run id hid) } }

/-- The event of a task names its agent. -/
theorem taskEvent_fits (h : Schema s) {t : AgentTask} (ht : s.HasTask t) {e : AuditEvent}
    (hagent : e.agentId = some t.agentId) (hreason : optionalText 64 e.reasonCode = true)
    (hhash : e.payloadHash = none) : e.columnsOk = true := by
  have hid : optionalText 64 e.agentId = true := by
    rw [hagent, optionalText_some]
    exact h.agentId_length (h.agent_of_hasTask ht)
  unfold AuditEvent.columnsOk
  rw [hreason, hid, hhash]
  rfl

/-! ## Claiming -/

/-- The state of an agent is found, or made with the defaults of its columns. -/
theorem lockRuntimeState (h : Schema s) (now : Int) {agentId : String}
    (hagent : (s.agents.get? agentId).isSome) :
    Schema (Dispatch.lockRuntimeState now agentId s).1 ∧
      (Dispatch.lockRuntimeState now agentId s).2.columnsOk = true ∧
      (Dispatch.lockRuntimeState now agentId s).2.agentId = agentId := by
  unfold Dispatch.lockRuntimeState
  split
  · rename_i state hstate
    exact ⟨h, (h.states state (Table.mem_of_get? hstate)).1, Table.key_of_get? hstate⟩
  · exact ⟨h.putRuntimeState _ rfl hagent, rfl, rfl⟩

/-- A claim writes the worker's id, which fits, and no error code. -/
theorem claimTask (h : Schema s) {w : DispatchWorker} (hw : w.workerId.length ≤ 128) (now : Int)
    {t : AgentTask} (ht : s.HasTask t) (hlease : t.leaseOk = true) :
    Schema (Dispatch.claimTask w now t s).1 := by
  obtain ⟨hlock, hstate, hid⟩ := h.lockRuntimeState now (h.agent_of_hasTask ht)
  have ht' : (Dispatch.lockRuntimeState now t.agentId s).1.HasTask t := by
    unfold Store.HasTask
    rw [lockRuntimeState_tasks]
    exact ht
  have hlease' := leaseOk_iff.mp hlease
  simp only [Dispatch.claimTask]
  split
  -- cancelled, failed or put off: only the row of the task is written
  · exact hlock.setTask (cancelledTask now t) ht' rfl hlease
  · exact hlock.setTask (endpointMissingTask now t) ht' rfl (leaseOk_iff.mpr ⟨hlease'.1, rfl⟩)
  · rename_i openUntil _
    exact hlock.setTask (circuitOpenTask now openUntil t) ht' rfl
      (leaseOk_iff.mpr ⟨hlease'.1, rfl⟩)
  -- leased: the circuit may be probed, and the event is written from the leased row
  · have hprobed : (probedState now (Dispatch.lockRuntimeState now t.agentId s).2).columnsOk =
        true := by
      unfold probedState
      split
      · exact hstate
      · exact hstate
    have hagent := hlock.agent_of_hasTask ht'
    have hput := hlock.putRuntimeState _ hprobed (by rw [probedState_agentId, hid]; exact hagent)
    have hleased : (leasedTask w now t).leaseOk = true :=
      leaseOk_iff.mpr ⟨optionalText_some.mpr hw, hlease'.2⟩
    have hset := hput.setTask (leasedTask w now t) ht' rfl hleased
    apply hset.addEvent
    exact hset.taskEvent_fits (t := leasedTask w now t) (hasTask_set ht' ht' rfl) rfl rfl rfl

/-- A batch, task by task: the other rows of the batch are still there. -/
theorem claim (h : Schema s) {w : DispatchWorker} (hw : w.workerId.length ≤ 128) (now : Int)
    {picked : List AgentTask} (hrows : ∀ t ∈ picked, s.HasTask t)
    (hlease : ∀ t ∈ picked, t.leaseOk = true) : Schema (Dispatch.claim w now picked s).1 := by
  induction picked generalizing s with
  | nil => exact h
  | cons t rest ih =>
    have ht := hrows t (List.mem_cons_self ..)
    -- the first task of the batch, then the rest in the store that it leaves
    have hfirst := h.claimTask hw now ht (hlease t (List.mem_cons_self ..))
    apply ih hfirst
    · intro u hu
      obtain ⟨t', hspec⟩ := claimTask_spec w now t s
      have hcols : t'.columns = t.columns := by cases hspec.move <;> rfl
      unfold Store.HasTask
      rw [hspec.tasks]
      exact hasTask_set (hrows u (List.mem_cons_of_mem _ hu)) ht hcols
    · exact fun u hu => hlease u (List.mem_cons_of_mem _ hu)

/-! ## Recording a result -/

/-- An ACK clears the lease and resets the circuit of the agent. -/
theorem recordAck (h : Schema s) (now : Int) (result : DispatchResult) {t : AgentTask}
    {state : AgentRuntimeState} {run : OrchestrationRun} (ht : s.HasTask t) (hrun : s.HasRun run)
    (hstate : state.columnsOk = true) (hagent : (s.agents.get? state.agentId).isSome) :
    Schema (Dispatch.recordAck now result t state run s) := by
  have hset := h.setTask (ackedTask now result t) ht rfl (leaseOk_iff.mpr ⟨rfl, rfl⟩)
  have hput := hset.putRuntimeState (ackedState now (touchedState now result state)) hstate hagent
  apply (hput.setRun { run with status := .collecting } hrun rfl).addEvent
  exact h.taskEvent_fits ht rfl rfl rfl

/-- The audit row of a circuit that opens carries the error code of the result. -/
theorem circuitOpenedEvents_fit (h : Schema s) (now : Int) {result : DispatchResult}
    {t : AgentTask} (state : AgentRuntimeState) (run : OrchestrationRun) (threshold : Nat)
    (ht : s.HasTask t) (hcode : optionalText 64 result.errorCode = true) :
    ∀ e ∈ circuitOpenedEvents now result t state run threshold, e.columnsOk = true := by
  intro e he
  unfold circuitOpenedEvents at he
  split at he
  · rw [List.mem_singleton.mp he]
    exact h.taskEvent_fits ht rfl hcode rfl
  · cases he

/-- A failure writes its own error code, whether it opens the circuit or not. -/
theorem failureState_fits (w : DispatchWorker) (now : Int) {result : DispatchResult}
    (state : AgentRuntimeState) (hcode : optionalText 64 result.errorCode = true) :
    (failureState w now result state).columnsOk = true ∧
      (failureState w now result state).agentId = state.agentId := by
  unfold failureState
  simp only []
  split
  · exact ⟨hcode, rfl⟩
  · exact ⟨hcode, rfl⟩

/-- A failure writes the error code of its result into the task and the agent's state. -/
theorem recordFailure (h : Schema s) (w : DispatchWorker) (now : Int) (rv : Rat)
    {result : DispatchResult} {t : AgentTask} {state : AgentRuntimeState}
    (run : OrchestrationRun) (ht : s.HasTask t) (hagent : (s.agents.get? state.agentId).isSome)
    (hcode : optionalText 64 result.errorCode = true) :
    Schema (Dispatch.recordFailure w now rv result t state run s) := by
  obtain ⟨hcols, hid⟩ := failureState_fits w now (touchedState now result state) hcode
  have hagent' : (s.agents.get?
      (failureState w now result (touchedState now result state)).agentId).isSome := by
    rw [hid]
    exact hagent
  -- the events of the failure are appended at once, behind what was there before
  have hlogged : ∀ {s' : Store} {e : AuditEvent}, Schema s' → s'.auditEvents = s.auditEvents →
      e.columnsOk = true → Schema
        { s' with
          auditEvents := s.auditEvents ++
            circuitOpenedEvents now result t state run w.circuitFailureThreshold ++ [e] } := by
    intro s' e hs' hevents he
    rw [List.append_assoc, ← hevents]
    apply hs'.log
    intro e' he'
    rcases List.mem_append.mp he' with he' | he'
    · exact h.circuitOpenedEvents_fit now state run _ ht hcode e' he'
    · rw [List.mem_singleton.mp he']
      exact he
  unfold Dispatch.recordFailure
  simp only []
  split
  · have hset := h.setTask
      (retriedTask now (retryAt w now rv t
        (failureState w now result (touchedState now result state))) result t)
      ht rfl (leaseOk_iff.mpr ⟨rfl, hcode⟩)
    apply hlogged (hset.putRuntimeState _ hcols hagent') rfl
    exact h.taskEvent_fits ht rfl hcode rfl
  · have hset := h.setTask (failedTask now result t) ht rfl (leaseOk_iff.mpr ⟨rfl, hcode⟩)
    apply hlogged (hset.putRuntimeState
      { failureState w now result (touchedState now result state) with
        availability := .unavailable } hcols hagent') rfl
    exact h.taskEvent_fits ht rfl hcode rfl

/-- The result of a dispatch, be it an ACK, a retry or a failure. -/
theorem recordResult (h : Schema s) (w : DispatchWorker) (now : Int) (rv : Rat)
    (c : DispatchCommand) {result : DispatchResult}
    (hcode : optionalText 64 result.errorCode = true) :
    Schema (Dispatch.recordResult w now rv c result s) := by
  rcases recordResult_cases w now rv c result s with heq | ⟨t, state, run, hrec, heq⟩
  · rw [heq]
    exact h
  · rw [heq]
    have ht := hasTask_of_get? hrec.task
    have hrun := hasRun_of_get? hrec.run
    obtain ⟨hstate, hagent⟩ := h.states state (Table.mem_of_get? hrec.state)
    split
    · exact h.recordAck now result ht hrun hstate hagent
    · exact h.recordFailure w now rv run ht hagent hcode

/-! ## Expiring, recovering, evaluating -/

/-- A task that misses its dispatch deadline gets a literal error code. -/
theorem expireTask (h : Schema s) (now : Int) {t : AgentTask} (ht : s.HasTask t) :
    Schema (Dispatch.expireTask now t s) := by
  have hset := h.setTask (expiredTask now t) ht rfl (leaseOk_iff.mpr ⟨rfl, rfl⟩)
  unfold Dispatch.expireTask
  simp only []
  split
  · exact hset
  · apply hset.addEvent
    exact h.taskEvent_fits ht rfl rfl rfl

/-- All that miss it. -/
theorem expireDispatchDeadlines (h : Schema s) (now : Int) {picked : List AgentTask}
    (hrows : ∀ t ∈ picked, s.HasTask t) :
    Schema (Dispatch.expireDispatchDeadlines now picked s) := by
  unfold Dispatch.expireDispatchDeadlines
  -- over the overdue tasks: the others are still in the table when their turn comes
  induction picked generalizing s with
  | nil => exact h
  | cons t rest ih =>
    have ht := hrows t (List.mem_cons_self ..)
    have htasks : (Dispatch.expireTask now t s).tasks = s.tasks.set (expiredTask now t) := by
      unfold Dispatch.expireTask
      simp only []
      split <;> rfl
    apply ih (h.expireTask now ht)
    intro u hu
    unfold Store.HasTask
    rw [htasks]
    exact hasTask_set (hrows u (List.mem_cons_of_mem _ hu)) ht rfl

/-- A repair writes the columns of a lease and of an error only. -/
theorem recoverTask_fits {now : Int} {signalled : List UUID} {t t' : AgentTask}
    (hlease : t.leaseOk = true) (h : recoverTask now signalled t = some t') :
    t'.columns = t.columns ∧ t'.leaseOk = true := by
  have hlease' := leaseOk_iff.mp hlease
  unfold recoverTask at h
  split at h
  -- completed, released or timed out
  · cases h
    exact ⟨rfl, leaseOk_iff.mpr ⟨rfl, hlease'.2⟩⟩
  · split at h
    · cases h
      exact ⟨rfl, leaseOk_iff.mpr ⟨rfl, rfl⟩⟩
    · split at h
      · cases h
        exact ⟨rfl, leaseOk_iff.mpr ⟨hlease'.1, rfl⟩⟩
      · cases h

/-- The tasks of a run get literal error codes, or their lease is cleared. -/
theorem recoverTasks (h : Schema s) (now : Int) (signalled : List UUID) {picked : List AgentTask}
    (hrows : ∀ t ∈ picked, s.HasTask t ∧ t.leaseOk = true) :
    Schema (Recovery.recoverTasks now signalled picked s) ∧
      (Recovery.recoverTasks now signalled picked s).runs = s.runs := by
  unfold Recovery.recoverTasks
  -- over the tasks of the run
  induction picked generalizing s with
  | nil => exact ⟨h, rfl⟩
  | cons t rest ih =>
    obtain ⟨ht, hlease⟩ := hrows t (List.mem_cons_self ..)
    have hrest : ∀ u ∈ rest, s.HasTask u ∧ u.leaseOk = true := fun u hu =>
      hrows u (List.mem_cons_of_mem _ hu)
    rw [List.foldl_cons]
    cases hrepair : recoverTask now signalled t with
    -- nothing to repair
    | none => exact ih h hrest
    | some t' =>
      obtain ⟨hcols, hfits⟩ := recoverTask_fits hlease hrepair
      exact ih (h.setTask t' ht hcols hfits) fun u hu =>
        ⟨hasTask_set (hrest u hu).1 ht hcols, (hrest u hu).2⟩

/-- A recovery pass over one run touches the run and its tasks. -/
theorem recoverRun (h : Schema s) (now : Int) {run : OrchestrationRun} (hrun : s.HasRun run) :
    Schema (Recovery.recoverRun now run s).1 ∧
      ∀ r, s.HasRun r → (Recovery.recoverRun now run s).1.HasRun r := by
  have hrows : ∀ t ∈ s.tasksOf run.orchestrationRunId, s.HasTask t ∧ t.leaseOk = true := by
    intro t ht
    have hmem := (Store.mem_tasksOf.mp ht).1
    exact ⟨⟨t, Table.get?_of_mem hmem, rfl⟩, (h.tasks t hmem).lease⟩
  obtain ⟨htasks, hruns⟩ := h.recoverTasks now (signalTaskIds s run.orchestrationRunId) hrows
  -- repairing tasks leaves the table of runs alone
  have hkeep : ∀ r, s.HasRun r → (Recovery.recoverTasks now
      (signalTaskIds s run.orchestrationRunId) (s.tasksOf run.orchestrationRunId) s).HasRun r := by
    intro r hr
    unfold Store.HasRun
    rw [hruns]
    exact hr
  have hcols : (reopenedRun run).columns = run.columns := by
    unfold reopenedRun
    -- a run that needed no repair is not written
    split <;> rfl
  unfold Recovery.recoverRun
  simp only []
  split
  · exact ⟨(htasks.setRun _ (hkeep run hrun) hcols).addEvent rfl,
      fun r hr => hasRun_set (hkeep r hr) (hkeep run hrun) hcols⟩
  · exact ⟨htasks, hkeep⟩

/-- A recovery pass, run by run: the other runs of the pass are still there. -/
theorem recoverRuns (h : Schema s) (now : Int) {picked : List OrchestrationRun}
    (hrows : ∀ r ∈ picked, s.HasRun r) : Schema (Recovery.recoverRuns now picked s).1 := by
  induction picked generalizing s with
  | nil => exact h
  | cons run rest ih =>
    obtain ⟨hfirst, hkeep⟩ := h.recoverRun now (hrows run (List.mem_cons_self ..))
    exact ih hfirst fun r hr => hkeep r (hrows r (List.mem_cons_of_mem _ hr))

/-- A verdict writes the status, the outcome and a time of its run. -/
theorem evaluated (h : Schema s) (now : Int) (runId : UUID) :
    Schema (Recovery.evaluated now runId s) := by
  rcases evaluated_cases now runId s with heq | ⟨run, v, hv, heq⟩
  · rw [heq]
    exact h
  · rw [heq]
    have hset := h.setRun (finalisedRun now v run) (hasRun_of_get? hv.row) rfl
    apply hset.addEvent
    -- the reasons of a verdict are literals
    have hreason : optionalText 64 v.reason = true := by
      have hdecided := hv.decided
      unfold Quorum.decide at hdecided
      simp only [] at hdecided
      repeat' split at hdecided
      all_goals cases hdecided
      all_goals decide
    unfold AuditEvent.columnsOk
    simp only [finalisationEvent, orchestrationEvent, hreason, Bool.true_and]
    rfl

/-! ## Planning -/

/-- The tasks of a plan are inserted one by one. -/
private theorem createTasks (h : Schema s) {now : Int} {args : CreateArgs}
    {run : OrchestrationRun} {taskId : Nat → UUID} {i : Nat}
    {assigned : List (CapabilityRequirement × RoutedAgent)} {u : Unit}
    (hrun : Planner.createTasks now args run taskId i assigned s = (.ok u, s')) : Schema s' := by
  -- over the assignments: the task, then the event that refers to it
  induction assigned generalizing i s with
  | nil =>
    simp only [Planner.createTasks, Tx.pure_ok] at hrun
    rw [hrun.2]
    exact h
  | cons pair rest ih =>
    obtain ⟨requirement, routed⟩ := pair
    simp only [Planner.createTasks, Tx.bind_ok, Tx.attempt_mapError_ok, Tx.modify_ok] at hrun
    obtain ⟨_, s₁, hins, _, s₂, rfl, hrest⟩ := hrun
    have hset : Schema s₁ := h.insertTask rfl hins
    have htask : s₁.HasTask (planTask now args run (taskId i) requirement routed) := by
      obtain ⟨-, tasks, htab, rfl⟩ := Store.insertTask_ok.mp hins
      obtain ⟨-, hrows⟩ := Table.insert?_eq_some.mp htab
      exact ⟨_, Table.get?_of_mem (by rw [hrows]; simp), rfl⟩
    apply ih _ hrest
    apply hset.addEvent
    exact hset.taskEvent_fits htask rfl rfl rfl

/-- A run and its tasks are inserted. -/
private theorem createRun (h : Schema s) {now : Int} {args : CreateArgs}
    {runId correlationId : UUID} {context : PyValue} {taskId : Nat → UUID}
    {plan : OrchestrationPlan}
    (hrun : Planner.createRun now args runId correlationId context taskId s = (.ok plan, s')) :
    Schema s' := by
  simp only [Planner.createRun, Tx.bind_ok, Tx.need_ok, Tx.raiseIf_ok, Tx.read_ok,
    Tx.attempt_mapError_ok, Tx.modify_ok, Tx.pure_ok] at hrun
  obtain ⟨_, _, ⟨-, rfl⟩, _, _, ⟨-, rfl⟩, _, _, ⟨rfl, rfl⟩, run, s, ⟨hrun, rfl⟩, _, s₁, hins, _, s₂,
    rfl, _, s₃, htasks, _, s₄, hlast, -, rfl⟩ := hrun
  have hstored : Schema (s₁.addEvent (runCreatedEvent now args run)) :=
    (h.insertRun hins).addEvent rfl
  have hplanned := hstored.createTasks htasks
  rw [hlast]
  split
  · exact hplanned.addEvent rfl
  · exact hplanned

/-- Planning, which rolls back if an insert is refused. -/
theorem create (h : Schema s) (now : Int) (args : CreateArgs) (draws : PlanDraws) :
    Schema (Tomiris.create now args draws s).2 := by
  cases hcreate : Tomiris.create now args draws s with
  | mk r s' =>
    cases r with
    -- the session rolls back
    | error e =>
      rw [show (Except.error e, s').2 = s from create_restores now args draws s s' e hcreate]
      exact h
    | ok plan =>
      simp only [Tomiris.create, Tx.bind_ok, Tx.raiseIf_ok, Tx.attemptValue_ok, Tx.begin_ok,
        Tx.read_ok] at hcreate
      obtain ⟨_, _, ⟨-, rfl⟩, context, _, ⟨-, rfl⟩, existing, _, ⟨-, rfl⟩, hcreate⟩ := hcreate
      cases existing with
      -- a plan that exists is read back
      | some run =>
        rw [Tx.read_ok] at hcreate
        rw [hcreate.2]
        exact h
      | none => exact h.createRun hcreate

/-! ## Ingesting -/

/-- The task of a signal is received, which clears its lease. -/
private theorem completeTask (h : Schema s) {now : Int} {e : SignalEnvelope} {hash : Sha256}
    {requestId : UUID} {task : Option AgentTask} (hagent : (s.agents.get? e.agentId).isSome)
    (htask : ∀ t, task = some t → s.HasTask t ∧ t.leaseOk = true) :
    Schema (Ingest.completeTask now e hash requestId task s) := by
  cases task with
  | none => exact h
  | some t =>
    obtain ⟨ht, hlease⟩ := htask t rfl
    have hset := h.setTask (Ingest.receivedTask now t) ht rfl
      (leaseOk_iff.mpr ⟨rfl, (leaseOk_iff.mp hlease).2⟩)
    have hevent : (Ingest.taskReceivedEvent now e t hash requestId).columnsOk = true := by
      simp [AuditEvent.columnsOk, Ingest.taskReceivedEvent, optionalText, hash.length_hex,
        h.agentId_length hagent]
    unfold Ingest.completeTask
    simp only []
    -- the agent's runtime state is touched only if there is one
    split
    · exact hset.addEvent hevent
    · rename_i state hstate
      have hrow := h.states state (Table.mem_of_get? hstate)
      exact (hset.putRuntimeState (Ingest.seenRuntime now state) hrow.1 hrow.2).addEvent hevent

/-- Ingestion, which rolls back if a check or an insert fails. -/
theorem ingest (h : Schema s) (maxTtl : Nat) (now : Int) (e : SignalEnvelope) (nonce : String)
    (hash : Sha256) (requestId : UUID) :
    Schema (Tomiris.ingest maxTtl now e nonce hash requestId s).2 := by
  cases hingest : Tomiris.ingest maxTtl now e nonce hash requestId s with
  | mk r s' =>
    cases r with
    -- the session rolls back
    | error err =>
      rw [show (Except.error err, s').2 = s from
        Ingest.ingest_restores _ _ _ _ _ _ _ _ _ hingest]
      exact h
    | ok u =>
      simp only [Tomiris.ingest, Ingest.ingestBody, Tx.bind_ok, Tx.mapError_ok, Tx.begin_ok,
        Ingest.checkTimestamps_ok, Ingest.checkRegistry_ok, Ingest.checkSnapshot_ok,
        Ingest.findTask_ok, Tx.attempt_mapError_ok, Tx.read_ok, Tx.raiseIf_ok,
        Tx.modify_ok] at hingest
      obtain ⟨_, _, ⟨-, rfl⟩, _, _, ⟨⟨a, ha, -⟩, rfl⟩, _, s, ⟨-, rfl⟩, _, _, hnonce, task, _,
        ⟨htask, rfl⟩, _, _, ⟨rfl, rfl⟩, _, s₁, ⟨-, rfl⟩, _, s₂, hsignal, _, _, rfl, rfl⟩ := hingest
      -- two inserts, the event of acceptance, and the task
      have h₁ : Schema s₁ := h.insertNonce hnonce
      have h₂ : Schema s₂ := h₁.insertSignal hsignal
      obtain ⟨-, nonces, -, rfl⟩ := Store.insertNonce_ok.mp hnonce
      obtain ⟨-, signals, -, rfl⟩ := Store.insertSignal_ok.mp hsignal
      have hagent : (s.agents.get? e.agentId).isSome := by simp [ha]
      have hevent : (Ingest.acceptedEvent now e hash requestId).columnsOk = true := by
        simp [AuditEvent.columnsOk, Ingest.acceptedEvent, optionalText, hash.length_hex,
          h.agentId_length hagent]
      -- a task that is answered was found in the table
      apply (h₂.addEvent hevent).completeTask hagent
      intro t ht
      unfold Ingest.TaskFor at htask
      split at htask
      · rw [htask] at ht
        cases ht
      · obtain ⟨u, hu, hget, -⟩ := htask
        rw [hu] at ht
        cases ht
        exact ⟨hasTask_of_get? hget, (h.tasks _ (Table.mem_of_get? hget)).lease⟩

/-! ## Probing -/

/-- A probe writes its error code into the state of an agent that it knows. -/
theorem recordProbe (h : Schema s) (now : Int) (agentId : String) {r : ProbeResult}
    (hcode : optionalText 64 r.errorCode = true) :
    Schema (Tomiris.recordProbe now agentId r s) := by
  unfold Tomiris.recordProbe
  split
  · rename_i state hstate
    have hrow := h.states state (Table.mem_of_get? hstate)
    exact h.putRuntimeState (probedRuntime now r state) hcode hrow.2
  · split
    · rename_i hagent
      exact h.putRuntimeState (probedRuntime now r (freshRuntimeState now agentId)) hcode hagent
    · exact h

end Schema

end Tomiris
