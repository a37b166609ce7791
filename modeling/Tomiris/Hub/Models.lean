import Mathlib.Tactic.Simps.Basic
import Tomiris.ForStd.Table
import Tomiris.Contracts.Signals

/-!
# The database

The tables of `tomiris_hub.database.models` that the Hub and the orchestrator share, and
the checks PostgreSQL makes on an insert. A row keeps the columns that some function of
the repository reads or writes; surrogate keys drawn at random (`used_nonces.id`,
`audit_events.event_id`) are left out.
-/

namespace Tomiris

/-! ## Column types -/

inductive TaskStatus where
  | pending
  | dispatching
  | acknowledged
  | waitingSignal
  | signalReceived
  | retry
  | timedOut
  | failed
  | cancelled
  | skipped
deriving DecidableEq

inductive RunStatus where
  | created
  | dispatching
  | collecting
  | full
  | degraded
  | critical
  | failed
  | timedOut
  | cancelled
deriving DecidableEq

inductive RunOutcome where
  | full
  | degraded
  | critical
  | insufficientData
deriving DecidableEq

inductive SnapshotStatus where
  | opened
  | closed
  | expired
  | invalid
deriving DecidableEq

inductive Availability where
  | unknown
  | healthy
  | degraded
  | unavailable
deriving DecidableEq

inductive CircuitState where
  | closed
  | opened
  | halfOpen
deriving DecidableEq

inductive Criticality where
  | low
  | normal
  | high
  | critical
deriving DecidableEq

inductive EventType where
  | orchestrationCreated
  | taskCreated
  | taskDispatchStarted
  | taskAcknowledged
  | taskRetryScheduled
  | taskFailed
  | taskTimedOut
  | agentCircuitOpened
  | orchestrationRecovered
  | orchestrationFull
  | orchestrationDegraded
  | orchestrationCritical
  | signalIngestion
  | taskSignalReceived
deriving DecidableEq

inductive EventOutcome where
  | accepted
  | rejected
deriving DecidableEq

/-- The values of an audit event's `metadata_json`. -/
inductive MetaValue where
  | uuid (u : UUID)
  | nat (n : Nat)
  | num (q : Rat)
  | text (s : String)
  | texts (l : List String)
  | time (t : Int)
deriving DecidableEq

/-! ## Rows -/

structure Agent where
  agentId : String
  role : String
  enabled : Bool := true
  protocolVersion : String
  capabilities : List String := []
  criticality : Criticality := .normal
  supportedAssets : List String := []
  supportedEvidenceTypes : List String := []

structure AgentEndpoint where
  agentId : String
  endpointUrl : String
  enabled : Bool := true
  environment : String

structure MarketSnapshot where
  snapshotId : UUID
  createdAt : Int
  expiresAt : Int
  status : SnapshotStatus

structure AgentRuntimeState where
  agentId : String
  availability : Availability := .unknown
  lastProbeAt : Option Int := none
  lastSeenAt : Option Int := none
  lastAckAt : Option Int := none
  lastSignalAt : Option Int := none
  lastSuccessAt : Option Int := none
  consecutiveFailures : Nat := 0
  latencyMs : Option Rat := none
  circuitState : CircuitState := .closed
  circuitOpenUntil : Option Int := none
  lastErrorCode : Option String := none
  updatedAt : Int

/-- What the planner stores in a run's `metadata_json`. The policy is kept as the value
    that `model_validate` reads back from its JSON dump. -/
structure RunMetadata where
  policy : OrchestrationPolicy
  context : PyValue
  missingRequired : List String
  missingOptional : List String

structure OrchestrationRun where
  orchestrationRunId : UUID
  snapshotId : UUID
  asset : String
  triggerType : String
  status : RunStatus
  outcome : Option RunOutcome
  createdAt : Int
  startedAt : Option Int
  collectionDeadline : Int
  completedAt : Option Int
  correlationId : UUID
  policyVersion : String
  metadata : RunMetadata

structure AgentTask where
  taskId : UUID
  orchestrationRunId : UUID
  snapshotId : UUID
  agentId : String
  asset : String
  requiredCapability : String
  required : Bool
  priority : Nat
  criticality : Criticality
  status : TaskStatus
  attemptCount : Nat
  dispatchAfter : Int
  dispatchDeadline : Int
  signalDeadline : Int
  leaseOwner : Option String := none
  leaseUntil : Option Int := none
  lastErrorCode : Option String := none
  acknowledgedAt : Option Int := none
  signalReceivedAt : Option Int := none
  context : PyValue
  causationId : Option UUID
  createdAt : Int
  updatedAt : Int

structure Nonce where
  agentId : String
  nonce : String
  receivedAt : Int

/-- A stored signal. `payload` is the dumped envelope; the columns repeat parts of it. -/
structure Signal where
  messageId : UUID
  agentId : String
  agentRunId : UUID
  snapshotId : UUID
  taskId : Option UUID
  orchestrationRunId : Option UUID
  correlationId : UUID
  causationId : Option UUID
  protocolVersion : String
  asset : String
  bias : Bias
  confidence : Nat
  impact : Nat
  timeHorizon : String
  dataTimestamp : Int
  analysisTimestamp : Int
  signalTtlSeconds : Nat
  roleId : Option String
  roleVersion : Option String
  configVersion : Option String
  featurePipelineVersion : Option String
  analysisSchemaVersion : Option String
  dataProvider : Option String
  dataAsOf : Option Int
  confidenceModelVersion : Option String
  payload : SignalFields
  payloadHash : String
  receivedAt : Int

/-- `audit_events`. The `request_id` of an orchestration event is a fresh `uuid4` that
    nothing reads, and `none` here. -/
structure AuditEvent where
  occurredAt : Int
  eventType : EventType
  outcome : EventOutcome
  reasonCode : Option String
  requestId : Option UUID
  agentId : Option String
  messageId : Option UUID
  snapshotId : Option UUID
  correlationId : UUID
  causationId : Option UUID
  payloadHash : Option String
  metadata : List (String × MetaValue)

instance : Keyed Agent String := ⟨Agent.agentId⟩
instance : Keyed AgentEndpoint String := ⟨AgentEndpoint.agentId⟩
instance : Keyed MarketSnapshot UUID := ⟨MarketSnapshot.snapshotId⟩
instance : Keyed AgentRuntimeState String := ⟨AgentRuntimeState.agentId⟩
instance : Keyed OrchestrationRun UUID := ⟨OrchestrationRun.orchestrationRunId⟩
instance : Keyed AgentTask UUID := ⟨AgentTask.taskId⟩
instance : Keyed Nonce (String × String) := ⟨fun n => (n.agentId, n.nonce)⟩
instance : Keyed Signal UUID := ⟨Signal.messageId⟩

@[simp] theorem key_run (r : OrchestrationRun) : Keyed.key r = r.orchestrationRunId := rfl
@[simp] theorem key_task (t : AgentTask) : Keyed.key t = t.taskId := rfl
@[simp] theorem key_nonce (n : Nonce) : Keyed.key n = (n.agentId, n.nonce) := rfl
@[simp] theorem key_signal (g : Signal) : Keyed.key g = g.messageId := rfl
@[simp] theorem key_runtimeState (st : AgentRuntimeState) : Keyed.key st = st.agentId := rfl

/-- The committed state of the database. -/
structure Store where
  agents : Table Agent := .empty
  endpoints : Table AgentEndpoint := .empty
  snapshots : Table MarketSnapshot := .empty
  runtimeStates : Table AgentRuntimeState := .empty
  runs : Table OrchestrationRun := .empty
  tasks : Table AgentTask := .empty
  nonces : Table Nonce := .empty
  signals : Table Signal := .empty
  auditEvents : List AuditEvent := []

namespace Store

@[simps] def setTask (s : Store) (t : AgentTask) : Store := { s with tasks := s.tasks.set t }

@[simps] def setRun (s : Store) (r : OrchestrationRun) : Store := { s with runs := s.runs.set r }

/-- Write a runtime state, adding the row for an agent that has none. -/
@[simps] def putRuntimeState (s : Store) (st : AgentRuntimeState) : Store :=
  { s with runtimeStates := s.runtimeStates.upsert st }

@[simps] def addEvent (s : Store) (e : AuditEvent) : Store :=
  { s with auditEvents := s.auditEvents ++ [e] }

/-- The tasks of a run: `select(AgentTask).where(orchestration_run_id == run_id)`. -/
def tasksOf (s : Store) (runId : UUID) : List AgentTask :=
  s.tasks.rows.filter (fun t => t.orchestrationRunId = runId)

/-- The rows that a query returned, given by their ids. -/
def tasksAt (s : Store) (ids : List UUID) : List AgentTask := ids.filterMap s.tasks.get?

/-- The rows that a query returned, given by their ids. -/
def runsAt (s : Store) (ids : List UUID) : List OrchestrationRun := ids.filterMap s.runs.get?

/-- The signals stored for a task. -/
def signalsFor (s : Store) (taskId : UUID) : List Signal :=
  s.signals.rows.filter (fun g => g.taskId = some taskId)

/-- The tasks of a run. -/
theorem mem_tasksOf {s : Store} {runId : UUID} {t : AgentTask} :
    t ∈ s.tasksOf runId ↔ t ∈ s.tasks.rows ∧ t.orchestrationRunId = runId := by
  simp [tasksOf]

/-- Picked rows are rows. -/
theorem get?_of_mem_tasksAt {s : Store} {ids : List UUID} {t : AgentTask}
    (h : t ∈ s.tasksAt ids) : s.tasks.get? t.taskId = some t :=
  Table.get?_of_mem_filterMap h

/-- No row is picked twice. -/
theorem nodup_tasksAt {s : Store} {ids : List UUID} (h : ids.Nodup) :
    ((s.tasksAt ids).map (·.taskId)).Nodup :=
  Table.nodup_filterMap_get? h

/-- A row with the key of a selected row is selected. -/
theorem mem_tasksAt_of_key {s : Store} {ids : List UUID} {t : AgentTask} (ht : t ∈ s.tasks.rows)
    (h : t.taskId ∈ (s.tasksAt ids).map (·.taskId)) : t ∈ s.tasksAt ids ∧ t.taskId ∈ ids := by
  obtain ⟨u, hu, hkey⟩ := List.mem_map.mp h
  obtain ⟨k, hk, hget⟩ := List.mem_filterMap.mp hu
  -- the selected row and `t` share a primary key
  have hut : u = t := s.tasks.eq_of_key_eq (Table.mem_of_get? hget) ht hkey
  have huk : u.taskId = k := Table.key_of_get? hget
  rw [← hut]
  exact ⟨hu, huk ▸ hk⟩

/-- Picked runs are rows. -/
theorem get?_of_mem_runsAt {s : Store} {ids : List UUID} {r : OrchestrationRun}
    (h : r ∈ s.runsAt ids) : s.runs.get? r.orchestrationRunId = some r :=
  Table.get?_of_mem_filterMap h

/-- A run is picked if it is named and there. -/
theorem mem_runsAt_ids {s : Store} {ids : List UUID} {id : UUID} :
    id ∈ (s.runsAt ids).map (·.orchestrationRunId) ↔
      id ∈ ids ∧ ∃ r, s.runs.get? id = some r := by
  simp only [Store.runsAt, List.mem_map, List.mem_filterMap]
  constructor
  · rintro ⟨r, ⟨k, hk, hr⟩, rfl⟩
    have hkey : r.orchestrationRunId = k := Table.key_of_get? hr
    rw [hkey]
    exact ⟨hk, r, hr⟩
  · rintro ⟨hk, r, hr⟩
    exact ⟨r, ⟨id, hk, hr⟩, Table.key_of_get? hr⟩

/-- No run is picked twice. -/
theorem nodup_runsAt {s : Store} {ids : List UUID} (h : ids.Nodup) :
    ((s.runsAt ids).map (·.orchestrationRunId)).Nodup :=
  Table.nodup_filterMap_get? h

end Store

/-! ## Inserts and their constraints -/

/-- What PostgreSQL can answer to an insert: a violated constraint (`IntegrityError`) or a
    value that does not fit its column (`DataError`). That it also refuses a NUL character in any
    text, and a NaN or an infinity in a `JSONB` column, is left out. -/
inductive DbError where
  | integrity (constraint : String)
  | data
deriving DecidableEq

/-- The `CHECK` constraints of `signals`. -/
def Signal.checksOk (g : Signal) : Bool :=
  g.confidence ≤ 100 && g.impact ≤ 100 && 0 < g.signalTtlSeconds &&
    -- `ck_signal_task_lineage`, and below it all of the lineage columns or none
    g.taskId.isNone == g.orchestrationRunId.isNone &&
    (let lineage := [g.roleId.isSome, g.roleVersion.isSome, g.configVersion.isSome,
      g.featurePipelineVersion.isSome, g.analysisSchemaVersion.isSome, g.dataProvider.isSome,
      g.dataAsOf.isSome, g.confidenceModelVersion.isSome]
    lineage.all (! ·) || lineage.all id) &&
    g.dataAsOf.all (fun t => t ≤ g.analysisTimestamp)

/-- The column lengths of `signals`. -/
def Signal.columnsOk (g : Signal) : Bool :=
  g.protocolVersion.length ≤ 16 && g.asset.length ≤ 32 && g.timeHorizon.length ≤ 64 &&
    optionalText 64 g.roleId && optionalText 32 g.roleVersion && optionalText 32 g.configVersion &&
    optionalText 64 g.featurePipelineVersion && optionalText 16 g.analysisSchemaVersion &&
    optionalText 128 g.dataProvider && optionalText 32 g.confidenceModelVersion &&
    g.payloadHash.length ≤ 64

/-- The `CHECK` constraints of `orchestration_runs` that its column types leave open. -/
def OrchestrationRun.checksOk (r : OrchestrationRun) : Bool :=
  (r.triggerType == "MANUAL" || r.triggerType == "TEST") && r.createdAt < r.collectionDeadline

/-- The column lengths of `orchestration_runs`. -/
def OrchestrationRun.columnsOk (r : OrchestrationRun) : Bool :=
  r.asset.length ≤ 32 && r.triggerType.length ≤ 16 && r.policyVersion.length ≤ 32

/-- The `CHECK` constraints of `agent_tasks` that its column types leave open. -/
def AgentTask.checksOk (t : AgentTask) : Bool :=
  -- a dispatch may end with its signal deadline, but not after it
  t.priority ≤ 100 && t.createdAt < t.dispatchDeadline && t.dispatchDeadline ≤ t.signalDeadline

/-- The column lengths of `agent_tasks`. -/
def AgentTask.columnsOk (t : AgentTask) : Bool :=
  t.asset.length ≤ 32 && t.requiredCapability.length ≤ 64

/-- The columns of `uq_agent_task_assignment`. -/
def AgentTask.assignment (t : AgentTask) : UUID × String × String × String :=
  (t.orchestrationRunId, t.agentId, t.asset, t.requiredCapability)

/-- The first constraint of the list that is violated. -/
def firstViolated (constraints : List (Bool × DbError)) : Option DbError :=
  (constraints.find? (·.1)).map (·.2)

/-- No constraint is violated. -/
theorem firstViolated_eq_none {constraints : List (Bool × DbError)} :
    firstViolated constraints = none ↔ ∀ c ∈ constraints, c.1 = false := by
  simp [firstViolated]

/-- An insert: `constraints` first, then the primary key `pkey` of the table. -/
def insertRow {τ : Type} (constraints : List (Bool × DbError)) (pkey : String)
    (table : Option τ) (put : τ → Store) : Except DbError Store :=
  match firstViolated constraints with
  -- an oversized value comes first in every list; callers do not tell constraints apart
  | some e => .error e
  | none => match table with
    | none => .error (.integrity pkey)
    | some t => .ok (put t)

/-- A row is inserted if nothing is violated. -/
theorem insertRow_ok {τ : Type} {constraints : List (Bool × DbError)} {pkey : String}
    {table : Option τ} {put : τ → Store} {s' : Store} :
    insertRow constraints pkey table put = .ok s' ↔
      (∀ c ∈ constraints, c.1 = false) ∧ ∃ t, table = some t ∧ s' = put t := by
  rw [← firstViolated_eq_none]
  unfold insertRow
  cases firstViolated constraints with
  | some e => simp
  | none => cases table <;> simp [eq_comm]

/-- Or it is refused for a constraint, the primary key last. -/
theorem insertRow_error {τ : Type} {constraints : List (Bool × DbError)} {pkey : String}
    {table : Option τ} {put : τ → Store} {e : DbError}
    (h : insertRow constraints pkey table put = .error e) :
    (∃ c ∈ constraints, c.1 = true ∧ e = c.2) ∨ table = none ∧ e = .integrity pkey := by
  unfold insertRow at h
  cases hviolated : firstViolated constraints with
  -- a constraint is violated, or the key is taken
  | some e' =>
    rw [hviolated] at h
    cases h
    obtain ⟨c, hfind, rfl⟩ := Option.map_eq_some_iff.mp hviolated
    exact .inl ⟨c, List.mem_of_find?_eq_some hfind, List.find?_some hfind, rfl⟩
  | none =>
    rw [hviolated] at h
    cases table with
    | none =>
      cases h
      exact .inr ⟨rfl, rfl⟩
    | some t => cases h

namespace Store

/-- `INSERT INTO used_nonces`. -/
def insertNonce (n : Nonce) (s : Store) : Except DbError Store :=
  insertRow [(256 < n.nonce.length, .data),
      ((s.agents.get? n.agentId).isNone, .integrity "used_nonces_agent_id_fkey")]
    "uq_nonce_agent_nonce" (s.nonces.insert? n) (fun nonces => { s with nonces })

/-- `INSERT INTO signals`. -/
def insertSignal (g : Signal) (s : Store) : Except DbError Store :=
  insertRow [(!g.columnsOk, .data), (!g.checksOk, .integrity "ck_signal"),
      ((s.agents.get? g.agentId).isNone, .integrity "signals_agent_id_fkey"),
      ((s.snapshots.get? g.snapshotId).isNone, .integrity "signals_snapshot_id_fkey"),
      -- a nullable foreign key is checked only when it is set
      (g.taskId.any (fun id => (s.tasks.get? id).isNone), .integrity "fk_signals_task"),
      (g.orchestrationRunId.any (fun id => (s.runs.get? id).isNone),
        .integrity "fk_signals_orchestration_run"),
      -- a partial unique index: unbound signals are outside of it
      (g.taskId.any (fun id => s.signals.rows.any (fun o => o.taskId = some id)),
        .integrity "uq_signals_task_result")]
    "signals_pkey" (s.signals.insert? g) (fun signals => { s with signals })

/-- `INSERT INTO orchestration_runs`. -/
def insertRun (r : OrchestrationRun) (s : Store) : Except DbError Store :=
  insertRow [(!r.columnsOk, .data), (!r.checksOk, .integrity "ck_run"),
      ((s.snapshots.get? r.snapshotId).isNone, .integrity "orchestration_runs_snapshot_id_fkey")]
    "orchestration_runs_pkey" (s.runs.insert? r) (fun runs => { s with runs })

/-- `INSERT INTO agent_tasks`. -/
def insertTask (t : AgentTask) (s : Store) : Except DbError Store :=
  insertRow [(!t.columnsOk, .data), (!t.checksOk, .integrity "ck_agent_task"),
      ((s.runs.get? t.orchestrationRunId).isNone,
        .integrity "agent_tasks_orchestration_run_id_fkey"),
      ((s.snapshots.get? t.snapshotId).isNone, .integrity "agent_tasks_snapshot_id_fkey"),
      ((s.agents.get? t.agentId).isNone, .integrity "agent_tasks_agent_id_fkey"),
      (s.tasks.rows.any (fun o => o.assignment = t.assignment),
        .integrity "uq_agent_task_assignment")]
    "agent_tasks_pkey" (s.tasks.insert? t) (fun tasks => { s with tasks })

/-! ### What a successful insert has checked -/

/-- A nonce needs a registered agent, and must be new to it. -/
theorem insertNonce_ok {n : Nonce} {s s' : Store} :
    s.insertNonce n = .ok s' ↔ (n.nonce.length ≤ 256 ∧ (s.agents.get? n.agentId).isSome) ∧
      ∃ nonces, s.nonces.insert? n = some nonces ∧ s' = { s with nonces } := by
  unfold insertNonce
  rw [insertRow_ok]
  simp [Option.isSome_iff_ne_none]

/-- A condition on a value that may be missing. -/
private theorem any_eq_false {α : Type} {o : Option α} {p : α → Bool} :
    o.any p = false ↔ ∀ a, o = some a → p a = false := by
  cases o <;> simp

/-- The conditions of an insert into `signals`, its primary key apart. -/
structure SignalAdmitted (g : Signal) (s : Store) : Prop where
  columns : g.columnsOk = true
  checks : g.checksOk = true
  agent : (s.agents.get? g.agentId).isSome
  snapshot : (s.snapshots.get? g.snapshotId).isSome
  task : ∀ id, g.taskId = some id → (s.tasks.get? id).isSome
  run : ∀ id, g.orchestrationRunId = some id → (s.runs.get? id).isSome
  unique : ∀ id, g.taskId = some id → ∀ o ∈ s.signals.rows, o.taskId ≠ some id

/-- When a signal is inserted. -/
theorem insertSignal_ok {g : Signal} {s s' : Store} :
    s.insertSignal g = .ok s' ↔ SignalAdmitted g s ∧
      ∃ signals, s.signals.insert? g = some signals ∧ s' = { s with signals } := by
  unfold insertSignal
  rw [insertRow_ok]
  refine and_congr_left fun _ => ?_
  simp only [List.mem_cons, List.not_mem_nil, or_false, forall_eq_or_imp, forall_eq,
    Bool.not_eq_false', any_eq_false, Option.isNone_eq_false_iff, List.any_eq_false,
    decide_eq_true_eq]
  constructor
  · rintro ⟨h₁, h₂, h₃, h₄, h₅, h₆, h₇⟩
    exact ⟨h₁, h₂, h₃, h₄, h₅, h₆, h₇⟩
  · rintro ⟨h₁, h₂, h₃, h₄, h₅, h₆, h₇⟩
    exact ⟨h₁, h₂, h₃, h₄, h₅, h₆, h₇⟩

/-- A run needs its snapshot. -/
theorem insertRun_ok {r : OrchestrationRun} {s s' : Store} :
    s.insertRun r = .ok s' ↔
      (r.columnsOk = true ∧ r.checksOk = true ∧ (s.snapshots.get? r.snapshotId).isSome) ∧
      ∃ runs, s.runs.insert? r = some runs ∧ s' = { s with runs } := by
  unfold insertRun
  rw [insertRow_ok]
  simp

/-- The conditions of an insert into `agent_tasks`, its primary key apart. -/
structure TaskAdmitted (t : AgentTask) (s : Store) : Prop where
  columns : t.columnsOk = true
  checks : t.checksOk = true
  run : (s.runs.get? t.orchestrationRunId).isSome
  snapshot : (s.snapshots.get? t.snapshotId).isSome
  agent : (s.agents.get? t.agentId).isSome
  unique : ∀ o ∈ s.tasks.rows, o.assignment ≠ t.assignment

/-- When a task is inserted. -/
theorem insertTask_ok {t : AgentTask} {s s' : Store} :
    s.insertTask t = .ok s' ↔ TaskAdmitted t s ∧
      ∃ tasks, s.tasks.insert? t = some tasks ∧ s' = { s with tasks } := by
  unfold insertTask
  rw [insertRow_ok]
  refine and_congr_left fun _ => ?_
  simp only [List.mem_cons, List.not_mem_nil, or_false, forall_eq_or_imp, forall_eq,
    Bool.not_eq_false', Option.isNone_eq_false_iff, List.any_eq_false, decide_eq_true_eq]
  constructor
  · rintro ⟨h₁, h₂, h₃, h₄, h₅, h₆⟩
    exact ⟨h₁, h₂, h₃, h₄, h₅, h₆⟩
  · rintro ⟨h₁, h₂, h₃, h₄, h₅, h₆⟩
    exact ⟨h₁, h₂, h₃, h₄, h₅, h₆⟩

/-! ### What a failed insert has found -/

/-- A run with a fresh id can only be too long. -/
theorem insertRun_error {r : OrchestrationRun} {s : Store} {e : DbError}
    (hchecks : r.checksOk = true) (hsnapshot : (s.snapshots.get? r.snapshotId).isSome)
    (hfresh : s.runs.get? r.orchestrationRunId = none) (herror : s.insertRun r = .error e) :
    e = .data ∧ r.columnsOk = false := by
  rcases insertRow_error herror with ⟨c, hc, hviolated, rfl⟩ | ⟨htable, -⟩
  · simp only [List.mem_cons, List.not_mem_nil, or_false] at hc
    rcases hc with rfl | rfl | rfl
    · simpa using hviolated
    · simp [hchecks] at hviolated
    · simp [Option.isSome_iff_ne_none.mp hsnapshot] at hviolated
  · obtain ⟨runs, hruns⟩ := Table.exists_insert? (a := r) hfresh
    rw [hruns] at htable
    cases htable

/-- A row that is admitted can only repeat a primary key. -/
theorem insertTask_error {t : AgentTask} {s : Store} {e : DbError} (h : TaskAdmitted t s)
    (herror : s.insertTask t = .error e) :
    e = .integrity "agent_tasks_pkey" ∧ t.taskId ∈ s.tasks.rows.map (·.taskId) := by
  rcases insertRow_error herror with ⟨c, hc, hviolated, -⟩ | ⟨htable, rfl⟩
  · simp only [List.mem_cons, List.not_mem_nil, or_false] at hc
    rcases hc with rfl | rfl | rfl | rfl | rfl | rfl
    · simp [h.columns] at hviolated
    · simp [h.checks] at hviolated
    · simp [Option.isSome_iff_ne_none.mp h.run] at hviolated
    · simp [Option.isSome_iff_ne_none.mp h.snapshot] at hviolated
    · simp [Option.isSome_iff_ne_none.mp h.agent] at hviolated
    · obtain ⟨o, ho, hsame⟩ := List.any_eq_true.mp hviolated
      exact absurd (of_decide_eq_true hsame) (h.unique o ho)
  · exact ⟨rfl, Table.insert?_eq_none.mp htable⟩

end Store

end Tomiris
