import Tomiris.System

/-!
# What one transaction can do to a row

Every operation after planning changes task rows in one of a dozen ways and run rows in one
of three. `TaskMove` and `RunMove` list them once, each with the guard the code checked
first; `Worked` says that a transaction did nothing to tasks, runs and signals beyond such
moves. The specifications of the single operations below all end in `Worked`, so that an
invariant of the store needs one case analysis over moves instead of one per operation.
-/

namespace Tomiris

open Dispatch Recovery Quorum

/-! ## Columns that never change -/

/-- The columns of a task that only planning writes. -/
structure TaskColumns where
  taskId : UUID
  orchestrationRunId : UUID
  snapshotId : UUID
  agentId : String
  asset : String
  requiredCapability : String
  required : Bool
  priority : Nat
  criticality : Criticality
  dispatchDeadline : Int
  signalDeadline : Int
  context : PyValue
  causationId : Option UUID
  createdAt : Int

def AgentTask.columns (t : AgentTask) : TaskColumns :=
  { taskId := t.taskId
    orchestrationRunId := t.orchestrationRunId
    snapshotId := t.snapshotId
    agentId := t.agentId
    asset := t.asset
    requiredCapability := t.requiredCapability
    required := t.required
    priority := t.priority
    criticality := t.criticality
    dispatchDeadline := t.dispatchDeadline
    signalDeadline := t.signalDeadline
    context := t.context
    causationId := t.causationId
    createdAt := t.createdAt }

section Columns

variable {t t' : AgentTask} (h : t'.columns = t.columns)
include h

/-- Columns that agree agree one by one: the key first. -/
theorem taskId_of_columns : t'.taskId = t.taskId := congrArg TaskColumns.taskId h
theorem runId_of_columns : t'.orchestrationRunId = t.orchestrationRunId :=
  congrArg TaskColumns.orchestrationRunId h
theorem snapshotId_of_columns : t'.snapshotId = t.snapshotId := congrArg TaskColumns.snapshotId h
theorem agentId_of_columns : t'.agentId = t.agentId := congrArg TaskColumns.agentId h
theorem asset_of_columns : t'.asset = t.asset := congrArg TaskColumns.asset h
theorem capability_of_columns : t'.requiredCapability = t.requiredCapability :=
  congrArg TaskColumns.requiredCapability h
theorem signalDeadline_of_columns : t'.signalDeadline = t.signalDeadline :=
  congrArg TaskColumns.signalDeadline h

end Columns

/-- The columns of a run that only planning writes. -/
structure RunColumns where
  orchestrationRunId : UUID
  snapshotId : UUID
  asset : String
  triggerType : String
  createdAt : Int
  startedAt : Option Int
  collectionDeadline : Int
  correlationId : UUID
  policyVersion : String
  metadata : RunMetadata

def OrchestrationRun.columns (r : OrchestrationRun) : RunColumns :=
  { orchestrationRunId := r.orchestrationRunId
    snapshotId := r.snapshotId
    asset := r.asset
    triggerType := r.triggerType
    createdAt := r.createdAt
    startedAt := r.startedAt
    collectionDeadline := r.collectionDeadline
    correlationId := r.correlationId
    policyVersion := r.policyVersion
    metadata := r.metadata }

/-- The command was built from a row with these columns. -/
structure IssuedFor (c : DispatchCommand) (t : TaskColumns) : Prop where
  task : c.taskId = t.taskId
  run : c.orchestrationRunId = t.orchestrationRunId
  snapshot : c.snapshotId = t.snapshotId
  agent : c.agentId = t.agentId
  asset : c.asset = t.asset
  capability : c.requiredCapability = t.requiredCapability
  priority : c.priority = t.priority
  created : c.createdAt = t.createdAt
  deadline : c.signalDeadline = t.signalDeadline
  causation : c.causationId = t.causationId
  context : c.context = t.context

/-! ## Moves -/

/-- What a claim does to one selected task. -/
inductive ClaimMove (runs : Table OrchestrationRun) (w : DispatchWorker) (now : Int)
    (t : AgentTask) : AgentTask → Prop
  | cancel : (∀ r, runs.get? t.orchestrationRunId = some r → closedToClaims r.status = true) →
      ClaimMove runs w now t (cancelledTask now t)
  | endpointMissing : ClaimMove runs w now t (endpointMissingTask now t)
  | circuitOpen (openUntil : Int) : ClaimMove runs w now t (circuitOpenTask now openUntil t)
  | lease : (∃ r, runs.get? t.orchestrationRunId = some r ∧ closedToClaims r.status = false) →
      ClaimMove runs w now t (leasedTask w now t)

/-- What a transaction after planning can do to a task row. -/
inductive TaskMove (s : Store) (t : AgentTask) : AgentTask → Prop
  | keep : TaskMove s t t
  | claim {w : DispatchWorker} {now : Int} {t' : AgentTask} : claimable now t = true →
      ClaimMove s.runs w now t t' → TaskMove s t t'
  | ack {now : Int} {result : DispatchResult} : t.status = .dispatching →
      TaskMove s t (ackedTask now result t)
  | retried {now at_ : Int} {result : DispatchResult} : t.status = .dispatching →
      TaskMove s t (retriedTask now at_ result t)
  | failed {now : Int} {result : DispatchResult} : t.status = .dispatching →
      TaskMove s t (failedTask now result t)
  | expired {now : Int} : overdueForDispatch now t = true → TaskMove s t (expiredTask now t)
  | released {now : Int} : t.status = .dispatching → TaskMove s t (releasedTask now t)
  | signalTimeout {now : Int} : t.status = .acknowledged ∨ t.status = .waitingSignal →
      TaskMove s t (signalTimeoutTask now t)
  | repaired {now : Int} : t.taskId ∈ signalTaskIds s t.orchestrationRunId →
      TaskMove s t (repairedTask now t)

/-- What a transaction after planning can do to a run row. -/
inductive RunMove (s : Store) (r : OrchestrationRun) : OrchestrationRun → Prop
  | keep : RunMove s r r
  | collect : (∃ t ∈ s.tasks.rows, t.orchestrationRunId = r.orchestrationRunId ∧
      t.status = .dispatching) → RunMove s r { r with status := .collecting }
  | reopen : r.status = .timedOut → RunMove s r { r with status := .collecting }
  | finalise {now : Int} {v : Verdict} : finalised r.status = false →
      Quorum.decide now r (s.tasksOf r.orchestrationRunId) = some v →
      RunMove s r (finalisedRun now v r)

/-- No transaction writes the planned columns of a task. -/
theorem TaskMove.columns {s : Store} {t t' : AgentTask} (h : TaskMove s t t') :
    t'.columns = t.columns := by
  cases h with
  | claim _ hc => cases hc <;> rfl
  | _ => rfl

/-- Nor the ones of a run. -/
theorem RunMove.columns {s : Store} {r r' : OrchestrationRun} (h : RunMove s r r') :
    r'.columns = r.columns := by
  cases h <;> rfl

/-- A claim looks at `PENDING`, `RETRY` and, once the lease has run out, `DISPATCHING`. -/
theorem claimable_iff {now : Int} {t : AgentTask} :
    claimable now t = true ↔ ((t.status = .pending ∨ t.status = .retry) ∧ t.dispatchAfter ≤ now ∨
      t.status = .dispatching ∧ ∃ u, t.leaseUntil = some u ∧ u < now) ∧
        now < t.dispatchDeadline := by
  simp only [claimable, Bool.and_eq_true, Bool.or_eq_true, decide_eq_true_eq, Option.any_eq_true]

/-- A task that can be claimed has not ended. -/
theorem not_terminal_of_claimable {now : Int} {t : AgentTask} (h : claimable now t = true) :
    terminal t.status = false := by
  rcases (claimable_iff.mp h).1 with ⟨hs | hs, -⟩ | ⟨hs, -⟩ <;> rw [hs] <;> rfl

/-- Statuses that no operation but a repair leaves. -/
theorem TaskMove.status_of_terminal {s : Store} {t t' : AgentTask} (h : TaskMove s t t')
    (ht : terminal t.status = true) : t'.status = t.status ∨
      t'.status = .signalReceived ∧ t.taskId ∈ signalTaskIds s t.orchestrationRunId := by
  cases h with
  | keep => exact .inl rfl
  -- every other move starts from a task that is still open
  | claim hdue _ =>
    rw [not_terminal_of_claimable hdue] at ht
    cases ht
  | ack hs => rw [hs] at ht; cases ht
  | retried hs => rw [hs] at ht; cases ht
  | failed hs => rw [hs] at ht; cases ht
  | expired hdue =>
    simp only [overdueForDispatch, Bool.and_eq_true, Bool.or_eq_true, decide_eq_true_eq] at hdue
    rcases hdue.1 with (hs | hs) | hs <;> rw [hs] at ht <;> cases ht
  | released hs => rw [hs] at ht; cases ht
  | signalTimeout hs => rcases hs with hs | hs <;> rw [hs] at ht <;> cases ht
  | repaired hsig => exact .inr ⟨rfl, hsig⟩

/-- Only a repair completes a task outside of ingestion. -/
theorem TaskMove.signalled {s : Store} {t t' : AgentTask} (h : TaskMove s t t')
    (ht' : t'.status = .signalReceived) :
    t.status = .signalReceived ∨ t.taskId ∈ signalTaskIds s t.orchestrationRunId := by
  cases h with
  | keep => exact .inl ht'
  | claim _ hc => cases hc <;> cases ht'
  | released _ =>
    simp only [releasedTask] at ht'
    split at ht' <;> cases ht'
  | repaired hsig => exact .inr hsig
  | _ => cases ht'

/-! ## Audit events -/

/-- An audit row that counts an accepted signal. -/
def AuditEvent.isAcceptedIngestion (e : AuditEvent) : Bool :=
  e.eventType = .signalIngestion && e.outcome = .accepted

/-- The events that report a final status. -/
def EventType.announcesVerdict : EventType → Bool
  | .orchestrationFull | .orchestrationDegraded | .orchestrationCritical => true
  | _ => false

/-- The event reports the final status of this run. -/
def AuditEvent.announces (runId : UUID) (e : AuditEvent) : Bool :=
  e.eventType.announcesVerdict &&
    e.metadata.lookup "orchestration_run_id" = some (.uuid runId)

/-- Events of the work on tasks: they count no signal and report no final status. -/
def EventType.routine (ty : EventType) : Bool := ty ≠ .signalIngestion && !ty.announcesVerdict

/-- `s'` has the audit events of `s` and more of them, each of which satisfies `P`. -/
def Appends (P : AuditEvent → Prop) (s s' : Store) : Prop :=
  ∃ es, s'.auditEvents = s.auditEvents ++ es ∧ ∀ e ∈ es, P e

namespace Appends

variable {P Q : AuditEvent → Prop} {s s' s'' : Store}

/-- No audit row at all. -/
theorem none (h : s'.auditEvents = s.auditEvents) : Appends P s s' :=
  ⟨[], by rw [h, List.append_nil], by simp⟩

/-- One audit row. -/
theorem one {e : AuditEvent} (h : s'.auditEvents = s.auditEvents ++ [e]) (he : P e) :
    Appends P s s' :=
  ⟨[e], h, by simpa using he⟩

/-- The audit rows of one transaction behind those of another. -/
theorem trans (h : Appends P s s') (h' : Appends P s' s'') : Appends P s s'' := by
  obtain ⟨es, he, hP⟩ := h
  obtain ⟨es', he', hP'⟩ := h'
  refine ⟨es ++ es', by rw [he', he, List.append_assoc], fun e hmem => ?_⟩
  exact (List.mem_append.mp hmem).elim (hP e) (hP' e)

/-- Audit rows that satisfy more. -/
theorem mono (h : Appends P s s') (hPQ : ∀ e, P e → Q e) : Appends Q s s' := by
  obtain ⟨es, he, hP⟩ := h
  exact ⟨es, he, fun e hmem => hPQ e (hP e hmem)⟩

/-- Counting events of a kind that none of the new ones is. -/
theorem countP_eq {p : AuditEvent → Bool} (h : Appends P s s') (hp : ∀ e, P e → p e = false) :
    s'.auditEvents.countP p = s.auditEvents.countP p := by
  obtain ⟨es, he, hP⟩ := h
  have hzero : es.countP p = 0 :=
    List.countP_eq_zero.mpr fun e hmem => by simp [hp e (hP e hmem)]
  rw [he, List.countP_append, hzero, Nat.add_zero]

end Appends

/-- The routine events do not tell of an accepted signal. -/
theorem EventType.routine.not_accepted {e : AuditEvent} (h : e.eventType.routine = true) :
    e.isAcceptedIngestion = false := by
  simp only [EventType.routine, Bool.and_eq_true, decide_eq_true_eq] at h
  simp [AuditEvent.isAcceptedIngestion, h.1]

/-- Nor of a verdict. -/
theorem EventType.routine.not_verdict {e : AuditEvent} (h : e.eventType.routine = true)
    (runId : UUID) : e.announces runId = false := by
  simp only [EventType.routine, Bool.and_eq_true, Bool.not_eq_true'] at h
  simp [AuditEvent.announces, h.2]

/-! ## Transactions after planning -/

/-- A transaction that moves tasks and runs and stores no signal. A task that it acknowledges
    has its run collecting afterwards. -/
structure Worked (s s' : Store) : Prop where
  tasks : s.tasks.Moves (TaskMove s) s'.tasks
  runs : s.runs.Moves (RunMove s) s'.runs
  signals : s'.signals = s.signals
  nonces : s'.nonces = s.nonces
  events : Appends (·.isAcceptedIngestion = false) s s'
  acked : ∀ id t t', s.tasks.get? id = some t → s'.tasks.get? id = some t' →
    t'.status = .waitingSignal → t.status = .waitingSignal ∨
      ∃ r, s'.runs.get? t.orchestrationRunId = some r ∧ r.status = .collecting

/-- A database whose rows did not change. -/
theorem Worked.of_eq {s s' : Store} (ht : s'.tasks = s.tasks) (hr : s'.runs = s.runs)
    (hg : s'.signals = s.signals) (hn : s'.nonces = s.nonces)
    (he : s'.auditEvents = s.auditEvents) : Worked s s' where
  tasks := .of_eq ht fun _ => .keep
  runs := .of_eq hr fun _ => .keep
  signals := hg
  nonces := hn
  events := .none he
  acked := by
    intro id t t' hget hget' hst
    rw [ht, hget] at hget'
    cases hget'
    exact .inl hst

/-- A change of task rows that acknowledges none. -/
theorem acks_none {R : AgentTask → AgentTask → Prop} {s s' : Store}
    (h : s.tasks.Moves R s'.tasks)
    (hR : ∀ t t', R t t' → t'.status = .waitingSignal → t.status = .waitingSignal)
    (id : UUID) (t t' : AgentTask) (ht : s.tasks.get? id = some t)
    (ht' : s'.tasks.get? id = some t') (hst : t'.status = .waitingSignal) :
    t.status = .waitingSignal ∨
      ∃ r, s'.runs.get? t.orchestrationRunId = some r ∧ r.status = .collecting :=
  .inl (hR t t' (h.rel_of_get? ht ht') hst)

end Tomiris
