import Tomiris.ForStd.Journal
import Tomiris.Spec.Entries

/-!
# The audit log as a journal

The audit log alone tells what has become of every run and of every task. `readRun` and
`readTask` read it entry by entry and turn down what must not happen: an entry about a run that
was not created, a second verdict without an ACK in between, an attempt out of
order, two outcomes of one attempt, an entry after the last one. The logs that the
system writes are never turned down.

## Key results

- `runs_replayed`: status, outcome and completion of every run are those read from the log
- `attempts_journalled`: the log of every task is in order and has counted its attempts
-/

namespace Tomiris

open Dispatch Recovery Quorum Planner Journal

/-! ## Readers -/

/-- What the log says about a run. -/
structure RunRecord where
  status : RunStatus
  outcome : Option RunOutcome
  completedAt : Option Int
deriving DecidableEq

/-- The columns of a run that the log accounts for. -/
def OrchestrationRun.record (r : OrchestrationRun) : RunRecord := ⟨r.status, r.outcome, r.completedAt⟩

/-- The event names this run. -/
def AuditEvent.ofRun (id : UUID) (e : AuditEvent) : Prop :=
  e.metadata.lookup "orchestration_run_id" = some (.uuid id)

/-- The event names this task. -/
def AuditEvent.ofTask (id : UUID) (e : AuditEvent) : Prop :=
  e.metadata.lookup "task_id" = some (.uuid id)

instance (id : UUID) (e : AuditEvent) : Decidable (e.ofRun id) := inferInstanceAs (Decidable (_ = _))
instance (id : UUID) (e : AuditEvent) : Decidable (e.ofTask id) := inferInstanceAs (Decidable (_ = _))

namespace RunRecord

/-- A verdict on a run that has none. -/
def close (r : RunRecord) (v : Verdict) (now : Int) : Option RunRecord :=
  if finalised r.status = true then none else some ⟨v.status, some v.outcome, some now⟩

/-- An entry about a run that exists. -/
def next (r : RunRecord) (now : Int) : EventType → Option RunRecord
  | .orchestrationCreated => none
  -- also after a verdict
  | .taskAcknowledged => some { r with status := .collecting }
  | .orchestrationRecovered =>
    if finalised r.status = true then none
    else some { r with status := if r.status = .timedOut then .collecting else r.status }
  | .orchestrationFull => r.close fullVerdict now
  | .orchestrationDegraded => r.close degradedVerdict now
  | .orchestrationCritical => r.close criticalVerdict now
  | _ => some r

end RunRecord

/-- Read an entry for the run `id`. -/
def readRun (id : UUID) (x : Option RunRecord) (e : AuditEvent) : Option (Option RunRecord) :=
  if e.ofRun id then
    match x with
    -- nothing is said about a run before it is created
    | none => if e.eventType = .orchestrationCreated then some (some ⟨.dispatching, none, none⟩) else none
    | some r => (r.next e.occurredAt e.eventType).map some
  else some x

/-- Where the log leaves a task. -/
inductive TaskPhase where
  | waiting
  | inFlight
  | done
deriving DecidableEq

/-- What the log says about a task. -/
structure TaskRecord where
  agentId : String
  attempts : Nat
  phase : TaskPhase
deriving DecidableEq

/-- An entry about a task that exists, with the attempt it is about. -/
def TaskRecord.next (r : TaskRecord) : EventType → Option MetaValue → Option TaskRecord
  | .taskDispatchStarted, some (.nat n) =>
    if r.phase ≠ .done ∧ n = r.attempts + 1 then some { r with attempts := n, phase := .inFlight }
    else none
  | .taskAcknowledged, some (.nat n) | .taskRetryScheduled, some (.nat n) =>
    if r.phase = .inFlight ∧ n = r.attempts then some { r with phase := .waiting } else none
  | .taskFailed, some (.nat n) =>
    if r.phase = .inFlight ∧ n = r.attempts then some { r with phase := .done } else none
  | .agentCircuitOpened, _ => if r.phase = .inFlight then some r else none
  | .taskTimedOut, _ | .taskSignalReceived, _ =>
    if r.phase ≠ .done then some { r with phase := .done } else none
  | _, _ => none

/-- Read an entry for the task `id`. -/
def readTask (id : UUID) (x : Option TaskRecord) (e : AuditEvent) : Option (Option TaskRecord) :=
  if e.ofTask id then
    match x with
    | none =>
      if e.eventType = .taskCreated then e.agentId.map fun agentId => some ⟨agentId, 0, .waiting⟩
      else none
    | some r =>
      -- every entry is about the agent that the task was created for
      if e.agentId = some r.agentId then
        (r.next e.eventType (e.metadata.lookup "attempt")).map some
      else none
  else some x

/-! ## Runs -/

/-- What is read about the run is its row. -/
def RunFits (id : UUID) (x : Option RunRecord) (s : Store) : Prop :=
  x = (s.runs.get? id).map (·.record)

section Runs

variable {id : UUID} {x : Option RunRecord} {s s' : Store}

/-- Other runs are skipped. -/
theorem readRun_other {e : AuditEvent} (h : ¬ e.ofRun id) : readRun id x e = some x := if_neg h

/-- The journal starts with the creation. -/
theorem readRun_created {e : AuditEvent} (hof : e.ofRun id)
    (h : e.eventType = .orchestrationCreated) :
    readRun id none e = some (some ⟨.dispatching, none, none⟩) := by
  unfold readRun
  simp only [hof, h, ↓reduceIte]

/-- Behind it, the record says what may come next. -/
theorem readRun_next {e : AuditEvent} (hof : e.ofRun id) (r : RunRecord) :
    readRun id (some r) e = (r.next e.occurredAt e.eventType).map some := by
  unfold readRun
  simp only [hof, ↓reduceIte]

/-- Events of the work on tasks say nothing about the run. -/
def EventType.aboutTask : EventType → Bool
  | .taskCreated | .taskDispatchStarted | .taskRetryScheduled | .taskFailed | .taskTimedOut
  | .agentCircuitOpened | .taskSignalReceived => true
  | _ => false

/-- Entries about tasks say nothing of the run. -/
theorem readRun_aboutTask {e : AuditEvent} (h : e.eventType.aboutTask = true) (r : RunRecord) :
    readRun id (some r) e = some (some r) := by
  have hnext : r.next e.occurredAt e.eventType = some r := by
    cases hty : e.eventType <;> rw [hty] at h <;> first | rfl | cases h
  simp [readRun, hnext]

/-- An entry is about the run that it was made for. -/
theorem ofRun_orchestrationEvent {now : Int} {ty : EventType} {corr runId : UUID}
    {cause task snapshot : Option UUID} {agent reason : Option String} {outcome : EventOutcome}
    {rest : List (String × MetaValue)} :
    (orchestrationEvent now ty corr cause runId task agent snapshot outcome reason rest).ofRun id ↔
      runId = id := by
  simp [AuditEvent.ofRun, orchestrationEvent]

/-- Entries about tasks of runs that exist, in a step that changes no run. -/
theorem tracks_aboutTask {es : List AuditEvent} (hruns : s'.runs = s.runs)
    (hevents : s'.auditEvents = s.auditEvents ++ es)
    (habout : ∀ e ∈ es, e.eventType.aboutTask = true)
    (hexists : ∀ e ∈ es, e.ofRun id → (s.runs.get? id).isSome) :
    Tracks (readRun id) (RunFits id) Store.auditEvents s s' := by
  refine ⟨es, hevents, fun x hx => ⟨x, replay_skip fun e he => ?_, by rw [RunFits, hruns]; exact hx⟩⟩
  by_cases hrun : e.ofRun id
  · obtain ⟨r, hr⟩ := Option.isSome_iff_exists.mp (hexists e he hrun)
    rw [hx, hr, Option.map_some]
    exact readRun_aboutTask (habout e he) _
  · exact readRun_other hrun

/-- One entry about one run, which changes its row accordingly. -/
theorem tracks_run {run run' : OrchestrationRun} {e : AuditEvent}
    (hrow : s.runs.get? run.orchestrationRunId = some run)
    (hid : run'.orchestrationRunId = run.orchestrationRunId)
    (hruns : s'.runs = s.runs.set run') (hevents : s'.auditEvents = s.auditEvents ++ [e])
    (hof : ∀ id, e.ofRun id ↔ run.orchestrationRunId = id)
    (hnext : run.record.next e.occurredAt e.eventType = some run'.record) :
    Tracks (readRun id) (RunFits id) Store.auditEvents s s' := by
  refine ⟨[e], hevents, fun x hx => ?_⟩
  rw [replay_singleton]
  -- the run of the entry, or another one
  by_cases hsame : run.orchestrationRunId = id
  · subst hsame
    have hnew : (s.runs.set run').get? run.orchestrationRunId = some run' := by
      rw [← hid] at hrow ⊢
      exact Table.get?_set_self hrow
    refine ⟨some run'.record, ?_, by rw [RunFits, hruns, hnew]; rfl⟩
    rw [hx, hrow, Option.map_some, readRun_next ((hof _).mpr rfl), hnext, Option.map_some]
  · refine ⟨x, readRun_other fun h => hsame ((hof id).mp h), ?_⟩
    rw [RunFits, hruns, Table.get?_set_ne (by rw [key_run, hid]; exact hsame)]
    exact hx

/-- Entries that name one run, about tasks of it. -/
theorem tracks_taskEntries {run : OrchestrationRun} {es : List AuditEvent}
    (hrow : s.runs.get? run.orchestrationRunId = some run) (hruns : s'.runs = s.runs)
    (hevents : s'.auditEvents = s.auditEvents ++ es)
    (habout : ∀ e ∈ es, e.eventType.aboutTask = true)
    (hof : ∀ e ∈ es, e.ofRun id → run.orchestrationRunId = id) :
    Tracks (readRun id) (RunFits id) Store.auditEvents s s' := by
  refine tracks_aboutTask hruns hevents habout fun e he hid => ?_
  rw [← hof e he hid, hrow]
  rfl

/-- A circuit that opens is logged once, with the task that opened it. -/
theorem circuitOpenedEvents_mem {now : Int} {result : DispatchResult} {t : AgentTask}
    {state : AgentRuntimeState} {run : OrchestrationRun} {threshold : Nat} {e : AuditEvent}
    (h : e ∈ circuitOpenedEvents now result t state run threshold) :
    e = resultEvent now .agentCircuitOpened (some t.taskId) run t .rejected result.errorCode [] := by
  unfold circuitOpenedEvents at h
  split at h
  · exact List.mem_singleton.mp h
  · cases h

/-- A verdict closes the record of its run. -/
theorem record_next_finalised {now : Int} {run : OrchestrationRun} {v : Verdict}
    (hv : Finalises now run.orchestrationRunId s run v) :
    run.record.next now v.eventType = some (finalisedRun now v run).record := by
  have hopen := hv.unfinished
  rcases decide_cases hv.decided with rfl | ⟨-, -, ⟨rfl, -⟩ | ⟨rfl, -⟩⟩ <;>
    simp [RunRecord.next, RunRecord.close, hopen, criticalVerdict, fullVerdict, degradedVerdict,
      finalisedRun, OrchestrationRun.record]

/-- A new run is read from its first entries. -/
theorem tracks_planned {now : Int} {args : CreateArgs} {run : OrchestrationRun}
    {new : List AgentTask} (h : Planned now args s s' run new)
    (hevents : s'.auditEvents = s.auditEvents ++ planEvents now args run new) :
    Tracks (readRun id) (RunFits id) Store.auditEvents s s' := by
  refine ⟨planEvents now args run new, hevents, fun x hx => ?_⟩
  have hof : ∀ e ∈ planEvents now args run new, e.ofRun id → run.orchestrationRunId = id := by
    intro e he hid
    unfold planEvents at he
    split at he
    · simp only [List.cons_append, List.mem_cons, List.mem_append, List.mem_map,
        List.not_mem_nil, or_false] at he
      rcases he with rfl | ⟨t, -, rfl⟩ | rfl <;> exact ofRun_orchestrationEvent.mp hid
    · simp only [List.append_nil, List.mem_cons, List.mem_map] at he
      rcases he with rfl | ⟨t, -, rfl⟩ <;> exact ofRun_orchestrationEvent.mp hid
  by_cases hsame : run.orchestrationRunId = id
  · subst hsame
    refine ⟨some run.record, ?_, by rw [RunFits, h.get?_run]; rfl⟩
    have hcreated : readRun run.orchestrationRunId x (runCreatedEvent now args run) =
        some (some ⟨.dispatching, none, none⟩) := by
      rw [hx, h.fresh]
      exact readRun_created (ofRun_orchestrationEvent.mpr rfl) rfl
    have htasks : replay (readRun run.orchestrationRunId) (some ⟨.dispatching, none, none⟩)
        (new.map (taskCreatedEvent now args run)) = some (some ⟨.dispatching, none, none⟩) := by
      apply replay_skip
      intro e he
      obtain ⟨t, -, rfl⟩ := List.mem_map.mp he
      exact readRun_aboutTask rfl _
    obtain ⟨_, _, _, hrow⟩ := h.row
    rw [planEvents, List.cons_append, replay_cons hcreated, replay_append, htasks,
      Option.bind_some]
    -- the last entry, if any, is the verdict that the row was written with
    by_cases hmiss : missingRequired args s = []
    · have hnone : run.metadata.missingRequired = [] := by rw [hrow]; exact hmiss
      rw [if_neg (not_not.mpr hnone), replay_nil, hrow]
      simp [OrchestrationRun.record, planRun, hmiss]
    · have hsome : run.metadata.missingRequired ≠ [] := by rw [hrow]; exact hmiss
      have hof' : (planFailedEvent now args run).ofRun run.orchestrationRunId :=
        ofRun_orchestrationEvent.mpr rfl
      rw [if_pos hsome, replay_singleton, readRun_next hof', hrow]
      simp [OrchestrationRun.record, planRun, hmiss, planFailedEvent, orchestrationEvent,
        RunRecord.next, RunRecord.close, criticalVerdict, Quorum.finalised]
  · refine ⟨x, replay_skip fun e he => readRun_other fun hid => hsame (hof e he hid), ?_⟩
    rw [RunFits, hx]
    cases hold : s.runs.get? id with
    | some r => rw [Table.get?_append h.runs hold]
    | none =>
      have hnone : s'.runs.get? id = none := by
        rw [Table.get?_eq_none] at hold ⊢
        intro r hr
        rw [h.runs, List.mem_append, List.mem_singleton] at hr
        rcases hr with hr | rfl
        · exact hold r hr
        · exact hsame
      rw [hnone]

/-- Every entry is read as the change of the run that it stands for. -/
theorem Entry.tracks_run (h : Entry s s') (id : UUID) :
    Tracks (readRun id) (RunFits id) Store.auditEvents s s' := by
  cases h with
  | unlogged hruns _ hevents =>
    exact .silent hevents fun x hx => by rw [RunFits, hruns]; exact hx
  | @foreign e hruns _ hevents hrun _ =>
    -- no run is named
    have hnone : ¬ e.ofRun id := by
      rw [AuditEvent.ofRun, hrun]
      simp
    refine ⟨[e], hevents, fun x hx => ⟨x, ?_, by rw [RunFits, hruns]; exact hx⟩⟩
    rw [replay_singleton, readRun_other hnone]
  | planned hp hevents => exact tracks_planned hp hevents
  | started _ _ hrow hruns _ hevents =>
    refine tracks_taskEntries hrow hruns hevents (fun e he => ?_) fun e he hid => ?_
    · rw [List.mem_singleton.mp he]
      rfl
    · rw [List.mem_singleton.mp he] at hid
      exact ofRun_orchestrationEvent.mp hid
  | @acknowledged now result t run _ _ hrow hruns _ hevents =>
    exact @Tomiris.tracks_run id s s' run { run with status := .collecting } _ hrow rfl hruns hevents
      (fun _ => ofRun_orchestrationEvent) rfl
  | retried _ _ hrow hruns _ hevents =>
    refine tracks_taskEntries hrow hruns hevents (fun e he => ?_) fun e he hid => ?_
    · rcases List.mem_append.mp he with he | he
      · rw [circuitOpenedEvents_mem he]
        rfl
      · rw [List.mem_singleton.mp he]
        rfl
    · rcases List.mem_append.mp he with he | he
      · rw [circuitOpenedEvents_mem he] at hid
        exact ofRun_orchestrationEvent.mp hid
      · rw [List.mem_singleton.mp he] at hid
        exact ofRun_orchestrationEvent.mp hid
  | failed _ _ hrow hruns _ hevents =>
    refine tracks_taskEntries hrow hruns hevents (fun e he => ?_) fun e he hid => ?_
    · rcases List.mem_append.mp he with he | he
      · rw [circuitOpenedEvents_mem he]
        rfl
      · rw [List.mem_singleton.mp he]
        rfl
    · rcases List.mem_append.mp he with he | he
      · rw [circuitOpenedEvents_mem he] at hid
        exact ofRun_orchestrationEvent.mp hid
      · rw [List.mem_singleton.mp he] at hid
        exact ofRun_orchestrationEvent.mp hid
  | expired _ _ hrow hruns _ hevents =>
    refine tracks_taskEntries hrow hruns hevents (fun e he => ?_) fun e he hid => ?_
    · rw [List.mem_singleton.mp he]
      rfl
    · rw [List.mem_singleton.mp he] at hid
      exact ofRun_orchestrationEvent.mp hid
  | @recovered now run _ hrow hopen _ hruns hevents =>
    refine Tomiris.tracks_run hrow ?_ hruns hevents (fun _ => ofRun_orchestrationEvent) ?_
    · unfold reopenedRun
      split <;> rfl
    · change run.record.next now .orchestrationRecovered = some (reopenedRun run).record
      by_cases hto : run.status = .timedOut
      · simp [RunRecord.next, OrchestrationRun.record, reopenedRun, hto, Quorum.finalised]
      · simp [RunRecord.next, OrchestrationRun.record, reopenedRun, hto, hopen]
  | @finalised now run v hv hstore =>
    subst hstore
    exact @Tomiris.tracks_run id s _ run (finalisedRun now v run) _ hv.row rfl rfl rfl
      (fun _ => ofRun_orchestrationEvent) (record_next_finalised hv)
  | @received now e t hash requestId _ _ _ hrun hruns _ hevents =>
    refine tracks_aboutTask hruns hevents (fun e he => ?_) fun e he hid => ?_
    · rw [List.mem_singleton.mp he]
      rfl
    · rw [List.mem_singleton.mp he] at hid
      have hsame : t.orchestrationRunId = id := by
        have hnext : ("orchestration_run_id" == "task_id") = false := by decide
        simpa [AuditEvent.ofRun, Ingest.taskReceivedEvent, List.lookup_cons, hnext] using hid
      rw [← hsame]
      exact hrun

end Runs

/-- What holds of the empty store and every entry keeps is read from the log of every reachable
    state. -/
theorem System.Reachable.readable {σ : Type} {read : σ → AuditEvent → Option σ}
    {fits : σ → Store → Prop} {start : σ} {cfg : Config} {sys : System} (h : sys.Reachable cfg)
    (hstart : fits start System.initial.store)
    (hentry : ∀ s s', Entry s s' → Tracks read fits Store.auditEvents s s') :
    ∃ x, replay read start sys.store.auditEvents = some x ∧ fits x sys.store := by
  apply h.invariant_with
    (I := fun u => ∃ x, replay read start u.store.auditEvents = some x ∧ fits x u.store)
    ⟨start, rfl, hstart⟩ (fun _ hu => System.Reachable.planning hu.any)
  intro u a v hplan hu _ hstep
  exact (Tracks.of_reflTransGen hentry (System.entries_of_step hplan hstep)).readable hu

/-- The log of every run is accepted, and read to the end it gives the run as it is stored. -/
theorem runs_replayed {cfg : Config} {sys : System} (hreach : sys.Reachable cfg) (id : UUID) :
    replay (readRun id) none sys.store.auditEvents =
      some ((sys.store.runs.get? id).map (·.record)) := by
  have hread : ∃ x, replay (readRun id) none sys.store.auditEvents = some x ∧
      RunFits id x sys.store := hreach.readable rfl fun _ _ h => h.tracks_run id
  obtain ⟨x, hx, hfits⟩ := hread
  rw [hx, hfits]

open Deployment in
/-- The journal of a run that ended `FULL` at second 7. -/
theorem runs_replayed_settled :
    replay (readRun 100) none settled.store.auditEvents =
      some (some ⟨.full, some .full, some (seconds 7)⟩) := by
  rw [runs_replayed settled_orderly.any 100]
  decide +kernel

/-! ## Tasks -/

/-- What is read about a task agrees with its row. -/
structure TaskRecord.Fits (r : TaskRecord) (t : AgentTask) : Prop where
  agent : r.agentId = t.agentId
  attempts : r.attempts = t.attemptCount
  inFlight : t.status = .dispatching → r.phase = .inFlight
  done : r.phase = .done → terminal t.status = true

/-- There is a row for what is read, and it agrees. -/
def TaskFits (id : UUID) (x : Option TaskRecord) (s : Store) : Prop :=
  Option.Rel TaskRecord.Fits x (s.tasks.get? id)

section Tasks

variable {id : UUID} {s s' : Store}

/-- Other tasks are skipped. -/
theorem readTask_other {x : Option TaskRecord} {e : AuditEvent} (h : ¬ e.ofTask id) :
    readTask id x e = some x := if_neg h

/-- The record says what may come next, with which number. -/
theorem readTask_next {e : AuditEvent} {r r' : TaskRecord} (hof : e.ofTask id)
    (hagent : e.agentId = some r.agentId)
    (h : r.next e.eventType (e.metadata.lookup "attempt") = some r') :
    readTask id (some r) e = some (some r') := by
  unfold readTask
  simp only [hof, hagent, h, ↓reduceIte, Option.map_some]

/-- Names of metadata that differ. -/
private theorem task_ne_run : ("task_id" == "orchestration_run_id") = false := by decide

private theorem attempt_ne_run : ("attempt" == "orchestration_run_id") = false := by decide

private theorem attempt_ne_task : ("attempt" == "task_id") = false := by decide

section Events

variable {now : Int} {ty : EventType} {corr runId taskId : UUID} {cause snapshot : Option UUID}
  {agent reason : Option String} {outcome : EventOutcome} {rest : List (String × MetaValue)}

/-- An entry is about the task that it was made for. -/
theorem ofTask_orchestrationEvent :
    (orchestrationEvent now ty corr cause runId (some taskId) agent snapshot outcome reason
      rest).ofTask id ↔ taskId = id := by
  simp [AuditEvent.ofTask, orchestrationEvent, List.lookup_cons, task_ne_run]

/-- The number of the attempt is among the metadata that were added. -/
theorem attempt_orchestrationEvent :
    (orchestrationEvent now ty corr cause runId (some taskId) agent snapshot outcome reason
      rest).metadata.lookup "attempt" = rest.lookup "attempt" := by
  simp [orchestrationEvent, List.lookup_cons, attempt_ne_run, attempt_ne_task]

/-- An entry without a task is about none. -/
theorem not_ofTask_orchestrationEvent (h : rest.lookup "task_id" = none) :
    ¬ (orchestrationEvent now ty corr cause runId none agent snapshot outcome reason
      rest).ofTask id := by
  simp [AuditEvent.ofTask, orchestrationEvent, List.lookup_cons, task_ne_run, h]

end Events

/-- Rows that change without an entry. -/
theorem tracks_unlogged {es : List AuditEvent} (htasks : s.tasks.Moves Unlogged s'.tasks)
    (hevents : s'.auditEvents = s.auditEvents ++ es) (hother : ∀ e ∈ es, ¬ e.ofTask id) :
    Tracks (readTask id) (TaskFits id) Store.auditEvents s s' := by
  refine ⟨es, hevents, fun x hx => ⟨x, replay_skip fun e he => readTask_other (hother e he), ?_⟩⟩
  unfold TaskFits at hx ⊢
  cases hold : s.tasks.get? id with
  | none =>
    -- a row that is not there does not appear
    have hnone : s'.tasks.get? id = none := by
      cases hnew : s'.tasks.get? id with
      | none => rfl
      | some t' =>
        obtain ⟨t, ht, -⟩ := htasks.get?_new hnew
        rw [hold] at ht
        cases ht
    rwa [hnone, ← hold]
  | some t =>
    obtain ⟨t', ht', hun⟩ := htasks.get?_old hold
    rw [hold] at hx
    rw [ht']
    cases hx with
    | some hfits =>
      exact .some
        { agent := hfits.agent.trans (agentId_of_columns hun.columns).symm
          attempts := hfits.attempts.trans hun.attempts.symm
          inFlight := fun h => hfits.inFlight (hun.dispatching h)
          done := fun h => hun.terminal (hfits.done h) }

/-- Entries about one task, which change its row accordingly. -/
theorem tracks_task {t t' : AgentTask} {es : List AuditEvent}
    (hrow : s.tasks.get? t.taskId = some t) (htasks : s'.tasks = s.tasks.set t')
    (hid : t'.taskId = t.taskId) (hevents : s'.auditEvents = s.auditEvents ++ es)
    (hof : ∀ e ∈ es, ∀ id, e.ofTask id → t.taskId = id)
    (hnext : ∀ r : TaskRecord, r.Fits t → ∃ r' : TaskRecord,
      replay (readTask t.taskId) (some r) es = some (some r') ∧ r'.Fits t') :
    Tracks (readTask id) (TaskFits id) Store.auditEvents s s' := by
  refine ⟨es, hevents, fun x hx => ?_⟩
  unfold TaskFits at hx ⊢
  rw [htasks]
  -- the task of the entries, or another one
  by_cases hsame : t.taskId = id
  · subst hsame
    rw [hrow] at hx
    have hnew : (s.tasks.set t').get? t.taskId = some t' := by
      rw [← hid] at hrow ⊢
      exact Table.get?_set_self hrow
    rw [hnew]
    cases hx with
    | some hfits =>
      obtain ⟨r', hr', hfits'⟩ := hnext _ hfits
      exact ⟨some r', hr', .some hfits'⟩
  · refine ⟨x, replay_skip fun e he => readTask_other fun h => hsame (hof e he id h), ?_⟩
    rw [Table.get?_set_ne (by rw [key_task, hid]; exact hsame)]
    exact hx

/-- The entries of new tasks. -/
theorem replay_created {now : Int} {args : CreateArgs} {run : OrchestrationRun}
    {new : List AgentTask} (hnd : (new.map (·.taskId)).Nodup) :
    replay (readTask id) none (new.map (taskCreatedEvent now args run)) =
      some ((new.find? (·.taskId = id)).map fun t => ⟨t.agentId, 0, .waiting⟩) := by
  induction new with
  | nil => rfl
  | cons t rest ih =>
    rw [List.map_cons, List.nodup_cons] at hnd
    by_cases hsame : t.taskId = id
    · subst hsame
      have hof : (taskCreatedEvent now args run t).ofTask t.taskId :=
        ofTask_orchestrationEvent.mpr rfl
      have hread : readTask t.taskId none (taskCreatedEvent now args run t) =
          some (some ⟨t.agentId, 0, .waiting⟩) := by
        unfold readTask
        simp only [hof, ↓reduceIte]
        rfl
      rw [List.map_cons, replay_cons hread, List.find?_cons_of_pos (by simp)]
      -- the other tasks have other ids
      apply replay_skip
      intro e he
      obtain ⟨u, hu, rfl⟩ := List.mem_map.mp he
      apply readTask_other
      intro hother
      have huid : u.taskId = t.taskId := ofTask_orchestrationEvent.mp hother
      exact hnd.1 (huid ▸ List.mem_map_of_mem hu)
    · have hskip : readTask id none (taskCreatedEvent now args run t) = some none :=
        readTask_other fun h => hsame (ofTask_orchestrationEvent.mp h)
      rw [List.map_cons, replay_cons hskip, List.find?_cons_of_neg (by simpa using hsame)]
      exact ih hnd.2

/-- A task as it is planned. -/
theorem PlannedTask.fits {now : Int} {args : CreateArgs} {run : OrchestrationRun} {t : AgentTask}
    (h : PlannedTask now args s run t) : TaskRecord.Fits ⟨t.agentId, 0, .waiting⟩ t := by
  obtain ⟨_, _, _, rfl, -⟩ := h
  refine ⟨rfl, rfl, fun h => ?_, fun h => by cases h⟩
  simp only [planTask] at h
  split at h <;> cases h

/-- A plan opens the journals of its tasks. -/
theorem tracks_tasks_planned {now : Int} {args : CreateArgs} {run : OrchestrationRun}
    {new : List AgentTask} (h : Planned now args s s' run new)
    (hevents : s'.auditEvents = s.auditEvents ++ planEvents now args run new) :
    Tracks (readTask id) (TaskFits id) Store.auditEvents s s' := by
  refine ⟨planEvents now args run new, hevents, fun x hx => ?_⟩
  have hnd : (new.map (·.taskId)).Nodup := by
    have := s'.tasks.nodup
    rw [h.tasks, List.map_append] at this
    exact (List.nodup_append.mp this).2.1
  have hget : s'.tasks.get? id = (s.tasks.get? id).or (new.find? (·.taskId = id)) := by
    unfold Table.get?
    rw [h.tasks, List.find?_append]
    rfl
  -- the first and the last entry name no task
  have hfirst : readTask id x (runCreatedEvent now args run) = some x :=
    readTask_other (not_ofTask_orchestrationEvent (by simp [List.lookup_cons]))
  have hlast : ∀ y, replay (readTask id) y (if run.metadata.missingRequired ≠ [] then
      [planFailedEvent now args run] else []) = some y := by
    intro y
    apply replay_skip
    intro e he
    split at he
    · rw [List.mem_singleton.mp he]
      exact readTask_other (not_ofTask_orchestrationEvent (by simp [List.lookup_cons]))
    · cases he
  unfold TaskFits at hx ⊢
  rw [planEvents, List.cons_append, replay_cons hfirst, replay_append, hget]
  cases hold : s.tasks.get? id with
  | none =>
    rw [hold] at hx
    cases hx with
    | none =>
      rw [replay_created hnd, Option.bind_some, hlast, Option.none_or]
      refine ⟨_, rfl, ?_⟩
      cases hfind : new.find? (·.taskId = id) with
      | none => exact .none
      | some t => exact .some (h.planned t (List.mem_of_find?_eq_some hfind)).fits
  | some t =>
    have hskip : replay (readTask id) x (new.map (taskCreatedEvent now args run)) = some x := by
      apply replay_skip
      intro e he
      obtain ⟨u, hu, rfl⟩ := List.mem_map.mp he
      apply readTask_other
      intro hof
      have huid : u.taskId = id := ofTask_orchestrationEvent.mp hof
      have hmem : u ∈ s'.tasks.rows := by
        rw [h.tasks]
        exact List.mem_append_right _ hu
      have hsame := Table.get?_of_mem hmem
      rw [key_task, huid, Table.get?_append h.tasks hold] at hsame
      -- an old key is not used again
      have hnodup := s'.tasks.nodup
      rw [h.tasks, List.map_append] at hnodup
      have htid : t.taskId = id := Table.key_of_get? hold
      exact (List.nodup_append.mp hnodup).2.2 _ (List.mem_map_of_mem (Table.mem_of_get? hold)) _
        (List.mem_map_of_mem hu) (by rw [key_task, key_task, htid, huid])
    rw [hskip, Option.bind_some, hlast, Option.some_or]
    rw [hold] at hx
    exact ⟨x, rfl, hx⟩

/-! ### Entries that write a row -/

section Rows

variable {r : TaskRecord} {t t' : AgentTask}

/-- The journal of a task that has not ended is open. -/
theorem TaskRecord.Fits.not_done (h : r.Fits t) (hopen : terminal t.status = false) :
    r.phase ≠ .done := by
  intro hdone
  have hterminal := h.done hdone
  rw [hopen] at hterminal
  cases hterminal

/-- The attempt is over, and another one may follow. -/
theorem TaskRecord.Fits.toWaiting (h : r.Fits t) (hagent : t'.agentId = t.agentId)
    (hattempts : t'.attemptCount = t.attemptCount) (hst : t'.status ≠ .dispatching) :
    TaskRecord.Fits { r with phase := .waiting } t' :=
  ⟨h.agent.trans hagent.symm, h.attempts.trans hattempts.symm, fun hd => absurd hd hst,
    fun hd => by cases hd⟩

/-- Nothing follows. -/
theorem TaskRecord.Fits.toDone (h : r.Fits t) (hagent : t'.agentId = t.agentId)
    (hattempts : t'.attemptCount = t.attemptCount) (hst : t'.status ≠ .dispatching)
    (hterminal : terminal t'.status = true) : TaskRecord.Fits { r with phase := .done } t' :=
  ⟨h.agent.trans hagent.symm, h.attempts.trans hattempts.symm, fun hd => absurd hd hst,
    fun _ => hterminal⟩

/-- An event about a task row is read as one about its record. -/
theorem readTask_event {now : Int} {ty : EventType} {corr runId : UUID} {r' : TaskRecord}
    {cause snapshot : Option UUID} {outcome : EventOutcome} {reason : Option String}
    {rest : List (String × MetaValue)} (h : r.Fits t)
    (hnext : r.next ty (rest.lookup "attempt") = some r') :
    readTask t.taskId (some r) (orchestrationEvent now ty corr cause runId (some t.taskId)
      (some t.agentId) snapshot outcome reason rest) = some (some r') := by
  apply readTask_next (ofTask_orchestrationEvent.mpr rfl) (congrArg some h.agent.symm)
  rw [attempt_orchestrationEvent]
  exact hnext

/-- The entry of a result, after that of a circuit that it has opened. -/
theorem replay_result {now : Int} {result : DispatchResult} {state : AgentRuntimeState}
    {run : OrchestrationRun} {threshold : Nat} {r' : TaskRecord} {e : AuditEvent}
    (hfits : r.Fits t) (hst : t.status = .dispatching)
    (hread : readTask t.taskId (some r) e = some (some r')) :
    replay (readTask t.taskId) (some r)
      (circuitOpenedEvents now result t state run threshold ++ [e]) = some (some r') := by
  have hopened : replay (readTask t.taskId) (some r)
      (circuitOpenedEvents now result t state run threshold) = some (some r) := by
    apply replay_skip
    intro o ho
    rw [circuitOpenedEvents_mem ho]
    apply readTask_event hfits
    simp [TaskRecord.next, hfits.inFlight hst]
  rw [replay_append, hopened, Option.bind_some, replay_singleton, hread]

/-- All that a result logs is about its task. -/
theorem ofTask_result {now : Int} {result : DispatchResult} {state : AgentRuntimeState}
    {run : OrchestrationRun} {threshold : Nat} {e last : AuditEvent}
    (hlast : ∀ id, last.ofTask id → t.taskId = id)
    (he : e ∈ circuitOpenedEvents now result t state run threshold ++ [last]) (id : UUID)
    (hof : e.ofTask id) : t.taskId = id := by
  rcases List.mem_append.mp he with he | he
  · rw [circuitOpenedEvents_mem he] at hof
    exact ofTask_orchestrationEvent.mp hof
  · rw [List.mem_singleton.mp he] at hof
    exact hlast id hof

/-- One entry about a task row. -/
theorem tracks_taskEvent {now : Int} {ty : EventType} {corr runId : UUID}
    {cause snapshot : Option UUID} {outcome : EventOutcome} {reason : Option String}
    {rest : List (String × MetaValue)} (hrow : s.tasks.get? t.taskId = some t)
    (htasks : s'.tasks = s.tasks.set t') (hid : t'.taskId = t.taskId)
    (hevents : s'.auditEvents = s.auditEvents ++ [orchestrationEvent now ty corr cause runId
      (some t.taskId) (some t.agentId) snapshot outcome reason rest])
    (hnext : ∀ r : TaskRecord, r.Fits t →
      ∃ r', r.next ty (rest.lookup "attempt") = some r' ∧ r'.Fits t') :
    Tracks (readTask id) (TaskFits id) Store.auditEvents s s' := by
  refine tracks_task hrow htasks hid hevents (fun e he id hof => ?_) fun r hfits => ?_
  · rw [List.mem_singleton.mp he] at hof
    exact ofTask_orchestrationEvent.mp hof
  · obtain ⟨r', hr', hfits'⟩ := hnext r hfits
    exact ⟨r', by rw [replay_singleton, readTask_event hfits hr'], hfits'⟩

end Rows

/-- Every entry is read as the change of the task that it stands for. -/
theorem Entry.tracks_task (h : Entry s s') (id : UUID) :
    Tracks (readTask id) (TaskFits id) Store.auditEvents s s' := by
  cases h with
  | unlogged _ htasks hevents =>
    exact @tracks_unlogged id s s' [] htasks (by rw [hevents, List.append_nil])
      fun e he => by cases he
  | @foreign e _ htasks hevents _ htask =>
    refine tracks_unlogged (.of_eq htasks Unlogged.refl) hevents fun e' he' => ?_
    rw [List.mem_singleton.mp he', AuditEvent.ofTask, htask]
    simp
  -- the row begins with its entry
  | planned hp hevents => exact tracks_tasks_planned hp hevents
  -- an attempt: its number goes up by one, and it is in flight
  | @started w now t run hrow hopen _ _ htasks hevents =>
    apply tracks_taskEvent hrow htasks rfl hevents
    intro r hfits
    have hphase := hfits.not_done hopen
    exact ⟨{ r with attempts := t.attemptCount + 1, phase := .inFlight },
      by simp [TaskRecord.next, leasedTask, hphase, hfits.attempts],
      hfits.agent, rfl, fun _ => rfl, fun hd => by cases hd⟩
  -- an attempt ends, and the task waits
  | @acknowledged now result t run hrow hst _ _ htasks hevents =>
    apply tracks_taskEvent hrow htasks rfl hevents
    intro r hfits
    have hnext : r.next .taskAcknowledged (some (.nat t.attemptCount)) =
        some { r with phase := .waiting } := by
      simp [TaskRecord.next, hfits.inFlight hst, hfits.attempts]
    exact ⟨_, hnext, hfits.toWaiting rfl rfl (by simp [ackedTask])⟩
  | @retried now at_ result t state run threshold hrow hst _ _ htasks hevents =>
    refine Tomiris.tracks_task hrow htasks rfl hevents (fun e he id hof => ?_) fun r hfits => ?_
    · exact ofTask_result (fun _ => ofTask_orchestrationEvent.mp) he id hof
    · have hnext : r.next .taskRetryScheduled (some (.nat t.attemptCount)) =
          some { r with phase := .waiting } := by
        simp [TaskRecord.next, hfits.inFlight hst, hfits.attempts]
      exact ⟨_, replay_result hfits hst (readTask_event hfits hnext),
        hfits.toWaiting rfl rfl (by simp [retriedTask])⟩
  -- or it is done
  | @failed now result t state run threshold hrow hst _ _ htasks hevents =>
    refine Tomiris.tracks_task hrow htasks rfl hevents (fun e he id hof => ?_) fun r hfits => ?_
    · exact ofTask_result (fun _ => ofTask_orchestrationEvent.mp) he id hof
    · have hnext : r.next .taskFailed (some (.nat t.attemptCount)) =
          some { r with phase := .done } := by
        simp [TaskRecord.next, hfits.inFlight hst, hfits.attempts]
      exact ⟨_, replay_result hfits hst (readTask_event hfits hnext),
        hfits.toDone rfl rfl (by simp [failedTask]) rfl⟩
  | @expired now t run hrow hopen _ _ htasks hevents =>
    apply tracks_taskEvent hrow htasks rfl hevents
    intro r hfits
    have hphase := hfits.not_done hopen
    exact ⟨_, by simp [TaskRecord.next, hphase], hfits.toDone rfl rfl (by simp [expiredTask]) rfl⟩
  -- about the run: the task's record is kept
  | @recovered now run count _ _ htasks _ hevents =>
    refine tracks_unlogged htasks hevents fun e he => ?_
    rw [List.mem_singleton.mp he]
    exact not_ofTask_orchestrationEvent (by simp [List.lookup_cons])
  | @finalised now run v hv hstore =>
    subst hstore
    refine @tracks_unlogged id s _ [finalisationEvent now v run (s.tasksOf run.orchestrationRunId)]
      (.refl fun t _ => .refl t) rfl fun e he => ?_
    rw [List.mem_singleton.mp he]
    exact not_ofTask_orchestrationEvent (by simp [List.lookup_cons])
  | @received now e t hash requestId hrow hopen hagent _ _ htasks hevents =>
    refine Tomiris.tracks_task hrow htasks rfl hevents (fun e' he id hof => ?_) fun r hfits => ?_
    · rw [List.mem_singleton.mp he] at hof
      simpa [AuditEvent.ofTask, Ingest.taskReceivedEvent] using hof
    · have hphase := hfits.not_done hopen
      refine ⟨{ r with phase := .done }, ?_,
        hfits.toDone rfl rfl (by simp [Ingest.receivedTask]) rfl⟩
      rw [replay_singleton]
      apply readTask_next
      · simp [AuditEvent.ofTask, Ingest.taskReceivedEvent]
      · exact congrArg some (hagent.symm.trans hfits.agent.symm)
      · simp [TaskRecord.next, Ingest.taskReceivedEvent, hphase]

end Tasks

/-- The event starts an attempt of the task. -/
def AuditEvent.starts (id : UUID) (e : AuditEvent) : Bool :=
  decide (e.ofTask id) && e.eventType = .taskDispatchStarted

/-- Only a start counts an attempt. -/
theorem TaskRecord.next_attempts {r r' : TaskRecord} {ty : EventType} {attempt : Option MetaValue}
    (h : r.next ty attempt = some r') :
    r'.attempts = r.attempts + if ty = .taskDispatchStarted then 1 else 0 := by
  unfold TaskRecord.next at h
  split at h
  case h_1 n =>
    obtain ⟨hn, h⟩ := Option.ite_none_right_eq_some.mp h
    cases h
    simp [hn.2]
  case h_8 => cases h
  all_goals
    obtain ⟨-, h⟩ := Option.ite_none_right_eq_some.mp h
    cases h
    simp

/-- The log counts the attempts by their starts. -/
theorem readTask_starts {id : UUID} {x y : Option TaskRecord} {e : AuditEvent}
    (h : readTask id x e = some y) :
    (y.map (·.attempts)).getD 0 =
      (x.map (·.attempts)).getD 0 + if e.starts id = true then 1 else 0 := by
  -- an entry about the task, or about another one
  by_cases hof : e.ofTask id
  · cases x with
    | none =>
      simp only [readTask, hof, ↓reduceIte] at h
      obtain ⟨hty, h⟩ := Option.ite_none_right_eq_some.mp h
      obtain ⟨agentId, -, rfl⟩ := Option.map_eq_some_iff.mp h
      simp [AuditEvent.starts, hty]
    | some r =>
      simp only [readTask, hof, ↓reduceIte] at h
      obtain ⟨-, h⟩ := Option.ite_none_right_eq_some.mp h
      obtain ⟨r', hr', rfl⟩ := Option.map_eq_some_iff.mp h
      have hcount := TaskRecord.next_attempts hr'
      simpa [AuditEvent.starts, hof] using hcount
  · rw [readTask_other hof] at h
    cases h
    simp [AuditEvent.starts, hof]

/-- The log of every task is accepted: it begins with the creation of the task, its attempts are
    numbered in order, each of them has at most one outcome, which carries its number, all
    entries are about the agent that the task was created for, and nothing follows a failure, a
    timeout or the signal. Read to the end it agrees with the row, and the attempts of the
    row are the starts on record. -/
theorem attempts_journalled {cfg : Config} {sys : System} (hreach : sys.Reachable cfg) (id : UUID) :
    ∃ x, replay (readTask id) none sys.store.auditEvents = some x ∧ TaskFits id x sys.store ∧
      ∀ t, sys.store.tasks.get? id = some t →
        t.attemptCount = sys.store.auditEvents.countP (·.starts id) := by
  have hread : ∃ x, replay (readTask id) none sys.store.auditEvents = some x ∧
      TaskFits id x sys.store := hreach.readable .none fun _ _ h => h.tracks_task id
  obtain ⟨x, hx, hfits⟩ := hread
  refine ⟨x, hx, hfits, fun t ht => ?_⟩
  -- the record counts what the log starts
  have hcount : (x.map (·.attempts)).getD 0 = 0 + sys.store.auditEvents.countP (·.starts id) :=
    replay_count (fun _ _ _ h => readTask_starts h) hx
  unfold TaskFits at hfits
  rw [ht] at hfits
  cases hfits with
  | some hfits =>
    rw [← hfits.attempts]
    simpa using hcount

open Deployment in
/-- The journal of task 200, which took one attempt. -/
theorem attempts_journalled_settled :
    ∃ x, replay (readTask 200) none settled.store.auditEvents = some x ∧
      settled.store.auditEvents.countP (·.starts 200) = 1 := by
  obtain ⟨x, hx, -, hcount⟩ := attempts_journalled settled_orderly.any 200
  obtain ⟨t, ht, hone⟩ := Option.map_eq_some_iff.mp
    (by decide +kernel : (settled.store.tasks.get? 200).map (·.attemptCount) = some 1)
  exact ⟨x, hx, (hcount t ht).symm.trans hone⟩

end Tomiris
