import Tomiris.Spec.Circuit

/-!
# Bystanders

Health probes write to the table that the circuits are kept in, and every request that the Hub
turns down writes to the audit log that orchestration writes to as well. Neither has any part in
the work: a run without them ends with the same rows, the same commands in the processes, the
same circuits and the same log of what has been done.

## Key results

- `SameWork`: the stores agree on all that the work consists of
- `sameWork_claim`, `sameWork_recordResult`, `sameWork_ingested`, …: no transaction looks at more
- `bystanders_passive`: leaving the bystanders out of a run changes nothing else
-/

namespace Tomiris

open Dispatch Recovery Quorum

/-! ## What the work consists of -/

/-- A row that `record_rejection` has written. -/
def AuditEvent.turnedDown (e : AuditEvent) : Bool :=
  e.eventType = .signalIngestion && e.outcome = .rejected

/-- The log of the work. -/
def Store.workLog (s : Store) : List AuditEvent := s.auditEvents.filter (! ·.turnedDown)

/-- The health columns of the runtime states apart, and the record of requests turned down, the
    two stores are the same. -/
structure SameWork (s s' : Store) : Prop where
  agents : s'.agents = s.agents
  endpoints : s'.endpoints = s.endpoints
  snapshots : s'.snapshots = s.snapshots
  runs : s'.runs = s.runs
  tasks : s'.tasks = s.tasks
  nonces : s'.nonces = s.nonces
  signals : s'.signals = s.signals
  breaker : ∀ agentId, s'.breaker agentId = s.breaker agentId
  log : s'.workLog = s.workLog

namespace SameWork

variable {s s' : Store}

/-- A database does the same work as itself. -/
theorem refl (s : Store) : SameWork s s := ⟨rfl, rfl, rfl, rfl, rfl, rfl, rfl, fun _ => rfl, rfl⟩

/-- A task is written over in both. -/
theorem setTask (h : SameWork s s') (t : AgentTask) : SameWork (s.setTask t) (s'.setTask t) :=
  { h with tasks := congrArg (·.set t) h.tasks }

/-- A run is written over in both. -/
theorem setRun (h : SameWork s s') (r : OrchestrationRun) :
    SameWork (s.setRun r) (s'.setRun r) :=
  { h with runs := congrArg (·.set r) h.runs }

/-- Both logs go on with the same entries. -/
theorem addEvents (h : SameWork s s') (es : List AuditEvent) :
    SameWork { s with auditEvents := s.auditEvents ++ es }
      { s' with auditEvents := s'.auditEvents ++ es } :=
  { h with
    log := by
      have hlog := h.log
      simp only [Store.workLog] at hlog
      simp only [Store.workLog, List.filter_append, hlog] }

/-- An audit row is added in both. -/
theorem addEvent (h : SameWork s s') (e : AuditEvent) :
    SameWork (s.addEvent e) (s'.addEvent e) := h.addEvents [e]

/-- The states of an agent agree on its circuit, and may differ in what probes write. -/
theorem putRuntimeState (h : SameWork s s') {state state' : AgentRuntimeState}
    (hagent : state'.agentId = state.agentId) (hbreaker : state'.breaker = state.breaker) :
    SameWork (s.putRuntimeState state) (s'.putRuntimeState state') :=
  { h with
    breaker := by
      intro agentId
      rw [breaker_putRuntimeState, breaker_putRuntimeState, hagent, hbreaker, h.breaker] }

/-- Writing a runtime state with the circuit that its agent has. -/
theorem of_put (h : SameWork s s') {state : AgentRuntimeState}
    (hbreaker : state.breaker = s'.breaker state.agentId) :
    SameWork s (s'.putRuntimeState state) :=
  { h with
    breaker := by
      intro agentId
      rw [breaker_putRuntimeState]
      split
      · rename_i hag
        rw [hbreaker, hag, h.breaker]
      · exact h.breaker agentId }

/-- It does not matter which of the two was probed. -/
theorem symm (h : SameWork s s') : SameWork s' s :=
  ⟨h.agents.symm, h.endpoints.symm, h.snapshots.symm, h.runs.symm, h.tasks.symm, h.nonces.symm,
    h.signals.symm, fun a => (h.breaker a).symm, h.log.symm⟩

/-- More probes are no other than one. -/
theorem trans {s'' : Store} (h : SameWork s s') (h' : SameWork s' s'') : SameWork s s'' :=
  ⟨h'.agents.trans h.agents, h'.endpoints.trans h.endpoints, h'.snapshots.trans h.snapshots,
    h'.runs.trans h.runs, h'.tasks.trans h.tasks, h'.nonces.trans h.nonces,
    h'.signals.trans h.signals, fun a => (h'.breaker a).trans (h.breaker a), h'.log.trans h.log⟩

/-- The tasks of a run are read alike. -/
theorem tasksOf (h : SameWork s s') (runId : UUID) : s'.tasksOf runId = s.tasksOf runId := by
  simp only [Store.tasksOf, h.tasks]

/-- So is a batch of tasks. -/
theorem tasksAt (h : SameWork s s') (ids : List UUID) : s'.tasksAt ids = s.tasksAt ids := by
  simp only [Store.tasksAt, h.tasks]

/-- And a batch of runs. -/
theorem runsAt (h : SameWork s s') (ids : List UUID) : s'.runsAt ids = s.runsAt ids := by
  simp only [Store.runsAt, h.runs]

end SameWork

/-- Rows with the same circuit show the same of it. -/
theorem circuit_of_breaker {state state' : AgentRuntimeState}
    (h : state'.breaker = state.breaker) : state'.circuitState = state.circuitState ∧
      state'.consecutiveFailures = state.consecutiveFailures ∧
      state'.circuitOpenUntil = state.circuitOpenUntil := by
  obtain ⟨hphase, hfailures, hopen⟩ := Breaker.mk.inj h
  refine ⟨?_, hfailures, hopen⟩
  cases hc : state.circuitState <;> cases hc' : state'.circuitState <;>
    simp [hc, hc', CircuitState.phase] at hphase ⊢

/-! ## Transactions of the orchestrator -/

section Transactions

variable {s s' : Store}

/-- Locking the state of an agent may make one, with the circuit closed as it was. -/
private theorem lockRuntimeState_sameWork (now : Int) (agentId : String) (s : Store) :
    SameWork s (lockRuntimeState now agentId s).1 ∧
      (lockRuntimeState now agentId s).2.agentId = agentId ∧
      (lockRuntimeState now agentId s).2.breaker = s.breaker agentId := by
  unfold lockRuntimeState
  cases hget : s.runtimeStates.get? agentId with
  | some state => exact ⟨.refl s, Table.key_of_get? hget, (breaker_of_get? hget).symm⟩
  | none =>
    -- the fresh row says what the missing one did
    have hfresh : (freshRuntimeState now agentId).breaker = s.breaker agentId := by
      rw [Store.breaker, hget]
      rfl
    exact ⟨(SameWork.refl s).of_put hfresh, rfl, hfresh⟩

/-- Only the circuit of the agent decides about a claim. -/
theorem circuitBlocks_congr {now : Int} {state state' : AgentRuntimeState}
    (h : state'.breaker = state.breaker) : circuitBlocks now state' = circuitBlocks now state := by
  obtain ⟨hstate, -, hopen⟩ := circuit_of_breaker h
  simp only [circuitBlocks, hstate, hopen]

/-- A claim asks the circuit, which is the same. -/
theorem sameWork_claimTask (h : SameWork s s') (w : DispatchWorker) (now : Int) (t : AgentTask) :
    SameWork (claimTask w now t s).1 (claimTask w now t s').1 ∧
      (claimTask w now t s').2 = (claimTask w now t s).2 := by
  obtain ⟨hs, ha, hb⟩ := lockRuntimeState_sameWork now t.agentId s
  obtain ⟨hs', ha', hb'⟩ := lockRuntimeState_sameWork now t.agentId s'
  have hlocked := (hs.symm.trans h).trans hs'
  have hbreaker : (lockRuntimeState now t.agentId s').2.breaker =
      (lockRuntimeState now t.agentId s).2.breaker := by rw [hb, hb', h.breaker]
  have hprobed : (probedState now (lockRuntimeState now t.agentId s').2).breaker =
      (probedState now (lockRuntimeState now t.agentId s).2).breaker := by
    rw [breaker_probedState, breaker_probedState, hbreaker]
  -- the decision asks the circuit of the agent and nothing else of its state
  have hdecision : ∀ run endpoint, decideClaim now run endpoint
      (lockRuntimeState now t.agentId s').2 =
        decideClaim now run endpoint (lockRuntimeState now t.agentId s).2 := by
    intro run endpoint
    simp only [decideClaim, circuitBlocks_congr hbreaker]
  simp only [claimTask, hdecision, hlocked.runs, hlocked.endpoints]
  -- cancelled, failed or put off: only the task is written; or leased, with an event
  split
  · exact ⟨hlocked.setTask _, rfl⟩
  · exact ⟨hlocked.setTask _, rfl⟩
  · exact ⟨hlocked.setTask _, rfl⟩
  · refine ⟨((hlocked.putRuntimeState ?_ hprobed).setTask _).addEvent _, rfl⟩
    rw [probedState_agentId, probedState_agentId, ha, ha']

/-- A batch of claims, whose commands are the same. -/
theorem sameWork_claim (h : SameWork s s') (w : DispatchWorker) (now : Int)
    (picked : List AgentTask) : SameWork (claim w now picked s).1 (claim w now picked s').1 ∧
      (claim w now picked s').2 = (claim w now picked s).2 := by
  induction picked generalizing s s' with
  | nil => exact ⟨h, rfl⟩
  | cons t rest ih =>
    obtain ⟨hstore, hcommand⟩ := sameWork_claimTask h w now t
    obtain ⟨hrest, hcommands⟩ := ih hstore
    refine ⟨hrest, ?_⟩
    simp only [claim, hcommand, hcommands]

/-- An ACK closes the circuit, whatever it was. -/
theorem sameWork_recordAck (h : SameWork s s') (now : Int) (result : DispatchResult)
    (t : AgentTask) {state state' : AgentRuntimeState} (hagent : state'.agentId = state.agentId)
    (run : OrchestrationRun) :
    SameWork (recordAck now result t state run s) (recordAck now result t state' run s') := by
  have hid : (ackedState now (touchedState now result state')).agentId =
      (ackedState now (touchedState now result state)).agentId := hagent
  exact (((h.setTask _).putRuntimeState hid rfl).setRun _).addEvent _

/-- A failure counts on the circuit that the agent has, and schedules by it. -/
theorem sameWork_recordFailure (h : SameWork s s') (w : DispatchWorker) (now : Int) (rv : Rat)
    (result : DispatchResult) (t : AgentTask) {state state' : AgentRuntimeState}
    (hagent : state'.agentId = state.agentId) (hbreaker : state'.breaker = state.breaker)
    (run : OrchestrationRun) : SameWork (recordFailure w now rv result t state run s)
      (recordFailure w now rv result t state' run s') := by
  have hfailed : (failureState w now result (touchedState now result state')).breaker =
      (failureState w now result (touchedState now result state)).breaker := by
    rw [breaker_failureState, breaker_failureState]
    exact congrArg (Breaker.fail w.circuitFailureThreshold _) hbreaker
  have hid : ∀ state : AgentRuntimeState,
      (failureState w now result (touchedState now result state)).agentId = state.agentId := by
    intro state
    unfold failureState
    simp only []
    split <;> rfl
  obtain ⟨hcircuit, -, hopen⟩ := circuit_of_breaker hfailed
  -- the time of the next attempt depends on the circuit after the failure
  have hretryAt : retryAt w now rv t (failureState w now result (touchedState now result state')) =
      retryAt w now rv t (failureState w now result (touchedState now result state)) := by
    simp only [retryAt, hcircuit, hopen]
  have hopened : circuitOpenedEvents now result t state' run w.circuitFailureThreshold =
      circuitOpenedEvents now result t state run w.circuitFailureThreshold := by
    simp only [circuitOpenedEvents, (circuit_of_breaker hbreaker).2.1]
  have hput : ∀ u : AgentTask, ∀ es : List AuditEvent, ∀ st st' : AgentRuntimeState,
      st'.agentId = st.agentId → st'.breaker = st.breaker →
      SameWork
        { (s.setTask u).putRuntimeState st with auditEvents := s.auditEvents ++ es }
        { (s'.setTask u).putRuntimeState st' with auditEvents := s'.auditEvents ++ es } :=
    fun u es st st' ha hb => ((h.setTask u).putRuntimeState ha hb).addEvents es
  -- another attempt, or the end of the task
  simp only [recordFailure, hretryAt, hopened, List.append_assoc]
  split
  · exact hput _ _ _ _ (by rw [hid, hid, hagent]) hfailed
  · exact hput _ _ _ _ ((hid state').trans (hagent.trans (hid state).symm)) hfailed

/-- A result is recorded alike, provided that both stores know the agent. -/
theorem sameWork_recordResult (h : SameWork s s') (w : DispatchWorker) (now : Int) (rv : Rat)
    (c : DispatchCommand) (result : DispatchResult)
    (hknown : (s.runtimeStates.get? c.agentId).isSome = true)
    (hknown' : (s'.runtimeStates.get? c.agentId).isSome = true) :
    SameWork (recordResult w now rv c result s) (recordResult w now rv c result s') := by
  obtain ⟨state, hstate⟩ := Option.isSome_iff_exists.mp hknown
  obtain ⟨state', hstate'⟩ := Option.isSome_iff_exists.mp hknown'
  have hagent : state'.agentId = state.agentId := by
    have hkey : state.agentId = c.agentId := Table.key_of_get? hstate
    have hkey' : state'.agentId = c.agentId := Table.key_of_get? hstate'
    rw [hkey, hkey']
  have hbreaker : state'.breaker = state.breaker := by
    rw [← breaker_of_get? hstate, ← breaker_of_get? hstate', h.breaker]
  -- a result whose task, run or lease is gone changes nothing in either store
  simp only [recordResult, hstate, hstate', h.tasks, h.runs]
  cases s.tasks.get? c.taskId with
  | none => exact h
  | some t =>
    cases s.runs.get? c.orchestrationRunId with
    | none => exact h
    | some run =>
      by_cases hown : ownsLease w t = true
      · by_cases hack : result.disposition = .acknowledged
        · simp only [if_pos hown, if_pos hack]
          exact sameWork_recordAck h now result t hagent run
        · simp only [if_pos hown, if_neg hack]
          exact sameWork_recordFailure h w now rv result t hagent hbreaker run
      · simp only [if_neg hown]
        exact h

/-- Expiry looks at tasks and runs only. -/
theorem sameWork_expire (h : SameWork s s') (now : Int) (tasks : List AgentTask) :
    SameWork (expireDispatchDeadlines now tasks s) (expireDispatchDeadlines now tasks s') := by
  unfold expireDispatchDeadlines
  induction tasks generalizing s s' with
  | nil => exact h
  | cons t rest ih =>
    apply ih
    simp only [expireTask, Store.setTask_runs, h.runs]
    split
    · exact h.setTask _
    · exact (h.setTask _).addEvent _

/-- Recovery looks at the tasks of a run, and at whether they have been answered. -/
theorem sameWork_recoverTasks (h : SameWork s s') (now : Int) (signalled : List UUID)
    (tasks : List AgentTask) :
    SameWork (recoverTasks now signalled tasks s) (recoverTasks now signalled tasks s') := by
  unfold recoverTasks
  induction tasks generalizing s s' with
  | nil => exact h
  | cons t rest ih =>
    apply ih
    cases hrecover : recoverTask now signalled t with
    | none => simpa only [hrecover] using h
    | some t' => simpa only [hrecover] using h.setTask t'

/-- One run of a recovery pass. -/
theorem sameWork_recoverRun (h : SameWork s s') (now : Int) (run : OrchestrationRun) :
    SameWork (recoverRun now run s).1 (recoverRun now run s').1 := by
  have hsignals : signalTaskIds s' run.orchestrationRunId =
      signalTaskIds s run.orchestrationRunId := by simp only [signalTaskIds, h.signals]
  have htasks := sameWork_recoverTasks h now (signalTaskIds s run.orchestrationRunId)
    (s.tasksOf run.orchestrationRunId)
  simp only [recoverRun, h.tasksOf, hsignals]
  by_cases hc : changed now (signalTaskIds s run.orchestrationRunId)
      (s.tasksOf run.orchestrationRunId) = true ∨ run.status = .timedOut
  · simp only [if_pos hc]
    exact (htasks.setRun _).addEvent _
  · simp only [if_neg hc]
    exact htasks

/-- A recovery pass. -/
theorem sameWork_recoverRuns (h : SameWork s s') (now : Int) (runs : List OrchestrationRun) :
    SameWork (recoverRuns now runs s).1 (recoverRuns now runs s').1 := by
  induction runs generalizing s s' with
  | nil => exact h
  | cons run rest ih => exact ih (sameWork_recoverRun h now run)

/-- A verdict looks at a run and its tasks. -/
theorem sameWork_evaluated (h : SameWork s s') (now : Int) (runId : UUID) :
    SameWork (evaluated now runId s) (evaluated now runId s') := by
  simp only [evaluated, evaluate, h.runs, h.tasksOf]
  cases s.runs.get? runId with
  | none => exact h
  | some run =>
    by_cases hfinal : finalised run.status = true
    · simp only [if_pos hfinal]
      exact h
    · simp only [if_neg hfinal]
      cases Quorum.decide now run (s.tasksOf runId) with
      | none => exact h
      | some v => exact (h.setRun _).addEvent _

end Transactions

/-! ## Planning and ingestion -/

section Inserts

variable {s s' : Store}

/-- An insert that finds the same constraints met, or the same one violated. -/
theorem alike_insertRow {τ : Type} {constraints constraints' : List (Bool × DbError)}
    {pkey : String} {table table' : Option τ} {put put' : τ → Store}
    (hconstraints : constraints' = constraints) (htable : table' = table)
    (hput : ∀ t, SameWork (put t) (put' t)) :
    Tx.Alike SameWork (insertRow constraints pkey table put)
      (insertRow constraints' pkey table' put') := by
  subst hconstraints htable
  unfold insertRow
  cases firstViolated constraints' with
  | some e => exact .error e
  | none =>
    cases table' with
    | none => exact .error _
    | some t => exact .ok (hput t)

/-- A run is inserted into both, or refused by both for one reason. -/
theorem alike_insertRun (h : SameWork s s') (r : OrchestrationRun) :
    Tx.Alike SameWork (s.insertRun r) (s'.insertRun r) :=
  alike_insertRow (by rw [h.snapshots]) (by rw [h.runs]) fun _ => { h with runs := rfl }

/-- So is a task. -/
theorem alike_insertTask (h : SameWork s s') (t : AgentTask) :
    Tx.Alike SameWork (s.insertTask t) (s'.insertTask t) :=
  alike_insertRow (by rw [h.runs, h.snapshots, h.agents, h.tasks]) (by rw [h.tasks])
    fun _ => { h with tasks := rfl }

/-- So is a nonce. -/
theorem alike_insertNonce (h : SameWork s s') (n : Nonce) :
    Tx.Alike SameWork (s.insertNonce n) (s'.insertNonce n) :=
  alike_insertRow (by rw [h.agents]) (by rw [h.nonces]) fun _ => { h with nonces := rfl }

/-- So is a signal. -/
theorem alike_insertSignal (h : SameWork s s') (g : Signal) :
    Tx.Alike SameWork (s.insertSignal g) (s'.insertSignal g) :=
  alike_insertRow (by rw [h.agents, h.snapshots, h.tasks, h.runs, h.signals]) (by rw [h.signals])
    fun _ => { h with signals := rfl }

end Inserts

section Planning

open Planner

/-- The tasks of a plan, one insert after the other. -/
theorem respects_createTasks (now : Int) (args : CreateArgs) (run : OrchestrationRun)
    (taskId : Nat → UUID) (assigned : List (CapabilityRequirement × RoutedAgent)) (i : Nat) :
    (createTasks now args run taskId i assigned).Respects SameWork := by
  induction assigned generalizing i with
  | nil => exact Tx.respects_pure
  | cons pair rest ih =>
    apply Tx.respects_bind
    · exact Tx.respects_attempt fun s s' h => (alike_insertTask h _).mapError _
    · intro _
      apply Tx.respects_bind
      · exact Tx.respects_modify fun s s' h => h.addEvent _
      · exact fun _ => ih (i + 1)

/-- Routing looks at the registry, not at the health of an agent. -/
theorem SameWork.select {s s' : Store} (h : SameWork s s') (asset capability : String)
    (limit : Option Nat) :
    Tomiris.select asset capability limit s' = Tomiris.select asset capability limit s := by
  simp only [Tomiris.select, enabledAgents, h.agents, h.endpoints]

/-- So the assignments of a plan are the same. -/
theorem SameWork.assignments {s s' : Store} (h : SameWork s s') (args : CreateArgs) :
    Planner.assignments args s' = Planner.assignments args s := by
  simp only [Planner.assignments, h.select]

/-- And so is its run. -/
theorem SameWork.planRun {s s' : Store} (h : SameWork s s') (now : Int) (args : CreateArgs)
    (runId correlationId : UUID) (context : PyValue) :
    Planner.planRun now args runId correlationId context s' =
      Planner.planRun now args runId correlationId context s := by
  have hunmet : unmet args s' = unmet args s := by
    funext r
    simp only [unmet, h.select]
  have hrequired : missingRequired args s' = missingRequired args s := by
    simp only [missingRequired, hunmet]
  have hoptional : missingOptional args s' = missingOptional args s := by
    simp only [missingOptional, hunmet]
  simp only [Planner.planRun, hrequired, hoptional]

/-- The body of planning. -/
theorem respects_createRun (now : Int) (args : CreateArgs) (runId correlationId : UUID)
    (context : PyValue) (taskId : Nat → UUID) :
    (createRun now args runId correlationId context taskId).Respects SameWork := by
  apply Tx.respects_bind (Tx.respects_need fun s s' h => by rw [h.snapshots])
  -- the steps of the body in their order: each reads what is alike or writes alike
  intro snapshot
  apply Tx.respects_bind Tx.respects_raiseIf
  intro _
  apply Tx.respects_bind (Tx.respects_read fun s s' h => h.assignments args)
  intro assigned
  apply Tx.respects_bind
    (Tx.respects_read fun s s' h => h.planRun now args runId correlationId context)
  intro run
  apply Tx.respects_bind (Tx.respects_attempt fun s s' h => (alike_insertRun h run).mapError _)
  intro _
  apply Tx.respects_bind (Tx.respects_modify fun s s' h => h.addEvent _)
  intro _
  apply Tx.respects_bind (respects_createTasks now args run taskId assigned 0)
  intro _
  apply Tx.respects_bind
  · apply Tx.respects_modify
    intro s s' h
    split
    · exact h.addEvent _
    · exact h
  · exact fun _ => Tx.respects_pure

/-- Planning. -/
theorem respects_create (now : Int) (args : CreateArgs) (draws : PlanDraws) :
    (Tomiris.create now args draws).Respects SameWork := by
  apply Tx.respects_bind Tx.respects_raiseIf
  intro _
  apply Tx.respects_bind Tx.respects_attemptValue
  intro context
  apply Tx.respects_begin
  apply Tx.respects_bind (Tx.respects_read fun s s' h => by rw [h.runs])
  intro existing
  cases existing with
  | some run =>
    exact Tx.respects_read fun s s' h => by simp only [existingPlan, h.tasksOf]
  | none => exact respects_createRun now args _ _ context draws.taskId

end Planning

section Ingestion

open Ingest

/-- A signal completes its task in both. -/
theorem sameWork_completeTask {s s' : Store} (h : SameWork s s') (now : Int)
    (envelope : SignalEnvelope) (payloadHash : Sha256) (requestId : UUID)
    (task : Option AgentTask) :
    SameWork (completeTask now envelope payloadHash requestId task s)
      (completeTask now envelope payloadHash requestId task s') := by
  cases task with
  | none => exact h
  | some t =>
    -- what the signal writes to the state of the agent is no part of the work
    have hseen : ∀ u : Store, SameWork ((u.setTask (receivedTask now t)).addEvent
        (taskReceivedEvent now envelope t payloadHash requestId))
        (completeTask now envelope payloadHash requestId (some t) u) := by
      intro u
      simp only [completeTask]
      apply SameWork.addEvent
      cases hget : (u.setTask (receivedTask now t)).runtimeStates.get? envelope.agentId with
      | none => exact .refl _
      | some state =>
        apply (SameWork.refl _).of_put
        have hkey : state.agentId = envelope.agentId := Table.key_of_get? hget
        show state.breaker = (u.setTask (receivedTask now t)).breaker state.agentId
        rw [hkey, breaker_of_get? hget]
    exact ((hseen s).symm.trans ((h.setTask _).addEvent _)).trans (hseen s')

/-- Ingestion looks the agent up in the registry. -/
theorem respects_checkRegistry (envelope : SignalEnvelope) :
    (checkRegistry envelope).Respects SameWork := by
  apply Tx.respects_bind (Tx.respects_need fun s s' h => by rw [h.agents])
  intro agent
  apply Tx.respects_bind Tx.respects_raiseIf
  intro _
  apply Tx.respects_bind Tx.respects_raiseIf
  intro _
  apply Tx.respects_bind Tx.respects_raiseIf
  intro _
  exact Tx.respects_bind Tx.respects_raiseIf fun _ => Tx.respects_raiseIf

/-- The snapshot. -/
theorem respects_checkSnapshot (now : Int) (envelope : SignalEnvelope) :
    (checkSnapshot now envelope).Respects SameWork := by
  apply Tx.respects_bind (Tx.respects_need fun s s' h => by rw [h.snapshots])
  intro snapshot
  exact Tx.respects_bind Tx.respects_raiseIf fun _ => Tx.respects_raiseIf

/-- And the task with its run. -/
theorem respects_checkTask (now : Int) (envelope : SignalEnvelope) (taskId : UUID) :
    (checkTask now envelope taskId).Respects SameWork := by
  apply Tx.respects_bind (Tx.respects_need fun s s' h => by rw [h.tasks])
  intro task
  -- eight checks of the row that was read
  iterate 8
    apply Tx.respects_bind Tx.respects_raiseIf
    intro _
  exact Tx.respects_pure

/-- If the signal names one. -/
theorem respects_findTask (now : Int) (envelope : SignalEnvelope) :
    (findTask now envelope).Respects SameWork := by
  unfold findTask
  split
  · exact Tx.respects_pure
  · exact Tx.respects_bind (respects_checkTask now envelope _) fun _ => Tx.respects_pure

/-- A signal is judged by the work alone. -/
theorem respects_ingest (maxTtlSeconds : Nat) (now : Int) (envelope : SignalEnvelope)
    (nonce : String) (payloadHash : Sha256) (requestId : UUID) :
    (ingest maxTtlSeconds now envelope nonce payloadHash requestId).Respects SameWork := by
  have htimestamps : (checkTimestamps maxTtlSeconds now envelope).Respects SameWork :=
    Tx.respects_bind Tx.respects_raiseIf fun _ =>
      Tx.respects_bind Tx.respects_raiseIf fun _ => Tx.respects_raiseIf
  -- the steps of the session in their order
  apply Tx.respects_bind htimestamps
  intro _
  apply Tx.respects_mapError
  apply Tx.respects_begin
  apply Tx.respects_bind (respects_checkRegistry envelope)
  intro _
  apply Tx.respects_bind (respects_checkSnapshot now envelope)
  intro _
  apply Tx.respects_bind (Tx.respects_attempt fun s s' h => (alike_insertNonce h _).mapError _)
  intro _
  apply Tx.respects_bind (respects_findTask now envelope)
  intro task
  apply Tx.respects_bind (Tx.respects_read fun s s' h => by rw [h.signals])
  intro existing
  apply Tx.respects_bind Tx.respects_raiseIf
  intro _
  apply Tx.respects_bind (Tx.respects_attempt fun s s' h => (alike_insertSignal h _).mapError _)
  intro _
  apply Tx.respects_bind (Tx.respects_modify fun s s' h => h.addEvent _)
  intro _
  exact Tx.respects_modify fun s s' h => sameWork_completeTask h now envelope payloadHash requestId
    task

end Ingestion

/-! ## Agents that commands are held for -/

/-- The agent has a runtime state. -/
def Store.Knows (s : Store) (agentId : String) : Prop :=
  (s.runtimeStates.get? agentId).isSome = true

/-- No agent is forgotten when a state is written. -/
theorem Store.Knows.put {s : Store} {agentId : String} (h : s.Knows agentId)
    (state : AgentRuntimeState) : (s.putRuntimeState state).Knows agentId := by
  unfold Store.Knows
  by_cases hag : state.agentId = agentId
  · have hself := Table.get?_upsert_self (t := s.runtimeStates) (a := state)
    rw [key_runtimeState, hag] at hself
    rw [Store.putRuntimeState_runtimeStates, hself]
    rfl
  · rw [Store.putRuntimeState_runtimeStates, Table.get?_upsert_ne hag]
    exact h

/-- A claim makes the agents of its tasks known, whatever it decides about them. -/
theorem claim_knows (w : DispatchWorker) (now : Int) (picked : List AgentTask) (s : Store) :
    (∀ agentId, s.Knows agentId → (claim w now picked s).1.Knows agentId) ∧
      ∀ t ∈ picked, (claim w now picked s).1.Knows t.agentId := by
  -- over the tasks: a state that is there stays, and the locked one is added
  induction picked generalizing s with
  | nil => exact ⟨fun _ h => h, by simp⟩
  | cons t rest ih =>
    obtain ⟨hkeep, hrest⟩ := ih (claimTask w now t s).1
    have hturn := claimTask_turn w now t s
    have hfirst : ∀ agentId, s.Knows agentId ∨ t.agentId = agentId →
        (claimTask w now t s).1.Knows agentId := by
      intro agentId hor
      unfold Store.Knows
      rw [hturn.states]
      split
      · rfl
      · rename_i hne
        exact hor.resolve_right hne
    constructor
    · exact fun agentId h => hkeep agentId (hfirst agentId (.inl h))
    · intro u hu
      -- the task of this turn, or a later one
      rcases List.mem_cons.mp hu with rfl | hlater
      · exact hkeep _ (hfirst _ (.inr rfl))
      · exact hrest u hlater

/-- Nor when a result is recorded. -/
theorem recordResult_knows {s : Store} {agentId : String} (h : s.Knows agentId)
    (w : DispatchWorker) (now : Int) (rv : Rat) (c : DispatchCommand) (result : DispatchResult) :
    (recordResult w now rv c result s).Knows agentId := by
  rcases recordResult_cases w now rv c result s with hsame | ⟨t, state, run, -, hrec⟩
  · rw [hsame]
    exact h
  · rw [hrec]
    split
    · exact h.put (ackedState now (touchedState now result state))
    · unfold recordFailure
      simp only []
      split
      · exact h.put _
      · exact h.put _

/-- Nor by ingestion. -/
theorem ingested_knows {s : Store} {agentId : String} (h : s.Knows agentId) (cfg : Config)
    (now : Int) (r : SignalRequest) : (System.ingested cfg now r s).Knows agentId := by
  unfold System.ingested
  cases hin : ingest cfg.maxTtlSeconds now r.envelope r.nonce r.payloadHash r.requestId s with
  | mk res s' =>
    cases res with
    -- a refused request changes nothing
    | error e =>
      rw [Ingest.ingest_restores _ _ _ _ _ _ _ _ _ hin]
      exact h
    | ok u =>
      obtain ⟨task, nonces, signals, -, -, -, rfl⟩ := Ingest.ingest_ok.mp hin
      cases task with
      | none => exact h
      | some t =>
        -- the state of the agent is replaced if it is there
        simp only [Ingest.accepted, Ingest.completeTask]
        split
        · exact h
        · exact h.put _

/-- Nor by a probe. -/
theorem recordProbe_knows {s : Store} {agentId : String} (h : s.Knows agentId) (now : Int)
    (probed : String) (r : ProbeResult) : (recordProbe now probed r s).Knows agentId := by
  unfold recordProbe
  split
  · exact h.put _
  · split
    · exact h.put _
    · exact h

/-- Every agent that a process holds a command for has a runtime state. -/
def AgentsKnown (sys : System) : Prop :=
  ∀ p, ∀ c ∈ (sys.processes p).held, sys.store.Knows c.command.agentId

namespace System

variable {cfg : Config} {sys sys' : System}

/-- A runtime state is never deleted. -/
theorem knows_step {a : Action} (h : step cfg sys a = some sys') {agentId : String}
    (hknows : sys.store.Knows agentId) : sys'.store.Knows agentId := by
  -- most steps do not touch the table
  have hsame : sys'.store.runtimeStates = sys.store.runtimeStates →
      sys'.store.Knows agentId := by
    intro hs
    unfold Store.Knows
    rw [hs]
    exact hknows
  cases a with
  | claim p now ids =>
    obtain ⟨-, -, rfl⟩ := stepClaim_eq h
    exact (claim_knows _ _ _ _).1 agentId hknows
  | record p now rv =>
    obtain ⟨c, result, -, rfl⟩ := stepRecord_eq h
    exact recordResult_knows hknows (cfg.worker p) now rv c.command result
  | create now args draws =>
    cases h
    exact hsame (create_runtimeStates now args draws sys.store)
  | expire now ids =>
    simp only [step] at h
    split at h
    · cases h
      exact hsame (expire_runtimeStates now _ _)
    · cases h
  | recover now ids =>
    simp only [step] at h
    split at h
    · cases h
      exact hsame (recoverRuns_runtimeStates now _ _)
    · cases h
  | evaluate now id =>
    cases h
    rcases evaluated_cases now id sys.store with hc | ⟨run, v, -, hc⟩
    · exact hsame (congrArg Store.runtimeStates hc)
    · exact hsame ((congrArg Store.runtimeStates hc).trans rfl)
  | ingest now r =>
    cases h
    exact ingested_knows hknows cfg now r
  | probe now probed r =>
    cases h
    exact recordProbe_knows hknows now probed r
  | startSend p =>
    obtain ⟨_, _, _, rfl⟩ := stepStartSend_eq h
    exact hknows
  | endSend p result =>
    obtain ⟨_, _, _, rfl⟩ := stepEndSend_eq h
    exact hknows
  | deliver p now nonce expires ack => exact hsame (by rw [(stepDeliver_eq h).1])
  | _ =>
    cases h
    exact hknows

/-- The agents of the commands on their way stay registered. -/
theorem agentsKnown_step {a : Action} (hknown : AgentsKnown sys)
    (h : step cfg sys a = some sys') : AgentsKnown sys' := by
  intro p c hc
  rcases held_of_step h hc with hold | ⟨now, ids, -, hbatch, hs, hcl⟩
  · exact knows_step h (hknown p c hold)
  · -- a command of this very claim
    obtain ⟨t, ht, -, hissued⟩ := (hbatch.spec (cfg.worker p)).commands c.command
      (command_mem_of_claimed hcl)
    have hagent : c.command.agentId = t.agentId := hissued.agent
    rw [hs, hagent]
    exact (claim_knows _ _ _ _).2 t ht

end System

/-! ## Whole runs -/

/-- Health probes, and the record of a request that is turned down. -/
def Action.bystander : Action → Bool
  | .probe .. | .recordRejection .. => true
  | _ => false

/-- The work, the processes and the agents are in the same state. -/
structure System.SamePicture (sys sys' : System) : Prop where
  work : SameWork sys.store sys'.store
  processes : sys'.processes = sys.processes
  runtimes : sys'.runtimes = sys.runtimes

namespace System

variable {cfg : Config} {sys sys' x : System}

/-- A probe writes what no work looks at. -/
theorem sameWork_recordProbe (now : Int) (agentId : String) (r : ProbeResult) (s : Store) :
    SameWork s (recordProbe now agentId r s) := by
  have hbreaker := recordProbe_breaker now agentId r s
  unfold recordProbe at hbreaker ⊢
  split
  -- the state of the agent is updated, or made, and its breaker is as before
  · rename_i state hget
    simp only [hget] at hbreaker
    exact { SameWork.refl s with breaker := hbreaker }
  · rename_i hnone
    simp only [hnone] at hbreaker
    split
    · rename_i hagent
      simp only [if_pos hagent] at hbreaker
      exact { SameWork.refl s with breaker := hbreaker }
    · exact .refl s

/-- A bystander can always act, and changes nothing of the picture. -/
theorem bystander_step {a : Action} (ha : a.bystander = true) (cfg : Config) (sys : System) :
    ∃ sys', step cfg sys a = some sys' ∧ SamePicture sys sys' := by
  cases a with
  | probe now agentId r => exact ⟨_, rfl, sameWork_recordProbe now agentId r sys.store, rfl, rfl⟩
  | recordRejection now requestId reason payloadHash agentId =>
    refine ⟨_, rfl, ?_, rfl, rfl⟩
    exact { SameWork.refl sys.store with
      log := by
        show (sys.store.auditEvents ++ [_]).filter _ = sys.store.auditEvents.filter _
        rw [List.filter_append, List.filter_cons_of_neg (by simp [AuditEvent.turnedDown])]
        simp }
  | _ => cases ha

section SameProcesses

variable {s' : Store}

/-- Two systems whose processes and agents are the same. -/
theorem samePicture_of_work {s s' : Store} (h : SameWork s s') (sys : System) :
    SamePicture { sys with store := s } { sys with store := s' } := ⟨h, rfl, rfl⟩

/-- A claim can be made in both, with the same commands. -/
theorem rel_stepClaim (h : SameWork sys.store s') (cfg : Config) (p : Nat) (now : Int)
    (ids : List UUID) : Option.Rel SamePicture (stepClaim cfg sys p now ids)
      (stepClaim cfg { sys with store := s' } p now ids) := by
  -- the batch looks at tasks only, which are the same
  have hbatch : ClaimBatch s' now (cfg.worker p).batchSize ids ↔
      ClaimBatch sys.store now (cfg.worker p).batchSize ids := by
    constructor
    · exact fun hb => ⟨hb.distinct, h.tasksAt ids ▸ hb.due, h.tasksAt ids ▸ hb.ordered, hb.limit⟩
    · exact fun hb => ⟨hb.distinct, (h.tasksAt ids).symm ▸ hb.due,
        (h.tasksAt ids).symm ▸ hb.ordered, hb.limit⟩
  obtain ⟨hstore, hcommands⟩ := sameWork_claim h (cfg.worker p) now (sys.store.tasksAt ids)
  simp only [stepClaim, hbatch, h.tasksAt]
  split
  · apply Option.Rel.some
    simp only [hcommands, claimedCommands, hstore.tasks]
    exact ⟨hstore, rfl, rfl⟩
  · exact .none

theorem rel_stepRecord (h : SameWork sys.store s') (hknown : AgentsKnown sys)
    (hknown' : AgentsKnown { sys with store := s' }) (cfg : Config) (p : Nat) (now : Int)
    (rv : Rat) : Option.Rel SamePicture (stepRecord cfg sys p now rv)
      (stepRecord cfg { sys with store := s' } p now rv) := by
  simp only [stepRecord]
  cases hr : (sys.processes p).returned with
  | none => exact .none
  | some pair =>
    obtain ⟨c, result⟩ := pair
    have hheld : c ∈ (sys.processes p).held := mem_held.mpr (.inr (.inr ⟨result, hr⟩))
    have hstore := sameWork_recordResult h (cfg.worker p) now rv c.command result
      (hknown p c hheld) (hknown' p c hheld)
    exact .some ⟨hstore, rfl, rfl⟩

/-- Whatever is no bystander is enabled in both systems or in neither. -/
theorem rel_step (h : SameWork sys.store s') (hknown : AgentsKnown sys)
    (hknown' : AgentsKnown { sys with store := s' }) (cfg : Config) {a : Action}
    (ha : a.bystander = false) :
    Option.Rel SamePicture (step cfg sys a) (step cfg { sys with store := s' } a) := by
  cases a with
  | syncAgent agent =>
    exact .some ⟨{ h with agents := congrArg (·.upsert agent) h.agents }, rfl, rfl⟩
  | syncEndpoint e =>
    exact .some ⟨{ h with endpoints := congrArg (·.upsert e) h.endpoints }, rfl, rfl⟩
  | syncSnapshot m =>
    exact .some ⟨{ h with snapshots := congrArg (·.upsert m) h.snapshots }, rfl, rfl⟩
  | create now args draws =>
    exact .some (samePicture_of_work (respects_create now args draws _ _ h).2 sys)
  | claim p now ids => exact rel_stepClaim h cfg p now ids
  | startSend p =>
    simp only [step, stepStartSend]
    split
    · exact .some ⟨h, rfl, rfl⟩
    · exact .none
  | deliver p now nonce expires ack =>
    simp only [step, stepDeliver]
    cases (sys.processes p).sending with
    | none => exact .none
    | some c => exact .some ⟨h, rfl, rfl⟩
  | endSend p result =>
    simp only [step, stepEndSend]
    split
    · exact .some ⟨h, rfl, rfl⟩
    · exact .none
  | record p now rv => exact rel_stepRecord h hknown hknown' cfg p now rv
  | crash p => exact .some ⟨h, rfl, rfl⟩
  | expire now ids =>
    -- the query for overdue tasks finds the same rows
    have hbatch : ExpiryBatch s' now ids ↔ ExpiryBatch sys.store now ids := by
      constructor
      · exact fun hb => ⟨hb.distinct, h.tasksAt ids ▸ hb.due⟩
      · exact fun hb => ⟨hb.distinct, (h.tasksAt ids).symm ▸ hb.due⟩
    simp only [step, hbatch, h.tasksAt]
    split
    · exact .some (samePicture_of_work (sameWork_expire h now _) sys)
    · exact .none
  | recover now ids =>
    -- and so does the one for unfinished runs
    have hbatch : RunBatch s' cfg.recoveryBatchSize ids ↔
        RunBatch sys.store cfg.recoveryBatchSize ids := by
      constructor
      · exact fun hb => ⟨hb.distinct, h.runsAt ids ▸ hb.unfinished, h.runsAt ids ▸ hb.ordered,
          hb.limit⟩
      · exact fun hb => ⟨hb.distinct, (h.runsAt ids).symm ▸ hb.unfinished,
          (h.runsAt ids).symm ▸ hb.ordered, hb.limit⟩
    simp only [step, hbatch, h.runsAt]
    split
    · exact .some (samePicture_of_work (sameWork_recoverRuns h now _) sys)
    · exact .none
  | evaluate now runId => exact .some (samePicture_of_work (sameWork_evaluated h now runId) sys)
  | ingest now r =>
    exact .some (samePicture_of_work (respects_ingest _ now _ _ _ _ _ _ h).2 sys)
  | recordRejection now requestId reason payloadHash agentId => cases ha
  | probe now agentId r => cases ha

end SameProcesses

/-- **Probes and rejections are bystanders.** A list of actions can be taken if and only if it can
    be taken without the health probes and the requests turned down among them, and both leave the
    same picture behind. -/
theorem bystanders_passive (cfg : Config) (as : List Action) :
    Option.Rel SamePicture (as.foldlM (step cfg) initial)
      ((as.filter (! ·.bystander)).foldlM (step cfg) initial) := by
  have hinitial : AgentsKnown initial := by
    intro p c hc
    simp [initial, Process.held] at hc
  have hrel := @Transition.rel_foldlM_filter System Action (step cfg)
    (fun sys sys' => SamePicture sys sys' ∧ AgentsKnown sys ∧ AgentsKnown sys') (! ·.bystander)
    (fun u x a hR ha => ?_) (fun u x a hR ha => ?_) as initial initial
    ⟨⟨.refl _, rfl, rfl⟩, hinitial, hinitial⟩
  · generalize as.foldlM (step cfg) initial = o,
      (as.filter (! ·.bystander)).foldlM (step cfg) initial = o' at hrel ⊢
    cases hrel with
    | none => exact .none
    | some h => exact .some h.1
  · obtain ⟨hpicture, hknown, hknown'⟩ := hR
    -- an action of a bystander can always be made, and leaves the picture
    obtain ⟨v, hv, hsame⟩ := bystander_step (by simpa using ha) cfg u
    have hleft : SamePicture v x := ⟨hsame.work.symm.trans hpicture.work,
      hpicture.processes.trans hsame.processes.symm, hpicture.runtimes.trans hsame.runtimes.symm⟩
    exact ⟨v, hv, hleft, agentsKnown_step hknown hv, hknown'⟩
  · obtain ⟨hpicture, hknown, hknown'⟩ := hR
    obtain ⟨s', processes, runtimes⟩ := x
    obtain ⟨hwork, rfl, rfl⟩ := hpicture
    -- any other action can be made in both or in neither
    have hstep := rel_step hwork hknown hknown' cfg (a := a) (by simpa using ha)
    generalize hu : step cfg u a = o, hx : step cfg { u with store := s' } a = o' at hstep ⊢
    cases hstep with
    | none => exact .none
    | some hvy =>
      exact .some ⟨hvy, agentsKnown_step hknown hu, agentsKnown_step hknown' hx⟩

end System

end Tomiris
