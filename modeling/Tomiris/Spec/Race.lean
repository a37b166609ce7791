import Tomiris.Spec.Admission
import Tomiris.Spec.Circuit

/-!
# An ACK and its signal

A fast agent posts its signal before the orchestrator has recorded the ACK of the command. The
guard of `_record_result` drops the ACK of a task that is already `SIGNAL_RECEIVED`: the task ends
the same in both orders, but what the ACK would have done to the run and to the circuit of the
agent is done in one of them only.

## Key results

- `ack_signal_orders`: what each order leaves, and when the two agree
- `signal_overtakes_ack`: a reachable state in which they do not
-/

namespace Tomiris

open Dispatch Ingest Quorum

/-! ## What the two orders leave -/

def Store.taskStatus (s : Store) (id : UUID) : Option TaskStatus := (s.tasks.get? id).map (·.status)

def Store.runStatus (s : Store) (id : UUID) : Option RunStatus := (s.runs.get? id).map (·.status)

/-- `circuit_state`, `consecutive_failures` and `circuit_open_until` of an agent. -/
def Store.circuit (s : Store) (agentId : String) : Option (CircuitState × Nat × Option Int) :=
  (s.runtimeStates.get? agentId).map fun state =>
    (state.circuitState, state.consecutiveFailures, state.circuitOpenUntil)

/-- The ACK is recorded, then the signal comes in. -/
def ackFirst (cfg : Config) (w : DispatchWorker) (now : Int) (rv : Rat) (c : DispatchCommand)
    (result : DispatchResult) (request : SignalRequest) (s : Store) : Store :=
  System.ingested cfg now request (recordResult w now rv c result s)

/-- The signal comes in, then the ACK is recorded. -/
def signalFirst (cfg : Config) (w : DispatchWorker) (now : Int) (rv : Rat) (c : DispatchCommand)
    (result : DispatchResult) (request : SignalRequest) (s : Store) : Store :=
  recordResult w now rv c result (System.ingested cfg now request s)

/-- Task `t` is in dispatch under the lease of `w`, whose command the agent has acknowledged, and
    the Hub accepts the agent's signal for the task. -/
structure AckAndSignal (cfg : Config) (w : DispatchWorker) (now : Int) (c : DispatchCommand)
    (result : DispatchResult) (request : SignalRequest) (s : Store) (t : AgentTask)
    (run : OrchestrationRun) (state : AgentRuntimeState) : Prop where
  task : s.tasks.get? c.taskId = some t
  owned : ownsLease w t = true
  issued : IssuedFor c t.columns
  run : s.runs.get? t.orchestrationRunId = some run
  state : s.runtimeStates.get? t.agentId = some state
  acked : result.disposition = .acknowledged
  answers : request.envelope.taskId = some c.taskId
  accepted : Accepts cfg now request s

namespace AckAndSignal

variable {cfg : Config} {w : DispatchWorker} {now : Int} {rv : Rat} {c : DispatchCommand}
  {result : DispatchResult} {request : SignalRequest} {s : Store} {t : AgentTask}
  {run : OrchestrationRun} {state : AgentRuntimeState}

/-- The signal is admitted for the task. -/
theorem admits (h : AckAndSignal cfg w now c result request s t run state) :
    Admits cfg.maxTtlSeconds now request.envelope request.nonce s (some t) := by
  obtain ⟨s', hs'⟩ := h.accepted
  obtain ⟨task, nonces, signals, hadm, -⟩ := ingest_ok.mp hs'
  have htask := hadm.task
  simp only [TaskFor, h.answers] at htask
  obtain ⟨u, hu, hget, -⟩ := htask
  obtain rfl : u = t := Option.some_inj.mp (hget.symm.trans h.task)
  exact hu ▸ hadm

/-- The row is that of the command. -/
theorem taskId (h : AckAndSignal cfg w now c result request s t run state) :
    t.taskId = c.taskId := Table.key_of_get? h.task

/-- The row of its run. -/
theorem run_row (h : AckAndSignal cfg w now c result request s t run state) :
    s.runs.get? run.orchestrationRunId = some run :=
  Table.get?_of_mem (Table.mem_of_get? h.run)

/-- Recording the ACK in this state. -/
theorem recordResult_eq (h : AckAndSignal cfg w now c result request s t run state) :
    recordResult w now rv c result s = recordAck now result t state run s := by
  have hstate : s.runtimeStates.get? c.agentId = some state := by
    rw [h.issued.agent]
    exact h.state
  have hrun : s.runs.get? c.orchestrationRunId = some run := by
    rw [h.issued.run]
    exact h.run
  simp only [recordResult, h.task, hstate, hrun, h.owned, h.acked, if_true]

/-- The signal is admitted after the ACK as well. -/
theorem admits_acked (h : AckAndSignal cfg w now c result request s t run state) :
    Admits cfg.maxTtlSeconds now request.envelope request.nonce
      (recordAck now result t state run s) (some (ackedTask now result t)) := by
  have hadm := h.admits
  obtain ⟨hrow, hcarries, hdeadline, -⟩ := hadm.get?_task
  have hget : (recordAck now result t state run s).tasks.get? c.taskId =
      some (ackedTask now result t) := by
    rw [← h.taskId]
    exact Table.get?_set_self (a := ackedTask now result t) hrow
  refine
    { inTime := hadm.inTime
      registry := hadm.registry
      snapshot := hadm.snapshot
      nonce_length := hadm.nonce_length
      nonce_fresh := hadm.nonce_fresh
      task := ?_
      message_fresh := hadm.message_fresh
      run_exists := ?_
      unanswered := hadm.unanswered }
  · unfold TaskFor
    rw [h.answers]
    refine ⟨_, rfl, hget, ?_, hdeadline, rfl⟩
    exact ⟨hcarries.task, hcarries.run, hcarries.agent, hcarries.snapshot, hcarries.asset⟩
  · intro id hid
    -- the run has its row still, with another status
    by_cases hk : run.orchestrationRunId = id
    · subst hk
      have hself := Table.get?_set_self (a := { run with status := .collecting }) h.run_row
      exact Option.isSome_iff_exists.mpr ⟨_, hself⟩
    · change ((s.runs.set { run with status := .collecting }).get? id).isSome = true
      rw [Table.get?_set_ne hk]
      exact hadm.run_exists id hid

end AckAndSignal

/-- What an admitted signal leaves of its task, of the runs and of its agent's runtime state. -/
theorem ingested_rows {cfg : Config} {now : Int} {request : SignalRequest} {s : Store}
    {t : AgentTask} {state : AgentRuntimeState}
    (h : Admits cfg.maxTtlSeconds now request.envelope request.nonce s (some t))
    (hstate : s.runtimeStates.get? t.agentId = some state) :
    (System.ingested cfg now request s).tasks.get? t.taskId = some (receivedTask now t) ∧
      (System.ingested cfg now request s).runs = s.runs ∧
      (System.ingested cfg now request s).runtimeStates.get? t.agentId =
        some (seenRuntime now state) := by
  obtain ⟨hrow, hcarries, -⟩ := h.get?_task
  obtain ⟨nonces, signals, heq⟩ := ingest_admitted request.payloadHash request.requestId h
  rw [hcarries.agent] at hstate
  -- the signal is from the agent of the task, whose state is in the table
  have hkey : state.agentId = request.envelope.agentId := Table.key_of_get? hstate
  unfold System.ingested
  rw [heq, hcarries.agent]
  simp only [Ingest.accepted, completeTask, Store.setTask_runtimeStates,
    Store.addEvent_runtimeStates, hstate]
  refine ⟨?_, rfl, ?_⟩
  · exact Table.get?_set_self (a := receivedTask now t) hrow
  · have hself := Table.get?_upsert_self (t := s.runtimeStates) (a := seenRuntime now state)
    rwa [show Keyed.key (seenRuntime now state) = request.envelope.agentId from hkey] at hself

namespace AckAndSignal

variable {cfg : Config} {w : DispatchWorker} {now : Int} {c : DispatchCommand}
  {result : DispatchResult} {request : SignalRequest} {s : Store} {t : AgentTask}
  {run : OrchestrationRun} {state : AgentRuntimeState}

/-- The ACK first: the signal is received, the run collects, and the circuit is closed. -/
theorem ackFirst_leaves (h : AckAndSignal cfg w now c result request s t run state) (rv : Rat) :
    (ackFirst cfg w now rv c result request s).taskStatus t.taskId = some .signalReceived ∧
      (ackFirst cfg w now rv c result request s).runStatus t.orchestrationRunId =
        some .collecting ∧
      (ackFirst cfg w now rv c result request s).circuit t.agentId = some (.closed, 0, none) := by
  -- the rows that the ACK leaves, which the signal then finds
  have hacked : (recordAck now result t state run s).runtimeStates.get? t.agentId =
      some (ackedState now (touchedState now result state)) := by
    have hkey : state.agentId = t.agentId := Table.key_of_get? h.state
    have hself := Table.get?_upsert_self (t := s.runtimeStates)
      (a := ackedState now (touchedState now result state))
    rwa [show Keyed.key (ackedState now (touchedState now result state)) = t.agentId from hkey]
      at hself
  have hrun : (recordAck now result t state run s).runs.get? t.orchestrationRunId =
      some { run with status := .collecting } := by
    have hkey : run.orchestrationRunId = t.orchestrationRunId := Table.key_of_get? h.run
    rw [← hkey]
    exact Table.get?_set_self (a := { run with status := .collecting }) h.run_row
  -- the signal completes the task and keeps the rest
  obtain ⟨htask, hruns, hstate⟩ := ingested_rows h.admits_acked hacked
  unfold ackFirst
  rw [h.recordResult_eq]
  refine ⟨?_, ?_, ?_⟩
  · exact congrArg (Option.map (·.status)) htask
  · unfold Store.runStatus
    rw [hruns, hrun]
    rfl
  · exact congrArg (Option.map _) hstate

/-- The signal first: it is received, but the ACK changes neither run nor circuit. -/
theorem signalFirst_leaves (h : AckAndSignal cfg w now c result request s t run state)
    (rv : Rat) :
    (signalFirst cfg w now rv c result request s).taskStatus t.taskId = some .signalReceived ∧
      (signalFirst cfg w now rv c result request s).runStatus t.orchestrationRunId =
        some run.status ∧
      (signalFirst cfg w now rv c result request s).circuit t.agentId =
        some (state.circuitState, state.consecutiveFailures, state.circuitOpenUntil) := by
  obtain ⟨htask, hruns, hstate⟩ := ingested_rows h.admits h.state
  -- the guard drops the ACK of a received task
  have hdropped : signalFirst cfg w now rv c result request s =
      System.ingested cfg now request s := by
    unfold signalFirst
    rcases recordResult_cases w now rv c result (System.ingested cfg now request s) with
      heq | ⟨u, _, _, hrec, -⟩
    · exact heq
    · have hu := hrec.task
      rw [← h.taskId, htask] at hu
      have hdisp := hrec.dispatching
      rw [← Option.some_inj.mp hu] at hdisp
      cases hdisp
  rw [hdropped]
  refine ⟨?_, ?_, ?_⟩
  · exact congrArg (Option.map (·.status)) htask
  · unfold Store.runStatus
    rw [hruns, h.run]
    rfl
  · exact congrArg (Option.map _) hstate

/-- The task is `SIGNAL_RECEIVED` in both orders. The signal first leaves run and circuit as they
    were; the ACK first closes the circuit and sets an unfinished run to `COLLECTING`. So the
    orders agree on the circuit just if it was closed without failures, and on an unfinished run
    just if it was collecting. -/
theorem ack_signal_orders (h : AckAndSignal cfg w now c result request s t run state)
    (rv : Rat) :
    (ackFirst cfg w now rv c result request s).taskStatus t.taskId = some .signalReceived ∧
    (signalFirst cfg w now rv c result request s).taskStatus t.taskId = some .signalReceived ∧
    ((signalFirst cfg w now rv c result request s).runStatus t.orchestrationRunId =
        some run.status ∧
      (signalFirst cfg w now rv c result request s).circuit t.agentId =
        some (state.circuitState, state.consecutiveFailures, state.circuitOpenUntil)) ∧
    (finalised run.status = false →
      (ackFirst cfg w now rv c result request s).runStatus t.orchestrationRunId =
          some .collecting ∧
        ((ackFirst cfg w now rv c result request s).runStatus t.orchestrationRunId =
            (signalFirst cfg w now rv c result request s).runStatus t.orchestrationRunId ↔
          run.status = .collecting)) ∧
    (ackFirst cfg w now rv c result request s).circuit t.agentId = some (.closed, 0, none) ∧
    ((ackFirst cfg w now rv c result request s).circuit t.agentId =
        (signalFirst cfg w now rv c result request s).circuit t.agentId ↔
      state.circuitState = .closed ∧ state.consecutiveFailures = 0 ∧
        state.circuitOpenUntil = none) := by
  obtain ⟨htask, hrun, hcircuit⟩ := h.ackFirst_leaves rv
  obtain ⟨htask', hrun', hcircuit'⟩ := h.signalFirst_leaves rv
  refine ⟨htask, htask', ⟨hrun', hcircuit'⟩, fun _ => ⟨hrun, ?_⟩, hcircuit, ?_⟩
  · rw [hrun, hrun', Option.some_inj]
    exact eq_comm
  · rw [hcircuit, hcircuit', Option.some_inj, Prod.mk.injEq, Prod.mk.injEq]
    constructor
    · intro heq
      exact ⟨heq.1.symm, heq.2.1.symm, heq.2.2.symm⟩
    · intro heq
      exact ⟨heq.1.symm, heq.2.1.symm, heq.2.2.symm⟩

end AckAndSignal

namespace Deployment

/-- `ALPHA` has failed once, has then acknowledged task 200 and answers it before that ACK is
    recorded. -/
@[irreducible] def overtaken : System :=
  after config
    (planned ++ [.claim 0 (seconds 1) [200]] ++
      sent 0 2 ⟨.retryable, some "AGENT_TIMEOUT", none, none⟩ ++
      [.claim 0 (seconds 3) [200], .startSend 0, .endSend 0 acked]) (by decide +kernel)

theorem overtaken_reachable : overtaken.Reachable config := by
  unfold overtaken
  exact after_reachable

/-- The race in that state, in which the run is still `DISPATCHING` and one failure is counted. -/
theorem overtaken_race : ∃ (c : DispatchCommand) (t : AgentTask) (run : OrchestrationRun)
    (state : AgentRuntimeState),
    AckAndSignal config (config.worker 0) (seconds 5) c acked alphaAnswer overtaken.store t run
        state ∧
      (overtaken.processes 0).returned.map (·.1.command.taskId) = some c.taskId ∧
      run.status = .dispatching ∧ state.consecutiveFailures = 1 := by
  -- the result that process 0 has not recorded yet
  obtain ⟨ret, hret, hid⟩ := (Option.any_eq_true ..).mp
    (by decide +kernel : (overtaken.processes 0).returned.any (fun ret =>
      ret.1.command.taskId = 200) = true)
  obtain ⟨c, result⟩ := ret
  have hheld : c ∈ (overtaken.processes 0).held :=
    System.mem_held.mpr (.inr (.inr ⟨result, hret⟩))
  obtain ⟨t, ht, hissued⟩ := overtaken_reachable.commandsIssued 0 c hheld
  have hid : c.command.taskId = 200 := of_decide_eq_true hid
  -- the row of its task, still leased by that worker
  obtain ⟨u, hu, hp⟩ := (Option.any_eq_true ..).mp
    (by decide +kernel : (overtaken.store.tasks.get? 200).any (fun u =>
      ownsLease (config.worker 0) u = true ∧ u.orchestrationRunId = 100 ∧ u.agentId = "ALPHA")
      = true)
  obtain rfl : u = t := by
    rw [hid] at ht
    exact Option.some_inj.mp (hu.symm.trans ht)
  obtain ⟨howned, hrunId, hagent⟩ := of_decide_eq_true hp
  obtain ⟨run, hrun, hst⟩ := (Option.any_eq_true ..).mp
    (by decide +kernel : (overtaken.store.runs.get? 100).any (fun run =>
      run.status = .dispatching) = true)
  -- the state of the agent after one failure
  obtain ⟨state, hstate, hfailures⟩ := (Option.any_eq_true ..).mp
    (by decide +kernel : (overtaken.store.runtimeStates.get? "ALPHA").any (fun state =>
      state.consecutiveFailures = 1) = true)
  refine ⟨c.command, u, run, state, ?_, by rw [hret]; rfl, of_decide_eq_true hst,
    of_decide_eq_true hfailures⟩
  exact
    { task := ht
      owned := howned
      issued := hissued
      run := by rw [hrunId]; exact hrun
      state := by rw [hagent]; exact hstate
      acked := rfl
      answers := by rw [hid]; rfl
      accepted := by decide +kernel }

end Deployment

open Deployment in
/-- Both orders of one ACK and one signal. -/
theorem ack_signal_orders_overtaken : ∃ (c : DispatchCommand) (t : AgentTask),
    (ackFirst config (config.worker 0) (seconds 5) 0 c acked alphaAnswer
        overtaken.store).taskStatus t.taskId = some .signalReceived ∧
      (signalFirst config (config.worker 0) (seconds 5) 0 c acked alphaAnswer
        overtaken.store).taskStatus t.taskId = some .signalReceived := by
  obtain ⟨c, t, run, state, hrace, -⟩ := overtaken_race
  have horders := hrace.ack_signal_orders 0
  exact ⟨c, t, horders.1, horders.2.1⟩

open Deployment in
/-- Run status and failure count end differently in the two orders. -/
theorem signal_overtakes_ack :
    ¬ ∀ (cfg : Config) (sys : System), sys.Reachable cfg → ∀ (p : Nat) (now : Int) (rv : Rat)
      (c : DispatchCommand) (result : DispatchResult) (request : SignalRequest) (t : AgentTask)
      (run : OrchestrationRun) (state : AgentRuntimeState),
      (sys.processes p).returned.map (·.1.command.taskId) = some c.taskId →
      AckAndSignal cfg (cfg.worker p) now c result request sys.store t run state →
      (ackFirst cfg (cfg.worker p) now rv c result request sys.store).taskStatus t.taskId =
          (signalFirst cfg (cfg.worker p) now rv c result request sys.store).taskStatus t.taskId ∧
        (ackFirst cfg (cfg.worker p) now rv c result request sys.store).runStatus
            t.orchestrationRunId =
          (signalFirst cfg (cfg.worker p) now rv c result request sys.store).runStatus
            t.orchestrationRunId ∧
        (ackFirst cfg (cfg.worker p) now rv c result request sys.store).circuit t.agentId =
          (signalFirst cfg (cfg.worker p) now rv c result request sys.store).circuit t.agentId := by
  intro hclaim
  obtain ⟨c, t, run, state, hrace, hret, hst, -⟩ := overtaken_race
  obtain ⟨-, hrun, -⟩ := hclaim config overtaken overtaken_reachable 0 (seconds 5) 0 c acked
    alphaAnswer t run state hret hrace
  rw [(hrace.ackFirst_leaves _).2.1, (hrace.signalFirst_leaves _).2.1, hst] at hrun
  cases hrun

end Tomiris
