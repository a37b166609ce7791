import Tomiris.ForStd.CircuitBreaker
import Tomiris.Spec.Claim
import Tomiris.Spec.Finality

/-!
# The circuit of an agent

The circuit columns of a runtime state are a circuit breaker: claims probe it, recorded results
close it or count against it, and no other operation touches it. An agent without a runtime state
has a fresh breaker.

## Key results

- `breaker_step`: what each action of the system does to the breaker of an agent
- `circuit_consistent`: circuit state and failure count agree in every reachable state, so one
  applied failure opens a half-open circuit again, and only an applied ACK closes a circuit
-/

namespace Tomiris

open Dispatch Recovery Quorum

/-! ## The breaker of a runtime state -/

def CircuitState.phase : CircuitState → Phase
  | .closed => .closed
  | .opened => .opened
  | .halfOpen => .halfOpen

def AgentRuntimeState.breaker (state : AgentRuntimeState) : Breaker Int where
  phase := state.circuitState.phase
  failures := state.consecutiveFailures
  openUntil := state.circuitOpenUntil

/-- The breaker of an agent. -/
def Store.breaker (s : Store) (agentId : String) : Breaker Int :=
  ((s.runtimeStates.get? agentId).map (·.breaker)).getD {}

/-- The circuit of the row and the one of the breaker. -/
@[simp] theorem phase_eq_closed {c : CircuitState} : c.phase = .closed ↔ c = .closed := by
  cases c <;> simp [CircuitState.phase]

/-- The same of an open one. -/
@[simp] theorem phase_eq_opened {c : CircuitState} : c.phase = .opened ↔ c = .opened := by
  cases c <;> simp [CircuitState.phase]

/-- And of one that is half open. -/
@[simp] theorem phase_eq_halfOpen {c : CircuitState} : c.phase = .halfOpen ↔ c = .halfOpen := by
  cases c <;> simp [CircuitState.phase]

/-- A row's phase is its breaker's. -/
@[simp] theorem breaker_phase (state : AgentRuntimeState) :
    state.breaker.phase = state.circuitState.phase := rfl

/-- The breaker of an agent is in its row. -/
theorem breaker_of_get? {s : Store} {agentId : String} {state : AgentRuntimeState}
    (h : s.runtimeStates.get? agentId = some state) : s.breaker agentId = state.breaker := by
  simp [Store.breaker, h]

/-- Without another row there is no other breaker. -/
theorem breaker_congr {s s' : Store} {agentId : String}
    (h : s'.runtimeStates.get? agentId = s.runtimeStates.get? agentId) :
    s'.breaker agentId = s.breaker agentId := by
  simp only [Store.breaker, h]

/-- Writing a row writes one breaker. -/
theorem breaker_putRuntimeState (s : Store) (state : AgentRuntimeState) (agentId : String) :
    (s.putRuntimeState state).breaker agentId =
      if state.agentId = agentId then state.breaker else s.breaker agentId := by
  split
  · rename_i h
    subst h
    apply breaker_of_get?
    exact Table.get?_upsert_self (a := state)
  · rename_i h
    apply breaker_congr
    exact Table.get?_upsert_ne h

/-- A claim after the cooldown probes. -/
@[simp] theorem breaker_probedState (now : Int) (state : AgentRuntimeState) :
    (probedState now state).breaker = state.breaker.probe := by
  by_cases h : state.circuitState = .opened
  · rw [Breaker.probe_of_opened (by simpa using h)]
    simp [probedState, h, AgentRuntimeState.breaker, CircuitState.phase]
  · rw [Breaker.probe_of_ne (by simpa using h)]
    simp [probedState, h]

/-- An ACK closes the circuit and forgets the failures. -/
@[simp] theorem breaker_ackedState (now : Int) (state : AgentRuntimeState) :
    (ackedState now state).breaker = {} := rfl

/-- A failure counts, and may open it. -/
@[simp] theorem breaker_failureState (w : DispatchWorker) (now : Int) (result : DispatchResult)
    (state : AgentRuntimeState) : (failureState w now result state).breaker =
      state.breaker.fail w.circuitFailureThreshold (now + seconds w.circuitOpenSeconds) := by
  by_cases h : w.circuitFailureThreshold ≤ state.consecutiveFailures + 1
  · rw [Breaker.fail, if_pos (show _ ≤ state.breaker.failures + 1 from h)]
    simp only [failureState, ge_iff_le, if_pos h]
    rfl
  · rw [Breaker.fail, if_neg (show ¬ _ ≤ state.breaker.failures + 1 from h)]
    simp only [failureState, ge_iff_le, if_neg h]
    rfl

/-- The fresh row of an agent has the breaker that the agent had without one. -/
theorem breaker_agentState (now : Int) (agentId : String) (s : Store) :
    (agentState now agentId s).breaker = s.breaker agentId := by
  unfold agentState Store.breaker
  cases s.runtimeStates.get? agentId <;> rfl

/-! ## Operations that leave every breaker alone -/

/-- Planning inserts tasks. -/
private theorem createTasks_frames (now : Int) (args : CreateArgs) (run : OrchestrationRun)
    (taskId : Nat → UUID) (assigned : List (CapabilityRequirement × RoutedAgent)) :
    ∀ i, (Planner.createTasks now args run taskId i assigned).Frames Store.runtimeStates := by
  -- over the assignments: an insert and an event each
  induction assigned with
  | nil => exact fun i s => rfl
  | cons pair rest ih =>
    intro i
    refine Tx.frames_bind (Tx.frames_attempt fun s s' h => ?_) fun _ =>
      Tx.frames_bind (Tx.frames_modify fun _ => rfl) fun _ => ih (i + 1)
    cases hins : s.insertTask (Planner.planTask now args run (taskId i) pair.1 pair.2) with
    | error e =>
      rw [hins] at h
      cases h
    | ok s₁ =>
      rw [hins] at h
      cases h
      obtain ⟨-, _, -, rfl⟩ := Store.insertTask_ok.mp hins
      rfl

/-- It writes no runtime state. -/
theorem create_runtimeStates (now : Int) (args : CreateArgs) (draws : PlanDraws) (s : Store) :
    (Tomiris.create now args draws s).2.runtimeStates = s.runtimeStates := by
  suffices h : (Tomiris.create now args draws).Frames Store.runtimeStates from h s
  refine Tx.frames_bind Tx.keeps_raiseIf.frames fun _ =>
    Tx.frames_bind Tx.keeps_attemptValue.frames fun context =>
    Tx.frames_begin (Tx.frames_bind (fun _ => rfl) fun existing => ?_)
  -- a plan that exists is read; a new one is inserted row by row
  cases existing with
  | some run => exact fun _ => rfl
  | none =>
    refine Tx.frames_bind (fun s => ?_) fun _ => Tx.frames_bind Tx.keeps_raiseIf.frames fun _ =>
      Tx.frames_bind (fun _ => rfl) fun _ => Tx.frames_bind (fun _ => rfl) fun run =>
      Tx.frames_bind (Tx.frames_attempt fun s s' h => ?_) fun _ =>
      Tx.frames_bind (Tx.frames_modify fun _ => rfl) fun _ =>
      Tx.frames_bind (createTasks_frames now args run draws.taskId _ 0) fun _ =>
      Tx.frames_bind (Tx.frames_modify fun s => ?_) fun _ => fun _ => rfl
    · unfold Tx.need
      split <;> rfl
    · cases hins : s.insertRun run with
      | error e =>
        rw [hins] at h
        cases h
      | ok s₁ =>
        rw [hins] at h
        cases h
        obtain ⟨-, _, -, rfl⟩ := Store.insertRun_ok.mp hins
        rfl
    · split <;> rfl

/-- Nor does expiry. -/
theorem expire_runtimeStates (now : Int) (tasks : List AgentTask) (s : Store) :
    (expireDispatchDeadlines now tasks s).runtimeStates = s.runtimeStates := by
  induction tasks generalizing s with
  | nil => rfl
  | cons t rest ih =>
    have hturn : (expireTask now t s).runtimeStates = s.runtimeStates := by
      unfold expireTask
      simp only []
      split <;> rfl
    exact (ih (expireTask now t s)).trans hturn

/-- Nor does recovery, task by task. -/
private theorem recoverTasks_runtimeStates (now : Int) (signalled : List UUID)
    (tasks : List AgentTask) (s : Store) :
    (recoverTasks now signalled tasks s).runtimeStates = s.runtimeStates := by
  unfold recoverTasks
  induction tasks generalizing s with
  | nil => rfl
  | cons t rest ih =>
    rw [List.foldl_cons]
    cases recoverTask now signalled t with
    | none => exact ih s
    | some t' => exact ih (s.setTask t')

/-- Or run by run. -/
theorem recoverRuns_runtimeStates (now : Int) (runs : List OrchestrationRun) (s : Store) :
    (recoverRuns now runs s).1.runtimeStates = s.runtimeStates := by
  induction runs generalizing s with
  | nil => rfl
  | cons run rest ih =>
    have hturn : (recoverRun now run s).1.runtimeStates = s.runtimeStates := by
      have htasks := recoverTasks_runtimeStates now (signalTaskIds s run.orchestrationRunId)
        (s.tasksOf run.orchestrationRunId) s
      unfold recoverRun
      simp only []
      split <;> exact htasks
    exact (ih (recoverRun now run s).1).trans hturn

/-- A signal shows that its agent is alive, which says nothing about its circuit. -/
theorem ingested_breaker (cfg : Config) (now : Int) (r : SignalRequest) (s : Store)
    (agentId : String) : (System.ingested cfg now r s).breaker agentId = s.breaker agentId := by
  unfold System.ingested
  cases h : ingest cfg.maxTtlSeconds now r.envelope r.nonce r.payloadHash r.requestId s with
  | mk res s' =>
    cases res with
    | error e => rw [Ingest.ingest_restores _ _ _ _ _ _ _ _ _ h]
    | ok u =>
      obtain ⟨task, nonces, signals, -, -, -, rfl⟩ := Ingest.ingest_ok.mp h
      cases task with
      | none => rfl
      | some t =>
        simp only [Ingest.accepted, Ingest.completeTask]
        split
        · rfl
        · rename_i state hstate
          -- the row is written back with the same circuit columns
          have hget : s.runtimeStates.get? r.envelope.agentId = some state := hstate
          have hkey : state.agentId = r.envelope.agentId := Table.key_of_get? hget
          change ((Store.putRuntimeState _ _).breaker agentId) = _
          rw [breaker_putRuntimeState]
          split
          · rename_i hag
            rw [← hag, breaker_of_get? (hkey ▸ hget)]
            rfl
          · rfl

/-- A health probe writes a runtime state, but not its circuit. -/
theorem recordProbe_breaker (now : Int) (probed : String) (r : ProbeResult) (s : Store)
    (agentId : String) : (recordProbe now probed r s).breaker agentId = s.breaker agentId := by
  unfold recordProbe
  split
  -- the state is updated
  · rename_i state hget
    rw [breaker_putRuntimeState]
    split
    · rename_i hag
      have hkey : state.agentId = probed := Table.key_of_get? hget
      rw [← hag, show (probedRuntime now r state).agentId = probed from hkey, breaker_of_get? hget]
      rfl
    · rfl
  -- or inserted, with the circuit that an agent has before its first state
  · rename_i hnone
    split
    · rw [breaker_putRuntimeState]
      split
      · rename_i hag
        rw [← hag, show (probedRuntime now r (freshRuntimeState now probed)).agentId = probed
          from rfl, Store.breaker, hnone]
        rfl
      · rfl
    · rfl

/-! ## Claims and results -/

/-- A claim probes the breaker of every agent that it leases a task of. -/
theorem ClaimOutcome.breaker {w : DispatchWorker} {now : Int} {picked : List AgentTask}
    {s s' : Store} {cs : List DispatchCommand} (h : ClaimOutcome w now picked s s' cs)
    (agentId : String) : s'.breaker agentId =
      if ∃ t ∈ picked, t.agentId = agentId ∧ Leasable now s t then (s.breaker agentId).probe
      else s.breaker agentId := by
  split
  · rename_i hex
    rw [breaker_of_get? (h.leased agentId hex), breaker_probedState, breaker_agentState]
  · rename_i hex
    rcases h.unleased agentId hex with hsame | hfresh
    · exact breaker_congr hsame
    · rw [breaker_of_get? hfresh, breaker_agentState]

/-- The breaker after a result. -/
def resultBreaker (w : DispatchWorker) (now : Int) (result : DispatchResult) (b : Breaker Int) :
    Breaker Int :=
  if result.disposition = .acknowledged then {}
  else b.fail w.circuitFailureThreshold (now + seconds w.circuitOpenSeconds)

/-- A failure writes the circuit of its own agent. -/
private theorem recordFailure_breaker (w : DispatchWorker) (now : Int) (rv : Rat)
    (result : DispatchResult) (t : AgentTask) (state : AgentRuntimeState) (run : OrchestrationRun)
    (s : Store) (agentId : String) :
    (recordFailure w now rv result t state run s).breaker agentId =
      if state.agentId = agentId then
        state.breaker.fail w.circuitFailureThreshold (now + seconds w.circuitOpenSeconds)
      else s.breaker agentId := by
  have hagent : (failureState w now result (touchedState now result state)).agentId =
      state.agentId := by
    unfold failureState
    simp only []
    split <;> rfl
  -- the circuit depends on the table of states alone
  have hput : ∀ (s₁ : Store) (state' : AgentRuntimeState), s₁.runtimeStates =
      s.runtimeStates.upsert state' → s₁.breaker agentId =
        (s.putRuntimeState state').breaker agentId := by
    intro s₁ state' h
    apply breaker_congr
    rw [h]
    rfl
  unfold recordFailure
  simp only []
  -- another attempt, or the end of the task
  split
  · rw [hput _ _ rfl, breaker_putRuntimeState, hagent, breaker_failureState]
    rfl
  · rw [hput _ _ rfl, breaker_putRuntimeState]
    simp only [hagent]
    split
    · exact breaker_failureState w now result (touchedState now result state)
    · rfl

/-- A result either is dropped or goes to the breaker of the agent of its command. -/
theorem recordResult_breaker (cfg : Config) {sys : System} {p : Nat} (now : Int) (rv : Rat)
    {c : Claimed} {result : DispatchResult} (hp : (sys.processes p).returned = some (c, result))
    (agentId : String) :
    (recordResult (cfg.worker p) now rv c.command result sys.store).breaker agentId =
        sys.store.breaker agentId ∧ appliedResult cfg sys (.record p now rv) = none ∨
    appliedResult cfg sys (.record p now rv) = some (c.command.agentId, result) ∧
      (recordResult (cfg.worker p) now rv c.command result sys.store).breaker agentId =
        if c.command.agentId = agentId then
          resultBreaker (cfg.worker p) now result (sys.store.breaker agentId)
        else sys.store.breaker agentId := by
  simp only [appliedResult, hp, recordResult]
  -- a result whose task, state or run is gone is dropped, and so is one without the lease
  cases ht : sys.store.tasks.get? c.command.taskId with
  | none => exact .inl ⟨rfl, rfl⟩
  | some t =>
    cases hst : sys.store.runtimeStates.get? c.command.agentId with
    | none => exact .inl ⟨rfl, rfl⟩
    | some state =>
      cases hr : sys.store.runs.get? c.command.orchestrationRunId with
      | none => exact .inl ⟨rfl, rfl⟩
      | some run =>
        have hkey : state.agentId = c.command.agentId := Table.key_of_get? hst
        by_cases hown : ownsLease (cfg.worker p) t = true
        · refine .inr ⟨if_pos hown, ?_⟩
          simp only [hown, if_true]
          have hold : ∀ b, c.command.agentId = agentId → b = sys.store.breaker agentId →
              state.breaker = b := by
            intro b hag hb
            rw [hb, ← hag, breaker_of_get? hst]
          -- an ACK closes the circuit, anything else counts as a failure
          by_cases hack : result.disposition = .acknowledged
          · simp only [hack, if_true, resultBreaker]
            change ((Store.putRuntimeState _ _).breaker agentId) = _
            rw [breaker_putRuntimeState, breaker_ackedState]
            rw [show (ackedState now (touchedState now result state)).agentId =
              c.command.agentId from hkey]
            rfl
          · simp only [hack, if_false, resultBreaker, recordFailure_breaker, hkey]
            split
            · rename_i hag
              rw [hold _ hag rfl]
            · rfl
        · refine .inl ⟨?_, if_neg hown⟩
          simp only [hown]
          rfl

/-! ## Steps of the system -/

/-- What an action does to the breaker of an agent. -/
inductive BreakerStep (cfg : Config) (sys : System) (agentId : String) :
    Action → Breaker Int → Prop
  | keep {a : Action} : (∀ result, appliedResult cfg sys a ≠ some (agentId, result)) →
      BreakerStep cfg sys agentId a (sys.store.breaker agentId)
  | probed {p : Nat} {now : Int} {ids : List UUID} :
      (∃ t ∈ sys.store.tasksAt ids, t.agentId = agentId ∧ Leasable now sys.store t) →
      BreakerStep cfg sys agentId (.claim p now ids) (sys.store.breaker agentId).probe
  | applied {p : Nat} {now : Int} {rv : Rat} {result : DispatchResult} :
      appliedResult cfg sys (.record p now rv) = some (agentId, result) →
      BreakerStep cfg sys agentId (.record p now rv)
        (resultBreaker (cfg.worker p) now result (sys.store.breaker agentId))

/-- Every action is one change of the breaker of an agent. -/
theorem BreakerStep.move {cfg : Config} {sys : System} {threshold : Nat} {agentId : String}
    {a : Action} {b : Breaker Int}
    (hthreshold : ∀ p, (cfg.worker p).circuitFailureThreshold = threshold)
    (h : BreakerStep cfg sys agentId a b) : (sys.store.breaker agentId).Move threshold b := by
  cases h with
  | keep _ => exact .keep
  | probed _ => exact .probed
  | @applied p now rv result _ =>
    unfold resultBreaker
    split
    · exact .succeeded
    · rw [hthreshold p]
      exact .failed _

/-- An applied failure opens a half-open circuit again. -/
theorem BreakerStep.reopened {cfg : Config} {sys : System} {threshold : Nat} {agentId : String}
    {a : Action} {b : Breaker Int} {result : DispatchResult}
    (hthreshold : ∀ p, (cfg.worker p).circuitFailureThreshold = threshold)
    (h : BreakerStep cfg sys agentId a b)
    (hcons : (sys.store.breaker agentId).Consistent threshold)
    (hhalf : (sys.store.breaker agentId).phase = .halfOpen)
    (happ : appliedResult cfg sys a = some (agentId, result))
    (hres : result.disposition ≠ .acknowledged) : b.phase = .opened := by
  cases h with
  | keep hnone => exact absurd happ (hnone result)
  | probed _ => cases happ
  | applied happ' =>
    obtain rfl := (Prod.mk.inj (Option.some_inj.mp (happ'.symm.trans happ))).2
    rw [resultBreaker, if_neg hres, hthreshold]
    exact hcons.fail_of_halfOpen hhalf _

/-- Only an applied ACK closes a circuit. -/
theorem BreakerStep.closed {cfg : Config} {sys : System} {agentId : String} {a : Action}
    {b : Breaker Int} (h : BreakerStep cfg sys agentId a b)
    (hphase : (sys.store.breaker agentId).phase ≠ .closed) (hclosed : b.phase = .closed) :
    ∃ result, appliedResult cfg sys a = some (agentId, result) ∧
      result.disposition = .acknowledged := by
  cases h with
  | keep _ => exact absurd hclosed hphase
  | probed _ => exact absurd (Breaker.probe_closed hclosed) hphase
  | @applied p now rv result happ =>
    refine ⟨result, happ, ?_⟩
    by_contra hres
    rw [resultBreaker, if_neg hres] at hclosed
    exact hphase (Breaker.fail_closed hclosed)

namespace System

variable {cfg : Config} {sys sys' : System}

/-- What one action does to the circuit of an agent. -/
theorem breaker_step {a : Action} (h : step cfg sys a = some sys') (agentId : String) :
    BreakerStep cfg sys agentId a (sys'.store.breaker agentId) := by
  -- all actions but claims and results
  have hkeep : sys'.store.breaker agentId = sys.store.breaker agentId →
      (∀ p now rv, a ≠ .record p now rv) →
      BreakerStep cfg sys agentId a (sys'.store.breaker agentId) := by
    intro hsame hrec
    rw [hsame]
    apply BreakerStep.keep
    intro result
    unfold appliedResult
    split
    · exact absurd rfl (hrec _ _ _)
    · intro hr
      cases hr
  cases a with
  | claim p now ids =>
    obtain ⟨-, hbatch, rfl⟩ := stepClaim_eq h
    rw [setProcess_store, (hbatch.outcome (cfg.worker p)).breaker]
    split
    · rename_i hex
      exact .probed hex
    · exact .keep fun result hr => by cases hr
  | record p now rv =>
    obtain ⟨c, result, hp, rfl⟩ := stepRecord_eq h
    rw [setProcess_store]
    rcases recordResult_breaker cfg now rv hp agentId with ⟨hsame, hnone⟩ | ⟨happ, hbr⟩
    · rw [hsame]
      exact .keep fun result hr => by rw [hnone] at hr; cases hr
    · rw [hbr]
      split
      · rename_i hag
        subst hag
        exact .applied happ
      · rename_i hag
        apply BreakerStep.keep
        intro r hr
        rw [happ] at hr
        cases hr
        exact hag rfl
  | create now args draws =>
    cases h
    exact hkeep (breaker_congr (by rw [create_runtimeStates])) fun _ _ _ hr => by cases hr
  | expire now ids =>
    apply hkeep _ fun _ _ _ hr => by cases hr
    simp only [step] at h
    split at h
    · cases h
      exact breaker_congr (by rw [expire_runtimeStates])
    · cases h
  | recover now ids =>
    apply hkeep _ fun _ _ _ hr => by cases hr
    simp only [step] at h
    split at h
    · cases h
      exact breaker_congr (by rw [recoverRuns_runtimeStates])
    · cases h
  | evaluate now id =>
    apply hkeep _ fun _ _ _ hr => by cases hr
    cases h
    rcases evaluated_cases now id sys.store with hc | ⟨run, v, -, hc⟩
    · exact congrArg (Store.breaker · agentId) hc
    · exact (congrArg (Store.breaker · agentId) hc).trans rfl
  | ingest now r =>
    cases h
    exact hkeep (ingested_breaker cfg now r sys.store agentId) fun _ _ _ hr => by cases hr
  | probe now probed r =>
    cases h
    exact hkeep (recordProbe_breaker now probed r sys.store agentId) fun _ _ _ hr => by cases hr
  | startSend p =>
    obtain ⟨_, _, _, rfl⟩ := stepStartSend_eq h
    exact hkeep rfl fun _ _ _ hr => by cases hr
  | endSend p result =>
    obtain ⟨_, _, _, rfl⟩ := stepEndSend_eq h
    exact hkeep rfl fun _ _ _ hr => by cases hr
  | deliver p now nonce expires ack =>
    exact hkeep (by rw [(stepDeliver_eq h).1]) fun _ _ _ hr => by cases hr
  | _ =>
    cases h
    exact hkeep rfl fun _ _ _ hr => by cases hr

/-! ## Circuit state and failure count -/

/-- The circuit of an agent agrees with its failures, in every run. -/
theorem Reachable.breaker_consistent {threshold : Nat} (hpos : 1 ≤ threshold)
    (hthreshold : ∀ p, (cfg.worker p).circuitFailureThreshold = threshold)
    (h : Reachable cfg sys) (agentId : String) :
    (sys.store.breaker agentId).Consistent threshold := by
  apply Transition.Exec.invariant
    (I := fun sys => (sys.store.breaker agentId).Consistent threshold) h (.fresh hpos)
  intro u a v hu _ hstep
  exact hu.move hpos ((breaker_step hstep agentId).move hthreshold)

end System

/-- The circuit of a runtime state agrees with its count of failures. -/
structure CircuitAgrees (threshold : Nat) (state : AgentRuntimeState) : Prop where
  closed : state.circuitState = .closed →
    state.consecutiveFailures < threshold ∧ state.circuitOpenUntil = none
  tripped : state.circuitState = .opened ∨ state.circuitState = .halfOpen →
    threshold ≤ state.consecutiveFailures ∧ state.circuitOpenUntil.isSome = true

/-- The columns say so. -/
theorem CircuitAgrees.of_consistent {threshold : Nat} {state : AgentRuntimeState}
    (h : state.breaker.Consistent threshold) : CircuitAgrees threshold state where
  closed := fun hc => h.closed (by simpa using hc)
  tripped := by
    intro ht
    apply h.tripped
    rcases ht with ht | ht
    · simp [ht]
    · simp [ht]

/-- Circuit state and failure count agree in every reachable state. So an applied failure opens a
    half-open circuit again, and only an applied ACK closes a circuit. -/
theorem circuit_consistent {cfg : Config} {sys : System} {threshold : Nat} (hpos : 1 ≤ threshold)
    (hthreshold : ∀ p, (cfg.worker p).circuitFailureThreshold = threshold)
    (h : sys.Reachable cfg) :
    (∀ state ∈ sys.store.runtimeStates.rows, CircuitAgrees threshold state) ∧
    ∀ a sys', System.step cfg sys a = some sys' → ∀ state ∈ sys.store.runtimeStates.rows,
      ∀ state', sys'.store.runtimeStates.get? state.agentId = some state' →
      (state.circuitState = .halfOpen → (∃ result, appliedResult cfg sys a =
          some (state.agentId, result) ∧ result.disposition ≠ .acknowledged) →
        state'.circuitState = .opened) ∧
      (state.circuitState ≠ .closed → state'.circuitState = .closed →
        ∃ result, appliedResult cfg sys a = some (state.agentId, result) ∧
          result.disposition = .acknowledged) := by
  -- the circuit of an agent is read from its row
  have hrow : ∀ state ∈ sys.store.runtimeStates.rows,
      sys.store.breaker state.agentId = state.breaker := by
    intro state hstate
    exact breaker_of_get? (Table.get?_of_mem hstate)
  constructor
  · intro state hstate
    apply CircuitAgrees.of_consistent
    rw [← hrow state hstate]
    exact h.breaker_consistent hpos hthreshold state.agentId
  · intro a sys' hstep state hstate state' hstate'
    -- what the step does to the circuit of this agent
    have hb := System.breaker_step hstep state.agentId
    rw [breaker_of_get? hstate'] at hb
    constructor
    · intro hhalf hfail
      obtain ⟨result, happ, hres⟩ := hfail
      have hphase : (sys.store.breaker state.agentId).phase = .halfOpen := by
        rw [hrow state hstate]
        simpa using hhalf
      have hcons := h.breaker_consistent hpos hthreshold state.agentId
      simpa using hb.reopened hthreshold hcons hphase happ hres
    · intro hopen hclosed
      have hphase : (sys.store.breaker state.agentId).phase ≠ .closed := by
        rw [hrow state hstate]
        simpa using hopen
      exact hb.closed hphase (by simpa using hclosed)

namespace Deployment

/-- Workers that open a circuit at the first failure. -/
def fragile : Config :=
  { config with worker := fun i => { config.worker i with circuitFailureThreshold := 1 } }

/-- The first command has failed, and the circuit of `ALPHA` is open. -/
@[irreducible] def tripped : System :=
  after fragile (planned ++ [.claim 0 (seconds 1) [200]] ++ sent 0 2 refused) (by decide +kernel)

theorem tripped_reachable : tripped.Reachable fragile := by
  unfold tripped
  exact after_reachable

end Deployment

open Deployment in
theorem circuit_consistent_tripped :
    (∀ state ∈ tripped.store.runtimeStates.rows, CircuitAgrees 1 state) ∧
      tripped.store.runtimeStates.rows.map (·.circuitState) = [.opened] :=
  ⟨(circuit_consistent (Nat.le_refl 1) (fun _ => rfl) tripped_reachable).1, by decide +kernel⟩

end Tomiris
