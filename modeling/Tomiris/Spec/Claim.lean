import Tomiris.Spec.Dispatch

/-!
# The decisions of a claim

`_claim` decides about the tasks of its batch one after the other, and every decision reads the
runtime state that the tasks before it have left behind. All that they can do to it is to move a
circuit whose cool-down is over from `OPEN` to `HALF_OPEN`, which blocks nobody. So each decision
is the one that the store at the start of the transaction calls for, and the whole transaction
is described row by row.

## Key results

- `claimDecision_cases`: when a task is leased, put off or ended by a claim
- `claim_outcome`: the rows, the commands and the runtime states after a claim
-/

namespace Tomiris

open Dispatch

/-! ## The decision about one task -/

/-- The runtime state of an agent as a claim finds it. -/
def agentState (now : Int) (agentId : String) (s : Store) : AgentRuntimeState :=
  (s.runtimeStates.get? agentId).getD (freshRuntimeState now agentId)

/-- The decision about a task on the store that the claim starts from. -/
def claimDecision (now : Int) (s : Store) (t : AgentTask) : ClaimDecision :=
  decideClaim now (s.runs.get? t.orchestrationRunId) (s.endpoints.get? t.agentId)
    (agentState now t.agentId s)

/-- The run of the task is open and its agent can be called. -/
structure Dispatchable (s : Store) (t : AgentTask) : Prop where
  run : ∃ run, s.runs.get? t.orchestrationRunId = some run ∧ closedToClaims run.status = false
  endpoint : ∃ e, s.endpoints.get? t.agentId = some e ∧ e.enabled = true

instance (s : Store) (t : AgentTask) : Decidable (Dispatchable s t) :=
  decidable_of_iff
    ((∃ run, s.runs.get? t.orchestrationRunId = some run ∧ closedToClaims run.status = false) ∧
      ∃ e, s.endpoints.get? t.agentId = some e ∧ e.enabled = true)
    ⟨fun ⟨h₁, h₂⟩ => ⟨h₁, h₂⟩, fun ⟨h₁, h₂⟩ => ⟨h₁, h₂⟩⟩

/-- A claim leases the task. -/
def Leasable (now : Int) (s : Store) (t : AgentTask) : Prop :=
  Dispatchable s t ∧ circuitBlocks now (agentState now t.agentId s) = none

instance (now : Int) (s : Store) (t : AgentTask) : Decidable (Leasable now s t) :=
  inferInstanceAs (Decidable (_ ∧ _))

/-- The row that a decision leaves. -/
def decidedTask (w : DispatchWorker) (now : Int) (t : AgentTask) : ClaimDecision → AgentTask
  | .cancel => cancelledTask now t
  | .endpointMissing => endpointMissingTask now t
  | .circuitOpen openUntil => circuitOpenTask now openUntil t
  | .lease _ _ => leasedTask w now t

/-- The command that a decision issues. -/
def decidedCommand (w : DispatchWorker) (now : Int) (t : AgentTask) :
    ClaimDecision → Option DispatchCommand
  | .lease run endpoint => some (command (leasedTask w now t) run endpoint)
  | _ => none

/-- The runtime state that a decision leaves. -/
def decidedState (now : Int) (state : AgentRuntimeState) : ClaimDecision → AgentRuntimeState
  | .lease _ _ => probedState now state
  | _ => state

/-- Whatever is decided, the task keeps its key. -/
theorem decidedTask_taskId (w : DispatchWorker) (now : Int) (t : AgentTask) (d : ClaimDecision) :
    (decidedTask w now t d).taskId = t.taskId := by
  cases d <;> rfl

/-- What each decision tells about the store. -/
theorem claimDecision_cases (now : Int) (s : Store) (t : AgentTask) :
    (∃ run endpoint, claimDecision now s t = .lease run endpoint ∧ Leasable now s t ∧
      s.runs.get? t.orchestrationRunId = some run ∧ s.endpoints.get? t.agentId = some endpoint) ∨
    (∃ openUntil, claimDecision now s t = .circuitOpen openUntil ∧ Dispatchable s t ∧
      circuitBlocks now (agentState now t.agentId s) = some openUntil) ∨
    (claimDecision now s t = .cancel ∨ claimDecision now s t = .endpointMissing) ∧
      ¬ Dispatchable s t := by
  -- the run: gone or closed to claims
  cases hrun : s.runs.get? t.orchestrationRunId with
  | none =>
    have hd : claimDecision now s t = .cancel := by simp [claimDecision, decideClaim, hrun]
    refine .inr (.inr ⟨.inl hd, fun h => ?_⟩)
    obtain ⟨_, hr, -⟩ := h.run
    rw [hrun] at hr
    cases hr
  | some run =>
    cases hclosed : closedToClaims run.status with
    | true =>
      have hd : claimDecision now s t = .cancel := by
        simp [claimDecision, decideClaim, hrun, hclosed]
      refine .inr (.inr ⟨.inl hd, fun h => ?_⟩)
      obtain ⟨_, hr, hopen⟩ := h.run
      rw [hrun] at hr
      cases hr
      rw [hclosed] at hopen
      cases hopen
    | false =>
      -- the endpoint: gone or disabled
      cases hend : s.endpoints.get? t.agentId with
      | none =>
        have hd : claimDecision now s t = .endpointMissing := by
          simp [claimDecision, decideClaim, hrun, hclosed, hend]
        refine .inr (.inr ⟨.inr hd, fun h => ?_⟩)
        obtain ⟨_, he, -⟩ := h.endpoint
        rw [hend] at he
        cases he
      | some e =>
        cases henabled : e.enabled with
        | false =>
          have hd : claimDecision now s t = .endpointMissing := by
            simp [claimDecision, decideClaim, hrun, hclosed, hend, henabled]
          refine .inr (.inr ⟨.inr hd, fun h => ?_⟩)
          obtain ⟨_, he, hen⟩ := h.endpoint
          rw [hend] at he
          cases he
          rw [henabled] at hen
          cases hen
        | true =>
          have hdisp : Dispatchable s t := ⟨⟨run, hrun, hclosed⟩, e, hend, henabled⟩
          -- the circuit of the agent
          cases hblock : circuitBlocks now (agentState now t.agentId s) with
          | none =>
            have hd : claimDecision now s t = .lease run e := by
              simp [claimDecision, decideClaim, hrun, hclosed, hend, henabled, hblock]
            exact .inl ⟨run, e, hd, ⟨hdisp, hblock⟩, rfl, rfl⟩
          | some openUntil =>
            have hd : claimDecision now s t = .circuitOpen openUntil := by
              simp [claimDecision, decideClaim, hrun, hclosed, hend, henabled, hblock]
            exact .inr (.inl ⟨openUntil, hd, hdisp, rfl⟩)

/-- What can be leased is. -/
theorem decidedTask_of_leasable {w : DispatchWorker} {now : Int} {s : Store} {t : AgentTask}
    (h : Leasable now s t) : decidedTask w now t (claimDecision now s t) = leasedTask w now t := by
  rcases claimDecision_cases now s t with ⟨run, e, hd, -⟩ | ⟨o, -, -, hblock⟩ | ⟨-, hn⟩
  · rw [hd]
    rfl
  · rw [h.2] at hblock
    cases hblock
  · exact absurd h.1 hn

/-- The row that a claim leaves of a task, branch by branch. -/
theorem decidedTask_cases (w : DispatchWorker) (now : Int) (s : Store) (t : AgentTask) :
    (decidedTask w now t (claimDecision now s t) = leasedTask w now t ∧ Leasable now s t) ∨
    (∃ openUntil, decidedTask w now t (claimDecision now s t) = circuitOpenTask now openUntil t ∧
      Dispatchable s t) ∨
    (decidedTask w now t (claimDecision now s t) = cancelledTask now t ∨
      decidedTask w now t (claimDecision now s t) = endpointMissingTask now t) ∧
      ¬ Dispatchable s t := by
  rcases claimDecision_cases now s t with ⟨run, e, hd, hl, -⟩ | ⟨u, hd, hdisp, -⟩ | ⟨hd, hn⟩
  · rw [hd]
    exact .inl ⟨rfl, hl⟩
  · rw [hd]
    exact .inr (.inl ⟨u, rfl, hdisp⟩)
  · refine .inr (.inr ⟨?_, hn⟩)
    rcases hd with hd | hd
    · rw [hd]
      exact .inl rfl
    · rw [hd]
      exact .inr rfl

/-- The branches that do not lease a task write its status and no lease column. -/
theorem decidedTask_of_not_leasable {w : DispatchWorker} {now : Int} {s : Store} {t : AgentTask}
    (h : ¬ Leasable now s t) :
    (decidedTask w now t (claimDecision now s t)).status ≠ .dispatching ∧
      (decidedTask w now t (claimDecision now s t)).leaseOwner = t.leaseOwner ∧
      (decidedTask w now t (claimDecision now s t)).leaseUntil = t.leaseUntil ∧
      (decidedTask w now t (claimDecision now s t)).attemptCount = t.attemptCount := by
  rcases claimDecision_cases now s t with ⟨run, e, -, hl, -⟩ | ⟨o, hd, -, -⟩ | ⟨hd | hd, -⟩
  · exact absurd hl h
  · rw [hd]
    exact ⟨by simp [decidedTask, circuitOpenTask], rfl, rfl, rfl⟩
  · rw [hd]
    exact ⟨by simp [decidedTask, cancelledTask], rfl, rfl, rfl⟩
  · rw [hd]
    exact ⟨by simp [decidedTask, endpointMissingTask], rfl, rfl, rfl⟩

/-- A command comes from the lease of its task. -/
theorem decidedCommand_isSome (w : DispatchWorker) (now : Int) (s : Store) (t : AgentTask) :
    (decidedCommand w now t (claimDecision now s t)).isSome = true ↔ Leasable now s t := by
  rcases claimDecision_cases now s t with ⟨run, e, hd, hl, -⟩ | ⟨u, hd, -, hblock⟩ | ⟨hd, hn⟩
  · rw [hd]
    exact iff_of_true rfl hl
  · rw [hd]
    refine iff_of_false (by simp [decidedCommand]) fun hl => ?_
    rw [hl.2] at hblock
    cases hblock
  · refine iff_of_false ?_ fun hl => hn hl.1
    rcases hd with hd | hd <;> simp [hd, decidedCommand]

/-- A command goes to the agent of its task. -/
theorem decidedCommand_agent {w : DispatchWorker} {now : Int} {t : AgentTask} {d : ClaimDecision}
    {c : DispatchCommand} (h : decidedCommand w now t d = some c) :
    c.agentId = t.agentId ∧ c.taskId = t.taskId := by
  cases d with
  | lease run endpoint =>
    cases h
    exact ⟨rfl, rfl⟩
  | _ => cases h

/-! ## One turn of the loop -/

/-- The state that is locked. -/
private theorem lockRuntimeState_snd (now : Int) (a : String) (s : Store) :
    (lockRuntimeState now a s).2 = agentState now a s := by
  unfold lockRuntimeState agentState
  cases s.runtimeStates.get? a <;> rfl

/-- Endpoints are not written. -/
private theorem lockRuntimeState_endpoints (now : Int) (a : String) (s : Store) :
    (lockRuntimeState now a s).1.endpoints = s.endpoints := by
  unfold lockRuntimeState; split <;> rfl

/-- A probe is one of the same agent. -/
@[simp] theorem probedState_agentId (now : Int) (state : AgentRuntimeState) :
    (probedState now state).agentId = state.agentId := by
  unfold probedState; split <;> rfl

/-- A state belongs to its agent. -/
@[simp] theorem agentState_agentId (now : Int) (a : String) (s : Store) :
    (agentState now a s).agentId = a := by
  unfold agentState
  cases h : s.runtimeStates.get? a with
  | none => rfl
  | some state => exact Table.key_of_get? h

/-- The states behind a lock: the one that is locked exists. -/
private theorem lockRuntimeState_get? (now : Int) (a b : String) (s : Store) :
    (lockRuntimeState now a s).1.runtimeStates.get? b =
      if a = b then some (agentState now a s) else s.runtimeStates.get? b := by
  -- the lock finds the state of the agent, or inserts a fresh one
  cases h : s.runtimeStates.get? a with
  | some state =>
    simp only [lockRuntimeState, agentState, h, Option.getD_some]
    split
    · rename_i hab
      rw [← hab, h]
    · rfl
  | none =>
    simp only [lockRuntimeState, agentState, h, Option.getD_none,
      Store.putRuntimeState_runtimeStates]
    split
    · rename_i hab
      rw [← hab]
      exact Table.get?_upsert_self (a := freshRuntimeState now a)
    · rename_i hab
      exact Table.get?_upsert_ne hab

/-- Leasing after a probe has begun is leasing during it. -/
@[simp] theorem probedState_idem (now : Int) (state : AgentRuntimeState) :
    probedState now (probedState now state) = probedState now state := by
  by_cases h : state.circuitState = .opened
  · simp [probedState, h]
  · simp [probedState, h]

/-- A half-open circuit blocks nothing, so it does not block the next task either. -/
theorem circuitBlocks_probedState {now : Int} {state : AgentRuntimeState}
    (h : circuitBlocks now state = none) : circuitBlocks now (probedState now state) = none := by
  by_cases ho : state.circuitState = .opened
  · simp [probedState, circuitBlocks, ho]
  · simpa [probedState, ho] using h

/-- One turn of the loop in terms of its decision. -/
structure ClaimTurn (w : DispatchWorker) (now : Int) (t : AgentTask) (s s' : Store)
    (c : Option DispatchCommand) : Prop where
  tasks : s'.tasks = s.tasks.set (decidedTask w now t (claimDecision now s t))
  runs : s'.runs = s.runs
  endpoints : s'.endpoints = s.endpoints
  command : c = decidedCommand w now t (claimDecision now s t)
  states : ∀ a, s'.runtimeStates.get? a = if t.agentId = a then
    some (decidedState now (agentState now a s) (claimDecision now s t))
    else s.runtimeStates.get? a

/-- The same for the agent of a task. -/
private theorem lockRuntimeState_states (now : Int) (t : AgentTask) (s : Store) (a : String) :
    (lockRuntimeState now t.agentId s).1.runtimeStates.get? a =
      if t.agentId = a then some (agentState now a s) else s.runtimeStates.get? a := by
  rw [lockRuntimeState_get?]
  split
  · rename_i h
    rw [h]
  · rfl

/-- A branch that leases nothing writes the task row only. -/
private theorem ClaimTurn.of_unleased {w : DispatchWorker} {now : Int} {t : AgentTask} {s : Store}
    (hcommand : decidedCommand w now t (claimDecision now s t) = none)
    (hstate : ∀ state, decidedState now state (claimDecision now s t) = state) :
    ClaimTurn w now t s ((lockRuntimeState now t.agentId s).1.setTask
      (decidedTask w now t (claimDecision now s t))) none where
  tasks := by simp
  runs := by simp
  endpoints := by simp [lockRuntimeState_endpoints]
  command := hcommand.symm
  states := by
    intro a
    rw [hstate]
    exact lockRuntimeState_states now t s a

/-- One turn of the loop, decided by what is read in it. -/
theorem claimTask_turn (w : DispatchWorker) (now : Int) (t : AgentTask) (s : Store) :
    ClaimTurn w now t s (claimTask w now t s).1 (claimTask w now t s).2 := by
  -- locking changes neither runs nor endpoints, so the decision is that of the store
  have hdecision : decideClaim now ((lockRuntimeState now t.agentId s).1.runs.get?
      t.orchestrationRunId) ((lockRuntimeState now t.agentId s).1.endpoints.get? t.agentId)
      (lockRuntimeState now t.agentId s).2 = claimDecision now s t := by
    rw [lockRuntimeState_runs, lockRuntimeState_endpoints, lockRuntimeState_snd]
    rfl
  simp only [claimTask, hdecision]
  cases hd : claimDecision now s t with
  | cancel =>
    have hturn : ClaimTurn w now t s _ none :=
      .of_unleased (by rw [hd]; rfl) (by simp [hd, decidedState])
    rwa [hd] at hturn
  | endpointMissing =>
    have hturn : ClaimTurn w now t s _ none :=
      .of_unleased (by rw [hd]; rfl) (by simp [hd, decidedState])
    rwa [hd] at hturn
  | circuitOpen openUntil =>
    have hturn : ClaimTurn w now t s _ none :=
      .of_unleased (by rw [hd]; rfl) (by simp [hd, decidedState])
    rwa [hd] at hturn
  -- leased: the row, the command, and the state in case it probes
  | lease run endpoint =>
    refine ⟨?_, ?_, ?_, ?_, fun a => ?_⟩
    · simp [hd, decidedTask]
    · simp
    · simp [lockRuntimeState_endpoints]
    · simp [hd, decidedCommand]
    · simp only [hd, decidedState, lockRuntimeState_snd, Store.addEvent_runtimeStates,
        Store.setTask_runtimeStates, Store.putRuntimeState_runtimeStates]
      split
      · rename_i h
        subst h
        have hself := Table.get?_upsert_self
          (t := (lockRuntimeState now t.agentId s).1.runtimeStates)
          (a := probedState now (agentState now t.agentId s))
        simpa using hself
      · rename_i h
        rw [Table.get?_upsert_ne (by simpa using h), lockRuntimeState_states, if_neg h]

/-! ## The whole batch -/

/-- The next turn finds the state as this one left it. -/
private theorem ClaimTurn.agentState {w : DispatchWorker} {now : Int} {t : AgentTask} {s s' : Store}
    {c : Option DispatchCommand} (h : ClaimTurn w now t s s' c) (a : String) :
    agentState now a s' = if t.agentId = a then
      decidedState now (agentState now a s) (claimDecision now s t) else agentState now a s := by
  rw [Tomiris.agentState, h.states]
  split <;> rfl

/-- A turn leaves the later decisions as they were. -/
private theorem ClaimTurn.decision {w : DispatchWorker} {now : Int} {t : AgentTask} {s s' : Store}
    {c : Option DispatchCommand} (h : ClaimTurn w now t s s' c) (u : AgentTask) :
    claimDecision now s' u = claimDecision now s u := by
  -- only a lease touches a circuit, and it leaves one that blocks nothing
  have hblocks : circuitBlocks now (Tomiris.agentState now u.agentId s') =
      circuitBlocks now (Tomiris.agentState now u.agentId s) := by
    rw [h.agentState]
    split
    · rename_i hagent
      rcases claimDecision_cases now s t with ⟨run, e, hd, hl, -⟩ | ⟨o, hd, -, -⟩ | ⟨hd, -⟩
      · rw [hd]
        have hfree := hl.2
        rw [hagent] at hfree
        exact (circuitBlocks_probedState hfree).trans hfree.symm
      · rw [hd]
        rfl
      · rcases hd with hd | hd <;> rw [hd] <;> rfl
    · rfl
  simp only [claimDecision, decideClaim, h.runs, h.endpoints, hblocks]

/-- What a claim transaction leaves, in terms of the decisions on the store it starts from. -/
structure ClaimOutcome (w : DispatchWorker) (now : Int) (picked : List AgentTask) (s s' : Store)
    (cs : List DispatchCommand) : Prop where
  tasks : s.tasks.Moves (Table.On (picked.map (·.taskId))
    (fun t t' => t' = decidedTask w now t (claimDecision now s t))) s'.tasks
  commands : cs = picked.filterMap fun t => decidedCommand w now t (claimDecision now s t)
  leased : ∀ a, (∃ t ∈ picked, t.agentId = a ∧ Leasable now s t) →
    s'.runtimeStates.get? a = some (probedState now (agentState now a s))
  unleased : ∀ a, (¬ ∃ t ∈ picked, t.agentId = a ∧ Leasable now s t) →
    s'.runtimeStates.get? a = s.runtimeStates.get? a ∨
      s'.runtimeStates.get? a = some (agentState now a s)

/-- A task that is leased probes an open circuit. -/
private theorem decidedState_of_leasable {now : Int} {s : Store} {t : AgentTask}
    (h : Leasable now s t) (state : AgentRuntimeState) :
    decidedState now state (claimDecision now s t) = probedState now state := by
  rcases claimDecision_cases now s t with ⟨run, e, hd, -⟩ | ⟨o, -, -, hblock⟩ | ⟨-, hn⟩
  · rw [hd]
    rfl
  · rw [h.2] at hblock
    cases hblock
  · exact absurd h.1 hn

/-- Any other leaves the state as it is. -/
private theorem decidedState_of_not_leasable {now : Int} {s : Store} {t : AgentTask}
    (h : ¬ Leasable now s t) (state : AgentRuntimeState) :
    decidedState now state (claimDecision now s t) = state := by
  rcases claimDecision_cases now s t with ⟨run, e, -, hl, -⟩ | ⟨o, hd, -, -⟩ | ⟨hd, -⟩
  · exact absurd hl h
  · rw [hd]
    rfl
  · rcases hd with hd | hd <;> rw [hd] <;> rfl

section Cons

variable {w : DispatchWorker} {now : Int} {t : AgentTask} {rest : List AgentTask}
  {s s₁ s' : Store} {c : Option DispatchCommand} {cs : List DispatchCommand}

/-- So the next tasks can be leased if they could before. -/
private theorem ClaimTurn.leasable (h : ClaimTurn w now t s s₁ c) (u : AgentTask) :
    Leasable now s₁ u ↔ Leasable now s u := by
  rw [← decidedCommand_isSome w, ← decidedCommand_isSome w, h.decision]

/-- An agent that a task of the batch is leased for is probed, by the first such task. -/
private theorem ClaimOutcome.cons_leased (h : ClaimTurn w now t s s₁ c)
    (hr : ClaimOutcome w now rest s₁ s' cs) {a : String}
    (hex : ∃ u ∈ t :: rest, u.agentId = a ∧ Leasable now s u) :
    s'.runtimeStates.get? a = some (probedState now (agentState now a s)) := by
  by_cases hlater : ∃ u ∈ rest, u.agentId = a ∧ Leasable now s u
  · -- a later task of the agent is leased as well, or instead
    have hsome := hr.leased a (by simpa only [h.leasable] using hlater)
    rw [hsome, h.agentState]
    split
    · by_cases hl : Leasable now s t
      · rw [decidedState_of_leasable hl, probedState_idem]
      · rw [decidedState_of_not_leasable hl]
    · rfl
  · have hfirst : t.agentId = a ∧ Leasable now s t := by
      obtain ⟨u, hu, hua, hul⟩ := hex
      cases List.mem_cons.mp hu with
      | inl htu => exact htu ▸ ⟨hua, hul⟩
      | inr hrest => exact absurd ⟨u, hrest, hua, hul⟩ hlater
    have hstate := h.states a
    rw [if_pos hfirst.1, decidedState_of_leasable hfirst.2] at hstate
    have hagent := h.agentState a
    rw [if_pos hfirst.1, decidedState_of_leasable hfirst.2] at hagent
    cases hr.unleased a (by simpa only [h.leasable] using hlater) with
    | inl hsame => rw [hsame, hstate]
    | inr hsame => rw [hsame, hagent]

/-- The state of any other agent stays, or is inserted fresh. -/
private theorem ClaimOutcome.cons_unleased (h : ClaimTurn w now t s s₁ c)
    (hr : ClaimOutcome w now rest s₁ s' cs) {a : String}
    (hex : ¬ ∃ u ∈ t :: rest, u.agentId = a ∧ Leasable now s u) :
    s'.runtimeStates.get? a = s.runtimeStates.get? a ∨
      s'.runtimeStates.get? a = some (agentState now a s) := by
  -- the agent has no leasable task, neither the first nor a later one
  have hfirst : t.agentId = a → ¬ Leasable now s t := by
    intro hta hl
    exact hex ⟨t, List.mem_cons_self .., hta, hl⟩
  have hlater : ¬ ∃ u ∈ rest, u.agentId = a ∧ Leasable now s u := by
    intro hlater
    obtain ⟨u, hu, hua⟩ := hlater
    exact hex ⟨u, List.mem_cons_of_mem _ hu, hua⟩
  have hagent : agentState now a s₁ = agentState now a s := by
    rw [h.agentState]
    split
    · rename_i hta
      exact decidedState_of_not_leasable (hfirst hta) _
    · rfl
  -- this turn leaves its state, or inserts it fresh
  have hstate : s₁.runtimeStates.get? a = s.runtimeStates.get? a ∨
      s₁.runtimeStates.get? a = some (agentState now a s) := by
    rw [h.states]
    split
    · rename_i hta
      rw [decidedState_of_not_leasable (hfirst hta)]
      exact .inr rfl
    · exact .inl rfl
  cases hr.unleased a (by simpa only [h.leasable] using hlater) with
  | inl hsame => rwa [hsame]
  | inr hsame => exact .inr (by rw [hsame, hagent])

end Cons

/-- The loop: each task is decided by the database before it. -/
theorem claim_outcome (w : DispatchWorker) (now : Int) {picked : List AgentTask} {s : Store}
    (hrows : ∀ t ∈ picked, s.tasks.get? t.taskId = some t)
    (hnd : (picked.map (·.taskId)).Nodup) :
    ClaimOutcome w now picked s (claim w now picked s).1 (claim w now picked s).2 := by
  -- over the picked rows, which are distinct
  induction picked generalizing s with
  | nil =>
    refine ⟨.on_nil, rfl, fun a hex => ?_, fun a _ => .inl rfl⟩
    obtain ⟨t, ht, -⟩ := hex
    cases ht
  | cons t rest ih =>
    have h := claimTask_turn w now t s
    rw [List.map_cons, List.nodup_cons] at hnd
    have hset : s.tasks.Moves (Table.On [t.taskId]
        (fun t t' => t' = decidedTask w now t (claimDecision now s t)))
        (claimTask w now t s).1.tasks := by
      rw [h.tasks]
      exact .on_set (hrows t (List.mem_cons_self ..)) (decidedTask_taskId ..) rfl
    -- the turn wrote another row, so the rest is still as it was picked
    have hrows' : ∀ u ∈ rest, (claimTask w now t s).1.tasks.get? u.taskId = some u := by
      intro u hu
      apply hset.on_get? _ (hrows u (List.mem_cons_of_mem _ hu))
      intro hmem
      rw [List.mem_singleton] at hmem
      exact hnd.1 (hmem ▸ List.mem_map_of_mem hu)
    have hr := ih hrows' hnd.2
    simp only [claim]
    refine ⟨?_, ?_, fun a hex => hr.cons_leased h hex, fun a hex => hr.cons_unleased h hex⟩
    · have hrest := hr.tasks
      simp only [h.decision] at hrest
      apply Table.Moves.on_append hset hrest
      intro k hk
      rw [List.mem_singleton] at hk
      exact hk ▸ hnd.1
    · rw [hr.commands, h.command]
      simp only [h.decision, List.filterMap_cons]
      cases decidedCommand w now t (claimDecision now s t) <;> rfl

/-- The outcome of a claim over the rows of its batch. -/
theorem Dispatch.ClaimBatch.outcome (w : DispatchWorker) {now : Int} {s : Store} {n : Nat}
    {ids : List UUID} (h : ClaimBatch s now n ids) :
    ClaimOutcome w now (s.tasksAt ids) s (claim w now (s.tasksAt ids) s).1
      (claim w now (s.tasksAt ids) s).2 :=
  claim_outcome w now (fun _ ht => Store.get?_of_mem_tasksAt ht) (Store.nodup_tasksAt h.distinct)

/-- Every command is built from a task of the batch that the claim leases, and from its run. -/
theorem ClaimOutcome.command_eq {w : DispatchWorker} {now : Int} {picked : List AgentTask}
    {s s' : Store} {cs : List DispatchCommand} (h : ClaimOutcome w now picked s s' cs)
    {c : DispatchCommand} (hc : c ∈ cs) : ∃ t ∈ picked, Leasable now s t ∧ ∃ run endpoint,
      s.runs.get? t.orchestrationRunId = some run ∧
        c = command (leasedTask w now t) run endpoint := by
  rw [h.commands] at hc
  obtain ⟨t, ht, hcmd⟩ := List.mem_filterMap.mp hc
  have hl : Leasable now s t := (decidedCommand_isSome w now s t).mp (by rw [hcmd]; rfl)
  rcases claimDecision_cases now s t with ⟨run, e, hd, -, hrun, -⟩ | ⟨u, -, -, hblock⟩ | ⟨-, hn⟩
  · rw [hd] at hcmd
    exact ⟨t, ht, hl, run, e, hrun, (Option.some_inj.mp hcmd).symm⟩
  · rw [hl.2] at hblock
    cases hblock
  · exact absurd hl.1 hn

/-- The row of a task after a claim: decided if the query returned it, untouched otherwise. -/
theorem Dispatch.ClaimBatch.row (w : DispatchWorker) {now : Int} {s : Store} {n : Nat}
    {ids : List UUID} (h : ClaimBatch s now n ids) {id : UUID} {t : AgentTask}
    (ht : s.tasks.get? id = some t) :
    (claim w now (s.tasksAt ids) s).1.tasks.get? id =
      some (if id ∈ ids then decidedTask w now t (claimDecision now s t) else t) := by
  obtain ⟨t', ht', hon⟩ := (h.outcome w).tasks.get?_old ht
  have hid : t.taskId = id := Table.key_of_get? ht
  rw [ht']
  split
  · rename_i hmem
    have hsel : t ∈ s.tasksAt ids := List.mem_filterMap.mpr ⟨id, hmem, ht⟩
    rw [hon.of_mem (List.mem_map_of_mem hsel)]
  · rename_i hmem
    rw [hon.of_not_mem]
    intro hk
    exact hmem (hid ▸ (Store.mem_tasksAt_of_key (Table.mem_of_get? ht) hk).2)

/-- The row that a claim leaves of a task that its query returned. -/
theorem Dispatch.ClaimBatch.picked_row (w : DispatchWorker) {now : Int} {s : Store} {n : Nat}
    {ids : List UUID} (h : ClaimBatch s now n ids) {t : AgentTask} (ht : t ∈ s.tasksAt ids) :
    (claim w now (s.tasksAt ids) s).1.tasks.get? t.taskId =
      some (decidedTask w now t (claimDecision now s t)) := by
  have hget := Store.get?_of_mem_tasksAt ht
  have hid : t.taskId ∈ ids :=
    (Store.mem_tasksAt_of_key (Table.mem_of_get? hget) (List.mem_map_of_mem ht)).2
  rw [h.row w hget, if_pos hid]

end Tomiris
