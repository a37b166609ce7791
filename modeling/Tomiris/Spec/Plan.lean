import Tomiris.Spec.Planner
import Tomiris.Spec.SignalStore

/-!
# Plans

What `create` stores for a run id that is not taken, and what it can raise. The tasks are those of
the agents that the registry has for each requirement, in their order; no constraint of the tables
stands in their way but the length of the asset and the ids that were drawn. A second call with the
run id reads the tasks back in the order of their ids, which is not the order of the first plan.

## Key results

- `createTasks_ends`: the rows of the loop over the assignments
- `mem_eligibleAgents`, `eligibleAgents_sorted`: the agents that are routed
- `create_ends`: what is stored, and what is raised
-/

namespace Tomiris

open Planner

/-- The foreign key from `agent_tasks` to `orchestration_runs`. -/
def Store.TasksOfRuns (s : Store) : Prop :=
  ∀ t ∈ s.tasks.rows, (s.runs.get? t.orchestrationRunId).isSome

section Loop

variable {now : Int} {args : CreateArgs} {run : OrchestrationRun} {taskId : Nat → UUID}

/-- The rows of the assignments, with the drawn task ids from `i` on. -/
def planTasks (now : Int) (args : CreateArgs) (run : OrchestrationRun) (taskId : Nat → UUID) :
    Nat → List (CapabilityRequirement × RoutedAgent) → List AgentTask
  | _, [] => []
  | i, (requirement, routed) :: rest =>
    planTask now args run (taskId i) requirement routed ::
      planTasks now args run taskId (i + 1) rest

/-- What a row shows of its assignment. -/
theorem planTasks_map {α : Type} (f : AgentTask → α) (g : CapabilityRequirement × RoutedAgent → α)
    (hf : ∀ id pair, f (planTask now args run id pair.1 pair.2) = g pair) (i : Nat)
    (assigned : List (CapabilityRequirement × RoutedAgent)) :
    (planTasks now args run taskId i assigned).map f = assigned.map g := by
  induction assigned generalizing i with
  | nil => rfl
  | cons pair rest ih =>
    rw [planTasks, List.map_cons, List.map_cons, ih, hf (taskId i) pair]

/-- The tasks take the ids in the order in which they were drawn. -/
theorem planTasks_ids (i : Nat) (assigned : List (CapabilityRequirement × RoutedAgent)) :
    (planTasks now args run taskId i assigned).map (·.taskId) =
      (List.range' i assigned.length).map taskId := by
  induction assigned generalizing i with
  | nil => rfl
  | cons pair rest ih =>
    rw [planTasks, List.map_cons, List.length_cons, List.range'_succ, List.map_cons, ih]
    rfl

/-- Every task of a plan comes from one of the assignments. -/
theorem mem_planTasks {i : Nat} {assigned : List (CapabilityRequirement × RoutedAgent)}
    {t : AgentTask} (h : t ∈ planTasks now args run taskId i assigned) :
    ∃ id, ∃ pair ∈ assigned, t = planTask now args run id pair.1 pair.2 := by
  induction assigned generalizing i with
  | nil => cases h
  | cons pair rest ih =>
    rcases List.mem_cons.mp h with rfl | h
    · exact ⟨taskId i, pair, List.mem_cons_self .., rfl⟩
    · obtain ⟨id, pair', hpair, ht⟩ := ih h
      exact ⟨id, pair', List.mem_cons_of_mem _ hpair, ht⟩

/-- The store with these task rows, and their events. -/
structure Inserted (new : List AgentTask) (s s' : Store) : Prop where
  rows : s'.tasks.rows = s.tasks.rows ++ new
  same : s' = { s with tasks := s'.tasks, auditEvents := s'.auditEvents }

/-- Inserts one after the other add their rows. -/
theorem Inserted.cons {t : AgentTask} {new : List AgentTask} {s s' s'' : Store}
    (h : Inserted [t] s s') (h' : Inserted new s' s'') : Inserted (t :: new) s s'' := by
  constructor
  · rw [h'.rows, h.rows, List.append_assoc, List.singleton_append]
  · rw [h'.same, h.same]

/-- The rows keep every constraint of `agent_tasks` but its primary key. -/
structure Fit (s : Store) (new : List AgentTask) : Prop where
  admitted : ∀ t ∈ new, Store.TaskAdmitted t s
  distinct : (new.map AgentTask.assignment).Nodup

/-- The rows that are left fit after one of them is inserted. -/
theorem Fit.tail {t : AgentTask} {new : List AgentTask} {s s' : Store} (h : Fit s (t :: new))
    (hins : Inserted [t] s s') : Fit s' new := by
  have hdistinct := h.distinct
  rw [List.map_cons, List.nodup_cons] at hdistinct
  refine ⟨?_, hdistinct.2⟩
  intro u hu
  have hadmitted := h.admitted u (List.mem_cons_of_mem _ hu)
  rw [hins.same]
  refine ⟨hadmitted.columns, hadmitted.checks, hadmitted.run, hadmitted.snapshot,
    hadmitted.agent, ?_⟩
  intro o ho
  -- the row may collide with an old one or with the one inserted, and does with neither
  simp only [hins.rows, List.mem_append, List.mem_singleton] at ho
  rcases ho with ho | rfl
  · exact hadmitted.unique o ho
  · intro hsame
    exact hdistinct.1 (List.mem_map.mpr ⟨u, hu, hsame.symm⟩)

/-- The ids of the rows are those of stored tasks, or of each other. -/
def Repeats (s : Store) (ids : List UUID) : Prop :=
  ¬ (s.tasks.rows.map (·.taskId) ++ ids).Nodup

/-- The loop over the assignments stores their rows. If they fit, it raises only when an id that was
    drawn is taken. -/
theorem createTasks_ends (i : Nat) (assigned : List (CapabilityRequirement × RoutedAgent))
    (s : Store) : (createTasks now args run taskId i assigned).Ends s
      (fun _ s' => Inserted (planTasks now args run taskId i assigned) s s')
      (fun e => Fit s (planTasks now args run taskId i assigned) →
        e = .db (.integrity "agent_tasks_pkey") ∧
          Repeats s ((List.range' i assigned.length).map taskId)) := by
  induction assigned generalizing i s with
  | nil => exact Tx.ends_pure ⟨by simp [planTasks], rfl⟩
  | cons pair rest ih =>
    obtain ⟨requirement, routed⟩ := pair
    generalize htask : planTask now args run (taskId i) requirement routed = task
    have hid : task.taskId = taskId i := by rw [← htask]; rfl
    have hnew : planTasks now args run taskId i ((requirement, routed) :: rest) =
        task :: planTasks now args run taskId (i + 1) rest := by rw [planTasks, htask]
    rw [hnew, List.length_cons, List.range'_succ, List.map_cons]
    unfold createTasks
    rw [htask]
    refine Tx.ends_bind (Q := fun _ s' => s.insertTask task = .ok s')
      (Tx.ends_attempt (fun s' h => Tx.mapError_eq_ok.mp h) ?_) ?_
    -- a row that fits is refused for its id only
    · intro e he hfit
      obtain ⟨e', hinsert, rfl⟩ := Tx.mapError_eq_error.mp he
      have hadmitted := hfit.admitted task (List.mem_cons_self ..)
      obtain ⟨rfl, htaken⟩ := Store.insertTask_error hadmitted hinsert
      refine ⟨rfl, fun hnodup => ?_⟩
      rw [hid] at htaken
      exact (List.nodup_append.mp hnodup).2.2 _ htaken _ (List.mem_cons_self ..) rfl
    -- inserted: the event, then the rest of the rows
    · intro _ s₁ hinsert
      obtain ⟨-, tasks, htable, rfl⟩ := Store.insertTask_ok.mp hinsert
      obtain ⟨hfree, hrows⟩ := Table.insert?_eq_some.mp htable
      refine Tx.ends_bind (Q := fun _ s' => Inserted [task] s s') (Tx.ends_modify ⟨hrows, rfl⟩) ?_
      intro _ s₂ hins
      refine (ih (i + 1) s₂).mono (fun _ s' h => hins.cons h) ?_
      intro e he hfit
      obtain ⟨rfl, hrepeats⟩ := he (hfit.tail hins)
      refine ⟨rfl, fun hnodup => hrepeats ?_⟩
      rw [hins.rows, List.map_append, List.map_singleton, hid, List.append_assoc]
      exact hnodup

end Loop

/-! ## Routing -/

section Routing

variable {s : Store} {asset capability : String}

/-- The agent is enabled, as its endpoint is, and serves the capability and the asset. -/
def Serves (s : Store) (asset capability agentId : String) : Prop :=
  ∃ agent endpoint, s.agents.get? agentId = some agent ∧
    s.endpoints.get? agentId = some endpoint ∧ agent.enabled = true ∧ endpoint.enabled = true ∧
    capability ∈ agent.capabilities ∧ asset ∈ agent.supportedAssets

/-- The first elements of a list, if there is a limit. -/
def atMost {α : Type} : Option Nat → List α → List α
  | none, l => l
  | some n, l => l.take n

/-- `min(limit, n)`, if there is a limit. -/
def capped : Option Nat → Nat → Nat
  | none, n => n
  | some m, n => min m n

/-- A limit caps the length. -/
theorem atMost_length {α : Type} (limit : Option Nat) (l : List α) :
    (atMost limit l).length = capped limit l.length := by
  cases limit with
  | none => rfl
  | some n => exact List.length_take

/-- A limit commutes with what is done to each element. -/
theorem atMost_map {α β : Type} (f : α → β) (limit : Option Nat) (l : List α) :
    (atMost limit l).map f = atMost limit (l.map f) := by
  cases limit with
  | none => rfl
  | some n => exact List.map_take

/-- A selection with a limit begins the one without. -/
theorem select_eq_atMost (asset capability : String) (limit : Option Nat) (s : Store) :
    select asset capability limit s = atMost limit (select asset capability none s) := by
  cases limit with
  | none => rfl
  | some n => rfl

/-- The agents that are routed to a capability without a limit. -/
def eligibleAgents (s : Store) (asset capability : String) : List String :=
  (select asset capability none s).map (·.agentId)

/-- The join has the enabled agents whose endpoint is enabled. -/
theorem mem_enabledAgents {agent : Agent} {endpoint : AgentEndpoint} :
    (agent, endpoint) ∈ enabledAgents s ↔ agent ∈ s.agents.rows ∧
      s.endpoints.get? agent.agentId = some endpoint ∧ agent.enabled = true ∧
      endpoint.enabled = true := by
  unfold enabledAgents
  rw [List.mem_filterMap]
  constructor
  -- the sort keeps the rows, and the join drops those without an enabled endpoint
  · rintro ⟨agent', hrow, hjoin⟩
    rw [List.mem_insertionSort] at hrow
    split at hjoin
    · rename_i endpoint' hendpoint
      split at hjoin
      · rename_i henabled
        cases hjoin
        rw [Bool.and_eq_true] at henabled
        exact ⟨hrow, hendpoint, henabled.1, henabled.2⟩
      · cases hjoin
    · cases hjoin
  · rintro ⟨hrow, hendpoint, hagent, henabled⟩
    refine ⟨agent, List.mem_insertionSort _ |>.mpr hrow, ?_⟩
    simp [hendpoint, hagent, henabled]

/-- The eligible agents are those that serve the capability and the asset. -/
theorem mem_eligibleAgents {agentId : String} :
    agentId ∈ eligibleAgents s asset capability ↔ Serves s asset capability agentId := by
  unfold eligibleAgents select
  simp only [List.mem_map, List.mem_filterMap]
  constructor
  -- joined and selected
  · rintro ⟨routed, ⟨⟨agent, endpoint⟩, hjoined, hselected⟩, rfl⟩
    obtain ⟨hrow, hendpoint, hagent, henabled⟩ := mem_enabledAgents.mp hjoined
    simp only at hselected
    split at hselected
    · rename_i hserves
      cases hselected
      exact ⟨agent, endpoint, Table.get?_of_mem hrow, hendpoint, hagent, henabled, hserves⟩
    · cases hselected
  · rintro ⟨agent, endpoint, hget, hendpoint, hagent, henabled, hserves⟩
    obtain ⟨hrow, hkey⟩ := Table.get?_eq_some.mp hget
    have hid : agent.agentId = agentId := hkey
    rw [← hid] at hendpoint
    refine ⟨⟨agent.agentId, capability, agent.criticality, endpoint.endpointUrl,
      endpoint.environment⟩, ⟨(agent, endpoint), ?_, if_pos hserves⟩, hid⟩
    exact mem_enabledAgents.mpr ⟨hrow, hendpoint, hagent, henabled⟩

/-- The rows of the agents in the order of their ids, none of which is there twice. -/
theorem sortedAgents (s : Store) :
    (s.agents.rows.insertionSort (fun a b => a.agentId ≤ b.agentId)).Pairwise
      (fun a b => a.agentId < b.agentId) := by
  have htotal : Std.Total (fun a b : Agent => a.agentId ≤ b.agentId) :=
    ⟨fun a b => String.le_total a.agentId b.agentId⟩
  have htrans : IsTrans Agent (fun a b => a.agentId ≤ b.agentId) :=
    ⟨fun _ _ _ h h' => String.le_trans h h'⟩
  -- sorted by the ids, which are distinct keys
  have hsorted := List.pairwise_insertionSort (fun a b : Agent => a.agentId ≤ b.agentId)
    s.agents.rows
  have hdistinct : (s.agents.rows.insertionSort (fun a b => a.agentId ≤ b.agentId)).Pairwise
      (fun a b => a.agentId ≠ b.agentId) := by
    have hkeys : (s.agents.rows.map (·.agentId)).Nodup := s.agents.nodup
    rw [← List.pairwise_map, ← List.nodup_iff_pairwise_ne]
    exact ((List.perm_insertionSort _ _).map _).nodup_iff.mpr hkeys
  refine hsorted.imp₂ ?_ hdistinct
  intro a b hle hne
  rw [← String.not_le]
  exact fun hge => hne (String.le_antisymm hle hge)

/-- The agents that are routed come in the order of their ids. -/
theorem eligibleAgents_sorted : (eligibleAgents s asset capability).Pairwise (· < ·) := by
  -- the join and the selection drop rows, which keeps the order
  have hjoined : (enabledAgents s).Pairwise (fun a b => a.1.agentId < b.1.agentId) := by
    refine (sortedAgents s).filterMap _ ?_
    intro a a' hlt b hb b' hb'
    split at hb
    · split at hb
      · cases hb
        split at hb'
        · split at hb'
          · cases hb'
            exact hlt
          · cases hb'
        · cases hb'
      · cases hb
    · cases hb
  unfold eligibleAgents
  rw [List.pairwise_map]
  refine hjoined.filterMap _ ?_
  intro a a' hlt b hb b' hb'
  simp only at hb hb'
  split at hb
  · cases hb
    split at hb'
    · cases hb'
      exact hlt
    · cases hb'
  · cases hb

end Routing

/-! ## Storing a run -/

section Storing

variable {now : Int} {args : CreateArgs} {s : Store} {runId correlationId : UUID}
variable {context : PyValue} {taskId : Nat → UUID}

/-- Each requirement is assigned to its first eligible agents, up to its maximum. -/
theorem assignments_map (args : CreateArgs) (s : Store) :
    (assignments args s).map (fun pair => (pair.1.capability, pair.2.agentId)) =
      args.policy.requirements.flatMap fun r =>
        (atMost r.maxAgents (eligibleAgents s args.asset r.capability)).map fun agentId =>
          (r.capability, agentId) := by
  unfold assignments
  rw [List.map_flatMap]
  congr 1
  funext r
  rw [select_eq_atMost, List.map_map, eligibleAgents, ← atMost_map, List.map_map]
  rfl

/-- No agent is assigned a capability twice. -/
theorem assignments_distinct (args : CreateArgs) (s : Store) :
    ((assignments args s).map fun pair => (pair.1.capability, pair.2.agentId)).Nodup := by
  rw [assignments_map, List.nodup_flatMap]
  constructor
  · intro r _
    -- within a capability the agents are distinct
    have hagents : (eligibleAgents s args.asset r.capability).Nodup := by
      refine eligibleAgents_sorted.imp ?_
      rintro a b hlt rfl
      exact String.lt_irrefl a hlt
    have hsome : (atMost r.maxAgents (eligibleAgents s args.asset r.capability)).Nodup := by
      cases r.maxAgents with
      | none => exact hagents
      | some n => exact hagents.sublist (List.take_sublist n _)
    refine hsome.map ?_
    intro a b hab
    exact (Prod.mk.inj hab).2
  -- and the capabilities of a policy are
  · have hunique := args.policy.valid.capabilities_unique
    rw [List.nodup_iff_pairwise_ne, List.pairwise_map] at hunique
    refine hunique.imp ?_
    intro r r' hne pair hpair hpair'
    obtain ⟨a, -, rfl⟩ := List.mem_map.mp hpair
    obtain ⟨a', -, heq⟩ := List.mem_map.mp hpair'
    exact hne (Prod.mk.inj heq).1.symm

/-- Nothing that tells the capability and the agent apart is there twice. -/
theorem assignments_map_nodup {β : Type} (args : CreateArgs) (s : Store)
    (f : CapabilityRequirement × RoutedAgent → β)
    (hf : ∀ pair pair', f pair = f pair' →
      pair.1.capability = pair'.1.capability ∧ pair.2.agentId = pair'.2.agentId) :
    ((assignments args s).map f).Nodup := by
  have hdistinct := assignments_distinct args s
  rw [List.nodup_iff_pairwise_ne, List.pairwise_map] at hdistinct ⊢
  refine hdistinct.imp ?_
  intro pair pair' hne heq
  obtain ⟨hcapability, hagent⟩ := hf pair pair' heq
  exact hne (Prod.ext hcapability hagent)

/-- The store has room for a run with the id. -/
structure Plannable (now : Int) (args : CreateArgs) (runId : UUID) (s : Store) : Prop where
  fresh : s.runs.get? runId = none
  tasks : s.TasksOfRuns
  snapshot : ∃ m, s.snapshots.get? args.snapshotId = some m ∧ m.status = .opened ∧ now < m.expiresAt

/-- The row of the run meets its checks. -/
theorem planRun_checks (htrigger : args.triggerType = "MANUAL" ∨ args.triggerType = "TEST") :
    (planRun now args runId correlationId context s).checksOk = true := by
  have hvalid := args.policy.valid
  have hcollection : 1 ≤ args.policy.collectionTimeoutSeconds :=
    hvalid.dispatch_pos.trans (hvalid.dispatch_le_signal.trans hvalid.signal_le_collection)
  have hpos := seconds_pos hcollection
  have hdeadline : now < now + seconds args.policy.collectionTimeoutSeconds := by omega
  rcases htrigger with htrigger | htrigger
  · simp [OrchestrationRun.checksOk, planRun, htrigger, hdeadline]
  · simp [OrchestrationRun.checksOk, planRun, htrigger, hdeadline]

/-- Of the columns of the run only the asset can be too long. -/
theorem planRun_columns (htrigger : args.triggerType = "MANUAL" ∨ args.triggerType = "TEST") :
    (planRun now args runId correlationId context s).columnsOk = true ↔ args.asset.length ≤ 32 := by
  have hversion := (boundedText_iff.mp args.policy.valid.version).2
  have htrigger : args.triggerType.length ≤ 16 := by
    rcases htrigger with htrigger | htrigger
    · rw [htrigger]
      decide
    · rw [htrigger]
      decide
  simp [OrchestrationRun.columnsOk, planRun, htrigger, hversion]

/-- The deadlines of a task of a run that was planned with it. -/
theorem planTask_deadlines (now : Int) (args : CreateArgs) (runId correlationId : UUID)
    (context : PyValue) (s : Store) (id : UUID) (pair : CapabilityRequirement × RoutedAgent) :
    let run := planRun now args runId correlationId context s
    let t := planTask now args run id pair.1 pair.2
    t.createdAt < t.dispatchDeadline ∧ t.dispatchDeadline ≤ t.signalDeadline ∧
      t.signalDeadline ≤ run.collectionDeadline := by
  have hvalid := args.policy.valid
  have hpos := seconds_pos hvalid.dispatch_pos
  -- the validators of a policy order its timeouts
  have hsignal : seconds args.policy.dispatchTimeoutSeconds ≤
      seconds args.policy.signalTimeoutSeconds := by
    have hle := hvalid.dispatch_le_signal
    unfold seconds second
    omega
  have hcollection : seconds args.policy.signalTimeoutSeconds ≤
      seconds args.policy.collectionTimeoutSeconds := by
    have hle := hvalid.signal_le_collection
    unfold seconds second
    omega
  simp only [planTask, planRun]
  omega

/-- The tasks fit once their run is stored. -/
theorem planTasks_fit (h : Plannable now args runId s) (hasset : args.asset.length ≤ 32)
    {s' : Store} (hsame : s' = { s with runs := s'.runs, auditEvents := s'.auditEvents })
    (hrun : (s'.runs.get? runId).isSome) :
    Fit s' (planTasks now args (planRun now args runId correlationId context s) taskId 0
      (assignments args s)) := by
  constructor
  · intro t ht
    obtain ⟨id, ⟨requirement, routed⟩, hpair, rfl⟩ := mem_planTasks ht
    obtain ⟨hrequirement, hrouted⟩ : requirement ∈ args.policy.requirements ∧
        routed ∈ select args.asset requirement.capability requirement.maxAgents s := by
      obtain ⟨r, hr, hmem⟩ := List.mem_flatMap.mp hpair
      obtain ⟨a, ha, heq⟩ := List.mem_map.mp hmem
      cases heq
      exact ⟨hr, ha⟩
    obtain ⟨hcreated, hdispatch, -⟩ := planTask_deadlines now args runId correlationId context s id
      (requirement, routed)
    have hcapability := (boundedText_iff.mp
      (args.policy.valid.requirements_valid requirement hrequirement).1).2
    obtain ⟨agent, hagent, -⟩ := mem_select hrouted
    obtain ⟨m, hsnapshot, -⟩ := h.snapshot
    constructor
    · simp [AgentTask.columnsOk, planTask, hasset, hcapability]
    · have hpriority : (if requirement.critical then 100 else 50) ≤ 100 := by
        cases requirement.critical <;> decide
      simp only [AgentTask.checksOk, Bool.and_eq_true, decide_eq_true_eq]
      exact ⟨⟨hpriority, hcreated⟩, hdispatch⟩
    · exact hrun
    · rw [hsame]
      simp [planTask, hsnapshot]
    · rw [hsame]
      simp [planTask, hagent]
    · intro o ho hassignment
      rw [hsame] at ho
      have htask := h.tasks o ho
      -- the tasks that are there belong to other runs
      have hrunId : o.orchestrationRunId = runId := (Prod.mk.inj hassignment).1
      rw [hrunId, h.fresh] at htask
      cases htask
  · rw [planTasks_map AgentTask.assignment
      (fun pair => (runId, pair.2.agentId, args.asset, pair.1.capability)) fun _ _ => rfl]
    refine assignments_map_nodup args s _ fun pair pair' heq => ?_
    simp only [Prod.mk.injEq, true_and] at heq
    exact heq.symm

/-- Why no run is stored, up to the characters and numbers that `JSONB` refuses. -/
inductive Refusal (args : CreateArgs) (draws : PlanDraws) (s : Store) : PlanFailure → Prop
  | trigger : args.triggerType ≠ "MANUAL" → args.triggerType ≠ "TEST" →
      Refusal args draws s
        (.planning "INVALID_TRIGGER" "Phase 02 supports MANUAL and TEST only")
  | context (e : MetadataError) :
      (args.context.getD (.mapping [])).Bounded contextLimits = false →
      Refusal args draws s (.context e)
  | asset : 32 < args.asset.length → Refusal args draws s (.db .data)
  | taskId : Repeats s ((List.range (assignments args s).length).map draws.taskId) →
      Refusal args draws s (.db (.integrity "agent_tasks_pkey"))

/-- The run is stored with its tasks, and the plan tells of them. -/
structure Stored (now : Int) (args : CreateArgs) (run : OrchestrationRun) (taskId : Nat → UUID)
    (s : Store) (plan : OrchestrationPlan) (s' : Store) : Prop where
  fresh : s.runs.get? run.orchestrationRunId = none
  runs : s'.runs.rows = s.runs.rows ++ [run]
  tasks : s'.tasks.rows = s.tasks.rows ++ planTasks now args run taskId 0 (assignments args s)
  plan : plan = newPlan run taskId (assignments args s).length

/-- A run of a plannable store is only refused for its asset. -/
theorem insertRun_refused {draws : PlanDraws} {e : DbError}
    (htrigger : args.triggerType = "MANUAL" ∨ args.triggerType = "TEST")
    (hplannable : Plannable now args runId s)
    (hinsert : s.insertRun (planRun now args runId correlationId context s) = .error e) :
    Refusal args draws s (.db e) := by
  obtain ⟨m, hm, -⟩ := hplannable.snapshot
  have hsnapshot : (s.snapshots.get?
      (planRun now args runId correlationId context s).snapshotId).isSome := by
    simp [planRun, hm]
  obtain ⟨rfl, hcolumns⟩ := Store.insertRun_error (planRun_checks htrigger) hsnapshot
    hplannable.fresh hinsert
  refine .asset ?_
  by_contra hfits
  rw [(planRun_columns htrigger).mpr (by omega)] at hcolumns
  cases hcolumns

/-- A new run is stored with its tasks, or refused. -/
theorem createRun_ends (now : Int) (args : CreateArgs) (draws : PlanDraws)
    (htrigger : args.triggerType = "MANUAL" ∨ args.triggerType = "TEST")
    (runId correlationId : UUID) (context : PyValue) (s : Store) :
    (createRun now args runId correlationId context draws.taskId).Ends s
      (fun plan s' => Stored now args (planRun now args runId correlationId context s)
        draws.taskId s plan s')
      (fun e => Plannable now args runId s → Refusal args draws s e) := by
  unfold createRun
  generalize hrun : planRun now args runId correlationId context s = run
  have hid : run.orchestrationRunId = runId := by rw [← hrun]; rfl
  refine Tx.ends_bind (Q := fun m s' => s.snapshots.get? args.snapshotId = some m ∧ s = s')
    (Tx.ends_need (fun m hm => ⟨hm, rfl⟩) ?_) ?_
  · intro hnone hplannable
    obtain ⟨m, hm, -⟩ := hplannable.snapshot
    rw [hnone] at hm
    cases hm
  rintro m _ ⟨hm, rfl⟩
  refine Tx.ends_bind (Q := fun _ s' => s = s') (Tx.ends_raiseIf ?_ fun _ => rfl) ?_
  · intro hclosed hplannable
    obtain ⟨m', hm', hopen, hcurrent⟩ := hplannable.snapshot
    rw [hm] at hm'
    cases hm'
    rcases hclosed with hnot | hexpired
    · exact absurd hopen hnot
    · omega
  rintro _ _ rfl
  refine Tx.ends_bind (Q := fun assigned s' => assignments args s = assigned ∧ s = s')
    (Tx.ends_read ⟨rfl, rfl⟩) ?_
  rintro _ _ ⟨rfl, rfl⟩
  refine Tx.ends_bind (Q := fun r s' => run = r ∧ s = s') (Tx.ends_read ⟨hrun.symm, rfl⟩) ?_
  rintro _ _ ⟨rfl, rfl⟩
  refine Tx.ends_bind (Q := fun _ s' => s.insertRun run = .ok s')
    (Tx.ends_attempt (fun s' h => Tx.mapError_eq_ok.mp h) ?_) ?_
  · intro e he hplannable
    obtain ⟨e', hinsert, rfl⟩ := Tx.mapError_eq_error.mp he
    rw [← hrun] at hinsert
    exact insertRun_refused htrigger hplannable hinsert
  intro _ s₁ hinsert
  obtain ⟨⟨hcolumns, -⟩, runs, htable, rfl⟩ := Store.insertRun_ok.mp hinsert
  obtain ⟨hfresh, hrows⟩ := Table.insert?_eq_some.mp htable
  refine Tx.ends_bind (Q := fun _ s' => s' = Store.addEvent { s with runs := runs }
    (runCreatedEvent now args run)) (Tx.ends_modify rfl) ?_
  intro _ s₂ hs₂
  refine Tx.ends_bind ((createTasks_ends 0 (assignments args s) s₂).mono (fun _ _ h => h) ?_) ?_
  · intro e he hplannable
    -- the run is there now, so that only the id of a task can be taken
    rw [← hrun, planRun_columns htrigger] at hcolumns
    have hstored : (s₂.runs.get? runId).isSome := by
      have hget : runs.get? runId = some run :=
        Table.get?_eq_some.mpr ⟨by simp [hrows], hid⟩
      rw [hs₂]
      simp [hget]
    have hfit : Fit s₂ (planTasks now args (planRun now args runId correlationId context s)
        draws.taskId 0 (assignments args s)) :=
      planTasks_fit hplannable hcolumns (by rw [hs₂]; rfl) hstored
    rw [hrun] at hfit
    obtain ⟨rfl, hrepeats⟩ := he hfit
    refine .taskId ?_
    rw [List.range_eq_range']
    rwa [Repeats, hs₂] at hrepeats
  intro _ s₃ hins
  refine Tx.ends_bind (Q := fun _ s' => s'.runs = s₃.runs ∧ s'.tasks = s₃.tasks)
    (Tx.ends_modify ?_) ?_
  · split
    · exact ⟨rfl, rfl⟩
    · exact ⟨rfl, rfl⟩
  rintro _ s₄ ⟨hruns, htasks⟩
  refine Tx.ends_pure ⟨hfresh, ?_, ?_, rfl⟩
  · rw [hruns, hins.same, hs₂]
    exact hrows
  · rw [htasks, hins.rows, hs₂]
    rfl

/-- What `create` returns: the plan of a run that is there, or of one that it has stored. -/
structure Created (now : Int) (args : CreateArgs) (draws : PlanDraws) (s : Store)
    (plan : OrchestrationPlan) (s' : Store) : Prop where
  trigger : args.triggerType = "MANUAL" ∨ args.triggerType = "TEST"
  context : (args.context.getD (.mapping [])).Bounded contextLimits = true
  run : (∃ run, s.runs.get? (args.orchestrationRunId.getD draws.runId) = some run ∧ s = s' ∧
      plan = existingPlan run s) ∨
    ∃ correlationId, Stored now args
      (planRun now args (args.orchestrationRunId.getD draws.runId) correlationId
        (args.context.getD (.mapping [])) s) draws.taskId s plan s'

/-- `create` stores a run, returns the one of the same key, or refuses. -/
theorem create_ends (now : Int) (args : CreateArgs) (draws : PlanDraws) (s : Store) :
    (Tomiris.create now args draws).Ends s (Created now args draws s)
      (fun e => Plannable now args (args.orchestrationRunId.getD draws.runId) s →
        Refusal args draws s e) := by
  unfold Tomiris.create
  refine Tx.ends_bind (Q := fun _ s' =>
    (args.triggerType = "MANUAL" ∨ args.triggerType = "TEST") ∧ s = s') (Tx.ends_raiseIf ?_ ?_) ?_
  -- the trigger
  · intro htrigger _
    exact .trigger htrigger.1 htrigger.2
  · intro htrigger
    refine ⟨?_, rfl⟩
    by_contra hnot
    exact htrigger (not_or.mp hnot)
  rintro _ _ ⟨htrigger, rfl⟩
  refine Tx.ends_bind (Q := fun context s' => context = args.context.getD (.mapping []) ∧
    (args.context.getD (.mapping [])).Bounded contextLimits = true ∧ s = s')
    (Tx.ends_attemptValue ?_ ?_) ?_
  -- the context
  · intro context h
    obtain ⟨hcontext, hbounded⟩ := validateBoundedJson_ok.mp (Tx.mapError_eq_ok.mp h)
    exact ⟨hcontext, hbounded, rfl⟩
  · intro e h _
    obtain ⟨e', hinvalid, rfl⟩ := Tx.mapError_eq_error.mp h
    refine .context e' ?_
    rw [Bool.eq_false_iff]
    intro hbounded
    rw [validateBoundedJson_ok.mpr ⟨rfl, hbounded⟩] at hinvalid
    cases hinvalid
  rintro _ _ ⟨rfl, hbounded, rfl⟩
  refine Tx.ends_begin ?_
  refine Tx.ends_bind (Q := fun existing s' =>
    s.runs.get? (args.orchestrationRunId.getD draws.runId) = existing ∧ s = s')
    (Tx.ends_read ⟨rfl, rfl⟩) ?_
  rintro existing _ ⟨hexisting, rfl⟩
  -- a run with this id is read back, or the plan is inserted
  cases existing with
  | some run =>
    exact Tx.ends_read ⟨htrigger, hbounded, .inl ⟨run, hexisting, rfl, rfl⟩⟩
  | none =>
    refine (createRun_ends now args draws htrigger _ _ _ s).mono ?_ fun _ h => h
    intro plan s' hstored
    exact ⟨htrigger, hbounded, .inr ⟨_, hstored⟩⟩

end Storing

end Tomiris
