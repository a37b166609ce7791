import Tomiris.Orchestrator.Dispatch
import Tomiris.Spec.Plan

/-!
# Prescribed plans

A plan of a fresh run is what the registry and the policy prescribe, and no constraint of the tables
is in its way. Planned again, it has the same tasks in the order of their ids, and the ids are drawn
at random. And what it plans can be sent, unless the asset is none that the contract of a task knows:
neither the planner nor the registry looks at its pattern.

## Key results

- `plan_prescribed`: what is stored for a fresh run, and what is raised
- `plan_repeats_iff`: when a second call returns the first plan
- `plan_sendable_iff`: when every task of a plan can be sent
-/

namespace Tomiris

open Planner

variable {now : Int} {args : CreateArgs} {draws : PlanDraws} {s s' : Store}
variable {plan : OrchestrationPlan} {run : OrchestrationRun} {taskId : Nat → UUID}

namespace Deployment

/-- Two agents that support an asset, and nothing planned yet. -/
def registryOf (asset : String) : Store where
  agents := ⟨[{ agent "ALPHA" with supportedAssets := [asset] },
    { agent "BETA" with supportedAssets := [asset] }], show ["ALPHA", "BETA"].Nodup by decide⟩
  endpoints := ⟨[endpoint "ALPHA", endpoint "BETA"], show ["ALPHA", "BETA"].Nodup by decide⟩
  snapshots := ⟨[snapshot], show [1].Nodup by decide⟩

/-- Run 100 of the asset. -/
def runArgs (asset : String) : CreateArgs :=
  { createArgs with asset := asset, orchestrationRunId := some 100 }

def ascendingDraws : PlanDraws := ⟨0, 101, fun i => 200 + i⟩

def descendingDraws : PlanDraws := ⟨0, 101, fun i => 201 - i⟩

/-- A run can be planned over this registry. -/
theorem registryOf_plannable (asset : String) :
    Plannable 0 (runArgs asset) 100 (registryOf asset) where
  fresh := rfl
  tasks := by
    intro t ht
    cases ht
  snapshot := ⟨snapshot, rfl, rfl, by decide⟩

/-- A call without an error returns a plan. -/
theorem exists_plan {args : CreateArgs} {draws : PlanDraws} {s : Store}
    (h : (Tomiris.create 0 args draws s).1.isOk = true) :
    ∃ plan s', Tomiris.create 0 args draws s = (.ok plan, s') := by
  cases hcreate : Tomiris.create 0 args draws s with
  | mk result s' =>
    rw [hcreate] at h
    cases result with
    | ok plan => exact ⟨plan, s', rfl⟩
    | error e => cases h

end Deployment

section Prescription

/-- Fewer agents than the requirement needs are eligible, or fewer than it may have. -/
def isMissing (r : CapabilityRequirement) (eligible : Nat) : Bool :=
  capped r.maxAgents eligible < r.minimumResponses

/-- A run with its tasks and its plan, as the registry and the policy prescribe them. -/
structure Prescribed (now : Int) (args : CreateArgs) (s : Store) (plan : OrchestrationPlan)
    (run : OrchestrationRun) (tasks : List AgentTask) (eligible : String → List String) : Prop where
  sorted : ∀ capability, (eligible capability).Pairwise (· < ·)
  eligible_iff : ∀ capability agentId,
    agentId ∈ eligible capability ↔ Serves s args.asset capability agentId
  /-- One task for each of the first agents, by requirement. -/
  assigned : tasks.map (fun t => (t.requiredCapability, t.agentId)) =
    args.policy.requirements.flatMap fun r =>
      (atMost r.maxAgents (eligible r.capability)).map fun agentId => (r.capability, agentId)
  distinct : (tasks.map fun t => (t.agentId, t.asset, t.requiredCapability)).Nodup
  of_run : ∀ t ∈ tasks, t.orchestrationRunId = run.orchestrationRunId ∧
    t.snapshotId = args.snapshotId ∧ t.asset = args.asset
  missing_required : plan.missingRequired = (args.policy.requirements.filter fun r =>
    isMissing r (eligible r.capability).length && r.required).map (·.capability)
  missing_optional : plan.missingOptional = (args.policy.requirements.filter fun r =>
    isMissing r (eligible r.capability).length && !r.required).map (·.capability)
  given_up : plan.missingRequired ≠ [] → run.status = .critical ∧
    run.outcome = some .insufficientData ∧ run.completedAt = some now ∧
    ∀ t ∈ tasks, t.status = .cancelled
  dispatching : plan.missingRequired = [] → run.status = .dispatching ∧ run.outcome = none ∧
    run.completedAt = none ∧ ∀ t ∈ tasks, t.status = .pending
  run_deadline : run.createdAt < run.collectionDeadline
  task_deadlines : ∀ t ∈ tasks, t.createdAt < t.dispatchDeadline ∧
    t.dispatchDeadline ≤ t.signalDeadline ∧ t.signalDeadline ≤ run.collectionDeadline
  told : plan.orchestrationRunId = run.orchestrationRunId ∧
    plan.taskIds = tasks.map (·.taskId) ∧ plan.status = run.status

/-- A requirement is unmet if it has too few eligible agents. -/
theorem unmet_eq_isMissing (r : CapabilityRequirement) : unmet args s r =
    isMissing r (eligibleAgents s args.asset r.capability).length := by
  unfold unmet isMissing eligibleAgents
  rw [select_eq_atMost, atMost_length, List.length_map]

/-- What `create` stores is what is prescribed. -/
theorem Stored.prescribed {runId correlationId : UUID} {context : PyValue}
    (h : Stored now args (planRun now args runId correlationId context s) taskId s plan s')
    (htrigger : args.triggerType = "MANUAL" ∨ args.triggerType = "TEST") :
    Prescribed now args s plan (planRun now args runId correlationId context s)
      (planTasks now args (planRun now args runId correlationId context s) taskId 0
        (assignments args s)) (eligibleAgents s args.asset) := by
  have hplan := h.plan
  have hmissing : plan.missingRequired = missingRequired args s := by rw [hplan]; rfl
  -- a task of the plan has the columns of its assignment
  have hmember : ∀ t ∈ planTasks now args (planRun now args runId correlationId context s) taskId 0
      (assignments args s), ∃ id, ∃ pair : CapabilityRequirement × RoutedAgent, t = planTask now args
        (planRun now args runId correlationId context s) id pair.1 pair.2 := by
    intro t ht
    obtain ⟨id, pair, -, rfl⟩ := mem_planTasks ht
    exact ⟨id, pair, rfl⟩
  -- the fields in their order: routing, uniqueness, what is missing, statuses and deadlines
  constructor
  · exact fun _ => eligibleAgents_sorted
  · exact fun _ _ => mem_eligibleAgents
  · rw [planTasks_map _ (fun pair => (pair.1.capability, pair.2.agentId)) fun _ _ => rfl]
    exact assignments_map args s
  · rw [planTasks_map _ (fun pair => (pair.2.agentId, args.asset, pair.1.capability))
      fun _ _ => rfl]
    refine assignments_map_nodup args s _ fun pair pair' heq => ?_
    simp only [Prod.mk.injEq, true_and] at heq
    exact heq.symm
  · intro t ht
    obtain ⟨id, pair, rfl⟩ := hmember t ht
    exact ⟨rfl, rfl, rfl⟩
  · rw [hmissing]
    simp only [missingRequired, unmet_eq_isMissing]
  · rw [hplan]
    show missingOptional args s = _
    simp only [missingOptional, unmet_eq_isMissing]
  · rw [hmissing]
    intro hne
    refine ⟨if_pos hne, if_pos hne, if_pos hne, ?_⟩
    intro t ht
    obtain ⟨id, pair, rfl⟩ := hmember t ht
    exact if_pos hne
  · rw [hmissing]
    intro heq
    have hnot : ¬ missingRequired args s ≠ [] := not_not.mpr heq
    refine ⟨if_neg hnot, if_neg hnot, if_neg hnot, ?_⟩
    intro t ht
    obtain ⟨id, pair, rfl⟩ := hmember t ht
    exact if_neg hnot
  · have hchecks : (planRun now args runId correlationId context s).checksOk = true :=
      planRun_checks htrigger
    simp only [OrchestrationRun.checksOk, Bool.and_eq_true, decide_eq_true_eq] at hchecks
    exact hchecks.2
  · intro t ht
    obtain ⟨id, pair, rfl⟩ := hmember t ht
    exact planTask_deadlines now args runId correlationId context s id pair
  · rw [planTasks_ids, hplan, ← List.range_eq_range']
    exact ⟨rfl, rfl, rfl⟩

/-- For a fresh run `create` stores what is prescribed. It raises only for an unknown trigger, an
    unbounded context, an asset that is too long for its column, and a task id that is taken. -/
theorem plan_prescribed (now : Int) (args : CreateArgs) (draws : PlanDraws) (s : Store)
    (h : Plannable now args (args.orchestrationRunId.getD draws.runId) s) :
    (Tomiris.create now args draws).Ends s
      (fun plan s' => ∃ run tasks eligible, s'.runs.rows = s.runs.rows ++ [run] ∧
        s'.tasks.rows = s.tasks.rows ++ tasks ∧
        Prescribed now args s plan run tasks eligible)
      (Refusal args draws s) := by
  refine (create_ends now args draws s).mono ?_ fun e he => he h
  intro plan s' hcreated
  rcases hcreated.run with ⟨run, hrun, -⟩ | ⟨correlationId, hstored⟩
  · rw [h.fresh] at hrun
    cases hrun
  · exact ⟨_, _, _, hstored.runs, hstored.tasks, hstored.prescribed hcreated.trigger⟩

open Deployment in
/-- One run for `BTC/USD`, with its prescribed tasks. -/
theorem plan_prescribed_btc : ∃ plan s', Tomiris.create 0 (runArgs "BTC/USD") ascendingDraws
      (registryOf "BTC/USD") = (.ok plan, s') ∧
    ∃ run tasks eligible, s'.runs.rows = [run] ∧ s'.tasks.rows = tasks ∧
      Prescribed 0 (runArgs "BTC/USD") (registryOf "BTC/USD") plan run tasks eligible := by
  obtain ⟨plan, s', hcreate⟩ := exists_plan (by decide +kernel : (Tomiris.create 0
    (runArgs "BTC/USD") ascendingDraws (registryOf "BTC/USD")).1.isOk = true)
  obtain ⟨run, tasks, eligible, hruns, htasks, hprescribed⟩ := (plan_prescribed 0
    (runArgs "BTC/USD") ascendingDraws (registryOf "BTC/USD")
    (registryOf_plannable "BTC/USD")).returned hcreate
  exact ⟨plan, s', hcreate, run, tasks, eligible, hruns, htasks, hprescribed⟩

end Prescription

section Repeated

/-- The tasks of a stored run, by the foreign key that the store keeps. -/
theorem Stored.tasksOf (h : Stored now args run taskId s plan s') (htasks : s.TasksOfRuns)
    (hnew : ∀ t ∈ planTasks now args run taskId 0 (assignments args s),
      t.orchestrationRunId = run.orchestrationRunId) :
    s'.tasksOf run.orchestrationRunId = planTasks now args run taskId 0 (assignments args s) := by
  -- no old task has the id of the new run
  have hold : s.tasks.rows.filter (fun t => t.orchestrationRunId = run.orchestrationRunId) = [] := by
    rw [List.filter_eq_nil_iff]
    intro t ht hsame
    have hrun := htasks t ht
    rw [of_decide_eq_true hsame, h.fresh] at hrun
    cases hrun
  have hall : (planTasks now args run taskId 0 (assignments args s)).filter
      (fun t => t.orchestrationRunId = run.orchestrationRunId) =
        planTasks now args run taskId 0 (assignments args s) := by
    rw [List.filter_eq_self]
    intro t ht
    exact decide_eq_true (hnew t ht)
  rw [Store.tasksOf, h.tasks, List.filter_append, hold, hall, List.nil_append]

/-- The drawn task ids are sorted. -/
def IdsAscend (args : CreateArgs) (draws : PlanDraws) (s : Store) : Prop :=
  ((List.range (assignments args s).length).map draws.taskId).Pairwise (· ≤ ·)

/-- A repeated run id reads the plan of its run. -/
theorem create_existing {runId : UUID} (hid : args.orchestrationRunId = some runId)
    (htrigger : args.triggerType = "MANUAL" ∨ args.triggerType = "TEST")
    (hcontext : (args.context.getD (.mapping [])).Bounded contextLimits = true)
    (hrun : s.runs.get? runId = some run) :
    Tomiris.create now args draws s = (.ok (existingPlan run s), s) := by
  have hknown : ¬ (args.triggerType ≠ "MANUAL" ∧ args.triggerType ≠ "TEST") := by
    rw [not_and_or, not_not, not_not]
    exact htrigger
  unfold Tomiris.create
  simp only [Tx.bind_ok, Tx.raiseIf_ok, Tx.attemptValue_ok, Tx.begin_ok, Tx.read_ok]
  refine ⟨(), s, ⟨hknown, rfl⟩, _, s, ⟨Tx.mapError_eq_ok.mpr
    (validateBoundedJson_ok.mpr ⟨rfl, hcontext⟩), rfl⟩, some run, s, ⟨?_, rfl⟩, ?_⟩
  · rw [hid]
    exact hrun.symm
  · exact Tx.read_ok.mpr ⟨rfl, rfl⟩

/-- A second call with the run id leaves the store alone, and returns the plan of the first one
    exactly if that has read an existing run or drawn its task ids in their order. -/
theorem plan_repeats_iff {now now' : Int} {args : CreateArgs} {draws draws' : PlanDraws}
    {s s' : Store} {plan : OrchestrationPlan} {runId : UUID}
    (hid : args.orchestrationRunId = some runId) (htasks : s.TasksOfRuns)
    (h : Tomiris.create now args draws s = (.ok plan, s')) :
    (Tomiris.create now' args draws' s').2 = s' ∧
      (Tomiris.create now' args draws' s' = (.ok plan, s') ↔
        (s.runs.get? runId).isSome ∨ IdsAscend args draws s) := by
  have hcreated := (create_ends now args draws s).returned h
  have hfirst : args.orchestrationRunId.getD draws.runId = runId := by rw [hid]; rfl
  rcases hcreated.run with ⟨run, hrun, rfl, rfl⟩ | ⟨correlationId, hstored⟩
  · rw [hfirst] at hrun
    rw [create_existing hid hcreated.trigger hcreated.context hrun]
    simp [hrun]
  · generalize hrun : planRun now args (args.orchestrationRunId.getD draws.runId) correlationId
      (args.context.getD (.mapping [])) s = run at hstored
    have hrunId : run.orchestrationRunId = runId := by rw [← hrun, ← hfirst]; rfl
    have hget : s'.runs.get? runId = some run :=
      Table.get?_eq_some.mpr ⟨by simp [hstored.runs], hrunId⟩
    have hnone : s.runs.get? runId = none := hrunId ▸ hstored.fresh
    have hnew : ∀ t ∈ planTasks now args run draws.taskId 0 (assignments args s),
        t.orchestrationRunId = run.orchestrationRunId := by
      intro t ht
      obtain ⟨id, pair, -, rfl⟩ := mem_planTasks ht
      rfl
    have hids : (s'.tasksOf run.orchestrationRunId).map (·.taskId) =
        (List.range (assignments args s).length).map draws.taskId := by
      rw [hstored.tasksOf htasks hnew, planTasks_ids, List.range_eq_range']
    rw [create_existing hid hcreated.trigger hcreated.context hget, hstored.plan]
    refine ⟨rfl, ?_⟩
    -- the plan of an existing run sorts the ids, the first plan has them as they were drawn
    have hsame : existingPlan run s' = newPlan run draws.taskId (assignments args s).length ↔
        IdsAscend args draws s := by
      unfold existingPlan newPlan IdsAscend
      rw [hids]
      simp only [OrchestrationPlan.mk.injEq, true_and, and_true]
      constructor
      · intro hsorted
        rw [← hsorted]
        exact List.pairwise_insertionSort _ _
      · exact List.Pairwise.insertionSort_eq
    simp [hnone, hsame]

open Deployment in
/-- Ids that were drawn in ascending order: the second call returns the same plan. -/
theorem plan_repeats_ascending : ∃ plan s', Tomiris.create 0 (runArgs "BTC/USD") ascendingDraws
      (registryOf "BTC/USD") = (.ok plan, s') ∧
    Tomiris.create (seconds 1) (runArgs "BTC/USD") descendingDraws s' = (.ok plan, s') := by
  obtain ⟨plan, s', hcreate⟩ := exists_plan (by decide +kernel : (Tomiris.create 0
    (runArgs "BTC/USD") ascendingDraws (registryOf "BTC/USD")).1.isOk = true)
  have hascend : IdsAscend (runArgs "BTC/USD") ascendingDraws (registryOf "BTC/USD") := by
    unfold IdsAscend
    decide +kernel
  exact ⟨plan, s', hcreate, (plan_repeats_iff rfl (registryOf_plannable "BTC/USD").tasks
    hcreate).2.mpr (.inr hascend)⟩

open Deployment in
/-- The ids of two tasks are drawn in the other order. -/
theorem plan_reordered : ∃ plan s', Tomiris.create 0 (runArgs "BTC/USD") descendingDraws
      (registryOf "BTC/USD") = (.ok plan, s') ∧ plan.taskIds = [201, 200] ∧
    Tomiris.create 0 (runArgs "BTC/USD") descendingDraws s' ≠ (.ok plan, s') := by
  obtain ⟨plan, s', hcreate⟩ := exists_plan (by decide +kernel : (Tomiris.create 0
    (runArgs "BTC/USD") descendingDraws (registryOf "BTC/USD")).1.isOk = true)
  -- the plan lists the ids as they were drawn, and the second call as they are sorted
  have hfirst : (Tomiris.create 0 (runArgs "BTC/USD") descendingDraws
      (registryOf "BTC/USD")).1.toOption.map (·.taskIds) = some [201, 200] := by decide +kernel
  have hsecond : (Tomiris.create 0 (runArgs "BTC/USD") descendingDraws (Tomiris.create 0
      (runArgs "BTC/USD") descendingDraws (registryOf "BTC/USD")).2).1.toOption.map (·.taskIds) =
        some [200, 201] := by decide +kernel
  rw [hcreate] at hfirst hsecond
  have hids : plan.taskIds = [201, 200] := Option.some.inj hfirst
  refine ⟨plan, s', hcreate, hids, ?_⟩
  intro hsame
  rw [hsame] at hsecond
  have hids' : plan.taskIds = [200, 201] := Option.some.inj hsecond
  rw [hids] at hids'
  cases hids'

end Repeated

section Sendable

/-- What `AgentRegistryEntry` checks of the columns of an agent. -/
structure Agent.RegistryEntry (agent : Agent) : Prop where
  agent_id : isAgentId agent.agentId = true
  role : boundedText 64 agent.role = true
  protocol : agent.protocolVersion = "1.0"
  capabilities : agent.capabilities.length ≤ 20
  supported_assets : agent.supportedAssets.length ≤ 50
  supported_evidence : agent.supportedEvidenceTypes.length ≤ 50

/-- The request for a planned task passes every validator but that of its asset. -/
theorem planTask_valid {runId correlationId : UUID} {context : PyValue}
    (hregistry : ∀ agent ∈ s.agents.rows, agent.RegistryEntry) (hmapping : context.isMapping = true)
    (hbounded : context.Bounded contextLimits = true) (hasset : isAsset args.asset = true) {id : UUID}
    {pair : CapabilityRequirement × RoutedAgent} (hpair : pair ∈ assignments args s)
    (run : OrchestrationRun) (endpoint : AgentEndpoint) :
    (Dispatch.command (planTask now args (planRun now args runId correlationId context s) id pair.1
      pair.2) run endpoint).request.Valid := by
  obtain ⟨requirement, hrequirement, hmem⟩ := List.mem_flatMap.mp hpair
  obtain ⟨routed, hrouted, rfl⟩ := List.mem_map.mp hmem
  -- the routed agent is registered, and the policy names the capability
  obtain ⟨agent, hagent, -⟩ := mem_select hrouted
  obtain ⟨hrow, hkey⟩ := Table.get?_eq_some.mp hagent
  have hid : agent.agentId = routed.agentId := hkey
  obtain ⟨hcreated, hdispatch, -⟩ := planTask_deadlines now args runId correlationId context s id
    (requirement, routed)
  have hpriority : (if requirement.critical then 100 else 50) ≤ 100 := by
    cases requirement.critical <;> decide
  constructor
  · rfl
  · show isAgentId routed.agentId = true
    rw [← hid]
    exact (hregistry agent hrow).agent_id
  · exact hasset
  · exact (args.policy.valid.requirements_valid requirement hrequirement).1
  · exact hpriority
  · exact hmapping
  · exact hbounded
  · exact hcreated.trans_le hdispatch

/-- Every task of a plan can be sent, exactly if it is a plan of an existing run, no agent is
    assigned to it, or its asset has the pattern that the contract of a task asks for. -/
theorem plan_sendable_iff {now : Int} {args : CreateArgs} {draws : PlanDraws} {s s' : Store}
    {plan : OrchestrationPlan} (hregistry : ∀ agent ∈ s.agents.rows, agent.RegistryEntry)
    (hmapping : (args.context.getD (.mapping [])).isMapping = true)
    (h : Tomiris.create now args draws s = (.ok plan, s')) :
    (∀ t ∈ s'.tasks.rows, s.tasks.get? t.taskId = none →
      ∀ run endpoint, (Dispatch.command t run endpoint).request.Valid) ↔
    (s.runs.get? (args.orchestrationRunId.getD draws.runId)).isSome ∨ assignments args s = [] ∨
      isAsset args.asset = true := by
  have hcreated := (create_ends now args draws s).returned h
  rcases hcreated.run with ⟨run, hrun, rfl, -⟩ | ⟨correlationId, hstored⟩
  · simp only [hrun, Option.isSome_some, true_or, iff_true]
    intro t ht hfree
    have hget : s.tasks.get? t.taskId = some t := Table.get?_of_mem ht
    rw [hfree] at hget
    cases hget
  · have hnone : s.runs.get? (args.orchestrationRunId.getD draws.runId) = none := hstored.fresh
    simp only [hnone, Option.isSome_none, Bool.false_eq_true, false_or]
    constructor
    · intro hall
      cases hassigned : assignments args s with
      | nil => exact .inl rfl
      | cons pair rest =>
        right
        -- the first task of the plan
        obtain ⟨t, ht, hfree, hasset⟩ : ∃ t ∈ s'.tasks.rows, s.tasks.get? t.taskId = none ∧
            t.asset = args.asset := by
          have htasks := hstored.tasks
          rw [hassigned, planTasks] at htasks
          have hnodup := s'.tasks.nodup
          rw [htasks, List.map_append, List.nodup_append] at hnodup
          refine ⟨_, by rw [htasks]; exact List.mem_append_right _ (List.mem_cons_self ..), ?_, rfl⟩
          rw [Table.get?_eq_none]
          intro o ho hsame
          exact hnodup.2.2 _ (List.mem_map_of_mem ho) _ (List.mem_cons_self ..) hsame
        have hvalid := hall t ht hfree (planRun now args 0 0 .none s)
          { agentId := t.agentId, endpointUrl := "", environment := "" }
        rw [← hasset]
        exact hvalid.asset
    · intro hcases t ht hfree run endpoint
      rw [hstored.tasks, List.mem_append] at ht
      rcases ht with ht | ht
      · have hget : s.tasks.get? t.taskId = some t := Table.get?_of_mem ht
        rw [hfree] at hget
        cases hget
      · -- a new task: its agent has passed the registry, and the run its own checks
        obtain ⟨id, pair, hpair, rfl⟩ := mem_planTasks ht
        rcases hcases with hempty | hasset
        · rw [hempty] at hpair
          cases hpair
        · exact planTask_valid hregistry hmapping hcreated.context hasset hpair run endpoint

namespace Deployment

/-- An agent of the registry that supports one asset. -/
theorem supporting_entry {agentId : String} (hid : isAgentId agentId = true) (asset : String) :
    Agent.RegistryEntry { agent agentId with supportedAssets := [asset] } where
  agent_id := hid
  role := show boundedText 64 "trend" = true by decide
  protocol := rfl
  capabilities := show 2 ≤ 20 by decide
  supported_assets := show 1 ≤ 50 by decide
  supported_evidence := show 0 ≤ 50 by decide

/-- All its agents could have been loaded from a registry. -/
theorem registryOf_entries (asset : String) :
    ∀ agent ∈ (registryOf asset).agents.rows, agent.RegistryEntry := by
  intro agent hagent
  simp only [registryOf, List.mem_cons, List.not_mem_nil, or_false] at hagent
  rcases hagent with rfl | rfl
  · exact supporting_entry (by decide) asset
  · exact supporting_entry (by decide) asset

end Deployment

open Deployment in
/-- For `BTC/USD` both tasks can be sent. -/
theorem plan_sendable_btc : ∃ plan s', Tomiris.create 0 (runArgs "BTC/USD") ascendingDraws
      (registryOf "BTC/USD") = (.ok plan, s') ∧ s'.tasks.rows.map (·.taskId) = [200, 201] ∧
    ∀ t ∈ s'.tasks.rows, ∀ run endpoint, (Dispatch.command t run endpoint).request.Valid := by
  obtain ⟨plan, s', hcreate⟩ := exists_plan (by decide +kernel : (Tomiris.create 0
    (runArgs "BTC/USD") ascendingDraws (registryOf "BTC/USD")).1.isOk = true)
  have htasks : (Tomiris.create 0 (runArgs "BTC/USD") ascendingDraws
      (registryOf "BTC/USD")).2.tasks.rows.map (·.taskId) = [200, 201] := by decide +kernel
  rw [hcreate] at htasks
  refine ⟨plan, s', hcreate, htasks, ?_⟩
  intro t ht
  exact (plan_sendable_iff (registryOf_entries "BTC/USD") rfl hcreate).mpr
    (.inr (.inr (by decide))) t ht rfl

open Deployment in
/-- The registry may hold an asset in small letters, which no task can be sent for. -/
theorem plan_unsendable : (∀ agent ∈ (registryOf "btc").agents.rows, agent.RegistryEntry) ∧
    ∃ plan s', Tomiris.create 0 (runArgs "btc") ascendingDraws (registryOf "btc") = (.ok plan, s') ∧
      plan.status = .dispatching ∧ plan.taskIds = [200, 201] ∧
      ∀ t ∈ s'.tasks.rows, ∀ run endpoint, ¬ (Dispatch.command t run endpoint).request.Valid := by
  refine ⟨registryOf_entries "btc", ?_⟩
  obtain ⟨plan, s', hcreate⟩ := exists_plan (by decide +kernel : (Tomiris.create 0
    (runArgs "btc") ascendingDraws (registryOf "btc")).1.isOk = true)
  have hplan : (Tomiris.create 0 (runArgs "btc") ascendingDraws (registryOf "btc")).1.toOption.map
      (fun plan => (plan.status, plan.taskIds)) = some (.dispatching, [200, 201]) := by
    decide +kernel
  -- every task carries the asset of the call
  have hassets : ∀ t ∈ (Tomiris.create 0 (runArgs "btc") ascendingDraws
      (registryOf "btc")).2.tasks.rows, t.asset = "btc" := by decide +kernel
  rw [hcreate] at hplan hassets
  obtain ⟨hstatus, hids⟩ := Prod.mk.inj (Option.some.inj hplan)
  refine ⟨plan, s', hcreate, hstatus, hids, ?_⟩
  intro t ht run endpoint hvalid
  have hasset : isAsset t.asset = true := hvalid.asset
  rw [hassets t ht] at hasset
  exact absurd hasset (by decide)

end Sendable

end Tomiris
