import Tomiris.Spec.Overdue
import Mathlib.Data.List.Perm.Subperm

/-!
# A second recovery pass

A recovery pass reaches a fixed point. The rows it leaves of the tasks need no further
repair, no run is left in `TIMED_OUT`, and a run that an evaluation leaves unfinished is
one that it decides nothing about. Evaluations touch no task and no run but their own, so
at the same time of day a second pass reads what the first one wrote and changes nothing.

## Key results

- `UnlockedBatch.full`: a limit that is large enough lets the query return every unfinished run
- `settled_evaluations`: after the loop of evaluations there is nothing to decide about its runs
- `reconcile_idempotent`: a second pass changes nothing
-/

namespace Tomiris

open Recovery Quorum

/-! ## The runs that are selected -/

/-- The runs that `reconcile` asks for. -/
def unfinishedRuns (s : Store) : List OrchestrationRun :=
  s.runs.rows.filter (recoverable ·.status)

/-- What the run query returns while no other transaction holds a run: a result shorter than
    the limit is complete. -/
structure UnlockedBatch (s : Store) (batchSize : Nat) (ids : List UUID) : Prop
    extends RunBatch s batchSize ids where
  short : (s.runsAt ids).length < batchSize →
    ∀ r ∈ unfinishedRuns s, r.orchestrationRunId ∈ ids

instance (s : Store) (batchSize : Nat) (ids : List UUID) :
    Decidable (UnlockedBatch s batchSize ids) :=
  decidable_of_iff (RunBatch s batchSize ids ∧ ((s.runsAt ids).length < batchSize →
      ∀ r ∈ unfinishedRuns s, r.orchestrationRunId ∈ ids))
    ⟨fun ⟨h₁, h₂⟩ => ⟨h₁, h₂⟩, fun ⟨h₁, h₂⟩ => ⟨h₁, h₂⟩⟩

/-- The unfinished runs, by their status. -/
theorem mem_unfinishedRuns {s : Store} {r : OrchestrationRun} :
    r ∈ unfinishedRuns s ↔ r ∈ s.runs.rows ∧ recoverable r.status = true := by
  simp [unfinishedRuns]

/-- A query whose limit is at least the number of unfinished runs returns all of them. -/
theorem UnlockedBatch.full {s : Store} {n : Nat} {ids : List UUID} (h : UnlockedBatch s n ids)
    (hfits : (unfinishedRuns s).length ≤ n) : FullPass s n ids := by
  refine ⟨h.toRunBatch, fun r hr hst => ?_⟩
  have hmem : r ∈ unfinishedRuns s := mem_unfinishedRuns.mpr ⟨hr, hst⟩
  by_cases hshort : (s.runsAt ids).length < n
  · exact h.short hshort r hmem
  · -- as many rows as the limit allows, all of them unfinished, leave no unfinished run out
    have hsub : s.runsAt ids ⊆ unfinishedRuns s := fun q hq =>
      mem_unfinishedRuns.mpr ⟨Table.mem_of_get? (Store.get?_of_mem_runsAt hq), h.unfinished q hq⟩
    have hperm : (s.runsAt ids).Perm (unfinishedRuns s) :=
      ((Store.nodup_runsAt h.distinct).of_map.subperm hsub).perm_of_length_le (by omega)
    exact (Store.mem_runsAt_ids.mp (List.mem_map_of_mem (hperm.mem_iff.mpr hmem))).1

/-! ## Tasks after a pass -/

/-- A recovered row needs no further repair. -/
theorem recoverTask_recovered (now : Int) (signalled : List UUID) (t : AgentTask) :
    recoverTask now signalled ((recoverTask now signalled t).getD t) = none := by
  cases h : recoverTask now signalled t with
  | none => exact h
  | some t' =>
    rw [Option.getD_some]
    unfold recoverTask at h
    split at h
    · -- the signal is in the row now
      cases h
      simp [recoverTask, repairedTask]
    · rename_i hsignal
      split at h
      · rename_i hlease
        cases h
        -- a dispatching task is not signalled, and released it waits for nobody
        have hnone : t.taskId ∉ signalled := fun hmem => hsignal ⟨hmem, by simp [hlease.1]⟩
        by_cases hdue : now < t.dispatchDeadline <;> simp [recoverTask, releasedTask, hnone, hdue]
      · split at h
        · rename_i hwait
          cases h
          have hnone : t.taskId ∉ signalled := fun hmem =>
            hsignal ⟨hmem, by rcases hwait.1 with hst | hst <;> simp [hst]⟩
          simp [recoverTask, signalTimeoutTask, hnone]
        · cases h

/-! ## Runs after their evaluation -/

/-- `evaluate` has nothing left to decide about the run. -/
def Settled (now : Int) (runId : UUID) (s : Store) : Prop :=
  ∀ run, s.runs.get? runId = some run → finalised run.status = false →
    Quorum.decide now run (s.tasksOf runId) = none

/-- The evaluation of a settled run changes nothing. -/
theorem Settled.evaluated {now : Int} {runId : UUID} {s : Store} (h : Settled now runId s) :
    evaluated now runId s = s := by
  rcases evaluated_cases now runId s with heq | ⟨run, v, hv, -⟩
  · exact heq
  · have hnone := h run hv.row hv.unfinished
    rw [hv.decided] at hnone
    cases hnone

/-- A verdict is a final status. -/
theorem Finalises.finalised {now : Int} {runId : UUID} {s : Store} {run : OrchestrationRun}
    {v : Verdict} (hv : Finalises now runId s run v) : finalised v.status = true := by
  rcases decide_cases hv.decided with rfl | ⟨-, -, ⟨rfl, -⟩ | ⟨rfl, -⟩⟩ <;> rfl

/-- The run row after a finalisation. -/
theorem Finalises.get?_self {now : Int} {runId : UUID} {s : Store} {run : OrchestrationRun}
    {v : Verdict} (hv : Finalises now runId s run v) :
    (finalisedStore now runId s run v).runs.get? runId = some (finalisedRun now v run) := by
  have hid : run.orchestrationRunId = runId := Table.key_of_get? hv.row
  have hrow : s.runs.get? run.orchestrationRunId = some run := hid ▸ hv.row
  have hset : (s.runs.set (finalisedRun now v run)).get? run.orchestrationRunId =
      some (finalisedRun now v run) := Table.get?_set_self hrow
  exact hid ▸ hset

/-- Finalising a run leaves the other runs alone. -/
theorem Finalises.get?_ne {now : Int} {runId : UUID} {s : Store} {run : OrchestrationRun}
    {v : Verdict} (hv : Finalises now runId s run v) {id : UUID} (h : runId ≠ id) :
    (finalisedStore now runId s run v).runs.get? id = s.runs.get? id := by
  have hid : run.orchestrationRunId = runId := Table.key_of_get? hv.row
  have hne : (finalisedRun now v run).orchestrationRunId ≠ id := hid.trans_ne h
  exact Table.get?_set_ne hne

/-- An evaluation that has a verdict stores it. -/
theorem Finalises.evaluated {now : Int} {runId : UUID} {s : Store} {run : OrchestrationRun}
    {v : Verdict} (hv : Finalises now runId s run v) :
    Recovery.evaluated now runId s = finalisedStore now runId s run v := by
  simp [Recovery.evaluated, Tomiris.evaluate, hv.row, hv.unfinished, hv.decided, finalisedStore]

/-- An evaluation settles its run. -/
theorem settled_evaluated (now : Int) (runId : UUID) (s : Store) :
    Settled now runId (evaluated now runId s) := by
  intro run hrun hopen
  by_cases hfin : ∃ run₀ v, Finalises now runId s run₀ v
  · obtain ⟨run₀, v, hv⟩ := hfin
    -- the row is finalised
    rw [hv.evaluated, hv.get?_self] at hrun
    cases hrun
    rw [show finalised (finalisedRun now v run₀).status = true from hv.finalised] at hopen
    cases hopen
  · have heq : Recovery.evaluated now runId s = s :=
      (evaluated_cases now runId s).resolve_right fun h => by
        obtain ⟨run₀, v, hv, -⟩ := h
        exact hfin ⟨run₀, v, hv⟩
    rw [heq] at hrun ⊢
    cases hdec : Quorum.decide now run (s.tasksOf runId) with
    | none => rfl
    | some v => exact absurd ⟨run, v, hrun, hopen, hdec⟩ hfin

/-- The evaluation of one run leaves the others settled. -/
theorem Settled.evaluated_other {now : Int} {runId : UUID} {s : Store} (h : Settled now runId s)
    (other : UUID) : Settled now runId (Recovery.evaluated now other s) := by
  by_cases hother : other = runId
  · rw [hother]
    exact settled_evaluated now runId s
  · rcases evaluated_cases now other s with heq | ⟨run₀, v, hv, heq⟩
    · rwa [heq]
    · intro run hrun hopen
      rw [heq, hv.get?_ne hother] at hrun
      -- the tasks of `runId` are untouched as well
      rw [heq]
      exact h run hrun hopen

/-- After the evaluations of a pass every run of it is settled. -/
theorem settled_evaluations (now : Int) (ids : List UUID) (s : Store) :
    ∀ id ∈ ids, Settled now id (ids.foldl (fun s id => evaluated now id s) s) :=
  Transition.foldl_establishes (fun s id => settled_evaluated now id s)
    fun _ other _ h => h.evaluated_other other

/-- A run that is unfinished after an evaluation has the row it had before. -/
theorem evaluated_unfinished {now : Int} {runId : UUID} {s : Store} {r : OrchestrationRun}
    (h : r ∈ (evaluated now runId s).runs.rows) (hopen : finalised r.status = false) :
    r ∈ s.runs.rows := by
  rcases evaluated_cases now runId s with heq | ⟨run, v, hv, heq⟩
  · rwa [heq] at h
  · rw [heq] at h
    have hget := Table.get?_of_mem h
    by_cases hrun : runId = r.orchestrationRunId
    · have hself := hv.get?_self
      rw [hrun] at hself
      have hr : finalisedRun now v run = r := Option.some_inj.mp (hself.symm.trans hget)
      rw [← hr, show finalised (finalisedRun now v run).status = true from hv.finalised] at hopen
      cases hopen
    · exact Table.mem_of_get? ((hv.get?_ne hrun).symm.trans hget)

/-- Evaluations leave the signals alone. -/
theorem evaluated_signals (now : Int) (runId : UUID) (s : Store) :
    (evaluated now runId s).signals = s.signals := by
  rcases evaluated_cases now runId s with h | ⟨run, v, -, h⟩ <;> rw [h]
  rfl

/-- What the evaluations of a pass leave as the recovery transaction wrote it. -/
theorem evaluations_keep (now : Int) (ids : List UUID) (s : Store) :
    (ids.foldl (fun s id => evaluated now id s) s).tasks = s.tasks ∧
      (ids.foldl (fun s id => evaluated now id s) s).signals = s.signals ∧
      ∀ r ∈ (ids.foldl (fun s id => evaluated now id s) s).runs.rows,
        finalised r.status = false → r ∈ s.runs.rows := by
  induction ids generalizing s with
  | nil => exact ⟨rfl, rfl, fun _ hr _ => hr⟩
  | cons id rest ih =>
    obtain ⟨htasks, hsignals, hruns⟩ := ih (Recovery.evaluated now id s)
    refine ⟨htasks.trans (evaluated_tasks now id s), hsignals.trans (evaluated_signals now id s), ?_⟩
    intro r hr hopen
    exact evaluated_unfinished (hruns r hr hopen) hopen

/-- Nor do evaluations of settled runs, one after the other. -/
theorem evaluations_settled {now : Int} {ids : List UUID} {s : Store}
    (h : ∀ id ∈ ids, Settled now id s) : ids.foldl (fun s id => evaluated now id s) s = s := by
  induction ids with
  | nil => rfl
  | cons id rest ih =>
    rw [List.foldl_cons, (h id (List.mem_cons_self ..)).evaluated]
    exact ih fun i hi => h i (List.mem_cons_of_mem _ hi)

/-! ## The second pass -/

/-- The pass has nothing to do for the run: no task of it needs repair and it is not in
    `TIMED_OUT`. -/
structure Recovered (now : Int) (s : Store) (run : OrchestrationRun) : Prop where
  tasks : ∀ t ∈ s.tasksOf run.orchestrationRunId,
    recoverTask now (signalTaskIds s run.orchestrationRunId) t = none
  running : run.status ≠ .timedOut

/-- Without a task to repair, the loop changes nothing. -/
theorem recoverTasks_none {now : Int} {signalled : List UUID} {tasks : List AgentTask}
    (h : ∀ t ∈ tasks, recoverTask now signalled t = none) (s : Store) :
    recoverTasks now signalled tasks s = s := by
  unfold recoverTasks
  induction tasks with
  | nil => rfl
  | cons t rest ih =>
    rw [List.foldl_cons, h t (List.mem_cons_self ..)]
    exact ih fun u hu => h u (List.mem_cons_of_mem _ hu)

/-- A recovered run is not touched again. -/
theorem Recovered.recoverRun {now : Int} {s : Store} {run : OrchestrationRun}
    (h : Recovered now s run) : recoverRun now run s = (s, false) := by
  have hchanged : changed now (signalTaskIds s run.orchestrationRunId)
      (s.tasksOf run.orchestrationRunId) = false := by
    rw [changed, List.any_eq_false]
    intro t ht
    simp [h.tasks t ht]
  simp [Recovery.recoverRun, recoverTasks_none h.tasks, hchanged, h.running]

/-- Nor are recovered runs, one after the other. -/
theorem recoverRuns_recovered {now : Int} {s : Store} {picked : List OrchestrationRun}
    (h : ∀ r ∈ picked, Recovered now s r) : recoverRuns now picked s = (s, []) := by
  induction picked with
  | nil => rfl
  | cons run rest ih =>
    have hrest := ih fun r hr => h r (List.mem_cons_of_mem _ hr)
    simp [recoverRuns, (h run (List.mem_cons_self ..)).recoverRun, hrest]

/-- With the clock standing still the evaluations are a loop over the ids alone. -/
theorem reconcile_fixed_clock (now : Int) (ids : List UUID) (s : Store) :
    reconcile now (fun _ => now) ids s =
      (ids.foldl (fun s id => evaluated now id s) (recoverRuns now (s.runsAt ids) s).1,
        (recoverRuns now (s.runsAt ids) s).2) := by
  have hids : ids = ids.zipIdx.map Prod.fst := List.zipIdx_map_fst 0 ids |>.symm
  have hloop : ∀ s₁ : Store, ids.zipIdx.foldl (fun s p => evaluated now p.1 s) s₁ =
      ids.foldl (fun s id => evaluated now id s) s₁ := by
    intro s₁
    conv_rhs => rw [hids, List.foldl_map]
  simp only [reconcile, hloop]

/-- A full recovery transaction leaves nothing to do for the runs that stay unfinished. -/
theorem FullPass.recovered {now : Int} {s : Store} {n : Nat} {ids : List UUID}
    (h : FullPass s n ids) {r : OrchestrationRun}
    (hr : r ∈ (recoverRuns now (s.runsAt ids) s).1.runs.rows)
    (hopen : recoverable r.status = true) :
    r.orchestrationRunId ∈ ids ∧ Recovered now (recoverRuns now (s.runsAt ids) s).1 r := by
  have hspec := h.toRunBatch.spec now
  obtain ⟨r₀, hr₀, hkey, hon⟩ := hspec.runs.mem_new hr
  have hid : r.orchestrationRunId = r₀.orchestrationRunId := hkey
  have hget : s.runs.get? r₀.orchestrationRunId = some r₀ := Table.get?_of_mem hr₀
  have hopen₀ : recoverable r₀.status = true := by
    rcases hon.elim with heq | heq
    · rwa [heq] at hopen
    · by_cases hto : r₀.status = .timedOut
      · rw [hto]; rfl
      · simpa [heq, reopenedRun, hto] using hopen
  have hsel : r₀.orchestrationRunId ∈ (s.runsAt ids).map (·.orchestrationRunId) :=
    Store.mem_runsAt_ids.mpr ⟨h.complete r₀ hr₀ hopen₀, r₀, hget⟩
  refine ⟨hid ▸ h.complete r₀ hr₀ hopen₀, ⟨fun t ht => ?_, ?_⟩⟩
  · obtain ⟨ht, hrun⟩ := Store.mem_tasksOf.mp ht
    obtain ⟨t₀, -, -, heq⟩ := hspec.tasks.mem_new ht
    -- the task was of this run before the pass as well
    have hrun₀ : t₀.orchestrationRunId = r.orchestrationRunId := by
      rw [← hrun, heq]
      split
      · exact (runId_of_columns (recoveredTask_columns now s t₀)).symm
      · rfl
    rw [if_pos (by rw [hrun₀, hid]; exact hsel)] at heq
    have hsignalled : signalTaskIds (recoverRuns now (s.runsAt ids) s).1 r.orchestrationRunId =
        signalTaskIds s t₀.orchestrationRunId := by
      rw [hrun₀]
      simp only [signalTaskIds, hspec.signals]
    rw [hsignalled, heq]
    exact recoverTask_recovered now _ t₀
  · rw [hon.of_mem hsel, reopenedRun]
    split
    · simp
    · assumption

/-- **Recovery is idempotent.** A second pass at the same time of day, right after one that
    had room for every unfinished run, reports no run and leaves the store as it is, its
    evaluations included. -/
theorem reconcile_idempotent {now : Int} {s : Store} {batchSize : Nat} {ids again : List UUID}
    (hfits : (unfinishedRuns s).length ≤ batchSize) (hids : UnlockedBatch s batchSize ids)
    (hagain : RunBatch (reconcile now (fun _ => now) ids s).1 batchSize again) :
    reconcile now (fun _ => now) again (reconcile now (fun _ => now) ids s).1 =
      ((reconcile now (fun _ => now) ids s).1, []) := by
  have hfull := hids.full hfits
  rw [reconcile_fixed_clock now ids s] at hagain ⊢
  simp only [] at hagain ⊢
  obtain ⟨htasks, hsignals, hruns⟩ :=
    evaluations_keep now ids (recoverRuns now (s.runsAt ids) s).1
  have hsettled := settled_evaluations now ids (recoverRuns now (s.runsAt ids) s).1
  generalize hs' : ids.foldl (fun s id => evaluated now id s)
    (recoverRuns now (s.runsAt ids) s).1 = s' at *
  -- an unfinished run of the second pass is one of the first, repaired and not decided
  have hdone : ∀ r ∈ s'.runsAt again, r.orchestrationRunId ∈ ids ∧ Recovered now s' r := by
    intro r hr
    have hopen := hagain.unfinished r hr
    have hmem := Table.mem_of_get? (Store.get?_of_mem_runsAt hr)
    have hrow := hruns r hmem (by simpa [recoverable_eq] using hopen)
    obtain ⟨hin, hrec⟩ := hfull.recovered hrow hopen
    refine ⟨hin, fun t ht => ?_, hrec.running⟩
    have hrepaired := hrec.tasks t (by simpa only [Store.tasksOf, htasks] using ht)
    simpa only [signalTaskIds, hsignals] using hrepaired
  rw [reconcile_fixed_clock, recoverRuns_recovered fun r hr => (hdone r hr).2]
  rw [evaluations_settled fun id hid run hrun hopen => ?_]
  -- what is evaluated again was selected again, and so evaluated by the first pass
  have hkey : run.orchestrationRunId = id := Table.key_of_get? hrun
  have hsel : run ∈ s'.runsAt again := List.mem_filterMap.mpr ⟨id, hid, hrun⟩
  exact hsettled id (hkey ▸ (hdone run hsel).1) run hrun hopen

/-- A process has claimed both tasks and never finished with them. -/
@[irreducible] def Deployment.bothClaimed : System :=
  after config (planned ++ [.claim 0 (seconds 1) [200, 201]]) (by decide +kernel)

open Deployment in
/-- The first pass gives both tasks back for a retry, and the run stays open. -/
theorem reconcile_idempotent_bothClaimed :
    reconcile (seconds 40) (fun _ => seconds 40) [100]
        (reconcile (seconds 40) (fun _ => seconds 40) [100] bothClaimed.store).1 =
      ((reconcile (seconds 40) (fun _ => seconds 40) [100] bothClaimed.store).1, []) :=
  @reconcile_idempotent _ _ 500 _ _ (by decide +kernel) (by decide +kernel) (by decide +kernel)

end Tomiris
