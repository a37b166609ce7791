import Tomiris.Spec.Claim
import Tomiris.Spec.Finality

/-!
# The lease columns of a task

Every operation that moves a task out of dispatch clears `lease_owner` and `lease_until`, except
for three branches of `_claim`: written for tasks that are not leased, they also run on a task
whose lease has expired, and then cancel it, fail it or put it off with the columns of the dead
worker's lease still set. `LeasesAgain` excludes these steps.

## Key results

- `lease_columns_agree`: until the first such step the lease columns and the status agree, and
  that step breaks it
- `claim_leaves_stale_lease`: a run in which a claim cancels a task under an expired lease
-/

namespace Tomiris

open Dispatch Recovery Quorum

/-- The task has a lease owner just when it has a lease end, and both just when it is in
    dispatch. -/
def LeaseColumns (t : AgentTask) : Prop :=
  (t.leaseOwner.isSome = true ↔ t.leaseUntil.isSome = true) ∧
    (t.leaseOwner.isSome = true ↔ t.status = .dispatching)

instance (t : AgentTask) : Decidable (LeaseColumns t) := inferInstanceAs (Decidable (_ ∧ _))

/-- Every task in dispatch that the claim takes over is leased again: its run is open, its
    endpoint is enabled and no circuit blocks its agent. -/
def LeasesAgain (sys : System) : Action → Prop
  | .claim _ now ids => ∀ t ∈ sys.store.tasksAt ids, t.status = .dispatching →
      Leasable now sys.store t
  | _ => True

instance (sys : System) : ∀ a, Decidable (LeasesAgain sys a)
  | .claim _ now ids => inferInstanceAs (Decidable (∀ t ∈ sys.store.tasksAt ids,
      t.status = .dispatching → Leasable now sys.store t))
  | .syncAgent _ | .syncEndpoint _ | .syncSnapshot _ | .create .. | .startSend _ | .deliver ..
  | .endSend .. | .record .. | .crash _ | .expire .. | .recover .. | .evaluate .. | .ingest ..
  | .recordRejection .. | .probe .. => .isTrue trivial

/-- A row without lease columns that is not in dispatch. -/
theorem LeaseColumns.of_cleared {t : AgentTask} (ho : t.leaseOwner = none)
    (hu : t.leaseUntil = none) (hs : t.status ≠ .dispatching) : LeaseColumns t := by
  simp [LeaseColumns, ho, hu, hs]

/-- Outside of dispatch both columns are empty. -/
theorem LeaseColumns.cleared {t : AgentTask} (h : LeaseColumns t) (hs : t.status ≠ .dispatching) :
    t.leaseOwner = none ∧ t.leaseUntil = none := by
  have ho : ¬ t.leaseOwner.isSome = true := fun ho => hs (h.2.mp ho)
  have hu : ¬ t.leaseUntil.isSome = true := fun hu => ho (h.1.mpr hu)
  exact ⟨by simpa using ho, by simpa using hu⟩

/-- Recovery clears the columns of every task that it takes out of dispatch. -/
theorem recoveredTask_leaseColumns {now : Int} {s : Store} {t : AgentTask} (h : LeaseColumns t) :
    LeaseColumns (recoveredTask now s t) := by
  unfold recoveredTask recoverTask
  split
  · exact .of_cleared rfl rfl (by simp [repairedTask])
  · split
    · refine .of_cleared rfl rfl ?_
      simp only [Option.getD_some, releasedTask]
      split <;> simp
    · split
      · -- a task that waits for its signal holds no lease
        rename_i hwait
        have hst : t.status ≠ .dispatching := by
          intro hd
          rcases hwait.1 with hs | hs <;> rw [hd] at hs <;> cases hs
        obtain ⟨ho, hu⟩ := h.cleared hst
        exact .of_cleared ho hu (by simp [signalTimeoutTask])
      · exact h

/-- What a claim makes of the columns of a task that its query returned. -/
theorem decidedTask_leaseColumns {w : DispatchWorker} {now : Int} {s : Store} {t : AgentTask}
    (h : LeaseColumns t) : LeaseColumns (decidedTask w now t (claimDecision now s t)) ↔
      (t.status = .dispatching → Leasable now s t) := by
  by_cases hl : Leasable now s t
  · rw [decidedTask_of_leasable hl]
    refine iff_of_true ?_ fun _ => hl
    simp [LeaseColumns, leasedTask]
  · obtain ⟨hs, ho, hu, -⟩ := decidedTask_of_not_leasable hl (w := w)
    constructor
    · intro hcols hdisp
      -- the owner of the expired lease is still in the row
      have howner : t.leaseOwner.isSome = true := h.2.mpr hdisp
      rw [← ho] at howner
      exact absurd (hcols.2.mp howner) hs
    · intro hfree
      have hst : t.status ≠ .dispatching := fun hd => hl (hfree hd)
      obtain ⟨ho', hu'⟩ := h.cleared hst
      exact .of_cleared (ho.trans ho') (hu.trans hu') hs

namespace System

variable {cfg : Config} {sys sys' : System}

/-- Any other action keeps the columns in line with the status. -/
theorem leaseColumns_taskStep {a : Action} {t t' : AgentTask} (h : LeaseColumns t)
    (hstep : TaskStep cfg sys t a t') (hclaim : ∀ p now ids, a ≠ .claim p now ids) :
    LeaseColumns t' := by
  cases hstep with
  | same => exact h
  | claimed _ _ _ => exact absurd rfl (hclaim _ _ _)
  | recorded _ _ _ hrec =>
    rcases hrec with rfl | rfl | ⟨at_, rfl⟩
    · exact .of_cleared rfl rfl (by simp [ackedTask])
    · exact .of_cleared rfl rfl (by simp [failedTask])
    · exact .of_cleared rfl rfl (by simp [retriedTask])
  | expired _ _ => exact .of_cleared rfl rfl (by simp [expiredTask])
  | recovered => exact recoveredTask_leaseColumns h
  | received _ => exact .of_cleared rfl rfl (by simp [Ingest.receivedTask])

theorem leaseColumns_step {a : Action} (hstep : step cfg sys a = some sys')
    (hcond : LeasesAgain sys a) {t t' : AgentTask} (ht : sys.store.tasks.get? t.taskId = some t)
    (ht' : sys'.store.tasks.get? t.taskId = some t') (h : LeaseColumns t)
    (htask : TaskStep cfg sys t a t') : LeaseColumns t' := by
  by_cases hclaim : ∃ p now ids, a = .claim p now ids
  · obtain ⟨p, now, ids, rfl⟩ := hclaim
    obtain ⟨-, hbatch, rfl⟩ := stepClaim_eq hstep
    rw [setProcess_store, hbatch.row (cfg.worker p) ht] at ht'
    cases ht'
    split
    · rename_i hid
      apply (decidedTask_leaseColumns h).mpr
      exact hcond t (List.mem_filterMap.mpr ⟨t.taskId, hid, ht⟩)
    · exact h
  · exact leaseColumns_taskStep h htask fun p now ids ha => hclaim ⟨p, now, ids, ha⟩

/-- The columns agree with the status until the first claim that takes a task in dispatch over
    without leasing it, and that claim breaks the agreement. -/
theorem lease_columns_agree (h : Transition.Exec (step cfg) LeasesAgain initial sys) :
    (∀ t ∈ sys.store.tasks.rows, LeaseColumns t) ∧
    ∀ a sys', step cfg sys a = some sys' →
      ((∀ t ∈ sys'.store.tasks.rows, LeaseColumns t) ↔ LeasesAgain sys a) := by
  have hall : ∀ {u : System}, Transition.Exec (step cfg) LeasesAgain initial u →
      ∀ t ∈ u.store.tasks.rows, LeaseColumns t := by
    intro u hu
    apply Exec.task_invariant (Q := LeaseColumns) hu
    · intro now args s run t hplan
      obtain ⟨id, requirement, routed, rfl, -⟩ := hplan
      refine .of_cleared rfl rfl ?_
      simp only [Planner.planTask]
      split <;> simp
    · intro v a v' t t' _ hcond hstep ht ht' hcols htask
      exact leaseColumns_step hstep hcond ht ht' hcols htask
  refine ⟨hall h, fun a sys' hstep => ⟨fun hcols => ?_, fun hcond => hall (h.tail hcond hstep)⟩⟩
  cases a with
  | claim p now ids =>
    intro t ht hdisp
    have hget := Store.get?_of_mem_tasksAt ht
    obtain ⟨-, hbatch, rfl⟩ := stepClaim_eq hstep
    -- the row of the taken-over task shows whether it was leased again
    have hrow := hbatch.picked_row (cfg.worker p) ht
    exact (decidedTask_leaseColumns (hall h t (Table.mem_of_get? hget))).mp
      (hcols _ (Table.mem_of_get? hrow)) hdisp
  | _ => trivial

end System

namespace Deployment

/-- Process 1 takes over the task that process 0 has left in dispatch. -/
@[irreducible] def takenOver : System :=
  Transition.stateAfter (System.step config) LeasesAgain .initial
    (planned ++ [.claim 0 (seconds 1) [200], .crash 0, .claim 1 (seconds 40) [200]])
    (by decide +kernel)

theorem takenOver_exec :
    Transition.Exec (System.step config) LeasesAgain .initial takenOver := by
  unfold takenOver
  exact Transition.exec_stateAfter

/-- `ALPHA` has refused, which has ended the run, when process 0 dies with the task of `BETA` in
    its queue. Process 1 finds that task with its lease run out. -/
@[irreducible] def leftInDispatch : System :=
  after config
    (planned ++ [.claim 0 (seconds 1) [200, 201]] ++ sent 0 2 refused ++
      [.evaluate (seconds 3) 100, .crash 0])
    (by decide +kernel)

theorem leftInDispatch_reachable : leftInDispatch.Reachable config := by
  unfold leftInDispatch
  exact after_reachable

end Deployment

open Deployment in
theorem lease_columns_agree_takenOver :
    (∀ t ∈ takenOver.store.tasks.rows, LeaseColumns t) ∧
      (takenOver.store.tasks.get? 200).map (·.leaseOwner) = some (some "ww") :=
  ⟨(System.lease_columns_agree takenOver_exec).1, by decide +kernel⟩

open Deployment in
/-- The claim cancels the task of `BETA` and leaves process 0 as the owner of its lease. -/
theorem claim_leaves_stale_lease :
    ¬ ∀ (cfg : Config) (sys : System), sys.Reachable cfg →
      ∀ t ∈ sys.store.tasks.rows, LeaseColumns t := by
  intro hclaim
  obtain ⟨sys', hstep, hp⟩ := (Option.any_eq_true ..).mp
    (by decide +kernel : (System.step config leftInDispatch (.claim 1 (seconds 40) [201])).any
      (fun sys' => (sys'.store.tasks.get? 201).any (fun t => ¬ LeaseColumns t)) = true)
  obtain ⟨t, ht, hbroken⟩ := (Option.any_eq_true ..).mp hp
  have hreach : sys'.Reachable config := leftInDispatch_reachable.tail trivial hstep
  exact of_decide_eq_true hbroken (hclaim config sys' hreach t (Table.mem_of_get? ht))

end Tomiris
