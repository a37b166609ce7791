import Tomiris.Spec.Claim
import Tomiris.Spec.Finality

/-!
# The number of dispatch attempts

A recorded failure goes back to `RETRY` only while attempts are left. A worker that dies before
it records anything leaves its task in dispatch, and neither of the two operations that take such
a task up again counts: the claim that takes over the expired lease counts one attempt more, and
recovery sets the task to `RETRY` for the next claim to do so. `GivesUp` excludes the steps that
do this to a task without attempts left.

## Key results

- `attempts_bounded`: until the first such step every task keeps to the bound, and that step
  leaves a task beyond it or queued with nothing left
- `reclaim_exceeds_attempts`: a run in which a crash leads to one attempt too many
-/

namespace Tomiris

open Dispatch Recovery Quorum

/-- A worker has died with the last of the `limit` attempts of a task: no claim takes the task
    over unless its run is closed or its agent cannot be called, and recovery finds it past its
    dispatch deadline. -/
def GivesUp (limit : Nat) (sys : System) : Action → Prop
  | .claim _ _ ids => ∀ t ∈ sys.store.tasksAt ids, t.status = .dispatching →
      limit ≤ t.attemptCount → ¬ Dispatchable sys.store t
  | .recover now ids => ∀ t ∈ sys.store.tasks.rows, t.orchestrationRunId ∈ ids →
      t.status = .dispatching → limit ≤ t.attemptCount → t.leaseUntil.any (· ≤ now) = true →
      t.dispatchDeadline ≤ now
  | _ => True

instance (limit : Nat) (sys : System) : ∀ a, Decidable (GivesUp limit sys a)
  | .claim _ _ ids => inferInstanceAs (Decidable (∀ t ∈ sys.store.tasksAt ids,
      t.status = .dispatching → limit ≤ t.attemptCount → ¬ Dispatchable sys.store t))
  | .recover now ids => inferInstanceAs (Decidable (∀ t ∈ sys.store.tasks.rows,
      t.orchestrationRunId ∈ ids → t.status = .dispatching → limit ≤ t.attemptCount →
      t.leaseUntil.any (· ≤ now) = true → t.dispatchDeadline ≤ now))
  | .syncAgent _ | .syncEndpoint _ | .syncSnapshot _ | .create .. | .startSend _ | .deliver ..
  | .endSend .. | .record .. | .crash _ | .expire .. | .evaluate .. | .ingest ..
  | .recordRejection .. | .probe .. => .isTrue trivial

/-- At most `limit` attempts are used, and a task that is queued for the next one has it left. -/
structure AttemptsLeft (limit : Nat) (t : AgentTask) : Prop where
  bound : t.attemptCount ≤ limit
  queued : t.status = .pending ∨ t.status = .retry → t.attemptCount < limit

namespace AttemptsLeft

variable {limit : Nat} {t : AgentTask}

/-- A task that is not queued only has to keep to the bound. -/
theorem of_bound (h : t.attemptCount ≤ limit) (hp : t.status ≠ .pending)
    (hr : t.status ≠ .retry) : AttemptsLeft limit t where
  bound := h
  queued := by
    intro hq
    rcases hq with hq | hq
    · exact absurd hq hp
    · exact absurd hq hr

/-- With an attempt to spare, the task may be in any status. -/
theorem of_lt (h : t.attemptCount < limit) : AttemptsLeft limit t where
  bound := Nat.le_of_lt h
  queued := fun _ => h

/-- A task that a claim may pick has an attempt left, unless it is still in dispatch. -/
theorem lt_of_claimable (h : AttemptsLeft limit t) {now : Int} (hdue : claimable now t = true)
    (hst : t.status ≠ .dispatching) : t.attemptCount < limit := by
  apply h.queued
  rcases (claimable_iff.mp hdue).1 with ⟨hs, -⟩ | ⟨hs, -⟩
  · exact hs
  · exact absurd hs hst

/-- Every branch of a claim keeps to the bound, given that it gives a spent task up. -/
theorem decided (h : AttemptsLeft limit t) {w : DispatchWorker} {now : Int} {s : Store}
    (hdue : claimable now t = true) (hspent : t.status = .dispatching →
      limit ≤ t.attemptCount → ¬ Dispatchable s t) :
    AttemptsLeft limit (decidedTask w now t (claimDecision now s t)) := by
  -- a task that goes on has an attempt left, whatever its status
  have hleft : Dispatchable s t → t.attemptCount < limit := by
    intro hdisp
    by_cases hst : t.status = .dispatching
    · by_contra hge
      exact hspent hst (by omega) hdisp
    · exact h.lt_of_claimable hdue hst
  rcases decidedTask_cases w now s t with ⟨heq, hl⟩ | ⟨u, heq, hdisp⟩ | ⟨heq, -⟩
  · rw [heq]
    have hlt := hleft hl.1
    exact .of_bound (by simp only [leasedTask]; omega) (by simp [leasedTask])
      (by simp [leasedTask])
  · rw [heq]
    exact .of_lt (hleft hdisp)
  · rcases heq with heq | heq
    · rw [heq]
      exact .of_bound h.bound (by simp [cancelledTask]) (by simp [cancelledTask])
    · rw [heq]
      exact .of_bound h.bound (by simp [endpointMissingTask]) (by simp [endpointMissingTask])

/-- Recovery queues a task only while attempts are left, given that it gives a spent task up. -/
theorem recovered (h : AttemptsLeft limit t) {now : Int} {s : Store}
    (hspent : t.status = .dispatching → limit ≤ t.attemptCount →
      t.leaseUntil.any (· ≤ now) = true → t.dispatchDeadline ≤ now) :
    AttemptsLeft limit (recoveredTask now s t) := by
  unfold recoveredTask recoverTask
  split
  · exact .of_bound h.bound (by simp [repairedTask]) (by simp [repairedTask])
  · split
    · rename_i hlease
      -- past the dispatch deadline the task is timed out, not queued
      by_cases hdeadline : now < t.dispatchDeadline
      · have hlt : t.attemptCount < limit := by
          by_contra hge
          have := hspent hlease.1 (by omega) hlease.2
          omega
        exact .of_lt hlt
      · exact .of_bound h.bound (by simp [releasedTask, hdeadline])
          (by simp [releasedTask, hdeadline])
    · split
      · exact .of_bound h.bound (by simp [signalTimeoutTask]) (by simp [signalTimeoutTask])
      · exact h

end AttemptsLeft

namespace System

variable {cfg : Config} {sys sys' : System} {limit : Nat}

/-- A result queues its task only while attempts are left. -/
theorem attemptsLeft_record {p : Nat} {now : Int} {rv : Rat} {t t' : AgentTask}
    (hmax : (cfg.worker p).maxAttempts ≤ limit)
    (hstep : step cfg sys (.record p now rv) = some sys')
    (ht : sys.store.tasks.get? t.taskId = some t) (ht' : sys'.store.tasks.get? t.taskId = some t')
    (h : AttemptsLeft limit t) (htask : TaskStep cfg sys t (.record p now rv) t') :
    AttemptsLeft limit t' := by
  cases htask with
  | same => exact h
  | @recorded _ _ _ c result _ hp hid hown hrec =>
    -- acknowledged or failed: the task is not queued
    rcases hrec with rfl | rfl | ⟨at_, rfl⟩
    · exact .of_bound h.bound (by simp [ackedTask]) (by simp [ackedTask])
    · exact .of_bound h.bound (by simp [failedTask]) (by simp [failedTask])
    · obtain ⟨d, r, hq, rfl⟩ := stepRecord_eq hstep
      have heq : (d, r) = (c, result) := Option.some_inj.mp (hq.symm.trans hp)
      cases heq
      rw [← hid] at ht ht'
      -- queued only if `canRetry` let it, which counts the attempts
      rcases recordResult_retry (cfg.worker p) now rv result ht ht' rfl with hsame | hretry
      · rw [hsame]
        exact h
      · simp only [canRetry, Bool.and_eq_true, decide_eq_true_eq] at hretry
        have hlt : t.attemptCount < limit := by omega
        exact .of_lt hlt

/-- A step that gives up on spent tasks keeps an attempt for every queued one. -/
theorem attemptsLeft_step {a : Action} (hmax : ∀ p, (cfg.worker p).maxAttempts ≤ limit)
    (hstep : step cfg sys a = some sys') (hcond : GivesUp limit sys a) {t t' : AgentTask}
    (ht : sys.store.tasks.get? t.taskId = some t) (ht' : sys'.store.tasks.get? t.taskId = some t')
    (h : AttemptsLeft limit t) (htask : TaskStep cfg sys t a t') : AttemptsLeft limit t' := by
  have hmem : t ∈ sys.store.tasks.rows := Table.mem_of_get? ht
  cases a with
  | claim p now ids =>
    obtain ⟨-, hbatch, rfl⟩ := stepClaim_eq hstep
    rw [setProcess_store, hbatch.row (cfg.worker p) ht] at ht'
    cases ht'
    split
    -- the row is in the batch of the claim
    · rename_i hid
      have hsel : t ∈ sys.store.tasksAt ids := List.mem_filterMap.mpr ⟨t.taskId, hid, ht⟩
      exact h.decided (hbatch.due t hsel) (hcond t hsel)
    · exact h
  | record p now rv => exact attemptsLeft_record (hmax p) hstep ht ht' h htask
  | recover now ids =>
    have heff := store_effect hstep
    generalize sys'.store = s' at heff ht'
    cases heff with
    | same hsame =>
      rw [hsame.tasks, ht] at ht'
      exact Option.some_inj.mp ht' ▸ h
    | recovered hbatch =>
      -- recovery queues a row of the picked runs again
      obtain ⟨u, hu, hrow⟩ := (hbatch.spec now).tasks.get?_old ht
      obtain rfl : u = t' := Option.some_inj.mp (hu.symm.trans ht')
      rw [hrow]
      split
      · rename_i hrun
        exact h.recovered (hcond t hmem (Store.mem_runsAt_ids.mp hrun).1)
      · exact h
  | expire now ids =>
    cases htask with
    | same => exact h
    | expired _ _ => exact .of_bound h.bound (by simp [expiredTask]) (by simp [expiredTask])
  | ingest now request =>
    cases htask with
    | same => exact h
    | received _ =>
      exact .of_bound h.bound (by simp [Ingest.receivedTask]) (by simp [Ingest.receivedTask])
  | _ =>
    cases htask
    exact h

/-- A claim that takes a spent task over. -/
theorem claim_spent {p : Nat} {now : Int} {ids : List UUID}
    (hstep : step cfg sys (.claim p now ids) = some sys') {t : AgentTask}
    (ht : t ∈ sys.store.tasksAt ids) (hspent : limit ≤ t.attemptCount)
    (hdisp : Dispatchable sys.store t) :
    ∃ t' ∈ sys'.store.tasks.rows, limit ≤ t'.attemptCount ∧
      (t'.status = .retry ∨ limit < t'.attemptCount) := by
  obtain ⟨-, hbatch, rfl⟩ := stepClaim_eq hstep
  refine ⟨_, Table.mem_of_get? (hbatch.picked_row (cfg.worker p) ht), ?_⟩
  rcases decidedTask_cases (cfg.worker p) now sys.store t with
    ⟨heq, -⟩ | ⟨u, heq, -⟩ | ⟨-, hn⟩
  · rw [heq]
    simp only [leasedTask]
    omega
  · rw [heq]
    exact ⟨hspent, .inl rfl⟩
  · exact absurd hdisp hn

/-- A recovery pass that queues a spent task. -/
theorem recover_spent (hreach : Reachable cfg sys) {now : Int} {ids : List UUID}
    (hstep : step cfg sys (.recover now ids) = some sys') {t : AgentTask}
    (ht : t ∈ sys.store.tasks.rows) (hrun : t.orchestrationRunId ∈ ids)
    (hst : t.status = .dispatching) (hspent : limit ≤ t.attemptCount)
    (hlease : t.leaseUntil.any (· ≤ now) = true) (hdeadline : now < t.dispatchDeadline) :
    ∃ t' ∈ sys'.store.tasks.rows, limit ≤ t'.attemptCount ∧ t'.status = .retry := by
  have hbatch : RunBatch sys.store cfg.recoveryBatchSize ids ∧ sys'.store =
      (recoverRuns now (sys.store.runsAt ids) sys.store).1 := by
    simp only [step] at hstep
    split at hstep
    · rename_i hbatch
      cases hstep
      exact ⟨hbatch, rfl⟩
    · cases hstep
  obtain ⟨hbatch, hs⟩ := hbatch
  obtain ⟨run, hget, -⟩ := hreach.planning.run t ht
  have hrow := hbatch.row now (Table.get?_of_mem ht) ⟨run, hget⟩
  rw [if_pos hrun, ← hs] at hrow
  refine ⟨_, Table.mem_of_get? hrow, ?_⟩
  -- no signal is stored for a task in dispatch
  have hsignal : ¬ (t.taskId ∈ signalTaskIds sys.store t.orchestrationRunId ∧
      t.status ≠ .signalReceived) := by
    rw [hreach.signalStore.mem_signalTaskIds_iff ht, hst]
    simp
  have hrecovered : recoveredTask now sys.store t = releasedTask now t := by
    unfold recoveredTask recoverTask
    rw [if_neg hsignal, if_pos ⟨hst, hlease⟩]
    rfl
  rw [hrecovered]
  exact ⟨hspent, by simp [releasedTask, hdeadline]⟩

/-- The attempts of every task stay within the bound until the first step that does not give a
    spent task up. That step exceeds the bound, or queues the task for the attempt that will. -/
theorem attempts_bounded (hlimit : 1 ≤ limit) (hmax : ∀ p, (cfg.worker p).maxAttempts ≤ limit)
    (h : Transition.Exec (step cfg) (GivesUp limit) initial sys) :
    (∀ t ∈ sys.store.tasks.rows, t.attemptCount ≤ limit) ∧
    ∀ a sys', step cfg sys a = some sys' → ¬ GivesUp limit sys a →
      ∃ t ∈ sys'.store.tasks.rows, limit ≤ t.attemptCount ∧
        (t.status = .retry ∨ limit < t.attemptCount) := by
  constructor
  -- every row of the run keeps an attempt for each time it is queued
  · have hall : ∀ t ∈ sys.store.tasks.rows, AttemptsLeft limit t := by
      apply Exec.task_invariant (Q := AttemptsLeft limit) h
      · intro now args s run t hplan
        obtain ⟨id, requirement, routed, rfl, -⟩ := hplan
        exact .of_lt hlimit
      · intro u a v t t' _ hcond hstep ht ht' hleft htask
        exact attemptsLeft_step hmax hstep hcond ht ht' hleft htask
    exact fun t ht => (hall t ht).bound
  · intro a sys' hstep hcond
    cases a with
    | claim p now ids =>
      simp only [GivesUp, not_forall, not_not] at hcond
      -- a spent task is dispatched once more
      obtain ⟨t, ht, -, hspent, hdisp⟩ := hcond
      exact claim_spent hstep ht hspent hdisp
    | recover now ids =>
      simp only [GivesUp, not_forall, not_le] at hcond
      -- a spent task is queued for one more attempt
      obtain ⟨t, ht, hrun, hst, hspent, hlease, hdeadline⟩ := hcond
      obtain ⟨t', ht', hge, hretry⟩ :=
        recover_spent h.any hstep ht hrun hst hspent hlease hdeadline
      exact ⟨t', ht', hge, .inl hretry⟩
    | _ => exact absurd trivial hcond

end System

namespace Deployment

/-- Workers that try every task once. -/
def singleAttempt : Config :=
  { config with worker := fun i => { config.worker i with maxAttempts := 1 } }

/-- Process 0 dies with both tasks, and by the end of their dispatch time recovery has given them
    up. -/
@[irreducible] def gaveUp : System :=
  Transition.stateAfter (System.step singleAttempt) (GivesUp 1) .initial
    (planned ++ [.claim 0 (seconds 1) [200, 201], .crash 0, .recover (seconds 60) [100]])
    (by decide +kernel)

theorem gaveUp_exec :
    Transition.Exec (System.step singleAttempt) (GivesUp 1) .initial gaveUp := by
  unfold gaveUp
  exact Transition.exec_stateAfter

/-- Process 0 has died with task 200, and process 1 has taken it over. -/
@[irreducible] def secondAttempt : System :=
  after singleAttempt
    (planned ++ [.claim 0 (seconds 1) [200], .crash 0, .claim 1 (seconds 40) [200]])
    (by decide +kernel)

theorem secondAttempt_reachable : secondAttempt.Reachable singleAttempt := by
  unfold secondAttempt
  exact after_reachable

end Deployment

open Deployment in
/-- Both tasks are given up after their one attempt. -/
theorem attempts_bounded_gaveUp :
    (∀ t ∈ gaveUp.store.tasks.rows, t.attemptCount ≤ 1) ∧
      (gaveUp.store.tasks.rows.map (·.status)) = [.timedOut, .timedOut] :=
  ⟨(System.attempts_bounded (Nat.le_refl 1) (fun _ => Nat.le_refl 1) gaveUp_exec).1,
    by decide +kernel⟩

open Deployment in
/-- With one attempt allowed, the reclaim after the crash is the second one. -/
theorem reclaim_exceeds_attempts :
    ¬ ∀ (cfg : Config) (limit : Nat) (sys : System), 1 ≤ limit →
      (∀ p, (cfg.worker p).maxAttempts = limit) → sys.Reachable cfg →
      ∀ t ∈ sys.store.tasks.rows, t.attemptCount ≤ limit := by
  intro hclaim
  obtain ⟨t, ht, htwo⟩ := (Option.any_eq_true ..).mp
    (by decide +kernel : (secondAttempt.store.tasks.get? 200).any (fun t => t.attemptCount = 2)
      = true)
  have hbound := hclaim singleAttempt 1 secondAttempt (Nat.le_refl 1) (fun _ => rfl)
    secondAttempt_reachable t (Table.mem_of_get? ht)
  rw [of_decide_eq_true htwo] at hbound
  omega

end Tomiris
