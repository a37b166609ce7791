import Tomiris.Spec.Attempts

/-!
# The pace of attempts

The number of attempts of a task is not limited by the settings alone: a lease that has run
out is taken over whatever the count. But such a takeover waits for the end of the lease, and no
claim is made past the dispatch deadline. So the attempts beyond the limit are at
least one lease time apart, and the dispatch window has room for so many of them only.

## Key results

- `retryAt_ge`: no retry is scheduled for an earlier time
- `Paced.claimed`, `Paced.recovered`: the two ways to a further attempt
- `attempts_paced`: the bound for every run of the system
-/

namespace Tomiris

open Dispatch Recovery Planner

/-! ## The time of a retry -/

/-- Seconds that are not negative make a duration that is not. -/
theorem timedelta_nonneg {q : Rat} (h : 0 ≤ q) : 0 ≤ timedelta q := by
  have hsecond : (0 : Rat) ≤ second := by decide
  have hlow : 0 ≤ (q * second).floor := by
    rw [Rat.le_floor_iff]
    exact mul_nonneg h hsecond
  unfold timedelta
  simp only []
  split
  · exact hlow
  · split
    · omega
    · split <;> omega

/-- The delay of a retry is not negative. -/
theorem ExponentialBackoff.delay_nonneg {b : ExponentialBackoff} (hbase : 0 ≤ b.baseSeconds)
    (hmax : 0 ≤ b.maxSeconds) {randomValue : Rat} (hrandom : 0 ≤ randomValue) (attempt : Nat) :
    0 ≤ b.delay randomValue attempt := by
  unfold ExponentialBackoff.delay
  have hdelay : 0 ≤ min b.maxSeconds (b.baseSeconds * 2 ^ (attempt - 1)) :=
    le_min hmax (mul_nonneg hbase (by positivity))
  exact mul_nonneg hdelay (by linarith)

/-- The backoff, and the circuit, only ever look ahead. -/
theorem retryAt_ge {w : DispatchWorker} (hbase : 0 ≤ w.backoff.baseSeconds)
    (hmax : 0 ≤ w.backoff.maxSeconds) {randomValue : Rat} (hrandom : 0 ≤ randomValue) (now : Int)
    (t : AgentTask) (state : AgentRuntimeState) : now ≤ retryAt w now randomValue t state := by
  have hdelay := timedelta_nonneg (w.backoff.delay_nonneg hbase hmax hrandom t.attemptCount)
  unfold retryAt
  simp only []
  split <;> omega

/-- A task that a result puts back into the queue waits until the time of `retryAt`. -/
theorem recordResult_retryAt (w : DispatchWorker) (now : Int) (rv : Rat) {c : DispatchCommand}
    (result : DispatchResult) {s : Store} {t t' : AgentTask} (ht : s.tasks.get? c.taskId = some t)
    (ht' : (recordResult w now rv c result s).tasks.get? c.taskId = some t')
    (hst : t'.status = .retry) :
    t' = t ∨ canRetry w now result t = true ∧
      ∃ state, t' = retriedTask now (retryAt w now rv t state) result t := by
  rcases recordResult_cases w now rv c result s with h | ⟨u, state, run, hrec, h⟩
  · rw [h, ht] at ht'
    exact .inl (Option.some_inj.mp ht').symm
  · obtain rfl : u = t := Option.some_inj.mp (hrec.task.symm.trans ht)
    have hid : u.taskId = c.taskId := Table.key_of_get? ht
    -- the one row that is written is the one asked for
    have hrow : ∀ u' : AgentTask, u'.taskId = u.taskId →
        (recordResult w now rv c result s).tasks = s.tasks.set u' → t' = u' := by
      intro u' hkey htasks
      rw [htasks, ← hid, ← hkey] at ht'
      have hself := Table.get?_set_self (a := u') (t := s.tasks) (b := u)
        (by rw [key_task, hkey, hid]; exact ht)
      exact Option.some_inj.mp (ht'.symm.trans hself)
    -- only another attempt leaves the status `RETRY`
    by_cases hack : result.disposition = .acknowledged
    · rw [if_pos hack] at h
      rw [hrow (ackedTask now result u) rfl (by rw [h]; rfl)] at hst
      cases hst
    · rw [if_neg hack] at h
      unfold recordFailure at h
      simp only [] at h
      split at h
      · rename_i hretry
        exact .inr ⟨hretry, _, hrow _ rfl (by rw [h]; rfl)⟩
      · rw [hrow (failedTask now result u) rfl (by rw [h]; rfl)] at hst
        cases hst

/-! ## The pace of one task -/

/-- The time that the attempts beyond the limit take, when they are `lease` apart. -/
def overtime (limit : Nat) (lease : Int) (n : Nat) : Int := ((n - limit : Nat) : Int) * lease

section Overtime

variable {limit : Nat} {lease : Int}

/-- Attempts within the limit need no time of their own. -/
theorem overtime_of_le {n : Nat} (h : n ≤ limit) : overtime limit lease n = 0 := by
  rw [overtime, Nat.sub_eq_zero_of_le h]
  simp

/-- One more attempt needs at most one more lease. -/
theorem overtime_succ_le (hlease : 0 < lease) (n : Nat) :
    overtime limit lease (n + 1) ≤ overtime limit lease n + lease := by
  unfold overtime
  by_cases h : limit ≤ n
  · rw [show n + 1 - limit = n - limit + 1 by omega]
    push_cast
    linarith
  · rw [show n + 1 - limit = 0 by omega, show n - limit = 0 by omega]
    simp only [Nat.cast_zero, zero_mul]
    omega

end Overtime

/-- The attempts that the task has used fit into its dispatch window, and the next one is as late
    as it has to be. -/
structure Paced (limit : Nat) (lease : Int) (t : AgentTask) : Prop where
  window : overtime limit lease t.attemptCount < t.dispatchDeadline - t.createdAt
  leased : t.status = .dispatching → ∀ u, t.leaseUntil = some u →
    t.createdAt + overtime limit lease t.attemptCount + lease ≤ u
  queued : t.status = .pending ∨ t.status = .retry →
    t.createdAt + overtime limit lease (t.attemptCount + 1) ≤ t.dispatchAfter

namespace Paced

variable {limit : Nat} {lease : Int} {t t' : AgentTask}

/-- A row that waits for no attempt. -/
theorem rest (h : Paced limit lease t) (hcols : t'.columns = t.columns)
    (hcount : t'.attemptCount = t.attemptCount)
    (hst : t'.status ≠ .dispatching ∧ t'.status ≠ .pending ∧ t'.status ≠ .retry) :
    Paced limit lease t' where
  window := by
    have hc : t'.createdAt = t.createdAt := congrArg TaskColumns.createdAt hcols
    have hd : t'.dispatchDeadline = t.dispatchDeadline :=
      congrArg TaskColumns.dispatchDeadline hcols
    rw [hcount, hc, hd]
    exact h.window
  leased hd := absurd hd hst.1
  queued hq := by
    rcases hq with hq | hq
    · exact absurd hq hst.2.1
    · exact absurd hq hst.2.2

/-- A claim comes no earlier than the attempt that it starts may. -/
theorem due (h : Paced limit lease t) (hlease : 0 < lease) {now : Int}
    (hdue : claimable now t = true) :
    t.createdAt + overtime limit lease (t.attemptCount + 1) ≤ now ∧ now < t.dispatchDeadline := by
  obtain ⟨hready, hdeadline⟩ := claimable_iff.mp hdue
  refine ⟨?_, hdeadline⟩
  rcases hready with ⟨hst, hafter⟩ | ⟨hst, u, hu, hover⟩
  · exact (h.queued hst).trans hafter
  · -- the lease of the attempt before has run out
    have hleased := h.leased hst u hu
    have hnext := @overtime_succ_le limit lease hlease t.attemptCount
    omega

/-- The row that a claim leaves. -/
theorem claimed (h : Paced limit lease t) (hlease : 0 < lease) {w : DispatchWorker}
    (hw : lease ≤ w.leaseTime) {now : Int} {s : Store} (hdue : claimable now t = true) :
    Paced limit lease (decidedTask w now t (claimDecision now s t)) := by
  -- a due task has waited long enough for its attempts so far
  obtain ⟨hstart, hdeadline⟩ := h.due hlease hdue
  rcases claimDecision_cases now s t with ⟨run, e, hd, -⟩ | ⟨u, hd, -, hblock⟩ | ⟨hd, -⟩
  · rw [hd]
    constructor
    · show overtime limit lease (t.attemptCount + 1) < t.dispatchDeadline - t.createdAt
      omega
    · intro _ u hu
      have huntil : now + w.leaseTime = u := Option.some_inj.mp hu
      show t.createdAt + overtime limit lease (t.attemptCount + 1) + lease ≤ u
      omega
    · intro hq
      rcases hq with hq | hq <;> cases hq
  · rw [hd]
    -- put off by its circuit, to a later time
    have hlater : now < u := by
      unfold circuitBlocks at hblock
      split at hblock
      · simpa using (Option.filter_eq_some_iff.mp hblock).2
      · cases hblock
    constructor
    · exact h.window
    · intro hst
      cases hst
    · intro _
      show t.createdAt + overtime limit lease (t.attemptCount + 1) ≤ u
      omega
  -- cancelled, or failed for want of an endpoint: no attempt follows
  · rcases hd with hd | hd
    · rw [hd]
      exact h.rest rfl rfl ⟨by simp [decidedTask, cancelledTask], by simp [decidedTask, cancelledTask],
        by simp [decidedTask, cancelledTask]⟩
    · rw [hd]
      exact h.rest rfl rfl ⟨by simp [decidedTask, endpointMissingTask],
        by simp [decidedTask, endpointMissingTask], by simp [decidedTask, endpointMissingTask]⟩

/-- A lease that recovery ends has run out. -/
theorem recovered (h : Paced limit lease t) (hlease : 0 < lease) (now : Int) (s : Store) :
    Paced limit lease (recoveredTask now s t) := by
  unfold recoveredTask recoverTask
  split
  · exact h.rest rfl rfl ⟨by simp [repairedTask], by simp [repairedTask], by simp [repairedTask]⟩
  · split
    -- the lease ran out, so a whole lease went by since the attempt
    · rename_i hover
      obtain ⟨hst, hany⟩ := hover
      obtain ⟨u, hu, hle⟩ := (Option.any_eq_true ..).mp hany
      have hleased := h.leased hst u hu
      have hnext := @overtime_succ_le limit lease hlease t.attemptCount
      have hnow : u ≤ now := of_decide_eq_true hle
      constructor
      · exact h.window
      · intro hdisp
        simp only [Option.getD_some, releasedTask] at hdisp
        split at hdisp <;> cases hdisp
      · intro _
        show t.createdAt + overtime limit lease (t.attemptCount + 1) ≤ now
        omega
    · split
      · exact h.rest rfl rfl ⟨by simp [signalTimeoutTask], by simp [signalTimeoutTask],
          by simp [signalTimeoutTask]⟩
      · exact h

/-- A retry is scheduled only while attempts are left. -/
theorem retried (h : Paced limit lease t) {w : DispatchWorker} (hmax : w.maxAttempts ≤ limit)
    {now at_ : Int} {result : DispatchResult} (hretry : canRetry w now result t = true)
    (hafter : t.createdAt ≤ at_) : Paced limit lease (retriedTask now at_ result t) := by
  simp only [canRetry, Bool.and_eq_true, decide_eq_true_eq] at hretry
  constructor
  · exact h.window
  · intro hst
    cases hst
  · intro _
    show t.createdAt + overtime limit lease (t.attemptCount + 1) ≤ at_
    rw [overtime_of_le (by omega)]
    omega

end Paced

/-! ## The runs of the system -/

/-- A result is recorded with a jitter that is not negative, and not before the task of its
    command was created. -/
def Dated (sys : System) : Action → Prop
  | .record p now randomValue => 0 ≤ randomValue ∧
      ∀ c ∈ (sys.processes p).returned.map (·.1), c.command.createdAt ≤ now
  | _ => True

instance (sys : System) : ∀ a, Decidable (Dated sys a)
  | .record p now randomValue => inferInstanceAs (Decidable (0 ≤ randomValue ∧
      ∀ c ∈ (sys.processes p).returned.map (·.1), c.command.createdAt ≤ now))
  | .syncAgent _ | .syncEndpoint _ | .syncSnapshot _ | .create .. | .claim .. | .startSend _
  | .deliver .. | .endSend .. | .crash _ | .expire .. | .recover .. | .evaluate .. | .ingest ..
  | .recordRejection .. | .probe .. => .isTrue trivial

/-- What the pace of the attempts needs of the workers. -/
structure Config.KeepsPace (cfg : Config) (limit : Nat) (lease : Int) : Prop where
  attempts : ∀ p, (cfg.worker p).maxAttempts ≤ limit
  leases : ∀ p, lease ≤ (cfg.worker p).leaseTime
  base : ∀ p, 0 ≤ (cfg.worker p).backoff.baseSeconds
  max : ∀ p, 0 ≤ (cfg.worker p).backoff.maxSeconds

namespace System

variable {cfg : Config} {sys sys' : System} {limit : Nat} {lease : Int}

/-- A planned task is paced. -/
theorem paced_planned (hlimit : 1 ≤ limit) {now : Int} {args : CreateArgs} {s : Store}
    {run : OrchestrationRun} {t : AgentTask} (h : PlannedTask now args s run t) :
    Paced limit lease t := by
  obtain ⟨id, requirement, routed, rfl, -⟩ := h
  -- no attempt yet, so no time is owed
  have hwindow := seconds_pos args.policy.valid.dispatch_pos
  constructor
  · show overtime limit lease 0 < now + seconds args.policy.dispatchTimeoutSeconds - now
    rw [overtime_of_le (Nat.zero_le _)]
    omega
  · intro hst
    simp only [planTask] at hst
    split at hst <;> cases hst
  · intro _
    show now + overtime limit lease 1 ≤ now
    rw [overtime_of_le hlimit]
    omega

/-- A recorded result either ends the dispatch of its task or schedules a retry ahead of it. -/
theorem paced_record (hcfg : cfg.KeepsPace limit lease) {p : Nat} {now : Int} {rv : Rat}
    {t t' : AgentTask} (hissued : CommandsIssued sys)
    (hstep : step cfg sys (.record p now rv) = some sys') (hdated : Dated sys (.record p now rv))
    (ht : sys.store.tasks.get? t.taskId = some t) (ht' : sys'.store.tasks.get? t.taskId = some t')
    (h : Paced limit lease t) (htask : TaskStep cfg sys t (.record p now rv) t') :
    Paced limit lease t' := by
  cases htask with
  | same => exact h
  | @recorded _ _ _ c result _ hp hid hown hrec =>
    rcases hrec with rfl | rfl | ⟨at_, rfl⟩
    · exact h.rest rfl rfl ⟨by simp [ackedTask], by simp [ackedTask], by simp [ackedTask]⟩
    · exact h.rest rfl rfl ⟨by simp [failedTask], by simp [failedTask], by simp [failedTask]⟩
    · obtain ⟨hrandom, hcreated⟩ := hdated
      have hafter : c.command.createdAt ≤ now := hcreated c (by rw [hp]; rfl)
      -- the command carries the creation time of the row
      obtain ⟨u, hu, hfor⟩ := hissued p c (mem_held.mpr (.inr (.inr ⟨result, hp⟩)))
      rw [hid, ht] at hu
      cases hu
      have hcreatedAt : c.command.createdAt = t.createdAt := hfor.created
      obtain ⟨d, r, hq, rfl⟩ := stepRecord_eq hstep
      have heq : (d, r) = (c, result) := Option.some_inj.mp (hq.symm.trans hp)
      cases heq
      rw [← hid] at ht ht'
      rcases recordResult_retryAt (cfg.worker p) now rv result ht ht' rfl with
        hsame | ⟨hretry, state, hrow⟩
      · rw [hsame]
        exact h
      · rw [hrow]
        have hge := retryAt_ge (hcfg.base p) (hcfg.max p) hrandom now t state
        have hlater : t.createdAt ≤ retryAt (cfg.worker p) now rv t state := by omega
        exact h.retried (hcfg.attempts p) hretry hlater

/-- A step keeps the pace of a task. -/
theorem paced_step {a : Action} (hlease : 0 < lease) (hcfg : cfg.KeepsPace limit lease)
    (hissued : CommandsIssued sys) (hstep : step cfg sys a = some sys') (hdated : Dated sys a)
    {t t' : AgentTask} (ht : sys.store.tasks.get? t.taskId = some t)
    (ht' : sys'.store.tasks.get? t.taskId = some t') (h : Paced limit lease t)
    (htask : TaskStep cfg sys t a t') : Paced limit lease t' := by
  cases a with
  | claim p now ids =>
    obtain ⟨-, hbatch, rfl⟩ := stepClaim_eq hstep
    rw [setProcess_store, hbatch.row (cfg.worker p) ht] at ht'
    cases ht'
    split
    -- the row is in the batch of the claim
    · rename_i hid
      have hsel : t ∈ sys.store.tasksAt ids := List.mem_filterMap.mpr ⟨t.taskId, hid, ht⟩
      exact h.claimed hlease (hcfg.leases p) (hbatch.due t hsel)
    · exact h
  | record p now rv => exact paced_record hcfg hissued hstep hdated ht ht' h htask
  | recover now ids =>
    cases htask with
    | same => exact h
    | recovered => exact h.recovered hlease now sys.store
  | expire now ids =>
    cases htask with
    | same => exact h
    | expired _ _ =>
      exact h.rest rfl rfl ⟨by simp [expiredTask], by simp [expiredTask], by simp [expiredTask]⟩
  | ingest now request =>
    cases htask with
    | same => exact h
    | received _ =>
      exact h.rest rfl rfl ⟨by simp [Ingest.receivedTask], by simp [Ingest.receivedTask],
        by simp [Ingest.receivedTask]⟩
  | _ =>
    cases htask
    exact h

/-- Whatever crashes and takeovers there are, the attempts of a task beyond the limit are one
    lease apart inside its dispatch window. -/
theorem attempts_paced (hlimit : 1 ≤ limit) (hlease : 0 < lease)
    (hcfg : cfg.KeepsPace limit lease)
    (h : Transition.Exec (step cfg) Dated initial sys) :
    ∀ t ∈ sys.store.tasks.rows,
      ((t.attemptCount - limit : Nat) : Int) * lease < t.dispatchDeadline - t.createdAt := by
  have hall : ∀ t ∈ sys.store.tasks.rows, Paced limit lease t := by
    apply Exec.task_invariant (Q := Paced limit lease) h
    · exact fun _ _ _ _ _ hplan => paced_planned hlimit hplan
    · intro u a v t t' hu hdated hstep ht ht' hpaced htask
      exact paced_step hlease hcfg (Exec.commandsIssued commandsIssued_initial hu) hstep hdated
        ht ht' hpaced htask
  exact fun t ht => (hall t ht).window

end System

namespace Deployment

/-- Process 0 dies with task 200, and process 1, which has taken it over, dies with it too. -/
@[irreducible] def diedTwice : System :=
  Transition.stateAfter (System.step singleAttempt) Dated .initial
    (planned ++ [.claim 0 (seconds 1) [200], .crash 0, .claim 1 (seconds 40) [200], .crash 1])
    (by decide +kernel)

theorem diedTwice_exec :
    Transition.Exec (System.step singleAttempt) Dated .initial diedTwice := by
  unfold diedTwice
  exact Transition.exec_stateAfter

theorem singleAttempt_keepsPace : singleAttempt.KeepsPace 1 (seconds 30) where
  attempts := fun _ => Nat.le_refl 1
  leases := fun _ => Int.le_refl _
  base := fun _ => (by decide : (0 : Rat) ≤ 1)
  max := fun _ => (by decide : (0 : Rat) ≤ 30)

end Deployment

open Deployment in
/-- A worker that died twice: two attempts, a lease apart. -/
theorem attempts_paced_diedTwice :
    (∀ t ∈ diedTwice.store.tasks.rows,
      ((t.attemptCount - 1 : Nat) : Int) * seconds 30 < t.dispatchDeadline - t.createdAt) ∧
    ((diedTwice.store.tasks.get? 200).map (·.attemptCount)) = some 2 :=
  ⟨System.attempts_paced (Nat.le_refl 1) (by decide) singleAttempt_keepsPace diedTwice_exec,
    by decide +kernel⟩

end Tomiris
