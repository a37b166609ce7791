import Tomiris.Spec.Finality

/-!
# Fencing of dispatch results

`_record_result` compares the owner of the lease with the name of its worker, and nothing
that tells one claim from another. Processes built from the same settings share that name:
when one of them reclaims a task that another one is still sending, the late result of the
older claim passes the guard.

## Key results

- `record_fenced`: results are fenced as long as no process claims a task that a namesake
  still has in hand, and always when the worker ids are distinct
- `shared_id_records_stale_result`: two processes of one name, and a result one claim old
-/

namespace Tomiris

open Dispatch

/-- The process claims no task for which another process with its worker id has a command
    in hand. -/
def ExclusiveClaim (cfg : Config) (sys : System) : Action → Prop
  | .claim p _ ids => ∀ q ≠ p, (cfg.worker q).workerId = (cfg.worker p).workerId →
      ∀ c ∈ (sys.processes q).held, c.command.taskId ∉ ids
  | _ => True

/-- A result that a process has in hand changes no task but the one of its command, and that
    one only while its `attempt_count` is the one that the command's claim has set. -/
def RecordFenced (cfg : Config) (sys : System) : Prop :=
  ∀ p c result, (sys.processes p).returned = some (c, result) → ∀ now rv id t t',
    sys.store.tasks.get? id = some t →
    (recordResult (cfg.worker p) now rv c.command result sys.store).tasks.get? id = some t' →
    t' ≠ t → id = c.command.taskId ∧ t.attemptCount = c.attempt

/-- If the row of a command is leased under the name of the process that holds the command,
    it is leased for that command. -/
def LeaseMatches (cfg : Config) (sys : System) : Prop :=
  ∀ p, ∀ c ∈ (sys.processes p).held, ∀ t, sys.store.tasks.get? c.command.taskId = some t →
    ownsLease (cfg.worker p) t = true → t.attemptCount = c.attempt

/-- A worker owns the lease of a dispatching task with its name. -/
theorem ownsLease_iff {w : DispatchWorker} {t : AgentTask} :
    ownsLease w t = true ↔ t.status = .dispatching ∧ t.leaseOwner = some w.workerId := by
  simp [ownsLease]

/-- Distinct worker ids leave no namesake. -/
theorem exclusiveClaim_of_injective {cfg : Config}
    (h : Function.Injective fun p => (cfg.worker p).workerId) (sys : System) (a : Action) :
    ExclusiveClaim cfg sys a := by
  cases a with
  | claim p now ids => exact fun q hq hname => absurd (h hname) hq
  | _ => trivial

namespace System

variable {cfg : Config} {sys sys' : System}

/-- A step without a take-over under the same name keeps leases and attempts together. -/
theorem leaseMatches_step {a : Action} (hissued : CommandsIssued sys) (h : LeaseMatches cfg sys)
    (hexcl : ExclusiveClaim cfg sys a) (hstep : step cfg sys a = some sys') :
    LeaseMatches cfg sys' := by
  intro p c hc t' ht' hown
  rcases held_of_step hstep hc with hold | ⟨now, ids, rfl, hbatch, hs, hcl⟩
  · obtain ⟨t, ht, -⟩ := hissued p c hold
    obtain ⟨u, hu, hmove⟩ := task_step hstep ht
    obtain rfl : u = t' := Option.some_inj.mp (hu.symm.trans ht')
    obtain ⟨hst, howner⟩ := ownsLease_iff.mp hown
    rcases hmove.dispatching hst with rfl | ⟨q, now, ids, rfl, hids, -, rfl⟩
    · exact h p c hold u ht hown
    · -- the lease is new, so it is the one of the claiming process
      have hname : (cfg.worker p).workerId = (cfg.worker q).workerId :=
        (Option.some_inj.mp howner).symm
      have hid : t.taskId = c.command.taskId := Table.key_of_get? ht
      by_cases hpq : p = q
      · obtain ⟨hidle, -⟩ := stepClaim_eq hstep
        rw [← hpq] at hidle
        exact absurd hold (not_mem_held_of_idle hidle)
      · exact absurd (hid ▸ hids) (hexcl p hpq hname c hold)
  · rw [hs] at hcl ht'
    obtain ⟨t, -, -, hrow, -, hattempt, -⟩ := mem_claimedCommands hbatch hcl
    obtain rfl : leasedTask (cfg.worker p) now t = t' := Option.some_inj.mp (hrow.symm.trans ht')
    exact hattempt.symm

/-- So does a run of such steps. -/
theorem exec_leaseMatches (h : Transition.Exec (step cfg) (ExclusiveClaim cfg) initial sys) :
    LeaseMatches cfg sys :=
  h.invariant_with (fun p c hc => by simp [initial, Process.held] at hc)
    (fun _ hu => Exec.commandsIssued commandsIssued_initial hu)
    fun _ _ _ hissued hI hexcl hstep => leaseMatches_step hissued hI hexcl hstep

/-- Only a result whose command is the one the row is leased for is recorded. -/
theorem recordFenced_of_leaseMatches (h : LeaseMatches cfg sys) : RecordFenced cfg sys := by
  intro p c result hp now rv id t t' ht ht' hne
  obtain ⟨u, hu, hmove⟩ := record_task hp ht
  obtain rfl : u = t' := Option.some_inj.mp (hu.symm.trans ht')
  cases hmove with
  | same => exact absurd rfl hne
  | recorded hp' hid hown _ =>
    rw [hp] at hp'
    cases hp'
    have hkey : t.taskId = id := Table.key_of_get? ht
    -- the command names the task, and holds the lease of its attempt
    have htask : id = c.command.taskId := hkey.symm.trans hid.symm
    subst htask
    exact ⟨rfl, h p c (mem_held.mpr (.inr (.inr ⟨result, hp⟩))) t ht hown⟩

end System

/-- In every run of the system in which no process claims a task that a namesake has in hand,
    results are fenced to their claims. With pairwise distinct worker ids every run is one. -/
theorem record_fenced (cfg : Config) :
    (∀ sys, Transition.Exec (System.step cfg) (ExclusiveClaim cfg) .initial sys →
      RecordFenced cfg sys) ∧
    ((Function.Injective fun p => (cfg.worker p).workerId) → ∀ sys : System, sys.Reachable cfg →
      RecordFenced cfg sys) := by
  refine ⟨fun sys h => System.recordFenced_of_leaseMatches (System.exec_leaseMatches h),
    fun hinj sys hreach => ?_⟩
  have hrun : Transition.Exec (System.step cfg) (ExclusiveClaim cfg) .initial sys :=
    hreach.mono fun u a _ => exclusiveClaim_of_injective hinj u a
  exact System.recordFenced_of_leaseMatches (System.exec_leaseMatches hrun)

namespace Deployment

/-- The processes of `config` have distinct worker ids. -/
theorem workers_distinct : Function.Injective fun p => (config.worker p).workerId := by
  intro p q h
  have hlen := congrArg (fun s : String => s.toList.length) h
  simpa [config, workerNamed] using hlen

/-- Process 0 is sending task 200 when its lease runs out. Process 1 reclaims the task, and both
    have a result to record. -/
def reclaimed : List Action :=
  planned ++
  [.claim 0 (seconds 1) [200], .startSend 0, .claim 1 (seconds 40) [200], .startSend 1,
    .endSend 1 refused, .endSend 0 refused]

@[irreducible] def reclaimedState : System := after config reclaimed (by decide +kernel)

theorem reclaimedState_reachable : reclaimedState.Reachable config := by
  unfold reclaimedState
  exact after_reachable

end Deployment

open Deployment in
/-- A task that another worker has claimed again: the first result is fenced off. -/
theorem record_fenced_reclaimed : RecordFenced config reclaimedState ∧
    (reclaimedState.store.tasks.get? 200).map (·.attemptCount) = some 2 :=
  ⟨(record_fenced config).2 workers_distinct reclaimedState reclaimedState_reachable,
    by decide +kernel⟩

namespace Deployment

/-- Every process runs under the one configured name. -/
def sharedConfig : Config := { config with worker := fun _ => workerNamed "orchestrator-1" }

@[irreducible] def sharedState : System := after sharedConfig reclaimed (by decide +kernel)

theorem sharedState_reachable : sharedState.Reachable sharedConfig := by
  unfold sharedState
  exact after_reachable

end Deployment

open Deployment in
/-- The result of the first claim makes the task `FAILED` under the lease of the second. -/
theorem shared_id_records_stale_result :
    ¬ ∀ (cfg : Config) (sys : System), sys.Reachable cfg → RecordFenced cfg sys := by
  intro hclaim
  -- the result of attempt 1, over a row that is dispatching for attempt 2
  obtain ⟨⟨c, result⟩, hp, hc⟩ := (Option.any_eq_true ..).mp
    (by decide +kernel : (sharedState.processes 0).returned.any (fun r =>
      r.1.attempt = 1 ∧ r.1.command.taskId = 200 ∧
      (sharedState.store.tasks.get? 200).any (fun t => t.attemptCount = 2 ∧
        t.status = .dispatching) = true ∧
      ((recordResult (sharedConfig.worker 0) (seconds 41) 0 r.1.command r.2
        sharedState.store).tasks.get? 200).any (fun t => t.status = .failed) = true) = true)
  obtain ⟨hattempt, -, ht, ht'⟩ := of_decide_eq_true hc
  obtain ⟨t, ht, hbefore⟩ := (Option.any_eq_true ..).mp ht
  obtain ⟨t', ht', hafter⟩ := (Option.any_eq_true ..).mp ht'
  obtain ⟨hcount, hst⟩ := of_decide_eq_true hbefore
  have hne : t' ≠ t := by
    rintro rfl
    rw [of_decide_eq_true hafter] at hst
    cases hst
  -- the fence would have the attempts agree
  have hstale := (hclaim sharedConfig sharedState sharedState_reachable 0 c result hp (seconds 41) 0
    200 t t' ht ht' hne).2
  rw [hcount, hattempt] at hstale
  cases hstale

end Tomiris
