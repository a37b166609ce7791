import Tomiris.Spec.Finality
import Tomiris.Spec.ReadCommitted

/-!
# Terminal task states under concurrent transactions

A recovery pass decides by the task rows as it has loaded them and writes without looking
again. Its run locks keep signals and evaluations away, but a worker can end a task in
between: recording a failed dispatch and expiring a deadline need no lock that the pass
holds.

## Key results

- `Concurrent.terminal_absorbing`: a commit overwrites a final status exactly when another
  transaction has ended one of its tasks since it was loaded
- `recovery_revives_failed_task`: a task that has failed for good is sent again
-/

namespace Tomiris

open Dispatch Recovery Quorum Ingest

namespace Concurrent

variable {cfg : Config} {τ τ' : Concurrent}

/-! ## Final statuses -/

/-- The statuses that a task is to keep. -/
def settled : TaskStatus → Bool
  | .failed | .timedOut | .cancelled | .signalReceived => true
  | _ => false

/-- What is settled has ended. -/
theorem terminal_of_settled {st : TaskStatus} (h : settled st = true) : terminal st = true := by
  cases st with
  | failed | timedOut | cancelled | signalReceived => rfl
  | _ => cases h

/-- The action keeps the final statuses of the committed rows, except that recovery may complete
    a task whose signal is stored. -/
def Absorbs (τ : Concurrent) (a : ConcurrentAction) (τ' : Concurrent) : Prop :=
  ∀ id t, τ.sys.store.tasks.get? id = some t → settled t.status = true →
    ∃ t', τ'.sys.store.tasks.get? id = some t' ∧ (t'.status = t.status ∨
      (∃ k, a = .commit k) ∧ t'.status = .signalReceived ∧
        ∃ g ∈ τ.sys.store.signals.rows, g.taskId = some id)

/-- The task has ended without a result. -/
def lostFor : TaskStatus → Bool
  | .failed | .timedOut | .cancelled => true
  | _ => false

/-- If the action commits a pass, none of the tasks that the pass is about to change has ended
    without a result since it was loaded, unless the pass gives it that very status or completes
    it. -/
def KeepsEnded (τ : Concurrent) : ConcurrentAction → Prop
  | .commit k => ∀ pass ∈ τ.passes[k]?, ∀ w ∈ passWrites pass.now pass.reads,
      ∀ cur ∈ τ.sys.store.tasks.get? w.1.taskId, lostFor cur.status = true →
        w.2.status = .signalReceived ∨ w.2.status = cur.status
  | _ => True

instance decidableKeepsEnded (τ : Concurrent) : ∀ a, Decidable (KeepsEnded τ a)
  | .commit k => inferInstanceAs (Decidable (∀ pass ∈ τ.passes[k]?,
      ∀ w ∈ passWrites pass.now pass.reads, ∀ cur ∈ τ.sys.store.tasks.get? w.1.taskId,
        lostFor cur.status = true → w.2.status = .signalReceived ∨ w.2.status = cur.status))
  | .act _ | .begin .. | .read _ | .abort _ => .isTrue trivial

/-- Stored signals stay. -/
theorem signals_grow (h : PassesInv τ) {a : ConcurrentAction} (hstep : step cfg τ a = some τ') :
    ∀ g ∈ τ.sys.store.signals.rows, g ∈ τ'.sys.store.signals.rows := by
  intro g hg
  cases a with
  | act a =>
    obtain ⟨-, hsys, -⟩ := step_act hstep
    -- a step of the system appends signals
    obtain ⟨new, hnew⟩ := (System.step_store h.issued hsys).signals_append
    rw [hnew]
    exact List.mem_append_left _ hg
  | begin now ids =>
    obtain ⟨-, -, rfl⟩ := stepBegin_eq hstep
    exact hg
  | read k =>
    obtain ⟨_, _, _, _, -, rfl⟩ := stepRead_eq hstep
    exact hg
  | commit k =>
    obtain ⟨now, reads, -, rfl⟩ := stepCommit_eq hstep
    -- what a pass writes are tasks and runs
    rw [(foldl_commit now reads τ.sys.store).2]
    exact hg
  | abort k =>
    obtain rfl := (Option.some_inj.mp hstep).symm
    exact hg

/-- Every step keeps the final statuses, except for the commits that `KeepsEnded` excludes. -/
theorem PassesInv.absorbs_iff (h : PassesInv τ) {a : ConcurrentAction}
    (hstep : step cfg τ a = some τ') : Absorbs τ a τ' ↔ KeepsEnded τ a := by
  have hsame : τ'.sys = τ.sys → Absorbs τ a τ' := by
    intro hs id t ht _
    rw [hs]
    exact ⟨t, ht, .inl rfl⟩
  cases a with
  | act a =>
    refine iff_of_true (fun id t ht hst => ?_) trivial
    obtain ⟨hfree, hsys, -⟩ := step_act hstep
    obtain ⟨t', ht', hmove⟩ := System.task_step hsys ht
    rcases hmove.status_of_terminal (terminal_of_settled hst) with hs | ⟨now, ids, rfl⟩
    · exact ⟨t', ht', .inl hs⟩
    · exact absurd rfl (hfree.notRecover now ids)
  | begin now ids =>
    obtain ⟨-, -, rfl⟩ := stepBegin_eq hstep
    exact iff_of_true (hsame rfl) trivial
  | read k =>
    obtain ⟨_, _, _, _, -, rfl⟩ := stepRead_eq hstep
    exact iff_of_true (hsame rfl) trivial
  | abort k =>
    obtain rfl := (Option.some_inj.mp hstep).symm
    exact iff_of_true (hsame rfl) trivial
  | commit k =>
    obtain ⟨now, reads, hk, rfl⟩ := stepCommit_eq hstep
    have hpass := List.mem_of_getElem? hk
    obtain ⟨htasks, -⟩ := foldl_commit now reads τ.sys.store
    constructor
    · intro habs pass hpk w hw cur hcur hlost
      obtain rfl : (⟨now, [], reads⟩ : Pass) = pass := Option.some_inj.mp (hk.symm.trans hpk)
      have hset : settled cur.status = true := by
        generalize cur.status = st at hlost
        cases st with
        | failed | timedOut | cancelled => rfl
        | _ => cases hlost
      obtain ⟨t', ht', hst⟩ := habs w.1.taskId cur hcur hset
      rw [htasks, foldl_writeTask_of_mem (h.writes_nodup hpass) hw hcur] at ht'
      obtain rfl := Option.some_inj.mp ht'
      -- recovery changes the status of every row that it writes
      obtain ⟨r, -, -, hrec⟩ := mem_passWrites.mp hw
      have hstatus : (changedColumns w.1 w.2 cur).status = w.2.status :=
        written_of_ne (recoverTask_status_ne hrec) _
      rw [hstatus] at hst
      exact hst.elim .inr fun hrecv => .inl hrecv.2.1
    · intro hkeeps id cur hcur hset
      rw [htasks]
      rcases commit_row h hpass hcur with ⟨w, hw, rfl, hrow⟩ | ⟨-, hrow⟩
      · obtain ⟨r, hr, hmem, hrec⟩ := mem_passWrites.mp hw
        have hstatus : (changedColumns w.1 w.2 cur).status = w.2.status :=
          written_of_ne (recoverTask_status_ne hrec) _
        have hl := h.loaded _ hpass r hr
        refine ⟨_, hrow, ?_⟩
        rw [hstatus]
        cases hlost : lostFor cur.status with
        | true =>
          rcases hkeeps _ hk w hw cur hcur hlost with hst | hst
          · exact .inr ⟨⟨k, rfl⟩, hst, hl.signed _ (recoverTask_received hrec hst)⟩
          · exact .inl hst
        | false =>
          -- a completed task was completed when it was loaded, and left alone
          have hcomplete : cur.status = .signalReceived := by
            generalize cur.status = st at hset hlost
            cases st with
            | signalReceived => rfl
            | failed | timedOut | cancelled => cases hlost
            | _ => cases hset
          obtain ⟨-, cur', hcur', -, hrecv⟩ := hl.row w.1 hmem
          obtain rfl : cur = cur' := Option.some_inj.mp (hcur.symm.trans hcur')
          rw [recoverTask_of_received (hrecv hcomplete)] at hrec
          cases hrec
      · exact ⟨cur, hrow, .inl rfl⟩

/-- Final statuses are absorbing in every step but the commits that `KeepsEnded` excludes, and
    so along all runs without these commits. -/
theorem terminal_absorbing (cfg : Config) :
    (∀ τ a τ', Reachable cfg τ → step cfg τ a = some τ' → (Absorbs τ a τ' ↔ KeepsEnded τ a)) ∧
    ∀ τ τ', Reachable cfg τ → Transition.Exec (step cfg) KeepsEnded τ τ' →
      ∀ id t, τ.sys.store.tasks.get? id = some t → settled t.status = true →
        ∃ t', τ'.sys.store.tasks.get? id = some t' ∧ (t'.status = t.status ∨
          t'.status = .signalReceived ∧ ∃ g ∈ τ'.sys.store.signals.rows, g.taskId = some id) := by
  refine ⟨fun τ a τ' hreach hstep => hreach.passesInv.absorbs_iff hstep, ?_⟩
  intro τ τ' hreach hrun id t ht hset
  refine hrun.invariant_with
    (I := fun u => ∃ t', u.sys.store.tasks.get? id = some t' ∧ (t'.status = t.status ∨
      t'.status = .signalReceived ∧ ∃ g ∈ u.sys.store.signals.rows, g.taskId = some id))
    ⟨t, ht, .inl rfl⟩ (fun u hu => Reachable.passesInv (Transition.Exec.trans hreach hu.any)) ?_
  rintro u a v hinv ⟨t', ht', hst⟩ hkeeps hstep
  -- a settled task has its old status, or its signal has come: it is settled still
  have hset' : settled t'.status = true := by
    rcases hst with hst | ⟨hst, -⟩
    · rw [hst]
      exact hset
    · rw [hst]
      rfl
  obtain ⟨t'', ht'', hst''⟩ := (hinv.absorbs_iff hstep).mpr hkeeps id t' ht' hset'
  -- the signal that completed it stays in the store
  have hgrow := signals_grow hinv hstep
  refine ⟨t'', ht'', ?_⟩
  rcases hst'' with heq | ⟨-, hrecv, g, hg, hgid⟩
  · rcases hst with hst | ⟨hst, g, hg, hgid⟩
    · exact .inl (heq.trans hst)
    · exact .inr ⟨heq.trans hst, g, hgrow g hg, hgid⟩
  · exact .inr ⟨hrecv, g, hgrow g hg, hgid⟩

end Concurrent

namespace Deployment

/-- The command of task 200 has come back with a refusal just when its lease has run out, and a
    recovery pass has loaded the task. -/
def loadedExpired : List ConcurrentAction :=
  planned.map .act ++
  [.act (.claim 0 (seconds 1) [200]), .act (.startSend 0), .act (.endSend 0 refused),
    .begin (seconds 32) [100], .read 0]

/-- The refusal is not recorded before the pass commits. -/
@[irreducible] def recoveredFirst : Concurrent :=
  Transition.stateAfter (Concurrent.step config) Transition.Any {} loadedExpired (by decide +kernel)

theorem recoveredFirst_reachable : recoveredFirst.Reachable config := by
  unfold recoveredFirst
  exact Transition.exec_stateAfter

/-- The refusal is recorded while the pass is open. -/
@[irreducible] def failedBetween : Concurrent :=
  Transition.stateAfter (Concurrent.step config) Transition.Any {}
    (loadedExpired ++ [.act (.record 0 (seconds 32) 0)]) (by decide +kernel)

theorem failedBetween_reachable : failedBetween.Reachable config := by
  unfold failedBetween
  exact Transition.exec_stateAfter

end Deployment

open Deployment in
/-- The pass commits what it has read, and nobody came in between. -/
theorem terminal_absorbing_recoveredFirst :
    ∃ τ', Concurrent.step config recoveredFirst (.commit 0) = some τ' ∧
      Concurrent.Absorbs recoveredFirst (.commit 0) τ' ∧
      (τ'.sys.store.tasks.get? 200).map (·.status) = some .retry := by
  obtain ⟨τ', hstep, hp⟩ := (Option.any_eq_true ..).mp
    (by decide +kernel : (Concurrent.step config recoveredFirst (.commit 0)).any (fun τ' =>
      (τ'.sys.store.tasks.get? 200).map (·.status) = some .retry ∧
      Concurrent.KeepsEnded recoveredFirst (.commit 0)) = true)
  obtain ⟨hretry, hkeeps⟩ := of_decide_eq_true hp
  exact ⟨τ', hstep, ((Concurrent.terminal_absorbing config).1 _ _ _ recoveredFirst_reachable
    hstep).mpr hkeeps, hretry⟩

open Deployment in
/-- The task has `FAILED` for good, and the pass commits `RETRY` over that. -/
theorem recovery_revives_failed_task :
    ¬ ∀ (cfg : Config) (τ : Concurrent), τ.Reachable cfg → ∀ a τ',
      Concurrent.step cfg τ a = some τ' → Concurrent.Absorbs τ a τ' := by
  intro hclaim
  -- the pass commits `RETRY`
  obtain ⟨τ', hstep, hp⟩ := (Option.any_eq_true ..).mp
    (by decide +kernel : (Concurrent.step config failedBetween (.commit 0)).any (fun τ' =>
      (τ'.sys.store.tasks.get? 200).map (·.status) = some .retry) = true)
  -- over `FAILED`
  obtain ⟨t, ht, hfailed⟩ := Option.map_eq_some_iff.mp
    (by decide +kernel : (failedBetween.sys.store.tasks.get? 200).map (·.status) = some .failed)
  obtain ⟨t', ht', hst⟩ := hclaim config failedBetween failedBetween_reachable _ τ' hstep 200 t ht
    (by rw [hfailed]; rfl)
  have hretry := of_decide_eq_true hp
  rw [ht', Option.map_some, Option.some_inj] at hretry
  rcases hst with hst | ⟨-, hst, -⟩
  · rw [hretry, hfailed] at hst
    cases hst
  · rw [hretry] at hst
    cases hst

end Tomiris
