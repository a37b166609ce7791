import Tomiris.Spec.Stability

/-!
# Early verdicts

Before the collection deadline `evaluate` finalises a run only when waiting cannot change its
decision any more. No operation leaves a final task status, so along every continuation the
received tasks of a capability never become fewer, and those received or unfinished never become
more: what has been decided stays decided, on whatever tasks the run has later.

## Key results

- `Settled.decide_eq`: the decision on settled tasks
- `early_verdict_inevitable`: every continuation confirms an early verdict, and a failed quorum is
  out of reach in all of them
-/

namespace Tomiris

open Dispatch Recovery Quorum

/-! ## Tasks that move on -/

/-- The task has kept its columns, and its status if that was final. -/
structure Advances (t t' : AgentTask) : Prop where
  columns : t'.columns = t.columns
  settled : terminal t.status = true → t'.status = t.status

namespace Advances

variable {t t' t'' : AgentTask}

theorem refl (t : AgentTask) : Advances t t := ⟨rfl, fun _ => rfl⟩

theorem trans (h : Advances t t') (h' : Advances t' t'') : Advances t t'' where
  columns := h'.columns.trans h.columns
  settled := by
    intro ht
    have hst := h.settled ht
    exact (h'.settled (by rw [hst]; exact ht)).trans hst

/-- Between settled tasks nothing has changed. -/
theorem symm (h : Advances t t') (ht : terminal t.status = true) : Advances t' t :=
  ⟨h.columns.symm, fun _ => (h.settled ht).symm⟩

/-- A signal that was received stays received. -/
theorem received (h : Advances t t') (ht : t.status = .signalReceived) :
    t'.status = .signalReceived :=
  (h.settled (by rw [ht]; rfl)).trans ht

/-- A task that is lost stays lost. -/
theorem lost (h : Advances t t') (ht : lost t.status = true) : lost t'.status = true := by
  have hterm : terminal t.status = true := by
    cases hst : t.status <;> rw [hst] at ht <;> first | rfl | cases ht
  rw [h.settled hterm]
  exact ht

end Advances

/-- The tasks of a run, now and later. -/
abbrev Advanced (tasks tasks' : List AgentTask) : Prop := List.Forall₂ Advances tasks tasks'

namespace Advanced

variable {tasks tasks' : List AgentTask}

theorem refl (tasks : List AgentTask) : Advanced tasks tasks :=
  List.forall₂_same.mpr fun t _ => .refl t

theorem trans {tasks'' : List AgentTask} (h : Advanced tasks tasks')
    (h' : Advanced tasks' tasks'') : Advanced tasks tasks'' := by
  induction h generalizing tasks'' with
  | nil =>
    cases h'
    exact .nil
  | cons hab _ ih =>
    cases h' with
    | cons hbc htail => exact .cons (hab.trans hbc) (ih htail)

/-- The tasks of a requirement advance with the others. -/
theorem capabilityTasks (h : Advanced tasks tasks') (r : CapabilityRequirement) :
    Advanced (capabilityTasks tasks r) (capabilityTasks tasks' r) := by
  refine List.rel_filter (fun t t' hadv => ?_) h
  simp only [capability_of_columns hadv.columns]

/-- Received tasks stay received. -/
theorem received_le (h : Advanced tasks tasks') : received tasks ≤ received tasks' := by
  refine List.countP_le_of_forall₂ h fun t t' hadv ht => ?_
  rw [decide_eq_true_eq] at ht ⊢
  exact hadv.received ht

/-- The tasks that are received or may still be. -/
theorem received_add_unfinished (tasks : List AgentTask) :
    received tasks + unfinished tasks = tasks.countP (fun t => !lost t.status) := by
  induction tasks with
  | nil => rfl
  | cons t rest ih =>
    simp only [received, unfinished, List.countP_cons] at ih ⊢
    have hone : ((if decide (t.status = .signalReceived) = true then 1 else 0) +
        if (!terminal t.status) = true then 1 else 0) =
          if (!Quorum.lost t.status) = true then 1 else 0 := by
      cases t.status <;> rfl
    omega

/-- A task that is lost does not come back. -/
theorem received_unfinished_le (h : Advanced tasks tasks') :
    received tasks' + unfinished tasks' ≤ received tasks + unfinished tasks := by
  rw [received_add_unfinished, received_add_unfinished]
  refine List.countP_le_of_forall₂ (List.Forall₂.flip h) fun t' t hadv ht' => ?_
  rw [Bool.not_eq_true'] at ht' ⊢
  by_contra hlost
  rw [Bool.not_eq_false] at hlost
  rw [Advances.lost hadv hlost] at ht'
  cases ht'

/-- Every later task was a task before. -/
theorem mem_new (h : Advanced tasks tasks') {t' : AgentTask} (ht' : t' ∈ tasks') :
    ∃ t ∈ tasks, Advances t t' := by
  induction h with
  | nil => cases ht'
  | @cons a b _ _ hab _ ih =>
    rcases List.mem_cons.mp ht' with rfl | ht'
    · exact ⟨a, List.mem_cons_self .., hab⟩
    · obtain ⟨t, ht, hadv⟩ := ih ht'
      exact ⟨t, List.mem_cons_of_mem _ ht, hadv⟩

/-- No task is removed. -/
theorem mem_old (h : Advanced tasks tasks') {t : AgentTask} (ht : t ∈ tasks) :
    ∃ t' ∈ tasks', Advances t t' := by
  induction h with
  | nil => cases ht
  | @cons a b _ _ hab _ ih =>
    rcases List.mem_cons.mp ht with rfl | ht
    · exact ⟨b, List.mem_cons_self .., hab⟩
    · obtain ⟨t', ht', hadv⟩ := ih ht
      exact ⟨t', List.mem_cons_of_mem _ ht', hadv⟩

/-- All received is all received later. -/
theorem allReceived (h : Advanced tasks tasks') (hall : allReceived tasks = true) :
    allReceived tasks' = true := by
  simp only [Quorum.allReceived, List.all_eq_true, decide_eq_true_eq] at hall ⊢
  intro t' ht'
  obtain ⟨t, ht, hadv⟩ := h.mem_new ht'
  exact hadv.received (hall t ht)

/-- All ended is all ended later. -/
theorem allTerminal (h : Advanced tasks tasks') (hall : allTerminal tasks = true) :
    allTerminal tasks' = true := by
  simp only [Quorum.allTerminal, List.all_eq_true] at hall ⊢
  intro t' ht'
  obtain ⟨t, ht, hadv⟩ := h.mem_new ht'
  rw [hadv.settled (hall t ht)]
  exact hall t ht

/-- A critical failure is one later. -/
theorem criticalFailure (h : Advanced tasks tasks') {reqs : List CapabilityRequirement}
    (hfail : criticalFailure tasks reqs = true) : criticalFailure tasks' reqs = true := by
  simp only [Quorum.criticalFailure, List.any_eq_true, Bool.and_eq_true] at hfail ⊢
  obtain ⟨r, hr, hcrit, t, ht, hlost⟩ := hfail
  obtain ⟨t', ht', hadv⟩ := (h.capabilityTasks r).mem_old ht
  exact ⟨r, hr, hcrit, t', ht', hadv.lost hlost⟩

/-- Settled tasks have not changed. -/
theorem symm (h : Advanced tasks tasks') (hall : Quorum.allTerminal tasks = true) :
    Advanced tasks' tasks := by
  simp only [Quorum.allTerminal, List.all_eq_true] at hall
  induction h with
  | nil => exact .nil
  | @cons a b _ _ hab _ ih =>
    refine .cons (hab.symm (hall a (List.mem_cons_self ..))) (ih fun t ht => ?_)
    exact hall t (List.mem_cons_of_mem _ ht)

/-- A requirement that has become impossible to meet stays short, whatever its tasks do. -/
theorem short_of_impossible (h : Advanced tasks tasks') {r : CapabilityRequirement}
    (hr : r.required = true) (hlt : received (Quorum.capabilityTasks tasks r) +
      unfinished (Quorum.capabilityTasks tasks r) < r.minimumResponses) :
    received (Quorum.capabilityTasks tasks' r) + unfinished (Quorum.capabilityTasks tasks' r) <
      r.minimumResponses ∧ short tasks' r = true := by
  have hle := (h.capabilityTasks r).received_unfinished_le
  refine ⟨by omega, ?_⟩
  simp only [short, hr, Bool.true_and, decide_eq_true_eq]
  omega

end Advanced

/-! ## The decision -/

/-- A required capability of the run that can no longer get its minimum of answers. -/
def OutOfReach (run : OrchestrationRun) (tasks : List AgentTask) (r : CapabilityRequirement) :
    Prop :=
  r ∈ run.metadata.policy.requirements ∧ r.required = true ∧
    received (capabilityTasks tasks r) + unfinished (capabilityTasks tasks r) < r.minimumResponses

/-- What is out of reach is missing, and cannot be met any more. -/
theorem OutOfReach.missing {run : OrchestrationRun} {tasks : List AgentTask}
    {r : CapabilityRequirement} (h : OutOfReach run tasks r) :
    r.capability ∈ missing tasks run.metadata.policy.requirements ∧
      impossible tasks run.metadata.policy.requirements = true := by
  obtain ⟨hmem, hreq, hlt⟩ := h
  have hshort : short tasks r = true := by
    simp only [short, hreq, Bool.true_and, decide_eq_true_eq]
    omega
  constructor
  · exact List.mem_map_of_mem (List.mem_filter.mpr ⟨hmem, hshort⟩)
  · simp only [impossible, List.any_eq_true, Bool.and_eq_true, decide_eq_true_eq]
    exact ⟨r, hmem, hshort, hlt⟩

/-- The condition of the quorum branch of `evaluate` before the deadline. -/
def QuorumFailed (run : OrchestrationRun) (tasks : List AgentTask) : Prop :=
  missing tasks run.metadata.policy.requirements ≠ [] ∧
    (impossible tasks run.metadata.policy.requirements = true ∨ allTerminal tasks = true)

/-- Before the deadline the quorum has failed only over a capability that is out of reach. -/
theorem QuorumFailed.outOfReach {run : OrchestrationRun} {tasks : List AgentTask}
    (h : QuorumFailed run tasks) : ∃ r, OutOfReach run tasks r := by
  obtain ⟨hmiss, himp | hterm⟩ := h
  · simp only [impossible, List.any_eq_true, Bool.and_eq_true, decide_eq_true_eq, short] at himp
    obtain ⟨r, hr, hshort, hlt⟩ := himp
    exact ⟨r, hr, hshort.1, hlt⟩
  · -- nothing is unfinished, so what is short stays so
    obtain ⟨c, hc⟩ := List.exists_mem_of_ne_nil _ hmiss
    obtain ⟨r, hr, -⟩ := List.mem_map.mp hc
    obtain ⟨hr, hshort⟩ := List.mem_filter.mp hr
    simp only [short, Bool.and_eq_true, decide_eq_true_eq] at hshort
    have hzero : unfinished (capabilityTasks tasks r) = 0 := by
      simp only [unfinished, List.countP_eq_zero, capabilityTasks, List.mem_filter]
      simp only [allTerminal, List.all_eq_true] at hterm
      intro t ht
      simp [hterm t ht.1]
    exact ⟨r, hr, hshort.1, by omega⟩

/-- The early decisions, each with what settles it. -/
theorem decide_early {now : Int} {run : OrchestrationRun} {tasks : List AgentTask} {v : Verdict}
    (h : Quorum.decide now run tasks = some v) (hearly : now < run.collectionDeadline) :
    v = criticalVerdict ∧ ((∃ r, OutOfReach run tasks r) ∨
        criticalFailure tasks run.metadata.policy.requirements = true) ∨
      allTerminal tasks = true ∧ missing tasks run.metadata.policy.requirements = [] ∧
        criticalFailure tasks run.metadata.policy.requirements = false := by
  have hdeadline : ¬ run.collectionDeadline ≤ now := by omega
  unfold Quorum.decide at h
  simp only [hdeadline, false_or, or_false] at h
  split at h
  · rename_i hquorum
    cases h
    exact .inl ⟨rfl, .inl (QuorumFailed.outOfReach hquorum)⟩
  · rename_i hquorum
    split at h
    · rename_i hcrit
      cases h
      exact .inl ⟨rfl, .inr hcrit⟩
    · rename_i hcrit
      rw [Bool.not_eq_true] at hcrit
      -- what is left before the deadline are the branches for settled tasks
      have hterm : allTerminal tasks = true := by
        split at h
        · rename_i hfull
          exact allTerminal_of_allReceived hfull.1
        · split at h
          · assumption
          · cases h
      refine .inr ⟨hterm, ?_, hcrit⟩
      by_contra hmiss
      exact hquorum ⟨hmiss, .inr hterm⟩

/-- Once all tasks are settled with the quorum met, the clock plays no part. -/
theorem decide_settled {now now' : Int} {run run' : OrchestrationRun}
    {tasks tasks' : List AgentTask} (hcols : run'.columns = run.columns) (h : Advanced tasks tasks')
    (hterm : allTerminal tasks = true)
    (hmiss : missing tasks run.metadata.policy.requirements = [])
    (hcrit : criticalFailure tasks run.metadata.policy.requirements = false) :
    Quorum.decide now' run' tasks' = Quorum.decide now run tasks := by
  -- settled tasks stand still, so both ways round nothing has moved
  have hback := h.symm hterm
  have hterm' := h.allTerminal hterm
  have hmiss' : missing tasks' run.metadata.policy.requirements = [] := by
    rw [missing_eq_nil_iff] at hmiss ⊢
    intro r hr hreq
    exact (hmiss r hr hreq).trans (h.capabilityTasks r).received_le
  have hcrit' : criticalFailure tasks' run.metadata.policy.requirements = false := by
    rw [← Bool.not_eq_true]
    intro hfail
    rw [hback.criticalFailure hfail] at hcrit
    cases hcrit
  have hall : allReceived tasks' = allReceived tasks :=
    Bool.eq_iff_iff.mpr ⟨hback.allReceived, h.allReceived⟩
  simp only [Quorum.decide, metadata_of_columns hcols, hmiss, hmiss', hcrit, hcrit', hterm, hterm',
    hall, ne_eq, not_true_eq_false, false_and, if_false, true_or, if_true, Bool.false_eq_true]

/-- An early decision is repeated on the tasks of the run at any later time. -/
theorem Advanced.decide_eq {now now' : Int} {run run' : OrchestrationRun}
    {tasks tasks' : List AgentTask} {v : Verdict} (h : Advanced tasks tasks')
    (hcols : run'.columns = run.columns) (hv : Quorum.decide now run tasks = some v)
    (hearly : now < run.collectionDeadline) : Quorum.decide now' run' tasks' = some v := by
  have hreqs : run'.metadata = run.metadata := metadata_of_columns hcols
  rcases decide_early hv hearly with ⟨rfl, ⟨r, hr⟩ | hcrit⟩ | ⟨hterm, hmiss, hcrit⟩
  · -- the capability is out of reach later as well
    have hlater : OutOfReach run' tasks' r :=
      ⟨by rw [hreqs]; exact hr.1, hr.2.1, (h.short_of_impossible hr.2.1 hr.2.2).1⟩
    obtain ⟨hmiss, himp⟩ := hlater.missing
    exact if_pos ⟨List.ne_nil_of_mem hmiss, .inl himp⟩
  · have hlater := h.criticalFailure hcrit
    simp only [Quorum.decide, hreqs, hlater, if_true]
    split <;> rfl
  · rw [decide_settled hcols h hterm hmiss hcrit]
    exact hv

/-! ## Continuations -/

/-- The run and its tasks at a later point of a run of the system. -/
structure Continued (runId : UUID) (run : OrchestrationRun) (s s' : Store) : Prop where
  run : ∃ run', s'.runs.get? runId = some run' ∧ run'.columns = run.columns
  tasks : Advanced (s.tasksOf runId) (s'.tasksOf runId)

/-- A step of the store moves the tasks of a stored run on. -/
theorem StoreStep.advanced {cfg : Config} {s s' : Store} (h : StoreStep cfg s s')
    (hsig : SignalStore s) {runId : UUID} {run : OrchestrationRun}
    (hrun : s.runs.get? runId = some run) : Advanced (s.tasksOf runId) (s'.tasksOf runId) := by
  rcases h.moves_or_planned with ⟨htasks, -⟩ | ⟨_, _, r, _, hpl⟩
  · have hadv : s.tasks.Moves Advances s'.tasks := htasks.mono fun t ht t' hc =>
      ⟨hc.columns, hc.status_of_terminal hsig ht⟩
    refine List.rel_filter (fun t t' htt' => ?_) (hadv.imp fun _ _ hkey => hkey.2)
    simp only [runId_of_columns htt'.columns]
  -- the id of a new run was not taken, so its tasks are not among these
  · have hne : runId ≠ r.orchestrationRunId := by
      rintro rfl
      rw [hpl.fresh] at hrun
      cases hrun
    rw [hpl.tasksOf_ne hne]
    exact .refl _

/-- In every run from there the run and its tasks have advanced. -/
theorem System.continued {cfg : Config} {P : System → Action → Prop} {sys sys' : System}
    (hreach : sys.Reachable cfg) (h : Transition.Exec (step cfg) P sys sys') {runId : UUID}
    {run : OrchestrationRun} (hrun : sys.store.runs.get? runId = some run) :
    Continued runId run sys.store sys'.store := by
  apply Transition.Exec.invariant_with
    (I := fun u => Continued runId run sys.store u.store) h
    ⟨⟨run, hrun, rfl⟩, .refl _⟩ fun u hu => hreach.exec hu
  intro u a v hu hcont _ hstep
  obtain ⟨r, hr, hcols⟩ := hcont.run
  have hs := hu.store_step hstep
  obtain ⟨r', hr', hcols'⟩ := hs.run_old hr
  exact ⟨⟨r', hr', hcols'.trans hcols⟩, hcont.tasks.trans (hs.advanced hu.signalStore hr)⟩

/-- What `evaluate` decides before the collection deadline, it would decide at any later time and
    after any further operations. If it has found the quorum failed, some required capability
    that it reports missing never gets its minimum of answers. -/
theorem early_verdict_inevitable {cfg : Config} {sys : System} (hreach : sys.Reachable cfg)
    {now : Int} {runId : UUID} {run : OrchestrationRun} {v : Verdict}
    (hfin : Finalises now runId sys.store run v) (hearly : now < run.collectionDeadline) :
    (∀ sys', Transition.Exec (System.step cfg) Transition.Any sys sys' →
      ∃ run', sys'.store.runs.get? runId = some run' ∧
        ∀ now', now ≤ now' → Quorum.decide now' run' (sys'.store.tasksOf runId) = some v) ∧
    (QuorumFailed run (sys.store.tasksOf runId) →
      ∃ r ∈ run.metadata.policy.requirements, r.required = true ∧
        r.capability ∈ missing (sys.store.tasksOf runId) run.metadata.policy.requirements ∧
        ∀ sys', Transition.Exec (System.step cfg) Transition.Any sys sys' →
          received (capabilityTasks (sys'.store.tasksOf runId) r) < r.minimumResponses) := by
  constructor
  · intro sys' hrun
    -- whatever happens later, the tasks only go on from here
    have hcont := System.continued hreach hrun hfin.row
    obtain ⟨run', hrun', hcols⟩ := hcont.run
    refine ⟨run', hrun', fun now' _ => ?_⟩
    exact hcont.tasks.decide_eq hcols hfin.decided hearly
  · intro hfailed
    -- the requirement that is out of reach now stays so
    obtain ⟨r, hr⟩ := hfailed.outOfReach
    refine ⟨r, hr.1, hr.2.1, hr.missing.1, fun sys' hrun => ?_⟩
    have hcont := System.continued hreach hrun hfin.row
    have hshort := (hcont.tasks.short_of_impossible hr.2.1 hr.2.2).1
    omega

open Deployment in
/-- Both agents have refused their tasks, and the run ends `CRITICAL` long before its deadline. -/
theorem early_verdict_inevitable_refused :
    ∃ run, bothRefused.store.runs.get? 100 = some run ∧
      ∀ sys', Transition.Exec (System.step config) Transition.Any bothRefused sys' →
        ∃ run', sys'.store.runs.get? 100 = some run' ∧ ∀ now', seconds 4 ≤ now' →
          Quorum.decide now' run' (sys'.store.tasksOf 100) = some criticalVerdict := by
  obtain ⟨run, hrun, hp⟩ := (Option.any_eq_true ..).mp
    (by decide +kernel : (bothRefused.store.runs.get? 100).any (fun run =>
      finalised run.status = false ∧ seconds 4 < run.collectionDeadline ∧
        Quorum.decide (seconds 4) run (bothRefused.store.tasksOf 100) = some criticalVerdict)
      = true)
  obtain ⟨hopen, hearly, hdecided⟩ := of_decide_eq_true hp
  have hfin : Finalises (seconds 4) 100 bothRefused.store run criticalVerdict :=
    ⟨hrun, hopen, hdecided⟩
  exact ⟨run, hrun, (early_verdict_inevitable bothRefused_reachable hfin hearly).1⟩

end Tomiris
