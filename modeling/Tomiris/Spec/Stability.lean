import Tomiris.Spec.Finality

/-!
# Stability of evaluation

The call of `evaluate` that finalises a run computes its result from the tasks and the policy;
later calls rebuild it from the stored row and the tasks as they are then. The two agree on
the received count as long as no further signal of the run is stored, and on the missing
capabilities only when none was missing: the rebuilt list is the one that planning recorded.

## Key results

- `received_eq_signals`: the received tasks of a run are counted by its signals
- `evaluate_stable_iff`: when later evaluations repeat the first result
-/

namespace Tomiris

open Dispatch Recovery Quorum Ingest

/-! ## Counting received tasks -/

/-- The received tasks of a run are as many as its signals. -/
theorem SignalStore.received_eq_signals {s : Store} (h : SignalStore s) (id : UUID) :
    received (s.tasksOf id) =
      (s.signals.rows.filter (fun g => g.orchestrationRunId = some id)).length := by
  -- the received tasks, and the tasks that the signals of the run answer
  have hperm : (((s.tasksOf id).filter (·.status = .signalReceived)).map (·.taskId)).Perm
      ((s.signals.rows.filter (fun g => g.orchestrationRunId = some id)).filterMap (·.taskId)) := by
    have hsub := List.filter_sublist (p := fun t => t.status = .signalReceived) (l := s.tasksOf id)
    have hnd : (((s.tasksOf id).filter (·.status = .signalReceived)).map (·.taskId)).Nodup :=
      s.tasks.nodup.sublist ((hsub.trans List.filter_sublist).map _)
    have hnd' := h.answered_once.sublist (List.filter_sublist (p := fun g : Signal =>
      g.orchestrationRunId = some id) (l := s.signals.rows) |>.filterMap (·.taskId))
    rw [List.perm_ext_iff_of_nodup hnd hnd']
    intro tid
    simp only [List.mem_map, List.mem_filter, List.mem_filterMap, decide_eq_true_eq]
    constructor
    · rintro ⟨t, ⟨ht, hst⟩, rfl⟩
      obtain ⟨hmem, hid⟩ := Store.mem_tasksOf.mp ht
      obtain ⟨g, hg, hgrun, hgid⟩ := mem_signalTaskIds.mp ((h.mem_signalTaskIds_iff hmem).mpr hst)
      exact ⟨g, ⟨hg, by rw [hgrun, hid]⟩, hgid⟩
    · rintro ⟨g, ⟨hg, hgrun⟩, hgid⟩
      obtain ⟨t, ht, hans⟩ := h.answers g hg tid hgid
      have hmem := Table.mem_of_get? ht
      have hkey : t.taskId = tid := Table.key_of_get? ht
      have hid : t.orchestrationRunId = id :=
        Option.some_inj.mp (hans.run.symm.trans hgrun)
      refine ⟨t, ⟨Store.mem_tasksOf.mpr ⟨hmem, hid⟩, ?_⟩, hkey⟩
      exact (h.received_iff t hmem).mpr ⟨g, hg, by rw [hgid, hkey]⟩
  have hlen := hperm.length_eq
  rw [List.length_map, List.length_filterMap_eq_countP] at hlen
  rw [received, List.countP_eq_length_filter, hlen, List.countP_eq_length]
  intro g hg
  obtain ⟨hmem, hrun⟩ := List.mem_filter.mp hg
  have hline := h.lineage g hmem
  rw [of_decide_eq_true hrun] at hline
  simpa using hline

/-! ## What grows and what stays -/

/-- A stored run gets no further tasks. -/
theorem StoreStep.tasksOf_length {cfg : Config} {s s' : Store} (h : StoreStep cfg s s') {id : UUID}
    {run : OrchestrationRun} (hrun : s.runs.get? id = some run) :
    (s'.tasksOf id).length = (s.tasksOf id).length := by
  rcases h.moves_or_planned with ⟨htasks, -⟩ | ⟨_, _, r, _, hpl⟩
  · have hcols := htasks.map_filter_eq (f := AgentTask.columns)
      (p := fun t => t.orchestrationRunId = id) (q := fun t => t.orchestrationRunId = id)
      (fun t t' hc => by rw [runId_of_columns hc.columns]) fun _ _ hc => hc.columns
    simpa [Store.tasksOf] using congrArg List.length hcols
  · rw [hpl.tasksOf_ne]
    rintro rfl
    rw [hpl.fresh] at hrun
    cases hrun

/-- The store at the end of a run of the system, compared with its start. -/
structure Grown (id : UUID) (s s' : Store) : Prop where
  signals : ∃ new, s'.signals.rows = s.signals.rows ++ new
  tasks : (s'.tasksOf id).length = (s.tasksOf id).length

theorem System.grown {cfg : Config} {P : System → Action → Prop} {sys sys' : System}
    (hreach : sys.Reachable cfg) (h : Transition.Exec (step cfg) P sys sys') {id : UUID}
    {run : OrchestrationRun} (hrun : sys.store.runs.get? id = some run) :
    Grown id sys.store sys'.store := by
  have hall : Grown id sys.store sys'.store ∧ ∃ r, sys'.store.runs.get? id = some r := by
    -- signals are appended, and no task joins the run
    refine h.invariant_with
      (I := fun u => Grown id sys.store u.store ∧ ∃ r, u.store.runs.get? id = some r)
      ⟨⟨⟨[], (List.append_nil _).symm⟩, rfl⟩, run, hrun⟩
      (fun u hu => hreach.exec hu) ?_
    rintro u a v hu ⟨⟨⟨new, hnew⟩, hlen⟩, r, hr⟩ - hstep
    have hs := hu.store_step hstep
    obtain ⟨more, hmore⟩ := hs.signals_append
    obtain ⟨r', hr', -⟩ := hs.run_old hr
    refine ⟨⟨⟨new ++ more, ?_⟩, ?_⟩, r', hr'⟩
    · rw [hmore, hnew, List.append_assoc]
    · rw [hs.tasksOf_length hr, hlen]
  exact hall.1

/-- The count is as before exactly when no new signal belongs to the run. -/
theorem received_eq_iff {id : UUID} {s s' : Store} (hs : SignalStore s) (hs' : SignalStore s')
    (hgrown : Grown id s s') :
    received (s'.tasksOf id) = received (s.tasksOf id) ↔
      ∀ g ∈ s'.signals.rows, g.orchestrationRunId = some id → g ∈ s.signals.rows := by
  obtain ⟨new, hnew⟩ := hgrown.signals
  rw [hs.received_eq_signals, hs'.received_eq_signals, hnew, List.filter_append,
    List.length_append]
  have hnd := s'.signals.nodup
  rw [hnew, List.map_append] at hnd
  -- the message ids are distinct, so no new signal is an old one
  have hfresh : ∀ g ∈ new, g ∉ s.signals.rows := fun g hg hold =>
    List.disjoint_of_nodup_append hnd (List.mem_map_of_mem hold) (List.mem_map_of_mem hg)
  constructor
  · intro hlen g hg hrun
    rcases List.mem_append.mp hg with hold | hg
    · exact hold
    -- equal counts leave none for the run
    · have hnil : new.filter (fun g => g.orchestrationRunId = some id) = [] :=
        List.length_eq_zero_iff.mp (by omega)
      have hmem : g ∈ new.filter (fun g => g.orchestrationRunId = some id) :=
        List.mem_filter.mpr ⟨hg, decide_eq_true hrun⟩
      rw [hnil] at hmem
      cases hmem
  · intro hold
    have hnil : new.filter (fun g => g.orchestrationRunId = some id) = [] := by
      rw [List.filter_eq_nil_iff]
      intro g hg hrun
      exact hfresh g hg (hold g (List.mem_append_right _ hg) (of_decide_eq_true hrun))
    rw [hnil, List.length_nil, Nat.add_zero]

/-! ## Repeated evaluation -/

/-- The evaluation that finalises a run, and one later on with no late ACK in between: the
    later one repeats the result if and only if the quorum was met when the run was finalised
    and no signal of the run has been stored since. -/
theorem evaluate_stable_iff {cfg : Config} {sys sys' : System} (hreach : sys.Reachable cfg)
    {now now' : Int} {id : UUID} {run : OrchestrationRun} {result result' : CompletenessResult}
    {s s' : Store} (hrun : sys.store.runs.get? id = some run)
    (hopen : finalised run.status = false)
    (heval : Tomiris.evaluate now id sys.store = some (result, s)) (hdone : result.completed = true)
    (hlater : System.Orderly cfg { sys with store := s } sys')
    (heval' : Tomiris.evaluate now' id sys'.store = some (result', s')) :
    result' = result ↔
      (∀ r ∈ run.metadata.policy.requirements, r.required = true →
        r.minimumResponses ≤ received (capabilityTasks (sys.store.tasksOf id) r)) ∧
      ∀ g ∈ sys'.store.signals.rows, g.orchestrationRunId = some id →
        g ∈ sys.store.signals.rows := by
  obtain ⟨run₁, hrun₁, hcases⟩ := evaluate_eq heval
  rw [hrun] at hrun₁
  cases hrun₁
  -- the first call decided a verdict
  obtain ⟨v, hv, hresult, hs⟩ : ∃ v, Finalises now id sys.store run v ∧
      result = computedResult run (sys.store.tasksOf id) (some v) ∧
      s = finalisedStore now id sys.store run v := by
    rcases hcases with ⟨hfin, -⟩ | ⟨-, -, rfl, -⟩ | h
    · rw [hopen] at hfin; cases hfin
    · cases hdone
    · exact h
  subst hresult hs
  have hid : run.orchestrationRunId = id := Table.key_of_get? hv.row
  have hreach₁ : System.Reachable cfg { sys with store := finalisedStore now id sys.store run v } := by
    refine Transition.Exec.tail (a := .evaluate now id) hreach trivial ?_
    simp only [System.step, evaluated, heval]
  have hstored : (finalisedStore now id sys.store run v).runs.get? id =
      some (finalisedRun now v run) := by
    have hrow := hv.row
    rw [← hid] at hrow ⊢
    exact Table.get?_set_self (a := finalisedRun now v run) hrow
  have hfinal : finalised (finalisedRun now v run).status = true := by
    rcases decide_cases hv.decided with rfl | ⟨-, -, ⟨rfl, -⟩ | ⟨rfl, -⟩⟩ <;> rfl
  -- the second call reads the row that the first one stored
  have hrow : sys'.store.runs.get? id = some (finalisedRun now v run) :=
    hlater.invariant (I := fun u => u.store.runs.get? id = some (finalisedRun now v run)) hstored
      fun _ _ _ hu hack hstep => System.finalised_step hstep hack hu hfinal
  have hresult' : result' = resultFromRun (finalisedRun now v run) (sys'.store.tasksOf id) := by
    obtain ⟨run₂, hrun₂, hcases'⟩ := evaluate_eq heval'
    rw [hrow] at hrun₂
    cases hrun₂
    rcases hcases' with ⟨-, h, -⟩ | ⟨hne, -⟩ | ⟨_, hv', -⟩
    · exact h
    · rw [hfinal] at hne; cases hne
    · have hne := hv'.unfinished
      rw [hfinal] at hne
      cases hne
  have hgrown : Grown id sys.store sys'.store :=
    ⟨(System.grown hreach₁ hlater hstored).signals, (System.grown hreach₁ hlater hstored).tasks⟩
  have hplanned : run.metadata.missingRequired = [] := by
    by_contra hmiss
    have hcrit := (hreach.verdicts.unplanned run (Table.mem_of_get? hrun) hmiss).1
    rw [hcrit] at hopen
    cases hopen
  rw [← missing_eq_nil_iff, ← received_eq_iff hreach.signalStore (hreach₁.exec hlater).signalStore
    hgrown, hresult']
  simp only [resultFromRun, computedResult, finalisedRun, Option.map_some, Option.getD_some,
    Option.isSome_some, CompletenessResult.mk.injEq, true_and, hgrown.tasks, hplanned]
  exact ⟨fun h => ⟨h.2.symm, h.1⟩, fun h => ⟨h.2, h.1.symm⟩⟩

open Deployment in
theorem evaluate_stable_iff_settled :
    ∃ result s s', Tomiris.evaluate (seconds 7) 100 answered.store = some (result, s) ∧
      Tomiris.evaluate (seconds 9) 100 s = some (result, s') := by
  obtain ⟨run, hrun, hp⟩ := (Option.any_eq_true ..).mp
    (by decide +kernel : (answered.store.runs.get? 100).any (fun run =>
      finalised run.status = false ∧ ∀ r ∈ run.metadata.policy.requirements, r.required = true →
        r.minimumResponses ≤ received (capabilityTasks (answered.store.tasksOf 100) r)) = true)
  obtain ⟨hopen, hmet⟩ := of_decide_eq_true hp
  obtain ⟨⟨result, s⟩, heval, hq⟩ := (Option.any_eq_true ..).mp
    (by decide +kernel : (Tomiris.evaluate (seconds 7) 100 answered.store).any (fun p =>
      p.1.completed = true ∧ (Tomiris.evaluate (seconds 9) 100 p.2).isSome = true) = true)
  obtain ⟨hdone, hsome⟩ := of_decide_eq_true hq
  obtain ⟨⟨result', s'⟩, heval'⟩ := Option.isSome_iff_exists.mp hsome
  -- nothing happens between the two calls
  have hlater : System.Orderly config { answered with store := s } { answered with store := s } :=
    .refl
  have hsignals : s.signals = answered.store.signals := by
    obtain ⟨_, _, ⟨-, -, h⟩ | ⟨-, -, -, h⟩ | ⟨v, -, -, h⟩⟩ := evaluate_eq heval <;> rw [h]
    rfl
  have hsame := (evaluate_stable_iff answered_reachable hrun hopen heval hdone hlater heval').mpr
    ⟨hmet, fun g hg _ => hsignals ▸ hg⟩
  exact ⟨result, s, s', heval, hsame ▸ heval'⟩

/-- Both agents have turned their commands down. -/
@[irreducible] def Deployment.bothRefused : System :=
  after config
    (planned ++ [.claim 0 (seconds 1) [200, 201]] ++ sent 0 2 refused ++ sent 0 3 refused)
    (by decide +kernel)

theorem Deployment.bothRefused_reachable : bothRefused.Reachable config := by
  unfold bothRefused
  exact after_reachable

open Deployment in
/-- The run ends `CRITICAL` for want of `trend`, which the next call no longer reports as
    missing. -/
theorem evaluate_forgets_missing :
    ¬ ∀ (cfg : Config) (sys sys' : System), sys.Reachable cfg →
      ∀ (now now' : Int) (id : UUID) (run : OrchestrationRun) (result result' : CompletenessResult)
        (s s' : Store), sys.store.runs.get? id = some run → finalised run.status = false →
        Tomiris.evaluate now id sys.store = some (result, s) → result.completed = true →
        Transition.Exec (System.step cfg) Transition.Any { sys with store := s } sys' →
        Tomiris.evaluate now' id sys'.store = some (result', s') → result' = result := by
  intro hclaim
  obtain ⟨run, hrun, hopen⟩ := (Option.any_eq_true ..).mp
    (by decide +kernel : (bothRefused.store.runs.get? 100).any (fun run =>
      finalised run.status = false) = true)
  -- the first evaluation misses `trend`, the second one nothing
  obtain ⟨⟨result, s⟩, heval, hp⟩ := (Option.any_eq_true ..).mp
    (by decide +kernel : (Tomiris.evaluate (seconds 4) 100 bothRefused.store).any (fun p =>
      p.1.completed = true ∧ p.1.missingCapabilities = ["trend"] ∧
      (Tomiris.evaluate (seconds 5) 100 p.2).map (·.1.missingCapabilities) = some []) = true)
  obtain ⟨hdone, hmissing, hlater⟩ := of_decide_eq_true hp
  obtain ⟨⟨result', s'⟩, heval', hforgot⟩ := Option.map_eq_some_iff.mp hlater
  have hsame := hclaim config bothRefused { bothRefused with store := s } bothRefused_reachable
    (seconds 4) (seconds 5) 100 run result result' s s' hrun (of_decide_eq_true hopen) heval hdone
    .refl heval'
  rw [← hsame, hforgot] at hmissing
  cases hmissing

end Tomiris
