import Tomiris.Workers
import Tomiris.Spec.Finality
import Tomiris.Spec.Idempotence
import Mathlib.Data.Finset.Card

/-!
# Recovery under a batch limit

A recovery pass looks at no more runs than its limit, the oldest first, and the worker loops of
all processes work on the same runs, while new ones are planned and late ACKs reopen
finalised ones. An overdue run has its turn all the same. Its backlog are the unfinished runs
that are no younger. Every pass of a worker takes a whole batch out of it, new runs never
enter it, and a late ACK returns at most one run.

## Key results

- `exec_sys`: the loops take no step that the system cannot take
- `backlog_step`: only a late ACK puts a run back
- `overdue_run_drains`: after enough passes the run has been finalised
-/

namespace Tomiris

open Dispatch Recovery Quorum

/-! ## What the loops do to the system -/

namespace Workers

variable {cfg : Config} {w w' : Workers}

/-- A step of a worker is the next action of its loop, made in the system. -/
theorem step_worker {p : Nat} {a : Action} (h : step cfg w (.worker p a) = some w') :
    ∃ phase, (w.phase p).next p w.sys a = some phase ∧ w.sys.step cfg a = some w'.sys ∧
      w'.phase = Function.update w.phase p phase ∧
      w'.passes = (if phase = .expire then Function.update w.passes p (w.passes p + 1)
        else w.passes) ∧
      w'.reopened = w.reopened + lateAcks cfg w.sys a := by
  simp only [step, Option.bind_eq_some_iff, Option.map_eq_some_iff] at h
  obtain ⟨phase, hnext, sys, hsys, rfl⟩ := h
  exact ⟨phase, hnext, hsys, rfl, rfl, rfl⟩

/-- Another step is an action of no worker. -/
theorem step_other {a : Action} (h : step cfg w (.other a) = some w') :
    a.ofProcess = false ∧ ∃ sys, w.sys.step cfg a = some sys ∧ w' = { w with sys } := by
  simp only [step] at h
  split at h
  · cases h
  · rename_i hown
    obtain ⟨sys, hsys, rfl⟩ := Option.map_eq_some_iff.mp h
    exact ⟨by simpa using hown, sys, hsys, rfl⟩

/-- Every step is one of the system. -/
theorem step_sys {a : WorkersAction} (h : step cfg w a = some w') :
    w.sys.step cfg a.action = some w'.sys := by
  cases a with
  | worker p a =>
    obtain ⟨_, _, hsys, _⟩ := step_worker h
    exact hsys
  | other a =>
    obtain ⟨_, sys, hsys, rfl⟩ := step_other h
    exact hsys

/-- What the loops do is a run of the system. -/
theorem exec_sys {P : Workers → WorkersAction → Prop} (h : Transition.Exec (step cfg) P w w') :
    Transition.Exec (System.step cfg) Transition.Any w.sys w'.sys := by
  induction h with
  | refl => exact .refl
  | tail _ _ hstep ih => exact ih.tail trivial (step_sys hstep)

/-- No action outside of `dispatch_once` records an ACK. -/
theorem lateAcks_other {a : Action} (h : a.ofProcess = false) (sys : System) :
    lateAcks cfg sys a = 0 := by
  cases a with
  | record p now rv => cases h
  | _ => rfl

end Workers

/-! ## Run rows -/

/-- A row after a step was there before, or the step has planned it. -/
theorem System.run_origin {cfg : Config} {sys sys' : System} {a : Action}
    (hissued : CommandsIssued sys) (hstep : step cfg sys a = some sys') {id : UUID}
    {r' : OrchestrationRun} (hr' : sys'.store.runs.get? id = some r') :
    (∃ r, sys.store.runs.get? id = some r ∧ RunMove sys.store r r') ∨
      ∃ now args draws, a = .create now args draws ∧ r'.createdAt = now := by
  have heff := store_effect hstep
  generalize sys'.store = s' at heff hr'
  have hmoved : Worked sys.store s' →
      ∃ r, sys.store.runs.get? id = some r ∧ RunMove sys.store r r' := by
    intro hw
    obtain ⟨r, hr, hmove⟩ := hw.runs.get?_new hr'
    exact ⟨r, hr, hmove⟩
  cases heff with
  | same h => exact .inl (hmoved h.worked)
  | @planned now args draws _ run new h =>
    cases hold : sys.store.runs.get? id with
    | some r =>
      have hkept := Table.get?_append h.runs hold
      have hrr : r' = r := Option.some_inj.mp (hr'.symm.trans hkept)
      exact .inl ⟨r, rfl, hrr ▸ .keep⟩
    | none =>
      have hmem := Table.mem_of_get? hr'
      rw [h.runs, List.mem_append, List.mem_singleton] at hmem
      rcases hmem with hmem | rfl
      · -- the key is new
        have hkey : r'.orchestrationRunId = id := Table.key_of_get? hr'
        have hget : sys.store.runs.get? r'.orchestrationRunId = some r' := Table.get?_of_mem hmem
        rw [hkey, hold] at hget
        cases hget
      · obtain ⟨_, _, _, hrow⟩ := h.row
        exact .inr ⟨now, args, draws, rfl, by rw [hrow]; rfl⟩
  | claimed hbatch => exact .inl (hmoved (claim_worked _ _ hbatch))
  | @recorded p now rv c result hp =>
    obtain ⟨t, ht, hiss⟩ := hissued p c (mem_held.mpr (.inr (.inr ⟨result, hp⟩)))
    exact .inl (hmoved (recordResult_worked (cfg.worker p) now rv result ht hiss))
  | expired hbatch => exact .inl (hmoved (expire_worked _ hbatch))
  | recovered hbatch => exact .inl (hmoved (recoverRuns_worked _ hbatch))
  | evaluated hv => exact .inl (hmoved hv.worked)
  | ingested _ hst =>
    rw [hst.runs] at hr'
    exact .inl ⟨r', hr', .keep⟩
  | rejected => exact .inl ⟨r', hr', .keep⟩

/-! ## The backlog of a run -/

/-- The unfinished runs created no later than the given time. -/
def backlog (created : Int) (s : Store) : Finset UUID :=
  (((unfinishedRuns s).filter (·.createdAt ≤ created)).map (·.orchestrationRunId)).toFinset

/-- The backlog has the unfinished runs that are no younger. -/
theorem mem_backlog {created : Int} {s : Store} {id : UUID} :
    id ∈ backlog created s ↔
      ∃ r, s.runs.get? id = some r ∧ finalised r.status = false ∧ r.createdAt ≤ created := by
  simp only [backlog, List.mem_toFinset, List.mem_map, List.mem_filter, mem_unfinishedRuns,
    recoverable_eq, Bool.not_eq_true', decide_eq_true_eq]
  constructor
  · intro h
    obtain ⟨r, ⟨⟨hmem, hopen⟩, hcreated⟩, rfl⟩ := h
    exact ⟨r, Table.get?_of_mem hmem, hopen, hcreated⟩
  · intro h
    obtain ⟨r, hr, hopen, hcreated⟩ := h
    exact ⟨r, ⟨⟨Table.mem_of_get? hr, hopen⟩, hcreated⟩, Table.key_of_get? hr⟩

/-- Every run created no later than `created` is past its deadline at `latest`. -/
def OverdueRuns (created latest : Int) (s : Store) : Prop :=
  ∀ r ∈ s.runs.rows, r.createdAt ≤ created → r.collectionDeadline ≤ latest

/-- The action plans no run that is as old as this. -/
def PlansLater (created : Int) (a : Action) : Prop :=
  ∀ now args draws, a = .create now args draws → created < now

/-- An overdue run stays overdue while younger ones are planned. -/
theorem overdueRuns_step {cfg : Config} {sys sys' : System} {a : Action}
    (hissued : CommandsIssued sys) (hstep : System.step cfg sys a = some sys')
    {created latest : Int} (hlater : PlansLater created a)
    (h : OverdueRuns created latest sys.store) : OverdueRuns created latest sys'.store := by
  intro r' hmem hcreated
  rcases System.run_origin hissued hstep (Table.get?_of_mem hmem) with
    ⟨r, hr, hmove⟩ | ⟨now, args, draws, ha, hnow⟩
  · -- neither of the two columns is written again
    have hcols := hmove.columns
    have hc : r'.createdAt = r.createdAt := congrArg RunColumns.createdAt hcols
    have hd : r'.collectionDeadline = r.collectionDeadline :=
      congrArg RunColumns.collectionDeadline hcols
    rw [hd]
    exact h r (Table.mem_of_get? hr) (by omega)
  · have := hlater now args draws ha
    omega

/-- A step takes runs out of the backlog; only an ACK for a finalised run puts one back. -/
theorem backlog_step {cfg : Config} {sys sys' : System} {a : Action}
    (hissued : CommandsIssued sys) (hstep : System.step cfg sys a = some sys') {created : Int}
    (hlater : PlansLater created a) :
    ∃ back : Finset UUID, back.card ≤ Workers.lateAcks cfg sys a ∧
      backlog created sys'.store ⊆ backlog created sys.store ∪ back := by
  by_cases hack : NoLateAck cfg sys a
  · refine ⟨∅, by simp, ?_⟩
    intro id hid
    rw [Finset.union_empty]
    obtain ⟨r', hr', hopen, hcreated⟩ := mem_backlog.mp hid
    rcases System.run_origin hissued hstep hr' with ⟨r, hr, hmove⟩ | ⟨now, args, draws, ha, hnow⟩
    · have hc : r'.createdAt = r.createdAt := congrArg RunColumns.createdAt hmove.columns
      apply mem_backlog.mpr ⟨r, hr, ?_, by omega⟩
      -- a finalised row would still be there
      by_contra hfin
      rw [Bool.not_eq_false] at hfin
      have hstays := System.finalised_step hstep hack hr hfin
      have hrr : r' = r := Option.some_inj.mp (hr'.symm.trans hstays)
      rw [hrr, hfin] at hopen
      cases hopen
    · have := hlater now args draws ha
      omega
  · cases a with
    | record p now rv =>
      obtain ⟨c, result, hp, rfl⟩ := System.stepRecord_eq hstep
      rcases recordResult_runs cfg now rv hp with ⟨-, hnone⟩ | ⟨run, hrun, hacked, hruns⟩
      · exact absurd (by rw [NoLateAck, hnone]; rfl) hack
      · refine ⟨{run.orchestrationRunId}, ?_, ?_⟩
        · rw [NoLateAck, hacked] at hack
          simp [Workers.lateAcks, hacked, show finalised run.status = true by simpa using hack]
        · intro id hid
          obtain ⟨r', hr', hopen, hcreated⟩ := mem_backlog.mp hid
          by_cases hsame : run.orchestrationRunId = id
          · simp [hsame]
          · apply Finset.mem_union_left
            rw [System.setProcess_store, hruns] at hr'
            have hold := (Table.get?_set_ne hsame).symm.trans hr'
            exact mem_backlog.mpr ⟨r', hold, hopen, hcreated⟩
    | _ => exact absurd rfl hack

/-! ## Passes -/

/-- The run query while nobody holds a run: the oldest unfinished runs, as many as the limit
    allows. -/
structure OldestBatch (s : Store) (batchSize : Nat) (ids : List UUID) : Prop
    extends UnlockedBatch s batchSize ids where
  oldest : ∀ r ∈ unfinishedRuns s, r.orchestrationRunId ∉ ids →
    ∀ q ∈ s.runsAt ids, q.createdAt ≤ r.createdAt

instance (s : Store) (batchSize : Nat) (ids : List UUID) : Decidable (OldestBatch s batchSize ids) :=
  decidable_of_iff (UnlockedBatch s batchSize ids ∧ ∀ r ∈ unfinishedRuns s,
      r.orchestrationRunId ∉ ids → ∀ q ∈ s.runsAt ids, q.createdAt ≤ r.createdAt)
    ⟨fun ⟨h₁, h₂⟩ => ⟨h₁, h₂⟩, fun ⟨h₁, h₂⟩ => ⟨h₁, h₂⟩⟩

/-- A batch that leaves out an unfinished run is full of runs that are no younger. -/
theorem OldestBatch.full_of_not_mem {s : Store} {n : Nat} {ids : List UUID} (h : OldestBatch s n ids)
    {run : OrchestrationRun} (hrun : run ∈ unfinishedRuns s)
    (hmem : run.orchestrationRunId ∉ ids) :
    ((s.runsAt ids).map (·.orchestrationRunId)).length = n ∧
      ∀ id ∈ (s.runsAt ids).map (·.orchestrationRunId), id ∈ backlog run.createdAt s := by
  constructor
  · have hlimit := h.limit
    have hle : (s.runsAt ids).length ≤ ids.length := List.length_filterMap_le ..
    have hfull : ¬ (s.runsAt ids).length < n := fun hshort => hmem (h.short hshort run hrun)
    rw [List.length_map]
    omega
  · intro id hid
    obtain ⟨q, hq, rfl⟩ := List.mem_map.mp hid
    have hopen := h.unfinished q hq
    rw [recoverable_eq, Bool.not_eq_true'] at hopen
    exact mem_backlog.mpr ⟨q, Store.get?_of_mem_runsAt hq, hopen, h.oldest run hrun hmem q hq⟩

/-- Past its deadline a run is always decided. -/
theorem decide_overdue {now : Int} {run : OrchestrationRun} (tasks : List AgentTask)
    (h : run.collectionDeadline ≤ now) : Quorum.decide now run tasks ≠ none := by
  unfold Quorum.decide
  simp only [h, true_or, or_true, and_true, ↓reduceIte]
  split
  · simp
  · split
    · simp
    · split <;> simp

/-- The evaluation of an overdue run takes it out of the backlog. -/
theorem evaluated_not_mem_backlog {created latest now : Int} {id : UUID} {s : Store}
    (hlatest : latest ≤ now) (h : OverdueRuns created latest (evaluated now id s)) :
    id ∉ backlog created (evaluated now id s) := by
  intro hid
  obtain ⟨r, hr, hopen, hcreated⟩ := mem_backlog.mp hid
  have hdue := h r (Table.mem_of_get? hr) hcreated
  exact decide_overdue _ (by omega) (settled_evaluated now id s r hr hopen)

/-- The passes of process `p` find no run locked and evaluate at `latest` or later, and no run
    is planned that is as old as `created`. -/
def Attends (cfg : Config) (p : Nat) (created latest : Int) (w : Workers) : WorkersAction → Prop
  | .worker q (.recover _ ids) => q = p → OldestBatch w.sys.store cfg.recoveryBatchSize ids
  | .worker q (.evaluate now _) => q = p → latest ≤ now
  | .other (.create now _ _) => created < now
  | _ => True

instance (cfg : Config) (p : Nat) (created latest : Int) (w : Workers) (a : WorkersAction) :
    Decidable (Attends cfg p created latest w a) := by
  unfold Attends
  split <;> infer_instance

namespace Workers

variable {cfg : Config} {w w' : Workers} {p : Nat} {created latest : Int} {runId : UUID}
  {budget : Nat}

/-- What the passes of process `p` have taken out of the backlog so far. In the middle of a pass
    either the run itself is still to come, or every evaluation has taken one run out. -/
structure Paid (cfg : Config) (p : Nat) (created : Int) (runId : UUID) (budget : Nat)
    (w : Workers) : Prop where
  settled : w.passes p * cfg.recoveryBatchSize + (backlog created w.sys.store).card ≤
    budget + w.reopened
  pending : ∀ id rest, w.phase p = .evaluate id rest → runId ∈ id :: rest ∨
    (id :: rest).Nodup ∧ w.passes p * cfg.recoveryBatchSize + cfg.recoveryBatchSize +
      (backlog created w.sys.store ∪ (id :: rest).toFinset).card ≤
        budget + w.reopened + (id :: rest).length

/-- A step that leaves the loop of process `p` alone. -/
theorem Paid.frame (h : Paid cfg p created runId budget w) {back : Finset UUID} {k : Nat}
    (hphase : w'.phase p = w.phase p) (hpasses : w'.passes p = w.passes p)
    (hreopened : w'.reopened = w.reopened + k) (hback : back.card ≤ k)
    (hsub : backlog created w'.sys.store ⊆ backlog created w.sys.store ∪ back) :
    Paid cfg p created runId budget w' := by
  have hcard := (Finset.card_le_card hsub).trans (Finset.card_union_le ..)
  constructor
  · have := h.settled
    rw [hpasses, hreopened]
    omega
  · intro id rest heval
    rw [hphase] at heval
    rcases h.pending id rest heval with hmem | ⟨hnodup, hle⟩
    · exact .inl hmem
    · refine .inr ⟨hnodup, ?_⟩
      -- runs that are reopened come on top, and each of them was counted
      have hsub' : backlog created w'.sys.store ∪ (id :: rest).toFinset ⊆
          (backlog created w.sys.store ∪ (id :: rest).toFinset) ∪ back := by
        intro x hx
        rcases Finset.mem_union.mp hx with hx | hx
        · rcases Finset.mem_union.mp (hsub hx) with hx | hx <;> simp [hx]
        · exact Finset.mem_union_left _ (Finset.mem_union_right _ hx)
      have hcard' := (Finset.card_le_card hsub').trans (Finset.card_union_le ..)
      rw [hpasses, hreopened]
      omega

/-- The first transaction of a pass. -/
theorem Paid.recover (h : Paid cfg p created runId budget w) {ids : List UUID}
    {run : OrchestrationRun} (hrun : run ∈ unfinishedRuns w.sys.store)
    (hid : run.orchestrationRunId = runId) (hcreated : run.createdAt = created)
    (hbatch : OldestBatch w.sys.store cfg.recoveryBatchSize ids)
    (hphase : w'.phase p =
      .evaluating ((w.sys.store.runsAt ids).map (·.orchestrationRunId)))
    (hpasses : w'.passes p = if w'.phase p = .expire then w.passes p + 1 else w.passes p)
    (hreopened : w'.reopened = w.reopened)
    (hsub : backlog created w'.sys.store ⊆ backlog created w.sys.store) :
    Paid cfg p created runId budget w' := by
  subst hid hcreated
  have hcard := Finset.card_le_card hsub
  have hsettled := h.settled
  have hnodup := Store.nodup_runsAt (s := w.sys.store) hbatch.distinct
  have hget : w.sys.store.runs.get? run.orchestrationRunId = some run :=
    Table.get?_of_mem (mem_unfinishedRuns.mp hrun).1
  have hselected : run.orchestrationRunId ∈
      (w.sys.store.runsAt ids).map (·.orchestrationRunId) ↔ run.orchestrationRunId ∈ ids := by
    rw [Store.mem_runsAt_ids]
    exact ⟨fun hmem => hmem.1, fun hmem => ⟨hmem, run, hget⟩⟩
  by_cases hmem : run.orchestrationRunId ∈ ids
  · rw [← hselected] at hmem
    generalize (w.sys.store.runsAt ids).map (·.orchestrationRunId) = selected at *
    cases selected with
    | nil => cases hmem
    | cons id rest =>
      rw [hphase] at hpasses
      constructor
      · rw [hpasses, hreopened, Phase.evaluating, if_neg (by simp)]
        omega
      · intro id' rest' heval
        rw [hphase, Phase.evaluating, Phase.evaluate.injEq] at heval
        obtain ⟨rfl, rfl⟩ := heval
        exact .inl hmem
  · obtain ⟨hfull, hold⟩ := hbatch.full_of_not_mem hrun hmem
    generalize (w.sys.store.runsAt ids).map (·.orchestrationRunId) = selected at *
    cases selected with
    | nil =>
      -- a limit of zero: the pass is over at once and has cost nothing
      rw [hphase] at hpasses
      have hzero : cfg.recoveryBatchSize = 0 := hfull.symm
      constructor
      · rw [hzero, Nat.mul_zero] at hsettled ⊢
        rw [hreopened]
        omega
      · intro id' rest' heval
        rw [hphase] at heval
        cases heval
    | cons id rest =>
      rw [hphase] at hpasses
      have hsame : w'.passes p = w.passes p := by rw [hpasses, Phase.evaluating, if_neg (by simp)]
      constructor
      · rw [hsame, hreopened]
        omega
      · intro id' rest' heval
        rw [hphase, Phase.evaluating, Phase.evaluate.injEq] at heval
        obtain ⟨rfl, rfl⟩ := heval
        refine .inr ⟨hnodup, ?_⟩
        have hunion : backlog run.createdAt w'.sys.store ∪ (id :: rest).toFinset ⊆
            backlog run.createdAt w.sys.store :=
          Finset.union_subset hsub fun x hx => hold x (List.mem_toFinset.mp hx)
        have := Finset.card_le_card hunion
        rw [hsame, hreopened, hfull]
        omega

/-- One evaluation of a pass. -/
theorem Paid.evaluate (h : Paid cfg p created runId budget w) {id : UUID} {rest : List UUID}
    (heval : w.phase p = .evaluate id rest) (hopen : runId ∈ backlog created w'.sys.store)
    (hout : id ∉ backlog created w'.sys.store)
    (hphase : w'.phase p = .evaluating rest)
    (hpasses : w'.passes p = if w'.phase p = .expire then w.passes p + 1 else w.passes p)
    (hreopened : w'.reopened = w.reopened)
    (hsub : backlog created w'.sys.store ⊆ backlog created w.sys.store) :
    Paid cfg p created runId budget w' := by
  have hcard := Finset.card_le_card hsub
  have hsettled := h.settled
  rw [hphase] at hpasses
  rcases h.pending id rest heval with hmem | ⟨hnodup, hle⟩
  · -- the run is not the one evaluated, so it is still to come
    have hne : runId ≠ id := fun heq => hout (heq ▸ hopen)
    have hrest : runId ∈ rest := (List.mem_cons.mp hmem).resolve_left hne
    cases rest with
    | nil => cases hrest
    | cons next later =>
      constructor
      · rw [hpasses, hreopened, Phase.evaluating, if_neg (by simp)]
        omega
      · intro id' rest' heval'
        rw [hphase, Phase.evaluating, Phase.evaluate.injEq] at heval'
        obtain ⟨rfl, rfl⟩ := heval'
        exact .inl hrest
  · obtain ⟨hfresh, hnodup'⟩ := List.nodup_cons.mp hnodup
    -- the evaluated run has left the backlog and is not pending either
    have hless : (backlog created w'.sys.store ∪ rest.toFinset).card + 1 ≤
        (backlog created w.sys.store ∪ (id :: rest).toFinset).card := by
      have hnot : id ∉ backlog created w'.sys.store ∪ rest.toFinset := by simp [hout, hfresh]
      rw [← Finset.card_insert_of_notMem hnot]
      apply Finset.card_le_card
      intro x hx
      rcases Finset.mem_insert.mp hx with rfl | hx
      · simp
      · rcases Finset.mem_union.mp hx with hx | hx
        · exact Finset.mem_union_left _ (hsub hx)
        · simp [List.mem_toFinset.mp hx]
    cases rest with
    | nil =>
      simp only [List.toFinset_nil, Finset.union_empty, List.length_cons, List.length_nil] at hless hle
      constructor
      · rw [hpasses, hreopened, Phase.evaluating, if_pos rfl, Nat.add_mul, Nat.one_mul]
        omega
      · intro id' rest' heval'
        rw [hphase] at heval'
        cases heval'
    | cons next later =>
      have hsame : w'.passes p = w.passes p := by rw [hpasses, Phase.evaluating, if_neg (by simp)]
      constructor
      · rw [hsame, hreopened]
        omega
      · intro id' rest' heval'
        rw [hphase, Phase.evaluating, Phase.evaluate.injEq] at heval'
        obtain ⟨rfl, rfl⟩ := heval'
        refine .inr ⟨hnodup', ?_⟩
        rw [hsame, hreopened]
        simp only [List.length_cons] at hle ⊢
        omega

/-- The end of the loop over the runs of a pass is the only way to its head. -/
theorem next_cases {sys : System} {phase phase' : Phase} {a : Action}
    (h : phase.next p sys a = some phase') :
    (∃ now ids, a = .recover now ids ∧
      phase' = .evaluating ((sys.store.runsAt ids).map (·.orchestrationRunId))) ∨
    (∃ now id rest, phase = .evaluate id rest ∧ a = .evaluate now id ∧
      phase' = .evaluating rest) ∨
    phase' = .claim ∨ phase' = .dispatch ∨ phase' = .reconcile := by
  -- one case for each place of the loop that an action may leave
  unfold Phase.next at h
  split at h
  · cases h
    exact .inl ⟨_, _, rfl, rfl⟩
  · split at h
    · cases h
      exact .inl ⟨_, _, rfl, rfl⟩
    · cases h
  · split at h
    · rename_i hid
      cases h
      exact .inr (.inl ⟨_, _, _, rfl, by rw [hid], rfl⟩)
    · cases h
  · cases h
    exact .inr (.inr (.inl rfl))
  case h_10 => cases h
  all_goals
    obtain ⟨-, h⟩ := Option.ite_none_right_eq_some.mp h
    cases h
    simp

/-- The run is unfinished. -/
def OpenRun (created : Int) (runId : UUID) (s : Store) : Prop :=
  ∃ run ∈ unfinishedRuns s, run.orchestrationRunId = runId ∧ run.createdAt = created

/-- An unfinished run is in its own backlog. -/
theorem OpenRun.mem_backlog {s : Store} (h : OpenRun created runId s) :
    runId ∈ backlog created s := by
  obtain ⟨run, hrun, rfl, hcreated⟩ := h
  obtain ⟨hmem, hopen⟩ := mem_unfinishedRuns.mp hrun
  rw [recoverable_eq, Bool.not_eq_true'] at hopen
  exact Tomiris.mem_backlog.mpr ⟨run, Table.get?_of_mem hmem, hopen, by omega⟩

/-- The loops themselves plan nothing. -/
theorem plansLater_of_attends {a : WorkersAction} (h : Attends cfg p created latest w a)
    (hstep : step cfg w a = some w') : PlansLater created a.action := by
  intro now args draws ha
  cases a with
  | other a =>
    change a = _ at ha
    rw [ha] at h
    exact h
  | worker q a =>
    obtain ⟨phase, hnext, -⟩ := step_worker hstep
    change a = _ at ha
    rw [ha] at hnext
    cases hph : w.phase q <;> simp [hph, Phase.next] at hnext

/-- Every step that leaves the run open is paid for. -/
theorem paid_step {a : WorkersAction} (hissued : CommandsIssued w.sys)
    (hdue : OverdueRuns created latest w.sys.store) (h : Paid cfg p created runId budget w)
    (hrun : OpenRun created runId w.sys.store) (hattends : Attends cfg p created latest w a)
    (hstep : step cfg w a = some w') (hrun' : OpenRun created runId w'.sys.store) :
    Paid cfg p created runId budget w' := by
  have hlater := plansLater_of_attends hattends hstep
  have hdue' := overdueRuns_step hissued (step_sys hstep) hlater hdue
  obtain ⟨back, hback, hsub⟩ := backlog_step hissued (step_sys hstep) hlater
  cases a with
  | other a =>
    obtain ⟨hown, sys, hsys, rfl⟩ := step_other hstep
    change back.card ≤ lateAcks cfg w.sys a at hback
    rw [lateAcks_other hown] at hback
    exact h.frame rfl rfl (Nat.add_zero _).symm hback hsub
  | worker q a =>
    obtain ⟨phase, hnext, hsys, hphase, hpasses, hreopened⟩ := step_worker hstep
    change back.card ≤ lateAcks cfg w.sys a at hback
    by_cases hq : q = p
    · subst hq
      have hself : w'.phase q = phase := by rw [hphase, Function.update_self]
      have hcount : w'.passes q = if w'.phase q = .expire then w.passes q + 1 else w.passes q := by
        rw [hself, hpasses]
        split
        · rw [Function.update_self]
        · rfl
      rcases next_cases hnext with ⟨now, ids, rfl, heq⟩ | ⟨now, id, rest, hwas, rfl, heq⟩ | heq
      · obtain ⟨run, hopen, hid, hcreated⟩ := hrun
        have hnone : back = ∅ := Finset.card_eq_zero.mp (Nat.le_zero.mp hback)
        rw [hnone, Finset.union_empty] at hsub
        exact h.recover hopen hid hcreated (hattends rfl) (hself.trans heq) hcount
          (by rw [hreopened]; rfl) hsub
      · have hnone : back = ∅ := Finset.card_eq_zero.mp (Nat.le_zero.mp hback)
        rw [hnone, Finset.union_empty] at hsub
        have hstore : w'.sys.store = evaluated now id w.sys.store := by
          rw [← Option.some_inj.mp hsys]
        have hout : id ∉ backlog created w'.sys.store := by
          rw [hstore] at hdue' ⊢
          exact evaluated_not_mem_backlog (hattends rfl) hdue'
        exact h.evaluate hwas hrun'.mem_backlog hout (hself.trans heq) hcount
          (by rw [hreopened]; rfl) hsub
      · -- the loop is not in a pass any more
        have hcard := (Finset.card_le_card hsub).trans (Finset.card_union_le ..)
        have hsettled := h.settled
        have hsame : w'.passes q = w.passes q := by
          rw [hcount, if_neg]
          rw [hself]
          rcases heq with rfl | rfl | rfl <;> simp
        constructor
        · rw [hsame, hreopened]
          omega
        · intro id rest heval
          rw [hself] at heval
          rcases heq with rfl | rfl | rfl <;> cases heval
    · apply h.frame _ _ hreopened hback hsub
      · rw [hphase, Function.update_of_ne (Ne.symm hq)]
      · rw [hpasses]
        split
        · rw [Function.update_of_ne (Ne.symm hq)]
        · rfl

/-- The passes that process `p` completes while the run stays open are fewer than the runs it
    can have found before this one. -/
theorem Paid.passes_lt (h : Paid cfg p created runId budget w)
    (hrun : OpenRun created runId w.sys.store) :
    w.passes p * cfg.recoveryBatchSize < budget + w.reopened := by
  have hpos : 0 < (backlog created w.sys.store).card := Finset.card_pos.mpr ⟨runId, hrun.mem_backlog⟩
  have := h.settled
  omega

/-- **No overdue run starves.** Let every run created no later than this one be overdue. However
    the loops, the Hub and the planner interleave, once a worker has completed so many passes
    that their batches outnumber these unfinished runs together with the late ACKs, the run has been
    finalised. -/
theorem overdue_run_drains {run : OrchestrationRun} (hreach : w.sys.Reachable cfg)
    (hphase : w.phase p = .reconcile) (hpasses : w.passes p = 0) (hreopened : w.reopened = 0)
    (hrun : w.sys.store.runs.get? runId = some run)
    (hdue : OverdueRuns run.createdAt latest w.sys.store)
    (hexec : Transition.Exec (step cfg) (Attends cfg p run.createdAt latest) w w')
    (henough : (backlog run.createdAt w.sys.store).card + w'.reopened ≤
      w'.passes p * cfg.recoveryBatchSize) :
    ∃ v run', Transition.Exec (step cfg) (Attends cfg p run.createdAt latest) w v ∧
      Transition.Exec (step cfg) (Attends cfg p run.createdAt latest) v w' ∧
      v.sys.store.runs.get? runId = some run' ∧ finalised run'.status = true := by
  have hissued : ∀ v, Transition.Exec (step cfg) (Attends cfg p run.createdAt latest) w v →
      CommandsIssued v.sys := fun v hv => (hreach.exec (exec_sys hv)).commandsIssued
  rcases hexec.within_or_leaves (fun v => OpenRun run.createdAt runId v.sys.store) with
    ⟨hwithin, hopen'⟩ | ⟨v, hv, hrest, hleft⟩
  · have hdues : ∀ v, Transition.Exec (step cfg)
        (fun u a => Attends cfg p run.createdAt latest u a ∧
          OpenRun run.createdAt runId u.sys.store) w v →
        CommandsIssued v.sys ∧ OverdueRuns run.createdAt latest v.sys.store := by
      intro v hv
      have hv' := hv.mono fun _ _ hP => hP.1
      refine ⟨hissued v hv', ?_⟩
      apply hv'.invariant_with (I := fun v => OverdueRuns run.createdAt latest v.sys.store) hdue
        hissued
      intro u a u' hcommands hu hattends hstep
      exact overdueRuns_step hcommands (Workers.step_sys hstep)
        (plansLater_of_attends hattends hstep) hu
    have hstart : Paid cfg p run.createdAt runId (backlog run.createdAt w.sys.store).card w := by
      constructor
      · rw [hpasses, hreopened]
        omega
      · intro id rest heval
        rw [hphase] at heval
        cases heval
    have hpaid := hwithin.invariant_with
      (I := fun v => OpenRun run.createdAt runId v.sys.store →
        Paid cfg p run.createdAt runId (backlog run.createdAt w.sys.store).card v)
      (fun _ => hstart) hdues
      fun u a u' hu hpaid hP hstep hopen => paid_step hu.1 hu.2 (hpaid hP.2) hP.2 hP.1 hstep hopen
    have := (hpaid hopen').passes_lt hopen'
    omega
  · -- the row is there, so it can only be finalised
    have hrow : ∃ run', v.sys.store.runs.get? runId = some run' ∧ run'.columns = run.columns := by
      apply hv.invariant_with
        (I := fun v => ∃ run', v.sys.store.runs.get? runId = some run' ∧
          run'.columns = run.columns) ⟨run, hrun, rfl⟩ hissued
      intro u a u' hcommands hu _ hstep
      obtain ⟨r, hr, hcols⟩ := hu
      obtain ⟨r', hr', hcols'⟩ := (System.step_store hcommands (Workers.step_sys hstep)).run_old hr
      exact ⟨r', hr', hcols'.trans hcols⟩
    obtain ⟨run', hrun', hcols⟩ := hrow
    refine ⟨v, run', hv, hrest, hrun', ?_⟩
    by_contra hopen
    rw [Bool.not_eq_true] at hopen
    apply hleft ⟨run', mem_unfinishedRuns.mpr ⟨Table.mem_of_get? hrun', ?_⟩,
      Table.key_of_get? hrun', congrArg RunColumns.createdAt hcols⟩
    rw [recoverable_eq, hopen]
    rfl

end Workers

namespace Deployment

/-- Recovery looks at one run a pass. -/
def oneAtATime : Config := { config with recoveryBatchSize := 1 }

/-- Run 100 and, a second later, run 102. -/
@[irreducible] def twoPlanned : System :=
  after oneAtATime (planned ++ [.create (seconds 1) createArgs ⟨102, 103, fun i => 300 + i⟩])
    (by decide +kernel)

theorem twoPlanned_reachable : twoPlanned.Reachable oneAtATime := by
  unfold twoPlanned
  exact after_reachable

/-- Both runs are long overdue when process 0 starts, and the older one has the first pass. -/
def twoPasses : List WorkersAction :=
  [.worker 0 (.recover (seconds 900) [100]), .worker 0 (.evaluate (seconds 900) 100),
    .worker 0 (.expire (seconds 901) []), .worker 0 (.claim 0 (seconds 901) []),
    .worker 0 (.recover (seconds 902) [102]), .worker 0 (.evaluate (seconds 902) 102)]

@[irreducible] def drained : Workers :=
  Transition.stateAfter (Workers.step oneAtATime)
    (Attends oneAtATime 0 (seconds 1) (seconds 900)) { sys := twoPlanned } twoPasses
    (by unfold twoPlanned; decide +kernel)

theorem drained_exec : Transition.Exec (Workers.step oneAtATime)
    (Attends oneAtATime 0 (seconds 1) (seconds 900)) { sys := twoPlanned } drained := by
  unfold drained
  exact Transition.exec_stateAfter

end Deployment

open Deployment in
/-- A younger run that is drained as well. -/
theorem overdue_run_drains_younger :
    ∃ (v : Workers) (run : OrchestrationRun), v.sys.store.runs.get? 102 = some run ∧
      finalised run.status = true := by
  obtain ⟨run, hrun, hcreated⟩ := Option.map_eq_some_iff.mp
    (by decide +kernel : (twoPlanned.store.runs.get? 102).map (·.createdAt) = some (seconds 1))
  have hexec := drained_exec
  rw [← hcreated] at hexec
  obtain ⟨v, run', -, -, hrun', hfin⟩ := @Workers.overdue_run_drains oneAtATime
    { sys := twoPlanned } drained 0 (seconds 900) 102 run twoPlanned_reachable rfl rfl rfl hrun
    (by rw [hcreated]; unfold OverdueRuns; decide +kernel) hexec
    (by rw [hcreated]; decide +kernel)
  exact ⟨v, run', hrun', hfin⟩

end Tomiris
