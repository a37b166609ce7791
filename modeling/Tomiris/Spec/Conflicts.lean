import Tomiris.Common.Headers
import Tomiris.Spec.Plan
import Tomiris.Spec.Verdict

/-!
# Conflict answers

`ingest` reports every integrity error of its transaction as `REPLAY_OR_DUPLICATE`. The
contract and the checks made before the inserts cover all that the two tables demand of a
row, except that it repeats none: what is left is a nonce, a message id or a task that has
been used. Other transactions commit between the statements of this one, so the call is
taken apart into statements with a change of the store before each of them.

## Key results

- `Amid.ingest_alone`: without the other transactions this is `ingest`
- `Amid.beforeNonce_ends`, `Amid.beforeSignal_ends`: what is known of the store when a row is
  inserted
- `Amid.conflict_is_duplicate`: where a conflict answer comes from
-/

namespace Tomiris

open Ingest

/-! ## What the tables demand of a row -/

/-- The constraints of `used_nonces` on a row, uniqueness apart. -/
structure NonceFits (n : Nonce) (s : Store) : Prop where
  agent_length : n.agentId.length ≤ 64
  nonce_length : n.nonce.length ≤ 256
  agent : (s.agents.get? n.agentId).isSome

/-- The constraints of `signals` on a row, uniqueness apart. A column that is `NOT NULL` has no
    option type, and `ck_signal_bias` is the type of the column. -/
structure SignalFits (g : Signal) (s : Store) : Prop where
  agent_length : g.agentId.length ≤ 64
  columns : g.columnsOk = true
  checks : g.checksOk = true
  agent : (s.agents.get? g.agentId).isSome
  snapshot : (s.snapshots.get? g.snapshotId).isSome
  task : ∀ id, g.taskId = some id → (s.tasks.get? id).isSome
  run : ∀ id, g.orchestrationRunId = some id → (s.runs.get? id).isSome

/-- The message id or the task of a signal has been used. -/
def Answered (g : Signal) (s : Store) : Prop :=
  (s.signals.get? g.messageId).isSome ∨
    ∃ id, g.taskId = some id ∧ ∃ o ∈ s.signals.rows, o.taskId = some id

/-- A nonce that fits can only be taken. -/
theorem Store.insertNonce_error {n : Nonce} {s : Store} {e : DbError} (h : NonceFits n s)
    (herror : s.insertNonce n = .error e) : (s.nonces.get? (n.agentId, n.nonce)).isSome := by
  rcases insertRow_error herror with ⟨c, hc, hviolated, -⟩ | ⟨htable, -⟩
  · simp only [List.mem_cons, List.not_mem_nil, or_false] at hc
    -- its length, and its agent
    rcases hc with rfl | rfl
    · have hlength := h.nonce_length
      simp only [decide_eq_true_eq] at hviolated
      omega
    · simp [Option.isSome_iff_ne_none.mp h.agent] at hviolated
  -- what is left is the primary key
  · by_contra hfree
    rw [Option.not_isSome_iff_eq_none] at hfree
    obtain ⟨nonces, hnonces⟩ := Table.exists_insert? (a := n) hfree
    rw [hnonces] at htable
    cases htable

/-- A signal that fits can only repeat a message id or a task. -/
theorem Store.insertSignal_error {g : Signal} {s : Store} {e : DbError} (h : SignalFits g s)
    (herror : s.insertSignal g = .error e) : Answered g s := by
  rcases insertRow_error herror with ⟨c, hc, hviolated, -⟩ | ⟨htable, -⟩
  · simp only [List.mem_cons, List.not_mem_nil, or_false] at hc
    rcases hc with rfl | rfl | rfl | rfl | rfl | rfl | rfl
    -- the constraints in their order; of these only the unique task can fail
    · simp [h.columns] at hviolated
    · simp [h.checks] at hviolated
    · simp [Option.isSome_iff_ne_none.mp h.agent] at hviolated
    · simp [Option.isSome_iff_ne_none.mp h.snapshot] at hviolated
    · obtain ⟨id, hid, hnone⟩ := (Option.any_eq_true _ _).mp hviolated
      simp [Option.isSome_iff_ne_none.mp (h.task id hid)] at hnone
    · obtain ⟨id, hid, hnone⟩ := (Option.any_eq_true _ _).mp hviolated
      simp [Option.isSome_iff_ne_none.mp (h.run id hid)] at hnone
    · obtain ⟨id, hid, hany⟩ := (Option.any_eq_true _ _).mp hviolated
      obtain ⟨o, ho, hsame⟩ := List.any_eq_true.mp hany
      exact .inr ⟨id, hid, o, ho, of_decide_eq_true hsame⟩
  -- what is left is the primary key
  · refine .inl ?_
    by_contra hfree
    rw [Option.not_isSome_iff_eq_none] at hfree
    obtain ⟨signals, hsignals⟩ := Table.exists_insert? (a := g) hfree
    rw [hsignals] at htable
    cases htable

/-! ## Ingestion amid other transactions -/

/-- The foreign keys still hold, and no row that one can refer to is gone: the repository
    deletes no agent, snapshot, run or task. -/
structure Follows (s s' : Store) : Prop where
  agents : ∀ id, (s.agents.get? id).isSome → (s'.agents.get? id).isSome
  snapshots : ∀ id, (s.snapshots.get? id).isSome → (s'.snapshots.get? id).isSome
  runs : ∀ id, (s.runs.get? id).isSome → (s'.runs.get? id).isSome
  tasks : ∀ id, (s.tasks.get? id).isSome → (s'.tasks.get? id).isSome
  tasksOfRuns : s.TasksOfRuns → s'.TasksOfRuns

/-- A store follows itself: nobody has committed in between. -/
theorem Follows.refl (s : Store) : Follows s s :=
  ⟨fun _ h => h, fun _ h => h, fun _ h => h, fun _ h => h, fun h => h⟩

/-- The tasks of a planned store have their runs. -/
theorem Planning.tasksOfRuns {s : Store} (h : Planning s) : s.TasksOfRuns := by
  intro t ht
  obtain ⟨r, hr, -⟩ := h.run t ht
  simp [hr]

namespace Amid

/-- The statements of the transaction up to the insert of the nonce. `others i` is what other
    transactions change in front of the `i`-th statement that follows. -/
def beforeNonce (others : Nat → Store → Store) (now : Int) (e : SignalEnvelope) :
    Tx Store IngestFailure Unit := do
  checkRegistry e
  Tx.modify (others 0)
  checkSnapshot now e
  Tx.modify (others 1)

/-- The statements of the transaction up to the insert of the signal. -/
def beforeSignal (others : Nat → Store → Store) (now : Int) (e : SignalEnvelope) (nonce : String) :
    Tx Store IngestFailure (Option AgentTask) := do
  beforeNonce others now e
  Tx.attempt fun s => (s.insertNonce ⟨e.agentId, nonce, now⟩).mapError .db
  Tx.modify (others 2)
  let task ← findTask now e
  Tx.modify (others 3)
  let existing ← Tx.read fun s => s.signals.get? e.messageId
  Tx.raiseIf (existing.isSome = true) (reject "DUPLICATE_MESSAGE_ID" 409)
  Tx.modify (others 4)
  pure task

/-- `SignalIngestionService.ingest` while other transactions commit. -/
def ingest (others : Nat → Store → Store) (maxTtlSeconds : Nat) (now : Int) (e : SignalEnvelope)
    (nonce : String) (payloadHash : Sha256) (requestId : UUID) : Tx Store IngestFailure Unit := do
  checkTimestamps maxTtlSeconds now e
  Tx.mapError onIntegrityError <| Tx.begin do
    let task ← beforeSignal others now e nonce
    Tx.attempt fun s => (s.insertSignal (signalRow now e payloadHash)).mapError .db
    Tx.modify fun s => s.addEvent (acceptedEvent now e payloadHash requestId)
    Tx.modify (completeTask now e payloadHash requestId task)

/-- Without other transactions this is the call itself. -/
theorem ingest_alone (maxTtl : Nat) (now : Int) (e : SignalEnvelope) (nonce : String)
    (hash : Sha256) (req : UUID) :
    ingest (fun _ s => s) maxTtl now e nonce hash req =
      Tomiris.ingest maxTtl now e nonce hash req := by
  simp only [ingest, beforeSignal, beforeNonce, Tomiris.ingest, ingestBody, Tx.modify_self,
    bind_assoc, pure_bind, bind_pure_unit]

/-! ### Refusals -/

/-- An error that the checks raise themselves: it stays what it is, and is no conflict answer. -/
def Refusal (err : IngestFailure) : Prop :=
  onIntegrityError err ≠ reject "REPLAY_OR_DUPLICATE" 409

/-- A rejection with another code is a refusal. -/
theorem refusal_reject {code : String} {status : Nat} (h : code ≠ "REPLAY_OR_DUPLICATE") :
    Refusal (reject code status) := by
  intro heq
  cases heq
  exact h rfl

/-- The checks of the timestamps never answer that the request is a duplicate. -/
theorem checkTimestamps_raises (maxTtl : Nat) (now : Int) (e : SignalEnvelope) :
    (checkTimestamps maxTtl now e).Raises (· ≠ reject "REPLAY_OR_DUPLICATE" 409) := by
  apply Tx.raises_bind (Tx.raises_raiseIf (by decide))
  intro _
  apply Tx.raises_bind (Tx.raises_raiseIf (by decide))
  intro _
  exact Tx.raises_raiseIf (by decide)

/-- A check that refuses with a code of its own, in front of the others. -/
theorem raises_check {α : Type} {p : Prop} [Decidable p] {code : String} {status : Nat}
    {rest : Tx Store IngestFailure α} (hcode : code ≠ "REPLAY_OR_DUPLICATE")
    (hrest : rest.Raises Refusal) :
    (Tx.raiseIf p (reject code status) >>= fun _ => rest).Raises Refusal :=
  Tx.raises_bind (Tx.raises_raiseIf (refusal_reject hcode)) fun _ => hrest

/-- The registry refuses with codes of its own. -/
theorem checkRegistry_raises (e : SignalEnvelope) : (checkRegistry e).Raises Refusal := by
  apply Tx.raises_bind (Tx.raises_need (refusal_reject (by decide)))
  intro agent
  apply raises_check (by decide)
  apply raises_check (by decide)
  apply raises_check (by decide)
  apply raises_check (by decide)
  exact Tx.raises_raiseIf (refusal_reject (by decide))

/-- The snapshot refuses with codes of its own. -/
theorem checkSnapshot_raises (now : Int) (e : SignalEnvelope) :
    (checkSnapshot now e).Raises Refusal := by
  apply Tx.raises_bind (Tx.raises_need (refusal_reject (by decide)))
  intro snapshot
  apply raises_check (by decide)
  exact Tx.raises_raiseIf (refusal_reject (by decide))

/-- The checks against the task refuse with codes of their own. -/
theorem checkTask_raises (now : Int) (e : SignalEnvelope) (id : UUID) :
    (checkTask now e id).Raises Refusal := by
  apply Tx.raises_bind (Tx.raises_need (refusal_reject (by decide)))
  intro task
  -- the row against the signal
  apply raises_check (by decide)
  apply raises_check (by decide)
  apply raises_check (by decide)
  apply raises_check (by decide)
  -- its deadline and its status
  apply raises_check (by decide)
  apply raises_check (by decide)
  apply raises_check (by decide)
  apply raises_check (by decide)
  exact Tx.raises_pure

/-- Finding the task refuses with the codes of these checks, or with one for a task that is not
    there. -/
theorem findTask_raises (now : Int) (e : SignalEnvelope) : (findTask now e).Raises Refusal := by
  unfold findTask
  split
  · exact Tx.raises_pure
  · exact Tx.raises_bind (checkTask_raises now e _) fun _ => Tx.raises_pure

/-! ### The store at the inserts -/

section Inserts

variable {others : Nat → Store → Store} {now : Int} {e : SignalEnvelope} {nonce : String}
  {s : Store}

/-- The rows that the nonce and the signal refer to, the task and its run apart. -/
structure Named (e : SignalEnvelope) (s : Store) : Prop where
  agent : (s.agents.get? e.agentId).isSome
  snapshot : (s.snapshots.get? e.snapshotId).isSome
  tasksOfRuns : s.TasksOfRuns

/-- What the request names stays in the store, whoever commits. -/
theorem Named.follows {s' : Store} (h : Named e s) (hf : Follows s s') : Named e s' :=
  ⟨hf.agents _ h.agent, hf.snapshots _ h.snapshot, hf.tasksOfRuns h.tasksOfRuns⟩

/-- The rows that the signal refers to. -/
structure Referenced (e : SignalEnvelope) (s : Store) : Prop extends Named e s where
  task : ∀ id, e.taskId = some id → (s.tasks.get? id).isSome
  run : ∀ id, e.orchestrationRunId = some id → (s.runs.get? id).isSome

/-- What the signal refers to stays in the store, whoever commits. -/
theorem Referenced.follows {s' : Store} (h : Referenced e s) (hf : Follows s s') :
    Referenced e s' :=
  ⟨h.toNamed.follows hf, fun id hid => hf.tasks id (h.task id hid),
    fun id hid => hf.runs id (h.run id hid)⟩

/-- The task of a task-bound signal is there, and by the foreign key of the tasks so is its run. -/
theorem Named.referenced {task : Option AgentTask} (h : Named e s)
    (htask : TaskFor now e s task) : Referenced e s := by
  unfold TaskFor at htask
  cases hid : e.taskId with
  | none =>
    -- an unbound signal names no run either
    have hrun : e.orchestrationRunId = none := by
      have hlineage := e.valid.task_lineage
      rw [hid] at hlineage
      exact Option.isNone_iff_eq_none.mp hlineage.symm
    exact ⟨h, fun id hsome => by simp [hid] at hsome, fun id hsome => by simp [hrun] at hsome⟩
  | some id =>
    rw [hid] at htask
    obtain ⟨t, -, ht, hcarries, -⟩ := htask
    refine ⟨h, fun id' hsome => ?_, fun runId hsome => ?_⟩
    · rw [hid] at hsome
      cases hsome
      simp [ht]
    · rw [hcarries.run] at hsome
      cases hsome
      exact h.tasksOfRuns t (Table.mem_of_get? ht)

/-- An agent id of the envelope fits into its column. -/
theorem agentId_length (e : SignalEnvelope) : e.agentId.length ≤ 64 := by
  have hagent := e.valid.agent
  unfold isAgentId at hagent
  split at hagent
  · cases hagent
  · rename_i c rest hlist
    simp only [Bool.and_eq_true, decide_eq_true_eq] at hagent
    rw [← String.length_toList, hlist, List.length_cons]
    omega

/-- The nonce row of such a request meets its constraints. -/
theorem Named.nonceFits (h : Named e s) (hnonce : isNonce nonce = true) :
    NonceFits ⟨e.agentId, nonce, now⟩ s := by
  simp only [isNonce, Bool.and_eq_true, decide_eq_true_eq] at hnonce
  exact ⟨agentId_length e, hnonce.2, h.agent⟩

/-- The signal row of such a request meets its constraints. -/
theorem Referenced.signalFits (h : Referenced e s) (hash : Sha256) :
    SignalFits (signalRow now e hash) s where
  agent_length := agentId_length e
  columns := signalRow_columnsOk now e hash
  checks := signalRow_checksOk now e hash
  agent := h.agent
  snapshot := h.snapshot
  task := h.task
  run := h.run

/-- The store in which the nonce is inserted. -/
theorem beforeNonce_ends (hothers : ∀ i s, Follows s (others i s)) (hs : s.TasksOfRuns) :
    (beforeNonce others now e).Ends s (fun _ s' => Named e s') Refusal := by
  refine Tx.ends_bind (checkRegistry_raises e s).run fun _ s₁ hreg => ?_
  obtain ⟨⟨a, ha, -⟩, rfl⟩ := checkRegistry_ok.mp hreg.1
  have hagent : (s₁.agents.get? e.agentId).isSome := by simp [ha]
  refine Tx.ends_bind (Q := fun _ s' => (s'.agents.get? e.agentId).isSome ∧ s'.TasksOfRuns)
    (Tx.ends_modify ⟨(hothers 0 _).agents _ hagent, (hothers 0 _).tasksOfRuns hs⟩)
    fun _ s₂ h₂ => ?_
  refine Tx.ends_bind (checkSnapshot_raises now e s₂).run fun _ s₃ hsnap => ?_
  obtain ⟨⟨m, hm, -⟩, rfl⟩ := checkSnapshot_ok.mp hsnap.1
  have hnamed : Named e s₃ := ⟨h₂.1, by simp [hm], h₂.2⟩
  exact Tx.ends_modify (hnamed.follows (hothers 1 _))

/-- The nonce has been used when it is inserted. -/
def NonceTaken (others : Nat → Store → Store) (now : Int) (e : SignalEnvelope) (nonce : String)
    (s : Store) : Prop :=
  ∃ s', beforeNonce others now e s = (.ok (), s') ∧ (s'.nonces.get? (e.agentId, nonce)).isSome

/-- The store in which the signal is inserted. -/
theorem beforeSignal_ends (hothers : ∀ i s, Follows s (others i s)) (hs : s.TasksOfRuns)
    (hnonce : isNonce nonce = true) :
    (beforeSignal others now e nonce).Ends s (fun _ s' => Referenced e s')
      (fun err => Refusal err ∨ NonceTaken others now e nonce s) := by
  refine Tx.ends_bind ((beforeNonce_ends hothers hs).run.mono (fun _ _ h => h) fun _ h => .inl h)
    fun _ s₁ h₁ => ?_
  -- the nonce is inserted, or it is taken
  refine Tx.ends_bind (Q := fun _ s' => Named e s') (Tx.ends_attempt (fun s' hok => ?_)
    fun err herr => ?_) fun _ s₂ h₂ => ?_
  · obtain ⟨-, nonces, -, rfl⟩ := Store.insertNonce_ok.mp (Tx.mapError_eq_ok.mp hok)
    exact ⟨h₁.2.agent, h₁.2.snapshot, h₁.2.tasksOfRuns⟩
  · obtain ⟨err', herr', -⟩ := Tx.mapError_eq_error.mp herr
    exact .inr ⟨s₁, h₁.1, Store.insertNonce_error (h₁.2.nonceFits hnonce) herr'⟩
  -- the others commit between every two statements, and what was found is still there
  refine Tx.ends_bind (Q := fun _ s' => Named e s') (Tx.ends_modify (h₂.follows (hothers 2 _)))
    fun _ s₃ h₃ => ?_
  refine Tx.ends_bind ((findTask_raises now e s₃).run.mono (fun _ _ h => h) fun _ h => .inl h)
    fun task s₄ htask => ?_
  obtain ⟨hfor, rfl⟩ := findTask_ok.mp htask.1
  have href := h₃.referenced hfor
  refine Tx.ends_bind (Q := fun _ s' => Referenced e s') (Tx.ends_modify (href.follows (hothers 3 _)))
    fun _ s₅ h₅ => ?_
  refine Tx.ends_bind (Q := fun _ s' => Referenced e s') (Tx.ends_read h₅) fun existing s₆ h₆ => ?_
  refine Tx.ends_bind (Q := fun _ s' => Referenced e s')
    (Tx.ends_raiseIf (fun _ => .inl (refusal_reject (by decide))) fun _ => h₆) fun _ s₇ h₇ => ?_
  refine Tx.ends_bind (Q := fun _ s' => Referenced e s') (Tx.ends_modify (h₇.follows (hothers 4 _)))
    fun _ s₈ h₈ => ?_
  exact Tx.ends_pure h₈

/-- The message id or the task has been used when the signal is inserted. -/
def SignalAnswered (others : Nat → Store → Store) (now : Int) (e : SignalEnvelope)
    (nonce : String) (hash : Sha256) (s : Store) : Prop :=
  ∃ task s', beforeSignal others now e nonce s = (.ok task, s') ∧
    Answered (signalRow now e hash) s'

/-- If ingestion answers that the request is a duplicate, the nonce was taken or the signal was
    answered. -/
theorem ingest_ends (hothers : ∀ i s, Follows s (others i s)) (hs : s.TasksOfRuns)
    (hnonce : isNonce nonce = true) (maxTtl : Nat) (hash : Sha256) (req : UUID) :
    (ingest others maxTtl now e nonce hash req).Ends s (fun _ _ => True)
      (fun err => err = reject "REPLAY_OR_DUPLICATE" 409 →
        NonceTaken others now e nonce s ∨ SignalAnswered others now e nonce hash s) := by
  refine Tx.ends_bind ((checkTimestamps_raises maxTtl now e s).run.mono (fun _ _ h => h)
    fun err h heq => absurd heq h) fun _ s₁ h₁ => ?_
  obtain ⟨-, rfl⟩ := checkTimestamps_ok.mp h₁.1
  refine Tx.ends_mapError (Tx.ends_begin ?_)
  refine Tx.ends_bind ((beforeSignal_ends hothers hs hnonce).run.mono (fun _ _ h => h)
    fun err h heq => ?_) fun task s₂ h₂ => ?_
  -- a refusal has another code, so a duplicate comes from the nonce
  · rcases h with hrefusal | htaken
    · exact absurd heq hrefusal
    · exact .inl htaken
  refine Tx.ends_bind (Q := fun _ _ => True) (Tx.ends_attempt (fun _ _ => trivial)
    fun err herr _ => ?_) fun _ s₃ _ => ?_
  -- or from the insert of the signal
  · obtain ⟨err', herr', -⟩ := Tx.mapError_eq_error.mp herr
    exact .inr ⟨task, s₂, h₂.1, Store.insertSignal_error (h₂.2.signalFits hash) herr'⟩
  exact Tx.ends_bind (Q := fun _ _ => True) (Tx.ends_modify trivial) fun _ _ _ =>
    Tx.ends_modify trivial

end Inserts

/-- **A conflict answer means a replay or a duplicate.** Both rows meet every constraint but
    uniqueness in the store in which they are inserted, so that `REPLAY_OR_DUPLICATE` is the
    answer only where the agent has used the nonce, or where there is a signal with the message
    id or for the task. -/
theorem conflict_is_duplicate {others : Nat → Store → Store}
    (hothers : ∀ i s, Follows s (others i s)) {maxTtl : Nat} {now : Int} {e : SignalEnvelope}
    {nonce : String} (hnonce : isNonce nonce = true) {hash : Sha256} {req : UUID} {s : Store}
    (hs : s.TasksOfRuns) :
    (∀ s', beforeNonce others now e s = (.ok (), s') →
      NonceFits ⟨e.agentId, nonce, now⟩ s') ∧
    (∀ task s', beforeSignal others now e nonce s = (.ok task, s') →
      SignalFits (signalRow now e hash) s') ∧
    ∀ s', ingest others maxTtl now e nonce hash req s =
        (.error (reject "REPLAY_OR_DUPLICATE" 409), s') →
      NonceTaken others now e nonce s ∨ SignalAnswered others now e nonce hash s := by
  refine ⟨fun s' hrun => ?_, fun task s' hrun => ?_, fun s' hrun => ?_⟩
  · exact ((beforeNonce_ends hothers hs).returned hrun).nonceFits hnonce
  · exact ((beforeSignal_ends hothers hs hnonce).returned hrun).signalFits hash
  · exact (ingest_ends hothers hs hnonce maxTtl hash req).raised hrun rfl

open Deployment in
/-- `ALPHA` sends its answer once more, with the nonce of the first time. -/
theorem conflict_is_duplicate_replayed :
    ∃ s', ingest (fun _ s => s) config.maxTtlSeconds (seconds 7) alphaAnswer.envelope
        alphaAnswer.nonce alphaAnswer.payloadHash alphaAnswer.requestId answered.store =
          (.error (reject "REPLAY_OR_DUPLICATE" 409), s') ∧
      (NonceTaken (fun _ s => s) (seconds 7) alphaAnswer.envelope alphaAnswer.nonce
          answered.store ∨
        SignalAnswered (fun _ s => s) (seconds 7) alphaAnswer.envelope alphaAnswer.nonce
          alphaAnswer.payloadHash answered.store) := by
  cases h : ingest (fun _ s => s) config.maxTtlSeconds (seconds 7) alphaAnswer.envelope
      alphaAnswer.nonce alphaAnswer.payloadHash alphaAnswer.requestId answered.store with
  | mk r s' =>
    have hconflict : (ingest (fun _ s => s) config.maxTtlSeconds (seconds 7) alphaAnswer.envelope
        alphaAnswer.nonce alphaAnswer.payloadHash alphaAnswer.requestId answered.store).1 =
        .error (reject "REPLAY_OR_DUPLICATE" 409) := by decide +kernel
    rw [h] at hconflict
    cases hconflict
    exact ⟨s', rfl, (conflict_is_duplicate (fun _ s => .refl s) (by decide +kernel)
      answered_reachable.planning.tasksOfRuns).2.2 s' h⟩

end Amid

end Tomiris
