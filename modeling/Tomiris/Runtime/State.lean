import Tomiris.Contracts.Orchestration

/-!
# The agent runtime's task store

`RuntimeTaskStore`: the bounded, process-local replay and idempotency state of an agent
runtime. The two dictionaries are lists in insertion order.
-/

namespace Tomiris

/-- `AcceptedTask`. -/
structure AcceptedTask where
  bodyHash : String
  ack : AnalysisTaskAck

structure RuntimeTaskStore where
  maxEntries : Nat := 10000
  nonces : List (String × Int) := []
  tasks : List (UUID × AcceptedTask) := []

/-- What `accept` raises. -/
inductive AcceptError where
  | commandReplay
  | taskDuplicateConflict
deriving DecidableEq

namespace RuntimeTaskStore

/-- The arguments of `accept`. -/
structure Submission where
  nonce : String
  nonceExpiresAt : Int
  now : Int
  taskId : UUID
  bodyHash : String
  ack : AnalysisTaskAck

/-- The nonces that are still remembered. -/
def prune (now : Int) (nonces : List (String × Int)) : List (String × Int) :=
  nonces.filter (fun n => now < n.2)

/-- The oldest entry makes room once the store is full. -/
def evict (maxEntries : Nat) (tasks : List (UUID × AcceptedTask)) : List (UUID × AcceptedTask) :=
  if tasks.length ≥ maxEntries then tasks.tail else tasks

/-- `RuntimeTaskStore.accept`: the new state, and the ACK with `is_new`, or the error raised.
    The pruned and extended nonce table is kept in every case. -/
def accept (st : RuntimeTaskStore) (sub : Submission) :
    RuntimeTaskStore × Except AcceptError (AnalysisTaskAck × Bool) :=
  let nonces := prune sub.now st.nonces
  if (nonces.lookup sub.nonce).isSome then ({ st with nonces }, .error .commandReplay)
  else
    -- the nonce is spent even when the task is then refused
    let nonces := nonces ++ [(sub.nonce, sub.nonceExpiresAt)]
    match st.tasks.lookup sub.taskId with
    | some known =>
      if known.bodyHash ≠ sub.bodyHash then ({ st with nonces }, .error .taskDuplicateConflict)
      -- the stored ACK again, and no second start
      else ({ st with nonces }, .ok (known.ack, false))
    | none =>
      let tasks := evict st.maxEntries st.tasks ++ [(sub.taskId, ⟨sub.bodyHash, sub.ack⟩)]
      ({ st with nonces, tasks }, .ok (sub.ack, true))

/-- A task that is remembered with this body is never handed to the handler again. -/
theorem accept_known {st : RuntimeTaskStore} {sub : Submission} {known : AcceptedTask}
    (h : st.tasks.lookup sub.taskId = some known) (hb : known.bodyHash = sub.bodyHash)
    (ack : AnalysisTaskAck) : (st.accept sub).2 ≠ .ok (ack, true) := by
  unfold accept
  simp only [h, hb]
  split <;> simp

/-- A conflict is one with the body that the task is remembered with. -/
theorem accept_conflict {st : RuntimeTaskStore} {sub : Submission}
    (h : (st.accept sub).2 = .error .taskDuplicateConflict) :
    ∃ known, (sub.taskId, known) ∈ st.tasks ∧ known.bodyHash ≠ sub.bodyHash := by
  unfold accept at h
  simp only [] at h
  split at h
  · cases h
  · split at h
    · rename_i known hknown
      split at h
      -- the nonce is new, the task is remembered, and its body is another
      · rename_i hne
        obtain ⟨before, after, htasks, -⟩ := List.lookup_eq_some_iff.mp hknown
        have hmem : (sub.taskId, known) ∈ st.tasks := by
          rw [htasks]
          exact List.mem_append_right before (List.mem_cons_self ..)
        exact ⟨known, hmem, hne⟩
      · cases h
    · cases h

/-- The tasks that a submission leaves were there before, or are its own. -/
theorem accept_tasks {st : RuntimeTaskStore} {sub : Submission} {entry : UUID × AcceptedTask}
    (h : entry ∈ (st.accept sub).1.tasks) :
    entry ∈ st.tasks ∨ entry = (sub.taskId, ⟨sub.bodyHash, sub.ack⟩) := by
  unfold accept at h
  simp only [] at h
  split at h
  · exact .inl h
  · split at h
    · split at h <;> exact .inl h
    · rw [List.mem_append, List.mem_singleton] at h
      -- an older task that was not evicted, or the new one
      rcases h with h | h
      · unfold evict at h
        split at h
        · exact .inl (List.mem_of_mem_tail h)
        · exact .inl h
      · exact .inr h

end RuntimeTaskStore

end Tomiris
