import Mathlib.Data.List.Induction
import Tomiris.ForStd.BoundedMap
import Tomiris.Runtime.State

/-!
# Tasks the runtime remembers

Runs of `RuntimeTaskStore.accept`, with any nonces, bodies and clock times. A task is started
by the calls that return `is_new`; while the store remembers it no other call starts it again,
and `max_entries` other tasks have to be started before the store forgets it.

## Key result

- `remembered_tasks_start_once`
-/

namespace Tomiris

namespace RuntimeTaskStore

/-- What a call of `accept` answers. -/
abbrev Answer := Except AcceptError (AnalysisTaskAck × Bool)

/-- The call returned `is_new`: the endpoint hands the task to its handler. -/
def isNew : Answer → Bool
  | .ok (_, new) => new
  | .error _ => false

/-- The store after a sequence of calls. -/
def acceptAll (st : RuntimeTaskStore) : List Submission → RuntimeTaskStore
  | [] => st
  | sub :: rest => ((st.accept sub).1).acceptAll rest

/-- The calls with what they returned. -/
def answers (st : RuntimeTaskStore) : List Submission → List (Submission × Answer)
  | [] => []
  | sub :: rest => (sub, (st.accept sub).2) :: ((st.accept sub).1).answers rest

@[simp] theorem acceptAll_append (st : RuntimeTaskStore) (subs subs' : List Submission) :
    st.acceptAll (subs ++ subs') = (st.acceptAll subs).acceptAll subs' := by
  induction subs generalizing st with
  | nil => rfl
  | cons sub rest ih => exact ih _

@[simp] theorem answers_append (st : RuntimeTaskStore) (subs subs' : List Submission) :
    st.answers (subs ++ subs') = st.answers subs ++ (st.acceptAll subs).answers subs' := by
  induction subs generalizing st with
  | nil => rfl
  | cons sub rest ih =>
    rw [List.cons_append, answers, ih, answers, List.cons_append]
    rfl

/-- The call starts a task other than `id`. -/
def startsOther (id : UUID) (call : Submission × Answer) : Bool :=
  isNew call.2 && call.1.taskId != id

/-- The call starts the task `id`. -/
def starts (id : UUID) (call : Submission × Answer) : Bool :=
  isNew call.2 && call.1.taskId == id

/-- What a call of `accept` does to the tasks, and what it answers. -/
theorem accept_cases (st : RuntimeTaskStore) (sub : Submission) :
    ((st.accept sub).1.tasks = st.tasks ∧ (st.accept sub).2 = .error .commandReplay) ∨
    (∃ known, st.tasks.lookup sub.taskId = some known ∧ (st.accept sub).1.tasks = st.tasks ∧
      ((known.bodyHash ≠ sub.bodyHash ∧ (st.accept sub).2 = .error .taskDuplicateConflict) ∨
        (known.bodyHash = sub.bodyHash ∧ (st.accept sub).2 = .ok (known.ack, false)))) ∨
    (st.tasks.lookup sub.taskId = none ∧ (st.accept sub).2 = .ok (sub.ack, true) ∧
      (st.accept sub).1.tasks =
        BoundedMap.add st.maxEntries st.tasks sub.taskId ⟨sub.bodyHash, sub.ack⟩) := by
  unfold accept
  simp only []
  split
  -- the nonce is remembered
  · exact .inl ⟨rfl, rfl⟩
  · split
    · rename_i known hknown
      split
      · rename_i hbody
        exact .inr (.inl ⟨known, hknown, rfl, .inl ⟨hbody, rfl⟩⟩)
      · rename_i hbody
        exact .inr (.inl ⟨known, hknown, rfl, .inr ⟨not_not.mp hbody, rfl⟩⟩)
    · rename_i hnone
      exact .inr (.inr ⟨hnone, rfl, rfl⟩)

@[simp] theorem accept_maxEntries (st : RuntimeTaskStore) (sub : Submission) :
    (st.accept sub).1.maxEntries = st.maxEntries := by
  unfold accept
  simp only []
  split
  · rfl
  · split
    · split <;> rfl
    · rfl

@[simp] theorem acceptAll_maxEntries (st : RuntimeTaskStore) (subs : List Submission) :
    (st.acceptAll subs).maxEntries = st.maxEntries := by
  induction subs generalizing st with
  | nil => rfl
  | cons sub rest ih => rw [acceptAll, ih, accept_maxEntries]

/-- A call that starts its task finds it forgotten, and stores it last. -/
theorem accept_new {st : RuntimeTaskStore} {sub : Submission}
    (h : isNew (st.accept sub).2 = true) : st.tasks.lookup sub.taskId = none ∧
      (st.accept sub).1.tasks =
        BoundedMap.add st.maxEntries st.tasks sub.taskId ⟨sub.bodyHash, sub.ack⟩ := by
  rcases accept_cases st sub with ⟨-, heq⟩ | ⟨known, -, -, ⟨-, heq⟩ | ⟨-, heq⟩⟩ | ⟨hnone, -, htasks⟩
  · simp [heq, isNew] at h
  · simp [heq, isNew] at h
  · simp [heq, isNew] at h
  · exact ⟨hnone, htasks⟩

/-- A new task is answered with its own ACK. -/
theorem accept_new_answer {st : RuntimeTaskStore} {sub : Submission}
    (h : isNew (st.accept sub).2 = true) : (st.accept sub).2 = .ok (sub.ack, true) := by
  rcases accept_cases st sub with ⟨-, heq⟩ | ⟨known, -, -, ⟨-, heq⟩ | ⟨-, heq⟩⟩ | ⟨-, heq, -⟩
  · simp [heq, isNew] at h
  · simp [heq, isNew] at h
  · simp [heq, isNew] at h
  · exact heq

/-- Any other call leaves the tasks alone. -/
theorem accept_not_new {st : RuntimeTaskStore} {sub : Submission}
    (h : isNew (st.accept sub).2 = false) : (st.accept sub).1.tasks = st.tasks := by
  rcases accept_cases st sub with ⟨htasks, -⟩ | ⟨known, -, htasks, -⟩ | ⟨-, heq, -⟩
  · exact htasks
  · exact htasks
  · simp [heq, isNew] at h

/-- The map never outgrows its limit. -/
theorem acceptAll_length_le {st : RuntimeTaskStore} (hmax : 1 ≤ st.maxEntries)
    (h : st.tasks.length ≤ st.maxEntries) (subs : List Submission) :
    (st.acceptAll subs).tasks.length ≤ st.maxEntries := by
  induction subs generalizing st with
  | nil => exact h
  | cons sub rest ih =>
    -- only a new task is added, and the map drops its eldest for it
    have hstep : (st.accept sub).1.tasks.length ≤ st.maxEntries := by
      cases hnew : isNew (st.accept sub).2 with
      | false =>
        rw [accept_not_new hnew]
        exact h
      | true =>
        rw [(accept_new hnew).2]
        exact BoundedMap.add_length_le hmax h _ _
    have := @ih (st.accept sub).1 (by simpa using hmax) (by simpa using hstep)
    simpa [acceptAll] using this

/-- The remembered entry of a task ages with the other tasks that are started after it. -/
theorem aged_acceptAll {st : RuntimeTaskStore} {id : UUID} {known : AcceptedTask} {newer : Nat}
    (h : BoundedMap.Aged st.maxEntries newer id known st.tasks) (subs : List Submission) :
    BoundedMap.Aged st.maxEntries (newer + (st.answers subs).countP (startsOther id)) id known
      (st.acceptAll subs).tasks := by
  induction subs generalizing st newer with
  | nil => exact h
  | cons sub rest ih =>
    rw [answers, List.countP_cons, acceptAll]
    cases hnew : isNew (st.accept sub).2 with
    | false =>
      have hstep : BoundedMap.Aged (st.accept sub).1.maxEntries newer id known
          (st.accept sub).1.tasks := by
        rw [accept_not_new hnew, accept_maxEntries]
        exact h
      simpa [startsOther, hnew] using ih hstep
    | true =>
      obtain ⟨hnone, htasks⟩ := accept_new hnew
      by_cases hid : sub.taskId = id
      · -- the task itself is started again, so it had been pushed out before
        rw [hid] at hnone
        have hle := h.le_of_lookup_eq_none hnone
        have hstep : BoundedMap.Aged (st.accept sub).1.maxEntries newer id known
            (st.accept sub).1.tasks := .inl (by rw [accept_maxEntries]; exact hle)
        simpa [startsOther, hnew, hid] using ih hstep
      · have hstep : BoundedMap.Aged (st.accept sub).1.maxEntries (newer + 1) id known
            (st.accept sub).1.tasks := by
          rw [htasks, accept_maxEntries]
          exact h.add _ _
        have hrest := ih hstep
        rw [accept_maxEntries] at hrest
        have hstarts : startsOther id (sub, (st.accept sub).2) = true := by
          simp [startsOther, hnew, hid]
        rw [if_pos hstarts, Nat.add_comm (List.countP ..) 1, ← Nat.add_assoc]
        exact hrest

/-- A remembered task was stored by the last call that started it. -/
theorem mem_acceptAll {st : RuntimeTaskStore} {id : UUID} {known : AcceptedTask}
    (hempty : st.tasks = []) (subs : List Submission)
    (h : (id, known) ∈ (st.acceptAll subs).tasks) :
    ∃ before first between, subs = before ++ first :: between ∧ first.taskId = id ∧
      known = ⟨first.bodyHash, first.ack⟩ ∧
      isNew ((st.acceptAll before).accept first).2 = true ∧
      (((st.acceptAll before).accept first).1.answers between).countP (starts id) = 0 := by
  -- on the calls, the last one taken off first
  induction subs using List.reverseRecOn with
  | nil => simp [acceptAll, hempty] at h
  | append_singleton subs sub ih =>
    rw [acceptAll_append] at h
    simp only [acceptAll] at h
    -- a call that does not start the task leaves its entry and its history as they were
    have hold : (id, known) ∈ (st.acceptAll subs).tasks →
        starts id (sub, ((st.acceptAll subs).accept sub).2) = false →
        ∃ before first between, subs ++ [sub] = before ++ first :: between ∧ first.taskId = id ∧
          known = ⟨first.bodyHash, first.ack⟩ ∧
          isNew ((st.acceptAll before).accept first).2 = true ∧
          (((st.acceptAll before).accept first).1.answers between).countP (starts id) = 0 := by
      intro hmem hstarts
      obtain ⟨before, first, between, rfl, hid, hknown, hnew, hcount⟩ := ih hmem
      refine ⟨before, first, between ++ [sub], by simp, hid, hknown, hnew, ?_⟩
      have hstore : st.acceptAll (before ++ first :: between) =
          ((st.acceptAll before).accept first).1.acceptAll between := by
        rw [acceptAll_append]
        rfl
      rw [answers_append, List.countP_append, hcount, ← hstore, answers, answers]
      simp only [List.countP_cons, List.countP_nil, hstarts, Bool.false_eq_true, if_false]
    cases hnew : isNew ((st.acceptAll subs).accept sub).2 with
    | false =>
      rw [accept_not_new hnew] at h
      exact hold h (by simp [starts, hnew])
    | true =>
      obtain ⟨hnone, htasks⟩ := accept_new hnew
      rw [htasks, BoundedMap.add, List.mem_append, List.mem_singleton] at h
      rcases h with h | h
      · have hmem := BoundedMap.mem_evict h
        have hid : sub.taskId ≠ id := by
          intro hid
          rw [hid] at hnone
          have := List.lookup_eq_none_iff.mp hnone _ hmem
          simp at this
        exact hold hmem (by simp [starts, hid])
      · obtain ⟨rfl, rfl⟩ := Prod.mk.inj h
        exact ⟨subs, sub, [], rfl, rfl, rfl, hnew, rfl⟩

end RuntimeTaskStore

open RuntimeTaskStore in
/-- Every run of calls on a store with room for `n ≥ 1` tasks. The store never remembers more
    than `n`. Between two calls that start one task at least `n` calls start another one. A call
    for a remembered task leaves the tasks as they are, and raises or returns the first ACK for
    the body that it was stored with. -/
theorem remembered_tasks_start_once {n : Nat} (hn : 1 ≤ n) (subs : List Submission) :
    let st := ({ maxEntries := n } : RuntimeTaskStore)
    (st.acceptAll subs).tasks.length ≤ n ∧
    (∀ before first between again, subs = before ++ first :: between →
      first.taskId = again.taskId → isNew ((st.acceptAll before).accept first).2 = true →
      isNew ((st.acceptAll subs).accept again).2 = true →
      n ≤ (((st.acceptAll before).accept first).1.answers between).countP
        (startsOther first.taskId)) ∧
    ∀ sub known, (st.acceptAll subs).tasks.lookup sub.taskId = some known →
      ((st.acceptAll subs).accept sub).1.tasks = (st.acceptAll subs).tasks ∧
      ((∃ e, ((st.acceptAll subs).accept sub).2 = .error e) ∨
        (known.bodyHash = sub.bodyHash ∧
          ((st.acceptAll subs).accept sub).2 = .ok (known.ack, false))) ∧
      ∃ before first between, subs = before ++ first :: between ∧ first.taskId = sub.taskId ∧
        first.bodyHash = known.bodyHash ∧
        ((st.acceptAll before).accept first).2 = .ok (known.ack, true) ∧
        (((st.acceptAll before).accept first).1.answers between).countP
          (starts sub.taskId) = 0 := by
  intro st
  refine ⟨@acceptAll_length_le st hn (Nat.zero_le n) subs, ?_, ?_⟩
  · intro before first between again hsubs hid hfirst hagain
    obtain ⟨-, htasks⟩ := accept_new hfirst
    -- the entry is new in the map, and every later start of another task ages it by one
    have haged : BoundedMap.Aged ((st.acceptAll before).accept first).1.maxEntries 0 first.taskId
        ⟨first.bodyHash, first.ack⟩ ((st.acceptAll before).accept first).1.tasks := by
      rw [htasks, accept_maxEntries]
      exact BoundedMap.aged_add ..
    have hlast := aged_acceptAll haged between
    have hstore : st.acceptAll subs = ((st.acceptAll before).accept first).1.acceptAll between := by
      rw [hsubs, acceptAll_append]
      rfl
    rw [accept_maxEntries, acceptAll_maxEntries, Nat.zero_add, ← hstore] at hlast
    -- the task is new again, so its entry has been dropped
    have hnone := (accept_new hagain).1
    rw [← hid] at hnone
    exact hlast.le_of_lookup_eq_none hnone
  · intro sub known hknown
    obtain ⟨before, first, between, hsubs, hid, rfl, hnew, hcount⟩ :=
      mem_acceptAll rfl subs (BoundedMap.mem_of_lookup hknown)
    have hfirst : ((st.acceptAll before).accept first).2 = .ok (first.ack, true) :=
      accept_new_answer hnew
    -- the answer to a remembered task: its nonce or its body is refused, or it gets the first ACK
    rcases accept_cases (st.acceptAll subs) sub with
      ⟨htasks, heq⟩ | ⟨known, hlookup, htasks, ⟨-, heq⟩ | ⟨hbody, heq⟩⟩ | ⟨hnone, -, -⟩
    · exact ⟨htasks, .inl ⟨_, heq⟩, before, first, between, hsubs, hid, rfl, hfirst, hcount⟩
    · exact ⟨htasks, .inl ⟨_, heq⟩, before, first, between, hsubs, hid, rfl, hfirst, hcount⟩
    · rw [hknown] at hlookup
      cases hlookup
      exact ⟨htasks, .inr ⟨hbody, heq⟩, before, first, between, hsubs, hid, rfl, hfirst, hcount⟩
    · rw [hknown] at hnone
      cases hnone

namespace Deployment

/-- A command for a task, accepted at second 0. -/
def commandFor (nonce : String) (taskId : UUID) : RuntimeTaskStore.Submission where
  nonce := nonce
  nonceExpiresAt := seconds 600
  now := 0
  taskId := taskId
  bodyHash := "5feceb66ffc86f38d952786c6d696c79c2dbc239dd4e91b46729d73a27fb57e9"
  ack := ⟨taskId, "ALPHA", 0, "0.3.0"⟩

end Deployment

open Deployment RuntimeTaskStore in
/-- A store with room for one task forgets it for another one. -/
theorem remembered_tasks_start_once_evicted :
    isNew ((({ maxEntries := 1 } : RuntimeTaskStore).acceptAll
      [commandFor "first" 200, commandFor "second" 201]).accept (commandFor "third" 200)).2 = true ∧
    1 ≤ (((({ maxEntries := 1 } : RuntimeTaskStore).accept (commandFor "first" 200)).1).answers
      [commandFor "second" 201]).countP (startsOther 200) :=
  ⟨by decide +kernel, (remembered_tasks_start_once (Nat.le_refl 1)
    [commandFor "first" 200, commandFor "second" 201]).2.1 [] (commandFor "first" 200)
    [commandFor "second" 201] (commandFor "third" 200) rfl rfl (by decide +kernel)
    (by decide +kernel)⟩

end Tomiris
