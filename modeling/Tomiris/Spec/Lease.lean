import Tomiris.Spec.Fencing
import Tomiris.Timed

/-!
# Leases and sends

A claim leases all tasks of its batch at once, and the sends follow one after the other. As
long as a command goes out and comes back before the lease of its claim has run out, the
stored lease stays with its process and no other process gets the task. Neither is checked
by the code: a batch can outlast its leases.

## Key results

- `holds_step`: what can become of a lease that has not run out
- `lease_exclusive`: mutual exclusion of the sends in the runs that keep to their leases
- `batch_outlasts_lease`: two processes inside `transport.dispatch` for one task
-/

namespace Tomiris

open Dispatch Recovery Quorum Ingest

/-! ## The condition -/

/-- The lease that the command's claim has taken has not run out. -/
def Claimed.live (now : Int) (c : Claimed) : Bool := c.leaseUntil.any (now < ·)

/-- A lease is live while its end is after the time. -/
theorem Claimed.live_iff {now : Int} {c : Claimed} :
    c.live now = true ↔ ∃ u, c.leaseUntil = some u ∧ now < u := by
  simp [Claimed.live, Option.any_eq_true]

/-- A lease that is live later is live now. -/
theorem Claimed.live_mono {now now' : Int} {c : Claimed} (h : c.live now' = true)
    (hle : now ≤ now') : c.live now = true := by
  obtain ⟨u, hu, hlt⟩ := live_iff.mp h
  exact live_iff.mpr ⟨u, hu, by omega⟩

namespace Timed

/-- The processes keep to their leases: a send starts before the lease of its claim has run out
    and ends before that, too, and no dispatch deadline and no accepted answer ends a task whose
    command still waits to be sent under a live lease. -/
def Punctual (n : Nat) (cfg : Config) (τ : Timed) : TimedAction → Prop
  | .tick now => ∀ p < n, ∀ c ∈ (τ.sys.processes p).sending, c.live now = true
  | .act (.startSend p) => ∀ c ∈ (τ.sys.processes p).queue.head?, c.live τ.clock = true
  | .act (.expire _ ids) => ∀ p < n, ∀ c ∈ (τ.sys.processes p).queue, c.live τ.clock = true →
      c.command.taskId ∉ ids
  | .act (.ingest now r) => ∀ p < n, ∀ c ∈ (τ.sys.processes p).queue, c.live τ.clock = true →
      r.envelope.taskId = some c.command.taskId → ¬ Accepts cfg now r τ.sys.store
  | _ => True

instance (n : Nat) (cfg : Config) (τ : Timed) : ∀ a, Decidable (Punctual n cfg τ a)
  | .tick now => inferInstanceAs (Decidable (∀ p < n, ∀ c ∈ (τ.sys.processes p).sending,
      c.live now = true))
  | .act (.startSend p) => inferInstanceAs (Decidable (∀ c ∈ (τ.sys.processes p).queue.head?,
      c.live τ.clock = true))
  | .act (.expire _ ids) => inferInstanceAs (Decidable (∀ p < n,
      ∀ c ∈ (τ.sys.processes p).queue, c.live τ.clock = true → c.command.taskId ∉ ids))
  | .act (.ingest now r) => inferInstanceAs (Decidable (∀ p < n,
      ∀ c ∈ (τ.sys.processes p).queue, c.live τ.clock = true →
        r.envelope.taskId = some c.command.taskId → ¬ Accepts cfg now r τ.sys.store))
  | .act (.syncAgent _) | .act (.syncEndpoint _) | .act (.syncSnapshot _) | .act (.create ..)
  | .act (.claim ..) | .act (.deliver ..) | .act (.endSend ..) | .act (.record ..)
  | .act (.crash _) | .act (.recover ..) | .act (.evaluate ..) | .act (.recordRejection ..)
  | .act (.probe ..) => .isTrue trivial

/-- The row of the command is leased to process `p` by the command's claim. -/
def Holds (cfg : Config) (s : Store) (p : Nat) (c : Claimed) : Prop :=
  ∃ t, s.tasks.get? c.command.taskId = some t ∧ t.status = .dispatching ∧
    t.leaseOwner = some (cfg.worker p).workerId ∧ t.leaseUntil = c.leaseUntil

/-- The task of the command has got a final status. -/
def Ended (s : Store) (c : Claimed) : Prop :=
  ∃ t, s.tasks.get? c.command.taskId = some t ∧ terminal t.status = true

/-- The commands that a process is sending or has yet to send. -/
def unsent (p : Process) : List Claimed := p.queue ++ p.sending.toList

/-- The `n` processes have distinct worker ids. -/
def DistinctWorkers (n : Nat) (cfg : Config) : Prop :=
  ∀ p < n, ∀ q < n, (cfg.worker p).workerId = (cfg.worker q).workerId → p = q

end Timed

/-! ## One row -/

namespace System

open Timed

variable {cfg : Config} {sys sys' : System}

/-- A task with a final status keeps one. -/
theorem TaskStep.stays_terminal {t t' : AgentTask} {a : Action} (h : TaskStep cfg sys t a t')
    (ht : terminal t.status = true) : terminal t'.status = true := by
  rcases h.status_of_terminal ht with hst | ⟨now, ids, rfl⟩
  · rw [hst]
    exact ht
  · cases h with
    | same => exact ht
    | recovered =>
      rcases (recoveredTask_move now sys.store t).status_of_terminal ht with hst | ⟨hst, -⟩
      · rw [hst]
        exact ht
      · rw [hst]
        rfl

/-- What has ended stays so: nothing moves the task back. -/
theorem ended_step {a : Action} (hstep : step cfg sys a = some sys') {c : Claimed}
    (h : Ended sys.store c) : Ended sys'.store c := by
  obtain ⟨t, ht, hend⟩ := h
  obtain ⟨t', ht', hmove⟩ := task_step hstep ht
  exact ⟨t', ht', hmove.stays_terminal hend⟩

/-- A lease that has not run out stays, unless the task's deadline passes or its answer is
    accepted. -/
theorem holds_step {n : Nat} (hdist : DistinctWorkers n cfg) (hsig : SignalStore sys.store)
    {clock : Int} {a : Action} (hstep : step cfg sys a = some sys')
    (hproc : a.process.all (· < n) = true) (hread : a.reading.all (· ≤ clock) = true)
    {p : Nat} (hp : p < n) {c : Claimed} (hlive : c.live clock = true)
    (hheld : Holds cfg sys.store p c)
    (hother : ∀ d result, (sys.processes p).returned = some (d, result) →
      d.command.taskId ≠ c.command.taskId) :
    Holds cfg sys'.store p c ∨ Ended sys'.store c ∧
      ((∃ now ids, a = .expire now ids ∧ c.command.taskId ∈ ids) ∨
        ∃ now r, a = .ingest now r ∧ r.envelope.taskId = some c.command.taskId ∧
          Accepts cfg now r sys.store) := by
  obtain ⟨t, ht, hst, howner, huntil⟩ := hheld
  obtain ⟨t', ht', hmove⟩ := task_step hstep ht
  obtain ⟨u, hu, hlt⟩ := Claimed.live_iff.mp hlive
  have hid : t.taskId = c.command.taskId := Table.key_of_get? ht
  rw [hu] at huntil
  have hkept : t' = t → Holds cfg sys'.store p c := by
    rintro rfl
    exact ⟨t', ht', hst, howner, huntil.trans hu.symm⟩
  cases hmove with
  | same => exact .inl (hkept rfl)
  | @claimed q now ids _ hids hdue hmove =>
    -- a claim takes a leased row only after its lease has run out
    have hle : now ≤ clock := by simpa [Action.reading] using hread
    rcases (claimable_iff.mp hdue).1 with ⟨hs | hs, -⟩ | ⟨-, v, hv, hlt'⟩
    · cases hst.symm.trans hs
    · cases hst.symm.trans hs
    · obtain rfl : u = v := Option.some_inj.mp (huntil.symm.trans hv)
      omega
  | @recorded q now rv d result _ hq hdid hown _ =>
    have hname := (ownsLease_iff.mp hown).2
    rw [howner] at hname
    have hq' : q < n := by simpa [Action.process] using hproc
    obtain rfl := hdist p hp q hq' (Option.some_inj.mp hname)
    exact absurd (hdid.trans hid) (hother d result hq)
  | @expired now ids hids _ =>
    exact .inr ⟨⟨_, ht', rfl⟩, .inl ⟨now, ids, rfl, hid ▸ hids⟩⟩
  | @recovered now ids =>
    have hle : now ≤ clock := by simpa [Action.reading] using hread
    refine .inl (hkept ?_)
    unfold recoveredTask recoverTask
    rw [if_neg, if_neg, if_neg]
    · rfl
    · rw [hst]
      rintro ⟨h | h, -⟩ <;> cases h
    · rw [huntil]
      rintro ⟨-, h⟩
      simp at h
      omega
    · rintro ⟨hsigned, -⟩
      rw [hsig.mem_signalTaskIds_iff (Table.mem_of_get? ht), hst] at hsigned
      cases hsigned
  | @received now r hadm =>
    obtain ⟨-, hcarries, -⟩ := hadm.get?_task
    exact .inr ⟨⟨_, ht', rfl⟩, .inr ⟨now, r, rfl, hid ▸ hcarries.task, ingest_accepts hadm⟩⟩

/-- A command that waits to be sent did so before, or comes from this very claim. -/
theorem queue_of_step {a : Action} (h : step cfg sys a = some sys') {p : Nat} {c : Claimed}
    (hc : c ∈ (sys'.processes p).queue) :
    c ∈ (sys.processes p).queue ∨
      ∃ now ids, a = .claim p now ids ∧ Holds cfg sys'.store p c ∧
        ∃ t, sys.store.tasks.get? c.command.taskId = some t ∧ claimable now t = true := by
  have hproc := process_step h p
  -- only a claim of this process fills its queue
  generalize sys'.processes p = proc at hc hproc
  cases hproc with
  | same => exact .inl hc
  | @claimed now ids _ hbatch hs =>
    refine .inr ⟨now, ids, rfl, ?_⟩
    rw [hs] at hc ⊢
    obtain ⟨t, ht, hdue, hrow, -, -, huntil⟩ := mem_claimedCommands hbatch hc
    exact ⟨⟨_, hrow, rfl, rfl, huntil.symm⟩, t, ht, hdue⟩
  | started hp =>
    rw [hp]
    exact .inl (List.mem_cons_of_mem _ hc)
  | ended hp =>
    rw [hp]
    exact .inl hc
  | recorded _ => exact .inl hc
  | crashed => cases hc

/-- A command that is being sent was so before, or was the next one to be sent. -/
theorem sending_of_step {a : Action} (h : step cfg sys a = some sys') {p : Nat} {c : Claimed}
    (hc : (sys'.processes p).sending = some c) :
    (sys.processes p).sending = some c ∨
      a = .startSend p ∧ (sys.processes p).queue.head? = some c := by
  have hproc := process_step h p
  generalize sys'.processes p = proc at hc hproc
  cases hproc with
  | same => exact .inl hc
  | claimed _ _ _ => cases hc
  | started hp =>
    rw [hp]
    exact .inr ⟨rfl, hc⟩
  | ended _ => cases hc
  | recorded _ => exact .inl hc
  | crashed => cases hc

/-- No process holds two commands for one task. -/
theorem held_nodup_step {a : Action} (h : step cfg sys a = some sys') {p : Nat}
    (hnd : ((sys.processes p).held.map (·.command.taskId)).Nodup) :
    ((sys'.processes p).held.map (·.command.taskId)).Nodup := by
  have hproc := process_step h p
  generalize sys'.processes p = proc at hproc ⊢
  cases hproc with
  | same => exact hnd
  | @claimed now ids _ hbatch hs =>
    -- the claimed commands carry the ids of the claim, which are distinct
    have hids : (claimedCommands sys'.store (claim (cfg.worker p) now (sys.store.tasksAt ids)
        sys.store).2).map (·.command.taskId) =
          (claim (cfg.worker p) now (sys.store.tasksAt ids) sys.store).2.map (·.taskId) := by
      have hmap := congrArg (List.map DispatchCommand.taskId) (claimedCommands_command sys'.store
        (claim (cfg.worker p) now (sys.store.tasksAt ids) sys.store).2)
      rwa [List.map_map] at hmap
    simp only [Process.held, Option.toList_none, Option.map_none, List.append_nil]
    rw [hids]
    exact (Store.nodup_tasksAt hbatch.distinct).sublist (hbatch.spec (cfg.worker p)).distinct
  -- the command moves from the queue to the sends
  | @started c rest hp =>
    rw [hp] at hnd
    refine (List.Perm.map _ ?_).nodup_iff.mp hnd
    simpa [Process.held] using (List.perm_append_singleton c rest).symm
  | @ended queue c result hp =>
    rw [hp] at hnd
    simpa [Process.held] using hnd
  -- a result drops one
  | recorded _ =>
    refine hnd.sublist (List.Sublist.map _ ?_)
    simp only [Process.held, Option.map_none, Option.toList_none, List.append_nil]
    exact List.sublist_append_left ..
  | crashed => exact List.nodup_nil

end System

/-! ## All leases -/

namespace Timed

variable {n : Nat} {cfg : Config} {τ τ' : Timed}

/-- An action of the system under the clock. -/
theorem step_act {a : Action} (h : step n cfg τ (.act a) = some τ') :
    a.process.all (· < n) = true ∧ a.reading.all (· ≤ τ.clock) = true ∧
      System.step cfg τ.sys a = some τ'.sys ∧ τ'.clock = τ.clock := by
  simp only [step] at h
  split at h
  · rename_i henabled
    obtain ⟨sys', hsys', rfl⟩ := Option.map_eq_some_iff.mp h
    exact ⟨henabled.1, henabled.2, hsys', rfl⟩
  · cases h

/-- A tick moves the clock forward, and nothing else. -/
theorem step_tick {now : Int} (h : step n cfg τ (.tick now) = some τ') :
    τ.clock ≤ now ∧ τ' = { τ with clock := now } := by
  simp only [step] at h
  split at h
  · rename_i hle
    exact ⟨hle, (Option.some_inj.mp h).symm⟩
  · cases h

/-- Dropping the clock turns a run into a run of the system. -/
theorem Exec.reachable {P : Timed → TimedAction → Prop}
    (h : Transition.Exec (step n cfg) P {} τ) : τ.sys.Reachable cfg := by
  induction h with
  | refl => exact .refl
  | @tail t u a _ _ hstep ih =>
    cases a with
    | tick now =>
      obtain ⟨-, rfl⟩ := step_tick hstep
      exact ih
    | act a => exact Transition.Exec.tail ih trivial (step_act hstep).2.2.1

/-- The leases that have not run out are where their claims have put them. -/
structure LeaseInv (n : Nat) (cfg : Config) (τ : Timed) : Prop where
  beyond : ∀ p, n ≤ p → τ.sys.processes p = {}
  distinct : ∀ p, ((τ.sys.processes p).held.map (·.command.taskId)).Nodup
  queued : ∀ p, ∀ c ∈ (τ.sys.processes p).queue, c.live τ.clock = true →
    Holds cfg τ.sys.store p c
  sending : ∀ p c, (τ.sys.processes p).sending = some c →
    c.live τ.clock = true ∧ (Holds cfg τ.sys.store p c ∨ Ended τ.sys.store c)
  exclusive : ∀ p q, ∀ c ∈ unsent (τ.sys.processes p), ∀ d ∈ unsent (τ.sys.processes q),
    c.live τ.clock = true → d.live τ.clock = true → c.command.taskId = d.command.taskId → p = q

/-- The commands that a process has yet to send are queued or being sent. -/
theorem mem_unsent {p : Process} {c : Claimed} :
    c ∈ unsent p ↔ c ∈ p.queue ∨ p.sending = some c := by
  simp [unsent]

namespace LeaseInv

/-- At the start nothing is claimed. -/
theorem initial : LeaseInv n cfg {} where
  beyond := fun _ _ => rfl
  distinct := fun _ => List.nodup_nil
  queued := fun _ _ hc => by cases hc
  sending := fun _ _ hc => by cases hc
  exclusive := fun _ _ _ hc => by cases hc

/-- Only the `n` processes have commands. -/
theorem lt_of_unsent (h : LeaseInv n cfg τ) {p : Nat} {c : Claimed}
    (hc : c ∈ unsent (τ.sys.processes p)) : p < n := by
  by_contra hp
  rw [h.beyond p (by omega)] at hc
  cases hc

/-- While its lease is live, a command holds the row it was claimed from, or the task has ended. -/
theorem holds_or_ended (h : LeaseInv n cfg τ) {p : Nat} {c : Claimed}
    (hc : c ∈ unsent (τ.sys.processes p)) (hlive : c.live τ.clock = true) :
    Holds cfg τ.sys.store p c ∨ Ended τ.sys.store c := by
  rcases mem_unsent.mp hc with hc | hc
  · exact .inl (h.queued p c hc hlive)
  · exact (h.sending p c hc).2

/-- The task of a command with a live lease is not due for a claim. -/
theorem not_claimable (h : LeaseInv n cfg τ) {p : Nat} {c : Claimed}
    (hc : c ∈ unsent (τ.sys.processes p)) (hlive : c.live τ.clock = true) {now : Int}
    (hnow : now ≤ τ.clock) {t : AgentTask}
    (ht : τ.sys.store.tasks.get? c.command.taskId = some t) : claimable now t ≠ true := by
  intro hdue
  -- the row is dispatching under this very lease, or its task has ended
  rcases h.holds_or_ended hc hlive with ⟨t', ht', hst, -, huntil⟩ | ⟨t', ht', hend⟩
  · obtain rfl : t = t' := Option.some_inj.mp (ht.symm.trans ht')
    -- a claim of a dispatching row needs a lease that has run out
    obtain ⟨u, hu, hlt⟩ := Claimed.live_iff.mp hlive
    rcases (claimable_iff.mp hdue).1 with ⟨hs | hs, -⟩ | ⟨-, v, hv, hlt'⟩
    · cases hst.symm.trans hs
    · cases hst.symm.trans hs
    · obtain rfl : u = v := Option.some_inj.mp (hu.symm.trans (huntil.symm.trans hv))
      omega
  · obtain rfl : t = t' := Option.some_inj.mp (ht.symm.trans ht')
    rw [not_terminal_of_claimable hdue] at hend
    cases hend

/-- The command whose result is to be recorded is for another task than those still to be
    sent. -/
theorem returned_ne (h : LeaseInv n cfg τ) {p : Nat} {c d : Claimed} {result : DispatchResult}
    (hc : c ∈ unsent (τ.sys.processes p))
    (hd : (τ.sys.processes p).returned = some (d, result)) :
    d.command.taskId ≠ c.command.taskId := by
  have hnd := h.distinct p
  rw [Process.held, List.map_append, List.nodup_append] at hnd
  refine fun heq => hnd.2.2 _ (List.mem_map_of_mem hc) _ (List.mem_map_of_mem (a := d) ?_) heq.symm
  simp [hd]

/-- A punctual tick lets no send outlive its lease. -/
theorem tick (h : LeaseInv n cfg τ) {now : Int} (hpunct : Punctual n cfg τ (.tick now))
    (hstep : step n cfg τ (.tick now) = some τ') : LeaseInv n cfg τ' := by
  obtain ⟨hle, rfl⟩ := step_tick hstep
  exact
    { beyond := h.beyond
      distinct := h.distinct
      queued := fun p c hc hlive => h.queued p c hc (Claimed.live_mono hlive hle)
      sending := fun p c hc =>
        ⟨hpunct p (h.lt_of_unsent (mem_unsent.mpr (.inr hc))) c hc, (h.sending p c hc).2⟩
      exclusive := fun p q c hc d hd hlc hld =>
        h.exclusive p q c hc d hd (Claimed.live_mono hlc hle) (Claimed.live_mono hld hle) }

/-- The row of a command with a live lease after an action. -/
theorem row_step (h : LeaseInv n cfg τ) (hdist : DistinctWorkers n cfg)
    (hreach : τ.sys.Reachable cfg) {a : Action} (hstep : step n cfg τ (.act a) = some τ')
    {p : Nat} {c : Claimed} (hc : c ∈ unsent (τ.sys.processes p))
    (hlive : c.live τ.clock = true) (hheld : Holds cfg τ.sys.store p c) :
    Holds cfg τ'.sys.store p c ∨ Ended τ'.sys.store c ∧
      ((∃ now ids, a = .expire now ids ∧ c.command.taskId ∈ ids) ∨
        ∃ now r, a = .ingest now r ∧ r.envelope.taskId = some c.command.taskId ∧
          Accepts cfg now r τ.sys.store) := by
  obtain ⟨hproc, hread, hsys, -⟩ := step_act hstep
  exact System.holds_step hdist hreach.signalStore hsys hproc hread (h.lt_of_unsent hc) hlive hheld
    fun d result hd => h.returned_ne hc hd

/-- A step of the system keeps the leases apart, if no two workers share a name. -/
theorem act (h : LeaseInv n cfg τ) (hdist : DistinctWorkers n cfg) (hreach : τ.sys.Reachable cfg)
    {a : Action} (hpunct : Punctual n cfg τ (.act a))
    (hstep : step n cfg τ (.act a) = some τ') : LeaseInv n cfg τ' := by
  obtain ⟨hproc, hread, hsys, hclock⟩ := step_act hstep
  -- a command with a live lease had it before, or the action is its claim
  have hold : ∀ p, ∀ c ∈ unsent (τ'.sys.processes p),
      c ∈ unsent (τ.sys.processes p) ∨ ∃ now ids, a = .claim p now ids ∧ now ≤ τ.clock ∧
        ∃ t, τ.sys.store.tasks.get? c.command.taskId = some t ∧ claimable now t = true := by
    intro p c hc
    rcases mem_unsent.mp hc with hc | hc
    · rcases System.queue_of_step hsys hc with hc | ⟨now, ids, rfl, -, hrow⟩
      · exact .inl (mem_unsent.mpr (.inl hc))
      · exact .inr ⟨now, ids, rfl, by simpa [Action.reading] using hread, hrow⟩
    · rcases System.sending_of_step hsys hc with hc | ⟨-, hc⟩
      · exact .inl (mem_unsent.mpr (.inr hc))
      · exact .inl (mem_unsent.mpr (.inl (List.mem_of_head? hc)))
  refine ⟨fun p hp => ?_, fun p => System.held_nodup_step hsys (h.distinct p), fun p c hc hlive => ?_,
    fun p c hc => ?_, fun p q c hc d hd hlc hld heq => ?_⟩
  · have hstay := System.process_step hsys p
    have hmine : a.process ≠ some p := by
      intro hmine
      rw [hmine] at hproc
      simp at hproc
      omega
    generalize τ'.sys.processes p = proc at hstay ⊢
    cases hstay with
    | same => exact h.beyond p hp
    | _ => exact absurd rfl hmine
  · rw [hclock] at hlive
    rcases System.queue_of_step hsys hc with hc | ⟨_, _, -, hheld, -⟩
    · have hmem := mem_unsent.mpr (.inl hc)
      have hlt := h.lt_of_unsent hmem
      rcases h.row_step hdist hreach hstep hmem hlive (h.queued p c hc hlive) with
        hheld | ⟨-, ⟨now, ids, rfl, hid⟩ | ⟨now, r, rfl, hid, hacc⟩⟩
      · exact hheld
      · exact absurd hid (hpunct p hlt c hc hlive)
      · exact absurd hacc (hpunct p hlt c hc hlive hid)
    · exact hheld
  · rw [hclock]
    rcases System.sending_of_step hsys hc with hc | ⟨rfl, hc⟩
    · have hmem := mem_unsent.mpr (.inr hc)
      obtain ⟨hlive, hheld | hend⟩ := h.sending p c hc
      · exact ⟨hlive, (h.row_step hdist hreach hstep hmem hlive hheld).imp_right And.left⟩
      · exact ⟨hlive, .inr (System.ended_step hsys hend)⟩
    · have hlive := hpunct c hc
      have hq := List.mem_of_head? hc
      exact ⟨hlive, (h.row_step hdist hreach hstep (mem_unsent.mpr (.inl hq)) hlive
        (h.queued p c hq hlive)).imp_right And.left⟩
  · rw [hclock] at hlc hld
    rcases hold p c hc with hc | ⟨now, ids, rfl, hnow, t, ht, hdue⟩ <;>
      rcases hold q d hd with hd | ⟨now', ids', ha, hnow', t', ht', hdue'⟩
    · exact h.exclusive p q c hc d hd hlc hld heq
    · rw [← heq] at ht'
      exact absurd hdue' (h.not_claimable hc hlc hnow' ht')
    · rw [heq] at ht
      exact absurd hdue (h.not_claimable hd hld hnow ht)
    · cases ha
      rfl

end LeaseInv

/-- The runs in which the processes keep to their leases. -/
abbrev PunctualRun (n : Nat) (cfg : Config) : Timed → Prop :=
  Transition.Exec (step n cfg) (Punctual n cfg) {}

/-- The invariant holds in every state of a punctual run. -/
theorem PunctualRun.leaseInv (hdist : DistinctWorkers n cfg) (h : PunctualRun n cfg τ) :
    LeaseInv n cfg τ :=
  h.invariant_with .initial (fun _ hu => Exec.reachable hu) fun u a v hreach hI hpunct hstep => by
    cases a with
    | tick now => exact hI.tick hpunct hstep
    | act a => exact hI.act hdist hreach hpunct hstep

/-! ## Mutual exclusion -/

/-- No two processes are inside `transport.dispatch` for one task. -/
def SendsExclusive (τ : Timed) : Prop :=
  ∀ p q c d, (τ.sys.processes p).sending = some c → (τ.sys.processes q).sending = some d →
    c.command.taskId = d.command.taskId → p = q

/-- If process `p` starts a send now, the stored lease of the task is its own and has not run
    out. -/
def StartsOwned (n : Nat) (cfg : Config) (τ : Timed) (p : Nat) : Prop :=
  ∀ τ', step n cfg τ (.act (.startSend p)) = some τ' →
    ∃ c t u, (τ'.sys.processes p).sending = some c ∧
      τ.sys.store.tasks.get? c.command.taskId = some t ∧
      t.leaseOwner = some (cfg.worker p).workerId ∧ t.leaseUntil = some u ∧ τ.clock < u

/-- In the runs in which `n` processes of distinct names keep to their leases, sends of one task
    exclude each other, and every send starts under a lease of its own. -/
theorem lease_exclusive (hdist : DistinctWorkers n cfg) (h : PunctualRun n cfg τ) :
    SendsExclusive τ ∧
      ∀ p, Punctual n cfg τ (.act (.startSend p)) → StartsOwned n cfg τ p := by
  have hinv := PunctualRun.leaseInv hdist h
  constructor
  -- two sends in flight are unsent commands with live leases
  · intro p q c d hc hd heq
    exact hinv.exclusive p q c (mem_unsent.mpr (.inr hc)) d (mem_unsent.mpr (.inr hd))
      (hinv.sending p c hc).1 (hinv.sending q d hd).1 heq
  · intro p hpunct τ' hstep
    obtain ⟨-, -, hsys, -⟩ := step_act hstep
    -- the send that starts takes the head of the queue, which was claimed under a live lease
    obtain ⟨c, rest, hp, hsys'⟩ := System.stepStartSend_eq hsys
    have hhead : (τ.sys.processes p).queue.head? = some c := by rw [hp]; rfl
    have hlive := hpunct c hhead
    obtain ⟨t, ht, -, howner, huntil⟩ := hinv.queued p c (List.mem_of_head? hhead) hlive
    obtain ⟨u, hu, hlt⟩ := Claimed.live_iff.mp hlive
    refine ⟨c, t, u, ?_, ht, howner, huntil.trans hu, hlt⟩
    rw [hsys', System.setProcess_self]

end Timed

namespace Deployment

/-- The two agents get their commands from two processes at the same time. -/
def sideBySide : List TimedAction :=
  planned.map .act ++
  [.tick (seconds 1), .act (.claim 0 (seconds 1) [200]), .act (.claim 1 (seconds 1) [201]),
    .tick (seconds 2), .act (.startSend 0)]

@[irreducible] def sideBySideState : Timed :=
  Transition.stateAfter (Timed.step 2 config) (Timed.Punctual 2 config) {} sideBySide
    (by decide +kernel)

theorem sideBySideState_punctual : Timed.PunctualRun 2 config sideBySideState := by
  unfold sideBySideState
  exact Transition.exec_stateAfter

end Deployment

open Deployment in
/-- Two processes that send side by side, each under a lease of its own. -/
theorem lease_exclusive_sideBySide :
    Timed.SendsExclusive sideBySideState ∧ Timed.StartsOwned 2 config sideBySideState 1 ∧
      (Timed.step 2 config sideBySideState (.act (.startSend 1))).isSome = true := by
  have h := Timed.lease_exclusive (fun _ _ _ _ hname => workers_distinct hname)
    sideBySideState_punctual
  exact ⟨h.1, h.2 1 (by decide +kernel), by decide +kernel⟩

/-- The runs in which every `transport.dispatch` call returns within the lease time. -/
abbrev Timed.InTimeRun (n : Nat) (cfg : Config) : Timed → Prop :=
  Transition.Exec (Timed.step n cfg) (Timed.SendsInTime n cfg) {}

namespace Deployment

/-- Process 0 sends both commands of one batch, the second one after 28 seconds. Three seconds
    later its lease has run out, and process 1 claims and sends it as well. -/
@[irreducible] def doubleSend : Timed :=
  Transition.stateAfter (Timed.step 2 config) (Timed.SendsInTime 2 config) {}
    (planned.map .act ++
      [.tick (seconds 1), .act (.claim 0 (seconds 1) [200, 201]), .act (.startSend 0),
        .tick (seconds 29), .act (.endSend 0 acked), .act (.record 0 (seconds 29) 0),
        .act (.startSend 0), .tick (seconds 32), .act (.claim 1 (seconds 32) [201]),
        .act (.startSend 1)])
    (by decide +kernel)

theorem doubleSend_inTime : Timed.InTimeRun 2 config doubleSend := by
  unfold doubleSend
  exact Transition.exec_stateAfter

/-- The first send of the batch takes the whole lease time, and the second is still to come. -/
@[irreducible] def lateStart : Timed :=
  Transition.stateAfter (Timed.step 2 config) (Timed.SendsInTime 2 config) {}
    (planned.map .act ++
      [.tick (seconds 1), .act (.claim 0 (seconds 1) [200, 201]), .act (.startSend 0),
        .tick (seconds 31), .act (.endSend 0 acked), .act (.record 0 (seconds 31) 0),
        .tick (seconds 32)])
    (by decide +kernel)

theorem lateStart_inTime : Timed.InTimeRun 2 config lateStart := by
  unfold lateStart
  exact Transition.exec_stateAfter

end Deployment

open Deployment in
/-- Both halves fail although every single send returns in time: two processes are inside
    `transport.dispatch` for task 201, and its send starts under a lease that has run out. -/
theorem batch_outlasts_lease :
    (¬ ∀ (n : Nat) (cfg : Config), Timed.DistinctWorkers n cfg →
      (∀ p < n, 1 ≤ (cfg.worker p).batchSize) → ∀ τ, Timed.InTimeRun n cfg τ →
      Timed.SendsExclusive τ) ∧
    ¬ ∀ (n : Nat) (cfg : Config), Timed.DistinctWorkers n cfg →
      (∀ p < n, 1 ≤ (cfg.worker p).batchSize) → ∀ τ, Timed.InTimeRun n cfg τ →
      ∀ p, Timed.StartsOwned n cfg τ p := by
  have hdist : Timed.DistinctWorkers 2 config := fun _ _ _ _ hname => workers_distinct hname
  constructor
  · intro hclaim
    -- both processes are sending a command for task 201
    obtain ⟨c, hc, hcid⟩ := (Option.any_eq_true ..).mp
      (by decide +kernel : (doubleSend.sys.processes 0).sending.any (fun c =>
        c.command.taskId = 201) = true)
    obtain ⟨d, hd, hdid⟩ := (Option.any_eq_true ..).mp
      (by decide +kernel : (doubleSend.sys.processes 1).sending.any (fun c =>
        c.command.taskId = 201) = true)
    cases hclaim 2 config hdist (by decide) doubleSend doubleSend_inTime 0 1 c d hc hd
      ((of_decide_eq_true hcid).trans (of_decide_eq_true hdid).symm)
  · intro hclaim
    -- the send starts at second 32 under a lease until second 31
    obtain ⟨τ', hstep, hp⟩ := (Option.any_eq_true ..).mp
      (by decide +kernel : (Timed.step 2 config lateStart (.act (.startSend 0))).any (fun τ' =>
        (τ'.sys.processes 0).sending.any (fun c => c.command.taskId = 201) = true ∧
          (lateStart.sys.store.tasks.get? 201).any (fun t =>
            t.leaseUntil = some (seconds 31)) = true ∧ lateStart.clock = seconds 32) = true)
    obtain ⟨hc, ht, hclock⟩ := of_decide_eq_true hp
    obtain ⟨c, hc, hcid⟩ := (Option.any_eq_true ..).mp hc
    obtain ⟨t, ht, htu⟩ := (Option.any_eq_true ..).mp ht
    obtain ⟨c', t', u, hc', ht', -, hu, hlt⟩ :=
      hclaim 2 config hdist (by decide) lateStart lateStart_inTime 0 τ' hstep
    obtain rfl : c = c' := Option.some_inj.mp (hc.symm.trans hc')
    rw [of_decide_eq_true hcid] at ht'
    obtain rfl : t = t' := Option.some_inj.mp (ht.symm.trans ht')
    rw [of_decide_eq_true htu, Option.some_inj] at hu
    rw [hclock, ← hu] at hlt
    exact absurd hlt (by decide)

end Tomiris
