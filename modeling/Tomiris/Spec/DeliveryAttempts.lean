import Mathlib.Data.List.Perm.Subperm
import Tomiris.Spec.Delivery

/-!
# The number of delivery attempts

`attempt_count` counts the claims of a row, and every claim starts at most one send. Only a worker
that records a retryable failure compares its own attempt with `max_attempts`: a claim does not,
so a row whose last worker has died is claimed again for ever, and so is one that an overtaken
worker puts back to `RETRY`. `CountsOut` excludes the steps that keep a spent row alive.

## Key results

- `starts_le_attempts`: at most one send is started for each claim
- `sends_bounded`: up to the first such step `max_attempts` bounds the sends of every row, and a
  spent row is final or with its last worker; that step breaks this
- `stale_lease_exceeds_attempts`: a run in which a crash leads to one send too many
-/

namespace Tomiris

open NotificationWorker

/-- The attempts of a row for which a send was started, oldest first. -/
def startedAttempts (history : List GatewayEvent) (id : UUID) : List Nat :=
  history.filterMap (GatewayEvent.attemptOf id)

@[simp] theorem startedAttempts_append (history : List GatewayEvent) (e : GatewayEvent)
    (id : UUID) :
    startedAttempts (history ++ [e]) id = startedAttempts history id ++ (e.attemptOf id).toList := by
  unfold startedAttempts
  rw [List.filterMap_append]
  cases h : e.attemptOf id <;> simp [h]

/-! ## One send for each claim -/

section Ledger

variable {w : NotificationWorker} {g g' : Gateway}

/-- The attempt that an action starts for a row. -/
def GatewayAction.attempt (g : Gateway) (id : UUID) : GatewayAction → Option Nat
  | .startSend p => (g.workers p).unstarted?.bind fun d =>
      if d.notificationId = id then some d.attemptCount else none
  | _ => none

/-- A step starts the attempt of its action, or none. -/
theorem startedAttempts_step {a : GatewayAction} (h : Gateway.step w g a = some g') (id : UUID) :
    startedAttempts g'.history id = startedAttempts g.history id ++ (a.attempt g id).toList := by
  cases a with
  | enqueue e =>
    rcases Gateway.step_enqueue h with rfl | ⟨outbox, inserted, -, rfl⟩
    · simp [GatewayAction.attempt]
    · simp [GatewayAction.attempt, GatewayEvent.attemptOf]
  | claim p now leasedAt id' =>
    obtain ⟨row, event, -, -, -, -, rfl⟩ := Gateway.step_claim h
    simp [GatewayAction.attempt, GatewayEvent.attemptOf]
  -- the attempt is that of the delivery in hand
  | startSend p =>
    obtain ⟨d, hp, rfl⟩ := Gateway.step_startSend h
    simp [GatewayAction.attempt, GatewayEvent.attemptOf, hp, WorkerPhase.unstarted?]
  | endSend p result =>
    obtain ⟨d, -, rfl⟩ := Gateway.step_endSend h
    simp [GatewayAction.attempt]
  | record p now jitter =>
    obtain ⟨d, result, -, rfl⟩ := Gateway.step_record h
    simp [GatewayAction.attempt, GatewayEvent.attemptOf]
  | crash p =>
    rw [Gateway.step_crash h]
    simp [GatewayAction.attempt]

/-- Each claim of a row has an attempt number of its own, and starts at most one send. -/
structure AttemptLedger (g : Gateway) : Prop where
  distinct : ∀ p q d d', (g.workers p).delivery? = some d → (g.workers q).delivery? = some d' →
    d.notificationId = d'.notificationId → d.attemptCount = d'.attemptCount → p = q
  positive : ∀ p d, (g.workers p).delivery? = some d → 1 ≤ d.attemptCount
  nodup : ∀ id, (startedAttempts g.history id).Nodup
  counted : ∀ id, ∀ k ∈ startedAttempts g.history id,
    1 ≤ k ∧ ∃ row, g.outbox.get? id = some row ∧ k ≤ row.attemptCount
  unstarted : ∀ p, ∀ d ∈ (g.workers p).unstarted?,
    d.attemptCount ∉ startedAttempts g.history d.notificationId

/-- At the start nothing is queued. -/
theorem AttemptLedger.initial : AttemptLedger Gateway.initial where
  distinct := by simp [Gateway.initial, WorkerPhase.delivery?]
  positive := by simp [Gateway.initial, WorkerPhase.delivery?]
  nodup := by simp [Gateway.initial, startedAttempts]
  counted := by simp [Gateway.initial, startedAttempts]
  unstarted := by simp [Gateway.initial, WorkerPhase.unstarted?]

/-- A claim that is not started yet is held by its worker. -/
theorem delivery_of_unstarted {phase : WorkerPhase} {d : Delivery} (h : d ∈ phase.unstarted?) :
    phase.delivery? = some d := by
  rw [mem_unstarted h]
  rfl

/-- A claim that is not started yet was there before, or has the next attempt of its row. -/
theorem unstarted_attempt_step {a : GatewayAction} {q : Nat} {d : Delivery}
    (h : Gateway.step w g a = some g') (hd : d ∈ (g'.workers q).unstarted?) :
    (d ∈ (g.workers q).unstarted? ∧ a ≠ .startSend q) ∨
    ∃ now leasedAt row, a = .claim q now leasedAt d.notificationId ∧
      g.outbox.get? d.notificationId = some row ∧ d.attemptCount = row.attemptCount + 1 := by
  have hphase := phase_step h q
  generalize g.workers q = phase at hphase ⊢
  generalize g'.workers q = phase' at hphase hd
  cases hphase with
  -- the worker did nothing, so it has not started either
  | same hne =>
    refine .inl ⟨hd, ?_⟩
    rintro rfl
    exact hne rfl
  | @claimed now leasedAt id row event hrow hdue hid =>
    cases hd
    refine .inr ⟨now, leasedAt, row, ?_, ?_, rfl⟩
    · rw [Delivery.notificationId, hid]
    · rw [Delivery.notificationId, hid]
      exact hrow
  | started => cases hd
  | returned => cases hd
  | recorded => cases hd
  | crashed => cases hd

/-- A step keeps the ledger: no attempt of a row is started twice. -/
theorem AttemptLedger.step {a : GatewayAction} (hl : AttemptLedger g) (hinv : OutboxHistory w g)
    (h : Gateway.step w g a = some g') : AttemptLedger g' := by
  -- a claim gives out a number that no delivery in hand and no started send has
  have hfresh : ∀ {id row}, g.outbox.get? id = some row → ∀ p d,
      (g.workers p).delivery? = some d → d.notificationId = id →
      d.attemptCount < row.attemptCount + 1 := by
    intro id row hget p d hd hid
    obtain ⟨row₁, hget₁, hle⟩ := hinv.deliveries p d hd
    rw [hid, hget] at hget₁
    cases hget₁
    omega
  have hcounted : ∀ id, ∀ k ∈ startedAttempts g.history id,
      1 ≤ k ∧ ∃ row, g'.outbox.get? id = some row ∧ k ≤ row.attemptCount := by
    intro id k hk
    obtain ⟨hpos, row, hget, hle⟩ := hl.counted id k hk
    obtain ⟨row', hget', hchange⟩ := row_step h hget
    exact ⟨hpos, row', hget', Nat.le_trans hle hchange.attemptCount_le⟩
  refine ⟨?_, ?_, ?_, ?_, ?_⟩
  · intro p q d d' hd hd' hid hcount
    rcases delivery_step h hd with hold | ⟨now, leasedAt, row, ha, hget, heq⟩
    · rcases delivery_step h hd' with hold' | ⟨now, leasedAt, row, ha, hget, heq⟩
      · exact hl.distinct p q d d' hold hold' hid hcount
      · have := hfresh hget p d hold hid
        omega
    · rcases delivery_step h hd' with hold' | ⟨now', leasedAt', row', ha', -, -⟩
      · have := hfresh hget q d' hold' hid.symm
        omega
      · rw [ha] at ha'
        simp only [GatewayAction.claim.injEq] at ha'
        exact ha'.1
  · intro p d hd
    rcases delivery_step h hd with hold | ⟨now, leasedAt, row, -, -, heq⟩
    · exact hl.positive p d hold
    · omega
  · intro id
    rw [startedAttempts_step h]
    cases hnew : a.attempt g id with
    | none => simpa using hl.nodup id
    | some k =>
      rw [Option.toList_some]
      refine (hl.nodup id).append (List.nodup_singleton k) ?_
      rw [List.disjoint_singleton]
      cases a with
      | startSend p =>
        obtain ⟨d, hd, heq⟩ := Option.bind_eq_some_iff.mp hnew
        split at heq
        · rename_i hid
          cases heq
          rw [← hid]
          exact hl.unstarted p d hd
        · cases heq
      | _ => cases hnew
  · intro id k hk
    rw [startedAttempts_step h, List.mem_append] at hk
    rcases hk with hk | hk
    · exact hcounted id k hk
    · -- the attempt of a claim in hand
      rw [Option.mem_toList] at hk
      cases a with
      | startSend p =>
        obtain ⟨d, hd, heq⟩ := Option.bind_eq_some_iff.mp hk
        split at heq
        · rename_i hid
          cases heq
          have hd' := delivery_of_unstarted hd
          obtain ⟨row, hget, hle⟩ := hinv.deliveries p d hd'
          obtain ⟨row', hget', hchange⟩ := row_step h hget
          refine ⟨hl.positive p d hd', row', ?_, Nat.le_trans hle hchange.attemptCount_le⟩
          rw [← hid]
          exact hget'
        · cases heq
      | _ => cases hk
  · intro q d hd
    rw [startedAttempts_step h, List.mem_append, not_or]
    rcases unstarted_attempt_step h hd with ⟨hold, hne⟩ | ⟨now, leasedAt, row, rfl, hget, heq⟩
    · refine ⟨hl.unstarted q d hold, ?_⟩
      rw [Option.mem_toList]
      intro hnew
      cases a with
      | startSend p =>
        obtain ⟨d₁, hd₁, heq⟩ := Option.bind_eq_some_iff.mp hnew
        split at heq
        · rename_i hid
          simp only [Option.some.injEq] at heq
          have hp := hl.distinct p q d₁ d (delivery_of_unstarted hd₁)
            (delivery_of_unstarted hold) hid heq
          exact hne (by rw [hp])
        · cases heq
      | _ => cases hnew
    · refine ⟨?_, by simp [GatewayAction.attempt]⟩
      intro hmem
      obtain ⟨-, row₁, hget₁, hle⟩ := hl.counted _ _ hmem
      rw [hget] at hget₁
      cases hget₁
      omega

/-- The ledger holds in every reachable state. -/
theorem Gateway.Reachable.attemptLedger (h : g.Reachable w) : AttemptLedger g := by
  refine h.invariant_with (J := OutboxHistory w) .initial ?_ ?_
  · intro u hu
    exact Gateway.Reachable.outboxHistory hu
  · intro u a v hinv hl _ hstep
    exact hl.step hinv hstep

/-- At most one send is started for each claim of a row. -/
theorem starts_le_attempts {row : NotificationOutbox} (h : g.Reachable w)
    (hmem : row ∈ g.outbox.rows) :
    (startedAttempts g.history row.notificationId).length ≤ row.attemptCount := by
  have hl := h.attemptLedger
  have hsub : startedAttempts g.history row.notificationId ⊆ List.range' 1 row.attemptCount := by
    intro k hk
    obtain ⟨hpos, row', hget, hle⟩ := hl.counted _ _ hk
    have hself := Table.get?_of_mem hmem
    rw [key_notification, hget] at hself
    cases hself
    rw [List.mem_range'_1]
    omega
  have hlen := ((hl.nodup row.notificationId).subperm hsub).length_le
  rwa [List.length_range'] at hlen

end Ledger

/-! ## The bound -/

/-- No step keeps a row alive whose `limit` attempts are used up: it is not claimed again, no
    failure of an earlier attempt puts it back to `RETRY`, and the worker with its last attempt
    does not die. -/
def CountsOut (limit : Nat) (g : Gateway) : GatewayAction → Prop
  | .claim _ _ _ id => ∀ row ∈ g.outbox.get? id, row.attemptCount < limit
  | .record p _ _ => ∀ r ∈ (g.workers p).returned?, ∀ row ∈ g.outbox.get? r.1.notificationId,
      row.status = .sending → r.2.success = false → r.2.retryable = true →
      r.1.attemptCount < limit → row.attemptCount < limit
  | .crash p => ∀ d ∈ (g.workers p).delivery?, ∀ row ∈ g.outbox.get? d.notificationId,
      row.status = .sending → d.attemptCount = row.attemptCount → row.attemptCount < limit
  | _ => True

instance (limit : Nat) (g : Gateway) : ∀ a, Decidable (CountsOut limit g a)
  | .claim _ _ _ id =>
    inferInstanceAs (Decidable (∀ row ∈ g.outbox.get? id, row.attemptCount < limit))
  | .record p _ _ => inferInstanceAs (Decidable (∀ r ∈ (g.workers p).returned?,
      ∀ row ∈ g.outbox.get? r.1.notificationId, row.status = .sending → r.2.success = false →
      r.2.retryable = true → r.1.attemptCount < limit → row.attemptCount < limit))
  | .crash p => inferInstanceAs (Decidable (∀ d ∈ (g.workers p).delivery?,
      ∀ row ∈ g.outbox.get? d.notificationId, row.status = .sending →
      d.attemptCount = row.attemptCount → row.attemptCount < limit))
  | .enqueue _ | .startSend _ | .endSend .. => .isTrue trivial

/-- A row whose attempts are used up is final, or its last attempt is still under way. -/
def SpentSettled (limit : Nat) (g : Gateway) : Prop :=
  ∀ row ∈ g.outbox.rows, limit ≤ row.attemptCount → row.attemptCount = limit ∧
    (row.status.final = true ∨ row.status = .sending ∧ ∃ p d, (g.workers p).delivery? = some d ∧
      d.notificationId = row.notificationId ∧ d.attemptCount = limit)

section Bound

variable {w : NotificationWorker} {g g' : Gateway}

/-- The last attempt of a row that stays `SENDING` stays in hand, given that its worker lives. -/
theorem last_attempt_kept {limit p : Nat} {a : GatewayAction} {d : Delivery}
    {row row' : NotificationOutbox} (hcond : CountsOut limit g a)
    (h : Gateway.step w g a = some g') (hd : (g.workers p).delivery? = some d)
    (hget : g.outbox.get? d.notificationId = some row) (hs : row.status = .sending)
    (hget' : g'.outbox.get? d.notificationId = some row') (hs' : row'.status = .sending)
    (hcount : row.attemptCount = limit) (hlast : d.attemptCount = limit) :
    (g'.workers p).delivery? = some d := by
  have hphase := phase_step h p
  generalize hp : g.workers p = phase at hphase
  rw [hp] at hd
  generalize g'.workers p = phase' at hphase ⊢
  cases hphase with
  | same _ => exact hd
  | claimed _ _ _ => cases hd
  | started => exact hd
  | returned => exact hd
  | @recorded now jitter d₁ result =>
    -- a recorded result moves the row on
    cases hd
    obtain ⟨d₂, result₂, hp₂, rfl⟩ := Gateway.step_record h
    rw [hp] at hp₂
    cases hp₂
    rw [Gateway.log_outbox, Gateway.setWorker_outbox] at hget'
    rcases record_cases now jitter d result g.outbox with ⟨-, hnot⟩ | ⟨row₁, hget₁, -, heq⟩
    · exact absurd hs (hnot row hget)
    · rw [hget] at hget₁
      cases hget₁
      have hkey : row.notificationId = d.notificationId := Table.key_of_get? hget
      have hself := Table.get?_set_self (a := w.recordedRow now jitter d.attemptCount result row)
        (b := row) (by simpa [hkey] using hget)
      rw [key_notification, recordedRow_fields, hkey, ← heq, hget'] at hself
      cases hself
      exact absurd hs' (recordedRow_not_sending now jitter d.attemptCount result)
  | crashed =>
    have := hcond d (by rw [hp]; exact hd) row hget hs (by omega)
    omega

/-- A step that counts out keeps the spent rows settled. -/
theorem SpentSettled.step {a : GatewayAction} (hmax : 1 ≤ w.maxAttempts)
    (hspent : SpentSettled w.maxAttempts g) (hcond : CountsOut w.maxAttempts g a)
    (h : Gateway.step w g a = some g') : SpentSettled w.maxAttempts g' := by
  intro row' hmem' hused
  have hget' := Table.get?_of_mem hmem'
  cases hget : g.outbox.get? row'.notificationId with
  -- a new row has no attempt yet
  | none =>
    obtain ⟨e, -, rfl, -⟩ := row_origin h hget hget'
    simp only [outboxRow] at hused
    omega
  | some row =>
    obtain ⟨row₁, hget₁, hchange⟩ := row_step h hget
    rw [key_notification, hget₁] at hget'
    cases hget'
    have hmem := Table.mem_of_get? hget
    cases hchange with
    -- untouched: its last attempt is still in hand, or it was settled
    | same _ =>
      obtain ⟨hcount, hstatus⟩ := hspent _ hmem hused
      refine ⟨hcount, ?_⟩
      rcases hstatus with hfinal | ⟨hs, p, d, hd, hid, hlast⟩
      · exact .inl hfinal
      · rw [← hid] at hget hget₁
        exact .inr ⟨hs, p, d, last_attempt_kept hcond h hd hget hs hget₁ hs hcount hlast, hid,
          hlast⟩
    -- claimed: this is the last attempt, and the worker holds it
    | @claimed p now leasedAt _ hdue =>
      have hlt : row.attemptCount < w.maxAttempts := hcond row hget
      obtain ⟨row₂, event, -, hget₂, -, hfields, rfl⟩ := Gateway.step_claim h
      have hrow : g.outbox.get? row.notificationId = some row := hget
      rw [hrow] at hget₂
      cases hget₂
      have hcount : row.attemptCount + 1 = w.maxAttempts := by
        simp only [claimedRow] at hused
        omega
      refine ⟨hcount, .inr ⟨rfl, p, ⟨event, row.attemptCount + 1⟩, ?_, ?_, hcount⟩⟩
      · rw [Gateway.log_workers, Gateway.setWorker_self]
        rfl
      · rw [Delivery.notificationId, hfields]
        rfl
    -- recorded: a spent row is settled, since no attempts are left
    | @recorded p now jitter _ d result hp hid hs =>
      rw [recordedRow_attemptCount] at hused ⊢
      obtain ⟨hcount, -⟩ := hspent row hmem hused
      refine ⟨hcount, .inl ?_⟩
      unfold recordedRow
      split
      · rfl
      · rename_i hfailed
        split
        · rfl
        · rename_i hretryable
          split
          · rfl
          · rename_i hleft
            have hrow : g.outbox.get? d.notificationId = some row := by
              rw [hid, ← @recordedRow_fields w row now jitter d.attemptCount result]
              exact hget
            have hearly : d.attemptCount < w.maxAttempts := by omega
            have := hcond (d, result) (by rw [hp]; rfl) row hrow hs (by simpa using hfailed)
              (by simpa using hretryable) hearly
            omega

/-- A step that keeps a spent row alive leaves one that is neither final nor in hand. -/
theorem spent_kept_alive {a : GatewayAction} (hreach : g.Reachable w)
    (h : Gateway.step w g a = some g') (hcond : ¬ CountsOut w.maxAttempts g a) :
    ¬ SpentSettled w.maxAttempts g' := by
  intro hspent
  cases a with
  | claim p now leasedAt id =>
    simp only [CountsOut, not_forall, not_lt] at hcond
    obtain ⟨row, hget, hused⟩ := hcond
    obtain ⟨row', hget', hchange⟩ := row_step h hget
    have hkey : row.notificationId = id := Table.key_of_get? hget
    have hrow' := hchange.of_claim (by rw [hkey])
    subst hrow'
    have := (hspent _ (Table.mem_of_get? hget') (by simp only [claimedRow]; omega)).1
    simp only [claimedRow] at this
    omega
  | record p now jitter =>
    simp only [CountsOut, not_forall, not_lt] at hcond
    obtain ⟨r, hr, row, hget, hs, hfailed, hretryable, hleft, hused⟩ := hcond
    have hp := mem_returned? hr
    obtain ⟨d, result, hp', rfl⟩ := Gateway.step_record h
    rw [hp] at hp'
    cases hp'
    rcases record_cases now jitter r.1 r.2 g.outbox with ⟨-, hnot⟩ | ⟨row₁, hget₁, -, heq⟩
    · exact hnot row hget hs
    · rw [hget] at hget₁
      cases hget₁
      have hkey : row.notificationId = r.1.notificationId := Table.key_of_get? hget
      have hself := Table.get?_set_self (a := w.recordedRow now jitter r.1.attemptCount r.2 row)
        (b := row) (by simpa [hkey] using hget)
      have hretry : (w.recordedRow now jitter r.1.attemptCount r.2 row).status = .retry := by
        unfold recordedRow
        rw [if_neg (by simp [hfailed]), if_neg (by simp [hretryable]), if_neg (by omega)]
      have hmem : w.recordedRow now jitter r.1.attemptCount r.2 row ∈
          (w.record now jitter r.1 r.2 g.outbox).rows := by
        rw [heq]
        exact Table.mem_of_get? hself
      have hstatus := (hspent _ hmem (by rw [recordedRow_attemptCount]; exact hused)).2
      rw [hretry] at hstatus
      rcases hstatus with hfinal | ⟨hsend, -⟩
      · cases hfinal
      · cases hsend
  | crash p =>
    simp only [CountsOut, not_forall, not_lt] at hcond
    obtain ⟨d, hd, row, hget, hs, hlast, hused⟩ := hcond
    rw [Gateway.step_crash h] at hspent
    obtain ⟨hcount, hstatus⟩ := hspent row (Table.mem_of_get? hget) hused
    rcases hstatus with hfinal | ⟨-, q, d', hd', hid', hlast'⟩
    · rw [hs] at hfinal
      cases hfinal
    · -- no other worker has the last attempt in hand
      by_cases hq : q = p
      · subst hq
        rw [Gateway.setWorker_self] at hd'
        cases hd'
      · rw [Gateway.setWorker_ne hq] at hd'
        have hkey : row.notificationId = d.notificationId := Table.key_of_get? hget
        exact hq (hreach.attemptLedger.distinct q p d' d hd' hd (hid'.trans hkey) (by omega))
  | _ => exact hcond trivial

/-- `max_attempts` bounds the sends of every row until the first step that keeps a spent row
    alive: up to it every spent row is final or with the worker that has its last attempt, and
    that step breaks this. -/
theorem sends_bounded (hmax : 1 ≤ w.maxAttempts)
    (h : Transition.Exec (Gateway.step w) (CountsOut w.maxAttempts) .initial g) :
    (∀ row ∈ g.outbox.rows,
      (startedAttempts g.history row.notificationId).length ≤ w.maxAttempts) ∧
    SpentSettled w.maxAttempts g ∧
    ∀ a g', Gateway.step w g a = some g' → ¬ CountsOut w.maxAttempts g a →
      ¬ SpentSettled w.maxAttempts g' := by
  have hspent : SpentSettled w.maxAttempts g := by
    refine h.invariant (by simp [SpentSettled, Gateway.initial, Table.empty]) ?_
    intro u a v hu hcond hstep
    exact hu.step hmax hcond hstep
  refine ⟨?_, hspent, ?_⟩
  · intro row hmem
    have hle := starts_le_attempts h.any hmem
    -- a row has at most its counted starts, and a spent one exactly the maximum
    by_cases hused : w.maxAttempts ≤ row.attemptCount
    · have := (hspent row hmem hused).1
      omega
    · omega
  · intro a g' hstep hcond
    exact spent_kept_alive h.any hstep hcond

end Bound

namespace Deployment

/-- A worker that tries every row twice. -/
def twiceNotifier : NotificationWorker := { notifier with maxAttempts := 2 }

/-- Worker 0 has died with the first attempt, and the second one of worker 1 has failed. -/
@[irreducible] def deadLettered : Gateway :=
  Transition.stateAfter (Gateway.step twiceNotifier) (CountsOut 2) .initial
    [.enqueue systemTest, .claim 0 0 0 1, .startSend 0, .crash 0,
      .claim 1 (seconds 60) (seconds 60) 1, .startSend 1,
      .endSend 1 ⟨false, true, some "TELEGRAM_TIMEOUT"⟩, .record 1 (seconds 61) 0]
    (by decide +kernel)

theorem deadLettered_exec : Transition.Exec (Gateway.step twiceNotifier) (CountsOut 2) .initial
    deadLettered := by
  unfold deadLettered
  exact Transition.exec_stateAfter

/-- Two workers have died sending the event, and a third one sends it. -/
@[irreducible] def sentThrice : Gateway :=
  Transition.stateAfter (Gateway.step twiceNotifier) Transition.Any .initial
    [.enqueue systemTest, .claim 0 0 0 1, .startSend 0, .crash 0,
      .claim 1 (seconds 60) (seconds 60) 1, .startSend 1, .crash 1,
      .claim 2 (seconds 120) (seconds 120) 1, .startSend 2]
    (by decide +kernel)

theorem sentThrice_reachable : sentThrice.Reachable twiceNotifier := by
  unfold sentThrice
  exact Transition.exec_stateAfter

end Deployment

open Deployment in
/-- A row that was sent twice is dead-lettered. -/
theorem sends_bounded_deadLettered :
    (deadLettered.outbox.rows.map (·.status)) = [.deadLetter] ∧
      ∀ row ∈ deadLettered.outbox.rows,
        (startedAttempts deadLettered.history row.notificationId).length ≤ 2 :=
  ⟨by decide +kernel,
    (sends_bounded (w := twiceNotifier) (by decide) deadLettered_exec).1⟩

open Deployment in
/-- With two attempts allowed, the third worker sends the row once more. -/
theorem stale_lease_exceeds_attempts :
    ¬ ∀ (w : NotificationWorker) (g : Gateway), 1 ≤ w.maxAttempts → g.Reachable w →
      ∀ row ∈ g.outbox.rows,
        (startedAttempts g.history row.notificationId).length ≤ w.maxAttempts := by
  intro hclaim
  have hall := hclaim twiceNotifier sentThrice (by decide) sentThrice_reachable
  have hthree : sentThrice.outbox.rows.all (fun row =>
      (startedAttempts sentThrice.history row.notificationId).length = 3) = true ∧
      sentThrice.outbox.rows.length = 1 := by
    decide +kernel
  obtain ⟨row, hrow⟩ := List.length_eq_one_iff.mp hthree.2
  have hle := hall row (by rw [hrow]; exact List.mem_singleton_self _)
  have heq := List.all_eq_true.mp hthree.1 row (by rw [hrow]; exact List.mem_singleton_self _)
  rw [of_decide_eq_true heq] at hle
  exact absurd hle (by decide)

end Tomiris
