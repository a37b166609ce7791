import Tomiris.Notifications.Worker

/-!
# The outbox under any interleaving

The delivery columns of a row against the history of the gateway. A row is written by three
operations: a producer adds it, a claim leases it, and a recorded result moves it on, whoever
holds the lease by then.

## Key results

- `row_step`: what a step can do to one row
- `outbox_state_machine`: the columns of every row in every reachable state, and the statuses
  that no later step leaves
-/

namespace Tomiris

open NotificationWorker

/-! ## Reading the history -/

namespace GatewayEvent

/-- The end of the lease, if the entry is a claim of the row. -/
def leaseOf (id : UUID) : GatewayEvent → Option Int
  | claimed id' leaseUntil => if id' = id then some leaseUntil else none
  | _ => none

/-- The event, if the entry enqueued one with this idempotency key. -/
def enqueuedAs (key : String) : GatewayEvent → Option NotificationEvent
  | enqueued e => if e.idempotencyKey = key then some e else none
  | _ => none

end GatewayEvent

/-- The leases of the committed claims of a row, oldest first. -/
def leases (history : List GatewayEvent) (id : UUID) : List Int :=
  history.filterMap (GatewayEvent.leaseOf id)

/-- The first event that was enqueued with this idempotency key. -/
def firstEnqueued (history : List GatewayEvent) (key : String) : Option NotificationEvent :=
  history.findSome? (GatewayEvent.enqueuedAs key)

/-- A lease is logged behind the ones before it. -/
@[simp] theorem leases_append (history : List GatewayEvent) (e : GatewayEvent) (id : UUID) :
    leases (history ++ [e]) id = leases history id ++ (e.leaseOf id).toList := by
  unfold leases
  rw [List.filterMap_append]
  cases h : e.leaseOf id <;> simp [h]

/-- What is enqueued later is not the first. -/
theorem firstEnqueued_append {history : List GatewayEvent} {key : String} {e : NotificationEvent}
    (h : firstEnqueued history key = some e) (entry : GatewayEvent) :
    firstEnqueued (history ++ [entry]) key = some e := by
  unfold firstEnqueued at *
  rw [List.findSome?_append, h]
  rfl

/-- An event whose key is new is the first one with it. -/
theorem firstEnqueued_new {history : List GatewayEvent} {e : NotificationEvent}
    (h : ∀ e', .enqueued e' ∈ history → e'.idempotencyKey ≠ e.idempotencyKey) :
    firstEnqueued (history ++ [.enqueued e]) e.idempotencyKey = some e := by
  have hnone : history.findSome? (GatewayEvent.enqueuedAs e.idempotencyKey) = none := by
    rw [List.findSome?_eq_none_iff]
    intro entry hmem
    cases entry with
    | enqueued e' => exact if_neg (h e' hmem)
    | _ => rfl
  unfold firstEnqueued
  rw [List.findSome?_append, hnone]
  simp [GatewayEvent.enqueuedAs]

/-! ## The steps -/

namespace Gateway

variable {w : NotificationWorker} {g g' : Gateway}

/-- A worker's phase is not in the database. -/
@[simp] theorem setWorker_outbox (p : Nat) (phase : WorkerPhase) :
    (g.setWorker p phase).outbox = g.outbox := rfl

/-- Nor in the log. -/
@[simp] theorem setWorker_history (p : Nat) (phase : WorkerPhase) :
    (g.setWorker p phase).history = g.history := rfl

/-- The phase of the worker is set. -/
@[simp] theorem setWorker_self (p : Nat) (phase : WorkerPhase) :
    (g.setWorker p phase).workers p = phase := Function.update_self ..

/-- The ones of the others are not. -/
@[simp] theorem setWorker_ne {p q : Nat} (h : q ≠ p) (phase : WorkerPhase) :
    (g.setWorker p phase).workers q = g.workers q := Function.update_of_ne h ..

/-- The log is beside the database. -/
@[simp] theorem log_outbox (e : GatewayEvent) : (g.log e).outbox = g.outbox := rfl

/-- And beside the workers. -/
@[simp] theorem log_workers (e : GatewayEvent) : (g.log e).workers = g.workers := rfl

/-- It only grows. -/
@[simp] theorem log_history (e : GatewayEvent) : (g.log e).history = g.history ++ [e] := rfl

/-- What an enqueueing transaction does: nothing, or it finds the key or adds the row. -/
theorem step_enqueue {e : NotificationEvent} (h : step w g (.enqueue e) = some g') :
    g' = g ∨ ∃ outbox inserted, enqueueNotification e g.outbox = .ok (outbox, inserted) ∧
      g' = ({ g with outbox }.log (.enqueued e)) := by
  simp only [step] at h
  split at h
  · exact .inl (by simpa using h.symm)
  · rename_i outbox inserted henq
    exact .inr ⟨outbox, inserted, henq, by simpa using h.symm⟩

/-- What a claim has found, and what it leaves. -/
theorem step_claim {p : Nat} {now leasedAt : Int} {id : UUID}
    (h : step w g (.claim p now leasedAt id) = some g') :
    ∃ row event, g.workers p = .idle ∧ g.outbox.get? id = some row ∧
      claimable now row = true ∧ event.toNotificationFields = row.toNotificationFields ∧
      g' = (({ g with outbox := g.outbox.set (w.claimedRow leasedAt row) }.setWorker p
        (.claimed ⟨event, row.attemptCount + 1⟩)).log
          (.claimed id (leasedAt + seconds w.sendingLeaseSeconds))) := by
  simp only [step] at h
  split at h
  · rename_i outbox d hidle hclaim
    unfold claim at hclaim
    split at hclaim
    · cases hclaim
    · rename_i row hrow
      split at hclaim
      · rename_i hdue
        obtain ⟨event, hevent, heq⟩ := Option.map_eq_some_iff.mp hclaim
        simp only [Prod.mk.injEq] at heq
        obtain ⟨rfl, rfl⟩ := heq
        -- an event is read from its row only if it is valid
        have hfields : event.toNotificationFields = row.toNotificationFields := by
          unfold NotificationOutbox.event? at hevent
          split at hevent
          · cases hevent
            rfl
          · cases hevent
        exact ⟨row, event, hidle, hrow, hdue, hfields, by simpa using h.symm⟩
      · cases hclaim
  · cases h

/-- A worker starts to send what it has claimed. -/
theorem step_startSend {p : Nat} (h : step w g (.startSend p) = some g') :
    ∃ d, g.workers p = .claimed d ∧
      g' = (g.setWorker p (.sending d)).log (.started d.notificationId d.attemptCount) := by
  simp only [step] at h
  split at h
  · rename_i d hp
    exact ⟨d, hp, by simpa using h.symm⟩
  · cases h

/-- And gets a result. -/
theorem step_endSend {p : Nat} {result : SendResult} (h : step w g (.endSend p result) = some g') :
    ∃ d, g.workers p = .sending d ∧ g' = g.setWorker p (.returned d result) := by
  simp only [step] at h
  split at h
  · rename_i d hp
    exact ⟨d, hp, by simpa using h.symm⟩
  · cases h

/-- Which it writes into the row that it finds then. -/
theorem step_record {p : Nat} {now : Int} {jitter : Rat}
    (h : step w g (.record p now jitter) = some g') :
    ∃ d result, g.workers p = .returned d result ∧
      g' = ({ g with outbox := w.record now jitter d result g.outbox }.setWorker p .idle).log
        (.recorded d.notificationId result.success) := by
  simp only [step] at h
  split at h
  · rename_i d result hp
    exact ⟨d, result, hp, by simpa using h.symm⟩
  · cases h

/-- A crash forgets all of it. -/
theorem step_crash {p : Nat} (h : step w g (.crash p) = some g') : g' = g.setWorker p .idle := by
  simpa [step] using h.symm

end Gateway

/-! ## One row -/

/-- How an action changes a row. -/
inductive RowChange (w : NotificationWorker) (g : Gateway) :
    GatewayAction → NotificationOutbox → NotificationOutbox → Prop
  | same {a : GatewayAction} {row : NotificationOutbox} :
      (∀ p now leasedAt, a ≠ .claim p now leasedAt row.notificationId) → RowChange w g a row row
  | claimed {p : Nat} {now leasedAt : Int} {row : NotificationOutbox} :
      claimable now row = true →
      RowChange w g (.claim p now leasedAt row.notificationId) row (w.claimedRow leasedAt row)
  | recorded {p : Nat} {now : Int} {jitter : Rat} {row : NotificationOutbox} {d : Delivery}
      {result : SendResult} :
      g.workers p = .returned d result → d.notificationId = row.notificationId →
      row.status = .sending →
      RowChange w g (.record p now jitter) row (w.recordedRow now jitter d.attemptCount result row)

section Rows

variable {w : NotificationWorker} {g g' : Gateway} {row row' : NotificationOutbox}

/-- A claim does not change the notification. -/
@[simp] theorem claimedRow_fields (leasedAt : Int) :
    (w.claimedRow leasedAt row).toNotificationFields = row.toNotificationFields := rfl

/-- Nor does a result. -/
@[simp] theorem recordedRow_fields (now : Int) (jitter : Rat) (attempt : Nat)
    (result : SendResult) :
    (w.recordedRow now jitter attempt result row).toNotificationFields =
      row.toNotificationFields := by
  unfold recordedRow
  split
  · rfl
  · split
    · rfl
    · split <;> rfl

/-- Only a claim counts. -/
@[simp] theorem recordedRow_attemptCount (now : Int) (jitter : Rat) (attempt : Nat)
    (result : SendResult) :
    (w.recordedRow now jitter attempt result row).attemptCount = row.attemptCount := by
  unfold recordedRow
  split
  · rfl
  · split
    · rfl
    · split <;> rfl

/-- The event of a row never changes. -/
theorem RowChange.fields {a : GatewayAction} (h : RowChange w g a row row') :
    row'.toNotificationFields = row.toNotificationFields := by
  cases h with
  | same _ => rfl
  | claimed _ => rfl
  | recorded _ _ _ => exact recordedRow_fields ..

/-- A row keeps its key. -/
theorem RowChange.notificationId {a : GatewayAction} (h : RowChange w g a row row') :
    row'.notificationId = row.notificationId :=
  congrArg NotificationFields.notificationId h.fields

/-- No row leaves a final status. -/
theorem RowChange.of_final {a : GatewayAction} (h : RowChange w g a row row')
    (hfinal : row.status.final = true) : row' = row := by
  cases h with
  | same _ => rfl
  | claimed hdue =>
    -- the claim query names the three open statuses
    unfold claimable at hdue
    cases hs : row.status <;> simp [hs, NotificationStatus.final] at hdue hfinal
  | recorded _ _ hs => simp [hs, NotificationStatus.final] at hfinal

/-- The second transaction either leaves the table alone or moves a `SENDING` row on. -/
theorem record_cases (now : Int) (jitter : Rat) (d : Delivery) (result : SendResult)
    (outbox : Table NotificationOutbox) :
    (w.record now jitter d result outbox = outbox ∧
      ∀ row, outbox.get? d.notificationId = some row → row.status ≠ .sending) ∨
    ∃ row, outbox.get? d.notificationId = some row ∧ row.status = .sending ∧
      w.record now jitter d result outbox =
        outbox.set (w.recordedRow now jitter d.attemptCount result row) := by
  unfold NotificationWorker.record
  cases hrow : outbox.get? d.notificationId with
  | none => exact .inl ⟨rfl, by simp⟩
  | some row =>
    simp only
    -- a row that is not `SENDING` any more is left alone
    split
    · rename_i hs
      refine .inl ⟨rfl, ?_⟩
      intro row' heq
      cases heq
      exact hs
    · rename_i hs
      exact .inr ⟨row, rfl, not_not.mp hs, rfl⟩

/-- Every step keeps the rows, each of them changed as its action does. -/
theorem row_step {a : GatewayAction} {id : UUID} (h : Gateway.step w g a = some g')
    (hrow : g.outbox.get? id = some row) :
    ∃ row', g'.outbox.get? id = some row' ∧ RowChange w g a row row' := by
  have hkey : row.notificationId = id := Table.key_of_get? hrow
  cases a with
  | enqueue e =>
    rcases Gateway.step_enqueue h with rfl | ⟨outbox, inserted, henq, rfl⟩
    · exact ⟨row, hrow, .same (by simp)⟩
    · rcases enqueueNotification_cases henq with ⟨-, rfl, -⟩ | ⟨-, hrows, -⟩
      · exact ⟨row, hrow, .same (by simp)⟩
      · exact ⟨row, Table.get?_append hrows hrow, .same (by simp)⟩
  -- the claimed row, or another one
  | claim p now leasedAt id' =>
    obtain ⟨row₁, event, -, hrow₁, hdue, -, rfl⟩ := Gateway.step_claim h
    have hkey₁ : row₁.notificationId = id' := Table.key_of_get? hrow₁
    by_cases hid : id' = id
    · rw [hid, hrow] at hrow₁
      cases hrow₁
      refine ⟨w.claimedRow leasedAt row, ?_, ?_⟩
      · have hself := Table.get?_set_self (a := w.claimedRow leasedAt row) (b := row)
          (by simpa [hkey] using hrow)
        simpa [hkey] using hself
      · rw [← hkey₁]
        exact .claimed hdue
    · refine ⟨row, ?_, .same ?_⟩
      · rw [Gateway.log_outbox, Gateway.setWorker_outbox, Table.get?_set_ne (by simpa [hkey₁])]
        exact hrow
      · intro p now leasedAt heq
        cases heq
        exact hid hkey
  | startSend p =>
    obtain ⟨d, -, rfl⟩ := Gateway.step_startSend h
    exact ⟨row, hrow, .same (by simp)⟩
  | endSend p result =>
    obtain ⟨d, -, rfl⟩ := Gateway.step_endSend h
    exact ⟨row, hrow, .same (by simp)⟩
  -- the row of the delivery if it is still `SENDING`
  | record p now jitter =>
    obtain ⟨d, result, hp, rfl⟩ := Gateway.step_record h
    rcases record_cases now jitter d result g.outbox with ⟨heq, -⟩ | ⟨row₁, hrow₁, hs, heq⟩
    · refine ⟨row, ?_, .same (by simp)⟩
      simp only [Gateway.log_outbox, Gateway.setWorker_outbox]
      rw [heq]
      exact hrow
    · have hkey₁ : row₁.notificationId = d.notificationId := Table.key_of_get? hrow₁
      have hnew : (w.recordedRow now jitter d.attemptCount result row₁).notificationId =
          d.notificationId := by rw [recordedRow_fields, hkey₁]
      by_cases hid : d.notificationId = id
      · rw [hid, hrow] at hrow₁
        cases hrow₁
        refine ⟨w.recordedRow now jitter d.attemptCount result row, ?_, .recorded hp ?_ hs⟩
        · have hself := Table.get?_set_self
            (a := w.recordedRow now jitter d.attemptCount result row) (b := row)
            (by simpa [hkey] using hrow)
          rw [Gateway.log_outbox, Gateway.setWorker_outbox, heq]
          simpa [hkey] using hself
        · rw [hid, hkey]
      · refine ⟨row, ?_, .same (by simp)⟩
        rw [Gateway.log_outbox, Gateway.setWorker_outbox, heq,
          Table.get?_set_ne (by simpa [hkey₁] using hid)]
        exact hrow
  | crash p =>
    rw [Gateway.step_crash h]
    exact ⟨row, hrow, .same (by simp)⟩

/-- A row that was not there before has just been enqueued. -/
theorem row_origin {a : GatewayAction} {id : UUID} (h : Gateway.step w g a = some g')
    (hnone : g.outbox.get? id = none) (hrow : g'.outbox.get? id = some row') :
    ∃ e, a = .enqueue e ∧ row' = outboxRow e ∧ g'.history = g.history ++ [.enqueued e] ∧
      ∀ row ∈ g.outbox.rows, row.idempotencyKey ≠ e.idempotencyKey := by
  -- an update in place adds no row
  have hset : ∀ new : NotificationOutbox, (∃ old, g.outbox.get? new.notificationId = some old) →
      (g.outbox.set new).get? id ≠ some row' := by
    intro new hold hget
    obtain ⟨old, hold⟩ := hold
    by_cases hid : new.notificationId = id
    · rw [hid, hnone] at hold
      cases hold
    · rw [Table.get?_set_ne (by simpa using hid), hnone] at hget
      cases hget
  cases a with
  | enqueue e =>
    rcases Gateway.step_enqueue h with rfl | ⟨outbox, inserted, henq, rfl⟩
    · rw [hnone] at hrow
      cases hrow
    · rcases enqueueNotification_cases henq with ⟨-, rfl, -⟩ | ⟨-, hrows, hfree, hkey⟩
      · have : g.outbox.get? id = some row' := hrow
        rw [hnone] at this
        cases this
      · refine ⟨e, rfl, ?_, rfl, hkey⟩
        have hmem : row' ∈ g.outbox.rows ++ [outboxRow e] := by
          rw [← hrows]
          exact Table.mem_of_get? hrow
        rcases List.mem_append.mp hmem with hold | hnew
        · have hid : row'.notificationId = id := Table.key_of_get? hrow
          rw [Table.get?_eq_none] at hnone
          exact absurd hid (hnone row' hold)
        · exact List.mem_singleton.mp hnew
  | claim p now leasedAt id' =>
    obtain ⟨row₁, event, -, hrow₁, -, -, rfl⟩ := Gateway.step_claim h
    have hkey₁ : row₁.notificationId = id' := Table.key_of_get? hrow₁
    exact absurd hrow (hset _ ⟨row₁, by simpa [hkey₁] using hrow₁⟩)
  | record p now jitter =>
    obtain ⟨d, result, -, rfl⟩ := Gateway.step_record h
    rcases record_cases now jitter d result g.outbox with ⟨heq, -⟩ | ⟨row₁, hrow₁, -, heq⟩
    · rw [Gateway.log_outbox, Gateway.setWorker_outbox, heq, hnone] at hrow
      cases hrow
    · have hkey₁ : row₁.notificationId = d.notificationId := Table.key_of_get? hrow₁
      refine absurd ?_ (hset (w.recordedRow now jitter d.attemptCount result row₁) ⟨row₁, ?_⟩)
      · rw [Gateway.log_outbox, Gateway.setWorker_outbox, heq] at hrow
        exact hrow
      · simpa [hkey₁] using hrow₁
  | startSend p =>
    obtain ⟨d, -, rfl⟩ := Gateway.step_startSend h
    rw [Gateway.log_outbox, Gateway.setWorker_outbox, hnone] at hrow
    cases hrow
  | endSend p result =>
    obtain ⟨d, -, rfl⟩ := Gateway.step_endSend h
    rw [Gateway.setWorker_outbox, hnone] at hrow
    cases hrow
  | crash p =>
    rw [Gateway.step_crash h, Gateway.setWorker_outbox, hnone] at hrow
    cases hrow

end Rows

/-! ## One worker -/

/-- How an action moves worker `q` on. -/
inductive PhaseStep (w : NotificationWorker) (g : Gateway) (q : Nat) :
    GatewayAction → WorkerPhase → WorkerPhase → Prop
  | same {a : GatewayAction} {phase : WorkerPhase} : a.worker? ≠ some q → PhaseStep w g q a phase phase
  | claimed {now leasedAt : Int} {id : UUID} {row : NotificationOutbox}
      {event : NotificationEvent} :
      g.outbox.get? id = some row → claimable now row = true → event.notificationId = id →
      PhaseStep w g q (.claim q now leasedAt id) .idle (.claimed ⟨event, row.attemptCount + 1⟩)
  | started {d : Delivery} : PhaseStep w g q (.startSend q) (.claimed d) (.sending d)
  | returned {d : Delivery} {result : SendResult} :
      PhaseStep w g q (.endSend q result) (.sending d) (.returned d result)
  | recorded {now : Int} {jitter : Rat} {d : Delivery} {result : SendResult} :
      PhaseStep w g q (.record q now jitter) (.returned d result) .idle
  | crashed {phase : WorkerPhase} : PhaseStep w g q (.crash q) phase .idle

/-- What one action does to the phase of a worker. -/
theorem phase_step {w : NotificationWorker} {g g' : Gateway} {a : GatewayAction}
    (h : Gateway.step w g a = some g') (q : Nat) :
    PhaseStep w g q a (g.workers q) (g'.workers q) := by
  -- every action but the worker's own leaves its phase alone
  have hother : a.worker? ≠ some q → g'.workers q = g.workers q →
      PhaseStep w g q a (g.workers q) (g'.workers q) := by
    intro hq heq
    rw [heq]
    exact .same hq
  cases a with
  | enqueue e =>
    refine hother (by simp [GatewayAction.worker?]) ?_
    rcases Gateway.step_enqueue h with rfl | ⟨outbox, inserted, -, rfl⟩
    · rfl
    · rfl
  | claim p now leasedAt id =>
    obtain ⟨row, event, hidle, hrow, hdue, hfields, rfl⟩ := Gateway.step_claim h
    by_cases hq : q = p
    · subst hq
      rw [hidle, Gateway.log_workers, Gateway.setWorker_self]
      refine .claimed hrow hdue ?_
      rw [hfields]
      exact Table.key_of_get? hrow
    · exact hother (by simp [GatewayAction.worker?, Ne.symm hq]) (Gateway.setWorker_ne hq _)
  | startSend p =>
    obtain ⟨d, hp, rfl⟩ := Gateway.step_startSend h
    by_cases hq : q = p
    · subst hq
      rw [hp, Gateway.log_workers, Gateway.setWorker_self]
      exact .started
    · exact hother (by simp [GatewayAction.worker?, Ne.symm hq]) (Gateway.setWorker_ne hq _)
  | endSend p result =>
    obtain ⟨d, hp, rfl⟩ := Gateway.step_endSend h
    by_cases hq : q = p
    · subst hq
      rw [hp, Gateway.setWorker_self]
      exact .returned
    · exact hother (by simp [GatewayAction.worker?, Ne.symm hq]) (Gateway.setWorker_ne hq _)
  | record p now jitter =>
    obtain ⟨d, result, hp, rfl⟩ := Gateway.step_record h
    by_cases hq : q = p
    · subst hq
      rw [hp, Gateway.log_workers, Gateway.setWorker_self]
      exact .recorded
    · exact hother (by simp [GatewayAction.worker?, Ne.symm hq]) (Gateway.setWorker_ne hq _)
  | crash p =>
    rw [Gateway.step_crash h]
    by_cases hq : q = p
    · subst hq
      rw [Gateway.setWorker_self]
      exact .crashed
    · rw [Gateway.setWorker_ne hq]
      exact .same (by simp [GatewayAction.worker?, Ne.symm hq])

/-! ## The invariant -/

section Invariant

variable {w : NotificationWorker} {g g' : Gateway} {row row' : NotificationOutbox}

/-- The delivery columns of a row, read off the history. -/
structure RowHistory (w : NotificationWorker) (history : List GatewayEvent)
    (row : NotificationOutbox) : Prop where
  first : ∃ e, firstEnqueued history row.idempotencyKey = some e ∧
    e.toNotificationFields = row.toNotificationFields
  sent_at : row.sentAt.isSome = true ↔ row.status = .sent
  claims : row.attemptCount = (leases history row.notificationId).length
  dead : row.status = .deadLetter → w.maxAttempts ≤ row.attemptCount
  lease : row.status = .sending →
    (leases history row.notificationId).getLast? = some row.nextAttemptAt

/-- What every run keeps about rows, workers and history. -/
structure OutboxHistory (w : NotificationWorker) (g : Gateway) : Prop where
  rows : ∀ row ∈ g.outbox.rows, RowHistory w g.history row
  keys : ∀ row ∈ g.outbox.rows, ∀ row' ∈ g.outbox.rows,
    row.idempotencyKey = row'.idempotencyKey → row = row'
  enqueued : ∀ e, .enqueued e ∈ g.history →
    ∃ row ∈ g.outbox.rows, row.idempotencyKey = e.idempotencyKey
  unclaimed : ∀ id, g.outbox.get? id = none → leases g.history id = []
  deliveries : ∀ p d, (g.workers p).delivery? = some d →
    ∃ row, g.outbox.get? d.notificationId = some row ∧ d.attemptCount ≤ row.attemptCount

/-- The lease that an action adds to the claims of a row. -/
def GatewayAction.lease (w : NotificationWorker) (id : UUID) : GatewayAction → Option Int
  | .claim _ _ leasedAt id' =>
    if id' = id then some (leasedAt + seconds w.sendingLeaseSeconds) else none
  | _ => none

/-- A claim logs one lease of its row, and nothing else does. -/
theorem leases_step {a : GatewayAction} (h : Gateway.step w g a = some g') (id : UUID) :
    leases g'.history id = leases g.history id ++ (a.lease w id).toList := by
  -- by the entry that the action logs
  cases a with
  | enqueue e =>
    rcases Gateway.step_enqueue h with rfl | ⟨outbox, inserted, -, rfl⟩
    · simp [GatewayAction.lease]
    · simp [GatewayAction.lease, GatewayEvent.leaseOf]
  | claim p now leasedAt id' =>
    obtain ⟨row, event, -, -, -, -, rfl⟩ := Gateway.step_claim h
    simp [GatewayAction.lease, GatewayEvent.leaseOf]
  | startSend p =>
    obtain ⟨d, -, rfl⟩ := Gateway.step_startSend h
    simp [GatewayAction.lease, GatewayEvent.leaseOf]
  | endSend p result =>
    obtain ⟨d, -, rfl⟩ := Gateway.step_endSend h
    simp [GatewayAction.lease]
  | record p now jitter =>
    obtain ⟨d, result, -, rfl⟩ := Gateway.step_record h
    simp [GatewayAction.lease, GatewayEvent.leaseOf]
  | crash p =>
    rw [Gateway.step_crash h]
    simp [GatewayAction.lease]

/-- The history only grows. -/
theorem history_step {a : GatewayAction} (h : Gateway.step w g a = some g') :
    g'.history = g.history ∨ ∃ entry, g'.history = g.history ++ [entry] ∧
      ∀ e, entry = .enqueued e → a = .enqueue e := by
  -- by the action: it logs one entry or none
  cases a with
  | enqueue e =>
    rcases Gateway.step_enqueue h with rfl | ⟨outbox, inserted, -, rfl⟩
    · exact .inl rfl
    · exact .inr ⟨_, rfl, fun e' heq => by cases heq; rfl⟩
  | claim p now leasedAt id =>
    obtain ⟨row, event, -, -, -, -, rfl⟩ := Gateway.step_claim h
    exact .inr ⟨_, rfl, by simp⟩
  | startSend p =>
    obtain ⟨d, -, rfl⟩ := Gateway.step_startSend h
    exact .inr ⟨_, rfl, by simp⟩
  | endSend p result =>
    obtain ⟨d, -, rfl⟩ := Gateway.step_endSend h
    exact .inl rfl
  | record p now jitter =>
    obtain ⟨d, result, -, rfl⟩ := Gateway.step_record h
    exact .inr ⟨_, rfl, by simp⟩
  | crash p =>
    rw [Gateway.step_crash h]
    exact .inl rfl

/-- The first event under a key stays the first. -/
theorem firstEnqueued_step {a : GatewayAction} {key : String} {e : NotificationEvent}
    (h : Gateway.step w g a = some g') (he : firstEnqueued g.history key = some e) :
    firstEnqueued g'.history key = some e := by
  rcases history_step h with heq | ⟨entry, heq, -⟩
  · rw [heq]
    exact he
  · rw [heq]
    exact firstEnqueued_append he entry

/-- A result ends the sending. -/
theorem recordedRow_not_sending (now : Int) (jitter : Rat) (attempt : Nat) (result : SendResult) :
    (w.recordedRow now jitter attempt result row).status ≠ .sending := by
  unfold recordedRow
  split
  · simp
  · split
    · simp
    · split <;> simp

/-- The columns that a recorded result leaves in a row that was `SENDING`. -/
theorem recordedRow_columns (now : Int) (jitter : Rat) (attempt : Nat) (result : SendResult)
    (hsent : row.sentAt = none) :
    let row' := w.recordedRow now jitter attempt result row
    (row'.sentAt.isSome = true ↔ row'.status = .sent) ∧
      (row'.status = .deadLetter → w.maxAttempts ≤ attempt) := by
  unfold recordedRow
  simp only
  split
  · simp
  · split
    · simp [hsent]
    · split
      · rename_i hdead
        simp [hsent, hdead]
      · simp [hsent]

/-- A step keeps the columns of a row true to the history. -/
theorem RowHistory.step {a : GatewayAction} (hrow : RowHistory w g.history row)
    (h : Gateway.step w g a = some g') (hchange : RowChange w g a row row')
    (hd : ∀ p d, (g.workers p).delivery? = some d → d.notificationId = row.notificationId →
      d.attemptCount ≤ row.attemptCount) : RowHistory w g'.history row' := by
  obtain ⟨e, he, hfields⟩ := hrow.first
  have hfirst : ∃ e, firstEnqueued g'.history row'.idempotencyKey = some e ∧
      e.toNotificationFields = row'.toNotificationFields := by
    rw [congrArg NotificationFields.idempotencyKey hchange.fields, hchange.fields]
    exact ⟨e, firstEnqueued_step h he, hfields⟩
  have hleases := leases_step h row.notificationId
  cases hchange with
  | same hne =>
    have hnone : a.lease w row.notificationId = none := by
      cases a with
      | claim p now leasedAt id =>
        refine if_neg ?_
        intro hid
        exact hne p now leasedAt (by rw [hid])
      | _ => rfl
    rw [hnone, Option.toList_none, List.append_nil] at hleases
    exact ⟨hfirst, hrow.sent_at, by rw [hleases]; exact hrow.claims, hrow.dead,
      by rw [hleases]; exact hrow.lease⟩
  | @claimed p now leasedAt _ hdue =>
    have hlease : GatewayAction.lease w row.notificationId
        (.claim p now leasedAt row.notificationId) =
        some (leasedAt + seconds w.sendingLeaseSeconds) := if_pos rfl
    rw [hlease, Option.toList_some] at hleases
    -- a row that can be claimed has not been sent
    have hopen : row.status ≠ .sent := by
      intro hs
      simp [claimable, hs] at hdue
    have hnone : ¬ row.sentAt.isSome = true := fun hs => hopen (hrow.sent_at.mp hs)
    refine ⟨hfirst, by simpa [claimedRow] using hnone, ?_, by simp [claimedRow], ?_⟩
    · rw [claimedRow_fields, hleases, List.length_append]
      simp [claimedRow, hrow.claims]
    · intro _
      rw [claimedRow_fields, hleases]
      simp [claimedRow]
  | @recorded p now jitter _ d result hp hid hs =>
    rw [show GatewayAction.lease w row.notificationId (.record p now jitter) = none from rfl,
      Option.toList_none, List.append_nil] at hleases
    have hsent : row.sentAt = none := by
      have hnot : ¬ row.sentAt.isSome = true := by
        rw [hrow.sent_at, hs]
        simp
      simpa using hnot
    have hcols := recordedRow_columns (w := w) now jitter d.attemptCount result hsent
    simp only at hcols
    obtain ⟨hat, hdead⟩ := hcols
    refine ⟨hfirst, hat, ?_, ?_, fun hsend =>
      absurd hsend (recordedRow_not_sending now jitter d.attemptCount result)⟩
    · rw [recordedRow_attemptCount, recordedRow_fields, hleases]
      exact hrow.claims
    · intro hs'
      rw [recordedRow_attemptCount]
      exact Nat.le_trans (hdead hs') (hd p d (by rw [hp]; rfl) hid)

/-- What a step can do to the deliveries in hand: a claim adds one, the others keep or drop
    theirs. -/
theorem delivery_step {a : GatewayAction} {q : Nat} {d : Delivery}
    (h : Gateway.step w g a = some g') (hd : (g'.workers q).delivery? = some d) :
    (g.workers q).delivery? = some d ∨ ∃ now leasedAt row,
      a = .claim q now leasedAt d.notificationId ∧ g.outbox.get? d.notificationId = some row ∧
        d.attemptCount = row.attemptCount + 1 := by
  have hphase := phase_step h q
  generalize g.workers q = phase at hphase ⊢
  generalize g'.workers q = phase' at hphase hd
  -- only a claim hands a worker a delivery
  cases hphase with
  | same _ => exact .inl hd
  | @claimed now leasedAt id row event hrow _ hid =>
    cases hd
    refine .inr ⟨now, leasedAt, row, ?_, ?_, rfl⟩
    · rw [Delivery.notificationId, hid]
    · rw [Delivery.notificationId, hid]
      exact hrow
  | started => exact .inl hd
  | returned => exact .inl hd
  | recorded => cases hd
  | crashed => cases hd

/-- The attempts of a row never become fewer. -/
theorem RowChange.attemptCount_le {a : GatewayAction} (h : RowChange w g a row row') :
    row.attemptCount ≤ row'.attemptCount := by
  cases h with
  | same _ => exact Nat.le_refl _
  | claimed _ => exact Nat.le_succ _
  | recorded _ _ _ => rw [recordedRow_attemptCount]

/-- What a claim makes of its own row. -/
theorem RowChange.of_claim {a : GatewayAction} {p : Nat} {now leasedAt : Int}
    (h : RowChange w g a row row') (ha : a = .claim p now leasedAt row.notificationId) :
    row' = w.claimedRow leasedAt row := by
  cases h with
  | same hne => exact absurd ha (hne p now leasedAt)
  | claimed _ =>
    simp only [GatewayAction.claim.injEq] at ha
    rw [ha.2.2.1]
  | recorded _ _ _ => cases ha

/-- An empty outbox has no history. -/
theorem OutboxHistory.initial : OutboxHistory w Gateway.initial where
  rows := by simp [Gateway.initial, Table.empty]
  keys := by simp [Gateway.initial, Table.empty]
  enqueued := by simp [Gateway.initial]
  unclaimed := by simp [Gateway.initial, leases]
  deliveries := by simp [Gateway.initial, WorkerPhase.delivery?]

/-- Every action keeps rows, phases and log together. -/
theorem OutboxHistory.step {a : GatewayAction} (hinv : OutboxHistory w g)
    (h : Gateway.step w g a = some g') : OutboxHistory w g' := by
  -- a row of the new table is one of the old rows, changed, or has just been enqueued
  have horigin : ∀ row' ∈ g'.outbox.rows,
      (∃ row ∈ g.outbox.rows, g.outbox.get? row'.notificationId = some row ∧
        RowChange w g a row row') ∨
      ∃ e, a = .enqueue e ∧ row' = outboxRow e ∧ g'.history = g.history ++ [.enqueued e] ∧
        g.outbox.get? row'.notificationId = none ∧
        ∀ row ∈ g.outbox.rows, row.idempotencyKey ≠ e.idempotencyKey := by
    intro row' hmem
    have hget' := Table.get?_of_mem hmem
    cases hget : g.outbox.get? row'.notificationId with
    | some row =>
      obtain ⟨row₁, hget₁, hchange⟩ := row_step h hget
      rw [key_notification, hget₁] at hget'
      cases hget'
      exact .inl ⟨row, Table.mem_of_get? hget, rfl, hchange⟩
    | none =>
      obtain ⟨e, ha, hrow', hhist, hkey⟩ := row_origin h hget hget'
      exact .inr ⟨e, ha, hrow', hhist, rfl, hkey⟩
  -- every old row is still there
  have hkeep : ∀ row ∈ g.outbox.rows, ∃ row' ∈ g'.outbox.rows,
      g'.outbox.get? row.notificationId = some row' ∧ RowChange w g a row row' := by
    intro row hmem
    obtain ⟨row', hget', hchange⟩ := row_step h (Table.get?_of_mem hmem)
    exact ⟨row', Table.mem_of_get? hget', hget', hchange⟩
  refine ⟨?_, ?_, ?_, ?_, ?_⟩
  · -- the columns
    intro row' hmem'
    rcases horigin row' hmem' with ⟨row, hmem, hget, hchange⟩ | ⟨e, ha, rfl, hhist, hnone, hkey⟩
    · refine (hinv.rows row hmem).step h hchange ?_
      intro p d hd hid
      obtain ⟨row₁, hget₁, hle⟩ := hinv.deliveries p d hd
      rw [hid, ← hchange.notificationId, hget] at hget₁
      cases hget₁
      exact hle
    · have hleases : leases g'.history e.notificationId = [] := by
        rw [leases_step h, ha, hinv.unclaimed e.notificationId hnone]
        rfl
      refine ⟨⟨e, ?_, rfl⟩, by simp [outboxRow], by simp [outboxRow, hleases],
        by simp [outboxRow], by simp [outboxRow]⟩
      rw [hhist]
      apply firstEnqueued_new
      intro e' he' hsame
      obtain ⟨row, hmem, hrowkey⟩ := hinv.enqueued e' he'
      exact hkey row hmem (hrowkey.trans hsame)
  · -- the keys
    intro r₁ h₁ r₂ h₂ hsame
    rcases horigin r₁ h₁ with ⟨s₁, hs₁, hget₁, hc₁⟩ | ⟨e₁, ha₁, rfl, -, -, hnew₁⟩
    · rcases horigin r₂ h₂ with ⟨s₂, hs₂, hget₂, hc₂⟩ | ⟨e₂, -, rfl, -, -, hnew₂⟩
      · have heq : s₁ = s₂ := by
          apply hinv.keys s₁ hs₁ s₂ hs₂
          rw [← congrArg NotificationFields.idempotencyKey hc₁.fields,
            ← congrArg NotificationFields.idempotencyKey hc₂.fields]
          exact hsame
        subst heq
        exact g'.outbox.eq_of_key_eq h₁ h₂ (hc₁.notificationId.trans hc₂.notificationId.symm)
      · rw [congrArg NotificationFields.idempotencyKey hc₁.fields] at hsame
        exact absurd hsame (hnew₂ s₁ hs₁)
    · rcases horigin r₂ h₂ with ⟨s₂, hs₂, hget₂, hc₂⟩ | ⟨e₂, ha₂, rfl, -, -, -⟩
      · rw [congrArg NotificationFields.idempotencyKey hc₂.fields] at hsame
        exact absurd hsame.symm (hnew₁ s₂ hs₂)
      · rw [ha₁] at ha₂
        cases ha₂
        rfl
  · -- the enqueued events
    intro e he
    have hold : (∃ row ∈ g.outbox.rows, row.idempotencyKey = e.idempotencyKey) →
        ∃ row ∈ g'.outbox.rows, row.idempotencyKey = e.idempotencyKey := by
      rintro ⟨row, hmem, hkey⟩
      obtain ⟨row', hmem', -, hchange⟩ := hkeep row hmem
      exact ⟨row', hmem',
        (congrArg NotificationFields.idempotencyKey hchange.fields).trans hkey⟩
    rcases history_step h with heq | ⟨entry, heq, hentry⟩
    · rw [heq] at he
      exact hold (hinv.enqueued e he)
    · rw [heq, List.mem_append, List.mem_singleton] at he
      rcases he with he | he
      · exact hold (hinv.enqueued e he)
      · -- the event of this very step
        have ha := hentry e he.symm
        subst ha
        rcases Gateway.step_enqueue h with rfl | ⟨outbox, inserted, henq, rfl⟩
        · exact absurd heq (by simp)
        · rcases enqueueNotification_cases henq with ⟨-, rfl, hrow⟩ | ⟨-, hrows, -, -⟩
          · exact hold hrow
          · refine ⟨outboxRow e, ?_, rfl⟩
            rw [Gateway.log_outbox, hrows]
            exact List.mem_append_right _ (List.mem_singleton_self _)
  · -- rows that are not there have no claims
    intro id hnone'
    have hnone : g.outbox.get? id = none := by
      cases hget : g.outbox.get? id with
      | none => rfl
      | some row =>
        obtain ⟨row', hget', -⟩ := row_step h hget
        rw [hnone'] at hget'
        cases hget'
    rw [leases_step h, hinv.unclaimed id hnone, List.nil_append]
    cases a with
    | claim p now leasedAt id' =>
      obtain ⟨row, -, -, hrow, -⟩ := Gateway.step_claim h
      have hne : ¬ id' = id := by
        intro hid
        rw [hid, hnone] at hrow
        cases hrow
      simp [GatewayAction.lease, hne]
    | _ => rfl
  · -- the deliveries in hand
    intro p d hd
    rcases delivery_step h hd with hd | ⟨now, leasedAt, row, rfl, hget, hcount⟩
    · obtain ⟨row, hget, hle⟩ := hinv.deliveries p d hd
      obtain ⟨row', hget', hchange⟩ := row_step h hget
      exact ⟨row', hget', Nat.le_trans hle hchange.attemptCount_le⟩
    · obtain ⟨row', hget', hchange⟩ := row_step h hget
      have hkey : row.notificationId = d.notificationId := Table.key_of_get? hget
      have hrow' := hchange.of_claim (by rw [hkey])
      subst hrow'
      exact ⟨_, hget', by simp [claimedRow, hcount]⟩

/-- So they are together in every run. -/
theorem Gateway.Reachable.outboxHistory (h : g.Reachable w) : OutboxHistory w g := by
  refine h.invariant .initial ?_
  intro u a v hinv _ hstep
  exact hinv.step hstep

/-- No later step leaves a final status, or touches its row. -/
theorem final_run {P : Gateway → GatewayAction → Prop} {id : UUID}
    (h : Transition.Exec (Gateway.step w) P g g') (hrow : g.outbox.get? id = some row)
    (hfinal : row.status.final = true) : g'.outbox.get? id = some row := by
  refine h.invariant (I := fun u => u.outbox.get? id = some row) hrow ?_
  intro u a v hu _ hstep
  obtain ⟨row', hget', hchange⟩ := row_step hstep hu
  rw [hget', hchange.of_final hfinal]

end Invariant

/-- The outbox in every reachable state: one row for an idempotency key, which carries the first
    event enqueued with it; the delivery columns of each row; the final statuses, which no run
    leaves; and the lease of a `SENDING` row, which holds every claim off until it has ended. -/
theorem outbox_state_machine {w : NotificationWorker} {g : Gateway} (h : g.Reachable w) :
    (∀ row ∈ g.outbox.rows, ∀ row' ∈ g.outbox.rows,
      row.idempotencyKey = row'.idempotencyKey → row = row') ∧
    (∀ row ∈ g.outbox.rows,
      (∃ e, firstEnqueued g.history row.idempotencyKey = some e ∧
        e.toNotificationFields = row.toNotificationFields) ∧
      (row.sentAt.isSome = true ↔ row.status = .sent) ∧
      row.attemptCount = (leases g.history row.notificationId).length ∧
      (row.status = .deadLetter → w.maxAttempts ≤ row.attemptCount) ∧
      (row.status.final = true → ∀ g', Transition.Exec (Gateway.step w) Transition.Any g g' →
        g'.outbox.get? row.notificationId = some row)) ∧
    ∀ p now leasedAt row g', g.outbox.get? row.notificationId = some row →
      row.status = .sending →
      Gateway.step w g (.claim p now leasedAt row.notificationId) = some g' →
      ∃ leaseUntil, (leases g.history row.notificationId).getLast? = some leaseUntil ∧
        leaseUntil ≤ now := by
  have hinv := h.outboxHistory
  refine ⟨hinv.keys, ?_, ?_⟩
  · intro row hmem
    have hrow := hinv.rows row hmem
    refine ⟨hrow.first, hrow.sent_at, hrow.claims, hrow.dead, ?_⟩
    intro hfinal g' hrun
    exact final_run hrun (Table.get?_of_mem hmem) hfinal
  · intro p now leasedAt row g' hget hs hstep
    have hlease := (hinv.rows row (Table.mem_of_get? hget)).lease hs
    obtain ⟨row₁, event, -, hget₁, hdue, -, -⟩ := Gateway.step_claim hstep
    rw [hget] at hget₁
    cases hget₁
    -- the lease is the time from which the claim query finds the row
    have hnow : row.nextAttemptAt ≤ now := by
      simp only [claimable, Bool.and_eq_true, decide_eq_true_eq] at hdue
      exact hdue.2
    exact ⟨row.nextAttemptAt, hlease, hnow⟩

namespace Deployment

/-- The worker with the default settings. -/
def notifier : NotificationWorker where
  maxAttempts := 5
  baseRetrySeconds := 5
  maxRetrySeconds := 300

/-- `TOMIRIS_SYSTEM_TEST`, the one event that the system enqueues itself. -/
def systemTest : NotificationEvent where
  notificationId := 1
  eventId := 2
  eventType := "TOMIRIS_SYSTEM_TEST"
  channel := "telegram"
  recipientRef := "12345"
  payload := .mapping [(.str "text", .str "TOMIRIS SYSTEM TEST")]
  idempotencyKey := "system-test:1"
  correlationId := 2
  createdAt := 0
  valid := by decide +kernel

/-- Worker 0 has put the event off after an HTTP 503, and worker 1 has died sending it. -/
@[irreducible] def orphaned : Gateway :=
  Transition.stateAfter (Gateway.step notifier) Transition.Any .initial
    [.enqueue systemTest, .claim 0 0 0 1, .startSend 0,
      .endSend 0 ⟨false, true, some "TELEGRAM_HTTP_503"⟩, .record 0 (seconds 1) 0,
      .claim 1 (seconds 6) (seconds 6) 1, .startSend 1, .crash 1]
    (by decide +kernel)

/-- A worker claims, crashes, and another one takes the row over. -/
theorem orphaned_reachable : orphaned.Reachable notifier := by
  unfold orphaned
  exact Transition.exec_stateAfter

end Deployment

open Deployment in
/-- Its two leases are its two attempts. -/
theorem outbox_state_machine_orphaned :
    (orphaned.outbox.rows.map (·.attemptCount)) = [2] ∧
      ∀ row ∈ orphaned.outbox.rows,
        row.attemptCount = (leases orphaned.history row.notificationId).length :=
  ⟨by decide +kernel,
    fun row hmem => ((outbox_state_machine orphaned_reachable).2.1 row hmem).2.2.1⟩

end Tomiris
