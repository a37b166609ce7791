import Tomiris.Contracts.Notifications
import Tomiris.Hub.Models

/-!
# The notification outbox

The `notification_outbox` table and `enqueue_notification`, which a producer calls inside a
transaction of its own.
-/

namespace Tomiris

inductive NotificationStatus where
  | pending
  | sending
  | sent
  | retry
  | failed
  | deadLetter
deriving DecidableEq

/-- The statuses that no claim selects. -/
def NotificationStatus.final : NotificationStatus → Bool
  | .sent | .failed | .deadLetter => true
  | .pending | .sending | .retry => false

/-- A row of `notification_outbox`: the columns of the event and those of its delivery. -/
structure NotificationOutbox extends NotificationFields where
  status : NotificationStatus
  attemptCount : Nat
  nextAttemptAt : Int
  lastErrorCode : Option String := none
  sentAt : Option Int := none

instance : Keyed NotificationOutbox UUID := ⟨fun row => row.notificationId⟩

@[simp] theorem key_notification (row : NotificationOutbox) :
    Keyed.key row = row.notificationId := rfl

/-- The `NotificationEvent` built from a row; `none` is its `ValidationError`. -/
def NotificationOutbox.event? (row : NotificationOutbox) : Option NotificationEvent :=
  if h : row.toNotificationFields.Valid then some ⟨row.toNotificationFields, h⟩ else none

/-- The values that `enqueue_notification` inserts. -/
def outboxRow (e : NotificationEvent) : NotificationOutbox where
  toNotificationFields := e.toNotificationFields
  status := .pending
  attemptCount := 0
  nextAttemptAt := e.createdAt

/-- `enqueue_notification`: the table and whether the row was inserted. A conflict on the
    idempotency key does nothing; one on the primary key fails the caller's transaction. -/
def enqueueNotification (e : NotificationEvent) (outbox : Table NotificationOutbox) :
    Except DbError (Table NotificationOutbox × Bool) :=
  if outbox.rows.any (·.idempotencyKey = e.idempotencyKey) then .ok (outbox, false)
  else match outbox.insert? (outboxRow e) with
    | none => .error (.integrity "notification_outbox_pkey")
    | some outbox' => .ok (outbox', true)

/-- The two ways in which enqueueing succeeds. -/
theorem enqueueNotification_cases {e : NotificationEvent}
    {outbox outbox' : Table NotificationOutbox} {inserted : Bool}
    (h : enqueueNotification e outbox = .ok (outbox', inserted)) :
    (inserted = false ∧ outbox' = outbox ∧
      ∃ row ∈ outbox.rows, row.idempotencyKey = e.idempotencyKey) ∨
    (inserted = true ∧ outbox'.rows = outbox.rows ++ [outboxRow e] ∧
      outbox.get? e.notificationId = none ∧
      ∀ row ∈ outbox.rows, row.idempotencyKey ≠ e.idempotencyKey) := by
  unfold enqueueNotification at h
  split at h
  -- the idempotency key is stored already
  · rename_i hkey
    simp only [Except.ok.injEq, Prod.mk.injEq] at h
    obtain ⟨rfl, rfl⟩ := h
    exact .inl ⟨rfl, rfl, by simpa using hkey⟩
  · rename_i hkey
    split at h
    · cases h
    · rename_i hins
      simp only [Except.ok.injEq, Prod.mk.injEq] at h
      obtain ⟨rfl, rfl⟩ := h
      -- a new row, with a new key and a new id
      obtain ⟨hfree, hrows⟩ := Table.insert?_eq_some.mp hins
      exact .inr ⟨rfl, hrows, hfree, by simpa using hkey⟩

end Tomiris
