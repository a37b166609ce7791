import Tomiris.Contracts.Orchestration

/-!
# Notification events

`tomiris_core_contracts.notifications`: what a producer hands to the notification gateway.
-/

namespace Tomiris

/-- The fields of `NotificationEvent`. -/
structure NotificationFields where
  notificationId : UUID
  eventId : UUID
  eventType : String
  snapshotId : Option UUID := none
  channel : String
  recipientRef : String
  payload : PyValue
  idempotencyKey : String
  correlationId : UUID
  causationId : Option UUID := none
  createdAt : Int

/-- The limits of `NotificationEvent.bound_payload`. -/
def payloadLimits : JsonLimits := { maxDepth := 4, maxItems := 50, maxStringLength := 4000 }

/-- The validators of `NotificationEvent`. Its time is UTC as every time here is. -/
structure NotificationFields.Valid (e : NotificationFields) : Prop where
  event_type : boundedText 64 e.eventType = true
  channel : boundedText 32 e.channel = true
  recipient : boundedText 256 e.recipientRef = true
  payload_mapping : e.payload.isMapping = true
  payload : e.payload.Bounded payloadLimits = true
  idempotency_key : boundedText 256 e.idempotencyKey = true

instance NotificationFields.decidableValid (e : NotificationFields) : Decidable e.Valid :=
  decidable_of_iff (boundedText 64 e.eventType = true ∧ boundedText 32 e.channel = true ∧
      boundedText 256 e.recipientRef = true ∧ e.payload.isMapping = true ∧
      e.payload.Bounded payloadLimits = true ∧ boundedText 256 e.idempotencyKey = true)
    ⟨fun ⟨h₁, h₂, h₃, h₄, h₅, h₆⟩ => ⟨h₁, h₂, h₃, h₄, h₅, h₆⟩,
      fun ⟨h₁, h₂, h₃, h₄, h₅, h₆⟩ => ⟨h₁, h₂, h₃, h₄, h₅, h₆⟩⟩

/-- `NotificationEvent`: an event that passed its validators. -/
structure NotificationEvent extends NotificationFields where
  valid : toNotificationFields.Valid

end Tomiris
