import Mathlib.Data.Rat.Floor
import Tomiris.Common.Validation

/-!
# Orchestration contracts

The wire and policy models of `tomiris_core_contracts.orchestration`. A Pydantic model is
a structure of the raw fields with a `Valid` predicate for its validators; where the code
only ever holds validated values (`OrchestrationPolicy`) the predicate is a field.

Identifiers are compared and ordered only, so a `UUID` is a natural number. All times in
this development are UTC microseconds, the resolution of Python's `datetime`; a `timedelta`
is a difference of two of them.
-/

namespace Tomiris

abbrev UUID := Nat

/-- Microseconds in a second. -/
def second : Int := 1000000

/-- `timedelta(seconds=n)` for an integer `n`. -/
def seconds (n : Nat) : Int := n * second

/-- `timedelta(seconds=q)`: rounded to microseconds, ties to the even one. -/
def timedelta (q : Rat) : Int :=
  let us := q * second
  let low := us.floor
  if us - low < 1 / 2 then low
  else if us - low > 1 / 2 then low + 1
  else if low % 2 = 0 then low else low + 1

theorem seconds_pos {n : Nat} (h : 1 ≤ n) : 0 < seconds n := by
  unfold seconds second
  omega

/-- The pattern of `agent_id`: `^[A-Z][A-Z0-9_]{2,63}$`. -/
def isAgentId (s : String) : Bool :=
  match s.toList with
  | [] => false
  -- `isUpper` and `isDigit` are the ASCII classes of the pattern
  | c :: rest => c.isUpper && rest.all (fun d => d.isUpper || d.isDigit || d == '_') &&
      2 ≤ rest.length && rest.length ≤ 63

/-- The pattern of `asset`: 2 to 32 capitals, digits, underscores, dots, slashes or dashes. -/
def isAsset (s : String) : Bool :=
  s.toList.all (fun c => c.isUpper || c.isDigit || c == '_' || c == '.' || c == '/' || c == '-') &&
    2 ≤ s.length && s.length ≤ 32

/-- `Field(min_length=1, max_length=n)` -/
def boundedText (n : Nat) (s : String) : Bool := 1 ≤ s.length && s.length ≤ n

theorem boundedText_iff {n : Nat} {s : String} :
    boundedText n s = true ↔ 1 ≤ s.length ∧ s.length ≤ n := by
  simp [boundedText]

/-- `AnalysisTaskRequest`: the command body sent to an agent runtime. -/
structure AnalysisTaskRequest where
  protocolVersion : String
  taskId : UUID
  orchestrationRunId : UUID
  snapshotId : UUID
  agentId : String
  asset : String
  requiredCapability : String
  priority : Nat
  createdAt : Int
  deadline : Int
  correlationId : UUID
  causationId : Option UUID
  context : PyValue

/-- The limits of `AnalysisTaskRequest.bound_context`, which `create` applies as well. -/
def contextLimits : JsonLimits := { maxDepth := 4, maxItems := 50, maxStringLength := 2000 }

/-- The validators of `AnalysisTaskRequest`. Its times are UTC as every time here is. -/
structure AnalysisTaskRequest.Valid (r : AnalysisTaskRequest) : Prop where
  protocol : r.protocolVersion = "1.0"
  agent : isAgentId r.agentId = true
  asset : isAsset r.asset = true
  capability : boundedText 64 r.requiredCapability = true
  priority_le : r.priority ≤ 100
  context_mapping : r.context.isMapping = true
  context : r.context.Bounded contextLimits = true
  deadline : r.createdAt < r.deadline

instance (r : AnalysisTaskRequest) : Decidable r.Valid :=
  decidable_of_iff (r.protocolVersion = "1.0" ∧ isAgentId r.agentId = true ∧
      isAsset r.asset = true ∧ boundedText 64 r.requiredCapability = true ∧ r.priority ≤ 100 ∧
      r.context.isMapping = true ∧ r.context.Bounded contextLimits = true ∧
      r.createdAt < r.deadline)
    ⟨fun ⟨h₁, h₂, h₃, h₄, h₅, h₆, h₇, h₈⟩ => ⟨h₁, h₂, h₃, h₄, h₅, h₆, h₇, h₈⟩,
      fun ⟨h₁, h₂, h₃, h₄, h₅, h₆, h₇, h₈⟩ => ⟨h₁, h₂, h₃, h₄, h₅, h₆, h₇, h₈⟩⟩

/-- `AnalysisTaskAck`: the body of a 202 answer. -/
structure AnalysisTaskAck where
  taskId : UUID
  agentId : String
  acceptedAt : Int
  runtimeVersion : String

/-- `CapabilityRequirement`. -/
structure CapabilityRequirement where
  capability : String
  required : Bool := true
  critical : Bool := false
  minimumResponses : Nat := 1
  maxAgents : Option Nat := none

/-- The field constraints of `CapabilityRequirement`. -/
def CapabilityRequirement.Valid (r : CapabilityRequirement) : Prop :=
  boundedText 64 r.capability = true ∧ 1 ≤ r.minimumResponses ∧ r.minimumResponses ≤ 500 ∧
    ∀ n ∈ r.maxAgents, 1 ≤ n ∧ n ≤ 500

instance (r : CapabilityRequirement) : Decidable r.Valid :=
  inferInstanceAs (Decidable (_ ∧ _ ∧ _ ∧ ∀ n ∈ r.maxAgents, _))

/-- The fields of `OrchestrationPolicy`. -/
structure PolicyFields where
  policyVersion : String
  requirements : List CapabilityRequirement
  collectionTimeoutSeconds : Nat
  dispatchTimeoutSeconds : Nat
  signalTimeoutSeconds : Nat

/-- The validators of `OrchestrationPolicy`: field bounds and `unique_capabilities`. -/
structure PolicyFields.Valid (p : PolicyFields) : Prop where
  version : boundedText 32 p.policyVersion = true
  requirements_bounds : 1 ≤ p.requirements.length ∧ p.requirements.length ≤ 100
  requirements_valid : ∀ r ∈ p.requirements, r.Valid
  timeouts : p.collectionTimeoutSeconds ≤ 86400 ∧ p.dispatchTimeoutSeconds ≤ 3600 ∧
    p.signalTimeoutSeconds ≤ 86400
  dispatch_pos : 1 ≤ p.dispatchTimeoutSeconds
  capabilities_unique : (p.requirements.map (·.capability)).Nodup
  dispatch_le_signal : p.dispatchTimeoutSeconds ≤ p.signalTimeoutSeconds
  signal_le_collection : p.signalTimeoutSeconds ≤ p.collectionTimeoutSeconds

/-- `OrchestrationPolicy`: a policy that passed its validators. -/
structure OrchestrationPolicy extends PolicyFields where
  valid : toPolicyFields.Valid

end Tomiris
