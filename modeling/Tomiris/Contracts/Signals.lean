import Tomiris.Contracts.Orchestration

/-!
# Signal envelopes

`tomiris_core_contracts.signals`: what an agent posts to the Hub. `SignalFields` is the
parsed body, `SignalEnvelope` a body that passed every validator of the contract.
-/

namespace Tomiris

/-- `Bias`. -/
inductive Bias where
  | long
  | short
  | neutral
  | abstain
deriving DecidableEq

/-- `EvidenceItem`. -/
structure EvidenceItem where
  evidenceType : String
  summary : String
  sourceType : String
  sourceId : String
  provider : String := "unknown"
  observedAt : Int
  sourceTimestamp : Int
  sourceFingerprint : Option String := none
  instrument : Option String := none
  timeframe : Option String := none
  featureName : Option String := none
  featureVersion : Option String := none
  observation : Option String := none
  metadata : PyValue := .mapping []

/-- `Field(max_length=n)` on an optional string. -/
def optionalText (n : Nat) (s : Option String) : Bool := s.all (fun t => t.length ≤ n)

theorem optionalText_some {n : Nat} {s : String} :
    optionalText n (some s) = true ↔ s.length ≤ n := by
  simp [optionalText]

/-- The validators of `EvidenceItem`. -/
def EvidenceItem.Valid (e : EvidenceItem) : Prop :=
  boundedText 64 e.evidenceType = true ∧ boundedText 1000 e.summary = true ∧
  boundedText 64 e.sourceType = true ∧ boundedText 256 e.sourceId = true ∧
  boundedText 128 e.provider = true ∧ optionalText 128 e.sourceFingerprint = true ∧
  optionalText 32 e.instrument = true ∧ optionalText 16 e.timeframe = true ∧
  optionalText 64 e.featureName = true ∧ optionalText 32 e.featureVersion = true ∧
  optionalText 500 e.observation = true ∧ e.metadata.Bounded {} = true

instance (e : EvidenceItem) : Decidable e.Valid :=
  inferInstanceAs (Decidable (_ ∧ _ ∧ _ ∧ _ ∧ _ ∧ _ ∧ _ ∧ _ ∧ _ ∧ _ ∧ _ ∧ _))

/-- The fields of `SignalEnvelope`. -/
structure SignalFields where
  protocolVersion : String
  messageId : UUID
  agentId : String
  agentRunId : UUID
  snapshotId : UUID
  taskId : Option UUID := none
  orchestrationRunId : Option UUID := none
  correlationId : Option UUID := none
  causationId : Option UUID := none
  asset : String
  bias : Bias
  confidence : Nat
  impact : Nat
  timeHorizon : String
  evidence : List EvidenceItem
  riskFlags : List String := []
  dataTimestamp : Int
  analysisTimestamp : Int
  signalTtlSeconds : Nat
  roleId : Option String := none
  roleVersion : Option String := none
  configVersion : Option String := none
  featurePipelineVersion : Option String := none
  analysisSchemaVersion : Option String := none
  dataProvider : Option String := none
  dataAsOf : Option Int := none
  confidenceModelVersion : Option String := none
  metadata : PyValue := .mapping []

/-- Which of the eight analytical lineage fields are present. -/
def SignalFields.analytical (f : SignalFields) : List Bool :=
  [f.roleId.isSome, f.roleVersion.isSome, f.configVersion.isSome,
    f.featurePipelineVersion.isSome, f.analysisSchemaVersion.isSome, f.dataProvider.isSome,
    f.dataAsOf.isSome, f.confidenceModelVersion.isSome]

/-- The field constraints and `validate_task_lineage` of `SignalEnvelope`. -/
structure SignalFields.Valid (f : SignalFields) : Prop where
  protocol : f.protocolVersion = "1.0"
  agent : isAgentId f.agentId = true
  asset : isAsset f.asset = true
  confidence_le : f.confidence ≤ 100
  impact_le : f.impact ≤ 100
  horizon : boundedText 64 f.timeHorizon = true
  evidence_le : f.evidence.length ≤ 20
  evidence_valid : ∀ e ∈ f.evidence, e.Valid
  risk_flags : f.riskFlags.length ≤ 20 ∧ ∀ r ∈ f.riskFlags, r.length ≤ 128
  ttl_pos : 0 < f.signalTtlSeconds
  versions : optionalText 64 f.roleId = true ∧ optionalText 32 f.roleVersion = true ∧
    optionalText 32 f.configVersion = true ∧ optionalText 64 f.featurePipelineVersion = true ∧
    optionalText 16 f.analysisSchemaVersion = true ∧ optionalText 128 f.dataProvider = true ∧
    optionalText 32 f.confidenceModelVersion = true
  metadata : f.metadata.Bounded {} = true
  task_lineage : f.taskId.isNone = f.orchestrationRunId.isNone
  analytical_lineage : ¬ (f.analytical.any id = true ∧ f.analytical.any (! ·) = true)
  data_cutoff : ∀ t ∈ f.dataAsOf, t ≤ f.analysisTimestamp

instance SignalFields.decidableValid : DecidablePred SignalFields.Valid := fun f =>
  decidable_of_iff (f.protocolVersion = "1.0" ∧ isAgentId f.agentId = true ∧
      isAsset f.asset = true ∧ f.confidence ≤ 100 ∧ f.impact ≤ 100 ∧
      boundedText 64 f.timeHorizon = true ∧ f.evidence.length ≤ 20 ∧
      (∀ e ∈ f.evidence, e.Valid) ∧
      (f.riskFlags.length ≤ 20 ∧ ∀ r ∈ f.riskFlags, r.length ≤ 128) ∧ 0 < f.signalTtlSeconds ∧
      (optionalText 64 f.roleId = true ∧ optionalText 32 f.roleVersion = true ∧
        optionalText 32 f.configVersion = true ∧ optionalText 64 f.featurePipelineVersion = true ∧
        optionalText 16 f.analysisSchemaVersion = true ∧ optionalText 128 f.dataProvider = true ∧
        optionalText 32 f.confidenceModelVersion = true) ∧
      f.metadata.Bounded {} = true ∧ f.taskId.isNone = f.orchestrationRunId.isNone ∧
      ¬ (f.analytical.any id = true ∧ f.analytical.any (! ·) = true) ∧
      ∀ t ∈ f.dataAsOf, t ≤ f.analysisTimestamp)
    ⟨fun ⟨h₁, h₂, h₃, h₄, h₅, h₆, h₇, h₈, h₉, h₁₀, h₁₁, h₁₂, h₁₃, h₁₄, h₁₅⟩ =>
        ⟨h₁, h₂, h₃, h₄, h₅, h₆, h₇, h₈, h₉, h₁₀, h₁₁, h₁₂, h₁₃, h₁₄, h₁₅⟩,
      fun ⟨h₁, h₂, h₃, h₄, h₅, h₆, h₇, h₈, h₉, h₁₀, h₁₁, h₁₂, h₁₃, h₁₄, h₁₅⟩ =>
        ⟨h₁, h₂, h₃, h₄, h₅, h₆, h₇, h₈, h₉, h₁₀, h₁₁, h₁₂, h₁₃, h₁₄, h₁₅⟩⟩

/-- `SignalEnvelope`: a body that passed its validators. -/
structure SignalEnvelope extends SignalFields where
  valid : toSignalFields.Valid

end Tomiris
