import Tomiris.Contracts.Signals
import Tomiris.Features.Pipeline

/-!
# Analytical role models

`tomiris_agent_roles.models`: the definition of an agent, what a role is given, and its result.
A model that Pydantic validates is a subtype of its fields, built by `construct`.
-/

namespace Tomiris

/-- A Pydantic model from its fields: a `ValidationError` is a `ValueError`. -/
def construct {F : Type} (P : F → Prop) [DecidablePred P] (fields : F) :
    Except ComputeError { f : F // P f } :=
  if h : P fields then .ok ⟨fields, h⟩ else .error (.valueError "validation error")

/-- `RoleLifecycle`. -/
inductive RoleLifecycle where
  | active
  | deprecated
  | disabled
deriving DecidableEq

/-- `TrendState`. -/
inductive TrendState where
  | strongUp
  | up
  | neutral
  | down
  | strongDown
deriving DecidableEq

def TrendState.value : TrendState → String
  | strongUp => "STRONG_UP"
  | up => "UP"
  | neutral => "NEUTRAL"
  | down => "DOWN"
  | strongDown => "STRONG_DOWN"

/-- `MomentumState`. -/
inductive MomentumState where
  | bullish
  | neutral
  | bearish
deriving DecidableEq

def MomentumState.value : MomentumState → String
  | bullish => "BULLISH"
  | neutral => "NEUTRAL"
  | bearish => "BEARISH"

/-- `VolatilityState`. -/
inductive VolatilityState where
  | low
  | normal
  | high
  | extreme
deriving DecidableEq

def VolatilityState.value : VolatilityState → String
  | low => "LOW"
  | normal => "NORMAL"
  | high => "HIGH"
  | extreme => "EXTREME"

/-- The values of `volume_state`. -/
inductive VolumeState where
  | rising
  | normal
  | falling
deriving DecidableEq

def VolumeState.value : VolumeState → String
  | rising => "RISING"
  | normal => "NORMAL"
  | falling => "FALLING"

/-- The fields of `RoleDataRequirement` that data is planned from. -/
structure RoleDataRequirement where
  instrument : String
  timeframe : Timeframe
  minimumBars : Nat
  maxDataAgeSeconds : Nat
deriving DecidableEq

/-- The field constraints of `RoleDataRequirement`. -/
def RoleDataRequirement.Valid (r : RoleDataRequirement) : Prop :=
  isAsset r.instrument = true ∧ (2 ≤ r.minimumBars ∧ r.minimumBars ≤ 999) ∧
    1 ≤ r.maxDataAgeSeconds ∧ r.maxDataAgeSeconds ≤ 604800

/-- The pattern of `role_id`: a small letter and 2 to 63 of `a-z0-9_.-`. -/
def isRoleId (s : String) : Bool :=
  match s.toList with
  | [] => false
  | c :: rest => c.isLower &&
      rest.all (fun d => d.isLower || d.isDigit || d == '_' || d == '.' || d == '-') &&
      2 ≤ rest.length && rest.length ≤ 63

/-- The fields of `AgentDefinition`. The assets are in capitals, as `unique_assets` returns
    them. -/
structure DefinitionFields where
  agentId : String
  roleId : String
  enabled : Bool := true
  lifecycle : RoleLifecycle := .active
  configVersion : String
  analysisSchemaVersion : String := "1"
  supportedAssets : List String
  capabilities : List String
  requiredData : List RoleDataRequirement
  parameters : PyValue := .mapping []
  limits : List (String × Int) := [("max_evidence_items", 16)]

/-- `self.limits.get("max_evidence_items", 16)` -/
def DefinitionFields.maxEvidenceItems (d : DefinitionFields) : Int :=
  (d.limits.lookup "max_evidence_items").getD 16

/-- The field constraints and `validate_definition` of `AgentDefinition`. -/
structure DefinitionFields.Valid (d : DefinitionFields) : Prop where
  agent : isAgentId d.agentId = true
  role : isRoleId d.roleId = true
  config_version : boundedText 32 d.configVersion = true
  schema : d.analysisSchemaVersion = "1"
  assets : (1 ≤ d.supportedAssets.length ∧ d.supportedAssets.length ≤ 20) ∧ d.supportedAssets.Nodup
  capabilities : (1 ≤ d.capabilities.length ∧ d.capabilities.length ≤ 20) ∧ d.capabilities.Nodup
  required_data : 1 ≤ d.requiredData.length ∧ d.requiredData.length ≤ 50
  requirements : ∀ r ∈ d.requiredData, r.Valid
  parameters : d.parameters.Bounded { maxDepth := 6, maxItems := 100 } = true
  lifecycle : ¬ (d.lifecycle = .disabled ∧ d.enabled = true)
  instruments : ∀ r ∈ d.requiredData, r.instrument ∈ d.supportedAssets
  unique : (d.requiredData.map (fun r => (r.instrument, r.timeframe))).Nodup
  evidence : 1 ≤ d.maxEvidenceItems ∧ d.maxEvidenceItems ≤ 20

/-- `AgentDefinition`: a definition that passed its validators. -/
structure AgentDefinition extends DefinitionFields where
  valid : toDefinitionFields.Valid

/-- `AnalysisContext`. -/
structure AnalysisContext where
  task : AnalysisTaskRequest
  snapshotId : UUID
  asOf : Int
  matching_snapshot : task.snapshotId = snapshotId

/-- `RoleInput`. -/
structure RoleInput where
  context : AnalysisContext
  marketData : MarketDataBundle
  matching_snapshot : marketData.snapshotId = context.snapshotId
  matching_cutoff : marketData.asOf = context.asOf

/-- The fields of `AnalyticalEvidence`. -/
structure EvidenceFields where
  evidenceType : String
  summary : String
  provider : String
  instrument : String
  timeframe : Timeframe
  featureName : String
  featureVersion : String
  observedAt : Int
  sourceTimestamp : Int
  observation : String

/-- The field constraints of `AnalyticalEvidence`. -/
def EvidenceFields.Valid (e : EvidenceFields) : Prop :=
  boundedText 64 e.evidenceType = true ∧ boundedText 1000 e.summary = true ∧
  boundedText 64 e.provider = true ∧ (2 ≤ e.instrument.length ∧ e.instrument.length ≤ 32) ∧
  boundedText 64 e.featureName = true ∧ boundedText 32 e.featureVersion = true ∧
  boundedText 500 e.observation = true

instance : DecidablePred EvidenceFields.Valid := fun e =>
  inferInstanceAs (Decidable (_ ∧ _ ∧ _ ∧ (2 ≤ e.instrument.length ∧ _) ∧ _ ∧ _ ∧ _))

/-- `AnalyticalEvidence`. -/
abbrev AnalyticalEvidence := { e : EvidenceFields // e.Valid }

/-- The fields of `TimeframeAnalysis`. -/
structure TimeframeFields where
  timeframe : Timeframe
  trend : TrendState
  momentum : MomentumState
  volatility : VolatilityState
  volumeState : VolumeState
  score : Rat

/-- The field constraints of `TimeframeAnalysis`. -/
def TimeframeFields.Valid (t : TimeframeFields) : Prop := -1 ≤ t.score ∧ t.score ≤ 1

instance : DecidablePred TimeframeFields.Valid := fun t =>
  inferInstanceAs (Decidable (-1 ≤ t.score ∧ t.score ≤ 1))

/-- `TimeframeAnalysis`. -/
abbrev TimeframeAnalysis := { t : TimeframeFields // t.Valid }

/-- The fields of `AnalysisDataRange`. -/
structure DataRangeFields where
  provider : String
  instrument : String
  timeframe : Timeframe
  firstBarAt : Int
  lastBarAt : Int
  barCount : Nat

/-- The field constraints and `validate_range` of `AnalysisDataRange`. Its times are the ones of
    bars, which are `datetime`s. -/
def DataRangeFields.Valid (r : DataRangeFields) : Prop :=
  boundedText 64 r.provider = true ∧ (2 ≤ r.instrument.length ∧ r.instrument.length ≤ 32) ∧
  (isDatetime r.firstBarAt = true ∧ isDatetime r.lastBarAt = true) ∧
  (1 ≤ r.barCount ∧ r.barCount ≤ 1000) ∧ r.firstBarAt ≤ r.lastBarAt

instance : DecidablePred DataRangeFields.Valid := fun r =>
  inferInstanceAs (Decidable (_ ∧ (2 ≤ r.instrument.length ∧ _) ∧
    (isDatetime r.firstBarAt = true ∧ _) ∧ (1 ≤ r.barCount ∧ _) ∧ _))

/-- `AnalysisDataRange`. -/
abbrev AnalysisDataRange := { r : DataRangeFields // r.Valid }

/-- The fields of `AgentAnalysisResult`. -/
structure ResultFields where
  analysisSchemaVersion : String
  roleId : String
  roleVersion : String
  configVersion : String
  featurePipelineVersion : String
  snapshotId : UUID
  asset : String
  bias : Bias
  confidence : Rat
  dataQuality : DataQualityOutcome
  reasonCodes : List String := []
  timeframeStates : List TimeframeAnalysis := []
  evidence : List AnalyticalEvidence := []
  dataRanges : List AnalysisDataRange := []
  dataProvider : String
  dataAsOf : Int
  analysisAsOf : Int

/-- The field constraints and `enforce_abstention` of `AgentAnalysisResult`. -/
structure ResultFields.Valid (r : ResultFields) : Prop where
  schema : r.analysisSchemaVersion = "1"
  confidence : 0 ≤ r.confidence ∧ r.confidence ≤ 1
  reason_codes : r.reasonCodes.length ≤ 20
  states : r.timeframeStates.length ≤ 20
  evidence : r.evidence.length ≤ 20
  ranges : r.dataRanges.length ≤ 50
  invalid_abstains : r.dataQuality = .invalid ∨ r.dataQuality = .insufficient → r.bias = .abstain
  abstain_reason : r.bias = .abstain → r.reasonCodes ≠ []

instance : DecidablePred ResultFields.Valid := fun r =>
  decidable_of_iff (r.analysisSchemaVersion = "1" ∧ (0 ≤ r.confidence ∧ r.confidence ≤ 1) ∧
      r.reasonCodes.length ≤ 20 ∧ r.timeframeStates.length ≤ 20 ∧ r.evidence.length ≤ 20 ∧
      r.dataRanges.length ≤ 50 ∧
      (r.dataQuality = .invalid ∨ r.dataQuality = .insufficient → r.bias = .abstain) ∧
      (r.bias = .abstain → r.reasonCodes ≠ []))
    ⟨fun ⟨h₁, h₂, h₃, h₄, h₅, h₆, h₇, h₈⟩ => ⟨h₁, h₂, h₃, h₄, h₅, h₆, h₇, h₈⟩,
      fun ⟨h₁, h₂, h₃, h₄, h₅, h₆, h₇, h₈⟩ => ⟨h₁, h₂, h₃, h₄, h₅, h₆, h₇, h₈⟩⟩

/-- `AgentAnalysisResult`. -/
abbrev AgentAnalysisResult := { r : ResultFields // r.Valid }

end Tomiris
