import Tomiris.Roles.FloatTechnical

/-!
# Roles and their data

The planner of a role's requests, and the registry that builds the role of a definition from one of
the built-in plugins. A role has the engine on floats, as Python runs it, or the one in exact
arithmetic.
-/

namespace Tomiris

instance RequestFields.decidableValid : DecidablePred RequestFields.Valid := fun r =>
  decidable_of_iff (isAsset r.instrument = true ∧ (2 ≤ r.minimumBars ∧ r.minimumBars ≤ 999) ∧
      isDatetime r.asOf = true ∧ 1 ≤ r.maxDataAgeSeconds ∧ r.maxDataAgeSeconds ≤ 604800)
    ⟨fun ⟨h₁, h₂, h₃, h₄⟩ => ⟨h₁, h₂, h₃, h₄⟩, fun ⟨h₁, h₂, h₃, h₄⟩ => ⟨h₁, h₂, h₃, h₄⟩⟩

/-- `MarketDataRequest(...)` -/
def makeRequest (fields : RequestFields) : Except ComputeError MarketDataRequest :=
  if h : fields.Valid then .ok ⟨fields, h⟩ else .error (.valueError "validation error")

/-- `RoleDataPlanner.plan` -/
def RoleDataPlanner.plan (definition : AgentDefinition) (asset : String) (asOf : Int) :
    Except ComputeError (List MarketDataRequest) :=
  let relevant := definition.requiredData.filter (fun item => item.instrument == asset)
  if asset ∉ definition.supportedAssets then
    .error (.valueError "task asset is not supported by the agent definition")
  else if relevant.isEmpty then
    .error (.valueError "agent definition has no data requirements for task asset")
  else relevant.mapM (fun item => makeRequest
    { instrument := item.instrument
      timeframe := item.timeframe
      minimumBars := item.minimumBars
      asOf := asOf
      maxDataAgeSeconds := item.maxDataAgeSeconds
      closedOnly := true })

/-- `ConfiguredTechnicalRole`, with an engine of type `E`. -/
structure ConfiguredTechnicalRole (E : Type) where
  definition : AgentDefinition
  roleVersion : String
  engine : E

namespace ConfiguredTechnicalRole

def roleId {E : Type} (role : ConfiguredTechnicalRole E) : String := role.definition.roleId

def featurePipelineVersion : String := "technical-pipeline.v1"

def analysisSchemaVersion : String := "1"

/-- `analyze` -/
def analyze (role : ConfiguredTechnicalRole Floats.TechnicalAnalysisEngine)
    (roleInput : RoleInput) : Except ComputeError AgentAnalysisResult :=
  role.engine.analyze role.definition roleInput role.roleVersion

end ConfiguredTechnicalRole

/-- A plugin for one asset. -/
structure RolePlugin where
  title : String
  roleId : String
  roleVersion : String
  asset : String
  evidenceType : String

/-- `BTCContextRolePlugin` -/
def btcContextRolePlugin : RolePlugin where
  title := "BTC context role"
  roleId := "btc.market_context.v1"
  roleVersion := "1.0.0"
  asset := "BTCUSDT"
  evidenceType := "market_context"

/-- `ETHTechnicalRolePlugin` -/
def ethTechnicalRolePlugin : RolePlugin where
  title := "ETH technical role"
  roleId := "eth.technical.v1"
  roleVersion := "1.0.0"
  asset := "ETHUSDT"
  evidenceType := "technical_feature"

/-- `SOLTechnicalRolePlugin` -/
def solTechnicalRolePlugin : RolePlugin where
  title := "SOL technical role"
  roleId := "sol.technical.v1"
  roleVersion := "1.0.0"
  asset := "SOLUSDT"
  evidenceType := "technical_feature"

/-- The plugins of `create_builtin_role_registry`. -/
def builtinRolePlugins : List RolePlugin :=
  [btcContextRolePlugin, ethTechnicalRolePlugin, solTechnicalRolePlugin]

/-- `TechnicalRoleConfig.model_validate` on the parameters of a definition, and the engine with a
    type for its evidence. -/
structure RoleTools (E : Type) where
  engine : PyValue → Option (String → E)

/-- `build` of a plugin. -/
def RolePlugin.build {E : Type} (tools : RoleTools E) (plugin : RolePlugin)
    (definition : AgentDefinition) : Except ComputeError (ConfiguredTechnicalRole E) :=
  if definition.roleId ≠ plugin.roleId ∨ definition.supportedAssets ≠ [plugin.asset] then
    .error (.valueError (plugin.title ++ " requires exactly " ++ plugin.asset))
  else match tools.engine definition.parameters with
    | none => .error (.valueError "validation error")
    | some engine => .ok ⟨definition, plugin.roleVersion, engine plugin.evidenceType⟩

/-- `AgentRoleRegistry.build` -/
def AgentRoleRegistry.build {E : Type} (tools : RoleTools E) (plugins : List RolePlugin)
    (definition : AgentDefinition) : Except ComputeError (ConfiguredTechnicalRole E) :=
  match plugins.find? (fun plugin => plugin.roleId == definition.roleId) with
  | none => .error (.valueError ("unknown analytical role: " ++ definition.roleId))
  | some plugin =>
    if definition.enabled = false ∨ definition.lifecycle = .disabled then
      .error (.valueError ("analytical role is disabled: " ++ definition.roleId))
    else plugin.build tools definition

end Tomiris
