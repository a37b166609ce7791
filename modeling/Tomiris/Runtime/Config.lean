import Mathlib.Data.List.DropRight
import Tomiris.Contracts.Orchestration

/-!
# Settings of an agent runtime

The part of `AgentRuntimeSettings` that the command endpoint and the analytical handler read.
-/

namespace Tomiris

/-- `str.isspace` of one character. -/
def isSpace (ch : Char) : Bool :=
  let n := ch.toNat
  (0x09 ≤ n && n ≤ 0x0d) || (0x1c ≤ n && n ≤ 0x20) || n == 0x85 || n == 0xa0 || n == 0x1680 ||
    (0x2000 ≤ n && n ≤ 0x200a) || n == 0x2028 || n == 0x2029 || n == 0x202f || n == 0x205f ||
    n == 0x3000

/-- `s.strip()` -/
def strip (s : String) : String :=
  String.ofList ((s.toList.dropWhile isSpace).rdropWhile isSpace)

/-- `tuple(item.strip() for item in s.split(",") if item.strip())` -/
def commaSeparated (s : String) : List String :=
  ((s.toList.splitOn ',').map (fun item => strip (String.ofList item))).filter (! ·.isEmpty)

/-- `AgentRuntimeSettings`. -/
structure AgentRuntimeSettings where
  tomirisAgentId : String
  tomirisAgentRole : String
  tomirisAgentCapabilities : String
  tomirisAgentSupportedAssets : String
  tomirisHubUrl : String
  tomirisHubAgentSecret : String
  tomirisOrchestratorId : String := "TOMIRIS_ORCHESTRATOR"
  tomirisOrchestratorCommandKeyId : String := "current"
  tomirisOrchestratorCommandSecret : String
  tomirisAgentDefinitionPath : Option String := none
  runtimeVersion : String := "0.3.0"
  commandMaxClockSkewSeconds : Nat := 60
  commandNonceTtlSeconds : Nat := 600
  maxTaskRequestBytes : Nat := 65536

namespace AgentRuntimeSettings

/-- The field constraints of these fields and `validate_secrets`. -/
structure Valid (s : AgentRuntimeSettings) : Prop where
  agent : isAgentId s.tomirisAgentId = true
  role : boundedText 64 s.tomirisAgentRole = true
  orchestrator : boundedText 64 s.tomirisOrchestratorId = true
  command_key : boundedText 64 s.tomirisOrchestratorCommandKeyId = true
  skew : 1 ≤ s.commandMaxClockSkewSeconds ∧ s.commandMaxClockSkewSeconds ≤ 600
  nonce_ttl : 60 ≤ s.commandNonceTtlSeconds ∧ s.commandNonceTtlSeconds ≤ 3600
  request_bytes : 1024 ≤ s.maxTaskRequestBytes ∧ s.maxTaskRequestBytes ≤ 1048576
  hub_secret : 32 ≤ s.tomirisHubAgentSecret.length
  command_secret : 32 ≤ s.tomirisOrchestratorCommandSecret.length
  secrets_differ : s.tomirisHubAgentSecret ≠ s.tomirisOrchestratorCommandSecret
  hub_url : s.tomirisHubUrl.startsWith "http://" = true ∨
    s.tomirisHubUrl.startsWith "https://" = true

/-- `capabilities` -/
def capabilities (s : AgentRuntimeSettings) : List String := commaSeparated s.tomirisAgentCapabilities

/-- `supported_assets`, with `str.upper` given. -/
def supportedAssets (upper : String → String) (s : AgentRuntimeSettings) : List String :=
  (commaSeparated s.tomirisAgentSupportedAssets).map upper

end AgentRuntimeSettings

end Tomiris
