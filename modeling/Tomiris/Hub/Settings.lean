import Mathlib.Data.List.Infix
import Tomiris.Hub.Authentication
import Tomiris.Runtime.Config

/-!
# Settings of the Hub and the orchestrator

`tomiris_hub.core.config.Settings`: the fields that the Hub's `lifespan`, the orchestrator and the
notification worker are built from, and the validators. `secretProvider` is the provider that
`lifespan` chooses by the authentication mode.
-/

namespace Tomiris

/-- `app_env` -/
inductive AppEnv where
  | development
  | test
  | production
deriving DecidableEq

/-- `agent_auth_mode` -/
inductive AgentAuthMode where
  | shared
  | derived
deriving DecidableEq

/-- The fields of `Settings`. A float is the rational number it stands for. -/
structure SettingsFields where
  appEnv : AppEnv := .development
  agentAuthMode : AgentAuthMode := .shared
  tomirisHubIngestKeyId : String
  tomirisHubIngestSecret : Option String := none
  tomirisHubPreviousKeyId : Option String := none
  tomirisHubPreviousSecret : Option String := none
  tomirisHubAgentMasterSecret : Option String := none
  tomirisHubAgentPreviousMasterSecret : Option String := none
  tomirisOrchestratorAgentMasterSecret : Option String := none
  orchestratorCommandKeyId : String := "current"
  authMaxClockSkewSeconds : Nat := 60
  maxSignalTtlSeconds : Nat := 300
  maxSignalRequestBytes : Nat := 65536
  telegramEnabled : Bool := false
  telegramBotToken : Option String := none
  telegramChatId : Option String := none
  notificationMaxAttempts : Nat := 5
  notificationBaseRetrySeconds : Nat := 5
  notificationMaxRetrySeconds : Nat := 300
  orchestratorEnabled : Bool := false
  orchestratorInstanceId : String := "orchestrator-local"
  orchestratorDispatchBatchSize : Nat := 20
  orchestratorMaxInFlight : Nat := 20
  agentConnectTimeoutSeconds : Rat := 5
  agentAckTimeoutSeconds : Rat := 10
  agentColdStartGraceSeconds : Rat := 60
  agentMaxDispatchAttempts : Nat := 5
  agentRetryBaseSeconds : Nat := 5
  agentRetryMaxSeconds : Nat := 300
  agentCircuitFailureThreshold : Nat := 3
  agentCircuitOpenSeconds : Nat := 120
  agentEndpointAllowedHostSuffixes : String := ".hf.space,.huggingface.co"

namespace SettingsFields

/-- `secrets_to_validate`, which are also the fields of `validate_secret`. -/
def secrets (s : SettingsFields) : List String :=
  [s.tomirisHubIngestSecret, s.tomirisHubPreviousSecret, s.tomirisHubAgentMasterSecret,
    s.tomirisHubAgentPreviousMasterSecret, s.tomirisOrchestratorAgentMasterSecret].filterMap id

/-- `unsafe_markers` -/
def unsafeMarkers : List String :=
  ["change_me", "changeme", "placeholder", "replace-with", "development", "example", "test-secret"]

/-- `re.fullmatch(r"(.)\1{31,}", s)`; the dot matches no newline. -/
def repeated (s : String) : Bool :=
  match s.toList with
  | [] => false
  | ch :: rest => ch != '\n' && 31 ≤ rest.length && rest.all (· == ch)

/-- `unsafe_in_production`, with `str.lower` given. -/
def unsafeInProduction (lower : String → String) (secretValue : String) : Bool :=
  let normalized := lower (strip secretValue)
  normalized == "0123456789abcdef0123456789abcdef" ||
    unsafeMarkers.any (fun marker => decide (marker.toList <:+: normalized.toList)) ||
    repeated normalized

/-- The key ids and secrets of `validate_rotation` belong together. -/
def rotationOk (s : SettingsFields) : Prop :=
  let hasPreviousId := (truthy s.tomirisHubPreviousKeyId).isSome
  match s.agentAuthMode with
  | .shared => s.tomirisHubIngestSecret.isSome = true ∧
      hasPreviousId = s.tomirisHubPreviousSecret.isSome
  | .derived => s.tomirisHubAgentMasterSecret.isSome = true ∧
      hasPreviousId = s.tomirisHubAgentPreviousMasterSecret.isSome

/-- The field constraints, `validate_secret` and `validate_rotation`. -/
structure Valid (lower : String → String) (s : SettingsFields) : Prop where
  ingest_key : boundedText 64 s.tomirisHubIngestKeyId = true
  command_key : boundedText 64 s.orchestratorCommandKeyId = true
  skew : 1 ≤ s.authMaxClockSkewSeconds ∧ s.authMaxClockSkewSeconds ≤ 600
  signal_ttl : 1 ≤ s.maxSignalTtlSeconds ∧ s.maxSignalTtlSeconds ≤ 86400
  request_bytes : 1024 ≤ s.maxSignalRequestBytes ∧ s.maxSignalRequestBytes ≤ 1048576
  notification_attempts : 1 ≤ s.notificationMaxAttempts ∧ s.notificationMaxAttempts ≤ 20
  notification_base : 1 ≤ s.notificationBaseRetrySeconds ∧ s.notificationBaseRetrySeconds ≤ 3600
  notification_max : 1 ≤ s.notificationMaxRetrySeconds ∧ s.notificationMaxRetrySeconds ≤ 86400
  instance_id : boundedText 64 s.orchestratorInstanceId = true
  batch_size : 1 ≤ s.orchestratorDispatchBatchSize ∧ s.orchestratorDispatchBatchSize ≤ 500
  in_flight : 1 ≤ s.orchestratorMaxInFlight ∧ s.orchestratorMaxInFlight ≤ 500
  connect_timeout : 1 / 10 ≤ s.agentConnectTimeoutSeconds ∧ s.agentConnectTimeoutSeconds ≤ 60
  ack_timeout : 1 / 10 ≤ s.agentAckTimeoutSeconds ∧ s.agentAckTimeoutSeconds ≤ 300
  cold_start : 0 ≤ s.agentColdStartGraceSeconds ∧ s.agentColdStartGraceSeconds ≤ 900
  attempts : 1 ≤ s.agentMaxDispatchAttempts ∧ s.agentMaxDispatchAttempts ≤ 20
  retry_base : 1 ≤ s.agentRetryBaseSeconds ∧ s.agentRetryBaseSeconds ≤ 3600
  retry_max : 1 ≤ s.agentRetryMaxSeconds ∧ s.agentRetryMaxSeconds ≤ 86400
  threshold : 1 ≤ s.agentCircuitFailureThreshold ∧ s.agentCircuitFailureThreshold ≤ 100
  circuit_open : 1 ≤ s.agentCircuitOpenSeconds ∧ s.agentCircuitOpenSeconds ≤ 86400
  secrets_long : ∀ secret ∈ s.secrets, 32 ≤ secret.length
  rotation : s.rotationOk
  production_safe : s.appEnv = .production →
    ∀ secret ∈ s.secrets, unsafeInProduction lower secret = false
  production_root : s.appEnv = .production → s.orchestratorEnabled = true →
    s.tomirisOrchestratorAgentMasterSecret.isSome = true
  -- both roots pass the truth test: a configured one is not empty
  roots_differ : ∀ root ∈ s.tomirisHubAgentMasterSecret,
    s.tomirisOrchestratorAgentMasterSecret ≠ some root
  telegram : s.telegramEnabled = true →
    (truthy s.telegramBotToken).isSome = true ∧ (truthy s.telegramChatId).isSome = true
  notification_retry : s.notificationBaseRetrySeconds ≤ s.notificationMaxRetrySeconds
  agent_retry : s.agentRetryBaseSeconds ≤ s.agentRetryMaxSeconds

/-- `allowed_agent_host_suffixes`, with `str.lower` given. -/
def allowedAgentHostSuffixes (lower : String → String) (s : SettingsFields) : List String :=
  (commaSeparated s.agentEndpointAllowedHostSuffixes).map lower

end SettingsFields

/-- `Settings`: settings that passed their validators. -/
structure Settings (lower : String → String) extends SettingsFields where
  valid : toSettingsFields.Valid lower

/-! ## Secret providers -/

/-- `SecretProvider`: what `get_secret_for_agent` answers for an agent and a key id. -/
abbrev SecretProvider := String → String → Except DeriveError (Option String)

/-- `SharedSecretProvider`. -/
structure SharedSecretProvider where
  currentKeyId : String
  currentSecret : String
  previousKeyId : Option String := none
  previousSecret : Option String := none

/-- `SharedSecretProvider.get_secret_for_agent`: every agent has the same secret. -/
def SharedSecretProvider.getSecretForAgent (p : SharedSecretProvider) : SecretProvider :=
  fun _ keyId =>
    if keyId = p.currentKeyId then .ok (some p.currentSecret)
    else match truthy p.previousKeyId, truthy p.previousSecret with
      | some previousKeyId, some previousSecret =>
        .ok (if keyId = previousKeyId then some previousSecret else none)
      | _, _ => .ok none

/-- The `RuntimeError`s of `lifespan`. -/
inductive LifespanError where
  | derivedSecretMissing
  | sharedSecretMissing
deriving DecidableEq

/-- The provider that `lifespan` chooses. -/
def SettingsFields.secretProvider {Sig : Type} (c : Crypto Sig) (s : SettingsFields) :
    Except LifespanError SecretProvider :=
  match s.agentAuthMode with
  | .derived =>
    match s.tomirisHubAgentMasterSecret with
    | none => .error .derivedSecretMissing
    | some root =>
      .ok (DerivedPerAgentSecretProvider.getSecretForAgent c
        { masterSecret := root
          currentKeyId := s.tomirisHubIngestKeyId
          purpose := "hub-ingest"
          previousMasterSecret := s.tomirisHubAgentPreviousMasterSecret
          previousKeyId := s.tomirisHubPreviousKeyId })
  | .shared =>
    match s.tomirisHubIngestSecret with
    | none => .error .sharedSecretMissing
    | some secret =>
      .ok (SharedSecretProvider.getSecretForAgent
        { currentKeyId := s.tomirisHubIngestKeyId
          currentSecret := secret
          previousKeyId := s.tomirisHubPreviousKeyId
          previousSecret := s.tomirisHubPreviousSecret })

end Tomiris
