import Mathlib.Logic.Function.Basic
import Tomiris.Contracts.Orchestration

/-!
# Keys derived for agents

`tomiris_common.crypto`, over the symbolic model of its primitives. A signature is a term of the
type `Sig`; `Crypto` has the primitives with what the code relies on, `Symbolic` adds that they
are free.
-/

namespace Tomiris

/-- The cryptographic primitives, and `str.upper`. -/
structure Crypto (Sig : Type) where
  /-- `hashlib.sha256(body).hexdigest()` -/
  sha256 : List UInt8 → String
  /-- `hmac.new(secret, canonical, sha256).hexdigest()` -/
  hmac : String → String → Sig
  /-- The pattern `[0-9a-fA-F]{64}` of a signature header. -/
  hexDigest : Sig → Bool
  /-- `hkdf_sha256` of a root secret and an info, with the salt of derived agent secrets, in
      `urlsafe_b64encode`. -/
  hkdf : String → String → String
  upper : String → String
  hexDigest_hmac : ∀ secret canonical, hexDigest (hmac secret canonical) = true
  sha256_oneLine : ∀ body, '\n' ∉ (sha256 body).toList
  upper_oneLine : ∀ text, '\n' ∉ text.toList → '\n' ∉ (upper text).toList

/-- Nothing but its inputs yields a digest, a signature or a derived key. -/
structure Crypto.Symbolic {Sig : Type} (c : Crypto Sig) : Prop where
  sha256 : Function.Injective c.sha256
  hmac : Function.Injective2 c.hmac
  hkdf : Function.Injective2 c.hkdf

/-- The `ValueError`s of `derive_agent_secret`. -/
inductive DeriveError where
  | unsupportedPurpose
  | shortMaster
deriving DecidableEq

/-- The message of the `ValueError`. -/
def DeriveError.message : DeriveError → String
  | unsupportedPurpose => "unsupported credential purpose"
  | shortMaster => "master secret must contain at least 32 characters"

variable {Sig : Type}

/-- The HKDF info of a derived secret. -/
def secretInfo (purpose agentId keyId : String) : String :=
  ":".intercalate ["tomiris", "v1", purpose, agentId, keyId]

/-- `derive_agent_secret`. -/
def deriveAgentSecret (c : Crypto Sig) (masterSecret agentId purpose keyId : String) :
    Except DeriveError String :=
  if purpose ∉ ["hub-ingest", "orchestrator-command"] then .error .unsupportedPurpose
  else if masterSecret.length < 32 then .error .shortMaster
  else .ok (c.hkdf masterSecret (secretInfo purpose agentId keyId))

/-- `DerivedPerAgentSecretProvider`. -/
structure DerivedPerAgentSecretProvider where
  masterSecret : String
  currentKeyId : String
  purpose : String
  previousMasterSecret : Option String := none
  previousKeyId : Option String := none

/-- A Python truth test on an optional string. -/
def truthy (s : Option String) : Option String := s.filter (! ·.isEmpty)

namespace DerivedPerAgentSecretProvider

/-- The root of a key id: the current one first. -/
def rootFor (p : DerivedPerAgentSecretProvider) (keyId : String) : Option String :=
  if keyId = p.currentKeyId then some p.masterSecret
  else match truthy p.previousKeyId, truthy p.previousMasterSecret with
    | some previousKeyId, some previousMasterSecret =>
      if keyId = previousKeyId then some previousMasterSecret else none
    | _, _ => none

/-- `get_secret_for_agent`. -/
def getSecretForAgent (c : Crypto Sig) (p : DerivedPerAgentSecretProvider)
    (agentId keyId : String) : Except DeriveError (Option String) :=
  match p.rootFor keyId with
  | some root => (deriveAgentSecret c root agentId p.purpose keyId).map some
  | none => .ok none

end DerivedPerAgentSecretProvider

theorem deriveAgentSecret_ok {c : Crypto Sig} {root agentId purpose keyId secret : String} :
    deriveAgentSecret c root agentId purpose keyId = .ok secret ↔
      purpose ∈ ["hub-ingest", "orchestrator-command"] ∧ 32 ≤ root.length ∧
        secret = c.hkdf root (secretInfo purpose agentId keyId) := by
  unfold deriveAgentSecret
  split
  -- the purpose, then the length of the root
  · rename_i hpurpose
    simp [hpurpose]
  · rename_i hpurpose
    rw [not_not] at hpurpose
    split
    · rename_i hlen
      simp [hpurpose]
      omega
    · rename_i hlen
      simp only [Except.ok.injEq, hpurpose, true_and, Nat.not_lt.mp hlen]
      exact eq_comm

theorem getSecretForAgent_some {c : Crypto Sig} {p : DerivedPerAgentSecretProvider}
    {agentId keyId secret : String}
    (h : p.getSecretForAgent c agentId keyId = .ok (some secret)) :
    ∃ root, p.rootFor keyId = some root ∧
      deriveAgentSecret c root agentId p.purpose keyId = .ok secret := by
  unfold DerivedPerAgentSecretProvider.getSecretForAgent at h
  split at h
  · rename_i root hroot
    refine ⟨root, hroot, ?_⟩
    cases hderive : deriveAgentSecret c root agentId p.purpose keyId with
    | error e => simp [hderive, Except.map] at h
    | ok s => simpa [hderive, Except.map] using h
  · cases h

end Tomiris
