import Tomiris.AgentSdk.Signing
import Tomiris.Contracts.Json
import Tomiris.ForStd.FloatFunctions
import Tomiris.ForStd.Separated
import Tomiris.Runtime.Security

/-!
# What a signature binds

In the symbolic model of `Crypto.Symbolic`, a signature that the Hub accepts determines every
component of its request: the patterns of the headers keep the separators out of the verifier's
fields, so no other fields of a signer join to the same text. The canonical request and the
canonical command have a different number of fields, and the info of a derived secret names the
purpose, the agent and the key.

## Key results

- `verify_ok_iff`: the requests that the Hub accepts
- `signature_binds_request`
-/

namespace Tomiris

section Patterns

variable {s : String}

theorem not_mem_of_all {p : Char → Bool} {ch : Char} (h : s.toList.all p = true)
    (hch : p ch = false) : ch ∉ s.toList := by
  intro hmem
  rw [List.all_eq_true.mp h ch hmem] at hch
  cases hch

theorem isAgentId_not_mem (ch : Char) (h : isAgentId s = true) (hupper : ch.isUpper = false)
    (hdigit : ch.isDigit = false) (hunderscore : ch ≠ '_') : ch ∉ s.toList := by
  unfold isAgentId at h
  cases hs : s.toList with
  | nil => simp
  | cons first rest =>
    simp only [hs, Bool.and_eq_true] at h
    intro hmem
    rcases List.mem_cons.mp hmem with rfl | hmem
    · rw [hupper] at h
      exact absurd h.1.1.1 (by decide)
    · have hclass := List.all_eq_true.mp h.1.1.2 ch hmem
      simp [hupper, hdigit, hunderscore] at hclass

/-- What a key id has no room for. -/
theorem isKeyId_not_mem (ch : Char) (h : isKeyId s = true) (halnum : ch.isAlphanum = false)
    (hdot : ch ≠ '.') (hunderscore : ch ≠ '_') (hdash : ch ≠ '-') : ch ∉ s.toList := by
  simp only [isKeyId, Bool.and_eq_true] at h
  exact not_mem_of_all h.1.1 (by simp [halnum, hdot, hunderscore, hdash])

/-- A nonce has one line. -/
theorem isNonce_oneLine (h : isNonce s = true) : '\n' ∉ s.toList := by
  simp only [isNonce, Bool.and_eq_true] at h
  exact not_mem_of_all h.1.1 (by decide)

/-- So have digits. -/
theorem isDigits_oneLine {digits : List Char} (h : isDigits digits = true) : '\n' ∉ digits := by
  simp only [isDigits, Bool.and_eq_true, List.all_eq_true] at h
  intro hmem
  exact absurd (h.1.1 _ hmem) (by decide)

/-- So has a number. -/
theorem headerInt_oneLine {n : Int} (h : headerInt s = some n) : '\n' ∉ s.toList := by
  unfold headerInt at h
  -- a sign and digits, or digits alone
  split at h
  · rename_i digits heq
    split at h
    · rename_i hdigits
      rw [heq, List.mem_cons, not_or]
      exact ⟨by decide, isDigits_oneLine hdigits⟩
    · cases h
  · split at h
    · rename_i hdigits
      exact isDigits_oneLine hdigits
    · cases h

/-- So has a timestamp. -/
theorem headerTimestamp_oneLine {t : Int} (h : headerTimestamp s = some t) :
    '\n' ∉ s.toList := by
  unfold headerTimestamp at h
  split at h
  · rename_i n hn
    exact headerInt_oneLine hn
  · cases h

end Patterns

section Canonical

variable {Sig : Type} {c : Crypto Sig}
variable {method path agentId timestamp nonce keyId bodyHash : String}

/-- A canonical request whose fields are free of newlines has no other fields. -/
theorem canonicalRequest_inj
    (hfree : ∀ field ∈ [c.upper method, path, agentId, timestamp, nonce, keyId, bodyHash],
      '\n' ∉ field.toList)
    {method' path' agentId' timestamp' nonce' keyId' bodyHash' : String}
    (h : canonicalRequest c method path agentId timestamp nonce keyId bodyHash =
      canonicalRequest c method' path' agentId' timestamp' nonce' keyId' bodyHash') :
    c.upper method = c.upper method' ∧ path = path' ∧ agentId = agentId' ∧
      timestamp = timestamp' ∧ nonce = nonce' ∧ keyId = keyId' ∧ bodyHash = bodyHash' := by
  have hfields := Separated.string_intercalate_inj rfl (by simp) hfree (by simp) h
  simpa using hfields

/-- A command has one field more. -/
theorem canonicalRequest_ne_command
    (hfree : ∀ field ∈ [c.upper method, path, agentId, timestamp, nonce, keyId, bodyHash],
      '\n' ∉ field.toList)
    (method' path' orchestratorId targetAgentId timestamp' nonce' keyId' bodyHash' : String) :
    canonicalRequest c method path agentId timestamp nonce keyId bodyHash ≠
      canonicalCommand c method' path' orchestratorId targetAgentId timestamp' nonce' keyId'
        bodyHash' := by
  intro h
  have hfields := Separated.string_intercalate_inj rfl (by simp) hfree (by simp) h
  have := congrArg List.length hfields
  simp at this

/-- The info of a derived secret whose parts are free of colons has no other parts. -/
theorem secretInfo_inj {purpose purpose' agentId' keyId' : String}
    (hfree : ∀ field ∈ [purpose, agentId, keyId], ':' ∉ field.toList)
    (h : secretInfo purpose agentId keyId = secretInfo purpose' agentId' keyId') :
    purpose = purpose' ∧ agentId = agentId' ∧ keyId = keyId' := by
  have hall : ∀ field ∈ ["tomiris", "v1", purpose, agentId, keyId], ':' ∉ field.toList := by
    intro field hfield
    rcases List.mem_cons.mp hfield with rfl | hfield
    · decide
    rcases List.mem_cons.mp hfield with rfl | hfield
    · decide
    exact hfree field hfield
  have hfields := Separated.string_intercalate_inj rfl (by simp) hall (by simp) h
  simpa using hfields

end Canonical

section Verify

variable {Sig : Type} [DecidableEq Sig] {c : Crypto Sig} {a : HmacAuthenticator} {now t : Int}
variable {method path : String} {headers : AuthHeaders Sig} {body : List UInt8}

/-- The text that a request with these headers has to be signed over. -/
def AuthHeaders.canonical (c : Crypto Sig) (headers : AuthHeaders Sig) (method path : String)
    (body : List UInt8) : String :=
  canonicalRequest c method path headers.agentId headers.timestamp headers.nonce headers.keyId
    (c.sha256 body)

/-- What the authenticator has checked of a request that it accepts, with time `t`. -/
structure Verified (c : Crypto Sig) (a : HmacAuthenticator) (now : Int) (method path : String)
    (headers : AuthHeaders Sig) (body : List UInt8) (t : Int) : Prop where
  agent : isAgentId headers.agentId = true
  key : isKeyId headers.keyId = true
  nonce : isNonce headers.nonce = true
  timestamp : headerTimestamp headers.timestamp = some t
  skew : now - t ≤ seconds a.maxSkewSeconds ∧ -seconds a.maxSkewSeconds ≤ now - t
  signature : ∃ secret,
    a.provider.getSecretForAgent c headers.agentId headers.keyId = .ok (some secret) ∧
      headers.signature = c.hmac secret (headers.canonical c method path body)

/-- The requests that the Hub accepts. -/
theorem verify_ok_iff : a.verify c now method path headers body = .ok t ↔
    Verified c a now method path headers body t := by
  constructor
  · intro h
    -- the checks in the order of the source
    unfold HmacAuthenticator.verify at h
    split at h
    · cases h
    rename_i hagent
    split at h
    · cases h
    rename_i hkey
    split at h
    · cases h
    rename_i hnonce
    split at h
    · cases h
    split at h
    · cases h
    rename_i receivedAt htimestamp
    simp only at h
    split at h
    · cases h
    rename_i hold
    split at h
    · cases h
    rename_i hfuture
    split at h
    · cases h
    · cases h
    rename_i secret hsecret
    split at h
    · cases h
    rename_i hequal
    cases h
    refine ⟨by simpa using hagent, by simpa using hkey, by simpa using hnonce, htimestamp,
      ⟨by omega, by omega⟩, secret, hsecret, ?_⟩
    simp only [constantTimeEquals, decide_eq_false_iff_not, not_not] at hequal
    exact hequal.symm
  · intro h
    obtain ⟨secret, hsecret, hsignature⟩ := h.signature
    -- the signature of the derived secret has the shape that is checked first
    have hhex : c.hexDigest headers.signature = true := by
      rw [hsignature]
      exact c.hexDigest_hmac ..
    have hequal : constantTimeEquals (signHmac c secret (canonicalRequest c method path
        headers.agentId headers.timestamp headers.nonce headers.keyId (c.sha256 body)))
        headers.signature = true := decide_eq_true hsignature.symm
    unfold HmacAuthenticator.verify
    simp [h.agent, h.key, h.nonce, hhex, h.timestamp, hsecret, hequal, not_lt.mpr h.skew.1,
      not_lt.mpr h.skew.2]

omit [DecidableEq Sig] in
/-- The fields of an accepted request are free of newlines. -/
theorem Verified.oneLine (h : Verified c a now method path headers body t)
    (hmethod : '\n' ∉ method.toList) (hpath : '\n' ∉ path.toList) :
    ∀ field ∈ [c.upper method, path, headers.agentId, headers.timestamp, headers.nonce,
      headers.keyId, c.sha256 body], '\n' ∉ field.toList := by
  have hagent := isAgentId_not_mem '\n' h.agent (by decide) (by decide) (by decide)
  have hkey := isKeyId_not_mem '\n' h.key (by decide) (by decide) (by decide) (by decide)
  simp only [List.forall_mem_cons]
  exact ⟨c.upper_oneLine _ hmethod, hpath, hagent, headerTimestamp_oneLine h.timestamp,
    isNonce_oneLine h.nonce, hkey, c.sha256_oneLine body, by simp⟩

omit [DecidableEq Sig] in
/-- A signature of a request text is accepted only for the fields of that text. -/
theorem Verified.signed_fields (hc : c.Symbolic)
    (h : Verified c a now method path headers body t) (hmethod : '\n' ∉ method.toList)
    (hpath : '\n' ∉ path.toList)
    {secret method' path' agentId timestamp nonce keyId : String} {body' : List UInt8}
    (hsig : signHmac c secret (canonicalRequest c method' path' agentId timestamp nonce keyId
      (c.sha256 body')) = headers.signature) :
    c.upper method' = c.upper method ∧ path' = path ∧ agentId = headers.agentId ∧
      timestamp = headers.timestamp ∧ nonce = headers.nonce ∧ keyId = headers.keyId ∧
      body' = body := by
  obtain ⟨secret', -, hsignature⟩ := h.signature
  rw [hsignature] at hsig
  obtain ⟨-, htext⟩ := hc.hmac hsig
  obtain ⟨hupper, rfl, rfl, rfl, rfl, rfl, hbody⟩ :=
    canonicalRequest_inj (h.oneLine hmethod hpath) htext.symm
  exact ⟨hupper.symm, rfl, rfl, rfl, rfl, rfl, (hc.sha256 hbody).symm⟩

omit [DecidableEq Sig] in
/-- No command is signed over the text of a request. -/
theorem Verified.not_command (hc : c.Symbolic)
    (h : Verified c a now method path headers body t) (hmethod : '\n' ∉ method.toList)
    (hpath : '\n' ∉ path.toList)
    (secret method' path' orchestratorId targetAgentId timestamp nonce keyId bodyHash : String) :
    signHmac c secret (canonicalCommand c method' path' orchestratorId targetAgentId timestamp
      nonce keyId bodyHash) ≠ headers.signature := by
  intro hsig
  obtain ⟨secret', -, hsignature⟩ := h.signature
  rw [hsignature] at hsig
  obtain ⟨-, htext⟩ := hc.hmac hsig
  exact canonicalRequest_ne_command (h.oneLine hmethod hpath) _ _ _ _ _ _ _ _ htext.symm

omit [DecidableEq Sig] in
/-- A secret derived for something else signs nothing that is accepted. -/
theorem Verified.derived_key (hc : c.Symbolic)
    (h : Verified c a now method path headers body t)
    (hpurpose : ':' ∉ a.provider.purpose.toList)
    {root agentId purpose keyId secret canonical : String}
    (hderive : deriveAgentSecret c root agentId purpose keyId = .ok secret)
    (hsig : signHmac c secret canonical = headers.signature) :
    agentId = headers.agentId ∧ purpose = a.provider.purpose ∧ keyId = headers.keyId := by
  obtain ⟨secret', hsecret', hsignature⟩ := h.signature
  obtain ⟨root', -, hderive'⟩ := getSecretForAgent_some hsecret'
  obtain ⟨-, -, rfl⟩ := deriveAgentSecret_ok.mp hderive
  obtain ⟨-, -, rfl⟩ := deriveAgentSecret_ok.mp hderive'
  rw [hsignature] at hsig
  -- equal signatures come from equal keys, and these from equal texts of purpose, agent and key id
  obtain ⟨hkey, -⟩ := hc.hmac hsig
  obtain ⟨-, hinfo⟩ := hc.hkdf hkey
  -- none of the three has a colon, so the text can be taken apart
  have hfree : ∀ field ∈ [a.provider.purpose, headers.agentId, headers.keyId],
      ':' ∉ field.toList := by
    have hagent := isAgentId_not_mem ':' h.agent (by decide) (by decide) (by decide)
    have hkeyId := isKeyId_not_mem ':' h.key (by decide) (by decide) (by decide)
      (by decide)
    simp only [List.forall_mem_cons]
    exact ⟨hpurpose, hagent, hkeyId, by simp⟩
  obtain ⟨hpurpose', hagent', hkeyId'⟩ := secretInfo_inj hfree hinfo.symm
  exact ⟨hagent'.symm, hpurpose'.symm, hkeyId'.symm⟩

end Verify

/-- A configured key id has a root that secrets can be derived from. -/
theorem DerivedAuthSettings.rootFor_configured (s : DerivedAuthSettings) {keyId : String}
    (hkey : isKeyId keyId = true)
    (h : keyId = s.ingestKeyId ∨ s.previousKeyId = some keyId) :
    ∃ root, s.authenticator.provider.rootFor keyId = some root ∧ 32 ≤ root.length := by
  unfold DerivedPerAgentSecretProvider.rootFor
  simp only [DerivedAuthSettings.authenticator]
  -- the current key id, or the previous one: its root is set if its id is
  by_cases hcurrent : keyId = s.ingestKeyId
  · exact ⟨s.agentMasterSecret, if_pos hcurrent, s.master⟩
  · obtain hprevious := h.resolve_left hcurrent
    have hid : truthy s.previousKeyId = some keyId := by
      have hlen : keyId ≠ "" := by
        rintro rfl
        simp [isKeyId] at hkey
      simp [truthy, hprevious, hlen]
    have hsome := s.rotation
    rw [hid, Option.isSome_some, eq_comm, Option.isSome_iff_exists] at hsome
    obtain ⟨root, hroot⟩ := hsome
    have hlen := s.previous_master root hroot
    have hmaster : truthy s.agentPreviousMasterSecret = some root := by
      have hne : root ≠ "" := by
        rintro rfl
        simp at hlen
      simp [truthy, hroot, hne]
    exact ⟨root, by simp [hcurrent, hid, hmaster], hlen⟩

/-- A Hub in derived mode, in the symbolic model. A signature that it accepts is the HMAC, under
    the key derived for its own purpose and the agent and key of the headers, over the components
    of the request. No signature made over other components, for a command, or with a key derived
    for anything else is accepted; and a request that is signed with that key is. -/
theorem signature_binds_request {Sig : Type} [DecidableEq Sig] {c : Crypto Sig}
    (hc : c.Symbolic) (s : DerivedAuthSettings) (now : Int) :
    (∀ method path headers body t, '\n' ∉ method.toList → '\n' ∉ path.toList →
      s.authenticator.verify c now method path headers body = .ok t →
      (∃ root secret, s.authenticator.provider.rootFor headers.keyId = some root ∧
        deriveAgentSecret c root headers.agentId "hub-ingest" headers.keyId = .ok secret ∧
        headers.signature = signHmac c secret (headers.canonical c method path body)) ∧
      (∀ clock generated agentId keyId secret method' path' body' timestamp nonce,
        (buildSignedHeaders c clock generated agentId keyId secret method' path' body' timestamp
          nonce).signature = headers.signature →
        c.upper method' = c.upper method ∧ path' = path ∧ body' = body ∧
          buildSignedHeaders c clock generated agentId keyId secret method' path' body' timestamp
            nonce = headers) ∧
      (∀ generated orchestratorId targetAgentId keyId secret body' timestamp nonce,
        (buildCommandHeaders c generated orchestratorId targetAgentId keyId secret body' timestamp
          nonce).signature ≠ headers.signature) ∧
      ∀ root agentId purpose keyId secret canonical,
        deriveAgentSecret c root agentId purpose keyId = .ok secret →
        (agentId, purpose, keyId) ≠ (headers.agentId, "hub-ingest", headers.keyId) →
        signHmac c secret canonical ≠ headers.signature) ∧
    ∀ agentId keyId, isAgentId agentId = true → isKeyId keyId = true →
      keyId = s.ingestKeyId ∨ s.previousKeyId = some keyId →
      ∃ root secret, s.authenticator.provider.rootFor keyId = some root ∧
        deriveAgentSecret c root agentId "hub-ingest" keyId = .ok secret ∧
        ∀ method path body (clock : Int) generated timestamp nonce,
          isNonce ((truthy nonce).getD generated) = true →
          representable (timestamp.getD clock) = true →
          now - timestamp.getD clock * second ≤ seconds s.authMaxClockSkewSeconds →
          -seconds s.authMaxClockSkewSeconds ≤ now - timestamp.getD clock * second →
          s.authenticator.verify c now method path (buildSignedHeaders c clock generated agentId
            keyId secret method path body timestamp nonce) body =
              .ok (timestamp.getD clock * second) := by
  constructor
  · intro method path headers body t hmethod hpath hok
    have h := verify_ok_iff.mp hok
    refine ⟨?_, ?_, ?_, ?_⟩
    · obtain ⟨secret, hsecret, hsignature⟩ := h.signature
      obtain ⟨root, hroot, hderive⟩ := getSecretForAgent_some hsecret
      exact ⟨root, secret, hroot, hderive, hsignature⟩
    -- signed for another request
    · intro clock generated agentId keyId secret method' path' body' timestamp nonce hsig
      obtain ⟨hupper, rfl, rfl, htimestamp, hnonce, rfl, rfl⟩ :=
        h.signed_fields hc hmethod hpath hsig
      refine ⟨hupper, rfl, rfl, ?_⟩
      obtain ⟨agentId, timestamp', nonce', keyId, signature⟩ := headers
      simp only at htimestamp hnonce
      subst htimestamp hnonce
      simp only at hsig
      subst hsig
      rfl
    -- signed as a command
    · intro generated orchestratorId targetAgentId keyId secret body' timestamp nonce
      exact h.not_command hc hmethod hpath _ _ _ _ _ _ _ _ _
    -- signed with a secret for something else
    · intro root agentId purpose keyId secret canonical hderive hother hsig
      have hpurpose : ':' ∉ "hub-ingest".toList := by decide
      obtain ⟨rfl, rfl, rfl⟩ := h.derived_key hc hpurpose hderive hsig
      exact hother rfl
  -- the key of the agent itself
  · intro agentId keyId hagent hkey hconfigured
    obtain ⟨root, hroot, hlen⟩ := s.rootFor_configured hkey hconfigured
    have hderive : deriveAgentSecret c root agentId "hub-ingest" keyId =
        .ok (c.hkdf root (secretInfo "hub-ingest" agentId keyId)) :=
      deriveAgentSecret_ok.mpr ⟨by decide, hlen, rfl⟩
    refine ⟨root, _, hroot, hderive, ?_⟩
    intro method path body clock generated timestamp nonce hnonce hrep hold hfuture
    refine verify_ok_iff.mpr ⟨hagent, hkey, hnonce, headerTimestamp_toString hrep,
      ⟨hold, hfuture⟩, _, ?_, rfl⟩
    unfold DerivedPerAgentSecretProvider.getSecretForAgent
    have hroot' : s.authenticator.provider.rootFor keyId = some root := hroot
    simp only [buildSignedHeaders, hroot']
    rw [show s.authenticator.provider.purpose = "hub-ingest" from rfl, hderive]
    rfl

namespace Deployment

/-- A printable character for each byte. -/
def byteChar (b : UInt8) : Char := Char.ofNat (b.toNat + 48)

/-- The characters for bytes start at `0`. -/
theorem byteChar_toNat (b : UInt8) : (byteChar b).toNat = b.toNat + 48 := by
  have hlt : b.toNat < 256 := b.toNat_lt
  have hvalid : (b.toNat + 48).isValidChar := .inl (by omega)
  unfold byteChar Char.ofNat
  rw [dif_pos hvalid]
  rfl

/-- A hash without collisions: a number of `#` for a known body, and a character for each byte of any
    other. -/
def bodyHash (known : List (List UInt8)) (body : List UInt8) : String :=
  match known.findIdx? (fun other => other == body) with
  | some i => String.ofList (List.replicate (i + 1) '#')
  | none => String.ofList (body.map byteChar)

/-- So none of them is a separator. -/
theorem byteChar_ne {c : Char} (hc : c.toNat < 48) (body : List UInt8) :
    c ∉ body.map byteChar := by
  intro hmem
  obtain ⟨b, -, rfl⟩ := List.mem_map.mp hmem
  rw [byteChar_toNat] at hc
  omega

/-- A digest has one line. -/
theorem bodyHash_oneLine (known : List (List UInt8)) (body : List UInt8) :
    '\n' ∉ (bodyHash known body).toList := by
  unfold bodyHash
  split
  · rw [String.toList_ofList]
    intro hmem
    exact absurd (List.eq_of_mem_replicate hmem) (by decide)
  · rw [String.toList_ofList]
    exact byteChar_ne (by decide) body

/-- Bytes can be told from their characters. -/
theorem map_byteChar_inj {body body' : List UInt8}
    (h : body.map byteChar = body'.map byteChar) : body = body' := by
  refine (List.map_inj_right ?_).mp h
  intro b b' hb
  have := congrArg Char.toNat hb
  rw [byteChar_toNat, byteChar_toNat] at this
  exact UInt8.toNat_inj.mp (by omega)

/-- And bodies from their digests. -/
theorem bodyHash_inj {known : List (List UInt8)} {body body' : List UInt8}
    (h : bodyHash known body = bodyHash known body') : body = body' := by
  have hlists := congrArg String.toList h
  unfold bodyHash at hlists
  split at hlists <;> rename_i hbody <;> split at hlists <;> rename_i hbody'
  · -- so many of the sign, so the same place in the list
    rw [String.toList_ofList, String.toList_ofList, List.replicate_inj] at hlists
    obtain ⟨hlt, hfound, -⟩ := List.findIdx?_eq_some_iff_getElem.mp hbody
    obtain ⟨hlt', hfound', -⟩ := List.findIdx?_eq_some_iff_getElem.mp hbody'
    simp only [beq_iff_eq] at hfound hfound'
    have hplace := hlists.1
    rw [← hfound, ← hfound']
    congr 1
    omega
  · rw [String.toList_ofList, String.toList_ofList] at hlists
    exact absurd (hlists ▸ List.mem_replicate.mpr ⟨by simp, rfl⟩)
      (@byteChar_ne '#' (by decide) body')
  · rw [String.toList_ofList, String.toList_ofList] at hlists
    exact absurd (hlists ▸ List.mem_replicate.mpr ⟨by simp, rfl⟩)
      (@byteChar_ne '#' (by decide) body)
  · rw [String.toList_ofList, String.toList_ofList] at hlists
    exact map_byteChar_inj hlists

/-- The free primitives: a signature is the pair that was signed. -/
def termsFor (known : List (List UInt8)) : Crypto (String × String) where
  sha256 := bodyHash known
  hmac := Prod.mk
  hexDigest := fun _ => true
  hkdf := fun root info => toString root.length ++ ":" ++ root ++ info
  upper := fun text => text
  hexDigest_hmac := fun _ _ => rfl
  sha256_oneLine := bodyHash_oneLine known
  upper_oneLine := fun _ h => h

/-- So these primitives are symbolic. -/
theorem termsFor_symbolic (known : List (List UInt8)) : (termsFor known).Symbolic where
  sha256 := fun _ _ => bodyHash_inj
  hmac := by
    intro secret secret' canonical canonical' h
    exact Prod.mk.inj h
  hkdf := by
    intro root root' info info' h
    have hlists := congrArg String.toList h
    simp only [termsFor, Nat.toString_eq_repr, String.toList_append, Nat.toList_repr,
      List.append_assoc] at hlists
    -- the length in front says where the root ends
    have hdigits : ∀ n, ':' ∉ Nat.toDigits 10 n := by
      intro n hmem
      exact absurd (Nat.isDigit_of_mem_toDigits (by decide) (by decide) hmem) (by decide)
    obtain ⟨hlen, htexts⟩ := Separated.append_sep_inj (hdigits _) (hdigits _) hlists
    have hlen' : root.toList.length = root'.toList.length := by
      rw [String.length_toList, String.length_toList,
        ← Nat.ofDigitChars_ten_toDigits (n := root.length), hlen, Nat.ofDigitChars_ten_toDigits]
    have hbehind : root.toList ++ info.toList = root'.toList ++ info'.toList := htexts
    obtain ⟨hroot, hinfo⟩ := List.append_inj hbehind hlen'
    exact ⟨String.toList_inj.mp hroot, String.toList_inj.mp hinfo⟩

abbrev terms : Crypto (String × String) := termsFor []

/-- Also without known bodies. -/
theorem terms_symbolic : terms.Symbolic := termsFor_symbolic []

/-- `repr(x)`, to all digits. No message of the deployments has a float. -/
def jsonFloat : PyFloat → String
  | .finite q => FloatFunctions.general 17 q
  | .nan => "NaN"
  | .posInf => "Infinity"
  | .negInf => "-Infinity"

/-- A Hub in derived mode with the default skew. -/
def derivedHub : DerivedAuthSettings where
  ingestKeyId := "current"
  agentMasterSecret := "a-root-secret-of-more-than-32-characters"
  previousKeyId := none
  agentPreviousMasterSecret := none
  key_id := by decide
  master := by decide
  previous_master := by simp
  rotation := rfl
  skew := by decide

end Deployment

open Deployment in
/-- A request of agent `ALPHA`, signed at second 0 with its derived key, is accepted at second 60. -/
theorem signature_binds_request_alpha :
    ∃ secret, deriveAgentSecret terms derivedHub.agentMasterSecret "ALPHA" "hub-ingest" "current" =
        .ok secret ∧
      derivedHub.authenticator.verify terms (seconds 60) "POST" "/v1/signals"
        (buildSignedHeaders terms 0 "AAAAAAAAAAAAAAAAAAAAAA" "ALPHA" "current" secret "POST"
          "/v1/signals" [123, 125] none none) [123, 125] = .ok 0 := by
  obtain ⟨root, secret, hroot, hderive, haccepted⟩ :=
    (signature_binds_request terms_symbolic derivedHub (seconds 60)).2 "ALPHA" "current"
      (by decide) (by decide) (.inl rfl)
  cases hroot
  exact ⟨secret, hderive, haccepted "POST" "/v1/signals" [123, 125] 0 "AAAAAAAAAAAAAAAAAAAAAA" none
    none (by decide) (by decide) (by decide) (by decide)⟩

end Tomiris
