import Tomiris.Runtime.Application
import Tomiris.Spec.Signing

/-!
# Replayed commands

A signature is good for the clock skew on both sides of its timestamp, and the task store forgets
a nonce after its own lifetime. The second has to outlast the first: `δ` is what the clock may
advance between the reading of `verify` and the one of `accept` while a request is served.

## Key results

- `command_verify_ok_iff`: the commands that the runtime authenticates
- `no_replay_iff`: no captured command is accepted twice exactly if the nonces outlive the window
- `command_accepted_twice`: settings in their ranges with which one is
-/

namespace Tomiris

section Verify

variable {Sig : Type} [DecidableEq Sig] {c : Crypto Sig} {a : CommandAuthenticator} {now : Int}
variable {headers : CommandAuthHeaders Sig} {body : List UInt8}

/-- What the authenticator has checked of a command that it accepts. -/
structure CommandVerified (c : Crypto Sig) (a : CommandAuthenticator) (now : Int)
    (headers : CommandAuthHeaders Sig) (body : List UInt8) : Prop where
  orchestrator : headers.orchestratorId = a.orchestratorId
  key : headers.keyId = a.keyId
  nonce : isNonce headers.nonce = true
  skew : ∃ t, headerTimestamp headers.timestamp = some t ∧
    now - t ≤ seconds a.maxSkewSeconds ∧ -seconds a.maxSkewSeconds ≤ now - t
  signature : headers.signature = c.hmac a.secret (canonicalCommand c "POST" "/v1/analyze"
    headers.orchestratorId a.targetAgentId headers.timestamp headers.nonce headers.keyId
    (c.sha256 body))

/-- The commands that the runtime authenticates. -/
theorem command_verify_ok_iff : a.verify c now headers body = .ok () ↔
    CommandVerified c a now headers body := by
  constructor
  · intro h
    -- the checks in the order of the source
    unfold CommandAuthenticator.verify at h
    split at h
    · cases h
    rename_i horchestrator
    split at h
    · cases h
    rename_i hkey
    split at h
    · cases h
    rename_i hnonce
    split at h
    · cases h
    split at h
    · cases h
    rename_i t htimestamp
    simp only at h
    split at h
    · cases h
    rename_i hold
    split at h
    · cases h
    rename_i hfuture
    split at h
    · cases h
    rename_i hequal
    simp only [constantTimeEquals, decide_eq_false_iff_not, not_not] at hequal
    exact ⟨not_not.mp horchestrator, not_not.mp hkey, by simpa using hnonce,
      ⟨t, htimestamp, by omega, by omega⟩, hequal.symm⟩
  · intro h
    obtain ⟨t, htimestamp, hold, hfuture⟩ := h.skew
    -- the signature of the shared secret has the shape that is checked first
    have hhex : c.hexDigest headers.signature = true := by
      rw [h.signature]
      exact c.hexDigest_hmac ..
    have hequal : constantTimeEquals (signHmac c a.secret (canonicalCommand c "POST"
        "/v1/analyze" headers.orchestratorId a.targetAgentId headers.timestamp headers.nonce
        headers.keyId (c.sha256 body))) headers.signature = true :=
      decide_eq_true h.signature.symm
    unfold CommandAuthenticator.verify
    rw [if_neg (not_not.mpr h.orchestrator), if_neg (not_not.mpr h.key)]
    simp [h.nonce, hhex, htimestamp, hequal, not_lt.mpr hold, not_lt.mpr hfuture]

end Verify

/-- The readings come one after the other, the last one at most `δ` after the first. -/
structure Readings.Within (δ : Nat) (clock : Readings) : Prop where
  checked : clock.verified ≤ clock.checked
  acked : clock.checked ≤ clock.acked
  expiry : clock.acked ≤ clock.expiry
  stored : clock.expiry ≤ clock.stored
  span : clock.stored ≤ clock.verified + δ

section Nonces

variable {st : RuntimeTaskStore} {sub : RuntimeTaskStore.Submission} {nonce : String} {expiry : Int}

/-- A nonce that has not expired is kept. -/
theorem mem_prune {now : Int} {nonces : List (String × Int)} (h : (nonce, expiry) ∈ nonces)
    (hlive : now < expiry) : (nonce, expiry) ∈ RuntimeTaskStore.prune now nonces :=
  List.mem_filter.mpr ⟨h, by simpa using hlive⟩

/-- A nonce is remembered up to its expiry. -/
theorem accept_keeps_nonce (h : (nonce, expiry) ∈ st.nonces) (hlive : sub.now < expiry) :
    (nonce, expiry) ∈ (st.accept sub).1.nonces := by
  have hmem := mem_prune h hlive
  unfold RuntimeTaskStore.accept
  simp only []
  split
  · exact hmem
  · split
    · split <;> exact List.mem_append_left _ hmem
    · exact List.mem_append_left _ hmem

/-- And a request that repeats it is refused. -/
theorem accept_replay (h : (sub.nonce, expiry) ∈ st.nonces) (hlive : sub.now < expiry) :
    (st.accept sub).2 = .error .commandReplay := by
  have hsome : ((RuntimeTaskStore.prune sub.now st.nonces).lookup sub.nonce).isSome = true := by
    rw [List.lookup_isSome_iff]
    exact ⟨_, mem_prune h hlive, by simp⟩
  unfold RuntimeTaskStore.accept
  simp only []
  rw [if_pos hsome]

/-- A call that is no replay spends its nonce, whatever else it answers. -/
theorem accept_spends_nonce (h : (st.accept sub).2 ≠ .error .commandReplay) :
    (sub.nonce, sub.nonceExpiresAt) ∈ (st.accept sub).1.nonces := by
  unfold RuntimeTaskStore.accept at h ⊢
  simp only [] at h ⊢
  split
  · rename_i hknown
    rw [if_pos hknown] at h
    exact absurd rfl h
  · split
    · split <;> simp
    · simp

/-- The nonces after a call were there before, or are its own. -/
theorem mem_accept_nonces {entry : String × Int} (h : entry ∈ (st.accept sub).1.nonces) :
    entry ∈ st.nonces ∨ entry = (sub.nonce, sub.nonceExpiresAt) := by
  have hpruned : ∀ e ∈ RuntimeTaskStore.prune sub.now st.nonces, e ∈ st.nonces := fun e he =>
    (List.mem_filter.mp he).1
  unfold RuntimeTaskStore.accept at h
  simp only [] at h
  -- a replay stores nothing; every other outcome stores the nonce of the submission
  split at h
  · exact .inl (hpruned _ h)
  · have hmem : entry ∈ RuntimeTaskStore.prune sub.now st.nonces ++
        [(sub.nonce, sub.nonceExpiresAt)] := by
      split at h
      · split at h <;> exact h
      · exact h
    rw [List.mem_append, List.mem_singleton] at hmem
    exact hmem.imp (hpruned _) id

/-- Once every remembered nonce has expired, no call is a replay. -/
theorem accept_expired (h : ∀ entry ∈ st.nonces, entry.2 ≤ sub.now) :
    (st.accept sub).2 ≠ .error .commandReplay := by
  have hpruned : RuntimeTaskStore.prune sub.now st.nonces = [] := by
    unfold RuntimeTaskStore.prune
    rw [List.filter_eq_nil_iff]
    intro entry hentry
    have := h entry hentry
    simpa using this
  unfold RuntimeTaskStore.accept
  simp only [hpruned, List.lookup_nil, Option.isSome_none, Bool.false_eq_true, if_false]
  split
  · split <;> simp
  · simp

end Nonces

namespace AgentRuntime

variable {Sig : Type}

/-- A request with the clock readings that it is served with. -/
abbrev Call (Sig : Type) := Readings × RawRequest Sig

/-- The headers and the body of a request, which is what can be captured of it. -/
def captured (app : AgentRuntime Sig) (request : RawRequest Sig) :
    Option (CommandAuthHeaders Sig × List UInt8) :=
  match request.authHeaders, readLimitedTaskBody request app.settings.maxTaskRequestBytes with
  | some auth, .ok body => some (auth, body)
  | _, _ => none

/-- The requests are served one after the other, at non-decreasing clock times. -/
def Timed (δ : Nat) (calls : List (Call Sig)) : Prop :=
  (∀ call ∈ calls, call.1.Within δ) ∧ calls.Pairwise fun call next => call.1.stored ≤ next.1.verified

/-- What the endpoint asks of a task. -/
theorem checkTask_ok {app : AgentRuntime Sig} {clock : Readings} {task : AnalysisTaskRequest}
    {ack : AnalysisTaskAck} (h : app.checkTask clock task = .ok ack) :
    task.agentId = app.settings.tomirisAgentId ∧ clock.checked < task.deadline ∧
      task.requiredCapability ∈ app.settings.capabilities ∧
      task.asset ∈ app.settings.supportedAssets app.crypto.upper ∧
      boundedText 32 app.settings.runtimeVersion = true := by
  -- agent, deadline, capability, asset and version, in this order
  unfold checkTask at h
  split at h
  · cases h
  rename_i hagent
  split at h
  · cases h
  rename_i hdeadline
  split at h
  · cases h
  rename_i hcapability
  split at h
  · cases h
  rename_i hasset
  split at h
  · cases h
  rename_i hversion
  exact ⟨not_not.mp hagent, not_le.mp hdeadline, not_not.mp hcapability, not_not.mp hasset,
    by simpa using hversion⟩

/-- A body that is too long is not collected. -/
theorem collectChunks_length {limit : Nat} {collected body : List UInt8}
    {chunks : List (List UInt8)} (h : collectChunks limit collected chunks = .ok body)
    (hlen : collected.length ≤ limit) : body.length ≤ limit := by
  induction chunks generalizing collected with
  | nil =>
    cases h
    exact hlen
  | cons chunk rest ih =>
    rw [collectChunks] at h
    split at h
    · cases h
    · rename_i hfits
      exact ih h (by rw [List.length_append]; omega)

/-- Nor read. -/
theorem readLimitedTaskBody_length {request : RawRequest Sig} {limit : Nat} {body : List UInt8}
    (h : readLimitedTaskBody request limit = .ok body) : body.length ≤ limit := by
  unfold readLimitedTaskBody at h
  split at h
  · exact collectChunks_length h (Nat.zero_le _)
  · cases h
  · split at h
    · cases h
    · split at h
      · cases h
      · exact collectChunks_length h (Nat.zero_le _)

variable [DecidableEq Sig]

/-- The store after the requests. -/
def serve (app : AgentRuntime Sig) (st : RuntimeTaskStore) : List (Call Sig) → RuntimeTaskStore
  | [] => st
  | call :: rest => app.serve (app.analyze st call.1 call.2).1 rest

/-- The request passes every check up to `accept`, and `accept` raises no `COMMAND_REPLAY`. -/
def Passes (app : AgentRuntime Sig) (st : RuntimeTaskStore) (call : Call Sig) : Prop :=
  ∃ task sub, app.prepare call.1 call.2 = .ok (task, sub) ∧
    (st.accept sub).2 ≠ .error .commandReplay

/-- No captured command passes twice in one run of the process. -/
def NoReplay (app : AgentRuntime Sig) (δ : Nat) : Prop :=
  ∀ before first between again, Timed δ (before ++ first :: (between ++ [again])) →
    app.captured first.2 = app.captured again.2 →
    app.Passes (app.serve {} before) first →
    ¬ app.Passes (app.serve {} (before ++ first :: between)) again

/-- The body is that of a task that the endpoint serves while its deadline has not passed. -/
structure Serves (app : AgentRuntime Sig) (body : List UInt8) (task : ValidTask) : Prop where
  body_fits : body.length ≤ app.settings.maxTaskRequestBytes
  parsed : app.modelValidateJson body = some task
  agent : task.val.agentId = app.settings.tomirisAgentId
  capability : task.val.requiredCapability ∈ app.settings.capabilities
  asset : task.val.asset ∈ app.settings.supportedAssets app.crypto.upper
  version : boundedText 32 app.settings.runtimeVersion = true

/-- What a request has passed that reaches the task store. -/
structure Admitted (app : AgentRuntime Sig) (clock : Readings) (auth : CommandAuthHeaders Sig)
    (body : List UInt8) (task : ValidTask) (sub : RuntimeTaskStore.Submission) : Prop where
  verified : CommandVerified app.crypto app.authenticator clock.verified auth body
  serves : app.Serves body task
  deadline : clock.checked < task.val.deadline
  nonce : sub.nonce = auth.nonce
  expiry : sub.nonceExpiresAt = clock.expiry + seconds app.settings.commandNonceTtlSeconds
  now : sub.now = clock.stored

/-- The requests that reach the task store. -/
theorem prepare_ok {app : AgentRuntime Sig} {clock : Readings} {request : RawRequest Sig}
    {task : ValidTask} {sub : RuntimeTaskStore.Submission}
    (h : app.prepare clock request = .ok (task, sub)) :
    ∃ auth body, app.captured request = some (auth, body) ∧
      app.Admitted clock auth body task sub := by
  -- body, headers, signature, model and task, in this order
  unfold prepare at h
  split at h
  · cases h
  rename_i body hbody
  split at h
  · cases h
  rename_i auth hauth
  split at h
  · cases h
  rename_i hverify
  split at h
  · cases h
  rename_i task' hparsed
  split at h
  · cases h
  rename_i ack hcheck
  cases h
  obtain ⟨hagent, hdeadline, hcapability, hasset, hversion⟩ := checkTask_ok hcheck
  refine ⟨auth, body, ?_, command_verify_ok_iff.mp hverify,
    ⟨readLimitedTaskBody_length hbody, hparsed, hagent, hcapability, hasset, hversion⟩, hdeadline,
    rfl, rfl, rfl⟩
  unfold AgentRuntime.captured
  rw [hauth, hbody]

/-- The store is left alone, or takes one submission at the last reading of the request. -/
theorem analyze_store (app : AgentRuntime Sig) (st : RuntimeTaskStore) (clock : Readings)
    (request : RawRequest Sig) :
    (app.analyze st clock request).1 = st ∨ ∃ task sub, app.prepare clock request = .ok (task, sub) ∧
      (app.analyze st clock request).1 = (st.accept sub).1 := by
  unfold analyze
  split
  · exact .inl rfl
  · rename_i task sub hprepare
    refine .inr ⟨task, sub, hprepare, ?_⟩
    split <;> rename_i heq <;> rw [heq]

/-- What becomes of the store then. -/
theorem analyze_admitted {app : AgentRuntime Sig} {st : RuntimeTaskStore} {clock : Readings}
    {request : RawRequest Sig} {task : ValidTask} {sub : RuntimeTaskStore.Submission}
    (h : app.prepare clock request = .ok (task, sub)) :
    (app.analyze st clock request).1 = (st.accept sub).1 := by
  unfold analyze
  rw [h]
  simp only
  split <;> rename_i heq <;> rw [heq]

/-- The calls are served one after the other. -/
theorem serve_append (app : AgentRuntime Sig) (st : RuntimeTaskStore)
    (calls calls' : List (Call Sig)) :
    app.serve st (calls ++ calls') = app.serve (app.serve st calls) calls' := by
  induction calls generalizing st with
  | nil => rfl
  | cons call rest ih => exact ih _

/-- Requests that are stored before its expiry leave a nonce in the store. -/
theorem serve_keeps_nonce {app : AgentRuntime Sig} {nonce : String} {expiry : Int}
    {calls : List (Call Sig)} (hlive : ∀ call ∈ calls, call.1.stored < expiry)
    {st : RuntimeTaskStore} (h : (nonce, expiry) ∈ st.nonces) :
    (nonce, expiry) ∈ (app.serve st calls).nonces := by
  -- over the calls: each prunes at its own time, which is before the expiry
  induction calls generalizing st with
  | nil => exact h
  | cons call rest ih =>
    rw [List.forall_mem_cons] at hlive
    have hstep : (nonce, expiry) ∈ (app.analyze st call.1 call.2).1.nonces := by
      rcases app.analyze_store st call.1 call.2 with heq | ⟨task, sub, hprepare, heq⟩
      · rw [heq]
        exact h
      · rw [heq]
        refine accept_keeps_nonce h ?_
        obtain ⟨_, _, _, hadmitted⟩ := prepare_ok hprepare
        rw [hadmitted.now]
        exact hlive.1
    exact ih hlive.2 hstep

/-- A captured command that passes twice has waited for its nonce to expire. -/
theorem passes_twice {app : AgentRuntime Sig} {δ : Nat} {before between : List (Call Sig)}
    {first again : Call Sig} (htimed : Timed δ (before ++ first :: (between ++ [again])))
    (hcaptured : app.captured first.2 = app.captured again.2)
    (hfirst : app.Passes (app.serve {} before) first)
    (hagain : app.Passes (app.serve {} (before ++ first :: between)) again) :
    ∃ auth body task, CommandVerified app.crypto app.authenticator first.1.verified auth body ∧
      CommandVerified app.crypto app.authenticator again.1.verified auth body ∧
      app.Serves body task ∧ again.1.checked < task.val.deadline ∧
      first.1.expiry + seconds app.settings.commandNonceTtlSeconds ≤ again.1.stored ∧
      first.1.stored ≤ again.1.verified := by
  obtain ⟨task, sub, hprepare, hnew⟩ := hfirst
  obtain ⟨task', sub', hprepare', hnew'⟩ := hagain
  obtain ⟨auth, body, hcap, hadmitted⟩ := prepare_ok hprepare
  obtain ⟨auth', body', hcap', hadmitted'⟩ := prepare_ok hprepare'
  rw [hcaptured, hcap'] at hcap
  cases hcap
  obtain ⟨hwithin, horder⟩ := htimed
  have hagainClock := hwithin again (by simp)
  rw [List.pairwise_append, List.pairwise_cons, List.pairwise_append] at horder
  obtain ⟨-, ⟨hfirst, -, -, hbetween⟩, -⟩ := horder
  refine ⟨auth, body, task', hadmitted.verified, hadmitted'.verified, hadmitted'.serves,
    hadmitted'.deadline, ?_, hfirst again (by simp)⟩
  by_contra hexpired
  have hlive : again.1.stored < sub.nonceExpiresAt := by
    rw [hadmitted.expiry]
    omega
  -- up to its expiry the nonce stays in the store
  have hkept : (sub.nonce, sub.nonceExpiresAt) ∈
      (app.serve {} (before ++ first :: between)).nonces := by
    rw [serve_append, serve]
    refine serve_keeps_nonce (fun call hcall => ?_) ?_
    · have := hbetween call hcall again (List.mem_singleton_self _)
      have := hagainClock.checked
      have := hagainClock.acked
      have := hagainClock.expiry
      have := hagainClock.stored
      omega
    · rw [analyze_admitted hprepare]
      exact accept_spends_nonce hnew
  rw [hadmitted.nonce, ← hadmitted'.nonce] at hkept
  exact hnew' (accept_replay hkept (by rw [hadmitted'.now]; exact hlive))

/-- A task is served whose deadline lies beyond the moment at which the nonce of a command with
    timestamp `t`, accepted at the start of its window, can be forgotten. -/
structure Servable (app : AgentRuntime Sig) (δ : Nat) (t : Int) (body : List UInt8)
    (task : ValidTask) : Prop where
  representable : Tomiris.representable t = true
  serves : app.Serves body task
  deadline : t * second - seconds app.settings.commandMaxClockSkewSeconds +
    max 0 (seconds app.settings.commandNonceTtlSeconds - δ) < task.val.deadline

/-- A command that passes twice was remembered for too short a time. -/
theorem servable_of_twice {app : AgentRuntime Sig} {δ : Nat} {before between : List (Call Sig)}
    {first again : Call Sig} (htimed : Timed δ (before ++ first :: (between ++ [again])))
    (hcaptured : app.captured first.2 = app.captured again.2)
    (hfirst : app.Passes (app.serve {} before) first)
    (hagain : app.Passes (app.serve {} (before ++ first :: between)) again) :
    seconds app.settings.commandNonceTtlSeconds ≤
        2 * seconds app.settings.commandMaxClockSkewSeconds + δ ∧
      ∃ t body task, app.Servable δ t body task := by
  obtain ⟨auth, body, task, hverified, hverified', hserves, hdeadline, hexpired, horder⟩ :=
    passes_twice htimed hcaptured hfirst hagain
  -- both readings are in the window of the one timestamp
  obtain ⟨t, ht, -, hearly⟩ := hverified.skew
  obtain ⟨t', ht', hlate, -⟩ := hverified'.skew
  rw [ht] at ht'
  cases ht'
  obtain ⟨n, hn, rfl⟩ := headerTimestamp_representable ht
  simp only [authenticator] at hearly hlate
  have hfirstClock := htimed.1 first (by simp)
  have hagainClock := htimed.1 again (by simp)
  have := hfirstClock.checked
  have := hfirstClock.acked
  have := hfirstClock.expiry
  have := hfirstClock.stored
  have := hagainClock.checked
  have := hagainClock.span
  refine ⟨by omega, n, body, task, hn, hserves, ?_⟩
  rcases max_choice 0 (seconds app.settings.commandNonceTtlSeconds - δ) with hmax | hmax
  · rw [hmax]
    omega
  · rw [hmax]
    omega

/-- A command of the orchestrator with timestamp `t`. -/
def command (app : AgentRuntime Sig) (t : Int) (body : List UInt8) : RawRequest Sig :=
  let auth := buildCommandHeaders app.crypto "AAAAAAAAAAAAAAAAAAAAAA"
    app.settings.tomirisOrchestratorId app.settings.tomirisAgentId
    app.settings.tomirisOrchestratorCommandKeyId app.settings.tomirisOrchestratorCommandSecret body
    t none
  { contentLength := none
    chunks := [body]
    orchestratorId := some auth.orchestratorId
    timestamp := some auth.timestamp
    nonce := some auth.nonce
    keyId := some auth.keyId
    signature := some auth.signature }

/-- It is admitted at every reading in the window, the ends included. -/
theorem prepare_command {app : AgentRuntime Sig} {t : Int} {body : List UInt8} {task : ValidTask}
    (ht : representable t = true) (hs : app.Serves body task) (clock : Readings)
    (hold : clock.verified - t * second ≤ seconds app.settings.commandMaxClockSkewSeconds)
    (hfuture : -seconds app.settings.commandMaxClockSkewSeconds ≤ clock.verified - t * second)
    (hdeadline : clock.checked < task.val.deadline) :
    ∃ sub, app.prepare clock (app.command t body) = .ok (task, sub) := by
  -- every step of the endpoint succeeds on the command
  have hread : readLimitedTaskBody (app.command t body) app.settings.maxTaskRequestBytes =
      .ok body := by
    have hfits := hs.body_fits
    simp [readLimitedTaskBody, command, collectChunks, hfits]
  have hnonce : isNonce "AAAAAAAAAAAAAAAAAAAAAA" = true := by decide
  have hverify : app.authenticator.verify app.crypto clock.verified
      (buildCommandHeaders app.crypto "AAAAAAAAAAAAAAAAAAAAAA" app.settings.tomirisOrchestratorId
        app.settings.tomirisAgentId app.settings.tomirisOrchestratorCommandKeyId
        app.settings.tomirisOrchestratorCommandSecret body t none) body = .ok () :=
    command_verify_ok_iff.mpr ⟨rfl, rfl, hnonce, ⟨t * second,
      headerTimestamp_toString ht, hold, hfuture⟩, rfl⟩
  have hcheck : app.checkTask clock task.val = .ok ⟨task.val.taskId,
      app.settings.tomirisAgentId, clock.acked, app.settings.runtimeVersion⟩ := by
    unfold checkTask
    rw [if_neg (not_not.mpr hs.agent), if_neg (not_le.mpr hdeadline),
      if_neg (not_not.mpr hs.capability), if_neg (not_not.mpr hs.asset),
      if_neg (by simp [hs.version])]
  have hauth : (app.command t body).authHeaders = some (buildCommandHeaders app.crypto
      "AAAAAAAAAAAAAAAAAAAAAA" app.settings.tomirisOrchestratorId app.settings.tomirisAgentId
      app.settings.tomirisOrchestratorCommandKeyId app.settings.tomirisOrchestratorCommandSecret
      body t none) := rfl
  unfold prepare
  simp only [hread, hauth, hverify, hs.parsed, hcheck]
  exact ⟨_, rfl⟩

/-- A command that is accepted at the start of its window is accepted again once its nonce is
    forgotten, if that happens in the window. -/
theorem replay_of_ttl {app : AgentRuntime Sig} {δ : Nat} {t : Int} {body : List UInt8}
    {task : ValidTask} (hs : app.Servable δ t body task)
    (httl : seconds app.settings.commandNonceTtlSeconds ≤
      2 * seconds app.settings.commandMaxClockSkewSeconds + δ) : ¬ app.NoReplay δ := by
  intro hno
  have hskew : 0 ≤ seconds app.settings.commandMaxClockSkewSeconds :=
    Int.le_of_lt (seconds_pos app.settings_valid.skew.1)
  have hdeadline := hs.deadline
  obtain ⟨start, hstart⟩ : ∃ start, start =
    t * second - seconds app.settings.commandMaxClockSkewSeconds := ⟨_, rfl⟩
  obtain ⟨stop, hstop⟩ : ∃ stop, stop =
    start + max 0 (seconds app.settings.commandNonceTtlSeconds - δ) := ⟨_, rfl⟩
  obtain ⟨sub, hprepare⟩ := prepare_command hs.representable hs.serves
    ⟨start, start, start, start, start⟩
    (by simp only; omega) (by simp only; omega) (by simp only; omega)
  obtain ⟨sub', hprepare'⟩ := prepare_command hs.representable hs.serves
    ⟨stop, stop, stop, stop, stop + δ⟩
    (by simp only; omega) (by simp only; omega) (by simp only; omega)
  have hfirst : ((({} : RuntimeTaskStore)).accept sub).2 ≠ .error .commandReplay :=
    accept_expired (by simp)
  refine hno [] (⟨start, start, start, start, start⟩, app.command t body) []
    (⟨stop, stop, stop, stop, stop + δ⟩, app.command t body) ?_ rfl
    ⟨task, sub, hprepare, hfirst⟩ ⟨task, sub', hprepare', ?_⟩
  · refine ⟨?_, ?_⟩
    · intro call hcall
      simp only [List.nil_append, List.mem_cons, List.not_mem_nil, or_false] at hcall
      rcases hcall with rfl | rfl
      · exact ⟨Int.le_refl _, Int.le_refl _, Int.le_refl _, Int.le_refl _, by simp⟩
      · exact ⟨Int.le_refl _, Int.le_refl _, Int.le_refl _, by simp, Int.le_refl _⟩
    · simp
      omega
  · -- by then the only nonce in the store has expired
    refine accept_expired ?_
    intro entry hentry
    have hserved : app.serve {} ([] ++ (⟨start, start, start, start, start⟩,
        app.command t body) :: []) = (({} : RuntimeTaskStore).accept sub).1 :=
      analyze_admitted hprepare
    rw [hserved] at hentry
    obtain ⟨_, _, _, hadmitted⟩ := prepare_ok hprepare
    obtain ⟨_, _, _, hadmitted'⟩ := prepare_ok hprepare'
    rcases mem_accept_nonces hentry with hnil | rfl
    · cases hnil
    · have hexpiry := hadmitted.expiry
      have hnow := hadmitted'.now
      simp only at hexpiry hnow
      rw [hexpiry, hnow]
      omega

end AgentRuntime

/-- No captured command is ever accepted twice by a runtime process, exactly if its nonces outlive
    the window of a timestamp, `2 * skew` and what `verify` and `accept` may be apart, or if there
    is no task body that it serves at all up to the end of a nonce. -/
theorem no_replay_iff {Sig : Type} [DecidableEq Sig] (app : AgentRuntime Sig) (δ : Nat) :
    app.NoReplay δ ↔
      2 * seconds app.settings.commandMaxClockSkewSeconds + δ <
        seconds app.settings.commandNonceTtlSeconds ∨
      ∀ t body task, ¬ app.Servable δ t body task := by
  constructor
  · intro hno
    -- too short a lifetime replays any body that is served
    by_cases httl : 2 * seconds app.settings.commandMaxClockSkewSeconds + δ <
        seconds app.settings.commandNonceTtlSeconds
    · exact .inl httl
    · refine .inr fun t body task hs => ?_
      exact AgentRuntime.replay_of_ttl hs (by omega) hno
  -- what is accepted twice was served within the skew around two times
  · intro hcond before first between again htimed hcaptured hfirst hagain
    obtain ⟨httl, t, body, task, hs⟩ :=
      AgentRuntime.servable_of_twice htimed hcaptured hfirst hagain
    rcases hcond with hlong | hnone
    · omega
    · exact hnone t body task hs

namespace Deployment

/-- The task `200` of agent `ALPHA`, created at second 0. -/
def alphaTask : AnalysisTaskRequest where
  protocolVersion := "1.0"
  taskId := 200
  orchestrationRunId := 100
  snapshotId := 300
  agentId := "ALPHA"
  asset := "BTCUSDT"
  requiredCapability := "technical_analysis"
  priority := 50
  createdAt := 0
  deadline := seconds 300
  correlationId := 100
  causationId := none
  context := .mapping []

/-- The task passes its validators. -/
theorem alphaTask_valid : alphaTask.Valid := by decide +kernel

/-- Settings in their ranges: the nonces live as long as one side of the window. -/
def forgetfulSettings : AgentRuntimeSettings where
  tomirisAgentId := "ALPHA"
  tomirisAgentRole := "technical"
  tomirisAgentCapabilities := "technical_analysis"
  tomirisAgentSupportedAssets := "BTCUSDT"
  tomirisHubUrl := "https://hub"
  tomirisHubAgentSecret := "the-derived-hub-secret-of-the-alpha-agent"
  tomirisOrchestratorCommandSecret := "the-derived-command-secret-of-the-alpha-agent"
  commandMaxClockSkewSeconds := 60
  commandNonceTtlSeconds := 60

/-- The body of the command for `alphaTask`. -/
def alphaBody : List UInt8 := alphaTask.json jsonFloat

/-- A runtime with them, which parses the body of `alphaTask`. -/
def forgetful : AgentRuntime (String × String) where
  settings := forgetfulSettings
  crypto := terms
  modelValidateJson := fun body =>
    if body = alphaBody then some ⟨alphaTask, alphaTask_valid⟩ else none
  settings_valid :=
    { agent := by decide
      role := by decide
      orchestrator := by decide
      command_key := by decide
      skew := by decide
      nonce_ttl := by decide
      request_bytes := by decide
      hub_secret := by decide
      command_secret := by decide
      secrets_differ := by decide
      hub_url := .inr (by decide +kernel) }

/-- Its body is parsed. -/
theorem forgetful_parses :
    forgetful.modelValidateJson alphaBody = some ⟨alphaTask, alphaTask_valid⟩ := by
  simp [forgetful]

/-- And is within the limit. -/
theorem alphaBody_fits : alphaBody.length ≤ forgetful.settings.maxTaskRequestBytes := by
  decide +kernel

/-- So the command can be served. -/
theorem forgetful_servable : forgetful.Servable 0 0 alphaBody ⟨alphaTask, alphaTask_valid⟩ where
  representable := by decide
  serves :=
    { body_fits := alphaBody_fits
      parsed := forgetful_parses
      agent := rfl
      capability := by decide +kernel
      asset := by decide +kernel
      version := by decide }
  deadline := by decide +kernel

end Deployment

open Deployment in
/-- The command is accepted 60 s before its timestamp, and at its timestamp again. -/
theorem command_accepted_twice :
    ¬ ∀ (Sig : Type) (_ : DecidableEq Sig) (app : AgentRuntime Sig), app.NoReplay 0 := by
  intro hclaim
  have httl : seconds forgetful.settings.commandNonceTtlSeconds ≤
      2 * seconds forgetful.settings.commandMaxClockSkewSeconds + (0 : Nat) := by
    decide
  exact AgentRuntime.replay_of_ttl forgetful_servable httl (hclaim _ inferInstance forgetful)

end Tomiris
