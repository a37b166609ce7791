import Mathlib.Data.List.DropRight
import Tomiris.Common.Http
import Tomiris.Orchestrator.Dispatch

/-!
# The dispatch client

`EndpointValidator.validate` and `AgentDispatchClient.dispatch`: what becomes of one command
that goes out to an agent runtime. What the client asks of the standard library and of the
network is an argument, so that both functions say which answers come back as a
`DispatchResult` and which ones raise.
-/

namespace Tomiris

/-! ## Endpoint security -/

/-- What `urlsplit` reads from a URL. -/
structure SplitResult where
  scheme : String := ""
  username : Option String := none
  password : Option String := none
  hostname : Option String := none
  port : Option Nat := none
  path : String := ""
  query : String := ""
  fragment : String := ""

/-- The classification of an address by `ipaddress.ip_address`. -/
structure IPAddress where
  isPrivate : Bool := false
  isLoopback : Bool := false
  isLinkLocal : Bool := false
  isMulticast : Bool := false
  isReserved : Bool := false
  isUnspecified : Bool := false

/-- `_is_public`. -/
def isPublic (ip : IPAddress) : Bool :=
  !(ip.isPrivate || ip.isLoopback || ip.isLinkLocal || ip.isMulticast || ip.isReserved ||
    ip.isUnspecified)

/-- `EndpointSecurityError`. -/
structure EndpointSecurityError where
  code : String
  detail : String

/-- What an `AddressResolver` raises. -/
inductive ResolverError where
  | osError
  /-- Anything else, such as the `UnicodeError` of a host name with an empty label. -/
  | other

/-- What escapes `AgentDispatchClient.dispatch`. -/
inductive DispatchError where
  /-- The resolver raised something that is no `OSError`. -/
  | resolver
  /-- `ip_address` cannot read a resolved address. -/
  | address
  /-- The `ValidationError` of an `AnalysisTaskRequest`. -/
  | request
  /-- An `httpx` exception that is neither a timeout nor a network error. -/
  | http
  /-- `response.json` raised something that is no `ValueError` and no `TypeError`. -/
  | body
deriving DecidableEq

/-- What `validate` raises. -/
inductive EndpointFailure where
  | security (e : EndpointSecurityError)
  | escapes (e : DispatchError)

/-- `EndpointValidator`, with the suffixes as its constructor normalised them. -/
structure EndpointValidator where
  allowedHostSuffixes : List String

/-- An answer of the agent runtime. -/
inductive ResponseBody where
  /-- It validates as an `AnalysisTaskAck`. -/
  | ack (a : AnalysisTaskAck)
  /-- Reading it raises a `ValueError` or a `TypeError`. -/
  | invalid
  /-- Reading it raises anything else, such as the `RecursionError` of a deep nesting. -/
  | unreadable

structure Response where
  statusCode : Nat
  body : ResponseBody

/-- The library and network functions that one call of the client uses. -/
structure Network where
  /-- `urlsplit` with its `port`; `none` is a `ValueError`. -/
  urlsplit : String → Option SplitResult
  resolver : String → Nat → Except ResolverError (List String)
  /-- `ip_address`; `none` is a `ValueError`. -/
  ipAddress : String → Option IPAddress
  /-- `get_secret_for_agent`. -/
  secret : String → Option String
  post : String → AnalysisTaskRequest → Except HttpError Response
  latencyMs : Rat := 0

namespace EndpointValidator

/-- `EndpointSecurityError("AGENT_ENDPOINT_FORBIDDEN", detail)`. -/
def forbidden (detail : String) : EndpointFailure :=
  .security ⟨"AGENT_ENDPOINT_FORBIDDEN", detail⟩

/-- `s.rstrip(c)`. -/
def rstrip (c : Char) (s : String) : String := String.ofList (s.toList.rdropWhile (· == c))

/-- `any(not _is_public(address) for address in addresses)`, which stops at the first hit. -/
def anyNotPublic (net : Network) : List String → Except EndpointFailure Bool
  | [] => .ok false
  | address :: rest =>
    match net.ipAddress address with
    | none => .error (.escapes .address)
    | some ip => if isPublic ip then anyNotPublic net rest else .ok true

/-- The allowlist: a suffix itself, or a name below it. -/
def hostAllowed (v : EndpointValidator) (host : String) : Bool :=
  v.allowedHostSuffixes.any fun suffix =>
    host == suffix || ("." ++ suffix).toList.isSuffixOf host.toList

/-- The resolved addresses of a production host are public. -/
def checkAddresses (net : Network) (host : String) (port : Option Nat) :
    Except EndpointFailure Unit :=
  -- `port or 443`: port 0 is replaced as well
  match net.resolver host (if port.getD 0 = 0 then 443 else port.getD 0) with
  | .error .osError =>
    .error (.security ⟨"AGENT_UNAVAILABLE", "endpoint DNS resolution failed"⟩)
  | .error .other => .error (.escapes .resolver)
  | .ok addresses =>
    match anyNotPublic net addresses with
    | .error e => .error e
    | .ok notPublic =>
      if addresses.isEmpty || notPublic then
        .error (forbidden "DNS resolved to a non-public address")
      else .ok ()

/-- The host that the checks look at. -/
def hostOf (parsed : SplitResult) : String := rstrip '.' (parsed.hostname.getD "").toLower

/-- The first rule that a URL breaks, before any name is resolved. -/
def brokenRule (v : EndpointValidator) (parsed : SplitResult) (environment : String) :
    Option String :=
  if ¬(parsed.scheme = "http" ∨ parsed.scheme = "https") ∨ parsed.hostname.getD "" = "" then
    some "HTTP(S) endpoint required"
  else if parsed.username.isSome ∨ parsed.password.isSome then
    some "credentials in URL are forbidden"
  else if parsed.query ≠ "" ∨ parsed.fragment ≠ "" then some "query and fragment are forbidden"
  else if parsed.path ≠ "" ∧ parsed.path ≠ "/" then some "endpoint must be an origin URL"
  else if environment = "PRODUCTION" then
    if parsed.scheme ≠ "https" then some "production requires HTTPS"
    else if v.hostAllowed (hostOf parsed) = false then some "host is outside the allowlist"
    else none
  else if hostOf parsed ∉ ["localhost", "127.0.0.1", "::1"] ∧ parsed.scheme ≠ "https" then
    some "development HTTP is localhost-only"
  else none

/-- `EndpointValidator.validate`. -/
def validate (v : EndpointValidator) (net : Network) (endpointUrl environment : String) :
    Except EndpointFailure String :=
  match net.urlsplit endpointUrl with
  | none => .error (forbidden "malformed endpoint URL")
  | some parsed =>
    match v.brokenRule parsed environment with
    | some detail => .error (forbidden detail)
    | none =>
      -- only a production host is resolved
      match if environment = "PRODUCTION" then checkAddresses net (hostOf parsed) parsed.port
          else .ok () with
      | .error e => .error e
      | .ok () => .ok (rstrip '/' endpointUrl)

end EndpointValidator

/-! ## Sending one command -/

structure AgentDispatchClient where
  endpointValidator : EndpointValidator

namespace AgentDispatchClient

/-- `DispatchResult(PERMANENT, code)`. -/
def rejected (code : String) (latencyMs : Option Rat := none) : DispatchResult where
  disposition := .permanent
  errorCode := some code
  latencyMs := latencyMs

/-- The status codes that `dispatch` retries. -/
def retryableStatus (code : Nat) : Bool := code == 429 || [500, 502, 503, 504].contains code

/-- The part of `dispatch` after an answer has come back. -/
def readResponse (c : DispatchCommand) (latencyMs : Rat) (response : Response) :
    Except DispatchError DispatchResult :=
  if response.statusCode = 202 then
    match response.body with
    | .unreadable => .error .body
    | .invalid => .ok (rejected "AGENT_INVALID_ACK" latencyMs)
    | .ack ack =>
      if ack.taskId ≠ c.taskId ∨ ack.agentId ≠ c.agentId then
        .ok (rejected "AGENT_INVALID_ACK" latencyMs)
      else .ok { disposition := .acknowledged, ack := some ack, latencyMs := some latencyMs }
  else if retryableStatus response.statusCode then
    .ok { disposition := .retryable
          errorCode := some ("AGENT_HTTP_" ++ toString response.statusCode)
          latencyMs := some latencyMs }
  else if response.statusCode = 401 ∨ response.statusCode = 403 then
    .ok (rejected "AGENT_AUTH_FAILED" latencyMs)
  else .ok (rejected "AGENT_REJECTED" latencyMs)

/-- `AgentDispatchClient.dispatch`. The timestamp and the signature only enter the headers. -/
def dispatch (client : AgentDispatchClient) (net : Network) (c : DispatchCommand) :
    Except DispatchError DispatchResult :=
  match client.endpointValidator.validate net c.endpointUrl c.endpointEnvironment with
  | .error (.security e) => .ok (rejected e.code)
  | .error (.escapes e) => .error e
  | .ok endpoint =>
    match net.secret c.agentId with
    | none => .ok (rejected "AGENT_AUTH_FAILED")
    | some _ =>
      if c.request.Valid then
        match net.post (endpoint ++ "/v1/analyze") c.request with
        | .error .timeout | .error .network =>
          .ok { disposition := .retryable, errorCode := some "AGENT_ACK_TIMEOUT" }
        | .error .other => .error .http
        | .ok response => readResponse c net.latencyMs response
      -- the request is built outside of any `try`
      else .error .request

end AgentDispatchClient

end Tomiris
